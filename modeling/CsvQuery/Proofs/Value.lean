import CsvQuery.Proofs.Expr.Equality
import Mathlib.Data.List.Induction
import Mathlib.Data.Nat.Digits.Defs

/-!
What cells stand for. A cell is an integer exactly if it is a sign, which may be missing, and
decimal digits that denote one in the range. Printing a value of a cell and reading it as a cell
again gives the same value.
-/

namespace CsvQuery

/-! ### Texts of an integer -/

namespace Integer

def IsDigits (cs : List Char) : Prop :=
  cs ≠ [] ∧ ∀ c ∈ cs, '0' ≤ c ∧ c ≤ '9'

/-- The number that decimal digits denote, the last of them counting the ones. -/
def decimal (digits : List Char) : Nat :=
  Nat.ofDigits 10 (digits.reverse.map fun c => c.toNat - '0'.toNat)

/-- The characters are digits, perhaps with a sign in front, and denote the integer. -/
inductive Spells : List Char → Int → Prop
  | bare {digits : List Char} (h : IsDigits digits) : Spells digits (decimal digits)
  | plus {digits : List Char} (h : IsDigits digits) : Spells ('+' :: digits) (decimal digits)
  | minus {digits : List Char} (h : IsDigits digits) : Spells ('-' :: digits) (-decimal digits)

lemma ofDigitChars_eq_decimal (digits : List Char) :
    Nat.ofDigitChars 10 digits 0 = decimal digits := by
  induction digits using List.reverseRecOn with
  | nil => rfl
  | append_singleton digits c ih =>
    rw [Nat.ofDigitChars_append, ih, decimal, decimal, List.reverse_concat, List.map_cons,
      Nat.ofDigits_cons, Nat.ofDigitChars_cons, Nat.ofDigitChars_nil]
    exact Nat.add_comm _ _

lemma isDigit_iff (c : Char) : c.isDigit = true ↔ '0' ≤ c ∧ c ≤ '9' := by
  rw [Char.isDigit, Bool.and_eq_true, decide_eq_true_iff, decide_eq_true_iff]
  rfl

lemma natural?_eq_some_iff {digits : List Char} {n : Nat} :
    natural? digits = some n ↔ IsDigits digits ∧ n = decimal digits := by
  have hdigits : (digits.isEmpty || digits.any fun c => !c.isDigit) = false ↔ IsDigits digits := by
    simp [IsDigits, isDigit_iff]
  rw [natural?, ofDigitChars_eq_decimal]
  split
  · rename_i hno
    simp [← hdigits, hno]
  · rename_i hyes
    simp [← hdigits, Bool.eq_false_of_not_eq_true hyes, eq_comm]

lemma inRange?_eq_some_iff {m n : Int} :
    inRange? m = some n ↔ m = n ∧ least ≤ n ∧ n ≤ greatest := by
  rw [inRange?]
  split
  · rename_i hm
    rw [Option.some.injEq]
    exact ⟨fun h => ⟨h, h ▸ hm⟩, And.left⟩
  · rename_i hm
    refine iff_of_false (by simp) ?_
    rintro ⟨rfl, hn⟩
    exact hm hn

lemma ofChars?_of_isDigits {digits : List Char} (h : IsDigits digits) :
    ofChars? digits = inRange? (decimal digits) := by
  have hread : natural? digits = some (decimal digits) := natural?_eq_some_iff.mpr ⟨h, rfl⟩
  unfold ofChars?
  split
  · exact absurd (h.2 '-' List.mem_cons_self).1 (by decide)
  · exact absurd (h.2 '+' List.mem_cons_self).1 (by decide)
  · rw [hread]
    rfl

/-- **What is read as an integer**: the texts that spell one in the range. -/
theorem ofChars?_eq_some_iff {cs : List Char} {n : Int} :
    ofChars? cs = some n ↔ Spells cs n ∧ least ≤ n ∧ n ≤ greatest := by
  constructor
  · intro h
    unfold ofChars? at h
    split at h
    all_goals
      obtain ⟨k, hk, hn⟩ := Option.bind_eq_some_iff.mp h
      obtain ⟨hdigits, rfl⟩ := natural?_eq_some_iff.mp hk
      obtain ⟨rfl, hrange⟩ := inRange?_eq_some_iff.mp hn
    · exact ⟨.minus hdigits, hrange⟩
    · exact ⟨.plus hdigits, hrange⟩
    · exact ⟨.bare hdigits, hrange⟩
  · rintro ⟨hspells, hrange⟩
    have hself : inRange? n = some n := inRange?_eq_some_iff.mpr ⟨rfl, hrange⟩
    cases hspells with
    | bare hdigits => rw [ofChars?_of_isDigits hdigits, hself]
    | plus hdigits =>
      rw [ofChars?, natural?_eq_some_iff.mpr ⟨hdigits, rfl⟩, Option.bind_some, hself]
    | minus hdigits =>
      rw [ofChars?, natural?_eq_some_iff.mpr ⟨hdigits, rfl⟩, Option.bind_some, hself]

end Integer

/-! ### Cells -/

namespace Value

lemma ofCell_eq_integer_iff {s : String} {n : Int} :
    ofCell s = .integer n ↔ Integer.ofText? s = some n := by
  rw [ofCell]
  cases Integer.ofText? s <;> simp

lemma ofCell_eq_text_iff {s : String} : ofCell s = .text s ↔ Integer.ofText? s = none := by
  rw [ofCell]
  cases Integer.ofText? s <;> simp

lemma ofCell_display_ofCell (s : String) : ofCell (ofCell s).display = ofCell s := by
  cases hs : Integer.ofText? s with
  | some n =>
    rw [display_ofCell_of_some hs, ofCell_eq_integer_iff.mpr hs, ofCell_eq_integer_iff]
    exact Integer.ofText?_toString_of_ofText? hs
  | none => rw [display_ofCell_of_none hs]

/-- **Cells have one meaning, and values of cells one text.** A cell is an integer `n` if and only
if it is digits, perhaps with a sign in front, that denote `n`, and `n` lies in the range; every
other cell is its own text. The text that is printed for an integer of the range is read as the
integer, so different integers are printed differently; and what is printed for the value of a cell
is read as the same value. -/
theorem ofCell_canonical :
    (∀ s n, ofCell s = .integer n ↔
      Integer.Spells s.toList n ∧ Integer.least ≤ n ∧ n ≤ Integer.greatest) ∧
    (∀ s, ofCell s = .text s ↔
      ¬∃ n, Integer.Spells s.toList n ∧ Integer.least ≤ n ∧ n ≤ Integer.greatest) ∧
    (∀ n, Integer.least ≤ n → n ≤ Integer.greatest → ofCell (integer n).display = .integer n) ∧
    (∀ m n, (integer m).display = (integer n).display ↔ m = n) ∧
    ∀ s, ofCell (ofCell s).display = ofCell s := by
  have hreads : ∀ s n, Integer.ofText? s = some n ↔
      Integer.Spells s.toList n ∧ Integer.least ≤ n ∧ n ≤ Integer.greatest :=
    fun s n => Integer.ofChars?_eq_some_iff
  refine ⟨fun s n => ?_, fun s => ?_, fun n hleast hgreatest => ?_, fun m n => ?_,
    ofCell_display_ofCell⟩
  · rw [ofCell_eq_integer_iff, hreads]
  · rw [ofCell_eq_text_iff, Option.eq_none_iff_forall_ne_some, ← not_exists]
    simp only [hreads]
  · rw [ofCell_eq_integer_iff, display, Integer.ofText?_toString, Integer.inRange?_eq_some_iff]
    exact ⟨rfl, hleast, hgreatest⟩
  · exact Integer.toString_inj

theorem ofCell_canonical_least :
    Integer.Spells "-00".toList 0 ∧ ofCell "-00" = .integer 0 ∧
    Integer.least ≤ Integer.greatest ∧
    (integer Integer.least).display = "-9223372036854775808" ∧
    ofCell "-9223372036854775808" = .integer Integer.least ∧
    ofCell (ofCell "-00").display = .integer 0 := by
  obtain ⟨hinteger, -, hprinted, -, hagain⟩ := ofCell_canonical
  have hdigits : Integer.IsDigits ['0', '0'] := ⟨by decide, by simp⟩
  have hspells : Integer.Spells "-00".toList 0 := .minus hdigits
  have hzero : ofCell "-00" = .integer 0 :=
    (hinteger _ _).mpr ⟨hspells, by decide, by decide⟩
  have hrange : Integer.least ≤ Integer.greatest := by decide
  have hleast : (integer Integer.least).display = "-9223372036854775808" := by decide +kernel
  exact ⟨hspells, hzero, hrange, hleast, hleast ▸ hprinted Integer.least le_rfl hrange,
    (hagain _).trans hzero⟩

end Value

end CsvQuery
