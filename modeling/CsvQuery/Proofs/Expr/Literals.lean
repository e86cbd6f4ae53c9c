import CsvQuery.Expr.Reader
import CsvQuery.Proofs.Expr.DerivedForms
import CsvQuery.Proofs.Table.Columns
import CsvQuery.Proofs.Token.Faults
import CsvQuery.Table

/-!
Conditions that compare a column with one literal. A number equals exactly the cells that denote
it. A text equals the cells that are printed like it, which are those with that very text as long
as no cell spells an integer in another way than it is printed. There are no negative literals:
the sign in front of the digits starts no token, so the condition is about the digits alone.
-/

namespace CsvQuery

/-! ### Values -/

namespace Value

variable {cell : String} {n : Int}

lemma display_ofCell_eq_toString_iff (hn : Integer.inRange? n = some n) :
    (ofCell cell).display = toString n ↔ Integer.ofText? cell = some n := by
  cases hcell : Integer.ofText? cell with
  | some m => rw [display_ofCell_of_some hcell, Integer.toString_inj, Option.some.injEq]
  | none =>
    rw [display_ofCell_of_none hcell]
    constructor
    · rintro rfl
      rw [Integer.ofText?_toString, hn] at hcell
      cases hcell
    · intro h
      cases h

end Value

namespace Expr

section Columns

variable {schema : Schema} {name : String} {p : Nat}

lemma eval_column (hp : schema.resolve name = .ok p) (r : Row) :
    (column name).eval schema r = .ok (Value.ofCell (r.cell p)) := by
  rw [eval, hp]
  rfl

lemma passes_equal (hp : schema.resolve name = .ok p) (l : Literal) (r : Row) :
    ((column name).comparedTo .equal l).passes schema r =
      .ok ((Value.ofCell (r.cell p)).display == l.value.display) := by
  refine passes_of_eval_ofBool ?_
  rw [comparedTo, eval, eval_column hp, eval, ← BinaryOp.holds_equal]
  rfl

lemma passes_among (hp : schema.resolve name = .ok p) (l : Literal) (r : Row) :
    (among (column name) [l]).passes schema r =
      .ok ((Value.ofCell (r.cell p)).display == l.value.display) := by
  refine passes_of_eval_ofBool ?_
  rw [eval, eval_column hp, BEq.comm, ← Bool.or_false (_ == _)]
  rfl

end Columns

/-! ### Texts -/

section Texts

variable {schema : Schema} {name : String} {p : Nat}

/-- **Text literals match what is printed.** On every row, equality of a column with a text and IN
with that text as its only candidate are true or false together. They are true exactly if the cell
is the text, as long as the cell spells no integer in another way than it is printed; a cell that
denotes an integer matches the text that is printed for it. -/
theorem passes_text (hp : schema.resolve name = .ok p) (r : Row) (t : String) :
    ∃ holds, ((column name).comparedTo .equal (.text t)).passes schema r = .ok holds ∧
      (among (column name) [.text t]).passes schema r = .ok holds ∧
      ((∀ n, Integer.ofText? (r.cell p) = some n → r.cell p = (Value.integer n).display) →
        (holds = true ↔ r.cell p = t)) ∧
      ∀ n, Integer.ofText? (r.cell p) = some n →
        (holds = true ↔ (Value.integer n).display = t) := by
  have hinteger : ∀ n, Integer.ofText? (r.cell p) = some n →
      (((Value.ofCell (r.cell p)).display == t) = true ↔ (Value.integer n).display = t) := by
    intro n hn
    rw [beq_iff_eq, Value.display_ofCell_of_some hn]
    rfl
  refine ⟨_, passes_equal hp (.text t) r, passes_among hp (.text t) r, fun hplain => ?_, hinteger⟩
  cases hcell : Integer.ofText? (r.cell p) with
  | some n =>
    refine (hinteger n hcell).trans ?_
    rw [hplain n hcell]
  | none =>
    rw [beq_iff_eq, Value.display_ofCell_of_none hcell]
    rfl

def zips : Schema :=
  .ofTable "zips" ["zip"]

theorem passes_text_zips :
    zips.resolve "zip" = .ok 0 ∧
    ((column "zip").comparedTo .equal (.text "5b")).passes zips ["5b"] = .ok true ∧
    (among (column "zip") [.text "5"]).passes zips ["05"] = .ok true := by
  have hp : zips.resolve "zip" = .ok 0 := rfl
  obtain ⟨holds, hequal, -, hplain, -⟩ := passes_text hp ["5b"] "5b"
  obtain ⟨holds', -, hamong, -, hinteger⟩ := passes_text hp ["05"] "5"
  have hholds : holds = true := (hplain fun n hn => by cases hn).mpr rfl
  have hholds' : holds' = true := (hinteger 5 rfl).mpr rfl
  exact ⟨hp, hholds ▸ hequal, hholds' ▸ hamong⟩

/-- A padded zip code is not matched by its own text, and it is matched by another one. -/
theorem own_text_not_matched :
    zips.resolve "zip" = .ok 0 ∧ Row.cell ["05"] 0 = "05" ∧
    ((column "zip").comparedTo .equal (.text "05")).passes zips ["05"] = .ok false ∧
    (among (column "zip") [.text "05"]).passes zips ["05"] = .ok false ∧
    ((column "zip").comparedTo .equal (.text "5")).passes zips ["05"] = .ok true ∧
    (among (column "zip") [.text "5"]).passes zips ["05"] = .ok true := by
  decide +kernel

end Texts

/-! ### Integers -/

def ofText (text : String) : Except Error Expr := do
  let tokens ← Token.lex text
  let (e, _) ← read .value 0 tokens
  return e

/-- In every table with the named column only, the condition passes exactly the rows whose cell
denotes the integer. -/
def Selects (e : Expr) (name : String) (n : Int) : Prop :=
  ∀ (t : Table) (r : Row), t.header = [name] →
    e.passes t.schema r = .ok (Integer.ofText? (r.cell 0) == some n)

lemma resolve_of_header {t : Table} {name : String} (h : t.header = [name]) :
    t.schema.resolve name = .ok 0 := by
  simp [Table.schema, Schema.resolve_eq, Schema.named, h]

lemma selects_number {n : Int} (hn : Integer.inRange? n = some n) (name : String) :
    ((column name).comparedTo .equal (.number n)).Selects name n := by
  intro t r ht
  rw [passes_equal (resolve_of_header ht), Except.ok.injEq, Bool.eq_iff_iff, beq_iff_eq, beq_iff_eq]
  exact Value.display_ofCell_eq_toString_iff hn

end Expr

namespace Token

lemma apart_nil : Apart [] := by simp [Apart]

lemma apart_space (tail : List Char) : Apart (' ' :: tail) := by simp [Apart]

lemma lexFrom_digits {m : Nat} (hm : (m : Int) ≤ Integer.greatest) (position : Nat) :
    ∃ stop, lexFrom position (Nat.toDigits 10 m) =
      .ok [⟨number m, position, stop⟩, ⟨eof, stop, stop⟩] := by
  have hlex := lexFrom_written (lexes_number hm) apart_nil position
  rw [List.append_nil, lexFrom_nil] at hlex
  exact ⟨_, hlex⟩

lemma lexFrom_digits_of_lt {m : Nat} (hm : Integer.greatest < m) (position : Nat) :
    lexFrom position (Nat.toDigits 10 m) = .error (.numberTooLarge position) := by
  have hdigit : ∀ c ∈ Nat.toDigits 10 m, c.isDigit = true := fun c hc =>
    Nat.isDigit_of_mem_toDigits (by decide) (by decide) hc
  have hvalue : Nat.ofDigitChars 10 (Nat.toDigits 10 m) 0 = m := Nat.ofDigitChars_ten_toDigits
  cases hcs : Nat.toDigits 10 m with
  | nil => exact absurd hcs (by simp)
  | cons c more =>
    rw [hcs] at hdigit hvalue
    have hc : c.isDigit = true := hdigit c (by simp)
    have hmore : more.takeWhile Char.isDigit = more :=
      List.takeWhile_eq_self_iff.mpr fun c hc => hdigit c (List.mem_cons_of_mem _ hc)
    have hstart := startsToken_of_isDigit hc
    have hscan : scan position c more = .error (.numberTooLarge position) :=
      (scan_eq_error_iff hstart).mpr (.inl ⟨hc, rfl, by rwa [hmore, hvalue]⟩)
    rw [lexFrom, if_pos hstart, hscan]

lemma lex_equals {col : String} (hcol : (identifier col).Writable) (tail : String) :
    lex (col ++ " = " ++ tail) = (lexFrom (col.length + 3) tail.toList).map fun others =>
      ⟨identifier col, 0, col.length⟩ ::
        ⟨comparison .equal, col.length + 1, col.length + 2⟩ :: others := by
  have htext : (col ++ " = " ++ tail).toList =
      col.toList ++ ' ' :: (['='] ++ ' ' :: tail.toList) := by
    simp
  have hname : lexFrom 0 (col.toList ++ ' ' :: (['='] ++ ' ' :: tail.toList)) =
      (lexFrom (col.length + 1) (['='] ++ ' ' :: tail.toList)).map
        (⟨identifier col, 0, col.length⟩ :: ·) := by
    have hlex := lexFrom_written (lexes_spelling hcol) (apart_space (['='] ++ ' ' :: tail.toList)) 0
    rwa [Nat.zero_add, String.length_toList, lexFrom_space] at hlex
  have hsign : lexFrom (col.length + 1) (['='] ++ ' ' :: tail.toList) =
      (lexFrom (col.length + 3) tail.toList).map
        (⟨comparison .equal, col.length + 1, col.length + 2⟩ :: ·) := by
    have hlex := lexFrom_written (lexes_sign .equal) (apart_space tail.toList) (col.length + 1)
    rwa [lexFrom_space] at hlex
  rw [lex, htext, hname, hsign]
  cases lexFrom (col.length + 3) tail.toList <;> rfl

end Token

namespace Expr

variable {col : String} {n : Int}

lemma ofText_equals (hcol : (Token.identifier col).Writable) {tail : String} {m : Int}
    {start stop : Nat} (h : Token.lexFrom (col.length + 3) tail.toList =
      .ok [⟨.number m, start, stop⟩, ⟨.eof, stop, stop⟩]) :
    ofText (col ++ " = " ++ tail) = .ok ((column col).comparedTo .equal (.number m)) := by
  rw [ofText, Token.lex_equals hcol, h]
  rfl

/-- **Number literals have no sign.** Equality of a column with an integer that is not negative
passes exactly the rows whose cell denotes it. The sign of a negative one is skipped like every
character that starts no token: the condition passes the rows whose cell denotes the integer
without its sign, and it is refused where that is too large. -/
theorem ofText_equals_integer (hcol : (Token.identifier col).Writable)
    (hleast : Integer.least ≤ n) (hgreatest : n ≤ Integer.greatest) :
    (0 ≤ n → ∃ e, ofText (col ++ " = " ++ (Value.integer n).display) = .ok e ∧ e.Selects col n) ∧
    (Integer.least < n → n < 0 →
      ∃ e, ofText (col ++ " = " ++ (Value.integer n).display) = .ok e ∧ e.Selects col (-n)) ∧
    (n = Integer.least →
      ofText (col ++ " = " ++ (Value.integer n).display) =
        .error (.numberTooLarge (col.length + 4))) := by
  have hprinted : (Value.integer n).display.toList =
      if 0 ≤ n then Nat.toDigits 10 n.toNat else '-' :: Nat.toDigits 10 (-n).toNat :=
    Integer.toList_toString n
  have hminus : ∀ digits, Token.lexFrom (col.length + 3) ('-' :: digits) =
      Token.lexFrom (col.length + 4) digits :=
    Token.lexFrom_of_not_startsToken _ rfl
  refine ⟨fun hn => ?_, fun hlt hn => ?_, fun hn => ?_⟩
  · have hvalue : (n.toNat : Int) = n := Int.toNat_of_nonneg hn
    obtain ⟨stop, hlex⟩ := Token.lexFrom_digits (hvalue ▸ hgreatest) (col.length + 3)
    rw [if_pos hn] at hprinted
    rw [hvalue, ← hprinted] at hlex
    exact ⟨_, ofText_equals hcol hlex, selects_number (if_pos ⟨hleast, hgreatest⟩) col⟩
  · have hvalue : ((-n).toNat : Int) = -n := Int.toNat_of_nonneg (by omega)
    have hle : -n ≤ Integer.greatest := by
      unfold Integer.least at hlt
      unfold Integer.greatest
      omega
    obtain ⟨stop, hlex⟩ := Token.lexFrom_digits (hvalue ▸ hle) (col.length + 4)
    rw [if_neg (by omega)] at hprinted
    rw [hvalue, ← hminus, ← hprinted] at hlex
    refine ⟨_, ofText_equals hcol hlex, selects_number (if_pos ⟨?_, hle⟩) col⟩
    unfold Integer.least
    omega
  · subst hn
    have hlex :=
      Token.lexFrom_digits_of_lt (m := (-Integer.least).toNat) (by decide) (col.length + 4)
    rw [if_neg (by decide)] at hprinted
    rw [← hminus] at hlex
    rw [ofText, Token.lex_equals hcol, hprinted, hlex]
    rfl

theorem ofText_equals_integer_debts :
    (Token.identifier "debt").Writable ∧ Integer.least ≤ -5 ∧ -5 ≤ Integer.greatest ∧
    ∃ e, ofText ("debt" ++ " = " ++ (Value.integer (-5)).display) = .ok e ∧ e.Selects "debt" 5 := by
  have hcol : (Token.identifier "debt").Writable :=
    ⟨⟨by decide, by decide⟩, fun name hname => by cases hname; simp [Token.RunsOn]⟩
  have hleast : Integer.least ≤ -5 := by decide
  have hgreatest : (-5 : Int) ≤ Integer.greatest := by decide
  obtain ⟨-, hnegative, -⟩ := ofText_equals_integer hcol hleast hgreatest
  exact ⟨hcol, hleast, hgreatest, hnegative (by decide) (by decide)⟩

/-- The condition for -5 is read, and it passes 5 and not -5. -/
theorem negative_not_selected :
    ∃ e, ofText ("debt" ++ " = " ++ (Value.integer (-5)).display) = .ok e ∧
      e.passes (Schema.ofTable "debts" ["debt"]) ["5"] = .ok true ∧
      e.passes (Schema.ofTable "debts" ["debt"]) ["-5"] = .ok false ∧
      Integer.ofText? (Row.cell ["-5"] 0) = some (-5) ∧ ¬e.Selects "debt" (-5) := by
  refine ⟨(column "debt").comparedTo .equal (.number 5), by decide +kernel, by decide +kernel,
    by decide +kernel, by decide +kernel, fun h => ?_⟩
  have hpasses := h ⟨"debts", ["debt"], []⟩ ["5"] rfl
  revert hpasses
  decide +kernel

end Expr

end CsvQuery
