import CsvQuery.Text.Integer
import Mathlib.Tactic.Common

/-!
Integers and their texts. The text that is printed for an integer is read back as the integer if it
lies in the range, and different integers have different texts.
-/

namespace CsvQuery.Integer

/-! ### Digits -/

lemma isDigit_of_toDigits_eq {n : Nat} {c : Char} {digits : List Char}
    (h : Nat.toDigits 10 n = c :: digits) : c.isDigit = true :=
  Nat.isDigit_of_mem_toDigits (by decide) (by decide) (h ▸ List.mem_cons_self)

lemma natural?_toDigits (n : Nat) : natural? (Nat.toDigits 10 n) = some n := by
  have hdigits : (Nat.toDigits 10 n).any (fun c => !c.isDigit) = false := by
    rw [List.any_eq_false]
    intro c hc
    simp [Nat.isDigit_of_mem_toDigits (by decide) (by decide) hc]
  have hne : (Nat.toDigits 10 n).isEmpty = false := by simp
  rw [natural?, hdigits, hne]
  exact congrArg some Nat.ofDigitChars_ten_toDigits

lemma toDigits_inj {m n : Nat} (h : Nat.toDigits 10 m = Nat.toDigits 10 n) : m = n := by
  have hvalues := congrArg natural? h
  rwa [natural?_toDigits, natural?_toDigits, Option.some.injEq] at hvalues

lemma ofChars?_toDigits (n : Nat) : ofChars? (Nat.toDigits 10 n) = inRange? n := by
  unfold ofChars?
  split
  · rename_i hsign
    cases isDigit_of_toDigits_eq hsign
  · rename_i hsign
    cases isDigit_of_toDigits_eq hsign
  · rw [natural?_toDigits]
    rfl

/-! ### Integers -/

lemma toList_toString (n : Int) : (toString n).toList =
    if 0 ≤ n then Nat.toDigits 10 n.toNat else '-' :: Nat.toDigits 10 (-n).toNat := by
  rw [Int.toString_eq_repr, Int.repr_eq_if]
  split <;> simp

/-- **A printed integer is read back if it lies in the range.** -/
theorem ofText?_toString (n : Int) : ofText? (toString n) = inRange? n := by
  rw [ofText?, toList_toString]
  split
  · rename_i hn
    rw [ofChars?_toDigits, Int.toNat_of_nonneg hn]
  · rename_i hn
    have hneg : -((-n).toNat : Int) = n := by omega
    rw [ofChars?, natural?_toDigits, Option.bind_some, hneg]

lemma inRange?_self {n m : Int} (h : inRange? n = some m) : inRange? m = some m := by
  have hm := h
  unfold inRange? at hm
  split at hm
  · cases hm
    exact h
  · cases hm

lemma inRange?_of_ofText? {s : String} {n : Int} (h : ofText? s = some n) :
    inRange? n = some n := by
  unfold ofText? ofChars? at h
  split at h
  all_goals
    obtain ⟨_, -, hn⟩ := Option.bind_eq_some_iff.mp h
    exact inRange?_self hn

lemma ofText?_toString_of_ofText? {s : String} {n : Int} (h : ofText? s = some n) :
    ofText? (toString n) = some n := by
  rw [ofText?_toString, inRange?_of_ofText? h]

/-- **Different integers are printed differently.** -/
theorem toString_inj {m n : Int} : toString m = toString n ↔ m = n := by
  refine ⟨fun h => ?_, fun h => congrArg _ h⟩
  have hchars := congrArg String.toList h
  rw [toList_toString, toList_toString] at hchars
  split at hchars
  · split at hchars
    · have hdigits := toDigits_inj hchars
      omega
    · cases isDigit_of_toDigits_eq hchars
  · split at hchars
    · cases isDigit_of_toDigits_eq hchars.symm
    · have hdigits := toDigits_inj (List.cons.inj hchars).2
      omega

end CsvQuery.Integer
