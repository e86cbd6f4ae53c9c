import CsvQuery.Expr.Eval
import CsvQuery.Proofs.Text.Integer

/-!
What equality compares. The operator and IN both compare printed values; two cells are equal values
if they are the same text or two texts of one integer.
-/

namespace CsvQuery

/-- **Values are equal if they are printed alike.** -/
theorem BinaryOp.holds_equal (a b : Value) :
    (compare .equal).holds a b = (a.display == b.display) := by
  cases a with
  | integer m =>
    cases b with
    | integer n =>
      have hprinted : m = n ↔ toString m = toString n := Integer.toString_inj.symm
      rw [Bool.eq_iff_iff, beq_iff_eq]
      exact beq_iff_eq.trans hprinted
    | text t => simp [holds]
  | text s => simp [holds]

lemma Expr.passes_of_eval {e : Expr} {schema : Schema} {r : Row} {v : Value}
    (h : e.eval schema r = .ok v) : e.passes schema r = .ok (v != .integer 0) := by
  have hpasses : e.passes schema r = .ok (Value.ofBool v.holds == Value.ofBool true) := by
    rw [Expr.passes, Expr.truth, h]
    rfl
  rw [hpasses]
  cases v with
  | integer n => by_cases hn : n = 0 <;> simp [Value.holds, Value.ofBool, hn]
  | text s => simp [Value.holds, Value.ofBool]

lemma Expr.passes_of_eval_ofBool {e : Expr} {schema : Schema} {r : Row} {b : Bool}
    (h : e.eval schema r = .ok (Value.ofBool b)) : e.passes schema r = .ok b := by
  rw [passes_of_eval h]
  cases b <;> rfl

def Integer.spelledApart (a b : String) : Bool :=
  a != b && (ofText? a).isSome && ofText? a == ofText? b

namespace Value

variable {a b : String} {m : Int}

lemma display_ofCell_of_some (h : Integer.ofText? a = some m) :
    (ofCell a).display = toString m := by
  rw [ofCell, h]
  rfl

lemma display_ofCell_of_none (h : Integer.ofText? a = none) : (ofCell a).display = a := by
  rw [ofCell, h]
  rfl

lemma display_ofCell_ne (ha : Integer.ofText? a = some m) (hb : Integer.ofText? b = none) :
    (ofCell a).display ≠ (ofCell b).display := by
  rw [display_ofCell_of_some ha, display_ofCell_of_none hb]
  rintro rfl
  rw [Integer.ofText?_toString_of_ofText? ha] at hb
  cases hb

/-- **Cells are equal values if they are the same text or two texts of one integer.** -/
theorem display_ofCell_eq_iff :
    (ofCell a).display = (ofCell b).display ↔ a = b ∨ Integer.spelledApart a b = true := by
  by_cases hab : a = b
  · simp [hab]
  cases ha : Integer.ofText? a with
  | some m =>
    cases hb : Integer.ofText? b with
    | some n =>
      rw [display_ofCell_of_some ha, display_ofCell_of_some hb, Integer.toString_inj]
      simp [Integer.spelledApart, ha, hb, hab]
    | none =>
      have hne := display_ofCell_ne ha hb
      simp [Integer.spelledApart, ha, hb, hab, hne]
  | none =>
    cases hb : Integer.ofText? b with
    | some n =>
      have hne := (display_ofCell_ne hb ha).symm
      simp [Integer.spelledApart, ha, hab, hne]
    | none =>
      rw [display_ofCell_of_none ha, display_ofCell_of_none hb]
      simp [Integer.spelledApart, ha, hab]

end Value

end CsvQuery
