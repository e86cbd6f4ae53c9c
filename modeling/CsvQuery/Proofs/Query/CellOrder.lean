import CsvQuery.Value
import Mathlib.Tactic.Common

/-!
The order of cells. Two cells are compared as integers only if both of them are, so a text may stand
between two integers the other way round than they stand to each other. Nothing else breaks the
order of three cells.
-/

namespace CsvQuery

variable {a b c : String} {m n : Int}

/-! ### Pairs -/

lemma compareCells_of_some (ha : Integer.ofText? a = some m) (hb : Integer.ofText? b = some n) :
    compareCells a b = compare m n := by
  rw [compareCells, ha, hb]

lemma compareCells_of_none_left (ha : Integer.ofText? a = none) :
    compareCells a b = compare a b := by
  rw [compareCells, ha]

lemma compareCells_of_none_right (hb : Integer.ofText? b = none) :
    compareCells a b = compare a b := by
  cases ha : Integer.ofText? a with
  | none => exact compareCells_of_none_left ha
  | some m => rw [compareCells, ha, hb]

lemma exists_ofText?_of_ne (h : compareCells a b ≠ compare a b) :
    (∃ m, Integer.ofText? a = some m) ∧ ∃ n, Integer.ofText? b = some n := by
  refine ⟨Option.ne_none_iff_exists'.mp fun ha => ?_, Option.ne_none_iff_exists'.mp fun hb => ?_⟩
  · exact h (compareCells_of_none_left ha)
  · exact h (compareCells_of_none_right hb)

lemma compareCells_swap (a b : String) : compareCells b a = (compareCells a b).swap := by
  cases ha : Integer.ofText? a with
  | none =>
    rw [compareCells_of_none_left ha, compareCells_of_none_right ha]
    exact Std.OrientedOrd.eq_swap
  | some m =>
    cases hb : Integer.ofText? b with
    | none =>
      rw [compareCells_of_none_left hb, compareCells_of_none_right hb]
      exact Std.OrientedOrd.eq_swap
    | some n =>
      rw [compareCells_of_some ha hb, compareCells_of_some hb ha]
      exact Std.OrientedOrd.eq_swap

instance : Std.OrientedCmp compareCells where
  eq_swap := compareCells_swap _ _

lemma compareCells_eq_of_ne_gt (h : compareCells a b ≠ .gt) (h' : compareCells b a ≠ .gt) :
    compareCells a b = .eq :=
  Std.OrientedCmp.isLE_antisymm (Ordering.isLE_iff_ne_gt.mpr h) (Ordering.isLE_iff_ne_gt.mpr h')

/-! ### Triples -/

/-- The first of three cells is not greater than the second, nor the second than the third, but the
first is greater than the third. -/
def Broken (a b c : String) : Prop :=
  compareCells a b ≠ .gt ∧ compareCells b c ≠ .gt ∧ compareCells a c = .gt

/-- One of three cells is no integer, and the other two are ordered in another way than their
texts. -/
def Torn (a b c : String) : Prop :=
  (Integer.ofText? a = none ∧ compareCells b c ≠ compare b c) ∨
    (Integer.ofText? b = none ∧ compareCells a c ≠ compare a c) ∨
    (Integer.ofText? c = none ∧ compareCells a b ≠ compare a b)

lemma some_or_eq_of_not_torn (h : ¬Torn a b c) :
    (∃ l m n, Integer.ofText? a = some l ∧ Integer.ofText? b = some m ∧
        Integer.ofText? c = some n) ∨
      (compareCells a b = compare a b ∧ compareCells b c = compare b c ∧
        compareCells a c = compare a c) := by
  simp only [Torn, not_or, not_and, not_not] at h
  obtain ⟨hbc, hac, hab⟩ := h
  cases ha : Integer.ofText? a with
  | none => exact .inr ⟨compareCells_of_none_left ha, hbc ha, compareCells_of_none_left ha⟩
  | some l =>
    cases hb : Integer.ofText? b with
    | none => exact .inr ⟨compareCells_of_none_right hb, compareCells_of_none_left hb, hac hb⟩
    | some m =>
      cases hc : Integer.ofText? c with
      | none => exact .inr ⟨hab hc, compareCells_of_none_right hc, compareCells_of_none_right hc⟩
      | some n => exact .inl ⟨l, m, n, rfl, rfl, rfl⟩

lemma compare_ne_gt_trans {α : Type} [Ord α] [Std.TransOrd α] {a b c : α} (hab : compare a b ≠ .gt)
    (hbc : compare b c ≠ .gt) : compare a c ≠ .gt := by
  have hle := Std.TransCmp.isLE_trans (Ordering.isLE_iff_ne_gt.mpr hab)
    (Ordering.isLE_iff_ne_gt.mpr hbc)
  exact Ordering.isLE_iff_ne_gt.mp hle

lemma compareCells_trans (h : ¬Torn a b c) (hab : compareCells a b ≠ .gt)
    (hbc : compareCells b c ≠ .gt) : compareCells a c ≠ .gt := by
  rcases some_or_eq_of_not_torn h with ⟨l, m, n, ha, hb, hc⟩ | ⟨hab', hbc', hac'⟩
  · rw [compareCells_of_some ha hb] at hab
    rw [compareCells_of_some hb hc] at hbc
    rw [compareCells_of_some ha hc]
    exact compare_ne_gt_trans hab hbc
  · rw [hab'] at hab
    rw [hbc'] at hbc
    rw [hac']
    exact compare_ne_gt_trans hab hbc

/-! ### A text between two integers -/

lemma not_lt_append_nul {l l' : List Char} (h : l < l') : ¬l' < l ++ ['\x00'] := by
  induction l generalizing l' with
  | nil =>
    cases l' with
    | nil => simp at h
    | cons c' l' =>
      intro hlt
      rcases List.cons_lt_cons_iff.mp hlt with hlt | ⟨-, hlt⟩
      · exact absurd hlt (Nat.not_lt_zero _)
      · simp at hlt
  | cons c l ih =>
    cases l' with
    | nil => simp at h
    | cons c' l' =>
      intro hlt
      rcases List.cons_lt_cons_iff.mp h with hc | ⟨rfl, hl⟩
      · rcases List.cons_lt_cons_iff.mp hlt with hc' | ⟨rfl, -⟩
        · exact absurd hc (Char.lt_asymm hc')
        · exact absurd hc (Char.lt_irrefl _)
      · rcases List.cons_lt_cons_iff.mp hlt with hc' | ⟨-, hl'⟩
        · exact absurd hc' (Char.lt_irrefl _)
        · exact ih hl hl'

lemma compare_eq_lt_iff : compare a b = .lt ↔ a < b :=
  compareOfLessAndEq_eq_lt

lemma compare_push_nul (a : String) : compare a (a.push '\x00') = .lt := by
  rw [compare_eq_lt_iff, String.lt_iff, String.toList_push]
  induction a.toList with
  | nil => exact List.nil_lt_cons _ _
  | cons c l ih => exact List.cons_lt_cons_iff.mpr (.inr ⟨rfl, ih⟩)

lemma compare_push_nul_ne_gt (h : compare a b = .lt) : compare (a.push '\x00') b ≠ .gt := by
  rw [compare_eq_lt_iff, String.lt_iff] at h
  intro hgt
  have hlt := Std.OrientedCmp.gt_iff_lt.mp hgt
  rw [compare_eq_lt_iff, String.lt_iff, String.toList_push] at hlt
  exact not_lt_append_nul h hlt

lemma natural?_append_nul (l : List Char) : Integer.natural? (l ++ ['\x00']) = none := by
  simp [Integer.natural?]

lemma ofText?_push_nul (a : String) : Integer.ofText? (a.push '\x00') = none := by
  rw [Integer.ofText?, String.toList_push]
  cases a.toList with
  | nil => rfl
  | cons c l =>
    rw [List.cons_append, Integer.ofChars?.eq_def]
    split
    · rename_i hsign
      rw [← (List.cons.inj hsign).2, natural?_append_nul, Option.bind_none]
    · rename_i hsign
      rw [← (List.cons.inj hsign).2, natural?_append_nul, Option.bind_none]
    · rw [← List.cons_append, natural?_append_nul, Option.bind_none]

/-- If two integers are ordered one way and their texts the other way, the least text behind that of
the second one breaks the order. -/
lemma broken_push_nul (ha : Integer.ofText? a = some m) (hle : compareCells a b ≠ .gt)
    (hlt : compare b a = .lt) : Broken a b (b.push '\x00') := by
  have hnone := ofText?_push_nul b
  refine ⟨hle, ?_, ?_⟩
  · rw [compareCells_of_none_right hnone, compare_push_nul]
    decide
  · rw [compareCells_of_none_right hnone, Std.OrientedCmp.gt_iff_lt]
    have hne : compare (b.push '\x00') a ≠ .eq := by
      intro heq
      rw [Std.LawfulEqOrd.eq_of_compare heq, ha] at hnone
      cases hnone
    have hle' := compare_push_nul_ne_gt hlt
    cases hcompare : compare (b.push '\x00') a with
    | lt => rfl
    | eq => exact absurd hcompare hne
    | gt => exact absurd hcompare hle'

lemma exists_broken (h : compareCells a b ≠ compare a b) :
    ∃ c, Integer.ofText? c = none ∧ (Broken a b c ∨ Broken b a c) := by
  obtain ⟨⟨m, hm⟩, n, hn⟩ := exists_ofText?_of_ne h
  cases htexts : compare a b with
  | lt =>
    refine ⟨_, ofText?_push_nul a, .inr (broken_push_nul hn ?_ htexts)⟩
    rw [compareCells_swap, Ne, Ordering.swap_eq_gt]
    rwa [htexts] at h
  | eq =>
    obtain rfl := Std.LawfulEqOrd.eq_of_compare htexts
    rw [htexts] at h
    exact absurd Std.ReflCmp.compare_self h
  | gt =>
    have htexts' := Std.OrientedCmp.gt_iff_lt.mp htexts
    refine ⟨_, ofText?_push_nul b, .inl (broken_push_nul hm ?_ htexts')⟩
    rwa [htexts] at h

lemma not_torn (h : compareCells a b = compare a b) (hc : Integer.ofText? c = none) :
    ¬Torn a b c := by
  rintro (⟨-, hne⟩ | ⟨-, hne⟩ | ⟨-, hne⟩)
  · exact hne (compareCells_of_none_right hc)
  · exact hne (compareCells_of_none_right hc)
  · exact hne h

lemma not_broken (h : ¬Torn a b c) : ¬Broken a b c :=
  fun ⟨hab, hbc, hac⟩ => compareCells_trans h hab hbc hac

/-- **The order of cells.** It is turned round with the cells, and three cells are in order unless
one of them is no integer and the other two are ordered in another way than their texts. Each two
cells ordered in this way have a text with which they break the order, and no other two have. -/
theorem compareCells_preorder (a b c : String) :
    compareCells b a = (compareCells a b).swap ∧
      (¬Torn a b c → compareCells a b ≠ .gt → compareCells b c ≠ .gt → compareCells a c ≠ .gt) ∧
      ((∃ s, Integer.ofText? s = none ∧ (Broken a b s ∨ Broken b a s)) ↔
        compareCells a b ≠ compare a b) := by
  refine ⟨compareCells_swap a b, compareCells_trans, ?_, exists_broken⟩
  rintro ⟨s, hs, hbroken⟩ heq
  have heq' : compareCells b a = compare b a := by
    rw [compareCells_swap, heq]
    exact Std.OrientedOrd.eq_swap.symm
  exact hbroken.elim (not_broken (not_torn heq hs)) (not_broken (not_torn heq' hs))

theorem compareCells_preorder_between :
    ¬Torn "10" "2x" "30" ∧ compareCells "10" "2x" ≠ .gt ∧ compareCells "2x" "30" ≠ .gt ∧
      compareCells "10" "30" ≠ .gt := by
  have htorn : ¬Torn "10" "2x" "30" := by unfold Torn; decide
  have hle : compareCells "10" "2x" ≠ .gt := by decide
  have hle' : compareCells "2x" "30" ≠ .gt := by decide
  obtain ⟨-, htrans, -⟩ := compareCells_preorder "10" "2x" "30"
  exact ⟨htorn, hle, hle', htrans htorn hle hle'⟩

theorem broken_nine_ten :
    compareCells "9" "10" ≠ .gt ∧ compareCells "10" "1a" ≠ .gt ∧ compareCells "9" "1a" = .gt := by
  decide

end CsvQuery
