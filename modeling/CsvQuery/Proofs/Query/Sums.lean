import CsvQuery.Aggregation
import CsvQuery.Proofs.Text.Integer
import Mathlib.Algebra.Order.BigOperators.Group.List
import Mathlib.Algebra.Order.Group.Int
import Mathlib.Algebra.Ring.Int.Defs
import Mathlib.Data.List.Infix

/-!
Sums and means. A sum is brought back into the range of integers after each addition. This is the
same as bringing the exact sum back once if the additions leave the range on one side only and for
good. In every order of the cells they do so if and only if the positive integers alone stay in the
range and the negative ones alone do, or there are not both positive and negative ones.
-/

namespace CsvQuery

namespace Integer

variable {start n : Int} {xs ys : List Int}

/-- The sum from a start, brought back into the range after each addition. -/
def saturate (start : Int) (xs : List Int) : Int :=
  xs.foldl (fun sum x => clamp (sum + x)) start

@[simp] lemma saturate_nil (start : Int) : saturate start [] = start := rfl

@[simp] lemma saturate_cons (start x : Int) (xs : List Int) :
    saturate start (x :: xs) = saturate (clamp (start + x)) xs := rfl

lemma saturate_append (start : Int) (xs ys : List Int) :
    saturate start (xs ++ ys) = saturate (saturate start xs) ys :=
  List.foldl_append

lemma clamp_eq_self (h : least ≤ n) (h' : n ≤ greatest) : clamp n = n := by
  unfold clamp
  omega

lemma least_le_clamp (n : Int) : least ≤ clamp n := by
  unfold clamp least greatest
  omega

lemma clamp_le_greatest (n : Int) : clamp n ≤ greatest := by
  unfold clamp least greatest
  omega

lemma saturate_mem_range (xs : List Int) (hleast : least ≤ start) (hgreatest : start ≤ greatest) :
    least ≤ saturate start xs ∧ saturate start xs ≤ greatest := by
  induction xs generalizing start with
  | nil => exact ⟨hleast, hgreatest⟩
  | cons x xs ih => exact ih (least_le_clamp _) (clamp_le_greatest _)

lemma sum_nonpos (h : ∀ x ∈ xs, x ≤ 0) : xs.sum ≤ 0 := by
  simpa using List.sum_le_card_nsmul xs 0 h

/-- Integers of one sign leave the range on one side only and for good. -/
lemma saturate_of_sign (hsign : (∀ x ∈ xs, 0 ≤ x) ∨ ∀ x ∈ xs, x ≤ 0) (hleast : least ≤ start)
    (hgreatest : start ≤ greatest) : saturate start xs = clamp (start + xs.sum) := by
  induction xs generalizing start with
  | nil => simp [clamp_eq_self hleast hgreatest]
  | cons x xs ih =>
    have hrest : (∀ x ∈ xs, 0 ≤ x) ∨ ∀ x ∈ xs, x ≤ 0 :=
      hsign.imp (fun h y hy => h y (List.mem_cons_of_mem _ hy))
        fun h y hy => h y (List.mem_cons_of_mem _ hy)
    have hsigns : (0 ≤ x ∧ 0 ≤ xs.sum) ∨ (x ≤ 0 ∧ xs.sum ≤ 0) :=
      hsign.imp
        (fun h => ⟨h x (by simp), List.sum_nonneg fun y hy => h y (List.mem_cons_of_mem _ hy)⟩)
        fun h => ⟨h x (by simp), sum_nonpos fun y hy => h y (List.mem_cons_of_mem _ hy)⟩
    rw [saturate_cons, List.sum_cons, ih hrest (least_le_clamp _) (clamp_le_greatest _)]
    unfold clamp least greatest at *
    omega

lemma saturate_of_prefix
    (h : ∀ first, first <+: xs → least ≤ start + first.sum ∧ start + first.sum ≤ greatest) :
    saturate start xs = start + xs.sum := by
  induction xs generalizing start with
  | nil => simp
  | cons x xs ih =>
    obtain ⟨hleast, hgreatest⟩ := h [x] (List.prefix_append [x] xs)
    rw [List.sum_singleton] at hleast hgreatest
    rw [saturate_cons, clamp_eq_self hleast hgreatest, List.sum_cons, ← Int.add_assoc]
    refine ih fun first hfirst => ?_
    have hnext := h (x :: first) ((List.prefix_cons_inj x).mpr hfirst)
    rwa [List.sum_cons, ← Int.add_assoc] at hnext

end Integer

namespace Aggregate

open Integer

variable {cells cells' before behind : List String}

def total (cells : List String) : Int :=
  (cells.map addend).sum

/-- The exact sum of the integers that are not negative. -/
def gains (cells : List String) : Int :=
  total (cells.filter (0 ≤ addend ·))

def losses (cells : List String) : Int :=
  total (cells.filter (addend · < 0))

/-- No partial sum leaves the range. -/
def Contained (cells : List String) : Prop :=
  ∀ first, first <+: cells → least ≤ total first ∧ total first ≤ greatest

/-- There are not both positive and negative integers. -/
def OneSigned (cells : List String) : Prop :=
  (∀ cell ∈ cells, 0 ≤ addend cell) ∨ ∀ cell ∈ cells, addend cell ≤ 0

/-- There are not both positive and negative integers, or neither the positive nor the negative ones
leave the range. -/
def Balanced (cells : List String) : Prop :=
  OneSigned cells ∨ (least ≤ losses cells ∧ gains cells ≤ greatest)

/-! ### Totals -/

lemma total_append (cells cells' : List String) :
    total (cells ++ cells') = total cells + total cells' := by
  simp [total]

lemma total_perm (h : cells'.Perm cells) : total cells' = total cells :=
  (h.map addend).sum_eq

lemma gains_append (cells cells' : List String) :
    gains (cells ++ cells') = gains cells + gains cells' := by
  rw [gains, List.filter_append, total_append, gains, gains]

lemma losses_append (cells cells' : List String) :
    losses (cells ++ cells') = losses cells + losses cells' := by
  rw [losses, List.filter_append, total_append, losses, losses]

lemma gains_nonneg (cells : List String) : 0 ≤ gains cells := by
  refine List.sum_nonneg fun x hx => ?_
  obtain ⟨cell, hcell, rfl⟩ := List.mem_map.mp hx
  simpa using (List.mem_filter.mp hcell).2

lemma losses_nonpos (cells : List String) : losses cells ≤ 0 := by
  refine sum_nonpos fun x hx => ?_
  obtain ⟨cell, hcell, rfl⟩ := List.mem_map.mp hx
  exact le_of_lt (by simpa using (List.mem_filter.mp hcell).2)

lemma filter_append_filter_perm (cells : List String) :
    (cells.filter (0 ≤ addend ·) ++ cells.filter (addend · < 0)).Perm cells := by
  have hneg : cells.filter (addend · < 0) = cells.filter fun cell => !decide (0 ≤ addend cell) :=
    List.filter_congr fun cell _ => by rw [← decide_not, decide_eq_decide, Int.not_le]
  rw [hneg]
  exact List.filter_append_perm _ _

lemma total_eq (cells : List String) : total cells = gains cells + losses cells := by
  rw [← total_perm (filter_append_filter_perm cells), total_append]
  rfl

/-! ### Sums -/

lemma sumCells_eq (cells : List String) : sumCells cells = saturate 0 (cells.map addend) := by
  rw [sumCells, saturate, List.foldl_map]

lemma OneSigned.addends (h : OneSigned cells) :
    (∀ x ∈ cells.map addend, 0 ≤ x) ∨ ∀ x ∈ cells.map addend, x ≤ 0 := by
  simpa [OneSigned] using h

lemma sumCells_of_contained (h : Contained cells) : sumCells cells = total cells := by
  rw [sumCells_eq, saturate_of_prefix, Int.zero_add]
  · rfl
  · intro first hfirst
    obtain ⟨first', hfirst', rfl⟩ := List.prefix_map_iff.mp hfirst
    rw [Int.zero_add]
    exact h first' hfirst'

lemma sumCells_append (before : List String) (h : OneSigned behind) :
    sumCells (before ++ behind) = clamp (sumCells before + total behind) := by
  have hzero : least ≤ 0 ∧ 0 ≤ greatest := by decide
  obtain ⟨hleast, hgreatest⟩ := saturate_mem_range (before.map addend) hzero.1 hzero.2
  rw [sumCells_eq, List.map_append, saturate_append, saturate_of_sign h.addends hleast hgreatest,
    sumCells_eq]
  rfl

lemma sumCells_of_oneSigned (h : OneSigned cells) : sumCells cells = clamp (total cells) := by
  have hnil : sumCells [] = 0 := rfl
  have happend := sumCells_append [] h
  rwa [List.nil_append, hnil, Int.zero_add] at happend

/-- The partial sums of balanced cells with both signs lie between the losses and the gains. -/
lemma contained_of_le (hlosses : least ≤ losses cells) (hgains : gains cells ≤ greatest) :
    Contained cells := by
  rintro first ⟨rest, rfl⟩
  rw [losses_append] at hlosses
  rw [gains_append] at hgains
  have htotal := total_eq first
  have hfirst := gains_nonneg first
  have hfirst' := losses_nonpos first
  have hrest := gains_nonneg rest
  have hrest' := losses_nonpos rest
  omega

lemma Contained.clamp_total (h : Contained cells) : clamp (total cells) = total cells := by
  obtain ⟨hleast, hgreatest⟩ := h cells (List.prefix_refl cells)
  exact clamp_eq_self hleast hgreatest

lemma Balanced.sumCells_eq_clamp (h : Balanced cells) : sumCells cells = clamp (total cells) := by
  rcases h with hsign | ⟨hlosses, hgains⟩
  · exact sumCells_of_oneSigned hsign
  · have hcontained := contained_of_le hlosses hgains
    rw [hcontained.clamp_total, sumCells_of_contained hcontained]

lemma Balanced.perm (h : Balanced cells) (hperm : cells'.Perm cells) : Balanced cells' := by
  rcases h with hsign | hrange
  · left
    exact hsign.imp (fun h cell hcell => h cell (hperm.mem_iff.mp hcell))
      fun h cell hcell => h cell (hperm.mem_iff.mp hcell)
  · right
    rwa [losses, gains, total_perm (hperm.filter _), total_perm (hperm.filter _)]

/-! ### Orders -/

lemma oneSigned_gaining (cells : List String) : OneSigned (cells.filter (0 ≤ addend ·)) :=
  .inl fun cell hcell => by simpa using (List.mem_filter.mp hcell).2

lemma oneSigned_losing (cells : List String) : OneSigned (cells.filter (addend · < 0)) :=
  .inr fun cell hcell => le_of_lt (by simpa using (List.mem_filter.mp hcell).2)

lemma sumCells_gaining_losing (cells : List String) :
    sumCells (cells.filter (0 ≤ addend ·) ++ cells.filter (addend · < 0)) =
      clamp (clamp (gains cells) + losses cells) := by
  rw [sumCells_append _ (oneSigned_losing cells), sumCells_of_oneSigned (oneSigned_gaining cells)]
  rfl

lemma sumCells_losing_gaining (cells : List String) :
    sumCells (cells.filter (addend · < 0) ++ cells.filter (0 ≤ addend ·)) =
      clamp (clamp (losses cells) + gains cells) := by
  rw [sumCells_append _ (oneSigned_gaining cells), sumCells_of_oneSigned (oneSigned_losing cells)]
  rfl

lemma gains_pos {cell : String} (hcell : cell ∈ cells) (h : 0 < addend cell) : 0 < gains cells := by
  obtain ⟨front, rest, rfl⟩ := List.append_of_mem hcell
  have hcell' : gains [cell] = addend cell := by simp [gains, total, h.le]
  have hfront := gains_nonneg front
  have hrest := gains_nonneg rest
  rw [gains_append, ← List.singleton_append, gains_append, hcell']
  omega

lemma losses_neg {cell : String} (hcell : cell ∈ cells) (h : addend cell < 0) :
    losses cells < 0 := by
  obtain ⟨front, rest, rfl⟩ := List.append_of_mem hcell
  have hcell' : losses [cell] = addend cell := by simp [losses, total, h]
  have hfront := losses_nonpos front
  have hrest := losses_nonpos rest
  rw [losses_append, ← List.singleton_append, losses_append, hcell']
  omega

lemma balanced_of_eq
    (h : sumCells (cells.filter (0 ≤ addend ·) ++ cells.filter (addend · < 0)) =
      sumCells (cells.filter (addend · < 0) ++ cells.filter (0 ≤ addend ·))) :
    Balanced cells := by
  by_cases hsign : OneSigned cells
  · exact .inl hsign
  · right
    simp only [OneSigned, not_or, not_forall, Int.not_le] at hsign
    obtain ⟨⟨cell, hcell, hneg⟩, cell', hcell', hpos⟩ := hsign
    have hlosses := losses_neg hcell hneg
    have hgains := gains_pos hcell' hpos
    rw [sumCells_gaining_losing, sumCells_losing_gaining] at h
    unfold clamp least greatest at *
    omega

/-! ### Results -/

/-- The results for the sum and the mean of the cells are those of a given sum. -/
def Summed (cells : List String) (n : Int) : Prop :=
  sum.reduce cells = toString n ∧
    (cells ≠ [] → average.reduce cells = toString (Int.fdiv n cells.length))

lemma summed_sumCells (cells : List String) : Summed cells (sumCells cells) := by
  refine ⟨rfl, fun hne => ?_⟩
  obtain ⟨cell, cells, rfl⟩ := List.exists_cons_of_ne_nil hne
  rfl

lemma Balanced.summed_perm (h : Balanced cells) (hperm : cells'.Perm cells) :
    Summed cells' (clamp (total cells)) := by
  rw [← total_perm hperm, ← (h.perm hperm).sumCells_eq_clamp]
  exact summed_sumCells cells'

/-- **Sums and means at the limits.** The sum is brought back into the range after each addition.
This gives the exact sum, brought back once, if only a last run of integers of one sign leaves the
range. It gives that in every order of the cells if and only if they are balanced, and the sum of
all other cells depends on their order. -/
theorem reduce_sum_average (cells : List String) :
    Summed cells (saturate 0 (cells.map addend)) ∧
    (∀ before behind, cells = before ++ behind → Contained before → OneSigned behind →
      Summed cells (clamp (total cells))) ∧
    ((∀ cells', cells'.Perm cells → Summed cells' (clamp (total cells))) ↔ Balanced cells) ∧
    ((∀ cells', cells'.Perm cells → sum.reduce cells' = sum.reduce cells) ↔ Balanced cells) := by
  have hbalanced : (∀ cells', cells'.Perm cells → sum.reduce cells' = sum.reduce cells) →
      Balanced cells := by
    intro h
    have hgaining := h _ (filter_append_filter_perm cells)
    have hlosing := h _ (List.perm_append_comm.trans (filter_append_filter_perm cells))
    exact balanced_of_eq (toString_inj.mp (hgaining.trans hlosing.symm))
  refine ⟨?_, ?_, ⟨fun h => hbalanced fun cells' hperm => ?_, fun h cells' => h.summed_perm⟩,
    hbalanced, fun h cells' hperm => ?_⟩
  · rw [← sumCells_eq]
    exact summed_sumCells cells
  · rintro before behind rfl hcontained hsign
    rw [total_append, ← sumCells_of_contained hcontained, ← sumCells_append _ hsign]
    exact summed_sumCells _
  · rw [(h cells' hperm).1, (h cells (.refl _)).1]
  · rw [(h.summed_perm hperm).1, (h.summed_perm (.refl _)).1]

/-- The greatest integer is reached again only by the last two cells. -/
theorem reduce_sum_average_overflow :
    Contained ["9223372036854775807", "-1", "x"] ∧ OneSigned ["5", "7"] ∧
      sum.reduce ["9223372036854775807", "-1", "x", "5", "7"] = "9223372036854775807" ∧
      average.reduce ["9223372036854775807", "-1", "x", "5", "7"] = "1844674407370955161" := by
  have hcontained : Contained ["9223372036854775807", "-1", "x"] := by
    intro first hfirst
    have hinits : ∀ first ∈ ["9223372036854775807", "-1", "x"].inits,
        least ≤ total first ∧ total first ≤ greatest := by decide
    exact hinits first ((List.mem_inits _ _).mpr hfirst)
  have hsign : OneSigned ["5", "7"] := by unfold OneSigned; decide
  obtain ⟨-, hexact, -⟩ :=
    reduce_sum_average ["9223372036854775807", "-1", "x", "5", "7"]
  obtain ⟨hsum, haverage⟩ := hexact _ _ rfl hcontained hsign
  exact ⟨hcontained, hsign, hsum.trans (by decide), (haverage (by decide)).trans (by decide)⟩

theorem sum_of_passing_overflow :
    clamp (total ["9223372036854775807", "1", "-2"]) = 9223372036854775806 ∧
      sum.reduce ["9223372036854775807", "1", "-2"] = "9223372036854775805" ∧
      sum.reduce ["1", "-2", "9223372036854775807"] = "9223372036854775806" ∧
      average.reduce ["9223372036854775807", "1", "-2"] = "3074457345618258601" ∧
      Int.fdiv 9223372036854775806 3 = 3074457345618258602 := by
  decide

end Aggregate

end CsvQuery
