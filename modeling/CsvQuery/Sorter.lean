import CsvQuery.Row

/-!
Sorting of rows by a comparison, as far as it is documented. The rows stay the same, and where the
comparison orders them, they come in its order and those that compare equal stay as they stood.
Elsewhere their order is not said, and the sorting may break off; so a sorting is a parameter.
-/

namespace CsvQuery

/-- On the rows, the comparison is a transitive one. -/
def TransOn (rows : List Row) (compare : Row → Row → Ordering) : Prop :=
  ∃ cmp : Row → Row → Ordering, Std.TransCmp cmp ∧ ∀ a ∈ rows, ∀ b ∈ rows, compare a b = cmp a b

/-- The rows in order, and those that compare equal as they stood. -/
structure StableSort (compare : Row → Row → Ordering) (rows sorted : List Row) : Prop where
  perm : sorted.Perm rows
  ordered : sorted.Pairwise (compare · · ≠ .gt)
  ties : ∀ a ∈ rows,
    sorted.filter (compare a · == .eq) = rows.filter (compare a · == .eq)

/-- A way to sort rows. It gives none where it breaks off. -/
class Sorter where
  sort : (Row → Row → Ordering) → List Row → Option (List Row)
  perm {compare : Row → Row → Ordering} {rows sorted : List Row} :
    sort compare rows = some sorted → sorted.Perm rows
  stable {compare : Row → Row → Ordering} {rows : List Row} :
    TransOn rows compare →
      ∃ sorted, sort compare rows = some sorted ∧ StableSort compare rows sorted

namespace StableSort

variable {compare cmp : Row → Row → Ordering} {rows sorted : List Row}

theorem congr (h : ∀ a ∈ rows, ∀ b ∈ rows, compare a b = cmp a b)
    (hsorted : StableSort cmp rows sorted) : StableSort compare rows sorted where
  perm := hsorted.perm
  ordered := hsorted.ordered.imp_of_mem fun ha hb hle => by
    rwa [h _ (hsorted.perm.mem_iff.mp ha) _ (hsorted.perm.mem_iff.mp hb)]
  ties a ha := by
    have hfilter : ∀ l : List Row, (∀ b ∈ l, b ∈ rows) →
        l.filter (compare a · == .eq) = l.filter (cmp a · == .eq) :=
      fun l hl => List.filter_congr fun b hb => by rw [h a ha b (hl b hb)]
    rw [hfilter _ fun b hb => hsorted.perm.mem_iff.mp hb, hfilter _ fun b hb => hb]
    exact hsorted.ties a ha

end StableSort

/-! ### Sorting by insertion -/

namespace Insertion

/-- A row put among others, which run from the greatest to the least, behind those that are
greater. -/
def insert (compare : Row → Row → Ordering) (r : Row) : List Row → List Row
  | [] => [r]
  | other :: rest =>
    if compare r other = .lt then other :: insert compare r rest else r :: other :: rest

/-- The rows with others put among them one after the other. -/
def insertAll (compare : Row → Row → Ordering) (sorted rows : List Row) : List Row :=
  rows.foldl (fun sorted r => insert compare r sorted) sorted

def sort (compare : Row → Row → Ordering) (rows : List Row) : List Row :=
  (insertAll compare [] rows).reverse

variable {compare cmp : Row → Row → Ordering}

theorem insert_perm (compare : Row → Row → Ordering) (r : Row) (sorted : List Row) :
    (insert compare r sorted).Perm (r :: sorted) := by
  induction sorted with
  | nil => exact .refl _
  | cons other rest ih =>
    rw [insert]
    split
    · exact (ih.cons other).trans (.swap r other rest)
    · exact .refl _

theorem insertAll_perm (compare : Row → Row → Ordering) (sorted rows : List Row) :
    (insertAll compare sorted rows).Perm (sorted ++ rows) := by
  induction rows generalizing sorted with
  | nil => simp [insertAll]
  | cons r rows ih =>
    refine (ih (insert compare r sorted)).trans ?_
    exact ((insert_perm compare r sorted).append_right rows).trans List.perm_middle.symm

theorem sort_perm (compare : Row → Row → Ordering) (rows : List Row) :
    (sort compare rows).Perm rows :=
  (List.reverse_perm _).trans (insertAll_perm compare [] rows)

theorem insert_congr {r : Row} {sorted : List Row} (h : ∀ b ∈ sorted, compare r b = cmp r b) :
    insert compare r sorted = insert cmp r sorted := by
  induction sorted with
  | nil => rfl
  | cons other rest ih =>
    rw [insert, insert, h other (by simp), ih fun b hb => h b (List.mem_cons_of_mem _ hb)]

theorem sort_congr {rows : List Row} (h : ∀ a ∈ rows, ∀ b ∈ rows, compare a b = cmp a b) :
    sort compare rows = sort cmp rows := by
  have hall : ∀ sorted later : List Row, (∀ b ∈ sorted, b ∈ rows) → (∀ b ∈ later, b ∈ rows) →
      insertAll compare sorted later = insertAll cmp sorted later := by
    intro sorted later hsorted hlater
    induction later generalizing sorted with
    | nil => rfl
    | cons r later ih =>
      have hr := hlater r (by simp)
      have hinsert : insert compare r sorted = insert cmp r sorted :=
        insert_congr fun b hb => h r hr b (hsorted b hb)
      rw [insertAll, insertAll, List.foldl_cons, List.foldl_cons, hinsert]
      refine ih _ (fun b hb => ?_) fun b hb => hlater b (List.mem_cons_of_mem _ hb)
      rcases List.mem_cons.mp ((insert_perm cmp r sorted).mem_iff.mp hb) with rfl | hb
      · exact hr
      · exact hsorted b hb
  rw [sort, sort, hall [] rows (by simp) fun b hb => hb]

section Transitive

variable [Std.TransCmp cmp]

theorem pairwise_insert {r : Row} {sorted : List Row}
    (h : sorted.Pairwise fun a b => cmp b a ≠ .gt) :
    (insert cmp r sorted).Pairwise fun a b => cmp b a ≠ .gt := by
  induction sorted with
  | nil => simp [insert]
  | cons other rest ih =>
    obtain ⟨hother, hrest⟩ := List.pairwise_cons.mp h
    rw [insert]
    split
    · rename_i hless
      refine List.pairwise_cons.mpr ⟨fun b hb => ?_, ih hrest⟩
      rcases List.mem_cons.mp ((insert_perm cmp r rest).mem_iff.mp hb) with rfl | hb
      · simp [hless]
      · exact hother b hb
    · rename_i hnot
      have hswap : cmp other r = (cmp r other).swap := Std.OrientedCmp.eq_swap
      have hle : (cmp other r).isLE := by
        rw [hswap, Ordering.isLE_swap]
        cases hcmp : cmp r other <;> simp_all
      refine List.pairwise_cons.mpr ⟨fun b hb => ?_, h⟩
      rcases List.mem_cons.mp hb with rfl | hb
      · exact Ordering.isLE_iff_ne_gt.mp hle
      · have hbother := Ordering.isLE_iff_ne_gt.mpr (hother b hb)
        exact Ordering.isLE_iff_ne_gt.mp (Std.TransCmp.isLE_trans hbother hle)

theorem filter_insert (a r : Row) (sorted : List Row) :
    (insert cmp r sorted).filter (cmp a · == .eq) = (r :: sorted).filter (cmp a · == .eq) := by
  induction sorted with
  | nil => rfl
  | cons other rest ih =>
    rw [insert]
    split
    · rename_i hless
      rw [List.filter_cons, ih]
      by_cases hr : cmp a r = .eq
      · have hother : cmp a other ≠ .eq := by
          rw [Std.TransCmp.congr_left hr, hless]
          decide
        simp [hr, hother]
      · simp [hr, List.filter_cons]
    · rfl

end Transitive

theorem stableSort {rows : List Row} (h : TransOn rows compare) :
    StableSort compare rows (sort compare rows) := by
  obtain ⟨cmp, hcmp, hagree⟩ := h
  rw [sort_congr hagree]
  refine .congr hagree ⟨sort_perm cmp rows, ?_, fun a _ => ?_⟩
  · have hall : ∀ sorted rows : List Row, sorted.Pairwise (fun a b => cmp b a ≠ .gt) →
        (insertAll cmp sorted rows).Pairwise fun a b => cmp b a ≠ .gt := by
      intro sorted rows hsorted
      induction rows generalizing sorted with
      | nil => exact hsorted
      | cons r rows ih => exact ih _ (pairwise_insert hsorted)
    exact List.pairwise_reverse.mpr (hall [] rows .nil)
  · have hall : ∀ sorted rows : List Row, (insertAll cmp sorted rows).filter (cmp a · == .eq) =
        (rows.filter (cmp a · == .eq)).reverse ++ sorted.filter (cmp a · == .eq) := by
      intro sorted rows
      induction rows generalizing sorted with
      | nil => rfl
      | cons r rows ih =>
        refine (ih (insert cmp r sorted)).trans ?_
        rw [filter_insert, List.filter_cons, List.filter_cons]
        split <;> simp
    rw [sort, List.filter_reverse, hall]
    simp

end Insertion

/-! ### Sorting by merging -/

namespace Merging

def sort (compare : Row → Row → Ordering) (rows : List Row) : List Row :=
  rows.mergeSort (compare · · != .gt)

variable {compare cmp : Row → Row → Ordering} {rows : List Row}

theorem sort_perm (compare : Row → Row → Ordering) (rows : List Row) :
    (sort compare rows).Perm rows :=
  List.mergeSort_perm rows _

theorem sort_congr (h : ∀ a ∈ rows, ∀ b ∈ rows, compare a b = cmp a b) :
    sort compare rows = sort cmp rows := by
  have hmap := List.map_mergeSort (r := fun a b => compare a b != .gt)
    (s := fun a b => cmp a b != .gt) (f := id) (l := rows)
    (fun a ha b hb => by rw [h a ha b hb]; rfl)
  rw [List.map_id, List.map_id] at hmap
  exact hmap

theorem trans_ne_gt [Std.TransCmp cmp] (a b c : Row) (hab : (cmp a b != .gt) = true)
    (hbc : (cmp b c != .gt) = true) : (cmp a c != .gt) = true := by
  simp only [bne_iff_ne, ← Ordering.isLE_iff_ne_gt] at *
  exact Std.TransCmp.isLE_trans hab hbc

theorem total_ne_gt [Std.TransCmp cmp] (a b : Row) :
    (cmp a b != .gt || cmp b a != .gt) = true := by
  have hswap : cmp a b = (cmp b a).swap := Std.OrientedCmp.eq_swap
  rw [hswap]
  cases cmp b a <;> rfl

theorem stableSort (h : TransOn rows compare) : StableSort compare rows (sort compare rows) := by
  obtain ⟨cmp, hcmp, hagree⟩ := h
  rw [sort_congr hagree]
  have hperm := sort_perm cmp rows
  refine .congr hagree ⟨hperm, ?_, fun a _ => ?_⟩
  · exact (List.pairwise_mergeSort trans_ne_gt total_ne_gt rows).imp bne_iff_ne.mp
  · -- Rows that compare equal to `a` are in order already, so they stay a sublist.
    have hsorted : (rows.filter (cmp a · == .eq)).Pairwise fun b c => (cmp b c != .gt) = true := by
      refine List.pairwise_filter.mpr (List.pairwise_of_forall fun b c hb hc => ?_)
      rw [Std.TransCmp.eq_trans (Std.OrientedCmp.eq_symm (beq_iff_eq.mp hb)) (beq_iff_eq.mp hc)]
      rfl
    have hsublist := (List.sublist_mergeSort trans_ne_gt total_ne_gt hsorted
      List.filter_sublist).filter (cmp a · == .eq)
    simp only [List.filter_filter, Bool.and_self] at hsublist
    exact (hsublist.eq_of_length (hperm.filter _).length_eq.symm).symm

end Merging

/-- Few rows are sorted by insertion, many by merging. -/
@[reducible] def Sorter.standard : Sorter where
  sort compare rows :=
    some (if rows.length ≤ 20 then Insertion.sort compare rows else Merging.sort compare rows)
  perm h := by
    cases h
    split
    · exact Insertion.sort_perm _ _
    · exact Merging.sort_perm _ _
  stable h := by
    refine ⟨_, rfl, ?_⟩
    split
    · exact Insertion.stableSort h
    · exact Merging.stableSort h

end CsvQuery
