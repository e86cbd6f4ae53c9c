import CsvQuery.SortKey
import Mathlib.Data.List.Sort

/-!
Sorting of rows. On cells that are all integers, or none of them, the order of cells is transitive,
and so is the order of rows under keys; then there is one stable sorting, which is that by
insertion.
-/

namespace CsvQuery

/-- All cells are integers, or none of them. -/
def Uniform (cells : List String) : Prop :=
  (∀ c ∈ cells, (Integer.ofText? c).isSome) ∨ ∀ c ∈ cells, Integer.ofText? c = none

section TransOn

variable {rows : List Row} {compare compare' : Row → Row → Ordering}

lemma transOn_eq (rows : List Row) : TransOn rows fun _ _ => .eq :=
  ⟨compareOn fun _ => 0, inferInstance, fun _ _ _ _ => rfl⟩

lemma Uniform.transOn {cell : Row → String} (h : Uniform (rows.map cell)) :
    TransOn rows fun a b => compareCells (cell a) (cell b) := by
  rcases h with h | h
  · refine ⟨compareOn fun r => (Integer.ofText? (cell r)).getD 0, inferInstance,
      fun a ha b hb => ?_⟩
    obtain ⟨m, hm⟩ := Option.isSome_iff_exists.mp (h _ (List.mem_map_of_mem ha))
    obtain ⟨n, hn⟩ := Option.isSome_iff_exists.mp (h _ (List.mem_map_of_mem hb))
    simp [compareCells, compareOn, hm, hn]
  · refine ⟨compareOn cell, inferInstance, fun a ha b _ => ?_⟩
    have hm := h _ (List.mem_map_of_mem ha)
    simp [compareCells, compareOn, hm]

lemma TransOn.swap (h : TransOn rows compare) : TransOn rows fun a b => (compare a b).swap := by
  obtain ⟨cmp, hcmp, hagree⟩ := h
  refine ⟨fun a b => cmp b a, inferInstance, fun a ha b hb => ?_⟩
  simp only [hagree a ha b hb]
  exact Std.OrientedCmp.eq_swap.symm

lemma TransOn.congr (h : TransOn rows compare')
    (heq : ∀ a ∈ rows, ∀ b ∈ rows, compare a b = compare' a b) : TransOn rows compare := by
  obtain ⟨cmp, hcmp, hagree⟩ := h
  exact ⟨cmp, hcmp, fun a ha b hb => (heq a ha b hb).trans (hagree a ha b hb)⟩

lemma Uniform.transOn_directed {cell : Row → String} (h : Uniform (rows.map cell))
    (direction : Direction) :
    TransOn rows fun a b =>
      match direction with
      | .ascending => compareCells (cell a) (cell b)
      | .descending => (compareCells (cell a) (cell b)).swap := by
  cases direction with
  | ascending => exact h.transOn
  | descending => exact h.transOn.swap

lemma TransOn.lex (h : TransOn rows compare) (h' : TransOn rows compare') :
    TransOn rows fun a b => (compare a b).then (compare' a b) := by
  obtain ⟨cmp, hcmp, hagree⟩ := h
  obtain ⟨cmp', hcmp', hagree'⟩ := h'
  refine ⟨compareLex cmp cmp', inferInstance, fun a ha b hb => ?_⟩
  simp only [hagree a ha b hb, hagree' a ha b hb]
  rfl

lemma SortKey.compareAll_cons (key : SortKey) (keys : List SortKey) (a b : Row) :
    compareAll (key :: keys) a b = (key.compare a b).then (compareAll keys a b) := by
  rw [compareAll]
  cases key.compare a b <;> rfl

lemma SortKey.transOn {keys : List SortKey}
    (h : ∀ key ∈ keys, Uniform (rows.map (·.cell key.position))) :
    TransOn rows (compareAll keys) := by
  induction keys with
  | nil => exact transOn_eq rows
  | cons key keys ih =>
    have hkey : TransOn rows key.compare := (h key (by simp)).transOn_directed key.direction
    have hkeys := ih fun key hmem => h key (List.mem_cons_of_mem _ hmem)
    have hcons : compareAll (key :: keys) =
        fun a b => (key.compare a b).then (compareAll keys a b) := by
      funext a b
      exact compareAll_cons key keys a b
    rw [hcons]
    exact hkey.lex hkeys

end TransOn

namespace StableSort

variable {rows sorted sorted' : List Row} {compare cmp : Row → Row → Ordering}

lemma eq_of_ties [Std.TransCmp cmp] {l l' : List Row} (hperm : l'.Perm l)
    (h : l.Pairwise (cmp · · ≠ .gt)) (h' : l'.Pairwise (cmp · · ≠ .gt))
    (hties : ∀ a ∈ l, l.filter (cmp a · == .eq) = l'.filter (cmp a · == .eq)) : l = l' := by
  induction l generalizing l' with
  | nil => exact hperm.eq_nil.symm
  | cons a l ih =>
    obtain ⟨b, rest, rfl⟩ := List.exists_cons_of_length_eq_add_one hperm.length_eq
    obtain ⟨ha, hl⟩ := List.pairwise_cons.mp h
    obtain ⟨hb, hrest⟩ := List.pairwise_cons.mp h'
    -- Each head stands in the other list, so neither is greater than the other.
    have heq : cmp a b = .eq := by
      have hswap : cmp b a = (cmp a b).swap := Std.OrientedCmp.eq_swap
      rcases List.mem_cons.mp (hperm.mem_iff.mp List.mem_cons_self) with rfl | hmem
      · exact Std.ReflCmp.compare_self
      · rcases List.mem_cons.mp (hperm.mem_iff.mpr List.mem_cons_self) with rfl | hmem'
        · exact Std.ReflCmp.compare_self
        · have hle := ha b hmem
          have hge := hb a hmem'
          rw [hswap] at hge
          cases hcmp : cmp a b <;> simp_all
    have hself : cmp a a = .eq := Std.ReflCmp.compare_self
    have hheads := hties a List.mem_cons_self
    rw [List.filter_cons, List.filter_cons, hself, heq] at hheads
    obtain ⟨rfl, -⟩ := List.cons.inj hheads
    refine congrArg _ (ih (List.Perm.cons_inv hperm) hl hrest fun c hc => ?_)
    have hc := hties c (List.mem_cons_of_mem _ hc)
    rw [List.filter_cons, List.filter_cons] at hc
    split at hc
    · exact (List.cons.inj hc).2
    · exact hc

/-- **There is one stable sorting** under a comparison that is transitive on the rows. -/
lemma unique (h : TransOn rows compare) (hsorted : StableSort compare rows sorted)
    (hsorted' : StableSort compare rows sorted') : sorted = sorted' := by
  obtain ⟨cmp, hcmp, hagree⟩ := h
  have hsymm : ∀ a ∈ rows, ∀ b ∈ rows, cmp a b = compare a b :=
    fun a ha b hb => (hagree a ha b hb).symm
  obtain ⟨hperm, hordered, hties⟩ := hsorted.congr hsymm
  obtain ⟨hperm', hordered', hties'⟩ := hsorted'.congr hsymm
  refine eq_of_ties (hperm'.trans hperm.symm) hordered hordered' fun a ha => ?_
  have hmem := hperm.mem_iff.mp ha
  rw [hties a hmem, hties' a hmem]

end StableSort

lemma mergeSort_eq_insertionSort {α : Type} {le : α → α → Bool}
    (htrans : ∀ a b c, le a b → le b c → le a c) (htotal : ∀ a b, le a b || le b a) (l : List α) :
    l.mergeSort le = l.insertionSort (fun a b => le a b) := by
  induction l with
  | nil => simp
  | cons a l ih =>
    obtain ⟨before, behind, hcons, hl, hbefore⟩ := List.mergeSort_cons htrans htotal a l
    have hsorted := List.pairwise_mergeSort htrans htotal (a :: l)
    rw [hcons] at hsorted
    rw [List.insertionSort_cons, ← ih, hl, hcons]
    -- The place that merging gives to `a` is in front of the first element it is not greater than.
    clear hcons hl ih
    induction before with
    | nil =>
      cases behind with
      | nil => rfl
      | cons b behind =>
        obtain ⟨hle, -⟩ := List.pairwise_cons.mp hsorted
        simp [hle b (by simp)]
    | cons b before ih =>
      have hnot : ¬le a b = true := by simpa using hbefore b (by simp)
      have hrest := ih (fun c hc => hbefore c (List.mem_cons_of_mem _ hc))
        (List.pairwise_cons.mp hsorted).2
      rw [List.cons_append, List.cons_append, List.orderedInsert_cons, if_neg hnot, hrest]

/-- **The stable sorting is that by insertion** if the comparison is transitive on the rows. -/
lemma TransOn.sorted_eq_insertionSort {rows sorted : List Row}
    {compare compare' : Row → Row → Ordering} (h : TransOn rows compare)
    (hsorted : StableSort compare rows sorted)
    (h' : ∀ a ∈ rows, ∀ b ∈ rows, compare' a b = compare a b) :
    sorted = rows.insertionSort fun a b => compare' a b ≠ .gt := by
  rw [hsorted.unique h (Merging.stableSort h)]
  obtain ⟨cmp, hcmp, hagree⟩ := h
  have hinsertion : (rows.insertionSort fun a b => compare' a b ≠ .gt) =
      rows.insertionSort fun a b => cmp a b ≠ .gt := by
    have hmap := List.map_insertionSort (r := fun a b => compare' a b ≠ .gt)
      (s := fun a b => cmp a b ≠ .gt) id rows
      (fun a ha b hb => by rw [h' a ha b hb, hagree a ha b hb]; rfl)
    simpa using hmap
  rw [Merging.sort_congr hagree, hinsertion, Merging.sort,
    mergeSort_eq_insertionSort Merging.trans_ne_gt Merging.total_ne_gt]
  simp

end CsvQuery
