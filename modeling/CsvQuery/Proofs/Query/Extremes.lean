import CsvQuery.Aggregation
import CsvQuery.Proofs.Query.CellOrder
import CsvQuery.Proofs.Query.Sorting
import Mathlib.Data.List.Induction

/-!
Extremes. Going through a list from the left and keeping one of two members each time ends with a
member that beats all behind it and is beaten by none in front of it, if beating ranks the members.
The order of uniform cells ranks them, so the greatest cell that is kept is the last such cell and
the least cell that is kept is the first one.
-/

namespace CsvQuery

/-! ### Keeping one of two -/

section Kept

variable {α : Type} {beats : α → α → Bool} {l l' : List α}

/-- The first of two members if it beats the second, and the second if it does not. -/
def kept (beats : α → α → Bool) (a b : α) : α :=
  if beats a b then a else b

/-- On the members of a list, beating and not beating are transitive. -/
structure Ranks (beats : α → α → Bool) (l : List α) : Prop where
  trans : ∀ a ∈ l, ∀ b ∈ l, ∀ c ∈ l, beats a b = true → beats b c = true → beats a c = true
  not_trans : ∀ a ∈ l, ∀ b ∈ l, ∀ c ∈ l, beats a b = false → beats b c = false → beats a c = false

lemma Ranks.subset (h : Ranks beats l) (hsub : l' ⊆ l) : Ranks beats l' :=
  ⟨fun a ha b hb c hc => h.trans a (hsub ha) b (hsub hb) c (hsub hc),
    fun a ha b hb c hc => h.not_trans a (hsub ha) b (hsub hb) c (hsub hc)⟩

lemma Ranks.not (h : Ranks beats l) : Ranks (fun a b => !beats a b) l := by
  refine ⟨fun a ha b hb c hc hab hbc => ?_, fun a ha b hb c hc hab hbc => ?_⟩
  · rw [Bool.not_eq_true'] at *
    exact h.not_trans a ha b hb c hc hab hbc
  · rw [Bool.not_eq_false'] at *
    exact h.trans a ha b hb c hc hab hbc

/-- A member of a list is beaten by none in front of it and beats all behind it. -/
def Wins (beats : α → α → Bool) (l : List α) (w : α) : Prop :=
  ∃ before behind, l = before ++ w :: behind ∧ (∀ a ∈ before, beats a w = false) ∧
    ∀ b ∈ behind, beats w b = true

/-- If one more member comes at the end, it is met by the winner so far. -/
lemma Wins.snoc {w x : α} (h : Ranks beats (l ++ [x])) (hw : Wins beats l w) :
    Wins beats (l ++ [x]) (kept beats w x) := by
  obtain ⟨before, behind, rfl, hbefore, hbehind⟩ := hw
  cases hx : beats w x with
  | true =>
    rw [kept, if_pos hx]
    refine ⟨before, behind ++ [x], by simp, hbefore, fun b hb => ?_⟩
    rcases List.mem_append.mp hb with hb | hb
    · exact hbehind b hb
    · rwa [List.mem_singleton.mp hb]
  | false =>
    have hne : ¬beats w x = true := by simp [hx]
    rw [kept, if_neg hne]
    refine ⟨before ++ w :: behind, [], by simp, fun a ha => ?_, by simp⟩
    rcases List.mem_append.mp ha with ha | ha
    · exact h.not_trans a (by simp [ha]) w (by simp) x (by simp) (hbefore a ha) hx
    rcases List.mem_cons.mp ha with rfl | ha
    · exact hx
    · -- If a member that `w` beats did beat `x`, then `w` would beat `x`.
      rw [← Bool.not_eq_true]
      intro hax
      exact hne (h.trans w (by simp) a (by simp [ha]) x (by simp) (hbehind a ha) hax)

/-- **The member that is kept wins.** -/
lemma wins_foldl_kept (first : α) (rest : List α) (h : Ranks beats (first :: rest)) :
    Wins beats (first :: rest) (rest.foldl (kept beats) first) := by
  -- The members come one by one at the end, each to meet the one kept so far.
  induction rest using List.reverseRecOn with
  | nil => exact ⟨[], [], rfl, by simp, by simp⟩
  | append_singleton rest x ih =>
    rw [List.foldl_append, List.foldl_cons, List.foldl_nil]
    exact (ih (h.subset (by simp))).snoc h

end Kept

/-! ### Uniform cells -/

variable {cells cells' : List String}

lemma Uniform.perm (h : Uniform cells) (hperm : cells'.Perm cells) : Uniform cells' :=
  h.imp (fun h c hc => h c (hperm.mem_iff.mp hc)) fun h c hc => h c (hperm.mem_iff.mp hc)

lemma Uniform.not_torn (h : Uniform cells) {a b c : String} (ha : a ∈ cells) (hb : b ∈ cells)
    (hc : c ∈ cells) : ¬Torn a b c := by
  rcases h with h | h
  · rintro (⟨hnone, -⟩ | ⟨hnone, -⟩ | ⟨hnone, -⟩)
    · simpa [hnone] using h a ha
    · simpa [hnone] using h b hb
    · simpa [hnone] using h c hc
  · rintro (⟨-, hne⟩ | ⟨-, hne⟩ | ⟨-, hne⟩)
    · exact hne (compareCells_of_none_left (h b hb))
    · exact hne (compareCells_of_none_left (h a ha))
    · exact hne (compareCells_of_none_left (h a ha))

lemma Uniform.ranks (h : Uniform cells) : Ranks (compareCells · · != .gt) cells := by
  have hle : ∀ a ∈ cells, ∀ b ∈ cells, ∀ c ∈ cells, compareCells a b ≠ .gt →
      compareCells b c ≠ .gt → compareCells a c ≠ .gt :=
    fun a ha b hb c hc => compareCells_trans (h.not_torn ha hb hc)
  refine ⟨fun a ha b hb c hc hab hbc => ?_, fun a ha b hb c hc hab hbc => ?_⟩
  · rw [bne_iff_ne] at *
    exact hle a ha b hb c hc hab hbc
  · simp only [bne_eq_false_iff_eq] at *
    -- If `a` were not greater than `c`, it would not be greater than `b`, which is.
    by_contra hac
    have hcb : compareCells c b ≠ .gt := by
      rw [compareCells_swap, hbc]
      decide
    exact hle a ha c hc b hb hac hcb hab

namespace Aggregate

def isGreatest (cells : List String) (cell : String) : Bool :=
  cells.all (compareCells · cell != .gt)

/-- The cell is greater than no cell. -/
def isLeast (cells : List String) (cell : String) : Bool :=
  cells.all (compareCells cell · != .gt)

lemma laterMax_eq_kept : laterMax = kept fun a b => !(compareCells a b != .gt) := by
  funext a b
  simp [laterMax, kept]

lemma earlierMin_eq_kept : earlierMin = kept (compareCells · · != .gt) := by
  funext a b
  unfold earlierMin kept
  by_cases h : compareCells a b = .gt <;> simp [h]

lemma isGreatest_iff {cell : String} :
    isGreatest cells cell = true ↔ ∀ c ∈ cells, compareCells c cell ≠ .gt := by
  simp [isGreatest]

lemma isLeast_iff {cell : String} :
    isLeast cells cell = true ↔ ∀ c ∈ cells, compareCells cell c ≠ .gt := by
  simp [isLeast]

lemma wins_max (h : Uniform cells) (hne : cells ≠ []) :
    Wins (fun a b => !(compareCells a b != .gt)) cells (max.reduce cells) := by
  obtain ⟨first, rest, rfl⟩ := List.exists_cons_of_ne_nil hne
  have hwins := wins_foldl_kept first rest h.ranks.not
  rwa [← laterMax_eq_kept] at hwins

lemma wins_min (h : Uniform cells) (hne : cells ≠ []) :
    Wins (compareCells · · != .gt) cells (min.reduce cells) := by
  obtain ⟨first, rest, rfl⟩ := List.exists_cons_of_ne_nil hne
  have hwins := wins_foldl_kept first rest h.ranks
  rwa [← earlierMin_eq_kept] at hwins

lemma findRev?_isGreatest (h : Uniform cells) (hne : cells ≠ []) :
    cells.findRev? (isGreatest cells) = some (max.reduce cells) := by
  have hwins := wins_max h hne
  generalize max.reduce cells = m at hwins ⊢
  obtain ⟨before, behind, rfl, hbefore, hbehind⟩ := hwins
  simp only [Bool.not_eq_false', Bool.not_eq_true', bne_iff_ne, bne_eq_false_iff_eq]
    at hbefore hbehind
  rw [List.findRev?_eq_find?_reverse, List.find?_eq_some_iff_append]
  refine ⟨isGreatest_iff.mpr fun c hc => ?_, behind.reverse, before.reverse, by simp,
    fun c hc => ?_⟩
  · rcases List.mem_append.mp hc with hc | hc
    · exact hbefore c hc
    · rcases List.mem_cons.mp hc with rfl | hc
      · simp [Std.ReflCmp.compare_self]
      · simp [compareCells_swap m c, hbehind c hc]
  · rw [Bool.not_eq_true', Bool.eq_false_iff, Ne, isGreatest_iff]
    exact fun hall => hall m (by simp) (hbehind c (List.mem_reverse.mp hc))

lemma find?_isLeast (h : Uniform cells) (hne : cells ≠ []) :
    cells.find? (isLeast cells) = some (min.reduce cells) := by
  have hwins := wins_min h hne
  generalize min.reduce cells = m at hwins ⊢
  obtain ⟨before, behind, rfl, hbefore, hbehind⟩ := hwins
  simp only [bne_iff_ne, bne_eq_false_iff_eq] at hbefore hbehind
  rw [List.find?_eq_some_iff_append]
  refine ⟨isLeast_iff.mpr fun c hc => ?_, before, behind, rfl, fun c hc => ?_⟩
  · rcases List.mem_append.mp hc with hc | hc
    · simp [compareCells_swap c m, hbefore c hc]
    · rcases List.mem_cons.mp hc with rfl | hc
      · simp [Std.ReflCmp.compare_self]
      · exact hbehind c hc
  · rw [Bool.not_eq_true', Bool.eq_false_iff, Ne, isLeast_iff]
    exact fun hall => hall m (by simp) (hbefore c hc)

lemma max_mem_isGreatest (h : Uniform cells) (hne : cells ≠ []) :
    max.reduce cells ∈ cells ∧ isGreatest cells (max.reduce cells) = true := by
  have hfind := findRev?_isGreatest h hne
  rw [List.findRev?_eq_find?_reverse] at hfind
  exact ⟨List.mem_reverse.mp (List.mem_of_find?_eq_some hfind), List.find?_some hfind⟩

lemma min_mem_isLeast (h : Uniform cells) (hne : cells ≠ []) :
    min.reduce cells ∈ cells ∧ isLeast cells (min.reduce cells) = true := by
  have hfind := find?_isLeast h hne
  exact ⟨List.mem_of_find?_eq_some hfind, List.find?_some hfind⟩

/-- **Extremes.** The greatest of uniform cells is the last one than which no cell is greater, and
the least is the first one that is greater than no cell. In another order of the cells, the extremes
compare equal to these. -/
theorem reduce_extremes (h : Uniform cells) (hne : cells ≠ []) :
    cells.findRev? (isGreatest cells) = some (max.reduce cells) ∧
      cells.find? (isLeast cells) = some (min.reduce cells) ∧
      ∀ cells', cells'.Perm cells →
        compareCells (max.reduce cells') (max.reduce cells) = .eq ∧
          compareCells (min.reduce cells') (min.reduce cells) = .eq := by
  refine ⟨findRev?_isGreatest h hne, find?_isLeast h hne, fun cells' hperm => ?_⟩
  have h' := h.perm hperm
  have hne' : cells' ≠ [] := by
    rintro rfl
    exact hne hperm.symm.eq_nil
  obtain ⟨hmax, hgreatest⟩ := max_mem_isGreatest h hne
  obtain ⟨hmax', hgreatest'⟩ := max_mem_isGreatest h' hne'
  obtain ⟨hmin, hleast⟩ := min_mem_isLeast h hne
  obtain ⟨hmin', hleast'⟩ := min_mem_isLeast h' hne'
  rw [isGreatest_iff] at hgreatest hgreatest'
  rw [isLeast_iff] at hleast hleast'
  constructor
  · apply compareCells_eq_of_ne_gt
    · exact hgreatest _ (hperm.mem_iff.mp hmax')
    · exact hgreatest' _ (hperm.mem_iff.mpr hmax)
  · apply compareCells_eq_of_ne_gt
    · exact hleast' _ (hperm.mem_iff.mpr hmin)
    · exact hleast _ (hperm.mem_iff.mp hmin')

theorem reduce_extremes_spellings :
    Uniform ["7", "-1", "+7", "007", "-01"] ∧ ["7", "-1", "+7", "007", "-01"] ≠ [] ∧
      max.reduce ["7", "-1", "+7", "007", "-01"] = "007" ∧
      min.reduce ["7", "-1", "+7", "007", "-01"] = "-1" ∧
      compareCells (max.reduce ["-01", "007", "7", "-1", "+7"]) "007" = .eq := by
  have huniform : Uniform ["7", "-1", "+7", "007", "-01"] := by unfold Uniform; decide
  have hne : ["7", "-1", "+7", "007", "-01"] ≠ [] := by decide
  obtain ⟨hmax, hmin, hperm⟩ := reduce_extremes huniform hne
  have hmax' : max.reduce ["7", "-1", "+7", "007", "-01"] = "007" :=
    (Option.some.inj (hmax.symm.trans (by decide)))
  have hmin' : min.reduce ["7", "-1", "+7", "007", "-01"] = "-1" :=
    (Option.some.inj (hmin.symm.trans (by decide)))
  obtain ⟨hequal, -⟩ := hperm ["-01", "007", "7", "-1", "+7"] (by decide)
  rw [hmax'] at hequal
  exact ⟨huniform, hne, hmax', hmin', hequal⟩

end Aggregate

end CsvQuery
