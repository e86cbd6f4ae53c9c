import CsvQuery.Plan.Step
import CsvQuery.Proofs.Query.Grouping
import CsvQuery.Proofs.Query.Steps
import CsvQuery.Proofs.Source.Delivered
import Mathlib.Algebra.GroupWithZero.Nat
import Mathlib.Data.List.Basic

/-!
Grouping is a partition. As long as no cell contains the mark that separates the cells of a key, two
rows have the same key if and only if they have the same cells at the grouping positions. Then there
is one group for each tuple of such cells, in the order in which the tuples first occur, and every
row is in one group.
-/

namespace CsvQuery

/-! ### Members by their images -/

section Images

variable {α β γ δ : Type} [BEq β] [BEq γ]

lemma eraseDups_map_cons (f : α → β) (a : α) (l : List α) :
    ((a :: l).map f).eraseDups = f a :: ((l.filter fun b => !(f b == f a)).map f).eraseDups := by
  rw [List.map_cons, List.eraseDups_cons, List.filter_map]
  rfl

variable [LawfulBEq β] [LawfulBEq γ]

lemma map_eraseDups_congr {f : α → β} {f' : α → γ} {g : β → δ} {g' : γ → δ} :
    ∀ l : List α, (∀ a ∈ l, ∀ b ∈ l, f a = f b ↔ f' a = f' b) → (∀ a ∈ l, g (f a) = g' (f' a)) →
      (l.map f).eraseDups.map g = (l.map f').eraseDups.map g'
  | [], _, _ => rfl
  | a :: l, hsame, himage => by
    have hfilter : (l.filter fun b => !(f b == f a)) = l.filter fun b => !(f' b == f' a) := by
      refine List.filter_congr fun b hb => ?_
      have hiff := hsame b (List.mem_cons_of_mem _ hb) a (by simp)
      rw [Bool.eq_iff_iff]
      simp [hiff]
    have hmem : ∀ b ∈ l.filter fun b => !(f' b == f' a), b ∈ a :: l :=
      fun b hb => List.mem_cons_of_mem _ (List.mem_filter.mp hb).1
    have hrest := map_eraseDups_congr (l.filter fun b => !(f' b == f' a))
      (fun b hb c hc => hsame b (hmem b hb) c (hmem c hc)) fun b hb => himage b (hmem b hb)
    rw [eraseDups_map_cons, eraseDups_map_cons, hfilter, List.map_cons, List.map_cons, hrest,
      himage a (by simp)]
  termination_by l => l.length
  decreasing_by
    have hle := List.length_filter_le (fun b => !(f' b == f' a)) l
    simp only [List.length_cons]
    omega

lemma flatMap_filter_perm (f : α → β) :
    ∀ l : List α, ((l.map f).eraseDups.flatMap fun k => l.filter (f · == k)).Perm l
  | [] => by simp
  | a :: l => by
    -- Behind the group of `a`, the groups are those of the members with another image.
    have hgroups : ∀ k ∈ ((l.filter fun b => !(f b == f a)).map f).eraseDups,
        (a :: l).filter (f · == k) = (l.filter fun b => !(f b == f a)).filter (f · == k) := by
      intro k hk
      obtain ⟨b, hb, rfl⟩ := List.mem_map.mp (List.mem_eraseDups.mp hk)
      have hne : f b ≠ f a := by simpa using (List.mem_filter.mp hb).2
      have hne' : (f a == f b) = false := by simpa using hne.symm
      rw [List.filter_cons, hne', List.filter_filter]
      refine List.filter_congr fun c _ => ?_
      by_cases hc : f c = f b <;> simp [hc, hne]
    have hrest := flatMap_filter_perm f (l.filter fun b => !(f b == f a))
    rw [eraseDups_map_cons, List.flatMap_cons, List.flatMap_congr hgroups, List.filter_cons,
      if_pos (beq_self_eq_true (f a)), List.cons_append]
    exact ((hrest.append_left _).trans (List.filter_append_perm _ l)).cons a
  termination_by l => l.length
  decreasing_by
    have hle := List.length_filter_le (fun b => !(f b == f a)) l
    simp only [List.length_cons]
    omega

end Images

namespace Group

/-! ### Keys -/

def marked (cells : List String) : List Char :=
  cells.flatMap fun cell => separator :: cell.toList

lemma toList_keyOf (positions : List Nat) (r : Row) :
    (keyOf positions r).toList = "groupBy".toList ++ marked (r.project positions) := by
  simp [keyOf_eq, marked, Row.project, String.toList_join, List.flatMap_map, separator]

lemma takeWhile_marked {cell : String} (h : separator ∉ cell.toList) (cells : List String) :
    (cell.toList ++ marked cells).takeWhile (· != separator) = cell.toList := by
  have hcell : ∀ c ∈ cell.toList, (c != separator) = true := by
    intro c hc
    rw [bne_iff_ne]
    rintro rfl
    exact h hc
  rw [List.takeWhile_append_of_pos hcell]
  cases cells with
  | nil => simp [marked]
  | cons cell' cells => simp [marked]

lemma marked_inj {cells cells' : List String} (h : ∀ cell ∈ cells, separator ∉ cell.toList)
    (h' : ∀ cell ∈ cells', separator ∉ cell.toList) (heq : marked cells = marked cells') :
    cells = cells' := by
  induction cells generalizing cells' with
  | nil =>
    cases cells' with
    | nil => rfl
    | cons cell' cells' => simp [marked] at heq
  | cons cell cells ih =>
    cases cells' with
    | nil => simp [marked] at heq
    | cons cell' cells' =>
      have htail : cell.toList ++ marked cells = cell'.toList ++ marked cells' := by
        simpa [marked] using heq
      have hcell : cell.toList = cell'.toList := by
        rw [← takeWhile_marked (h cell (by simp)) cells, htail,
          takeWhile_marked (h' cell' (by simp)) cells']
      rw [hcell] at htail
      rw [String.toList_inj.mp hcell, ih (fun c hc => h c (List.mem_cons_of_mem _ hc))
        (fun c hc => h' c (List.mem_cons_of_mem _ hc)) (List.append_cancel_left htail)]

/-- No cell at a grouping position contains the mark. -/
def Unmarked (positions : List Nat) (rows : List Row) : Prop :=
  ∀ r ∈ rows, ∀ cell ∈ r.project positions, separator ∉ cell.toList

lemma keyOf_eq_iff {positions : List Nat} {rows : List Row} (h : Unmarked positions rows)
    {a b : Row} (ha : a ∈ rows) (hb : b ∈ rows) :
    keyOf positions a = keyOf positions b ↔ a.project positions = b.project positions := by
  rw [← String.toList_inj, toList_keyOf, toList_keyOf, List.append_cancel_left_eq]
  exact ⟨marked_inj (h a ha) (h b hb), fun heq => by rw [heq]⟩

/-! ### Groups -/

/-- The tuples of cells at the grouping positions, each once, in the order in which they first
occur. -/
def tuples (positions : List Nat) (rows : List Row) : List (List String) :=
  (rows.map (Row.project · positions)).eraseDups

/-- The rows with a tuple of cells at the grouping positions, in their order. -/
def members (positions : List Nat) (rows : List Row) (tuple : List String) : List Row :=
  rows.filter (Row.project · positions == tuple)

/-- What an aggregate column makes of the rows of a group. A column over a grouping position gets no
cells. -/
def resultOf (positions : List Nat) (members : List Row) (column : AggregateColumn) : String :=
  column.function.reduce
    (if positions.contains column.position then [] else members.map (·.cell column.position))

variable {positions : List Nat} {columns : List AggregateColumn} {rows : List Row}

lemma summaries_eq_tuples (h : Unmarked positions rows) :
    summaries positions columns rows = (tuples positions rows).map fun tuple =>
      (members positions rows tuple).headD [] ++
        columns.map (resultOf positions (members positions rows tuple)) := by
  rw [summaries_eq]
  refine map_eraseDups_congr rows (fun a ha b hb => keyOf_eq_iff h ha hb) fun a ha => ?_
  have hmembers : rows.filter (keyOf positions · == keyOf positions a) =
      members positions rows (a.project positions) := by
    refine List.filter_congr fun b hb => ?_
    rw [Bool.eq_iff_iff, beq_iff_eq, beq_iff_eq]
    exact keyOf_eq_iff h hb ha
  rw [hmembers]
  rfl

lemma members_perm (positions : List Nat) (rows : List Row) :
    ((tuples positions rows).flatMap (members positions rows)).Perm rows :=
  flatMap_filter_perm _ rows

lemma sum_length_members (positions : List Nat) (rows : List Row) :
    ((tuples positions rows).map fun tuple => (members positions rows tuple).length).sum =
      rows.length := by
  rw [← List.length_flatMap]
  exact (members_perm positions rows).length_eq

end Group

namespace Source

variable {ε : Type} {tables : String} {fields : List String} {positions : List Nat}
  {columns : List AggregateColumn} {rows : List Row}

open CsvQuery.Group

/-- **GROUP BY is a partition of its input.** -/
theorem delivers_grouped (src : Source ε) (h : src.items src.start = rows.map .ok)
    (hcells : Unmarked positions rows) :
    (src.grouped tables fields positions columns).Delivers
        (src.grouped tables fields positions columns).start
        ((tuples positions rows).map fun tuple =>
          (members positions rows tuple).headD [] ++
            columns.map (resultOf positions (members positions rows tuple))) ∧
      ((tuples positions rows).flatMap (members positions rows)).Perm rows ∧
      ∀ column ∈ columns, column.function = .count → column.position ∉ positions →
        ∃ counts : List Nat, counts.sum = rows.length ∧
          (tuples positions rows).map (fun tuple =>
            resultOf positions (members positions rows tuple) column) = counts.map toString := by
  refine ⟨?_, members_perm positions rows, fun column _ hcount hposition => ?_⟩
  · rw [← summaries_eq_tuples hcells]
    exact delivers_gather h rfl
  · refine ⟨_, sum_length_members positions rows, ?_⟩
    rw [List.map_map]
    refine List.map_congr_left fun tuple _ => ?_
    have hcontains : positions.contains column.position = false := by simpa using hposition
    rw [resultOf, hcount, hcontains]
    simp [Aggregate.reduce]

attribute [local instance] Sorter.standard

def visits : Table :=
  ⟨"visits", ["shop", "day", "amount"],
    [.ok ["2", "1", "5"], .ok ["1", "1", "7"], .ok ["2", "2", "x"], .ok ["2", "1", "3"]]⟩

/-- The amount of all visits, their number, and a column over the grouping position. -/
def visitColumns : List AggregateColumn := [⟨.sum, 2⟩, ⟨.count, 1⟩, ⟨.max, 0⟩]

theorem delivers_grouped_visits :
    (Step.aggregate "visits" ["shop"] [0] visitColumns (.scan visits)).source.Delivers
        (Step.aggregate "visits" ["shop"] [0] visitColumns (.scan visits)).source.start
        [["2", "1", "5", "8", "3", ""], ["1", "1", "7", "7", "1", ""]] ∧
      ∃ counts : List Nat, counts.sum = 4 ∧ ["3", "1"] = counts.map toString := by
  have hrows : (Step.scan visits).Yields
      [["2", "1", "5"], ["1", "1", "7"], ["2", "2", "x"], ["2", "1", "3"]] := Step.yields_scan rfl
  have hcells : Unmarked [0]
      [["2", "1", "5"], ["1", "1", "7"], ["2", "2", "x"], ["2", "1", "3"]] := by
    unfold Unmarked
    decide
  obtain ⟨hdelivers, -, hcounts⟩ := delivers_grouped _ hrows hcells
  exact ⟨hdelivers, hcounts ⟨.count, 1⟩ (by decide) rfl (by decide)⟩

end Source

end CsvQuery
