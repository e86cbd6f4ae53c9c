import CsvQuery.Plan.Step
import CsvQuery.Proofs.Query.Sorting
import CsvQuery.Proofs.Query.Steps
import CsvQuery.Proofs.Source.Delivered

/-!
Sorted rows. Where the cells under each sort key are uniform, the rows of a source are delivered in
the order of the keys, the first key first and each in its direction, and rows that no key tells
apart come as they came from the source, under descending keys as well.
-/

namespace CsvQuery

namespace SortKey

/-- Whether no key tells two rows apart. -/
def ties (keys : List SortKey) (a b : Row) : Bool :=
  keys.all fun key => compareCells (a.cell key.position) (b.cell key.position) == .eq

lemma compare_eq_eq_iff (key : SortKey) (a b : Row) :
    key.compare a b = .eq ↔ compareCells (a.cell key.position) (b.cell key.position) = .eq := by
  unfold compare
  cases key.direction with
  | ascending => rfl
  | descending => exact Ordering.swap_eq_eq

lemma compareAll_eq_eq_iff (keys : List SortKey) (a b : Row) :
    compareAll keys a b = .eq ↔ ties keys a b = true := by
  induction keys with
  | nil => simp [compareAll, ties]
  | cons key keys ih =>
    rw [compareAll_cons, Ordering.then_eq_eq, key.compare_eq_eq_iff, ih]
    simp [ties]

end SortKey

namespace Source

variable {keys : List SortKey} {rows : List Row}

/-- **ORDER BY sorts stably.** -/
theorem delivers_sorted [Sorter] (src : Source Halt) (h : src.items src.start = rows.map .ok)
    (huniform : ∀ key ∈ keys, Uniform (rows.map (·.cell key.position))) :
    ∃ ordered, (src.sorted keys).Delivers (src.sorted keys).start ordered ∧ ordered.Perm rows ∧
      ordered.Pairwise (SortKey.compareAll keys · · ≠ .gt) ∧
      ∀ a ∈ rows, ordered.filter (SortKey.ties keys a) = rows.filter (SortKey.ties keys a) := by
  have hties : ∀ a, (fun b => SortKey.compareAll keys a b == .eq) = SortKey.ties keys a := by
    intro a
    funext b
    rw [Bool.eq_iff_iff, beq_iff_eq, SortKey.compareAll_eq_eq_iff]
  obtain ⟨ordered, hsort, hperm, hordered, hstable⟩ :=
    SortKey.sort_of_transOn (SortKey.transOn huniform)
  simp only [hties] at hstable
  exact ⟨ordered, delivers_gather h hsort, hperm, hordered, hstable⟩

attribute [local instance] Sorter.standard

/-- Prices, some of them the same integer spelled in another way. -/
def prices : Table :=
  ⟨"prices", ["price", "shop"], [.ok ["5", "b"], .ok ["07"], .ok ["+5", "a"], .ok ["05", "b", "x"]]⟩

/-- The greatest price first, and the shops of one price in their order. -/
def greatestPrice : List SortKey := [⟨0, .descending⟩]

theorem delivers_sorted_prices :
    Uniform ["5", "07", "+5", "05"] ∧
    ∃ ordered, (Step.sort greatestPrice (.scan prices)).source.Delivers
        (Step.sort greatestPrice (.scan prices)).source.start ordered ∧
      ordered.Perm [["5", "b"], ["07", ""], ["+5", "a"], ["05", "b"]] ∧
      ordered.filter (SortKey.ties greatestPrice ["+5", "a"]) =
        [["5", "b"], ["+5", "a"], ["05", "b"]] := by
  have huniform : Uniform ["5", "07", "+5", "05"] := by unfold Uniform; decide
  have hrows : (Step.scan prices).Yields [["5", "b"], ["07", ""], ["+5", "a"], ["05", "b"]] :=
    Step.yields_scan rfl
  have hkeys : ∀ key ∈ greatestPrice, Uniform
      ([["5", "b"], ["07", ""], ["+5", "a"], ["05", "b"]].map (Row.cell · key.position)) := by
    simpa [greatestPrice, Row.cell] using huniform
  obtain ⟨ordered, hdelivers, hperm, -, hstable⟩ := delivers_sorted _ hrows hkeys
  refine ⟨huniform, ordered, hdelivers, hperm, ?_⟩
  rw [hstable _ (by simp)]
  decide

end Source

end CsvQuery
