import CsvQuery.Error
import CsvQuery.Sorter
import CsvQuery.Value
import CsvQuery.Vocabulary

/-!
The order of rows under ORDER BY: the first key on which two rows differ decides, and rows that
agree on all keys keep their order.
-/

namespace CsvQuery

/-- A position of a row and the direction in which it orders. -/
structure SortKey where
  position : Nat
  direction : Direction
  deriving DecidableEq, Repr

namespace SortKey

def compare (key : SortKey) (a b : Row) : Ordering :=
  let order := compareCells (a.cell key.position) (b.cell key.position)
  match key.direction with
  | .ascending => order
  | .descending => order.swap

/-- The order of two rows under several keys, the first one first. -/
def compareAll : List SortKey → Row → Row → Ordering
  | [], _, _ => .eq
  | key :: keys, a, b =>
    match key.compare a b with
    | .eq => compareAll keys a b
    | order => order

variable [Sorter] {keys : List SortKey} {rows sorted : List Row}

/-- The rows in order. Where the keys do not order them, the sorting may break off. -/
def sort (keys : List SortKey) (rows : List Row) : Except Halt (List Row) :=
  match Sorter.sort (compareAll keys) rows with
  | some sorted => .ok sorted
  | none => .error .aborted

theorem sort_perm (h : sort keys rows = .ok sorted) : sorted.Perm rows := by
  unfold sort at h
  split at h
  · rename_i hsort
    cases h
    exact Sorter.perm hsort
  · cases h

theorem length_le_of_sort (h : sort keys rows = .ok sorted) : sorted.length ≤ rows.length :=
  Nat.le_of_eq (sort_perm h).length_eq

theorem sort_of_transOn (h : TransOn rows (compareAll keys)) :
    ∃ sorted, sort keys rows = .ok sorted ∧ StableSort (compareAll keys) rows sorted := by
  obtain ⟨sorted, hsort, hstable⟩ := Sorter.stable h
  exact ⟨sorted, by rw [sort, hsort], hstable⟩

/-- Only rows that the keys do not order break the sorting off. -/
theorem of_sort_eq_error {halt : Halt} (h : sort keys rows = .error halt) :
    halt = .aborted ∧ ¬TransOn rows (compareAll keys) := by
  constructor
  · unfold sort at h
    split at h
    · cases h
    · cases h
      rfl
  · intro htrans
    obtain ⟨sorted, hsort, -⟩ := sort_of_transOn htrans
    rw [hsort] at h
    cases h

end SortKey

end CsvQuery
