import Std.Data.TreeMap.Lemmas

/-!
Rows: lists of cells, each a text. A position outside a row reads as the empty text. Rows can be
gathered by a text that is made of each of them, their key, so that the rows with a given key are
found without looking at the others; in buckets the key is the text of one of their cells.
-/

namespace CsvQuery

/-- The cells of one record of a table, or of several records put side by side. -/
abbrev Row := List String

namespace Row

/-- The cell at a position, empty if the row is too short. -/
def cell (r : Row) (position : Nat) : String :=
  r.getD position ""

/-- The row with exactly `width` cells: a longer one is cut, a shorter one filled up with empty
cells. -/
def fit (r : Row) (width : Nat) : Row :=
  r.take width ++ List.replicate (width - r.length) ""

/-- The cells at the given positions, in their order. -/
def project (r : Row) (positions : List Nat) : Row :=
  positions.map r.cell

def text (r : Row) : String :=
  "Row [" ++ ", ".intercalate r ++ "]"

@[simp] theorem length_fit (r : Row) (width : Nat) : (r.fit width).length = width := by
  simp [fit]; omega

end Row

/-- Rows by their keys, the rows of each key in order. -/
structure RowIndex where
  map : Std.TreeMap String (List Row)

namespace RowIndex

def find (index : RowIndex) (key : String) : List Row :=
  index.map.getD key []

/-- The index with one more row in front of the others with its key. -/
def push (index : RowIndex) (key : String) (r : Row) : RowIndex :=
  ⟨index.map.insert key (r :: index.find key)⟩

def erase (index : RowIndex) (key : String) : RowIndex :=
  ⟨index.map.erase key⟩

def ofRows (key : Row → String) (rows : List Row) : RowIndex :=
  rows.foldr (fun r index => index.push (key r) r) ⟨∅⟩

def size (index : RowIndex) : Nat :=
  index.map.size

def toList (index : RowIndex) : List (String × List Row) :=
  index.map.toList

theorem find_push (index : RowIndex) (key other : String) (r : Row) :
    (index.push key r).find other =
      if key = other then r :: index.find key else index.find other := by
  simp [find, push, Std.TreeMap.getD_insert]

theorem find_erase (index : RowIndex) (key other : String) :
    (index.erase key).find other = if key = other then [] else index.find other := by
  simp [find, erase, Std.TreeMap.getD_erase]

theorem find_ofRows (key : Row → String) (rows : List Row) (k : String) :
    (ofRows key rows).find k = rows.filter (key · == k) := by
  induction rows with
  | nil => simp [ofRows, find]
  | cons r rest ih =>
    have step : ofRows key (r :: rest) = (ofRows key rest).push (key r) r := rfl
    rw [step, find_push]
    by_cases h : key r = k
    · subst h; simp [ih]
    · simp [h, ih]

end RowIndex

/-- The rows of a table by the text of their cells at a position. -/
structure Buckets where
  position : Nat
  rows : List Row
  index : RowIndex
  index_eq : index = RowIndex.ofRows (·.cell position) rows

namespace Buckets

def ofRows (position : Nat) (rows : List Row) : Buckets :=
  ⟨position, rows, .ofRows (·.cell position) rows, rfl⟩

def size (b : Buckets) : Nat :=
  b.index.size

def find (b : Buckets) (text : String) : List Row :=
  b.index.find text

def toList (b : Buckets) : List (String × List Row) :=
  b.index.toList

theorem find_eq_filter (b : Buckets) (text : String) :
    b.find text = b.rows.filter (·.cell b.position == text) := by
  rw [find, b.index_eq, RowIndex.find_ofRows]

theorem length_find_le (b : Buckets) (text : String) :
    (b.find text).length ≤ b.rows.length := by
  rw [find_eq_filter]
  exact List.length_filter_le _ _

end Buckets

end CsvQuery
