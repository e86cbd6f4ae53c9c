import CsvQuery.Row
import CsvQuery.Source
import CsvQuery.Table

/-!
The rows of a table as a source, and all of them at once in buckets. Every row gets the width of
the header.
-/

namespace CsvQuery.Table

/-- The records still to be read, and the number of rows read so far. -/
structure Scanning where
  rest : List (Except Undecodable (List String))
  count : Nat

def scanPull (t : Table) (s : Scanning) : Pull Error Scanning :=
  match s.rest with
  | [] => ⟨none, s, [.debug (.execution t.name) s!"Scanned {s.count} rows"]⟩
  | .error cause :: rest =>
    ⟨some (.error (.unreadableTable t.name cause)), ⟨rest, s.count⟩, []⟩
  | .ok cells :: rest =>
    ⟨some (.ok (Row.fit cells t.header.length)), ⟨rest, s.count + 1⟩, []⟩

def scan (t : Table) : Source Error where
  State := Scanning
  start := ⟨t.records, 0⟩
  pull := t.scanPull
  bound s := s.rest.length
  bound_lt s h := by
    unfold scanPull at h ⊢
    split at h <;> simp_all

/-- The rows of a table by the text of their cells in a column. -/
def bucketed (t : Table) (field : String) : Logged Error Buckets := do
  let position ← .ofExcept (t.schema.resolveQualified t.name field)
  let rows ← t.scan.run
  let buckets := Buckets.ofRows position rows
  .note [.debug (.execution t.name)
    s!"Bucketed {rows.length} rows by {field} into {buckets.size} buckets"]
  return buckets

end CsvQuery.Table
