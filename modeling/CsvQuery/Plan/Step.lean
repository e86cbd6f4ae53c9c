import CsvQuery.Aggregation
import CsvQuery.Expr.Eval
import CsvQuery.SortKey
import CsvQuery.Statement
import CsvQuery.Table.Scan

/-!
The steps of a plan. Each step but the scan of a table reads the rows of the step below it; all
column names have become positions of those rows.
-/

namespace CsvQuery

/-- A step and the steps below it. -/
inductive Step
  /-- The rows of a table. -/
  | scan (table : Table)
  /-- Each row with every row of a table that has the same text in a column. -/
  | join (kind : JoinKind) (table : String) (right : Buckets) (leftPosition : Nat) (source : Step)
  /-- The rows that pass a condition. -/
  | filter (condition : Expr) (schema : Schema) (source : Step)
  /-- One row for each group of rows. -/
  | aggregate (tables : String) (fields : List String) (positions : List Nat)
    (columns : List AggregateColumn) (source : Step)
  /-- The rows in order. -/
  | sort (keys : List SortKey) (source : Step)
  /-- The first rows. -/
  | limit (most : Nat) (source : Step)
  /-- The cells of each row at some positions. -/
  | project (header : List String) (positions : List Nat) (source : Step)

namespace Step

def groupNote (tables : String) (fields : List String) (groups : List Row) : List Log.Entry :=
  let names := Text.quoteAll fields
  [.debug (.execution tables) s!"Grouped by {names} into {groups.length} groups"]

/-- The rows that a row makes when it is joined with buckets. -/
def joined (right : Buckets) (leftPosition : Nat) (left : Row) : List Row :=
  (right.find (left.cell leftPosition)).map (left ++ ·)

theorem length_joined_le (right : Buckets) (position : Nat) (left : Row) :
    (joined right position left).length ≤ right.rows.length := by
  simpa [joined] using right.length_find_le (left.cell position)

end Step

namespace Source

variable {ε : Type}

def joined (src : Source ε) (table : String) (right : Buckets) (position : Nat) : Source ε :=
  src.expand (Step.joined right position)
    (fun count => [.debug (.execution table) s!"Join produced {count} rows"]) right.rows.length
    (Step.length_joined_le right position)

def grouped (src : Source ε) (tables : String) (fields : List String) (positions : List Nat)
    (columns : List AggregateColumn) : Source ε :=
  src.gather (fun rows => .ok (Group.summaries positions columns rows))
    (Step.groupNote tables fields) (fun rows _ h => by
      cases h
      exact Group.length_summaries_le positions columns rows)

def sorted [Sorter] (src : Source Halt) (keys : List SortKey) : Source Halt :=
  src.gather (SortKey.sort keys) (fun _ => []) fun _ _ => SortKey.length_le_of_sort

end Source

namespace Step

def source [Sorter] : Step → Source Halt
  | scan table => table.scan.mapError .failed
  | join _ table right position step => step.source.joined table right position
  | filter condition schema step =>
    step.source.filter fun r => (condition.passes schema r).mapError .failed
  | aggregate tables fields positions columns step =>
    step.source.grouped tables fields positions columns
  | sort keys step => step.source.sorted keys
  | limit most step => step.source.take most
  | project _ positions step => step.source.map (Row.project · positions)

/-- A step without the steps below it, as a description of a plan shows it. -/
inductive Layer
  | scan (table : String)
  | join (kind : JoinKind) (table : String)
  | filter
  | aggregate (fields : List String)
  | sort (keys : List SortKey)
  | limit (most : Nat)
  | project (header : List String)
  deriving DecidableEq, Repr

/-- The description of a step and the steps below it, from the outermost to the scan. -/
def layers : Step → List Layer
  | scan table => [.scan table.name]
  | join kind table _ _ step => .join kind table :: step.layers
  | filter _ _ step => .filter :: step.layers
  | aggregate _ fields _ _ step => .aggregate fields :: step.layers
  | sort keys step => .sort keys :: step.layers
  | limit most step => .limit most :: step.layers
  | project header _ step => .project header :: step.layers

end Step

end CsvQuery
