import CsvQuery.Proofs.Table.Columns
import CsvQuery.Query
import Mathlib.Data.List.Sort

/-!
The answer to a statement, read as operations on whole lists of rows, one clause after the other.
Cells are found by the names of their columns: there are no positions, steps or pulls here.
-/

namespace CsvQuery

def cellUnder {α : Type} (labels : List α) (test : α → Bool) (r : Row) : String :=
  (((labels.zip r).find? fun entry => test entry.1).map (·.2)).getD ""

def Schema.cellNamed (schema : Schema) (name : String) (r : Row) : String :=
  cellUnder schema.columns (·.name == name) r

def Schema.cellOf (schema : Schema) (c : Column) (r : Row) : String :=
  cellUnder schema.columns (fun c' => c'.table == c.table && c'.name == c.name) r

structure Relation where
  schema : Schema
  rows : List Row

/-- The rows of a table that can be read, padded or cut to the width of its header. -/
def Table.relation (t : Table) : Relation :=
  ⟨t.schema, t.records.filterMap fun record => record.toOption.map (Row.fit · t.header.length)⟩

/-- The table of the base directory with a name, read as a list. -/
def Relation.ofName (files : Files) (base name : String) : Relation :=
  match Table.read files base name with
  | .ok t => t.relation
  | .error _ => ⟨.empty, []⟩

/-- Each row of the left with every row of the right that has the same text in a column. -/
def Relation.join (left right : Relation) (a b : Column) : Relation :=
  ⟨left.schema.join right.schema,
    left.rows.flatMap fun l =>
      (right.rows.filter fun r => left.schema.cellOf a l == right.schema.cellOf b r).map (l ++ ·)⟩

/-- The columns that the condition of a join names: one of the tables before, and one of the joined
table. The operator between them does not matter. -/
def joinSides (joined : String) : Expr → Option (Column × Column)
  | .binary _ (.qualified table name) (.qualified table' name') =>
    if table' = joined then some (⟨table, name⟩, ⟨table', name'⟩)
    else if table = joined then some (⟨table', name'⟩, ⟨table, name⟩)
    else none
  | _ => none

/-- The tables, joined from left to right. -/
def Origin.relation (files : Files) (base : String) : Origin → Relation
  | table name => .ofName files base name
  | join _ left right condition =>
    match joinSides right condition with
    | some (a, b) => (left.relation files base).join (.ofName files base right) a b
    | none => ⟨.empty, []⟩

/-- The aggregate function of a column of the select list with its field, if there is one. -/
def SelectItem.call? (item : SelectItem) : Option (Aggregate × String) :=
  item.aggregate.map fun f => (f, item.field)

namespace Statement

variable (files : Files) (base : String) (s : Statement)

def schema : Schema :=
  (s.origin.relation files base).schema

/-- Whether a row passes the WHERE clause: its value is not the integer zero. -/
def passes (r : Row) : Bool :=
  match s.condition with
  | none => true
  | some e =>
    match e.eval (s.schema files base) r with
    | .ok v => v != .integer 0
    | .error _ => false

def passing : List Row :=
  (s.origin.relation files base).rows.filter (s.passes files base)

def groupKey (r : Row) : String :=
  "groupBy" ++
    String.join (s.groupBy.map fun name => "\x1f" ++ (s.schema files base).cellNamed name r)

/-- The aggregate functions of the select list with their fields. -/
def calls : List (Aggregate × String) :=
  match s.selection with
  | .all => []
  | .items list => list.filterMap (·.call?)

/-- What a function makes of a group of rows. The cells of a column that makes the groups do not
count. -/
def result (group : List Row) (call : Aggregate × String) : String :=
  call.1.reduce <|
    if s.groupBy.contains call.2 then []
    else group.map ((s.schema files base).cellNamed call.2)

/-- The row of a group: its first row followed by the results of the aggregate functions. -/
def groupRow (group : List Row) : Row :=
  group.headD [] ++ s.calls.map (s.result files base group)

/-- The rows behind the GROUP BY clause: one for each key, in the order in which the keys are first
seen. -/
def grouped : List Row :=
  if s.groupBy = [] then s.passing files base
  else
    ((s.passing files base).map (s.groupKey files base)).eraseDups.map fun key =>
      s.groupRow files base ((s.passing files base).filter fun r => s.groupKey files base r == key)

def itemCell (item : SelectItem) (r : Row) : String :=
  match item.aggregate with
  | none => (s.schema files base).cellNamed item.field r
  | some f =>
    cellUnder s.calls (· == (f, item.field)) (r.drop (s.schema files base).width)

/-- The cell that a key of ORDER BY names: that of a column of the result, else that of a column of
the tables. -/
def keyCell (field : String) (r : Row) : String :=
  match s.selection with
  | .all => (s.schema files base).cellNamed field r
  | .items list =>
    match list.find? fun item => item.outputName == field with
    | some item => s.itemCell files base item r
    | none => (s.schema files base).cellNamed field r

/-- The order of two rows under keys, the first one first. -/
def compareKeys (keys : List OrderKey) (a b : Row) : Ordering :=
  match keys with
  | [] => .eq
  | key :: keys =>
    let order := compareCells (s.keyCell files base key.field a) (s.keyCell files base key.field b)
    let directed :=
      match key.direction with
      | .ascending => order
      | .descending => order.swap
    directed.then (compareKeys keys a b)

/-- The rows behind the ORDER BY clause. Rows that no key tells apart keep their order. -/
def ordered : List Row :=
  (s.grouped files base).insertionSort fun a b => s.compareKeys files base s.orderBy a b ≠ .gt

/-- The rows behind the LIMIT clause. A limit of zero is none. -/
def limited : List Row :=
  match s.limit with
  | none | some 0 => s.ordered files base
  | some n => (s.ordered files base).take n

def outputHeader : List String :=
  match s.selection with
  | .all => (s.schema files base).header
  | .items list => list.map (·.outputName)

def outputRow (r : Row) : Row :=
  match s.selection with
  | .all => r.take (s.schema files base).width
  | .items list => list.map fun item => s.itemCell files base item r

def answer : Result :=
  ⟨s.outputHeader files base, (s.limited files base).map (s.outputRow files base)⟩

end Statement

end CsvQuery
