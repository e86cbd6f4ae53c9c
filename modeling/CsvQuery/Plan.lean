import CsvQuery.Plan.Step

/-!
Planning: from a statement to the steps that make its rows. Tables are joined, then filtered,
grouped, sorted, limited and projected. Every name is resolved here, so a statement with an unknown
or ambiguous column is refused before any row of its first table is read.
-/

namespace CsvQuery

/-- A column of the result: its name and its position in the rows before the projection. -/
structure OutputColumn where
  name : String
  position : Nat
  deriving DecidableEq, Repr

/-- The steps of a statement with the header of its result. -/
structure Plan where
  header : List String
  root : Step

namespace Plan

/-- The operator of a join condition, the column of the left side and the field of the joined
table that it compares. -/
def joinColumns (joined : String) : Expr → Except Error (BinaryOp × Column × String)
  | .binary op (.qualified table name) (.qualified table' name') =>
    if table' = joined then .ok (op, ⟨table, name⟩, name')
    else if table = joined then .ok (op, ⟨table', name'⟩, name)
    else .error (.unsupportedJoin (.otherTable joined))
  | _ => .error (.unsupportedJoin .notColumns)

/-- The warning that a condition is not taken for what it says. -/
def operatorNote (joined : String) (op : BinaryOp) : List Log.Entry :=
  if op = .compare .equal then []
  else [.warning (.execution joined)
    s!"Only equality is evaluated in ON clauses. {op.name} is evaluated as ="]

/-- The warning that a join is not taken for what it says. -/
def kindNote (joined : String) (kind : JoinKind) : List Log.Entry :=
  if kind = .inner then []
  else [.warning (.execution joined) s!"{kind.name} join is evaluated as an inner join"]

/-- The step that makes the rows of the tables, with its columns. -/
def ofOrigin (files : Files) (base : String) : Origin → Logged Error (Step × Schema)
  | .table name => do
    let table ← .ofExcept (Table.read files base name)
    return (.scan table, table.schema)
  | .join kind left right condition => do
    let (step, schema) ← ofOrigin files base left
    let (op, leftColumn, rightField) ← .ofExcept (joinColumns right condition)
    .note (operatorNote right op)
    let position ← .ofExcept (schema.resolveQualified leftColumn.table leftColumn.name)
    let table ← .ofExcept (Table.read files base right)
    let buckets ← table.bucketed rightField
    .note (kindNote right kind)
    return (.join kind right buckets position step, schema.join table.schema)

def allColumns (schema : Schema) : List OutputColumn :=
  schema.header.zipIdx.map fun entry => ⟨entry.1, entry.2⟩

def plainColumn (schema : Schema) (item : SelectItem) : Except Error OutputColumn := do
  let position ← schema.resolve item.field
  return ⟨item.outputName, position⟩

def plainColumns (schema : Schema) : List SelectItem → Except Error (List OutputColumn)
  | [] => .ok []
  | item :: rest => do
    if item.aggregate.isSome then throw (.ungroupedAggregate item.outputName)
    let column ← plainColumn schema item
    let columns ← plainColumns schema rest
    return column :: columns

/-- The columns of the result of a statement with grouping, and the aggregates that they need.
The result of aggregate number `n` stands at position `n` behind the columns of the schema. -/
def groupedColumns (schema : Schema) (n : Nat) :
    List SelectItem → Except Error (List OutputColumn × List AggregateColumn)
  | [] => .ok ([], [])
  | item :: rest =>
    match item.aggregate with
    | none => do
      let column ← plainColumn schema item
      let (columns, aggregates) ← groupedColumns schema n rest
      return (column :: columns, aggregates)
    | some f => do
      let position ← schema.resolve item.field
      let (columns, aggregates) ← groupedColumns schema (n + 1) rest
      return (⟨item.outputName, schema.width + n⟩ :: columns, ⟨f, position⟩ :: aggregates)

/-- The step that groups rows, if the statement does, and the columns of the result. -/
def ofSelection (s : Statement) (schema : Schema) (step : Step) :
    Except Error (Step × List OutputColumn) := do
  if s.isAggregation then
    let positions ← s.groupBy.mapM schema.resolve
    let (columns, aggregates) ←
      match s.selection with
      | .all => .ok (allColumns schema, [])
      | .items list => groupedColumns schema 0 list
    return (.aggregate s.tablesText s.groupBy positions aggregates step, columns)
  else
    let columns ←
      match s.selection with
      | .all => .ok (allColumns schema)
      | .items list => plainColumns schema list
    return (step, columns)

/-- The sort key of a key of ORDER BY. A column of the result goes before one of the tables. -/
def sortKey (schema : Schema) (columns : List OutputColumn) (key : OrderKey) :
    Except Error SortKey :=
  match columns.find? fun column => column.name == key.field with
  | some column => .ok ⟨column.position, key.direction⟩
  | none => do
    let position ← schema.resolve key.field
    return ⟨position, key.direction⟩

/-- The step that keeps the rows that pass the condition, if there is one. -/
def withCondition (condition : Option Expr) (schema : Schema) (step : Step) :
    Except Error Step := do
  match condition with
  | none => return step
  | some e =>
    e.check schema
    return .filter e schema step

def withOrder (orderBy : List OrderKey) (schema : Schema) (columns : List OutputColumn)
    (step : Step) : Except Error Step := do
  if orderBy.isEmpty then return step
  let keys ← orderBy.mapM (sortKey schema columns)
  return .sort keys step

/-- The step that limits rows, if there is a limit. A limit of zero is none. -/
def withLimit (most : Option Nat) (step : Step) : Step :=
  match most with
  | some (n + 1) => .limit (n + 1) step
  | _ => step

/-- The plan above the step that makes the rows of the tables. -/
def ofClauses (s : Statement) (schema : Schema) (step : Step) : Except Error Plan := do
  let filtered ← withCondition s.condition schema step
  let (grouped, columns) ← ofSelection s schema filtered
  let sorted ← withOrder s.orderBy schema columns grouped
  let header := columns.map (·.name)
  return ⟨header, .project header (columns.map (·.position)) (withLimit s.limit sorted)⟩

/-- The plan of a statement over the tables of a base directory. -/
def ofStatement (files : Files) (base : String) (s : Statement) : Logged Error Plan := do
  let (step, schema) ← ofOrigin files base s.origin
  .ofExcept (ofClauses s schema step)

end Plan

end CsvQuery
