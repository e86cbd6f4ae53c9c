import CsvQuery.Expr
import CsvQuery.Text.Quoted

/-!
SELECT statements: the columns asked for, the tables they come from, and the clauses that filter,
group, order and limit the rows.
-/

namespace CsvQuery

structure SelectItem where
  /-- The aggregate function applied to the field, if any. -/
  aggregate : Option Aggregate
  field : String
  /-- The name given with AS. -/
  newName : Option String
  deriving DecidableEq, Repr

namespace SelectItem

/-- The name of the column in the result: the given one, else the field, behind the name of the
aggregate function and an underscore if there is one. -/
def outputName (item : SelectItem) : String :=
  match item.newName, item.aggregate with
  | some name, _ => name
  | none, none => item.field
  | none, some f => f.word ++ "_" ++ item.field

end SelectItem

inductive Selection
  /-- Every column of its tables. -/
  | all
  | items (list : List SelectItem)
  deriving DecidableEq, Repr

/-- The tables of a statement. The right side of a join is always a single table. -/
inductive Origin
  | table (name : String)
  | join (kind : JoinKind) (left : Origin) (right : String) (condition : Expr)
  deriving DecidableEq, Repr

/-- The names of the tables, from left to right. -/
def Origin.tables : Origin → List String
  | table name => [name]
  | join _ left right _ => left.tables ++ [right]

structure OrderKey where
  field : String
  direction : Direction
  deriving DecidableEq, Repr

structure Statement where
  selection : Selection
  origin : Origin
  condition : Option Expr
  groupBy : List String
  orderBy : List OrderKey
  limit : Option Nat
  deriving DecidableEq, Repr

namespace Statement

/-- The statement that only reads the given tables. -/
def reading (selection : Selection) (origin : Origin) : Statement :=
  ⟨selection, origin, none, [], [], none⟩

def isAggregation (s : Statement) : Bool :=
  !s.groupBy.isEmpty

def tables (s : Statement) : List String :=
  s.origin.tables

def tablesText (s : Statement) : String :=
  ", ".intercalate s.tables

def describe (s : Statement) : String :=
  let columns :=
    match s.selection with
    | .all => "*"
    | .items list => toString list.length
  let filtered := if s.condition.isSome then "true" else "false"
  let limit :=
    match s.limit with
    | none => "None"
    | some n => s!"Some({n})"
  let fields := Text.quoteAll s.groupBy
  s!"SELECT {columns} columns FROM {s.tablesText}. Where: {filtered}. Group by: {fields}. " ++
  s!"Order by: {s.orderBy.length} keys. Limit: {limit}"

end Statement

end CsvQuery
