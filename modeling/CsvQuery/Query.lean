import CsvQuery.Plan
import CsvQuery.Statement.Reader

/-!
Running queries: text to statement, statement to plan, plan to result. Tables are read anew for
every query, and a query that fails has no rows.
-/

namespace CsvQuery

structure Result where
  header : List String
  rows : List Row
  deriving DecidableEq, Repr

namespace Query

def parse (query : String) : Logged Error Statement := do
  let tokens ← .ofExcept (Token.lex query)
  .note [.debug .lexer s!"Produced {tokens.length} tokens"]
  let s ← .ofExcept (Statement.read tokens)
  .note [.debug .grammar s.describe]
  return s

/-- The result of a statement over the tables of a base directory. -/
def execute [Sorter] (files : Files) (base : String) (s : Statement) : Logged Halt Result := do
  let plan ← (Plan.ofStatement files base s).mapError .failed
  let rows ← plan.root.source.run
  .note [.debug (.execution s.tablesText) s!"Returned {rows.length} rows"]
  return ⟨plan.header, rows⟩

def run [Sorter] (files : Files) (base query : String) : Logged Halt Result := do
  let s ← (parse query).mapError .failed
  execute files base s

def paths (base query : String) : List String :=
  match (parse query).outcome with
  | .ok s => s.tables.map (Table.path base)
  | .error _ => []

def checkBase (files : Files) (base : String) : Except Error Unit :=
  if files.isDirectory base then .ok () else .error (.missingBase base)

end Query

end CsvQuery
