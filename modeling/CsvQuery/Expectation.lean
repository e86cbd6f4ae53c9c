import CsvQuery.Vocabulary

/-!
What the grammar wants at a place of a query. A syntax error says which of these was wanted
where another token was found.
-/

namespace CsvQuery

inductive CallPart
  | opening | argument | closing
  deriving DecidableEq, Repr

/-- What may stand at a place of a query. -/
inductive Expectation
  /-- The word SELECT. -/
  | select
  /-- A column of the select list. -/
  | column
  /-- A part of the call of an aggregate function. -/
  | call (f : Aggregate) (part : CallPart)
  /-- A new name after AS. -/
  | newName
  /-- The word FROM. -/
  | source
  /-- The table after FROM. -/
  | table
  /-- The table after JOIN. -/
  | joinedTable
  /-- The word ON. -/
  | matching
  /-- A column after GROUP BY. -/
  | groupColumn
  /-- A column after ORDER BY. -/
  | orderColumn
  /-- The number after LIMIT. -/
  | limit
  /-- A clause that comes later in the order of clauses. -/
  | laterClause
  /-- Nothing more. -/
  | nothing
  /-- An operand of a WHERE expression. -/
  | operand
  /-- An operand of an ON expression. -/
  | qualifiedColumn
  /-- The dot of a qualified column. -/
  | qualifyingDot
  /-- The field of a qualified column. -/
  | qualifiedField
  /-- A bound of BETWEEN. -/
  | bound
  /-- The word AND of BETWEEN. -/
  | boundSeparator
  /-- The parenthesis that opens an IN list. -/
  | listOpening
  /-- A literal of an IN list. -/
  | listItem
  /-- A comma or the parenthesis that closes an IN list. -/
  | listSeparator
  /-- What the caller of a token cursor wants, in the caller's words. -/
  | described (text : String)
  deriving DecidableEq, Repr

def Expectation.message : Expectation → String
  | select => "No SELECT statement found"
  | column => "Expected column name"
  | call f .opening => "Malformed " ++ f.word ++ " call. Expected ("
  | call f .argument => "Malformed " ++ f.word ++ " call. Expected column name"
  | call f .closing => "Malformed " ++ f.word ++ " call. Expected )"
  | newName => "Expected alias after AS"
  | source => "No FROM statement found"
  | table => "Expected table name after FROM"
  | joinedTable => "Expected table name after JOIN"
  | matching => "Expected ON after joined table"
  | groupColumn => "Expected column name in GROUP BY"
  | orderColumn => "Expected column name in ORDER BY"
  | limit => "Expected number after LIMIT"
  | laterClause =>
    "Clause out of order. Clauses must follow the order WHERE, GROUP BY, ORDER BY, LIMIT"
  | nothing => "Unexpected token"
  | operand => "Expected a number, a string or a column name"
  | qualifiedColumn => "Expected a column reference like table.field"
  | qualifyingDot => "Malformed qualified column. Expected '.' between table and field"
  | qualifiedField => "Malformed qualified column. Expected field name after '.'"
  | bound => "Unterminated BETWEEN. Expected a bound"
  | boundSeparator => "Unterminated BETWEEN. Expected AND between both bounds"
  | listOpening => "Malformed IN list. Expected ("
  | listItem => "Malformed IN list. Only number and string literals are allowed"
  | listSeparator => "Unterminated IN list. Expected , or )"
  | described text => text

end CsvQuery
