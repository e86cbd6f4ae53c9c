import CsvQuery.Expectation
import CsvQuery.Files
import CsvQuery.Token

/-!
Every error of the library as a cause, and the text that reports it. Positions are code points
of the query, counted from zero.
-/

namespace CsvQuery

/-- Why a record of a table could not be read: a field is not valid UTF-8. Records count from
zero with the header, lines from one, fields, bytes and the place in the field from zero. -/
structure Undecodable where
  record : Nat
  line : Nat
  byte : Nat
  field : Nat
  /-- The number of bytes of the field before the first invalid one. -/
  valid : Nat
  deriving DecidableEq, Repr

/-- Why the condition of a join cannot be evaluated. -/
inductive JoinFault
  /-- It is not a comparison of two qualified columns. -/
  | notColumns
  /-- Neither column belongs to the joined table. -/
  | otherTable (joined : String)
  deriving DecidableEq, Repr

/-- Why a result could not be written to a file. -/
inductive ExportFault
  | exists
  | file (fault : Files.Fault)
  /-- A record has another number of fields than the one before it. -/
  | unequal (fields previous : Nat)
  deriving DecidableEq, Repr

inductive Error
  /-- A character that starts no token, where a token was looked for. -/
  | unexpectedCharacter (position : Nat) (c : Char)
  /-- A hyphen inside an identifier. -/
  | hyphen (position : Nat)
  /-- A number literal above the largest integer. -/
  | numberTooLarge (position : Nat)
  /-- A token that the grammar does not allow at its place. -/
  | unexpected (position : Nat) (wanted : Expectation) (found : Token)
  | tableNotFound (table path : String)
  | unreadableTable (table : String) (cause : Undecodable)
  | unknownColumn (name : String)
  /-- A bare name that several columns have, with the tables of those columns. -/
  | ambiguousColumn (name : String) (tables : List String)
  | unsupportedJoin (cause : JoinFault)
  /-- An aggregate column in a query without grouping. -/
  | ungroupedAggregate (name : String)
  | unreadableOptions (path : String) (cause : Files.Fault)
  | unwritableOptions (path : String) (cause : Files.Fault)
  | malformedOptions (path : String)
  | unreadableVariables (path : String) (cause : Files.Fault)
  | malformedVariables (path : String)
  | unwritableVariables (path : String) (cause : Files.Fault)
  | unlistableTables (path : String) (cause : Files.Fault)
  | failedExport (path : String) (cause : ExportFault)
  | missingBase (path : String)
  deriving DecidableEq, Repr

def Undecodable.message (u : Undecodable) : String :=
  s!"CSV parse error: record {u.record} (line {u.line}, field: {u.field}, byte: {u.byte}): " ++
  s!"invalid utf-8: invalid UTF-8 in field {u.field} near byte index {u.valid}"

def JoinFault.message : JoinFault → String
  | notColumns => "ON must compare two table.field columns"
  | otherTable joined => s!"ON must reference a column of the joined table {joined}"

/-- How the cause is worded inside the message about an export. -/
def ExportFault.message : ExportFault → String
  | .exists => "File already exists"
  | file fault => fault.message
  | unequal fields previous =>
    s!"CSV error: found record with {fields} fields, but the previous record has " ++
    s!"{previous} fields"

namespace Error

/-- The detail that stands in a message for the cause of malformed JSON. -/
def malformedDetail : String := "<json error>"

def message : Error → String
  | unexpectedCharacter position c =>
    s!"Syntax error at position {position}: Unexpected character {c}"
  | hyphen position => s!"Syntax error at position {position}: Identifiers cannot contain '-'"
  | numberTooLarge position => s!"Syntax error at position {position}: number is out of range"
  | unexpected position wanted found =>
    s!"Syntax error at position {position}: {wanted.message}. Found {found.describe}"
  | tableNotFound table path => s!"Table not found: {table}. File: {path}"
  | unreadableTable table cause => s!"Cannot read table {table}. Error: {cause.message}"
  | unknownColumn name => s!"Unknown column \"{name}\""
  | ambiguousColumn name tables =>
    s!"Column reference \"{name}\" is ambiguous. It exists in tables: " ++
    ", ".intercalate tables
  | unsupportedJoin cause => s!"Unsupported join condition: {cause.message}"
  | ungroupedAggregate name => s!"Aggregate column {name} requires a GROUP BY clause"
  | unreadableOptions path cause =>
    s!"Cannot read options file {path}. IO Error: {cause.message}"
  | unwritableOptions path cause =>
    s!"Cannot write options file {path}. IO Error: {cause.message}"
  | malformedOptions path => s!"Cannot decode options file {path}. Error: {malformedDetail}"
  | unreadableVariables path cause =>
    s!"Cannot read variables file {path}. IO Error: {cause.message}"
  | malformedVariables path => s!"Cannot decode variables file {path}. Error: {malformedDetail}"
  | unwritableVariables path cause =>
    s!"Cannot write variables file {path}. IO Error: {cause.message}"
  | unlistableTables path cause => s!"Cannot list tables in {path}. IO Error: {cause.message}"
  | failedExport path cause => s!"Cannot export result to {path}. {cause.message}"
  | missingBase path => s!"Directory not found: {path}"

/-- The place in the query of a lexical or syntax error. No other error has one. -/
def position? : Error → Option Nat
  | unexpectedCharacter position _ | hyphen position | numberTooLarge position
  | unexpected position _ _ => some position
  | _ => none

end Error

/-- Why there is no result. -/
inductive Halt
  | failed (cause : Error)
  /-- The program was broken off. -/
  | aborted
  deriving DecidableEq, Repr

end CsvQuery
