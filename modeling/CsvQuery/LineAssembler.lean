import CsvQuery.Text.Blank

/-!
Statements over several lines: a line that ends with a backslash goes on in the next one.
-/

namespace CsvQuery

/-- The lines of an unfinished statement, without their backslashes. -/
structure LineAssembler where
  pending : List String
  deriving DecidableEq, Repr

namespace LineAssembler

def empty : LineAssembler := ⟨[]⟩

def isPending (a : LineAssembler) : Bool :=
  !a.pending.isEmpty

/-- The text before a backslash at the end of a line, if there is one. -/
def continued? (line : String) : Option String :=
  match line.toList.reverse with
  | '\\' :: rest => some (String.ofList rest.reverse)
  | _ => none

/-- The lines that are not empty, with a space between them. -/
def assemble (lines : List String) : String :=
  " ".intercalate (lines.filter fun line => !line.isEmpty)

/-- The assembler after one more line, and the statement that the line ends, if it ends one. -/
def addLine (a : LineAssembler) (line : String) : LineAssembler × Option String :=
  let line := Text.trim line
  match continued? line with
  | some part => (⟨a.pending ++ [Text.trim part]⟩, none)
  | none => (empty, some (assemble (a.pending ++ [line])))

end LineAssembler

end CsvQuery
