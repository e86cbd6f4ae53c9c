import CsvQuery.Text.Blank

/-!
The built-in commands of the shell. A line whose first word is not a command, or whose arguments
are not those of one, is a statement, except where a usage text is shown.
-/

namespace CsvQuery

inductive VariableCommand
  | set (name value : String)
  | get (name : String)
  | unset (name : String)
  | list
  deriving DecidableEq, Repr

inductive Usage
  | save
  | history
  | assignment
  deriving DecidableEq, Repr

def Usage.text : Usage → String
  | save => "Usage: export <file>"
  | history => "Usage: history [-d]"
  | assignment =>
    "Usage: variable <name>=<value> | variable -g <name> | variable -u <name> | variable -l"

inductive Command
  | exit
  | help
  | clear
  | tables
  | history
  | clearHistory
  /-- Write the last result to a file. -/
  | save (path : String)
  | onVariables (command : VariableCommand)
  /-- A command with arguments that it does not take. -/
  | misused (usage : Usage)
  | statement (text : String)
  deriving DecidableEq, Repr

namespace Command

/-- The assignment of an argument text: a name that is not blank, an equals sign and a value. -/
def assignment? (arguments : String) : Option VariableCommand :=
  match Text.splitAtFirst (· == '=') arguments with
  | some (name, value) =>
    if (Text.trim name).isEmpty then none else some (.set (Text.trim name) (Text.trim value))
  | none => none

def variableCommand? (arguments : String) : Option VariableCommand :=
  let (flag, name) := Text.firstWord arguments
  if flag = "-l" ∧ name = "" then some .list
  else if flag = "-g" ∧ name ≠ "" then some (.get name)
  else if flag = "-u" ∧ name ≠ "" then some (.unset name)
  else assignment? arguments

def ofLine (line : String) : Command :=
  let line := Text.trim line
  let (name, arguments) := Text.firstWord line
  match name, arguments with
  | "exit", "" => exit
  | "help", "" => help
  | "clear", "" => clear
  | "tables", "" => tables
  | "history", "" => history
  | "history", "-d" => clearHistory
  | "history", _ => misused .history
  | "export", "" => misused .save
  | "export", path => save path
  | "variable", arguments =>
    match variableCommand? arguments with
    | some command => onVariables command
    | none => misused .assignment
  | _, _ => statement line

end Command

end CsvQuery
