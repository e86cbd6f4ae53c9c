/-!
The arguments of the program: a base directory, and options in the usual spellings. They are read
from left to right, and the first one that asks for help or for the version, or that is wrong,
decides.
-/

namespace CsvQuery

structure Arguments where
  /-- The directory of the tables. -/
  base : Option String
  /-- The file with the options. -/
  options : Option String
  /-- Whether debug logging is asked for. -/
  debugging : Bool
  /-- The only statement to run. -/
  statement : Option String
  deriving DecidableEq, Repr

inductive Invocation
  | run (arguments : Arguments)
  | help
  | version
  /-- The arguments are wrong. -/
  | misused
  deriving DecidableEq, Repr

namespace Arguments

def empty : Arguments := ⟨none, none, false, none⟩

inductive Slot
  | options
  | statement
  deriving DecidableEq, Repr

/-- The arguments with a value for a slot, which takes only one. -/
def fill (a : Arguments) (value : String) : Slot → Except Invocation Arguments
  | .options => if a.options.isSome then .error .misused else .ok { a with options := some value }
  | .statement =>
    if a.statement.isSome then .error .misused else .ok { a with statement := some value }

/-- The arguments with debug logging, which is asked for only once. -/
def debug (a : Arguments) : Except Invocation Arguments :=
  if a.debugging then .error .misused else .ok { a with debugging := true }

/-- The arguments with a base directory. There is only one. -/
def setBase (a : Arguments) (value : String) : Except Invocation Arguments :=
  if a.base.isSome then .error .misused else .ok { a with base := some value }

/-- What has been read, and what the next argument is. -/
structure Progress where
  arguments : Arguments
  /-- The slot that the next argument is the value of. -/
  awaiting : Option Slot
  /-- Whether no more options can follow. -/
  plain : Bool
  deriving DecidableEq, Repr

def Progress.start : Progress := ⟨empty, none, false⟩

/-- The progress after a slot was named, with its value or without. -/
def Progress.name (p : Progress) (slot : Slot) : Option String → Except Invocation Progress
  | some value => return { p with arguments := ← p.arguments.fill value slot }
  | none => .ok { p with awaiting := some slot }

/-- The name of a long option and the text behind its first equals sign. -/
def splitValue (cs : List Char) : String × Option String :=
  (String.ofList (cs.takeWhile (· != '=')),
    match cs.dropWhile (· != '=') with
    | [] => none
    | _ :: value => some (String.ofList value))

/-- The progress after an argument with two hyphens before it. -/
def Progress.long (p : Progress) (cs : List Char) : Except Invocation Progress :=
  match splitValue cs with
  | ("options", value) => p.name .options value
  | ("execute", value) => p.name .statement value
  | ("debug", none) => return { p with arguments := ← p.arguments.debug }
  | ("help", none) => .error .help
  | ("version", none) => .error .version
  | _ => .error .misused

/-- The progress after an argument with one hyphen before it. A value may follow its letter
directly, or behind an equals sign. -/
def Progress.short (p : Progress) : List Char → Except Invocation Progress
  | 'h' :: _ => .error .help
  | 'V' :: _ => .error .version
  | ['e'] => p.name .statement none
  | 'e' :: '=' :: value => p.name .statement (some (String.ofList value))
  | 'e' :: value => p.name .statement (some (String.ofList value))
  | _ => .error .misused

/-- The progress after an argument. A value that starts with a hyphen has to be attached to its
option, and a single hyphen is no option. -/
def Progress.step (p : Progress) (argument : String) : Except Invocation Progress :=
  match p.awaiting, p.plain, argument.toList with
  | some _, _, '-' :: _ :: _ => .error .misused
  | some slot, plain, _ => return ⟨← p.arguments.fill argument slot, none, plain⟩
  | none, false, ['-', '-'] => .ok { p with plain := true }
  | none, false, '-' :: '-' :: cs => p.long cs
  | none, false, '-' :: c :: cs => p.short (c :: cs)
  | none, _, _ => return { p with arguments := ← p.arguments.setBase argument }

def read (list : List String) : Invocation :=
  match list.foldlM Progress.step Progress.start with
  | .ok p => if p.awaiting.isSome then .misused else .run p.arguments
  | .error invocation => invocation

end Arguments

end CsvQuery
