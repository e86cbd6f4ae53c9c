import CsvQuery.Command
import CsvQuery.Export
import CsvQuery.Grid
import CsvQuery.History
import CsvQuery.LineAssembler
import CsvQuery.Options
import CsvQuery.Table
import CsvQuery.Variables

/-!
The shell as a state that lines change. A line is a command, a part of a statement or nothing; a
command or a whole statement gives a reply: the state and the files afterwards, what is shown and
what is logged.
-/

namespace CsvQuery

inductive Output
  | line (text : String)
  /-- A table, with the number of its rows and the time that they took below it. -/
  | table (grid : Grid)
  deriving DecidableEq, Repr

def Output.text (micros : Nat) : Output → String
  | line text => text ++ "\n"
  | table grid => grid.render ++ grid.summary micros ++ "\n"

structure Shell where
  options : Options
  store : Variables
  history : History
  assembler : LineAssembler
  /-- The result of the last statement that had one. -/
  last : Option Result
  deriving DecidableEq, Repr

structure Reply where
  shell : Shell
  files : Files
  output : List Output
  log : List Log.Entry
  /-- Whether the program is broken off. -/
  aborts : Bool

namespace Shell

def silent (s : Shell) (files : Files) : Reply := ⟨s, files, [], [], false⟩

def say (s : Shell) (files : Files) (lines : List String) : Reply :=
  { s.silent files with output := lines.map .line }

def failure (e : Error) : Log.Entry :=
  .debug .shell s!"Statement failed: {e.message}"

def report (s : Shell) (files : Files) (e : Error) : Reply :=
  { s.say files [s!"Error: {e.message}"] with log := [failure e] }

def helpLines (base : String) : List String := [
  "Commands:",
  "  exit                     Save the history and quit",
  "  help                     Show this message",
  "  clear                    Clear the screen",
  "  tables                   List the tables of " ++ base,
  "  history [-d]             Show the statement history. -d clears it",
  "  export <file>            Write the last result as CSV",
  "  variable <name>=<value>  Set a variable. -g <name> gets it, -u <name> removes it, " ++
    "-l lists them",
  "  <statement>              SELECT <columns> FROM <table> [JOIN <table> ON <a.x = b.y>] " ++
    "[WHERE ..] [GROUP BY ..] [ORDER BY ..] [LIMIT n]",
  "End a line with \\ to continue the statement in the next line"]

/-- The reply to a statement. The state keeps a result until the next one, and the history keeps
the statements that had one. -/
def query [Sorter] (s : Shell) (files : Files) (statement : String) : Reply :=
  let run := Query.run files s.options.base statement
  match run.outcome with
  | .ok result =>
    let s := { s with last := some result, history := s.history.add statement }
    let output := [.table (Grid.ofRows result.header result.rows)]
    { s.silent files with output, log := run.log }
  | .error (.failed e) =>
    let reply := s.report files e
    { reply with log := run.log ++ reply.log }
  | .error .aborted => { s.silent files with log := run.log, aborts := true }

def tables (s : Shell) (files : Files) : Reply :=
  match Table.names files s.options.base with
  | .ok names =>
    { s.silent files with output := [.table (Grid.ofRows ["Tables"] (names.map ([·])))] }
  | .error e => s.report files e

/-- The reply to an order to write the last result to a file. -/
def save (s : Shell) (files : Files) (path : String) : Reply :=
  match s.last with
  | none => s.say files ["There is no result to export. Run a statement first"]
  | some result =>
    match result.export? files s.options.base path with
    | (files, .ok path) => s.say files [s!"Exported {result.rows.length} rows to {path}"]
    | (files, .error e) => s.report files e

/-- The line about a variable that has no value. -/
def undefined (name : String) : String :=
  s!"Variable {name} is not defined"

/-- A variable and its value, as they are shown. -/
def bindingText (binding : String × String) : String :=
  s!"{binding.1} = {binding.2}"

/-- A message about variables. No message means that there are none. -/
def aboutVariables (message : String) : String :=
  if message.isEmpty then "No variables defined" else message

def changed {α : Type} (s : Shell) (change : Variables.Change α) (message : α → String) :
    Reply :=
  let s := { s with store := change.store }
  match change.outcome with
  | .ok a => s.say change.files [message a]
  | .error e => s.report change.files e

def onVariables (s : Shell) (files : Files) : VariableCommand → Reply
  | .set name value =>
    s.changed (s.store.set files name value) fun _ => bindingText (name, value)
  | .get name =>
    s.say files [aboutVariables ((s.store.get? name).getD (undefined name))]
  | .unset name =>
    s.changed (s.store.unset files name) fun found =>
      if found then s!"Variable {name} removed" else undefined name
  | .list =>
    s.say files [aboutVariables ("\n".intercalate (s.store.bindings.map bindingText))]

def rightAligned (n : Nat) : String :=
  let digits := toString n
  Grid.repeated (4 - digits.length) ' ' ++ digits

def historyLines (h : History) : List String :=
  h.entries.mapIdx fun i entry => rightAligned (i + 1) ++ "  " ++ entry

/-- The reply to a command. The end is not a matter of the reply. -/
def perform [Sorter] (s : Shell) (files : Files) : Command → Reply
  | .exit | .clear => s.silent files
  | .help => s.say files (helpLines s.options.base)
  | .tables => s.tables files
  | .history => s.say files (historyLines s.history)
  | .clearHistory => { s with history := .empty }.say files ["History cleared"]
  | .save path => s.save files path
  | .onVariables command => s.onVariables files command
  | .misused usage => s.say files [usage.text]
  | .statement text => s.query files text

/-- What a line asks for, and the assembler behind it. Commands are only looked for outside an
unfinished statement, and an empty statement asks for nothing. -/
def request (a : LineAssembler) (line : String) : LineAssembler × Option Command :=
  let assembled :=
    let (a, statement) := a.addLine line
    (a, (statement.filter (!·.isEmpty)).map Command.statement)
  if a.isPending then assembled
  else
    match Command.ofLine line with
    | .statement _ => assembled
    | command => (a, some command)

def reply [Sorter] (s : Shell) (files : Files) (line : String) : Reply :=
  let (assembler, command) := request s.assembler line
  let s := { s with assembler }
  match command with
  | none => s.silent files
  | some command => s.perform files command

def ends (s : Shell) (line : String) : Bool :=
  (request s.assembler line).2 == some .exit

/-- The paths that the reply to a line may look at or write. -/
def paths (s : Shell) (line : String) : List String :=
  let own := [s.options.base, s.options.variablesFile, s.options.historyFile]
  match (request s.assembler line).2 with
  | some (.statement text) => own ++ Query.paths s.options.base text
  | some (.save path) => own ++ [Files.join s.options.base path]
  | _ => own

/-- The shell at the start of a session, with the variables and the history of its files. -/
def start (files : Files) (options : Options) : Except Error Reply :=
  match Variables.load files options.variablesFile with
  | .error e => .error e
  | .ok store =>
    let (history, found) := History.load files options.historyFile
    let s : Shell := ⟨options, store, history, .empty, none⟩
    let greeting := s!"Reading tables from {options.base}. Type help to list the commands"
    let log := if found then [] else [.debug .shell "No history file found"]
    .ok { s.say files [greeting] with log }

def stop (s : Shell) (files : Files) : Reply :=
  let reply := s.say files ["Bye"]
  match s.history.save files s.options.historyFile with
  | .ok files => { reply with files }
  | .error fault =>
    let warning := s!"Cannot save history to {s.options.historyFile}: {fault.message}"
    { reply with log := [.warning .shell warning] }

end Shell

end CsvQuery
