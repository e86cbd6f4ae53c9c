import CsvQuery.Error
import CsvQuery.Files
import CsvQuery.Json
import CsvQuery.Text.Quoted

/-!
The options of the shell and the JSON file that they are read from. A file that is not there is
written with the default options.
-/

namespace CsvQuery

structure Options where
  /-- The directory of the tables. -/
  base : String
  /-- The file that keeps the history. -/
  historyFile : String
  /-- The file that keeps the variables. -/
  variablesFile : String
  /-- Whether log entries for debugging are shown. -/
  debugging : Bool
  prompt : String
  deriving DecidableEq, Repr

namespace Options

def standard : Options where
  base := "."
  historyFile := "/tmp/csvql_history"
  variablesFile := "/tmp/csvql_variables.json"
  debugging := false
  prompt := "csvql> "

/-- Options of which some may not have been given yet. -/
structure Draft where
  base : Option String
  historyFile : Option String
  variablesFile : Option String
  debugging : Option Bool
  prompt : Option String

def Draft.empty : Draft := ⟨none, none, none, none, none⟩

/-- The options of a draft, with the standard ones in its gaps. -/
def Draft.complete (d : Draft) : Options where
  base := d.base.getD standard.base
  historyFile := d.historyFile.getD standard.historyFile
  variablesFile := d.variablesFile.getD standard.variablesFile
  debugging := d.debugging.getD standard.debugging
  prompt := d.prompt.getD standard.prompt

/-- The draft with the option of a name given. Unknown names do not matter; an option that is given
twice, or that has a value of another kind, is refused. -/
def Draft.give? (d : Draft) (name : String) (value : Json) : Option Draft :=
  match name with
  | "base_path" =>
    if d.base.isSome then none else value.text?.map fun s => { d with base := some s }
  | "history_file_path" =>
    if d.historyFile.isSome then none else value.text?.map fun s => { d with historyFile := some s }
  | "variables_file_path" =>
    if d.variablesFile.isSome then none
    else value.text?.map fun s => { d with variablesFile := some s }
  | "use_debug_logging" =>
    if d.debugging.isSome then none else value.bool?.map fun b => { d with debugging := some b }
  | "prompt" =>
    if d.prompt.isSome then none else value.text?.map fun s => { d with prompt := some s }
  | _ => some d

def names : List String :=
  ["base_path", "history_file_path", "variables_file_path", "use_debug_logging", "prompt"]

/-- The options that a JSON value gives: an object by name, an array in order. -/
def ofJson? : Json → Option Options
  | .object members => do
    let draft ← members.foldlM (fun d member => do d.give? (← member.1) member.2) Draft.empty
    return draft.complete
  | .array elements => do
    if names.length < elements.length then none
    else
      let draft ← (names.zip elements).foldlM (fun d e => d.give? e.1 e.2) Draft.empty
      return draft.complete
  | _ => none

def fileText (o : Options) : String :=
  Json.writeObject [
    ("base_path", Json.writeText o.base),
    ("history_file_path", Json.writeText o.historyFile),
    ("variables_file_path", Json.writeText o.variablesFile),
    ("use_debug_logging", Json.writeBool o.debugging),
    ("prompt", Json.writeText o.prompt)]

def describe (o : Options) : String :=
  "CsvqlOptions \x7b base_path: " ++ Text.quote o.base ++
  ", history_file_path: " ++ Text.quote o.historyFile ++
  ", variables_file_path: " ++ Text.quote o.variablesFile ++
  ", use_debug_logging: " ++ Json.writeBool o.debugging ++
  ", prompt: " ++ Text.quote o.prompt ++ " \x7d"

/-- The options of a file, and the files afterwards. -/
def load (files : Files) (path : String) : Except Error (Options × Files) :=
  if files.exists? path then
    match files.read path with
    | .error fault => .error (.unreadableOptions path fault)
    | .ok content =>
      match (Json.read? content).bind ofJson? with
      | none => .error (.malformedOptions path)
      | some o => .ok (o, files)
  else
    match files.write path standard.fileText.toUTF8 with
    | .error fault => .error (.unwritableOptions path fault)
    | .ok files => .ok (standard, files)

end Options

end CsvQuery
