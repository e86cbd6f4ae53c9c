import CsvQuery.Error
import CsvQuery.Files
import CsvQuery.Json

/-!
Variables: names bound to texts, kept in a JSON file that is written after every change. The
bindings are in the order of their names, each name once.
-/

namespace CsvQuery

/-- The bindings of the variables and the file that keeps them. -/
structure Variables where
  path : String
  bindings : List (String × String)
  deriving DecidableEq, Repr

namespace Variables

def bind (name value : String) : List (String × String) → List (String × String)
  | [] => [(name, value)]
  | (name', value') :: rest =>
    if name < name' then (name, value) :: (name', value') :: rest
    else if name = name' then (name, value) :: rest
    else (name', value') :: bind name value rest

def unbind (name : String) (bindings : List (String × String)) : List (String × String) :=
  bindings.filter (·.1 != name)

/-- The bindings that a list of settings makes, later ones over earlier ones. -/
def ofSettings (settings : List (String × String)) : List (String × String) :=
  settings.foldl (fun bindings s => bind s.1 s.2 bindings) []

def get? (v : Variables) (name : String) : Option String :=
  v.bindings.lookup name

def fileText (v : Variables) : String :=
  Json.writeObject (v.bindings.map fun b => (b.1, Json.writeText b.2))

/-- The variables of a file. Where nothing is, there are none. -/
def load (files : Files) (path : String) : Except Error Variables :=
  if files.exists? path then
    match files.read path with
    | .error fault => .error (.unreadableVariables path fault)
    | .ok content =>
      match (Json.read? content).bind (·.texts?) with
      | none => .error (.malformedVariables path)
      | some settings => .ok ⟨path, ofSettings settings⟩
  else .ok ⟨path, []⟩

/-- The variables and the files after a change, and how it ended. -/
structure Change (α : Type) where
  store : Variables
  files : Files
  outcome : Except Error α

def save (v : Variables) (files : Files) : Change Unit :=
  match files.write v.path v.fileText.toUTF8 with
  | .ok files => ⟨v, files, .ok ()⟩
  | .error fault => ⟨v, files, .error (.unwritableVariables v.path fault)⟩

/-- Sets a variable. It keeps its new value even if the file cannot be written. -/
def set (v : Variables) (files : Files) (name value : String) : Change Unit :=
  save { v with bindings := bind name value v.bindings } files

/-- Removes a variable, and says whether there was one. It is gone even if the file cannot be
written. -/
def unset (v : Variables) (files : Files) (name : String) : Change Bool :=
  if (v.get? name).isSome then
    let change := save { v with bindings := unbind name v.bindings } files
    ⟨change.store, change.files, change.outcome.map fun _ => true⟩
  else ⟨v, files, .ok false⟩

end Variables

end CsvQuery
