/-!
A tree of files and directories as a value, with the operations that the command line needs:
look, read, write, remove and list. There are no links, and every file can be read and written.
Paths are texts: names separated by slashes, and a path that starts with a slash is absolute.
-/

namespace CsvQuery

/-- What is at a place of the tree. -/
inductive Node
  | file (content : ByteArray)
  | directory

/-- A place in the tree: the names from the root down to it. -/
abbrev Location := List String

structure Files where
  /-- Where relative paths start. -/
  current : Location
  entries : List (Location × Node)

namespace Files

/-- What went wrong at a path. -/
inductive Fault
  /-- Nothing is there. -/
  | missing
  /-- A directory is there, where a file was wanted. -/
  | directory
  /-- A file is there, where a directory was wanted. -/
  | notDirectory
  /-- A part of the path is longer than a file name may be, or the whole too long for a path. -/
  | tooLong
  /-- The path contains the character with code point zero. -/
  | zeroCharacter
  deriving DecidableEq, Repr

def Fault.message : Fault → String
  | missing => "No such file or directory (os error 2)"
  | directory => "Is a directory (os error 21)"
  | notDirectory => "Not a directory (os error 20)"
  | tooLong => "File name too long (os error 36)"
  | zeroCharacter => "file name contained an unexpected NUL byte"

/-! ### Paths -/

/-- The parts of a character list between slashes. There is one more part than slashes. -/
def splitSlashes : List Char → List (List Char)
  | [] => [[]]
  | c :: rest =>
    if c = '/' then [] :: splitSlashes rest
    else
      match splitSlashes rest with
      | [] => [[c]]
      | part :: parts => (c :: part) :: parts

/-- The names of a path in order, empty ones included. -/
def components (path : String) : List String :=
  (splitSlashes path.toList).map String.ofList

def isAbsolute (path : String) : Bool :=
  path.toList.head? == some '/'

def endsWithSlash (path : String) : Bool :=
  path.toList.getLast? == some '/'

/-- The path of `path` seen from the directory `base`. An absolute path stays as it is. -/
def join (base path : String) : String :=
  if isAbsolute path || base.isEmpty then path
  else if endsWithSlash base then base ++ path
  else base ++ "/" ++ path

/-- The characters before the last dot and those behind it, if there is a dot. -/
def splitLastDot? (cs : List Char) : Option (List Char × List Char) :=
  match cs.reverse.dropWhile (· != '.') with
  | [] => none
  | _ :: before => some (before.reverse, (cs.reverse.takeWhile (· != '.')).reverse)

/-- A file name without its extension, and the extension, if it has one: what is behind the last
dot. A name that only starts with a dot has none, and neither has the name of the directory
above. -/
def stemAndExtension (fileName : String) : String × Option String :=
  if fileName == ".." then (fileName, none)
  else
    match splitLastDot? fileName.toList with
    | none | some ([], _) => (fileName, none)
    | some (before, behind) => (String.ofList before, some (String.ofList behind))

def stem (fileName : String) : String :=
  (stemAndExtension fileName).1

def extension? (fileName : String) : Option String :=
  (stemAndExtension fileName).2

/-! ### The tree -/

/-- The tree that holds only the given directory and those above it, with relative paths starting
there. -/
def ofDirectory (location : Location) : Files :=
  ⟨location, (List.range (location.length + 1)).map fun n => (location.take n, .directory)⟩

def node? (files : Files) (location : Location) : Option Node :=
  if location.isEmpty then some .directory else files.entries.lookup location

def put (files : Files) (location : Location) (node : Node) : Files :=
  { files with entries := (location, node) :: files.entries.filter (·.1 != location) }

def longestName : Nat := 255

def longestPath : Nat := 4095

/-- The place that names lead to from a place. Every name but the last must lead to a directory;
an empty name, and a dot, stay there, and two dots go up. -/
def walk (files : Files) (place : Location) : List String → Except Fault Location
  | [] => .ok place
  | name :: rest =>
    match files.node? place with
    | none => .error .missing
    | some (.file _) => .error .notDirectory
    | some .directory =>
      if name.isEmpty || name == "." then walk files place rest
      else if name == ".." then walk files place.dropLast rest
      else if longestName < name.utf8ByteSize then .error .tooLong
      else walk files (place ++ [name]) rest

/-- The place where a path starts, if it can be a path. -/
def startOf (files : Files) (path : String) : Except Fault Location :=
  if path.toList.contains '\x00' then .error .zeroCharacter
  else if path.isEmpty then .error .missing
  else if longestPath < path.utf8ByteSize then .error .tooLong
  else .ok (if isAbsolute path then [] else files.current)

/-- The place of a path, where something or nothing may be. -/
def locate (files : Files) (path : String) : Except Fault Location := do
  files.walk (← files.startOf path) (components path)

def look (files : Files) (path : String) : Except Fault Node := do
  let place ← files.locate path
  match files.node? place with
  | some node => return node
  | none => throw .missing

def isFile (files : Files) (path : String) : Bool :=
  match files.look path with
  | .ok (.file _) => true
  | _ => false

def isDirectory (files : Files) (path : String) : Bool :=
  match files.look path with
  | .ok .directory => true
  | _ => false

def exists? (files : Files) (path : String) : Bool :=
  (files.look path).isOk

def read (files : Files) (path : String) : Except Fault ByteArray := do
  match ← files.look path with
  | .file content => return content
  | .directory => throw .directory

def withoutSlashes (path : String) : String :=
  String.ofList (path.toList.reverse.dropWhile (· == '/')).reverse

/-- The place where a file at a path would be written. A path that ends with a slash names a
directory, whatever is there, and its last name is not looked up. -/
def locateForWriting (files : Files) (path : String) : Except Fault Location := do
  if endsWithSlash path then
    let start ← files.startOf path
    let _ ← files.walk start ((components (withoutSlashes path)).dropLast ++ ["."])
    throw .directory
  else
    let place ← files.locate path
    match files.node? place with
    | some .directory => throw .directory
    | _ => return place

/-- The tree after a file was written at a path. Its directory must be there; what the file held
before is gone. -/
def write (files : Files) (path : String) (content : ByteArray) : Except Fault Files := do
  let place ← files.locateForWriting path
  return files.put place (.file content)

def remove (files : Files) (path : String) : Files :=
  match files.locate path with
  | .ok place => { files with entries := files.entries.filter (·.1 != place) }
  | .error _ => files

def namesBelow (files : Files) (place : Location) : List String :=
  files.entries.filterMap fun entry =>
    if entry.1.dropLast == place then entry.1.getLast? else none

/-- The names in the directory at a path, each once, in no particular order. -/
def list (files : Files) (path : String) : Except Fault (List String) := do
  let place ← files.locate path
  match files.node? place with
  | some .directory => return files.namesBelow place
  | some (.file _) => throw .notDirectory
  | none => throw .missing

end Files

end CsvQuery
