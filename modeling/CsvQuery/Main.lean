import CsvQuery.Program

/-!
The command line on real files. Before each step the files that it may look at are taken into a
value; what the step changed is written back.
-/

namespace CsvQuery.Main

attribute [local instance] Sorter.standard

def pathOf (place : Location) : String :=
  "/" ++ "/".intercalate place

/-- The names in the directory at a path, if it is one. -/
def names? (path : String) : IO (Option (List String)) := do
  try
    let entries ← (← IO.FS.realPath path).readDir
    return some (entries.toList.map (·.fileName))
  catch _ => return none

def content? (path : String) : IO (Option ByteArray) := do
  try return some (← IO.FS.readBinFile path)
  catch _ => return none

def observePlace (files : Files) (place : Location) : IO Files := do
  if (← names? (pathOf place)).isSome then return files.put place .directory
  match ← content? (pathOf place) with
  | some content => return files.put place (.file content)
  | none => return files

def observePath (files : Files) (path : String) : IO Files := do
  let mut files := files
  let mut place := if Files.isAbsolute path then [] else files.current
  for name in Files.components path do
    if name == ".." then place := place.dropLast
    else if name != "" && name != "." then
      place := place ++ [name]
      files ← observePlace files place
  return files

def observeEntries (files : Files) (path : String) : IO Files := do
  match files.locate path, ← names? path with
  | .ok place, some names =>
    names.foldlM (fun files name => observePlace files (place ++ [name])) files
  | _, _ => return files

def observe (current : Location) (paths : List String) : IO Files :=
  paths.foldlM observePath (Files.ofDirectory current)

def store (before after : Files) : IO Unit := do
  for (place, node) in after.entries do
    if let .file content := node then
      let old :=
        match before.node? place with
        | some (.file content) => some content.data
        | _ => none
      if old != some content.data then IO.FS.writeBinFile (pathOf place) content

def write (micros : Nat) (written : Program.Written) : IO Unit := do
  for line in written.errors do IO.eprintln line
  for output in written.output do IO.print (output.text micros)
  (← IO.getStdout).flush

def finish (before : Files) (micros : Nat) (e : Program.Ended) : IO UInt32 := do
  store before e.files
  write micros e.written
  return UInt32.ofNat e.code

partial def serve (current : Location) (s : Shell) : IO UInt32 := do
  let input ← (← IO.getStdin).getLine
  match Text.lines input.toUTF8 with
  | [] =>
    let files ← observe current (s.paths "")
    finish files 0 (Program.close s files)
  | line :: _ =>
    let text := (line.bind Text.typed).getD ""
    let mut files ← observe current (s.paths text)
    if (Shell.request s.assembler text).2 == some .tables then
      files ← observeEntries files s.options.base
    let start ← IO.monoNanosNow
    match Program.turn s files line with
    | .ended e => finish files 0 e
    | .waiting s after written =>
      let stop ← IO.monoNanosNow
      store files after
      write ((stop - start) / 1000) written
      serve current s

def run (arguments : List String) : IO UInt32 := do
  let current := (Files.components (toString (← IO.currentDir))).filter (· != "")
  let early ← observe current (Program.paths arguments none)
  let files ← observe current (Program.paths arguments (some early))
  let start ← IO.monoNanosNow
  match Program.begin files arguments with
  | .ended e =>
    let stop ← IO.monoNanosNow
    finish files ((stop - start) / 1000) e
  | .waiting s after written =>
    store files after
    write 0 written
    serve current s

end CsvQuery.Main

def main (arguments : List String) : IO UInt32 :=
  CsvQuery.Main.run arguments
