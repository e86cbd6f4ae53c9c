import CsvQuery.Files
import CsvQuery.Text.Utf8

/-!
The history of statements and the file that keeps it: a first line `#V2`, then one line for each
entry, in which a backslash and a line feed are escaped.
-/

namespace CsvQuery

/-- The entries from the oldest to the newest, and how many of them came after the file was
read. -/
structure History where
  entries : List String
  fresh : Nat
  deriving DecidableEq, Repr

namespace History

def empty : History := ⟨[], 0⟩

def most : Nat := 100

/-- The history with one more entry. An empty one and one like the newest are left out, and the
oldest goes if there are too many. -/
def add (h : History) (entry : String) : History :=
  if entry.isEmpty || h.entries.getLast? == some entry then h
  else
    let entries := (if most ≤ h.entries.length then h.entries.drop 1 else h.entries) ++ [entry]
    ⟨entries, min (h.fresh + 1) entries.length⟩

def heading : String := "#V2"

def escape (entry : String) : String :=
  String.ofList (entry.toList.flatMap fun c =>
    if c = '\\' then ['\\', '\\'] else if c = '\n' then ['\\', 'n'] else [c])

/-- The characters that a line of a file stands for, if its escapes are proper. -/
def unescapeChars : List Char → Option (List Char)
  | [] => some []
  | '\\' :: 'n' :: rest => (unescapeChars rest).map ('\n' :: ·)
  | '\\' :: '\\' :: rest => (unescapeChars rest).map ('\\' :: ·)
  | c :: rest => if c = '\\' then none else (unescapeChars rest).map (c :: ·)

/-- The entry that a line of a file stands for. A line with an improper escape stands for
itself. -/
def unescape (line : String) : String :=
  ((unescapeChars line.toList).map String.ofList).getD line

/-- The history with the entries of some lines, and whether all of them are texts. The first that
is none stops the reading. -/
def addLines (escaped : Bool) (h : History) : List (Option String) → History × Bool
  | [] => (h, true)
  | none :: _ => (h, false)
  | some line :: rest => addLines escaped (h.add (if escaped then unescape line else line)) rest

/-- The history of a file's content, and whether it could be read to the end. -/
def ofContent (content : ByteArray) : History × Bool :=
  let lines := Text.lines content
  let (h, whole) :=
    if lines.head? == some (some heading) then addLines true empty lines.tail
    else addLines false empty lines
  (if whole then { h with fresh := 0 } else h, whole)

/-- The history of a file, and whether there was one that could be read. -/
def load (files : Files) (path : String) : History × Bool :=
  match files.read path with
  | .ok content => ofContent content
  | .error _ => (empty, false)

def fileText (h : History) : String :=
  String.join ((heading :: h.entries.map escape).map (· ++ "\n"))

/-- Writes the entries to a file, if any of them is new. -/
def save (h : History) (files : Files) (path : String) : Except Files.Fault Files :=
  if h.entries.isEmpty || h.fresh == 0 then .ok files
  else files.write path h.fileText.toUTF8

end History

end CsvQuery
