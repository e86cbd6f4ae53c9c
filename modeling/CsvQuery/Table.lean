import CsvQuery.Csv
import CsvQuery.Files
import CsvQuery.Schema

/-!
Tables: the file `name.csv` of the base directory holds the table `name`. Its first record is the
header, and a file without records is a table without columns.
-/

namespace CsvQuery

structure Table where
  name : String
  header : List String
  /-- The records after the header, some of them perhaps unreadable. -/
  records : List (Except Undecodable (List String))

namespace Table

def fileOf (name : String) : String :=
  name ++ ".csv"

def path (base name : String) : String :=
  Files.join base (fileOf name)

def ofContent (name : String) (content : ByteArray) : Except Error Table :=
  match Csv.records content with
  | [] => .ok ⟨name, [], []⟩
  | .error cause :: _ => .error (.unreadableTable name cause)
  | .ok header :: records => .ok ⟨name, header, records⟩

def read (files : Files) (base name : String) : Except Error Table :=
  match files.look (path base name) with
  | .ok (.file content) => ofContent name content
  | _ => .error (.tableNotFound name (path base name))

def schema (t : Table) : Schema :=
  Schema.ofTable t.name t.header

/-- The name of the table that a file name is for, if its extension is that of a table. -/
def ofFileName? (fileName : String) : Option String :=
  if Files.extension? fileName == some "csv" then some (Files.stem fileName) else none

/-- The names of the tables in a directory, in order. -/
def names (files : Files) (base : String) : Except Error (List String) :=
  match files.list base with
  | .error fault => .error (.unlistableTables base fault)
  | .ok found =>
    let tables := found.filter (fun name => files.isFile (Files.join base name))
    .ok ((tables.filterMap ofFileName?).mergeSort (· ≤ ·))

end Table

end CsvQuery
