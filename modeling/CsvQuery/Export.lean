import CsvQuery.Csv
import CsvQuery.Files
import CsvQuery.Query

/-!
Writing a result to a file of comma-separated values. A file that is already there is never
written over.
-/

namespace CsvQuery.Result

/-- The lines of the rows from the first on that may follow a record of `previous` fields, up to
the first row with another number of fields, and that row's fault. -/
def writeRows (previous : Nat) : List Row → String × Option ExportFault
  | [] => ("", none)
  | r :: rest =>
    if r.length = previous then
      let (lines, fault) := writeRows previous rest
      (Csv.writeRecord r ++ lines, fault)
    else ("", some (.unequal r.length previous))

/-- The text of the file for a result, as far as it can be written, and what stops it. -/
def fileText (r : Result) : String × Option ExportFault :=
  let (lines, fault) := writeRows r.header.length r.rows
  (Csv.writeRecord r.header ++ lines, fault)

/-- Writes a result to a path seen from the base directory. Yields the path and the files
afterwards. -/
def export? (r : Result) (files : Files) (base path : String) : Files × Except Error String :=
  let path := Files.join base path
  if files.exists? path then (files, .error (.failedExport path .exists))
  else
    let (text, fault) := r.fileText
    match files.write path text.toUTF8 with
    | .error cause => (files, .error (.failedExport path (.file cause)))
    | .ok files =>
      match fault with
      | some cause => (files, .error (.failedExport path cause))
      | none => (files, .ok path)

end CsvQuery.Result
