import CsvQuery.Error
import CsvQuery.Text.Utf8

/-!
Comma-separated values, read byte by byte and written. Fields are separated by commas; a record ends
at a line feed or a carriage return, and empty lines are no records. A quotation mark opens a quoted
field only at the start of a field; inside it, two of them mean one, and one alone closes it. Text
after a closing quotation mark is kept. A byte order mark at the start is dropped. Where a field is
written, it is put between quotation marks only if it has to be.
-/

namespace CsvQuery.Csv

/-- A place of a file: the number of bytes before it, and its line counted from one. -/
structure Place where
  byte : Nat
  line : Nat
  deriving DecidableEq, Repr

def Place.after (p : Place) (b : UInt8) : Place :=
  ⟨p.byte + 1, if b = 0x0A then p.line + 1 else p.line⟩

/-- The fields of a record as bytes, and the place from which it was read: behind the byte that
ended the record before it. -/
structure RawRecord where
  fields : List (List UInt8)
  place : Place
  deriving DecidableEq, Repr

/-- Where the reader stands inside a record. -/
inductive Mode
  /-- Before a record: line ends are skipped. -/
  | between
  /-- At the start of a field. -/
  | field
  /-- Inside a field without quotation marks, or behind the quoted part of one. -/
  | plain
  /-- Inside quotation marks. -/
  | quoted
  /-- Behind a quotation mark inside quotation marks. -/
  | closing
  deriving DecidableEq, Repr

/-- The state of the reader: the fields of the record so far, last first, and the bytes of the
field so far, last first. -/
structure Reader where
  mode : Mode
  /-- Where the record is read from. -/
  origin : Place
  here : Place
  fields : List (List UInt8)
  current : List UInt8
  deriving DecidableEq, Repr

def comma : UInt8 := 0x2C

def quotationMark : UInt8 := 0x22

def endsRecord (b : UInt8) : Bool :=
  b == 0x0A || b == 0x0D

namespace Reader

def fresh (place : Place) : Reader :=
  ⟨.between, place, place, [], []⟩

def record (r : Reader) : RawRecord :=
  ⟨(r.current.reverse :: r.fields).reverse, r.origin⟩

def keep (r : Reader) (mode : Mode) (b : UInt8) : Reader :=
  { r with mode, here := r.here.after b, current := b :: r.current }

/-- The reader after a byte that belongs to no field. -/
def skip (r : Reader) (mode : Mode) (b : UInt8) : Reader :=
  { r with mode, here := r.here.after b }

/-- The reader after a byte outside quotation marks, where a field may go on or end, with the
record that the byte ends. -/
def outside (r : Reader) (b : UInt8) : Reader × Option RawRecord :=
  if b = comma then
    ({ r with
        mode := .field, here := r.here.after b, fields := r.current.reverse :: r.fields,
        current := [] }, none)
  else if endsRecord b then (fresh (r.here.after b), some r.record)
  else (r.keep .plain b, none)

/-- The reader after one more byte, and the record that the byte ends, if it ends one. -/
def next (r : Reader) (b : UInt8) : Reader × Option RawRecord :=
  match r.mode with
  | .between =>
    if endsRecord b then (r.skip .between b, none)
    else if b = quotationMark then (r.skip .quoted b, none)
    else r.outside b
  | .field => if b = quotationMark then (r.skip .quoted b, none) else r.outside b
  | .plain => r.outside b
  | .quoted =>
    if b = quotationMark then (r.skip .closing b, none) else (r.keep .quoted b, none)
  | .closing => if b = quotationMark then (r.keep .quoted b, none) else r.outside b

/-- The records of the remaining bytes. At the end an open field is closed. -/
def run (r : Reader) : List UInt8 → List RawRecord
  | [] =>
    match r.mode with
    | .between => []
    | _ => [r.record]
  | b :: rest =>
    match r.next b with
    | (r', some found) => found :: r'.run rest
    | (r', none) => r'.run rest

end Reader

def rawRecords : List UInt8 → List RawRecord
  | 0xEF :: 0xBB :: 0xBF :: rest =>
    Reader.run { Reader.fresh ⟨0, 1⟩ with here := ⟨3, 1⟩ } rest
  | bytes => Reader.run (Reader.fresh ⟨0, 1⟩) bytes

/-- The texts of the fields from number `field` on. -/
def decodeFields (record : Nat) (place : Place) (field : Nat) :
    List (List UInt8) → Except Undecodable (List String)
  | [] => .ok []
  | bytes :: rest => do
    match Text.decode ⟨bytes.toArray⟩ with
    | .error valid => .error ⟨record, place.line, place.byte, field, valid⟩
    | .ok s =>
      let others ← decodeFields record place (field + 1) rest
      return s :: others

/-- The records of a file as texts. A record with a field that is not valid UTF-8 is an error and
does not disturb the others. -/
def records (content : ByteArray) : List (Except Undecodable (List String)) :=
  (rawRecords content.data.toList).zipIdx.map fun entry =>
    decodeFields entry.2 entry.1.place 0 entry.1.fields

/-! ### Writing -/

/-- Whether a field can only be written between quotation marks. -/
def needsQuotes (field : String) : Bool :=
  field.toList.any fun c => c == ',' || c == '"' || c == '\n' || c == '\r'

/-- A field between quotation marks, with each of its own quotation marks written twice. -/
def quoteField (field : String) : String :=
  let body := field.toList.flatMap fun c => if c = '"' then ['"', '"'] else [c]
  "\"" ++ String.ofList body ++ "\""

def writeField (field : String) : String :=
  if needsQuotes field then quoteField field else field

/-- A record as it is written. A record of no field or of one empty field is a pair of quotation
marks, since an empty line would be no record. -/
def writeRecord : List String → String
  | [] | [""] => "\"\"\n"
  | fields => ",".intercalate (fields.map writeField) ++ "\n"

end CsvQuery.Csv
