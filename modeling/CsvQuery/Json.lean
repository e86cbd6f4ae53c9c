import CsvQuery.Text.Utf8

/-!
JSON. It is read strictly: one value, no comma after the last element, no leading zeros, no control
characters inside strings. Numbers are checked but not kept, since nothing that is stored needs
them. It is written with as few escapes in strings as the format allows, and objects with one member
on a line, indented by two spaces.
-/

namespace CsvQuery

open Text (Symbol)

inductive Json
  | null
  | bool (b : Bool)
  | number
  /-- A string, without its text if that is not a text: if it holds half of a surrogate pair or
  bytes that are not valid UTF-8. -/
  | string (s : Option String)
  | array (elements : List Json)
  /-- The members in the order of the file, with repeated names. -/
  | object (members : List (Option String × Json))

namespace Json

/-- Whether a symbol may stand between the parts of a value. -/
def isGap (s : Symbol) : Bool :=
  s == some ' ' || s == some '\t' || s == some '\n' || s == some '\r'

def skipGap (symbols : List Symbol) : List Symbol :=
  symbols.dropWhile isGap

def hexDigit? : Symbol → Option Nat
  | some c =>
    if c.isDigit then some (c.toNat - '0'.toNat)
    else if 'a' ≤ c ∧ c ≤ 'f' then some (c.toNat - 'a'.toNat + 10)
    else if 'A' ≤ c ∧ c ≤ 'F' then some (c.toNat - 'A'.toNat + 10)
    else none
  | none => none

def hexValue? (a b c d : Symbol) : Option Nat := do
  let a ← hexDigit? a
  let b ← hexDigit? b
  let c ← hexDigit? c
  let d ← hexDigit? d
  return ((a * 16 + b) * 16 + c) * 16 + d

/-- What a letter means behind a backslash. -/
def escape? : Char → Option Char
  | '"' => some '"'
  | '\\' => some '\\'
  | '/' => some '/'
  | 'b' => some '\x08'
  | 'f' => some '\x0c'
  | 'n' => some '\n'
  | 'r' => some '\r'
  | 't' => some '\t'
  | _ => none

def isHigh (n : Nat) : Bool := 0xD800 ≤ n && n < 0xDC00

/-- Whether a number is the second half of a surrogate pair. -/
def isLow (n : Nat) : Bool := 0xDC00 ≤ n && n < 0xE000

def pairChar (high low : Nat) : Char :=
  Char.ofNat (0x10000 + (high - 0xD800) * 0x400 + (low - 0xDC00))

/-- The text of the rest of a string, if it is one, and the symbols behind the string. -/
abbrev StringRest := Option (Option (List Char) × List Symbol)

/-- The rest of a string with a character before it. A half of a surrogate pair that waits for the
other one spoils the text. -/
def putChar (waiting : Option Nat) (c : Char) (rest : StringRest) : StringRest :=
  rest.map fun r => (if waiting.isSome then none else r.1.map (c :: ·), r.2)

/-- The rest of a string with something before it that is no text. -/
def spoil (rest : StringRest) : StringRest :=
  rest.map fun r => (none, r.2)

/-- The text of a string up to its closing quotation mark, and the symbols behind that. The first
half of a surrogate pair that came last waits for the second. -/
def stringFrom (waiting : Option Nat) : List Symbol → StringRest
  | [] => none
  | some '"' :: rest => some (if waiting.isSome then none else some [], rest)
  | some '\\' :: some 'u' :: a :: b :: c :: d :: rest =>
    match hexValue? a b c d with
    | none => none
    | some n =>
      match waiting with
      | some high =>
        if isLow n then putChar none (pairChar high n) (stringFrom none rest)
        else spoil (stringFrom none rest)
      | none =>
        if isHigh n then stringFrom (some n) rest
        else if isLow n then spoil (stringFrom none rest)
        else putChar none (Char.ofNat n) (stringFrom none rest)
  | some '\\' :: some e :: rest =>
    match escape? e with
    | some c => putChar waiting c (stringFrom none rest)
    | none => none
  | some c :: rest =>
    if c = '\\' ∨ c.toNat < 0x20 then none else putChar waiting c (stringFrom none rest)
  | none :: rest => spoil (stringFrom none rest)

/-- The symbols behind a run of digits, which must not be empty. -/
def digits? (symbols : List Symbol) : Option (List Symbol) :=
  match symbols with
  | some c :: rest =>
    if c.isDigit then some (rest.dropWhile fun s => s.any Char.isDigit) else none
  | _ => none

/-- The symbols behind the digits before the point of a number. A zero stands alone. -/
def whole? (symbols : List Symbol) : Option (List Symbol) :=
  match symbols with
  | some '0' :: rest =>
    match rest with
    | some c :: _ => if c.isDigit then none else some rest
    | _ => some rest
  | _ => digits? symbols

/-- The symbols behind the fraction of a number, if it has one. -/
def fraction? : List Symbol → Option (List Symbol)
  | some '.' :: rest => digits? rest
  | symbols => some symbols

/-- The symbols behind the exponent of a number, if it has one. -/
def exponent? : List Symbol → Option (List Symbol)
  | some 'e' :: some '+' :: rest | some 'E' :: some '+' :: rest => digits? rest
  | some 'e' :: some '-' :: rest | some 'E' :: some '-' :: rest => digits? rest
  | some 'e' :: rest | some 'E' :: rest => digits? rest
  | symbols => some symbols

def number? (symbols : List Symbol) : Option (List Symbol) := do
  let unsigned :=
    match symbols with
    | some '-' :: rest => rest
    | _ => symbols
  exponent? (← fraction? (← whole? unsigned))

def word? : List Symbol → Option (Json × List Symbol)
  | some 'n' :: some 'u' :: some 'l' :: some 'l' :: rest => some (null, rest)
  | some 't' :: some 'r' :: some 'u' :: some 'e' :: rest => some (bool true, rest)
  | some 'f' :: some 'a' :: some 'l' :: some 's' :: some 'e' :: rest => some (bool false, rest)
  | _ => none

mutual

/-- The value behind a gap, and the symbols behind it. -/
def value? : Nat → List Symbol → Option (Json × List Symbol)
  | 0, _ => none
  | fuel + 1, symbols =>
    match skipGap symbols with
    | some '"' :: rest => do
      let (s, rest) ← stringFrom none rest
      return (string (s.map String.ofList), rest)
    | some '[' :: rest =>
      match skipGap rest with
      | some ']' :: rest => some (array [], rest)
      | rest => do
        let (list, rest) ← elements? fuel rest
        return (array list, rest)
    | some '\x7b' :: rest =>
      match skipGap rest with
      | some '\x7d' :: rest => some (object [], rest)
      | rest => do
        let (list, rest) ← members? fuel rest
        return (object list, rest)
    | some c :: rest =>
      if c = '-' ∨ c.isDigit then (number? (some c :: rest)).map fun rest => (number, rest)
      else word? (some c :: rest)
    | _ => none

/-- The elements of an array, at least one, and the symbols behind the array. -/
def elements? : Nat → List Symbol → Option (List Json × List Symbol)
  | 0, _ => none
  | fuel + 1, symbols => do
    let (v, rest) ← value? fuel symbols
    match skipGap rest with
    | some ']' :: rest => return ([v], rest)
    | some ',' :: rest =>
      let (list, rest) ← elements? fuel rest
      return (v :: list, rest)
    | _ => none

/-- The members of an object, at least one, and the symbols behind the object. -/
def members? : Nat → List Symbol → Option (List (Option String × Json) × List Symbol)
  | 0, _ => none
  | fuel + 1, symbols =>
    match skipGap symbols with
    | some '"' :: rest => do
      let (name, rest) ← stringFrom none rest
      match skipGap rest with
      | some ':' :: rest =>
        let (v, rest) ← value? fuel rest
        match skipGap rest with
        | some '\x7d' :: rest => return ([(name.map String.ofList, v)], rest)
        | some ',' :: rest =>
          let (list, rest) ← members? fuel rest
          return ((name.map String.ofList, v) :: list, rest)
        | _ => none
      | _ => none
    | _ => none

end

def read? (content : ByteArray) : Option Json := do
  let symbols := Text.symbols content
  let (v, rest) ← value? (symbols.length + 1) symbols
  if (skipGap rest).isEmpty then some v else none

def text? : Json → Option String
  | string s => s
  | _ => none

def bool? : Json → Option Bool
  | bool b => some b
  | _ => none

/-- The members of an object whose values are all texts, in order. -/
def texts? : Json → Option (List (String × String))
  | object members => members.mapM fun member => do
    return (← member.1, ← member.2.text?)
  | _ => none

/-! ### Writing -/

/-- Two hexadecimal digits of a number below 256, in small letters. -/
def byteDigits (n : Nat) : String :=
  String.ofList [Nat.digitChar (n / 16), Nat.digitChar (n % 16)]

def writeChar (c : Char) : String :=
  if c = '"' then "\\\""
  else if c = '\\' then "\\\\"
  else if c = '\x08' then "\\b"
  else if c = '\x0c' then "\\f"
  else if c = '\n' then "\\n"
  else if c = '\r' then "\\r"
  else if c = '\t' then "\\t"
  else if c.toNat < 0x20 then "\\u00" ++ byteDigits c.toNat
  else c.toString

def writeText (s : String) : String :=
  "\"" ++ String.join (s.toList.map writeChar) ++ "\""

def writeBool (b : Bool) : String :=
  if b then "true" else "false"

/-- A member of an object, its value already written. -/
def writeMember (member : String × String) : String :=
  "\n  " ++ writeText member.1 ++ ": " ++ member.2

/-- An object, the values of its members already written. -/
def writeObject (members : List (String × String)) : String :=
  if members.isEmpty then "\x7b\x7d"
  else "\x7b" ++ ",".intercalate (members.map writeMember) ++ "\n\x7d"

end Json

end CsvQuery
