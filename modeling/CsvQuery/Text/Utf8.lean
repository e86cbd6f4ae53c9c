/-!
Bytes as text in UTF-8: how far bytes can be decoded, and the lines and characters of a file. A file
need not be valid throughout: a line that is not has no text, and bytes that belong to no character
are kept apart, so that a format can allow them where it does not look.
-/

namespace CsvQuery.Text

/-- The number of bytes from `start` that decode to whole characters before the first byte that
does not, or before the end. -/
def validFrom (bytes : ByteArray) (start : Nat) : Nat → Nat
  | 0 => 0
  | fuel + 1 =>
    match bytes.utf8DecodeChar? start with
    | some c => c.utf8Size + validFrom bytes (start + c.utf8Size) fuel
    | none => 0

/-- The length of the longest part at the head of the bytes that is valid UTF-8. -/
def validLength (bytes : ByteArray) : Nat :=
  validFrom bytes 0 bytes.size

/-- The text that bytes encode, or the number of bytes before the first invalid one. -/
def decode (bytes : ByteArray) : Except Nat String :=
  match String.fromUTF8? bytes with
  | some s => .ok s
  | none => .error (validLength bytes)

/-- A character, or a byte that belongs to none. -/
abbrev Symbol := Option Char

/-- The symbols of the bytes from `start` on. -/
def symbolsFrom (bytes : ByteArray) (start : Nat) : Nat → List Symbol
  | 0 => []
  | fuel + 1 =>
    if bytes.size ≤ start then []
    else
      match bytes.utf8DecodeChar? start with
      | some c => some c :: symbolsFrom bytes (start + c.utf8Size) fuel
      | none => none :: symbolsFrom bytes (start + 1) fuel

def symbols (bytes : ByteArray) : List Symbol :=
  symbolsFrom bytes 0 bytes.size

/-- The lines of bytes without their ends, after the bytes `current` of the first line, which are
in reverse order. -/
def linesFrom (current : List UInt8) : List UInt8 → List (List UInt8)
  | [] => if current.isEmpty then [] else [current.reverse]
  | b :: rest =>
    if b = 0x0A then
      let line := if current.head? == some 0x0D then current.tail else current
      line.reverse :: linesFrom [] rest
    else linesFrom (b :: current) rest

/-- The lines of a file as texts. A line that is not valid UTF-8 has no text. -/
def lines (content : ByteArray) : List (Option String) :=
  (linesFrom [] content.data.toList).map fun line => (decode ⟨line.toArray⟩).toOption

end CsvQuery.Text
