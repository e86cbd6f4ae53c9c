import CsvQuery.Text.Grapheme

/-!
Typed lines, in which a backspace takes away the grapheme before it. The size of a grapheme is
kept in one byte, so of a grapheme of 256 bytes or more only a part is taken away; if that part
does not start at a character, the line has no meaning.
-/

namespace CsvQuery.Text

def backspace : Char := '\x08'

structure Typing where
  /-- The characters, last first. -/
  kept : List Char
  /-- How many bytes a backspace takes away for each grapheme, last first. -/
  sizes : List Nat
  deriving DecidableEq, Repr

def byteCount (cs : List Char) : Nat :=
  cs.foldl (fun n c => n + c.utf8Size) 0

/-- Characters, last first, without the last `n` bytes, unless a character would lose only some of
its bytes. -/
def dropBytes (n : Nat) : List Char → Option (List Char)
  | [] => if n = 0 then some [] else none
  | c :: rest =>
    if n = 0 then some (c :: rest)
    else if c.utf8Size ≤ n then dropBytes (n - c.utf8Size) rest
    else none

namespace Typing

def empty : Typing := ⟨[], []⟩

def erase (t : Typing) : Option Typing :=
  match t.sizes with
  | [] => some t
  | size :: sizes => (dropBytes size t.kept).map fun kept => ⟨kept, sizes⟩

def type (t : Typing) (g : List Char) : Option Typing :=
  if g = [backspace] then t.erase
  else some ⟨g.reverse ++ t.kept, byteCount g % 256 :: t.sizes⟩

end Typing

/-- What is left of a typed line, if it has a meaning. -/
def typed (line : String) : Option String :=
  ((graphemes line.toList).foldlM Typing.type Typing.empty).map fun t =>
    String.ofList t.kept.reverse

end CsvQuery.Text
