import CsvQuery.Text.GraphemeClass

/-!
Graphemes: what a reader takes for one character. A text is divided where no rule holds two
characters together (the extended grapheme clusters of Unicode).
-/

namespace CsvQuery.Text

inductive Conjunct
  | none
  /-- A consonant, without a linker behind it. -/
  | begun
  /-- A consonant with a linker behind it. -/
  | linked
  deriving DecidableEq, Repr

/-- What decides whether a grapheme ends at a place, of the characters before the place. -/
structure GraphemeContext where
  /-- The class of the last character. -/
  last : GraphemeClass
  /-- Whether they end with a pictograph, characters that extend it, and perhaps one joiner. -/
  pictured : Bool
  conjunct : Conjunct
  /-- Whether they end with an odd number of regional letters. -/
  oddRegional : Bool
  deriving DecidableEq, Repr

namespace GraphemeContext

/-- The context at the start of a text, behind its first character. -/
def start (first : GraphemeClass) : GraphemeContext where
  last := first
  pictured := first == .pictograph
  conjunct := if first = .consonant then .begun else .none
  oddRegional := first == .regional

def nextConjunct (x : GraphemeContext) : GraphemeClass → Conjunct
  | .consonant => .begun
  | .linker => if x.conjunct = .none then .none else .linked
  | .extend | .joiner => x.conjunct
  | _ => .none

def nextPictured (x : GraphemeContext) : GraphemeClass → Bool
  | .pictograph => true
  | .extend | .linker | .nonJoiner | .joiner => x.pictured && x.last != .joiner
  | _ => false

def next (x : GraphemeContext) (c : GraphemeClass) : GraphemeContext where
  last := c
  pictured := x.nextPictured c
  conjunct := x.nextConjunct c
  oddRegional := c == .regional && !x.oddRegional

def endsBefore (x : GraphemeContext) (c : GraphemeClass) : Bool :=
  match x.last, c with
  | .carriageReturn, .lineFeed => false
  | .carriageReturn, _ | .lineFeed, _ | .control, _ => true
  | _, .carriageReturn | _, .lineFeed | _, .control => true
  | .leading, .leading | .leading, .vowel => false
  | .leading, .openSyllable | .leading, .closedSyllable => false
  | .openSyllable, .vowel | .openSyllable, .trailing => false
  | .vowel, .vowel | .vowel, .trailing => false
  | .closedSyllable, .trailing | .trailing, .trailing => false
  | _, .extend | _, .linker | _, .nonJoiner | _, .joiner | _, .spacingMark => false
  | .prepend, _ => false
  | _, .consonant => x.conjunct != .linked
  | .joiner, .pictograph => !x.pictured
  | .regional, .regional => !x.oddRegional
  | _, _ => true

end GraphemeContext

/-- The graphemes of characters behind a context. The first one is what is left of the grapheme
that the context stands in. -/
def graphemesFrom (x : GraphemeContext) : List Char → List (List Char)
  | [] => [[]]
  | c :: rest =>
    let k := GraphemeClass.ofChar c
    match graphemesFrom (x.next k) rest with
    | [] => [[c]]
    | g :: others => if x.endsBefore k then [] :: (c :: g) :: others else (c :: g) :: others

/-- The graphemes of characters, in order. -/
def graphemes : List Char → List (List Char)
  | [] => []
  | c :: rest =>
    match graphemesFrom (.start (GraphemeClass.ofChar c)) rest with
    | [] => [[c]]
    | g :: others => (c :: g) :: others

end CsvQuery.Text
