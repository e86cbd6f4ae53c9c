import CsvQuery.Text.Integer

/-!
Values: what a cell or a literal stands for in an expression. A cell is an integer if its whole
text is the text of one, and a text otherwise.
-/

namespace CsvQuery

inductive Value
  | integer (n : Int)
  | text (s : String)
  deriving DecidableEq, Repr

namespace Value

def ofCell (cell : String) : Value :=
  match Integer.ofText? cell with
  | some n => integer n
  | none => text cell

/-- Truth as a value: one or zero. -/
def ofBool (b : Bool) : Value :=
  integer (if b then 1 else 0)

/-- Every value except the integer zero holds. -/
def holds : Value → Bool
  | integer n => n != 0
  | text _ => true

def display : Value → String
  | integer n => toString n
  | text s => s

def toInteger? : Value → Option Int
  | integer n => some n
  | text s => Integer.ofText? s

end Value

/-- The order of two cells: by number if both are integers, otherwise by code points. -/
def compareCells (a b : String) : Ordering :=
  match Integer.ofText? a, Integer.ofText? b with
  | some m, some n => compare m n
  | _, _ => compare a b

end CsvQuery
