import CsvQuery.Expr
import CsvQuery.Schema
import CsvQuery.Value

/-!
The value of an expression on a row. A text supports equality only: every other operator with a
text operand is false. Truth is one, falsehood zero.
-/

namespace CsvQuery

def Literal.value : Literal → Value
  | number n => .integer n
  | text s => .text s

/-- The integer a bound stands for. A column is not looked up, so it stands for none. -/
def Bound.toInteger? : Bound → Option Int
  | literal l => l.value.toInteger?
  | column _ => none

def Comparison.holds : Comparison → Int → Int → Bool
  | equal, m, n => m == n
  | notEqual, m, n => m != n
  | less, m, n => m < n
  | lessEqual, m, n => m ≤ n
  | greater, m, n => n < m
  | greaterEqual, m, n => n ≤ m

def BinaryOp.holds (op : BinaryOp) : Value → Value → Bool
  | .integer m, .integer n =>
    match op with
    | and => m != 0 && n != 0
    | or => m != 0 || n != 0
    | compare c => c.holds m n
  | a, b => op == compare .equal && a.display == b.display

namespace Expr

/-- Whether a value is an integer between two bounds that stand for integers. -/
def isBetween (v : Value) (lower upper : Bound) : Bool :=
  match v, lower.toInteger?, upper.toInteger? with
  | .integer n, some l, some u => l ≤ n && n ≤ u
  | _, _, _ => false

def isAmong (v : Value) (candidates : List Literal) : Bool :=
  candidates.any fun l => l.value.display == v.display

def eval (s : Schema) (r : Row) : Expr → Except Error Value
  | literal l => .ok l.value
  | column name => do
    let position ← s.resolve name
    return Value.ofCell (r.cell position)
  | qualified table name => do
    let position ← s.resolveQualified table name
    return Value.ofCell (r.cell position)
  | binary op left right => do
    let a ← left.eval s r
    let b ← right.eval s r
    return Value.ofBool (op.holds a b)
  | between e lower upper => do
    let v ← e.eval s r
    return Value.ofBool (isBetween v lower upper)
  | among e candidates => do
    let v ← e.eval s r
    return Value.ofBool (isAmong v candidates)

/-- The truth of an expression on a row, as a value that is one or zero. -/
def truth (s : Schema) (r : Row) (e : Expr) : Except Error Value := do
  let v ← e.eval s r
  return Value.ofBool v.holds

def passes (s : Schema) (r : Row) (e : Expr) : Except Error Bool := do
  let v ← e.truth s r
  return v == Value.ofBool true

/-- Whether a bound that is a column names one of the schema. -/
def checkBound (s : Schema) : Bound → Except Error Unit
  | .literal _ => .ok ()
  | .column name => do
    let _ ← s.resolve name
    return ()

/-- Whether every column of an expression is one of the schema. The error is that of the first
one, from left to right, that is not. -/
def check (s : Schema) : Expr → Except Error Unit
  | literal _ => .ok ()
  | column name => do
    let _ ← s.resolve name
    return ()
  | qualified table name => do
    let _ ← s.resolveQualified table name
    return ()
  | binary _ left right => do
    left.check s
    right.check s
  | between e lower upper => do
    e.check s
    checkBound s lower
    checkBound s upper
  | among e _ => e.check s

end Expr

end CsvQuery
