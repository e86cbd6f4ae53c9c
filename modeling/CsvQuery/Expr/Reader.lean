import CsvQuery.Expr
import CsvQuery.Token.Cursor

/-!
Reading an expression one token at a time. A stage holds the tree of the tokens so far and says
what may come next; an operator takes the part at the right end of the tree that binds more
tightly than it does.
-/

namespace CsvQuery.Expr

/-- The tree with an operator of the given power put on its right end: `build` makes the new node
from the largest part at the right end that no weaker operator stands above. -/
def extend (power : Nat) (build : Expr → Expr) : Expr → Expr
  | binary op left right =>
    if op.power < power then binary op left (extend power build right)
    else build (binary op left right)
  | e => build e

/-- The tree with a binary operator and its right operand put on its right end. -/
def extendBinary (e : Expr) (op : BinaryOp) (operand : Expr) : Expr :=
  extend op.power (fun left => binary op left operand) e

inductive Stage
  /-- An operand comes next, after an expression and an operator or as the first. -/
  | operand (before : Option (Expr × BinaryOp))
  /-- The dot of a qualified column comes next. -/
  | dot (before : Option (Expr × BinaryOp)) (table : String)
  /-- The field of a qualified column comes next. -/
  | field (before : Option (Expr × BinaryOp)) (table : String)
  /-- An expression that may end here. -/
  | whole (e : Expr)
  /-- The lower bound comes next. -/
  | lower (e : Expr)
  /-- The AND between two bounds comes next. -/
  | separator (e : Expr) (lower : Bound)
  /-- The upper bound comes next. -/
  | upper (e : Expr) (lower : Bound)
  /-- The parenthesis of a list comes next. -/
  | opening (e : Expr)
  /-- A literal of a list comes next. -/
  | item (e : Expr) (found : List Literal)
  /-- A comma or the end of a list comes next. -/
  | afterItem (e : Expr) (found : List Literal)
  deriving DecidableEq, Repr

namespace Stage

def withOperand (before : Option (Expr × BinaryOp)) (operand : Expr) : Stage :=
  match before with
  | none => whole operand
  | some (e, op) => whole (e.extendBinary op operand)

def withOperator (e : Expr) : Operator → Stage
  | .binary op => operand (some (e, op))
  | .between => lower e
  | .among => opening e

/-- The stage after one more token, if the token may come next. After a whole expression only an
operator that binds more tightly than `floor` may come. -/
def next? (g : Grammar) (floor : Nat) : Stage → Token → Option Stage
  | operand before, .number n => some (withOperand before (literal (.number n)))
  | operand before, .text s => some (withOperand before (literal (.text s)))
  | operand before, .identifier name =>
    match g with
    | .value => some (withOperand before (column name))
    | .join => some (dot before name)
  | dot before table, .dot => some (field before table)
  | field before table, .identifier name => some (withOperand before (qualified table name))
  | whole e, t =>
    match g.operator? t with
    | some i => if floor < i.power then some (withOperator e i) else none
    | none => none
  | lower e, t => (Bound.ofToken? t).map fun b => separator e b
  | separator e b, .keyword .and => some (upper e b)
  | upper e b, t =>
    (Bound.ofToken? t).map fun b' => whole (e.extend predicatePower fun x => between x b b')
  | opening e, .openParen => some (item e [])
  | item e found, t => (Literal.ofToken? t).map fun l => afterItem e (found ++ [l])
  | afterItem e found, .comma => some (item e found)
  | afterItem e found, .closeParen =>
    some (whole (e.extend predicatePower fun x => among x found))
  | _, _ => none

def wanted (g : Grammar) : Stage → Expectation
  | operand _ =>
    match g with
    | .value => .operand
    | .join => .qualifiedColumn
  | dot _ _ => .qualifyingDot
  | field _ _ => .qualifiedField
  | whole _ => .nothing
  | lower _ | upper _ _ => .bound
  | separator _ _ => .boundSeparator
  | opening _ => .listOpening
  | item _ _ => .listItem
  | afterItem _ _ => .listSeparator

end Stage

/-- The longest expression that goes on from a stage, and the tokens after it. -/
def readFrom (g : Grammar) (floor : Nat) (stage : Stage) : Cursor → Except Error (Expr × Cursor)
  | [] =>
    match stage with
    | .whole e => .ok (e, [])
    | _ => .error (Cursor.error [] (stage.wanted g))
  | t :: rest =>
    match stage.next? g floor t.token with
    | some next => readFrom g floor next rest
    | none =>
      match stage with
      | .whole e => .ok (e, t :: rest)
      | _ => .error (Cursor.error (t :: rest) (stage.wanted g))

/-- The expression at the head of the tokens and the tokens after it. Only operators that bind
more tightly than `floor` belong to it. -/
def read (g : Grammar) (floor : Nat) (tokens : Cursor) : Except Error (Expr × Cursor) :=
  readFrom g floor (.operand none) tokens

end CsvQuery.Expr
