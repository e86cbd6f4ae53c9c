import CsvQuery.Token

/-!
Expressions of WHERE and ON clauses, with the binding powers that give a sequence of operands and
operators its tree. There are no parentheses around expressions.
-/

namespace CsvQuery

/-- A number or text written in a query. -/
inductive Literal
  | number (n : Int)
  | text (s : String)
  deriving DecidableEq, Repr

namespace Literal

def ofToken? : Token → Option Literal
  | .number n => some (number n)
  | .text s => some (text s)
  | _ => none

def token : Literal → Token
  | number n => .number n
  | text s => .text s

end Literal

/-- A bound of BETWEEN: a single token. -/
inductive Bound
  | literal (l : Literal)
  | column (name : String)
  deriving DecidableEq, Repr

namespace Bound

def ofToken? : Token → Option Bound
  | .number n => some (literal (.number n))
  | .text s => some (literal (.text s))
  | .identifier name => some (column name)
  | _ => none

def token : Bound → Token
  | literal l => l.token
  | column name => .identifier name

end Bound

inductive Expr
  | literal (l : Literal)
  /-- A column by its bare name. -/
  | column (name : String)
  /-- A column by its table and name. -/
  | qualified (table name : String)
  | binary (op : BinaryOp) (left right : Expr)
  /-- Whether an integer lies between two bounds, both included. -/
  | between (e : Expr) (lower upper : Bound)
  /-- Whether a value is written like one of the candidates. -/
  | among (e : Expr) (candidates : List Literal)
  deriving DecidableEq, Repr

/-- How tightly a binary operator binds: OR least, then AND, then comparisons. -/
def BinaryOp.power : BinaryOp → Nat
  | or => 100
  | and => 200
  | compare _ => 500

def BinaryOp.token : BinaryOp → Token
  | and => .keyword .and
  | or => .keyword .or
  | compare c => .comparison c

/-- How tightly BETWEEN and IN bind: more than AND, less than a comparison. -/
def Expr.predicatePower : Nat := 400

/-- Which expressions a clause takes. -/
inductive Grammar
  /-- Of WHERE: operands are literals and bare column names. -/
  | value
  /-- Of ON: operands are literals and qualified columns, and there is no BETWEEN and no IN. -/
  | join
  deriving DecidableEq, Repr

/-- What may follow an expression to make a larger one. -/
inductive Operator
  | binary (op : BinaryOp)
  | between
  | among
  deriving DecidableEq, Repr

def Operator.power : Operator → Nat
  | binary op => op.power
  | between | among => Expr.predicatePower

def Grammar.operator? (g : Grammar) : Token → Option Operator
  | .keyword .and => some (.binary .and)
  | .keyword .or => some (.binary .or)
  | .comparison c => some (.binary (.compare c))
  | .keyword .between => if g = .value then some .between else none
  | .keyword .among => if g = .value then some .among else none
  | _ => none

namespace Expr

def tokens : Expr → List Token
  | literal l => [l.token]
  | column name => [.identifier name]
  | qualified table name => [.identifier table, .dot, .identifier name]
  | binary op left right => left.tokens ++ op.token :: right.tokens
  | between e lower upper =>
    e.tokens ++ [.keyword .between, lower.token, .keyword .and, upper.token]
  | among e candidates =>
    e.tokens ++ [.keyword .among, .openParen] ++
      (candidates.map (·.token)).intersperse .comma ++ [.closeParen]

end Expr

end CsvQuery
