/-!
The closed word lists of the query language: comparison and logical operators, aggregate
functions, kinds of join and sort directions.
-/

namespace CsvQuery

inductive Comparison
  | equal | notEqual | less | lessEqual | greater | greaterEqual
  deriving DecidableEq, Repr

namespace Comparison

def sign : Comparison → String
  | equal => "="
  | notEqual => "<>"
  | less => "<"
  | lessEqual => "<="
  | greater => ">"
  | greaterEqual => ">="

def name : Comparison → String
  | equal => "Equal"
  | notEqual => "NotEqual"
  | less => "Less"
  | lessEqual => "LessEqual"
  | greater => "Greater"
  | greaterEqual => "GreaterEqual"

/-- The comparison that a run of operator characters denotes. Every run that is not one of the
other five signs means equality, `!=` and `==` included. -/
def ofRun (run : List Char) : Comparison :=
  match run with
  | ['>'] => greater
  | ['>', '='] => greaterEqual
  | ['<'] => less
  | ['<', '='] => lessEqual
  | ['<', '>'] => notEqual
  | _ => equal

end Comparison

inductive BinaryOp
  | and
  | or
  | compare (c : Comparison)
  deriving DecidableEq, Repr

def BinaryOp.name : BinaryOp → String
  | and => "And"
  | or => "Or"
  | compare c => c.name

/-- What an aggregate column computes from the cells of a group. -/
inductive Aggregate
  | sum | count | average | max | min
  deriving DecidableEq, Repr

/-- The word for an aggregate in a query, and the first part of its column's name. -/
def Aggregate.word : Aggregate → String
  | sum => "SUM"
  | count => "COUNT"
  | average => "AVG"
  | max => "MAX"
  | min => "MIN"

/-- The declared kind of a join. It has no influence on the rows of the join. -/
inductive JoinKind
  | inner | left | right
  deriving DecidableEq, Repr

namespace JoinKind

def words : JoinKind → String
  | inner => "JOIN"
  | left => "LEFT JOIN"
  | right => "RIGHT JOIN"

def name : JoinKind → String
  | inner => "Inner"
  | left => "Left"
  | right => "Right"

end JoinKind

inductive Direction
  | ascending | descending
  deriving DecidableEq, Repr

def Direction.word : Direction → String
  | ascending => "ASC"
  | descending => "DESC"

end CsvQuery
