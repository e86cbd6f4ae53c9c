import CsvQuery.Vocabulary

/-!
Tokens of the query language, the table of its keywords, and the text by which a diagnostic
names a token.
-/

namespace CsvQuery

/-- A word, or pair of words, with a meaning of its own. -/
inductive Keyword
  /-- The word SELECT. -/
  | select
  /-- The word AS. -/
  | named
  /-- The word FROM. -/
  | source
  /-- The word WHERE. -/
  | condition
  /-- The word AND. -/
  | and
  /-- The word OR. -/
  | or
  /-- The word BETWEEN. -/
  | between
  /-- The word IN. -/
  | among
  /-- The word LIMIT. -/
  | limit
  /-- The words ORDER BY. -/
  | orderBy
  /-- The words GROUP BY. -/
  | groupBy
  /-- The word ASC or DESC. -/
  | direction (d : Direction)
  /-- The word JOIN, alone or after LEFT or RIGHT. -/
  | join (k : JoinKind)
  /-- The word ON. -/
  | matching
  /-- The name of an aggregate function. -/
  | aggregate (f : Aggregate)
  deriving DecidableEq, Repr

namespace Keyword

/-- How a keyword is written, in capitals and with one space inside a pair. -/
def spelling : Keyword → String
  | select => "SELECT"
  | named => "AS"
  | source => "FROM"
  | condition => "WHERE"
  | and => "AND"
  | or => "OR"
  | between => "BETWEEN"
  | among => "IN"
  | limit => "LIMIT"
  | orderBy => "ORDER BY"
  | groupBy => "GROUP BY"
  | direction d => d.word
  | join k => k.words
  | matching => "ON"
  | aggregate f => f.word

def all : List Keyword :=
  [select, named, source, condition, and, or, between, among, limit, orderBy, groupBy,
    direction .ascending, direction .descending, join .inner, join .left, join .right, matching,
    aggregate .sum, aggregate .count, aggregate .average, aggregate .max, aggregate .min]

/-- The keyword spelled by a text, if there is one. Case matters. -/
def ofText? (s : String) : Option Keyword :=
  all.find? (·.spelling == s)

end Keyword

inductive Token
  | identifier (name : String)
  | number (value : Int)
  | text (content : String)
  | keyword (word : Keyword)
  | comparison (c : Comparison)
  | comma
  | dot
  | star
  | openParen
  | closeParen
  /-- The end of the query. -/
  | eof
  deriving DecidableEq, Repr

namespace Token

def ofWord (s : String) : Token :=
  match Keyword.ofText? s with
  | some word => keyword word
  | none => identifier s

def describe : Token → String
  | identifier name => "identifier " ++ name
  | number value => "number " ++ toString value
  | text content => "string '" ++ content ++ "'"
  | keyword word => word.spelling
  | comparison c => c.sign
  | comma => ","
  | dot => "."
  | star => "*"
  | openParen => "("
  | closeParen => ")"
  | eof => "end of input"

end Token

/-- A token with the code points it takes in the query, from `start` up to but not including
`stop`. -/
structure Located where
  token : Token
  start : Nat
  stop : Nat
  deriving DecidableEq, Repr

end CsvQuery
