import CsvQuery.Expr.Reader
import CsvQuery.Statement
import CsvQuery.Token.Lexer

/-!
Reading a statement one token at a time:

SELECT columns FROM table, then any number of JOIN table ON condition, then at most one each of
WHERE expression, GROUP BY fields, ORDER BY fields with directions, and LIMIT number, in this order.

A stage holds what has been read and says what may come next, so a syntax error is always at the
first token that no statement could have there.
-/

namespace CsvQuery.Statement

/-- The clauses after the tables, in the order they must have. -/
inductive Clause
  | condition | groupBy | orderBy | limit
  deriving DecidableEq, Repr

def Clause.rank : Clause → Nat
  | condition => 1
  | groupBy => 2
  | orderBy => 3
  | limit => 4

/-- The clause that a token opens, if it opens one. -/
def Clause.ofToken? : Token → Option Clause
  | .keyword .condition => some condition
  | .keyword .groupBy => some groupBy
  | .keyword .orderBy => some orderBy
  | .keyword .limit => some limit
  | _ => none

inductive Stage
  /-- Nothing: SELECT comes next. -/
  | start
  /-- The star or the first column comes next. -/
  | selection
  /-- Another column comes next. -/
  | item (found : List SelectItem)
  /-- The opening parenthesis of a call comes next. -/
  | opening (found : List SelectItem) (f : Aggregate)
  /-- The field of a call comes next. -/
  | argument (found : List SelectItem) (f : Aggregate)
  /-- The closing parenthesis of a call comes next. -/
  | closing (found : List SelectItem) (f : Aggregate) (field : String)
  /-- A column without a new name so far. -/
  | unnamed (found : List SelectItem) (item : SelectItem)
  /-- A new name comes next. -/
  | newName (found : List SelectItem) (item : SelectItem)
  /-- A column with its new name. -/
  | named (found : List SelectItem)
  /-- The star: FROM comes next. -/
  | star
  /-- The first table comes next. -/
  | table (selection : Selection)
  /-- The tables so far: a join or a clause may come. -/
  | joins (s : Statement)
  /-- The right table of a join comes next. -/
  | joined (s : Statement) (kind : JoinKind)
  /-- The ON of a join comes next. -/
  | matching (s : Statement) (kind : JoinKind) (right : String)
  /-- Inside the condition of a join. -/
  | joinCondition (s : Statement) (kind : JoinKind) (right : String) (e : Expr.Stage)
  /-- Inside the WHERE expression. -/
  | condition (s : Statement) (e : Expr.Stage)
  /-- A field of GROUP BY comes next. -/
  | groupField (s : Statement)
  /-- After a field of GROUP BY. -/
  | grouped (s : Statement)
  /-- A field of ORDER BY comes next. -/
  | orderField (s : Statement)
  /-- After a field of ORDER BY, where a direction may come. -/
  | ordering (s : Statement) (field : String)
  /-- After a field of ORDER BY and its direction. -/
  | ordered (s : Statement)
  /-- The number of LIMIT comes next. -/
  | limit (s : Statement)
  /-- After LIMIT: nothing more may come. -/
  | limited (s : Statement)
  deriving DecidableEq, Repr

namespace Stage

/-- The stage after the token of a clause that may follow the clauses up to rank `last`. -/
def clause? (s : Statement) (last : Nat) (t : Token) : Option Stage :=
  match Clause.ofToken? t with
  | none => none
  | some c =>
    if last < c.rank then
      match c with
      | .condition => some (condition s (.operand none))
      | .groupBy => some (groupField s)
      | .orderBy => some (orderField s)
      | .limit => some (limit s)
    else none

/-- The stage after the token of a join or of a clause after the tables. -/
def joinOrClause? (s : Statement) (t : Token) : Option Stage :=
  match t with
  | .keyword (.join kind) => some (joined s kind)
  | _ => clause? s 0 t

def withJoin (s : Statement) (kind : JoinKind) (right : String) (e : Expr) : Statement :=
  { s with origin := .join kind s.origin right e }

def withKey (s : Statement) (field : String) (direction : Direction) : Statement :=
  { s with orderBy := s.orderBy ++ [⟨field, direction⟩] }

/-- The stage after one more token, if the token may come next. -/
def next? : Stage → Token → Option Stage
  | start, .keyword .select => some selection
  | selection, .star => some star
  | selection, .identifier name => some (unnamed [] ⟨none, name, none⟩)
  | selection, .keyword (.aggregate f) => some (opening [] f)
  | item found, .identifier name => some (unnamed found ⟨none, name, none⟩)
  | item found, .keyword (.aggregate f) => some (opening found f)
  | opening found f, .openParen => some (argument found f)
  | argument found f, .identifier name => some (closing found f name)
  | closing found f field, .closeParen => some (unnamed found ⟨some f, field, none⟩)
  | unnamed found i, .keyword .named => some (newName found i)
  | unnamed found i, .comma => some (item (found ++ [i]))
  | unnamed found i, .keyword .source => some (table (.items (found ++ [i])))
  | newName found i, .identifier name => some (named (found ++ [{ i with newName := some name }]))
  | named found, .comma => some (item found)
  | named found, .keyword .source => some (table (.items found))
  | star, .keyword .source => some (table .all)
  | table chosen, .identifier name => some (joins (.reading chosen (.table name)))
  | joins s, t => joinOrClause? s t
  | joined s kind, .identifier name => some (matching s kind name)
  | matching s kind right, .keyword .matching =>
    some (joinCondition s kind right (.operand none))
  | joinCondition s kind right e, t =>
    match e.next? .join 0 t, e with
    | some e', _ => some (joinCondition s kind right e')
    | none, .whole e' => joinOrClause? (withJoin s kind right e') t
    | none, _ => none
  | condition s e, t =>
    match e.next? .value 0 t, e with
    | some e', _ => some (condition s e')
    | none, .whole e' => clause? { s with condition := some e' } Clause.condition.rank t
    | none, _ => none
  | groupField s, .identifier name => some (grouped { s with groupBy := s.groupBy ++ [name] })
  | grouped s, .comma => some (groupField s)
  | grouped s, t => clause? s Clause.groupBy.rank t
  | orderField s, .identifier name => some (ordering s name)
  | ordering s field, .keyword (.direction d) => some (ordered (withKey s field d))
  | ordering s field, .comma => some (orderField (withKey s field .ascending))
  | ordering s field, t => clause? (withKey s field .ascending) Clause.orderBy.rank t
  | ordered s, .comma => some (orderField s)
  | ordered s, t => clause? s Clause.orderBy.rank t
  | limit s, .number n => some (limited { s with limit := some n.toNat })
  | _, _ => none

/-- The statement that has been read, if it may end here. -/
def finish? : Stage → Option Statement
  | joins s => some s
  | joinCondition s kind right (.whole e) => some (withJoin s kind right e)
  | condition s (.whole e) => some { s with condition := some e }
  | grouped s => some s
  | ordering s field => some (withKey s field .ascending)
  | ordered s => some s
  | limited s => some s
  | _ => none

/-- What the grammar wants where a statement may end but another token was found. -/
def wantedAtEnd (found : Token) : Expectation :=
  if (Clause.ofToken? found).isSome then .laterClause else .nothing

/-- What the grammar wants at a stage where a token was found that may not come next. -/
def wanted (found : Token) : Stage → Expectation
  | start => .select
  | selection | item _ => .column
  | opening _ f => .call f .opening
  | argument _ f => .call f .argument
  | closing _ f _ => .call f .closing
  | newName _ _ => .newName
  | unnamed _ _ | named _ | star => .source
  | table _ => .table
  | joined _ _ => .joinedTable
  | matching _ _ _ => .matching
  | joinCondition _ _ _ (.whole _) | condition _ (.whole _) => wantedAtEnd found
  | joinCondition _ _ _ e => e.wanted .join
  | condition _ e => e.wanted .value
  | groupField _ => .groupColumn
  | orderField _ => .orderColumn
  | limit _ => .limit
  | joins _ | grouped _ | ordering _ _ | ordered _ | limited _ => wantedAtEnd found

end Stage

/-- The statement that goes on from a stage, up to the end of the query. -/
def readFrom (stage : Stage) : Cursor → Except Error Statement
  | [] =>
    match stage.finish? with
    | some s => .ok s
    | none => .error (Cursor.error [] (stage.wanted .eof))
  | t :: rest =>
    match stage.next? t.token with
    | some next => readFrom next rest
    | none =>
      match t.token, stage.finish? with
      | .eof, some s => .ok s
      | _, _ => .error (Cursor.error (t :: rest) (stage.wanted t.token))

def read (tokens : List Located) : Except Error Statement :=
  readFrom .start tokens

def ofQuery (query : String) : Except Error Statement :=
  (Token.lex query).bind read

end CsvQuery.Statement
