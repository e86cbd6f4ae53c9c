import CsvQuery.Proofs.Expr.Canonical
import CsvQuery.Proofs.Token.Spelling
import CsvQuery.Statement
import Mathlib.Data.List.Forall2

/-!
The grammar of statements, as the tokens that spell a statement clause by clause. Only the direction
of a sort key can be spelled in two ways: an ascending one may be left out.
-/

namespace CsvQuery

def SelectItem.tokens (item : SelectItem) : List Token :=
  (match item.aggregate with
    | none => [.identifier item.field]
    | some f => [.keyword (.aggregate f), .openParen, .identifier item.field, .closeParen]) ++
  (match item.newName with
    | none => []
    | some name => [.keyword .named, .identifier name])

def Selection.tokens : Selection → List Token
  | all => [.star]
  | items list => [.comma].intercalate (list.map (·.tokens))

def Selection.Regular : Selection → Prop
  | all => True
  | items list => list ≠ []

/-- The tokens of the tables, each join behind the tables before it. -/
def Origin.tokens : Origin → List Token
  | table name => [.identifier name]
  | join kind left right condition =>
    left.tokens ++ [.keyword (.join kind), .identifier right, .keyword .matching] ++
      condition.tokens

/-- The conditions of joins have the trees that precedence gives them. -/
def Origin.Regular : Origin → Prop
  | table _ => True
  | join _ left _ condition => left.Regular ∧ Expr.Canonical .join 0 condition

def OrderKey.tokens (key : OrderKey) : List Token :=
  [.identifier key.field, .keyword (.direction key.direction)]

inductive OrderKey.Spelled : OrderKey → List Token → Prop
  | directed (key : OrderKey) : Spelled key key.tokens
  | ascending (field : String) : Spelled ⟨field, .ascending⟩ [.identifier field]

namespace Statement

/-- The tokens of a clause that is a word and a list. An empty list has no clause. -/
def listClause (word : Keyword) (parts : List (List Token)) : List Token :=
  match parts with
  | [] => []
  | part :: parts => .keyword word :: [.comma].intercalate (part :: parts)

def conditionClause : Option Expr → List Token
  | none => []
  | some e => .keyword .condition :: e.tokens

def limitClause : Option Nat → List Token
  | none => []
  | some n => [.keyword .limit, .number n]

def opening (s : Statement) : List Token :=
  .keyword .select :: s.selection.tokens ++ .keyword .source :: s.origin.tokens

/-- The tokens of a statement whose sort keys have the given tokens. -/
def tokensWith (s : Statement) (keys : List (List Token)) : List Token :=
  s.opening ++ conditionClause s.condition ++
    listClause .groupBy (s.groupBy.map fun name => [.identifier name]) ++
    listClause .orderBy keys ++ limitClause s.limit

/-- The tokens of a statement with every direction written out. -/
def tokens (s : Statement) : List Token :=
  s.tokensWith (s.orderBy.map (·.tokens))

/-- The text of a statement: its tokens with a space between them. -/
def text (s : Statement) : String :=
  " ".intercalate (s.tokens.map (·.spelling))

structure Regular (s : Statement) : Prop where
  selection : s.selection.Regular
  origin : s.origin.Regular
  condition : ∀ e ∈ s.condition, Expr.Canonical .value 0 e

def Spelled (s : Statement) (ts : List Token) : Prop :=
  s.Regular ∧ ∃ keys, List.Forall₂ OrderKey.Spelled s.orderBy keys ∧ ts = s.tokensWith keys

lemma forall₂_tokens (keys : List OrderKey) :
    List.Forall₂ OrderKey.Spelled keys (keys.map (·.tokens)) := by
  induction keys with
  | nil => exact .nil
  | cons key keys ih => exact .cons (.directed key) ih

lemma spelled_tokens {s : Statement} (h : s.Regular) : s.Spelled s.tokens :=
  ⟨h, _, forall₂_tokens s.orderBy, rfl⟩

/-! ### Lists with commas -/

lemma intercalate_snoc {α : Type} (sep : α) (parts : List (List α)) (part : List α) :
    [sep].intercalate (parts ++ [part]) = parts.flatMap (· ++ [sep]) ++ part := by
  induction parts with
  | nil => simp
  | cons first parts ih =>
    cases parts with
    | nil => simp
    | cons second parts => simpa using ih

lemma listClause_snoc (word : Keyword) (parts : List (List Token)) (part : List Token) :
    listClause word (parts ++ [part]) =
      .keyword word :: (parts.flatMap (· ++ [.comma]) ++ part) := by
  rw [← intercalate_snoc]
  cases parts <;> rfl

lemma listClause_comma (word : Keyword) {parts : List (List Token)} (h : parts ≠ []) :
    listClause word parts ++ [.comma] = .keyword word :: parts.flatMap (· ++ [.comma]) := by
  obtain ⟨init, part, rfl⟩ : ∃ init part, parts = init ++ [part] :=
    ⟨_, _, (List.dropLast_concat_getLast h).symm⟩
  simp [listClause_snoc]

end Statement

end CsvQuery
