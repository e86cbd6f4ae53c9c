import CsvQuery.Proofs.Statement.Grammar
import CsvQuery.Statement.Reader

/-!
The parts of a statement in the order in which they are read. A statement that has been read up to
some clause is spelled by the tokens so far and has nothing behind that clause; every clause that
may follow makes it a longer one.
-/

namespace CsvQuery.Statement

/-! ### The tokens of clauses -/

namespace Clause

def token : Clause → Token
  | condition => .keyword .condition
  | groupBy => .keyword .groupBy
  | orderBy => .keyword .orderBy
  | limit => .keyword .limit

def opened (s : Statement) : Clause → Stage
  | condition => .condition s (.operand none)
  | groupBy => .groupField s
  | orderBy => .orderField s
  | limit => .limit s

lemma ofToken?_eq_some_iff {t : Token} {c : Clause} : ofToken? t = some c ↔ t = c.token := by
  constructor
  · intro h
    unfold ofToken? at h
    split at h <;> cases h <;> rfl
  · rintro rfl
    cases c <;> rfl

end Clause

namespace Stage

lemma clause?_eq_some_iff {s : Statement} {last : Nat} {t : Token} {st : Stage} :
    clause? s last t = some st ↔
      ∃ c : Clause, t = c.token ∧ last < c.rank ∧ st = c.opened s := by
  unfold clause?
  constructor
  · intro h
    split at h
    · cases h
    · rename_i c hc
      split at h
      · rename_i hlt
        refine ⟨c, Clause.ofToken?_eq_some_iff.mp hc, hlt, ?_⟩
        cases c <;> exact (Option.some.inj h).symm
      · cases h
  · rintro ⟨c, rfl, hlt, rfl⟩
    rw [Clause.ofToken?_eq_some_iff.mpr rfl]
    simp only [hlt, if_true]
    cases c <;> rfl

lemma clause?_token {s : Statement} {last : Nat} {c : Clause} (h : last < c.rank) :
    clause? s last c.token = some (c.opened s) :=
  clause?_eq_some_iff.mpr ⟨c, rfl, h, rfl⟩

lemma joinOrClause?_token {s : Statement} (c : Clause) :
    joinOrClause? s c.token = some (c.opened s) := by
  cases c <;> rfl

lemma joinOrClause?_eq_some_iff {s : Statement} {t : Token} {st : Stage} :
    joinOrClause? s t = some st ↔
      (∃ kind, t = .keyword (.join kind) ∧ st = joined s kind) ∨
        ∃ c : Clause, t = c.token ∧ st = c.opened s := by
  constructor
  · intro h
    unfold joinOrClause? at h
    split at h
    · cases h
      exact .inl ⟨_, rfl, rfl⟩
    · obtain ⟨c, rfl, -, rfl⟩ := clause?_eq_some_iff.mp h
      exact .inr ⟨c, rfl, rfl⟩
  · rintro (⟨kind, rfl, rfl⟩ | ⟨c, rfl, rfl⟩)
    · rfl
    · exact joinOrClause?_token c

end Stage

/-! ### Statements up to a clause -/

/-- The statement has no clause of a later rank. -/
structure Bare (last : Nat) (s : Statement) : Prop where
  condition : last < 1 → s.condition = none
  groupBy : last < 2 → s.groupBy = []
  orderBy : last < 3 → s.orderBy = []
  limit : last < 4 → s.limit = none

/-- The tokens spell the statement up to the clause of a rank, and no later clause. -/
def Upto (last : Nat) (s : Statement) (ts : List Token) : Prop :=
  s.Spelled ts ∧ s.Bare last

lemma Bare.mono {last last' : Nat} {s : Statement} (h : s.Bare last) (hle : last ≤ last') :
    s.Bare last' :=
  ⟨fun hlt => h.condition (by omega), fun hlt => h.groupBy (by omega),
    fun hlt => h.orderBy (by omega), fun hlt => h.limit (by omega)⟩

namespace Upto

variable {last : Nat} {s : Statement} {ts : List Token}

lemma mono {last' : Nat} (h : s.Upto last ts) (hle : last ≤ last') : s.Upto last' ts :=
  ⟨h.1, h.2.mono hle⟩

lemma reading {chosen : Selection} (h : chosen.Regular) (name : String) :
    (Statement.reading chosen (.table name)).Upto 0
      (.keyword .select :: chosen.tokens ++ [.keyword .source, .identifier name]) := by
  refine ⟨⟨⟨h, trivial, by simp [Statement.reading]⟩, [], .nil, ?_⟩,
    ⟨fun _ => rfl, fun _ => rfl, fun _ => rfl, fun _ => rfl⟩⟩
  simp [Statement.reading, tokensWith, opening, Origin.tokens, conditionClause, listClause,
    limitClause]

lemma exists_reading (h : s.Upto 0 ts) :
    ∃ chosen origin, s = .reading chosen origin ∧ chosen.Regular ∧ origin.Regular ∧
      ts = s.opening := by
  obtain ⟨⟨hreg, keys, hkeys, rfl⟩, hbare⟩ := h
  obtain ⟨selection, origin, condition, groupBy, orderBy, limit⟩ := s
  obtain rfl : condition = none := hbare.condition (by omega)
  obtain rfl : groupBy = [] := hbare.groupBy (by omega)
  obtain rfl : orderBy = [] := hbare.orderBy (by omega)
  obtain rfl : limit = none := hbare.limit (by omega)
  cases hkeys
  refine ⟨selection, origin, rfl, hreg.selection, hreg.origin, ?_⟩
  simp [tokensWith, conditionClause, listClause, limitClause]

lemma join (h : s.Upto 0 ts) (kind : JoinKind) (right : String) {e : Expr}
    (he : Expr.Canonical .join 0 e) :
    (Stage.withJoin s kind right e).Upto 0
      (ts ++ [.keyword (.join kind), .identifier right, .keyword .matching] ++ e.tokens) := by
  obtain ⟨chosen, origin, rfl, hchosen, horigin, rfl⟩ := h.exists_reading
  refine ⟨⟨⟨hchosen, ⟨horigin, he⟩, by simp [Stage.withJoin, Statement.reading]⟩, [], .nil, ?_⟩,
    ⟨fun _ => rfl, fun _ => rfl, fun _ => rfl, fun _ => rfl⟩⟩
  simp [Stage.withJoin, Statement.reading, tokensWith, opening, Origin.tokens, conditionClause,
    listClause, limitClause]

lemma condition (h : s.Upto 0 ts) {e : Expr} (he : Expr.Canonical .value 0 e) :
    Upto 1 { s with condition := some e } (ts ++ .keyword .condition :: e.tokens) := by
  obtain ⟨chosen, origin, rfl, hchosen, horigin, rfl⟩ := h.exists_reading
  refine ⟨⟨⟨hchosen, horigin, by simpa using he⟩, [], .nil, ?_⟩,
    ⟨by omega, fun _ => rfl, fun _ => rfl, fun _ => rfl⟩⟩
  simp [Statement.reading, tokensWith, opening, conditionClause, listClause, limitClause]

lemma groupBy (h : s.Upto 1 ts) (names : List String) :
    Upto 2 { s with groupBy := names }
      (ts ++ listClause .groupBy (names.map fun name => [.identifier name])) := by
  obtain ⟨⟨hreg, keys, hkeys, rfl⟩, hbare⟩ := h
  obtain ⟨selection, origin, condition, groupBy, orderBy, limit⟩ := s
  obtain rfl : groupBy = [] := hbare.groupBy (by omega)
  obtain rfl : orderBy = [] := hbare.orderBy (by omega)
  obtain rfl : limit = none := hbare.limit (by omega)
  cases hkeys
  refine ⟨⟨⟨hreg.selection, hreg.origin, hreg.condition⟩, [], .nil, ?_⟩,
    ⟨by omega, by omega, fun _ => rfl, fun _ => rfl⟩⟩
  simp [tokensWith, opening, listClause, limitClause]

lemma orderBy (h : s.Upto 2 ts) {orders : List OrderKey} {keys : List (List Token)}
    (hkeys : List.Forall₂ OrderKey.Spelled orders keys) :
    Upto 3 { s with orderBy := orders } (ts ++ listClause .orderBy keys) := by
  obtain ⟨⟨hreg, keys', hkeys', rfl⟩, hbare⟩ := h
  obtain ⟨selection, origin, condition, groupBy, orderBy, limit⟩ := s
  obtain rfl : orderBy = [] := hbare.orderBy (by omega)
  obtain rfl : limit = none := hbare.limit (by omega)
  cases hkeys'
  refine ⟨⟨⟨hreg.selection, hreg.origin, hreg.condition⟩, keys, hkeys, ?_⟩,
    ⟨by omega, by omega, by omega, fun _ => rfl⟩⟩
  simp [tokensWith, opening, listClause, limitClause]

lemma limit (h : s.Upto 3 ts) (n : Nat) :
    Spelled { s with limit := some n } (ts ++ [.keyword .limit, .number n]) := by
  obtain ⟨⟨hreg, keys, hkeys, rfl⟩, hbare⟩ := h
  obtain ⟨selection, origin, condition, groupBy, orderBy, limit⟩ := s
  obtain rfl : limit = none := hbare.limit (by omega)
  refine ⟨⟨hreg.selection, hreg.origin, hreg.condition⟩, keys, hkeys, ?_⟩
  simp [tokensWith, opening, limitClause]

end Upto

end CsvQuery.Statement
