import CsvQuery.Proofs.Statement.Parts
import CsvQuery.Proofs.Statement.Run

/-!
The reader of statements takes every spelled statement. Behind each clause it stands at a stage
where the query may end and every later clause may open.
-/

namespace CsvQuery.Statement

namespace Stage

/-! ### Columns -/

def Listed (st : Stage) (found : List SelectItem) : Prop :=
  st.next? .comma = some (item found) ∧
    st.next? (.keyword .source) = some (table (.items found))

lemma run_item (found : List SelectItem) (i : SelectItem) :
    ∃ st, (item found).run i.tokens = some st ∧ st.Listed (found ++ [i]) := by
  obtain ⟨f, field, newName⟩ := i
  cases f with
  | none =>
    cases newName with
    | none => exact ⟨unnamed found ⟨none, field, none⟩, rfl, rfl, rfl⟩
    | some name => exact ⟨named (found ++ [⟨none, field, some name⟩]), rfl, rfl, rfl⟩
  | some f =>
    cases newName with
    | none => exact ⟨unnamed found ⟨some f, field, none⟩, rfl, rfl, rfl⟩
    | some name => exact ⟨named (found ++ [⟨some f, field, some name⟩]), rfl, rfl, rfl⟩

lemma run_selection_item (i : SelectItem) (more : List Token) :
    selection.run (i.tokens ++ more) = (item []).run (i.tokens ++ more) := by
  obtain ⟨f, field, newName⟩ := i
  cases f <;> rfl

lemma run_items (found list : List SelectItem) (i : SelectItem) :
    ∃ st, (item found).run ([.comma].intercalate ((i :: list).map (·.tokens))) = some st ∧
      st.Listed (found ++ i :: list) := by
  induction list generalizing found i with
  | nil => simpa using run_item found i
  | cons i' list ih =>
    obtain ⟨mid, hmid, hcomma, -⟩ := run_item found i
    obtain ⟨st, hst, hlisted⟩ := ih (found ++ [i]) i'
    refine ⟨st, ?_, by simpa using hlisted⟩
    simp only [List.map_cons, List.intercalate_cons_cons, run_append, hmid, Option.bind_some,
      run_cons, hcomma, run_nil]
    exact hst

lemma run_select {chosen : Selection} (h : chosen.Regular) :
    start.run (.keyword .select :: chosen.tokens ++ [.keyword .source]) = some (table chosen) := by
  cases chosen with
  | all => rfl
  | items list =>
    obtain ⟨i, list, rfl⟩ := List.exists_cons_of_ne_nil h
    obtain ⟨st, hst, -, hsource⟩ := run_items [] list i
    obtain ⟨more, hmore⟩ : ∃ more, (Selection.items (i :: list)).tokens = i.tokens ++ more := by
      cases list with
      | nil => exact ⟨[], by simp [Selection.tokens]⟩
      | cons i' list => exact ⟨_, by simp [Selection.tokens, List.append_assoc]; rfl⟩
    have hselect : start.next? (.keyword .select) = some selection := rfl
    rw [List.cons_append, run_cons, hselect, Option.bind_some, run_append, hmore]
    have hitems := run_selection_item i more
    rw [hitems, ← hmore]
    rw [Selection.tokens, hst]
    simp [hsource]

/-! ### Tables -/

/-- The query may end behind the statement, and every clause of a later rank may follow. -/
structure Settled (st : Stage) (s : Statement) (last : Nat) : Prop where
  finish : st.finish? = some s
  clause : ∀ c : Clause, last < c.rank → st.next? c.token = some (c.opened s)

lemma Settled.mono {st : Stage} {s : Statement} {last last' : Nat} (h : st.Settled s last)
    (hle : last ≤ last') : st.Settled s last' :=
  ⟨h.finish, fun c hc => h.clause c (by omega)⟩

lemma next?_joinCondition_whole {s : Statement} {kind : JoinKind} {right : String} {e : Expr}
    {t : Token} (h : Grammar.join.operator? t = none) :
    (joinCondition s kind right (.whole e)).next? t =
      joinOrClause? (withJoin s kind right e) t := by
  simp [next?, Expr.Stage.next?, h]

lemma run_origin (chosen : Selection) {origin : Origin} (h : origin.Regular) :
    ∃ st, (table chosen).run origin.tokens = some st ∧ st.Settled (.reading chosen origin) 0 ∧
      ∀ kind, st.next? (.keyword (.join kind)) = some (joined (.reading chosen origin) kind) := by
  induction origin with
  | table name =>
    refine ⟨joins (.reading chosen (.table name)), rfl, ⟨rfl, ?_⟩, fun kind => rfl⟩
    exact fun c _ => joinOrClause?_token c
  | join kind left right condition ih =>
    obtain ⟨hleft, hcondition⟩ := h
    obtain ⟨mid, hmid, -, hjoin⟩ := ih hleft
    let s := Statement.reading chosen left
    have hexpr := Expr.Stage.run_tokens hcondition (Nat.le_refl 0) none (by simp)
    refine ⟨joinCondition s kind right (.whole condition), ?_, ⟨rfl, fun c _ => ?_⟩,
      fun kind' => rfl⟩
    · rw [Origin.tokens, run_append, run_append, hmid]
      simp only [Option.bind_some, run_cons, run_nil, hjoin]
      exact run_joinCondition hexpr
    · rw [next?_joinCondition_whole (by cases c <;> rfl)]
      exact joinOrClause?_token c

/-! ### Clauses -/

lemma run_conditionClause {st : Stage} {s : Statement} {condition : Option Expr}
    (h : st.Settled s 0) (hs : s.condition = none)
    (hc : ∀ e ∈ condition, Expr.Canonical .value 0 e) :
    ∃ st', st.run (conditionClause condition) = some st' ∧
      st'.Settled { s with condition := condition } 1 := by
  cases condition with
  | none =>
    have heq : { s with condition := none } = s := by rw [← hs]
    exact ⟨st, rfl, heq ▸ h.mono (by omega)⟩
  | some e =>
    have hopen : st.next? (.keyword .condition) = some (condition s (.operand none)) :=
      h.clause .condition (by decide)
    have hexpr := Expr.Stage.run_tokens (hc e rfl) (Nat.le_refl 0) none (by simp)
    refine ⟨Stage.condition s (.whole e), ?_, rfl, fun c hlt => ?_⟩
    · rw [conditionClause, run_cons, hopen]
      exact run_condition hexpr
    · have hnone : Grammar.value.operator? c.token = none := by cases c <;> rfl
      simp only [next?, Expr.Stage.next?, hnone]
      exact clause?_token hlt

lemma run_names (s : Statement) (name : String) (names : List String) :
    (groupField s).run ([.comma].intercalate ((name :: names).map fun n => [.identifier n])) =
      some (grouped { s with groupBy := s.groupBy ++ name :: names }) := by
  induction names generalizing s name with
  | nil => rfl
  | cons name' names ih =>
    have hrest := ih { s with groupBy := s.groupBy ++ [name] } name'
    simpa [next?] using hrest

lemma run_groupBy {st : Stage} {s : Statement} (h : st.Settled s 1) (hs : s.groupBy = [])
    (names : List String) :
    ∃ st', st.run (listClause .groupBy (names.map fun name => [.identifier name])) = some st' ∧
      st'.Settled { s with groupBy := names } 2 := by
  cases names with
  | nil =>
    have heq : { s with groupBy := [] } = s := by rw [← hs]
    exact ⟨st, rfl, heq ▸ h.mono (by omega)⟩
  | cons name names =>
    have hopen : st.next? (.keyword .groupBy) = some (groupField s) :=
      h.clause .groupBy (by decide)
    have hnames := run_names s name names
    rw [hs, List.nil_append] at hnames
    refine ⟨grouped { s with groupBy := name :: names }, ?_, rfl, fun c hlt => ?_⟩
    · rw [List.map_cons, listClause, run_cons, hopen]
      exact hnames
    · rw [← clause?_token hlt]
      cases c <;> rfl

lemma run_key (s : Statement) {key : OrderKey} {ts : List Token} (h : key.Spelled ts) :
    ∃ st, (orderField s).run ts = some st ∧
      st.Settled { s with orderBy := s.orderBy ++ [key] } 3 ∧
      st.next? .comma = some (orderField { s with orderBy := s.orderBy ++ [key] }) := by
  cases h with
  | directed =>
    refine ⟨ordered { s with orderBy := s.orderBy ++ [key] }, rfl, ⟨rfl, fun c hlt => ?_⟩, rfl⟩
    rw [← clause?_token hlt]
    cases c <;> rfl
  | ascending field =>
    refine ⟨ordering s field, rfl, ⟨rfl, fun c hlt => ?_⟩, rfl⟩
    rw [← clause?_token hlt]
    cases c <;> rfl

lemma run_keys (s : Statement) {key : OrderKey} {ts : List Token} {orders : List OrderKey}
    {keys : List (List Token)} (h : key.Spelled ts)
    (hkeys : List.Forall₂ OrderKey.Spelled orders keys) :
    ∃ st, (orderField s).run ([.comma].intercalate (ts :: keys)) = some st ∧
      st.Settled { s with orderBy := s.orderBy ++ key :: orders } 3 := by
  induction hkeys generalizing s key ts with
  | nil =>
    obtain ⟨st, hst, hsettled, -⟩ := run_key s h
    exact ⟨st, by simpa using hst, hsettled⟩
  | @cons key' ts' orders keys h' _ ih =>
    obtain ⟨mid, hmid, -, hcomma⟩ := run_key s h
    obtain ⟨st, hst, hsettled⟩ := ih { s with orderBy := s.orderBy ++ [key] } h'
    refine ⟨st, ?_, by simpa using hsettled⟩
    simp only [List.intercalate_cons_cons, run_append, hmid, Option.bind_some, run_cons, hcomma,
      run_nil]
    exact hst

lemma run_orderBy {st : Stage} {s : Statement} (h : st.Settled s 2) (hs : s.orderBy = [])
    {orders : List OrderKey} {keys : List (List Token)}
    (hkeys : List.Forall₂ OrderKey.Spelled orders keys) :
    ∃ st', st.run (listClause .orderBy keys) = some st' ∧
      st'.Settled { s with orderBy := orders } 3 := by
  cases hkeys with
  | nil =>
    have heq : { s with orderBy := [] } = s := by rw [← hs]
    exact ⟨st, rfl, heq ▸ h.mono (by omega)⟩
  | cons hkey hrest =>
    have hopen : st.next? (.keyword .orderBy) = some (orderField s) :=
      h.clause .orderBy (by decide)
    obtain ⟨st', hst', hsettled⟩ := run_keys s hkey hrest
    rw [hs, List.nil_append] at hsettled
    refine ⟨st', ?_, hsettled⟩
    rw [listClause, run_cons, hopen]
    exact hst'

lemma run_limit {st : Stage} {s : Statement} (h : st.Settled s 3) (hs : s.limit = none)
    (n : Option Nat) :
    ∃ st', st.run (limitClause n) = some st' ∧ st'.finish? = some { s with limit := n } := by
  cases n with
  | none =>
    have heq : { s with limit := none } = s := by rw [← hs]
    exact ⟨st, rfl, heq ▸ h.finish⟩
  | some n =>
    have hopen : st.next? (.keyword .limit) = some (limit s) := h.clause .limit (by decide)
    refine ⟨limited { s with limit := some n }, ?_, rfl⟩
    rw [limitClause, run_cons, hopen]
    rfl

/-! ### Statements -/

/-- **Completeness.** The reader takes every statement from the tokens that spell it. -/
lemma run_of_spelled {s : Statement} {ts : List Token} (h : s.Spelled ts) :
    ∃ st, start.run ts = some st ∧ st.finish? = some s := by
  obtain ⟨hreg, keys, hkeys, rfl⟩ := h
  obtain ⟨st₁, h₁, hsettled₁, -⟩ := run_origin s.selection hreg.origin
  obtain ⟨st₂, h₂, hsettled₂⟩ := run_conditionClause hsettled₁ rfl hreg.condition
  obtain ⟨st₃, h₃, hsettled₃⟩ := run_groupBy hsettled₂ rfl s.groupBy
  obtain ⟨st₄, h₄, hsettled₄⟩ := run_orderBy hsettled₃ rfl hkeys
  obtain ⟨st₅, h₅, hfinish⟩ := run_limit hsettled₄ rfl s.limit
  refine ⟨st₅, ?_, hfinish⟩
  have hselect := run_select hreg.selection
  have hopening : s.opening =
      (.keyword .select :: s.selection.tokens ++ [.keyword .source]) ++ s.origin.tokens := by
    simp [Statement.opening]
  rw [tokensWith, hopening]
  simp only [run_append, hselect, Option.bind_some, h₁, h₂, h₃, h₄, h₅]

end Stage

end CsvQuery.Statement
