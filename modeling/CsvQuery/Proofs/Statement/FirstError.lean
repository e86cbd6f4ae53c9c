import CsvQuery.Proofs.Statement.Run
import CsvQuery.Proofs.Token.Lexing

/-!
Where a syntax error is. Every stage of the reader can be completed to a statement, so what has been
read is always the beginning of a list of tokens that is accepted; an error stands at the first
token that makes this impossible.
-/

namespace CsvQuery.Expr.Stage

lemma exists_run_whole (g : Grammar) (floor : Nat) (st : Stage) :
    ∃ ts e, st.run g floor ts = some (.whole e) := by
  cases st with
  | operand before =>
    exact ⟨[.number 0], placed before (literal (.number 0)), by simp [next?, withOperand_eq]⟩
  | dot before table =>
    exact ⟨[.dot, .identifier "a"], placed before (qualified table "a"),
      by simp [next?, withOperand_eq]⟩
  | field before table =>
    exact ⟨[.identifier "a"], placed before (qualified table "a"),
      by simp [next?, withOperand_eq]⟩
  | whole e => exact ⟨[], e, rfl⟩
  | lower e => exact ⟨[.number 0, .keyword .and, .number 0], _, rfl⟩
  | separator e b => exact ⟨[.keyword .and, .number 0], _, rfl⟩
  | upper e b => exact ⟨[.number 0], _, rfl⟩
  | opening e => exact ⟨[.openParen, .number 0, .closeParen], _, rfl⟩
  | item e found => exact ⟨[.number 0, .closeParen], _, rfl⟩
  | afterItem e found => exact ⟨[.closeParen], _, rfl⟩

end CsvQuery.Expr.Stage

namespace CsvQuery.Statement

namespace Stage

/-- Some tokens lead from the stage to a statement. -/
def Completable (st : Stage) : Prop :=
  ∃ ts st' s, st.run ts = some st' ∧ st'.finish? = some s

lemma Completable.of_run {st st' : Stage} (ts : List Token) (h : st.run ts = some st')
    (h' : st'.Completable) : st.Completable := by
  obtain ⟨ts', last, s, hrun, hfinish⟩ := h'
  exact ⟨ts ++ ts', last, s, by simp [run_append, h, hrun], hfinish⟩

lemma Completable.of_next {st st' : Stage} (t : Token) (h : st.next? t = some st')
    (h' : st'.Completable) : st.Completable :=
  .of_run [t] (by simp [h]) h'

lemma completable_table (chosen : Selection) : (table chosen).Completable :=
  ⟨[.identifier "a"], _, _, rfl, rfl⟩

lemma completable_named (found : List SelectItem) : (named found).Completable :=
  .of_next (.keyword .source) rfl (completable_table _)

lemma completable_unnamed (found : List SelectItem) (i : SelectItem) :
    (unnamed found i).Completable :=
  .of_next (.keyword .source) rfl (completable_table _)

lemma completable_closing (found : List SelectItem) (f : Aggregate) (field : String) :
    (closing found f field).Completable :=
  .of_next .closeParen rfl (completable_unnamed _ _)

lemma completable_argument (found : List SelectItem) (f : Aggregate) :
    (argument found f).Completable :=
  .of_next (.identifier "a") rfl (completable_closing _ _ _)

lemma completable_joinCondition (s : Statement) (kind : JoinKind) (right : String)
    (e : Expr.Stage) : (joinCondition s kind right e).Completable := by
  obtain ⟨ts, e', h⟩ := e.exists_run_whole .join 0
  exact ⟨ts, _, _, run_joinCondition h, rfl⟩

lemma completable_condition (s : Statement) (e : Expr.Stage) : (condition s e).Completable := by
  obtain ⟨ts, e', h⟩ := e.exists_run_whole .value 0
  exact ⟨ts, _, _, run_condition h, rfl⟩

lemma completable_matching (s : Statement) (kind : JoinKind) (right : String) :
    (matching s kind right).Completable :=
  .of_next (.keyword .matching) rfl (completable_joinCondition _ _ _ _)

/-- **Every stage can be completed.** -/
lemma completable (st : Stage) : st.Completable := by
  cases st with
  | start =>
    exact .of_run [.keyword .select, .star, .keyword .source] rfl (completable_table _)
  | selection => exact .of_run [.star, .keyword .source] rfl (completable_table _)
  | item found => exact .of_next (.identifier "a") rfl (completable_unnamed _ _)
  | opening found f => exact .of_next .openParen rfl (completable_argument _ _)
  | argument found f => exact completable_argument found f
  | closing found f field => exact completable_closing found f field
  | unnamed found i => exact completable_unnamed found i
  | newName found i => exact .of_next (.identifier "a") rfl (completable_named _)
  | named found => exact completable_named found
  | star => exact .of_next (.keyword .source) rfl (completable_table _)
  | table chosen => exact completable_table chosen
  | joins s => exact ⟨[], _, s, rfl, rfl⟩
  | joined s kind => exact .of_next (.identifier "a") rfl (completable_matching _ _ _)
  | matching s kind right => exact completable_matching s kind right
  | joinCondition s kind right e => exact completable_joinCondition s kind right e
  | condition s e => exact completable_condition s e
  | groupField s => exact ⟨[.identifier "a"], _, _, rfl, rfl⟩
  | grouped s => exact ⟨[], _, s, rfl, rfl⟩
  | orderField s => exact ⟨[.identifier "a"], _, _, rfl, rfl⟩
  | ordering s field => exact ⟨[], _, _, rfl, rfl⟩
  | ordered s => exact ⟨[], _, s, rfl, rfl⟩
  | limit s => exact ⟨[.number 1], _, _, rfl, rfl⟩
  | limited s => exact ⟨[], _, s, rfl, rfl⟩

end Stage

lemma exists_run_of_readFrom_error {st : Stage} {ts : List Located} {e : Error}
    (hc : Token.Closed ts) (h : readFrom st ts = .error e) :
    ∃ seen t rest st', ts = seen ++ t :: rest ∧ st.run (seen.map (·.token)) = some st' ∧
      st'.next? t.token = none ∧ (t.token = .eof → st'.finish? = none) ∧
      e = .unexpected t.start (st'.wanted t.token) t.token := by
  fun_induction readFrom st ts with
  | case1 st s hs => cases h
  | case2 st hs =>
    obtain ⟨before, last, hsplit, -⟩ := hc
    simp at hsplit
  | case3 st t rest next hnext ih =>
    have hne : t.token ≠ .eof := by
      intro ht
      rw [ht, Stage.next?_eof] at hnext
      cases hnext
    obtain ⟨seen, t', rest', st', rfl, hrun, hstuck⟩ := ih (hc.tail hne) h
    exact ⟨t :: seen, t', rest', st', rfl, by simp [hnext, hrun], hstuck⟩
  | case4 st t rest hnext s ht hs => cases h
  | case5 st t rest hnext hend =>
    cases h
    refine ⟨[], t, rest, st, rfl, rfl, hnext, ?_, rfl⟩
    intro ht
    cases hs : st.finish? with
    | none => rfl
    | some s => exact absurd hs (hend s ht)

/-- **A syntax error is at the first wrong token.** What stands in front of the token can be
continued to tokens that are accepted, and nothing that goes on behind the token is accepted. -/
theorem ofQuery_error_first {query : String} {tokens : List Located} {e : Error}
    (hlex : Token.lex query = .ok tokens) (h : ofQuery query = .error e) :
    ∃ k t wanted, tokens[k]? = some t ∧ e = .unexpected t.start wanted t.token ∧
      (∃ more s, Token.Closed more ∧ read (tokens.take k ++ more) = .ok s) ∧
      ∀ more s, read (tokens.take (k + 1) ++ more) ≠ .ok s := by
  rw [ofQuery, hlex] at h
  obtain ⟨seen, t, rest, st, rfl, hrun, hnext, hend, rfl⟩ :=
    exists_run_of_readFrom_error (Token.closed_of_lex hlex) h
  refine ⟨seen.length, t, _, by simp, rfl, ?_, ?_⟩
  -- The stage in front of the token can be completed; behind it there is no stage to go on from.
  · obtain ⟨ts, st', s, hrun', hfinish⟩ := st.completable
    let last : Located := ⟨.eof, 0, 0⟩
    let more := ts.map (fun token => (⟨token, 0, 0⟩ : Located))
    refine ⟨more ++ [last], s, ⟨more, last, rfl, rfl⟩, ?_⟩
    have hmore : st.run (more.map (·.token)) = some st' := by
      simpa [more, Function.comp_def] using hrun'
    rw [List.take_left, read, readFrom_run _ hrun, readFrom_run _ hmore,
      readFrom_eof [] rfl, hfinish]
  · intro more s hs
    have htake : (seen ++ t :: rest).take (seen.length + 1) = seen ++ [t] := by
      rw [List.take_length_add_append]
      rfl
    rw [htake, List.append_assoc, List.singleton_append, read, readFrom_run _ hrun,
      readFrom_error more hnext hend] at hs
    cases hs

def unfinished : String := "SELECT a FROM t WHERE a = LIMIT 2"

def unfinishedTokens : List Located :=
  [⟨.keyword .select, 0, 6⟩, ⟨.identifier "a", 7, 8⟩, ⟨.keyword .source, 9, 13⟩,
    ⟨.identifier "t", 14, 15⟩, ⟨.keyword .condition, 16, 21⟩, ⟨.identifier "a", 22, 23⟩,
    ⟨.comparison .equal, 24, 25⟩, ⟨.keyword .limit, 26, 31⟩, ⟨.number 2, 32, 33⟩, ⟨.eof, 33, 33⟩]

theorem ofQuery_error_first_unfinished :
    Token.lex unfinished = .ok unfinishedTokens ∧
    ofQuery unfinished = .error (.unexpected 26 .operand (.keyword .limit)) ∧
    ∃ k t wanted, unfinishedTokens[k]? = some t ∧
      Error.unexpected 26 .operand (.keyword .limit) = .unexpected t.start wanted t.token ∧
      (∃ more s, Token.Closed more ∧ read (unfinishedTokens.take k ++ more) = .ok s) ∧
      ∀ more s, read (unfinishedTokens.take (k + 1) ++ more) ≠ .ok s := by
  have hlex : Token.lex unfinished = .ok unfinishedTokens := by decide +kernel
  have h : ofQuery unfinished = .error (.unexpected 26 .operand (.keyword .limit)) := by
    rw [ofQuery, hlex]
    rfl
  exact ⟨hlex, h, ofQuery_error_first hlex h⟩

end CsvQuery.Statement
