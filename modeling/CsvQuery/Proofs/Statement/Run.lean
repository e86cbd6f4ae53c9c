import CsvQuery.Proofs.Expr.Canonical
import CsvQuery.Statement.Reader

/-!
Runs of the statement reader: the stage after several tokens, and how a whole reading goes through
it. An expression inside a statement is read by a run of the reader of expressions.
-/

namespace CsvQuery.Statement

namespace Stage

/-- The stage after several tokens, if each of them may come next. -/
def run (st : Stage) (ts : List Token) : Option Stage :=
  ts.foldlM next? st

@[simp] lemma run_nil (st : Stage) : st.run [] = some st := rfl

@[simp] lemma run_cons (st : Stage) (t : Token) (ts : List Token) :
    st.run (t :: ts) = (st.next? t).bind fun st' => st'.run ts := rfl

lemma run_append (st : Stage) (ts ts' : List Token) :
    st.run (ts ++ ts') = (st.run ts).bind fun st' => st'.run ts' := by
  simp only [run, List.foldlM_append]
  rfl

lemma next?_eof (st : Stage) : st.next? .eof = none := by
  cases st with
  | joinCondition s kind right e => cases e <;> rfl
  | condition s e => cases e <;> rfl
  | _ => rfl

lemma run_held {g : Grammar} {floor : Nat} {hold : Expr.Stage → Stage}
    (hnext : ∀ {e e' t}, e.next? g floor t = some e' → (hold e).next? t = some (hold e'))
    {e e' : Expr.Stage} {ts : List Token} (h : e.run g floor ts = some e') :
    (hold e).run ts = some (hold e') := by
  induction ts generalizing e with
  | nil =>
    cases h
    rfl
  | cons t ts ih =>
    obtain ⟨mid, hmid, hrest⟩ := Option.bind_eq_some_iff.mp h
    simp [hnext hmid, ih hrest]

lemma run_joinCondition {s : Statement} {kind : JoinKind} {right : String} {e e' : Expr.Stage}
    {ts : List Token} (h : e.run .join 0 ts = some e') :
    (joinCondition s kind right e).run ts = some (joinCondition s kind right e') :=
  run_held (fun hnext => by simp [next?, hnext]) h

lemma run_condition {s : Statement} {e e' : Expr.Stage} {ts : List Token}
    (h : e.run .value 0 ts = some e') : (condition s e).run ts = some (condition s e') :=
  run_held (fun hnext => by simp [next?, hnext]) h

end Stage

lemma readFrom_run {st st' : Stage} {seen : List Located} (rest : List Located)
    (h : st.run (seen.map (·.token)) = some st') :
    readFrom st (seen ++ rest) = readFrom st' rest := by
  induction seen generalizing st with
  | nil =>
    cases h
    rfl
  | cons t seen ih =>
    obtain ⟨mid, hmid, hrest⟩ := Option.bind_eq_some_iff.mp h
    simp [readFrom, hmid, ih hrest]

lemma readFrom_eof {st : Stage} {t : Located} (rest : List Located) (ht : t.token = .eof) :
    readFrom st (t :: rest) =
      match st.finish? with
      | some s => .ok s
      | none => .error (.unexpected t.start (st.wanted .eof) .eof) := by
  cases h : st.finish? <;> simp [readFrom, ht, Stage.next?_eof, h]

lemma readFrom_error {st : Stage} {t : Located} (rest : List Located)
    (hnext : st.next? t.token = none) (hend : t.token = .eof → st.finish? = none) :
    readFrom st (t :: rest) = .error (.unexpected t.start (st.wanted t.token) t.token) := by
  by_cases ht : t.token = .eof
  · simp [readFrom_eof rest ht, hend ht, ht]
  · simp only [readFrom, hnext]
    split
    · contradiction
    · rfl

end CsvQuery.Statement
