import CsvQuery.Proofs.Expr.Canonical

/-!
The language of expressions: which sequences of tokens are one, without the trees. Operands stand
between operators of any power; precedence gives every such sequence a tree and refuses none.
-/

namespace CsvQuery

lemma BinaryOp.power_pos (op : BinaryOp) : 0 < op.power := by
  cases op <;> simp [power]

namespace Expr

inductive Operand : Grammar → List Token → Prop
  | literal (g : Grammar) (l : Literal) : Operand g [l.token]
  | column (name : String) : Operand .value [.identifier name]
  | qualified (table name : String) :
    Operand .join [.identifier table, .dot, .identifier name]

/-- Operands with operators between them. BETWEEN and IN with what belongs to them stand behind an
expression, and only in conditions on values. -/
inductive Phrase (g : Grammar) : List Token → Prop
  | operand {ts : List Token} (h : Operand g ts) : Phrase g ts
  | binary {ts operand : List Token} (h : Phrase g ts) (op : BinaryOp) (ho : Operand g operand) :
    Phrase g (ts ++ op.token :: operand)
  | between {ts : List Token} (h : Phrase g ts) (hg : g = .value) (lower upper : Bound) :
    Phrase g (ts ++ [.keyword .between, lower.token, .keyword .and, upper.token])
  | among {ts : List Token} (h : Phrase g ts) (hg : g = .value) (candidates : List Literal)
    (hne : candidates ≠ []) :
    Phrase g (ts ++ [.keyword .among, .openParen] ++
      (candidates.map (·.token)).intersperse .comma ++ [.closeParen])

variable {g : Grammar}

/-! ### Every tree spells a phrase -/

lemma Phrase.append {ts ts' : List Token} (h : Phrase g ts) (op : BinaryOp) (h' : Phrase g ts') :
    Phrase g (ts ++ op.token :: ts') := by
  induction h' with
  | operand ho => exact h.binary op ho
  | binary _ op' ho ih => simpa using ih.binary op' ho
  | between _ hg lower upper ih => simpa using ih.between hg lower upper
  | among _ hg candidates hne ih => simpa using ih.among hg candidates hne

lemma phrase_tokens {floor : Nat} {e : Expr} (h : Canonical g floor e) : Phrase g e.tokens := by
  induction h with
  | literal _ l => exact .operand (.literal g l)
  | column _ name hg =>
    subst hg
    exact .operand (.column name)
  | qualified _ table name hg =>
    subst hg
    exact .operand (.qualified table name)
  | @binary _ op _ _ _ _ _ _ ihl ihr => exact ihl.append op ihr
  | between lower upper hg _ _ _ ih => exact ih.between hg lower upper
  | among candidates hg _ _ _ hne ih => exact ih.among hg candidates hne

/-! ### Every phrase has a tree -/

lemma run_operand {ts : List Token} (h : Operand g ts) (before : Option (Expr × BinaryOp)) :
    ∃ e, (Stage.operand before).run g 0 ts = some (.whole e) := by
  cases h with
  | literal _ l =>
    refine ⟨Stage.placed before (literal l), ?_⟩
    cases l <;> simp [Literal.token, Stage.next?, Stage.withOperand_eq]
  | column name =>
    exact ⟨Stage.placed before (column name), by simp [Stage.next?, Stage.withOperand_eq]⟩
  | qualified table name =>
    exact ⟨Stage.placed before (qualified table name), by simp [Stage.next?, Stage.withOperand_eq]⟩

lemma run_phrase {ts : List Token} (h : Phrase g ts) :
    ∃ e, (Stage.operand none).run g 0 ts = some (.whole e) := by
  induction h with
  | operand ho => exact run_operand ho none
  | binary _ op ho ih =>
    obtain ⟨e, he⟩ := ih
    obtain ⟨e', he'⟩ := run_operand ho (some (e, op))
    have hnext : (Stage.whole e).next? g 0 op.token = some (.operand (some (e, op))) :=
      Stage.next?_operator (i := .binary op) trivial op.power_pos
    refine ⟨e', ?_⟩
    rw [Stage.run_append, he, Option.bind_some, Stage.run_cons, hnext, Option.bind_some, he']
  | between _ hg lower upper ih =>
    obtain ⟨e, he⟩ := ih
    have hnext : (Stage.whole e).next? g 0 (.keyword .between) = some (.lower e) :=
      Stage.next?_operator (i := .between) hg (by decide)
    have hand : (Stage.separator e lower).next? g 0 (.keyword .and) = some (.upper e lower) := rfl
    refine ⟨e.extend predicatePower fun x => between x lower upper, ?_⟩
    rw [Stage.run_append, he]
    simp [hnext, Stage.next?_lower, hand, Stage.next?_upper]
  | among _ hg candidates hne ih =>
    obtain ⟨e, he⟩ := ih
    obtain ⟨l, ls, rfl⟩ := List.exists_cons_of_ne_nil hne
    have hnext : (Stage.whole e).next? g 0 (.keyword .among) = some (.opening e) :=
      Stage.next?_operator (i := .among) hg (by decide)
    have hopen : (Stage.opening e).next? g 0 .openParen = some (.item e []) := rfl
    have hitems : (Stage.item e []).run g 0 (((l :: ls).map (·.token)).intersperse .comma) =
        some (.afterItem e (l :: ls)) := Stage.run_items e [] l ls
    have hclose : (Stage.afterItem e (l :: ls)).next? g 0 .closeParen =
        some (.whole (e.extend predicatePower fun x => among x (l :: ls))) := rfl
    refine ⟨e.extend predicatePower fun x => among x (l :: ls), ?_⟩
    rw [Stage.run_append, Stage.run_append, Stage.run_append, he]
    simp only [Option.bind_some, Stage.run_cons, Stage.run_nil, hnext, hopen, hitems, hclose]

/-- **Precedence refuses nothing.** The sequences that some canonical tree spells are the operands
with operators between them. -/
theorem exists_canonical_iff_phrase {ts : List Token} :
    (∃ e, Canonical g 0 e ∧ e.tokens = ts) ↔ Phrase g ts := by
  constructor
  · rintro ⟨e, he, rfl⟩
    exact phrase_tokens he
  · intro h
    obtain ⟨e, hrun⟩ := run_phrase h
    obtain ⟨hsound, hspell⟩ := Stage.sound_run Stage.sound_start hrun
    exact ⟨e, hsound, by simpa [Stage.spelled, Stage.spelledBefore] using hspell⟩

end Expr

end CsvQuery
