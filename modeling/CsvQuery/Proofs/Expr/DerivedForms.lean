import CsvQuery.Proofs.Expr.Equality

/-!
IN and BETWEEN as derived forms. Both only test the value of one expression, so they can be written
out with comparisons of this expression, joined by OR and AND, anywhere in a condition: its value
stays the same on every row, and so does its error.
-/

namespace CsvQuery

/-- The bound is a number, or a text that denotes one. -/
def Bound.IsInteger : Bound → Prop
  | literal (.number _) => True
  | literal (.text t) => ∃ n, Integer.ofText? t = some n
  | column _ => False

namespace Expr

def comparedTo (e : Expr) (c : Comparison) (l : Literal) : Expr :=
  .binary (.compare c) e (.literal l)

/-- The expression equals the first literal or one of the others. The chain of comparisons leans to
the left, as it is read from its tokens. -/
def equalsAny (e : Expr) (first : Literal) (rest : List Literal) : Expr :=
  rest.foldl (fun chain l => .binary .or chain (e.comparedTo .equal l)) (e.comparedTo .equal first)

def within (e : Expr) (lower upper : Int) : Expr :=
  .binary .and (e.comparedTo .greaterEqual (.number lower))
    (e.comparedTo .lessEqual (.number upper))

/-- An expression becomes another one where derived forms in it are written out, and texts that
denote integers are replaced by these in the bounds of BETWEEN. -/
inductive Rewrites : Expr → Expr → Prop
  | refl (e : Expr) : Rewrites e e
  | trans {e e' e'' : Expr} (h : Rewrites e e') (h' : Rewrites e' e'') : Rewrites e e''
  | binary {left left' right right' : Expr} (op : BinaryOp) (hl : Rewrites left left')
    (hr : Rewrites right right') : Rewrites (.binary op left right) (.binary op left' right')
  | between {e e' : Expr} (lower upper : Bound) (h : Rewrites e e') :
    Rewrites (.between e lower upper) (.between e' lower upper)
  | among {e e' : Expr} (candidates : List Literal) (h : Rewrites e e') :
    Rewrites (.among e candidates) (.among e' candidates)
  | equalsAny (e : Expr) (first : Literal) (rest : List Literal) :
    Rewrites (.among e (first :: rest)) (e.equalsAny first rest)
  | within (e : Expr) (lower upper : Int) :
    Rewrites (.between e (.literal (.number lower)) (.literal (.number upper)))
      (e.within lower upper)
  | lower {text : String} {n : Int} (h : Integer.ofText? text = some n) (e : Expr)
    (upper : Bound) :
    Rewrites (.between e (.literal (.text text)) upper)
      (.between e (.literal (.number n)) upper)
  | upper {text : String} {n : Int} (h : Integer.ofText? text = some n) (e : Expr)
    (lower : Bound) :
    Rewrites (.between e lower (.literal (.text text)))
      (.between e lower (.literal (.number n)))

/-- The expression with every IN with candidates and every BETWEEN of two numbers written out. -/
def writtenOut : Expr → Expr
  | literal l => .literal l
  | column name => .column name
  | qualified table name => .qualified table name
  | binary op left right => .binary op left.writtenOut right.writtenOut
  | between e (.literal (.number lower)) (.literal (.number upper)) =>
    e.writtenOut.within lower upper
  | between e lower upper => .between e.writtenOut lower upper
  | among e [] => .among e.writtenOut []
  | among e (first :: rest) => e.writtenOut.equalsAny first rest

lemma rewrites_writtenOut (e : Expr) : Rewrites e e.writtenOut := by
  fun_induction writtenOut e with
  | case1 l => exact .refl _
  | case2 name => exact .refl _
  | case3 table name => exact .refl _
  | case4 op left right ihl ihr => exact .binary op ihl ihr
  | case5 e lower upper ih => exact .trans (.between _ _ ih) (.within _ lower upper)
  | case6 e lower upper _ ih => exact .between lower upper ih
  | case7 e ih => exact .among [] ih
  | case8 e first rest ih => exact .trans (.among _ ih) (.equalsAny _ first rest)

/-! ### Tests of a value -/

variable {s : Schema} {r : Row} {e test test' : Expr} {p q : Value → Bool}

/-- The first expression is a test of the value of the second. It fails where that has no value. -/
def Tests (s : Schema) (r : Row) (test e : Expr) (p : Value → Bool) : Prop :=
  test.eval s r = (e.eval s r).map fun v => Value.ofBool (p v)

lemma Tests.congr (h : Tests s r test e p) (h' : Tests s r test' e q) (hpq : ∀ v, p v = q v) :
    test.eval s r = test'.eval s r := by
  obtain rfl : p = q := funext hpq
  exact h.trans h'.symm

lemma tests_between (s : Schema) (r : Row) (e : Expr) (lower upper : Bound) :
    Tests s r (.between e lower upper) e (isBetween · lower upper) := by
  rw [Tests, eval]
  cases e.eval s r <;> rfl

lemma tests_among (s : Schema) (r : Row) (e : Expr) (candidates : List Literal) :
    Tests s r (.among e candidates) e (isAmong · candidates) := by
  rw [Tests, eval]
  cases e.eval s r <;> rfl

lemma tests_comparedTo (s : Schema) (r : Row) (e : Expr) (c : Comparison) (l : Literal) :
    Tests s r (e.comparedTo c l) e fun v => (BinaryOp.compare c).holds v l.value := by
  rw [Tests, comparedTo, eval]
  cases e.eval s r <;> rfl

lemma Tests.binary (h : Tests s r test e p) (h' : Tests s r test' e q) {op : BinaryOp}
    {both : Bool → Bool → Bool}
    (hop : ∀ a b, op.holds (Value.ofBool a) (Value.ofBool b) = both a b) :
    Tests s r (.binary op test test') e fun v => both (p v) (q v) := by
  rw [Tests] at h h' ⊢
  rw [eval, h, h']
  cases e.eval s r with
  | error cause => rfl
  | ok v => exact congrArg (fun b => Except.ok (Value.ofBool b)) (hop (p v) (q v))

lemma holds_or (a b : Bool) :
    BinaryOp.or.holds (Value.ofBool a) (Value.ofBool b) = (a || b) := by
  cases a <;> cases b <;> rfl

lemma holds_and (a b : Bool) :
    BinaryOp.and.holds (Value.ofBool a) (Value.ofBool b) = (a && b) := by
  cases a <;> cases b <;> rfl

/-- **IN is a chain of equalities.** -/
lemma tests_equalsAny (s : Schema) (r : Row) (e : Expr) (first : Literal) (rest : List Literal) :
    Tests s r (e.equalsAny first rest) e (isAmong · (first :: rest)) := by
  have hequal : ∀ l, Tests s r (e.comparedTo .equal l) e (isAmong · [l]) := by
    intro l
    have htests := tests_comparedTo s r e .equal l
    simp only [BinaryOp.holds_equal] at htests
    simpa only [isAmong, List.any_cons, List.any_nil, Bool.or_false, BEq.comm] using htests
  -- The chain so far tests for the candidates so far, whatever these are.
  have hchain : ∀ (tried rest : List Literal) (chain : Expr),
      Tests s r chain e (isAmong · tried) →
      Tests s r (rest.foldl (fun chain l => .binary .or chain (e.comparedTo .equal l)) chain) e
        (isAmong · (tried ++ rest)) := by
    intro tried rest
    induction rest generalizing tried with
    | nil =>
      intro chain h
      rwa [List.append_nil]
    | cons l rest ih =>
      intro chain h
      have hnext : Tests s r (.binary .or chain (e.comparedTo .equal l)) e
          (isAmong · (tried ++ [l])) := by
        have hor := h.binary (hequal l) holds_or
        simpa only [isAmong, List.any_append] using hor
      have hrest := ih _ _ hnext
      rwa [List.append_assoc] at hrest
  exact hchain [first] rest _ (hequal first)

/-- **BETWEEN with two numbers is two comparisons.** -/
lemma tests_within (s : Schema) (r : Row) (e : Expr) (lower upper : Int) :
    Tests s r (e.within lower upper) e
      (isBetween · (.literal (.number lower)) (.literal (.number upper))) := by
  have hand := (tests_comparedTo s r e .greaterEqual (.number lower)).binary
    (tests_comparedTo s r e .lessEqual (.number upper)) holds_and
  have hvalue : ∀ v : Value, isBetween v (.literal (.number lower)) (.literal (.number upper)) =
      ((BinaryOp.compare .greaterEqual).holds v (.integer lower) &&
        (BinaryOp.compare .lessEqual).holds v (.integer upper)) := by
    intro v
    cases v <;> rfl
  rw [within, funext hvalue]
  exact hand

lemma isBetween_of_toInteger?_eq {lower lower' upper upper' : Bound}
    (hl : lower.toInteger? = lower'.toInteger?) (hu : upper.toInteger? = upper'.toInteger?)
    (v : Value) : isBetween v lower upper = isBetween v lower' upper' := by
  unfold isBetween
  rw [hl, hu]

lemma toInteger?_of_ofText? {text : String} {n : Int} (h : Integer.ofText? text = some n) :
    (Bound.literal (.number n)).toInteger? = (Bound.literal (.text text)).toInteger? :=
  h.symm

/-- **Rewriting keeps the value.** -/
lemma Rewrites.eval_eq {e e' : Expr} (h : Rewrites e e') (s : Schema) (r : Row) :
    e'.eval s r = e.eval s r := by
  induction h with
  | refl e => rfl
  | trans _ _ ih ih' => exact ih'.trans ih
  | binary op _ _ ihl ihr => rw [eval, eval, ihl, ihr]
  | between lower upper _ ih => rw [eval, eval, ih]
  | among candidates _ ih => rw [eval, eval, ih]
  | equalsAny e first rest =>
    exact (tests_equalsAny s r e first rest).congr (tests_among s r e _) fun _ => rfl
  | within e lower upper =>
    exact (tests_within s r e lower upper).congr (tests_between s r e _ _) fun _ => rfl
  | lower htext e upper =>
    exact (tests_between s r e _ _).congr (tests_between s r e _ _)
      (isBetween_of_toInteger?_eq (toInteger?_of_ofText? htext) rfl)
  | upper htext e lower =>
    exact (tests_between s r e _ _).congr (tests_between s r e _ _)
      (isBetween_of_toInteger?_eq rfl (toInteger?_of_ofText? htext))

lemma toInteger?_eq_none {b : Bound} (h : ¬b.IsInteger) : b.toInteger? = none := by
  cases b with
  | column name => rfl
  | literal l =>
    cases l with
    | number n => exact absurd trivial h
    | text t => exact Option.eq_none_iff_forall_ne_some.mpr fun n hn => h ⟨n, hn⟩

lemma isBetween_eq_false {lower upper : Bound} (h : ¬lower.IsInteger ∨ ¬upper.IsInteger)
    (v : Value) : isBetween v lower upper = false := by
  unfold isBetween
  split
  · rename_i hl hu
    rcases h with h | h
    · rw [toInteger?_eq_none h] at hl
      cases hl
    · rw [toInteger?_eq_none h] at hu
      cases hu
  · rfl

/-- **IN and BETWEEN are derived forms.** Wherever in an expression an IN with candidates is
replaced by a chain of equalities, a BETWEEN of two numbers by two comparisons, or in a bound of
BETWEEN a text that denotes an integer by this integer, the value of the whole, or its error, is the
same on every row. In particular all of these forms can be written out at once. A BETWEEN with a
bound that is neither a number nor such a text is false wherever the expression before it has a
value. -/
theorem eval_of_rewrites (s : Schema) (r : Row) :
    (∀ e e', Rewrites e e' → e'.eval s r = e.eval s r) ∧
    (∀ e : Expr, Rewrites e e.writtenOut ∧ e.writtenOut.eval s r = e.eval s r) ∧
    ∀ (e : Expr) (lower upper : Bound) (v : Value),
      ¬lower.IsInteger ∨ ¬upper.IsInteger → e.eval s r = .ok v →
        (between e lower upper).eval s r = .ok (.integer 0) := by
  refine ⟨fun e e' h => h.eval_eq s r, fun e => ?_, fun e lower upper v hbound hv => ?_⟩
  · exact ⟨e.rewrites_writtenOut, e.rewrites_writtenOut.eval_eq s r⟩
  · have htest := tests_between s r e lower upper
    rw [Tests, hv] at htest
    rw [htest, Except.map, isBetween_eq_false hbound]
    rfl

def people : Schema :=
  .ofTable "people" ["name", "age"]

def thirtyOrBob : Expr :=
  .binary .or (.between (.column "age") (.literal (.text "30")) (.literal (.number 39)))
    (.among (.column "name") [.text "Bob", .text "Rob"])

def thirtyOrBobWrittenOut : Expr :=
  .binary .or
    (.binary .and
      (.binary (.compare .greaterEqual) (.column "age") (.literal (.number 30)))
      (.binary (.compare .lessEqual) (.column "age") (.literal (.number 39))))
    (.binary .or
      (.binary (.compare .equal) (.column "name") (.literal (.text "Bob")))
      (.binary (.compare .equal) (.column "name") (.literal (.text "Rob"))))

theorem eval_of_rewrites_thirtyOrBob :
    Rewrites thirtyOrBob thirtyOrBobWrittenOut ∧
    thirtyOrBobWrittenOut.eval people ["Alice", "31"] = .ok (.integer 1) ∧
    ¬(Bound.column "age").IsInteger ∧
    (Expr.column "age").eval people ["Alice", "31"] = .ok (.integer 31) ∧
    (Expr.between (.column "age") (.column "age") (.literal (.number 39))).eval people
      ["Alice", "31"] = .ok (.integer 0) := by
  have hrewrites : Rewrites thirtyOrBob thirtyOrBobWrittenOut :=
    .binary .or (.trans (.lower (by decide) _ _) (.within _ 30 39)) (.equalsAny _ _ _)
  have hage : (Expr.column "age").eval people ["Alice", "31"] = .ok (.integer 31) := by decide
  obtain ⟨hsame, -, hfalse⟩ := eval_of_rewrites people ["Alice", "31"]
  refine ⟨hrewrites, ?_, id, hage, hfalse _ _ _ _ (.inl id) hage⟩
  rw [hsame _ _ hrewrites]
  decide

end Expr

end CsvQuery
