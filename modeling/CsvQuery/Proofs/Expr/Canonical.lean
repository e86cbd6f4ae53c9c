import CsvQuery.Expr.Reader
import Mathlib.Tactic.Common

/-!
The trees that a sequence of operands and operators can have. An expression is canonical above a
power if its operators bind more tightly than that and every operator took the largest operand that
precedence left it. The reader of expressions builds canonical trees only, and every canonical tree
is what the reader makes of its own tokens.
-/

namespace CsvQuery

lemma mem_of_mem_intersperse {α : Type} {sep a : α} {l : List α} (h : a ∈ l.intersperse sep) :
    a = sep ∨ a ∈ l := by
  fun_induction List.intersperse sep l with
  | case1 => cases h
  | case2 x => exact .inr h
  | case3 x y l ih =>
    rcases List.mem_cons.mp h with rfl | h
    · simp
    · rcases List.mem_cons.mp h with rfl | h
      · simp
      · rcases ih h with h | h
        · exact .inl h
        · exact .inr (List.mem_cons_of_mem _ h)

lemma Literal.ofToken?_eq_some_iff {t : Token} {l : Literal} :
    Literal.ofToken? t = some l ↔ t = l.token := by
  cases l <;> cases t <;> simp [Literal.ofToken?, Literal.token]

lemma Bound.ofToken?_eq_some_iff {t : Token} {b : Bound} :
    Bound.ofToken? t = some b ↔ t = b.token := by
  constructor
  · intro h
    cases t <;> simp only [Bound.ofToken?, Option.some.injEq, reduceCtorEq] at h <;> subst h <;> rfl
  · rintro rfl
    cases b with
    | literal l => cases l <;> rfl
    | column name => rfl

def Operator.token : Operator → Token
  | binary op => op.token
  | between => .keyword .between
  | among => .keyword .among

def Operator.In (g : Grammar) : Operator → Prop
  | binary _ => True
  | between | among => g = .value

lemma Grammar.operator?_eq_some_iff {g : Grammar} {t : Token} {i : Operator} :
    g.operator? t = some i ↔ t = i.token ∧ i.In g := by
  constructor
  · intro h
    unfold Grammar.operator? at h
    split at h <;> simp_all [Operator.token, Operator.In, BinaryOp.token]
    all_goals (obtain ⟨hg, rfl⟩ := h; simp_all)
  · rintro ⟨rfl, hi⟩
    cases i with
    | binary op => cases op <;> rfl
    | between => exact if_pos hi
    | among => exact if_pos hi

namespace Expr

/-- An operator of the given power may take the tree as its left operand. -/
def LeftOperand (power : Nat) : Expr → Prop
  | binary op _ _ => power ≤ op.power
  | _ => True

/-- The trees of a grammar whose operators all bind more tightly than `floor`, grouped to the
left. -/
inductive Canonical (g : Grammar) : Nat → Expr → Prop
  | literal (floor : Nat) (l : Literal) : Canonical g floor (literal l)
  | column (floor : Nat) (name : String) (hg : g = .value) : Canonical g floor (column name)
  | qualified (floor : Nat) (table name : String) (hg : g = .join) :
    Canonical g floor (qualified table name)
  | binary {floor : Nat} {op : BinaryOp} {left right : Expr} (hp : floor < op.power)
    (hl : Canonical g floor left) (hr : Canonical g op.power right)
    (hop : LeftOperand op.power left) : Canonical g floor (binary op left right)
  | between {floor : Nat} {e : Expr} (lower upper : Bound) (hg : g = .value)
    (hp : floor < predicatePower) (he : Canonical g floor e)
    (hop : LeftOperand predicatePower e) : Canonical g floor (between e lower upper)
  | among {floor : Nat} {e : Expr} (candidates : List Literal) (hg : g = .value)
    (hp : floor < predicatePower) (he : Canonical g floor e)
    (hop : LeftOperand predicatePower e) (hne : candidates ≠ []) :
    Canonical g floor (among e candidates)

variable {g : Grammar} {floor : Nat}

/-! ### The right end of a tree -/

lemma extend_of_leftOperand {power : Nat} {e : Expr} (build : Expr → Expr)
    (h : LeftOperand power e) : extend power build e = build e := by
  cases e with
  | binary op left right =>
    have hle : power ≤ op.power := h
    simp [extend, Nat.not_lt.mpr hle]
  | _ => rfl

lemma tokens_extend {power : Nat} {build : Expr → Expr} {suffix : List Token}
    (h : ∀ x, (build x).tokens = x.tokens ++ suffix) (e : Expr) :
    (extend power build e).tokens = e.tokens ++ suffix := by
  fun_induction extend power build e with
  | case1 op left right hlt ih => simp [tokens, ih]
  | case2 op left right hlt => exact h _
  | case3 e he => exact h _

lemma canonical_extend {power : Nat} {build : Expr → Expr}
    (hbuild : ∀ k x, k < power → Canonical g k x → LeftOperand power x → Canonical g k (build x))
    {e : Expr} (he : Canonical g floor e) (hp : floor < power) :
    Canonical g floor (extend power build e) := by
  induction he with
  | @binary k op left right hk hl hr hop ihl ihr =>
    -- A looser operator gives up its right operand, a tighter one becomes an operand as a whole.
    by_cases hlt : op.power < power
    · simp only [extend, hlt, if_true]
      exact .binary hk hl (ihr hlt) hop
    · have hle : LeftOperand power (.binary op left right) := Nat.not_lt.mp hlt
      rw [extend_of_leftOperand build hle]
      exact hbuild k _ hp (.binary hk hl hr hop) hle
  | literal k l => exact hbuild k _ hp (.literal k l) trivial
  | column k name hg => exact hbuild k _ hp (.column k name hg) trivial
  | qualified k table name hg => exact hbuild k _ hp (.qualified k table name hg) trivial
  | between lower upper hg hk he hop =>
    exact hbuild _ _ hp (.between lower upper hg hk he hop) trivial
  | among candidates hg hk he hop hne =>
    exact hbuild _ _ hp (.among candidates hg hk he hop hne) trivial

/-- Two operators in a row, the second one tighter: it takes the operand of the first one. -/
lemma extend_extendBinary {power : Nat} {op : BinaryOp} (build : Expr → Expr)
    (hlt : op.power < power) {operand : Expr} (hop : LeftOperand power operand) (e : Expr) :
    extend power build (e.extendBinary op operand) = e.extendBinary op (build operand) := by
  unfold extendBinary
  induction e with
  | binary op' left right _ ih =>
    by_cases h : op'.power < op.power
    · have h' : op'.power < power := Nat.lt_trans h hlt
      simp only [extend, h, h', if_true, ih]
    · simp only [extend, h, if_false, hlt, if_true, extend_of_leftOperand build hop]
  | _ => simp only [extend, hlt, if_true, extend_of_leftOperand build hop]

/-! ### What a stage has read -/

namespace Stage

def spelledBefore : Option (Expr × BinaryOp) → List Token
  | none => []
  | some (e, op) => e.tokens ++ [op.token]

def spelled : Stage → List Token
  | operand before => spelledBefore before
  | dot before table => spelledBefore before ++ [.identifier table]
  | field before table => spelledBefore before ++ [.identifier table, .dot]
  | whole e => e.tokens
  | lower e => e.tokens ++ [.keyword .between]
  | separator e b => e.tokens ++ [.keyword .between, b.token]
  | upper e b => e.tokens ++ [.keyword .between, b.token, .keyword .and]
  | opening e => e.tokens ++ [.keyword .among]
  | item e found =>
    e.tokens ++ [.keyword .among, .openParen] ++ found.flatMap fun l => [l.token, .comma]
  | afterItem e found =>
    e.tokens ++ [.keyword .among, .openParen] ++ (found.map (·.token)).intersperse .comma

/-- The part in front of an operand is canonical and its operator is within reach. -/
def SoundBefore (g : Grammar) (floor : Nat) (before : Option (Expr × BinaryOp)) : Prop :=
  ∀ p ∈ before, Canonical g floor p.1 ∧ floor < p.2.power

def SoundPredicate (g : Grammar) (floor : Nat) (e : Expr) : Prop :=
  g = .value ∧ floor < predicatePower ∧ Canonical g floor e

/-- The trees of a stage are canonical and what is half read fits the grammar. -/
def Sound (g : Grammar) (floor : Nat) : Stage → Prop
  | operand before => SoundBefore g floor before
  | dot before _ | field before _ => g = .join ∧ SoundBefore g floor before
  | whole e => Canonical g floor e
  | lower e | separator e _ | upper e _ | opening e | item e _ => SoundPredicate g floor e
  | afterItem e found => SoundPredicate g floor e ∧ found ≠ []

lemma sound_start : (operand none).Sound g floor := by
  intro p hp
  cases hp

lemma spelled_withOperand (before : Option (Expr × BinaryOp)) (e : Expr) :
    (withOperand before e).spelled = spelledBefore before ++ e.tokens := by
  cases before with
  | none => rfl
  | some p =>
    have h : ∀ x, (binary p.2 x e).tokens = x.tokens ++ p.2.token :: e.tokens := fun x => rfl
    simp [withOperand, spelled, spelledBefore, extendBinary, tokens_extend h]

lemma sound_withOperand {before : Option (Expr × BinaryOp)} {e : Expr}
    (hb : SoundBefore g floor before) (he : ∀ k, Canonical g k e) :
    Sound g floor (withOperand before e) := by
  cases before with
  | none => exact he floor
  | some p =>
    obtain ⟨hc, hlt⟩ := hb p rfl
    exact canonical_extend (fun k x hk hx hop => .binary hk hx (he _) hop) hc hlt

lemma intersperse_snoc (found : List Literal) (l : Literal) :
    ((found ++ [l]).map (·.token)).intersperse .comma =
      found.flatMap (fun l => [l.token, .comma]) ++ [l.token] := by
  induction found with
  | nil => rfl
  | cons a rest ih =>
    cases rest with
    | nil => rfl
    | cons b rest => simpa using ih

/-- One more token keeps a stage sound, and is the one token that was read. -/
lemma sound_next {st st' : Stage} {t : Token} (hs : st.Sound g floor)
    (h : st.next? g floor t = some st') :
    st'.Sound g floor ∧ st'.spelled = st.spelled ++ [t] := by
  fun_cases next? g floor st t with
  | case1 before n =>
    cases h
    exact ⟨sound_withOperand hs (fun k => .literal k _), spelled_withOperand _ _⟩
  | case2 before s =>
    cases h
    exact ⟨sound_withOperand hs (fun k => .literal k _), spelled_withOperand _ _⟩
  | case3 before name =>
    cases h
    exact ⟨sound_withOperand hs (fun k => .column k _ rfl), spelled_withOperand _ _⟩
  | case4 before name =>
    cases h
    exact ⟨⟨rfl, hs⟩, rfl⟩
  | case5 before table =>
    cases h
    exact ⟨hs, by simp [spelled]⟩
  | case6 before table name =>
    cases h
    refine ⟨sound_withOperand hs.2 (fun k => .qualified k _ _ hs.1), ?_⟩
    rw [spelled_withOperand]
    simp [spelled, tokens]
  | case7 t e _ i ht hlt =>
    simp only [next?, ht, hlt, if_true, Option.some.injEq] at h
    obtain ⟨rfl, hin⟩ := Grammar.operator?_eq_some_iff.mp ht
    subst h
    cases i with
    | binary op =>
      refine ⟨?_, rfl⟩
      intro p hp
      cases hp
      exact ⟨hs, hlt⟩
    | between => exact ⟨⟨hin, hlt, hs⟩, rfl⟩
    | among => exact ⟨⟨hin, hlt, hs⟩, rfl⟩
  | case8 t e _ i ht hlt => simp [next?, ht, hlt] at h
  | case9 t e _ ht => simp [next?, ht] at h
  | case10 t e =>
    obtain ⟨b, hb, rfl⟩ := Option.map_eq_some_iff.mp h
    obtain rfl := Bound.ofToken?_eq_some_iff.mp hb
    exact ⟨hs, by simp [spelled]⟩
  | case11 e b =>
    cases h
    exact ⟨hs, by simp [spelled]⟩
  | case12 t e b =>
    obtain ⟨b', hb, rfl⟩ := Option.map_eq_some_iff.mp h
    obtain rfl := Bound.ofToken?_eq_some_iff.mp hb
    obtain ⟨hg, hlt, he⟩ := hs
    refine ⟨canonical_extend (fun k x hk hx hop => .between b b' hg hk hx hop) he hlt, ?_⟩
    have h' : ∀ x, (between x b b').tokens =
        x.tokens ++ [.keyword .between, b.token, .keyword .and, b'.token] := fun x => rfl
    simp [spelled, tokens_extend h']
  | case13 e =>
    cases h
    exact ⟨hs, by simp [spelled]⟩
  | case14 t e found =>
    obtain ⟨l, hl, rfl⟩ := Option.map_eq_some_iff.mp h
    obtain rfl := Literal.ofToken?_eq_some_iff.mp hl
    refine ⟨⟨hs, by simp⟩, ?_⟩
    simp only [spelled, intersperse_snoc]
    simp
  | case15 _ e found =>
    cases h
    obtain ⟨hp, hne⟩ := hs
    refine ⟨hp, ?_⟩
    obtain ⟨init, l, rfl⟩ : ∃ init l, found = init ++ [l] :=
      ⟨_, _, (List.dropLast_concat_getLast hne).symm⟩
    simp only [spelled, intersperse_snoc]
    simp
  | case16 _ e found =>
    cases h
    obtain ⟨⟨hg, hlt, he⟩, hne⟩ := hs
    refine ⟨canonical_extend (fun k x hk hx hop => .among found hg hk hx hop hne) he hlt, ?_⟩
    have h' : ∀ x, (among x found).tokens = x.tokens ++ ([.keyword .among, .openParen] ++
        (found.map (·.token)).intersperse .comma ++ [.closeParen]) := fun x => by simp [tokens]
    simp [spelled, tokens_extend h']
  | case17 => simp_all [next?]

/-! ### Runs over several tokens -/

/-- The stage after several tokens, if each of them may come next. -/
def run (g : Grammar) (floor : Nat) (st : Stage) (ts : List Token) : Option Stage :=
  ts.foldlM (next? g floor) st

@[simp] lemma run_nil (st : Stage) : st.run g floor [] = some st := rfl

@[simp] lemma run_cons (st : Stage) (t : Token) (ts : List Token) :
    st.run g floor (t :: ts) = (st.next? g floor t).bind fun st' => st'.run g floor ts := rfl

lemma run_append (st : Stage) (ts ts' : List Token) :
    st.run g floor (ts ++ ts') = (st.run g floor ts).bind fun st' => st'.run g floor ts' := by
  simp only [run, List.foldlM_append]
  rfl

lemma sound_run {st st' : Stage} {ts : List Token} (hs : st.Sound g floor)
    (h : st.run g floor ts = some st') :
    st'.Sound g floor ∧ st'.spelled = st.spelled ++ ts := by
  induction ts generalizing st with
  | nil =>
    cases h
    exact ⟨hs, by simp⟩
  | cons t ts ih =>
    obtain ⟨mid, hmid, hrest⟩ := Option.bind_eq_some_iff.mp h
    obtain ⟨hsound, hspell⟩ := sound_next hs hmid
    obtain ⟨hsound', hspell'⟩ := ih hsound hrest
    exact ⟨hsound', by rw [hspell', hspell, List.append_assoc, List.singleton_append]⟩

/-- The tree of an operand behind what stands in front of it. -/
def placed (before : Option (Expr × BinaryOp)) (operand : Expr) : Expr :=
  match before with
  | none => operand
  | some (e, op) => e.extendBinary op operand

lemma withOperand_eq (before : Option (Expr × BinaryOp)) (e : Expr) :
    withOperand before e = whole (placed before e) := by
  cases before <;> rfl

lemma extend_placed {power : Nat} {before : Option (Expr × BinaryOp)} (build : Expr → Expr)
    (hb : ∀ p ∈ before, p.2.power < power) {e : Expr} (he : LeftOperand power e) :
    extend power build (placed before e) = placed before (build e) := by
  cases before with
  | none => exact extend_of_leftOperand build he
  | some p => exact extend_extendBinary build (hb p rfl) he p.1

lemma next?_operator {e : Expr} {i : Operator} (hi : i.In g) (hlt : floor < i.power) :
    (whole e).next? g floor i.token = some (withOperator e i) := by
  have h : g.operator? i.token = some i := Grammar.operator?_eq_some_iff.mpr ⟨rfl, hi⟩
  simp [next?, h, hlt]

lemma next?_lower (e : Expr) (b : Bound) :
    (lower e).next? g floor b.token = some (separator e b) :=
  Option.map_eq_some_iff.mpr ⟨b, Bound.ofToken?_eq_some_iff.mpr rfl, rfl⟩

lemma next?_upper (e : Expr) (b b' : Bound) :
    (upper e b).next? g floor b'.token =
      some (whole (e.extend predicatePower fun x => between x b b')) :=
  Option.map_eq_some_iff.mpr ⟨b', Bound.ofToken?_eq_some_iff.mpr rfl, rfl⟩

lemma next?_item (e : Expr) (found : List Literal) (l : Literal) :
    (item e found).next? g floor l.token = some (afterItem e (found ++ [l])) :=
  Option.map_eq_some_iff.mpr ⟨l, Literal.ofToken?_eq_some_iff.mpr rfl, rfl⟩

lemma run_items (e : Expr) (found : List Literal) (l : Literal) (ls : List Literal) :
    (item e found).run g floor (((l :: ls).map (·.token)).intersperse .comma) =
      some (afterItem e (found ++ l :: ls)) := by
  induction ls generalizing found l with
  | nil => simp [next?_item]
  | cons l' ls ih =>
    have hcomma : (afterItem e (found ++ [l])).next? g floor .comma =
        some (item e (found ++ [l])) := rfl
    simpa [next?_item, hcomma] using ih (found ++ [l]) l'

/-- **Completeness.** The tokens of a canonical tree lead to the tree behind whatever stands in
front of them, if that binds no more tightly than the tree's floor. -/
lemma run_tokens {k : Nat} {e : Expr} (he : Canonical g k e) (hk : floor ≤ k)
    (before : Option (Expr × BinaryOp)) (hb : ∀ p ∈ before, p.2.power ≤ k) :
    (operand before).run g floor e.tokens = some (whole (placed before e)) := by
  induction he generalizing before with
  | literal k l => cases l <;> simp [tokens, Literal.token, next?, withOperand_eq]
  | column k name hg => simp [tokens, next?, hg, withOperand_eq]
  | qualified k table name hg => simp [tokens, next?, hg, withOperand_eq]
  | @binary k op left right hp _ _ hop ihl ihr =>
    -- What stands in front binds more loosely than `op`, so the right operand ends up below `op`.
    have hnext : (whole (placed before left)).next? g floor op.token =
        some (operand (some (placed before left, op))) :=
      next?_operator (i := .binary op) trivial (Nat.lt_of_le_of_lt hk hp)
    have hright := ihr (by omega) (some (placed before left, op)) (by simp)
    have hgroup := extend_placed (fun x => binary op x right)
      (fun p hp' => Nat.lt_of_le_of_lt (hb p hp') hp) hop
    rw [tokens, run_append, ihl hk before hb, Option.bind_some, run_cons, hnext, Option.bind_some,
      hright, ← hgroup]
    rfl
  | @between k e lower upper hg hp he hop ih =>
    have hnext : (whole (placed before e)).next? g floor (.keyword .between) =
        some (Stage.lower (placed before e)) :=
      next?_operator (i := .between) hg (Nat.lt_of_le_of_lt hk hp)
    have hand : (separator (placed before e) lower).next? g floor (.keyword .and) =
        some (Stage.upper (placed before e) lower) := rfl
    have hgroup := extend_placed (fun x => between x lower upper)
      (fun p hp' => Nat.lt_of_le_of_lt (hb p hp') hp) hop
    rw [tokens, run_append, ih hk before hb, ← hgroup]
    simp [hnext, next?_lower, hand, next?_upper]
  | @among k e candidates hg hp he hop hne ih =>
    obtain ⟨l, ls, rfl⟩ := List.exists_cons_of_ne_nil hne
    have hnext : (whole (placed before e)).next? g floor (.keyword .among) =
        some (opening (placed before e)) :=
      next?_operator (i := .among) hg (Nat.lt_of_le_of_lt hk hp)
    have hopen : (opening (placed before e)).next? g floor .openParen =
        some (item (placed before e) []) := rfl
    have hclose : (afterItem (placed before e) (l :: ls)).next? g floor .closeParen =
        some (whole ((placed before e).extend predicatePower fun x => among x (l :: ls))) := rfl
    have hgroup := extend_placed (fun x => among x (l :: ls))
      (fun p hp' => Nat.lt_of_le_of_lt (hb p hp') hp) hop
    have hitems : (item (placed before e) []).run g floor
        (((l :: ls).map (·.token)).intersperse .comma) =
        some (afterItem (placed before e) (l :: ls)) := run_items _ [] l ls
    rw [tokens, run_append, run_append, run_append, ih hk before hb, ← hgroup]
    simp only [Option.bind_some, run_cons, run_nil, hnext, hopen, hitems, hclose]

end Stage

/-! ### Reading -/

/-- No operator that belongs to the expression follows. -/
def Stops (g : Grammar) (floor : Nat) (rest : List Located) : Prop :=
  ∀ t ∈ rest.head?, ∀ i, g.operator? t.token = some i → i.power ≤ floor

lemma next?_whole_eq_none {e : Expr} {t : Token} :
    (Stage.whole e).next? g floor t = none ↔
      ∀ i, g.operator? t = some i → i.power ≤ floor := by
  cases h : g.operator? t with
  | none => simp [Stage.next?, h]
  | some i => simp [Stage.next?, h]

lemma readFrom_run {st st' : Stage} {seen : List Located} (rest : List Located)
    (h : st.run g floor (seen.map (·.token)) = some st') :
    readFrom g floor st (seen ++ rest) = readFrom g floor st' rest := by
  induction seen generalizing st with
  | nil =>
    cases h
    rfl
  | cons t seen ih =>
    obtain ⟨mid, hmid, hrest⟩ := Option.bind_eq_some_iff.mp h
    simp [readFrom, hmid, ih hrest]

lemma readFrom_whole {e : Expr} {rest : List Located} (h : Stops g floor rest) :
    readFrom g floor (.whole e) rest = .ok (e, rest) := by
  cases rest with
  | nil => rfl
  | cons t rest =>
    have hnone : (Stage.whole e).next? g floor t.token = none :=
      next?_whole_eq_none.mpr (h t rfl)
    simp [readFrom, hnone]

lemma run_of_readFrom {st : Stage} {ts rest : List Located} {e : Expr}
    (h : readFrom g floor st ts = .ok (e, rest)) :
    ∃ seen, ts = seen ++ rest ∧ st.run g floor (seen.map (·.token)) = some (.whole e) ∧
      Stops g floor rest := by
  fun_induction readFrom g floor st ts with
  | case1 e' =>
    cases h
    exact ⟨[], rfl, rfl, by simp [Stops]⟩
  | case2 st hst => cases h
  | case3 st t ts next hnext ih =>
    obtain ⟨seen, rfl, hrun, hstop⟩ := ih h
    exact ⟨t :: seen, rfl, by simp [hnext, hrun], hstop⟩
  | case4 t ts e' hnone =>
    cases h
    refine ⟨[], rfl, rfl, ?_⟩
    intro t' ht
    cases ht
    exact next?_whole_eq_none.mp hnone
  | case5 st t ts hnone hst => cases h

lemma read_eq_ok_iff {ts rest : List Located} {e : Expr} :
    read g floor ts = .ok (e, rest) ↔
      ∃ seen, ts = seen ++ rest ∧ seen.map (·.token) = e.tokens ∧ Canonical g floor e ∧
        Stops g floor rest := by
  constructor
  · intro h
    obtain ⟨seen, rfl, hrun, hstop⟩ := run_of_readFrom h
    obtain ⟨hsound, hspell⟩ := Stage.sound_run Stage.sound_start hrun
    exact ⟨seen, rfl, by simpa [Stage.spelled, Stage.spelledBefore] using hspell.symm, hsound,
      hstop⟩
  · rintro ⟨seen, rfl, hspell, hc, hstop⟩
    have hrun := Stage.run_tokens hc (Nat.le_refl floor) none (by simp)
    rw [← hspell] at hrun
    rw [read, readFrom_run rest hrun]
    exact readFrom_whole hstop

lemma Canonical.unique {e e' : Expr} (h : Canonical g floor e) (h' : Canonical g floor e')
    (heq : e.tokens = e'.tokens) : e = e' := by
  have hrun := Stage.run_tokens h (Nat.le_refl floor) none (by simp)
  have hrun' := Stage.run_tokens h' (Nat.le_refl floor) none (by simp)
  rw [heq, hrun'] at hrun
  cases hrun
  rfl

end Expr

end CsvQuery
