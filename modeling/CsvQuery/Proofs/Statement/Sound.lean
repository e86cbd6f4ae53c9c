import CsvQuery.Proofs.Statement.Parts
import CsvQuery.Proofs.Statement.Run

/-!
The reader of statements accepts spelled statements only. Every stage knows which tokens have been
read: a part of the grammar up to some clause and what is half read of the next one.
-/

namespace CsvQuery.Statement

/-- The tokens of columns, each with the comma behind it. -/
def commaEach (found : List SelectItem) : List Token :=
  found.flatMap (·.tokens ++ [.comma])

namespace Stage

/-- The tokens are those of the list of GROUP BY, and the statement up to it is spelled by what
stands in front of them. -/
def Grouping (s : Statement) (ts list : List Token) : Prop :=
  ∃ before, Upto 1 { s with groupBy := [] } before ∧ s.Bare 2 ∧ ts = before ++ list

/-- The tokens are those of the list of ORDER BY, whose keys are spelled as given, and the statement
up to it is spelled by what stands in front of them. -/
def Ordering (s : Statement) (ts : List Token) (list : List (List Token) → List Token) : Prop :=
  ∃ before keys, Upto 2 { s with orderBy := [] } before ∧ s.Bare 3 ∧
    List.Forall₂ OrderKey.Spelled s.orderBy keys ∧ ts = before ++ list keys

def Reads : Stage → List Token → Prop
  | start, ts => ts = []
  | selection, ts => ts = [.keyword .select]
  | item found, ts => ts = .keyword .select :: commaEach found
  | opening found f, ts => ts = .keyword .select :: commaEach found ++ [.keyword (.aggregate f)]
  | argument found f, ts =>
    ts = .keyword .select :: commaEach found ++ [.keyword (.aggregate f), .openParen]
  | closing found f field, ts =>
    ts = .keyword .select :: commaEach found ++
      [.keyword (.aggregate f), .openParen, .identifier field]
  | unnamed found i, ts =>
    i.newName = none ∧ ts = .keyword .select :: commaEach found ++ i.tokens
  | newName found i, ts =>
    i.newName = none ∧ ts = .keyword .select :: commaEach found ++ i.tokens ++ [.keyword .named]
  | named found, ts =>
    ∃ init last, found = init ++ [last] ∧ ts = .keyword .select :: commaEach init ++ last.tokens
  | star, ts => ts = [.keyword .select, .star]
  | table chosen, ts =>
    chosen.Regular ∧ ts = .keyword .select :: chosen.tokens ++ [.keyword .source]
  | joins s, ts => s.Upto 0 ts
  | joined s kind, ts => ∃ before, s.Upto 0 before ∧ ts = before ++ [.keyword (.join kind)]
  | matching s kind right, ts =>
    ∃ before, s.Upto 0 before ∧ ts = before ++ [.keyword (.join kind), .identifier right]
  | joinCondition s kind right e, ts =>
    ∃ before, s.Upto 0 before ∧ e.Sound .join 0 ∧
      ts = before ++ [.keyword (.join kind), .identifier right, .keyword .matching] ++ e.spelled
  | condition s e, ts =>
    ∃ before, s.Upto 0 before ∧ e.Sound .value 0 ∧ ts = before ++ .keyword .condition :: e.spelled
  | groupField s, ts =>
    Grouping s ts (.keyword .groupBy :: s.groupBy.flatMap fun name => [.identifier name, .comma])
  | grouped s, ts =>
    s.groupBy ≠ [] ∧
      Grouping s ts (listClause .groupBy (s.groupBy.map fun name => [.identifier name]))
  | orderField s, ts => Ordering s ts fun keys => .keyword .orderBy :: keys.flatMap (· ++ [.comma])
  | ordering s field, ts =>
    Ordering s ts fun keys =>
      .keyword .orderBy :: keys.flatMap (· ++ [.comma]) ++ [.identifier field]
  | ordered s, ts => s.orderBy ≠ [] ∧ Ordering s ts (listClause .orderBy)
  | limit s, ts => ∃ before, s.Upto 3 before ∧ ts = before ++ [.keyword .limit]
  | limited s, ts => s.Spelled ts

/-! ### Columns -/

lemma commaEach_snoc (found : List SelectItem) (i : SelectItem) :
    commaEach (found ++ [i]) = commaEach found ++ i.tokens ++ [.comma] := by
  simp [commaEach]

lemma tokens_items_snoc (found : List SelectItem) (i : SelectItem) :
    (Selection.items (found ++ [i])).tokens = commaEach found ++ i.tokens := by
  simp [Selection.tokens, commaEach, intercalate_snoc, List.flatMap_map]

lemma tokens_named {i : SelectItem} (h : i.newName = none) (name : String) :
    { i with newName := some name }.tokens = i.tokens ++ [.keyword .named, .identifier name] := by
  simp [SelectItem.tokens, h]

/-! ### Lists of clauses -/

lemma Grouping.upto {s : Statement} {ts : List Token}
    (h : Grouping s ts (listClause .groupBy (s.groupBy.map fun name => [.identifier name]))) :
    s.Upto 2 ts := by
  obtain ⟨before, hbefore, -, rfl⟩ := h
  exact hbefore.groupBy s.groupBy

lemma Ordering.upto {s : Statement} {ts : List Token}
    (h : Ordering s ts (listClause .orderBy)) : s.Upto 3 ts := by
  obtain ⟨before, keys, hbefore, -, hkeys, rfl⟩ := h
  exact hbefore.orderBy hkeys

lemma Ordering.ascending {s : Statement} {ts : List Token} {field : String}
    (h : (ordering s field).Reads ts) : (ordered (withKey s field .ascending)).Reads ts := by
  obtain ⟨before, keys, hbefore, hbare, hkeys, rfl⟩ := h
  refine ⟨by simp [withKey], before, keys ++ [[.identifier field]], hbefore,
    ⟨by omega, by omega, by omega, hbare.limit⟩, ?_, ?_⟩
  · exact List.rel_append hkeys (.cons (.ascending field) .nil)
  · simp [listClause_snoc]

lemma reads_orderField {s : Statement} {ts : List Token} (h : (ordered s).Reads ts) :
    (orderField s).Reads (ts ++ [.comma]) := by
  obtain ⟨hne, before, keys, hbefore, hbare, hkeys, rfl⟩ := h
  have hne' : keys ≠ [] := by
    rintro rfl
    exact hne (List.forall₂_nil_right_iff.mp hkeys)
  exact ⟨before, keys, hbefore, hbare, hkeys, by rw [List.append_assoc, listClause_comma _ hne']⟩

/-! ### One more token -/

lemma reads_opened {s : Statement} {last : Nat} {ts : List Token} (h : s.Upto last ts)
    (c : Clause) (hlt : last < c.rank) : (c.opened s).Reads (ts ++ [c.token]) := by
  cases c with
  | condition =>
    have hs : s.Upto 0 ts := ⟨h.1, by
      have : last = 0 := by simpa [Clause.rank] using hlt
      exact this ▸ h.2⟩
    exact ⟨ts, hs, Expr.Stage.sound_start, rfl⟩
  | groupBy =>
    have hs := h.mono (Nat.lt_succ_iff.mp hlt)
    have hnil : s.groupBy = [] := hs.2.groupBy (by omega)
    have heq : { s with groupBy := [] } = s := by rw [← hnil]
    exact ⟨ts, heq ▸ hs, hs.2.mono (by omega), by simp [hnil, Clause.token]⟩
  | orderBy =>
    have hs := h.mono (Nat.lt_succ_iff.mp hlt)
    have hnil : s.orderBy = [] := hs.2.orderBy (by omega)
    have heq : { s with orderBy := [] } = s := by rw [← hnil]
    exact ⟨ts, [], heq ▸ hs, hs.2.mono (by omega), hnil ▸ .nil, rfl⟩
  | limit => exact ⟨ts, h.mono (Nat.lt_succ_iff.mp hlt), rfl⟩

lemma reads_clause {s : Statement} {last : Nat} {ts : List Token} {t : Token} {st : Stage}
    (hs : s.Upto last ts) (h : clause? s last t = some st) : st.Reads (ts ++ [t]) := by
  obtain ⟨c, rfl, hlt, rfl⟩ := clause?_eq_some_iff.mp h
  exact reads_opened hs c hlt

lemma reads_joinOrClause {s : Statement} {ts : List Token} {t : Token} {st : Stage}
    (hs : s.Upto 0 ts) (h : joinOrClause? s t = some st) : st.Reads (ts ++ [t]) := by
  rcases joinOrClause?_eq_some_iff.mp h with ⟨kind, rfl, rfl⟩ | ⟨c, rfl, rfl⟩
  · exact ⟨ts, hs, rfl⟩
  · exact reads_opened hs c (by cases c <;> decide)

/-- **One more token keeps what has been read.** -/
lemma reads_next {st st' : Stage} {ts : List Token} {t : Token} (hs : st.Reads ts)
    (hpos : ∀ n, t = .number n → 0 ≤ n) (h : st.next? t = some st') :
    st'.Reads (ts ++ [t]) := by
  fun_cases next? st t with
  -- SELECT and the columns
  | case1 =>
    cases h
    exact congrArg (· ++ _) hs
  | case2 =>
    cases h
    exact congrArg (· ++ _) hs
  | case3 name =>
    cases h
    cases hs
    exact ⟨rfl, rfl⟩
  | case4 f =>
    cases h
    cases hs
    rfl
  | case5 found name =>
    cases h
    cases hs
    exact ⟨rfl, rfl⟩
  | case6 found f =>
    cases h
    cases hs
    rfl
  | case7 found f =>
    cases h
    cases hs
    simp [Reads]
  | case8 found f field =>
    cases h
    cases hs
    simp [Reads]
  | case9 found f field =>
    cases h
    cases hs
    simp [Reads, SelectItem.tokens]
  | case10 found i =>
    cases h
    obtain ⟨hnone, rfl⟩ := hs
    exact ⟨hnone, rfl⟩
  | case11 found i =>
    cases h
    obtain ⟨-, rfl⟩ := hs
    simp [Reads, commaEach_snoc]
  | case12 found i =>
    cases h
    obtain ⟨-, rfl⟩ := hs
    exact ⟨by simp [Selection.Regular], by simp [tokens_items_snoc]⟩
  | case13 found i name =>
    cases h
    obtain ⟨hnone, rfl⟩ := hs
    exact ⟨found, _, rfl, by simp [tokens_named hnone]⟩
  | case14 found =>
    cases h
    obtain ⟨init, last, rfl, rfl⟩ := hs
    simp [Reads, commaEach_snoc]
  | case15 found =>
    cases h
    obtain ⟨init, last, rfl, rfl⟩ := hs
    exact ⟨by simp [Selection.Regular], by simp [tokens_items_snoc]⟩
  | case16 =>
    cases h
    cases hs
    exact ⟨trivial, rfl⟩
  -- FROM, the joins and the WHERE clause
  | case17 chosen name =>
    cases h
    obtain ⟨hchosen, rfl⟩ := hs
    have hupto := Upto.reading hchosen name
    simpa only [Reads, List.cons_append, List.append_assoc, List.nil_append] using hupto
  | case18 s => exact reads_joinOrClause hs h
  | case19 s kind name =>
    cases h
    obtain ⟨before, hbefore, rfl⟩ := hs
    exact ⟨before, hbefore, by simp⟩
  | case20 s kind right =>
    cases h
    obtain ⟨before, hbefore, rfl⟩ := hs
    exact ⟨before, hbefore, Expr.Stage.sound_start,
      by simp [Expr.Stage.spelled, Expr.Stage.spelledBefore]⟩
  | case21 s kind right e _ e' he =>
    obtain rfl : joinCondition s kind right e' = st' := by simpa [next?, he] using h
    obtain ⟨before, hbefore, hsound, rfl⟩ := hs
    obtain ⟨hsound', hspelled⟩ := Expr.Stage.sound_next hsound he
    exact ⟨before, hbefore, hsound', by simp [hspelled]⟩
  | case22 s kind right _ e he =>
    obtain ⟨before, hbefore, hsound, rfl⟩ := hs
    have hnext : joinOrClause? (withJoin s kind right e) t = some st' := by
      simpa [next?, he] using h
    exact reads_joinOrClause (hbefore.join kind right hsound) hnext
  | case23 s kind right e hne he =>
    cases e <;> simp_all [next?]
  | case24 s e _ e' he =>
    obtain rfl : condition s e' = st' := by simpa [next?, he] using h
    obtain ⟨before, hbefore, hsound, rfl⟩ := hs
    obtain ⟨hsound', hspelled⟩ := Expr.Stage.sound_next hsound he
    exact ⟨before, hbefore, hsound', by simp [hspelled]⟩
  | case25 s _ e he =>
    obtain ⟨before, hbefore, hsound, rfl⟩ := hs
    have hnext : clause? { s with condition := some e } Clause.condition.rank t = some st' := by
      simpa [next?, he] using h
    exact reads_clause (hbefore.condition hsound) hnext
  | case26 s e hne he =>
    cases e <;> simp_all [next?]
  -- The clauses behind
  | case27 s name =>
    cases h
    obtain ⟨before, hbefore, hbare, rfl⟩ := hs
    exact ⟨by simp, before, hbefore, ⟨by omega, by omega, hbare.orderBy, hbare.limit⟩,
      by simp [listClause_snoc, List.flatMap_map]⟩
  | case28 s =>
    cases h
    obtain ⟨hne, before, hbefore, hbare, rfl⟩ := hs
    refine ⟨before, hbefore, hbare, ?_⟩
    rw [List.append_assoc, listClause_comma _ (by simpa using hne)]
    simp [List.flatMap_map]
  | case29 s _ hne =>
    have hnext : clause? s Clause.groupBy.rank t = some st' := by simpa [next?, hne] using h
    exact reads_clause hs.2.upto hnext
  | case30 s name =>
    cases h
    obtain ⟨before, keys, hbefore, hbare, hkeys, rfl⟩ := hs
    exact ⟨before, keys, hbefore, hbare, hkeys, by simp⟩
  | case31 s field d =>
    cases h
    obtain ⟨before, keys, hbefore, hbare, hkeys, rfl⟩ := hs
    refine ⟨by simp [withKey], before, keys ++ [OrderKey.tokens ⟨field, d⟩], hbefore,
      ⟨by omega, by omega, by omega, hbare.limit⟩, ?_, ?_⟩
    · exact List.rel_append hkeys (.cons (.directed _) .nil)
    · simp [listClause_snoc, OrderKey.tokens]
  | case32 s field =>
    cases h
    exact reads_orderField (Ordering.ascending hs)
  | case33 s field _ hdirection hcomma =>
    have hnext : clause? (withKey s field .ascending) Clause.orderBy.rank t = some st' := by
      simpa [next?, hdirection, hcomma] using h
    exact reads_clause (Ordering.ascending hs).2.upto hnext
  | case34 s =>
    cases h
    exact reads_orderField hs
  | case35 s _ hne =>
    have hnext : clause? s Clause.orderBy.rank t = some st' := by simpa [next?, hne] using h
    exact reads_clause hs.2.upto hnext
  | case36 s n =>
    cases h
    obtain ⟨before, hbefore, rfl⟩ := hs
    have hn : (n.toNat : Int) = n := Int.toNat_of_nonneg (hpos n rfl)
    have hlimit := hbefore.limit n.toNat
    rw [hn] at hlimit
    simpa only [Reads, List.append_assoc, List.cons_append, List.nil_append] using hlimit
  | case37 => simp_all [next?]

lemma reads_run {st st' : Stage} {ts more : List Token} (hs : st.Reads ts)
    (hpos : ∀ n, .number n ∈ more → 0 ≤ n) (h : st.run more = some st') :
    st'.Reads (ts ++ more) := by
  induction more generalizing st ts with
  | nil =>
    cases h
    simpa using hs
  | cons t more ih =>
    obtain ⟨mid, hmid, hrest⟩ := Option.bind_eq_some_iff.mp h
    have hnext := reads_next hs (fun n hn => hpos n (by simp [hn])) hmid
    have hmore := ih hnext (fun n hn => hpos n (List.mem_cons_of_mem _ hn)) hrest
    rwa [List.append_assoc, List.singleton_append] at hmore

lemma spelled_of_finish {st : Stage} {ts : List Token} {s : Statement} (hs : st.Reads ts)
    (h : st.finish? = some s) : s.Spelled ts := by
  fun_cases finish? st with
  | case1 s =>
    cases h
    exact hs.1
  | case2 s kind right e =>
    cases h
    obtain ⟨before, hbefore, hsound, rfl⟩ := hs
    exact (hbefore.join kind right hsound).1
  | case3 s e =>
    cases h
    obtain ⟨before, hbefore, hsound, rfl⟩ := hs
    exact (hbefore.condition hsound).1
  | case4 s =>
    cases h
    exact hs.2.upto.1
  | case5 s field =>
    cases h
    exact (Ordering.ascending hs).2.upto.1
  | case6 s =>
    cases h
    exact hs.2.upto.1
  | case7 s =>
    cases h
    exact hs
  | case8 => simp_all [finish?]

/-- **Soundness.** What the reader takes for a statement spells it. -/
lemma spelled_of_run {ts : List Token} {st : Stage} {s : Statement}
    (hpos : ∀ n, .number n ∈ ts → 0 ≤ n) (h : start.run ts = some st)
    (hfinish : st.finish? = some s) : s.Spelled ts := by
  have hstart : start.Reads [] := rfl
  exact spelled_of_finish (reads_run hstart hpos h) hfinish

end Stage

end CsvQuery.Statement
