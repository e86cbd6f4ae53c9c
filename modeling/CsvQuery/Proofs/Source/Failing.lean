import CsvQuery.Proofs.Source.Produced

/-!
Which errors a source can yield. The errors of a source made of another one are errors of the other
one; a filter adds those of its test on the rows that reach it, and a source that rearranges rows
those of the rows that cannot be rearranged.
-/

namespace CsvQuery.Source

variable {ε : Type}

/-- Some pull yields the error. -/
def Fails (src : Source ε) (e : ε) : Prop :=
  ∃ s, src.Reachable s ∧ (src.pull s).item = some (.error e)

variable {src : Source ε} {e : ε}

lemma Reachable.fails {s : src.State} (h : src.Reachable s)
    (he : (src.pull s).item = some (.error e)) : src.Fails e :=
  ⟨s, h, he⟩

/-- What holds of the start and is kept by every pull holds of every error that a pull from such a
state yields. -/
lemma Fails.of_invariant (h : src.Fails e) (inv : src.State → Prop) (p : ε → Prop)
    (hstart : inv src.start)
    (hpull : ∀ s, inv s →
      inv (src.pull s).state ∧ ∀ e, (src.pull s).item = some (.error e) → p e) : p e := by
  obtain ⟨s, hs, he⟩ := h
  have hinv : inv s := hs.invariant inv hstart fun s hs => (hpull s hs).1
  exact (hpull s hinv).2 e he

lemma Reachable.fails_of_drain {s : src.State} (h : src.Reachable s)
    (he : (src.drain s).outcome = .error e) : src.Fails e := by
  fun_induction drain src s with
  | case1 s p hp => cases he
  | case2 s p e' hp =>
    cases he
    exact h.fails hp
  | case3 s p r hp rest ih =>
    cases hrest : rest.outcome with
    | error e' =>
      rw [hrest] at he
      cases he
      exact ih h.pull hrest
    | ok rows =>
      rw [hrest] at he
      cases he

/-! ### Sources from sources -/

lemma Fails.of_map {f : Row → Row} (h : (src.map f).Fails e) : src.Fails e := by
  refine h.of_invariant src.Reachable src.Fails .start fun s hs => ⟨hs.pull, fun e he => ?_⟩
  obtain ⟨item, hitem, hmap⟩ := Option.map_eq_some_iff.mp he
  cases item with
  | ok r => cases hmap
  | error e' =>
    cases hmap
    exact hs.fails hitem

lemma Fails.of_mapError {ε' : Type} {f : ε → ε'} {e' : ε'} (h : (src.mapError f).Fails e') :
    ∃ e, src.Fails e ∧ e' = f e := by
  refine h.of_invariant src.Reachable (fun e' => ∃ e, src.Fails e ∧ e' = f e) .start
    fun s hs => ⟨hs.pull, fun e' he' => ?_⟩
  obtain ⟨item, hitem, hmap⟩ := Option.map_eq_some_iff.mp he'
  cases item with
  | ok r => cases hmap
  | error e =>
    cases hmap
    exact ⟨e, hs.fails hitem, rfl⟩

lemma Reachable.fails_of_filterPull {keep : Row → Except ε Bool} {s : src.State}
    (h : src.Reachable s) (he : (filterPull src keep s).item = some (.error e)) :
    src.Fails e ∨ ∃ r, src.Produces r ∧ keep r = .error e := by
  fun_induction filterPull src keep s with
  | case1 s p r hp hk => exact .inl (h.fails he)
  | case2 s p r hp hk rest ih => exact ih h.pull he
  | case3 s p r hp e' hk =>
    cases he
    exact .inr ⟨r, h.produces hp, hk⟩
  | case4 s p hp => exact .inl (h.fails he)

lemma Fails.of_filter {keep : Row → Except ε Bool} (h : (src.filter keep).Fails e) :
    src.Fails e ∨ ∃ r, src.Produces r ∧ keep r = .error e :=
  h.of_invariant src.Reachable (fun e => src.Fails e ∨ ∃ r, src.Produces r ∧ keep r = .error e)
    .start fun _ hs => ⟨(reachable_filterPull hs).1, fun _ => hs.fails_of_filterPull⟩

lemma Fails.of_take {n : Nat} (h : (src.take n).Fails e) : src.Fails e := by
  refine h.of_invariant (fun s => src.Reachable s.source) src.Fails .start ?_
  rintro ⟨s, count⟩ hs
  rcases Nat.lt_or_ge count n with hlt | hfull
  · rw [src.pull_take_of_lt hlt s]
    exact ⟨hs.pull, fun e he => hs.fails he⟩
  · have hpull : (src.take n).pull ⟨s, count⟩ = ⟨none, ⟨s, count⟩, []⟩ := if_pos hfull
    rw [hpull]
    exact ⟨hs, by simp⟩

section Expand

variable {f : Row → List Row} {note : Nat → List Log.Entry}

lemma Reachable.fails_of_expandPull {s : Expanded src.State} (h : src.Reachable s.source)
    (he : (expandPull src f note s).item = some (.error e)) : src.Fails e := by
  fun_induction expandPull src f note s with
  | case1 s r rest hs => cases he
  | case2 s hs p hp => cases he
  | case3 s hs p e' hp =>
    cases he
    exact h.fails hp
  | case4 s hs p r hp rest ih => exact ih h.pull he

lemma Fails.of_expand {most : Nat} {length_le : ∀ r, (f r).length ≤ most}
    (h : (src.expand f note most length_le).Fails e) : src.Fails e :=
  h.of_invariant (Replacing f) src.Fails ⟨.start, by simp [expand]⟩
    fun _ hs => ⟨(replacing_expandPull hs).1, fun _ => hs.1.fails_of_expandPull⟩

end Expand

section Gather

variable {arrange : List Row → Except ε (List Row)} {note : List Row → List Log.Entry}

lemma item_yieldPull_ne_error (s : src.State) (log : List Log.Entry) (rows : List Row) :
    (yieldPull s log rows).item ≠ some (.error e) := by
  cases rows <;> simp [yieldPull]

/-- The error is that of rows which cannot be rearranged, when the source has been read to its end
from some state. -/
def FailsArranging (src : Source ε) (arrange : List Row → Except ε (List Row)) (e : ε) : Prop :=
  ∃ s rows, src.Reachable s ∧ (src.drain s).outcome = .ok rows ∧ arrange rows = .error e

lemma Reachable.fails_of_gatherPull {s : Gathered src.State} (h : src.Reachable s.source)
    (he : (gatherPull src arrange note s).item = some (.error e)) :
    src.Fails e ∨ src.FailsArranging arrange e := by
  rw [gatherPull] at he
  split at he
  · exact absurd he (item_yieldPull_ne_error _ _ _)
  · dsimp only at he
    split at he
    · rename_i e' herror
      cases he
      exact .inl (h.fails_of_drain herror)
    · rename_i rows hok
      split at he
      · rename_i e' herror
        cases he
        exact .inr ⟨s.source, rows, h, hok, herror⟩
      · exact absurd he (item_yieldPull_ne_error _ _ _)

lemma Fails.of_gather {length_le : ∀ rows arranged, arrange rows = .ok arranged →
      arranged.length ≤ rows.length} (h : (src.gather arrange note length_le).Fails e) :
    src.Fails e ∨ src.FailsArranging arrange e :=
  h.of_invariant (Arranging arrange) (fun e => src.Fails e ∨ src.FailsArranging arrange e)
    ⟨.start, by simp [gather]⟩ fun _ hs => ⟨(arranging_gatherPull hs).1, fun _ =>
      hs.1.fails_of_gatherPull⟩

end Gather

end CsvQuery.Source
