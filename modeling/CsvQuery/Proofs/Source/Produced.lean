import CsvQuery.Proofs.Source.Items

/-!
Which rows a source can produce. A state is reachable if some number of pulls leads to it, past
errors and past the end as well; a row is produced if some pull from a reachable state yields it.
Every row of a source made of another one comes from rows that the other one produces.
-/

namespace CsvQuery.Source

variable {ε : Type}

/-- Pulls lead from the start to the state. -/
inductive Reachable (src : Source ε) : src.State → Prop
  | start : Reachable src src.start
  | pull {s : src.State} (h : Reachable src s) : Reachable src (src.pull s).state

/-- Some pull yields the row. -/
def Produces (src : Source ε) (r : Row) : Prop :=
  ∃ s, src.Reachable s ∧ (src.pull s).item = some (.ok r)

variable {src : Source ε}

lemma Reachable.produces {s : src.State} (h : src.Reachable s) {r : Row}
    (hr : (src.pull s).item = some (.ok r)) : src.Produces r :=
  ⟨s, h, hr⟩

lemma Reachable.invariant {s : src.State} (h : src.Reachable s) (inv : src.State → Prop)
    (hstart : inv src.start) (hpull : ∀ s, inv s → inv (src.pull s).state) : inv s := by
  induction h with
  | start => exact hstart
  | pull _ ih => exact hpull _ ih

lemma Produces.of_invariant {r : Row} (h : src.Produces r) (inv : src.State → Prop)
    (p : Row → Prop) (hstart : inv src.start)
    (hpull : ∀ s, inv s →
      inv (src.pull s).state ∧ ∀ r, (src.pull s).item = some (.ok r) → p r) : p r := by
  obtain ⟨s, hs, hr⟩ := h
  have hinv : inv s := hs.invariant inv hstart fun s hs => (hpull s hs).1
  exact (hpull s hinv).2 r hr

/-! ### Reading to the end -/

lemma reachable_drain {s : src.State} (h : src.Reachable s) :
    src.Reachable (src.drain s).state ∧
      ∀ rows, (src.drain s).outcome = .ok rows → ∀ r ∈ rows, src.Produces r := by
  fun_induction drain src s with
  | case1 s p hp => exact ⟨h.pull, by simp⟩
  | case2 s p e hp => exact ⟨h.pull, by simp⟩
  | case3 s p r hp rest ih =>
    obtain ⟨hstate, hrows⟩ := ih h.pull
    refine ⟨hstate, fun rows hok => ?_⟩
    cases hrest : rest.outcome with
    | error e => simp [hrest, Except.map] at hok
    | ok rows' =>
      simp only [hrest, Except.map, Except.ok.injEq] at hok
      subst hok
      intro r' hr'
      rcases List.mem_cons.mp hr' with rfl | hr'
      · exact h.produces hp
      · exact hrows rows' hrest r' hr'

lemma produces_of_run {rows : List Row} (h : src.run.outcome = .ok rows) :
    ∀ r ∈ rows, src.Produces r :=
  (reachable_drain .start).2 rows h

/-! ### Sources from sources -/

lemma Produces.of_map {f : Row → Row} {r : Row} (h : (src.map f).Produces r) :
    ∃ r', src.Produces r' ∧ r = f r' := by
  refine h.of_invariant src.Reachable (fun r => ∃ r', src.Produces r' ∧ r = f r')
    .start fun s hs => ⟨hs.pull, fun r hr => ?_⟩
  obtain ⟨item, hitem, hmap⟩ := Option.map_eq_some_iff.mp hr
  cases item with
  | error e => cases hmap
  | ok r' =>
    cases hmap
    exact ⟨r', hs.produces hitem, rfl⟩

lemma Produces.of_mapError {ε' : Type} {f : ε → ε'} {r : Row} (h : (src.mapError f).Produces r) :
    src.Produces r := by
  refine h.of_invariant src.Reachable src.Produces .start fun s hs => ⟨hs.pull, fun r hr => ?_⟩
  obtain ⟨item, hitem, hmap⟩ := Option.map_eq_some_iff.mp hr
  cases item with
  | error e => cases hmap
  | ok r' =>
    cases hmap
    exact hs.produces hitem

lemma reachable_filterPull {keep : Row → Except ε Bool} {s : src.State}
    (h : src.Reachable s) :
    src.Reachable (filterPull src keep s).state ∧
      ∀ r, (filterPull src keep s).item = some (.ok r) → src.Produces r := by
  fun_induction filterPull src keep s with
  | case1 s p r hp hk =>
    exact ⟨h.pull, fun r' hr' => h.produces hr'⟩
  | case2 s p r hp hk rest ih => exact ih h.pull
  | case3 s p r hp e hk => exact ⟨h.pull, by simp⟩
  | case4 s p hp => exact ⟨h.pull, fun r hr => absurd hr (hp r)⟩

lemma Produces.of_filter {keep : Row → Except ε Bool} {r : Row}
    (h : (src.filter keep).Produces r) : src.Produces r :=
  h.of_invariant src.Reachable src.Produces .start fun _ hs => reachable_filterPull hs

lemma Produces.of_take {n : Nat} {r : Row} (h : (src.take n).Produces r) : src.Produces r := by
  refine h.of_invariant (fun s => src.Reachable s.source) src.Produces .start ?_
  rintro ⟨s, count⟩ hs
  rcases Nat.lt_or_ge count n with hlt | hfull
  · rw [src.pull_take_of_lt hlt s]
    exact ⟨hs.pull, fun r hr => hs.produces hr⟩
  · have hpull : (src.take n).pull ⟨s, count⟩ = ⟨none, ⟨s, count⟩, []⟩ := if_pos hfull
    rw [hpull]
    exact ⟨hs, by simp⟩

section Expand

variable {f : Row → List Row} {note : Nat → List Log.Entry}

/-- The pending rows of an expanding source replace rows of the other one. -/
def Replacing (f : Row → List Row) (s : Expanded src.State) : Prop :=
  src.Reachable s.source ∧ ∀ r ∈ s.pending, ∃ r', src.Produces r' ∧ r ∈ f r'

lemma replacing_expandPull {s : Expanded src.State} (h : Replacing f s) :
    Replacing f (expandPull src f note s).state ∧
      ∀ r, (expandPull src f note s).item = some (.ok r) → ∃ r', src.Produces r' ∧ r ∈ f r' := by
  fun_induction expandPull src f note s with
  | case1 s r rest hs =>
    obtain ⟨hsource, hpending⟩ := h
    rw [hs] at hpending
    refine ⟨⟨hsource, fun r' hr' => hpending r' (List.mem_cons_of_mem _ hr')⟩, fun r' hr' => ?_⟩
    cases hr'
    exact hpending r (by simp)
  | case2 s hs p hp => exact ⟨⟨h.1.pull, by simp⟩, by simp⟩
  | case3 s hs p e hp => exact ⟨⟨h.1.pull, by simp⟩, by simp⟩
  | case4 s hs p r hp rest ih =>
    exact ih ⟨h.1.pull, fun r' hr' => ⟨r, h.1.produces hp, hr'⟩⟩

lemma Produces.of_expand {most : Nat} {length_le : ∀ r, (f r).length ≤ most} {r : Row}
    (h : (src.expand f note most length_le).Produces r) : ∃ r', src.Produces r' ∧ r ∈ f r' :=
  h.of_invariant (Replacing f) (fun r => ∃ r', src.Produces r' ∧ r ∈ f r')
    ⟨.start, by simp [expand]⟩ fun _ hs => replacing_expandPull hs

end Expand

section Gather

variable {arrange : List Row → Except ε (List Row)} {note : List Row → List Log.Entry}

/-- The row is one of some rows of the source in their new arrangement. -/
def Arranged (src : Source ε) (arrange : List Row → Except ε (List Row)) (r : Row) : Prop :=
  ∃ rows arranged, (∀ r' ∈ rows, src.Produces r') ∧ arrange rows = .ok arranged ∧ r ∈ arranged

/-- The rows that are ready are rows of the source in their new arrangement. -/
def Arranging (arrange : List Row → Except ε (List Row)) (s : Gathered src.State) : Prop :=
  src.Reachable s.source ∧ ∀ rows ∈ s.ready, ∀ r ∈ rows, src.Arranged arrange r

lemma arranging_yieldPull {s : src.State} {log : List Log.Entry} {rows : List Row}
    (hs : src.Reachable s) (h : ∀ r ∈ rows, src.Arranged arrange r) :
    Arranging arrange (yieldPull s log rows : Pull ε _).state ∧
      ∀ r, (yieldPull s log rows : Pull ε _).item = some (.ok r) → src.Arranged arrange r := by
  cases rows with
  | nil => exact ⟨⟨hs, by simp [yieldPull]⟩, by simp [yieldPull]⟩
  | cons r rows =>
    refine ⟨⟨hs, fun rows' hrows' r' hr' => ?_⟩, fun r' hr' => ?_⟩
    · cases hrows'
      exact h r' (List.mem_cons_of_mem _ hr')
    · cases hr'
      exact h r (by simp)

lemma arranging_gatherPull {s : Gathered src.State} (h : Arranging arrange s) :
    Arranging arrange (gatherPull src arrange note s).state ∧
      ∀ r, (gatherPull src arrange note s).item = some (.ok r) → src.Arranged arrange r := by
  obtain ⟨hsource, hready⟩ := h
  obtain ⟨hstate, hrows⟩ := reachable_drain hsource
  rw [gatherPull]
  split
  · rename_i rows hsome
    exact arranging_yieldPull hsource (hready rows hsome)
  · dsimp only
    split
    · exact ⟨⟨hstate, by simp⟩, by simp⟩
    · rename_i rows hok
      split
      · exact ⟨⟨hstate, by simp⟩, by simp⟩
      · rename_i arranged harranged
        exact arranging_yieldPull hstate fun r hr => ⟨rows, arranged, hrows rows hok, harranged, hr⟩

lemma Produces.of_gather {length_le : ∀ rows arranged, arrange rows = .ok arranged →
      arranged.length ≤ rows.length} {r : Row}
    (h : (src.gather arrange note length_le).Produces r) : src.Arranged arrange r :=
  h.of_invariant (Arranging arrange) (src.Arranged arrange) ⟨.start, by simp [gather]⟩
    fun _ hs => arranging_gatherPull hs

end Gather

end CsvQuery.Source
