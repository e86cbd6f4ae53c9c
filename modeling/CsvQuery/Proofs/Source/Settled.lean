import CsvQuery.Proofs.Source.Delivered

/-!
Sources that stay at their end. A source settles if a pull that finds the end leads to a state in
which the next one finds it too. Every source that is made of a settling one settles; so what a
settling source yields before its first end is all that it ever delivers.
-/

namespace CsvQuery.Source

variable {ε : Type} {src : Source ε}

/-- The end comes again at every pull behind it. -/
def Settles (src : Source ε) : Prop :=
  ∀ s, (src.pull s).item = none → (src.pull (src.pull s).state).item = none

lemma pull_of_items_cons {s : src.State} {item : Except ε Row} {rest : List (Except ε Row)}
    (h : src.items s = item :: rest) :
    (src.pull s).item = some item ∧ src.items (src.pull s).state = rest := by
  cases hp : (src.pull s).item with
  | none =>
    rw [items_of_none src hp] at h
    cases h
  | some item' =>
    rw [items_of_some src hp] at h
    obtain ⟨rfl, hrest⟩ := List.cons.inj h
    exact ⟨rfl, hrest⟩

lemma pull_of_items_nil {s : src.State} (h : src.items s = []) : (src.pull s).item = none := by
  cases hp : (src.pull s).item with
  | none => rfl
  | some item =>
    rw [items_of_some src hp] at h
    cases h

/-- **A source that settles delivers what it yields before its first end.** -/
theorem Settles.delivers (h : src.Settles) {s : src.State} {rows : List Row}
    (hitems : src.items s = rows.map .ok) : src.Delivers s rows := by
  refine delivers_of_step (fun s rows => src.items s = rows.map .ok) (fun s rows hs => ?_) hitems
  cases rows with
  | nil =>
    have hend := pull_of_items_nil hs
    exact ⟨hend, items_of_none src (h s hend)⟩
  | cons r rows => exact pull_of_items_cons hs

/-! ### Sources from sources -/

lemma Settles.map (h : src.Settles) (f : Row → Row) : (src.map f).Settles := by
  intro s hs
  have hend : (src.pull s).item = none := by simpa [Source.map] using hs
  simp [Source.map, h s hend]

lemma item_filterPull_of_none (keep : Row → Except ε Bool) {s : src.State}
    (hp : (src.pull s).item = none) : (filterPull src keep s).item = none := by
  rw [src.filterPull_of_ne_ok keep (by simp [hp]), hp]

lemma Settles.mapError {ε' : Type} (h : src.Settles) (f : ε → ε') : (src.mapError f).Settles := by
  intro s hs
  have hend : (src.pull s).item = none := by simpa [Source.mapError] using hs
  simp [Source.mapError, h s hend]

lemma Settles.filter (h : src.Settles) (keep : Row → Except ε Bool) :
    (src.filter keep).Settles := by
  intro s hs
  change (filterPull src keep s).item = none at hs
  change (filterPull src keep (filterPull src keep s).state).item = none
  fun_induction filterPull src keep s with
  | case1 s p r hp hk =>
    simp only [p] at hp hs
    rw [hp] at hs
    cases hs
  | case2 s p r hp hk rest ih => exact ih hs
  | case3 s p r hp e hk => cases hs
  | case4 s p hp => exact item_filterPull_of_none keep (h s hs)

lemma Settles.take (h : src.Settles) (n : Nat) : (src.take n).Settles := by
  intro ⟨s, count⟩ hs
  by_cases hfull : n ≤ count
  · have hpull : (src.take n).pull ⟨s, count⟩ = ⟨none, ⟨s, count⟩, []⟩ := if_pos hfull
    rw [hpull]
    exact congrArg Pull.item hpull
  · have hpull := src.pull_take_of_lt (Nat.not_le.mp hfull) s
    rw [hpull] at hs ⊢
    have hend : (src.pull s).item = none := hs
    rw [hend]
    change ((src.take n).pull ⟨(src.pull s).state, count⟩).item = none
    rw [src.pull_take_of_lt (Nat.not_le.mp hfull)]
    exact h s hend

section Gather

variable (arrange : List Row → Except ε (List Row)) (note : List Row → List Log.Entry)
  (length_le : ∀ rows arranged, arrange rows = .ok arranged → arranged.length ≤ rows.length)

lemma settles_gather : (src.gather arrange note length_le).Settles := by
  have hyield : ∀ (source : src.State) (log : List Log.Entry) (rows : List Row),
      (yieldPull source log rows : Pull ε (Gathered src.State)).item = none →
        gatherPull src arrange note (yieldPull source log rows : Pull ε _).state =
          ⟨none, ⟨source, some []⟩, []⟩ := by
    intro source log rows hrows
    cases rows with
    | nil => rfl
    | cons r rows => cases hrows
  intro ⟨s, ready⟩ hs
  change (gatherPull src arrange note ⟨s, ready⟩).item = none at hs
  change (gatherPull src arrange note (gatherPull src arrange note ⟨s, ready⟩).state).item = none
  unfold gatherPull at hs
  rw [gatherPull.eq_def src arrange note ⟨s, ready⟩]
  cases ready with
  | some rows =>
    dsimp only at hs ⊢
    rw [hyield _ _ _ hs]
  | none =>
    dsimp only at hs ⊢
    cases ho : (src.drain s).outcome with
    | error e =>
      rw [ho] at hs
      cases hs
    | ok rows =>
      rw [ho] at hs
      dsimp only at hs ⊢
      cases ha : arrange rows with
      | error e =>
        rw [ha] at hs
        cases hs
      | ok arranged =>
        rw [ha] at hs
        dsimp only at hs ⊢
        rw [hyield _ _ _ hs]

end Gather

section Expand

variable (f : Row → List Row) (note : Nat → List Log.Entry) (most : Nat)
  (length_le : ∀ r, (f r).length ≤ most)

lemma Settles.expand (h : src.Settles) : (src.expand f note most length_le).Settles := by
  intro s hs
  change (expandPull src f note s).item = none at hs
  change (expandPull src f note (expandPull src f note s).state).item = none
  fun_induction expandPull src f note s with
  | case1 s r rest hpending => cases hs
  | case2 s hpending p hp => exact item_expandPull_of_none src f note (h s.source hp)
  | case3 s hpending p e hp => cases hs
  | case4 s hpending p r hp rest ih => exact ih hs

end Expand

end CsvQuery.Source
