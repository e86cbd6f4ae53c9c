import CsvQuery.Source
import Mathlib.Tactic.Common

/-!
Sources as lists. What the pulls of a source yield one after the other is a list of rows and errors;
reading the source to its end gives the rows in front of the first error, and every source made of
another one has a list that is made of the other one's.
-/

namespace CsvQuery.Source

variable {ε : Type}

/-- All rows of a list, or its first error. -/
def allRows : List (Except ε Row) → Except ε (List Row)
  | [] => .ok []
  | .error e :: _ => .error e
  | .ok r :: rest => (allRows rest).map (r :: ·)

@[simp] lemma allRows_map_ok (rows : List Row) :
    (allRows (rows.map .ok) : Except ε (List Row)) = .ok rows := by
  induction rows with
  | nil => rfl
  | cons r rows ih => simp [allRows, ih, Except.map]

/-- Rows one by one, or the error in their place. -/
def spread : Except ε (List Row) → List (Except ε Row)
  | .error e => [.error e]
  | .ok rows => rows.map .ok

@[simp] lemma allRows_spread (outcome : Except ε (List Row)) :
    allRows (spread outcome) = outcome := by
  cases outcome with
  | error e => rfl
  | ok rows => exact allRows_map_ok rows

variable (src : Source ε)

lemma pull_induction {p : src.State → Prop}
    (h : ∀ s, ((src.pull s).item.isSome → p (src.pull s).state) → p s) (s : src.State) : p s := by
  induction hn : src.bound s using Nat.strongRecOn generalizing s with
  | ind n ih =>
    subst hn
    exact h s fun hsome => ih _ (src.bound_lt s hsome) _ rfl

/-! ### Reading to the end -/

lemma items_of_none {s : src.State} (h : (src.pull s).item = none) : src.items s = [] := by
  rw [items]
  split <;> simp_all

lemma items_of_some {s : src.State} {item : Except ε Row} (h : (src.pull s).item = some item) :
    src.items s = item :: src.items (src.pull s).state := by
  rw [items]
  split <;> simp_all

lemma items_of_pull {s : src.State} {p : Pull ε src.State} {item : Except ε Row}
    (h : src.pull s = p) (hitem : p.item = some item) :
    src.items s = item :: src.items p.state := by
  subst h
  exact items_of_some src hitem

lemma items_congr {s s' : src.State} (hitem : (src.pull s).item = (src.pull s').item)
    (hstate : (src.pull s).state = (src.pull s').state) : src.items s = src.items s' := by
  cases hp : (src.pull s').item with
  | none => rw [items_of_none src hp, items_of_none src (hitem.trans hp)]
  | some item => rw [items_of_some src hp, items_of_some src (hitem.trans hp), hstate]

/-- **Reading a source gives all of its rows, or its first error.** -/
theorem outcome_drain (s : src.State) : (src.drain s).outcome = allRows (src.items s) := by
  fun_induction drain src s with
  | case1 s p h => rw [items_of_none src h, allRows]
  | case2 s p e h => rw [items_of_some src h, allRows]
  | case3 s p r h rest ih => rw [items_of_some src h, allRows, ← ih]

lemma outcome_run : src.run.outcome = allRows (src.items src.start) :=
  src.outcome_drain src.start

/-! ### Rows one by one -/

lemma items_map (f : Row → Row) (s : src.State) :
    (src.map f).items s = (src.items s).map (·.map f) := by
  induction s using src.pull_induction with
  | h s ih =>
    cases hp : (src.pull s).item with
    | none =>
      have hmap : ((src.map f).pull s).item = none := by simp [Source.map, hp]
      rw [items_of_none _ hmap, items_of_none _ hp]
      rfl
    | some item =>
      have hmap : ((src.map f).pull s).item = some (item.map f) := by simp [Source.map, hp]
      rw [items_of_some _ hmap, items_of_some _ hp, List.map_cons, ← ih (by simp [hp])]
      rfl

lemma items_mapError {ε' : Type} (f : ε → ε') (s : src.State) :
    (src.mapError f).items s = (src.items s).map (·.mapError f) := by
  induction s using src.pull_induction with
  | h s ih =>
    cases hp : (src.pull s).item with
    | none =>
      have hmap : ((src.mapError f).pull s).item = none := by simp [Source.mapError, hp]
      rw [items_of_none _ hmap, items_of_none _ hp]
      rfl
    | some item =>
      have hmap : ((src.mapError f).pull s).item = some (item.mapError f) := by
        simp [Source.mapError, hp]
      rw [items_of_some _ hmap, items_of_some _ hp, List.map_cons, ← ih (by simp [hp])]
      rfl

def kept (keep : Row → Except ε Bool) : Except ε Row → List (Except ε Row)
  | .error e => [.error e]
  | .ok r =>
    match keep r with
    | .ok true => [.ok r]
    | .ok false => []
    | .error e => [.error e]

lemma filterPull_of_ok (keep : Row → Except ε Bool) {s : src.State} {r : Row}
    (hp : (src.pull s).item = some (.ok r)) :
    filterPull src keep s =
      match keep r with
      | .ok true => src.pull s
      | .ok false =>
        let rest := filterPull src keep (src.pull s).state
        { rest with log := (src.pull s).log ++ rest.log }
      | .error e => { src.pull s with item := some (.error e) } := by
  rw [filterPull]
  split
  · rename_i r' h
    obtain rfl : r' = r := by simpa [hp] using h.symm
    rfl
  · rename_i hne
    exact absurd hp (hne r)

lemma filterPull_of_ne_ok (keep : Row → Except ε Bool) {s : src.State}
    (hp : ∀ r, (src.pull s).item ≠ some (.ok r)) : filterPull src keep s = src.pull s := by
  rw [filterPull]
  split <;> simp_all

lemma items_filter (keep : Row → Except ε Bool) (s : src.State) :
    (src.filter keep).items s = (src.items s).flatMap (kept keep) := by
  induction s using src.pull_induction with
  | h s ih =>
    cases hp : (src.pull s).item with
    | none =>
      have hpull : (src.filter keep).pull s = src.pull s :=
        src.filterPull_of_ne_ok keep (by simp [hp])
      have hitem : ((src.filter keep).pull s).item = none := by rw [hpull, hp]
      rw [items_of_none _ hitem, items_of_none src hp]
      rfl
    | some item =>
      have hrest := ih (by simp [hp])
      rw [items_of_some src hp, List.flatMap_cons, ← hrest]
      cases item with
      | error e =>
        have hpull : (src.filter keep).pull s = src.pull s :=
          src.filterPull_of_ne_ok keep (by simp [hp])
        rw [items_of_pull _ hpull hp]
        rfl
      | ok r =>
        have hpull : (src.filter keep).pull s = _ := src.filterPull_of_ok keep hp
        cases hk : keep r with
        | error e =>
          rw [hk] at hpull
          rw [items_of_pull _ hpull rfl, kept, hk]
          rfl
        | ok passes =>
          rw [hk] at hpull
          cases passes with
          | true =>
            rw [items_of_pull _ hpull hp, kept, hk]
            rfl
          | false =>
            -- A row that is left out: the pull is the one from the next state.
            have hitem : ((src.filter keep).pull s).item =
                ((src.filter keep).pull (src.pull s).state).item := by rw [hpull]; rfl
            have hstate : ((src.filter keep).pull s).state =
                ((src.filter keep).pull (src.pull s).state).state := by rw [hpull]; rfl
            rw [kept, hk]
            exact items_congr (src.filter keep) hitem hstate

def expanded (f : Row → List Row) : Except ε Row → List (Except ε Row)
  | .error e => [.error e]
  | .ok r => (f r).map .ok

section Expand

variable (f : Row → List Row) (note : Nat → List Log.Entry)

lemma expandPull_of_ok {s : src.State} {count : Nat} {r : Row}
    (hp : (src.pull s).item = some (.ok r)) :
    expandPull src f note ⟨s, [], count⟩ =
      let rest := expandPull src f note ⟨(src.pull s).state, f r, count⟩
      { rest with log := (src.pull s).log ++ rest.log } := by
  rw [expandPull]
  dsimp only
  split
  · simp_all
  · simp_all
  · rename_i r' h
    obtain rfl : r' = r := by simpa [hp] using h.symm
    rfl

lemma expandPull_of_error {s : src.State} {count : Nat} {e : ε}
    (hp : (src.pull s).item = some (.error e)) :
    expandPull src f note ⟨s, [], count⟩ =
      ⟨some (.error e), ⟨(src.pull s).state, [], count⟩, (src.pull s).log⟩ := by
  rw [expandPull]
  dsimp only
  split <;> simp_all

lemma item_expandPull_of_none {s : src.State} {count : Nat} (hp : (src.pull s).item = none) :
    (expandPull src f note ⟨s, [], count⟩).item = none := by
  rw [expandPull]
  dsimp only
  split <;> simp_all

variable (most : Nat) (length_le : ∀ r, (f r).length ≤ most)

lemma items_expand_pending (s : src.State) (pending : List Row) (count : Nat) :
    ∃ count', (src.expand f note most length_le).items ⟨s, pending, count⟩ =
      pending.map .ok ++ (src.expand f note most length_le).items ⟨s, [], count'⟩ := by
  induction pending generalizing count with
  | nil => exact ⟨count, rfl⟩
  | cons r pending ih =>
    have hpull : (src.expand f note most length_le).pull ⟨s, r :: pending, count⟩ =
        ⟨some (.ok r), ⟨s, pending, count + 1⟩, []⟩ := by
      simp only [Source.expand]
      rw [expandPull]
    obtain ⟨count', h⟩ := ih (count + 1)
    refine ⟨count', ?_⟩
    rw [items_of_pull _ hpull rfl, h]
    rfl

lemma items_expand_source (s : src.State) (count : Nat) :
    (src.expand f note most length_le).items ⟨s, [], count⟩ =
      (src.items s).flatMap (expanded f) := by
  induction s using src.pull_induction generalizing count with
  | h s ih =>
    cases hp : (src.pull s).item with
    | none =>
      rw [items_of_none src hp]
      exact items_of_none _ (src.item_expandPull_of_none f note hp)
    | some item =>
      have hrest := ih (by simp [hp])
      rw [items_of_some src hp, List.flatMap_cons]
      cases item with
      | error e =>
        have hpull : (src.expand f note most length_le).pull ⟨s, [], count⟩ =
            ⟨some (.error e), ⟨(src.pull s).state, [], count⟩, (src.pull s).log⟩ :=
          src.expandPull_of_error f note hp
        rw [items_of_pull _ hpull rfl, hrest]
        rfl
      | ok r =>
        have hpull : (src.expand f note most length_le).pull ⟨s, [], count⟩ = _ :=
          src.expandPull_of_ok f note hp
        obtain ⟨count', hpending⟩ :=
          src.items_expand_pending f note most length_le (src.pull s).state (f r) count
        rw [hrest] at hpending
        exact (items_congr _ (by rw [hpull]; rfl) (by rw [hpull]; rfl)).trans hpending

lemma items_expand (s : src.State) (pending : List Row) (count : Nat) :
    (src.expand f note most length_le).items ⟨s, pending, count⟩ =
      pending.map .ok ++ (src.items s).flatMap (expanded f) := by
  obtain ⟨count', hpending⟩ := src.items_expand_pending f note most length_le s pending count
  rw [hpending, items_expand_source]

end Expand

/-! ### Rows as a whole -/

/-- The first rows of a list and the errors in front of the last one of them. -/
def firstRows : Nat → List (Except ε Row) → List (Except ε Row)
  | 0, _ => []
  | _ + 1, [] => []
  | n + 1, .ok r :: rest => .ok r :: firstRows n rest
  | n + 1, .error e :: rest => .error e :: firstRows (n + 1) rest

lemma firstRows_map_ok (n : Nat) (rows : List Row) :
    (firstRows n (rows.map .ok) : List (Except ε Row)) = (rows.take n).map .ok := by
  induction rows generalizing n with
  | nil => cases n <;> rfl
  | cons r rows ih =>
    cases n with
    | zero => rfl
    | succ n => simp [firstRows, ih]

lemma items_take_of_le {n count : Nat} (h : n ≤ count) (s : src.State) :
    (src.take n).items ⟨s, count⟩ = [] := by
  have hpull : (src.take n).pull ⟨s, count⟩ = ⟨none, ⟨s, count⟩, []⟩ := if_pos h
  have hitem : ((src.take n).pull ⟨s, count⟩).item = none := by rw [hpull]
  exact items_of_none _ hitem

lemma pull_take_of_lt {n count : Nat} (h : count < n) (s : src.State) :
    (src.take n).pull ⟨s, count⟩ =
      ⟨(src.pull s).item, ⟨(src.pull s).state,
        match (src.pull s).item with
        | some (.ok _) => count + 1
        | _ => count⟩, (src.pull s).log⟩ :=
  if_neg (Nat.not_le.mpr h)

lemma items_take (n : Nat) (s : src.State) (count : Nat) :
    (src.take n).items ⟨s, count⟩ = firstRows (n - count) (src.items s) := by
  induction s using src.pull_induction generalizing count with
  | h s ih =>
    by_cases hfull : n ≤ count
    · rw [items_take_of_le src hfull, Nat.sub_eq_zero_of_le hfull, firstRows]
    · obtain ⟨left, hleft⟩ : ∃ left, n - count = left + 1 := ⟨n - count - 1, by omega⟩
      have hpull := src.pull_take_of_lt (Nat.not_le.mp hfull) s
      rw [hleft]
      cases hp : (src.pull s).item with
      | none =>
        have hitem : ((src.take n).pull ⟨s, count⟩).item = none := by rw [hpull, hp]
        rw [items_of_none src hp, items_of_none _ hitem, firstRows]
      | some item =>
        have hrest := ih (by simp [hp])
        rw [items_of_pull _ hpull hp, items_of_some src hp, hp]
        cases item with
        | error e => rw [hrest, firstRows, hleft]
        | ok r =>
          have hless : n - (count + 1) = left := by omega
          rw [hrest, firstRows, hless]

section Gather

variable (arrange : List Row → Except ε (List Row)) (note : List Row → List Log.Entry)
  (length_le : ∀ rows arranged, arrange rows = .ok arranged → arranged.length ≤ rows.length)

lemma items_gather_ready (s : src.State) (rows : List Row) :
    (src.gather arrange note length_le).items ⟨s, some rows⟩ = rows.map .ok := by
  induction rows with
  | nil => exact items_of_none _ rfl
  | cons r rows ih =>
    rw [List.map_cons, ← ih]
    exact items_of_some _ rfl

/-- The first pull reads the other source to its end and then goes on as if the rows had been ready
in their new arrangement. -/
lemma pull_gather {s : src.State} {rows arranged : List Row} (h : allRows (src.items s) = .ok rows)
    (ha : arrange rows = .ok arranged) :
    ((src.gather arrange note length_le).pull ⟨s, none⟩).item =
        ((src.gather arrange note length_le).pull ⟨(src.drain s).state, some arranged⟩).item ∧
      ((src.gather arrange note length_le).pull ⟨s, none⟩).state =
        ((src.gather arrange note length_le).pull ⟨(src.drain s).state, some arranged⟩).state := by
  rw [← outcome_drain] at h
  have hpull : (src.gather arrange note length_le).pull ⟨s, none⟩ =
      yieldPull (src.drain s).state ((src.drain s).log ++ note arranged) arranged := by
    simp only [gather, gatherPull, h, ha]
  rw [hpull]
  cases arranged <;> simp [gather, gatherPull, yieldPull]

lemma pull_gather_of_error {s : src.State} {rows : List Row} {e : ε}
    (h : allRows (src.items s) = .ok rows) (ha : arrange rows = .error e) :
    (src.gather arrange note length_le).pull ⟨s, none⟩ =
      ⟨some (.error e), ⟨(src.drain s).state, some []⟩, (src.drain s).log⟩ := by
  rw [← outcome_drain] at h
  simp only [gather, gatherPull, h, ha]

lemma items_gather {s : src.State} {rows : List Row} (h : allRows (src.items s) = .ok rows) :
    (src.gather arrange note length_le).items ⟨s, none⟩ = spread (arrange rows) := by
  cases ha : arrange rows with
  | error e =>
    have hpull := src.pull_gather_of_error arrange note length_le h ha
    rw [items_of_pull _ hpull rfl, items_gather_ready]
    rfl
  | ok arranged =>
    obtain ⟨hitem, hstate⟩ := src.pull_gather arrange note length_le h ha
    rw [spread, ← src.items_gather_ready arrange note length_le (src.drain s).state]
    exact items_congr _ hitem hstate

end Gather

end CsvQuery.Source
