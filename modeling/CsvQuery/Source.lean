import CsvQuery.Log
import CsvQuery.Row

/-!
Sources of rows that are pulled one row at a time. A source keeps a state; a pull yields a row, an
error or the end, with a new state and log entries. An error does not end a source: the next pull
goes on behind it. Every source has a bound on the rows and errors that are still to come, so
reading it to its end terminates.
-/

namespace CsvQuery

/-- What one pull yields. The end is no item. -/
structure Pull (ε σ : Type) where
  item : Option (Except ε Row)
  state : σ
  log : List Log.Entry

/-- A source of rows, which may fail with errors of a kind. -/
structure Source (ε : Type) where
  State : Type
  start : State
  pull : State → Pull ε State
  /-- How many rows and errors can still come. -/
  bound : State → Nat
  bound_lt : ∀ s, (pull s).item.isSome → bound (pull s).state < bound s

/-- The end of reading a source: all of its rows, or its first error. The state is the one after
the last pull. -/
structure Drained (ε σ : Type) where
  outcome : Except ε (List Row)
  state : σ
  log : List Log.Entry

namespace Source

variable {ε ε' : Type}

def drain (src : Source ε) (s : src.State) : Drained ε src.State :=
  let p := src.pull s
  match _h : p.item with
  | none => ⟨.ok [], p.state, p.log⟩
  | some (.error e) => ⟨.error e, p.state, p.log⟩
  | some (.ok r) =>
    let rest := src.drain p.state
    ⟨rest.outcome.map (r :: ·), rest.state, p.log ++ rest.log⟩
termination_by src.bound s
decreasing_by exact src.bound_lt s (by simp [p] at _h; simp [_h])

/-- The rows of a source from its start, or its first error. -/
def run (src : Source ε) : Logged ε (List Row) :=
  let d := src.drain src.start
  ⟨d.log, d.outcome⟩

def items (src : Source ε) (s : src.State) : List (Except ε Row) :=
  let p := src.pull s
  match _h : p.item with
  | none => []
  | some item => item :: src.items p.state
termination_by src.bound s
decreasing_by exact src.bound_lt s (by simp [p] at _h; simp [_h])

theorem bound_drain (src : Source ε) (s : src.State) :
    (∀ e, (src.drain s).outcome = .error e → src.bound (src.drain s).state < src.bound s) ∧
    ∀ rows, (src.drain s).outcome = .ok rows → rows.length ≤ src.bound s := by
  fun_induction drain src s with
  | case1 s p h => simp
  | case2 s p e h =>
    refine ⟨fun _ _ => ?_, by simp⟩
    exact src.bound_lt s (by simp [p] at h; simp [h])
  | case3 s p r h rest ih =>
    have lt : src.bound p.state < src.bound s := src.bound_lt s (by simp [p] at h; simp [h])
    constructor
    · intro e he
      cases ho : rest.outcome with
      | error e' =>
        have := ih.1 e' ho
        simp only [rest] at *
        omega
      | ok rows => simp [ho, Except.map] at he
    · intro rows hr
      cases ho : rest.outcome with
      | error e' => simp [ho, Except.map] at hr
      | ok rows' =>
        have := ih.2 rows' ho
        simp only [ho, Except.map, Except.ok.injEq] at hr
        subst hr
        simp only [List.length_cons]
        omega

/-! ### Sources from sources -/

/-- One pull of a filter: pulls until a row passes, and fails where the test fails. -/
def filterPull (src : Source ε) (keep : Row → Except ε Bool) (s : src.State) :
    Pull ε src.State :=
  let p := src.pull s
  match _h : p.item with
  | some (.ok r) =>
    match keep r with
    | .ok true => p
    | .ok false =>
      let rest := filterPull src keep p.state
      { rest with log := p.log ++ rest.log }
    | .error e => { p with item := some (.error e) }
  | _ => p
termination_by src.bound s
decreasing_by exact src.bound_lt s (by simp [p] at _h; simp [_h])

theorem bound_filterPull (src : Source ε) (keep : Row → Except ε Bool) (s : src.State)
    (h : (filterPull src keep s).item.isSome) :
    src.bound (filterPull src keep s).state < src.bound s := by
  fun_induction filterPull src keep s with
  | case1 s p r hp hk => exact src.bound_lt s (by simp only [p] at hp; simp [hp])
  | case2 s p r hp hk rest ih =>
    have lt : src.bound p.state < src.bound s :=
      src.bound_lt s (by simp only [p] at hp; simp [hp])
    exact Nat.lt_trans (ih h) lt
  | case3 s p r hp e hk => exact src.bound_lt s (by simp only [p] at hp; simp [hp])
  | case4 s p hp => exact src.bound_lt s h

/-- The rows that pass a test, and the errors of the test. -/
def filter (src : Source ε) (keep : Row → Except ε Bool) : Source ε where
  State := src.State
  start := src.start
  pull := filterPull src keep
  bound := src.bound
  bound_lt := bound_filterPull src keep

def map (src : Source ε) (f : Row → Row) : Source ε where
  State := src.State
  start := src.start
  pull s :=
    let p := src.pull s
    { p with item := p.item.map (·.map f) }
  bound := src.bound
  bound_lt s h := src.bound_lt s (by simpa using h)

/-- The source with its errors taken for errors of another kind. -/
def mapError (src : Source ε) (f : ε → ε') : Source ε' where
  State := src.State
  start := src.start
  pull s :=
    let p := src.pull s
    ⟨p.item.map (·.mapError f), p.state, p.log⟩
  bound := src.bound
  bound_lt s h := src.bound_lt s (by simpa using h)

/-- A state with the number of rows that were yielded on the way to it. -/
structure Counted (σ : Type) where
  source : σ
  count : Nat

/-- One pull under a limit: the source is not pulled once `n` rows have come. -/
def takePull (src : Source ε) (n : Nat) (s : Counted src.State) : Pull ε (Counted src.State) :=
  if n ≤ s.count then ⟨none, s, []⟩
  else
    let p := src.pull s.source
    let count :=
      match p.item with
      | some (.ok _) => s.count + 1
      | _ => s.count
    ⟨p.item, ⟨p.state, count⟩, p.log⟩

/-- At most the first `n` rows. -/
def take (src : Source ε) (n : Nat) : Source ε where
  State := Counted src.State
  start := ⟨src.start, 0⟩
  pull := takePull src n
  bound s := src.bound s.source
  bound_lt s h := by
    unfold takePull at h ⊢
    split
    · rename_i full; simp [full] at h
    · rename_i full
      simp only [full, if_false] at h
      exact src.bound_lt s.source h

/-- A source that yields every row of a list it makes from all rows of another, once it has read
that one to its end. -/
structure Gathered (σ : Type) where
  source : σ
  /-- The rows still to be yielded, once the other source has been read. -/
  ready : Option (List Row)

def yieldPull {σ : Type} (source : σ) (log : List Log.Entry) : List Row → Pull ε (Gathered σ)
  | [] => ⟨none, ⟨source, some []⟩, log⟩
  | r :: rest => ⟨some (.ok r), ⟨source, some rest⟩, log⟩

/-- One pull of a gathering source. The first one reads the other source to its end; if that
fails, the rows read so far are dropped and the next pull reads on behind the error. If they cannot
be rearranged, that is the last item. -/
def gatherPull (src : Source ε) (arrange : List Row → Except ε (List Row))
    (note : List Row → List Log.Entry) (s : Gathered src.State) : Pull ε (Gathered src.State) :=
  match s.ready with
  | some rows => yieldPull s.source [] rows
  | none =>
    let d := src.drain s.source
    match d.outcome with
    | .error e => ⟨some (.error e), ⟨d.state, none⟩, d.log⟩
    | .ok rows =>
      match arrange rows with
      | .error e => ⟨some (.error e), ⟨d.state, some []⟩, d.log⟩
      | .ok arranged => yieldPull d.state (d.log ++ note arranged) arranged

/-- The rows of a source rearranged as a whole, which must not make them more. What is noted is
about the rearranged rows. -/
def gather (src : Source ε) (arrange : List Row → Except ε (List Row))
    (note : List Row → List Log.Entry)
    (length_le : ∀ rows arranged, arrange rows = .ok arranged → arranged.length ≤ rows.length) :
    Source ε where
  State := Gathered src.State
  start := ⟨src.start, none⟩
  pull := gatherPull src arrange note
  bound s :=
    match s.ready with
    | none => src.bound s.source + 1
    | some rows => rows.length
  bound_lt s h := by
    have hd := src.bound_drain s.source
    unfold gatherPull at h ⊢
    cases hs : s.ready with
    | some rows =>
      simp only [hs] at h ⊢
      cases rows with
      | nil => simp [yieldPull] at h
      | cons r rest => simp [yieldPull]
    | none =>
      simp only [hs] at h ⊢
      cases ho : (src.drain s.source).outcome with
      | error e => simpa [ho] using hd.1 e ho
      | ok rows =>
        have le := hd.2 rows ho
        simp only [ho] at h ⊢
        cases ha : arrange rows with
        | error e => simp
        | ok arranged =>
          have le' := length_le _ _ ha
          simp only [ha] at h ⊢
          cases arranged with
          | nil => simp [yieldPull] at h
          | cons r rest =>
            simp only [List.length_cons] at le'
            simp only [yieldPull]
            omega

/-- The state of a source that puts several rows in the place of one. -/
structure Expanded (σ : Type) where
  source : σ
  pending : List Row
  count : Nat

/-- One pull of an expanding source: the pending rows first, then those of the next row that has
any. The number of rows yielded is noted at the end. -/
def expandPull (src : Source ε) (f : Row → List Row) (note : Nat → List Log.Entry)
    (s : Expanded src.State) : Pull ε (Expanded src.State) :=
  match s.pending with
  | r :: rest => ⟨some (.ok r), ⟨s.source, rest, s.count + 1⟩, []⟩
  | [] =>
    let p := src.pull s.source
    match _h : p.item with
    | none => ⟨none, ⟨p.state, [], s.count⟩, p.log ++ note s.count⟩
    | some (.error e) => ⟨some (.error e), ⟨p.state, [], s.count⟩, p.log⟩
    | some (.ok r) =>
      let rest := expandPull src f note ⟨p.state, f r, s.count⟩
      { rest with log := p.log ++ rest.log }
termination_by (src.bound s.source, s.pending.length)
decreasing_by exact .left _ _ (src.bound_lt s.source (by simp only [p] at _h; simp [_h]))

theorem bound_expandPull (src : Source ε) (f : Row → List Row) (note : Nat → List Log.Entry)
    (most : Nat) (length_le : ∀ r, (f r).length ≤ most) (s : Expanded src.State)
    (h : (expandPull src f note s).item.isSome) :
    (expandPull src f note s).state.pending.length +
        src.bound (expandPull src f note s).state.source * (most + 1) <
      s.pending.length + src.bound s.source * (most + 1) := by
  fun_induction expandPull src f note s with
  | case1 s r rest hs => simp [hs]
  | case2 s hs p hp => simp at h
  | case3 s hs p e hp =>
    have lt : src.bound p.state < src.bound s.source :=
      src.bound_lt s.source (by simp only [p] at hp; simp [hp])
    have := Nat.mul_le_mul_right (most + 1) (Nat.succ_le_of_lt lt)
    simp only [hs, List.length_nil, Nat.zero_add, Nat.succ_mul] at this ⊢
    omega
  | case4 s hs p r hp rest ih =>
    have lt : src.bound p.state < src.bound s.source :=
      src.bound_lt s.source (by simp only [p] at hp; simp [hp])
    have := Nat.mul_le_mul_right (most + 1) (Nat.succ_le_of_lt lt)
    have le := length_le r
    have := ih h
    simp only [hs, List.length_nil, Nat.zero_add, Nat.succ_mul, rest] at *
    omega

/-- Every row replaced by the rows that `f` makes of it, at most `most` for each. -/
def expand (src : Source ε) (f : Row → List Row) (note : Nat → List Log.Entry) (most : Nat)
    (length_le : ∀ r, (f r).length ≤ most) : Source ε where
  State := Expanded src.State
  start := ⟨src.start, [], 0⟩
  pull := expandPull src f note
  bound s := s.pending.length + src.bound s.source * (most + 1)
  bound_lt := bound_expandPull src f note most length_le

end Source

end CsvQuery
