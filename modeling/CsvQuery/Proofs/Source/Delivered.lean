import CsvQuery.Proofs.Source.Items

/-!
Pulling a source again and again. A source delivers some rows if its pulls yield them one after the
other and the end from then on, however often it is pulled. A source that rearranges the rows of
another one as a whole delivers them in their new arrangement, and one that replaces each of them
by others delivers the others in the order of those they replace.
-/

namespace CsvQuery.Source

variable {ε : Type} (src : Source ε)

def stateAfter (s : src.State) : Nat → src.State
  | 0 => s
  | n + 1 => stateAfter (src.pull s).state n

/-- The pulls from a state yield the rows one after the other, and the end from then on. -/
def Delivers (s : src.State) (rows : List Row) : Prop :=
  ∀ n, (src.pull (src.stateAfter s n)).item = rows[n]?.map .ok

variable {src}

lemma Delivers.congr {s s' : src.State} {rows : List Row} (h : src.Delivers s' rows)
    (hitem : (src.pull s).item = (src.pull s').item)
    (hstate : (src.pull s).state = (src.pull s').state) : src.Delivers s rows := by
  intro n
  cases n with
  | zero => exact hitem.trans (h 0)
  | succ n =>
    rw [stateAfter, hstate]
    exact h (n + 1)

lemma Delivers.pull {s : src.State} {rows : List Row} (h : src.Delivers s rows) :
    (src.pull s).item = rows.head?.map .ok ∧ src.Delivers (src.pull s).state rows.tail := by
  constructor
  · rw [List.head?_eq_getElem?]
    exact h 0
  · intro n
    rw [List.getElem?_tail]
    exact h (n + 1)

/-- Rows are delivered if every pull yields the first of those that a relation gives to the state
and the relation gives the others to the next state. -/
lemma delivers_of_step (R : src.State → List Row → Prop)
    (hstep : ∀ s rows, R s rows →
      (src.pull s).item = rows.head?.map .ok ∧ R (src.pull s).state rows.tail)
    {s : src.State} {rows : List Row} (h : R s rows) : src.Delivers s rows := by
  intro n
  induction n generalizing s rows with
  | zero =>
    rw [← List.head?_eq_getElem?]
    exact (hstep s rows h).1
  | succ n ih =>
    rw [← List.getElem?_tail]
    exact ih (hstep s rows h).2

section Gather

variable {arrange : List Row → Except ε (List Row)} {note : List Row → List Log.Entry}
  {length_le : ∀ rows arranged, arrange rows = .ok arranged → arranged.length ≤ rows.length}

lemma delivers_gather_ready (s : src.State) (rows : List Row) :
    (src.gather arrange note length_le).Delivers ⟨s, some rows⟩ rows := by
  refine delivers_of_step (fun state rows => state = (⟨s, some rows⟩ : Gathered src.State)) ?_ rfl
  rintro _ rows rfl
  cases rows <;> exact ⟨rfl, rfl⟩

/-- **Rows are delivered in their new arrangement**, if the source that they are from can be read to
its end. -/
theorem delivers_gather {s : src.State} {rows arranged : List Row}
    (h : src.items s = rows.map .ok) (ha : arrange rows = .ok arranged) :
    (src.gather arrange note length_le).Delivers ⟨s, none⟩ arranged := by
  have hrows : allRows (src.items s) = .ok rows := by rw [h, allRows_map_ok]
  obtain ⟨hitem, hstate⟩ := src.pull_gather arrange note length_le hrows ha
  exact (delivers_gather_ready _ _).congr hitem hstate

end Gather

section Expand

variable {f : Row → List Row} {note : Nat → List Log.Entry} {most : Nat}
  {length_le : ∀ r, (f r).length ≤ most}

/-- The rows that are still to come from an expanding source: the pending ones, then those that
replace the rows to come from the other source. -/
def Coming (f : Row → List Row) (s : Expanded src.State) (rows : List Row) : Prop :=
  ∃ others, src.Delivers s.source others ∧ rows = s.pending ++ others.flatMap f

lemma Coming.step {s : Expanded src.State} {rows : List Row} (h : Coming f s rows) :
    (expandPull src f note s).item = rows.head?.map .ok ∧
      Coming f (expandPull src f note s).state rows.tail := by
  obtain ⟨others, hothers, rfl⟩ := h
  fun_induction expandPull src f note s generalizing others with
  | case1 s r pending hs =>
    rw [hs]
    exact ⟨rfl, others, hothers, rfl⟩
  | case2 s hs p hp =>
    obtain ⟨hitem, hrest⟩ := hothers.pull
    cases others with
    | nil => exact ⟨by simp [hs], [], hrest, by simp [hs]⟩
    | cons r others => cases hp.symm.trans hitem
  | case3 s hs p e hp =>
    obtain ⟨hitem, -⟩ := hothers.pull
    cases others <;> cases hp.symm.trans hitem
  | case4 s hs p r hp rest ih =>
    obtain ⟨hitem, hrest⟩ := hothers.pull
    cases others with
    | nil => cases hp.symm.trans hitem
    | cons r' others =>
      cases hp.symm.trans hitem
      rw [hs]
      exact ih others hrest

/-- **Rows are replaced in their order.** -/
theorem Delivers.expand {rows : List Row} (h : src.Delivers src.start rows) :
    (src.expand f note most length_le).Delivers (src.expand f note most length_le).start
      (rows.flatMap f) :=
  delivers_of_step (Coming f) (fun _ _ hs => hs.step) ⟨rows, h, rfl⟩

end Expand

end CsvQuery.Source
