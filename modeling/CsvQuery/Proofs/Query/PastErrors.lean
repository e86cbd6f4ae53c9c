import CsvQuery.Proofs.Query.Partition
import CsvQuery.Proofs.Query.StableOrder
import Mathlib.Data.List.DropRight

/-!
Pulling past errors. A step that reads everything before its first row yields each error of its
source as it meets it, and begins anew behind it. So what it delivers in the end is made of the rows
behind the last error only: these are all rows if no error comes behind one.
-/

namespace CsvQuery.Source

/-! ### Rows and errors -/

variable {ε : Type} (items : List (Except ε Row))

def failures : List ε :=
  items.filterMap fun
    | .error e => some e
    | .ok _ => none

def rowsOf : List Row :=
  items.filterMap Except.toOption

/-- The rows behind the last error. -/
def rowsBehind : List Row :=
  rowsOf (items.rtakeWhile Except.isOk)

/-- No error comes behind a row. -/
def ErrorsFirst : Prop :=
  items.Pairwise fun a b => a.isOk = true → b.isOk = true

variable {items}

lemma failures_map_ok (rows : List Row) : failures (rows.map .ok : List (Except ε Row)) = [] := by
  simp [failures, List.filterMap_map]

lemma failures_append_error (rows : List Row) (e : ε) :
    failures (rows.map .ok ++ .error e :: items) = e :: failures items := by
  have hrows : failures (rows.map .ok : List (Except ε Row)) = [] := failures_map_ok rows
  unfold failures at hrows ⊢
  rw [List.filterMap_append, hrows]
  rfl

lemma rowsOf_map_ok (rows : List Row) : rowsOf (rows.map .ok : List (Except ε Row)) = rows := by
  simp [rowsOf, List.filterMap_map, Function.comp_def, Except.toOption]

lemma rowsBehind_map_ok (rows : List Row) :
    rowsBehind (rows.map .ok : List (Except ε Row)) = rows := by
  have hall : (rows.map .ok : List (Except ε Row)).rtakeWhile Except.isOk = rows.map .ok := by
    refine List.rtakeWhile_eq_self_iff.mpr fun item hitem => ?_
    obtain ⟨r, -, rfl⟩ := List.mem_map.mp hitem
    rfl
  rw [rowsBehind, hall, rowsOf_map_ok]

lemma rowsBehind_append_error (before : List (Except ε Row)) (e : ε) :
    rowsBehind (before ++ .error e :: items) = rowsBehind items := by
  refine congrArg rowsOf ?_
  induction items using List.reverseRecOn with
  | nil =>
    refine List.rtakeWhile_concat_neg Except.isOk before (.error e) ?_
    simp [Except.isOk, Except.toBool]
  | append_singleton items item ih =>
    rw [← List.cons_append, ← List.append_assoc, List.rtakeWhile_concat, List.rtakeWhile_concat, ih]

lemma rowsOf_eq_append (items : List (Except ε Row)) :
    rowsOf items = rowsOf (items.rdropWhile Except.isOk) ++ rowsBehind items := by
  rw [rowsBehind, rowsOf, rowsOf, rowsOf, ← List.filterMap_append,
    List.rdropWhile_append_rtakeWhile]

lemma rowsOf_eq_nil_iff : rowsOf items = [] ↔ ∀ item ∈ items, item.isOk = false := by
  rw [rowsOf, List.filterMap_eq_nil_iff]
  refine forall₂_congr fun item _ => ?_
  cases item <;> simp [Except.toOption, Except.isOk, Except.toBool]

lemma rowsBehind_eq_iff : rowsBehind items = rowsOf items ↔ ErrorsFirst items := by
  rw [rowsOf_eq_append, List.self_eq_append_left, rowsOf_eq_nil_iff]
  constructor
  · intro hbefore
    rw [ErrorsFirst, ← List.rdropWhile_append_rtakeWhile (p := Except.isOk) (l := items),
      List.pairwise_append]
    refine ⟨List.pairwise_of_forall_mem_list fun a ha _ _ hok => ?_,
      List.pairwise_of_forall_mem_list fun _ _ b hb _ => List.mem_rtakeWhile_imp hb,
      fun a ha _ _ hok => ?_⟩
    · cases (hbefore a ha).symm.trans hok
    · cases (hbefore a ha).symm.trans hok
  · intro hfirst item hitem
    have hstart := List.rdropWhile_prefix Except.isOk items
    have hbefore : ErrorsFirst (items.rdropWhile Except.isOk) := hfirst.sublist hstart.sublist
    obtain hnil | ⟨before, last, hlast⟩ := List.eq_nil_or_concat' (items.rdropWhile Except.isOk)
    · rw [hnil] at hitem
      cases hitem
    · -- The last one that is not behind the last error is that error.
      have herror : last.isOk = false := by
        have hnot := List.rdropWhile_last_not Except.isOk items (by simp [hlast])
        simpa [hlast] using hnot
      rw [hlast] at hitem hbefore
      rcases List.mem_append.mp hitem with hmem | hmem
      · have hrow := (List.pairwise_append.mp hbefore).2.2 item hmem last (by simp)
        rw [herror] at hrow
        simpa using hrow
      · rw [List.mem_singleton.mp hmem]
        exact herror

/-! ### Pulls -/

variable {src : Source ε}

/-- The pulls from a state yield the rows and errors one after the other, and the end from then
on. -/
def Answers (src : Source ε) (s : src.State) (items : List (Except ε Row)) : Prop :=
  ∀ n, (src.pull (src.stateAfter s n)).item = items[n]?

lemma Delivers.answers {s : src.State} {rows : List Row} (h : src.Delivers s rows) :
    src.Answers s (rows.map .ok) := by
  intro n
  rw [h n, List.getElem?_map]

lemma Answers.cons {s : src.State} {item : Except ε Row}
    (hitem : (src.pull s).item = some item) (h : src.Answers (src.pull s).state items) :
    src.Answers s (item :: items) := by
  intro n
  cases n with
  | zero => exact hitem
  | succ n => exact h n

lemma eq_map_ok_of_allRows {rows : List Row} (h : allRows items = .ok rows) :
    items = rows.map .ok := by
  induction items generalizing rows with
  | nil =>
    cases h
    rfl
  | cons item items ih =>
    cases item with
    | error e => cases h
    | ok r =>
      rw [allRows] at h
      cases hrest : allRows items with
      | error e =>
        rw [hrest] at h
        cases h
      | ok rest =>
        rw [hrest] at h
        cases h
        rw [ih hrest]
        rfl

lemma items_of_drain_error {s : src.State} {e : ε} (h : (src.drain s).outcome = .error e) :
    ∃ rows : List Row,
      src.items s = rows.map .ok ++ .error e :: src.items (src.drain s).state := by
  fun_induction drain src s with
  | case1 s p hp => cases h
  | case2 s p e' hp =>
    cases h
    exact ⟨[], items_of_some src hp⟩
  | case3 s p r hp rest ih =>
    cases hrest : rest.outcome with
    | error e' =>
      rw [hrest] at h
      cases h
      obtain ⟨rows, hrows⟩ := ih hrest
      exact ⟨r :: rows, by rw [items_of_some src hp, hrows]; rfl⟩
    | ok rows =>
      rw [hrest] at h
      cases h

/-- **Rows that are arranged as a whole begin anew behind each error.** -/
lemma answers_gather (src : Source ε) (arrange : List Row → Except ε (List Row))
    (note : List Row → List Log.Entry)
    (length_le : ∀ rows arranged, arrange rows = .ok arranged → arranged.length ≤ rows.length)
    (s : src.State) :
    (src.gather arrange note length_le).Answers ⟨s, none⟩
      ((failures (src.items s)).map .error ++ spread (arrange (rowsBehind (src.items s)))) := by
  induction hn : src.bound s using Nat.strongRecOn generalizing s with
  | ind n ih =>
    cases ho : (src.drain s).outcome with
    | ok rows =>
      have hitems : src.items s = rows.map .ok :=
        eq_map_ok_of_allRows ((src.outcome_drain s).symm.trans ho)
      rw [hitems, failures_map_ok, rowsBehind_map_ok]
      cases ha : arrange rows with
      | ok arranged => exact (delivers_gather hitems ha).answers
      | error e =>
        have hrows : allRows (src.items s) = .ok rows := by rw [hitems, allRows_map_ok]
        have hpull := src.pull_gather_of_error arrange note length_le hrows ha
        refine Answers.cons (congrArg Pull.item hpull) ?_
        rw [hpull]
        exact (delivers_gather_ready _ []).answers
    | error e =>
      obtain ⟨rows, hitems⟩ := items_of_drain_error ho
      have hless : src.bound (src.drain s).state < n := hn ▸ (src.bound_drain s).1 e ho
      have hpull : (src.gather arrange note length_le).pull ⟨s, none⟩ =
          ⟨some (.error e), ⟨(src.drain s).state, none⟩, (src.drain s).log⟩ := by
        simp only [gather, gatherPull, ho]
      rw [hitems, failures_append_error, rowsBehind_append_error]
      refine Answers.cons (congrArg Pull.item hpull) ?_
      rw [hpull]
      exact ih _ hless _ rfl

/-! ### Sorting and grouping -/

section Sorting

variable [Sorter] {keys : List SortKey} {sorted : List Row} {items : List (Except Halt Row)}

lemma sort_perm_iff (h : SortKey.sort keys (rowsBehind items) = .ok sorted) :
    sorted.Perm (rowsOf items) ↔ ErrorsFirst items := by
  have hperm := SortKey.sort_perm h
  rw [← rowsBehind_eq_iff]
  constructor
  · intro hall
    have hsuffix : rowsBehind items <:+ rowsOf items := ⟨_, (rowsOf_eq_append items).symm⟩
    exact hsuffix.eq_of_length (hperm.symm.trans hall).length_eq
  · intro heq
    rwa [← heq]

/-- **Errors are reported one after the other, and what was read in front of them is dropped.**
Pulled past its errors, a sorting step yields each error of its source and then the rows behind the
last error as they are sorted, and a grouping step yields the errors and then the groups of these
rows; from then on they yield the end. These are all rows of the source if and only if no error
comes behind a row. Where the keys order the rows they are sorted stably, and where they do not, the
sorting keeps the rows or breaks off. -/
theorem answers_past_errors (src : Source Halt) (keys : List SortKey) (tables : String)
    (fields : List String) (positions : List Nat) (columns : List AggregateColumn) :
    (src.sorted keys).Answers (src.sorted keys).start
      ((failures (src.items src.start)).map .error ++
        spread (SortKey.sort keys (rowsBehind (src.items src.start)))) ∧
    (src.grouped tables fields positions columns).Answers
      (src.grouped tables fields positions columns).start
      ((failures (src.items src.start)).map .error ++
        (Group.summaries positions columns (rowsBehind (src.items src.start))).map .ok) ∧
    (rowsBehind (src.items src.start) = rowsOf (src.items src.start) ↔
      ErrorsFirst (src.items src.start)) ∧
    (∀ sorted, SortKey.sort keys (rowsBehind (src.items src.start)) = .ok sorted →
      sorted.Perm (rowsBehind (src.items src.start)) ∧
        (sorted.Perm (rowsOf (src.items src.start)) ↔ ErrorsFirst (src.items src.start))) ∧
    (TransOn (rowsBehind (src.items src.start)) (SortKey.compareAll keys) →
      ∃ sorted, SortKey.sort keys (rowsBehind (src.items src.start)) = .ok sorted ∧
        StableSort (SortKey.compareAll keys) (rowsBehind (src.items src.start)) sorted) :=
  ⟨answers_gather src _ _ _ src.start, answers_gather src _ _ _ src.start, rowsBehind_eq_iff,
    fun _ h => ⟨SortKey.sort_perm h, sort_perm_iff h⟩, SortKey.sort_of_transOn⟩

end Sorting

attribute [local instance] Sorter.standard

/-- A record that cannot be read stands between two that can. -/
def brokenPrices : Table :=
  ⟨"prices", ["price"], [.ok ["2"], .error ⟨2, 3, 8, 0, 0⟩, .ok ["1"]]⟩

def brokenPrice : Halt :=
  .failed (.unreadableTable "prices" ⟨2, 3, 8, 0, 0⟩)

/-- The row in front of the error is in no group, and not among the sorted rows. -/
theorem earlier_rows_dropped :
    (Step.scan brokenPrices).source.items (Step.scan brokenPrices).source.start =
      [.ok ["2"], .error brokenPrice, .ok ["1"]] ∧
    (Step.sort [⟨0, .ascending⟩] (.scan brokenPrices)).source.Answers
      (Step.sort [⟨0, .ascending⟩] (.scan brokenPrices)).source.start
      [.error brokenPrice, .ok ["1"]] ∧
    (Step.aggregate "prices" ["price"] [0] [⟨.count, 1⟩] (.scan brokenPrices)).source.Answers
      (Step.aggregate "prices" ["price"] [0] [⟨.count, 1⟩] (.scan brokenPrices)).source.start
      [.error brokenPrice, .ok ["1", "1"]] ∧
    SortKey.sort [⟨0, .ascending⟩] [["2"], ["1"]] = .ok [["1"], ["2"]] ∧
    Group.summaries [0] [⟨.count, 1⟩] [["2"], ["1"]] = [["2", "1"], ["1", "1"]] := by
  have hitems : (Step.scan brokenPrices).source.items (Step.scan brokenPrices).source.start =
      [.ok ["2"], .error brokenPrice, .ok ["1"]] := by
    refine (brokenPrices.scan.items_mapError Halt.failed brokenPrices.scan.start).trans ?_
    exact congrArg _ (Table.items_scan brokenPrices _ 0)
  have hsorted := answers_gather (Step.scan brokenPrices).source (SortKey.sort [⟨0, .ascending⟩])
    (fun _ => []) (fun _ _ => SortKey.length_le_of_sort) (Step.scan brokenPrices).source.start
  have hgrouped := answers_gather (Step.scan brokenPrices).source
    (fun rows => .ok (Group.summaries [0] [⟨.count, 1⟩] rows)) (Step.groupNote "prices" ["price"])
    (fun rows _ h => by cases h; exact Group.length_summaries_le [0] _ rows)
    (Step.scan brokenPrices).source.start
  have hsort : SortKey.sort [⟨0, .ascending⟩] [["1"]] = .ok [["1"]] := by decide +kernel
  have hgroup : Group.summaries [0] [⟨.count, 1⟩] [["1"]] = [["1", "1"]] := rfl
  have hbehind : rowsBehind [.ok ["2"], .error brokenPrice, .ok ["1"]] = [["1"]] := rfl
  rw [hitems, hbehind, hsort] at hsorted
  rw [hitems, hbehind, hgroup] at hgrouped
  exact ⟨hitems, hsorted, hgrouped, by decide +kernel, rfl⟩

end CsvQuery.Source
