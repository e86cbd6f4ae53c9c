import CsvQuery.Plan.Step
import CsvQuery.Proofs.Source.Items

/-!
What the steps of a plan yield, as operations on lists of rows.
-/

namespace CsvQuery

namespace Table

def scanned (t : Table) : Except Undecodable (List String) → Except Error Row
  | .error cause => .error (.unreadableTable t.name cause)
  | .ok cells => .ok (Row.fit cells t.header.length)

lemma items_scan (t : Table) (records : List (Except Undecodable (List String)))
    (count : Nat) : t.scan.items ⟨records, count⟩ = records.map t.scanned := by
  induction records generalizing count with
  | nil => exact Source.items_of_none _ rfl
  | cons record records ih =>
    cases record with
    | error cause =>
      rw [List.map_cons, ← ih count]
      exact Source.items_of_some _ rfl
    | ok cells =>
      rw [List.map_cons, ← ih (count + 1)]
      exact Source.items_of_some _ rfl

lemma outcome_run_scan (t : Table) :
    t.scan.run.outcome = Source.allRows (t.records.map t.scanned) := by
  rw [← t.items_scan t.records 0]
  exact t.scan.outcome_run

def fault? (t : Table) : Option Undecodable :=
  t.records.findSome? fun record =>
    match record with
    | .ok _ => none
    | .error cause => some cause

lemma run_scan_cases (t : Table) :
    (t.fault? = none ∧ ∃ rows, t.scan.run.outcome = .ok rows) ∨
      ∃ cause, t.fault? = some cause ∧
        t.scan.run.outcome = .error (.unreadableTable t.name cause) := by
  rw [outcome_run_scan, fault?]
  generalize t.records = records
  induction records with
  | nil => exact .inl ⟨rfl, [], rfl⟩
  | cons record records ih =>
    cases record with
    | error cause => exact .inr ⟨cause, rfl, rfl⟩
    | ok cells =>
      rw [List.map_cons, scanned, Source.allRows, List.findSome?_cons]
      rcases ih with ⟨hnone, rows, hrows⟩ | ⟨cause, hsome, herror⟩
      · rw [hrows]
        exact .inl ⟨hnone, _, rfl⟩
      · rw [herror]
        exact .inr ⟨cause, hsome, rfl⟩

end Table

namespace Source

variable {ε : Type}

lemma items_joined (src : Source ε) (table : String) (right : Buckets) (position : Nat) :
    (src.joined table right position).items (src.joined table right position).start =
      (src.items src.start).flatMap (expanded (Step.joined right position)) :=
  src.items_expand _ _ _ (Step.length_joined_le right position) src.start [] 0

variable {rows : List Row}

lemma items_grouped {src : Source ε} (h : src.items src.start = rows.map .ok) (tables : String)
    (fields : List String) (positions : List Nat) (columns : List AggregateColumn) :
    (src.grouped tables fields positions columns).items
        (src.grouped tables fields positions columns).start =
      (Group.summaries positions columns rows).map .ok := by
  unfold grouped
  exact src.items_gather _ _ _ (by rw [h, allRows_map_ok])

lemma items_sorted [Sorter] {src : Source Halt} (h : src.items src.start = rows.map .ok)
    (keys : List SortKey) :
    (src.sorted keys).items (src.sorted keys).start = spread (SortKey.sort keys rows) := by
  unfold sorted
  exact src.items_gather _ _ _ (by rw [h, allRows_map_ok])

end Source

namespace Step

variable [Sorter]

/-- The step yields the rows one after the other, without an error. -/
def Yields (step : Step) (rows : List Row) : Prop :=
  step.source.items step.source.start = rows.map .ok

lemma Yields.outcome_run {step : Step} {rows : List Row} (h : step.Yields rows) :
    step.source.run.outcome = .ok rows := by
  rw [Source.outcome_run, h, Source.allRows_map_ok]

variable {step : Step} {rows : List Row}

lemma yields_scan {t : Table} (h : t.records.map t.scanned = rows.map .ok) :
    (scan t).Yields rows := by
  have hitems : t.scan.items t.scan.start = rows.map .ok := (t.items_scan t.records 0).trans h
  refine (t.scan.items_mapError Halt.failed t.scan.start).trans ?_
  rw [hitems, List.map_map]
  rfl

lemma Yields.join (h : step.Yields rows) (kind : JoinKind) (table : String) (right : Buckets)
    (position : Nat) :
    (Step.join kind table right position step).Yields (rows.flatMap (joined right position)) := by
  refine (step.source.items_joined table right position).trans ?_
  rw [h, List.flatMap_map, List.map_flatMap]
  rfl

lemma Yields.filter (h : step.Yields rows) {e : Expr} {schema : Schema} {keep : Row → Bool}
    (hkeep : ∀ r ∈ rows, e.passes schema r = .ok (keep r)) :
    (Step.filter e schema step).Yields (rows.filter keep) := by
  have hitems := step.source.items_filter (fun r => (e.passes schema r).mapError .failed)
    step.source.start
  rw [h] at hitems
  refine hitems.trans ?_
  clear hitems h
  induction rows with
  | nil => rfl
  | cons r rows ih =>
    have hrest := ih fun r hr => hkeep r (List.mem_cons_of_mem _ hr)
    have hr := hkeep r (by simp)
    rw [List.map_cons, List.flatMap_cons, hrest, List.filter_cons, Source.kept, hr]
    cases keep r <;> rfl

lemma Yields.aggregate (h : step.Yields rows) (tables : String) (fields : List String)
    (positions : List Nat) (columns : List AggregateColumn) :
    (Step.aggregate tables fields positions columns step).Yields
      (Group.summaries positions columns rows) :=
  Source.items_grouped h tables fields positions columns

lemma Yields.sort (h : step.Yields rows) {keys : List SortKey} {sorted : List Row}
    (hsort : SortKey.sort keys rows = .ok sorted) : (Step.sort keys step).Yields sorted := by
  refine (Source.items_sorted h keys).trans ?_
  rw [hsort]
  rfl

lemma Yields.limit (h : step.Yields rows) (most : Nat) :
    (Step.limit most step).Yields (rows.take most) := by
  have hitems := step.source.items_take most step.source.start 0
  rw [h, Nat.sub_zero, Source.firstRows_map_ok] at hitems
  exact hitems

lemma Yields.project (h : step.Yields rows) (header : List String) (positions : List Nat) :
    (Step.project header positions step).Yields (rows.map (Row.project · positions)) := by
  have hitems := step.source.items_map (Row.project · positions) step.source.start
  rw [h, List.map_map] at hitems
  refine hitems.trans ?_
  rw [List.map_map]
  rfl

end Step

end CsvQuery
