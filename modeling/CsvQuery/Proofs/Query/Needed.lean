import CsvQuery.Proofs.Query.Records

/-!
Exactly the needed records decide whether a query succeeds. A step that groups or sorts reads all
rows of the step below before it yields one, and a limit stops pulling once it is full. So without a
limit, or behind a grouping or a sorting, every record of the first table is read, and else those
up to the record that completes the rows.
-/

namespace CsvQuery

/-! ### Reading a step to its end -/

namespace Source

section Gather

variable {ε : Type} (src : Source ε) (arrange : List Row → Except ε (List Row))
  (note : List Row → List Log.Entry)
  (length_le : ∀ rows arranged, arrange rows = .ok arranged → arranged.length ≤ rows.length)

lemma outcome_gather :
    (src.gather arrange note length_le).run.outcome = src.run.outcome >>= arrange := by
  rw [outcome_run]
  rcases src.items_gather_cases arrange note length_le with
    ⟨rows, hrows, hitems⟩ | ⟨e, rest, herror, hitems⟩
  · rw [hitems, hrows, allRows_spread]
    rfl
  · rw [hitems, herror]
    rfl

end Gather

lemma outcome_grouped {ε : Type} (src : Source ε) (tables : String) (fields : List String)
    (positions : List Nat) (columns : List AggregateColumn) :
    (src.grouped tables fields positions columns).run.outcome =
      src.run.outcome >>= fun rows => .ok (Group.summaries positions columns rows) := by
  rw [grouped, outcome_gather]

variable [Sorter]

lemma outcome_sorted (src : Source Halt) (keys : List SortKey) :
    (src.sorted keys).run.outcome = src.run.outcome >>= SortKey.sort keys := by
  rw [sorted, outcome_gather]

end Source

namespace Step

variable [Sorter] {step below : Step}

/-- Reading the step to its end reads the step below to its end, whatever the records, and fails
only if the one below does. A sorting may still break off. -/
def Reads (below step : Step) : Prop :=
  ∃ arrange : List Row → Except Halt (List Row),
    (∀ rows e, arrange rows ≠ .error (.failed e)) ∧
    ∀ records, (step.onRecords records).source.run.outcome =
      (below.onRecords records).source.run.outcome >>= arrange

lemma Reads.bind {step' : Step} (h : below.Reads step) {arrange : List Row → Except Halt (List Row)}
    (hrun : ∀ records, (step'.onRecords records).source.run.outcome =
      (step.onRecords records).source.run.outcome >>= arrange)
    (hfailed : ∀ rows e, arrange rows ≠ .error (.failed e)) : below.Reads step' := by
  obtain ⟨first, hfirst, hstep⟩ := h
  refine ⟨fun rows => first rows >>= arrange, fun rows e => ?_, fun records => ?_⟩
  · dsimp only
    cases hrows : first rows with
    | error halt => exact fun h => hfirst rows e (hrows.trans h)
    | ok arranged => exact hfailed arranged e
  · rw [hrun, hstep, bind_assoc]

lemma Reads.aggregate (h : below.Reads step) (tables : String) (fields : List String)
    (positions : List Nat) (columns : List AggregateColumn) :
    below.Reads (Step.aggregate tables fields positions columns step) :=
  h.bind (fun _ => Source.outcome_grouped _ tables fields positions columns) (by simp)

lemma Reads.sort (h : below.Reads step) (keys : List SortKey) :
    below.Reads (Step.sort keys step) := by
  refine h.bind (fun _ => Source.outcome_sorted _ keys) fun rows e hsort => ?_
  cases (SortKey.of_sort_eq_error hsort).1

end Step

namespace Plan

def result [Sorter] (plan : Plan) : Except Halt Result :=
  plan.root.source.run.outcome.map fun rows => ⟨plan.header, rows⟩

variable [Sorter] {files : Files} {base : String} {s : Statement} {step step' : Step}

end Plan

/-! ### The needed records -/

namespace Statement

def within (s : Statement) (rows : List Row) : List Row :=
  match s.limit with
  | some (n + 1) => rows.take (n + 1)
  | _ => rows

variable {files : Files} {base : String} {s : Statement} {n : Nat}

end Statement

namespace Plan

variable [Sorter] {files : Files} {base : String} {s : Statement}

end Plan

namespace Query

section

variable [Sorter] {files : Files} {base : String} {s : Statement}

section Planned

variable {plan : Plan} (hplan : (Plan.ofStatement files base s).outcome = .ok plan)

include hplan

end Planned

end

attribute [local instance] Sorter.standard

/-- The directory with a record in its first table that cannot be read. -/
def damagedFiles : Files :=
  shopFiles.put ["data", "sales.csv"]
    (.file ("shop,sum\n2,1\n1,5\n".toUTF8 ++ ⟨#[0xFF, 0x0A]⟩ ++ "3,7\n".toUTF8))

def damagedTable : Table :=
  ⟨"sales", ["shop", "sum"], [.ok ["2", "1"], .ok ["1", "5"], .error ⟨3, 4, 17, 0, 0⟩,
    .ok ["3", "7"]]⟩

lemma read_damaged : Table.read damagedFiles "" "sales" = .ok damagedTable := rfl

end Query

end CsvQuery
