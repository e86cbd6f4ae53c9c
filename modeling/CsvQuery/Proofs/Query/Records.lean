import CsvQuery.Proofs.Query.Execution
import CsvQuery.Proofs.Query.Planned
import CsvQuery.Proofs.Source.Needed

/-!
The first table of a statement record by record. Planning reads all records of the joined tables but
only the header of the first one, so the steps of a plan can stand over any records. Up to the WHERE
clause each record makes its rows without the others, and an unreadable one makes an error.
-/

namespace CsvQuery

namespace Origin

def first : Origin → String
  | table name => name
  | join _ left _ _ => left.first

def joined : Origin → List String
  | table _ => []
  | join _ left right _ => left.joined ++ [right]

/-- The tables, joined from left to right, with the given rows in the place of the first one's. -/
def relationOf (files : Files) (base : String) (rows : List Row) : Origin → Relation
  | table name => ⟨(Relation.ofName files base name).schema, rows⟩
  | join _ left right condition =>
    match joinSides right condition with
    | some (a, b) => (left.relationOf files base rows).join (.ofName files base right) a b
    | none => ⟨.empty, []⟩

variable {files : Files} {base : String}

end Origin

namespace Statement

variable (files : Files) (base : String) (s : Statement)

/-- The joined rows that a record of the first table makes and that pass the WHERE clause. -/
def made : Except Undecodable (List String) → List Row
  | .error _ => []
  | .ok cells =>
    (s.origin.relationOf files base
      [Row.fit cells (Relation.ofName files base s.origin.first).schema.width]).rows.filter
        (s.passes files base)

end Statement

namespace Step

def onRecords (records : List (Except Undecodable (List String))) : Step → Step
  | scan t => scan { t with records }
  | join kind table right position step => join kind table right position (step.onRecords records)
  | filter e schema step => filter e schema (step.onRecords records)
  | aggregate tables fields positions columns step =>
    aggregate tables fields positions columns (step.onRecords records)
  | sort keys step => sort keys (step.onRecords records)
  | limit most step => limit most (step.onRecords records)
  | project header positions step => project header positions (step.onRecords records)

end Step

/-- What is made of a record: its rows, or the error that it cannot be read. -/
def Table.chunk (t : Table) (made : List String → List Row) :
    Except Undecodable (List String) → Except Halt (List Row)
  | .error cause => .error (.failed (.unreadableTable t.name cause))
  | .ok cells => .ok (made cells)

namespace Step

variable [Sorter]

/-- Over any records the step yields what is made of each of them, and the errors of the unreadable
ones where they stand. -/
def Makes (t : Table) (made : List String → List Row) (step : Step) : Prop :=
  ∀ records, (step.onRecords records).source.items (step.onRecords records).source.start =
    records.flatMap fun record => Source.spread (t.chunk made record)

variable {t : Table} {made : List String → List Row} {step : Step}

lemma Makes.join (h : step.Makes t made) (kind : JoinKind) (table : String) (right : Buckets)
    (position : Nat) :
    (Step.join kind table right position step).Makes t
      fun cells => (made cells).flatMap (joined right position) := by
  intro records
  have hitems := (step.onRecords records).source.items_joined table right position
  rw [h records, List.flatMap_assoc] at hitems
  refine hitems.trans (List.flatMap_congr fun record _ => ?_)
  rw [Source.flatMap_expanded_spread]
  cases record <;> rfl

lemma Makes.filter (h : step.Makes t made) {e : Expr} {schema : Schema} {keep : Row → Bool}
    (hkeep : ∀ r, e.passes schema r = .ok (keep r)) :
    (Step.filter e schema step).Makes t fun cells => (made cells).filter keep := by
  intro records
  have hitems := (step.onRecords records).source.items_filter
    (fun r => (e.passes schema r).mapError .failed) (step.onRecords records).source.start
  have hkeep' : ∀ r, (e.passes schema r).mapError Halt.failed = .ok (keep r) :=
    fun r => congrArg (Except.mapError Halt.failed) (hkeep r)
  rw [h records, List.flatMap_assoc] at hitems
  refine hitems.trans (List.flatMap_congr fun record _ => ?_)
  rw [Source.flatMap_kept_spread hkeep']
  cases record <;> rfl

lemma Makes.congr {made' : List String → List Row} (h : step.Makes t made)
    (heq : ∀ cells, made cells = made' cells) : step.Makes t made' := by
  obtain rfl : made = made' := funext heq
  exact h

end Step

namespace Table

end Table

namespace Plan

variable {files : Files} {base : String} {s : Statement} {step step' : Step}

/-- The same plan over a first table that has other records. -/
def onRecords (records : List (Except Undecodable (List String))) (plan : Plan) : Plan :=
  ⟨plan.header, plan.root.onRecords records⟩

section Records

variable {files' : Files} {t : Table} {records : List (Except Undecodable (List String))}

end Records

end Plan

end CsvQuery
