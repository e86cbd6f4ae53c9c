import CsvQuery.Proofs.Query.Execution
import CsvQuery.Proofs.Source.Produced

/-!
The layout of rows. What the planner says of a row, the columns that it has and the positions at
which a step looks, is true of every row that the steps ever produce: a row has a cell for each
column of its tables and for each aggregate column behind them, and no step looks beside its rows.
-/

namespace CsvQuery

/-- The positions at which an expression looks. The columns between which BETWEEN compares are never
looked up. -/
def Expr.positions (schema : Schema) : Expr → List Nat
  | literal _ => []
  | column name => (schema.resolve name).toOption.toList
  | qualified table name => (schema.resolveQualified table name).toOption.toList
  | binary _ left right => left.positions schema ++ right.positions schema
  | between e _ _ => e.positions schema
  | among e _ => e.positions schema

namespace Step

def below? : Step → Option Step
  | scan _ => none
  | join _ _ _ _ step | filter _ _ step | aggregate _ _ _ _ step | sort _ step | limit _ step
  | project _ _ step => some step

/-- The step and the steps below it, from the outermost to the scan. -/
def parts : Step → List Step
  | scan t => [scan t]
  | join kind table right position step => join kind table right position step :: step.parts
  | filter e schema step => filter e schema step :: step.parts
  | aggregate tables fields positions columns step =>
    aggregate tables fields positions columns step :: step.parts
  | sort keys step => sort keys step :: step.parts
  | limit most step => limit most step :: step.parts
  | project header positions step => project header positions step :: step.parts

/-- The positions at which a step looks in the rows of the step below it. -/
def reads : Step → List Nat
  | scan _ | limit _ _ => []
  | join _ _ _ position _ => [position]
  | filter e schema _ => e.positions schema
  | aggregate _ _ positions columns _ => positions ++ columns.map (·.position)
  | sort keys _ => keys.map (·.position)
  | project _ positions _ => positions

variable (files : Files) (base : String)

/-- The columns of the tables up to a step, one table after the other. -/
def schema : Step → Schema
  | scan t => t.schema
  | join _ table _ _ step => step.schema.join (Relation.ofName files base table).schema
  | filter _ _ step | aggregate _ _ _ _ step | sort _ step | limit _ step | project _ _ step =>
    step.schema

/-- The number of cells of every row of a step: the width of the columns so far, behind the
grouping also of the aggregate columns, and in the end of the header. -/
def width : Step → Nat
  | scan t => t.schema.width
  | join kind table right position step =>
    ((join kind table right position step).schema files base).width
  | filter _ _ step => (step.schema files base).width
  | aggregate _ _ _ columns step => (step.schema files base).width + columns.length
  | sort _ step | limit _ step => step.width
  | project header _ _ => header.length

/-- The steps are laid out for the columns of their tables, which are `whole` where rows are
grouped. -/
inductive Laid (whole : Schema) : Step → Prop
  | scan (t : Table) : Laid whole (scan t)
  | join {kind : JoinKind} {table : String} {right : Buckets} {position : Nat} {step : Step}
    (h : Laid whole step) (hwidth : step.width files base = (step.schema files base).width)
    (hposition : position < step.width files base)
    (hright : right.position < (Relation.ofName files base table).schema.width)
    (hrows : ∀ r ∈ right.rows, r.length = (Relation.ofName files base table).schema.width) :
    Laid whole (join kind table right position step)
  | filter {e : Expr} {schema : Schema} {step : Step} (h : Laid whole step)
    (hwidth : step.width files base = (step.schema files base).width)
    (hpositions : ∀ p ∈ e.positions schema, p < step.width files base) :
    Laid whole (filter e schema step)
  | aggregate {tables : String} {fields : List String} {positions : List Nat}
    {columns : List AggregateColumn} {step : Step} (h : Laid whole step)
    (hwidth : step.width files base = (step.schema files base).width)
    (hwhole : step.schema files base = whole)
    (hpositions : ∀ p ∈ positions, p < step.width files base)
    (hcolumns : ∀ column ∈ columns, column.position < step.width files base) :
    Laid whole (aggregate tables fields positions columns step)
  | sort {keys : List SortKey} {step : Step} (h : Laid whole step)
    (hkeys : ∀ key ∈ keys, key.position < step.width files base) : Laid whole (sort keys step)
  | limit {most : Nat} {step : Step} (h : Laid whole step) : Laid whole (limit most step)
  | project {header : List String} {positions : List Nat} {step : Step} (h : Laid whole step)
    (hlength : positions.length = header.length)
    (hpositions : ∀ p ∈ positions, p < step.width files base) :
    Laid whole (project header positions step)

end Step

/-! ### Rows -/

lemma Table.length_of_produces {t : Table} {r : Row} (h : t.scan.Produces r) :
    r.length = t.header.length := by
  refine h.of_invariant (fun _ => True) (fun r => r.length = t.header.length) trivial
    fun s _ => ⟨trivial, fun r hr => ?_⟩
  obtain ⟨rest, count⟩ := s
  cases rest with
  | nil => cases hr
  | cons record rest =>
    cases record with
    | error cause => cases hr
    | ok cells =>
      cases hr
      exact Row.length_fit cells t.header.length

lemma Group.mem_summaries {positions : List Nat} {columns : List AggregateColumn}
    {rows : List Row} {r : Row} (h : r ∈ summaries positions columns rows) :
    ∃ first ∈ rows, ∃ results, results.length = columns.length ∧ r = first ++ results := by
  rw [summaries_eq] at h
  obtain ⟨key, hkey, rfl⟩ := List.mem_map.mp h
  obtain ⟨row, hrow, hrowKey⟩ := List.mem_map.mp (List.mem_eraseDups.mp hkey)
  have hmem : row ∈ rows.filter (keyOf positions · == key) :=
    List.mem_filter.mpr ⟨hrow, beq_iff_eq.mpr hrowKey⟩
  obtain ⟨first, later, hmembers⟩ := List.exists_cons_of_ne_nil (List.ne_nil_of_mem hmem)
  have hfirst : first ∈ rows.filter (keyOf positions · == key) := by simp [hmembers]
  refine ⟨first, (List.mem_filter.mp hfirst).1, _, ?_, by rw [rowOf, hmembers]; rfl⟩
  simp

namespace Step

variable {files : Files} {base : String} {whole : Schema} {step : Step}

/-- **Every row of a step has the width of the step.** -/
lemma Laid.length_of_produces [Sorter] (h : step.Laid files base whole) {r : Row}
    (hr : step.source.Produces r) : r.length = step.width files base := by
  induction h generalizing r with
  | scan t =>
    have hlength := Table.length_of_produces (Source.Produces.of_mapError hr)
    simpa [width, Table.schema] using hlength
  | @join kind table right position step h hwidth hposition hright hrows ih =>
    rw [source, Source.joined] at hr
    obtain ⟨l, hl, hmem⟩ := hr.of_expand
    obtain ⟨r', hr', rfl⟩ := List.mem_map.mp hmem
    rw [Buckets.find_eq_filter] at hr'
    have hr'' := hrows r' (List.mem_filter.mp hr').1
    rw [List.length_append, ih hl, hr'', hwidth]
    simp [width, schema]
  | filter h hwidth hpositions ih =>
    rw [ih (Source.Produces.of_filter hr), hwidth]
    rfl
  | aggregate h hwidth hwhole hpositions hcolumns ih =>
    rw [source, Source.grouped] at hr
    obtain ⟨rows, groups, hrows, hgroups, hmem⟩ := hr.of_gather
    cases hgroups
    obtain ⟨first, hfirst, results, hresults, rfl⟩ := Group.mem_summaries hmem
    rw [List.length_append, ih (hrows first hfirst), hresults, hwidth]
    rfl
  | sort h hkeys ih =>
    rw [source, Source.sorted] at hr
    obtain ⟨rows, sorted, hrows, hsorted, hmem⟩ := hr.of_gather
    exact ih (hrows r ((SortKey.sort_perm hsorted).mem_iff.mp hmem))
  | limit h ih => exact ih (Source.Produces.of_take hr)
  | project h hlength hpositions ih =>
    obtain ⟨r', hr', rfl⟩ := Source.Produces.of_map hr
    simpa [Row.project, width] using hlength

/-- **No step looks beside the rows of the step below it.** -/
lemma Laid.lt_width (h : step.Laid files base whole) {below : Step}
    (hbelow : step.below? = some below) {p : Nat} (hp : p ∈ step.reads) :
    p < below.width files base := by
  cases h with
  | scan t => cases hbelow
  | join h hwidth hposition hright hrows =>
    cases hbelow
    obtain rfl := List.mem_singleton.mp hp
    exact hposition
  | filter h hwidth hpositions =>
    cases hbelow
    exact hpositions p hp
  | aggregate h hwidth hwhole hpositions hcolumns =>
    cases hbelow
    rcases List.mem_append.mp hp with hp | hp
    · exact hpositions p hp
    · obtain ⟨column, hcolumn, rfl⟩ := List.mem_map.mp hp
      exact hcolumns column hcolumn
  | sort h hkeys =>
    cases hbelow
    obtain ⟨key, hkey, rfl⟩ := List.mem_map.mp hp
    exact hkeys key hkey
  | limit h => cases hp
  | project h hlength hpositions =>
    cases hbelow
    exact hpositions p hp

lemma Laid.of_below (h : step.Laid files base whole) {below : Step}
    (hbelow : step.below? = some below) : below.Laid files base whole := by
  cases h <;> cases hbelow <;> assumption

lemma mem_parts {part : Step} :
    part ∈ step.parts ↔ part = step ∨ ∃ below, step.below? = some below ∧ part ∈ below.parts := by
  cases step <;> simp [parts, below?]

lemma Laid.of_mem_parts (h : step.Laid files base whole) {part : Step} (hpart : part ∈ step.parts) :
    part.Laid files base whole := by
  induction step with
  | scan t =>
    obtain rfl := List.mem_singleton.mp hpart
    exact h
  | _ =>
    rename_i step ih
    rcases mem_parts.mp hpart with rfl | ⟨below, hbelow, hpart⟩
    · exact h
    · cases hbelow
      exact ih (h.of_below rfl) hpart

lemma below_mem_parts {part below : Step} (hpart : part ∈ step.parts)
    (hbelow : part.below? = some below) : below ∈ step.parts := by
  induction step with
  | scan t =>
    obtain rfl := List.mem_singleton.mp hpart
    cases hbelow
  | _ =>
    rename_i step ih
    refine mem_parts.mpr (.inr ⟨step, rfl, ?_⟩)
    rcases mem_parts.mp hpart with rfl | ⟨below', hbelow', hpart⟩
    · cases hbelow
      exact mem_parts.mpr (.inl rfl)
    · cases hbelow'
      exact ih hpart

end Step

end CsvQuery
