import CsvQuery.Proofs.Query.Layout
import CsvQuery.Proofs.Query.Planned

/-!
Plans are laid out. Names are resolved to positions among the columns so far, and each clause puts
its step on rows that have those columns, so the rows of a plan have the layout that its steps say.
-/

namespace CsvQuery

/-! ### Positions -/

namespace Schema

variable {schema : Schema} {name : String} {p : Nat}

lemma lt_width_of_findIdx? {test : Column → Bool} (h : schema.columns.findIdx? test = some p) :
    p < schema.width := by
  obtain ⟨hlt, -, -⟩ := List.findIdx?_eq_some_iff_getElem.mp h
  exact schema.length_columns ▸ hlt

lemma lt_width_of_resolve (h : schema.resolve name = .ok p) : p < schema.width :=
  lt_width_of_findIdx? (findIdx?_of_resolve h)

lemma lt_width_of_resolveQualified {table : String}
    (h : schema.resolveQualified table name = .ok p) : p < schema.width :=
  lt_width_of_findIdx? (findIdx?_of_resolveQualified h)

end Schema

lemma Expr.lt_width_of_mem_positions {schema : Schema} {e : Expr} {p : Nat}
    (h : p ∈ e.positions schema) : p < schema.width := by
  have hmem : ∀ {x : Except Error Nat}, p ∈ x.toOption.toList → x = .ok p := by
    intro x hx
    cases x with
    | error e => cases hx
    | ok q =>
      obtain rfl := List.mem_singleton.mp hx
      rfl
  induction e with
  | literal l => cases h
  | column name => exact Schema.lt_width_of_resolve (hmem h)
  | qualified table name => exact Schema.lt_width_of_resolveQualified (hmem h)
  | binary op left right ihl ihr => exact (List.mem_append.mp h).elim ihl ihr
  | between e lower upper ih => exact ih h
  | among e candidates ih => exact ih h

lemma Table.relation_of_bucketed {t : Table} {field : String} {buckets : Buckets}
    (h : (t.bucketed field).outcome = .ok buckets) :
    buckets.position < t.schema.width ∧ ∀ r ∈ buckets.rows, r.length = t.schema.width := by
  obtain ⟨position, rows, hposition, hrows, rfl⟩ := bucketed_cases h
  refine ⟨Schema.lt_width_of_resolveQualified hposition, fun r hr => ?_⟩
  have hlength := Table.length_of_produces (Source.produces_of_run hrows r hr)
  simpa [schema] using hlength

namespace Plan

variable {files : Files} {base : String} {s : Statement} {whole : Schema} {step step' : Step}

/-- The rows of a laid out step have a cell for each column of its tables and no more. -/
structure Flat (files : Files) (base : String) (whole schema : Schema) (step : Step) : Prop where
  laid : step.Laid files base whole
  columns : step.schema files base = schema
  width : step.width files base = schema.width

lemma ofOrigin_flat {origin : Origin} {schema : Schema}
    (h : (ofOrigin files base origin).outcome = .ok (step, schema)) :
    Flat files base whole schema step ∧ schema = (origin.relation files base).schema := by
  induction origin generalizing step schema with
  | table name =>
    obtain ⟨t, ht, rfl, rfl⟩ := ofOrigin_table_cases h
    refine ⟨⟨.scan t, rfl, rfl⟩, ?_⟩
    rw [Origin.relation, Relation.ofName_of_read ht]
    rfl
  | join kind left right condition ih =>
    obtain ⟨leftStep, leftSchema, op, a, field, position, t, buckets, hleft, hjoin, ha, ht,
      hbuckets, rfl, rfl⟩ := ofOrigin_join_cases h
    obtain ⟨⟨hlaid, hcolumns, hwidth⟩, hschema⟩ := ih hleft
    have hname : (Relation.ofName files base right).schema = t.schema := by
      rw [Relation.ofName_of_read ht]
      rfl
    obtain ⟨hkey, hrows⟩ := Table.relation_of_bucketed hbuckets
    rw [← hname] at hkey hrows
    have hposition : position < leftStep.width files base := by
      rw [hwidth]
      exact Schema.lt_width_of_resolveQualified ha
    have hjoined : (Step.join kind right buckets position leftStep).schema files base =
        leftSchema.join t.schema := by
      rw [Step.schema, hcolumns, hname]
    refine ⟨⟨.join hlaid (by rw [hwidth, hcolumns]) hposition hkey hrows, hjoined, ?_⟩, ?_⟩
    · rw [Step.width, hjoined]
    · rw [Origin.relation, joinSides_of_joinColumns hjoin, hschema, ← hname]
      rfl

/-! ### Clauses -/

lemma withCondition_flat {condition : Option Expr} {schema : Schema}
    (h : withCondition condition schema step = .ok step')
    (hstep : Flat files base whole schema step) :
    Flat files base whole schema step' := by
  rcases withCondition_cases h with ⟨-, rfl⟩ | ⟨e, -, -, rfl⟩
  · exact hstep
  · obtain ⟨hlaid, hcolumns, hwidth⟩ := hstep
    refine ⟨.filter hlaid (by rw [hwidth, hcolumns]) fun p hp => ?_, hcolumns, ?_⟩
    · rw [hwidth]
      exact Expr.lt_width_of_mem_positions hp
    · rw [Step.width, hcolumns]

lemma position_allColumns {schema : Schema} {column : OutputColumn}
    (h : column ∈ allColumns schema) : column.position < schema.width := by
  obtain ⟨⟨name, p⟩, hentry, rfl⟩ := List.mem_map.mp h
  have hlt := List.snd_lt_of_mem_zipIdx hentry
  simpa [Schema.width] using hlt

lemma position_plainColumn {schema : Schema} {item : SelectItem} {column : OutputColumn}
    (h : plainColumn schema item = .ok column) : column.position < schema.width := by
  obtain ⟨position, hposition, h⟩ := Except.bind_eq_ok.mp h
  cases h
  exact Schema.lt_width_of_resolve hposition

lemma position_plainColumns {schema : Schema} {list : List SelectItem}
    {columns : List OutputColumn} (h : plainColumns schema list = .ok columns) :
    ∀ column ∈ columns, column.position < schema.width := by
  induction list generalizing columns with
  | nil =>
    cases h
    simp
  | cons item list ih =>
    unfold plainColumns at h
    cases hf : item.aggregate with
    | some f =>
      rw [hf] at h
      cases h
    | none =>
      rw [hf] at h
      obtain ⟨column, hcolumn, h⟩ := Except.bind_eq_ok.mp h
      obtain ⟨columns', hrest, h⟩ := Except.bind_eq_ok.mp h
      cases h
      exact List.forall_mem_cons.mpr ⟨position_plainColumn hcolumn, ih hrest⟩

lemma position_groupedColumns {schema : Schema} {n : Nat} {list : List SelectItem}
    {columns : List OutputColumn} {aggregates : List AggregateColumn}
    (h : groupedColumns schema n list = .ok (columns, aggregates)) :
    (∀ column ∈ columns, column.position < schema.width + n + aggregates.length) ∧
      ∀ aggregate ∈ aggregates, aggregate.position < schema.width := by
  induction list generalizing n columns aggregates with
  | nil =>
    cases h
    simp
  | cons item list ih =>
    unfold groupedColumns at h
    split at h
    · obtain ⟨column, hcolumn, h⟩ := Except.bind_eq_ok.mp h
      obtain ⟨⟨columns', aggregates'⟩, hrest, h⟩ := Except.bind_eq_ok.mp h
      cases h
      obtain ⟨hcolumns, haggregates⟩ := ih hrest
      have hlt := position_plainColumn hcolumn
      exact ⟨List.forall_mem_cons.mpr ⟨by omega, hcolumns⟩, haggregates⟩
    · obtain ⟨position, hposition, h⟩ := Except.bind_eq_ok.mp h
      obtain ⟨⟨columns', aggregates'⟩, hrest, h⟩ := Except.bind_eq_ok.mp h
      cases h
      obtain ⟨hcolumns, haggregates⟩ := ih hrest
      have hlt := Schema.lt_width_of_resolve hposition
      refine ⟨List.forall_mem_cons.mpr ⟨?_, fun column hcolumn => ?_⟩,
        List.forall_mem_cons.mpr ⟨hlt, haggregates⟩⟩
      · simp only [List.length_cons]
        omega
      · have := hcolumns column hcolumn
        simp only [List.length_cons]
        omega

/-- The planned columns lie in the rows behind the grouping, which are no narrower than before. -/
def Shown (files : Files) (base : String) (whole : Schema) (step : Step)
    (columns : List OutputColumn) : Prop :=
  step.Laid files base whole ∧ whole.width ≤ step.width files base ∧
    ∀ column ∈ columns, column.position < step.width files base

lemma shown_aggregate {columns : List OutputColumn} {names : List String} {positions : List Nat}
    {aggregates : List AggregateColumn} (hstep : Flat files base whole whole step)
    (hpositions : names.mapM whole.resolve = .ok positions)
    (hcolumns : ∀ column ∈ columns, column.position < whole.width + aggregates.length)
    (haggregates : ∀ aggregate ∈ aggregates, aggregate.position < whole.width) (tables : String) :
    Shown files base whole (.aggregate tables names positions aggregates step) columns := by
  obtain ⟨hlaid, hschema, hwidth⟩ := hstep
  have hnew : (Step.aggregate tables names positions aggregates step).width files base =
      whole.width + aggregates.length := by
    rw [Step.width, hschema]
  refine ⟨.aggregate hlaid (by rw [hwidth, hschema]) hschema (fun p hp => ?_) ?_, by omega, ?_⟩
  · obtain ⟨name, -, hname⟩ := mem_of_mapM hpositions hp
    rw [hwidth]
    exact Schema.lt_width_of_resolve hname
  · rwa [hwidth]
  · rwa [hnew]

lemma ofSelection_shown {columns : List OutputColumn}
    (h : ofSelection s whole step = .ok (step', columns))
    (hstep : Flat files base whole whole step) : Shown files base whole step' columns := by
  rcases ofSelection_cases h with
    ⟨-, rfl, hcolumns⟩ | ⟨-, positions, aggregates, hpositions, rfl, hcolumns⟩
  · obtain ⟨hlaid, -, hwidth⟩ := hstep
    have hplain : ∀ column ∈ columns, column.position < whole.width := by
      rcases hcolumns with ⟨-, rfl⟩ | ⟨list, -, hselected⟩
      · exact fun column hcolumn => position_allColumns hcolumn
      · exact position_plainColumns hselected
    exact ⟨hlaid, hwidth.ge, by rwa [hwidth]⟩
  · rcases hcolumns with ⟨-, rfl, rfl⟩ | ⟨list, -, hselected⟩
    · refine shown_aggregate hstep hpositions (fun column hcolumn => ?_) (by simp) _
      exact position_allColumns hcolumn
    · obtain ⟨hcolumns, haggregates⟩ := position_groupedColumns hselected
      exact shown_aggregate hstep hpositions hcolumns haggregates _

lemma withOrder_shown {orderBy : List OrderKey} {columns : List OutputColumn}
    (h : withOrder orderBy whole columns step = .ok step')
    (hshown : Shown files base whole step columns) : Shown files base whole step' columns := by
  rcases withOrder_cases h with ⟨-, rfl⟩ | ⟨-, keys, hkeys, rfl⟩
  · exact hshown
  · obtain ⟨hlaid, hwidth, hcolumns⟩ := hshown
    refine ⟨.sort hlaid fun key hkey => ?_, hwidth, hcolumns⟩
    obtain ⟨order, -, horder⟩ := mem_of_mapM hkeys hkey
    unfold sortKey at horder
    split at horder
    · rename_i column hcolumn
      cases horder
      exact hcolumns column (List.mem_of_find?_eq_some hcolumn)
    · obtain ⟨position, hposition, horder⟩ := Except.bind_eq_ok.mp horder
      cases horder
      exact Nat.lt_of_lt_of_le (Schema.lt_width_of_resolve hposition) hwidth

lemma withLimit_shown (most : Option Nat) {columns : List OutputColumn}
    (hshown : Shown files base whole step columns) :
    Shown files base whole (withLimit most step) columns := by
  obtain ⟨hlaid, hwidth, hcolumns⟩ := hshown
  unfold withLimit
  split
  · exact ⟨.limit hlaid, hwidth, hcolumns⟩
  · exact ⟨hlaid, hwidth, hcolumns⟩

/-- **Every step of a plan is laid out.** -/
lemma ofStatement_laid {plan : Plan} (h : (ofStatement files base s).outcome = .ok plan) :
    plan.root.Laid files base (s.schema files base) ∧
      plan.root.width files base = plan.header.length := by
  obtain ⟨step, schema, filtered, grouped, columns, sorted, htables, hfiltered, hgrouped, hsorted,
    rfl⟩ := ofStatement_cases h
  obtain ⟨hflat, rfl⟩ := ofOrigin_flat htables
  obtain ⟨hlaid, -, hcolumns⟩ := withLimit_shown s.limit
    (withOrder_shown hsorted (ofSelection_shown hgrouped (withCondition_flat hfiltered hflat)))
  refine ⟨.project hlaid (by simp) fun p hp => ?_, rfl⟩
  obtain ⟨column, hcolumn, rfl⟩ := List.mem_map.mp hp
  exact hcolumns column hcolumn

/-- **The layout of rows.** Every row that a step of a plan ever produces has the width of the
step: a cell for each column of the tables so far, and behind the grouping a cell for each aggregate
column too. Every position at which a step looks lies in the rows of the step below it, so that a
missing cell is never read as an empty one, and the key of a joined table lies in its rows. Every
row of the result has a cell for each heading. -/
theorem ofStatement_layout [Sorter] {plan : Plan}
    (h : (ofStatement files base s).outcome = .ok plan) :
    (∀ step ∈ plan.root.parts, ∀ r, step.source.Produces r → r.length = step.width files base) ∧
    (∀ tables fields positions columns step,
      .aggregate tables fields positions columns step ∈ plan.root.parts →
        step.schema files base = s.schema files base) ∧
    (∀ step ∈ plan.root.parts, ∀ below, step.below? = some below → below ∈ plan.root.parts ∧
      ∀ p ∈ step.reads, p < below.width files base ∧
        ∀ r, below.source.Produces r → r[p]? = some (r.cell p)) ∧
    (∀ kind table right position step,
      .join kind table right position step ∈ plan.root.parts →
        ∀ r ∈ right.rows, r[right.position]? = some (r.cell right.position)) ∧
    ∀ result, (Query.execute files base s).outcome = .ok result →
      ∀ r ∈ result.rows, r.length = result.header.length := by
  obtain ⟨hroot, hheader⟩ := ofStatement_laid h
  have hlaid : ∀ {step}, step ∈ plan.root.parts → step.Laid files base (s.schema files base) :=
    fun hstep => hroot.of_mem_parts hstep
  have hcell : ∀ {r : Row} {p : Nat}, p < r.length → r[p]? = some (r.cell p) := by
    intro r p hp
    simp [Row.cell, hp]
  refine ⟨fun step hstep r hr => (hlaid hstep).length_of_produces hr, ?_, ?_, ?_, ?_⟩
  · intro tables fields positions columns step hstep
    cases hlaid hstep with
    | aggregate _ _ hwhole _ _ => exact hwhole
  · intro step hstep below hbelow
    have hmem := Step.below_mem_parts hstep hbelow
    refine ⟨hmem, fun p hp => ?_⟩
    have hlt := (hlaid hstep).lt_width hbelow hp
    refine ⟨hlt, fun r hr => hcell ?_⟩
    rwa [(hlaid hmem).length_of_produces hr]
  · intro kind table right position step hstep r hr
    cases hlaid hstep with
    | join _ _ _ hright hrows =>
      refine hcell ?_
      rwa [hrows r hr]
  · intro result hresult r hr
    obtain ⟨plan', hplan', hresult⟩ := Logged.outcome_bind_eq_ok.mp hresult
    obtain rfl : plan = plan' :=
      Except.ok.inj (h.symm.trans (Logged.outcome_mapError_eq_ok.mp hplan'))
    obtain ⟨rows, hrows, hresult⟩ := Logged.outcome_bind_eq_ok.mp hresult
    cases hresult
    rw [hroot.length_of_produces (Source.produces_of_run hrows r hr), hheader]

attribute [local instance] Sorter.standard

theorem ofStatement_layout_greatestSum :
    (ofStatement Query.shopFiles "" Query.greatestSum).outcome = .ok Query.greatestSumPlan ∧
    Query.greatestSumPlan.root.parts.map (·.width Query.shopFiles "") = [2, 5, 5, 5, 4, 4, 2] ∧
    (∀ step ∈ Query.greatestSumPlan.root.parts, ∀ r, step.source.Produces r →
      r.length = step.width Query.shopFiles "") ∧
    ∀ result, (Query.execute Query.shopFiles "" Query.greatestSum).outcome = .ok result →
      ∀ r ∈ result.rows, r.length = result.header.length := by
  have hplan := Query.ofStatement_greatestSum
  obtain ⟨hrows, -, -, -, hresult⟩ := ofStatement_layout hplan
  exact ⟨hplan, by decide +kernel, hrows, hresult⟩

end Plan

end CsvQuery
