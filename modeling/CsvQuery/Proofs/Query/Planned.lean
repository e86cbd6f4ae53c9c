import CsvQuery.Plan
import CsvQuery.Proofs.Outcome

/-!
What the planner has done where it succeeds, clause by clause: the step that it has put above the
others, and the names that it has resolved for it.
-/

namespace CsvQuery

lemma Table.bucketed_cases {t : Table} {field : String} {buckets : Buckets}
    (h : (t.bucketed field).outcome = .ok buckets) :
    ∃ position rows, t.schema.resolveQualified t.name field = .ok position ∧
      t.scan.run.outcome = .ok rows ∧ buckets = .ofRows position rows := by
  simp only [bucketed, Logged.outcome_bind_eq_ok] at h
  obtain ⟨position, hposition, rows, hrows, -, -, hbuckets⟩ := h
  cases hbuckets
  exact ⟨position, rows, hposition, hrows, rfl⟩

namespace Plan

variable {files : Files} {base : String} {s : Statement} {schema : Schema} {step step' : Step}
  {columns : List OutputColumn}

lemma ofOrigin_table_cases {name : String}
    (h : (ofOrigin files base (.table name)).outcome = .ok (step, schema)) :
    ∃ t, Table.read files base name = .ok t ∧ step = .scan t ∧ schema = t.schema := by
  unfold ofOrigin at h
  simp only [Logged.outcome_bind_eq_ok] at h
  obtain ⟨t, ht, hstep⟩ := h
  cases hstep
  exact ⟨t, ht, rfl, rfl⟩

lemma ofOrigin_join_cases {kind : JoinKind} {left : Origin} {right : String} {condition : Expr}
    (h : (ofOrigin files base (.join kind left right condition)).outcome = .ok (step, schema)) :
    ∃ leftStep leftSchema op a field position t buckets,
      (ofOrigin files base left).outcome = .ok (leftStep, leftSchema) ∧
      joinColumns right condition = .ok (op, a, field) ∧
      leftSchema.resolveQualified a.table a.name = .ok position ∧
      Table.read files base right = .ok t ∧ (t.bucketed field).outcome = .ok buckets ∧
      step = .join kind right buckets position leftStep ∧ schema = leftSchema.join t.schema := by
  unfold ofOrigin at h
  simp only [Logged.outcome_bind_eq_ok] at h
  obtain ⟨⟨leftStep, leftSchema⟩, hleft, ⟨op, a, field⟩, hcolumns, -, -, position, ha, t, ht,
    buckets, hbuckets, -, -, hstep⟩ := h
  cases hstep
  exact ⟨leftStep, leftSchema, op, a, field, position, t, buckets, hleft, hcolumns, ha, ht,
    hbuckets, rfl, rfl⟩

lemma withCondition_cases {condition : Option Expr}
    (h : withCondition condition schema step = .ok step') :
    (condition = none ∧ step' = step) ∨
      ∃ e, condition = some e ∧ e.check schema = .ok () ∧ step' = .filter e schema step := by
  cases condition with
  | none =>
    cases h
    exact .inl ⟨rfl, rfl⟩
  | some e =>
    obtain ⟨_, hcheck, h⟩ := Except.bind_eq_ok.mp h
    cases h
    exact .inr ⟨e, rfl, hcheck, rfl⟩

lemma ofSelection_cases (h : ofSelection s schema step = .ok (step', columns)) :
    (s.groupBy = [] ∧ step' = step ∧
      ((s.selection = .all ∧ columns = allColumns schema) ∨
        ∃ list, s.selection = .items list ∧ plainColumns schema list = .ok columns)) ∨
    (s.groupBy ≠ [] ∧ ∃ positions aggregates, s.groupBy.mapM schema.resolve = .ok positions ∧
      step' = .aggregate s.tablesText s.groupBy positions aggregates step ∧
      ((s.selection = .all ∧ columns = allColumns schema ∧ aggregates = []) ∨
        ∃ list, s.selection = .items list ∧
          groupedColumns schema 0 list = .ok (columns, aggregates))) := by
  unfold ofSelection Statement.isAggregation at h
  by_cases hgroup : s.groupBy = []
  · rw [hgroup] at h
    cases hsel : s.selection with
    | all =>
      rw [hsel] at h
      cases h
      exact .inl ⟨hgroup, rfl, .inl ⟨rfl, rfl⟩⟩
    | items list =>
      rw [hsel] at h
      obtain ⟨columns', hcolumns, h⟩ := Except.bind_eq_ok.mp h
      cases h
      exact .inl ⟨hgroup, rfl, .inr ⟨list, rfl, hcolumns⟩⟩
  · have hfalse : s.groupBy.isEmpty = false := by simpa using hgroup
    rw [hfalse] at h
    obtain ⟨positions, hpositions, h⟩ := Except.bind_eq_ok.mp h
    cases hsel : s.selection with
    | all =>
      rw [hsel] at h
      cases h
      exact .inr ⟨hgroup, positions, [], hpositions, rfl, .inl ⟨rfl, rfl, rfl⟩⟩
    | items list =>
      rw [hsel] at h
      obtain ⟨⟨columns', aggregates⟩, hcolumns, h⟩ := Except.bind_eq_ok.mp h
      cases h
      exact .inr ⟨hgroup, positions, aggregates, hpositions, rfl, .inr ⟨list, rfl, hcolumns⟩⟩

lemma withOrder_cases {orderBy : List OrderKey}
    (h : withOrder orderBy schema columns step = .ok step') :
    (orderBy = [] ∧ step' = step) ∨
      orderBy ≠ [] ∧ ∃ keys, orderBy.mapM (sortKey schema columns) = .ok keys ∧
        step' = .sort keys step := by
  unfold withOrder at h
  by_cases horder : orderBy = []
  · rw [horder] at h
    cases h
    exact .inl ⟨horder, rfl⟩
  · have hfalse : orderBy.isEmpty = false := by simpa using horder
    rw [hfalse] at h
    obtain ⟨keys, hkeys, h⟩ := Except.bind_eq_ok.mp h
    cases h
    exact .inr ⟨horder, keys, hkeys, rfl⟩

lemma ofStatement_cases {plan : Plan} (h : (ofStatement files base s).outcome = .ok plan) :
    ∃ step schema filtered grouped columns sorted,
      (ofOrigin files base s.origin).outcome = .ok (step, schema) ∧
      withCondition s.condition schema step = .ok filtered ∧
      ofSelection s schema filtered = .ok (grouped, columns) ∧
      withOrder s.orderBy schema columns grouped = .ok sorted ∧
      plan = ⟨columns.map (·.name), .project (columns.map (·.name)) (columns.map (·.position))
        (withLimit s.limit sorted)⟩ := by
  simp only [ofStatement, Logged.outcome_bind_eq_ok] at h
  obtain ⟨⟨step, schema⟩, htables, h⟩ := h
  obtain ⟨filtered, hfiltered, h⟩ := Except.bind_eq_ok.mp h
  obtain ⟨⟨grouped, columns⟩, hgrouped, h⟩ := Except.bind_eq_ok.mp h
  obtain ⟨sorted, hsorted, h⟩ := Except.bind_eq_ok.mp h
  cases h
  exact ⟨step, schema, filtered, grouped, columns, sorted, htables, hfiltered, hgrouped, hsorted,
    rfl⟩

lemma ofStatement_of_clauses {filtered grouped sorted : Step}
    (htables : (ofOrigin files base s.origin).outcome = .ok (step, schema))
    (hfiltered : withCondition s.condition schema step = .ok filtered)
    (hgrouped : ofSelection s schema filtered = .ok (grouped, columns))
    (hsorted : withOrder s.orderBy schema columns grouped = .ok sorted) :
    (ofStatement files base s).outcome =
      .ok ⟨columns.map (·.name), .project (columns.map (·.name)) (columns.map (·.position))
        (withLimit s.limit sorted)⟩ := by
  refine Logged.outcome_bind_eq_ok.mpr ⟨(step, schema), htables, ?_⟩
  refine Except.bind_eq_ok.mpr ⟨filtered, hfiltered, ?_⟩
  refine Except.bind_eq_ok.mpr ⟨(grouped, columns), hgrouped, ?_⟩
  exact Except.bind_eq_ok.mpr ⟨sorted, hsorted, rfl⟩

end Plan

end CsvQuery
