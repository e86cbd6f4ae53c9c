import CsvQuery.Proofs.Query.Names
import CsvQuery.Proofs.Query.Planned
import CsvQuery.Proofs.Query.Steps

/-!
The rows of joined tables. The steps that are planned for the tables of a statement yield the pairs
of rows that the list reading of the joins has, in the same order.
-/

namespace CsvQuery

/-- Every record of a table can be read. -/
def Table.Readable (t : Table) : Prop :=
  ∀ record ∈ t.records, ∃ cells, record = .ok cells

/-- Every table of a statement that is there has readable records only. -/
def Origin.Readable (files : Files) (base : String) (origin : Origin) : Prop :=
  ∀ name ∈ origin.tables, ∀ t, Table.read files base name = .ok t → t.Readable

/-- Every row has a cell for each column. -/
def Relation.Fits (rel : Relation) : Prop :=
  ∀ r ∈ rel.rows, r.length = rel.schema.width

lemma Relation.ofName_of_read {files : Files} {base name : String} {t : Table}
    (h : Table.read files base name = .ok t) : ofName files base name = t.relation := by
  unfold ofName
  rw [h]

namespace Table

lemma scanned_records {t : Table} (h : t.Readable) :
    t.records.map t.scanned = t.relation.rows.map .ok := by
  have hrecords : ∀ records : List (Except Undecodable (List String)),
      (∀ record ∈ records, ∃ cells, record = .ok cells) →
      records.map t.scanned =
        (records.filterMap fun record =>
          record.toOption.map (Row.fit · t.header.length)).map .ok := by
    intro records hok
    induction records with
    | nil => rfl
    | cons record records ih =>
      obtain ⟨cells, rfl⟩ := hok record (by simp)
      rw [List.map_cons, ih fun record hr => hok record (List.mem_cons_of_mem _ hr)]
      rfl
  exact hrecords t.records h

lemma outcome_run_of_readable (t : Table) (h : t.Readable) :
    t.scan.run.outcome = .ok t.relation.rows := by
  rw [outcome_run_scan, scanned_records h, Source.allRows_map_ok]

lemma readable_of_isOk {t : Table} (h : t.records.all Except.isOk = true) : t.Readable := by
  intro record hrecord
  have hok := List.all_eq_true.mp h record hrecord
  cases record with
  | error cause => cases hok
  | ok cells => exact ⟨cells, rfl⟩

lemma name_of_read {files : Files} {base name : String} {t : Table}
    (h : read files base name = .ok t) : t.name = name := by
  unfold read ofContent at h
  split at h
  · split at h <;> cases h <;> rfl
  · cases h

lemma bucketed_eq_ok {t : Table} {field : String} {buckets : Buckets} (ht : t.Readable)
    (h : (t.bucketed field).outcome = .ok buckets) :
    ∃ position, t.schema.resolveQualified t.name field = .ok position ∧
      buckets = .ofRows position t.relation.rows := by
  obtain ⟨position, rows, hposition, hrows, rfl⟩ := bucketed_cases h
  have hread := t.outcome_run_of_readable ht
  rw [hread] at hrows
  cases hrows
  exact ⟨position, hposition, rfl⟩

lemma bucketed_of_readable {t : Table} {field : String} {q : Nat} (ht : t.Readable)
    (hq : t.schema.resolveQualified t.name field = .ok q) :
    (t.bucketed field).outcome = .ok (.ofRows q t.relation.rows) := by
  have hread := t.outcome_run_of_readable ht
  exact Logged.outcome_bind_eq_ok.mpr ⟨q, hq, Logged.outcome_bind_eq_ok.mpr ⟨_, hread, rfl⟩⟩

lemma relation_fits (t : Table) : t.relation.Fits := by
  intro r hr
  obtain ⟨record, -, hrecord⟩ := List.mem_filterMap.mp hr
  obtain ⟨cells, -, rfl⟩ := Option.map_eq_some_iff.mp hrecord
  simp [relation, schema]

end Table

lemma Relation.join_fits {left right : Relation} (hl : left.Fits) (hr : right.Fits)
    (a b : Column) : (left.join right a b).Fits := by
  intro row hrow
  obtain ⟨l, hlmem, hrow⟩ := List.mem_flatMap.mp hrow
  obtain ⟨r, hrmem, rfl⟩ := List.mem_map.mp hrow
  have hl' := hl l hlmem
  have hr' := hr r (List.mem_filter.mp hrmem).1
  simp [join, hl', hr']

lemma joinSides_of_joinColumns {joined field : String} {e : Expr} {op : BinaryOp} {c : Column}
    (h : Plan.joinColumns joined e = .ok (op, c, field)) :
    joinSides joined e = some (c, ⟨joined, field⟩) := by
  unfold Plan.joinColumns at h
  split at h
  · rename_i op' table name table' name'
    split at h
    · rename_i heq
      cases h
      simp [joinSides, heq]
    · split at h
      · rename_i hne heq
        cases h
        simp [joinSides, hne, heq]
      · cases h
  · cases h

lemma joined_eq_join {left : Relation} {right : Table} {a : Column} {field : String}
    {position position' : Nat} (hleft : left.Fits)
    (ha : left.schema.resolveQualified a.table a.name = .ok position)
    (hb : right.schema.resolveQualified right.name field = .ok position') :
    left.rows.flatMap (Step.joined (.ofRows position' right.relation.rows) position) =
      (left.join right.relation a ⟨right.name, field⟩).rows := by
  refine List.flatMap_congr fun l hl => ?_
  have hcell := Schema.cell_of_resolveQualified ha (hleft l hl).ge
  rw [Step.joined, Buckets.find_eq_filter, hcell]
  refine congrArg _ (List.filter_congr fun r hr => ?_)
  have hcell' : r.cell position' = right.relation.schema.cellOf ⟨right.name, field⟩ r :=
    Schema.cell_of_resolveQualified hb (right.relation_fits r hr).ge
  rw [BEq.comm]
  exact congrArg _ hcell'

namespace Plan

variable [Sorter]

/-- **Joined tables.** What is planned for the tables of a statement yields the list reading of
their joins, and its columns are those of the joins. -/
lemma ofOrigin_yields {files : Files} {base : String} {origin : Origin} {step : Step}
    {schema : Schema} (h : (ofOrigin files base origin).outcome = .ok (step, schema))
    (hreadable : origin.Readable files base) :
    schema = (origin.relation files base).schema ∧
      step.Yields (origin.relation files base).rows ∧ (origin.relation files base).Fits := by
  induction origin generalizing step schema with
  | table name =>
    obtain ⟨t, ht, rfl, rfl⟩ := ofOrigin_table_cases h
    have hrel : (Origin.table name).relation files base = t.relation := by
      rw [Origin.relation, Relation.ofName_of_read ht]
    rw [hrel]
    have hrecords := hreadable name (List.mem_singleton_self name) t ht
    exact ⟨rfl, Step.yields_scan (Table.scanned_records hrecords), t.relation_fits⟩
  | join kind left right condition ih =>
    obtain ⟨leftStep, leftSchema, op, a, field, position, t, buckets, hleft, hcolumns, ha, ht,
      hbuckets, rfl, rfl⟩ := ofOrigin_join_cases h
    have hsides := joinSides_of_joinColumns hcolumns
    obtain ⟨rfl, hyields, hfits⟩ :=
      ih hleft fun name hname => hreadable name (List.mem_append_left _ hname)
    have hmem : right ∈ (Origin.join kind left right condition).tables :=
      List.mem_append_right _ (List.mem_singleton_self right)
    have hrecords := hreadable right hmem t ht
    obtain ⟨position', hb, rfl⟩ := Table.bucketed_eq_ok hrecords hbuckets
    obtain rfl := Table.name_of_read ht
    have hrel : (Origin.join kind left t.name condition).relation files base =
        (left.relation files base).join t.relation a ⟨t.name, field⟩ := by
      rw [Origin.relation, hsides, Relation.ofName_of_read ht]
    rw [hrel, ← joined_eq_join hfits ha hb]
    exact ⟨rfl, hyields.join _ _ _ _, Relation.join_fits hfits t.relation_fits _ _⟩

end Plan

end CsvQuery
