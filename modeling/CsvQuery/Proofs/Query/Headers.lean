import CsvQuery.Proofs.Query.Needed

/-!
What planning reads of the tables. Of the first table it is the header alone, but a joined table is
put in buckets, so a record of it that cannot be read is an error of the planning, and one that
comes before those of the names that are resolved later.
-/

namespace CsvQuery

/-! ### What there is to read -/

namespace Table

/-- The header of a table, or why there is none. -/
def heading (files : Files) (base name : String) : Except Error (List String) :=
  (read files base name).map (·.header)

/-- The first record that cannot be read of the table with a name, if there is the table. -/
def faultIn? (files : Files) (base name : String) : Option Undecodable :=
  (read files base name).toOption.bind (·.fault?)

variable {files files' : Files} {base name : String} {excuse excuse' : Error → Prop}

/-- Both tables have the name, and the same header. -/
def Headed (files files' : Files) (base name : String) (t t' : Table) : Prop :=
  read files base name = .ok t ∧ read files' base name = .ok t' ∧ t.header = t'.header

lemma Headed.name_eq {t t' : Table} (h : Headed files files' base name t t') : t.name = t'.name :=
  (name_of_read h.1).trans (name_of_read h.2.1).symm

lemma Headed.schema_eq {t t' : Table} (h : Headed files files' base name t t') :
    t.schema = t'.schema := by
  rw [schema, schema, h.name_eq, h.2.2]

lemma Headed.faultIn?_eq {t t' : Table} (h : Headed files files' base name t t') :
    faultIn? files base name = t.fault? ∧ faultIn? files' base name = t'.fault? := by
  rw [faultIn?, faultIn?, h.1, h.2.1]
  exact ⟨rfl, rfl⟩

lemma Headed.run_alike {t t' : Table} (h : Headed files files' base name t t')
    (hfault : t.fault? = t'.fault?) :
    Alike excuse excuse' (fun _ _ => True) t.scan.run.outcome t'.scan.run.outcome := by
  rcases t.run_scan_cases with ⟨hnone, rows, hrows⟩ | ⟨cause, hcause, hrun⟩
  · rcases t'.run_scan_cases with ⟨-, rows', hrows'⟩ | ⟨cause', hcause', -⟩
    · rw [hrows, hrows']
      exact .ok trivial
    · rw [hfault, hcause'] at hnone
      cases hnone
  · rcases t'.run_scan_cases with ⟨hnone', -⟩ | ⟨cause', hcause', hrun'⟩
    · rw [hfault, hnone'] at hcause
      cases hcause
    · rw [hfault, hcause'] at hcause
      cases hcause
      rw [hrun, hrun', h.name_eq]
      exact .error _

lemma run_alike_of_excuse {t t' : Table}
    (h : ∀ cause, t.fault? = some cause → excuse (.unreadableTable t.name cause))
    (h' : ∀ cause, t'.fault? = some cause → excuse' (.unreadableTable t'.name cause)) :
    Alike excuse excuse' (fun _ _ => True) t.scan.run.outcome t'.scan.run.outcome := by
  rcases t.run_scan_cases with ⟨-, rows, hrows⟩ | ⟨cause, hcause, hrun⟩
  · rcases t'.run_scan_cases with ⟨-, rows', hrows'⟩ | ⟨cause', hcause', hrun'⟩
    · rw [hrows, hrows']
      exact .ok trivial
    · rw [hrun']
      exact .right (h' cause' hcause') _
  · rw [hrun]
    exact .left (h cause hcause) _

lemma read_alike (h : heading files base name = heading files' base name) :
    Alike excuse excuse' (Headed files files' base name)
      (Logged.ofExcept (read files base name)).outcome
      (Logged.ofExcept (read files' base name)).outcome :=
  .of_map_eq h

lemma Headed.bucketed_alike {t t' : Table} (h : Headed files files' base name t t')
    (hrun : Alike excuse excuse' (fun _ _ => True) t.scan.run.outcome t'.scan.run.outcome)
    (field : String) :
    Alike excuse excuse' (fun _ _ => True) (t.bucketed field).outcome
      (t'.bucketed field).outcome := by
  unfold bucketed
  rw [h.schema_eq, h.name_eq]
  refine .outcome_bind_refl _ fun position => ?_
  exact .outcome_bind hrun fun rows rows' _ => .ok trivial

end Table

/-! ### Planning -/

namespace Plan

def outline (plan : Plan) : List String × List Step.Layer :=
  (plan.header, plan.root.layers)

/-- The outline of the plan of a statement, or why there is none. -/
def outlined (files : Files) (base : String) (s : Statement) :
    Except Error (List String × List Step.Layer) :=
  (ofStatement files base s).outcome.map outline

variable {files files' : Files} {base : String} {s : Statement} {schema : Schema}
  {step step' : Step} {excuse excuse' : Error → Prop}

lemma ofOrigin_alike {origin : Origin}
    (hheading : ∀ name ∈ origin.tables,
      Table.heading files base name = Table.heading files' base name)
    (hjoined : ∀ name ∈ origin.joined, ∀ t t', Table.Headed files files' base name t t' →
      Alike excuse excuse' (fun _ _ => True) t.scan.run.outcome t'.scan.run.outcome) :
    Alike excuse excuse'
      (fun planned planned' => planned.1.layers = planned'.1.layers ∧ planned.2 = planned'.2)
      (ofOrigin files base origin).outcome (ofOrigin files' base origin).outcome := by
  induction origin with
  | table name =>
    have hread := hheading name (List.mem_singleton_self name)
    unfold ofOrigin
    refine .outcome_bind (Table.read_alike hread) fun t t' ht => ?_
    exact .ok ⟨by rw [Step.layers, Step.layers, ht.name_eq], ht.schema_eq⟩
  | join kind left right condition ih =>
    have hleft := ih (fun name hname => hheading name (List.mem_append_left _ hname))
      fun name hname => hjoined name (List.mem_append_left _ hname)
    have hread := hheading right (List.mem_append_right _ (List.mem_singleton_self right))
    have hright := hjoined right (List.mem_append_right _ (List.mem_singleton_self right))
    unfold ofOrigin
    refine .outcome_bind hleft ?_
    rintro ⟨step, schema⟩ ⟨step', _⟩ ⟨hlayers, rfl⟩
    refine .outcome_bind_refl _ ?_
    rintro ⟨op, column, field⟩
    refine .outcome_bind_refl _ fun _ => .outcome_bind_refl _ fun position => ?_
    refine .outcome_bind (Table.read_alike hread) fun t t' ht => ?_
    refine .outcome_bind (ht.bucketed_alike (hright t t' ht) field) fun buckets buckets' _ => ?_
    refine .outcome_bind_refl _ fun _ => .ok ⟨?_, by rw [ht.schema_eq]⟩
    rw [Step.layers, Step.layers, hlayers]

lemma withCondition_alike (condition : Option Expr) (h : step.layers = step'.layers) :
    Alike excuse excuse' (fun a b => a.layers = b.layers) (withCondition condition schema step)
      (withCondition condition schema step') := by
  cases condition with
  | none => exact .ok h
  | some e => exact .bind_refl (e.check schema) fun _ => .ok (by rw [Step.layers, Step.layers, h])

lemma ofSelection_alike (s : Statement) (h : step.layers = step'.layers) :
    Alike excuse excuse' (fun a b => a.1.layers = b.1.layers ∧ a.2 = b.2)
      (ofSelection s schema step) (ofSelection s schema step') := by
  unfold ofSelection
  split
  · refine .bind_refl _ fun positions => ?_
    cases s.selection with
    | all => exact .ok ⟨by rw [Step.layers, Step.layers, h], rfl⟩
    | items list =>
      refine .bind_refl (groupedColumns schema 0 list) ?_
      rintro ⟨columns, aggregates⟩
      exact .ok ⟨by rw [Step.layers, Step.layers, h], rfl⟩
  · cases s.selection with
    | all => exact .ok ⟨h, rfl⟩
    | items list => exact .bind_refl (plainColumns schema list) fun columns => .ok ⟨h, rfl⟩

lemma withOrder_alike (orderBy : List OrderKey) (columns : List OutputColumn)
    (h : step.layers = step'.layers) :
    Alike excuse excuse' (fun a b => a.layers = b.layers)
      (withOrder orderBy schema columns step) (withOrder orderBy schema columns step') := by
  unfold withOrder
  split
  · exact .ok h
  · exact .bind_refl _ fun keys => .ok (by rw [Step.layers, Step.layers, h])

lemma layers_withLimit (most : Option Nat) (h : step.layers = step'.layers) :
    (withLimit most step).layers = (withLimit most step').layers := by
  unfold withLimit
  split
  · rw [Step.layers, Step.layers, h]
  · exact h

lemma ofStatement_alike
    (hheading : ∀ name ∈ s.tables, Table.heading files base name = Table.heading files' base name)
    (hjoined : ∀ name ∈ s.origin.joined, ∀ t t', Table.Headed files files' base name t t' →
      Alike excuse excuse' (fun _ _ => True) t.scan.run.outcome t'.scan.run.outcome) :
    Alike excuse excuse' (fun plan plan' => plan.outline = plan'.outline)
      (ofStatement files base s).outcome (ofStatement files' base s).outcome := by
  refine .outcome_bind (ofOrigin_alike hheading hjoined) ?_
  rintro ⟨step, schema⟩ ⟨step', _⟩ ⟨hstep, rfl⟩
  refine .bind (withCondition_alike s.condition hstep) fun filtered filtered' hfiltered => ?_
  refine .bind (ofSelection_alike s hfiltered) ?_
  rintro ⟨grouped, columns⟩ ⟨grouped', _⟩ ⟨hgrouped, rfl⟩
  refine .bind (withOrder_alike s.orderBy columns hgrouped) fun sorted sorted' hsorted => .ok ?_
  simp only [outline, Step.layers, layers_withLimit s.limit hsorted]

lemma outlined_eq_or_excuse
    (hheading : ∀ name ∈ s.tables, Table.heading files base name = Table.heading files' base name)
    (hjoined : ∀ name ∈ s.origin.joined, ∀ t t', Table.Headed files files' base name t t' →
      Alike excuse excuse' (fun _ _ => True) t.scan.run.outcome t'.scan.run.outcome) :
    outlined files base s = outlined files' base s ∨
      (∃ e, excuse e ∧ (ofStatement files base s).outcome = .error e) ∨
      ∃ e, excuse' e ∧ (ofStatement files' base s).outcome = .error e :=
  (ofStatement_alike hheading hjoined).map_eq fun _ _ h => h

/-- The error is that of the first record of a joined table that cannot be read. -/
def JoinedFault (files : Files) (base : String) (s : Statement) (e : Error) : Prop :=
  ∃ name ∈ s.origin.joined, ∃ cause, Table.faultIn? files base name = some cause ∧
    e = .unreadableTable name cause

/-- **What planning reads.** Let the tables of a statement have the same headers in two sets of
files. Then planning has the same outcome over both, the same header and description of the plan or
the same error, unless over one of them it stops at the first record of a joined table that cannot
be read. Where these records are the same as well, the outcome is the same. No record of the first
table is read, so without a join the headers alone decide. -/
theorem outlined_eq_of_heading_eq
    (hheading : ∀ name ∈ s.tables,
      Table.heading files base name = Table.heading files' base name) :
    (outlined files base s = outlined files' base s ∨
      (∃ e, JoinedFault files base s e ∧ (ofStatement files base s).outcome = .error e) ∨
      ∃ e, JoinedFault files' base s e ∧ (ofStatement files' base s).outcome = .error e) ∧
    ((∀ name ∈ s.origin.joined,
      Table.faultIn? files base name = Table.faultIn? files' base name) →
        outlined files base s = outlined files' base s) := by
  constructor
  · refine outlined_eq_or_excuse hheading fun name hname t t' ht => ?_
    obtain ⟨hfault, hfault'⟩ := ht.faultIn?_eq
    refine Table.run_alike_of_excuse (fun cause hcause => ?_) fun cause hcause => ?_
    · exact ⟨name, hname, cause, hfault.trans hcause, by rw [Table.name_of_read ht.1]⟩
    · exact ⟨name, hname, cause, hfault'.trans hcause, by rw [Table.name_of_read ht.2.1]⟩
  · intro hsame
    -- Nothing is excused.
    have hcases : outlined files base s = outlined files' base s ∨
        (∃ e, False ∧ (ofStatement files base s).outcome = .error e) ∨
        ∃ e, False ∧ (ofStatement files' base s).outcome = .error e := by
      refine outlined_eq_or_excuse hheading fun name hname t t' ht => ht.run_alike ?_
      obtain ⟨hfault, hfault'⟩ := ht.faultIn?_eq
      rw [← hfault, ← hfault', hsame name hname]
    simpa using hcases

end Plan

namespace Query

theorem outlined_eq_of_heading_eq_greatestSum :
    (∀ name ∈ greatestSum.tables,
      Table.heading shopFiles "" name = Table.heading damagedFiles "" name) ∧
    (∀ name ∈ greatestSum.origin.joined,
      Table.faultIn? shopFiles "" name = Table.faultIn? damagedFiles "" name) ∧
    Plan.outlined damagedFiles "" greatestSum = .ok greatestSumPlan.outline := by
  have hshops : Table.read damagedFiles "" "shops" = .ok shopsTable := rfl
  have hheading : ∀ name ∈ greatestSum.tables,
      Table.heading shopFiles "" name = Table.heading damagedFiles "" name := by
    intro name hname
    rcases List.mem_pair.mp hname with rfl | rfl
    · rw [Table.heading, Table.heading, read_sales, read_damaged]
      rfl
    · rw [Table.heading, Table.heading, read_shops, hshops]
  have hfault : ∀ name ∈ greatestSum.origin.joined,
      Table.faultIn? shopFiles "" name = Table.faultIn? damagedFiles "" name := by
    intro name hname
    obtain rfl := List.mem_singleton.mp hname
    rw [Table.faultIn?, Table.faultIn?, read_shops, hshops]
  refine ⟨hheading, hfault, ?_⟩
  rw [← (Plan.outlined_eq_of_heading_eq hheading).2 hfault, Plan.outlined, ofStatement_greatestSum]
  rfl

/-- The directory with a record in its second table that cannot be read. -/
def spoiltFiles : Files :=
  shopFiles.put ["data", "shops.csv"] (.file ("id,city\n1,a\n".toUTF8 ++ ⟨#[0xFF, 0x0A]⟩))

def spoiltTable : Table :=
  ⟨"shops", ["id", "city"], [.ok ["1", "a"], .error ⟨2, 3, 12, 0, 0⟩]⟩

/-- A statement that selects a column that no table has. -/
def agesByShop : Statement :=
  ⟨.items [⟨none, "age", none⟩], greatestSum.origin, none, [], [], none⟩

/-- The headers alone do not decide: a record of a joined table that cannot be read is reported
before a column that is unknown. -/
theorem heading_eq_not_enough :
    (∀ name ∈ agesByShop.tables,
      Table.heading shopFiles "" name = Table.heading spoiltFiles "" name) ∧
    (Plan.ofStatement shopFiles "" agesByShop).outcome = .error (.unknownColumn "age") ∧
    (Plan.ofStatement spoiltFiles "" agesByShop).outcome =
      .error (.unreadableTable "shops" ⟨2, 3, 12, 0, 0⟩) := by
  have hsales : Table.read spoiltFiles "" "sales" = .ok salesTable := rfl
  have hshops : Table.read spoiltFiles "" "shops" = .ok spoiltTable := rfl
  refine ⟨?_, ?_, ?_⟩
  · intro name hname
    rcases List.mem_pair.mp hname with rfl | rfl
    · rw [Table.heading, Table.heading, read_sales, hsales]
    · rw [Table.heading, Table.heading, read_shops, hshops]
      rfl
  · exact (Logged.outcome_bind_of_ok ofOrigin_greatestSum _).trans rfl
  · have hrun : spoiltTable.scan.run.outcome =
        .error (.unreadableTable "shops" ⟨2, 3, 12, 0, 0⟩) := by
      rcases spoiltTable.run_scan_cases with ⟨hnone, -⟩ | ⟨cause, hcause, hrun⟩
      · cases hnone
      · cases hcause
        exact hrun
    have hbuckets : (spoiltTable.bucketed "id").outcome =
        .error (.unreadableTable "shops" ⟨2, 3, 12, 0, 0⟩) :=
      (Logged.outcome_bind_of_ok (a := 0) rfl _).trans (Logged.outcome_bind_of_error hrun _)
    refine Logged.outcome_bind_of_error ?_ _
    refine (Logged.outcome_bind_of_ok (a := (.scan salesTable, salesTable.schema)) rfl _).trans ?_
    refine (Logged.outcome_bind_of_ok
      (a := (.compare .equal, ⟨"sales", "shop"⟩, "id")) rfl _).trans ?_
    refine (Logged.outcome_bind_of_ok (a := ()) rfl _).trans ?_
    refine (Logged.outcome_bind_of_ok (a := 0) rfl _).trans ?_
    refine (Logged.outcome_bind_of_ok (a := spoiltTable) rfl _).trans ?_
    exact Logged.outcome_bind_of_error hbuckets _

end Query

end CsvQuery
