import CsvQuery.Proofs.Query.Clauses

/-!
Execution is the list reading. Above the grouped rows, a plan sorts them, keeps the first ones and
shows the columns of the result; with the clauses below, the whole plan yields the rows of the
answer.
-/

namespace CsvQuery.Plan

variable {files : Files} {base : String} {s : Statement} {step step' : Step}

/-! ### ORDER BY -/

lemma transOn_compareKeys {rows : List Row} {keys : List OrderKey}
    (h : ∀ key ∈ keys, Uniform (rows.map (s.keyCell files base key.field))) :
    TransOn rows (s.compareKeys files base keys) := by
  induction keys with
  | nil => exact transOn_eq rows
  | cons key keys ih =>
    have hkeys := ih fun key hmem => h key (List.mem_cons_of_mem _ hmem)
    have hkey : Uniform (rows.map (s.keyCell files base key.field)) := h key (by simp)
    exact (hkey.transOn_directed key.direction).lex hkeys

def Sorts (files : Files) (base : String) (s : Statement) (key : OrderKey) (k : SortKey) : Prop :=
  k.direction = key.direction ∧
    ∀ r, Shaped files base s r → r.cell k.position = s.keyCell files base key.field r

lemma Shaped.length_le {r : Row} (h : Shaped files base s r) :
    (s.schema files base).width ≤ r.length := by
  obtain ⟨first, value, hfirst, rfl⟩ := h
  simp [hfirst]

lemma find?_zipIdx (columns : List Column) (field : String) (k : Nat) :
    (((columns.map (·.name)).zipIdx k).map fun entry => OutputColumn.mk entry.1 entry.2).find?
        (·.name == field) =
      (columns.findIdx? (·.name == field)).map fun p => ⟨field, k + p⟩ := by
  induction columns generalizing k with
  | nil => rfl
  | cons c columns ih =>
    by_cases hc : c.name = field
    · simp [List.findIdx?_cons, hc]
    · have hrest := ih (k + 1)
      have hnext : ∀ p, k + 1 + p = k + (p + 1) := by omega
      simp [List.findIdx?_cons, hc, hrest, Function.comp_def, hnext]

lemma find?_allColumns (schema : Schema) (field : String) :
    (allColumns schema).find? (·.name == field) =
      (schema.columns.findIdx? (·.name == field)).map fun p => ⟨field, p⟩ := by
  rw [allColumns, schema.header_eq, find?_zipIdx]
  simp only [Nat.zero_add]

lemma find?_shows {list : List SelectItem} {columns : List OutputColumn}
    (h : List.Forall₂ (Shows files base s) list columns) (field : String) :
    (∃ item column, list.find? (·.outputName == field) = some item ∧
      columns.find? (·.name == field) = some column ∧ Shows files base s item column) ∨
    (list.find? (·.outputName == field) = none ∧ columns.find? (·.name == field) = none) := by
  induction h with
  | nil => exact .inr ⟨rfl, rfl⟩
  | @cons item column list columns hshows _ ih =>
    rw [List.find?_cons, List.find?_cons, hshows.1]
    cases item.outputName == field with
    | true => exact .inl ⟨item, column, rfl, rfl, hshows⟩
    | false => exact ih

lemma sortKey_sorts {columns : List OutputColumn} {key : OrderKey} {k : SortKey}
    (hcolumns : ColumnsOf files base s columns)
    (h : sortKey (s.schema files base) columns key = .ok k) : Sorts files base s key k := by
  unfold sortKey at h
  unfold ColumnsOf at hcolumns
  cases hsel : s.selection with
  | all =>
    have hcell : ∀ r, s.keyCell files base key.field r =
        (s.schema files base).cellNamed key.field r := by
      intro r
      rw [Statement.keyCell, hsel]
    rw [hsel] at hcolumns
    subst hcolumns
    split at h
    · rename_i column hcolumn
      cases h
      obtain ⟨p, hp, rfl⟩ := Option.map_eq_some_iff.mp
        ((find?_allColumns (s.schema files base) key.field).symm.trans hcolumn)
      refine ⟨rfl, fun r hr => ?_⟩
      rw [hcell]
      exact (cellUnder_eq_cell hp ((Schema.length_columns _).trans_le hr.length_le)).symm
    · obtain ⟨position, hposition, h⟩ := Except.bind_eq_ok.mp h
      cases h
      refine ⟨rfl, fun r hr => ?_⟩
      rw [hcell]
      exact Schema.cell_of_resolve hposition hr.length_le
  | items list =>
    rw [hsel] at hcolumns
    rcases find?_shows hcolumns key.field with
      ⟨item, column, hitem, hcolumn, hshows⟩ | ⟨hitem, hnone⟩
    · rw [hcolumn] at h
      cases h
      refine ⟨rfl, fun r hr => ?_⟩
      rw [Statement.keyCell, hsel]
      simp only [hitem]
      exact hshows.2 r hr
    · rw [hnone] at h
      obtain ⟨position, hposition, h⟩ := Except.bind_eq_ok.mp h
      cases h
      refine ⟨rfl, fun r hr => ?_⟩
      rw [Statement.keyCell, hsel]
      simp only [hitem]
      exact Schema.cell_of_resolve hposition hr.length_le

lemma compareAll_eq_compareKeys {keys : List OrderKey} {sortKeys : List SortKey}
    (h : List.Forall₂ (Sorts files base s) keys sortKeys) {a b : Row}
    (ha : Shaped files base s a) (hb : Shaped files base s b) :
    SortKey.compareAll sortKeys a b = s.compareKeys files base keys a b := by
  induction h with
  | nil => rfl
  | @cons key k keys sortKeys hkey _ ih =>
    obtain ⟨hdirection, hcell⟩ := hkey
    rw [SortKey.compareAll, Statement.compareKeys, ih, SortKey.compare, hdirection,
      hcell a ha, hcell b hb]
    cases key.direction <;>
      cases compareCells (s.keyCell files base key.field a) (s.keyCell files base key.field b) <;>
      rfl

/-- **Sorting.** The rows come in the order of the keys, and rows that no key tells apart keep their
order. -/
lemma withOrder_yields [Sorter] {columns : List OutputColumn}
    (h : withOrder s.orderBy (s.schema files base) columns step = .ok step')
    (hcolumns : ColumnsOf files base s columns)
    (htrans : TransOn (s.grouped files base) (s.compareKeys files base s.orderBy))
    (hshaped : ∀ r ∈ s.grouped files base, Shaped files base s r)
    (hstep : step.Yields (s.grouped files base)) : step'.Yields (s.ordered files base) := by
  unfold withOrder at h
  by_cases hempty : s.orderBy = []
  · rw [hempty] at h
    cases h
    have hordered : s.ordered files base = s.grouped files base := by
      rw [Statement.ordered, hempty]
      exact List.Pairwise.insertionSort_eq (List.pairwise_of_forall fun a b => by
        simp [Statement.compareKeys])
    rwa [hordered]
  · have hfalse : s.orderBy.isEmpty = false := by simpa using hempty
    rw [hfalse] at h
    obtain ⟨keys, hkeys, h⟩ := Except.bind_eq_ok.mp h
    cases h
    have hsorts : List.Forall₂ (Sorts files base s) s.orderBy keys :=
      (forall₂_of_mapM hkeys).imp fun key k hk => sortKey_sorts hcolumns hk
    -- Both sortings are stable, and on the rows at hand both compare in the same transitive way.
    have hcompare : ∀ a ∈ s.grouped files base, ∀ b ∈ s.grouped files base,
        SortKey.compareAll keys a b = s.compareKeys files base s.orderBy a b :=
      fun a ha b hb => compareAll_eq_compareKeys hsorts (hshaped a ha) (hshaped b hb)
    have htrans' := TransOn.congr htrans hcompare
    obtain ⟨sorted, hsort, hstable⟩ := SortKey.sort_of_transOn htrans'
    have hordered : sorted = s.ordered files base :=
      htrans'.sorted_eq_insertionSort hstable fun a ha b hb => (hcompare a ha b hb).symm
    rw [← hordered]
    exact hstep.sort hsort

/-! ### LIMIT and the columns of the result -/

lemma withLimit_yields [Sorter] (h : step.Yields (s.ordered files base)) :
    (withLimit s.limit step).Yields (s.limited files base) := by
  unfold withLimit Statement.limited
  cases s.limit with
  | none => exact h
  | some n =>
    cases n with
    | zero => exact h
    | succ n => exact h.limit (n + 1)

lemma mem_grouped_of_mem_limited {r : Row} (h : r ∈ s.limited files base) :
    r ∈ s.grouped files base := by
  have hordered : r ∈ s.ordered files base := by
    unfold Statement.limited at h
    split at h
    · exact h
    · exact h
    · exact List.mem_of_mem_take h
  exact (List.mem_insertionSort _).mp hordered

lemma header_columns {columns : List OutputColumn} (h : ColumnsOf files base s columns) :
    columns.map (·.name) = s.outputHeader files base := by
  unfold ColumnsOf at h
  unfold Statement.outputHeader
  cases hsel : s.selection with
  | all =>
    rw [hsel] at h
    subst h
    simp only [allColumns, List.map_map, Function.comp_def]
    exact List.zipIdx_map_fst 0 _
  | items list =>
    rw [hsel] at h
    clear hsel
    dsimp only
    induction h with
    | nil => rfl
    | cons hshows _ ih => rw [List.map_cons, List.map_cons, ih, hshows.1]

lemma map_cell_range {r : Row} {n : Nat} (h : n ≤ r.length) :
    (List.range n).map r.cell = r.take n := by
  refine List.ext_getElem (by simp [h]) fun i hi hi' => ?_
  have hlt : i < r.length := by
    simp only [List.length_map, List.length_range] at hi
    omega
  simp [Row.cell, List.getElem?_eq_getElem hlt]

lemma project_columns {columns : List OutputColumn} (h : ColumnsOf files base s columns) {r : Row}
    (hr : Shaped files base s r) :
    r.project (columns.map (·.position)) = s.outputRow files base r := by
  unfold ColumnsOf at h
  unfold Statement.outputRow
  cases hsel : s.selection with
  | all =>
    rw [hsel] at h
    subst h
    have hpositions : (allColumns (s.schema files base)).map (·.position) =
        List.range (s.schema files base).width := by
      simp only [allColumns, List.map_map, Function.comp_def]
      rw [List.range_eq_range']
      simp [Schema.width]
    rw [hpositions]
    exact map_cell_range hr.length_le
  | items list =>
    rw [hsel] at h
    clear hsel
    dsimp only
    induction h with
    | nil => rfl
    | @cons item column list columns hshows _ ih =>
      rw [List.map_cons, List.map_cons, ← ih, ← hshows.2 r hr]
      rfl

/-- **Clauses.** The plan above the rows of the tables yields the rows of the answer. -/
lemma ofClauses_yields [Sorter] {plan : Plan}
    (h : ofClauses s (s.schema files base) step = .ok plan)
    (hfits : (s.origin.relation files base).Fits)
    (htrans : TransOn (s.grouped files base) (s.compareKeys files base s.orderBy))
    (hstep : step.Yields (s.origin.relation files base).rows) :
    plan.header = (s.answer files base).header ∧
      plan.root.Yields (s.answer files base).rows := by
  obtain ⟨filtered, hfiltered, h⟩ := Except.bind_eq_ok.mp h
  obtain ⟨⟨grouped, columns⟩, hgrouped, h⟩ := Except.bind_eq_ok.mp h
  obtain ⟨sorted, hsorted, h⟩ := Except.bind_eq_ok.mp h
  cases h
  have hpassing := withCondition_yields hfiltered hstep
  obtain ⟨hyields, hshaped, hcolumns⟩ := ofSelection_yields hgrouped hpassing hfits
  have hordered := withOrder_yields hsorted hcolumns htrans hshaped hyields
  refine ⟨header_columns hcolumns, ?_⟩
  have hrows : (s.answer files base).rows =
      (s.limited files base).map (Row.project · (columns.map (·.position))) :=
    List.map_congr_left fun r hr =>
      (project_columns hcolumns (hshaped r (mem_grouped_of_mem_limited hr))).symm
  rw [hrows]
  exact (withLimit_yields hordered).project _ _

end CsvQuery.Plan

namespace CsvQuery.Query

section

variable [Sorter] {files : Files} {base : String} {s : Statement} {plan : Plan}

lemma execute_of_transOn (hplan : (Plan.ofStatement files base s).outcome = .ok plan)
    (hreadable : s.origin.Readable files base)
    (htrans : TransOn (s.grouped files base) (s.compareKeys files base s.orderBy)) :
    (execute files base s).outcome = .ok (s.answer files base) := by
  have hclauses := hplan
  simp only [Plan.ofStatement, Logged.outcome_bind_eq_ok] at hclauses
  obtain ⟨⟨step, schema⟩, htables, hclauses⟩ := hclauses
  obtain ⟨rfl, hstep, hfits⟩ := Plan.ofOrigin_yields htables hreadable
  obtain ⟨hheader, hroot⟩ := Plan.ofClauses_yields hclauses hfits htrans hstep
  have hanswer : s.answer files base = ⟨plan.header, (s.answer files base).rows⟩ := by
    rw [hheader]
  rw [hanswer]
  exact Logged.outcome_bind_eq_ok.mpr ⟨plan, Logged.outcome_mapError_eq_ok.mpr hplan,
    Logged.outcome_bind_eq_ok.mpr ⟨_, hroot.outcome_run, rfl⟩⟩

/-- **Execution is the list reading.** If a statement can be planned, all records can be read and
the cells of each sort key are integers throughout or nowhere, the result is the answer. -/
theorem execute_eq_answer (hplan : (Plan.ofStatement files base s).outcome = .ok plan)
    (hreadable : ∀ name ∈ s.tables, ∀ t, Table.read files base name = .ok t →
      ∀ record ∈ t.records, ∃ cells, record = .ok cells)
    (huniform : ∀ key ∈ s.orderBy,
      Uniform ((s.grouped files base).map (s.keyCell files base key.field))) :
    (execute files base s).outcome = .ok (s.answer files base) :=
  execute_of_transOn hplan hreadable (Plan.transOn_compareKeys huniform)

end

attribute [local instance] Sorter.standard

def shopFiles : Files :=
  ((Files.ofDirectory ["data"]).put ["data", "sales.csv"]
      (.file "shop,sum\n2,1\n1,5\n2,2\n3\n1,4,9\n".toUTF8)).put ["data", "shops.csv"]
    (.file "id,city\n1,a\n2,b\n3,a\n".toUTF8)

/-- The first table of the directory, with a short record and a long one. -/
def salesTable : Table :=
  ⟨"sales", ["shop", "sum"],
    [.ok ["2", "1"], .ok ["1", "5"], .ok ["2", "2"], .ok ["3"], .ok ["1", "4", "9"]]⟩

def shopsTable : Table :=
  ⟨"shops", ["id", "city"], [.ok ["1", "a"], .ok ["2", "b"], .ok ["3", "a"]]⟩

def shopBuckets : Buckets :=
  .ofRows 0 [["1", "a"], ["2", "b"], ["3", "a"]]

/-- The statement that asks for the city with the greatest sum. -/
def greatestSum : Statement :=
  ⟨.items [⟨none, "city", none⟩, ⟨some .sum, "sum", some "total"⟩],
    .join .inner (.table "sales") "shops"
      (.binary (.compare .equal) (.qualified "sales" "shop") (.qualified "shops" "id")),
    some (.binary (.compare .greater) (.column "sum") (.literal (.number 0))), ["city"],
    [⟨"total", .descending⟩], some 1⟩

def greatestSumPlan : Plan :=
  ⟨["city", "total"], .project ["city", "total"] [3, 4] <| .limit 1 <| .sort [⟨4, .descending⟩] <|
    .aggregate "sales, shops" ["city"] [3] [⟨.sum, 1⟩] <|
    .filter (.binary (.compare .greater) (.column "sum") (.literal (.number 0)))
      (salesTable.schema.join shopsTable.schema) <|
    .join .inner "shops" shopBuckets 0 (.scan salesTable)⟩

lemma read_sales : Table.read shopFiles "" "sales" = .ok salesTable := rfl

lemma read_shops : Table.read shopFiles "" "shops" = .ok shopsTable := rfl

lemma ofOrigin_greatestSum :
    (Plan.ofOrigin shopFiles "" greatestSum.origin).outcome =
      .ok (.join .inner "shops" shopBuckets 0 (.scan salesTable),
        salesTable.schema.join shopsTable.schema) := by
  have hbuckets : (shopsTable.bucketed "id").outcome = .ok shopBuckets :=
    Logged.outcome_bind_eq_ok.mpr ⟨0, rfl,
      Logged.outcome_bind_eq_ok.mpr ⟨_, shopsTable.outcome_run_scan, rfl⟩⟩
  refine Logged.outcome_bind_eq_ok.mpr ⟨(.scan salesTable, salesTable.schema), rfl, ?_⟩
  refine Logged.outcome_bind_eq_ok.mpr
    ⟨(.compare .equal, ⟨"sales", "shop"⟩, "id"), rfl, ?_⟩
  refine Logged.outcome_bind_eq_ok.mpr ⟨(), rfl, ?_⟩
  refine Logged.outcome_bind_eq_ok.mpr ⟨0, rfl, ?_⟩
  refine Logged.outcome_bind_eq_ok.mpr ⟨shopsTable, rfl, ?_⟩
  exact Logged.outcome_bind_eq_ok.mpr ⟨shopBuckets, hbuckets, rfl⟩

lemma ofStatement_greatestSum :
    (Plan.ofStatement shopFiles "" greatestSum).outcome = .ok greatestSumPlan :=
  Logged.outcome_bind_eq_ok.mpr ⟨_, ofOrigin_greatestSum, rfl⟩

theorem execute_eq_answer_greatestSum :
    (Plan.ofStatement shopFiles "" greatestSum).outcome = .ok greatestSumPlan ∧
    (∀ name ∈ greatestSum.tables, ∀ t, Table.read shopFiles "" name = .ok t →
      ∀ record ∈ t.records, ∃ cells, record = .ok cells) ∧
    (∀ key ∈ greatestSum.orderBy,
      Uniform ((greatestSum.grouped shopFiles "").map
        (greatestSum.keyCell shopFiles "" key.field))) ∧
    (execute shopFiles "" greatestSum).outcome = .ok ⟨["city", "total"], [["a", "9"]]⟩ := by
  have hreadable : ∀ name ∈ greatestSum.tables, ∀ t, Table.read shopFiles "" name = .ok t →
      ∀ record ∈ t.records, ∃ cells, record = .ok cells := by
    intro name hname t ht record hrecord
    simp only [greatestSum, Statement.tables, Origin.tables, List.singleton_append,
      List.mem_cons, List.not_mem_nil, or_false] at hname
    rcases hname with rfl | rfl
    · rw [read_sales] at ht
      cases ht
      simp only [salesTable, List.mem_cons, List.not_mem_nil, or_false] at hrecord
      rcases hrecord with rfl | rfl | rfl | rfl | rfl <;> exact ⟨_, rfl⟩
    · rw [read_shops] at ht
      cases ht
      simp only [shopsTable, List.mem_cons, List.not_mem_nil, or_false] at hrecord
      rcases hrecord with rfl | rfl | rfl <;> exact ⟨_, rfl⟩
  have huniform : ∀ key ∈ greatestSum.orderBy,
      Uniform ((greatestSum.grouped shopFiles "").map
        (greatestSum.keyCell shopFiles "" key.field)) := by
    intro key hkey
    obtain rfl : key = ⟨"total", .descending⟩ := List.mem_singleton.mp hkey
    exact .inl (by decide +kernel)
  have hanswer : greatestSum.answer shopFiles "" = ⟨["city", "total"], [["a", "9"]]⟩ := by
    decide +kernel
  refine ⟨ofStatement_greatestSum, hreadable, huniform, ?_⟩
  rw [execute_eq_answer ofStatement_greatestSum hreadable huniform, hanswer]

end CsvQuery.Query
