import CsvQuery.Proofs.Expr.Equality
import CsvQuery.Proofs.Query.Grouping
import CsvQuery.Proofs.Query.Sorting
import CsvQuery.Proofs.Query.Tables

/-!
The clauses of a statement. Each step that is planned above the tables turns the rows of the step
below into those of the list reading.
-/

namespace CsvQuery

lemma forall₂_of_mapM {α β : Type} {f : α → Except Error β} {l : List α} {l' : List β}
    (h : l.mapM f = .ok l') : List.Forall₂ (fun a b => f a = .ok b) l l' := by
  induction l generalizing l' with
  | nil =>
    cases h
    exact .nil
  | cons a l ih =>
    rw [List.mapM_cons] at h
    obtain ⟨b, hb, h⟩ := Except.bind_eq_ok.mp h
    obtain ⟨rest, hrest, h⟩ := Except.bind_eq_ok.mp h
    cases h
    exact .cons hb (ih hrest)

lemma mem_of_mapM {α β : Type} {f : α → Except Error β} {l : List α} {l' : List β}
    (h : l.mapM f = .ok l') {b : β} (hb : b ∈ l') : ∃ a ∈ l, f a = .ok b := by
  have hresults := forall₂_of_mapM h
  clear h
  induction hresults with
  | nil => cases hb
  | @cons a b' _ _ ha _ ih =>
    rcases List.mem_cons.mp hb with rfl | hb
    · exact ⟨a, by simp, ha⟩
    · obtain ⟨a', ha', hf⟩ := ih hb
      exact ⟨a', List.mem_cons_of_mem _ ha', hf⟩

/-! ### WHERE -/

namespace Expr

variable {schema : Schema} {e : Expr}

lemma exists_eval (h : e.check schema = .ok ()) (r : Row) : ∃ v, e.eval schema r = .ok v := by
  induction e with
  | literal l => exact ⟨_, rfl⟩
  | column name =>
    obtain ⟨position, hposition, -⟩ := Except.bind_eq_ok.mp h
    exact ⟨_, by rw [eval, hposition]; rfl⟩
  | qualified table name =>
    obtain ⟨position, hposition, -⟩ := Except.bind_eq_ok.mp h
    exact ⟨_, by rw [eval, hposition]; rfl⟩
  | binary op left right ihl ihr =>
    obtain ⟨_, hl, hr⟩ := Except.bind_eq_ok.mp h
    obtain ⟨a, ha⟩ := ihl hl
    obtain ⟨b, hb⟩ := ihr hr
    exact ⟨_, by rw [eval, ha, hb]; rfl⟩
  | between e lower upper ih =>
    obtain ⟨_, he, -⟩ := Except.bind_eq_ok.mp h
    obtain ⟨v, hv⟩ := ih he
    exact ⟨_, by rw [eval, hv]; rfl⟩
  | among e candidates ih =>
    obtain ⟨v, hv⟩ := ih h
    exact ⟨_, by rw [eval, hv]; rfl⟩

end Expr

namespace Plan

variable {files : Files} {base : String} {s : Statement} {step step' : Step}

lemma withCondition_yields [Sorter]
    (h : withCondition s.condition (s.schema files base) step = .ok step')
    (hstep : step.Yields (s.origin.relation files base).rows) :
    step'.Yields (s.passing files base) := by
  unfold withCondition at h
  split at h
  · rename_i hnone
    cases h
    have hall : s.passes files base = fun _ => true := by
      funext r
      rw [Statement.passes, hnone]
    rwa [Statement.passing, hall, List.filter_true]
  · rename_i e hsome
    obtain ⟨_, hcheck, h⟩ := Except.bind_eq_ok.mp h
    cases h
    refine hstep.filter fun r _ => ?_
    obtain ⟨v, hv⟩ := e.exists_eval hcheck r
    rw [Expr.passes_of_eval hv, Statement.passes, hsome]
    simp only [hv]

lemma passing_fits (h : (s.origin.relation files base).Fits) :
    ∀ r ∈ s.passing files base, r.length = (s.schema files base).width :=
  fun r hr => h r (List.mem_filter.mp hr).1

/-! ### GROUP BY -/

lemma keyOf_eq_groupKey {positions : List Nat}
    (h : s.groupBy.mapM (s.schema files base).resolve = .ok positions) {r : Row}
    (hr : r.length = (s.schema files base).width) :
    Group.keyOf positions r = s.groupKey files base r := by
  rw [Group.keyOf_eq, Statement.groupKey]
  have hnames := forall₂_of_mapM h
  generalize s.groupBy = names at hnames
  congr 2
  clear h
  induction hnames with
  | nil => rfl
  | cons hname _ ih => rw [List.map_cons, List.map_cons, ih, Schema.cell_of_resolve hname hr.ge]

lemma contains_iff_of_resolve {positions : List Nat}
    (h : s.groupBy.mapM (s.schema files base).resolve = .ok positions) {field : String}
    {position : Nat} (hfield : (s.schema files base).resolve field = .ok position) :
    positions.contains position = s.groupBy.contains field := by
  have hnames := forall₂_of_mapM h
  generalize s.groupBy = names at hnames
  clear h
  induction hnames with
  | nil => rfl
  | @cons name position' names positions hname _ ih =>
    have hiff : position = position' ↔ field = name := by
      constructor
      · rintro rfl
        exact Schema.resolve_inj hfield hname
      · rintro rfl
        rw [hfield] at hname
        exact Except.ok.inj hname
    have hbeq : (position == position') = (field == name) := by
      rw [Bool.eq_iff_iff]
      simpa using hiff
    rw [List.contains_cons, List.contains_cons, ih, hbeq]

def Computes (files : Files) (base : String) (s : Statement) (call : Aggregate × String)
    (column : AggregateColumn) : Prop :=
  column.function = call.1 ∧ (s.schema files base).resolve call.2 = .ok column.position

lemma rowOf_eq_groupRow {positions : List Nat} {aggregates : List AggregateColumn}
    (hpositions : s.groupBy.mapM (s.schema files base).resolve = .ok positions)
    (haggregates : List.Forall₂ (Computes files base s) s.calls aggregates)
    {members : List Row} (hmembers : ∀ r ∈ members, r.length = (s.schema files base).width) :
    Group.rowOf positions aggregates members = s.groupRow files base members := by
  have hresults : aggregates.map (fun column => column.function.reduce
      (if positions.contains column.position then [] else members.map (·.cell column.position))) =
        s.calls.map (s.result files base members) := by
    generalize s.calls = calls at haggregates
    induction haggregates with
    | nil => rfl
    | @cons call column calls aggregates hcall _ ih =>
      obtain ⟨hfunction, hposition⟩ := hcall
      have hcells : members.map (·.cell column.position) =
          members.map ((s.schema files base).cellNamed call.2) :=
        List.map_congr_left fun r hr => Schema.cell_of_resolve hposition (hmembers r hr).ge
      rw [List.map_cons, List.map_cons, ih, hfunction, hcells,
        contains_iff_of_resolve hpositions hposition]
      rfl
  rw [Group.rowOf, hresults, Statement.groupRow]

/-- The row has the cells of the tables, followed by a value for each function of the select list
that only depends on the function and its field. -/
def Shaped (files : Files) (base : String) (s : Statement) (r : Row) : Prop :=
  ∃ (first : Row) (value : Aggregate × String → String),
    first.length = (s.schema files base).width ∧ r = first ++ s.calls.map value

lemma passing_shaped (hcalls : s.calls = []) (hfits : (s.origin.relation files base).Fits) :
    ∀ r ∈ s.passing files base, Shaped files base s r :=
  fun r hr => ⟨r, fun _ => "", passing_fits hfits r hr, by simp [hcalls]⟩

lemma grouped_shaped (hne : s.groupBy ≠ []) (hfits : (s.origin.relation files base).Fits) :
    ∀ r ∈ s.grouped files base, Shaped files base s r := by
  intro r hr
  rw [Statement.grouped, if_neg hne] at hr
  obtain ⟨key, hkey, rfl⟩ := List.mem_map.mp hr
  obtain ⟨row, hrow, hrowKey⟩ := List.mem_map.mp (List.mem_eraseDups.mp hkey)
  have hmem : row ∈ (s.passing files base).filter fun r => s.groupKey files base r == key :=
    List.mem_filter.mpr ⟨hrow, beq_iff_eq.mpr hrowKey⟩
  refine ⟨_, _, ?_, rfl⟩
  obtain ⟨first, later, hmembers⟩ := List.exists_cons_of_ne_nil (List.ne_nil_of_mem hmem)
  have hfirst : first ∈ (s.passing files base).filter fun r => s.groupKey files base r == key := by
    simp [hmembers]
  rw [hmembers]
  exact passing_fits hfits first (List.mem_filter.mp hfirst).1

/-! ### Columns of the result -/

/-- The column shows the item: it has its name and stands where its cell is. -/
def Shows (files : Files) (base : String) (s : Statement) (item : SelectItem)
    (column : OutputColumn) : Prop :=
  column.name = item.outputName ∧
    ∀ r, Shaped files base s r → r.cell column.position = s.itemCell files base item r

lemma shows_plain {item : SelectItem} {column : OutputColumn} (hnone : item.aggregate = none)
    (h : plainColumn (s.schema files base) item = .ok column) : Shows files base s item column := by
  obtain ⟨position, hposition, h⟩ := Except.bind_eq_ok.mp h
  cases h
  refine ⟨rfl, fun r hr => ?_⟩
  obtain ⟨first, value, hfirst, rfl⟩ := hr
  rw [Statement.itemCell, hnone]
  exact Schema.cell_of_resolve hposition (by simp [hfirst])

lemma cellUnder_calls {calls : List (Aggregate × String)} {call : Aggregate × String}
    (h : call ∈ calls) (value : Aggregate × String → String) :
    cellUnder calls (· == call) (calls.map value) = value call := by
  induction calls with
  | nil => cases h
  | cons call' calls ih =>
    by_cases heq : call' = call
    · simp [cellUnder, heq]
    · have hrest := ih ((List.mem_cons.mp h).resolve_left (Ne.symm heq))
      simpa [cellUnder, heq] using hrest

lemma shows_call {item : SelectItem} {f : Aggregate} (hf : item.aggregate = some f)
    {before after : List (Aggregate × String)}
    (hcalls : s.calls = before ++ (f, item.field) :: after) :
    Shows files base s item
      ⟨item.outputName, (s.schema files base).width + before.length⟩ := by
  refine ⟨rfl, fun r hr => ?_⟩
  obtain ⟨first, value, hfirst, rfl⟩ := hr
  have hmem : (f, item.field) ∈ s.calls := by simp [hcalls]
  have hcell : (first ++ s.calls.map value).cell ((s.schema files base).width + before.length) =
      value (f, item.field) := by
    simp [Row.cell, ← hfirst, hcalls]
  rw [hcell, Statement.itemCell, hf, ← hfirst, List.drop_left]
  exact (cellUnder_calls hmem value).symm

lemma groupedColumns_shows {list : List SelectItem} (before : List (Aggregate × String))
    {columns : List OutputColumn} {aggregates : List AggregateColumn}
    (h : groupedColumns (s.schema files base) before.length list = .ok (columns, aggregates))
    (hcalls : s.calls = before ++ list.filterMap (·.call?)) :
    List.Forall₂ (Shows files base s) list columns ∧
      List.Forall₂ (Computes files base s) (list.filterMap (·.call?)) aggregates := by
  induction list generalizing before columns aggregates with
  | nil =>
    cases h
    exact ⟨.nil, .nil⟩
  | cons item list ih =>
    unfold groupedColumns at h
    split at h
    · rename_i hnone
      obtain ⟨column, hcolumn, h⟩ := Except.bind_eq_ok.mp h
      obtain ⟨⟨columns', aggregates'⟩, hrest, h⟩ := Except.bind_eq_ok.mp h
      cases h
      have hcall : item.call? = none := by simp [SelectItem.call?, hnone]
      rw [List.filterMap_cons_none hcall] at hcalls ⊢
      obtain ⟨hshows, hcomputes⟩ := ih before hrest hcalls
      exact ⟨.cons (shows_plain hnone hcolumn) hshows, hcomputes⟩
    · rename_i f hsome
      obtain ⟨position, hposition, h⟩ := Except.bind_eq_ok.mp h
      obtain ⟨⟨columns', aggregates'⟩, hrest, h⟩ := Except.bind_eq_ok.mp h
      cases h
      have hcall : item.call? = some (f, item.field) := by simp [SelectItem.call?, hsome]
      rw [List.filterMap_cons_some hcall] at hcalls ⊢
      have hbefore : (before ++ [(f, item.field)]).length = before.length + 1 := by simp
      rw [← hbefore] at hrest
      obtain ⟨hshows, hcomputes⟩ := ih _ hrest (by simpa using hcalls)
      exact ⟨.cons (shows_call hsome hcalls) hshows, .cons ⟨rfl, hposition⟩ hcomputes⟩

lemma plainColumns_shows {list : List SelectItem} {columns : List OutputColumn}
    (h : plainColumns (s.schema files base) list = .ok columns) :
    List.Forall₂ (Shows files base s) list columns ∧ list.filterMap (·.call?) = [] := by
  induction list generalizing columns with
  | nil =>
    cases h
    exact ⟨.nil, rfl⟩
  | cons item list ih =>
    unfold plainColumns at h
    cases hf : item.aggregate with
    | some f =>
      rw [hf] at h
      cases h
    | none =>
      rw [hf] at h
      obtain ⟨column, hcolumn, h⟩ := Except.bind_eq_ok.mp h
      obtain ⟨columns', hrest, h⟩ := Except.bind_eq_ok.mp h
      cases h
      obtain ⟨hshows, hcalls⟩ := ih hrest
      have hcall : item.call? = none := by simp [SelectItem.call?, hf]
      exact ⟨.cons (shows_plain hf hcolumn) hshows, by rwa [List.filterMap_cons_none hcall]⟩

lemma calls_all (h : s.selection = .all) : s.calls = [] := by
  rw [Statement.calls, h]

lemma calls_items {list : List SelectItem} (h : s.selection = .items list) :
    s.calls = list.filterMap (·.call?) := by
  rw [Statement.calls, h]

def ColumnsOf (files : Files) (base : String) (s : Statement) (columns : List OutputColumn) :
    Prop :=
  match s.selection with
  | .all => columns = allColumns (s.schema files base)
  | .items list => List.Forall₂ (Shows files base s) list columns

lemma aggregate_yields [Sorter] {positions : List Nat} {aggregates : List AggregateColumn}
    (hne : s.groupBy ≠ [])
    (hpositions : s.groupBy.mapM (s.schema files base).resolve = .ok positions)
    (haggregates : List.Forall₂ (Computes files base s) s.calls aggregates)
    (hstep : step.Yields (s.passing files base)) (hfits : (s.origin.relation files base).Fits)
    (tables : String) :
    (Step.aggregate tables s.groupBy positions aggregates step).Yields (s.grouped files base) := by
  have hfits' := passing_fits hfits
  have hkeys : ∀ r ∈ s.passing files base, Group.keyOf positions r = s.groupKey files base r :=
    fun r hr => keyOf_eq_groupKey hpositions (hfits' r hr)
  have hgrouped : s.grouped files base =
      Group.summaries positions aggregates (s.passing files base) := by
    rw [Statement.grouped, if_neg hne, Group.summaries_eq, List.map_congr_left hkeys]
    refine List.map_congr_left fun key _ => ?_
    have hfilter : (s.passing files base).filter (Group.keyOf positions · == key) =
        (s.passing files base).filter fun r => s.groupKey files base r == key :=
      List.filter_congr fun r hr => by rw [hkeys r hr]
    rw [hfilter]
    exact (rowOf_eq_groupRow hpositions haggregates
      fun r hr => hfits' r (List.mem_filter.mp hr).1).symm
  rw [hgrouped]
  exact hstep.aggregate tables s.groupBy positions aggregates

/-- **Grouping.** The rows behind the GROUP BY clause have the cells of the tables first and the
results of the functions behind them. -/
lemma ofSelection_yields [Sorter] {columns : List OutputColumn}
    (h : ofSelection s (s.schema files base) step = .ok (step', columns))
    (hstep : step.Yields (s.passing files base)) (hfits : (s.origin.relation files base).Fits) :
    step'.Yields (s.grouped files base) ∧ (∀ r ∈ s.grouped files base, Shaped files base s r) ∧
      ColumnsOf files base s columns := by
  unfold ofSelection at h
  by_cases hne : s.groupBy = []
  · have hfalse : s.isAggregation = false := by simp [Statement.isAggregation, hne]
    rw [hfalse] at h
    have hgrouped : s.grouped files base = s.passing files base := by
      rw [Statement.grouped, if_pos hne]
    rw [hgrouped]
    cases hsel : s.selection with
    | all =>
      rw [hsel] at h
      cases h
      have hcalls := calls_all hsel
      exact ⟨hstep, passing_shaped hcalls hfits, by rw [ColumnsOf, hsel]⟩
    | items list =>
      rw [hsel] at h
      obtain ⟨columns', hcolumns, h⟩ := Except.bind_eq_ok.mp h
      cases h
      obtain ⟨hshows, hnone⟩ := plainColumns_shows hcolumns
      have hcalls : s.calls = [] := (calls_items hsel).trans hnone
      exact ⟨hstep, passing_shaped hcalls hfits, by rw [ColumnsOf, hsel]; exact hshows⟩
  · have htrue : s.isAggregation = true := by simp [Statement.isAggregation, hne]
    rw [htrue] at h
    obtain ⟨positions, hpositions, h⟩ := Except.bind_eq_ok.mp h
    cases hsel : s.selection with
    | all =>
      rw [hsel] at h
      cases h
      have hcalls := calls_all hsel
      exact ⟨aggregate_yields hne hpositions (hcalls ▸ .nil) hstep hfits _,
        grouped_shaped hne hfits, by rw [ColumnsOf, hsel]⟩
    | items list =>
      rw [hsel] at h
      obtain ⟨⟨columns', aggregates⟩, hcolumns, h⟩ := Except.bind_eq_ok.mp h
      cases h
      have hcalls := calls_items hsel
      obtain ⟨hshows, hcomputes⟩ := groupedColumns_shows [] hcolumns hcalls
      exact ⟨aggregate_yields hne hpositions (hcalls ▸ hcomputes) hstep hfits _,
        grouped_shaped hne hfits, by rw [ColumnsOf, hsel]; exact hshows⟩

end Plan

end CsvQuery
