import CsvQuery.Proofs.Query.Matching

/-!
What the names of ORDER BY denote. A name is looked up among the columns of the result first, where
the first one counts, and then among the columns of the tables, where there must be only one. So a
plan sorts by the one column that a name denotes, unless the result has columns of the name that
stand at different positions.
-/

namespace CsvQuery

namespace Schema

variable {schema : Schema} {name : String} {p : Nat}

/-- The only column with the name stands at the position. -/
structure HasOnly (schema : Schema) (name : String) (p : Nat) : Prop where
  found : ∃ c, schema.columns[p]? = some c ∧ c.name = name
  only : ∀ q c, schema.columns[q]? = some c → c.name = name → q = p

lemma nodup_positions_named (schema : Schema) (name : String) :
    ((schema.named name).map (·.2)).Nodup := by
  have hsublist : ((schema.named name).map (·.2)).Sublist (schema.columns.zipIdx.map (·.2)) :=
    List.filter_sublist.map _
  refine hsublist.nodup ?_
  rw [List.zipIdx_map_snd]
  exact List.nodup_range'

/-- **Unqualified names.** A name is resolved if it is that of exactly one column. -/
lemma resolve_eq_ok_iff : schema.resolve name = .ok p ↔ schema.HasOnly name p := by
  have hnodup := nodup_positions_named schema name
  rw [resolve_eq]
  constructor
  · intro h
    split at h
    · cases h
    · rename_i entry hnamed
      cases h
      refine ⟨⟨entry.1, mem_named.mp (hnamed ▸ List.mem_singleton_self entry)⟩, ?_⟩
      intro q c hq hc
      have hmem := mem_named.mpr ⟨hq, hc⟩
      rw [hnamed] at hmem
      exact congrArg Prod.snd (List.mem_singleton.mp hmem)
    · cases h
  · rintro ⟨⟨c, hp, hc⟩, honly⟩
    have hposition : ∀ entry ∈ schema.named name, entry.2 = p := by
      rintro ⟨c', q⟩ hentry
      obtain ⟨hq, hc'⟩ := mem_named.mp hentry
      exact honly q c' hq hc'
    have hmem : (c, p) ∈ schema.named name := mem_named.mpr ⟨hp, hc⟩
    split
    · rename_i hnamed
      rw [hnamed] at hmem
      cases hmem
    · rename_i entry hnamed
      rw [hposition entry (by simp [hnamed])]
    · -- Two entries would stand at the same position.
      rename_i entries hnil hsingle
      match hnamed : schema.named name with
      | [] => exact absurd hnamed hnil
      | [entry] => exact absurd hnamed (hsingle entry)
      | first :: second :: rest =>
        rw [hnamed] at hnodup
        have hfirst := hposition first (by simp [hnamed])
        have hsecond := hposition second (by simp [hnamed])
        simp [hfirst, hsecond] at hnodup

end Schema

def Step.sortKeys : Step → List SortKey
  | .sort keys _ => keys
  | .limit _ step | .project _ _ step => step.sortKeys
  | .scan _ | .join _ _ _ _ _ | .filter _ _ _ | .aggregate _ _ _ _ _ => []

def Plan.columns (plan : Plan) : List OutputColumn :=
  match plan.root with
  | .project header positions _ => List.zipWith OutputColumn.mk header positions
  | _ => []

namespace Plan

variable {files : Files} {base : String} {s : Statement} {schema : Schema}
  {columns : List OutputColumn} {name : String} {p : Nat} {key : OrderKey} {k : SortKey}
  {step step' : Step} {plan : Plan}

/-- The name denotes one column, which stands at the position. -/
inductive Denotes (schema : Schema) (columns : List OutputColumn) (name : String) (p : Nat) : Prop
  /-- There are columns of the result with the name, and all of them stand there. -/
  | shown (hsome : ∃ c ∈ columns, c.name = name)
    (hall : ∀ c ∈ columns, c.name = name → c.position = p)
  /-- No column of the result has the name, and exactly one column of the tables. -/
  | ofTables (hnone : ∀ c ∈ columns, c.name ≠ name) (honly : schema.HasOnly name p)

/-- Columns of the result with the name stand at different positions. -/
def Clashes (columns : List OutputColumn) (name : String) : Prop :=
  ∃ c ∈ columns, ∃ c' ∈ columns, c.name = name ∧ c'.name = name ∧ c.position ≠ c'.position

lemma Clashes.not_denotes (h : Clashes columns name) : ¬ Denotes schema columns name p := by
  obtain ⟨c, hc, c', hc', hname, hname', hne⟩ := h
  rintro (⟨-, hall⟩ | ⟨hnone, -⟩)
  · exact hne ((hall c hc hname).trans (hall c' hc' hname').symm)
  · exact hnone c hc hname

/-- The sort key is in the direction of the key of ORDER BY and at the column that its name denotes;
where the name clashes, it is at the first column of the result with the name. -/
structure SortsBy (schema : Schema) (columns : List OutputColumn) (key : OrderKey) (k : SortKey) :
    Prop where
  direction : k.direction = key.direction
  position : Denotes schema columns key.field k.position ∨
    Clashes columns key.field ∧
      (columns.find? (·.name == key.field)).map (·.position) = some k.position

lemma mem_of_find? {c : OutputColumn} (h : columns.find? (·.name == name) = some c) :
    c ∈ columns ∧ c.name = name :=
  ⟨List.mem_of_find?_eq_some h, by simpa using List.find?_some h⟩

lemma denotes_or_clashes_of_find? {c : OutputColumn} (h : columns.find? (·.name == name) = some c) :
    Denotes schema columns name c.position ∨ Clashes columns name := by
  obtain ⟨hmem, hname⟩ := mem_of_find? h
  by_cases hall : ∀ c' ∈ columns, c'.name = name → c'.position = c.position
  · exact .inl (.shown ⟨c, hmem, hname⟩ hall)
  · push Not at hall
    obtain ⟨c', hmem', hname', hne⟩ := hall
    exact .inr ⟨c', hmem', c, hmem, hname', hname, hne⟩

lemma exists_find?_of_mem {c : OutputColumn} (hc : c ∈ columns) (hname : c.name = name) :
    ∃ c' ∈ columns, c'.name = name ∧ columns.find? (·.name == name) = some c' := by
  cases hfind : columns.find? (·.name == name) with
  | none => simpa [hname] using List.find?_eq_none.mp hfind c hc
  | some c' =>
    obtain ⟨hmem, hname'⟩ := mem_of_find? hfind
    exact ⟨c', hmem, hname', rfl⟩

lemma find?_name_eq_none :
    columns.find? (·.name == name) = none ↔ ∀ c ∈ columns, c.name ≠ name := by
  simp [List.find?_eq_none]

/-- **One key of ORDER BY.** A sort key is planned for it exactly if that sorts by it. -/
lemma sortKey_eq_ok_iff : sortKey schema columns key = .ok k ↔ SortsBy schema columns key k := by
  obtain ⟨position, direction⟩ := k
  unfold sortKey
  constructor
  · intro h
    split at h
    · rename_i c hfind
      cases h
      refine ⟨rfl, (denotes_or_clashes_of_find? hfind).imp_right fun hclash => ⟨hclash, ?_⟩⟩
      rw [hfind]
      rfl
    · rename_i hfind
      obtain ⟨position, hposition, h⟩ := Except.bind_eq_ok.mp h
      cases h
      exact ⟨rfl, .inl (.ofTables (find?_name_eq_none.mp hfind)
        (Schema.resolve_eq_ok_iff.mp hposition))⟩
  · rintro ⟨rfl, hdenotes | ⟨-, hfirst⟩⟩
    · rcases hdenotes with ⟨⟨c, hc, hname⟩, hall⟩ | ⟨hnone, honly⟩
      · obtain ⟨c', hc', hname', hfind⟩ := exists_find?_of_mem hc hname
        rw [hfind]
        simp only [hall c' hc' hname']
      · rw [find?_name_eq_none.mpr hnone]
        exact Except.bind_eq_ok.mpr ⟨position, Schema.resolve_eq_ok_iff.mpr honly, rfl⟩
    · obtain ⟨c, hfind, hposition⟩ := Option.map_eq_some_iff.mp hfirst
      rw [hfind]
      simp only [hposition]

lemma exists_sortsBy_iff : (∃ k, SortsBy schema columns key k) ↔
    (∃ p, Denotes schema columns key.field p) ∨ Clashes columns key.field := by
  constructor
  · rintro ⟨k, -, hdenotes | ⟨hclash, -⟩⟩
    · exact .inl ⟨_, hdenotes⟩
    · exact .inr hclash
  · rintro (⟨p, hdenotes⟩ | hclash)
    · exact ⟨⟨p, key.direction⟩, rfl, .inl hdenotes⟩
    · obtain ⟨c, hc, -, -, hname, -⟩ := id hclash
      obtain ⟨first, -, -, hfind⟩ := exists_find?_of_mem hc hname
      refine ⟨⟨first.position, key.direction⟩, rfl, .inr ⟨hclash, ?_⟩⟩
      rw [hfind]
      rfl

lemma exists_mapM_iff {α β : Type} {f : α → Except Error β} {l : List α} :
    (∃ l', l.mapM f = .ok l') ↔ ∀ a ∈ l, ∃ b, f a = .ok b := by
  constructor
  · rintro ⟨l', h⟩
    have hresults := forall₂_of_mapM h
    clear h
    induction hresults with
    | nil => simp
    | cons hb _ ih => exact List.forall_mem_cons.mpr ⟨⟨_, hb⟩, ih⟩
  · intro h
    induction l with
    | nil => exact ⟨[], rfl⟩
    | cons a l ih =>
      obtain ⟨⟨b, hb⟩, hrest⟩ := List.forall_mem_cons.mp h
      obtain ⟨l', hl'⟩ := ih hrest
      refine ⟨b :: l', ?_⟩
      rw [List.mapM_cons, hb]
      exact Except.bind_eq_ok.mpr ⟨b, rfl, Except.bind_eq_ok.mpr ⟨l', hl', rfl⟩⟩

lemma exists_withOrder_iff (step : Step) {orderBy : List OrderKey} :
    (∃ step', withOrder orderBy schema columns step = .ok step') ↔
      ∀ key ∈ orderBy, (∃ p, Denotes schema columns key.field p) ∨ Clashes columns key.field := by
  have hkeys : (∃ step', withOrder orderBy schema columns step = .ok step') ↔
      ∃ keys, orderBy.mapM (sortKey schema columns) = .ok keys := by
    constructor
    · rintro ⟨step', h⟩
      rcases withOrder_cases h with ⟨rfl, -⟩ | ⟨-, keys, hkeys, -⟩
      · exact ⟨[], rfl⟩
      · exact ⟨keys, hkeys⟩
    · rintro ⟨keys, hkeys⟩
      unfold withOrder
      split
      · exact ⟨step, rfl⟩
      · exact ⟨.sort keys step, Except.bind_eq_ok.mpr ⟨keys, hkeys, rfl⟩⟩
  simp only [hkeys, exists_mapM_iff, sortKey_eq_ok_iff, exists_sortsBy_iff]

/-! ### Plans -/

lemma schema_ofOrigin {origin : Origin}
    (h : (ofOrigin files base origin).outcome = .ok (step, schema)) :
    schema = (origin.relation files base).schema := by
  have hflat : Flat files base schema schema step ∧ _ := ofOrigin_flat h
  exact hflat.2

lemma sortKeys_ofOrigin {origin : Origin}
    (h : (ofOrigin files base origin).outcome = .ok (step, schema)) : step.sortKeys = [] := by
  cases origin with
  | table name =>
    obtain ⟨t, -, rfl, -⟩ := ofOrigin_table_cases h
    rfl
  | join kind left right condition =>
    obtain ⟨leftStep, -, -, -, -, position, -, buckets, -, -, -, -, -, rfl, -⟩ :=
      ofOrigin_join_cases h
    rfl

lemma sortKeys_withCondition {condition : Option Expr}
    (h : withCondition condition schema step = .ok step') (hstep : step.sortKeys = []) :
    step'.sortKeys = [] := by
  rcases withCondition_cases h with ⟨-, rfl⟩ | ⟨e, -, -, rfl⟩
  · exact hstep
  · rfl

lemma sortKeys_ofSelection (h : ofSelection s schema step = .ok (step', columns))
    (hstep : step.sortKeys = []) : step'.sortKeys = [] := by
  rcases ofSelection_cases h with ⟨-, rfl, -⟩ | ⟨-, positions, aggregates, -, rfl, -⟩
  · exact hstep
  · rfl

lemma sortKeys_withOrder {orderBy : List OrderKey}
    (h : withOrder orderBy schema columns step = .ok step') (hstep : step.sortKeys = []) :
    List.Forall₂ (SortsBy schema columns) orderBy step'.sortKeys := by
  rcases withOrder_cases h with ⟨rfl, rfl⟩ | ⟨-, keys, hkeys, rfl⟩
  · rw [hstep]
    exact .nil
  · exact (forall₂_of_mapM hkeys).imp fun key k hk => sortKey_eq_ok_iff.mp hk

lemma sortKeys_withLimit (most : Option Nat) (step : Step) :
    (withLimit most step).sortKeys = step.sortKeys := by
  unfold withLimit
  split <;> rfl

lemma columns_project (columns : List OutputColumn) (header : List String) (step : Step) :
    Plan.columns ⟨header, .project (columns.map (·.name)) (columns.map (·.position)) step⟩ =
      columns := by
  simp [Plan.columns]

/-- **What ORDER BY sorts by.** For each of its names a plan has a sort key at the one column that
the name denotes, but for names of columns of the result that stand at different positions: there it
takes the first of them. -/
theorem ofStatement_sortKeys (h : (ofStatement files base s).outcome = .ok plan) :
    List.Forall₂ (SortsBy (s.schema files base) plan.columns) s.orderBy plan.root.sortKeys := by
  obtain ⟨step, schema, filtered, grouped, columns, sorted, htables, hfiltered, hgrouped, hsorted,
    rfl⟩ := ofStatement_cases h
  obtain rfl := schema_ofOrigin htables
  rw [columns_project]
  have hgroupedKeys := sortKeys_ofSelection hgrouped
    (sortKeys_withCondition hfiltered (sortKeys_ofOrigin htables))
  have hkeys := sortKeys_withOrder hsorted hgroupedKeys
  rwa [← sortKeys_withLimit s.limit] at hkeys

theorem ofStatement_sortKeys_greatestSum :
    (ofStatement Query.shopFiles "" Query.greatestSum).outcome = .ok Query.greatestSumPlan ∧
    Denotes (Query.greatestSum.schema Query.shopFiles "") Query.greatestSumPlan.columns "total" 4 ∧
    List.Forall₂ (SortsBy (Query.greatestSum.schema Query.shopFiles "")
      Query.greatestSumPlan.columns) [⟨"total", .descending⟩] [⟨4, .descending⟩] := by
  have hplan := Query.ofStatement_greatestSum
  have hcolumns : Query.greatestSumPlan.columns = [⟨"city", 3⟩, ⟨"total", 4⟩] := rfl
  refine ⟨hplan, ?_, ofStatement_sortKeys hplan⟩
  rw [hcolumns]
  exact .shown ⟨⟨"total", 4⟩, by decide, rfl⟩ (by decide)

/-- **Which names ORDER BY takes.** A statement that can be planned without its ORDER BY clause can
be planned with it if each of its names denotes one column or clashes, and not otherwise. -/
theorem ofStatement_orderBy_iff
    (h : (ofStatement files base { s with orderBy := [] }).outcome = .ok plan) :
    (∃ plan', (ofStatement files base s).outcome = .ok plan') ↔
      ∀ key ∈ s.orderBy, (∃ p, Denotes (s.schema files base) plan.columns key.field p) ∨
        Clashes plan.columns key.field := by
  obtain ⟨step, schema, filtered, grouped, columns, sorted, htables, hfiltered, hgrouped, -, rfl⟩ :=
    ofStatement_cases h
  obtain rfl := schema_ofOrigin htables
  rw [columns_project, ← exists_withOrder_iff grouped]
  constructor
  · rintro ⟨plan', h'⟩
    obtain ⟨step', schema', filtered', grouped', columns', sorted', htables', hfiltered', hgrouped',
      hsorted', -⟩ := ofStatement_cases h'
    cases htables'.symm.trans htables
    cases hfiltered'.symm.trans hfiltered
    cases hgrouped'.symm.trans hgrouped
    exact ⟨sorted', hsorted'⟩
  · rintro ⟨sorted', hsorted'⟩
    exact ⟨_, ofStatement_of_clauses htables hfiltered hgrouped hsorted'⟩

def namesakeFiles : Files :=
  ((Files.ofDirectory ["data"]).put ["data", "sales.csv"]
      (.file "shop,name\n1,pear\n2,apple\n".toUTF8)).put ["data", "shops.csv"]
    (.file "id,name\n1,a\n2,b\n".toUTF8)

/-- The statement that sorts all columns of the two tables by that name. -/
def sortedByName : Statement :=
  ⟨.all, .join .inner (.table "sales") "shops" (.matching "sales" "shop" "shops" "id"), none, [],
    [⟨"name", .ascending⟩], none⟩

/-- The name is ambiguous, and the rows are sorted by the first column that has it. -/
theorem clashing_name_sorts :
    (sortedByName.schema namesakeFiles "").resolve "name" =
      .error (.ambiguousColumn "name" ["sales", "shops"]) ∧
    ∃ plan, (ofStatement namesakeFiles "" sortedByName).outcome = .ok plan ∧
      plan.root.sortKeys = [⟨1, .ascending⟩] ∧
      plan.columns = [⟨"shop", 0⟩, ⟨"name", 1⟩, ⟨"id", 2⟩, ⟨"name", 3⟩] ∧
      ∀ p, ¬ Denotes (sortedByName.schema namesakeFiles "") plan.columns "name" p := by
  have hsales : Table.read namesakeFiles "" "sales" =
      .ok ⟨"sales", ["shop", "name"], [.ok ["1", "pear"], .ok ["2", "apple"]]⟩ := rfl
  have hshops : Table.read namesakeFiles "" "shops" =
      .ok ⟨"shops", ["id", "name"], [.ok ["1", "a"], .ok ["2", "b"]]⟩ := rfl
  have horigin := ofOrigin_join_of_read .inner (x := "shop") (y := "id") hsales hshops
    (Table.readable_of_isOk rfl) rfl rfl
  refine ⟨by decide +kernel, _, Logged.outcome_bind_eq_ok.mpr ⟨_, horigin, rfl⟩, rfl, rfl, ?_⟩
  intro p
  refine Clashes.not_denotes ⟨⟨"name", 1⟩, ?_, ⟨"name", 3⟩, ?_, rfl, rfl, by decide⟩
  · exact .tail _ (.head _)
  · exact .tail _ (.tail _ (.tail _ (.head _)))

end Plan

end CsvQuery
