import CsvQuery.Proofs.Expr.Equality
import CsvQuery.Proofs.Query.Positions
import Mathlib.Data.List.GetD

/-!
Joins and their conditions. A join finds the pairs of rows that belong together by the text of a
cell, while its condition, evaluated on such a pair, compares integers where both cells denote one.
The two agree but for pairs of cells that spell one integer in two ways.
-/

namespace CsvQuery

namespace Row

variable {l r : Row} {p : Nat}

lemma cell_append_left (h : p < l.length) : (l ++ r).cell p = l.cell p :=
  List.getD_append _ _ _ _ h

lemma cell_append_right : (l ++ r).cell (l.length + p) = r.cell p := by
  rw [cell, List.getD_append_right _ _ _ _ (Nat.le_add_right _ _), Nat.add_sub_cancel_left]
  rfl

end Row

namespace Schema

variable {left right : Schema} {table name : String} {p : Nat}

lemma resolveQualified_of_findIdx?
    (h : left.columns.findIdx? (fun c => c.table == table && c.name == name) = some p) :
    left.resolveQualified table name = .ok p := by
  rw [resolveQualified_eq, h]

lemma resolveQualified_join_left (h : left.resolveQualified table name = .ok p) :
    (left.join right).resolveQualified table name = .ok p := by
  refine resolveQualified_of_findIdx? ?_
  rw [columns_join, List.findIdx?_append, findIdx?_of_resolveQualified h]
  rfl

lemma resolveQualified_join_right (hleft : ∀ c ∈ left.columns, c.table ≠ table)
    (h : right.resolveQualified table name = .ok p) :
    (left.join right).resolveQualified table name = .ok (left.width + p) := by
  have hnone : left.columns.findIdx? (fun c => c.table == table && c.name == name) = none := by
    rw [List.findIdx?_eq_none_iff]
    intro c hc
    simp [hleft c hc]
  refine resolveQualified_of_findIdx? ?_
  rw [columns_join, List.findIdx?_append, hnone, findIdx?_of_resolveQualified h, length_columns,
    Nat.add_comm]
  rfl

end Schema

lemma Value.beq_eq_display_and_not_spelledApart (a b : String) :
    (a == b) = ((ofCell a).display == (ofCell b).display && !Integer.spelledApart a b) := by
  rw [Bool.eq_iff_iff, Bool.and_eq_true, beq_iff_eq, beq_iff_eq, display_ofCell_eq_iff]
  constructor
  · rintro rfl
    simp [Integer.spelledApart]
  · rintro ⟨rfl | happart, hnot⟩
    · rfl
    · rw [happart] at hnot
      cases hnot

/-- The condition that a column of one table equals a column of another one. -/
def Expr.matching (table name table' name' : String) : Expr :=
  .binary (.compare .equal) (.qualified table name) (.qualified table' name')

lemma Expr.passes_matching {schema : Schema} {table name table' name' : String} {p q : Nat}
    (hp : schema.resolveQualified table name = .ok p)
    (hq : schema.resolveQualified table' name' = .ok q) (r : Row) :
    (matching table name table' name').passes schema r =
      .ok ((Value.ofCell (r.cell p)).display == (Value.ofCell (r.cell q)).display) := by
  refine passes_of_eval_ofBool ?_
  rw [matching, eval, eval, eval, hp, hq, ← BinaryOp.holds_equal]
  rfl

lemma Origin.Readable.join {files : Files} {base a b : String} {kind : JoinKind} {e : Expr}
    {left right : Table} (hleft : Table.read files base a = .ok left)
    (hright : Table.read files base b = .ok right) (hl : left.Readable) (hr : right.Readable) :
    (Origin.join kind (.table a) b e).Readable files base := by
  intro name hname t ht
  rcases List.mem_append.mp hname with ha | hb
  · obtain rfl := List.mem_singleton.mp ha
    obtain rfl := Except.ok.inj (hleft.symm.trans ht)
    exact hl
  · obtain rfl := List.mem_singleton.mp hb
    obtain rfl := Except.ok.inj (hright.symm.trans ht)
    exact hr

lemma Relation.ofName_fits (files : Files) (base name : String) :
    (ofName files base name).Fits := by
  unfold ofName
  split
  · exact Table.relation_fits _
  · intro r hr
    cases hr

/-- The nested loop: each row of the left with every row of the right for which a test holds. -/
def Relation.pairs (left right : Relation) (test : Row → Row → Bool) : List Row :=
  left.rows.flatMap fun l => (right.rows.filter (test l)).map (l ++ ·)

lemma Relation.pairs_congr {left right : Relation} {test test' : Row → Row → Bool}
    (h : ∀ l ∈ left.rows, ∀ r ∈ right.rows, test l r = test' l r) :
    left.pairs right test = left.pairs right test' :=
  List.flatMap_congr fun l hl => congrArg _ (List.filter_congr fun r hr => h l hl r hr)

namespace Plan

variable {files : Files} {base : String} {kind : JoinKind} {a b x y : String} {step : Step}
  {schema : Schema}

lemma joinColumns_matching (a x b y : String) :
    joinColumns b (.matching a x b y) = .ok (.compare .equal, ⟨a, x⟩, y) :=
  if_pos rfl

lemma ofOrigin_matching_cases
    (h : (ofOrigin files base (.join kind (.table a) b (.matching a x b y))).outcome =
      .ok (step, schema)) :
    schema = (Relation.ofName files base a).schema.join (Relation.ofName files base b).schema ∧
      (∃ p, (Relation.ofName files base a).schema.resolveQualified a x = .ok p) ∧
      (∃ q, (Relation.ofName files base b).schema.resolveQualified b y = .ok q) ∧
      ∀ c ∈ (Relation.ofName files base a).schema.columns, c.table = a := by
  obtain ⟨leftStep, leftSchema, op, column, field, p, t, buckets, hleft, hcolumns, hp, ht, hbuckets,
    -, rfl⟩ := ofOrigin_join_cases h
  obtain ⟨t', ht', -, rfl⟩ := ofOrigin_table_cases hleft
  cases hcolumns.symm.trans (joinColumns_matching a x b y)
  obtain ⟨q, -, hq, -, -⟩ := Table.bucketed_cases hbuckets
  rw [Relation.ofName_of_read ht, Relation.ofName_of_read ht']
  refine ⟨rfl, ⟨p, hp⟩, ⟨q, Table.name_of_read ht ▸ hq⟩, fun c hc => ?_⟩
  rw [Table.relation, Table.schema, Schema.columns_ofTable] at hc
  obtain ⟨name, -, rfl⟩ := List.mem_map.mp hc
  exact Table.name_of_read ht'

lemma ofOrigin_join_of_read (kind : JoinKind) {left right : Table} {p q : Nat}
    (hleft : Table.read files base a = .ok left) (hright : Table.read files base b = .ok right)
    (hreadable : right.Readable) (hp : left.schema.resolveQualified a x = .ok p)
    (hq : right.schema.resolveQualified right.name y = .ok q) :
    (ofOrigin files base (.join kind (.table a) b (.matching a x b y))).outcome =
      .ok (.join kind b (.ofRows q right.relation.rows) p (.scan left),
        left.schema.join right.schema) := by
  have htable : (ofOrigin files base (.table a)).outcome = .ok (.scan left, left.schema) :=
    Logged.outcome_bind_eq_ok.mpr ⟨left, hleft, rfl⟩
  have hcolumns := joinColumns_matching a x b y
  have hbuckets := Table.bucketed_of_readable hreadable hq
  refine Logged.outcome_bind_eq_ok.mpr ⟨_, htable, ?_⟩
  refine Logged.outcome_bind_eq_ok.mpr ⟨_, hcolumns, ?_⟩
  refine Logged.outcome_bind_eq_ok.mpr ⟨(), rfl, ?_⟩
  refine Logged.outcome_bind_eq_ok.mpr ⟨p, hp, ?_⟩
  refine Logged.outcome_bind_eq_ok.mpr ⟨right, hright, ?_⟩
  exact Logged.outcome_bind_eq_ok.mpr ⟨_, hbuckets, rfl⟩

lemma passes_join {left right : Relation} (hl : left.Fits) (hr : right.Fits)
    (htables : ∀ c ∈ left.schema.columns, c.table ≠ b) {p q : Nat}
    (hp : left.schema.resolveQualified a x = .ok p)
    (hq : right.schema.resolveQualified b y = .ok q)
    {l r : Row} (hlmem : l ∈ left.rows) (hrmem : r ∈ right.rows) :
    (Expr.matching a x b y).passes (left.schema.join right.schema) (l ++ r) =
      .ok ((Value.ofCell (left.schema.cellOf ⟨a, x⟩ l)).display ==
        (Value.ofCell (right.schema.cellOf ⟨b, y⟩ r)).display) := by
  have hlwidth := hl l hlmem
  have hplt : p < l.length := hlwidth ▸ Schema.lt_width_of_resolveQualified hp
  rw [Expr.passes_matching (Schema.resolveQualified_join_left hp)
    (Schema.resolveQualified_join_right htables hq), Row.cell_append_left hplt, ← hlwidth,
    Row.cell_append_right, Schema.cell_of_resolveQualified hp hlwidth.ge,
    Schema.cell_of_resolveQualified hq (hr r hrmem).ge]

/-- **Joins and their conditions.** Let two different tables of readable records be joined on equal
columns. Then the condition has a value on each pair of their rows, and the rows of the join are, in
the order of the nested loop, the pairs on which it is true and the two cells are not different
texts of one integer. -/
theorem ofOrigin_matching [Sorter] (hne : a ≠ b)
    (hreadable : (Origin.join kind (.table a) b (.matching a x b y)).Readable files base)
    (h : (ofOrigin files base (.join kind (.table a) b (.matching a x b y))).outcome =
      .ok (step, schema)) :
    (∀ l ∈ (Relation.ofName files base a).rows, ∀ r ∈ (Relation.ofName files base b).rows,
      ∃ v, (Expr.matching a x b y).passes schema (l ++ r) = .ok v) ∧
    step.source.run.outcome = .ok ((Relation.ofName files base a).pairs
      (Relation.ofName files base b) fun l r =>
        decide ((Expr.matching a x b y).passes schema (l ++ r) = .ok true) &&
          !Integer.spelledApart ((Relation.ofName files base a).schema.cellOf ⟨a, x⟩ l)
            ((Relation.ofName files base b).schema.cellOf ⟨b, y⟩ r)) := by
  obtain ⟨-, hyields, -⟩ := ofOrigin_yields h hreadable
  obtain ⟨rfl, ⟨p, hp⟩, ⟨q, hq⟩, hnames⟩ := ofOrigin_matching_cases h
  have htables : ∀ c ∈ (Relation.ofName files base a).schema.columns, c.table ≠ b :=
    fun c hc => hnames c hc ▸ hne
  have hpasses := fun l hl r hr => passes_join (Relation.ofName_fits files base a)
    (Relation.ofName_fits files base b) htables hp hq (l := l) (r := r) hl hr
  refine ⟨fun l hl r hr => ⟨_, hpasses l hl r hr⟩, ?_⟩
  have hsides := joinSides_of_joinColumns (joinColumns_matching a x b y)
  have hrelation : (Origin.join kind (.table a) b (.matching a x b y)).relation files base =
      (Relation.ofName files base a).join (.ofName files base b) ⟨a, x⟩ ⟨b, y⟩ := by
    rw [Origin.relation, hsides]
    rfl
  rw [hyields.outcome_run, hrelation]
  refine congrArg _ (Relation.pairs_congr fun l hl r hr => ?_)
  rw [hpasses l hl r hr, Value.beq_eq_display_and_not_spelledApart]
  simp [Bool.beq_eq_decide_eq]

attribute [local instance] Sorter.standard

theorem ofOrigin_matching_sales :
    "sales" ≠ "shops" ∧
    (Origin.join .inner (.table "sales") "shops" (.matching "sales" "shop" "shops" "id")).Readable
      Query.shopFiles "" ∧
    (ofOrigin Query.shopFiles "" (.join .inner (.table "sales") "shops"
      (.matching "sales" "shop" "shops" "id"))).outcome =
        .ok (.join .inner "shops" Query.shopBuckets 0 (.scan Query.salesTable),
          Query.salesTable.schema.join Query.shopsTable.schema) ∧
    (Step.join .inner "shops" Query.shopBuckets 0 (.scan Query.salesTable)).source.run.outcome =
      .ok [["2", "1", "2", "b"], ["1", "5", "1", "a"], ["2", "2", "2", "b"], ["3", "", "3", "a"],
        ["1", "4", "1", "a"]] := by
  have hne : "sales" ≠ "shops" := by decide
  have hreadable : (Origin.join .inner (.table "sales") "shops"
      (.matching "sales" "shop" "shops" "id")).Readable Query.shopFiles "" :=
    .join Query.read_sales Query.read_shops (Table.readable_of_isOk rfl)
      (Table.readable_of_isOk rfl)
  have hplan := Query.ofOrigin_greatestSum
  obtain ⟨-, hrun⟩ := ofOrigin_matching hne hreadable hplan
  refine ⟨hne, hreadable, hplan, hrun.trans ?_⟩
  decide +kernel

/-- Two tables whose only rows spell one integer in two ways. -/
def paddedFiles : Files :=
  ((Files.ofDirectory ["data"]).put ["data", "sales.csv"] (.file "shop\n05\n".toUTF8)).put
    ["data", "shops.csv"] (.file "id\n5\n".toUTF8)

/-- The condition is true on the only pair of rows, and the join has no rows. -/
theorem matching_not_enough :
    (Origin.join .inner (.table "sales") "shops" (.matching "sales" "shop" "shops" "id")).Readable
      paddedFiles "" ∧
    ∃ step schema,
      (ofOrigin paddedFiles "" (.join .inner (.table "sales") "shops"
        (.matching "sales" "shop" "shops" "id"))).outcome = .ok (step, schema) ∧
      ((Relation.ofName paddedFiles "" "sales").pairs (.ofName paddedFiles "" "shops") fun l r =>
        decide ((Expr.matching "sales" "shop" "shops" "id").passes schema (l ++ r) = .ok true)) =
          [["05", "5"]] ∧
      step.source.run.outcome = .ok [] := by
  have hsales : Table.read paddedFiles "" "sales" = .ok ⟨"sales", ["shop"], [.ok ["05"]]⟩ := rfl
  have hshops : Table.read paddedFiles "" "shops" = .ok ⟨"shops", ["id"], [.ok ["5"]]⟩ := rfl
  have hreadable : (Origin.join .inner (.table "sales") "shops"
      (.matching "sales" "shop" "shops" "id")).Readable paddedFiles "" :=
    .join hsales hshops (Table.readable_of_isOk rfl) (Table.readable_of_isOk rfl)
  have hplan := ofOrigin_join_of_read .inner (x := "shop") (y := "id") hsales hshops
    (Table.readable_of_isOk rfl) rfl rfl
  obtain ⟨-, hyields, -⟩ := ofOrigin_yields hplan hreadable
  refine ⟨hreadable, _, _, hplan, by decide +kernel, ?_⟩
  rw [hyields.outcome_run]
  decide +kernel

end Plan

end CsvQuery
