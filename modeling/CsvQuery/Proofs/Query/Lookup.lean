import CsvQuery.Proofs.Query.OrderBy
import Mathlib.Data.List.NodupEquivFin
import Mathlib.Order.Bounds.Basic

/-!
Columns looked up by name. However tables are put side by side, one join after the other, a name is
looked up in their headers one behind the other: alone it must occur once, and with a table it is
the first column of the name in a table of that name.
-/

namespace CsvQuery

/-! ### Repeated members -/

section Repeated

variable {α β : Type} [BEq β] [LawfulBEq β]

lemma eraseDups_replicate_append (n : Nat) (b : β) (l : List β) :
    (List.replicate (n + 1) b ++ l).eraseDups = b :: (l.filter fun c => !c == b).eraseDups := by
  rw [List.replicate_succ, List.cons_append, List.eraseDups_cons, List.filter_append]
  simp

lemma eraseDups_flatMap_replicate (times : α → Nat) (f : α → β) (l : List α) :
    (l.flatMap fun a => List.replicate (times a) (f a)).eraseDups =
      ((l.filter (times · ≠ 0)).map f).eraseDups := by
  -- Behind the first one of a kind only those of other kinds count, so the statement is about the
  -- members with any property.
  have hkept : ∀ p : β → Bool,
      ((l.flatMap fun a => List.replicate (times a) (f a)).filter p).eraseDups =
        (((l.filter (times · ≠ 0)).map f).filter p).eraseDups := by
    induction l with
    | nil => simp
    | cons a l ih =>
      intro p
      rw [List.flatMap_cons, List.filter_append, List.filter_cons]
      cases htimes : times a with
      | zero => simpa using ih p
      | succ n =>
        cases hp : p (f a) with
        | false => simpa [hp] using ih p
        | true =>
          have hcopies : (List.replicate (n + 1) (f a)).filter p = List.replicate (n + 1) (f a) :=
            List.filter_replicate_of_pos hp
          rw [hcopies, eraseDups_replicate_append, if_pos (by simp), List.map_cons,
            List.filter_cons_of_pos hp, List.eraseDups_cons, List.filter_filter,
            List.filter_filter, ih]
  simpa using hkept fun _ => true

end Repeated

namespace Schema

/-! ### Tables side by side -/

/-- Tables, each with its header, that are put side by side in any order of joins. -/
inductive Joined
  | nothing
  | table (name : String) (header : List String)
  | join (left right : Joined)

namespace Joined

def schema : Joined → Schema
  | nothing => .empty
  | table name header => .ofTable name header
  | join left right => left.schema.join right.schema

def tables : Joined → List (String × List String)
  | nothing => []
  | table name header => [(name, header)]
  | join left right => left.tables ++ right.tables

end Joined

variable (tables : List (String × List String)) (table name : String)

def headers : List String :=
  tables.flatMap (·.2)

def ownersOf : List String :=
  tables.flatMap fun t => List.replicate t.2.length t.1

/-- The column at a position is from a table of the name and has the name. -/
def Owns (p : Nat) : Prop :=
  (ownersOf tables)[p]? = some table ∧ (headers tables)[p]? = some name

/-- The names of the tables with a column of the name, each once, in their order. -/
def tablesWith : List String :=
  ((tables.filter (name ∈ ·.2)).map (·.1)).eraseDups

/-- What a name alone leads to: the position of the one column that has it, or an error if none has
it or if more than one has it. -/
inductive Resolves : Except Error Nat → Prop
  | unknown (hcount : (headers tables).count name = 0) : Resolves (.error (.unknownColumn name))
  | position {p : Nat} (hcount : (headers tables).count name = 1)
      (hp : (headers tables)[p]? = some name) : Resolves (.ok p)
  | ambiguous (hcount : 1 < (headers tables).count name) :
      Resolves (.error (.ambiguousColumn name (tablesWith tables name)))

/-- What a name with a table leads to: the first column of the name in a table of that name, or an
error if there is none. -/
inductive ResolvesIn : Except Error Nat → Prop
  | least {p : Nat} (hp : IsLeast {q | Owns tables table name q} p) : ResolvesIn (.ok p)
  | unknown (hnone : ∀ q, ¬Owns tables table name q) :
      ResolvesIn (.error (.unknownColumn (table ++ "." ++ name)))

variable {tables table name} {s : Schema} {p : Nat}

lemma eq_of_count_eq_one {l : List String} (h : l.count name = 1) {q : Nat}
    (hp : l[p]? = some name) (hq : l[q]? = some name) : p = q := by
  obtain ⟨hp', hpname⟩ := List.getElem?_eq_some_iff.mp hp
  obtain ⟨hq', hqname⟩ := List.getElem?_eq_some_iff.mp hq
  have honce : ¬l.Duplicate name := by
    rw [List.duplicate_iff_two_le_count, h]
    omega
  rw [List.duplicate_iff_exists_distinct_get] at honce
  by_contra hne
  rcases Nat.lt_or_gt_of_ne hne with hlt | hlt
  · exact honce ⟨⟨p, hp'⟩, ⟨q, hq'⟩, hlt, hpname.symm, hqname.symm⟩
  · exact honce ⟨⟨q, hq'⟩, ⟨p, hp'⟩, hlt, hqname.symm, hpname.symm⟩

lemma Resolves.unique {r r' : Except Error Nat} (h : Resolves tables name r)
    (h' : Resolves tables name r') : r = r' := by
  cases h with
  | unknown hcount =>
    cases h' with
    | unknown _ => rfl
    | position hcount' _ => omega
    | ambiguous hcount' => omega
  | position hcount hp =>
    cases h' with
    | unknown hcount' => omega
    | position _ hp' => rw [eq_of_count_eq_one hcount hp hp']
    | ambiguous hcount' => omega
  | ambiguous hcount =>
    cases h' with
    | unknown hcount' => omega
    | position hcount' _ => omega
    | ambiguous _ => rfl

lemma ResolvesIn.unique {r r' : Except Error Nat} (h : ResolvesIn tables table name r)
    (h' : ResolvesIn tables table name r') : r = r' := by
  cases h with
  | least hp =>
    cases h' with
    | least hp' => rw [hp.unique hp']
    | unknown hnone => exact absurd hp.1 (hnone _)
  | unknown hnone =>
    cases h' with
    | least hp' => exact absurd hp'.1 (hnone _)
    | unknown _ => rfl

/-! ### Columns -/

lemma Joined.columns_eq (j : Joined) :
    j.schema.columns = j.tables.flatMap fun t => t.2.map fun name => ⟨t.1, name⟩ := by
  induction j with
  | nothing => rfl
  | table name header => simp [schema, tables]
  | join left right ihl ihr =>
    rw [schema, tables, List.flatMap_append, ← ihl, ← ihr, columns_join]

lemma Joined.header_eq (j : Joined) : j.schema.header = headers j.tables := by
  rw [Schema.header_eq, j.columns_eq, List.map_flatMap, headers]
  exact List.flatMap_congr fun t _ => by simp [Function.comp_def]

lemma Joined.owners_eq (j : Joined) : j.schema.owners = ownersOf j.tables := by
  rw [Schema.owners_eq, j.columns_eq, List.map_flatMap, ownersOf]
  exact List.flatMap_congr fun t _ => by simp [Function.comp_def]

/-! ### Names alone -/

lemma length_named (s : Schema) (name : String) : (s.named name).length = s.header.count name := by
  have hcolumns : s.header.count name = (s.columns.zipIdx.map (·.1)).countP (·.name == name) := by
    rw [List.zipIdx_map_fst, header_eq, List.count, List.countP_map]
    rfl
  rw [hcolumns, List.countP_map, List.countP_eq_length_filter]
  rfl

lemma Joined.tables_named (j : Joined) (name : String) :
    (j.schema.named name).map (·.1.table) =
      j.tables.flatMap fun t => List.replicate (t.2.count name) t.1 := by
  have hcolumns : (j.schema.named name).map (·.1.table) =
      (j.schema.columns.filter (·.name == name)).map (·.table) := by
    rw [← List.zipIdx_map_fst 0 j.schema.columns, List.filter_map, List.map_map]
    rfl
  rw [hcolumns, j.columns_eq, List.filter_flatMap, List.map_flatMap]
  refine List.flatMap_congr fun t _ => ?_
  rw [List.filter_map, List.map_map, List.count_eq_length_filter]
  exact List.map_const' ..

lemma Joined.tables_named_eraseDups (j : Joined) (name : String) :
    ((j.schema.named name).map (·.1.table)).eraseDups = tablesWith j.tables name := by
  rw [j.tables_named, eraseDups_flatMap_replicate, tablesWith]
  refine congrArg (fun ts => (List.map _ ts).eraseDups) (List.filter_congr fun t _ => ?_)
  simp only [ne_eq, List.count_eq_zero, not_not]

lemma Joined.resolves (j : Joined) (name : String) :
    Resolves j.tables name (j.schema.resolve name) := by
  have hlength := length_named j.schema name
  rw [j.header_eq] at hlength
  rw [resolve_eq]
  cases hnamed : j.schema.named name with
  | nil =>
    rw [hnamed] at hlength
    exact .unknown hlength.symm
  | cons entry rest =>
    rw [hnamed] at hlength
    cases rest with
    | nil =>
      obtain ⟨hp, hname⟩ := mem_named.mp (hnamed ▸ List.mem_singleton_self entry)
      refine .position hlength.symm ?_
      rw [← j.header_eq, Schema.header_eq, List.getElem?_map, hp, ← hname]
      rfl
    | cons entry' rest =>
      have htables := j.tables_named_eraseDups name
      rw [hnamed] at htables
      dsimp only
      rw [htables]
      exact .ambiguous (by simp [← hlength])

/-! ### Names with a table -/

lemma eq_column_iff {c : Column} :
    (c.table == table && c.name == name) = true ↔ c = ⟨table, name⟩ := by
  obtain ⟨table', name'⟩ := c
  simp

lemma Joined.owns_iff (j : Joined) {q : Nat} :
    Owns j.tables table name q ↔ j.schema.columns[q]? = some ⟨table, name⟩ := by
  rw [Owns, ← j.header_eq, ← j.owners_eq, Schema.header_eq, Schema.owners_eq, List.getElem?_map,
    List.getElem?_map]
  cases j.schema.columns[q]? with
  | none => simp
  | some c => simp [← eq_column_iff]

lemma Joined.resolvesIn (j : Joined) (table name : String) :
    ResolvesIn j.tables table name (j.schema.resolveQualified table name) := by
  rw [resolveQualified_eq]
  cases hfind : j.schema.columns.findIdx? fun c => c.table == table && c.name == name with
  | none =>
    refine .unknown fun q hq => ?_
    have hmem := List.mem_of_getElem? (j.owns_iff.mp hq)
    simpa using List.findIdx?_eq_none_iff.mp hfind _ hmem
  | some p =>
    obtain ⟨hlt, hp, hbefore⟩ := List.findIdx?_eq_some_iff_getElem.mp hfind
    refine .least ⟨?_, fun q hq => ?_⟩
    · exact j.owns_iff.mpr (List.getElem?_eq_some_iff.mpr ⟨hlt, eq_column_iff.mp hp⟩)
    · -- A column in front of the found one would have been found.
      by_contra hle
      obtain ⟨hq', hcolumn⟩ := List.getElem?_eq_some_iff.mp (j.owns_iff.mp hq)
      exact hbefore q (Nat.not_le.mp hle) (eq_column_iff.mpr hcolumn)

/-- **Columns are looked up in the headers of their tables.** However tables are put side by side,
the header is their headers one behind the other. A name alone leads to its position there if it
occurs once, and otherwise to an error, which tells the tables that have it; a name with a table
leads to the first column of the name in a table of that name. -/
theorem Joined.lookup_headers (j : Joined) :
    j.schema.header = headers j.tables ∧
      (∀ name r, j.schema.resolve name = r ↔ Resolves j.tables name r) ∧
      ∀ table name r, j.schema.resolveQualified table name = r ↔
        ResolvesIn j.tables table name r := by
  refine ⟨j.header_eq, fun name r => ?_, fun table name r => ?_⟩
  · exact ⟨fun h => h ▸ j.resolves name, fun h => (j.resolves name).unique h⟩
  · exact ⟨fun h => h ▸ j.resolvesIn table name, fun h => (j.resolvesIn table name).unique h⟩

/-- A table that is joined with itself, and one that has a name twice. -/
example :
    let j : Joined :=
      .join (.table "a" ["x", "y"]) (.join (.table "b" ["z", "x", "x"]) (.table "a" ["y"]))
    j.schema.resolve "x" = .error (.ambiguousColumn "x" ["a", "b"]) ∧
      j.schema.resolve "z" = .ok 2 ∧ j.schema.resolveQualified "b" "x" = .ok 3 :=
  ⟨rfl, rfl, rfl⟩

end Schema

end CsvQuery
