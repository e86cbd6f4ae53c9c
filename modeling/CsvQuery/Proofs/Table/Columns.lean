import CsvQuery.Schema
import Mathlib.Data.List.Basic

/-!
The columns of a schema as one list. The names, the owners and both indexes are parts or views of
it: adding a column puts one more at its end, and names are looked up as in the list.
-/

namespace CsvQuery.Schema

variable (s t : Schema) (table name : String)

def columns : List Column :=
  List.zipWith Column.mk s.owners s.header

lemma header_eq : s.header = s.columns.map (·.name) := by
  rw [columns, ← List.map_uncurry_zip_eq_zipWith, List.map_map]
  exact (List.map_snd_zip (Nat.le_of_eq s.length_owners.symm)).symm

lemma owners_eq : s.owners = s.columns.map (·.table) := by
  rw [columns, ← List.map_uncurry_zip_eq_zipWith, List.map_map]
  exact (List.map_fst_zip (Nat.le_of_eq s.length_owners)).symm

@[simp]
lemma length_columns : s.columns.length = s.width := by
  simp [columns, width, s.length_owners]

/-! ### Schemas put together -/

@[simp]
lemma columns_add : (s.add table name).columns = s.columns ++ [⟨table, name⟩] := by
  rw [columns, add, List.zipWith_append s.length_owners]
  rfl

@[simp]
lemma columns_ofTable (header : List String) :
    (ofTable table header).columns = header.map fun name => ⟨table, name⟩ := by
  have hadded : ∀ s : Schema, (header.foldl (·.add table) s).columns =
      s.columns ++ header.map fun name => ⟨table, name⟩ := by
    induction header with
    | nil => simp
    | cons name header ih => simp [ih, columns_add]
  exact hadded empty

@[simp]
lemma columns_join : (s.join t).columns = s.columns ++ t.columns := by
  have hadded : ∀ (columns : List (String × String)) (s : Schema),
      (columns.foldl (fun s column => s.add column.2 column.1) s).columns =
        s.columns ++ columns.map fun column => ⟨column.2, column.1⟩ := by
    intro columns
    induction columns with
    | nil => simp
    | cons column columns ih => simp [ih, columns_add]
  rw [join, hadded, List.map_zip_eq_zipWith, List.zipWith_comm]
  rfl

@[simp]
lemma header_ofTable (header : List String) : (ofTable table header).header = header := by
  simp [header_eq, Function.comp_def]

@[simp]
lemma width_ofTable (header : List String) : (ofTable table header).width = header.length := by
  simp [width]

@[simp]
lemma width_join : (s.join t).width = s.width + t.width := by
  simp [← length_columns]

/-! ### Lookup in the list -/

/-- The columns with a name, each with its position. -/
def named : List (Column × Nat) :=
  s.columns.zipIdx.filter fun entry => entry.1.name == name

variable {s table name}

lemma mem_named {c : Column} {p : Nat} :
    (c, p) ∈ s.named name ↔ s.columns[p]? = some c ∧ c.name = name := by
  simp [named, List.mem_filter, List.mem_zipIdx_iff_getElem?]

variable (s table name)

lemma positions_eq : s.byName.getD name [] = (s.named name).map (·.2) := by
  rw [s.byName_eq, s.header_eq, List.zipIdx_map, List.filter_map, List.map_map]
  rfl

lemma owners_named :
    ((s.named name).map (·.2)).map (s.owners.getD · "") = (s.named name).map (·.1.table) := by
  rw [List.map_map]
  refine List.map_congr_left fun entry hentry => ?_
  obtain ⟨hp, -⟩ := mem_named.mp hentry
  simp [owners_eq, List.getD_eq_getElem?_getD, hp]

lemma resolve_eq : s.resolve name =
    match s.named name with
    | [] => .error (.unknownColumn name)
    | [entry] => .ok entry.2
    | entries => .error (.ambiguousColumn name (entries.map (·.1.table)).eraseDups) := by
  have howners := s.owners_named name
  rw [resolve, positions_eq]
  cases hnamed : s.named name with
  | nil => rfl
  | cons entry rest =>
    cases rest with
    | nil => rfl
    | cons entry' rest =>
      rw [hnamed] at howners
      dsimp only
      rw [← howners]
      rfl

lemma resolveQualified_eq : s.resolveQualified table name =
    match s.columns.findIdx? fun c => c.table == table && c.name == name with
    | some position => .ok position
    | none => .error (.unknownColumn (table ++ "." ++ name)) := by
  rw [resolveQualified, s.byTable_eq]
  rfl

end CsvQuery.Schema
