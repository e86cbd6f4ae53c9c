import CsvQuery.Error
import CsvQuery.Row

/-!
Schemas: the named columns of a row, each with the table it comes from. Joining two tables puts
the columns of the left one first, so the columns of the right one move behind them. Positions are
looked up in two indexes, which grow column by column with the header.
-/

namespace CsvQuery

structure Column where
  table : String
  name : String
  deriving DecidableEq, Repr

/-- The columns of a row in order: their names, the tables that own them, and where they stand. -/
structure Schema where
  header : List String
  owners : List String
  /-- For each name the positions of the columns that have it. -/
  byName : Std.TreeMap String (List Nat)
  /-- For each table and each name the position of the first column. -/
  byTable : Std.TreeMap String (Std.TreeMap String Nat)
  length_owners : owners.length = header.length
  byName_eq : ∀ name,
    byName.getD name [] = (header.zipIdx.filter fun entry => entry.1 == name).map (·.2)
  byTable_eq : ∀ table name,
    byTable[table]?.bind (·[name]?) =
      (List.zipWith Column.mk owners header).findIdx? fun c => c.table == table && c.name == name

namespace Schema

def empty : Schema where
  header := []
  owners := []
  byName := ∅
  byTable := ∅
  length_owners := rfl
  byName_eq _ := by simp
  byTable_eq _ _ := by simp

def width (s : Schema) : Nat :=
  s.header.length

theorem getElem?_insertIfNew (byTable : Std.TreeMap String (Std.TreeMap String Nat))
    (table name table' name' : String) (p : Nat) :
    (byTable.insert table ((byTable.getD table ∅).insertIfNew name p))[table']?.bind (·[name']?) =
      (byTable[table']?.bind (·[name']?)).or
        (if table == table' && name == name' then some p else none) := by
  rw [Std.TreeMap.getElem?_insert]
  by_cases ht : table = table'
  · subst ht
    have hnames : byTable[table]?.bind (·[name']?) = (byTable.getD table ∅)[name']? := by
      rw [Std.TreeMap.getD_eq_getD_getElem?]
      cases byTable[table]? <;> simp
    rw [hnames, if_pos Std.ReflCmp.compare_self, Option.bind_some,
      Std.TreeMap.getElem?_insertIfNew]
    by_cases hn : name = name'
    · subst hn
      cases hfound : (byTable.getD table ∅)[name]? with
      | none =>
        have hnew : name ∉ byTable.getD table ∅ := by
          simp only [Std.TreeMap.mem_iff_isSome_getElem?, hfound, Option.isSome_none,
            Bool.false_eq_true, not_false_eq_true]
        simp [hnew]
      | some q =>
        have hold : name ∈ byTable.getD table ∅ := by
          simp only [Std.TreeMap.mem_iff_isSome_getElem?, hfound, Option.isSome_some]
        simp [hold]
    · simp [hn]
  · simp [ht]

/-- The schema with one more column behind the others. The first column of a name stays the one that
is found with its table. -/
def add (s : Schema) (table name : String) : Schema where
  header := s.header ++ [name]
  owners := s.owners ++ [table]
  byName := s.byName.insert name (s.byName.getD name [] ++ [s.width])
  byTable := s.byTable.insert table ((s.byTable.getD table ∅).insertIfNew name s.width)
  length_owners := by simp [s.length_owners]
  byName_eq other := by
    by_cases h : name = other
    · simp [s.byName_eq, List.zipIdx_append, h, width]
    · simp [Std.TreeMap.getD_insert, s.byName_eq, List.zipIdx_append, h]
  byTable_eq table' name' := by
    rw [getElem?_insertIfNew, s.byTable_eq, List.zipWith_append s.length_owners,
      List.findIdx?_append]
    simp [width, s.length_owners]

def ofTable (table : String) (header : List String) : Schema :=
  header.foldl (·.add table) empty

def join (left right : Schema) : Schema :=
  (right.header.zip right.owners).foldl (fun s column => s.add column.2 column.1) left

/-- The position of the only column with a name. -/
def resolve (s : Schema) (name : String) : Except Error Nat :=
  match s.byName.getD name [] with
  | [] => .error (.unknownColumn name)
  | [position] => .ok position
  | positions =>
    .error (.ambiguousColumn name (positions.map (s.owners.getD · "")).eraseDups)

/-- The position of the first column of a table with a name. -/
def resolveQualified (s : Schema) (table name : String) : Except Error Nat :=
  match s.byTable[table]?.bind (·[name]?) with
  | some position => .ok position
  | none => .error (.unknownColumn (table ++ "." ++ name))

end Schema

end CsvQuery
