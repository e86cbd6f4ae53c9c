import CsvQuery.Aggregation
import Mathlib.Tactic.Common

/-!
Groups of rows as lists: one group for each key, in the order in which the keys are first seen, with
all rows of the key.
-/

namespace CsvQuery.Group

def ofMembers (key : String) (members : List Row) : Group :=
  ⟨key, members.headD [], members.tail⟩

lemma rows_ofMembers {key : String} {members : List Row} (h : members ≠ []) :
    (ofMembers key members).rows = members := by
  obtain ⟨r, rest, rfl⟩ := List.exists_cons_of_ne_nil h
  rfl

lemma collect_eq (key : Row → String) (index : RowIndex) (rows : List Row) :
    collect key index rows =
      ((rows.map key).filter fun k => index.find k ≠ []).eraseDups.map
        fun k => ofMembers k (index.find k) := by
  induction rows generalizing index with
  | nil => rfl
  | cons r rows ih =>
    rw [collect, List.map_cons]
    cases hfind : index.find (key r) with
    | nil => simp [hfind, ih]
    | cons first later =>
      -- Behind the first row of a key, the index has the rows of every other key, but none of it.
      have hkept : ∀ k, (index.erase (key r)).find k ≠ [] ↔ k ≠ key r ∧ index.find k ≠ [] := by
        intro k
        rw [RowIndex.find_erase]
        by_cases hk : key r = k
        · simp [hk]
        · simp [hk, Ne.symm hk]
      have hfilter : (rows.map key).filter (fun k => (index.erase (key r)).find k ≠ []) =
          ((rows.map key).filter fun k => index.find k ≠ []).filter fun k => !k == key r := by
        rw [List.filter_filter]
        refine List.filter_congr fun k _ => ?_
        simp only [hkept k]
        by_cases hk : k = key r <;> simp [hk]
      have hne : index.find (key r) ≠ [] := by simp [hfind]
      rw [List.filter_cons, decide_eq_true hne, if_pos rfl, List.eraseDups_cons, List.map_cons,
        ← hfilter]
      simp only [ih, hfind]
      refine congrArg₂ _ rfl (List.map_congr_left fun k hk => ?_)
      obtain ⟨-, hfound⟩ := List.mem_filter.mp (List.mem_eraseDups.mp hk)
      obtain ⟨hk', -⟩ := (hkept k).mp (of_decide_eq_true hfound)
      rw [RowIndex.find_erase, if_neg (Ne.symm hk')]

/-- **One group for each key.** -/
lemma ofRows_eq (positions : List Nat) (rows : List Row) :
    ofRows positions rows =
      (rows.map (keyOf positions)).eraseDups.map fun k =>
        ofMembers k (rows.filter (keyOf positions · == k)) := by
  have hall : (rows.map (keyOf positions)).filter
      (fun k => (RowIndex.ofRows (keyOf positions) rows).find k ≠ []) =
        rows.map (keyOf positions) := by
    refine List.filter_eq_self.mpr fun k hk => ?_
    obtain ⟨r, hr, rfl⟩ := List.mem_map.mp hk
    rw [RowIndex.find_ofRows]
    have hmem : r ∈ rows.filter (keyOf positions · == keyOf positions r) :=
      List.mem_filter.mpr ⟨hr, by simp⟩
    simpa using List.ne_nil_of_mem hmem
  rw [ofRows, collect_eq, hall]
  simp only [RowIndex.find_ofRows]

lemma keyOf_eq (positions : List Nat) (r : Row) :
    keyOf positions r =
      "groupBy" ++ String.join (positions.map fun position => "\x1f" ++ r.cell position) := by
  -- The key grows by one cell for each position, so the statement is about any key so far.
  have hfold : ∀ key : String, positions.foldl
      (fun key position => (key.push separator) ++ r.cell position) key =
        key ++ String.join (positions.map fun position => "\x1f" ++ r.cell position) := by
    induction positions with
    | nil => simp
    | cons position positions ih =>
      intro key
      rw [List.foldl_cons, ih]
      simp [separator, ← String.toList_inj, String.toList_join]
  exact hfold "groupBy"

def rowOf (positions : List Nat) (columns : List AggregateColumn) (members : List Row) : Row :=
  members.headD [] ++ columns.map fun column =>
    column.function.reduce
      (if positions.contains column.position then [] else members.map (·.cell column.position))

lemma summaries_eq (positions : List Nat) (columns : List AggregateColumn) (rows : List Row) :
    summaries positions columns rows =
      (rows.map (keyOf positions)).eraseDups.map fun k =>
        rowOf positions columns (rows.filter (keyOf positions · == k)) := by
  rw [summaries, ofRows_eq, List.map_map]
  refine List.map_congr_left fun k hk => ?_
  obtain ⟨r, hr, rfl⟩ := List.mem_map.mp (List.mem_eraseDups.mp hk)
  have hmem : r ∈ rows.filter (keyOf positions · == keyOf positions r) :=
    List.mem_filter.mpr ⟨hr, by simp⟩
  simp only [Function.comp_apply, summary, collected, rows_ofMembers (List.ne_nil_of_mem hmem)]
  rfl

end CsvQuery.Group
