import CsvQuery.Proofs.Query.Partition

/-!
When keys collide. The marks of a key stand in front of its cells, but a cell may contain marks of
its own, and the key does not tell the two kinds apart. So it determines the pieces into which marks
cut the cells, and the cells themselves only together with the number of marks in each of them.
-/

namespace CsvQuery.Group

def pieces (cell : String) : List (List Char) :=
  cell.toList.splitOn separator

def marks (cell : String) : Nat :=
  cell.toList.count separator

/-! ### Pieces -/

lemma splitOn_inj {l l' : List Char} (h : l.splitOn separator = l'.splitOn separator) : l = l' :=
  calc l = [separator].intercalate (l.splitOn separator) := (List.intercalate_splitOn _).symm
    _ = [separator].intercalate (l'.splitOn separator) := by rw [h]
    _ = l' := List.intercalate_splitOn _

lemma pieces_inj {cell cell' : String} (h : pieces cell = pieces cell') : cell = cell' :=
  String.toList_inj.mp (splitOn_inj h)

lemma length_pieces (cell : String) : (pieces cell).length = marks cell + 1 := by
  unfold pieces marks
  induction cell.toList with
  | nil => rfl
  | cons c l ih =>
    rw [List.splitOn_eq_splitOnP] at ih ⊢
    rw [List.splitOnP_cons_eq_if_modifyHead, List.count_cons]
    split <;> simp [ih]

lemma splitOn_append_marked (l : List Char) (cells : List String) :
    (l ++ marked cells).splitOn separator = l.splitOn separator ++ cells.flatMap pieces := by
  induction cells generalizing l with
  | nil => simp [marked]
  | cons cell cells ih =>
    have hmarked : marked (cell :: cells) = separator :: (cell.toList ++ marked cells) := rfl
    rw [hmarked, List.splitOn_append_cons_self, ih]
    rfl

lemma marked_eq_iff {cells cells' : List String} :
    marked cells = marked cells' ↔ cells.flatMap pieces = cells'.flatMap pieces := by
  have hsplit : ∀ cells, (marked cells).splitOn separator = [[]] ++ cells.flatMap pieces :=
    splitOn_append_marked []
  constructor
  · intro h
    have hpieces := hsplit cells
    rw [h, hsplit cells'] at hpieces
    exact (List.append_cancel_left hpieces).symm
  · intro h
    apply splitOn_inj
    rw [hsplit, hsplit, h]

/-! ### Keys -/

variable {positions : List Nat} {a b : Row}

lemma keyOf_eq_iff_pieces : keyOf positions a = keyOf positions b ↔
    (a.project positions).flatMap pieces = (b.project positions).flatMap pieces := by
  rw [← String.toList_inj, toList_keyOf, toList_keyOf, List.append_cancel_left_eq, marked_eq_iff]

/-- The pieces that belong to a cell are known from the number of its marks. -/
lemma cell_eq_of_pieces (hpieces : (a.project positions).flatMap pieces =
      (b.project positions).flatMap pieces)
    (hmarks : ∀ position ∈ positions, marks (a.cell position) = marks (b.cell position)) :
    ∀ position ∈ positions, a.cell position = b.cell position := by
  induction positions with
  | nil => simp
  | cons p positions ih =>
    have hlength : (pieces (a.cell p)).length = (pieces (b.cell p)).length := by
      rw [length_pieces, length_pieces, hmarks p (by simp)]
    have happend : pieces (a.cell p) ++ (a.project positions).flatMap pieces =
        pieces (b.cell p) ++ (b.project positions).flatMap pieces := by
      simpa [Row.project] using hpieces
    obtain ⟨hfirst, hrest⟩ := List.append_inj happend hlength
    intro position hposition
    rcases List.mem_cons.mp hposition with rfl | hposition
    · exact pieces_inj hfirst
    · exact ih hrest (fun q hq => hmarks q (List.mem_cons_of_mem _ hq)) position hposition

/-- **When keys collide.** Two rows have the same key if and only if the cells at the grouping
positions have the same pieces. They have the same cells there if and only if they have the same key
and the cells at each of these positions contain equally many marks. -/
theorem keyOf_eq_keyOf_iff (positions : List Nat) (a b : Row) :
    (keyOf positions a = keyOf positions b ↔
      (a.project positions).flatMap pieces = (b.project positions).flatMap pieces) ∧
    ((∀ position ∈ positions, a.cell position = b.cell position) ↔
      keyOf positions a = keyOf positions b ∧
        ∀ position ∈ positions, marks (a.cell position) = marks (b.cell position)) := by
  refine ⟨keyOf_eq_iff_pieces, fun hcells => ⟨?_, fun p hp => by rw [hcells p hp]⟩,
    fun ⟨hkey, hmarks⟩ => cell_eq_of_pieces (keyOf_eq_iff_pieces.mp hkey) hmarks⟩
  have hproject : a.project positions = b.project positions := List.map_congr_left hcells
  rw [keyOf_eq_iff_pieces, hproject]

/-- Rows with different cells at both grouping positions have the same key and make one group. -/
theorem colliding_rows_merge :
    keyOf [0, 1] ["x\x1fy", "z", "1"] = keyOf [0, 1] ["x", "y\x1fz", "2"] ∧
      Row.project ["x\x1fy", "z", "1"] [0, 1] ≠ Row.project ["x", "y\x1fz", "2"] [0, 1] ∧
      summaries [0, 1] [⟨.count, 2⟩] [["x\x1fy", "z", "1"], ["x", "y\x1fz", "2"]] =
        [["x\x1fy", "z", "1", "2"]] := by
  refine ⟨by decide, by decide, ?_⟩
  rw [summaries_eq]
  decide

end CsvQuery.Group
