import CsvQuery.Grid
import Mathlib.Data.List.Forall2
import Mathlib.Data.List.Induction
import Mathlib.Order.Bounds.Defs
import Mathlib.Order.MinMax
import Mathlib.Tactic.Common

/-!
Tables that are filled. Headings and rows are added in any order; the texts of the table are those
that were given, and every column is as wide as its widest text at every time.
-/

namespace CsvQuery.Grid

/-! ### Calls -/

inductive Call
  | heading (text : String)
  | row (values : List String)
  deriving DecidableEq, Repr

def Call.heading? : Call → Option String
  | heading text => some text
  | row _ => none

def Call.values? : Call → Option (List String)
  | heading _ => none
  | row values => some values

def call (g : Grid) : Call → Grid
  | .heading text => g.addHeading text
  | .row values => g.addRow values

def after (columns : Nat) (calls : List Call) : Grid :=
  calls.foldl call (empty columns)

def headings (calls : List Call) : List String :=
  calls.filterMap Call.heading?

def given (calls : List Call) : List (List String) :=
  calls.filterMap Call.values?

/-- As many values as there are columns: missing ones are empty, and extra ones are left out. -/
def fitted (columns : Nat) (values : List String) : List String :=
  values.take columns ++ List.replicate (columns - values.length) ""

/-- Rows with their numbers in front, from one on. -/
def numbered (columns : Nat) (rows : List (List String)) : List (List String) :=
  rows.mapIdx fun i values => toString (i + 1) :: fitted columns values

/-- The texts of a table, line by line. -/
def texts (columns : Nat) (calls : List Call) : List (List String) :=
  ("#" :: headings calls) :: numbered columns (given calls)

lemma after_concat (columns : Nat) (calls : List Call) (c : Call) :
    after columns (calls ++ [c]) = (after columns calls).call c :=
  List.foldl_concat ..

/-- The calls that fill the table of a result, the headings first. -/
def callsOf (header : List String) (rows : List (List String)) : List Call :=
  header.map .heading ++ rows.map .row

lemma ofRows_eq_after (header : List String) (rows : List (List String)) :
    ofRows header rows = after header.length (callsOf header rows) := by
  rw [ofRows, after, callsOf, List.foldl_append, List.foldl_map, List.foldl_map]
  rfl

lemma headings_callsOf (header : List String) (rows : List (List String)) :
    headings (callsOf header rows) = header := by
  simp [headings, callsOf, List.filterMap_map, Function.comp_def, Call.heading?]

lemma given_callsOf (header : List String) (rows : List (List String)) :
    given (callsOf header rows) = rows := by
  simp [given, callsOf, List.filterMap_map, Function.comp_def, Call.values?]

lemma cells_eq (g : Grid) (values : List String) :
    g.cells values = toString (g.rows.size + 1) :: fitted g.columns values := by
  have hvalues : (List.range g.columns).map (values.getD · "") = fitted g.columns values := by
    refine List.ext_getElem? fun i => ?_
    rw [fitted, List.getElem?_map, List.getElem?_append, List.getElem?_take]
    grind
  rw [cells, hvalues]

/-! ### Widths -/

/-- The number of code points of the widest text at a position of some lines. -/
def widest (lines : List (List String)) (position : Nat) : Nat :=
  lines.foldr (fun line width => max (line.getD position "").length width) 0

lemma widest_cons (line : List String) (lines : List (List String)) (position : Nat) :
    widest (line :: lines) position =
      max (line.getD position "").length (widest lines position) :=
  rfl

lemma widest_concat (lines : List (List String)) (line : List String) (position : Nat) :
    widest (lines ++ [line]) position =
      max (widest lines position) (line.getD position "").length := by
  induction lines with
  | nil => simp [widest]
  | cons first lines ih => rw [List.cons_append, widest_cons, ih, widest_cons, max_assoc]

lemma le_widest {lines : List (List String)} {line : List String} (h : line ∈ lines)
    (position : Nat) : (line.getD position "").length ≤ widest lines position := by
  induction lines with
  | nil => cases h
  | cons first lines ih =>
    rw [widest_cons]
    rcases List.mem_cons.mp h with rfl | h
    · exact le_max_left _ _
    · exact (ih h).trans (le_max_right _ _)

lemma exists_widest {lines : List (List String)} (h : lines ≠ []) (position : Nat) :
    ∃ line ∈ lines, (line.getD position "").length = widest lines position := by
  induction lines with
  | nil => exact absurd rfl h
  | cons first lines ih =>
    rw [widest_cons]
    rcases le_total (widest lines position) (first.getD position "").length with hle | hle
    · exact ⟨first, List.mem_cons_self, (max_eq_left hle).symm⟩
    · rw [max_eq_right hle]
      cases lines with
      | nil => exact ⟨first, List.mem_cons_self, le_antisymm hle (Nat.zero_le _)⟩
      | cons second lines =>
        obtain ⟨line, hline, hwidest⟩ := ih (by simp)
        exact ⟨line, List.mem_cons_of_mem _ hline, hwidest⟩

lemma getD_concat (line : List String) (text : String) (position : Nat) :
    (line ++ [text]).getD position "" =
      if position = line.length then text else line.getD position "" := by
  grind

lemma widen_widest (size : Nat) (line : List String) (lines : List (List String)) (text : String) :
    widen ((List.range size).map (widest (line :: lines))) line.length text =
      (List.range size).map (widest ((line ++ [text]) :: lines)) := by
  refine List.ext_getElem (by simp [widen]) fun i hi hi' => ?_
  simp only [widen, List.getElem_modify, List.getElem_map, List.getElem_range, widest_cons,
    getD_concat]
  by_cases hend : i = line.length
  · simp [hend, max_comm]
  · simp [hend, Ne.symm hend]

lemma zipWith_widest (lines : List (List String)) (line : List String) :
    List.zipWith (fun width cell => max width cell.length)
        ((List.range line.length).map (widest lines)) line =
      (List.range line.length).map (widest (lines ++ [line])) := by
  refine List.ext_getElem (by simp) fun i hi hi' => ?_
  have hline : i < line.length := by simpa using hi'
  simp [widest_concat, hline]

/-! ### Filling -/

/-- What a table holds after calls. -/
structure Filled (columns : Nat) (calls : List Call) (g : Grid) : Prop where
  size : g.columns = columns
  header : g.header = "#" :: headings calls
  rows : g.rows.toList = numbered columns (given calls)
  widths : g.widths = (List.range (columns + 1)).map (widest (texts columns calls))

variable {columns : Nat} {calls : List Call} {g : Grid}

lemma filled_empty (columns : Nat) : Filled columns [] (empty columns) where
  size := rfl
  header := rfl
  rows := rfl
  widths := by
    have hzero : List.replicate (columns + 1) 0 = (List.range (columns + 1)).map (widest [[]]) := by
      refine List.ext_getElem (by simp) fun i hi hi' => ?_
      simp [widest]
    rw [empty, addHeading, hzero]
    exact widen_widest (columns + 1) [] [] "#"

lemma Filled.addHeading (h : Filled columns calls g) (text : String) :
    Filled columns (calls ++ [.heading text]) (g.addHeading text) := by
  have hheadings : headings (calls ++ [.heading text]) = headings calls ++ [text] := by
    simp [headings, Call.heading?]
  have hgiven : given (calls ++ [.heading text]) = given calls := by
    simp [given, Call.values?]
  refine ⟨h.size, ?_, ?_, ?_⟩
  · rw [Grid.addHeading, h.header, hheadings]
    rfl
  · rw [Grid.addHeading, h.rows, hgiven]
  · rw [Grid.addHeading, h.widths, h.header, texts, texts, hheadings, hgiven]
    exact widen_widest ..

lemma Filled.addRow (h : Filled columns calls g) (values : List String) :
    Filled columns (calls ++ [.row values]) (g.addRow values) := by
  have hheadings : headings (calls ++ [.row values]) = headings calls := by
    simp [headings, Call.heading?]
  have hgiven : given (calls ++ [.row values]) = given calls ++ [values] := by
    simp [given, Call.values?]
  have hsize : g.rows.size = (given calls).length := by
    rw [← Array.length_toList, h.rows, numbered, List.length_mapIdx]
  have hnumbered : numbered columns (given calls ++ [values]) =
      numbered columns (given calls) ++ [g.cells values] := by
    rw [numbered, List.mapIdx_concat, cells_eq, hsize, h.size]
    rfl
  have hlength : (g.cells values).length = columns + 1 := by
    simp [cells, h.size]
  refine ⟨h.size, ?_, ?_, ?_⟩
  · rw [Grid.addRow, h.header, hheadings]
  · rw [Grid.addRow, Array.toList_push, h.rows, hgiven, hnumbered]
  · have htexts : texts columns (calls ++ [.row values]) =
        texts columns calls ++ [g.cells values] := by
      rw [texts, texts, hheadings, hgiven, hnumbered, List.cons_append]
    rw [Grid.addRow, h.widths, htexts, ← hlength]
    exact zipWith_widest ..

/-- **What a table holds**: what was given, and for each column the width of its widest text. -/
lemma filled_after (columns : Nat) (calls : List Call) :
    Filled columns calls (after columns calls) := by
  induction calls using List.reverseRecOn with
  | nil => exact filled_empty columns
  | append_singleton calls c ih =>
    rw [after_concat]
    cases c with
    | heading text => exact ih.addHeading text
    | row values => exact ih.addRow values

/-! ### Tables with all their headings -/

lemma length_fitted (columns : Nat) (values : List String) :
    (fitted columns values).length = columns := by
  rw [fitted, List.length_append, List.length_take, List.length_replicate]
  omega

lemma length_of_mem_texts (hall : (headings calls).length = columns) {line : List String}
    (h : line ∈ texts columns calls) : line.length = columns + 1 := by
  rcases List.mem_cons.mp h with rfl | h
  · rw [List.length_cons, hall]
  · obtain ⟨i, hi, rfl⟩ := List.mem_mapIdx.mp h
    rw [List.length_cons, length_fitted]

lemma Filled.getElem_widths (h : Filled columns calls g) {i : Nat} (hi : i < g.widths.length) :
    g.widths[i] = widest (texts columns calls) i := by
  simp only [h.widths, List.getElem_map, List.getElem_range]

/-- **Every text fits into its column.** -/
lemma Filled.forall₂_fits (h : Filled columns calls g) (hall : (headings calls).length = columns)
    {line : List String} (hline : line ∈ texts columns calls) :
    List.Forall₂ (fun cell width => cell.length ≤ width) line g.widths := by
  have hlength : line.length = g.widths.length := by
    rw [length_of_mem_texts hall hline, h.widths, List.length_map, List.length_range]
  refine List.forall₂_iff_get.mpr ⟨hlength, fun i hi hi' => ?_⟩
  rw [List.get_eq_getElem, List.get_eq_getElem, h.getElem_widths hi']
  simpa [hi] using le_widest hline i

/-- **No column is wider than its widest text.** -/
lemma Filled.isGreatest_width (h : Filled columns calls g)
    (hall : (headings calls).length = columns) {i width : Nat}
    (hwidth : g.widths[i]? = some width) :
    IsGreatest {n | ∃ row ∈ texts columns calls, ∃ cell, row[i]? = some cell ∧ cell.length = n}
      width := by
  obtain ⟨hi, rfl⟩ := List.getElem?_eq_some_iff.mp hwidth
  rw [h.getElem_widths hi]
  have hsize : i < columns + 1 := by simpa [h.widths] using hi
  constructor
  · have hne : texts columns calls ≠ [] := List.cons_ne_nil _ _
    obtain ⟨row, hrow, hwidest⟩ := exists_widest hne i
    have hlength : i < row.length := by rwa [length_of_mem_texts hall hrow]
    refine ⟨row, hrow, row[i], List.getElem?_eq_getElem hlength, ?_⟩
    simpa [hlength] using hwidest
  · rintro _ ⟨row, hrow, cell, hcell, rfl⟩
    simpa [hcell] using le_widest hrow i

end CsvQuery.Grid
