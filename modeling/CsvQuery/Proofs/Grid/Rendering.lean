import CsvQuery.Proofs.Grid.Filling
import Mathlib.Algebra.GroupWithZero.Nat

/-!
Printed tables. All lines of a table have the same length and their borders at the same places, and
what stands between the borders of a line are its texts, each filled up to the width of its column.
-/

namespace CsvQuery.Grid

/-! ### Lines between borders -/

/-- The place of a border of a line: each column before it takes its width, a blank on either side
and the border in front. -/
def offset (widths : List Nat) (position : Nat) : Nat :=
  ((widths.take position).map (· + 3)).sum

def cut (widths : List Nat) (line : List Char) : List (List Char) :=
  (List.range widths.length).map fun i =>
    line.extract (offset widths i + 1) (offset widths (i + 1))

/-- The texts of a line, each with blanks up to the width of its column and one on either side. -/
def padded (widths : List Nat) (line : List String) : List (List Char) :=
  List.zipWith (fun width cell =>
    ' ' :: cell.toList ++ List.replicate (width - cell.length) ' ' ++ [' ']) widths line

/-- The line with the parts and a border in front of each of them and behind the last one. -/
def bordered (border : Char) (parts : List (List Char)) : List Char :=
  border :: parts.flatMap (· ++ [border])

/-- The parts are as long as the columns are wide, a blank on either side included. -/
def Fill (widths : List Nat) (parts : List (List Char)) : Prop :=
  List.Forall₂ (fun width part => part.length = width + 2) widths parts

variable {widths : List Nat} {parts : List (List Char)} {border : Char}

lemma bordered_cons (border : Char) (part : List Char) (parts : List (List Char)) :
    bordered border (part :: parts) = border :: part ++ bordered border parts := by
  simp [bordered]

lemma offset_succ (width : Nat) (widths : List Nat) (position : Nat) :
    offset (width :: widths) (position + 1) = width + 3 + offset widths position := by
  simp [offset]

lemma length_bordered (h : Fill widths parts) (border : Char) :
    (bordered border parts).length = 1 + (widths.map (· + 3)).sum := by
  induction h with
  | nil => rfl
  | cons hpart _ ih =>
    rw [bordered_cons, List.length_append, List.length_cons, hpart, ih, List.map_cons,
      List.sum_cons]
    omega

lemma getElem?_bordered (h : Fill widths parts) (border : Char) {position : Nat}
    (hposition : position ≤ widths.length) :
    (bordered border parts)[offset widths position]? = some border := by
  induction h generalizing position with
  | nil =>
    obtain rfl := Nat.le_zero.mp hposition
    rfl
  | @cons width part widths parts hpart _ ih =>
    cases position with
    | zero => rfl
    | succ position =>
      have hlength : (border :: part).length = width + 3 := by rw [List.length_cons, hpart]
      rw [bordered_cons, offset_succ, ← hlength, List.getElem?_append_right (Nat.le_add_right _ _),
        Nat.add_sub_cancel_left]
      exact ih (Nat.le_of_succ_le_succ hposition)

lemma extract_drop (line : List Char) (skipped start stop : Nat) :
    line.extract (skipped + start) (skipped + stop) = (line.drop skipped).extract start stop := by
  rw [List.extract_eq_take_drop, List.extract_eq_take_drop, List.drop_drop,
    Nat.add_sub_add_left]

lemma cut_cons (width : Nat) (widths : List Nat) (line : List Char) :
    cut (width :: widths) line =
      line.extract 1 (width + 3) :: cut widths (line.drop (width + 3)) := by
  rw [cut, List.length_cons, List.range_succ_eq_map, List.map_cons, List.map_map]
  refine congrArg₂ _ rfl (List.map_congr_left fun i _ => ?_)
  rw [Function.comp_apply, Nat.succ_eq_add_one, offset_succ, offset_succ, ← extract_drop]
  rfl

lemma cut_bordered (h : Fill widths parts) (border : Char) :
    cut widths (bordered border parts) = parts := by
  induction h with
  | nil => rfl
  | @cons width part widths parts hpart _ ih =>
    have hlength : (border :: part).length = width + 3 := by rw [List.length_cons, hpart]
    have hpart' : part.length = width + 3 - 1 := hpart
    rw [cut_cons, bordered_cons, List.drop_left' hlength, ih, List.extract_eq_take_drop,
      List.cons_append, List.drop_one, List.tail_cons, List.take_left' hpart']

/-! ### Lines of a table -/

def ruleLine (widths : List Nat) : List Char :=
  bordered '+' (widths.map fun width => List.replicate (width + 2) '-')

def textLine (widths : List Nat) (line : List String) : List Char :=
  bordered '|' (padded widths line)

def tableLines (widths : List Nat) (header : List String) (rows : List (List String)) :
    List (List Char) :=
  ruleLine widths :: textLine widths header :: ruleLine widths :: rows.map (textLine widths) ++
    if rows = [] then [] else [ruleLine widths]

lemma fill_rule (widths : List Nat) :
    Fill widths (widths.map fun width => List.replicate (width + 2) '-') := by
  refine List.forall₂_map_right_iff.mpr (List.forall₂_same.mpr fun width _ => ?_)
  rw [List.length_replicate]

lemma fill_padded {line : List String}
    (h : List.Forall₂ (fun cell width => cell.length ≤ width) line widths) :
    Fill widths (padded widths line) := by
  induction h with
  | nil => exact .nil
  | @cons cell width line widths hcell _ ih =>
    refine .cons ?_ ih
    have hlength : cell.toList.length = cell.length := String.length_toList
    simp only [List.length_append, List.length_cons, List.length_replicate, List.length_nil,
      hlength]
    omega

lemma toList_rule (g : Grid) : g.rule.toList = ruleLine g.widths ++ ['\n'] := by
  simp [rule, ruleLine, bordered, repeated, String.toList_join, List.flatMap_map]

lemma toList_rowLine (g : Grid) (line : List String) :
    (g.rowLine line).toList = textLine g.widths line ++ ['\n'] := by
  have hparts : (List.zipWith (fun width cell =>
        " " ++ cell ++ repeated (width - cell.length) ' ' ++ " |") g.widths line).map
          String.toList = (padded g.widths line).map (· ++ ['|']) := by
    rw [padded, List.map_zipWith, List.map_zipWith]
    simp [repeated]
  rw [rowLine, textLine, bordered]
  simp only [String.toList_append, String.toList_join, List.flatMap_def, hparts]
  rfl

lemma toList_render (g : Grid) :
    g.render.toList = (tableLines g.widths g.header g.rows.toList).flatMap (· ++ ['\n']) := by
  have hrows : (g.rows.toList.map g.rowLine).flatMap String.toList =
      (g.rows.toList.map (textLine g.widths)).flatMap (· ++ ['\n']) := by
    rw [List.flatMap_map, List.flatMap_map]
    exact List.flatMap_congr fun line _ => toList_rowLine g line
  have hempty : g.rows.isEmpty = true ↔ g.rows.toList = [] := by simp
  rw [render, tableLines]
  simp only [String.toList_append, String.toList_join, hrows, toList_rule, toList_rowLine,
    List.flatMap_append, List.flatMap_cons, hempty]
  split
  · simp
  · simp [toList_rule]

/-! ### Line breaks -/

lemma splitOn_flatMap {lines : List (List Char)} (h : ∀ line ∈ lines, '\n' ∉ line) :
    (lines.flatMap (· ++ ['\n'])).splitOn '\n' = lines ++ [[]] := by
  induction lines with
  | nil => rfl
  | cons line lines ih =>
    obtain ⟨hline, hlines⟩ := List.forall_mem_cons.mp h
    rw [List.flatMap_cons, List.append_assoc, List.singleton_append,
      List.splitOn_append_cons_self_of_not_mem hline, ih hlines, List.cons_append]

lemma not_mem_bordered {border : Char} (hborder : border ≠ '\n') {parts : List (List Char)}
    (h : ∀ part ∈ parts, '\n' ∉ part) : '\n' ∉ bordered border parts := by
  rw [bordered, List.mem_cons, List.mem_flatMap]
  rintro (hmem | ⟨part, hpart, hmem⟩)
  · exact hborder hmem.symm
  · rcases List.mem_append.mp hmem with hmem | hmem
    · exact h part hpart hmem
    · exact hborder (List.mem_singleton.mp hmem).symm

lemma not_mem_ruleLine (widths : List Nat) : '\n' ∉ ruleLine widths := by
  refine not_mem_bordered (by decide) fun part hpart => ?_
  obtain ⟨width, -, rfl⟩ := List.mem_map.mp hpart
  simp

lemma not_mem_textLine (widths : List Nat) {line : List String}
    (h : ∀ cell ∈ line, '\n' ∉ cell.toList) : '\n' ∉ textLine widths line := by
  refine not_mem_bordered (by decide) fun part hpart => ?_
  obtain ⟨i, hi, rfl⟩ := List.mem_iff_getElem.mp hpart
  have hcell : i < line.length := by
    rw [padded, List.length_zipWith] at hi
    omega
  simp [padded, h _ (List.getElem_mem hcell)]

lemma not_mem_tableLines (widths : List Nat) {header : List String} {rows : List (List String)}
    (h : ∀ line ∈ header :: rows, ∀ cell ∈ line, '\n' ∉ cell.toList) :
    ∀ line ∈ tableLines widths header rows, '\n' ∉ line := by
  obtain ⟨hheader, hrows⟩ := List.forall_mem_cons.mp h
  have hrule := not_mem_ruleLine widths
  have hbody : ∀ line ∈ rows.map (textLine widths), '\n' ∉ line := by
    intro line hline
    obtain ⟨row, hrow, rfl⟩ := List.mem_map.mp hline
    exact not_mem_textLine widths (hrows row hrow)
  intro line hline
  rw [tableLines, List.mem_append] at hline
  rcases hline with hline | hline
  · simp only [List.mem_cons] at hline
    rcases hline with rfl | rfl | rfl | hline
    · exact hrule
    · exact not_mem_textLine widths hheader
    · exact hrule
    · exact hbody line hline
  · split at hline
    · cases hline
    · rwa [List.mem_singleton.mp hline]

lemma not_mem_number (n : Nat) : '\n' ∉ (toString n).toList := by
  intro hmem
  rw [Nat.toString_eq_repr, Nat.toList_repr] at hmem
  cases Nat.isDigit_of_mem_toDigits (by decide) (by decide) hmem

variable {columns : Nat} {calls : List Call}

lemma not_mem_texts (hheadings : ∀ text ∈ headings calls, '\n' ∉ text.toList)
    (hgiven : ∀ values ∈ given calls, ∀ text ∈ values.take columns, '\n' ∉ text.toList)
    {line : List String} (hline : line ∈ texts columns calls) :
    ∀ cell ∈ line, '\n' ∉ cell.toList := by
  rcases List.mem_cons.mp hline with rfl | hline
  · exact List.forall_mem_cons.mpr ⟨by decide, hheadings⟩
  · obtain ⟨i, hi, rfl⟩ := List.mem_mapIdx.mp hline
    refine List.forall_mem_cons.mpr ⟨not_mem_number _, fun cell hcell => ?_⟩
    rcases List.mem_append.mp hcell with hcell | hcell
    · exact hgiven _ (List.getElem_mem hi) cell hcell
    · rw [(List.mem_replicate.mp hcell).2]
      simp

/-! ### Tables -/

lemma exists_bordered {rows : List (List String)}
    (hfits : ∀ row ∈ rows, List.Forall₂ (fun cell width => cell.length ≤ width) row widths)
    {line : List Char} (hline : line ∈ ruleLine widths :: rows.map (textLine widths)) :
    ∃ border parts, Fill widths parts ∧ line = bordered border parts ∧
      (border = '+' ∨ border = '|') := by
  rcases List.mem_cons.mp hline with rfl | hline
  · exact ⟨'+', _, fill_rule widths, rfl, .inl rfl⟩
  · obtain ⟨row, hrow, rfl⟩ := List.mem_map.mp hline
    exact ⟨'|', _, fill_padded (hfits row hrow), rfl, .inr rfl⟩

lemma cut_textLine {line : List String}
    (h : List.Forall₂ (fun cell width => cell.length ≤ width) line widths) :
    cut widths (textLine widths line) = padded widths line :=
  cut_bordered (fill_padded h) '|'

lemma tableLines_eq (widths : List Nat) (columns : Nat) (calls : List Call) :
    tableLines widths ("#" :: headings calls) (numbered columns (given calls)) =
      ruleLine widths :: textLine widths ("#" :: headings calls) :: ruleLine widths ::
        (numbered columns (given calls)).map (textLine widths) ++
      if given calls = [] then [] else [ruleLine widths] := by
  have hempty : numbered columns (given calls) = [] ↔ given calls = [] := by
    rw [numbered, List.mapIdx_eq_nil_iff]
  simp only [tableLines, hempty]

/-- **Printed tables are aligned and complete.** Let a table get as many headings as it has columns
and any number of rows with any number of values, in any order. What it prints is its headings and
the numbered rows, with missing values empty and extra ones left out; every text fits into its
column, and every column is as wide as its widest text. If no text has a line break, all printed
lines have the same length and their borders at the same places, and a line of texts cut at these
places gives the texts, each filled up with blanks. The table of a result is such a table. -/
theorem after_aligned (hall : (headings calls).length = columns) :
    (after columns calls).header :: (after columns calls).rows.toList = texts columns calls ∧
    (∀ row ∈ texts columns calls,
      List.Forall₂ (fun cell width => cell.length ≤ width) row (after columns calls).widths) ∧
    (∀ i width : Nat, (after columns calls).widths[i]? = some width →
      IsGreatest {n | ∃ row ∈ texts columns calls, ∃ cell, row[i]? = some cell ∧ cell.length = n}
        width) ∧
    ((∀ text ∈ headings calls, '\n' ∉ text.toList) →
      (∀ values ∈ given calls, ∀ text ∈ values.take columns, '\n' ∉ text.toList) →
      ∃ rule heading body,
        (after columns calls).render.toList.splitOn '\n' =
          rule :: heading :: rule :: body ++ (if given calls = [] then [[]] else [rule, []]) ∧
        (∀ printed ∈ rule :: heading :: body,
          printed.length = 1 + ((after columns calls).widths.map (· + 3)).sum ∧
          ∀ i ≤ columns + 1, printed[offset (after columns calls).widths i]? = some '+' ∨
            printed[offset (after columns calls).widths i]? = some '|') ∧
        (heading :: body).map (cut (after columns calls).widths) =
          (texts columns calls).map (padded (after columns calls).widths)) ∧
    ∀ header rows, ofRows header rows = after header.length (callsOf header rows) ∧
      headings (callsOf header rows) = header ∧ given (callsOf header rows) = rows := by
  have hfilled := filled_after columns calls
  have htexts : (after columns calls).header :: (after columns calls).rows.toList =
      texts columns calls := by
    rw [hfilled.header, hfilled.rows, texts]
  have hfits : ∀ row ∈ texts columns calls,
      List.Forall₂ (fun cell width => cell.length ≤ width) row (after columns calls).widths :=
    fun row hrow => hfilled.forall₂_fits hall hrow
  refine ⟨htexts, hfits, fun i width => hfilled.isGreatest_width hall, fun hheadings hgiven => ?_,
    fun header rows =>
      ⟨ofRows_eq_after header rows, headings_callsOf header rows, given_callsOf header rows⟩⟩
  set widths := (after columns calls).widths with hwidths
  have hsize : widths.length = columns + 1 := by
    rw [hwidths, hfilled.widths, List.length_map, List.length_range]
  have hbody : textLine widths ("#" :: headings calls) ::
      (numbered columns (given calls)).map (textLine widths) =
        (texts columns calls).map (textLine widths) := rfl
  refine ⟨ruleLine widths, textLine widths ("#" :: headings calls),
    (numbered columns (given calls)).map (textLine widths), ?_, fun printed hprinted => ?_, ?_⟩
  · have hbreaks := not_mem_tableLines widths (htexts ▸ fun line hline =>
      not_mem_texts hheadings hgiven hline)
    rw [toList_render, splitOn_flatMap hbreaks, hfilled.header, hfilled.rows, tableLines_eq]
    split
    · simp
    · simp
  · obtain ⟨border, parts, hparts, rfl, hborder⟩ := exists_bordered hfits (hbody ▸ hprinted)
    refine ⟨length_bordered hparts border, fun i hi => ?_⟩
    rw [getElem?_bordered hparts border (hsize ▸ hi)]
    exact hborder.imp (congrArg some) (congrArg some)
  · rw [hbody, List.map_map]
    exact List.map_congr_left fun row hrow => cut_textLine (hfits row hrow)

/-- Rows with a value too few and one too many, the first of them before the last heading, and a
border among the texts. -/
def mixed : List Call :=
  [.heading "a|b", .row ["ñu"], .heading "名", .row ["1", "22", "x"]]

theorem after_aligned_mixed :
    (headings mixed).length = 2 ∧ (after 2 mixed).widths = [1, 3, 2] ∧
    ∃ rule heading body,
      (after 2 mixed).render.toList.splitOn '\n' = rule :: heading :: rule :: body ++ [rule, []] ∧
      (∀ printed ∈ rule :: heading :: body, printed.length = 16) ∧
      (heading :: body).map (cut [1, 3, 2]) =
        [[" # ".toList, " a|b ".toList, " 名  ".toList],
          [" 1 ".toList, " ñu  ".toList, "    ".toList],
          [" 2 ".toList, " 1   ".toList, " 22 ".toList]] := by
  have hall : (headings mixed).length = 2 := rfl
  have hwidths : (after 2 mixed).widths = [1, 3, 2] := by decide +kernel
  obtain ⟨-, -, -, hlines, -⟩ := after_aligned hall
  obtain ⟨rule, heading, body, hsplit, hborders, hcut⟩ :=
    hlines (by decide +kernel) (by decide +kernel)
  rw [hwidths] at hborders hcut
  refine ⟨hall, hwidths, rule, heading, body, hsplit, fun printed hprinted =>
    (hborders printed hprinted).1, ?_⟩
  rw [hcut]
  decide +kernel

end CsvQuery.Grid
