import CsvQuery.LineAssembler
import Mathlib.Data.List.DropRight

/-!
Lines cut into statements. Lines are added and unfinished statements are given up in any order; a
statement is made of the pieces of the lines that were added since the last one ended or was given
up, and of no others.
-/

namespace CsvQuery.LineAssembler

/-! ### Pieces -/

/-- The line ends with a backslash, the blanks around it left out. -/
def goesOn (line : String) : Bool :=
  (Text.trim line).toList.getLast? == some '\\'

/-- What a line adds to its statement: the line without the blanks around it, and if it goes on,
without its last backslash and the blanks that are then around it. -/
def piece (line : String) : String :=
  if goesOn line then Text.trim (String.ofList (Text.trim line).toList.dropLast) else Text.trim line

lemma continued?_eq_some {line part : String} :
    continued? line = some part ↔ line = part ++ "\\" := by
  have htoList : line = part ++ "\\" ↔ line.toList.reverse = '\\' :: part.toList.reverse := by
    rw [← String.toList_inj, List.reverse_eq_iff]
    simp
  rw [htoList, continued?]
  split
  · rename_i rest hrest
    rw [hrest, Option.some.injEq, List.cons.injEq, ← String.toList_inj, String.toList_ofList,
      List.reverse_eq_iff]
    simp
  · rename_i hrest
    exact iff_of_false (by simp) (hrest part.toList.reverse)

lemma continued?_eq_none {line : String} :
    continued? line = none ↔ ∀ part, line ≠ part ++ "\\" := by
  rw [Option.eq_none_iff_forall_ne_some]
  exact forall_congr' fun part => not_congr continued?_eq_some

lemma goesOn_eq_true_iff {line : String} :
    goesOn line = true ↔ ∃ part, Text.trim line = part ++ "\\" := by
  rw [goesOn, beq_iff_eq, List.getLast?_eq_some_iff]
  constructor
  · rintro ⟨front, hfront⟩
    exact ⟨String.ofList front, String.toList_inj.mp (by simpa using hfront)⟩
  · rintro ⟨part, hpart⟩
    exact ⟨part.toList, by rw [hpart]; simp⟩

lemma addLine_eq (a : LineAssembler) (line : String) :
    a.addLine line =
      if goesOn line then (⟨a.pending ++ [piece line]⟩, none)
      else (empty, some (assemble (a.pending ++ [piece line]))) := by
  rw [addLine]
  cases hpart : continued? (Text.trim line) with
  | some part =>
    have hline : Text.trim line = part ++ "\\" := continued?_eq_some.mp hpart
    have hgoes : goesOn line = true := goesOn_eq_true_iff.mpr ⟨part, hline⟩
    simp [hgoes, piece, hline]
  | none =>
    have hends : goesOn line = false := by
      rw [Bool.eq_false_iff, Ne, goesOn_eq_true_iff, not_exists]
      exact continued?_eq_none.mp hpart
    simp [hends, piece]

lemma assemble_eq (lines : List String) :
    assemble lines = " ".intercalate (lines.filter (· ≠ "")) := by
  refine congrArg (" ".intercalate ·) (List.filter_congr fun line _ => ?_)
  rw [Bool.eq_iff_iff]
  simp

/-! ### Calls -/

inductive Call
  /-- One more line. -/
  | line (text : String)
  /-- The unfinished statement is given up. -/
  | clear

def call (a : LineAssembler) : Call → LineAssembler
  | .line text => (a.addLine text).1
  | .clear => empty

/-- The assembler after calls, from its start. -/
def after (calls : List Call) : LineAssembler :=
  calls.foldl call empty

def Call.goesOn : Call → Bool
  | .line text => LineAssembler.goesOn text
  | .clear => false

def Call.line? : Call → Option String
  | .line text => some text
  | .clear => none

def recent (calls : List Call) : List String :=
  (calls.rtakeWhile Call.goesOn).filterMap Call.line?

lemma after_concat (calls : List Call) (c : Call) : after (calls ++ [c]) = (after calls).call c :=
  List.foldl_concat ..

lemma recent_concat (calls : List Call) (c : Call) :
    recent (calls ++ [c]) = if c.goesOn then recent calls ++ c.line?.toList else [] := by
  unfold recent
  rw [List.rtakeWhile_concat]
  split
  · cases h : c.line? <;> simp [h]
  · rfl

/-- **An unfinished statement consists of the recent lines.** -/
lemma pending_after (calls : List Call) : (after calls).pending = (recent calls).map piece := by
  induction calls using List.reverseRecOn with
  | nil => rfl
  | append_singleton calls c ih =>
    rw [after_concat, recent_concat]
    cases c with
    | clear => rfl
    | line text =>
      rw [call, addLine_eq, ih]
      cases h : goesOn text with
      | false => simp [Call.goesOn, h, empty]
      | true => simp [Call.goesOn, Call.line?, h]

/-! ### Blanks -/

/-- The text neither begins nor ends with a blank. -/
def Trimmed (s : String) : Prop :=
  ∀ c, s.toList.head? = some c ∨ s.toList.getLast? = some c → Text.isBlank c = false

lemma isBlank_of_head?_dropWhile (cs : List Char) {c : Char}
    (h : (cs.dropWhile Text.isBlank).head? = some c) : Text.isBlank c = false := by
  have hnot := List.head?_dropWhile_not Text.isBlank cs
  rwa [h] at hnot

lemma trimmed_trim (s : String) : Trimmed (Text.trim s) := by
  intro c hc
  rw [Text.trim, String.toList_ofList, Text.trimChars, List.getLast?_reverse] at hc
  rcases hc with hfirst | hlast
  · -- What is cut off behind leaves the first character as it is.
    obtain ⟨behind, hbehind⟩ :=
      List.rdropWhile_prefix Text.isBlank (s.toList.dropWhile Text.isBlank)
    refine isBlank_of_head?_dropWhile s.toList ?_
    rw [← hbehind, List.head?_append, List.rdropWhile, hfirst]
    rfl
  · exact isBlank_of_head?_dropWhile _ hlast

lemma trimmed_piece (line : String) : Trimmed (piece line) := by
  unfold piece
  split
  · exact trimmed_trim _
  · exact trimmed_trim _

lemma trimmed_append {s t : String} (hs : ∀ c ∈ s.toList.head?, Text.isBlank c = false)
    (ht : ∀ c ∈ t.toList.getLast?, Text.isBlank c = false) (hs' : s ≠ "") (ht' : t ≠ "") :
    Trimmed (s ++ t) := by
  intro c hc
  rw [String.toList_append, List.head?_append_of_ne_nil _ (String.toList_eq_nil_iff.not.mpr hs'),
    List.getLast?_append_of_ne_nil _ (String.toList_eq_nil_iff.not.mpr ht')] at hc
  exact hc.elim (hs c) (ht c)

lemma Trimmed.join {s t : String} (hs : Trimmed s) (ht : Trimmed t) (hs' : s ≠ "") (ht' : t ≠ "") :
    Trimmed (s ++ " " ++ t) := by
  refine trimmed_append (fun c hc => hs c (.inl ?_)) (fun c hc => ht c (.inr hc)) (by simp) ht'
  rwa [String.toList_append,
    List.head?_append_of_ne_nil _ (String.toList_eq_nil_iff.not.mpr hs')] at hc

lemma trimmed_intercalate {pieces : List String} (h : ∀ p ∈ pieces, p ≠ "" ∧ Trimmed p) :
    Trimmed (" ".intercalate pieces) ∧ (pieces ≠ [] → " ".intercalate pieces ≠ "") := by
  induction pieces with
  | nil => exact ⟨fun c hc => by simp at hc, absurd rfl⟩
  | cons p pieces ih =>
    obtain ⟨⟨hne, hp⟩, hpieces⟩ := List.forall_mem_cons.mp h
    cases pieces with
    | nil => exact ⟨by simpa using hp, fun _ => by simpa using hne⟩
    | cons next pieces =>
      obtain ⟨htrimmed, hrest⟩ := ih hpieces
      rw [String.intercalate_cons_cons]
      exact ⟨hp.join htrimmed hne (hrest (by simp)), fun _ => by simp [hne]⟩

lemma trimmed_assemble (lines : List String) : Trimmed (assemble (lines.map piece)) := by
  rw [assemble_eq]
  refine (trimmed_intercalate fun p hp => ?_).1
  obtain ⟨hmem, hne⟩ := List.mem_filter.mp hp
  obtain ⟨line, -, rfl⟩ := List.mem_map.mp hmem
  exact ⟨by simpa using hne, trimmed_piece line⟩

/-! ### Statements -/

/-- **Lines are cut into statements.** After any calls, a line ends a statement if and only if it
does not end with a backslash; the statement is then made of the pieces of the recent lines and of
this one that are not empty, in their order with a space between them, and has no blanks around it.
Something is unfinished behind a call if and only if the call was a line that ended nothing. -/
theorem addLine_segments (calls : List Call) :
    (∀ line, ((after calls).addLine line).2 =
      if goesOn line then none
      else some (" ".intercalate (((recent calls ++ [line]).map piece).filter (· ≠ "")))) ∧
    (∀ line statement, ((after calls).addLine line).2 = some statement → Trimmed statement) ∧
    ∀ c, (after (calls ++ [c])).isPending = true ↔
      ∃ line, c = .line line ∧ ((after calls).addLine line).2 = none := by
  have hline : ∀ line, (after calls).addLine line =
      if goesOn line then (⟨(recent calls ++ [line]).map piece⟩, none)
      else (empty, some (assemble ((recent calls ++ [line]).map piece))) := by
    intro line
    rw [addLine_eq, pending_after, List.map_append, List.map_singleton]
  refine ⟨fun line => ?_, fun line statement hstatement => ?_, fun c => ?_⟩
  · rw [hline]
    split
    · rfl
    · rw [assemble_eq]
  · rw [hline] at hstatement
    split at hstatement
    · cases hstatement
    · cases hstatement
      exact trimmed_assemble _
  · rw [after_concat]
    cases c with
    | clear => simp [call, empty, isPending]
    | line text =>
      simp only [call, hline, Call.line.injEq, exists_eq_left']
      cases goesOn text with
      | false => simp [empty, isPending]
      | true => simp [isPending]

/-- A statement that is given up, and lines of another one: with blanks around the backslash, with
nothing in front of it and with two of them. -/
def dictated : List Call :=
  [.line "SELECT a \\", .clear, .line " SELECT * \\ ", .line "\\", .line "\tFROM\\\\"]

theorem addLine_segments_dictated :
    ((after dictated).addLine " t\u00a0").2 = some "SELECT * FROM\\ t" ∧
    Trimmed "SELECT * FROM\\ t" ∧
    (after (dictated ++ [.line " t\u00a0"])).isPending = false ∧
    (after (dictated ++ [.line "\\"])).isPending = true := by
  obtain ⟨hsegments, htrimmed, hpending⟩ := addLine_segments dictated
  have hends : ((after dictated).addLine " t\u00a0").2 = some "SELECT * FROM\\ t" :=
    (hsegments _).trans (by decide +kernel)
  have hgoes : ((after dictated).addLine "\\").2 = none := (hsegments _).trans (by decide +kernel)
  refine ⟨hends, htrimmed _ _ hends, ?_, (hpending _).mpr ⟨_, rfl, hgoes⟩⟩
  rw [Bool.eq_false_iff, Ne, hpending]
  rintro ⟨line, hline, hnone⟩
  cases hline
  cases hends.symm.trans hnone

end CsvQuery.LineAssembler
