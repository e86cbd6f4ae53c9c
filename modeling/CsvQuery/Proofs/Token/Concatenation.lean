import CsvQuery.LineAssembler
import CsvQuery.Proofs.Token.Pieces
import Mathlib.Data.List.DropRight
import Mathlib.Data.List.Forall2

/-!
Lexing piece by piece. A query that is cut at separators behind closed tokens is lexed one piece
after the other, and a statement that is entered over several lines has the tokens of its lines.
-/

namespace CsvQuery

namespace Token

/-! ### Queries -/

def Separates (w : String) : Prop :=
  w ≠ "" ∧ ∀ c ∈ w.toList, isSeparator c = true

/-- The text is lexed, and its last token is open and ends where it ends. -/
def OpenEnded (s : String) : Prop :=
  ∃ tokens, lex s = .ok tokens ∧ EndsOpen s.length tokens

lemma Separates.separated {w : String} (hw : Separates w) (tail : List Char) :
    Separated (w.toList ++ tail) := by
  obtain ⟨hne, hall⟩ := hw
  cases hcs : w.toList with
  | nil => exact absurd (String.toList_eq_nil_iff.mp hcs) hne
  | cons c rest => exact ⟨c, rest ++ tail, rfl, hall c (by simp [hcs])⟩

lemma lex_append_eq {s w : String} (hw : Separates w) (hopen : ¬OpenEnded s) (t : String) :
    lex (s ++ w ++ t) = (lex s).bind fun tokens =>
      (shifted (s ++ w).length (lex t)).map (tokens.dropLast ++ ·) := by
  have hpieces := composes (hw.separated t.toList) 0 s.toList fun tokens htokens hends =>
    hopen ⟨tokens, htokens, by simpa [String.length_toList] using hends⟩
  have htail : lexFrom (0 + s.toList.length) (w.toList ++ t.toList) =
      shifted (s ++ w).length (lex t) := by
    rw [lexFrom_separators hw.2, lex, ← lexFrom_shift]
    simp [String.length_toList]
  rw [htail] at hpieces
  rw [lex, String.toList_append, String.toList_append, List.append_assoc, hpieces]
  rfl

lemma not_openEnded {s : String} {tokens : List Located} {t : Located} (hs : lex s = .ok tokens)
    (hlast : tokens.dropLast.getLast? = some t) (hclosed : ¬IsOpen t) : ¬OpenEnded s := by
  rintro ⟨tokens', hs', t', hlast', -, hopen⟩
  cases hs'.symm.trans hs
  cases hlast'.symm.trans hlast
  exact hclosed hopen

/-- The tokens of a query without their places and without the end of the query. -/
def words (query : String) : Except Error (List Token) :=
  (lex query).map fun tokens => tokens.dropLast.map (·.token)

lemma words_eq_ok_iff {query : String} {ts : List Token} : words query = .ok ts ↔
    ∃ tokens, lex query = .ok tokens ∧ tokens.dropLast.map (·.token) = ts := by
  unfold words
  cases lex query <;> simp [Except.map]

lemma words_append {s w t : String} {before behind : List Token} (hw : Separates w)
    (hopen : ¬OpenEnded s) (hs : words s = .ok before) (ht : words t = .ok behind) :
    words (s ++ w ++ t) = .ok (before ++ behind) := by
  obtain ⟨tokens, htokens, rfl⟩ := words_eq_ok_iff.mp hs
  obtain ⟨others, hothers, rfl⟩ := words_eq_ok_iff.mp ht
  refine words_eq_ok_iff.mpr ⟨tokens.dropLast ++ others.map (·.shift (s ++ w).length), ?_, ?_⟩
  · rw [lex_append_eq hw hopen, htokens, hothers]
    rfl
  · have hne : others.map (·.shift (s ++ w).length) ≠ [] := by
      simpa using ne_nil_of_lexFrom hothers
    rw [List.dropLast_append_of_ne_nil hne, List.map_append, ← List.map_dropLast, List.map_map]
    rfl

end Token

/-! ### Continued lines -/

namespace LineAssembler

open Token

lemma trimChars_append_backslash (cs : List Char) :
    Text.trimChars (cs ++ ['\\']) = cs.dropWhile Text.isBlank ++ ['\\'] := by
  have hfront : (cs ++ ['\\']).dropWhile Text.isBlank = cs.dropWhile Text.isBlank ++ ['\\'] := by
    rw [List.dropWhile_append]
    split
    · rename_i hempty
      rw [List.isEmpty_iff.mp hempty]
      rfl
    · rfl
  have hblank : Text.isBlank '\\' = false := rfl
  rw [Text.trimChars, hfront, List.reverse_append, List.reverse_singleton, List.singleton_append,
    List.dropWhile_cons, hblank]
  simp

lemma trimChars_dropWhile (cs : List Char) :
    Text.trimChars (cs.dropWhile Text.isBlank) = Text.trimChars cs := by
  unfold Text.trimChars
  rw [List.dropWhile_idempotent]

lemma addLine_backslash (a : LineAssembler) (line : String) :
    a.addLine (line ++ "\\") = (⟨a.pending ++ [Text.trim line]⟩, none) := by
  have htrim : (Text.trim (line ++ "\\")).toList =
      line.toList.dropWhile Text.isBlank ++ ['\\'] := by
    rw [Text.trim, String.toList_ofList, String.toList_append]
    exact trimChars_append_backslash _
  have hcontinued : continued? (Text.trim (line ++ "\\")) =
      some (String.ofList (line.toList.dropWhile Text.isBlank)) := by
    rw [continued?, htrim]
    simp
  have hpart : Text.trim (String.ofList (line.toList.dropWhile Text.isBlank)) = Text.trim line := by
    rw [Text.trim, String.toList_ofList, trimChars_dropWhile, Text.trim]
  rw [addLine, hcontinued, ← hpart]

/-- The statement that lines make that all go on, and a last one. -/
def entered (lines : List String) (last : String) : Option String :=
  ((lines.foldl (fun a line => (a.addLine (line ++ "\\")).1) empty).addLine last).2

lemma entered_eq (lines : List String) {last : String}
    (hlast : continued? (Text.trim last) = none) :
    entered lines last = some (assemble ((lines ++ [last]).map Text.trim)) := by
  have hfold : ∀ a : LineAssembler, lines.foldl (fun a line => (a.addLine (line ++ "\\")).1) a =
      ⟨a.pending ++ lines.map Text.trim⟩ := by
    induction lines with
    | nil => simp
    | cons line lines ih =>
      intro a
      rw [List.foldl_cons, ih, addLine_backslash]
      simp
  rw [entered, hfold, addLine, hlast]
  simp [empty]

lemma assemble_cons (line : String) (lines : List String) :
    (line = "" ∧ assemble (line :: lines) = assemble lines) ∨
      (assemble lines = "" ∧ assemble (line :: lines) = line) ∨
      assemble (line :: lines) = line ++ " " ++ assemble lines := by
  unfold assemble
  rw [List.filter_cons]
  by_cases hline : line = ""
  · exact .inl ⟨hline, by simp [hline]⟩
  · have hnonempty : (!line.isEmpty) = true := by simpa using hline
    rw [if_pos hnonempty]
    cases lines.filter fun line => !line.isEmpty with
    | nil => exact .inr (.inl ⟨rfl, rfl⟩)
    | cons next rest => exact .inr (.inr String.intercalate_cons_cons)

lemma assemble_singleton (line : String) : assemble [line] = line := by
  unfold assemble
  by_cases hline : line = "" <;> simp [hline]

lemma words_empty : words "" = .ok [] := by
  rw [words, lex, String.toList_empty, lexFrom_nil]
  rfl

lemma words_assemble {pieces : List String} {last : String} {groups : List (List Token)}
    (hopen : ∀ piece ∈ pieces, ¬OpenEnded piece)
    (h : List.Forall₂ (fun piece ts => words piece = .ok ts) (pieces ++ [last]) groups) :
    words (assemble (pieces ++ [last])) = .ok groups.flatten := by
  induction pieces generalizing groups with
  | nil =>
    obtain ⟨ts, rest, hts, hrest, rfl⟩ := List.forall₂_cons_left_iff.mp h
    cases hrest
    rw [List.flatten_singleton, List.nil_append, assemble_singleton, hts]
  | cons piece pieces ih =>
    obtain ⟨ts, rest, hts, hrest, rfl⟩ := List.forall₂_cons_left_iff.mp h
    obtain ⟨hpiece, hpieces⟩ := List.forall_mem_cons.mp hopen
    have hbehind := ih hpieces hrest
    rw [List.flatten_cons, List.cons_append]
    rcases assemble_cons piece (pieces ++ [last]) with ⟨rfl, heq⟩ | ⟨hempty, heq⟩ | heq
    · cases words_empty.symm.trans hts
      rwa [heq]
    · rw [hempty] at hbehind
      rw [heq, hts, ← Except.ok.inj (words_empty.symm.trans hbehind), List.append_nil]
    · rw [heq]
      exact words_append ⟨by decide, by simp [isSeparator]⟩ hpiece hts hbehind

end LineAssembler

namespace Token

/-- **Lexing piece by piece.** Let separators stand behind a text that does not end with an open
token. Then an error of the text is the error of the whole; otherwise an error of what follows is,
at its place in the whole; and otherwise the tokens of the whole are those of the text without the
end of the query and then those of what follows, at their places in the whole. So a statement that
is entered over several lines has the tokens of its lines. -/
theorem lex_append :
    (∀ s w t : String, Separates w → ¬OpenEnded s →
      (∀ e, lex s = .error e → lex (s ++ w ++ t) = .error e) ∧
      (∀ tokens e, lex s = .ok tokens → lex t = .error e →
        lex (s ++ w ++ t) = .error (e.shift (s ++ w).length)) ∧
      ∀ tokens others, lex s = .ok tokens → lex t = .ok others →
        lex (s ++ w ++ t) = .ok (tokens.dropLast ++ others.map (·.shift (s ++ w).length))) ∧
    ∀ (lines : List String) (last : String) (groups : List (List Token)),
      (∀ line ∈ lines, ¬OpenEnded (Text.trim line)) →
      LineAssembler.continued? (Text.trim last) = none →
      List.Forall₂ (fun line ts => words (Text.trim line) = .ok ts) (lines ++ [last]) groups →
      ∃ query, LineAssembler.entered lines last = some query ∧
        words query = .ok groups.flatten := by
  refine ⟨fun s w t hw hopen => ⟨fun e hs => ?_, fun tokens e hs ht => ?_,
    fun tokens others hs ht => ?_⟩, fun lines last groups hopen hlast hgroups => ?_⟩
  · rw [lex_append_eq hw hopen, hs]
    rfl
  · rw [lex_append_eq hw hopen, hs, ht]
    rfl
  · rw [lex_append_eq hw hopen, hs, ht]
    rfl
  · refine ⟨_, LineAssembler.entered_eq lines hlast, ?_⟩
    rw [List.map_append, List.map_singleton]
    refine LineAssembler.words_assemble (List.forall_mem_map.mpr hopen) ?_
    rw [← List.map_singleton, ← List.map_append]
    exact List.forall₂_map_left_iff.mpr hgroups

theorem lex_append_fromLimit :
    Separates " \t" ∧ ¬OpenEnded "FROM a" ∧
    lex ("FROM a" ++ " \t" ++ "x-y") = .error (.hyphen 9) ∧
    lex ("FROM a" ++ " \t" ++ "'x y") =
      .ok [⟨.keyword .source, 0, 4⟩, ⟨.identifier "a", 5, 6⟩, ⟨.text "x y", 8, 12⟩,
        ⟨.eof, 12, 12⟩] ∧
    ∃ query, LineAssembler.entered ["FROM a "] " LIMIT 5" = some query ∧
      words query = .ok [.keyword .source, .identifier "a", .keyword .limit, .number 5] := by
  have hw : Separates " \t" := ⟨by decide, by simp [isSeparator]⟩
  have hfrom : lex "FROM a" =
      .ok [⟨.keyword .source, 0, 4⟩, ⟨.identifier "a", 5, 6⟩, ⟨.eof, 6, 6⟩] := by decide +kernel
  have hclosed : ¬RunsOn "a" := by
    unfold RunsOn
    decide
  have hopen : ¬OpenEnded "FROM a" :=
    not_openEnded (t := ⟨.identifier "a", 5, 6⟩) hfrom rfl hclosed
  obtain ⟨hpieces, hlines⟩ := lex_append
  have hhyphen : lex "x-y" = .error (.hyphen 1) := by decide +kernel
  have htext : lex "'x y" = .ok [⟨.text "x y", 0, 4⟩, ⟨.eof, 4, 4⟩] := by decide +kernel
  have hlimit : words "LIMIT 5" = .ok [.keyword .limit, .number 5] := by decide +kernel
  have htrim : Text.trim "FROM a " = "FROM a" := by decide +kernel
  have htrim' : Text.trim " LIMIT 5" = "LIMIT 5" := by decide +kernel
  refine ⟨hw, hopen, (hpieces _ _ _ hw hopen).2.1 _ _ hfrom hhyphen,
    (hpieces _ _ _ hw hopen).2.2 _ _ hfrom htext, ?_⟩
  refine hlines ["FROM a "] " LIMIT 5"
    [[.keyword .source, .identifier "a"], [.keyword .limit, .number 5]] ?_ ?_ ?_
  · simpa [htrim] using hopen
  · decide +kernel
  · refine .cons ?_ (.cons ?_ .nil)
    · rw [htrim, words, hfrom]
      rfl
    · rw [htrim', hlimit]

/-- **Open tokens.** Nothing is lexed behind an open token and a separator as it is on its own. -/
theorem lex_append_ne_of_openEnded {s w : String} {tokens : List Located} (hw : Separates w)
    (hs : lex s = .ok tokens) (hopen : OpenEnded s) (t : String) (others : List Located) :
    lex (s ++ w ++ t) ≠ .ok (tokens.dropLast ++ others) := by
  obtain ⟨tokens', hs', hends⟩ := hopen
  obtain rfl := Except.ok.inj (hs'.symm.trans hs)
  have hends' : EndsOpen (0 + s.toList.length) tokens' := by
    simpa [String.length_toList] using hends
  have hne := lexFrom_append_ne (hw.separated t.toList) hs' hends' others
  rwa [lex, String.toList_append, String.toList_append, List.append_assoc]

end Token

end CsvQuery
