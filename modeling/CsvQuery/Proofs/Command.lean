import CsvQuery.Command
import CsvQuery.Proofs.LineAssembler
import CsvQuery.Proofs.Text.Blank

/-!
Commands on variables and their lines. What a line can ask for is characterised, and every such
command is read back from the line that is written for it.
-/

namespace CsvQuery

open LineAssembler (Trimmed trimmed_append trimmed_trim)

namespace VariableCommand

/-- What is written behind the first word of a line that gives the command. -/
def arguments : VariableCommand → String
  | set name value => name ++ "=" ++ value
  | get name => "-g " ++ name
  | unset name => "-u " ++ name
  | list => "-l"

def text (c : VariableCommand) : String :=
  "variable " ++ c.arguments

/-- The text begins like one that asks for a variable or removes one. -/
def Flagged (s : String) : Prop :=
  ((Text.firstWord s).1 = "-g" ∨ (Text.firstWord s).1 = "-u") ∧ (Text.firstWord s).2 ≠ ""

/-- The command is one that a line can give. -/
def Plain : VariableCommand → Prop
  | set name value =>
    name ≠ "" ∧ Trimmed name ∧ Trimmed value ∧ '=' ∉ name.toList ∧ ¬Flagged name
  | get name => name ≠ "" ∧ Trimmed name
  | unset name => name ≠ "" ∧ Trimmed name
  | list => True

end VariableCommand

/-! ### First words -/

section FirstWord

variable {s whole : String} {more : List Char}

lemma trimmed_firstWord (s : String) : Trimmed (Text.firstWord s).2 := by
  unfold Text.firstWord
  split
  · exact trimmed_trim _
  · exact fun c hc => by simp at hc

lemma toList_firstWord (s : String) :
    (Text.firstWord s).1.toList = s.toList.takeWhile fun c => !Text.isBlank c := by
  rcases Text.firstWord_cases s with hword | ⟨word, b, behind, hs, hb, hword⟩
  · have hkept : ∀ c ∈ s.toList, (!Text.isBlank c) = true := fun c hc => by simp [hword c hc]
    rw [Text.firstWord_of_not_blank hword, List.takeWhile_eq_self_iff.mpr hkept]
  · have hkept : ∀ c ∈ word.toList, (!Text.isBlank c) = true := fun c hc => by simp [hword c hc]
    rw [Text.firstWord_of_cut hs hb hword, hs, List.takeWhile_append_of_pos hkept,
      List.takeWhile_cons_of_neg (by simp [hb]), List.append_nil]

lemma firstWord_append (hs : ∃ c ∈ s.toList, Text.isBlank c = true)
    (hwhole : whole.toList = s.toList ++ more) (hmore : '=' ∈ more) :
    (Text.firstWord whole).1 = (Text.firstWord s).1 ∧ (Text.firstWord whole).2 ≠ "" := by
  rcases Text.firstWord_cases s with hword | ⟨word, b, behind, hcut, hb, hword⟩
  · obtain ⟨c, hc, hblank⟩ := hs
    rw [hword c hc] at hblank
    cases hblank
  · have hcut' : whole.toList = word.toList ++ b :: (behind ++ String.ofList more).toList := by
      rw [hwhole, hcut]
      simp
    rw [Text.firstWord_of_cut hcut hb hword, Text.firstWord_of_cut hcut' hb hword]
    exact ⟨rfl, Text.trim_ne_empty (c := '=') (by simp [hmore]) rfl⟩

lemma firstWord_ne_empty (hs : Trimmed s) (hblank : ∃ c ∈ s.toList, Text.isBlank c = true) :
    (Text.firstWord s).2 ≠ "" := by
  rcases Text.firstWord_cases s with hword | ⟨word, b, behind, hcut, hb, hword⟩
  · obtain ⟨c, hc, hblank⟩ := hblank
    rw [hword c hc] at hblank
    cases hblank
  · rw [Text.firstWord_of_cut hcut hb hword]
    rcases List.eq_nil_or_concat behind.toList with hnil | ⟨init, c, hlast⟩
    · have hb' := hs b (.inr (by simp [hcut, hnil]))
      rw [hb] at hb'
      cases hb'
    · have hc := hs c (.inr (by simp [hcut, hlast, List.getLast?_cons]))
      exact Text.trim_ne_empty (c := c) (by simp [hlast]) hc

lemma exists_blank_of_firstWord (h : (Text.firstWord s).2 ≠ "") :
    ∃ c ∈ s.toList, Text.isBlank c = true := by
  by_contra hno
  have hword : ∀ c ∈ s.toList, Text.isBlank c = false := by simpa using hno
  rw [Text.firstWord_of_not_blank hword] at h
  exact h rfl

lemma mem_firstWord {x : Char} (hx : x ∈ s.toList) (hblank : Text.isBlank x = false) :
    x ∈ (Text.firstWord s).1.toList ∨ (Text.firstWord s).2 ≠ "" := by
  rcases Text.firstWord_cases s with hword | ⟨word, b, behind, hcut, hb, hword⟩
  · rw [Text.firstWord_of_not_blank hword]
    exact .inl hx
  · rw [Text.firstWord_of_cut hcut hb hword]
    rw [hcut] at hx
    rcases List.mem_append.mp hx with hx | hx
    · exact .inl hx
    rcases List.mem_cons.mp hx with rfl | hx
    · rw [hb] at hblank
      cases hblank
    · exact .inr (Text.trim_ne_empty hx hblank)

lemma VariableCommand.Flagged.append (h : Flagged s) (hwhole : whole.toList = s.toList ++ more)
    (hmore : '=' ∈ more) : Flagged whole := by
  obtain ⟨hfirst, hrest⟩ := firstWord_append (exists_blank_of_firstWord h.2) hwhole hmore
  exact ⟨hfirst ▸ h.1, hrest⟩

lemma VariableCommand.not_flagged_append (hs : Trimmed s) (h : ¬Flagged s)
    (hwhole : whole.toList = s.toList ++ '=' :: more) : ¬Flagged whole := by
  have hequals : '=' ∈ '=' :: more := List.mem_cons_self
  rintro ⟨hflag, -⟩
  by_cases hblank : ∃ c ∈ s.toList, Text.isBlank c = true
  · rw [(firstWord_append hblank hwhole hequals).1] at hflag
    exact h ⟨hflag, firstWord_ne_empty hs hblank⟩
  · -- The first word goes beyond the equals sign.
    have hword : ∀ c ∈ s.toList, (!Text.isBlank c) = true := by simpa using hblank
    have hmem : '=' ∈ (Text.firstWord whole).1.toList := by
      rw [toList_firstWord, hwhole, List.takeWhile_append_of_pos hword,
        List.takeWhile_cons_of_pos (by rfl)]
      simp
    rcases hflag with hflag | hflag
    · simp [hflag] at hmem
    · simp [hflag] at hmem

end FirstWord

/-! ### Reading commands -/

namespace Command

open VariableCommand

variable {line text name value : String} {c : VariableCommand}

lemma variableCommand?_of_ofLine (h : ofLine line = .onVariables c) :
    variableCommand? (Text.firstWord (Text.trim line)).2 = some c := by
  unfold ofLine at h
  dsimp only at h
  split at h
  any_goals simp only [reduceCtorEq] at h
  -- What is left is a line whose first word is the one for variables.
  split at h
  · rename_i command hcommand
    cases h
    exact hcommand
  · cases h

lemma ofLine_of_variableCommand? (hline : Text.firstWord (Text.trim line) = ("variable", text))
    (h : variableCommand? text = some c) : ofLine line = .onVariables c := by
  simp only [ofLine, hline, h]

lemma assignment?_eq_some_iff : assignment? text = some (.set name value) ↔
    ∃ front behind : String, text.toList = front.toList ++ '=' :: behind.toList ∧
      '=' ∉ front.toList ∧ Text.trim front = name ∧ Text.trim behind = value ∧ name ≠ "" := by
  have hcut : ∀ front behind, Text.splitAtFirst (· == '=') text = some (front, behind) ↔
      text.toList = front.toList ++ '=' :: behind.toList ∧ '=' ∉ front.toList := by
    intro front behind
    rw [Text.splitAtFirst_eq_some_iff]
    constructor
    · rintro ⟨c, htext, hc, hfront⟩
      obtain rfl := beq_iff_eq.mp hc
      exact ⟨htext, fun hmem => by simpa using hfront _ hmem⟩
    · rintro ⟨htext, hfront⟩
      refine ⟨'=', htext, rfl, fun x hx => beq_eq_false_iff_ne.mpr ?_⟩
      rintro rfl
      exact hfront hx
  rw [assignment?]
  constructor
  · intro h
    split at h
    · rename_i front behind hfound
      obtain ⟨htext, hfront⟩ := (hcut front behind).mp hfound
      split at h
      · cases h
      · rename_i hne
        cases h
        exact ⟨front, behind, htext, hfront, rfl, rfl, by simpa using hne⟩
    · cases h
  · rintro ⟨front, behind, htext, hfront, rfl, rfl, hne⟩
    rw [(hcut front behind).mpr ⟨htext, hfront⟩]
    simp [hne]

lemma variableCommand?_eq_set_iff : variableCommand? text = some (.set name value) ↔
    ¬Flagged text ∧ assignment? text = some (.set name value) := by
  unfold variableCommand?
  dsimp only
  split_ifs with hlist hget hunset
  · refine iff_of_false (by simp) fun ⟨_, h⟩ => ?_
    -- There is no equals sign in the text that asks for all variables.
    obtain ⟨front, behind, htext, -⟩ := assignment?_eq_some_iff.mp h
    have hequals : '=' ∈ text.toList := by simp [htext]
    rcases mem_firstWord hequals rfl with hmem | hmem
    · simp [hlist.1] at hmem
    · exact hmem hlist.2
  · exact iff_of_false (by simp) fun ⟨h, _⟩ => h ⟨.inl hget.1, hget.2⟩
  · exact iff_of_false (by simp) fun ⟨h, _⟩ => h ⟨.inr hunset.1, hunset.2⟩
  · refine (and_iff_right ?_).symm
    rintro ⟨hflag | hflag, hrest⟩
    · exact hget ⟨hflag, hrest⟩
    · exact hunset ⟨hflag, hrest⟩

lemma variableCommand?_cases (h : variableCommand? text = some c) :
    c = .list ∨
      (c = .get (Text.firstWord text).2 ∨ c = .unset (Text.firstWord text).2) ∧
        (Text.firstWord text).2 ≠ "" ∨
      ∃ name value, c = .set name value := by
  unfold variableCommand? at h
  dsimp only at h
  split_ifs at h with hlist hget hunset
  · exact .inl (Option.some.inj h).symm
  · exact .inr (.inl ⟨.inl (Option.some.inj h).symm, hget.2⟩)
  · exact .inr (.inl ⟨.inr (Option.some.inj h).symm, hunset.2⟩)
  · unfold assignment? at h
    split at h
    · split at h
      · cases h
      · exact .inr (.inr ⟨_, _, (Option.some.inj h).symm⟩)
    · cases h

/-! ### Commands and their lines -/

lemma plain_of_variableCommand? (htext : Trimmed text) (h : variableCommand? text = some c) :
    c.Plain := by
  obtain rfl | ⟨rfl | rfl, hne⟩ | ⟨name, value, rfl⟩ := variableCommand?_cases h
  · trivial
  · exact ⟨hne, trimmed_firstWord text⟩
  · exact ⟨hne, trimmed_firstWord text⟩
  · obtain ⟨hflagged, hassigned⟩ := variableCommand?_eq_set_iff.mp h
    obtain ⟨front, behind, hcut, hfront, rfl, rfl, hne⟩ := assignment?_eq_some_iff.mp hassigned
    refine ⟨hne, trimmed_trim _, trimmed_trim _, fun hmem => hfront (Text.mem_of_mem_trim hmem),
      fun hname => hflagged ?_⟩
    -- The name stands at the start of the text, for the text does not begin with a blank.
    have hhead : ∀ c, front.toList.head? = some c → Text.isBlank c = false :=
      fun c hc => htext c (.inl (by simp [hcut, hc]))
    obtain ⟨after, hafter, -⟩ := Text.exists_trim_of_head hhead
    rw [hafter, List.append_assoc] at hcut
    exact hname.append hcut (by simp)

lemma firstWord_word (word : String) (hword : ∀ c ∈ word.toList, Text.isBlank c = false)
    (htext : Trimmed text) : Text.firstWord (word ++ " " ++ text) = (word, text) := by
  have hcut : (word ++ " " ++ text).toList = word.toList ++ ' ' :: text.toList := by simp
  rw [Text.firstWord_of_cut hcut rfl hword, Text.trim_eq_self htext]

lemma variableCommand?_arguments (h : c.Plain) : variableCommand? c.arguments = some c := by
  cases c with
  | list => decide
  | get name =>
    have hread : Text.firstWord ("-g " ++ name) = ("-g", name) := by
      simpa using firstWord_word "-g" (by simp [Text.isBlank]) h.2
    simp [variableCommand?, arguments, hread, h.1]
  | unset name =>
    have hread : Text.firstWord ("-u " ++ name) = ("-u", name) := by
      simpa using firstWord_word "-u" (by simp [Text.isBlank]) h.2
    simp [variableCommand?, arguments, hread, h.1]
  | set name value =>
    obtain ⟨hne, hname, hvalue, hequals, hflagged⟩ := h
    have hcut : (name ++ "=" ++ value).toList = name.toList ++ '=' :: value.toList := by simp
    refine variableCommand?_eq_set_iff.mpr ⟨not_flagged_append hname hflagged hcut, ?_⟩
    exact assignment?_eq_some_iff.mpr
      ⟨name, value, hcut, hequals, Text.trim_eq_self hname, Text.trim_eq_self hvalue, hne⟩

lemma trimmed_arguments (h : c.Plain) : Trimmed c.arguments ∧ c.arguments ≠ "" := by
  cases c with
  | list =>
    refine ⟨fun c hc => ?_, by decide⟩
    rcases hc with hc | hc
    · cases hc
      rfl
    · cases hc
      rfl
  | get name =>
    have hfirst : ∀ c ∈ "-g ".toList.head?, Text.isBlank c = false := by simp [Text.isBlank]
    exact ⟨trimmed_append hfirst (fun c hc => h.2 c (.inr hc)) (by decide) h.1, by simp [arguments]⟩
  | unset name =>
    have hfirst : ∀ c ∈ "-u ".toList.head?, Text.isBlank c = false := by simp [Text.isBlank]
    exact ⟨trimmed_append hfirst (fun c hc => h.2 c (.inr hc)) (by decide) h.1, by simp [arguments]⟩
  | set name value =>
    obtain ⟨hne, hname, hvalue, -⟩ := h
    have hlast : ∀ c ∈ ("=" ++ value).toList.getLast?, Text.isBlank c = false := by
      intro c hc
      rw [String.toList_append, List.getLast?_append, Option.mem_def, Option.or_eq_some_iff] at hc
      rcases hc with hc | ⟨-, hc⟩
      · exact hvalue c (.inr hc)
      · cases hc
        rfl
    rw [arguments, String.append_assoc]
    exact ⟨trimmed_append (fun c hc => hname c (.inl hc)) hlast hne (by simp), by simp⟩

/-- **A plain command is given by its line.** -/
theorem ofLine_text (h : c.Plain) : ofLine c.text = .onVariables c := by
  obtain ⟨htrimmed, hne⟩ := trimmed_arguments h
  have htext : Trimmed c.text :=
    trimmed_append (by simp [Text.isBlank]) (fun b hb => htrimmed b (.inr hb)) (by decide) hne
  refine ofLine_of_variableCommand? ?_ (variableCommand?_arguments h)
  rw [Text.trim_eq_self htext, VariableCommand.text]
  simpa using firstWord_word "variable" (by simp [Text.isBlank]) htrimmed

/-- **What lines ask for.** A command on variables is given by some line if and only if it is
plain. -/
theorem exists_ofLine_iff : (∃ line, ofLine line = .onVariables c) ↔ c.Plain :=
  ⟨fun ⟨_, h⟩ => plain_of_variableCommand? (trimmed_firstWord _) (variableCommand?_of_ofLine h),
    fun h => ⟨c.text, ofLine_text h⟩⟩

/-- **Every name that can be set can be read and removed.** If a line sets a variable, its name is
not empty, has no equals sign and, like the value, no blanks around it. The line that is written for
name and value sets the same variable to the same value, and the lines that are written to ask for
the name and to remove it do so. -/
theorem ofLine_assigned (h : ofLine line = .onVariables (.set name value)) :
    name ≠ "" ∧ '=' ∉ name.toList ∧ Trimmed name ∧ Trimmed value ∧
    ofLine ("variable " ++ name ++ "=" ++ value) = .onVariables (.set name value) ∧
    ofLine ("variable -g " ++ name) = .onVariables (.get name) ∧
    ofLine ("variable -u " ++ name) = .onVariables (.unset name) := by
  have hplain : (VariableCommand.set name value).Plain := exists_ofLine_iff.mp ⟨line, h⟩
  have hset := ofLine_text hplain
  obtain ⟨hne, hname, hvalue, hequals, -⟩ := hplain
  have hget : ofLine (VariableCommand.get name).text = .onVariables (.get name) :=
    ofLine_text ⟨hne, hname⟩
  have hunset : ofLine (VariableCommand.unset name).text = .onVariables (.unset name) :=
    ofLine_text ⟨hne, hname⟩
  simp only [VariableCommand.text, arguments, ← String.append_assoc] at hset hget hunset
  exact ⟨hne, hequals, hname, hvalue, hset, hget, hunset⟩

theorem ofLine_assigned_flag :
    ofLine " variable  -l all = a = b " = .onVariables (.set "-l all" "a = b") ∧
    ofLine "variable -l all=a = b" = .onVariables (.set "-l all" "a = b") ∧
    ofLine "variable -g -l all" = .onVariables (.get "-l all") ∧
    ofLine "variable -u -l all" = .onVariables (.unset "-l all") := by
  have h : ofLine " variable  -l all = a = b " = .onVariables (.set "-l all" "a = b") := by
    decide +kernel
  obtain ⟨-, -, -, -, hset, hget, hunset⟩ := ofLine_assigned h
  exact ⟨h, hset, hget, hunset⟩

end Command

end CsvQuery
