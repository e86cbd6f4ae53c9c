import CsvQuery.Proofs.LineAssembler
import CsvQuery.Proofs.Query.Execution
import CsvQuery.Proofs.Variables
import CsvQuery.Shell

/-!
Sessions of the shell. What lines ask for is said without the shell: a line is taken as a command
only where no statement is unfinished, and otherwise it is a part of one. The state after any lines
follows what they asked for: the last result is that of the last statement that had one, only
settings of variables have changed the store, and the history holds the statements that had a
result since it was cleared.
-/

namespace CsvQuery

def Command.isStatement : Command → Bool
  | .statement _ => true
  | _ => false

lemma Command.exists_of_isStatement {c : Command} (h : c.isStatement = true) :
    ∃ text, c = .statement text := by
  cases c with
  | statement text => exact ⟨text, rfl⟩
  | _ => cases h

namespace Shell

/-! ### What lines ask for -/

/-- A line belongs to a statement if one is unfinished, or if it is no built-in command. -/
def IsPart (parts : List String) (line : String) : Prop :=
  parts ≠ [] ∨ (Command.ofLine line).isStatement = true

instance (parts : List String) (line : String) : Decidable (IsPart parts line) :=
  inferInstanceAs (Decidable (_ ∨ _))

/-- What lines ask for, and the lines of the statement that they leave unfinished. Each line comes
with the files that it finds. -/
inductive Asks : List (Files × String) → List (Files × Command) → List String → Prop
  | nothing : Asks [] [] []
  /-- A built-in command is taken where no statement is unfinished. -/
  | command {given : List (Files × String)} {asked : List (Files × Command)}
      (h : Asks given asked []) (files : Files) {line : String} (hline : ¬IsPart [] line) :
      Asks (given ++ [(files, line)]) (asked ++ [(files, .ofLine line)]) []
  /-- A backslash leaves the statement unfinished. -/
  | continued {given : List (Files × String)} {asked : List (Files × Command)}
      {parts : List String} (h : Asks given asked parts) (files : Files) {line part : String}
      (hline : IsPart parts line) (hpart : Text.trim line = part ++ "\\") :
      Asks (given ++ [(files, line)]) asked (parts ++ [Text.trim part])
  /-- Any other line ends the statement. -/
  | ended {given : List (Files × String)} {asked : List (Files × Command)}
      {parts : List String} (h : Asks given asked parts) (files : Files) {line : String}
      (hline : IsPart parts line) (hlast : ∀ part, Text.trim line ≠ part ++ "\\")
      (hne : LineAssembler.assemble (parts ++ [Text.trim line]) ≠ "") :
      Asks (given ++ [(files, line)])
        (asked ++ [(files, .statement (LineAssembler.assemble (parts ++ [Text.trim line])))]) []
  /-- A statement of blank lines asks for nothing. -/
  | blank {given : List (Files × String)} {asked : List (Files × Command)}
      {parts : List String} (h : Asks given asked parts) (files : Files) {line : String}
      (hline : IsPart parts line) (hlast : ∀ part, Text.trim line ≠ part ++ "\\")
      (hblank : LineAssembler.assemble (parts ++ [Text.trim line]) = "") :
      Asks (given ++ [(files, line)]) asked []

lemma exists_asks (given : List (Files × String)) : ∃ asked parts, Asks given asked parts := by
  induction given using List.reverseRecOn with
  | nil => exact ⟨[], [], .nothing⟩
  | append_singleton given entry ih =>
    obtain ⟨files, line⟩ := entry
    obtain ⟨asked, parts, h⟩ := ih
    by_cases hline : IsPart parts line
    · by_cases hlast : ∃ part, Text.trim line = part ++ "\\"
      · obtain ⟨part, hpart⟩ := hlast
        exact ⟨_, _, .continued h files hline hpart⟩
      · rw [not_exists] at hlast
        by_cases hblank : LineAssembler.assemble (parts ++ [Text.trim line]) = ""
        · exact ⟨_, _, .blank h files hline hlast hblank⟩
        · exact ⟨_, _, .ended h files hline hlast hblank⟩
    · obtain rfl : parts = [] := by
        by_contra hparts
        exact hline (.inl hparts)
      exact ⟨_, _, .command h files hline⟩

/-! ### Requests -/

open LineAssembler (continued?_eq_some continued?_eq_none)

variable {a : LineAssembler} {line : String}

lemma request_command (hpending : a.pending = []) (hline : ¬IsPart [] line) :
    request a line = (a, some (.ofLine line)) := by
  have hidle : a.isPending = false := by simp [LineAssembler.isPending, hpending]
  rw [request, hidle]
  cases hcommand : Command.ofLine line with
  | statement text => exact absurd (.inr (by rw [hcommand]; rfl)) hline
  | _ => rfl

lemma request_part (hline : IsPart a.pending line) :
    request a line =
      ((a.addLine line).1, ((a.addLine line).2.filter (!·.isEmpty)).map .statement) := by
  unfold request
  by_cases hpending : a.pending = []
  · obtain ⟨text, htext⟩ :=
      Command.exists_of_isStatement (hline.resolve_left (not_not_intro hpending))
    simp [htext]
  · have hbusy : a.isPending = true := by simpa [LineAssembler.isPending] using hpending
    simp [hbusy]

lemma request_continued {part : String} (hline : IsPart a.pending line)
    (hpart : Text.trim line = part ++ "\\") :
    request a line = (⟨a.pending ++ [Text.trim part]⟩, none) := by
  rw [request_part hline, LineAssembler.addLine, continued?_eq_some.mpr hpart]
  rfl

lemma request_last (hline : IsPart a.pending line)
    (hlast : ∀ part, Text.trim line ≠ part ++ "\\") :
    request a line =
      (.empty, ((some (LineAssembler.assemble (a.pending ++ [Text.trim line]))).filter
        (!·.isEmpty)).map .statement) := by
  rw [request_part hline, LineAssembler.addLine, continued?_eq_none.mpr hlast]

/-! ### The state -/

def change? : Files × Command → Option (Files × VariableCommand)
  | (files, .onVariables (.set name value)) => some (files, .set name value)
  | (files, .onVariables (.unset name)) => some (files, .unset name)
  | _ => none

lemma save_shell (s : Shell) (files : Files) (path : String) : (s.save files path).shell = s := by
  unfold save
  split
  · rfl
  · split
    · rfl
    · rfl

lemma tables_shell (s : Shell) (files : Files) : (s.tables files).shell = s := by
  unfold tables
  split
  · rfl
  · rfl

lemma changed_shell {α : Type} (s : Shell) (change : Variables.Change α) (message : α → String) :
    (s.changed change message).shell = { s with store := change.store } := by
  unfold changed
  split
  · rfl
  · rfl

/-- The variables after the commands that set or remove some. -/
def storeAfter (store : Variables) (asked : List (Files × Command)) : Variables :=
  (asked.filterMap change?).foldl (fun v change => (v.call change.1 change.2).store) store

lemma storeAfter_append (store : Variables) (asked : List (Files × Command))
    (entry : Files × Command) :
    storeAfter store (asked ++ [entry]) =
      (change? entry).elim (storeAfter store asked) fun change =>
        ((storeAfter store asked).call change.1 change.2).store := by
  rw [storeAfter, List.filterMap_append, List.foldl_append]
  cases hchange : change? entry with
  | none => simp [hchange, storeAfter]
  | some change => simp [hchange, storeAfter]

def historyWith (h : History) (statements : List (String × Result)) : History :=
  statements.foldl (fun h statement => h.add statement.1) h

lemma historyWith_append (h : History) (statements : List (String × Result))
    (r : Option (String × Result)) :
    historyWith h (statements ++ r.toList) =
      r.elim (historyWith h statements) fun r => (historyWith h statements).add r.1 := by
  rw [historyWith, List.foldl_append]
  cases r with
  | none => rfl
  | some r => rfl

lemma opening_of_start {files : Files} {options : Options} {opening : Reply}
    (h : Shell.start files options = .ok opening) :
    opening.shell.assembler.pending = [] ∧ opening.shell.last = none := by
  unfold Shell.start at h
  split at h
  · cases h
  · cases h
    exact ⟨rfl, rfl⟩

section State

variable [Sorter]

/-- The text and the result of a statement that has a result. -/
def success? (base : String) : Files × Command → Option (String × Result)
  | (files, .statement text) =>
    match (Query.run files base text).outcome with
    | .ok result => some (text, result)
    | .error _ => none
  | _ => none

/-- What a command does to the state. -/
lemma perform_shell (s : Shell) (files : Files) (c : Command) :
    (s.perform files c).shell =
      { s with
        last := ((success? s.options.base (files, c)).map (·.2)).or s.last
        store := (change? (files, c)).elim s.store fun change =>
          (s.store.call change.1 change.2).store
        history := if c = .clearHistory then .empty
          else (success? s.options.base (files, c)).elim s.history (s.history.add ·.1) } := by
  cases c with
  | exit => rfl
  | help => rfl
  | clear => rfl
  | tables => exact s.tables_shell files
  | history => rfl
  | clearHistory => rfl
  | save path => exact s.save_shell files path
  | misused usage => rfl
  | onVariables command =>
    cases command with
    | set name value => exact s.changed_shell _ _
    | get name => rfl
    | unset name => exact s.changed_shell _ _
    | list => rfl
  | statement text =>
    rw [perform, query, success?]
    cases (Query.run files s.options.base text).outcome with
    | ok result => rfl
    | error halt => cases halt <;> rfl

/-- The statements that had a result, with their results. -/
def successes (base : String) (asked : List (Files × Command)) : List (String × Result) :=
  asked.filterMap (success? base)

/-- The history after some commands: the statements that had a result come behind those of the
file, or if the history was cleared, those that came later are all. -/
inductive Records (base : String) (loaded : History) : List (Files × Command) → History → Prop
  | kept {asked : List (Files × Command)} (h : ∀ entry ∈ asked, entry.2 ≠ .clearHistory) :
      Records base loaded asked (historyWith loaded (successes base asked))
  | cleared (asked : List (Files × Command)) (files : Files) {behind : List (Files × Command)}
      (h : ∀ entry ∈ behind, entry.2 ≠ .clearHistory) :
      Records base loaded (asked ++ (files, .clearHistory) :: behind)
        (historyWith .empty (successes base behind))

/-- The state follows what was asked for since the start of the session. -/
structure Follows (start : Shell) (asked : List (Files × Command)) (s : Shell) : Prop where
  options : s.options = start.options
  last : s.last = (successes start.options.base asked).getLast?.map (·.2)
  store : s.store = storeAfter start.store asked
  history : Records start.options.base start.history asked s.history

/-- The state after some lines, each with the files that it finds. -/
def after (s : Shell) (given : List (Files × String)) : Shell :=
  given.foldl (fun s entry => (s.reply entry.1 entry.2).shell) s

lemma successes_append (base : String) (asked : List (Files × Command))
    (entry : Files × Command) :
    successes base (asked ++ [entry]) = successes base asked ++ (success? base entry).toList := by
  rw [successes, List.filterMap_append, successes]
  cases hsuccess : success? base entry with
  | none => simp [hsuccess]
  | some r => simp [hsuccess]

lemma Records.append {base : String} {loaded h : History} {asked : List (Files × Command)}
    (hrecords : Records base loaded asked h) (entry : Files × Command) :
    Records base loaded (asked ++ [entry])
      (if entry.2 = .clearHistory then .empty
        else (success? base entry).elim h fun r => h.add r.1) := by
  split_ifs with hclear
  · obtain ⟨files, c⟩ := entry
    cases hclear
    exact .cleared asked files (List.forall_mem_nil _)
  · have hall : ∀ asked : List (Files × Command), (∀ other ∈ asked, other.2 ≠ .clearHistory) →
        ∀ other ∈ asked ++ [entry], other.2 ≠ .clearHistory := fun asked h =>
      List.forall_mem_append.mpr ⟨h, List.forall_mem_singleton.mpr hclear⟩
    cases hrecords with
    | kept h =>
      rw [← historyWith_append, ← successes_append]
      exact .kept (hall asked h)
    | cleared asked files h =>
      rw [← historyWith_append, ← successes_append, List.append_assoc, List.cons_append]
      exact .cleared asked files (hall _ h)

variable {start s : Shell} {given : List (Files × String)} {asked : List (Files × Command)}
  {parts : List String}

lemma Follows.perform (h : Follows start asked s) (files : Files) (c : Command) :
    Follows start (asked ++ [(files, c)]) (s.perform files c).shell := by
  rw [perform_shell, h.options]
  refine ⟨rfl, ?_, ?_, h.history.append (files, c)⟩
  · rw [successes_append, List.getLast?_append, h.last]
    cases success? start.options.base (files, c) with
    | none => rfl
    | some r => rfl
  · rw [storeAfter_append, ← h.store]

lemma Follows.withAssembler (h : Follows start asked s) (assembler : LineAssembler) :
    Follows start asked { s with assembler } :=
  ⟨h.options, h.last, h.store, h.history⟩

lemma after_append (s : Shell) (given : List (Files × String)) (files : Files) (line : String) :
    s.after (given ++ [(files, line)]) = ((s.after given).reply files line).shell := by
  rw [after, List.foldl_concat, after]

lemma reply_of_request_none {assembler : LineAssembler} {files : Files}
    (h : request s.assembler line = (assembler, none)) :
    (s.reply files line).shell = { s with assembler } := by
  rw [reply, h]
  rfl

lemma reply_of_request_some {assembler : LineAssembler} {files : Files} {c : Command}
    (h : request s.assembler line = (assembler, some c)) :
    (s.reply files line).shell = ({ s with assembler }.perform files c).shell := by
  rw [reply, h]

lemma follows_of_asks (hpending : start.assembler.pending = []) (hlast : start.last = none)
    (h : Asks given asked parts) :
    (start.after given).assembler.pending = parts ∧ Follows start asked (start.after given) := by
  induction h with
  | nothing => exact ⟨hpending, rfl, hlast, rfl, .kept (List.forall_mem_nil _)⟩
  | command h files hline ih =>
    obtain ⟨hparts, hfollows⟩ := ih
    rw [after_append, reply_of_request_some (request_command hparts hline)]
    refine ⟨?_, (hfollows.withAssembler _).perform files _⟩
    rw [perform_shell]
    exact hparts
  | continued h files hline hpart ih =>
    obtain ⟨rfl, hfollows⟩ := ih
    rw [after_append, reply_of_request_none (request_continued hline hpart)]
    exact ⟨rfl, hfollows.withAssembler _⟩
  | ended h files hline hlast hne ih =>
    obtain ⟨rfl, hfollows⟩ := ih
    have hrequest := request_last hline hlast
    rw [Option.filter_some, if_pos (by simpa using hne)] at hrequest
    rw [after_append, reply_of_request_some hrequest]
    refine ⟨?_, (hfollows.withAssembler _).perform files _⟩
    rw [perform_shell]
    rfl
  | blank h files hline hlast hblank ih =>
    obtain ⟨rfl, hfollows⟩ := ih
    have hrequest := request_last hline hlast
    rw [Option.filter_some, if_neg (by simpa using hblank)] at hrequest
    rw [after_append, reply_of_request_none hrequest]
    exact ⟨rfl, hfollows.withAssembler _⟩

/-- **The state follows the last success.** Whatever lines a session is given, over any files, they
ask for some commands, and after them the last result, the variables and the history are what the
commands make of those at the start; the lines that wait are those of the unfinished statement. -/
theorem follows_asked {files : Files} {options : Options} {opening : Reply}
    (hstart : Shell.start files options = .ok opening) (given : List (Files × String)) :
    (∃ asked parts, Asks given asked parts) ∧
      ∀ asked parts, Asks given asked parts →
        (opening.shell.after given).assembler.pending = parts ∧
          Follows opening.shell asked (opening.shell.after given) := by
  obtain ⟨hpending, hlast⟩ := opening_of_start hstart
  exact ⟨exists_asks given, fun _ _ h => follows_of_asks hpending hlast h⟩

end State

attribute [local instance] Sorter.standard

/-- A session with a statement that fails, since it holds a command word. -/
def citySession : List (Files × String) :=
  ["SELECT city FROM shops", "history -d", "SELECT city FROM \\", "tables", "variable a = 1"].map
    (Query.shopFiles, ·)

def cityCommands : List (Files × Command) :=
  [.statement "SELECT city FROM shops", .clearHistory, .statement "SELECT city FROM tables",
    .onVariables (.set "a" "1")].map (Query.shopFiles, ·)

theorem follows_asked_citySession :
    ∃ opening, Shell.start Query.shopFiles .standard = .ok opening ∧
      Asks citySession cityCommands [] ∧
      (opening.shell.after citySession).assembler.pending = [] ∧
      Follows opening.shell cityCommands (opening.shell.after citySession) ∧
      (opening.shell.after citySession).last = some ⟨["city"], [["a"], ["b"], ["a"]]⟩ := by
  have hasks : Asks citySession cityCommands [] := by
    have hfirst : Asks [(Query.shopFiles, "SELECT city FROM shops")]
        [(Query.shopFiles, .statement "SELECT city FROM shops")] [] :=
      .ended .nothing _ (by decide +kernel) (continued?_eq_none.mp rfl) (by decide +kernel)
    have hcleared : Asks _ _ [] := hfirst.command Query.shopFiles
      (show ¬IsPart [] "history -d" by decide +kernel)
    have hwaiting := hcleared.continued Query.shopFiles
      (show IsPart [] "SELECT city FROM \\" by decide +kernel)
      (show _ = "SELECT city FROM " ++ "\\" from rfl)
    have htables := hwaiting.ended Query.shopFiles
      (show IsPart ["SELECT city FROM"] "tables" from .inl (by decide))
      (continued?_eq_none.mp rfl) (by decide +kernel)
    exact htables.command Query.shopFiles
      (show ¬IsPart [] "variable a = 1" by decide +kernel)
  have hsuccesses : successes "." cityCommands =
      [("SELECT city FROM shops", ⟨["city"], [["a"], ["b"], ["a"]]⟩)] := by decide +kernel
  obtain ⟨opening, hstart⟩ : ∃ opening, Shell.start Query.shopFiles .standard = .ok opening :=
    ⟨_, rfl⟩
  obtain ⟨-, hall⟩ := follows_asked hstart citySession
  obtain ⟨hpending, hfollows⟩ := hall cityCommands [] hasks
  refine ⟨opening, hstart, hasks, hpending, hfollows, ?_⟩
  have hbase : opening.shell.options.base = "." := by
    cases hstart
    rfl
  rw [hfollows.last, hbase, hsuccesses]
  rfl

end Shell

end CsvQuery
