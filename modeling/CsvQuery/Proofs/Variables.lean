import CsvQuery.Command
import CsvQuery.Proofs.Files.Writing
import CsvQuery.Proofs.Json.RoundTrip
import CsvQuery.Variables
import Mathlib.Logic.Function.Basic

/-!
The variables and their file. As long as every write succeeds and nobody else writes the file, the
file holds what the store holds: loaded again after any calls, it gives the same bindings, which are
those that the calls make of the ones that the file held first.
-/

namespace CsvQuery.Variables

variable (name value : String) (bindings settings : List (String × String))

/-! ### Bindings -/

lemma lookup_bind (other : String) :
    (bind name value bindings).lookup other =
      Function.update (bindings.lookup ·) name (some value) other := by
  induction bindings with
  | nil => rw [bind, Files.lookup_cons_ite, Function.update_apply]
  | cons b bindings ih =>
    rw [bind]
    split_ifs with hlt heq
    · rw [Files.lookup_cons_ite, Function.update_apply]
    · rw [Function.update_apply, Files.lookup_cons_ite, Files.lookup_cons_ite, ← heq]
      split_ifs
      · rfl
      · rfl
    · -- The first binding stays in front of the others, and it is of another name.
      rw [Files.lookup_cons_ite, ih, Function.update_apply, Function.update_apply,
        Files.lookup_cons_ite]
      split_ifs with hfirst hname
      · exact absurd (hname.symm.trans hfirst) heq
      · rfl
      · rfl
      · rfl

lemma lookup_unbind (other : String) :
    (unbind name bindings).lookup other = Function.update (bindings.lookup ·) name none other := by
  rw [Function.update_apply]
  split_ifs with h
  · subst h
    refine List.lookup_eq_none_iff.mpr fun b hb => ?_
    have hne : b.1 ≠ other := by simpa using (List.mem_filter.mp hb).2
    simpa using hne.symm
  · exact Files.lookup_filter_ne bindings h

lemma lookup_ofSettings (other : String) :
    (ofSettings settings).lookup other = settings.reverse.lookup other := by
  induction settings using List.reverseRecOn generalizing other with
  | nil => rfl
  | append_singleton settings setting ih =>
    rw [ofSettings, List.foldl_concat, lookup_bind, Function.update_apply, List.reverse_concat,
      Files.lookup_cons_ite]
    split_ifs with h
    · rfl
    · exact ih other

/-- The bindings are in the order of their names, each name once. -/
def Sorted (bindings : List (String × String)) : Prop :=
  bindings.Pairwise fun b b' => b.1 < b'.1

variable {name value bindings settings}

lemma mem_bind {b : String × String} (h : b ∈ bind name value bindings) :
    b = (name, value) ∨ b ∈ bindings := by
  induction bindings with
  | nil => simpa [bind] using h
  | cons b' bindings ih =>
    rw [bind] at h
    split_ifs at h
    · simpa using h
    · rcases List.mem_cons.mp h with rfl | h
      · exact .inl rfl
      · exact .inr (List.mem_cons_of_mem _ h)
    · rcases List.mem_cons.mp h with rfl | h
      · exact .inr List.mem_cons_self
      · exact (ih h).imp_right (List.mem_cons_of_mem _)

lemma Sorted.bind (h : Sorted bindings) (name value : String) :
    Sorted (bind name value bindings) := by
  induction bindings with
  | nil => exact List.pairwise_singleton _ _
  | cons b bindings ih =>
    obtain ⟨hfirst, hrest⟩ := List.pairwise_cons.mp h
    rw [Variables.bind]
    split_ifs with hlt heq
    · refine List.pairwise_cons.mpr ⟨fun b' hb' => ?_, h⟩
      rcases List.mem_cons.mp hb' with rfl | hb'
      · exact hlt
      · exact String.lt_trans hlt (hfirst b' hb')
    · subst heq
      exact List.pairwise_cons.mpr ⟨hfirst, hrest⟩
    · refine List.pairwise_cons.mpr ⟨fun b' hb' => ?_, ih hrest⟩
      rcases mem_bind hb' with rfl | hb'
      · exact String.not_le.mp fun hle => heq (String.le_antisymm hle (String.not_lt.mp hlt))
      · exact hfirst b' hb'

lemma Sorted.unbind (h : Sorted bindings) (name : String) : Sorted (unbind name bindings) :=
  List.Pairwise.filter _ h

lemma sorted_ofSettings (settings : List (String × String)) : Sorted (ofSettings settings) := by
  induction settings using List.reverseRecOn with
  | nil => exact List.Pairwise.nil
  | append_singleton settings setting ih =>
    rw [ofSettings, List.foldl_concat]
    exact ih.bind setting.1 setting.2

lemma bind_of_forall_lt (h : ∀ b ∈ bindings, b.1 < name) :
    bind name value bindings = bindings ++ [(name, value)] := by
  induction bindings with
  | nil => rfl
  | cons b bindings ih =>
    have hlt : b.1 < name := h b List.mem_cons_self
    have hbound := ih fun b' hb' => h b' (List.mem_cons_of_mem _ hb')
    rw [bind, if_neg (String.lt_asymm hlt), if_neg (String.ne_of_lt hlt).symm, hbound,
      List.cons_append]

lemma Sorted.ofSettings_eq (h : Sorted bindings) : ofSettings bindings = bindings := by
  induction bindings using List.reverseRecOn with
  | nil => rfl
  | append_singleton bindings b ih =>
    obtain ⟨hbefore, -, hlast⟩ := List.pairwise_append.mp h
    have hbindings : bindings.foldl (fun bindings s => Variables.bind s.1 s.2 bindings) [] =
        bindings := ih hbefore
    rw [ofSettings, List.foldl_concat, hbindings]
    exact bind_of_forall_lt fun b' hb' => hlast b' hb' b List.mem_cons_self

lemma Sorted.mem_iff (h : Sorted bindings) :
    (name, value) ∈ bindings ↔ bindings.lookup name = some value := by
  refine ⟨fun hmem => ?_, fun hlookup => ?_⟩
  · obtain ⟨before, behind, rfl⟩ := List.append_of_mem hmem
    refine List.lookup_eq_some_iff.mpr ⟨before, behind, rfl, fun b hb => ?_⟩
    have hlt : b.1 < name := (List.pairwise_append.mp h).2.2 b hb _ List.mem_cons_self
    simpa using (String.ne_of_lt hlt).symm
  · obtain ⟨before, behind, rfl, -⟩ := List.lookup_eq_some_iff.mp hlookup
    simp

/-! ### The file -/

variable {v : Variables} {files files' : Files} {path : String}

lemma load_eq (files : Files) (path : String) :
    load files path =
      match (files.look path).toOption with
      | none => .ok ⟨path, []⟩
      | some .directory => .error (.unreadableVariables path .directory)
      | some (.file content) =>
        match (Json.read? content).bind (·.texts?) with
        | none => .error (.malformedVariables path)
        | some settings => .ok ⟨path, ofSettings settings⟩ := by
  unfold load Files.exists? Files.read
  cases files.look path with
  | error fault => rfl
  | ok node =>
    cases node with
    | directory => rfl
    | file content => rfl

/-- What the variables of a file are: each name has its last value. Where nothing is, there are
none. -/
inductive Holds (files : Files) (path : String) : (String → Option String) → Prop
  | nothing {fault : Files.Fault} (hlook : files.look path = .error fault) :
      Holds files path fun _ => none
  | texts {content : ByteArray} {settings : List (String × String)}
      (hlook : files.look path = .ok (.file content))
      (htexts : (Json.read? content).bind (·.texts?) = some settings) :
      Holds files path fun name => settings.reverse.lookup name

lemma load_of_write (hsorted : Sorted v.bindings)
    (h : files.write v.path v.fileText.toUTF8 = .ok files') : load files' v.path = .ok v := by
  have htexts : (Json.read? v.fileText.toUTF8).bind (·.texts?) = some v.bindings :=
    Json.texts?_read?_writtenObject v.bindings
  rw [load_eq, Files.look_of_write h]
  simp only [Except.toOption, htexts, hsorted.ofSettings_eq]

lemma load_of_save (hsorted : Sorted v.bindings) (h : (v.save files).outcome = .ok ()) :
    load (v.save files).files v.path = .ok v := by
  unfold save at h ⊢
  cases hwrite : files.write v.path v.fileText.toUTF8 with
  | error fault =>
    rw [hwrite] at h
    cases h
  | ok files' => exact load_of_write hsorted hwrite

lemma save_store (v : Variables) (files : Files) : (v.save files).store = v := by
  unfold save
  split
  · rfl
  · rfl

/-! ### Calls -/

def call (v : Variables) (files : Files) : VariableCommand → Change Unit
  | .set name value => v.set files name value
  | .unset name =>
    let change := v.unset files name
    ⟨change.store, change.files, change.outcome.map fun _ => ()⟩
  | .get _ | .list => ⟨v, files, .ok ()⟩

def denote (values : String → Option String) : VariableCommand → String → Option String
  | .set name value => Function.update values name (some value)
  | .unset name => Function.update values name none
  | .get _ | .list => values

/-- Runs of calls whose writes succeed. Between two calls other files may change in any way. -/
inductive Run (start : Variables) (files : Files) :
    List VariableCommand → Variables → Files → Prop
  | start : Run start files [] start files
  | call {calls : List VariableCommand} {v : Variables} {files' : Files}
      (hrun : Run start files calls v files') (command : VariableCommand)
      (hok : (v.call files' command).outcome = .ok ()) :
      Run start files (calls ++ [command]) (v.call files' command).store
        (v.call files' command).files
  | elsewhere {calls : List VariableCommand} {v : Variables} {files' files'' : Files}
      (hrun : Run start files calls v files')
      (hsame : (files''.look v.path).toOption = (files'.look v.path).toOption) :
      Run start files calls v files''

/-- What a call can do: nothing, where its meaning changes no value, or save other bindings, which
have the values that it means. -/
lemma call_cases (v : Variables) (files : Files) (command : VariableCommand) :
    (v.call files command = ⟨v, files, .ok ()⟩ ∧ denote v.get? command = v.get?) ∨
      ∃ bindings, v.call files command = save { v with bindings } files ∧
        (Sorted v.bindings → Sorted bindings) ∧
        ∀ name, bindings.lookup name = denote v.get? command name := by
  cases command with
  | set name value =>
    exact .inr ⟨bind name value v.bindings, rfl, fun h => h.bind name value,
      lookup_bind name value v.bindings⟩
  | get name => exact .inl ⟨rfl, rfl⟩
  | list => exact .inl ⟨rfl, rfl⟩
  | unset name =>
    by_cases hbound : (v.get? name).isSome
    · refine .inr ⟨unbind name v.bindings, ?_, fun h => h.unbind name,
        lookup_unbind name v.bindings⟩
      rw [call, unset, if_pos hbound]
      generalize save { v with bindings := unbind name v.bindings } files = change
      obtain ⟨store, files', outcome⟩ := change
      cases outcome with
      | error e => rfl
      | ok _ => rfl
    · -- A name without a value has none afterwards either.
      have hnone : v.get? name = none := by simpa using hbound
      refine .inl ⟨?_, ?_⟩
      · rw [call, unset, if_neg hbound]
        rfl
      · rw [denote, ← hnone, Function.update_eq_self]

/-- The variables have these values, in the order of their names, and the file gives them back. -/
structure Kept (path : String) (values : String → Option String) (v : Variables) (files : Files) :
    Prop where
  path_eq : v.path = path
  sorted : Sorted v.bindings
  get?_eq : v.get? = values
  loaded : load files path = .ok v

variable {values : String → Option String}

lemma exists_kept_of_holds (h : Holds files path values) : ∃ v, Kept path values v files := by
  cases h with
  | nothing hlook =>
    exact ⟨⟨path, []⟩, rfl, List.Pairwise.nil, rfl, by rw [load_eq, hlook]; rfl⟩
  | @texts content settings hlook htexts =>
    refine ⟨⟨path, ofSettings settings⟩, rfl, sorted_ofSettings settings,
      funext (lookup_ofSettings settings), ?_⟩
    rw [load_eq, hlook]
    simp only [Except.toOption, htexts]

lemma Kept.call (h : Kept path values v files) {command : VariableCommand}
    (hok : (v.call files command).outcome = .ok ()) :
    Kept path (denote values command) (v.call files command).store
      (v.call files command).files := by
  obtain ⟨hcall, hdenote⟩ | ⟨bindings, hcall, hsorted, hlookup⟩ := v.call_cases files command
  · rw [hcall]
    exact ⟨h.path_eq, h.sorted, by rw [← h.get?_eq, hdenote], h.loaded⟩
  · rw [hcall] at hok ⊢
    rw [save_store]
    refine ⟨h.path_eq, hsorted h.sorted, ?_, ?_⟩
    · rw [← h.get?_eq]
      exact funext hlookup
    · rw [← h.path_eq]
      exact load_of_save (hsorted h.sorted) hok

lemma Kept.of_run {start : Variables} {calls : List VariableCommand}
    (hstart : Kept path values start files) (hrun : Run start files calls v files') :
    Kept path (calls.foldl denote values) v files' := by
  induction hrun with
  | start => exact hstart
  | call hrun command hok ih =>
    rw [List.foldl_concat]
    exact ih.call hok
  | elsewhere hrun hsame ih =>
    refine ⟨ih.path_eq, ih.sorted, ih.get?_eq, ?_⟩
    rw [load_eq, ← ih.path_eq, hsame, ih.path_eq, ← load_eq]
    exact ih.loaded

/-- **The variables survive a reload.** They are loaded from a file without faults, or from none.
After any calls whose writes succeed, with nobody else writing the file, they are loaded again as
they are: in the order of their names, each name once, with the values that the calls make of those
that the file held first. -/
theorem load_of_run (hholds : Holds files path values) :
    ∃ start, load files path = .ok start ∧
      ∀ calls v files', Run start files calls v files' →
        load files' path = .ok v ∧ Sorted v.bindings ∧
          ∀ name value, (name, value) ∈ v.bindings ↔
            calls.foldl denote values name = some value := by
  obtain ⟨start, hstart⟩ := exists_kept_of_holds hholds
  refine ⟨start, hstart.loaded, fun calls v files' hrun => ?_⟩
  have hkept : Kept path (calls.foldl denote values) v files' := hstart.of_run hrun
  refine ⟨hkept.loaded, hkept.sorted, fun name value => ?_⟩
  rw [hkept.sorted.mem_iff, ← hkept.get?_eq, get?]

def colorFiles : Files :=
  (Files.ofDirectory ["data"]).put ["data", "variables.json"]
    (.file "\x7b\"b\": \"red\", \"a\": \"\", \"b\": \"blue\"\x7d".toUTF8)

def colorCalls : List VariableCommand :=
  [.unset "c", .set "say \"\\\"" "é\n\x01", .get "a", .unset "b", .list]

def colors : Variables := ⟨"variables.json", [("a", ""), ("say \"\\\"", "é\n\x01")]⟩

theorem load_of_run_colors :
    Holds colorFiles "variables.json"
      (fun name => [("b", "red"), ("a", ""), ("b", "blue")].reverse.lookup name) ∧
    ∃ start files', load colorFiles "variables.json" = .ok start ∧
      Run start colorFiles colorCalls colors files' ∧
      load files' "variables.json" = .ok colors ∧ Sorted colors.bindings ∧
      ∀ name value, (name, value) ∈ colors.bindings ↔
        colorCalls.foldl denote
          (fun name => [("b", "red"), ("a", ""), ("b", "blue")].reverse.lookup name) name =
          some value := by
  have hlook : colorFiles.look "variables.json" =
      .ok (.file "\x7b\"b\": \"red\", \"a\": \"\", \"b\": \"blue\"\x7d".toUTF8) := rfl
  have htexts : (Json.read? "\x7b\"b\": \"red\", \"a\": \"\", \"b\": \"blue\"\x7d".toUTF8).bind
      (·.texts?) = some [("b", "red"), ("a", ""), ("b", "blue")] := by
    decide +kernel
  obtain ⟨start, hload, hafter⟩ := load_of_run (.texts hlook htexts)
  have hstart : start = ⟨"variables.json", [("a", ""), ("b", "blue")]⟩ := by
    rw [load_eq, hlook] at hload
    simp only [Except.toOption, htexts] at hload
    cases hload
    rfl
  subst hstart
  have hrun : Run ⟨"variables.json", [("a", ""), ("b", "blue")]⟩ colorFiles colorCalls _ _ :=
    ((((Run.start.call (.unset "c") rfl).call (.set "say \"\\\"" "é\n\x01") rfl).call
      (.get "a") rfl).call (.unset "b") rfl).call .list rfl
  exact ⟨.texts hlook htexts, _, _, hload, hrun, hafter _ _ _ hrun⟩

end CsvQuery.Variables
