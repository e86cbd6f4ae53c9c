import CsvQuery.Proofs.Variables
import Mathlib.Data.List.Sort

/-!
Changes that cannot be written. The store takes a change before it writes its file, and does not
take it back where the file cannot be written: the values are then those that the change means,
while the files are as they were. So nothing is seen of such a change only if it changes no value.
-/

namespace CsvQuery.Variables

variable {v : Variables} {files : Files} {command : VariableCommand} {e : Error}
  {bindings bindings' : List (String × String)} {name value : String}

/-! ### States -/

/-- States of the store: it is loaded from a file, and then called in any way, whatever the files
are each time and whether or not they can be written. -/
inductive Reached : Variables → Prop
  | load {files : Files} {path : String} {v : Variables} (h : load files path = .ok v) : Reached v
  | call {v : Variables} (h : Reached v) (files : Files) (command : VariableCommand) :
      Reached (v.call files command).store

lemma sorted_of_load {path : String} (h : load files path = .ok v) : Sorted v.bindings := by
  rw [load_eq] at h
  split at h
  · cases h
    exact List.Pairwise.nil
  · cases h
  · split at h
    · cases h
    · cases h
      exact sorted_ofSettings _

lemma Reached.sorted (h : Reached v) : Sorted v.bindings := by
  induction h with
  | load h => exact sorted_of_load h
  | @call v h files command ih =>
    obtain ⟨hcall, -⟩ | ⟨bindings, hcall, hsorted, -⟩ := v.call_cases files command
    · rw [hcall]
      exact ih
    · rw [hcall, save_store]
      exact hsorted ih

lemma Sorted.ext (h : Sorted bindings) (h' : Sorted bindings')
    (hlookup : ∀ name, bindings.lookup name = bindings'.lookup name) : bindings = bindings' := by
  have : Std.Irrefl fun b b' : String × String => b.1 < b'.1 := ⟨fun b => String.lt_irrefl b.1⟩
  refine List.Pairwise.eq_of_mem_iff h h' fun b => ?_
  rw [h.mem_iff, h'.mem_iff, hlookup]

/-! ### Failed writes -/

lemma save_cases (v : Variables) (files : Files) :
    (v.save files).outcome = .ok () ∨
      ∃ fault, files.write v.path v.fileText.toUTF8 = .error fault ∧
        v.save files = ⟨v, files, .error (.unwritableVariables v.path fault)⟩ := by
  unfold save
  cases files.write v.path v.fileText.toUTF8 with
  | ok files' => exact .inl rfl
  | error fault => exact .inr ⟨fault, rfl, rfl⟩

lemma change_of_error (h : (v.call files command).outcome = .error e) :
    (∃ name value, command = .set name value) ∨
      ∃ name, command = .unset name ∧ (v.get? name).isSome := by
  cases command with
  | set name value => exact .inl ⟨name, value, rfl⟩
  | get name => cases h
  | list => cases h
  | unset name =>
    refine .inr ⟨name, rfl, ?_⟩
    by_contra hbound
    rw [call, unset, if_neg hbound] at h
    cases h

lemma denote_eq_iff (h : (v.call files command).outcome = .error e) :
    denote v.get? command = v.get? ↔
      ∃ name value, command = .set name value ∧ v.get? name = some value := by
  obtain ⟨name, value, rfl⟩ | ⟨name, rfl, hbound⟩ := change_of_error h
  · rw [denote, Function.update_eq_self_iff]
    constructor
    · intro hsame
      exact ⟨name, value, rfl, hsame.symm⟩
    · rintro ⟨name', value', hcommand, hvalue⟩
      cases hcommand
      exact hvalue.symm
  · rw [denote, Function.update_eq_self_iff]
    refine iff_of_false (fun hnone => ?_) ?_
    · rw [← hnone] at hbound
      cases hbound
    · rintro ⟨name', value', hcommand, -⟩
      cases hcommand

/-- **A change that cannot be written is made all the same.** The error tells why the file with the
changed bindings cannot be written, and the files are as they were; but every name has the value
that the change gives it. The names and their values are as before if and only if the change sets a
name to the value that it has. -/
theorem unwritten_change (hv : Reached v) (h : (v.call files command).outcome = .error e) :
    (∃ fault, e = .unwritableVariables v.path fault ∧
      files.write v.path (v.call files command).store.fileText.toUTF8 = .error fault) ∧
    (v.call files command).files = files ∧
    (v.call files command).store.get? = denote v.get? command ∧
    ((v.call files command).store.get? = v.get? ∧
        (v.call files command).store.bindings = v.bindings ↔
      ∃ name value, command = .set name value ∧ v.get? name = some value) := by
  obtain ⟨hcall, -⟩ | ⟨bindings, hcall, hsorted, hlookup⟩ := v.call_cases files command
  · rw [hcall] at h
    cases h
  · rw [← denote_eq_iff h]
    rw [hcall] at h ⊢
    obtain hok | ⟨fault, hwrite, hsave⟩ := save_cases { v with bindings } files
    · cases h.symm.trans hok
    · rw [hsave] at h ⊢
      cases h
      have hget : get? { v with bindings } = denote v.get? command := funext hlookup
      refine ⟨⟨fault, rfl, hwrite⟩, rfl, hget, ?_⟩
      rw [hget]
      refine ⟨And.left, fun hsame => ⟨hsame, ?_⟩⟩
      exact (hsorted hv.sorted).ext hv.sorted fun name => (hlookup name).trans (congrFun hsame name)

def withoutDirectory : Files := Files.ofDirectory ["data"]

def nothingSet : Variables := ⟨"no/variables.json", []⟩

def oneSet : Variables := ⟨"no/variables.json", [("a", "1")]⟩

lemma reached_nothingSet : Reached nothingSet :=
  @Reached.load withoutDirectory "no/variables.json" nothingSet rfl

theorem unwritten_change_oneSet :
    Reached oneSet ∧
    (oneSet.call withoutDirectory (.unset "a")).outcome =
      .error (.unwritableVariables "no/variables.json" .missing) ∧
    (oneSet.call withoutDirectory (.unset "a")).store.get? = denote oneSet.get? (.unset "a") ∧
    (oneSet.call withoutDirectory (.set "a" "1")).store.bindings = oneSet.bindings := by
  have hreached : Reached oneSet := reached_nothingSet.call withoutDirectory (.set "a" "1")
  have hunset : (oneSet.call withoutDirectory (.unset "a")).outcome =
      .error (.unwritableVariables "no/variables.json" .missing) := rfl
  have hset : (oneSet.call withoutDirectory (.set "a" "1")).outcome =
      .error (.unwritableVariables "no/variables.json" .missing) := rfl
  obtain ⟨-, -, hvalues, -⟩ := unwritten_change hreached hunset
  obtain ⟨-, -, -, hsame⟩ := unwritten_change hreached hset
  exact ⟨hreached, hunset, hvalues, (hsame.mpr ⟨"a", "1", rfl, rfl⟩).2⟩

/-- What cannot be written is seen afterwards: setting a name gives it a value that it had not, and
removing it takes the value away. -/
theorem unwritten_changes_seen :
    Reached nothingSet ∧
    (nothingSet.set withoutDirectory "a" "1").outcome =
      .error (.unwritableVariables "no/variables.json" .missing) ∧
    nothingSet.get? "a" = none ∧
    (nothingSet.set withoutDirectory "a" "1").store.get? "a" = some "1" ∧
    (nothingSet.set withoutDirectory "a" "1").store.bindings ≠ nothingSet.bindings ∧
    Reached oneSet ∧
    (oneSet.unset withoutDirectory "a").outcome =
      .error (.unwritableVariables "no/variables.json" .missing) ∧
    oneSet.get? "a" = some "1" ∧
    (oneSet.unset withoutDirectory "a").store.get? "a" = none ∧
    (oneSet.unset withoutDirectory "a").store.bindings ≠ oneSet.bindings := by
  have hreached : Reached oneSet := reached_nothingSet.call withoutDirectory (.set "a" "1")
  exact ⟨reached_nothingSet, rfl, rfl, rfl, by decide, hreached, rfl, rfl, rfl, by decide⟩

end CsvQuery.Variables
