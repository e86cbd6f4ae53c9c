import CsvQuery.Proofs.Files.Listing
import CsvQuery.Table
import Mathlib.Data.String.Basic

/-!
Names of tables. The tables that are listed for a directory are exactly those whose files are found
there: the name of a file and the path of a table turn into each other.
-/

namespace CsvQuery.Table

variable {files : Files} {base name fileName : String}

/-! ### File names -/

lemma fileOf_ne_dots (name : String) :
    fileOf name ≠ "" ∧ fileOf name ≠ "." ∧ fileOf name ≠ ".." := by
  have hlength : 4 ≤ (fileOf name).length := by
    rw [fileOf, String.length_append]
    exact Nat.le_add_left 4 _
  refine ⟨?_, ?_, ?_⟩
  all_goals
    intro h
    rw [h] at hlength
    revert hlength
    decide

/-- **A file name is for the table that it is the file name of**, if that has a name. -/
lemma ofFileName?_eq_some_iff :
    ofFileName? fileName = some name ↔ name ≠ "" ∧ fileName = fileOf name := by
  have hcut : ofFileName? fileName = some name ↔
      Files.stemAndExtension fileName = (name, some "csv") := by
    rw [ofFileName?, Files.extension?, Files.stem, Prod.ext_iff]
    simp [and_comm]
  rw [hcut, Files.stemAndExtension_eq_iff]
  constructor
  · rintro ⟨hname, -, hfile, -⟩
    exact ⟨hname, by rw [hfile, String.append_assoc]; rfl⟩
  · rintro ⟨hname, rfl⟩
    exact ⟨hname, (fileOf_ne_dots name).2.2, by rw [String.append_assoc]; rfl, by decide⟩

lemma not_mem_fileOf : '/' ∉ (fileOf name).toList ↔ '/' ∉ name.toList := by
  simp [fileOf]

/-! ### Tables that are found -/

lemma ofContent_ne_tableNotFound (content : ByteArray) (missing path : String) :
    ofContent name content ≠ .error (.tableNotFound missing path) := by
  intro h
  unfold ofContent at h
  split at h
  · cases h
  · cases h
  · cases h

lemma read_ne_tableNotFound_iff :
    (∀ missing path, read files base name ≠ .error (.tableNotFound missing path)) ↔
      files.isFile (path base name) = true := by
  rw [Files.isFile_iff]
  unfold read
  constructor
  · intro h
    split at h
    · rename_i content hlook
      exact ⟨content, hlook⟩
    · exact absurd rfl (h _ _)
  · rintro ⟨content, hlook⟩ missing path
    rw [hlook]
    exact ofContent_ne_tableNotFound content missing path

/-! ### Tables that are listed -/

/-- The tables that names of a directory are for, if they are names of files. -/
def tablesOf (files : Files) (base : String) (found : List String) : List String :=
  (found.filter fun fileName => files.isFile (Files.join base fileName)).filterMap ofFileName?

lemma names_of_list {found : List String} (h : files.list base = .ok found) :
    names files base = .ok ((tablesOf files base found).mergeSort (· ≤ ·)) := by
  rw [names, h]
  rfl

lemma nodup_tablesOf {found : List String} (h : found.Nodup) : (tablesOf files base found).Nodup :=
  (h.filter _).filterMap fun fileName fileName' name hname hname' => by
    rw [(ofFileName?_eq_some_iff.mp hname).2, (ofFileName?_eq_some_iff.mp hname').2]

lemma mem_tablesOf {place : Location} (hfiles : files.Sound)
    (hplace : files.locate base = .ok place) (hdirectory : files.node? place = some .directory) :
    name ∈ tablesOf files base (files.namesBelow place) ↔
      name ≠ "" ∧ '/' ∉ name.toList ∧ files.isFile (path base name) = true := by
  rw [tablesOf, List.mem_filterMap]
  constructor
  · rintro ⟨fileName, hfound, hname⟩
    obtain ⟨hlisted, hfile⟩ := List.mem_filter.mp hfound
    obtain ⟨hne, rfl⟩ := ofFileName?_eq_some_iff.mp hname
    obtain ⟨node, hentry⟩ := Files.mem_namesBelow.mp hlisted
    exact ⟨hne, not_mem_fileOf.mp (hfiles.plain _ hentry _ (by simp)), hfile⟩
  · rintro ⟨hne, hslash, hfile⟩
    have hlisted := Files.mem_namesBelow_of_isFile hplace hdirectory (not_mem_fileOf.mpr hslash)
      (fileOf_ne_dots name) hfile
    exact ⟨fileOf name, List.mem_filter.mpr ⟨hlisted, hfile⟩,
      ofFileName?_eq_some_iff.mpr ⟨hne, rfl⟩⟩

lemma pairwise_lt_mergeSort {texts : List String} (h : texts.Nodup) :
    (texts.mergeSort (· ≤ ·)).Pairwise (· < ·) := by
  have hsorted : (texts.mergeSort (· ≤ ·)).Pairwise fun a b => decide (a ≤ b) = true := by
    refine List.pairwise_mergeSort (fun a b c hab hbc => ?_) (fun a b => ?_) texts
    · exact decide_eq_true (String.le_trans (of_decide_eq_true hab) (of_decide_eq_true hbc))
    · simpa using String.le_total a b
  have hnodup : (texts.mergeSort (· ≤ ·)).Nodup := (List.mergeSort_perm texts _).nodup_iff.mpr h
  exact (hsorted.and hnodup).imp fun ⟨hle, hne⟩ => lt_of_le_of_ne (of_decide_eq_true hle) hne

/-- **Listed tables are the ones that can be opened.** For a directory of a tree of files, the
tables that are listed are in ascending order and so each there once, and they are exactly the texts
that are not empty, have no slash, and are names of tables that are found when they are read, which
are those whose files are there. -/
theorem names_openable (hfiles : files.Sound) (hbase : files.isDirectory base = true) :
    ∃ tables, names files base = .ok tables ∧ tables.Pairwise (· < ·) ∧
      ∀ name,
        (name ∈ tables ↔ name ≠ "" ∧ '/' ∉ name.toList ∧
          ∀ missing path, read files base name ≠ .error (.tableNotFound missing path)) ∧
        (name ∈ tables ↔ name ≠ "" ∧ '/' ∉ name.toList ∧
          files.isFile (path base name) = true) := by
  obtain ⟨place, hplace, hdirectory⟩ := Files.look_eq_ok.mp (Files.isDirectory_iff.mp hbase)
  have hnames := names_of_list (Files.list_of_locate hplace hdirectory)
  have hnodup : (tablesOf files base (files.namesBelow place)).Nodup :=
    nodup_tablesOf (hfiles.nodup_namesBelow place)
  refine ⟨_, hnames, pairwise_lt_mergeSort hnodup, fun name => ?_⟩
  rw [List.mem_mergeSort, mem_tablesOf hfiles hplace hdirectory, read_ne_tableNotFound_iff]
  exact ⟨Iff.rfl, Iff.rfl⟩

/-- A directory with a file that is only the ending, a directory with the ending, and names with
several dots. -/
def cluttered : Files :=
  ⟨["data"], [(["data"], .directory), (["data", ".csv"], .file ⟨#[]⟩),
    (["data", "x.csv"], .directory), (["data", "b.a.csv"], .file ⟨#[]⟩),
    (["data", "..csv"], .file ⟨#[]⟩), (["data", "notes.txt"], .file ⟨#[]⟩)]⟩

theorem names_openable_cluttered :
    cluttered.Sound ∧ cluttered.isDirectory "/data/" = true ∧
    ∃ tables, names cluttered "/data/" = .ok tables ∧ tables.Pairwise (· < ·) ∧
      "b.a" ∈ tables ∧ "." ∈ tables ∧ "" ∉ tables ∧ "x" ∉ tables ∧ "notes" ∉ tables := by
  have hfiles : cluttered.Sound := by
    refine ⟨?_, by decide +kernel, ?_⟩
    · simp [Files.Plain, cluttered]
    · simp [Files.Plain, cluttered]
  have hbase : cluttered.isDirectory "/data/" = true := by decide +kernel
  obtain ⟨tables, hnames, hsorted, hmem⟩ := names_openable hfiles hbase
  refine ⟨hfiles, hbase, tables, hnames, hsorted, (hmem _).2.mpr ?_, (hmem _).2.mpr ?_,
    fun h => ((hmem _).2.mp h).1 rfl, fun h => ?_, fun h => ?_⟩
  · decide +kernel
  · decide +kernel
  · have hfile := ((hmem _).2.mp h).2.2
    revert hfile
    decide +kernel
  · have hfile := ((hmem _).2.mp h).2.2
    revert hfile
    decide +kernel

end CsvQuery.Table
