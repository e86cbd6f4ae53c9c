import CsvQuery.Proofs.Files.Paths
import CsvQuery.Proofs.Files.Writing
import Mathlib.Data.List.Nodup
import Mathlib.Data.List.TakeWhile

/-!
Listed directories. In a tree where every place is there once and no name has a slash, the names of
a directory are listed once each, and a file that a name leads to from the directory is listed.
-/

namespace CsvQuery.Files

/-! ### Sound trees -/

/-- No name on the way to the place has a slash. -/
def Plain (place : Location) : Prop :=
  ∀ name ∈ place, '/' ∉ name.toList

/-- Every place is there once, and its names can be names of a path. -/
structure Sound (files : Files) : Prop where
  current : Plain files.current
  once : (files.entries.map (·.1)).Nodup
  plain : ∀ entry ∈ files.entries, Plain entry.1

variable {files files' : Files} {place found : Location} {path : String}

/-! ### Extensions -/

lemma splitLastDot?_eq_some_iff {cs before behind : List Char} :
    splitLastDot? cs = some (before, behind) ↔ cs = before ++ '.' :: behind ∧ '.' ∉ behind := by
  unfold splitLastDot?
  constructor
  · intro h
    split at h
    · cases h
    · rename_i dot before' hdrop
      cases h
      have hdot : dot = '.' := by
        have hhead := List.head?_dropWhile_not (· != '.') cs.reverse
        simpa [hdrop] using hhead
      have hcs := List.takeWhile_append_dropWhile (p := (· != '.')) (l := cs.reverse)
      rw [hdrop, hdot] at hcs
      refine ⟨?_, fun hmem => ?_⟩
      · simpa using (congrArg List.reverse hcs).symm
      · simpa using List.mem_takeWhile_imp (List.mem_reverse.mp hmem)
  · rintro ⟨rfl, hdot⟩
    have hbehind : ∀ c ∈ behind.reverse, (c != '.') = true := by
      intro c hc
      rw [bne_iff_ne]
      rintro rfl
      exact hdot (List.mem_reverse.mp hc)
    simp only [List.reverse_append, List.reverse_cons, List.append_assoc, List.singleton_append]
    rw [List.dropWhile_append_of_pos hbehind, List.takeWhile_append_of_pos hbehind]
    simp

lemma stemAndExtension_eq_iff {fileName stem extension : String} :
    stemAndExtension fileName = (stem, some extension) ↔
      stem ≠ "" ∧ fileName ≠ ".." ∧ fileName = stem ++ "." ++ extension ∧
        '.' ∉ extension.toList := by
  have hcut : fileName = stem ++ "." ++ extension ∧ '.' ∉ extension.toList ↔
      splitLastDot? fileName.toList = some (stem.toList, extension.toList) := by
    rw [splitLastDot?_eq_some_iff, ← String.toList_inj]
    simp
  rw [hcut, stemAndExtension]
  by_cases hdots : fileName = ".."
  · simp [hdots]
  · simp only [beq_iff_eq, hdots, if_false, ne_eq, not_false_eq_true, true_and]
    split
    · rename_i hnone
      simp [hnone]
    · rename_i behind hstart
      constructor
      · intro h
        cases h
      · rintro ⟨hne, hsome⟩
        obtain ⟨hnil, -⟩ := Prod.mk.inj (Option.some.inj (hstart.symm.trans hsome))
        exact absurd (String.toList_eq_nil_iff.mp hnil.symm) hne
    · rename_i before behind hbefore hsome
      have hne : before ≠ [] := fun h => hbefore (h ▸ rfl)
      simp only [Prod.mk.injEq, Option.some.injEq, hsome, ← String.toList_inj,
        String.toList_ofList]
      constructor
      · rintro ⟨rfl, rfl⟩
        exact ⟨hne, rfl, rfl⟩
      · exact fun ⟨_, hstem⟩ => hstem

/-! ### What is at a path -/

lemma look_eq_ok {node : Node} : files.look path = .ok node ↔
    ∃ place, files.locate path = .ok place ∧ files.node? place = some node := by
  rw [look, Except.bind_eq_ok]
  refine exists_congr fun place => and_congr_right fun _ => ?_
  cases files.node? place with
  | none => exact iff_of_false (fun h => by cases h) (by simp)
  | some found => exact ⟨fun h => congrArg some (Except.ok.inj h), fun h => by cases h; rfl⟩

lemma isFile_iff : files.isFile path = true ↔ ∃ content, files.look path = .ok (.file content) := by
  rw [isFile]
  constructor
  · intro h
    split at h
    · rename_i content hlook
      exact ⟨content, hlook⟩
    · cases h
  · rintro ⟨content, hlook⟩
    rw [hlook]

lemma isDirectory_iff : files.isDirectory path = true ↔ files.look path = .ok .directory := by
  rw [isDirectory]
  constructor
  · intro h
    split at h
    · assumption
    · cases h
  · intro hlook
    rw [hlook]

/-! ### Names in a directory -/

lemma list_of_locate (hplace : files.locate path = .ok place)
    (hnode : files.node? place = some .directory) :
    files.list path = .ok (files.namesBelow place) := by
  rw [list, hplace, Except.bind_eq_ok]
  exact ⟨place, rfl, by rw [hnode]; rfl⟩

lemma mem_namesBelow {name : String} :
    name ∈ files.namesBelow place ↔ ∃ node, (place ++ [name], node) ∈ files.entries := by
  rw [namesBelow, List.mem_filterMap]
  constructor
  · rintro ⟨⟨entry, node⟩, hentry, hname⟩
    dsimp only at hname
    split at hname
    · rename_i hplace
      obtain rfl := beq_iff_eq.mp hplace
      obtain ⟨init, rfl⟩ := List.getLast?_eq_some_iff.mp hname
      exact ⟨node, by simpa using hentry⟩
    · cases hname
  · rintro ⟨node, hentry⟩
    exact ⟨_, hentry, by simp⟩

lemma Sound.nodup_namesBelow (h : files.Sound) (place : Location) :
    (files.namesBelow place).Nodup := by
  have hplaces : files.namesBelow place = (files.entries.map (·.1)).filterMap fun found =>
      if found.dropLast == place then found.getLast? else none := by
    rw [List.filterMap_map]
    rfl
  rw [hplaces]
  refine h.once.filterMap fun found found' name hname hname' => ?_
  -- A place is known by the directory and the name in it.
  have hfound : ∀ found : Location,
      name ∈ (if found.dropLast == place then found.getLast? else none) →
      found = place ++ [name] := by
    intro found hname
    split at hname
    · rename_i hplace
      obtain ⟨init, rfl⟩ := List.getLast?_eq_some_iff.mp hname
      simpa using hplace
    · cases hname
  rw [hfound found hname, hfound found' hname']

lemma isAbsolute_of_not_mem {name : String} (h : '/' ∉ name.toList) : isAbsolute name = false := by
  rw [isAbsolute, beq_eq_false_iff_ne]
  exact fun hhead => h (List.mem_of_mem_head? hhead)

lemma components_of_not_mem {name : String} (h : '/' ∉ name.toList) : components name = [name] := by
  rw [components, splitSlashes_eq_singleton h]
  simp

lemma walk_name {name : String} (hname : name ≠ "" ∧ name ≠ "." ∧ name ≠ "..")
    (hdirectory : files.node? place = some .directory) (h : files.walk place [name] = .ok found) :
    found = place ++ [name] := by
  have hstay : (name.isEmpty || name == ".") = false := by simp [hname]
  have hup : (name == "..") = false := by simp [hname]
  simp only [walk, hdirectory, hstay, hup, Bool.false_eq_true, if_false] at h
  split at h
  · cases h
  · exact (Except.ok.inj h).symm

lemma mem_namesBelow_of_isFile {base name : String} (hbase : files.locate base = .ok place)
    (hdirectory : files.node? place = some .directory) (hslash : '/' ∉ name.toList)
    (hname : name ≠ "" ∧ name ≠ "." ∧ name ≠ "..") (h : files.isFile (join base name) = true) :
    name ∈ files.namesBelow place := by
  obtain ⟨content, hlook⟩ := isFile_iff.mp h
  obtain ⟨found, hfound, hnode⟩ := look_eq_ok.mp hlook
  have hwalk := walk_of_locate_join (isAbsolute_of_not_mem hslash) hbase hfound
  rw [components_of_not_mem hslash] at hwalk
  obtain rfl := walk_name hname hdirectory hwalk
  have hlookup : files.entries.lookup (place ++ [name]) = some (.file content) := by
    simpa [node?] using hnode
  obtain ⟨before, behind, hentries, -⟩ := List.lookup_eq_some_iff.mp hlookup
  exact mem_namesBelow.mpr ⟨.file content, by rw [hentries]; simp⟩

end CsvQuery.Files
