import CsvQuery.Files
import CsvQuery.Proofs.Outcome

/-!
Paths that stay below a directory. A path that does not start at the root and has no name that goes
up leads, seen from a directory, to the directory or to a place below it.
-/

namespace CsvQuery.Files

/-! ### Names of a path -/

lemma exists_splitSlashes (cs : List Char) :
    ∃ part parts, splitSlashes cs = part :: parts ∧ part <+: cs ∧
      ∀ later ∈ parts, ∃ front behind, cs = front ++ '/' :: later ++ behind := by
  induction cs with
  | nil => exact ⟨[], [], rfl, List.nil_prefix, by simp⟩
  | cons c rest ih =>
    obtain ⟨part, parts, hrest, ⟨behind, hpart⟩, hparts⟩ := ih
    by_cases hc : c = '/'
    · subst hc
      refine ⟨[], part :: parts, by simp [splitSlashes, hrest], List.nil_prefix, ?_⟩
      refine List.forall_mem_cons.mpr ⟨⟨[], behind, by simp [hpart]⟩, fun later hlater => ?_⟩
      obtain ⟨front, behind, rfl⟩ := hparts later hlater
      exact ⟨'/' :: front, behind, rfl⟩
    · refine ⟨c :: part, parts, by simp [splitSlashes, hc, hrest], ?_, fun later hlater => ?_⟩
      · exact ⟨behind, by simp [hpart]⟩
      · obtain ⟨front, behind, rfl⟩ := hparts later hlater
        exact ⟨c :: front, behind, rfl⟩

lemma splitSlashes_ne_nil (cs : List Char) : splitSlashes cs ≠ [] := by
  obtain ⟨part, parts, h, -⟩ := exists_splitSlashes cs
  simp [h]

lemma splitSlashes_append_slash (front behind : List Char) :
    splitSlashes (front ++ '/' :: behind) = splitSlashes front ++ splitSlashes behind := by
  induction front with
  | nil => simp [splitSlashes]
  | cons c front ih =>
    by_cases hc : c = '/'
    · simp [splitSlashes, hc, ih]
    · obtain ⟨part, parts, hfront⟩ := List.exists_cons_of_ne_nil (splitSlashes_ne_nil front)
      simp [splitSlashes, hc, ih, hfront]

lemma splitSlashes_eq_singleton {cs : List Char} (h : '/' ∉ cs) : splitSlashes cs = [cs] := by
  induction cs with
  | nil => rfl
  | cons c cs ih =>
    have hc : c ≠ '/' := fun hc => h (by simp [hc])
    have hrest := ih fun hmem => h (List.mem_cons_of_mem _ hmem)
    simp [splitSlashes, hc, hrest]

lemma splitSlashes_append {suffix : List Char} (h : '/' ∉ suffix) (cs : List Char) :
    ∃ init last, splitSlashes cs = init ++ [last] ∧
      splitSlashes (cs ++ suffix) = init ++ [last ++ suffix] := by
  induction cs with
  | nil => exact ⟨[], [], rfl, splitSlashes_eq_singleton h⟩
  | cons c cs ih =>
    obtain ⟨init, last, hcs, hsuffix⟩ := ih
    by_cases hc : c = '/'
    · exact ⟨[] :: init, last, by simp [splitSlashes, hc, hcs],
        by simp [splitSlashes, hc, hsuffix]⟩
    · cases init with
      | nil =>
        exact ⟨[], c :: last, by simp [splitSlashes, hc, hcs],
          by simp [splitSlashes, hc, hsuffix]⟩
      | cons part init =>
        exact ⟨(c :: part) :: init, last, by simp [splitSlashes, hc, hcs],
          by simp [splitSlashes, hc, hsuffix]⟩

/-- The path does not start at the root and has no name that goes up. -/
def Descends (relative : String) : Prop :=
  isAbsolute relative = false ∧ ".." ∉ components relative

/-! ### Walking down -/

variable {files : Files} {start place found directory : Location}

lemma walk_append (names more : List String) :
    files.walk start (names ++ more) = files.walk start names >>= (files.walk · more) := by
  induction names generalizing start with
  | nil => rfl
  | cons name names ih =>
    rw [List.cons_append, walk, walk]
    cases files.node? start with
    | none => rfl
    | some node =>
      cases node with
      | file content => rfl
      | directory =>
        dsimp only
        split_ifs
        · exact ih
        · exact ih
        · rfl
        · exact ih

lemma prefix_of_walk {names : List String} (hnames : ".." ∉ names)
    (h : files.walk start names = .ok found) : start <+: found := by
  induction names generalizing start with
  | nil =>
    cases h
    exact List.prefix_rfl
  | cons name names ih =>
    obtain ⟨hname, hrest⟩ := not_or.mp (mt List.mem_cons.mpr hnames)
    have hup : (name == "..") = false := by simpa using Ne.symm hname
    rw [walk] at h
    cases hnode : files.node? start with
    | none => simp [hnode] at h
    | some node =>
      cases node with
      | file content => simp [hnode] at h
      | directory =>
        simp only [hnode, hup, Bool.false_eq_true, if_false] at h
        split_ifs at h
        · exact ih hrest h
        · exact (List.prefix_append start [name]).trans (ih hrest h)

lemma startOf_eq_ok {path : String} (h : files.startOf path = .ok start) :
    path ≠ "" ∧ start = if isAbsolute path then [] else files.current := by
  unfold startOf at h
  split at h
  · cases h
  split at h
  · cases h
  rename_i hempty
  split at h
  · cases h
  · refine ⟨fun hnil => hempty ?_, (Except.ok.inj h).symm⟩
    simp [hnil]

lemma components_append_slash (front behind : String) :
    components (front ++ "/" ++ behind) = components front ++ components behind := by
  have hlist : (front ++ "/" ++ behind).toList = front.toList ++ '/' :: behind.toList := by simp
  rw [components, hlist, splitSlashes_append_slash, List.map_append]
  rfl

lemma isAbsolute_append {front : String} (h : front ≠ "") (behind : String) :
    isAbsolute (front ++ behind) = isAbsolute front := by
  have hne : front.toList ≠ [] := by simpa using h
  obtain ⟨c, cs, hfront⟩ := List.exists_cons_of_ne_nil hne
  simp [isAbsolute, hfront]

lemma components_slash (path : String) : components (path ++ "/") = components path ++ [""] := by
  have h := components_append_slash path ""
  rwa [String.append_empty] at h

lemma components_join {base relative : String} (hrelative : isAbsolute relative = false)
    (hbase : base ≠ "") :
    isAbsolute (join base relative) = isAbsolute base ∧
      ∃ names, components (join base relative) = names ++ components relative ∧
        (components base = names ∨ components base = names ++ [""]) := by
  have hempty : base.isEmpty = false := by simpa using hbase
  unfold join
  simp only [hrelative, hempty, Bool.or_false, Bool.false_eq_true, if_false]
  split
  · rename_i hslash
    obtain ⟨init, hinit⟩ := List.getLast?_eq_some_iff.mp (beq_iff_eq.mp hslash)
    obtain rfl : base = String.ofList init ++ "/" := by
      rw [← String.toList_inj, hinit, String.toList_append, String.toList_ofList]
      rfl
    exact ⟨isAbsolute_append hbase _, _, components_append_slash _ _, .inr (components_slash _)⟩
  · refine ⟨?_, _, components_append_slash _ _, .inl rfl⟩
    rw [String.append_assoc, isAbsolute_append hbase]

lemma walk_empty (h : files.walk start [""] = .ok found) : start = found := by
  rw [walk] at h
  split at h
  · cases h
  · cases h
  · exact Except.ok.inj h

lemma walk_of_locate_join {base relative : String} (hrelative : isAbsolute relative = false)
    (hbase : files.locate base = .ok directory)
    (hfound : files.locate (join base relative) = .ok found) :
    files.walk directory (components relative) = .ok found := by
  obtain ⟨start, hstart, hwalk⟩ := Except.bind_eq_ok.mp hbase
  obtain ⟨hne, hstart⟩ := startOf_eq_ok hstart
  obtain ⟨start', hstart', hwalk'⟩ := Except.bind_eq_ok.mp hfound
  obtain ⟨-, hstart'⟩ := startOf_eq_ok hstart'
  obtain ⟨hjoin, names, hjoined, hcomponents⟩ := components_join hrelative hne
  rw [hjoin, ← hstart] at hstart'
  subst hstart'
  rw [hjoined, walk_append] at hwalk'
  obtain ⟨place, hplace, hwalk'⟩ := Except.bind_eq_ok.mp hwalk'
  have hdirectory : place = directory := by
    rcases hcomponents with hcomponents | hcomponents
    · rw [hcomponents] at hwalk
      exact Except.ok.inj (hplace.symm.trans hwalk)
    · rw [hcomponents, walk_append] at hwalk
      obtain ⟨place', hplace', hwalk⟩ := Except.bind_eq_ok.mp hwalk
      obtain rfl : place = place' := Except.ok.inj (hplace.symm.trans hplace')
      exact walk_empty hwalk
  exact hdirectory ▸ hwalk'

/-- **A path that descends stays below its directory.** -/
theorem prefix_of_locate_join {base relative : String} (hrelative : Descends relative)
    (hbase : files.locate base = .ok directory)
    (hfound : files.locate (join base relative) = .ok found) : directory <+: found :=
  prefix_of_walk hrelative.2 (walk_of_locate_join hrelative.1 hbase hfound)

end CsvQuery.Files
