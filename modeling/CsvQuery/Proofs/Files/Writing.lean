import CsvQuery.Files
import CsvQuery.Proofs.Outcome

/-!
Writing a file and looking it up. A written file changes what is at its own place only, and that
place is no directory on the way to it, so the path leads there as before.
-/

namespace CsvQuery.Files

lemma lookup_cons_ite {α β : Type} [BEq α] [LawfulBEq α] [DecidableEq α] (entry : α × β)
    (entries : List (α × β)) (key : α) :
    (entry :: entries).lookup key =
      if key = entry.1 then some entry.2 else entries.lookup key := by
  rw [List.lookup_cons]
  by_cases h : key = entry.1
  · simp [h]
  · have hbeq : (key == entry.1) = false := by simpa using h
    rw [hbeq, if_neg h]

lemma lookup_filter_ne {α β : Type} [BEq α] [LawfulBEq α] [DecidableEq α] (entries : List (α × β))
    {key other : α} (h : key ≠ other) :
    (entries.filter (·.1 != other)).lookup key = entries.lookup key := by
  induction entries with
  | nil => rfl
  | cons entry entries ih =>
    rw [lookup_cons_ite, ← ih]
    by_cases hother : entry.1 = other
    · simp [hother, h]
    · have hkept : (entry.1 != other) = true := by simpa using hother
      rw [List.filter_cons, if_pos hkept, lookup_cons_ite]

variable {files : Files} {place other : Location} {node : Node}

lemma node?_put_self (h : place ≠ []) (node : Node) :
    (files.put place node).node? place = some node := by
  have hempty : place.isEmpty = false := by simpa using h
  simp [node?, put, hempty]

lemma node?_put_ne (h : other ≠ place) (node : Node) :
    (files.put place node).node? other = files.node? other := by
  unfold node? put
  by_cases hempty : other.isEmpty
  · simp [hempty]
  · simp only [hempty, lookup_cons_ite, h, lookup_filter_ne _ h, if_false]

lemma walk_put {target : Location} (htarget : files.node? target ≠ some .directory)
    {names : List String} {found : Location} (h : files.walk place names = .ok found) :
    (files.put target node).walk place names = .ok found := by
  induction names generalizing place with
  | nil => exact h
  | cons name names ih =>
    unfold walk at h ⊢
    cases hplace : files.node? place with
    | none =>
      rw [hplace] at h
      cases h
    | some here =>
      cases here with
      | file content =>
        rw [hplace] at h
        cases h
      | directory =>
        rw [hplace] at h
        have hne : place ≠ target := by
          rintro rfl
          exact htarget hplace
        rw [node?_put_ne hne, hplace]
        dsimp only at h ⊢
        split_ifs at h ⊢
        · exact ih h
        · exact ih h
        · exact ih h

lemma locate_put {path : String} (h : files.locate path = .ok place)
    (hplace : files.node? place ≠ some .directory) :
    (files.put place node).locate path = .ok place := by
  obtain ⟨start, hstart, hwalk⟩ := Except.bind_eq_ok.mp h
  exact Except.bind_eq_ok.mpr ⟨start, hstart, walk_put hplace hwalk⟩

lemma locate_of_locateForWriting {path : String} (h : files.locateForWriting path = .ok place) :
    files.locate path = .ok place ∧ files.node? place ≠ some .directory := by
  unfold locateForWriting at h
  split at h
  · obtain ⟨start, -, h⟩ := Except.bind_eq_ok.mp h
    obtain ⟨_, -, h⟩ := Except.bind_eq_ok.mp h
    cases h
  · obtain ⟨found, hfound, h⟩ := Except.bind_eq_ok.mp h
    split at h
    · cases h
    · rename_i hno
      cases h
      exact ⟨hfound, hno⟩

/-- **A written file is found again**, with what was written. -/
theorem look_of_write {files' : Files} {path : String} {content : ByteArray}
    (h : files.write path content = .ok files') : files'.look path = .ok (.file content) := by
  obtain ⟨place, hplace, h⟩ := Except.bind_eq_ok.mp h
  cases h
  obtain ⟨hlocate, hno⟩ := locate_of_locateForWriting hplace
  have hne : place ≠ [] := by
    rintro rfl
    exact hno rfl
  refine Except.bind_eq_ok.mpr ⟨place, locate_put hlocate hno, ?_⟩
  rw [node?_put_self hne]
  rfl

end CsvQuery.Files
