import CsvQuery.Proofs.Token.Spelling

/-!
Dots in words. A word takes a dot only right behind `ORDER`, `GROUP`, `LEFT` or `RIGHT`, so it has
at most one, and not in front of it or behind a slash.
-/

namespace CsvQuery.Token

lemma goesOn_dot {taken : List Char} {underscored : Bool}
    (h : goesOn taken underscored '.' = true) : pairOpeners.contains taken = true := by
  cases hopen : pairOpeners.contains taken with
  | true => rfl
  | false =>
    rw [goesOn, hopen] at h
    cases underscored <;> cases h

lemma contains_of_wordTail_dot {taken front behind : List Char} {underscored : Bool}
    (h : wordTail taken underscored (front ++ '.' :: behind) = .ok (front ++ '.' :: behind)) :
    pairOpeners.contains (front.reverse ++ taken) = true := by
  induction front generalizing taken underscored with
  | nil =>
    obtain ⟨-, ⟨hgo, -⟩ | ⟨-, hnil⟩⟩ := wordTail_cons_ok.mp h
    · exact goesOn_dot hgo
    · cases hnil
  | cons c front ih =>
    obtain ⟨-, ⟨-, more, heq, hrest⟩ | ⟨-, hnil⟩⟩ := wordTail_cons_ok.mp h
    · cases heq
      simpa using ih hrest
    · cases hnil

lemma not_mem_of_runsOn {name : String} (h : RunsOn name) :
    '.' ∉ name.toList ∧ '/' ∉ name.toList := by
  have hall : ∀ word ∈ ["ORDER", "GROUP", "LEFT", "RIGHT"],
      '.' ∉ word.toList ∧ '/' ∉ word.toList := by decide
  exact hall name h

namespace IsWord

variable {cs front behind : List Char}

lemma head?_isAlpha (h : IsWord cs) : ∃ c ∈ cs.head?, c.isAlpha = true := by
  cases cs with
  | nil => exact h.elim
  | cons c more => exact ⟨c, rfl, h.1⟩

lemma runsOn_of_dot (h : IsWord (front ++ '.' :: behind)) : RunsOn (String.ofList front) := by
  cases front with
  | nil =>
    obtain ⟨c, hc, halpha⟩ := h.head?_isAlpha
    cases hc
    cases halpha
  | cons c front =>
    have hopen := contains_of_wordTail_dot h.2
    refine contains_pairOpeners.mp ?_
    rwa [String.toList_ofList, List.reverse_cons]

lemma count_dot_le (h : IsWord cs) : cs.count '.' ≤ 1 := by
  by_cases hmem : '.' ∈ cs
  · obtain ⟨front, behind, rfl, hfront⟩ := List.eq_append_cons_of_mem hmem
    have hbehind : '.' ∉ behind := by
      intro hsecond
      obtain ⟨between, behind, rfl, -⟩ := List.eq_append_cons_of_mem hsecond
      have hword : IsWord ((front ++ '.' :: between) ++ '.' :: behind) := by simpa using h
      refine (not_mem_of_runsOn hword.runsOn_of_dot).1 ?_
      simp
    simp [List.count_eq_zero_of_not_mem hfront, List.count_eq_zero_of_not_mem hbehind]
  · simp [List.count_eq_zero_of_not_mem hmem]

lemma ne_slash_dot (h : IsWord cs) : cs ≠ front ++ '/' :: '.' :: behind := by
  rintro rfl
  have hword : IsWord ((front ++ ['/']) ++ '.' :: behind) := by simpa using h
  refine (not_mem_of_runsOn hword.runsOn_of_dot).2 ?_
  simp

end IsWord

end CsvQuery.Token
