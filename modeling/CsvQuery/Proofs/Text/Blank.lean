import CsvQuery.Text.Blank
import Mathlib.Data.List.DropRight
import Mathlib.Tactic.Common

/-!
Texts cut at a character and freed of blanks. A text is cut in one way only, and what neither begins
nor ends with a blank is trimmed to itself.
-/

namespace CsvQuery.Text

variable {p : Char → Bool} {s front behind word : String}

/-! ### Cutting -/

lemma splitAtFirst_eq_some_iff :
    splitAtFirst p s = some (front, behind) ↔
      ∃ c, s.toList = front.toList ++ c :: behind.toList ∧ p c = true ∧
        ∀ x ∈ front.toList, p x = false := by
  rw [splitAtFirst]
  constructor
  · intro h
    split at h
    · cases h
    · rename_i c rest hrest
      obtain ⟨rfl, rfl⟩ := Prod.mk.inj (Option.some.inj h)
      refine ⟨c, ?_, ?_, fun x hx => ?_⟩
      · rw [String.toList_ofList, String.toList_ofList, ← hrest, List.takeWhile_append_dropWhile]
      · have hnot := List.head?_dropWhile_not (fun c => !p c) s.toList
        simpa [hrest] using hnot
      · rw [String.toList_ofList] at hx
        simpa using List.mem_takeWhile_imp hx
  · rintro ⟨c, hs, hc, hfront⟩
    have hkept : ∀ x ∈ front.toList, (!p x) = true := fun x hx => by simp [hfront x hx]
    have hdrop : s.toList.dropWhile (fun c => !p c) = c :: behind.toList := by
      rw [hs, List.dropWhile_append_of_pos hkept, List.dropWhile_cons_of_neg (by simp [hc])]
    have htake : s.toList.takeWhile (fun c => !p c) = front.toList := by
      rw [hs, List.takeWhile_append_of_pos hkept, List.takeWhile_cons_of_neg (by simp [hc]),
        List.append_nil]
    rw [hdrop, htake]
    simp

lemma splitAtFirst_eq_none_iff : splitAtFirst p s = none ↔ ∀ c ∈ s.toList, p c = false := by
  rw [splitAtFirst]
  split
  · rename_i h
    simpa using List.dropWhile_eq_nil_iff.mp h
  · rename_i c rest h
    refine iff_of_false (by simp) fun hall => ?_
    have hnil : s.toList.dropWhile (fun c => !p c) = [] :=
      List.dropWhile_eq_nil_iff.mpr fun x hx => by simp [hall x hx]
    rw [hnil] at h
    cases h

/-! ### The first word -/

lemma firstWord_of_cut {c : Char} (h : s.toList = word.toList ++ c :: behind.toList)
    (hc : isBlank c = true) (hword : ∀ x ∈ word.toList, isBlank x = false) :
    firstWord s = (word, trim behind) := by
  rw [firstWord, splitAtFirst_eq_some_iff.mpr ⟨c, h, hc, hword⟩]

lemma firstWord_of_not_blank (h : ∀ c ∈ s.toList, isBlank c = false) : firstWord s = (s, "") := by
  rw [firstWord, splitAtFirst_eq_none_iff.mpr h]

lemma firstWord_cases (s : String) :
    (∀ c ∈ s.toList, isBlank c = false) ∨
    ∃ word c behind, s.toList = String.toList word ++ c :: String.toList behind ∧
      isBlank c = true ∧ ∀ x ∈ word.toList, isBlank x = false := by
  cases h : splitAtFirst isBlank s with
  | none => exact .inl (splitAtFirst_eq_none_iff.mp h)
  | some parts =>
    obtain ⟨c, hparts⟩ := splitAtFirst_eq_some_iff.mp h
    exact .inr ⟨_, c, _, hparts⟩

/-! ### Trimming -/

lemma exists_trim (s : String) :
    ∃ before after, s.toList = before ++ (trim s).toList ++ after ∧
      (∀ c ∈ before, isBlank c = true) ∧ ∀ c ∈ after, isBlank c = true := by
  refine ⟨s.toList.takeWhile isBlank, (s.toList.dropWhile isBlank).rtakeWhile isBlank, ?_,
    fun c hc => List.mem_takeWhile_imp hc, fun c hc => List.mem_rtakeWhile_imp hc⟩
  have hkept : (trim s).toList = (s.toList.dropWhile isBlank).rdropWhile isBlank :=
    String.toList_ofList
  rw [hkept, List.append_assoc, List.rdropWhile_append_rtakeWhile,
    List.takeWhile_append_dropWhile]

lemma mem_of_mem_trim {c : Char} (h : c ∈ (trim s).toList) : c ∈ s.toList := by
  obtain ⟨before, after, hs, -⟩ := exists_trim s
  rw [hs]
  exact List.mem_append_left _ (List.mem_append_right _ h)

lemma trim_ne_empty {c : Char} (h : c ∈ s.toList) (hc : isBlank c = false) : trim s ≠ "" := by
  intro hempty
  obtain ⟨before, after, hs, hbefore, hafter⟩ := exists_trim s
  rw [hs, hempty, String.toList_empty, List.append_nil, List.mem_append] at h
  rcases h with h | h
  · simp [hbefore c h] at hc
  · simp [hafter c h] at hc

lemma exists_trim_of_head (h : ∀ c, s.toList.head? = some c → isBlank c = false) :
    ∃ after, s.toList = (trim s).toList ++ after ∧ ∀ c ∈ after, isBlank c = true := by
  obtain ⟨before, after, hs, hbefore, hafter⟩ := exists_trim s
  cases before with
  | nil => exact ⟨after, by rwa [List.nil_append] at hs, hafter⟩
  | cons c before =>
    have hhead : s.toList.head? = some c := by simp [hs]
    have hblank := hbefore c List.mem_cons_self
    rw [h c hhead] at hblank
    cases hblank

lemma trim_eq_self
    (h : ∀ c, s.toList.head? = some c ∨ s.toList.getLast? = some c → isBlank c = false) :
    trim s = s := by
  obtain ⟨after, hs, hafter⟩ := exists_trim_of_head fun c hc => h c (.inl hc)
  rcases List.eq_nil_or_concat after with rfl | ⟨init, c, rfl⟩
  · rw [← String.toList_inj, hs, List.append_nil]
  · have hlast : s.toList.getLast? = some c := by simp [hs]
    have hblank := hafter c (by simp)
    rw [h c (.inr hlast)] at hblank
    cases hblank

end CsvQuery.Text
