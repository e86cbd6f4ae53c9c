import CsvQuery.Token.Lexer
import Mathlib.Tactic.Common

/-!
The first character of a token decides its kind, and every kind stands for one test. What the lexer
makes ends with the token for the end of the query, and has that token nowhere else.
-/

namespace CsvQuery.Token

/-! ### The kinds of tokens -/

section Kinds

variable {c : Char}

lemma isDigit_of_isAlpha (h : c.isAlpha = true) : c.isDigit = false := by
  -- All letters have greater codes than the digits.
  have hletter : 65 ≤ c.val := by
    rcases (Bool.or_eq_true _ _).mp h with hupper | hlower
    · exact (of_decide_eq_true hupper).1
    · have hlow := (Bool.and_eq_true _ _).mp hlower
      exact UInt32.le_trans (by decide) (of_decide_eq_true hlow.1)
  rw [Bool.eq_false_iff]
  intro hdigit
  have hnine := (Bool.and_eq_true _ _).mp hdigit
  exact absurd (UInt32.le_trans hletter (of_decide_eq_true hnine.2)) (by decide)

lemma kindOf_of_isDigit (h : c.isDigit = true) : kindOf c = .number :=
  if_pos h

lemma kindOf_of_isAlpha (h : c.isAlpha = true) : kindOf c = .word := by
  have hquote : c ≠ '\'' := by
    rintro rfl
    cases h
  rw [kindOf, isDigit_of_isAlpha h, if_neg Bool.false_ne_true, if_neg hquote, if_pos h]

lemma kindOf_of_isSign (h : isSign c = true) : kindOf c = .sign := by
  have hcases : c = '>' ∨ c = '<' ∨ c = '=' ∨ c = '!' := by simpa [isSign, or_assoc] using h
  rcases hcases with rfl | rfl | rfl | rfl <;> rfl

lemma kindOf_of_ofPunctuation? {t : Token} (h : ofPunctuation? c = some t) :
    kindOf c = .punctuation t := by
  unfold ofPunctuation? at h
  split at h <;> cases h <;> rfl

def Kind.Starts (c : Char) : Kind → Prop
  | number => c.isDigit = true
  | text => c = '\''
  | word => c.isAlpha = true
  | sign => isSign c = true
  | punctuation t => ofPunctuation? c = some t
  | unexpected => startsToken c = false

lemma starts_of_kindOf {k : Kind} (h : kindOf c = k) : k.Starts c := by
  subst h
  unfold kindOf
  split_ifs with hdigit hquote halpha hsign
  · exact hdigit
  · exact hquote
  · exact halpha
  · exact hsign
  · cases ht : ofPunctuation? c with
    | some t => exact ht
    | none => simp [Kind.Starts, startsToken, hdigit, hquote, halpha, hsign, ht]

lemma kindOf_of_startsToken (h : startsToken c = true) : kindOf c ≠ .unexpected := by
  intro hkind
  have hnot : startsToken c = false := starts_of_kindOf hkind
  rw [h] at hnot
  cases hnot

end Kinds

/-! ### The end of the query -/

def Closed (tokens : List Located) : Prop :=
  ∃ before last, tokens = before ++ [last] ∧ last.token = .eof

lemma Closed.tail {t : Located} {tokens : List Located} (h : Closed (t :: tokens))
    (ht : t.token ≠ .eof) : Closed tokens := by
  obtain ⟨before, last, hsplit, hl⟩ := h
  cases before with
  | nil =>
    cases hsplit
    exact absurd hl ht
  | cons t' before =>
    cases hsplit
    exact ⟨before, last, rfl, hl⟩

lemma ofWord_ne_eof (s : String) : ofWord s ≠ .eof := by
  unfold ofWord
  split <;> simp

lemma scan_ne_eof {position : Nat} {c : Char} {rest : List Char} {l : Lexeme}
    (h : scan position c rest = .ok l) : l.token ≠ .eof := by
  unfold scan scanNumber scanWord at h
  split at h
  · dsimp only at h
    split at h <;> cases h
    simp
  · cases h
    simp [scanText]
  · split at h <;> cases h
    exact ofWord_ne_eof _
  · cases h
    simp [scanSign]
  · rename_i t hkind
    cases h
    rintro rfl
    have ht : ofPunctuation? c = some .eof := starts_of_kindOf hkind
    unfold ofPunctuation? at ht
    split at ht <;> cases ht
  · cases h

/-- **The end of the query is the last token and no other.** -/
lemma lexFrom_closed {position : Nat} {cs : List Char} {tokens : List Located}
    (h : lexFrom position cs = .ok tokens) :
    ∃ before last, tokens = before ++ [last] ∧ last.token = .eof ∧
      ∀ t ∈ before, t.token ≠ .eof := by
  fun_induction lexFrom position cs generalizing tokens with
  | case1 position =>
    cases h
    exact ⟨[], _, rfl, rfl, by simp⟩
  | case2 position c rest hstart e hscan => cases h
  | case3 position c rest hstart l hscan _ e hrest => cases h
  | case4 position c rest hstart l hscan stop others hrest =>
    rename_i ih
    cases h
    obtain ⟨before, last, rfl, hl, hne⟩ := ih hrest
    refine ⟨_ :: before, last, rfl, hl, ?_⟩
    intro t ht
    rcases List.mem_cons.mp ht with rfl | ht
    · exact scan_ne_eof hscan
    · exact hne t ht
  | case5 position c rest hstart ih => exact ih h

lemma closed_of_lex {query : String} {tokens : List Located} (h : lex query = .ok tokens) :
    Closed tokens := by
  obtain ⟨before, last, rfl, hl, -⟩ := lexFrom_closed h
  exact ⟨before, last, rfl, hl⟩

end CsvQuery.Token
