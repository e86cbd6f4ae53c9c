import CsvQuery.Proofs.Token.Lexing
import Mathlib.Data.List.TakeWhile

/-!
How tokens are written, and that the lexer reads back what is written. Every token that the lexer
makes can be written; tokens that are written with one space between them are lexed one by one,
unless one is a word that goes on over the space.
-/

namespace CsvQuery.Token

def spelling : Token → String
  | identifier name => name
  | number value => toString value
  | text content => "'" ++ content ++ "'"
  | keyword word => word.spelling
  | comparison c => c.sign
  | comma => ","
  | dot => "."
  | star => "*"
  | openParen => "("
  | closeParen => ")"
  | eof => ""

/-- The characters are a word as the lexer takes it when nothing follows. -/
def IsWord : List Char → Prop
  | [] => False
  | c :: more => c.isAlpha = true ∧ wordTail [c] false more = .ok more

/-- The token is one that the lexer makes of a piece of a query. -/
def Lexical : Token → Prop
  | identifier name => IsWord name.toList ∧ Keyword.ofText? name = none
  | number value => 0 ≤ value ∧ value ≤ Integer.greatest
  | text content => '\'' ∉ content.toList
  | eof => False
  | _ => True

instance (cs : List Char) : Decidable (IsWord cs) :=
  match cs with
  | [] => inferInstanceAs (Decidable False)
  | c :: more => inferInstanceAs (Decidable (c.isAlpha = true ∧ wordTail [c] false more = .ok more))

/-- A word that takes the character behind it whatever that is. -/
def RunsOn (name : String) : Prop :=
  name ∈ ["ORDER", "GROUP", "LEFT", "RIGHT"]

/-- The token is one of the lexer's, and a space behind it ends it. -/
def Writable (t : Token) : Prop :=
  t.Lexical ∧ ∀ name, t = identifier name → ¬RunsOn name

/-! ### Words -/

lemma contains_pairOpeners {name : String} :
    pairOpeners.contains name.toList.reverse = true ↔ RunsOn name := by
  simp [pairOpeners, RunsOn, ← String.toList_inj]

def goesOn (taken : List Char) (underscored : Bool) (c : Char) : Bool :=
  pairOpeners.contains taken || c.isAlpha || !endsWord (underscored || c == '_') c

lemma wordTail_cons (taken : List Char) (underscored : Bool) (c : Char) (rest : List Char) :
    wordTail taken underscored (c :: rest) =
      if c = '-' then .error taken.length
      else if goesOn taken underscored c then
        (wordTail (c :: taken) (underscored || c == '_') rest).map (c :: ·)
      else .ok [] := rfl

lemma wordTail_cons_ok {taken rest more : List Char} {underscored : Bool} {c : Char} :
    wordTail taken underscored (c :: rest) = .ok more ↔
      c ≠ '-' ∧ ((goesOn taken underscored c = true ∧ ∃ more', more = c :: more' ∧
        wordTail (c :: taken) (underscored || c == '_') rest = .ok more') ∨
        (goesOn taken underscored c = false ∧ more = [])) := by
  rw [wordTail_cons]
  by_cases hc : c = '-'
  · simp [hc]
  · cases hgo : goesOn taken underscored c with
    | false => simp [hc, eq_comm]
    | true =>
      cases wordTail (c :: taken) (underscored || c == '_') rest with
      | error n => simp [hc, Except.map]
      | ok more' => simp [hc, Except.map, eq_comm]

lemma wordTail_prefix {taken rest more : List Char} {underscored : Bool}
    (h : wordTail taken underscored rest = .ok more) :
    wordTail taken underscored more = .ok more := by
  induction rest generalizing taken underscored more with
  | nil =>
    cases h
    rfl
  | cons c rest ih =>
    obtain ⟨hc, ⟨hgo, more', rfl, hrest⟩ | ⟨-, rfl⟩⟩ := wordTail_cons_ok.mp h
    · exact wordTail_cons_ok.mpr ⟨hc, .inl ⟨hgo, more', rfl, ih hrest⟩⟩
    · rfl

/-- A space, a tab or an end of a line. -/
def isSeparator (c : Char) : Bool :=
  c == ' ' || c == '\t' || c == '\n' || c == '\r'

lemma isSeparator_cases {c : Char} (h : isSeparator c = true) :
    c = ' ' ∨ c = '\t' ∨ c = '\n' ∨ c = '\r' := by
  simpa [isSeparator, or_assoc] using h

lemma startsToken_separator {c : Char} (h : isSeparator c = true) : startsToken c = false := by
  rcases isSeparator_cases h with rfl | rfl | rfl | rfl <;> rfl

def Separated (tail : List Char) : Prop :=
  ∃ c rest, tail = c :: rest ∧ isSeparator c = true

lemma goesOn_separator {taken : List Char} {underscored : Bool} {c : Char}
    (hc : isSeparator c = true) (hopen : pairOpeners.contains taken = false) :
    goesOn taken underscored c = false := by
  rw [goesOn, hopen]
  rcases isSeparator_cases hc with rfl | rfl | rfl | rfl <;> cases underscored <;> rfl

lemma wordTail_append {taken rest tail : List Char} {underscored : Bool} (ht : Separated tail)
    (hopen : wordTail taken underscored rest = .ok rest →
      pairOpeners.contains (rest.reverse ++ taken) = false) :
    wordTail taken underscored (rest ++ tail) = wordTail taken underscored rest := by
  induction rest generalizing taken underscored with
  | nil =>
    obtain ⟨c, tail, rfl, hc⟩ := ht
    refine wordTail_cons_ok.mpr ⟨?_, .inr ⟨goesOn_separator hc (hopen rfl), rfl⟩⟩
    rintro rfl
    cases hc
  | cons c rest ih =>
    have hstep := fun rest => wordTail_cons taken underscored c rest
    rw [List.cons_append, hstep, hstep]
    by_cases hhyphen : c = '-'
    · rw [if_pos hhyphen, if_pos hhyphen]
    · rw [if_neg hhyphen, if_neg hhyphen]
      split
      · rename_i hgo
        rw [ih]
        intro hrest
        have hword : wordTail taken underscored (c :: rest) = .ok (c :: rest) :=
          wordTail_cons_ok.mpr ⟨hhyphen, .inl ⟨hgo, rest, rfl, hrest⟩⟩
        simpa using hopen hword
      · rfl

/-! ### What the lexer makes can be written -/

lemma lexical_ofWord {cs : List Char} (h : IsWord cs) : (ofWord (String.ofList cs)).Lexical := by
  unfold ofWord
  split
  · trivial
  · rename_i hnone
    exact ⟨by rwa [String.toList_ofList], hnone⟩

/-- **Every token that the lexer makes can be written.** -/
lemma lexical_scan {position : Nat} {c : Char} {rest : List Char} {l : Lexeme}
    (h : scan position c rest = .ok l) : l.token.Lexical := by
  unfold scan scanNumber scanWord at h
  split at h
  · dsimp only at h
    split at h
    · rename_i hle
      cases h
      exact ⟨Int.natCast_nonneg _, hle⟩
    · cases h
  · cases h
    intro hmem
    rw [String.toList_ofList] at hmem
    have := List.mem_takeWhile_imp hmem
    simp at this
  · rename_i hkind
    split at h
    · rename_i more hmore
      cases h
      exact lexical_ofWord ⟨starts_of_kindOf hkind, wordTail_prefix hmore⟩
    · cases h
  · cases h
    trivial
  · rename_i t hkind
    cases h
    have ht : ofPunctuation? c = some t := starts_of_kindOf hkind
    unfold ofPunctuation? at ht
    split at ht <;> cases ht <;> trivial
  · cases h

lemma lexical_of_lexFrom {position : Nat} {cs : List Char} {tokens : List Located}
    (h : lexFrom position cs = .ok tokens) : ∀ t ∈ tokens, t.token = .eof ∨ t.token.Lexical := by
  fun_induction lexFrom position cs generalizing tokens with
  | case1 position =>
    cases h
    simp
  | case2 position c rest hstart e hscan => cases h
  | case3 position c rest hstart l hscan _ e hrest => cases h
  | case4 position c rest hstart l hscan stop others hrest =>
    rename_i ih
    cases h
    intro t ht
    rcases List.mem_cons.mp ht with rfl | ht
    · exact .inr (lexical_scan hscan)
    · exact ih hrest t ht
  | case5 position c rest hstart ih => exact ih h

/-! ### What is written is lexed -/

/-- Nothing follows, or a space. -/
def Apart (tail : List Char) : Prop :=
  ∀ c ∈ tail.head?, c = ' '

/-- The characters are lexed as the token, whatever stands apart from them. -/
def Lexes (cs : List Char) (t : Token) : Prop :=
  ∃ c more, cs = c :: more ∧ startsToken c = true ∧
    ∀ position tail, Apart tail → scan position c (more ++ tail) = .ok ⟨t, more.length⟩

lemma takeWhile_apart {p : Char → Bool} {more tail : List Char} (hp : p ' ' = false)
    (hmore : ∀ c ∈ more, p c = true) (ht : Apart tail) : (more ++ tail).takeWhile p = more := by
  have htail : tail.takeWhile p = [] := by
    cases tail with
    | nil => rfl
    | cons c tail =>
      obtain rfl := ht c rfl
      simp [hp]
  rw [List.takeWhile_append_of_pos hmore, htail, List.append_nil]

lemma lexes_word {name : String} (hw : IsWord name.toList) (hr : ¬RunsOn name) :
    Lexes name.toList (ofWord name) := by
  obtain ⟨c, more, hcs⟩ : ∃ c more, name.toList = c :: more := by
    cases h : name.toList with
    | nil => simp [h, IsWord] at hw
    | cons c more => exact ⟨c, more, rfl⟩
  rw [hcs] at hw ⊢
  obtain ⟨halpha, hmore⟩ := hw
  refine ⟨c, more, rfl, by simp [startsToken, halpha], fun position tail ht => ?_⟩
  have hopen : pairOpeners.contains (more.reverse ++ [c]) = false := by
    rw [← List.reverse_cons, ← hcs, Bool.eq_false_iff]
    exact fun h => hr (contains_pairOpeners.mp h)
  have htail : wordTail [c] false (more ++ tail) = .ok more := by
    cases tail with
    | nil => simpa using hmore
    | cons c' tail =>
      obtain rfl := ht c' rfl
      exact (wordTail_append ⟨' ', tail, rfl, rfl⟩ fun _ => hopen).trans hmore
  have hname : String.ofList (c :: more) = name := by rw [← hcs, String.ofList_toList]
  simp [scan, kindOf_of_isAlpha halpha, scanWord, htail, hname]

lemma lexes_number {n : Nat} (hn : (n : Int) ≤ Integer.greatest) :
    Lexes (Nat.toDigits 10 n) (number n) := by
  have hdigit : ∀ c ∈ Nat.toDigits 10 n, c.isDigit = true := fun c hc =>
    Nat.isDigit_of_mem_toDigits (by decide) (by decide) hc
  have hvalue : Nat.ofDigitChars 10 (Nat.toDigits 10 n) 0 = n := Nat.ofDigitChars_ten_toDigits
  cases hcs : Nat.toDigits 10 n with
  | nil => exact absurd hcs (by simp)
  | cons c more =>
    rw [hcs] at hdigit hvalue
    have hc : c.isDigit = true := hdigit c (by simp)
    refine ⟨c, more, rfl, by simp [startsToken, hc], fun position tail ht => ?_⟩
    have hmore := takeWhile_apart (p := Char.isDigit) rfl
      (fun c hc => hdigit c (List.mem_cons_of_mem _ hc)) ht
    simp [scan, kindOf_of_isDigit hc, scanNumber, hmore, hvalue, hn]

lemma lexes_text {content : String} (h : '\'' ∉ content.toList) :
    Lexes ("'" ++ content ++ "'").toList (text content) := by
  refine ⟨'\'', content.toList ++ ['\''], by simp, rfl, fun position tail _ => ?_⟩
  have hcontent : (content.toList ++ ['\''] ++ tail).takeWhile (· != '\'') = content.toList := by
    rw [List.append_assoc, List.takeWhile_append_of_pos (by
      intro c hc
      simp only [bne_iff_ne, ne_eq]
      rintro rfl
      exact h hc)]
    simp
  have hkind : kindOf '\'' = .text := rfl
  simp only [scan, hkind, scanText, hcontent, String.ofList_toList]
  simp

lemma lexes_run (c : Char) (more : List Char) (hc : isSign c = true)
    (hmore : ∀ c ∈ more, isSign c = true) :
    Lexes (c :: more) (comparison (Comparison.ofRun (c :: more))) := by
  have hstart : startsToken c = true := by simp [startsToken, hc]
  refine ⟨c, more, rfl, hstart, fun position tail ht => ?_⟩
  have hrun := takeWhile_apart (p := isSign) rfl hmore ht
  simp [scan, kindOf_of_isSign hc, scanSign, hrun]

lemma lexes_sign (c : Comparison) : Lexes c.sign.toList (comparison c) := by
  cases c with
  | equal => exact lexes_run '=' [] rfl (by simp)
  | notEqual => exact lexes_run '<' ['>'] rfl (by simp [isSign])
  | less => exact lexes_run '<' [] rfl (by simp)
  | lessEqual => exact lexes_run '<' ['='] rfl (by simp [isSign])
  | greater => exact lexes_run '>' [] rfl (by simp)
  | greaterEqual => exact lexes_run '>' ['='] rfl (by simp [isSign])

lemma lexes_punctuation {c : Char} {t : Token} (h : ofPunctuation? c = some t) : Lexes [c] t := by
  have hstart : startsToken c = true := by simp [startsToken, h]
  refine ⟨c, [], rfl, hstart, fun position tail _ => ?_⟩
  simp [scan, kindOf_of_ofPunctuation? h]

lemma mem_all (w : Keyword) : w ∈ Keyword.all := by
  cases w with
  | direction d => cases d <;> decide
  | join k => cases k <;> decide
  | aggregate f => cases f <;> decide
  | _ => decide

lemma spelling_keyword (w : Keyword) :
    IsWord w.spelling.toList ∧ ¬RunsOn w.spelling ∧ Keyword.ofText? w.spelling = some w := by
  have hall : ∀ w ∈ Keyword.all, IsWord w.spelling.toList ∧ ¬RunsOn w.spelling ∧
      Keyword.ofText? w.spelling = some w := by
    unfold RunsOn
    decide
  exact hall w (mem_all w)

lemma lexes_spelling {t : Token} (h : t.Writable) : Lexes t.spelling.toList t := by
  obtain ⟨hlex, hruns⟩ := h
  cases t with
  | identifier name =>
    obtain ⟨hword, hnone⟩ := hlex
    have hname : ofWord name = identifier name := by simp [ofWord, hnone]
    have h := lexes_word hword (hruns name rfl)
    rwa [hname] at h
  | number value =>
    obtain ⟨hnonneg, hle⟩ := hlex
    obtain ⟨n, rfl⟩ := Int.eq_ofNat_of_zero_le hnonneg
    have hdigits : (spelling (number n)).toList = Nat.toDigits 10 n := by
      simp [spelling, Int.toString_eq_repr, Int.repr]
    exact hdigits ▸ lexes_number hle
  | text content => exact lexes_text hlex
  | keyword w =>
    obtain ⟨hword, hopen, hsome⟩ := spelling_keyword w
    have hname : ofWord w.spelling = keyword w := by simp [ofWord, hsome]
    have h := lexes_word hword hopen
    rwa [hname] at h
  | comparison c => exact lexes_sign c
  | comma => exact lexes_punctuation (c := ',') rfl
  | dot => exact lexes_punctuation (c := '.') rfl
  | star => exact lexes_punctuation (c := '*') rfl
  | openParen => exact lexes_punctuation (c := '(') rfl
  | closeParen => exact lexes_punctuation (c := ')') rfl
  | eof => exact hlex.elim

lemma lexFrom_of_scan {position : Nat} {c : Char} {rest : List Char} {l : Lexeme}
    (hstart : startsToken c = true) (hscan : scan position c rest = .ok l) :
    lexFrom position (c :: rest) =
      (lexFrom (position + 1 + l.more) (rest.drop l.more)).map
        (⟨l.token, position, position + 1 + l.more⟩ :: ·) := by
  rw [lexFrom, if_pos hstart, hscan]
  dsimp only
  cases lexFrom (position + 1 + l.more) (rest.drop l.more) <;> rfl

lemma lexFrom_of_not_startsToken (position : Nat) {c : Char} (hstart : startsToken c = false)
    (rest : List Char) : lexFrom position (c :: rest) = lexFrom (position + 1) rest := by
  rw [lexFrom, hstart]
  rfl

lemma lexFrom_written {cs tail : List Char} {t : Token} (h : Lexes cs t) (ht : Apart tail)
    (position : Nat) : lexFrom position (cs ++ tail) =
      (lexFrom (position + cs.length) tail).map (⟨t, position, position + cs.length⟩ :: ·) := by
  obtain ⟨c, more, rfl, hstart, hscan⟩ := h
  have hstop : position + 1 + more.length = position + (c :: more).length := by
    simp only [List.length_cons]
    omega
  rw [List.cons_append, lexFrom_of_scan hstart (hscan position tail ht), List.drop_left]
  simp only [hstop]

lemma lexFrom_append {cs tail : List Char} {t : Token} (h : Lexes cs t) (ht : Apart tail)
    {position : Nat} {others : List Located}
    (hrest : lexFrom (position + cs.length) tail = .ok others) :
    lexFrom position (cs ++ tail) = .ok (⟨t, position, position + cs.length⟩ :: others) := by
  rw [lexFrom_written h ht, hrest]
  rfl

lemma lexFrom_nil (position : Nat) : lexFrom position [] = .ok [⟨eof, position, position⟩] := by
  rw [lexFrom]

lemma lexFrom_space (position : Nat) (cs : List Char) :
    lexFrom position (' ' :: cs) = lexFrom (position + 1) cs :=
  lexFrom_of_not_startsToken position rfl cs

/-- **Tokens written with a space between them are lexed one by one.** -/
lemma lexFrom_spelling {ts : List Token} (h : ∀ t ∈ ts, t.Writable) (position : Nat) :
    ∃ tokens, lexFrom position ([' '].intercalate (ts.map (·.spelling.toList))) = .ok tokens ∧
      tokens.map (·.token) = ts ++ [eof] := by
  induction ts generalizing position with
  | nil => exact ⟨_, lexFrom_nil position, rfl⟩
  | cons t ts ih =>
    have ht := lexes_spelling (h t (by simp))
    have hts : ∀ t ∈ ts, t.Writable := fun t ht => h t (List.mem_cons_of_mem _ ht)
    cases ts with
    | nil =>
      have hlex := lexFrom_append ht (by simp [Apart])
        (lexFrom_nil (position + t.spelling.toList.length))
      exact ⟨_, by simpa using hlex, rfl⟩
    | cons t' ts =>
      obtain ⟨tokens, hrest, htokens⟩ := ih hts (position + t.spelling.toList.length + 1)
      rw [← lexFrom_space] at hrest
      have hlex := lexFrom_append ht (by simp [Apart]) hrest
      exact ⟨_, by simpa using hlex, by simp [htokens]⟩

end CsvQuery.Token
