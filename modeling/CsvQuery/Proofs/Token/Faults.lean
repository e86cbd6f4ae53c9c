import CsvQuery.Proofs.Token.Spelling

/-!
Where lexing fails. The scan goes from one place of the query to a later one over a character that
it skips or over a whole token; it fails where a token cannot be completed. There are two such
places: a hyphen that a word meets, and a number above the largest integer. A character that
starts no token is never taken for the start of one.
-/

namespace CsvQuery.Token

/-! ### Places -/

/-- The places of a query at which the scan stands between two tokens: the start, and from a place
the one behind a character that is skipped or behind the token that is found there. -/
inductive Reached (cs : List Char) : Nat → Prop
  | start : Reached cs 0
  | skip {p : Nat} {c : Char} (h : Reached cs p) (hc : cs[p]? = some c)
    (hskip : startsToken c = false) : Reached cs (p + 1)
  | token {p : Nat} {c : Char} {l : Lexeme} (h : Reached cs p) (hc : cs[p]? = some c)
    (hstart : startsToken c = true) (hscan : scan p c (cs.drop (p + 1)) = .ok l) :
    Reached cs (p + 1 + l.more)

lemma drop_of_getElem? {cs : List Char} {p : Nat} {c : Char} (hc : cs[p]? = some c) :
    cs.drop p = c :: cs.drop (p + 1) := by
  obtain ⟨hlt, rfl⟩ := List.getElem?_eq_some_iff.mp hc
  exact List.drop_eq_getElem_cons hlt

lemma getElem?_of_drop {cs rest : List Char} {p : Nat} {c : Char} (h : cs.drop p = c :: rest) :
    cs[p]? = some c ∧ cs.drop (p + 1) = rest := by
  constructor
  · rw [← List.head?_drop, h]
    rfl
  · rw [← List.tail_drop, h]
    rfl

lemma Reached.error_iff {cs : List Char} {p : Nat} {e : Error} (h : Reached cs p) :
    lexFrom 0 cs = .error e ↔ lexFrom p (cs.drop p) = .error e := by
  induction h with
  | start => rfl
  | skip _ hc hskip ih => rw [ih, drop_of_getElem? hc, lexFrom_of_not_startsToken _ hskip]
  | @token p c l _ hc hstart hscan ih =>
    rw [ih, drop_of_getElem? hc, lexFrom_of_scan hstart hscan, List.drop_drop]
    cases lexFrom (p + 1 + l.more) (cs.drop (p + 1 + l.more)) <;> simp [Except.map]

lemma exists_reached {cs rest : List Char} {p : Nat} {e : Error} (h : Reached cs p)
    (hrest : cs.drop p = rest) (herror : lexFrom p rest = .error e) :
    ∃ p' c, Reached cs p' ∧ cs[p']? = some c ∧ startsToken c = true ∧
      scan p' c (cs.drop (p' + 1)) = .error e := by
  fun_induction lexFrom p rest with
  | case1 p => cases herror
  | case2 p c rest hstart e' hscan =>
    cases herror
    obtain ⟨hc, rfl⟩ := getElem?_of_drop hrest
    exact ⟨p, c, h, hc, hstart, hscan⟩
  | case3 p c rest hstart l hscan stop e' hothers ih =>
    cases herror
    obtain ⟨hc, rfl⟩ := getElem?_of_drop hrest
    exact ih (h.token hc hstart hscan) List.drop_drop.symm hothers
  | case4 p c rest hstart l hscan stop others hothers ih => cases herror
  | case5 p c rest hstart ih =>
    obtain ⟨hc, hdrop⟩ := getElem?_of_drop hrest
    exact ih (h.skip hc (Bool.eq_false_iff.mpr hstart)) hdrop herror

/-- **The lexer fails as the scan of the first token that cannot be completed.** -/
lemma lex_eq_error_iff {query : String} {e : Error} :
    lex query = .error e ↔
      ∃ p c, Reached query.toList p ∧ query.toList[p]? = some c ∧ startsToken c = true ∧
        scan p c (query.toList.drop (p + 1)) = .error e := by
  constructor
  · exact exists_reached .start rfl
  · rintro ⟨p, c, hreached, hc, hstart, hscan⟩
    refine hreached.error_iff.mpr ?_
    rw [drop_of_getElem? hc, lexFrom, if_pos hstart, hscan]

/-! ### The kinds of tokens -/

/-- The tokens of a kind. There is none for a character that is not expected. -/
def Kind.Makes : Kind → Token → Prop
  | number, .number _ => True
  | text, .text _ => True
  | word, .identifier _ => True
  | word, .keyword _ => True
  | sign, .comparison _ => True
  | punctuation t, t' => t = t'
  | _, _ => False

lemma makes_of_scan {position : Nat} {c : Char} {rest : List Char} {l : Lexeme}
    (h : scan position c rest = .ok l) : (kindOf c).Makes l.token := by
  unfold scan scanNumber scanWord at h
  cases hkind : kindOf c with
  | number =>
    simp only [hkind] at h
    split at h <;> cases h
    trivial
  | word =>
    simp only [hkind] at h
    split at h <;> cases h
    dsimp only
    unfold ofWord
    split <;> trivial
  | unexpected =>
    simp only [hkind] at h
    cases h
  | _ =>
    simp only [hkind] at h
    cases h
    trivial

/-! ### Tokens that cannot be completed -/

lemma wordTail_cons_error {taken rest : List Char} {underscored : Bool} {c : Char} {n : Nat} :
    wordTail taken underscored (c :: rest) = .error n ↔
      c = '-' ∧ n = taken.length ∨ c ≠ '-' ∧ goesOn taken underscored c = true ∧
        wordTail (c :: taken) (underscored || c == '_') rest = .error n := by
  rw [wordTail_cons]
  by_cases hc : c = '-'
  · rw [if_pos hc, Except.error.injEq]
    simp only [hc, true_and, ne_eq, not_true_eq_false, false_and, or_false]
    exact eq_comm
  · cases hgo : goesOn taken underscored c with
    | false => simp [hc]
    | true =>
      cases wordTail (c :: taken) (underscored || c == '_') rest <;> simp [hc, Except.map]

lemma wordTail_append_hyphen {taken more : List Char} {underscored : Bool}
    (h : wordTail taken underscored more = .ok more) (behind : List Char) :
    wordTail taken underscored (more ++ '-' :: behind) = .error (taken.length + more.length) := by
  induction more generalizing taken underscored with
  | nil => rfl
  | cons c more ih =>
    obtain ⟨hc, ⟨hgo, more', hmore, hrest⟩ | ⟨-, hnil⟩⟩ := wordTail_cons_ok.mp h
    · obtain ⟨-, rfl⟩ := List.cons.inj hmore
      have hlength : taken.length + (c :: more).length = (c :: taken).length + more.length := by
        simp only [List.length_cons]
        omega
      rw [hlength]
      exact wordTail_cons_error.mpr (.inr ⟨hc, hgo, ih hrest⟩)
    · cases hnil

/-- A word fails only at a hyphen, behind characters that all go on with it. -/
lemma exists_hyphen_of_wordTail {taken rest : List Char} {underscored : Bool} {n : Nat}
    (h : wordTail taken underscored rest = .error n) :
    ∃ more behind, rest = more ++ '-' :: behind ∧ wordTail taken underscored more = .ok more ∧
      n = taken.length + more.length := by
  induction rest generalizing taken underscored with
  | nil => cases h
  | cons c rest ih =>
    obtain ⟨rfl, rfl⟩ | ⟨hc, hgo, hrest⟩ := wordTail_cons_error.mp h
    · exact ⟨[], rest, rfl, rfl, rfl⟩
    · obtain ⟨more, behind, rfl, hmore, rfl⟩ := ih hrest
      refine ⟨c :: more, behind, rfl, wordTail_cons_ok.mpr ⟨hc, .inl ⟨hgo, more, rfl, hmore⟩⟩, ?_⟩
      simp only [List.length_cons]
      omega

lemma scanNumber_eq_error_iff {position : Nat} {c : Char} {rest : List Char} {e : Error} :
    scanNumber position c rest = .error e ↔ e = .numberTooLarge position ∧
      Integer.greatest < Nat.ofDigitChars 10 (c :: rest.takeWhile Char.isDigit) 0 := by
  unfold scanNumber
  dsimp only
  split_ifs with hle
  · simp [hle]
  · simp [Int.not_le.mp hle, eq_comm]

lemma scanWord_eq_error_iff {position : Nat} {c : Char} {rest : List Char} {e : Error} :
    scanWord position c rest = .error e ↔ ∃ more behind, rest = more ++ '-' :: behind ∧
      wordTail [c] false more = .ok more ∧ e = .hyphen (position + 1 + more.length) := by
  unfold scanWord
  cases htail : wordTail [c] false rest with
  | ok more' =>
    simp only [reduceCtorEq, false_iff, not_exists]
    rintro more behind ⟨rfl, hmore, -⟩
    rw [wordTail_append_hyphen hmore behind] at htail
    cases htail
  | error before =>
    simp only [Except.error.injEq]
    constructor
    · rintro rfl
      obtain ⟨more, behind, hrest, hmore, rfl⟩ := exists_hyphen_of_wordTail htail
      exact ⟨more, behind, hrest, hmore, by simp [Nat.add_assoc]⟩
    · rintro ⟨more, behind, rfl, hmore, rfl⟩
      rw [wordTail_append_hyphen hmore behind] at htail
      cases htail
      simp [Nat.add_assoc]

lemma scan_eq_error_iff {position : Nat} {c : Char} {rest : List Char} {e : Error}
    (hstart : startsToken c = true) :
    scan position c rest = .error e ↔
      c.isDigit = true ∧ e = .numberTooLarge position ∧
          Integer.greatest < Nat.ofDigitChars 10 (c :: rest.takeWhile Char.isDigit) 0 ∨
        c.isAlpha = true ∧ ∃ more behind, rest = more ++ '-' :: behind ∧
          wordTail [c] false more = .ok more ∧ e = .hyphen (position + 1 + more.length) := by
  by_cases hdigit : c.isDigit = true
  · have hletter : c.isAlpha = false := by
      rw [Bool.eq_false_iff]
      intro halpha
      rw [isDigit_of_isAlpha halpha] at hdigit
      cases hdigit
    rw [scan, kindOf_of_isDigit hdigit]
    simp only [scanNumber_eq_error_iff, hdigit, hletter, true_and, Bool.false_eq_true, false_and,
      or_false]
  by_cases halpha : c.isAlpha = true
  · rw [scan, kindOf_of_isAlpha halpha]
    simp only [scanWord_eq_error_iff, hdigit, halpha, true_and, Bool.false_eq_true, false_and,
      false_or]
  · -- A token of another kind is always completed.
    simp only [hdigit, halpha, Bool.false_eq_true, false_and, or_self, iff_false]
    have hexpected := kindOf_of_startsToken hstart
    intro h
    unfold scan at h
    cases hkind : kindOf c with
    | number => exact hdigit (starts_of_kindOf hkind)
    | word => exact halpha (starts_of_kindOf hkind)
    | unexpected => exact hexpected hkind
    | _ =>
      rw [hkind] at h
      cases h

/-! ### The two errors -/

/-- The character at the place is a hyphen, and it stands directly behind the characters of a word
that is being scanned, the first of them a letter. -/
def HyphenAt (cs : List Char) (p : Nat) : Prop :=
  cs[p]? = some '-' ∧ ∃ start < p, Reached cs start ∧ IsWord ((cs.take p).drop start)

/-- A run of digits starts at the place, and the number it denotes is above the largest integer. -/
def ExcessAt (cs : List Char) (p : Nat) : Prop :=
  (∃ c, cs[p]? = some c ∧ c.isDigit = true) ∧ Reached cs p ∧
    Integer.greatest < Nat.ofDigitChars 10 ((cs.drop p).takeWhile Char.isDigit) 0

lemma startsToken_of_isDigit {c : Char} (h : c.isDigit = true) : startsToken c = true := by
  simp [startsToken, h]

lemma startsToken_of_isAlpha {c : Char} (h : c.isAlpha = true) : startsToken c = true := by
  simp [startsToken, h]

variable {query : String} {p : Nat}

lemma lex_eq_numberTooLarge_iff :
    lex query = .error (.numberTooLarge p) ↔ ExcessAt query.toList p := by
  rw [lex_eq_error_iff]
  constructor
  · rintro ⟨p', c, hreached, hc, hstart, hscan⟩
    obtain ⟨hdigit, heq, hlt⟩ | ⟨-, more, behind, -, -, heq⟩ :=
      (scan_eq_error_iff hstart).mp hscan
    · cases heq
      refine ⟨⟨c, hc, hdigit⟩, hreached, ?_⟩
      rwa [drop_of_getElem? hc, List.takeWhile_cons, if_pos hdigit]
    · cases heq
  · rintro ⟨⟨c, hc, hdigit⟩, hreached, hlt⟩
    rw [drop_of_getElem? hc, List.takeWhile_cons, if_pos hdigit] at hlt
    have hstart := startsToken_of_isDigit hdigit
    exact ⟨p, c, hreached, hc, hstart,
      (scan_eq_error_iff hstart).mpr (.inl ⟨hdigit, rfl, hlt⟩)⟩

lemma lex_eq_hyphen_iff : lex query = .error (.hyphen p) ↔ HyphenAt query.toList p := by
  rw [lex_eq_error_iff]
  constructor
  · rintro ⟨start, c, hreached, hc, hstart, hscan⟩
    obtain ⟨-, heq, -⟩ | ⟨halpha, more, behind, hrest, hmore, heq⟩ :=
      (scan_eq_error_iff hstart).mp hscan
    · cases heq
    · cases heq
      have hdrop : query.toList.drop start = (c :: more) ++ '-' :: behind := by
        rw [drop_of_getElem? hc, hrest]
        rfl
      have hplace : start + 1 + more.length = start + (c :: more).length := by
        simp only [List.length_cons]
        omega
      rw [hplace]
      refine ⟨?_, start, by simp, hreached, ?_⟩
      · rw [← List.head?_drop, ← List.drop_drop, hdrop, List.drop_left]
        rfl
      · rw [List.drop_take, hdrop, Nat.add_sub_cancel_left, List.take_left]
        exact ⟨halpha, hmore⟩
  · rintro ⟨hhyphen, start, hlt, hreached, hword⟩
    have hle : p ≤ query.toList.length := (List.getElem?_eq_some_iff.mp hhyphen).1.le
    have hlength : ((query.toList.take p).drop start).length = p - start := by
      rw [List.length_drop, List.length_take_of_le hle]
    have hdrop : query.toList.drop start =
        (query.toList.take p).drop start ++ '-' :: query.toList.drop (p + 1) := by
      rw [← drop_of_getElem? hhyphen, ← List.drop_append_of_le_length, List.take_append_drop]
      rw [List.length_take_of_le hle]
      exact hlt.le
    cases htaken : (query.toList.take p).drop start with
    | nil =>
      rw [htaken] at hword
      exact hword.elim
    | cons c more =>
      rw [htaken] at hword hlength hdrop
      obtain ⟨halpha, hmore⟩ := hword
      obtain ⟨hc, hrest⟩ := getElem?_of_drop hdrop
      have hplace : start + 1 + more.length = p := by
        simp only [List.length_cons] at hlength
        omega
      have hstart := startsToken_of_isAlpha halpha
      refine ⟨start, c, hreached, hc, hstart, (scan_eq_error_iff hstart).mpr ?_⟩
      exact .inr ⟨halpha, more, _, hrest, hmore, by rw [hplace]⟩

lemma eq_hyphen_or_numberTooLarge_of_lex {e : Error} (h : lex query = .error e) :
    ∃ p, e = .hyphen p ∨ e = .numberTooLarge p := by
  obtain ⟨p, c, -, -, hstart, hscan⟩ := lex_eq_error_iff.mp h
  obtain ⟨-, rfl, -⟩ | ⟨-, more, -, -, -, rfl⟩ := (scan_eq_error_iff hstart).mp hscan
  · exact ⟨p, .inr rfl⟩
  · exact ⟨p + 1 + more.length, .inl rfl⟩

lemma place_unique {p' : Nat} (h : HyphenAt query.toList p ∨ ExcessAt query.toList p)
    (h' : HyphenAt query.toList p' ∨ ExcessAt query.toList p') : p = p' := by
  rw [← lex_eq_hyphen_iff, ← lex_eq_numberTooLarge_iff] at h h'
  rcases h with h | h
  · rcases h' with h' | h'
    · exact Error.hyphen.inj (Except.error.inj (h.symm.trans h'))
    · cases h.symm.trans h'
  · rcases h' with h' | h'
    · cases h.symm.trans h'
    · exact Error.numberTooLarge.inj (Except.error.inj (h.symm.trans h'))

lemma lt_length_of_place (h : HyphenAt query.toList p ∨ ExcessAt query.toList p) :
    p < query.length := by
  rw [← String.length_toList]
  obtain ⟨hc, -⟩ | ⟨⟨c, hc, -⟩, -⟩ := h
  · exact (List.getElem?_eq_some_iff.mp hc).1
  · exact (List.getElem?_eq_some_iff.mp hc).1

/-- **Lexical errors are exactly two.** Lexing fails at a hyphen that stands behind a character of
a word, and at a number above the largest integer, and nowhere else; the place is one of the
query, and the scan comes to no such place in front of it. Wherever the scan looks for a token,
the character there decides of which kind it is, so that there is no unexpected one. -/
theorem lex_faults (query : String) :
    (∀ e, lex query = .error e ↔ ∃ p, e = .hyphen p ∧ HyphenAt query.toList p ∨
      e = .numberTooLarge p ∧ ExcessAt query.toList p) ∧
    (∀ p, HyphenAt query.toList p ∨ ExcessAt query.toList p →
      p < query.length ∧ ∀ p', HyphenAt query.toList p' ∨ ExcessAt query.toList p' → p ≤ p') ∧
    ∀ p c, Reached query.toList p → query.toList[p]? = some c → startsToken c = true →
      kindOf c ≠ .unexpected ∧
        ∀ l, scan p c (query.toList.drop (p + 1)) = .ok l → (kindOf c).Makes l.token := by
  refine ⟨fun e => ⟨fun h => ?_, ?_⟩, fun p h => ?_, fun p c _ _ hstart => ?_⟩
  · obtain ⟨p, rfl | rfl⟩ := eq_hyphen_or_numberTooLarge_of_lex h
    · exact ⟨p, .inl ⟨rfl, lex_eq_hyphen_iff.mp h⟩⟩
    · exact ⟨p, .inr ⟨rfl, lex_eq_numberTooLarge_iff.mp h⟩⟩
  · rintro ⟨p, ⟨rfl, hp⟩ | ⟨rfl, hp⟩⟩
    · exact lex_eq_hyphen_iff.mpr hp
    · exact lex_eq_numberTooLarge_iff.mpr hp
  · exact ⟨lt_length_of_place h, fun p' h' => (place_unique h h').le⟩
  · exact ⟨kindOf_of_startsToken hstart, fun l hl => makes_of_scan hl⟩

/-- A query in which a word takes the space behind it and then meets a hyphen. -/
def hyphenated : String := "x=-007 ORDER -1"

theorem lex_faults_hyphenated :
    lex hyphenated = .error (.hyphen 13) ∧ HyphenAt hyphenated.toList 13 ∧
    (∀ p, HyphenAt hyphenated.toList p ∨ ExcessAt hyphenated.toList p → 13 ≤ p) ∧
    Reached hyphenated.toList 1 ∧ startsToken '=' = true ∧ kindOf '=' ≠ .unexpected := by
  have hlex : lex hyphenated = .error (.hyphen 13) := by decide +kernel
  have hreached : Reached hyphenated.toList 1 :=
    .token (l := ⟨.identifier "x", 0⟩) .start rfl rfl rfl
  obtain ⟨herrors, hplaces, hkinds⟩ := lex_faults hyphenated
  obtain ⟨p, ⟨heq, hp⟩ | ⟨heq, -⟩⟩ := (herrors _).mp hlex
  · cases heq
    obtain ⟨-, hfirst⟩ := hplaces 13 (.inl hp)
    obtain ⟨hkind, -⟩ := hkinds 1 '=' hreached rfl rfl
    exact ⟨hlex, hp, hfirst, hreached, rfl, hkind⟩
  · cases heq

end CsvQuery.Token
