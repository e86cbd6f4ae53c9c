import CsvQuery.Proofs.Token.Tiling

/-!
Pieces of a query. A separator ends every token in front of it but the open ones: a text without its
second quote and the words that run on over the next character. So what follows a separator is lexed
on its own, and only its place in the query is another one.
-/

namespace CsvQuery

namespace Error

/-- The error with a lexical or syntax position moved to the right. -/
def shift (n : Nat) : Error → Error
  | unexpectedCharacter position c => unexpectedCharacter (n + position) c
  | hyphen position => hyphen (n + position)
  | numberTooLarge position => numberTooLarge (n + position)
  | unexpected position wanted found => unexpected (n + position) wanted found
  | e => e

end Error

/-- The token, moved to the right. -/
def Located.shift (n : Nat) (t : Located) : Located :=
  ⟨t.token, n + t.start, n + t.stop⟩

namespace Token

/-! ### One token -/

lemma takeWhile_append_separated {p : Char → Bool} (hp : ∀ c, isSeparator c = true → p c = false)
    (rest : List Char) {tail : List Char} (ht : Separated tail) :
    (rest ++ tail).takeWhile p = rest.takeWhile p := by
  obtain ⟨c, tail, rfl, hc⟩ := ht
  induction rest with
  | nil => simp [hp c hc]
  | cons c' rest ih => rw [List.cons_append, List.takeWhile_cons, List.takeWhile_cons, ih]

lemma isDigit_separator {c : Char} (h : isSeparator c = true) : c.isDigit = false := by
  rcases isSeparator_cases h with rfl | rfl | rfl | rfl <;> rfl

lemma isSign_separator {c : Char} (h : isSeparator c = true) : isSign c = false := by
  rcases isSeparator_cases h with rfl | rfl | rfl | rfl <;> rfl

/-- The token would take the character behind it: it is a text without its second quote or one of
the words that run on. -/
def IsOpen (t : Located) : Prop :=
  match t.token with
  | text content => t.stop = t.start + 1 + content.length
  | identifier name => RunsOn name
  | _ => False

lemma ofWord_of_runsOn {name : String} (h : RunsOn name) : ofWord name = identifier name := by
  have hall : ∀ name ∈ ["ORDER", "GROUP", "LEFT", "RIGHT"], Keyword.ofText? name = none := by
    decide
  rw [ofWord, hall name h]

lemma scan_append {position : Nat} {c : Char} {rest tail : List Char} (ht : Separated tail)
    (hopen : ∀ l, scan position c rest = .ok l → l.more = rest.length →
      ¬IsOpen ⟨l.token, position, position + 1 + l.more⟩) :
    scan position c (rest ++ tail) = scan position c rest := by
  unfold scan at hopen ⊢
  cases hkind : kindOf c with
  | number =>
    simp only [scanNumber, takeWhile_append_separated (fun _ => isDigit_separator) rest ht]
  | text =>
    simp only [hkind] at hopen ⊢
    have hle := (List.takeWhile_prefix (· != '\'') (l := rest)).length_le
    -- The second quote is in front of the separator, or the text would be open.
    have hclosed : (rest.takeWhile (· != '\'')).length ≠ rest.length := by
      intro hlength
      have hmin : min ((rest.takeWhile (· != '\'')).length + 1) rest.length = rest.length := by
        omega
      refine hopen _ rfl hmin ?_
      simp [IsOpen, scanText, hlength]
    have hmin : min ((rest.takeWhile (· != '\'')).length + 1) (rest ++ tail).length =
        min ((rest.takeWhile (· != '\'')).length + 1) rest.length := by
      rw [List.length_append]
      omega
    simp only [scanText, List.takeWhile_append, if_neg hclosed, hmin]
  | word =>
    simp only [hkind, scanWord] at hopen ⊢
    rw [wordTail_append ht]
    intro hmore
    rw [hmore] at hopen
    have hnot := hopen _ rfl rfl
    rw [Bool.eq_false_iff]
    intro hcontains
    have hruns : RunsOn (String.ofList (c :: rest)) := by
      refine contains_pairOpeners.mp ?_
      rwa [String.toList_ofList, List.reverse_cons]
    rw [ofWord_of_runsOn hruns] at hnot
    exact hnot hruns
  | sign => simp only [scanSign, takeWhile_append_separated (fun _ => isSign_separator) rest ht]
  | punctuation t => rfl
  | unexpected => rfl

lemma length_ne_of_wordTail {taken rest tail more : List Char} {underscored : Bool} {c : Char}
    (hopen : pairOpeners.contains (rest.reverse ++ taken) = true)
    (h : wordTail taken underscored (rest ++ c :: tail) = .ok more) :
    more.length ≠ rest.length := by
  induction rest generalizing taken underscored more with
  | nil =>
    obtain ⟨-, ⟨-, more, rfl, -⟩ | ⟨hgo, -⟩⟩ := wordTail_cons_ok.mp h
    · simp
    · rw [List.reverse_nil, List.nil_append] at hopen
      rw [goesOn, hopen] at hgo
      cases hgo
  | cons c' rest ih =>
    obtain ⟨-, ⟨-, more, rfl, hrest⟩ | ⟨-, rfl⟩⟩ := wordTail_cons_ok.mp h
    · have hlength := ih (by simpa using hopen) hrest
      simpa using hlength
    · simp

lemma takeWhile_quote_append_ne {rest tail : List Char} (ht : Separated tail)
    (hlength : (rest.takeWhile (· != '\'')).length = rest.length) :
    (rest ++ tail).takeWhile (· != '\'') ≠ rest.takeWhile (· != '\'') := by
  obtain ⟨c, tail, rfl, hc⟩ := ht
  have hquote : (c != '\'') = true := by
    rcases isSeparator_cases hc with rfl | rfl | rfl | rfl <;> rfl
  intro hsame
  rw [List.takeWhile_append, if_pos hlength, List.takeWhile_cons, if_pos hquote] at hsame
  have hlengths := congrArg List.length hsame
  simp only [List.length_append, List.length_cons, hlength] at hlengths
  omega

lemma runsOn_of_isOpen_ofWord {name : String} {start stop : Nat}
    (h : IsOpen ⟨ofWord name, start, stop⟩) : RunsOn name := by
  unfold ofWord at h
  split at h
  · exact h.elim
  · exact h

lemma scan_append_ne {position : Nat} {c : Char} {rest tail : List Char} {l : Lexeme}
    (ht : Separated tail) (hscan : scan position c rest = .ok l) (hall : l.more = rest.length)
    (hopen : IsOpen ⟨l.token, position, position + 1 + l.more⟩) :
    scan position c (rest ++ tail) ≠ .ok l := by
  unfold scan scanNumber at hscan
  unfold scan
  split at hscan
  · dsimp only at hscan
    split at hscan
    · cases hscan
      exact hopen.elim
    · cases hscan
  · cases hscan
    have hlength : (rest.takeWhile (· != '\'')).length = rest.length := by
      simp only [IsOpen, scanText, String.length_ofList] at hopen hall
      omega
    intro h
    have htext := Token.text.inj (congrArg Lexeme.token (Except.ok.inj h))
    refine takeWhile_quote_append_ne ht hlength ?_
    rw [← String.toList_ofList (l := rest.takeWhile _), ← htext, String.toList_ofList]
  · simp only [scanWord] at hscan ⊢
    split at hscan
    · rename_i more hmore
      cases hscan
      obtain rfl := (prefix_of_wordTail hmore).eq_of_length hall
      have hruns := contains_pairOpeners.mpr (runsOn_of_isOpen_ofWord hopen)
      rw [String.toList_ofList, List.reverse_cons] at hruns
      intro h
      split at h
      · rename_i more' hmore'
        obtain ⟨sep, tail, rfl, -⟩ := ht
        exact length_ne_of_wordTail hruns hmore' (congrArg Lexeme.more (Except.ok.inj h))
      · cases h
    · cases hscan
  · cases hscan
    exact hopen.elim
  · rename_i t hkind
    cases hscan
    have ht : ofPunctuation? c = some t := starts_of_kindOf hkind
    unfold ofPunctuation? at ht
    split at ht <;> cases ht <;> exact hopen.elim
  · cases hscan

/-! ### Pieces -/

/-- The last token but the end of the query is open and ends at the position. -/
def EndsOpen (stop : Nat) (tokens : List Located) : Prop :=
  ∃ t, tokens.dropLast.getLast? = some t ∧ t.stop = stop ∧ IsOpen t

lemma EndsOpen.cons {stop : Nat} {t : Located} {tokens : List Located} (h : EndsOpen stop tokens) :
    EndsOpen stop (t :: tokens) := by
  obtain ⟨last, hlast, hstop, hopen⟩ := h
  have hne : tokens ≠ [] := by
    rintro rfl
    cases hlast
  refine ⟨last, ?_, hstop, hopen⟩
  rw [List.dropLast_cons_of_ne_nil hne, List.getLast?_cons, hlast]
  rfl

lemma EndsOpen.of_cons {stop : Nat} {t : Located} {tokens : List Located}
    (h : EndsOpen stop (t :: tokens)) (hne : tokens ≠ []) :
    t.stop = stop ∧ IsOpen t ∨ EndsOpen stop tokens := by
  obtain ⟨last, hlast, hstop, hopen⟩ := h
  rw [List.dropLast_cons_of_ne_nil hne, List.getLast?_cons] at hlast
  cases hrest : tokens.dropLast.getLast? with
  | none =>
    rw [hrest] at hlast
    cases hlast
    exact .inl ⟨hstop, hopen⟩
  | some last' =>
    rw [hrest] at hlast
    cases hlast
    exact .inr ⟨last', hrest, hstop, hopen⟩

lemma ne_nil_of_lexFrom {position : Nat} {cs : List Char} {tokens : List Located}
    (h : lexFrom position cs = .ok tokens) : tokens ≠ [] := by
  obtain ⟨before, last, rfl, -⟩ := lexFrom_closed h
  simp

lemma split_of_scan {position : Nat} {c : Char} {rest : List Char} {l : Lexeme}
    (hscan : scan position c rest = .ok l) :
    ∃ more behind, rest = more ++ behind ∧ l.more = more.length ∧
      (∀ cs, (more ++ cs).drop l.more = cs) ∧
      position + 1 + l.more + behind.length = position + (c :: rest).length := by
  obtain ⟨more, behind, rfl, hmore, -⟩ := spelledBy_scan hscan
  refine ⟨more, behind, rfl, hmore.symm, fun cs => ?_, ?_⟩
  · rw [← hmore, List.drop_left]
  · simp only [List.length_cons, List.length_append, hmore]
    omega

/-- What follows a piece is lexed behind its tokens, unless the piece ends with an open one. -/
def Composes (position : Nat) (cs tail : List Char) : Prop :=
  (∀ tokens, lexFrom position cs = .ok tokens → ¬EndsOpen (position + cs.length) tokens) →
    lexFrom position (cs ++ tail) = (lexFrom position cs).bind fun tokens =>
      (lexFrom (position + cs.length) tail).map (tokens.dropLast ++ ·)

lemma composes_of_scan {position : Nat} {c : Char} {rest tail : List Char} {l : Lexeme}
    (ht : Separated tail) (hstart : startsToken c = true) (hscan : scan position c rest = .ok l)
    (hrest : Composes (position + 1 + l.more) (rest.drop l.more) tail) :
    Composes position (c :: rest) tail := by
  intro hopen
  have hpiece := lexFrom_of_scan hstart hscan
  obtain ⟨more, behind, rfl, hmore, hdrop, hstop⟩ := split_of_scan hscan
  rw [hdrop] at hpiece hrest
  have hscan' : scan position c (more ++ behind ++ tail) = .ok l := by
    rw [← hscan]
    refine scan_append ht fun l' hl' hall hisOpen => ?_
    cases hl'.symm.trans hscan
    -- The piece is this one token.
    obtain rfl : behind = [] := by
      rw [List.length_append, hmore] at hall
      exact List.length_eq_zero_iff.mp (by omega)
    rw [lexFrom_nil] at hpiece
    exact hopen _ hpiece ⟨_, rfl, hstop, hisOpen⟩
  have hwhole := lexFrom_of_scan hstart hscan'
  rw [List.append_assoc, hdrop, hrest, hstop] at hwhole
  · rw [List.cons_append, List.append_assoc, hwhole, hpiece]
    cases hbehind : lexFrom (position + 1 + l.more) behind with
    | error e => rfl
    | ok others =>
      have hne := ne_nil_of_lexFrom hbehind
      simp only [Except.bind, Except.map, List.dropLast_cons_of_ne_nil hne]
      cases lexFrom (position + (c :: (more ++ behind)).length) tail <;> rfl
  · intro others hothers hends
    rw [hothers] at hpiece
    rw [hstop] at hends
    exact hopen _ hpiece hends.cons

lemma scan_of_lexFrom {position : Nat} {c : Char} {rest : List Char} {t : Located}
    {tokens : List Located} (hstart : startsToken c = true)
    (h : lexFrom position (c :: rest) = .ok (t :: tokens)) :
    ∃ l, scan position c rest = .ok l ∧ t = ⟨l.token, position, position + 1 + l.more⟩ ∧
      lexFrom (position + 1 + l.more) (rest.drop l.more) = .ok tokens := by
  cases hscan : scan position c rest with
  | error e =>
    rw [lexFrom, if_pos hstart, hscan] at h
    cases h
  | ok l =>
    rw [lexFrom_of_scan hstart hscan] at h
    cases hrest : lexFrom (position + 1 + l.more) (rest.drop l.more) with
    | error e =>
      rw [hrest] at h
      cases h
    | ok others =>
      rw [hrest] at h
      cases h
      exact ⟨l, rfl, rfl, hrest⟩

lemma lexFrom_append_ne {tail : List Char} (ht : Separated tail) {position : Nat} {cs : List Char}
    {tokens : List Located} (h : lexFrom position cs = .ok tokens)
    (hends : EndsOpen (position + cs.length) tokens) (others : List Located) :
    lexFrom position (cs ++ tail) ≠ .ok (tokens.dropLast ++ others) := by
  induction position, cs using lexFrom.induct generalizing tokens with
  | case1 position =>
    rw [lexFrom_nil] at h
    cases h
    obtain ⟨t, hlast, -⟩ := hends
    cases hlast
  | case2 position c rest hstart e hscan =>
    rw [lexFrom, if_pos hstart, hscan] at h
    cases h
  | case3 position c rest hstart l hscan _ e hrest =>
    rw [lexFrom_of_scan hstart hscan, hrest] at h
    cases h
  | case4 position c rest hstart l hscan _ behind hrest =>
    rename_i ih
    rw [lexFrom_of_scan hstart hscan, hrest] at h
    cases h
    have hne := ne_nil_of_lexFrom hrest
    dsimp only at hends ⊢
    rw [List.dropLast_cons_of_ne_nil hne, List.cons_append, List.cons_append]
    intro hwhole
    obtain ⟨l', hscan', hfirst, hothers⟩ := scan_of_lexFrom hstart hwhole
    obtain rfl : l = l' := by
      obtain ⟨token, more'⟩ := l'
      simp only [Located.mk.injEq] at hfirst
      obtain ⟨rfl, -, hmore'⟩ := hfirst
      obtain rfl : l.more = more' := by omega
      rfl
    obtain ⟨more, front, rfl, hmore, hdrop, hstop⟩ := split_of_scan hscan
    rcases hends.of_cons hne with ⟨hlast, hopen⟩ | hends
    · have hall : l.more = (more ++ front).length := by
        rw [List.length_append]
        simp only at hlast
        omega
      exact scan_append_ne ht hscan hall hopen hscan'
    · rw [List.append_assoc, hdrop] at hothers
      rw [hdrop] at ih hrest
      rw [← hstop] at hends
      exact ih hrest hends hothers
  | case5 position c rest hstart ih =>
    have hskip := lexFrom_of_not_startsToken position (Bool.eq_false_iff.mpr hstart)
    have hstop : position + 1 + rest.length = position + (c :: rest).length :=
      Nat.succ_add_eq_add_succ position rest.length
    rw [hskip] at h
    rw [List.cons_append, hskip]
    rw [← hstop] at hends
    exact ih h hends

/-- **Two pieces.** A separator ends every piece. -/
lemma composes {tail : List Char} (ht : Separated tail) (position : Nat) (cs : List Char) :
    Composes position cs tail := by
  induction position, cs using lexFrom.induct with
  | case1 position =>
    intro _
    rw [lexFrom_nil, List.nil_append]
    cases lexFrom position tail <;> simp [Except.bind, Except.map]
  | case2 position c rest hstart e hscan =>
    intro _
    have hscan' : scan position c (rest ++ tail) = .error e := by
      rw [← hscan]
      refine scan_append ht fun l hl => ?_
      cases hl.symm.trans hscan
    rw [List.cons_append, lexFrom, lexFrom, if_pos hstart, if_pos hstart, hscan, hscan']
    rfl
  | case3 position c rest hstart l hscan _ e hrest ih => exact composes_of_scan ht hstart hscan ih
  | case4 position c rest hstart l hscan _ others hrest ih =>
    exact composes_of_scan ht hstart hscan ih
  | case5 position c rest hstart ih =>
    have hskip := lexFrom_of_not_startsToken position (Bool.eq_false_iff.mpr hstart)
    have hstop : position + 1 + rest.length = position + (c :: rest).length :=
      Nat.succ_add_eq_add_succ position rest.length
    unfold Composes at ih ⊢
    rw [List.cons_append, hskip, hskip, ← hstop]
    exact ih

lemma lexFrom_separators {w : List Char} (hw : ∀ c ∈ w, isSeparator c = true) (position : Nat)
    (cs : List Char) : lexFrom position (w ++ cs) = lexFrom (position + w.length) cs := by
  induction w generalizing position with
  | nil => rfl
  | cons c w ih =>
    obtain ⟨hc, hw⟩ := List.forall_mem_cons.mp hw
    have hlength : position + 1 + w.length = position + (c :: w).length :=
      Nat.succ_add_eq_add_succ position w.length
    rw [List.cons_append, lexFrom_of_not_startsToken position (startsToken_separator hc), ih hw,
      hlength]

/-! ### Positions -/

lemma scan_shift (n position : Nat) (c : Char) (rest : List Char) :
    scan (n + position) c rest = (scan position c rest).mapError (·.shift n) := by
  unfold scan
  cases kindOf c with
  | number =>
    dsimp only [scanNumber]
    split <;> rfl
  | word =>
    dsimp only [scanWord]
    split
    · rfl
    · rw [Nat.add_assoc]
      rfl
  | _ => rfl

/-- The tokens and the error position of a lexed piece, moved to the right. -/
def shifted (n : Nat) (outcome : Except Error (List Located)) : Except Error (List Located) :=
  (outcome.mapError (·.shift n)).map (List.map (·.shift n))

lemma lexFrom_shift_of_scan {n position : Nat} {c : Char} {rest : List Char} {l : Lexeme}
    (hstart : startsToken c = true) (hscan : scan position c rest = .ok l)
    (hrest : lexFrom (n + (position + 1 + l.more)) (rest.drop l.more) =
      shifted n (lexFrom (position + 1 + l.more) (rest.drop l.more))) :
    lexFrom (n + position) (c :: rest) = shifted n (lexFrom position (c :: rest)) := by
  have hscan' : scan (n + position) c rest = .ok l := by
    rw [scan_shift, hscan]
    rfl
  have hstop : n + position + 1 + l.more = n + (position + 1 + l.more) := by omega
  rw [lexFrom_of_scan hstart hscan, lexFrom_of_scan hstart hscan', hstop, hrest]
  cases lexFrom (position + 1 + l.more) (rest.drop l.more) <;> rfl

/-- **Positions.** A piece further to the right has the same tokens there, or the same error. -/
lemma lexFrom_shift (n position : Nat) (cs : List Char) :
    lexFrom (n + position) cs = shifted n (lexFrom position cs) := by
  induction position, cs using lexFrom.induct with
  | case1 position =>
    rw [lexFrom_nil, lexFrom_nil]
    rfl
  | case2 position c rest hstart e hscan =>
    rw [lexFrom, lexFrom, if_pos hstart, if_pos hstart, scan_shift, hscan]
    rfl
  | case3 position c rest hstart l hscan _ e hrest ih => exact lexFrom_shift_of_scan hstart hscan ih
  | case4 position c rest hstart l hscan _ others hrest ih =>
    exact lexFrom_shift_of_scan hstart hscan ih
  | case5 position c rest hstart ih =>
    have hfalse := Bool.eq_false_iff.mpr hstart
    rw [lexFrom_of_not_startsToken _ hfalse, lexFrom_of_not_startsToken _ hfalse, Nat.add_assoc, ih]

end Token

end CsvQuery
