import CsvQuery.Proofs.Token.Spelling

/-!
Lexing loses nothing. The tokens of a query stand in it one behind the other, each on the characters
that spell it, and what lies between them are characters that can start no token. The answer of the
lexer is described as such a tiling first; where the tokens stand is then read off the tiling.
-/

namespace CsvQuery

def Located.chars (t : Located) (query : List Char) : List Char :=
  (query.take t.stop).drop t.start

namespace Token

/-! ### What spells a token -/

/-- The run of operator characters means the comparison: each comparison but equality is meant by
its own sign only, and every other run means equality. -/
def Means (run : List Char) (c : Comparison) : Prop :=
  ∀ other ≠ Comparison.equal, c = other ↔ run = other.sign.toList

/-- The characters spell the token where the characters `behind` follow them. Numbers and runs of
operator characters go on as far as they can, and a text lacks its second quote only at the end of
the query. -/
def SpelledBy (cs behind : List Char) : Token → Prop
  | identifier name => cs = name.toList ∧ Keyword.ofText? name = none
  | keyword word => cs = word.spelling.toList
  | number value =>
    (∀ c ∈ cs, c.isDigit = true) ∧ (∀ c ∈ behind.head?, c.isDigit = false) ∧
      value = Nat.ofDigitChars 10 cs 0 ∧ 0 ≤ value ∧ value ≤ Integer.greatest
  | text content =>
    '\'' ∉ content.toList ∧
      (cs = '\'' :: content.toList ++ ['\''] ∨ cs = '\'' :: content.toList ∧ behind = [])
  | comparison c =>
    (∀ c ∈ cs, isSign c = true) ∧ (∀ c ∈ behind.head?, isSign c = false) ∧ Means cs c
  | comma => cs = [',']
  | dot => cs = ['.']
  | star => cs = ['*']
  | openParen => cs = ['(']
  | closeParen => cs = [')']
  | eof => False

lemma means_ofRun (run : List Char) : Means run (Comparison.ofRun run) := by
  intro other hother
  unfold Comparison.ofRun
  split
  all_goals cases other <;> simp_all [Comparison.sign]

lemma prefix_of_wordTail {taken rest more : List Char} {underscored : Bool}
    (h : wordTail taken underscored rest = .ok more) : more <+: rest := by
  induction rest generalizing taken underscored more with
  | nil =>
    cases h
    exact List.nil_prefix
  | cons c rest ih =>
    obtain ⟨-, ⟨-, more', rfl, hrest⟩ | ⟨-, rfl⟩⟩ := wordTail_cons_ok.mp h
    · exact List.cons_prefix_cons.mpr ⟨rfl, ih hrest⟩
    · exact List.nil_prefix

lemma spelledBy_ofWord (cs behind : List Char) :
    SpelledBy cs behind (ofWord (String.ofList cs)) := by
  unfold ofWord
  cases hword : Keyword.ofText? (String.ofList cs) with
  | none => exact ⟨String.toList_ofList.symm, hword⟩
  | some word =>
    have hfound := List.find?_some hword
    have hspelling : word.spelling = String.ofList cs := by simpa using hfound
    simp [SpelledBy, hspelling]

lemma spelledBy_punctuation {c : Char} {t : Token} (h : ofPunctuation? c = some t)
    (behind : List Char) : SpelledBy [c] behind t := by
  unfold ofPunctuation? at h
  split at h <;> cases h <;> rfl

lemma exists_run (p : Char → Bool) (rest : List Char) :
    ∃ behind, rest = rest.takeWhile p ++ behind ∧ (∀ c ∈ rest.takeWhile p, p c = true) ∧
      ∀ c ∈ behind.head?, p c = false := by
  refine ⟨rest.dropWhile p, List.takeWhile_append_dropWhile.symm,
    fun c hc => List.mem_takeWhile_imp hc, fun c hc => ?_⟩
  have hhead := List.head?_dropWhile_not p rest
  rw [Option.mem_def.mp hc] at hhead
  exact hhead

lemma spelledBy_text (rest : List Char) :
    ∃ more behind, rest = more ++ behind ∧
      more.length = min ((rest.takeWhile (· != '\'')).length + 1) rest.length ∧
      SpelledBy ('\'' :: more) behind (text (String.ofList (rest.takeWhile (· != '\'')))) := by
  obtain ⟨behind, hrest, hmore, hbehind⟩ := exists_run (· != '\'') rest
  have hnotMem : '\'' ∉ (String.ofList (rest.takeWhile (· != '\''))).toList := by
    rw [String.toList_ofList]
    intro hmem
    simpa using hmore _ hmem
  cases behind with
  | nil =>
    rw [List.append_nil] at hrest
    refine ⟨rest, [], (List.append_nil rest).symm, ?_, hnotMem, .inr ⟨?_, rfl⟩⟩
    · simp [← hrest]
    · rw [String.toList_ofList, ← hrest]
  | cons c behind =>
    obtain rfl : c = '\'' := by simpa using hbehind c rfl
    have hlength := congrArg List.length hrest
    rw [List.length_append, List.length_cons] at hlength
    refine ⟨rest.takeWhile (· != '\'') ++ ['\''], behind, ?_, ?_, hnotMem, .inl ?_⟩
    · rw [List.append_assoc]
      exact hrest
    · rw [List.length_append, List.length_singleton]
      omega
    · rw [String.toList_ofList]
      rfl

/-- **The characters of a lexeme spell its token.** -/
lemma spelledBy_scan {position : Nat} {c : Char} {rest : List Char} {l : Lexeme}
    (h : scan position c rest = .ok l) :
    ∃ more behind, rest = more ++ behind ∧ more.length = l.more ∧
      SpelledBy (c :: more) behind l.token := by
  unfold scan scanNumber scanWord at h
  split at h
  · rename_i hkind
    obtain ⟨behind, hrest, hmore, hbehind⟩ := exists_run Char.isDigit rest
    dsimp only at h
    split at h
    · rename_i hle
      cases h
      exact ⟨_, behind, hrest, rfl, List.forall_mem_cons.mpr ⟨starts_of_kindOf hkind, hmore⟩,
        hbehind, rfl, Int.natCast_nonneg _, hle⟩
    · cases h
  · rename_i hkind
    obtain rfl : c = '\'' := starts_of_kindOf hkind
    cases h
    exact spelledBy_text rest
  · split at h
    · rename_i more hmore
      cases h
      obtain ⟨behind, hrest⟩ := prefix_of_wordTail hmore
      exact ⟨more, behind, hrest.symm, rfl, spelledBy_ofWord _ _⟩
    · cases h
  · rename_i hkind
    cases h
    obtain ⟨behind, hrest, hmore, hbehind⟩ := exists_run isSign rest
    exact ⟨_, behind, hrest, rfl, List.forall_mem_cons.mpr ⟨starts_of_kindOf hkind, hmore⟩,
      hbehind, means_ofRun _⟩
  · rename_i t hkind
    cases h
    exact ⟨[], rest, rfl, rfl, spelledBy_punctuation (starts_of_kindOf hkind) rest⟩
  · cases h

/-! ### Tilings -/

/-- The tokens stand one behind the other on the characters from a position on, with characters that
can start no token between them, and the end of the query behind them. -/
inductive Tiles : Nat → List Char → List Located → Prop
  | done (position : Nat) : Tiles position [] [⟨eof, position, position⟩]
  | skip {position : Nat} {c : Char} {rest : List Char} {tokens : List Located}
    (hc : startsToken c = false) (h : Tiles (position + 1) rest tokens) :
    Tiles position (c :: rest) tokens
  | take {position : Nat} {c : Char} {more behind : List Char} {t : Token} {tokens : List Located}
    (ht : SpelledBy (c :: more) behind t)
    (h : Tiles (position + (c :: more).length) behind tokens) :
    Tiles position (c :: more ++ behind) (⟨t, position, position + (c :: more).length⟩ :: tokens)

/-- **The tokens of the lexer tile the query.** -/
lemma tiles_of_lexFrom {position : Nat} {cs : List Char} {tokens : List Located}
    (h : lexFrom position cs = .ok tokens) : Tiles position cs tokens := by
  fun_induction lexFrom position cs generalizing tokens with
  | case1 position =>
    cases h
    exact .done position
  | case2 position c rest hstart e hscan => cases h
  | case3 position c rest hstart l hscan _ e hrest => cases h
  | case4 position c rest hstart l hscan stop others hrest =>
    rename_i ih
    cases h
    obtain ⟨more, behind, rfl, hmore, ht⟩ := spelledBy_scan hscan
    have hstop : stop = position + (c :: more).length := by
      simp only [stop, List.length_cons, hmore]
      omega
    have hothers := ih hrest
    rw [← hmore, List.drop_left, hstop] at hothers
    rw [hstop]
    exact .take ht hothers
  | case5 position c rest hstart ih => exact .skip (by simpa using hstart) (ih h)

/-! ### Where the tokens stand -/

namespace Tiles

variable {position : Nat} {cs : List Char} {tokens : List Located}

lemma closed (h : Tiles position cs tokens) :
    ∃ before, tokens = before ++ [⟨eof, position + cs.length, position + cs.length⟩] ∧
      ∀ t ∈ before, t.token ≠ .eof := by
  induction h with
  | done position => exact ⟨[], rfl, by simp⟩
  | @skip position c rest tokens _ _ ih =>
    obtain ⟨before, rfl, hbefore⟩ := ih
    have hend : position + 1 + rest.length = position + (c :: rest).length := by
      rw [List.length_cons]
      omega
    exact ⟨before, by rw [hend], hbefore⟩
  | @take position c more behind t tokens ht _ ih =>
    obtain ⟨before, rfl, hbefore⟩ := ih
    have hend : position + (c :: more).length + behind.length =
        position + (c :: more ++ behind).length := by
      rw [List.length_append]
      omega
    have hne : t ≠ .eof := by
      rintro rfl
      exact ht
    exact ⟨_ :: before, by rw [hend]; rfl, List.forall_mem_cons.mpr ⟨hne, hbefore⟩⟩

lemma le_start (h : Tiles position cs tokens) : ∀ t ∈ tokens, position ≤ t.start := by
  induction h with
  | done position => simp
  | skip _ _ ih =>
    intro t ht
    have := ih t ht
    omega
  | take _ _ ih =>
    refine List.forall_mem_cons.mpr ⟨Nat.le_refl _, fun t ht => ?_⟩
    have := ih t ht
    omega

lemma pairwise (h : Tiles position cs tokens) :
    tokens.Pairwise fun t later => t.stop ≤ later.start := by
  induction h with
  | done position => exact List.pairwise_singleton _ _
  | skip _ _ ih => exact ih
  | take _ hrest ih => exact List.pairwise_cons.mpr ⟨hrest.le_start, ih⟩

lemma spelledBy (h : Tiles position cs tokens) {front : List Char}
    (hfront : front.length = position) :
    ∀ t ∈ tokens, t.token ≠ .eof → t.start < t.stop ∧ t.stop ≤ position + cs.length ∧
      SpelledBy (t.chars (front ++ cs)) ((front ++ cs).drop t.stop) t.token := by
  induction h generalizing front with
  | done position => simp
  | @skip position c rest tokens _ _ ih =>
    have hnext : (front ++ [c]).length = position + 1 := by simp [hfront]
    have hrest := ih hnext
    rw [List.append_assoc, List.singleton_append] at hrest
    intro t ht hne
    obtain ⟨hlt, hle, hspelled⟩ := hrest t ht hne
    refine ⟨hlt, ?_, hspelled⟩
    rw [List.length_cons]
    omega
  | @take position c more behind t tokens ht _ ih =>
    have hnext : (front ++ (c :: more)).length = position + (c :: more).length := by
      simp [hfront]
    have hrest := ih hnext
    rw [List.append_assoc] at hrest
    refine List.forall_mem_cons.mpr ⟨fun _ => ⟨?_, ?_, ?_⟩, fun t' ht' hne => ?_⟩
    · exact Nat.lt_add_of_pos_right (Nat.succ_pos _)
    · rw [List.length_append]
      exact Nat.add_le_add_left (Nat.le_add_right _ _) _
    · subst hfront
      have hchars : Located.chars ⟨t, front.length, front.length + (c :: more).length⟩
          (front ++ (c :: more ++ behind)) = c :: more := by
        unfold Located.chars
        dsimp only
        rw [← List.append_assoc, ← List.length_append, List.take_left, List.drop_left]
      have hbehind : (front ++ (c :: more ++ behind)).drop (front.length + (c :: more).length) =
          behind := by
        rw [← List.append_assoc, ← List.length_append, List.drop_left]
      rw [hchars, hbehind]
      exact ht
    · obtain ⟨hlt, hle, hspelled⟩ := hrest t' ht' hne
      refine ⟨hlt, ?_, hspelled⟩
      rw [List.length_append]
      omega

lemma startsToken_eq_false (h : Tiles position cs tokens) {i : Nat} {c : Char}
    (hc : cs[i]? = some c)
    (hout : ∀ t ∈ tokens, ¬(t.start ≤ position + i ∧ position + i < t.stop)) :
    startsToken c = false := by
  induction h generalizing i with
  | done position => simp at hc
  | @skip position c' rest tokens hc' _ ih =>
    cases i with
    | zero =>
      cases hc
      exact hc'
    | succ i =>
      refine ih (i := i) hc fun t ht => ?_
      have := hout t ht
      omega
  | @take position c' more behind t tokens _ _ ih =>
    have hbehind : (c' :: more).length ≤ i := by
      have := hout _ List.mem_cons_self
      simp only at this
      omega
    rw [List.getElem?_append_right hbehind] at hc
    refine ih hc fun t' ht' => ?_
    have := hout t' (List.mem_cons_of_mem _ ht')
    omega

end Tiles

lemma startsToken_eq_false_iff {c : Char} : startsToken c = false ↔
    c.isAlpha = false ∧ c.isDigit = false ∧
      c ∉ ['>', '<', '=', '!', '\'', ',', '.', '*', '(', ')'] := by
  have hpunctuation : (ofPunctuation? c).isSome = false ↔ c ∉ [',', '.', '*', '(', ')'] := by
    unfold ofPunctuation?
    split <;> simp_all
  unfold startsToken isSign
  simp only [Bool.or_eq_false_iff, hpunctuation]
  simp
  tauto

/-- **Lexing loses nothing.** The last token, and no other, is the end of the query, behind all of
its characters. Every other token stands on at least one character of the query, in front of those
that come later, and these characters spell it. A character on which no token stands is none that
could start one. -/
theorem lex_tiles {query : String} {tokens : List Located} (h : lex query = .ok tokens) :
    (∃ before, tokens = before ++ [⟨.eof, query.length, query.length⟩] ∧
      ∀ t ∈ before, t.token ≠ .eof) ∧
    tokens.Pairwise (fun t later => t.stop ≤ later.start) ∧
    (∀ t ∈ tokens, t.token ≠ .eof → t.start < t.stop ∧ t.stop ≤ query.length ∧
      SpelledBy (t.chars query.toList) (query.toList.drop t.stop) t.token) ∧
    ∀ i c, query.toList[i]? = some c → (∀ t ∈ tokens, ¬(t.start ≤ i ∧ i < t.stop)) →
      c.isAlpha = false ∧ c.isDigit = false ∧
        c ∉ ['>', '<', '=', '!', '\'', ',', '.', '*', '(', ')'] := by
  have htiles := tiles_of_lexFrom h
  have hclosed := htiles.closed
  have hspelled := htiles.spelledBy (List.length_nil : ([] : List Char).length = 0)
  rw [Nat.zero_add, String.length_toList] at hclosed hspelled
  refine ⟨hclosed, htiles.pairwise, hspelled, fun i c hc hout => ?_⟩
  refine startsToken_eq_false_iff.mp (htiles.startsToken_eq_false hc fun t ht => ?_)
  rw [Nat.zero_add]
  exact hout t ht

/-- A query in which a word takes a tab, a name holds an operator, a run of operator characters is
no sign, and a text is not closed. -/
def gaps : String := "LEFT\tJOIN é a_b=5;x !==007 - 'x y"

def gapsTokens : List Located :=
  [⟨.identifier "LEFT\tJOIN", 0, 9⟩, ⟨.identifier "a_b=5;x", 12, 19⟩, ⟨.comparison .equal, 20, 23⟩,
    ⟨.number 7, 23, 26⟩, ⟨.text "x y", 29, 33⟩, ⟨.eof, 33, 33⟩]

theorem lex_tiles_gaps :
    lex gaps = .ok gapsTokens ∧
    (∃ before, gapsTokens = before ++ [⟨.eof, 33, 33⟩]) ∧
    SpelledBy ['!', '=', '='] "007 - 'x y".toList (.comparison .equal) ∧
    ∀ i c, gaps.toList[i]? = some c → (∀ t ∈ gapsTokens, ¬(t.start ≤ i ∧ i < t.stop)) →
      c.isAlpha = false ∧ c.isDigit = false := by
  have hlex : lex gaps = .ok gapsTokens := by decide +kernel
  obtain ⟨⟨before, hbefore, -⟩, -, hspelled, hout⟩ := lex_tiles hlex
  refine ⟨hlex, ⟨before, hbefore⟩, ?_, fun i c hc ht => ?_⟩
  · obtain ⟨-, -, hsign⟩ := hspelled ⟨.comparison .equal, 20, 23⟩ (by decide) (by decide)
    exact hsign
  · obtain ⟨halpha, hdigit, -⟩ := hout i c hc ht
    exact ⟨halpha, hdigit⟩

end Token

end CsvQuery
