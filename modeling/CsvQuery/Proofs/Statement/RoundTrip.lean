import CsvQuery.Proofs.Statement.Complete
import CsvQuery.Proofs.Statement.Sound

/-!
Statements are read back from what is printed. A list of tokens is accepted exactly if it spells a
statement; the tokens of a statement spell it, and each of them but the direction of a sort key
comes from the query, so the lexer reads them as they were written.
-/

namespace CsvQuery.Statement

/-! ### Reading -/

lemma run_of_read {before : List Located} {last : Located} {st : Stage} {s : Statement}
    (hne : ∀ t ∈ before, t.token ≠ .eof) (hlast : last.token = .eof)
    (h : readFrom st (before ++ [last]) = .ok s) :
    ∃ st', st.run (before.map (·.token)) = some st' ∧ st'.finish? = some s := by
  induction before generalizing st with
  | nil =>
    rw [List.nil_append, readFrom_eof [] hlast] at h
    cases hfinish : st.finish? with
    | none => simp [hfinish] at h
    | some s' =>
      rw [hfinish] at h
      cases h
      exact ⟨st, rfl, hfinish⟩
  | cons t before ih =>
    have ht : t.token ≠ .eof := hne t (by simp)
    cases hnext : st.next? t.token with
    | none =>
      rw [List.cons_append, readFrom_error _ hnext (fun heof => absurd heof ht)] at h
      cases h
    | some mid =>
      simp only [List.cons_append, readFrom, hnext] at h
      obtain ⟨st', hrun, hfinish⟩ := ih (fun t ht => hne t (List.mem_cons_of_mem _ ht)) h
      exact ⟨st', by simp [hnext, hrun], hfinish⟩

/-- **The reader accepts exactly what the grammar spells.** -/
lemma read_eq_ok_iff {before : List Located} {last : Located} {s : Statement}
    (hne : ∀ t ∈ before, t.token ≠ .eof) (hlast : last.token = .eof)
    (hpos : ∀ n, .number n ∈ before.map (·.token) → 0 ≤ n) :
    read (before ++ [last]) = .ok s ↔ s.Spelled (before.map (·.token)) := by
  constructor
  · intro h
    obtain ⟨st, hrun, hfinish⟩ := run_of_read hne hlast h
    exact Stage.spelled_of_run hpos hrun hfinish
  · intro h
    obtain ⟨st, hrun, hfinish⟩ := Stage.run_of_spelled h
    rw [read, readFrom_run _ hrun, readFrom_eof [] hlast, hfinish]

/-! ### Printing -/

lemma mem_key {key : OrderKey} {part : List Token} {t : Token} (h : key.Spelled part)
    (ht : t ∈ key.tokens) : t ∈ part ∨ t = .keyword (.direction .ascending) := by
  cases h with
  | directed => exact .inl ht
  | ascending field => simpa [OrderKey.tokens] using ht

lemma mem_keys {key : OrderKey} {part : List Token} {orders : List OrderKey}
    {keys : List (List Token)} {t : Token} (hkey : key.Spelled part)
    (hkeys : List.Forall₂ OrderKey.Spelled orders keys)
    (ht : t ∈ [Token.comma].intercalate ((key :: orders).map (·.tokens))) :
    t ∈ [Token.comma].intercalate (part :: keys) ∨ t = .keyword (.direction .ascending) := by
  induction hkeys generalizing key part with
  | nil => simpa using mem_key hkey (by simpa using ht)
  | @cons key' part' orders keys hkey' _ ih =>
    simp only [List.map_cons, List.intercalate_cons_cons, List.mem_append] at ht ⊢
    rcases ht with (ht | ht) | ht
    · rcases mem_key hkey ht with h | h
      · exact .inl (.inl (.inl h))
      · exact .inr h
    · exact .inl (.inl (.inr ht))
    · rcases ih hkey' ht with h | h
      · exact .inl (.inr h)
      · exact .inr h

lemma mem_orderBy {orders : List OrderKey} {keys : List (List Token)} {t : Token}
    (hkeys : List.Forall₂ OrderKey.Spelled orders keys)
    (ht : t ∈ listClause .orderBy (orders.map (·.tokens))) :
    t ∈ listClause .orderBy keys ∨ t = .keyword (.direction .ascending) := by
  cases hkeys with
  | nil => exact .inl ht
  | cons hkey hrest =>
    simp only [listClause, List.map_cons, List.mem_cons] at ht ⊢
    rcases ht with ht | ht
    · exact .inl (.inl ht)
    · rcases mem_keys hkey hrest ht with h | h
      · exact .inl (.inr h)
      · exact .inr h

lemma mem_tokens {s : Statement} {ts : List Token} {t : Token} (h : s.Spelled ts)
    (ht : t ∈ s.tokens) : t ∈ ts ∨ t = .keyword (.direction .ascending) := by
  obtain ⟨-, keys, hkeys, rfl⟩ := h
  simp only [tokens, tokensWith, List.mem_append] at ht ⊢
  rcases ht with (((ht | ht) | ht) | ht) | ht
  · exact .inl (.inl (.inl (.inl (.inl ht))))
  · exact .inl (.inl (.inl (.inl (.inr ht))))
  · exact .inl (.inl (.inl (.inr ht)))
  · rcases mem_orderBy hkeys ht with h | h
    · exact .inl (.inl (.inr h))
    · exact .inr h
  · exact .inl (.inr ht)

lemma toList_text (s : Statement) :
    s.text.toList = [' '].intercalate (s.tokens.map (·.spelling.toList)) := by
  simp [text, String.toList_intercalate, Function.comp_def]

lemma ofQuery_text_of_writable {s : Statement} (hreg : s.Regular)
    (h : ∀ t ∈ s.tokens, t.Writable) : ofQuery s.text = .ok s := by
  obtain ⟨printed, hlex, hprinted⟩ := Token.lexFrom_spelling h 0
  rw [← toList_text] at hlex
  obtain ⟨before, last, rfl, hlast, hne⟩ := Token.lexFrom_closed hlex
  have htokens : before.map (·.token) = s.tokens := by
    rw [List.map_append, List.map_singleton, hlast] at hprinted
    exact List.append_cancel_right hprinted
  have hpos : ∀ n, .number n ∈ before.map (·.token) → 0 ≤ n := by
    intro n hn
    obtain ⟨hnumber, -⟩ := h (.number n) (htokens ▸ hn)
    exact hnumber.1
  have hread := (read_eq_ok_iff hne hlast hpos).mpr (htokens ▸ spelled_tokens hreg)
  rw [ofQuery, Token.lex, hlex]
  exact hread

/-- **Reading is stable under printing.** A statement that has been read from a query whose
identifiers are none of the words that run on over a space is read again from its own text. -/
theorem ofQuery_text {query : String} {tokens : List Located} {s : Statement}
    (hlex : Token.lex query = .ok tokens) (h : ofQuery query = .ok s)
    (hwords : ∀ t ∈ tokens, ∀ word ∈ ["ORDER", "GROUP", "LEFT", "RIGHT"],
      t.token ≠ .identifier word) :
    ofQuery s.text = .ok s := by
  rw [ofQuery, hlex] at h
  obtain ⟨before, last, rfl, hlast, hne⟩ := Token.lexFrom_closed hlex
  have hlexical : ∀ t ∈ before, t.token.Lexical := by
    intro t ht
    have hor := Token.lexical_of_lexFrom hlex t (by simp [ht])
    exact hor.resolve_left (hne t ht)
  have hpos : ∀ n, .number n ∈ before.map (·.token) → 0 ≤ n := by
    intro n hn
    obtain ⟨t, ht, heq⟩ := List.mem_map.mp hn
    have hnumber := hlexical t ht
    rw [heq] at hnumber
    exact hnumber.1
  have hspelled := (read_eq_ok_iff hne hlast hpos).mp h
  refine ofQuery_text_of_writable hspelled.1 fun t ht => ?_
  rcases mem_tokens hspelled ht with hmem | rfl
  · obtain ⟨t', ht', rfl⟩ := List.mem_map.mp hmem
    exact ⟨hlexical t' ht', fun name heq hruns => hwords t' (by simp [ht']) name hruns heq⟩
  · exact ⟨trivial, fun name heq => by cases heq⟩

/-- A query with a name that holds an operator and a text without its second quote. -/
def unclosed : String := "SELECT a_b+c  FROM t WHERE d='x y"

def unclosedTokens : List Located :=
  [⟨.keyword .select, 0, 6⟩, ⟨.identifier "a_b+c", 7, 12⟩, ⟨.keyword .source, 14, 18⟩,
    ⟨.identifier "t", 19, 20⟩, ⟨.keyword .condition, 21, 26⟩, ⟨.identifier "d", 27, 28⟩,
    ⟨.comparison .equal, 28, 29⟩, ⟨.text "x y", 29, 33⟩, ⟨.eof, 33, 33⟩]

def unclosedStatement : Statement :=
  ⟨.items [⟨none, "a_b+c", none⟩], .table "t",
    some (.binary (.compare .equal) (.column "d") (.literal (.text "x y"))), [], [], none⟩

theorem ofQuery_text_unclosed :
    Token.lex unclosed = .ok unclosedTokens ∧ ofQuery unclosed = .ok unclosedStatement ∧
    (∀ t ∈ unclosedTokens, ∀ word ∈ ["ORDER", "GROUP", "LEFT", "RIGHT"],
      t.token ≠ .identifier word) ∧
    ofQuery unclosedStatement.text = .ok unclosedStatement := by
  have hlex : Token.lex unclosed = .ok unclosedTokens := by decide +kernel
  have h : ofQuery unclosed = .ok unclosedStatement := by
    rw [ofQuery, hlex]
    rfl
  have hwords : ∀ t ∈ unclosedTokens, ∀ word ∈ ["ORDER", "GROUP", "LEFT", "RIGHT"],
      t.token ≠ .identifier word := by decide
  exact ⟨hlex, h, hwords, ofQuery_text hlex h hwords⟩

end CsvQuery.Statement
