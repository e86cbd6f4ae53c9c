import CsvQuery.Proofs.Expr.Language
import CsvQuery.Proofs.Statement.RoundTrip
import Mathlib.Data.Set.List

/-!
The language of statements: which lists of tokens are one, clause by clause and without the
statement that is read. The reader accepts exactly these lists, and what it reads from one is the
statement whose parts the tokens spell.
-/

namespace CsvQuery

namespace Language

/-- The tokens are parts of one kind, at least one, with commas between them. -/
def Listed (part : List Token → Prop) (ts : List Token) : Prop :=
  ∃ parts, parts ≠ [] ∧ (∀ p ∈ parts, part p) ∧ ts = [.comma].intercalate parts

/-- There are no tokens, or a word with what belongs behind it. -/
def Optionally (word : Keyword) (body : List Token → Prop) (ts : List Token) : Prop :=
  ts = [] ∨ ∃ rest, ts = .keyword word :: rest ∧ body rest

def IsName (ts : List Token) : Prop :=
  ∃ name, ts = [.identifier name]

def IsNumber (ts : List Token) : Prop :=
  ∃ n : Nat, ts = [.number n]

/-- A field, or the call of an aggregate function on one. -/
inductive Operand : List Token → Prop
  | field (name : String) : Operand [.identifier name]
  | call (f : Aggregate) (name : String) :
    Operand [.keyword (.aggregate f), .openParen, .identifier name, .closeParen]

/-- A column of the select list, perhaps with a new name. -/
inductive Column : List Token → Prop
  | unnamed {ts : List Token} (h : Operand ts) : Column ts
  | named {ts : List Token} (h : Operand ts) (name : String) :
    Column (ts ++ [.keyword .named, .identifier name])

/-- A table, and any number of joins behind it. -/
inductive Tables : List Token → Prop
  | table (name : String) : Tables [.identifier name]
  | join {ts condition : List Token} (h : Tables ts) (kind : JoinKind) (right : String)
    (hc : Expr.Phrase .join condition) :
    Tables (ts ++ [.keyword (.join kind), .identifier right, .keyword .matching] ++ condition)

/-- A field of ORDER BY, perhaps with a direction. -/
inductive Key : List Token → Prop
  | plain (name : String) : Key [.identifier name]
  | directed (name : String) (d : Direction) : Key [.identifier name, .keyword (.direction d)]

/-- The tokens of a statement: SELECT with columns, FROM with tables, then at most one each of
WHERE, GROUP BY, ORDER BY and LIMIT, in this order. -/
def Sentence (ts : List Token) : Prop :=
  ∃ columns tables condition groups orders limit,
    (columns = [.star] ∨ Listed Column columns) ∧ Tables tables ∧
    Optionally .condition (Expr.Phrase .value) condition ∧
    Optionally .groupBy (Listed IsName) groups ∧ Optionally .orderBy (Listed Key) orders ∧
    Optionally .limit IsNumber limit ∧
    ts = .keyword .select :: columns ++ .keyword .source :: tables ++ condition ++ groups ++
      orders ++ limit

/-! ### Parts and their tokens -/

lemma column_iff {ts : List Token} : Column ts ↔ ∃ item : SelectItem, item.tokens = ts := by
  constructor
  · rintro (⟨⟨name⟩ | ⟨f, name⟩⟩ | ⟨⟨field⟩ | ⟨f, field⟩, name⟩)
    · exact ⟨⟨none, name, none⟩, rfl⟩
    · exact ⟨⟨some f, name, none⟩, rfl⟩
    · exact ⟨⟨none, field, some name⟩, rfl⟩
    · exact ⟨⟨some f, field, some name⟩, rfl⟩
  · rintro ⟨⟨f, field, newName⟩, rfl⟩
    cases f with
    | none =>
      cases newName with
      | none => exact .unnamed (.field field)
      | some name => exact .named (.field field) name
    | some f =>
      cases newName with
      | none => exact .unnamed (.call f field)
      | some name => exact .named (.call f field) name

lemma key_iff {ts : List Token} : Key ts ↔ ∃ key : OrderKey, key.Spelled ts := by
  constructor
  · rintro (⟨name⟩ | ⟨name, d⟩)
    · exact ⟨_, .ascending name⟩
    · exact ⟨⟨name, d⟩, .directed _⟩
  · rintro ⟨key, ⟨⟩ | ⟨field⟩⟩
    · exact .directed key.field key.direction
    · exact .plain field

lemma tables_iff {ts : List Token} :
    Tables ts ↔ ∃ origin : Origin, origin.Regular ∧ origin.tokens = ts := by
  constructor
  · intro h
    induction h with
    | table name => exact ⟨.table name, trivial, rfl⟩
    | join _ kind right hc ih =>
      obtain ⟨left, hleft, rfl⟩ := ih
      obtain ⟨e, he, rfl⟩ := Expr.exists_canonical_iff_phrase.mpr hc
      exact ⟨.join kind left right e, ⟨hleft, he⟩, rfl⟩
  · rintro ⟨origin, hregular, rfl⟩
    induction origin with
    | table name => exact .table name
    | join kind left right condition ih =>
      obtain ⟨hleft, hcondition⟩ := hregular
      exact (ih hleft).join kind right (Expr.phrase_tokens hcondition)

lemma forall_exists_iff_forall₂ {α β : Type} {r : α → β → Prop} {l : List β} :
    (∀ b ∈ l, ∃ a, r a b) ↔ ∃ l', List.Forall₂ r l' l := by
  induction l with
  | nil => exact ⟨fun _ => ⟨[], .nil⟩, fun _ => by simp⟩
  | cons b l ih =>
    rw [List.forall_mem_cons, ih]
    constructor
    · rintro ⟨⟨a, ha⟩, l', hl'⟩
      exact ⟨a :: l', .cons ha hl'⟩
    · rintro ⟨_, _ | ⟨ha, hl'⟩⟩
      exact ⟨⟨_, ha⟩, _, hl'⟩

lemma selection_iff {ts : List Token} :
    (ts = [.star] ∨ Listed Column ts) ↔
      ∃ chosen : Selection, chosen.Regular ∧ chosen.tokens = ts := by
  constructor
  · rintro (rfl | ⟨parts, hne, hparts, rfl⟩)
    · exact ⟨.all, trivial, rfl⟩
    · obtain ⟨list, rfl⟩ : parts ∈ Set.range (List.map SelectItem.tokens) := by
        rw [Set.range_list_map]
        exact fun p hp => column_iff.mp (hparts p hp)
      refine ⟨.items list, ?_, rfl⟩
      rintro rfl
      exact hne rfl
  · rintro ⟨chosen, hregular, rfl⟩
    cases chosen with
    | all => exact .inl rfl
    | items list =>
      have hne : list.map (·.tokens) ≠ [] := by simpa using (show list ≠ [] from hregular)
      refine .inr ⟨list.map (·.tokens), hne, fun p hp => ?_, rfl⟩
      obtain ⟨item, -, rfl⟩ := List.mem_map.mp hp
      exact column_iff.mpr ⟨item, rfl⟩

lemma conditionClause_iff {ts : List Token} :
    Optionally .condition (Expr.Phrase .value) ts ↔
      ∃ condition : Option Expr, (∀ e ∈ condition, Expr.Canonical .value 0 e) ∧
        Statement.conditionClause condition = ts := by
  constructor
  · rintro (rfl | ⟨rest, rfl, h⟩)
    · exact ⟨none, by simp, rfl⟩
    · obtain ⟨e, he, rfl⟩ := Expr.exists_canonical_iff_phrase.mpr h
      exact ⟨some e, by simpa using he, rfl⟩
  · rintro ⟨_ | e, hcondition, rfl⟩
    · exact .inl rfl
    · exact .inr ⟨e.tokens, rfl, Expr.phrase_tokens (hcondition e rfl)⟩

lemma listClause_iff {word : Keyword} {part : List Token → Prop} {ts : List Token} :
    Optionally word (Listed part) ts ↔
      ∃ parts, (∀ p ∈ parts, part p) ∧ Statement.listClause word parts = ts := by
  constructor
  · rintro (rfl | ⟨rest, rfl, parts, hne, hparts, rfl⟩)
    · exact ⟨[], by simp, rfl⟩
    · obtain ⟨p, parts, rfl⟩ := List.exists_cons_of_ne_nil hne
      exact ⟨p :: parts, hparts, rfl⟩
  · rintro ⟨_ | ⟨p, parts⟩, hparts, rfl⟩
    · exact .inl rfl
    · exact .inr ⟨_, rfl, p :: parts, by simp, hparts, rfl⟩

lemma limitClause_iff {ts : List Token} :
    Optionally .limit IsNumber ts ↔ ∃ limit, Statement.limitClause limit = ts := by
  constructor
  · rintro (rfl | ⟨rest, rfl, n, rfl⟩)
    · exact ⟨none, rfl⟩
    · exact ⟨some n, rfl⟩
  · rintro ⟨_ | n, rfl⟩
    · exact .inl rfl
    · exact .inr ⟨_, rfl, n, rfl⟩

lemma sentence_iff_spelled {ts : List Token} : Sentence ts ↔ ∃ s : Statement, s.Spelled ts := by
  constructor
  · rintro ⟨_, _, _, _, _, _, hcolumns, htables, hcondition, hgroups, horders, hlimit, rfl⟩
    obtain ⟨chosen, hchosen, rfl⟩ := selection_iff.mp hcolumns
    obtain ⟨origin, horigin, rfl⟩ := tables_iff.mp htables
    obtain ⟨condition, hcanonical, rfl⟩ := conditionClause_iff.mp hcondition
    obtain ⟨groups, hnames, rfl⟩ := listClause_iff.mp hgroups
    obtain ⟨keys, hkeys, rfl⟩ := listClause_iff.mp horders
    obtain ⟨limit, rfl⟩ := limitClause_iff.mp hlimit
    obtain ⟨names, rfl⟩ : groups ∈ Set.range (List.map fun name => [Token.identifier name]) := by
      rw [Set.range_list_map]
      intro p hp
      obtain ⟨name, rfl⟩ := hnames p hp
      exact ⟨name, rfl⟩
    obtain ⟨orders, hspelled⟩ := forall_exists_iff_forall₂.mp fun p hp => key_iff.mp (hkeys p hp)
    refine ⟨⟨chosen, origin, condition, names, orders, limit⟩, ⟨hchosen, horigin, hcanonical⟩,
      keys, hspelled, ?_⟩
    simp [Statement.tokensWith, Statement.opening]
  · rintro ⟨s, hregular, keys, hkeys, rfl⟩
    refine ⟨_, _, _, _, _, _, selection_iff.mpr ⟨s.selection, hregular.selection, rfl⟩,
      tables_iff.mpr ⟨s.origin, hregular.origin, rfl⟩,
      conditionClause_iff.mpr ⟨s.condition, hregular.condition, rfl⟩,
      listClause_iff.mpr ⟨s.groupBy.map fun name => [.identifier name], ?_, rfl⟩,
      listClause_iff.mpr ⟨keys, ?_, rfl⟩, limitClause_iff.mpr ⟨s.limit, rfl⟩, ?_⟩
    · intro p hp
      obtain ⟨name, -, rfl⟩ := List.mem_map.mp hp
      exact ⟨name, rfl⟩
    · exact fun p hp => key_iff.mpr (forall_exists_iff_forall₂.mpr ⟨_, hkeys⟩ p hp)
    · simp [Statement.tokensWith, Statement.opening]

end Language

namespace Statement

lemma exists_split_of_lex {query : String} {tokens : List Located}
    (h : Token.lex query = .ok tokens) :
    ∃ before last, tokens = before ++ [last] ∧ last.token = .eof ∧
      (∀ t ∈ before, t.token ≠ .eof) ∧ ∀ n, .number n ∈ before.map (·.token) → 0 ≤ n := by
  obtain ⟨before, last, rfl, hlast, hne⟩ := Token.lexFrom_closed h
  refine ⟨before, last, rfl, hlast, hne, fun n hn => ?_⟩
  obtain ⟨t, ht, heq⟩ := List.mem_map.mp hn
  have hlexical := (Token.lexical_of_lexFrom h t (by simp [ht])).resolve_left (hne t ht)
  rw [heq] at hlexical
  exact hlexical.1

/-- **The reader accepts exactly the language.** The tokens of a query are read as a statement
exactly if they spell it up to the end of the query: its columns, tables with their joins nested to
the left, keys and new names in their order, a direction that is left out as ascending, and the
number of LIMIT as it stands. Some statement is read exactly if the tokens are a sentence. -/
theorem read_iff_sentence {query : String} {tokens : List Located}
    (hlex : Token.lex query = .ok tokens) :
    (∀ s, read tokens = .ok s ↔ ∃ ts, tokens.map (·.token) = ts ++ [.eof] ∧ s.Spelled ts) ∧
    ((∃ s, read tokens = .ok s) ↔
      ∃ ts, tokens.map (·.token) = ts ++ [.eof] ∧ Language.Sentence ts) := by
  obtain ⟨before, last, rfl, hlast, hne, hpos⟩ := exists_split_of_lex hlex
  have hsplit : ∀ ts, (before ++ [last]).map (·.token) = ts ++ [.eof] ↔
      before.map (·.token) = ts := by
    intro ts
    rw [List.map_append, List.map_singleton, hlast, List.append_left_inj]
  have hread : ∀ s, read (before ++ [last]) = .ok s ↔ s.Spelled (before.map (·.token)) :=
    fun s => read_eq_ok_iff hne hlast hpos
  constructor
  · intro s
    simp only [hread, hsplit, exists_eq_left']
  · simp only [hread, hsplit, exists_eq_left', Language.sentence_iff_spelled]

/-- A query with a join, a new name and every clause. -/
def ranking : String :=
  "SELECT a, SUM(b) AS n FROM t LEFT JOIN u ON t.a = u.a WHERE b IN (1, 2) AND c > 0 " ++
    "GROUP BY a ORDER BY n DESC, a LIMIT 3"

def rankingStatement : Statement :=
  ⟨.items [⟨none, "a", none⟩, ⟨some .sum, "b", some "n"⟩],
    .join .left (.table "t") "u"
      (.binary (.compare .equal) (.qualified "t" "a") (.qualified "u" "a")),
    some (.binary .and (.among (.column "b") [.number 1, .number 2])
      (.binary (.compare .greater) (.column "c") (.literal (.number 0)))),
    ["a"], [⟨"n", .descending⟩, ⟨"a", .ascending⟩], some 3⟩

theorem read_iff_sentence_ranking :
    ∃ tokens, Token.lex ranking = .ok tokens ∧ read tokens = .ok rankingStatement ∧
      ∃ ts, tokens.map (·.token) = ts ++ [.eof] ∧ rankingStatement.Spelled ts ∧
        Language.Sentence ts := by
  have h : ofQuery ranking = .ok rankingStatement := by decide +kernel
  obtain ⟨tokens, hlex⟩ : ∃ tokens, Token.lex ranking = .ok tokens := by
    cases hlex : Token.lex ranking with
    | ok tokens => exact ⟨tokens, rfl⟩
    | error e =>
      rw [ofQuery, hlex] at h
      cases h
  have hread : read tokens = .ok rankingStatement := by
    rw [ofQuery, hlex] at h
    exact h
  obtain ⟨ts, hts, hspelled⟩ := ((read_iff_sentence hlex).1 _).mp hread
  obtain ⟨ts', hts', hsentence⟩ := (read_iff_sentence hlex).2.mp ⟨_, hread⟩
  obtain rfl : ts = ts' := List.append_cancel_right (hts.symm.trans hts')
  exact ⟨tokens, hlex, hread, ts, hts, hspelled, hsentence⟩

end Statement

end CsvQuery
