import CsvQuery.Proofs.Files.Paths
import CsvQuery.Proofs.Statement.Language
import CsvQuery.Proofs.Token.Names
import CsvQuery.Query

/-!
Queries stay in the base directory. The tables of a statement are named by words of the query, so a
table's path goes down from the base directory, and execution looks at no other path.
-/

namespace CsvQuery

/-! ### Table names are words -/

lemma Origin.mem_tokens {origin : Origin} {name : String} (h : name ∈ origin.tables) :
    .identifier name ∈ origin.tokens := by
  induction origin with
  | table name' =>
    obtain rfl := List.mem_singleton.mp h
    exact List.mem_singleton_self _
  | join kind left right condition ih =>
    rcases List.mem_append.mp h with h | h
    · simp [tokens, ih h]
    · obtain rfl := List.mem_singleton.mp h
      simp [tokens]

lemma Statement.isWord_of_mem_tables {query : String} {s : Statement} (h : ofQuery query = .ok s)
    {name : String} (hname : name ∈ s.tables) : Token.IsWord name.toList := by
  cases hlex : Token.lex query with
  | error e =>
    rw [ofQuery, hlex] at h
    cases h
  | ok tokens =>
    rw [ofQuery, hlex] at h
    obtain ⟨before, last, rfl, hlast, hne, hpos⟩ := exists_split_of_lex hlex
    obtain ⟨-, keys, -, hkeys⟩ := (read_eq_ok_iff hne hlast hpos).mp h
    have hmem : Token.identifier name ∈ before.map (·.token) := by
      rw [hkeys, tokensWith, opening]
      simp [Origin.mem_tokens hname]
    obtain ⟨t, ht, htoken⟩ := List.mem_map.mp hmem
    have hlexical := (Token.lexical_of_lexFrom hlex t (by simp [ht])).resolve_left (hne t ht)
    rw [htoken] at hlexical
    exact hlexical.1

lemma Token.IsWord.head?_ne_dot {cs : List Char} (h : IsWord cs) {part : List Char}
    (hpart : part ∈ Files.splitSlashes cs) : part.head? ≠ some '.' := by
  intro hdot
  obtain ⟨more, rfl⟩ := List.head?_eq_some_iff.mp hdot
  obtain ⟨first, parts, hsplit, ⟨behind, hfirst⟩, hlater⟩ := Files.exists_splitSlashes cs
  rw [hsplit] at hpart
  rcases List.mem_cons.mp hpart with rfl | hpart
  · obtain ⟨c, hc, halpha⟩ := h.head?_isAlpha
    rw [← hfirst] at hc
    cases hc
    cases halpha
  · obtain ⟨front, behind, rfl⟩ := hlater _ hpart
    exact h.ne_slash_dot (by simp; rfl)

namespace Table

variable {name : String}

lemma components_ne_dots (h : Token.IsWord name.toList) :
    ∀ part ∈ Files.components name, part ≠ "." ∧ part ≠ ".." := by
  intro part hpart
  obtain ⟨cs, hcs, rfl⟩ := List.mem_map.mp hpart
  have hne : ∀ dots : String, dots.toList.head? = some '.' → String.ofList cs ≠ dots := by
    rintro _ hdot rfl
    rw [String.toList_ofList] at hdot
    exact h.head?_ne_dot hcs hdot
  exact ⟨hne "." rfl, hne ".." rfl⟩

lemma descends_file (h : Token.IsWord name.toList) : Files.Descends (fileOf name) := by
  have hlist : (fileOf name).toList = name.toList ++ ".csv".toList := String.toList_append
  constructor
  · obtain ⟨c, hc, halpha⟩ := h.head?_isAlpha
    obtain ⟨more, hname⟩ := List.head?_eq_some_iff.mp hc
    have hne : c ≠ '/' := by
      rintro rfl
      cases halpha
    simp [Files.isAbsolute, fileOf, hname, hne]
  · intro hup
    obtain ⟨part, hpart, hdots⟩ := List.mem_map.mp hup
    have hdots' : part = ['.', '.'] := by
      have := congrArg String.toList hdots
      rwa [String.toList_ofList] at this
    subst hdots'
    rw [hlist] at hpart
    have hslash : '/' ∉ ".csv".toList := by decide
    obtain ⟨init, last, hname, hfile⟩ := Files.splitSlashes_append hslash name.toList
    rw [hfile] at hpart
    rcases List.mem_append.mp hpart with hpart | hpart
    · exact h.head?_ne_dot (hname ▸ List.mem_append_left [last] hpart) rfl
    · -- The last name is longer than two dots.
      have hlength := congrArg List.length (List.mem_singleton.mp hpart)
      simp at hlength

lemma read_congr {files files' : Files} {base : String}
    (h : files.look (path base name) = files'.look (path base name)) :
    read files base name = read files' base name := by
  unfold read
  rw [h]

end Table

/-! ### What is looked at -/

namespace Plan

variable {files files' : Files} {base : String}

lemma ofOrigin_congr {origin : Origin}
    (h : ∀ name ∈ origin.tables, Table.read files base name = Table.read files' base name) :
    ofOrigin files base origin = ofOrigin files' base origin := by
  induction origin with
  | table name =>
    unfold ofOrigin
    rw [h name (List.mem_singleton_self name)]
  | join kind left right condition ih =>
    have hleft := ih fun name hname => h name (List.mem_append_left _ hname)
    have hright := h right (List.mem_append_right _ (List.mem_singleton_self right))
    unfold ofOrigin
    rw [hleft, hright]

end Plan

namespace Query

section

variable [Sorter] {query base : String} {s : Statement}

lemma execute_congr {files files' : Files}
    (h : ∀ name ∈ s.tables, Table.read files base name = Table.read files' base name) :
    execute files base s = execute files' base s := by
  rw [execute, execute, Plan.ofStatement, Plan.ofStatement, Plan.ofOrigin_congr h]

/-- **Queries stay in the base directory.** Every table of a statement that was read from a query
has a name that starts with a letter, has at most one dot, and has neither `.` nor `..` between
slashes. So the file of the table is at a path that goes down from the base directory, and if
something is found there, it is below the place of that directory. Execution looks at such paths
only: it is the same over all files that agree on them. -/
theorem tables_descend (h : Statement.ofQuery query = .ok s) (base : String) :
    (∀ name ∈ s.tables,
      (∃ c ∈ name.toList.head?, c.isAlpha = true) ∧ name.toList.count '.' ≤ 1 ∧
      (∀ part ∈ Files.components name, part ≠ "." ∧ part ≠ "..") ∧
      (∃ relative, Table.path base name = Files.join base relative ∧ Files.Descends relative) ∧
      ∀ (files : Files) directory found, files.locate base = .ok directory →
        files.locate (Table.path base name) = .ok found → directory <+: found) ∧
    ∀ files files' : Files,
      (∀ relative, Files.Descends relative →
        files.look (Files.join base relative) = files'.look (Files.join base relative)) →
      execute files base s = execute files' base s := by
  have hword : ∀ name ∈ s.tables, Token.IsWord name.toList :=
    fun name hname => Statement.isWord_of_mem_tables h hname
  refine ⟨fun name hname => ?_, fun files files' hagree => execute_congr fun name hname => ?_⟩
  · have hdescends := Table.descends_file (hword name hname)
    exact ⟨(hword name hname).head?_isAlpha, (hword name hname).count_dot_le,
      Table.components_ne_dots (hword name hname), ⟨_, rfl, hdescends⟩,
      fun files directory found => Files.prefix_of_locate_join hdescends⟩
  · exact Table.read_congr (hagree _ (Table.descends_file (hword name hname)))

end

attribute [local instance] Sorter.standard

/-- A query whose tables have a slash and a dot in their names. -/
def nested : String := "SELECT * FROM old_/sales JOIN LEFT.x ON old_/sales.a = LEFT.x.b"

def nestedStatement : Statement :=
  ⟨.all, .join .inner (.table "old_/sales") "LEFT.x"
    (.binary (.compare .equal) (.qualified "old_/sales" "a") (.qualified "LEFT.x" "b")),
    none, [], [], none⟩

def nestedTokens : List Located :=
  [⟨.keyword .select, 0, 6⟩, ⟨.star, 7, 8⟩, ⟨.keyword .source, 9, 13⟩,
    ⟨.identifier "old_/sales", 14, 24⟩, ⟨.keyword (.join .inner), 25, 29⟩,
    ⟨.identifier "LEFT.x", 30, 36⟩, ⟨.keyword .matching, 37, 39⟩,
    ⟨.identifier "old_/sales", 40, 50⟩, ⟨.dot, 50, 51⟩, ⟨.identifier "a", 51, 52⟩,
    ⟨.comparison .equal, 53, 54⟩, ⟨.identifier "LEFT.x", 55, 61⟩, ⟨.dot, 61, 62⟩,
    ⟨.identifier "b", 62, 63⟩, ⟨.eof, 63, 63⟩]

theorem tables_descend_nested :
    Statement.ofQuery nested = .ok nestedStatement ∧
    nestedStatement.tables = ["old_/sales", "LEFT.x"] ∧
    (∀ part ∈ Files.components "old_/sales", part ≠ "." ∧ part ≠ "..") ∧
    "LEFT.x".toList.count '.' ≤ 1 ∧
    ∀ (files : Files) directory found, files.locate "data/" = .ok directory →
      files.locate "data/old_/sales.csv" = .ok found → directory <+: found := by
  have hlex : Token.lex nested = .ok nestedTokens := by decide +kernel
  have h : Statement.ofQuery nested = .ok nestedStatement := by
    rw [Statement.ofQuery, hlex]
    rfl
  obtain ⟨hnames, -⟩ := tables_descend h "data/"
  obtain ⟨-, -, hparts, -, hbelow⟩ := hnames "old_/sales" (by decide)
  obtain ⟨-, hdots, -⟩ := hnames "LEFT.x" (by decide)
  exact ⟨h, rfl, hparts, hdots, hbelow⟩

end Query

end CsvQuery
