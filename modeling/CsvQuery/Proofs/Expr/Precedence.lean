import CsvQuery.Proofs.Expr.Canonical
import CsvQuery.Proofs.Token.Lexing

/-!
Precedence of operators, as a statement about the reader at any place of a list of tokens: what it
reads, where it stops, and that no other tree has these tokens.
-/

namespace CsvQuery.Expr

lemma eof_notMem_tokens (e : Expr) : Token.eof ∉ e.tokens := by
  have hl : ∀ l : Literal, l.token ≠ .eof := fun l => by cases l <;> simp [Literal.token]
  have hb : ∀ b : Bound, b.token ≠ .eof := fun b => by
    cases b with
    | literal l => exact hl l
    | column name => simp [Bound.token]
  have hop : ∀ op : BinaryOp, op.token ≠ .eof := fun op => by
    cases op <;> simp [BinaryOp.token]
  induction e with
  | literal l => simpa [tokens] using (hl l).symm
  | column name => simp [tokens]
  | qualified table name => simp [tokens]
  | binary op left right ihl ihr => simp [tokens, ihl, ihr, (hop op).symm]
  | between e lower upper ih => simp [tokens, ih, (hb lower).symm, (hb upper).symm]
  | among e candidates ih =>
    have hi : Token.eof ∉ (candidates.map (·.token)).intersperse .comma := by
      intro hmem
      rcases mem_of_mem_intersperse hmem with h | h
      · cases h
      · obtain ⟨l, -, h⟩ := List.mem_map.mp h
        exact hl l h
    simp [tokens, ih, hi]

lemma tokens_ne_nil (e : Expr) : e.tokens ≠ [] := by
  cases e <;> simp [tokens]

lemma head?_of_spelled {tokens seen rest : List Located} {start : Nat} {e : Expr}
    (hc : Token.Closed tokens) (hsplit : tokens.drop start = seen ++ rest)
    (hspell : seen.map (·.token) = e.tokens) : ∃ t, rest.head? = some t := by
  cases rest with
  | cons t rest => exact ⟨t, rfl⟩
  | nil =>
    obtain ⟨before, last, rfl, hl⟩ := hc
    rw [List.append_nil] at hsplit
    have hne : seen ≠ [] := by
      rintro rfl
      exact tokens_ne_nil e hspell.symm
    have hlast : last ∈ seen := by
      rw [← hsplit] at hne ⊢
      have h := List.getLast_mem hne
      simpa using h
    have hmem : last.token ∈ e.tokens := hspell ▸ List.mem_map_of_mem hlast
    exact absurd (hl ▸ hmem) (eof_notMem_tokens e)

/-- **Precedence climbing is exact.** From any place of a list of tokens the reader succeeds with
a tree, at the first token that it leaves, exactly if the tokens up to there spell the tree, the
tree is canonical and that token is no operator within reach. The tree is the only canonical one
with its tokens; OR binds least, then AND, then BETWEEN and IN, then comparisons, and operators of
one power group to the left. -/
theorem read_drop_iff (g : Grammar) (floor : Nat) {tokens : List Located}
    (hc : Token.Closed tokens) :
    (∀ start e rest, read g floor (tokens.drop start) = .ok (e, rest) ↔
      ∃ stop, ∃ h : stop < tokens.length, start ≤ stop ∧ rest = tokens.drop stop ∧
        ((tokens.take stop).drop start).map (·.token) = e.tokens ∧ Canonical g floor e ∧
        ∀ i, g.operator? tokens[stop].token = some i → i.power ≤ floor) ∧
    (∀ e e', Canonical g floor e → Canonical g floor e' → e.tokens = e'.tokens → e = e') ∧
    (∀ op op' a b c, Canonical g floor (binary op a (binary op' b c)) → op.power < op'.power) ∧
    BinaryOp.or.power < BinaryOp.and.power ∧ BinaryOp.and.power < Operator.between.power ∧
    Operator.between.power = Operator.among.power ∧
    ∀ c, Operator.between.power < (BinaryOp.compare c).power := by
  refine ⟨fun start e rest => ⟨fun h => ?_, ?_⟩, fun e e' => Canonical.unique, ?_, by decide,
    by decide, rfl, fun c => by cases c <;> decide⟩
  · obtain ⟨seen, hsplit, hspell, hcanon, hstop⟩ := read_eq_ok_iff.mp h
    obtain ⟨t, hhead⟩ : ∃ t, rest.head? = some t :=
      head?_of_spelled hc hsplit hspell
    have hdrop : tokens.drop (start + seen.length) = rest := by
      rw [← List.drop_drop, hsplit, List.drop_left]
    have hget : tokens[start + seen.length]? = some t := by
      rw [← List.head?_drop, hdrop, hhead]
    obtain ⟨hlt, hget⟩ := List.getElem?_eq_some_iff.mp hget
    refine ⟨start + seen.length, hlt, Nat.le_add_right _ _, hdrop.symm, ?_, hcanon, ?_⟩
    · rw [List.drop_take, hsplit, Nat.add_sub_cancel_left, List.take_left, hspell]
    · rw [hget]
      exact hstop t hhead
  · rintro ⟨stop, hlt, hle, rfl, hspell, hcanon, hstop⟩
    refine read_eq_ok_iff.mpr ⟨(tokens.take stop).drop start, ?_, hspell, hcanon, ?_⟩
    · rw [← List.drop_append_of_le_length (by simp; omega), List.take_append_drop]
    · intro t ht
      rw [List.head?_drop, List.getElem?_eq_getElem hlt] at ht
      cases ht
      exact hstop
  · intro op op' a b c h
    cases h with
    | binary hp hl hr hop =>
      cases hr with
      | binary hp' => exact hp'

/-- The tokens of `a = 1 AND b BETWEEN 2 AND 3` with their places. -/
def bounded : List Located :=
  [⟨.identifier "a", 0, 1⟩, ⟨.comparison .equal, 2, 3⟩, ⟨.number 1, 4, 5⟩,
    ⟨.keyword .and, 6, 9⟩, ⟨.identifier "b", 10, 11⟩, ⟨.keyword .between, 12, 19⟩,
    ⟨.number 2, 20, 21⟩, ⟨.keyword .and, 22, 25⟩, ⟨.number 3, 26, 27⟩, ⟨.eof, 27, 27⟩]

theorem read_drop_iff_bounded :
    Token.Closed bounded ∧
    read .value 0 (bounded.drop 0) = .ok
      (binary .and (binary (.compare .equal) (column "a") (literal (.number 1)))
        (between (column "b") (.literal (.number 2)) (.literal (.number 3))),
        bounded.drop 9) ∧
    read .value 400 (bounded.drop 4) = .ok (column "b", bounded.drop 5) := by
  have hc : Token.Closed bounded := ⟨bounded.take 9, ⟨.eof, 27, 27⟩, rfl, rfl⟩
  have hcomparison : Canonical .value 0
      (binary (.compare .equal) (column "a") (literal (.number 1))) :=
    .binary (by decide) (.column _ _ rfl) (.literal _ _) trivial
  have hbetween : Canonical .value 200
      (between (column "b") (.literal (.number 2)) (.literal (.number 3))) :=
    .between _ _ rfl (by decide) (.column _ _ rfl) trivial
  refine ⟨hc, ?_, ?_⟩
  · refine ((read_drop_iff .value 0 hc).1 0 _ _).mpr ⟨9, by decide, by decide, rfl, rfl, ?_, ?_⟩
    · exact .binary (by decide) hcomparison hbetween (show 200 ≤ 500 by decide)
    · intro i hi
      cases hi
  · refine ((read_drop_iff .value 400 hc).1 4 _ _).mpr
      ⟨5, by decide, by decide, rfl, rfl, .column _ _ rfl, ?_⟩
    intro i hi
    cases hi
    exact Nat.le_refl 400

end CsvQuery.Expr
