import CsvQuery.Proofs.Source.Items
import Mathlib.Data.Nat.Find

/-!
How much of a list is needed. The members of a list come one after the other, and each of them makes
some rows or fails. The first `n` of all these rows are those of the members up to the one with
which there are `n`: what stands behind it is never looked at.
-/

namespace CsvQuery

section UpTo

variable {α β : Type} (made : α → List β)

/-- The member at `k` is the one with which `n` rows are made. -/
def Completes (n : Nat) (l : List α) (k : Nat) : Prop :=
  ((l.take k).flatMap made).length < n ∧ n ≤ ((l.take (k + 1)).flatMap made).length

variable {made} {n k : Nat} {l : List α}

lemma Completes.congr (h : Completes made n l k) {l' : List α}
    (hsame : l'.take (k + 1) = l.take (k + 1)) : Completes made n l' k := by
  have hless : l'.take k = l.take k := by
    have htake : ∀ l : List α, l.take k = (l.take (k + 1)).take k := by
      intro l
      rw [List.take_take, Nat.min_eq_left (Nat.le_succ k)]
    rw [htake, hsame, ← htake]
  unfold Completes
  rw [hless, hsame]
  exact h

end UpTo

namespace Source

variable {ε : Type}

lemma flatMap_expanded_spread (f : Row → List Row) (chunk : Except ε (List Row)) :
    (spread chunk).flatMap (expanded f) = spread (chunk.map (·.flatMap f)) := by
  cases chunk with
  | error e => rfl
  | ok rows => simp [spread, Except.map, List.flatMap_map, List.map_flatMap, expanded]

lemma flatMap_kept_spread {test : Row → Except ε Bool} {keep : Row → Bool}
    (hkeep : ∀ r, test r = .ok (keep r)) (chunk : Except ε (List Row)) :
    (spread chunk).flatMap (kept test) = spread (chunk.map (·.filter keep)) := by
  cases chunk with
  | error e => rfl
  | ok rows =>
    simp only [spread, Except.map]
    induction rows with
    | nil => rfl
    | cons r rows ih =>
      rw [List.map_cons, List.flatMap_cons, ih, List.filter_cons, kept, hkeep]
      cases keep r <;> rfl

/-! ### All rows -/

lemma items_gather_cases (src : Source ε) (arrange : List Row → Except ε (List Row))
    (note : List Row → List Log.Entry)
    (length_le : ∀ rows arranged,
      arrange rows = .ok arranged → arranged.length ≤ rows.length) :
    (∃ rows, src.run.outcome = .ok rows ∧
      (src.gather arrange note length_le).items (src.gather arrange note length_le).start =
        spread (arrange rows)) ∨
    ∃ e rest, src.run.outcome = .error e ∧
      (src.gather arrange note length_le).items (src.gather arrange note length_le).start =
        .error e :: rest := by
  cases h : src.run.outcome with
  | ok rows => exact .inl ⟨rows, rfl, src.items_gather arrange note length_le (src.outcome_run ▸ h)⟩
  | error e =>
    refine .inr ⟨e, _, rfl, items_of_some _ ?_⟩
    have hdrain : (src.drain src.start).outcome = .error e := h
    simp only [gather, gatherPull, hdrain]

/-! ### The first rows -/

end Source

end CsvQuery
