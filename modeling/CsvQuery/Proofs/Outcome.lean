import CsvQuery.Log
import Mathlib.Tactic.Common

/-!
Computations that may fail, taken apart: where a chain of them succeeds, each part of it does. Two
chains end alike if their parts do.
-/

namespace CsvQuery

lemma Except.bind_eq_ok {ε α β : Type} {x : Except ε α} {f : α → Except ε β} {b : β} :
    (x >>= f) = .ok b ↔ ∃ a, x = .ok a ∧ f a = .ok b := by
  cases x with
  | error e => simp [bind, Except.bind]
  | ok a => simp [bind, Except.bind]

namespace Logged

variable {ε ε' α β : Type} {x : Logged ε α}

lemma outcome_bind_of_ok {a : α} (h : x.outcome = .ok a) (f : α → Logged ε β) :
    (x >>= f).outcome = (f a).outcome := by
  rw [outcome_bind, h]
  rfl

lemma outcome_bind_of_error {e : ε} (h : x.outcome = .error e) (f : α → Logged ε β) :
    (x >>= f).outcome = .error e := by
  rw [outcome_bind, h]
  rfl

lemma outcome_bind_eq_ok {f : α → Logged ε β} {b : β} :
    (x >>= f).outcome = .ok b ↔ ∃ a, x.outcome = .ok a ∧ (f a).outcome = .ok b := by
  rw [outcome_bind, Except.bind_eq_ok]

lemma outcome_mapError_eq_ok {f : ε → ε'} {a : α} :
    (x.mapError f).outcome = .ok a ↔ x.outcome = .ok a := by
  rw [mapError]
  cases x.outcome <;> simp [Except.mapError]

end Logged

/-! ### Two computations -/

/-- Two computations end alike if both succeed with related results or both fail with the same
error. An error that excuses a difference may stand on either side against anything. -/
inductive Alike {α β : Type} (excuse excuse' : Error → Prop) (r : α → β → Prop) :
    Except Error α → Except Error β → Prop
  | ok {a : α} {b : β} (h : r a b) : Alike excuse excuse' r (.ok a) (.ok b)
  | error (e : Error) : Alike excuse excuse' r (.error e) (.error e)
  | left {e : Error} (h : excuse e) (y : Except Error β) : Alike excuse excuse' r (.error e) y
  | right {e : Error} (h : excuse' e) (x : Except Error α) : Alike excuse excuse' r x (.error e)

namespace Alike

variable {α β γ δ : Type} {excuse excuse' : Error → Prop} {r : α → β → Prop} {q : γ → δ → Prop}

lemma refl (x : Except Error α) : Alike excuse excuse' Eq x x := by
  cases x with
  | error e => exact .error e
  | ok a => exact .ok rfl

lemma bind {x : Except Error α} {y : Except Error β} (h : Alike excuse excuse' r x y)
    {f : α → Except Error γ} {g : β → Except Error δ}
    (hnext : ∀ a b, r a b → Alike excuse excuse' q (f a) (g b)) :
    Alike excuse excuse' q (x >>= f) (y >>= g) := by
  cases h with
  | ok hr => exact hnext _ _ hr
  | error e => exact .error e
  | left he y => exact .left he _
  | right he x => exact .right he _

lemma bind_refl (x : Except Error α) {f : α → Except Error γ} {g : α → Except Error δ}
    (hnext : ∀ a, Alike excuse excuse' q (f a) (g a)) :
    Alike excuse excuse' q (x >>= f) (x >>= g) :=
  (refl x).bind fun a _ hab => hab ▸ hnext a

lemma outcome_bind {x : Logged Error α} {y : Logged Error β}
    (h : Alike excuse excuse' r x.outcome y.outcome)
    {f : α → Logged Error γ} {g : β → Logged Error δ}
    (hnext : ∀ a b, r a b → Alike excuse excuse' q (f a).outcome (g b).outcome) :
    Alike excuse excuse' q (x >>= f).outcome (y >>= g).outcome := by
  rw [Logged.outcome_bind, Logged.outcome_bind]
  exact h.bind hnext

lemma outcome_bind_refl (x : Logged Error α) {f : α → Logged Error γ} {g : α → Logged Error δ}
    (hnext : ∀ a, Alike excuse excuse' q (f a).outcome (g a).outcome) :
    Alike excuse excuse' q (x >>= f).outcome (x >>= g).outcome :=
  outcome_bind (refl x.outcome) fun a _ hab => hab ▸ hnext a

lemma of_map_eq {x : Except Error α} {y : Except Error β} {f : α → γ} {g : β → γ}
    (h : x.map f = y.map g) :
    Alike excuse excuse' (fun a b => x = .ok a ∧ y = .ok b ∧ f a = g b) x y := by
  cases x with
  | error e =>
    cases y with
    | error e' =>
      cases h
      exact .error e
    | ok b => cases h
  | ok a =>
    cases y with
    | error e' => cases h
    | ok b => exact .ok ⟨rfl, rfl, Except.ok.inj h⟩

lemma map_eq {x : Except Error α} {y : Except Error β} (h : Alike excuse excuse' r x y)
    {f : α → γ} {g : β → γ} (hfg : ∀ a b, r a b → f a = g b) :
    x.map f = y.map g ∨ (∃ e, excuse e ∧ x = .error e) ∨ ∃ e, excuse' e ∧ y = .error e := by
  cases h with
  | ok hr => exact .inl (congrArg Except.ok (hfg _ _ hr))
  | error e => exact .inl rfl
  | left he y => exact .inr (.inl ⟨_, he, rfl⟩)
  | right he x => exact .inr (.inr ⟨_, he, rfl⟩)

end Alike

end CsvQuery
