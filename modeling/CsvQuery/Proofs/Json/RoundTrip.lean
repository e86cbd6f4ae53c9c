import CsvQuery.Json
import CsvQuery.Proofs.Text.Utf8
import Mathlib.Data.List.DropRight
import Mathlib.Tactic.Common

/-!
Objects of texts are read as they were written. A written character is read back whatever it is and
whatever stands behind it; from that come strings, members and whole objects.
-/

namespace CsvQuery.Json

open Text (Symbol)

def symbolsOf (s : String) : List Symbol :=
  s.toList.map some

@[simp] lemma symbolsOf_append (s t : String) :
    symbolsOf (s ++ t) = symbolsOf s ++ symbolsOf t := by
  simp [symbolsOf]

/-! ### Strings -/

lemma hexValue?_byteDigits {n : Nat} (h : n < 0x20) :
    hexValue? (some '0') (some '0') (some (Nat.digitChar (n / 16)))
      (some (Nat.digitChar (n % 16))) = some n := by
  have hall : ∀ n < 0x20, hexValue? (some '0') (some '0') (some (Nat.digitChar (n / 16)))
      (some (Nat.digitChar (n % 16))) = some n := by decide
  exact hall n h

lemma stringFrom_writeChar (c : Char) (rest : List Symbol) :
    stringFrom none (symbolsOf (writeChar c) ++ rest) = putChar none c (stringFrom none rest) := by
  unfold writeChar
  split_ifs with hquote hbackslash hb hf hn hr ht hcontrol
  · subst hquote; simp [symbolsOf, stringFrom, escape?]
  · subst hbackslash; simp [symbolsOf, stringFrom, escape?]
  · subst hb; simp [symbolsOf, stringFrom, escape?]
  · subst hf; simp [symbolsOf, stringFrom, escape?]
  · subst hn; simp [symbolsOf, stringFrom, escape?]
  · subst hr; simp [symbolsOf, stringFrom, escape?]
  · subst ht; simp [symbolsOf, stringFrom, escape?]
  · -- A control character is written by its number, which is no half of a surrogate pair.
    have hhigh : isHigh c.toNat = false := by simp [isHigh]; omega
    have hlow : isLow c.toNat = false := by simp [isLow]; omega
    simp [symbolsOf, byteDigits, stringFrom, hexValue?_byteDigits hcontrol, hhigh, hlow]
  · have hsymbols : symbolsOf c.toString ++ rest = some c :: rest := by simp [symbolsOf]
    rw [hsymbols, stringFrom.eq_def]
    simp [hbackslash, hcontrol]

lemma stringFrom_writeChars (cs : List Char) (rest : List Symbol) :
    stringFrom none (symbolsOf (String.join (cs.map writeChar)) ++ some '"' :: rest) =
      some (some cs, rest) := by
  induction cs with
  | nil => simp [symbolsOf, stringFrom]
  | cons c cs ih =>
    rw [List.map_cons, String.join_cons, symbolsOf_append, List.append_assoc, stringFrom_writeChar,
      ih]
    simp [putChar]

lemma symbolsOf_writeText (s : String) (rest : List Symbol) :
    symbolsOf (writeText s) ++ rest =
      some '"' :: (symbolsOf (String.join (s.toList.map writeChar)) ++ some '"' :: rest) := by
  simp [writeText, symbolsOf]

lemma value?_writeText (fuel : Nat) (s : String) (rest : List Symbol) :
    value? (fuel + 1) (some ' ' :: (symbolsOf (writeText s) ++ rest)) =
      some (string (some s), rest) := by
  have hgap : skipGap (some ' ' :: (symbolsOf (writeText s) ++ rest)) =
      symbolsOf (writeText s) ++ rest := by
    rw [symbolsOf_writeText]
    simp [skipGap, isGap]
  rw [value?, hgap, symbolsOf_writeText]
  simp [stringFrom_writeChars]

/-! ### Objects -/

def textMember (b : String × String) : Option String × Json :=
  (some b.1, string (some b.2))

/-- Members with texts as values, as they are written. -/
def writtenMembers (bindings : List (String × String)) : List Symbol :=
  symbolsOf (",".intercalate (bindings.map fun b => writeMember (b.1, writeText b.2)))

lemma symbolsOf_writeMember (b : String × String) (rest : List Symbol) :
    symbolsOf (writeMember (b.1, writeText b.2)) ++ rest =
      some '\n' :: some ' ' :: some ' ' :: (symbolsOf (writeText b.1) ++
        some ':' :: some ' ' :: (symbolsOf (writeText b.2) ++ rest)) := by
  simp [writeMember, symbolsOf]

lemma members?_writeMember (fuel : Nat) (b : String × String) (rest : List Symbol) :
    members? (fuel + 2) (symbolsOf (writeMember (b.1, writeText b.2)) ++ rest) =
      match skipGap rest with
      | some '\x7d' :: rest => some ([textMember b], rest)
      | some ',' :: rest =>
        (members? (fuel + 1) rest).bind fun r => some (textMember b :: r.1, r.2)
      | _ => none := by
  have hgap : skipGap (symbolsOf (writeMember (b.1, writeText b.2)) ++ rest) =
      some '"' :: (symbolsOf (String.join (b.1.toList.map writeChar)) ++ some '"' ::
        some ':' :: some ' ' :: (symbolsOf (writeText b.2) ++ rest)) := by
    rw [symbolsOf_writeMember, symbolsOf_writeText]
    simp [skipGap, isGap]
  rw [members?, hgap]
  simp only [stringFrom_writeChars, skipGap, Option.pure_def, Option.bind_eq_bind,
    Option.bind_some, isGap, Option.some_beq_some, Char.reduceBEq, Bool.or_self, Bool.false_eq_true,
    not_false_eq_true, List.dropWhile_cons_of_neg, value?_writeText, Option.map_some,
    String.ofList_toList]
  rfl

lemma writtenMembers_singleton (b : String × String) :
    writtenMembers [b] = symbolsOf (writeMember (b.1, writeText b.2)) := by
  simp [writtenMembers]

lemma writtenMembers_cons_cons (b b' : String × String) (bindings : List (String × String)) :
    writtenMembers (b :: b' :: bindings) =
      symbolsOf (writeMember (b.1, writeText b.2)) ++
        some ',' :: writtenMembers (b' :: bindings) := by
  simp [writtenMembers, symbolsOf, String.intercalate_cons_cons]

lemma members?_writtenMembers {bindings : List (String × String)} (hne : bindings ≠ [])
    {fuel : Nat} (h : bindings.length ≤ fuel) (rest : List Symbol) :
    members? (fuel + 1) (writtenMembers bindings ++ some '\n' :: some '\x7d' :: rest) =
      some (bindings.map textMember, rest) := by
  induction bindings generalizing fuel with
  | nil => exact absurd rfl hne
  | cons b bindings ih =>
    obtain ⟨fuel, rfl⟩ : ∃ n, fuel = n + 1 := ⟨fuel - 1, by simp at h; omega⟩
    cases bindings with
    | nil =>
      rw [writtenMembers_singleton, members?_writeMember]
      simp [skipGap, isGap]
    | cons b' bindings =>
      rw [writtenMembers_cons_cons, List.append_assoc, members?_writeMember]
      have hrest := ih (by simp) (Nat.le_of_succ_le_succ h)
      simp [skipGap, isGap, hrest]

lemma skipGap_skipGap (symbols : List Symbol) : skipGap (skipGap symbols) = skipGap symbols :=
  List.dropWhile_idempotent isGap symbols

lemma members?_skipGap (fuel : Nat) (symbols : List Symbol) :
    members? fuel (skipGap symbols) = members? fuel symbols := by
  cases fuel with
  | zero => rfl
  | succ fuel => rw [members?, members?, skipGap_skipGap]

lemma exists_skipGap_writtenMembers {bindings : List (String × String)} (hne : bindings ≠ [])
    (rest : List Symbol) :
    ∃ tail, skipGap (writtenMembers bindings ++ rest) = some '"' :: tail := by
  obtain ⟨b, bindings, rfl⟩ := List.exists_cons_of_ne_nil hne
  cases bindings with
  | nil =>
    rw [writtenMembers_singleton, symbolsOf_writeMember, symbolsOf_writeText]
    simp [skipGap, isGap]
  | cons b' bindings =>
    rw [writtenMembers_cons_cons, List.append_assoc, symbolsOf_writeMember, symbolsOf_writeText]
    simp [skipGap, isGap]

/-- An object of texts, as it is written. -/
def writtenObject (bindings : List (String × String)) : String :=
  writeObject (bindings.map fun b => (b.1, writeText b.2))

lemma symbolsOf_writtenObject {bindings : List (String × String)} (hne : bindings ≠ []) :
    symbolsOf (writtenObject bindings) =
      some '\x7b' :: (writtenMembers bindings ++ [some '\n', some '\x7d']) := by
  simp [writtenObject, writeObject, writtenMembers, symbolsOf, hne, Function.comp_def]

lemma value?_writtenObject {bindings : List (String × String)} {fuel : Nat}
    (h : bindings.length < fuel) :
    value? (fuel + 1) (symbolsOf (writtenObject bindings)) =
      some (object (bindings.map textMember), []) := by
  by_cases hne : bindings = []
  · subst hne
    simp [writtenObject, writeObject, symbolsOf, value?, skipGap, isGap]
  · obtain ⟨fuel, rfl⟩ : ∃ n, fuel = n + 1 := ⟨fuel - 1, by omega⟩
    have hbrace : ∀ rest, skipGap (some '\x7b' :: rest) = some '\x7b' :: rest := by
      simp [skipGap, isGap]
    obtain ⟨tail, htail⟩ := exists_skipGap_writtenMembers hne [some '\n', some '\x7d']
    have hmembers := members?_writtenMembers hne (Nat.le_of_lt_succ h) []
    rw [← members?_skipGap, htail] at hmembers
    rw [symbolsOf_writtenObject hne, value?, hbrace]
    simp [htail, hmembers]

lemma length_lt_symbolsOf_writtenObject (bindings : List (String × String)) :
    bindings.length < (symbolsOf (writtenObject bindings)).length := by
  have hmembers : ∀ bindings, bindings.length ≤ (writtenMembers bindings).length := by
    intro bindings
    induction bindings with
    | nil => simp
    | cons b bindings ih =>
      cases bindings with
      | nil => simp [writtenMembers_singleton, writeMember, symbolsOf]
      | cons b' bindings =>
        rw [writtenMembers_cons_cons]
        simp only [List.length_append, List.length_cons] at ih ⊢
        omega
  by_cases hne : bindings = []
  · subst hne
    simp [writtenObject, writeObject, symbolsOf]
  · rw [symbolsOf_writtenObject hne]
    have hle := hmembers bindings
    simp only [List.length_append, List.length_cons]
    omega

lemma texts?_object (bindings : List (String × String)) :
    (object (bindings.map textMember)).texts? = some bindings := by
  rw [texts?]
  induction bindings with
  | nil => rfl
  | cons b bindings ih =>
    rw [List.map_cons, List.mapM_cons, ih]
    rfl

/-- **An object of texts is read as it was written.** -/
theorem texts?_read?_writtenObject (bindings : List (String × String)) :
    (read? (writtenObject bindings).toUTF8).bind (·.texts?) = some bindings := by
  have hread : read? (writtenObject bindings).toUTF8 = some (object (bindings.map textMember)) := by
    have hsymbols : Text.symbols (writtenObject bindings).toUTF8 =
        symbolsOf (writtenObject bindings) := Text.symbols_toUTF8 _
    rw [read?, hsymbols, value?_writtenObject (length_lt_symbolsOf_writtenObject bindings)]
    rfl
  rw [hread]
  exact texts?_object bindings

end CsvQuery.Json
