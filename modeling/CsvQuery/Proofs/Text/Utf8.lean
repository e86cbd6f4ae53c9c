import CsvQuery.Text.Utf8
import Mathlib.Tactic.Common

/-!
Texts as bytes. The bytes of a text are those of its characters, they decode to the text again, and
a byte below `0x80` is a character of its own: it is no part of the bytes of another one. Divided
into symbols, the bytes are the characters, and no byte is left over.
-/

namespace CsvQuery.Text

def bytes (s : String) : List UInt8 :=
  s.toUTF8.data.toList

lemma bytes_eq_flatMap (s : String) : bytes s = s.toList.flatMap String.utf8EncodeChar := by
  rw [bytes, String.toUTF8_eq_toByteArray, ← String.utf8Encode_toList, List.utf8Encode,
    List.data_toByteArray]

@[simp] lemma bytes_append (s t : String) : bytes (s ++ t) = bytes s ++ bytes t := by
  simp [bytes_eq_flatMap]

lemma bytes_ofList (cs : List Char) :
    bytes (String.ofList cs) = cs.flatMap String.utf8EncodeChar := by
  simp [bytes_eq_flatMap]

lemma bytes_join (lines : List String) : bytes (String.join lines) = lines.flatMap bytes := by
  induction lines with
  | nil => rfl
  | cons line lines ih => rw [String.join_cons, bytes_append, ih, List.flatMap_cons]

lemma decode_bytes (s : String) : decode ⟨(bytes s).toArray⟩ = .ok s := by
  have hvalid : String.fromUTF8? s.toByteArray = some s := by
    simp only [String.fromUTF8?, dif_pos s.isValidUTF8]
    rfl
  have hbytes : (⟨(bytes s).toArray⟩ : ByteArray) = s.toByteArray := by
    simp [bytes]
  rw [decode, hbytes, hvalid]

lemma bytes_inj {s t : String} (h : bytes s = bytes t) : s = t := by
  have hs := decode_bytes s
  rw [h, decode_bytes t] at hs
  exact (Except.ok.inj hs).symm

/-- A character below `0x80` is a single byte, and the bytes of the others are not below. -/
lemma utf8EncodeChar_cases (c : Char) :
    (c.toNat < 0x80 ∧ String.utf8EncodeChar c = [UInt8.ofNat c.toNat]) ∨
      ∀ b ∈ String.utf8EncodeChar c, 0x80 ≤ b.toNat := by
  have hvalue : c.val.toNat = c.toNat := rfl
  simp only [String.utf8EncodeChar, hvalue]
  by_cases hsmall : c.toNat ≤ 0x7F
  · rw [if_pos hsmall]
    exact .inl ⟨by omega, rfl⟩
  · rw [if_neg hsmall]
    refine .inr fun b hb => ?_
    split at hb
    · simp only [List.mem_cons, List.not_mem_nil, or_false] at hb
      rcases hb with rfl | rfl <;> rw [UInt8.toNat_ofNat'] <;> omega
    · split at hb
      · simp only [List.mem_cons, List.not_mem_nil, or_false] at hb
        rcases hb with rfl | rfl | rfl <;> rw [UInt8.toNat_ofNat'] <;> omega
      · simp only [List.mem_cons, List.not_mem_nil, or_false] at hb
        rcases hb with rfl | rfl | rfl | rfl <;> rw [UInt8.toNat_ofNat'] <;> omega

lemma eq_of_mem_utf8EncodeChar {c d : Char} (hd : d.toNat < 0x80)
    (h : UInt8.ofNat d.toNat ∈ String.utf8EncodeChar c) : c = d := by
  have hvalue : (UInt8.ofNat d.toNat).toNat = d.toNat := by
    rw [UInt8.toNat_ofNat']
    omega
  rcases utf8EncodeChar_cases c with ⟨hc, hbytes⟩ | hlarge
  · rw [hbytes, List.mem_singleton] at h
    have hsame := congrArg UInt8.toNat h
    rw [hvalue, UInt8.toNat_ofNat'] at hsame
    exact Char.toNat_inj.mp (by omega)
  · have hle := hlarge _ h
    omega

lemma head?_of_bytes_mark {s : String} {rest : List UInt8}
    (h : bytes s = 0xEF :: 0xBB :: 0xBF :: rest) : s.toList.head? = some '\ufeff' := by
  have hmark : bytes s = String.utf8EncodeChar '\ufeff' ++ rest := h
  rw [bytes_eq_flatMap] at hmark
  cases hs : s.toList with
  | nil =>
    rw [hs] at hmark
    cases hmark
  | cons c cs =>
    rw [hs, List.flatMap_cons] at hmark
    -- The first character of the bytes is the same, however it is decoded.
    have hdecoded := congrArg (fun l : List UInt8 => l.toByteArray.utf8DecodeChar? 0) hmark
    simp only [List.toByteArray_append, ByteArray.utf8DecodeChar?_utf8EncodeChar_append] at hdecoded
    exact hdecoded

/-! ### Symbols -/

lemma size_utf8Encode_singleton (c : Char) : [c].utf8Encode.size = c.utf8Size := by
  rw [List.utf8Encode_singleton, List.size_toByteArray, String.length_utf8EncodeChar]

lemma length_le_size_utf8Encode (cs : List Char) : cs.length ≤ cs.utf8Encode.size := by
  induction cs with
  | nil => simp
  | cons c cs ih =>
    have hpos := c.utf8Size_pos
    rw [List.utf8Encode_cons, ByteArray.size_append, size_utf8Encode_singleton, List.length_cons]
    omega

lemma symbolsFrom_utf8Encode (cs : List Char) (before : ByteArray) {fuel : Nat}
    (h : cs.length ≤ fuel) :
    symbolsFrom (before ++ cs.utf8Encode) before.size fuel = cs.map some := by
  induction cs generalizing before fuel with
  | nil => cases fuel <;> simp [symbolsFrom]
  | cons c cs ih =>
    obtain ⟨fuel, rfl⟩ : ∃ n, fuel = n + 1 := ⟨fuel - 1, by simp at h; omega⟩
    have hsize := size_utf8Encode_singleton c
    have hpos := c.utf8Size_pos
    have hinside : ¬(before ++ (c :: cs).utf8Encode).size ≤ before.size := by
      rw [ByteArray.size_append, List.utf8Encode_cons, ByteArray.size_append, hsize]
      omega
    have hdecode : (before ++ (c :: cs).utf8Encode).utf8DecodeChar? before.size = some c := by
      rw [ByteArray.utf8DecodeChar?_eq_utf8DecodeChar?_extract,
        ByteArray.extract_append_eq_right rfl ByteArray.size_append,
        List.utf8DecodeChar?_utf8Encode_cons]
    have hrest := ih (before ++ [c].utf8Encode) (Nat.le_of_succ_le_succ h)
    rw [ByteArray.append_assoc, ← List.utf8Encode_cons, ByteArray.size_append, hsize] at hrest
    rw [symbolsFrom, if_neg hinside, hdecode]
    simp only [hrest, List.map_cons]

/-- **The symbols of a text are its characters.** -/
theorem symbols_toUTF8 (s : String) : symbols s.toUTF8 = s.toList.map some := by
  have hsymbols := symbolsFrom_utf8Encode s.toList ByteArray.empty
    (length_le_size_utf8Encode s.toList)
  rwa [ByteArray.empty_append, String.utf8Encode_toList, ← String.toUTF8_eq_toByteArray] at hsymbols

end CsvQuery.Text
