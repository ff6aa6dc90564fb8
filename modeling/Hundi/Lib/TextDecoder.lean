/-
  `TextDecoder`, and that it undoes `TextEncoder`.

  `textDecode` is the UTF-8 decoder of the Encoding Standard with its default flags: a byte order
  mark in front is dropped, and a sequence that breaks off is read as U+FFFD, after which decoding
  goes on with the byte that did not fit.

  `textDecode_textEncode`: a text without a lone surrogate that does not start with U+FEFF is read
  back from its bytes.  The one step is `decodeScalar_utf8EncodeChar`, a case for each length of a
  scalar value's encoding.
-/
import Hundi.Lib.JsString

namespace Js

/-- Reads the `need` continuation bytes that are due after `acc`, the first one between `lower` and
    `upper`: the scalar value, and the bytes behind it. -/
def continueScalar : Nat → Nat → Nat → Nat → Bytes → Char × Bytes
  | 0, acc, _, _, rest => (Char.ofNat acc, rest)
  | _ + 1, _, _, _, [] => ('\uFFFD', [])
  | need + 1, acc, lower, upper, b :: rest =>
    if lower ≤ b.toNat && b.toNat ≤ upper then
      continueScalar need (acc * 64 + (b.toNat - 0x80)) 0x80 0xBF rest
    else ('\uFFFD', b :: rest)

/-- The scalar value that starts with byte `b`, and the bytes behind it.  The narrower bounds keep
    out overlong forms, surrogates and what lies beyond U+10FFFF. -/
def decodeScalar (b : UInt8) (rest : Bytes) : Char × Bytes :=
  let n := b.toNat
  if n ≤ 0x7F then (Char.ofNat n, rest)
  else if 0xC2 ≤ n && n ≤ 0xDF then continueScalar 1 (n - 0xC0) 0x80 0xBF rest
  else if 0xE0 ≤ n && n ≤ 0xEF then
    continueScalar 2 (n - 0xE0) (if n = 0xE0 then 0xA0 else 0x80) (if n = 0xED then 0x9F else 0xBF)
      rest
  else if 0xF0 ≤ n && n ≤ 0xF4 then
    continueScalar 3 (n - 0xF0) (if n = 0xF0 then 0x90 else 0x80) (if n = 0xF4 then 0x8F else 0xBF)
      rest
  else ('\uFFFD', rest)

/-- The scalar values of a byte sequence; each takes at least one byte, so `fuel` is its length. -/
def decodeScalars : Nat → Bytes → List Char
  | 0, _ => []
  | _ + 1, [] => []
  | fuel + 1, b :: rest => (decodeScalar b rest).1 :: decodeScalars fuel (decodeScalar b rest).2

/-- `new TextDecoder().decode(bytes)`. -/
def textDecode (bytes : Bytes) : JsString :=
  match decodeScalars bytes.length bytes with
  | [] => []
  | c :: l => if c = '\uFEFF' then utf16 l else utf16 (c :: l)

/-! ## One scalar value -/

theorem toNat_ofNat_byte {n : Nat} (h : n < 256) : (UInt8.ofNat n).toNat = n :=
  UInt8.toNat_ofNat_of_lt' (by simp only [UInt8.size]; omega)

/-- A continuation byte within the bounds adds its six bits. -/
theorem continueScalar_byte (need acc lower upper m : Nat) (rest : Bytes) (hm : m < 64)
    (hl : lower ≤ m + 0x80) (hu : m + 0x80 ≤ upper) :
    continueScalar (need + 1) acc lower upper (UInt8.ofNat (m + 0x80) :: rest) =
      continueScalar need (acc * 64 + m) 0x80 0xBF rest := by
  have hb : (UInt8.ofNat (m + 0x80)).toNat = m + 0x80 := toNat_ofNat_byte (by omega)
  have hbounds : (decide (lower ≤ m + 0x80) && decide (m + 0x80 ≤ upper)) = true := by
    rw [decide_eq_true hl, decide_eq_true hu]
    rfl
  rw [continueScalar, hb, if_pos hbounds, Nat.add_sub_cancel]

/-- **A scalar value is read back from its encoding.** -/
theorem decodeScalar_utf8EncodeChar (c : Char) (rest : Bytes) :
    ∃ b bs, String.utf8EncodeChar c = b :: bs ∧ decodeScalar b (bs ++ rest) = (c, rest) := by
  have hvalid : c.toNat.isValidChar := c.valid
  simp only [Nat.isValidChar] at hvalid
  have hval : c.val.toNat = c.toNat := rfl
  have hc : ∀ n, n = c.toNat → Char.ofNat n = c := by
    rintro n rfl
    exact Char.ofNat_toNat c
  rw [String.utf8EncodeChar, hval]
  by_cases h1 : c.toNat ≤ 0x7F
  · -- one byte
    refine ⟨_, [], if_pos h1, ?_⟩
    rw [decodeScalar, toNat_ofNat_byte (by omega)]
    simp only [if_pos h1]
    rw [hc _ rfl]
    rfl
  rw [if_neg h1]
  by_cases h2 : c.toNat ≤ 0x7FF
  · -- two bytes
    refine ⟨_, _, if_pos h2, ?_⟩
    rw [decodeScalar, toNat_ofNat_byte (by omega)]
    simp only [List.cons_append, List.nil_append]
    rw [if_neg (by omega), if_pos (by simp only [Bool.and_eq_true, decide_eq_true_eq]; omega),
      continueScalar_byte 0 _ _ _ _ _ (by omega) (by omega) (by omega), continueScalar,
      hc _ (by omega)]
  rw [if_neg h2]
  by_cases h3 : c.toNat ≤ 0xFFFF
  · -- three bytes
    refine ⟨_, _, if_pos h3, ?_⟩
    rw [decodeScalar, toNat_ofNat_byte (by omega)]
    simp only [List.cons_append, List.nil_append]
    have hlower : (if c.toNat / 4096 % 0x10 + 0xE0 = 0xE0 then 0xA0 else 0x80) ≤
        c.toNat / 64 % 0x40 + 0x80 := by
      split <;> omega
    have hupper : c.toNat / 64 % 0x40 + 0x80 ≤
        (if c.toNat / 4096 % 0x10 + 0xE0 = 0xED then 0x9F else 0xBF) := by
      split <;> omega
    rw [if_neg (by omega), if_neg (by simp only [Bool.and_eq_true, decide_eq_true_eq]; omega),
      if_pos (by simp only [Bool.and_eq_true, decide_eq_true_eq]; omega),
      continueScalar_byte 1 _ _ _ _ _ (by omega) hlower hupper,
      continueScalar_byte 0 _ _ _ _ _ (by omega) (by omega) (by omega), continueScalar,
      hc _ (by omega)]
  · -- four bytes
    rw [if_neg h3]
    refine ⟨_, _, rfl, ?_⟩
    rw [decodeScalar, toNat_ofNat_byte (by omega)]
    simp only [List.cons_append, List.nil_append]
    have hlower : (if c.toNat / 262144 % 0x08 + 0xF0 = 0xF0 then 0x90 else 0x80) ≤
        c.toNat / 4096 % 0x40 + 0x80 := by
      split <;> omega
    have hupper : c.toNat / 4096 % 0x40 + 0x80 ≤
        (if c.toNat / 262144 % 0x08 + 0xF0 = 0xF4 then 0x8F else 0xBF) := by
      split <;> omega
    rw [if_neg (by omega), if_neg (by simp only [Bool.and_eq_true, decide_eq_true_eq]; omega),
      if_neg (by simp only [Bool.and_eq_true, decide_eq_true_eq]; omega),
      if_pos (by simp only [Bool.and_eq_true, decide_eq_true_eq]; omega),
      continueScalar_byte 2 _ _ _ _ _ (by omega) hlower hupper,
      continueScalar_byte 1 _ _ _ _ _ (by omega) (by omega) (by omega),
      continueScalar_byte 0 _ _ _ _ _ (by omega) (by omega) (by omega), continueScalar,
      hc _ (by omega)]

/-! ## The round trip -/

theorem decodeScalars_utf8 (l : List Char) : ∀ fuel, (l.flatMap String.utf8EncodeChar).length ≤ fuel →
    decodeScalars fuel (l.flatMap String.utf8EncodeChar) = l := by
  induction l with
  | nil =>
    intro fuel _
    cases fuel <;> rfl
  | cons c l ih =>
    intro fuel hf
    obtain ⟨b, bs, hb, hdec⟩ := decodeScalar_utf8EncodeChar c (l.flatMap String.utf8EncodeChar)
    rw [List.flatMap_cons, hb, List.cons_append] at hf ⊢
    rw [List.length_cons, List.length_append] at hf
    obtain ⟨fuel, rfl⟩ : ∃ k, fuel = k + 1 := ⟨fuel - 1, by omega⟩
    rw [decodeScalars, hdec, ih fuel (by omega)]

/-- **`TextDecoder` undoes `TextEncoder`** on a text without a lone surrogate or a byte order mark in
    front. -/
theorem textDecode_textEncode {s : JsString} (hs : WellFormed s) (hbom : s.head? ≠ some 0xFEFF) :
    textDecode (textEncode s) = s := by
  obtain ⟨l, rfl⟩ := hs
  rw [textEncode, toScalars_utf16, textDecode, decodeScalars_utf8 l _ (Nat.le_refl _)]
  cases l with
  | nil => rfl
  | cons c l =>
    show (if c = '\uFEFF' then utf16 l else utf16 (c :: l)) = utf16 (c :: l)
    rw [if_neg]
    rintro rfl
    exact hbom rfl

example : textDecode [0x7B, 0xE2, 0x82, 0xAC, 0xF0, 0x9F, 0x98, 0x80, 0xE2, 0x82] =
    [0x7B, 0x20AC, 0xD83D, 0xDE00, 0xFFFD] := by rfl

end Js
