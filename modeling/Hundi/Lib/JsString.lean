/-
  JavaScript strings and the byte encodings of their text.

  A JavaScript string is a sequence of UTF-16 code units, and nothing forces the surrogates in it
  to be paired: `JSON.parse` happily builds a string holding a lone `\uD800`.  So the carrier is
  `JsString = List UInt16`, not Lean's `String` (a sequence of Unicode scalar values), and the
  three operations a program applies to such text are defined on it:

  * `js`          — a source literal, as its code units;
  * `showInt`     — `String(n)` of an integer number;
  * `textEncode`  — `new TextEncoder().encode(s)`: UTF-8, every lone surrogate read as U+FFFD.

  `textEncode` is NOT injective on all strings (two lone surrogates collide), but it is on the
  well-formed ones (`WellFormed s`: `s` is the UTF-16 form of a list of scalar values), which is
  what `textEncode_inj` says and what a canonical serializer has to establish of its output.
-/
import Mathlib.Data.List.Basic

namespace Js

/-- A JavaScript string: its UTF-16 code units, lone surrogates allowed. -/
abbrev JsString := List UInt16

/-- The bytes a `Uint8Array` holds. -/
abbrev Bytes := List UInt8

/-! ## UTF-16 -/

/-- The code units of one Unicode scalar value: itself, or its surrogate pair. -/
def utf16Char (c : Char) : JsString :=
  if c.toNat < 0x10000 then [UInt16.ofNat c.toNat]
  else [UInt16.ofNat (0xD800 + (c.toNat - 0x10000) / 0x400),
    UInt16.ofNat (0xDC00 + (c.toNat - 0x10000) % 0x400)]

/-- The UTF-16 form of a list of scalar values. -/
def utf16 (l : List Char) : JsString := l.flatMap utf16Char

/-- The JavaScript string a source literal denotes. -/
def js (s : String) : JsString := utf16 s.toList

/-- `s` has no lone surrogate: it is the UTF-16 form of some text. -/
def WellFormed (s : JsString) : Prop := ∃ l : List Char, s = utf16 l

theorem wellFormed_nil : WellFormed [] := ⟨[], rfl⟩

theorem wellFormed_append {s t : JsString} (hs : WellFormed s) (ht : WellFormed t) :
    WellFormed (s ++ t) := by
  obtain ⟨l, rfl⟩ := hs
  obtain ⟨m, rfl⟩ := ht
  exact ⟨l ++ m, by rw [utf16, utf16, utf16, List.flatMap_append]⟩

theorem wellFormed_js (s : String) : WellFormed (js s) := ⟨s.toList, rfl⟩

/-- `0xD800 … 0xDBFF`: the first half of a surrogate pair. -/
def isHighSurrogate (c : UInt16) : Bool := 0xD800 ≤ c.toNat && c.toNat < 0xDC00

/-- `0xDC00 … 0xDFFF`: the second half of a surrogate pair. -/
def isLowSurrogate (c : UInt16) : Bool := 0xDC00 ≤ c.toNat && c.toNat < 0xE000

theorem toNat_ofNat {n : Nat} (h : n.isValidChar) : (Char.ofNat n).toNat = n := by
  rw [Char.ofNat, dif_pos h]
  rfl

/-- A code unit outside the surrogate range is a scalar value. -/
theorem isValidChar_unit {c : UInt16} (hh : isHighSurrogate c = false)
    (hl : isLowSurrogate c = false) : c.toNat.isValidChar := by
  simp only [isHighSurrogate, isLowSurrogate, Bool.and_eq_false_iff, decide_eq_false_iff_not] at hh hl
  have hc := c.toNat_lt
  simp only [Nat.isValidChar]
  omega

/-- A code unit outside the surrogate range is well formed on its own. -/
theorem wellFormed_unit {c : UInt16} (hh : isHighSurrogate c = false)
    (hl : isLowSurrogate c = false) : WellFormed [c] := by
  have hn := toNat_ofNat (isValidChar_unit hh hl)
  have hc := c.toNat_lt
  refine ⟨[Char.ofNat c.toNat], ?_⟩
  rw [utf16, List.flatMap_singleton, utf16Char, hn, if_pos (by omega), UInt16.ofNat_toNat]

/-- The scalar value of a surrogate pair. -/
def scalarOfPair (h l : UInt16) : Char :=
  Char.ofNat (0x10000 + (h.toNat - 0xD800) * 0x400 + (l.toNat - 0xDC00))

theorem toNat_scalarOfPair {h l : UInt16} (hh : isHighSurrogate h = true)
    (hl : isLowSurrogate l = true) :
    (scalarOfPair h l).toNat = 0x10000 + (h.toNat - 0xD800) * 0x400 + (l.toNat - 0xDC00) := by
  simp only [isHighSurrogate, isLowSurrogate, Bool.and_eq_true, decide_eq_true_eq] at hh hl
  refine toNat_ofNat ?_
  simp only [Nat.isValidChar]
  omega

/-- A surrogate pair is well formed. -/
theorem wellFormed_pair {h l : UInt16} (hh : isHighSurrogate h = true)
    (hl : isLowSurrogate l = true) : WellFormed [h, l] := by
  have hn := toNat_scalarOfPair hh hl
  simp only [isHighSurrogate, isLowSurrogate, Bool.and_eq_true, decide_eq_true_eq] at hh hl
  have h1 : 0xD800 + ((scalarOfPair h l).toNat - 0x10000) / 0x400 = h.toNat := by omega
  have h2 : 0xDC00 + ((scalarOfPair h l).toNat - 0x10000) % 0x400 = l.toNat := by omega
  refine ⟨[scalarOfPair h l], ?_⟩
  rw [utf16, List.flatMap_singleton, utf16Char, if_neg (by omega), h1, h2, UInt16.ofNat_toNat,
    UInt16.ofNat_toNat]

/-! ## `TextEncoder` -/

/-- The scalar value of a code unit that starts no pair; a lone surrogate reads as U+FFFD. -/
def unitScalar (c : UInt16) : Char :=
  if isHighSurrogate c || isLowSurrogate c then '\uFFFD' else Char.ofNat c.toNat

/-- The scalar values of a string, as `TextEncoder` reads them. -/
def toScalars : JsString → List Char
  | [] => []
  | [c] => [unitScalar c]
  | c :: d :: rest =>
    if isHighSurrogate c && isLowSurrogate d then scalarOfPair c d :: toScalars rest
    else unitScalar c :: toScalars (d :: rest)

/-- `new TextEncoder().encode(s)`. -/
def textEncode (s : JsString) : Bytes := (toScalars s).flatMap String.utf8EncodeChar

theorem toScalars_cons_of_not_high {c : UInt16} (h : isHighSurrogate c = false) (s : JsString) :
    toScalars (c :: s) = unitScalar c :: toScalars s := by
  cases s with
  | nil => rfl
  | cons d rest => rw [toScalars, h, Bool.false_and, if_neg (by decide)]

/-- Reading a well-formed string back gives the scalar values it was made of. -/
theorem toScalars_utf16 (l : List Char) : toScalars (utf16 l) = l := by
  induction l with
  | nil => rfl
  | cons c l ih =>
    have hv : c.toNat.isValidChar := c.valid
    simp only [Nat.isValidChar] at hv
    rw [utf16, List.flatMap_cons, ← utf16, utf16Char]
    by_cases hb : c.toNat < 0x10000
    · have hn : (UInt16.ofNat c.toNat).toNat = c.toNat := UInt16.toNat_ofNat_of_lt' hb
      have hh : isHighSurrogate (UInt16.ofNat c.toNat) = false := by
        simp only [isHighSurrogate, hn, Bool.and_eq_false_iff, decide_eq_false_iff_not]
        omega
      have hl : isLowSurrogate (UInt16.ofNat c.toNat) = false := by
        simp only [isLowSurrogate, hn, Bool.and_eq_false_iff, decide_eq_false_iff_not]
        omega
      rw [if_pos hb, List.singleton_append, toScalars_cons_of_not_high hh, ih, unitScalar, hh, hl,
        hn, Char.ofNat_toNat]
      rfl
    · rw [if_neg hb, List.cons_append, List.singleton_append]
      have h1 : (UInt16.ofNat (0xD800 + (c.toNat - 0x10000) / 0x400)).toNat
          = 0xD800 + (c.toNat - 0x10000) / 0x400 :=
        UInt16.toNat_ofNat_of_lt' (by simp only [UInt16.size]; omega)
      have h2 : (UInt16.ofNat (0xDC00 + (c.toNat - 0x10000) % 0x400)).toNat
          = 0xDC00 + (c.toNat - 0x10000) % 0x400 :=
        UInt16.toNat_ofNat_of_lt' (by simp only [UInt16.size]; omega)
      have hh : isHighSurrogate (UInt16.ofNat (0xD800 + (c.toNat - 0x10000) / 0x400)) = true := by
        simp only [isHighSurrogate, h1, Bool.and_eq_true, decide_eq_true_eq]
        omega
      have hl : isLowSurrogate (UInt16.ofNat (0xDC00 + (c.toNat - 0x10000) % 0x400)) = true := by
        simp only [isLowSurrogate, h2, Bool.and_eq_true, decide_eq_true_eq]
        omega
      have hc : scalarOfPair (UInt16.ofNat (0xD800 + (c.toNat - 0x10000) / 0x400))
          (UInt16.ofNat (0xDC00 + (c.toNat - 0x10000) % 0x400)) = c := by
        rw [← Char.toNat_inj, toNat_scalarOfPair hh hl, h1, h2]
        omega
      rw [toScalars, hh, hl, Bool.and_self, if_pos rfl, ih, hc]

theorem utf8_inj {l m : List Char}
    (h : l.flatMap String.utf8EncodeChar = m.flatMap String.utf8EncodeChar) : l = m := by
  have hb : l.utf8Encode = m.utf8Encode := by rw [List.utf8Encode, List.utf8Encode, h]
  rw [← String.toByteArray_ofList, ← String.toByteArray_ofList, String.toByteArray_inj] at hb
  have hl := congrArg String.toList hb
  rwa [String.toList_ofList, String.toList_ofList] at hl

/-- **`TextEncoder` is injective on well-formed strings.** -/
theorem textEncode_inj {s t : JsString} (hs : WellFormed s) (ht : WellFormed t)
    (h : textEncode s = textEncode t) : s = t := by
  obtain ⟨l, rfl⟩ := hs
  obtain ⟨m, rfl⟩ := ht
  rw [textEncode, textEncode, toScalars_utf16, toScalars_utf16] at h
  rw [utf8_inj h]

/-! ## Decimal numerals -/

/-- The decimal digits of a natural number. -/
def decimal (n : Nat) : JsString := utf16 (Nat.toDigits 10 n)

/-- `String(n)` of an integer number. -/
def showInt (n : Int) : JsString :=
  if n < 0 then js "-" ++ decimal n.natAbs else decimal n.natAbs

/-- `c` is one of the code units `0` … `9`. -/
def isDigit (c : UInt16) : Bool := 0x30 ≤ c.toNat && c.toNat ≤ 0x39

theorem decimal_inj {m n : Nat} (h : decimal m = decimal n) : m = n := by
  have hd := congrArg toScalars h
  rw [decimal, decimal, toScalars_utf16, toScalars_utf16] at hd
  rw [← Nat.ofDigitChars_ten_toDigits (n := m), hd, Nat.ofDigitChars_ten_toDigits]

theorem wellFormed_decimal (n : Nat) : WellFormed (decimal n) := ⟨_, rfl⟩

theorem wellFormed_showInt (n : Int) : WellFormed (showInt n) := by
  rw [showInt]
  split
  · exact wellFormed_append (wellFormed_js _) (wellFormed_decimal _)
  · exact wellFormed_decimal _

/-- The UTF-16 form of decimal digits is one code unit a digit. -/
theorem isDigit_of_mem_utf16 {l : List Char} (hl : ∀ c ∈ l, c.isDigit) :
    ∀ u ∈ utf16 l, isDigit u = true := by
  intro u hu
  rw [utf16, List.mem_flatMap] at hu
  obtain ⟨c, hc, hu⟩ := hu
  have hd := Char.isDigit_iff_toNat.mp (hl c hc)
  have h0 : '0'.toNat = 0x30 := rfl
  have h9 : '9'.toNat = 0x39 := rfl
  rw [utf16Char, if_pos (by omega), List.mem_singleton] at hu
  subst hu
  rw [isDigit, UInt16.toNat_ofNat_of_lt' (by simp only [UInt16.size]; omega)]
  simp only [Bool.and_eq_true, decide_eq_true_eq]
  omega

theorem isDigit_decimal (n : Nat) : ∀ u ∈ decimal n, isDigit u = true :=
  isDigit_of_mem_utf16 fun _ hc => Nat.isDigit_of_mem_toDigits (by decide) (by decide) hc

theorem decimal_ne_nil (n : Nat) : decimal n ≠ [] := by
  intro h
  have hd := congrArg toScalars h
  rw [decimal, toScalars_utf16] at hd
  exact Nat.toDigits_ne_nil hd

example : showInt (-120) = js "-120" := by decide
example : textEncode (js "é") = [0xC3, 0xA9] := by decide

end Js
