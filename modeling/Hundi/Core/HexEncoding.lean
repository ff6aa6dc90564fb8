/-
  packages/core/src/signature.ts — which strings `hexToBytes` takes for hexadecimal.

  The loop hands every two characters to `Number.parseInt(pair, 16)`, which takes white space and a sign
  off the front and stops at the first character that is no digit.  So a pair is read as soon as it has
  one digit in the right place, and what it is read as is stored modulo 256:

    pairByte_digits        two digits are the byte they write
    pairByte_stray         any other pair is a byte below 0x10 or above 0xf0
    exists_alias           such a byte has a second spelling without capitals
    hex_read_exactly_iff   which strings are read exactly
-/
import Hundi.Core.Signature
import Hundi.Lib.JsText

namespace Hundi

open Js

/-! ## What is asked -/

def isHexDigit (c : UInt16) : Bool := (hexValue c).isSome

/-- An even number of hexadecimal digits and nothing else. -/
def IsHex (hex : JsString) : Prop := hex.length % 2 = 0 ∧ ∀ c ∈ hex, isHexDigit c = true

/-- Two strings denote the same bytes, as signatures and as keys. -/
def SameBytes (hex other : JsString) : Prop :=
  ∃ bytes, hexToBytes hex = .ok bytes ∧ hexToBytes other = .ok bytes

/-- The string is read as hexadecimal only if it is, as what it writes, and if it has no capitals then no
    other string without capitals is read as the same bytes. -/
structure ReadExactly (hex : JsString) : Prop where
  accepted : (∃ bytes, hexToBytes hex = .ok bytes) ↔ IsHex hex
  inverse : ∀ bytes, hexToBytes hex = .ok bytes → bytesToHex bytes = asciiLower hex
  unique : asciiLower hex = hex → ∀ other, asciiLower other = other → SameBytes hex other → other = hex

/-! ## When it is so -/

/-- The pairs that the loop reads. -/
def pairsOf : JsString → List (UInt16 × UInt16)
  | a :: b :: rest => (a, b) :: pairsOf rest
  | _ => []

/-- `parseInt` finds a number in the pair: it starts with a digit and is not `0x`, or it has one behind
    white space or a sign. -/
def readablePair (p : UInt16 × UInt16) : Bool :=
  if isHexDigit p.1 then !(p.1 == 0x30 && (p.2 == 0x78 || p.2 == 0x58))
  else (isStrWhiteSpace p.1 || p.1 == 0x2B || p.1 == 0x2D) && isHexDigit p.2

/-- A pair of digits, without capitals, whose byte has no other spelling: it writes 0x10 to 0xf0. -/
def plainPair (p : UInt16 × UInt16) : Bool := p.1 != 0x30 && (p.1 != 0x66 || p.2 == 0x30)

/-- The string is refused, or it is hexadecimal, with plain pairs only if it has no capitals. -/
def ReadPlainly (hex : JsString) : Prop :=
  hex.length % 2 = 0 → (∀ p ∈ pairsOf hex, readablePair p = true) →
    IsHex hex ∧ (asciiLower hex = hex → ∀ p ∈ pairsOf hex, plainPair p = true)

/-! ## One pair -/

theorem range_of_space {c : UInt16} (h : isStrWhiteSpace c = true) : c.toNat ≤ 0x20 ∨ 0xA0 ≤ c.toNat :=
  range_of_isWhiteSpace h

theorem hexValue_bounds {c : UInt16} (h : (hexValue c).isSome = true) :
    (0x30 ≤ c.toNat ∧ c.toNat ≤ 0x39) ∨ (0x61 ≤ c.toNat ∧ c.toNat ≤ 0x66) ∨
      (0x41 ≤ c.toNat ∧ c.toNat ≤ 0x46) := by
  simp only [hexValue, Bool.and_eq_true, decide_eq_true_eq] at h
  split at h
  · omega
  split at h
  · omega
  split at h
  · omega
  · exact absurd h (by simp)

/-- Letter case does not change a digit's value. -/
theorem hexValue_lowerUnit (c : UInt16) : hexValue (lowerUnit c) = hexValue c := by
  by_cases hcapital : 0x41 ≤ c.toNat ∧ c.toNat ≤ 0x5A
  · simp only [hexValue, Bool.and_eq_true, decide_eq_true_eq, toNat_lowerUnit]
    rw [if_pos hcapital, if_neg (by omega), if_neg (by omega : ¬ (0x30 ≤ c.toNat ∧ c.toNat ≤ 0x39)),
      if_neg (by omega : ¬ (0x61 ≤ c.toNat ∧ c.toNat ≤ 0x66))]
    by_cases hdigit : c.toNat ≤ 0x46
    · rw [if_pos (by omega), if_pos (by omega)]
      congr 1
    · rw [if_neg (by omega), if_neg (by omega), if_neg (by omega)]
  · rw [lowerUnit, if_neg (by simpa using hcapital)]

/-- **Hexadecimal digits are read as the number they are.** -/
theorem parseIntHex_digits {s : JsString} (hne : s ≠ [])
    (h : ∀ c ∈ s, (hexValue c).isSome = true) :
    parseIntHex s = some (((s.filterMap hexValue).foldl (fun n d => n * 16 + d) 0 : Nat) : Int) := by
  obtain ⟨c, rest, rfl⟩ := List.exists_cons_of_ne_nil hne
  have hc := hexValue_bounds (h c List.mem_cons_self)
  have hspace : ¬ isStrWhiteSpace c = true := by
    intro hspace
    have := range_of_space hspace
    omega
  have htake : (c :: rest).takeWhile (fun c => (hexValue c).isSome) = c :: rest :=
    List.takeWhile_eq_self_iff.mpr h
  obtain ⟨d, hd⟩ := Option.isSome_iff_exists.mp (h c List.mem_cons_self)
  have hstarts : hexPrefix (c :: rest)
      = some (((c :: rest).filterMap hexValue).foldl (fun n d => n * 16 + d) 0) := by
    rw [hexPrefix, htake, List.filterMap_cons_some hd]
  rw [parseIntHex, List.dropWhile_cons_of_neg hspace]
  dsimp only
  split
  · rename_i heq
    obtain rfl := (List.cons.inj heq).1
    exact absurd hc (by decide)
  · rename_i heq
    obtain rfl := (List.cons.inj heq).1
    exact absurd hc (by decide)
  · dsimp only
    split
    · rename_i x rest' heq
      obtain ⟨rfl, rfl⟩ := List.cons.inj heq
      have hx := hexValue_bounds (h x (List.mem_cons_of_mem _ List.mem_cons_self))
      have hsmall : ¬ (x == 0x78 || x == 0x58) = true := by
        rw [Bool.or_eq_true, beq_iff_eq, beq_iff_eq]
        rintro (rfl | rfl) <;> exact absurd hx (by decide)
      rw [if_neg hsmall, hstarts]
      exact congrArg some (Int.one_mul _)
    · rw [hstarts]
      exact congrArg some (Int.one_mul _)

theorem hexValue_lt {c : UInt16} {n : Nat} (h : hexValue c = some n) : n < 16 := by
  have hbounds := hexValue_bounds (by rw [h]; rfl : (hexValue c).isSome = true)
  simp only [hexValue, Bool.and_eq_true, decide_eq_true_eq] at h
  split at h
  · obtain rfl := Option.some.inj h
    omega
  split at h
  · obtain rfl := Option.some.inj h
    omega
  split at h
  · obtain rfl := Option.some.inj h
    omega
  · exact absurd h (by simp)

/-- The digit that is written for a digit's value is the digit, without capitals. -/
theorem hexDigit_hexValue {c : UInt16} {n : Nat} (h : hexValue c = some n) : hexDigit n = lowerUnit c := by
  have hlt := hexValue_lt h
  have hnat : (hexDigit n).toNat = if n < 10 then 0x30 + n else 0x57 + n := by
    rw [hexDigit, UInt16.toNat_ofNat']
    split <;> omega
  apply UInt16.toNat_inj.mp
  rw [hnat, toNat_lowerUnit]
  simp only [hexValue, Bool.and_eq_true, decide_eq_true_eq] at h
  split at h
  · obtain rfl := Option.some.inj h
    rw [if_pos (by omega), if_neg (by omega)]
    omega
  split at h
  · obtain rfl := Option.some.inj h
    rw [if_neg (by omega), if_neg (by omega)]
    omega
  split at h
  · obtain rfl := Option.some.inj h
    rw [if_neg (by omega), if_pos (by omega)]
    omega
  · exact absurd h (by simp)

theorem hexValue_hexDigit : ∀ n < 16, hexValue (hexDigit n) = some n := by decide

theorem lowerUnit_hexDigit : ∀ n < 16, lowerUnit (hexDigit n) = hexDigit n := by decide

theorem hexPrefix_single (b : UInt16) : hexPrefix [b] = hexValue b := by
  rw [hexPrefix]
  cases hb : hexValue b with
  | none => simp [List.takeWhile, hb]
  | some y => simp [List.takeWhile, hb]

/-- One character behind the sign. -/
theorem hexPrefix_behind (sign : Int) (b : UInt16) :
    ((hexPrefix (match [b] with
      | 0x30 :: x :: rest => if x == 0x78 || x == 0x58 then rest else [b]
      | _ => [b])).map fun n : Nat => sign * (n : Int)) = (hexValue b).map fun y : Nat => sign * (y : Int) := by
  have hone : (match [b] with
      | 0x30 :: x :: rest => if x == 0x78 || x == 0x58 then rest else [b]
      | _ => [b]) = [b] := by
    split
    · rename_i heq
      exact absurd heq (by simp)
    · rfl
  rw [hone, hexPrefix_single]

theorem map_cast (sign : Int) (o : Option Nat) :
    (Option.map (fun n => sign * n) do
      let a ← o
      pure (a : Int)) = o.map fun n : Nat => sign * (n : Int) := by
  cases o <;> rfl

/-- One character. -/
theorem parseIntHex_single (b : UInt16) : parseIntHex [b] = (hexValue b).map fun y : Nat => (y : Int) := by
  by_cases hspace : isStrWhiteSpace b = true
  · have hb : hexValue b = none := by
      rw [← Option.not_isSome_iff_eq_none]
      intro h
      have hdigit := hexValue_bounds h
      have hrange := range_of_space hspace
      omega
    rw [parseIntHex, List.dropWhile_cons_of_pos hspace, hb]
    rfl
  · rw [parseIntHex, List.dropWhile_cons_of_neg hspace]
    dsimp only
    split
    · rename_i heq
      obtain ⟨rfl, rfl⟩ := List.cons.inj heq
      rfl
    · rename_i heq
      obtain ⟨rfl, rfl⟩ := List.cons.inj heq
      rfl
    · have hread := (map_cast 1 _).trans (hexPrefix_behind 1 b)
      exact hread.trans (congrArg (fun f => (hexValue b).map f) (funext fun y => Int.one_mul _))

/-- White space is skipped. -/
theorem parseIntHex_space {a : UInt16} (ha : isStrWhiteSpace a = true) (s : JsString) :
    parseIntHex (a :: s) = parseIntHex s := by
  rw [parseIntHex, parseIntHex, List.dropWhile_cons_of_pos ha]

theorem parseIntHex_minus (b : UInt16) :
    parseIntHex [0x2D, b] = (hexValue b).map fun y : Nat => -1 * (y : Int) := by
  rw [parseIntHex, List.dropWhile_cons_of_neg (by decide)]
  exact (map_cast (-1) _).trans (hexPrefix_behind (-1) b)

theorem parseIntHex_plus (b : UInt16) :
    parseIntHex [0x2B, b] = (hexValue b).map fun y : Nat => 1 * (y : Int) := by
  rw [parseIntHex, List.dropWhile_cons_of_neg (by decide)]
  exact (map_cast 1 _).trans (hexPrefix_behind 1 b)

/-- A digit, and behind it what is none. -/
theorem parseIntHex_stop {a b : UInt16} {x : Nat} (ha : hexValue a = some x) (hb : hexValue b = none) :
    parseIntHex [a, b] = if a = 0x30 ∧ (b = 0x78 ∨ b = 0x58) then none else some (x : Int) := by
  have hbounds := hexValue_bounds (by rw [ha]; rfl : (hexValue a).isSome = true)
  have hspace : ¬ isStrWhiteSpace a = true := by
    intro hspace
    have := range_of_space hspace
    omega
  have hread : hexPrefix [a, b] = some x := by
    rw [hexPrefix, List.takeWhile_cons_of_pos (by rw [ha]; rfl), List.takeWhile_cons_of_neg (by simp [hb]),
      List.filterMap_cons_some ha, List.filterMap_nil]
    simp
  rw [parseIntHex, List.dropWhile_cons_of_neg hspace]
  dsimp only
  split
  · rename_i heq
    obtain rfl := (List.cons.inj heq).1
    exact absurd hbounds (by decide)
  · rename_i heq
    obtain rfl := (List.cons.inj heq).1
    exact absurd hbounds (by decide)
  · dsimp only
    rw [map_cast]
    split
    · rename_i y rest heq
      obtain ⟨hzero, htail⟩ := List.cons.inj heq
      obtain ⟨rfl, rfl⟩ := List.cons.inj htail
      by_cases hx : b = 0x78 ∨ b = 0x58
      · rw [if_pos (by simpa using hx), if_pos ⟨hzero, hx⟩]
        rfl
      · rw [if_neg (by simpa using hx), if_neg fun h => hx h.2, hread]
        exact congrArg some (Int.one_mul _)
    · rename_i hzero
      rw [if_neg fun h => hzero b [] (by rw [h.1]), hread]
      exact congrArg some (Int.one_mul _)

/-- Neither a digit, nor white space or a sign in front of one. -/
theorem parseIntHex_stray {a b : UInt16} (ha : hexValue a = none) (hspace : ¬ isStrWhiteSpace a = true)
    (hminus : a ≠ 0x2D) (hplus : a ≠ 0x2B) : parseIntHex [a, b] = none := by
  have hread : hexPrefix [a, b] = none := by
    rw [hexPrefix, List.takeWhile_cons_of_neg (by simp [ha])]
    rfl
  rw [parseIntHex, List.dropWhile_cons_of_neg hspace]
  dsimp only
  split
  · rename_i heq
    exact absurd (List.cons.inj heq).1 hminus
  · rename_i heq
    exact absurd (List.cons.inj heq).1 hplus
  · dsimp only
    split
    · rename_i heq
      obtain rfl := (List.cons.inj heq).1
      exact absurd ha (by decide)
    · rw [hread]
      rfl

/-! ## The byte of a pair -/

/-- The byte that the loop stores for a pair. -/
def pairByte (p : UInt16 × UInt16) : Option UInt8 :=
  (parseIntHex [p.1, p.2]).map fun byte => UInt8.ofNat (byte % 256).toNat

theorem isHexDigit_iff {c : UInt16} : isHexDigit c = true ↔ ∃ n, hexValue c = some n :=
  Option.isSome_iff_exists

theorem not_isHexDigit {c : UInt16} : isHexDigit c = false ↔ hexValue c = none := by
  rw [isHexDigit, Option.isSome_eq_false_iff, Option.isNone_iff_eq_none]

/-- **Two digits** are the byte they write. -/
theorem pairByte_digits {a b : UInt16} {x y : Nat} (ha : hexValue a = some x) (hb : hexValue b = some y) :
    pairByte (a, b) = some (UInt8.ofNat (x * 16 + y)) := by
  have hx := hexValue_lt ha
  have hy := hexValue_lt hb
  have hread : parseIntHex [a, b] = some ((x * 16 + y : Nat) : Int) := by
    rw [parseIntHex_digits (List.cons_ne_nil _ _), List.filterMap_cons_some ha,
      List.filterMap_cons_some hb, List.filterMap_nil, List.foldl_cons, List.foldl_cons, List.foldl_nil,
      Nat.zero_mul, Nat.zero_add]
    intro c hc
    rcases List.mem_cons.mp hc with rfl | hc
    · rw [ha]
      rfl
    · rw [List.mem_singleton.mp hc, hb]
      rfl
  rw [pairByte, hread, Option.map_some]
  congr 2
  omega

theorem pairByte_plus {b : UInt16} {y : Nat} (hb : hexValue b = some y) :
    pairByte (0x2B, b) = some (UInt8.ofNat y) := by
  have hy := hexValue_lt hb
  rw [pairByte, parseIntHex_plus, hb, Option.map_some, Option.map_some]
  congr 2
  omega

/-- A negative number is stored modulo 256. -/
theorem pairByte_minus {b : UInt16} {y : Nat} (hb : hexValue b = some y) :
    pairByte (0x2D, b) = some (UInt8.ofNat ((256 - y) % 256)) := by
  have hy := hexValue_lt hb
  rw [pairByte, parseIntHex_minus, hb, Option.map_some, Option.map_some]
  congr 2
  omega

theorem readablePair_digit {a b : UInt16} (h : isHexDigit a = true) :
    readablePair (a, b) = true ↔ ¬ (a = 0x30 ∧ (b = 0x78 ∨ b = 0x58)) := by
  rw [readablePair, if_pos h, Bool.not_eq_true', ← Bool.not_eq_true, Bool.and_eq_true, Bool.or_eq_true,
    beq_iff_eq, beq_iff_eq, beq_iff_eq]

/-- Each kind of pair that is not two digits. -/
theorem pairByte_other {a b : UInt16} (h : ¬ (isHexDigit a = true ∧ isHexDigit b = true)) :
    pairByte (a, b) = none ∧ readablePair (a, b) = false ∨
      ∃ n < 256, (n < 16 ∨ 240 < n) ∧ pairByte (a, b) = some (UInt8.ofNat n) ∧
        readablePair (a, b) = true := by
  cases ha : hexValue a with
  | some x =>
    -- a digit, and what stops the number
    have hdigit : isHexDigit a = true := isHexDigit_iff.mpr ⟨x, ha⟩
    have hb : hexValue b = none := by
      rw [← not_isHexDigit, ← Bool.not_eq_true]
      exact fun hb => h ⟨hdigit, hb⟩
    have hx := hexValue_lt ha
    rw [pairByte, parseIntHex_stop ha hb]
    by_cases hzero : a = 0x30 ∧ (b = 0x78 ∨ b = 0x58)
    · rw [if_pos hzero, ← Bool.not_eq_true, readablePair_digit hdigit]
      exact .inl ⟨rfl, not_not_intro hzero⟩
    · rw [if_neg hzero, Option.map_some]
      refine .inr ⟨x, by omega, .inl hx, ?_, (readablePair_digit hdigit).mpr hzero⟩
      congr 2
      omega
  | none =>
    have hdigit : ¬ isHexDigit a = true := by
      rw [Bool.not_eq_true, not_isHexDigit]
      exact ha
    rw [readablePair, if_neg hdigit]
    by_cases hspace : isStrWhiteSpace a = true
    · rw [pairByte, parseIntHex_space hspace, parseIntHex_single, hspace, Bool.true_or, Bool.true_or,
        Bool.true_and]
      cases hb : hexValue b with
      | none => exact .inl ⟨rfl, not_isHexDigit.mpr hb⟩
      | some y =>
        have hy := hexValue_lt hb
        refine .inr ⟨y, by omega, .inl hy, ?_, isHexDigit_iff.mpr ⟨y, hb⟩⟩
        rw [Option.map_some, Option.map_some]
        congr 2
        omega
    · by_cases hminus : a = 0x2D
      · subst hminus
        cases hb : hexValue b with
        | none =>
          refine .inl ⟨?_, by simp [not_isHexDigit.mpr hb]⟩
          rw [pairByte, parseIntHex_minus, hb]
          rfl
        | some y =>
          have hy := hexValue_lt hb
          exact .inr ⟨(256 - y) % 256, by omega, by omega, pairByte_minus hb,
            by simp [isHexDigit_iff.mpr ⟨y, hb⟩]⟩
      · by_cases hplus : a = 0x2B
        · subst hplus
          cases hb : hexValue b with
          | none =>
            refine .inl ⟨?_, by simp [not_isHexDigit.mpr hb]⟩
            rw [pairByte, parseIntHex_plus, hb]
            rfl
          | some y =>
            have hy := hexValue_lt hb
            exact .inr ⟨y, by omega, .inl hy, pairByte_plus hb, by simp [isHexDigit_iff.mpr ⟨y, hb⟩]⟩
        · refine .inl ⟨?_, by simp [hspace, hminus, hplus]⟩
          rw [pairByte, parseIntHex_stray ha hspace hminus hplus]
          rfl

/-- **Any other pair** is a byte below 0x10 or above 0xf0. -/
theorem pairByte_stray {p : UInt16 × UInt16} {byte : UInt8} (h : pairByte p = some byte)
    (hother : ¬ (isHexDigit p.1 = true ∧ isHexDigit p.2 = true)) : byte.toNat < 16 ∨ 240 < byte.toNat := by
  rcases pairByte_other hother with ⟨hnone, -⟩ | ⟨n, hlt, hn, hbyte, -⟩
  · exact absurd (hnone.symm.trans h) (by simp)
  · obtain rfl := Option.some.inj (hbyte.symm.trans h)
    rw [UInt8.toNat_ofNat']
    omega

theorem readablePair_iff {p : UInt16 × UInt16} : readablePair p = true ↔ ∃ byte, pairByte p = some byte := by
  by_cases hdigits : isHexDigit p.1 = true ∧ isHexDigit p.2 = true
  · obtain ⟨x, hx⟩ := isHexDigit_iff.mp hdigits.1
    obtain ⟨y, hy⟩ := isHexDigit_iff.mp hdigits.2
    refine iff_of_true ?_ ⟨_, pairByte_digits hx hy⟩
    -- `x` is no digit
    have hsecond : ¬ (p.2 = 0x78 ∨ p.2 = 0x58) := by
      intro h
      have hbounds := hexValue_bounds hdigits.2
      rcases h with h | h
      · rw [h] at hbounds
        exact absurd hbounds (by decide)
      · rw [h] at hbounds
        exact absurd hbounds (by decide)
    exact (readablePair_digit hdigits.1).mpr fun h => hsecond h.2
  · rcases pairByte_other hdigits with ⟨hnone, hread⟩ | ⟨n, -, -, hbyte, hread⟩
    · refine iff_of_false (by rw [hread]; exact Bool.false_ne_true) ?_
      rintro ⟨byte, hbyte⟩
      exact absurd (hnone.symm.trans hbyte) (by simp)
    · exact iff_of_true hread ⟨_, hbyte⟩

/-! ## The whole string -/

/-- **`hexToBytes`** reads the pairs one by one. -/
theorem hexPairs_ok_iff {hex : JsString} :
    ∀ {bytes : Bytes}, hexPairs hex = .ok bytes ↔ (pairsOf hex).map pairByte = bytes.map some := by
  induction hex using pairsOf.induct with
  | case1 a b rest ih =>
    intro bytes
    rw [hexPairs, pairsOf, List.map_cons]
    have hbyte : pairByte (a, b) = (parseIntHex [a, b]).map fun byte => UInt8.ofNat (byte % 256).toNat := rfl
    cases hread : parseIntHex [a, b] with
    | none =>
      rw [hread, Option.map_none] at hbyte
      rw [hbyte]
      cases bytes <;> exact iff_of_false (by simp) (by simp)
    | some n =>
      rw [hread, Option.map_some] at hbyte
      rw [hbyte]
      dsimp only
      cases hrest : hexPairs rest with
      | error e =>
        refine iff_of_false (fun h => nomatch h) fun h => ?_
        cases bytes with
        | nil => exact absurd h (by simp)
        | cons byte bytes =>
          have hok := ih.mpr (List.cons.inj h).2
          exact absurd (hrest.symm.trans hok) (by simp)
      | ok tail =>
        have htail := ih.mp hrest
        rw [htail]
        constructor
        · intro h
          obtain rfl := Except.ok.inj h
          rfl
        · intro h
          cases bytes with
          | nil => exact absurd h (by simp)
          | cons byte bytes =>
            obtain ⟨hhead, hbytes⟩ := List.cons.inj h
            obtain rfl := Option.some.inj hhead
            have hsame := ih.mpr (htail.trans hbytes)
            obtain rfl := Except.ok.inj (hrest.symm.trans hsame)
            rfl
  | case2 hex hshort =>
    intro bytes
    rw [hexPairs, pairsOf]
    · cases bytes with
      | nil => exact iff_of_true rfl rfl
      | cons byte bytes => exact iff_of_false (fun h => nomatch h) (by simp)
    · exact hshort
    · exact hshort

theorem hexToBytes_ok_iff {hex : JsString} {bytes : Bytes} :
    hexToBytes hex = .ok bytes ↔
      hex.length % 2 = 0 ∧ (pairsOf hex).map pairByte = bytes.map some := by
  rw [hexToBytes]
  by_cases heven : hex.length % 2 = 0
  · rw [if_neg (by simpa using heven), hexPairs_ok_iff]
    exact ⟨fun h => ⟨heven, h⟩, And.right⟩
  · rw [if_pos (by simpa using heven)]
    exact iff_of_false (fun h => nomatch h) fun h => heven h.1

theorem exists_map_some {α β : Type} {f : α → Option β} {xs : List α} :
    (∃ ys : List β, xs.map f = ys.map some) ↔ ∀ x ∈ xs, ∃ y, f x = some y := by
  induction xs with
  | nil => exact iff_of_true ⟨[], rfl⟩ fun x hx => absurd hx List.not_mem_nil
  | cons x xs ih =>
    rw [List.forall_mem_cons, ← ih]
    constructor
    · rintro ⟨ys, hys⟩
      cases ys with
      | nil => exact absurd hys (by simp)
      | cons y ys =>
        obtain ⟨hy, hys⟩ := List.cons.inj hys
        exact ⟨⟨y, hy⟩, ys, hys⟩
    · rintro ⟨⟨y, hy⟩, ys, hys⟩
      exact ⟨y :: ys, by rw [List.map_cons, List.map_cons, hy, hys]⟩

/-- **What is accepted**: an even number of characters in readable pairs. -/
theorem accepted_iff {hex : JsString} :
    (∃ bytes, hexToBytes hex = .ok bytes) ↔
      hex.length % 2 = 0 ∧ ∀ p ∈ pairsOf hex, readablePair p = true := by
  have hpairs : (∃ bytes : Bytes, (pairsOf hex).map pairByte = bytes.map some) ↔
      ∀ p ∈ pairsOf hex, readablePair p = true := by
    rw [exists_map_some]
    exact forall_congr' fun p => imp_congr_right fun _ => readablePair_iff.symm
  rw [← hpairs]
  constructor
  · rintro ⟨bytes, hbytes⟩
    obtain ⟨heven, hread⟩ := hexToBytes_ok_iff.mp hbytes
    exact ⟨heven, bytes, hread⟩
  · rintro ⟨heven, bytes, hread⟩
    exact ⟨bytes, hexToBytes_ok_iff.mpr ⟨heven, hread⟩⟩

theorem forall_pairsOf {P : UInt16 → Prop} {hex : JsString} (heven : hex.length % 2 = 0) :
    (∀ c ∈ hex, P c) ↔ ∀ p ∈ pairsOf hex, P p.1 ∧ P p.2 := by
  induction hex using pairsOf.induct with
  | case1 a b rest ih =>
    have hrest : rest.length % 2 = 0 := by
      rw [List.length_cons, List.length_cons] at heven
      omega
    rw [pairsOf, List.forall_mem_cons, List.forall_mem_cons, List.forall_mem_cons, ih hrest, and_assoc]
  | case2 hex hshort =>
    match hex, hshort with
    | [], _ => exact iff_of_true (fun c hc => absurd hc List.not_mem_nil) fun p hp => absurd hp List.not_mem_nil
    | [_], _ => exact absurd heven (by simp)
    | a :: b :: rest, hshort => exact absurd rfl (hshort a b rest)

theorem isHex_iff {hex : JsString} :
    IsHex hex ↔ hex.length % 2 = 0 ∧
      ∀ p ∈ pairsOf hex, isHexDigit p.1 = true ∧ isHexDigit p.2 = true :=
  and_congr_right fun heven => forall_pairsOf (P := fun c => isHexDigit c = true) heven

theorem IsHex.accepted {hex : JsString} (h : IsHex hex) : ∃ bytes, hexToBytes hex = .ok bytes := by
  obtain ⟨heven, hdigits⟩ := isHex_iff.mp h
  refine accepted_iff.mpr ⟨heven, fun p hp => readablePair_iff.mpr ?_⟩
  obtain ⟨hfirst, hsecond⟩ := hdigits p hp
  obtain ⟨x, hx⟩ := isHexDigit_iff.mp hfirst
  obtain ⟨y, hy⟩ := isHexDigit_iff.mp hsecond
  exact ⟨_, pairByte_digits hx hy⟩

/-- **Hexadecimal is read as what it writes.** -/
theorem bytesToHex_of_isHex {hex : JsString} :
    ∀ {bytes : Bytes}, (∀ p ∈ pairsOf hex, isHexDigit p.1 = true ∧ isHexDigit p.2 = true) →
      hex.length % 2 = 0 → (pairsOf hex).map pairByte = bytes.map some →
      bytesToHex bytes = asciiLower hex := by
  induction hex using pairsOf.induct with
  | case1 a b rest ih =>
    intro bytes hdigits heven hread
    rw [pairsOf, List.forall_mem_cons] at hdigits
    obtain ⟨x, hx⟩ := isHexDigit_iff.mp hdigits.1.1
    obtain ⟨y, hy⟩ := isHexDigit_iff.mp hdigits.1.2
    have hxlt := hexValue_lt hx
    have hylt := hexValue_lt hy
    rw [pairsOf, List.map_cons] at hread
    cases bytes with
    | nil => exact absurd hread (by simp)
    | cons byte bytes =>
      obtain ⟨hbyte, hbytes⟩ := List.cons.inj hread
      obtain rfl := Option.some.inj ((pairByte_digits hx hy).symm.trans hbyte)
      have hnat : (UInt8.ofNat (x * 16 + y)).toNat = x * 16 + y := by
        rw [UInt8.toNat_ofNat']
        omega
      have hhigh : (x * 16 + y) / 16 = x := by omega
      have hlow : (x * 16 + y) % 16 = y := by omega
      have hrest : rest.length % 2 = 0 := by
        rw [List.length_cons, List.length_cons] at heven
        omega
      rw [bytesToHex, List.flatMap_cons, hnat, hhigh, hlow, hexDigit_hexValue hx, hexDigit_hexValue hy,
        ← bytesToHex, ih hdigits.2 hrest hbytes]
      rfl
  | case2 hex hshort =>
    intro bytes hdigits heven hread
    rcases hex with _ | ⟨a, _ | ⟨b, rest⟩⟩
    · obtain rfl : bytes = [] := List.map_eq_nil_iff.mp hread.symm
      rfl
    · exact absurd heven (by simp)
    · exact absurd rfl (hshort a b rest)

/-- **What is written is read back.** -/
theorem hexToBytes_bytesToHex (bytes : Bytes) : hexToBytes (bytesToHex bytes) = .ok bytes := by
  rw [hexToBytes_ok_iff]
  induction bytes with
  | nil => exact ⟨rfl, rfl⟩
  | cons byte bytes ih =>
    have hbyte := byte.toNat_lt
    have hhigh : byte.toNat / 16 < 16 := by omega
    have hlow : byte.toNat % 16 < 16 := by omega
    have hsum : byte.toNat / 16 * 16 + byte.toNat % 16 = byte.toNat := by omega
    have hcons : bytesToHex (byte :: bytes) =
        hexDigit (byte.toNat / 16) :: hexDigit (byte.toNat % 16) :: bytesToHex bytes := rfl
    rw [hcons, pairsOf, List.map_cons, List.map_cons, ih.2,
      pairByte_digits (hexValue_hexDigit _ hhigh) (hexValue_hexDigit _ hlow), hsum, UInt8.ofNat_toNat]
    refine ⟨?_, rfl⟩
    have heven := ih.1
    rw [List.length_cons, List.length_cons]
    omega

/-! ## Second spellings -/

/-- A digit that is no capital is the one that is written for its value. -/
theorem eq_hexDigit {c : UInt16} {n : Nat} (h : hexValue c = some n) (hlower : lowerUnit c = c) :
    c = hexDigit n := by
  rw [hexDigit_hexValue h, hlower]

/-- A plain pair is a byte from 0x10 to 0xf0. -/
theorem plainPair_bounds {a b : UInt16} {x y : Nat} (ha : hexValue a = some x) (hb : hexValue b = some y)
    (hlower : lowerUnit a = a) (hplain : plainPair (a, b) = true) :
    16 ≤ x * 16 + y ∧ x * 16 + y ≤ 240 := by
  have hx := hexValue_lt ha
  have hy := hexValue_lt hb
  rw [plainPair, Bool.and_eq_true, Bool.or_eq_true, bne_iff_ne, bne_iff_ne, beq_iff_eq] at hplain
  obtain ⟨hzero, hf⟩ := hplain
  have hx0 : x ≠ 0 := by
    rintro rfl
    exact hzero (eq_hexDigit ha hlower)
  have hx15 : x = 15 → y = 0 := by
    rintro rfl
    have hb0 : b = 0x30 := hf.resolve_left (not_not_intro (eq_hexDigit ha hlower))
    subst hb0
    exact (Option.some.inj hb).symm
  by_cases h : x = 15
  · have := hx15 h
    omega
  · omega

/-- A pair that is not plain has an alias: a sign and a digit. -/
theorem alias_pair {a b : UInt16} {x y : Nat} (ha : hexValue a = some x) (hb : hexValue b = some y)
    (hlower : lowerUnit b = b) (hplain : plainPair (a, b) = false) :
    ∃ c d, c ≠ a ∧ lowerUnit c = c ∧ lowerUnit d = d ∧ pairByte (c, d) = pairByte (a, b) := by
  have hy := hexValue_lt hb
  rw [pairByte_digits ha hb]
  by_cases hzero : a = 0x30
  · -- `+d` for `0d`
    subst hzero
    obtain rfl : 0 = x := Option.some.inj ha
    refine ⟨0x2B, b, by decide, by decide, hlower, ?_⟩
    rw [pairByte_plus hb, Nat.zero_mul, Nat.zero_add]
  · have hf : a = 0x66 ∧ b ≠ 0x30 := by
      rw [plainPair, Bool.and_eq_false_iff, Bool.or_eq_false_iff, bne_eq_false_iff_eq,
        bne_eq_false_iff_eq, beq_eq_false_iff_ne] at hplain
      exact hplain.resolve_left hzero
    obtain ⟨rfl, hb0⟩ := hf
    -- `-(16 - d)` for `fd`
    obtain rfl : 15 = x := Option.some.inj ha
    have hy0 : y ≠ 0 := by
      rintro rfl
      exact hb0 (eq_hexDigit hb hlower)
    have hlt : 16 - y < 16 := by omega
    refine ⟨0x2D, hexDigit (16 - y), by decide, by decide, lowerUnit_hexDigit _ hlt, ?_⟩
    rw [pairByte_minus (hexValue_hexDigit _ hlt)]
    congr 2
    omega

theorem asciiLower_cons {c : UInt16} {s : JsString} :
    asciiLower (c :: s) = c :: s ↔ lowerUnit c = c ∧ asciiLower s = s := by
  rw [asciiLower_eq, asciiLower_eq, List.map_cons, List.cons.injEq]

theorem lowerUnit_of_mem {s : JsString} (h : asciiLower s = s) : ∀ c ∈ s, lowerUnit c = c := by
  induction s with
  | nil => exact fun c hc => absurd hc List.not_mem_nil
  | cons c s ih =>
    obtain ⟨hc, hs⟩ := asciiLower_cons.mp h
    exact List.forall_mem_cons.mpr ⟨hc, ih hs⟩

/-- **One pair that is not plain** gives the string an alias. -/
theorem exists_alias {hex : JsString}
    (hdigits : ∀ p ∈ pairsOf hex, isHexDigit p.1 = true ∧ isHexDigit p.2 = true)
    (hlower : asciiLower hex = hex) (h : ∃ p ∈ pairsOf hex, plainPair p = false) :
    ∃ other, other ≠ hex ∧ asciiLower other = other ∧ other.length = hex.length ∧
      (pairsOf other).map pairByte = (pairsOf hex).map pairByte := by
  induction hex using pairsOf.induct with
  | case1 a b rest ih =>
    rw [pairsOf, List.forall_mem_cons] at hdigits
    rw [asciiLower_cons, asciiLower_cons] at hlower
    obtain ⟨ha, hb, hrest⟩ := hlower
    by_cases hplain : plainPair (a, b) = false
    · obtain ⟨x, hx⟩ := isHexDigit_iff.mp hdigits.1.1
      obtain ⟨y, hy⟩ := isHexDigit_iff.mp hdigits.1.2
      obtain ⟨c, d, hca, hc, hd, hbyte⟩ := alias_pair hx hy hb hplain
      refine ⟨c :: d :: rest, fun heq => hca (List.cons.inj heq).1, ?_, rfl, ?_⟩
      · rw [asciiLower_cons, asciiLower_cons]
        exact ⟨hc, hd, hrest⟩
      · rw [pairsOf, pairsOf, List.map_cons, List.map_cons, hbyte]
    · obtain ⟨p, hp, hpplain⟩ := h
      rw [pairsOf] at hp
      have hin : p ∈ pairsOf rest := by
        rcases List.mem_cons.mp hp with rfl | hp
        · exact absurd hpplain hplain
        · exact hp
      obtain ⟨other, hne, hother, hlen, hread⟩ := ih hdigits.2 hrest ⟨p, hin, hpplain⟩
      refine ⟨a :: b :: other, fun heq => hne (List.cons.inj (List.cons.inj heq).2).2, ?_, ?_, ?_⟩
      · rw [asciiLower_cons, asciiLower_cons]
        exact ⟨ha, hb, hother⟩
      · rw [List.length_cons, List.length_cons, List.length_cons, List.length_cons, hlen]
      · rw [pairsOf, pairsOf, List.map_cons, List.map_cons, hread]
  | case2 hex hshort =>
    obtain ⟨p, hp, -⟩ := h
    rw [pairsOf] at hp
    · exact absurd hp List.not_mem_nil
    · exact hshort

/-- **Signatures and keys are malleable** wherever a pair is not plain: the gate does not tell the alias
    from the string, neither as a signature nor as a key. -/
theorem alias_verifies {hex : JsString} (hhex : IsHex hex) (hlower : asciiLower hex = hex)
    (h : ∃ p ∈ pairsOf hex, plainPair p = false) :
    ∃ other, other ≠ hex ∧ asciiLower other = other ∧
      ∀ (crypto : Crypto) (payloadBytes : Bytes) (partner : JsString),
        verifyMandateSignature crypto payloadBytes (.ed25519 other) (.ed25519 partner) =
            verifyMandateSignature crypto payloadBytes (.ed25519 hex) (.ed25519 partner) ∧
          verifyMandateSignature crypto payloadBytes (.ed25519 partner) (.ed25519 other) =
            verifyMandateSignature crypto payloadBytes (.ed25519 partner) (.ed25519 hex) := by
  obtain ⟨heven, hdigits⟩ := isHex_iff.mp hhex
  obtain ⟨other, hne, hother, hlen, hread⟩ := exists_alias hdigits hlower h
  obtain ⟨bytes, hbytes⟩ := hhex.accepted
  have halias : hexToBytes other = .ok bytes :=
    hexToBytes_ok_iff.mpr ⟨hlen ▸ heven, hread.trans (hexToBytes_ok_iff.mp hbytes).2⟩
  refine ⟨other, hne, hother, fun crypto payloadBytes partner => ⟨?_, ?_⟩⟩
  · rw [verifyMandateSignature, verifyMandateSignature, verifyEd25519, verifyEd25519, halias, hbytes]
  · rw [verifyMandateSignature, verifyMandateSignature, verifyEd25519, verifyEd25519, halias, hbytes]

/-- **Plain pairs leave no alias.** -/
theorem unique_of_plain {hex other : JsString} (hhex : IsHex hex) (hlower : asciiLower hex = hex)
    (hplain : ∀ p ∈ pairsOf hex, plainPair p = true) (hother : asciiLower other = other)
    (h : SameBytes hex other) : other = hex := by
  obtain ⟨bytes, hbytes, hobytes⟩ := h
  obtain ⟨heven, hread⟩ := hexToBytes_ok_iff.mp hbytes
  obtain ⟨hoeven, horead⟩ := hexToBytes_ok_iff.mp hobytes
  have hdigits := (isHex_iff.mp hhex).2
  -- every byte of `hex` is from 0x10 to 0xf0
  have hbounds : ∀ byte ∈ bytes, 16 ≤ byte.toNat ∧ byte.toNat ≤ 240 := by
    intro byte hbyte
    have hin : some byte ∈ (pairsOf hex).map pairByte := by
      rw [hread]
      exact List.mem_map_of_mem hbyte
    obtain ⟨⟨a, b⟩, hp, hpair⟩ := List.mem_map.mp hin
    obtain ⟨x, hx⟩ := isHexDigit_iff.mp (hdigits _ hp).1
    obtain ⟨y, hy⟩ := isHexDigit_iff.mp (hdigits _ hp).2
    obtain rfl := Option.some.inj ((pairByte_digits hx hy).symm.trans hpair)
    have ha : lowerUnit a = a := ((forall_pairsOf heven).mp (lowerUnit_of_mem hlower) _ hp).1
    have := plainPair_bounds hx hy ha (hplain _ hp)
    rw [UInt8.toNat_ofNat']
    omega
  -- so `other` is hexadecimal too
  have hodigits : ∀ p ∈ pairsOf other, isHexDigit p.1 = true ∧ isHexDigit p.2 = true := by
    intro p hp
    have hin : pairByte p ∈ bytes.map some := by
      rw [← horead]
      exact List.mem_map_of_mem hp
    obtain ⟨byte, hbyte, hpair⟩ := List.mem_map.mp hin
    by_contra hstray
    have hwild := pairByte_stray hpair.symm hstray
    have := hbounds byte hbyte
    omega
  rw [← hother, ← hlower, ← bytesToHex_of_isHex hodigits hoeven horead,
    ← bytesToHex_of_isHex hdigits heven hread]

/-! ## The result -/

/-- **Which strings are read exactly**: those that are refused, and hexadecimal, if they have no capitals
    with bytes from 0x10 to 0xf0 only. -/
theorem hex_read_exactly_iff (hex : JsString) : ReadExactly hex ↔ ReadPlainly hex := by
  constructor
  · rintro ⟨haccepted, -, hunique⟩ heven hreadable
    have hhex : IsHex hex := haccepted.mp (accepted_iff.mpr ⟨heven, hreadable⟩)
    refine ⟨hhex, fun hlower p hp => ?_⟩
    by_contra hplain
    rw [Bool.not_eq_true] at hplain
    obtain ⟨other, hne, hother, hlen, hread⟩ :=
      exists_alias (isHex_iff.mp hhex).2 hlower ⟨p, hp, hplain⟩
    obtain ⟨bytes, hbytes⟩ := hhex.accepted
    have halias : hexToBytes other = .ok bytes :=
      hexToBytes_ok_iff.mpr ⟨hlen ▸ heven, hread.trans (hexToBytes_ok_iff.mp hbytes).2⟩
    exact hne (hunique hlower other hother ⟨bytes, hbytes, halias⟩)
  · intro h
    have hhex : (∃ bytes, hexToBytes hex = .ok bytes) → IsHex hex := by
      intro hok
      obtain ⟨heven, hreadable⟩ := accepted_iff.mp hok
      exact (h heven hreadable).1
    refine ⟨⟨hhex, IsHex.accepted⟩, fun bytes hbytes => ?_, fun hlower other hother hsame => ?_⟩
    · obtain ⟨heven, hread⟩ := hexToBytes_ok_iff.mp hbytes
      exact bytesToHex_of_isHex (isHex_iff.mp (hhex ⟨bytes, hbytes⟩)).2 heven hread
    · have hok : ∃ bytes, hexToBytes hex = .ok bytes := hsame.imp fun _ => And.left
      obtain ⟨heven, hreadable⟩ := accepted_iff.mp hok
      exact unique_of_plain (hhex hok) hlower ((h heven hreadable).2 hlower) hother hsame

/-- A sign is read: `+1` is the byte that `01` writes. -/
theorem signed_digit_accepted : ¬ ReadExactly (js "+1") := by
  intro h
  have hok : hexToBytes (js "+1") = .ok [1] := by decide
  exact absurd ((h.accepted.mp ⟨[1], hok⟩).2 0x2B (by decide)) (by decide)

end Hundi
