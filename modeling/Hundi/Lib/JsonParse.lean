/-
  `JSON.parse`, and that it reads back what `JSON.stringify` writes.

  `jsonParse` follows the grammar of ECMA-404 on UTF-16 code units: white space, escapes, the number
  syntax with fraction and exponent, and of two members with one name the last.  A number is the
  double nearest to its literal.  `JsonValue` holds integers only, so an answer has two layers:

  * `none`           — the text is no JSON, `JSON.parse` throws;
  * `some none`      — it is, and a number in the value is no integer, or is `-0`;
  * `some (some v)`  — the value is `v`.

  `jsonParse_print` is the round trip: a value without unsafe integers whose objects name no key
  twice is read back from its text, member for member in the order they stand in.  The induction is
  on the value, with the text that follows it kept general (`parseValue_print`).
-/
import Hundi.Lib.Json
import Hundi.Lib.JsNumber

namespace Js

/-! ## Numbers -/

/-- The double nearest to `m / d`, when it is an integer.  From `2^53` on every double is one, and
    the fraction only breaks ties; below 1 there are 0 and 1; in between the doubles around `m / d`
    are `2^-e` apart. -/
def nearestIntegral (m d : Nat) : Option Nat :=
  let q := m / d
  if m % d = 0 then some (roundNat q)
  else if 2 ^ 53 ≤ q then some (roundNat (2 * q + 1) / 2)
  else if q = 0 then
    if m * 2 ^ 1075 ≤ d then some 0
    else if (d - m) * 2 ^ 54 ≤ d then some 1
    else none
  else
    let e := 52 - Nat.log2 q
    let t := m * 2 ^ e / d
    let s := m * 2 ^ e % d
    let n := if d < 2 * s || (d == 2 * s && t % 2 == 1) then t + 1 else t
    if n % 2 ^ e = 0 then some (n / 2 ^ e) else none

/-- The first power of two that is no double. -/
def infinity : Nat := 2 ^ 1024

/-- The double nearest to `m * 10^shift`, when it is a finite integer; `len` bounds the digits of
    `m`. -/
def scaledIntegral (m len : Nat) (shift : Int) : Option Nat :=
  if m = 0 then some 0
  else if 400 < shift then none
  else if shift + len < -400 then some 0
  else
    let r := if 0 ≤ shift then some (roundNat (m * 10 ^ shift.toNat))
      else nearestIntegral m (10 ^ (-shift).toNat)
    r.filter (· < infinity)

/-- The value of a run of digits. -/
def ofDigits (ds : JsString) : Nat := ds.foldl (fun n d => 10 * n + (d.toNat - 0x30)) 0

/-- The value of a number literal, when it is an integer other than `-0`. -/
def literalValue (negative : Bool) (int frac : JsString) (exponent : Int) : Option Int :=
  match scaledIntegral (ofDigits (int ++ frac)) (int ++ frac).length (exponent - frac.length) with
  | none => none
  | some n => if negative then (if n = 0 then none else some (-(n : Int))) else some n

/-- The digits a text starts with, and the rest. -/
def spanDigits (text : JsString) : JsString × JsString := text.span isDigit

/-- The integer part: no digit follows a leading zero. -/
def parseInt (text : JsString) : Option (JsString × JsString) :=
  match spanDigits text with
  | ([], _) => none
  | (d :: ds, rest) => if d = 0x30 && !ds.isEmpty then none else some (d :: ds, rest)

/-- `.` and digits, if the text goes on with them. -/
def parseFrac : JsString → Option (JsString × JsString)
  | [] => some ([], [])
  | c :: rest =>
    if c = 0x2E then
      match spanDigits rest with
      | ([], _) => none
      | (ds, rest) => some (ds, rest)
    else some ([], c :: rest)

/-- A sign, if there is one: whether it is a minus. -/
def parseSign : JsString → Bool × JsString
  | [] => (false, [])
  | c :: rest =>
    if c = 0x2D then (true, rest) else if c = 0x2B then (false, rest) else (false, c :: rest)

/-- `e` or `E`, a sign and digits, if the text goes on with them. -/
def parseExponent : JsString → Option (Int × JsString)
  | [] => some (0, [])
  | c :: rest =>
    if c = 0x65 || c = 0x45 then
      match spanDigits (parseSign rest).2 with
      | ([], _) => none
      | (ds, rest') => some (if (parseSign rest).1 then -(ofDigits ds : Int) else ofDigits ds, rest')
    else some (0, c :: rest)

/-- A number without its sign. -/
def parseUnsigned (negative : Bool) (text : JsString) : Option (Option JsonValue × JsString) := do
  let (int, text) ← parseInt text
  let (frac, text) ← parseFrac text
  let (exponent, text) ← parseExponent text
  return ((literalValue negative int frac exponent).map .num, text)

/-- A number. -/
def parseNumber : JsString → Option (Option JsonValue × JsString)
  | [] => none
  | c :: rest => if c = 0x2D then parseUnsigned true rest else parseUnsigned false (c :: rest)

/-! ## Strings -/

/-- The value of a hexadecimal digit of either case. -/
def hexValue (c : UInt16) : Option Nat :=
  let n := c.toNat
  if 0x30 ≤ n && n ≤ 0x39 then some (n - 0x30)
  else if 0x61 ≤ n && n ≤ 0x66 then some (n - 0x57)
  else if 0x41 ≤ n && n ≤ 0x46 then some (n - 0x37)
  else none

/-- The code unit of `\uXXXX`. -/
def hexUnit (a b c d : UInt16) : Option UInt16 := do
  let a ← hexValue a
  let b ← hexValue b
  let c ← hexValue c
  let d ← hexValue d
  return UInt16.ofNat (a * 0x1000 + b * 0x100 + c * 0x10 + d)

/-- The code unit of a two-character escape. -/
def unescape (e : UInt16) : Option UInt16 :=
  if e = 0x2F then some 0x2F else (shortEscapes.find? fun p => p.2 == e).map Prod.fst

/-- A string from behind its opening quote on. -/
def parseString : JsString → Option (JsString × JsString)
  | [] => none
  | c :: rest =>
    if c = 0x22 then some ([], rest)
    else if c = 0x5C then
      match rest with
      | [] => none
      | e :: tail =>
        if e = 0x75 then
          match tail with
          | h3 :: h2 :: h1 :: h0 :: tail' =>
            (hexUnit h3 h2 h1 h0).bind fun u => (parseString tail').map fun p => (u :: p.1, p.2)
          | _ => none
        else (unescape e).bind fun u => (parseString tail).map fun p => (u :: p.1, p.2)
    else if c.toNat < 0x20 then none
    else (parseString rest).map fun p => (c :: p.1, p.2)

/-! ## Values -/

/-- Space, tab, line feed, carriage return. -/
def isSpace (c : UInt16) : Bool := c = 0x20 || c = 0x09 || c = 0x0A || c = 0x0D

def skipSpace (text : JsString) : JsString := text.dropWhile isSpace

/-- Sets a property: a name that is there keeps its place and takes the new value. -/
def setMember {α : Type} (ms : List (JsString × α)) (m : JsString × α) : List (JsString × α) :=
  if ms.any fun e => e.1 == m.1 then ms.map fun e => if e.1 == m.1 then m else e else ms ++ [m]

/-- The object its members build one after the other. -/
def fromMembers {α : Type} (ms : List (JsString × α)) : List (JsString × α) := ms.foldl setMember []

/-- The elements, if each has a value. -/
def collectElems : List (Option JsonValue) → Option (List JsonValue)
  | [] => some []
  | x :: xs => x.bind fun x => (collectElems xs).map (x :: ·)

/-- The members, if each has a value. -/
def collectMembers : List (JsString × Option JsonValue) → Option (List (JsString × JsonValue))
  | [] => some []
  | (k, x) :: ms => x.bind fun x => (collectMembers ms).map ((k, x) :: ·)

/-- The rest behind a word. -/
def parseWord (word text : JsString) : Option JsString :=
  if word.isPrefixOf text then some (text.drop word.length) else none

mutual

/-- A value and the text behind it; `fuel` bounds the nesting and the number of elements. -/
def parseValue : Nat → JsString → Option (Option JsonValue × JsString)
  | 0, _ => none
  | fuel + 1, text =>
    match skipSpace text with
    | [] => none
    | c :: rest =>
      if c = 0x6E then (parseWord (js "null") (c :: rest)).map fun r => (some .null, r)
      else if c = 0x74 then (parseWord (js "true") (c :: rest)).map fun r => (some (.bool true), r)
      else if c = 0x66 then (parseWord (js "false") (c :: rest)).map fun r => (some (.bool false), r)
      else if c = 0x22 then (parseString rest).map fun p => (some (.str p.1), p.2)
      else if c = 0x5B then
        match skipSpace rest with
        | d :: rest' =>
          if d = 0x5D then some (some (.arr []), rest')
          else (parseElems fuel rest).map fun p => ((collectElems p.1).map .arr, p.2)
        | [] => none
      else if c = 0x7B then
        match skipSpace rest with
        | d :: rest' =>
          if d = 0x7D then some (some (.obj []), rest')
          else (parseMembers fuel rest).map fun p => ((collectMembers (fromMembers p.1)).map .obj, p.2)
        | [] => none
      else parseNumber (c :: rest)

/-- The elements of an array up to its bracket. -/
def parseElems : Nat → JsString → Option (List (Option JsonValue) × JsString)
  | 0, _ => none
  | fuel + 1, text =>
    (parseValue fuel text).bind fun (x, text) =>
      match skipSpace text with
      | c :: rest =>
        if c = 0x5D then some ([x], rest)
        else if c = 0x2C then (parseElems fuel rest).map fun p => (x :: p.1, p.2)
        else none
      | [] => none

/-- The members of an object up to its brace. -/
def parseMembers : Nat → JsString → Option (List (JsString × Option JsonValue) × JsString)
  | 0, _ => none
  | fuel + 1, text =>
    match skipSpace text with
    | [] => none
    | c :: text =>
      if c ≠ 0x22 then none
      else
        (parseString text).bind fun (k, text) =>
          match skipSpace text with
          | [] => none
          | c :: text =>
            if c ≠ 0x3A then none
            else
              (parseValue fuel text).bind fun (x, text) =>
                match skipSpace text with
                | c :: rest =>
                  if c = 0x7D then some ([(k, x)], rest)
                  else if c = 0x2C then (parseMembers fuel rest).map fun p => ((k, x) :: p.1, p.2)
                  else none
                | [] => none

end

/-- `JSON.parse(text)`. -/
def jsonParse (text : JsString) : Option (Option JsonValue) :=
  match parseValue (text.length + 1) text with
  | some (v, rest) => if (skipSpace rest).isEmpty then some v else none
  | none => none

/-! ## Reading numbers back -/

theorem spanDigits_append {ds r : JsString} (hd : ∀ u ∈ ds, isDigit u = true) (hr : NoDigitHead r) :
    spanDigits (ds ++ r) = (ds, r) := by
  have hhead : r.takeWhile isDigit = [] ∧ r.dropWhile isDigit = r := by
    cases r with
    | nil => exact ⟨rfl, rfl⟩
    | cons u r =>
      have hu : isDigit u = false := hr u r rfl
      exact ⟨by rw [List.takeWhile_cons, hu]; rfl, by rw [List.dropWhile_cons, hu]; rfl⟩
  rw [spanDigits, List.span_eq_takeWhile_dropWhile, List.takeWhile_append_of_pos hd,
    List.dropWhile_append_of_pos hd, hhead.1, hhead.2, List.append_nil]

/-- Decimal digits are single code units, with their value above that of `0`. -/
theorem ofDigits_utf16 (l : List Char) (hl : ∀ c ∈ l, c.isDigit) (n : Nat) :
    (utf16 l).foldl (fun n d => 10 * n + (d.toNat - 0x30)) n = Nat.ofDigitChars 10 l n := by
  induction l generalizing n with
  | nil => rw [Nat.ofDigitChars_nil]; rfl
  | cons c l ih =>
    have hd := Char.isDigit_iff_toNat.mp (hl c List.mem_cons_self)
    have h0 : '0'.toNat = 0x30 := rfl
    have h9 : '9'.toNat = 0x39 := rfl
    have hunit : utf16Char c = [UInt16.ofNat c.toNat] := by
      rw [utf16Char, if_pos (by omega)]
    have hn : (UInt16.ofNat c.toNat).toNat = c.toNat :=
      UInt16.toNat_ofNat_of_lt' (by simp only [UInt16.size]; omega)
    rw [utf16, List.flatMap_cons, ← utf16, hunit, List.singleton_append, List.foldl_cons, hn,
      Nat.ofDigitChars_cons, ih fun d hd => hl d (List.mem_cons_of_mem _ hd)]
    rfl

/-- The digits of a number have its value. -/
theorem ofDigits_decimal (n : Nat) : ofDigits (decimal n) = n := by
  rw [ofDigits, decimal, ofDigits_utf16 _ fun c hc =>
    Nat.isDigit_of_mem_toDigits (by decide) (by decide) hc]
  exact Nat.ofDigitChars_toDigits (by decide) (by decide)

/-- No digit follows a leading zero. -/
theorem decimal_zero_head {n : Nat} {ds : JsString} (h : decimal n = 0x30 :: ds) : ds = [] := by
  have hdigits : ∀ n, 0 < n → ∃ c cs, Nat.toDigits 10 n = c :: cs ∧ c ≠ '0' := by
    intro n
    induction n using Nat.strongRecOn with
    | ind n ih =>
      intro hpos
      by_cases hlt : n < 10
      · refine ⟨n.digitChar, [], Nat.toDigits_of_lt_base hlt, ?_⟩
        have hall : ∀ d < 10, 0 < d → d.digitChar ≠ '0' := by decide
        exact hall n hlt hpos
      · obtain ⟨c, cs, hc, hne⟩ := ih (n / 10) (by omega) (by omega)
        rw [Nat.toDigits_of_base_le (by decide) (by omega), hc]
        exact ⟨c, cs ++ [(n % 10).digitChar], rfl, hne⟩
  rcases Nat.eq_zero_or_pos n with rfl | hpos
  · have hzero : decimal 0 = [0x30] := by decide
    rw [hzero] at h
    exact (List.cons.inj h).2.symm
  · exfalso
    obtain ⟨c, cs, hc, hne⟩ := hdigits n hpos
    have hd := Char.isDigit_iff_toNat.mp
      (Nat.isDigit_of_mem_toDigits (b := 10) (n := n) (by decide) (by decide)
        (by rw [hc]; exact List.mem_cons_self))
    have h9 : '9'.toNat = 0x39 := rfl
    have hunit : utf16Char c = [UInt16.ofNat c.toNat] := by
      rw [utf16Char, if_pos (by omega)]
    rw [decimal, hc, utf16, List.flatMap_cons, hunit, List.singleton_append] at h
    have hn : (UInt16.ofNat c.toNat).toNat = 0x30 := by rw [(List.cons.inj h).1]; rfl
    rw [UInt16.toNat_ofNat_of_lt' (by simp only [UInt16.size]; omega)] at hn
    exact hne (Char.toNat_inj.mp hn)

/-- What stands behind a value in a text: nothing, a comma or a closing bracket. -/
def Delimited (r : JsString) : Prop :=
  ∀ u rest, r = u :: rest → u = 0x2C ∨ u = 0x5D ∨ u = 0x7D

theorem delimited_nil : Delimited [] := fun _ _ h => nomatch h

theorem delimited_cons {u : UInt16} {r : JsString} (h : u = 0x2C ∨ u = 0x5D ∨ u = 0x7D) :
    Delimited (u :: r) := by
  intro c rest hc
  rw [← (List.cons.inj hc).1]
  exact h

theorem Delimited.noDigitHead {r : JsString} (h : Delimited r) : NoDigitHead r := by
  intro u rest hr
  rcases h u rest hr with rfl | rfl | rfl <;> decide

/-- Neither a fraction nor an exponent starts with a delimiter. -/
theorem parseFrac_delimited {r : JsString} (h : Delimited r) : parseFrac r = some ([], r) := by
  cases r with
  | nil => rfl
  | cons u r =>
    have hu : u ≠ 0x2E := by
      rcases h u r rfl with rfl | rfl | rfl <;> decide
    rw [parseFrac, if_neg hu]

theorem parseExponent_delimited {r : JsString} (h : Delimited r) :
    parseExponent r = some (0, r) := by
  cases r with
  | nil => rfl
  | cons u r =>
    have hu : (decide (u = 0x65) || decide (u = 0x45)) = false := by
      rcases h u r rfl with rfl | rfl | rfl <;> decide
    rw [parseExponent, hu]
    rfl

/-- A safe integer literal has its own value; `-0` has none. -/
theorem literalValue_decimal {n : Nat} (h : (n : Int) ≤ maxSafe) (negative : Bool)
    (hz : negative = true → n ≠ 0) :
    literalValue negative (decimal n) [] 0 = some (if negative then -(n : Int) else n) := by
  have hlt : n < 2 ^ 53 := by
    simp only [maxSafe] at h
    omega
  have hpow : ∀ k, 53 ≤ k → n < 2 ^ k := fun k hk =>
    Nat.lt_of_lt_of_le hlt (Nat.pow_le_pow_right (by decide) hk)
  have hfin : n < infinity := hpow 1024 (by decide)
  have hscaled : ∀ len, scaledIntegral n len 0 = some n := by
    intro len
    rw [scaledIntegral]
    by_cases h0 : n = 0
    · rw [if_pos h0, h0]
    · rw [if_neg h0, if_neg (by decide), if_neg (by omega)]
      simp only [Int.le_refl, if_true, Int.toNat_zero, pow_zero, Nat.mul_one, roundNat_of_lt hlt]
      rw [Option.filter_some_pos (by simpa using hfin)]
  rw [literalValue, List.append_nil, ofDigits_decimal]
  have hshift : (0 : Int) - ([] : JsString).length = 0 := rfl
  rw [hshift, hscaled]
  cases negative with
  | false => rfl
  | true =>
    have hne := hz rfl
    simp only [if_true, if_neg hne]

theorem parseUnsigned_decimal {n : Nat} {r : JsString} (hr : Delimited r) (negative : Bool) :
    parseUnsigned negative (decimal n ++ r) =
      some ((literalValue negative (decimal n) [] 0).map .num, r) := by
  have hint : parseInt (decimal n ++ r) = some (decimal n, r) := by
    rw [parseInt, spanDigits_append (isDigit_decimal n) hr.noDigitHead]
    cases hd : decimal n with
    | nil => exact absurd hd (decimal_ne_nil n)
    | cons d ds =>
      have hlead : ¬ (decide (d = 0x30) && !ds.isEmpty) = true := by
        intro hboth
        simp only [Bool.and_eq_true, decide_eq_true_eq, Bool.not_eq_true'] at hboth
        rw [hboth.1] at hd
        rw [decimal_zero_head hd] at hboth
        exact nomatch hboth.2
      exact if_neg hlead
  simp only [parseUnsigned, hint, parseFrac_delimited hr, parseExponent_delimited hr,
    Option.bind_eq_bind, Option.bind_some]
  rfl

/-- **A safe integer is read back from its text.** -/
theorem parseNumber_showInt {n : Int} {r : JsString} (hn : isSafeInt n = true) (hr : Delimited r) :
    parseNumber (showInt n ++ r) = some (some (.num n), r) := by
  simp only [isSafeInt, Bool.and_eq_true, decide_eq_true_eq] at hn
  rw [showInt]
  by_cases hneg : n < 0
  · have hminus : js "-" = [0x2D] := rfl
    rw [if_pos hneg, hminus, List.append_assoc, List.singleton_append, parseNumber, if_pos rfl,
      parseUnsigned_decimal hr, literalValue_decimal (by omega) true fun _ => by omega]
    have habs : -(n.natAbs : Int) = n := by omega
    simp only [if_true, habs]
    rfl
  · rw [if_neg hneg]
    obtain ⟨u, rest, hd, hu⟩ := decimal_head n.natAbs
    have hne : u ≠ 0x2D := by
      rintro rfl
      exact absurd hu (by decide)
    have hparse : parseNumber (decimal n.natAbs ++ r) = parseUnsigned false (decimal n.natAbs ++ r) := by
      rw [hd, List.cons_append, parseNumber, if_neg hne]
    rw [hparse, parseUnsigned_decimal hr, literalValue_decimal (by omega) false fun h => by cases h]
    have habs : (n.natAbs : Int) = n := by omega
    simp only [habs]
    rfl

/-! ## Reading strings back -/

theorem hexValue_hexDigit : ∀ n < 16, hexValue (hexDigit n) = some n := by decide

/-- A `\u` escape is read back. -/
theorem hexUnit_unicodeEscape (c : UInt16) :
    hexUnit (hexDigit (c.toNat / 0x1000)) (hexDigit (c.toNat / 0x100 % 0x10))
      (hexDigit (c.toNat / 0x10 % 0x10)) (hexDigit (c.toNat % 0x10)) = some c := by
  have hc := c.toNat_lt
  rw [hexUnit, hexValue_hexDigit _ (by omega), hexValue_hexDigit _ (by omega),
    hexValue_hexDigit _ (by omega), hexValue_hexDigit _ (by omega)]
  have hsum : c.toNat / 0x1000 * 0x1000 + c.toNat / 0x100 % 0x10 * 0x100
      + c.toNat / 0x10 % 0x10 * 0x10 + c.toNat % 0x10 = c.toNat := by omega
  simp only [Option.bind_eq_bind, Option.bind_some, hsum, UInt16.ofNat_toNat]
  rfl

theorem unescape_short : ∀ p ∈ shortEscapes, unescape p.2 = some p.1 := by
  have hall : (shortEscapes.all fun p => unescape p.2 = some p.1) = true := by decide
  simpa only [List.all_eq_true, decide_eq_true_eq] using hall

theorem parseString_quote (r : JsString) : parseString (0x22 :: r) = some ([], r) := by
  rw [parseString.eq_def]
  rfl

theorem parseString_short {e : UInt16} (he : e ≠ 0x75) (r : JsString) :
    parseString (0x5C :: e :: r) =
      (unescape e).bind fun u => (parseString r).map fun p => (u :: p.1, p.2) := by
  rw [parseString.eq_def]
  simp only [if_neg he]
  rfl

theorem parseString_unicode (a b c d : UInt16) (r : JsString) :
    parseString (0x5C :: 0x75 :: a :: b :: c :: d :: r) =
      (hexUnit a b c d).bind fun u => (parseString r).map fun p => (u :: p.1, p.2) := by
  rw [parseString.eq_def]
  rfl

theorem parseString_unit {c : UInt16} (hq : c ≠ 0x22) (hb : c ≠ 0x5C) (hc : ¬ c.toNat < 0x20)
    (r : JsString) : parseString (c :: r) = (parseString r).map fun p => (c :: p.1, p.2) := by
  rw [parseString.eq_def]
  simp only [if_neg hq, if_neg hb, if_neg hc]

/-- A control character is always escaped. -/
theorem escapeUnit_control {c : UInt16} (h : c.toNat < 0x20) : escapeUnit c ≠ [c] := by
  have hall : ∀ n < 0x20, (escapeUnit (UInt16.ofNat n)).length ≠ 1 := by decide
  intro heq
  have hlen := hall c.toNat h
  rw [UInt16.ofNat_toNat, heq] at hlen
  exact hlen rfl

/-- The text of one code unit is read back. -/
theorem parseString_escapeUnit (c : UInt16) (r : JsString) :
    parseString (escapeUnit c ++ r) = (parseString r).map fun p => (c :: p.1, p.2) := by
  rcases escapeUnit_cases c with ⟨e, hc, hce⟩ | hc | ⟨hc, hq, hb, -, -⟩
  · have he : e ≠ 0x75 := (shortEscapes_second _ hce).1
    rw [hc, List.cons_append, List.cons_append, List.nil_append, parseString_short he,
      unescape_short _ hce, Option.bind_some]
  · rw [hc, unicodeEscape]
    simp only [List.cons_append, List.nil_append]
    rw [parseString_unicode, hexUnit_unicodeEscape, Option.bind_some]
  · have hcontrol : ¬ c.toNat < 0x20 := fun h => escapeUnit_control h hc
    rw [hc, List.singleton_append, parseString_unit hq hb hcontrol]

/-- **A string is read back from its text.**  Strong induction on the length, as a surrogate pair
    is copied as a whole. -/
theorem parseString_escape : ∀ (n : Nat) (s r : JsString), s.length ≤ n →
    parseString (escape s ++ 0x22 :: r) = some (s, r) := by
  have hcopy : ∀ (c : UInt16) (r : JsString), (isHighSurrogate c || isLowSurrogate c) = true →
      parseString (c :: r) = (parseString r).map fun p => (c :: p.1, p.2) := by
    intro c r hc
    simp only [isHighSurrogate, isLowSurrogate, Bool.or_eq_true, Bool.and_eq_true,
      decide_eq_true_eq] at hc
    have hne : ∀ d : UInt16, d.toNat < 0xD800 → c ≠ d := by
      rintro d hd rfl
      omega
    exact parseString_unit (hne 0x22 (by decide)) (hne 0x5C (by decide)) (by omega) r
  intro n
  induction n with
  | zero =>
    intro s r hs
    obtain rfl : s = [] := List.length_eq_zero_iff.mp (by omega)
    exact parseString_quote r
  | succ n ih =>
    intro s r hs
    cases s with
    | nil => exact parseString_quote r
    | cons c s =>
      rw [List.length_cons] at hs
      rcases escape_cons_cases c s with ⟨d, rest, rfl, hc, hd, heq⟩ | heq
      · rw [List.length_cons] at hs
        rw [heq, List.cons_append, List.cons_append, hcopy c _ (by rw [hc, Bool.true_or]),
          hcopy d _ (by rw [hd, Bool.or_true]), ih rest r (by omega)]
        rfl
      · rw [heq, List.append_assoc, parseString_escapeUnit, ih s r (by omega)]
        rfl

/-! ## Reading values back -/

mutual

/-- What `JSON.stringify` of a JavaScript value can be read back from: no unsafe integer, and no
    object with two members of one name. -/
def Readable : JsonValue → Prop
  | .num n => isSafeInt n = true
  | .arr xs => ReadableElems xs
  | .obj ms => (ms.map Prod.fst).Nodup ∧ ReadableMembers ms
  | _ => True

def ReadableElems : List JsonValue → Prop
  | [] => True
  | x :: xs => Readable x ∧ ReadableElems xs

def ReadableMembers : List (JsString × JsonValue) → Prop
  | [] => True
  | (_, x) :: ms => Readable x ∧ ReadableMembers ms

end

theorem skipSpace_cons {u : UInt16} {r : JsString} (h : isSpace u = false) :
    skipSpace (u :: r) = u :: r := by
  rw [skipSpace, List.dropWhile_cons, h]
  rfl

theorem JsonValue.tag_ne_seven (v : JsonValue) : v.tag ≠ 7 := by
  cases v with
  | bool b => cases b <;> exact nofun
  | _ => exact nofun

/-- No value's text starts with white space. -/
theorem skipSpace_print (v : JsonValue) (r : JsString) :
    ∃ u rest, print v ++ r = u :: rest ∧ headTag u = v.tag ∧ skipSpace (print v ++ r) = u :: rest := by
  obtain ⟨u, rest, hp, ht⟩ := print_head v
  have hspace : isSpace u = false := by
    rw [Bool.eq_false_iff]
    intro hu
    simp only [isSpace, Bool.or_eq_true, decide_eq_true_eq] at hu
    have htag : headTag u = 7 := by
      rcases hu with ((rfl | rfl) | rfl) | rfl <;> decide
    rw [htag] at ht
    exact v.tag_ne_seven ht.symm
  refine ⟨u, rest ++ r, by rw [hp, List.cons_append], ht, ?_⟩
  rw [hp, List.cons_append, skipSpace_cons hspace]

theorem skipSpace_delimiter {u : UInt16} (h : u = 0x2C ∨ u = 0x5D ∨ u = 0x7D) (r : JsString) :
    skipSpace (u :: r) = u :: r := by
  refine skipSpace_cons ?_
  rcases h with rfl | rfl | rfl <;> decide

theorem join_cons_cons (sep p q : JsString) (qs : List JsString) :
    join sep (p :: q :: qs) = p ++ (sep ++ join sep (q :: qs)) := by
  rw [join, join, List.flatMap_cons, List.append_assoc]

theorem join_singleton (sep p : JsString) : join sep [p] = p := by
  rw [join, List.flatMap_nil, List.append_nil]

/-- Members with different names build the object that lists them. -/
theorem fromMembers_nodup {α : Type} {ms : List (JsString × α)} (h : (ms.map Prod.fst).Nodup) :
    fromMembers ms = ms := by
  suffices hall : ∀ (pre post : List (JsString × α)), ((pre ++ post).map Prod.fst).Nodup →
      post.foldl setMember pre = pre ++ post by
    exact hall [] ms h
  intro pre post
  induction post generalizing pre with
  | nil => intro _; rw [List.append_nil]; rfl
  | cons m post ih =>
    intro hnd
    have hnew : (pre.any fun e => e.1 == m.1) = false := by
      rw [List.any_eq_false]
      intro e he hkey
      rw [List.map_append, List.map_cons, List.nodup_append] at hnd
      exact hnd.2.2 e.1 (List.mem_map_of_mem he) m.1 List.mem_cons_self (beq_iff_eq.mp hkey)
    rw [List.foldl_cons, setMember, hnew]
    show post.foldl setMember (pre ++ [m]) = _
    rw [ih (pre ++ [m]) (by rwa [List.append_assoc]), List.append_assoc]
    rfl

theorem collectElems_some (xs : List JsonValue) : collectElems (xs.map some) = some xs := by
  induction xs with
  | nil => rfl
  | cons x xs ih => rw [List.map_cons, collectElems, ih]; rfl

theorem collectMembers_some (ms : List (JsString × JsonValue)) :
    collectMembers (ms.map fun m => (m.1, some m.2)) = some ms := by
  induction ms with
  | nil => rfl
  | cons m ms ih => rw [List.map_cons, collectMembers, ih]; rfl

/-! ### What a value starts with -/

section Head

variable {fuel : Nat} {rest r : JsString}

/-- A text that starts like a numeral is read as one. -/
theorem parseValue_numeral {u : UInt16} (h : headTag u = 6) :
    parseValue (fuel + 1) (u :: rest) = parseNumber (u :: rest) := by
  have hne : ∀ c : UInt16, headTag c ≠ 6 → u ≠ c := by
    rintro c hc rfl
    exact hc h
  have hspace : isSpace u = false := by
    rw [isSpace, decide_eq_false (hne 0x20 (by decide)), decide_eq_false (hne 0x09 (by decide)),
      decide_eq_false (hne 0x0A (by decide)), decide_eq_false (hne 0x0D (by decide))]
    rfl
  rw [parseValue, skipSpace_cons hspace]
  simp only [if_neg (hne 0x6E (by decide)), if_neg (hne 0x74 (by decide)),
    if_neg (hne 0x66 (by decide)), if_neg (hne 0x22 (by decide)), if_neg (hne 0x5B (by decide)),
    if_neg (hne 0x7B (by decide))]

theorem parseWord_append (word r : JsString) : parseWord word (word ++ r) = some r := by
  rw [parseWord, if_pos (List.isPrefixOf_iff_prefix.mpr (List.prefix_append word r)),
    List.drop_left]

theorem parseValue_null : parseValue (fuel + 1) (js "null" ++ r) = some (some .null, r) := by
  have hcons : js "null" ++ r = 0x6E :: (js "ull" ++ r) := rfl
  rw [hcons, parseValue, skipSpace_cons (by decide)]
  simp only [if_true]
  rw [← hcons, parseWord_append, Option.map_some]

theorem parseValue_true : parseValue (fuel + 1) (js "true" ++ r) = some (some (.bool true), r) := by
  have hcons : js "true" ++ r = 0x74 :: (js "rue" ++ r) := rfl
  have hn : (0x74 : UInt16) ≠ 0x6E := by decide
  rw [hcons, parseValue, skipSpace_cons (by decide)]
  simp only [if_neg hn, if_true]
  rw [← hcons, parseWord_append, Option.map_some]

theorem parseValue_false :
    parseValue (fuel + 1) (js "false" ++ r) = some (some (.bool false), r) := by
  have hcons : js "false" ++ r = 0x66 :: (js "alse" ++ r) := rfl
  have hn : (0x66 : UInt16) ≠ 0x6E := by decide
  have ht : (0x66 : UInt16) ≠ 0x74 := by decide
  rw [hcons, parseValue, skipSpace_cons (by decide)]
  simp only [if_neg hn, if_neg ht, if_true]
  rw [← hcons, parseWord_append, Option.map_some]

theorem parseValue_quote : parseValue (fuel + 1) (0x22 :: rest) =
    (parseString rest).map fun p => (some (.str p.1), p.2) := by
  have hn : (0x22 : UInt16) ≠ 0x6E := by decide
  have ht : (0x22 : UInt16) ≠ 0x74 := by decide
  have hf : (0x22 : UInt16) ≠ 0x66 := by decide
  rw [parseValue, skipSpace_cons (by decide)]
  simp only [if_neg hn, if_neg ht, if_neg hf, if_true]

theorem parseValue_arr_nil : parseValue (fuel + 1) (0x5B :: 0x5D :: r) = some (some (.arr []), r) := by
  have hn : (0x5B : UInt16) ≠ 0x6E := by decide
  have ht : (0x5B : UInt16) ≠ 0x74 := by decide
  have hf : (0x5B : UInt16) ≠ 0x66 := by decide
  have hq : (0x5B : UInt16) ≠ 0x22 := by decide
  rw [parseValue, skipSpace_cons (by decide)]
  simp only [if_neg hn, if_neg ht, if_neg hf, if_neg hq, if_true]
  rw [skipSpace_cons (by decide)]
  simp only [if_true]

theorem parseValue_arr_cons {u : UInt16} {tail : JsString} (hs : skipSpace rest = u :: tail)
    (hu : u ≠ 0x5D) : parseValue (fuel + 1) (0x5B :: rest) =
      (parseElems fuel rest).map fun p => ((collectElems p.1).map .arr, p.2) := by
  have hn : (0x5B : UInt16) ≠ 0x6E := by decide
  have ht : (0x5B : UInt16) ≠ 0x74 := by decide
  have hf : (0x5B : UInt16) ≠ 0x66 := by decide
  have hq : (0x5B : UInt16) ≠ 0x22 := by decide
  rw [parseValue, skipSpace_cons (by decide)]
  simp only [if_neg hn, if_neg ht, if_neg hf, if_neg hq, if_true]
  rw [hs]
  simp only [if_neg hu]

theorem parseValue_obj_nil : parseValue (fuel + 1) (0x7B :: 0x7D :: r) = some (some (.obj []), r) := by
  have hn : (0x7B : UInt16) ≠ 0x6E := by decide
  have ht : (0x7B : UInt16) ≠ 0x74 := by decide
  have hf : (0x7B : UInt16) ≠ 0x66 := by decide
  have hq : (0x7B : UInt16) ≠ 0x22 := by decide
  have hb : (0x7B : UInt16) ≠ 0x5B := by decide
  rw [parseValue, skipSpace_cons (by decide)]
  simp only [if_neg hn, if_neg ht, if_neg hf, if_neg hq, if_neg hb, if_true]
  rw [skipSpace_cons (by decide)]
  simp only [if_true]

theorem parseValue_obj_cons : parseValue (fuel + 1) (0x7B :: 0x22 :: rest) =
    (parseMembers fuel (0x22 :: rest)).map fun p =>
      ((collectMembers (fromMembers p.1)).map .obj, p.2) := by
  have hn : (0x7B : UInt16) ≠ 0x6E := by decide
  have ht : (0x7B : UInt16) ≠ 0x74 := by decide
  have hf : (0x7B : UInt16) ≠ 0x66 := by decide
  have hq : (0x7B : UInt16) ≠ 0x22 := by decide
  have hb : (0x7B : UInt16) ≠ 0x5B := by decide
  have hc : (0x22 : UInt16) ≠ 0x7D := by decide
  rw [parseValue, skipSpace_cons (by decide)]
  simp only [if_neg hn, if_neg ht, if_neg hf, if_neg hq, if_neg hb, if_true]
  rw [skipSpace_cons (by decide)]
  simp only [if_neg hc]

theorem parseElems_last {text : JsString} {x : Option JsonValue}
    (hx : parseValue fuel text = some (x, 0x5D :: r)) :
    parseElems (fuel + 1) text = some ([x], r) := by
  rw [parseElems, hx, Option.bind_some]
  simp only [skipSpace_cons (show isSpace 0x5D = false by decide), if_true]

theorem parseElems_comma {text : JsString} {x : Option JsonValue}
    (hx : parseValue fuel text = some (x, 0x2C :: rest)) :
    parseElems (fuel + 1) text = (parseElems fuel rest).map fun p => (x :: p.1, p.2) := by
  have hc : (0x2C : UInt16) ≠ 0x5D := by decide
  rw [parseElems, hx, Option.bind_some]
  simp only [skipSpace_cons (show isSpace 0x2C = false by decide), if_neg hc, if_true]

theorem parseMembers_last {k : JsString} {text : JsString} {x : Option JsonValue}
    (hx : parseValue fuel text = some (x, 0x7D :: r)) :
    parseMembers (fuel + 1) (0x22 :: (escape k ++ 0x22 :: 0x3A :: text)) = some ([(k, x)], r) := by
  rw [parseMembers, skipSpace_cons (by decide)]
  simp only [ne_eq, not_true_eq_false, if_false, parseString_escape k.length k _ (Nat.le_refl _),
    Option.bind_some, skipSpace_cons (show isSpace 0x3A = false by decide), hx,
    skipSpace_cons (show isSpace 0x7D = false by decide), if_true]

theorem parseMembers_comma {k : JsString} {text : JsString} {x : Option JsonValue}
    (hx : parseValue fuel text = some (x, 0x2C :: rest)) :
    parseMembers (fuel + 1) (0x22 :: (escape k ++ 0x22 :: 0x3A :: text)) =
      (parseMembers fuel rest).map fun p => ((k, x) :: p.1, p.2) := by
  have hc : (0x2C : UInt16) ≠ 0x7D := by decide
  rw [parseMembers, skipSpace_cons (by decide)]
  simp only [ne_eq, not_true_eq_false, if_false, parseString_escape k.length k _ (Nat.le_refl _),
    Option.bind_some, skipSpace_cons (show isSpace 0x3A = false by decide), hx,
    skipSpace_cons (show isSpace 0x2C = false by decide), if_neg hc, if_true]

end Head

/-! ### The induction

Every call passes less fuel on, so the induction is on the fuel; the text's length bounds it. -/

theorem length_print_pos (v : JsonValue) : 0 < (print v).length := by
  obtain ⟨u, rest, hp, -⟩ := print_head v
  rw [hp]
  exact Nat.succ_pos _

/-- With this much fuel every value that fits is read back, whatever delimiter follows. -/
def ReadsValue (fuel : Nat) : Prop :=
  ∀ (v : JsonValue) (r : JsString), Readable v → Delimited r → (print v).length ≤ fuel →
    parseValue fuel (print v ++ r) = some (some v, r)

def ReadsElems (fuel : Nat) : Prop :=
  ∀ (xs : List JsonValue) (r : JsString), xs ≠ [] → ReadableElems xs →
    (join (js ",") (printElems xs)).length + 1 ≤ fuel →
    parseElems fuel (join (js ",") (printElems xs) ++ 0x5D :: r) = some (xs.map some, r)

def ReadsMembers (fuel : Nat) : Prop :=
  ∀ (ms : List (JsString × JsonValue)) (r : JsString), ms ≠ [] → ReadableMembers ms →
    (join (js ",") (printMembers ms)).length + 1 ≤ fuel →
    parseMembers fuel (join (js ",") (printMembers ms) ++ 0x7D :: r) =
      some (ms.map fun m => (m.1, some m.2), r)

theorem readsElems_succ {fuel : Nat} (hv : ReadsValue fuel) (he : ReadsElems fuel) :
    ReadsElems (fuel + 1) := by
  intro xs r hne hxs hf
  match xs, hne with
  | [x], _ =>
    rw [printElems, printElems, join_singleton] at hf ⊢
    have hx : parseValue fuel (print x ++ 0x5D :: r) = some (some x, 0x5D :: r) :=
      hv x _ hxs.1 (delimited_cons (Or.inr (Or.inl rfl))) (by omega)
    rw [parseElems_last hx]
    rfl
  | x :: y :: ys, _ =>
    have hjoin : join (js ",") (printElems (x :: y :: ys)) =
        print x ++ (js "," ++ join (js ",") (printElems (y :: ys))) := by
      rw [printElems, printElems, join_cons_cons, ← printElems]
    have hcomma : js "," = [0x2C] := rfl
    have hlen := congrArg List.length hjoin
    rw [hcomma, List.length_append, List.length_append, List.length_singleton] at hlen
    rw [hcomma] at hf ⊢
    have hx : parseValue fuel (print x ++ 0x2C :: (join [0x2C] (printElems (y :: ys)) ++ 0x5D :: r)) =
        some (some x, 0x2C :: (join [0x2C] (printElems (y :: ys)) ++ 0x5D :: r)) :=
      hv x _ hxs.1 (delimited_cons (Or.inl rfl)) (by omega)
    have htail := he (y :: ys) r (List.cons_ne_nil y ys) hxs.2 (by rw [hcomma]; omega)
    rw [hcomma] at hjoin htail
    rw [hjoin, List.append_assoc, List.append_assoc, List.singleton_append, parseElems_comma hx,
      htail, Option.map_some]
    rfl

theorem readsMembers_succ {fuel : Nat} (hv : ReadsValue fuel) (hm : ReadsMembers fuel) :
    ReadsMembers (fuel + 1) := by
  have hcomma : js "," = [0x2C] := rfl
  have hcolon : js ":" = [0x3A] := rfl
  -- a member's text, with the value's text and what follows it in front of the rest
  have hmember : ∀ (k text tail : JsString), quote k ++ js ":" ++ text ++ tail =
      0x22 :: (escape k ++ 0x22 :: 0x3A :: (text ++ tail)) := by
    intro k text tail
    rw [quote, hcolon, List.append_assoc, List.append_assoc, List.cons_append, List.append_assoc]
    rfl
  intro ms r hne hms hf
  match ms, hne with
  | [(k, x)], _ =>
    rw [printMembers, printMembers, join_singleton] at hf ⊢
    rw [List.length_append] at hf
    have hx : parseValue fuel (print x ++ 0x7D :: r) = some (some x, 0x7D :: r) :=
      hv x _ hms.1 (delimited_cons (Or.inr (Or.inr rfl))) (by omega)
    rw [hmember, parseMembers_last hx]
    rfl
  | (k, x) :: (l, y) :: ms, _ =>
    have hjoin : join (js ",") (printMembers ((k, x) :: (l, y) :: ms)) =
        quote k ++ js ":" ++ print x ++ (js "," ++ join (js ",") (printMembers ((l, y) :: ms))) := by
      rw [printMembers, printMembers, join_cons_cons, ← printMembers]
    have hlen := congrArg List.length hjoin
    rw [List.length_append, List.length_append, List.length_append, List.length_append, hcomma,
      List.length_singleton] at hlen
    rw [hcomma] at hf ⊢
    have hx : parseValue fuel
        (print x ++ 0x2C :: (join [0x2C] (printMembers ((l, y) :: ms)) ++ 0x7D :: r)) =
        some (some x, 0x2C :: (join [0x2C] (printMembers ((l, y) :: ms)) ++ 0x7D :: r)) :=
      hv x _ hms.1 (delimited_cons (Or.inl rfl)) (by omega)
    have htail := hm ((l, y) :: ms) r (List.cons_ne_nil _ _) hms.2 (by rw [hcomma]; omega)
    rw [hcomma] at hjoin htail
    rw [hjoin, List.append_assoc, hmember, List.append_assoc, List.singleton_append,
      parseMembers_comma hx, htail, Option.map_some]
    rfl

theorem readsValue_succ {fuel : Nat} (he : ReadsElems fuel) (hm : ReadsMembers fuel) :
    ReadsValue (fuel + 1) := by
  intro v r hv hr hf
  match v, hv with
  | .null, _ => exact parseValue_null
  | .bool true, _ => exact parseValue_true
  | .bool false, _ => exact parseValue_false
  | .num n, hn =>
    obtain ⟨u, rest, hu, ht, -⟩ := skipSpace_print (.num n) r
    have hnum := parseNumber_showInt (n := n) hn hr
    rw [print] at hu ⊢
    rw [hu] at hnum ⊢
    rw [parseValue_numeral ht, hnum]
  | .str s, _ =>
    have htext : print (.str s) ++ r = 0x22 :: (escape s ++ 0x22 :: r) := by
      rw [print, quote, List.cons_append, List.append_assoc]
      rfl
    rw [htext, parseValue_quote, parseString_escape s.length s r (Nat.le_refl _)]
    rfl
  | .arr [], _ => exact parseValue_arr_nil
  | .arr (x :: xs), hxs =>
    have htext : print (.arr (x :: xs)) ++ r =
        0x5B :: (join (js ",") (printElems (x :: xs)) ++ 0x5D :: r) := by
      rw [print, List.append_assoc, List.append_assoc]
      rfl
    have hlen := congrArg List.length htext
    rw [List.length_append, List.length_cons, List.length_append, List.length_cons] at hlen
    -- the first element does not look like the end of the array
    obtain ⟨u, rest, -, htag, hskip⟩ := skipSpace_print x
      (((printElems xs).flatMap fun q => js "," ++ q) ++ 0x5D :: r)
    have hhead : skipSpace (join (js ",") (printElems (x :: xs)) ++ 0x5D :: r) = u :: rest := by
      rw [printElems, join, List.append_assoc]
      exact hskip
    have hclose : u ≠ 0x5D := by
      rintro rfl
      have htop : headTag 0x5D = 7 := by decide
      rw [htop] at htag
      exact x.tag_ne_seven htag.symm
    rw [htext, parseValue_arr_cons hhead hclose,
      he (x :: xs) r (List.cons_ne_nil x xs) hxs (by omega), Option.map_some, collectElems_some]
    rfl
  | .obj [], _ => exact parseValue_obj_nil
  | .obj ((k, x) :: ms), hms =>
    have htext : print (.obj ((k, x) :: ms)) ++ r =
        0x7B :: (join (js ",") (printMembers ((k, x) :: ms)) ++ 0x7D :: r) := by
      rw [print, List.append_assoc, List.append_assoc]
      rfl
    have hlen := congrArg List.length htext
    rw [List.length_append, List.length_cons, List.length_append, List.length_cons] at hlen
    have hparse := hm ((k, x) :: ms) r (List.cons_ne_nil _ _) hms.2 (by omega)
    have hhead : ∃ rest, join (js ",") (printMembers ((k, x) :: ms)) ++ 0x7D :: r =
        0x22 :: rest := by
      rw [printMembers, join, quote, List.cons_append, List.cons_append, List.cons_append,
        List.cons_append]
      exact ⟨_, rfl⟩
    obtain ⟨rest, hhead⟩ := hhead
    have hkeys : (((k, x) :: ms).map fun m => (m.1, some m.2)).map Prod.fst =
        ((k, x) :: ms).map Prod.fst := by
      rw [List.map_map]
      rfl
    rw [hhead] at hparse
    rw [htext, hhead, parseValue_obj_cons, hparse, Option.map_some,
      fromMembers_nodup (by rw [hkeys]; exact hms.1), collectMembers_some]
    rfl

theorem parse_print (fuel : Nat) : ReadsValue fuel ∧ ReadsElems fuel ∧ ReadsMembers fuel := by
  induction fuel with
  | zero =>
    refine ⟨fun v r _ _ hf => ?_, fun xs r _ _ hf => ?_, fun ms r _ _ hf => ?_⟩
    · have hpos := length_print_pos v
      omega
    · omega
    · omega
  | succ fuel ih =>
    obtain ⟨hv, he, hm⟩ := ih
    exact ⟨readsValue_succ he hm, readsElems_succ hv he, readsMembers_succ hv hm⟩

/-- **`JSON.parse` reads back what `JSON.stringify` wrote.** -/
theorem jsonParse_print {v : JsonValue} (h : Readable v) : jsonParse (print v) = some (some v) := by
  have hparse := (parse_print ((print v).length + 1)).1 v [] h delimited_nil (Nat.le_succ _)
  rw [List.append_nil] at hparse
  rw [jsonParse, hparse]
  rfl

end Js
