/-
  Exact decimals, and how texts denote them.

  A decimal is an integer over a power of ten.  `DecimalText` is ECMAScript's grammar of decimal
  literals: a sign, digits, a point and digits, an exponent.  `parseFloat` reads the longest text of the
  grammar off the front and drops the rest; `numeral` asks that nothing is left.

    numeral_iff         `numeral` is the grammar
    parseFloat_numeral  what is a numeral as a whole, `parseFloat` reads as it is
    roundTimes_eq       the integer rounding is that of the rational value
-/
import Hundi.Lib.JsonParse
import Hundi.Lib.JsText
import Mathlib.Data.Rat.Floor

namespace Js

/-- `mantissa / 10 ^ scale`. -/
structure Decimal where
  mantissa : Int
  scale : Nat
  deriving DecidableEq

namespace Decimal

/-- `n * 10 ^ e`. -/
def ofScaled (n e : Int) : Decimal :=
  if 0 ≤ e then ⟨n * 10 ^ e.toNat, 0⟩ else ⟨n, (-e).toNat⟩

def value (d : Decimal) : ℚ := d.mantissa / 10 ^ d.scale

/-- `Math.round(d * k)`: to the nearest integer, up from the middle. -/
def roundTimes (d : Decimal) (k : Int) : Int :=
  (2 * (d.mantissa * k) + 10 ^ d.scale) / (2 * 10 ^ d.scale)

theorem roundTimes_eq (d : Decimal) (k : Int) : d.roundTimes k = ⌊d.value * k + 1 / 2⌋ := by
  have hpos : (10 : ℚ) ^ d.scale ≠ 0 := pow_ne_zero _ (by norm_num)
  have hsum : d.value * k + 1 / 2
      = ((2 * (d.mantissa * k) + 10 ^ d.scale : ℤ) : ℚ) / ((2 * 10 ^ d.scale : ℕ) : ℚ) := by
    rw [value]
    push_cast
    field_simp
  rw [hsum, Rat.floor_intCast_div_natCast, roundTimes]
  push_cast
  rfl

end Decimal

/-! ## Reading a numeral off the front -/

/-- A point and digits, if the text goes on with them: the digits.  `int` are the digits before. -/
def readFraction (int : JsString) : JsString → JsString × JsString
  | [] => ([], [])
  | c :: rest =>
    if c = 0x2E then
      let (frac, rest') := spanDigits rest
      if int.isEmpty && frac.isEmpty then ([], c :: rest) else (frac, rest')
    else ([], c :: rest)

/-- `e` or `E`, a sign and digits, if the text goes on with them. -/
def readExponent : JsString → Int × JsString
  | [] => (0, [])
  | c :: rest =>
    if c = 0x65 || c = 0x45 then
      match spanDigits (parseSign rest).2 with
      | ([], _) => (0, c :: rest)
      | (ds, rest') => (if (parseSign rest).1 then -(ofDigits ds : Int) else ofDigits ds, rest')
    else (0, c :: rest)

def readUnsigned (negative : Bool) (s : JsString) : Option (Decimal × JsString) :=
  let (int, s) := spanDigits s
  let (frac, s) := readFraction int s
  if int.isEmpty && frac.isEmpty then none
  else
    let (exponent, s) := readExponent s
    let n : Int := ofDigits (int ++ frac)
    some (Decimal.ofScaled (if negative then -n else n) (exponent - frac.length), s)

/-- The longest decimal literal that the text starts with, and the rest. -/
def readDecimal (s : JsString) : Option (Decimal × JsString) :=
  readUnsigned (parseSign s).1 (parseSign s).2

/-- `Number.parseFloat(s)` where it is finite; `none` for `NaN` and, as no digit starts it, `Infinity`. -/
def parseFloat (s : JsString) : Option Decimal :=
  (readDecimal (s.dropWhile isWhiteSpace)).map Prod.fst

/-- The decimal that the text is a numeral of, from its first to its last character. -/
def numeral (s : JsString) : Option Decimal :=
  match readDecimal s with
  | some (d, []) => some d
  | _ => none

example : numeral (js "1299.00") = some ⟨129900, 2⟩ := by decide
example : numeral (js "1,299.00") = none := by decide
example : parseFloat (js "1,299.00") = some ⟨1, 0⟩ := by decide

/-! ## The grammar -/

inductive SignText : JsString → Bool → Prop where
  | none : SignText [] false
  | plus : SignText [0x2B] false
  | minus : SignText [0x2D] true

/-- What stands between the digits `int` and the exponent, with the digits behind the point. -/
inductive FractionText (int : JsString) : JsString → JsString → Prop where
  | none (h : int ≠ []) : FractionText int [] []
  | point {frac : JsString} (h : int ≠ [] ∨ frac ≠ []) (hfrac : ∀ c ∈ frac, isDigit c = true) :
      FractionText int (0x2E :: frac) frac

inductive ExponentText : JsString → Int → Prop where
  | none : ExponentText [] 0
  | some {c : UInt16} {sign ds : JsString} {negative : Bool} (hc : c = 0x65 ∨ c = 0x45)
      (hsign : SignText sign negative) (hne : ds ≠ []) (hds : ∀ c ∈ ds, isDigit c = true) :
      ExponentText (c :: (sign ++ ds)) (if negative then -(ofDigits ds : Int) else ofDigits ds)

/-- `s` is a decimal literal, of `d`. -/
def DecimalText (s : JsString) (d : Decimal) : Prop :=
  ∃ sign negative int point frac exp exponent, SignText sign negative ∧
    (∀ c ∈ int, isDigit c = true) ∧ FractionText int point frac ∧ ExponentText exp exponent ∧
    s = sign ++ (int ++ (point ++ exp)) ∧
    d = Decimal.ofScaled (if negative then -(ofDigits (int ++ frac) : Int) else ofDigits (int ++ frac))
      (exponent - frac.length)

/-! ## Reading follows the grammar -/

theorem spanDigits_spec (s : JsString) :
    s = (spanDigits s).1 ++ (spanDigits s).2 ∧ (∀ c ∈ (spanDigits s).1, isDigit c = true) ∧
      NoDigitHead (spanDigits s).2 := by
  rw [spanDigits, List.span_eq_takeWhile_dropWhile]
  refine ⟨(List.takeWhile_append_dropWhile).symm, fun c hc => List.mem_takeWhile_imp hc, ?_⟩
  intro c rest hrest
  have hhead := List.head?_dropWhile_not isDigit s
  rw [show s.dropWhile isDigit = c :: rest from hrest] at hhead
  exact hhead

theorem parseSign_spec (s : JsString) :
    ∃ sign, s = sign ++ (parseSign s).2 ∧ SignText sign (parseSign s).1 := by
  cases s with
  | nil => exact ⟨[], rfl, .none⟩
  | cons c s =>
    rw [parseSign]
    by_cases hminus : c = 0x2D
    · subst hminus
      exact ⟨[0x2D], rfl, .minus⟩
    · rw [if_neg hminus]
      by_cases hplus : c = 0x2B
      · subst hplus
        exact ⟨[0x2B], rfl, .plus⟩
      · rw [if_neg hplus]
        exact ⟨[], rfl, .none⟩

/-- A sign is taken off whatever is no sign. -/
theorem parseSign_append {sign s : JsString} {negative : Bool} (hsign : SignText sign negative)
    (hs : ∀ c, s.head? = some c → c ≠ 0x2D ∧ c ≠ 0x2B) : parseSign (sign ++ s) = (negative, s) := by
  cases hsign with
  | plus => rfl
  | minus => rfl
  | none =>
    cases s with
    | nil => rfl
    | cons c s =>
      obtain ⟨hminus, hplus⟩ := hs c rfl
      rw [List.nil_append, parseSign, if_neg hminus, if_neg hplus]

theorem readFraction_spec {int s : JsString} (h : ¬ (int = [] ∧ (readFraction int s).1 = [])) :
    ∃ point, s = point ++ (readFraction int s).2 ∧ FractionText int point (readFraction int s).1 := by
  cases s with
  | nil => exact ⟨[], rfl, .none fun hint => h ⟨hint, rfl⟩⟩
  | cons c rest =>
    rw [readFraction] at h ⊢
    by_cases hpoint : c = 0x2E
    · subst hpoint
      obtain ⟨hsplit, hdigits, -⟩ := spanDigits_spec rest
      rw [if_pos rfl] at h ⊢
      dsimp only at h ⊢
      by_cases hempty : (int.isEmpty && (spanDigits rest).1.isEmpty) = true
      · rw [if_pos hempty] at h
        rw [Bool.and_eq_true, List.isEmpty_iff] at hempty
        exact absurd ⟨hempty.1, rfl⟩ h
      · rw [if_neg hempty] at h ⊢
        refine ⟨0x2E :: (spanDigits rest).1, ?_, .point ?_ hdigits⟩
        · rw [List.cons_append, ← hsplit]
        · rw [← not_and_or]
          exact h
    · rw [if_neg hpoint] at h ⊢
      exact ⟨[], rfl, .none fun hint => h ⟨hint, rfl⟩⟩

theorem readExponent_spec (s : JsString) :
    ∃ exp, s = exp ++ (readExponent s).2 ∧ ExponentText exp (readExponent s).1 := by
  cases s with
  | nil => exact ⟨[], rfl, .none⟩
  | cons c rest =>
    rw [readExponent]
    by_cases hc : (c = 0x65 || c = 0x45) = true
    · rw [if_pos hc]
      obtain ⟨sign, hrest, hsign⟩ := parseSign_spec rest
      obtain ⟨hsplit, hdigits, -⟩ := spanDigits_spec (parseSign rest).2
      rcases hspan : spanDigits (parseSign rest).2 with ⟨_ | ⟨d, ds⟩, rest'⟩
      · exact ⟨[], rfl, .none⟩
      · rw [hspan] at hsplit hdigits
        refine ⟨c :: (sign ++ d :: ds), ?_, .some (by simpa using hc) hsign (List.cons_ne_nil _ _) hdigits⟩
        show c :: rest = c :: (sign ++ d :: ds ++ rest')
        rw [List.append_assoc, ← hsplit, ← hrest]
    · rw [if_neg hc]
      exact ⟨[], rfl, .none⟩

/-- **What is read is a literal.** -/
theorem readDecimal_spec {s rest : JsString} {d : Decimal} (h : readDecimal s = some (d, rest)) :
    ∃ t, s = t ++ rest ∧ DecimalText t d := by
  obtain ⟨sign, hs, hsign⟩ := parseSign_spec s
  obtain ⟨hint, hdigits, -⟩ := spanDigits_spec (parseSign s).2
  rw [readDecimal, readUnsigned] at h
  dsimp only at h
  split at h
  · exact absurd h (by simp)
  · rename_i hne
    obtain ⟨rfl, rfl⟩ := Prod.mk.inj (Option.some.inj h)
    rw [Bool.and_eq_true, List.isEmpty_iff, List.isEmpty_iff] at hne
    obtain ⟨point, hpoint, hfraction⟩ := readFraction_spec hne
    obtain ⟨exp, hexp, hexponent⟩ :=
      readExponent_spec (readFraction (spanDigits (parseSign s).2).1 (spanDigits (parseSign s).2).2).2
    refine ⟨sign ++ ((spanDigits (parseSign s).2).1 ++ (point ++ exp)), ?_,
      sign, _, _, point, _, exp, _, hsign, hdigits, hfraction, hexponent, rfl, rfl⟩
    rw [List.append_assoc, List.append_assoc, List.append_assoc, ← hexp, ← hpoint, ← hint]
    exact hs

theorem exponentText_head {exp : JsString} {e : Int} (h : ExponentText exp e) :
    NoDigitHead exp ∧ ∀ c, exp.head? = some c → c ≠ 0x2E ∧ c ≠ 0x2D ∧ c ≠ 0x2B := by
  cases h with
  | none => exact ⟨fun c rest h => (nomatch h), fun c h => (nomatch h)⟩
  | some hc =>
    constructor
    · intro c rest h
      obtain rfl := (List.cons.inj h).1
      rcases hc with rfl | rfl <;> decide
    · intro c h
      obtain rfl := Option.some.inj h
      rcases hc with rfl | rfl <;> decide

theorem digits_head {ds : JsString} (hds : ∀ c ∈ ds, isDigit c = true) {c : UInt16}
    (h : ds.head? = some c) : c ≠ 0x2E ∧ c ≠ 0x2D ∧ c ≠ 0x2B := by
  have hc := hds c (List.mem_of_head? h)
  refine ⟨?_, ?_, ?_⟩
  · rintro rfl
    exact absurd hc (by decide)
  · rintro rfl
    exact absurd hc (by decide)
  · rintro rfl
    exact absurd hc (by decide)

theorem readExponent_exponentText {exp : JsString} {e : Int} (h : ExponentText exp e) :
    readExponent exp = (e, []) := by
  cases h with
  | none => rfl
  | @some c sign ds negative hc hsign hne hds =>
    have hrest : parseSign (sign ++ ds) = (negative, ds) :=
      parseSign_append hsign fun c h => (digits_head hds h).2
    have hspan : spanDigits ds = (ds, []) := by
      have := spanDigits_append hds (r := []) fun c rest h => nomatch h
      rwa [List.append_nil] at this
    rw [readExponent, if_pos (by simpa using hc), hrest]
    dsimp only
    rw [hspan]
    obtain ⟨d, ds, rfl⟩ := List.exists_cons_of_ne_nil hne
    rfl

/-- **A literal is read as a whole.** -/
theorem readDecimal_decimalText {s : JsString} {d : Decimal} (h : DecimalText s d) :
    readDecimal s = some (d, []) := by
  obtain ⟨sign, negative, int, point, frac, exp, exponent, hsign, hint, hfraction, hexponent, rfl, rfl⟩ := h
  have hsome : ¬ (int = [] ∧ frac = []) := by
    rintro ⟨rfl, rfl⟩
    cases hfraction with
    | none h => exact h rfl
    | point h => exact h.elim (fun h => h rfl) fun h => h rfl
  -- behind the integer digits comes the point, the exponent or nothing
  have htail : NoDigitHead (point ++ exp) ∧
      readFraction int (point ++ exp) = (frac, exp) := by
    obtain ⟨hdigit, hhead⟩ := exponentText_head hexponent
    cases hfraction with
    | none hne =>
      refine ⟨hdigit, ?_⟩
      rw [List.nil_append]
      cases exp with
      | nil => rfl
      | cons c rest => exact if_neg (hhead c rfl).1
    | point hne hfrac =>
      refine ⟨fun c rest h => ?_, ?_⟩
      · obtain rfl := (List.cons.inj h).1
        decide
      · rw [List.cons_append, readFraction, if_pos rfl, spanDigits_append hfrac hdigit]
        dsimp only
        rw [if_neg]
        rw [Bool.and_eq_true, List.isEmpty_iff, List.isEmpty_iff]
        exact hsome
  have hunsigned : ∀ c, (int ++ (point ++ exp)).head? = some c → c ≠ 0x2D ∧ c ≠ 0x2B := by
    intro c hc
    cases int with
    | cons i int => exact (digits_head hint hc).2
    | nil =>
      cases hfraction with
      | none h => exact absurd rfl h
      | point =>
        obtain rfl := Option.some.inj hc
        decide
  rw [readDecimal, parseSign_append hsign hunsigned, readUnsigned]
  dsimp only
  rw [spanDigits_append hint htail.1]
  dsimp only
  rw [htail.2]
  dsimp only
  rw [if_neg, readExponent_exponentText hexponent]
  rw [Bool.and_eq_true, List.isEmpty_iff, List.isEmpty_iff]
  exact hsome

/-- **`numeral` is the grammar.** -/
theorem numeral_iff {s : JsString} {d : Decimal} : numeral s = some d ↔ DecimalText s d := by
  constructor
  · intro h
    rw [numeral] at h
    split at h
    · rename_i d' hread
      obtain rfl := Option.some.inj h
      obtain ⟨t, hs, ht⟩ := readDecimal_spec hread
      rw [List.append_nil] at hs
      exact hs ▸ ht
    · exact absurd h (by simp)
  · intro h
    rw [numeral, readDecimal_decimalText h]

/-- A literal starts with a sign, a digit or the point. -/
theorem decimalText_head {s : JsString} {d : Decimal} (h : DecimalText s d) :
    ∃ c rest, s = c :: rest ∧ (c = 0x2B ∨ c = 0x2D ∨ c = 0x2E ∨ isDigit c = true) := by
  obtain ⟨sign, negative, int, point, frac, exp, exponent, hsign, hint, hfraction, -, rfl, -⟩ := h
  cases hsign with
  | plus => exact ⟨_, _, rfl, Or.inl rfl⟩
  | minus => exact ⟨_, _, rfl, Or.inr (Or.inl rfl)⟩
  | none =>
    cases int with
    | cons i int => exact ⟨_, _, rfl, Or.inr (Or.inr (Or.inr (hint i List.mem_cons_self)))⟩
    | nil =>
      cases hfraction with
      | none h => exact absurd rfl h
      | point => exact ⟨_, _, rfl, Or.inr (Or.inr (Or.inl rfl))⟩

/-- What is a numeral has no white space in front. -/
theorem parseFloat_numeral {s : JsString} {d : Decimal} (h : numeral s = some d) :
    parseFloat s = some d := by
  have htext := numeral_iff.mp h
  obtain ⟨c, rest, rfl, hc⟩ := decimalText_head htext
  have hspace : ¬ isWhiteSpace c = true := by
    intro hspace
    rcases hc with rfl | rfl | rfl | hc
    · exact absurd hspace (by decide)
    · exact absurd hspace (by decide)
    · exact absurd hspace (by decide)
    · have hrange := range_of_isWhiteSpace hspace
      rw [isDigit, Bool.and_eq_true, decide_eq_true_eq, decide_eq_true_eq] at hc
      omega
  rw [parseFloat, List.dropWhile_cons_of_neg hspace, readDecimal_decimalText htext]
  rfl

end Js
