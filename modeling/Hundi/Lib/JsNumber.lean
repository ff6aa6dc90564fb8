/-
  JavaScript number arithmetic on integers.

  A JavaScript number is an IEEE double.  On integers that is exact up to `2^53` and rounds to the
  nearest integer with a 53-bit significand above it, ties to even.  `jsRound` is that rounding;
  `jsAdd`/`jsMul` are `+` and `*` on integer operands: the exact result, rounded.  (The overflow
  to `Infinity` at `2^1024` is out of reach of any sum or product of safe integers.)

  What a checker gets from it is one fact, `jsRound_of_lt`: a rounded result below `2^53` was not
  rounded at all.  So an accepted comparison against a safe integer is an exact one.
-/
import Mathlib.Data.Nat.Log
import Mathlib.Tactic.Ring
import Mathlib.Tactic.Positivity
import Mathlib.Tactic.Linarith

namespace Js

/-- `Number.MAX_SAFE_INTEGER`. -/
def maxSafe : Int := 9007199254740991

/-- `Number.isSafeInteger` of an integer. -/
def isSafeInt (n : Int) : Bool := -maxSafe ≤ n && n ≤ maxSafe

/-- Round a natural number to 53 significant bits, ties to even: drop `e` low bits, round up when
    the rest is above half a unit, or exactly half and the kept part is odd. -/
def roundNat (n : Nat) : Nat :=
  let e := Nat.log2 n - 52
  let q := n / 2 ^ e
  let r := n % 2 ^ e
  if 2 * r > 2 ^ e || (2 * r == 2 ^ e && q % 2 == 1) then (q + 1) * 2 ^ e else q * 2 ^ e

/-- The double nearest to an integer. -/
def jsRound (n : Int) : Int := if n < 0 then -roundNat n.natAbs else roundNat n.natAbs

/-- `a + b` on JavaScript numbers. -/
def jsAdd (a b : Int) : Int := jsRound (a + b)

/-- `a * b` on JavaScript numbers. -/
def jsMul (a b : Int) : Int := jsRound (a * b)

/-! ## Exactness -/

theorem roundNat_of_lt {n : Nat} (h : n < 2 ^ 53) : roundNat n = n := by
  have he : Nat.log2 n - 52 = 0 := by
    rcases Nat.eq_zero_or_pos n with h0 | hpos
    · subst h0; rfl
    · have hlog := (Nat.log2_lt (by omega)).mpr h
      omega
  simp only [roundNat, he, pow_zero, Nat.div_one, Nat.mod_one, Nat.mul_one]
  rfl

/-- Rounding never brings a number from `2^53` or above to below it. -/
theorem le_roundNat {n : Nat} (h : 2 ^ 53 ≤ n) : 2 ^ 53 ≤ roundNat n := by
  have hne : n ≠ 0 := by omega
  have hlog : 53 ≤ Nat.log2 n := (Nat.le_log2 hne).mpr h
  have hself : 2 ^ Nat.log2 n ≤ n := Nat.log2_self_le hne
  -- the kept part has 53 bits, so it and the dropped width make up at least `2 ^ log2 n`
  have hq : 2 ^ 52 ≤ n / 2 ^ (Nat.log2 n - 52) := by
    rw [Nat.le_div_iff_mul_le (by positivity), ← pow_add]
    have : 52 + (Nat.log2 n - 52) = Nat.log2 n := by omega
    rw [this]
    exact hself
  have he : 2 ^ 1 ≤ 2 ^ (Nat.log2 n - 52) := Nat.pow_le_pow_right (by decide) (by omega)
  have hprod : 2 ^ 52 * 2 ^ 1 ≤ n / 2 ^ (Nat.log2 n - 52) * 2 ^ (Nat.log2 n - 52) :=
    Nat.mul_le_mul hq he
  simp only [roundNat]
  split
  · have hstep : n / 2 ^ (Nat.log2 n - 52) * 2 ^ (Nat.log2 n - 52)
        ≤ (n / 2 ^ (Nat.log2 n - 52) + 1) * 2 ^ (Nat.log2 n - 52) :=
      Nat.mul_le_mul_right _ (Nat.le_succ _)
    omega
  · omega

/-- **A result below `2^53` was exact.** -/
theorem jsRound_of_lt {n : Int} (h0 : 0 ≤ n) (h : jsRound n ≤ maxSafe) : jsRound n = n := by
  rw [jsRound, if_neg (by omega)] at h ⊢
  rcases Nat.lt_or_ge n.natAbs (2 ^ 53) with hlt | hge
  · rw [roundNat_of_lt hlt]
    omega
  · have hr := le_roundNat hge
    simp only [maxSafe] at h
    omega

/-- Integers up to `2^53 - 1` are their own doubles. -/
theorem jsRound_of_safe {n : Int} (h0 : 0 ≤ n) (h : n ≤ maxSafe) : jsRound n = n := by
  rw [jsRound, if_neg (by omega), roundNat_of_lt (by simp only [maxSafe] at h; omega)]
  omega

theorem jsRound_nonneg {n : Int} (h0 : 0 ≤ n) : 0 ≤ jsRound n := by
  rw [jsRound, if_neg (by omega)]
  omega

/-- A rounded number exceeds a safe bound exactly when the number itself does. -/
theorem jsRound_gt_iff {n c : Int} (h0 : 0 ≤ n) (hc : c ≤ maxSafe) : jsRound n > c ↔ n > c := by
  rcases le_or_gt n maxSafe with hle | hgt
  · rw [jsRound_of_safe h0 hle]
  · have hbig : ¬ jsRound n ≤ maxSafe := by
      intro hle
      have heq := jsRound_of_lt h0 hle
      omega
    constructor
    · intro _; omega
    · intro _; omega

theorem jsAdd_gt_iff {a b c : Int} (ha : 0 ≤ a) (hb : 0 ≤ b) (hc : c ≤ maxSafe) :
    jsAdd a b > c ↔ a + b > c :=
  jsRound_gt_iff (by omega) hc

/-! ## Running totals

  A `reduce((sum, x) => sum + x)` rounds at every step.  If the final value is a safe integer,
  no step rounded. -/

/-- `xs.reduce((sum, x) => sum + f(x), 0)`, every `+` rounded. -/
def jsSum (xs : List Int) : Int := xs.foldl jsAdd 0

theorem foldl_jsAdd_ge : ∀ (xs : List Int) (acc : Int), 0 ≤ acc → (∀ x ∈ xs, 0 ≤ x) →
    xs.foldl jsAdd acc ≤ maxSafe → acc ≤ maxSafe ∧ xs.foldl jsAdd acc = acc + xs.sum
  | [], acc, _, _, h => by
    simp only [List.foldl_nil, List.sum_nil] at h ⊢
    omega
  | x :: xs, acc, hacc, hxs, h => by
    have hx := hxs x List.mem_cons_self
    rw [List.foldl_cons] at h ⊢
    obtain ⟨hstep, hsum⟩ := foldl_jsAdd_ge xs (jsAdd acc x) (jsRound_nonneg (by omega))
      (fun y hy => hxs y (List.mem_cons_of_mem x hy)) h
    have hexact : jsAdd acc x = acc + x := jsRound_of_lt (by omega) hstep
    rw [hsum, hexact, List.sum_cons]
    rw [hexact] at hstep
    omega

/-- **A safe total of non-negative terms is the exact total.** -/
theorem jsSum_eq {xs : List Int} (hxs : ∀ x ∈ xs, 0 ≤ x) (h : jsSum xs ≤ maxSafe) :
    jsSum xs = xs.sum := by
  have hs := (foldl_jsAdd_ge xs 0 le_rfl hxs h).2
  rw [jsSum, hs]
  omega

/-- Every term of a safe total of non-negative terms is itself safe. -/
theorem le_of_jsSum {xs : List Int} (hxs : ∀ x ∈ xs, 0 ≤ x) (h : jsSum xs ≤ maxSafe) :
    ∀ x ∈ xs, x ≤ maxSafe := by
  intro x hx
  have hle := List.single_le_sum hxs x hx
  rw [jsSum_eq hxs h] at h
  omega

example : jsAdd 9007199254740992 1 = 9007199254740992 := by decide
example : jsMul 3 5 = 15 := by decide

end Js
