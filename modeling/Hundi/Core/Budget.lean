/-
  packages/core/src/verify.ts — the gate's budget checks, read over exact integers.

  Only the single fields of a cart are checked to be safe integers: a product goes up to 2^106, and
  the running sum is rounded at every step.  `accepted_exact` says that rounding cannot fool the
  gate: what an accepted cart adds up to, and what the ceilings and the two approval lines were
  compared with, is what exact arithmetic gives.
-/
import Hundi.Core.Verify

namespace Hundi

open Js

/-- The approval decision with exact sums: a per-cart line and a cumulative one. -/
def CrossesLine (intent : IntentMandate) (totalPaise spentPaise : Int) : Prop :=
  totalPaise > intent.approvalThresholdPaise ∨
    ∃ line, intent.cumulativeApprovalThresholdPaise = some line ∧ spentPaise + totalPaise > line

/-- **The approval decision is not rounded.** -/
theorem needsApproval_iff {intent : IntentMandate} {cart : CartMandate} {spentPaise : Int}
    (hvalid : ValidIntent intent) (hspent : 0 ≤ spentPaise) (htotal : 0 ≤ cart.totalPaise) :
    needsApproval intent cart spentPaise = true ↔ CrossesLine intent cart.totalPaise spentPaise := by
  rw [needsApproval, Bool.or_eq_true, decide_eq_true_eq, CrossesLine]
  refine or_congr Iff.rfl ?_
  cases hline : intent.cumulativeApprovalThresholdPaise with
  | none =>
    constructor
    · intro h
      cases h
    · rintro ⟨line, h, -⟩
      cases h
  | some line =>
    have hexact := jsAdd_gt_iff hspent htotal (le_maxSafe (hvalid.line line hline))
    rw [Option.any_some, decide_eq_true_eq, hexact]
    constructor
    · intro h
      exact ⟨line, rfl, h⟩
    · rintro ⟨line', h, hgt⟩
      obtain rfl := Option.some.inj h
      exact hgt

/-- **Rounding cannot fool the budget checks.**  Whatever the number of items, what the gate accepts
    adds up, stays within both ceilings and needs approval exactly as over the integers. -/
theorem accepted_exact (crypto : Crypto) (intent : IntentMandate) (cart : CartMandate)
    (ctx : VerifyCtx) (approval : Bool) (mandateCartHashHex : JsString)
    (hspent : 0 ≤ ctx.spentPaise.getD 0) (hmerchantSpent : 0 ≤ ctx.merchantSpentPaise.getD 0)
    (h : verifyChain crypto intent cart ctx = .ok (.ok approval mandateCartHashHex)) :
    (cart.items.map fun item => item.qty * item.unitPricePaise).sum = cart.totalPaise ∧
      ctx.spentPaise.getD 0 + cart.totalPaise ≤ intent.ceilingPaise ∧
      (∀ limits limit, intent.perMerchantCeilingPaise = some limits →
        limits.get? cart.merchantId = some limit →
        ctx.merchantSpentPaise.getD 0 + cart.totalPaise ≤ limit) ∧
      (approval = true ↔ CrossesLine intent cart.totalPaise (ctx.spentPaise.getD 0)) := by
  have haccepted := verifyChain_accepted h
  have hlaw := haccepted.law hspent hmerchantSpent
  refine ⟨hlaw.lineSum, hlaw.ceiling, hlaw.merchantCeiling, ?_⟩
  rw [haccepted.decision]
  exact needsApproval_iff (validateIntentSchema_none haccepted.intentSchema) hspent hlaw.total_nonneg

/-- A hash that keeps its input and verifiers that accept. -/
def plainCrypto : Crypto where
  sha256 := id
  ed25519Verify := fun _ _ _ => .ok true
  p256Verify := fun _ _ _ => .ok true
  hmacSha256Hex := fun _ body => body
  textDecode := fun _ => []
  jsonParse := fun _ => none

/-- A ceiling of `Number.MAX_SAFE_INTEGER`, and a line one below it. -/
def wideIntent : IntentMandate where
  mandateId := js "m1"
  goal := js "groceries"
  ceilingPaise := maxSafe
  approvalThresholdPaise := 1000
  currency := js "INR"
  merchants := [js "shop"]
  expiresAt := 100000
  agentPubkeyHex := js "aa"
  perMerchantCeilingPaise := some [(js "shop", 1000)]
  cumulativeApprovalThresholdPaise := some (maxSafe - 1)
  allowedSkus := none
  sig := .ed25519 (js "00")

def wideCart : CartMandate where
  cartId := js "c1"
  merchantId := js "shop"
  items := [⟨js "rice", 3, 100, none, none⟩, ⟨js "salt", 1, 91, none, none⟩]
  totalPaise := 391
  intentHashHex :=
    match intentSigningBytes wideIntent with
    | .ok bytes => plainCrypto.sha256Hex bytes
    | .error _ => []
  agentSigHex := js "00"

/-- All of the ceiling but the cart's total is spent. -/
def wideCtx : VerifyCtx where
  now := 0
  credential := some (.ed25519 (js "bb"))
  revoked := false
  spentPaise := some (maxSafe - 391)
  merchantSpentPaise := some 609
  catalogPrices := none
  duplicateCart := false
  clockSkewSec := none

theorem accepted_exact_wide :
    maxSafe - 391 + 391 ≤ wideIntent.ceilingPaise ∧
      CrossesLine wideIntent wideCart.totalPaise (maxSafe - 391) := by
  have haccepted : ∃ hash, verifyChain plainCrypto wideIntent wideCart wideCtx = .ok (.ok true hash) := by
    have hrun : (match verifyChain plainCrypto wideIntent wideCart wideCtx with
        | .ok (.ok true _) => true
        | _ => false) = true := by decide +kernel
    split at hrun
    · rename_i hash h
      exact ⟨hash, h⟩
    · exact nomatch hrun
  obtain ⟨hash, h⟩ := haccepted
  obtain ⟨-, hceiling, -, hline⟩ := accepted_exact plainCrypto wideIntent wideCart wideCtx true hash
    (by decide) (by decide) h
  exact ⟨hceiling, hline.mp rfl⟩

end Hundi
