/-
  packages/facilitator/src/schemas.ts — the schemas of the request bodies.

  A body reaches a route as a value of the types of mandate.ts and signature.ts, so of a schema
  only its checks on strings and numbers are left.  `z.number().int()` takes safe integers.
-/
import Hundi.Core.Verify

namespace Hundi

open Js

/-- `sigEnvelopeSchema`. -/
def sigEnvelopeSchema : SigEnvelope → Bool
  | .ed25519 signatureHex => isNonEmptyString signatureHex
  | .webauthnEs256 clientData authenticatorData signature =>
    isNonEmptyString clientData && isNonEmptyString authenticatorData && isNonEmptyString signature

/-- `credentialSchema`; a JWK is an object. -/
def credentialSchema : Credential → Bool
  | .ed25519 publicKeyHex => isNonEmptyString publicKeyHex
  | .webauthnEs256 (.obj _) => true
  | .webauthnEs256 _ => false

/-- `z.record(z.string().min(1), z.number().int().nonnegative())`. -/
def limitsSchema (limits : Record) : Bool :=
  limits.all fun e => isNonEmptyString e.1 && isSafeInt e.2 && 0 ≤ e.2

/-- `intentMandateSchema`. -/
def intentMandateSchema (intent : IntentMandate) : Bool :=
  isNonEmptyString intent.mandateId && isNonEmptyString intent.goal &&
  (isSafeInt intent.ceilingPaise && 0 < intent.ceilingPaise) &&
  (isSafeInt intent.approvalThresholdPaise && 0 ≤ intent.approvalThresholdPaise) &&
  intent.currency == js "INR" &&
  (!intent.merchants.isEmpty && intent.merchants.all isNonEmptyString) &&
  isSafeInt intent.expiresAt && isNonEmptyString intent.agentPubkeyHex &&
  intent.perMerchantCeilingPaise.all limitsSchema &&
  (intent.cumulativeApprovalThresholdPaise.all fun line => isSafeInt line && 0 ≤ line) &&
  (intent.allowedSkus.all fun skus => !skus.isEmpty && skus.all isNonEmptyString) &&
  sigEnvelopeSchema intent.sig

/-- `cartItemSchema`. -/
def cartItemSchema (item : CartItem) : Bool :=
  isNonEmptyString item.sku && (isSafeInt item.qty && 1 ≤ item.qty) &&
  (isSafeInt item.unitPricePaise && 0 < item.unitPricePaise) &&
  item.variantId.all isNonEmptyString && item.variantLabel.all isNonEmptyString

/-- `cartMandateSchema`. -/
def cartMandateSchema (cart : CartMandate) : Bool :=
  isNonEmptyString cart.cartId && isNonEmptyString cart.merchantId &&
  (!cart.items.isEmpty && cart.items.all cartItemSchema) &&
  (isSafeInt cart.totalPaise && 0 ≤ cart.totalPaise) &&
  isNonEmptyString cart.intentHashHex && isNonEmptyString cart.agentSigHex

/-- The spending limits of an intent the schema accepts. -/
structure AdmittedIntent (intent : IntentMandate) : Prop where
  ceiling : 0 < intent.ceilingPaise
  threshold : 0 ≤ intent.approvalThresholdPaise
  limits : ∀ limits, intent.perMerchantCeilingPaise = some limits →
    ∀ merchantId limit, limits.get? merchantId = some limit → 0 ≤ limit
  line : ∀ line, intent.cumulativeApprovalThresholdPaise = some line → 0 ≤ line

theorem intentMandateSchema_admits {intent : IntentMandate} (h : intentMandateSchema intent = true) :
    AdmittedIntent intent := by
  simp only [intentMandateSchema, Bool.and_eq_true, decide_eq_true_eq] at h
  obtain ⟨⟨⟨⟨⟨⟨⟨⟨⟨⟨-, hceiling⟩, hthreshold⟩, -⟩, -⟩, -⟩, -⟩, hlimits⟩, hline⟩, -⟩, -⟩ := h
  refine ⟨hceiling.2, hthreshold.2, ?_, ?_⟩
  · intro limits hl merchantId limit hget
    obtain ⟨e, he, rfl⟩ := Option.map_eq_some_iff.mp hget
    rw [hl, Option.all_some, limitsSchema, List.all_eq_true] at hlimits
    have hentry := hlimits e (List.mem_of_find?_eq_some he)
    simp only [Bool.and_eq_true, decide_eq_true_eq] at hentry
    exact hentry.2
  · intro line hl
    rw [hl, Option.all_some, Bool.and_eq_true, decide_eq_true_eq] at hline
    exact hline.2

/-! ## Accepted bodies have canonical bytes -/

theorem safe_strings (ss : List JsString) : safe (.arr (ss.map .str)) = true := by
  rw [safe]
  refine safeElems_of_forall fun x hx => ?_
  obtain ⟨s, -, rfl⟩ := List.mem_map.mp hx
  rfl

theorem safe_limits {limits : Record} (h : limitsSchema limits = true) :
    safe (.obj (limits.map fun e => (e.1, .num e.2))) = true := by
  rw [safe]
  refine safeMembers_of_forall fun x hx => ?_
  obtain ⟨e, he, rfl⟩ := List.mem_map.mp hx
  have hentry := List.all_eq_true.mp h e he
  simp only [Bool.and_eq_true] at hentry
  exact hentry.1.2

/-- What an accepted intent signs has no unsafe integer. -/
theorem intentMembers_safe {intent : IntentMandate} (h : intentMandateSchema intent = true) :
    safeMembers (intentMembers intent) = true := by
  simp only [intentMandateSchema, Bool.and_eq_true] at h
  obtain ⟨⟨⟨⟨⟨⟨⟨⟨⟨⟨-, hceiling⟩, hthreshold⟩, -⟩, -⟩, hexpires⟩, -⟩, hlimits⟩, hline⟩, -⟩, -⟩ := h
  rw [intentMembers, intentSigningValue]
  simp only [safeMembers_append, safeMembers, safe, hceiling.1, hthreshold.1, hexpires,
    Bool.and_true, Bool.true_and, Bool.and_eq_true]
  refine ⟨⟨⟨?_, ?_⟩, ?_⟩, ?_⟩
  · have hmerchants := safe_strings intent.merchants
    rwa [safe] at hmerchants
  · cases hl : intent.perMerchantCeilingPaise with
    | none => rfl
    | some limits =>
      rw [hl, Option.all_some] at hlimits
      show (safe _ && true) = true
      rw [safe_limits hlimits]
      rfl
  · cases hl : intent.cumulativeApprovalThresholdPaise with
    | none => rfl
    | some line =>
      rw [hl, Option.all_some, Bool.and_eq_true] at hline
      show (isSafeInt line && true) = true
      rw [hline.1]
      rfl
  · cases hs : intent.allowedSkus with
    | none => rfl
    | some skus =>
      show (safe _ && true) = true
      rw [safe_strings]
      rfl

end Hundi
