/-
  apps/dashboard/src/lib/api.ts and intent.ts — a proposal becomes a signed intent.

  The console reads a proposal, turns it into the input of the ceremony form and signs what that gives.
  Every field is handed on under another name, an optional one only if it is there; `SignsProposed`
  says that the intent has the terms of the body that was posted, and `proposal_signed_as_proposed`
  that it has them at the end of the whole way.
-/
import Hundi.Facilitator.Proposals

namespace Hundi

open Js

structure CeremonyInput where
  goal : JsString
  ceilingPaise : Int
  approvalThresholdPaise : Int
  merchants : List JsString
  expiresAt : Int
  agentPubkeyHex : JsString
  perMerchantCeilingPaise : Option Record
  cumulativeApprovalThresholdPaise : Option Int
  allowedSkus : Option (List JsString)

/-- `ceremonyInputFromProposal(proposal)`. -/
def ceremonyInputFromProposal (proposal : MandateProposal) : CeremonyInput where
  goal := proposal.goal
  ceilingPaise := proposal.ceilingPaise
  approvalThresholdPaise := proposal.approvalThresholdPaise
  merchants := [proposal.merchantId]
  expiresAt := proposal.expiresAt
  agentPubkeyHex := proposal.agentPubkeyHex
  perMerchantCeilingPaise := ifTruthy recordValue proposal.perMerchantCeilingPaise
  cumulativeApprovalThresholdPaise := proposal.cumulativeApprovalThresholdPaise
  allowedSkus := ifTruthy stringsValue proposal.allowedSkus

/-- `{ ...unsigned, sig }`; `mandateId` is the fresh `crypto.randomUUID()`. -/
def ceremonyIntent (mandateId : JsString) (input : CeremonyInput) (sig : SigEnvelope) :
    IntentMandate where
  mandateId := mandateId
  goal := input.goal
  ceilingPaise := input.ceilingPaise
  approvalThresholdPaise := input.approvalThresholdPaise
  currency := js "INR"
  merchants := input.merchants
  expiresAt := input.expiresAt
  agentPubkeyHex := input.agentPubkeyHex
  perMerchantCeilingPaise := ifTruthy recordValue input.perMerchantCeilingPaise
  cumulativeApprovalThresholdPaise := input.cumulativeApprovalThresholdPaise
  allowedSkus := ifTruthy stringsValue input.allowedSkus
  sig := sig

/-- The intent has the terms of the body posted at `proposedAt`: each optional one is there exactly if
    the body has it, and is the body's. -/
structure SignsProposed (intent : IntentMandate) (body : ProposeBody) (proposedAt : Instant) : Prop where
  goal : intent.goal = body.goal
  ceilingPaise : intent.ceilingPaise = body.ceilingPaise
  approvalThresholdPaise : intent.approvalThresholdPaise = body.approvalThresholdPaise
  currency : intent.currency = js "INR"
  merchants : intent.merchants = [body.merchantId]
  expiresAt : intent.expiresAt = body.expiresAt.getD (proposedAt.seconds + defaultProposalTtlSeconds)
  agentPubkeyHex : intent.agentPubkeyHex = body.agentPubkeyHex
  perMerchantCeiling : intent.perMerchantCeilingPaise = body.perMerchantCeilingPaise
  cumulative : intent.cumulativeApprovalThresholdPaise = body.cumulativeApprovalThresholdPaise
  allowedSkus : intent.allowedSkus = body.allowedSkus

theorem Answers.signsProposed {p : MandateProposal} {body : ProposeBody} {proposedAt : Instant}
    (h : Answers p body proposedAt) (mandateId : JsString) (sig : SigEnvelope) :
    SignsProposed (ceremonyIntent mandateId (ceremonyInputFromProposal p) sig) body proposedAt where
  goal := h.goal
  ceilingPaise := h.ceilingPaise
  approvalThresholdPaise := h.approvalThresholdPaise
  currency := rfl
  merchants := congrArg (fun merchantId => [merchantId]) h.merchantId
  expiresAt := h.expiresAt
  agentPubkeyHex := h.agentPubkeyHex
  perMerchantCeiling := by
    simp only [ceremonyIntent, ceremonyInputFromProposal, ifTruthy_record]
    exact h.perMerchantCeiling
  cumulative := h.cumulative
  allowedSkus := by
    simp only [ceremonyIntent, ceremonyInputFromProposal, ifTruthy_strings]
    exact h.allowedSkus

/-- **A signed proposal can be registered**: the schema of POST /mandates accepts the intent. -/
theorem SignsProposed.admitted {intent : IntentMandate} {proposal : AcceptedProposal}
    {proposedAt : Instant} (h : SignsProposed intent proposal.body proposedAt)
    (hid : isNonEmptyString intent.mandateId = true) (hsig : sigEnvelopeSchema intent.sig = true) :
    intentMandateSchema intent = true := by
  have hexpires : isSafeInt intent.expiresAt = true := by
    rw [h.expiresAt]
    exact (mandateProposeBodySchema_admits proposal.schema).expiry proposedAt
  have hschema := proposal.schema
  simp only [mandateProposeBodySchema, Bool.and_eq_true] at hschema
  obtain ⟨⟨⟨⟨⟨⟨⟨⟨hmerchant, hgoal⟩, hceiling⟩, hthreshold⟩, hagent⟩, -⟩, hlimits⟩, hline⟩, hskus⟩ := hschema
  simp only [intentMandateSchema, Bool.and_eq_true, h.goal, h.ceilingPaise, h.approvalThresholdPaise,
    h.currency, h.merchants, h.agentPubkeyHex, h.perMerchantCeiling, h.cumulative, h.allowedSkus]
  exact ⟨⟨⟨⟨⟨⟨⟨⟨⟨⟨⟨hid, hgoal⟩, hceiling⟩, hthreshold⟩, beq_self_eq_true _⟩, rfl,
    by rw [List.all_cons, hmerchant]; rfl⟩, hexpires⟩, hagent⟩, hlimits⟩, hline⟩, hskus⟩, hsig⟩

/-- Neither the id nor the signature decides whether an intent has canonical bytes. -/
theorem safe_intentSigningValue (intent : IntentMandate) (mandateId : JsString) (sig : SigEnvelope) :
    safe (intentSigningValue { intent with mandateId := mandateId, sig := sig })
      = safe (intentSigningValue intent) := by
  rw [intentSigningValue, intentSigningValue, safe, safe]
  simp only [safeMembers_append, safeMembers, safe]

/-- What the ceremony signs has canonical bytes. -/
theorem Answers.bytes {p : MandateProposal} {proposal : AcceptedProposal} {proposedAt : Instant}
    (h : Answers p proposal.body proposedAt) (mandateId : JsString) (sig : SigEnvelope) :
    ∃ bytes, intentSigningBytes (ceremonyIntent mandateId (ceremonyInputFromProposal p) sig)
      = .ok bytes := by
  have hadmitted := (h.signsProposed (js "id") (.ed25519 (js "00"))).admitted rfl rfl
  have hsafe := intentMembers_safe hadmitted
  refine ⟨_, canonicalJson_safe ?_⟩
  rw [← safe_intentSigningValue _ (js "id") (.ed25519 (js "00"))]
  exact hsafe

end Hundi
