/-
  packages/mcp-server/src/tools/get-order.ts — the receipt of a settlement, with its audit view.

  The tool reads the settlement with its newest ledger rows and, by another request, the mandates.  It
  takes either of two ledger events as proof that the gate accepted the cart, and then lists what the
  gate checks, with the limits of the registered intent.

  `formatRupees` formats for a locale; it is an argument, and nothing is assumed of it.
-/
import Hundi.Facilitator.Wallet

namespace Hundi

open Js

/-! ## What the tool reads -/

/-- The body of `GET /settlements/:id`. -/
structure SettlementDetail where
  settlement : SettlementRow
  attempts : List AttemptRow
  approval : Option ApprovalRow
  ledger : List LedgerRow

/-- `GET /settlements/:id`, none for its 404: the attempts by age, and of the ledger rows, which are
    stored by `seq`, the newest fifty. -/
def getSettlementDetail (db : Db) (id : JsString) : Option SettlementDetail :=
  (getSettlement db id).map fun settlement =>
    { settlement := settlement
      attempts := (db.attempts.rows.filter fun row => row.settlementId == id).mergeSort
        fun a b => decide (a.createdAt ≤ b.createdAt)
      approval := db.approvals.rows.find? fun row => row.settlementId == id
      ledger := (db.ledger.filter fun row => row.settlementId == some id).reverse.take 50 }

/-- What `listMandates()` ends in: the rows, or the text of what it threw. -/
abbrev MandatesListed := Except JsString (List MandateListing)

/-- `mandates.find((m) => m.mandateId === settlement.mandateId)`. -/
def MandatesListed.find (listed : MandatesListed) (mandateId : JsString) : Option MandateListing :=
  listed.toOption.bind fun mandates => mandates.find? fun m => m.mandateId == mandateId

/-! ## The view -/

structure TimelineEntry where
  event : LedgerEventType
  actor : JsString
  createdAt : Int

structure AuthorizedBy where
  mandateId : JsString
  goal : JsString
  ceilingPaise : Int
  ceilingDisplay : JsString
  constraints : List JsString

structure OrderPayment where
  razorpayPaymentId : Option JsString
  amountPaise : Int
  amountDisplay : JsString

structure OrderExplanation where
  authorizedBy : Option AuthorizedBy
  explanationNote : Option JsString
  checksPassed : Option (List JsString)
  freshPrice : Option JsString
  payment : OrderPayment
  ledgerTimeline : List TimelineEntry

structure OrderView where
  settlementId : JsString
  state : SettlementState
  merchantId : JsString
  amountPaise : Int
  amountDisplay : JsString
  items : List CartItem
  razorpayPaymentId : Option JsString
  rejectReason : Option JsString
  timeline : List TimelineEntry
  explanation : OrderExplanation

/-- A check that the view can claim; `inheritedCeiling` is a limit that the object of limits does not have
    itself. -/
inductive Check where
  | signatures | chained | lineTotal | livePrices | merchantScope | mandateLive | ceiling
  | merchantCeiling (merchantId : JsString) (limitPaise : Int)
  | inheritedCeiling (merchantId : JsString)
  | notDuplicate
  | allowedSkus (skus : List JsString)

/-- `GATE_PASSED_EVENTS`. -/
def gatePassedEvents : List LedgerEventType := [.verify_passed, .approval_granted]

/-- `gatePassed`. -/
def SettlementDetail.gatePassed (detail : SettlementDetail) : Bool :=
  detail.ledger.any fun entry => gatePassedEvents.contains entry.eventType

/-- The properties that every object has from `Object.prototype`. -/
def objectPrototype : List JsString :=
  [js "constructor", js "hasOwnProperty", js "isPrototypeOf", js "propertyIsEnumerable",
    js "toLocaleString", js "toString", js "valueOf", js "__defineGetter__", js "__defineSetter__",
    js "__lookupGetter__", js "__lookupSetter__", js "__proto__"]

/-- What `limits?.[merchantId]` leads to: an entry, or else what the object inherits under this name, which
    is not `undefined` either. -/
def merchantLimitCheck (merchantId : JsString) (limits : Record) : Option Check :=
  match limits.get? merchantId with
  | some limitPaise => some (.merchantCeiling merchantId limitPaise)
  | none => if objectPrototype.contains merchantId then some (.inheritedCeiling merchantId) else none

/-- The checks of `describeChecksPassed(merchantId, intent)`, in its order. -/
def claimedChecks (merchantId : JsString) (intent : Option IntentMandate) : List Check :=
  let merchantLimit := (intent.bind (·.perMerchantCeilingPaise)).bind (merchantLimitCheck merchantId)
  let allowedSkus := (intent.bind (·.allowedSkus)).filter fun skus => !skus.isEmpty
  [.signatures, .chained, .lineTotal, .livePrices, .merchantScope, .mandateLive, .ceiling] ++
    merchantLimit.toList ++
    [.notDuplicate] ++ (allowedSkus.map Check.allowedSkus).toList

section Program

variable (formatRupees : Int → JsString)

/-- The sentence of a check. -/
def Check.text : Check → JsString
  | .signatures =>
    js "the human's mandate signature and the agent's cart signature both verified"
  | .chained => js "the cart is cryptographically chained to the authorizing mandate by hash"
  | .lineTotal => js "the line-item total matches the sum of quantity × unit price"
  | .livePrices =>
    js "unit prices were re-checked against the merchant's live catalog at settle time"
  | .merchantScope => js "the merchant is within the mandate's authorized scope"
  | .mandateLive => js "the mandate had not expired and was not revoked"
  | .ceiling => js "total spend stayed within the mandate's overall ceiling"
  | .merchantCeiling merchantId limitPaise =>
    js "spend at " ++ merchantId ++ js " stayed within its " ++ formatRupees limitPaise ++
      js " per-merchant ceiling"
  | .inheritedCeiling merchantId =>
    -- `formatRupees` of what is no number
    js "spend at " ++ merchantId ++ js " stayed within its ₹NaN per-merchant ceiling"
  | .notDuplicate => js "the cart was not a duplicate of an already-processed cart"
  | .allowedSkus _ => js "the purchased sku is within the mandate's authorized product set"

/-- `describeChecksPassed(merchantId, intent)`. -/
def describeChecksPassed (merchantId : JsString) (intent : Option IntentMandate) : List JsString :=
  (claimedChecks merchantId intent).map (·.text formatRupees)

/-- `describeConstraints(intent)`. -/
def describeConstraints (intent : IntentMandate) : List JsString :=
  [js "requires human approval for any single cart over " ++
    formatRupees intent.approvalThresholdPaise] ++
  ((intent.perMerchantCeilingPaise.getD []).map fun (merchantId, limitPaise) =>
    js "per-merchant ceiling of " ++ formatRupees limitPaise ++ js " at " ++ merchantId) ++
  (intent.cumulativeApprovalThresholdPaise.map fun line =>
    js "requires human approval once cumulative captured spend crosses " ++
      formatRupees line).toList ++
  ((intent.allowedSkus.filter fun skus => !skus.isEmpty).map fun skus =>
    js "restricted to " ++ decimal skus.length ++ js " specific product" ++
      if skus.length = 1 then [] else js "s").toList

/-- The view of a settlement that was found. -/
def orderView (detail : SettlementDetail) (listed : MandatesListed) : OrderView :=
  let settlement := detail.settlement
  let captured := detail.attempts.find? fun a => a.state == .captured
  let timeline := detail.ledger.map fun entry =>
    (⟨entry.eventType, entry.actor, entry.createdAt⟩ : TimelineEntry)
  let mandateRecord := listed.find settlement.mandateId
  let explanationNote :=
    match listed, mandateRecord with
    | .error text, _ => some (js "Could not look up the authorizing mandate: " ++ text)
    | .ok _, none => some (js "No mandate found with id \"" ++ settlement.mandateId ++
        js "\" — it may have been deleted, " ++
        js "or this settlement predates the current mandate records.")
    | .ok _, some _ => none
  { settlementId := settlement.id
    state := settlement.state
    merchantId := settlement.merchantId
    amountPaise := settlement.amountPaise
    amountDisplay := formatRupees settlement.amountPaise
    items := settlement.cart.items
    razorpayPaymentId := captured.bind (·.providerPaymentId)
    rejectReason := settlement.rejectReason
    timeline := timeline
    explanation :=
      { authorizedBy := mandateRecord.map fun m =>
          { mandateId := m.mandateId
            goal := m.intent.goal
            ceilingPaise := m.intent.ceilingPaise
            ceilingDisplay := formatRupees m.intent.ceilingPaise
            constraints := describeConstraints formatRupees m.intent }
        explanationNote := explanationNote
        checksPassed :=
          if detail.gatePassed then
            some (describeChecksPassed formatRupees settlement.merchantId
              (mandateRecord.map (·.intent)))
          else none
        freshPrice :=
          if detail.gatePassed then
            some (js "Unit prices in this cart were re-verified against " ++
              settlement.merchantId ++ js "'s live catalog at settle time — the " ++
              formatRupees settlement.amountPaise ++ js " charged is the " ++
              js "merchant's catalog price, not merely what the agent asserted.")
          else none
        payment := ⟨captured.bind (·.providerPaymentId), settlement.amountPaise,
          formatRupees settlement.amountPaise⟩
        ledgerTimeline := timeline } }

/-- The handler of `get_order`, on what its two requests were answered with. -/
def getOrder (settlementId : JsString) (found : Option SettlementDetail) (listed : MandatesListed) :
    Except JsString OrderView :=
  match found with
  | none => .error (js "No settlement found with id \"" ++ settlementId ++ js "\".")
  | some detail => .ok (orderView formatRupees detail listed)

theorem orderView_checksPassed (detail : SettlementDetail) (listed : MandatesListed) :
    (orderView formatRupees detail listed).explanation.checksPassed =
      if detail.gatePassed then
        some (describeChecksPassed formatRupees detail.settlement.merchantId
          ((listed.find detail.settlement.mandateId).map (·.intent)))
      else none := rfl

/-- The two claims of a view come together. -/
theorem orderView_freshPrice (detail : SettlementDetail) (listed : MandatesListed) :
    (orderView formatRupees detail listed).explanation.freshPrice.isSome = detail.gatePassed := by
  show (ite _ _ _ : Option JsString).isSome = _
  split
  · rename_i h
    exact h.symm
  · rename_i h
    exact (Bool.not_eq_true _ ▸ h : detail.gatePassed = false).symm

end Program

end Hundi
