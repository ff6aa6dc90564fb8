/-
  packages/facilitator/src/db/schema.sql — the facilitator's database.

  One structure a table, with the columns the code reads or writes, and one `clash` relation a
  table for its unique indexes, the partial ones included: `one_live_settlement_per_mandate`,
  `one_settlement_per_cart`, `one_active_attempt`, `one_captured_attempt`.  A `Db` therefore cannot
  hold two live settlements of one mandate or two captured attempts of one settlement.

  The JSON columns hold values of the types they were written from; an id is a `JsString`, a Unix
  time an `Int`.
-/
import Hundi.Lib.Table
import Hundi.Core.Verify

namespace Hundi

open Js

/-! ## State names -/

inductive SettlementState where
  | created | verifying | verified | pending_approval | approved
  | settling | captured | failed | rejected | abandoned
  deriving DecidableEq, Repr

def SettlementState.text : SettlementState → JsString
  | .created => js "created"
  | .verifying => js "verifying"
  | .verified => js "verified"
  | .pending_approval => js "pending_approval"
  | .approved => js "approved"
  | .settling => js "settling"
  | .captured => js "captured"
  | .failed => js "failed"
  | .rejected => js "rejected"
  | .abandoned => js "abandoned"

/-- `state NOT IN ('captured','failed','rejected','abandoned')`. -/
def SettlementState.live : SettlementState → Bool
  | .captured | .failed | .rejected | .abandoned => false
  | _ => true

/-- `state NOT IN ('failed','rejected','abandoned')`. -/
def SettlementState.holdsCart : SettlementState → Bool
  | .failed | .rejected | .abandoned => false
  | _ => true

inductive AttemptState where
  | initiated | awaiting_confirmation | captured | failed | superseded
  deriving DecidableEq, Repr

def AttemptState.text : AttemptState → JsString
  | .initiated => js "initiated"
  | .awaiting_confirmation => js "awaiting_confirmation"
  | .captured => js "captured"
  | .failed => js "failed"
  | .superseded => js "superseded"

/-- `state IN ('initiated','awaiting_confirmation')`. -/
def AttemptState.active : AttemptState → Bool
  | .initiated | .awaiting_confirmation => true
  | _ => false

inductive AttemptMethod where
  | s2s_api | checkout_driver | payment_link
  deriving DecidableEq, Repr

inductive Decision where
  | approved | rejected
  deriving DecidableEq, Repr

def Decision.text : Decision → JsString
  | .approved => js "approved"
  | .rejected => js "rejected"

inductive LedgerEventType where
  | mandate_registered | mandate_revoked | verify_passed | verify_rejected
  | approval_requested | approval_granted | approval_rejected | approval_expired
  | settlement_created | attempt_initiated | attempt_superseded
  | payment_captured | payment_failed | payment_link_issued
  | anomaly_refund_issued | refund_issued | webhook_received | webhook_rejected
  | reconciliation_flagged | agent_decision | settlement_abandoned
  deriving DecidableEq, Repr

def LedgerEventType.text : LedgerEventType → JsString
  | .mandate_registered => js "mandate_registered"
  | .mandate_revoked => js "mandate_revoked"
  | .verify_passed => js "verify_passed"
  | .verify_rejected => js "verify_rejected"
  | .approval_requested => js "approval_requested"
  | .approval_granted => js "approval_granted"
  | .approval_rejected => js "approval_rejected"
  | .approval_expired => js "approval_expired"
  | .settlement_created => js "settlement_created"
  | .attempt_initiated => js "attempt_initiated"
  | .attempt_superseded => js "attempt_superseded"
  | .payment_captured => js "payment_captured"
  | .payment_failed => js "payment_failed"
  | .payment_link_issued => js "payment_link_issued"
  | .anomaly_refund_issued => js "anomaly_refund_issued"
  | .refund_issued => js "refund_issued"
  | .webhook_received => js "webhook_received"
  | .webhook_rejected => js "webhook_rejected"
  | .reconciliation_flagged => js "reconciliation_flagged"
  | .agent_decision => js "agent_decision"
  | .settlement_abandoned => js "settlement_abandoned"

/-! ## Rows -/

/-- The bodies POST /settlements answers with: those of `createSettlement`, stored for replay under
    the idempotency key, and `errorBody(code)`. -/
inductive CreateSettlementBody where
  | ok (settlementId : JsString) (state : SettlementState) (reason : Option RejectionCode)
  | error (code : JsString)
  deriving DecidableEq

structure MandateRow where
  mandateId : JsString
  intent : IntentMandate
  intentHashHex : JsString
  credential : Credential
  revokedAt : Option Int
  createdAt : Int

structure SettlementRow where
  id : JsString
  mandateId : JsString
  cart : CartMandate
  mandateCartHashHex : JsString
  amountPaise : Int
  merchantId : JsString
  state : SettlementState
  rejectReason : Option JsString
  createdAt : Int
  verifyingAt : Option Int
  verifiedAt : Option Int
  pendingApprovalAt : Option Int
  approvedAt : Option Int
  settlingAt : Option Int
  capturedAt : Option Int
  failedAt : Option Int
  rejectedAt : Option Int
  abandonedAt : Option Int
  kickCount : Nat
  deriving DecidableEq

structure AttemptRow where
  id : JsString
  settlementId : JsString
  method : AttemptMethod
  state : AttemptState
  receipt : JsString
  providerOrderId : Option JsString
  providerPaymentId : Option JsString
  providerLinkId : Option JsString
  createdAt : Int
  updatedAt : Int
  deriving DecidableEq

structure ApprovalRow where
  settlementId : JsString
  decision : Decision
  mandateCartHashHex : JsString
  sig : SigEnvelope
  decidedAt : Int
  expiresAt : Int
  deriving DecidableEq

structure IdempotencyKeyRow where
  key : JsString
  requestHashHex : JsString
  settlementId : Option JsString
  lockedAt : Option Int
  responseStatus : Option Nat
  responseBody : Option CreateSettlementBody
  createdAt : Int

structure WebhookEventRow where
  eventId : JsString
  eventType : JsonValue
  raw : JsString
  receivedAt : Int

structure MerchantRow where
  merchantId : JsString
  name : JsString
  catalogUrl : Option JsString
  catalogPrices : Option Record
  createdAt : Int

structure CeremonyTokenRow where
  token : JsString
  createdAt : Int
  usedAt : Option Int

structure LedgerRow where
  seq : Nat
  eventType : LedgerEventType
  settlementId : Option JsString
  actor : JsString
  payload : JsonValue
  prevHash : JsString
  rowHash : JsString
  createdAt : Int

/-! ## Unique indexes -/

/-- `mandate_id` is the primary key, `intent_hash_hex` is unique. -/
def MandateRow.clash (a b : MandateRow) : Bool :=
  a.mandateId == b.mandateId || a.intentHashHex == b.intentHashHex

/-- `one_live_settlement_per_mandate`. -/
def SettlementRow.clashLive (a b : SettlementRow) : Bool :=
  a.state.live && b.state.live && a.mandateId == b.mandateId

/-- `one_settlement_per_cart`. -/
def SettlementRow.clashCart (a b : SettlementRow) : Bool :=
  a.state.holdsCart && b.state.holdsCart && a.mandateCartHashHex == b.mandateCartHashHex

def SettlementRow.clash (a b : SettlementRow) : Bool :=
  a.id == b.id || a.clashLive b || a.clashCart b

/-- `one_active_attempt`. -/
def AttemptRow.clashActive (a b : AttemptRow) : Bool :=
  a.state.active && b.state.active && a.settlementId == b.settlementId

/-- `one_captured_attempt`. -/
def AttemptRow.clashCaptured (a b : AttemptRow) : Bool :=
  a.state == .captured && b.state == .captured && a.settlementId == b.settlementId

def AttemptRow.clash (a b : AttemptRow) : Bool :=
  a.id == b.id || a.receipt == b.receipt || a.clashActive b || a.clashCaptured b

def ApprovalRow.clash (a b : ApprovalRow) : Bool := a.settlementId == b.settlementId

def IdempotencyKeyRow.clash (a b : IdempotencyKeyRow) : Bool := a.key == b.key

def WebhookEventRow.clash (a b : WebhookEventRow) : Bool := a.eventId == b.eventId

def MerchantRow.clash (a b : MerchantRow) : Bool := a.merchantId == b.merchantId

def CeremonyTokenRow.clash (a b : CeremonyTokenRow) : Bool := a.token == b.token

abbrev Mandates := Table MandateRow MandateRow.clash
abbrev Settlements := Table SettlementRow SettlementRow.clash
abbrev Attempts := Table AttemptRow AttemptRow.clash
abbrev Approvals := Table ApprovalRow ApprovalRow.clash

structure Db where
  mandates : Mandates
  settlements : Settlements
  attempts : Attempts
  approvals : Approvals
  idempotencyKeys : Table IdempotencyKeyRow IdempotencyKeyRow.clash
  webhookEvents : Table WebhookEventRow WebhookEventRow.clash
  merchants : Table MerchantRow MerchantRow.clash
  ceremonyTokens : Table CeremonyTokenRow CeremonyTokenRow.clash
  /-- `ledger_events`, oldest first; its triggers refuse UPDATE and DELETE. -/
  ledger : List LedgerRow

/-- The database `openDb` creates. -/
def Db.empty : Db :=
  ⟨.empty, .empty, .empty, .empty, .empty, .empty, .empty, .empty, []⟩

/-! ## Keys -/

theorem MandateRow.clash_comm (a b : MandateRow) : a.clash b = b.clash a := by
  simp only [MandateRow.clash, Bool.beq_comm]

theorem SettlementRow.clash_comm (a b : SettlementRow) : a.clash b = b.clash a := by
  simp only [SettlementRow.clash, SettlementRow.clashLive, SettlementRow.clashCart]
  rw [Bool.beq_comm (a := a.id), Bool.beq_comm (a := a.mandateId),
    Bool.beq_comm (a := a.mandateCartHashHex), Bool.and_comm a.state.live,
    Bool.and_comm a.state.holdsCart]

theorem AttemptRow.clash_comm (a b : AttemptRow) : a.clash b = b.clash a := by
  simp only [AttemptRow.clash, AttemptRow.clashActive, AttemptRow.clashCaptured]
  rw [Bool.beq_comm (a := a.id), Bool.beq_comm (a := a.receipt),
    Bool.beq_comm (a := a.settlementId), Bool.and_comm a.state.active,
    Bool.and_comm (a.state == .captured)]

theorem ApprovalRow.clash_comm (a b : ApprovalRow) : a.clash b = b.clash a := by
  simp only [ApprovalRow.clash, Bool.beq_comm]

/-- A mandate id names one row. -/
theorem mandate_eq {t : Mandates} {a b : MandateRow} (ha : a ∈ t.rows) (hb : b ∈ t.rows)
    (h : a.mandateId = b.mandateId) : a = b :=
  t.eq_of_clash MandateRow.clash_comm ha hb (by simp [MandateRow.clash, h])

/-- A settlement id names one row. -/
theorem settlement_eq {t : Settlements} {a b : SettlementRow} (ha : a ∈ t.rows) (hb : b ∈ t.rows)
    (h : a.id = b.id) : a = b :=
  t.eq_of_clash SettlementRow.clash_comm ha hb (by simp [SettlementRow.clash, h])

/-- **One live settlement a mandate.** -/
theorem live_settlement_eq {t : Settlements} {a b : SettlementRow} (ha : a ∈ t.rows)
    (hb : b ∈ t.rows) (hla : a.state.live = true) (hlb : b.state.live = true)
    (h : a.mandateId = b.mandateId) : a = b :=
  t.eq_of_clash SettlementRow.clash_comm ha hb
    (by simp [SettlementRow.clash, SettlementRow.clashLive, hla, hlb, h])

/-- An attempt id names one row. -/
theorem attempt_eq {t : Attempts} {a b : AttemptRow} (ha : a ∈ t.rows) (hb : b ∈ t.rows)
    (h : a.id = b.id) : a = b :=
  t.eq_of_clash AttemptRow.clash_comm ha hb (by simp [AttemptRow.clash, h])

/-- **One active attempt a settlement.** -/
theorem active_attempt_eq {t : Attempts} {a b : AttemptRow} (ha : a ∈ t.rows) (hb : b ∈ t.rows)
    (hla : a.state.active = true) (hlb : b.state.active = true)
    (h : a.settlementId = b.settlementId) : a = b :=
  t.eq_of_clash AttemptRow.clash_comm ha hb
    (by simp [AttemptRow.clash, AttemptRow.clashActive, hla, hlb, h])

/-- **One captured attempt a settlement.** -/
theorem captured_attempt_eq {t : Attempts} {a b : AttemptRow} (ha : a ∈ t.rows) (hb : b ∈ t.rows)
    (hca : a.state = .captured) (hcb : b.state = .captured)
    (h : a.settlementId = b.settlementId) : a = b :=
  t.eq_of_clash AttemptRow.clash_comm ha hb
    (by simp [AttemptRow.clash, AttemptRow.clashCaptured, hca, hcb, h])

theorem settlements_nodup (t : Settlements) : t.rows.Nodup :=
  t.nodup fun a => by simp [SettlementRow.clash]

theorem attempts_nodup (t : Attempts) : t.rows.Nodup :=
  t.nodup fun a => by simp [AttemptRow.clash]

end Hundi
