/-
  packages/facilitator/src/reconcile.ts — applying the provider's truth to an attempt.

  `reconcileByOrder` reads the attempt row, awaits the order's payments and then acts on the copy
  of the row it read before; the copy is part of the control point (`ReconcilePoint`).  Every
  function here is one synchronous stretch between two awaits or two commits, and answers with
  where the call goes on (`ReconcileNext`).
-/
import Hundi.Facilitator.Settlement

namespace Hundi

open Js

/-- `RazorpayPayment`: the fields the code reads. -/
structure RazorpayPayment where
  id : JsString
  status : JsString
  deriving DecidableEq

/-- Where a call of `reconcileByOrder` stands. -/
inductive ReconcilePoint where
  /-- Awaiting `fetchOrderPayments`, with the attempt row as it was read before. -/
  | fetchOrderPayments (attempt : AttemptRow) (providerOrderId : JsString)
  /-- `applyCapture` lost its race; about to enter the compensator. -/
  | lostRace (attempt : AttemptRow) (paymentId : JsString)
  /-- Awaiting `refundPayment`. -/
  | refundPayment (settlementId attemptId paymentId : JsString)

/-- How a stretch of a reconcile call ends. -/
inductive ReconcileNext where
  | returned
  | threw (e : Exn)
  | awaiting (p : ReconcilePoint)
  | running (p : ReconcilePoint)

/-! ## Capture -/

/-- The ledger payload of a capture; an empty order id is falsy. -/
def capturePayload (attemptId paymentId : JsString) (providerOrderId : Option JsString) :
    List (JsString × JsonValue) :=
  (js "attempt_id", .str attemptId) ::
    (match providerOrderId with
      | some (c :: o) => [(js "provider_order_id", .str (c :: o))]
      | _ => []) ++
    [(js "provider_payment_id", .str paymentId)]

/-- `UPDATE settlement_attempts SET provider_payment_id = ? … WHERE id = ?`. -/
def setPaymentId (now : Int) (db : Db) (attemptId paymentId : JsString) : Except Exn Db :=
  match db.attempts.update? (fun row => row.id == attemptId)
      fun row => { row with providerPaymentId := some paymentId, updatedAt := now } with
  | some attempts => .ok { db with attempts := attempts }
  | none => .error (.sqliteConstraint (js "UNIQUE constraint failed: settlement_attempts"))

/-- `applyCapture(db, target, paymentId)`: a stale settlement returns false and still commits what
    was written before it. -/
def applyCapture (crypto : Crypto) (now : Int) (db : Db) (attemptId : JsString)
    (attemptState : AttemptState) (settlementId : JsString) (providerOrderId : Option JsString)
    (paymentId : JsString) : Except Exn (Db × Bool) := do
  match ← catchStale (transitionAttempt now db attemptId attemptState .captured) with
  | none => return (db, false)
  | some db =>
    let db ← setPaymentId now db attemptId paymentId
    match ← catchStale (transitionSettlement now db settlementId .settling .captured none) with
    | none => return (db, false)
    | some db =>
      let db ← appendLedger crypto now db ⟨.payment_captured, some settlementId, js "facilitator",
        capturePayload attemptId paymentId providerOrderId⟩
      return (db, true)

/-! ## The anomaly compensator -/

/-- A ledger row that records the anomaly refund of one payment of one settlement. -/
def LedgerRow.refunds (settlementId paymentId : JsString) (row : LedgerRow) : Bool :=
  row.eventType == .anomaly_refund_issued && row.settlementId == some settlementId &&
    (row.payload.get? (js "payment_id")).bind JsonValue.str? == some paymentId

/-- `alreadyRefunded(db, settlementId, paymentId)`. -/
def alreadyRefunded (db : Db) (settlementId paymentId : JsString) : Bool :=
  db.ledger.any (·.refunds settlementId paymentId)

/-- `refundAnomalyCapture` up to the await of `refundPayment`. -/
def refundAnomalyCapture (w : World) (settlementId attemptId paymentId : JsString) :
    World × ReconcileNext :=
  if alreadyRefunded w.db settlementId paymentId then (w, .returned)
  else (w.emit (.refundPayment .anomaly settlementId paymentId),
    .awaiting (.refundPayment settlementId attemptId paymentId))

/-- The catch block of `refundAnomalyCapture`. -/
def flagRefundError (crypto : Crypto) (now : Int) (w : World)
    (settlementId attemptId paymentId : JsString) (err : Exn) : World × ReconcileNext :=
  match appendLedger crypto now w.db ⟨.reconciliation_flagged, some settlementId, js "facilitator",
      [(js "reason", .str (js "refund_api_error")), (js "attempt_id", .str attemptId),
        (js "payment_id", .str paymentId), (js "detail", .str (errMessage err))]⟩ with
  | .ok db => (w.commit db, .returned)
  | .error e => (w, .threw e)

/-- `refundAnomalyCapture` from the answer of `refundPayment` on. -/
def refundAnomalyAnswered (crypto : Crypto) (now : Int) (w : World)
    (settlementId attemptId paymentId : JsString) (refund : Except Exn JsString) :
    World × ReconcileNext :=
  match refund with
  | .error err => flagRefundError crypto now w settlementId attemptId paymentId err
  | .ok refundId =>
    let w := w.emit (.refundSucceeded .anomaly settlementId paymentId refundId)
    match appendLedger crypto now w.db ⟨.anomaly_refund_issued, some settlementId,
        js "facilitator", [(js "attempt_id", .str attemptId), (js "payment_id", .str paymentId),
          (js "refund_id", .str refundId)]⟩ with
    | .ok db => (w.commit db, .returned)
    | .error err => flagRefundError crypto now w settlementId attemptId paymentId err

/-! ## reconcileByOrder -/

/-- `reconcileCapturedPayment(deps, attempt, paymentId, providerOrderId)`. -/
def reconcileCapturedPayment (crypto : Crypto) (now : Int) (w : World) (attempt : AttemptRow)
    (paymentId providerOrderId : JsString) : World × ReconcileNext :=
  if attempt.state = .captured then (w, .returned)
  else
    let settlement := w.db.settlements.find? fun row => row.id == attempt.settlementId
    let existingCaptured := w.db.attempts.find? fun row =>
      row.settlementId == attempt.settlementId && row.state == .captured
    let isAnomaly := !attempt.state.active || settlement.map (·.state) != some .settling ||
      existingCaptured.isSome
    if isAnomaly then refundAnomalyCapture w attempt.settlementId attempt.id paymentId
    else
      match applyCapture crypto now w.db attempt.id attempt.state attempt.settlementId
          (some providerOrderId) paymentId with
      | .error e => (w, .threw e)
      | .ok (db, true) => (w.commit db, .returned)
      | .ok (db, false) => (w.commit db, .running (.lostRace attempt paymentId))

/-- The transaction that fails an attempt: a stale attempt writes nothing. -/
def failAttempt (crypto : Crypto) (now : Int) (db : Db) (attemptId settlementId : JsString)
    (src : AttemptState) (reason : JsString) : Except Exn Db := do
  match ← catchStale (transitionAttempt now db attemptId src .failed) with
  | none => return db
  | some db => appendLedger crypto now db ⟨.payment_failed, some settlementId, js "facilitator",
      [(js "attempt_id", .str attemptId), (js "reason", .str reason)]⟩

/-- `failAttemptIfLive(db, attempt)`. -/
def failAttemptIfLive (crypto : Crypto) (now : Int) (w : World) (attempt : AttemptRow) :
    World × ReconcileNext :=
  if !attempt.state.active then (w, .returned)
  else
    match failAttempt crypto now w.db attempt.id attempt.settlementId attempt.state
        (js "reconcile_authoritative_failed") with
    | .ok db => (w.commit db, .returned)
    | .error e => (w, .threw e)

/-- `SELECT * FROM settlement_attempts WHERE provider_order_id = ?`. -/
def attemptByOrder (db : Db) (providerOrderId : JsString) : Option AttemptRow :=
  db.attempts.find? fun row => row.providerOrderId == some providerOrderId

/-- `reconcileByOrder(deps, providerOrderId)` up to its await. -/
def reconcileByOrder (db : Db) (providerOrderId : JsString) : ReconcileNext :=
  match attemptByOrder db providerOrderId with
  | none => .returned
  | some attempt => .awaiting (.fetchOrderPayments attempt providerOrderId)

/-- `reconcileByOrder` from the answer of `fetchOrderPayments` on. -/
def reconcileFetched (crypto : Crypto) (now : Int) (w : World) (attempt : AttemptRow)
    (providerOrderId : JsString) (answer : Except Exn (List RazorpayPayment)) :
    World × ReconcileNext :=
  match answer with
  | .error err =>
    match appendLedger crypto now w.db ⟨.reconciliation_flagged, some attempt.settlementId,
        js "facilitator", [(js "reason", .str (js "fetch_order_payments_failed")),
          (js "provider_order_id", .str providerOrderId),
          (js "detail", .str (errMessage err))]⟩ with
    | .ok db => (w.commit db, .returned)
    | .error e => (w, .threw e)
  | .ok payments =>
    match payments.getLast? with
    | none => (w, .returned)
    | some latest =>
      if latest.status = js "captured" then
        reconcileCapturedPayment crypto now w attempt latest.id providerOrderId
      else if latest.status = js "failed" then failAttemptIfLive crypto now w attempt
      else (w, .returned)

/-- `reconcileByAttempt(deps, attemptId)` up to its await; an empty order id is falsy. -/
def reconcileByAttempt (db : Db) (attemptId : JsString) : ReconcileNext :=
  match db.attempts.find? fun row => row.id == attemptId with
  | none => .returned
  | some attempt =>
    match attempt.providerOrderId with
    | some (c :: order) => reconcileByOrder db (c :: order)
    | _ => .returned

end Hundi
