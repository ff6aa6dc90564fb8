/-
  packages/facilitator/src/executor.ts — the only code that moves money.

  A run of the executor is a job of the event loop: re-verify and enter `settling`, up to three
  checkout attempts, then a payment link.  `RunPoint` names where a run stands between two effects;
  the settlement row is the copy read when the run started.
-/
import Hundi.Facilitator.Reconcile
import Hundi.Lib.EventLoop

namespace Hundi

open Js EventLoop

/-- `MAX_ATTEMPTS`. -/
def maxAttempts : Nat := 3

/-- `SettleViaCheckoutResult`: the fields the executor reads. -/
structure SettleViaCheckoutResult where
  ok : Bool
  paymentId : Option JsString
  status : Option JsString
  error : Option JsString
  deriving DecidableEq

inductive KickKind where
  | execute
  | resumeSettling
  deriving DecidableEq

/-- A kick queued on the executor's chain. -/
structure Kick where
  settlementId : JsString
  kind : KickKind
  deriving DecidableEq

/-- Where a run stands. -/
inductive RunPoint where
  /-- The head of the `for` loop, or past it. -/
  | attemptLoop (settlement : SettlementRow) (attemptNum : Nat) (lastAttemptId : JsString)
  /-- The attempt row is written; about to call `createOrder`. -/
  | createOrder (settlement : SettlementRow) (attemptNum : Nat) (attemptId receipt : JsString)
  /-- Awaiting `createOrder`. -/
  | orderPending (settlement : SettlementRow) (attemptNum : Nat) (attemptId receipt : JsString)
  /-- The order id is written; about to call `settleViaCheckout`. -/
  | settleViaCheckout (settlement : SettlementRow) (attemptNum : Nat)
      (attemptId providerOrderId : JsString)
  /-- Awaiting `settleViaCheckout`. -/
  | checkoutPending (settlement : SettlementRow) (attemptNum : Nat)
      (attemptId providerOrderId : JsString)
  /-- `applyCapture` returned false; about to fail the attempt. -/
  | captureLost (settlement : SettlementRow) (attemptNum : Nat)
      (attemptId providerOrderId : JsString) (result : SettleViaCheckoutResult)
  /-- Awaiting `createPaymentLink`. -/
  | linkPending (settlement : SettlementRow) (lastAttemptId linkAttemptId receipt : JsString)

/-! ## Re-verification -/

/-- What `reverifyAndEnterSettling` answers. -/
inductive ReverifyOutcome where
  | ok (settlement : SettlementRow)
  | stale
  | rejected (reason : RejectionCode)

/-- `SELECT … FROM settlements WHERE id = ?`. -/
def getSettlement (db : Db) (id : JsString) : Option SettlementRow :=
  db.settlements.find? fun row => row.id == id

/-- The rejecting branch of `reverifyAndEnterSettling`. -/
def rejectApproved (crypto : Crypto) (now : Int) (db : Db) (settlementId : JsString)
    (reason : RejectionCode) (detail : Option JsString) : Except Exn (Db × ReverifyOutcome) := do
  match ← catchStale (transitionSettlement now db settlementId .approved .rejected
      (some reason.text)) with
  | none => return (db, .stale)
  | some db =>
    let db ← appendLedger crypto now db ⟨.verify_rejected, some settlementId, js "facilitator",
      rejectionPayload reason detail⟩
    return (db, .rejected reason)

/-- `reverifyAndEnterSettling(db, settlementId, now)`. -/
def reverifyAndEnterSettling (crypto : Crypto) (db : Db) (settlementId : JsString) (now : Int) :
    Except Exn (Db × ReverifyOutcome) :=
  match getSettlement db settlementId with
  | none => .ok (db, .stale)
  | some settlement =>
    if settlement.state ≠ .approved then .ok (db, .stale)
    else
      match getMandateRow db settlement.mandateId with
      | none => .ok (db, .stale)
      | some mandateRow => do
        let intent := mandateRow.intent
        let cart := settlement.cart
        let (ctx, mandateCartHashHex) ← buildVerifyCtx crypto db intent cart now (some settlementId)
        if mandateCartHashHex ≠ settlement.mandateCartHashHex then
          rejectApproved crypto now db settlementId .HASH_LINK_MISMATCH none
        else
          match ← verifyChain crypto intent cart ctx with
          | .fail reason detail => rejectApproved crypto now db settlementId reason detail
          | .ok _ _ =>
            match ← catchStale (transitionSettlement now db settlementId .approved .settling none) with
            | none => return (db, .stale)
            | some db => return (db, .ok settlement)

/-! ## The attempt loop -/

/-- `INSERT INTO settlement_attempts`; rows are never deleted, so the foreign key holds. -/
def insertAttempt (db : Db) (row : AttemptRow) : Except Exn Db :=
  match db.attempts.insert? row with
  | some attempts => .ok { db with attempts := attempts }
  | none => .error (.sqliteConstraint (js "UNIQUE constraint failed: settlement_attempts"))

/-- The row of a new attempt: the columns not given take their defaults. -/
def newAttempt (now : Int) (id settlementId : JsString) (method : AttemptMethod)
    (state : AttemptState) (receipt : JsString) (providerLinkId : Option JsString) : AttemptRow where
  id := id
  settlementId := settlementId
  method := method
  state := state
  receipt := receipt
  providerOrderId := none
  providerPaymentId := none
  providerLinkId := providerLinkId
  createdAt := now
  updatedAt := now

/-- `settle-${settlementId}-${attemptNum}-${attemptId.slice(0, 8)}`. -/
def attemptReceipt (settlementId : JsString) (attemptNum : Nat) (attemptId : JsString) : JsString :=
  js "settle-" ++ settlementId ++ js "-" ++ decimal attemptNum ++ js "-" ++ attemptId.take 8

/-- `settle-${settlementId}-link-${linkAttemptId.slice(0, 8)}`. -/
def linkReceipt (settlementId linkAttemptId : JsString) : JsString :=
  js "settle-" ++ settlementId ++ js "-link-" ++ linkAttemptId.take 8

/-- The write-ahead transaction of one attempt. -/
def initiateAttempt (crypto : Crypto) (now : Int) (db : Db) (settlementId : JsString)
    (attemptNum : Nat) (attemptId receipt : JsString) : Except Exn Db := do
  let db ← insertAttempt db
    (newAttempt now attemptId settlementId .checkout_driver .initiated receipt none)
  appendLedger crypto now db ⟨.attempt_initiated, some settlementId, js "facilitator",
    [(js "attempt_id", .str attemptId), (js "method", .str (js "checkout_driver")),
      (js "attempt_num", .num attemptNum)]⟩

/-- The transaction after a failed `createOrder`; here a stale attempt throws. -/
def orderCreateFailed (crypto : Crypto) (now : Int) (db : Db) (settlementId attemptId : JsString)
    (err : Exn) : Except Exn Db := do
  let db ← transitionAttempt now db attemptId .initiated .failed
  appendLedger crypto now db ⟨.payment_failed, some settlementId, js "facilitator",
    [(js "attempt_id", .str attemptId), (js "reason", .str (js "order_create_failed")),
      (js "detail", .str (errMessage err))]⟩

/-- `UPDATE settlement_attempts SET provider_order_id = ? … WHERE id = ?`. -/
def setOrderId (now : Int) (db : Db) (attemptId providerOrderId : JsString) : Except Exn Db :=
  match db.attempts.update? (fun row => row.id == attemptId)
      fun row => { row with providerOrderId := some providerOrderId, updatedAt := now } with
  | some attempts => .ok { db with attempts := attempts }
  | none => .error (.sqliteConstraint (js "UNIQUE constraint failed: settlement_attempts"))

/-- The transaction after a drive that captured nothing here: a stale attempt is swallowed, the
    ledger row is written either way. -/
def checkoutFailed (crypto : Crypto) (now : Int) (db : Db)
    (settlementId attemptId providerOrderId : JsString) (result : SettleViaCheckoutResult) :
    Except Exn Db := do
  let db ← match ← catchStale (transitionAttempt now db attemptId .initiated .failed) with
    | none => pure db
    | some db => pure db
  appendLedger crypto now db ⟨.payment_failed, some settlementId, js "facilitator",
    [(js "attempt_id", .str attemptId), (js "provider_order_id", .str providerOrderId),
      (js "status", .str (result.status.getD (js "error"))),
      (js "error", .str (result.error.getD (js "unknown")))]⟩

/-- `supersedeIfActive(db, attemptId)`. -/
def supersedeIfActive (now : Int) (db : Db) (attemptId : JsString) : Except Exn Db :=
  match db.attempts.find? fun row => row.id == attemptId with
  | none => .ok db
  | some row =>
    if !row.state.active then .ok db
    else do
      match ← catchStale (transitionAttempt now db attemptId row.state .superseded) with
      | none => return db
      | some db => return db

/-- The transaction that records a created payment link. -/
def issuePaymentLink (crypto : Crypto) (now : Int) (db : Db)
    (settlementId lastAttemptId linkAttemptId receipt linkId shortUrl : JsString) : Except Exn Db := do
  let db ← supersedeIfActive now db lastAttemptId
  let db ← insertAttempt db (newAttempt now linkAttemptId settlementId .payment_link
    .awaiting_confirmation receipt (some linkId))
  appendLedger crypto now db ⟨.payment_link_issued, some settlementId, js "facilitator",
    [(js "attempt_id", .str linkAttemptId), (js "provider_link_id", .str linkId),
      (js "short_url", .str shortUrl)]⟩

/-- `SELECT COUNT(*) … WHERE settlement_id = ? AND method = 'checkout_driver'`. -/
def existingAttempts (db : Db) (settlementId : JsString) : Nat :=
  db.attempts.rows.countP fun row =>
    row.settlementId == settlementId && row.method == .checkout_driver

/-- `runAttemptLoop` on entry. -/
def runAttemptLoop (db : Db) (settlement : SettlementRow) : RunPoint :=
  .attemptLoop settlement (existingAttempts db settlement.id + 1) []

/-! ## A run, effect by effect -/

/-- `runOnce`: one transaction, then straight into the loop. -/
def runOnce (crypto : Crypto) (now : Int) (w : World) (settlementId : JsString) :
    World × Next RunPoint :=
  match reverifyAndEnterSettling crypto w.db settlementId now with
  | .error _ => (w, .done)
  | .ok (db, .ok settlement) => (w.commit db, .cpu (runAttemptLoop db settlement))
  | .ok (db, _) => (w.commit db, .done)

/-- An attempt of the settlement is `initiated` or `awaiting_confirmation`. -/
def hasActiveAttempt (db : Db) (settlementId : JsString) : Bool :=
  db.attempts.rows.any fun row => row.settlementId == settlementId && row.state.active

/-- `resumeSettlingRun`. -/
def resumeSettlingRun (w : World) (settlementId : JsString) : World × Next RunPoint :=
  match getSettlement w.db settlementId with
  | none => (w, .done)
  | some settlement =>
    if settlement.state ≠ .settling then (w, .done)
    else if hasActiveAttempt w.db settlementId then (w, .done)
    else (w, .cpu (runAttemptLoop w.db settlement))

/-- The start of a queued kick. -/
def startRun (env : Env) (now : Int) (w : World) (k : Kick) : World × Next RunPoint :=
  match k.kind with
  | .execute => runOnce env.crypto now w k.settlementId
  | .resumeSettling => resumeSettlingRun w k.settlementId

/-- `checkoutFailed`, then the next round of the loop; an error ends the run. -/
def failAndRetry (env : Env) (now : Int) (w : World) (settlement : SettlementRow)
    (attemptNum : Nat) (attemptId providerOrderId : JsString) (result : SettleViaCheckoutResult) :
    World × Next RunPoint :=
  match checkoutFailed env.crypto now w.db settlement.id attemptId providerOrderId result with
  | .error _ => (w, .done)
  | .ok db => (w.commit db, .cpu (.attemptLoop settlement (attemptNum + 1) attemptId))

/-- The next effect of a run in its synchronous segment; `uuid` is what `randomUUID()` returns. -/
def runStep (env : Env) (now : Int) (uuid : JsString) (w : World) : RunPoint → World × Next RunPoint
  | .attemptLoop settlement attemptNum lastAttemptId =>
    if attemptNum ≤ maxAttempts then
      let receipt := attemptReceipt settlement.id attemptNum uuid
      match initiateAttempt env.crypto now w.db settlement.id attemptNum uuid receipt with
      | .error _ => (w, .done)
      | .ok db => (w.commit db, .cpu (.createOrder settlement attemptNum uuid receipt))
    else
      let receipt := linkReceipt settlement.id uuid
      (w.emit (.createPaymentLink settlement.id receipt),
        .park (.linkPending settlement lastAttemptId uuid receipt))
  | .createOrder settlement attemptNum attemptId receipt =>
    (w.emit (.createOrder settlement.id receipt),
      .park (.orderPending settlement attemptNum attemptId receipt))
  | .settleViaCheckout settlement attemptNum attemptId providerOrderId =>
    (w.emit (.settleViaCheckout settlement.id providerOrderId),
      .park (.checkoutPending settlement attemptNum attemptId providerOrderId))
  | .captureLost settlement attemptNum attemptId providerOrderId result =>
    failAndRetry env now w settlement attemptNum attemptId providerOrderId result
  -- at an await: nothing to do until the answer
  | .orderPending settlement attemptNum attemptId receipt =>
    (w, .park (.orderPending settlement attemptNum attemptId receipt))
  | .checkoutPending settlement attemptNum attemptId providerOrderId =>
    (w, .park (.checkoutPending settlement attemptNum attemptId providerOrderId))
  | .linkPending settlement lastAttemptId linkAttemptId receipt =>
    (w, .park (.linkPending settlement lastAttemptId linkAttemptId receipt))

/-- `createOrder` answered. -/
def orderAnswered (env : Env) (now : Int) (w : World) (settlement : SettlementRow)
    (attemptNum : Nat) (attemptId : JsString) (order : Except Exn JsString) :
    World × Next RunPoint :=
  match order with
  | .error err =>
    match orderCreateFailed env.crypto now w.db settlement.id attemptId err with
    | .error _ => (w, .done)
    | .ok db => (w.commit db, .cpu (.attemptLoop settlement (attemptNum + 1) attemptId))
  | .ok providerOrderId =>
    match setOrderId now w.db attemptId providerOrderId with
    | .error _ => (w, .done)
    | .ok db => (w.commit db, .cpu (.settleViaCheckout settlement attemptNum attemptId providerOrderId))

/-- `driverResult.ok && driverResult.status === 'captured' && driverResult.paymentId`. -/
def SettleViaCheckoutResult.captured? (result : SettleViaCheckoutResult) : Option JsString :=
  if result.ok && result.status == some (js "captured") then result.paymentId.filter (!·.isEmpty)
  else none

/-- `settleViaCheckout` answered; a rejected promise ends the run. -/
def checkoutAnswered (env : Env) (now : Int) (w : World) (settlement : SettlementRow)
    (attemptNum : Nat) (attemptId providerOrderId : JsString)
    (answer : Except Exn SettleViaCheckoutResult) : World × Next RunPoint :=
  match answer with
  | .error _ => (w, .done)
  | .ok result =>
    match result.captured? with
    | some paymentId =>
      match applyCapture env.crypto now w.db attemptId .initiated settlement.id
          (some providerOrderId) paymentId with
      | .error _ => (w, .done)
      | .ok (db, true) => (w.commit db, .done)
      | .ok (db, false) =>
        (w.commit db, .cpu (.captureLost settlement attemptNum attemptId providerOrderId result))
    | none => failAndRetry env now w settlement attemptNum attemptId providerOrderId result

/-- `createPaymentLink` answered with the link's id and short URL. -/
def linkAnswered (env : Env) (now : Int) (w : World) (settlement : SettlementRow)
    (lastAttemptId linkAttemptId receipt : JsString)
    (answer : Except Exn (JsString × JsString)) : World × Next RunPoint :=
  match answer with
  | .error err =>
    match appendLedger env.crypto now w.db ⟨.reconciliation_flagged, some settlement.id,
        js "facilitator", [(js "reason", .str (js "payment_link_create_failed")),
          (js "detail", .str (errMessage err))]⟩ with
    | .error _ => (w, .done)
    | .ok db => (w.commit db, .done)
  | .ok (linkId, shortUrl) =>
    match issuePaymentLink env.crypto now w.db settlement.id lastAttemptId linkAttemptId receipt
        linkId shortUrl with
    | .error _ => (w, .done)
    | .ok db => (w.commit db, .done)

end Hundi
