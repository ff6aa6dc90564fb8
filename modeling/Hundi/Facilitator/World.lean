/-
  What the facilitator's code runs against: its configuration, its database, and the record of what
  the outside has seen of it.

  `World.history` is not part of the program: no definition reads it.  It lists, newest first, the
  provider calls that were issued, the refunds that succeeded, the settlements that were created
  and the responses of the two routes whose answers later results are about.
-/
import Hundi.Facilitator.Schema

namespace Hundi

open Js

/-- `SweepTTLs` of sweep.ts. -/
structure SweepTTLs where
  attemptStaleMs : Int
  transientStaleMs : Int
  verifiedStaleMs : Int
  approvalTtlMs : Int
  approvedStaleMs : Int
  settlingNoAttemptStaleMs : Int
  idempotencyLockStaleMs : Int
  maxApprovedKicks : Nat

/-- `DEFAULT_SWEEP_TTLS`. -/
def defaultSweepTTLs : SweepTTLs where
  attemptStaleMs := 90000
  transientStaleMs := 60000
  verifiedStaleMs := 900000
  approvalTtlMs := 1800000
  approvedStaleMs := 60000
  settlingNoAttemptStaleMs := 60000
  idempotencyLockStaleMs := 300000
  maxApprovedKicks := 3

/-- The part of env.ts the modelled code reads, with the primitives it calls. -/
structure Env where
  crypto : Crypto
  dashboardToken : JsString
  adminToken : JsString
  webhookSecret : JsString
  ttls : SweepTTLs

/-- Who asks for a refund: the anomaly compensator or the operator's route. -/
inductive RefundPath where
  | anomaly
  | operator
  deriving DecidableEq

inductive Event where
  /-- A settlements row was inserted for the submitted intent; `spentPaise` is the mandate's captured
      spend at that moment. -/
  | settlementCreated (settlementId : JsString) (spentPaise : Int) (intent : IntentMandate)
  | createOrder (settlementId receipt : JsString)
  | settleViaCheckout (settlementId orderId : JsString)
  | createPaymentLink (settlementId referenceId : JsString)
  /-- `refundPayment` was called. -/
  | refundPayment (path : RefundPath) (settlementId paymentId : JsString)
  /-- The call's promise was fulfilled. -/
  | refundSucceeded (path : RefundPath) (settlementId paymentId refundId : JsString)
  /-- A 200 response of POST /settlements/:id/refund. -/
  | refundResponse (settlementId refundId : JsString)
  /-- A response of POST /settlements. -/
  | settlementResponse (key : JsString) (status : Nat) (body : CreateSettlementBody)
  deriving DecidableEq

structure World where
  db : Db
  history : List Event

/-- The world with another database. -/
def World.commit (w : World) (db : Db) : World := { w with db := db }

/-- The world after an event. -/
def World.emit (w : World) (e : Event) : World := { w with history := e :: w.history }

@[simp] theorem World.commit_db (w : World) (db : Db) : (w.commit db).db = db := rfl
@[simp] theorem World.commit_history (w : World) (db : Db) : (w.commit db).history = w.history := rfl
@[simp] theorem World.emit_db (w : World) (e : Event) : (w.emit e).db = w.db := rfl
@[simp] theorem World.emit_history (w : World) (e : Event) :
    (w.emit e).history = e :: w.history := rfl

/-- A fresh installation. -/
def World.initial : World := ⟨Db.empty, []⟩

end Hundi
