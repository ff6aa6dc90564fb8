/-
  packages/facilitator/src/sweep.ts — the reconciliation sweep.

  A tick runs a fixed list of rules.  The first, over stale attempts, awaits a reconcile call for
  each attempt with a provider order; the others are synchronous loops, one commit a row.
  `SweepPoint` names the rule a tick is in and the rows it still has to visit, as they were read
  when the rule began.  A thrown error ends the tick.
-/
import Hundi.Facilitator.Executor

namespace Hundi

open Js EventLoop

/-- A row of the first rule's query. -/
structure StaleAttempt where
  id : JsString
  settlementId : JsString
  state : AttemptState
  providerOrderId : Option JsString

/-- A row of the second rule's query. -/
structure StrandedTransient where
  id : JsString
  state : SettlementState
  transient : state = .created ∨ state = .verifying

inductive SweepPoint where
  | staleAttempts (rest : List StaleAttempt)
  /-- `await sweepStaleAttempts(report)` is over. -/
  | staleAttemptsSwept
  | transientSettlements (rest : List StrandedTransient)
  | staleVerified (rest : List JsString)
  | expiredApprovals (now : Int) (rest : List SettlementRow)
  | staleApproved (now : Int) (rest : List SettlementRow)
  | stuckSettling (rest : List JsString)
  | staleIdempotencyLocks

/-- `secondsAgo(now, ms)`. -/
def secondsAgo (now ms : Int) : Int := now - ms / 1000

/-- `abandonSettlement(db, id, from, eventType, reason)`: a stale settlement writes nothing. -/
def abandonSettlement (crypto : Crypto) (now : Int) (db : Db) (id : JsString) (src : SettlementState)
    (eventType : LedgerEventType) (reason : JsString) : Except Exn Db := do
  match ← catchStale (transitionSettlement now db id src .abandoned none) with
  | none => return db
  | some db => appendLedger crypto now db ⟨eventType, some id, js "facilitator",
      [(js "reason", .str reason)]⟩

/-! ## The queries -/

/-- The stale attempts. -/
def selectStaleAttempts (env : Env) (now : Int) (db : Db) : List StaleAttempt :=
  let cutoff := secondsAgo now env.ttls.attemptStaleMs
  (db.attempts.rows.filter fun row => row.state.active && row.createdAt < cutoff).map fun row =>
    ⟨row.id, row.settlementId, row.state, row.providerOrderId⟩

/-- The stranded transients. -/
def selectTransient (env : Env) (now : Int) (db : Db) : List StrandedTransient :=
  let cutoff := secondsAgo now env.ttls.transientStaleMs
  db.settlements.rows.filterMap fun row =>
    if h : (row.state = .created ∨ row.state = .verifying) ∧ row.createdAt < cutoff then
      some ⟨row.id, row.state, h.1⟩
    else none

/-- A timestamp column before the cutoff; NULL never is. -/
def before (stamp : Option Int) (cutoff : Int) : Bool := stamp.any (· < cutoff)

/-- The stale `verified` settlements. -/
def selectStaleVerified (env : Env) (now : Int) (db : Db) : List JsString :=
  let cutoff := secondsAgo now env.ttls.verifiedStaleMs
  (db.settlements.rows.filter fun row =>
    row.state == .verified && before row.verifiedAt cutoff).map (·.id)

/-- The settlements that wait for an approval. -/
def selectPendingApproval (db : Db) : List SettlementRow :=
  db.settlements.rows.filter fun row => row.state == .pending_approval

/-- The stale `approved` settlements. -/
def selectStaleApproved (env : Env) (now : Int) (db : Db) : List SettlementRow :=
  let cutoff := secondsAgo now env.ttls.approvedStaleMs
  db.settlements.rows.filter fun row => row.state == .approved && before row.approvedAt cutoff

/-- The stuck `settling` settlements. -/
def selectStuckSettling (env : Env) (now : Int) (db : Db) : List JsString :=
  let cutoff := secondsAgo now env.ttls.settlingNoAttemptStaleMs
  (db.settlements.rows.filter fun row =>
    row.state == .settling && before row.settlingAt cutoff).map (·.id)

/-- `reconciliationFlaggedFor(settlementId, reason)`. -/
def reconciliationFlaggedFor (db : Db) (settlementId reason : JsString) : Bool :=
  db.ledger.any fun row =>
    row.eventType == .reconciliation_flagged && row.settlementId == some settlementId &&
      (row.payload.get? (js "reason")).bind JsonValue.str? == some reason

/-! ## The rules -/

/-- What one effect of a tick leads to. -/
inductive SweepNext where
  /-- The synchronous segment goes on. -/
  | continue (p : SweepPoint)
  /-- At an await of the tick itself. -/
  | yield (p : SweepPoint)
  /-- Awaiting a reconcile call. -/
  | reconcile (point : ReconcilePoint) (rest : List StaleAttempt)
  | done

/-- A commit of a rule: on to the next row, or the tick has thrown. -/
def sweepCommit (w : World) (kicks : List Kick) (p : SweepPoint) :
    Except Exn Db → World × SweepNext × List Kick
  | .ok db => (w.commit db, .continue p, kicks)
  | .error _ => (w, .done, [])

/-- One stale attempt. -/
def sweepStaleAttempt (env : Env) (now : Int) (w : World) (attempt : StaleAttempt)
    (rest : List StaleAttempt) : World × SweepNext × List Kick :=
  match attempt.providerOrderId with
  | some (_ :: _) =>
    match reconcileByAttempt w.db attempt.id with
    | .awaiting p => (w, .reconcile p rest, [])
    | _ => (w, .yield (.staleAttempts rest), [])
  | _ =>
    if attempt.state ≠ .initiated then (w, .continue (.staleAttempts rest), [])
    else sweepCommit w [] (.staleAttempts rest)
      (failAttempt env.crypto now w.db attempt.id attempt.settlementId .initiated
        (js "no_provider_artifact_stale"))

/-- One `pending_approval` settlement: abandoned when the decision is overdue. -/
def sweepExpiredApproval (env : Env) (clock now : Int) (w : World) (row : SettlementRow)
    (rest : List SettlementRow) : World × SweepNext × List Kick :=
  match getMandateRow w.db row.mandateId with
  | none => (w, .continue (.expiredApprovals now rest), [])
  | some mandateRow =>
    let fixedExpiry := row.pendingApprovalAt.getD 0 + env.ttls.approvalTtlMs / 1000
    let expiresAt := min fixedExpiry mandateRow.intent.expiresAt
    if now ≤ expiresAt then (w, .continue (.expiredApprovals now rest), [])
    else sweepCommit w [] (.expiredApprovals now rest)
      (abandonSettlement env.crypto clock w.db row.id .pending_approval .approval_expired
        (js "approval_timeout"))

/-- `UPDATE settlements SET kick_count = kick_count + 1 WHERE id = ? AND state = 'approved'`: the
    database and whether a row was changed. -/
def bumpKickCount (db : Db) (id : JsString) : Except Exn (Db × Bool) :=
  let p : SettlementRow → Bool := fun row => row.id == id && row.state == .approved
  match db.settlements.update? p fun row => { row with kickCount := row.kickCount + 1 } with
  | some settlements => .ok ({ db with settlements := settlements }, db.settlements.rows.any p)
  | none => .error (.sqliteConstraint (js "UNIQUE constraint failed: settlements"))

/-- One stale `approved` settlement: abandoned when its mandate has expired or its kicks are used
    up, else kicked again. -/
def sweepApproved (env : Env) (clock now : Int) (w : World) (row : SettlementRow)
    (rest : List SettlementRow) : World × SweepNext × List Kick :=
  let mandateExpired := (getMandateRow w.db row.mandateId).any fun m => now > m.intent.expiresAt
  if mandateExpired || row.kickCount ≥ env.ttls.maxApprovedKicks then
    sweepCommit w [] (.staleApproved now rest)
      (abandonSettlement env.crypto clock w.db row.id .approved .settlement_abandoned
        (if mandateExpired then js "mandate_expired" else js "kick_limit_exceeded"))
  else
    match bumpKickCount w.db row.id with
    | .error _ => (w, .done, [])
    | .ok (db, bumped) =>
      (w.commit db, .continue (.staleApproved now rest), if bumped then [⟨row.id, .execute⟩] else [])

/-- One stuck `settling` settlement: flagged once, and resumed. -/
def sweepSettling (env : Env) (now : Int) (w : World) (id : JsString) (rest : List JsString) :
    World × SweepNext × List Kick :=
  if hasActiveAttempt w.db id then (w, .continue (.stuckSettling rest), [])
  else if reconciliationFlaggedFor w.db id (js "settling_no_active_attempt") then
    (w, .continue (.stuckSettling rest), [⟨id, .resumeSettling⟩])
  else sweepCommit w [⟨id, .resumeSettling⟩] (.stuckSettling rest)
    (appendLedger env.crypto now w.db ⟨.reconciliation_flagged, some id, js "facilitator",
      [(js "reason", .str (js "settling_no_active_attempt"))]⟩)

/-- The next effect of a tick in its synchronous segment. -/
def sweepStep (env : Env) (now : Int) (w : World) : SweepPoint → World × SweepNext × List Kick
  | .staleAttempts (attempt :: rest) => sweepStaleAttempt env now w attempt rest
  | .staleAttempts [] => (w, .yield .staleAttemptsSwept, [])
  | .staleAttemptsSwept =>
    (w, .continue (.transientSettlements (selectTransient env now w.db)), [])
  | .transientSettlements (row :: rest) =>
    sweepCommit w [] (.transientSettlements rest)
      (abandonSettlement env.crypto now w.db row.id row.state .settlement_abandoned
        (js "stranded_transient"))
  | .transientSettlements [] => (w, .continue (.staleVerified (selectStaleVerified env now w.db)), [])
  | .staleVerified (id :: rest) =>
    sweepCommit w [] (.staleVerified rest)
      (abandonSettlement env.crypto now w.db id .verified .settlement_abandoned
        (js "verified_timeout"))
  | .staleVerified [] => (w, .continue (.expiredApprovals now (selectPendingApproval w.db)), [])
  | .expiredApprovals since (row :: rest) => sweepExpiredApproval env now since w row rest
  | .expiredApprovals _ [] => (w, .continue (.staleApproved now (selectStaleApproved env now w.db)), [])
  | .staleApproved since (row :: rest) => sweepApproved env now since w row rest
  | .staleApproved _ [] => (w, .continue (.stuckSettling (selectStuckSettling env now w.db)), [])
  | .stuckSettling (id :: rest) => sweepSettling env now w id rest
  | .stuckSettling [] => (w, .continue .staleIdempotencyLocks, [])
  | .staleIdempotencyLocks =>
    let cutoff := secondsAgo now env.ttls.idempotencyLockStaleMs
    (w.commit { w.db with
      idempotencyKeys := w.db.idempotencyKeys.delete fun row =>
        row.responseStatus.isNone && before row.lockedAt cutoff }, .done, [])

/-- A tick: `sweepStaleAttempts` begins. -/
def sweepRunOnce (env : Env) (now : Int) (w : World) : SweepPoint :=
  .staleAttempts (selectStaleAttempts env now w.db)

end Hundi
