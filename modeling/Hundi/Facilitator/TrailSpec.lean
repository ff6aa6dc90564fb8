/-
  The trail of a run.

  `trailSpec` is a specification of the program next to `facilitatorSpec`: what its moves do to the
  ledger, and to `mandates`, `ceremony_tokens` and `webhook_events`.  A move is routine, or it is one of
  four: a token is minted, a mandate is registered or revoked, a webhook event is claimed.  It says too
  which webhook event a task is about, from the claim to the end of its reconcile call.

  The bodies of requests are what `JSON.parse` returns (`Parsed`): no object names a key twice.
-/
import Hundi.Facilitator.Trail

namespace Hundi

open Js EventLoop

/-! ## Runs of the executor -/

section

variable {env : Env} {now : Int} {w : World}

theorem trails_startRun {k : Kick} : Trails env.crypto w.db (startRun env now w k).1.db := by
  unfold startRun
  split
  · unfold runOnce
    split
    · exact .refl
    · rename_i h
      exact trails_reverify h
    · rename_i h
      exact trails_reverify h
  · unfold resumeSettlingRun
    split
    · exact .refl
    split
    · exact .refl
    split
    · exact .refl
    · exact .refl

theorem trails_failAndRetry {settlement : SettlementRow} {attemptNum : Nat}
    {attemptId providerOrderId : JsString} {result : SettleViaCheckoutResult} :
    Trails env.crypto w.db
      (failAndRetry env now w settlement attemptNum attemptId providerOrderId result).1.db := by
  unfold failAndRetry
  split
  · exact .refl
  · rename_i db h
    exact trails_checkoutFailed db h

theorem trails_runStep {uuid : JsString} {p : RunPoint} :
    Trails env.crypto w.db (runStep env now uuid w p).1.db := by
  cases p with
  | attemptLoop settlement attemptNum lastAttemptId =>
    rw [runStep]
    split
    · dsimp only
      split
      · exact .refl
      · rename_i db h
        exact trails_initiateAttempt db h
    · exact .refl
  | captureLost settlement attemptNum attemptId providerOrderId result => exact trails_failAndRetry
  | _ => exact .refl

theorem trails_resumeRun {p : RunPoint} {a : Answer} {o : World × Next RunPoint}
    (h : resumeRun env now w p a = some o) : Trails env.crypto w.db o.1.db := by
  unfold resumeRun at h
  split at h
  · obtain rfl := Option.some.inj h
    unfold orderAnswered
    split
    · split
      · exact .refl
      · rename_i db h
        exact trails_orderCreateFailed db h
    · split
      · exact .refl
      · rename_i db h
        exact .attempts (setOrderId_ok h).2
  · obtain rfl := Option.some.inj h
    unfold checkoutAnswered
    split
    · exact .refl
    split
    · split
      · exact .refl
      · rename_i h
        exact trails_applyCapture h
      · rename_i h
        exact trails_applyCapture h
    · exact trails_failAndRetry
  · obtain rfl := Option.some.inj h
    unfold linkAnswered
    split
    · split
      · exact .refl
      · rename_i db h
        exact .log [js "reason", js "detail"] h rfl (by decide) rfl rfl
    · split
      · exact .refl
      · rename_i db h
        exact trails_issuePaymentLink db h
  · cases h

/-! ## Tasks -/

/-- The webhook event a reconcile call is made for. -/
def Caller.event? : Caller → Option JsString
  | .webhook eventId _ => some eventId
  | .sweep _ => none

/-- The type of the event is one the database holds. -/
def Caller.Bound : Caller → Prop
  | .webhook _ eventType => bindable eventType = true
  | .sweep _ => True

/-- The webhook event a task is about. -/
def Task.event? : Task → Option JsString
  | .webhook eventId _ _ => some eventId
  | .webhookFailed eventId _ _ => some eventId
  | .reconcile caller _ => caller.event?
  | _ => none

def Task.Bound : Task → Prop
  | .webhook _ eventType _ => bindable eventType = true
  | .webhookFailed _ eventType _ => bindable eventType = true
  | .reconcile caller _ => caller.Bound
  | _ => True

/-- The task is still about the webhook event it was about, or about none. -/
def Carries (event : Option JsString) (next : Next Task) : Prop :=
  ∀ u, next.task? = some u → u.Bound ∧ (u.event? = none ∨ u.event? = event)

/-- The webhook event a move is about. -/
def eventOf (c : TaskWhy) : Option JsString := c.before.task?.bind Task.event?

/-- What a move starts from is JSON: a body is what `JSON.parse` returns, a task has been checked. -/
def Parsed : TaskWhy → Prop
  | .request (.postDecisions _ payload _) => KeysOnce (.obj payload)
  | .request _ => True
  | .running t => t.Bound
  | .resumed t _ => t.Bound

/-- A routine move of a task. -/
structure Routine (crypto : Crypto) (w : World) (event : Option JsString) (w' : World) (next : Next Task) :
    Prop where
  trails : Trails crypto w.db w'.db
  carries : Carries event next

theorem carries_done {event : Option JsString} : Carries event .done := by
  intro u hu
  cases hu

theorem carries_of {event : Option JsString} {next : Next Task} {u : Task} (hn : next.task? = some u)
    (hbound : u.Bound) (hevent : u.event? = none ∨ u.event? = event) : Carries event next := by
  intro u' hu'
  obtain rfl := Option.some.inj (hn.symm.trans hu')
  exact ⟨hbound, hevent⟩

variable {event : Option JsString}

theorem routine_respond : Routine env.crypto w event (respond w).world (respond w).next :=
  ⟨.refl, carries_done⟩

theorem routine_respondWith {x : Except Exn Db} (h : TrailsOk env.crypto w.db x) :
    Routine env.crypto w event (respondWith w x).world (respondWith w x).next := by
  cases x with
  | error e => exact routine_respond
  | ok db => exact ⟨h db rfl, carries_done⟩

/-! ### Reconcile calls -/

theorem trails_refundAnomalyCapture {settlementId attemptId paymentId : JsString} :
    Trails env.crypto w.db (refundAnomalyCapture w settlementId attemptId paymentId).1.db := by
  unfold refundAnomalyCapture
  split
  · exact .refl
  · exact .refl

theorem trails_flagRefundError {settlementId attemptId paymentId : JsString} {err : Exn} :
    Trails env.crypto w.db
      (flagRefundError env.crypto now w settlementId attemptId paymentId err).1.db := by
  unfold flagRefundError
  split
  · rename_i db h
    exact .log [js "reason", js "attempt_id", js "payment_id", js "detail"] h rfl (by decide) rfl rfl
  · exact .refl

theorem trails_refundAnomalyAnswered {settlementId attemptId paymentId : JsString}
    {refund : Except Exn JsString} :
    Trails env.crypto w.db
      (refundAnomalyAnswered env.crypto now w settlementId attemptId paymentId refund).1.db := by
  cases refund with
  | error err => exact trails_flagRefundError
  | ok refundId =>
    rw [refundAnomalyAnswered]
    split
    · rename_i db h
      exact .log [js "attempt_id", js "payment_id", js "refund_id"] h rfl (by decide) rfl rfl
    · exact trails_flagRefundError (w := w.emit (.refundSucceeded .anomaly settlementId paymentId refundId))

theorem trails_reconcileFetched {attempt : AttemptRow} {providerOrderId : JsString}
    {answer : Except Exn (List RazorpayPayment)} :
    Trails env.crypto w.db
      (reconcileFetched env.crypto now w attempt providerOrderId answer).1.db := by
  unfold reconcileFetched
  split
  · split
    · rename_i db h
      exact .log [js "reason", js "provider_order_id", js "detail"] h rfl (by decide) rfl rfl
    · exact .refl
  split
  · exact .refl
  split
  · unfold reconcileCapturedPayment
    split
    · exact .refl
    dsimp only
    split
    · exact trails_refundAnomalyCapture
    split
    · exact .refl
    · rename_i h
      exact trails_applyCapture h
    · rename_i h
      exact trails_applyCapture h
  split
  · unfold failAttemptIfLive
    split
    · exact .refl
    split
    · rename_i db h
      exact trails_failAttempt db h
    · exact .refl
  · exact .refl

/-- The caller goes on, about its event. -/
theorem routine_afterReconcile {caller : Caller} {o : World × ReconcileNext}
    (h : Trails env.crypto w.db o.1.db) (hbound : caller.Bound)
    (hevent : caller.event? = none ∨ caller.event? = event) :
    Routine env.crypto w event (afterReconcile caller o).world (afterReconcile caller o).next := by
  obtain ⟨w', next⟩ := o
  cases next with
  | awaiting p => exact ⟨h, carries_of (u := .reconcile caller p) rfl hbound hevent⟩
  | running p => exact ⟨h, carries_of (u := .reconcile caller p) rfl hbound hevent⟩
  | returned =>
    cases caller with
    | webhook eventId eventType => exact ⟨h, carries_done⟩
    | sweep rest =>
      exact ⟨h, carries_of (u := .sweep (.staleAttempts rest)) rfl trivial (Or.inl rfl)⟩
  | threw e =>
    cases caller with
    | webhook eventId eventType =>
      exact ⟨h, carries_of (u := .webhookFailed eventId eventType e) rfl hbound hevent⟩
    | sweep rest => exact ⟨h, carries_done⟩

/-! ### The sweep -/

theorem trails_sweepCommit {kicks : List Kick} {p : SweepPoint} {x : Except Exn Db}
    (h : TrailsOk env.crypto w.db x) : Trails env.crypto w.db (sweepCommit w kicks p x).1.db := by
  cases x with
  | error e => exact .refl
  | ok db => exact h db rfl

theorem trails_sweepStep {p : SweepPoint} : Trails env.crypto w.db (sweepStep env now w p).1.db := by
  cases p with
  | staleAttempts rest =>
    cases rest with
    | nil => exact .refl
    | cons attempt rest =>
      rw [sweepStep, sweepStaleAttempt]
      split
      · split
        · exact .refl
        · exact .refl
      split
      · exact .refl
      · exact trails_sweepCommit trails_failAttempt
  | staleAttemptsSwept => exact .refl
  | transientSettlements rest =>
    cases rest with
    | nil => exact .refl
    | cons row rest => exact trails_sweepCommit (trails_abandonSettlement rfl)
  | staleVerified rest =>
    cases rest with
    | nil => exact .refl
    | cons id rest => exact trails_sweepCommit (trails_abandonSettlement rfl)
  | expiredApprovals since rest =>
    cases rest with
    | nil => exact .refl
    | cons row rest =>
      rw [sweepStep, sweepExpiredApproval]
      split
      · exact .refl
      dsimp only
      split
      · exact .refl
      · exact trails_sweepCommit (trails_abandonSettlement rfl)
  | staleApproved since rest =>
    cases rest with
    | nil => exact .refl
    | cons row rest =>
      rw [sweepStep, sweepApproved]
      split
      · exact trails_sweepCommit (trails_abandonSettlement rfl)
      split
      · exact .refl
      · rename_i db bumped h
        unfold bumpKickCount at h
        dsimp only at h
        split at h
        · obtain ⟨rfl, -⟩ := Prod.mk.inj (Except.ok.inj h)
          exact .settlements rfl
        · cases h
  | stuckSettling rest =>
    cases rest with
    | nil => exact .refl
    | cons id rest =>
      rw [sweepStep, sweepSettling]
      split
      · exact .refl
      split
      · exact .refl
      · exact trails_sweepCommit fun db h => .log [js "reason"] h rfl (by decide) rfl rfl
  | staleIdempotencyLocks => exact ⟨rfl, rfl, rfl, .refl⟩

theorem routine_sweep {p : SweepPoint} :
    Routine env.crypto w event (afterSweep (sweepStep env now w p)).world
      (afterSweep (sweepStep env now w p)).next := by
  have h : Trails env.crypto w.db (sweepStep env now w p).1.db := trails_sweepStep
  revert h
  obtain ⟨w', next, kicks⟩ := sweepStep env now w p
  intro h
  cases next with
  | «continue» p => exact ⟨h, carries_of (u := .sweep p) rfl trivial (Or.inl rfl)⟩
  | yield p => exact ⟨h, carries_of (u := .sweep p) rfl trivial (Or.inl rfl)⟩
  | reconcile point rest =>
    exact ⟨h, carries_of (u := .reconcile (.sweep rest) point) rfl trivial (Or.inl rfl)⟩
  | done => exact ⟨h, carries_done⟩

/-! ### Requests -/

/-- **What a move of a task does to the trail.** -/
inductive TrailStep (env : Env) (now : Int) (w : World) (c : TaskWhy) (w' : World) (next : Next Task) :
    Prop where
  | routine (h : Routine env.crypto w (eventOf c) w' next)
  | minted (token : CeremonyTokenRow)
      (hc : c = .request (.postCeremonyTokens (some env.dashboardToken))) (hnew : token.usedAt = none)
      (htokens : w.db.ceremonyTokens.insert? token = some w'.db.ceremonyTokens)
      (hw : w'.db = { w.db with ceremonyTokens := w'.db.ceremonyTokens }) (hn : next = .done)
  | registered (row : MandateRow) (token : JsString)
      (hvalid : ∃ t ∈ w.db.ceremonyTokens.rows, t.token = token ∧ t.usedAt = none)
      (htokens : w.db.ceremonyTokens.update? (fun t => t.token == token && t.usedAt.isNone)
        (fun t => { t with usedAt := some now }) = some w'.db.ceremonyTokens)
      (hmandates : w.db.mandates.insert? row = some w'.db.mandates) (hnew : row.revokedAt = none)
      (happend : appendLedger env.crypto now
        { w.db with ceremonyTokens := w'.db.ceremonyTokens, mandates := w'.db.mandates }
        ⟨.mandate_registered, none, js "facilitator",
          [(js "mandate_id", .str row.mandateId), (js "intent_hash_hex", .str row.intentHashHex),
            (js "agent_pubkey_hex", .str row.intent.agentPubkeyHex)]⟩ = .ok w'.db)
      (hn : next = .done)
  | revoked (row : MandateRow) (hmem : row ∈ w.db.mandates.rows) (hlive : row.revokedAt = none)
      (hmandates : w.db.mandates.update? (fun r => r.mandateId == row.mandateId)
        (fun r => { r with revokedAt := some now }) = some w'.db.mandates)
      (happend : appendLedger env.crypto now { w.db with mandates := w'.db.mandates }
        ⟨.mandate_revoked, none, js "mandate:" ++ row.mandateId, []⟩ = .ok w'.db)
      (hn : next = .done)
  | claimed (eventId rawBody : JsString) (eventType body : JsonValue) (hbound : bindable eventType = true)
      (hevents : w.db.webhookEvents.insert? ⟨eventId, eventType, rawBody, now⟩ =
        some w'.db.webhookEvents)
      (happend : appendLedger env.crypto now { w.db with webhookEvents := w'.db.webhookEvents }
        ⟨.webhook_received, none, js "razorpay",
          [(js "event_id", .str eventId), (js "event", eventType)]⟩ = .ok w'.db)
      (hn : next = .cpu (.webhook eventId eventType body))

/-- A value the database holds is flat. -/
theorem flat_of_bindable {v : JsonValue} (h : bindable v = true) : flatValue v = true := by
  cases v with
  | arr xs => cases h
  | obj ms => cases h
  | _ => rfl

theorem trail_postCeremonyTokens {token : JsString} {dashboardToken : Option JsString} :
    TrailStep env now w (.request (.postCeremonyTokens dashboardToken))
      (postCeremonyTokens env now token w dashboardToken).world
      (postCeremonyTokens env now token w dashboardToken).next := by
  unfold postCeremonyTokens
  split
  · exact .routine routine_respond
  rename_i hsecret
  obtain rfl := not_not.mp hsecret
  split
  · rename_i tokens h
    exact .minted _ rfl rfl h rfl rfl
  · exact .routine routine_respond

theorem trail_postMandates {intent : IntentMandate} {credential : Credential} {ceremonyToken : JsString}
    {c : TaskWhy} :
    TrailStep env now w c
      (respondWith w (registerMandate env now w.db intent credential ceremonyToken)).world
      (respondWith w (registerMandate env now w.db intent credential ceremonyToken)).next := by
  cases h : registerMandate env now w.db intent credential ceremonyToken with
  | error e => exact .routine routine_respond
  | ok db =>
    rw [registerMandate] at h
    split at h
    · cases h
    rename_i hany
    split at h
    · cases h
    rename_i tokens htokens
    rw [bind_eq_ok] at h
    obtain ⟨bytes, -, h⟩ := h
    rw [bind_eq_ok] at h
    obtain ⟨signed, -, h⟩ := h
    split at h
    · cases h
    dsimp only at h
    split at h
    · cases h
    rename_i mandates hmandates
    have hvalid : ∃ t ∈ w.db.ceremonyTokens.rows, t.token = ceremonyToken ∧ t.usedAt = none := by
      rw [Bool.not_eq_true', Bool.not_eq_false] at hany
      obtain ⟨t, ht, hp⟩ := List.any_eq_true.mp hany
      rw [Bool.and_eq_true, beq_iff_eq, Option.isNone_iff_eq_none] at hp
      exact ⟨t, ht, hp⟩
    obtain ⟨row, -, hdb⟩ := appendLedger_ok h
    have hsame : tokens = db.ceremonyTokens ∧ mandates = db.mandates := by
      rw [hdb]
      exact ⟨rfl, rfl⟩
    obtain ⟨rfl, rfl⟩ := hsame
    exact .registered _ ceremonyToken hvalid htokens hmandates rfl h rfl

theorem trail_postRevoke {mandateId : JsString} {sig : SigEnvelope} {c : TaskWhy} :
    TrailStep env now w c (respondWith w (revokeMandate env now w.db mandateId sig)).world
      (respondWith w (revokeMandate env now w.db mandateId sig)).next := by
  cases h : revokeMandate env now w.db mandateId sig with
  | error e => exact .routine routine_respond
  | ok db =>
    rw [revokeMandate] at h
    split at h
    · cases h
    rename_i row hrow
    obtain ⟨hmem, rfl⟩ := getMandateRow_some hrow
    rw [bind_eq_ok] at h
    obtain ⟨bytes, -, h⟩ := h
    rw [bind_eq_ok] at h
    obtain ⟨signed, -, h⟩ := h
    split at h
    · cases h
    split at h
    · obtain rfl := Except.ok.inj h
      exact .routine ⟨.refl, carries_done⟩
    rename_i hlive
    split at h
    · cases h
    rename_i mandates hmandates
    obtain ⟨lrow, -, hdb⟩ := appendLedger_ok h
    obtain rfl : mandates = db.mandates := by rw [hdb]
    have hnone : row.revokedAt = none := by
      rw [Bool.not_eq_true, Option.isSome_eq_false_iff, Option.isNone_iff_eq_none] at hlive
      exact hlive
    exact .revoked row hmem hnone hmandates h rfl

theorem trails_rejectWebhook {eventId reason : JsString} :
    Routine env.crypto w event (rejectWebhook env now w eventId reason).world
      (rejectWebhook env now w eventId reason).next :=
  routine_respondWith fun _ h => .log [js "event_id", js "reason"] h rfl (by decide) rfl rfl

theorem trail_postWebhook {rawBody : JsString} {signatureHeader eventIdHeader : Option JsString}
    {c : TaskWhy} :
    TrailStep env now w c (postWebhook env now w rawBody signatureHeader eventIdHeader).world
      (postWebhook env now w rawBody signatureHeader eventIdHeader).next := by
  unfold postWebhook
  split
  · exact .routine trails_rejectWebhook
  split
  · exact .routine trails_rejectWebhook
  split
  · exact .routine trails_rejectWebhook
  · exact .routine trails_rejectWebhook
  split
  · exact .routine routine_respond
  rename_i eventType htype
  split
  · exact .routine routine_respond
  · exact .routine routine_respond
  rename_i db h
  unfold claimWebhookEvent at h
  split at h
  · cases h
  rename_i hbound
  split at h
  · cases h
  rename_i events hevents
  rw [bind_eq_ok] at h
  obtain ⟨db₁, happend, h⟩ := h
  obtain rfl := Option.some.inj (Except.ok.inj h)
  obtain ⟨row, -, hdb⟩ := appendLedger_ok happend
  obtain rfl : events = db₁.webhookEvents := by rw [hdb]
  rw [Bool.not_eq_true', Bool.not_eq_false] at hbound
  exact .claimed _ rawBody eventType _ hbound hevents happend rfl

theorem trail_handleValid {seed : JsString} {r : Request} (hp : Parsed (.request r)) :
    TrailStep env now w (.request r) (handleValid env now seed w r).world
      (handleValid env now seed w r).next := by
  cases r with
  | postCeremonyTokens dashboardToken => exact trail_postCeremonyTokens
  | postAdminMerchants adminToken merchantId name catalogUrl catalogPrices =>
    refine .routine ?_
    rw [handleValid, postAdminMerchants]
    split
    · exact routine_respond
    split
    · exact ⟨⟨rfl, rfl, rfl, .refl⟩, carries_done⟩
    · exact routine_respond
  | postStoresOnboard merchantId name url catalogPrices =>
    refine .routine ⟨?_, carries_done⟩
    show Trails env.crypto w.db (upsertMerchant now w.db merchantId name url catalogPrices)
    unfold upsertMerchant
    split
    · exact ⟨rfl, rfl, rfl, .refl⟩
    split
    · exact ⟨rfl, rfl, rfl, .refl⟩
    · exact .refl
  | postMandates intent credential ceremonyToken => exact trail_postMandates
  | postSettlements idempotencyKey intent cart =>
    refine .routine ?_
    rw [handleValid]
    unfold postSettlements
    split
    · exact routine_respond
    · exact routine_respond
    dsimp only
    split
    · exact routine_respond
    split
    · exact routine_respond
    · rename_i key db h
      obtain ⟨keys, rfl⟩ := claimIdempotencyKey_ok h
      exact ⟨⟨rfl, rfl, rfl, .refl⟩, carries_of (u := .settlementClaimed _ intent cart) rfl trivial (Or.inl rfl)⟩
    · exact ⟨.refl, carries_done⟩
    · exact ⟨.refl, carries_done⟩
    · exact ⟨.refl, carries_done⟩
  | postDecisions settlementId payload signatureHex =>
    refine .routine (routine_respondWith fun db h => ?_)
    split at h
    · cases h
    split at h
    · cases h
    rw [bind_eq_ok] at h
    obtain ⟨bytes, -, h⟩ := h
    rw [bind_eq_ok] at h
    obtain ⟨valid, -, h⟩ := h
    split at h
    · cases h
    · have hkeys : KeysOnce (.obj payload) := hp
      have hrec : Recorded env.crypto LedgerEventType.routine w.db.ledger db.ledger :=
        .append .refl rfl hkeys h
      obtain ⟨row, -, rfl⟩ := appendLedger_ok h
      exact ⟨rfl, rfl, rfl, hrec⟩
  | postApprovals settlementId mandateCartHashHex decision sig =>
    refine .routine ?_
    rw [handleValid]
    unfold postApprovals
    split
    · exact routine_respond
    · rename_i db h
      exact ⟨trails_decideApproval db h, carries_done⟩
  | postRevoke mandateId sig => exact trail_postRevoke
  | postRefund settlementId dashboardToken =>
    refine .routine ?_
    rw [handleValid]
    unfold postRefund
    split
    · exact routine_respond
    split
    · exact routine_respond
    split
    · exact ⟨.refl, carries_done⟩
    split
    · exact routine_respond
    split
    · exact routine_respond
    split
    · exact ⟨.refl, carries_of (u := .refund settlementId _ _ _) rfl trivial (Or.inl rfl)⟩
    · exact routine_respond
  | postWebhook rawBody signatureHeader eventIdHeader => exact trail_postWebhook
  | sweepTick => exact .routine ⟨.refl, carries_of (u := .sweep _) rfl trivial (Or.inl rfl)⟩

/-! ### The rest of a task -/

theorem routine_refundAnswered {settlementId attemptId paymentId : JsString} {amountPaise : Int}
    {refund : Except Exn JsString} :
    Routine env.crypto w event
      (refundAnswered env now w settlementId attemptId paymentId amountPaise refund).world
      (refundAnswered env now w settlementId attemptId paymentId amountPaise refund).next := by
  cases refund with
  | error e => exact routine_respond
  | ok refundId =>
    unfold refundAnswered
    dsimp only
    split
    · exact ⟨.refl, carries_done⟩
    · rename_i db h
      refine ⟨?_, carries_done⟩
      exact .log [js "attempt_id", js "payment_id", js "refund_id", js "amount_paise"] h rfl (by decide)
        rfl rfl

theorem routine_settlementClaimed {settlementId key : JsString} {intent : IntentMandate}
    {cart : CartMandate} :
    Routine env.crypto w event (settlementClaimed env now settlementId w key intent cart).world
      (settlementClaimed env now settlementId w key intent cart).next := by
  unfold settlementClaimed
  split
  · exact routine_respond
  · rename_i db outcome h
    refine ⟨?_, carries_done⟩
    dsimp only
    split
    · exact trails_settlementTransaction h
    · exact trails_settlementTransaction h

theorem routine_webhookFailed {eventId : JsString} {eventType : JsonValue} {err : Exn}
    (hbound : bindable eventType = true) :
    Routine env.crypto w event (webhookFailed env now w eventId eventType err).world
      (webhookFailed env now w eventId eventType err).next := by
  refine routine_respondWith fun db h => ?_
  refine .log [js "reason", js "event_id", js "event", js "detail"] h rfl (by decide) rfl ?_
  show (true && (true && (flatValue eventType && (true && true)))) = true
  rw [flat_of_bindable hbound]
  rfl

theorem routine_webhookClaimed {eventId : JsString} {eventType body : JsonValue}
    (hbound : bindable eventType = true) :
    Routine env.crypto w (some eventId) (webhookClaimed env now w eventId eventType body).world
      (webhookClaimed env now w eventId eventType body).next := by
  unfold webhookClaimed
  split
  · split
    · refine routine_respondWith fun db h => ?_
      refine .log [js "reason", js "event_id", js "event"] h rfl (by decide) rfl ?_
      show (true && (true && (flatValue eventType && true))) = true
      rw [flat_of_bindable hbound]
      rfl
    · split
      · exact routine_afterReconcile (o := (w, _)) .refl hbound (Or.inr rfl)
      · exact routine_respond
      · exact ⟨.refl, carries_of (u := .webhookFailed eventId eventType _) rfl hbound (Or.inr rfl)⟩
  · exact routine_respond

theorem trail_handleRequest {seed : JsString} {r : Request} (hp : Parsed (.request r)) :
    TrailStep env now w (.request r) (handleRequest env now seed w r).world
      (handleRequest env now seed w r).next := by
  unfold handleRequest
  split
  · exact trail_handleValid hp
  · exact .routine routine_respond

theorem trail_runTask {seed : JsString} {t : Task} (hp : t.Bound) :
    Routine env.crypto w t.event? (runTask env now seed w t).world (runTask env now seed w t).next := by
  cases t with
  | reconcile caller point =>
    cases point with
    | lostRace attempt paymentId =>
      exact routine_afterReconcile trails_refundAnomalyCapture hp (Or.inr rfl)
    | fetchOrderPayments attempt orderId =>
      exact ⟨.refl, carries_of (u := .reconcile caller _) rfl hp (Or.inr rfl)⟩
    | refundPayment settlementId attemptId paymentId =>
      exact ⟨.refl, carries_of (u := .reconcile caller _) rfl hp (Or.inr rfl)⟩
  | sweep point => exact routine_sweep
  | settlementClaimed key intent cart => exact routine_settlementClaimed
  | refund settlementId attemptId paymentId amountPaise =>
    exact ⟨.refl, carries_of (u := .refund settlementId attemptId paymentId amountPaise) rfl trivial
      (Or.inl rfl)⟩
  | webhook eventId eventType body => exact routine_webhookClaimed hp
  | webhookFailed eventId eventType err => exact routine_webhookFailed hp

theorem trail_resumeTask {t : Task} {a : Answer} {o : Done} (hp : t.Bound)
    (h : resumeTask env now w t a = some o) : Routine env.crypto w t.event? o.world o.next := by
  unfold resumeTask at h
  split at h
  · obtain rfl := Option.some.inj h
    exact routine_afterReconcile trails_reconcileFetched hp (Or.inr rfl)
  · obtain rfl := Option.some.inj h
    exact routine_afterReconcile trails_refundAnomalyAnswered hp (Or.inr rfl)
  · obtain rfl := Option.some.inj h
    exact routine_refundAnswered
  · obtain rfl := Option.some.inj h
    exact routine_sweep
  · obtain rfl := Option.some.inj h
    exact routine_webhookFailed hp
  · cases h

end

/-- The specification of the trail. -/
def trailSpec (env : Env) : Spec (facilitator env) where
  task := fun now w c w' next => Parsed c → TrailStep env now w c w' next
  job := fun _ w _ _ w' _ => Trails env.crypto w.db w'.db
  request := fun _ _ _ _ hp => trail_handleRequest hp
  runTask := fun _ _ _ _ hp => .routine (trail_runTask hp)
  resumeTask := fun _ _ _ _ _ h hp => .routine (trail_resumeTask hp h)
  startJob := fun _ _ _ _ => trails_startRun
  runJob := fun _ _ _ _ _ => trails_runStep
  resumeJob := fun _ _ _ _ _ _ h => trails_resumeRun h

/-- The bodies of requests are what `JSON.parse` returns. -/
def ParsedBodies (_ : Sys) (a : Act) : Prop :=
  ∀ settlementId payload signatureHex seed,
    a = .request (.postDecisions settlementId payload signatureHex) seed → KeysOnce (.obj payload)

end Hundi
