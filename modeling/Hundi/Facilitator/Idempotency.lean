/-
  Idempotency keys.

  `KeyStep` is a second specification of the program: what its moves do to `idempotency_keys`.  Only
  three of them touch the table: the claim of a key, the completion in the transaction of the claim,
  and the sweep of stale locks.  A segment that has claimed its key finds it incomplete
  (`keyOutline`), so a completed row is never written again (`completed_kept`): its key creates
  nothing more, and replays its response.

  A lock is not for ever: `key_reused_after_sweep` is the key of a crashed request, swept, and
  claimed again with another body.

  The typed bodies have no `-0`, which the schema takes for an integer and `canonicalJson` refuses.
  `postSettlementsValue` is the route on any body; one without canonical bytes is answered 500 before
  its key is looked at (`postSettlementsValue_refused`).
-/
import Hundi.Core.Unchecked
import Hundi.Facilitator.Invariants

namespace Hundi

open Js EventLoop

/-! ## Who leaves the keys alone -/

/-- A transaction that leaves the idempotency keys alone. -/
def KeepsKeys (db : Db) (x : Except Exn Db) : Prop :=
  ∀ db', x = .ok db' → db'.idempotencyKeys = db.idempotencyKeys

/-- The next control point is not one with a claimed key. -/
def NotClaimed (next : Next Task) : Prop :=
  ∀ t, next.task? = some t → ∀ key intent cart, t ≠ .settlementClaimed key intent cart

theorem notClaimed_done : NotClaimed .done := by
  intro t h
  cases h

theorem notClaimed_cpu {t : Task} (h : ∀ key intent cart, t ≠ .settlementClaimed key intent cart) :
    NotClaimed (.cpu t) := by
  intro u hu
  obtain rfl := Option.some.inj hu
  exact h

theorem notClaimed_park {t : Task} (h : ∀ key intent cart, t ≠ .settlementClaimed key intent cart) :
    NotClaimed (.park t) := by
  intro u hu
  obtain rfl := Option.some.inj hu
  exact h

/-- A move of a task that leaves the keys alone. -/
def KeysSame (w : World) (o : Done) : Prop :=
  o.world.db.idempotencyKeys = w.db.idempotencyKeys ∧ NotClaimed o.next

theorem keepsKeys_appendLedger {crypto : Crypto} {now : Int} {db : Db} {input : AppendLedgerInput} :
    KeepsKeys db (appendLedger crypto now db input) := by
  intro db' h
  obtain ⟨row, -, rfl⟩ := appendLedger_ok h
  rfl

theorem keysSame_respond {w : World} : KeysSame w (respond w) := ⟨rfl, notClaimed_done⟩

theorem keysSame_respondWith {w : World} {x : Except Exn Db} (h : KeepsKeys w.db x) :
    KeysSame w (respondWith w x) := by
  cases x with
  | error e => exact keysSame_respond
  | ok db => exact ⟨h db rfl, notClaimed_done⟩

theorem keysSame_handle {env : Env} {now : Int} {seed : JsString} {w : World} {r : Request}
    (hr : ∀ key intent cart, r ≠ .postSettlements key intent cart) :
    KeysSame w (handleValid env now seed w r) := by
  cases r with
  | postCeremonyTokens dashboardToken =>
    simp only [handleValid, postCeremonyTokens]
    split
    · exact keysSame_respond
    split
    · exact ⟨rfl, notClaimed_done⟩
    · exact keysSame_respond
  | postAdminMerchants adminToken merchantId name catalogUrl catalogPrices =>
    simp only [handleValid, postAdminMerchants]
    split
    · exact keysSame_respond
    split
    · exact ⟨rfl, notClaimed_done⟩
    · exact keysSame_respond
  | postStoresOnboard merchantId name url catalogPrices =>
    refine ⟨?_, notClaimed_done⟩
    simp only [handleValid, upsertMerchant]
    split
    · rfl
    split
    · rfl
    · rfl
  | postMandates intent credential ceremonyToken =>
    refine keysSame_respondWith fun db' h => ?_
    obtain ⟨l, row, tokens, -, -, -, hf⟩ := registerMandate_ok h
    rw [hf]
  | postSettlements key intent cart => exact absurd rfl (hr key intent cart)
  | postDecisions settlementId payload signatureHex =>
    refine keysSame_respondWith fun db' h => ?_
    split at h
    · cases h
    split at h
    · cases h
    rw [bind_eq_ok] at h
    obtain ⟨bytes, -, h⟩ := h
    rw [bind_eq_ok] at h
    obtain ⟨valid, -, h⟩ := h
    split at h
    · cases h
    · exact keepsKeys_appendLedger db' h
  | postApprovals settlementId mandateCartHashHex decision sig =>
    simp only [handleValid, postApprovals]
    split
    · exact keysSame_respond
    · rename_i db h
      obtain ⟨l, row, mandateRow, approval, rejectReason, -, -, -, -, -, -, -, hf⟩ := decideApproval_ok h
      exact ⟨by rw [World.commit_db, hf], notClaimed_done⟩
  | postRevoke mandateId sig =>
    refine keysSame_respondWith fun db' h => ?_
    rcases revokeMandate_ok h with rfl | ⟨l, -, -, hf⟩
    · rfl
    · rw [hf]
  | postRefund settlementId dashboardToken =>
    simp only [handleValid, postRefund]
    split
    · exact keysSame_respond
    split
    · exact keysSame_respond
    split
    · exact ⟨rfl, notClaimed_done⟩
    split
    · exact keysSame_respond
    split
    · exact keysSame_respond
    split
    · exact ⟨rfl, notClaimed_park fun _ _ _ h => by cases h⟩
    · exact keysSame_respond
  | postWebhook rawBody signatureHeader eventIdHeader =>
    simp only [handleValid, postWebhook]
    split
    · exact keysSame_respondWith keepsKeys_appendLedger
    split
    · exact keysSame_respondWith keepsKeys_appendLedger
    split
    · exact keysSame_respondWith keepsKeys_appendLedger
    · exact keysSame_respondWith keepsKeys_appendLedger
    split
    · exact keysSame_respond
    split
    · exact keysSame_respond
    · exact keysSame_respond
    · rename_i db h
      refine ⟨?_, notClaimed_cpu fun _ _ _ h => by cases h⟩
      unfold claimWebhookEvent at h
      split at h
      · cases h
      split at h
      · cases h
      rw [bind_eq_ok] at h
      obtain ⟨db₁, happend, h⟩ := h
      obtain rfl := Option.some.inj (Except.ok.inj h)
      have hsame := keepsKeys_appendLedger db₁ happend
      exact hsame
  | sweepTick => exact ⟨rfl, notClaimed_cpu fun _ _ _ h => by cases h⟩

/-- The next stretch of a reconcile call holds no key. -/
theorem keysSame_afterReconcile {w : World} {caller : Caller} {o : World × ReconcileNext}
    (h : o.1.db.idempotencyKeys = w.db.idempotencyKeys) : KeysSame w (afterReconcile caller o) := by
  obtain ⟨w', next⟩ := o
  cases next with
  | awaiting p => exact ⟨h, notClaimed_park fun _ _ _ h => nomatch h⟩
  | running p => exact ⟨h, notClaimed_cpu fun _ _ _ h => nomatch h⟩
  | returned =>
    cases caller with
    | webhook eventId eventType => exact ⟨h, notClaimed_done⟩
    | sweep rest => exact ⟨h, notClaimed_park fun _ _ _ h => nomatch h⟩
  | threw e =>
    cases caller with
    | webhook eventId eventType => exact ⟨h, notClaimed_park fun _ _ _ h => nomatch h⟩
    | sweep rest => exact ⟨h, notClaimed_done⟩

theorem keys_refundAnomalyCapture (w : World) (settlementId attemptId paymentId : JsString) :
    (refundAnomalyCapture w settlementId attemptId paymentId).1.db.idempotencyKeys =
      w.db.idempotencyKeys := by
  unfold refundAnomalyCapture
  split <;> rfl

theorem keys_flagRefundError (crypto : Crypto) (now : Int) (w : World)
    (settlementId attemptId paymentId : JsString) (err : Exn) :
    (flagRefundError crypto now w settlementId attemptId paymentId err).1.db.idempotencyKeys =
      w.db.idempotencyKeys := by
  unfold flagRefundError
  split
  · rename_i db h
    exact keepsKeys_appendLedger db h
  · rfl

theorem keys_refundAnomalyAnswered (crypto : Crypto) (now : Int) (w : World)
    (settlementId attemptId paymentId : JsString) (refund : Except Exn JsString) :
    (refundAnomalyAnswered crypto now w settlementId attemptId paymentId refund).1.db.idempotencyKeys =
      w.db.idempotencyKeys := by
  unfold refundAnomalyAnswered
  cases refund with
  | error err => exact keys_flagRefundError ..
  | ok refundId =>
    simp only
    split
    · rename_i db h
      exact keepsKeys_appendLedger db h
    · exact keys_flagRefundError ..

theorem keepsKeys_failAttempt {crypto : Crypto} {now : Int} {db : Db}
    {attemptId settlementId reason : JsString} {src : AttemptState} :
    KeepsKeys db (failAttempt crypto now db attemptId settlementId src reason) := by
  intro db' h
  rcases failAttempt_ok h with rfl | ⟨l, row, -, -, -, hf⟩
  · rfl
  · rw [hf]

theorem keys_applyCapture {crypto : Crypto} {now : Int} {db db' : Db} {attemptId settlementId : JsString}
    {src : AttemptState} {orderId : Option JsString} {paymentId : JsString} {captured : Bool}
    (h : applyCapture crypto now db attemptId src settlementId orderId paymentId =
      .ok (db', captured)) : db'.idempotencyKeys = db.idempotencyKeys := by
  cases captured with
  | true =>
    obtain ⟨attempt, row, lrow, -, -, -, -, -, hf⟩ := applyCapture_true h
    rw [hf]
  | false =>
    rcases applyCapture_false h with ⟨rfl, -⟩ | ⟨attempt, -, -, -, hf⟩
    · rfl
    · rw [hf]

theorem keys_reconcileFetched (crypto : Crypto) (now : Int) (w : World) (attempt : AttemptRow)
    (orderId : JsString) (answer : Except Exn (List RazorpayPayment)) :
    (reconcileFetched crypto now w attempt orderId answer).1.db.idempotencyKeys =
      w.db.idempotencyKeys := by
  unfold reconcileFetched
  cases answer with
  | error err =>
    simp only
    split
    · rename_i db h
      exact keepsKeys_appendLedger db h
    · rfl
  | ok payments =>
    simp only
    split
    · rfl
    split
    · unfold reconcileCapturedPayment
      split
      · rfl
      simp only
      split
      · exact keys_refundAnomalyCapture ..
      split
      · rfl
      · rename_i db h
        exact keys_applyCapture h
      · rename_i db h
        exact keys_applyCapture h
    split
    · unfold failAttemptIfLive
      split
      · rfl
      split
      · rename_i db h
        exact keepsKeys_failAttempt db h
      · rfl
    · rfl

/-! ## The sweep and the runs -/

theorem keepsKeys_abandon {crypto : Crypto} {now : Int} {db : Db} {id reason : JsString}
    {src : SettlementState} {eventType : LedgerEventType} :
    KeepsKeys db (abandonSettlement crypto now db id src eventType reason) := by
  intro db' h
  rcases abandonSettlement_ok h with ⟨rfl, -⟩ | ⟨l, row, -, -, -, hf⟩
  · rfl
  · rw [hf]

/-- A rule of the sweep that is not about the locks. -/
def SweepKeepsKeys (w : World) (o : World × SweepNext × List Kick) : Prop :=
  o.1.db.idempotencyKeys = w.db.idempotencyKeys

theorem sweepKeeps_commit {w : World} {kicks : List Kick} {p : SweepPoint} {x : Except Exn Db}
    (h : KeepsKeys w.db x) : SweepKeepsKeys w (sweepCommit w kicks p x) := by
  cases x with
  | error e => rfl
  | ok db => exact h db rfl

theorem notClaimed_afterSweep (o : World × SweepNext × List Kick) :
    NotClaimed (afterSweep o).next ∧ (afterSweep o).world = o.1 := by
  obtain ⟨w, next, kicks⟩ := o
  cases next with
  | «continue» p => exact ⟨notClaimed_cpu fun _ _ _ h => (nomatch h), rfl⟩
  | yield p => exact ⟨notClaimed_park fun _ _ _ h => (nomatch h), rfl⟩
  | reconcile point rest => exact ⟨notClaimed_park fun _ _ _ h => (nomatch h), rfl⟩
  | done => exact ⟨notClaimed_done, rfl⟩

/-- The stale locks go, and nothing else does. -/
def staleLock (env : Env) (now : Int) (row : IdempotencyKeyRow) : Bool :=
  row.responseStatus.isNone && before row.lockedAt (secondsAgo now env.ttls.idempotencyLockStaleMs)

theorem keys_sweepStep (env : Env) (now : Int) (w : World) (p : SweepPoint) :
    SweepKeepsKeys w (sweepStep env now w p) ∨
    (sweepStep env now w p).1.db.idempotencyKeys = w.db.idempotencyKeys.delete (staleLock env now) := by
  cases p with
  | staleAttempts rest =>
    left
    cases rest with
    | nil => rfl
    | cons attempt rest =>
      simp only [sweepStep, sweepStaleAttempt]
      split
      · split
        · rfl
        · rfl
      split
      · rfl
      · exact sweepKeeps_commit keepsKeys_failAttempt
  | staleAttemptsSwept => exact Or.inl rfl
  | transientSettlements rest =>
    left
    cases rest with
    | nil => rfl
    | cons row rest => exact sweepKeeps_commit keepsKeys_abandon
  | staleVerified rest =>
    left
    cases rest with
    | nil => rfl
    | cons id rest => exact sweepKeeps_commit keepsKeys_abandon
  | expiredApprovals since rest =>
    left
    cases rest with
    | nil => rfl
    | cons row rest =>
      simp only [sweepStep, sweepExpiredApproval]
      split
      · rfl
      split
      · rfl
      · exact sweepKeeps_commit keepsKeys_abandon
  | staleApproved since rest =>
    left
    cases rest with
    | nil => rfl
    | cons row rest =>
      simp only [sweepStep, sweepApproved]
      split
      · exact sweepKeeps_commit keepsKeys_abandon
      split
      · rfl
      · rename_i db bumped h
        show db.idempotencyKeys = _
        unfold bumpKickCount at h
        simp only at h
        split at h
        · obtain ⟨rfl, -⟩ := Prod.mk.inj (Except.ok.inj h)
          rfl
        · cases h
  | stuckSettling rest =>
    left
    cases rest with
    | nil => rfl
    | cons id rest =>
      simp only [sweepStep, sweepSettling]
      split
      · rfl
      split
      · rfl
      · exact sweepKeeps_commit keepsKeys_appendLedger
  | staleIdempotencyLocks => exact Or.inr rfl

theorem keys_reverify {crypto : Crypto} {db db' : Db} {settlementId : JsString} {now : Int}
    {out : ReverifyOutcome}
    (h : reverifyAndEnterSettling crypto db settlementId now = .ok (db', out)) :
    db'.idempotencyKeys = db.idempotencyKeys := by
  rcases reverifyAndEnterSettling_ok h with ⟨rfl, -⟩ | ⟨l, row, reason, -, -, -, -, hf, -⟩ |
    ⟨row, mandateRow, ctx, -, -, -, hf, -⟩
  · rfl
  · rw [hf]
  · rw [hf]

theorem keys_startRun (env : Env) (now : Int) (w : World) (k : Kick) :
    (startRun env now w k).1.db.idempotencyKeys = w.db.idempotencyKeys := by
  unfold startRun
  split
  · unfold runOnce
    split
    · rfl
    · rename_i db settlement h
      exact keys_reverify h
    · rename_i db out hne h
      exact keys_reverify h
  · unfold resumeSettlingRun
    split
    · rfl
    split
    · rfl
    split
    · rfl
    · rfl

theorem keys_failAndRetry (env : Env) (now : Int) (w : World) (settlement : SettlementRow)
    (attemptNum : Nat) (attemptId orderId : JsString) (result : SettleViaCheckoutResult) :
    (failAndRetry env now w settlement attemptNum attemptId orderId result).1.db.idempotencyKeys =
      w.db.idempotencyKeys := by
  unfold failAndRetry
  split
  · rfl
  · rename_i db h
    obtain ⟨l, -, -, hf⟩ := checkoutFailed_ok h
    have hkeys := congrArg Db.idempotencyKeys hf
    exact hkeys

theorem keys_runStep (env : Env) (now : Int) (uuid : JsString) (w : World) (p : RunPoint) :
    (runStep env now uuid w p).1.db.idempotencyKeys = w.db.idempotencyKeys := by
  cases p with
  | attemptLoop settlement attemptNum lastAttemptId =>
    simp only [runStep]
    split
    · split
      · rfl
      · rename_i db h
        obtain ⟨l, -, -, hf⟩ := initiateAttempt_ok h
        have hkeys := congrArg Db.idempotencyKeys hf
        exact hkeys
    · rfl
  | captureLost settlement attemptNum attemptId orderId result => exact keys_failAndRetry ..
  | _ => rfl

theorem keys_resumeRun {env : Env} {now : Int} {w : World} {p : RunPoint} {a : Answer}
    {o : World × Next RunPoint} (h : resumeRun env now w p a = some o) :
    o.1.db.idempotencyKeys = w.db.idempotencyKeys := by
  unfold resumeRun at h
  split at h
  · obtain rfl := Option.some.inj h
    unfold orderAnswered
    split
    · split
      · rfl
      · rename_i db h
        obtain ⟨l, row, -, -, -, hf⟩ := orderCreateFailed_ok h
        have hkeys := congrArg Db.idempotencyKeys hf
        exact hkeys
    · split
      · rfl
      · rename_i db h
        have hkeys := congrArg Db.idempotencyKeys (setOrderId_ok h).2
        exact hkeys
  · obtain rfl := Option.some.inj h
    unfold checkoutAnswered
    split
    · rfl
    split
    · split
      · rfl
      · rename_i db h
        exact keys_applyCapture h
      · rename_i db h
        exact keys_applyCapture h
    · exact keys_failAndRetry ..
  · obtain rfl := Option.some.inj h
    unfold linkAnswered
    split
    · split
      · rfl
      · rename_i db h
        exact keepsKeys_appendLedger db h
    · split
      · rfl
      · rename_i db h
        obtain ⟨l, -, -, hf⟩ := issuePaymentLink_ok h
        have hkeys := congrArg Db.idempotencyKeys hf
        exact hkeys
  · exact nomatch h

/-! ## The specification of the keys -/

/-- The hash a request's key is claimed with. -/
def requestHash (env : Env) (intent : IntentMandate) (cart : CartMandate) : Except Exn JsString := do
  let bytes ← canonicalJson (createSettlementBodyValue intent cart)
  return env.crypto.sha256Hex bytes

/-- The key is claimed for the body and not completed. -/
def Locked (env : Env) (w : World) (key : JsString) (intent : IntentMandate) (cart : CartMandate) :
    Prop :=
  ∃ row ∈ w.db.idempotencyKeys.rows, row.key = key ∧ row.responseStatus = none ∧
    requestHash env intent cart = .ok row.requestHashHex

/-- The key is completed for the body, with a response. -/
def CompletedFor (env : Env) (w : World) (key : JsString) (intent : IntentMandate)
    (cart : CartMandate) (status : Nat) (body : CreateSettlementBody) : Prop :=
  ∃ row ∈ w.db.idempotencyKeys.rows, row.key = key ∧ row.responseStatus = some status ∧
    row.responseBody = some body ∧ requestHash env intent cart = .ok row.requestHashHex

/-- What a completion writes. -/
def IdempotencyKeyRow.complete (row : IdempotencyKeyRow) (settlementId : Option JsString)
    (status : Nat) (body : CreateSettlementBody) : IdempotencyKeyRow :=
  { row with settlementId := settlementId, responseStatus := some status, responseBody := some body }

/-- What a move of a task does to the keys. -/
inductive KeyStep (env : Env) (now : Int) (w : World) (c : TaskWhy) (w' : World)
    (next : Next Task) : Prop where
  | same (hkeys : w'.db.idempotencyKeys = w.db.idempotencyKeys) (hn : NotClaimed next)
  | claimed (key hash : JsString) (intent : IntentMandate) (cart : CartMandate) (hkey : key ≠ [])
      (hhash : requestHash env intent cart = .ok hash)
      (hkeys : w.db.idempotencyKeys.insert? ⟨key, hash, none, some now, none, none, now⟩ =
        some w'.db.idempotencyKeys)
      (hn : next = .cpu (.settlementClaimed key intent cart))
  | completed (key : JsString) (intent : IntentMandate) (cart : CartMandate)
      (settlementId : Option JsString) (status : Nat) (body : CreateSettlementBody)
      (hc : c = .running (.settlementClaimed key intent cart))
      (hkeys : w.db.idempotencyKeys.update? (fun row => row.key == key)
        (·.complete settlementId status body) = some w'.db.idempotencyKeys)
      (hn : NotClaimed next)
  | swept (hkeys : w'.db.idempotencyKeys = w.db.idempotencyKeys.delete (staleLock env now))
      (hn : NotClaimed next)

theorem keyStep_of_same {env : Env} {now : Int} {w : World} {c : TaskWhy} {o : Done}
    (h : KeysSame w o) : KeyStep env now w c o.world o.next := .same h.1 h.2

theorem keyStep_postSettlements {env : Env} {now : Int} {w : World} {c : TaskWhy}
    {idempotencyKey : Option JsString} {intent : IntentMandate} {cart : CartMandate} :
    KeyStep env now w c (postSettlements env now w idempotencyKey intent cart).world
      (postSettlements env now w idempotencyKey intent cart).next := by
  unfold postSettlements
  split
  · exact keyStep_of_same keysSame_respond
  · exact keyStep_of_same keysSame_respond
  rename_i ch rest
  simp only
  split
  · exact keyStep_of_same keysSame_respond
  rename_i bytes hbytes
  have hhash : requestHash env intent cart = .ok (env.crypto.sha256Hex bytes) := by
    rw [requestHash, hbytes]
    rfl
  split
  · exact keyStep_of_same keysSame_respond
  · rename_i db hclaim
    unfold claimIdempotencyKey at hclaim
    split at hclaim
    · rename_i keys hins
      obtain ⟨rfl, -⟩ := Prod.mk.inj (Except.ok.inj hclaim)
      exact .claimed (ch :: rest) _ intent cart nofun hhash hins rfl
    split at hclaim
    · exact nomatch hclaim
    split at hclaim
    · exact nomatch hclaim
    split at hclaim
    · exact nomatch hclaim
    · exact nomatch hclaim
  · exact keyStep_of_same ⟨rfl, notClaimed_done⟩
  · exact keyStep_of_same ⟨rfl, notClaimed_done⟩
  · exact keyStep_of_same ⟨rfl, notClaimed_done⟩

/-- The transaction of a claimed key completes it. -/
theorem settlementTransaction_keys {env : Env} {now : Int} {db db' : Db} {settlementId key : JsString}
    {intent : IntentMandate} {cart : CartMandate} {out : CreateSettlementOutcome}
    (h : settlementTransaction env now db settlementId key intent cart = .ok (db', out)) :
    db.idempotencyKeys.update? (fun row => row.key == key)
      (·.complete out.body.settlementId? out.status out.body) = some db'.idempotencyKeys := by
  unfold settlementTransaction at h
  rw [bind_eq_ok] at h
  obtain ⟨⟨db₁, result⟩, h₁, h⟩ := h
  simp only at h
  rw [bind_eq_ok] at h
  obtain ⟨db₂, h₂, h⟩ := h
  obtain ⟨rfl, rfl⟩ := Prod.mk.inj (Except.ok.inj h)
  have hkeys : db₁.idempotencyKeys = db.idempotencyKeys := by
    rcases createSettlement_ok h₁ with ⟨rfl, -⟩ | ⟨row, lrow, reason, -, -, -, hf, -⟩
    · rfl
    · rw [hf]
  unfold completeIdempotencyKey at h₂
  split at h₂
  · rename_i keys hupdate
    obtain rfl := Except.ok.inj h₂
    rw [← hkeys]
    exact hupdate
  · exact nomatch h₂

theorem keyStep_settlementClaimed {env : Env} {now : Int} {w : World} {settlementId key : JsString}
    {intent : IntentMandate} {cart : CartMandate} :
    KeyStep env now w (.running (.settlementClaimed key intent cart))
      (settlementClaimed env now settlementId w key intent cart).world
      (settlementClaimed env now settlementId w key intent cart).next := by
  unfold settlementClaimed
  cases h : settlementTransaction env now w.db settlementId key intent cart with
  | error e => exact keyStep_of_same keysSame_respond
  | ok r =>
    obtain ⟨db, out⟩ := r
    have hupdate := settlementTransaction_keys h
    refine .completed key intent cart _ out.status out.body rfl (hupdate.trans ?_) notClaimed_done
    simp only
    split <;> rfl

theorem keyStep_handleRequest {env : Env} {now : Int} {seed : JsString} {w : World} {r : Request} :
    KeyStep env now w (.request r) (handleRequest env now seed w r).world
      (handleRequest env now seed w r).next := by
  unfold handleRequest
  split
  case isFalse => exact keyStep_of_same keysSame_respond
  cases r with
  | postSettlements idempotencyKey intent cart => exact keyStep_postSettlements
  | _ => exact keyStep_of_same (keysSame_handle fun _ _ _ h => nomatch h)

theorem keyStep_sweep {env : Env} {now : Int} {w : World} {c : TaskWhy} {p : SweepPoint} :
    KeyStep env now w c (afterSweep (sweepStep env now w p)).world
      (afterSweep (sweepStep env now w p)).next := by
  obtain ⟨hn, hw⟩ := notClaimed_afterSweep (sweepStep env now w p)
  rcases keys_sweepStep env now w p with hkeys | hkeys
  · exact .same (by rw [hw]; exact hkeys) hn
  · exact .swept (by rw [hw]; exact hkeys) hn

theorem keyStep_runTask {env : Env} {now : Int} {seed : JsString} {w : World} {t : Task} :
    KeyStep env now w (.running t) (runTask env now seed w t).world
      (runTask env now seed w t).next := by
  cases t with
  | reconcile caller point =>
    cases point with
    | lostRace attempt paymentId =>
      exact keyStep_of_same (keysSame_afterReconcile (keys_refundAnomalyCapture ..))
    | fetchOrderPayments attempt orderId => exact .same rfl (notClaimed_park fun _ _ _ h => nomatch h)
    | refundPayment settlementId attemptId paymentId =>
      exact .same rfl (notClaimed_park fun _ _ _ h => nomatch h)
  | sweep point => exact keyStep_sweep
  | settlementClaimed key intent cart => exact keyStep_settlementClaimed
  | refund settlementId attemptId paymentId amountPaise =>
    exact .same rfl (notClaimed_park fun _ _ _ h => nomatch h)
  | webhook eventId eventType body =>
    refine keyStep_of_same ?_
    simp only [runTask, webhookClaimed]
    split
    · split
      · exact keysSame_respondWith keepsKeys_appendLedger
      split
      · exact keysSame_afterReconcile rfl
      · exact keysSame_respond
      · exact ⟨rfl, notClaimed_park fun _ _ _ h => nomatch h⟩
    · exact keysSame_respond
  | webhookFailed eventId eventType err =>
    exact keyStep_of_same (keysSame_respondWith keepsKeys_appendLedger)

theorem keyStep_resumeTask {env : Env} {now : Int} {w : World} {t : Task} {a : Answer} {o : Done}
    (h : resumeTask env now w t a = some o) :
    KeyStep env now w (.resumed t a) o.world o.next := by
  unfold resumeTask at h
  split at h
  · obtain rfl := Option.some.inj h
    exact keyStep_of_same (keysSame_afterReconcile (keys_reconcileFetched ..))
  · obtain rfl := Option.some.inj h
    exact keyStep_of_same (keysSame_afterReconcile (keys_refundAnomalyAnswered ..))
  · obtain rfl := Option.some.inj h
    refine keyStep_of_same ?_
    unfold refundAnswered
    split
    · exact keysSame_respond
    · simp only
      split
      · exact ⟨rfl, notClaimed_done⟩
      · rename_i db happend
        exact ⟨keepsKeys_appendLedger db happend, notClaimed_done⟩
  · obtain rfl := Option.some.inj h
    exact keyStep_sweep
  · obtain rfl := Option.some.inj h
    exact keyStep_of_same (keysSame_respondWith keepsKeys_appendLedger)
  · exact nomatch h

/-- **Nothing else touches the keys.** -/
def keySpec (env : Env) : Spec (facilitator env) where
  task := KeyStep env
  job := fun _ w _ _ w' _ => w'.db.idempotencyKeys = w.db.idempotencyKeys
  request := fun _ _ _ _ => keyStep_handleRequest
  runTask := fun _ _ _ _ => keyStep_runTask
  resumeTask := fun _ _ _ _ _ h => keyStep_resumeTask h
  startJob := fun _ _ _ _ => keys_startRun ..
  runJob := fun _ _ _ _ _ => keys_runStep ..
  resumeJob := fun _ _ _ _ _ _ h => keys_resumeRun h

/-! ## Completed keys stay -/

theorem IdempotencyKeyRow.clash_comm (a b : IdempotencyKeyRow) : a.clash b = b.clash a := by
  simp only [IdempotencyKeyRow.clash, Bool.beq_comm]

/-- A key names one row. -/
theorem idempotencyKey_eq {t : Table IdempotencyKeyRow IdempotencyKeyRow.clash}
    {a b : IdempotencyKeyRow} (ha : a ∈ t.rows) (hb : b ∈ t.rows) (h : a.key = b.key) : a = b :=
  t.eq_of_clash IdempotencyKeyRow.clash_comm ha hb (by simp [IdempotencyKeyRow.clash, h])

/-- A segment that is past its claim finds the key locked. -/
def ClaimHeld (env : Env) (w : World) (next : Next Task) : Prop :=
  ∀ key intent cart, next = .cpu (.settlementClaimed key intent cart) → Locked env w key intent cart

theorem claimHeld_notClaimed {env : Env} {w : World} {next : Next Task} (h : NotClaimed next) :
    ClaimHeld env w next := by
  rintro key intent cart rfl
  exact absurd rfl (h _ rfl key intent cart)

/-- No stored key is empty. -/
def KeysNonEmpty (w : World) : Prop := ∀ row ∈ w.db.idempotencyKeys.rows, row.key ≠ []

theorem KeyStep.holds {env : Env} {now : Int} {w w' : World} {c : TaskWhy} {next : Next Task}
    (h : KeyStep env now w c w' next) (hw : KeysNonEmpty w) :
    KeysNonEmpty w' ∧ ClaimHeld env w' next := by
  cases h with
  | same hkeys hn => exact ⟨by rw [KeysNonEmpty, hkeys]; exact hw, claimHeld_notClaimed hn⟩
  | claimed key hash intent cart hkey hhash hkeys hn =>
    constructor
    · intro row hrow
      rcases (Table.mem_insert? hkeys).mp hrow with hrow | rfl
      · exact hw row hrow
      · exact hkey
    · intro key' intent' cart' hnext
      obtain ⟨rfl, rfl, rfl⟩ := Task.settlementClaimed.inj (Next.cpu.inj (hn.symm.trans hnext))
      exact ⟨_, (Table.mem_insert? hkeys).mpr (Or.inr rfl), rfl, rfl, hhash⟩
  | completed key intent cart settlementId status body hc hkeys hn =>
    refine ⟨?_, claimHeld_notClaimed hn⟩
    intro row hrow
    rcases (Table.mem_update? hkeys).mp hrow with ⟨row₀, hrow₀, -, rfl⟩ | ⟨hrow, -⟩
    · exact hw row₀ hrow₀
    · exact hw row hrow
  | swept hkeys hn =>
    refine ⟨?_, claimHeld_notClaimed hn⟩
    intro row hrow
    rw [hkeys, Table.mem_delete] at hrow
    exact hw row hrow.1

def keyOutline (env : Env) : Outline (keySpec env) anyStep where
  inv := KeysNonEmpty
  task := ClaimHeld env
  job := fun _ _ _ => True
  taskRel := fun _ _ => True
  jobRel := fun _ _ => True
  task_done := fun _ => claimHeld_notClaimed notClaimed_done
  job_done := fun _ _ => trivial
  taskStep := fun _ _ _ _ _ hinv _ _ _ h => ⟨(KeyStep.holds h hinv).1, trivial, (KeyStep.holds h hinv).2⟩
  jobStep := by
    intro s a k c w' next hinv _ _ _ h
    have hkeys : w'.db.idempotencyKeys = s.world.db.idempotencyKeys := h
    exact ⟨by rw [KeysNonEmpty, hkeys]; exact hinv, trivial, trivial⟩
  task_stable := fun _ _ _ _ _ _ _ _ _ hnext => nomatch hnext
  job_stable := fun _ _ _ _ _ _ _ => trivial

theorem Reachable.keyOutline {env : Env} {s : Sys} (h : Reachable env s) :
    (keyOutline env).Holds s :=
  (Hundi.keyOutline env).holds (fun _ h => absurd h List.not_mem_nil) h

/-- A step leaves every completed row as it is. -/
theorem completed_kept_step {env : Env} {s s' : Sys} {a : Act} (hs : (keyOutline env).Holds s)
    (h : sysStep env s a = some s') {row : IdempotencyKeyRow}
    (hrow : row ∈ s.world.db.idempotencyKeys.rows) {status : Nat}
    (hstatus : row.responseStatus = some status) : row ∈ s'.world.db.idempotencyKeys.rows := by
  cases (keySpec env).moved h with
  | stays hstay =>
    rw [hstay]
    exact hrow
  | job k c next hmove hstep =>
    have hkeys : s'.world.db.idempotencyKeys = s.world.db.idempotencyKeys := hstep
    rw [hkeys]
    exact hrow
  | task c next hmove hstep =>
    have hheld : ClaimHeld env s.world c.before := hs.before_task hmove
    cases (show KeyStep env s.clock s.world c s'.world next from hstep) with
    | same hkeys hn =>
      rw [hkeys]
      exact hrow
    | claimed key hash intent cart hkey hhash hkeys hn =>
      exact (Table.mem_insert? hkeys).mpr (Or.inl hrow)
    | completed key intent cart settlementId status' body hc hkeys hn =>
      -- the completion writes the row of a locked key, which this one is not
      refine (Table.mem_update? hkeys).mpr (Or.inr ⟨hrow, beq_eq_false_iff_ne.mpr fun hkey => ?_⟩)
      obtain ⟨row₀, hrow₀, hkey₀, hnone, -⟩ := hheld key intent cart (by rw [hc]; rfl)
      rw [idempotencyKey_eq hrow hrow₀ (hkey.trans hkey₀.symm), hnone] at hstatus
      exact nomatch hstatus
    | swept hkeys hn =>
      rw [hkeys, Table.mem_delete]
      refine ⟨hrow, ?_⟩
      rw [staleLock, hstatus]
      rfl

/-- **A completed key stays completed, with the response it has.** -/
theorem CompletedFor.kept {env : Env} {s t : Sys} {key : JsString} {intent : IntentMandate}
    {cart : CartMandate} {status : Nat} {body : CreateSettlementBody} (hs : (keyOutline env).Holds s)
    (h : CompletedFor env s.world key intent cart status body)
    (r : Run (facilitator env) anyStep s t) : CompletedFor env t.world key intent cart status body := by
  obtain ⟨row, hrow, hkey, hstatus, hrest⟩ := h
  suffices hall : (keyOutline env).Holds t ∧ row ∈ t.world.db.idempotencyKeys.rows from
    ⟨row, hall.2, hkey, hstatus, hrest⟩
  induction r with
  | refl => exact ⟨hs, hrow⟩
  | tail _ hok hstep ih =>
    exact ⟨(keyOutline env).holds_step ih.1 hok hstep, completed_kept_step ih.1 hstep ih.2 hstatus⟩

/-! ## Bodies without canonical bytes -/

/-- POST /settlements on a body as it was parsed, up to the claim of its key. -/
def postSettlementsValue (env : Env) (now : Int) (w : World) (idempotencyKey : Option JsString)
    (body : JsValue) : Done :=
  match idempotencyKey with
  | none => respond w
  | some [] => respond w
  | some (c :: rest) =>
    let key := c :: rest
    match Unchecked.canonicalJson body with
    | .error _ => respond w
    | .ok bytes =>
      match claimIdempotencyKey now w.db key (env.crypto.sha256Hex bytes) with
      | .error _ => respond w
      | .ok (db, .claimed) => ⟨w.commit db, .cpu (.settlementClaimed key
          (Unchecked.asIntent (body.prop (js "intent"))) (Unchecked.asCart (body.prop (js "cart")))), []⟩
      | .ok (_, .hash_mismatch) =>
        respond (w.emit (.settlementResponse key 409 (.error (js "KEY_REUSED"))))
      | .ok (_, .in_flight) =>
        respond (w.emit (.settlementResponse key 409 (.error (js "IN_FLIGHT"))))
      | .ok (_, .completed status body) => respond (w.emit (.settlementResponse key status body))

/-- A body without canonical bytes is refused before its key is looked at. -/
theorem postSettlementsValue_refused {env : Env} {now : Int} {w : World}
    {idempotencyKey : Option JsString} {body : JsValue} (h : body.canonical = false) :
    postSettlementsValue env now w idempotencyKey body = respond w := by
  unfold postSettlementsValue
  split
  · rfl
  · rfl
  · simp only
    cases hbytes : Unchecked.canonicalJson body with
    | error e => rfl
    | ok bytes =>
      -- it has bytes, so it is canonical
      have hcanonical := (Unchecked.returns_canonicalJson body).mp ⟨bytes, hbytes⟩
      rw [h] at hcanonical
      exact nomatch hcanonical

/-! ## Requests under a stored key -/

/-- Every accepted body of typed mandates has a hash: a number of theirs is never `-0`. -/
theorem requestHash_ok (env : Env) {intent : IntentMandate} {cart : CartMandate}
    (hintent : intentMandateSchema intent = true) (hcart : cartMandateSchema cart = true) :
    ∃ bytes, canonicalJson (createSettlementBodyValue intent cart) = .ok bytes ∧
      requestHash env intent cart = .ok (env.crypto.sha256Hex bytes) := by
  have hsafe := createSettlementBodyValue_safe hintent hcart
  refine ⟨_, canonicalJson_safe hsafe, ?_⟩
  rw [requestHash, canonicalJson_safe hsafe]
  rfl

/-- A stored key cannot be claimed again. -/
theorem claim_stored (now : Int) {db : Db} {row : IdempotencyKeyRow}
    (hrow : row ∈ db.idempotencyKeys.rows) (hash : JsString) :
    claimIdempotencyKey now db row.key hash =
      if row.requestHashHex ≠ hash then .ok (db, .hash_mismatch)
      else
        match row.responseStatus, row.responseBody with
        | some status, some body => .ok (db, .completed status body)
        | _, _ => .ok (db, .in_flight) := by
  have hfind : db.idempotencyKeys.find? (fun r => r.key == row.key) = some row :=
    Table.find?_eq_some hrow (beq_self_eq_true _) fun r hr hkey =>
      idempotencyKey_eq hr hrow (beq_iff_eq.mp hkey)
  unfold claimIdempotencyKey
  split
  · rename_i keys hins
    have hclash := (Table.insert?_eq_some hins).2 row hrow
    simp [IdempotencyKeyRow.clash] at hclash
  · generalize hfound : db.idempotencyKeys.find? (fun r => r.key == row.key) = found
    obtain rfl : found = some row := hfound.symm.trans hfind
    rfl

/-- The facilitator after an answer: nothing has changed but what the outside has seen. -/
def answered (s : Sys) (e : Event) : Sys := { s with world := s.world.emit e }

/-- A request that is answered at once. -/
theorem step_answered {env : Env} {s s' : Sys} {r : Request} {seed : JsString} {e : Event}
    (h : sysStep env s (.request r seed) = some s')
    (hanswer : handleRequest env s.clock seed s.world r = respond (s.world.emit e)) :
    s' = answered s e := by
  cases stepped_of_step (facilitator env) h with
  | request r seed hfree =>
    have hout : (facilitator env).request s.clock seed s.world r = respond (s.world.emit e) := hanswer
    rw [hout]
    rfl

/-- POST /settlements under a stored key, with an accepted body of hash `hash`. -/
theorem postSettlements_stored {env : Env} {now : Int} {w : World} {row : IdempotencyKeyRow}
    {intent : IntentMandate} {cart : CartMandate} {hash : JsString} (hw : KeysNonEmpty w)
    (hrow : row ∈ w.db.idempotencyKeys.rows) (hhash : requestHash env intent cart = .ok hash) :
    postSettlements env now w (some row.key) intent cart =
      respond (w.emit
        (if row.requestHashHex ≠ hash then
          .settlementResponse row.key 409 (.error (js "KEY_REUSED"))
        else
          match row.responseStatus, row.responseBody with
          | some status, some body => .settlementResponse row.key status body
          | _, _ => .settlementResponse row.key 409 (.error (js "IN_FLIGHT")))) := by
  have hkey := hw row hrow
  have hclaim := claim_stored now hrow hash
  rw [requestHash, bind_eq_ok] at hhash
  obtain ⟨bytes, hbytes, hsame⟩ := hhash
  have hsha : env.crypto.sha256Hex bytes = hash := Except.ok.inj hsame
  unfold postSettlements
  cases hk : row.key with
  | nil => exact absurd hk hkey
  | cons c rest =>
    rw [hk] at hclaim
    simp only [hbytes, hsha, hclaim]
    by_cases hne : row.requestHashHex ≠ hash
    · rw [if_pos hne, if_pos hne]
    · rw [if_neg hne, if_neg hne]
      cases row.responseStatus with
      | none => rfl
      | some status =>
        cases row.responseBody with
        | none => rfl
        | some body => rfl

/-! ## Exactly once -/

/-- The step creates a settlement for a request under the key. -/
def CreatesUnder (key : JsString) (s s' : Sys) : Prop :=
  ∃ intent cart, s.cpu = some (.settlementClaimed key intent cart) ∧
    ∃ r ∈ s'.world.db.settlements.rows, ∀ r₀ ∈ s.world.db.settlements.rows, r₀.id ≠ r.id

/-- The transaction of a claimed key was rolled back, or it completed the key. -/
theorem claimed_step {env : Env} {s s' : Sys} {key : JsString} {intent : IntentMandate}
    {cart : CartMandate} {seed : JsString} (hs : (keyOutline env).Holds s)
    (hcpu : s.cpu = some (.settlementClaimed key intent cart))
    (h : sysStep env s (.runTask seed) = some s') :
    s'.world = s.world ∨ ∃ status body, CompletedFor env s'.world key intent cart status body ∧
      s'.world.history.head? = some (.settlementResponse key status body) := by
  have hlocked : Locked env s.world key intent cart := hs.cpu _ hcpu key intent cart rfl
  cases stepped_of_step (facilitator env) h with
  | runTask seed t hcpu' =>
    obtain rfl := Option.some.inj (hcpu.symm.trans hcpu')
    have hrun : (facilitator env).runTask s.clock seed s.world (.settlementClaimed key intent cart) =
      settlementClaimed env s.clock seed s.world key intent cart := rfl
    rw [finish_world, hrun]
    unfold settlementClaimed
    cases htx : settlementTransaction env s.clock s.world.db seed key intent cart with
    | error e => exact Or.inl rfl
    | ok r =>
      obtain ⟨db, out⟩ := r
      right
      obtain ⟨row, hrow, hkey, hnone, hhash⟩ := hlocked
      have hupdate := settlementTransaction_keys htx
      have hmem : row.complete out.body.settlementId? out.status out.body ∈ db.idempotencyKeys.rows :=
        (Table.mem_update? hupdate).mpr (Or.inl ⟨row, hrow, beq_iff_eq.mpr hkey, rfl⟩)
      refine ⟨out.status, out.body,
        ⟨row.complete out.body.settlementId? out.status out.body, ?_, hkey, rfl, rfl, hhash⟩, rfl⟩
      simp only
      split
      · exact hmem
      · exact hmem

/-- A creation under a key leaves the key completed. -/
theorem CreatesUnder.completes {env : Env} {s s' : Sys} {a : Act} {key : JsString}
    (hs : (keyOutline env).Holds s) (h : sysStep env s a = some s') (hc : CreatesUnder key s s') :
    ∃ intent cart status body, CompletedFor env s'.world key intent cart status body := by
  obtain ⟨intent, cart, hcpu, r, hr, hnew⟩ := hc
  have hstays : s'.world ≠ s.world := by
    intro hsame
    rw [hsame] at hr
    exact hnew r hr rfl
  have hbusy : s.free = false := by
    rw [State.free, hcpu]
  have hfree : s.free = true → False := by
    intro hf
    rw [hbusy] at hf
    cases hf
  cases stepped_of_step (facilitator env) h with
  | clock now => exact absurd rfl hstays
  | crash => exact absurd rfl hstays
  | runTask seed t hcpu' =>
    rcases claimed_step hs hcpu h with hsame | ⟨status, body, hdone, -⟩
    · exact absurd hsame hstays
    · exact ⟨intent, cart, status, body, hdone⟩
  | endJob k hjob => exact absurd rfl hstays
  | runJob seed k p hjob =>
    -- a run does not move while a task has the segment
    have hidle := hs.excl k p hjob
    rw [hcpu] at hidle
    cases hidle
  | request r seed hf => exact (hfree hf).elim
  | resumeTask i a t o hf ht ho => exact (hfree hf).elim
  | startJob seed k rest hf hjob hq => exact (hfree hf).elim
  | resumeJob a k p o hf hjob ho => exact (hfree hf).elim

/-- What the key's row promises in a state of a run. -/
structure ExactlyOnce (env : Env) (key : JsString) (s : Sys) : Prop where
  /-- After a creation under the key there is no other. -/
  once : ∀ a s', sysStep env s a = some s' → CreatesUnder key s s' →
    ∀ t b t', Run (facilitator env) anyStep s' t → sysStep env t b = some t' →
      ¬ CreatesUnder key t t'
  /-- The transaction of a claimed key was rolled back, or has completed the key with the response
      it gave. -/
  completes : ∀ intent cart seed s', s.cpu = some (.settlementClaimed key intent cart) →
    sysStep env s (.runTask seed) = some s' →
    s'.world = s.world ∨ ∃ status body, CompletedFor env s'.world key intent cart status body ∧
      s'.world.history.head? = some (.settlementResponse key status body)
  /-- A completed key stays completed, with its response. -/
  kept : ∀ intent cart status body, CompletedFor env s.world key intent cart status body →
    ∀ t, Run (facilitator env) anyStep s t → CompletedFor env t.world key intent cart status body
  /-- The body of a completed key gets the stored response. -/
  replays : ∀ intent₀ cart₀ status body, CompletedFor env s.world key intent₀ cart₀ status body →
    ∀ intent cart seed s', (Request.postSettlements (some key) intent cart).valid = true →
      canonicalJson (createSettlementBodyValue intent cart) =
        canonicalJson (createSettlementBodyValue intent₀ cart₀) →
      sysStep env s (.request (.postSettlements (some key) intent cart) seed) = some s' →
      s' = answered s (.settlementResponse key status body)
  /-- While the key has a row, locked or completed, another body is refused. -/
  refuses : ∀ row ∈ s.world.db.idempotencyKeys.rows, row.key = key →
    ∀ intent₀ cart₀ bytes₀,
      canonicalJson (createSettlementBodyValue intent₀ cart₀) = .ok bytes₀ →
      row.requestHashHex = env.crypto.sha256Hex bytes₀ →
    ∀ intent cart seed s', (Request.postSettlements (some key) intent cart).valid = true →
      canonicalJson (createSettlementBodyValue intent cart) ≠ .ok bytes₀ →
      (∀ bytes, canonicalJson (createSettlementBodyValue intent cart) = .ok bytes →
        env.crypto.CollisionFree [bytes, bytes₀]) →
      sysStep env s (.request (.postSettlements (some key) intent cart) seed) = some s' →
      s' = answered s (.settlementResponse key 409 (.error (js "KEY_REUSED")))
  /-- A body without canonical bytes is answered before the key is looked at: nothing changes. -/
  refused : ∀ body : JsValue, body.canonical = false →
    postSettlementsValue env s.clock s.world (some key) body = respond s.world

/-- **Idempotency keys give exactly-once creation.** -/
theorem idempotency_key_creates_once {env : Env} {s : Sys} (h : Reachable env s) (key : JsString) :
    ExactlyOnce env key s := by
  have hs := h.keyOutline
  constructor
  · intro a s' hstep hcreates t b t' r hstep' hagain
    have hs' := (keyOutline env).holds_step hs trivial hstep
    obtain ⟨intent, cart, status, body, hdone⟩ := hcreates.completes hs hstep
    obtain ⟨row, hrow, hkey, hstatus, -⟩ := hdone.kept hs' r
    -- the second creation holds the key's lock, and the key is completed
    have ht : (keyOutline env).Holds t :=
      Reachable.keyOutline ((Run.tail h trivial hstep).trans r)
    obtain ⟨intent', cart', hcpu, -⟩ := hagain
    obtain ⟨row', hrow', hkey', hnone, -⟩ := ht.cpu _ hcpu key intent' cart' rfl
    rw [idempotencyKey_eq hrow hrow' (hkey.trans hkey'.symm), hnone] at hstatus
    exact nomatch hstatus
  · intro intent cart seed s' hcpu hstep
    exact claimed_step hs hcpu hstep
  · intro intent cart status body hdone t r
    exact hdone.kept hs r
  · intro intent₀ cart₀ status body hdone intent cart seed s' hvalid hsame hstep
    obtain ⟨row, hrow, rfl, hstatus, hbody, hhash₀⟩ := hdone
    have hhash : requestHash env intent cart = .ok row.requestHashHex := by
      rw [requestHash, hsame]
      exact hhash₀
    refine step_answered hstep ?_
    rw [handleRequest, if_pos hvalid]
    show postSettlements env s.clock s.world (some row.key) intent cart = _
    rw [postSettlements_stored hs.inv hrow hhash, if_neg (by simp), hstatus, hbody]
  · intro row hrow hkey intent₀ cart₀ bytes₀ hbytes₀ hhash₀ intent cart seed s' hvalid hne hfree hstep
    subst hkey
    have hvalid' := hvalid
    rw [Request.valid, Bool.and_eq_true] at hvalid'
    obtain ⟨bytes, hbytes, hhash⟩ := requestHash_ok env hvalid'.1 hvalid'.2
    refine step_answered hstep ?_
    rw [handleRequest, if_pos hvalid]
    show postSettlements env s.clock s.world (some row.key) intent cart = _
    rw [postSettlements_stored hs.inv hrow hhash, if_pos]
    intro hsame
    rw [hhash₀] at hsame
    have heq : bytes₀ = bytes := Crypto.sha256Hex_inj (hfree bytes hbytes) (by simp) (by simp) hsame
    rw [hbytes, heq] at hne
    exact hne rfl
  · intro body hbody
    exact postSettlementsValue_refused hbody

/-- The demo request once more: it gets the stored response, and nothing changes. -/
theorem idempotency_key_creates_once_demo : ∃ s s' : Sys, Reachable demoEnv s ∧
    sysStep demoEnv s (.request (.postSettlements (some (js "key")) demoIntent demoCart) []) = some s' ∧
    s' = answered s (.settlementResponse (js "key") 202 (.ok (js "s1") .approved none)) := by
  obtain ⟨s, hreach, hp⟩ := reachable_of_run demoEnv (demoSettling.take 5)
    (fun s => (s.world.db.idempotencyKeys.rows.any fun row =>
        row.key == js "key" && row.responseStatus == some 202 &&
          row.responseBody == some (.ok (js "s1") .approved none) &&
          (match requestHash demoEnv demoIntent demoCart with
            | .ok hash => hash == row.requestHashHex
            | .error _ => false)) &&
      (sysStep demoEnv s
        (.request (.postSettlements (some (js "key")) demoIntent demoCart) [])).isSome)
    (by decide +kernel)
  rw [Bool.and_eq_true, List.any_eq_true] at hp
  obtain ⟨⟨row, hrow, hfields⟩, hstep⟩ := hp
  simp only [Bool.and_eq_true, beq_iff_eq] at hfields
  obtain ⟨⟨⟨hkey, hstatus⟩, hbody⟩, hhash⟩ := hfields
  obtain ⟨s', hs'⟩ := Option.isSome_iff_exists.mp hstep
  have hdone : CompletedFor demoEnv s.world (js "key") demoIntent demoCart 202
      (.ok (js "s1") .approved none) := by
    refine ⟨row, hrow, hkey, hstatus, hbody, ?_⟩
    cases hr : requestHash demoEnv demoIntent demoCart with
    | error e =>
      rw [hr] at hhash
      exact nomatch hhash
    | ok hash =>
      rw [hr] at hhash
      rw [beq_iff_eq.mp hhash]
  exact ⟨s, s', hreach, hs', (idempotency_key_creates_once hreach (js "key")).replays demoIntent demoCart
    202 _ hdone demoIntent demoCart [] s' (by decide +kernel) rfl hs'⟩

/-- The process has crashed between the claim of the demo key and the transaction, and a sweep has
    found the lock stale. -/
def demoSwept : List Act :=
  [.crash, .clock 2000, .request .sweepTick [], .runTask [], .resumeTask 0 .ready, .runTask [],
    .runTask [], .runTask [], .runTask [], .runTask [], .runTask []]

/-- The key of a crashed request is claimed again, with another cart, after the sweep. -/
theorem key_reused_after_sweep : ¬ ∀ (env : Env) (s s' t t' : Sys) (key : JsString)
    (intent₀ intent : IntentMandate) (cart₀ cart : CartMandate) (seed seed' : JsString),
    Reachable env s →
    sysStep env s (.request (.postSettlements (some key) intent₀ cart₀) seed) = some s' →
    Run (facilitator env) anyStep s' t →
    (Request.postSettlements (some key) intent cart).valid = true →
    canonicalJson (createSettlementBodyValue intent cart) ≠
      canonicalJson (createSettlementBodyValue intent₀ cart₀) →
    sysStep env t (.request (.postSettlements (some key) intent cart) seed') = some t' →
    t'.world.db = t.world.db := by
  intro hclaim
  have hcheck : ((run (facilitator demoEnv) Sys.initial (demoSettling.take 3)).any fun s =>
      (sysStep demoEnv s
        (.request (.postSettlements (some (js "key")) demoIntent demoCart) [])).any fun s' =>
      (run (facilitator demoEnv) s' demoSwept).any fun t =>
      (sysStep demoEnv t (.request (.postSettlements (some (js "key")) demoIntent
        { demoCart with cartId := js "c2" }) [])).any fun t' =>
        t'.world.db.idempotencyKeys.rows.length != t.world.db.idempotencyKeys.rows.length) = true := by
    decide +kernel
  simp only [Option.any_eq_true] at hcheck
  obtain ⟨s, hs, s', hs', t, ht, t', ht', hne⟩ := hcheck
  have hdb : t'.world.db = t.world.db :=
    hclaim demoEnv s s' t t' (js "key") demoIntent demoIntent demoCart
      { demoCart with cartId := js "c2" } [] [] (Run.of_run hs) hs' (Run.of_run ht)
      (by decide +kernel) (by decide +kernel) ht'
  rw [hdb] at hne
  exact absurd hne (by simp)

end Hundi
