/-
  What a micro-step of the facilitator does.

  `TaskStep` lists the moves of requests, webhooks, reconcile calls and the sweep, `JobStep` those
  of the executor, each with what it found before and what it wrote.  `facilitatorSpec` says that
  the program makes no other move.  Every later invariant is proved by cases on these relations.
-/
import Hundi.Facilitator.Effects
import Hundi.Lib.ProofOutline

namespace Hundi

open Js EventLoop

abbrev TaskWhy := TaskCause Task Request Answer

abbrev RunWhy := JobCause RunPoint Answer

/-- A task that is neither in a reconcile call nor in a refund. -/
def Task.plain : Task → Bool
  | .reconcile _ _ => false
  | .refund _ _ _ _ => false
  | _ => true

/-- The task ends, or goes on outside reconcile calls and refunds. -/
def Plain (next : Next Task) : Prop := ∀ t, next.task? = some t → t.plain = true

/-- Why a reconcile call asks for a refund: the payment it fetched is not the attempt's to have
    (first), or its capture lost a race (second). -/
inductive RefundDue (w : World) (c : TaskWhy) (caller : Caller) (attempt : AttemptRow)
    (paymentId : JsString) : Prop where
  | anomaly (orderId : JsString) (payments : List RazorpayPayment) (latest : RazorpayPayment)
      (hc : c = .resumed (.reconcile caller (.fetchOrderPayments attempt orderId))
        (.payments (.ok payments)))
      (hlast : payments.getLast? = some latest) (hstatus : latest.status = js "captured")
      (hid : latest.id = paymentId) (hcopy : attempt.state ≠ .captured)
      (hwhy : attempt.state.active = false ∨
        (∀ row ∈ w.db.settlements.rows, row.id = attempt.settlementId → row.state ≠ .settling) ∨
        ∃ row ∈ w.db.attempts.rows, row.settlementId = attempt.settlementId ∧ row.state = .captured)
  | lostRace (hc : c = .running (.reconcile caller (.lostRace attempt paymentId)))

/-- The moves of a task. -/
inductive TaskStep (env : Env) (now : Int) (w : World) (c : TaskWhy) (w' : World)
    (next : Next Task) : Prop where
  | quiet (l : List LedgerRow) (hl : Incidental l)
      (hw : w'.books = { w.books with ledger := w.db.ledger ++ l }) (hn : Plain next)
  | responded (key : JsString) (status : Nat) (body : CreateSettlementBody)
      (hw : w'.books = { w.books with history := .settlementResponse key status body :: w.history })
      (hn : Plain next)
  | mandateRegistered (l : List LedgerRow) (row : MandateRow) (hl : Incidental l)
      (hschema : intentMandateSchema row.intent = true)
      (hadd : MandateAdded env.crypto w.db.mandates w'.db.mandates row)
      (hw : w'.books = { w.books with mandates := w'.db.mandates, ledger := w.db.ledger ++ l })
      (hn : Plain next)
  | mandateRevoked (l : List LedgerRow) (mandateId : JsString) (hl : Incidental l)
      (hrev : MandateRevoked now w.db.mandates w'.db.mandates mandateId)
      (hw : w'.books = { w.books with mandates := w'.db.mandates, ledger := w.db.ledger ++ l })
      (hn : Plain next)
  | settlementCreated (l : List LedgerRow) (row : SettlementRow) (intent : IntentMandate)
      (cart : CartMandate) (key : JsString) (status : Nat) (body : CreateSettlementBody)
      (hl : Logs l (creationEvent row.state) row.id)
      (hadd : SettlementAdded w.db.settlements w'.db.settlements row)
      (hfrom : CreatedFrom env.crypto w.db now intent cart row) (hstamp : row.Unsettled)
      (hw : w'.books = { w.books with
        settlements := w'.db.settlements, ledger := w.db.ledger ++ l,
        history := .settlementResponse key status body ::
          .settlementCreated row.id (w.db.settlements.sum (capturedAmount row.mandateId)) intent ::
          w.history })
      (hn : Plain next)
  | decided (l : List LedgerRow) (row : SettlementRow) (mandateRow : MandateRow)
      (approval : ApprovalRow) (rejectReason : Option JsString)
      (hl : Logs l (decisionEvent approval.decision) row.id)
      (hmandate : getMandateRow w.db row.mandateId = some mandateRow)
      (hsigned : SignedDecision env.crypto row mandateRow approval)
      (happrovals : ∀ r, r ∈ w'.db.approvals.rows ↔ r ∈ w.db.approvals.rows ∨ r = approval)
      (hm : SettlementMoved now w.db.settlements w'.db.settlements row .pending_approval
        approval.decision.toState rejectReason)
      (hw : w'.books = { w.books with
        settlements := w'.db.settlements, approvals := w'.db.approvals,
        ledger := w.db.ledger ++ l })
      (hn : Plain next)
  | abandoned (l : List LedgerRow) (row : SettlementRow) (src : SettlementState)
      (hl : Logs l .settlement_abandoned row.id ∨ Logs l .approval_expired row.id)
      (hsrc : src ≠ .settling)
      (hm : SettlementMoved now w.db.settlements w'.db.settlements row src .abandoned none)
      (hw : w'.books = { w.books with
        settlements := w'.db.settlements, ledger := w.db.ledger ++ l })
      (hn : Plain next)
  | kickBumped (id : JsString) (hb : KickBumped w.db.settlements w'.db.settlements id)
      (hw : w'.books = { w.books with settlements := w'.db.settlements }) (hn : Plain next)
  | attemptFailed (l : List LedgerRow) (row : AttemptRow) (src : AttemptState)
      (hl : LogsFailure l row.id)
      (hm : AttemptMoved now w.db.attempts w'.db.attempts row src .failed)
      (hwhy : src = .initiated ∨ ∃ caller copy orderId payments,
        c = .resumed (.reconcile caller (.fetchOrderPayments copy orderId))
          (.payments (.ok payments)) ∧ row.id = copy.id)
      (hw : w'.books = { w.books with attempts := w'.db.attempts, ledger := w.db.ledger ++ l })
      (hn : Plain next)
  | reconciling (caller : Caller) (attempt : AttemptRow) (orderId : JsString)
      (hfind : attemptByOrder w.db orderId = some attempt) (hw : w'.books = w.books)
      (hn : next = .park (.reconcile caller (.fetchOrderPayments attempt orderId)))
  | captured (caller : Caller) (copy : AttemptRow) (orderId : JsString)
      (payments : List RazorpayPayment) (latest : RazorpayPayment) (attempt : AttemptRow)
      (settlement : SettlementRow) (lrow : LedgerRow)
      (hc : c = .resumed (.reconcile caller (.fetchOrderPayments copy orderId))
        (.payments (.ok payments)))
      (hlast : payments.getLast? = some latest) (hstatus : latest.status = js "captured")
      (hid : attempt.id = copy.id) (hsid : settlement.id = copy.settlementId)
      (hattempt : AttemptCaptured now w.db.attempts w'.db.attempts attempt copy.state latest.id)
      (hm : SettlementMoved now w.db.settlements w'.db.settlements settlement .settling .captured
        none)
      (hrec : lrow.Records ⟨.payment_captured, some copy.settlementId, js "facilitator",
        capturePayload copy.id latest.id (some orderId)⟩)
      (hw : w'.books = { w.books with
        settlements := w'.db.settlements, attempts := w'.db.attempts,
        ledger := w.db.ledger ++ [lrow] })
      (hn : Plain next)
  | captureLost (caller : Caller) (copy : AttemptRow) (orderId : JsString)
      (payments : List RazorpayPayment) (latest : RazorpayPayment)
      (hc : c = .resumed (.reconcile caller (.fetchOrderPayments copy orderId))
        (.payments (.ok payments)))
      (hlast : payments.getLast? = some latest) (hstatus : latest.status = js "captured")
      (hactive : copy.state.active = true)
      (hstale : ∀ row ∈ w.db.attempts.rows, row.id = copy.id → row.state ≠ copy.state)
      (hw : w'.books = w.books) (hn : next = .cpu (.reconcile caller (.lostRace copy latest.id)))
  | refundCalled (caller : Caller) (attempt : AttemptRow) (paymentId : JsString)
      (hdue : RefundDue w c caller attempt paymentId)
      (hnone : alreadyRefunded w.db attempt.settlementId paymentId = false)
      (hw : w'.books = { w.books with
        history := .refundPayment .anomaly attempt.settlementId paymentId :: w.history })
      (hn : next = .park (.reconcile caller
        (.refundPayment attempt.settlementId attempt.id paymentId)))
  | refunded (caller : Caller) (settlementId attemptId paymentId refundId : JsString)
      (lrow : LedgerRow)
      (hc : c = .resumed (.reconcile caller (.refundPayment settlementId attemptId paymentId))
        (.refund (.ok refundId)))
      (hrec : lrow.Records ⟨.anomaly_refund_issued, some settlementId, js "facilitator",
        [(js "attempt_id", .str attemptId), (js "payment_id", .str paymentId),
          (js "refund_id", .str refundId)]⟩)
      (hw : w'.books = { w.books with
        ledger := w.db.ledger ++ [lrow],
        history := .refundSucceeded .anomaly settlementId paymentId refundId :: w.history })
      (hn : Plain next)
  | operatorRefundCalled (settlement : SettlementRow) (attempt : AttemptRow)
      (paymentId : JsString)
      (hc : c = .request (.postRefund settlement.id (some env.dashboardToken)))
      (hmem : settlement ∈ w.db.settlements.rows) (hstate : settlement.state = .captured)
      (hnone : findIssuedRefund w.db settlement.id = none)
      (hattempt : attempt ∈ w.db.attempts.rows) (hof : attempt.settlementId = settlement.id)
      (hcaptured : attempt.state = .captured) (hpayment : attempt.providerPaymentId = some paymentId)
      (hw : w'.books = { w.books with
        history := .refundPayment .operator settlement.id paymentId :: w.history })
      (hn : next = .park (.refund settlement.id attempt.id paymentId settlement.amountPaise))
  | operatorRefunded (settlementId attemptId paymentId refundId : JsString) (amountPaise : Int)
      (lrow : LedgerRow)
      (hc : c = .resumed (.refund settlementId attemptId paymentId amountPaise)
        (.refund (.ok refundId)))
      (hrec : lrow.Records ⟨.refund_issued, some settlementId, js "dashboard",
        [(js "attempt_id", .str attemptId), (js "payment_id", .str paymentId),
          (js "refund_id", .str refundId), (js "amount_paise", .num amountPaise)]⟩)
      (hw : w'.books = { w.books with
        ledger := w.db.ledger ++ [lrow],
        history := .refundResponse settlementId refundId ::
          .refundSucceeded .operator settlementId paymentId refundId :: w.history })
      (hn : Plain next)
  | operatorRefundUnrecorded (settlementId attemptId paymentId refundId : JsString)
      (amountPaise : Int)
      (hc : c = .resumed (.refund settlementId attemptId paymentId amountPaise)
        (.refund (.ok refundId)))
      (hinexact : isSafeInt amountPaise = false)
      (hw : w'.books = { w.books with
        history := .refundSucceeded .operator settlementId paymentId refundId :: w.history })
      (hn : Plain next)
  | refundReplayed (settlementId refundId : JsString)
      (hfind : findIssuedRefund w.db settlementId = some refundId)
      (hw : w'.books = { w.books with
        history := .refundResponse settlementId refundId :: w.history })
      (hn : Plain next)
  | again (t : Task) (hc : c = .running t) (hw : w'.books = w.books) (hn : next = .park t)

/-- The moves of a run of the executor. -/
inductive JobStep (env : Env) (now : Int) (w : World) (k : Kick) (c : RunWhy) (w' : World)
    (next : Next RunPoint) : Prop where
  | quiet (l : List LedgerRow) (hl : Incidental l)
      (hw : w'.books = { w.books with ledger := w.db.ledger ++ l }) (hn : next = .done)
  | entered (row : SettlementRow) (mandateRow : MandateRow) (ctx : VerifyCtx) (hc : c = .start)
      (hkick : k = ⟨row.id, .execute⟩)
      (hre : Reverified env.crypto w.db now row mandateRow ctx)
      (hm : SettlementMoved now w.db.settlements w'.db.settlements row .approved .settling none)
      (hw : w'.books = { w.books with settlements := w'.db.settlements })
      (hn : next = .cpu (runAttemptLoop w'.db row))
  | gateRejected (l : List LedgerRow) (row : SettlementRow) (reason : RejectionCode)
      (hl : Logs l .verify_rejected row.id) (hc : c = .start) (hkick : k = ⟨row.id, .execute⟩)
      (hre : Refused env.crypto w.db now row reason)
      (hm : SettlementMoved now w.db.settlements w'.db.settlements row .approved .rejected
        (some reason.text))
      (hw : w'.books = { w.books with
        settlements := w'.db.settlements, ledger := w.db.ledger ++ l })
      (hn : next = .done)
  | resumed (row : SettlementRow) (hc : c = .start) (hkick : k = ⟨row.id, .resumeSettling⟩)
      (hmem : row ∈ w.db.settlements.rows)
      (hstate : row.state = .settling) (hidle : hasActiveAttempt w.db row.id = false)
      (hw : w'.books = w.books) (hn : next = .cpu (runAttemptLoop w.db row))
  | attemptInitiated (l : List LedgerRow) (settlement : SettlementRow) (attemptNum : Nat)
      (lastAttemptId attemptId receipt : JsString) (hl : Incidental l)
      (hc : c = .running (.attemptLoop settlement attemptNum lastAttemptId))
      (hnum : attemptNum ≤ maxAttempts)
      (hadd : AttemptAdded w.db.attempts w'.db.attempts
        (newAttempt now attemptId settlement.id .checkout_driver .initiated receipt none))
      (hw : w'.books = { w.books with attempts := w'.db.attempts, ledger := w.db.ledger ++ l })
      (hn : next = .cpu (.createOrder settlement attemptNum attemptId receipt))
  | linkCalled (settlement : SettlementRow) (attemptNum : Nat)
      (lastAttemptId linkAttemptId receipt : JsString)
      (hc : c = .running (.attemptLoop settlement attemptNum lastAttemptId))
      (hnum : maxAttempts < attemptNum)
      (hw : w'.books = { w.books with
        history := .createPaymentLink settlement.id receipt :: w.history })
      (hn : next = .park (.linkPending settlement lastAttemptId linkAttemptId receipt))
  | orderCalled (settlement : SettlementRow) (attemptNum : Nat) (attemptId receipt : JsString)
      (hc : c = .running (.createOrder settlement attemptNum attemptId receipt))
      (hw : w'.books = { w.books with history := .createOrder settlement.id receipt :: w.history })
      (hn : next = .park (.orderPending settlement attemptNum attemptId receipt))
  | orderFailed (l : List LedgerRow) (settlement : SettlementRow) (attemptNum : Nat)
      (attemptId receipt : JsString) (err : Exn) (row : AttemptRow) (hl : LogsFailure l row.id)
      (hc : c = .resumed (.orderPending settlement attemptNum attemptId receipt)
        (.order (.error err)))
      (hid : row.id = attemptId)
      (hm : AttemptMoved now w.db.attempts w'.db.attempts row .initiated .failed)
      (hw : w'.books = { w.books with attempts := w'.db.attempts, ledger := w.db.ledger ++ l })
      (hn : next = .cpu (.attemptLoop settlement (attemptNum + 1) attemptId))
  | orderSet (settlement : SettlementRow) (attemptNum : Nat)
      (attemptId receipt providerOrderId : JsString)
      (hc : c = .resumed (.orderPending settlement attemptNum attemptId receipt)
        (.order (.ok providerOrderId)))
      (hset : OrderIdSet now w.db.attempts w'.db.attempts attemptId providerOrderId)
      (hw : w'.books = { w.books with attempts := w'.db.attempts })
      (hn : next = .cpu (.settleViaCheckout settlement attemptNum attemptId providerOrderId))
  | checkoutCalled (settlement : SettlementRow) (attemptNum : Nat)
      (attemptId providerOrderId : JsString)
      (hc : c = .running (.settleViaCheckout settlement attemptNum attemptId providerOrderId))
      (hw : w'.books = { w.books with
        history := .settleViaCheckout settlement.id providerOrderId :: w.history })
      (hn : next = .park (.checkoutPending settlement attemptNum attemptId providerOrderId))
  | captured (copy : SettlementRow) (attemptNum : Nat) (attemptId providerOrderId : JsString)
      (result : SettleViaCheckoutResult) (paymentId : JsString) (attempt : AttemptRow)
      (settlement : SettlementRow) (lrow : LedgerRow)
      (hc : c = .resumed (.checkoutPending copy attemptNum attemptId providerOrderId)
        (.checkout (.ok result)))
      (hpaid : result.captured? = some paymentId)
      (hid : attempt.id = attemptId) (hsid : settlement.id = copy.id)
      (hattempt : AttemptCaptured now w.db.attempts w'.db.attempts attempt .initiated paymentId)
      (hm : SettlementMoved now w.db.settlements w'.db.settlements settlement .settling .captured
        none)
      (hrec : lrow.Records ⟨.payment_captured, some copy.id, js "facilitator",
        capturePayload attemptId paymentId (some providerOrderId)⟩)
      (hw : w'.books = { w.books with
        settlements := w'.db.settlements, attempts := w'.db.attempts,
        ledger := w.db.ledger ++ [lrow] })
      (hn : next = .done)
  | captureLost (settlement : SettlementRow) (attemptNum : Nat)
      (attemptId providerOrderId : JsString) (result : SettleViaCheckoutResult)
      (paymentId : JsString)
      (hc : c = .resumed (.checkoutPending settlement attemptNum attemptId providerOrderId)
        (.checkout (.ok result)))
      (hpaid : result.captured? = some paymentId)
      (hlost : (w'.books = w.books ∧
          ∀ row ∈ w.db.attempts.rows, row.id = attemptId → row.state ≠ .initiated) ∨
        ∃ attempt, attempt.id = attemptId ∧
          AttemptCaptured now w.db.attempts w'.db.attempts attempt .initiated paymentId ∧
          (∀ row ∈ w.db.settlements.rows, row.id = settlement.id → row.state ≠ .settling) ∧
          w'.books = { w.books with attempts := w'.db.attempts })
      (hn : next = .cpu (.captureLost settlement attemptNum attemptId providerOrderId result))
  | retried (l : List LedgerRow) (settlement : SettlementRow) (attemptNum : Nat)
      (attemptId providerOrderId : JsString) (result : SettleViaCheckoutResult)
      (hl : LogsFailure l attemptId)
      (hc : c = .running (.captureLost settlement attemptNum attemptId providerOrderId result) ∨
        c = .resumed (.checkoutPending settlement attemptNum attemptId providerOrderId)
          (.checkout (.ok result)) ∧ result.captured? = none)
      (hm : AttemptFailed now w.db.attempts w'.db.attempts attemptId .initiated)
      (hw : w'.books = { w.books with attempts := w'.db.attempts, ledger := w.db.ledger ++ l })
      (hn : next = .cpu (.attemptLoop settlement (attemptNum + 1) attemptId))
  | linkIssued (l : List LedgerRow) (settlement : SettlementRow)
      (lastAttemptId linkAttemptId receipt linkId shortUrl : JsString) (hl : Incidental l)
      (hc : c = .resumed (.linkPending settlement lastAttemptId linkAttemptId receipt)
        (.link (.ok (linkId, shortUrl))))
      (hissued : LinkIssued now w.db.attempts w'.db.attempts lastAttemptId
        (newAttempt now linkAttemptId settlement.id .payment_link .awaiting_confirmation receipt
          (some linkId)))
      (hw : w'.books = { w.books with attempts := w'.db.attempts, ledger := w.db.ledger ++ l })
      (hn : next = .done)
  | again (p : RunPoint) (hc : c = .running p) (hw : w'.books = w.books) (hn : next = .park p)

/-! ## Requests -/

section Tasks

variable {env : Env} {now : Int} {w : World} {c : TaskWhy}

theorem plain_done : Plain .done := by
  intro t h
  cases h

theorem plain_cpu {t : Task} (h : t.plain = true) : Plain (.cpu t) := by
  intro u hu
  obtain rfl := Option.some.inj hu
  exact h

theorem plain_park {t : Task} (h : t.plain = true) : Plain (.park t) := by
  intro u hu
  obtain rfl := Option.some.inj hu
  exact h

/-- Nothing the results are about was written. -/
theorem TaskStep.same {w' : World} {next : Next Task} (hw : w'.books = w.books) (hn : Plain next) :
    TaskStep env now w c w' next :=
  .quiet [] incidental_nil (by rw [hw, List.append_nil]; rfl) hn

theorem step_respond : TaskStep env now w c (respond w).world (respond w).next :=
  .same rfl plain_done

/-- A commit that appends an incidental row. -/
theorem step_append {crypto : Crypto} {now' : Int} {input : AppendLedgerInput} {db : Db}
    {next : Next Task} (h : appendLedger crypto now' w.db input = .ok db)
    (hi : input.eventType.incidental = true) (hn : Plain next) :
    TaskStep env now w c (w.commit db) next := by
  obtain ⟨l, hl, rfl⟩ := appendLedger_incidental h hi
  exact .quiet l hl rfl hn

/-- One commit that appends incidental rows only. -/
theorem step_respondWith {x : Except Exn Db}
    (h : ∀ db, x = .ok db → ∃ l, Incidental l ∧ db = { w.db with ledger := w.db.ledger ++ l }) :
    TaskStep env now w c (respondWith w x).world (respondWith w x).next := by
  cases x with
  | error e => exact step_respond
  | ok db =>
    obtain ⟨l, hl, rfl⟩ := h db rfl
    exact .quiet l hl rfl plain_done

theorem step_appendLedger {crypto : Crypto} {now' : Int} {input : AppendLedgerInput}
    (hi : input.eventType.incidental = true) :
    TaskStep env now w c (respondWith w (appendLedger crypto now' w.db input)).world
      (respondWith w (appendLedger crypto now' w.db input)).next :=
  step_respondWith fun _ h => appendLedger_incidental h hi

theorem step_postMandates {intent : IntentMandate} {credential : Credential}
    {ceremonyToken : JsString} (hschema : intentMandateSchema intent = true) :
    TaskStep env now w c
      (respondWith w (registerMandate env now w.db intent credential ceremonyToken)).world
      (respondWith w (registerMandate env now w.db intent credential ceremonyToken)).next := by
  cases h : registerMandate env now w.db intent credential ceremonyToken with
  | error e => exact step_respond
  | ok db =>
    obtain ⟨l, row, tokens, hl, rfl, hadd, hf⟩ := registerMandate_ok h
    refine .mandateRegistered l row hl hschema hadd ?_ plain_done
    rw [respondWith, respond, World.commit, hf]
    rfl

theorem step_postRevoke {mandateId : JsString} {sig : SigEnvelope} :
    TaskStep env now w c (respondWith w (revokeMandate env now w.db mandateId sig)).world
      (respondWith w (revokeMandate env now w.db mandateId sig)).next := by
  cases h : revokeMandate env now w.db mandateId sig with
  | error e => exact step_respond
  | ok db =>
    rcases revokeMandate_ok h with rfl | ⟨l, hl, hrev, hf⟩
    · exact .same rfl plain_done
    · refine .mandateRevoked l mandateId hl hrev ?_ plain_done
      rw [respondWith, respond, World.commit, hf]
      rfl

theorem step_postApprovals {settlementId mandateCartHashHex : JsString} {decision : Decision}
    {sig : SigEnvelope} :
    TaskStep env now w c (postApprovals env now w settlementId mandateCartHashHex decision sig).world
      (postApprovals env now w settlementId mandateCartHashHex decision sig).next := by
  unfold postApprovals
  cases h : decideApproval env now w.db settlementId mandateCartHashHex decision sig with
  | error e => exact step_respond
  | ok db =>
    obtain ⟨l, row, mandateRow, approval, rejectReason, hl, hid, rfl, hmandate, hsigned, happrovals,
      hm, hf⟩ := decideApproval_ok h
    refine .decided l row mandateRow approval rejectReason hl hmandate hsigned happrovals hm ?_
      plain_done
    show World.books ⟨db, _⟩ = _
    rw [hf]
    rfl

theorem step_postDecisions {settlementId signatureHex : JsString}
    {payload : List (JsString × JsonValue)} :
    TaskStep env now w c (postDecisions env now w settlementId payload signatureHex).world
      (postDecisions env now w settlementId payload signatureHex).next := by
  unfold postDecisions
  refine step_respondWith fun db h => ?_
  split at h
  · exact nomatch h
  split at h
  · exact nomatch h
  rw [bind_eq_ok] at h
  obtain ⟨bytes, -, h⟩ := h
  rw [bind_eq_ok] at h
  obtain ⟨valid, -, h⟩ := h
  split at h
  · exact nomatch h
  · exact appendLedger_incidental h rfl

theorem step_postSettlements {idempotencyKey : Option JsString} {intent : IntentMandate}
    {cart : CartMandate} :
    TaskStep env now w c (postSettlements env now w idempotencyKey intent cart).world
      (postSettlements env now w idempotencyKey intent cart).next := by
  unfold postSettlements
  split
  · exact step_respond
  · exact step_respond
  simp only
  split
  · exact step_respond
  split
  · exact step_respond
  · rename_i db hclaim
    obtain ⟨keys, rfl⟩ := claimIdempotencyKey_ok hclaim
    exact .same rfl (plain_cpu rfl)
  · exact .responded _ _ _ rfl plain_done
  · exact .responded _ _ _ rfl plain_done
  · exact .responded _ _ _ rfl plain_done

theorem step_settlementClaimed {settlementId key : JsString} {intent : IntentMandate}
    {cart : CartMandate} :
    TaskStep env now w c (settlementClaimed env now settlementId w key intent cart).world
      (settlementClaimed env now settlementId w key intent cart).next := by
  unfold settlementClaimed
  cases h : settlementTransaction env now w.db settlementId key intent cart with
  | error e => exact step_respond
  | ok r =>
    obtain ⟨db, out⟩ := r
    rcases settlementTransaction_ok h with ⟨keys, rfl, hbody⟩ |
      ⟨keys, l, row, hl, hadd, hid, hfrom, hf, hbody⟩
    · simp only [hbody]
      exact .responded _ _ _ rfl plain_done
    · simp only [hbody]
      refine .settlementCreated l row intent cart key out.status out.body hl hadd hfrom
        (hadd.unstamped (settlementTransaction_unstamped h)) ?_ plain_done
      rw [hid, hfrom.mandateId]
      show World.books ⟨db, _⟩ = _
      rw [hf]
      rfl

theorem step_postRefund {settlementId : JsString} {dashboardToken : Option JsString} :
    TaskStep env now w (.request (.postRefund settlementId dashboardToken))
      (postRefund env w settlementId dashboardToken).world
      (postRefund env w settlementId dashboardToken).next := by
  unfold postRefund
  split
  · exact step_respond
  rename_i htoken
  rw [ne_eq, not_not] at htoken
  subst htoken
  split
  · exact step_respond
  rename_i settlement hsettlement
  obtain ⟨hmem, hid⟩ := Table.find?_mem hsettlement
  rw [beq_iff_eq] at hid
  subst hid
  split
  · rename_i refundId hfind
    exact .refundReplayed _ refundId hfind rfl plain_done
  rename_i hnone
  split
  · exact step_respond
  rename_i hstate
  rw [ne_eq, not_not] at hstate
  split
  · exact step_respond
  rename_i attempt hattempt
  obtain ⟨hamem, ha⟩ := Table.find?_mem hattempt
  rw [Bool.and_eq_true, beq_iff_eq, beq_iff_eq] at ha
  split
  · rename_i ch rest hpayment
    exact .operatorRefundCalled settlement attempt (ch :: rest) rfl hmem hstate hnone
      hamem ha.1 ha.2 hpayment rfl rfl
  · exact step_respond

theorem step_refundAnswered {settlementId attemptId paymentId : JsString} {amountPaise : Int}
    {r : Except Exn JsString} :
    TaskStep env now w (.resumed (.refund settlementId attemptId paymentId amountPaise) (.refund r))
      (refundAnswered env now w settlementId attemptId paymentId amountPaise r).world
      (refundAnswered env now w settlementId attemptId paymentId amountPaise r).next := by
  unfold refundAnswered
  cases r with
  | error e => exact step_respond
  | ok refundId =>
    simp only
    split
    · rename_i e happend
      refine .operatorRefundUnrecorded settlementId attemptId paymentId refundId amountPaise rfl ?_
        rfl plain_done
      rw [Bool.eq_false_iff]
      intro hsafe
      obtain ⟨db', hok⟩ := appendLedger_isOk env.crypto now w.db
        ⟨.refund_issued, some settlementId, js "dashboard",
          [(js "attempt_id", .str attemptId), (js "payment_id", .str paymentId),
            (js "refund_id", .str refundId), (js "amount_paise", .num amountPaise)]⟩
        (by simp [safeMembers, safe, hsafe])
      rw [World.emit_db, hok] at happend
      exact nomatch happend
    · rename_i db happend
      obtain ⟨lrow, hrec, rfl⟩ := appendLedger_ok happend
      exact .operatorRefunded settlementId attemptId paymentId refundId amountPaise lrow rfl hrec rfl
        plain_done

theorem step_postWebhook {rawBody : JsString} {signatureHeader eventIdHeader : Option JsString} :
    TaskStep env now w c (postWebhook env now w rawBody signatureHeader eventIdHeader).world
      (postWebhook env now w rawBody signatureHeader eventIdHeader).next := by
  unfold postWebhook
  split
  · exact step_appendLedger rfl
  split
  · exact step_appendLedger rfl
  split
  · exact step_appendLedger rfl
  · exact step_appendLedger rfl
  split
  · exact step_respond
  split
  · exact step_respond
  · exact step_respond
  rename_i db hclaim
  unfold claimWebhookEvent at hclaim
  split at hclaim
  · exact nomatch hclaim
  split at hclaim
  · exact nomatch Except.ok.inj hclaim
  rw [bind_eq_ok] at hclaim
  obtain ⟨db₁, happend, hclaim⟩ := hclaim
  obtain rfl := Option.some.inj (Except.ok.inj hclaim)
  obtain ⟨l, hl, rfl⟩ := appendLedger_incidental happend rfl
  exact .quiet l hl rfl (plain_cpu rfl)

/-! ## Reconcile calls -/

/-- A stretch of a reconcile call that ends the call. -/
theorem step_afterReconcile_returned {caller : Caller} {w' : World}
    (h : ∀ next, Plain next → TaskStep env now w c w' next) :
    TaskStep env now w c (afterReconcile caller (w', .returned)).world
      (afterReconcile caller (w', .returned)).next := by
  cases caller with
  | webhook eventId eventType => exact h _ plain_done
  | sweep rest => exact h _ (plain_park rfl)

theorem step_afterReconcile_threw {caller : Caller} {w' : World} {e : Exn}
    (h : ∀ next, Plain next → TaskStep env now w c w' next) :
    TaskStep env now w c (afterReconcile caller (w', .threw e)).world
      (afterReconcile caller (w', .threw e)).next := by
  cases caller with
  | webhook eventId eventType => exact h _ (plain_park rfl)
  | sweep rest => exact h _ plain_done

theorem step_refundAnomalyCapture {caller : Caller} {attempt : AttemptRow} {paymentId : JsString}
    (hdue : RefundDue w c caller attempt paymentId) :
    TaskStep env now w c
      (afterReconcile caller
        (refundAnomalyCapture w attempt.settlementId attempt.id paymentId)).world
      (afterReconcile caller
        (refundAnomalyCapture w attempt.settlementId attempt.id paymentId)).next := by
  unfold refundAnomalyCapture
  split
  · exact step_afterReconcile_returned fun _ hn => .same rfl hn
  · rename_i hnone
    exact .refundCalled caller attempt paymentId hdue (Bool.not_eq_true _ ▸ hnone) rfl rfl

theorem step_refundAnomalyAnswered {caller : Caller} {settlementId attemptId paymentId : JsString}
    {r : Except Exn JsString} :
    TaskStep env now w
      (.resumed (.reconcile caller (.refundPayment settlementId attemptId paymentId)) (.refund r))
      (afterReconcile caller
        (refundAnomalyAnswered env.crypto now w settlementId attemptId paymentId r)).world
      (afterReconcile caller
        (refundAnomalyAnswered env.crypto now w settlementId attemptId paymentId r)).next := by
  unfold refundAnomalyAnswered
  cases r with
  | error e =>
    simp only [flagRefundError]
    split
    · rename_i db happend
      exact step_afterReconcile_returned fun _ hn => step_append happend rfl hn
    · exact step_afterReconcile_threw fun _ hn => .same rfl hn
  | ok refundId =>
    simp only
    split
    · rename_i db happend
      obtain ⟨lrow, hrec, rfl⟩ := appendLedger_ok happend
      exact step_afterReconcile_returned fun _ hn =>
        .refunded caller settlementId attemptId paymentId refundId lrow rfl hrec rfl hn
    · rename_i e happend
      obtain ⟨db', hok⟩ := appendLedger_isOk env.crypto now w.db
        ⟨.anomaly_refund_issued, some settlementId, js "facilitator",
          [(js "attempt_id", .str attemptId), (js "payment_id", .str paymentId),
            (js "refund_id", .str refundId)]⟩ (by simp [safeMembers, safe])
      rw [World.emit_db, hok] at happend
      exact nomatch happend

theorem step_reconcileCapturedPayment {caller : Caller} {copy : AttemptRow} {orderId : JsString}
    {payments : List RazorpayPayment} {latest : RazorpayPayment}
    (hc : c = .resumed (.reconcile caller (.fetchOrderPayments copy orderId))
      (.payments (.ok payments)))
    (hlast : payments.getLast? = some latest) (hstatus : latest.status = js "captured") :
    TaskStep env now w c
      (afterReconcile caller
        (reconcileCapturedPayment env.crypto now w copy latest.id orderId)).world
      (afterReconcile caller
        (reconcileCapturedPayment env.crypto now w copy latest.id orderId)).next := by
  unfold reconcileCapturedPayment
  split
  · exact step_afterReconcile_returned fun _ hn => .same rfl hn
  rename_i hcopy
  simp only
  split
  · rename_i hanomaly
    refine step_refundAnomalyCapture (.anomaly orderId payments latest hc hlast hstatus rfl hcopy ?_)
    rw [Bool.or_eq_true, Bool.or_eq_true] at hanomaly
    rcases hanomaly with (hactive | hsettlement) | hexisting
    · exact Or.inl (by simpa using hactive)
    · refine Or.inr (Or.inl fun row hrow hid hstate => ?_)
      have hfind := Table.find?_eq_some (p := fun r : SettlementRow => r.id == copy.settlementId)
        hrow (by simp [hid]) fun r hr hp => settlement_eq hr hrow (by rw [hid]; simpa using hp)
      rw [hfind, Option.map_some, hstate] at hsettlement
      exact nomatch hsettlement
    · obtain ⟨row, hfind⟩ := Option.isSome_iff_exists.mp hexisting
      obtain ⟨hmem, hp⟩ := Table.find?_mem hfind
      rw [Bool.and_eq_true, beq_iff_eq, beq_iff_eq] at hp
      exact Or.inr (Or.inr ⟨row, hmem, hp.1, hp.2⟩)
  · rename_i hanomaly
    rw [Bool.or_eq_true, Bool.or_eq_true, not_or, not_or] at hanomaly
    obtain ⟨⟨hactive, hsettlement⟩, -⟩ := hanomaly
    split
    · exact step_afterReconcile_threw fun _ hn => .same rfl hn
    · rename_i db happly
      obtain ⟨attempt, settlement, lrow, hid, hsid, hattempt, hm, hrec, hf⟩ := applyCapture_true happly
      refine step_afterReconcile_returned fun _ hn =>
        .captured caller copy orderId payments latest attempt settlement lrow hc hlast hstatus hid
          hsid hattempt hm hrec ?_ hn
      rw [World.commit, hf]
      rfl
    · rename_i db happly
      have hcopyActive : copy.state.active = true := by simpa using hactive
      rcases applyCapture_false happly with ⟨rfl, hstale⟩ | ⟨attempt, hid, hattempt, hgone, hf⟩
      · exact .captureLost caller copy orderId payments latest hc hlast hstatus hcopyActive hstale
          rfl rfl
      · -- the settlement was found `settling` in the same stretch
        rw [Bool.not_eq_true, bne_eq_false_iff_eq, Option.map_eq_some_iff] at hsettlement
        obtain ⟨row, hfind, hstate⟩ := hsettlement
        obtain ⟨hmem, hp⟩ := Table.find?_mem hfind
        exact absurd hstate (hgone row hmem (by simpa using hp))

theorem step_failAttemptIfLive {caller : Caller} {copy : AttemptRow} {orderId : JsString}
    {payments : List RazorpayPayment}
    (hc : c = .resumed (.reconcile caller (.fetchOrderPayments copy orderId))
      (.payments (.ok payments))) :
    TaskStep env now w c (afterReconcile caller (failAttemptIfLive env.crypto now w copy)).world
      (afterReconcile caller (failAttemptIfLive env.crypto now w copy)).next := by
  unfold failAttemptIfLive
  split
  · exact step_afterReconcile_returned fun _ hn => .same rfl hn
  split
  · rename_i db hfail
    rcases failAttempt_ok hfail with rfl | ⟨l, row, hl, hid, hm, hf⟩
    · exact step_afterReconcile_returned fun _ hn => .same rfl hn
    · refine step_afterReconcile_returned fun _ hn => .attemptFailed l row copy.state hl hm
        (Or.inr ⟨caller, copy, orderId, payments, hc, hid⟩) ?_ hn
      rw [World.commit, hf]
      rfl
  · exact step_afterReconcile_threw fun _ hn => .same rfl hn

theorem step_reconcileFetched {caller : Caller} {copy : AttemptRow} {orderId : JsString}
    {r : Except Exn (List RazorpayPayment)} :
    TaskStep env now w
      (.resumed (.reconcile caller (.fetchOrderPayments copy orderId)) (.payments r))
      (afterReconcile caller (reconcileFetched env.crypto now w copy orderId r)).world
      (afterReconcile caller (reconcileFetched env.crypto now w copy orderId r)).next := by
  unfold reconcileFetched
  cases r with
  | error e =>
    simp only
    split
    · rename_i db happend
      exact step_afterReconcile_returned fun _ hn => step_append happend rfl hn
    · exact step_afterReconcile_threw fun _ hn => .same rfl hn
  | ok payments =>
    simp only
    split
    · exact step_afterReconcile_returned fun _ hn => .same rfl hn
    rename_i latest hlast
    split
    · rename_i hstatus
      exact step_reconcileCapturedPayment rfl hlast hstatus
    split
    · exact step_failAttemptIfLive rfl
    · exact step_afterReconcile_returned fun _ hn => .same rfl hn

theorem step_reconcileByOrder {caller : Caller} {orderId : JsString} :
    TaskStep env now w c (afterReconcile caller (w, reconcileByOrder w.db orderId)).world
      (afterReconcile caller (w, reconcileByOrder w.db orderId)).next := by
  unfold reconcileByOrder
  split
  · exact step_afterReconcile_returned fun _ hn => .same rfl hn
  · rename_i attempt hfind
    exact .reconciling caller attempt orderId hfind rfl rfl

theorem step_webhookClaimed {eventId : JsString} {eventType body : JsonValue} :
    TaskStep env now w c (webhookClaimed env now w eventId eventType body).world
      (webhookClaimed env now w eventId eventType body).next := by
  unfold webhookClaimed
  split
  · split
    · exact step_appendLedger rfl
    split
    · exact step_reconcileByOrder
    · exact step_respond
    · exact .same rfl (plain_park rfl)
  · exact step_respond

/-! ## The sweep -/

theorem step_sweepCommit {kicks : List Kick} {p : SweepPoint} {x : Except Exn Db}
    (h : ∀ db, x = .ok db → ∀ next, Plain next → TaskStep env now w c (w.commit db) next) :
    TaskStep env now w c (afterSweep (sweepCommit w kicks p x)).world
      (afterSweep (sweepCommit w kicks p x)).next := by
  cases x with
  | error e => exact .same rfl plain_done
  | ok db => exact h db rfl _ (plain_cpu rfl)

theorem step_abandon {id reason : JsString} {src : SettlementState} {eventType : LedgerEventType}
    (hsrc : src ≠ .settling) {db : Db}
    (hi : eventType = .settlement_abandoned ∨ eventType = .approval_expired)
    (h : abandonSettlement env.crypto now w.db id src eventType reason = .ok db) {next : Next Task}
    (hn : Plain next) : TaskStep env now w c (w.commit db) next := by
  rcases abandonSettlement_ok h with ⟨rfl, -⟩ | ⟨l, row, hl, -, hm, hf⟩
  · exact .same rfl hn
  · have hevent : Logs l .settlement_abandoned row.id ∨ Logs l .approval_expired row.id := by
      rcases hi with rfl | rfl
      · exact Or.inl hl
      · exact Or.inr hl
    refine .abandoned l row src hevent hsrc hm ?_ hn
    rw [World.commit, hf]
    rfl

theorem step_sweep {p : SweepPoint} :
    TaskStep env now w c (afterSweep (sweepStep env now w p)).world
      (afterSweep (sweepStep env now w p)).next := by
  cases p with
  | staleAttempts rest =>
    cases rest with
    | nil => exact .same rfl (plain_park rfl)
    | cons attempt rest =>
      simp only [sweepStep, sweepStaleAttempt]
      split
      · split
        · rename_i point hrec
          unfold reconcileByAttempt at hrec
          split at hrec
          · exact nomatch hrec
          split at hrec
          · unfold reconcileByOrder at hrec
            split at hrec
            · exact nomatch hrec
            · rename_i hfind
              obtain rfl := ReconcileNext.awaiting.inj hrec
              exact .reconciling (.sweep rest) _ _ hfind rfl rfl
          · exact nomatch hrec
        · exact .same rfl (plain_park rfl)
      · split
        · exact .same rfl (plain_cpu rfl)
        · refine step_sweepCommit fun db h next hn => ?_
          rcases failAttempt_ok h with rfl | ⟨l, row, hl, -, hm, hf⟩
          · exact .same rfl hn
          · refine .attemptFailed l row .initiated hl hm (Or.inl rfl) ?_ hn
            rw [World.commit, hf]
            rfl
  | staleAttemptsSwept => exact .same rfl (plain_cpu rfl)
  | transientSettlements rest =>
    cases rest with
    | nil => exact .same rfl (plain_cpu rfl)
    | cons row rest =>
      refine step_sweepCommit fun db h next hn => step_abandon ?_ (Or.inl rfl) h hn
      rcases row.transient with hs | hs <;> rw [hs] <;> decide
  | staleVerified rest =>
    cases rest with
    | nil => exact .same rfl (plain_cpu rfl)
    | cons id rest =>
      exact step_sweepCommit fun db h next hn => step_abandon (by decide) (Or.inl rfl) h hn
  | expiredApprovals since rest =>
    cases rest with
    | nil => exact .same rfl (plain_cpu rfl)
    | cons row rest =>
      simp only [sweepStep, sweepExpiredApproval]
      split
      · exact .same rfl (plain_cpu rfl)
      split
      · exact .same rfl (plain_cpu rfl)
      · exact step_sweepCommit fun db h next hn => step_abandon (by decide) (Or.inr rfl) h hn
  | staleApproved since rest =>
    cases rest with
    | nil => exact .same rfl (plain_cpu rfl)
    | cons row rest =>
      simp only [sweepStep, sweepApproved]
      split
      · exact step_sweepCommit fun db h next hn => step_abandon (by decide) (Or.inl rfl) h hn
      split
      · exact .same rfl plain_done
      · rename_i db bumped hbump
        obtain ⟨hb, hf⟩ := bumpKickCount_ok hbump
        refine .kickBumped row.id hb ?_ (plain_cpu rfl)
        show World.books ⟨db, _⟩ = _
        rw [hf]
        rfl
  | stuckSettling rest =>
    cases rest with
    | nil => exact .same rfl (plain_cpu rfl)
    | cons id rest =>
      simp only [sweepStep, sweepSettling]
      split
      · exact .same rfl (plain_cpu rfl)
      split
      · exact .same rfl (plain_cpu rfl)
      · exact step_sweepCommit fun db h next hn => step_append h rfl hn
  | staleIdempotencyLocks => exact .same rfl plain_done

end Tasks

/-! ## The executor -/

section Runs

variable {env : Env} {now : Int} {w : World} {k : Kick} {c : RunWhy}

theorem JobStep.same {w' : World} (hw : w'.books = w.books) :
    JobStep env now w k c w' .done :=
  .quiet [] incidental_nil (by rw [hw, List.append_nil]; rfl) rfl

theorem step_startRun :
    JobStep env now w k .start (startRun env now w k).1 (startRun env now w k).2 := by
  unfold startRun
  cases hkind : k.kind with
  | execute =>
    simp only [runOnce]
    split
    · exact .same rfl
    · rename_i db settlement h
      rcases reverifyAndEnterSettling_ok h with ⟨-, hout⟩ | ⟨l, row, reason, -, -, -, -, -, hout⟩ |
        ⟨row, mandateRow, ctx, hid, hre, hm, hf, hout⟩
      · exact nomatch hout
      · exact nomatch hout
      · obtain rfl := ReverifyOutcome.ok.inj hout
        refine .entered settlement mandateRow ctx rfl (by rw [hid, ← hkind]) hre hm ?_ rfl
        rw [World.commit, hf]
        rfl
    · rename_i db out hne h
      rcases reverifyAndEnterSettling_ok h with ⟨rfl, -⟩ | ⟨l, row, reason, hl, hid, hre, hm, hf, -⟩ |
        ⟨row, mandateRow, ctx, -, hre, hm, hf, hout⟩
      · exact .same rfl
      · refine .gateRejected l row reason hl rfl (by rw [hid, ← hkind]) hre hm ?_ rfl
        rw [World.commit, hf]
        rfl
      · exact absurd hout (hne row)
  | resumeSettling =>
    simp only [resumeSettlingRun]
    split
    · exact .same rfl
    rename_i settlement hfind
    obtain ⟨hmem, hid⟩ := Table.find?_mem hfind
    rw [beq_iff_eq] at hid
    split
    · exact .same rfl
    rename_i hstate
    split
    · exact .same rfl
    rename_i hidle
    rw [← hid] at hidle
    exact .resumed settlement rfl (by rw [hid, ← hkind]) hmem (by simpa using hstate) (Bool.not_eq_true _ ▸ hidle) rfl rfl

theorem step_failAndRetry {settlement : SettlementRow} {attemptNum : Nat}
    {attemptId providerOrderId : JsString} {result : SettleViaCheckoutResult}
    (hc : c = .running (.captureLost settlement attemptNum attemptId providerOrderId result) ∨
      c = .resumed (.checkoutPending settlement attemptNum attemptId providerOrderId)
        (.checkout (.ok result)) ∧ result.captured? = none) :
    JobStep env now w k c
      (failAndRetry env now w settlement attemptNum attemptId providerOrderId result).1
      (failAndRetry env now w settlement attemptNum attemptId providerOrderId result).2 := by
  unfold failAndRetry
  split
  · exact .same rfl
  · rename_i db h
    obtain ⟨l, hl, hm, hf⟩ := checkoutFailed_ok h
    refine .retried l settlement attemptNum attemptId providerOrderId result hl hc hm ?_ rfl
    rw [World.commit, hf]
    rfl

theorem step_runStep {uuid : JsString} {p : RunPoint} :
    JobStep env now w k (.running p) (runStep env now uuid w p).1 (runStep env now uuid w p).2 := by
  cases p with
  | attemptLoop settlement attemptNum lastAttemptId =>
    simp only [runStep]
    split
    · rename_i hnum
      split
      · exact .same rfl
      · rename_i db h
        obtain ⟨l, hl, hadd, hf⟩ := initiateAttempt_ok h
        refine .attemptInitiated l settlement attemptNum lastAttemptId uuid _ hl rfl hnum hadd ?_ rfl
        rw [World.commit, hf]
        rfl
    · rename_i hnum
      exact .linkCalled settlement attemptNum lastAttemptId uuid _ rfl (by omega) rfl rfl
  | createOrder settlement attemptNum attemptId receipt =>
    exact .orderCalled settlement attemptNum attemptId receipt rfl rfl rfl
  | orderPending settlement attemptNum attemptId receipt => exact .again _ rfl rfl rfl
  | settleViaCheckout settlement attemptNum attemptId providerOrderId =>
    exact .checkoutCalled settlement attemptNum attemptId providerOrderId rfl rfl rfl
  | checkoutPending settlement attemptNum attemptId providerOrderId => exact .again _ rfl rfl rfl
  | captureLost settlement attemptNum attemptId providerOrderId result =>
    exact step_failAndRetry (Or.inl rfl)
  | linkPending settlement lastAttemptId linkAttemptId receipt => exact .again _ rfl rfl rfl

theorem step_orderAnswered {settlement : SettlementRow} {attemptNum : Nat}
    {attemptId receipt : JsString} {r : Except Exn JsString} :
    JobStep env now w k (.resumed (.orderPending settlement attemptNum attemptId receipt) (.order r))
      (orderAnswered env now w settlement attemptNum attemptId r).1
      (orderAnswered env now w settlement attemptNum attemptId r).2 := by
  unfold orderAnswered
  cases r with
  | error err =>
    simp only
    split
    · exact .same rfl
    · rename_i db h
      obtain ⟨l, row, hl, hid, hm, hf⟩ := orderCreateFailed_ok h
      refine .orderFailed l settlement attemptNum attemptId receipt err row hl rfl hid hm ?_ rfl
      rw [World.commit, hf]
      rfl
  | ok providerOrderId =>
    simp only
    split
    · exact .same rfl
    · rename_i db h
      obtain ⟨hset, hf⟩ := setOrderId_ok h
      refine .orderSet settlement attemptNum attemptId receipt providerOrderId rfl hset ?_ rfl
      rw [World.commit, hf]
      rfl

theorem step_checkoutAnswered {settlement : SettlementRow} {attemptNum : Nat}
    {attemptId providerOrderId : JsString} {r : Except Exn SettleViaCheckoutResult} :
    JobStep env now w k
      (.resumed (.checkoutPending settlement attemptNum attemptId providerOrderId) (.checkout r))
      (checkoutAnswered env now w settlement attemptNum attemptId providerOrderId r).1
      (checkoutAnswered env now w settlement attemptNum attemptId providerOrderId r).2 := by
  unfold checkoutAnswered
  cases r with
  | error err => exact .same rfl
  | ok result =>
    simp only
    split
    · rename_i paymentId hpaid
      split
      · exact .same rfl
      · rename_i db h
        obtain ⟨attempt, row, lrow, hid, hsid, hattempt, hm, hrec, hf⟩ := applyCapture_true h
        refine .captured settlement attemptNum attemptId providerOrderId result paymentId attempt row
          lrow rfl hpaid hid hsid hattempt hm hrec ?_ rfl
        rw [World.commit, hf]
        rfl
      · rename_i db h
        refine .captureLost settlement attemptNum attemptId providerOrderId result paymentId rfl hpaid
          ?_ rfl
        rcases applyCapture_false h with ⟨rfl, hstale⟩ | ⟨attempt, hid, hattempt, hgone, hf⟩
        · exact Or.inl ⟨rfl, hstale⟩
        · refine Or.inr ⟨attempt, hid, hattempt, hgone, ?_⟩
          rw [World.commit, hf]
          rfl
    · rename_i hpaid
      exact step_failAndRetry (Or.inr ⟨rfl, hpaid⟩)

theorem step_linkAnswered {settlement : SettlementRow}
    {lastAttemptId linkAttemptId receipt : JsString} {r : Except Exn (JsString × JsString)} :
    JobStep env now w k
      (.resumed (.linkPending settlement lastAttemptId linkAttemptId receipt) (.link r))
      (linkAnswered env now w settlement lastAttemptId linkAttemptId receipt r).1
      (linkAnswered env now w settlement lastAttemptId linkAttemptId receipt r).2 := by
  unfold linkAnswered
  cases r with
  | error err =>
    simp only
    split
    · exact .same rfl
    · rename_i db h
      obtain ⟨l, hl, rfl⟩ := appendLedger_incidental h rfl
      exact .quiet l hl rfl rfl
  | ok link =>
    obtain ⟨linkId, shortUrl⟩ := link
    simp only
    split
    · exact .same rfl
    · rename_i db h
      obtain ⟨l, hl, hissued, hf⟩ := issuePaymentLink_ok h
      refine .linkIssued l settlement lastAttemptId linkAttemptId receipt linkId shortUrl hl rfl
        hissued ?_ rfl
      rw [World.commit, hf]
      rfl

end Runs

/-! ## The specification -/

theorem step_handleRequest {env : Env} {now : Int} {seed : JsString} {w : World} {r : Request} :
    TaskStep env now w (.request r) (handleRequest env now seed w r).world
      (handleRequest env now seed w r).next := by
  unfold handleRequest
  split
  case isFalse => exact step_respond
  rename_i hvalid
  cases r with
  | postCeremonyTokens dashboardToken =>
    simp only [handleValid, postCeremonyTokens]
    split
    · exact step_respond
    split
    · exact .same rfl plain_done
    · exact step_respond
  | postAdminMerchants adminToken merchantId name catalogUrl catalogPrices =>
    simp only [handleValid, postAdminMerchants]
    split
    · exact step_respond
    split
    · exact .same rfl plain_done
    · exact step_respond
  | postStoresOnboard merchantId name url catalogPrices =>
    refine .same ?_ plain_done
    simp only [handleValid, upsertMerchant]
    split
    · rfl
    split
    · rfl
    · rfl
  | postMandates intent credential ceremonyToken =>
    rw [Request.valid, Bool.and_eq_true] at hvalid
    exact step_postMandates hvalid.1
  | postSettlements idempotencyKey intent cart => exact step_postSettlements
  | postDecisions settlementId payload signatureHex => exact step_postDecisions
  | postApprovals settlementId mandateCartHashHex decision sig => exact step_postApprovals
  | postRevoke mandateId sig => exact step_postRevoke
  | postRefund settlementId dashboardToken => exact step_postRefund
  | postWebhook rawBody signatureHeader eventIdHeader => exact step_postWebhook
  | sweepTick => exact .same rfl (plain_cpu rfl)

theorem step_runTask {env : Env} {now : Int} {seed : JsString} {w : World} {t : Task} :
    TaskStep env now w (.running t) (runTask env now seed w t).world
      (runTask env now seed w t).next := by
  cases t with
  | reconcile caller point =>
    cases point with
    | fetchOrderPayments attempt orderId => exact .again _ rfl rfl rfl
    | lostRace attempt paymentId => exact step_refundAnomalyCapture (.lostRace rfl)
    | refundPayment settlementId attemptId paymentId => exact .again _ rfl rfl rfl
  | sweep point => exact step_sweep
  | settlementClaimed key intent cart => exact step_settlementClaimed
  | refund settlementId attemptId paymentId amountPaise => exact .again _ rfl rfl rfl
  | webhook eventId eventType body => exact step_webhookClaimed
  | webhookFailed eventId eventType err => exact step_appendLedger rfl

theorem step_resumeTask {env : Env} {now : Int} {w : World} {t : Task} {a : Answer} {o : Done}
    (h : resumeTask env now w t a = some o) :
    TaskStep env now w (.resumed t a) o.world o.next := by
  unfold resumeTask at h
  split at h
  · obtain rfl := Option.some.inj h
    exact step_reconcileFetched
  · obtain rfl := Option.some.inj h
    exact step_refundAnomalyAnswered
  · obtain rfl := Option.some.inj h
    exact step_refundAnswered
  · obtain rfl := Option.some.inj h
    exact step_sweep
  · obtain rfl := Option.some.inj h
    exact step_appendLedger rfl
  · exact nomatch h

theorem step_resumeRun {env : Env} {now : Int} {w : World} {k : Kick} {p : RunPoint} {a : Answer}
    {o : World × Next RunPoint} (h : resumeRun env now w p a = some o) :
    JobStep env now w k (.resumed p a) o.1 o.2 := by
  unfold resumeRun at h
  split at h
  · obtain rfl := Option.some.inj h
    exact step_orderAnswered
  · obtain rfl := Option.some.inj h
    exact step_checkoutAnswered
  · obtain rfl := Option.some.inj h
    exact step_linkAnswered
  · exact nomatch h

/-- **The facilitator makes no other move.** -/
def facilitatorSpec (env : Env) : Spec (facilitator env) where
  task := TaskStep env
  job := JobStep env
  request := fun _ _ _ _ => step_handleRequest
  runTask := fun _ _ _ _ => step_runTask
  resumeTask := fun _ _ _ _ _ h => step_resumeTask h
  startJob := fun _ _ _ _ => step_startRun
  runJob := fun _ _ _ _ _ => step_runStep
  resumeJob := fun _ _ _ _ _ _ h => step_resumeRun h

end Hundi
