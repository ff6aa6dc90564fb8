/-
  Refunds at most once.

  Both refund paths look for a ledger row, await the provider, and append the row the check looks
  for.  While the provider is at work a second call finds no row either.  Under the condition that
  no second refund is started while one is in flight, a `Permit` counts rows and calls in flight
  together and keeps them at one; `anomaly_refunded_twice` and `operator_refunded_twice` open the
  window.
-/
import Hundi.Facilitator.Invariants

namespace Hundi

open Js EventLoop

/-- The event reports a refund that has succeeded, or answers a refund request. -/
def Event.reversal : Event → Bool
  | .refundSucceeded _ _ _ _ => true
  | .refundResponse _ _ => true
  | _ => false

/-- No row of the list records a refund. -/
def NoRefundRow (l : List LedgerRow) : Prop :=
  ∀ row ∈ l, row.eventType ≠ .anomaly_refund_issued ∧ row.eventType ≠ .refund_issued

/-- A task awaiting `refundPayment`. -/
def Task.refunding : Task → Bool
  | .reconcile _ (.refundPayment _ _ _) => true
  | .refund _ _ _ _ => true
  | _ => false

def NotRefunding (next : Next Task) : Prop := ∀ t, next.task? = some t → t.refunding = false

theorem notRefunding_plain {next : Next Task} (h : Plain next) : NotRefunding next := by
  intro t ht
  have hp := h t ht
  cases t <;> first | rfl | exact nomatch hp

theorem notRefunding_cpu {t : Task} (h : t.refunding = false) : NotRefunding (.cpu t) := by
  intro u hu
  obtain rfl := Option.some.inj hu
  exact h

theorem notRefunding_park {t : Task} (h : t.refunding = false) : NotRefunding (.park t) := by
  intro u hu
  obtain rfl := Option.some.inj hu
  exact h

theorem noRefundRow_incidental {l : List LedgerRow} (hl : Incidental l) : NoRefundRow l :=
  fun row hrow => ⟨hl.eventType_ne rfl row hrow, hl.eventType_ne rfl row hrow⟩

theorem noRefundRow_logs {l : List LedgerRow} {e : LedgerEventType} {sid : JsString}
    (hl : Logs l e sid) (ha : e ≠ .anomaly_refund_issued) (hr : e ≠ .refund_issued) :
    NoRefundRow l :=
  fun row hrow => ⟨hl.eventType_ne ha row hrow, hl.eventType_ne hr row hrow⟩

theorem noRefundRow_failure {l : List LedgerRow} {aid : JsString} (hl : LogsFailure l aid) :
    NoRefundRow l :=
  fun row hrow => ⟨hl.eventType_ne (by decide) row hrow, hl.eventType_ne (by decide) row hrow⟩

theorem noRefundRow_nil : NoRefundRow [] := nofun

/-- A refund's part in a step of a task. -/
inductive RefundStep (env : Env) (w : World) (c : TaskWhy) (w' : World) (next : Next Task) : Prop where
  | other (l : List LedgerRow) (es : List Event) (hledger : w'.db.ledger = w.db.ledger ++ l)
      (hl : NoRefundRow l) (hhistory : w'.history = es ++ w.history)
      (hes : ∀ e ∈ es, e.reversal = false)
      (hn : NotRefunding next ∨ ∃ t, c = .running t ∧ next = .park t)
  | anomalyCalled (caller : Caller) (attempt : AttemptRow) (paymentId : JsString)
      (hdue : RefundDue w c caller attempt paymentId)
      (hnone : alreadyRefunded w.db attempt.settlementId paymentId = false)
      (hledger : w'.db.ledger = w.db.ledger)
      (hhistory : w'.history = .refundPayment .anomaly attempt.settlementId paymentId :: w.history)
      (hn : next = .park (.reconcile caller
        (.refundPayment attempt.settlementId attempt.id paymentId)))
  | anomalyRefunded (caller : Caller) (settlementId attemptId paymentId refundId : JsString)
      (lrow : LedgerRow)
      (hc : c = .resumed (.reconcile caller (.refundPayment settlementId attemptId paymentId))
        (.refund (.ok refundId)))
      (hrec : lrow.Records ⟨.anomaly_refund_issued, some settlementId, js "facilitator",
        [(js "attempt_id", .str attemptId), (js "payment_id", .str paymentId),
          (js "refund_id", .str refundId)]⟩)
      (hledger : w'.db.ledger = w.db.ledger ++ [lrow])
      (hhistory : w'.history = .refundSucceeded .anomaly settlementId paymentId refundId :: w.history)
      (hn : NotRefunding next)
  | operatorCalled (settlementId attemptId paymentId : JsString) (amountPaise : Int)
      (hc : c = .request (.postRefund settlementId (some env.dashboardToken)))
      (hnone : findIssuedRefund w.db settlementId = none)
      (hledger : w'.db.ledger = w.db.ledger)
      (hhistory : w'.history = .refundPayment .operator settlementId paymentId :: w.history)
      (hn : next = .park (.refund settlementId attemptId paymentId amountPaise))
  | operatorRefunded (settlementId attemptId paymentId refundId : JsString) (amountPaise : Int)
      (lrow : LedgerRow)
      (hc : c = .resumed (.refund settlementId attemptId paymentId amountPaise)
        (.refund (.ok refundId)))
      (hrec : lrow.Records ⟨.refund_issued, some settlementId, js "dashboard",
        [(js "attempt_id", .str attemptId), (js "payment_id", .str paymentId),
          (js "refund_id", .str refundId), (js "amount_paise", .num amountPaise)]⟩)
      (hledger : w'.db.ledger = w.db.ledger ++ [lrow])
      (hhistory : w'.history = .refundResponse settlementId refundId ::
        .refundSucceeded .operator settlementId paymentId refundId :: w.history)
      (hn : NotRefunding next)
  | operatorUnrecorded (settlementId attemptId paymentId refundId : JsString) (amountPaise : Int)
      (hc : c = .resumed (.refund settlementId attemptId paymentId amountPaise)
        (.refund (.ok refundId)))
      (hinexact : isSafeInt amountPaise = false)
      (hledger : w'.db.ledger = w.db.ledger)
      (hhistory : w'.history = .refundSucceeded .operator settlementId paymentId refundId :: w.history)
      (hn : NotRefunding next)
  | replayed (settlementId refundId : JsString)
      (hfind : findIssuedRefund w.db settlementId = some refundId)
      (hledger : w'.db.ledger = w.db.ledger)
      (hhistory : w'.history = .refundResponse settlementId refundId :: w.history)
      (hn : NotRefunding next)

theorem TaskStep.refundStep {env : Env} {now : Int} {w w' : World} {c : TaskWhy} {next : Next Task}
    (h : TaskStep env now w c w' next) : RefundStep env w c w' next := by
  have hnone : ∀ e ∈ ([] : List Event), e.reversal = false := nofun
  have hone : ∀ {e : Event}, e.reversal = false → ∀ e' ∈ [e], e'.reversal = false := by
    intro e he e' he'
    rw [List.mem_singleton.mp he']
    exact he
  cases h with
  | quiet l hl hw hn =>
    exact .other l [] (congrArg Books.ledger hw) (noRefundRow_incidental hl)
      (congrArg Books.history hw) hnone (Or.inl (notRefunding_plain hn))
  | responded key status body hw hn =>
    exact .other [] [_] ((congrArg Books.ledger hw).trans (List.append_nil _).symm) noRefundRow_nil
      (congrArg Books.history hw) (hone rfl) (Or.inl (notRefunding_plain hn))
  | mandateRegistered l row hl hschema hadd hw hn =>
    exact .other l [] (congrArg Books.ledger hw) (noRefundRow_incidental hl)
      (congrArg Books.history hw) hnone (Or.inl (notRefunding_plain hn))
  | mandateRevoked l mandateId hl hrev hw hn =>
    exact .other l [] (congrArg Books.ledger hw) (noRefundRow_incidental hl)
      (congrArg Books.history hw) hnone (Or.inl (notRefunding_plain hn))
  | settlementCreated l row intent cart key status body hl hadd hfrom hstamp hw hn =>
    have hrows : NoRefundRow l := by
      refine noRefundRow_logs hl ?_ ?_ <;> cases row.state <;> exact nofun
    refine .other l [_, _] (congrArg Books.ledger hw) hrows (congrArg Books.history hw) ?_
      (Or.inl (notRefunding_plain hn))
    intro e he
    rcases List.mem_pair.mp he with rfl | rfl <;> rfl
  | decided l row mandateRow approval rejectReason hl hmandate hsigned happrovals hm hw hn =>
    have hrows : NoRefundRow l := by
      refine noRefundRow_logs hl ?_ ?_ <;> cases approval.decision <;> exact nofun
    exact .other l [] (congrArg Books.ledger hw) hrows (congrArg Books.history hw) hnone
      (Or.inl (notRefunding_plain hn))
  | abandoned l row src hl hsrc hm hw hn =>
    have hrows : NoRefundRow l := by
      rcases hl with hl | hl
      · exact noRefundRow_logs hl nofun nofun
      · exact noRefundRow_logs hl nofun nofun
    exact .other l [] (congrArg Books.ledger hw) hrows (congrArg Books.history hw) hnone
      (Or.inl (notRefunding_plain hn))
  | attemptFailed l row src hl hm hwhy hw hn =>
    exact .other l [] (congrArg Books.ledger hw) (noRefundRow_failure hl)
      (congrArg Books.history hw) hnone (Or.inl (notRefunding_plain hn))
  | reconciling caller attempt orderId hfind hw hn =>
    rw [hn]
    exact .other [] [] ((congrArg Books.ledger hw).trans (List.append_nil _).symm) noRefundRow_nil
      (congrArg Books.history hw) hnone (Or.inl (notRefunding_park rfl))
  | captured caller copy orderId payments latest attempt settlement lrow hc hlast hstatus hid hsid
      hattempt hm hrec hw hn =>
    have hl : Logs [lrow] .payment_captured copy.settlementId :=
      ⟨lrow, rfl, hrec.eventType, hrec.settlementId⟩
    exact .other [lrow] [] (congrArg Books.ledger hw) (noRefundRow_logs hl nofun nofun)
      (congrArg Books.history hw) hnone (Or.inl (notRefunding_plain hn))
  | captureLost caller copy orderId payments latest hc hlast hstatus hactive hstale hw hn =>
    rw [hn]
    exact .other [] [] ((congrArg Books.ledger hw).trans (List.append_nil _).symm) noRefundRow_nil
      (congrArg Books.history hw) hnone (Or.inl (notRefunding_cpu rfl))
  | refundCalled caller attempt paymentId hdue hnone hw hn =>
    exact .anomalyCalled caller attempt paymentId hdue hnone (congrArg Books.ledger hw)
      (congrArg Books.history hw) hn
  | refunded caller settlementId attemptId paymentId refundId lrow hc hrec hw hn =>
    exact .anomalyRefunded caller settlementId attemptId paymentId refundId lrow hc hrec
      (congrArg Books.ledger hw) (congrArg Books.history hw) (notRefunding_plain hn)
  | operatorRefundCalled settlement attempt paymentId hc hmem hstate hnone hattempt hof
      hcaptured hpayment hw hn =>
    exact .operatorCalled settlement.id attempt.id paymentId settlement.amountPaise hc
      hnone (congrArg Books.ledger hw) (congrArg Books.history hw) hn
  | operatorRefunded settlementId attemptId paymentId refundId amountPaise lrow hc hrec hw hn =>
    exact .operatorRefunded settlementId attemptId paymentId refundId amountPaise lrow hc hrec
      (congrArg Books.ledger hw) (congrArg Books.history hw) (notRefunding_plain hn)
  | operatorRefundUnrecorded settlementId attemptId paymentId refundId amountPaise hc hinexact hw hn =>
    exact .operatorUnrecorded settlementId attemptId paymentId refundId amountPaise hc hinexact
      (congrArg Books.ledger hw) (congrArg Books.history hw) (notRefunding_plain hn)
  | refundReplayed settlementId refundId hfind hw hn =>
    exact .replayed settlementId refundId hfind (congrArg Books.ledger hw)
      (congrArg Books.history hw) (notRefunding_plain hn)
  | again t hc hw hn =>
    exact .other [] [] ((congrArg Books.ledger hw).trans (List.append_nil _).symm) noRefundRow_nil
      (congrArg Books.history hw) hnone (Or.inr ⟨t, hc, hn⟩)
  | kickBumped id hb hw hn =>
    exact .other [] [] ((congrArg Books.ledger hw).trans (List.append_nil _).symm) noRefundRow_nil
      (congrArg Books.history hw) hnone (Or.inl (notRefunding_plain hn))

/-- A run of the executor neither refunds nor answers a refund request. -/
theorem JobStep.no_refund {env : Env} {now : Int} {w w' : World} {k : Kick} {c : RunWhy}
    {next : Next RunPoint} (h : JobStep env now w k c w' next) :
    ∃ l es, w'.db.ledger = w.db.ledger ++ l ∧ NoRefundRow l ∧ w'.history = es ++ w.history ∧
      ∀ e ∈ es, e.reversal = false := by
  obtain ⟨es, hes, hkind⟩ := h.emitted
  have hnone : ∀ e ∈ es, e.reversal = false := by
    intro e he
    have hk := hkind e he
    cases e <;> first | rfl | exact nomatch hk
  suffices hl : ∃ l, w'.db.ledger = w.db.ledger ++ l ∧ NoRefundRow l by
    obtain ⟨l, hledger, hrows⟩ := hl
    exact ⟨l, es, hledger, hrows, hes, hnone⟩
  cases h with
  | quiet l hl hw hn => exact ⟨l, congrArg Books.ledger hw, noRefundRow_incidental hl⟩
  | gateRejected l row reason hl hc hkick hre hm hw hn =>
    exact ⟨l, congrArg Books.ledger hw, noRefundRow_logs hl nofun nofun⟩
  | attemptInitiated l settlement attemptNum lastAttemptId attemptId receipt hl hc hnum hadd hw hn =>
    exact ⟨l, congrArg Books.ledger hw, noRefundRow_incidental hl⟩
  | orderFailed l settlement attemptNum attemptId receipt err row hl hc hid hm hw hn =>
    exact ⟨l, congrArg Books.ledger hw, noRefundRow_failure hl⟩
  | captured copy attemptNum attemptId providerOrderId result paymentId attempt settlement lrow hc
      hpaid hid hsid hattempt hm hrec hw hn =>
    have hl : Logs [lrow] .payment_captured copy.id :=
      ⟨lrow, rfl, hrec.eventType, hrec.settlementId⟩
    exact ⟨[lrow], congrArg Books.ledger hw, noRefundRow_logs hl nofun nofun⟩
  | captureLost settlement attemptNum attemptId providerOrderId result paymentId hc hpaid hlost hn =>
    rcases hlost with ⟨hw, -⟩ | ⟨attempt, -, -, -, hw⟩ <;>
      exact ⟨[], (congrArg Books.ledger hw).trans (List.append_nil _).symm, noRefundRow_nil⟩
  | retried l settlement attemptNum attemptId providerOrderId result hl hc hm hw hn =>
    exact ⟨l, congrArg Books.ledger hw, noRefundRow_failure hl⟩
  | linkIssued l settlement lastAttemptId linkAttemptId receipt linkId shortUrl hl hc hissued hw hn =>
    exact ⟨l, congrArg Books.ledger hw, noRefundRow_incidental hl⟩
  | _ =>
    rename_i hw _
    exact ⟨[], (congrArg Books.ledger hw).trans (List.append_nil _).symm, noRefundRow_nil⟩

/-! ## The anomaly compensator -/

/-- The refund of a payment by the compensator has succeeded. -/
def Event.anomalyRefund (settlementId paymentId : JsString) : Event → Bool
  | .refundSucceeded .anomaly s p _ => s == settlementId && p == paymentId
  | _ => false

/-- A reconcile call awaiting the refund of a payment. -/
def Task.refundsAnomaly (settlementId paymentId : JsString) : Task → Bool
  | .reconcile _ (.refundPayment s _ p) => s == settlementId && p == paymentId
  | _ => false

theorem not_refundsAnomaly {t : Task} (h : t.refunding = false) (sid pid : JsString) :
    t.refundsAnomaly sid pid = false := by
  cases t with
  | reconcile caller point => cases point <;> first | rfl | exact nomatch h
  | _ => rfl

/-- No reconcile call asks for the refund of the payment while a refund of it is in flight. -/
def AnomalyAlone (settlementId paymentId : JsString) (s : Sys) (a : Act) : Prop :=
  ∀ c caller attempt, TaskMove s a c → RefundDue s.world c caller attempt paymentId →
    attempt.settlementId = settlementId →
    alreadyRefunded s.world.db settlementId paymentId = false →
    ∀ t ∈ s.tasks, t.refundsAnomaly settlementId paymentId = false

theorem refunds_none {l : List LedgerRow} (hl : NoRefundRow l) (sid pid : JsString) :
    l.countP (·.refunds sid pid) = 0 := by
  refine List.countP_eq_zero.mpr fun row hrow hrefunds => ?_
  simp only [LedgerRow.refunds, Bool.and_eq_true, beq_iff_eq] at hrefunds
  exact (hl row hrow).1 hrefunds.1.1

/-- The compensator's row names its settlement and its payment. -/
theorem refunds_recorded {row : LedgerRow} {settlementId attemptId paymentId refundId : JsString}
    (hrec : row.Records ⟨.anomaly_refund_issued, some settlementId, js "facilitator",
      [(js "attempt_id", .str attemptId), (js "payment_id", .str paymentId),
        (js "refund_id", .str refundId)]⟩) (sid pid : JsString) :
    row.refunds sid pid = (settlementId == sid && paymentId == pid) := by
  have hpayment : (row.payload.get? (js "payment_id")).bind JsonValue.str? = some paymentId := by
    rw [hrec.payload]
    rfl
  rw [LedgerRow.refunds, hrec.eventType, hrec.settlementId, hpayment]
  simp

/-- The operator's row is no row of the compensator. -/
theorem not_refunds {row : LedgerRow} (h : row.eventType ≠ .anomaly_refund_issued)
    (sid pid : JsString) : row.refunds sid pid = false := by
  rw [LedgerRow.refunds, beq_eq_false_iff_ne.mpr h]
  rfl

theorem anomalyRefund_none {es : List Event} (h : ∀ e ∈ es, e.reversal = false)
    (sid pid : JsString) : es.countP (·.anomalyRefund sid pid) = 0 := by
  refine List.countP_eq_zero.mpr fun e he hrefund => ?_
  have hno := h e he
  cases e with
  | refundSucceeded path settlementId paymentId refundId => exact nomatch hno
  | _ => exact nomatch hrefund

/-- **Refunds and their rows go together**: what a step does to the number of successful refunds of
    a payment, and to the number of rows that record them. -/
theorem RefundStep.anomaly_cases {env : Env} {w w' : World} {c : TaskWhy} {next : Next Task}
    (h : RefundStep env w c w' next) (sid pid : JsString) :
    (w'.db.ledger.countP (·.refunds sid pid) = w.db.ledger.countP (·.refunds sid pid) ∧
      w'.history.countP (·.anomalyRefund sid pid) = w.history.countP (·.anomalyRefund sid pid) ∧
      (permits (Task.refundsAnomaly sid pid) next ≤
          permits (Task.refundsAnomaly sid pid) c.before ∨
        ∃ caller attempt, RefundDue w c caller attempt pid ∧ attempt.settlementId = sid ∧
          alreadyRefunded w.db sid pid = false)) ∨
    (w'.db.ledger.countP (·.refunds sid pid) = w.db.ledger.countP (·.refunds sid pid) + 1 ∧
      w'.history.countP (·.anomalyRefund sid pid) =
        w.history.countP (·.anomalyRefund sid pid) + 1 ∧
      permits (Task.refundsAnomaly sid pid) next = 0 ∧
      permits (Task.refundsAnomaly sid pid) c.before = 1) := by
  have hfree : ∀ {n : Next Task}, NotRefunding n → permits (Task.refundsAnomaly sid pid) n = 0 := by
    intro n hn
    cases n with
    | done => rfl
    | cpu t => rw [permits_cpu, not_refundsAnomaly (hn t rfl)]; rfl
    | park t => rw [permits_park, not_refundsAnomaly (hn t rfl)]; rfl
  cases h with
  | other l es hledger hl hhistory hes hn =>
    refine Or.inl ⟨?_, ?_, Or.inl ?_⟩
    · rw [hledger, List.countP_append, refunds_none hl, Nat.add_zero]
    · rw [hhistory, List.countP_append, anomalyRefund_none hes, Nat.zero_add]
    · rcases hn with hn | ⟨t, hc, hn⟩
      · rw [hfree hn]
        exact Nat.zero_le _
      · rw [hc, hn]
        exact Nat.le_refl _
  | anomalyCalled caller attempt paymentId hdue hnone hledger hhistory hn =>
    refine Or.inl ⟨by rw [hledger], ?_, ?_⟩
    · rw [hhistory, List.countP_cons]
      rfl
    · by_cases hpair : attempt.settlementId = sid ∧ paymentId = pid
      · obtain ⟨rfl, rfl⟩ := hpair
        exact Or.inr ⟨caller, attempt, hdue, rfl, hnone⟩
      · have hother : Task.refundsAnomaly sid pid (.reconcile caller
            (.refundPayment attempt.settlementId attempt.id paymentId)) = false := by
          rw [Bool.eq_false_iff]
          intro hboth
          rw [Task.refundsAnomaly, Bool.and_eq_true, beq_iff_eq, beq_iff_eq] at hboth
          exact hpair hboth
        rw [hn, permits_park, hother]
        exact Or.inl (Nat.zero_le _)
  | anomalyRefunded caller settlementId attemptId paymentId refundId lrow hc hrec hledger hhistory hn =>
    rw [hledger, hhistory, List.countP_append, List.countP_singleton, List.countP_cons,
      refunds_recorded hrec, hc, hfree hn]
    by_cases hpair : (settlementId == sid && paymentId == pid) = true
    · refine Or.inr ⟨by rw [if_pos hpair], ?_, rfl, ?_⟩
      · show _ + (if (settlementId == sid && paymentId == pid) = true then 1 else 0) = _
        rw [if_pos hpair]
      · show (if (settlementId == sid && paymentId == pid) = true then 1 else 0) = 1
        rw [if_pos hpair]
    · refine Or.inl ⟨by rw [if_neg hpair]; rfl, ?_, Or.inl (Nat.zero_le _)⟩
      show _ + (if (settlementId == sid && paymentId == pid) = true then 1 else 0) = _
      rw [if_neg hpair]
      rfl
  | operatorCalled settlementId attemptId paymentId amountPaise hc hnone hledger hhistory hn =>
    refine Or.inl ⟨by rw [hledger], ?_, Or.inl ?_⟩
    · rw [hhistory, List.countP_cons]
      rfl
    · rw [hn]
      exact Nat.zero_le _
  | operatorRefunded settlementId attemptId paymentId refundId amountPaise lrow hc hrec hledger
      hhistory hn =>
    have hother : lrow.refunds sid pid = false := not_refunds (by rw [hrec.eventType]; exact nofun) _ _
    refine Or.inl ⟨?_, ?_, Or.inl ?_⟩
    · rw [hledger, List.countP_append, List.countP_singleton, hother]
      rfl
    · rw [hhistory, List.countP_cons, List.countP_cons]
      rfl
    · rw [hfree hn]
      exact Nat.zero_le _
  | operatorUnrecorded settlementId attemptId paymentId refundId amountPaise hc hinexact hledger
      hhistory hn =>
    refine Or.inl ⟨by rw [hledger], ?_, Or.inl ?_⟩
    · rw [hhistory, List.countP_cons]
      rfl
    · rw [hfree hn]
      exact Nat.zero_le _
  | replayed settlementId refundId hfind hledger hhistory hn =>
    refine Or.inl ⟨by rw [hledger], ?_, Or.inl ?_⟩
    · rw [hhistory, List.countP_cons]
      rfl
    · rw [hfree hn]
      exact Nat.zero_le _

theorem JobStep.anomaly_same {env : Env} {now : Int} {w w' : World} {k : Kick} {c : RunWhy}
    {next : Next RunPoint} (h : JobStep env now w k c w' next) (sid pid : JsString) :
    w'.db.ledger.countP (·.refunds sid pid) = w.db.ledger.countP (·.refunds sid pid) ∧
    w'.history.countP (·.anomalyRefund sid pid) = w.history.countP (·.anomalyRefund sid pid) := by
  obtain ⟨l, es, hledger, hl, hhistory, hes⟩ := h.no_refund
  rw [hledger, hhistory, List.countP_append, List.countP_append, refunds_none hl,
    anomalyRefund_none hes]
  exact ⟨Nat.add_zero _, Nat.zero_add _⟩

/-- A task adds a row or a refund call for a pair only in the place of a call in flight, or when there
    was neither. -/
theorem TaskStep.anomaly_load {env : Env} {s : Sys} {a : Act} {c : TaskWhy} {w' : World}
    {next : Next Task} {sid pid : JsString} (hmove : TaskMove s a c) (hok : AnomalyAlone sid pid s a)
    (h : TaskStep env s.clock s.world c w' next) :
    w'.db.ledger.countP (·.refunds sid pid) + permits (Task.refundsAnomaly sid pid) next ≤
        s.world.db.ledger.countP (·.refunds sid pid) +
          permits (Task.refundsAnomaly sid pid) c.before ∨
      (s.world.db.ledger.countP (·.refunds sid pid) = 0 ∧
        (∀ t ∈ s.tasks, t.refundsAnomaly sid pid = false) ∧
        w'.db.ledger.countP (·.refunds sid pid) + permits (Task.refundsAnomaly sid pid) next ≤ 1) := by
  have hstep : RefundStep env s.world c w' next := TaskStep.refundStep h
  rcases hstep.anomaly_cases sid pid with ⟨hrows, -, hle | ⟨caller, attempt, hdue, hsid, hnone⟩⟩ |
    ⟨hrows, -, hafter, hbefore⟩
  · left
    omega
  · -- a refund is started: the check found no row, and none is in flight
    right
    have hzero : s.world.db.ledger.countP (·.refunds sid pid) = 0 := by
      refine List.countP_eq_zero.mpr fun row hrow => ?_
      exact (List.any_eq_false.mp hnone) row hrow
    have hone : permits (Task.refundsAnomaly sid pid) next ≤ 1 := by
      cases next <;> simp only [permits] <;> first | omega | (split <;> omega)
    exact ⟨hzero, hok c caller attempt hmove hdue hsid hnone, by omega⟩
  · left
    omega

/-- The rows of a pair, and the refund calls in flight for it. -/
def anomalyPermit (env : Env) (sid pid : JsString) :
    Permit (facilitatorSpec env) (AnomalyAlone sid pid) where
  used := fun w => w.db.ledger.countP (·.refunds sid pid)
  holds := Task.refundsAnomaly sid pid
  taskStep := fun _ _ _ _ _ hmove hok h => TaskStep.anomaly_load hmove hok h
  jobStep := fun _ _ _ _ _ _ _ _ h => Nat.le_of_eq (JobStep.anomaly_same h sid pid).1

/-- Every successful refund has its row. -/
theorem Reachable.anomaly_recorded {env : Env} {s : Sys} (h : Reachable env s)
    (sid pid : JsString) : s.world.history.countP (·.anomalyRefund sid pid)
      = s.world.db.ledger.countP (·.refunds sid pid) := by
  refine (soundOutline env).invariant
    (I := fun w => w.history.countP (·.anomalyRefund sid pid)
      = w.db.ledger.countP (·.refunds sid pid)) ?_ ?_ (sound_initial env.crypto) rfl h
  · intro now w c w' next _ _ hsame hstep _
    rcases (TaskStep.refundStep hstep).anomaly_cases sid pid with ⟨hrows, hes, -⟩ |
      ⟨hrows, hes, -⟩
    · rw [hrows, hes, hsame]
    · rw [hrows, hes, hsame]
  · intro now w k c w' next _ _ hsame hstep _
    rw [(JobStep.anomaly_same hstep sid pid).1, (JobStep.anomaly_same hstep sid pid).2, hsame]

/-- **Anomaly refund at most once.**  In a run in which no refund of a payment is started while one
    is in flight, at most one refund of it succeeds and at most one ledger row records one. -/
theorem anomaly_refund_once {env : Env} {s : Sys} {settlementId paymentId : JsString}
    (h : Run (facilitator env) (AnomalyAlone settlementId paymentId) Sys.initial s) :
    s.world.history.countP (·.anomalyRefund settlementId paymentId) ≤ 1 ∧
    s.world.db.ledger.countP (·.refunds settlementId paymentId) ≤ 1 := by
  have hload : s.world.db.ledger.countP (·.refunds settlementId paymentId) +
      s.tasks.countP (Task.refundsAnomaly settlementId paymentId) ≤ 1 :=
    (anomalyPermit env settlementId paymentId).at_most_one (w := World.initial) (Nat.zero_le 1) h
  have hsame := Reachable.anomaly_recorded h.any settlementId paymentId
  rw [hsame]
  exact ⟨by omega, by omega⟩

/-- Nothing but the provider's answer moves while a refund of the payment is in flight. -/
def anomalyAnswered (settlementId paymentId : JsString) (s : Sys) : Act → Bool
  | .resumeTask _ (.refund _) => true
  | _ => s.tasks.all fun t => !t.refundsAnomaly settlementId paymentId

theorem anomalyAlone_of_check {settlementId paymentId : JsString} (s : Sys) (a : Act)
    (h : anomalyAnswered settlementId paymentId s a = true) :
    AnomalyAlone settlementId paymentId s a := by
  intro c caller attempt hmove hdue _ _ t ht
  have hall : (s.tasks.all fun t => !t.refundsAnomaly settlementId paymentId) = true := by
    cases hdue with
    | anomaly orderId payments latest hc hlast hstatus hid hcopy hwhy =>
      rw [hc] at hmove
      cases hmove
      exact h
    | lostRace hc =>
      rw [hc] at hmove
      cases hmove
      exact h
  have hnone := List.all_eq_true.mp hall t ht
  rwa [Bool.not_eq_true'] at hnone

/-- The first attempt of the demo settlement has failed, and the process has restarted. -/
def demoFailed : List Act :=
  demoCheckout ++ [.resumeJob (.checkout (.ok ⟨false, none, none, none⟩)), .crash]

/-- A webhook for order `o1`, up to its call to the provider. -/
def demoWebhook (eventId : JsString) : List Act :=
  [.request (.postWebhook (js "o1") (some (js "o1")) (some eventId)) [], .runTask []]

/-- A late capture of the failed attempt's order is refunded once, and a second webhook finds the
    row. -/
theorem anomaly_refund_once_demo : ∃ s : Sys, Reachable demoEnv s ∧
    s.world.history.countP (·.anomalyRefund (js "s1") (js "p1")) ≤ 1 ∧
    s.world.db.ledger.countP (·.refunds (js "s1") (js "p1")) ≤ 1 := by
  have hcheck : (runIf (facilitator demoEnv) (anomalyAnswered (js "s1") (js "p1")) Sys.initial
      (demoFailed ++ demoWebhook (js "e1") ++
        [.resumeTask 0 (.payments (.ok [⟨js "p1", js "captured"⟩])),
          .resumeTask 0 (.refund (.ok (js "r1")))] ++ demoWebhook (js "e2") ++
        [.resumeTask 0 (.payments (.ok [⟨js "p1", js "captured"⟩]))])).isSome = true := by
    decide +kernel
  obtain ⟨s, hs⟩ := Option.isSome_iff_exists.mp hcheck
  have hrun := Run.of_runIf anomalyAlone_of_check hs
  exact ⟨s, hrun.any, anomaly_refund_once hrun⟩

/-- Two webhooks for one late capture both find no row, and both refunds succeed. -/
theorem anomaly_refunded_twice : ¬ ∀ (env : Env) (s : Sys) (settlementId paymentId : JsString),
    Reachable env s →
      s.world.history.countP (·.anomalyRefund settlementId paymentId) ≤ 1 ∧
      s.world.db.ledger.countP (·.refunds settlementId paymentId) ≤ 1 := by
  intro hclaim
  obtain ⟨s, hreach, hp⟩ := reachable_of_run demoEnv
    (demoFailed ++ demoWebhook (js "e1") ++
      [.resumeTask 0 (.payments (.ok [⟨js "p1", js "captured"⟩]))] ++ demoWebhook (js "e2") ++
      [.resumeTask 1 (.payments (.ok [⟨js "p1", js "captured"⟩])),
        .resumeTask 0 (.refund (.ok (js "r1"))), .resumeTask 0 (.refund (.ok (js "r1")))])
    (fun s => s.world.history.countP (·.anomalyRefund (js "s1") (js "p1")) == 2)
    (by decide +kernel)
  rw [beq_iff_eq] at hp
  have htwo := (hclaim demoEnv s (js "s1") (js "p1") hreach).1
  omega

/-! ## The operator's route -/

/-- An operator's refund of the settlement has succeeded. -/
def Event.operatorRefund (settlementId : JsString) : Event → Bool
  | .refundSucceeded .operator s _ _ => s == settlementId
  | _ => false

/-- A refund request of the settlement awaiting the provider. -/
def Task.refundsOperator (settlementId : JsString) : Task → Bool
  | .refund s _ _ _ => s == settlementId
  | _ => false

/-- The refund id a row records. -/
def LedgerRow.refundId (row : LedgerRow) : JsString :=
  ((row.payload.get? (js "refund_id")).bind JsonValue.str?).getD []

theorem not_refundsOperator {t : Task} (h : t.refunding = false) (sid : JsString) :
    t.refundsOperator sid = false := by
  cases t with
  | refund settlementId attemptId paymentId amountPaise => exact nomatch h
  | _ => rfl

/-- No refund request of the settlement that finds no issued refund arrives while one awaits the
    provider. -/
def OperatorAlone (env : Env) (settlementId : JsString) (s : Sys) (a : Act) : Prop :=
  ∀ seed, a = .request (.postRefund settlementId (some env.dashboardToken)) seed →
    findIssuedRefund s.world.db settlementId = none →
    ∀ t ∈ s.tasks, t.refundsOperator settlementId = false

theorem issued_none {l : List LedgerRow} (hl : NoRefundRow l) (sid : JsString) :
    l.countP (·.refundIssued sid) = 0 := by
  refine List.countP_eq_zero.mpr fun row hrow hissued => ?_
  rw [LedgerRow.refundIssued, Bool.and_eq_true, beq_iff_eq] at hissued
  exact (hl row hrow).2 hissued.1

theorem operatorRefund_none {es : List Event} (h : ∀ e ∈ es, e.reversal = false)
    (sid : JsString) : es.countP (·.operatorRefund sid) = 0 := by
  refine List.countP_eq_zero.mpr fun e he hrefund => ?_
  have hno := h e he
  cases e with
  | refundSucceeded path settlementId paymentId refundId => exact nomatch hno
  | _ => exact nomatch hrefund

theorem findIssuedRefund_eq_none {db : Db} {sid : JsString} (h : findIssuedRefund db sid = none) :
    db.ledger.countP (·.refundIssued sid) = 0 := by
  rw [findIssuedRefund, Option.map_eq_none_iff, List.find?_eq_none] at h
  exact List.countP_eq_zero.mpr h

/-- What the route answers from the ledger is the id of a recorded refund. -/
theorem findIssuedRefund_eq_some {db : Db} {sid rid : JsString}
    (h : findIssuedRefund db sid = some rid) :
    ∃ row ∈ db.ledger, row.refundIssued sid = true ∧ row.refundId = rid := by
  obtain ⟨row, hrow, hid⟩ := Option.map_eq_some_iff.mp h
  exact ⟨row, List.mem_of_find?_eq_some hrow, List.find?_some hrow, hid⟩

/-- What the books say of the operator's refunds: each has its row, and each answered id is a
    row's. -/
structure OperatorRecorded (sid : JsString) (w : World) : Prop where
  count : w.history.countP (·.operatorRefund sid) = w.db.ledger.countP (·.refundIssued sid)
  answered : ∀ rid, .refundResponse sid rid ∈ w.history →
    ∃ row ∈ w.db.ledger, row.refundIssued sid = true ∧ row.refundId = rid

/-- Nothing of the operator's refunds in a step. -/
theorem OperatorRecorded.frame {sid : JsString} {w w' : World} (h : OperatorRecorded sid w)
    {l : List LedgerRow} (es : List Event) (hledger : w'.db.ledger = w.db.ledger ++ l)
    (hl : l.countP (·.refundIssued sid) = 0) (hhistory : w'.history = es ++ w.history)
    (hes : es.countP (·.operatorRefund sid) = 0) (hresp : ∀ rid, .refundResponse sid rid ∉ es) :
    OperatorRecorded sid w' where
  count := by
    rw [hledger, hhistory, List.countP_append, List.countP_append, hl, hes, h.count, Nat.zero_add,
      Nat.add_zero]
  answered := by
    intro rid hmem
    rw [hhistory] at hmem
    rcases List.mem_append.mp hmem with hmem | hmem
    · exact absurd hmem (hresp rid)
    · obtain ⟨row, hrow, hissued⟩ := h.answered rid hmem
      rw [hledger]
      exact ⟨row, List.mem_append_left _ hrow, hissued⟩

/-- The operator's row names its settlement and its refund. -/
theorem issued_recorded {row : LedgerRow} {settlementId attemptId paymentId refundId : JsString}
    {amountPaise : Int}
    (hrec : row.Records ⟨.refund_issued, some settlementId, js "dashboard",
      [(js "attempt_id", .str attemptId), (js "payment_id", .str paymentId),
        (js "refund_id", .str refundId), (js "amount_paise", .num amountPaise)]⟩) (sid : JsString) :
    row.refundIssued sid = (settlementId == sid) ∧ row.refundId = refundId := by
  constructor
  · rw [LedgerRow.refundIssued, hrec.eventType, hrec.settlementId]
    simp
  · rw [LedgerRow.refundId, hrec.payload]
    rfl

theorem not_issued {row : LedgerRow} (h : row.eventType ≠ .refund_issued) (sid : JsString) :
    row.refundIssued sid = false := by
  rw [LedgerRow.refundIssued, beq_eq_false_iff_ne.mpr h]
  rfl

/-- What a step does to the operator's rows, and to the calls in flight. -/
theorem RefundStep.operator_cases {env : Env} {w w' : World} {c : TaskWhy} {next : Next Task}
    (h : RefundStep env w c w' next) (sid : JsString) :
    w'.db.ledger.countP (·.refundIssued sid) + permits (Task.refundsOperator sid) next ≤
      w.db.ledger.countP (·.refundIssued sid) + permits (Task.refundsOperator sid) c.before ∨
    (w'.db.ledger.countP (·.refundIssued sid) = w.db.ledger.countP (·.refundIssued sid) ∧
      permits (Task.refundsOperator sid) next ≤ 1 ∧ findIssuedRefund w.db sid = none ∧
      c = .request (.postRefund sid (some env.dashboardToken))) := by
  have hfree : ∀ {n : Next Task}, NotRefunding n → permits (Task.refundsOperator sid) n = 0 := by
    intro n hn
    cases n with
    | done => rfl
    | cpu t => rw [permits_cpu, not_refundsOperator (hn t rfl)]; rfl
    | park t => rw [permits_park, not_refundsOperator (hn t rfl)]; rfl
  cases h with
  | other l es hledger hl hhistory hes hn =>
    left
    rw [hledger, List.countP_append, issued_none hl, Nat.add_zero]
    rcases hn with hn | ⟨t, hc, hn⟩
    · rw [hfree hn]
      exact Nat.le_add_right _ _
    · rw [hc, hn]
      exact Nat.le_refl _
  | anomalyCalled caller attempt paymentId hdue hnone hledger hhistory hn =>
    left
    rw [hledger, hn]
    exact Nat.le_add_right _ _
  | anomalyRefunded caller settlementId attemptId paymentId refundId lrow hc hrec hledger hhistory hn =>
    left
    have hother : lrow.refundIssued sid = false := not_issued (by rw [hrec.eventType]; exact nofun) _
    rw [hledger, List.countP_append, List.countP_singleton, hother, hfree hn]
    exact Nat.le_add_right _ _
  | operatorCalled settlementId attemptId paymentId amountPaise hc hnone hledger hhistory hn =>
    by_cases hsid : settlementId = sid
    · subst hsid
      refine Or.inr ⟨by rw [hledger], ?_, hnone, hc⟩
      rw [hn, permits_park]
      split <;> omega
    · left
      have hother : Task.refundsOperator sid (.refund settlementId attemptId paymentId amountPaise)
          = false := beq_eq_false_iff_ne.mpr hsid
      rw [hledger, hn, permits_park, hother]
      exact Nat.le_add_right _ _
  | operatorRefunded settlementId attemptId paymentId refundId amountPaise lrow hc hrec hledger
      hhistory hn =>
    -- the row takes the place of the call in flight
    left
    have hpermit : permits (Task.refundsOperator sid) c.before
        = if (settlementId == sid) = true then 1 else 0 := by
      rw [hc]
      rfl
    rw [hledger, List.countP_append, List.countP_singleton, (issued_recorded hrec sid).1, hfree hn,
      hpermit, Nat.add_zero]
  | operatorUnrecorded settlementId attemptId paymentId refundId amountPaise hc hinexact hledger
      hhistory hn =>
    left
    rw [hledger, hfree hn]
    exact Nat.le_add_right _ _
  | replayed settlementId refundId hfind hledger hhistory hn =>
    left
    rw [hledger, hfree hn]
    exact Nat.le_add_right _ _

/-- The rows of a settlement, and the refund calls in flight for it. -/
def operatorPermit (env : Env) (sid : JsString) :
    Permit (facilitatorSpec env) (OperatorAlone env sid) where
  used := fun w => w.db.ledger.countP (·.refundIssued sid)
  holds := Task.refundsOperator sid
  taskStep := by
    intro s a c w' next hmove hok h
    have hstep : RefundStep env s.world c w' next := TaskStep.refundStep h
    rcases hstep.operator_cases sid with hle | ⟨hrows, hone, hnone, hc⟩
    · exact Or.inl hle
    · right
      have hzero := findIssuedRefund_eq_none hnone
      rw [hc] at hmove
      cases hmove with
      | request r seed hfree => exact ⟨hzero, hok seed rfl hnone, by omega⟩
  jobStep := by
    intro s a k c w' next hmove hok h
    obtain ⟨l, es, hledger, hl, -, -⟩ := JobStep.no_refund h
    rw [hledger, List.countP_append, issued_none hl, Nat.add_zero]

/-- Each refund keeps its row, provided the amount in flight is one that the ledger can record. -/
theorem RefundStep.operator_recorded {env : Env} {w w' : World} {c : TaskWhy} {next : Next Task}
    (h : RefundStep env w c w' next) (sid : JsString) (hsafe : taskSound w c.before)
    (hrec : OperatorRecorded sid w) : OperatorRecorded sid w' := by
  have hnil : w.db.ledger = w.db.ledger ++ [] := (List.append_nil _).symm
  have hnoanswer : ∀ {e : Event}, e.reversal = false → ∀ rid, .refundResponse sid rid ∉ [e] := by
    intro e he rid hmem
    rw [← List.mem_singleton.mp hmem] at he
    exact nomatch he
  cases h with
  | other l es hledger hl hhistory hes hn =>
    exact hrec.frame es hledger (issued_none hl sid) hhistory (operatorRefund_none hes sid)
      fun rid hmem => nomatch hes _ hmem
  | anomalyCalled caller attempt paymentId hdue hnone hledger hhistory hn =>
    exact hrec.frame [_] (hledger.trans hnil) rfl hhistory rfl (hnoanswer rfl)
  | anomalyRefunded caller settlementId attemptId paymentId refundId lrow hc hrow hledger hhistory hn =>
    have hother : lrow.refundIssued sid = false := not_issued (by rw [hrow.eventType]; exact nofun) _
    refine hrec.frame [_] hledger ?_ hhistory rfl ?_
    · rw [List.countP_singleton, hother]
      rfl
    · intro rid hmem
      exact nomatch List.mem_singleton.mp hmem
  | operatorCalled settlementId attemptId paymentId amountPaise hc hnone hledger hhistory hn =>
    exact hrec.frame [_] (hledger.trans hnil) rfl hhistory rfl (hnoanswer rfl)
  | operatorRefunded settlementId attemptId paymentId refundId amountPaise lrow hc hrow hledger
      hhistory hn =>
    obtain ⟨hissued, hid⟩ := issued_recorded hrow sid
    constructor
    · rw [hledger, hhistory, List.countP_append, List.countP_singleton, List.countP_cons,
        List.countP_cons, hissued, hrec.count]
      rfl
    · intro rid hmem
      rw [hhistory] at hmem
      rw [hledger]
      rcases List.mem_cons.mp hmem with heq | hmem
      · obtain ⟨rfl, rfl⟩ := Event.refundResponse.inj heq
        exact ⟨lrow, List.mem_append_right _ (List.mem_singleton.mpr rfl),
          hissued.trans (beq_self_eq_true _), hid⟩
      · rcases List.mem_cons.mp hmem with heq | hmem
        · exact nomatch heq
        · obtain ⟨row, hold, hboth⟩ := hrec.answered rid hmem
          exact ⟨row, List.mem_append_left _ hold, hboth⟩
  | operatorUnrecorded settlementId attemptId paymentId refundId amountPaise hc hinexact hledger
      hhistory hn =>
    -- the amount is a registered total, which the ledger does record
    rw [hc] at hsafe
    have hexact : isSafeInt amountPaise = true := hsafe _ rfl
    rw [hexact] at hinexact
    exact nomatch hinexact
  | replayed settlementId refundId hfind hledger hhistory hn =>
    constructor
    · rw [hledger, hhistory, List.countP_cons]
      exact hrec.count
    · intro rid hmem
      rw [hhistory] at hmem
      rw [hledger]
      rcases List.mem_cons.mp hmem with heq | hmem
      · obtain ⟨rfl, rfl⟩ := Event.refundResponse.inj heq
        exact findIssuedRefund_eq_some hfind
      · exact hrec.answered rid hmem

theorem Reachable.operator_recorded {env : Env} {s : Sys} (h : Reachable env s) (sid : JsString) :
    OperatorRecorded sid s.world := by
  refine (soundOutline env).invariant (I := OperatorRecorded sid) ?_ ?_ (sound_initial env.crypto)
    ⟨rfl, fun _ hmem => absurd hmem List.not_mem_nil⟩ h
  · intro now w c w' next _ hsound hrec hstep _
    exact (TaskStep.refundStep hstep).operator_recorded sid hsound hrec
  · intro now w k c w' next _ _ hrec hstep _
    obtain ⟨l, es, hledger, hl, hhistory, hes⟩ := JobStep.no_refund hstep
    exact hrec.frame es hledger (issued_none hl sid) hhistory (operatorRefund_none hes sid)
      fun rid hmem => nomatch hes _ hmem

/-- At most one refund of the settlement has succeeded, at most one row records one, and the
    successful responses carry one id. -/
structure RefundedOnce (settlementId : JsString) (w : World) : Prop where
  succeeded : w.history.countP (·.operatorRefund settlementId) ≤ 1
  recorded : w.db.ledger.countP (·.refundIssued settlementId) ≤ 1
  answered : ∀ rid rid', .refundResponse settlementId rid ∈ w.history →
    .refundResponse settlementId rid' ∈ w.history → rid = rid'

/-- **Operator refund at most once.**  In a run in which no refund request of a settlement that finds
    no issued refund arrives while one awaits the provider, the settlement is refunded once. -/
theorem operator_refund_once {env : Env} {s : Sys} {settlementId : JsString}
    (h : Run (facilitator env) (OperatorAlone env settlementId) Sys.initial s) :
    RefundedOnce settlementId s.world := by
  have hload : s.world.db.ledger.countP (·.refundIssued settlementId) +
      s.tasks.countP (Task.refundsOperator settlementId) ≤ 1 :=
    (operatorPermit env settlementId).at_most_one (w := World.initial) (Nat.zero_le 1) h
  have hrec := Reachable.operator_recorded h.any settlementId
  have hone : s.world.db.ledger.countP (·.refundIssued settlementId) ≤ 1 := by omega
  refine ⟨hrec.count ▸ hone, hone, ?_⟩
  intro rid rid' hrid hrid'
  obtain ⟨row, hrow, hissued, rfl⟩ := hrec.answered rid hrid
  obtain ⟨row', hrow', hissued', rfl⟩ := hrec.answered rid' hrid'
  rw [eq_of_countP_le_one hone hrow hissued hrow' hissued']

/-- Nothing but the provider's answer moves while a refund of the settlement is in flight. -/
def operatorAnswered (settlementId : JsString) (s : Sys) : Act → Bool
  | .request (.postRefund _ _) _ => s.tasks.all fun t => !t.refundsOperator settlementId
  | _ => true

theorem operatorAlone_of_check (env : Env) {settlementId : JsString} (s : Sys) (a : Act)
    (h : operatorAnswered settlementId s a = true) : OperatorAlone env settlementId s a := by
  rintro seed rfl _ t ht
  have hnone := List.all_eq_true.mp h t ht
  rwa [Bool.not_eq_true'] at hnone

/-- The driver has captured the demo settlement. -/
def demoCaptured : List Act :=
  demoCheckout ++ [.resumeJob (.checkout (.ok ⟨true, some (js "p1"), some (js "captured"), none⟩)),
    .endJob]

/-- A refund fails, is retried, and is asked for once more. -/
theorem operator_refund_once_demo : ∃ s : Sys, Reachable demoEnv s ∧
    RefundedOnce (js "s1") s.world := by
  have hcheck : (runIf (facilitator demoEnv) (operatorAnswered (js "s1")) Sys.initial
      (demoCaptured ++ [.request (.postRefund (js "s1") (some (js "dashboard"))) [],
        .resumeTask 0 (.refund (.error (.razorpayApiError (js "timeout") none))),
        .request (.postRefund (js "s1") (some (js "dashboard"))) [],
        .resumeTask 0 (.refund (.ok (js "r1"))),
        .request (.postRefund (js "s1") (some (js "dashboard"))) []])).isSome = true := by
    decide +kernel
  obtain ⟨s, hs⟩ := Option.isSome_iff_exists.mp hcheck
  have hrun := Run.of_runIf (operatorAlone_of_check demoEnv) hs
  exact ⟨s, hrun.any, operator_refund_once hrun⟩

/-- A double submit: the second request comes while the first awaits the provider. -/
theorem operator_refunded_twice : ¬ ∀ (env : Env) (s : Sys) (settlementId : JsString),
    Reachable env s → RefundedOnce settlementId s.world := by
  intro hclaim
  obtain ⟨s, hreach, hp⟩ := reachable_of_run demoEnv
    (demoCaptured ++ [.request (.postRefund (js "s1") (some (js "dashboard"))) [],
      .request (.postRefund (js "s1") (some (js "dashboard"))) [],
      .resumeTask 0 (.refund (.ok (js "r1"))), .resumeTask 0 (.refund (.ok (js "r1")))])
    (fun s => s.world.history.countP (·.operatorRefund (js "s1")) == 2) (by decide +kernel)
  rw [beq_iff_eq] at hp
  have hone := (hclaim demoEnv s (js "s1") hreach).succeeded
  omega

end Hundi
