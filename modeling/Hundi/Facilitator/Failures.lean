/-
  What the ledger says of failed attempts.

  Three components append `payment_failed` after a provider await.  The reconcile call and the sweep
  append only when they won the compare-and-swap on the attempt; the executor appends after its
  driver has failed even when the attempt was moved meanwhile.  `failures_are_true` is for the runs
  in which the driver's answer finds its attempt still `initiated`, `failure_of_captured` is a run
  in which a webhook was faster.
-/
import Hundi.Facilitator.Interference

namespace Hundi

open Js EventLoop

/-- The row reports the failure of the attempt. -/
def LedgerRow.reportsFailure (attemptId : JsString) (row : LedgerRow) : Bool :=
  row.eventType == .payment_failed && row.attemptId? == some attemptId

/-- How many `payment_failed` rows name the attempt. -/
def failures (ledger : List LedgerRow) (attemptId : JsString) : Nat :=
  ledger.countP (·.reportsFailure attemptId)

/-- At most one `payment_failed` row names an attempt, and only one that is `failed`. -/
def FailureLog (b : Books) : Prop :=
  ∀ id, failures b.ledger id = 0 ∨
    failures b.ledger id = 1 ∧ ∃ a ∈ b.attempts.rows, a.id = id ∧ a.state = .failed

theorem failures_append (ledger l : List LedgerRow) (id : JsString) :
    failures (ledger ++ l) id = failures ledger id + failures l id :=
  List.countP_append

/-- Rows of other types report no failure. -/
theorem failures_other {l : List LedgerRow} (h : ∀ row ∈ l, row.eventType ≠ .payment_failed)
    (id : JsString) : failures l id = 0 := by
  refine List.countP_eq_zero.mpr fun row hrow hreports => ?_
  rw [LedgerRow.reportsFailure, Bool.and_eq_true, beq_iff_eq] at hreports
  exact h row hrow hreports.1

theorem failures_incidental {l : List LedgerRow} (hl : Incidental l) (id : JsString) :
    failures l id = 0 :=
  failures_other (hl.eventType_ne rfl) id

theorem failures_logs {l : List LedgerRow} {e : LedgerEventType} {sid : JsString} (hl : Logs l e sid)
    (he : e ≠ .payment_failed) (id : JsString) : failures l id = 0 :=
  failures_other (hl.eventType_ne he) id

theorem failures_one {l : List LedgerRow} {attemptId : JsString} (hl : LogsFailure l attemptId)
    (id : JsString) : failures l id = if attemptId = id then 1 else 0 := by
  obtain ⟨row, rfl, hevent, hattempt⟩ := hl
  rw [failures, List.countP_singleton, LedgerRow.reportsFailure, hevent, hattempt]
  by_cases hsame : attemptId = id
  · simp [hsame]
  · simp [hsame]

/-! ## What each effect does to the log -/

/-- No failure was recorded, and failed attempts stay failed. -/
theorem FailureLog.kept {b b' : Books} (h : FailureLog b) (hp : Persists b b') (l : List LedgerRow)
    (hledger : b'.ledger = b.ledger ++ l) (hl : ∀ id, failures l id = 0) : FailureLog b' := by
  intro id
  rw [hledger, failures_append, hl id, Nat.add_zero]
  rcases h id with hzero | ⟨hone, a, ha, hid, hfailed⟩
  · exact Or.inl hzero
  · obtain ⟨a', ha', hkept⟩ := hp.attempts a ha
    have hstill := (hkept.final (by rw [hfailed]; rfl)).1
    exact Or.inr ⟨hone, a', ha', hkept.id.trans hid, hstill.trans hfailed⟩

/-- An attempt failed, and the row that says so was written. -/
theorem FailureLog.failed {b b' : Books} (h : FailureLog b) (hp : Persists b b') {now : Int}
    {row : AttemptRow} {src : AttemptState}
    (hm : AttemptMoved now b.attempts b'.attempts row src .failed) (l : List LedgerRow)
    (hledger : b'.ledger = b.ledger ++ l) (hl : LogsFailure l row.id) : FailureLog b' := by
  intro id
  rw [hledger, failures_append, failures_one hl]
  by_cases hid : row.id = id
  · -- the attempt was active, so no row named it before
    have hzero : failures b.ledger id = 0 := by
      rcases h id with hzero | ⟨-, a, ha, haid, hfailed⟩
      · exact hzero
      · have hactive := hm.active
        rw [← attempt_eq ha hm.mem (haid.trans hid.symm), hfailed] at hactive
        exact nomatch hactive
    rw [if_pos hid, hzero]
    exact Or.inr ⟨rfl, _, hm.mem_iff.mpr (Or.inl rfl), hid, rfl⟩
  · rw [if_neg hid, Nat.add_zero]
    rcases h id with hzero | ⟨hone, a, ha, haid, hfailed⟩
    · exact Or.inl hzero
    · obtain ⟨a', ha', hkept⟩ := hp.attempts a ha
      have hstill := (hkept.final (by rw [hfailed]; rfl)).1
      exact Or.inr ⟨hone, a', ha', hkept.id.trans haid, hstill.trans hfailed⟩

/-! ## The steps -/

theorem TaskStep.failureLog {env : Env} {now : Int} {w w' : World} {c : TaskWhy} {next : Next Task}
    (h : TaskStep env now w c w' next) (hf : FailureLog w.books) : FailureLog w'.books := by
  have hp := h.persists
  have hledger : ∀ {l}, w'.books.ledger = w.books.ledger ++ l → (∀ id, failures l id = 0) →
      FailureLog w'.books := fun hl hzero => hf.kept hp _ hl hzero
  have hsame : w'.books.ledger = w.books.ledger → FailureLog w'.books := fun hl =>
    hledger (l := []) (by rw [hl, List.append_nil]) fun _ => rfl
  cases h with
  | quiet l hl hw hn => exact hledger (by rw [hw]; rfl) (failures_incidental hl)
  | mandateRegistered l row hl hschema hadd hw hn =>
    exact hledger (by rw [hw]; rfl) (failures_incidental hl)
  | mandateRevoked l mandateId hl hrev hw hn =>
    exact hledger (by rw [hw]; rfl) (failures_incidental hl)
  | settlementCreated l row intent cart key status body hl hadd hfrom hstamp hw hn =>
    have hother : creationEvent row.state ≠ .payment_failed := by cases row.state <;> exact nofun
    exact hledger (by rw [hw]; rfl) (failures_logs hl hother)
  | decided l row mandateRow approval rejectReason hl hmandate hsigned happrovals hm hw hn =>
    have hother : decisionEvent approval.decision ≠ .payment_failed := by
      cases approval.decision <;> exact nofun
    exact hledger (by rw [hw]; rfl) (failures_logs hl hother)
  | abandoned l row src hl hsrc hm hw hn =>
    rcases hl with hl | hl
    · exact hledger (by rw [hw]; rfl) (failures_logs hl nofun)
    · exact hledger (by rw [hw]; rfl) (failures_logs hl nofun)
  | attemptFailed l row src hl hm hwhy hw hn =>
    have hmoved : AttemptMoved now w.books.attempts w'.books.attempts row src .failed := hm
    exact hf.failed hp hmoved l (by rw [hw]; rfl) hl
  | captured caller copy orderId payments latest attempt settlement lrow hc hlast hstatus hid hsid
      hattempt hm hrec hw hn =>
    have hl : Logs [lrow] .payment_captured copy.settlementId :=
      ⟨lrow, rfl, hrec.eventType, hrec.settlementId⟩
    exact hledger (by rw [hw]; rfl) (failures_logs hl nofun)
  | refunded caller settlementId attemptId paymentId refundId lrow hc hrec hw hn =>
    have hl : Logs [lrow] .anomaly_refund_issued settlementId :=
      ⟨lrow, rfl, hrec.eventType, hrec.settlementId⟩
    exact hledger (by rw [hw]; rfl) (failures_logs hl nofun)
  | operatorRefunded settlementId attemptId paymentId refundId amountPaise lrow hc hrec hw hn =>
    have hl : Logs [lrow] .refund_issued settlementId :=
      ⟨lrow, rfl, hrec.eventType, hrec.settlementId⟩
    exact hledger (by rw [hw]; rfl) (failures_logs hl nofun)
  | _ =>
    rename_i hw _
    exact hsame (by rw [hw])

/-- The driver's answer finds its attempt `initiated`. -/
def AnswerFindsInitiated (w : World) (attemptId : JsString) : Prop :=
  ∃ a ∈ w.db.attempts.rows, a.id = attemptId ∧ a.state = .initiated

/-- Every answer of the checkout driver finds its attempt `initiated`. -/
def AnsweredInitiated (s : Sys) (a : Act) : Prop :=
  ∀ k settlement attemptNum attemptId orderId result,
    s.job = some (k, .waiting (.checkoutPending settlement attemptNum attemptId orderId)) →
    a = .resumeJob (.checkout (.ok result)) → AnswerFindsInitiated s.world attemptId

theorem AnsweredInitiated.open {s : Sys} {a : Act} (h : AnsweredInitiated s a) :
    AnsweredOpen s a := by
  intro k settlement attemptNum attemptId orderId result hjob ha
  exact Or.inl (h k settlement attemptNum attemptId orderId result hjob ha)

/-- The condition where the job has moved. -/
theorem AnsweredInitiated.of_move {s : Sys} {a : Act} {k : Kick} {c : RunWhy}
    (h : AnsweredInitiated s a) (hmove : JobMove s a k c) {settlement : SettlementRow}
    {attemptNum : Nat} {attemptId orderId : JsString} {result : SettleViaCheckoutResult}
    (hc : c = .resumed (.checkoutPending settlement attemptNum attemptId orderId)
      (.checkout (.ok result))) : AnswerFindsInitiated s.world attemptId := by
  cases hmove with
  | start seed k rest hfree hjob hq => exact nomatch hc
  | runJob seed k p hjob => exact nomatch hc
  | resumeJob ans k p hfree hjob =>
    obtain ⟨rfl, rfl⟩ := JobCause.resumed.inj hc
    exact h k settlement attemptNum attemptId orderId result hjob rfl

/-- The point after a capture that lost its race. -/
def RunPoint.lost : RunPoint → Bool
  | .captureLost _ _ _ _ _ => true
  | _ => false

/-- The run is not at that point. -/
def NotLost (next : Next RunPoint) : Prop := ∀ p, next.task? = some p → p.lost = false

theorem notLost_done : NotLost .done := fun _ hp => nomatch hp

theorem notLost_cpu {p : RunPoint} (h : p.lost = false) : NotLost (.cpu p) := by
  intro q hq
  obtain rfl := Option.some.inj hq
  exact h

theorem notLost_park {p : RunPoint} (h : p.lost = false) : NotLost (.park p) := by
  intro q hq
  obtain rfl := Option.some.inj hq
  exact h

theorem JobStep.failureLog {env : Env} {s : Sys} {w' : World} {a : Act} {k : Kick} {c : RunWhy}
    {next : Next RunPoint} (h : JobStep env s.clock s.world k c w' next)
    (hf : FailureLog s.world.books) (hlive : LiveSettling s.world.books)
    (hrun : runSound s.world c.before) (hlost : NotLost c.before) (hmove : JobMove s a k c)
    (hok : AnsweredInitiated s a) : FailureLog w'.books ∧ NotLost next := by
  have hp := h.persists
  have hledger : ∀ {l}, w'.books.ledger = s.world.books.ledger ++ l → (∀ id, failures l id = 0) →
      FailureLog w'.books := fun hl hzero => hf.kept hp _ hl hzero
  have hsame : w'.books.ledger = s.world.books.ledger → FailureLog w'.books := fun hl =>
    hledger (l := []) (by rw [hl, List.append_nil]) fun _ => rfl
  cases h with
  | quiet l hl hw hn =>
    rw [hn]
    exact ⟨hledger (by rw [hw]; rfl) (failures_incidental hl), notLost_done⟩
  | entered row mandateRow ctx hc hkick hre hm hw hn =>
    rw [hn]
    exact ⟨hsame (by rw [hw]), notLost_cpu rfl⟩
  | gateRejected l row reason hl hc hkick hre hm hw hn =>
    rw [hn]
    exact ⟨hledger (by rw [hw]; rfl) (failures_logs hl nofun), notLost_done⟩
  | resumed row hc hkick hmem hstate hidle hw hn =>
    rw [hn]
    exact ⟨hsame (by rw [hw]), notLost_cpu rfl⟩
  | attemptInitiated l settlement attemptNum lastAttemptId attemptId receipt hl hc hnum hadd hw hn =>
    rw [hn]
    exact ⟨hledger (by rw [hw]; rfl) (failures_incidental hl), notLost_cpu rfl⟩
  | linkCalled settlement attemptNum lastAttemptId linkAttemptId receipt hc hnum hw hn =>
    rw [hn]
    exact ⟨hsame (by rw [hw]), notLost_park rfl⟩
  | orderCalled settlement attemptNum attemptId receipt hc hw hn =>
    rw [hn]
    exact ⟨hsame (by rw [hw]), notLost_park rfl⟩
  | orderFailed l settlement attemptNum attemptId receipt err row hl hc hid hm hw hn =>
    have hmoved : AttemptMoved s.clock s.world.books.attempts w'.books.attempts row .initiated
      .failed := hm
    rw [hn]
    exact ⟨hf.failed hp hmoved l (by rw [hw]; rfl) hl, notLost_cpu rfl⟩
  | orderSet settlement attemptNum attemptId receipt providerOrderId hc hset hw hn =>
    rw [hn]
    exact ⟨hsame (by rw [hw]), notLost_cpu rfl⟩
  | checkoutCalled settlement attemptNum attemptId providerOrderId hc hw hn =>
    rw [hn]
    exact ⟨hsame (by rw [hw]), notLost_park rfl⟩
  | captured copy attemptNum attemptId providerOrderId result paymentId attempt settlement lrow hc
      hpaid hid hsid hattempt hm hrec hw hn =>
    have hl : Logs [lrow] .payment_captured copy.id :=
      ⟨lrow, rfl, hrec.eventType, hrec.settlementId⟩
    rw [hn]
    exact ⟨hledger (by rw [hw]; rfl) (failures_logs hl nofun), notLost_done⟩
  | captureLost settlement attemptNum attemptId providerOrderId result paymentId hc hpaid hwhy hn =>
    -- the attempt is `initiated` and its settlement `settling`, so the capture does not lose
    exfalso
    obtain ⟨b, hb, hbid, hinit⟩ := hok.of_move hmove hc
    rcases hwhy with ⟨-, hstale⟩ | ⟨attempt, hid, hattempt, hgone, -⟩
    · exact hstale b hb hbid hinit
    · rw [hc] at hrun
      have hof : AttemptOf s.world.books.attempts attemptId settlement.id := hrun _ rfl
      obtain ⟨r, hr, hrid, hstate⟩ := hlive attempt hattempt.mem hattempt.active
      exact hgone r hr (hrid.trans (hof.settlementId_eq hattempt.mem hid)) hstate
  | retried l settlement attemptNum attemptId providerOrderId result hl hc hm hw hn =>
    rw [hn]
    refine ⟨?_, notLost_cpu rfl⟩
    rcases hc with hc | ⟨hc, -⟩
    · rw [hc] at hlost
      exact nomatch hlost _ rfl
    · obtain ⟨b, hb, hbid, hinit⟩ := hok.of_move hmove hc
      rcases hm with ⟨-, hstale⟩ | ⟨row, hid, hm⟩
      · exact absurd hinit (hstale b hb hbid)
      · have hmoved : AttemptMoved s.clock s.world.books.attempts w'.books.attempts row .initiated
          .failed := hm
        rw [← hid] at hl
        exact hf.failed hp hmoved l (by rw [hw]; rfl) hl
  | linkIssued l settlement lastAttemptId linkAttemptId receipt linkId shortUrl hl hc hissued hw hn =>
    rw [hn]
    exact ⟨hledger (by rw [hw]; rfl) (failures_incidental hl), notLost_done⟩
  | again p hc hw hn =>
    rw [hc] at hlost
    rw [hn]
    exact ⟨hsame (by rw [hw]), notLost_park (hlost p rfl)⟩

def failureExtension (env : Env) : Extension (openOutline env) AnsweredInitiated where
  allowed := fun _ _ hok => hok.open
  inv := fun w => FailureLog w.books
  task := fun _ _ => True
  job := fun _ _ => NotLost
  taskRel := fun _ _ => True
  jobRel := fun _ _ => True
  task_done := fun _ => trivial
  job_done := fun _ _ => notLost_done
  taskStep := fun _ _ _ _ _ _ _ hf _ _ _ h _ _ => ⟨TaskStep.failureLog h hf, trivial, trivial⟩
  jobStep := fun _ _ _ _ _ _ hinv hjob hf hlost hmove hok h _ _ =>
    ⟨(JobStep.failureLog h hf hinv.2 hjob.1 hlost hmove hok).1, trivial,
      (JobStep.failureLog h hf hinv.2 hjob.1 hlost hmove hok).2⟩
  task_stable := fun _ _ _ _ _ _ _ _ => trivial
  job_stable := fun _ _ _ _ _ _ _ hlost _ _ => hlost

/-- **Attempt failures in the ledger are true.**  In a run in which every answer of the checkout
    driver finds its attempt `initiated`, a `payment_failed` row names `failed` attempts only, and
    each of them once. -/
theorem failures_are_true {env : Env} {s : Sys}
    (h : Run (facilitator env) AnsweredInitiated Sys.initial s) {a : AttemptRow}
    (ha : a ∈ s.world.db.attempts.rows) :
    (0 < failures s.world.db.ledger a.id → a.state = .failed) ∧
      failures s.world.db.ledger a.id ≤ 1 := by
  have hholds := (failureExtension env).outline.holds
    ⟨⟨sound_initial env.crypto, liveSettling_initial⟩, fun _ => Or.inl rfl⟩ h
  have hlog : FailureLog s.world.books := hholds.inv.2
  rcases hlog a.id with hzero | ⟨hone, b, hb, hid, hfailed⟩
  · have hnone : failures s.world.db.ledger a.id = 0 := hzero
    rw [hnone]
    exact ⟨fun hpos => absurd hpos (Nat.lt_irrefl 0), Nat.zero_le 1⟩
  · have hsingle : failures s.world.db.ledger a.id = 1 := hone
    rw [hsingle, attempt_eq ha hb hid.symm]
    exact ⟨fun _ => hfailed, Nat.le_refl 1⟩

/-- A driver answers only while its attempt is `initiated`. -/
def initiatedAnswered (s : Sys) : Act → Bool
  | .resumeJob (.checkout (.ok _)) =>
    match s.job with
    | some (_, .waiting (.checkoutPending _ _ attemptId _)) =>
      s.world.db.attempts.rows.any fun a => a.id == attemptId && a.state == .initiated
    | _ => true
  | _ => true

theorem answeredInitiated_of_check (s : Sys) (a : Act) (h : initiatedAnswered s a = true) :
    AnsweredInitiated s a := by
  rintro k settlement attemptNum attemptId orderId result hjob rfl
  rw [initiatedAnswered, hjob] at h
  obtain ⟨a, ha, hrow⟩ := List.any_eq_true.mp h
  rw [Bool.and_eq_true, beq_iff_eq, beq_iff_eq] at hrow
  exact ⟨a, ha, hrow.1, hrow.2⟩

/-- The driver fails the demo settlement's first attempt. -/
theorem failures_are_true_demo : ∃ (s : Sys) (a : AttemptRow), Reachable demoEnv s ∧
    a ∈ s.world.db.attempts.rows ∧ 0 < failures s.world.db.ledger a.id ∧ a.state = .failed := by
  have hcheck : ((runIf (facilitator demoEnv) initiatedAnswered Sys.initial
      (demoCheckout ++ [.resumeJob (.checkout (.ok ⟨false, none, none, none⟩))])).any
      fun (s : Sys) => s.world.db.attempts.rows.any fun a =>
        0 < failures s.world.db.ledger a.id) = true := by decide +kernel
  obtain ⟨s, hs, hp⟩ := Option.any_eq_true _ _ |>.mp hcheck
  obtain ⟨a, ha, hpos⟩ := List.any_eq_true.mp hp
  have hreports : 0 < failures s.world.db.ledger a.id := of_decide_eq_true hpos
  have hrun := Run.of_runIf answeredInitiated_of_check hs
  exact ⟨s, a, hrun.any, ha, hreports, (failures_are_true hrun ha).1 hreports⟩

/-- A webhook captures the attempt while the driver is at work, the driver answers that it has
    failed, and the ledger reports the captured attempt as failed. -/
theorem failure_of_captured : ¬ ∀ (env : Env) (s : Sys) (a : AttemptRow), Reachable env s →
    a ∈ s.world.db.attempts.rows → (0 < failures s.world.db.ledger a.id → a.state = .failed) ∧
      failures s.world.db.ledger a.id ≤ 1 := by
  intro hclaim
  obtain ⟨s, hreach, hp⟩ := reachable_of_run demoEnv
    (demoCheckout ++
      [.request (.postWebhook (js "o1") (some (js "o1")) (some (js "e1"))) [], .runTask [],
        .resumeTask 0 (.payments (.ok [⟨js "p1", js "captured"⟩])),
        .resumeJob (.checkout (.ok ⟨false, none, none, some (js "timeout")⟩))])
    (fun s => s.world.db.attempts.rows.any fun a =>
      a.state == .captured && decide (0 < failures s.world.db.ledger a.id))
    (by decide +kernel)
  obtain ⟨a, ha, hrow⟩ := List.any_eq_true.mp hp
  rw [Bool.and_eq_true, beq_iff_eq, decide_eq_true_eq] at hrow
  have hfailed := (hclaim demoEnv s a hreach ha).1 hrow.2
  rw [hrow.1] at hfailed
  exact nomatch hfailed

end Hundi
