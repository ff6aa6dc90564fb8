/-
  Captures on attempts that are over.

  The sweep polls the orders of active attempts.  A payment that the provider captures on the order
  of a failed or superseded attempt is seen by a webhook's reconcile call only; when its fetch has
  failed, the event id is spent and nothing asks for that order again.  `Task.Avoids` says that a
  sweep pass keeps away from such an order at every point, and `sweep_misses_stray_captures` that no
  pass handles the payment.
-/
import Hundi.Lib.Follow
import Hundi.Facilitator.Orders
import Hundi.Facilitator.Refund

namespace Hundi

open Js EventLoop

/-- A payment the provider has captured on the order of an attempt that is over, and that is neither
    the settlement's capture nor refunded. -/
structure StrayCapture (w : World) (attempt : AttemptRow) (orderId paymentId : JsString) : Prop where
  mem : attempt ∈ w.db.attempts.rows
  ended : attempt.state = .failed ∨ attempt.state = .superseded
  order : attempt.providerOrderId = some orderId
  uncaptured : ∀ a ∈ w.db.attempts.rows, a.settlementId = attempt.settlementId →
    a.state = .captured → a.providerPaymentId ≠ some paymentId
  unrefunded : alreadyRefunded w.db attempt.settlementId paymentId = false

/-- The settlement is captured with the payment, or the refund of the payment is recorded. -/
def Handled (w : World) (settlementId paymentId : JsString) : Prop :=
  (∃ a ∈ w.db.attempts.rows, a.settlementId = settlementId ∧ a.state = .captured ∧
    a.providerPaymentId = some paymentId) ∨
  alreadyRefunded w.db settlementId paymentId = true

/-- The provider answers normally: every order has an id of its own, the payment is captured and
    the last on its order, and it is on no other order. -/
structure Reports (orderId paymentId : JsString) (s : Sys) (a : Act) : Prop where
  fresh : FreshOrders s a
  own : ∀ caller copy r,
    TaskMove s a (.resumed (.reconcile caller (.fetchOrderPayments copy orderId)) (.payments r)) →
    ∃ payments, r = .ok payments ∧ payments.getLast? = some ⟨paymentId, js "captured"⟩
  other : ∀ caller copy o payments, o ≠ orderId →
    TaskMove s a (.resumed (.reconcile caller (.fetchOrderPayments copy o))
      (.payments (.ok payments))) →
    ∀ p ∈ payments, p.id ≠ paymentId

/-- Some step of a sweep pass that begins after `s` handles the payment. -/
def SweepHandles (env : Env) (s : Sys) (settlementId orderId paymentId : JsString) : Prop :=
  ∃ t n a t' n', EventLoop.Follows (facilitator env) (Reports orderId paymentId) (· = .sweepTick) s t n ∧
    n ≠ .done ∧ Reports orderId paymentId t a ∧ TaskRan (facilitator env) t a n n' t' ∧
    ¬ Handled t.world settlementId paymentId ∧ Handled t'.world settlementId paymentId

/-! ## Where a pass keeps away -/

section

variable (attemptId orderId paymentId : JsString)

def ReconcilePoint.Avoids : ReconcilePoint → Prop
  | .fetchOrderPayments _ o => o ≠ orderId
  | .lostRace _ p => p ≠ paymentId
  | .refundPayment _ _ p => p ≠ paymentId

/-- The pass does not have the attempt among those it will poll, nor the order or the payment in
    hand. -/
def Task.Avoids : Task → Prop
  | .sweep (.staleAttempts rest) => ∀ e ∈ rest, e.id ≠ attemptId
  | .sweep _ => True
  | .reconcile (.sweep rest) point =>
    (∀ e ∈ rest, e.id ≠ attemptId) ∧ point.Avoids orderId paymentId
  | _ => False

def passAvoids (n : Next Task) : Prop :=
  ∀ t, n.task? = some t → t.Avoids attemptId orderId paymentId

/-- The attempt is over, and the order is its own. -/
structure Over (t : Attempts) : Prop where
  ended : ∃ a ∈ t.rows, a.id = attemptId ∧ a.state.active = false
  order : HasOrder t attemptId orderId
  only : OneAttempt t

end

section

variable {attemptId orderId paymentId : JsString}

theorem passAvoids_of {n : Next Task} {t : Task} (hn : n.task? = some t)
    (h : t.Avoids attemptId orderId paymentId) : passAvoids attemptId orderId paymentId n := by
  intro u hu
  obtain rfl := Option.some.inj (hn.symm.trans hu)
  exact h

theorem passAvoids_done : passAvoids attemptId orderId paymentId .done := by
  intro t ht
  exact nomatch ht

/-- The query of the first rule leaves the attempt out. -/
theorem sweepRunOnce_avoids {env : Env} {now : Int} {w : World}
    (h : Over attemptId orderId w.db.attempts) :
    (Task.sweep (sweepRunOnce env now w)).Avoids attemptId orderId paymentId := by
  intro e he hid
  obtain ⟨row, hrow, rfl⟩ := List.mem_map.mp he
  obtain ⟨hmem, hp⟩ := List.mem_filter.mp hrow
  obtain ⟨a, ha, haid, hover⟩ := h.ended
  rw [attempt_eq ha hmem (haid.trans hid.symm), (Bool.and_eq_true_iff.mp hp).1] at hover
  exact nomatch hover

/-- Another attempt's reconcile call asks for another order. -/
theorem reconcileByAttempt_avoids {db : Db} (h : Over attemptId orderId db.attempts)
    {id : JsString} (hid : id ≠ attemptId) {p : ReconcilePoint}
    (hp : reconcileByAttempt db id = .awaiting p) : p.Avoids orderId paymentId := by
  unfold reconcileByAttempt at hp
  split at hp
  · exact nomatch hp
  rename_i a ha
  obtain ⟨hmem, haid⟩ := Table.find?_mem ha
  split at hp
  · rename_i c order horder
    unfold reconcileByOrder at hp
    split at hp
    · exact nomatch hp
    · obtain rfl := ReconcileNext.awaiting.inj hp
      intro hsame
      have hown : HasOrder db.attempts id orderId :=
        ⟨a, hmem, beq_iff_eq.mp haid, by rw [horder, hsame]⟩
      exact hid (h.only _ _ _ hown h.order)
  · exact nomatch hp

theorem sweepCommit_avoids {w : World} {kicks : List Kick} {p : SweepPoint} {x : Except Exn Db}
    (h : (Task.sweep p).Avoids attemptId orderId paymentId) :
    passAvoids attemptId orderId paymentId (afterSweep (sweepCommit w kicks p x)).next := by
  cases x with
  | ok db => exact passAvoids_of rfl h
  | error e => exact passAvoids_done

/-- **One effect of a pass.** -/
theorem sweepStep_avoids {env : Env} {now : Int} {w : World} {p : SweepPoint}
    (hover : Over attemptId orderId w.db.attempts)
    (h : (Task.sweep p).Avoids attemptId orderId paymentId) :
    passAvoids attemptId orderId paymentId (afterSweep (sweepStep env now w p)).next := by
  cases p with
  | staleAttempts rest =>
    cases rest with
    | nil => exact passAvoids_of rfl trivial
    | cons e rest =>
      have hrest : (Task.sweep (.staleAttempts rest)).Avoids attemptId orderId paymentId :=
        fun e' he' => h e' (List.mem_cons_of_mem _ he')
      rw [sweepStep, sweepStaleAttempt]
      split
      · split
        · rename_i point hpoint
          exact passAvoids_of rfl
            ⟨hrest, reconcileByAttempt_avoids hover (h e (List.mem_cons_self ..)) hpoint⟩
        · exact passAvoids_of rfl hrest
      · split
        · exact passAvoids_of rfl hrest
        · exact sweepCommit_avoids hrest
  | staleAttemptsSwept => exact passAvoids_of rfl trivial
  | transientSettlements rest =>
    cases rest with
    | nil => exact passAvoids_of rfl trivial
    | cons row rest => exact sweepCommit_avoids trivial
  | staleVerified rest =>
    cases rest with
    | nil => exact passAvoids_of rfl trivial
    | cons id rest => exact sweepCommit_avoids trivial
  | expiredApprovals since rest =>
    cases rest with
    | nil => exact passAvoids_of rfl trivial
    | cons row rest =>
      rw [sweepStep, sweepExpiredApproval]
      split
      · exact passAvoids_of rfl trivial
      · dsimp only
        split
        · exact passAvoids_of rfl trivial
        · exact sweepCommit_avoids trivial
  | staleApproved since rest =>
    cases rest with
    | nil => exact passAvoids_of rfl trivial
    | cons row rest =>
      rw [sweepStep, sweepApproved]
      split
      · exact sweepCommit_avoids trivial
      · split
        · exact passAvoids_done
        · exact passAvoids_of rfl trivial
  | stuckSettling rest =>
    cases rest with
    | nil => exact passAvoids_of rfl trivial
    | cons id rest =>
      rw [sweepStep, sweepSettling]
      split
      · exact passAvoids_of rfl trivial
      · split
        · exact passAvoids_of rfl trivial
        · exact sweepCommit_avoids trivial
  | staleIdempotencyLocks => exact passAvoids_done

/-- A stretch of a reconcile call ends away from the order and the payment. -/
def ReconcileNext.Avoids (orderId paymentId : JsString) : ReconcileNext → Prop
  | .awaiting p => p.Avoids orderId paymentId
  | .running p => p.Avoids orderId paymentId
  | _ => True

theorem afterReconcile_avoids {rest : List StaleAttempt} (hrest : ∀ e ∈ rest, e.id ≠ attemptId)
    {w : World} {next : ReconcileNext} (h : next.Avoids orderId paymentId) :
    passAvoids attemptId orderId paymentId (afterReconcile (.sweep rest) (w, next)).next := by
  cases next with
  | returned => exact passAvoids_of rfl hrest
  | threw e => exact passAvoids_done
  | awaiting p => exact passAvoids_of rfl ⟨hrest, h⟩
  | running p => exact passAvoids_of rfl ⟨hrest, h⟩

theorem refundAnomalyCapture_avoids {w : World} {settlementId aid p : JsString}
    (h : p ≠ paymentId) :
    (refundAnomalyCapture w settlementId aid p).2.Avoids orderId paymentId := by
  unfold refundAnomalyCapture
  split
  · trivial
  · exact h

theorem refundAnomalyAnswered_avoids {crypto : Crypto} {now : Int} {w : World}
    {settlementId aid p : JsString} {r : Except Exn JsString} :
    (refundAnomalyAnswered crypto now w settlementId aid p r).2.Avoids orderId paymentId := by
  have hflag : ∀ w err, (flagRefundError crypto now w settlementId aid p err).2.Avoids orderId
      paymentId := by
    intro w err
    unfold flagRefundError
    split <;> trivial
  cases r with
  | error err => exact hflag w err
  | ok refundId =>
    simp only [refundAnomalyAnswered]
    split
    · trivial
    · exact hflag _ _

theorem reconcileFetched_avoids {crypto : Crypto} {now : Int} {w : World} {copy : AttemptRow}
    {o : JsString} {r : Except Exn (List RazorpayPayment)}
    (h : ∀ payments, r = .ok payments → ∀ p ∈ payments, p.id ≠ paymentId) :
    (reconcileFetched crypto now w copy o r).2.Avoids orderId paymentId := by
  cases r with
  | error err =>
    simp only [reconcileFetched]
    split <;> trivial
  | ok payments =>
    simp only [reconcileFetched]
    split
    · trivial
    · rename_i latest hlast
      have hlatest := h payments rfl latest (List.mem_of_getLast? hlast)
      split
      · unfold reconcileCapturedPayment
        split
        · trivial
        · simp only
          split
          · exact refundAnomalyCapture_avoids hlatest
          · split
            · trivial
            · trivial
            · exact hlatest
      · split
        · unfold failAttemptIfLive
          split
          · trivial
          · split <;> trivial
        · trivial

/-! ## A pass, step by step -/

/-- **A step of a pass keeps away**, when the provider lists the payment on its own order only. -/
theorem ran_avoids {env : Env} {s s' : Sys} {a : Act} {n n' : Next Task}
    (h : TaskRan (facilitator env) s a n n' s') (hn : n ≠ .done)
    (hover : Over attemptId orderId s.world.db.attempts) (hok : Reports orderId paymentId s a)
    (hpass : passAvoids attemptId orderId paymentId n) :
    passAvoids attemptId orderId paymentId n' := by
  cases h with
  | request r seed hfree => exact absurd rfl hn
  | runTask seed t hcpu =>
    have ht := hpass t rfl
    show passAvoids _ _ _ (runTask env s.clock seed s.world t).next
    cases t with
    | sweep p => exact sweepStep_avoids hover ht
    | reconcile caller point =>
      cases caller with
      | webhook eventId eventType => exact ht.elim
      | sweep rest =>
        obtain ⟨hrest, hpoint⟩ := ht
        cases point with
        | fetchOrderPayments copy o => exact passAvoids_of rfl ⟨hrest, hpoint⟩
        | lostRace copy p => exact afterReconcile_avoids hrest (refundAnomalyCapture_avoids hpoint)
        | refundPayment sid aid p => exact passAvoids_of rfl ⟨hrest, hpoint⟩
    | _ => exact ht.elim
  | resumeTask i b t o hfree hi ho =>
    have ht := hpass t rfl
    change resumeTask env s.clock s.world t b = some o at ho
    cases t with
    | sweep p =>
      cases b with
      | ready =>
        obtain rfl := Option.some.inj ho
        exact sweepStep_avoids hover ht
      | _ => exact nomatch ho
    | reconcile caller point =>
      cases caller with
      | webhook eventId eventType => exact ht.elim
      | sweep rest =>
        obtain ⟨hrest, hpoint⟩ := ht
        cases point with
        | fetchOrderPayments copy o' =>
          cases b with
          | payments r =>
            obtain rfl := Option.some.inj ho
            refine afterReconcile_avoids hrest (reconcileFetched_avoids ?_)
            rintro payments rfl
            exact hok.other _ _ _ _ hpoint (.resumeTask i _ _ hfree hi)
          | _ => exact nomatch ho
        | lostRace copy p => cases b <;> exact nomatch ho
        | refundPayment sid aid p =>
          cases b with
          | refund r =>
            obtain rfl := Option.some.inj ho
            exact afterReconcile_avoids hrest refundAnomalyAnswered_avoids
          | _ => exact nomatch ho
    | _ => exact ht.elim

/-- **A step of a pass that keeps away handles nothing**: it neither captures with the payment nor
    records its refund. -/
theorem ran_not_handles {env : Env} {s s' : Sys} {a : Act} {n n' : Next Task}
    {settlementId : JsString} (h : TaskRan (facilitator env) s a n n' s')
    (hok : Reports orderId paymentId s a) (hpass : passAvoids attemptId orderId paymentId n)
    (hbefore : ¬ Handled s.world settlementId paymentId) :
    ¬ Handled s'.world settlementId paymentId := by
  obtain ⟨c, hc, hmove, hstep⟩ := h.spec (facilitatorSpec env)
  change TaskStep env s.clock s.world c s'.world n' at hstep
  rintro (⟨row, hrow, hsid, hcap, hpaid⟩ | hrefunded)
  · -- a row captured with the payment: it was there, or this step captured it
    have hold : s'.world.db.attempts = s.world.db.attempts → False := fun heq =>
      hbefore (Or.inl ⟨row, heq ▸ hrow, hsid, hcap, hpaid⟩)
    cases hstep with
    | attemptFailed l moved src hl hm hwhy hw hn =>
      rcases hm.mem_iff.mp hrow with rfl | ⟨hrow, -⟩
      · exact nomatch hcap
      · exact hbefore (Or.inl ⟨row, hrow, hsid, hcap, hpaid⟩)
    | captured caller copy o payments latest attempt settlement lrow hcause hlast hstatus hid hsid'
        hattempt hm hrec hw hn =>
      rcases (hattempt.mem_iff row).mp hrow with rfl | ⟨hrow, -⟩
      · have hlatest : latest.id = paymentId := Option.some.inj hpaid
        rw [hcause] at hc hmove
        have havoid := hpass (.reconcile caller (.fetchOrderPayments copy o)) (by rw [← hc]; rfl)
        cases caller with
        | webhook eventId eventType => exact havoid
        | sweep rest =>
          exact hok.other _ _ _ _ havoid.2 hmove latest (List.mem_of_getLast? hlast) hlatest
      · exact hbefore (Or.inl ⟨row, hrow, hsid, hcap, hpaid⟩)
    | _ =>
      rename_i hw _
      exact hold (congrArg Books.attempts hw)
  · -- a row that records its refund: it was there, or this step was awaiting the refund
    have hnone : s.world.db.ledger.countP (·.refunds settlementId paymentId) = 0 := by
      refine List.countP_eq_zero.mpr fun row hrow hrefunds => hbefore (Or.inr ?_)
      exact List.any_eq_true.mpr ⟨row, hrow, hrefunds⟩
    have hsome : 0 < s'.world.db.ledger.countP (·.refunds settlementId paymentId) := by
      obtain ⟨row, hrow, hrefunds⟩ := List.any_eq_true.mp hrefunded
      exact List.countP_pos_iff.mpr ⟨row, hrow, hrefunds⟩
    rcases hstep.refundStep.anomaly_cases settlementId paymentId with ⟨hrows, -, -⟩ |
      ⟨-, -, -, hholds⟩
    · omega
    · have hno : permits (Task.refundsAnomaly settlementId paymentId) c.before = 0 := by
        rw [hc]
        have hfalse : ∀ t, n.task? = some t → t.refundsAnomaly settlementId paymentId = false := by
          intro t ht
          have havoid := hpass t ht
          cases t with
          | reconcile caller point =>
            cases caller with
            | webhook eventId eventType => exact havoid.elim
            | sweep rest =>
              cases point with
              | refundPayment sid aid p =>
                have hne : (p == paymentId) = false := beq_eq_false_iff_ne.mpr havoid.2
                rw [Task.refundsAnomaly, hne, Bool.and_false]
              | _ => rfl
          | _ => rfl
        cases n with
        | done => rfl
        | cpu t => rw [permits_cpu, hfalse t rfl]; rfl
        | park t => rw [permits_park, hfalse t rfl]; rfl
      omega

end

/-! ## Whole passes -/

theorem Over.step {env : Env} {s s' : Sys} {a : Act} {attemptId orderId : JsString}
    (h : Over attemptId orderId s.world.db.attempts) (hs : (ordersOutline env).Holds s)
    (hok : FreshOrders s a) (hstep : step (facilitator env) s a = some s') :
    Over attemptId orderId s'.world.db.attempts := by
  have hkept := persists_step hstep
  obtain ⟨row, hrow, hid, hover⟩ := h.ended
  obtain ⟨row', hrow', hk⟩ := hkept.attempts row hrow
  exact ⟨⟨row', hrow', hk.id.trans hid, (hk.final hover).1 ▸ hover⟩, hasOrder_step hs hok hstep h.order,
    ((ordersOutline env).holds_step hs hok hstep).inv.2⟩

/-- **A pass keeps away from the order of an attempt that is over**, from its first step to its
    last. -/
theorem pass_avoids {env : Env} {s t : Sys} {n : Next Task} {attemptId orderId paymentId : JsString}
    (hs : (ordersOutline env).Holds s) (hover : Over attemptId orderId s.world.db.attempts)
    (f : EventLoop.Follows (facilitator env) (Reports orderId paymentId) (· = .sweepTick) s t n) :
    Over attemptId orderId t.world.db.attempts ∧ passAvoids attemptId orderId paymentId n := by
  have hboth : ((ordersOutline env).Holds t ∧ Over attemptId orderId t.world.db.attempts) ∧
      passAvoids attemptId orderId paymentId n := by
    refine f.invariant
      (I := fun t => (ordersOutline env).Holds t ∧ Over attemptId orderId t.world.db.attempts)
      (A := fun _ n => passAvoids attemptId orderId paymentId n)
      (fun hI hok hstep => ⟨(ordersOutline env).holds_step hI.1 hok.fresh hstep,
        hI.2.step hI.1 hok.fresh hstep⟩) ?_
      (fun hI hA hn hok h => ran_avoids h hn hI.2 hok hA) (fun _ hA _ _ => hA) ⟨hs, hover⟩
    intro u r seed m u' hI hok hr h
    subst hr
    cases h with
    | request _ _ hfree => exact passAvoids_of rfl (sweepRunOnce_avoids hI.2)
  exact ⟨hboth.1.2, hboth.2⟩

theorem StrayCapture.isOver {env : Env} {s : Sys} (hs : (ordersOutline env).Holds s)
    {attempt : AttemptRow} {orderId paymentId : JsString}
    (h : StrayCapture s.world attempt orderId paymentId) :
    Over attempt.id orderId s.world.db.attempts where
  ended := ⟨attempt, h.mem, rfl, by rcases h.ended with ho | ho <;> rw [ho] <;> rfl⟩
  order := ⟨attempt, h.mem, rfl, h.order⟩
  only := hs.inv.2

theorem StrayCapture.not_swept {env : Env} {s : Sys} (hs : (ordersOutline env).Holds s)
    {attempt : AttemptRow} {orderId paymentId : JsString}
    (h : StrayCapture s.world attempt orderId paymentId) :
    ¬ SweepHandles env s attempt.settlementId orderId paymentId := by
  rintro ⟨t, n, a, t', n', f, hn, hok, hran, hbefore, hafter⟩
  obtain ⟨-, hpass⟩ := pass_avoids hs (h.isOver hs) f
  exact ran_not_handles hran hok hpass hbefore hafter

/-- **No sweep pass handles a stray capture**, from any state of any run, however the passes and
    everything else interleave. -/
theorem sweep_misses_stray_captures {env : Env} {s : Sys}
    (hs : Run (facilitator env) FreshOrders Sys.initial s) {attempt : AttemptRow}
    {orderId paymentId : JsString} (h : StrayCapture s.world attempt orderId paymentId) :
    ¬ SweepHandles env s attempt.settlementId orderId paymentId :=
  h.not_swept (ordersOutline_holds hs)

/-! ## A run -/

/-- An action that brings no answer of the provider. -/
def bringsNoAnswer : Act → Bool
  | .clock _ => true
  | .request _ _ => true
  | .runTask _ => true
  | .resumeTask _ .ready => true
  | _ => false

theorem reports_of_bringsNoAnswer {orderId paymentId : JsString} (s : Sys) (a : Act)
    (h : bringsNoAnswer a = true) : Reports orderId paymentId s a := by
  refine ⟨?_, ?_, ?_⟩
  · rintro k p o ⟨⟩
    exact nomatch h
  · rintro caller copy r ⟨⟩
    exact nomatch h
  · rintro caller copy o payments - ⟨⟩
    exact nomatch h

/-- The first attempt has failed, the fetch of a webhook for its order fails, and the event is
    delivered again. -/
def demoStray : List Act :=
  demoFailed ++ demoWebhook (js "e1") ++ [.resumeTask 0 (.payments (.error (.typeError (js "timeout")))),
    .request (.postWebhook (js "o1") (some (js "o1")) (some (js "e1"))) []]

/-- A sweep pass to its end. -/
def demoPass : List Act :=
  [.runTask [], .resumeTask 0 .ready, .runTask [], .runTask [], .runTask [], .runTask [], .runTask [],
    .runTask [], .runTask []]

def isStray (w : World) : Bool :=
  w.db.attempts.rows.all (fun a => a.state != .captured) &&
    !alreadyRefunded w.db (js "s1") (js "p1") &&
    w.db.attempts.rows.any fun a =>
      a.state == .failed && a.settlementId == js "s1" && a.providerOrderId == some (js "o1")

theorem strayCapture_of_isStray {w : World} (h : isStray w = true) :
    ∃ attempt, StrayCapture w attempt (js "o1") (js "p1") := by
  obtain ⟨h, hrow⟩ := Bool.and_eq_true_iff.mp h
  obtain ⟨hnone, hunrefunded⟩ := Bool.and_eq_true_iff.mp h
  obtain ⟨attempt, hmem, hrow⟩ := List.any_eq_true.mp hrow
  simp only [Bool.and_eq_true, beq_iff_eq] at hrow
  obtain ⟨⟨hstate, hsid⟩, horder⟩ := hrow
  refine ⟨attempt, hmem, Or.inl hstate, horder, fun a ha _ hcap => ?_, ?_⟩
  · have hne := List.all_eq_true.mp hnone a ha
    rw [hcap] at hne
    exact nomatch hne
  · rw [hsid]
    simpa using hunrefunded

theorem run_of_answersFreshOrder {as : List Act} {s : Sys}
    (h : runIf (facilitator demoEnv) answersFreshOrder Sys.initial as = some s) :
    Run (facilitator demoEnv) FreshOrders Sys.initial s :=
  Run.of_runIf freshOrders_of_check h

/-- A pass that ticks long after runs to its end, and the payment is as it was. -/
theorem sweep_misses_stray_captures_demo : ∃ (s : Sys) (attempt : AttemptRow),
    StrayCapture s.world attempt (js "o1") (js "p1") ∧
    ¬ SweepHandles demoEnv s attempt.settlementId (js "o1") (js "p1") ∧
    ∃ t, EventLoop.Follows (facilitator demoEnv) (Reports (js "o1") (js "p1")) (· = .sweepTick) s t .done := by
  have hcheck : ((runIf (facilitator demoEnv) answersFreshOrder Sys.initial demoStray).any fun s =>
      isStray s.world && (runIf (facilitator demoEnv) (fun _ => bringsNoAnswer) s
        [.clock 1000000]).any fun t =>
          t.cpu.isNone && t.parked.isEmpty &&
          (step (facilitator demoEnv) t (.request .sweepTick [])).any fun t' =>
            (runIf (facilitator demoEnv) (fun _ a => a.ofOnly && bringsNoAnswer a) t' demoPass).any
              fun u => u.cpu.isNone && u.parked.isEmpty) = true := by
    decide +kernel
  obtain ⟨s, hs, hcheck⟩ := (Option.any_eq_true ..).mp hcheck
  obtain ⟨hstray, hcheck⟩ := Bool.and_eq_true_iff.mp hcheck
  obtain ⟨t, ht, hcheck⟩ := (Option.any_eq_true ..).mp hcheck
  obtain ⟨hfree, hcheck⟩ := Bool.and_eq_true_iff.mp hcheck
  obtain ⟨hcpu, hparked⟩ := Bool.and_eq_true_iff.mp hfree
  obtain ⟨t', ht', hcheck⟩ := (Option.any_eq_true ..).mp hcheck
  obtain ⟨u, hu, hidle⟩ := (Option.any_eq_true ..).mp hcheck
  obtain ⟨hcpu', hparked'⟩ := Bool.and_eq_true_iff.mp hidle
  obtain ⟨attempt, hattempt⟩ := strayCapture_of_isStray hstray
  refine ⟨s, attempt, hattempt,
    sweep_misses_stray_captures (run_of_answersFreshOrder hs) hattempt, u, ?_⟩
  obtain ⟨f, hl⟩ := EventLoop.Follows.start_only (· = .sweepTick)
    (Run.of_runIf reports_of_bringsNoAnswer ht) (Option.isNone_iff_eq_none.mp hcpu)
    (List.isEmpty_iff.mp hparked) (reports_of_bringsNoAnswer t _ rfl) rfl ht'
  obtain ⟨f', -⟩ := f.of_runIf (fun v a h => ⟨(Bool.and_eq_true_iff.mp h).1,
    reports_of_bringsNoAnswer v a (Bool.and_eq_true_iff.mp h).2⟩) hl hu
  rwa [show u.only = .done by
    rw [State.only, Option.isNone_iff_eq_none.mp hcpu', List.isEmpty_iff.mp hparked']] at f'

/-- The webhook's fetch failed and its event id is spent: no pass asks for the order again. -/
theorem stray_capture_stranded : ¬ ∀ (env : Env) (s : Sys) (attempt : AttemptRow)
    (orderId paymentId : JsString), Run (facilitator env) FreshOrders Sys.initial s →
      StrayCapture s.world attempt orderId paymentId →
      SweepHandles env s attempt.settlementId orderId paymentId := by
  intro hclaim
  have hcheck : ((runIf (facilitator demoEnv) answersFreshOrder Sys.initial demoStray).any
      fun s => isStray s.world) = true := by
    decide +kernel
  obtain ⟨s, hs, hstray⟩ := (Option.any_eq_true ..).mp hcheck
  obtain ⟨attempt, hattempt⟩ := strayCapture_of_isStray hstray
  have hrun := run_of_answersFreshOrder hs
  exact hattempt.not_swept (ordersOutline_holds hrun) (hclaim demoEnv s attempt _ _ hrun hattempt)

end Hundi
