/-
  Whose order an order id is.

  The provider gives every order an id of its own (`FreshOrders`).  The code writes that id to one
  attempt, once, so an order id names one attempt for good: `OneAttempt` holds in every state, and
  what a reconcile call or a run of the executor has read of an order stays true while it awaits.
-/
import Hundi.Facilitator.Invariants

namespace Hundi

open Js EventLoop

/-- The attempt carries the order id. -/
def HasOrder (t : Attempts) (attemptId orderId : JsString) : Prop :=
  ∃ a ∈ t.rows, a.id = attemptId ∧ a.providerOrderId = some orderId

/-- No two attempts carry one order id. -/
def OneAttempt (t : Attempts) : Prop :=
  ∀ id id' orderId, HasOrder t id orderId → HasOrder t id' orderId → id = id'

/-- The attempts carry the order ids they did. -/
def SameOrders (t t' : Attempts) : Prop := ∀ id orderId, HasOrder t' id orderId ↔ HasOrder t id orderId

/-- The provider gives every order an id of its own. -/
def FreshOrders (s : Sys) (a : Act) : Prop :=
  ∀ k p orderId, JobMove s a k (.resumed p (.order (.ok orderId))) →
    ∀ id, ¬ HasOrder s.world.db.attempts id orderId

/-! ## The writes -/

theorem SameOrders.refl (t : Attempts) : SameOrders t t := fun _ _ => Iff.rfl

theorem SameOrders.trans {t u v : Attempts} (h : SameOrders t u) (h' : SameOrders u v) :
    SameOrders t v :=
  fun id orderId => (h' id orderId).trans (h id orderId)

/-- A row was replaced by one with the same id and the same order id. -/
theorem SameOrders.replaced {t t' : Attempts} {row : AttemptRow} (row' : AttemptRow)
    (hmem : row ∈ t.rows) (hid : row'.id = row.id)
    (horder : row'.providerOrderId = row.providerOrderId)
    (h : ∀ r, r ∈ t'.rows ↔ r = row' ∨ (r ∈ t.rows ∧ r.id ≠ row.id)) : SameOrders t t' := by
  intro id orderId
  constructor
  · rintro ⟨a, ha, rfl, hord⟩
    rcases (h a).mp ha with rfl | ⟨ha, -⟩
    · exact ⟨row, hmem, hid.symm, horder ▸ hord⟩
    · exact ⟨a, ha, rfl, hord⟩
  · rintro ⟨a, ha, rfl, hord⟩
    by_cases hsame : a.id = row.id
    · obtain rfl := attempt_eq ha hmem hsame
      exact ⟨row', (h row').mpr (Or.inl rfl), hid, horder.trans hord⟩
    · exact ⟨a, (h a).mpr (Or.inr ⟨ha, hsame⟩), rfl, hord⟩

theorem AttemptMoved.sameOrders {now : Int} {t t' : Attempts} {row : AttemptRow}
    {src dst : AttemptState} (h : AttemptMoved now t t' row src dst) : SameOrders t t' :=
  .replaced (row.moveTo now dst) h.mem rfl rfl fun _ => h.mem_iff

theorem AttemptCaptured.sameOrders {now : Int} {t t' : Attempts} {row : AttemptRow}
    {src : AttemptState} {paymentId : JsString} (h : AttemptCaptured now t t' row src paymentId) :
    SameOrders t t' :=
  .replaced (row.capture now paymentId) h.mem rfl rfl h.mem_iff

theorem AttemptFailed.sameOrders {now : Int} {t t' : Attempts} {attemptId : JsString}
    {src : AttemptState} (h : AttemptFailed now t t' attemptId src) : SameOrders t t' := by
  rcases h with ⟨rfl, -⟩ | ⟨row, -, hm⟩
  · exact .refl t'
  · exact hm.sameOrders

theorem AttemptAdded.sameOrders {t t' : Attempts} {row : AttemptRow} (h : AttemptAdded t t' row)
    (hnone : row.providerOrderId = none) : SameOrders t t' := by
  intro id orderId
  constructor
  · rintro ⟨a, ha, hid, hord⟩
    rcases (h.mem_iff a).mp ha with ha | rfl
    · exact ⟨a, ha, hid, hord⟩
    · rw [hnone] at hord
      exact nomatch hord
  · rintro ⟨a, ha, hid, hord⟩
    exact ⟨a, (h.mem_iff a).mpr (Or.inl ha), hid, hord⟩

theorem LinkIssued.sameOrders {now : Int} {t t' : Attempts} {lastAttemptId : JsString}
    {link : AttemptRow} (h : LinkIssued now t t' lastAttemptId link)
    (hnone : link.providerOrderId = none) : SameOrders t t' := by
  obtain ⟨t₁, rfl | ⟨row, -, hm⟩, hadd⟩ := h.superseded
  · exact hadd.sameOrders hnone
  · exact hm.sameOrders.trans (hadd.sameOrders hnone)

theorem OrderIdSet.hasOrder_iff {now : Int} {t t' : Attempts} {attemptId providerOrderId : JsString}
    (h : OrderIdSet now t t' attemptId providerOrderId) (id orderId : JsString) :
    HasOrder t' id orderId ↔
      (id = attemptId ∧ orderId = providerOrderId ∧ ∃ a ∈ t.rows, a.id = attemptId) ∨
      (id ≠ attemptId ∧ HasOrder t id orderId) := by
  constructor
  · rintro ⟨a, ha, rfl, hord⟩
    rcases (h a).mp ha with ⟨a₀, ha₀, hid, rfl⟩ | ⟨ha, hne⟩
    · exact Or.inl ⟨hid, (Option.some.inj hord).symm, a₀, ha₀, hid⟩
    · exact Or.inr ⟨hne, a, ha, rfl, hord⟩
  · rintro (⟨rfl, rfl, a, ha, hid⟩ | ⟨hne, a, ha, rfl, hord⟩)
    · exact ⟨_, (h _).mpr (Or.inl ⟨a, ha, hid, rfl⟩), hid, rfl⟩
    · exact ⟨a, (h a).mpr (Or.inr ⟨ha, hne⟩), rfl, hord⟩

theorem TaskStep.sameOrders {env : Env} {now : Int} {w w' : World} {c : TaskWhy} {next : Next Task}
    (h : TaskStep env now w c w' next) : SameOrders w.db.attempts w'.db.attempts := by
  have hsame : w'.db.attempts = w.db.attempts → SameOrders w.db.attempts w'.db.attempts := by
    intro heq
    rw [heq]
    exact .refl _
  cases h with
  | attemptFailed l row src hl hm hwhy hw hn => exact hm.sameOrders
  | captured caller copy orderId payments latest attempt settlement lrow hc hlast hstatus hid hsid
      hattempt hm hrec hw hn => exact hattempt.sameOrders
  | _ =>
    rename_i hw _
    exact hsame (congrArg Books.attempts hw)

/-- A run of the executor gives no order id but the one it was answered. -/
theorem JobStep.orders {env : Env} {now : Int} {w w' : World} {k : Kick} {c : RunWhy}
    {next : Next RunPoint} (h : JobStep env now w k c w' next) :
    SameOrders w.db.attempts w'.db.attempts ∨
      ∃ settlement attemptNum attemptId receipt providerOrderId,
        c = .resumed (.orderPending settlement attemptNum attemptId receipt)
          (.order (.ok providerOrderId)) ∧
        OrderIdSet now w.db.attempts w'.db.attempts attemptId providerOrderId := by
  have hsame : w'.db.attempts = w.db.attempts → SameOrders w.db.attempts w'.db.attempts := by
    intro heq
    rw [heq]
    exact .refl _
  cases h with
  | orderSet settlement attemptNum attemptId receipt providerOrderId hc hset hw hn =>
    exact Or.inr ⟨settlement, attemptNum, attemptId, receipt, providerOrderId, hc, hset⟩
  | attemptInitiated l settlement attemptNum lastAttemptId attemptId receipt hl hc hnum hadd hw hn =>
    exact Or.inl (hadd.sameOrders rfl)
  | orderFailed l settlement attemptNum attemptId receipt err row hl hc hid hm hw hn =>
    exact Or.inl hm.sameOrders
  | captured copy attemptNum attemptId providerOrderId result paymentId attempt settlement lrow hc
      hpaid hid hsid hattempt hm hrec hw hn => exact Or.inl hattempt.sameOrders
  | captureLost settlement attemptNum attemptId providerOrderId result paymentId hc hpaid hlost hn =>
    rcases hlost with ⟨hw, -⟩ | ⟨attempt, -, hattempt, -, -⟩
    · exact Or.inl (hsame (congrArg Books.attempts hw))
    · exact Or.inl hattempt.sameOrders
  | retried l settlement attemptNum attemptId providerOrderId result hl hc hm hw hn =>
    exact Or.inl hm.sameOrders
  | linkIssued l settlement lastAttemptId linkAttemptId receipt linkId shortUrl hl hc hissued hw hn =>
    exact Or.inl (hissued.sameOrders rfl)
  | _ =>
    rename_i hw _
    exact Or.inl (hsame (congrArg Books.attempts hw))

/-! ## Assertions -/

/-- The attempt a reconcile call has read carries the order it asks for. -/
def Task.OfOrder (t : Attempts) : Task → Prop
  | .reconcile _ (.fetchOrderPayments attempt orderId) => HasOrder t attempt.id orderId
  | _ => True

def taskOfOrder (w : World) (next : Next Task) : Prop :=
  ∀ t, next.task? = some t → t.OfOrder w.db.attempts

/-- A run's attempt carries no order id before the order is created, and then the order's. -/
def RunPoint.OfOrder (t : Attempts) : RunPoint → Prop
  | .createOrder _ _ attemptId _ => ∀ orderId, ¬ HasOrder t attemptId orderId
  | .orderPending _ _ attemptId _ => ∀ orderId, ¬ HasOrder t attemptId orderId
  | .settleViaCheckout _ _ attemptId orderId => HasOrder t attemptId orderId
  | .checkoutPending _ _ attemptId orderId => HasOrder t attemptId orderId
  | .captureLost _ _ attemptId orderId _ => HasOrder t attemptId orderId
  | _ => True

def runOfOrder (w : World) (next : Next RunPoint) : Prop :=
  ∀ p, next.task? = some p → p.OfOrder w.db.attempts

theorem taskOfOrder_plain {w : World} {next : Next Task} (h : Plain next) : taskOfOrder w next := by
  intro t ht
  have hp := h t ht
  cases t <;> trivial

theorem RunPoint.OfOrder.kept {t t' : Attempts} {p : RunPoint} (h : p.OfOrder t)
    (hsame : SameOrders t t') : p.OfOrder t' := by
  cases p with
  | createOrder settlement attemptNum attemptId receipt =>
    exact fun orderId hhas => h orderId ((hsame _ _).mp hhas)
  | orderPending settlement attemptNum attemptId receipt =>
    exact fun orderId hhas => h orderId ((hsame _ _).mp hhas)
  | settleViaCheckout settlement attemptNum attemptId orderId => exact (hsame _ _).mpr h
  | checkoutPending settlement attemptNum attemptId orderId => exact (hsame _ _).mpr h
  | captureLost settlement attemptNum attemptId orderId result => exact (hsame _ _).mpr h
  | _ => trivial

theorem runOfOrder_next {w : World} {n : Next RunPoint} {p : RunPoint} (hn : n.task? = some p)
    (h : p.OfOrder w.db.attempts) : runOfOrder w n := by
  intro q hq
  obtain rfl := Option.some.inj (hn.symm.trans hq)
  exact h

theorem runOfOrder_done {w : World} : runOfOrder w .done := by
  intro p hp
  exact nomatch hp

/-! ## The steps -/

theorem TaskStep.ofOrder {env : Env} {now : Int} {w w' : World} {c : TaskWhy} {next : Next Task}
    (h : TaskStep env now w c w' next) (ht : taskOfOrder w c.before) : taskOfOrder w' next := by
  have hsame := h.sameOrders
  have htrivial : ∀ t : Task, next.task? = some t → t.OfOrder w'.db.attempts → taskOfOrder w' next := by
    intro t hn hof u hu
    obtain rfl := Option.some.inj (hn.symm.trans hu)
    exact hof
  cases h with
  | reconciling caller attempt orderId hfind hw hn =>
    obtain ⟨hmem, horder⟩ := Table.find?_mem hfind
    refine htrivial _ (congrArg Next.task? hn) ?_
    exact (hsame _ _).mpr ⟨attempt, hmem, rfl, beq_iff_eq.mp horder⟩
  | captureLost caller copy orderId payments latest hc hlast hstatus hactive hstale hw hn =>
    exact htrivial _ (congrArg Next.task? hn) trivial
  | refundCalled caller attempt paymentId hdue hnone hw hn =>
    exact htrivial _ (congrArg Next.task? hn) trivial
  | operatorRefundCalled settlement attempt paymentId hc hmem hstate hnone hattempt hof
      hcaptured hpayment hw hn => exact htrivial _ (congrArg Next.task? hn) trivial
  | again t hc hw hn =>
    rw [hc] at ht
    refine htrivial t (congrArg Next.task? hn) ?_
    rw [show w'.db.attempts = w.db.attempts from congrArg Books.attempts hw]
    exact ht t rfl
  | _ =>
    rename_i hn
    exact taskOfOrder_plain hn

theorem JobStep.ofOrder {env : Env} {now : Int} {w w' : World} {k : Kick} {c : RunWhy}
    {next : Next RunPoint} (h : JobStep env now w k c w' next) (hsound : runSound w c.before)
    (hj : runOfOrder w c.before) : runOfOrder w' next := by
  have hsame : w'.db.attempts = w.db.attempts → SameOrders w.db.attempts w'.db.attempts := by
    intro heq
    rw [heq]
    exact .refl _
  cases h with
  | attemptInitiated l settlement attemptNum lastAttemptId attemptId receipt hl hc hnum hadd hw hn =>
    refine runOfOrder_next (congrArg Next.task? hn) fun orderId hhas => ?_
    -- the id of the new row was not in use
    obtain ⟨a, ha, hid, -⟩ := (hadd.sameOrders rfl _ _).mp hhas
    exact hadd.fresh a ha hid
  | orderCalled settlement attemptNum attemptId receipt hc hw hn =>
    rw [hc] at hj
    exact runOfOrder_next (congrArg Next.task? hn)
      (RunPoint.OfOrder.kept (p := .createOrder settlement attemptNum attemptId receipt) (hj _ rfl)
        (hsame (congrArg Books.attempts hw)))
  | orderSet settlement attemptNum attemptId receipt orderId hc hset hw hn =>
    obtain ⟨a, ha, hid, -⟩ : AttemptOf w.db.attempts attemptId settlement.id := by
      rw [hc] at hsound
      exact hsound _ rfl
    exact runOfOrder_next (congrArg Next.task? hn)
      ((hset.hasOrder_iff _ _).mpr (Or.inl ⟨rfl, rfl, a, ha, hid⟩))
  | checkoutCalled settlement attemptNum attemptId orderId hc hw hn =>
    rw [hc] at hj
    exact runOfOrder_next (congrArg Next.task? hn)
      (RunPoint.OfOrder.kept (p := .settleViaCheckout settlement attemptNum attemptId orderId)
        (hj _ rfl) (hsame (congrArg Books.attempts hw)))
  | captureLost settlement attemptNum attemptId orderId result paymentId hc hpaid hlost hn =>
    have hkept : SameOrders w.db.attempts w'.db.attempts := by
      rcases hlost with ⟨hw, -⟩ | ⟨attempt, -, hattempt, -, -⟩
      · exact hsame (congrArg Books.attempts hw)
      · exact hattempt.sameOrders
    rw [hc] at hj
    exact runOfOrder_next (congrArg Next.task? hn)
      (RunPoint.OfOrder.kept (p := .checkoutPending settlement attemptNum attemptId orderId)
        (hj _ rfl) hkept)
  | again p hc hw hn =>
    rw [hc] at hj
    exact runOfOrder_next (congrArg Next.task? hn)
      ((hj _ rfl).kept (hsame (congrArg Books.attempts hw)))
  | entered row mandateRow ctx hc hkick hre hm hw hn =>
    exact runOfOrder_next (congrArg Next.task? hn) trivial
  | resumed row hc hkick hmem hstate hidle hw hn =>
    exact runOfOrder_next (congrArg Next.task? hn) trivial
  | linkCalled settlement attemptNum lastAttemptId linkAttemptId receipt hc hnum hw hn =>
    exact runOfOrder_next (congrArg Next.task? hn) trivial
  | orderFailed l settlement attemptNum attemptId receipt err row hl hc hid hm hw hn =>
    exact runOfOrder_next (congrArg Next.task? hn) trivial
  | retried l settlement attemptNum attemptId orderId result hl hc hm hw hn =>
    exact runOfOrder_next (congrArg Next.task? hn) trivial
  | _ =>
    rename_i hn
    rw [hn]
    exact runOfOrder_done

/-- **An order id that was free names one attempt, and no other order id is lost.** -/
theorem OrderIdSet.oneAttempt {now : Int} {t t' : Attempts} {attemptId orderId : JsString}
    (h : OrderIdSet now t t' attemptId orderId) (hone : OneAttempt t)
    (hfresh : ∀ id, ¬ HasOrder t id orderId) (hnone : ∀ o, ¬ HasOrder t attemptId o) :
    OneAttempt t' ∧ ∀ id o, HasOrder t id o → HasOrder t' id o := by
  refine ⟨fun id id' o hhas hhas' => ?_, fun id o hhas => ?_⟩
  · rcases (h.hasOrder_iff _ _).mp hhas with ⟨rfl, rfl, -⟩ | ⟨-, hold⟩
    · rcases (h.hasOrder_iff _ _).mp hhas' with ⟨rfl, -, -⟩ | ⟨-, hold'⟩
      · rfl
      · exact absurd hold' (hfresh id')
    · rcases (h.hasOrder_iff _ _).mp hhas' with ⟨rfl, rfl, -⟩ | ⟨-, hold'⟩
      · exact absurd hold (hfresh id)
      · exact hone id id' o hold hold'
  · refine (h.hasOrder_iff _ _).mpr (Or.inr ⟨?_, hhas⟩)
    rintro rfl
    exact hnone o hhas

theorem JobStep.oneAttempt {env : Env} {s : Sys} {a : Act} {w' : World} {k : Kick} {c : RunWhy}
    {next : Next RunPoint} (h : JobStep env s.clock s.world k c w' next) (hmove : JobMove s a k c)
    (hok : FreshOrders s a) (hone : OneAttempt s.world.db.attempts)
    (hj : runOfOrder s.world c.before) :
    OneAttempt w'.db.attempts ∧
      ∀ id orderId, HasOrder s.world.db.attempts id orderId → HasOrder w'.db.attempts id orderId := by
  rcases h.orders with hsame | ⟨settlement, attemptNum, attemptId, receipt, orderId, rfl, hset⟩
  · exact ⟨fun id id' o hid hid' => hone id id' o ((hsame _ _).mp hid) ((hsame _ _).mp hid'),
      fun id o hhas => (hsame _ _).mpr hhas⟩
  · exact hset.oneAttempt hone (hok k _ orderId hmove)
      (hj (.orderPending settlement attemptNum attemptId receipt) rfl)

def ordersExtension (env : Env) : Extension (soundOutline env) FreshOrders where
  allowed := fun _ _ _ => trivial
  inv := fun w => OneAttempt w.db.attempts
  task := taskOfOrder
  job := fun w _ => runOfOrder w
  taskRel := fun w w' => SameOrders w.db.attempts w'.db.attempts
  jobRel := fun w w' => ∀ id orderId, HasOrder w.db.attempts id orderId → HasOrder w'.db.attempts id orderId
  task_done := fun _ => taskOfOrder_plain plain_done
  job_done := fun _ _ => runOfOrder_done
  taskStep := by
    intro s a c w' next _ _ hone ht _ _ h _ _
    have hsame := TaskStep.sameOrders h
    exact ⟨fun id id' o hid hid' => hone id id' o ((hsame _ _).mp hid) ((hsame _ _).mp hid'), hsame,
      TaskStep.ofOrder h ht⟩
  jobStep := by
    intro s a k c w' next _ hsound hone hj hmove hok h _ _
    obtain ⟨hone', hgrow⟩ := JobStep.oneAttempt h hmove hok hone hj
    exact ⟨hone', hgrow, JobStep.ofOrder h hsound hj⟩
  task_stable := by
    intro w w' t _ _ _ ht hrel u hu
    obtain rfl := Option.some.inj hu
    have hof := ht _ rfl
    have hgrow : ∀ id orderId, HasOrder w.db.attempts id orderId → HasOrder w'.db.attempts id orderId := by
      rcases hrel with ⟨-, hsame⟩ | ⟨-, hgrow⟩
      · exact fun id orderId hhas => (hsame _ _).mpr hhas
      · exact hgrow
    cases t with
    | reconcile caller point =>
      cases point with
      | fetchOrderPayments attempt orderId => exact hgrow _ _ hof
      | _ => trivial
    | _ => trivial
  job_stable := fun _ _ _ p _ _ _ hj _ hsame => runOfOrder_next rfl ((hj p rfl).kept hsame)

/-- The invariants of the books together with whose order an order id is. -/
def ordersOutline (env : Env) : Outline (facilitatorSpec env) FreshOrders :=
  (ordersExtension env).outline

theorem oneAttempt_initial : OneAttempt World.initial.db.attempts :=
  fun _ _ _ h => absurd h.choose_spec.1 List.not_mem_nil

theorem ordersOutline_holds {env : Env} {s : Sys}
    (h : Run (facilitator env) FreshOrders Sys.initial s) : (ordersOutline env).Holds s :=
  (ordersOutline env).holds ⟨sound_initial env.crypto, oneAttempt_initial⟩ h

/-- No step takes an order id from an attempt. -/
theorem hasOrder_step {env : Env} {s s' : Sys} {a : Act} (hs : (ordersOutline env).Holds s)
    (hok : FreshOrders s a) (h : step (facilitator env) s a = some s') {id orderId : JsString}
    (hhas : HasOrder s.world.db.attempts id orderId) : HasOrder s'.world.db.attempts id orderId := by
  cases (facilitatorSpec env).moved h with
  | stays hstay => rw [hstay]; exact hhas
  | task c next hmove hm => exact (TaskStep.sameOrders hm _ _).mpr hhas
  | job k c next hmove hm =>
    exact (JobStep.oneAttempt hm hmove hok hs.inv.2 (hs.before_job hmove).2).2 _ _ hhas

/-- The attempt that carries an order id is the one found by it. -/
theorem OneAttempt.attemptByOrder {db : Db} (h : OneAttempt db.attempts) {a : AttemptRow}
    (ha : a ∈ db.attempts.rows) {orderId : JsString} (horder : a.providerOrderId = some orderId) :
    attemptByOrder db orderId = some a := by
  refine Table.find?_eq_some ha (beq_iff_eq.mpr horder) fun b hb hp => ?_
  exact attempt_eq hb ha (h _ _ orderId ⟨b, hb, rfl, beq_iff_eq.mp hp⟩ ⟨a, ha, rfl, horder⟩)

/-- An answered order id that no attempt carries. -/
def answersFreshOrder (s : Sys) : Act → Bool
  | .resumeJob (.order (.ok orderId)) =>
    s.world.db.attempts.rows.all fun row => row.providerOrderId != some orderId
  | _ => true

theorem freshOrders_of_check (s : Sys) (a : Act) (h : answersFreshOrder s a = true) :
    FreshOrders s a := by
  intro k p orderId hmove id hhas
  cases hmove with
  | resumeJob b k p hfree hjob =>
    obtain ⟨row, hrow, -, horder⟩ := hhas
    have hne := List.all_eq_true.mp h row hrow
    rw [horder] at hne
    exact absurd hne (by simp)

end Hundi
