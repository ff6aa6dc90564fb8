/-
  A payment link's attempt is never captured.

  `fallbackToPaymentLink` writes the attempt with the link's id and without an order id, and nothing
  sets one later.  `reconcileByOrder`, where every webhook and every sweep ends up, finds attempts
  by order id only; the executor captures the attempts it drove itself.  `linkOutline` follows the
  attempt ids through both.
-/
import Hundi.Facilitator.Frame

namespace Hundi

open Js EventLoop

/-- The attempt is there, and is not a payment link's. -/
def NotLink (t : Attempts) (attemptId : JsString) : Prop :=
  ∃ a ∈ t.rows, a.id = attemptId ∧ a.method ≠ .payment_link

theorem NotLink.kept {t t' : Attempts} {id : JsString} (h : NotLink t id) (hk : AttemptsKept t t') :
    NotLink t' id := by
  obtain ⟨a, ha, hid, hm⟩ := h
  obtain ⟨a', ha', hkept⟩ := hk a ha
  exact ⟨a', ha', hkept.id.trans hid, by rw [hkept.method]; exact hm⟩

theorem NotLink.method {t : Attempts} {id : JsString} (h : NotLink t id) {a : AttemptRow}
    (ha : a ∈ t.rows) (hid : a.id = id) : a.method ≠ .payment_link := by
  obtain ⟨a', ha', hid', hm⟩ := h
  rw [attempt_eq ha ha' (hid.trans hid'.symm)]
  exact hm

/-- A payment link's attempt has no order id and is not captured. -/
def LinksOpen (t : Attempts) : Prop :=
  ∀ a ∈ t.rows, a.method = .payment_link → a.providerOrderId = none ∧ a.state ≠ .captured

/-- The attempt ids a task may capture. -/
def Task.NotLink (t : Attempts) : Task → Prop
  | .reconcile _ (.fetchOrderPayments attempt _) => Hundi.NotLink t attempt.id
  | _ => True

/-- The attempt ids a run may capture or give an order id. -/
def RunPoint.NotLink (t : Attempts) : RunPoint → Prop
  | .createOrder _ _ attemptId _ => Hundi.NotLink t attemptId
  | .orderPending _ _ attemptId _ => Hundi.NotLink t attemptId
  | .settleViaCheckout _ _ attemptId _ => Hundi.NotLink t attemptId
  | .checkoutPending _ _ attemptId _ => Hundi.NotLink t attemptId
  | _ => True

theorem Task.NotLink.kept {t t' : Attempts} {task : Task} (h : task.NotLink t)
    (hk : AttemptsKept t t') : task.NotLink t' := by
  cases task with
  | reconcile caller point =>
    cases point with
    | fetchOrderPayments attempt orderId => exact Hundi.NotLink.kept h hk
    | _ => trivial
  | _ => trivial

theorem RunPoint.NotLink.kept {t t' : Attempts} {p : RunPoint} (h : p.NotLink t)
    (hk : AttemptsKept t t') : p.NotLink t' := by
  cases p with
  | createOrder settlement attemptNum attemptId receipt => exact Hundi.NotLink.kept h hk
  | orderPending settlement attemptNum attemptId receipt => exact Hundi.NotLink.kept h hk
  | settleViaCheckout settlement attemptNum attemptId orderId => exact Hundi.NotLink.kept h hk
  | checkoutPending settlement attemptNum attemptId orderId => exact Hundi.NotLink.kept h hk
  | _ => trivial

def taskNotLink (w : World) (next : Next Task) : Prop :=
  ∀ t, next.task? = some t → t.NotLink w.books.attempts

def runNotLink (w : World) (next : Next RunPoint) : Prop :=
  ∀ p, next.task? = some p → p.NotLink w.books.attempts

theorem taskNotLink_plain {w : World} {next : Next Task} (h : Plain next) : taskNotLink w next := by
  intro t ht
  have hp := h t ht
  cases t <;> trivial

/-! ## The effects -/

theorem LinksOpen.moved {t t' : Attempts} {now : Int} {row : AttemptRow} {src dst : AttemptState}
    (h : LinksOpen t) (hm : AttemptMoved now t t' row src dst) (hdst : dst ≠ .captured) :
    LinksOpen t' := by
  intro a ha hlink
  rcases hm.mem_iff.mp ha with rfl | ⟨ha, -⟩
  · exact ⟨(h row hm.mem hlink).1, hdst⟩
  · exact h a ha hlink

theorem LinksOpen.added {t t' : Attempts} {row : AttemptRow} (h : LinksOpen t)
    (hadd : AttemptAdded t t' row) (horder : row.providerOrderId = none)
    (hstate : row.state ≠ .captured) : LinksOpen t' := by
  intro a ha hlink
  rcases (hadd.mem_iff a).mp ha with ha | rfl
  · exact h a ha hlink
  · exact ⟨horder, hstate⟩

theorem LinksOpen.captured {t t' : Attempts} {now : Int} {row : AttemptRow} {src : AttemptState}
    {paymentId : JsString} (h : LinksOpen t) (hc : AttemptCaptured now t t' row src paymentId)
    (hnot : NotLink t row.id) : LinksOpen t' := by
  intro a ha hlink
  rcases (hc.mem_iff a).mp ha with rfl | ⟨ha, -⟩
  · exact absurd (show row.method = .payment_link from hlink) (hnot.method hc.mem rfl)
  · exact h a ha hlink

theorem LinksOpen.ordered {t t' : Attempts} {now : Int} {attemptId orderId : JsString}
    (h : LinksOpen t) (hset : OrderIdSet now t t' attemptId orderId) (hnot : NotLink t attemptId) :
    LinksOpen t' := by
  intro a ha hlink
  rcases (hset a).mp ha with ⟨a₀, ha₀, hid, rfl⟩ | ⟨ha, -⟩
  · exact absurd (show a₀.method = .payment_link from hlink) (hnot.method ha₀ hid)
  · exact h a ha hlink

/-! ## The outline -/

theorem TaskStep.linksOpen {env : Env} {now : Int} {w w' : World} {c : TaskWhy} {next : Next Task}
    (h : TaskStep env now w c w' next) (hl : LinksOpen w.books.attempts)
    (ht : taskNotLink w c.before) : LinksOpen w'.books.attempts ∧ taskNotLink w' next := by
  cases h with
  | attemptFailed l row src hi hm hwhy hw hn =>
    rw [hw]
    exact ⟨hl.moved hm nofun, taskNotLink_plain hn⟩
  | reconciling caller attempt orderId hfind hw hn =>
    rw [hn]
    refine ⟨by rw [hw]; exact hl, ?_⟩
    rintro t ht
    obtain rfl := Option.some.inj ht
    -- the attempt was found by its order id, and a link's has none
    obtain ⟨hmem, horder⟩ := Table.find?_mem hfind
    rw [beq_iff_eq] at horder
    refine ⟨attempt, by rw [hw]; exact hmem, rfl, fun hlink => ?_⟩
    rw [(hl attempt hmem hlink).1] at horder
    exact nomatch horder
  | captured caller copy orderId payments latest attempt settlement lrow hc hlast hstatus hid hsid
      hattempt hm hrec hw hn =>
    rw [hc] at ht
    have hnot : NotLink w.books.attempts copy.id := ht _ rfl
    rw [hw]
    rw [← hid] at hnot
    exact ⟨hl.captured hattempt hnot, taskNotLink_plain hn⟩
  | captureLost caller copy orderId payments latest hc hlast hstatus hactive hstale hw hn =>
    rw [hn]
    refine ⟨by rw [hw]; exact hl, fun t ht => ?_⟩
    obtain rfl := Option.some.inj ht
    trivial
  | refundCalled caller attempt paymentId hdue hnone hw hn =>
    rw [hn]
    refine ⟨by rw [hw]; exact hl, fun t ht => ?_⟩
    obtain rfl := Option.some.inj ht
    trivial
  | operatorRefundCalled settlement attempt paymentId hc hmem hstate hnone hattempt hof
      hcaptured hpayment hw hn =>
    rw [hn]
    refine ⟨by rw [hw]; exact hl, fun t ht => ?_⟩
    obtain rfl := Option.some.inj ht
    trivial
  | again t hc hw hn =>
    rw [hn]
    rw [hc] at ht
    refine ⟨by rw [hw]; exact hl, fun u hu => ?_⟩
    obtain rfl := Option.some.inj hu
    rw [hw]
    exact ht _ rfl
  | _ =>
    rename_i hw hn
    rw [hw]
    exact ⟨hl, taskNotLink_plain hn⟩

theorem JobStep.linksOpen {env : Env} {now : Int} {w w' : World} {k : Kick} {c : RunWhy}
    {next : Next RunPoint} (h : JobStep env now w k c w' next) (hl : LinksOpen w.books.attempts)
    (hj : runNotLink w c.before) : LinksOpen w'.books.attempts ∧ runNotLink w' next := by
  have hk := h.persists.attempts
  -- the run stays on an attempt that is no link's
  have hstay : ∀ {p : RunPoint}, p.NotLink w.books.attempts → runNotLink w' (.park p) := by
    intro p hp q hq
    obtain rfl := Option.some.inj hq
    exact hp.kept hk
  cases h with
  | quiet l hi hw hn => rw [hw, hn]; exact ⟨hl, fun p hp => nomatch hp⟩
  | entered row mandateRow ctx hc hkick hre hm hw hn =>
    rw [hn]
    refine ⟨by rw [hw]; exact hl, fun p hp => ?_⟩
    obtain rfl := Option.some.inj hp
    trivial
  | gateRejected l row reason hi hc hkick hre hm hw hn => rw [hw, hn]; exact ⟨hl, fun p hp => nomatch hp⟩
  | resumed row hc hkick hmem hstate hidle hw hn =>
    rw [hn]
    refine ⟨by rw [hw]; exact hl, fun p hp => ?_⟩
    obtain rfl := Option.some.inj hp
    trivial
  | attemptInitiated l settlement attemptNum lastAttemptId attemptId receipt hi hc hnum hadd hw hn =>
    rw [hn]
    refine ⟨by rw [hw]; exact hl.added hadd rfl nofun, fun p hp => ?_⟩
    obtain rfl := Option.some.inj hp
    exact ⟨_, (hadd.mem_iff _).mpr (Or.inr rfl), rfl, nofun⟩
  | linkCalled settlement attemptNum lastAttemptId linkAttemptId receipt hc hnum hw hn =>
    rw [hn]
    exact ⟨by rw [hw]; exact hl, hstay trivial⟩
  | orderCalled settlement attemptNum attemptId receipt hc hw hn =>
    rw [hc] at hj
    rw [hn]
    have hnot : NotLink w.books.attempts attemptId := hj _ rfl
    exact ⟨by rw [hw]; exact hl, hstay hnot⟩
  | orderFailed l settlement attemptNum attemptId receipt err row hi hc hid hm hw hn =>
    rw [hn]
    refine ⟨by rw [hw]; exact hl.moved hm nofun, fun p hp => ?_⟩
    obtain rfl := Option.some.inj hp
    trivial
  | orderSet settlement attemptNum attemptId receipt providerOrderId hc hset hw hn =>
    rw [hc] at hj
    have hnot : NotLink w.books.attempts attemptId := hj _ rfl
    rw [hn]
    refine ⟨by rw [hw]; exact hl.ordered hset hnot, fun p hp => ?_⟩
    obtain rfl := Option.some.inj hp
    exact hnot.kept hk
  | checkoutCalled settlement attemptNum attemptId providerOrderId hc hw hn =>
    rw [hc] at hj
    have hnot : NotLink w.books.attempts attemptId := hj _ rfl
    rw [hn]
    exact ⟨by rw [hw]; exact hl, hstay hnot⟩
  | captured copy attemptNum attemptId providerOrderId result paymentId attempt settlement lrow hc
      hpaid hid hsid hattempt hm hrec hw hn =>
    rw [hc] at hj
    have hnot : NotLink w.books.attempts attemptId := hj _ rfl
    rw [← hid] at hnot
    rw [hw, hn]
    exact ⟨hl.captured hattempt hnot, fun p hp => nomatch hp⟩
  | captureLost settlement attemptNum attemptId providerOrderId result paymentId hc hpaid hlost hn =>
    rw [hc] at hj
    have hnot : NotLink w.books.attempts attemptId := hj _ rfl
    rw [hn]
    refine ⟨?_, fun p hp => ?_⟩
    · rcases hlost with ⟨hw, -⟩ | ⟨attempt, hid, hattempt, -, hw⟩ <;> rw [hw]
      · exact hl
      · rw [← hid] at hnot
        exact hl.captured hattempt hnot
    · obtain rfl := Option.some.inj hp
      trivial
  | retried l settlement attemptNum attemptId providerOrderId result hi hc hm hw hn =>
    rw [hn]
    refine ⟨?_, fun p hp => ?_⟩
    · rw [hw]
      rcases hm with ⟨hsame, -⟩ | ⟨row, -, hm⟩
      · rw [hsame]; exact hl
      · exact hl.moved hm nofun
    · obtain rfl := Option.some.inj hp
      trivial
  | linkIssued l settlement lastAttemptId linkAttemptId receipt linkId shortUrl hi hc hissued hw hn =>
    rw [hw, hn]
    refine ⟨?_, fun p hp => nomatch hp⟩
    obtain ⟨t₁, rfl | ⟨row, -, hm⟩, hadd⟩ := hissued.superseded
    · exact hl.added hadd rfl nofun
    · exact (hl.moved hm nofun).added hadd rfl nofun
  | again p hc hw hn =>
    rw [hc] at hj
    rw [hn]
    exact ⟨by rw [hw]; exact hl, hstay (hj _ rfl)⟩

def linkOutline (env : Env) : Outline (facilitatorSpec env) anyStep where
  inv := fun w => LinksOpen w.books.attempts
  task := taskNotLink
  job := fun w _ => runNotLink w
  taskRel := fun w w' => AttemptsKept w.books.attempts w'.books.attempts
  jobRel := fun w w' => AttemptsKept w.books.attempts w'.books.attempts
  task_done := fun _ => taskNotLink_plain plain_done
  job_done := fun _ _ p hp => nomatch hp
  taskStep := fun _ _ _ _ _ hl ht _ _ h =>
    ⟨(TaskStep.linksOpen h hl ht).1, (TaskStep.persists h).attempts, (TaskStep.linksOpen h hl ht).2⟩
  jobStep := fun _ _ _ _ _ _ hl hj _ _ h =>
    ⟨(JobStep.linksOpen h hl hj).1, (JobStep.persists h).attempts, (JobStep.linksOpen h hl hj).2⟩
  task_stable := fun _ _ t _ ht hrel u hu => by
    obtain rfl := Option.some.inj hu
    exact (ht _ rfl).kept (hrel.elim id id)
  job_stable := fun _ _ _ p _ hj hrel q hq => by
    obtain rfl := Option.some.inj hq
    exact (hj _ rfl).kept hrel

theorem Reachable.linksOpen {env : Env} {s : Sys} (h : Reachable env s) :
    LinksOpen s.world.books.attempts :=
  ((linkOutline env).holds (fun _ ha => absurd ha List.not_mem_nil) h).inv

/-! ## A paid link -/

/-- The attempt is the live payment-link attempt of a settlement. -/
structure LiveLink (w : World) (a : AttemptRow) : Prop where
  mem : a ∈ w.db.attempts.rows
  link : a.method = .payment_link
  live : a.state.active = true

/-- What a paid link should lead to: attempt and settlement captured, and the ledger says so. -/
def LinkSettled (w : World) (a : AttemptRow) : Prop :=
  (∃ a' ∈ w.db.attempts.rows, a'.id = a.id ∧ a'.state = .captured) ∧
  (∃ r ∈ w.db.settlements.rows, r.id = a.settlementId ∧ r.state = .captured) ∧
  ∃ l ∈ w.db.ledger, l.eventType = .payment_captured ∧ l.settlementId = some a.settlementId

/-- A signed `payment_link.paid` webhook, not seen before, for the link of the attempt; it names the
    order that was paid. -/
structure PaidLinkWebhook (env : Env) (w : World) (a : AttemptRow) (rawBody signature eventId : JsString)
    (orderId : JsString) : Prop where
  signed : verifyWebhookSignature env rawBody (some signature) = true
  unseen : ∀ e ∈ w.db.webhookEvents.rows, e.eventId ≠ eventId
  named : eventId ≠ []
  body : ∃ body, env.crypto.jsonParse rawBody = some body ∧
    webhookEventType body = some (.str (js "payment_link.paid")) ∧
    ((((body.get? (js "payload")).bind (·.get? (js "payment_link"))).bind (·.get? (js "entity"))).bind
      (·.get? (js "id"))).bind JsonValue.str? = a.providerLinkId ∧
    extractOrderId body = some (.str orderId)

/-- The steps that process a request: its own micro-steps, and the provider's answers to it. -/
def serves (payments : List RazorpayPayment) : Act → Bool
  | .runTask _ => true
  | .resumeTask _ (.payments (.ok answer)) => answer == payments
  | .resumeTask _ (.refund _) => true
  | .resumeTask _ .ready => true
  | _ => false

/-- **A paid link never settles.**  From no state does any run, whatever webhooks it processes and
    whatever the provider reports, end with the link's attempt captured. -/
theorem paid_link_never_settles {env : Env} {s : Sys} (h : Reachable env s) {a : AttemptRow}
    (ha : LiveLink s.world a) {t : Sys} (r : Run (facilitator env) anyStep s t) :
    ¬ LinkSettled t.world a := by
  rintro ⟨⟨a', ha', hid, hcaptured⟩, -⟩
  obtain ⟨a'', ha'', hk⟩ := (persists_run r).attempts a ha.mem
  have hlink : a'.method = .payment_link := by
    rw [attempt_eq ha' ha'' (hid.trans hk.id.symm), hk.method]
    exact ha.link
  have hreach : Reachable env t := h.trans r
  exact (hreach.linksOpen a' ha' hlink).2 hcaptured

/-- An installation whose one webhook body is the payment of link `l1`, through order `o9`. -/
def demoLinkEnv : Env :=
  { demoEnv with
    crypto := { demoCrypto with
      jsonParse := fun _ => some (.obj [(js "event", .str (js "payment_link.paid")),
        (js "payload", .obj [
          (js "payment_link", .obj [(js "entity", .obj [(js "id", .str (js "l1"))])]),
          (js "payment", .obj [(js "entity", .obj [(js "order_id", .str (js "o9"))])])])]) } }

/-- Three orders fail and the executor falls back to link `l1`. -/
def demoLink : List Act :=
  demoSettling ++
    [.runJob (js "a1"), .runJob [], .resumeJob (.order (.error (.error (js "down")))),
      .runJob (js "a2"), .runJob [], .resumeJob (.order (.error (.error (js "down")))),
      .runJob (js "a3"), .runJob [], .resumeJob (.order (.error (.error (js "down")))),
      .runJob (js "a4"), .resumeJob (.link (.ok (js "l1", js "https://rzp.io/l1"))), .endJob]

/-- The link's attempt in that run. -/
def demoLinkAttempt : AttemptRow :=
  newAttempt 1000 (js "a4") (js "s1") .payment_link .awaiting_confirmation
    (linkReceipt (js "s1") (js "a4")) (some (js "l1"))

theorem paid_link_never_settles_demo : ∃ s, Reachable demoLinkEnv s ∧
    LiveLink s.world demoLinkAttempt ∧ ¬ LinkSettled s.world demoLinkAttempt := by
  obtain ⟨s, hreach, hp⟩ := reachable_of_run demoLinkEnv demoLink
    (fun s => s.world.db.attempts.rows.contains demoLinkAttempt) (by decide +kernel)
  rw [List.contains_iff_mem] at hp
  have hlive : LiveLink s.world demoLinkAttempt := ⟨hp, rfl, rfl⟩
  exact ⟨s, hreach, hlive, paid_link_never_settles hreach hlive .refl⟩

/-- The webhook for the paid link is processed and the link's attempt is left as it was. -/
theorem paid_link_strands : ¬ ∀ (env : Env) (s s₁ t : Sys) (a : AttemptRow)
    (rawBody signature eventId orderId seed : JsString) (payments : List RazorpayPayment)
    (actions : List Act),
    Reachable env s → LiveLink s.world a → s.parked = [] →
    PaidLinkWebhook env s.world a rawBody signature eventId orderId →
    (∃ p, payments.getLast? = some p ∧ p.status = js "captured") →
    sysStep env s (.request (.postWebhook rawBody (some signature) (some eventId)) seed) = some s₁ →
    run (facilitator env) s₁ actions = some t → actions.all (serves payments) = true →
    t.cpu = none → t.parked = [] → LinkSettled t.world a := by
  intro hclaim
  obtain ⟨s, hreach, hp⟩ := reachable_of_run demoLinkEnv demoLink
    (fun s => s.world.db.attempts.rows.contains demoLinkAttempt && s.parked.isEmpty &&
      s.world.db.webhookEvents.rows.isEmpty &&
      (sysStep demoLinkEnv s (.request (.postWebhook [] (some []) (some (js "e1"))) [])).any fun s₁ =>
        (run (facilitator demoLinkEnv) s₁ [.runTask []]).any fun t => t.cpu.isNone && t.parked.isEmpty)
    (by decide +kernel)
  simp only [Bool.and_eq_true, List.contains_iff_mem, List.isEmpty_iff, Option.any_eq_true] at hp
  obtain ⟨⟨⟨hmem, hparked⟩, hunseen⟩, s₁, hstep, t, hrun, hcpu, hparked'⟩ := hp
  have hlive : LiveLink s.world demoLinkAttempt := ⟨hmem, rfl, rfl⟩
  have hrun' : Run (facilitator demoLinkEnv) anyStep s t :=
    (Run.single trivial hstep).trans (Run.of_run hrun)
  have hreach' : Reachable demoLinkEnv t := hreach.trans hrun'
  have hsettled := hclaim demoLinkEnv s s₁ t demoLinkAttempt [] [] (js "e1") (js "o9") []
    [⟨js "p9", js "captured"⟩] [.runTask []] hreach hlive hparked
    ⟨rfl, by rw [hunseen]; exact fun _ h => absurd h List.not_mem_nil, by decide, _, rfl, rfl,
      rfl, rfl⟩ ⟨_, rfl, rfl⟩ hstep hrun rfl (Option.isNone_iff_eq_none.mp hcpu) hparked'
  obtain ⟨⟨a', ha', hid, hcaptured⟩, -⟩ := hsettled
  obtain ⟨a'', ha'', hk⟩ := (persists_run hrun').attempts demoLinkAttempt hmem
  have hlink : a'.method = .payment_link := by
    rw [attempt_eq ha' ha'' (hid.trans hk.id.symm), hk.method]
    rfl
  exact (hreach'.linksOpen a' ha' hlink).2 hcaptured

end Hundi
