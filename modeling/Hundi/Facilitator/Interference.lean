/-
  What the executor's attempt loop may rely on while webhooks and sweeps run.

  The loop awaits the provider twice in every iteration.  Before the order id of its attempt is
  written nothing else can find that attempt, so the settlement stays `settling`; while the checkout
  driver is at work a webhook may capture it.  `TaskFrame` and `JobFrame` say what tasks and runs
  leave to each other, and `openOutline` what a run may assume at each point.  The loop does not
  look again when the driver answers, so the outline is for the runs in which that answer finds the
  settlement still open (`AnsweredOpen`).
-/
import Hundi.Facilitator.Invariants

namespace Hundi

open Js EventLoop

/-- The settlement is `settling`. -/
def IsSettling (t : Settlements) (settlementId : JsString) : Prop :=
  ∃ r ∈ t.rows, r.id = settlementId ∧ r.state = .settling

/-- The settlement has no active attempt. -/
def Idle (t : Attempts) (settlementId : JsString) : Prop :=
  ∀ a ∈ t.rows, a.settlementId = settlementId → a.state.active = false

/-- The settlement has no active attempt but this one, and this one is `initiated` if active. -/
def OnlyLive (t : Attempts) (settlementId attemptId : JsString) : Prop :=
  ∀ a ∈ t.rows, a.settlementId = settlementId → a.state.active = true →
    a.id = attemptId ∧ a.state = .initiated

/-- The attempt has no order id yet. -/
def Unordered (t : Attempts) (attemptId : JsString) : Prop :=
  ∀ a ∈ t.rows, a.id = attemptId → a.providerOrderId = none

/-- The attempt has its order id. -/
def Ordered (t : Attempts) (attemptId : JsString) : Prop :=
  ∀ a ∈ t.rows, a.id = attemptId → a.providerOrderId ≠ none

/-- Where an attempt is active, its settlement is `settling`. -/
def LiveSettling (b : Books) : Prop :=
  ∀ a ∈ b.attempts.rows, a.state.active = true → IsSettling b.settlements a.settlementId

/-! ## What tasks and runs leave to each other -/

/-- What a task does to attempts and to `settling` settlements: it adds no attempt, gives no order
    id and makes none active, and it ends `settling` only through an attempt with an order id. -/
structure TaskFrame (b b' : Books) : Prop where
  attempts : ∀ a' ∈ b'.attempts.rows, ∃ a ∈ b.attempts.rows, a.id = a'.id ∧
    a.settlementId = a'.settlementId ∧ a.providerOrderId = a'.providerOrderId ∧
    (a'.state.active = true → a.state = a'.state)
  settling : ∀ r ∈ b.settlements.rows, r.state = .settling → IsSettling b'.settlements r.id ∨
    (∃ a ∈ b.attempts.rows, a.settlementId = r.id ∧ a.state.active = true ∧
      a.providerOrderId ≠ none) ∧ Idle b'.attempts r.id

/-- What a run does to attempts: it takes no order id away, and those it adds are active. -/
def JobFrame (b b' : Books) : Prop :=
  ∀ a' ∈ b'.attempts.rows,
    (∃ a ∈ b.attempts.rows, a.id = a'.id ∧ a.settlementId = a'.settlementId ∧
      (a.providerOrderId ≠ none → a'.providerOrderId ≠ none)) ∨
    (∀ a ∈ b.attempts.rows, a.id ≠ a'.id) ∧ a'.state.active = true

/-- A transition from another state leaves a `settling` settlement. -/
theorem IsSettling.moved {t t' : Settlements} {id : JsString} (h : IsSettling t id) {now : Int}
    {row : SettlementRow} {src dst : SettlementState} {rejectReason : Option JsString}
    (hm : SettlementMoved now t t' row src dst rejectReason) (hsrc : src ≠ .settling) :
    IsSettling t' id := by
  obtain ⟨r, hr, hid, hstate⟩ := h
  have hne : r.id ≠ row.id := fun hsame => by
    rw [settlement_eq hr hm.mem hsame, hm.state] at hstate
    exact hsrc hstate
  exact ⟨r, hm.mem_iff.mpr (Or.inr ⟨hr, hne⟩), hid, hstate⟩

namespace TaskFrame

variable {b b' : Books}

/-- The attempts of a task that did not touch them. -/
theorem attempts_same (h : b'.attempts = b.attempts) : ∀ a' ∈ b'.attempts.rows,
    ∃ a ∈ b.attempts.rows, a.id = a'.id ∧ a.settlementId = a'.settlementId ∧
      a.providerOrderId = a'.providerOrderId ∧ (a'.state.active = true → a.state = a'.state) := by
  intro a' ha'
  rw [h] at ha'
  exact ⟨a', ha', rfl, rfl, rfl, fun _ => rfl⟩

theorem same (ha : b'.attempts = b.attempts) (hs : b'.settlements = b.settlements) :
    TaskFrame b b' where
  attempts := attempts_same ha
  settling := fun r hr hstate => Or.inl ⟨r, by rw [hs]; exact hr, rfl, hstate⟩

theorem moved {now : Int} {row : SettlementRow} {src dst : SettlementState}
    {rejectReason : Option JsString} (ha : b'.attempts = b.attempts)
    (hm : SettlementMoved now b.settlements b'.settlements row src dst rejectReason)
    (hsrc : src ≠ .settling) : TaskFrame b b' where
  attempts := attempts_same ha
  settling := fun r hr hstate => Or.inl (IsSettling.moved ⟨r, hr, rfl, hstate⟩ hm hsrc)

theorem added {row : SettlementRow} (ha : b'.attempts = b.attempts)
    (hadd : SettlementAdded b.settlements b'.settlements row) : TaskFrame b b' where
  attempts := attempts_same ha
  settling := fun r hr hstate => Or.inl ⟨r, (hadd.mem_iff r).mpr (Or.inl hr), rfl, hstate⟩

theorem kickBumped {id : JsString} (ha : b'.attempts = b.attempts)
    (hb : KickBumped b.settlements b'.settlements id) : TaskFrame b b' where
  attempts := attempts_same ha
  settling := fun r hr hstate => by
    have hother : (r.id == id && r.state == .approved) = false := by simp [hstate]
    exact Or.inl ⟨r, (Table.mem_update? hb).mpr (Or.inr ⟨hr, hother⟩), rfl, hstate⟩

theorem attemptMoved {now : Int} {row : AttemptRow} {src dst : AttemptState}
    (hs : b'.settlements = b.settlements) (hm : AttemptMoved now b.attempts b'.attempts row src dst)
    (hdst : dst.active = false) : TaskFrame b b' where
  attempts := fun a' ha' => by
    rcases hm.mem_iff.mp ha' with rfl | ⟨ha', -⟩
    · refine ⟨row, hm.mem, rfl, rfl, rfl, fun hact => ?_⟩
      rw [show (row.moveTo now dst).state = dst from rfl, hdst] at hact
      exact nomatch hact
    · exact ⟨a', ha', rfl, rfl, rfl, fun _ => rfl⟩
  settling := fun r hr hstate => Or.inl ⟨r, by rw [hs]; exact hr, rfl, hstate⟩

/-- A capture ends `settling` for the settlement of the captured attempt, and leaves it idle. -/
theorem captured {now : Int} {attempt : AttemptRow} {settlement : SettlementRow}
    {src : AttemptState} {paymentId : JsString}
    (ha : AttemptCaptured now b.attempts b'.attempts attempt src paymentId)
    (hm : SettlementMoved now b.settlements b'.settlements settlement .settling .captured none)
    (hof : attempt.settlementId = settlement.id) (hordered : attempt.providerOrderId ≠ none) :
    TaskFrame b b' where
  attempts := fun a' ha' => by
    rcases (ha.mem_iff a').mp ha' with rfl | ⟨ha', -⟩
    · exact ⟨attempt, ha.mem, rfl, rfl, rfl, fun hact => nomatch hact⟩
    · exact ⟨a', ha', rfl, rfl, rfl, fun _ => rfl⟩
  settling := fun r hr hstate => by
    by_cases hid : r.id = settlement.id
    · refine Or.inr ⟨⟨attempt, ha.mem, hof.trans hid.symm, ha.active, hordered⟩, ?_⟩
      intro a' ha' hsid
      rcases (ha.mem_iff a').mp ha' with rfl | ⟨ha', hne⟩
      · rfl
      · rw [Bool.eq_false_iff]
        intro hact
        have hsame := active_attempt_eq ha' ha.mem hact ha.active (by rw [hsid, hof, hid])
        exact hne (by rw [hsame])
    · exact Or.inl ⟨r, hm.mem_iff.mpr (Or.inr ⟨hr, hid⟩), rfl, hstate⟩

/-- **Tasks keep the active attempts under `settling` settlements.** -/
theorem liveSettling (hf : TaskFrame b b') (h : LiveSettling b) : LiveSettling b' := by
  intro a' ha' hact
  obtain ⟨a, ha, -, hsid, -, hstate⟩ := hf.attempts a' ha'
  obtain ⟨r, hr, hrid, hrstate⟩ := h a ha (by rw [hstate hact]; exact hact)
  rcases hf.settling r hr hrstate with hstill | ⟨-, hidle⟩
  · rw [← hsid, ← hrid]
    exact hstill
  · have hdead := hidle a' ha' (hsid.symm.trans hrid.symm)
    rw [hact] at hdead
    exact nomatch hdead

theorem idle (hf : TaskFrame b b') {sid : JsString} (h : Idle b.attempts sid) :
    Idle b'.attempts sid := by
  intro a' ha' hsid
  rw [Bool.eq_false_iff]
  intro hact
  obtain ⟨a, ha, -, hsid', -, hstate⟩ := hf.attempts a' ha'
  have hdead := h a ha (hsid'.trans hsid)
  rw [hstate hact, hact] at hdead
  exact nomatch hdead

theorem onlyLive (hf : TaskFrame b b') {sid aid : JsString} (h : OnlyLive b.attempts sid aid) :
    OnlyLive b'.attempts sid aid := by
  intro a' ha' hsid hact
  obtain ⟨a, ha, hid, hsid', -, hstate⟩ := hf.attempts a' ha'
  obtain ⟨haid, hinit⟩ := h a ha (hsid'.trans hsid) (by rw [hstate hact]; exact hact)
  exact ⟨hid.symm.trans haid, (hstate hact).symm.trans hinit⟩

theorem unordered (hf : TaskFrame b b') {aid : JsString} (h : Unordered b.attempts aid) :
    Unordered b'.attempts aid := by
  intro a' ha' hid'
  obtain ⟨a, ha, hid, -, horder, -⟩ := hf.attempts a' ha'
  rw [← horder]
  exact h a ha (hid.trans hid')

theorem ordered (hf : TaskFrame b b') {aid : JsString} (h : Ordered b.attempts aid) :
    Ordered b'.attempts aid := by
  intro a' ha' hid'
  obtain ⟨a, ha, hid, -, horder, -⟩ := hf.attempts a' ha'
  rw [← horder]
  exact h a ha (hid.trans hid')

/-- A settlement without active attempts stays `settling`. -/
theorem settling_of_idle (hf : TaskFrame b b') {sid : JsString} (h : IsSettling b.settlements sid)
    (hidle : Idle b.attempts sid) : IsSettling b'.settlements sid := by
  obtain ⟨r, hr, rfl, hstate⟩ := h
  rcases hf.settling r hr hstate with hstill | ⟨⟨a, ha, hsid, hact, -⟩, -⟩
  · exact hstill
  · rw [hidle a ha hsid] at hact
    exact nomatch hact

/-- So does one whose only active attempt has no order id. -/
theorem settling_of_unordered (hf : TaskFrame b b') {sid aid : JsString}
    (h : IsSettling b.settlements sid) (honly : OnlyLive b.attempts sid aid)
    (hun : Unordered b.attempts aid) : IsSettling b'.settlements sid := by
  obtain ⟨r, hr, rfl, hstate⟩ := h
  rcases hf.settling r hr hstate with hstill | ⟨⟨a, ha, hsid, hact, horder⟩, -⟩
  · exact hstill
  · exact absurd (hun a ha (honly a ha hsid hact).1) horder

end TaskFrame

/-! ## Assertions -/

/-- The attempt of a reconcile call was found by its order id. -/
def Task.Ordered (b : Books) : Task → Prop
  | .reconcile _ (.fetchOrderPayments attempt _) => Hundi.Ordered b.attempts attempt.id
  | _ => True

def taskOrdered (w : World) (next : Next Task) : Prop :=
  ∀ t, next.task? = some t → t.Ordered w.books

/-- What a run relies on at an await, or can go on from. -/
def RunPoint.Open (b : Books) : RunPoint → Prop
  | .attemptLoop settlement _ _ => IsSettling b.settlements settlement.id ∧ Idle b.attempts settlement.id
  | .createOrder settlement _ attemptId _ => IsSettling b.settlements settlement.id ∧
      OnlyLive b.attempts settlement.id attemptId ∧ Unordered b.attempts attemptId
  | .orderPending settlement _ attemptId _ => IsSettling b.settlements settlement.id ∧
      OnlyLive b.attempts settlement.id attemptId ∧ Unordered b.attempts attemptId
  | .settleViaCheckout settlement _ attemptId _ => OnlyLive b.attempts settlement.id attemptId
  | .checkoutPending settlement _ attemptId _ => OnlyLive b.attempts settlement.id attemptId
  | .captureLost settlement _ _ _ _ =>
      IsSettling b.settlements settlement.id ∧ Idle b.attempts settlement.id
  | .linkPending settlement _ _ _ =>
      IsSettling b.settlements settlement.id ∧ Idle b.attempts settlement.id

/-- The same with the segment before `settleViaCheckout`, in which nothing else runs. -/
structure RunOpen (w : World) (next : Next RunPoint) : Prop where
  point : ∀ p, next.task? = some p → p.Open w.books
  driving : ∀ settlement attemptNum attemptId orderId,
    next = .cpu (.settleViaCheckout settlement attemptNum attemptId orderId) →
    IsSettling w.books.settlements settlement.id

/-- The segment before `settleViaCheckout`. -/
def RunPoint.drives : RunPoint → Bool
  | .settleViaCheckout _ _ _ _ => true
  | _ => false

theorem runOpen_done {w : World} : RunOpen w .done :=
  ⟨fun _ hp => (nomatch hp), fun _ _ _ _ hnext => nomatch hnext⟩

theorem runOpen_park {w : World} {p : RunPoint} (h : p.Open w.books) : RunOpen w (.park p) := by
  refine ⟨fun q hq => ?_, fun _ _ _ _ hnext => nomatch hnext⟩
  obtain rfl := Option.some.inj hq
  exact h

theorem runOpen_cpu {w : World} {p : RunPoint} (h : p.Open w.books)
    (hp : p.drives = false) : RunOpen w (.cpu p) := by
  refine ⟨fun q hq => ?_, fun settlement attemptNum attemptId orderId hnext => ?_⟩
  · obtain rfl := Option.some.inj hq
    exact h
  · rw [Next.cpu.inj hnext] at hp
    exact nomatch hp

theorem RunPoint.Open.framed {b b' : Books} {p : RunPoint} (h : p.Open b) (hf : TaskFrame b b') :
    p.Open b' := by
  cases p with
  | attemptLoop settlement attemptNum lastAttemptId =>
    exact ⟨hf.settling_of_idle h.1 h.2, hf.idle h.2⟩
  | createOrder settlement attemptNum attemptId receipt =>
    exact ⟨hf.settling_of_unordered h.1 h.2.1 h.2.2, hf.onlyLive h.2.1, hf.unordered h.2.2⟩
  | orderPending settlement attemptNum attemptId receipt =>
    exact ⟨hf.settling_of_unordered h.1 h.2.1 h.2.2, hf.onlyLive h.2.1, hf.unordered h.2.2⟩
  | settleViaCheckout settlement attemptNum attemptId orderId => exact hf.onlyLive h
  | checkoutPending settlement attemptNum attemptId orderId => exact hf.onlyLive h
  | captureLost settlement attemptNum attemptId orderId result =>
    exact ⟨hf.settling_of_idle h.1 h.2, hf.idle h.2⟩
  | linkPending settlement lastAttemptId linkAttemptId receipt =>
    exact ⟨hf.settling_of_idle h.1 h.2, hf.idle h.2⟩

theorem taskOrdered_plain {w : World} {next : Next Task} (h : Plain next) : taskOrdered w next := by
  intro t ht
  have hp := h t ht
  cases t <;> trivial

/-! ## The steps -/

theorem TaskStep.framed {env : Env} {now : Int} {w w' : World} {c : TaskWhy} {next : Next Task}
    (h : TaskStep env now w c w' next) (hs : taskSound w c.before) (ht : taskOrdered w c.before) :
    TaskFrame w.books w'.books ∧ taskOrdered w' next := by
  cases h with
  | settlementCreated l row intent cart key status body hl hadd hfrom hstamp hw hn =>
    rw [hw]
    exact ⟨.added rfl hadd, taskOrdered_plain hn⟩
  | decided l row mandateRow approval rejectReason hl hmandate hsigned happrovals hm hw hn =>
    rw [hw]
    exact ⟨.moved rfl hm nofun, taskOrdered_plain hn⟩
  | abandoned l row src hl hsrc hm hw hn =>
    rw [hw]
    exact ⟨.moved rfl hm hsrc, taskOrdered_plain hn⟩
  | kickBumped id hb hw hn =>
    rw [hw]
    exact ⟨.kickBumped rfl hb, taskOrdered_plain hn⟩
  | attemptFailed l row src hl hm hwhy hw hn =>
    rw [hw]
    exact ⟨.attemptMoved rfl hm rfl, taskOrdered_plain hn⟩
  | reconciling caller attempt orderId hfind hw hn =>
    rw [hn]
    refine ⟨by rw [hw]; exact .same rfl rfl, fun t ht => ?_⟩
    obtain rfl := Option.some.inj ht
    obtain ⟨hmem, horder⟩ := Table.find?_mem hfind
    rw [beq_iff_eq] at horder
    show Ordered w'.books.attempts attempt.id
    rw [hw]
    intro a ha hid
    rw [attempt_eq ha hmem hid, horder]
    exact nofun
  | captured caller copy orderId payments latest attempt settlement lrow hc hlast hstatus hid hsid
      hattempt hm hrec hw hn =>
    rw [hc] at hs ht
    have hof : AttemptOf w.books.attempts copy.id copy.settlementId := hs _ rfl
    have hordered : Ordered w.books.attempts copy.id := ht _ rfl
    have hsame := hof.settlementId_eq hattempt.mem hid
    rw [hw]
    exact ⟨.captured hattempt hm (hsame.trans hsid.symm) (hordered attempt hattempt.mem hid),
      taskOrdered_plain hn⟩
  | captureLost caller copy orderId payments latest hc hlast hstatus hactive hstale hw hn =>
    rw [hn]
    refine ⟨by rw [hw]; exact .same rfl rfl, fun t ht => ?_⟩
    obtain rfl := Option.some.inj ht
    trivial
  | refundCalled caller attempt paymentId hdue hnone hw hn =>
    rw [hn]
    refine ⟨by rw [hw]; exact .same rfl rfl, fun t ht => ?_⟩
    obtain rfl := Option.some.inj ht
    trivial
  | operatorRefundCalled settlement attempt paymentId hc hmem hstate hnone hattempt hof
      hcaptured hpayment hw hn =>
    rw [hn]
    refine ⟨by rw [hw]; exact .same rfl rfl, fun t ht => ?_⟩
    obtain rfl := Option.some.inj ht
    trivial
  | again t hc hw hn =>
    rw [hc] at ht
    rw [hn]
    refine ⟨by rw [hw]; exact .same rfl rfl, fun u hu => ?_⟩
    obtain rfl := Option.some.inj hu
    rw [hw]
    exact ht _ rfl
  | _ =>
    rename_i hw hn
    rw [hw]
    exact ⟨.same rfl rfl, taskOrdered_plain hn⟩

/-- A run adds attempts under new ids and leaves order ids in place. -/
theorem JobStep.framed {env : Env} {now : Int} {w w' : World} {k : Kick} {c : RunWhy}
    {next : Next RunPoint} (h : JobStep env now w k c w' next) : JobFrame w.books w'.books := by
  have hsame : ∀ a ∈ w.books.attempts.rows, ∃ a₀ ∈ w.books.attempts.rows, a₀.id = a.id ∧
      a₀.settlementId = a.settlementId ∧ (a₀.providerOrderId ≠ none → a.providerOrderId ≠ none) :=
    fun a ha => ⟨a, ha, rfl, rfl, fun ho => ho⟩
  have hmoved : ∀ {t' : Attempts} {row : AttemptRow} {src dst : AttemptState},
      AttemptMoved now w.books.attempts t' row src dst → ∀ a ∈ t'.rows,
      ∃ a₀ ∈ w.books.attempts.rows, a₀.id = a.id ∧ a₀.settlementId = a.settlementId ∧
        (a₀.providerOrderId ≠ none → a.providerOrderId ≠ none) := by
    intro t' row src dst hm a ha
    rcases hm.mem_iff.mp ha with rfl | ⟨ha, -⟩
    · exact ⟨row, hm.mem, rfl, rfl, fun ho => ho⟩
    · exact hsame a ha
  intro a' ha'
  cases h with
  | attemptInitiated l settlement attemptNum lastAttemptId attemptId receipt hl hc hnum hadd hw hn =>
    rw [hw] at ha'
    rcases (hadd.mem_iff a').mp ha' with ha' | rfl
    · exact Or.inl (hsame a' ha')
    · exact Or.inr ⟨hadd.fresh, rfl⟩
  | orderFailed l settlement attemptNum attemptId receipt err row hl hc hid hm hw hn =>
    rw [hw] at ha'
    exact Or.inl (hmoved hm a' ha')
  | orderSet settlement attemptNum attemptId receipt providerOrderId hc hset hw hn =>
    rw [hw] at ha'
    rcases (hset a').mp ha' with ⟨a₀, ha₀, -, rfl⟩ | ⟨ha', -⟩
    · exact Or.inl ⟨a₀, ha₀, rfl, rfl, fun _ => nofun⟩
    · exact Or.inl (hsame a' ha')
  | captured copy attemptNum attemptId providerOrderId result paymentId attempt settlement lrow hc
      hpaid hid hsid hattempt hm hrec hw hn =>
    rw [hw] at ha'
    rcases (hattempt.mem_iff a').mp ha' with rfl | ⟨ha', -⟩
    · exact Or.inl ⟨attempt, hattempt.mem, rfl, rfl, fun ho => ho⟩
    · exact Or.inl (hsame a' ha')
  | captureLost settlement attemptNum attemptId providerOrderId result paymentId hc hpaid hlost hn =>
    rcases hlost with ⟨hw, -⟩ | ⟨attempt, -, hattempt, -, hw⟩
    · rw [hw] at ha'
      exact Or.inl (hsame a' ha')
    · rw [hw] at ha'
      rcases (hattempt.mem_iff a').mp ha' with rfl | ⟨ha', -⟩
      · exact Or.inl ⟨attempt, hattempt.mem, rfl, rfl, fun ho => ho⟩
      · exact Or.inl (hsame a' ha')
  | retried l settlement attemptNum attemptId providerOrderId result hl hc hm hw hn =>
    rw [hw] at ha'
    rcases hm with ⟨hsame', -⟩ | ⟨row, -, hm⟩
    · rw [hsame'] at ha'
      exact Or.inl (hsame a' ha')
    · exact Or.inl (hmoved hm a' ha')
  | linkIssued l settlement lastAttemptId linkAttemptId receipt linkId shortUrl hl hc hissued hw hn =>
    rw [hw] at ha'
    obtain ⟨t₁, rfl | ⟨row, -, hm⟩, hadd⟩ := hissued.superseded
    · rcases (hadd.mem_iff a').mp ha' with ha' | rfl
      · exact Or.inl (hsame a' ha')
      · exact Or.inr ⟨hadd.fresh, rfl⟩
    · rcases (hadd.mem_iff a').mp ha' with ha' | rfl
      · exact Or.inl (hmoved hm a' ha')
      · refine Or.inr ⟨fun a ha hid => ?_, rfl⟩
        obtain ⟨a₁, ha₁, hkept⟩ := hm.kept a ha
        exact hadd.fresh a₁ ha₁ (hkept.id.trans hid)
  | _ =>
    rename_i hw _
    rw [hw] at ha'
    exact Or.inl (hsame a' ha')

/-- **The answer finds the settlement open**: when the checkout driver answers, the attempt it drove
    is still `initiated`, or the settlement is not captured. -/
def AnswerFindsOpen (w : World) (settlementId attemptId : JsString) : Prop :=
  (∃ a ∈ w.books.attempts.rows, a.id = attemptId ∧ a.state = .initiated) ∨
  ∀ r ∈ w.books.settlements.rows, r.id = settlementId → r.state ≠ .captured

/-- Every answer of the checkout driver finds its settlement open. -/
def AnsweredOpen (s : Sys) (a : Act) : Prop :=
  ∀ k settlement attemptNum attemptId orderId result,
    s.job = some (k, .waiting (.checkoutPending settlement attemptNum attemptId orderId)) →
    a = .resumeJob (.checkout (.ok result)) → AnswerFindsOpen s.world settlement.id attemptId

/-- The condition where the job has moved. -/
theorem AnsweredOpen.of_move {s : Sys} {a : Act} {k : Kick} {c : RunWhy} (h : AnsweredOpen s a)
    (hmove : JobMove s a k c) {settlement : SettlementRow} {attemptNum : Nat}
    {attemptId orderId : JsString} {result : SettleViaCheckoutResult}
    (hc : c = .resumed (.checkoutPending settlement attemptNum attemptId orderId)
      (.checkout (.ok result))) : AnswerFindsOpen s.world settlement.id attemptId := by
  cases hmove with
  | start seed k rest hfree hjob hq => exact nomatch hc
  | runJob seed k p hjob => exact nomatch hc
  | resumeJob ans k p hfree hjob =>
    obtain ⟨rfl, rfl⟩ := JobCause.resumed.inj hc
    exact h k settlement attemptNum attemptId orderId result hjob rfl

/-- A settlement the answer finds open is `settling`. -/
theorem AnswerFindsOpen.settling {env : Env} {w : World} {settlementId attemptId : JsString}
    (h : AnswerFindsOpen w settlementId attemptId) (hs : Sound env.crypto w.books)
    (hlive : LiveSettling w.books) (hof : AttemptOf w.books.attempts attemptId settlementId) :
    IsSettling w.books.settlements settlementId := by
  rcases h with ⟨a, ha, hid, hinit⟩ | hopen
  · rw [← hof.settlementId_eq ha hid]
    exact hlive a ha (by rw [hinit]; rfl)
  · obtain ⟨a, ha, -, hsid⟩ := hof
    obtain ⟨r, hr, hrid, -⟩ := hs.attempt a ha
    rcases hs.settling_of_active ha hr hrid with hstate | hstate
    · exact ⟨r, hr, hrid.trans hsid, hstate⟩
    · exact absurd hstate (hopen r hr (hrid.trans hsid))

/-- Failing the one live attempt leaves the settlement idle. -/
theorem OnlyLive.idle_of_failed {t t' : Attempts} {sid aid : JsString} (h : OnlyLive t sid aid)
    (now : Int) (hf : AttemptFailed now t t' aid .initiated) : Idle t' sid := by
  intro a ha hsid
  rw [Bool.eq_false_iff]
  intro hact
  rcases hf with ⟨rfl, hstale⟩ | ⟨row, hid, hm⟩
  · obtain ⟨hid, hinit⟩ := h a ha hsid hact
    exact hstale a ha hid hinit
  · rcases hm.mem_iff.mp ha with rfl | ⟨ha, hne⟩
    · exact nomatch hact
    · exact hne ((h a ha hsid hact).1.trans hid.symm)

/-- An attempt that failed was active, so its settlement is `settling`. -/
theorem LiveSettling.of_moved {b : Books} (h : LiveSettling b) {t' : Attempts} {now : Int}
    {row : AttemptRow} {src dst : AttemptState} (hm : AttemptMoved now b.attempts t' row src dst)
    (hdst : dst.active = false) {l : List LedgerRow} {e : List Event} :
    LiveSettling { b with attempts := t', ledger := l, history := e } := by
  intro a ha hact
  rcases hm.mem_iff.mp ha with rfl | ⟨ha, -⟩
  · rw [show (row.moveTo now dst).state = dst from rfl, hdst] at hact
    exact nomatch hact
  · exact h a ha hact

/-- An active attempt was added under a `settling` settlement. -/
theorem LiveSettling.added {b : Books} (h : LiveSettling b) {t' : Attempts} {row : AttemptRow}
    (hadd : AttemptAdded b.attempts t' row) (hs : IsSettling b.settlements row.settlementId)
    {l : List LedgerRow} : LiveSettling { b with attempts := t', ledger := l } := by
  intro a ha hact
  rcases (hadd.mem_iff a).mp ha with ha | rfl
  · exact h a ha hact
  · exact hs

/-- A settlement moved, not from `settling`. -/
theorem LiveSettling.settlementMoved {b : Books} (h : LiveSettling b) {t' : Settlements} {now : Int}
    {row : SettlementRow} {src dst : SettlementState} {rejectReason : Option JsString}
    (hm : SettlementMoved now b.settlements t' row src dst rejectReason) (hsrc : src ≠ .settling)
    {l : List LedgerRow} : LiveSettling { b with settlements := t', ledger := l } :=
  fun a ha hact => (h a ha hact).moved hm hsrc

theorem JobStep.open {env : Env} {s : Sys} {w' : World} {a : Act} {k : Kick} {c : RunWhy}
    {next : Next RunPoint} (h : JobStep env s.clock s.world k c w' next)
    (hsound : Sound env.crypto s.world.books) (hrun : runSound s.world c.before)
    (hlive : LiveSettling s.world.books) (hopen : RunOpen s.world c.before)
    (hmove : JobMove s a k c) (hok : AnsweredOpen s a) :
    LiveSettling w'.books ∧ RunOpen w' next := by
  have hframe : ∀ {p : RunPoint}, p.Open s.world.books → w'.books.attempts = s.world.books.attempts →
      w'.books.settlements = s.world.books.settlements → p.Open w'.books :=
    fun hp ha hs => hp.framed (.same ha hs)
  cases h with
  | quiet l hl hw hn => rw [hn, hw]; exact ⟨hlive, runOpen_done⟩
  | entered row mandateRow ctx hc hkick hre hm hw hn =>
    rw [hn]
    refine ⟨by rw [hw]; exact hlive.settlementMoved hm nofun, runOpen_cpu ⟨?_, ?_⟩ rfl⟩
    · exact ⟨_, by rw [hw]; exact hm.moved_mem, moveTo_id .., moveTo_state ..⟩
    · -- an approved settlement has had no attempt
      intro a ha hsid
      rw [hw] at ha
      rw [Bool.eq_false_iff]
      intro hact
      obtain ⟨r, hr, hrid, hrstate⟩ := hlive a ha hact
      rw [settlement_eq hr hm.mem (hrid.trans hsid), hm.state] at hrstate
      exact nomatch hrstate
  | gateRejected l row reason hl hc hkick hre hm hw hn =>
    rw [hn, hw]
    exact ⟨hlive.settlementMoved hm nofun, runOpen_done⟩
  | resumed row hc hkick hmem hstate hidle hw hn =>
    rw [hn]
    refine ⟨by rw [hw]; exact hlive, runOpen_cpu ⟨?_, ?_⟩ rfl⟩
    · exact ⟨row, by rw [hw]; exact hmem, rfl, hstate⟩
    · intro a ha hsid
      rw [hw] at ha
      rw [Bool.eq_false_iff]
      intro hact
      have hany := List.any_eq_false.mp hidle a ha
      exact hany (by simp [hsid, hact])
  | attemptInitiated l settlement attemptNum lastAttemptId attemptId receipt hl hc hnum hadd hw hn =>
    rw [hc] at hopen
    obtain ⟨hsettling, hidle⟩ := hopen.point _ rfl
    rw [hn]
    refine ⟨by rw [hw]; exact hlive.added hadd hsettling, runOpen_cpu ⟨?_, ?_, ?_⟩ rfl⟩
    · rw [hw]
      exact hsettling
    · intro a ha hsid hact
      rw [hw] at ha
      rcases (hadd.mem_iff a).mp ha with ha | rfl
      · rw [hidle a ha hsid] at hact
        exact nomatch hact
      · exact ⟨rfl, rfl⟩
    · intro a ha hid
      rw [hw] at ha
      rcases (hadd.mem_iff a).mp ha with ha | rfl
      · exact absurd hid (hadd.fresh a ha)
      · rfl
  | linkCalled settlement attemptNum lastAttemptId linkAttemptId receipt hc hnum hw hn =>
    rw [hc] at hopen
    have hpoint := hopen.point _ rfl
    rw [hn, hw]
    exact ⟨hlive, runOpen_park (by rw [hw]; exact hpoint)⟩
  | orderCalled settlement attemptNum attemptId receipt hc hw hn =>
    rw [hc] at hopen
    have hpoint := hopen.point _ rfl
    rw [hn, hw]
    exact ⟨hlive, runOpen_park (by rw [hw]; exact hpoint)⟩
  | orderFailed l settlement attemptNum attemptId receipt err row hl hc hid hm hw hn =>
    rw [hc] at hopen
    obtain ⟨hsettling, honly, -⟩ := hopen.point _ rfl
    rw [hn]
    refine ⟨by rw [hw]; exact hlive.of_moved hm rfl, runOpen_cpu ⟨?_, ?_⟩ rfl⟩
    · rw [hw]
      exact hsettling
    · rw [hw]
      exact honly.idle_of_failed _ (Or.inr ⟨row, hid, hm⟩)
  | orderSet settlement attemptNum attemptId receipt providerOrderId hc hset hw hn =>
    rw [hc] at hopen
    obtain ⟨hsettling, honly, -⟩ := hopen.point _ rfl
    rw [hn]
    refine ⟨?_, ⟨fun p hp => ?_, fun st n aid oid hnext => ?_⟩⟩
    · rw [hw]
      intro a ha hact
      rcases (hset a).mp ha with ⟨a₀, ha₀, -, rfl⟩ | ⟨ha, -⟩
      · exact hlive a₀ ha₀ hact
      · exact hlive a ha hact
    · obtain rfl := Option.some.inj hp
      intro a ha hsid hact
      rw [hw] at ha
      rcases (hset a).mp ha with ⟨a₀, ha₀, -, rfl⟩ | ⟨ha, -⟩
      · exact honly a₀ ha₀ hsid hact
      · exact honly a ha hsid hact
    · obtain ⟨rfl, -⟩ := RunPoint.settleViaCheckout.inj (Next.cpu.inj hnext)
      rw [hw]
      exact hsettling
  | checkoutCalled settlement attemptNum attemptId providerOrderId hc hw hn =>
    rw [hc] at hopen
    have hpoint := hopen.point _ rfl
    rw [hn, hw]
    exact ⟨hlive, runOpen_park (by rw [hw]; exact hpoint)⟩
  | captured copy attemptNum attemptId providerOrderId result paymentId attempt settlement lrow hc
      hpaid hid hsid hattempt hm hrec hw hn =>
    rw [hc] at hrun
    have hof : AttemptOf s.world.books.attempts attemptId copy.id := hrun _ rfl
    have hsame := (hof.settlementId_eq hattempt.mem hid).trans hsid.symm
    rw [hn, hw]
    refine ⟨fun b hb hact => ?_, runOpen_done⟩
    rcases (hattempt.mem_iff b).mp hb with rfl | ⟨hb, hne⟩
    · exact nomatch hact
    · obtain ⟨r, hr, hrid, hrstate⟩ := hlive b hb hact
      have hother : r.id ≠ settlement.id := fun hrs => by
        have hboth := active_attempt_eq hb hattempt.mem hact hattempt.active
          (hrid.symm.trans (hrs.trans hsame.symm))
        exact hne (by rw [hboth])
      exact ⟨r, hm.mem_iff.mpr (Or.inr ⟨hr, hother⟩), hrid, hrstate⟩
  | captureLost settlement attemptNum attemptId providerOrderId result paymentId hc hpaid hlost hn =>
    have hfinds := hok.of_move hmove hc
    rw [hc] at hopen hrun
    have honly : OnlyLive s.world.books.attempts settlement.id attemptId := hopen.point _ rfl
    have hof : AttemptOf s.world.books.attempts attemptId settlement.id := hrun _ rfl
    have hsettling := hfinds.settling hsound hlive hof
    rw [hn]
    rcases hlost with ⟨hw, hstale⟩ | ⟨attempt, hid, hattempt, hgone, hw⟩
    · rw [hw]
      refine ⟨hlive, runOpen_cpu ⟨by rw [hw]; exact hsettling, ?_⟩ rfl⟩
      rw [hw]
      exact honly.idle_of_failed s.clock (Or.inl ⟨rfl, hstale⟩)
    · -- the settlement is `settling`, so the capture did not lose
      obtain ⟨r, hr, hrid, hrstate⟩ := hsettling
      exact absurd hrstate (hgone r hr hrid)
  | retried l settlement attemptNum attemptId providerOrderId result hl hc hm hw hn =>
    have hpoint : IsSettling s.world.books.settlements settlement.id ∧
        Idle w'.books.attempts settlement.id := by
      rw [hw]
      rcases hc with hc | ⟨hc, -⟩
      · rw [hc] at hopen
        obtain ⟨hsettling, hidle⟩ := hopen.point _ rfl
        refine ⟨hsettling, fun b hb hsid => ?_⟩
        rcases hm with ⟨hsame, -⟩ | ⟨row, -, hm⟩
        · rw [hsame] at hb
          exact hidle b hb hsid
        · rcases hm.mem_iff.mp hb with rfl | ⟨hb, -⟩
          · rfl
          · exact hidle b hb hsid
      · have hfinds := hok.of_move hmove hc
        rw [hc] at hopen hrun
        have honly : OnlyLive s.world.books.attempts settlement.id attemptId := hopen.point _ rfl
        have hof : AttemptOf s.world.books.attempts attemptId settlement.id := hrun _ rfl
        exact ⟨hfinds.settling hsound hlive hof, honly.idle_of_failed _ hm⟩
    rw [hn]
    refine ⟨?_, runOpen_cpu ⟨by rw [hw]; exact hpoint.1, hpoint.2⟩ rfl⟩
    rw [hw]
    rcases hm with ⟨hsame, -⟩ | ⟨row, -, hm⟩
    · rw [hsame]
      exact hlive
    · exact hlive.of_moved hm rfl
  | linkIssued l settlement lastAttemptId linkAttemptId receipt linkId shortUrl hl hc hissued hw hn =>
    rw [hc] at hopen
    obtain ⟨hsettling, -⟩ := hopen.point _ rfl
    rw [hn, hw]
    refine ⟨?_, runOpen_done⟩
    obtain ⟨t₁, rfl | ⟨row, -, hm⟩, hadd⟩ := hissued.superseded
    · exact hlive.added hadd hsettling
    · exact (hlive.of_moved (l := s.world.books.ledger) (e := s.world.books.history) hm rfl).added hadd hsettling
  | again p hc hw hn =>
    rw [hc] at hopen
    have hpoint := hopen.point _ rfl
    rw [hn, hw]
    exact ⟨hlive, runOpen_park (by rw [hw]; exact hpoint)⟩

/-- The order id of a reconcile call's attempt stays. -/
theorem Ordered.job_framed {b b' : Books} {aid sid : JsString} (h : Ordered b.attempts aid)
    (hof : AttemptOf b.attempts aid sid) (hf : JobFrame b b') : Ordered b'.attempts aid := by
  intro a' ha' hid'
  rcases hf a' ha' with ⟨a, ha, hid, -, horder⟩ | ⟨hfresh, -⟩
  · exact horder (h a ha (hid.trans hid'))
  · obtain ⟨a, ha, hid, -⟩ := hof
    exact absurd (hid.trans hid'.symm) (hfresh a ha)

def openExtension (env : Env) : Extension (soundOutline env) AnsweredOpen where
  allowed := fun _ _ _ => trivial
  inv := fun w => LiveSettling w.books
  task := taskOrdered
  job := fun w _ => RunOpen w
  taskRel := fun w w' => TaskFrame w.books w'.books
  jobRel := fun w w' => JobFrame w.books w'.books
  task_done := fun _ => taskOrdered_plain plain_done
  job_done := fun _ _ => runOpen_done
  taskStep := fun _ _ _ _ _ _ hs hlive ht _ _ h _ _ =>
    ⟨(TaskStep.framed h hs ht).1.liveSettling hlive, (TaskStep.framed h hs ht).1,
      (TaskStep.framed h hs ht).2⟩
  jobStep := fun _ _ _ _ _ _ hsound hrun hlive hopen hmove hok h _ _ =>
    ⟨(JobStep.open h hsound hrun hlive hopen hmove hok).1, JobStep.framed h,
      (JobStep.open h hsound hrun hlive hopen hmove hok).2⟩
  task_stable := by
    intro w w' t _ hs _ ht hrel u hu
    obtain rfl := Option.some.inj hu
    have hordered := ht _ rfl
    have hsound := hs _ rfl
    rcases hrel with ⟨-, hf⟩ | ⟨-, hf⟩
    · cases t with
      | reconcile caller point =>
        cases point with
        | fetchOrderPayments attempt orderId => exact hf.ordered hordered
        | _ => trivial
      | _ => trivial
    · cases t with
      | reconcile caller point =>
        cases point with
        | fetchOrderPayments attempt orderId => exact Ordered.job_framed hordered hsound hf
        | _ => trivial
      | _ => trivial
  job_stable := fun _ _ _ p _ _ _ hopen _ hf => runOpen_park ((hopen.point p rfl).framed hf)

/-- The invariants of the books together with what holds while every answer of the checkout driver
    finds its settlement open. -/
def openOutline (env : Env) : Outline (facilitatorSpec env) AnsweredOpen :=
  (openExtension env).outline

theorem liveSettling_initial : LiveSettling World.initial.books :=
  fun _ ha => absurd ha List.not_mem_nil

theorem openOutline_holds {env : Env} {s : Sys}
    (h : Run (facilitator env) AnsweredOpen Sys.initial s) : (openOutline env).Holds s :=
  (openOutline env).holds ⟨sound_initial env.crypto, liveSettling_initial⟩ h

end Hundi
