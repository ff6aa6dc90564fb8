/-
  What holds of the books in every reachable state.

  `Sound` collects the invariants the later results share: mandates are admitted and signed, a
  settlement agrees with its cart, an attempt belongs to a settlement money is moving for, and the
  captured attempts are those of the captured settlements.  `soundOutline` proves it, with an
  assertion for every point that holds a copy of a row: the attempt of a reconcile call and the
  settlement of an executor run are still there.
-/
import Hundi.Facilitator.Frame

namespace Hundi

open Js EventLoop

/-- The settlement is there, and it is `settling` or `captured`. -/
def Entered (t : Settlements) (settlementId : JsString) : Prop :=
  ∃ r ∈ t.rows, r.id = settlementId ∧ r.state.entered = true

/-- The attempt is there, and belongs to the settlement. -/
def AttemptOf (t : Attempts) (attemptId settlementId : JsString) : Prop :=
  ∃ a ∈ t.rows, a.id = attemptId ∧ a.settlementId = settlementId

structure MandateSound (crypto : Crypto) (m : MandateRow) : Prop where
  schema : intentMandateSchema m.intent = true
  id : m.mandateId = m.intent.mandateId
  hash : ∃ bytes, intentSigningBytes m.intent = .ok bytes ∧ m.intentHashHex = crypto.sha256Hex bytes
  signed : ∃ bytes, intentSigningBytes m.intent = .ok bytes ∧
    verifyMandateSignature crypto bytes m.intent.sig m.credential = .ok true

/-- The states a committed settlement is found in. -/
def SettlementState.settled : SettlementState → Bool
  | .pending_approval | .approved | .settling | .captured | .rejected | .abandoned => true
  | _ => false

structure SettlementSound (t : Mandates) (r : SettlementRow) : Prop where
  mandate : ∃ m ∈ t.rows, m.mandateId = r.mandateId
  amount : r.amountPaise = r.cart.totalPaise
  merchant : r.merchantId = r.cart.merchantId
  state : r.state.settled = true
  charge : r.state ≠ .rejected → isSafeInt r.amountPaise = true ∧ 0 ≤ r.amountPaise

/-- The invariants of the books. -/
structure Sound (crypto : Crypto) (b : Books) : Prop where
  mandate : ∀ m ∈ b.mandates.rows, MandateSound crypto m
  settlement : ∀ r ∈ b.settlements.rows, SettlementSound b.mandates r
  attempt : ∀ a ∈ b.attempts.rows, Entered b.settlements a.settlementId
  captured : ∀ a ∈ b.attempts.rows, a.state = .captured →
    ∃ r ∈ b.settlements.rows, r.id = a.settlementId ∧ r.state = .captured
  capturedBy : ∀ r ∈ b.settlements.rows, r.state = .captured →
    ∃ a ∈ b.attempts.rows, a.settlementId = r.id ∧ a.state = .captured

theorem Entered.kept {t t' : Settlements} {id : JsString} (h : Entered t id)
    (hk : SettlementsKept t t') : Entered t' id := by
  obtain ⟨r, hr, rfl, he⟩ := h
  obtain ⟨r', hr', hkept⟩ := hk r hr
  exact ⟨r', hr', hkept.id, hkept.entered he⟩

theorem AttemptOf.kept {t t' : Attempts} {attemptId settlementId : JsString}
    (h : AttemptOf t attemptId settlementId) (hk : AttemptsKept t t') :
    AttemptOf t' attemptId settlementId := by
  obtain ⟨a, ha, rfl, rfl⟩ := h
  obtain ⟨a', ha', hkept⟩ := hk a ha
  exact ⟨a', ha', hkept.id, hkept.settlementId⟩

/-- The attempt of an id belongs to the settlement known for it. -/
theorem AttemptOf.settlementId_eq {t : Attempts} {attemptId settlementId : JsString}
    (h : AttemptOf t attemptId settlementId) {a : AttemptRow} (ha : a ∈ t.rows)
    (hid : a.id = attemptId) : a.settlementId = settlementId := by
  obtain ⟨a', ha', hid', hs⟩ := h
  rw [attempt_eq ha ha' (hid.trans hid'.symm)]
  exact hs

/-- The entered settlement of an id. -/
theorem Entered.state {t : Settlements} {id : JsString} (h : Entered t id) {r : SettlementRow}
    (hr : r ∈ t.rows) (hid : r.id = id) : r.state.entered = true := by
  obtain ⟨r', hr', hid', he⟩ := h
  rw [settlement_eq hr hr' (hid.trans hid'.symm)]
  exact he

/-- A captured settlement stays captured. -/
theorem captured_kept {t t' : Settlements} {id : JsString} (hk : SettlementsKept t t')
    (h : ∃ r ∈ t.rows, r.id = id ∧ r.state = .captured) :
    ∃ r ∈ t'.rows, r.id = id ∧ r.state = .captured := by
  obtain ⟨r, hr, rfl, hs⟩ := h
  obtain ⟨r', hr', hkept⟩ := hk r hr
  exact ⟨r', hr', hkept.id, (hkept.final (by rw [hs]; rfl)).trans hs⟩

/-- A captured attempt stays captured. -/
theorem capturedBy_kept {t t' : Attempts} {settlementId : JsString} (hk : AttemptsKept t t')
    (h : ∃ a ∈ t.rows, a.settlementId = settlementId ∧ a.state = .captured) :
    ∃ a ∈ t'.rows, a.settlementId = settlementId ∧ a.state = .captured := by
  obtain ⟨a, ha, rfl, hs⟩ := h
  obtain ⟨a', ha', hkept⟩ := hk a ha
  exact ⟨a', ha', hkept.settlementId, (hkept.final (by rw [hs]; rfl)).1.trans hs⟩

/-! ## What each effect does to a sound state -/

/-- Only the mandates changed. -/
theorem Sound.ofMandates {crypto : Crypto} {b : Books} (h : Sound crypto b) {t : Mandates}
    (hk : MandatesKept b.mandates t) (hm : ∀ m ∈ t.rows, MandateSound crypto m) {l : List LedgerRow}
    {e : List Event} {p : Approvals} :
    Sound crypto { b with mandates := t, approvals := p, ledger := l, history := e } where
  mandate := hm
  settlement := fun r hr => by
    obtain ⟨m, hm, hid⟩ := (h.settlement r hr).mandate
    obtain ⟨m', hm', hkept⟩ := hk m hm
    exact { h.settlement r hr with mandate := ⟨m', hm', hkept.id.trans hid⟩ }
  attempt := h.attempt
  captured := h.captured
  capturedBy := h.capturedBy

/-- Neither mandates, settlements nor attempts changed. -/
theorem Sound.ofLog {crypto : Crypto} {b : Books} (h : Sound crypto b) {l : List LedgerRow}
    {e : List Event} {p : Approvals} :
    Sound crypto { b with approvals := p, ledger := l, history := e } :=
  ⟨h.mandate, h.settlement, h.attempt, h.captured, h.capturedBy⟩

/-- Only the settlements changed, and none was newly captured. -/
theorem Sound.ofSettlements {crypto : Crypto} {b : Books} (h : Sound crypto b) {t : Settlements}
    (hk : SettlementsKept b.settlements t) (hs : ∀ r ∈ t.rows, SettlementSound b.mandates r)
    (hc : ∀ r ∈ t.rows, r.state = .captured → r ∈ b.settlements.rows) {l : List LedgerRow}
    {e : List Event} {p : Approvals} :
    Sound crypto { b with settlements := t, approvals := p, ledger := l, history := e } where
  mandate := h.mandate
  settlement := hs
  attempt := fun a ha => (h.attempt a ha).kept hk
  captured := fun a ha hcap => captured_kept hk (h.captured a ha hcap)
  capturedBy := fun r hr hcap => h.capturedBy r (hc r hr hcap) hcap

/-- Only the attempts changed, every new one under an entered settlement and none newly captured. -/
theorem Sound.ofAttempts {crypto : Crypto} {b : Books} (h : Sound crypto b) {t : Attempts}
    (hk : AttemptsKept b.attempts t) (ha : ∀ a ∈ t.rows, Entered b.settlements a.settlementId)
    (hc : ∀ a ∈ t.rows, a.state = .captured →
      ∃ a₀ ∈ b.attempts.rows, a₀.settlementId = a.settlementId ∧ a₀.state = .captured)
    {l : List LedgerRow} {e : List Event} :
    Sound crypto { b with attempts := t, ledger := l, history := e } where
  mandate := h.mandate
  settlement := h.settlement
  attempt := ha
  captured := fun a ha hcap => by
    obtain ⟨a₀, ha₀, hs, hcap₀⟩ := hc a ha hcap
    rw [← hs]
    exact h.captured a₀ ha₀ hcap₀
  capturedBy := fun r hr hcap => capturedBy_kept hk (h.capturedBy r hr hcap)

/-- A transition of a sound settlement is sound. -/
theorem SettlementSound.moveTo {ms : Mandates} {now : Int} {t t' : Settlements}
    {row : SettlementRow} {src dst : SettlementState} {rejectReason : Option JsString}
    (h : SettlementSound ms row) (hm : SettlementMoved now t t' row src dst rejectReason)
    (hdst : src = .settling → dst = .captured) :
    SettlementSound ms (row.moveTo now dst rejectReason) where
  mandate := by rw [moveTo_mandateId]; exact h.mandate
  amount := by rw [moveTo_amountPaise, moveTo_cart]; exact h.amount
  merchant := by rw [moveTo_merchantId, moveTo_cart]; exact h.merchant
  state := by
    have hallowed := hm.allowed
    have hs := h.state
    rw [hm.state] at hs
    rw [moveTo_state]
    cases src <;> cases dst <;> simp_all [settlementTransitions, SettlementState.settled]
  charge := by
    intro _
    rw [moveTo_amountPaise]
    refine h.charge fun hrej => ?_
    have hallowed := hm.allowed
    rw [← hm.state, hrej] at hallowed
    exact nomatch hallowed

/-- A transition to a state other than `captured` keeps the books sound. -/
theorem Sound.moved {crypto : Crypto} {b : Books} (h : Sound crypto b) {now : Int}
    {t' : Settlements} {row : SettlementRow} {src dst : SettlementState}
    {rejectReason : Option JsString}
    (hm : SettlementMoved now b.settlements t' row src dst rejectReason) (hsrc : src ≠ .settling)
    (hdst : dst ≠ .captured) {l : List LedgerRow} {e : List Event} {p : Approvals} :
    Sound crypto { b with settlements := t', approvals := p, ledger := l, history := e } := by
  refine h.ofSettlements (hm.kept fun hs => absurd hs hsrc) (fun r hr => ?_) (fun r hr hcap => ?_)
  · rcases hm.mem_iff.mp hr with rfl | ⟨hr, -⟩
    · exact (h.settlement row hm.mem).moveTo hm fun hs => absurd hs hsrc
    · exact h.settlement r hr
  · rcases hm.mem_iff.mp hr with rfl | ⟨hr, -⟩
    · rw [moveTo_state] at hcap
      exact absurd hcap hdst
    · exact hr

theorem Sound.attemptMoved {crypto : Crypto} {b : Books} (h : Sound crypto b) {now : Int}
    {t' : Attempts} {row : AttemptRow} {src dst : AttemptState}
    (hm : AttemptMoved now b.attempts t' row src dst) (hdst : dst ≠ .captured) {l : List LedgerRow} :
    Sound crypto { b with attempts := t', ledger := l } := by
  refine h.ofAttempts (e := b.history) hm.kept (fun a ha => ?_) (fun a ha hcap => ?_)
  · rcases hm.mem_iff.mp ha with rfl | ⟨ha, -⟩
    · exact h.attempt row hm.mem
    · exact h.attempt a ha
  · rcases hm.mem_iff.mp ha with rfl | ⟨ha, -⟩
    · exact absurd hcap hdst
    · exact ⟨a, ha, rfl, hcap⟩

theorem Sound.attemptFailed {crypto : Crypto} {b : Books} (h : Sound crypto b) {now : Int}
    {t' : Attempts} {attemptId : JsString} {src : AttemptState}
    (hf : AttemptFailed now b.attempts t' attemptId src) {l : List LedgerRow} :
    Sound crypto { b with attempts := t', ledger := l } := by
  rcases hf with ⟨rfl, -⟩ | ⟨row, -, hm⟩
  · exact h.ofLog
  · exact h.attemptMoved hm nofun

theorem Sound.attemptAdded {crypto : Crypto} {b : Books} (h : Sound crypto b) {t' : Attempts}
    {row : AttemptRow} (hadd : AttemptAdded b.attempts t' row)
    (hentered : Entered b.settlements row.settlementId) (hstate : row.state ≠ .captured)
    {l : List LedgerRow} : Sound crypto { b with attempts := t', ledger := l } := by
  refine h.ofAttempts (e := b.history) hadd.kept (fun a ha => ?_) (fun a ha hcap => ?_)
  · rcases (hadd.mem_iff a).mp ha with ha | rfl
    · exact h.attempt a ha
    · exact hentered
  · rcases (hadd.mem_iff a).mp ha with ha | rfl
    · exact ⟨a, ha, rfl, hcap⟩
    · exact absurd hcap hstate

theorem Sound.orderIdSet {crypto : Crypto} {b : Books} (h : Sound crypto b) {now : Int}
    {t' : Attempts} {attemptId providerOrderId : JsString}
    (hset : OrderIdSet now b.attempts t' attemptId providerOrderId) :
    Sound crypto { b with attempts := t' } := by
  refine h.ofAttempts (l := b.ledger) (e := b.history) hset.kept (fun a ha => ?_)
    (fun a ha hcap => ?_)
  · rcases (hset a).mp ha with ⟨a₀, ha₀, -, rfl⟩ | ⟨ha, -⟩
    · exact h.attempt a₀ ha₀
    · exact h.attempt a ha
  · rcases (hset a).mp ha with ⟨a₀, ha₀, -, rfl⟩ | ⟨ha, -⟩
    · exact ⟨a₀, ha₀, rfl, hcap⟩
    · exact ⟨a, ha, rfl, hcap⟩

/-- An attempt and its settlement are captured together. -/
theorem Sound.captureBoth {crypto : Crypto} {b : Books} (h : Sound crypto b) {now : Int}
    {t' : Attempts} {u' : Settlements} {attempt : AttemptRow} {settlement : SettlementRow}
    {src : AttemptState} {paymentId : JsString}
    (ha : AttemptCaptured now b.attempts t' attempt src paymentId)
    (hs : SettlementMoved now b.settlements u' settlement .settling .captured none)
    (hof : attempt.settlementId = settlement.id) {l : List LedgerRow} :
    Sound crypto { b with settlements := u', attempts := t', ledger := l } where
  mandate := h.mandate
  settlement := fun r hr => by
    rcases hs.mem_iff.mp hr with rfl | ⟨hr, -⟩
    · exact (h.settlement settlement hs.mem).moveTo hs fun _ => rfl
    · exact h.settlement r hr
  attempt := fun a hmem => by
    rcases (ha.mem_iff a).mp hmem with rfl | ⟨hmem, -⟩
    · exact (h.attempt attempt ha.mem).kept (hs.kept fun _ => rfl)
    · exact (h.attempt a hmem).kept (hs.kept fun _ => rfl)
  captured := fun a hmem hcap => by
    rcases (ha.mem_iff a).mp hmem with rfl | ⟨hmem, -⟩
    · exact ⟨_, hs.moved_mem, (moveTo_id ..).trans hof.symm, moveTo_state ..⟩
    · exact captured_kept (hs.kept fun _ => rfl) (h.captured a hmem hcap)
  capturedBy := fun r hr hcap => by
    rcases hs.mem_iff.mp hr with rfl | ⟨hr, -⟩
    · exact ⟨_, (ha.mem_iff _).mpr (Or.inl rfl), hof.trans (moveTo_id ..).symm, rfl⟩
    · exact capturedBy_kept ha.kept (h.capturedBy r hr hcap)

/-- The settlement of an active attempt is `settling` unless another attempt captured it. -/
theorem Sound.settling_of_active {crypto : Crypto} {b : Books} (h : Sound crypto b) {a : AttemptRow}
    (ha : a ∈ b.attempts.rows) {r : SettlementRow} (hr : r ∈ b.settlements.rows)
    (hid : r.id = a.settlementId) : r.state = .settling ∨ r.state = .captured := by
  have he := (h.attempt a ha).state hr hid
  revert he
  cases r.state <;> simp [SettlementState.entered]

/-- **No capture stops halfway**: where the settlement of an active attempt is not `settling`, it is
    captured already, so another attempt is, and the index refuses a second. -/
theorem Sound.not_halfway {crypto : Crypto} {b : Books} (h : Sound crypto b) {now : Int}
    {t' : Attempts} {attempt : AttemptRow} {src : AttemptState} {paymentId : JsString}
    (hattempt : AttemptCaptured now b.attempts t' attempt src paymentId)
    (hgone : ∀ r ∈ b.settlements.rows, r.id = attempt.settlementId → r.state ≠ .settling) :
    False := by
  obtain ⟨r, hr, hrid, -⟩ := h.attempt attempt hattempt.mem
  have hcap : r.state = .captured :=
    (h.settling_of_active hattempt.mem hr hrid).resolve_left (hgone r hr hrid)
  obtain ⟨a, ha, haid, hacap⟩ := h.capturedBy r hr hcap
  have hne : a.id ≠ attempt.id := fun hid => by
    have hactive := hattempt.active
    rw [← attempt_eq ha hattempt.mem hid, hacap] at hactive
    exact nomatch hactive
  have hsame := captured_attempt_eq ((hattempt.mem_iff a).mpr (Or.inr ⟨ha, hne⟩))
    ((hattempt.mem_iff _).mpr (Or.inl rfl)) hacap rfl (haid.trans hrid)
  exact hne (by rw [hsame]; rfl)

/-! ## Assertions -/

/-- The attempt a reconcile call holds a copy of. -/
def ReconcilePoint.Sound (b : Books) : ReconcilePoint → Prop
  | .fetchOrderPayments attempt _ => AttemptOf b.attempts attempt.id attempt.settlementId
  | .lostRace attempt _ => AttemptOf b.attempts attempt.id attempt.settlementId
  | .refundPayment _ _ _ => True

def Task.Sound (b : Books) : Task → Prop
  | .reconcile _ point => point.Sound b
  | .refund _ _ _ amountPaise => isSafeInt amountPaise = true
  | _ => True

/-- The settlement of a run and the attempt it is working on. -/
def RunPoint.Sound (b : Books) : RunPoint → Prop
  | .attemptLoop settlement _ _ => Entered b.settlements settlement.id
  | .linkPending settlement _ _ _ => Entered b.settlements settlement.id
  | .createOrder settlement _ attemptId _ => AttemptOf b.attempts attemptId settlement.id
  | .orderPending settlement _ attemptId _ => AttemptOf b.attempts attemptId settlement.id
  | .settleViaCheckout settlement _ attemptId _ => AttemptOf b.attempts attemptId settlement.id
  | .checkoutPending settlement _ attemptId _ => AttemptOf b.attempts attemptId settlement.id
  | .captureLost settlement _ attemptId _ _ => AttemptOf b.attempts attemptId settlement.id

def taskSound (w : World) (next : Next Task) : Prop := ∀ t, next.task? = some t → t.Sound w.books

def runSound (w : World) (next : Next RunPoint) : Prop := ∀ p, next.task? = some p → p.Sound w.books

theorem Task.Sound.kept {b b' : Books} {t : Task} (h : t.Sound b) (hp : Persists b b') :
    t.Sound b' := by
  cases t with
  | reconcile caller point =>
    cases point with
    | fetchOrderPayments attempt orderId => exact AttemptOf.kept h hp.attempts
    | lostRace attempt paymentId => exact AttemptOf.kept h hp.attempts
    | refundPayment settlementId attemptId paymentId => trivial
  | refund settlementId attemptId paymentId amountPaise => exact h
  | _ => trivial

theorem RunPoint.Sound.kept {b b' : Books} {p : RunPoint} (h : p.Sound b) (hp : Persists b b') :
    p.Sound b' := by
  cases p with
  | attemptLoop settlement attemptNum lastAttemptId => exact Entered.kept h hp.settlements
  | linkPending settlement lastAttemptId linkAttemptId receipt =>
    exact Entered.kept h hp.settlements
  | createOrder settlement attemptNum attemptId receipt => exact AttemptOf.kept h hp.attempts
  | orderPending settlement attemptNum attemptId receipt => exact AttemptOf.kept h hp.attempts
  | settleViaCheckout settlement attemptNum attemptId orderId => exact AttemptOf.kept h hp.attempts
  | checkoutPending settlement attemptNum attemptId orderId => exact AttemptOf.kept h hp.attempts
  | captureLost settlement attemptNum attemptId orderId result => exact AttemptOf.kept h hp.attempts

theorem taskSound_plain {w : World} {next : Next Task} (h : Plain next) : taskSound w next := by
  intro t ht
  have hp := h t ht
  cases t <;> trivial

theorem taskSound_park {w : World} {t : Task} (h : t.Sound w.books) : taskSound w (.park t) := by
  intro u hu
  obtain rfl := Option.some.inj hu
  exact h

theorem taskSound_cpu {w : World} {t : Task} (h : t.Sound w.books) : taskSound w (.cpu t) := by
  intro u hu
  obtain rfl := Option.some.inj hu
  exact h

theorem runSound_done {w : World} : runSound w .done := by
  intro p hp
  exact nomatch hp

theorem runSound_park {w : World} {p : RunPoint} (h : p.Sound w.books) : runSound w (.park p) := by
  intro q hq
  obtain rfl := Option.some.inj hq
  exact h

theorem runSound_cpu {w : World} {p : RunPoint} (h : p.Sound w.books) : runSound w (.cpu p) := by
  intro q hq
  obtain rfl := Option.some.inj hq
  exact h

/-- The row a run starts with is the one it runs on. -/
theorem AttemptAdded.attemptOf {t t' : Attempts} {row : AttemptRow} (h : AttemptAdded t t' row) :
    AttemptOf t' row.id row.settlementId :=
  ⟨row, (h.mem_iff row).mpr (Or.inr rfl), rfl, rfl⟩

/-! ## The steps -/

theorem TaskStep.sound {env : Env} {now : Int} {w w' : World} {c : TaskWhy} {next : Next Task}
    (h : TaskStep env now w c w' next) (hs : Sound env.crypto w.books)
    (ht : taskSound w c.before) : Sound env.crypto w'.books ∧ taskSound w' next := by
  have hp := h.persists
  cases h with
  | quiet l hl hw hn => rw [hw]; exact ⟨hs.ofLog, taskSound_plain hn⟩
  | responded key status body hw hn => rw [hw]; exact ⟨hs.ofLog, taskSound_plain hn⟩
  | mandateRegistered l row hl hschema hadd hw hn =>
    rw [hw]
    refine ⟨hs.ofMandates hadd.kept fun m hm => ?_, taskSound_plain hn⟩
    rcases (hadd.mem_iff m).mp hm with hm | rfl
    · exact hs.mandate m hm
    · obtain ⟨bytes, hbytes, hhash, hsigned⟩ := hadd.hash
      exact ⟨hschema, hadd.id, ⟨bytes, hbytes, hhash⟩, bytes, hbytes, hsigned⟩
  | mandateRevoked l mandateId hl hrev hw hn =>
    rw [hw]
    refine ⟨hs.ofMandates hrev.kept fun m hm => ?_, taskSound_plain hn⟩
    rcases (hrev m).mp hm with ⟨m₀, hm₀, -, rfl⟩ | ⟨hm, -⟩
    · have hm := hs.mandate m₀ hm₀
      exact ⟨hm.schema, hm.id, hm.hash, hm.signed⟩
    · exact hs.mandate m hm
  | settlementCreated l row intent cart key status body hl hadd hfrom hstamp hw hn =>
    rw [hw]
    obtain ⟨m, hm⟩ := hfrom.mandate
    obtain ⟨hmem, hmid⟩ := getMandateRow_some hm
    refine ⟨hs.ofSettlements hadd.kept (fun r hr => ?_) (fun r hr hcap => ?_), taskSound_plain hn⟩
    · rcases (hadd.mem_iff r).mp hr with hr | rfl
      · exact hs.settlement r hr
      · refine ⟨⟨m, hmem, hmid.trans hfrom.mandateId.symm⟩, by rw [hfrom.amount, hfrom.cart_eq],
          by rw [hfrom.merchant, hfrom.cart_eq], ?_, fun hne => ?_⟩
        · rcases hfrom.state_cases with h | h | h <;> rw [h] <;> rfl
        · rcases hfrom.gate with h | ⟨-, hsafe, hnonneg, -⟩
          · exact absurd h hne
          · rw [hfrom.amount]
            exact ⟨hsafe, hnonneg⟩
    · rcases (hadd.mem_iff r).mp hr with hr | rfl
      · exact hr
      · rcases hfrom.state_cases with h | h | h <;> rw [h] at hcap <;> exact nomatch hcap
  | decided l row mandateRow approval rejectReason hl hmandate hsigned happrovals hm hw hn =>
    rw [hw]
    refine ⟨hs.moved hm nofun ?_, taskSound_plain hn⟩
    cases approval.decision <;> exact nofun
  | abandoned l row src hl hsrc hm hw hn =>
    rw [hw]
    exact ⟨hs.moved hm hsrc nofun, taskSound_plain hn⟩
  | kickBumped id hb hw hn =>
    rw [hw]
    refine ⟨hs.ofSettlements hb.kept (fun r hr => ?_) (fun r hr hcap => ?_), taskSound_plain hn⟩
    · rcases (Table.mem_update? hb).mp hr with ⟨r₀, hr₀, -, rfl⟩ | ⟨hr, -⟩
      · obtain ⟨hmandate, hamount, hmerchant, hstate, hcharge⟩ := hs.settlement r₀ hr₀
        exact ⟨hmandate, hamount, hmerchant, hstate, hcharge⟩
      · exact hs.settlement r hr
    · rcases (Table.mem_update? hb).mp hr with ⟨r₀, hr₀, hp₀, rfl⟩ | ⟨hr, -⟩
      · rw [Bool.and_eq_true, beq_iff_eq, beq_iff_eq] at hp₀
        rw [show r₀.state = .captured from hcap] at hp₀
        exact nomatch hp₀.2
      · exact hr
  | attemptFailed l row src hl hm hwhy hw hn =>
    rw [hw]
    exact ⟨hs.attemptMoved hm nofun, taskSound_plain hn⟩
  | reconciling caller attempt orderId hfind hw hn =>
    rw [hn]
    refine ⟨by rw [hw]; exact hs, taskSound_park ?_⟩
    obtain ⟨hmem, -⟩ := Table.find?_mem hfind
    rw [hw]
    exact ⟨attempt, hmem, rfl, rfl⟩
  | captured caller copy orderId payments latest attempt settlement lrow hc hlast hstatus hid hsid
      hattempt hm hrec hw hn =>
    rw [hw]
    have hof : AttemptOf w.db.attempts copy.id copy.settlementId := by
      rw [hc] at ht
      exact ht _ rfl
    exact ⟨hs.captureBoth hattempt hm ((hof.settlementId_eq hattempt.mem hid).trans hsid.symm),
      taskSound_plain hn⟩
  | captureLost caller copy orderId payments latest hc hlast hstatus hactive hstale hw hn =>
    rw [hn]
    have hof : AttemptOf w.db.attempts copy.id copy.settlementId := by
      rw [hc] at ht
      exact ht _ rfl
    exact ⟨by rw [hw]; exact hs, taskSound_cpu (hof.kept hp.attempts)⟩
  | refundCalled caller attempt paymentId hdue hnone hw hn =>
    rw [hn, hw]
    exact ⟨hs.ofLog, taskSound_park trivial⟩
  | refunded caller settlementId attemptId paymentId refundId lrow hc hrec hw hn =>
    rw [hw]
    exact ⟨hs.ofLog, taskSound_plain hn⟩
  | operatorRefundCalled settlement attempt paymentId hc hmem hstate hnone hattempt hof
      hcaptured hpayment hw hn =>
    rw [hn, hw]
    exact ⟨hs.ofLog, taskSound_park ((hs.settlement _ hmem).charge (by rw [hstate]; exact nofun)).1⟩
  | operatorRefunded settlementId attemptId paymentId refundId amountPaise lrow hc hrec hw hn =>
    rw [hw]
    exact ⟨hs.ofLog, taskSound_plain hn⟩
  | operatorRefundUnrecorded settlementId attemptId paymentId refundId amountPaise hc hinexact hw hn =>
    rw [hw]
    exact ⟨hs.ofLog, taskSound_plain hn⟩
  | refundReplayed settlementId refundId hfind hw hn =>
    rw [hw]
    exact ⟨hs.ofLog, taskSound_plain hn⟩
  | again t hc hw hn =>
    rw [hn]
    refine ⟨by rw [hw]; exact hs, taskSound_park ?_⟩
    rw [hc] at ht
    rw [hw]
    exact ht _ rfl

theorem JobStep.sound {env : Env} {now : Int} {w w' : World} {k : Kick} {c : RunWhy}
    {next : Next RunPoint} (h : JobStep env now w k c w' next) (hs : Sound env.crypto w.books)
    (hj : runSound w c.before) : Sound env.crypto w'.books ∧ runSound w' next := by
  have hp := h.persists
  cases h with
  | quiet l hl hw hn => rw [hw, hn]; exact ⟨hs.ofLog, runSound_done⟩
  | entered row mandateRow ctx hc hkick hre hm hw hn =>
    rw [hn]
    refine ⟨by rw [hw]; exact hs.moved hm nofun nofun, runSound_cpu ?_⟩
    exact ⟨_, hm.moved_mem, moveTo_id .., by rw [moveTo_state]; rfl⟩
  | gateRejected l row reason hl hc hkick hre hm hw hn => rw [hw, hn]; exact ⟨hs.moved hm nofun nofun, runSound_done⟩
  | resumed row hc hkick hmem hstate hidle hw hn =>
    rw [hn, hw]
    refine ⟨hs, runSound_cpu ?_⟩
    rw [hw]
    exact ⟨row, hmem, rfl, by rw [hstate]; rfl⟩
  | attemptInitiated l settlement attemptNum lastAttemptId attemptId receipt hl hc hnum hadd hw hn =>
    have hentered : Entered w.db.settlements settlement.id := by
      rw [hc] at hj
      exact hj _ rfl
    rw [hn]
    exact ⟨by rw [hw]; exact hs.attemptAdded hadd hentered nofun, runSound_cpu hadd.attemptOf⟩
  | linkCalled settlement attemptNum lastAttemptId linkAttemptId receipt hc hnum hw hn =>
    rw [hc] at hj
    rw [hn]
    refine ⟨by rw [hw]; exact hs.ofLog, runSound_park ?_⟩
    exact RunPoint.Sound.kept (p := .attemptLoop settlement attemptNum lastAttemptId) (hj _ rfl) hp
  | orderCalled settlement attemptNum attemptId receipt hc hw hn =>
    rw [hc] at hj
    rw [hn]
    refine ⟨by rw [hw]; exact hs.ofLog, runSound_park ?_⟩
    exact RunPoint.Sound.kept (p := .createOrder settlement attemptNum attemptId receipt) (hj _ rfl) hp
  | orderFailed l settlement attemptNum attemptId receipt err row hl hc hid hm hw hn =>
    have hof : AttemptOf w.db.attempts attemptId settlement.id := by
      rw [hc] at hj
      exact hj _ rfl
    rw [hn]
    refine ⟨by rw [hw]; exact hs.attemptMoved hm nofun, runSound_cpu ?_⟩
    have hentered := hs.attempt row hm.mem
    rw [hof.settlementId_eq hm.mem hid] at hentered
    exact hentered.kept hp.settlements
  | orderSet settlement attemptNum attemptId receipt providerOrderId hc hset hw hn =>
    have hof : AttemptOf w.db.attempts attemptId settlement.id := by
      rw [hc] at hj
      exact hj _ rfl
    rw [hn]
    exact ⟨by rw [hw]; exact hs.orderIdSet hset, runSound_cpu (hof.kept hp.attempts)⟩
  | checkoutCalled settlement attemptNum attemptId providerOrderId hc hw hn =>
    rw [hc] at hj
    rw [hn]
    refine ⟨by rw [hw]; exact hs.ofLog, runSound_park ?_⟩
    exact RunPoint.Sound.kept (p := .settleViaCheckout settlement attemptNum attemptId providerOrderId)
      (hj _ rfl) hp
  | captured copy attemptNum attemptId providerOrderId result paymentId attempt settlement lrow hc
      hpaid hid hsid hattempt hm hrec hw hn =>
    have hof : AttemptOf w.db.attempts attemptId copy.id := by
      rw [hc] at hj
      exact hj _ rfl
    rw [hw, hn]
    exact ⟨hs.captureBoth hattempt hm ((hof.settlementId_eq hattempt.mem hid).trans hsid.symm), runSound_done⟩
  | captureLost settlement attemptNum attemptId providerOrderId result paymentId hc hpaid hlost hn =>
    have hof : AttemptOf w.db.attempts attemptId settlement.id := by
      rw [hc] at hj
      exact hj _ rfl
    rw [hn]
    refine ⟨?_, runSound_cpu (hof.kept hp.attempts)⟩
    rcases hlost with ⟨hw, -⟩ | ⟨attempt, hid, hattempt, hgone, hw⟩
    · rw [hw]
      exact hs
    · have hsid := hof.settlementId_eq hattempt.mem hid
      exact (hs.not_halfway hattempt (by rw [hsid]; exact hgone)).elim
  | retried l settlement attemptNum attemptId providerOrderId result hl hc hm hw hn =>
    have hof : AttemptOf w.db.attempts attemptId settlement.id := by
      rcases hc with hc | ⟨hc, -⟩ <;> rw [hc] at hj <;> exact hj _ rfl
    rw [hn]
    refine ⟨by rw [hw]; exact hs.attemptFailed hm, runSound_cpu ?_⟩
    obtain ⟨a, ha, -, hsid⟩ := hof
    have hentered := hs.attempt a ha
    rw [hsid] at hentered
    exact hentered.kept hp.settlements
  | linkIssued l settlement lastAttemptId linkAttemptId receipt linkId shortUrl hl hc hissued hw hn =>
    have hentered : Entered w.db.settlements settlement.id := by
      rw [hc] at hj
      exact hj _ rfl
    rw [hw, hn]
    refine ⟨?_, runSound_done⟩
    obtain ⟨t₁, rfl | ⟨row, -, hm⟩, hadd⟩ := hissued.superseded
    · exact hs.attemptAdded hadd hentered nofun
    · exact (hs.attemptMoved (l := w.books.ledger) hm nofun).attemptAdded hadd hentered nofun
  | again p hc hw hn =>
    rw [hc] at hj
    rw [hn, hw]
    refine ⟨hs, runSound_park ?_⟩
    rw [hw]
    exact hj _ rfl

/-- The outline of the shared invariants. -/
def soundOutline (env : Env) : Outline (facilitatorSpec env) anyStep where
  inv := fun w => Sound env.crypto w.books
  task := taskSound
  job := fun w _ => runSound w
  taskRel := fun w w' => Persists w.books w'.books
  jobRel := fun w w' => Persists w.books w'.books
  task_done := fun _ => taskSound_plain plain_done
  job_done := fun _ _ => runSound_done
  taskStep := fun _ _ _ _ _ hinv ht _ _ h =>
    ⟨(TaskStep.sound h hinv ht).1, TaskStep.persists h, (TaskStep.sound h hinv ht).2⟩
  jobStep := fun _ _ _ _ _ _ hinv hj _ _ h =>
    ⟨(JobStep.sound h hinv hj).1, JobStep.persists h, (JobStep.sound h hinv hj).2⟩
  task_stable := fun _ _ t _ ht hrel =>
    taskSound_park (Task.Sound.kept (ht t rfl) (hrel.elim id id))
  job_stable := fun _ _ _ p _ hj hrel => runSound_park (RunPoint.Sound.kept (hj p rfl) hrel)

theorem sound_initial (crypto : Crypto) : Sound crypto World.initial.books where
  mandate := fun _ h => absurd h List.not_mem_nil
  settlement := fun _ h => absurd h List.not_mem_nil
  attempt := fun _ h => absurd h List.not_mem_nil
  captured := fun _ h => absurd h List.not_mem_nil
  capturedBy := fun _ h => absurd h List.not_mem_nil

/-- **The invariants hold in every reachable state.** -/
theorem Reachable.sound {env : Env} {s : Sys} (h : Reachable env s) :
    Sound env.crypto s.world.books :=
  ((soundOutline env).holds (sound_initial env.crypto) h).inv

end Hundi
