/-
  The compensator and the winning payment.

  `reconcileCapturedPayment` decides between capture and refund on the attempt row that was read
  before the provider was asked.  A second reconcile call for the same order can capture the payment
  meanwhile; the copy still says `initiated`, the settlement is captured, and the payment that won
  is refunded (`winning_payment_refunded`).  `Forgone` is what the compensator has to know of a
  payment: its attempt can never be captured with it.  `winner_never_refunded` keeps it for every
  refund, in the runs in which no call is answered with the payment its attempt has been captured
  with since it was read.
-/
import Hundi.Facilitator.Orders
import Hundi.Facilitator.Refund

namespace Hundi

open Js EventLoop

/-- The payment a ledger row of one event type names, in one field. -/
def LedgerRow.payment? (e : LedgerEventType) (field : JsString) (row : LedgerRow) : Option JsString :=
  if row.eventType = e then (row.payload.get? field).bind JsonValue.str? else none

def LedgerRow.capturedPayment? (row : LedgerRow) : Option JsString :=
  row.payment? .payment_captured (js "provider_payment_id")

def LedgerRow.anomalyPayment? (row : LedgerRow) : Option JsString :=
  row.payment? .anomaly_refund_issued (js "payment_id")

/-- The attempt is captured with the payment. -/
def CapturedWith (t : Attempts) (paymentId : JsString) : Prop :=
  ∃ a ∈ t.rows, a.state = .captured ∧ a.providerPaymentId = some paymentId

/-- A captured attempt or a `payment_captured` row names the payment. -/
def WonBy (w : World) (paymentId : JsString) : Prop :=
  CapturedWith w.db.attempts paymentId ∨
    ∃ row ∈ w.db.ledger, row.capturedPayment? = some paymentId

/-- The compensator has called `refundPayment` for the payment, or an `anomaly_refund_issued` row
    names it. -/
def AnomalyRefunded (w : World) (paymentId : JsString) : Prop :=
  (∃ settlementId, .refundPayment .anomaly settlementId paymentId ∈ w.history) ∨
    ∃ row ∈ w.db.ledger, row.anomalyPayment? = some paymentId

/-- The provider's orders and payments: an order id is given once, and a payment belongs to one
    order, which is the one it is reported for. -/
structure OwnOrders (orderOf : JsString → JsString) (s : Sys) (a : Act) : Prop where
  fresh : FreshOrders s a
  listed : ∀ caller copy orderId payments,
    TaskMove s a (.resumed (.reconcile caller (.fetchOrderPayments copy orderId))
      (.payments (.ok payments))) →
    ∀ p ∈ payments, orderOf p.id = orderId
  paid : ∀ k settlement attemptNum attemptId orderId result paymentId,
    JobMove s a k (.resumed (.checkoutPending settlement attemptNum attemptId orderId)
      (.checkout (.ok result))) →
    result.captured? = some paymentId → orderOf paymentId = orderId

/-- A reconcile call that is answered with a captured payment either read its attempt `captured`,
    or finds it not captured with that payment. -/
def AnsweredUnpaid (s : Sys) (a : Act) : Prop :=
  ∀ caller copy orderId payments latest,
    TaskMove s a (.resumed (.reconcile caller (.fetchOrderPayments copy orderId))
      (.payments (.ok payments))) →
    payments.getLast? = some latest → latest.status = js "captured" → copy.state ≠ .captured →
    ∀ row ∈ s.world.db.attempts.rows, row.id = copy.id → row.state = .captured →
      row.providerPaymentId ≠ some latest.id

def WinnerSafe (orderOf : JsString → JsString) (s : Sys) (a : Act) : Prop :=
  OwnOrders orderOf s a ∧ AnsweredUnpaid s a

/-! ## Captured attempts and forgone payments -/

section

variable (orderOf : JsString → JsString)

/-- A captured attempt is captured with a payment of its own order. -/
def CapturesOwn (t : Attempts) : Prop :=
  ∀ a ∈ t.rows, a.state = .captured →
    ∃ paymentId, a.providerPaymentId = some paymentId ∧ a.providerOrderId = some (orderOf paymentId)

/-- The attempt of the payment's order will never be captured with it: it is over without it, or
    another attempt of the settlement is captured. -/
def Forgone (t : Attempts) (paymentId : JsString) : Prop :=
  ∃ a ∈ t.rows, a.providerOrderId = some (orderOf paymentId) ∧
    (a.state.active = false ∧ (a.state = .captured → a.providerPaymentId ≠ some paymentId) ∨
      ∃ b ∈ t.rows, b.id ≠ a.id ∧ b.settlementId = a.settlementId ∧ b.state = .captured)

variable {orderOf}

/-- **A forgone payment has captured nothing.** -/
theorem Forgone.not_captured {t : Attempts} {paymentId : JsString} (h : Forgone orderOf t paymentId)
    (hown : CapturesOwn orderOf t) (hone : OneAttempt t) : ¬ CapturedWith t paymentId := by
  rintro ⟨c, hc, hcap, hpaid⟩
  obtain ⟨a, ha, horder, hover⟩ := h
  obtain ⟨p, hp, hcorder⟩ := hown c hc hcap
  obtain rfl := Option.some.inj (hp.symm.trans hpaid)
  -- both carry the payment's order
  have hsame : c = a := attempt_eq hc ha (hone _ _ _ ⟨c, hc, rfl, hcorder⟩ ⟨a, ha, rfl, horder⟩)
  rcases hover with ⟨-, hother⟩ | ⟨b, hb, hne, hsid, hbcap⟩
  · exact hother (hsame ▸ hcap) (hsame ▸ hpaid)
  · have hbc := captured_attempt_eq hb hc hbcap hcap (by rw [hsid, hsame])
    exact hne (by rw [hbc, hsame])

/-- A forgone payment stays forgone. -/
theorem Forgone.kept {t t' : Attempts} {paymentId : JsString} (h : Forgone orderOf t paymentId)
    (hk : AttemptsKept t t') (horders : ∀ id orderId, HasOrder t id orderId → HasOrder t' id orderId) :
    Forgone orderOf t' paymentId := by
  obtain ⟨a, ha, horder, hover⟩ := h
  obtain ⟨a', ha', hid, horder'⟩ := horders a.id _ ⟨a, ha, rfl, horder⟩
  obtain ⟨a₁, ha₁, hkept⟩ := hk a ha
  obtain rfl : a₁ = a' := attempt_eq ha₁ ha' (hkept.id.trans hid.symm)
  refine ⟨a₁, ha', horder', ?_⟩
  rcases hover with ⟨hinactive, hother⟩ | ⟨b, hb, hne, hsid, hcap⟩
  · obtain ⟨hstate, hpaid⟩ := hkept.final hinactive
    rw [hstate, hpaid]
    exact Or.inl ⟨hinactive, hother⟩
  · obtain ⟨b', hb', hbkept⟩ := hk b hb
    refine Or.inr ⟨b', hb', ?_, ?_, ?_⟩
    · rw [hbkept.id, hkept.id]
      exact hne
    · rw [hbkept.settlementId, hkept.settlementId]
      exact hsid
    · exact (hbkept.final (by rw [hcap]; rfl)).1.trans hcap

/-! ## What each effect does to the captured attempts -/

theorem CapturesOwn.moved {t t' : Attempts} (h : CapturesOwn orderOf t) {now : Int} {row : AttemptRow}
    {src dst : AttemptState} (hm : AttemptMoved now t t' row src dst) (hdst : dst ≠ .captured) :
    CapturesOwn orderOf t' := by
  intro a ha hcap
  rcases hm.mem_iff.mp ha with rfl | ⟨ha, -⟩
  · exact absurd hcap hdst
  · exact h a ha hcap

theorem CapturesOwn.added {t t' : Attempts} (h : CapturesOwn orderOf t) {row : AttemptRow}
    (hadd : AttemptAdded t t' row) (hstate : row.state ≠ .captured) : CapturesOwn orderOf t' := by
  intro a ha hcap
  rcases (hadd.mem_iff a).mp ha with ha | rfl
  · exact h a ha hcap
  · exact absurd hcap hstate

theorem CapturesOwn.captured {t t' : Attempts} (h : CapturesOwn orderOf t) {now : Int}
    {row : AttemptRow} {src : AttemptState} {paymentId : JsString}
    (hm : AttemptCaptured now t t' row src paymentId)
    (horder : HasOrder t row.id (orderOf paymentId)) : CapturesOwn orderOf t' := by
  intro a ha hcap
  rcases (hm.mem_iff a).mp ha with rfl | ⟨ha, -⟩
  · obtain ⟨row', hrow', hid, hord⟩ := horder
    rw [attempt_eq hrow' hm.mem hid] at hord
    exact ⟨paymentId, rfl, hord⟩
  · exact h a ha hcap

/-- A captured attempt has its order already. -/
theorem CapturesOwn.ordered {t t' : Attempts} (h : CapturesOwn orderOf t) {now : Int}
    {attemptId orderId : JsString} (hset : OrderIdSet now t t' attemptId orderId)
    (hnone : ∀ o, ¬ HasOrder t attemptId o) : CapturesOwn orderOf t' := by
  intro a ha hcap
  rcases (hset a).mp ha with ⟨a₀, ha₀, hid, rfl⟩ | ⟨ha, -⟩
  · obtain ⟨p, -, horder⟩ := h a₀ ha₀ hcap
    exact absurd ⟨a₀, ha₀, hid, horder⟩ (hnone _)
  · exact h a ha hcap

end

/-! ## Attempts while a call awaits -/

/-- The later state of an attempt that was in state `src`. -/
def AttemptState.Becomes (src dst : AttemptState) : Prop :=
  dst = src ∨ (src.active = true ∧ dst.active = false)

/-- The attempts of `t` are in `t'`, as they were or over. -/
def Steady (t t' : Attempts) : Prop :=
  ∀ a ∈ t.rows, ∃ a' ∈ t'.rows, a'.id = a.id ∧ a.state.Becomes a'.state

theorem AttemptState.Becomes.trans {s t u : AttemptState} (h : s.Becomes t) (h' : t.Becomes u) :
    s.Becomes u := by
  rcases h with rfl | ⟨hs, ht⟩
  · exact h'
  · rcases h' with rfl | ⟨ht', -⟩
    · exact Or.inr ⟨hs, ht⟩
    · rw [ht] at ht'
      exact nomatch ht'

theorem Steady.refl (t : Attempts) : Steady t t := fun a ha => ⟨a, ha, rfl, Or.inl rfl⟩

theorem Steady.trans {t u v : Attempts} (h : Steady t u) (h' : Steady u v) : Steady t v := by
  intro a ha
  obtain ⟨b, hb, hid, hbecomes⟩ := h a ha
  obtain ⟨c, hc, hid', hbecomes'⟩ := h' b hb
  exact ⟨c, hc, hid'.trans hid, hbecomes.trans hbecomes'⟩

theorem AttemptAdded.steady {t t' : Attempts} {row : AttemptRow} (h : AttemptAdded t t' row) :
    Steady t t' :=
  fun a ha => ⟨a, (h.mem_iff a).mpr (Or.inl ha), rfl, Or.inl rfl⟩

theorem AttemptMoved.steady {now : Int} {t t' : Attempts} {row : AttemptRow} {src dst : AttemptState}
    (h : AttemptMoved now t t' row src dst) (hdst : dst.active = false) : Steady t t' := by
  intro a ha
  by_cases hid : a.id = row.id
  · obtain rfl := attempt_eq ha h.mem hid
    exact ⟨_, h.mem_iff.mpr (Or.inl rfl), rfl, Or.inr ⟨h.active, hdst⟩⟩
  · exact ⟨a, h.mem_iff.mpr (Or.inr ⟨ha, hid⟩), rfl, Or.inl rfl⟩

theorem AttemptCaptured.steady {now : Int} {t t' : Attempts} {row : AttemptRow} {src : AttemptState}
    {paymentId : JsString} (h : AttemptCaptured now t t' row src paymentId) : Steady t t' := by
  intro a ha
  by_cases hid : a.id = row.id
  · obtain rfl := attempt_eq ha h.mem hid
    exact ⟨_, (h.mem_iff _).mpr (Or.inl rfl), rfl, Or.inr ⟨h.active, rfl⟩⟩
  · exact ⟨a, (h.mem_iff a).mpr (Or.inr ⟨ha, hid⟩), rfl, Or.inl rfl⟩

theorem AttemptFailed.steady {now : Int} {t t' : Attempts} {attemptId : JsString} {src : AttemptState}
    (h : AttemptFailed now t t' attemptId src) : Steady t t' := by
  rcases h with ⟨rfl, -⟩ | ⟨row, -, hm⟩
  · exact .refl t'
  · exact hm.steady rfl

theorem OrderIdSet.steady {now : Int} {t t' : Attempts} {attemptId orderId : JsString}
    (h : OrderIdSet now t t' attemptId orderId) : Steady t t' := by
  intro a ha
  by_cases hid : a.id = attemptId
  · exact ⟨_, (h _).mpr (Or.inl ⟨a, ha, hid, rfl⟩), rfl, Or.inl rfl⟩
  · exact ⟨a, (h a).mpr (Or.inr ⟨ha, hid⟩), rfl, Or.inl rfl⟩

theorem LinkIssued.steady {now : Int} {t t' : Attempts} {lastAttemptId : JsString} {link : AttemptRow}
    (h : LinkIssued now t t' lastAttemptId link) : Steady t t' := by
  obtain ⟨t₁, rfl | ⟨row, -, hm⟩, hadd⟩ := h.superseded
  · exact hadd.steady
  · exact (hm.steady rfl).trans hadd.steady

theorem TaskStep.steady {env : Env} {now : Int} {w w' : World} {c : TaskWhy} {next : Next Task}
    (h : TaskStep env now w c w' next) : Steady w.db.attempts w'.db.attempts := by
  have hsame : w'.db.attempts = w.db.attempts → Steady w.db.attempts w'.db.attempts := by
    intro heq
    rw [heq]
    exact .refl _
  cases h with
  | attemptFailed l row src hl hm hwhy hw hn => exact hm.steady rfl
  | captured caller copy orderId payments latest attempt settlement lrow hc hlast hstatus hid hsid
      hattempt hm hrec hw hn => exact hattempt.steady
  | _ =>
    rename_i hw _
    exact hsame (congrArg Books.attempts hw)

theorem JobStep.steady {env : Env} {now : Int} {w w' : World} {k : Kick} {c : RunWhy}
    {next : Next RunPoint} (h : JobStep env now w k c w' next) :
    Steady w.db.attempts w'.db.attempts := by
  have hsame : w'.db.attempts = w.db.attempts → Steady w.db.attempts w'.db.attempts := by
    intro heq
    rw [heq]
    exact .refl _
  cases h with
  | attemptInitiated l settlement attemptNum lastAttemptId attemptId receipt hl hc hnum hadd hw hn =>
    exact hadd.steady
  | orderFailed l settlement attemptNum attemptId receipt err row hl hc hid hm hw hn =>
    exact hm.steady rfl
  | orderSet settlement attemptNum attemptId receipt orderId hc hset hw hn => exact hset.steady
  | captured copy attemptNum attemptId orderId result paymentId attempt settlement lrow hc
      hpaid hid hsid hattempt hm hrec hw hn => exact hattempt.steady
  | captureLost settlement attemptNum attemptId orderId result paymentId hc hpaid hlost hn =>
    rcases hlost with ⟨hw, -⟩ | ⟨attempt, -, hattempt, -, -⟩
    · exact hsame (congrArg Books.attempts hw)
    · exact hattempt.steady
  | retried l settlement attemptNum attemptId orderId result hl hc hm hw hn => exact hm.steady
  | linkIssued l settlement lastAttemptId linkAttemptId receipt linkId shortUrl hl hc hissued hw hn =>
    exact hissued.steady
  | _ =>
    rename_i hw _
    exact hsame (congrArg Books.attempts hw)

/-! ## What the ledger and the history say -/

theorem payment?_eq_none {row : LedgerRow} {e : LedgerEventType} (h : row.eventType ≠ e)
    (field : JsString) : row.payment? e field = none :=
  if_neg h

/-- The row of a capture names its payment. -/
theorem LedgerRow.Records.capturedPayment {row : LedgerRow} {settlementId attemptId paymentId : JsString}
    {actor : JsString} {orderId : Option JsString}
    (h : row.Records ⟨.payment_captured, some settlementId, actor,
      capturePayload attemptId paymentId orderId⟩) : row.capturedPayment? = some paymentId := by
  rw [LedgerRow.capturedPayment?, LedgerRow.payment?, if_pos h.eventType, h.payload]
  cases orderId with
  | none => rfl
  | some o => cases o <;> rfl

/-- A row that names a captured payment was there before, or records the capture of this step. -/
theorem TaskStep.capture_rows {env : Env} {now : Int} {w w' : World} {c : TaskWhy} {next : Next Task}
    (h : TaskStep env now w c w' next) {row : LedgerRow} (hrow : row ∈ w'.db.ledger)
    {paymentId : JsString} (hpaid : row.capturedPayment? = some paymentId) :
    row ∈ w.db.ledger ∨ CapturedWith w'.db.attempts paymentId := by
  have hold : ∀ {l : List LedgerRow}, w'.books.ledger = w.db.ledger ++ l →
      (∀ r ∈ l, r.eventType ≠ .payment_captured) → row ∈ w.db.ledger := by
    intro l hledger hl
    rw [show w'.db.ledger = w.db.ledger ++ l from hledger] at hrow
    rcases List.mem_append.mp hrow with hrow | hrow
    · exact hrow
    · rw [LedgerRow.capturedPayment?, payment?_eq_none (hl row hrow)] at hpaid
      exact nomatch hpaid
  have hnil : ∀ r ∈ ([] : List LedgerRow), r.eventType ≠ .payment_captured :=
    fun r hr => absurd hr List.not_mem_nil
  cases h with
  | quiet l hl hw hn => exact Or.inl (hold (congrArg Books.ledger hw) (hl.eventType_ne rfl))
  | mandateRegistered l row hl hschema hadd hw hn =>
    exact Or.inl (hold (congrArg Books.ledger hw) (hl.eventType_ne rfl))
  | mandateRevoked l mandateId hl hrev hw hn =>
    exact Or.inl (hold (congrArg Books.ledger hw) (hl.eventType_ne rfl))
  | settlementCreated l srow intent cart key status body hl hadd hfrom hstamp hw hn =>
    refine Or.inl (hold (congrArg Books.ledger hw) (hl.eventType_ne ?_))
    cases srow.state <;> exact nofun
  | decided l srow mandateRow approval rejectReason hl hmandate hsigned happrovals hm hw hn =>
    refine Or.inl (hold (congrArg Books.ledger hw) (hl.eventType_ne ?_))
    cases approval.decision <;> exact nofun
  | abandoned l srow src hl hsrc hm hw hn =>
    rcases hl with hl | hl
    · exact Or.inl (hold (congrArg Books.ledger hw) (hl.eventType_ne nofun))
    · exact Or.inl (hold (congrArg Books.ledger hw) (hl.eventType_ne nofun))
  | attemptFailed l arow src hl hm hwhy hw hn =>
    exact Or.inl (hold (congrArg Books.ledger hw) (hl.eventType_ne nofun))
  | captured caller copy orderId payments latest attempt settlement lrow hc hlast hstatus hid hsid
      hattempt hm hrec hw hn =>
    rw [show w'.db.ledger = w.db.ledger ++ [lrow] from congrArg Books.ledger hw] at hrow
    rcases List.mem_append.mp hrow with hrow | hrow
    · exact Or.inl hrow
    · obtain rfl := List.mem_singleton.mp hrow
      rw [hrec.capturedPayment] at hpaid
      obtain rfl := Option.some.inj hpaid
      exact Or.inr ⟨_, (hattempt.mem_iff _).mpr (Or.inl rfl), rfl, rfl⟩
  | refunded caller settlementId attemptId refundedId refundId lrow hc hrec hw hn =>
    refine Or.inl (hold (congrArg Books.ledger hw) fun r hr => ?_)
    rw [List.mem_singleton.mp hr, hrec.eventType]
    exact nofun
  | operatorRefunded settlementId attemptId refundedId refundId amountPaise lrow hc hrec hw hn =>
    refine Or.inl (hold (congrArg Books.ledger hw) fun r hr => ?_)
    rw [List.mem_singleton.mp hr, hrec.eventType]
    exact nofun
  | _ =>
    rename_i hw _
    exact Or.inl (hold ((congrArg Books.ledger hw).trans (List.append_nil _).symm) hnil)

theorem JobStep.capture_rows {env : Env} {now : Int} {w w' : World} {k : Kick} {c : RunWhy}
    {next : Next RunPoint} (h : JobStep env now w k c w' next) {row : LedgerRow}
    (hrow : row ∈ w'.db.ledger) {paymentId : JsString} (hpaid : row.capturedPayment? = some paymentId) :
    row ∈ w.db.ledger ∨ CapturedWith w'.db.attempts paymentId := by
  have hold : ∀ {l : List LedgerRow}, w'.books.ledger = w.db.ledger ++ l →
      (∀ r ∈ l, r.eventType ≠ .payment_captured) → row ∈ w.db.ledger := by
    intro l hledger hl
    rw [show w'.db.ledger = w.db.ledger ++ l from hledger] at hrow
    rcases List.mem_append.mp hrow with hrow | hrow
    · exact hrow
    · rw [LedgerRow.capturedPayment?, payment?_eq_none (hl row hrow)] at hpaid
      exact nomatch hpaid
  have hnil : ∀ r ∈ ([] : List LedgerRow), r.eventType ≠ .payment_captured :=
    fun r hr => absurd hr List.not_mem_nil
  cases h with
  | quiet l hl hw hn => exact Or.inl (hold (congrArg Books.ledger hw) (hl.eventType_ne rfl))
  | gateRejected l srow reason hl hc hkick hre hm hw hn =>
    exact Or.inl (hold (congrArg Books.ledger hw) (hl.eventType_ne nofun))
  | attemptInitiated l settlement attemptNum lastAttemptId attemptId receipt hl hc hnum hadd hw hn =>
    exact Or.inl (hold (congrArg Books.ledger hw) (hl.eventType_ne rfl))
  | orderFailed l settlement attemptNum attemptId receipt err arow hl hc hid hm hw hn =>
    exact Or.inl (hold (congrArg Books.ledger hw) (hl.eventType_ne nofun))
  | captured copy attemptNum attemptId orderId result latest attempt settlement lrow hc
      hcaptured hid hsid hattempt hm hrec hw hn =>
    rw [show w'.db.ledger = w.db.ledger ++ [lrow] from congrArg Books.ledger hw] at hrow
    rcases List.mem_append.mp hrow with hrow | hrow
    · exact Or.inl hrow
    · obtain rfl := List.mem_singleton.mp hrow
      rw [hrec.capturedPayment] at hpaid
      obtain rfl := Option.some.inj hpaid
      exact Or.inr ⟨_, (hattempt.mem_iff _).mpr (Or.inl rfl), rfl, rfl⟩
  | captureLost settlement attemptNum attemptId orderId result latest hc hcaptured hlost hn =>
    rcases hlost with ⟨hw, -⟩ | ⟨attempt, -, hattempt, -, hw⟩
    · exact Or.inl (hold ((congrArg Books.ledger hw).trans (List.append_nil _).symm) hnil)
    · exact Or.inl (hold ((congrArg Books.ledger hw).trans (List.append_nil _).symm) hnil)
  | retried l settlement attemptNum attemptId orderId result hl hc hm hw hn =>
    exact Or.inl (hold (congrArg Books.ledger hw) (hl.eventType_ne nofun))
  | linkIssued l settlement lastAttemptId linkAttemptId receipt linkId shortUrl hl hc hissued hw hn =>
    exact Or.inl (hold (congrArg Books.ledger hw) (hl.eventType_ne rfl))
  | _ =>
    rename_i hw _
    exact Or.inl (hold ((congrArg Books.ledger hw).trans (List.append_nil _).symm) hnil)

/-- A row of the compensator was there before, or records the refund this step was awaiting. -/
theorem RefundStep.anomaly_rows {env : Env} {w w' : World} {c : TaskWhy} {next : Next Task}
    (h : RefundStep env w c w' next) {row : LedgerRow} (hrow : row ∈ w'.db.ledger)
    {paymentId : JsString} (hpaid : row.anomalyPayment? = some paymentId) :
    row ∈ w.db.ledger ∨ ∃ caller settlementId attemptId,
      c.before = .park (.reconcile caller (.refundPayment settlementId attemptId paymentId)) := by
  have hold : ∀ {l : List LedgerRow}, w'.db.ledger = w.db.ledger ++ l →
      (∀ r ∈ l, r.eventType ≠ .anomaly_refund_issued) → row ∈ w.db.ledger := by
    intro l hledger hl
    rw [hledger] at hrow
    rcases List.mem_append.mp hrow with hrow | hrow
    · exact hrow
    · rw [LedgerRow.anomalyPayment?, payment?_eq_none (hl row hrow)] at hpaid
      exact nomatch hpaid
  have hsame : w'.db.ledger = w.db.ledger → row ∈ w.db.ledger := fun hledger => hledger ▸ hrow
  cases h with
  | other l es hledger hl hhistory hes hn => exact Or.inl (hold hledger fun r hr => (hl r hr).1)
  | anomalyRefunded caller settlementId attemptId refundedId refundId lrow hc hrec hledger hhistory
      hn =>
    rw [hledger] at hrow
    rcases List.mem_append.mp hrow with hrow | hrow
    · exact Or.inl hrow
    · obtain rfl := List.mem_singleton.mp hrow
      rw [LedgerRow.anomalyPayment?, LedgerRow.payment?, if_pos hrec.eventType, hrec.payload] at hpaid
      obtain rfl := Option.some.inj hpaid
      exact Or.inr ⟨caller, settlementId, attemptId, by rw [hc]; rfl⟩
  | operatorRefunded settlementId attemptId refundedId refundId amountPaise lrow hc hrec hledger
      hhistory hn =>
    refine Or.inl (hold hledger fun r hr => ?_)
    rw [List.mem_singleton.mp hr, hrec.eventType]
    exact nofun
  | anomalyCalled caller attempt refundedId hdue hnone hledger hhistory hn => exact Or.inl (hsame hledger)
  | operatorCalled settlementId attemptId refundedId amountPaise hc hnone hledger hhistory hn =>
    exact Or.inl (hsame hledger)
  | operatorUnrecorded settlementId attemptId refundedId refundId amountPaise hc hinexact hledger
      hhistory hn => exact Or.inl (hsame hledger)
  | replayed settlementId refundId hfind hledger hhistory hn => exact Or.inl (hsame hledger)

/-- A call of the compensator was made before, or is due in this step. -/
theorem TaskStep.anomaly_calls {env : Env} {now : Int} {w w' : World} {c : TaskWhy} {next : Next Task}
    (h : TaskStep env now w c w' next) {settlementId paymentId : JsString}
    (hcall : .refundPayment .anomaly settlementId paymentId ∈ w'.history) :
    .refundPayment .anomaly settlementId paymentId ∈ w.history ∨
      ∃ caller attempt, RefundDue w c caller attempt paymentId := by
  have hold : ∀ es : List Event, w'.books.history = es ++ w.history →
      (∀ e ∈ es, e ≠ .refundPayment .anomaly settlementId paymentId) →
      .refundPayment .anomaly settlementId paymentId ∈ w.history := by
    intro es hhistory hes
    rw [show w'.history = es ++ w.history from hhistory] at hcall
    rcases List.mem_append.mp hcall with hcall | hcall
    · exact absurd rfl (hes _ hcall)
    · exact hcall
  cases h with
  | refundCalled caller attempt refundedId hdue hnone hw hn =>
    rw [show w'.history = _ from congrArg Books.history hw] at hcall
    rcases List.mem_cons.mp hcall with heq | hcall
    · obtain ⟨-, -, rfl⟩ := Event.refundPayment.inj heq
      exact Or.inr ⟨caller, attempt, hdue⟩
    · exact Or.inl hcall
  | responded key status body hw hn =>
    exact Or.inl (hold [_] (congrArg Books.history hw) (by simp))
  | settlementCreated l row intent cart key status body hl hadd hfrom hstamp hw hn =>
    exact Or.inl (hold [_, _] (congrArg Books.history hw) (by simp))
  | refunded caller sid attemptId refundedId refundId lrow hc hrec hw hn =>
    exact Or.inl (hold [_] (congrArg Books.history hw) (by simp))
  | operatorRefundCalled settlement attempt refundedId hc hmem hstate hnone hattempt hof
      hcaptured hpayment hw hn =>
    exact Or.inl (hold [_] (congrArg Books.history hw) (by simp))
  | operatorRefunded sid attemptId refundedId refundId amountPaise lrow hc hrec hw hn =>
    exact Or.inl (hold [_, _] (congrArg Books.history hw) (by simp))
  | operatorRefundUnrecorded sid attemptId refundedId refundId amountPaise hc hinexact hw hn =>
    exact Or.inl (hold [_] (congrArg Books.history hw) (by simp))
  | refundReplayed sid refundId hfind hw hn =>
    exact Or.inl (hold [_] (congrArg Books.history hw) (by simp))
  | _ =>
    rename_i hw _
    exact Or.inl (hold [] (congrArg Books.history hw) fun e he => absurd he List.not_mem_nil)

/-! ## Assertions -/

section

variable (orderOf : JsString → JsString)

/-- A reconcile call's attempt is as it was read or over; the payment it is about to refund, or is
    refunding, is forgone. -/
def Task.Informed (t : Attempts) : Task → Prop
  | .reconcile _ (.fetchOrderPayments copy _) =>
    ∃ a ∈ t.rows, a.id = copy.id ∧ copy.state.Becomes a.state
  | .reconcile _ (.lostRace _ paymentId) => Forgone orderOf t paymentId
  | .reconcile _ (.refundPayment _ _ paymentId) => Forgone orderOf t paymentId
  | _ => True

def taskInformed (w : World) (next : Next Task) : Prop :=
  ∀ t, next.task? = some t → t.Informed orderOf w.db.attempts

/-- What the compensator has done is about forgone payments, and what the ledger calls captured is
    captured. -/
structure WinnersKept (w : World) : Prop where
  own : CapturesOwn orderOf w.db.attempts
  called : ∀ settlementId paymentId, .refundPayment .anomaly settlementId paymentId ∈ w.history →
    Forgone orderOf w.db.attempts paymentId
  refunded : ∀ row ∈ w.db.ledger, ∀ paymentId, row.anomalyPayment? = some paymentId →
    Forgone orderOf w.db.attempts paymentId
  won : ∀ row ∈ w.db.ledger, ∀ paymentId, row.capturedPayment? = some paymentId →
    CapturedWith w.db.attempts paymentId

end

section

variable {orderOf : JsString → JsString}

theorem taskInformed_plain {w : World} {next : Next Task} (h : Plain next) :
    taskInformed orderOf w next := by
  intro t ht
  have hp := h t ht
  cases t <;> trivial

theorem taskInformed_next {w : World} {next : Next Task} {t : Task} (hn : next.task? = some t)
    (h : t.Informed orderOf w.db.attempts) : taskInformed orderOf w next := by
  intro u hu
  obtain rfl := Option.some.inj (hn.symm.trans hu)
  exact h

theorem CapturedWith.kept {t t' : Attempts} {paymentId : JsString} (h : CapturedWith t paymentId)
    (hk : AttemptsKept t t') : CapturedWith t' paymentId := by
  obtain ⟨a, ha, hcap, hpaid⟩ := h
  obtain ⟨a', ha', hkept⟩ := hk a ha
  obtain ⟨hstate, hpaid'⟩ := hkept.final (by rw [hcap]; rfl)
  exact ⟨a', ha', hstate.trans hcap, hpaid'.trans hpaid⟩

theorem Task.Informed.kept {t t' : Attempts} {u : Task} (h : u.Informed orderOf t)
    (hk : AttemptsKept t t') (horders : ∀ id orderId, HasOrder t id orderId → HasOrder t' id orderId)
    (hsteady : Steady t t') : u.Informed orderOf t' := by
  cases u with
  | reconcile caller point =>
    cases point with
    | fetchOrderPayments copy orderId =>
      obtain ⟨a, ha, hid, hbecomes⟩ := h
      obtain ⟨a', ha', hid', hbecomes'⟩ := hsteady a ha
      exact ⟨a', ha', hid'.trans hid, hbecomes.trans hbecomes'⟩
    | lostRace copy paymentId => exact Forgone.kept h hk horders
    | refundPayment settlementId attemptId paymentId => exact Forgone.kept h hk horders
  | _ => trivial

/-- **What an answered reconcile call finds of its attempt.**  The payment is of its order, and has
    not captured it. -/
theorem WinnerSafe.found {s : Sys} {a : Act} (hok : WinnerSafe orderOf s a) {caller : Caller}
    {copy : AttemptRow} {orderId : JsString} {payments : List RazorpayPayment}
    {latest : RazorpayPayment}
    (hmove : TaskMove s a (.resumed (.reconcile caller (.fetchOrderPayments copy orderId))
      (.payments (.ok payments))))
    (hlast : payments.getLast? = some latest) (hstatus : latest.status = js "captured")
    (hcopy : copy.state ≠ .captured)
    (hinformed : (Task.reconcile caller (.fetchOrderPayments copy orderId)).Informed orderOf
      s.world.db.attempts)
    (horder : HasOrder s.world.db.attempts copy.id orderId) :
    ∃ row ∈ s.world.db.attempts.rows, row.id = copy.id ∧ copy.state.Becomes row.state ∧
      row.providerOrderId = some (orderOf latest.id) ∧
      (row.state = .captured → row.providerPaymentId ≠ some latest.id) := by
  obtain ⟨row, hrow, hid, hbecomes⟩ := hinformed
  obtain ⟨row', hrow', hid', hord⟩ := horder
  obtain rfl := attempt_eq hrow hrow' (hid.trans hid'.symm)
  refine ⟨row, hrow, hid, hbecomes, ?_, ?_⟩
  · rw [hok.1.listed _ _ _ _ hmove latest (List.mem_of_getLast? hlast)]
    exact hord
  · exact hok.2 _ _ _ _ _ hmove hlast hstatus hcopy row hrow hid

/-- **A refund that is due is of a forgone payment.** -/
theorem RefundDue.forgone {env : Env} {s : Sys} {a : Act} {c : TaskWhy} {caller : Caller}
    {copy : AttemptRow} {paymentId : JsString} (h : RefundDue s.world c caller copy paymentId)
    (hmove : TaskMove s a c) (hok : WinnerSafe orderOf s a) (hs : Sound env.crypto s.world.books)
    (hsound : taskSound s.world c.before) (horders : taskOfOrder s.world c.before)
    (hinformed : taskInformed orderOf s.world c.before) :
    Forgone orderOf s.world.db.attempts paymentId := by
  cases h with
  | lostRace hc =>
    rw [hc] at hinformed
    exact hinformed _ rfl
  | anomaly orderId payments latest hc hlast hstatus hid hcopy hwhy =>
    rw [hc] at hmove hsound horders hinformed
    obtain ⟨row, hrow, hrid, hbecomes, horder, hunpaid⟩ :=
      hok.found hmove hlast hstatus hcopy (hinformed _ rfl) (horders _ rfl)
    rw [hid] at horder hunpaid
    have hrsid : row.settlementId = copy.settlementId :=
      AttemptOf.settlementId_eq (hsound _ rfl) hrow hrid
    refine ⟨row, hrow, horder, ?_⟩
    -- another captured attempt forgoes the payment, and so does the row itself once captured
    have hsibling : (∃ b ∈ s.world.db.attempts.rows, b.settlementId = copy.settlementId ∧
        b.state = .captured) → (row.state.active = false ∧
          (row.state = .captured → row.providerPaymentId ≠ some paymentId) ∨
        ∃ b ∈ s.world.db.attempts.rows, b.id ≠ row.id ∧ b.settlementId = row.settlementId ∧
          b.state = .captured) := by
      rintro ⟨b, hb, hbsid, hbcap⟩
      by_cases hsame : b.id = row.id
      · obtain rfl := attempt_eq hb hrow hsame
        exact Or.inl ⟨by rw [hbcap]; rfl, hunpaid⟩
      · exact Or.inr ⟨b, hb, hsame, hbsid.trans hrsid.symm, hbcap⟩
    rcases hwhy with hinactive | hgone | hcaptured
    · rcases hbecomes with hstate | ⟨hactive, -⟩
      · exact Or.inl ⟨by rw [hstate]; exact hinactive, hunpaid⟩
      · rw [hinactive] at hactive
        exact nomatch hactive
    · -- the settlement of an attempt that is not `settling` is captured
      obtain ⟨r, hr, hsid, -⟩ := hs.attempt row hrow
      have hsid' : r.id = copy.settlementId := hsid.trans hrsid
      have hcap : r.state = .captured :=
        (hs.settling_of_active hrow hr hsid).resolve_left (hgone r hr hsid')
      obtain ⟨b, hb, hbsid, hbcap⟩ := hs.capturedBy r hr hcap
      exact hsibling ⟨b, hb, hbsid.trans hsid', hbcap⟩
    · exact hsibling hcaptured

theorem TaskStep.capturesOwn {env : Env} {s : Sys} {a : Act} {w' : World} {c : TaskWhy}
    {next : Next Task} (h : TaskStep env s.clock s.world c w' next) (hmove : TaskMove s a c)
    (hok : WinnerSafe orderOf s a) (horders : taskOfOrder s.world c.before)
    (hown : CapturesOwn orderOf s.world.db.attempts) : CapturesOwn orderOf w'.db.attempts := by
  have hsame : w'.db.attempts = s.world.db.attempts → CapturesOwn orderOf w'.db.attempts := by
    intro heq
    rw [heq]
    exact hown
  cases h with
  | attemptFailed l row src hl hm hwhy hw hn => exact hown.moved hm nofun
  | captured caller copy orderId payments latest attempt settlement lrow hc hlast hstatus hid hsid
      hattempt hm hrec hw hn =>
    rw [hc] at hmove horders
    refine hown.captured hattempt ?_
    rw [hok.1.listed _ _ _ _ hmove latest (List.mem_of_getLast? hlast), hid]
    exact horders _ rfl
  | _ =>
    rename_i hw _
    exact hsame (congrArg Books.attempts hw)

theorem JobStep.capturesOwn {env : Env} {s : Sys} {a : Act} {w' : World} {k : Kick} {c : RunWhy}
    {next : Next RunPoint} (h : JobStep env s.clock s.world k c w' next) (hmove : JobMove s a k c)
    (hok : WinnerSafe orderOf s a) (horders : runOfOrder s.world c.before)
    (hown : CapturesOwn orderOf s.world.db.attempts) : CapturesOwn orderOf w'.db.attempts := by
  have hsame : w'.db.attempts = s.world.db.attempts → CapturesOwn orderOf w'.db.attempts := by
    intro heq
    rw [heq]
    exact hown
  -- the driver's payment is of the order of the attempt it was called for
  have hpaidFor : ∀ {settlement : SettlementRow} {attemptNum : Nat} {attemptId orderId : JsString}
      {result : SettleViaCheckoutResult} {paymentId : JsString},
      c = .resumed (.checkoutPending settlement attemptNum attemptId orderId)
        (.checkout (.ok result)) → result.captured? = some paymentId →
      HasOrder s.world.db.attempts attemptId (orderOf paymentId) := by
    rintro settlement attemptNum attemptId orderId result paymentId rfl hpaid
    rw [hok.1.paid _ _ _ _ _ _ _ hmove hpaid]
    exact horders (.checkoutPending settlement attemptNum attemptId orderId) rfl
  cases h with
  | attemptInitiated l settlement attemptNum lastAttemptId attemptId receipt hl hc hnum hadd hw hn =>
    exact hown.added hadd nofun
  | orderFailed l settlement attemptNum attemptId receipt err row hl hc hid hm hw hn =>
    exact hown.moved hm nofun
  | orderSet settlement attemptNum attemptId receipt orderId hc hset hw hn =>
    refine hown.ordered hset ?_
    rw [hc] at horders
    exact horders (.orderPending settlement attemptNum attemptId receipt) rfl
  | captured copy attemptNum attemptId orderId result paymentId attempt settlement lrow hc
      hpaid hid hsid hattempt hm hrec hw hn =>
    refine hown.captured hattempt ?_
    rw [hid]
    exact hpaidFor hc hpaid
  | captureLost settlement attemptNum attemptId orderId result paymentId hc hpaid hlost hn =>
    rcases hlost with ⟨hw, -⟩ | ⟨attempt, hid, hattempt, -, -⟩
    · exact hsame (congrArg Books.attempts hw)
    · refine hown.captured hattempt ?_
      rw [hid]
      exact hpaidFor hc hpaid
  | retried l settlement attemptNum attemptId orderId result hl hc hm hw hn =>
    rcases hm with ⟨heq, -⟩ | ⟨row, -, hm⟩
    · exact hsame heq
    · exact hown.moved hm nofun
  | linkIssued l settlement lastAttemptId linkAttemptId receipt linkId shortUrl hl hc hissued hw hn =>
    obtain ⟨t₁, rfl | ⟨row, -, hm⟩, hadd⟩ := hissued.superseded
    · exact hown.added hadd nofun
    · exact (hown.moved hm nofun).added hadd nofun
  | _ =>
    rename_i hw _
    exact hsame (congrArg Books.attempts hw)

theorem TaskStep.informed {env : Env} {s : Sys} {a : Act} {w' : World} {c : TaskWhy}
    {next : Next Task} (h : TaskStep env s.clock s.world c w' next) (hmove : TaskMove s a c)
    (hok : WinnerSafe orderOf s a) (hs : Sound env.crypto s.world.books)
    (hsound : taskSound s.world c.before) (horders : taskOfOrder s.world c.before)
    (hinformed : taskInformed orderOf s.world c.before) : taskInformed orderOf w' next := by
  cases h with
  | reconciling caller attempt orderId hfind hw hn =>
    refine taskInformed_next (congrArg Next.task? hn) ?_
    rw [show w'.db.attempts = s.world.db.attempts from congrArg Books.attempts hw]
    exact ⟨attempt, (Table.find?_mem hfind).1, rfl, Or.inl rfl⟩
  | captureLost caller copy orderId payments latest hc hlast hstatus hactive hstale hw hn =>
    refine taskInformed_next (congrArg Next.task? hn) ?_
    rw [show w'.db.attempts = s.world.db.attempts from congrArg Books.attempts hw]
    rw [hc] at hmove horders hinformed
    have hcopy : copy.state ≠ .captured := by
      intro hcap
      rw [hcap] at hactive
      exact nomatch hactive
    obtain ⟨row, hrow, hrid, hbecomes, horder, hunpaid⟩ :=
      hok.found hmove hlast hstatus hcopy (hinformed _ rfl) (horders _ rfl)
    rcases hbecomes with hstate | ⟨-, hinactive⟩
    · exact absurd hstate (hstale row hrow hrid)
    · exact ⟨row, hrow, horder, Or.inl ⟨hinactive, hunpaid⟩⟩
  | refundCalled caller attempt paymentId hdue hnone hw hn =>
    refine taskInformed_next (congrArg Next.task? hn) ?_
    rw [show w'.db.attempts = s.world.db.attempts from congrArg Books.attempts hw]
    exact hdue.forgone hmove hok hs hsound horders hinformed
  | operatorRefundCalled settlement attempt paymentId hc hmem hstate hnone hattempt hof
      hcaptured hpayment hw hn => exact taskInformed_next (congrArg Next.task? hn) trivial
  | again t hc hw hn =>
    refine taskInformed_next (congrArg Next.task? hn) ?_
    rw [show w'.db.attempts = s.world.db.attempts from congrArg Books.attempts hw]
    rw [hc] at hinformed
    exact hinformed t rfl
  | _ =>
    rename_i hn
    exact taskInformed_plain hn

/-! ## The outline -/

theorem WinnersKept.task {env : Env} {s : Sys} {a : Act} {w' : World} {c : TaskWhy}
    {next : Next Task} (h : WinnersKept orderOf s.world)
    (hstep : TaskStep env s.clock s.world c w' next) (hmove : TaskMove s a c)
    (hok : WinnerSafe orderOf s a) (hs : Sound env.crypto s.world.books)
    (hsound : taskSound s.world c.before) (horders : taskOfOrder s.world c.before)
    (hinformed : taskInformed orderOf s.world c.before) : WinnersKept orderOf w' := by
  have hk : AttemptsKept s.world.db.attempts w'.db.attempts := hstep.persists.attempts
  have hsame : ∀ id orderId, HasOrder s.world.db.attempts id orderId →
      HasOrder w'.db.attempts id orderId := fun _ _ => (hstep.sameOrders _ _).mpr
  refine ⟨hstep.capturesOwn hmove hok horders h.own, fun sid p hcall => ?_, fun row hrow p hp => ?_,
    fun row hrow p hp => ?_⟩
  · refine Forgone.kept ?_ hk hsame
    rcases hstep.anomaly_calls hcall with hcall | ⟨caller, attempt, hdue⟩
    · exact h.called sid p hcall
    · exact hdue.forgone hmove hok hs hsound horders hinformed
  · refine Forgone.kept ?_ hk hsame
    rcases hstep.refundStep.anomaly_rows hrow hp with hrow | ⟨caller, sid, attemptId, hc⟩
    · exact h.refunded row hrow p hp
    · rw [hc] at hinformed
      exact hinformed _ rfl
  · rcases hstep.capture_rows hrow hp with hrow | hnew
    · exact (h.won row hrow p hp).kept hk
    · exact hnew

theorem WinnersKept.job {env : Env} {s : Sys} {a : Act} {w' : World} {k : Kick} {c : RunWhy}
    {next : Next RunPoint} (h : WinnersKept orderOf s.world)
    (hstep : JobStep env s.clock s.world k c w' next) (hmove : JobMove s a k c)
    (hok : WinnerSafe orderOf s a) (hone : OneAttempt s.world.db.attempts)
    (horders : runOfOrder s.world c.before) : WinnersKept orderOf w' := by
  have hk : AttemptsKept s.world.db.attempts w'.db.attempts := hstep.persists.attempts
  have hgrow := (hstep.oneAttempt hmove hok.1.fresh hone horders).2
  obtain ⟨l, es, hledger, hrows, -, -⟩ := hstep.no_refund
  obtain ⟨calls, hhistory, hcharge⟩ := hstep.emitted
  refine ⟨hstep.capturesOwn hmove hok horders h.own, fun sid p hcall => ?_, fun row hrow p hp => ?_,
    fun row hrow p hp => ?_⟩
  · refine Forgone.kept (h.called sid p ?_) hk hgrow
    rw [hhistory] at hcall
    rcases List.mem_append.mp hcall with hcall | hcall
    · exact nomatch hcharge _ hcall
    · exact hcall
  · refine Forgone.kept (h.refunded row ?_ p hp) hk hgrow
    rw [hledger] at hrow
    rcases List.mem_append.mp hrow with hrow | hrow
    · exact hrow
    · rw [LedgerRow.anomalyPayment?, payment?_eq_none (hrows row hrow).1] at hp
      exact nomatch hp
  · rcases hstep.capture_rows hrow hp with hrow | hnew
    · exact (h.won row hrow p hp).kept hk
    · exact hnew

variable (orderOf)

def winnerExtension (env : Env) : Extension (ordersOutline env) (WinnerSafe orderOf) where
  allowed := fun _ _ hok => hok.1.fresh
  inv := WinnersKept orderOf
  task := taskInformed orderOf
  job := fun _ _ _ => True
  taskRel := fun w w' => Steady w.db.attempts w'.db.attempts
  jobRel := fun w w' => Steady w.db.attempts w'.db.attempts
  task_done := fun _ => taskInformed_plain plain_done
  job_done := fun _ _ => trivial
  taskStep := by
    intro s a c w' next hinv ht hkept hinformed hmove hok h _ _
    exact ⟨hkept.task h hmove hok hinv.1 ht.1 ht.2 hinformed, TaskStep.steady h,
      TaskStep.informed h hmove hok hinv.1 ht.1 ht.2 hinformed⟩
  jobStep := by
    intro s a k c w' next hinv hj hkept _ hmove hok h _ _
    exact ⟨hkept.job h hmove hok hinv.2 hj.2, JobStep.steady h, trivial⟩
  task_stable := by
    intro w w' t _ _ _ hinformed hrel
    refine taskInformed_next rfl ?_
    have hof := hinformed t rfl
    rcases hrel with ⟨⟨hp, hsame⟩, hsteady⟩ | ⟨⟨hp, hgrow⟩, hsteady⟩
    · exact hof.kept hp.attempts (fun id orderId => (hsame id orderId).mpr) hsteady
    · exact hof.kept hp.attempts hgrow hsteady
  job_stable := fun _ _ _ _ _ _ _ _ _ _ => trivial

/-- The invariants of the books, of the orders, and of what the compensator refunds. -/
def winnerOutline (env : Env) : Outline (facilitatorSpec env) (WinnerSafe orderOf) :=
  (winnerExtension orderOf env).outline

theorem winnersKept_initial : WinnersKept orderOf World.initial where
  own := fun _ h => absurd h List.not_mem_nil
  called := fun _ _ h => absurd h List.not_mem_nil
  refunded := fun _ h => absurd h List.not_mem_nil
  won := fun _ h => absurd h List.not_mem_nil

variable {orderOf}

/-- **The compensator never refunds the winning payment**, in the runs in which no reconcile call is
    answered with the payment its attempt has been captured with since it was read. -/
theorem winner_never_refunded {env : Env} {s : Sys}
    (h : Run (facilitator env) (WinnerSafe orderOf) Sys.initial s) {paymentId : JsString}
    (hwon : WonBy s.world paymentId) : ¬ AnomalyRefunded s.world paymentId := by
  have hholds := (winnerOutline orderOf env).holds
    ⟨⟨sound_initial env.crypto, oneAttempt_initial⟩, winnersKept_initial orderOf⟩ h
  obtain ⟨⟨-, hone⟩, hkept⟩ := hholds.inv
  have hcaptured : CapturedWith s.world.db.attempts paymentId := by
    rcases hwon with hcaptured | ⟨row, hrow, hp⟩
    · exact hcaptured
    · exact hkept.won row hrow paymentId hp
  rintro (⟨settlementId, hcall⟩ | ⟨row, hrow, hp⟩)
  · exact (hkept.called settlementId paymentId hcall).not_captured hkept.own hone hcaptured
  · exact (hkept.refunded row hrow paymentId hp).not_captured hkept.own hone hcaptured

end

/-! ## A run -/

/-- The answered payments and order ids are of the order they are answered for. -/
def answersOwnOrder (orderOf : JsString → JsString) (s : Sys) : Act → Bool
  | .resumeTask i (.payments (.ok payments)) =>
    match s.parked[i]? with
    | some (.reconcile _ (.fetchOrderPayments _ orderId)) =>
      payments.all fun p => orderOf p.id == orderId
    | _ => true
  | .resumeJob (.checkout (.ok result)) =>
    match s.job with
    | some (_, .waiting (.checkoutPending _ _ _ orderId)) =>
      result.captured?.all fun p => orderOf p == orderId
    | _ => true
  | a => answersFreshOrder s a

theorem ownOrders_of_check {orderOf : JsString → JsString} (s : Sys) (a : Act)
    (h : answersOwnOrder orderOf s a = true) : OwnOrders orderOf s a where
  fresh := by
    intro k p orderId hmove
    refine freshOrders_of_check s a ?_ k p orderId hmove
    cases hmove
    exact h
  listed := by
    intro caller copy orderId payments hmove p hp
    cases hmove with
    | resumeTask i b t hfree ht =>
      rw [answersOwnOrder, ht] at h
      exact beq_iff_eq.mp (List.all_eq_true.mp h p hp)
  paid := by
    intro k settlement attemptNum attemptId orderId result paymentId hmove hpaid
    cases hmove with
    | resumeJob b k p hfree hjob =>
      rw [answersOwnOrder, hjob] at h
      change (result.captured?.all fun p => orderOf p == orderId) = true at h
      rw [hpaid] at h
      exact beq_iff_eq.mp h

/-- No reconcile call is answered with the payment its attempt was captured with meanwhile. -/
def answersUnpaid (s : Sys) : Act → Bool
  | .resumeTask i (.payments (.ok payments)) =>
    match s.parked[i]? with
    | some (.reconcile _ (.fetchOrderPayments copy _)) =>
      payments.getLast?.all fun latest => copy.state == .captured ||
        s.world.db.attempts.rows.all fun row => row.id != copy.id || row.state != .captured ||
          row.providerPaymentId != some latest.id
    | _ => true
  | _ => true

theorem answeredUnpaid_of_check (s : Sys) (a : Act) (h : answersUnpaid s a = true) :
    AnsweredUnpaid s a := by
  intro caller copy orderId payments latest hmove hlast _ hcopy row hrow hid hcap
  cases hmove with
  | resumeTask i b t hfree ht =>
    rw [answersUnpaid, ht] at h
    change (payments.getLast?.all fun latest => copy.state == .captured ||
      s.world.db.attempts.rows.all fun row => row.id != copy.id || row.state != .captured ||
        row.providerPaymentId != some latest.id) = true at h
    rw [hlast] at h
    rcases Bool.or_eq_true_iff.mp h with hstate | hrows
    · exact absurd (beq_iff_eq.mp hstate) hcopy
    · have hne := List.all_eq_true.mp hrows row hrow
      simpa [hid, hcap] using hne

theorem capturedWith_of_any {w : World} {paymentId : JsString}
    (h : (w.db.attempts.rows.any fun a => a.state == .captured &&
      a.providerPaymentId == some paymentId) = true) : CapturedWith w.db.attempts paymentId := by
  obtain ⟨a, ha, hrow⟩ := List.any_eq_true.mp h
  obtain ⟨hstate, hpaid⟩ := Bool.and_eq_true_iff.mp hrow
  exact ⟨a, ha, beq_iff_eq.mp hstate, beq_iff_eq.mp hpaid⟩

/-- A webhook captures the attempt, and a second one reads it captured. -/
theorem winner_never_refunded_demo : ∃ s : Sys, Reachable demoEnv s ∧ WonBy s.world (js "p1") ∧
    ¬ AnomalyRefunded s.world (js "p1") := by
  have hcheck : (runIf (facilitator demoEnv)
      (fun s a => answersOwnOrder (fun _ => js "o1") s a && answersUnpaid s a) Sys.initial
      (demoCheckout ++ demoWebhook (js "e1") ++
        [.resumeTask 0 (.payments (.ok [⟨js "p1", js "captured"⟩]))] ++ demoWebhook (js "e2") ++
        [.resumeTask 0 (.payments (.ok [⟨js "p1", js "captured"⟩]))])).any (fun s =>
      s.world.db.attempts.rows.any fun a => a.state == .captured &&
        a.providerPaymentId == some (js "p1")) = true := by
    decide +kernel
  obtain ⟨s, hs, hp⟩ := (Option.any_eq_true ..).mp hcheck
  have hrun : Run (facilitator demoEnv) (WinnerSafe fun _ => js "o1") Sys.initial s :=
    Run.of_runIf (fun s a h => ⟨ownOrders_of_check s a (Bool.and_eq_true_iff.mp h).1,
      answeredUnpaid_of_check s a (Bool.and_eq_true_iff.mp h).2⟩) hs
  have hwon : WonBy s.world (js "p1") := Or.inl (capturedWith_of_any hp)
  exact ⟨s, hrun.any, hwon, winner_never_refunded hrun hwon⟩

/-- Two webhooks for one order: the first captures the payment, the second refunds it. -/
theorem winning_payment_refunded : ¬ ∀ (env : Env) (orderOf : JsString → JsString) (s : Sys)
    (paymentId : JsString), Run (facilitator env) (OwnOrders orderOf) Sys.initial s →
      WonBy s.world paymentId → ¬ AnomalyRefunded s.world paymentId := by
  intro hclaim
  have hcheck : (runIf (facilitator demoEnv) (answersOwnOrder fun _ => js "o1") Sys.initial
      (demoCheckout ++ demoWebhook (js "e1") ++ demoWebhook (js "e2") ++
        [.resumeTask 0 (.payments (.ok [⟨js "p1", js "captured"⟩])),
          .resumeTask 0 (.payments (.ok [⟨js "p1", js "captured"⟩]))])).any (fun s =>
      (s.world.db.attempts.rows.any fun a => a.state == .captured &&
        a.providerPaymentId == some (js "p1")) &&
      s.world.history.contains (.refundPayment .anomaly (js "s1") (js "p1"))) = true := by
    decide +kernel
  obtain ⟨s, hs, hp⟩ := (Option.any_eq_true ..).mp hcheck
  obtain ⟨hwon, hcall⟩ := Bool.and_eq_true_iff.mp hp
  exact hclaim demoEnv _ s (js "p1") (Run.of_runIf ownOrders_of_check hs)
    (Or.inl (capturedWith_of_any hwon)) (Or.inl ⟨js "s1", List.contains_iff_mem.mp hcall⟩)

end Hundi
