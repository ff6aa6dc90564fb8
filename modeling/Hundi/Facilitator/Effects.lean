/-
  What each transaction of the facilitator does, one specification a function.

  Every specification says what a successful call wrote and how the tables hang together
  afterwards; whoever uses one never unfolds the function.  `Books` is the part of the world the
  results are about: mandates, settlements, attempts, approvals, the ledger, and the history.
-/
import Hundi.Facilitator.Routes

namespace Hundi

open Js

/-- The part of the world the results are about. -/
structure Books where
  mandates : Mandates
  settlements : Settlements
  attempts : Attempts
  approvals : Approvals
  ledger : List LedgerRow
  history : List Event

def World.books (w : World) : Books :=
  ⟨w.db.mandates, w.db.settlements, w.db.attempts, w.db.approvals, w.db.ledger, w.history⟩

/-- Event types that record neither a capture nor a refund, and neither the failure of an attempt
    nor the approval, rejection or abandonment of a settlement. -/
def LedgerEventType.incidental : LedgerEventType → Bool
  | .payment_captured | .anomaly_refund_issued | .refund_issued => false
  | .payment_failed => false
  | .verify_passed | .approval_granted => false
  | .verify_rejected | .approval_rejected | .approval_expired | .settlement_abandoned => false
  | _ => true

def Incidental (l : List LedgerRow) : Prop := ∀ r ∈ l, r.eventType.incidental = true

theorem incidental_nil : Incidental [] := nofun

theorem incidental_one {row : LedgerRow} (h : row.eventType.incidental = true) : Incidental [row] :=
  fun r hr => by rw [List.mem_singleton] at hr; rw [hr]; exact h

/-- An append of an incidental row. -/
theorem appendLedger_incidental {crypto : Crypto} {now : Int} {db db' : Db}
    {input : AppendLedgerInput} (h : appendLedger crypto now db input = .ok db')
    (hi : input.eventType.incidental = true) :
    ∃ l, Incidental l ∧ db' = { db with ledger := db.ledger ++ l } := by
  obtain ⟨row, hrec, rfl⟩ := appendLedger_ok h
  exact ⟨[row], incidental_one (by rw [hrec.eventType]; exact hi), rfl⟩

/-- One ledger row, of the given type, that names a settlement. -/
def Logs (l : List LedgerRow) (eventType : LedgerEventType) (settlementId : JsString) : Prop :=
  ∃ row, l = [row] ∧ row.eventType = eventType ∧ row.settlementId = some settlementId

/-- An append for a settlement. -/
theorem appendLedger_logs {crypto : Crypto} {now : Int} {db db' : Db} {input : AppendLedgerInput}
    {settlementId : JsString} (h : appendLedger crypto now db input = .ok db')
    (hid : input.settlementId = some settlementId) :
    ∃ l, Logs l input.eventType settlementId ∧ db' = { db with ledger := db.ledger ++ l } := by
  obtain ⟨row, hrec, rfl⟩ := appendLedger_ok h
  exact ⟨[row], ⟨row, rfl, hrec.eventType, hrec.settlementId.trans hid⟩, rfl⟩

/-- The attempt a ledger row names. -/
def LedgerRow.attemptId? (row : LedgerRow) : Option JsString :=
  (row.payload.get? (js "attempt_id")).bind JsonValue.str?

/-- One `payment_failed` row that names an attempt. -/
def LogsFailure (l : List LedgerRow) (attemptId : JsString) : Prop :=
  ∃ row, l = [row] ∧ row.eventType = .payment_failed ∧ row.attemptId? = some attemptId

theorem Incidental.eventType_ne {l : List LedgerRow} (hl : Incidental l) {e : LedgerEventType}
    (he : e.incidental = false) : ∀ row ∈ l, row.eventType ≠ e := by
  rintro row hrow rfl
  rw [hl row hrow] at he
  exact nomatch he

theorem Logs.eventType_ne {l : List LedgerRow} {e e' : LedgerEventType} {settlementId : JsString}
    (hl : Logs l e settlementId) (he : e ≠ e') : ∀ row ∈ l, row.eventType ≠ e' := by
  obtain ⟨row, rfl, hevent, -⟩ := hl
  intro r hr
  rw [List.mem_singleton.mp hr, hevent]
  exact he

theorem LogsFailure.eventType_ne {l : List LedgerRow} {attemptId : JsString}
    (hl : LogsFailure l attemptId) {e : LedgerEventType} (he : .payment_failed ≠ e) :
    ∀ row ∈ l, row.eventType ≠ e := by
  obtain ⟨row, rfl, hevent, -⟩ := hl
  intro r hr
  rw [List.mem_singleton.mp hr, hevent]
  exact he

/-- An append of a failed attempt; its payload begins with the attempt's id. -/
theorem appendLedger_failure {crypto : Crypto} {now : Int} {db db' : Db}
    {settlementId attemptId : JsString} {rest : List (JsString × JsonValue)}
    (h : appendLedger crypto now db ⟨.payment_failed, some settlementId, js "facilitator",
      (js "attempt_id", .str attemptId) :: rest⟩ = .ok db') :
    ∃ l, LogsFailure l attemptId ∧ db' = { db with ledger := db.ledger ++ l } := by
  obtain ⟨row, hrec, rfl⟩ := appendLedger_ok h
  refine ⟨[row], ⟨row, rfl, hrec.eventType, ?_⟩, rfl⟩
  rw [LedgerRow.attemptId?, hrec.payload]
  rfl

/-! ## Attempts -/

/-- One attempt was added. -/
structure AttemptAdded (t t' : Attempts) (row : AttemptRow) : Prop where
  fresh : ∀ r ∈ t.rows, r.id ≠ row.id
  mem_iff : ∀ r, r ∈ t'.rows ↔ r ∈ t.rows ∨ r = row

theorem insertAttempt_ok {db db' : Db} {row : AttemptRow} (h : insertAttempt db row = .ok db') :
    AttemptAdded db.attempts db'.attempts row ∧ db' = { db with attempts := db'.attempts } := by
  unfold insertAttempt at h
  split at h
  · rename_i attempts hins
    obtain rfl := Except.ok.inj h
    refine ⟨⟨fun r hr hid => ?_, fun r => Table.mem_insert? hins⟩, rfl⟩
    have hclash := (Table.insert?_eq_some hins).2 r hr
    simp [AttemptRow.clash, hid] at hclash
  · cases h

theorem initiateAttempt_ok {crypto : Crypto} {now : Int} {db db' : Db}
    {settlementId attemptId receipt : JsString} {attemptNum : Nat}
    (h : initiateAttempt crypto now db settlementId attemptNum attemptId receipt = .ok db') :
    ∃ l, Incidental l ∧ AttemptAdded db.attempts db'.attempts
        (newAttempt now attemptId settlementId .checkout_driver .initiated receipt none) ∧
      db' = { db with attempts := db'.attempts, ledger := db.ledger ++ l } := by
  unfold initiateAttempt at h
  rw [bind_eq_ok] at h
  obtain ⟨db₁, h₁, h⟩ := h
  obtain ⟨hadd, hf⟩ := insertAttempt_ok h₁
  obtain ⟨l, hl, rfl⟩ := appendLedger_incidental h rfl
  exact ⟨l, hl, hadd, by rw [hf]⟩

/-- An attempt in state `src` was failed, or was found stale and left. -/
def AttemptFailed (now : Int) (t t' : Attempts) (attemptId : JsString) (src : AttemptState) : Prop :=
  (t' = t ∧ ∀ row ∈ t.rows, row.id = attemptId → row.state ≠ src) ∨
  ∃ row, row.id = attemptId ∧ AttemptMoved now t t' row src .failed

theorem failAttempt_ok {crypto : Crypto} {now : Int} {db db' : Db}
    {attemptId settlementId reason : JsString} {src : AttemptState}
    (h : failAttempt crypto now db attemptId settlementId src reason = .ok db') :
    db' = db ∨ ∃ l row, LogsFailure l row.id ∧ row.id = attemptId ∧
      AttemptMoved now db.attempts db'.attempts row src .failed ∧
      db' = { db with attempts := db'.attempts, ledger := db.ledger ++ l } := by
  unfold failAttempt at h
  rw [bind_eq_ok] at h
  obtain ⟨moved, hc, h⟩ := h
  cases moved with
  | none => exact Or.inl (Except.ok.inj h).symm
  | some db₁ =>
    obtain ⟨row, rfl, hm, hf⟩ := transitionAttempt_ok (catchStale_some hc)
    obtain ⟨l, hl, rfl⟩ := appendLedger_failure h
    exact Or.inr ⟨l, row, hl, rfl, hm, by rw [hf]⟩

theorem orderCreateFailed_ok {crypto : Crypto} {now : Int} {db db' : Db}
    {settlementId attemptId : JsString} {err : Exn}
    (h : orderCreateFailed crypto now db settlementId attemptId err = .ok db') :
    ∃ l row, LogsFailure l row.id ∧ row.id = attemptId ∧
      AttemptMoved now db.attempts db'.attempts row .initiated .failed ∧
      db' = { db with attempts := db'.attempts, ledger := db.ledger ++ l } := by
  unfold orderCreateFailed at h
  rw [bind_eq_ok] at h
  obtain ⟨db₁, h₁, h⟩ := h
  obtain ⟨row, rfl, hm, hf⟩ := transitionAttempt_ok h₁
  obtain ⟨l, hl, rfl⟩ := appendLedger_failure h
  exact ⟨l, row, hl, rfl, hm, by rw [hf]⟩

theorem checkoutFailed_ok {crypto : Crypto} {now : Int} {db db' : Db}
    {settlementId attemptId providerOrderId : JsString} {result : SettleViaCheckoutResult}
    (h : checkoutFailed crypto now db settlementId attemptId providerOrderId result = .ok db') :
    ∃ l, LogsFailure l attemptId ∧ AttemptFailed now db.attempts db'.attempts attemptId .initiated ∧
      db' = { db with attempts := db'.attempts, ledger := db.ledger ++ l } := by
  unfold checkoutFailed at h
  rw [bind_eq_ok] at h
  obtain ⟨moved, hc, h⟩ := h
  cases moved with
  | none =>
    obtain ⟨i, s, d, hstale⟩ := catchStale_none hc
    simp only [pure_bind] at h
    obtain ⟨l, hl, rfl⟩ := appendLedger_failure h
    exact ⟨l, hl, Or.inl ⟨rfl, transitionAttempt_stale hstale⟩, rfl⟩
  | some db₁ =>
    obtain ⟨row, hid, hm, hf⟩ := transitionAttempt_ok (catchStale_some hc)
    simp only [pure_bind] at h
    obtain ⟨l, hl, rfl⟩ := appendLedger_failure h
    exact ⟨l, hl, Or.inr ⟨row, hid, hm⟩, by rw [hf]⟩

theorem supersedeIfActive_ok {now : Int} {db db' : Db} {attemptId : JsString}
    (h : supersedeIfActive now db attemptId = .ok db') :
    db' = db ∨ ∃ row, row.id = attemptId ∧
      AttemptMoved now db.attempts db'.attempts row row.state .superseded ∧
      db' = { db with attempts := db'.attempts } := by
  unfold supersedeIfActive at h
  split at h
  · exact Or.inl (Except.ok.inj h).symm
  rename_i row hrow
  split at h
  · exact Or.inl (Except.ok.inj h).symm
  rw [bind_eq_ok] at h
  obtain ⟨moved, hc, h⟩ := h
  cases moved with
  | none => exact Or.inl (Except.ok.inj h).symm
  | some db₁ =>
    obtain rfl := Except.ok.inj h
    obtain ⟨r, hid, hm, hf⟩ := transitionAttempt_ok (catchStale_some hc)
    refine Or.inr ⟨r, hid, ?_, hf⟩
    rw [hm.state]
    exact hm

/-- A payment link was recorded: an active last attempt is superseded, the link attempt added. -/
structure LinkIssued (now : Int) (t t' : Attempts) (lastAttemptId : JsString) (link : AttemptRow) :
    Prop where
  superseded : ∃ t₁, (t₁ = t ∨ ∃ row, row.id = lastAttemptId ∧
    AttemptMoved now t t₁ row row.state .superseded) ∧ AttemptAdded t₁ t' link

theorem issuePaymentLink_ok {crypto : Crypto} {now : Int} {db db' : Db}
    {settlementId lastAttemptId linkAttemptId receipt linkId shortUrl : JsString}
    (h : issuePaymentLink crypto now db settlementId lastAttemptId linkAttemptId receipt linkId
      shortUrl = .ok db') :
    ∃ l, Incidental l ∧ LinkIssued now db.attempts db'.attempts lastAttemptId
        (newAttempt now linkAttemptId settlementId .payment_link .awaiting_confirmation receipt
          (some linkId)) ∧
      db' = { db with attempts := db'.attempts, ledger := db.ledger ++ l } := by
  unfold issuePaymentLink at h
  rw [bind_eq_ok] at h
  obtain ⟨db₁, h₁, h⟩ := h
  rw [bind_eq_ok] at h
  obtain ⟨db₂, h₂, h⟩ := h
  obtain ⟨hadd, hf₂⟩ := insertAttempt_ok h₂
  obtain ⟨l, hl, rfl⟩ := appendLedger_incidental h rfl
  rcases supersedeIfActive_ok h₁ with rfl | ⟨row, hid, hm, hf₁⟩
  · exact ⟨l, hl, ⟨_, Or.inl rfl, hadd⟩, by rw [hf₂]⟩
  · exact ⟨l, hl, ⟨_, Or.inr ⟨row, hid, hm⟩, hadd⟩, by rw [hf₂, hf₁]⟩

/-- The order id was written to one attempt. -/
def OrderIdSet (now : Int) (t t' : Attempts) (attemptId providerOrderId : JsString) : Prop :=
  ∀ r, r ∈ t'.rows ↔
    (∃ r₀ ∈ t.rows, r₀.id = attemptId ∧
      r = { r₀ with providerOrderId := some providerOrderId, updatedAt := now }) ∨
    (r ∈ t.rows ∧ r.id ≠ attemptId)

theorem setOrderId_ok {now : Int} {db db' : Db} {attemptId providerOrderId : JsString}
    (h : setOrderId now db attemptId providerOrderId = .ok db') :
    OrderIdSet now db.attempts db'.attempts attemptId providerOrderId ∧
      db' = { db with attempts := db'.attempts } := by
  unfold setOrderId at h
  split at h
  · rename_i attempts hu
    obtain rfl := Except.ok.inj h
    refine ⟨fun r => ?_, rfl⟩
    rw [Table.mem_update? hu]
    simp only [beq_iff_eq, beq_eq_false_iff_ne]
  · exact nomatch h

/-! ## Capture -/

/-- The row of a captured attempt. -/
def AttemptRow.capture (row : AttemptRow) (now : Int) (paymentId : JsString) : AttemptRow :=
  { row with state := .captured, providerPaymentId := some paymentId, updatedAt := now }

/-- One attempt, in state `src`, was captured by a payment. -/
structure AttemptCaptured (now : Int) (t t' : Attempts) (row : AttemptRow) (src : AttemptState)
    (paymentId : JsString) : Prop where
  mem : row ∈ t.rows
  state : row.state = src
  active : row.state.active = true
  mem_iff : ∀ r, r ∈ t'.rows ↔ r = row.capture now paymentId ∨ (r ∈ t.rows ∧ r.id ≠ row.id)

theorem setPaymentId_ok {now : Int} {db db₁ db₂ : Db} {row : AttemptRow} {src : AttemptState}
    {paymentId : JsString}
    (hm : AttemptMoved now db.attempts db₁.attempts row src .captured)
    (h : setPaymentId now db₁ row.id paymentId = .ok db₂) :
    AttemptCaptured now db.attempts db₂.attempts row src paymentId ∧
      db₂ = { db₁ with attempts := db₂.attempts } := by
  unfold setPaymentId at h
  split at h
  · rename_i attempts hu
    obtain rfl := Except.ok.inj h
    refine ⟨⟨hm.mem, hm.state, hm.active, fun r => ?_⟩, rfl⟩
    rw [Table.mem_update? hu]
    simp only [hm.mem_iff, beq_iff_eq, beq_eq_false_iff_ne]
    constructor
    · rintro (⟨r₀, rfl | ⟨-, hne⟩, hid, rfl⟩ | ⟨rfl | hr, hne⟩)
      · exact Or.inl rfl
      · exact absurd hid hne
      · exact absurd rfl hne
      · exact Or.inr ⟨hr.1, hne⟩
    · rintro (rfl | ⟨hr, hne⟩)
      · exact Or.inl ⟨_, Or.inl rfl, rfl, rfl⟩
      · exact Or.inr ⟨Or.inr ⟨hr, hne⟩, hne⟩
  · exact nomatch h

/-- What a capture does: the attempt, the settlement, and one ledger row. -/
theorem applyCapture_true {crypto : Crypto} {now : Int} {db db' : Db}
    {attemptId settlementId paymentId : JsString} {src : AttemptState}
    {providerOrderId : Option JsString}
    (h : applyCapture crypto now db attemptId src settlementId providerOrderId paymentId
      = .ok (db', true)) :
    ∃ attempt settlement lrow, attempt.id = attemptId ∧ settlement.id = settlementId ∧
      AttemptCaptured now db.attempts db'.attempts attempt src paymentId ∧
      SettlementMoved now db.settlements db'.settlements settlement .settling .captured none ∧
      lrow.Records ⟨.payment_captured, some settlementId, js "facilitator",
        capturePayload attemptId paymentId providerOrderId⟩ ∧
      db' = { db with attempts := db'.attempts, settlements := db'.settlements,
                      ledger := db.ledger ++ [lrow] } := by
  unfold applyCapture at h
  rw [bind_eq_ok] at h
  obtain ⟨moved, hc, h⟩ := h
  cases moved with
  | none => exact nomatch (Prod.mk.inj (Except.ok.inj h)).2
  | some db₁ =>
    obtain ⟨attempt, rfl, hm, hf₁⟩ := transitionAttempt_ok (catchStale_some hc)
    simp only at h
    rw [bind_eq_ok] at h
    obtain ⟨db₂, h₂, h⟩ := h
    obtain ⟨hcap, hf₂⟩ := setPaymentId_ok hm h₂
    rw [bind_eq_ok] at h
    obtain ⟨moved, hc₂, h⟩ := h
    cases moved with
    | none => exact nomatch (Prod.mk.inj (Except.ok.inj h)).2
    | some db₃ =>
      obtain ⟨settlement, hsid, hsm, hf₃⟩ := transitionSettlement_ok (catchStale_some hc₂)
      simp only at h
      rw [bind_eq_ok] at h
      obtain ⟨db₄, h₄, h⟩ := h
      obtain ⟨lrow, hrec, rfl⟩ := appendLedger_ok h₄
      obtain ⟨rfl, -⟩ := Prod.mk.inj (Except.ok.inj h)
      rw [hf₃, hf₂, hf₁] at hsm ⊢
      exact ⟨attempt, settlement, lrow, rfl, hsid, hcap, hsm, hrec, rfl⟩

/-- How a capture loses its race: the attempt is gone and nothing is written, or the attempt is
    captured and the settlement is not `settling`. -/
theorem applyCapture_false {crypto : Crypto} {now : Int} {db db' : Db}
    {attemptId settlementId paymentId : JsString} {src : AttemptState}
    {providerOrderId : Option JsString}
    (h : applyCapture crypto now db attemptId src settlementId providerOrderId paymentId
      = .ok (db', false)) :
    (db' = db ∧ ∀ row ∈ db.attempts.rows, row.id = attemptId → row.state ≠ src) ∨
    ∃ attempt, attempt.id = attemptId ∧
      AttemptCaptured now db.attempts db'.attempts attempt src paymentId ∧
      (∀ row ∈ db.settlements.rows, row.id = settlementId → row.state ≠ .settling) ∧
      db' = { db with attempts := db'.attempts } := by
  unfold applyCapture at h
  rw [bind_eq_ok] at h
  obtain ⟨moved, hc, h⟩ := h
  cases moved with
  | none =>
    obtain ⟨rfl, -⟩ := Prod.mk.inj (Except.ok.inj h)
    obtain ⟨i, s, d, hstale⟩ := catchStale_none hc
    exact Or.inl ⟨rfl, transitionAttempt_stale hstale⟩
  | some db₁ =>
    obtain ⟨attempt, rfl, hm, hf₁⟩ := transitionAttempt_ok (catchStale_some hc)
    simp only at h
    rw [bind_eq_ok] at h
    obtain ⟨db₂, h₂, h⟩ := h
    obtain ⟨hcap, hf₂⟩ := setPaymentId_ok hm h₂
    rw [bind_eq_ok] at h
    obtain ⟨moved, hc₂, h⟩ := h
    cases moved with
    | none =>
      obtain ⟨rfl, -⟩ := Prod.mk.inj (Except.ok.inj h)
      obtain ⟨i, s, d, hstale⟩ := catchStale_none hc₂
      have hgone := transitionSettlement_stale hstale
      rw [hf₂, hf₁] at hgone
      refine Or.inr ⟨attempt, rfl, hcap, hgone, ?_⟩
      rw [hf₂, hf₁]
    | some db₃ =>
      simp only at h
      rw [bind_eq_ok] at h
      obtain ⟨db₄, h₄, h⟩ := h
      exact nomatch (Prod.mk.inj (Except.ok.inj h)).2

/-! ## Settlements -/

theorem abandonSettlement_ok {crypto : Crypto} {now : Int} {db db' : Db} {id reason : JsString}
    {src : SettlementState} {eventType : LedgerEventType}
    (h : abandonSettlement crypto now db id src eventType reason = .ok db') :
    (db' = db ∧ ∀ row ∈ db.settlements.rows, row.id = id → row.state ≠ src) ∨
    ∃ l row, Logs l eventType row.id ∧ row.id = id ∧
      SettlementMoved now db.settlements db'.settlements row src .abandoned none ∧
      db' = { db with settlements := db'.settlements, ledger := db.ledger ++ l } := by
  unfold abandonSettlement at h
  rw [bind_eq_ok] at h
  obtain ⟨moved, hc, h⟩ := h
  cases moved with
  | none =>
    obtain rfl := Except.ok.inj h
    obtain ⟨i, s, d, hstale⟩ := catchStale_none hc
    exact Or.inl ⟨rfl, transitionSettlement_stale hstale⟩
  | some db₁ =>
    obtain ⟨row, rfl, hm, hf⟩ := transitionSettlement_ok (catchStale_some hc)
    obtain ⟨l, hl, rfl⟩ := appendLedger_logs h rfl
    exact Or.inr ⟨l, row, hl, rfl, hm, by rw [hf]⟩

/-- The rows of a table, one of them with its kick count raised. -/
def KickBumped (t t' : Settlements) (id : JsString) : Prop :=
  t.update? (fun row => row.id == id && row.state == .approved)
    (fun row => { row with kickCount := row.kickCount + 1 }) = some t'

theorem bumpKickCount_ok {db db' : Db} {id : JsString} {bumped : Bool}
    (h : bumpKickCount db id = .ok (db', bumped)) :
    KickBumped db.settlements db'.settlements id ∧ db' = { db with settlements := db'.settlements } := by
  unfold bumpKickCount at h
  simp only at h
  split at h
  · rename_i settlements hu
    obtain ⟨rfl, -⟩ := Prod.mk.inj (Except.ok.inj h)
    exact ⟨hu, rfl⟩
  · exact nomatch h

theorem rejectApproved_ok {crypto : Crypto} {now : Int} {db db' : Db} {settlementId : JsString}
    {reason : RejectionCode} {detail : Option JsString} {out : ReverifyOutcome}
    (h : rejectApproved crypto now db settlementId reason detail = .ok (db', out)) :
    (db' = db ∧ out = .stale) ∨
    ∃ l row, Logs l .verify_rejected row.id ∧ row.id = settlementId ∧
      SettlementMoved now db.settlements db'.settlements row .approved .rejected (some reason.text) ∧
      db' = { db with settlements := db'.settlements, ledger := db.ledger ++ l } ∧
      out = .rejected reason := by
  unfold rejectApproved at h
  rw [bind_eq_ok] at h
  obtain ⟨moved, hc, h⟩ := h
  cases moved with
  | none =>
    obtain ⟨rfl, rfl⟩ := Prod.mk.inj (Except.ok.inj h)
    exact Or.inl ⟨rfl, rfl⟩
  | some db₁ =>
    obtain ⟨row, rfl, hm, hf⟩ := transitionSettlement_ok (catchStale_some hc)
    simp only at h
    rw [bind_eq_ok] at h
    obtain ⟨db₂, h₂, h⟩ := h
    obtain ⟨l, hl, rfl⟩ := appendLedger_logs h₂ rfl
    obtain ⟨rfl, rfl⟩ := Prod.mk.inj (Except.ok.inj h)
    exact Or.inr ⟨l, row, hl, rfl, hm, by rw [hf], rfl⟩

/-- **What entering `settling` passed through**: the gate, run in the same transaction on the
    stored intent and the stored cart. -/
structure Reverified (crypto : Crypto) (db : Db) (now : Int) (row : SettlementRow)
    (mandateRow : MandateRow) (ctx : VerifyCtx) : Prop where
  mandate : getMandateRow db row.mandateId = some mandateRow
  read : ctx.ReadFrom db mandateRow.intent row.cart now
  hash : computeMandateCartHash crypto mandateRow.intent row.cart = .ok row.mandateCartHashHex
  accepted : ∃ approval, Accepted crypto mandateRow.intent row.cart ctx approval

/-- The gate, run again on the stored intent and the stored cart, refuses the settlement. -/
structure Refused (crypto : Crypto) (db : Db) (now : Int) (row : SettlementRow)
    (reason : RejectionCode) : Prop where
  refused : ∃ mandateRow ctx hash, getMandateRow db row.mandateId = some mandateRow ∧
    buildVerifyCtx crypto db mandateRow.intent row.cart now (some row.id) = .ok (ctx, hash) ∧
    ((hash ≠ row.mandateCartHashHex ∧ reason = .HASH_LINK_MISMATCH) ∨
      ∃ detail, verifyChain crypto mandateRow.intent row.cart ctx = .ok (.fail reason detail))

theorem reverifyAndEnterSettling_ok {crypto : Crypto} {db db' : Db} {settlementId : JsString}
    {now : Int} {out : ReverifyOutcome}
    (h : reverifyAndEnterSettling crypto db settlementId now = .ok (db', out)) :
    (db' = db ∧ out = .stale) ∨
    (∃ l row reason, Logs l .verify_rejected row.id ∧ row.id = settlementId ∧
      Refused crypto db now row reason ∧
      SettlementMoved now db.settlements db'.settlements row .approved .rejected
        (some reason.text) ∧
      db' = { db with settlements := db'.settlements, ledger := db.ledger ++ l } ∧
      out = .rejected reason) ∨
    ∃ row mandateRow ctx, row.id = settlementId ∧ Reverified crypto db now row mandateRow ctx ∧
      SettlementMoved now db.settlements db'.settlements row .approved .settling none ∧
      db' = { db with settlements := db'.settlements } ∧ out = .ok row := by
  unfold reverifyAndEnterSettling at h
  split at h
  · obtain ⟨rfl, rfl⟩ := Prod.mk.inj (Except.ok.inj h)
    exact Or.inl ⟨rfl, rfl⟩
  rename_i row hrow
  obtain ⟨hmem, hid⟩ := Table.find?_mem hrow
  rw [beq_iff_eq] at hid
  split at h
  · obtain ⟨rfl, rfl⟩ := Prod.mk.inj (Except.ok.inj h)
    exact Or.inl ⟨rfl, rfl⟩
  split at h
  · obtain ⟨rfl, rfl⟩ := Prod.mk.inj (Except.ok.inj h)
    exact Or.inl ⟨rfl, rfl⟩
  rename_i mandateRow hmandate
  simp only at h
  rw [bind_eq_ok] at h
  obtain ⟨⟨ctx, hash⟩, hctx, h⟩ := h
  obtain ⟨hread, hhash⟩ := buildVerifyCtx_ok hctx
  have hreject : ∀ {reason detail}, Refused crypto db now row reason →
      rejectApproved crypto now db settlementId reason detail = .ok (db', out) →
      (db' = db ∧ out = .stale) ∨ (∃ l row reason, Logs l .verify_rejected row.id ∧
        row.id = settlementId ∧ Refused crypto db now row reason ∧
        SettlementMoved now db.settlements db'.settlements row .approved .rejected
          (some reason.text) ∧
        db' = { db with settlements := db'.settlements, ledger := db.ledger ++ l } ∧
        out = .rejected reason) := by
    intro reason detail hrefused hr
    rcases rejectApproved_ok hr with hstale | ⟨l, r, hl, hrid, hm, hr⟩
    · exact Or.inl hstale
    · obtain rfl := settlement_eq hm.mem hmem (hrid.trans hid.symm)
      exact Or.inr ⟨l, r, reason, hl, hrid, hrefused, hm, hr⟩
  simp only at h
  rw [← hid] at hctx
  split at h
  · rename_i hne
    rcases hreject ⟨mandateRow, ctx, hash, hmandate, hctx, Or.inl ⟨hne, rfl⟩⟩ h with h | h
    · exact Or.inl h
    · exact Or.inr (Or.inl h)
  rename_i hsame
  rw [ne_eq, not_not] at hsame
  rw [bind_eq_ok] at h
  obtain ⟨result, hresult, h⟩ := h
  cases result with
  | fail reason detail =>
    rcases hreject ⟨mandateRow, ctx, hash, hmandate, hctx, Or.inr ⟨detail, hresult⟩⟩ h with h | h
    · exact Or.inl h
    · exact Or.inr (Or.inl h)
  | ok approval hash' =>
    simp only at h
    rw [bind_eq_ok] at h
    obtain ⟨moved, hc, h⟩ := h
    cases moved with
    | none =>
      obtain ⟨rfl, rfl⟩ := Prod.mk.inj (Except.ok.inj h)
      exact Or.inl ⟨rfl, rfl⟩
    | some db₁ =>
      obtain ⟨rfl, rfl⟩ := Prod.mk.inj (Except.ok.inj h)
      obtain ⟨r, hrid, hm, hf⟩ := transitionSettlement_ok (catchStale_some hc)
      obtain rfl := settlement_eq hm.mem hmem (hrid.trans hid.symm)
      refine Or.inr (Or.inr ⟨r, mandateRow, ctx, hid, ⟨hmandate, hread, ?_, approval,
        verifyChain_accepted hresult⟩, hm, hf, rfl⟩)
      rw [hhash, hsame]

/-! ## Mandates and approvals -/

/-- A mandate was registered: admitted, and signed under the credential it came with. -/
structure MandateAdded (crypto : Crypto) (t t' : Mandates) (row : MandateRow) : Prop where
  fresh : ∀ r ∈ t.rows, r.mandateId ≠ row.mandateId
  mem_iff : ∀ r, r ∈ t'.rows ↔ r ∈ t.rows ∨ r = row
  id : row.mandateId = row.intent.mandateId
  hash : ∃ bytes, intentSigningBytes row.intent = .ok bytes ∧
    row.intentHashHex = crypto.sha256Hex bytes ∧
    verifyMandateSignature crypto bytes row.intent.sig row.credential = .ok true
  active : row.revokedAt = none

theorem registerMandate_ok {env : Env} {now : Int} {db db' : Db} {intent : IntentMandate}
    {credential : Credential} {ceremonyToken : JsString}
    (h : registerMandate env now db intent credential ceremonyToken = .ok db') :
    ∃ l row tokens, Incidental l ∧ row.intent = intent ∧
      MandateAdded env.crypto db.mandates db'.mandates row ∧
      db' = { db with mandates := db'.mandates, ceremonyTokens := tokens,
                      ledger := db.ledger ++ l } := by
  unfold registerMandate at h
  simp only at h
  split at h
  · exact nomatch h
  split at h
  · exact nomatch h
  rename_i tokens _
  rw [bind_eq_ok] at h
  obtain ⟨bytes, hbytes, h⟩ := h
  rw [bind_eq_ok] at h
  obtain ⟨signed, hsigned, h⟩ := h
  split at h
  · exact nomatch h
  rename_i hs
  split at h
  · exact nomatch h
  rename_i mandates hins
  obtain ⟨l, hl, rfl⟩ := appendLedger_incidental h rfl
  have hsTrue : signed = true := by simpa using hs
  rw [hsTrue] at hsigned
  refine ⟨l, _, tokens, hl, rfl, ⟨fun r hr hid => ?_, fun r => Table.mem_insert? hins, rfl,
    ⟨bytes, hbytes, rfl, hsigned⟩, rfl⟩, rfl⟩
  have hclash := (Table.insert?_eq_some hins).2 r hr
  simp [MandateRow.clash, hid] at hclash

/-- A mandate was revoked. -/
def MandateRevoked (now : Int) (t t' : Mandates) (mandateId : JsString) : Prop :=
  ∀ r, r ∈ t'.rows ↔
    (∃ r₀ ∈ t.rows, r₀.mandateId = mandateId ∧ r = { r₀ with revokedAt := some now }) ∨
    (r ∈ t.rows ∧ r.mandateId ≠ mandateId)

theorem revokeMandate_ok {env : Env} {now : Int} {db db' : Db} {mandateId : JsString}
    {sig : SigEnvelope} (h : revokeMandate env now db mandateId sig = .ok db') :
    db' = db ∨ ∃ l, Incidental l ∧ MandateRevoked now db.mandates db'.mandates mandateId ∧
      db' = { db with mandates := db'.mandates, ledger := db.ledger ++ l } := by
  unfold revokeMandate at h
  split at h
  · exact nomatch h
  rw [bind_eq_ok] at h
  obtain ⟨bytes, -, h⟩ := h
  rw [bind_eq_ok] at h
  obtain ⟨signed, -, h⟩ := h
  split at h
  · exact nomatch h
  split at h
  · exact Or.inl (Except.ok.inj h).symm
  split at h
  · exact nomatch h
  rename_i mandates hu
  obtain ⟨l, hl, rfl⟩ := appendLedger_incidental h rfl
  refine Or.inr ⟨l, hl, fun r => ?_, rfl⟩
  rw [Table.mem_update? hu]
  simp only [beq_iff_eq, beq_eq_false_iff_ne]

/-- The decision on a settlement, signed under the mandate's registered credential over the hash
    of the stored intent and cart. -/
structure SignedDecision (crypto : Crypto) (row : SettlementRow) (mandateRow : MandateRow)
    (approval : ApprovalRow) : Prop where
  settlementId : approval.settlementId = row.id
  hash : computeMandateCartHash crypto mandateRow.intent row.cart = .ok approval.mandateCartHashHex
  signed : ∃ bytes,
    canonicalJson (approvalValue row.id approval.mandateCartHashHex approval.decision) = .ok bytes ∧
    verifyMandateSignature crypto bytes approval.sig mandateRow.credential = .ok true

/-- The ledger row of a decision. -/
def decisionEvent : Decision → LedgerEventType
  | .approved => .approval_granted
  | .rejected => .approval_rejected

theorem decideApproval_ok {env : Env} {now : Int} {db db' : Db}
    {settlementId mandateCartHashHex : JsString} {decision : Decision} {sig : SigEnvelope}
    (h : decideApproval env now db settlementId mandateCartHashHex decision sig = .ok db') :
    ∃ l row mandateRow approval rejectReason,
      Logs l (decisionEvent decision) row.id ∧ row.id = settlementId ∧
      approval.decision = decision ∧
      getMandateRow db row.mandateId = some mandateRow ∧
      SignedDecision env.crypto row mandateRow approval ∧
      (∀ r, r ∈ db'.approvals.rows ↔ r ∈ db.approvals.rows ∨ r = approval) ∧
      SettlementMoved now db.settlements db'.settlements row .pending_approval decision.toState
        rejectReason ∧
      db' = { db with settlements := db'.settlements, approvals := db'.approvals,
                      ledger := db.ledger ++ l } := by
  unfold decideApproval at h
  split at h
  · exact nomatch h
  rename_i row hrow
  obtain ⟨hmem, hid⟩ := Table.find?_mem hrow
  rw [beq_iff_eq] at hid
  split at h
  · exact nomatch h
  rename_i mandateRow hmandate
  rw [bind_eq_ok] at h
  obtain ⟨bytes, hbytes, h⟩ := h
  rw [bind_eq_ok] at h
  obtain ⟨signed, hsigned, h⟩ := h
  split at h
  · exact nomatch h
  rename_i hs
  have hsTrue : signed = true := by simpa using hs
  rw [hsTrue] at hsigned
  simp only at h
  rw [bind_eq_ok] at h
  obtain ⟨recomputed, hrecomputed, h⟩ := h
  split at h
  · exact nomatch h
  rename_i hsame
  rw [ne_eq, not_not] at hsame
  rw [hsame] at hrecomputed
  split at h
  · exact nomatch h
  rename_i approvals hins
  rw [bind_eq_ok] at h
  obtain ⟨moved, hc, h⟩ := h
  cases moved with
  | none => exact nomatch h
  | some db₁ =>
    obtain ⟨r, hrid, hm, hf⟩ := transitionSettlement_ok (catchStale_some hc)
    obtain rfl := settlement_eq hm.mem hmem (hrid.trans hid.symm)
    obtain ⟨l, hl, rfl⟩ := appendLedger_logs h rfl
    have hevent : Logs l (decisionEvent decision) r.id := by
      rw [hid]
      cases decision <;> exact hl
    rw [hf] at hm ⊢
    refine ⟨l, r, mandateRow, _, _, hevent, hid, rfl, hmandate, ⟨hid.symm, hrecomputed, bytes, ?_,
      hsigned⟩, fun a => Table.mem_insert? hins, hm, rfl⟩
    rw [hid]
    exact hbytes

/-! ## POST /settlements -/

theorem completeIdempotencyKey_ok {db db' : Db} {key : JsString} {settlementId : Option JsString}
    {status : Nat} {body : CreateSettlementBody}
    (h : completeIdempotencyKey db key settlementId status body = .ok db') :
    ∃ keys, db' = { db with idempotencyKeys := keys } := by
  unfold completeIdempotencyKey at h
  split at h
  · exact ⟨_, (Except.ok.inj h).symm⟩
  · exact nomatch h

theorem claimIdempotencyKey_ok {now : Int} {db db' : Db} {key hash : JsString}
    {claim : IdempotencyClaim} (h : claimIdempotencyKey now db key hash = .ok (db', claim)) :
    ∃ keys, db' = { db with idempotencyKeys := keys } := by
  unfold claimIdempotencyKey at h
  split at h
  · exact ⟨_, (Prod.mk.inj (Except.ok.inj h)).1.symm⟩
  split at h
  · exact nomatch h
  split at h
  · exact ⟨_, (Prod.mk.inj (Except.ok.inj h)).1.symm⟩
  split at h
  · exact ⟨_, (Prod.mk.inj (Except.ok.inj h)).1.symm⟩
  · exact ⟨_, (Prod.mk.inj (Except.ok.inj h)).1.symm⟩

theorem settlementTransaction_ok {env : Env} {now : Int} {db db' : Db} {settlementId key : JsString}
    {intent : IntentMandate} {cart : CartMandate} {out : CreateSettlementOutcome}
    (h : settlementTransaction env now db settlementId key intent cart = .ok (db', out)) :
    (∃ keys, db' = { db with idempotencyKeys := keys } ∧ out.body.settlementId? = none) ∨
    ∃ keys l row, Logs l (creationEvent row.state) row.id ∧
      SettlementAdded db.settlements db'.settlements row ∧
      row.id = settlementId ∧ CreatedFrom env.crypto db now intent cart row ∧
      db' = { db with settlements := db'.settlements, idempotencyKeys := keys,
                      ledger := db.ledger ++ l } ∧
      out.body.settlementId? = some settlementId := by
  unfold settlementTransaction at h
  rw [bind_eq_ok] at h
  obtain ⟨⟨db₁, result⟩, h₁, h⟩ := h
  simp only at h
  rw [bind_eq_ok] at h
  obtain ⟨db₂, h₂, h⟩ := h
  obtain ⟨keys, hf₂⟩ := completeIdempotencyKey_ok h₂
  obtain ⟨rfl, rfl⟩ := Prod.mk.inj (Except.ok.inj h)
  rcases createSettlement_ok h₁ with ⟨rfl, status, code, rfl⟩ |
    ⟨row, lrow, reason, hadd, hid, hfrom, hf₁, hevent, hnames, rfl⟩
  · exact Or.inl ⟨keys, hf₂, rfl⟩
  · refine Or.inr ⟨keys, [lrow], row, ⟨lrow, rfl, hevent, hnames⟩, ?_, hid, hfrom, ?_, rfl⟩
    · rw [hf₂]
      exact hadd
    · rw [hf₂, hf₁]

theorem settlementTransaction_unstamped {env : Env} {now : Int} {db db' : Db}
    {settlementId key : JsString} {intent : IntentMandate} {cart : CartMandate}
    {out : CreateSettlementOutcome}
    (h : settlementTransaction env now db settlementId key intent cart = .ok (db', out)) :
    Unstamped db.settlements db'.settlements := by
  unfold settlementTransaction at h
  rw [bind_eq_ok] at h
  obtain ⟨⟨db₁, result⟩, h₁, h⟩ := h
  rw [bind_eq_ok] at h
  obtain ⟨db₂, h₂, h⟩ := h
  obtain ⟨keys, hf₂⟩ := completeIdempotencyKey_ok h₂
  obtain ⟨rfl, -⟩ := Prod.mk.inj (Except.ok.inj h)
  have hunstamped : Unstamped db.settlements db₁.settlements := createSettlement_unstamped h₁
  rw [hf₂]
  exact hunstamped

end Hundi
