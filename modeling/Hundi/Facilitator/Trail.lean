/-
  The trail of a transaction.

  A transaction of the program appends to the ledger, through `appendLedger` and with a payload that is
  an object JSON can carry (`Recorded`), and leaves alone three tables whose rows the ledger stands for:
  `mandates`, `ceremony_tokens` and `webhook_events`.  `Trails` says so, and every transaction but those
  that write to the three meets it.
-/
import Hundi.Core.Reparse
import Hundi.Facilitator.Invariants

namespace Hundi

open Js EventLoop

/-! ## Appended events -/

/-- A value without members of its own. -/
def flatValue : JsonValue → Bool
  | .arr _ => false
  | .obj _ => false
  | _ => true

/-- An object of flat members, each key once. -/
theorem keysOnce_flat (keys : List JsString) {ms : List (JsString × JsonValue)} (hnd : keys.Nodup)
    (hkeys : ms.map Prod.fst = keys) (hflat : (ms.all fun m => flatValue m.2) = true) : KeysOnce (.obj ms) := by
  refine ⟨by rw [hkeys]; exact hnd, ?_⟩
  clear hkeys hnd
  induction ms with
  | nil => trivial
  | cons m ms ih =>
    obtain ⟨k, v⟩ := m
    rw [List.all_cons, Bool.and_eq_true] at hflat
    refine ⟨?_, ih hflat.2⟩
    have hv := hflat.1
    cases v with
    | arr xs => cases hv
    | obj ns => cases hv
    | _ => trivial

/-- Events that are not about mandates, and do not claim a webhook event. -/
def LedgerEventType.routine : LedgerEventType → Bool
  | .mandate_registered | .mandate_revoked | .webhook_received => false
  | _ => true

/-- The ledger `l` with the rows of some calls of `appendLedger` at its end, for events of some types. -/
inductive Recorded (crypto : Crypto) (types : LedgerEventType → Bool) (l : List LedgerRow) :
    List LedgerRow → Prop where
  | refl : Recorded crypto types l l
  | append {now : Int} {db db' : Db} {input : AppendLedgerInput} (h : Recorded crypto types l db.ledger)
      (htype : types input.eventType = true) (hkeys : KeysOnce (.obj input.payload))
      (happend : appendLedger crypto now db input = .ok db') : Recorded crypto types l db'.ledger

theorem Recorded.trans {crypto : Crypto} {types : LedgerEventType → Bool} {l l' l'' : List LedgerRow}
    (h : Recorded crypto types l l') (h' : Recorded crypto types l' l'') : Recorded crypto types l l'' := by
  induction h' with
  | refl => exact h
  | append _ htype hkeys happend ih => exact ih.append htype hkeys happend

/-- The database after routine writes. -/
structure Trails (crypto : Crypto) (db db' : Db) : Prop where
  mandates : db'.mandates = db.mandates
  tokens : db'.ceremonyTokens = db.ceremonyTokens
  events : db'.webhookEvents = db.webhookEvents
  ledger : Recorded crypto LedgerEventType.routine db.ledger db'.ledger

/-- A transaction of routine writes. -/
def TrailsOk (crypto : Crypto) (db : Db) (x : Except Exn Db) : Prop :=
  ∀ db', x = .ok db' → Trails crypto db db'

section

variable {crypto : Crypto} {now : Int} {db db' db'' : Db}

theorem Trails.refl : Trails crypto db db := ⟨rfl, rfl, rfl, .refl⟩

theorem Trails.trans (h : Trails crypto db db') (h' : Trails crypto db' db'') : Trails crypto db db'' :=
  ⟨h'.mandates.trans h.mandates, h'.tokens.trans h.tokens, h'.events.trans h.events,
    h.ledger.trans h'.ledger⟩

/-- The other tables are not on the trail. -/
theorem Trails.settlements {t : Settlements} (h : db' = { db with settlements := t }) :
    Trails crypto db db' := by
  rw [h]
  exact ⟨rfl, rfl, rfl, .refl⟩

theorem Trails.attempts {t : Attempts} (h : db' = { db with attempts := t }) : Trails crypto db db' := by
  rw [h]
  exact ⟨rfl, rfl, rfl, .refl⟩

/-- An append whose payload has the given keys. -/
theorem Trails.log (keys : List JsString) {input : AppendLedgerInput}
    (h : appendLedger crypto now db input = .ok db') (htype : input.eventType.routine = true)
    (hnd : keys.Nodup) (hkeys : input.payload.map Prod.fst = keys)
    (hflat : (input.payload.all fun m => flatValue m.2) = true) : Trails crypto db db' := by
  have hrec := Recorded.append .refl htype (keysOnce_flat keys hnd hkeys hflat) h
  obtain ⟨row, -, rfl⟩ := appendLedger_ok h
  exact ⟨rfl, rfl, rfl, hrec⟩

/-! ## What each transaction does -/

theorem trails_transitionSettlement {id : JsString} {src dst : SettlementState} {reason : Option JsString} :
    TrailsOk crypto db (transitionSettlement now db id src dst reason) := by
  intro db' h
  obtain ⟨row, -, -, hf⟩ := transitionSettlement_ok h
  exact .settlements hf

theorem trails_transitionAttempt {id : JsString} {src dst : AttemptState} :
    TrailsOk crypto db (transitionAttempt now db id src dst) := by
  intro db' h
  obtain ⟨row, -, -, hf⟩ := transitionAttempt_ok h
  exact .attempts hf

theorem trails_insertAttempt {row : AttemptRow} : TrailsOk crypto db (insertAttempt db row) := by
  intro db' h
  exact .attempts (insertAttempt_ok h).2

/-- The payload of a rejection. -/
theorem trails_rejection {settlementId : JsString} {reason : RejectionCode} {detail : Option JsString} :
    TrailsOk crypto db (appendLedger crypto now db
      ⟨.verify_rejected, some settlementId, js "facilitator", rejectionPayload reason detail⟩) := by
  intro db' h
  cases detail with
  | none => exact .log [js "reason"] h rfl (by decide) rfl rfl
  | some text => exact .log [js "reason", js "detail"] h rfl (by decide) rfl rfl

theorem trails_verifySettlement {settlementId : JsString} {intent : IntentMandate} {cart : CartMandate}
    {outcome : CreateSettlementOutcome}
    (h : verifySettlement crypto db settlementId intent cart now = .ok (db', outcome)) :
    Trails crypto db db' := by
  rw [verifySettlement, bind_eq_ok] at h
  obtain ⟨db₁, h₁, h⟩ := h
  rw [bind_eq_ok] at h
  obtain ⟨⟨ctx, hash⟩, -, h⟩ := h
  rw [bind_eq_ok] at h
  obtain ⟨result, -, h⟩ := h
  refine (trails_transitionSettlement db₁ h₁).trans ?_
  cases result with
  | fail reason detail =>
    rw [bind_eq_ok] at h
    obtain ⟨db₂, h₂, h⟩ := h
    rw [bind_eq_ok] at h
    obtain ⟨db₃, h₃, h⟩ := h
    obtain ⟨rfl, -⟩ := Prod.mk.inj (Except.ok.inj h)
    exact (trails_transitionSettlement db₂ h₂).trans (trails_rejection db₃ h₃)
  | ok approval hash =>
    rw [bind_eq_ok] at h
    obtain ⟨db₂, h₂, h⟩ := h
    refine (trails_transitionSettlement db₂ h₂).trans ?_
    cases approval with
    | true =>
      rw [if_pos rfl, bind_eq_ok] at h
      obtain ⟨db₃, h₃, h⟩ := h
      rw [bind_eq_ok] at h
      obtain ⟨db₄, h₄, h⟩ := h
      obtain ⟨rfl, -⟩ := Prod.mk.inj (Except.ok.inj h)
      refine (trails_transitionSettlement db₃ h₃).trans ?_
      exact .log [js "mandate_cart_hash_hex"] h₄ rfl (by decide) rfl rfl
    | false =>
      rw [if_neg Bool.false_ne_true, bind_eq_ok] at h
      obtain ⟨db₃, h₃, h⟩ := h
      rw [bind_eq_ok] at h
      obtain ⟨db₄, h₄, h⟩ := h
      obtain ⟨rfl, -⟩ := Prod.mk.inj (Except.ok.inj h)
      refine (trails_transitionSettlement db₃ h₃).trans ?_
      exact .log [js "mandate_cart_hash_hex"] h₄ rfl (by decide) rfl rfl

theorem trails_createSettlement {settlementId : JsString} {intent : IntentMandate} {cart : CartMandate}
    {outcome : CreateSettlementOutcome}
    (h : createSettlement crypto db settlementId intent cart now = .ok (db', outcome)) :
    Trails crypto db db' := by
  unfold createSettlement at h
  split at h
  · obtain ⟨rfl, -⟩ := Prod.mk.inj (Except.ok.inj h)
    exact .refl
  · rw [bind_eq_ok] at h
    obtain ⟨hash, -, h⟩ := h
    split at h
    · split at h
      · obtain ⟨rfl, -⟩ := Prod.mk.inj (Except.ok.inj h)
        exact .refl
      split at h
      · obtain ⟨rfl, -⟩ := Prod.mk.inj (Except.ok.inj h)
        exact .refl
      · cases h
    · cases h
    · rename_i db₁ h₁
      exact (Trails.settlements (insertSettlement_ok h₁).2).trans (trails_verifySettlement h)

theorem trails_settlementTransaction {env : Env} {settlementId key : JsString} {intent : IntentMandate}
    {cart : CartMandate} {outcome : CreateSettlementOutcome}
    (h : settlementTransaction env now db settlementId key intent cart = .ok (db', outcome)) :
    Trails env.crypto db db' := by
  rw [settlementTransaction, bind_eq_ok] at h
  obtain ⟨⟨db₁, result⟩, h₁, h⟩ := h
  rw [bind_eq_ok] at h
  obtain ⟨db₂, h₂, h⟩ := h
  obtain ⟨rfl, -⟩ := Prod.mk.inj (Except.ok.inj h)
  refine (trails_createSettlement h₁).trans ?_
  unfold completeIdempotencyKey at h₂
  split at h₂
  · obtain rfl := Except.ok.inj h₂
    exact ⟨rfl, rfl, rfl, .refl⟩
  · cases h₂

theorem trails_decideApproval {env : Env} {settlementId hash : JsString} {decision : Decision}
    {sig : SigEnvelope} :
    TrailsOk env.crypto db (decideApproval env now db settlementId hash decision sig) := by
  intro db' h
  unfold decideApproval at h
  split at h
  · cases h
  split at h
  · cases h
  rw [bind_eq_ok] at h
  obtain ⟨bytes, -, h⟩ := h
  rw [bind_eq_ok] at h
  obtain ⟨signed, -, h⟩ := h
  split at h
  · cases h
  rw [bind_eq_ok] at h
  obtain ⟨recomputed, -, h⟩ := h
  split at h
  · cases h
  dsimp only at h
  split at h
  · cases h
  rename_i approvals happrovals
  rw [bind_eq_ok] at h
  obtain ⟨moved, hc, h⟩ := h
  cases moved with
  | none => cases h
  | some db₁ =>
    have hmoved : Trails env.crypto _ db₁ := trails_transitionSettlement db₁ (catchStale_some hc)
    have hlogged : Trails env.crypto db₁ db' := by
      refine .log [js "mandate_cart_hash_hex"] h ?_ (by decide) rfl rfl
      cases decision <;> rfl
    have hinserted : Trails env.crypto db { db with approvals := approvals } := ⟨rfl, rfl, rfl, .refl⟩
    exact hinserted.trans (hmoved.trans hlogged)

theorem trails_rejectApproved {settlementId : JsString} {reason : RejectionCode}
    {detail : Option JsString} {outcome : ReverifyOutcome}
    (h : rejectApproved crypto now db settlementId reason detail = .ok (db', outcome)) :
    Trails crypto db db' := by
  rw [rejectApproved, bind_eq_ok] at h
  obtain ⟨moved, hc, h⟩ := h
  cases moved with
  | none =>
    obtain ⟨rfl, -⟩ := Prod.mk.inj (Except.ok.inj h)
    exact .refl
  | some db₁ =>
    rw [bind_eq_ok] at h
    obtain ⟨db₂, h₂, h⟩ := h
    obtain ⟨rfl, -⟩ := Prod.mk.inj (Except.ok.inj h)
    exact (trails_transitionSettlement db₁ (catchStale_some hc)).trans (trails_rejection db₂ h₂)

theorem trails_reverify {settlementId : JsString} {outcome : ReverifyOutcome}
    (h : reverifyAndEnterSettling crypto db settlementId now = .ok (db', outcome)) :
    Trails crypto db db' := by
  have hstale : ∀ {o : ReverifyOutcome}, (Except.ok (db, o) : Except Exn _) = .ok (db', outcome) →
      Trails crypto db db' := by
    intro o ho
    obtain ⟨rfl, -⟩ := Prod.mk.inj (Except.ok.inj ho)
    exact .refl
  unfold reverifyAndEnterSettling at h
  split at h
  · exact hstale h
  split at h
  · exact hstale h
  split at h
  · exact hstale h
  rw [bind_eq_ok] at h
  obtain ⟨⟨ctx, hash⟩, -, h⟩ := h
  dsimp only at h
  split at h
  · exact trails_rejectApproved h
  rw [bind_eq_ok] at h
  obtain ⟨result, -, h⟩ := h
  cases result with
  | fail reason detail => exact trails_rejectApproved h
  | ok approval hash =>
    rw [bind_eq_ok] at h
    obtain ⟨moved, hc, h⟩ := h
    cases moved with
    | none => exact hstale h
    | some db₁ =>
      obtain ⟨rfl, -⟩ := Prod.mk.inj (Except.ok.inj h)
      exact trails_transitionSettlement db₁ (catchStale_some hc)

theorem trails_initiateAttempt {settlementId attemptId receipt : JsString} {attemptNum : Nat} :
    TrailsOk crypto db (initiateAttempt crypto now db settlementId attemptNum attemptId receipt) := by
  intro db' h
  rw [initiateAttempt, bind_eq_ok] at h
  obtain ⟨db₁, h₁, h⟩ := h
  refine (trails_insertAttempt db₁ h₁).trans ?_
  exact .log [js "attempt_id", js "method", js "attempt_num"] h rfl (by decide) rfl rfl

theorem trails_orderCreateFailed {settlementId attemptId : JsString} {err : Exn} :
    TrailsOk crypto db (orderCreateFailed crypto now db settlementId attemptId err) := by
  intro db' h
  rw [orderCreateFailed, bind_eq_ok] at h
  obtain ⟨db₁, h₁, h⟩ := h
  refine (trails_transitionAttempt db₁ h₁).trans ?_
  exact .log [js "attempt_id", js "reason", js "detail"] h rfl (by decide) rfl rfl

theorem trails_checkoutFailed {settlementId attemptId providerOrderId : JsString}
    {result : SettleViaCheckoutResult} :
    TrailsOk crypto db (checkoutFailed crypto now db settlementId attemptId providerOrderId result) := by
  intro db' h
  have hlog : ∀ {db₁ : Db}, appendLedger crypto now db₁ ⟨.payment_failed, some settlementId,
      js "facilitator", [(js "attempt_id", .str attemptId), (js "provider_order_id", .str providerOrderId),
        (js "status", .str (result.status.getD (js "error"))),
        (js "error", .str (result.error.getD (js "unknown")))]⟩ = .ok db' → Trails crypto db₁ db' :=
    fun happend => .log [js "attempt_id", js "provider_order_id", js "status", js "error"] happend rfl
      (by decide) rfl rfl
  rw [checkoutFailed, bind_eq_ok] at h
  obtain ⟨moved, hc, h⟩ := h
  cases moved with
  | none =>
    simp only [pure_bind] at h
    exact hlog h
  | some db₁ =>
    simp only [pure_bind] at h
    exact (trails_transitionAttempt db₁ (catchStale_some hc)).trans (hlog h)

theorem trails_supersedeIfActive {attemptId : JsString} :
    TrailsOk crypto db (supersedeIfActive now db attemptId) := by
  intro db' h
  rcases supersedeIfActive_ok h with rfl | ⟨row, -, -, hf⟩
  · exact .refl
  · exact .attempts hf

theorem trails_issuePaymentLink
    {settlementId lastAttemptId linkAttemptId receipt linkId shortUrl : JsString} :
    TrailsOk crypto db (issuePaymentLink crypto now db settlementId lastAttemptId linkAttemptId receipt
      linkId shortUrl) := by
  intro db' h
  rw [issuePaymentLink, bind_eq_ok] at h
  obtain ⟨db₁, h₁, h⟩ := h
  rw [bind_eq_ok] at h
  obtain ⟨db₂, h₂, h⟩ := h
  refine (trails_supersedeIfActive db₁ h₁).trans ((trails_insertAttempt db₂ h₂).trans ?_)
  exact .log [js "attempt_id", js "provider_link_id", js "short_url"] h rfl (by decide) rfl rfl

theorem trails_applyCapture {attemptId settlementId paymentId : JsString} {src : AttemptState}
    {providerOrderId : Option JsString} {won : Bool}
    (h : applyCapture crypto now db attemptId src settlementId providerOrderId paymentId =
      .ok (db', won)) : Trails crypto db db' := by
  rw [applyCapture, bind_eq_ok] at h
  obtain ⟨moved, hc, h⟩ := h
  cases moved with
  | none =>
    obtain ⟨rfl, -⟩ := Prod.mk.inj (Except.ok.inj h)
    exact .refl
  | some db₁ =>
    refine (trails_transitionAttempt db₁ (catchStale_some hc)).trans ?_
    rw [bind_eq_ok] at h
    obtain ⟨db₂, h₂, h⟩ := h
    have hset : Trails crypto db₁ db₂ := by
      unfold setPaymentId at h₂
      split at h₂
      · obtain rfl := Except.ok.inj h₂
        exact .attempts rfl
      · cases h₂
    refine hset.trans ?_
    rw [bind_eq_ok] at h
    obtain ⟨moved, hc', h⟩ := h
    cases moved with
    | none =>
      obtain ⟨rfl, -⟩ := Prod.mk.inj (Except.ok.inj h)
      exact .refl
    | some db₃ =>
      refine (trails_transitionSettlement db₃ (catchStale_some hc')).trans ?_
      rw [bind_eq_ok] at h
      obtain ⟨db₄, h₄, h⟩ := h
      obtain ⟨rfl, -⟩ := Prod.mk.inj (Except.ok.inj h)
      -- an order id that is empty or missing is left out of the payload
      rcases providerOrderId with - | - | ⟨c, o⟩
      · exact .log [js "attempt_id", js "provider_payment_id"] h₄ rfl (by decide) rfl rfl
      · exact .log [js "attempt_id", js "provider_payment_id"] h₄ rfl (by decide) rfl rfl
      · exact .log [js "attempt_id", js "provider_order_id", js "provider_payment_id"] h₄ rfl (by decide)
          rfl rfl

theorem trails_failAttempt {attemptId settlementId reason : JsString} {src : AttemptState} :
    TrailsOk crypto db (failAttempt crypto now db attemptId settlementId src reason) := by
  intro db' h
  rw [failAttempt, bind_eq_ok] at h
  obtain ⟨moved, hc, h⟩ := h
  cases moved with
  | none =>
    obtain rfl := Except.ok.inj h
    exact .refl
  | some db₁ =>
    refine (trails_transitionAttempt db₁ (catchStale_some hc)).trans ?_
    exact .log [js "attempt_id", js "reason"] h rfl (by decide) rfl rfl

theorem trails_abandonSettlement {id reason : JsString} {src : SettlementState}
    {eventType : LedgerEventType} (htype : eventType.routine = true) :
    TrailsOk crypto db (abandonSettlement crypto now db id src eventType reason) := by
  intro db' h
  rw [abandonSettlement, bind_eq_ok] at h
  obtain ⟨moved, hc, h⟩ := h
  cases moved with
  | none =>
    obtain rfl := Except.ok.inj h
    exact .refl
  | some db₁ =>
    refine (trails_transitionSettlement db₁ (catchStale_some hc)).trans ?_
    exact .log [js "reason"] h htype (by decide) rfl rfl

end

end Hundi
