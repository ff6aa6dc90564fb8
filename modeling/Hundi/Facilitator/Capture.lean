/-
  packages/facilitator/src/reconcile.ts — what one capture commits.

  `applyCapture` writes the attempt, then the settlement, then the ledger, inside `tx`.  A throw rolls
  the transaction back; a `return false` commits what was written so far.  The second of its two early
  returns comes after the attempt was written, so the call is all or nothing exactly when it does not
  get there (`applyCapture_all_or_nothing_iff`): it gets there when the attempt can be captured and the
  settlement is not `settling` (`Halfway`).
-/
import Hundi.Facilitator.Effects

namespace Hundi

open Js

/-! ## The transaction -/

/-- `tx(db, fn)`: the database afterwards, with the result or what was thrown. -/
def tx {α : Type} (db : Db) : Except Exn (Db × α) → Db × Except Exn α
  | .ok (db', a) => (db', .ok a)
  | .error e => (db, .error e)

/-- `CaptureTarget`. -/
structure CaptureTarget where
  attemptId : JsString
  attemptState : AttemptState
  settlementId : JsString
  providerOrderId : Option JsString

/-- The transaction of `applyCapture(db, target, paymentId)`. -/
def CaptureTarget.apply (crypto : Crypto) (now : Int) (db : Db) (target : CaptureTarget)
    (paymentId : JsString) : Db × Except Exn Bool :=
  tx db (applyCapture crypto now db target.attemptId target.attemptState target.settlementId
    target.providerOrderId paymentId)

/-- **Everything a capture writes, and nothing else**: the attempt goes from the given state to
    `captured` with the payment, the settlement from `settling` to `captured`, and one row is added to
    the ledger. -/
structure CaptureTarget.Applied (target : CaptureTarget) (now : Int) (db db' : Db)
    (paymentId : JsString) : Prop where
  attempt : ∃ attempt, attempt.id = target.attemptId ∧
    AttemptCaptured now db.attempts db'.attempts attempt target.attemptState paymentId
  settlement : ∃ settlement, settlement.id = target.settlementId ∧
    SettlementMoved now db.settlements db'.settlements settlement .settling .captured none
  ledger : ∃ row : LedgerRow, row.Records ⟨.payment_captured, some target.settlementId,
    js "facilitator", capturePayload target.attemptId paymentId target.providerOrderId⟩ ∧
    db'.ledger = db.ledger ++ [row]
  rest : db' = { db with attempts := db'.attempts, settlements := db'.settlements,
                         ledger := db'.ledger }

/-- The call did everything and returned true, or returned false or threw and did nothing. -/
def CaptureTarget.AllOrNothing (crypto : Crypto) (now : Int) (db : Db) (target : CaptureTarget)
    (paymentId : JsString) : Prop :=
  match target.apply crypto now db paymentId with
  | (db', .ok true) => target.Applied now db db' paymentId
  | (db', _) => db' = db

/-! ## The early return in the middle -/

/-- The attempt is in the given state and can be captured, and the settlement is not `settling`. -/
structure CaptureTarget.Halfway (target : CaptureTarget) (db : Db) : Prop where
  attempt : ∃ attempt ∈ db.attempts.rows, attempt.id = target.attemptId ∧
    attempt.state = target.attemptState ∧ attempt.state.active = true ∧
    ∀ other ∈ db.attempts.rows, other.settlementId = attempt.settlementId → other.state ≠ .captured
  settlement : ∀ row ∈ db.settlements.rows, row.id = target.settlementId → row.state ≠ .settling

theorem captured_allowed {state : AttemptState} (h : state.active = true) :
    .captured ∈ attemptTransitions state := by
  revert h
  cases state <;> decide

/-- Writing a payment id touches no index. -/
theorem setPaymentId_isOk (now : Int) (db : Db) (attemptId paymentId : JsString) :
    ∃ db', setPaymentId now db attemptId paymentId = .ok db' := by
  have hkeep : ∀ a : AttemptRow, ∀ p : Bool, ∀ b : AttemptRow,
      (if p then { a with providerPaymentId := some paymentId, updatedAt := now } else a).clash b
        = a.clash b := by
    intro a p b
    cases p <;> rfl
  have hupdate : (db.attempts.update? (fun row => row.id == attemptId) fun row =>
      { row with providerPaymentId := some paymentId, updatedAt := now }).isSome = true := by
    refine Table.update?_isSome fun a _ b _ hab => ?_
    rw [hkeep, AttemptRow.clash_comm, hkeep, AttemptRow.clash_comm]
    exact hab
  obtain ⟨attempts, hu⟩ := Option.isSome_iff_exists.mp hupdate
  refine ⟨{ db with attempts := attempts }, ?_⟩
  rw [setPaymentId, hu]

/-- **Halfway, the capture of the attempt is committed and the call says it lost.** -/
theorem CaptureTarget.Halfway.commits {target : CaptureTarget} {db : Db} (h : target.Halfway db)
    (crypto : Crypto) (now : Int) (paymentId : JsString) :
    ∃ db', target.apply crypto now db paymentId = (db', .ok false) ∧ db' ≠ db := by
  obtain ⟨attempt, hmem, hid, hstate, hactive, hfree⟩ := h.attempt
  obtain ⟨db₁, h₁⟩ := transitionAttempt_isOk now .captured hmem (captured_allowed hactive) fun _ => hfree
  obtain ⟨row, hrid, hm, hf₁⟩ := transitionAttempt_ok h₁
  obtain ⟨db₂, h₂⟩ := setPaymentId_isOk now db₁ attempt.id paymentId
  rw [← hrid] at h₂
  obtain ⟨hcap, hf₂⟩ := setPaymentId_ok hm h₂
  have hsame : db₂.settlements = db.settlements := by rw [hf₂, hf₁]
  have hstale : catchStale (transitionSettlement now db₂ target.settlementId .settling .captured none)
      = .ok none := by
    rw [transitionSettlement_isStale none (by decide) (by rw [hsame]; exact h.settlement)]
    rfl
  have hmoved : catchStale (transitionAttempt now db attempt.id attempt.state .captured)
      = .ok (some db₁) := by rw [h₁]; rfl
  refine ⟨db₂, ?_, fun heq => ?_⟩
  · rw [apply, applyCapture, ← hid, ← hstate, hmoved, ← hrid]
    simp only [bind, Except.bind, h₂, hstale]
    rfl
  · -- the captured row of the new database was an active one of the old
    have hnew := (hcap.mem_iff _).mpr (Or.inl rfl)
    rw [heq] at hnew
    obtain rfl := attempt_eq hmem hm.mem hrid.symm
    have hstate := congrArg AttemptRow.state (attempt_eq hmem hnew rfl)
    rw [hstate] at hactive
    exact nomatch hactive

/-- **`applyCapture` is all or nothing exactly when it does not stop halfway.** -/
theorem applyCapture_all_or_nothing_iff (crypto : Crypto) (now : Int) (db : Db)
    (target : CaptureTarget) (paymentId : JsString) :
    target.AllOrNothing crypto now db paymentId ↔ ¬ target.Halfway db := by
  constructor
  · intro hall hhalf
    obtain ⟨db', happly, hne⟩ := hhalf.commits crypto now paymentId
    rw [CaptureTarget.AllOrNothing, happly] at hall
    exact hne hall
  · intro hnot
    rw [CaptureTarget.AllOrNothing, CaptureTarget.apply]
    cases h : applyCapture crypto now db target.attemptId target.attemptState target.settlementId
        target.providerOrderId paymentId with
    | error e => rfl
    | ok result =>
      obtain ⟨db', applied⟩ := result
      cases applied with
      | true =>
        obtain ⟨attempt, settlement, lrow, hid, hsid, hattempt, hm, hrec, hf⟩ := applyCapture_true h
        have hledger := congrArg Db.ledger hf
        exact ⟨⟨attempt, hid, hattempt⟩, ⟨settlement, hsid, hm⟩, ⟨lrow, hrec, hledger⟩, by
          rw [hledger]; exact hf⟩
      | false =>
        rcases applyCapture_false h with ⟨rfl, -⟩ | ⟨attempt, hid, hattempt, hgone, hf⟩
        · rfl
        · refine absurd ⟨⟨attempt, hattempt.mem, hid, hattempt.state, hattempt.active, ?_⟩, hgone⟩ hnot
          -- a captured row of the settlement would stand beside the new one
          intro other hother hsettlement hcaptured
          have hne : other.id ≠ attempt.id := fun hsame => by
            rw [attempt_eq hother hattempt.mem hsame] at hcaptured
            have hactive := hattempt.active
            rw [hcaptured] at hactive
            exact nomatch hactive
          have hsame := captured_attempt_eq ((hattempt.mem_iff other).mpr (Or.inr ⟨hother, hne⟩))
            ((hattempt.mem_iff _).mpr (Or.inl rfl)) hcaptured rfl hsettlement
          rw [hsame] at hne
          exact hne rfl

/-! ## A capture that stops halfway -/

/-- An attempt that is still live under a settlement that has failed. -/
def halfwayDb : Db :=
  { Db.empty with
    settlements := ⟨[{
      id := js "s1", mandateId := js "m1"
      cart := ⟨js "c1", js "shop", [], 400, [], []⟩
      mandateCartHashHex := js "h", amountPaise := 400, merchantId := js "shop"
      state := .failed, rejectReason := none, createdAt := 0, verifyingAt := none
      verifiedAt := none, pendingApprovalAt := none, approvedAt := none, settlingAt := none
      capturedAt := none, failedAt := none, rejectedAt := none, abandonedAt := none
      kickCount := 0 }], List.pairwise_singleton _ _⟩
    attempts := ⟨[{
      id := js "a1", settlementId := js "s1", method := .checkout_driver, state := .initiated
      receipt := js "a1", providerOrderId := some (js "o1"), providerPaymentId := none
      providerLinkId := none, createdAt := 0, updatedAt := 0 }], List.pairwise_singleton _ _⟩ }

def halfwayTarget : CaptureTarget := ⟨js "a1", .initiated, js "s1", some (js "o1")⟩

/-- **A capture reported as lost is in the database.** -/
theorem applyCapture_commits_halfway :
    (halfwayTarget.apply demoCrypto 0 halfwayDb (js "p1")).2 = .ok false ∧
    halfwayDb.attempts.rows.map (fun a => (a.state, a.providerPaymentId)) = [(.initiated, none)] ∧
    (halfwayTarget.apply demoCrypto 0 halfwayDb (js "p1")).1.attempts.rows.map
      (fun a => (a.state, a.providerPaymentId)) = [(.captured, some (js "p1"))] ∧
    ¬ halfwayTarget.AllOrNothing demoCrypto 0 halfwayDb (js "p1") := by
  have hhalf : halfwayTarget.Halfway halfwayDb :=
    ⟨⟨_, List.mem_cons_self, rfl, rfl, rfl, by decide⟩, by decide⟩
  refine ⟨by decide +kernel, by decide, by decide +kernel, fun hall => ?_⟩
  obtain ⟨db', happly, hne⟩ := hhalf.commits demoCrypto 0 (js "p1")
  rw [CaptureTarget.AllOrNothing, happly] at hall
  exact hne hall

end Hundi
