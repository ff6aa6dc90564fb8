/-
  packages/facilitator/src/reconcile.ts — which payment of an order decides.

  `reconcileByOrder` reduces the provider's list to its last element.  A captured payment further up is
  seen to only if an earlier call has seen to it, and a failed one behind it fails a live attempt
  (`captured_payment_handled_iff`).  `fetchedOutcome` is the stretch after the fetch with the
  `ReconcileOutcome` it returns, and `reconcileFetched_eq` says that it is the stretch the event loop
  runs.
-/
import Hundi.Facilitator.Capture
import Hundi.Facilitator.Frame

namespace Hundi

open Js

/-! ## The stretch with its outcome -/

/-- `ReconcileOutcome`. -/
inductive ReconcileOutcome where
  | no_op
  | not_found
  | captured (attemptId paymentId : JsString)
  | failed (attemptId : JsString)
  | anomaly_refunded
  | reconciliation_flagged
  deriving DecidableEq

/-- Where the stretch after `fetchOrderPayments` leads. -/
inductive Fetched where
  | returned (outcome : ReconcileOutcome)
  | threw (e : Exn)
  /-- Into `refundAnomalyCapture`, for an anomaly or after a lost race. -/
  | anomaly (paymentId : JsString)
  | lostRace (paymentId : JsString)
  deriving DecidableEq

/-- The settlement or the attempt can no longer take the capture. -/
def isAnomaly (db : Db) (attempt : AttemptRow) : Bool :=
  !attempt.state.active ||
    (db.settlements.find? fun row => row.id == attempt.settlementId).map (·.state) != some .settling ||
    (db.attempts.find? fun row =>
      row.settlementId == attempt.settlementId && row.state == .captured).isSome

/-- `reconcileCapturedPayment`, up to the compensator. -/
def capturedPaymentOutcome (crypto : Crypto) (now : Int) (w : World) (attempt : AttemptRow)
    (paymentId providerOrderId : JsString) : World × Fetched :=
  if attempt.state = .captured then (w, .returned .no_op)
  else if isAnomaly w.db attempt then (w, .anomaly paymentId)
  else
    match applyCapture crypto now w.db attempt.id attempt.state attempt.settlementId
        (some providerOrderId) paymentId with
    | .error e => (w, .threw e)
    | .ok (db, true) => (w.commit db, .returned (.captured attempt.id paymentId))
    | .ok (db, false) => (w.commit db, .lostRace paymentId)

/-- The attempt's row is still in the state it was read in. -/
def stillThere (db : Db) (attempt : AttemptRow) : Bool :=
  db.attempts.rows.any fun row => row.id == attempt.id && row.state == attempt.state

/-- `failAttemptIfLive`. -/
def failAttemptOutcome (crypto : Crypto) (now : Int) (w : World) (attempt : AttemptRow) :
    World × Fetched :=
  if !attempt.state.active then (w, .returned .no_op)
  else
    match failAttempt crypto now w.db attempt.id attempt.settlementId attempt.state
        (js "reconcile_authoritative_failed") with
    | .error e => (w, .threw e)
    | .ok db =>
      (w.commit db, .returned (if stillThere w.db attempt then .failed attempt.id else .no_op))

/-- `reconcileByOrder` from the provider's payments on. -/
def fetchedOutcome (crypto : Crypto) (now : Int) (w : World) (attempt : AttemptRow)
    (providerOrderId : JsString) (payments : List RazorpayPayment) : World × Fetched :=
  match payments.getLast? with
  | none => (w, .returned .no_op)
  | some latest =>
    if latest.status = js "captured" then
      capturedPaymentOutcome crypto now w attempt latest.id providerOrderId
    else if latest.status = js "failed" then failAttemptOutcome crypto now w attempt
    else (w, .returned .no_op)

/-- Where the event loop goes on. -/
def Fetched.next (attempt : AttemptRow) : World × Fetched → World × ReconcileNext
  | (w, .returned _) => (w, .returned)
  | (w, .threw e) => (w, .threw e)
  | (w, .anomaly paymentId) => refundAnomalyCapture w attempt.settlementId attempt.id paymentId
  | (w, .lostRace paymentId) => (w, .running (.lostRace attempt paymentId))

theorem reconcileCapturedPayment_eq (crypto : Crypto) (now : Int) (w : World) (attempt : AttemptRow)
    (paymentId providerOrderId : JsString) :
    reconcileCapturedPayment crypto now w attempt paymentId providerOrderId
      = Fetched.next attempt
          (capturedPaymentOutcome crypto now w attempt paymentId providerOrderId) := by
  unfold reconcileCapturedPayment capturedPaymentOutcome
  by_cases hcaptured : attempt.state = .captured
  · rw [if_pos hcaptured, if_pos hcaptured]
    rfl
  rw [if_neg hcaptured, if_neg hcaptured]
  by_cases hanomaly : isAnomaly w.db attempt = true
  · rw [if_pos hanomaly]
    exact if_pos hanomaly
  rw [if_neg hanomaly]
  refine (if_neg hanomaly).trans ?_
  cases applyCapture crypto now w.db attempt.id attempt.state attempt.settlementId
      (some providerOrderId) paymentId with
  | error e => rfl
  | ok result =>
    obtain ⟨db, applied⟩ := result
    cases applied <;> rfl

/-- **The stretch with its outcome is the stretch the event loop runs.** -/
theorem reconcileFetched_eq (crypto : Crypto) (now : Int) (w : World) (attempt : AttemptRow)
    (providerOrderId : JsString) (payments : List RazorpayPayment) :
    reconcileFetched crypto now w attempt providerOrderId (.ok payments)
      = Fetched.next attempt (fetchedOutcome crypto now w attempt providerOrderId payments) := by
  simp only [reconcileFetched, fetchedOutcome]
  cases payments.getLast? with
  | none => rfl
  | some latest =>
    by_cases hcaptured : latest.status = js "captured"
    · simp only [if_pos hcaptured]
      exact reconcileCapturedPayment_eq ..
    simp only [if_neg hcaptured]
    by_cases hfailed : latest.status = js "failed"
    · simp only [if_pos hfailed, failAttemptIfLive, failAttemptOutcome]
      by_cases hactive : attempt.state.active = true
      · rw [hactive]
        cases failAttempt crypto now w.db attempt.id attempt.settlementId attempt.state
            (js "reconcile_authoritative_failed") <;> rfl
      · rw [Bool.not_eq_true] at hactive
        rw [hactive]
        rfl
    · simp only [if_neg hfailed]
      rfl

/-! ## No throw -/

theorem capturePayload_safe (attemptId paymentId : JsString) (providerOrderId : Option JsString) :
    safeMembers (capturePayload attemptId paymentId providerOrderId) = true := by
  rcases providerOrderId with _ | _ | ⟨c, o⟩ <;> rfl

/-- The row of an attempt read before. -/
structure RowOf (db : Db) (attempt row : AttemptRow) : Prop where
  mem : row ∈ db.attempts.rows
  kept : AttemptKept attempt row

theorem RowOf.eq {db : Db} {attempt row other : AttemptRow} (h : RowOf db attempt row)
    (hother : other ∈ db.attempts.rows) (hid : other.id = attempt.id) : other = row :=
  attempt_eq hother h.mem (hid.trans h.kept.id.symm)

theorem find?_settling {db : Db} {id : JsString}
    (h : (db.settlements.find? fun row => row.id == id).map (·.state) = some .settling) :
    ∃ row ∈ db.settlements.rows, row.id = id ∧ row.state = .settling := by
  obtain ⟨row, hrow, hstate⟩ := Option.map_eq_some_iff.mp h
  obtain ⟨hmem, hid⟩ := Table.find?_mem hrow
  exact ⟨row, hmem, eq_of_beq hid, hstate⟩

theorem isAnomaly_false {db : Db} {attempt : AttemptRow} (h : isAnomaly db attempt = false) :
    attempt.state.active = true ∧
      (∃ row ∈ db.settlements.rows, row.id = attempt.settlementId ∧ row.state = .settling) ∧
      ∀ other ∈ db.attempts.rows, other.settlementId = attempt.settlementId →
        other.state ≠ .captured := by
  simp only [isAnomaly, Bool.or_eq_false_iff, Bool.not_eq_false', bne_eq_false_iff_eq,
    Option.isSome_eq_false_iff, Option.isNone_iff_eq_none] at h
  obtain ⟨⟨hactive, hsettling⟩, hnone⟩ := h
  refine ⟨hactive, find?_settling hsettling, fun other hother hid hstate => ?_⟩
  have := List.find?_eq_none.mp hnone other hother
  simp [hid, hstate] at this

/-- **A capture that is no anomaly does not throw.** -/
theorem applyCapture_isOk (crypto : Crypto) (now : Int) {db : Db} {attempt row : AttemptRow}
    (hrow : RowOf db attempt row) (h : isAnomaly db attempt = false)
    (providerOrderId : Option JsString) (paymentId : JsString) :
    ∃ result, applyCapture crypto now db attempt.id attempt.state attempt.settlementId
      providerOrderId paymentId = .ok result := by
  obtain ⟨hactive, ⟨settlement, hsettlement, hsid, hsettling⟩, hfree⟩ := isAnomaly_false h
  have hallowed := captured_allowed hactive
  by_cases hstate : row.state = attempt.state
  · -- the attempt is captured, and with it the settlement
    obtain ⟨db₁, h₁⟩ := transitionAttempt_isOk now .captured hrow.mem (hstate ▸ hallowed) fun _ other hother hid =>
      hfree other hother (hid.trans hrow.kept.settlementId)
    rw [hrow.kept.id, hstate] at h₁
    obtain ⟨_, -, -, hf₁⟩ := transitionAttempt_ok h₁
    obtain ⟨db₂, h₂⟩ := setPaymentId_isOk now db₁ attempt.id paymentId
    have hsame : db₂.settlements = db.settlements := by
      unfold setPaymentId at h₂
      split at h₂
      · rw [← Except.ok.inj h₂, hf₁]
      · exact nomatch h₂
    obtain ⟨db₃, h₃⟩ := transitionSettlement_isOk now .captured none
      (show settlement ∈ db₂.settlements.rows by rw [hsame]; exact hsettlement) hsettling (by decide) rfl
    rw [hsid] at h₃
    obtain ⟨db₄, h₄⟩ := appendLedger_isOk crypto now db₃ ⟨.payment_captured, some attempt.settlementId,
      js "facilitator", capturePayload attempt.id paymentId providerOrderId⟩ (capturePayload_safe ..)
    refine ⟨(db₄, true), ?_⟩
    simp only [applyCapture, h₁, h₂, h₃, h₄, catchStale, bind, Except.bind]
    rfl
  · -- another writer has moved it
    have hgone : ∀ other ∈ db.attempts.rows, other.id = attempt.id → other.state ≠ attempt.state :=
      fun other hother hid => by
        rw [hrow.eq hother hid]
        exact hstate
    refine ⟨(db, false), ?_⟩
    simp only [applyCapture, transitionAttempt_isStale now hallowed hgone, catchStale, bind, Except.bind]
    rfl

theorem failed_allowed {state : AttemptState} (h : state.active = true) :
    .failed ∈ attemptTransitions state := by
  revert h
  cases state <;> decide

/-- Failing a live attempt does not throw: it writes the failure, or nothing when another writer has
    moved the attempt. -/
theorem failAttempt_isOk (crypto : Crypto) (now : Int) {db : Db} {attempt row : AttemptRow}
    (hrow : RowOf db attempt row) (hactive : attempt.state.active = true) (entry reason : JsString) :
    ∃ db', failAttempt crypto now db attempt.id entry attempt.state reason = .ok db' ∧
      (row.state ≠ attempt.state → db' = db) ∧
      (row.state = attempt.state → row.moveTo now .failed ∈ db'.attempts.rows) := by
  have hallowed := failed_allowed hactive
  by_cases hstate : row.state = attempt.state
  · obtain ⟨db₁, h₁⟩ := transitionAttempt_isOk now .failed hrow.mem (hstate ▸ hallowed) nofun
    rw [hrow.kept.id, hstate] at h₁
    obtain ⟨moved, hid, hm, -⟩ := transitionAttempt_ok h₁
    obtain ⟨db₂, h₂⟩ := appendLedger_isOk crypto now db₁ ⟨.payment_failed, some entry,
      js "facilitator", [(js "attempt_id", .str attempt.id), (js "reason", .str reason)]⟩ rfl
    refine ⟨db₂, ?_, fun hne => absurd hstate hne, fun _ => ?_⟩
    · simp only [failAttempt, h₁, catchStale, bind, Except.bind]
      exact h₂
    · obtain ⟨lrow, -, rfl⟩ := appendLedger_ok h₂
      rw [← hrow.eq hm.mem hid]
      exact hm.mem_iff.mpr (Or.inl rfl)
  · have hgone : ∀ other ∈ db.attempts.rows, other.id = attempt.id → other.state ≠ attempt.state :=
      fun other hother hid => by
        rw [hrow.eq hother hid]
        exact hstate
    refine ⟨db, ?_, fun _ => rfl, fun heq => absurd heq hstate⟩
    simp only [failAttempt, transitionAttempt_isStale now hallowed hgone, catchStale, bind, Except.bind]
    rfl

/-! ## Seeing to a captured payment -/

/-- The attempt is captured with the payment, or the payment's anomaly refund is on the ledger. -/
def SeenTo (db : Db) (attempt : AttemptRow) (payment : RazorpayPayment) : Prop :=
  (∃ row ∈ db.attempts.rows, row.id = attempt.id ∧ row.state = .captured ∧
    row.providerPaymentId = some payment.id) ∨
  alreadyRefunded db attempt.settlementId payment.id = true

/-- The call goes on into the compensator with the payment, or to the answer of its refund. -/
def Compensates (attempt : AttemptRow) (payment : RazorpayPayment) (next : ReconcileNext) : Prop :=
  next = .awaiting (.refundPayment attempt.settlementId attempt.id payment.id) ∨
    next = .running (.lostRace attempt payment.id)

/-- **No captured payment of the list is overlooked**: the stretch does not mark the attempt failed, and
    some captured payment of the list is captured or on its way to be refunded. -/
structure NotOverlooked (w : World) (attempt : AttemptRow) (payments : List RazorpayPayment)
    (result : World × ReconcileNext) : Prop where
  live : ∀ row ∈ w.db.attempts.rows, row.id = attempt.id → row.state ≠ .failed →
    ∀ row' ∈ result.1.db.attempts.rows, row'.id = attempt.id → row'.state ≠ .failed
  seen : ∃ payment ∈ payments, payment.status = js "captured" ∧
    (SeenTo result.1.db attempt payment ∨ Compensates attempt payment result.2)

/-- A captured payment of the list has been seen to before. -/
def AnySeenTo (db : Db) (attempt : AttemptRow) (payments : List RazorpayPayment) : Prop :=
  ∃ payment ∈ payments, payment.status = js "captured" ∧ SeenTo db attempt payment

/-- The last payment is a failure and the attempt is live, still as it was read. -/
def FailsLive (db : Db) (attempt : AttemptRow) (payments : List RazorpayPayment) : Prop :=
  attempt.state.active = true ∧ stillThere db attempt = true ∧
    ∃ latest, payments.getLast? = some latest ∧ latest.status = js "failed"

/-- The last payment is a captured one and the attempt was read uncaptured. -/
def TakesLatest (attempt : AttemptRow) (payments : List RazorpayPayment) : Prop :=
  attempt.state ≠ .captured ∧
    ∃ latest, payments.getLast? = some latest ∧ latest.status = js "captured"

section

variable {crypto : Crypto} {now : Int} {w : World} {attempt row : AttemptRow}
  {payments : List RazorpayPayment}

theorem stillThere_iff (h : RowOf w.db attempt row) :
    stillThere w.db attempt = true ↔ row.state = attempt.state := by
  rw [stillThere, List.any_eq_true]
  constructor
  · rintro ⟨r, hr, hp⟩
    rw [Bool.and_eq_true, beq_iff_eq, beq_iff_eq] at hp
    rw [← h.eq hr hp.1]
    exact hp.2
  · intro hstate
    exact ⟨row, h.mem, by simp [h.kept.id, hstate]⟩

/-- A stretch that returns without a write sees to what was seen to before. -/
theorem notOverlooked_quiet : NotOverlooked w attempt payments (w, .returned) ↔
    AnySeenTo w.db attempt payments := by
  constructor
  · intro h
    obtain ⟨payment, hmem, hstatus, hseen | hgoes⟩ := h.seen
    · exact ⟨payment, hmem, hstatus, hseen⟩
    · rcases hgoes with h | h <;> exact nomatch h
  · rintro ⟨payment, hmem, hstatus, hseen⟩
    refine ⟨fun row hrow hid hne row' hrow' hid' => ?_, payment, hmem, hstatus, Or.inl hseen⟩
    rwa [attempt_eq hrow' hrow (hid'.trans hid.symm)]

/-- The compensator refunds the payment or finds it refunded. -/
theorem notOverlooked_compensator {payment : RazorpayPayment} (hmem : payment ∈ payments)
    (hstatus : payment.status = js "captured") : NotOverlooked w attempt payments
      (refundAnomalyCapture w attempt.settlementId attempt.id payment.id) := by
  unfold refundAnomalyCapture
  split
  · rename_i hrefunded
    exact notOverlooked_quiet.mpr ⟨payment, hmem, hstatus, Or.inr hrefunded⟩
  · refine ⟨fun row hrow hid hne row' hrow' hid' => ?_, payment, hmem, hstatus, Or.inr (Or.inl rfl)⟩
    rwa [attempt_eq hrow' hrow (hid'.trans hid.symm)]

/-- A captured attempt is not failed, and stands captured with the payment. -/
theorem notOverlooked_captured {db' : Db} {next : ReconcileNext} {captured : AttemptRow}
    {payment : RazorpayPayment} (hmem : payment ∈ payments) (hstatus : payment.status = js "captured")
    (hid : captured.id = attempt.id)
    (h : AttemptCaptured now w.db.attempts db'.attempts captured attempt.state payment.id) :
    NotOverlooked w attempt payments (w.commit db', next) := by
  refine ⟨fun _ _ _ _ row' hrow' hid' => ?_, payment, hmem, hstatus, Or.inl (Or.inl ?_)⟩
  · rcases (h.mem_iff row').mp hrow' with rfl | ⟨-, hne⟩
    · exact nofun
    · exact absurd (hid'.trans hid.symm) hne
  · exact ⟨_, (h.mem_iff _).mpr (Or.inl rfl), hid, rfl, rfl⟩

/-- **A captured payment at the end of the list is captured or handed to the compensator.** -/
theorem notOverlooked_latest (hrow : RowOf w.db attempt row) (hne : attempt.state ≠ .captured)
    {latest : RazorpayPayment} (hmem : latest ∈ payments) (hstatus : latest.status = js "captured")
    (providerOrderId : JsString) : NotOverlooked w attempt payments (Fetched.next attempt
      (capturedPaymentOutcome crypto now w attempt latest.id providerOrderId)) := by
  rw [capturedPaymentOutcome, if_neg hne]
  by_cases hanomaly : isAnomaly w.db attempt = true
  · rw [if_pos hanomaly]
    exact notOverlooked_compensator hmem hstatus
  rw [if_neg hanomaly]
  obtain ⟨⟨db', applied⟩, happly⟩ := applyCapture_isOk crypto now hrow
    (Bool.eq_false_iff.mpr hanomaly) (some providerOrderId) latest.id
  rw [happly]
  cases applied with
  | true =>
    obtain ⟨captured, settlement, lrow, hid, -, hcaptured, -⟩ := applyCapture_true happly
    exact notOverlooked_captured hmem hstatus hid hcaptured
  | false =>
    rcases applyCapture_false happly with ⟨rfl, -⟩ | ⟨captured, hid, hcaptured, -⟩
    · refine ⟨fun row hrow hid hne row' hrow' hid' => ?_, latest, hmem, hstatus, Or.inr (Or.inr rfl)⟩
      rwa [attempt_eq hrow' hrow (hid'.trans hid.symm)]
    · exact notOverlooked_captured hmem hstatus hid hcaptured

/-- A failed payment at the end of the list fails a live attempt, and does nothing else. -/
theorem notOverlooked_failed (hrow : RowOf w.db attempt row) :
    NotOverlooked w attempt payments (Fetched.next attempt
      (failAttemptOutcome crypto now w attempt)) ↔
    AnySeenTo w.db attempt payments ∧
      ¬ (attempt.state.active = true ∧ stillThere w.db attempt = true) := by
  rw [failAttemptOutcome]
  by_cases hactive : attempt.state.active = true
  · obtain ⟨db', hfail, hsame, hmoved⟩ := failAttempt_isOk crypto now hrow hactive
      attempt.settlementId (js "reconcile_authoritative_failed")
    rw [hactive, hfail]
    by_cases hstate : row.state = attempt.state
    · constructor
      · intro h
        have hnot : row.state ≠ .failed := fun hf => by
          rw [← hstate, hf] at hactive
          exact nomatch hactive
        exact absurd rfl (h.live row hrow.mem hrow.kept.id hnot _ (hmoved hstate) hrow.kept.id)
      · rintro ⟨-, hnot⟩
        exact absurd ⟨rfl, (stillThere_iff hrow).mpr hstate⟩ hnot
    · rw [hsame hstate]
      refine notOverlooked_quiet.trans (iff_self_and.mpr fun _ hlive => hstate ?_)
      exact (stillThere_iff hrow).mp hlive.2
  · rw [Bool.not_eq_true] at hactive
    rw [hactive]
    refine notOverlooked_quiet.trans (iff_self_and.mpr fun _ hlive => ?_)
    exact nomatch hlive.1

/-! ## The order of the list -/

/-- The payment was captured or goes to the compensator. -/
def Fetched.takes : Fetched → Bool
  | .returned (.captured _ _) => true
  | .anomaly _ => true
  | .lostRace _ => true
  | _ => false

theorem takes_capturedPayment (hrow : RowOf w.db attempt row) (hne : attempt.state ≠ .captured)
    (paymentId providerOrderId : JsString) :
    (capturedPaymentOutcome crypto now w attempt paymentId providerOrderId).2.takes = true := by
  rw [capturedPaymentOutcome, if_neg hne]
  by_cases hanomaly : isAnomaly w.db attempt = true
  · rw [if_pos hanomaly]
    rfl
  rw [if_neg hanomaly]
  obtain ⟨⟨db', applied⟩, happly⟩ := applyCapture_isOk crypto now hrow
    (Bool.eq_false_iff.mpr hanomaly) (some providerOrderId) paymentId
  rw [happly]
  cases applied <;> rfl

theorem takes_failAttempt : (failAttemptOutcome crypto now w attempt).2.takes = false := by
  unfold failAttemptOutcome
  split
  · rfl
  split
  · rfl
  · split <;> rfl

/-- A payment that is not captured is not taken. -/
theorem takes_other {latest : RazorpayPayment} (hlast : payments.getLast? = some latest)
    (hne : latest.status ≠ js "captured") (providerOrderId : JsString) :
    (fetchedOutcome crypto now w attempt providerOrderId payments).2.takes = false := by
  simp only [fetchedOutcome, hlast, if_neg hne]
  split
  · exact takes_failAttempt
  · rfl

/-- An attempt read captured is left alone, whatever the list. -/
theorem fetchedOutcome_captured (hcaptured : attempt.state = .captured) (providerOrderId : JsString) :
    fetchedOutcome crypto now w attempt providerOrderId payments = (w, .returned .no_op) := by
  have hactive : attempt.state.active = false := by rw [hcaptured]; rfl
  simp only [fetchedOutcome]
  split
  · rfl
  split
  · rw [capturedPaymentOutcome, if_pos hcaptured]
  split
  · rw [failAttemptOutcome, hactive]
    rfl
  · rfl

/-- **With one captured payment, the order of the list does not matter exactly when there is no other
    payment or the attempt was captured before.** -/
theorem fetchedOutcome_perm_iff (hrow : RowOf w.db attempt row)
    (hone : payments.countP (fun p => p.status == js "captured") = 1) (providerOrderId : JsString) :
    (∀ other, other.Perm payments → fetchedOutcome crypto now w attempt providerOrderId other
      = fetchedOutcome crypto now w attempt providerOrderId payments) ↔
    payments.length = 1 ∨ attempt.state = .captured := by
  constructor
  · intro hall
    by_contra hnot
    rw [not_or] at hnot
    obtain ⟨hlen, hne⟩ := hnot
    obtain ⟨p, hp, hstatus⟩ := List.countP_pos_iff.mp (by rw [hone]; exact Nat.one_pos)
    have hsplit := List.perm_cons_erase hp
    have hcount : (payments.erase p).countP (fun p => p.status == js "captured") = 0 := by
      have h := hsplit.countP_eq fun p => p.status == js "captured"
      rw [hone, List.countP_cons, if_pos hstatus] at h
      omega
    -- the captured payment last, and another payment last
    have hcaptured := hall (payments.erase p ++ [p])
      ((List.perm_append_comm).trans hsplit.symm)
    have hother := hall (p :: payments.erase p) hsplit.symm
    cases hlast : (payments.erase p).getLast? with
    | none =>
      rw [List.getLast?_eq_none_iff] at hlast
      exact hlen (by rw [hsplit.length_eq, hlast]; rfl)
    | some q =>
      have hq : q.status ≠ js "captured" := by
        have h := List.countP_eq_zero.mp hcount q (List.mem_of_getLast? hlast)
        simpa using h
      have htakes := congrArg (fun r => r.2.takes) (hcaptured.trans hother.symm)
      have hlast' : (p :: payments.erase p).getLast? = some q := by
        rw [List.getLast?_cons, hlast]
        rfl
      simp only [takes_other hlast' hq] at htakes
      simp only [fetchedOutcome, List.getLast?_append, List.getLast?_singleton, Option.some_or,
        if_pos (eq_of_beq hstatus), takes_capturedPayment hrow hne] at htakes
      exact nomatch htakes
  · rintro (hlen | hcaptured) other hperm
    · obtain ⟨p, rfl⟩ := List.length_eq_one_iff.mp hlen
      rw [List.perm_singleton.mp hperm]
    · rw [fetchedOutcome_captured hcaptured, fetchedOutcome_captured hcaptured]

/-- **When a captured payment is not overlooked.**  With the attempt as it was read before the fetch, a
    captured payment of the list is seen to, and the attempt not failed, exactly when the last payment
    of the list is captured and the attempt was not, or a captured payment of the list has been seen to
    before and no failed payment stands last for a live attempt.  With one captured payment in the
    list, the outcome is that of every permutation exactly when there is no other payment or the
    attempt was read captured. -/
theorem captured_payment_handled_iff (crypto : Crypto) (now : Int) (hrow : RowOf w.db attempt row)
    (providerOrderId : JsString) (hcap : ∃ p ∈ payments, p.status = js "captured") :
    (NotOverlooked w attempt payments
      (reconcileFetched crypto now w attempt providerOrderId (.ok payments)) ↔
        TakesLatest attempt payments ∨
          (AnySeenTo w.db attempt payments ∧ ¬ FailsLive w.db attempt payments)) ∧
    (payments.countP (fun p => p.status == js "captured") = 1 →
      ((∀ other, other.Perm payments → fetchedOutcome crypto now w attempt providerOrderId other
        = fetchedOutcome crypto now w attempt providerOrderId payments) ↔
      payments.length = 1 ∨ attempt.state = .captured)) := by
  refine ⟨?_, fun hone => fetchedOutcome_perm_iff hrow hone providerOrderId⟩
  rw [reconcileFetched_eq]
  obtain ⟨latest, hlast⟩ : ∃ latest, payments.getLast? = some latest := by
    cases hlast : payments.getLast? with
    | some latest => exact ⟨latest, rfl⟩
    | none =>
      rw [List.getLast?_eq_none_iff] at hlast
      obtain ⟨p, hp, -⟩ := hcap
      rw [hlast] at hp
      exact absurd hp List.not_mem_nil
  have hmem := List.mem_of_getLast? hlast
  have hlatest : ∀ {other}, payments.getLast? = some other → other = latest := fun h =>
    (Option.some.inj (hlast.symm.trans h)).symm
  simp only [fetchedOutcome, hlast]
  by_cases hstatus : latest.status = js "captured"
  · rw [if_pos hstatus]
    have hnotFails : ¬ FailsLive w.db attempt payments := by
      rintro ⟨-, -, other, hother, hfailed⟩
      rw [hlatest hother, hstatus] at hfailed
      exact absurd hfailed (by decide)
    by_cases hcaptured : attempt.state = .captured
    · rw [capturedPaymentOutcome, if_pos hcaptured]
      refine notOverlooked_quiet.trans ⟨fun h => Or.inr ⟨h, hnotFails⟩, ?_⟩
      rintro (htakes | h)
      · exact absurd hcaptured htakes.1
      · exact h.1
    · exact iff_of_true (notOverlooked_latest hrow hcaptured hmem hstatus providerOrderId)
        (Or.inl ⟨hcaptured, latest, hlast, hstatus⟩)
  rw [if_neg hstatus]
  have hnotTakes : ¬ TakesLatest attempt payments := by
    rintro ⟨-, other, hother, h⟩
    rw [hlatest hother] at h
    exact hstatus h
  rw [or_iff_right hnotTakes]
  by_cases hfailed : latest.status = js "failed"
  · rw [if_pos hfailed]
    refine (notOverlooked_failed hrow).trans (and_congr_right fun _ => not_congr ?_)
    exact ⟨fun h => ⟨h.1, h.2, latest, hlast, hfailed⟩, fun h => ⟨h.1, h.2.1⟩⟩
  · rw [if_neg hfailed]
    refine notOverlooked_quiet.trans (iff_self_and.mpr fun _ hlive => hfailed ?_)
    obtain ⟨-, -, other, hother, h⟩ := hlive
    rwa [hlatest hother] at h

end

/-! ## A captured payment in front of a failed one -/

/-- What the provider reports for order `o1`, in its two orders. -/
def capturedFirst : List RazorpayPayment :=
  [⟨js "p1", js "captured"⟩, ⟨js "p2", js "failed"⟩]

def capturedLast : List RazorpayPayment :=
  [⟨js "p2", js "failed"⟩, ⟨js "p1", js "captured"⟩]

/-- The attempt of order `o1` is live; the first list fails it and the second captures it. -/
def orderMatters (s : Sys) : Bool :=
  (attemptByOrder s.world.db (js "o1")).any fun attempt =>
    attempt.state == .initiated &&
    (reconcileFetched demoCrypto 1001 s.world attempt (js "o1")
      (.ok capturedFirst)).1.db.attempts.rows.any (fun row =>
        row.id == attempt.id && row.state == .failed) &&
    decide ((fetchedOutcome demoCrypto 1001 s.world attempt (js "o1") capturedLast).2
      = .returned (.captured attempt.id (js "p1")))

theorem orderMatters_reachable : ∃ s, Reachable demoEnv s ∧ orderMatters s = true :=
  reachable_of_run demoEnv demoCheckout orderMatters (by decide +kernel)

theorem attemptByOrder_row {db : Db} {orderId : JsString} {attempt : AttemptRow}
    (h : attemptByOrder db orderId = some attempt) : RowOf db attempt attempt :=
  ⟨(Table.find?_mem h).1, AttemptKept.refl attempt⟩

/-- **A captured payment is overlooked.**  The live attempt of the checkout is failed although its
    order has a captured payment, which the same list in the other order would have captured. -/
theorem captured_payment_overlooked : ∃ (s : Sys) (attempt : AttemptRow), Reachable demoEnv s ∧
    attemptByOrder s.world.db (js "o1") = some attempt ∧ attempt.state = .initiated ∧
    (∃ row ∈ (reconcileFetched demoCrypto 1001 s.world attempt (js "o1")
      (.ok capturedFirst)).1.db.attempts.rows, row.id = attempt.id ∧ row.state = .failed) ∧
    ¬ NotOverlooked s.world attempt capturedFirst
      (reconcileFetched demoCrypto 1001 s.world attempt (js "o1") (.ok capturedFirst)) ∧
    capturedLast.Perm capturedFirst ∧
    (fetchedOutcome demoCrypto 1001 s.world attempt (js "o1") capturedLast).2
      = .returned (.captured attempt.id (js "p1")) := by
  obtain ⟨s, hreach, h⟩ := orderMatters_reachable
  obtain ⟨attempt, hattempt, h⟩ := Option.any_eq_true _ _ |>.mp h
  simp only [Bool.and_eq_true, beq_iff_eq, decide_eq_true_eq] at h
  obtain ⟨⟨hstate, hfailed⟩, hcaptured⟩ := h
  obtain ⟨row, hrow, hp⟩ := List.any_eq_true.mp hfailed
  rw [Bool.and_eq_true, beq_iff_eq, beq_iff_eq] at hp
  refine ⟨s, attempt, hreach, hattempt, hstate, ⟨row, hrow, hp⟩, fun hnot => ?_, List.Perm.swap .., hcaptured⟩
  have hlive : attempt.state ≠ .failed := by rw [hstate]; exact nofun
  exact hnot.live attempt (attemptByOrder_row hattempt).mem rfl hlive row hrow hp.1 hp.2

/-- The same checkout with the captured payment last. -/
theorem captured_payment_handled_demo : ∃ (s : Sys) (attempt : AttemptRow), Reachable demoEnv s ∧
    attemptByOrder s.world.db (js "o1") = some attempt ∧
    NotOverlooked s.world attempt capturedLast
      (reconcileFetched demoCrypto 1001 s.world attempt (js "o1") (.ok capturedLast)) := by
  obtain ⟨s, hreach, h⟩ := orderMatters_reachable
  obtain ⟨attempt, hattempt, h⟩ := Option.any_eq_true _ _ |>.mp h
  simp only [Bool.and_eq_true, beq_iff_eq] at h
  have hne : attempt.state ≠ .captured := by rw [h.1.1]; exact nofun
  exact ⟨s, attempt, hreach, hattempt, (captured_payment_handled_iff demoCrypto 1001
    (attemptByOrder_row hattempt) (js "o1") ⟨_, List.mem_cons_of_mem _ List.mem_cons_self, rfl⟩).1.mpr
    (Or.inl ⟨hne, _, rfl, rfl⟩)⟩

end Hundi
