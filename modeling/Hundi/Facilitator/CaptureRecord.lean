/-
  Captured settlements, captured attempts and the rows that say so.

  `applyCapture` moves the attempt, then the settlement, then writes the ledger.  `Sound` has that
  captured attempts are those of the captured settlements; `CapturesRecorded` adds the row: every
  captured attempt has one that names it and its payment.  With the one row a captured settlement has
  (`Agreement`), `captured_settlement_and_attempt_agree` puts the three together.
-/
import Hundi.Facilitator.Evidence

namespace Hundi

open Js EventLoop

/-- `SELECT … WHERE settlement_id = ? AND state = 'captured'`. -/
def capturedAttempts (db : Db) (settlementId : JsString) : List AttemptRow :=
  db.attempts.rows.filter fun a => a.settlementId == settlementId && a.state == .captured

/-- `SELECT … WHERE settlement_id = ? AND event_type = 'payment_captured'`. -/
def captureRows (db : Db) (settlementId : JsString) : List LedgerRow :=
  db.ledger.filter fun row =>
    row.eventType == .payment_captured && row.settlementId == some settlementId

/-- The row says that this attempt was captured by its payment. -/
def LedgerRow.NamesCapture (row : LedgerRow) (a : AttemptRow) : Prop :=
  ∃ paymentId orderId, a.providerPaymentId = some paymentId ∧
    row.Records ⟨.payment_captured, some a.settlementId, js "facilitator",
      capturePayload a.id paymentId orderId⟩

/-- Every captured attempt has a row that names it. -/
def CapturesRecorded (b : Books) : Prop :=
  ∀ a ∈ b.attempts.rows, a.state = .captured → ∃ row ∈ b.ledger, row.NamesCapture a

/-! ## What a step captures -/

/-- No attempt of `t'` is captured that was not captured in `t`. -/
def NoneCaptured (t t' : Attempts) : Prop :=
  ∀ a' ∈ t'.rows, a'.state = .captured → ∃ a ∈ t.rows, a.id = a'.id ∧ a.state = .captured

theorem NoneCaptured.refl (t : Attempts) : NoneCaptured t t := fun a ha hcap => ⟨a, ha, rfl, hcap⟩

theorem NoneCaptured.trans {t u v : Attempts} (h : NoneCaptured t u) (h' : NoneCaptured u v) :
    NoneCaptured t v := by
  intro c hc hcap
  obtain ⟨b, hb, hid, hbcap⟩ := h' c hc hcap
  obtain ⟨a, ha, hid', hacap⟩ := h b hb hbcap
  exact ⟨a, ha, hid'.trans hid, hacap⟩

theorem AttemptMoved.noneCaptured {now : Int} {t t' : Attempts} {row : AttemptRow}
    {src dst : AttemptState} (h : AttemptMoved now t t' row src dst) (hdst : dst ≠ .captured) :
    NoneCaptured t t' := by
  intro a ha hcap
  rcases h.mem_iff.mp ha with rfl | ⟨ha, -⟩
  · exact absurd hcap hdst
  · exact ⟨a, ha, rfl, hcap⟩

theorem AttemptFailed.noneCaptured {now : Int} {t t' : Attempts} {attemptId : JsString}
    {src : AttemptState} (h : AttemptFailed now t t' attemptId src) : NoneCaptured t t' := by
  rcases h with ⟨rfl, -⟩ | ⟨row, -, hm⟩
  · exact .refl t'
  · exact hm.noneCaptured nofun

theorem AttemptAdded.noneCaptured {t t' : Attempts} {row : AttemptRow} (h : AttemptAdded t t' row)
    (hstate : row.state ≠ .captured) : NoneCaptured t t' := by
  intro a ha hcap
  rcases (h.mem_iff a).mp ha with ha | rfl
  · exact ⟨a, ha, rfl, hcap⟩
  · exact absurd hcap hstate

theorem OrderIdSet.noneCaptured {now : Int} {t t' : Attempts} {attemptId orderId : JsString}
    (h : OrderIdSet now t t' attemptId orderId) : NoneCaptured t t' := by
  intro a ha hcap
  rcases (h a).mp ha with ⟨a₀, ha₀, -, rfl⟩ | ⟨ha, -⟩
  · exact ⟨a₀, ha₀, rfl, hcap⟩
  · exact ⟨a, ha, rfl, hcap⟩

theorem LinkIssued.noneCaptured {now : Int} {t t' : Attempts} {lastAttemptId : JsString}
    {link : AttemptRow} (h : LinkIssued now t t' lastAttemptId link) (hstate : link.state ≠ .captured) :
    NoneCaptured t t' := by
  obtain ⟨t₁, rfl | ⟨row, -, hm⟩, hadd⟩ := h.superseded
  · exact hadd.noneCaptured hstate
  · exact (hm.noneCaptured nofun).trans (hadd.noneCaptured hstate)

/-- A step that captures nothing leaves every capture recorded. -/
theorem CapturesRecorded.kept {b b' : Books} (h : CapturesRecorded b) (hp : Persists b b')
    (hnone : NoneCaptured b.attempts b'.attempts) : CapturesRecorded b' := by
  intro a' ha' hcap'
  obtain ⟨a, ha, hid, hcap⟩ := hnone a' ha' hcap'
  obtain ⟨row, hrow, paymentId, orderId, hpaid, hrec⟩ := h a ha hcap
  obtain ⟨a₁, ha₁, hkept⟩ := hp.attempts a ha
  obtain rfl : a₁ = a' := attempt_eq ha₁ ha' (hkept.id.trans hid)
  refine ⟨row, hp.ledger.subset hrow, paymentId, orderId, ?_, ?_⟩
  · exact (hkept.final (by rw [hcap]; rfl)).2.trans hpaid
  · rw [hkept.id, hkept.settlementId]
    exact hrec

/-- A capture and its row are written together. -/
theorem CapturesRecorded.captured {b b' : Books} (h : CapturesRecorded b) (hp : Persists b b')
    {now : Int} {attempt : AttemptRow} {src : AttemptState} {paymentId : JsString}
    (hattempt : AttemptCaptured now b.attempts b'.attempts attempt src paymentId) {lrow : LedgerRow}
    {orderId : Option JsString}
    (hrec : lrow.Records ⟨.payment_captured, some attempt.settlementId, js "facilitator",
      capturePayload attempt.id paymentId orderId⟩)
    (hledger : b'.ledger = b.ledger ++ [lrow]) : CapturesRecorded b' := by
  intro a ha hcap
  rcases (hattempt.mem_iff a).mp ha with rfl | ⟨ha₀, -⟩
  · refine ⟨lrow, ?_, paymentId, orderId, rfl, hrec⟩
    rw [hledger]
    exact List.mem_append_right _ List.mem_cons_self
  · obtain ⟨row, hrow, hnames⟩ := h a ha₀ hcap
    exact ⟨row, hp.ledger.subset hrow, hnames⟩

theorem TaskStep.capturesRecorded {env : Env} {now : Int} {w w' : World} {c : TaskWhy}
    {next : Next Task} (h : TaskStep env now w c w' next) (ht : taskSound w c.before)
    (hI : CapturesRecorded w.books) : CapturesRecorded w'.books := by
  have hp := h.persists
  cases h with
  | attemptFailed l row src hl hm hwhy hw hn => exact hI.kept hp (hm.noneCaptured nofun)
  | captured caller copy orderId payments latest attempt settlement lrow hc hlast hstatus hid hsid
      hattempt hm hrec hw hn =>
    have hof : AttemptOf w.db.attempts copy.id copy.settlementId := by
      rw [hc] at ht
      exact ht _ rfl
    rw [← hof.settlementId_eq hattempt.mem hid, ← hid] at hrec
    exact hI.captured hp hattempt hrec (congrArg Books.ledger hw)
  | _ =>
    rename_i hw _
    refine hI.kept hp ?_
    rw [hw]
    exact .refl _

theorem JobStep.capturesRecorded {env : Env} {now : Int} {w w' : World} {k : Kick} {c : RunWhy}
    {next : Next RunPoint} (h : JobStep env now w k c w' next) (hs : Sound env.crypto w.books)
    (hj : runSound w c.before) (hI : CapturesRecorded w.books) : CapturesRecorded w'.books := by
  have hp := h.persists
  cases h with
  | attemptInitiated l settlement attemptNum lastAttemptId attemptId receipt hl hc hnum hadd hw hn =>
    exact hI.kept hp (hadd.noneCaptured nofun)
  | orderFailed l settlement attemptNum attemptId receipt err row hl hc hid hm hw hn =>
    exact hI.kept hp (hm.noneCaptured nofun)
  | orderSet settlement attemptNum attemptId receipt orderId hc hset hw hn =>
    exact hI.kept hp hset.noneCaptured
  | captured copy attemptNum attemptId orderId result paymentId attempt settlement lrow hc
      hpaid hid hsid hattempt hm hrec hw hn =>
    have hof : AttemptOf w.db.attempts attemptId copy.id := by
      rw [hc] at hj
      exact hj _ rfl
    rw [← hof.settlementId_eq hattempt.mem hid, ← hid] at hrec
    exact hI.captured hp hattempt hrec (congrArg Books.ledger hw)
  | captureLost settlement attemptNum attemptId orderId result paymentId hc hpaid hlost hn =>
    rcases hlost with ⟨hw, -⟩ | ⟨attempt, hid, hattempt, hgone, -⟩
    · refine hI.kept hp ?_
      rw [hw]
      exact .refl _
    · have hof : AttemptOf w.db.attempts attemptId settlement.id := by
        rw [hc] at hj
        exact hj _ rfl
      have hsid := hof.settlementId_eq hattempt.mem hid
      exact (hs.not_halfway hattempt (by rw [hsid]; exact hgone)).elim
  | retried l settlement attemptNum attemptId orderId result hl hc hm hw hn =>
    exact hI.kept hp hm.noneCaptured
  | linkIssued l settlement lastAttemptId linkAttemptId receipt linkId shortUrl hl hc hissued hw hn =>
    exact hI.kept hp (hissued.noneCaptured nofun)
  | _ =>
    rename_i hw _
    refine hI.kept hp ?_
    rw [hw]
    exact .refl _

/-- Every capture is recorded in every reachable state. -/
theorem Reachable.capturesRecorded {env : Env} {s : Sys} (h : Reachable env s) :
    CapturesRecorded s.world.books :=
  (soundOutline env).invariant (I := fun w => CapturesRecorded w.books)
    (fun _ _ _ _ _ _ ht hI hstep _ => TaskStep.capturesRecorded hstep ht hI)
    (fun _ _ _ _ _ _ hs hj hI hstep _ => JobStep.capturesRecorded hstep hs hj hI)
    (sound_initial env.crypto) (fun _ h => absurd h List.not_mem_nil) h

/-! ## The three tables -/

theorem mem_capturedAttempts {db : Db} {settlementId : JsString} {a : AttemptRow} :
    a ∈ capturedAttempts db settlementId ↔
      a ∈ db.attempts.rows ∧ a.settlementId = settlementId ∧ a.state = .captured := by
  rw [capturedAttempts, List.mem_filter, Bool.and_eq_true, beq_iff_eq, beq_iff_eq]

theorem mem_captureRows {db : Db} {settlementId : JsString} {row : LedgerRow} :
    row ∈ captureRows db settlementId ↔ row ∈ db.ledger ∧ row.eventType = .payment_captured ∧
      row.settlementId = some settlementId := by
  rw [captureRows, List.mem_filter, Bool.and_eq_true, beq_iff_eq, beq_iff_eq]

/-- At most one attempt of a settlement is captured (`one_captured_attempt`). -/
theorem capturedAttempts_eq {db : Db} {settlementId : JsString} {a : AttemptRow}
    (ha : a ∈ capturedAttempts db settlementId) : capturedAttempts db settlementId = [a] := by
  have hnodup : (capturedAttempts db settlementId).Nodup := (attempts_nodup _).filter _
  refine List.perm_singleton.mp
    ((List.perm_ext_iff_of_nodup hnodup (List.nodup_singleton a)).mpr fun b => ?_)
  rw [List.mem_singleton]
  refine ⟨fun hb => ?_, fun hb => hb ▸ ha⟩
  obtain ⟨hmem, hof, hcap⟩ := mem_capturedAttempts.mp ha
  obtain ⟨hmem', hof', hcap'⟩ := mem_capturedAttempts.mp hb
  exact captured_attempt_eq hmem' hmem hcap' hcap (hof'.trans hof.symm)

/-- The rows of a capture are the rows that attest it. -/
theorem length_captureRows (db : Db) (settlementId : JsString) :
    (captureRows db settlementId).length = attested db.ledger .captured settlementId := by
  rw [captureRows, attested, List.countP_eq_length_filter]
  congr 2
  funext row
  rw [LedgerRow.attests, SettlementState.evidence, List.contains_cons, List.contains_nil,
    Bool.or_false]

/-- **Captured settlements and captured attempts agree.**  In every reachable state a settlement is
    `captured` exactly when one of its attempts is and no other; the settlement then has one
    `payment_captured` row, and the row names this attempt and the payment the attempt holds; and the
    settlement of a captured attempt is there and captured. -/
theorem captured_settlement_and_attempt_agree {env : Env} {s : Sys} (h : Reachable env s) :
    (∀ r ∈ s.world.db.settlements.rows,
      (r.state = .captured ↔ ∃ a, capturedAttempts s.world.db r.id = [a]) ∧
      ∀ a, capturedAttempts s.world.db r.id = [a] → ∃ row paymentId orderId,
        captureRows s.world.db r.id = [row] ∧ a.providerPaymentId = some paymentId ∧
        row.payload = .obj (capturePayload a.id paymentId orderId)) ∧
    ∀ a ∈ s.world.db.attempts.rows, a.state = .captured →
      ∃ r ∈ s.world.db.settlements.rows, r.id = a.settlementId ∧ r.state = .captured := by
  have hsound := h.sound
  have hback : ∀ r ∈ s.world.db.settlements.rows, ∀ a, capturedAttempts s.world.db r.id = [a] →
      r.state = .captured := by
    intro r hr a ha
    obtain ⟨hmem, hof, hcap⟩ := mem_capturedAttempts.mp (ha ▸ List.mem_cons_self)
    obtain ⟨r', hr', hid, hstate⟩ := hsound.captured a hmem hcap
    rw [← settlement_eq hr' hr (hid.trans hof)]
    exact hstate
  refine ⟨fun r hr => ⟨⟨fun hstate => ?_, fun ⟨a, ha⟩ => hback r hr a ha⟩, fun a ha => ?_⟩,
    hsound.captured⟩
  · obtain ⟨a, ha, hof, hcap⟩ := hsound.capturedBy r hr hstate
    exact ⟨a, capturedAttempts_eq (mem_capturedAttempts.mpr ⟨ha, hof, hcap⟩)⟩
  · obtain ⟨hmem, hof, hcap⟩ := mem_capturedAttempts.mp (ha ▸ List.mem_cons_self)
    obtain ⟨row, hrow, paymentId, orderId, hpaid, hrec⟩ := h.capturesRecorded a hmem hcap
    have hone : (captureRows s.world.db r.id).length = 1 := by
      have hcount := h.agreement.of_mem hr .captured nofun
      rw [if_pos (hback r hr a ha)] at hcount
      rw [length_captureRows]
      exact hcount
    obtain ⟨row', hrow'⟩ := List.length_eq_one_iff.mp hone
    have hin : row ∈ captureRows s.world.db r.id :=
      mem_captureRows.mpr ⟨hrow, hrec.eventType, by rw [hrec.settlementId, hof]⟩
    rw [hrow'] at hin
    obtain rfl := List.mem_singleton.mp hin
    exact ⟨row, paymentId, orderId, hrow', hpaid, hrec.payload⟩

/-- A captured settlement with its attempt and its row. -/
theorem captured_settlement_and_attempt_agree_demo : ∃ s r a, Reachable demoEnv s ∧
    r ∈ s.world.db.settlements.rows ∧ r.state = .captured ∧
    capturedAttempts s.world.db r.id = [a] ∧ (captureRows s.world.db r.id).length = 1 := by
  obtain ⟨s, hreach, hp⟩ := reachable_of_run demoEnv
    (demoCheckout ++
      [.resumeJob (.checkout (.ok ⟨true, some (js "p1"), some (js "captured"), none⟩))])
    (fun s => s.world.db.settlements.rows.any fun r => r.state == .captured) (by decide +kernel)
  obtain ⟨r, hr, hstate⟩ := List.any_eq_true.mp hp
  have hcaptured : r.state = .captured := beq_iff_eq.mp hstate
  obtain ⟨hiff, hrow⟩ := (captured_settlement_and_attempt_agree hreach).1 r hr
  obtain ⟨a, ha⟩ := hiff.mp hcaptured
  obtain ⟨row, paymentId, orderId, hrows, -⟩ := hrow a ha
  exact ⟨s, r, a, hreach, hr, hcaptured, ha, by rw [hrows]; rfl⟩

end Hundi
