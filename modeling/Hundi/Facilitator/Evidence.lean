/-
  What the ledger says of settlements.

  Six modules move settlements and append events, each in a transaction of its own.  `Agreement`
  compares the two: for each of the states `captured`, `rejected` and `abandoned` and each id, the
  ledger has as many rows that record the arrival of that settlement in that state as the table has
  rows with that id in it.  Every step keeps it, because a transaction whose compare-and-swap fails
  appends nothing; `settlement_and_ledger_agree` reads it off for one settlement.
-/
import Hundi.Facilitator.Invariants

namespace Hundi

open Js EventLoop

/-- The event types that record the arrival of a settlement in a state. -/
def SettlementState.evidence : SettlementState → List LedgerEventType
  | .captured => [.payment_captured]
  | .rejected => [.verify_rejected, .approval_rejected]
  | .abandoned => [.settlement_abandoned, .approval_expired]
  | _ => []

/-- The row records the arrival of the settlement in the state. -/
def LedgerRow.attests (state : SettlementState) (settlementId : JsString) (row : LedgerRow) : Bool :=
  state.evidence.contains row.eventType && row.settlementId == some settlementId

/-- How many rows of the ledger record the arrival of the settlement in the state. -/
def attested (ledger : List LedgerRow) (state : SettlementState) (settlementId : JsString) : Nat :=
  ledger.countP (·.attests state settlementId)

/-- A row's part in the number of rows with an id in a state. -/
def occupies (state : SettlementState) (settlementId : JsString) (row : SettlementRow) : Int :=
  if row.id = settlementId ∧ row.state = state then 1 else 0

/-- **The ledger agrees with the settlements table.** -/
def Agreement (b : Books) : Prop :=
  ∀ state settlementId, state.evidence ≠ [] →
    (attested b.ledger state settlementId : Int) = b.settlements.sum (occupies state settlementId)

/-! ## Counting rows -/

theorem attested_append (ledger l : List LedgerRow) (state : SettlementState)
    (settlementId : JsString) : attested (ledger ++ l) state settlementId
      = attested ledger state settlementId + attested l state settlementId :=
  List.countP_append

/-- An incidental row is evidence of no state. -/
theorem not_evidence {e : LedgerEventType} (he : e.incidental = true) (state : SettlementState) :
    state.evidence.contains e = false := by
  cases state <;> cases e <;> first | rfl | exact nomatch he

/-- A row that is evidence of no state counts nowhere. -/
theorem attested_one {row : LedgerRow} {state : SettlementState}
    (h : state.evidence.contains row.eventType = false) (settlementId : JsString) :
    attested [row] state settlementId = 0 := by
  rw [attested, List.countP_singleton, LedgerRow.attests, h]
  rfl

theorem attested_incidental {l : List LedgerRow} (hl : Incidental l) (state : SettlementState)
    (settlementId : JsString) : attested l state settlementId = 0 := by
  refine List.countP_eq_zero.mpr fun row hrow hattests => ?_
  have hno := not_evidence (hl row hrow) state
  rw [LedgerRow.attests, hno] at hattests
  exact nomatch hattests

/-- The row of a failed attempt is evidence of no state. -/
theorem attested_failure {l : List LedgerRow} {attemptId : JsString} (hl : LogsFailure l attemptId)
    (state : SettlementState) (settlementId : JsString) : attested l state settlementId = 0 := by
  obtain ⟨row, rfl, hevent, -⟩ := hl
  refine attested_one ?_ settlementId
  rw [hevent]
  cases state <;> rfl

/-- The event type says that a settlement has arrived in `dst`, and in no other recorded state. -/
def Evidences (e : LedgerEventType) (dst : SettlementState) : Prop :=
  ∀ state : SettlementState, state.evidence ≠ [] → state.evidence.contains e = (dst == state)

/-- One row of such a type counts for its settlement and its state, and nowhere else. -/
theorem attested_logs {l : List LedgerRow} {e : LedgerEventType} {dst state : SettlementState}
    {id : JsString} (hl : Logs l e id) (he : Evidences e dst) (hstate : state.evidence ≠ [])
    (settlementId : JsString) :
    attested l state settlementId = if id = settlementId ∧ dst = state then 1 else 0 := by
  obtain ⟨row, rfl, hevent, hid⟩ := hl
  rw [attested, List.countP_singleton, LedgerRow.attests, hevent, hid, he state hstate]
  by_cases hdst : dst = state
  · by_cases hsame : id = settlementId
    · simp [hdst, hsame]
    · simp [hsame]
  · simp [hdst]

theorem evidences_creation {state : SettlementState}
    (h : state = .rejected ∨ state = .pending_approval ∨ state = .approved) :
    Evidences (creationEvent state) state := by
  intro st hst
  rcases h with rfl | rfl | rfl <;> cases st <;> first | rfl | exact absurd rfl hst

theorem evidences_decision (decision : Decision) :
    Evidences (decisionEvent decision) decision.toState := by
  intro st hst
  cases decision <;> cases st <;> first | rfl | exact absurd rfl hst

/-- No event type is evidence of two states. -/
theorem evidences_of_mem {e : LedgerEventType} {dst : SettlementState} (h : e ∈ dst.evidence) :
    Evidences e dst := by
  intro st _
  cases dst with
  | captured =>
    obtain rfl := List.mem_singleton.mp h
    cases st <;> rfl
  | rejected =>
    rcases List.mem_pair.mp h with rfl | rfl <;> cases st <;> rfl
  | abandoned =>
    rcases List.mem_pair.mp h with rfl | rfl <;> cases st <;> rfl
  | _ => exact absurd h List.not_mem_nil

/-! ## What each effect does to the agreement -/

/-- Settlements did not change, and no evidence was written. -/
theorem Agreement.ofLog {b b' : Books} (h : Agreement b) (hs : b'.settlements = b.settlements)
    (l : List LedgerRow) (hledger : b'.ledger = b.ledger ++ l)
    (hl : ∀ state id, state.evidence ≠ [] → attested l state id = 0) : Agreement b' := by
  intro state id hstate
  rw [hs, hledger, attested_append, hl state id hstate, Nat.add_zero]
  exact h state id hstate

/-- A settlement moved from a state the ledger does not record, and the row that says where to was
    written. -/
theorem Agreement.moved {b b' : Books} (h : Agreement b) {now : Int} {row : SettlementRow}
    {src dst : SettlementState} {rejectReason : Option JsString}
    (hm : SettlementMoved now b.settlements b'.settlements row src dst rejectReason)
    {l : List LedgerRow} {e : LedgerEventType} (hledger : b'.ledger = b.ledger ++ l)
    (hl : Logs l e row.id) (he : Evidences e dst) : Agreement b' := by
  intro state id hstate
  -- a state that can be left is recorded by no event
  have hsrc : src ≠ state := by
    rintro rfl
    have hallowed := hm.allowed
    cases src <;> first | exact hstate rfl | exact nomatch hallowed
  have hbefore : occupies state id row = 0 := by
    have hne : ¬ (row.id = id ∧ row.state = state) := fun hrow => hsrc (hm.state.symm.trans hrow.2)
    rw [occupies, if_neg hne]
  have hafter : (attested l state id : Int) = occupies state id (row.moveTo now dst rejectReason) := by
    rw [attested_logs hl he hstate, occupies, moveTo_id, moveTo_state]
    split <;> rfl
  have hsum := hm.sum (occupies state id)
  have hold := h state id hstate
  rw [hledger, attested_append]
  omega

/-- A settlement entered `settling`, of which the ledger says nothing. -/
theorem Agreement.entered {b b' : Books} (h : Agreement b) {now : Int} {row : SettlementRow}
    (hm : SettlementMoved now b.settlements b'.settlements row .approved .settling none)
    (hledger : b'.ledger = b.ledger) : Agreement b' := by
  intro state id hstate
  have hzero : ∀ r : SettlementRow, r.state = .approved ∨ r.state = .settling →
      occupies state id r = 0 := by
    intro r hr
    refine if_neg fun hrow => hstate ?_
    rcases hr with hr | hr <;> rw [← hrow.2, hr] <;> rfl
  have hbefore := hzero row (Or.inl hm.state)
  have hafter := hzero (row.moveTo now .settling none) (Or.inr (moveTo_state ..))
  have hsum := hm.sum (occupies state id)
  have hold := h state id hstate
  rw [hledger]
  omega

theorem Agreement.kickBumped {b b' : Books} (h : Agreement b) {id : JsString}
    (hb : KickBumped b.settlements b'.settlements id) (hledger : b'.ledger = b.ledger) :
    Agreement b' := by
  intro state settlementId hstate
  rw [hledger, h state settlementId hstate]
  symm
  exact Table.sum_update? hb _ fun r _ _ => rfl

/-- A settlement was created in the state its ledger row says. -/
theorem Agreement.added {b b' : Books} (h : Agreement b) {row : SettlementRow}
    (hadd : SettlementAdded b.settlements b'.settlements row) {l : List LedgerRow}
    (hledger : b'.ledger = b.ledger ++ l) {e : LedgerEventType} (hl : Logs l e row.id)
    (he : Evidences e row.state) : Agreement b' := by
  intro state id hstate
  have hafter : (attested l state id : Int) = occupies state id row := by
    rw [attested_logs hl he hstate, occupies]
    split <;> rfl
  have hsum := hadd.sum (occupies state id)
  have hold := h state id hstate
  rw [hledger, attested_append]
  omega

/-! ## The steps -/

theorem TaskStep.agreement {env : Env} {now : Int} {w w' : World} {c : TaskWhy} {next : Next Task}
    (h : TaskStep env now w c w' next) (ha : Agreement w.books) : Agreement w'.books := by
  cases h with
  | quiet l hl hw hn =>
    rw [hw]
    exact ha.ofLog rfl l rfl fun state id _ => attested_incidental hl state id
  | mandateRegistered l row hl hschema hadd hw hn =>
    rw [hw]
    exact ha.ofLog rfl l rfl fun state id _ => attested_incidental hl state id
  | mandateRevoked l mandateId hl hrev hw hn =>
    rw [hw]
    exact ha.ofLog rfl l rfl fun state id _ => attested_incidental hl state id
  | settlementCreated l row intent cart key status body hl hadd hfrom hstamp hw hn =>
    rw [hw]
    exact ha.added hadd rfl hl (evidences_creation hfrom.state_cases)
  | decided l row mandateRow approval rejectReason hl hmandate hsigned happrovals hm hw hn =>
    rw [hw]
    exact ha.moved hm rfl hl (evidences_decision approval.decision)
  | abandoned l row src hl hsrc hm hw hn =>
    rw [hw]
    rcases hl with hl | hl
    · exact ha.moved hm rfl hl (evidences_of_mem (by decide))
    · exact ha.moved hm rfl hl (evidences_of_mem (by decide))
  | kickBumped id hb hw hn =>
    rw [hw]
    exact ha.kickBumped hb rfl
  | attemptFailed l row src hl hm hwhy hw hn =>
    rw [hw]
    exact ha.ofLog rfl l rfl fun state id _ => attested_failure hl state id
  | captured caller copy orderId payments latest attempt settlement lrow hc hlast hstatus hid hsid
      hattempt hm hrec hw hn =>
    rw [hw]
    have hl : Logs [lrow] .payment_captured settlement.id :=
      ⟨lrow, rfl, hrec.eventType, by rw [hrec.settlementId, hsid]⟩
    exact ha.moved hm rfl hl (evidences_of_mem (by decide))
  | refunded caller settlementId attemptId paymentId refundId lrow hc hrec hw hn =>
    rw [hw]
    refine ha.ofLog rfl [lrow] rfl fun state id _ => attested_one ?_ id
    rw [hrec.eventType]
    cases state <;> rfl
  | operatorRefunded settlementId attemptId paymentId refundId amountPaise lrow hc hrec hw hn =>
    rw [hw]
    refine ha.ofLog rfl [lrow] rfl fun state id _ => attested_one ?_ id
    rw [hrec.eventType]
    cases state <;> rfl
  | _ =>
    -- the other moves touch neither the settlements nor the ledger
    rename_i hw _
    rw [hw]
    exact ha

theorem JobStep.agreement {env : Env} {now : Int} {w w' : World} {k : Kick} {c : RunWhy}
    {next : Next RunPoint} (h : JobStep env now w k c w' next) (ha : Agreement w.books) :
    Agreement w'.books := by
  cases h with
  | quiet l hl hw hn =>
    rw [hw]
    exact ha.ofLog rfl l rfl fun state id _ => attested_incidental hl state id
  | entered row mandateRow ctx hc hkick hre hm hw hn =>
    rw [hw]
    exact ha.entered hm rfl
  | gateRejected l row reason hl hc hkick hre hm hw hn =>
    rw [hw]
    exact ha.moved hm rfl hl (evidences_of_mem (by decide))
  | attemptInitiated l settlement attemptNum lastAttemptId attemptId receipt hl hc hnum hadd hw hn =>
    rw [hw]
    exact ha.ofLog rfl l rfl fun state id _ => attested_incidental hl state id
  | orderFailed l settlement attemptNum attemptId receipt err row hl hc hid hm hw hn =>
    rw [hw]
    exact ha.ofLog rfl l rfl fun state id _ => attested_failure hl state id
  | captured copy attemptNum attemptId providerOrderId result paymentId attempt settlement lrow hc
      hpaid hid hsid hattempt hm hrec hw hn =>
    rw [hw]
    have hl : Logs [lrow] .payment_captured settlement.id :=
      ⟨lrow, rfl, hrec.eventType, by rw [hrec.settlementId, hsid]⟩
    exact ha.moved hm rfl hl (evidences_of_mem (by decide))
  | captureLost settlement attemptNum attemptId providerOrderId result paymentId hc hpaid hlost hn =>
    rcases hlost with ⟨hw, -⟩ | ⟨attempt, -, -, -, hw⟩
    · rw [hw]
      exact ha
    · rw [hw]
      exact ha
  | retried l settlement attemptNum attemptId providerOrderId result hl hc hm hw hn =>
    rw [hw]
    exact ha.ofLog rfl l rfl fun state id _ => attested_failure hl state id
  | linkIssued l settlement lastAttemptId linkAttemptId receipt linkId shortUrl hl hc hissued hw hn =>
    rw [hw]
    exact ha.ofLog rfl l rfl fun state id _ => attested_incidental hl state id
  | _ =>
    rename_i hw _
    rw [hw]
    exact ha

/-- The agreement holds in every reachable state. -/
theorem Reachable.agreement {env : Env} {s : Sys} (h : Reachable env s) : Agreement s.world.books :=
  (soundOutline env).invariant (I := fun w => Agreement w.books)
    (fun _ _ _ _ _ _ _ ha hstep _ => TaskStep.agreement hstep ha)
    (fun _ _ _ _ _ _ _ _ ha hstep _ => JobStep.agreement hstep ha)
    (sound_initial env.crypto) (fun _ _ _ => rfl) h

/-- One settlement's share of the agreement. -/
theorem Agreement.of_mem {b : Books} (h : Agreement b) {r : SettlementRow}
    (hr : r ∈ b.settlements.rows) (state : SettlementState) (hstate : state.evidence ≠ []) :
    attested b.ledger state r.id = if r.state = state then 1 else 0 := by
  have hsum : b.settlements.sum (occupies state r.id) = occupies state r.id r := by
    refine Table.sum_single (settlements_nodup _) hr fun r' hr' hne => if_neg fun hrow => hne ?_
    exact settlement_eq hr' hr hrow.1
  have hcount := h state r.id hstate
  rw [hsum, occupies] at hcount
  by_cases hs : r.state = state
  · rw [if_pos hs]
    rw [if_pos ⟨rfl, hs⟩] at hcount
    omega
  · rw [if_neg hs]
    rw [if_neg fun hrow => hs hrow.2] at hcount
    omega

/-- **Settlement states and the ledger agree.**  In every reachable state a settlement is
    `captured`, `rejected` or `abandoned` exactly when one ledger row that records this names it,
    and otherwise none does; and it is still in the terminal state it was in at any earlier point
    of the run. -/
theorem settlement_and_ledger_agree {env : Env} {s : Sys} (h : Reachable env s) {r : SettlementRow}
    (hr : r ∈ s.world.db.settlements.rows) :
    (∀ state ∈ [SettlementState.captured, .rejected, .abandoned],
      (r.state = state ↔ attested s.world.db.ledger state r.id = 1) ∧
      (r.state ≠ state → attested s.world.db.ledger state r.id = 0)) ∧
    ∀ s₀, Reachable env s₀ → Run (facilitator env) anyStep s₀ s →
      ∀ r₀ ∈ s₀.world.db.settlements.rows, r₀.id = r.id → r₀.state.live = false →
        r.state = r₀.state := by
  refine ⟨fun state hstate => ?_, fun s₀ _ hrun r₀ hr₀ hid hfinal => ?_⟩
  · have hevidence : state.evidence ≠ [] := by
      simp only [List.mem_cons, List.not_mem_nil, or_false] at hstate
      rcases hstate with rfl | rfl | rfl <;> exact nofun
    have hcount : attested s.world.db.ledger state r.id = if r.state = state then 1 else 0 :=
      h.agreement.of_mem hr _ hevidence
    rw [hcount]
    by_cases hs : r.state = state
    · simp [hs]
    · simp [hs]
  · obtain ⟨r', hr', hkept⟩ := (persists_run hrun).settlements r₀ hr₀
    have hsame : r' = r := settlement_eq hr' hr (hkept.id.trans hid)
    rw [← hsame]
    exact hkept.final hfinal

/-- A captured settlement, and the one ledger row that says so. -/
theorem settlement_and_ledger_agree_demo : ∃ s r, Reachable demoEnv s ∧
    r ∈ s.world.db.settlements.rows ∧ attested s.world.db.ledger .captured r.id = 1 ∧
    attested s.world.db.ledger .abandoned r.id = 0 := by
  obtain ⟨s, hreach, hp⟩ := reachable_of_run demoEnv
    (demoCheckout ++
      [.resumeJob (.checkout (.ok ⟨true, some (js "p1"), some (js "captured"), none⟩))])
    (fun s => s.world.db.settlements.rows.any fun r => r.state == .captured) (by decide +kernel)
  obtain ⟨r, hr, hstate⟩ := List.any_eq_true.mp hp
  have hcaptured : r.state = .captured := beq_iff_eq.mp hstate
  have hagree := (settlement_and_ledger_agree hreach hr).1
  have hne : r.state ≠ .abandoned := by
    rw [hcaptured]
    exact nofun
  exact ⟨s, r, hreach, hr, (hagree .captured (by decide)).1.mp hcaptured,
    (hagree .abandoned (by decide)).2 hne⟩

end Hundi
