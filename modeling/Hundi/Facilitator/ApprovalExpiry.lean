/-
  Until when an approval is good.

  POST /approvals stores `expires_at`, `min(now + 1800, intent.expires_at)`, with the decision.  The
  settlement enters `settling` when the executor gets to its kick: behind other settlements, after
  kicks of the sweep, after a restart.  `reverifyAndEnterSettling` then reads the settlement and the
  mandate again, the mandate's own expiry included, but not the approval, and nothing else reads the
  column either.  An approval is honoured in time exactly as far as the kicks that re-verification
  accepts start in time (`StartsInTime`): such a kick is the only way into `settling`, and it leaves
  its time in `settling_at` for good.
-/
import Hundi.Facilitator.Approval

namespace Hundi

open Js EventLoop

/-- The settlement entered `settling`, if it did, before its approval expired. -/
structure EnteredInTime (r : SettlementRow) (approval : ApprovalRow) : Prop where
  stamped : r.state.entered = true → r.settlingAt.isSome = true
  inTime : ∀ t, r.settlingAt = some t → t ≤ approval.expiresAt

/-- Every settlement a human approved entered in time. -/
def ApprovalsHonoured (db : Db) : Prop :=
  ∀ r ∈ db.settlements.rows, ∀ approval ∈ db.approvals.rows, approval.settlementId = r.id →
    approval.decision = .approved → EnteredInTime r approval

/-- The kick that starts, if re-verification accepts it, starts before the approval of its settlement
    expires. -/
def StartsInTime (env : Env) (s : Sys) (a : Act) : Prop :=
  ∀ r ∈ s.world.db.settlements.rows, JobMove s a ⟨r.id, .execute⟩ .start → r.state = .approved →
    (∃ mandateRow ctx, Reverified env.crypto s.world.db s.clock r mandateRow ctx) →
    ∀ approval ∈ s.world.db.approvals.rows, approval.settlementId = r.id →
      approval.decision = .approved → s.clock ≤ approval.expiresAt

/-! ## The time of entry -/

/-- The settlements with a time of entry are the ones that have entered. -/
def Stamped (t : Settlements) : Prop :=
  ∀ r ∈ t.rows, r.settlingAt.isSome = r.state.entered

/-- No transition but the one into `settling` changes whether a settlement has entered, as long as what
    is `settling` is captured. -/
theorem entered_transition {src dst : SettlementState} (hallowed : dst ∈ settlementTransitions src)
    (hsrc : src = .settling → dst = .captured) (hdst : dst ≠ .settling) : src.entered = dst.entered := by
  revert hallowed hsrc hdst
  cases src <;> cases dst <;> decide

theorem Stamped.moved {t t' : Settlements} (h : Stamped t) {now : Int} {row : SettlementRow}
    {src dst : SettlementState} {rejectReason : Option JsString}
    (hm : SettlementMoved now t t' row src dst rejectReason)
    (hsrc : src = .settling → dst = .captured) : Stamped t' := by
  intro r hr
  rcases hm.mem_iff.mp hr with rfl | ⟨hr, -⟩
  · rw [moveTo_state]
    by_cases hdst : dst = .settling
    · rw [hdst]; rfl
    · rw [moveTo_settlingAt hdst, h row hm.mem, hm.state]
      exact entered_transition hm.allowed hsrc hdst
  · exact h r hr

/-- Every settlement of `t'` with a time of entry has it from `t`. -/
def StampsFrom (t t' : Settlements) : Prop :=
  ∀ r' ∈ t'.rows, r'.settlingAt = none ∨ ∃ r ∈ t.rows, r.id = r'.id ∧ r.settlingAt = r'.settlingAt

theorem StampsFrom.refl (t : Settlements) : StampsFrom t t := fun r hr => Or.inr ⟨r, hr, rfl, rfl⟩

theorem SettlementMoved.stampsFrom {now : Int} {t t' : Settlements} {row : SettlementRow}
    {src dst : SettlementState} {rejectReason : Option JsString}
    (hm : SettlementMoved now t t' row src dst rejectReason) (hdst : dst ≠ .settling) :
    StampsFrom t t' := by
  intro r hr
  rcases hm.mem_iff.mp hr with rfl | ⟨hr, -⟩
  · exact Or.inr ⟨row, hm.mem, (moveTo_id ..).symm, (moveTo_settlingAt hdst).symm⟩
  · exact Or.inr ⟨r, hr, rfl, rfl⟩

/-! ## The invariant -/

/-- No settlement has a time of entry after its approval has expired. -/
def Timely (t : Settlements) (p : Approvals) : Prop :=
  ∀ r ∈ t.rows, ∀ approval ∈ p.rows, approval.settlementId = r.id → approval.decision = .approved →
    ∀ entry, r.settlingAt = some entry → entry ≤ approval.expiresAt

structure Punctual (b : Books) : Prop where
  stamped : Stamped b.settlements
  timely : Timely b.settlements b.approvals

theorem Timely.stampsFrom {t t' : Settlements} {p : Approvals} (h : Timely t p) (hs : StampsFrom t t') :
    Timely t' p := by
  intro r' hr' approval ha hid hd entry hentry
  rcases hs r' hr' with hnone | ⟨r, hr, hrid, hsame⟩
  · rw [hnone] at hentry
    exact nomatch hentry
  · exact h r hr approval ha (hid.trans hrid.symm) hd entry (hsame.trans hentry)

/-- A decision on a settlement that has not entered. -/
theorem Timely.decided {t : Settlements} {p p' : Approvals} (h : Timely t p) {approval : ApprovalRow}
    (happrovals : ∀ a, a ∈ p'.rows ↔ a ∈ p.rows ∨ a = approval)
    (hnone : ∀ r ∈ t.rows, approval.settlementId = r.id → r.settlingAt = none) : Timely t p' := by
  intro r hr a ha hid hd entry hentry
  rcases (happrovals a).mp ha with ha | rfl
  · exact h r hr a ha hid hd entry hentry
  · rw [hnone r hr hid] at hentry
    exact nomatch hentry

/-- A settlement enters at a time its approval allows. -/
theorem Timely.entered {t t' : Settlements} {p : Approvals} (h : Timely t p) {now : Int}
    {row : SettlementRow} {src : SettlementState} {rejectReason : Option JsString}
    (hm : SettlementMoved now t t' row src .settling rejectReason)
    (hnow : ∀ approval ∈ p.rows, approval.settlementId = row.id → approval.decision = .approved →
      now ≤ approval.expiresAt) : Timely t' p := by
  intro r hr approval ha hid hd entry hentry
  rcases hm.mem_iff.mp hr with rfl | ⟨hr, -⟩
  · obtain rfl : now = entry := Option.some.inj hentry
    exact hnow approval ha (hid.trans (moveTo_id ..)) hd
  · exact h r hr approval ha hid hd entry hentry

theorem KickBumped.stampsFrom {t t' : Settlements} {id : JsString} (h : KickBumped t t' id) :
    StampsFrom t t' := by
  intro r hr
  rcases (Table.mem_update? h).mp hr with ⟨r₀, hr₀, -, rfl⟩ | ⟨hr, -⟩
  · exact Or.inr ⟨r₀, hr₀, rfl, rfl⟩
  · exact Or.inr ⟨r, hr, rfl, rfl⟩

theorem Stamped.bumped {t t' : Settlements} {id : JsString} (h : Stamped t) (hb : KickBumped t t' id) :
    Stamped t' := by
  intro r hr
  rcases (Table.mem_update? hb).mp hr with ⟨r₀, hr₀, -, rfl⟩ | ⟨hr, -⟩
  · exact h r₀ hr₀
  · exact h r hr

/-- A transition other than the one into `settling`. -/
theorem Punctual.moved {b b' : Books} (h : Punctual b) {now : Int} {row : SettlementRow}
    {src dst : SettlementState} {rejectReason : Option JsString}
    (hm : SettlementMoved now b.settlements b'.settlements row src dst rejectReason)
    (happrovals : b'.approvals = b.approvals) (hsrc : src = .settling → dst = .captured)
    (hdst : dst ≠ .settling) : Punctual b' where
  stamped := h.stamped.moved hm hsrc
  timely := by
    rw [happrovals]
    exact h.timely.stampsFrom (hm.stampsFrom hdst)

theorem TaskStep.punctual {env : Env} {now : Int} {w w' : World} {c : TaskWhy} {next : Next Task}
    (h : TaskStep env now w c w' next) (hp : Punctual w.books) : Punctual w'.books := by
  cases h with
  | settlementCreated l row intent cart key status body hl hadd hfrom hstamp hw hn =>
    rw [hw]
    refine ⟨fun r hr => ?_, hp.timely.stampsFrom fun r hr => ?_⟩
    · rcases (hadd.mem_iff r).mp hr with hr | rfl
      · exact hp.stamped r hr
      · rw [hstamp.settling]
        rcases hfrom.state_cases with h | h | h <;> rw [h] <;> rfl
    · rcases (hadd.mem_iff r).mp hr with hr | rfl
      · exact Or.inr ⟨r, hr, rfl, rfl⟩
      · exact Or.inl hstamp.settling
  | decided l row mandateRow approval rejectReason hl hmandate hsigned happrovals hm hw hn =>
    rw [hw]
    have hdst : approval.decision.toState ≠ .settling := by cases approval.decision <;> exact nofun
    have hstamped := hp.stamped.moved hm nofun
    have htimely := hp.timely.stampsFrom (hm.stampsFrom hdst)
    refine ⟨hstamped, htimely.decided happrovals fun r hr hid => ?_⟩
    -- the settlement of the decision has just been moved
    have hstate : r.state.entered = false := by
      rcases hm.mem_iff.mp hr with rfl | ⟨-, hne⟩
      · rw [moveTo_state]
        cases approval.decision <;> rfl
      · exact absurd (hid.symm.trans hsigned.settlementId) hne
    rw [← hstamped r hr] at hstate
    exact Option.isNone_iff_eq_none.mp (Option.isSome_eq_false_iff.mp hstate)
  | abandoned l row src hl hsrc hm hw hn =>
    rw [hw]
    exact hp.moved hm rfl (fun h => absurd h hsrc) nofun
  | kickBumped id hb hw hn =>
    rw [hw]
    exact ⟨hp.stamped.bumped hb, hp.timely.stampsFrom hb.stampsFrom⟩
  | captured caller copy orderId payments latest attempt settlement lrow hc hlast hstatus hid hsid
      hattempt hm hrec hw hn =>
    rw [hw]
    exact hp.moved hm rfl (fun _ => rfl) nofun
  | _ =>
    rename_i hw _
    rw [hw]
    exact ⟨hp.stamped, hp.timely⟩

theorem JobStep.punctual {env : Env} {s : Sys} {a : Act} {w' : World} {k : Kick} {c : RunWhy}
    {next : Next RunPoint} (h : JobStep env s.clock s.world k c w' next) (hmove : JobMove s a k c)
    (hok : StartsInTime env s a) (hp : Punctual s.world.books) : Punctual w'.books := by
  cases h with
  | entered row mandateRow ctx hc hkick hre hm hw hn =>
    rw [hw]
    rw [hc, hkick] at hmove
    exact ⟨hp.stamped.moved hm nofun, hp.timely.entered hm
      (hok row hm.mem hmove hm.state ⟨mandateRow, ctx, hre⟩)⟩
  | gateRejected l row reason hl hc hkick hre hm hw hn =>
    rw [hw]
    exact hp.moved hm rfl nofun nofun
  | captured copy attemptNum attemptId orderId result paymentId attempt settlement lrow hc hpaid hid
      hsid hattempt hm hrec hw hn =>
    rw [hw]
    exact hp.moved hm rfl (fun _ => rfl) nofun
  | captureLost settlement attemptNum attemptId orderId result paymentId hc hpaid hlost hn =>
    rcases hlost with ⟨hw, -⟩ | ⟨attempt, -, -, -, hw⟩
    · rw [hw]
      exact hp
    · rw [hw]
      exact ⟨hp.stamped, hp.timely⟩
  | _ =>
    rename_i hw _
    rw [hw]
    exact ⟨hp.stamped, hp.timely⟩

def punctualOutline (env : Env) : Outline (facilitatorSpec env) (StartsInTime env) where
  inv := fun w => Punctual w.books
  task := fun _ _ => True
  job := fun _ _ _ => True
  taskRel := fun _ _ => True
  jobRel := fun _ _ => True
  task_done := fun _ => trivial
  job_done := fun _ _ => trivial
  taskStep := fun _ _ _ _ _ hp _ _ _ h => ⟨TaskStep.punctual h hp, trivial, trivial⟩
  jobStep := fun _ _ _ _ _ _ hp _ hmove hok h => ⟨JobStep.punctual h hmove hok hp, trivial, trivial⟩
  task_stable := fun _ _ _ _ _ _ => trivial
  job_stable := fun _ _ _ _ _ _ _ => trivial

/-! ## The results -/

/-- **Approvals are honoured in time as far as their kicks start in time.**  Nothing but a kick that
    re-verification accepts lets a settlement in, whatever the queue, the sweeps and the restarts. -/
theorem approvals_honoured {env : Env} {s : Sys}
    (h : Run (facilitator env) (StartsInTime env) Sys.initial s) : ApprovalsHonoured s.world.db := by
  have hp : Punctual s.world.books := ((punctualOutline env).holds
    ⟨fun r hr => absurd hr List.not_mem_nil, fun r hr => absurd hr List.not_mem_nil⟩ h).inv
  exact fun r hr approval ha hid hd =>
    ⟨fun he => (hp.stamped r hr).trans he, hp.timely r hr approval ha hid hd⟩

/-- No approval of the settlement whose kick starts has expired. -/
def startsInTime (s : Sys) : Act → Bool
  | .startJob _ =>
    match s.queue with
    | k :: _ => s.world.db.approvals.rows.all fun approval =>
      approval.settlementId != k.settlementId || decide (s.clock ≤ approval.expiresAt)
    | [] => true
  | _ => true

theorem startsInTime_of_check (env : Env) (s : Sys) (a : Act) (h : startsInTime s a = true) :
    StartsInTime env s a := by
  intro r _ hmove _ _ approval ha hid _
  cases hmove with
  | start seed _ rest hfree hjob hq =>
    rw [startsInTime, hq] at h
    have hcheck := List.all_eq_true.mp h approval ha
    rw [hid, bne_self_eq_false, Bool.false_or, decide_eq_true_eq] at hcheck
    exact hcheck

/-- The kick of an approval given a moment ago starts in time. -/
theorem approvals_honoured_demo : ∃ s : Sys,
    (s.world.db.settlements.rows.any fun r => r.state == .settling &&
      s.world.db.approvals.rows.any fun approval => approval.settlementId == r.id) = true ∧
    ApprovalsHonoured s.world.db := by
  have hcheck : (runIf (facilitator demoEnv) startsInTime Sys.initial demoApproved).any
      (fun s => s.world.db.settlements.rows.any fun r => r.state == .settling &&
        s.world.db.approvals.rows.any fun approval => approval.settlementId == r.id) = true := by
    decide +kernel
  obtain ⟨s, hs, hp⟩ := Option.any_eq_true _ _ |>.mp hcheck
  exact ⟨s, hp, approvals_honoured (Run.of_runIf (startsInTime_of_check demoEnv) hs)⟩

/-- The process goes down before the kick starts.  When it is back, an hour later, the sweep finds the
    settlement `approved` and kicks it. -/
def demoLateStart : List Act :=
  demoApproved.dropLast ++
    [.crash, .clock 5000, .request .sweepTick [], .runTask [], .resumeTask 0 .ready] ++
    List.replicate 7 (.runTask []) ++ [.startJob []]

/-- The settlement entered and its approval had expired. -/
def enteredLate (db : Db) : Bool :=
  db.settlements.rows.any fun r => db.approvals.rows.any fun approval =>
    approval.settlementId == r.id && approval.decision == .approved &&
      r.settlingAt.any fun entry => decide (approval.expiresAt < entry)

theorem not_honoured_of_late {db : Db} (h : enteredLate db = true) : ¬ ApprovalsHonoured db := by
  intro hall
  obtain ⟨r, hr, h⟩ := List.any_eq_true.mp h
  obtain ⟨approval, ha, h⟩ := List.any_eq_true.mp h
  rw [Bool.and_eq_true, Bool.and_eq_true, beq_iff_eq, beq_iff_eq] at h
  obtain ⟨⟨hid, hd⟩, h⟩ := h
  obtain ⟨entry, hentry, hlate⟩ := Option.any_eq_true _ _ |>.mp h
  have := (hall r hr approval ha hid hd).inTime entry hentry
  have := of_decide_eq_true hlate
  omega

/-- **Approvals do not expire.**  This one is good until 2800 and used at 5000. -/
theorem approval_used_late :
    ¬ ∀ (env : Env) (s : Sys), Reachable env s → ApprovalsHonoured s.world.db := by
  intro hall
  obtain ⟨s, hs, hlate⟩ := reachable_of_run demoEnv demoLateStart (fun s => enteredLate s.world.db)
    (by decide +kernel)
  exact not_honoured_of_late hlate (hall demoEnv s hs)

end Hundi
