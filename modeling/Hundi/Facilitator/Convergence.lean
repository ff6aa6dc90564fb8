/-
  No settlement is stuck, unless an attempt of it is.

  Every sweep pass brings a settlement that is not over nearer to its end (`pass_nearer`), as long as
  the first rule ends each live attempt of it (`Answered`) and no run of the executor falls back to a
  payment link for it (`NoFallback`).  Nothing takes it further away, so after `passesLeft` passes it is
  over, whatever happens in between (`swept_settlement_settles`).  A pass counts when it finds the
  executor at rest and leaves it so: one that begins while a run waits for its browser does not.

  `Ahead` says at every point of a pass what of it is still to come for the settlement: a rule of the
  pass, the run that the pass has kicked, or nothing more, a pass being saved.

  No rule ends the attempt of a payment link, and no rule resumes a settlement whose attempt is live.
-/
import Hundi.Facilitator.SweepPass
import Hundi.Facilitator.PaymentLink

namespace Hundi

open Js EventLoop

/-- The settlement is over, and no longer in the slot its mandate has for a live one. -/
def Terminated (w : World) (id : JsString) : Prop :=
  ∃ r ∈ w.db.settlements.rows, r.id = id ∧ r.state.live = false ∧
    (r.state = .captured ∨ r.state = .rejected ∨ r.state = .abandoned)

/-- The timeouts have passed: that of the settlement's state, and that of each live attempt of it. -/
structure Due (env : Env) (id : JsString) (s : Sys) : Prop where
  overdue : ∀ r ∈ s.world.db.settlements.rows, r.id = id → Overdue env s.clock r
  stale : ∀ a ∈ s.world.db.attempts.rows, a.settlementId = id → a.state.active = true →
    a.createdAt < secondsAgo s.clock env.ttls.attemptStaleMs

/-- A step while a pass is under way and its kicks run to completion: the clock goes forward, the
    provider lists what it listed and gives orders ids of their own, the ids a run makes up are new, and
    the process does not crash. -/
structure PassStep (payments : JsString → List RazorpayPayment) (s : Sys) (a : Act) : Prop where
  orders : FreshOrders s a
  clock : ∀ now, a = .clock now → s.clock ≤ now
  listed : ∀ caller copy orderId listed,
    TaskMove s a (.resumed (.reconcile caller (.fetchOrderPayments copy orderId)) (.payments listed)) →
    listed = .ok (payments orderId)
  fresh : FreshAttempt s a
  runs : a ≠ .crash

/-- The first rule ends each live attempt of the settlement: its order is decided, or it is `initiated`
    and has none. -/
def Answered (payments : JsString → List RazorpayPayment) (id : JsString) (s : Sys) : Prop :=
  ∀ a ∈ s.world.db.attempts.rows, a.settlementId = id → a.state.active = true →
    (∃ c o, a.providerOrderId = some (c :: o) ∧ Decided payments (c :: o)) ∨
    (∀ c o, a.providerOrderId ≠ some (c :: o)) ∧ a.state = .initiated

/-- The step does not take a run for the settlement to its payment link. -/
def NoFallback (id : JsString) (s : Sys) (a : Act) : Prop :=
  ∀ k c, JobMove s a k c → ¬ FallsBack id c

/-! ## What is ahead -/

/-- A pass that began at `start`, for the row `r` of a settlement that is not over. -/
structure Begun (env : Env) (r : SettlementRow) (start : Int) (n : Nat) : Prop where
  live : r.state.live = true
  overdue : Overdue env start r
  left : r.state = .approved → env.ttls.maxApprovedKicks - r.kickCount + (maxAttempts + 2) ≤ n + 1

/-- The pass still has something to do for the settlement, and has not kicked it. -/
structure Ticking (payments : JsString → List RazorpayPayment) (r : SettlementRow) (start : Int) (s : Sys)
    (m : Next Task) : Prop where
  row : ∃ r' ∈ s.world.db.settlements.rows, r.Again r'
  unkicked : r.state = .settling → r.id ∉ s.inFlight
  task : ∃ t, m.task? = some t ∧ t.Nears payments r start s.world

/-- A pass is saved, or the settlement's run is on its way, or the pass goes on. -/
def Ahead (env : Env) (payments : JsString → List RazorpayPayment) (r : SettlementRow) (start : Int)
    (n : Nat) (s : Sys) (m : Next Task) : Prop :=
  Below env r.id n s.world ∨ (r.state = .settling ∧ Resuming r s) ∨ Ticking payments r start s m

section

variable {env : Env} {payments : JsString → List RazorpayPayment} {r : SettlementRow} {start : Int}
  {n : Nat} {s s' : Sys} {a : Act}

theorem Begun.passing (hbegun : Begun env r start n) (hrun : Run (facilitator env) FreshOrders Sys.initial s)
    (hrow : ∃ r' ∈ s.world.db.settlements.rows, r.Again r') (hle : start ≤ s.clock) :
    Passing env r start s.clock n s.world where
  sound := (ordersOutline_holds hrun).inv.1
  one := (ordersOutline_holds hrun).inv.2
  dated := dated_run hrun
  row := hrow
  live := hbegun.live
  overdue := hbegun.overdue
  since := hle
  left := hbegun.left

/-- A kick for the settlement, if there is one, is on its way. -/
theorem Ticking.kicked (h : sysStep env s a = some s') {m : Next Task} (ht : Ticking payments r start s m)
    (hrow' : ∃ r' ∈ s'.world.db.settlements.rows, r.Again r') :
    (r.state = .settling → r.id ∉ s'.inFlight) ∨ (r.state = .settling ∧ Resuming r s') := by
  by_cases hstate : r.state = .settling
  · obtain ⟨r', hr', hagain⟩ := ht.row
    rcases flight_step h ⟨r', hr', hagain.id, hagain.state.trans hstate⟩ (ht.unkicked hstate) with
      hnot | ⟨hqueue, hidle⟩
    · exact Or.inl fun _ => hnot
    · exact Or.inr ⟨hstate, hrow', hidle, Or.inl hqueue⟩
  · exact Or.inl fun hsettling => absurd hsettling hstate

/-- The pass's own step leads on. -/
theorem Ticking.leads (hbegun : Begun env r start n)
    (hrun : Run (facilitator env) FreshOrders Sys.initial s) (hle : start ≤ s.clock) {m m' : Next Task}
    (ht : Ticking payments r start s m) (hok : PassStep payments s a)
    (h : TaskRan (facilitator env) s a m m' s')
    (hrow' : ∃ r' ∈ s'.world.db.settlements.rows, r.Again r') :
    Below env r.id n s'.world ∨ (∃ t, m'.task? = some t ∧ t.Nears payments r start s'.world) ∨
      (r.state = .settling ∧ r.id ∈ s'.inFlight) := by
  obtain ⟨c, -, -, hstep⟩ := h.spec (facilitatorSpec env)
  have hstays : Stays r s.world s'.world := ⟨hrow', TaskStep.stillLive hstep r.id,
    fun id orderId hhas => (TaskStep.sameOrders hstep id orderId).mpr hhas⟩
  have hpassing := hbegun.passing hrun ht.row hle
  have hkick : ∀ {s₀ : Sys} {d : Done}, Leads env payments r start n d →
      Below env r.id n (s₀.finish (facilitator env) d).world ∨
      (∃ t, d.next.task? = some t ∧ t.Nears payments r start (s₀.finish (facilitator env) d).world) ∨
      (r.state = .settling ∧ r.id ∈ (s₀.finish (facilitator env) d).inFlight) := by
    intro s₀ d hleads
    rw [finish_world]
    refine hleads.imp_right fun h => h.imp_right fun ⟨hstate, k, hk, hid⟩ => ⟨hstate, ?_⟩
    exact (mem_inFlight_finish (facilitator env)).mpr (Or.inr ⟨k, hk, hid.symm⟩)
  obtain ⟨t, htask, hnears⟩ := ht.task
  cases h with
  | request q seed hfree => cases htask
  | runTask seed u hcpu =>
    obtain rfl := Option.some.inj htask
    refine hkick (hnears.runTask hpassing ?_)
    rw [finish_world] at hstays
    exact hstays
  | resumeTask i b u o hfree hu ho =>
    obtain rfl := Option.some.inj htask
    refine hkick (hnears.resumeTask hpassing ho ?_ ?_)
    · rw [finish_world] at hstays
      exact hstays
    · rintro caller copy orderId listed rfl rfl
      exact hok.listed caller copy orderId listed (.resumeTask i _ _ hfree hu)

/-- **The pass's own step** takes it on, kicks the settlement or saves it a pass. -/
theorem Ticking.own (hbegun : Begun env r start n)
    (hrun : Run (facilitator env) FreshOrders Sys.initial s) (hb : Below env r.id (n + 1) s.world)
    (hle : start ≤ s.clock) {m m' : Next Task} (ht : Ticking payments r start s m)
    (hok : PassStep payments s a) (h : TaskRan (facilitator env) s a m m' s') :
    Ahead env payments r start n s' m' := by
  rcases again_step h.step hb ht.row with hrow' | hbelow
  · rcases ht.kicked h.step hrow' with hnot | hresuming
    · rcases ht.leads hbegun hrun hle hok h hrow' with hbelow | htask | ⟨hstate, hflight⟩
      · exact Or.inl hbelow
      · exact Or.inr (Or.inr ⟨hrow', hnot, htask⟩)
      · exact absurd hflight (hnot hstate)
    · exact Or.inr (Or.inl hresuming)
  · exact Or.inl hbelow

/-- **A step of the others** leaves the pass what it has to do, kicks the settlement or saves it a
    pass. -/
theorem Ticking.other (hbegun : Begun env r start n)
    (hrun : Run (facilitator env) FreshOrders Sys.initial s) (hb : Below env r.id (n + 1) s.world)
    (hle : start ≤ s.clock) {m : Next Task} (ht : Ticking payments r start s m)
    (hok : PassStep payments s a) (hlink : NoFallback r.id s a)
    (h : sysStep env s a = some s') : Ahead env payments r start n s' m := by
  have hrun' := hrun.tail hok.orders h
  rcases again_step h hb ht.row with hrow' | hbelow
  · rcases live_step h r.id hlink with hlive | hmore
    · rcases ht.kicked h hrow' with hnot | hresuming
      · obtain ⟨t, htask, hnears⟩ := ht.task
        refine Or.inr (Or.inr ⟨hrow', hnot, t, htask, hnears.kept hlive ?_ (persists_step h).attempts⟩)
        exact fun id orderId hhas => hasOrder_step (ordersOutline_holds hrun) hok.orders h hhas
      · exact Or.inr (Or.inl hresuming)
    · -- only a settlement that is `settling` has attempts
      obtain ⟨b, hmem, hsid⟩ := exists_attempt (Nat.zero_lt_of_lt hmore)
      have hpassing := hbegun.passing hrun' hrow' (hle.trans (clock_step h hok.clock))
      have hstate := hpassing.settling hmem hsid
      exact Or.inl (hb.of_attempt hstate ht.row hrow' hmore (Reachable.withinBudget hrun'.any))
  · exact Or.inl hbelow

/-- A resume that is on its way, or a pass that is saved, whatever the step. -/
theorem ahead_rest (hrun : Run (facilitator env) FreshOrders Sys.initial s)
    (hb : Below env r.id (n + 1) s.world) (hok : PassStep payments s a) (hlink : NoFallback r.id s a)
    (h : sysStep env s a = some s')
    (hA : Below env r.id n s.world ∨ (r.state = .settling ∧ Resuming r s)) :
    Below env r.id n s'.world ∨ (r.state = .settling ∧ Resuming r s') := by
  rcases hA with hbelow | ⟨hstate, hresuming⟩
  · exact Or.inl (hbelow.step h)
  · have hwithin := Reachable.withinBudget (hrun.tail hok.orders h).any
    exact (hresuming.step h hstate hb hwithin hok.runs hlink hok.fresh).symm.imp_right (⟨hstate, ·⟩)

/-- **What is ahead stays ahead** by the pass's own steps. -/
theorem Ahead.own (hbegun : Begun env r start n)
    (hrun : Run (facilitator env) FreshOrders Sys.initial s) (hb : Below env r.id (n + 1) s.world)
    (hle : start ≤ s.clock) {m m' : Next Task} (hA : Ahead env payments r start n s m)
    (hok : PassStep payments s a) (hlink : NoFallback r.id s a)
    (h : TaskRan (facilitator env) s a m m' s') : Ahead env payments r start n s' m' := by
  rcases hA with hbelow | hresuming | hticking
  · exact Or.inl (hbelow.step h.step)
  · exact (ahead_rest hrun hb hok hlink h.step (Or.inr hresuming)).imp_right Or.inl
  · exact hticking.own hbegun hrun hb hle hok h

/-- The same by the steps of the others. -/
theorem Ahead.other (hbegun : Begun env r start n)
    (hrun : Run (facilitator env) FreshOrders Sys.initial s) (hb : Below env r.id (n + 1) s.world)
    (hle : start ≤ s.clock) {m : Next Task} (hA : Ahead env payments r start n s m)
    (hok : PassStep payments s a) (hlink : NoFallback r.id s a) (h : sysStep env s a = some s') :
    Ahead env payments r start n s' m := by
  rcases hA with hbelow | hresuming | hticking
  · exact Or.inl (hbelow.step h)
  · exact (ahead_rest hrun hb hok hlink h (Or.inr hresuming)).imp_right Or.inl
  · exact hticking.other hbegun hrun hb hle hok hlink h

/-! ## One pass -/

/-- A pass begins with all its rules to come. -/
theorem ticking_of_request (hr : r ∈ s.world.db.settlements.rows) (hnot : r.id ∉ s.inFlight)
    (hdue : Due env r.id s) (hanswered : Answered payments r.id s) {seed : JsString} {m : Next Task}
    (h : TaskRan (facilitator env) s (.request .sweepTick seed) .done m s') :
    Ticking payments r s.clock s' m := by
  cases h with
  | request _ _ hfree =>
    refine ⟨⟨r, hr, .refl r⟩, fun _ => hnot, .sweep (sweepRunOnce env s.clock s.world), rfl, ?_⟩
    intro a ha hid hactive
    refine ⟨⟨a.id, a.settlementId, a.state, a.providerOrderId⟩, List.mem_map.mpr ⟨a, ?_, rfl⟩, rfl, ?_⟩
    · refine List.mem_filter.mpr ⟨ha, ?_⟩
      rw [Bool.and_eq_true]
      exact ⟨hactive, decide_eq_true (hdue.stale a ha hid hactive)⟩
    · rcases hanswered a ha hid hactive with ⟨c, o, horder, hdecided⟩ | ⟨hnone, hstate⟩
      · exact Or.inl ⟨c, o, horder, ⟨a, ha, rfl, horder⟩, hdecided⟩
      · exact Or.inr ⟨hnone, hstate, hstate⟩

/-- At rest no run is on its way. -/
theorem Resuming.not_atRest (h : Resuming r s) : ¬ s.AtRest := by
  intro hrest
  rcases h.ahead with hqueued | ⟨k, settlement, attemptNum, lastAttemptId, hjob, -⟩
  · rw [hrest.queue] at hqueued
    exact absurd hqueued List.not_mem_nil
  · rw [hrest.job] at hjob
    cases hjob

/-- **A pass brings a settlement nearer to its end.** -/
theorem pass_nearer {id : JsString} (hrun : Run (facilitator env) FreshOrders Sys.initial s)
    (hb : Below env id (n + 1) s.world) (hdue : Due env id s) (hanswered : Answered payments id s) {v : Sys}
    (h : Round (facilitator env) (fun s a => PassStep payments s a ∧ NoFallback id s a) .sweepTick s v) :
    Below env id n v.world := by
  obtain ⟨r, hr, rfl, hle⟩ := hb
  cases hlive : r.state.live with
  | false =>
    have hbelow : Below env r.id n s.world := by
      refine ⟨r, hr, rfl, ?_⟩
      rw [passesLeft_eq_zero.mpr hlive]
      exact Nat.zero_le n
    exact h.run_all.invariant (I := fun s => Below env r.id n s.world)
      (fun hb _ hstep => hb.step hstep) hbelow
  | true =>
    obtain ⟨hrest, hok, hreq, f, hrun', hend⟩ := h
    have hbegun : Begun env r s.clock n := ⟨hlive, hdue.overdue r hr rfl, fun hstate => by
      rwa [passesLeft_approved env _ hstate] at hle⟩
    -- what every step keeps, and what a pass has ahead
    have hkeep : ∀ {s a s' : _}, Run (facilitator env) FreshOrders Sys.initial s ∧
        Below env r.id (n + 1) s.world → PassStep payments s a ∧ NoFallback r.id s a →
        sysStep env s a = some s' → Run (facilitator env) FreshOrders Sys.initial s' ∧
        Below env r.id (n + 1) s'.world := fun hI hok hstep =>
      ⟨hI.1.tail hok.1.orders hstep, hI.2.step hstep⟩
    have hstart := ticking_of_request hr ((chained_run hrun).not_mem hrest r.id) hdue hanswered hreq
    obtain ⟨hI, -, hahead⟩ := f.invariant
      (A := fun t m => s.clock ≤ t.clock ∧ Ahead env payments r s.clock n t m) hkeep
      (fun hI hA _ hok h => ⟨hA.1.trans (clock_step h.step hok.1.clock),
        hA.2.own hbegun hI.1 hI.2 hA.1 hok.1 hok.2 h⟩)
      (fun hI hA _ hok h => ⟨hA.1.trans (clock_step h hok.1.clock),
        hA.2.other hbegun hI.1 hI.2 hA.1 hok.1 hok.2 h⟩)
      (hkeep ⟨hrun, r, hr, rfl, hle⟩ hok hreq.step)
      ⟨clock_step hreq.step hok.1.clock, Or.inr (Or.inr hstart)⟩
    have hlater := hahead.imp_right fun h => h.resolve_right fun hticking => by
      obtain ⟨t, ht, -⟩ := hticking.task
      cases ht
    have hlast := hrun'.invariant
      (I := fun t => (Run (facilitator env) FreshOrders Sys.initial t ∧
        Below env r.id (n + 1) t.world) ∧
        (Below env r.id n t.world ∨ (r.state = .settling ∧ Resuming r t)))
      (fun hI hok hstep => ⟨hkeep hI.1 hok hstep,
        ahead_rest hI.1.1 hI.1.2 hok.1 hok.2 hstep hI.2⟩) ⟨hI, hlater⟩
    exact hlast.2.resolve_right fun hresuming => hresuming.2.not_atRest hend

end

/-! ## All passes -/

/-- What needs no further pass is over. -/
theorem Below.terminated {env : Env} {s : Sys} {id : JsString}
    (hrun : Run (facilitator env) FreshOrders Sys.initial s) (h : Below env id 0 s.world) :
    Terminated s.world id := by
  obtain ⟨r, hr, hid, hle⟩ := h
  have hlive := passesLeft_eq_zero.mp (Nat.le_zero.mp hle)
  refine ⟨r, hr, hid, hlive, ?_⟩
  have hsettled := ((ordersOutline_holds hrun).inv.1.settlement r hr).state
  revert hlive hsettled
  cases r.state <;> decide

/-- **A settlement is over after so many passes as it is from its end**, whatever happens between them,
    if each begins and ends with the executor at rest, begins with its timeouts passed and its live
    attempts answered, and takes no run of it to a payment link. -/
theorem swept_settlement_settles {env : Env} {payments : JsString → List RazorpayPayment} {s t : Sys}
    (hs : Run (facilitator env) FreshOrders Sys.initial s) {r : SettlementRow}
    (hr : r ∈ s.world.db.settlements.rows) {n : Nat} (hn : passesLeft env s.world.db r ≤ n)
    (h : Rounds (facilitator env) FreshOrders
      (fun s a => PassStep payments s a ∧ NoFallback r.id s a) .sweepTick
      (fun s => Due env r.id s ∧ Answered payments r.id s) s n t) : Terminated t.world r.id := by
  have hround : ∀ {n s s'}, Run (facilitator env) FreshOrders Sys.initial s → Below env r.id (n + 1) s.world →
      Due env r.id s ∧ Answered payments r.id s →
      Round (facilitator env) (fun s a => PassStep payments s a ∧ NoFallback r.id s a) .sweepTick s s' →
      Run (facilitator env) FreshOrders Sys.initial s' ∧ Below env r.id n s'.world :=
    fun hI hb hstarts hround => ⟨hI.trans (hround.run_all.mono fun _ _ hok => hok.1.orders),
      pass_nearer hI hb hstarts.1 hstarts.2 hround⟩
  obtain ⟨hrun, hbelow⟩ := h.descent (I := Run (facilitator env) FreshOrders Sys.initial)
    (B := fun n s => Below env r.id n s.world) (m := 0) (fun hI hok hstep => hI.tail hok hstep)
    (fun _ hb _ hstep => hb.step hstep) hround hs ⟨r, hr, rfl, hn⟩
  exact hbelow.terminated hrun

/-! ## What waits -/

/-- The first rule does not end the attempt: the provider has not decided its order, or it has no order
    and is not `initiated`. -/
def Unanswered (payments : JsString → List RazorpayPayment) (a : AttemptRow) : Prop :=
  (∃ c o, a.providerOrderId = some (c :: o) ∧ ¬ Decided payments (c :: o)) ∨
  (∀ c o, a.providerOrderId ≠ some (c :: o)) ∧ a.state ≠ .initiated

/-- Every settlement is `settling` and has a live attempt, and no live attempt is answered. -/
structure Waiting (payments : JsString → List RazorpayPayment) (db : Db) : Prop where
  settling : ∀ r ∈ db.settlements.rows, r.state = .settling ∧ hasActiveAttempt db r.id = true
  unanswered : ∀ a ∈ db.attempts.rows, a.state.active = true → Unanswered payments a

/-- Nothing is under way. -/
structure Quiet (s : Sys) : Prop where
  rest : s.AtRest
  cpu : s.cpu = none
  parked : s.parked = []

/-- An action of a task. -/
def ofTask : Act → Bool
  | .request _ _ => true
  | .runTask _ => true
  | .resumeTask _ _ => true
  | _ => false

theorem passStep_of_ofTask {payments : JsString → List RazorpayPayment} {s : Sys} {a : Act}
    (ha : ofTask a = true)
    (hlisted : ∀ caller copy orderId listed,
      TaskMove s a (.resumed (.reconcile caller (.fetchOrderPayments copy orderId)) (.payments listed)) →
      listed = .ok (payments orderId)) : PassStep payments s a where
  orders := by
    intro k p orderId hmove
    cases hmove
    cases ha
  clock := by
    rintro now rfl
    cases ha
  listed := hlisted
  fresh := by
    rintro k settlement attemptNum lastAttemptId uuid rfl
    cases ha
  runs := by
    rintro rfl
    cases ha

section

variable {env : Env} {payments : JsString → List RazorpayPayment} {s s₀ : Sys} {n₀ : Next Task}

/-- A step of the only pass, wherever it stands. -/
theorem sweep_standing (hjob : s.job = none) {p : SweepPoint} {n : Next Task}
    (hn : n.task? = some (.sweep p))
    (f : Tracks (facilitator env) (PassStep payments) s₀ n₀ (s.standing n) n) {w : World} {m : Next Task}
    (ho : afterSweep (sweepStep env s.clock s.world p) = ⟨w, m, []⟩) :
    Tracks (facilitator env) (PassStep payments) s₀ n₀ (State.standing { s with world := w } m) m := by
  cases n with
  | done => cases hn
  | cpu t =>
    obtain rfl := Option.some.inj hn
    refine f.runTask_standing [] (passStep_of_ofTask rfl ?_) ho
    intro caller copy orderId listed hmove
    cases hmove
  | park t =>
    obtain rfl := Option.some.inj hn
    refine f.resumeTask_standing hjob (a := .ready) (passStep_of_ofTask rfl ?_) (congrArg some ho)
    intro caller copy orderId listed hmove
    cases hmove

/-- The payments of an order that is not decided lead to nothing. -/
theorem reconcileFetched_undecided {crypto : Crypto} {now : Int} {w : World} {copy : AttemptRow}
    {orderId : JsString} (h : ¬ Decided payments orderId) :
    reconcileFetched crypto now w copy orderId (.ok (payments orderId)) = (w, .returned) := by
  rw [reconcileFetched]
  split
  · rfl
  · rename_i latest hlast
    rw [if_neg fun hcaptured => h ⟨latest, hlast, Or.inl hcaptured⟩,
      if_neg fun hfailed => h ⟨latest, hlast, Or.inr hfailed⟩]

/-- The list of the first rule is passed through. -/
theorem staleAttempts_standing (hjob : s.job = none) : ∀ {rest : List StaleAttempt} {n : Next Task},
    n.task? = some (.sweep (.staleAttempts rest)) →
    (∀ e ∈ rest, ∃ a ∈ s.world.db.attempts.rows, e = ⟨a.id, a.settlementId, a.state, a.providerOrderId⟩ ∧
      Unanswered payments a) →
    Tracks (facilitator env) (PassStep payments) s₀ n₀ (s.standing n) n →
    Tracks (facilitator env) (PassStep payments) s₀ n₀
      (s.standing (.park (.sweep .staleAttemptsSwept))) (.park (.sweep .staleAttemptsSwept))
  | [], n, hn, _, f => sweep_standing hjob hn f rfl
  | e :: rest, n, hn, hall, f => by
    obtain ⟨a, ha, rfl, hwaits⟩ := hall e List.mem_cons_self
    have hrest := fun e' he' => hall e' (List.mem_cons_of_mem _ he')
    rcases hwaits with ⟨c, o, horder, hundecided⟩ | ⟨hnone, hstate⟩
    · have hfind : (s.world.db.attempts.find? fun row => row.id == a.id) = some a :=
        Table.find?_eq_some ha (beq_self_eq_true _) fun row hrow hp => attempt_eq hrow ha (eq_of_beq hp)
      have hby : reconcileByAttempt s.world.db a.id = reconcileByOrder s.world.db (c :: o) := by
        rw [reconcileByAttempt, hfind]
        dsimp only
        rw [horder]
      cases hcopy : attemptByOrder s.world.db (c :: o) with
      | none =>
        refine staleAttempts_standing hjob (n := .park (.sweep (.staleAttempts rest))) rfl
          hrest (sweep_standing hjob hn f ?_)
        rw [sweepStep, sweepStaleAttempt]
        dsimp only
        rw [horder]
        dsimp only
        rw [hby, reconcileByOrder, hcopy]
        rfl
      | some copy =>
        -- the order is asked for, and nothing comes of it
        have hasked : Tracks (facilitator env) (PassStep payments) s₀ n₀
            (s.standing (.park (.reconcile (.sweep rest) (.fetchOrderPayments copy (c :: o)))))
            (.park (.reconcile (.sweep rest) (.fetchOrderPayments copy (c :: o)))) := by
          refine sweep_standing hjob hn f ?_
          rw [sweepStep, sweepStaleAttempt]
          dsimp only
          rw [horder]
          dsimp only
          rw [hby, reconcileByOrder, hcopy]
          rfl
        have hanswered := hasked.resumeTask_standing hjob (a := .payments (.ok (payments (c :: o))))
          (w := s.world) (m := .park (.sweep (.staleAttempts rest))) (passStep_of_ofTask rfl ?_) ?_
        · exact staleAttempts_standing hjob rfl hrest hanswered
        · intro caller copy' orderId listed hmove
          cases hmove with
          | resumeTask i b t hfree ht =>
            cases ht
            rfl
        · show some (afterReconcile (.sweep rest) (reconcileFetched env.crypto s.clock s.world copy (c :: o)
            (.ok (payments (c :: o))))) = _
          rw [reconcileFetched_undecided hundecided]
          rfl
    · refine staleAttempts_standing hjob (n := .cpu (.sweep (.staleAttempts rest))) rfl
        hrest (sweep_standing hjob hn f ?_)
      rw [sweepStep, sweepStaleAttempt]
      dsimp only
      split
      · rename_i c o horder
        exact absurd horder (hnone c o)
      · rw [if_pos hstate]
        rfl

/-- Settlements with a live attempt are passed through. -/
theorem stuckSettling_standing (hjob : s.job = none) : ∀ {ids : List JsString},
    (∀ id ∈ ids, hasActiveAttempt s.world.db id = true) →
    Tracks (facilitator env) (PassStep payments) s₀ n₀
      (s.standing (.cpu (.sweep (.stuckSettling ids)))) (.cpu (.sweep (.stuckSettling ids))) →
    Tracks (facilitator env) (PassStep payments) s₀ n₀
      (s.standing (.cpu (.sweep .staleIdempotencyLocks))) (.cpu (.sweep .staleIdempotencyLocks))
  | [], _, f => sweep_standing hjob rfl f rfl
  | id :: ids, hall, f => by
    refine stuckSettling_standing hjob (fun id' hid' => hall id' (List.mem_cons_of_mem _ hid'))
      (sweep_standing hjob rfl f ?_)
    rw [sweepStep, sweepSettling, if_pos (hall id List.mem_cons_self)]
    rfl

/-- The other rules find nothing that is not `settling`. -/
theorem Waiting.rules (hw : Waiting payments s.world.db) (hjob : s.job = none)
    (f : Tracks (facilitator env) (PassStep payments) s₀ n₀
      (s.standing (.park (.sweep .staleAttemptsSwept))) (.park (.sweep .staleAttemptsSwept))) :
    Tracks (facilitator env) (PassStep payments) s₀ n₀
      (s.standing (.cpu (.sweep (.stuckSettling (selectStuckSettling env s.clock s.world.db)))))
      (.cpu (.sweep (.stuckSettling (selectStuckSettling env s.clock s.world.db)))) := by
  have hnone : ∀ {p : SettlementRow → Bool}, (∀ r : SettlementRow, r.state = .settling → p r = false) →
      s.world.db.settlements.rows.filter p = [] := fun hp => by
    refine List.filter_eq_nil_iff.mpr fun r hr => ?_
    rw [hp r (hw.settling r hr).1]
    exact Bool.false_ne_true
  have htransient : selectTransient env s.clock s.world.db = [] := by
    refine List.filterMap_eq_nil_iff.mpr fun r hr => dif_neg fun h => ?_
    rw [(hw.settling r hr).1] at h
    rcases h.1 with h | h <;> cases h
  have hverified : selectStaleVerified env s.clock s.world.db = [] := by
    rw [selectStaleVerified, hnone fun r h => by rw [h]; rfl]
    rfl
  have hpending : selectPendingApproval s.world.db = [] := hnone fun r h => by rw [h]; rfl
  have happroved : selectStaleApproved env s.clock s.world.db = [] := hnone fun r h => by rw [h]; rfl
  have f₁ := sweep_standing hjob rfl f rfl
  rw [htransient] at f₁
  have f₂ := sweep_standing hjob rfl f₁ rfl
  rw [hverified] at f₂
  have f₃ := sweep_standing hjob rfl f₂ rfl
  rw [hpending] at f₃
  have f₄ := sweep_standing hjob rfl f₃ rfl
  rw [happroved] at f₄
  exact sweep_standing hjob rfl f₄ rfl

/-- **A pass leaves what waits as it is.** -/
theorem Waiting.round (env : Env) (hq : Quiet s) (hw : Waiting payments s.world.db) :
    ∃ s', Round (facilitator env) (PassStep payments) .sweepTick s s' ∧ Quiet s' ∧ s'.clock = s.clock ∧
      s'.world.db.settlements = s.world.db.settlements ∧ s'.world.db.attempts = s.world.db.attempts := by
  have hjob := hq.rest.job
  have hfree : s.free = true := by
    rw [State.free, hq.cpu, hjob]
  have hok : ∀ {seed : JsString}, PassStep payments s (.request .sweepTick seed) :=
    passStep_of_ofTask rfl fun caller copy orderId listed hmove => by cases hmove
  -- the request leaves the pass at its first rule
  have hreq := TaskRan.request (P := facilitator env) (s := s) Request.sweepTick [] hfree
  have hstart : s.finish (facilitator env) (handleRequest env s.clock [] s.world .sweepTick) =
      s.standing (.cpu (.sweep (sweepRunOnce env s.clock s.world))) := by
    have hfinish := finish_standing (P := facilitator env) (s := s) (w := s.world)
      (n := .cpu (.sweep (sweepRunOnce env s.clock s.world)))
    rw [standing_done hq.cpu hq.parked] at hfinish
    exact hfinish
  change TaskRan (facilitator env) s (.request .sweepTick []) .done
    (.cpu (.sweep (sweepRunOnce env s.clock s.world)))
    (s.finish (facilitator env) (handleRequest env s.clock [] s.world .sweepTick)) at hreq
  rw [hstart] at hreq
  have hlisted : ∀ e ∈ selectStaleAttempts env s.clock s.world.db, ∃ a ∈ s.world.db.attempts.rows,
      e = ⟨a.id, a.settlementId, a.state, a.providerOrderId⟩ ∧ Unanswered payments a := by
    intro e he
    obtain ⟨a, ha, rfl⟩ := List.mem_map.mp he
    obtain ⟨hmem, hp⟩ := List.mem_filter.mp ha
    exact ⟨a, hmem, rfl, hw.unanswered a hmem (Bool.and_eq_true_iff.mp hp).1⟩
  have hactive : ∀ id ∈ selectStuckSettling env s.clock s.world.db, hasActiveAttempt s.world.db id = true := by
    intro id hid
    obtain ⟨r, hr, rfl⟩ := List.mem_map.mp hid
    exact (hw.settling r (List.mem_filter.mp hr).1).2
  have hattempts : Tracks (facilitator env) (PassStep payments) _ _
      (s.standing (.park (.sweep .staleAttemptsSwept))) (.park (.sweep .staleAttemptsSwept)) :=
    staleAttempts_standing hjob (n := .cpu (.sweep (sweepRunOnce env s.clock s.world))) rfl hlisted .refl
  have hlocks := stuckSettling_standing hjob hactive (hw.rules hjob hattempts)
  have hend := sweep_standing hjob rfl hlocks rfl
  exact ⟨_, .mk hq.rest hok hreq hend .refl ⟨hjob, hq.rest.queue⟩, ⟨⟨hjob, hq.rest.queue⟩, rfl, rfl⟩, rfl,
    rfl, rfl⟩

/-- **What waits outlasts every number of passes.** -/
theorem unanswered_outlast_passes {ok : Sys → Act → Prop} {id : JsString} (hq : Quiet s)
    (hw : Waiting payments s.world.db) (hdue : Due env id s) (n : Nat) :
    ∃ s', Rounds (facilitator env) ok (PassStep payments) .sweepTick (Due env id) s n s' ∧ Quiet s' ∧
      s'.clock = s.clock ∧ s'.world.db.settlements = s.world.db.settlements ∧
      s'.world.db.attempts = s.world.db.attempts := by
  induction n with
  | zero => exact ⟨s, .run .refl, hq, rfl, rfl, rfl⟩
  | succ n ih =>
    obtain ⟨t, hrounds, hqt, hclock, hsettlements, hattempts⟩ := ih
    have hwt : Waiting payments t.world.db := by
      refine ⟨fun r hr => ?_, fun a ha => hw.unanswered a (hattempts ▸ ha)⟩
      rw [hasActiveAttempt, hattempts]
      exact hw.settling r (hsettlements ▸ hr)
    have hduet : Due env id t := by
      refine ⟨fun r hr hid => ?_, fun a ha hid hactive => ?_⟩
      · rw [hclock]
        exact hdue.overdue r (hsettlements ▸ hr) hid
      · rw [hclock]
        exact hdue.stale a (hattempts ▸ ha) hid hactive
    obtain ⟨u, hround, hqu, hclock', hsettlements', hattempts'⟩ := hwt.round env hqt
    exact ⟨u, .round hrounds hduet hround .refl, hqu, hclock'.trans hclock,
      hsettlements'.trans hsettlements, hattempts'.trans hattempts⟩

end

/-! ## Runs -/

/-- One settlement or more is `settling` with an order that is open, nothing is under way, and the
    timeouts have passed. -/
structure Stalled (env : Env) (s : Sys) : Prop where
  quiet : Quiet s
  settling : ∀ r ∈ s.world.db.settlements.rows, r.state = .settling ∧ hasActiveAttempt s.world.db r.id = true
  ordered : ∀ a ∈ s.world.db.attempts.rows, a.state.active = true → ∃ c o, a.providerOrderId = some (c :: o)
  due : ∀ id, Due env id s

def isQuiet (s : Sys) : Bool := s.job.isNone && s.queue.isEmpty && s.cpu.isNone && s.parked.isEmpty

def isStalled (env : Env) (s : Sys) : Bool :=
  isQuiet s &&
  (s.world.db.settlements.rows.all fun r => r.state == .settling && hasActiveAttempt s.world.db r.id &&
    r.settlingAt.all (· < secondsAgo s.clock env.ttls.settlingNoAttemptStaleMs)) &&
  s.world.db.attempts.rows.all fun a => !a.state.active ||
    a.providerOrderId.any (!·.isEmpty) && a.createdAt < secondsAgo s.clock env.ttls.attemptStaleMs

theorem quiet_of_isQuiet {s : Sys} (h : isQuiet s = true) : Quiet s := by
  simp only [isQuiet, Bool.and_eq_true, Option.isNone_iff_eq_none, List.isEmpty_iff] at h
  exact ⟨⟨h.1.1.1, h.1.1.2⟩, h.1.2, h.2⟩

theorem stalled_of_isStalled {env : Env} {s : Sys} (h : isStalled env s = true) : Stalled env s := by
  simp only [isStalled, Bool.and_eq_true, List.all_eq_true] at h
  obtain ⟨⟨hquiet, hrows⟩, hattempts⟩ := h
  have hlive : ∀ a ∈ s.world.db.attempts.rows, a.state.active = true →
      a.providerOrderId.any (!·.isEmpty) = true ∧
      a.createdAt < secondsAgo s.clock env.ttls.attemptStaleMs := by
    intro a ha hactive
    have hchecked := hattempts a ha
    rw [hactive] at hchecked
    obtain ⟨horder, hstale⟩ := Bool.and_eq_true_iff.mp hchecked
    exact ⟨horder, of_decide_eq_true hstale⟩
  refine ⟨quiet_of_isQuiet hquiet, fun r hr => ⟨beq_iff_eq.mp (hrows r hr).1.1, (hrows r hr).1.2⟩,
    fun a ha hactive => ?_, fun id => ⟨fun r hr _ => ?_, fun a ha _ hactive => (hlive a ha hactive).2⟩⟩
  · obtain ⟨order, horder, hne⟩ := (Option.any_eq_true ..).mp (hlive a ha hactive).1
    cases order with
    | nil => cases hne
    | cons c o => exact ⟨c, o, horder⟩
  · rw [Overdue, beq_iff_eq.mp (hrows r hr).1.1]
    intro since hsince
    have hpast := (hrows r hr).2
    rw [hsince] at hpast
    exact of_decide_eq_true hpast

/-- The third order is open when the answer of the checkout driver is lost. -/
def demoOpen : List Act :=
  demoSettling ++
    [.runJob (js "a1"), .runJob [], .resumeJob (.order (.error (.error (js "down")))),
      .runJob (js "a2"), .runJob [], .resumeJob (.order (.error (.error (js "down")))),
      .runJob (js "a3"), .runJob [], .resumeJob (.order (.ok (js "o3"))), .runJob [],
      .resumeJob (.checkout (.error (.error (js "closed")))), .endJob, .clock 1000000]

/-- The pass that polls the order, which has been paid. -/
def demoOpenPass : List Act :=
  [.runTask [], .resumeTask 0 (.payments (.ok [⟨js "p3", js "captured"⟩])), .resumeTask 0 .ready,
    .resumeTask 0 .ready, .runTask [], .runTask [], .runTask [], .runTask [], .runTask [], .runTask []]

/-- What the provider lists once the third order is paid. -/
def demoPaid : JsString → List RazorpayPayment := fun _ => [⟨js "p3", js "captured"⟩]

theorem passStep_of_serves {payments : List RazorpayPayment} {s : Sys} {a : Act} (id : JsString)
    (h : serves payments a = true) : PassStep (fun _ => payments) s a ∧ NoFallback id s a := by
  have htask : ofTask a = true := by
    cases a <;> first | rfl | cases h
  refine ⟨passStep_of_ofTask htask ?_, ?_⟩
  · intro caller copy orderId listed hmove
    cases hmove with
    | resumeTask i b t hfree ht =>
      cases listed with
      | error e => cases h
      | ok answer => exact congrArg Except.ok (eq_of_beq h)
  · intro k c hmove
    cases hmove <;> cases h

/-- One pass settles what the order of the third attempt paid for. -/
theorem swept_settlement_settles_demo : ∃ (s t : Sys) (r : SettlementRow),
    r ∈ s.world.db.settlements.rows ∧ r.state.live = true ∧
    Rounds (facilitator demoEnv) FreshOrders (fun s a => PassStep demoPaid s a ∧ NoFallback r.id s a)
      .sweepTick (fun s => Due demoEnv r.id s ∧ Answered demoPaid r.id s) s 1 t ∧
    Terminated t.world r.id := by
  have hcheck : ((runIf (facilitator demoEnv) answersFreshOrder Sys.initial demoOpen).any fun s =>
      isStalled demoEnv s && s.world.db.settlements.rows.any (fun r => passesLeft demoEnv s.world.db r == 1) &&
      (step (facilitator demoEnv) s (.request .sweepTick [])).any fun t =>
        (runIf (facilitator demoEnv) (fun _ a => a.ofOnly && serves [⟨js "p3", js "captured"⟩] a) t
          demoOpenPass).any isQuiet) = true := by
    decide +kernel
  obtain ⟨s, hs, hcheck⟩ := (Option.any_eq_true ..).mp hcheck
  obtain ⟨hleft, hcheck⟩ := Bool.and_eq_true_iff.mp hcheck
  obtain ⟨hstalled, hleft⟩ := Bool.and_eq_true_iff.mp hleft
  obtain ⟨r, hr, hleft⟩ := List.any_eq_true.mp hleft
  obtain ⟨t, ht, hcheck⟩ := (Option.any_eq_true ..).mp hcheck
  obtain ⟨u, hu, hquiet⟩ := (Option.any_eq_true ..).mp hcheck
  have hrun := Run.of_runIf freshOrders_of_check hs
  have hs := stalled_of_isStalled hstalled
  have hu' := quiet_of_isQuiet hquiet
  have hstarts : Due demoEnv r.id s ∧ Answered demoPaid r.id s := by
    refine ⟨hs.due r.id, fun a ha _ hactive => ?_⟩
    obtain ⟨c, o, horder⟩ := hs.ordered a ha hactive
    exact Or.inl ⟨c, o, horder, ⟨js "p3", js "captured"⟩, rfl, Or.inl rfl⟩
  have hround : Round (facilitator demoEnv) (fun s a => PassStep demoPaid s a ∧ NoFallback r.id s a)
      .sweepTick s u := by
    refine Round.of_runIf (fun v a h => ?_) hs.quiet.rest hs.quiet.cpu hs.quiet.parked ?_ ht hu ?_ hu'.rest
    · obtain ⟨honly, hserves⟩ := Bool.and_eq_true_iff.mp h
      exact ⟨honly, passStep_of_serves r.id hserves⟩
    · refine ⟨passStep_of_ofTask rfl fun caller copy orderId listed hmove => ?_, fun k c hmove => ?_⟩
      · cases hmove
      · cases hmove
    · rw [State.only, hu'.cpu, hu'.parked]
  have hrounds : Rounds (facilitator demoEnv) FreshOrders
      (fun s a => PassStep demoPaid s a ∧ NoFallback r.id s a) .sweepTick
      (fun s => Due demoEnv r.id s ∧ Answered demoPaid r.id s) s 1 u :=
    .round (.run .refl) hstarts hround .refl
  refine ⟨s, u, r, hr, ?_, hrounds, ?_⟩
  · rw [(hs.settling r hr).1]
    rfl
  · exact swept_settlement_settles hrun hr (le_of_eq (eq_of_beq hleft)) hrounds

/-- The order that nobody pays. -/
theorem unanswered_outlast_passes_demo : ∃ (s t : Sys), Reachable demoEnv s ∧ Waiting (fun _ => []) s.world.db ∧
    Rounds (facilitator demoEnv) FreshOrders (PassStep fun _ => []) .sweepTick (Due demoEnv (js "s1")) s 5 t ∧
    t.world.db.settlements = s.world.db.settlements := by
  obtain ⟨s, hreach, hp⟩ := reachable_of_run demoEnv demoOpen (isStalled demoEnv) (by decide +kernel)
  have hs := stalled_of_isStalled hp
  have hw : Waiting (fun _ => []) s.world.db := by
    refine ⟨hs.settling, fun a ha hactive => ?_⟩
    obtain ⟨c, o, horder⟩ := hs.ordered a ha hactive
    refine Or.inl ⟨c, o, horder, ?_⟩
    rintro ⟨latest, hlast, -⟩
    cases hlast
  obtain ⟨t, hrounds, -, -, hsame, -⟩ := unanswered_outlast_passes hs.quiet hw (hs.due (js "s1")) 5
  exact ⟨s, t, hreach, hw, hrounds, hsame⟩

end Hundi
