/-
  Resuming a `settling` settlement.

  The sweep and the routes kick; the executor's chain drops a kick for what is in flight.  No settlement
  is kicked while it is `settling` but to resume it, and only when no attempt of it is live
  (`ResumesIdle`), so what comes into flight for such a settlement is a resume in the queue
  (`flight_step`).  A resume in the queue goes on to one checkout attempt more (`Resuming.step`), unless
  its run falls back to a payment link.

  And the chain serves what it takes in, in its order (`kicks_served_in_order`).
-/
import Hundi.Facilitator.Progress
import Hundi.Facilitator.KickBudget

namespace Hundi

open Js EventLoop

/-! ## What is kicked -/

/-- A kick for a settlement that is `settling` resumes it, and finds no live attempt of it. -/
def ResumesIdle (w : World) (d : Done) : Prop :=
  ∀ k ∈ d.kicks, (∃ r ∈ w.db.settlements.rows, r.id = k.settlementId ∧ r.state = .settling) →
    k.kind = .resumeSettling ∧ hasActiveAttempt d.world.db k.settlementId = false

theorem resumesIdle_nil {w w' : World} {n : Next Task} : ResumesIdle w ⟨w', n, []⟩ :=
  fun _ hk => absurd hk List.not_mem_nil

theorem resumesIdle_respondWith {w : World} {x : Except Exn Db} : ResumesIdle w (respondWith w x) := by
  cases x <;> exact resumesIdle_nil

/-- A kick to execute, for a settlement that is not `settling`. -/
theorem resumesIdle_execute {w w' : World} {n : Next Task} {id : JsString} {p : Prop} [Decidable p]
    (h : ∀ r ∈ w.db.settlements.rows, r.id = id → r.state ≠ .settling) :
    ResumesIdle w ⟨w', n, if p then [⟨id, .execute⟩] else []⟩ := by
  intro k hk hsettling
  obtain ⟨r, hr, hid, hstate⟩ := hsettling
  change k ∈ (if p then [_] else []) at hk
  split at hk
  · obtain rfl := List.mem_singleton.mp hk
    exact absurd hstate (h r hr hid)
  · exact absurd hk List.not_mem_nil

theorem resumesIdle_afterReconcile {w : World} {caller : Caller} {o : World × ReconcileNext} :
    ResumesIdle w (afterReconcile caller o) := by
  obtain ⟨w', next⟩ := o
  cases next <;> cases caller <;> exact resumesIdle_nil

theorem resumesIdle_postApprovals {env : Env} {now : Int} {w : World}
    {settlementId mandateCartHashHex : JsString} {decision : Decision} {sig : SigEnvelope} :
    ResumesIdle w (postApprovals env now w settlementId mandateCartHashHex decision sig) := by
  unfold postApprovals
  split
  · exact resumesIdle_nil
  · rename_i db h
    obtain ⟨l, row, mandateRow, approval, rejectReason, -, hid, -, -, -, -, hm, -⟩ := decideApproval_ok h
    refine resumesIdle_execute fun r hr hrid => ?_
    rw [settlement_eq hr hm.mem (hrid.trans hid.symm), hm.state]
    exact nofun

theorem resumesIdle_settlementClaimed {env : Env} {now : Int} {settlementId : JsString} {w : World}
    {key : JsString} {intent : IntentMandate} {cart : CartMandate} :
    ResumesIdle w (settlementClaimed env now settlementId w key intent cart) := by
  unfold settlementClaimed
  split
  · exact resumesIdle_nil
  · rename_i db outcome h
    rcases settlementTransaction_ok h with ⟨keys, -, hbody⟩ | ⟨keys, l, row, -, hadd, hid, -⟩
    · -- an error answer names no settlement
      cases hout : outcome.body with
      | ok id state reason =>
        rw [hout] at hbody
        cases hbody
      | error code => exact resumesIdle_nil
    · refine resumesIdle_execute fun r hr hrid => ?_
      exact absurd (hrid.trans hid.symm) (hadd.fresh r hr)

theorem resumesIdle_request {env : Env} {now : Int} {seed : JsString} {w : World} {r : Request} :
    ResumesIdle w (handleRequest env now seed w r) := by
  unfold handleRequest
  split
  · cases r with
    | postCeremonyTokens dashboardToken =>
      rw [handleValid]
      unfold postCeremonyTokens
      split
      · exact resumesIdle_nil
      split <;> exact resumesIdle_nil
    | postAdminMerchants adminToken merchantId name catalogUrl catalogPrices =>
      rw [handleValid]
      unfold postAdminMerchants
      split
      · exact resumesIdle_nil
      split <;> exact resumesIdle_nil
    | postStoresOnboard merchantId name url catalogPrices => exact resumesIdle_nil
    | postMandates intent credential ceremonyToken => exact resumesIdle_respondWith
    | postSettlements idempotencyKey intent cart =>
      rw [handleValid]
      unfold postSettlements
      split
      · exact resumesIdle_nil
      · exact resumesIdle_nil
      dsimp only
      split
      · exact resumesIdle_nil
      split <;> exact resumesIdle_nil
    | postDecisions settlementId payload signatureHex => exact resumesIdle_respondWith
    | postApprovals settlementId mandateCartHashHex decision sig => exact resumesIdle_postApprovals
    | postRevoke mandateId sig => exact resumesIdle_respondWith
    | postRefund settlementId dashboardToken =>
      rw [handleValid]
      unfold postRefund
      split
      · exact resumesIdle_nil
      split
      · exact resumesIdle_nil
      split
      · exact resumesIdle_nil
      split
      · exact resumesIdle_nil
      split
      · exact resumesIdle_nil
      split <;> exact resumesIdle_nil
    | postWebhook rawBody signatureHeader eventIdHeader =>
      rw [handleValid]
      unfold postWebhook
      split
      · exact resumesIdle_respondWith
      split
      · exact resumesIdle_respondWith
      split
      · exact resumesIdle_respondWith
      · exact resumesIdle_respondWith
      split
      · exact resumesIdle_nil
      split <;> exact resumesIdle_nil
    | sweepTick => exact resumesIdle_nil
  · exact resumesIdle_nil

/-- The rule over stale approvals kicks what it has found `approved`. -/
theorem resumesIdle_sweepApproved {env : Env} {clock now : Int} {w : World} {row : SettlementRow}
    {rest : List SettlementRow} :
    ResumesIdle w (afterSweep (sweepApproved env clock now w row rest)) := by
  unfold sweepApproved
  dsimp only
  split
  · unfold sweepCommit
    split <;> exact resumesIdle_nil
  split
  · exact resumesIdle_nil
  · rename_i db bumped h
    unfold bumpKickCount at h
    dsimp only at h
    split at h
    · obtain ⟨-, hbumped⟩ := Prod.mk.inj (Except.ok.inj h)
      intro k hk hsettling
      obtain ⟨r, hr, hid, hstate⟩ := hsettling
      rw [← hbumped] at hk
      change k ∈ (if _ then [_] else []) at hk
      split at hk
      · rename_i hany
        obtain rfl := List.mem_singleton.mp hk
        obtain ⟨r', hr', hp⟩ := List.any_eq_true.mp hany
        rw [Bool.and_eq_true, beq_iff_eq, beq_iff_eq] at hp
        rw [settlement_eq hr hr' (hid.trans hp.1.symm), hp.2] at hstate
        cases hstate
      · exact absurd hk List.not_mem_nil
    · cases h

theorem resumesIdle_sweepSettling {env : Env} {now : Int} {w : World} {id : JsString}
    {rest : List JsString} : ResumesIdle w (afterSweep (sweepSettling env now w id rest)) := by
  unfold sweepSettling
  split
  · exact resumesIdle_nil
  rename_i hidle
  rw [Bool.not_eq_true] at hidle
  split
  · intro k hk _
    obtain rfl := List.mem_singleton.mp hk
    exact ⟨rfl, hidle⟩
  unfold sweepCommit
  split
  · rename_i db h
    intro k hk _
    obtain rfl := List.mem_singleton.mp hk
    obtain ⟨row, -, rfl⟩ := appendLedger_ok h
    exact ⟨rfl, hidle⟩
  · exact resumesIdle_nil

theorem resumesIdle_sweepCommit {w : World} {p : SweepPoint} {x : Except Exn Db} :
    ResumesIdle w (afterSweep (sweepCommit w [] p x)) := by
  cases x <;> exact resumesIdle_nil

theorem resumesIdle_sweep {env : Env} {now : Int} {w : World} {p : SweepPoint} :
    ResumesIdle w (afterSweep (sweepStep env now w p)) := by
  cases p with
  | staleAttempts rest =>
    cases rest with
    | nil => exact resumesIdle_nil
    | cons attempt rest =>
      rw [sweepStep]
      unfold sweepStaleAttempt
      split
      · split <;> exact resumesIdle_nil
      · split
        · exact resumesIdle_nil
        · exact resumesIdle_sweepCommit
  | staleAttemptsSwept => exact resumesIdle_nil
  | transientSettlements rest =>
    cases rest with
    | nil => exact resumesIdle_nil
    | cons row rest => exact resumesIdle_sweepCommit
  | staleVerified rest =>
    cases rest with
    | nil => exact resumesIdle_nil
    | cons id rest => exact resumesIdle_sweepCommit
  | expiredApprovals since rest =>
    cases rest with
    | nil => exact resumesIdle_nil
    | cons row rest =>
      rw [sweepStep]
      unfold sweepExpiredApproval
      split
      · exact resumesIdle_nil
      dsimp only
      split
      · exact resumesIdle_nil
      · exact resumesIdle_sweepCommit
  | staleApproved since rest =>
    cases rest with
    | nil => exact resumesIdle_nil
    | cons row rest => exact resumesIdle_sweepApproved
  | stuckSettling rest =>
    cases rest with
    | nil => exact resumesIdle_nil
    | cons id rest => exact resumesIdle_sweepSettling
  | staleIdempotencyLocks => exact resumesIdle_nil

theorem resumesIdle_runTask {env : Env} {now : Int} {seed : JsString} {w : World} {t : Task} :
    ResumesIdle w (runTask env now seed w t) := by
  cases t with
  | reconcile caller point => cases point <;> first | exact resumesIdle_nil | exact resumesIdle_afterReconcile
  | sweep point => exact resumesIdle_sweep
  | settlementClaimed key intent cart => exact resumesIdle_settlementClaimed
  | refund settlementId attemptId paymentId amountPaise => exact resumesIdle_nil
  | webhook eventId eventType body =>
    rw [runTask]
    unfold webhookClaimed
    split
    · split
      · exact resumesIdle_respondWith
      split
      · exact resumesIdle_afterReconcile
      · exact resumesIdle_nil
      · exact resumesIdle_nil
    · exact resumesIdle_nil
  | webhookFailed eventId eventType err => exact resumesIdle_respondWith

theorem resumesIdle_resumeTask {env : Env} {now : Int} {w : World} {t : Task} {a : Answer} {o : Done}
    (h : resumeTask env now w t a = some o) : ResumesIdle w o := by
  unfold resumeTask at h
  split at h
  · obtain rfl := Option.some.inj h
    exact resumesIdle_afterReconcile
  · obtain rfl := Option.some.inj h
    exact resumesIdle_afterReconcile
  · obtain rfl := Option.some.inj h
    unfold refundAnswered
    split
    · exact resumesIdle_nil
    dsimp only
    split <;> exact resumesIdle_nil
  · obtain rfl := Option.some.inj h
    exact resumesIdle_sweep
  · obtain rfl := Option.some.inj h
    exact resumesIdle_respondWith
  · cases h

/-- **What comes into flight for a `settling` settlement is queued to resume it, and no attempt of it is
    live.** -/
theorem flight_step {env : Env} {s s' : Sys} {a : Act} (h : sysStep env s a = some s') {id : JsString}
    (hsettling : ∃ r ∈ s.world.db.settlements.rows, r.id = id ∧ r.state = .settling)
    (hnot : id ∉ s.inFlight) : id ∉ s'.inFlight ∨
      (⟨id, .resumeSettling⟩ ∈ s'.queue ∧ hasActiveAttempt s'.world.db id = false) := by
  have hfinish : ∀ {s₀ : Sys} {d : Done}, id ∉ s₀.inFlight → ResumesIdle s.world d →
      id ∉ (s₀.finish (facilitator env) d).inFlight ∨
      (⟨id, .resumeSettling⟩ ∈ (s₀.finish (facilitator env) d).queue ∧
        hasActiveAttempt (s₀.finish (facilitator env) d).world.db id = false) := by
    intro s₀ d hnot₀ hresumes
    by_cases hin : id ∈ (s₀.finish (facilitator env) d).inFlight
    · obtain ⟨⟨_, kind⟩, hk, rfl, hqueue⟩ := queued_of_finish hin hnot₀
      obtain ⟨rfl, hidle⟩ := hresumes _ hk hsettling
      exact Or.inr ⟨hqueue, by rw [finish_world]; exact hidle⟩
    · exact Or.inl hin
  cases stepped_of_step (facilitator env) h with
  | clock now => exact Or.inl hnot
  | crash => exact Or.inl List.not_mem_nil
  | request r seed hfree => exact hfinish hnot resumesIdle_request
  | runTask seed t hcpu => exact hfinish hnot resumesIdle_runTask
  | resumeTask i b t o hfree ht ho => exact hfinish hnot (resumesIdle_resumeTask ho)
  | startJob seed k rest hfree hjob hq => exact Or.inl hnot
  | runJob seed k p hjob => exact Or.inl hnot
  | resumeJob b k p o hfree hjob ho => exact Or.inl hnot
  | endJob k hjob => exact Or.inl fun hi => hnot (List.mem_filter.mp hi).1

/-! ## A resume that is under way -/

/-- The ids a run makes up are its own: the attempt it is about to write is not there yet. -/
def FreshAttempt (s : Sys) (a : Act) : Prop :=
  ∀ k settlement attemptNum lastAttemptId uuid, a = .runJob uuid →
    s.job = some (k, .running (.attemptLoop settlement attemptNum lastAttemptId)) →
    ∀ row ∈ s.world.db.attempts.rows, row.id ≠ uuid ∧
      row.receipt ≠ attemptReceipt settlement.id attemptNum uuid

/-- A resume of the settlement is queued, or a run for it is at the head of its loop. -/
def ResumeAhead (id : JsString) (s : Sys) : Prop :=
  ⟨id, .resumeSettling⟩ ∈ s.queue ∨ ∃ k settlement attemptNum lastAttemptId,
    s.job = some (k, .running (.attemptLoop settlement attemptNum lastAttemptId)) ∧ settlement.id = id

/-- The settlement waits, without a live attempt, for a run that is about to write one. -/
structure Resuming (r : SettlementRow) (s : Sys) : Prop where
  row : ∃ r' ∈ s.world.db.settlements.rows, r.Again r'
  idle : hasActiveAttempt s.world.db r.id = false
  ahead : ResumeAhead r.id s

/-- Writing an attempt goes through when its ids are fresh and no attempt of the settlement is live. -/
theorem initiateAttempt_isOk (crypto : Crypto) (now : Int) {db : Db}
    {settlementId attemptId receipt : JsString} {attemptNum : Nat} (hnum : attemptNum ≤ maxAttempts)
    (hfresh : ∀ row ∈ db.attempts.rows, row.id ≠ attemptId ∧ row.receipt ≠ receipt)
    (hidle : hasActiveAttempt db settlementId = false) :
    ∃ db', initiateAttempt crypto now db settlementId attemptNum attemptId receipt = .ok db' := by
  have hfree : ∀ r ∈ db.attempts.rows, AttemptRow.clash r
      (newAttempt now attemptId settlementId .checkout_driver .initiated receipt none) = false := by
    intro r hr
    obtain ⟨hid, hreceipt⟩ := hfresh r hr
    have hactive : r.clashActive
        (newAttempt now attemptId settlementId .checkout_driver .initiated receipt none) = false := by
      by_cases hsid : r.settlementId = settlementId
      · rw [AttemptRow.clashActive, hasActiveAttempt_eq_false.mp hidle r hr hsid]
        rfl
      · rw [AttemptRow.clashActive, newAttempt, beq_eq_false_iff_ne.mpr hsid, Bool.and_false]
    have hcaptured : r.clashCaptured
        (newAttempt now attemptId settlementId .checkout_driver .initiated receipt none) = false := by
      rw [AttemptRow.clashCaptured, newAttempt, show (AttemptState.initiated == .captured) = false from rfl,
        Bool.and_false, Bool.false_and]
    rw [AttemptRow.clash, hactive, hcaptured]
    simp [newAttempt, hid, hreceipt]
  obtain ⟨attempts, hinsert⟩ := Table.insert?_isSome hfree
  obtain ⟨db', happend⟩ := appendLedger_isOk crypto now { db with attempts := attempts }
    ⟨.attempt_initiated, some settlementId, js "facilitator",
      [(js "attempt_id", .str attemptId), (js "method", .str (js "checkout_driver")),
        (js "attempt_num", .num attemptNum)]⟩ (by
    have hsafe : isSafeInt attemptNum = true := by
      rw [maxAttempts] at hnum
      rw [isSafeInt, Bool.and_eq_true, decide_eq_true_iff, decide_eq_true_iff, maxSafe]
      omega
    simp only [safeMembers, safe, hsafe, Bool.and_self])
  refine ⟨db', ?_⟩
  rw [initiateAttempt, insertAttempt, hinsert]
  exact happend

/-- A run that is about to write its attempt writes it. -/
theorem attempt_written {env : Env} {s s' : Sys} {uuid : JsString} {k : Kick}
    {settlement : SettlementRow} {attemptNum : Nat} {lastAttemptId : JsString}
    (h : sysStep env s (.runJob uuid) = some s')
    (hjob : s.job = some (k, .running (.attemptLoop settlement attemptNum lastAttemptId)))
    (hnum : attemptNum ≤ maxAttempts) (hfresh : FreshAttempt s (.runJob uuid))
    (hidle : hasActiveAttempt s.world.db settlement.id = false) :
    existingAttempts s.world.db settlement.id < existingAttempts s'.world.db settlement.id := by
  obtain ⟨db', hok⟩ := initiateAttempt_isOk env.crypto s.clock hnum (hfresh _ _ _ _ _ rfl hjob) hidle
  obtain ⟨l, -, hadd, -⟩ := initiateAttempt_ok hok
  have hworld : s'.world = s.world.commit db' := by
    rw [sysStep, step, hjob] at h
    obtain rfl := Option.some.inj h
    show (runStep env s.clock uuid s.world (.attemptLoop settlement attemptNum lastAttemptId)).1 = _
    rw [runStep, if_pos hnum]
    dsimp only
    rw [hok]
  rw [hworld]
  exact hadd.existingAttempts_lt rfl

/-- A queued resume starts at the head of the loop. -/
theorem resume_starts {env : Env} {now : Int} {w : World} {r r' : SettlementRow}
    (hr' : r' ∈ w.db.settlements.rows) (hagain : r.Again r') (hstate : r.state = .settling)
    (hidle : hasActiveAttempt w.db r.id = false) :
    startRun env now w ⟨r.id, .resumeSettling⟩ = (w, .cpu (runAttemptLoop w.db r')) := by
  have hfind : getSettlement w.db r.id = some r' := by
    refine Table.find?_eq_some hr' (beq_iff_eq.mpr hagain.id) fun r₀ hr₀ hid => ?_
    exact settlement_eq hr₀ hr' ((eq_of_beq hid).trans hagain.id.symm)
  rw [startRun]
  dsimp only
  rw [resumeSettlingRun, hfind]
  dsimp only
  rw [if_neg (not_not.mpr (hagain.state.trans hstate)), hidle]
  rfl

theorem ResumeAhead.finish {env : Env} {id : JsString} {s : Sys} {d : Done} (h : ResumeAhead id s)
    (s₀ : Sys) (hqueue : s₀.queue = s.queue) (hjob : s₀.job = s.job) :
    ResumeAhead id (s₀.finish (facilitator env) d) := by
  rcases h with hqueued | ⟨k, settlement, attemptNum, lastAttemptId, hrunning, hid⟩
  · exact Or.inl (mem_queue_finish (hqueue ▸ hqueued))
  · exact Or.inr ⟨k, settlement, attemptNum, lastAttemptId, by rw [finish_job, hjob]; exact hrunning, hid⟩

/-- A resume goes on to the head of its loop, and from there to one attempt more. -/
theorem Resuming.ahead_step {env : Env} {s s' : Sys} {a : Act} (h : sysStep env s a = some s')
    {r : SettlementRow} (hr : Resuming r s) (hstate : r.state = .settling) (hcrash : a ≠ .crash)
    (hlink : ∀ k c, JobMove s a k c → ¬ FallsBack r.id c) (hfresh : FreshAttempt s a) :
    ResumeAhead r.id s' ∨ existingAttempts s.world.db r.id < existingAttempts s'.world.db r.id := by
  have hahead := hr.ahead
  cases stepped_of_step (facilitator env) h with
  | clock now => exact Or.inl hahead
  | crash => exact absurd rfl hcrash
  | request q seed hfree => exact Or.inl (hahead.finish s rfl rfl)
  | runTask seed t hcpu => exact Or.inl (hahead.finish { s with cpu := none } rfl rfl)
  | resumeTask i b t o hfree ht ho =>
    exact Or.inl (hahead.finish { s with parked := s.parked.eraseIdx i } rfl rfl)
  | startJob seed k rest hfree hjob hq =>
    rcases hahead with hqueued | ⟨k', settlement, attemptNum, lastAttemptId, hrunning, hid⟩
    · rw [hq] at hqueued
      rcases List.mem_cons.mp hqueued with rfl | hqueued
      · obtain ⟨r', hr', hagain⟩ := hr.row
        refine Or.inl (Or.inr ⟨⟨r.id, .resumeSettling⟩, r', existingAttempts s.world.db r'.id + 1, [], ?_,
          hagain.id⟩)
        show some (_, Phase.ofNext (startRun env s.clock s.world _).2) = _
        rw [resume_starts hr' hagain hstate hr.idle]
        rfl
      · exact Or.inl (Or.inl hqueued)
    · rw [hjob] at hrunning
      cases hrunning
  | runJob seed k p hjob =>
    rcases hahead with hqueued | ⟨k', settlement, attemptNum, lastAttemptId, hrunning, hid⟩
    · exact Or.inl (Or.inl hqueued)
    · have hnum : attemptNum ≤ maxAttempts := by
        by_contra hover
        refine hlink k' _ (.runJob seed k' _ hrunning) ⟨settlement, hid, Or.inl ?_⟩
        exact ⟨attemptNum, lastAttemptId, rfl, Nat.lt_of_not_le hover⟩
      have hmore := attempt_written h hrunning hnum hfresh (hid ▸ hr.idle)
      rw [hid] at hmore
      exact Or.inr hmore
  | resumeJob b k p o hfree hjob ho =>
    rcases hahead with hqueued | ⟨k', settlement, attemptNum, lastAttemptId, hrunning, hid⟩
    · exact Or.inl (Or.inl hqueued)
    · rw [hjob] at hrunning
      cases hrunning
  | endJob k hjob =>
    rcases hahead with hqueued | ⟨k', settlement, attemptNum, lastAttemptId, hrunning, hid⟩
    · exact Or.inl (Or.inl hqueued)
    · rw [hjob] at hrunning
      cases hrunning

/-- **A step takes a resume on, or saves the settlement a pass.** -/
theorem Resuming.step {env : Env} {s s' : Sys} {a : Act} (h : sysStep env s a = some s')
    {r : SettlementRow} {n : Nat} (hr : Resuming r s) (hstate : r.state = .settling)
    (hb : Below env r.id (n + 1) s.world) (hwithin : WithinBudget s'.world.db.attempts)
    (hcrash : a ≠ .crash) (hlink : ∀ k c, JobMove s a k c → ¬ FallsBack r.id c)
    (hfresh : FreshAttempt s a) : Resuming r s' ∨ Below env r.id n s'.world := by
  rcases again_step h hb hr.row with hrow' | hbelow
  · have hgrown := fun hmore => hb.of_attempt hstate hr.row hrow' hmore hwithin
    rcases live_step h r.id hlink with hlive | hmore
    · exact (hr.ahead_step h hstate hcrash hlink hfresh).imp
        (fun hahead => ⟨hrow', hlive.idle hr.idle, hahead⟩) hgrown
    · exact Or.inr (hgrown hmore)
  · exact Or.inr hbelow

/-! ## Executions -/

/-- **The executor serves its kicks one at a time and in their order.**  The chain names a settlement
    once, and in flight are those it names.  Unless the process crashes, what was in flight, and after it
    what is kicked while it is not in flight, ends in that order. -/
theorem kicks_served_in_order {env : Env} {s t : Sys} (h : Reachable env s)
    {ended kicked : List JsString} (r : Served (facilitator env) s t ended kicked) :
    (t.pending (facilitator env)).Nodup ∧
      (∀ id, id ∈ t.inFlight ↔ id ∈ t.pending (facilitator env)) ∧
      s.pending (facilitator env) ++ kicked = ended ++ t.pending (facilitator env) := by
  have hchained : Chained (facilitator env) s := chained_run h
  obtain ⟨hafter, hserved⟩ := r.in_order hchained
  exact ⟨hafter.once, hafter.flight, hserved⟩

/-- While the first settlement is queued, a second one is approved; then the mandate of the first is revoked,
    and its run rejects it. -/
def demoSecondKick : List Act :=
  demoOther ++ [.request (.postRevoke (js "m1") (.ed25519 (js "00"))) [], .startJob [], .endJob]

/-- The first run ends, and the second, kicked since, is next. -/
theorem kicks_served_in_order_demo : ∃ s t : Sys, Reachable demoEnv s ∧
    s.pending (facilitator demoEnv) = [js "s1"] ∧
    Served (facilitator demoEnv) s t [js "s1"] [js "s2"] ∧
    (t.pending (facilitator demoEnv)).Nodup ∧
    (∀ id, id ∈ t.inFlight ↔ id ∈ t.pending (facilitator demoEnv)) ∧
    [js "s1"] ++ [js "s2"] = [js "s1"] ++ t.pending (facilitator demoEnv) := by
  obtain ⟨s, hreach, hp⟩ := reachable_of_run demoEnv demoSettling.dropLast
    (fun s => s.pending (facilitator demoEnv) == [js "s1"] &&
      (served (facilitator demoEnv) (s, [], []) demoSecondKick).any fun o =>
        o.2.1 == [js "s1"] && o.2.2 == [js "s2"])
    (by decide +kernel)
  rw [Bool.and_eq_true, beq_iff_eq] at hp
  obtain ⟨hpending, hserves⟩ := hp
  obtain ⟨⟨t, ended, kicked⟩, hserves, hkeys⟩ := Option.any_eq_true _ _ |>.mp hserves
  rw [Bool.and_eq_true, beq_iff_eq, beq_iff_eq] at hkeys
  obtain ⟨rfl, rfl⟩ := hkeys
  have hserved := Served.of_served .refl hserves
  have horder := kicks_served_in_order hreach hserved
  rw [hpending] at horder
  exact ⟨s, t, hreach, hpending, hserved, horder⟩

end Hundi
