/-
  The kick budget of an `approved` settlement.

  The sweep kicks a settlement that has been `approved` for a while, at most `maxApprovedKicks` times,
  and abandons it at the next visit.  It counts its kicks, not the executor's runs: a kick for a
  settlement that already waits in the executor's queue is dropped (`inFlight`) and counts all the same.
  The rule reads the rows once and then visits them without an await in between, so it spares what is
  in flight exactly as far as nothing it reads is in flight when it starts (`RuleStartsClear`): its own
  kicks are for rows it has passed (`Clear`).
-/
import Hundi.Facilitator.Invariants

namespace Hundi

open Js EventLoop

/-- The mandate has expired when the rule starts. -/
def mandateExpired (db : Db) (now : Int) (mandateId : JsString) : Bool :=
  (getMandateRow db mandateId).any fun m => now > m.intent.expiresAt

/-- A visit of the rule to stale `approved` settlements leaves a settlement alone that is queued or
    running in the executor: it neither abandons it for its kicks nor counts one more. -/
def Spares (s : Sys) (a : Act) (s' : Sys) : Prop :=
  ∀ since rows, TaskMove s a (.running (.sweep (.staleApproved since rows))) →
    ∀ r ∈ s.world.db.settlements.rows, r.state = .approved → r.id ∈ s.inFlight →
      mandateExpired s.world.db since r.mandateId = false → r ∈ s'.world.db.settlements.rows

/-- When the rule reads its rows, none of them is queued or running, or its mandate has expired. -/
def RuleStartsClear (env : Env) (s : Sys) (a : Act) : Prop :=
  ∀ since, TaskMove s a (.running (.sweep (.expiredApprovals since []))) →
    ∀ r ∈ selectStaleApproved env s.clock s.world.db, r.id ∈ s.inFlight →
      mandateExpired s.world.db s.clock r.mandateId = true

/-! ## Where a micro-step leads -/

/-- The points at which a tick awaits. -/
def SweepPoint.awaits : SweepPoint → Bool
  | .staleAttempts _ => true
  | .staleAttemptsSwept => true
  | _ => false

/-- A tick that awaits does so where it may, and the rule is not entered. -/
structure OffRule (next : Next Task) : Prop where
  park : ∀ p, next = .park (.sweep p) → p.awaits = true
  cpu : ∀ since rows, next ≠ .cpu (.sweep (.staleApproved since rows))

theorem offRule_done : OffRule .done := ⟨nofun, nofun⟩

theorem offRule_respondWith {w : World} {x : Except Exn Db} : OffRule (respondWith w x).next := by
  cases x <;> exact offRule_done

/-- A task that is not the sweep's. -/
theorem offRule_cpu {t : Task} (h : ∀ p, t ≠ .sweep p) : OffRule (.cpu t) where
  park := nofun
  cpu := fun _ _ heq => h _ (Next.cpu.inj heq)

theorem offRule_park {t : Task} (h : ∀ p, t ≠ .sweep p) : OffRule (.park t) where
  park := fun p heq => absurd (Next.park.inj heq) (h p)
  cpu := nofun

theorem offRule_afterReconcile {caller : Caller} {o : World × ReconcileNext} :
    OffRule (afterReconcile caller o).next := by
  obtain ⟨w, next⟩ := o
  cases next with
  | awaiting p => exact offRule_park nofun
  | running p => exact offRule_cpu nofun
  | returned =>
    cases caller with
    | webhook eventId eventType => exact offRule_done
    | sweep rest =>
      refine ⟨fun p heq => ?_, nofun⟩
      obtain rfl := Task.sweep.inj (Next.park.inj heq)
      rfl
  | threw e =>
    cases caller with
    | webhook eventId eventType => exact offRule_park nofun
    | sweep rest => exact offRule_done

theorem offRule_handle {env : Env} {now : Int} {seed : JsString} {w : World} {r : Request} :
    OffRule (handleRequest env now seed w r).next := by
  unfold handleRequest
  split
  · cases r with
    | postCeremonyTokens dashboardToken =>
      simp only [handleValid, postCeremonyTokens]
      split
      · exact offRule_done
      split <;> exact offRule_done
    | postAdminMerchants adminToken merchantId name catalogUrl catalogPrices =>
      simp only [handleValid, postAdminMerchants]
      split
      · exact offRule_done
      split <;> exact offRule_done
    | postStoresOnboard merchantId name url catalogPrices => exact offRule_done
    | postMandates intent credential ceremonyToken => exact offRule_respondWith
    | postSettlements idempotencyKey intent cart =>
      rw [handleValid]
      unfold postSettlements
      split
      · exact offRule_done
      · exact offRule_done
      split
      · exact offRule_done
      dsimp only
      split
      · exact offRule_done
      · exact offRule_cpu fun p hp => by cases hp
      · exact offRule_done
      · exact offRule_done
      · exact offRule_done
    | postDecisions settlementId payload signatureHex => exact offRule_respondWith
    | postApprovals settlementId mandateCartHashHex decision sig =>
      simp only [handleValid, postApprovals]
      split <;> exact offRule_done
    | postRevoke mandateId sig => exact offRule_respondWith
    | postRefund settlementId dashboardToken =>
      simp only [handleValid, postRefund]
      split
      · exact offRule_done
      split
      · exact offRule_done
      split
      · exact offRule_done
      split
      · exact offRule_done
      split
      · exact offRule_done
      split
      · exact offRule_park fun p hp => by cases hp
      · exact offRule_done
    | postWebhook rawBody signatureHeader eventIdHeader =>
      simp only [handleValid, postWebhook, rejectWebhook]
      split
      · exact offRule_respondWith
      split
      · exact offRule_respondWith
      split
      · exact offRule_respondWith
      · exact offRule_respondWith
      split
      · exact offRule_done
      split
      · exact offRule_done
      · exact offRule_done
      · exact offRule_cpu fun p hp => by cases hp
    | sweepTick => exact ⟨fun p hp => (by cases hp), fun since rows hp => (by cases hp)⟩
  · exact offRule_done

/-! ## The steps of a tick -/

theorem sweepCommit_next {w : World} {kicks : List Kick} {p : SweepPoint} {x : Except Exn Db} :
    (sweepCommit w kicks p x).2.1 = .continue p ∨ (sweepCommit w kicks p x).2.1 = .done := by
  cases x with
  | error e => exact Or.inr rfl
  | ok db => exact Or.inl rfl

/-- Where an effect of a tick leads: to an await of the first rule, to the next row of the rule, or to
    the rule after it. -/
inductive SweepLeads (env : Env) (now : Int) (w : World) : SweepPoint → World × SweepNext × List Kick → Prop where
  | yields {p q : SweepPoint} {w' : World} {kicks : List Kick} (hq : q.awaits = true) :
      SweepLeads env now w p (w', .yield q, kicks)
  | ends {p : SweepPoint} {w' : World} {kicks : List Kick} : SweepLeads env now w p (w', .done, kicks)
  | reconciles {p : SweepPoint} {point : ReconcilePoint} {rest : List StaleAttempt} {w' : World}
      {kicks : List Kick} : SweepLeads env now w p (w', .reconcile point rest, kicks)
  | elsewhere {p q : SweepPoint} {w' : World} {kicks : List Kick}
      (hq : ∀ since rows, q ≠ .staleApproved since rows) : SweepLeads env now w p (w', .continue q, kicks)
  | starts (since : Int) : SweepLeads env now w (.expiredApprovals since [])
      (w, .continue (.staleApproved now (selectStaleApproved env now w.db)), [])
  | visits (since : Int) (row : SettlementRow) (rest : List SettlementRow) {w' : World}
      {kicks : List Kick} : SweepLeads env now w (.staleApproved since (row :: rest))
        (w', .continue (.staleApproved since rest), kicks)

/-- The point is one of the rule over stale approvals. -/
def SweepPoint.visitsApproved : SweepPoint → Bool
  | .staleApproved _ _ => true
  | _ => false

theorem off {q : SweepPoint} (h : q.visitsApproved = false) :
    ∀ since rows, q ≠ .staleApproved since rows := by
  rintro since rows rfl
  exact nomatch h

theorem sweepLeads_commit {env : Env} {now : Int} {w : World} {p q : SweepPoint} {kicks : List Kick}
    {x : Except Exn Db} (hq : ∀ since rows, q ≠ .staleApproved since rows) :
    SweepLeads env now w p (sweepCommit w kicks q x) := by
  cases x with
  | error e => exact .ends
  | ok db => exact .elsewhere hq

/-- A visit goes on to the next row, or the tick has thrown. -/
theorem sweepApproved_next (env : Env) (clock now : Int) (w : World) (row : SettlementRow)
    (rest : List SettlementRow) :
    (sweepApproved env clock now w row rest).2.1 = .continue (.staleApproved now rest) ∨
    (sweepApproved env clock now w row rest).2.1 = .done := by
  simp only [sweepApproved]
  split
  · exact sweepCommit_next
  · split
    · exact Or.inr rfl
    · exact Or.inl rfl

theorem sweepLeads (env : Env) (now : Int) (w : World) (p : SweepPoint) :
    SweepLeads env now w p (sweepStep env now w p) := by
  cases p with
  | staleAttempts rest =>
    cases rest with
    | nil => exact .yields rfl
    | cons attempt rest =>
      simp only [sweepStep, sweepStaleAttempt]
      split
      · split
        · exact .reconciles
        · exact .yields rfl
      · split
        · exact .elsewhere (off rfl)
        · exact sweepLeads_commit (off rfl)
  | staleAttemptsSwept => exact .elsewhere (off rfl)
  | transientSettlements rest =>
    cases rest with
    | nil => exact .elsewhere (off rfl)
    | cons row rest => exact sweepLeads_commit (off rfl)
  | staleVerified rest =>
    cases rest with
    | nil => exact .elsewhere (off rfl)
    | cons id rest => exact sweepLeads_commit (off rfl)
  | expiredApprovals since rest =>
    cases rest with
    | nil => exact .starts since
    | cons row rest =>
      simp only [sweepStep, sweepExpiredApproval]
      split
      · exact .elsewhere (off rfl)
      · split
        · exact .elsewhere (off rfl)
        · exact sweepLeads_commit (off rfl)
  | staleApproved since rest =>
    cases rest with
    | nil => exact .elsewhere (off rfl)
    | cons row rest =>
      rw [sweepStep]
      have hnext := sweepApproved_next env now since w row rest
      generalize sweepApproved env now since w row rest = o at hnext ⊢
      obtain ⟨w', next, kicks⟩ := o
      rcases hnext with rfl | rfl
      · exact .visits since row rest
      · exact .ends
  | stuckSettling rest =>
    cases rest with
    | nil => exact .elsewhere (off rfl)
    | cons id rest =>
      simp only [sweepStep, sweepSettling]
      split
      · exact .elsewhere (off rfl)
      · split
        · exact .elsewhere (off rfl)
        · exact sweepLeads_commit (off rfl)
  | staleIdempotencyLocks => exact .ends

/-- A visit touches the rows with the id it is about, and kicks that id at most. -/
structure Visited (w : World) (id : JsString) (w' : World) (kicks : List Kick) : Prop where
  mandates : w'.db.mandates = w.db.mandates
  others : ∀ r ∈ w.db.settlements.rows, r.id ≠ id → r ∈ w'.db.settlements.rows
  kicks : ∀ k ∈ kicks, k.settlementId = id

theorem visited_same (w : World) (id : JsString) : Visited w id w [] where
  mandates := rfl
  others := fun _ hr _ => hr
  kicks := fun _ hk => absurd hk List.not_mem_nil

theorem sweepApproved_visited (env : Env) (clock now : Int) (w : World) (row : SettlementRow)
    (rest : List SettlementRow) :
    Visited w row.id (sweepApproved env clock now w row rest).1
      (sweepApproved env clock now w row rest).2.2 := by
  simp only [sweepApproved]
  split
  · cases h : abandonSettlement env.crypto clock w.db row.id .approved .settlement_abandoned _ with
    | error e => exact visited_same w row.id
    | ok db =>
      rcases abandonSettlement_ok h with ⟨rfl, -⟩ | ⟨l, moved, -, hid, hm, hdb⟩
      · exact visited_same w row.id
      · refine ⟨?_, fun r hr hne => ?_, fun k hk => absurd hk List.not_mem_nil⟩
        · show db.mandates = w.db.mandates
          rw [hdb]
        · exact hm.mem_iff.mpr (Or.inr ⟨hr, fun h => hne (h.trans hid)⟩)
  · split
    · exact visited_same w row.id
    · rename_i db bumped h
      obtain ⟨hb, hdb⟩ := bumpKickCount_ok h
      refine ⟨?_, fun r hr hne => ?_, fun k hk => ?_⟩
      · show db.mandates = w.db.mandates
        rw [hdb]
      · refine (Table.mem_update? hb).mpr (Or.inr ⟨hr, ?_⟩)
        rw [beq_eq_false_iff_ne.mpr hne, Bool.false_and]
      · cases bumped with
        | true => exact congrArg Kick.settlementId (List.mem_singleton.mp hk)
        | false => exact absurd hk List.not_mem_nil

/-! ## The invariant -/

/-- While the rule visits its rows, none of those to come is in flight, or its mandate has expired; they
    are rows of different settlements. -/
structure Clear (s : Sys) : Prop where
  parked : ∀ p, .sweep p ∈ s.parked → p.awaits = true
  nodup : ∀ since rows, s.cpu = some (.sweep (.staleApproved since rows)) → (rows.map (·.id)).Nodup
  known : ∀ since rows, s.cpu = some (.sweep (.staleApproved since rows)) → ∀ copy ∈ rows,
    ∃ r ∈ s.world.db.settlements.rows, r.id = copy.id ∧ r.mandateId = copy.mandateId
  clear : ∀ since rows, s.cpu = some (.sweep (.staleApproved since rows)) → ∀ copy ∈ rows,
    copy.id ∈ s.inFlight → mandateExpired s.world.db since copy.mandateId = true

/-- Nothing is to show of a state in which the rule is not visiting. -/
theorem clear_idle {s : Sys} (hparked : ∀ p, .sweep p ∈ s.parked → p.awaits = true)
    (hcpu : ∀ since rows, s.cpu ≠ some (.sweep (.staleApproved since rows))) : Clear s where
  parked := hparked
  nodup := fun since rows h => absurd h (hcpu since rows)
  known := fun since rows h => absurd h (hcpu since rows)
  clear := fun since rows h => absurd h (hcpu since rows)

/-- A micro-step that leads elsewhere: `s₀` is the state without its task. -/
theorem Clear.finish {env : Env} {s s₀ : Sys} (h : Clear s) {o : Done} (hparked : ∀ t ∈ s₀.parked, t ∈ s.parked)
    (hcpu : s₀.cpu = none) (hoff : OffRule o.next) : Clear (s₀.finish (facilitator env) o) := by
  refine clear_idle (fun p hp => ?_) fun since rows hc => ?_
  · rw [finish_parked] at hp
    cases hn : o.next with
    | done => rw [hn] at hp; exact h.parked p (hparked _ hp)
    | cpu t => rw [hn] at hp; exact h.parked p (hparked _ hp)
    | park t =>
      rw [hn] at hp
      rcases List.mem_append.mp hp with hp | hp
      · exact h.parked p (hparked _ hp)
      · rw [List.mem_singleton] at hp
        exact hoff.park p (by rw [hn, hp])
  · rw [finish_cpu] at hc
    cases hn : o.next with
    | done => rw [hn, hcpu] at hc; exact nomatch hc
    | cpu t =>
      rw [hn] at hc
      exact hoff.cpu since rows (by rw [hn, Option.some.inj hc])
    | park t => rw [hn, hcpu] at hc; exact nomatch hc

theorem settlements_ids_nodup (t : Settlements) : (t.rows.map (·.id)).Nodup := by
  refine List.pairwise_map.mpr (t.unique.imp fun hclash hid => ?_)
  rw [SettlementRow.clash, hid, beq_self_eq_true, Bool.true_or, Bool.true_or] at hclash
  cases hclash

/-- The rule reads its rows. -/
theorem Clear.starts {env : Env} {s : Sys} (h : Clear s)
    (hclear : ∀ r ∈ selectStaleApproved env s.clock s.world.db, r.id ∈ s.inFlight →
      mandateExpired s.world.db s.clock r.mandateId = true) :
    Clear (State.finish (facilitator env) { s with cpu := none } (afterSweep (s.world,
      .continue (.staleApproved s.clock (selectStaleApproved env s.clock s.world.db)), []))) where
  parked := by
    intro p hp
    rw [finish_parked] at hp
    exact h.parked p hp
  nodup := by
    rintro since rows hc
    rw [finish_cpu] at hc
    obtain ⟨rfl, rfl⟩ := SweepPoint.staleApproved.inj (Task.sweep.inj (Option.some.inj hc))
    exact (settlements_ids_nodup s.world.db.settlements).sublist (List.filter_sublist.map _)
  known := by
    rintro since rows hc copy hcopy
    rw [finish_cpu] at hc
    obtain ⟨rfl, rfl⟩ := SweepPoint.staleApproved.inj (Task.sweep.inj (Option.some.inj hc))
    rw [finish_world]
    exact ⟨copy, List.mem_of_mem_filter hcopy, rfl, rfl⟩
  clear := by
    rintro since rows hc copy hcopy hin
    rw [finish_cpu] at hc
    obtain ⟨rfl, rfl⟩ := SweepPoint.staleApproved.inj (Task.sweep.inj (Option.some.inj hc))
    rw [finish_world]
    rcases (mem_inFlight_finish _).mp hin with hin | ⟨k, hk, -⟩
    · exact hclear copy hcopy hin
    · exact absurd hk List.not_mem_nil

/-- The rule visits a row: what it kicks is behind it. -/
theorem Clear.visits {env : Env} {s : Sys} {since : Int} {row : SettlementRow}
    {rest : List SettlementRow} {w' : World} {kicks : List Kick} (h : Clear s)
    (hcpu : s.cpu = some (.sweep (.staleApproved since (row :: rest))))
    (hv : Visited s.world row.id w' kicks) (hkept : SettlementsKept s.world.db.settlements w'.db.settlements) :
    Clear (State.finish (facilitator env) { s with cpu := none }
      (afterSweep (w', .continue (.staleApproved since rest), kicks))) where
  parked := by
    intro p hp
    rw [finish_parked] at hp
    exact h.parked p hp
  nodup := by
    rintro since' rows hc
    rw [finish_cpu] at hc
    obtain ⟨rfl, rfl⟩ := SweepPoint.staleApproved.inj (Task.sweep.inj (Option.some.inj hc))
    exact (List.nodup_cons.mp (h.nodup _ _ hcpu)).2
  known := by
    rintro since' rows hc copy hcopy
    rw [finish_cpu] at hc
    obtain ⟨rfl, rfl⟩ := SweepPoint.staleApproved.inj (Task.sweep.inj (Option.some.inj hc))
    obtain ⟨r, hr, hid, hmid⟩ := h.known _ _ hcpu copy (List.mem_cons_of_mem _ hcopy)
    obtain ⟨r', hr', hk⟩ := hkept r hr
    rw [finish_world]
    exact ⟨r', hr', hk.id.trans hid, hk.mandateId.trans hmid⟩
  clear := by
    rintro since' rows hc copy hcopy hin
    rw [finish_cpu] at hc
    obtain ⟨rfl, rfl⟩ := SweepPoint.staleApproved.inj (Task.sweep.inj (Option.some.inj hc))
    have hexpired : mandateExpired w'.db since copy.mandateId
        = mandateExpired s.world.db since copy.mandateId := by
      rw [mandateExpired, mandateExpired, getMandateRow, getMandateRow, hv.mandates]
    rw [finish_world]
    show mandateExpired w'.db since copy.mandateId = true
    rw [hexpired]
    rcases (mem_inFlight_finish _).mp hin with hin | ⟨k, hk, hid⟩
    · exact h.clear _ _ hcpu copy (List.mem_cons_of_mem _ hcopy) hin
    · -- the kick is for the row just visited, and `copy` is another settlement's
      refine absurd (List.mem_map.mpr ⟨copy, hcopy, ?_⟩) (List.nodup_cons.mp (h.nodup _ _ hcpu)).1
      exact hid.trans (hv.kicks k hk)

theorem offRule_sweep {env : Env} {now : Int} {w : World} {p : SweepPoint}
    (hstart : ∀ since, p ≠ .expiredApprovals since [])
    (hvisit : ∀ since row rest, p ≠ .staleApproved since (row :: rest)) :
    OffRule (afterSweep (sweepStep env now w p)).next := by
  have hleads := sweepLeads env now w p
  generalize sweepStep env now w p = o at hleads ⊢
  cases hleads with
  | yields hq =>
    refine ⟨fun p heq => ?_, nofun⟩
    rw [← Task.sweep.inj (Next.park.inj heq)]
    exact hq
  | ends => exact offRule_done
  | reconciles => exact offRule_park nofun
  | elsewhere hq =>
    exact ⟨nofun, fun since rows heq => hq since rows (Task.sweep.inj (Next.cpu.inj heq))⟩
  | starts since => exact absurd rfl (hstart since)
  | visits since row rest => exact absurd rfl (hvisit since row rest)

/-- What a task that is not the sweep's does when it runs. -/
theorem offRule_runTask {env : Env} {now : Int} {seed : JsString} {w : World} {t : Task}
    (ht : ∀ p, t ≠ .sweep p) : OffRule (runTask env now seed w t).next := by
  cases t with
  | reconcile caller point =>
    cases point with
    | lostRace attempt paymentId => exact offRule_afterReconcile
    | fetchOrderPayments attempt orderId => exact offRule_park nofun
    | refundPayment settlementId attemptId paymentId => exact offRule_park nofun
  | sweep point => exact absurd rfl (ht point)
  | settlementClaimed key intent cart =>
    simp only [runTask, settlementClaimed]
    split <;> exact offRule_done
  | refund settlementId attemptId paymentId amountPaise => exact offRule_park nofun
  | webhook eventId eventType body =>
    simp only [runTask, webhookClaimed]
    split
    · split
      · exact offRule_respondWith
      split
      · exact offRule_afterReconcile
      · exact offRule_done
      · exact offRule_park nofun
    · exact offRule_done
  | webhookFailed eventId eventType err => exact offRule_respondWith

theorem offRule_resumeTask {env : Env} {now : Int} {w : World} {t : Task} {answer : Answer} {o : Done}
    (h : resumeTask env now w t answer = some o) (ht : ∀ p, t = .sweep p → p.awaits = true) :
    OffRule o.next := by
  unfold resumeTask at h
  split at h
  · obtain rfl := Option.some.inj h
    exact offRule_afterReconcile
  · obtain rfl := Option.some.inj h
    exact offRule_afterReconcile
  · obtain rfl := Option.some.inj h
    unfold refundAnswered
    split
    · exact offRule_done
    · dsimp only
      split <;> exact offRule_done
  · rename_i p
    obtain rfl := Option.some.inj h
    have hp := ht p rfl
    refine offRule_sweep (fun since heq => ?_) fun since row rest heq => ?_
    · rw [heq] at hp; exact nomatch hp
    · rw [heq] at hp; exact nomatch hp
  · obtain rfl := Option.some.inj h
    exact offRule_respondWith
  · exact nomatch h

/-- The rule starts, visits a row, or neither. -/
theorem sweepPoint_cases (p : SweepPoint) :
    (∃ since, p = .expiredApprovals since []) ∨ (∃ since row rest, p = .staleApproved since (row :: rest)) ∨
    ((∀ since, p ≠ .expiredApprovals since []) ∧ ∀ since row rest, p ≠ .staleApproved since (row :: rest)) := by
  by_cases hstart : ∃ since, p = .expiredApprovals since []
  · exact Or.inl hstart
  by_cases hvisit : ∃ since row rest, p = .staleApproved since (row :: rest)
  · exact Or.inr (Or.inl hvisit)
  exact Or.inr (Or.inr ⟨fun since h => hstart ⟨since, h⟩, fun since row rest h =>
    hvisit ⟨since, row, rest, h⟩⟩)

theorem Clear.step {env : Env} {s s' : Sys} {a : Act} (h : Clear s)
    (hexcl : ∀ k p, s.job = some (k, .running p) → s.cpu = none) (hok : RuleStartsClear env s a)
    (hstep : sysStep env s a = some s') : Clear s' := by
  have hkept := (persists_step hstep).settlements
  have hidle : s.cpu = none → ∀ since rows, s.cpu ≠ some (.sweep (.staleApproved since rows)) := by
    intro hnone since rows hc
    rw [hnone] at hc
    exact nomatch hc
  cases stepped_of_step _ hstep with
  | clock now => exact ⟨h.parked, h.nodup, h.known, h.clear⟩
  | crash => exact clear_idle (fun p hp => absurd hp List.not_mem_nil) nofun
  | request r seed hfree => exact h.finish (fun _ ht => ht) (free_cpu hfree) offRule_handle
  | runTask seed t hcpu =>
    cases t with
    | sweep p =>
      rcases sweepPoint_cases p with ⟨since, rfl⟩ | ⟨since, row, rest, rfl⟩ | ⟨hstart, hvisit⟩
      · exact h.starts (hok since (.runTask seed _ hcpu))
      · have hv := sweepApproved_visited env s.clock since s.world row rest
        have hnext := sweepApproved_next env s.clock since s.world row rest
        change SettlementsKept _ (State.finish _ _ (afterSweep (sweepApproved env s.clock since s.world row
          rest))).world.db.settlements at hkept
        change Clear (State.finish _ _ (afterSweep (sweepApproved env s.clock since s.world row rest)))
        generalize sweepApproved env s.clock since s.world row rest = o at hv hnext hkept ⊢
        obtain ⟨w', next, kicks⟩ := o
        rcases hnext with rfl | rfl
        · rw [finish_world] at hkept
          exact h.visits hcpu hv hkept
        · exact h.finish (fun _ ht => ht) rfl offRule_done
      · exact h.finish (fun _ ht => ht) rfl (offRule_sweep hstart hvisit)
    | _ => exact h.finish (fun _ ht => ht) rfl (offRule_runTask nofun)
  | resumeTask i answer t o hfree ht ho =>
    refine h.finish (fun _ hu => List.mem_of_mem_eraseIdx hu) (free_cpu hfree)
      (offRule_resumeTask ho fun p hp => ?_)
    rw [hp] at ht
    exact h.parked p (List.mem_of_getElem? ht)
  | startJob seed k rest hfree hjob hq => exact clear_idle h.parked (hidle (free_cpu hfree))
  | runJob seed k p hjob => exact clear_idle h.parked (hidle (hexcl k p hjob))
  | resumeJob answer k p o hfree hjob ho => exact clear_idle h.parked (hidle (free_cpu hfree))
  | endJob k hjob =>
    refine ⟨h.parked, h.nodup, h.known, fun since rows hc copy hcopy hin => ?_⟩
    exact h.clear since rows hc copy hcopy (List.mem_filter.mp hin).1

/-! ## The results -/

theorem clear_run {env : Env} {s : Sys} (h : Run (facilitator env) (RuleStartsClear env) Sys.initial s) :
    Clear s := by
  have hboth : (soundOutline env).Holds s ∧ Clear s := by
    refine h.invariant (I := fun s => (soundOutline env).Holds s ∧ Clear s) (fun hs hok hstep => ?_)
      ⟨(soundOutline env).holds_boot (sound_initial env.crypto),
        clear_idle (fun p hp => absurd hp List.not_mem_nil) nofun⟩
    exact ⟨Outline.holds_step _ hs.1 trivial hstep, hs.2.step hs.1.excl hok hstep⟩
  exact hboth.2

theorem Clear.spares {env : Env} {s s' : Sys} {a : Act} (h : Clear s)
    (hstep : sysStep env s a = some s') : Spares s a s' := by
  intro since rows hmove r hr hstate hin hfresh
  cases hmove with
  | runTask seed _ hcpu =>
    cases stepped_of_step _ hstep with
    | runTask seed' t hcpu' =>
      obtain rfl := Option.some.inj (hcpu.symm.trans hcpu')
      rw [finish_world]
      cases rows with
      | nil => exact hr
      | cons row rest =>
        have hv := sweepApproved_visited env s.clock since s.world row rest
        show r ∈ (afterSweep (sweepApproved env s.clock since s.world row rest)).world.db.settlements.rows
        have hworld : (afterSweep (sweepApproved env s.clock since s.world row rest)).world
            = (sweepApproved env s.clock since s.world row rest).1 := by
          have hnext := sweepApproved_next env s.clock since s.world row rest
          generalize sweepApproved env s.clock since s.world row rest = o at hnext ⊢
          obtain ⟨w', next, kicks⟩ := o
          rcases hnext with rfl | rfl <;> rfl
        rw [hworld]
        refine hv.others r hr fun hid => ?_
        -- the row visited is the settlement's own, so its mandate has expired
        obtain ⟨r₀, hr₀, hid₀, hmid₀⟩ := h.known _ _ hcpu row List.mem_cons_self
        obtain rfl := settlement_eq hr hr₀ (hid.trans hid₀.symm)
        have hexpired := h.clear _ _ hcpu row List.mem_cons_self (by rw [← hid]; exact hin)
        rw [← hmid₀, hfresh] at hexpired
        exact nomatch hexpired

/-- **The sweep spares what is in flight as far as it starts clear.**  In a run in which none of the
    rows the rule reads is queued or running whenever it reads them, no visit abandons or charges a
    kick to a settlement that is. -/
theorem in_flight_spared {env : Env} {s s' : Sys} {a : Act}
    (h : Run (facilitator env) (RuleStartsClear env) Sys.initial s) (hstep : sysStep env s a = some s') :
    Spares s a s' :=
  (clear_run h).spares hstep

/-- Nothing the rule is about to read is in flight. -/
def ruleStartsClear (env : Env) (s : Sys) : Act → Bool
  | .runTask _ =>
    match s.cpu with
    | some (.sweep (.expiredApprovals _ [])) =>
      (selectStaleApproved env s.clock s.world.db).all fun r => !s.inFlight.contains r.id
    | _ => true
  | _ => true

theorem ruleStartsClear_of_check {env : Env} (s : Sys) (a : Act) (h : ruleStartsClear env s a = true) :
    RuleStartsClear env s a := by
  intro since hmove r hr hin
  cases hmove with
  | runTask seed _ hcpu =>
    rw [ruleStartsClear, hcpu] at h
    have hnot := List.all_eq_true.mp h r hr
    rw [List.contains_iff_mem.mpr hin] at hnot
    exact nomatch hnot

/-- A second mandate, and a cart under it. -/
def demoOtherIntent : IntentMandate := { demoIntent with mandateId := js "m2" }

def demoOtherCart : CartMandate :=
  { demoCart with
    cartId := js "c2"
    intentHashHex :=
      match intentSigningBytes demoOtherIntent with
      | .ok bytes => demoCrypto.sha256Hex bytes
      | .error _ => [] }

/-- The second mandate is registered and its cart submitted. -/
def demoOther : List Act :=
  [.request (.postCeremonyTokens (some (js "dashboard"))) (js "token2"),
    .request (.postMandates demoOtherIntent (.ed25519 (js "bb")) (js "token2")) [],
    .request (.postSettlements (some (js "key2")) demoOtherIntent demoOtherCart) [],
    .runTask (js "s2")]

/-- A tick of the sweep, up to so many micro-steps after its await. -/
def demoTick (now : Int) (steps : Nat) : List Act :=
  [.clock now, .request .sweepTick [], .runTask [], .resumeTask 0 .ready] ++
    List.replicate steps (.runTask [])

/-- The rule is visiting while an `approved` settlement with a good mandate is in flight. -/
def visitsInFlight (s : Sys) : Option SettlementRow :=
  match s.cpu with
  | some (.sweep (.staleApproved since _)) => s.world.db.settlements.rows.find? fun r =>
      r.state == .approved && s.inFlight.contains r.id && !mandateExpired s.world.db since r.mandateId
  | _ => none

/-- The process went down with the first settlement `approved`; the rule visits it while the second one
    is queued. -/
theorem in_flight_spared_demo : ∃ s s' : Sys, (visitsInFlight s).isSome = true ∧
    Spares s (.runTask []) s' := by
  have hcheck : (runIf (facilitator demoEnv) (ruleStartsClear demoEnv) Sys.initial
      (demoSettling.dropLast ++ [.crash, .clock 1060] ++ demoOther ++ demoTick 1062 3)).any
      (fun s => (visitsInFlight s).isSome && (sysStep demoEnv s (.runTask [])).isSome) = true := by
    decide +kernel
  obtain ⟨s, hs, hp⟩ := Option.any_eq_true _ _ |>.mp hcheck
  rw [Bool.and_eq_true] at hp
  obtain ⟨s', hstep⟩ := Option.isSome_iff_exists.mp hp.2
  exact ⟨s, s', hp.1, in_flight_spared (Run.of_runIf ruleStartsClear_of_check hs) hstep⟩

/-- The driver is busy with the first settlement while the sweep ticks four times: the second one, next
    in the queue, is kicked three times. -/
def demoQueued : List Act :=
  demoCheckout ++ demoOther ++ demoTick 1061 8 ++ demoTick 1069 8 ++ demoTick 1077 8 ++ demoTick 1085 3

/-- The next micro-step abandons the settlement in flight. -/
def abandonsInFlight (s : Sys) : Bool :=
  (visitsInFlight s).any fun r => (sysStep demoEnv s (.runTask [])).any fun s' =>
    s'.world.db.settlements.rows.any fun r' => r'.id == r.id && r'.state == .abandoned

/-- **A settlement is abandoned while it waits its turn.**  Its three kicks were dropped. -/
theorem queued_settlement_abandoned :
    ¬ ∀ (env : Env) (s s' : Sys) (a : Act), Reachable env s → sysStep env s a = some s' →
      Spares s a s' := by
  intro hall
  obtain ⟨s, hs, hp⟩ := reachable_of_run demoEnv demoQueued abandonsInFlight (by decide +kernel)
  obtain ⟨r, hvisit, hp⟩ := Option.any_eq_true _ _ |>.mp hp
  obtain ⟨s', hstep, hp⟩ := Option.any_eq_true _ _ |>.mp hp
  obtain ⟨r', hr', hp⟩ := List.any_eq_true.mp hp
  rw [Bool.and_eq_true, beq_iff_eq, beq_iff_eq] at hp
  unfold visitsInFlight at hvisit
  split at hvisit
  · rename_i since rows hcpu
    have hr := List.mem_of_find?_eq_some hvisit
    have hrow := List.find?_some hvisit
    simp only [Bool.and_eq_true, beq_iff_eq, List.contains_iff_mem, Bool.not_eq_true'] at hrow
    obtain ⟨⟨hstate, hin⟩, hfresh⟩ := hrow
    have hkept := hall demoEnv s s' _ hs hstep since rows (.runTask [] _ hcpu) r hr hstate hin hfresh
    rw [settlement_eq hr' hkept hp.1, hstate] at hp
    exact nomatch hp.2
  · exact nomatch hvisit

end Hundi
