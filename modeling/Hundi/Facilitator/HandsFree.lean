/-
  A human is asked only for what is over a line.

  Approvals are a gate that must not be bypassed, and one that must not be raised without need: a mandate
  whose lines are at its ceiling is meant to be spent without a pause.  The plan:

  1. `OverLines` — what the gate found of a purchase for which it wants a human: it is over a line of the
     intent it was submitted with, and still within the ceiling.
  2. `CreatedFrom.overLines` — a settlement that is created `pending_approval` was found to be so.
  3. `AskedWithCause` — the invariant: so was every settlement that awaits a human now, and every one on
     which a decision is stored.  No step moves a settlement back to `pending_approval`, and decisions are
     stored for pending ones only.
  4. `asked_only_over_lines` — every run.  The case of lines at the ceiling is `HandsFree.not_overLines`.
-/
import Hundi.Core.Budget
import Hundi.Facilitator.Splitting

namespace Hundi

open Js EventLoop

/-! ## What the gate found -/

/-- The purchase is over a line of the intent, and within its ceiling. -/
structure OverLines (intent : IntentMandate) (amountPaise spentPaise : Int) : Prop where
  crosses : CrossesLine intent amountPaise spentPaise
  ceiling : spentPaise + amountPaise ≤ intent.ceilingPaise
  spent_nonneg : 0 ≤ spentPaise

/-- Every line of the intent is at its ceiling or above. -/
structure HandsFree (intent : IntentMandate) : Prop where
  threshold : intent.ceilingPaise ≤ intent.approvalThresholdPaise
  line : ∀ line, intent.cumulativeApprovalThresholdPaise = some line → intent.ceilingPaise ≤ line

/-- Nothing within the ceiling is over a line at the ceiling. -/
theorem HandsFree.not_overLines {intent : IntentMandate} (h : HandsFree intent)
    {amountPaise spentPaise : Int} : ¬ OverLines intent amountPaise spentPaise := by
  intro hover
  have hceiling := hover.ceiling
  have hspent := hover.spent_nonneg
  rcases hover.crosses with hcart | ⟨line, hline, hcrossed⟩
  · have hthreshold := h.threshold
    omega
  · have hat := h.line line hline
    omega

/-- What the gate accepts is within the ceiling, on top of what is captured. -/
theorem CreatedFrom.within_ceiling {crypto : Crypto} {w : World} {now : Int} {intent : IntentMandate}
    {cart : CartMandate} {row : SettlementRow} (h : CreatedFrom crypto w.db now intent cart row)
    (hs : Sound crypto w.books) (hopen : row.state ≠ .rejected) :
    0 ≤ w.db.settlements.sum (capturedAmount row.mandateId) ∧
      w.db.settlements.sum (capturedAmount row.mandateId) + row.amountPaise ≤ intent.ceilingPaise ∧
      intent.ceilingPaise ≤ maxSafe := by
  obtain ⟨ctx, hpassed⟩ := h.passed.resolve_left hopen
  obtain ⟨hash, hbuilt⟩ := hpassed.built
  obtain ⟨approval, hash', hverified⟩ := hpassed.accepted
  have hread := (buildVerifyCtx_ok hbuilt).1
  have hspent : 0 ≤ w.db.settlements.sum (capturedAmount row.mandateId) := by
    rw [capturedAmount_eq]
    exact spent_nonneg hs
  have hctx : ctx.spentPaise.getD 0 = jsRound (w.db.settlements.sum (capturedAmount row.mandateId)) := by
    rw [hread.spent, getCapturedSpend, ← h.mandateId]
    rfl
  have hmerchant : 0 ≤ ctx.merchantSpentPaise.getD 0 := by
    rw [hread.merchantSpent]
    cases intent.perMerchantCeilingPaise.bind fun limits => limits.get? cart.merchantId with
    | none => exact le_refl 0
    | some limit =>
      show 0 ≤ getCapturedSpendAtMerchant w.db intent.mandateId cart.merchantId
      rw [getCapturedSpendAtMerchant, capturedAmountAt_eq]
      exact jsRound_nonneg (spent_nonneg hs)
  have hlaw := (verifyChain_accepted hverified).law (by rw [hctx]; exact jsRound_nonneg hspent) hmerchant
  have hceiling := hlaw.ceiling
  rw [hctx] at hceiling
  rw [h.amount]
  exact ⟨hspent, jsRound_spend hspent hlaw.total_nonneg hlaw.ceiling_safe hceiling, hlaw.ceiling_safe⟩

/-- What is created to await a human is over a line of the submitted intent. -/
theorem CreatedFrom.overLines {crypto : Crypto} {w : World} {now : Int} {intent : IntentMandate}
    {cart : CartMandate} {row : SettlementRow} (h : CreatedFrom crypto w.db now intent cart row)
    (hs : Sound crypto w.books) (hstate : row.state = .pending_approval) :
    OverLines intent row.amountPaise (w.db.settlements.sum (capturedAmount row.mandateId)) := by
  have hopen : row.state ≠ .rejected := by
    rw [hstate]
    decide
  obtain ⟨hspent, hceiling, hsafe⟩ := h.within_ceiling hs hopen
  obtain ⟨hvalid, -, htotal, hgate⟩ := h.gate.resolve_left hopen
  have hneeds : needsApproval intent cart (getCapturedSpend w.db intent.mandateId) = true := by
    by_contra hnot
    rw [hstate, if_neg hnot] at hgate
    cases hgate
  -- the spend is below a safe ceiling, so reading it has not rounded it
  have hexact : getCapturedSpend w.db intent.mandateId
      = w.db.settlements.sum (capturedAmount row.mandateId) := by
    rw [getCapturedSpend, ← h.mandateId]
    apply jsRound_of_lt hspent
    rw [h.amount] at hceiling
    have hround := jsRound_gt_iff hspent (le_refl maxSafe)
    omega
  rw [hexact] at hneeds
  have hcrosses := (needsApproval_iff hvalid hspent htotal).mp hneeds
  rw [← h.amount] at hcrosses
  exact ⟨hcrosses, hceiling, hspent⟩

/-! ## The invariant -/

/-- However the settlement was created, it is over a line. -/
def OnlyOverLines (b : Books) (r : SettlementRow) : Prop :=
  ∀ spentPaise intent, .settlementCreated r.id spentPaise intent ∈ b.history →
    OverLines intent r.amountPaise spentPaise

/-- A human is or was asked for it. -/
def AskedFor (b : Books) (r : SettlementRow) : Prop :=
  r.state = .pending_approval ∨ ∃ a ∈ b.approvals.rows, a.settlementId = r.id

/-- Decisions are on stored settlements, and whoever was asked, was asked for one over a line. -/
structure AskedWithCause (b : Books) : Prop where
  decided : ∀ a ∈ b.approvals.rows, ∃ r ∈ b.settlements.rows, r.id = a.settlementId
  crossed : ∀ r ∈ b.settlements.rows, AskedFor b r → OnlyOverLines b r

/-- What is newly decided is decided on pending settlements. -/
def DecidesPending (w w' : World) : Prop :=
  ∀ a ∈ w'.books.approvals.rows, a ∈ w.books.approvals.rows ∨
    ∃ row ∈ w.db.settlements.rows, row.id = a.settlementId ∧ row.state = .pending_approval

/-- A settlement that was there before the step. -/
theorem AskedWithCause.later {crypto : Crypto} {now : Int} {w w' : World} (ha : AskedWithCause w.books)
    (hevents : ∀ id spentPaise intent, .settlementCreated id spentPaise intent ∈ w'.history →
      (∃ r ∈ w.books.settlements.rows, r.id = id) →
      .settlementCreated id spentPaise intent ∈ w.history)
    (happrovals : DecidesPending w w') {r r' : SettlementRow} (hr : r ∈ w.books.settlements.rows)
    (hk : SettlementKept r r') (htrace : SettlementTrace crypto now w w' r r') (hasked : AskedFor w'.books r') :
    OnlyOverLines w'.books r' := by
  have hbefore : AskedFor w.books r := by
    rcases hasked with hpending | ⟨a, hmem, hid⟩
    · left
      cases htrace with
      | same h => rw [← h, hpending]
      | closed h' => rcases h' with h' | h' <;> rw [h'] at hpending <;> cases hpending
      | approved approval mandateRow happroval hdecision hmandate hsigned h h' => exact h
      | entered mandateRow ctx hre hhistory h h' => rw [h'] at hpending; cases hpending
      | captured h h' => rw [h'] at hpending; cases hpending
    · rcases happrovals a hmem with hmem | ⟨row, hrow, hrid, hpending⟩
      · exact Or.inr ⟨a, hmem, hid.trans hk.id⟩
      · left
        rw [← settlement_eq hrow hr (hrid.trans (hid.trans hk.id)), hpending]
  intro spentPaise intent he
  rw [hk.id] at he
  rw [hk.amount]
  exact ha.crossed r hr hbefore spentPaise intent (hevents _ _ _ he ⟨r, hr, rfl⟩)

/-- A settlement that a request has just created: it may await a human, and nobody has decided yet. -/
theorem TaskStep.asked_created {env : Env} {now : Int} {w w' : World} {c : TaskWhy} {next : Next Task}
    (h : TaskStep env now w c w' next) (hs : Sound env.crypto w.books) (hv : Vetted env.crypto w.books)
    (hask : AskedWithCause w.books) {r' : SettlementRow}
    (hadd' : SettlementAdded w.db.settlements w'.db.settlements r') (hasked : AskedFor w'.books r') :
    OnlyOverLines w'.books r' := by
  have hmem : r' ∈ w'.db.settlements.rows := (hadd'.mem_iff r').mpr (Or.inr rfl)
  have hpending : r'.state = .pending_approval := by
    rcases hasked with hpending | ⟨a, ha, hid⟩
    · exact hpending
    · exfalso
      rcases h.approvals_before ha with ha | ⟨row, hrow, hrid, -⟩
      · obtain ⟨r, hr, hrid⟩ := hask.decided a ha
        exact hadd'.fresh r hr (hrid.trans hid)
      · exact hadd'.fresh row hrow (hrid.trans hid)
  intro spentPaise intent he
  rcases h.created_before he with he | ⟨row, cart, hid, hspent, hadd, hfrom⟩
  · obtain ⟨r, hr, hid⟩ := hv.event _ _ _ he
    exact absurd hid (hadd'.fresh r hr)
  · have hsame : row = r' := settlement_eq ((hadd.mem_iff row).mpr (Or.inr rfl)) hmem hid
    rw [hsame] at hspent hfrom
    rw [hspent]
    exact hfrom.overLines hs hpending

/-- A decision is on a settlement that is stored after the step. -/
theorem AskedWithCause.decided_later {w w' : World} (hask : AskedWithCause w.books)
    (hp : Persists w.books w'.books) (happrovals : DecidesPending w w') :
    ∀ a ∈ w'.books.approvals.rows, ∃ r ∈ w'.books.settlements.rows, r.id = a.settlementId := by
  intro a ha
  have hold : ∃ r ∈ w.books.settlements.rows, r.id = a.settlementId := by
    rcases happrovals a ha with ha | ⟨row, hrow, hid, -⟩
    · exact hask.decided a ha
    · exact ⟨row, hrow, hid⟩
  obtain ⟨r, hr, hid⟩ := hold
  obtain ⟨r', hr', hk⟩ := hp.settlements r hr
  exact ⟨r', hr', hk.id.trans hid⟩

theorem TaskStep.asked {env : Env} {now : Int} {w w' : World} {c : TaskWhy} {next : Next Task}
    (h : TaskStep env now w c w' next) (hs : Sound env.crypto w.books) (hv : Vetted env.crypto w.books)
    (hask : AskedWithCause w.books) : AskedWithCause w'.books where
  decided := hask.decided_later h.persists fun _ ha => h.approvals_before ha
  crossed := by
    intro r' hr' hasked
    rcases h.row_cases hr' with ⟨r, hr, hk, htrace⟩ | ⟨intent, cart, hadd, hfrom, hevent⟩
    · refine hask.later ?_ (fun _ ha => h.approvals_before ha) hr hk htrace hasked
      intro id spentPaise intent he hstored
      rcases h.created_before he with he | ⟨row, cart, hid, -, hadd, -⟩
      · exact he
      · obtain ⟨r₀, hr₀, hid₀⟩ := hstored
        exact absurd (hid₀.trans hid.symm) (hadd.fresh r₀ hr₀)
    · exact h.asked_created hs hv hask hadd hasked

theorem JobStep.asked {env : Env} {now : Int} {w w' : World} {k : Kick} {c : RunWhy}
    {next : Next RunPoint} (h : JobStep env now w k c w' next) (hask : AskedWithCause w.books) :
    AskedWithCause w'.books := by
  have happrovals : DecidesPending w w' := by
    intro a ha
    rw [h.approvals_eq] at ha
    exact Or.inl ha
  refine ⟨hask.decided_later h.persists happrovals, ?_⟩
  intro r' hr' hasked
  obtain ⟨r, hr, hk, htrace⟩ := h.row_cases hr'
  exact hask.later (fun _ _ _ he _ => h.created_before he) happrovals hr hk htrace hasked

theorem asked_initial : AskedWithCause World.initial.books where
  decided := fun _ h => absurd h List.not_mem_nil
  crossed := fun _ h => absurd h List.not_mem_nil

/-! ## Runs -/

theorem Reachable.asked {env : Env} {s : Sys} (h : Reachable env s) : AskedWithCause s.world.books := by
  have hboth := (soundOutline env).invariant
    (I := fun w => Vetted env.crypto w.books ∧ AskedWithCause w.books)
    (fun _ _ _ _ _ hs _ hi hstep _ => ⟨TaskStep.vetted hstep hs hi.1, TaskStep.asked hstep hs hi.1 hi.2⟩)
    (fun _ _ _ _ _ _ hs _ hi hstep _ => ⟨JobStep.vetted hstep hs hi.1, JobStep.asked hstep hi.2⟩)
    (sound_initial env.crypto) ⟨vetted_initial env.crypto, asked_initial⟩ h
  exact hboth.2

/-- **A human is asked only for what is over a line.**  In every state a run reaches, a settlement that
    awaits a human, or on which a decision is stored, was found over a line of the intent it was submitted
    with when it was created, and within its ceiling; so its lines are not all at the ceiling. -/
theorem asked_only_over_lines {env : Env} {s : Sys} (h : Reachable env s) {r : SettlementRow}
    (hr : r ∈ s.world.db.settlements.rows) (hasked : AskedFor s.world.books r) {spentPaise : Int}
    {intent : IntentMandate} (hevent : .settlementCreated r.id spentPaise intent ∈ s.world.history) :
    OverLines intent r.amountPaise spentPaise ∧ ¬ HandsFree intent := by
  have hover := h.asked.crossed r hr hasked spentPaise intent hevent
  exact ⟨hover, fun hfree => hfree.not_overLines hover⟩

/-- The large cart was decided on by hand: it is over the threshold, and nothing was spent before. -/
theorem asked_only_over_lines_demo : ∃ (s : Sys) (r : SettlementRow), Reachable demoEnv s ∧
    r ∈ s.world.db.settlements.rows ∧ r.state = .settling ∧ OverLines demoIntent r.amountPaise 0 := by
  obtain ⟨s, hreach, hp⟩ := reachable_of_run demoEnv demoApproved
    (fun (s : Sys) => s.world.db.settlements.rows.any fun r => r.state == .settling &&
      s.world.db.approvals.rows.any (fun a => a.settlementId == r.id) &&
      decide (Event.settlementCreated r.id 0 demoIntent ∈ s.world.history))
    (by decide +kernel)
  obtain ⟨r, hr, hp⟩ := List.any_eq_true.mp hp
  rw [Bool.and_eq_true, Bool.and_eq_true, beq_iff_eq, decide_eq_true_eq] at hp
  obtain ⟨⟨hstate, hany⟩, hevent⟩ := hp
  obtain ⟨a, ha, hid⟩ := List.any_eq_true.mp hany
  exact ⟨s, r, hreach, hr, hstate,
    (asked_only_over_lines hreach hr (Or.inr ⟨a, ha, eq_of_beq hid⟩) hevent).1⟩

end Hundi
