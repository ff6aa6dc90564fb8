/-
  Many small carts stay under the cumulative line together.

  Every settlement is measured against the line once, at its creation, on top of what is captured
  then.  While it is live no other settlement of its mandate is, so nothing of the mandate is
  captured in between (`Split.live`), and the last capture nobody approved bounds all of them
  (`Split.last`).
-/
import Hundi.Facilitator.Approval

namespace Hundi

open Js EventLoop

/-! ## What was captured without an approval -/

/-- An approvals row grants the settlement. -/
def hasApproval (t : Approvals) (settlementId : JsString) : Bool :=
  t.rows.any fun a => a.settlementId == settlementId && a.decision == .approved

/-- A row's part in what a mandate has captured without an approval. -/
def unapprovedAmount (t : Approvals) (mandateId : JsString) (row : SettlementRow) : Int :=
  if row.mandateId == mandateId && row.state == .captured && !hasApproval t row.id then
    row.amountPaise
  else 0

/-- What a mandate's captured settlements without an approval add up to. -/
def unapprovedSpend (b : Books) (mandateId : JsString) : Int :=
  b.settlements.sum (unapprovedAmount b.approvals mandateId)

/-- The weight counts captured rows only. -/
def CapturedOnly (weight : SettlementRow → Int) : Prop := ∀ r, r.state ≠ .captured → weight r = 0

theorem capturedOnly_amountIn {mandateId : JsString} :
    CapturedOnly (amountIn mandateId none .captured) := fun _ h => amountIn_other h

theorem capturedOnly_unapproved {t : Approvals} {mandateId : JsString} :
    CapturedOnly (unapprovedAmount t mandateId) := fun r h => by simp [unapprovedAmount, h]

theorem hasApproval_eq_true {t : Approvals} {id : JsString} :
    hasApproval t id = true ↔ ∃ a ∈ t.rows, a.settlementId = id ∧ a.decision = .approved := by
  simp [hasApproval]

theorem HumanApproved.hasApproval {crypto : Crypto} {b : Books} {r : SettlementRow}
    (h : HumanApproved crypto b r) : Hundi.hasApproval b.approvals r.id = true := by
  obtain ⟨a, ha, hdecision, m, -, -, hsigned⟩ := h
  exact hasApproval_eq_true.mpr ⟨a, ha, hsigned.settlementId, hdecision⟩

/-- What nobody approved is part of what was spent. -/
theorem unapprovedSpend_le {crypto : Crypto} {b : Books} (h : Sound crypto b) {mandateId : JsString} :
    unapprovedSpend b mandateId ≤ spent b.settlements mandateId none := by
  refine Table.sum_le_sum fun r hr => ?_
  simp only [unapprovedAmount, amountIn, Option.all_none, Bool.and_true]
  by_cases hin : (r.mandateId == mandateId && r.state == .captured) = true
  · have hstate : r.state = .captured := by
      rw [Bool.and_eq_true, beq_iff_eq, beq_iff_eq] at hin
      exact hin.2
    have hnonneg := ((h.settlement r hr).charge (by rw [hstate]; decide)).2
    rw [hin, Bool.true_and, if_pos rfl]
    split
    · exact le_refl _
    · exact hnonneg
  · rw [Bool.not_eq_true] at hin
    simp [hin]

/-! ## Steps that capture, and the others -/

/-- One settlement is captured, and nothing else changes that the sums below depend on. -/
structure Captures (now : Int) (w w' : World) (row : SettlementRow) : Prop where
  moved : SettlementMoved now w.db.settlements w'.db.settlements row .settling .captured none
  approvals : w'.db.approvals = w.db.approvals
  history : w'.history = w.history

theorem sum_moved_capturedOnly {now : Int} {t t' : Settlements} {row : SettlementRow}
    {src dst : SettlementState} {r : Option JsString} (hm : SettlementMoved now t t' row src dst r)
    (hdst : dst ≠ .captured) {weight : SettlementRow → Int} (hw : CapturedOnly weight) :
    t'.sum weight = t.sum weight := by
  have hsrc : row.state ≠ .captured := fun h => by
    have hallowed := hm.allowed
    rw [← hm.state, h] at hallowed
    exact nomatch hallowed
  rw [hm.sum, hw row hsrc, hw _ (by rw [moveTo_state]; exact hdst)]
  omega

theorem TaskStep.captures {env : Env} {now : Int} {w w' : World} {c : TaskWhy} {next : Next Task}
    (h : TaskStep env now w c w' next) :
    (∃ row, Captures now w w' row) ∨ ∀ weight, CapturedOnly weight →
      w'.db.settlements.sum weight = w.db.settlements.sum weight := by
  cases h with
  | settlementCreated l row intent cart key status body hl hadd hfrom hstamp hw hn =>
    refine Or.inr fun weight hweight => ?_
    have hstate : row.state ≠ .captured := by
      rcases hfrom.state_cases with h | h | h <;> rw [h] <;> exact nofun
    rw [hadd.sum, hweight row hstate, add_zero]
  | decided l row mandateRow approval rejectReason hl hmandate hsigned happrovals hm hw hn =>
    refine Or.inr fun weight hweight => sum_moved_capturedOnly hm ?_ hweight
    cases approval.decision <;> exact nofun
  | abandoned l row src hl hsrc hm hw hn =>
    exact Or.inr fun weight hweight => sum_moved_capturedOnly hm nofun hweight
  | kickBumped id hb hw hn =>
    refine Or.inr fun weight hweight => Table.sum_update? hb _ fun r _ hp => ?_
    rw [Bool.and_eq_true, beq_iff_eq, beq_iff_eq] at hp
    rw [hweight r (by rw [hp.2]; exact nofun)]
    refine hweight _ fun hcap => ?_
    rw [show r.state = .captured from hcap] at hp
    exact nomatch hp.2
  | captured caller copy orderId payments latest attempt settlement lrow hc hlast hstatus hid hsid
      hattempt hm hrec hw hn =>
    exact Or.inl ⟨settlement, hm, congrArg Books.approvals hw, congrArg Books.history hw⟩
  | _ =>
    rename_i hw _
    have hsettlements : w'.db.settlements = w.db.settlements := congrArg Books.settlements hw
    exact Or.inr fun weight _ => by rw [hsettlements]

theorem JobStep.captures {env : Env} {now : Int} {w w' : World} {k : Kick} {c : RunWhy}
    {next : Next RunPoint} (h : JobStep env now w k c w' next) :
    (∃ row, Captures now w w' row) ∨ ∀ weight, CapturedOnly weight →
      w'.db.settlements.sum weight = w.db.settlements.sum weight := by
  cases h with
  | entered row mandateRow ctx hc hkick hre hm hw hn =>
    exact Or.inr fun weight hweight => sum_moved_capturedOnly hm nofun hweight
  | gateRejected l row reason hl hc hkick hre hm hw hn =>
    exact Or.inr fun weight hweight => sum_moved_capturedOnly hm nofun hweight
  | captured copy attemptNum attemptId providerOrderId result paymentId attempt settlement lrow hc
      hpaid hid hsid hattempt hm hrec hw hn =>
    exact Or.inl ⟨settlement, hm, congrArg Books.approvals hw, congrArg Books.history hw⟩
  | captureLost settlement attemptNum attemptId providerOrderId result paymentId hc hpaid hlost hn =>
    have hsettlements : w'.db.settlements = w.db.settlements := by
      rcases hlost with ⟨hw, -⟩ | ⟨attempt, -, -, -, hw⟩ <;> exact congrArg Books.settlements hw
    exact Or.inr fun weight _ => by rw [hsettlements]
  | _ =>
    rename_i hw _
    have hsettlements : w'.db.settlements = w.db.settlements := congrArg Books.settlements hw
    exact Or.inr fun weight _ => by rw [hsettlements]

/-- A new approval is for a settlement that was pending. -/
theorem TaskStep.approvals_before {env : Env} {now : Int} {w w' : World} {c : TaskWhy}
    {next : Next Task} (h : TaskStep env now w c w' next) {a : ApprovalRow}
    (ha : a ∈ w'.books.approvals.rows) : a ∈ w.books.approvals.rows ∨
      ∃ row ∈ w.db.settlements.rows, row.id = a.settlementId ∧ row.state = .pending_approval := by
  cases h with
  | decided l row mandateRow approval rejectReason hl hmandate hsigned happrovals hm hw hn =>
    rw [hw] at ha
    rcases (happrovals a).mp ha with ha | rfl
    · exact Or.inl ha
    · exact Or.inr ⟨row, hm.mem, hsigned.settlementId.symm, hm.state⟩
  | _ =>
    rename_i hw _
    rw [hw] at ha
    exact Or.inl ha

theorem JobStep.approvals_eq {env : Env} {now : Int} {w w' : World} {k : Kick} {c : RunWhy}
    {next : Next RunPoint} (h : JobStep env now w k c w' next) :
    w'.books.approvals = w.books.approvals := by
  cases h with
  | captureLost settlement attemptNum attemptId providerOrderId result paymentId hc hpaid hlost hn =>
    rcases hlost with ⟨hw, -⟩ | ⟨attempt, -, -, -, hw⟩ <;> rw [hw]
  | _ =>
    rename_i hw _
    rw [hw]

/-- The approval of a settlement that was not pending is not decided by the step. -/
theorem hasApproval_step {b b' : Books} (hp : Persists b b')
    (hnew : ∀ a ∈ b'.approvals.rows, a ∈ b.approvals.rows ∨
      ∃ row ∈ b.settlements.rows, row.id = a.settlementId ∧ row.state = .pending_approval)
    {r : SettlementRow} (hr : r ∈ b.settlements.rows) (hstate : r.state ≠ .pending_approval) :
    hasApproval b'.approvals r.id = hasApproval b.approvals r.id := by
  rw [Bool.eq_iff_iff, hasApproval_eq_true, hasApproval_eq_true]
  constructor
  · rintro ⟨a, ha, hid, hdecision⟩
    rcases hnew a ha with ha | ⟨row, hrow, hrid, hpending⟩
    · exact ⟨a, ha, hid, hdecision⟩
    · rw [settlement_eq hrow hr (hrid.trans hid)] at hpending
      exact absurd hpending hstate
  · rintro ⟨a, ha, hid, hdecision⟩
    exact ⟨a, hp.approvals a ha, hid, hdecision⟩

/-! ## The invariant -/

structure Split (b : Books) : Prop where
  live : ∀ r ∈ b.settlements.rows, r.state.live = true → ∀ spentPaise intent,
    .settlementCreated r.id spentPaise intent ∈ b.history →
    spentPaise = spent b.settlements r.mandateId none
  last : ∀ mandateId, unapprovedSpend b mandateId = 0 ∨
    ∃ r ∈ b.settlements.rows, r.state = .captured ∧ r.mandateId = mandateId ∧
      hasApproval b.approvals r.id = false ∧ ∃ spentPaise intent,
        .settlementCreated r.id spentPaise intent ∈ b.history ∧
        unapprovedSpend b mandateId ≤ spentPaise + r.amountPaise

/-- The last unapproved capture is still there after a step that leaves the sum. -/
theorem Split.last_later {b b' : Books} (h : Split b) (hp : Persists b b')
    (hnew : ∀ a ∈ b'.approvals.rows, a ∈ b.approvals.rows ∨
      ∃ row ∈ b.settlements.rows, row.id = a.settlementId ∧ row.state = .pending_approval)
    {mandateId : JsString} (hsum : unapprovedSpend b' mandateId = unapprovedSpend b mandateId) :
    unapprovedSpend b' mandateId = 0 ∨
    ∃ r ∈ b'.settlements.rows, r.state = .captured ∧ r.mandateId = mandateId ∧
      hasApproval b'.approvals r.id = false ∧ ∃ spentPaise intent,
        .settlementCreated r.id spentPaise intent ∈ b'.history ∧
        unapprovedSpend b' mandateId ≤ spentPaise + r.amountPaise := by
  rw [hsum]
  rcases h.last mandateId with hzero | ⟨r, hr, hstate, hid, happroval, spentPaise, intent, he, hle⟩
  · exact Or.inl hzero
  · obtain ⟨r', hr', hk⟩ := hp.settlements r hr
    refine Or.inr ⟨r', hr', (hk.final (by rw [hstate]; rfl)).trans hstate, hk.mandateId.trans hid, ?_,
      spentPaise, intent, ?_, ?_⟩
    · rw [hk.id, hasApproval_step hp hnew hr (by rw [hstate]; exact nofun)]
      exact happroval
    · rw [hk.id]
      exact hp.history.subset he
    · rw [hk.amount]
      exact hle

/-- A step that captures nothing leaves what nobody approved. -/
theorem unapprovedSpend_eq (crypto : Crypto) (now : Int) {w w' : World}
    (hp : Persists w.books w'.books)
    (hnew : ∀ a ∈ w'.books.approvals.rows, a ∈ w.books.approvals.rows ∨
      ∃ row ∈ w.books.settlements.rows, row.id = a.settlementId ∧ row.state = .pending_approval)
    (hrows : ∀ r' ∈ w'.books.settlements.rows, r'.state = .captured →
      ∃ r ∈ w.books.settlements.rows, SettlementKept r r' ∧ SettlementTrace crypto now w w' r r')
    (hsum : ∀ weight, CapturedOnly weight →
      w'.db.settlements.sum weight = w.db.settlements.sum weight) {mandateId : JsString} :
    unapprovedSpend w'.books mandateId = unapprovedSpend w.books mandateId := by
  have hcongr : w'.books.settlements.sum (unapprovedAmount w'.books.approvals mandateId) =
      w'.books.settlements.sum (unapprovedAmount w.books.approvals mandateId) := by
    refine Table.sum_congr fun r' hr' => ?_
    by_cases hcap : r'.state = .captured
    · obtain ⟨r, hr, hk, htrace⟩ := hrows r' hr' hcap
      have hstate : r.state ≠ .pending_approval := by
        cases htrace with
        | same h => rw [← h, hcap]; exact nofun
        | closed h' => rcases h' with h' | h' <;> rw [hcap] at h' <;> exact nomatch h'
        | approved _ _ _ _ _ _ _ h' => rw [hcap] at h'; exact nomatch h'
        | entered _ _ _ _ _ h' => rw [hcap] at h'; exact nomatch h'
        | captured h _ => rw [h]; exact nofun
      rw [unapprovedAmount, unapprovedAmount, hk.id, hasApproval_step hp hnew hr hstate]
    · rw [capturedOnly_unapproved r' hcap, capturedOnly_unapproved r' hcap]
  exact hcongr.trans (hsum _ capturedOnly_unapproved)

/-- **A capture.**  It was measured against all that is captured now. -/
theorem Split.captured {crypto : Crypto} {now : Int} {w w' : World} {row : SettlementRow}
    (h : Split w.books) (hs : Sound crypto w.books) (hv : Vetted crypto w.books)
    (hc : Captures now w w' row) (hp : Persists w.books w'.books) : Split w'.books := by
  have hm := hc.moved
  have hnew : ∀ a ∈ w'.books.approvals.rows, a ∈ w.books.approvals.rows ∨
      ∃ row ∈ w.books.settlements.rows, row.id = a.settlementId ∧ row.state = .pending_approval :=
    fun a ha => Or.inl (by rw [show w'.books.approvals = w.books.approvals from hc.approvals] at ha; exact ha)
  have hlive : row.state.live = true := by rw [hm.state]; rfl
  constructor
  case live =>
    intro r' hr' hl spentPaise intent he
    rcases hm.mem_iff.mp hr' with rfl | ⟨hr, hne⟩
    · rw [moveTo_state] at hl
      exact nomatch hl
    · -- another live settlement is of another mandate
      have hother : row.mandateId ≠ r'.mandateId := fun hid =>
        hne (by rw [live_settlement_eq hr hm.mem hl hlive hid.symm])
      have hout : spent w'.db.settlements r'.mandateId none = spent w.db.settlements r'.mandateId none :=
        sum_moved_out hm (by simp [hother])
      rw [show w'.books.history = w.books.history from hc.history] at he
      exact (h.live r' hr hl spentPaise intent he).trans hout.symm
  case last =>
    intro mandateId
    have hsum : unapprovedSpend w'.books mandateId = unapprovedSpend w.books mandateId +
        unapprovedAmount w.db.approvals mandateId (row.moveTo now .captured none) := by
      have hsum := hm.sum (unapprovedAmount w.db.approvals mandateId)
      rw [capturedOnly_unapproved row (by rw [hm.state]; exact nofun), sub_zero] at hsum
      rw [unapprovedSpend, show w'.books.approvals = w.db.approvals from hc.approvals]
      exact hsum
    by_cases hin : row.mandateId = mandateId ∧ hasApproval w.db.approvals row.id = false
    · obtain ⟨rfl, happroval⟩ := hin
      obtain ⟨spentPaise, intent, he⟩ := (hv.row row hm.mem).created
      have hspent := h.live row hm.mem hlive spentPaise intent he
      refine Or.inr ⟨_, hm.moved_mem, moveTo_state .., moveTo_mandateId .., ?_, spentPaise, intent,
        ?_, ?_⟩
      · rw [moveTo_id, show w'.books.approvals = w.db.approvals from hc.approvals]
        exact happroval
      · rw [moveTo_id]
        exact hp.history.subset he
      · rw [hsum, moveTo_amountPaise, hspent]
        have hle : unapprovedSpend w.books row.mandateId ≤ spent w.books.settlements row.mandateId none :=
          unapprovedSpend_le hs
        have hpart : unapprovedAmount w.db.approvals row.mandateId (row.moveTo now .captured none) =
            row.amountPaise := by
          simp [unapprovedAmount, happroval]
        omega
    · refine h.last_later hp hnew ?_
      rw [hsum]
      have hpart : unapprovedAmount w.db.approvals mandateId (row.moveTo now .captured none) = 0 := by
        rw [unapprovedAmount, moveTo_mandateId, moveTo_state, moveTo_id]
        split
        · rename_i hin'
          simp only [Bool.and_eq_true, beq_iff_eq, Bool.not_eq_true'] at hin'
          exact absurd ⟨hin'.1.1, hin'.2⟩ hin
        · rfl
      rw [hpart, add_zero]

theorem TaskStep.split {env : Env} {now : Int} {w w' : World} {c : TaskWhy} {next : Next Task}
    (h : TaskStep env now w c w' next) (hs : Sound env.crypto w.books)
    (hv : Vetted env.crypto w.books) (hsplit : Split w.books) : Split w'.books := by
  have hp := h.persists
  rcases h.captures with ⟨row, hc⟩ | hsum
  · exact hsplit.captured hs hv hc hp
  · have hspent : ∀ mandateId, spent w'.db.settlements mandateId none =
        spent w.db.settlements mandateId none := fun _ => hsum _ capturedOnly_amountIn
    constructor
    case live =>
      intro r' hr' hl spentPaise intent he
      rw [show w'.books.settlements = w'.db.settlements from rfl, hspent]
      rcases h.created_before he with he | ⟨row, cart, hid, rfl, hadd, hfrom⟩
      · rcases h.row_cases hr' with ⟨r, hr, hk, -⟩ | ⟨-, -, hadd, -, -⟩
        · rw [hk.id] at he
          rw [hk.mandateId]
          refine hsplit.live r hr ?_ spentPaise intent he
          by_contra hdead
          rw [Bool.not_eq_true] at hdead
          rw [hk.final hdead, hdead] at hl
          exact nomatch hl
        · -- the fresh id has no event from before
          obtain ⟨r, hr, hid⟩ := hv.event _ _ _ he
          exact absurd hid (hadd.fresh r hr)
      · have hsame : row = r' := settlement_eq ((hadd.mem_iff row).mpr (Or.inr rfl)) hr' hid
        rw [hsame, capturedAmount_eq]
        rfl
    case last =>
      intro mandateId
      refine hsplit.last_later hp (fun a => h.approvals_before) ?_
      refine unapprovedSpend_eq env.crypto now hp (fun a => h.approvals_before)
        (fun r' hr' hcap => ?_) hsum
      rcases h.row_cases hr' with hold | ⟨intent, cart, -, hfrom, -⟩
      · exact hold
      · exfalso
        rcases hfrom.state_cases with h | h | h <;> rw [h] at hcap <;> exact nomatch hcap

theorem JobStep.split {env : Env} {now : Int} {w w' : World} {k : Kick} {c : RunWhy}
    {next : Next RunPoint} (h : JobStep env now w k c w' next) (hs : Sound env.crypto w.books)
    (hv : Vetted env.crypto w.books) (hsplit : Split w.books) : Split w'.books := by
  have hp := h.persists
  rcases h.captures with ⟨row, hc⟩ | hsum
  · exact hsplit.captured hs hv hc hp
  · have happrovals : ∀ a ∈ w'.books.approvals.rows, a ∈ w.books.approvals.rows ∨
        ∃ row ∈ w.books.settlements.rows, row.id = a.settlementId ∧ row.state = .pending_approval :=
      fun a ha => Or.inl (by rw [← h.approvals_eq]; exact ha)
    constructor
    case live =>
      intro r' hr' hl spentPaise intent he
      obtain ⟨r, hr, hk, -⟩ := h.row_cases hr'
      have hspent : spent w'.books.settlements r.mandateId none =
          spent w.books.settlements r.mandateId none := hsum _ capturedOnly_amountIn
      rw [hk.mandateId, hspent]
      refine hsplit.live r hr ?_ spentPaise intent (by rw [← hk.id]; exact h.created_before he)
      by_contra hdead
      rw [Bool.not_eq_true] at hdead
      rw [hk.final hdead, hdead] at hl
      exact nomatch hl
    case last =>
      intro mandateId
      exact hsplit.last_later hp happrovals
        (unapprovedSpend_eq env.crypto now hp happrovals (fun r' hr' _ => h.row_cases hr') hsum)

theorem split_initial : Split World.initial.books where
  live := fun _ h => absurd h List.not_mem_nil
  last := fun _ => Or.inl rfl

theorem Reachable.split {env : Env} {s : Sys} (h : Reachable env s) : Split s.world.books :=
  ((soundOutline env).invariant (I := fun w => Vetted env.crypto w.books ∧ Split w.books)
    (fun _ _ _ _ _ hs _ hI hstep _ =>
      ⟨TaskStep.vetted hstep hs hI.1, TaskStep.split hstep hs hI.1 hI.2⟩)
    (fun _ _ _ _ _ _ hs _ hI hstep _ =>
      ⟨JobStep.vetted hstep hs hI.1, JobStep.split hstep hs hI.1 hI.2⟩)
    (sound_initial env.crypto) ⟨vetted_initial env.crypto, split_initial⟩ h).2

/-- **Cart splitting cannot evade the line.**  What a mandate's captured settlements without an
    approval add up to is within the stored intent's cumulative line. -/
theorem unapproved_within_line {env : Env} {s : Sys} (h : Reachable env s)
    (hcf : env.crypto.CollisionFree (s.world.books.hashed env.crypto)) {m : MandateRow}
    (hm : m ∈ s.world.db.mandates.rows) {line : Int}
    (hline : m.intent.cumulativeApprovalThresholdPaise = some line) :
    unapprovedSpend s.world.books m.mandateId ≤ line := by
  rcases h.split.last m.mandateId with
    hzero | ⟨r, hr, hstate, hid, happroval, spentPaise, intent, he, hle⟩
  · rw [hzero]
    exact (intentMandateSchema_admits (h.sound.mandate m hm).schema).line line hline
  · have hnot : ¬ HumanApproved env.crypto s.world.books r := fun happroved => by
      rw [happroved.hasApproval] at happroval
      exact nomatch happroval
    have hunder := h.underLines hcf hr (by rw [hstate]; rfl) hm hid.symm hnot he
    exact le_trans hle (hunder.line line hline)

/-- The cart of 400 is captured without an approval, under the line of 900. -/
theorem unapproved_within_line_demo : ∃ s m, Reachable demoEnv s ∧
    m ∈ s.world.db.mandates.rows ∧ unapprovedSpend s.world.books m.mandateId = 400 ∧
    unapprovedSpend s.world.books m.mandateId ≤ 900 := by
  obtain ⟨s, hreach, hp⟩ := reachable_of_run demoEnv
    (demoCheckout ++ [.resumeJob (.checkout (.ok
      ⟨true, some (js "p1"), some (js "captured"), none⟩))])
    (fun s => decide (demoCrypto.CollisionFree (s.world.books.hashed demoCrypto)) &&
      s.world.db.mandates.rows.any fun m => m.intent == demoIntent &&
        unapprovedSpend s.world.books m.mandateId == 400)
    (by decide +kernel)
  rw [Bool.and_eq_true, decide_eq_true_eq] at hp
  obtain ⟨m, hm, hp'⟩ := List.any_eq_true.mp hp.2
  rw [Bool.and_eq_true, beq_iff_eq, beq_iff_eq] at hp'
  exact ⟨s, m, hreach, hm, hp'.2, unapproved_within_line hreach hp.1 hm (by rw [hp'.1]; rfl)⟩

end Hundi
