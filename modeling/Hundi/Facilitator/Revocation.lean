/-
  What a dead mandate can still cost.

  A mandate is dead when it is revoked, or past its expiry and the minute of clock skew.  No settlement
  of a dead mandate is let into `settling`; the ones that are in go on.  So what its settlements have been
  charged for, captured and `settling` together, stays what it was (`revocation_is_final`): at the moment
  a mandate is revoked its holder knows the most it will ever have cost.
-/
import Hundi.Facilitator.Mediation

namespace Hundi

open Js EventLoop

/-! ## What is charged -/

/-- A row's part in what a mandate's settlements are charged for, captured or about to be. -/
def chargedAmount (mandateId : JsString) (merchantId? : Option JsString) (row : SettlementRow) : Int :=
  if row.mandateId == mandateId && merchantId?.all (row.merchantId == ·) && row.state.entered then
    row.amountPaise
  else 0

theorem chargedAmount_eq (mandateId : JsString) (merchantId? : Option JsString) (row : SettlementRow) :
    chargedAmount mandateId merchantId? row = amountIn mandateId merchantId? .captured row +
      amountIn mandateId merchantId? .settling row := by
  rw [chargedAmount, amountIn, amountIn]
  by_cases hin : (row.mandateId == mandateId && merchantId?.all (row.merchantId == ·)) = true
  · rw [hin]
    cases row.state <;> simp [SettlementState.entered]
  · rw [Bool.eq_false_iff.mpr hin]
    simp

/-- What is spent and held is what is charged. -/
theorem spent_add_held (t : Settlements) (mandateId : JsString) (merchantId? : Option JsString) :
    spent t mandateId merchantId? + held t mandateId merchantId? =
      t.sum (chargedAmount mandateId merchantId?) := by
  have hsum : ∀ rows : List SettlementRow,
      (rows.map (chargedAmount mandateId merchantId?)).sum =
        (rows.map (amountIn mandateId merchantId? .captured)).sum +
          (rows.map (amountIn mandateId merchantId? .settling)).sum := by
    intro rows
    induction rows with
    | nil => rfl
    | cons row rows ih =>
      rw [List.map_cons, List.map_cons, List.map_cons, List.sum_cons, List.sum_cons, List.sum_cons, ih,
        chargedAmount_eq]
      omega
  exact (hsum t.rows).symm

/-- The mandate's settlements are charged for what they were charged for. -/
structure NotCharged (mandateId : JsString) (t t' : Settlements) : Prop where
  entered : ∀ r ∈ t'.rows, r.mandateId = mandateId → r.state.entered = true → Entered t r.id
  sum : ∀ merchantId?, t'.sum (chargedAmount mandateId merchantId?) = t.sum (chargedAmount mandateId merchantId?)

section

variable {mandateId : JsString} {t t' t'' : Settlements}

theorem NotCharged.refl (mandateId : JsString) (t : Settlements) : NotCharged mandateId t t :=
  ⟨fun r hr _ he => ⟨r, hr, rfl, he⟩, fun _ => rfl⟩

theorem NotCharged.trans (h : NotCharged mandateId t t') (h' : NotCharged mandateId t' t'')
    (hkept : ∀ r' ∈ t'.rows, ∀ r'' ∈ t''.rows, r''.id = r'.id → r''.mandateId = r'.mandateId) :
    NotCharged mandateId t t'' := by
  constructor
  · intro r'' hr'' hmandate hentered
    obtain ⟨r', hr', hid, hentered'⟩ := h'.entered r'' hr'' hmandate hentered
    obtain ⟨r, hr, hid', he⟩ := h.entered r' hr' ((hkept r' hr' r'' hr'' hid.symm).symm.trans hmandate) hentered'
    exact ⟨r, hr, hid'.trans hid, he⟩
  · intro merchantId?
    rw [h'.sum, h.sum]

/-- A transition between states that are both charged for, or neither. -/
theorem SettlementMoved.notCharged {now : Int} {row : SettlementRow} {src dst : SettlementState}
    {rejectReason : Option JsString} (h : SettlementMoved now t t' row src dst rejectReason)
    (hsame : dst.entered = src.entered) (mandateId : JsString) : NotCharged mandateId t t' := by
  constructor
  · intro r hr _ hentered
    rcases h.mem_iff.mp hr with rfl | ⟨hr, -⟩
    · rw [moveTo_state, hsame, ← h.state] at hentered
      exact ⟨row, h.mem, (moveTo_id ..).symm, hentered⟩
    · exact ⟨r, hr, rfl, hentered⟩
  · intro merchantId?
    have hrow : chargedAmount mandateId merchantId? (row.moveTo now dst rejectReason) =
        chargedAmount mandateId merchantId? row := by
      rw [chargedAmount, chargedAmount, moveTo_mandateId, moveTo_merchantId, moveTo_state,
        moveTo_amountPaise, hsame, h.state]
    rw [h.sum, hrow]
    omega

/-- A transition of a settlement of another mandate. -/
theorem SettlementMoved.notCharged_other {now : Int} {row : SettlementRow} {src dst : SettlementState}
    {rejectReason : Option JsString} (h : SettlementMoved now t t' row src dst rejectReason)
    (hother : row.mandateId ≠ mandateId) : NotCharged mandateId t t' := by
  constructor
  · intro r hr hmandate hentered
    rcases h.mem_iff.mp hr with rfl | ⟨hr, -⟩
    · exact absurd ((moveTo_mandateId ..).symm.trans hmandate) hother
    · exact ⟨r, hr, rfl, hentered⟩
  · intro merchantId?
    have hzero : ∀ r : SettlementRow, r.mandateId = row.mandateId → chargedAmount mandateId merchantId? r = 0 := by
      intro r hr
      rw [chargedAmount, hr, beq_eq_false_iff_ne.mpr hother]
      rfl
    rw [h.sum, hzero row rfl, hzero _ (moveTo_mandateId ..)]
    omega

theorem SettlementAdded.notCharged {row : SettlementRow} (h : SettlementAdded t t' row)
    (hstate : row.state.entered = false) (mandateId : JsString) : NotCharged mandateId t t' := by
  constructor
  · intro r hr _ hentered
    rcases (h.mem_iff r).mp hr with hr | rfl
    · exact ⟨r, hr, rfl, hentered⟩
    · rw [hstate] at hentered
      cases hentered
  · intro merchantId?
    rw [h.sum, chargedAmount, hstate, Bool.and_false]
    exact Int.add_zero _

theorem KickBumped.notCharged {id : JsString} (h : KickBumped t t' id) (mandateId : JsString) :
    NotCharged mandateId t t' := by
  constructor
  · intro r hr _ hentered
    rcases (Table.mem_update? h).mp hr with ⟨r₀, hr₀, -, rfl⟩ | ⟨hr, -⟩
    · exact ⟨r₀, hr₀, rfl, hentered⟩
    · exact ⟨r, hr, rfl, hentered⟩
  · intro merchantId?
    exact Table.sum_update? h _ fun _ _ _ => rfl

end

/-! ## Steps -/

/-- No task charges a mandate. -/
theorem TaskStep.notCharged {env : Env} {now : Int} {w w' : World} {c : TaskWhy} {next : Next Task}
    (h : TaskStep env now w c w' next) (mandateId : JsString) :
    NotCharged mandateId w.books.settlements w'.books.settlements := by
  cases h with
  | settlementCreated l row intent cart key status body hl hadd hfrom hstamp hw hn =>
    refine hadd.notCharged ?_ mandateId
    rcases hfrom.state_cases with h | h | h
    · rw [h]; rfl
    · rw [h]; rfl
    · rw [h]; rfl
  | decided l row mandateRow approval rejectReason hl hmandate hsigned happrovals hm hw hn =>
    refine hm.notCharged ?_ mandateId
    cases approval.decision <;> rfl
  | abandoned l row src hl hsrc hm hw hn =>
    refine hm.notCharged ?_ mandateId
    have hallowed := hm.allowed
    cases src with
    | settling => exact absurd rfl hsrc
    | captured => cases hallowed
    | _ => rfl
  | kickBumped id hb hw hn => exact hb.notCharged mandateId
  | captured caller copy orderId payments latest attempt settlement lrow hc hlast hstatus hid hsid
      hattempt hm hrec hw hn => exact hm.notCharged rfl mandateId
  | _ =>
    rename_i hw _
    rw [hw]
    exact .refl _ _

/-- The gate has let a settlement of the mandate in. -/
def LetsIn (crypto : Crypto) (now : Int) (w : World) (mandateId : JsString) : Prop :=
  ∃ row m ctx, row ∈ w.db.settlements.rows ∧ row.state = .approved ∧ row.mandateId = mandateId ∧
    Reverified crypto w.db now row m ctx

/-- A run of the executor charges a mandate only through the gate. -/
theorem JobStep.notCharged {env : Env} {now : Int} {w w' : World} {k : Kick} {c : RunWhy}
    {next : Next RunPoint} (h : JobStep env now w k c w' next) {mandateId : JsString}
    (hgate : ¬ LetsIn env.crypto now w mandateId) :
    NotCharged mandateId w.books.settlements w'.books.settlements := by
  cases h with
  | entered row mandateRow ctx hc hkick hre hm hw hn =>
    refine hm.notCharged_other fun hmandate => hgate ?_
    exact ⟨row, mandateRow, ctx, hm.mem, hm.state, hmandate, hre⟩
  | gateRejected l row reason hl hc hkick hre hm hw hn => exact hm.notCharged rfl mandateId
  | captured copy attemptNum attemptId orderId result paymentId attempt settlement lrow hc hpaid hid
      hsid hattempt hm hrec hw hn => exact hm.notCharged rfl mandateId
  | captureLost settlement attemptNum attemptId orderId result paymentId hc hpaid hlost hn =>
    rcases hlost with ⟨hw, -⟩ | ⟨attempt, -, -, -, hw⟩
    · rw [hw]
      exact .refl _ _
    · rw [hw]
      exact .refl _ _
  | _ =>
    rename_i hw _
    rw [hw]
    exact .refl _ _

/-- The mandate is revoked, or past its expiry. -/
def MandateRow.Dead (m : MandateRow) (now : Int) : Prop :=
  m.revokedAt.isSome = true ∨ m.intent.expiresAt + 60 < now

/-- The gate lets nothing in for a dead mandate. -/
theorem MandateRow.Dead.shut {env : Env} {s : Sys} {m : MandateRow} (hdead : m.Dead s.clock)
    (hs : Sound env.crypto s.world.books) (hm : m ∈ s.world.db.mandates.rows) :
    ¬ LetsIn env.crypto s.clock s.world m.mandateId := by
  rintro ⟨row, m', ctx, hrow, hstate, hmandate, hre⟩
  have hlaw := hre.lawful hs hrow hstate
  obtain ⟨hm', hid⟩ := getMandateRow_some hlaw.mandate
  obtain rfl := mandate_eq hm' hm (hid.trans hmandate)
  rcases hdead with hrevoked | hexpired
  · rw [hlaw.notRevoked] at hrevoked
    cases hrevoked
  · have hlive := hlaw.live
    omega

theorem notCharged_step {env : Env} {s s' : Sys} {a : Act} (h : sysStep env s a = some s')
    {mandateId : JsString} (hgate : ¬ LetsIn env.crypto s.clock s.world mandateId) :
    NotCharged mandateId s.world.books.settlements s'.world.books.settlements := by
  cases (facilitatorSpec env).moved h with
  | stays h =>
    rw [h]
    exact .refl _ _
  | task c next hmove h => exact TaskStep.notCharged h mandateId
  | job k c next hmove h => exact JobStep.notCharged h hgate

/-! ## New settlements -/

/-- The gate refuses a settlement under a revoked mandate. -/
theorem CreatedFrom.rejected {crypto : Crypto} {db : Db} {now : Int} {intent : IntentMandate}
    {cart : CartMandate} {row : SettlementRow} (h : CreatedFrom crypto db now intent cart row)
    {m : MandateRow} (hm : m ∈ db.mandates.rows) (hid : m.mandateId = row.mandateId)
    (hrevoked : m.revokedAt.isSome = true) : row.state = .rejected := by
  rcases h.passed with hrejected | ⟨ctx, hpassed⟩
  · exact hrejected
  · obtain ⟨hash, hbuilt⟩ := hpassed.built
    obtain ⟨approval, hash', haccepted⟩ := hpassed.accepted
    obtain ⟨-, -, -, -, hlive, -⟩ := verifyPolicy_none (verifyChain_accepted haccepted).policy
    obtain ⟨hread, -⟩ := buildVerifyCtx_ok hbuilt
    obtain ⟨m', hmandate⟩ := h.mandate
    obtain ⟨hm', hid'⟩ := getMandateRow_some hmandate
    obtain rfl := mandate_eq hm' hm (hid'.trans (h.mandateId.symm.trans hid.symm))
    rw [hread.revoked, hmandate, Option.any_some, hrevoked] at hlive
    cases hlive

/-- The settlements of a mandate that were not there before are rejected. -/
def NewRejected (mandateId : JsString) (t t' : Settlements) : Prop :=
  ∀ r' ∈ t'.rows, r'.mandateId = mandateId → (∀ r ∈ t.rows, r.id ≠ r'.id) → r'.state = .rejected

theorem newRejected_step {env : Env} {s s' : Sys} {a : Act} (h : sysStep env s a = some s')
    {t : Settlements} {m : MandateRow} (hm : m ∈ s.world.db.mandates.rows)
    (hrevoked : m.revokedAt.isSome = true) (hnew : NewRejected m.mandateId t s.world.books.settlements) :
    NewRejected m.mandateId t s'.world.books.settlements := by
  intro r' hr' hmandate hfresh
  have hbefore : (∃ r ∈ s.world.books.settlements.rows, SettlementKept r r') →
      r'.state = .rejected := by
    rintro ⟨r, hr, hkept⟩
    have hrejected := hnew r hr (hkept.mandateId.symm.trans hmandate) fun r₀ hr₀ hid =>
      hfresh r₀ hr₀ (hid.trans hkept.id.symm)
    rw [hkept.final (by rw [hrejected]; rfl), hrejected]
  cases (facilitatorSpec env).moved h with
  | stays h =>
    rw [h] at hr'
    exact hbefore ⟨r', hr', .refl r'⟩
  | task c next hmove h =>
    rcases TaskStep.row_cases h hr' with ⟨r, hr, hkept, -⟩ | ⟨intent, cart, -, hfrom, -⟩
    · exact hbefore ⟨r, hr, hkept⟩
    · exact hfrom.rejected hm hmandate.symm hrevoked
  | job k c next hmove h =>
    obtain ⟨r, hr, hkept, -⟩ := JobStep.row_cases h hr'
    exact hbefore ⟨r, hr, hkept⟩

/-! ## Runs -/

/-- **A dead mandate costs what it costs already.**  In a run whose every step finds the mandate revoked
    or expired (a revoked one stays revoked, so any run will do), the settlements of the mandate that are
    in `settling` or captured at its end were so at its beginning, and their amounts, at every merchant
    and together, add up to what they added up to; and under a revoked mandate every settlement that is
    new is rejected. -/
theorem revocation_is_final {env : Env} {s t : Sys} (h : Reachable env s) {m : MandateRow}
    (hm : m ∈ s.world.db.mandates.rows) (r : Run (facilitator env) (fun u _ => m.Dead u.clock) s t) :
    (∀ r' ∈ t.world.db.settlements.rows, r'.mandateId = m.mandateId → r'.state.entered = true →
      Entered s.world.db.settlements r'.id) ∧
    (∀ merchantId?, spent t.world.db.settlements m.mandateId merchantId? +
        held t.world.db.settlements m.mandateId merchantId? =
      spent s.world.db.settlements m.mandateId merchantId? +
        held s.world.db.settlements m.mandateId merchantId?) ∧
    (m.revokedAt.isSome = true →
      NewRejected m.mandateId s.world.db.settlements t.world.db.settlements) := by
  have hrun : NotCharged m.mandateId s.world.books.settlements t.world.books.settlements ∧
      (m.revokedAt.isSome = true →
        NewRejected m.mandateId s.world.books.settlements t.world.books.settlements) := by
    induction r with
    | refl =>
      exact ⟨.refl _ _, fun _ r' hr' _ hfresh => absurd rfl (hfresh r' hr')⟩
    | @tail u v a r hdead hstep ih =>
      obtain ⟨hcharged, hnew⟩ := ih
      have hreach : Reachable env u := h.trans r.any
      have hpersists := persists_run r
      obtain ⟨m', hm', hkept⟩ := hpersists.mandates m hm
      have hdead' : m'.Dead u.clock := by
        rcases hdead with hrevoked | hexpired
        · exact Or.inl (hkept.revoked hrevoked)
        · exact Or.inr (by rw [hkept.intent]; exact hexpired)
      have hshut := hdead'.shut hreach.sound hm'
      rw [hkept.id] at hshut
      refine ⟨hcharged.trans (notCharged_step hstep hshut) ?_, fun hrevoked => ?_⟩
      · intro r' hr' r'' hr'' hid
        obtain ⟨r₁, hr₁, hsame⟩ := (persists_step hstep).settlements r' hr'
        rw [settlement_eq hr'' hr₁ (hid.trans hsame.id.symm)]
        exact hsame.mandateId
      · rw [← hkept.id]
        refine newRejected_step hstep hm' (hkept.revoked hrevoked) ?_
        rw [hkept.id]
        exact hnew hrevoked
  obtain ⟨hcharged, hnew⟩ := hrun
  refine ⟨hcharged.entered, fun merchantId? => ?_, hnew⟩
  rw [spent_add_held, spent_add_held]
  exact hcharged.sum merchantId?

/-- The mandate is revoked while its settlement is `settling`; the checkout captures, and nothing more
    is charged. -/
theorem revocation_is_final_demo : ∃ (s t : Sys) (m : MandateRow), Reachable demoEnv s ∧
    m ∈ s.world.db.mandates.rows ∧ m.revokedAt.isSome = true ∧
    held s.world.db.settlements m.mandateId none = 400 ∧
    spent t.world.db.settlements m.mandateId none = 400 ∧
    spent t.world.db.settlements m.mandateId none + held t.world.db.settlements m.mandateId none =
      spent s.world.db.settlements m.mandateId none + held s.world.db.settlements m.mandateId none := by
  obtain ⟨s, hreach, hp⟩ := reachable_of_run demoEnv
    (demoCheckout ++ [.request (.postRevoke (js "m1") (.ed25519 (js "00"))) []])
    (fun s => s.world.db.mandates.rows.any fun m => m.revokedAt.isSome &&
      held s.world.db.settlements m.mandateId none == 400 &&
      (sysStep demoEnv s
        (.resumeJob (.checkout (.ok ⟨true, some (js "p1"), some (js "captured"), none⟩)))).any fun t =>
          spent t.world.db.settlements m.mandateId none == 400)
    (by decide +kernel)
  obtain ⟨m, hm, hp⟩ := List.any_eq_true.mp hp
  simp only [Bool.and_eq_true, beq_iff_eq] at hp
  obtain ⟨⟨hrevoked, hheld⟩, hcaptured⟩ := hp
  obtain ⟨t, ht, hspent⟩ := (Option.any_eq_true _ _).mp hcaptured
  have hdead : m.Dead s.clock := Or.inl hrevoked
  exact ⟨s, t, m, hreach, hm, hrevoked, hheld, beq_iff_eq.mp hspent,
    (revocation_is_final hreach hm (Run.single hdead ht)).2.1 none⟩

end Hundi
