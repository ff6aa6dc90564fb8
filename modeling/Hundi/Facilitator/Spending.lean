/-
  The spending ceilings over whole runs.

  The captured settlements of a mandate and the one in `settling` are an `Allowance`: entering
  `settling` takes the hold, a capture settles it, and no other step of the facilitator moves it
  (`taskStep_allowance`, `jobStep_allowance`).  That a hold is taken only when there is none is the
  index on live settlements; that it fits is the gate, run in the same transaction.
-/
import Hundi.Facilitator.Invariants
import Hundi.Lib.Allowance

namespace Hundi

open Js EventLoop

/-! ## Sums over settlements -/

/-- A row's part in what a mandate has in one state, at one merchant or at all of them. -/
def amountIn (mandateId : JsString) (merchantId? : Option JsString) (state : SettlementState)
    (row : SettlementRow) : Int :=
  if row.mandateId == mandateId && merchantId?.all (row.merchantId == ·) && row.state == state then
    row.amountPaise
  else 0

/-- What a mandate's captured settlements add up to. -/
def spent (t : Settlements) (mandateId : JsString) (merchantId? : Option JsString) : Int :=
  t.sum (amountIn mandateId merchantId? .captured)

/-- What a mandate's settlements in `settling` add up to. -/
def held (t : Settlements) (mandateId : JsString) (merchantId? : Option JsString) : Int :=
  t.sum (amountIn mandateId merchantId? .settling)

/-- The limit an intent sets: for one merchant, or the ceiling. -/
def limitOf (intent : IntentMandate) : Option JsString → Option Int
  | none => some intent.ceilingPaise
  | some merchantId => intent.perMerchantCeilingPaise.bind (·.get? merchantId)

/-- The books as an allowance. -/
def allowance (t : Settlements) (mandateId : JsString) (merchantId? : Option JsString)
    (limit : Int) : Allowance Int :=
  ⟨limit, spent t mandateId merchantId?, held t mandateId merchantId?⟩

section

variable {mandateId : JsString} {merchantId? : Option JsString} {state : SettlementState}

theorem amountIn_other {row : SettlementRow} (h : row.state ≠ state) :
    amountIn mandateId merchantId? state row = 0 := by
  simp [amountIn, h]

theorem amountIn_moveTo {now : Int} {row : SettlementRow} {dst : SettlementState}
    {r : Option JsString} :
    amountIn mandateId merchantId? state (row.moveTo now dst r) =
      if row.mandateId == mandateId && merchantId?.all (row.merchantId == ·) && dst == state then
        row.amountPaise
      else 0 := by
  simp only [amountIn, moveTo_mandateId, moveTo_merchantId, moveTo_state, moveTo_amountPaise]

theorem capturedAmount_eq : capturedAmount mandateId = amountIn mandateId none .captured := by
  funext row
  simp [capturedAmount, amountIn]

theorem capturedAmountAt_eq {merchantId : JsString} :
    capturedAmountAt mandateId merchantId = amountIn mandateId (some merchantId) .captured := by
  funext row
  simp [capturedAmountAt, amountIn]

/-- A transition between other states leaves the sum of a state. -/
theorem sum_moved_other {now : Int} {t t' : Settlements} {row : SettlementRow}
    {src dst : SettlementState} {r : Option JsString} (hm : SettlementMoved now t t' row src dst r)
    (hsrc : src ≠ state) (hdst : dst ≠ state) :
    t'.sum (amountIn mandateId merchantId? state) = t.sum (amountIn mandateId merchantId? state) := by
  rw [hm.sum, amountIn_other (by rw [hm.state]; exact hsrc), amountIn_other (by simpa using hdst)]
  omega

/-- A transition of a row out of scope leaves the sum of every state. -/
theorem sum_moved_out {now : Int} {t t' : Settlements} {row : SettlementRow}
    {src dst : SettlementState} {r : Option JsString} (hm : SettlementMoved now t t' row src dst r)
    (hout : (row.mandateId == mandateId && merchantId?.all (row.merchantId == ·)) = false) :
    t'.sum (amountIn mandateId merchantId? state) = t.sum (amountIn mandateId merchantId? state) := by
  rw [hm.sum, amountIn_moveTo, hout]
  simp [amountIn, hout]

/-- An added row that is neither in the state leaves its sum. -/
theorem sum_added {t t' : Settlements} {row : SettlementRow} (hadd : SettlementAdded t t' row)
    (hstate : row.state ≠ state) :
    t'.sum (amountIn mandateId merchantId? state) = t.sum (amountIn mandateId merchantId? state) := by
  rw [hadd.sum, amountIn_other hstate, add_zero]

theorem sum_bumped {t t' : Settlements} {id : JsString} (hb : KickBumped t t' id) :
    t'.sum (amountIn mandateId merchantId? state) = t.sum (amountIn mandateId merchantId? state) :=
  Table.sum_update? hb _ fun _ _ _ => rfl

/-- What is in a state that is not `rejected` adds up to no less than nothing. -/
theorem sum_amountIn_nonneg {crypto : Crypto} {b : Books} (h : Sound crypto b)
    (hstate : state ≠ .rejected) : 0 ≤ b.settlements.sum (amountIn mandateId merchantId? state) := by
  refine Table.sum_nonneg fun r hr => ?_
  rw [amountIn]
  split
  · rename_i hin
    rw [Bool.and_eq_true, beq_iff_eq] at hin
    exact ((h.settlement r hr).charge (by rw [hin.2]; exact hstate)).2
  · exact le_refl _

theorem spent_nonneg {crypto : Crypto} {b : Books} (h : Sound crypto b) :
    0 ≤ spent b.settlements mandateId merchantId? := sum_amountIn_nonneg h (by decide)

theorem held_nonneg {crypto : Crypto} {b : Books} (h : Sound crypto b) :
    0 ≤ held b.settlements mandateId merchantId? := sum_amountIn_nonneg h (by decide)

/-- While a live settlement of the mandate is not `settling`, nothing is held. -/
theorem held_eq_zero {t : Settlements} {row : SettlementRow} (hrow : row ∈ t.rows)
    (hlive : row.state.live = true) (hne : row.state ≠ .settling) (hid : row.mandateId = mandateId) :
    held t mandateId merchantId? = 0 := by
  have hzero : ∀ r ∈ t.rows, amountIn mandateId merchantId? .settling r = 0 := by
    intro r hr
    rw [amountIn]
    split
    · rename_i hin
      rw [Bool.and_eq_true, Bool.and_eq_true, beq_iff_eq, beq_iff_eq] at hin
      have hsame := live_settlement_eq hr hrow (by rw [hin.2]; rfl) hlive (hin.1.1.trans hid.symm)
      rw [hsame] at hin
      exact absurd hin.2 hne
    · rfl
  exact Table.sum_eq_zero hzero

end

/-! ## The gate -/

/-- The spend a gate reads, when it is within a safe bound, is exact. -/
theorem jsRound_spend {n total limit : Int} (hn : 0 ≤ n) (htotal : 0 ≤ total)
    (hlimit : limit ≤ maxSafe) (h : jsRound n + total ≤ limit) : n + total ≤ limit := by
  have hexact := jsRound_of_lt hn (by omega)
  omega

section

variable {crypto : Crypto} {w : World} {now : Int} {row : SettlementRow} {mandateRow : MandateRow}
  {ctx : VerifyCtx}

theorem Reverified.mandateId_eq (h : Reverified crypto w.db now row mandateRow ctx)
    (hs : Sound crypto w.books) : mandateRow.intent.mandateId = row.mandateId := by
  obtain ⟨hmem, hmid⟩ := getMandateRow_some h.mandate
  exact (hs.mandate _ hmem).id.symm.trans hmid

/-- The spend the gate reads. -/
theorem Reverified.spent_eq (h : Reverified crypto w.db now row mandateRow ctx)
    (hs : Sound crypto w.books) :
    ctx.spentPaise.getD 0 = jsRound (spent w.db.settlements row.mandateId none) := by
  rw [h.read.spent, h.mandateId_eq hs, getCapturedSpend, capturedAmount_eq]
  rfl

/-- The spend at the merchant, read only when there is a limit for it. -/
theorem Reverified.merchantSpent_eq (h : Reverified crypto w.db now row mandateRow ctx)
    (hs : Sound crypto w.books) (hrow : row ∈ w.db.settlements.rows) :
    ctx.merchantSpentPaise.getD 0 =
      if (mandateRow.intent.perMerchantCeilingPaise.bind (·.get? row.merchantId)).isSome then
        jsRound (spent w.db.settlements row.mandateId (some row.merchantId)) else 0 := by
  rw [h.read.merchantSpent, ← (hs.settlement row hrow).merchant, h.mandateId_eq hs,
    getCapturedSpendAtMerchant, capturedAmountAt_eq]
  cases mandateRow.intent.perMerchantCeilingPaise.bind (·.get? row.merchantId) <;> rfl

theorem Reverified.chainLaw (h : Reverified crypto w.db now row mandateRow ctx)
    (hs : Sound crypto w.books) (hrow : row ∈ w.db.settlements.rows) :
    ChainLaw crypto mandateRow.intent row.cart ctx := by
  obtain ⟨approval, hacc⟩ := h.accepted
  refine hacc.law ?_ ?_
  · rw [h.spent_eq hs]
    exact jsRound_nonneg (spent_nonneg hs)
  · rw [h.merchantSpent_eq hs hrow]
    split
    · exact jsRound_nonneg (spent_nonneg hs)
    · exact le_refl _

/-- **What the gate admits fits every limit**, on top of what is captured already. -/
theorem Reverified.fits (h : Reverified crypto w.db now row mandateRow ctx)
    (hs : Sound crypto w.books) (hrow : row ∈ w.db.settlements.rows) {merchantId? : Option JsString}
    (hin : merchantId?.all (row.merchantId == ·) = true) {limit : Int}
    (hlimit : limitOf mandateRow.intent merchantId? = some limit) :
    spent w.db.settlements row.mandateId merchantId? + row.amountPaise ≤ limit := by
  have hsettlement := hs.settlement row hrow
  have hlaw := h.chainLaw hs hrow
  have htotal := hlaw.total_nonneg
  rw [hsettlement.amount]
  cases merchantId? with
  | none =>
    obtain rfl := Option.some.inj hlimit
    refine jsRound_spend (spent_nonneg hs) htotal hlaw.ceiling_safe ?_
    rw [← h.spent_eq hs]
    exact hlaw.ceiling
  | some merchantId =>
    rw [Option.all_some, beq_iff_eq] at hin
    obtain ⟨limits, hlimits, hget⟩ := Option.bind_eq_some_iff.mp hlimit
    rw [← hin] at hget ⊢
    have hbound := hlaw.merchantCeiling limits limit hlimits (by rw [← hsettlement.merchant]; exact hget)
    rw [h.merchantSpent_eq hs hrow, hlimits, Option.bind_some, hget, Option.isSome_some,
      if_pos rfl] at hbound
    obtain ⟨approval, hacc⟩ := h.accepted
    have hvalid := validateIntentSchema_none hacc.intentSchema
    obtain ⟨e, he, rfl⟩ := Option.map_eq_some_iff.mp hget
    exact jsRound_spend (spent_nonneg hs) htotal
      (le_maxSafe (hvalid.limits limits hlimits e (List.mem_of_find?_eq_some he)).1) hbound

end

/-! ## The books move as an allowance -/

section

variable {merchantId? : Option JsString} {limit : Int}

/-- What changes no sum moves no allowance. -/
theorem allowance_stay {t t' : Settlements} {mandateId : JsString}
    (hs : spent t' mandateId merchantId? = spent t mandateId merchantId?)
    (hh : held t' mandateId merchantId? = held t mandateId merchantId?) :
    (allowance t mandateId merchantId? limit).Step (allowance t' mandateId merchantId? limit) := by
  rw [allowance, allowance, hs, hh]
  exact .stay

/-- Taking the hold. -/
theorem allowance_entered {crypto : Crypto} {w : World} {now : Int} {row : SettlementRow}
    {mandateRow m : MandateRow} {ctx : VerifyCtx} {t' : Settlements}
    (hre : Reverified crypto w.db now row mandateRow ctx) (hs : Sound crypto w.books)
    (hm : m ∈ w.db.mandates.rows) (hlimit : limitOf m.intent merchantId? = some limit)
    (hmove : SettlementMoved now w.db.settlements t' row .approved .settling none) :
    (allowance w.db.settlements m.mandateId merchantId? limit).Step
      (allowance t' m.mandateId merchantId? limit) := by
  have hspent : spent t' m.mandateId merchantId? = spent w.db.settlements m.mandateId merchantId? :=
    sum_moved_other hmove nofun nofun
  by_cases hin : (row.mandateId == m.mandateId && merchantId?.all (row.merchantId == ·)) = true
  · rw [Bool.and_eq_true, beq_iff_eq] at hin
    have hzero : held w.db.settlements m.mandateId merchantId? = 0 :=
      held_eq_zero hmove.mem (by rw [hmove.state]; rfl) (by rw [hmove.state]; exact nofun) hin.1
    have hheld : held t' m.mandateId merchantId? = row.amountPaise := by
      have hsum := hmove.sum (amountIn m.mandateId merchantId? .settling)
      rw [amountIn_other (by rw [hmove.state]; exact nofun), amountIn_moveTo, hin.1, hin.2] at hsum
      rw [held] at hzero ⊢
      rw [hsum, hzero]
      simp
    have hsame : mandateRow = m := by
      obtain ⟨hmem, hmid⟩ := getMandateRow_some hre.mandate
      exact mandate_eq hmem hm (hmid.trans hin.1)
    have hfit := hre.fits hs hmove.mem hin.2 (by rw [hsame]; exact hlimit)
    rw [hin.1] at hfit
    have hstep := Allowance.Step.hold
      (a := allowance w.db.settlements m.mandateId merchantId? limit) row.amountPaise hzero hfit
    have heq : allowance t' m.mandateId merchantId? limit =
        { allowance w.db.settlements m.mandateId merchantId? limit with held := row.amountPaise } := by
      rw [allowance, allowance, hspent, hheld]
    rw [heq]
    exact hstep
  · rw [Bool.not_eq_true] at hin
    exact allowance_stay hspent (sum_moved_out hmove hin)

/-- Settling the hold. -/
theorem allowance_captured {now : Int} {t t' : Settlements} {row : SettlementRow}
    {mandateId : JsString} (hmove : SettlementMoved now t t' row .settling .captured none) :
    (allowance t mandateId merchantId? limit).Step (allowance t' mandateId merchantId? limit) := by
  by_cases hin : (row.mandateId == mandateId && merchantId?.all (row.merchantId == ·)) = true
  · have hspent := hmove.sum (amountIn mandateId merchantId? .captured)
    have hheld := hmove.sum (amountIn mandateId merchantId? .settling)
    rw [amountIn_other (by rw [hmove.state]; exact nofun), amountIn_moveTo, hin] at hspent
    rw [amountIn, hin, hmove.state, amountIn_other (by rw [moveTo_state]; exact nofun)] at hheld
    simp only [beq_self_eq_true, Bool.true_and, if_true] at hspent hheld
    -- the captured row held everything: no other settlement of the mandate is live
    have hrest : ∀ r ∈ t'.rows, amountIn mandateId merchantId? .settling r = 0 := by
      intro r hr
      rw [amountIn]
      split
      · rename_i hr'
        simp only [Bool.and_eq_true, beq_iff_eq] at hr' hin
        rcases hmove.mem_iff.mp hr with rfl | ⟨hr, hid⟩
        · rw [moveTo_state] at hr'
          exact nomatch hr'.2
        · have hsame := live_settlement_eq hr hmove.mem (by rw [hr'.2]; rfl)
            (by rw [hmove.state]; rfl) (hr'.1.1.trans hin.1.symm)
          exact absurd (congrArg SettlementRow.id hsame) hid
      · rfl
    have hzero : held t' mandateId merchantId? = 0 := Table.sum_eq_zero hrest
    have hstep := Allowance.Step.settle (a := allowance t mandateId merchantId? limit)
    have hspent' : spent t' mandateId merchantId? =
        spent t mandateId merchantId? + held t mandateId merchantId? := by
      rw [held] at hzero
      rw [spent, spent, held, hspent]
      omega
    have heq : allowance t' mandateId merchantId? limit =
        { allowance t mandateId merchantId? limit with
          spent := spent t mandateId merchantId? + held t mandateId merchantId?, held := 0 } := by
      rw [allowance, allowance, hspent', hzero]
    rw [heq]
    exact hstep
  · rw [Bool.not_eq_true] at hin
    exact allowance_stay (sum_moved_out hmove hin) (sum_moved_out hmove hin)

/-- Every other transition. -/
theorem allowance_moved {now : Int} {t t' : Settlements} {row : SettlementRow}
    {src dst : SettlementState} {r : Option JsString} {mandateId : JsString}
    (hmove : SettlementMoved now t t' row src dst r) (hsrc : src ≠ .settling) (hdst : dst ≠ .settling)
    (hcap : dst ≠ .captured) :
    (allowance t mandateId merchantId? limit).Step (allowance t' mandateId merchantId? limit) := by
  have hfinal : src ≠ .captured := fun h => by
    have hallowed := hmove.allowed
    rw [h] at hallowed
    exact nomatch hallowed
  exact allowance_stay (sum_moved_other hmove hfinal hcap) (sum_moved_other hmove hsrc hdst)

/-- **A task moves a stored mandate's allowance as an allowance.** -/
theorem taskStep_allowance {env : Env} {now : Int} {w w' : World} {c : TaskWhy} {next : Next Task}
    (h : TaskStep env now w c w' next) {mandateId : JsString} :
    (allowance w.books.settlements mandateId merchantId? limit).Step
      (allowance w'.books.settlements mandateId merchantId? limit) := by
  cases h with
  | settlementCreated l row intent cart key status body hl hadd hfrom hstamp hw hn =>
    have hstate : row.state ≠ .captured ∧ row.state ≠ .settling := by
      rcases hfrom.state_cases with h | h | h <;> rw [h] <;> exact ⟨nofun, nofun⟩
    rw [hw]
    exact allowance_stay (sum_added hadd hstate.1) (sum_added hadd hstate.2)
  | decided l row mandateRow approval rejectReason hl hmandate hsigned happrovals hm hw hn =>
    rw [hw]
    cases hd : approval.decision <;> rw [hd] at hm <;>
      exact allowance_moved hm nofun nofun nofun
  | abandoned l row src hl hsrc hm hw hn =>
    rw [hw]
    exact allowance_moved hm hsrc nofun nofun
  | kickBumped id hb hw hn =>
    rw [hw]
    exact allowance_stay (sum_bumped hb) (sum_bumped hb)
  | captured caller copy orderId payments latest attempt settlement lrow hc hlast hstatus hid hsid
      hattempt hm hrec hw hn =>
    rw [hw]
    exact allowance_captured hm
  | _ =>
    rename_i hw _
    rw [hw]
    exact .stay

/-- **A run of the executor moves a stored mandate's allowance as an allowance.** -/
theorem jobStep_allowance {env : Env} {now : Int} {w w' : World} {k : Kick} {c : RunWhy}
    {next : Next RunPoint} (h : JobStep env now w k c w' next) (hs : Sound env.crypto w.books)
    {m : MandateRow} (hm : m ∈ w.books.mandates.rows)
    (hlimit : limitOf m.intent merchantId? = some limit) :
    (allowance w.books.settlements m.mandateId merchantId? limit).Step
      (allowance w'.books.settlements m.mandateId merchantId? limit) := by
  cases h with
  | entered row mandateRow ctx hc hkick hre hmove hw hn =>
    rw [hw]
    exact allowance_entered hre hs hm hlimit hmove
  | gateRejected l row reason hl hc hkick hre hmove hw hn =>
    rw [hw]
    exact allowance_moved hmove nofun nofun nofun
  | captured copy attemptNum attemptId providerOrderId result paymentId attempt settlement lrow hc
      hpaid hid hsid hattempt hmove hrec hw hn =>
    rw [hw]
    exact allowance_captured hmove
  | captureLost settlement attemptNum attemptId providerOrderId result paymentId hc hpaid hlost hn =>
    rcases hlost with ⟨hw, -⟩ | ⟨attempt, -, -, -, hw⟩ <;> rw [hw] <;> exact .stay
  | _ =>
    rename_i hw _
    rw [hw]
    exact .stay

end

/-- Every limit of every stored mandate is kept. -/
def WithinLimits (b : Books) : Prop :=
  ∀ m ∈ b.mandates.rows, ∀ merchantId? limit, limitOf m.intent merchantId? = some limit →
    (allowance b.settlements m.mandateId merchantId? limit).Within

theorem limitOf_nonneg {intent : IntentMandate} (h : intentMandateSchema intent = true)
    {merchantId? : Option JsString} {limit : Int} (hlimit : limitOf intent merchantId? = some limit) :
    0 ≤ limit := by
  have hadmitted := intentMandateSchema_admits h
  cases merchantId? with
  | none =>
    obtain rfl := Option.some.inj hlimit
    exact le_of_lt hadmitted.ceiling
  | some merchantId =>
    obtain ⟨limits, hlimits, hget⟩ := Option.bind_eq_some_iff.mp hlimit
    exact hadmitted.limits limits hlimits merchantId limit hget

/-- A mandate no settlement names has nothing spent and nothing held. -/
theorem sum_unnamed {t : Settlements} {mandateId : JsString} {merchantId? : Option JsString}
    {state : SettlementState} (h : ∀ r ∈ t.rows, r.mandateId ≠ mandateId) :
    t.sum (amountIn mandateId merchantId? state) = 0 := by
  refine Table.sum_eq_zero fun r hr => ?_
  simp [amountIn, h r hr]

/-- A mandate of the books after a step: stored before with the same intent, or just registered. -/
theorem TaskStep.mandate_cases {env : Env} {now : Int} {w w' : World} {c : TaskWhy}
    {next : Next Task} (h : TaskStep env now w c w' next) {m : MandateRow}
    (hm : m ∈ w'.books.mandates.rows) :
    (∃ m₀ ∈ w.books.mandates.rows, m₀.mandateId = m.mandateId ∧ m₀.intent = m.intent) ∨
    (intentMandateSchema m.intent = true ∧ w'.books.settlements = w.books.settlements ∧
      ∀ m₀ ∈ w.books.mandates.rows, m₀.mandateId ≠ m.mandateId) := by
  cases h with
  | mandateRegistered l row hl hschema hadd hw hn =>
    rw [hw] at hm ⊢
    rcases (hadd.mem_iff m).mp hm with hm | rfl
    · exact Or.inl ⟨m, hm, rfl, rfl⟩
    · exact Or.inr ⟨hschema, rfl, hadd.fresh⟩
  | mandateRevoked l mandateId hl hrev hw hn =>
    rw [hw] at hm
    rcases (hrev m).mp hm with ⟨m₀, hm₀, -, rfl⟩ | ⟨hm, -⟩
    · exact Or.inl ⟨m₀, hm₀, rfl, rfl⟩
    · exact Or.inl ⟨m, hm, rfl, rfl⟩
  | _ =>
    rename_i hw _
    rw [hw] at hm
    exact Or.inl ⟨m, hm, rfl, rfl⟩

theorem JobStep.mandates_eq {env : Env} {now : Int} {w w' : World} {k : Kick} {c : RunWhy}
    {next : Next RunPoint} (h : JobStep env now w k c w' next) :
    w'.books.mandates = w.books.mandates := by
  cases h with
  | captureLost settlement attemptNum attemptId providerOrderId result paymentId hc hpaid hlost hn =>
    rcases hlost with ⟨hw, -⟩ | ⟨attempt, -, -, -, hw⟩ <;> rw [hw]
  | _ =>
    rename_i hw _
    rw [hw]

theorem Reachable.withinLimits {env : Env} {s : Sys} (h : Reachable env s) :
    WithinLimits s.world.books := by
  refine (soundOutline env).invariant (I := fun w => WithinLimits w.books) ?_ ?_
    (sound_initial env.crypto) (fun m hm => absurd hm List.not_mem_nil) h
  · intro now w c w' next hs _ hI hstep _ m hm merchantId? limit hlimit
    rcases TaskStep.mandate_cases hstep hm with ⟨m₀, hm₀, hid, hintent⟩ | ⟨hschema, hsame, hfresh⟩
    · rw [← hid]
      exact (taskStep_allowance hstep).within (hI m₀ hm₀ merchantId? limit (by rw [hintent]; exact hlimit))
    · have hunnamed : ∀ r ∈ w.books.settlements.rows, r.mandateId ≠ m.mandateId := fun r hr heq => by
        obtain ⟨m₀, hm₀, hid⟩ := (hs.settlement r hr).mandate
        exact hfresh m₀ hm₀ (hid.trans heq)
      rw [hsame, allowance, spent, held, sum_unnamed hunnamed, sum_unnamed hunnamed]
      exact Allowance.within_zero (limitOf_nonneg hschema hlimit)
  · intro now w k c w' next hs _ hI hstep _ m hm merchantId? limit hlimit
    rw [JobStep.mandates_eq hstep] at hm
    exact (jobStep_allowance hstep hs hm hlimit).within (hI m hm merchantId? limit hlimit)

/-- **Spending ceilings.**  In every reachable state, what a stored mandate's settlements have
    captured and are settling is within its ceiling, and within its limit at every merchant. -/
theorem spending_within_ceiling {env : Env} {s : Sys} (h : Reachable env s) {m : MandateRow}
    (hm : m ∈ s.world.db.mandates.rows) :
    spent s.world.db.settlements m.mandateId none + held s.world.db.settlements m.mandateId none
      ≤ m.intent.ceilingPaise ∧
    ∀ limits merchantId limit, m.intent.perMerchantCeilingPaise = some limits →
      limits.get? merchantId = some limit →
      spent s.world.db.settlements m.mandateId (some merchantId) +
        held s.world.db.settlements m.mandateId (some merchantId) ≤ limit := by
  refine ⟨h.withinLimits m hm none _ rfl, fun limits merchantId limit hlimits hget => ?_⟩
  refine h.withinLimits m hm (some merchantId) limit ?_
  rw [limitOf, hlimits, Option.bind_some, hget]

/-- The bound at work: 400 held under the ceiling of 1000 and the shop's limit of 800. -/
theorem spending_within_ceiling_demo :
    ∃ s m, Reachable demoEnv s ∧ m ∈ s.world.db.mandates.rows ∧ m.intent = demoIntent ∧
      held s.world.db.settlements m.mandateId none = 400 ∧
      spent s.world.db.settlements m.mandateId none +
        held s.world.db.settlements m.mandateId none ≤ 1000 ∧
      spent s.world.db.settlements m.mandateId (some (js "shop")) +
        held s.world.db.settlements m.mandateId (some (js "shop")) ≤ 800 := by
  obtain ⟨s, hreach, hp⟩ := reachable_of_run demoEnv demoSettling
    (fun s => s.world.db.mandates.rows.any fun m =>
      m.intent == demoIntent && held s.world.db.settlements m.mandateId none == 400)
    (by decide +kernel)
  obtain ⟨m, hm, h⟩ := List.any_eq_true.mp hp
  rw [Bool.and_eq_true, beq_iff_eq, beq_iff_eq] at h
  have hbound := spending_within_ceiling hreach hm
  rw [h.1] at hbound
  exact ⟨s, m, hreach, hm, h.1, h.2, hbound.1, hbound.2 _ (js "shop") 800 rfl (by decide +kernel)⟩

end Hundi
