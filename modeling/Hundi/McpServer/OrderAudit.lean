/-
  Whether the audit view of `get_order` can be believed.

  The tool reads two ledger events as proof that the gate accepted the cart.  They are written when a
  settlement becomes `approved`, after the gate ran on the intent that was submitted; the executor
  runs the gate again before money moves, on the stored intent, and what it then rejects keeps its
  event.  The sentences of the view take the merchant's prices for granted, and their limits from the
  stored intent.

  `Performed` says that a claimed check was made and passed in some run of the gate on the cart.  The
  claims hold as far as no approved settlement is refused later (`Upheld`) and what becomes approved
  was created on record (`ApprovedOnRecord`).
-/
import Hundi.Facilitator.Approval
import Hundi.Facilitator.Mediation
import Hundi.Facilitator.Refund
import Hundi.Lib.Trace
import Hundi.McpServer.GetOrder

namespace Hundi

open Js EventLoop

/-! ## What a claim says -/

/-- What a check claims of the intent and the cart it was made on. -/
def Check.Made (crypto : Crypto) (intent : IntentMandate) (cart : CartMandate) (ctx : VerifyCtx) :
    Check → Prop
  | .signatures =>
    (∃ credential bytes, ctx.credential = some credential ∧ intentSigningBytes intent = .ok bytes ∧
      verifyMandateSignature crypto bytes intent.sig credential = .ok true) ∧
    ∃ bytes, cartSigningBytes cart = .ok bytes ∧ verifyMandateSignature crypto bytes
      (.ed25519 cart.agentSigHex) (.ed25519 intent.agentPubkeyHex) = .ok true
  | .chained => ∃ bytes, intentSigningBytes intent = .ok bytes ∧
      cart.intentHashHex = crypto.sha256Hex bytes
  | .lineTotal =>
    (cart.items.map fun item => item.qty * item.unitPricePaise).sum = cart.totalPaise
  | .livePrices => ∃ prices, ctx.catalogPrices = some prices ∧
      ∀ item ∈ cart.items, prices.get? item.sku = some item.unitPricePaise
  | .merchantScope => cart.merchantId ∈ intent.merchants
  | .mandateLive => ctx.now ≤ intent.expiresAt + ctx.clockSkewSec.getD 60 ∧ ctx.revoked = false
  | .ceiling => ctx.spentPaise.getD 0 + cart.totalPaise ≤ intent.ceilingPaise
  | .merchantCeiling merchantId limitPaise =>
    merchantId = cart.merchantId ∧ limitOf intent (some merchantId) = some limitPaise ∧
      ctx.merchantSpentPaise.getD 0 + cart.totalPaise ≤ limitPaise
  -- there is no such ceiling
  | .inheritedCeiling _ => False
  | .notDuplicate => ctx.duplicateCart = false
  | .allowedSkus skus => intent.allowedSkus = some skus ∧ ∀ item ∈ cart.items, item.sku ∈ skus

/-- The step is the one that creates the settlement, for the submitted intent. -/
def Creates (env : Env) (t : Sys) (b : Act) (settlementId : JsString) (intent : IntentMandate) :
    Prop :=
  (∀ r ∈ t.world.db.settlements.rows, r.id ≠ settlementId) ∧ ∃ t' spentPaise,
    sysStep env t b = some t' ∧ .settlementCreated settlementId spentPaise intent ∈ t'.world.history

/-- The runs of the gate on the cart of a settlement that accepted it: at its creation, on the
    submitted intent, and at a kick of the executor, on the stored one. -/
inductive GateRan (env : Env) (past : List (Sys × Act)) (r : SettlementRow) (intent : IntentMandate)
    (ctx : VerifyCtx) : Prop where
  | creation (t : Sys) (b : Act) (hstep : (t, b) ∈ past) (hcreates : Creates env t b r.id intent)
      (hpassed : GatePassed env.crypto t.world.db t.clock r.id intent r.cart ctx)
  | kick (t : Sys) (b : Act) (m : MandateRow) (hstep : (t, b) ∈ past)
      (hmove : JobMove t b ⟨r.id, .execute⟩ .start)
      (hm : getMandateRow t.world.db r.mandateId = some m) (hintent : m.intent = intent)
      (hpassed : GatePassed env.crypto t.world.db t.clock r.id intent r.cart ctx)

/-- The check was made, and passed, in a run of the gate on the settlement's cart. -/
def Performed (env : Env) (past : List (Sys × Act)) (r : SettlementRow) (check : Check) : Prop :=
  ∃ intent ctx, GateRan env past r intent ctx ∧ check.Made env.crypto intent r.cart ctx

/-- **The view of a settlement claims only checks that hold**: none while it is rejected or waits for
    approval, and else only what was performed. -/
structure ViewHolds (env : Env) (formatRupees : Int → JsString) (past : List (Sys × Act))
    (r : SettlementRow) (intent : Option IntentMandate) (view : OrderView) : Prop where
  silent : r.state = .rejected ∨ r.state = .pending_approval →
    view.explanation.checksPassed = none ∧ view.explanation.freshPrice = none
  claimed : ∀ texts, view.explanation.checksPassed = some texts →
    texts = describeChecksPassed formatRupees r.merchantId intent ∧
    ∀ check ∈ claimedChecks r.merchantId intent, Performed env past r check
  fresh : view.explanation.freshPrice.isSome = true → Performed env past r .livePrices
  registered : view.explanation.freshPrice.isSome = true → ∃ t b, (t, b) ∈ past ∧
    ∃ merchant ∈ t.world.db.merchants.rows, merchant.merchantId = r.merchantId ∧
      merchant.catalogPrices.isSome = true

/-- What the list of mandates can be after `s`: the request fails, or is answered at some later time. -/
def Lists (env : Env) (s : Sys) (listed : MandatesListed) : Prop :=
  ∀ mandates, listed = .ok mandates →
    ∃ u now, Run (facilitator env) anyStep s u ∧ mandates = getMandates u.world.db now

/-- The audit views of a state that the steps `past` have led to. -/
def AuditHolds (env : Env) (formatRupees : Int → JsString) (past : List (Sys × Act)) (s : Sys) :
    Prop :=
  ∀ r ∈ s.world.db.settlements.rows, ∀ listed, Lists env s listed →
    ∃ view, getOrder formatRupees r.id (getSettlementDetail s.world.db r.id) listed = .ok view ∧
      ViewHolds env formatRupees past r ((listed.find r.mandateId).map (·.intent)) view

/-! ## When the claims hold -/

/-- A kick that starts for an approved settlement is not refused by the gate. -/
def Upheld (env : Env) (s : Sys) (a : Act) : Prop :=
  ∀ r ∈ s.world.db.settlements.rows, r.state = .approved → JobMove s a ⟨r.id, .execute⟩ .start →
    ∀ reason, ¬ Refused env.crypto s.world.db s.clock r reason

/-- The cart's merchant has registered prices, and the limits of the stored mandate that bear on the
    cart are those of the submitted intent; if it sets any, the merchant's id is no name that their object
    inherits, unless it has a limit. -/
structure OnRecord (db : Db) (intent : IntentMandate) (cart : CartMandate) : Prop where
  prices : ∃ merchant ∈ db.merchants.rows, merchant.merchantId = cart.merchantId ∧
    merchant.catalogPrices.isSome = true
  limit : ∀ m, getMandateRow db intent.mandateId = some m →
    ∀ limitPaise, limitOf m.intent (some cart.merchantId) = some limitPaise →
      limitOf intent (some cart.merchantId) = some limitPaise
  own : ∀ m, getMandateRow db intent.mandateId = some m →
    ∀ limits, m.intent.perMerchantCeilingPaise = some limits → cart.merchantId ∈ objectPrototype →
      (limits.get? cart.merchantId).isSome = true
  skus : ∀ m, getMandateRow db intent.mandateId = some m →
    ∀ skus, m.intent.allowedSkus = some skus → skus.isEmpty = false →
      intent.allowedSkus = some skus

/-- What the step makes `approved` was created on record. -/
def ApprovedOnRecord (env : Env) (past : List (Sys × Act)) (s : Sys) (a : Act) : Prop :=
  ∀ s', sysStep env s a = some s' → ∀ r ∈ s'.world.db.settlements.rows, r.state = .approved →
    (∀ r₀ ∈ s.world.db.settlements.rows, r₀.id = r.id → r₀.state ≠ .approved) →
    ∀ t b intent, (t, b) ∈ (s, a) :: past → Creates env t b r.id intent →
      OnRecord t.world.db intent r.cart

/-- The side condition of the runs whose audit views hold. -/
def ClaimsBacked (env : Env) (past : List (Sys × Act)) (s : Sys) (a : Act) : Prop :=
  Upheld env s a ∧ ApprovedOnRecord env past s a

/-! ## What an accepting run of the gate has checked -/

section

variable {crypto : Crypto} {w : World} {now : Int} {settlementId : JsString} {intent : IntentMandate}
  {cart : CartMandate} {ctx : VerifyCtx}

theorem GatePassed.read (h : GatePassed crypto w.db now settlementId intent cart ctx) :
    ctx.ReadFrom w.db intent cart now := by
  obtain ⟨hash, hbuilt⟩ := h.built
  exact (buildVerifyCtx_ok hbuilt).1

theorem GatePassed.law (h : GatePassed crypto w.db now settlementId intent cart ctx)
    (hs : Sound crypto w.books) : ChainLaw crypto intent cart ctx := by
  obtain ⟨approval, hash, hresult⟩ := h.accepted
  apply (verifyChain_accepted hresult).law
  · rw [h.read.spent, getCapturedSpend, capturedAmount_eq]
    exact jsRound_nonneg (spent_nonneg hs)
  · rw [h.read.merchantSpent, getCapturedSpendAtMerchant, capturedAmountAt_eq]
    cases intent.perMerchantCeilingPaise.bind fun limits => limits.get? cart.merchantId with
    | none => exact le_refl _
    | some limit => exact jsRound_nonneg (spent_nonneg hs)

theorem GatePassed.notDuplicate (h : GatePassed crypto w.db now settlementId intent cart ctx) :
    ctx.duplicateCart = false := by
  obtain ⟨approval, hash, hresult⟩ := h.accepted
  exact verifyPolicy_notDuplicate (verifyChain_accepted hresult).policy

/-- The prices of the context are those of the merchant's row. -/
theorem GatePassed.catalogPrices (h : GatePassed crypto w.db now settlementId intent cart ctx)
    {prices : Record} : ctx.catalogPrices = some prices ↔ ∃ merchant ∈ w.db.merchants.rows,
      merchant.merchantId = cart.merchantId ∧ merchant.catalogPrices = some prices := by
  rw [h.read.prices, Option.bind_eq_some_iff]
  constructor
  · rintro ⟨merchant, hfind, hprices⟩
    obtain ⟨hmem, hid⟩ := Table.find?_mem hfind
    exact ⟨merchant, hmem, beq_iff_eq.mp hid, hprices⟩
  · rintro ⟨merchant, hmem, hid, hprices⟩
    rw [← hid]
    exact ⟨merchant, merchant_find hmem, hprices⟩

/-- What the view lists: the checks that every accepted cart has passed, but for the prices, and those
    of the limits of the intent. -/
theorem claimedChecks_cases {merchantId : JsString} {stored : Option IntentMandate} {check : Check}
    (h : check ∈ claimedChecks merchantId stored) :
    check ∈ [.signatures, .chained, .lineTotal, .livePrices, .merchantScope, .mandateLive, .ceiling,
      .notDuplicate] ∨
    (∃ i limitPaise, stored = some i ∧ limitOf i (some merchantId) = some limitPaise ∧
      check = .merchantCeiling merchantId limitPaise) ∨
    (∃ i limits, stored = some i ∧ i.perMerchantCeilingPaise = some limits ∧
      limits.get? merchantId = none ∧ merchantId ∈ objectPrototype) ∨
    ∃ i skus, stored = some i ∧ i.allowedSkus = some skus ∧ skus.isEmpty = false ∧
      check = .allowedSkus skus := by
  rw [claimedChecks, List.mem_append, List.mem_append, List.mem_append, Option.mem_toList,
    Option.mem_toList] at h
  rcases h with ((h | h) | h) | h
  · exact Or.inl (List.mem_append_left [Check.notDuplicate] h)
  · obtain ⟨limits, hlimits, hcheck⟩ := Option.bind_eq_some_iff.mp h
    obtain ⟨i, hi, hper⟩ := Option.bind_eq_some_iff.mp hlimits
    rw [merchantLimitCheck] at hcheck
    cases hget : limits.get? merchantId with
    | some limitPaise =>
      rw [hget] at hcheck
      obtain rfl := Option.some.inj hcheck
      exact Or.inr (Or.inl ⟨i, limitPaise, hi, by rw [limitOf, hper]; exact hget, rfl⟩)
    | none =>
      rw [hget, Option.ite_none_right_eq_some] at hcheck
      exact Or.inr (Or.inr (Or.inl ⟨i, limits, hi, hper, hget, List.contains_iff_mem.mp hcheck.1⟩))
  · exact Or.inl (List.mem_append_right [Check.signatures, .chained, .lineTotal, .livePrices,
      .merchantScope, .mandateLive, .ceiling] h)
  · obtain ⟨skus, hskus, rfl⟩ := Option.map_eq_some_iff.mp h
    obtain ⟨hbind, hne⟩ := Option.filter_eq_some_iff.mp hskus
    obtain ⟨i, hi, hallowed⟩ := Option.bind_eq_some_iff.mp hbind
    exact Or.inr (Or.inr (Or.inr ⟨i, skus, hi, hallowed, by simpa using hne, rfl⟩))

/-- **What was created on record passed every check that the view will list.** -/
theorem GatePassed.made (h : GatePassed crypto w.db now settlementId intent cart ctx)
    (hs : Sound crypto w.books) (hrec : OnRecord w.db intent cart) {m : MandateRow}
    (hm : getMandateRow w.db intent.mandateId = some m) {stored : Option IntentMandate}
    (hstored : ∀ i, stored = some i → i = m.intent) {check : Check}
    (hcheck : check ∈ claimedChecks cart.merchantId stored) : check.Made crypto intent cart ctx := by
  have hlaw := h.law hs
  obtain ⟨credential, bytes, hcredential, hbytes, hsigned, hlink⟩ := hlaw.intentSigned
  rcases claimedChecks_cases hcheck with hbase | ⟨i, limitPaise, hi, hlimit, rfl⟩ |
    ⟨i, limits, hi, hlimits, hget, hinherited⟩ | ⟨i, skus, hi, hskus, hne, rfl⟩
  · cases check with
    | signatures => exact ⟨⟨credential, bytes, hcredential, hbytes, hsigned⟩, hlaw.cartSigned⟩
    | chained => exact ⟨bytes, hbytes, hlink⟩
    | lineTotal => exact hlaw.lineSum
    | livePrices =>
      obtain ⟨merchant, hmem, hid, hsome⟩ := hrec.prices
      obtain ⟨prices, hprices⟩ := Option.isSome_iff_exists.mp hsome
      have hread := h.catalogPrices.mpr ⟨merchant, hmem, hid, hprices⟩
      exact ⟨prices, hread, hlaw.prices prices hread⟩
    | merchantScope => exact hlaw.merchant
    | mandateLive => exact ⟨hlaw.live, hlaw.notRevoked⟩
    | ceiling => exact hlaw.ceiling
    | notDuplicate => exact h.notDuplicate
    | merchantCeiling merchantId limitPaise => simp at hbase
    | inheritedCeiling merchantId => simp at hbase
    | allowedSkus skus => simp at hbase
  · rw [hstored i hi] at hlimit
    have hsame := hrec.limit m hm limitPaise hlimit
    obtain ⟨limits, hlimits, hget⟩ := Option.bind_eq_some_iff.mp hsame
    exact ⟨rfl, hsame, hlaw.merchantCeiling limits limitPaise hlimits hget⟩
  · rw [hstored i hi] at hlimits
    have howned := hrec.own m hm limits hlimits hinherited
    rw [hget] at howned
    exact absurd howned Bool.false_ne_true
  · rw [hstored i hi] at hskus
    have hsame := hrec.skus m hm skus hskus hne
    exact ⟨hsame, hlaw.skus skus hsame⟩

end

/-! ## The events of the gate -/

/-- No row is one that the tool reads as the gate's acceptance. -/
def Silent (l : List LedgerRow) : Prop := ∀ row ∈ l, gatePassedEvents.contains row.eventType = false

theorem Incidental.silent {l : List LedgerRow} (hl : Incidental l) : Silent l := by
  intro row hrow
  have hi := hl row hrow
  cases he : row.eventType <;> rw [he] at hi <;> first | rfl | exact nomatch hi

theorem Logs.silent {l : List LedgerRow} {e : LedgerEventType} {settlementId : JsString}
    (hl : Logs l e settlementId) (he : gatePassedEvents.contains e = false) : Silent l := by
  obtain ⟨row, rfl, hevent, -⟩ := hl
  intro r hr
  rw [List.mem_singleton.mp hr, hevent]
  exact he

theorem LogsFailure.silent {l : List LedgerRow} {attemptId : JsString} (hl : LogsFailure l attemptId) :
    Silent l := by
  obtain ⟨row, rfl, hevent, -⟩ := hl
  intro r hr
  rw [List.mem_singleton.mp hr, hevent]
  rfl

theorem LedgerRow.Records.silent {row : LedgerRow} {input : AppendLedgerInput}
    (h : row.Records input) (he : gatePassedEvents.contains input.eventType = false) :
    Silent [row] := by
  intro r hr
  rw [List.mem_singleton.mp hr, h.eventType]
  exact he

/-- A row of the gate's acceptance that silent rows were appended to. -/
theorem Silent.before {ledger ledger' l : List LedgerRow} (hl : Silent l)
    (hledger : ledger' = ledger ++ l) {row : LedgerRow} (hrow : row ∈ ledger')
    (hpass : gatePassedEvents.contains row.eventType = true) : row ∈ ledger := by
  rw [hledger] at hrow
  rcases List.mem_append.mp hrow with hrow | hrow
  · exact hrow
  · rw [hl row hrow] at hpass
    exact nomatch hpass

/-- The row says that a settlement has become `approved` in this step. -/
def LogsApproval (w w' : World) (row : LedgerRow) : Prop :=
  ∃ r ∈ w'.db.settlements.rows, row.settlementId = some r.id ∧ r.state = .approved ∧
    ∀ r₀ ∈ w.db.settlements.rows, r₀.id = r.id → r₀.state ≠ .approved

/-- **A task logs the gate's acceptance of what it has just made `approved`.** -/
theorem TaskStep.logs_approval {env : Env} {now : Int} {w w' : World} {c : TaskWhy}
    {next : Next Task} (h : TaskStep env now w c w' next) {row : LedgerRow}
    (hrow : row ∈ w'.db.ledger) (hpass : gatePassedEvents.contains row.eventType = true) :
    row ∈ w.db.ledger ∨ LogsApproval w w' row := by
  cases h with
  | quiet l hl hw hn => exact Or.inl (hl.silent.before (congrArg Books.ledger hw) hrow hpass)
  | mandateRegistered l m hl hschema hadd hw hn =>
    exact Or.inl (hl.silent.before (congrArg Books.ledger hw) hrow hpass)
  | mandateRevoked l mandateId hl hrev hw hn =>
    exact Or.inl (hl.silent.before (congrArg Books.ledger hw) hrow hpass)
  | settlementCreated l r intent cart key status body hl hadd hfrom hstamp hw hn =>
    have hledger : w'.db.ledger = w.db.ledger ++ l := congrArg Books.ledger hw
    rcases hfrom.state_cases with hstate | hstate | hstate
    · rw [hstate] at hl
      exact Or.inl ((hl.silent rfl).before hledger hrow hpass)
    · rw [hstate] at hl
      exact Or.inl ((hl.silent rfl).before hledger hrow hpass)
    · rw [hledger] at hrow
      rcases List.mem_append.mp hrow with hrow | hrow
      · exact Or.inl hrow
      · obtain ⟨lrow, rfl, -, hnames⟩ := hl
        rw [List.mem_singleton.mp hrow]
        exact Or.inr ⟨r, (hadd.mem_iff r).mpr (Or.inr rfl), hnames, hstate,
          fun r₀ hr₀ hid => absurd hid (hadd.fresh r₀ hr₀)⟩
  | decided l r m approval rejectReason hl hmandate hsigned happrovals hm hw hn =>
    have hledger : w'.db.ledger = w.db.ledger ++ l := congrArg Books.ledger hw
    cases hd : approval.decision with
    | rejected =>
      rw [hd] at hl
      exact Or.inl ((hl.silent rfl).before hledger hrow hpass)
    | approved =>
      rw [hd] at hm
      rw [hledger] at hrow
      rcases List.mem_append.mp hrow with hrow | hrow
      · exact Or.inl hrow
      · obtain ⟨lrow, rfl, -, hnames⟩ := hl
        rw [List.mem_singleton.mp hrow]
        refine Or.inr ⟨_, hm.moved_mem, hnames.trans (by rw [moveTo_id]), moveTo_state .., ?_⟩
        intro r₀ hr₀ hid
        rw [settlement_eq hr₀ hm.mem (hid.trans (moveTo_id ..)), hm.state]
        exact nofun
  | abandoned l r src hl hsrc hm hw hn =>
    have hsilent : Silent l := by
      rcases hl with hl | hl <;> exact hl.silent rfl
    exact Or.inl (hsilent.before (congrArg Books.ledger hw) hrow hpass)
  | attemptFailed l attempt src hl hm hwhy hw hn =>
    exact Or.inl (hl.silent.before (congrArg Books.ledger hw) hrow hpass)
  | captured caller copy orderId payments latest attempt settlement lrow hc hlast hstatus hid hsid
      hattempt hm hrec hw hn =>
    exact Or.inl ((hrec.silent rfl).before (congrArg Books.ledger hw) hrow hpass)
  | refunded caller settlementId attemptId paymentId refundId lrow hc hrec hw hn =>
    exact Or.inl ((hrec.silent rfl).before (congrArg Books.ledger hw) hrow hpass)
  | operatorRefunded settlementId attemptId paymentId refundId amountPaise lrow hc hrec hw hn =>
    exact Or.inl ((hrec.silent rfl).before (congrArg Books.ledger hw) hrow hpass)
  | _ =>
    rename_i hw _
    have hledger : w'.db.ledger = w.db.ledger := congrArg Books.ledger hw
    rw [hledger] at hrow
    exact Or.inl hrow

/-- A run of the executor logs no acceptance. -/
theorem JobStep.logs_no_approval {env : Env} {now : Int} {w w' : World} {k : Kick} {c : RunWhy}
    {next : Next RunPoint} (h : JobStep env now w k c w' next) {row : LedgerRow}
    (hrow : row ∈ w'.db.ledger) (hpass : gatePassedEvents.contains row.eventType = true) :
    row ∈ w.db.ledger := by
  cases h with
  | quiet l hl hw hn => exact hl.silent.before (congrArg Books.ledger hw) hrow hpass
  | gateRejected l r reason hl hc hkick hre hm hw hn =>
    exact (hl.silent rfl).before (congrArg Books.ledger hw) hrow hpass
  | attemptInitiated l settlement attemptNum lastAttemptId attemptId receipt hl hc hnum hadd hw hn =>
    exact hl.silent.before (congrArg Books.ledger hw) hrow hpass
  | orderFailed l settlement attemptNum attemptId receipt err r hl hc hid hm hw hn =>
    exact hl.silent.before (congrArg Books.ledger hw) hrow hpass
  | captured copy attemptNum attemptId providerOrderId result paymentId attempt settlement lrow hc
      hpaid hid hsid hattempt hm hrec hw hn =>
    exact (hrec.silent rfl).before (congrArg Books.ledger hw) hrow hpass
  | captureLost settlement attemptNum attemptId providerOrderId result paymentId hc hpaid hlost hn =>
    have hledger : w'.db.ledger = w.db.ledger := by
      rcases hlost with ⟨hw, -⟩ | ⟨attempt, -, -, -, hw⟩ <;> exact congrArg Books.ledger hw
    rwa [hledger] at hrow
  | retried l settlement attemptNum attemptId providerOrderId result hl hc hm hw hn =>
    exact hl.silent.before (congrArg Books.ledger hw) hrow hpass
  | linkIssued l settlement lastAttemptId linkAttemptId receipt linkId shortUrl hl hc hissued hw hn =>
    exact hl.silent.before (congrArg Books.ledger hw) hrow hpass
  | _ =>
    rename_i hw _
    have hledger : w'.db.ledger = w.db.ledger := congrArg Books.ledger hw
    rwa [hledger] at hrow

/-! ## What has passed the gate stays passed -/

/-- The states behind the gate, as long as it does not take its word back. -/
def SettlementState.passed : SettlementState → Bool
  | .approved | .settling | .captured | .abandoned => true
  | _ => false

/-- What had passed has passed still. -/
def PassedKept (t t' : Settlements) : Prop :=
  ∀ r ∈ t.rows, r.state.passed = true → ∃ r' ∈ t'.rows, SettlementKept r r' ∧ r'.state.passed = true

theorem SettlementMoved.passedKept {now : Int} {t t' : Settlements} {row : SettlementRow}
    {src dst : SettlementState} {rejectReason : Option JsString}
    (hm : SettlementMoved now t t' row src dst rejectReason) (hsrc : src = .settling → dst = .captured)
    (hpassed : src.passed = true → dst.passed = true) : PassedKept t t' := by
  intro r hr hp
  obtain ⟨r', hr', hk⟩ := hm.kept hsrc r hr
  refine ⟨r', hr', hk, ?_⟩
  rcases hm.mem_iff.mp hr' with rfl | ⟨hmem, -⟩
  · rw [moveTo_state]
    rw [settlement_eq hr hm.mem (hk.id.symm.trans (moveTo_id ..)), hm.state] at hp
    exact hpassed hp
  · rw [settlement_eq hmem hr hk.id]
    exact hp

theorem TaskStep.passedKept {env : Env} {now : Int} {w w' : World} {c : TaskWhy} {next : Next Task}
    (h : TaskStep env now w c w' next) : PassedKept w.books.settlements w'.books.settlements := by
  cases h with
  | settlementCreated l row intent cart key status body hl hadd hfrom hstamp hw hn =>
    rw [hw]
    exact fun r hr hp => ⟨r, (hadd.mem_iff r).mpr (Or.inl hr), .refl r, hp⟩
  | decided l row mandateRow approval rejectReason hl hmandate hsigned happrovals hm hw hn =>
    rw [hw]
    exact hm.passedKept nofun nofun
  | abandoned l row src hl hsrc hm hw hn =>
    rw [hw]
    exact hm.passedKept (fun h => absurd h hsrc) fun _ => rfl
  | kickBumped id hb hw hn =>
    rw [hw]
    intro r hr hp
    obtain ⟨r', hr', hk⟩ := hb.kept r hr
    refine ⟨r', hr', hk, ?_⟩
    rcases (Table.mem_update? hb).mp hr' with ⟨r₀, hr₀, -, rfl⟩ | ⟨hr', -⟩
    · rw [settlement_eq hr hr₀ hk.id.symm] at hp
      exact hp
    · rw [settlement_eq hr' hr hk.id]
      exact hp
  | captured caller copy orderId payments latest attempt settlement lrow hc hlast hstatus hid hsid
      hattempt hm hrec hw hn =>
    rw [hw]
    exact hm.passedKept (fun _ => rfl) fun _ => rfl
  | _ =>
    rename_i hw _
    rw [hw]
    exact fun r hr hp => ⟨r, hr, .refl r, hp⟩

/-- A run keeps what has passed, unless the gate refuses the settlement of its kick. -/
theorem JobStep.passedKept {env : Env} {s : Sys} {a : Act} {w' : World} {k : Kick} {c : RunWhy}
    {next : Next RunPoint} (h : JobStep env s.clock s.world k c w' next) (hmove : JobMove s a k c)
    (hok : Upheld env s a) : PassedKept s.world.books.settlements w'.books.settlements := by
  cases h with
  | entered row mandateRow ctx hc hkick hre hm hw hn =>
    rw [hw]
    exact hm.passedKept nofun fun _ => rfl
  | gateRejected l row reason hl hc hkick hre hm hw hn =>
    rw [hc, hkick] at hmove
    exact absurd hre (hok row hm.mem hm.state hmove reason)
  | captured copy attemptNum attemptId orderId result paymentId attempt settlement lrow hc hpaid hid
      hsid hattempt hm hrec hw hn =>
    rw [hw]
    exact hm.passedKept (fun _ => rfl) fun _ => rfl
  | captureLost settlement attemptNum attemptId orderId result paymentId hc hpaid hlost hn =>
    rcases hlost with ⟨hw, -⟩ | ⟨attempt, -, -, -, hw⟩ <;> rw [hw] <;>
      exact fun r hr hp => ⟨r, hr, .refl r, hp⟩
  | _ =>
    rename_i hw _
    rw [hw]
    exact fun r hr hp => ⟨r, hr, .refl r, hp⟩

/-! ## Along a run -/

/-- The step created the settlement, on the gate's acceptance. -/
structure CreatedBy (env : Env) (r : SettlementRow) (t : Sys) (b : Act) (intent : IntentMandate) :
    Prop where
  creates : Creates env t b r.id intent
  mandateId : intent.mandateId = r.mandateId
  mandate : ∃ m, getMandateRow t.world.db intent.mandateId = some m
  passed : ∃ ctx, GatePassed env.crypto t.world.db t.clock r.id intent r.cart ctx

theorem CreatedBy.kept {env : Env} {r r' : SettlementRow} {t : Sys} {b : Act} {intent : IntentMandate}
    (h : CreatedBy env r t b intent) (hk : SettlementKept r r') : CreatedBy env r' t b intent where
  creates := by rw [hk.id]; exact h.creates
  mandateId := h.mandateId.trans hk.mandateId.symm
  mandate := h.mandate
  passed := by rw [hk.id, hk.cart]; exact h.passed

/-- Where a row of the table comes from. -/
theorem row_origin {env : Env} {s s' : Sys} {a : Act} (h : sysStep env s a = some s')
    {r' : SettlementRow} (hr' : r' ∈ s'.world.db.settlements.rows) :
    (∃ r ∈ s.world.db.settlements.rows, SettlementKept r r') ∨
    (r'.state ≠ .rejected → ∃ intent, CreatedBy env r' s a intent) := by
  cases (facilitatorSpec env).moved h with
  | stays hstay =>
    rw [hstay] at hr'
    exact Or.inl ⟨r', hr', .refl r'⟩
  | task c next hmove hstep =>
    rcases TaskStep.row_cases hstep hr' with ⟨r, hr, hk, -⟩ | ⟨intent, cart, hadd, hfrom, hevent⟩
    · exact Or.inl ⟨r, hr, hk⟩
    · refine Or.inr fun hne => ⟨intent, ⟨hadd.fresh, s', _, h, hevent⟩, hfrom.mandateId.symm,
        hfrom.mandate, ?_⟩
      rcases hfrom.passed with hrejected | hpassed
      · exact absurd hrejected hne
      · rw [hfrom.cart_eq]
        exact hpassed
  | job k c next hmove hstep =>
    obtain ⟨r, hr, hk, -⟩ := JobStep.row_cases hstep hr'
    exact Or.inl ⟨r, hr, hk⟩

/-- The invariant of the allowed runs: what is not rejected was accepted at its creation, and what has an
    event of the gate has passed it still and was created on record. -/
structure Backed (env : Env) (past : List (Sys × Act)) (s : Sys) : Prop where
  created : ∀ r ∈ s.world.db.settlements.rows, r.state ≠ .rejected →
    ∃ t b intent, (t, b) ∈ past ∧ CreatedBy env r t b intent
  logged : ∀ row ∈ s.world.db.ledger, gatePassedEvents.contains row.eventType = true →
    ∀ id, row.settlementId = some id → ∃ r ∈ s.world.db.settlements.rows, r.id = id ∧
      r.state.passed = true ∧ ∀ t b intent, (t, b) ∈ past → Creates env t b id intent →
        OnRecord t.world.db intent r.cart

/-- A step writes an event of the gate for what it makes `approved`, and for nothing else. -/
theorem step_logs_approval {env : Env} {s s' : Sys} {a : Act} (h : sysStep env s a = some s')
    {row : LedgerRow} (hrow : row ∈ s'.world.db.ledger)
    (hpass : gatePassedEvents.contains row.eventType = true) :
    row ∈ s.world.db.ledger ∨ LogsApproval s.world s'.world row := by
  cases (facilitatorSpec env).moved h with
  | stays hstay =>
    rw [hstay] at hrow
    exact Or.inl hrow
  | task c next hmove hstep => exact TaskStep.logs_approval hstep hrow hpass
  | job k c next hmove hstep => exact Or.inl (JobStep.logs_no_approval hstep hrow hpass)

theorem step_passedKept {env : Env} {s s' : Sys} {a : Act} (h : sysStep env s a = some s')
    (hok : Upheld env s a) : PassedKept s.world.db.settlements s'.world.db.settlements := by
  cases (facilitatorSpec env).moved h with
  | stays hstay =>
    rw [hstay]
    exact fun r hr hp => ⟨r, hr, .refl r, hp⟩
  | task c next hmove hstep => exact TaskStep.passedKept hstep
  | job k c next hmove hstep => exact JobStep.passedKept hstep hmove hok

/-- **An allowed step keeps the claims backed.** -/
theorem Backed.step {env : Env} {past : List (Sys × Act)} {s s' : Sys} {a : Act}
    (hb : Backed env past s) (hok : ClaimsBacked env past s a) (h : sysStep env s a = some s') :
    Backed env ((s, a) :: past) s' := by
  constructor
  case created =>
    intro r' hr' hne
    rcases row_origin h hr' with ⟨r, hr, hk⟩ | hcreated
    · have hlive : r.state ≠ .rejected := fun hrejected =>
        hne ((hk.final (by rw [hrejected]; rfl)).trans hrejected)
      obtain ⟨t, b, intent, hmem, hcreated⟩ := hb.created r hr hlive
      exact ⟨t, b, intent, List.mem_cons_of_mem _ hmem, hcreated.kept hk⟩
    · obtain ⟨intent, hcreated⟩ := hcreated hne
      exact ⟨s, a, intent, List.mem_cons_self, hcreated⟩
  case logged =>
    intro row hrow hpass id hid
    rcases step_logs_approval h hrow hpass with hold | ⟨r, hr, hnames, hstate, hnew⟩
    · obtain ⟨r, hr, rfl, hp, hrecord⟩ := hb.logged row hold hpass id hid
      obtain ⟨r', hr', hk, hp'⟩ := step_passedKept h hok.1 r hr hp
      refine ⟨r', hr', hk.id, hp', fun t b intent hmem hcreates => ?_⟩
      rw [hk.cart]
      rcases List.mem_cons.mp hmem with heq | hmem
      · -- an id that is taken is not created again
        obtain ⟨rfl, rfl⟩ := Prod.mk.inj heq
        exact absurd rfl (hcreates.1 r hr)
      · exact hrecord t b intent hmem hcreates
    · obtain rfl := Option.some.inj (hnames.symm.trans hid)
      exact ⟨r, hr, rfl, by rw [hstate]; rfl, hok.2 s' h r hr hstate hnew⟩

theorem backed {env : Env} {past : List (Sys × Act)} {s : Sys}
    (h : Traced (facilitator env) (ClaimsBacked env) Sys.initial past s) : Backed env past s :=
  h.invariant (fun _ hb hok hstep => hb.step hok hstep)
    ⟨fun _ hr => absurd hr List.not_mem_nil, fun _ hrow => absurd hrow List.not_mem_nil⟩

/-! ## The view -/

theorem getSettlement_mem {db : Db} {r : SettlementRow} (h : r ∈ db.settlements.rows) :
    getSettlement db r.id = some r :=
  Table.find?_eq_some h (by simp) fun r' hr' hid => settlement_eq hr' h (beq_iff_eq.mp hid)

/-- The mandate that the list finds is the stored one, whose intent never changes. -/
theorem Lists.find_intent {env : Env} {s t : Sys} {listed : MandatesListed} (h : Lists env s listed)
    (hrun : Run (facilitator env) anyStep t s) {mandateId : JsString} {m : MandateRow}
    (hm : getMandateRow t.world.db mandateId = some m) {intent : IntentMandate}
    (hfind : (listed.find mandateId).map (·.intent) = some intent) : intent = m.intent := by
  obtain ⟨listing, hlisting, rfl⟩ := Option.map_eq_some_iff.mp hfind
  obtain ⟨mandates, hlisted, hfind⟩ := Option.bind_eq_some_iff.mp hlisting
  cases listed with
  | error text => exact nomatch hlisted
  | ok mandates' =>
    obtain rfl : mandates' = mandates := Option.some.inj hlisted
    obtain ⟨u, now, hlater, rfl⟩ := h _ rfl
    obtain ⟨m', hm', henrich⟩ := mem_getMandates.mp (List.mem_of_find?_eq_some hfind)
    have hid := List.find?_some hfind
    rw [← henrich, beq_iff_eq] at hid
    obtain ⟨hmem, hmid⟩ := getMandateRow_some hm
    obtain ⟨m'', hm'', hk⟩ := (persists_run (hrun.trans hlater)).mandates m hmem
    rw [← henrich]
    show m'.intent = m.intent
    rw [← hk.intent, mandate_eq hm' hm'' (hid.trans (hmid.symm.trans hk.id.symm))]

/-- The claim on the prices is performed only where prices are registered. -/
theorem Performed.registered {env : Env} {past : List (Sys × Act)} {r : SettlementRow}
    (h : Performed env past r .livePrices) : ∃ t b, (t, b) ∈ past ∧
      ∃ merchant ∈ t.world.db.merchants.rows, merchant.merchantId = r.cart.merchantId ∧
        merchant.catalogPrices.isSome = true := by
  obtain ⟨intent, ctx, hran, prices, hprices, -⟩ := h
  have hread : ∀ {t : Sys}, GatePassed env.crypto t.world.db t.clock r.id intent r.cart ctx →
      ∃ merchant ∈ t.world.db.merchants.rows, merchant.merchantId = r.cart.merchantId ∧
        merchant.catalogPrices.isSome = true := by
    intro t hpassed
    obtain ⟨merchant, hmem, hid, hsome⟩ := hpassed.catalogPrices.mp hprices
    exact ⟨merchant, hmem, hid, by rw [hsome]; rfl⟩
  cases hran with
  | creation t b hstep hcreates hpassed => exact ⟨t, b, hstep, hread hpassed⟩
  | kick t b m hstep hmove hm hintent hpassed => exact ⟨t, b, hstep, hread hpassed⟩

/-- A settlement that is shown as accepted has an event of the gate in the ledger. -/
theorem SettlementDetail.logged {db : Db} {id : JsString} {detail : SettlementDetail}
    (hdetail : getSettlementDetail db id = some detail) (h : detail.gatePassed = true) :
    ∃ row ∈ db.ledger, gatePassedEvents.contains row.eventType = true ∧ row.settlementId = some id := by
  obtain ⟨settlement, -, rfl⟩ := Option.map_eq_some_iff.mp hdetail
  obtain ⟨row, hrow, hpass⟩ := List.any_eq_true.mp h
  have hmem := List.mem_filter.mp (List.mem_reverse.mp (List.mem_of_mem_take hrow))
  exact ⟨row, hmem.1, hpass, beq_iff_eq.mp hmem.2⟩

/-- What is claimed of a settlement behind the gate was performed. -/
theorem Backed.performed {env : Env} {past : List (Sys × Act)} {s : Sys} (hb : Backed env past s)
    (h : Traced (facilitator env) (ClaimsBacked env) Sys.initial past s) {r : SettlementRow}
    (hr : r ∈ s.world.db.settlements.rows) (hne : r.state ≠ .rejected)
    (hrecord : ∀ t b intent, (t, b) ∈ past → Creates env t b r.id intent →
      OnRecord t.world.db intent r.cart)
    {listed : MandatesListed} (hlisted : Lists env s listed) {check : Check}
    (hcheck : check ∈ claimedChecks r.merchantId ((listed.find r.mandateId).map (·.intent))) :
    Performed env past r check := by
  obtain ⟨t, b, intent, hmem, hcreated⟩ := hb.created r hr hne
  obtain ⟨hbefore, hafter⟩ := h.between hmem
  obtain ⟨m, hm⟩ := hcreated.mandate
  obtain ⟨ctx, hpassed⟩ := hcreated.passed
  have hmerchant := ((Reachable.sound h.run).settlement r hr).merchant
  rw [hmerchant, ← hcreated.mandateId] at hcheck
  exact ⟨intent, ctx, .creation t b hmem hcreated.creates hpassed,
    hpassed.made (Reachable.sound hbefore) (hrecord t b intent hmem hcreated.creates) hm
      (fun i hi => hlisted.find_intent hafter hm hi) hcheck⟩

/-- A view that claims nothing holds. -/
theorem ViewHolds.of_silent {env : Env} {formatRupees : Int → JsString} {past : List (Sys × Act)}
    {r : SettlementRow} {intent : Option IntentMandate} {view : OrderView}
    (hchecks : view.explanation.checksPassed = none)
    (hprice : view.explanation.freshPrice.isSome = false) :
    ViewHolds env formatRupees past r intent view := by
  constructor
  case silent => exact fun _ => ⟨hchecks, by simpa using hprice⟩
  case claimed =>
    intro texts htexts
    rw [hchecks] at htexts
    exact nomatch htexts
  case fresh =>
    intro hsome
    rw [hprice] at hsome
    exact nomatch hsome
  case registered =>
    intro hsome
    rw [hprice] at hsome
    exact nomatch hsome

/-- **The audit view claims only checks that hold**, in the runs in which no approved settlement is
    refused and what becomes approved was created on record. -/
theorem audit_view_holds {env : Env} {past : List (Sys × Act)} {s : Sys}
    (h : Traced (facilitator env) (ClaimsBacked env) Sys.initial past s)
    (formatRupees : Int → JsString) : AuditHolds env formatRupees past s := by
  intro r hr listed hlisted
  have hb := backed h
  obtain ⟨detail, hdetail, rfl⟩ : ∃ detail,
      getSettlementDetail s.world.db r.id = some detail ∧ detail.settlement = r := by
    rw [getSettlementDetail, getSettlement_mem hr]
    exact ⟨_, rfl, rfl⟩
  refine ⟨orderView formatRupees detail listed, by rw [hdetail]; rfl, ?_⟩
  have hchecks := orderView_checksPassed formatRupees detail listed
  have hprice := orderView_freshPrice formatRupees detail listed
  cases hgate : detail.gatePassed with
  | false =>
    rw [hgate] at hchecks hprice
    exact .of_silent hchecks hprice
  | true =>
    rw [hgate] at hchecks
    obtain ⟨row, hrow, hpass, hnames⟩ := SettlementDetail.logged hdetail hgate
    obtain ⟨r, hr', hid, hp, hrecord⟩ := hb.logged row hrow hpass _ hnames
    obtain rfl := settlement_eq hr' hr hid
    have hne : detail.settlement.state ≠ .rejected := fun hrejected => by
      rw [hrejected] at hp
      exact nomatch hp
    have hperformed : ∀ check ∈ claimedChecks detail.settlement.merchantId
        ((listed.find detail.settlement.mandateId).map (·.intent)),
        Performed env past detail.settlement check :=
      fun check hcheck => hb.performed h hr hne hrecord hlisted hcheck
    have hprices : Performed env past detail.settlement .livePrices :=
      hperformed _ (List.mem_append_left _ (List.mem_append_left _ (List.mem_append_left _ (by simp))))
    constructor
    case silent =>
      rintro (hstate | hstate) <;> rw [hstate] at hp <;> exact nomatch hp
    case claimed =>
      intro texts htexts
      exact ⟨(Option.some.inj (hchecks.symm.trans htexts)).symm, hperformed⟩
    case fresh => exact fun _ => hprices
    case registered =>
      intro _
      rw [((Reachable.sound h.run).settlement _ hr).merchant]
      exact hprices.registered

/-! ## Demonstrations -/

/-- The gate, run again on what is stored, does not refuse the settlement. -/
def stands (crypto : Crypto) (db : Db) (now : Int) (r : SettlementRow) : Bool :=
  match getMandateRow db r.mandateId with
  | none => true
  | some m =>
    match buildVerifyCtx crypto db m.intent r.cart now (some r.id) with
    | .error _ => true
    | .ok (ctx, hash) => hash == r.mandateCartHashHex &&
      match verifyChain crypto m.intent r.cart ctx with
      | .ok (.fail _ _) => false
      | _ => true

theorem not_refused_of_stands {crypto : Crypto} {db : Db} {now : Int} {r : SettlementRow}
    (h : stands crypto db now r = true) (reason : RejectionCode) :
    ¬ Refused crypto db now r reason := by
  rintro ⟨m, ctx, hash, hm, hbuilt, hrefused⟩
  rw [stands, hm] at h
  simp only [hbuilt, Bool.and_eq_true, beq_iff_eq] at h
  rcases hrefused with ⟨hne, -⟩ | ⟨detail, hverdict⟩
  · exact hne h.1
  · rw [hverdict] at h
    exact nomatch h.2

/-- `OnRecord`, evaluated. -/
def onRecord (db : Db) (intent : IntentMandate) (cart : CartMandate) : Bool :=
  (db.merchants.rows.any fun row =>
    row.merchantId == cart.merchantId && row.catalogPrices.isSome) &&
  (getMandateRow db intent.mandateId).all fun m =>
    ((limitOf m.intent (some cart.merchantId)).all fun limitPaise =>
      limitOf intent (some cart.merchantId) == some limitPaise) &&
    (m.intent.perMerchantCeilingPaise.all fun limits =>
      !objectPrototype.contains cart.merchantId || (limits.get? cart.merchantId).isSome) &&
    (m.intent.allowedSkus.all fun skus => skus.isEmpty || intent.allowedSkus == some skus)

theorem onRecord_of_check {db : Db} {intent : IntentMandate} {cart : CartMandate}
    (h : onRecord db intent cart = true) : OnRecord db intent cart := by
  rw [onRecord, Bool.and_eq_true, List.any_eq_true] at h
  obtain ⟨⟨merchant, hmem, hmerchant⟩, hlimits⟩ := h
  rw [Bool.and_eq_true, beq_iff_eq] at hmerchant
  have hstored : ∀ m, getMandateRow db intent.mandateId = some m →
      ((limitOf m.intent (some cart.merchantId)).all fun limitPaise =>
        limitOf intent (some cart.merchantId) == some limitPaise) = true ∧
      (m.intent.perMerchantCeilingPaise.all fun limits =>
        !objectPrototype.contains cart.merchantId || (limits.get? cart.merchantId).isSome) = true ∧
      (m.intent.allowedSkus.all fun skus => skus.isEmpty || intent.allowedSkus == some skus) = true := by
    intro m hm
    rw [hm, Option.all_some, Bool.and_eq_true, Bool.and_eq_true, and_assoc] at hlimits
    exact hlimits
  constructor
  case prices => exact ⟨merchant, hmem, hmerchant⟩
  case limit =>
    intro m hm limitPaise hlimit
    have hsame := (hstored m hm).1
    rw [hlimit, Option.all_some, beq_iff_eq] at hsame
    exact hsame
  case own =>
    intro m hm limits hlimits hinherited
    have howned := (hstored m hm).2.1
    rw [hlimits, Option.all_some, List.contains_iff_mem.mpr hinherited, Bool.not_true,
      Bool.false_or] at howned
    exact howned
  case skus =>
    intro m hm skus hskus hne
    have hsame := (hstored m hm).2.2
    rw [hskus, Option.all_some, hne, Bool.false_or, beq_iff_eq] at hsame
    exact hsame

/-- The kick at the head of the queue is not of a settlement that the gate refuses. -/
def upheld (env : Env) (s : Sys) : Bool :=
  s.world.db.settlements.rows.all fun r =>
    s.queue.head? != some ⟨r.id, .execute⟩ || stands env.crypto s.world.db s.clock r

/-- `ClaimsBacked`, evaluated. -/
def claimsBacked (env : Env) (past : List (Sys × Act)) (s : Sys) (a : Act) : Bool :=
  upheld env s &&
  (sysStep env s a).all fun s' => s'.world.db.settlements.rows.all fun r =>
    r.state != .approved ||
    (s.world.db.settlements.rows.any fun r₀ => r₀.id == r.id && r₀.state == .approved) ||
    ((s, a) :: past).all fun (t, b) =>
      (t.world.db.settlements.rows.any fun r₀ => r₀.id == r.id) ||
      (sysStep env t b).all fun t' => t'.world.history.all fun
        | .settlementCreated id _ intent => id != r.id || onRecord t.world.db intent r.cart
        | _ => true

theorem claimsBacked_of_check (env : Env) (past : List (Sys × Act)) (s : Sys) (a : Act)
    (h : claimsBacked env past s a = true) : ClaimsBacked env past s a := by
  rw [claimsBacked, Bool.and_eq_true] at h
  obtain ⟨hupheld, hrecord⟩ := h
  constructor
  · intro r hr _ hmove
    cases hmove with
    | start seed _ rest hfree hjob hq =>
      have hr := List.all_eq_true.mp hupheld r hr
      rw [hq, List.head?_cons, bne_self_eq_false, Bool.false_or] at hr
      exact not_refused_of_stands hr
  · intro s' hs' r hr hstate hnew t b intent hmem hcreates
    rw [hs', Option.all_some] at hrecord
    have hr := List.all_eq_true.mp hrecord r hr
    rw [hstate, bne_self_eq_false, Bool.false_or, Bool.or_eq_true] at hr
    rcases hr with hold | hr
    · obtain ⟨r₀, hr₀, hold⟩ := List.any_eq_true.mp hold
      rw [Bool.and_eq_true, beq_iff_eq, beq_iff_eq] at hold
      exact absurd hold.2 (hnew r₀ hr₀ hold.1)
    · have hr := List.all_eq_true.mp hr (t, b) hmem
      obtain ⟨hfresh, t', spentPaise, ht', hevent⟩ := hcreates
      rw [Bool.or_eq_true] at hr
      rcases hr with hold | hr
      · obtain ⟨r₀, hr₀, hold⟩ := List.any_eq_true.mp hold
        exact absurd (beq_iff_eq.mp hold) (hfresh r₀ hr₀)
      · rw [ht', Option.all_some] at hr
        have hr := List.all_eq_true.mp hr _ hevent
        simp only [bne_self_eq_false, Bool.false_or] at hr
        exact onRecord_of_check hr

/-- The shop has registered its prices; the demo cart is bought there and paid. -/
def demoPriced : List Act :=
  .request (.postAdminMerchants (some (js "admin")) (js "shop") (js "Shop") none
    (some [(js "rice", 200)])) [] :: demoCaptured

theorem audit_view_holds_demo : ∃ past s, Traced (facilitator demoEnv) (ClaimsBacked demoEnv)
      Sys.initial past s ∧
    (s.world.db.settlements.rows.any fun r => r.state == .captured) = true ∧
    AuditHolds demoEnv (fun _ => []) past s := by
  have hcheck : (traceIf (facilitator demoEnv) (claimsBacked demoEnv) [] Sys.initial demoPriced).any
      (fun o => o.2.world.db.settlements.rows.any fun r => r.state == .captured) = true := by
    decide +kernel
  obtain ⟨o, ho, hp⟩ := Option.any_eq_true _ _ |>.mp hcheck
  have htraced := Traced.of_traceIf (claimsBacked_of_check demoEnv) .refl ho
  exact ⟨o.1, o.2, htraced, hp, audit_view_holds htraced _⟩

/-- A human approves the large cart, and the mandate runs out before the executor gets to its kick. -/
def demoOutlived : List Act := demoApproved.dropLast ++ [.clock 200000, .startJob []]

/-- A rejected settlement whose view lists checks. -/
def claimsRejected (s : Sys) : Bool :=
  s.world.db.settlements.rows.any fun r => r.state == .rejected &&
    (getSettlementDetail s.world.db r.id).any fun detail => detail.gatePassed

theorem not_silent_of_claims {env : Env} {past : List (Sys × Act)} {s : Sys}
    (h : claimsRejected s = true) : ¬ AuditHolds env (fun _ => []) past s := by
  intro hall
  obtain ⟨r, hr, hp⟩ := List.any_eq_true.mp h
  rw [Bool.and_eq_true, beq_iff_eq] at hp
  obtain ⟨hstate, hp⟩ := hp
  obtain ⟨detail, hdetail, hgate⟩ := Option.any_eq_true _ _ |>.mp hp
  obtain ⟨view, hview, holds⟩ := hall r hr (.error []) nofun
  rw [hdetail] at hview
  obtain rfl := Except.ok.inj hview
  have hsilent := (holds.silent (Or.inl hstate)).1
  rw [orderView_checksPassed, hgate] at hsilent
  exact nomatch hsilent

/-- A view that claims fresh prices although no merchant has ever registered any. -/
def claimsUnpriced (past : List (Sys × Act)) (s : Sys) : Bool :=
  (past.all fun step => step.1.world.db.merchants.rows.isEmpty) &&
  s.world.db.settlements.rows.any fun r =>
    (getSettlementDetail s.world.db r.id).any fun detail => detail.gatePassed

theorem not_registered_of_claims {env : Env} {past : List (Sys × Act)} {s : Sys}
    (h : claimsUnpriced past s = true) : ¬ AuditHolds env (fun _ => []) past s := by
  intro hall
  rw [claimsUnpriced, Bool.and_eq_true] at h
  obtain ⟨hempty, h⟩ := h
  obtain ⟨r, hr, hp⟩ := List.any_eq_true.mp h
  obtain ⟨detail, hdetail, hgate⟩ := Option.any_eq_true _ _ |>.mp hp
  obtain ⟨view, hview, holds⟩ := hall r hr (.error []) nofun
  rw [hdetail] at hview
  obtain rfl := Except.ok.inj hview
  obtain ⟨t, b, hmem, merchant, hmerchant, -⟩ :=
    holds.registered (by rw [orderView_freshPrice]; exact hgate)
  have hnone := List.all_eq_true.mp hempty (t, b) hmem
  rw [List.isEmpty_iff.mp hnone] at hmerchant
  exact absurd hmerchant List.not_mem_nil

/-- **The audit view claims checks that do not hold**, of a rejected settlement (left) and of one whose
    merchant has no registered prices (right). -/
theorem audit_view_overclaims :
    (∃ past s, Traced (facilitator demoEnv) (fun _ => anyStep) Sys.initial past s ∧
      claimsRejected s = true ∧ ¬ AuditHolds demoEnv (fun _ => []) past s) ∧
    ∃ past s, Traced (facilitator demoEnv) (fun _ => anyStep) Sys.initial past s ∧
      claimsUnpriced past s = true ∧ ¬ AuditHolds demoEnv (fun _ => []) past s := by
  constructor
  · have hcheck : (traceIf (facilitator demoEnv) (fun _ _ _ => true) [] Sys.initial
        demoOutlived).any (fun o => claimsRejected o.2) = true := by decide +kernel
    obtain ⟨o, ho, hp⟩ := Option.any_eq_true _ _ |>.mp hcheck
    exact ⟨o.1, o.2, Traced.of_traceIf (fun _ _ _ _ => trivial) .refl ho, hp, not_silent_of_claims hp⟩
  · have hcheck : (traceIf (facilitator demoEnv) (fun _ _ _ => true) [] Sys.initial
        demoSettling).any (fun o => claimsUnpriced o.1 o.2) = true := by decide +kernel
    obtain ⟨o, ho, hp⟩ := Option.any_eq_true _ _ |>.mp hcheck
    exact ⟨o.1, o.2, Traced.of_traceIf (fun _ _ _ _ => trivial) .refl ho, hp,
      not_registered_of_claims hp⟩

end Hundi
