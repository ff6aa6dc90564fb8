/-
  The gate in front of every movement of money.

  A settlement enters `settling` by one step only, the re-verification at the start of a run, and
  what that step found is the whole law of the gate on the stored rows (`Reverified.lawful`).
  Every later call of the provider for that settlement comes after it; the gate is not asked again
  before a retry or a resumed run, so a revocation stops the entry, not what has entered.
-/
import Hundi.Facilitator.Spending

namespace Hundi

open Js EventLoop

/-! ## The law on the stored rows -/

/-- The whole law of the gate for a stored settlement and its stored mandate, every value read from
    one state of the database. -/
structure Lawful (crypto : Crypto) (db : Db) (now : Int) (row : SettlementRow) (m : MandateRow) :
    Prop where
  mandate : getMandateRow db row.mandateId = some m
  schema : validateIntentSchema m.intent = none ∧ validateCartSchema row.cart = none
  notRevoked : m.revokedAt = none
  live : now ≤ m.intent.expiresAt + 60
  intentSigned : ∃ bytes, intentSigningBytes m.intent = .ok bytes ∧
    verifyMandateSignature crypto bytes m.intent.sig m.credential = .ok true ∧
    row.cart.intentHashHex = crypto.sha256Hex bytes
  cartSigned : ∃ bytes, cartSigningBytes row.cart = .ok bytes ∧
    verifyMandateSignature crypto bytes (.ed25519 row.cart.agentSigHex)
      (.ed25519 m.intent.agentPubkeyHex) = .ok true
  currency : m.intent.currency = js "INR"
  merchant : row.cart.merchantId ∈ m.intent.merchants
  skus : ∀ skus, m.intent.allowedSkus = some skus → ∀ item ∈ row.cart.items, item.sku ∈ skus
  prices : ∀ merchant ∈ db.merchants.rows, merchant.merchantId = row.cart.merchantId →
    ∀ prices, merchant.catalogPrices = some prices →
      ∀ item ∈ row.cart.items, prices.get? item.sku = some item.unitPricePaise
  lineSum : (row.cart.items.map fun item => item.qty * item.unitPricePaise).sum = row.cart.totalPaise
  ceiling : spent db.settlements row.mandateId none + row.cart.totalPaise ≤ m.intent.ceilingPaise
  merchantCeiling : ∀ limits limit, m.intent.perMerchantCeilingPaise = some limits →
    limits.get? row.cart.merchantId = some limit →
    spent db.settlements row.mandateId (some row.cart.merchantId) + row.cart.totalPaise ≤ limit
  notDuplicate : ∀ r ∈ db.settlements.rows, r.state.holdsCart = true →
    r.mandateCartHashHex = row.mandateCartHashHex → r.id = row.id

/-- A merchant id names one row. -/
theorem merchant_find {db : Db} {merchant : MerchantRow} (h : merchant ∈ db.merchants.rows) :
    db.merchants.find? (fun row => row.merchantId == merchant.merchantId) = some merchant :=
  Table.find?_eq_some h (by simp) fun r hr hid =>
    db.merchants.eq_of_clash (fun a b => by simp only [MerchantRow.clash, Bool.beq_comm]) hr h hid

/-- **What re-verification guarantees is the law.** -/
theorem Reverified.lawful {crypto : Crypto} {w : World} {now : Int} {row : SettlementRow}
    {m : MandateRow} {ctx : VerifyCtx} (h : Reverified crypto w.db now row m ctx)
    (hs : Sound crypto w.books) (hrow : row ∈ w.db.settlements.rows) (hstate : row.state = .approved) :
    Lawful crypto w.db now row m := by
  have hlaw := h.chainLaw hs hrow
  have hstored := hs.settlement row hrow
  have hmandate : getMandateRow w.db m.intent.mandateId = some m := by
    rw [h.mandateId_eq hs]
    exact h.mandate
  obtain ⟨approval, hacc⟩ := h.accepted
  constructor
  case mandate => exact h.mandate
  case schema => exact ⟨hacc.intentSchema, hacc.cartSchema⟩
  case notRevoked =>
    have hrevoked := hlaw.notRevoked
    rw [h.read.revoked, hmandate, Option.any_some] at hrevoked
    exact Option.isSome_eq_false_iff.mp hrevoked |> Option.isNone_iff_eq_none.mp
  case live =>
    have hlive := hlaw.live
    rw [h.read.now, h.read.skew] at hlive
    exact hlive
  case intentSigned =>
    obtain ⟨credential, bytes, hcredential, hbytes, hsigned, hlink⟩ := hlaw.intentSigned
    rw [h.read.credential, hmandate] at hcredential
    obtain rfl := Option.some.inj hcredential
    exact ⟨bytes, hbytes, hsigned, hlink⟩
  case cartSigned => exact hlaw.cartSigned
  case currency => exact hlaw.currency
  case merchant => exact hlaw.merchant
  case skus => exact hlaw.skus
  case prices =>
    intro merchant hmerchant hid prices hprices
    refine hlaw.prices prices ?_
    rw [h.read.prices, ← hid, merchant_find hmerchant, Option.bind_some]
    exact hprices
  case lineSum => exact hlaw.lineSum
  case ceiling =>
    have hfit : spent w.db.settlements row.mandateId none + row.amountPaise ≤ m.intent.ceilingPaise :=
      h.fits hs hrow rfl rfl
    rw [hstored.amount] at hfit
    exact hfit
  case merchantCeiling =>
    intro limits limit hlimits hget
    rw [← hstored.merchant] at hget ⊢
    have hfit : spent w.db.settlements row.mandateId (some row.merchantId) + row.amountPaise ≤ limit :=
      h.fits hs hrow (by simp) (by rw [limitOf, hlimits]; exact hget)
    rw [hstored.amount] at hfit
    exact hfit
  case notDuplicate =>
    intro r hr hholds hhash
    have hsame := w.db.settlements.eq_of_clash SettlementRow.clash_comm hr hrow
      (by
        have hrowHolds : row.state.holdsCart = true := by rw [hstate]; rfl
        simp [SettlementRow.clash, SettlementRow.clashCart, hholds, hrowHolds, hhash])
    rw [hsame]

/-! ## The one way into `settling` -/

def Settling (w : World) (settlementId : JsString) : Prop :=
  ∃ r ∈ w.db.settlements.rows, r.id = settlementId ∧ r.state = .settling

/-- The settlement is let in by re-verification, which calls nobody. -/
def LetIn (crypto : Crypto) (now : Int) (w w' : World) (settlementId : JsString) : Prop :=
  ∃ row m ctx, row.id = settlementId ∧ row ∈ w.db.settlements.rows ∧ row.state = .approved ∧
    Reverified crypto w.db now row m ctx ∧ Settling w' settlementId ∧ w'.history = w.history

theorem SettlementTrace.entered_cases {crypto : Crypto} {now : Int} {w w' : World}
    {r r' : SettlementRow} (h : SettlementTrace crypto now w w' r r')
    (hr : r ∈ w.books.settlements.rows) (hr' : r' ∈ w'.books.settlements.rows)
    (hk : SettlementKept r r') (he : r'.state.entered = true) :
    Entered w.books.settlements r'.id ∨ LetIn crypto now w w' r'.id := by
  cases h with
  | same h => exact Or.inl ⟨r, hr, hk.id.symm, by rw [← h]; exact he⟩
  | closed h' => rcases h' with h' | h' <;> rw [h'] at he <;> exact nomatch he
  | approved approval mandateRow happroval hdecision hmandate hsigned h h' =>
    rw [h'] at he
    exact nomatch he
  | entered mandateRow ctx hre hhistory h h' =>
    exact Or.inr ⟨r, mandateRow, ctx, hk.id.symm, hr, h, hre, ⟨r', hr', rfl, h'⟩, hhistory⟩
  | captured h h' => exact Or.inl ⟨r, hr, hk.id.symm, by rw [h]; rfl⟩

/-- **Only re-verification lets a settlement in.** -/
theorem TaskStep.entered_before {env : Env} {now : Int} {w w' : World} {c : TaskWhy}
    {next : Next Task} (h : TaskStep env now w c w' next) {id : JsString}
    (he : Entered w'.books.settlements id) :
    Entered w.books.settlements id ∨ LetIn env.crypto now w w' id := by
  obtain ⟨r', hr', rfl, he⟩ := he
  rcases h.row_cases hr' with ⟨r, hr, hk, htrace⟩ | ⟨intent, cart, hadd, hfrom, -⟩
  · exact htrace.entered_cases hr hr' hk he
  · rcases hfrom.state_cases with h | h | h <;> rw [h] at he <;> exact nomatch he

theorem JobStep.entered_before {env : Env} {now : Int} {w w' : World} {k : Kick} {c : RunWhy}
    {next : Next RunPoint} (h : JobStep env now w k c w' next) {id : JsString}
    (he : Entered w'.books.settlements id) :
    Entered w.books.settlements id ∨ LetIn env.crypto now w w' id := by
  obtain ⟨r', hr', rfl, he⟩ := he
  obtain ⟨r, hr, hk, htrace⟩ := h.row_cases hr'
  exact htrace.entered_cases hr hr' hk he

/-! ## Calls that move money -/

/-- The calls the executor makes for a settlement. -/
def Event.charges (settlementId : JsString) : Event → Bool
  | .createOrder id _ => id == settlementId
  | .settleViaCheckout id _ => id == settlementId
  | .createPaymentLink id _ => id == settlementId
  | _ => false

/-- The settlement a run works on. -/
def RunPoint.settlement : RunPoint → SettlementRow
  | .attemptLoop settlement _ _ => settlement
  | .createOrder settlement _ _ _ => settlement
  | .orderPending settlement _ _ _ => settlement
  | .settleViaCheckout settlement _ _ _ => settlement
  | .checkoutPending settlement _ _ _ => settlement
  | .captureLost settlement _ _ _ _ => settlement
  | .linkPending settlement _ _ _ => settlement

/-- A run works on a settlement that has entered. -/
theorem RunPoint.Sound.entered {crypto : Crypto} {b : Books} {p : RunPoint} (h : p.Sound b)
    (hs : Hundi.Sound crypto b) : Entered b.settlements p.settlement.id := by
  have hof : ∀ {attemptId id}, AttemptOf b.attempts attemptId id → Entered b.settlements id := by
    rintro attemptId id ⟨a, ha, -, rfl⟩
    exact hs.attempt a ha
  cases p with
  | attemptLoop settlement attemptNum lastAttemptId => exact h
  | linkPending settlement lastAttemptId linkAttemptId receipt => exact h
  | createOrder settlement attemptNum attemptId receipt => exact hof h
  | orderPending settlement attemptNum attemptId receipt => exact hof h
  | settleViaCheckout settlement attemptNum attemptId orderId => exact hof h
  | checkoutPending settlement attemptNum attemptId orderId => exact hof h
  | captureLost settlement attemptNum attemptId orderId result => exact hof h

theorem Event.kind_of_charges {e : Event} {id : JsString} (h : e.charges id = true) :
    e.kind = .charge := by
  cases e <;> first | rfl | exact nomatch h

/-- No task charges. -/
theorem TaskStep.charges_before {env : Env} {now : Int} {w w' : World} {c : TaskWhy}
    {next : Next Task} (h : TaskStep env now w c w' next) {e : Event} {id : JsString}
    (he : e ∈ w'.history) (hid : e.charges id = true) : e ∈ w.history := by
  obtain ⟨l, hl, hkind⟩ := h.emitted
  rw [hl] at he
  rcases List.mem_append.mp he with he | he
  · have hcharge := Event.kind_of_charges hid
    rcases hkind e he with h | h | ⟨row, intent, cart, rfl, -⟩
    · rw [h] at hcharge; exact nomatch hcharge
    · rw [h] at hcharge; exact nomatch hcharge
    · exact nomatch hid
  · exact he

/-- A run charges for the settlement it works on. -/
theorem JobStep.charges_before {env : Env} {now : Int} {w w' : World} {k : Kick} {c : RunWhy}
    {next : Next RunPoint} (h : JobStep env now w k c w' next) {e : Event} {id : JsString}
    (he : e ∈ w'.history) (hid : e.charges id = true) :
    e ∈ w.history ∨ ∃ p, c = .running p ∧ p.settlement.id = id := by
  have hmem : e ∈ w'.books.history := he
  cases h with
  | linkCalled settlement attemptNum lastAttemptId linkAttemptId receipt hc hnum hw hn =>
    rw [hw] at hmem
    rcases List.mem_cons.mp hmem with rfl | hmem
    · exact Or.inr ⟨_, hc, beq_iff_eq.mp hid⟩
    · exact Or.inl hmem
  | orderCalled settlement attemptNum attemptId receipt hc hw hn =>
    rw [hw] at hmem
    rcases List.mem_cons.mp hmem with rfl | hmem
    · exact Or.inr ⟨_, hc, beq_iff_eq.mp hid⟩
    · exact Or.inl hmem
  | checkoutCalled settlement attemptNum attemptId providerOrderId hc hw hn =>
    rw [hw] at hmem
    rcases List.mem_cons.mp hmem with rfl | hmem
    · exact Or.inr ⟨_, hc, beq_iff_eq.mp hid⟩
    · exact Or.inl hmem
  | captureLost settlement attemptNum attemptId providerOrderId result paymentId hc hpaid hlost hn =>
    rcases hlost with ⟨hw, -⟩ | ⟨attempt, -, -, -, hw⟩ <;> rw [hw] at hmem <;> exact Or.inl hmem
  | _ =>
    rename_i hw _
    rw [hw] at hmem
    exact Or.inl hmem

/-- A settlement that was charged has entered. -/
theorem Reachable.charged_entered {env : Env} {s : Sys} (h : Reachable env s) :
    ∀ id, ∀ e ∈ s.world.history, e.charges id = true → Entered s.world.books.settlements id := by
  refine (soundOutline env).invariant
    (I := fun w => ∀ id, ∀ e ∈ w.history, e.charges id = true → Entered w.books.settlements id)
    ?_ ?_ (sound_initial env.crypto) (fun id e he => absurd he List.not_mem_nil) h
  · intro now w c w' next _ _ hI hstep _ id e he hid
    exact (hI id e (TaskStep.charges_before hstep he hid) hid).kept (TaskStep.persists hstep).settlements
  · intro now w k c w' next hs hj hI hstep _ id e he hid
    rcases JobStep.charges_before hstep he hid with he | ⟨p, rfl, rfl⟩
    · exact (hI id e he hid).kept (JobStep.persists hstep).settlements
    · exact ((hj p rfl).entered hs).kept (JobStep.persists hstep).settlements

/-! ## Every entry and every call -/

/-- The settlement enters `settling` between two states of the world. -/
def EntersSettling (w w' : World) (settlementId : JsString) : Prop :=
  ¬ Settling w settlementId ∧ Settling w' settlementId

theorem Settling.entered {w : World} {id : JsString} (h : Settling w id) :
    Entered w.books.settlements id := by
  obtain ⟨r, hr, hid, hstate⟩ := h
  exact ⟨r, hr, hid, by rw [hstate]; rfl⟩

/-- Who enters `settling` had not entered: a captured settlement stays captured. -/
theorem EntersSettling.not_entered {w w' : World} {id : JsString} (h : EntersSettling w w' id)
    (hk : SettlementsKept w.books.settlements w'.books.settlements) :
    ¬ Entered w.books.settlements id := by
  rintro ⟨r, hr, hid, he⟩
  obtain ⟨r', hr', hid', hstate'⟩ := h.2
  obtain ⟨r'', hr'', hkept⟩ := hk r hr
  cases hs : r.state with
  | settling => exact h.1 ⟨r, hr, hid, hs⟩
  | captured =>
    have hsame := settlement_eq hr' hr'' (hid'.trans (hid.symm.trans hkept.id.symm))
    have hfinal := hkept.final (by rw [hs]; rfl)
    rw [← hsame, hstate', hs] at hfinal
    exact nomatch hfinal
  | _ => rw [hs] at he; exact nomatch he

/-- **A step that lets a settlement in is lawful**, and calls nobody. -/
theorem lawful_of_entered {env : Env} {s s' : Sys} {a : Act} (h : Reachable env s)
    (hstep : sysStep env s a = some s') {id : JsString}
    (hnot : ¬ Entered s.world.books.settlements id) (he : Entered s'.world.books.settlements id) :
    (∃ row ∈ s.world.db.settlements.rows, ∃ m, row.id = id ∧
      Lawful env.crypto s.world.db s.clock row m) ∧
    Settling s'.world id ∧ s'.world.history = s.world.history := by
  have hletIn : LetIn env.crypto s.clock s.world s'.world id := by
    cases (facilitatorSpec env).moved hstep with
    | stays hstay => rw [hstay] at he; exact absurd he hnot
    | task c next hmove hmoved => exact (TaskStep.entered_before hmoved he).resolve_left hnot
    | job k c next hmove hmoved => exact (JobStep.entered_before hmoved he).resolve_left hnot
  obtain ⟨row, m, ctx, hid, hrow, hstate, hre, hrest⟩ := hletIn
  exact ⟨⟨row, hrow, m, hid, hre.lawful h.sound hrow hstate⟩, hrest⟩

/-- Who has entered did so in some step of the run, before any call was made for it. -/
theorem Reachable.entry {env : Env} {s : Sys} (h : Reachable env s) :
    ∀ id, Entered s.world.books.settlements id → ∃ s₁ a s₂, Reachable env s₁ ∧
      sysStep env s₁ a = some s₂ ∧ EntersSettling s₁.world s₂.world id ∧
      (∀ e ∈ s₂.world.history, e.charges id = false) ∧ Run (facilitator env) anyStep s₂ s := by
  induction h with
  | refl =>
    rintro id ⟨r, hr, -⟩
    exact absurd hr List.not_mem_nil
  | @tail t u a r hok hstep ih =>
    intro id he
    by_cases hbefore : Entered t.world.books.settlements id
    · obtain ⟨s₁, a₁, s₂, hreach, hstep₁, henters, hquiet, hrun⟩ := ih id hbefore
      exact ⟨s₁, a₁, s₂, hreach, hstep₁, henters, hquiet, .tail hrun hok hstep⟩
    · have hreach : Reachable env t := r
      obtain ⟨-, hsettling, hhistory⟩ := lawful_of_entered hreach hstep hbefore he
      refine ⟨t, a, u, hreach, hstep, ⟨fun hs => hbefore hs.entered, hsettling⟩, fun e hmem => ?_,
        .refl⟩
      rw [hhistory] at hmem
      by_contra hcharge
      exact hbefore (hreach.charged_entered id e hmem (by simpa using hcharge))

/-- The revoked mandate of a settlement is still revoked later. -/
theorem revoked_later {env : Env} {ok : Sys → Act → Prop} {s t : Sys}
    (r : Run (facilitator env) ok s t) {m m' : MandateRow} (hm : m ∈ s.world.db.mandates.rows)
    (hrev : m.revokedAt.isSome = true) (hm' : m' ∈ t.world.db.mandates.rows)
    (hid : m'.mandateId = m.mandateId) : m'.revokedAt.isSome = true := by
  obtain ⟨m'', hm'', hkept⟩ := (persists_run r).mandates m hm
  rw [mandate_eq hm' hm'' (hid.trans hkept.id.symm)]
  exact hkept.revoked hrev

/-- **Complete mediation.**  Whenever a settlement enters `settling`, the law of the gate holds of
    the stored rows in the state it leaves; every call for it comes after such an entry; and once a
    mandate is revoked none of its settlements enters. -/
theorem settling_is_mediated {env : Env} {s : Sys} (h : Reachable env s) :
    (∀ a s' id, sysStep env s a = some s' → EntersSettling s.world s'.world id →
      ∃ row ∈ s.world.db.settlements.rows, ∃ m, row.id = id ∧
        Lawful env.crypto s.world.db s.clock row m) ∧
    (∀ id, ∀ e ∈ s.world.history, e.charges id = true →
      ∃ s₁ a s₂, Reachable env s₁ ∧ sysStep env s₁ a = some s₂ ∧
        EntersSettling s₁.world s₂.world id ∧
        (∃ row ∈ s₁.world.db.settlements.rows, ∃ m, row.id = id ∧
          Lawful env.crypto s₁.world.db s₁.clock row m) ∧
        (∀ e' ∈ s₂.world.history, e'.charges id = false) ∧ Run (facilitator env) anyStep s₂ s) ∧
    (∀ m ∈ s.world.db.mandates.rows, m.revokedAt.isSome = true →
      ∀ t a t' id, Run (facilitator env) anyStep s t → sysStep env t a = some t' →
        EntersSettling t.world t'.world id →
        ∀ row ∈ t.world.db.settlements.rows, row.id = id → row.mandateId ≠ m.mandateId) := by
  have hlawful : ∀ {t t' : Sys} {a id}, Reachable env t → sysStep env t a = some t' →
      EntersSettling t.world t'.world id → ∃ row ∈ t.world.db.settlements.rows, ∃ m, row.id = id ∧
        Lawful env.crypto t.world.db t.clock row m := fun hreach hstep henters =>
    (lawful_of_entered hreach hstep (henters.not_entered (persists_step hstep).settlements)
      henters.2.entered).1
  refine ⟨fun a s' id hstep henters => hlawful h hstep henters, ?_, ?_⟩
  · intro id e he hcharge
    obtain ⟨s₁, a, s₂, hreach, hstep, henters, hquiet, hrun⟩ :=
      h.entry id (h.charged_entered id e he hcharge)
    exact ⟨s₁, a, s₂, hreach, hstep, henters, hlawful hreach hstep henters, hquiet, hrun⟩
  · intro m hm hrev t a t' id hrun hstep henters row hrow hid heq
    obtain ⟨row', hrow', m', hid', hlaw⟩ := hlawful (h.trans hrun) hstep henters
    obtain rfl := settlement_eq hrow hrow' (hid.trans hid'.symm)
    obtain ⟨hm', hmid'⟩ := getMandateRow_some hlaw.mandate
    have hrev' := revoked_later hrun hm hrev hm' (hmid'.trans heq)
    rw [hlaw.notRevoked] at hrev'
    exact nomatch hrev'

/-- In the demo run the driver was called for `s1`, after its lawful entry. -/
theorem settling_is_mediated_demo : ∃ s, Reachable demoEnv s ∧
    .settleViaCheckout (js "s1") (js "o1") ∈ s.world.history ∧
    ∃ s₁ a s₂, Reachable demoEnv s₁ ∧ sysStep demoEnv s₁ a = some s₂ ∧
      EntersSettling s₁.world s₂.world (js "s1") ∧
      (∃ row ∈ s₁.world.db.settlements.rows, ∃ m, row.id = js "s1" ∧
        Lawful demoEnv.crypto s₁.world.db s₁.clock row m) ∧
      (∀ e' ∈ s₂.world.history, e'.charges (js "s1") = false) ∧
      Run (facilitator demoEnv) anyStep s₂ s := by
  obtain ⟨s, hreach, hp⟩ := reachable_of_run demoEnv demoCheckout
    (fun s => s.world.history.contains (.settleViaCheckout (js "s1") (js "o1")))
    (by decide +kernel)
  rw [List.contains_iff_mem] at hp
  exact ⟨s, hreach, hp, (settling_is_mediated hreach).2.1 _ _ hp rfl⟩

/-- The mandate is revoked while the first `createOrder` is awaited; the order fails and the second
    attempt is written. -/
def demoRevoked : List Act :=
  demoSettling ++ [.runJob (js "a1"), .runJob [],
    .request (.postRevoke (js "m1") (.ed25519 (js "00"))) [],
    .resumeJob (.order (.error (.error (js "timeout")))), .runJob (js "a2")]

/-- The gate is not asked again before a retry: a call can be made in a state in which the law does
    not hold, here because the mandate is revoked. -/
theorem call_after_revocation : ¬ ∀ (env : Env) (s s' : Sys) (a : Act) (id : JsString) (e : Event),
    Reachable env s → sysStep env s a = some s' → s'.world.history = e :: s.world.history →
    e.charges id = true → ∃ row ∈ s.world.db.settlements.rows, ∃ m, row.id = id ∧
      Lawful env.crypto s.world.db s.clock row m := by
  intro hclaim
  obtain ⟨s, hreach, hp⟩ := reachable_of_run demoEnv demoRevoked
    (fun s => s.world.db.mandates.rows.all (·.revokedAt.isSome) &&
      (sysStep demoEnv s (.runJob [])).any fun s' => s'.world.history ==
        .createOrder (js "s1") (attemptReceipt (js "s1") 2 (js "a2")) :: s.world.history)
    (by decide +kernel)
  rw [Bool.and_eq_true, List.all_eq_true] at hp
  obtain ⟨s', hstep, hhistory⟩ := (Option.any_eq_true _ _).mp hp.2
  obtain ⟨row, -, m, -, hlaw⟩ := hclaim demoEnv s s' (.runJob []) (js "s1") _ hreach hstep
    (beq_iff_eq.mp hhistory) rfl
  have hrev := hp.1 m (getMandateRow_some hlaw.mandate).1
  rw [hlaw.notRevoked] at hrev
  exact nomatch hrev

end Hundi
