/-
  agents/scripted-brain/src/scripted-brain.ts, agents/llm-brain/src/llm-brain.ts and
  agents/claude-brain/src/claude-brain.ts — the buyers: each chooses a product and asks for payment.

  1. **Program** — one course of a purchase (`purchase`) under four ways to choose: `runPurchase`,
     `runLlmPurchase`, `runClaudePurchase`, and `runAdversarialPurchase`, which does what a listing's
     text tells it.
  2. **What an honest choice is** — one unit of a candidate in stock, at a price the catalog lists.
  3. **Under the facilitator** — `PaidBy` is a call of `requestPayment` while everything else goes on.
     A completed purchase met the whole law of the gate (`completed_purchase_is_lawful`), so a buyer
     that was fooled into another merchant completes none (`fooled_purchase_never_completes`).

  What the models reply is a parameter; nothing is assumed of it.
-/
import Hundi.Buyer.LlmBrain
import Hundi.Buyer.RequestPayment
import Hundi.Facilitator.DryRun
import Hundi.Facilitator.Mediation

namespace Hundi

open Js EventLoop

/-! ## The program -/

/-- `PurchaseOutcome`. -/
inductive PurchaseOutcome where
  | completed (product : FeedProduct) (settlement : SettlementResult)
  | pendingApproval (product : FeedProduct) (settlement : SettlementResult)
  | blocked (reason : JsString) (product : Option FeedProduct) (settlement : Option SettlementResult)
  deriving DecidableEq

/-- `toOutcome(settlement, product)`. -/
def toOutcome (settlement : SettlementResult) (product : FeedProduct) : PurchaseOutcome :=
  if settlement.state = .captured then .completed product settlement
  else if settlement.state = .pending_approval then .pendingApproval product settlement
  else .blocked (settlement.reason.getD settlement.state.text) (some product) (some settlement)

/-- The product a buyer has chosen, with the cart it proposes; `none` where it has no candidate, and
    `error` is the text of what it throws. -/
abbrev Choice := Except JsString (Option (FeedProduct × CartDraft))

/-- The course of every purchase from the choice on; `pay` is `tools.requestPayment` under the mandate. -/
def purchase (choice : Choice) (pay : CartDraft → SettlementResult) : Except JsString PurchaseOutcome :=
  choice.map fun
    | none => .blocked (js "NO_CANDIDATE") none none
    | some (product, cart) => toOutcome (pay cart) product

/-- `tools.proposeCart([{ product, qty: 1, variantId }])`. -/
def proposeCart (product : FeedProduct) (variantId : Option JsString) : Choice :=
  (buildCartDraft [⟨product, 1, variantId⟩] none).map fun cart => some (product, cart)

/-- The choice of `runPurchase`: the cheapest in stock under the goal's ceiling. -/
def scriptedChoice (ceilingPaise : Int) (candidates : List FeedProduct) : Choice :=
  match fallbackPick candidates ceilingPaise with
  | none => .ok none
  | some product => proposeCart product none

/-- `runPurchase({ goal, mandate }, tools)`. -/
def runPurchase (ceilingPaise : Int) (candidates : List FeedProduct) (pay : CartDraft → SettlementResult) :
    Except JsString PurchaseOutcome :=
  purchase (scriptedChoice ceilingPaise candidates) pay

/-- The choice of `runLlmPurchase`. -/
def llmChoice (goal : ChooseProductGoal) (chat : ChatClient) (candidates : List FeedProduct) : Choice :=
  let choice := chooseProduct candidates goal chat
  match choice.product with
  | none => .ok none
  | some product => proposeCart product choice.chosenVariantId

/-- `runLlmPurchase({ goal, mandate, config }, tools)`. -/
def runLlmPurchase (goal : ChooseProductGoal) (chat : ChatClient) (candidates : List FeedProduct)
    (pay : CartDraft → SettlementResult) : Except JsString PurchaseOutcome :=
  purchase (llmChoice goal chat candidates) pay

/-- `ClaudePick`. -/
structure ClaudePick where
  chosenSku : JsString
  reason : JsString

/-- `parseClaudePick(text)`. -/
def parseClaudePick (text : JsString) : Option ClaudePick := do
  let members ← (matchObject text).bind parseObject
  let chosenSku ← stringMember members (js "chosen_sku")
  let reason ← stringMember members (js "reason")
  return ⟨chosenSku, reason⟩

/-- The `product` of `resolveChoice(pick, candidates, goal)` in claude-brain.ts: an override has the
    substitute. -/
def resolveClaudeChoice (pick : Option ClaudePick) (candidates : List FeedProduct) (ceilingPaise : Int) :
    Option FeedProduct :=
  match pick with
  | none => fallbackPick candidates ceilingPaise
  | some pick =>
    match candidates.find? fun p => p.id == pick.chosenSku with
    | none => fallbackPick candidates ceilingPaise
    | some chosen =>
      if chosen.availability ≠ .in_stock then fallbackPick candidates ceilingPaise
      else if chosen.pricePaise > ceilingPaise then fallbackPick candidates ceilingPaise
      else some chosen

/-- The choice of `runClaudePurchase`; `text` is that of the first text block of the reply. -/
def claudeChoice (ceilingPaise : Int) (text : Option JsString) (candidates : List FeedProduct) : Choice :=
  match resolveClaudeChoice ((givenId text).bind parseClaudePick) candidates ceilingPaise with
  | none => .ok none
  | some product => proposeCart product none

/-- `runClaudePurchase({ goal, mandate, model }, tools, deps)`. -/
def runClaudePurchase (ceilingPaise : Int) (text : Option JsString) (candidates : List FeedProduct)
    (pay : CartDraft → SettlementResult) : Except JsString PurchaseOutcome :=
  purchase (claudeChoice ceilingPaise text candidates) pay

/-- The cart of a buyer that reads the merchant and the price from what was injected. -/
def injectedDraft (poisoned : FeedProduct) (injected : InjectedPayload) : CartDraft where
  merchantId := injected.merchantId
  items := [⟨poisoned.id, 1, injected.pricePaise, none, none⟩]
  totalPaise := injected.pricePaise
  cartId := none

/-- The first listing that carries an injected payload. -/
def findPoisoned (candidates : List FeedProduct) : Option (FeedProduct × InjectedPayload) :=
  candidates.findSome? fun p => p.injectedPayload.map fun injected => (p, injected)

/-- The choice of `runAdversarialPurchase`. -/
def adversarialChoice (candidates : List FeedProduct) : Choice :=
  match findPoisoned candidates with
  | none => .error (js ("runAdversarialPurchase: no catalog entry carries an injectedPayload — pass " ++
      "poisonedCatalog: true to HttpBuyerTools"))
  | some (poisoned, injected) => .ok (some (poisoned, injectedDraft poisoned injected))

/-- `runAdversarialPurchase({ goal, mandate }, tools)`. -/
def runAdversarialPurchase (candidates : List FeedProduct) (pay : CartDraft → SettlementResult) :
    Except JsString PurchaseOutcome :=
  purchase (adversarialChoice candidates) pay

/-! ## What an honest choice is -/

/-- One unit of a candidate that is in stock and listed within the ceiling, from the merchant that lists
    it, at the price that is listed for it or for the variant chosen. -/
structure HonestChoice (ceilingPaise : Int) (candidates : List FeedProduct) (product : FeedProduct)
    (draft : CartDraft) : Prop where
  listed : product ∈ candidates
  inStock : product.availability = .in_stock
  price : product.pricePaise ≤ ceilingPaise
  merchant : draft.merchantId = product.merchantId
  line : ∃ variantId item, draft.items = [item] ∧ item.sku = product.id ∧ item.qty = 1 ∧
    item.unitPricePaise = listingPrice product variantId ∧ item.variantId = givenId variantId
  total : draft.totalPaise = recomputedTotal draft.items

theorem proposeCart_ok {product chosen : FeedProduct} {variantId : Option JsString} {draft : CartDraft}
    (h : proposeCart product variantId = .ok (some (chosen, draft))) :
    chosen = product ∧ draft.merchantId = product.merchantId ∧
      (∃ item, draft.items = [item] ∧ item.sku = product.id ∧ item.qty = 1 ∧
        item.unitPricePaise = listingPrice product variantId ∧ item.variantId = givenId variantId) ∧
      draft.totalPaise = recomputedTotal draft.items := by
  unfold proposeCart at h
  cases hdraft : buildCartDraft [⟨product, 1, variantId⟩] none with
  | error e =>
    rw [hdraft] at h
    cases h
  | ok cart =>
    rw [hdraft] at h
    obtain ⟨rfl, rfl⟩ := Prod.mk.inj (Option.some.inj (Except.ok.inj h))
    unfold buildCartDraft at hdraft
    rw [bind_eq_ok] at hdraft
    obtain ⟨items, hitems, hcart⟩ := hdraft
    obtain rfl := Except.ok.inj hcart
    rw [cartLines, bind_eq_ok] at hitems
    obtain ⟨item, hitem, hitems⟩ := hitems
    rw [cartLines] at hitems
    obtain rfl := Except.ok.inj hitems
    refine ⟨rfl, rfl, ⟨item, rfl, ?_⟩, rfl⟩
    rw [cartLine, if_neg (not_not.mpr rfl)] at hitem
    dsimp only at hitem
    cases hgiven : givenId variantId with
    | none =>
      rw [hgiven] at hitem
      obtain rfl := Except.ok.inj hitem
      exact ⟨rfl, rfl, by rw [listingPrice, hgiven]; rfl, rfl⟩
    | some id =>
      rw [hgiven] at hitem
      dsimp only at hitem
      cases hvariant : findVariant product id with
      | none =>
        rw [hvariant] at hitem
        cases hitem
      | some variant =>
        rw [hvariant] at hitem
        obtain rfl := Except.ok.inj hitem
        refine ⟨rfl, rfl, ?_, ?_⟩
        · rw [listingPrice, hgiven, Option.bind_some, hvariant]
        · rw [findVariant_variantId hvariant]

/-- The buyers that choose by the catalog. -/
inductive Brain where
  | scripted (ceilingPaise : Int)
  | llm (goal : ChooseProductGoal) (chat : ChatClient)
  | claude (ceilingPaise : Int) (text : Option JsString)

def Brain.choose : Brain → List FeedProduct → Choice
  | .scripted ceilingPaise => scriptedChoice ceilingPaise
  | .llm goal chat => llmChoice goal chat
  | .claude ceilingPaise text => claudeChoice ceilingPaise text

/-- The purchase of each buyer. -/
def Brain.run : Brain → List FeedProduct → (CartDraft → SettlementResult) →
    Except JsString PurchaseOutcome
  | .scripted ceilingPaise => runPurchase ceilingPaise
  | .llm goal chat => runLlmPurchase goal chat
  | .claude ceilingPaise text => runClaudePurchase ceilingPaise text

/-- Each of them is one course under its own choice. -/
theorem Brain.run_eq (brain : Brain) (candidates : List FeedProduct)
    (pay : CartDraft → SettlementResult) :
    brain.run candidates pay = purchase (brain.choose candidates) pay := by
  cases brain with
  | scripted ceilingPaise => rfl
  | llm goal chat => rfl
  | claude ceilingPaise text => rfl

/-- The ceiling of the goal a buyer was given. -/
def Brain.ceilingPaise : Brain → Int
  | .scripted ceilingPaise => ceilingPaise
  | .llm goal _ => goal.ceilingPaise
  | .claude ceilingPaise _ => ceilingPaise

/-- A product that Claude's buyer goes on with passes the guardrail. -/
theorem resolveClaudeChoice_within {pick : Option ClaudePick} {candidates : List FeedProduct}
    {ceilingPaise : Int} {product : FeedProduct}
    (h : resolveClaudeChoice pick candidates ceilingPaise = some product) :
    product ∈ candidates ∧ product.availability = .in_stock ∧ product.pricePaise ≤ ceilingPaise := by
  unfold resolveClaudeChoice at h
  split at h
  · exact fallbackPick_within h
  split at h
  · exact fallbackPick_within h
  rename_i chosen hfind
  split at h
  · exact fallbackPick_within h
  rename_i hstock
  split at h
  · exact fallbackPick_within h
  rename_i hprice
  obtain rfl := Option.some.inj h
  exact ⟨List.mem_of_find?_eq_some hfind, not_not.mp hstock, not_lt.mp hprice⟩

/-- So does one that the LLM's goes on with. -/
theorem chooseProduct_within {candidates : List FeedProduct} {goal : ChooseProductGoal} {chat : ChatClient}
    {product : FeedProduct} (h : (chooseProduct candidates goal chat).product = some product) :
    product ∈ candidates ∧ product.availability = .in_stock ∧ product.pricePaise ≤ goal.ceilingPaise := by
  by_cases hwithin : ∃ p, PicksWithin candidates goal (reply chat goal candidates) p
  · obtain ⟨p, hp⟩ := hwithin
    have hsame : p = product := by
      rw [chooseProduct_of_within hp] at h
      split at h
      · exact Option.some.inj h
      split at h
      · cases h
      · exact Option.some.inj h
    obtain ⟨⟨sku, -, hfind⟩, hstock, hprice⟩ := hp
    rw [← hsame]
    exact ⟨List.mem_of_find?_eq_some hfind, hstock, hprice⟩
  · rw [(chooseProduct_override fun p hp => hwithin ⟨p, hp⟩).1] at h
    exact fallbackPick_within h

/-- **Whatever a model replies, the choice is honest.** -/
theorem Brain.honest {brain : Brain} {candidates : List FeedProduct} {product : FeedProduct}
    {draft : CartDraft} (h : brain.choose candidates = .ok (some (product, draft))) :
    HonestChoice brain.ceilingPaise candidates product draft := by
  obtain ⟨chosen, variantId, hchosen, hcart⟩ : ∃ chosen variantId,
      (chosen ∈ candidates ∧ chosen.availability = .in_stock ∧ chosen.pricePaise ≤ brain.ceilingPaise) ∧
        proposeCart chosen variantId = .ok (some (product, draft)) := by
    cases brain with
    | scripted ceilingPaise =>
      rw [Brain.choose, scriptedChoice] at h
      split at h
      · cases h
      · rename_i chosen hpick
        exact ⟨chosen, none, fallbackPick_within hpick, h⟩
    | llm goal chat =>
      rw [Brain.choose, llmChoice] at h
      split at h
      · cases h
      · rename_i chosen hpick
        exact ⟨chosen, _, chooseProduct_within hpick, h⟩
    | claude ceilingPaise text =>
      rw [Brain.choose, claudeChoice] at h
      split at h
      · cases h
      · rename_i chosen hpick
        exact ⟨chosen, none, resolveClaudeChoice_within hpick, h⟩
  obtain ⟨rfl, hmerchant, ⟨item, hitem⟩, htotal⟩ := proposeCart_ok hcart
  exact ⟨hchosen.1, hchosen.2.1, hchosen.2.2, hmerchant, ⟨variantId, item, hitem⟩, htotal⟩

/-! ## Under the facilitator -/

/-- The call of `requestPayment` in `s` for a draft: it is signed, POSTed under some key at some time from
    then on, and polled until `t`. -/
inductive PaidBy (env : Env) (intent : IntentMandate) (agent : AgentKeypair) (s t : Sys) (draft : CartDraft) :
    SettlementResult → Prop where
  | answered {uuid key : JsString} {cart : CartMandate} {u v : Sys} {status : Nat}
      {body : CreateSettlementBody} {readings : List Reading}
      (hsign : signCart env.crypto uuid draft intent agent = .ok cart)
      (run : Run (facilitator env) anyStep s u) (hreply : Replies env key intent cart u v status body)
      (hpolled : Polled env (body.settlementId?.getD []) v readings t) :
      PaidBy env intent agent s t draft (requestPayment status body readings)

theorem PaidBy.run {env : Env} {intent : IntentMandate} {agent : AgentKeypair} {s t : Sys}
    {draft : CartDraft} {result : SettlementResult} (h : PaidBy env intent agent s t draft result) :
    Run (facilitator env) anyStep s t := by
  cases h with
  | answered hsign run hreply hpolled => exact run.trans (hreply.run.trans hpolled.run)

/-- A charge for a draft met the whole law of the gate on the stored rows, in some state on the way. -/
def ChargedLawfully (env : Env) (intent : IntentMandate) (draft : CartDraft) (t : Sys)
    (settlementId : JsString) : Prop :=
  ∃ u row m, Reachable env u ∧ Run (facilitator env) anyStep u t ∧ row ∈ u.world.db.settlements.rows ∧
    row.id = settlementId ∧ row.mandateId = intent.mandateId ∧
    Lawful env.crypto u.world.db u.clock row m ∧ row.cart.merchantId = draft.merchantId ∧
    row.cart.items = draft.items ∧ row.cart.totalPaise = draft.totalPaise

/-- The settlement was created for a body that collides with the one the buyer sent for its draft. -/
def MadeForAnother (env : Env) (intent : IntentMandate) (agent : AgentKeypair) (draft : CartDraft) (t : Sys)
    (settlementId : JsString) : Prop :=
  ∃ uuid cart, signCart env.crypto uuid draft intent agent = .ok cart ∧
    ∃ r ∈ t.world.db.settlements.rows, r.id = settlementId ∧
      ∃ intent', r.mandateId = intent'.mandateId ∧ BodiesCollide env intent intent' cart r.cart

/-- A captured settlement was charged by the law, and its row has been the same since. -/
theorem Reachable.lawful_of_captured {env : Env} {t : Sys} (ht : Reachable env t) {r : SettlementRow}
    (hr : r ∈ t.world.db.settlements.rows) (hcaptured : r.state = .captured) :
    ∃ u row m, Reachable env u ∧ Run (facilitator env) anyStep u t ∧ row ∈ u.world.db.settlements.rows ∧
      Lawful env.crypto u.world.db u.clock row m ∧ SettlementKept row r := by
  obtain ⟨s₁, a, s₂, hreach, hstep, henters, -, hrun⟩ :=
    ht.entry r.id ⟨r, hr, rfl, by rw [hcaptured]; rfl⟩
  obtain ⟨⟨row, hrow, m, hid, hlaw⟩, -⟩ := lawful_of_entered hreach hstep
    (henters.not_entered (persists_step hstep).settlements) henters.2.entered
  have hwhole : Run (facilitator env) anyStep s₁ t := Run.trans (Run.single trivial hstep) hrun
  obtain ⟨r', hr', hkept⟩ := (persists_run hwhole).settlements row hrow
  have hsame : r' = r := settlement_eq hr' hr (hkept.id.trans hid)
  rw [hsame] at hkept
  exact ⟨s₁, row, m, hreach, hwhole, hrow, hlaw, hkept⟩

/-- **What a call reports as captured is captured for good, and was charged by the law.** -/
theorem PaidBy.captured {env : Env} {intent : IntentMandate} {agent : AgentKeypair} {s t : Sys}
    {draft : CartDraft} {result : SettlementResult} (hs : Reachable env s)
    (h : PaidBy env intent agent s t draft result) (hcaptured : result.state = .captured) :
    (∀ w, Run (facilitator env) anyStep t w →
      ∃ r ∈ w.world.db.settlements.rows, r.id = result.settlementId ∧ r.state = .captured) ∧
    (ChargedLawfully env intent draft t result.settlementId ∨
      MadeForAnother env intent agent draft t result.settlementId) := by
  cases h with
  | @answered uuid key cart u v status body readings hsign run hreply hpolled =>
    have hu : Reachable env u := Run.trans hs run
    have ht : Reachable env t := Run.trans hu (hreply.run.trans hpolled.run)
    have hhonest := requestPayment_honest hu hreply hpolled
    have hsome : body.settlementId?.isSome = true := by
      cases body with
      | ok settlementId state reason => rfl
      | error code =>
        rw [requestPayment] at hcaptured
        dsimp only at hcaptured
        split at hcaptured
        · cases hcaptured
        · cases hcaptured
    have hfinal := hhonest.final hsome (by rw [hcaptured]; rfl)
    rw [hcaptured] at hfinal
    refine ⟨hfinal, ?_⟩
    obtain ⟨r, hr, hid, hstate⟩ := hfinal t .refl
    obtain ⟨r', hr', hid', hbought⟩ := hhonest.boughtFor ht hsome
    obtain rfl : r' = r := settlement_eq hr' hr (hid'.trans hid.symm)
    rcases hbought with ⟨hmandate, hcart, -⟩ | ⟨intent', hmandate, hcollide⟩
    · obtain ⟨s₁, row, m, hreach, hrun, hrow, hlaw, hkept⟩ := ht.lawful_of_captured hr hstate
      obtain ⟨hmerchant, hitems, htotal, -⟩ := signCart_ok hsign
      have hsame : row.cart = cart := hkept.cart.symm.trans hcart
      refine Or.inl ⟨s₁, row, m, hreach, hrun, hrow, hkept.id.symm.trans hid,
        hkept.mandateId.symm.trans hmandate, hlaw, ?_, ?_, ?_⟩
      · rw [hsame, hmerchant]
      · rw [hsame, hitems]
      · rw [hsame, htotal]
    · exact Or.inr ⟨uuid, cart, hsign, r', hr, hid, intent', hmandate, hcollide⟩

/-- A purchase completes on the result of its call. -/
theorem purchase_completed {choice : Choice} {pay : CartDraft → SettlementResult} {product : FeedProduct}
    {result : SettlementResult} (h : purchase choice pay = .ok (.completed product result)) :
    ∃ draft, choice = .ok (some (product, draft)) ∧ result = pay draft ∧ result.state = .captured := by
  unfold purchase at h
  cases choice with
  | error e => cases h
  | ok chosen =>
    cases chosen with
    | none => cases h
    | some pair =>
      obtain ⟨chosen, draft⟩ := pair
      have houtcome : toOutcome (pay draft) chosen = .completed product result := Except.ok.inj h
      unfold toOutcome at houtcome
      split at houtcome
      · rename_i hstate
        obtain ⟨rfl, rfl⟩ := PurchaseOutcome.completed.inj houtcome
        exact ⟨draft, rfl, rfl, hstate⟩
      split at houtcome
      · cases houtcome
      · cases houtcome

/-- **A completed purchase was lawful**, whatever the model behind the buyer replied and whatever the
    facilitator did for others: one unit of a candidate in stock, from its own merchant at its listed
    price, captured for good, and charged when the whole law of the gate held for it. -/
theorem completed_purchase_is_lawful {env : Env} {intent : IntentMandate} {agent : AgentKeypair} {s t : Sys}
    {brain : Brain} {candidates : List FeedProduct} {pay : CartDraft → SettlementResult}
    {product : FeedProduct} {result : SettlementResult} (hs : Reachable env s)
    (hpay : ∀ product draft, brain.choose candidates = .ok (some (product, draft)) →
      PaidBy env intent agent s t draft (pay draft))
    (h : brain.run candidates pay = .ok (.completed product result)) :
    ∃ draft, HonestChoice brain.ceilingPaise candidates product draft ∧
      (∀ w, Run (facilitator env) anyStep t w →
        ∃ r ∈ w.world.db.settlements.rows, r.id = result.settlementId ∧ r.state = .captured) ∧
      (ChargedLawfully env intent draft t result.settlementId ∨
        MadeForAnother env intent agent draft t result.settlementId) := by
  rw [Brain.run_eq] at h
  obtain ⟨draft, hchoice, rfl, hcaptured⟩ := purchase_completed h
  exact ⟨draft, brain.honest hchoice, (hpay product draft hchoice).captured hs hcaptured⟩

/-- One bag of rice, in the demo buyer's cart. -/
def demoRiceCart : CartMandate :=
  { demoCart with items := [⟨js "rice", 1, 200, none, none⟩], totalPaise := 200 }

/-- The cart has been sent, and its key is claimed. -/
def demoClaimed (cart : CartMandate) : List Act :=
  demoRegistered ++ [.request (.postSettlements (some (js "key")) demoIntent cart) []]

/-- The demo request of this cart is about to be answered with this body. -/
def demoAnswers (cart : CartMandate) (body : CreateSettlementBody) (u : Sys) : Bool :=
  (match u.cpu with
    | some (.settlementClaimed key intent claimed) =>
      decide (key = js "key" ∧ intent = demoIntent ∧ claimed = cart)
    | _ => false) &&
  decide (u.world.history = []) &&
  (sysStep demoEnv u (.runTask (js "s1"))).any fun (v : Sys) =>
    decide (v.world.history.head? = some (.settlementResponse (js "key") 202 body))

theorem replies_of_demoAnswers {cart : CartMandate} {body : CreateSettlementBody} {u : Sys}
    (h : demoAnswers cart body u = true) : ∃ v, sysStep demoEnv u (.runTask (js "s1")) = some v ∧
      Replies demoEnv (js "key") demoIntent cart u v 202 body := by
  rw [demoAnswers, Bool.and_eq_true, Bool.and_eq_true, decide_eq_true_eq] at h
  obtain ⟨⟨hcpu, hquiet⟩, htold⟩ := h
  obtain ⟨v, hstep, htold⟩ := (Option.any_eq_true _ _).mp htold
  rw [decide_eq_true_eq] at htold
  obtain ⟨earlier, htold⟩ := List.head?_eq_some_iff.mp htold
  refine ⟨v, hstep, Or.inr ⟨?_, js "s1", hstep⟩, earlier, htold, by rw [hquiet]; exact List.nil_suffix⟩
  split at hcpu
  · rename_i key intent claimed heq
    rw [decide_eq_true_eq] at hcpu
    obtain ⟨rfl, rfl, rfl⟩ := hcpu
    exact heq
  · cases hcpu

/-- The executor's run for the demo settlement, up to its capture. -/
def demoDelivered : List Act :=
  [.startJob [], .runJob (js "a1"), .runJob [], .resumeJob (.order (.ok (js "o1"))), .runJob [],
    .resumeJob (.checkout (.ok ⟨true, some (js "p1"), some (js "captured"), none⟩)), .endJob]

theorem completed_purchase_is_lawful_demo : ∃ (u w : Sys) (draft : CartDraft), Reachable demoEnv u ∧
    Run (facilitator demoEnv) anyStep u w ∧ HonestChoice 1000 [demoRice] demoRice draft ∧
    (ChargedLawfully demoEnv demoIntent draft w (js "s1") ∨
      MadeForAnother demoEnv demoIntent demoAgent draft w (js "s1")) := by
  obtain ⟨u, hreach, hp⟩ := reachable_of_run demoEnv (demoClaimed demoRiceCart)
    (fun (u : Sys) => demoAnswers demoRiceCart (.ok (js "s1") .approved none) u &&
      (sysStep demoEnv u (.runTask (js "s1"))).any fun (v : Sys) =>
        (run (facilitator demoEnv) v demoDelivered).any fun (w : Sys) =>
          decide (readSettlement w.world.db (js "s1") = some (.captured, none)))
    (by decide +kernel)
  rw [Bool.and_eq_true] at hp
  obtain ⟨hanswers, hdelivered⟩ := hp
  obtain ⟨v, hstep, hreply⟩ := replies_of_demoAnswers hanswers
  rw [hstep, Option.any_some] at hdelivered
  obtain ⟨w, hrun, hread⟩ := (Option.any_eq_true _ _).mp hdelivered
  rw [decide_eq_true_eq] at hread
  have hpolled : Polled demoEnv (js "s1") v [readSettlement w.world.db (js "s1")] w :=
    .read (Run.of_run hrun) (.stop .refl)
  rw [hread] at hpolled
  have hchoice : (Brain.scripted 1000).choose [demoRice] =
      .ok (some (demoRice, ⟨js "shop", [⟨js "rice", 1, 200, none, none⟩], 200, none⟩)) := by rfl
  have hpay : ∀ product draft, (Brain.scripted 1000).choose [demoRice] = .ok (some (product, draft)) →
      PaidBy demoEnv demoIntent demoAgent u w draft
        (requestPayment 202 (.ok (js "s1") .approved none) [some (.captured, none)]) := by
    intro product draft h
    rw [hchoice] at h
    obtain ⟨rfl, rfl⟩ := Prod.mk.inj (Option.some.inj (Except.ok.inj h))
    have hsign : signCart demoEnv.crypto (js "c1")
        ⟨js "shop", [⟨js "rice", 1, 200, none, none⟩], 200, none⟩ demoIntent demoAgent =
          .ok demoRiceCart := by rfl
    exact .answered hsign .refl hreply hpolled
  have hdone : (Brain.scripted 1000).run [demoRice]
      (fun _ => requestPayment 202 (.ok (js "s1") .approved none) [some (.captured, none)]) =
        .ok (.completed demoRice ⟨js "s1", .captured, none⟩) := by
    rw [Brain.run_eq, hchoice]
    rfl
  obtain ⟨draft, hhonest, -, hlawful⟩ := completed_purchase_is_lawful hreach hpay hdone
  exact ⟨u, w, draft, hreach, hreply.run.trans hpolled.run, hhonest, hlawful⟩

/-- **A fooled purchase never completes.**  A buyer takes the merchant and the price from what a listing
    injects, and the stored mandate does not name that merchant: the outcome is no completed purchase,
    or the settlement told was created for a colliding body. -/
theorem fooled_purchase_never_completes {env : Env} {intent : IntentMandate} {agent : AgentKeypair}
    {s t : Sys} {candidates : List FeedProduct} {pay : CartDraft → SettlementResult} {m : MandateRow}
    {poisoned : FeedProduct} {injected : InjectedPayload} (hs : Reachable env s)
    (hfind : findPoisoned candidates = some (poisoned, injected))
    (hpay : PaidBy env intent agent s t (injectedDraft poisoned injected)
      (pay (injectedDraft poisoned injected)))
    (hm : m ∈ s.world.db.mandates.rows) (hid : m.mandateId = intent.mandateId)
    (hforged : injected.merchantId ∉ m.intent.merchants) :
    (∀ product result, runAdversarialPurchase candidates pay ≠ .ok (.completed product result)) ∨
      MadeForAnother env intent agent (injectedDraft poisoned injected) t
        (pay (injectedDraft poisoned injected)).settlementId := by
  rw [or_iff_not_imp_right]
  intro hsame product result h
  obtain ⟨draft, hchoice, rfl, hcaptured⟩ := purchase_completed h
  rw [adversarialChoice, hfind] at hchoice
  obtain ⟨rfl, rfl⟩ := Prod.mk.inj (Option.some.inj (Except.ok.inj hchoice))
  obtain ⟨u, row, stored, hreach, hrun, hrow, hname, hmandate, hlaw, hmerchant, -⟩ :=
    (hpay.captured hs hcaptured).2.resolve_right hsame
  -- the mandate the charge was checked against is the one that is stored in `s`
  obtain ⟨hstored, hstoredId⟩ := getMandateRow_some hlaw.mandate
  obtain ⟨m₁, hm₁, hkept₁⟩ := (persists_run hpay.run).mandates m hm
  obtain ⟨m₂, hm₂, hkept₂⟩ := (persists_run hrun).mandates stored hstored
  have heq : m₁ = m₂ := by
    refine mandate_eq hm₁ hm₂ ?_
    rw [hkept₁.id, hkept₂.id, hid, hstoredId, hmandate]
  have hintent : stored.intent = m.intent := by
    rw [← hkept₂.intent, ← heq, hkept₁.intent]
  have hscope := hlaw.merchant
  rw [hintent, hmerchant] at hscope
  exact hforged hscope

/-- The demo store's feed with the facilitator's poisoned listing. -/
def demoPoisoned : List FeedProduct := [demoRice, buildPoisonProduct [demoRice]]

def demoInjectedCart : CartMandate :=
  { demoCart with
    merchantId := js "attacker-store", items := [⟨js "poison-attacker", 1, 200, none, none⟩]
    totalPaise := 200 }

theorem fooled_purchase_never_completes_demo : ∃ (u v : Sys) (result : SettlementResult),
    Reachable demoEnv u ∧ result.reason = some (js "MERCHANT_NOT_IN_SCOPE") ∧
    ((∀ product outcome, runAdversarialPurchase demoPoisoned (fun _ => result) ≠
        .ok (.completed product outcome)) ∨
      MadeForAnother demoEnv demoIntent demoAgent
        (injectedDraft (buildPoisonProduct [demoRice]) ⟨js "attacker-store", 200⟩) v result.settlementId) := by
  obtain ⟨u, hreach, hp⟩ := reachable_of_run demoEnv (demoClaimed demoInjectedCart)
    (fun (u : Sys) =>
      demoAnswers demoInjectedCart (.ok (js "s1") .rejected (some .MERCHANT_NOT_IN_SCOPE)) u &&
        u.world.db.mandates.rows.any fun m => decide (m.mandateId = js "m1" ∧ m.intent = demoIntent))
    (by decide +kernel)
  rw [Bool.and_eq_true] at hp
  obtain ⟨hanswers, hregistered⟩ := hp
  obtain ⟨v, -, hreply⟩ := replies_of_demoAnswers hanswers
  obtain ⟨m, hm, hmandate⟩ := List.any_eq_true.mp hregistered
  rw [decide_eq_true_eq] at hmandate
  have hsign : signCart demoEnv.crypto (js "c1")
      (injectedDraft (buildPoisonProduct [demoRice]) ⟨js "attacker-store", 200⟩) demoIntent demoAgent =
        .ok demoInjectedCart := by rfl
  have hforged : js "attacker-store" ∉ m.intent.merchants := by
    rw [hmandate.2]
    decide
  have hpolled : Polled demoEnv (js "s1") v [] v := .stop .refl
  exact ⟨u, v, _, hreach, rfl, fooled_purchase_never_completes hreach rfl
    (.answered hsign .refl hreply hpolled) hm hmandate.1 hforged⟩

end Hundi
