/-
  packages/mcp-server/src/tools/request-purchase.ts — the handler of request_purchase: what it asks the
  facilitator for, and what it tells the agent.

  1. **Program** — `planPurchase` runs up to the call of `requestPayment`, `reportPurchase` from its
     result on.
  2. **What is told is true** — `purchase_report_is_true`: of a purchase that was asked for and that the
     route has answered, one told as captured is captured and stays so, for the amount told and with the
     payment id told; one told as not completed never is.
  3. **What is asked is in order** — `purchase_refused_for_policy`: the gate refuses it on the grounds of
     policy or price only.

  `toLowerCase` and `formatRupees` are arguments, as for `resolveVariant`.
-/
import Hundi.Buyer.RequestPayment
import Hundi.McpServer.GetOrder
import Hundi.McpServer.RequestPurchase
import Hundi.Core.HexEncoding
import Hundi.Facilitator.CaptureRecord
import Hundi.Facilitator.DryRun
import Hundi.Facilitator.Refund

namespace Hundi

open Js EventLoop

/-! ## The program -/

/-- The arguments of request_purchase. -/
structure PurchaseArgs where
  merchantId : JsString
  sku : JsString
  qty : Int
  mandateId : JsString
  choice : VariantRequest
  maxPricePaise : Option Int
  idempotencyToken : Option JsString

/-- What the handler has come to when it asks for payment, or reports that it does not. -/
inductive PurchasePlan where
  | refused (reason message : JsString)
  | asks (intent : IntentMandate) (cart : CartDraft) (product : FeedProduct)
      (variant : Option ScannedVariant) (idempotencyKey : Option JsString)

/-- What the handler reports of a purchase it has asked for. -/
inductive PurchaseReport where
  | captured (settlementId : JsString) (paymentId : Option JsString) (amountPaise : Int)
      (variant : Option (JsString × JsString)) (message : JsString)
  | pendingApproval (settlementId : JsString) (amountPaise : Int) (message : JsString)
  | ambiguous (reason message : JsString)
  | uncaptured (state : SettlementState) (settlementId reason : Option JsString) (message : JsString)

/-- `findAuthorizedMandate(mandates, mandateId, agentPublicKeyHex, merchantId)`; `error` is the text of
    what it throws. -/
def findAuthorizedMandate (mandates : List MandateListing)
    (mandateId agentPublicKeyHex merchantId : JsString) : Except JsString MandateListing :=
  match mandates.find? fun m => m.mandateId == mandateId with
  | none => .error (js "No mandate found with id \"" ++ mandateId ++
      js "\". Call get_agent_identity to see mandates that currently authorize this agent.")
  | some record =>
    if record.intent.agentPubkeyHex ≠ agentPublicKeyHex then
      .error (js "Mandate \"" ++ mandateId ++ js ("\" does not authorize this agent's key — it authorizes " ++
        "a different agent. This server can only spend under a mandate issued to its own public key " ++
        "(see get_agent_identity)."))
    else if record.revokedAt.isSome then
      .error (js "Mandate \"" ++ mandateId ++ js "\" has been revoked and can no longer be used.")
    else if !record.intent.merchants.contains merchantId then
      .error (js "Mandate \"" ++ mandateId ++ js "\" does not authorize purchases from merchant \"" ++
        merchantId ++ js "\". Authorized merchants: " ++ join (js ", ") record.intent.merchants ++ js ".")
    else .ok record

/-- `findProduct(products, sku, merchantId)`. -/
def findProduct (products : List FeedProduct) (sku merchantId : JsString) : Except JsString FeedProduct :=
  match products.find? fun p => p.id == sku with
  | some product => .ok product
  | none => .error (js "No product with sku \"" ++ sku ++ js "\" found in merchant \"" ++ merchantId ++
      js "\"'s catalog. Call search_products to see what is available.")

/-- `token ? sha256Hex(canonicalJson({ [label]: token })) : undefined`. -/
def fromToken (crypto : Crypto) (label : JsString) (token : Option JsString) :
    Except JsString (Option JsString) :=
  match givenId token with
  | none => .ok none
  | some token =>
    match canonicalJson (.obj [(label, .str token)]) with
    | .ok bytes => .ok (some (crypto.sha256Hex bytes))
    | .error err => .error (errMessage err)

section Program

variable (toLowerCase : JsString → JsString) (formatRupees : Int → JsString)

/-- The handler up to its call of `requestPayment`. -/
def planPurchase (crypto : Crypto) (agentPublicKeyHex : JsString) (mandates : List MandateListing)
    (products : List FeedProduct) (args : PurchaseArgs) : Except JsString PurchasePlan := do
  let record ← findAuthorizedMandate mandates args.mandateId agentPublicKeyHex args.merchantId
  let product ← findProduct products args.sku args.merchantId
  match resolveVariant toLowerCase formatRupees product args.choice with
  | .error message => return .refused (js "VARIANT_NOT_FOUND") message
  | .ok variant => do
    let cartId ← fromToken crypto (js "purchase_cart") args.idempotencyToken
    let idempotencyKey ← fromToken crypto (js "purchase_idem") args.idempotencyToken
    let cart ← buildCartDraft [⟨product, args.qty, variant.map (·.variantId)⟩] cartId
    match args.maxPricePaise.filter fun maxPricePaise => maxPricePaise < cart.totalPaise with
    | some maxPricePaise =>
      return .refused (js "MAX_PRICE_EXCEEDED")
        (js "The current total for " ++ showInt args.qty ++ js " x \"" ++ product.title ++ js "\" is " ++
          formatRupees cart.totalPaise ++ js ", above your max of " ++ formatRupees maxPricePaise ++
          js ". Nothing was charged. Re-confirm the new price with the user before retrying.")
    | none => return .asks record.intent cart product variant idempotencyKey

/-- `['rejected', 'failed', 'abandoned']`. -/
def notCompletedStates : List SettlementState := [.rejected, .failed, .abandoned]

/-- The handler from the result of `requestPayment` on; `detail` is what it reads of the settlement of a
    captured result. -/
def reportPurchase (qty : Int) (title : JsString) (variant : Option ScannedVariant) (totalPaise : Int)
    (result : SettlementResult) (detail : Option SettlementDetail) : PurchaseReport :=
  if result.state = .captured then
    .captured result.settlementId
      ((detail.bind fun d => d.attempts.find? fun a => a.state == .captured).bind (·.providerPaymentId))
      totalPaise (variant.map fun v => (v.variantId, v.label))
      (js "Captured: " ++ showInt qty ++ js " x \"" ++ title ++ js "\"" ++
        (match variant with
          | some v => js " (" ++ v.label ++ js ")"
          | none => []) ++
        js " for " ++ formatRupees totalPaise ++ js ".")
  else if result.state = .pending_approval then
    .pendingApproval result.settlementId totalPaise
      (js "This " ++ formatRupees totalPaise ++ js (" purchase exceeds the mandate's auto-approval " ++
        "threshold. A human must approve it in the Hundi dashboard — Pending approvals tab — before it " ++
        "will be charged. This tool will not check back on its own; call get_order with this " ++
        "settlement_id later to see whether it was approved."))
  else if result.reason = some (js "IN_FLIGHT") ∨ result.reason = some (js "KEY_REUSED") then
    .ambiguous (result.reason.getD [])
      (js "Purchase outcome is ambiguous (" ++ result.reason.getD [] ++ js (") — an earlier attempt for " ++
        "this same purchase may still be processing or may already have captured. Do NOT tell the user " ++
        "nothing was charged, and do NOT retry with a new idempotency_token (that risks a duplicate " ++
        "charge). If you have a settlement_id from an earlier response for this same purchase, call " ++
        "get_order with it to check the real outcome before doing anything else."))
  else
    .uncaptured result.state (givenId (some result.settlementId)) result.reason
      (if notCompletedStates.contains result.state then
        js "Not completed (" ++ result.state.text ++ js ")" ++
          (match givenId result.reason with
            | some reason => js ": " ++ reason
            | none => []) ++ js "."
      else
        js "Still processing (" ++ result.state.text ++ js ("). Call get_order with this settlement_id in " ++
          "a few seconds to check whether it reached a final state."))

end Program

/-! ## What is told is true -/

/-- What a report is worth: `s'` is the state of the answer to the POST, `t` the one the polling ends in,
    `v` the one the receipt is read in. -/
structure ReportTrue (env : Env) (key : JsString) (intent : IntentMandate) (cart : CartMandate)
    (s' t v : Sys) (body : CreateSettlementBody) (report : PurchaseReport) : Prop where
  /-- What is told as captured is captured from then on, by the payment told, for the amount told. -/
  captured : ∀ settlementId paymentId amountPaise variant message,
    report = .captured settlementId paymentId amountPaise variant message →
    (∀ w, Run (facilitator env) anyStep t w →
      ∃ r ∈ w.world.db.settlements.rows, r.id = settlementId ∧ r.state = .captured) ∧
    (∃ a ∈ v.world.db.attempts.rows, a.settlementId = settlementId ∧ a.state = .captured ∧
      paymentId.isSome = true ∧ a.providerPaymentId = paymentId) ∧
    BoughtFor env intent cart t settlementId amountPaise
  pendingApproval : ∀ settlementId amountPaise message,
    report = .pendingApproval settlementId amountPaise message →
    BoughtFor env intent cart t settlementId amountPaise
  /-- What is told as not completed, with a settlement, has ended so. -/
  notCompleted : ∀ state settlementId reason message,
    report = .uncaptured state (some settlementId) reason message → state ∈ notCompletedStates →
    ∀ w, Run (facilitator env) anyStep t w →
      ∃ r ∈ w.world.db.settlements.rows, r.id = settlementId ∧ r.state = state
  /-- What is told as not completed, without a settlement, has none: no step of any run creates one under
      the key, before or after. -/
  nothing : ∀ state reason message, report = .uncaptured state none reason message →
    state ∈ notCompletedStates →
    ∀ u a u', Reachable env u → sysStep env u a = some u' → CreatesUnder key u u' →
      ¬ Run (facilitator env) anyStep u' t ∧ ¬ Run (facilitator env) anyStep t u
  /-- What is told as ambiguous is of a key that another request has claimed, or this one before. -/
  ambiguous : ∀ reason message, report = .ambiguous reason message → body.settlementId? = none →
    ∃ row ∈ s'.world.db.idempotencyKeys.rows, row.key = key ∧
      (requestHash env intent cart ≠ .ok row.requestHashHex ∨ row.responseStatus = none ∨
        row.responseBody = none)

/-- The only element of a list that passes is the first. -/
theorem find?_only {α : Type} {p : α → Bool} {l : List α} {a : α} (ha : a ∈ l) (hp : p a = true)
    (honly : ∀ b ∈ l, p b = true → b = a) : l.find? p = some a := by
  obtain ⟨b, hb⟩ := Option.isSome_iff_exists.mp (List.find?_isSome.mpr ⟨a, ha, hp⟩)
  rw [hb, honly b (List.mem_of_find?_eq_some hb) (List.find?_some hb)]

/-- The receipt of a captured settlement has the payment of its captured attempt. -/
theorem captured_payment {env : Env} {v : Sys} {settlementId : JsString} (hv : Reachable env v)
    (hcaptured : ∃ r ∈ v.world.db.settlements.rows, r.id = settlementId ∧ r.state = .captured) :
    ∃ a ∈ v.world.db.attempts.rows, a.settlementId = settlementId ∧ a.state = .captured ∧
      a.providerPaymentId.isSome = true ∧
      (((getSettlementDetail v.world.db settlementId).bind fun d =>
        d.attempts.find? fun a => a.state == .captured).bind (·.providerPaymentId)) =
        a.providerPaymentId := by
  obtain ⟨r, hr, rfl, hstate⟩ := hcaptured
  obtain ⟨a, ha, hof, hcap⟩ := hv.sound.capturedBy r hr hstate
  obtain ⟨row, -, paymentId, orderId, hpaid, -⟩ := hv.capturesRecorded a ha hcap
  refine ⟨a, ha, hof, hcap, by rw [hpaid]; rfl, ?_⟩
  have hsettlement : getSettlement v.world.db r.id = some r :=
    Table.find?_eq_some hr (beq_self_eq_true _) fun r' hr' hid =>
      settlement_eq hr' hr (beq_iff_eq.mp hid)
  rw [getSettlementDetail, hsettlement, Option.map_some, Option.bind_some]
  dsimp only
  -- the captured attempt is the only one, wherever its age has put it
  have hfind := find?_only (p := fun a : AttemptRow => a.state == .captured)
    (l := (v.world.db.attempts.rows.filter fun row => row.settlementId == r.id).mergeSort
      fun a b => decide (a.createdAt ≤ b.createdAt)) (a := a)
    (by rw [List.mem_mergeSort, List.mem_filter, beq_iff_eq]; exact ⟨ha, hof⟩) (beq_iff_eq.mpr hcap)
    (by
      intro b hb hbcap
      rw [List.mem_mergeSort, List.mem_filter, beq_iff_eq] at hb
      exact captured_attempt_eq hb.1 ha (beq_iff_eq.mp hbcap) hcap (hb.2.trans hof.symm))
  rw [hfind, Option.bind_some]

/-! ### Which result a report is of -/

section Reports

variable {formatRupees : Int → JsString} {qty : Int} {title : JsString} {chosen : Option ScannedVariant}
  {totalPaise : Int} {result : SettlementResult} {detail : Option SettlementDetail}

theorem reportPurchase_captured {settlementId : JsString} {paymentId : Option JsString} {amountPaise : Int}
    {variant : Option (JsString × JsString)} {message : JsString}
    (h : reportPurchase formatRupees qty title chosen totalPaise result detail =
      .captured settlementId paymentId amountPaise variant message) :
    result.state = .captured ∧ result.settlementId = settlementId ∧ totalPaise = amountPaise ∧
      ((detail.bind fun d => d.attempts.find? fun a => a.state == .captured).bind
        (·.providerPaymentId)) = paymentId := by
  unfold reportPurchase at h
  split at h
  · rename_i hstate
    obtain ⟨hid, hpaid, hamount, -, -⟩ := PurchaseReport.captured.inj h
    exact ⟨hstate, hid, hamount, hpaid⟩
  split at h
  · cases h
  split at h
  · cases h
  · cases h

theorem reportPurchase_pendingApproval {settlementId : JsString} {amountPaise : Int} {message : JsString}
    (h : reportPurchase formatRupees qty title chosen totalPaise result detail =
      .pendingApproval settlementId amountPaise message) :
    result.state = .pending_approval ∧ result.settlementId = settlementId ∧ totalPaise = amountPaise := by
  unfold reportPurchase at h
  split at h
  · cases h
  split at h
  · rename_i hstate
    obtain ⟨hid, hamount, -⟩ := PurchaseReport.pendingApproval.inj h
    exact ⟨hstate, hid, hamount⟩
  split at h
  · cases h
  · cases h

theorem reportPurchase_ambiguous {reason message : JsString}
    (h : reportPurchase formatRupees qty title chosen totalPaise result detail =
      .ambiguous reason message) :
    result.reason = some (js "IN_FLIGHT") ∨ result.reason = some (js "KEY_REUSED") := by
  unfold reportPurchase at h
  split at h
  · cases h
  split at h
  · cases h
  split at h
  · assumption
  · cases h

theorem reportPurchase_uncaptured {state : SettlementState} {settlementId reason : Option JsString}
    {message : JsString}
    (h : reportPurchase formatRupees qty title chosen totalPaise result detail =
      .uncaptured state settlementId reason message) :
    result.state = state ∧ givenId (some result.settlementId) = settlementId := by
  unfold reportPurchase at h
  split at h
  · cases h
  split at h
  · cases h
  split at h
  · cases h
  · obtain ⟨hstate, hid, -, -⟩ := PurchaseReport.uncaptured.inj h
    exact ⟨hstate, hid⟩

end Reports

theorem requestPayment_error (status : Nat) (code : JsString) (readings : List Reading) :
    (requestPayment status (.error code) readings).settlementId = [] ∧
      ((requestPayment status (.error code) readings).state = .created ∨
        (requestPayment status (.error code) readings).state = .rejected) := by
  rw [requestPayment]
  split
  · exact ⟨rfl, Or.inl rfl⟩
  · exact ⟨rfl, Or.inr rfl⟩

/-- **What the tool tells of a purchase it has asked for is true**, once the route has answered its
    POST: whatever the facilitator did for others in between, crashed or not, and however many of the
    readings failed. -/
theorem purchase_report_is_true {env : Env} {key : JsString} {intent : IntentMandate} {cart : CartMandate}
    {s s' t v : Sys} {status : Nat} {body : CreateSettlementBody} {readings : List Reading}
    (formatRupees : Int → JsString) (qty : Int) (title : JsString) (variant : Option ScannedVariant)
    (hs : Reachable env s) (hreply : Replies env key intent cart s s' status body)
    (hnamed : body.settlementId? ≠ some [])
    (hpolled : Polled env (body.settlementId?.getD []) s' readings t)
    (hread : Run (facilitator env) anyStep t v) :
    ReportTrue env key intent cart s' t v body
      (reportPurchase formatRupees qty title variant cart.totalPaise (requestPayment status body readings)
        (getSettlementDetail v.world.db (requestPayment status body readings).settlementId)) := by
  have hhonest := requestPayment_honest hs hreply hpolled
  have ht : Reachable env t := Run.trans hs (hreply.run.trans hpolled.run)
  have hv : Reachable env v := Run.trans ht hread
  -- only an answer that names a settlement leads to a state beyond a rejection
  have hsome : ∀ state, (requestPayment status body readings).state = state → state ≠ .created →
      state ≠ .rejected → body.settlementId?.isSome = true := by
    intro state hstate hcreated hrejected
    cases body with
    | ok settlementId state reason => rfl
    | error code =>
      rcases (requestPayment_error status code readings).2 with h | h
      · exact absurd (hstate.symm.trans h) hcreated
      · exact absurd (hstate.symm.trans h) hrejected
  have hid : ∀ settlementId, givenId (some (requestPayment status body readings).settlementId) =
      some settlementId → body.settlementId?.isSome = true := by
    intro settlementId hgiven
    cases body with
    | ok settlementId state reason => rfl
    | error code =>
      rw [(requestPayment_error status code readings).1] at hgiven
      cases hgiven
  constructor
  case captured =>
    intro settlementId paymentId amountPaise shown message h
    obtain ⟨hstate, rfl, rfl, hpaid⟩ := reportPurchase_captured h
    have hnames := hsome _ hstate (by decide) (by decide)
    have hfinal := hhonest.final hnames (by rw [hstate]; rfl)
    rw [hstate] at hfinal
    refine ⟨hfinal, ?_, hhonest.boughtFor ht hnames⟩
    obtain ⟨a, ha, hof, hcap, hgiven, hreceipt⟩ := captured_payment hv (hfinal v hread)
    rw [hreceipt] at hpaid
    exact ⟨a, ha, hof, hcap, by rw [← hpaid]; exact hgiven, hpaid⟩
  case pendingApproval =>
    intro settlementId amountPaise message h
    obtain ⟨hstate, rfl, rfl⟩ := reportPurchase_pendingApproval h
    exact hhonest.boughtFor ht (hsome _ hstate (by decide) (by decide))
  case notCompleted =>
    intro state settlementId reason message h hin
    obtain ⟨rfl, hgiven⟩ := reportPurchase_uncaptured h
    obtain ⟨hsettlement, -⟩ := givenId_eq_some.mp hgiven
    have hlive : (requestPayment status body readings).state.live = false := by
      rcases List.mem_cons.mp hin with h | hin
      · rw [h]
        rfl
      rcases List.mem_cons.mp hin with h | hin
      · rw [h]
        rfl
      · rw [List.mem_singleton.mp hin]
        rfl
    rw [← Option.some.inj hsettlement]
    exact hhonest.final (hid settlementId hgiven) hlive
  case nothing =>
    intro state reason message h hin
    obtain ⟨rfl, hgiven⟩ := reportPurchase_uncaptured h
    cases body with
    | ok settlementId state reason =>
      -- the id of a settlement is not empty
      have hsame := (hhonest.made settlementId rfl).1
      rw [hsame, givenId, Option.filter_some, if_pos] at hgiven
      · cases hgiven
      · rw [Bool.not_eq_true', List.isEmpty_eq_false_iff]
        exact fun hempty => hnamed (by rw [← hempty]; rfl)
    | error code =>
      refine hhonest.refused rfl ?_
      rcases (requestPayment_error status code readings).2 with h | h
      · rw [h] at hin
        exact absurd hin (by decide)
      · exact h
  case ambiguous =>
    intro reason message h hnone
    exact hhonest.contested hnone (Or.inr (reportPurchase_ambiguous h))

/-- The demo purchase is asked for again after its capture: the key's first answer is given, and the
    polling reads the capture. -/
theorem purchase_report_is_true_demo : ∃ s s' : Sys,
    Replies demoEnv (js "key") demoIntent demoCart s s' 202 (.ok (js "s1") .approved none) ∧
    ReportTrue demoEnv (js "key") demoIntent demoCart s' s' s' (.ok (js "s1") .approved none)
      (reportPurchase (fun _ => []) 1 (js "Tea") none demoCart.totalPaise ⟨js "s1", .captured, none⟩
        (getSettlementDetail s'.world.db (js "s1"))) := by
  obtain ⟨s, hreach, hp⟩ := reachable_of_run demoEnv demoCaptured
    (fun s => (sysStep demoEnv s
        (.request (.postSettlements (some (js "key")) demoIntent demoCart) [])).any fun (s' : Sys) =>
      decide (s'.world.history =
          .settlementResponse (js "key") 202 (.ok (js "s1") .approved none) :: s.world.history) &&
        decide (readSettlement s'.world.db (js "s1") = some (.captured, none)))
    (by decide +kernel)
  obtain ⟨s', hstep, hp⟩ := Option.any_eq_true _ _ |>.mp hp
  rw [Bool.and_eq_true, decide_eq_true_eq, decide_eq_true_eq] at hp
  obtain ⟨htold, hreading⟩ := hp
  have hreply : Replies demoEnv (js "key") demoIntent demoCart s s' 202 (.ok (js "s1") .approved none) :=
    ⟨Or.inl ⟨[], hstep⟩, s.world.history, htold, List.suffix_refl _⟩
  have hpolled : Polled demoEnv (js "s1") s' [readSettlement s'.world.db (js "s1")] s' :=
    .read .refl (.stop .refl)
  rw [hreading] at hpolled
  have htrue := purchase_report_is_true (fun _ => []) 1 (js "Tea") none hreach hreply (by decide) hpolled
    .refl
  exact ⟨s, s', hreply, htrue⟩

/-! ## What is asked is in order -/

/-- What Ed25519 promises of a key pair: its signatures verify under its public key. -/
def AgentKeypair.Genuine (crypto : Crypto) (agent : AgentKeypair) : Prop :=
  ∃ publicKey, hexToBytes agent.publicKeyHex = .ok publicKey ∧
    ∀ digest, crypto.ed25519Verify (agent.sign digest) digest publicKey = .ok true

/-- The codes the gate can reject a request of the tool with. -/
def purchaseRejections : List RejectionCode :=
  [.PRICE_MISMATCH, .MANDATE_EXPIRED, .MANDATE_REVOKED, .GOAL_MISMATCH, .AMOUNT_EXCEEDS_CEILING,
    .MERCHANT_LIMIT_EXCEEDED, .DUPLICATE_CART]

/-- The two halves of one contract: what `signPayload` signs, `verifyEd25519` accepts. -/
theorem AgentKeypair.Genuine.verifies {crypto : Crypto} {agent : AgentKeypair} (h : agent.Genuine crypto)
    (bytes : Bytes) : verifyMandateSignature crypto bytes (.ed25519 (signPayload crypto agent bytes))
      (.ed25519 agent.publicKeyHex) = .ok true := by
  obtain ⟨publicKey, hkey, hverify⟩ := h
  show verifyEd25519 crypto bytes (signPayload crypto agent bytes) agent.publicKeyHex = .ok true
  rw [verifyEd25519, signPayload, hexToBytes_bytesToHex, hkey]
  exact hverify _

/-- What the handler has checked of a mandate. -/
theorem findAuthorizedMandate_ok {mandates : List MandateListing}
    {mandateId agentPublicKeyHex merchantId : JsString} {record : MandateListing}
    (h : findAuthorizedMandate mandates mandateId agentPublicKeyHex merchantId = .ok record) :
    record ∈ mandates ∧ record.intent.agentPubkeyHex = agentPublicKeyHex ∧
      merchantId ∈ record.intent.merchants := by
  unfold findAuthorizedMandate at h
  split at h
  · cases h
  rename_i found hfind
  split at h
  · cases h
  rename_i hagent
  split at h
  · cases h
  split at h
  · cases h
  rename_i hmerchant
  obtain rfl := Except.ok.inj h
  refine ⟨List.mem_of_find?_eq_some hfind, not_not.mp hagent, ?_⟩
  rwa [Bool.not_eq_true', Bool.not_eq_false, List.contains_iff_mem] at hmerchant

/-- A draft of one line is for the line's merchant, and its total is the sum the gate computes. -/
theorem buildCartDraft_ok {line : CartLineInput} {cartId : Option JsString} {draft : CartDraft}
    (h : buildCartDraft [line] cartId = .ok draft) : draft.merchantId = line.product.merchantId ∧
      draft.totalPaise = recomputedTotal draft.items := by
  unfold buildCartDraft at h
  rw [bind_eq_ok] at h
  obtain ⟨items, -, h⟩ := h
  obtain rfl := Except.ok.inj h
  exact ⟨rfl, rfl⟩

/-- What the handler asks for: a mandate of its own for the merchant, a listing of the catalog, and a
    draft within the price it was given. -/
theorem planPurchase_asks {toLowerCase : JsString → JsString} {formatRupees : Int → JsString}
    {crypto : Crypto} {agentPublicKeyHex : JsString} {mandates : List MandateListing}
    {products : List FeedProduct} {args : PurchaseArgs} {intent : IntentMandate} {draft : CartDraft}
    {product : FeedProduct} {variant : Option ScannedVariant} {idempotencyKey : Option JsString}
    (h : planPurchase toLowerCase formatRupees crypto agentPublicKeyHex mandates products args =
      .ok (.asks intent draft product variant idempotencyKey)) :
    (∃ record ∈ mandates, record.intent = intent) ∧ intent.agentPubkeyHex = agentPublicKeyHex ∧
      args.merchantId ∈ intent.merchants ∧ product ∈ products ∧
      draft.merchantId = product.merchantId ∧ draft.totalPaise = recomputedTotal draft.items ∧
      ∀ maxPricePaise, args.maxPricePaise = some maxPricePaise → draft.totalPaise ≤ maxPricePaise := by
  unfold planPurchase at h
  rw [bind_eq_ok] at h
  obtain ⟨record, hrecord, h⟩ := h
  rw [bind_eq_ok] at h
  obtain ⟨found, hfound, h⟩ := h
  obtain ⟨hlisted, hagent, hmerchant⟩ := findAuthorizedMandate_ok hrecord
  have hproduct : found ∈ products := by
    unfold findProduct at hfound
    split at hfound
    · rename_i p hfind
      obtain rfl := Except.ok.inj hfound
      exact List.mem_of_find?_eq_some hfind
    · cases hfound
  split at h
  · cases h
  rw [bind_eq_ok] at h
  obtain ⟨cartId, -, h⟩ := h
  rw [bind_eq_ok] at h
  obtain ⟨key, -, h⟩ := h
  rw [bind_eq_ok] at h
  obtain ⟨cart, hcart, h⟩ := h
  obtain ⟨hfor, htotal⟩ := buildCartDraft_ok hcart
  split at h
  · cases h
  rename_i hmax
  obtain ⟨rfl, rfl, rfl, -, -⟩ := PurchasePlan.asks.inj (Except.ok.inj h)
  refine ⟨⟨record, hlisted, rfl⟩, hagent, hmerchant, hproduct, hfor, htotal, ?_⟩
  intro maxPricePaise hgiven
  rw [hgiven, Option.filter_eq_none_iff] at hmax
  have hwithin := hmax maxPricePaise rfl
  rw [decide_eq_true_eq] at hwithin
  omega

/-- Of a chain that is signed and adds up, the checks on policy decide. -/
theorem verifyChain_of_signed {crypto : Crypto} {intent : IntentMandate} {cart : CartMandate}
    {ctx : VerifyCtx} {credential : Credential} {intentBytes cartBytes : Bytes}
    (hintent : validateIntentSchema intent = none) (hcart : validateCartSchema cart = none)
    (hcredential : ctx.credential = some credential) (hbytes : intentSigningBytes intent = .ok intentBytes)
    (hverified : verifyMandateSignature crypto intentBytes intent.sig credential = .ok true)
    (hlink : cart.intentHashHex = crypto.sha256Hex intentBytes) (hcartBytes : cartSigningBytes cart = .ok cartBytes)
    (hsigned : verifyMandateSignature crypto cartBytes (.ed25519 cart.agentSigHex)
      (.ed25519 intent.agentPubkeyHex) = .ok true)
    (hadds : recomputedTotal cart.items = cart.totalPaise) :
    (∀ code detail, verifyPolicy intent cart ctx = some (code, detail) →
      verifyChain crypto intent cart ctx = .ok (.fail code detail)) ∧
    (verifyPolicy intent cart ctx = none →
      ∃ hash, verifyChain crypto intent cart ctx =
        .ok (.ok (needsApproval intent cart (ctx.spentPaise.getD 0)) hash)) := by
  constructor
  · intro code detail hpolicy
    rw [verifyChain, hintent, hcart, hcredential]
    simp only [hbytes, hverified, hlink, hcartBytes, hsigned, hadds, hpolicy, bind, Except.bind, pure,
      Except.pure, Bool.not_true, bne_self_eq_false, Bool.false_eq_true, if_false]
  · intro hpolicy
    -- an object of two strings has canonical bytes
    have hhash : ∃ hash, mandateCartHash crypto (crypto.sha256Hex intentBytes)
        (crypto.sha256Hex cartBytes) = .ok hash := by
      rw [mandateCartHash, canonicalJson_safe rfl]
      exact ⟨_, rfl⟩
    obtain ⟨hash, hhash⟩ := hhash
    refine ⟨hash, ?_⟩
    rw [verifyChain, hintent, hcart, hcredential]
    simp only [hbytes, hverified, hlink, hcartBytes, hsigned, hadds, hpolicy, hhash, bind, Except.bind,
      pure, Except.pure, Bool.not_true, bne_self_eq_false, Bool.false_eq_true, if_false]

/-- A cart in the scope of its mandate fails the checks on policy for one of these reasons. -/
theorem verifyPolicy_in_scope {intent : IntentMandate} {cart : CartMandate} {ctx : VerifyCtx}
    {code : RejectionCode} {detail : Option JsString}
    (h : verifyPolicy intent cart ctx = some (code, detail)) (hcurrency : intent.currency = js "INR")
    (hmerchant : cart.merchantId ∈ intent.merchants) : code ∈ purchaseRejections := by
  simp only [verifyPolicy, Option.orElse_eq_orElse, Option.orElse_eq_or, Option.or_eq_some_iff,
    Option.map_eq_some_iff, Option.bind_eq_some_iff, returnIf_eq_some, Prod.mk.injEq] at h
  rcases h with ⟨item, -, rfl, -⟩ | ⟨-, h⟩
  · decide
  rcases h with ⟨hother, -, -⟩ | ⟨-, h⟩
  · rw [hcurrency] at hother
    exact absurd hother (by decide)
  rcases h with ⟨hother, -, -⟩ | ⟨-, h⟩
  · rw [List.contains_iff_mem.mpr hmerchant] at hother
    exact absurd hother (by decide)
  rcases h with ⟨-, rfl, -⟩ | ⟨-, ⟨-, rfl, -⟩ | ⟨-, ⟨-, -, -, -, rfl, -⟩ | ⟨-, ⟨-, rfl, -⟩ |
    ⟨-, ⟨-, -, -, rfl, -⟩ | ⟨-, -, rfl, -⟩⟩⟩⟩⟩
  · decide
  · decide
  · decide
  · decide
  · decide
  · decide

/-- **The gate rejects what the tool asks for on the grounds of policy or price only.**  The mandates were
    listed in the state `u`, and the request is verified in a later one. -/
theorem purchase_refused_for_policy {env : Env} {u s : Sys} {listedAt now : Int}
    {toLowerCase : JsString → JsString} {formatRupees : Int → JsString} {agent : AgentKeypair}
    {products : List FeedProduct} {args : PurchaseArgs} {intent : IntentMandate} {draft : CartDraft}
    {product : FeedProduct} {variant : Option ScannedVariant} {idempotencyKey : Option JsString}
    {uuid : JsString} {cart : CartMandate} {ctx : VerifyCtx}
    (hu : Reachable env u) (r : Run (facilitator env) anyStep u s) (hgenuine : agent.Genuine env.crypto)
    (hlistings : Listings args.merchantId products)
    (hplan : planPurchase toLowerCase formatRupees env.crypto agent.publicKeyHex
      (getMandates u.world.db listedAt) products args =
      .ok (.asks intent draft product variant idempotencyKey))
    (hsign : signCart env.crypto uuid draft intent agent = .ok cart)
    (hschema : cartMandateSchema cart = true) (hctx : ctx.ReadFrom s.world.db intent cart now) :
    intentMandateSchema intent = true ∧
    (∀ maxPricePaise, args.maxPricePaise = some maxPricePaise → cart.totalPaise ≤ maxPricePaise) ∧
    ((∃ approval hash, verifyChain env.crypto intent cart ctx = .ok (.ok approval hash)) ∨
      ∃ code ∈ purchaseRejections, ∃ detail,
        verifyChain env.crypto intent cart ctx = .ok (.fail code detail)) := by
  obtain ⟨⟨record, hlisted, hrecord⟩, hagent, hscope, hproduct, hdraft, htotal, hwithin⟩ :=
    planPurchase_asks hplan
  obtain ⟨hfor, hitems, hsum, ⟨intentBytes, hbytes, hlink⟩, cartBytes, hcartBytes, hsigned⟩ :=
    signCart_ok hsign
  -- the mandate that was listed is still the one under its id when the request is verified
  obtain ⟨m, hm, rfl⟩ := mem_getMandates.mp hlisted
  obtain rfl : m.intent = intent := hrecord
  have hsound := hu.sound.mandate m hm
  obtain ⟨m', hm', hkept⟩ := (persists_run r).mandates m hm
  obtain ⟨signedBytes, hsignedBytes, hverified⟩ := hsound.signed
  obtain rfl : intentBytes = signedBytes := Except.ok.inj (hbytes.symm.trans hsignedBytes)
  have hcredential : ctx.credential = some m.credential := by
    rw [hctx.credential, ← hsound.id, ← hkept.id, getMandateRow_mem hm', Option.map_some,
      hkept.credential]
  have hcurrency : m.intent.currency = js "INR" := by
    have hschemaIntent := hsound.schema
    simp only [intentMandateSchema, Bool.and_eq_true, beq_iff_eq] at hschemaIntent
    exact hschemaIntent.1.1.1.1.1.1.1.2
  have hmerchant : cart.merchantId ∈ m.intent.merchants := by
    rw [hfor, hdraft, (hlistings product hproduct).1]
    exact hscope
  have hcartSigned : verifyMandateSignature env.crypto cartBytes (.ed25519 cart.agentSigHex)
      (.ed25519 m.intent.agentPubkeyHex) = .ok true := by
    rw [hsigned, hagent]
    exact hgenuine.verifies cartBytes
  have hadds : recomputedTotal cart.items = cart.totalPaise := by
    rw [hitems, hsum, htotal]
  refine ⟨hsound.schema, ?_, ?_⟩
  · intro maxPricePaise hgiven
    rw [hsum]
    exact hwithin maxPricePaise hgiven
  obtain ⟨hfail, hpass⟩ := verifyChain_of_signed (validateIntentSchema_of_schema hsound.schema)
    (validateCartSchema_of_schema hschema) hcredential hbytes hverified hlink hcartBytes hcartSigned hadds
  cases hpolicy : verifyPolicy m.intent cart ctx with
  | some verdict =>
    obtain ⟨code, detail⟩ := verdict
    exact Or.inr ⟨code, verifyPolicy_in_scope hpolicy hcurrency hmerchant, detail, hfail code detail hpolicy⟩
  | none =>
    obtain ⟨hash, hok⟩ := hpass hpolicy
    exact Or.inl ⟨_, hash, hok⟩

def demoArgs : PurchaseArgs where
  merchantId := js "shop"
  sku := js "rice"
  qty := 2
  mandateId := js "m1"
  choice := ⟨none, none, none, none⟩
  maxPricePaise := some 500
  idempotencyToken := none

/-- The demo agent asks for two bags of rice, and signs for them. -/
def demoSigned (db : Db) : Option CartMandate :=
  match planPurchase id (fun _ => []) demoCrypto demoAgent.publicKeyHex (getMandates db 1000) [demoRice]
      demoArgs with
  | .ok (.asks intent draft _ _ _) => (signCart demoCrypto (js "c1") draft intent demoAgent).toOption
  | _ => none

theorem purchase_refused_for_policy_demo : ∃ (s : Sys) (intent : IntentMandate) (cart : CartMandate)
    (ctx : VerifyCtx), Reachable demoEnv s ∧ ctx.ReadFrom s.world.db intent cart 1000 ∧
    cart.totalPaise ≤ 500 ∧
    ((∃ approval hash, verifyChain demoEnv.crypto intent cart ctx = .ok (.ok approval hash)) ∨
      ∃ code ∈ purchaseRejections, ∃ detail,
        verifyChain demoEnv.crypto intent cart ctx = .ok (.fail code detail)) := by
  obtain ⟨s, hreach, hp⟩ := reachable_of_run demoEnv demoRegistered
    (fun (s : Sys) => (demoSigned s.world.db).any cartMandateSchema) (by decide +kernel)
  obtain ⟨cart, hcart, hschema⟩ := (Option.any_eq_true _ _).mp hp
  unfold demoSigned at hcart
  split at hcart
  · rename_i intent draft product variant idempotencyKey hplan
    cases hsign : signCart demoCrypto (js "c1") draft intent demoAgent with
    | error e =>
      rw [hsign] at hcart
      cases hcart
    | ok signed =>
      rw [hsign] at hcart
      obtain rfl := Option.some.inj hcart
      have hgenuine : demoAgent.Genuine demoEnv.crypto := ⟨_, rfl, fun _ => rfl⟩
      have hlistings : Listings demoArgs.merchantId [demoRice] := by
        intro p hp
        rw [List.mem_singleton.mp hp]
        exact ⟨rfl, by decide⟩
      have hctx : (VerifyCtx.mk 1000 ((getMandateRow s.world.db intent.mandateId).map (·.credential))
          ((getMandateRow s.world.db intent.mandateId).any (·.revokedAt.isSome))
          (some (getCapturedSpend s.world.db intent.mandateId))
          ((intent.perMerchantCeilingPaise.bind fun limits => limits.get? signed.merchantId).map fun _ =>
            getCapturedSpendAtMerchant s.world.db intent.mandateId signed.merchantId)
          ((s.world.db.merchants.find? fun row => row.merchantId == signed.merchantId).bind
            (·.catalogPrices)) false none).ReadFrom s.world.db intent signed 1000 :=
        ⟨rfl, rfl, rfl, rfl, rfl, rfl, rfl⟩
      obtain ⟨-, hwithin, hverdict⟩ := purchase_refused_for_policy hreach .refl hgenuine hlistings hplan
        hsign hschema hctx
      exact ⟨s, intent, signed, _, hreach, hctx, hwithin 500 rfl, hverdict⟩
  · cases hcart

end Hundi
