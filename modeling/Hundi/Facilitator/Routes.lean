/-
  packages/facilitator/src/routes/*.ts and idempotency.ts — the HTTP surface, and the program the
  event loop runs.

  A request is handled up to its first await, or up to its first commit when the handler has
  another effect after it.  A body its schema refuses has no effect.  `facilitator env` puts the
  routes, the sweep, the reconciler and the executor together as an `EventLoop.Program`.
-/
import Hundi.Facilitator.Bodies
import Hundi.Facilitator.Sweep

namespace Hundi

open Js EventLoop

/-! ## Requests, tasks and answers -/

inductive Request where
  | postCeremonyTokens (dashboardToken : Option JsString)
  | postAdminMerchants (adminToken : Option JsString) (merchantId name : JsString)
      (catalogUrl : Option JsString) (catalogPrices : Option Record)
  /-- The commit of POST /stores/onboard, after a scan that found products. -/
  | postStoresOnboard (merchantId name url : JsString) (catalogPrices : Record)
  | postMandates (intent : IntentMandate) (credential : Credential) (ceremonyToken : JsString)
  | postSettlements (idempotencyKey : Option JsString) (intent : IntentMandate) (cart : CartMandate)
  | postDecisions (settlementId : JsString) (payload : List (JsString × JsonValue))
      (signatureHex : JsString)
  | postApprovals (settlementId mandateCartHashHex : JsString) (decision : Decision)
      (sig : SigEnvelope)
  | postRevoke (mandateId : JsString) (sig : SigEnvelope)
  | postRefund (settlementId : JsString) (dashboardToken : Option JsString)
  | postWebhook (rawBody : JsString) (signatureHeader eventIdHeader : Option JsString)
  /-- The sweep's interval timer fires. -/
  | sweepTick

/-- `zValidator('json', …)`: the schema of the route's body accepts it. -/
def Request.valid : Request → Bool
  | .postAdminMerchants _ merchantId name catalogUrl catalogPrices =>
    isNonEmptyString merchantId && isNonEmptyString name && catalogUrl.all isNonEmptyString &&
      catalogPrices.all fun prices => prices.all fun e => isSafeInt e.2 && 0 < e.2
  | .postMandates intent credential _ => intentMandateSchema intent && credentialSchema credential
  | .postSettlements _ intent cart => intentMandateSchema intent && cartMandateSchema cart
  | .postDecisions _ _ signatureHex => isNonEmptyString signatureHex
  | .postApprovals settlementId mandateCartHashHex _ sig =>
    isNonEmptyString settlementId && isNonEmptyString mandateCartHashHex && sigEnvelopeSchema sig
  | .postRevoke mandateId sig => isNonEmptyString mandateId && sigEnvelopeSchema sig
  | _ => true

/-- Who awaits a reconcile call. -/
inductive Caller where
  | webhook (eventId : JsString) (eventType : JsonValue)
  | sweep (rest : List StaleAttempt)

inductive Task where
  | reconcile (caller : Caller) (point : ReconcilePoint)
  | sweep (point : SweepPoint)
  /-- POST /settlements with its idempotency key claimed. -/
  | settlementClaimed (key : JsString) (intent : IntentMandate) (cart : CartMandate)
  /-- POST /settlements/:id/refund awaiting `refundPayment`. -/
  | refund (settlementId attemptId paymentId : JsString) (amountPaise : Int)
  /-- POST /webhook with its event id claimed. -/
  | webhook (eventId : JsString) (eventType body : JsonValue)
  /-- POST /webhook in the catch block around its reconcile call. -/
  | webhookFailed (eventId : JsString) (eventType : JsonValue) (err : Exn)

/-- What an awaited promise settles with. -/
inductive Answer where
  | order (r : Except Exn JsString)
  | checkout (r : Except Exn SettleViaCheckoutResult)
  | link (r : Except Exn (JsString × JsString))
  | payments (r : Except Exn (List RazorpayPayment))
  | refund (r : Except Exn JsString)
  | ready

abbrev Done := Outcome World Task Kick

/-- The handler has answered. -/
def respond (w : World) : Done := ⟨w, .done, []⟩

/-- The handler has answered after one commit; an error is an error response. -/
def respondWith (w : World) : Except Exn Db → Done
  | .ok db => respond (w.commit db)
  | .error _ => respond w

/-! ## Ceremony tokens, merchants, mandates -/

/-- POST /ceremony-tokens. -/
def postCeremonyTokens (env : Env) (now : Int) (token : JsString) (w : World)
    (dashboardToken : Option JsString) : Done :=
  if dashboardToken ≠ some env.dashboardToken then respond w
  else
    match w.db.ceremonyTokens.insert? ⟨token, now, none⟩ with
    | some tokens => respond (w.commit { w.db with ceremonyTokens := tokens })
    | none => respond w

/-- POST /admin/merchants. -/
def postAdminMerchants (env : Env) (now : Int) (w : World) (adminToken : Option JsString)
    (merchantId name : JsString) (catalogUrl : Option JsString) (catalogPrices : Option Record) :
    Done :=
  if adminToken ≠ some env.adminToken then respond w
  else
    match w.db.merchants.insert? ⟨merchantId, name, catalogUrl, catalogPrices, now⟩ with
    | some merchants => respond (w.commit { w.db with merchants := merchants })
    | none => respond w

/-- `upsertMerchant(db, args)`. -/
def upsertMerchant (now : Int) (db : Db) (merchantId name catalogUrl : JsString)
    (catalogPrices : Record) : Db :=
  match db.merchants.insert? ⟨merchantId, name, some catalogUrl, some catalogPrices, now⟩ with
  | some merchants => { db with merchants := merchants }
  | none =>
    match db.merchants.update? (fun row => row.merchantId == merchantId) fun row =>
        { row with name := name, catalogUrl := some catalogUrl,
                   catalogPrices := some catalogPrices } with
    | some merchants => { db with merchants := merchants }
    | none => db

/-- The transaction of POST /mandates. -/
def registerMandate (env : Env) (now : Int) (db : Db) (intent : IntentMandate)
    (credential : Credential) (ceremonyToken : JsString) : Except Exn Db := do
  let valid : CeremonyTokenRow → Bool := fun row => row.token == ceremonyToken && row.usedAt.isNone
  if !db.ceremonyTokens.rows.any valid then .error (.routeError 401 (js "TOKEN_INVALID") none)
  else
    match db.ceremonyTokens.update? valid fun row => { row with usedAt := some now } with
    | none => .error (.sqliteConstraint (js "UNIQUE constraint failed: ceremony_tokens"))
    | some tokens => do
      let intentBytes ← intentSigningBytes intent
      let signed ← verifyMandateSignature env.crypto intentBytes intent.sig credential
      if !signed then .error (.routeError 400 (js "SIG_INVALID_INTENT") none)
      else
        let intentHashHex := env.crypto.sha256Hex intentBytes
        match db.mandates.insert? ⟨intent.mandateId, intent, intentHashHex, credential, none, now⟩ with
        | none => .error (.routeError 409 (js "MANDATE_EXISTS") none)
        | some mandates =>
          appendLedger env.crypto now { db with ceremonyTokens := tokens, mandates := mandates }
            ⟨.mandate_registered, none, js "facilitator",
              [(js "mandate_id", .str intent.mandateId),
                (js "intent_hash_hex", .str intentHashHex),
                (js "agent_pubkey_hex", .str intent.agentPubkeyHex)]⟩

/-! ## POST /settlements -/

/-- A signature envelope as JSON. -/
def SigEnvelope.value : SigEnvelope → JsonValue
  | .ed25519 signatureHex =>
    .obj [(js "type", .str (js "ed25519")), (js "signature_hex", .str signatureHex)]
  | .webauthnEs256 clientData authenticatorData signature =>
    .obj [(js "type", .str (js "webauthn-es256")), (js "clientDataJSON_b64u", .str clientData),
      (js "authenticatorData_b64u", .str authenticatorData), (js "signature_b64u", .str signature)]

/-- An intent as JSON: what it signs, and the signature. -/
def IntentMandate.value (intent : IntentMandate) : JsonValue :=
  .obj (intentMembers intent ++ [(js "sig", intent.sig.value)])

/-- The members every intent has, its signature apart. -/
def IntentMandate.requiredMembers (intent : IntentMandate) : List (JsString × JsonValue) :=
  [(js "mandateId", .str intent.mandateId),
    (js "goal", .str intent.goal),
    (js "ceiling_paise", .num intent.ceilingPaise),
    (js "approval_threshold_paise", .num intent.approvalThresholdPaise),
    (js "currency", .str intent.currency),
    (js "merchants", .arr (intent.merchants.map .str)),
    (js "expires_at", .num intent.expiresAt),
    (js "agent_pubkey_hex", .str intent.agentPubkeyHex)]

/-- The member `key`, if it is the one looked for and the field is there. -/
def optionalMember {α : Type} (k key : JsString) (field : Option α) (value : α → JsonValue) :
    Option JsonValue :=
  if key == k then field.map value else none

/-- Looking a member of an intent up: the required ones, the three optional ones, the signature. -/
theorem get?_intent (intent : IntentMandate) (k : JsString) :
    intent.value.get? k = (((JsonValue.obj intent.requiredMembers).get? k).or
      ((optionalMember k (js "per_merchant_ceiling_paise") intent.perMerchantCeilingPaise
        fun limits => .obj (limits.map fun e => (e.1, .num e.2))).or
      ((optionalMember k (js "cumulative_approval_threshold_paise")
        intent.cumulativeApprovalThresholdPaise .num).or
      ((optionalMember k (js "allowed_skus") intent.allowedSkus fun skus => .arr (skus.map .str)).or
      (optionalMember k (js "sig") (some intent.sig.value) id))))) := by
  obtain ⟨_, _, _, _, _, _, _, _, limits, line, skus, sig⟩ := intent
  simp only [IntentMandate.value, intentMembers, intentSigningValue, IntentMandate.requiredMembers,
    JsonValue.get?, List.find?_append, Option.map_or, Option.or_assoc, optionalMember]
  cases limits <;> cases line <;> cases skus <;>
    simp only [List.find?_nil, List.find?_singleton, Option.map_none, Option.map_some, ite_self,
      apply_ite (Option.map Prod.snd), id]

/-- A cart item as JSON. -/
def CartItem.value (item : CartItem) : JsonValue :=
  .obj ([(js "sku", .str item.sku), (js "qty", .num item.qty),
    (js "unit_price_paise", .num item.unitPricePaise)] ++
    (item.variantId.toList.map fun id => (js "variant_id", .str id)) ++
    (item.variantLabel.toList.map fun label => (js "variant_label", .str label)))

/-- A cart as JSON. -/
def CartMandate.value (cart : CartMandate) : JsonValue :=
  .obj [(js "cartId", .str cart.cartId), (js "merchant_id", .str cart.merchantId),
    (js "items", .arr (cart.items.map CartItem.value)), (js "total_paise", .num cart.totalPaise),
    (js "intent_hash_hex", .str cart.intentHashHex), (js "agent_sig_hex", .str cart.agentSigHex)]

/-- The body of POST /settlements as JSON, with no `-0` in it. -/
def createSettlementBodyValue (intent : IntentMandate) (cart : CartMandate) : JsonValue :=
  .obj [(js "intent", intent.value), (js "cart", cart.value)]

theorem SigEnvelope.value_safe (sig : SigEnvelope) : safe sig.value = true := by
  cases sig <;> rfl

/-- An accepted intent has canonical bytes. -/
theorem IntentMandate.value_safe {intent : IntentMandate} (h : intentMandateSchema intent = true) :
    safe intent.value = true := by
  rw [value, safe, safeMembers_append, intentMembers_safe h, safeMembers, SigEnvelope.value_safe]
  rfl

theorem CartItem.value_safe {item : CartItem} (h : cartItemSchema item = true) :
    safe item.value = true := by
  simp only [cartItemSchema, Bool.and_eq_true] at h
  obtain ⟨⟨⟨⟨-, hqty⟩, hprice⟩, -⟩, -⟩ := h
  rw [value, safe, safeMembers_append, safeMembers_append]
  have hid : safeMembers (item.variantId.toList.map fun id => (js "variant_id", .str id)) = true := by
    cases item.variantId <;> rfl
  have hlabel : safeMembers
      (item.variantLabel.toList.map fun label => (js "variant_label", .str label)) = true := by
    cases item.variantLabel <;> rfl
  simp only [hid, hlabel, safeMembers, safe, hqty.1, hprice.1, Bool.and_true]

/-- An accepted cart has canonical bytes. -/
theorem CartMandate.value_safe {cart : CartMandate} (h : cartMandateSchema cart = true) :
    safe cart.value = true := by
  simp only [cartMandateSchema, Bool.and_eq_true] at h
  obtain ⟨⟨⟨⟨-, hitems⟩, htotal⟩, -⟩, -⟩ := h
  have hall : safeElems (cart.items.map CartItem.value) = true := by
    refine safeElems_of_forall fun x hx => ?_
    obtain ⟨item, hitem, rfl⟩ := List.mem_map.mp hx
    exact CartItem.value_safe (List.all_eq_true.mp hitems.2 item hitem)
  rw [value, safe]
  simp only [safeMembers, safe, hall, htotal.1, Bool.and_true]

/-- An accepted body has canonical bytes. -/
theorem createSettlementBodyValue_safe {intent : IntentMandate} {cart : CartMandate}
    (hintent : intentMandateSchema intent = true) (hcart : cartMandateSchema cart = true) :
    safe (createSettlementBodyValue intent cart) = true := by
  rw [createSettlementBodyValue, safe, safeMembers, safeMembers,
    IntentMandate.value_safe hintent, CartMandate.value_safe hcart]
  rfl

inductive IdempotencyClaim where
  | claimed
  | hash_mismatch
  | in_flight
  | completed (status : Nat) (body : CreateSettlementBody)

/-- `claimIdempotencyKey(db, key, requestHashHex)`. -/
def claimIdempotencyKey (now : Int) (db : Db) (key requestHashHex : JsString) :
    Except Exn (Db × IdempotencyClaim) :=
  match db.idempotencyKeys.insert? ⟨key, requestHashHex, none, some now, none, none, now⟩ with
  | some keys => .ok ({ db with idempotencyKeys := keys }, .claimed)
  | none =>
    match db.idempotencyKeys.find? fun row => row.key == key with
    | none => .error (.sqliteConstraint (js "UNIQUE constraint failed: idempotency_keys.key"))
    | some row =>
      if row.requestHashHex ≠ requestHashHex then .ok (db, .hash_mismatch)
      else
        match row.responseStatus, row.responseBody with
        | some status, some body => .ok (db, .completed status body)
        | _, _ => .ok (db, .in_flight)

/-- `completeIdempotencyKey(db, key, settlementId, responseStatus, responseBody)`. -/
def completeIdempotencyKey (db : Db) (key : JsString) (settlementId : Option JsString)
    (responseStatus : Nat) (responseBody : CreateSettlementBody) : Except Exn Db :=
  match db.idempotencyKeys.update? (fun row => row.key == key) fun row =>
      { row with settlementId := settlementId, responseStatus := some responseStatus,
                 responseBody := some responseBody } with
  | some keys => .ok { db with idempotencyKeys := keys }
  | none => .error (.sqliteConstraint (js "UNIQUE constraint failed: idempotency_keys.key"))

/-- POST /settlements up to the claim of its key; an empty key is falsy. -/
def postSettlements (env : Env) (now : Int) (w : World) (idempotencyKey : Option JsString)
    (intent : IntentMandate) (cart : CartMandate) : Done :=
  match idempotencyKey with
  | none => respond w
  | some [] => respond w
  | some (c :: rest) =>
    let key := c :: rest
    match canonicalJson (createSettlementBodyValue intent cart) with
    | .error _ => respond w
    | .ok bytes =>
      match claimIdempotencyKey now w.db key (env.crypto.sha256Hex bytes) with
      | .error _ => respond w
      | .ok (db, .claimed) => ⟨w.commit db, .cpu (.settlementClaimed key intent cart), []⟩
      | .ok (_, .hash_mismatch) =>
        respond (w.emit (.settlementResponse key 409 (.error (js "KEY_REUSED"))))
      | .ok (_, .in_flight) =>
        respond (w.emit (.settlementResponse key 409 (.error (js "IN_FLIGHT"))))
      | .ok (_, .completed status body) => respond (w.emit (.settlementResponse key status body))

/-- `result.body.ok ? result.body.settlement_id : null`. -/
def CreateSettlementBody.settlementId? : CreateSettlementBody → Option JsString
  | .ok settlementId _ _ => some settlementId
  | .error _ => none

/-- `outcome.body.ok && outcome.body.state === 'approved'`. -/
def CreateSettlementBody.approved : CreateSettlementBody → Bool
  | .ok _ state _ => state == .approved
  | .error _ => false

/-- The business transaction of POST /settlements. -/
def settlementTransaction (env : Env) (now : Int) (db : Db) (settlementId key : JsString)
    (intent : IntentMandate) (cart : CartMandate) : Except Exn (Db × CreateSettlementOutcome) := do
  let (db, result) ← createSettlement env.crypto db settlementId intent cart now
  let db ← completeIdempotencyKey db key result.body.settlementId? result.status result.body
  return (db, result)

/-- POST /settlements after the claim; `settlementId` is the fresh `randomUUID()`.  The history
    notes the spend the new settlement was measured against. -/
def settlementClaimed (env : Env) (now : Int) (settlementId : JsString) (w : World) (key : JsString)
    (intent : IntentMandate) (cart : CartMandate) : Done :=
  match settlementTransaction env now w.db settlementId key intent cart with
  | .error _ => respond w
  | .ok (db, outcome) =>
    let w' := w.commit db
    let w' := if outcome.body.settlementId?.isSome then
        w'.emit (.settlementCreated settlementId
          (w.db.settlements.sum (capturedAmount intent.mandateId)) intent)
      else w'
    ⟨w'.emit (.settlementResponse key outcome.status outcome.body), .done,
      if outcome.body.approved then [⟨settlementId, .execute⟩] else []⟩

/-! ## Decisions, approvals, revocation -/

/-- POST /settlements/:id/decisions. -/
def postDecisions (env : Env) (now : Int) (w : World) (settlementId : JsString)
    (payload : List (JsString × JsonValue)) (signatureHex : JsString) : Done :=
  respondWith w <| do
    match getSettlement w.db settlementId with
    | none => .error (.routeError 404 (js "SETTLEMENT_NOT_FOUND") none)
    | some settlement =>
      match getMandateRow w.db settlement.mandateId with
      | none => .error (.routeError 404 (js "MANDATE_UNKNOWN") none)
      | some mandateRow => do
        let intent := mandateRow.intent
        let payloadBytes ← canonicalJson (.obj payload)
        let valid ← verifyMandateSignature env.crypto payloadBytes (.ed25519 signatureHex)
          (.ed25519 intent.agentPubkeyHex)
        if !valid then .error (.routeError 401 (js "AGENT_SIG_INVALID") none)
        else appendLedger env.crypto now w.db ⟨.agent_decision, some settlementId,
          js "agent:" ++ intent.agentPubkeyHex.take 8, payload⟩

/-- The object an approval signs. -/
def approvalValue (settlementId mandateCartHashHex : JsString) (decision : Decision) : JsonValue :=
  .obj [(js "settlement_id", .str settlementId),
    (js "mandate_cart_hash_hex", .str mandateCartHashHex), (js "decision", .str decision.text)]

/-- The state a decision leads to. -/
def Decision.toState : Decision → SettlementState
  | .approved => .approved
  | .rejected => .rejected

/-- The checks and the transaction of POST /approvals. -/
def decideApproval (env : Env) (now : Int) (db : Db) (settlementId mandateCartHashHex : JsString)
    (decision : Decision) (sig : SigEnvelope) : Except Exn Db :=
  match getSettlement db settlementId with
  | none => .error (.routeError 404 (js "SETTLEMENT_NOT_FOUND") none)
  | some settlement =>
    match getMandateRow db settlement.mandateId with
    | none => .error (.routeError 404 (js "MANDATE_UNKNOWN") none)
    | some mandateRow => do
      let decisionBytes ← canonicalJson (approvalValue settlementId mandateCartHashHex decision)
      let signed ← verifyMandateSignature env.crypto decisionBytes sig mandateRow.credential
      if !signed then .error (.routeError 401 (js "APPROVAL_SIG_INVALID") none)
      else
        let intent := mandateRow.intent
        let recomputed ← computeMandateCartHash env.crypto intent settlement.cart
        if recomputed ≠ mandateCartHashHex then
          .error (.routeError 400 (js "CART_HASH_MISMATCH") none)
        else
          let expiresAt := min (now + 1800) intent.expiresAt
          match db.approvals.insert? ⟨settlementId, decision, mandateCartHashHex, sig, now, expiresAt⟩ with
          | none => .error (.routeError 409 (js "ALREADY_DECIDED") none)
          | some approvals =>
            match ← catchStale (transitionSettlement now { db with approvals := approvals }
                settlementId .pending_approval decision.toState
                (if decision = .rejected then some (js "approval_rejected") else none)) with
            | none => .error (.routeError 409 (js "SETTLEMENT_NOT_PENDING_APPROVAL") none)
            | some db =>
              appendLedger env.crypto now db
                ⟨if decision = .approved then .approval_granted else .approval_rejected,
                  some settlementId, js "mandate:" ++ settlement.mandateId,
                  [(js "mandate_cart_hash_hex", .str mandateCartHashHex)]⟩

/-- POST /approvals. -/
def postApprovals (env : Env) (now : Int) (w : World) (settlementId mandateCartHashHex : JsString)
    (decision : Decision) (sig : SigEnvelope) : Done :=
  match decideApproval env now w.db settlementId mandateCartHashHex decision sig with
  | .error _ => respond w
  | .ok db =>
    ⟨w.commit db, .done, if decision = .approved then [⟨settlementId, .execute⟩] else []⟩

/-- The checks and the transaction of POST /revoke. -/
def revokeMandate (env : Env) (now : Int) (db : Db) (mandateId : JsString) (sig : SigEnvelope) :
    Except Exn Db :=
  match getMandateRow db mandateId with
  | none => .error (.routeError 404 (js "MANDATE_UNKNOWN") none)
  | some mandateRow => do
    let bytes ← canonicalJson
      (.obj [(js "mandateId", .str mandateId), (js "action", .str (js "revoke"))])
    let signed ← verifyMandateSignature env.crypto bytes sig mandateRow.credential
    if !signed then .error (.routeError 401 (js "REVOKE_SIG_INVALID") none)
    else if mandateRow.revokedAt.isSome then return db
    else
      match db.mandates.update? (fun row => row.mandateId == mandateId)
          fun row => { row with revokedAt := some now } with
      | none => .error (.sqliteConstraint (js "UNIQUE constraint failed: mandates"))
      | some mandates =>
        appendLedger env.crypto now { db with mandates := mandates }
          ⟨.mandate_revoked, none, js "mandate:" ++ mandateId, []⟩

/-! ## POST /settlements/:id/refund -/

/-- A `refund_issued` row of one settlement. -/
def LedgerRow.refundIssued (settlementId : JsString) (row : LedgerRow) : Bool :=
  row.eventType == .refund_issued && row.settlementId == some settlementId

/-- `findIssuedRefund(db, settlementId)`: the refund id of the first such row. -/
def findIssuedRefund (db : Db) (settlementId : JsString) : Option JsString :=
  (db.ledger.find? (·.refundIssued settlementId)).map fun row =>
    ((row.payload.get? (js "refund_id")).bind JsonValue.str?).getD []

/-- POST /settlements/:id/refund up to its await; an empty payment id is falsy. -/
def postRefund (env : Env) (w : World) (settlementId : JsString)
    (dashboardToken : Option JsString) : Done :=
  if dashboardToken ≠ some env.dashboardToken then respond w
  else
    match getSettlement w.db settlementId with
    | none => respond w
    | some settlement =>
      match findIssuedRefund w.db settlementId with
      | some refundId => respond (w.emit (.refundResponse settlementId refundId))
      | none =>
        if settlement.state ≠ .captured then respond w
        else
          match w.db.attempts.find? fun row =>
              row.settlementId == settlementId && row.state == .captured with
          | none => respond w
          | some attempt =>
            match attempt.providerPaymentId with
            | some (c :: rest) =>
              ⟨w.emit (.refundPayment .operator settlementId (c :: rest)),
                .park (.refund settlementId attempt.id (c :: rest) settlement.amountPaise), []⟩
            | _ => respond w

/-- The refund route from the provider's answer on. -/
def refundAnswered (env : Env) (now : Int) (w : World)
    (settlementId attemptId paymentId : JsString) (amountPaise : Int)
    (refund : Except Exn JsString) : Done :=
  match refund with
  | .error _ => respond w
  | .ok refundId =>
    let w := w.emit (.refundSucceeded .operator settlementId paymentId refundId)
    match appendLedger env.crypto now w.db ⟨.refund_issued, some settlementId, js "dashboard",
        [(js "attempt_id", .str attemptId), (js "payment_id", .str paymentId),
          (js "refund_id", .str refundId), (js "amount_paise", .num amountPaise)]⟩ with
    | .error _ => respond w
    | .ok db => respond ((w.commit db).emit (.refundResponse settlementId refundId))

/-! ## POST /webhook -/

/-- `verifySignature(rawBody, signatureHeader, secret)`. -/
def verifyWebhookSignature (env : Env) (rawBody : JsString) (signatureHeader : Option JsString) :
    Bool :=
  signatureHeader == some (env.crypto.hmacSha256Hex env.webhookSecret rawBody)

/-- A webhook refused before it was looked at. -/
def rejectWebhook (env : Env) (now : Int) (w : World) (eventId reason : JsString) : Done :=
  respondWith w (appendLedger env.crypto now w.db ⟨.webhook_rejected, none, js "razorpay",
    [(js "event_id", .str eventId), (js "reason", .str reason)]⟩)

/-- `parsed.event ?? 'unknown'`; a body that is `null` throws. -/
def webhookEventType : JsonValue → Option JsonValue
  | .null => none
  | body =>
    match body.get? (js "event") with
    | none => some (.str (js "unknown"))
    | some .null => some (.str (js "unknown"))
    | some v => some v

/-- A value better-sqlite3 binds to a parameter: it refuses booleans, arrays and objects. -/
def bindable : JsonValue → Bool
  | .str _ => true
  | .num _ => true
  | _ => false

/-- The transaction that claims the event id: `none` when it was claimed before. -/
def claimWebhookEvent (env : Env) (now : Int) (db : Db) (eventId : JsString) (eventType : JsonValue)
    (rawBody : JsString) : Except Exn (Option Db) :=
  if !bindable eventType then .error (.typeError (js "SQLite3 can only bind numbers, strings, bigints, buffers, and null"))
  else
    match db.webhookEvents.insert? ⟨eventId, eventType, rawBody, now⟩ with
    | none => .ok none
    | some events => do
      let db ← appendLedger env.crypto now { db with webhookEvents := events }
        ⟨.webhook_received, none, js "razorpay",
          [(js "event_id", .str eventId), (js "event", eventType)]⟩
      return some db

/-- POST /webhook up to the claim of its event id. -/
def postWebhook (env : Env) (now : Int) (w : World) (rawBody : JsString)
    (signatureHeader eventIdHeader : Option JsString) : Done :=
  if !verifyWebhookSignature env rawBody signatureHeader then
    rejectWebhook env now w (eventIdHeader.getD (js "unknown")) (js "signature_invalid")
  else
    match env.crypto.jsonParse rawBody with
    | none => rejectWebhook env now w (eventIdHeader.getD (js "unknown")) (js "invalid_json")
    | some body =>
      match eventIdHeader with
      | none => rejectWebhook env now w (js "unknown") (js "missing_event_id")
      | some [] => rejectWebhook env now w (js "unknown") (js "missing_event_id")
      | some (c :: rest) =>
        match webhookEventType body with
        | none => respond w
        | some eventType =>
          match claimWebhookEvent env now w.db (c :: rest) eventType rawBody with
          | .error _ => respond w
          | .ok none => respond w
          | .ok (some db) => ⟨w.commit db, .cpu (.webhook (c :: rest) eventType body), []⟩

/-- `RECONCILE_EVENT_TYPES`. -/
def reconcileEventTypes : List JsString :=
  [js "payment.captured", js "payment.failed", js "payment_link.paid", js "refund.processed"]

/-- `extractOrderId(body)`. -/
def extractOrderId (body : JsonValue) : Option JsonValue :=
  (((body.get? (js "payload")).bind (·.get? (js "payment"))).bind (·.get? (js "entity"))).bind
    (·.get? (js "order_id"))

/-- Goes on for the caller when a stretch of its reconcile call ends. -/
def afterReconcile (caller : Caller) : World × ReconcileNext → Done
  | (w, .awaiting p) => ⟨w, .park (.reconcile caller p), []⟩
  | (w, .running p) => ⟨w, .cpu (.reconcile caller p), []⟩
  | (w, .returned) =>
    match caller with
    | .webhook _ _ => respond w
    | .sweep rest => ⟨w, .park (.sweep (.staleAttempts rest)), []⟩
  | (w, .threw e) =>
    match caller with
    | .webhook eventId eventType => ⟨w, .park (.webhookFailed eventId eventType e), []⟩
    | .sweep _ => respond w

/-- POST /webhook after the claim: a known event reconciles the order it names.  An order id that
    is a number equals no TEXT order id the provider hands out; one that cannot be bound throws. -/
def webhookClaimed (env : Env) (now : Int) (w : World) (eventId : JsString)
    (eventType body : JsonValue) : Done :=
  if (eventType.str?).any reconcileEventTypes.contains then
    if falsy (extractOrderId body) then
      respondWith w (appendLedger env.crypto now w.db ⟨.reconciliation_flagged, none,
        js "facilitator", [(js "reason", .str (js "webhook_missing_order_id")),
          (js "event_id", .str eventId), (js "event", eventType)]⟩)
    else
      match extractOrderId body with
      | some (.str orderId) =>
        afterReconcile (.webhook eventId eventType) (w, reconcileByOrder w.db orderId)
      | some (.num _) => respond w
      | _ => ⟨w, .park (.webhookFailed eventId eventType (.typeError
          (js "SQLite3 can only bind numbers, strings, bigints, buffers, and null"))), []⟩
  else respond w

/-- The catch block around the reconcile call of POST /webhook. -/
def webhookFailed (env : Env) (now : Int) (w : World) (eventId : JsString) (eventType : JsonValue)
    (err : Exn) : Done :=
  respondWith w (appendLedger env.crypto now w.db ⟨.reconciliation_flagged, none, js "facilitator",
    [(js "reason", .str (js "webhook_reconcile_failed")), (js "event_id", .str eventId),
      (js "event", eventType), (js "detail", .str (errMessage err))]⟩)

/-! ## The program -/

/-- A request whose body is valid, up to its first await or its first commit. -/
def handleValid (env : Env) (now : Int) (seed : JsString) (w : World) : Request → Done
  | .postCeremonyTokens dashboardToken => postCeremonyTokens env now seed w dashboardToken
  | .postAdminMerchants adminToken merchantId name catalogUrl catalogPrices =>
    postAdminMerchants env now w adminToken merchantId name catalogUrl catalogPrices
  | .postStoresOnboard merchantId name url catalogPrices =>
    respond (w.commit (upsertMerchant now w.db merchantId name url catalogPrices))
  | .postMandates intent credential ceremonyToken =>
    respondWith w (registerMandate env now w.db intent credential ceremonyToken)
  | .postSettlements idempotencyKey intent cart =>
    postSettlements env now w idempotencyKey intent cart
  | .postDecisions settlementId payload signatureHex =>
    postDecisions env now w settlementId payload signatureHex
  | .postApprovals settlementId mandateCartHashHex decision sig =>
    postApprovals env now w settlementId mandateCartHashHex decision sig
  | .postRevoke mandateId sig => respondWith w (revokeMandate env now w.db mandateId sig)
  | .postRefund settlementId dashboardToken => postRefund env w settlementId dashboardToken
  | .postWebhook rawBody signatureHeader eventIdHeader =>
    postWebhook env now w rawBody signatureHeader eventIdHeader
  | .sweepTick => ⟨w, .cpu (.sweep (sweepRunOnce env now w)), []⟩

/-- A request up to its first await or its first commit. -/
def handleRequest (env : Env) (now : Int) (seed : JsString) (w : World) (r : Request) : Done :=
  if r.valid then handleValid env now seed w r else respond w

/-- Puts the sweep's tick where an effect of it led. -/
def afterSweep : World × SweepNext × List Kick → Done
  | (w, .continue p, kicks) => ⟨w, .cpu (.sweep p), kicks⟩
  | (w, .yield p, kicks) => ⟨w, .park (.sweep p), kicks⟩
  | (w, .reconcile point rest, kicks) => ⟨w, .park (.reconcile (.sweep rest) point), kicks⟩
  | (w, .done, kicks) => ⟨w, .done, kicks⟩

/-- The next effect of a task in its synchronous segment. -/
def runTask (env : Env) (now : Int) (seed : JsString) (w : World) : Task → Done
  | .reconcile caller (.lostRace attempt paymentId) =>
    afterReconcile caller (refundAnomalyCapture w attempt.settlementId attempt.id paymentId)
  | .sweep point => afterSweep (sweepStep env now w point)
  | .settlementClaimed key intent cart => settlementClaimed env now seed w key intent cart
  | .webhook eventId eventType body => webhookClaimed env now w eventId eventType body
  | .webhookFailed eventId eventType err => webhookFailed env now w eventId eventType err
  -- at an await: nothing to do until the answer
  | .reconcile caller point => ⟨w, .park (.reconcile caller point), []⟩
  | .refund settlementId attemptId paymentId amountPaise =>
    ⟨w, .park (.refund settlementId attemptId paymentId amountPaise), []⟩

/-- A parked task whose promise has settled. -/
def resumeTask (env : Env) (now : Int) (w : World) : Task → Answer → Option Done
  | .reconcile caller (.fetchOrderPayments attempt providerOrderId), .payments r =>
    some (afterReconcile caller (reconcileFetched env.crypto now w attempt providerOrderId r))
  | .reconcile caller (.refundPayment settlementId attemptId paymentId), .refund r =>
    some (afterReconcile caller
      (refundAnomalyAnswered env.crypto now w settlementId attemptId paymentId r))
  | .refund settlementId attemptId paymentId amountPaise, .refund r =>
    some (refundAnswered env now w settlementId attemptId paymentId amountPaise r)
  | .sweep point, .ready => some (afterSweep (sweepStep env now w point))
  | .webhookFailed eventId eventType err, .ready =>
    some (webhookFailed env now w eventId eventType err)
  | _, _ => none

/-- A run of the executor whose promise has settled. -/
def resumeRun (env : Env) (now : Int) (w : World) : RunPoint → Answer → Option (World × Next RunPoint)
  | .orderPending settlement attemptNum attemptId _, .order r =>
    some (orderAnswered env now w settlement attemptNum attemptId r)
  | .checkoutPending settlement attemptNum attemptId providerOrderId, .checkout r =>
    some (checkoutAnswered env now w settlement attemptNum attemptId providerOrderId r)
  | .linkPending settlement lastAttemptId linkAttemptId receipt, .link r =>
    some (linkAnswered env now w settlement lastAttemptId linkAttemptId receipt r)
  | _, _ => none

/-- The facilitator process. -/
def facilitator (env : Env) :
    Program World Task RunPoint Kick JsString Request Answer JsString where
  request := fun now seed w r => handleRequest env now seed w r
  runTask := fun now seed w t => runTask env now seed w t
  resumeTask := fun now w t a => resumeTask env now w t a
  startJob := fun now _ w k => startRun env now w k
  runJob := fun now seed w _ p => runStep env now seed w p
  resumeJob := fun now w _ p a => resumeRun env now w p a
  key := Kick.settlementId

abbrev Sys := State World Task RunPoint Kick JsString

abbrev Act := Action Request Answer JsString

/-- One step of the facilitator. -/
abbrev sysStep (env : Env) (s : Sys) (a : Act) : Option Sys := step (facilitator env) s a

/-- A freshly installed facilitator that has just started. -/
def Sys.initial : Sys := State.boot 0 World.initial

/-- The states a run of the facilitator can reach. -/
def Reachable (env : Env) (s : Sys) : Prop := Run (facilitator env) anyStep Sys.initial s

/-- What a computed run ends in is reachable. -/
theorem reachable_of_run (env : Env) (actions : List Act) (p : Sys → Bool)
    (h : (run (facilitator env) Sys.initial actions).any p = true) :
    ∃ s, Reachable env s ∧ p s = true := by
  obtain ⟨s, hs, hp⟩ := Option.any_eq_true _ _ |>.mp h
  exact ⟨s, Run.of_run hs, hp⟩

/-! ## A small installation

A checksum in the place of SHA-256, verifiers that accept, one mandate and one cart.  A webhook
body is the order id it names. -/

def demoCrypto : Crypto where
  sha256 := fun bytes =>
    let n := bytes.foldl (fun acc b => (acc * 31 + b.toNat + 7) % 4294967291) 17
    [UInt8.ofNat (n / 16777216), UInt8.ofNat (n / 65536), UInt8.ofNat (n / 256), UInt8.ofNat n]
  ed25519Verify := fun _ _ _ => .ok true
  p256Verify := fun _ _ _ => .ok true
  hmacSha256Hex := fun _ body => body
  textDecode := fun _ => []
  jsonParse := fun body =>
    some (.obj [(js "event", .str (js "payment.captured")),
      (js "payload", .obj [(js "payment", .obj [(js "entity",
        .obj [(js "order_id", .str body)])])])])

def demoEnv : Env where
  crypto := demoCrypto
  dashboardToken := js "dashboard"
  adminToken := js "admin"
  webhookSecret := js "secret"
  ttls := defaultSweepTTLs

def demoIntent : IntentMandate where
  mandateId := js "m1"
  goal := js "groceries"
  ceilingPaise := 1000
  approvalThresholdPaise := 500
  currency := js "INR"
  merchants := [js "shop"]
  expiresAt := 100000
  agentPubkeyHex := js "aa"
  perMerchantCeilingPaise := some [(js "shop", 800)]
  cumulativeApprovalThresholdPaise := some 900
  allowedSkus := none
  sig := .ed25519 (js "00")

def demoCart : CartMandate where
  cartId := js "c1"
  merchantId := js "shop"
  items := [⟨js "rice", 2, 200, none, none⟩]
  totalPaise := 400
  intentHashHex :=
    match intentSigningBytes demoIntent with
    | .ok bytes => demoCrypto.sha256Hex bytes
    | .error _ => []
  agentSigHex := js "00"

/-- The mandate is registered and the cart submitted; the executor has entered `settling`. -/
def demoSettling : List Act :=
  [.clock 1000,
    .request (.postCeremonyTokens (some (js "dashboard"))) (js "token"),
    .request (.postMandates demoIntent (.ed25519 (js "bb")) (js "token")) [],
    .request (.postSettlements (some (js "key")) demoIntent demoCart) [],
    .runTask (js "s1"),
    .startJob []]

/-- The first attempt has called the checkout driver for order `o1`. -/
def demoCheckout : List Act :=
  demoSettling ++ [.runJob (js "a1"), .runJob [], .resumeJob (.order (.ok (js "o1"))), .runJob []]

end Hundi
