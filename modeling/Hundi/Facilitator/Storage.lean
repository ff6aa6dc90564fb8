/-
  packages/facilitator/src/mandate-repo.ts and executor.ts — mandates and carts as stored text.

  `intent_json` and `cart_json` are written with `JSON.stringify` and read back with `JSON.parse`
  and a cast.  The rest of the model keeps the values; here is the text, with a reader for each of
  the two types, and the proof that an accepted body is read back unchanged
  (`intentFromRow_stringify`, `cartFromRow_stringify`).  The signing bytes, being functions of the
  value, survive.

  The second half follows a settlement: what the gate accepted when it was created, about the
  submitted intent, still holds of the stored intent when the executor checks again, as long as both
  sign the same fields.  `Linked` is the invariant.
-/
import Hundi.Core.Reparse
import Hundi.Facilitator.Approval

namespace Hundi

open Js EventLoop

/-- `JSON.stringify(value)`, for a value whose integers are safe. -/
def jsonStringify (v : JsonValue) : JsString := print v

/-! ## Readers -/

def JsonValue.num? : JsonValue → Option Int
  | .num n => some n
  | _ => none

/-- `value as string[]`. -/
def stringsOfValue : JsonValue → Option (List JsString)
  | .arr xs => xs.mapM JsonValue.str?
  | _ => none

/-- `value as Record<string, number>`. -/
def recordOfValue : JsonValue → Option Record
  | .obj ms => ms.mapM fun m => (JsonValue.num? m.2).map fun n => (m.1, n)
  | _ => none

/-- A property that has to be there. -/
def required {α : Type} (v : JsonValue) (k : JsString) (read : JsonValue → Option α) : Option α :=
  (v.get? k).bind read

/-- A property that may be absent. -/
def optional {α : Type} (v : JsonValue) (k : JsString) (read : JsonValue → Option α) :
    Option (Option α) :=
  match v.get? k with
  | none => some none
  | some x => (read x).map some

/-- `value as SigEnvelope`. -/
def SigEnvelope.ofValue (v : JsonValue) : Option SigEnvelope := do
  let type ← required v (js "type") JsonValue.str?
  if type = js "ed25519" then
    return .ed25519 (← required v (js "signature_hex") JsonValue.str?)
  else
    return .webauthnEs256 (← required v (js "clientDataJSON_b64u") JsonValue.str?)
      (← required v (js "authenticatorData_b64u") JsonValue.str?)
      (← required v (js "signature_b64u") JsonValue.str?)

/-- `value as IntentMandate`. -/
def IntentMandate.ofValue (v : JsonValue) : Option IntentMandate := do
  return {
    mandateId := ← required v (js "mandateId") JsonValue.str?
    goal := ← required v (js "goal") JsonValue.str?
    ceilingPaise := ← required v (js "ceiling_paise") JsonValue.num?
    approvalThresholdPaise := ← required v (js "approval_threshold_paise") JsonValue.num?
    currency := ← required v (js "currency") JsonValue.str?
    merchants := ← required v (js "merchants") stringsOfValue
    expiresAt := ← required v (js "expires_at") JsonValue.num?
    agentPubkeyHex := ← required v (js "agent_pubkey_hex") JsonValue.str?
    perMerchantCeilingPaise := ← optional v (js "per_merchant_ceiling_paise") recordOfValue
    cumulativeApprovalThresholdPaise :=
      ← optional v (js "cumulative_approval_threshold_paise") JsonValue.num?
    allowedSkus := ← optional v (js "allowed_skus") stringsOfValue
    sig := ← required v (js "sig") SigEnvelope.ofValue }

/-- `value as CartItem`. -/
def CartItem.ofValue (v : JsonValue) : Option CartItem := do
  return {
    sku := ← required v (js "sku") JsonValue.str?
    qty := ← required v (js "qty") JsonValue.num?
    unitPricePaise := ← required v (js "unit_price_paise") JsonValue.num?
    variantId := ← optional v (js "variant_id") JsonValue.str?
    variantLabel := ← optional v (js "variant_label") JsonValue.str? }

/-- `value as CartItem[]`. -/
def itemsOfValue : JsonValue → Option (List CartItem)
  | .arr xs => xs.mapM CartItem.ofValue
  | _ => none

/-- `value as CartMandate`. -/
def CartMandate.ofValue (v : JsonValue) : Option CartMandate := do
  return {
    cartId := ← required v (js "cartId") JsonValue.str?
    merchantId := ← required v (js "merchant_id") JsonValue.str?
    items := ← required v (js "items") itemsOfValue
    totalPaise := ← required v (js "total_paise") JsonValue.num?
    intentHashHex := ← required v (js "intent_hash_hex") JsonValue.str?
    agentSigHex := ← required v (js "agent_sig_hex") JsonValue.str? }

/-- `JSON.parse(text)`, of a text whose numbers are integers. -/
def parseText (text : JsString) : Option JsonValue := (jsonParse text).join

/-- `intentFromRow(row)`, of the column `intent_json`. -/
def intentFromRow (intentJson : JsString) : Option IntentMandate :=
  (parseText intentJson).bind IntentMandate.ofValue

/-- `JSON.parse(settlement.cart_json) as CartMandate`. -/
def cartFromRow (cartJson : JsString) : Option CartMandate :=
  (parseText cartJson).bind CartMandate.ofValue

/-! ## Reading a value back -/

theorem mapM_map_some {α γ : Type} {f : γ → Option α} {g : α → γ} (h : ∀ a, f (g a) = some a)
    (as : List α) : (as.map g).mapM f = some as := by
  induction as with
  | nil => rfl
  | cons a as ih => rw [List.map_cons, List.mapM_cons, h, ih]; rfl

theorem stringsOfValue_arr (ss : List JsString) : stringsOfValue (.arr (ss.map .str)) = some ss :=
  mapM_map_some (f := JsonValue.str?) (g := JsonValue.str) (fun _ => rfl) ss

theorem recordOfValue_obj (limits : Record) :
    recordOfValue (.obj (limits.map fun e => (e.1, .num e.2))) = some limits :=
  mapM_map_some (f := fun m : JsString × JsonValue => (JsonValue.num? m.2).map fun n => (m.1, n))
    (g := fun e : JsString × Int => (e.1, JsonValue.num e.2)) (fun _ => rfl) limits

theorem SigEnvelope.ofValue_value (sig : SigEnvelope) : SigEnvelope.ofValue sig.value = some sig := by
  cases sig <;> rfl

/-- **An intent is read off its JSON value.** -/
theorem IntentMandate.ofValue_value (intent : IntentMandate) :
    IntentMandate.ofValue intent.value = some intent := by
  have hmandateId : required intent.value (js "mandateId") JsonValue.str? =
      some intent.mandateId := rfl
  have hgoal : required intent.value (js "goal") JsonValue.str? = some intent.goal := rfl
  have hceiling : required intent.value (js "ceiling_paise") JsonValue.num? =
      some intent.ceilingPaise := rfl
  have hthreshold : required intent.value (js "approval_threshold_paise") JsonValue.num? =
      some intent.approvalThresholdPaise := rfl
  have hcurrency : required intent.value (js "currency") JsonValue.str? = some intent.currency := rfl
  have hmerchants : required intent.value (js "merchants") stringsOfValue = some intent.merchants :=
    stringsOfValue_arr intent.merchants
  have hexpires : required intent.value (js "expires_at") JsonValue.num? =
      some intent.expiresAt := rfl
  have hagent : required intent.value (js "agent_pubkey_hex") JsonValue.str? =
      some intent.agentPubkeyHex := rfl
  have hlimits : optional intent.value (js "per_merchant_ceiling_paise") recordOfValue =
      some intent.perMerchantCeilingPaise := by
    have hreq : (JsonValue.obj intent.requiredMembers).get? (js "per_merchant_ceiling_paise") = none := rfl
    rw [optional, get?_intent, hreq]
    cases intent.perMerchantCeilingPaise with
    | none => rfl
    | some limits => exact congrArg (Option.map some) (recordOfValue_obj limits)
  have hline : optional intent.value (js "cumulative_approval_threshold_paise") JsonValue.num? =
      some intent.cumulativeApprovalThresholdPaise := by
    have hreq : (JsonValue.obj intent.requiredMembers).get? (js "cumulative_approval_threshold_paise") =
      none := rfl
    rw [optional, get?_intent, hreq]
    cases intent.cumulativeApprovalThresholdPaise <;> rfl
  have hskus : optional intent.value (js "allowed_skus") stringsOfValue =
      some intent.allowedSkus := by
    have hreq : (JsonValue.obj intent.requiredMembers).get? (js "allowed_skus") = none := rfl
    rw [optional, get?_intent, hreq]
    cases intent.allowedSkus with
    | none => rfl
    | some skus => exact congrArg (Option.map some) (stringsOfValue_arr skus)
  have hsig : required intent.value (js "sig") SigEnvelope.ofValue = some intent.sig := by
    have hreq : (JsonValue.obj intent.requiredMembers).get? (js "sig") = none := rfl
    rw [required, get?_intent, hreq]
    exact SigEnvelope.ofValue_value intent.sig
  rw [ofValue, hmandateId, hgoal, hceiling, hthreshold, hcurrency, hmerchants, hexpires, hagent,
    hlimits, hline, hskus, hsig]
  rfl

theorem CartItem.ofValue_value (item : CartItem) : CartItem.ofValue item.value = some item := by
  obtain ⟨_, _, _, variantId, variantLabel⟩ := item
  cases variantId <;> cases variantLabel <;> rfl

theorem itemsOfValue_arr (items : List CartItem) :
    itemsOfValue (.arr (items.map CartItem.value)) = some items :=
  mapM_map_some (f := CartItem.ofValue) (g := CartItem.value) CartItem.ofValue_value items

/-- **A cart is read off its JSON value.** -/
theorem CartMandate.ofValue_value (cart : CartMandate) :
    CartMandate.ofValue cart.value = some cart := by
  have hitems : required cart.value (js "items") itemsOfValue = some cart.items :=
    itemsOfValue_arr cart.items
  have hcartId : required cart.value (js "cartId") JsonValue.str? = some cart.cartId := rfl
  have hmerchantId : required cart.value (js "merchant_id") JsonValue.str? =
      some cart.merchantId := rfl
  have htotal : required cart.value (js "total_paise") JsonValue.num? = some cart.totalPaise := rfl
  have hhash : required cart.value (js "intent_hash_hex") JsonValue.str? =
      some cart.intentHashHex := rfl
  have hsig : required cart.value (js "agent_sig_hex") JsonValue.str? = some cart.agentSigHex := rfl
  rw [ofValue, hcartId, hmerchantId, hitems, htotal, hhash, hsig]
  rfl

/-! ## Through the text and back -/

/-- An intent and a cart as a request hands them over: the schemas accept them, and the one object
    whose keys are the client's names none twice. -/
structure AcceptedBody where
  intent : IntentMandate
  cart : CartMandate
  intentSchema : intentMandateSchema intent = true
  cartSchema : cartMandateSchema cart = true
  limitsOnce : ∀ limits, intent.perMerchantCeilingPaise = some limits → (limits.map Prod.fst).Nodup

theorem keysOnceElems_of_forall {xs : List JsonValue} (h : ∀ x ∈ xs, KeysOnce x) :
    KeysOnceElems xs := by
  induction xs with
  | nil => trivial
  | cons x xs ih =>
    exact ⟨h x List.mem_cons_self, ih fun y hy => h y (List.mem_cons_of_mem _ hy)⟩

theorem keysOnceMembers_append {xs ys : List (JsString × JsonValue)} (hx : KeysOnceMembers xs)
    (hy : KeysOnceMembers ys) : KeysOnceMembers (xs ++ ys) := by
  induction xs with
  | nil => exact hy
  | cons x xs ih => exact ⟨hx.1, ih hx.2⟩

theorem keysOnceMembers_of_forall {ms : List (JsString × JsonValue)} (h : ∀ m ∈ ms, KeysOnce m.2) :
    KeysOnceMembers ms := by
  induction ms with
  | nil => trivial
  | cons m ms ih =>
    exact ⟨h m List.mem_cons_self, ih fun n hn => h n (List.mem_cons_of_mem _ hn)⟩

theorem keysOnce_strings (ss : List JsString) : KeysOnce (.arr (ss.map .str)) := by
  refine keysOnceElems_of_forall fun x hx => ?_
  obtain ⟨s, -, rfl⟩ := List.mem_map.mp hx
  trivial

theorem keysOnce_limits {limits : Record} (h : (limits.map Prod.fst).Nodup) :
    KeysOnce (.obj (limits.map fun e => (e.1, .num e.2))) := by
  refine ⟨?_, keysOnceMembers_of_forall fun m hm => ?_⟩
  · rw [List.map_map]
    exact h
  · obtain ⟨e, -, rfl⟩ := List.mem_map.mp hm
    trivial

theorem SigEnvelope.value_keysOnce (sig : SigEnvelope) : KeysOnce sig.value := by
  cases sig with
  | ed25519 signatureHex =>
    refine ⟨?_, trivial, trivial, trivial⟩
    show [js "type", js "signature_hex"].Nodup
    decide
  | webauthnEs256 clientData authenticatorData signature =>
    refine ⟨?_, trivial, trivial, trivial, trivial, trivial⟩
    show [js "type", js "clientDataJSON_b64u", js "authenticatorData_b64u",
      js "signature_b64u"].Nodup
    decide

theorem IntentMandate.value_keysOnce {intent : IntentMandate}
    (h : ∀ limits, intent.perMerchantCeilingPaise = some limits → (limits.map Prod.fst).Nodup) :
    KeysOnce intent.value := by
  obtain ⟨mandateId, goal, ceiling, threshold, currency, merchants, expires, agent, limits, line,
    skus, sig⟩ := intent
  constructor
  · -- eight lists of literal keys, one for each choice of the optional fields
    cases limits <;> cases line <;> cases skus <;>
      (simp only [intentMembers, intentSigningValue, List.map_append, List.map_cons, List.map_nil]
       decide)
  · refine keysOnceMembers_append (keysOnceMembers_append (keysOnceMembers_append
      (keysOnceMembers_append ?_ ?_) ?_) ?_) ⟨sig.value_keysOnce, trivial⟩
    · exact ⟨trivial, trivial, trivial, trivial, trivial, keysOnce_strings merchants, trivial,
        trivial, trivial⟩
    · cases limits with
      | none => trivial
      | some limits => exact ⟨keysOnce_limits (h limits rfl), trivial⟩
    · cases line with
      | none => trivial
      | some line => exact ⟨trivial, trivial⟩
    · cases skus with
      | none => trivial
      | some skus => exact ⟨keysOnce_strings skus, trivial⟩

theorem CartItem.value_keysOnce (item : CartItem) : KeysOnce item.value := by
  obtain ⟨_, _, _, variantId, variantLabel⟩ := item
  constructor
  · cases variantId <;> cases variantLabel <;>
      (simp only [Option.toList, List.map_append, List.map_cons, List.map_nil]
       decide)
  · cases variantId <;> cases variantLabel <;>
      exact keysOnceMembers_of_forall (by simp [KeysOnce])

theorem CartMandate.value_keysOnce (cart : CartMandate) : KeysOnce cart.value := by
  have hitems : KeysOnce (.arr (cart.items.map CartItem.value)) := by
    refine keysOnceElems_of_forall fun x hx => ?_
    obtain ⟨item, -, rfl⟩ := List.mem_map.mp hx
    exact item.value_keysOnce
  refine ⟨?_, trivial, trivial, hitems, trivial, trivial, trivial, trivial⟩
  show [js "cartId", js "merchant_id", js "items", js "total_paise", js "intent_hash_hex",
    js "agent_sig_hex"].Nodup
  decide

theorem parseText_stringify {v : JsonValue} (hs : safe v = true) (hk : KeysOnce v) :
    parseText (jsonStringify v) = some v := by
  rw [parseText, jsonStringify, jsonParse_print (readable_of_safe v hs hk)]
  rfl

/-- **An accepted intent is read back from the text it is stored as.** -/
theorem intentFromRow_stringify (body : AcceptedBody) :
    intentFromRow (jsonStringify body.intent.value) = some body.intent := by
  rw [intentFromRow, parseText_stringify (IntentMandate.value_safe body.intentSchema)
    (IntentMandate.value_keysOnce body.limitsOnce), Option.bind_some]
  exact body.intent.ofValue_value

/-- **An accepted cart is read back from the text it is stored as.** -/
theorem cartFromRow_stringify (body : AcceptedBody) :
    cartFromRow (jsonStringify body.cart.value) = some body.cart := by
  rw [cartFromRow, parseText_stringify (CartMandate.value_safe body.cartSchema)
    body.cart.value_keysOnce, Option.bind_some]
  exact body.cart.ofValue_value

/-! ## Re-verification -/

/-- The reasons that blame a hash link or a signature. -/
def RejectionCode.linkFailure : RejectionCode → Bool
  | .SIG_INVALID_INTENT | .HASH_LINK_MISMATCH | .SIG_INVALID_CART => true
  | _ => false

/-- No reason given here blames a hash link or a signature. -/
def Blameless (failure : Option (RejectionCode × Option JsString)) : Prop :=
  ∀ p, failure = some p → p.1.linkFailure = false

/-- The checks after the signatures blame none. -/
theorem verifyPolicy_blameless (intent : IntentMandate) (cart : CartMandate) (ctx : VerifyCtx) :
    Blameless (verifyPolicy intent cart ctx) := by
  rintro ⟨reason, detail⟩ h
  rcases verifyPolicy_reason h with ⟨rfl, -⟩ | hpolicy
  · rfl
  · cases reason <;> first | rfl | exact absurd hpolicy (by decide)

/-- **A signed, linked chain is not rejected for a signature or a link.** -/
theorem verifyChain_blameless {crypto : Crypto} {intent : IntentMandate} {cart : CartMandate}
    {ctx : VerifyCtx} {credential : Credential} {bytes : Bytes} {reason : RejectionCode}
    {detail : Option JsString} (hc : ctx.credential = some credential)
    (hb : intentSigningBytes intent = .ok bytes)
    (hs : verifyMandateSignature crypto bytes intent.sig credential = .ok true)
    (hl : CartLinked crypto intent cart)
    (h : verifyChain crypto intent cart ctx = .ok (.fail reason detail)) :
    reason.linkFailure = false := by
  obtain ⟨intentBytes, cartBytes, hib, hlink, hcb, hcs⟩ := hl
  obtain rfl := Except.ok.inj (hb.symm.trans hib)
  unfold verifyChain at h
  split at h
  · obtain ⟨rfl, -⟩ := VerifyResult.fail.inj (Except.ok.inj h)
    rfl
  split at h
  · obtain ⟨rfl, -⟩ := VerifyResult.fail.inj (Except.ok.inj h)
    rfl
  rw [hc, hb] at h
  simp only at h
  rw [bind_eq_ok] at h
  obtain ⟨bytes', hbytes, h⟩ := h
  obtain rfl := Except.ok.inj hbytes
  rw [hs, bind_eq_ok] at h
  obtain ⟨signed, hsigned, h⟩ := h
  obtain rfl := Except.ok.inj hsigned
  have hne : (cart.intentHashHex != crypto.sha256Hex bytes) = false := by
    rw [hlink]
    exact bne_self_eq_false _
  simp only [Bool.not_true, Bool.false_eq_true, if_false, hne] at h
  rw [hcb, bind_eq_ok] at h
  obtain ⟨bytes', hbytes, h⟩ := h
  obtain rfl := Except.ok.inj hbytes
  rw [hcs, bind_eq_ok] at h
  obtain ⟨signed, hsigned, h⟩ := h
  obtain rfl := Except.ok.inj hsigned
  simp only [Bool.not_true, Bool.false_eq_true, if_false] at h
  split at h
  · obtain ⟨rfl, -⟩ := VerifyResult.fail.inj (Except.ok.inj h)
    rfl
  split at h
  · rename_i reason' detail' hpolicy
    obtain ⟨rfl, rfl⟩ := VerifyResult.fail.inj (Except.ok.inj h)
    exact verifyPolicy_blameless intent cart ctx _ hpolicy
  · rw [bind_eq_ok] at h
    obtain ⟨hash, -, h⟩ := h
    exact nomatch Except.ok.inj h

/-! ## The invariant -/

/-- A settlement that may still be entered is linked to every intent submitted with it. -/
def Linked (crypto : Crypto) (b : Books) : Prop :=
  ∀ r ∈ b.settlements.rows, r.state = .pending_approval ∨ r.state = .approved →
    ∀ spentPaise intent, .settlementCreated r.id spentPaise intent ∈ b.history →
      CartLinked crypto intent r.cart

/-- Who may be entered after a step could be entered before it. -/
theorem SettlementTrace.enterable {crypto : Crypto} {now : Int} {w w' : World} {r r' : SettlementRow}
    (h : SettlementTrace crypto now w w' r r') (h' : r'.state = .pending_approval ∨ r'.state = .approved) :
    r.state = .pending_approval ∨ r.state = .approved := by
  cases h with
  | same h => rw [← h]; exact h'
  | closed hs => rcases hs with hs | hs <;> rw [hs] at h' <;> rcases h' with h' | h' <;> exact nomatch h'
  | approved approval mandateRow happroval hdecision hmandate hsigned h hs => exact Or.inl h
  | entered mandateRow ctx hre hhistory h hs => exact Or.inr h
  | captured h hs => rw [hs] at h'; rcases h' with h' | h' <;> exact nomatch h'

theorem TaskStep.linked {env : Env} {now : Int} {w w' : World} {c : TaskWhy} {next : Next Task}
    (h : TaskStep env now w c w' next) (hv : Vetted env.crypto w.books)
    (hl : Linked env.crypto w.books) : Linked env.crypto w'.books := by
  intro r' hr' hstate spentPaise intent he
  rcases h.row_cases hr' with ⟨r, hr, hk, htrace⟩ | ⟨intent', cart', hadd', -, -⟩
  · -- a row that was there: the event is an old one
    have hold : .settlementCreated r.id spentPaise intent ∈ w.history := by
      rw [hk.id] at he
      rcases h.created_before he with he | ⟨row, cart, hid, -, hadd, -⟩
      · exact he
      · exact absurd hid.symm (hadd.fresh r hr)
    rw [hk.cart]
    exact hl r hr (htrace.enterable hstate) spentPaise intent hold
  · -- the row just created: the event is of its creation
    rcases h.created_before he with he | ⟨row, cart, hid, -, hadd, hfrom⟩
    · obtain ⟨r, hr, hid⟩ := hv.event _ _ _ he
      exact absurd hid (hadd'.fresh r hr)
    · have hmem : r' ∈ w'.db.settlements.rows := (hadd'.mem_iff r').mpr (Or.inr rfl)
      have hsame : row = r' := settlement_eq ((hadd.mem_iff row).mpr (Or.inr rfl)) hmem hid
      rw [hsame] at hfrom
      rw [hfrom.cart_eq]
      refine hfrom.linked.resolve_left fun hrej => ?_
      rw [hrej] at hstate
      rcases hstate with h | h <;> exact nomatch h

theorem JobStep.linked {env : Env} {now : Int} {w w' : World} {k : Kick} {c : RunWhy}
    {next : Next RunPoint} (h : JobStep env now w k c w' next) (hl : Linked env.crypto w.books) :
    Linked env.crypto w'.books := by
  intro r' hr' hstate spentPaise intent he
  obtain ⟨r, hr, hk, htrace⟩ := h.row_cases hr'
  have hold := h.created_before he
  rw [hk.id] at hold
  rw [hk.cart]
  exact hl r hr (htrace.enterable hstate) spentPaise intent hold

theorem Reachable.linked {env : Env} {s : Sys} (h : Reachable env s) :
    Linked env.crypto s.world.books := by
  have hboth : Vetted env.crypto s.world.books ∧ Linked env.crypto s.world.books :=
    (soundOutline env).invariant (I := fun w => Vetted env.crypto w.books ∧ Linked env.crypto w.books)
      (fun _ _ _ _ _ hs _ hi hstep _ => ⟨TaskStep.vetted hstep hs hi.1, TaskStep.linked hstep hi.1 hi.2⟩)
      (fun _ _ _ _ _ _ hs _ hi hstep _ => ⟨JobStep.vetted hstep hs hi.1, JobStep.linked hstep hi.2⟩)
      (sound_initial env.crypto)
      ⟨vetted_initial env.crypto, fun _ h => absurd h List.not_mem_nil⟩ h
  exact hboth.2

/-! ## The result -/

theorem get?_agentPubkey (intent : IntentMandate) :
    (intentSigningValue intent).get? (js "agent_pubkey_hex") = some (.str intent.agentPubkeyHex) :=
  rfl

/-- The intents sign the same fields: the signed objects are equal up to the order of keys. -/
def SameSignedFields (i j : IntentMandate) : Prop :=
  norm (intentSigningValue i) = norm (intentSigningValue j)

theorem SameSignedFields.bytes {i j : IntentMandate} (h : SameSignedFields i j) {bi bj : Bytes}
    (hi : intentSigningBytes i = .ok bi) (hj : intentSigningBytes j = .ok bj) : bi = bj := by
  have hsi := canonicalJson_safe (safe_of_canonicalJson hi)
  have hsj := canonicalJson_safe (safe_of_canonicalJson hj)
  rw [← Except.ok.inj (hsi.symm.trans hi), ← Except.ok.inj (hsj.symm.trans hj), h]

/-- A cart linked to the submitted intent is linked to the stored one. -/
theorem CartLinked.stored {crypto : Crypto} {i j : IntentMandate} {cart : CartMandate}
    (h : CartLinked crypto i cart) (hsame : SameSignedFields i j) {bytes : Bytes}
    (hj : intentSigningBytes j = .ok bytes) : CartLinked crypto j cart := by
  obtain ⟨intentBytes, cartBytes, hi, hlink, hcb, hcs⟩ := h
  obtain rfl := hsame.bytes hi hj
  have hagent : i.agentPubkeyHex = j.agentPubkeyHex := by
    have hget := get?_of_intentSigningBytes hi hj (js "agent_pubkey_hex")
    rw [get?_agentPubkey, get?_agentPubkey] at hget
    exact JsonValue.str.inj (Option.some.inj hget)
  rw [hagent] at hcs
  exact ⟨intentBytes, cartBytes, hj, hlink, hcb, hcs⟩

theorem rejectApproved_reason {crypto : Crypto} {now : Int} {db db' : Db} {settlementId : JsString}
    {reason reason' : RejectionCode} {detail : Option JsString}
    (h : rejectApproved crypto now db settlementId reason detail = .ok (db', .rejected reason')) :
    reason' = reason := by
  rw [rejectApproved, bind_eq_ok] at h
  obtain ⟨moved, -, h⟩ := h
  cases moved with
  | none => exact nomatch (Prod.mk.inj (Except.ok.inj h)).2
  | some db₁ =>
    rw [bind_eq_ok] at h
    obtain ⟨db₂, -, h⟩ := h
    exact (ReverifyOutcome.rejected.inj (Prod.mk.inj (Except.ok.inj h)).2).symm

/-- The executor does not blame a hash link or a signature. -/
theorem reverify_blameless {env : Env} {s : Sys} (h : Reachable env s) {r : SettlementRow}
    (hr : r ∈ s.world.db.settlements.rows) {m : MandateRow} (hm : m ∈ s.world.db.mandates.rows)
    (hid : m.mandateId = r.mandateId) {spentPaise : Int} {intent : IntentMandate}
    (hevent : .settlementCreated r.id spentPaise intent ∈ s.world.history)
    (hsame : SameSignedFields intent m.intent) {now : Int} {db' : Db} {reason : RejectionCode}
    (hre : reverifyAndEnterSettling env.crypto s.world.db r.id now = .ok (db', .rejected reason)) :
    reason.linkFailure = false := by
  have hmandate := h.sound.mandate m hm
  have hget : getSettlement s.world.db r.id = some r :=
    Table.find?_eq_some hr (by simp) fun r' hr' hid' => settlement_eq hr' hr (by simpa using hid')
  have hrow : getMandateRow s.world.db r.mandateId = some m := by
    rw [← hid]
    exact getMandateRow_mem hm
  rw [reverifyAndEnterSettling, hget] at hre
  simp only at hre
  split at hre
  · exact nomatch (Prod.mk.inj (Except.ok.inj hre)).2
  rename_i hstate
  rw [hrow] at hre
  simp only at hre
  rw [bind_eq_ok] at hre
  obtain ⟨⟨ctx, hash⟩, hctx, hre⟩ := hre
  obtain ⟨hread, hhash⟩ := buildVerifyCtx_ok hctx
  obtain ⟨bytes, hbytes, hsigned⟩ := hmandate.signed
  have hlinked := h.linked r hr (Or.inr (not_not.mp hstate)) spentPaise intent hevent
  have hstored := hlinked.stored hsame hbytes
  -- the stored hash is that of the submitted intent, whose bytes are the stored intent's
  have hhash' : hash = r.mandateCartHashHex := by
    have hsub := (h.vetted.row r hr).submitted spentPaise intent hevent
    obtain ⟨intentBytes, -, hi, -⟩ := hlinked
    obtain rfl := hsame.bytes hi hbytes
    rw [computeMandateCartHash, hbytes] at hhash
    rw [computeMandateCartHash, hi] at hsub
    exact Except.ok.inj (hhash.symm.trans hsub)
  have hcredential : ctx.credential = some m.credential := by
    rw [hread.credential, ← hmandate.id, hid, hrow]
    rfl
  simp only [hhash', ne_eq, not_true_eq_false, if_false] at hre
  rw [bind_eq_ok] at hre
  obtain ⟨result, hresult, hre⟩ := hre
  cases result with
  | fail reason' detail =>
    obtain rfl := rejectApproved_reason hre
    exact verifyChain_blameless hcredential hbytes hsigned hstored hresult
  | ok approval hash' =>
    exfalso
    simp only at hre
    rw [bind_eq_ok] at hre
    obtain ⟨moved, -, hre⟩ := hre
    cases moved with
    | none => exact nomatch (Prod.mk.inj (Except.ok.inj hre)).2
    | some db₁ => exact nomatch (Prod.mk.inj (Except.ok.inj hre)).2

/-- **Signed bytes survive storage.**  Every accepted body is read back from its stored text with
    the signing bytes and the mandate-cart hash it had; and the executor never rejects a settlement
    for a hash link or a signature whose submitted intent signs the fields of the registered one. -/
theorem signed_bytes_survive_storage (env : Env) :
    (∀ body : AcceptedBody, ∃ intent cart,
      intentFromRow (jsonStringify body.intent.value) = some intent ∧
      cartFromRow (jsonStringify body.cart.value) = some cart ∧
      intentSigningBytes intent = intentSigningBytes body.intent ∧
      cartSigningBytes cart = cartSigningBytes body.cart ∧
      computeMandateCartHash env.crypto intent cart =
        computeMandateCartHash env.crypto body.intent body.cart) ∧
    ∀ s, Reachable env s → ∀ r ∈ s.world.db.settlements.rows, ∀ m ∈ s.world.db.mandates.rows,
      m.mandateId = r.mandateId → ∀ spentPaise intent,
      .settlementCreated r.id spentPaise intent ∈ s.world.history →
      SameSignedFields intent m.intent → ∀ now db' reason,
      reverifyAndEnterSettling env.crypto s.world.db r.id now = .ok (db', .rejected reason) →
      reason ≠ .HASH_LINK_MISMATCH ∧ reason ≠ .SIG_INVALID_INTENT ∧ reason ≠ .SIG_INVALID_CART := by
  constructor
  · intro body
    exact ⟨body.intent, body.cart, intentFromRow_stringify body, cartFromRow_stringify body, rfl, rfl,
      rfl⟩
  · intro s hreach r hr m hm hid spentPaise intent hevent hsame now db' reason hre
    have hblameless := reverify_blameless hreach hr hm hid hevent hsame hre
    refine ⟨?_, ?_, ?_⟩ <;> (rintro rfl; exact nomatch hblameless)

/-- The mandate's holder signs the intent again for the request, and then revokes the mandate. -/
def demoResigned : List Act :=
  [.clock 1000,
    .request (.postCeremonyTokens (some (js "dashboard"))) (js "token"),
    .request (.postMandates demoIntent (.ed25519 (js "bb")) (js "token")) [],
    .request (.postSettlements (some (js "key")) { demoIntent with sig := .ed25519 (js "01") }
      demoCart) [],
    .runTask (js "s1"),
    .request (.postRevoke (js "m1") (.ed25519 (js "00"))) []]

/-- What the executor makes of a settlement, if it rejects it. -/
def rejection (env : Env) (s : Sys) (id : JsString) (now : Int) : Option RejectionCode :=
  match reverifyAndEnterSettling env.crypto s.world.db id now with
  | .ok (_, .rejected reason) => some reason
  | _ => none

theorem rejection_some {env : Env} {s : Sys} {id : JsString} {now : Int} {reason : RejectionCode}
    (h : rejection env s id now = some reason) :
    ∃ db', reverifyAndEnterSettling env.crypto s.world.db id now = .ok (db', .rejected reason) := by
  rw [rejection] at h
  split at h
  · rename_i db' reason' hre
    rw [← Option.some.inj h]
    exact ⟨db', hre⟩
  · exact nomatch h

theorem signed_bytes_survive_storage_demo : ∃ s : Sys, Reachable demoEnv s ∧
    ∃ r ∈ s.world.db.settlements.rows, ∃ reason db',
      reverifyAndEnterSettling demoCrypto s.world.db r.id 1000 = .ok (db', .rejected reason) ∧
      reason ≠ .HASH_LINK_MISMATCH ∧ reason ≠ .SIG_INVALID_INTENT ∧ reason ≠ .SIG_INVALID_CART := by
  obtain ⟨s, hreach, hp⟩ := reachable_of_run demoEnv demoResigned
    (fun s => s.world.db.settlements.rows.any fun r =>
      (rejection demoEnv s r.id 1000 == some .MANDATE_REVOKED) &&
      (s.world.history.contains
        (.settlementCreated r.id 0 { demoIntent with sig := .ed25519 (js "01") })) &&
      s.world.db.mandates.rows.any fun m => m.mandateId == r.mandateId && m.intent == demoIntent)
    (by decide +kernel)
  obtain ⟨r, hr, hp⟩ := List.any_eq_true.mp hp
  simp only [Bool.and_eq_true, beq_iff_eq, List.contains_iff_mem] at hp
  obtain ⟨⟨hrej, hevent⟩, hany⟩ := hp
  obtain ⟨m, hm, hp⟩ := List.any_eq_true.mp hany
  simp only [Bool.and_eq_true, beq_iff_eq] at hp
  obtain ⟨db', hre⟩ := rejection_some hrej
  have hsame : SameSignedFields { demoIntent with sig := .ed25519 (js "01") } m.intent := by
    rw [hp.2]
    rfl
  exact ⟨s, hreach, r, hr, _, db', hre, (signed_bytes_survive_storage demoEnv).2 s hreach r hr m hm
    hp.1 0 _ hevent hsame 1000 db' _ hre⟩

end Hundi
