/-
  POST /settlements and the idempotency key it locks.

  The route claims its key, and completes it in the transaction that runs the gate; a gate that
  throws rolls the transaction back and leaves the key claimed.  A typed mandate is one of the
  values of Core.Unchecked (`verifyChain_value`: on it the two gates are one), so what the gate can
  decode decides both whether it answers and whether the key is completed.
-/
import Hundi.Core.Unchecked
import Hundi.Facilitator.DryRun
import Hundi.Facilitator.Idempotency
import Hundi.Facilitator.Signing

namespace Hundi

open Js EventLoop

/-! ## A typed mandate as a value -/

mutual

theorem encode_ofJson : ∀ (v : JsonValue) (path : JsString),
    Unchecked.encode (.ofJson v) path = encode v path
  | .null, _ => rfl
  | .bool _, _ => rfl
  | .num _, _ => rfl
  | .str _, _ => rfl
  | .arr xs, path => by
    rw [JsValue.ofJson, Unchecked.encode, encode, encodeElems_ofElems xs path 0]
  | .obj ms, path => by
    rw [JsValue.ofJson, Unchecked.encode, encode, encodeMembers_ofMembers ms path]

theorem encodeElems_ofElems : ∀ (xs : List JsonValue) (path : JsString) (i : Nat),
    Unchecked.encodeElems (JsValue.ofElems xs) path i = encodeElems xs path i
  | [], _, _ => rfl
  | x :: xs, path, i => by
    rw [JsValue.ofElems, Unchecked.encodeElems, encodeElems, encode_ofJson x _,
      encodeElems_ofElems xs path (i + 1)]

theorem encodeMembers_ofMembers : ∀ (ms : List (JsString × JsonValue)) (path : JsString),
    Unchecked.encodeMembers (JsValue.ofMembers ms) path = encodeMembers ms path
  | [], _ => rfl
  | (k, v) :: ms, path => by
    rw [JsValue.ofMembers, Unchecked.encodeMembers, encodeMembers, encode_ofJson v _,
      encodeMembers_ofMembers ms path]

end

theorem canonicalJson_ofJson (v : JsonValue) :
    Unchecked.canonicalJson (.ofJson v) = canonicalJson v := by
  rw [Unchecked.canonicalJson, canonicalJson, encode_ofJson]

section Intent

variable (intent : IntentMandate)

/-- A required field is found. -/
theorem prop_required {k : JsString} {v : JsonValue}
    (h : (JsonValue.obj intent.requiredMembers).get? k = some v) :
    (JsValue.ofJson intent.value).prop k = .ofJson v := by
  rw [JsValue.prop_ofJson, get?_intent, h]
  rfl

theorem prop_limits : (JsValue.ofJson intent.value).prop (js "per_merchant_ceiling_paise") =
    (intent.perMerchantCeilingPaise.map fun limits =>
      JsValue.obj (limits.map fun e => (e.1, .num (.int e.2)))).getD .undefined := by
  have hreq : (JsonValue.obj intent.requiredMembers).get? (js "per_merchant_ceiling_paise") = none := rfl
  rw [JsValue.prop_ofJson, get?_intent, hreq]
  simp only [optionalMember]
  cases intent.perMerchantCeilingPaise with
  | none => rfl
  | some limits =>
    show JsValue.ofJson (.obj _) = _
    rw [JsValue.ofJson, JsValue.ofMembers_eq_map, List.map_map]
    rfl

theorem prop_line : (JsValue.ofJson intent.value).prop (js "cumulative_approval_threshold_paise") =
    (intent.cumulativeApprovalThresholdPaise.map fun line =>
      JsValue.num (.int line)).getD .undefined := by
  have hreq : (JsonValue.obj intent.requiredMembers).get? (js "cumulative_approval_threshold_paise") =
    none := rfl
  rw [JsValue.prop_ofJson, get?_intent, hreq]
  cases intent.cumulativeApprovalThresholdPaise <;> rfl

theorem prop_skus : (JsValue.ofJson intent.value).prop (js "allowed_skus") =
    (intent.allowedSkus.map fun skus => JsValue.arr (skus.map .str)).getD .undefined := by
  have hreq : (JsonValue.obj intent.requiredMembers).get? (js "allowed_skus") = none := rfl
  rw [JsValue.prop_ofJson, get?_intent, hreq]
  cases intent.allowedSkus with
  | none => rfl
  | some skus =>
    show JsValue.ofJson (.arr _) = _
    rw [JsValue.ofJson, JsValue.ofElems_eq_map, List.map_map]
    rfl

theorem prop_sig : (JsValue.ofJson intent.value).prop (js "sig") = .ofJson intent.sig.value := by
  have hreq : (JsonValue.obj intent.requiredMembers).get? (js "sig") = none := rfl
  rw [JsValue.prop_ofJson, get?_intent, hreq]
  rfl

/-- Every required field, as the gate reads it. -/
structure RequiredProps (v : JsValue) : Prop where
  mandateId : v.prop (js "mandateId") = .str intent.mandateId
  goal : v.prop (js "goal") = .str intent.goal
  ceiling : v.prop (js "ceiling_paise") = .num (.int intent.ceilingPaise)
  threshold : v.prop (js "approval_threshold_paise") = .num (.int intent.approvalThresholdPaise)
  currency : v.prop (js "currency") = .str intent.currency
  merchants : v.prop (js "merchants") = .arr (intent.merchants.map .str)
  expires : v.prop (js "expires_at") = .num (.int intent.expiresAt)
  agentKey : v.prop (js "agent_pubkey_hex") = .str intent.agentPubkeyHex

theorem requiredProps : RequiredProps intent (.ofJson intent.value) where
  mandateId := prop_required intent (v := .str intent.mandateId) rfl
  goal := prop_required intent (v := .str intent.goal) rfl
  ceiling := prop_required intent (v := .num intent.ceilingPaise) rfl
  threshold := prop_required intent (v := .num intent.approvalThresholdPaise) rfl
  currency := prop_required intent (v := .str intent.currency) rfl
  merchants := by
    rw [prop_required intent (v := .arr (intent.merchants.map .str)) rfl, JsValue.ofJson,
      JsValue.ofElems_eq_map, List.map_map]
    rfl
  expires := prop_required intent (v := .num intent.expiresAt) rfl
  agentKey := prop_required intent (v := .str intent.agentPubkeyHex) rfl

theorem map_text (xs : List JsString) : (xs.map JsValue.str).map JsValue.text = xs := by
  rw [List.map_map]
  exact List.map_id xs

theorem all_isNonEmptyString (xs : List JsString) :
    (xs.map JsValue.str).all Unchecked.isNonEmptyString = xs.all isNonEmptyString := by
  rw [List.all_map]
  rfl

/-- **Reading a typed intent off its value gives it back.** -/
theorem asIntent_value : Unchecked.asIntent (.ofJson intent.value) = intent := by
  have h := requiredProps intent
  have hlimits := prop_limits intent
  have hline := prop_line intent
  have hskus := prop_skus intent
  have hsig := prop_sig intent
  obtain ⟨_, _, _, _, _, _, _, _, limits, line, skus, sig⟩ := intent
  rw [Unchecked.asIntent, h.mandateId, h.goal, h.ceiling, h.threshold, h.currency, h.merchants,
    h.expires, h.agentKey, hlimits, hline, hskus, hsig]
  congr 1
  · exact map_text _
  · cases limits with
    | none => rfl
    | some limits =>
      show some ((limits.map fun e => (e.1, JsValue.num (.int e.2))).map fun e => (e.1, e.2.int)) = _
      rw [List.map_map]
      exact congrArg some (List.map_id limits)
  · cases line <;> rfl
  · cases skus with
    | none => rfl
    | some skus => exact congrArg some (map_text skus)
  · cases sig <;> rfl

theorem validateLimits_value (limits : Record) :
    Unchecked.validateLimits (limits.map fun e => (e.1, .num (.int e.2))) = validateLimits limits := by
  induction limits with
  | nil => rfl
  | cons e limits ih =>
    rw [List.map_cons, Unchecked.validateLimits, validateLimits, ih, isNonEmptyString, Bool.not_not]
    rfl

/-- The checks on a typed intent's value are the checks on the intent. -/
theorem intentChecks_value :
    Unchecked.intentChecks (.ofJson intent.value) = validateIntentSchema intent := by
  have h := requiredProps intent
  have hlimits : Unchecked.checkLimits
      ((JsValue.ofJson intent.value).prop (js "per_merchant_ceiling_paise")) =
      intent.perMerchantCeilingPaise.bind validateLimits := by
    rw [prop_limits]
    cases intent.perMerchantCeilingPaise with
    | none => rfl
    | some limits => exact validateLimits_value limits
  have hsig : Unchecked.isValidSigEnvelope (.ofJson intent.sig.value) =
      isValidSigEnvelope intent.sig := by
    cases intent.sig <;> rfl
  have hline : (!((JsValue.ofJson intent.value).prop
        (js "cumulative_approval_threshold_paise")).isUndefined &&
      (!((JsValue.ofJson intent.value).prop
          (js "cumulative_approval_threshold_paise")).isSafeInteger ||
        ((JsValue.ofJson intent.value).prop (js "cumulative_approval_threshold_paise")).int < 0)) =
      intent.cumulativeApprovalThresholdPaise.any fun line => !isSafeInt line || line < 0 := by
    rw [prop_line]
    cases intent.cumulativeApprovalThresholdPaise <;> rfl
  have hempty : (!((JsValue.ofJson intent.value).prop (js "allowed_skus")).isUndefined &&
      (!((JsValue.ofJson intent.value).prop (js "allowed_skus")).isArray ||
        ((JsValue.ofJson intent.value).prop (js "allowed_skus")).elems.isEmpty)) =
      intent.allowedSkus.any fun skus => skus.isEmpty := by
    rw [prop_skus]
    cases intent.allowedSkus with
    | none => rfl
    | some skus => exact List.isEmpty_map
  have hnames : (!((JsValue.ofJson intent.value).prop (js "allowed_skus")).isUndefined &&
      !((JsValue.ofJson intent.value).prop (js "allowed_skus")).elems.all
        Unchecked.isNonEmptyString) =
      intent.allowedSkus.any fun skus => !skus.all isNonEmptyString := by
    rw [prop_skus]
    cases intent.allowedSkus with
    | none => rfl
    | some skus => exact congrArg (!·) (all_isNonEmptyString skus)
  have hmerchants : (!((JsValue.ofJson intent.value).prop (js "merchants")).isArray ||
      ((JsValue.ofJson intent.value).prop (js "merchants")).elems.isEmpty) =
      intent.merchants.isEmpty := by
    rw [h.merchants]
    exact List.isEmpty_map
  have hmerchantNames : (!((JsValue.ofJson intent.value).prop (js "merchants")).elems.all
      Unchecked.isNonEmptyString) = !intent.merchants.all isNonEmptyString := by
    rw [h.merchants]
    exact congrArg (!·) (all_isNonEmptyString intent.merchants)
  unfold Unchecked.intentChecks
  dsimp only
  rw [hmerchants, hmerchantNames, hlimits, hline, hempty, hnames, h.mandateId, h.goal, h.ceiling,
    h.threshold, h.expires, h.agentKey, prop_sig, hsig]
  rfl

theorem ofJson_strings (xs : List JsString) :
    JsValue.ofJson (.arr (xs.map .str)) = .arr (xs.map .str) := by
  rw [JsValue.ofJson, JsValue.ofElems_eq_map, List.map_map]
  rfl

theorem ofJson_record (limits : Record) : JsValue.ofJson (.obj (limits.map fun e => (e.1, .num e.2))) =
    .obj (limits.map fun e => (e.1, .num (.int e.2))) := by
  rw [JsValue.ofJson, JsValue.ofMembers_eq_map, List.map_map]
  rfl

/-- A typed intent is signed over the bytes its value is signed over. -/
theorem intentSigningBytes_value :
    Unchecked.intentSigningBytes (.ofJson intent.value) = intentSigningBytes intent := by
  have h := requiredProps intent
  have hvalue : Unchecked.intentSigningValue (.ofJson intent.value) =
      .ofJson (intentSigningValue intent) := by
    unfold Unchecked.intentSigningValue
    dsimp only
    rw [h.mandateId, h.goal, h.ceiling, h.threshold, h.currency, h.merchants, h.expires, h.agentKey,
      prop_limits, prop_line, prop_skus, intentSigningValue, JsValue.ofJson, JsValue.ofMembers_eq_map,
      List.map_append, List.map_append, List.map_append]
    congr 1
    -- one group of members after the other
    refine congrArg₂ (· ++ ·) (congrArg₂ (· ++ ·) (congrArg₂ (· ++ ·) ?_ ?_) ?_) ?_
    · simp only [List.map_cons, List.map_nil, ofJson_strings]
      rfl
    · cases intent.perMerchantCeilingPaise with
      | none => rfl
      | some limits =>
        simp only [List.map_cons, List.map_nil, ofJson_record]
        rfl
    · cases intent.cumulativeApprovalThresholdPaise <;> rfl
    · cases intent.allowedSkus with
      | none => rfl
      | some skus =>
        simp only [List.map_cons, List.map_nil, ofJson_strings]
        rfl
  rw [Unchecked.intentSigningBytes, hvalue, canonicalJson_ofJson, intentSigningBytes]

end Intent

section Cart

variable (item : CartItem) (cart : CartMandate)

theorem prop_variantId : (JsValue.ofJson item.value).prop (js "variant_id") =
    (item.variantId.map JsValue.str).getD .undefined := by
  obtain ⟨_, _, _, variantId, variantLabel⟩ := item
  rw [JsValue.prop_ofJson]
  cases variantId <;> cases variantLabel <;> rfl

theorem prop_variantLabel : (JsValue.ofJson item.value).prop (js "variant_label") =
    (item.variantLabel.map JsValue.str).getD .undefined := by
  obtain ⟨_, _, _, variantId, variantLabel⟩ := item
  rw [JsValue.prop_ofJson]
  cases variantId <;> cases variantLabel <;> rfl

/-- The fields every item has, as the gate reads them. -/
structure ItemProps (v : JsValue) : Prop where
  sku : v.prop (js "sku") = .str item.sku
  qty : v.prop (js "qty") = .num (.int item.qty)
  price : v.prop (js "unit_price_paise") = .num (.int item.unitPricePaise)

theorem itemProps : ItemProps item (.ofJson item.value) where
  sku := (JsValue.prop_ofJson _ _).trans rfl
  qty := (JsValue.prop_ofJson _ _).trans rfl
  price := (JsValue.prop_ofJson _ _).trans rfl

theorem asItem_value : Unchecked.asItem (.ofJson item.value) = item := by
  have h := itemProps item
  have hid := prop_variantId item
  have hlabel := prop_variantLabel item
  obtain ⟨_, _, _, variantId, variantLabel⟩ := item
  rw [Unchecked.asItem, h.sku, h.qty, h.price, hid, hlabel]
  cases variantId <;> cases variantLabel <;> rfl

theorem itemChecks_value (i : Nat) :
    Unchecked.itemChecks (.ofJson item.value) i = validateCartItemSchema item i := by
  have h := itemProps item
  have hid : (!((JsValue.ofJson item.value).prop (js "variant_id")).isUndefined &&
      !Unchecked.isNonEmptyString ((JsValue.ofJson item.value).prop (js "variant_id"))) =
      item.variantId.any fun id => !isNonEmptyString id := by
    rw [prop_variantId]
    cases item.variantId <;> rfl
  have hlabel : (!((JsValue.ofJson item.value).prop (js "variant_label")).isUndefined &&
      !((JsValue.ofJson item.value).prop (js "variant_label")).isString) = false := by
    rw [prop_variantLabel]
    cases item.variantLabel <;> rfl
  have hlast : ∀ text : JsString, returnIf false text = none := fun _ => rfl
  unfold Unchecked.itemChecks
  dsimp only
  rw [h.sku, h.qty, h.price, hid, hlabel, hlast, validateCartItemSchema]
  simp only [Option.orElse_eq_orElse, Option.orElse_eq_or, Option.or_none]
  rfl

theorem cartItemSigningValue_value : Unchecked.cartItemSigningValue (.ofJson item.value) =
    .ofJson (cartItemSigningValue item) := by
  have h := itemProps item
  unfold Unchecked.cartItemSigningValue
  dsimp only
  rw [h.sku, h.qty, h.price, prop_variantId, cartItemSigningValue]
  rcases item.variantId with _ | _ | ⟨c, id⟩ <;> rfl

theorem validateItems_value (items : List CartItem) (i : Nat) :
    Unchecked.validateItems (items.map fun item => .ofJson item.value) i =
      .ok (validateItems items i) := by
  induction items generalizing i with
  | nil => rfl
  | cons item items ih =>
    rw [List.map_cons, Unchecked.validateItems, Unchecked.validateCartItemSchema, itemChecks_value,
      validateItems]
    show (Except.ok (validateCartItemSchema item i) >>= _) = _
    cases validateCartItemSchema item i with
    | some err => rfl
    | none => exact ih (i + 1)

/-- Every field of a cart, as the gate reads it. -/
structure CartProps (v : JsValue) : Prop where
  cartId : v.prop (js "cartId") = .str cart.cartId
  merchant : v.prop (js "merchant_id") = .str cart.merchantId
  items : v.prop (js "items") = .arr (cart.items.map fun item => .ofJson item.value)
  total : v.prop (js "total_paise") = .num (.int cart.totalPaise)
  intentHash : v.prop (js "intent_hash_hex") = .str cart.intentHashHex
  agentSig : v.prop (js "agent_sig_hex") = .str cart.agentSigHex

theorem cartProps : CartProps cart (.ofJson cart.value) where
  cartId := (JsValue.prop_ofJson _ _).trans rfl
  merchant := (JsValue.prop_ofJson _ _).trans rfl
  items := by
    have hitems : cart.value.get? (js "items") = some (.arr (cart.items.map CartItem.value)) := rfl
    rw [JsValue.prop_ofJson, hitems]
    show JsValue.ofJson (.arr _) = _
    rw [JsValue.ofJson, JsValue.ofElems_eq_map, List.map_map]
    rfl
  total := (JsValue.prop_ofJson _ _).trans rfl
  intentHash := (JsValue.prop_ofJson _ _).trans rfl
  agentSig := (JsValue.prop_ofJson _ _).trans rfl

theorem asCart_value : Unchecked.asCart (.ofJson cart.value) = cart := by
  have h := cartProps cart
  have hitems : (cart.items.map fun item => JsValue.ofJson item.value).map Unchecked.asItem =
      cart.items := by
    rw [List.map_map]
    exact (List.map_congr_left fun item _ => asItem_value item).trans (List.map_id _)
  rw [Unchecked.asCart, h.cartId, h.merchant, h.items, h.total, h.intentHash, h.agentSig]
  simp only [JsValue.elems, hitems]
  rfl

/-- The checks on a typed cart's value are the checks on the cart. -/
theorem validateCartSchema_value :
    Unchecked.validateCartSchema (.ofJson cart.value) = .ok (validateCartSchema cart) := by
  have h := cartProps cart
  have hnullish : (JsValue.ofJson cart.value).nullish = false := rfl
  have hhead : Unchecked.cartHeadChecks (.ofJson cart.value) =
      (returnIf (!isNonEmptyString cart.cartId) (js "cartId must be a non-empty string") <|>
      returnIf (!isNonEmptyString cart.merchantId) (js "merchant_id must be a non-empty string") <|>
      returnIf cart.items.isEmpty (js "items must be a non-empty array")) := by
    unfold Unchecked.cartHeadChecks
    dsimp only
    rw [h.cartId, h.merchant, h.items]
    simp only [JsValue.isArray, JsValue.elems, List.isEmpty_map, Bool.not_true, Bool.false_or]
    rfl
  have htail : Unchecked.cartTailChecks (.ofJson cart.value) =
      (returnIf (!isSafeInt cart.totalPaise || cart.totalPaise < 0)
        (js "total_paise must be a non-negative integer") <|>
      returnIf (!isNonEmptyString cart.intentHashHex)
        (js "intent_hash_hex must be a non-empty string") <|>
      returnIf (!isNonEmptyString cart.agentSigHex)
        (js "agent_sig_hex must be a non-empty string")) := by
    unfold Unchecked.cartTailChecks
    dsimp only
    rw [h.total, h.intentHash, h.agentSig]
    rfl
  rw [Unchecked.validateCartSchema, hnullish, if_neg (by decide), hhead, h.items, JsValue.elems,
    validateItems_value, htail, validateCartSchema]
  simp only [Option.orElse_eq_orElse, Option.orElse_eq_or, ← Option.or_assoc]
  generalize ((returnIf (!isNonEmptyString cart.cartId) _).or _).or _ = head
  cases head with
  | some err => rfl
  | none => cases validateItems cart.items 0 <;> rfl

/-- A typed cart is signed over the bytes its value is signed over. -/
theorem cartSigningBytes_value :
    Unchecked.cartSigningBytes (.ofJson cart.value) = cartSigningBytes cart := by
  have h := cartProps cart
  have hvalue : Unchecked.cartSigningValue (.ofJson cart.value) = .ofJson (cartSigningValue cart) := by
    rw [Unchecked.cartSigningValue, h.cartId, h.merchant, h.items, h.total, h.intentHash,
      cartSigningValue, JsValue.elems, List.map_map]
    have hitems : cart.items.map (Unchecked.cartItemSigningValue ∘ fun item => .ofJson item.value) =
        JsValue.ofElems (cart.items.map cartItemSigningValue) := by
      rw [JsValue.ofElems_eq_map, List.map_map]
      exact List.map_congr_left fun item _ => cartItemSigningValue_value item
    rw [hitems]
    rfl
  rw [Unchecked.cartSigningBytes, hvalue, canonicalJson_ofJson, cartSigningBytes]

end Cart

/-- **On a typed mandate the gate of Core.Verify and the unchecked one are one.** -/
theorem verifyChain_value (crypto : Crypto) (intent : IntentMandate) (cart : CartMandate)
    (ctx : VerifyCtx) :
    Unchecked.verifyChain crypto (.ofJson intent.value) (.ofJson cart.value) ctx =
      verifyChain crypto intent cart ctx := by
  have hi := requiredProps intent
  have hc := cartProps cart
  have hnullish : (JsValue.ofJson intent.value).nullish = false := rfl
  rw [Unchecked.verifyChain, Unchecked.validateIntentSchema, hnullish, if_neg (by decide),
    Unchecked.ok_bind, intentChecks_value, verifyChain]
  cases validateIntentSchema intent with
  | some err => rfl
  | none =>
  dsimp only
  rw [validateCartSchema_value, Unchecked.ok_bind]
  cases validateCartSchema cart with
  | some err => rfl
  | none =>
  cases ctx.credential with
  | none => rfl
  | some credential =>
    dsimp only
    rw [Unchecked.verifySigned, intentSigningBytes_value, asIntent_value, hc.intentHash]
    refine bind_congr fun intentBytes => bind_congr fun intentSigned => ?_
    cases intentSigned with
    | false => rfl
    | true =>
      dsimp only [Bool.not_true]
      have hlink : (JsValue.str cart.intentHashHex).isStr (crypto.sha256Hex intentBytes) =
          (cart.intentHashHex == crypto.sha256Hex intentBytes) := rfl
      have hne : (cart.intentHashHex != crypto.sha256Hex intentBytes) =
          !(cart.intentHashHex == crypto.sha256Hex intentBytes) := rfl
      simp only [Bool.not_true, Bool.false_eq_true, if_false, hlink, hne]
      cases cart.intentHashHex == crypto.sha256Hex intentBytes with
      | false => rfl
      | true =>
        simp only [Bool.not_true, Bool.false_eq_true, if_false]
        rw [Unchecked.verifyCart, cartSigningBytes_value, hc.agentSig, hi.agentKey, asIntent_value,
          asCart_value]
        refine bind_congr fun cartBytes => bind_congr fun cartSigned => ?_
        cases cartSigned with
        | false => rfl
        | true =>
          simp only [Bool.not_true, Bool.false_eq_true, if_false, Unchecked.verifyAmounts]
          split <;> rfl

/-- **On a typed body POST /settlements and the route on any body are one.** -/
theorem postSettlementsValue_ofJson (env : Env) (now : Int) (w : World)
    (idempotencyKey : Option JsString) (intent : IntentMandate) (cart : CartMandate) :
    postSettlementsValue env now w idempotencyKey (.ofJson (createSettlementBodyValue intent cart)) =
      postSettlements env now w idempotencyKey intent cart := by
  have hintent : (JsValue.ofJson (createSettlementBodyValue intent cart)).prop (js "intent") =
      .ofJson intent.value := (JsValue.prop_ofJson _ _).trans rfl
  have hcart : (JsValue.ofJson (createSettlementBodyValue intent cart)).prop (js "cart") =
      .ofJson cart.value := (JsValue.prop_ofJson _ _).trans rfl
  rw [postSettlementsValue.eq_def, canonicalJson_ofJson, hintent, hcart, asIntent_value, asCart_value]
  rfl

/-! ## Creating a settlement -/

/-- An accepted mandate and an accepted cart have a mandate-cart hash. -/
theorem computeMandateCartHash_isOk (crypto : Crypto) {intent : IntentMandate} {cart : CartMandate}
    (hintent : intentMandateSchema intent = true) (hcart : cartMandateSchema cart = true) :
    ∃ hash, computeMandateCartHash crypto intent cart = .ok hash := by
  obtain ⟨intentBytes, hi⟩ := AcceptedIntent.signingBytes ⟨intent, hintent⟩
  obtain ⟨cartBytes, hc⟩ := AcceptedCart.signingBytes ⟨cart, hcart⟩
  rw [computeMandateCartHash, hi, hc, Unchecked.ok_bind, Unchecked.ok_bind]
  exact ⟨_, bind_eq_ok.mpr ⟨_, canonicalJson_safe rfl, rfl⟩⟩

/-- A refused row is refused by one of the two partial indexes, and answered as such. -/
theorem createSettlement_refused {crypto : Crypto} {db : Db} {settlementId : JsString}
    {intent : IntentMandate} {cart : CartMandate} {now : Int} {hash : JsString} {e : Exn} {m : MandateRow}
    (hm : getMandateRow db intent.mandateId = some m)
    (hhash : computeMandateCartHash crypto intent cart = .ok hash)
    (hfresh : ∀ r ∈ db.settlements.rows, r.id ≠ settlementId)
    (h : insertSettlement db (newSettlement now settlementId intent.mandateId cart hash) = .error e) :
    Unchecked.Returns (createSettlement crypto db settlementId intent cart now) := by
  have hins : db.settlements.insert? (newSettlement now settlementId intent.mandateId cart hash) =
      none := by
    rw [insertSettlement] at h
    split at h
    · cases h
    · assumption
  have hrefused : insertSettlement db (newSettlement now settlementId intent.mandateId cart hash) =
      .error (.sqliteConstraint
        (settlementConstraint db (newSettlement now settlementId intent.mandateId cart hash))) := by
    rw [insertSettlement, hins]
  rw [createSettlement, hm]
  simp only [hhash, Unchecked.ok_bind, hrefused]
  by_cases hcart : (db.settlements.rows.any fun r =>
      r.clashCart (newSettlement now settlementId intent.mandateId cart hash)) = true
  · have hmessage : includes (js "UNIQUE constraint failed: settlements.mandate_cart_hash_hex")
        (js "mandate_cart_hash_hex") = true := by decide
    rw [settlementConstraint, if_pos hcart, if_pos hmessage]
    exact Unchecked.returns_ok _
  by_cases hlive : (db.settlements.rows.any fun r =>
      r.clashLive (newSettlement now settlementId intent.mandateId cart hash)) = true
  · have hnot : ¬ includes (js "UNIQUE constraint failed: settlements.mandate_id")
        (js "mandate_cart_hash_hex") = true := by decide
    have hmessage : includes (js "UNIQUE constraint failed: settlements.mandate_id")
        (js "settlements.mandate_id") = true := by decide
    rw [settlementConstraint, if_neg hcart, if_pos hlive, if_neg hnot, if_pos hmessage]
    exact Unchecked.returns_ok _
  · -- no index objects and the id is new, so the row would have gone in
    exfalso
    rw [Table.insert?, dif_pos fun r hr => ?_] at hins
    · cases hins
    · simp only [List.any_eq_true, not_exists, not_and, Bool.not_eq_true] at hcart hlive
      rw [SettlementRow.clash, hcart r hr, hlive r hr, Bool.or_false, Bool.or_false,
        beq_eq_false_iff_ne]
      exact hfresh r hr

/-- A row that went in had nothing in its way. -/
theorem unreserved_of_insert {crypto : Crypto} {db db' : Db} {settlementId : JsString}
    {intent : IntentMandate} {cart : CartMandate} {now : Int} {hash : JsString}
    (hhash : computeMandateCartHash crypto intent cart = .ok hash)
    (h : insertSettlement db (newSettlement now settlementId intent.mandateId cart hash) = .ok db') :
    Unreserved crypto db.settlements settlementId intent cart := by
  rw [insertSettlement] at h
  split at h
  · rename_i t ht
    have hfree := (Table.insert?_eq_some ht).2
    simp only [SettlementRow.clash, SettlementRow.clashLive, SettlementRow.clashCart, newSettlement,
      Bool.or_eq_false_iff, Bool.and_eq_false_iff, beq_eq_false_iff_ne] at hfree
    refine ⟨fun r hr => (hfree r hr).1.1, fun r hr hid => ?_, fun r hr hc heq => ?_⟩
    · rcases (hfree r hr).1.2 with (hl | hl) | hl
      · exact hl
      · cases hl
      · exact absurd hid hl
    · rcases (hfree r hr).2 with (hl | hl) | hl
      · rw [hc] at hl
        cases hl
      · cases hl
      · exact hl (Except.ok.inj (heq.symm.trans hhash))
  · cases h

/-- A settlement that was verified was verified by an answer of the gate. -/
theorem gate_of_verifySettlement {crypto : Crypto} {db₀ db : Db} {row : SettlementRow}
    {intent : IntentMandate} {cart : CartMandate} {now : Int} {ctx : VerifyCtx} {hash : JsString}
    {out : Db × CreateSettlementOutcome} (hun : Unreserved crypto db₀.settlements row.id intent cart)
    (hadd : SettlementAdded db₀.settlements db.settlements row)
    (hdb : db = { db₀ with settlements := db.settlements })
    (hctx : buildVerifyCtx crypto db₀ intent cart now none = .ok (ctx, hash))
    (h : verifySettlement crypto db row.id intent cart now = .ok out) :
    Unchecked.Returns (verifyChain crypto intent cart ctx) := by
  rw [verifySettlement, bind_eq_ok] at h
  obtain ⟨db₁, ht₁, h⟩ := h
  obtain ⟨r₁, hid₁, hm₁, hf₁⟩ := transitionSettlement_ok ht₁
  obtain ⟨rfl, hadd₁⟩ := hadd.move hm₁ hid₁
  have hdb₁ : db₁ = { db₀ with settlements := db₁.settlements } := by
    rw [hf₁, hdb]
  have hctx₁ : buildVerifyCtx crypto db₁ intent cart now (some r₁.id) = .ok (ctx, hash) := by
    have hid : (r₁.moveTo now .verifying none).id = r₁.id := moveTo_id ..
    rw [← hid] at hun ⊢
    rw [buildVerifyCtx_inserted hun hadd₁ (by simp) hdb₁, hctx]
  rw [hctx₁, Unchecked.ok_bind, bind_eq_ok] at h
  obtain ⟨result, hresult, -⟩ := h
  exact ⟨result, hresult⟩

/-- **A settlement is created, or refused with an answer, exactly when the gate can decode what it
    is asked about.** -/
theorem returns_createSettlement {crypto : Crypto} (hc : crypto.VerifiersReturn) {db : Db}
    {settlementId : JsString} {intent : IntentMandate} {cart : CartMandate} {now : Int}
    (hintent : intentMandateSchema intent = true) (hcart : cartMandateSchema cart = true)
    (hfresh : ∀ r ∈ db.settlements.rows, r.id ≠ settlementId) :
    Unchecked.Returns (createSettlement crypto db settlementId intent cart now) ↔
      ∀ m, getMandateRow db intent.mandateId = some m →
        Unreserved crypto db.settlements settlementId intent cart →
        Unchecked.Decodes crypto (.ofJson intent.value) (.ofJson cart.value) (some m.credential) := by
  cases hm : getMandateRow db intent.mandateId with
  | none =>
    refine ⟨fun _ m h => (nomatch h), fun _ => ?_⟩
    rw [createSettlement, hm]
    exact Unchecked.returns_ok _
  | some m =>
  obtain ⟨hash, hhash⟩ := computeMandateCartHash_isOk crypto hintent hcart
  obtain ⟨ctx, hctx⟩ : ∃ ctx, buildVerifyCtx crypto db intent cart now none = .ok (ctx, hash) := by
    rw [buildVerifyCtx, hhash]
    exact ⟨_, rfl⟩
  have hgate : Unchecked.Returns (verifyChain crypto intent cart ctx) ↔
      Unchecked.Decodes crypto (.ofJson intent.value) (.ofJson cart.value) (some m.credential) := by
    have hcredential : ctx.credential = some m.credential := by
      rw [(buildVerifyCtx_ok hctx).1.credential, hm]
      rfl
    rw [← verifyChain_value, Unchecked.returns_verifyChain hc, hcredential]
  cases hins : insertSettlement db (newSettlement now settlementId intent.mandateId cart hash) with
  | error e =>
    refine ⟨fun _ _ _ hun => ?_, fun _ => createSettlement_refused hm hhash hfresh hins⟩
    obtain ⟨db', hok⟩ := hun.insert hhash now
    cases hins.symm.trans hok
  | ok db₁ =>
    have hun := unreserved_of_insert hhash hins
    constructor
    · rintro ⟨out, h⟩ m' hm' -
      obtain rfl := Option.some.inj hm'
      obtain ⟨hadd, hdb₁⟩ := insertSettlement_ok hins
      rw [createSettlement, hm] at h
      simp only [hhash, Unchecked.ok_bind, hins] at h
      exact hgate.mp (gate_of_verifySettlement hun hadd hdb₁ hctx h)
    · intro h
      obtain ⟨result, hresult⟩ := hgate.mpr (h m rfl hun)
      rcases createSettlement_verdict hun hintent hcart hctx hresult with ⟨_, -, hrun⟩ |
        ⟨_, _, _, hrun, -⟩
      · exact ⟨_, hrun⟩
      · exact ⟨_, hrun⟩

/-! ## The key -/

/-- The response to the key is stored. -/
def KeyCompleted (db : Db) (key : JsString) : Prop :=
  ∃ r ∈ db.idempotencyKeys.rows, r.key = key ∧ r.responseStatus.isSome ∧ r.responseBody.isSome

instance (db : Db) (key : JsString) : Decidable (KeyCompleted db key) :=
  inferInstanceAs (Decidable (∃ r ∈ db.idempotencyKeys.rows,
    r.key = key ∧ r.responseStatus.isSome ∧ r.responseBody.isSome))

/-- **A claimed key is completed exactly when the settlement is created or refused**; an exception
    rolls the transaction back and leaves it claimed. -/
theorem keyCompleted_settle {env : Env} {now : Int} {w : World} {settlementId key : JsString}
    {intent : IntentMandate} {cart : CartMandate} (hintent : intentMandateSchema intent = true)
    (hcart : cartMandateSchema cart = true) (hkey : key ≠ [])
    (hfresh : ∀ r ∈ w.db.idempotencyKeys.rows, r.key ≠ key) :
    ∃ keys, KeyCompleted (settle env now settlementId w key intent cart).db key ↔
      Unchecked.Returns (createSettlement env.crypto { w.db with idempotencyKeys := keys }
        settlementId intent cart now) := by
  obtain ⟨row, keys, hrow, hstatus, hins, hclaim⟩ :=
    postSettlements_fresh env now hintent hcart hkey hfresh
  refine ⟨keys, ?_⟩
  let w₁ := w.commit { w.db with idempotencyKeys := keys }
  have hsettle : settle env now settlementId w key intent cart =
      (settlementClaimed env now settlementId w₁ key intent cart).world := by
    rw [settle, hclaim]
  rw [hsettle]
  cases hrun : createSettlement env.crypto w₁.db settlementId intent cart now with
  | error e =>
    have htransaction : settlementTransaction env now w₁.db settlementId key intent cart =
        .error e := by
      rw [settlementTransaction, hrun]
      rfl
    rw [settlementClaimed, htransaction]
    refine ⟨fun h => ?_, fun h => ?_⟩
    · obtain ⟨r, hr, hk, hs, -⟩ := h
      exfalso
      rcases (Table.mem_insert? hins).mp hr with hr | rfl
      · exact hfresh r hr hk
      · rw [hstatus] at hs
        cases hs
    · obtain ⟨out, hout⟩ := h
      cases hrun.symm.trans hout
  | ok out =>
    obtain ⟨db', outcome⟩ := out
    obtain ⟨db'', hcomplete, -⟩ := completeIdempotencyKey_isOk db' key outcome.body.settlementId?
      outcome.status outcome.body
    have htransaction : settlementTransaction env now w₁.db settlementId key intent cart =
        .ok (db'', outcome) := by
      simp only [settlementTransaction, hrun, hcomplete, bind, Except.bind, pure, Except.pure]
    have hkeys := settlementTransaction_keys htransaction
    refine ⟨fun _ => ⟨_, hrun⟩, fun _ => ?_⟩
    have hdb : (settlementClaimed env now settlementId w₁ key intent cart).world.db = db'' := by
      rw [settlementClaimed, htransaction]
      show (World.emit _ _).db = _
      rw [World.emit_db]
      split <;> rfl
    have hmem : row ∈ keys.rows := (Table.mem_insert? hins).mpr (Or.inr rfl)
    refine ⟨row.complete outcome.body.settlementId? outcome.status outcome.body, ?_, hrow, rfl, rfl⟩
    rw [hdb]
    exact (Table.mem_update? hkeys).mpr (Or.inl ⟨row, hmem, beq_iff_eq.mpr hrow, rfl⟩)

/-- **The gate answers, and the key is completed, exactly where everything on the way to the verdict
    can be decoded.** -/
theorem gate_returns_iff {env : Env} (hc : env.crypto.VerifiersReturn) :
    (∀ (intent cart : JsValue) (ctx : VerifyCtx),
      (∃ result, Unchecked.verifyChain env.crypto intent cart ctx = .ok result) ↔
        Unchecked.Decodes env.crypto intent cart ctx.credential) ∧
    ∀ (now : Int) (w : World) (settlementId key : JsString) (intent : IntentMandate)
      (cart : CartMandate), intentMandateSchema intent = true → cartMandateSchema cart = true →
      key ≠ [] → (∀ r ∈ w.db.idempotencyKeys.rows, r.key ≠ key) →
      (∀ r ∈ w.db.settlements.rows, r.id ≠ settlementId) →
      (KeyCompleted (settle env now settlementId w key intent cart).db key ↔
        ∀ m, getMandateRow w.db intent.mandateId = some m →
          Unreserved env.crypto w.db.settlements settlementId intent cart →
          Unchecked.Decodes env.crypto (.ofJson intent.value) (.ofJson cart.value)
            (some m.credential)) := by
  constructor
  · intro intent cart ctx
    exact Unchecked.returns_verifyChain hc
  · intro now w settlementId key intent cart hintent hcart hkey hfresh hid
    obtain ⟨keys, hkeys⟩ := @keyCompleted_settle env now w settlementId key intent cart hintent hcart
      hkey hfresh
    exact hkeys.trans (returns_createSettlement hc hintent hcart hid)

theorem demoEnv_verifiersReturn : demoEnv.crypto.VerifiersReturn :=
  ⟨fun _ _ _ => ⟨true, rfl⟩, fun _ _ _ => ⟨true, rfl⟩⟩

theorem gate_returns_iff_demo : ∃ s : Sys, Reachable demoEnv s ∧
    Unchecked.Decodes demoEnv.crypto (.ofJson demoIntent.value) (.ofJson demoCart.value) none ∧
    (Unreserved demoEnv.crypto s.world.db.settlements (js "s1") demoIntent demoCart →
      ∀ m, getMandateRow s.world.db demoIntent.mandateId = some m →
        Unchecked.Decodes demoEnv.crypto (.ofJson demoIntent.value) (.ofJson demoCart.value)
          (some m.credential)) := by
  obtain ⟨s, hreach, hp⟩ := reachable_of_run demoEnv demoRegistered
    (fun s => s.world.db.settlements.rows.isEmpty && s.world.db.idempotencyKeys.rows.isEmpty &&
      decide (KeyCompleted (settle demoEnv 1000 (js "s1") s.world (js "key") demoIntent demoCart).db
        (js "key")))
    (by decide +kernel)
  simp only [Bool.and_eq_true, List.isEmpty_iff, decide_eq_true_eq] at hp
  obtain ⟨⟨hsettlements, hkeys⟩, hcompleted⟩ := hp
  have hdecodes := ((gate_returns_iff demoEnv_verifiersReturn).1 (.ofJson demoIntent.value)
    (.ofJson demoCart.value) ⟨0, none, false, none, none, none, false, none⟩).mp (by
      rw [verifyChain_value, verifyChain, validateIntentSchema_of_schema (by decide),
        validateCartSchema_of_schema (by decide)]
      exact ⟨_, rfl⟩)
  have hkey := ((gate_returns_iff demoEnv_verifiersReturn).2 1000 s.world (js "s1") (js "key")
    demoIntent demoCart (by decide) (by decide) (by decide)
    (by rw [hkeys]; exact fun r hr => absurd hr List.not_mem_nil)
    (by rw [hsettlements]; exact fun r hr => absurd hr List.not_mem_nil)).mp hcompleted
  exact ⟨s, hreach, hdecodes, fun hun m hm => hkey m hm hun⟩

/-- `demoIntent` under a signature of three hexadecimal digits. -/
def oddIntent : IntentMandate := { demoIntent with sig := .ed25519 (js "abc") }

/-- **A signature of odd length is thrown at**, and the key of its request stays claimed. -/
theorem odd_signature_locks_key : demoEnv.crypto.VerifiersReturn ∧
    intentMandateSchema oddIntent = true ∧ cartMandateSchema demoCart = true ∧
    (∃ ctx e, Unchecked.verifyChain demoEnv.crypto (.ofJson oddIntent.value)
      (.ofJson demoCart.value) ctx = .error e) ∧
    ∃ s : Sys, Reachable demoEnv s ∧ (∀ r ∈ s.world.db.idempotencyKeys.rows, r.key ≠ js "key") ∧
      (∃ r ∈ (settle demoEnv 1000 (js "s1") s.world (js "key") oddIntent
        demoCart).db.idempotencyKeys.rows, r.key = js "key") ∧
      ¬ KeyCompleted (settle demoEnv 1000 (js "s1") s.world (js "key") oddIntent demoCart).db
        (js "key") := by
  have hintent : intentMandateSchema oddIntent = true := by decide
  have hcart : cartMandateSchema demoCart = true := by decide
  obtain ⟨bytes, hbytes⟩ := AcceptedIntent.signingBytes ⟨oddIntent, hintent⟩
  refine ⟨demoEnv_verifiersReturn, hintent, hcart,
    ⟨⟨1000, some (.ed25519 (js "bb")), false, none, none, none, false, none⟩,
      .error (js "hexToBytes: odd-length hex string"), ?_⟩, ?_⟩
  · rw [verifyChain_value, verifyChain, validateIntentSchema_of_schema hintent,
      validateCartSchema_of_schema hcart]
    dsimp only
    rw [hbytes]
    rfl
  obtain ⟨s, hreach, hp⟩ := reachable_of_run demoEnv demoRegistered
    (fun s => s.world.db.idempotencyKeys.rows.isEmpty &&
      ((settle demoEnv 1000 (js "s1") s.world (js "key") oddIntent
        demoCart).db.idempotencyKeys.rows.any fun r => r.key == js "key") &&
      !decide (KeyCompleted (settle demoEnv 1000 (js "s1") s.world (js "key") oddIntent demoCart).db
        (js "key")))
    (by decide +kernel)
  simp only [Bool.and_eq_true, List.isEmpty_iff, List.any_eq_true, beq_iff_eq, Bool.not_eq_true',
    decide_eq_false_iff_not] at hp
  obtain ⟨⟨hkeys, hclaimed⟩, hlocked⟩ := hp
  refine ⟨s, hreach, ?_, hclaimed, hlocked⟩
  rw [hkeys]
  exact fun r hr => absurd hr List.not_mem_nil

end Hundi
