/-
  packages/core/src/verify.ts — the mandate-chain verification gate.

  `verifyChain` runs its checks in a fixed order and reports the first that fails.  A value of the
  types of mandate.ts has the right JSON types already, so of the structural checks the ones on
  types hold by construction; the others are kept with their texts.

  `ChainLaw` says what the gate is for, in its own terms and with exact arithmetic.  Callers use
  `verifyChain_accepted` (what an accepting run passed through), `Accepted.law` (it meets the law)
  and `not_needsApproval` (what the approval decision means).
-/
import Hundi.Core.Signature

namespace Hundi

open Js

inductive RejectionCode where
  | SCHEMA_INVALID | MANDATE_UNKNOWN | SIG_INVALID_INTENT | HASH_LINK_MISMATCH | SIG_INVALID_CART
  | LINE_ITEM_INVALID | PRICE_MISMATCH | CURRENCY_MISMATCH | MERCHANT_NOT_IN_SCOPE
  | MANDATE_EXPIRED | MANDATE_REVOKED | AMOUNT_EXCEEDS_CEILING | MERCHANT_LIMIT_EXCEEDED
  | GOAL_MISMATCH | ALLOWANCE_RESERVED | DUPLICATE_CART
  deriving DecidableEq

/-- The code as the string the ledger and the responses carry. -/
def RejectionCode.text : RejectionCode → JsString
  | .SCHEMA_INVALID => js "SCHEMA_INVALID"
  | .MANDATE_UNKNOWN => js "MANDATE_UNKNOWN"
  | .SIG_INVALID_INTENT => js "SIG_INVALID_INTENT"
  | .HASH_LINK_MISMATCH => js "HASH_LINK_MISMATCH"
  | .SIG_INVALID_CART => js "SIG_INVALID_CART"
  | .LINE_ITEM_INVALID => js "LINE_ITEM_INVALID"
  | .PRICE_MISMATCH => js "PRICE_MISMATCH"
  | .CURRENCY_MISMATCH => js "CURRENCY_MISMATCH"
  | .MERCHANT_NOT_IN_SCOPE => js "MERCHANT_NOT_IN_SCOPE"
  | .MANDATE_EXPIRED => js "MANDATE_EXPIRED"
  | .MANDATE_REVOKED => js "MANDATE_REVOKED"
  | .AMOUNT_EXCEEDS_CEILING => js "AMOUNT_EXCEEDS_CEILING"
  | .MERCHANT_LIMIT_EXCEEDED => js "MERCHANT_LIMIT_EXCEEDED"
  | .GOAL_MISMATCH => js "GOAL_MISMATCH"
  | .ALLOWANCE_RESERVED => js "ALLOWANCE_RESERVED"
  | .DUPLICATE_CART => js "DUPLICATE_CART"

structure VerifyCtx where
  now : Int
  credential : Option Credential
  revoked : Bool
  spentPaise : Option Int
  merchantSpentPaise : Option Int
  catalogPrices : Option Record
  duplicateCart : Bool
  clockSkewSec : Option Int

inductive VerifyResult where
  | ok (needsApproval : Bool) (mandateCartHashHex : JsString)
  | fail (reason : RejectionCode) (detail : Option JsString)

/-! ## Structural checks -/

/-- `isNonEmptyString(v)` of a string. -/
def isNonEmptyString (s : JsString) : Bool := !s.isEmpty

/-- `isValidSigEnvelope(v)`. -/
def isValidSigEnvelope : SigEnvelope → Bool
  | .ed25519 signatureHex => isNonEmptyString signatureHex
  | .webauthnEs256 clientData authenticatorData signature =>
    isNonEmptyString clientData && isNonEmptyString authenticatorData && isNonEmptyString signature

/-- `if (bad) return value`: the value of an early return, if it is taken. -/
def returnIf {α : Type} (bad : Bool) (value : α) : Option α := if bad then some value else none

@[simp] theorem returnIf_eq_none {α : Type} {bad : Bool} {value : α} :
    returnIf bad value = none ↔ bad = false := by
  cases bad <;> simp [returnIf]

theorem returnIf_eq_some {α : Type} {bad : Bool} {value v : α} :
    returnIf bad value = some v ↔ bad = true ∧ value = v := by
  cases bad <;> simp [returnIf]

/-- The loop over the entries of `per_merchant_ceiling_paise`. -/
def validateLimits : Record → Option JsString
  | [] => none
  | (merchant, limit) :: rest =>
    returnIf (!isNonEmptyString merchant)
      (js "per_merchant_ceiling_paise keys must be merchant ids") <|>
    returnIf (!isSafeInt limit || limit < 0)
      (js "per_merchant_ceiling_paise[" ++ merchant ++ js "] must be a non-negative integer") <|>
    validateLimits rest

/-- `validateIntentSchema(intent)`: the text of the first failing check. -/
def validateIntentSchema (intent : IntentMandate) : Option JsString :=
  returnIf (!isNonEmptyString intent.mandateId) (js "mandateId must be a non-empty string") <|>
  returnIf (!isNonEmptyString intent.goal) (js "goal must be a non-empty string") <|>
  returnIf (!isSafeInt intent.ceilingPaise || intent.ceilingPaise ≤ 0)
    (js "ceiling_paise must be a positive integer") <|>
  returnIf (!isSafeInt intent.approvalThresholdPaise || intent.approvalThresholdPaise < 0)
    (js "approval_threshold_paise must be a non-negative integer") <|>
  returnIf intent.merchants.isEmpty (js "merchants must be a non-empty array") <|>
  returnIf (!intent.merchants.all isNonEmptyString)
    (js "merchants must all be non-empty strings") <|>
  returnIf (!isSafeInt intent.expiresAt) (js "expires_at must be an integer unix timestamp") <|>
  returnIf (!isNonEmptyString intent.agentPubkeyHex)
    (js "agent_pubkey_hex must be a non-empty string") <|>
  intent.perMerchantCeilingPaise.bind validateLimits <|>
  returnIf (intent.cumulativeApprovalThresholdPaise.any fun line => !isSafeInt line || line < 0)
    (js "cumulative_approval_threshold_paise must be a non-negative integer") <|>
  returnIf (intent.allowedSkus.any fun skus => skus.isEmpty)
    (js "allowed_skus must be a non-empty array of non-empty strings") <|>
  returnIf (intent.allowedSkus.any fun skus => !skus.all isNonEmptyString)
    (js "allowed_skus must be a non-empty array of non-empty strings") <|>
  returnIf (!isValidSigEnvelope intent.sig) (js "sig is not a valid signature envelope")

/-- `validateCartItemSchema(item, index)`. -/
def validateCartItemSchema (item : CartItem) (index : Nat) : Option JsString :=
  let field := js "items[" ++ decimal index ++ js "]"
  returnIf (!isNonEmptyString item.sku) (field ++ js ".sku must be a non-empty string") <|>
  returnIf (!isSafeInt item.qty || item.qty < 1) (field ++ js ".qty must be an integer >= 1") <|>
  returnIf (!isSafeInt item.unitPricePaise || item.unitPricePaise ≤ 0)
    (field ++ js ".unit_price_paise must be a positive integer") <|>
  returnIf (item.variantId.any fun id => !isNonEmptyString id)
    (field ++ js ".variant_id must be a non-empty string when present")

/-- The loop over `cart.items`, from index `i` on. -/
def validateItems : List CartItem → Nat → Option JsString
  | [], _ => none
  | item :: rest, i => validateCartItemSchema item i <|> validateItems rest (i + 1)

/-- `validateCartSchema(cart)`. -/
def validateCartSchema (cart : CartMandate) : Option JsString :=
  returnIf (!isNonEmptyString cart.cartId) (js "cartId must be a non-empty string") <|>
  returnIf (!isNonEmptyString cart.merchantId) (js "merchant_id must be a non-empty string") <|>
  returnIf cart.items.isEmpty (js "items must be a non-empty array") <|>
  validateItems cart.items 0 <|>
  returnIf (!isSafeInt cart.totalPaise || cart.totalPaise < 0)
    (js "total_paise must be a non-negative integer") <|>
  returnIf (!isNonEmptyString cart.intentHashHex)
    (js "intent_hash_hex must be a non-empty string") <|>
  returnIf (!isNonEmptyString cart.agentSigHex) (js "agent_sig_hex must be a non-empty string")

/-! ## The gate -/

/-- The first item whose price is not the registered one. -/
def priceMismatch (catalogPrices : Record) (items : List CartItem) : Option CartItem :=
  items.find? fun item => catalogPrices.get? item.sku != some item.unitPricePaise

/-- The first item whose SKU is not in the allowed set. -/
def skuOutOfScope (allowedSkus : List JsString) (items : List CartItem) : Option CartItem :=
  items.find? fun item => !allowedSkus.contains item.sku

/-- `cart.items.reduce((sum, item) => sum + item.qty * item.unit_price_paise, 0)`. -/
def recomputedTotal (items : List CartItem) : Int :=
  jsSum (items.map fun item => jsMul item.qty item.unitPricePaise)

/-- The object a mandate-cart hash is the hash of. -/
def mandateCartValue (intentHashHex cartHashHex : JsString) : JsonValue :=
  .obj [(js "intent_hash", .str intentHashHex), (js "cart_hash", .str cartHashHex)]

/-- The hash of an intent hash and a cart hash: `sha256Hex(canonicalJson({intent_hash, cart_hash}))`. -/
def mandateCartHash (crypto : Crypto) (intentHashHex cartHashHex : JsString) : Except Exn JsString := do
  let bytes ← canonicalJson (mandateCartValue intentHashHex cartHashHex)
  return crypto.sha256Hex bytes

/-- The checks of `verifyChain` after the line sum, in order: the first that fails. -/
def verifyPolicy (intent : IntentMandate) (cart : CartMandate) (ctx : VerifyCtx) :
    Option (RejectionCode × Option JsString) :=
  let spentPaise := ctx.spentPaise.getD 0
  let merchantSpent := ctx.merchantSpentPaise.getD 0
  ((ctx.catalogPrices.bind fun prices => priceMismatch prices cart.items).map fun item =>
    (.PRICE_MISMATCH, some (js "sku " ++ item.sku ++ js " price does not match catalog"))) <|>
  returnIf (intent.currency != js "INR") (.CURRENCY_MISMATCH, none) <|>
  returnIf (!intent.merchants.contains cart.merchantId) (.MERCHANT_NOT_IN_SCOPE, none) <|>
  -- exact: `Date` keeps `now` far below 2^53, where rounding the sum changes no comparison
  returnIf (ctx.now > intent.expiresAt + ctx.clockSkewSec.getD 60) (.MANDATE_EXPIRED, none) <|>
  returnIf ctx.revoked (.MANDATE_REVOKED, none) <|>
  ((intent.allowedSkus.filter fun skus => !skus.isEmpty).bind fun skus =>
    (skuOutOfScope skus cart.items).map fun item =>
      (.GOAL_MISMATCH, some (js "sku " ++ item.sku ++ js " is not in the mandate's allowed set [" ++
        join (js ", ") skus ++ js "]"))) <|>
  returnIf (jsAdd spentPaise cart.totalPaise > intent.ceilingPaise)
    (.AMOUNT_EXCEEDS_CEILING, some (js "cart " ++ showInt cart.totalPaise ++
      js " + already-spent " ++ showInt spentPaise ++ js " exceeds ceiling " ++
      showInt intent.ceilingPaise)) <|>
  -- what the object inherits under the merchant's name is no number, and no sum is above it
  ((intent.perMerchantCeilingPaise.bind fun limits => limits.get? cart.merchantId).bind
    fun merchantLimit =>
      returnIf (jsAdd merchantSpent cart.totalPaise > merchantLimit)
        (.MERCHANT_LIMIT_EXCEEDED, some (js "cart " ++ showInt cart.totalPaise ++
          js " + already-spent-at-merchant " ++ showInt merchantSpent ++ js " exceeds the " ++
          cart.merchantId ++ js " limit " ++ showInt merchantLimit))) <|>
  returnIf ctx.duplicateCart (.DUPLICATE_CART, none)

/-- The approval decision: over the per-cart threshold, or across the cumulative line. -/
def needsApproval (intent : IntentMandate) (cart : CartMandate) (spentPaise : Int) : Bool :=
  cart.totalPaise > intent.approvalThresholdPaise ||
    intent.cumulativeApprovalThresholdPaise.any fun line => jsAdd spentPaise cart.totalPaise > line

/-- `verifyChain(intent, cart, ctx)`. -/
def verifyChain (crypto : Crypto) (intent : IntentMandate) (cart : CartMandate) (ctx : VerifyCtx) :
    Except Exn VerifyResult :=
  match validateIntentSchema intent with
  | some err => .ok (.fail .SCHEMA_INVALID (some err))
  | none =>
  match validateCartSchema cart with
  | some err => .ok (.fail .SCHEMA_INVALID (some err))
  | none =>
  match ctx.credential with
  | none => .ok (.fail .MANDATE_UNKNOWN (some (js "no credential registered for this agent key")))
  | some credential => do
    let intentBytes ← intentSigningBytes intent
    let intentSigned ← verifyMandateSignature crypto intentBytes intent.sig credential
    if !intentSigned then return .fail .SIG_INVALID_INTENT none
    else
      let intentHashHex := crypto.sha256Hex intentBytes
      if cart.intentHashHex != intentHashHex then return .fail .HASH_LINK_MISMATCH none
      else
        let cartBytes ← cartSigningBytes cart
        let cartSigned ← verifyMandateSignature crypto cartBytes (.ed25519 cart.agentSigHex)
          (.ed25519 intent.agentPubkeyHex)
        if !cartSigned then return .fail .SIG_INVALID_CART none
        else if recomputedTotal cart.items != cart.totalPaise then
          return .fail .LINE_ITEM_INVALID
            (some (js "total_paise does not match sum(qty * unit_price_paise)"))
        else
          match verifyPolicy intent cart ctx with
          | some (reason, detail) => return .fail reason detail
          | none =>
            let hash ← mandateCartHash crypto intentHashHex (crypto.sha256Hex cartBytes)
            return .ok (needsApproval intent cart (ctx.spentPaise.getD 0)) hash

/-! ## What an accepted chain meets -/

/-- What the gate guarantees of an intent and a cart, stated without reference to how the checks
    are made or rounded: the authority is valid, signed, live and unrevoked, the cart is signed by
    the agent it names and chained to it, it is in scope at the registered prices, it adds up, and
    it fits into both ceilings. -/
structure ChainLaw (crypto : Crypto) (intent : IntentMandate) (cart : CartMandate)
    (ctx : VerifyCtx) : Prop where
  intentSigned : ∃ credential bytes, ctx.credential = some credential ∧
    intentSigningBytes intent = .ok bytes ∧
    verifyMandateSignature crypto bytes intent.sig credential = .ok true ∧
    cart.intentHashHex = crypto.sha256Hex bytes
  cartSigned : ∃ bytes, cartSigningBytes cart = .ok bytes ∧
    verifyMandateSignature crypto bytes (.ed25519 cart.agentSigHex)
      (.ed25519 intent.agentPubkeyHex) = .ok true
  lineSum : (cart.items.map fun item => item.qty * item.unitPricePaise).sum = cart.totalPaise
  prices : ∀ prices, ctx.catalogPrices = some prices →
    ∀ item ∈ cart.items, prices.get? item.sku = some item.unitPricePaise
  currency : intent.currency = js "INR"
  merchant : cart.merchantId ∈ intent.merchants
  live : ctx.now ≤ intent.expiresAt + ctx.clockSkewSec.getD 60
  notRevoked : ctx.revoked = false
  skus : ∀ skus, intent.allowedSkus = some skus → ∀ item ∈ cart.items, item.sku ∈ skus
  total_nonneg : 0 ≤ cart.totalPaise
  ceiling : ctx.spentPaise.getD 0 + cart.totalPaise ≤ intent.ceilingPaise
  ceiling_safe : intent.ceilingPaise ≤ maxSafe
  merchantCeiling : ∀ limits limit, intent.perMerchantCeilingPaise = some limits →
    limits.get? cart.merchantId = some limit →
    ctx.merchantSpentPaise.getD 0 + cart.totalPaise ≤ limit

theorem le_maxSafe {n : Int} (h : isSafeInt n = true) : n ≤ maxSafe := by
  simp only [isSafeInt, Bool.and_eq_true, decide_eq_true_eq] at h
  exact h.2

/-- The entries of a valid `per_merchant_ceiling_paise`. -/
theorem validateLimits_none : ∀ {limits : Record}, validateLimits limits = none →
    ∀ e ∈ limits, isSafeInt e.2 = true ∧ 0 ≤ e.2
  | [], _, e, he => absurd he List.not_mem_nil
  | (merchant, limit) :: rest, h, e, he => by
    simp only [validateLimits, Option.orElse_eq_orElse, Option.orElse_eq_or, Option.or_eq_none_iff, returnIf_eq_none,
      Bool.or_eq_false_iff, Bool.not_eq_false', decide_eq_false_iff_not, not_lt] at h
    obtain ⟨-, hlimit, hrest⟩ := h
    rcases List.mem_cons.mp he with rfl | he
    · exact hlimit
    · exact validateLimits_none hrest e he

/-- The numeric facts of a valid intent. -/
structure ValidIntent (intent : IntentMandate) : Prop where
  ceiling : isSafeInt intent.ceilingPaise = true
  threshold : isSafeInt intent.approvalThresholdPaise = true
  limits : ∀ limits, intent.perMerchantCeilingPaise = some limits →
    ∀ e ∈ limits, isSafeInt e.2 = true ∧ 0 ≤ e.2
  line : ∀ line, intent.cumulativeApprovalThresholdPaise = some line → isSafeInt line = true
  skus : ∀ skus, intent.allowedSkus = some skus → skus.isEmpty = false

theorem validateIntentSchema_none {intent : IntentMandate} (h : validateIntentSchema intent = none) :
    ValidIntent intent := by
  simp only [validateIntentSchema, Option.orElse_eq_orElse, Option.orElse_eq_or, Option.or_eq_none_iff, returnIf_eq_none,
    Bool.or_eq_false_iff, Bool.not_eq_false'] at h
  obtain ⟨-, -, hceiling, hthreshold, -, -, -, -, hlimits, hline, hskus, -, -⟩ := h
  refine ⟨hceiling.1, hthreshold.1, ?_, ?_, ?_⟩
  · intro limits hl
    rw [hl, Option.bind_some] at hlimits
    exact validateLimits_none hlimits
  · intro line hl
    rw [hl, Option.any_some, Bool.or_eq_false_iff, Bool.not_eq_false'] at hline
    exact hline.1
  · intro skus hs
    rw [hs, Option.any_some] at hskus
    exact hskus

/-- The quantities and prices of valid items are not negative. -/
theorem validateItems_none : ∀ {items : List CartItem} {i : Nat}, validateItems items i = none →
    ∀ item ∈ items, 0 ≤ item.qty ∧ 0 ≤ item.unitPricePaise
  | [], _, _, item, hitem => absurd hitem List.not_mem_nil
  | first :: rest, i, h, item, hitem => by
    rw [validateItems, Option.orElse_eq_orElse, Option.orElse_eq_or, Option.or_eq_none_iff] at h
    obtain ⟨hfirst, hrest⟩ := h
    rcases List.mem_cons.mp hitem with rfl | hitem
    · simp only [validateCartItemSchema, Option.orElse_eq_orElse, Option.orElse_eq_or, Option.or_eq_none_iff,
        returnIf_eq_none, Bool.or_eq_false_iff, decide_eq_false_iff_not, not_lt, not_le] at hfirst
      obtain ⟨-, hqty, hprice, -⟩ := hfirst
      exact ⟨by omega, by omega⟩
    · exact validateItems_none hrest item hitem

/-- The numeric facts of a valid cart. -/
theorem validateCartSchema_none {cart : CartMandate} (h : validateCartSchema cart = none) :
    isSafeInt cart.totalPaise = true ∧ 0 ≤ cart.totalPaise ∧
      ∀ item ∈ cart.items, 0 ≤ item.qty ∧ 0 ≤ item.unitPricePaise := by
  simp only [validateCartSchema, Option.orElse_eq_orElse, Option.orElse_eq_or, Option.or_eq_none_iff, returnIf_eq_none,
    Bool.or_eq_false_iff, Bool.not_eq_false', decide_eq_false_iff_not, not_lt] at h
  obtain ⟨-, -, -, hitems, htotal, -, -⟩ := h
  exact ⟨htotal.1, htotal.2, validateItems_none hitems⟩

/-- A rounded line sum that equals a safe total is the exact line sum. -/
theorem recomputedTotal_exact {items : List CartItem}
    (hitems : ∀ item ∈ items, 0 ≤ item.qty ∧ 0 ≤ item.unitPricePaise)
    (h : recomputedTotal items ≤ maxSafe) :
    recomputedTotal items = (items.map fun item => item.qty * item.unitPricePaise).sum := by
  have hprod : ∀ item ∈ items, 0 ≤ item.qty * item.unitPricePaise := fun item hi =>
    Int.mul_nonneg (hitems item hi).1 (hitems item hi).2
  have hnonneg : ∀ x ∈ items.map (fun item => jsMul item.qty item.unitPricePaise), 0 ≤ x := by
    intro x hx
    obtain ⟨item, hi, rfl⟩ := List.mem_map.mp hx
    exact jsRound_nonneg (hprod item hi)
  rw [recomputedTotal, jsSum_eq hnonneg h]
  congr 1
  refine List.map_congr_left fun item hi => ?_
  exact jsRound_of_lt (hprod item hi) (le_of_jsSum hnonneg h _ (List.mem_map_of_mem hi))

/-- The codes of the checks after the price check. -/
def RejectionCode.isPolicy : RejectionCode → Bool
  | .CURRENCY_MISMATCH | .MERCHANT_NOT_IN_SCOPE | .MANDATE_EXPIRED | .MANDATE_REVOKED
  | .AMOUNT_EXCEEDS_CEILING | .MERCHANT_LIMIT_EXCEEDED | .GOAL_MISMATCH | .DUPLICATE_CART => true
  | _ => false

/-- The code of a failing check after the signatures: one of its own for the prices. -/
theorem verifyPolicy_reason {intent : IntentMandate} {cart : CartMandate} {ctx : VerifyCtx}
    {reason : RejectionCode} {detail : Option JsString}
    (h : verifyPolicy intent cart ctx = some (reason, detail)) :
    (reason = .PRICE_MISMATCH ∧
      ∃ item, (ctx.catalogPrices.bind fun prices => priceMismatch prices cart.items) = some item) ∨
    reason.isPolicy = true := by
  simp only [verifyPolicy, Option.orElse_eq_orElse, Option.orElse_eq_or, Option.or_eq_some_iff,
    Option.map_eq_some_iff, Option.bind_eq_some_iff, returnIf_eq_some, Prod.mk.injEq] at h
  rcases h with ⟨item, hitem, rfl, -⟩ | ⟨-, h⟩
  · exact Or.inl ⟨rfl, item, Option.bind_eq_some_iff.mpr hitem⟩
  refine Or.inr ?_
  rcases h with ⟨-, rfl, -⟩ | ⟨-, ⟨-, rfl, -⟩ | ⟨-, ⟨-, rfl, -⟩ | ⟨-, ⟨-, rfl, -⟩ |
    ⟨-, ⟨-, -, -, -, rfl, -⟩ | ⟨-, ⟨-, rfl, -⟩ | ⟨-, ⟨-, -, -, rfl, -⟩ | ⟨-, -, rfl, -⟩⟩⟩⟩⟩⟩⟩ <;> rfl

/-- What the checks after the signatures guarantee. -/
theorem verifyPolicy_none {intent : IntentMandate} {cart : CartMandate} {ctx : VerifyCtx}
    (h : verifyPolicy intent cart ctx = none) :
    (∀ prices, ctx.catalogPrices = some prices → priceMismatch prices cart.items = none) ∧
    intent.currency = js "INR" ∧ cart.merchantId ∈ intent.merchants ∧
    ctx.now ≤ intent.expiresAt + ctx.clockSkewSec.getD 60 ∧ ctx.revoked = false ∧
    (∀ skus, intent.allowedSkus = some skus → skus.isEmpty = false →
      skuOutOfScope skus cart.items = none) ∧
    jsAdd (ctx.spentPaise.getD 0) cart.totalPaise ≤ intent.ceilingPaise ∧
    (∀ limits limit, intent.perMerchantCeilingPaise = some limits →
      limits.get? cart.merchantId = some limit →
      jsAdd (ctx.merchantSpentPaise.getD 0) cart.totalPaise ≤ limit) := by
  simp only [verifyPolicy, Option.orElse_eq_orElse, Option.orElse_eq_or, Option.or_eq_none_iff, returnIf_eq_none,
    Option.map_eq_none_iff, decide_eq_false_iff_not, gt_iff_lt, not_lt, bne_eq_false_iff_eq,
    Bool.not_eq_false', List.contains_iff_mem] at h
  obtain ⟨hprices, hcurrency, hmerchant, hlive, hrevoked, hskus, hceiling, hlimit, -⟩ := h
  refine ⟨?_, hcurrency, hmerchant, hlive, hrevoked, ?_, hceiling, ?_⟩
  · intro prices hp
    rw [hp] at hprices
    exact hprices
  · intro skus hs hne
    rw [hs, Option.filter_some, if_pos (by rw [hne]; decide), Option.bind_some,
      Option.map_eq_none_iff] at hskus
    exact hskus
  · intro limits limit hl hget
    rw [hl, Option.bind_some, hget, Option.bind_some, returnIf_eq_none, decide_eq_false_iff_not,
      not_lt] at hlimit
    exact hlimit

theorem verifyPolicy_notDuplicate {intent : IntentMandate} {cart : CartMandate} {ctx : VerifyCtx}
    (h : verifyPolicy intent cart ctx = none) : ctx.duplicateCart = false := by
  simp only [verifyPolicy, Option.orElse_eq_orElse, Option.orElse_eq_or, Option.or_eq_none_iff,
    returnIf_eq_none] at h
  obtain ⟨-, -, -, -, -, -, -, -, hduplicate⟩ := h
  exact hduplicate

/-- Everything an accepting run of `verifyChain` passed through. -/
structure Accepted (crypto : Crypto) (intent : IntentMandate) (cart : CartMandate) (ctx : VerifyCtx)
    (approval : Bool) : Prop where
  intentSchema : validateIntentSchema intent = none
  cartSchema : validateCartSchema cart = none
  intentSigned : ∃ credential bytes, ctx.credential = some credential ∧
    intentSigningBytes intent = .ok bytes ∧
    verifyMandateSignature crypto bytes intent.sig credential = .ok true ∧
    cart.intentHashHex = crypto.sha256Hex bytes
  cartSigned : ∃ bytes, cartSigningBytes cart = .ok bytes ∧
    verifyMandateSignature crypto bytes (.ed25519 cart.agentSigHex)
      (.ed25519 intent.agentPubkeyHex) = .ok true
  total : recomputedTotal cart.items = cart.totalPaise
  policy : verifyPolicy intent cart ctx = none
  decision : approval = needsApproval intent cart (ctx.spentPaise.getD 0)

theorem verifyChain_accepted {crypto : Crypto} {intent : IntentMandate} {cart : CartMandate}
    {ctx : VerifyCtx} {approval : Bool} {hash : JsString}
    (h : verifyChain crypto intent cart ctx = .ok (.ok approval hash)) :
    Accepted crypto intent cart ctx approval := by
  unfold verifyChain at h
  split at h
  · exact nomatch h
  rename_i hintent
  split at h
  · exact nomatch h
  rename_i hcart
  split at h
  · exact nomatch h
  rename_i credential hcredential
  rw [bind_eq_ok] at h
  obtain ⟨intentBytes, hib, h⟩ := h
  rw [bind_eq_ok] at h
  obtain ⟨intentSigned, his, h⟩ := h
  split at h
  · exact nomatch Except.ok.inj h
  rename_i hisTrue
  simp only at h
  split at h
  · exact nomatch Except.ok.inj h
  rename_i hlink
  rw [bind_eq_ok] at h
  obtain ⟨cartBytes, hcb, h⟩ := h
  rw [bind_eq_ok] at h
  obtain ⟨cartSigned, hcs, h⟩ := h
  split at h
  · exact nomatch Except.ok.inj h
  rename_i hcsTrue
  split at h
  · exact nomatch Except.ok.inj h
  rename_i htotal
  split at h
  · exact nomatch Except.ok.inj h
  rename_i hpolicy
  rw [bind_eq_ok] at h
  obtain ⟨hash', -, h⟩ := h
  obtain ⟨rfl, -⟩ := VerifyResult.ok.inj (Except.ok.inj h)
  have his' : intentSigned = true := by simpa using hisTrue
  have hcs' : cartSigned = true := by simpa using hcsTrue
  rw [his'] at his
  rw [hcs'] at hcs
  exact ⟨hintent, hcart, ⟨credential, intentBytes, hcredential, hib, his, by simpa using hlink⟩,
    ⟨cartBytes, hcb, hcs⟩, by simpa using htotal, hpolicy, rfl⟩

/-- **An accepted chain meets the law.** -/
theorem Accepted.law {crypto : Crypto} {intent : IntentMandate} {cart : CartMandate}
    {ctx : VerifyCtx} {approval : Bool} (h : Accepted crypto intent cart ctx approval)
    (hspent : 0 ≤ ctx.spentPaise.getD 0) (hmerchantSpent : 0 ≤ ctx.merchantSpentPaise.getD 0) :
    ChainLaw crypto intent cart ctx := by
  obtain ⟨hprices, hcurrency, hmerchant, hlive, hrevoked, hskus, hceiling, hlimit⟩ :=
    verifyPolicy_none h.policy
  have hvalid := validateIntentSchema_none h.intentSchema
  obtain ⟨htotalSafe, htotalNonneg, hitems⟩ := validateCartSchema_none h.cartSchema
  have hceilingSafe := le_maxSafe hvalid.ceiling
  constructor
  case intentSigned => exact h.intentSigned
  case cartSigned => exact h.cartSigned
  case lineSum =>
    rw [← h.total]
    refine (recomputedTotal_exact hitems ?_).symm
    rw [h.total]
    exact le_maxSafe htotalSafe
  case prices =>
    intro prices hp item hitem
    have hfind := List.find?_eq_none.mp (hprices prices hp) item hitem
    simpa using hfind
  case currency => exact hcurrency
  case merchant => exact hmerchant
  case live => exact hlive
  case notRevoked => exact hrevoked
  case skus =>
    intro skus hs item hitem
    have hfind := List.find?_eq_none.mp (hskus skus hs (hvalid.skus skus hs)) item hitem
    simpa using hfind
  case total_nonneg => exact htotalNonneg
  case ceiling =>
    have hexact := jsAdd_gt_iff hspent htotalNonneg hceilingSafe
    omega
  case ceiling_safe => exact hceilingSafe
  case merchantCeiling =>
    intro limits limit hl hget
    obtain ⟨e, he, rfl⟩ := Option.map_eq_some_iff.mp hget
    have hsafe := (hvalid.limits limits hl e (List.mem_of_find?_eq_some he)).1
    have hexact := jsAdd_gt_iff hmerchantSpent htotalNonneg (le_maxSafe hsafe)
    have := hlimit limits e.2 hl hget
    omega

/-- A purchase that needs no approval is under the per-cart threshold and, with the spend so far,
    under the cumulative line. -/
theorem not_needsApproval {intent : IntentMandate} {cart : CartMandate} {spentPaise : Int}
    (hvalid : ValidIntent intent) (hspent : 0 ≤ spentPaise) (htotal : 0 ≤ cart.totalPaise)
    (h : needsApproval intent cart spentPaise = false) :
    cart.totalPaise ≤ intent.approvalThresholdPaise ∧
      ∀ line, intent.cumulativeApprovalThresholdPaise = some line →
        spentPaise + cart.totalPaise ≤ line := by
  rw [needsApproval, Bool.or_eq_false_iff] at h
  obtain ⟨hcart, hline⟩ := h
  refine ⟨by simpa using hcart, fun line hl => ?_⟩
  rw [hl, Option.any_some, decide_eq_false_iff_not] at hline
  have hexact := jsAdd_gt_iff hspent htotal (le_maxSafe (hvalid.line line hl))
  omega

end Hundi
