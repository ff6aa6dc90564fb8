/-
  packages/core/src/verify.ts on values nothing has checked.

  The gate's parameters are typed as mandates, and may in practice come from `JSON.parse` and a cast.
  Here `verifyChain` runs on any `JsValue`, with every property read and every decoder that can
  throw in its place.  Behind the schema checks and the two serializations each field has the type
  it is declared with, so the checks on values are the ones of Core.Verify, on the mandates
  `asIntent` and `asCart` read off.

  `Decodes` lists what has to be readable for the gate to answer; `verifyChain_returns_iff` says
  that this is exactly what it takes.  `Returns x` is "x does not throw", and the proofs follow the
  program: one lemma a decoder, then one for each of the two signatures.
-/
import Hundi.Core.Verify
import Hundi.Lib.JsValue

namespace Hundi.Unchecked

open Js

/-! ## canonical-json.ts -/

mutual

/-- `encode(value, path)`, with the leaves `assertCanonicalLeaf` refuses. -/
def encode : JsValue → JsString → Except Exn JsString
  | .undefined, path =>
    .error (.typeError (js "canonicalJson: undefined not allowed at " ++ path))
  | .null, _ => .ok (js "null")
  | .bool b, _ => .ok (if b then js "true" else js "false")
  | .num (.int n), path =>
    if isSafeInt n then .ok (showInt n)
    else .error (.typeError (js "canonicalJson: unsafe integer at " ++ path))
  | .num .negZero, path =>
    .error (.typeError (js "canonicalJson: -0 is not canonical at " ++ path))
  | .num .fraction, path =>
    .error (.typeError (js "canonicalJson: non-integer number at " ++ path))
  | .num .infinite, path =>
    .error (.typeError (js "canonicalJson: non-finite number at " ++ path))
  | .str s, _ => .ok (quote s)
  | .arr xs, path => do
    let ts ← encodeElems xs path 0
    return js "[" ++ join (js ",") ts ++ js "]"
  | .obj members, path => do
    let ts ← sequenceMembers (sortMembers (encodeMembers members path))
    return js "\x7b" ++ join (js ",") ts ++ js "\x7d"

/-- The elements of an array from index `i` on. -/
def encodeElems : List JsValue → JsString → Nat → Except Exn (List JsString)
  | [], _, _ => .ok []
  | x :: xs, path, i => do
    let t ← encode x (path ++ js "[" ++ decimal i ++ js "]")
    let ts ← encodeElems xs path (i + 1)
    return t :: ts

/-- The members of an object, each value with its text or its error. -/
def encodeMembers : List (JsString × JsValue) → JsString → List (JsString × Except Exn JsString)
  | [], _ => []
  | (k, v) :: rest, path => (k, encode v (path ++ js "." ++ k)) :: encodeMembers rest path

end

/-- `canonicalJson(value)`. -/
def canonicalJson (v : JsValue) : Except Exn Bytes := do
  let json ← encode v (js "$")
  return textEncode json

/-! ## mandate.ts -/

/-- The object `intentSigningBytes` serializes. -/
def intentSigningValue (intent : JsValue) : JsValue :=
  let limits := intent.prop (js "per_merchant_ceiling_paise")
  let line := intent.prop (js "cumulative_approval_threshold_paise")
  let skus := intent.prop (js "allowed_skus")
  .obj ([(js "mandateId", intent.prop (js "mandateId")),
    (js "goal", intent.prop (js "goal")),
    (js "ceiling_paise", intent.prop (js "ceiling_paise")),
    (js "approval_threshold_paise", intent.prop (js "approval_threshold_paise")),
    (js "currency", intent.prop (js "currency")),
    (js "merchants", intent.prop (js "merchants")),
    (js "expires_at", intent.prop (js "expires_at")),
    (js "agent_pubkey_hex", intent.prop (js "agent_pubkey_hex"))] ++
    (if limits.truthy then [(js "per_merchant_ceiling_paise", limits)] else []) ++
    (if line.isUndefined then [] else [(js "cumulative_approval_threshold_paise", line)]) ++
    (if skus.truthy then [(js "allowed_skus", skus)] else []))

/-- `intentSigningBytes(intent)`. -/
def intentSigningBytes (intent : JsValue) : Except Exn Bytes :=
  canonicalJson (intentSigningValue intent)

/-- One item of the object `cartSigningBytes` serializes. -/
def cartItemSigningValue (item : JsValue) : JsValue :=
  let variantId := item.prop (js "variant_id")
  .obj ([(js "sku", item.prop (js "sku")), (js "qty", item.prop (js "qty")),
    (js "unit_price_paise", item.prop (js "unit_price_paise"))] ++
    (if variantId.truthy then [(js "variant_id", variantId)] else []))

/-- The object `cartSigningBytes` serializes; `items` is an array of objects by now. -/
def cartSigningValue (cart : JsValue) : JsValue :=
  .obj [(js "cartId", cart.prop (js "cartId")),
    (js "merchant_id", cart.prop (js "merchant_id")),
    (js "items", .arr ((cart.prop (js "items")).elems.map cartItemSigningValue)),
    (js "total_paise", cart.prop (js "total_paise")),
    (js "intent_hash_hex", cart.prop (js "intent_hash_hex"))]

/-- `cartSigningBytes(cart)`. -/
def cartSigningBytes (cart : JsValue) : Except Exn Bytes := canonicalJson (cartSigningValue cart)

/-! ## Structural checks -/

/-- `isNonEmptyString(v)`. -/
def isNonEmptyString : JsValue → Bool
  | .str s => !s.isEmpty
  | _ => false

/-- `isValidSigEnvelope(v)`: what is no plain object has none of the properties. -/
def isValidSigEnvelope (v : JsValue) : Bool :=
  if (v.prop (js "type")).isStr (js "ed25519") then isNonEmptyString (v.prop (js "signature_hex"))
  else if (v.prop (js "type")).isStr (js "webauthn-es256") then
    isNonEmptyString (v.prop (js "clientDataJSON_b64u")) &&
      isNonEmptyString (v.prop (js "authenticatorData_b64u")) &&
      isNonEmptyString (v.prop (js "signature_b64u"))
  else false

/-- What reading a property of a nullish value throws. -/
def readNullish (v : JsValue) (property : JsString) : Exn :=
  .typeError (js "Cannot read properties of " ++
    (if v.isUndefined then js "undefined" else js "null") ++ js " (reading '" ++ property ++ js "')")

/-- The loop over `Object.entries(intent.per_merchant_ceiling_paise)`. -/
def validateLimits : List (JsString × JsValue) → Option JsString
  | [] => none
  | (merchant, limit) :: rest =>
    returnIf merchant.isEmpty (js "per_merchant_ceiling_paise keys must be merchant ids") <|>
    returnIf (!limit.isSafeInteger || limit.int < 0)
      (js "per_merchant_ceiling_paise[" ++ merchant ++ js "] must be a non-negative integer") <|>
    validateLimits rest

/-- The check of `intent.per_merchant_ceiling_paise`. -/
def checkLimits : JsValue → Option JsString
  | .undefined => none
  | .obj members => validateLimits members
  | _ => some (js "per_merchant_ceiling_paise must be an object of merchant -> paise")

/-- The checks of `validateIntentSchema` on a value whose properties can be read. -/
def intentChecks (intent : JsValue) : Option JsString :=
  let merchants := intent.prop (js "merchants")
  let line := intent.prop (js "cumulative_approval_threshold_paise")
  let skus := intent.prop (js "allowed_skus")
  returnIf (!isNonEmptyString (intent.prop (js "mandateId")))
    (js "mandateId must be a non-empty string") <|>
  returnIf (!isNonEmptyString (intent.prop (js "goal"))) (js "goal must be a non-empty string") <|>
  returnIf (!(intent.prop (js "ceiling_paise")).isSafeInteger ||
      (intent.prop (js "ceiling_paise")).int ≤ 0)
    (js "ceiling_paise must be a positive integer") <|>
  returnIf (!(intent.prop (js "approval_threshold_paise")).isSafeInteger ||
      (intent.prop (js "approval_threshold_paise")).int < 0)
    (js "approval_threshold_paise must be a non-negative integer") <|>
  returnIf (!merchants.isArray || merchants.elems.isEmpty)
    (js "merchants must be a non-empty array") <|>
  returnIf (!merchants.elems.all isNonEmptyString)
    (js "merchants must all be non-empty strings") <|>
  returnIf (!(intent.prop (js "expires_at")).isSafeInteger)
    (js "expires_at must be an integer unix timestamp") <|>
  returnIf (!isNonEmptyString (intent.prop (js "agent_pubkey_hex")))
    (js "agent_pubkey_hex must be a non-empty string") <|>
  checkLimits (intent.prop (js "per_merchant_ceiling_paise")) <|>
  returnIf (!line.isUndefined && (!line.isSafeInteger || line.int < 0))
    (js "cumulative_approval_threshold_paise must be a non-negative integer") <|>
  returnIf (!skus.isUndefined && (!skus.isArray || skus.elems.isEmpty))
    (js "allowed_skus must be a non-empty array of non-empty strings") <|>
  returnIf (!skus.isUndefined && !skus.elems.all isNonEmptyString)
    (js "allowed_skus must be a non-empty array of non-empty strings") <|>
  returnIf (!isValidSigEnvelope (intent.prop (js "sig"))) (js "sig is not a valid signature envelope")

/-- `validateIntentSchema(intent)`; its first property read throws on `null`. -/
def validateIntentSchema (intent : JsValue) : Except Exn (Option JsString) :=
  if intent.nullish then .error (readNullish intent (js "mandateId")) else .ok (intentChecks intent)

/-- The checks of `validateCartItemSchema` on a value whose properties can be read. -/
def itemChecks (item : JsValue) (index : Nat) : Option JsString :=
  let field := js "items[" ++ decimal index ++ js "]"
  let variantId := item.prop (js "variant_id")
  let variantLabel := item.prop (js "variant_label")
  returnIf (!isNonEmptyString (item.prop (js "sku")))
    (field ++ js ".sku must be a non-empty string") <|>
  returnIf (!(item.prop (js "qty")).isSafeInteger || (item.prop (js "qty")).int < 1)
    (field ++ js ".qty must be an integer >= 1") <|>
  returnIf (!(item.prop (js "unit_price_paise")).isSafeInteger ||
      (item.prop (js "unit_price_paise")).int ≤ 0)
    (field ++ js ".unit_price_paise must be a positive integer") <|>
  returnIf (!variantId.isUndefined && !isNonEmptyString variantId)
    (field ++ js ".variant_id must be a non-empty string when present") <|>
  returnIf (!variantLabel.isUndefined && !variantLabel.isString)
    (field ++ js ".variant_label must be a string when present")

/-- An item some check refuses. -/
def itemFails (item : JsValue) : Bool := (itemChecks item 0).isSome

/-- `validateCartItemSchema(item, index)`. -/
def validateCartItemSchema (item : JsValue) (index : Nat) : Except Exn (Option JsString) :=
  if item.nullish then .error (readNullish item (js "sku")) else .ok (itemChecks item index)

/-- The loop over `cart.items`, from index `i` on. -/
def validateItems : List JsValue → Nat → Except Exn (Option JsString)
  | [], _ => .ok none
  | item :: rest, i => do
    match ← validateCartItemSchema item i with
    | some err => return some err
    | none => validateItems rest (i + 1)

/-- The checks of `validateCartSchema` before its loop. -/
def cartHeadChecks (cart : JsValue) : Option JsString :=
  let items := cart.prop (js "items")
  returnIf (!isNonEmptyString (cart.prop (js "cartId"))) (js "cartId must be a non-empty string") <|>
  returnIf (!isNonEmptyString (cart.prop (js "merchant_id")))
    (js "merchant_id must be a non-empty string") <|>
  returnIf (!items.isArray || items.elems.isEmpty) (js "items must be a non-empty array")

/-- The checks of `validateCartSchema` behind its loop. -/
def cartTailChecks (cart : JsValue) : Option JsString :=
  let total := cart.prop (js "total_paise")
  returnIf (!total.isSafeInteger || total.int < 0)
    (js "total_paise must be a non-negative integer") <|>
  returnIf (!isNonEmptyString (cart.prop (js "intent_hash_hex")))
    (js "intent_hash_hex must be a non-empty string") <|>
  returnIf (!isNonEmptyString (cart.prop (js "agent_sig_hex")))
    (js "agent_sig_hex must be a non-empty string")

/-- `validateCartSchema(cart)`. -/
def validateCartSchema (cart : JsValue) : Except Exn (Option JsString) :=
  if cart.nullish then .error (readNullish cart (js "cartId"))
  else
    match cartHeadChecks cart with
    | some err => .ok (some err)
    | none => do
      match ← validateItems (cart.prop (js "items")).elems 0 with
      | some err => return some err
      | none => return cartTailChecks cart

/-! ## The gate -/

/-- A value as the `SigEnvelope` it was checked to be. -/
def asEnvelope (sig : JsValue) : SigEnvelope :=
  if (sig.prop (js "type")).isStr (js "ed25519") then .ed25519 (sig.prop (js "signature_hex")).text
  else .webauthnEs256 (sig.prop (js "clientDataJSON_b64u")).text
    (sig.prop (js "authenticatorData_b64u")).text (sig.prop (js "signature_b64u")).text

/-- A value as the `IntentMandate` it was checked to be.  The currency is the one field no check
    looks at; what is not a string is not `'INR'` either. -/
def asIntent (intent : JsValue) : IntentMandate where
  mandateId := (intent.prop (js "mandateId")).text
  goal := (intent.prop (js "goal")).text
  ceilingPaise := (intent.prop (js "ceiling_paise")).int
  approvalThresholdPaise := (intent.prop (js "approval_threshold_paise")).int
  currency := (intent.prop (js "currency")).text
  merchants := (intent.prop (js "merchants")).elems.map JsValue.text
  expiresAt := (intent.prop (js "expires_at")).int
  agentPubkeyHex := (intent.prop (js "agent_pubkey_hex")).text
  perMerchantCeilingPaise :=
    let limits := intent.prop (js "per_merchant_ceiling_paise")
    if limits.isUndefined then none else some (limits.entries.map fun e => (e.1, e.2.int))
  cumulativeApprovalThresholdPaise :=
    let line := intent.prop (js "cumulative_approval_threshold_paise")
    if line.isUndefined then none else some line.int
  allowedSkus :=
    let skus := intent.prop (js "allowed_skus")
    if skus.isUndefined then none else some (skus.elems.map JsValue.text)
  sig := asEnvelope (intent.prop (js "sig"))

/-- A value as the `CartItem` it was checked to be. -/
def asItem (item : JsValue) : CartItem where
  sku := (item.prop (js "sku")).text
  qty := (item.prop (js "qty")).int
  unitPricePaise := (item.prop (js "unit_price_paise")).int
  variantId :=
    let variantId := item.prop (js "variant_id")
    if variantId.isUndefined then none else some variantId.text
  variantLabel :=
    let variantLabel := item.prop (js "variant_label")
    if variantLabel.isUndefined then none else some variantLabel.text

/-- A value as the `CartMandate` it was checked to be. -/
def asCart (cart : JsValue) : CartMandate where
  cartId := (cart.prop (js "cartId")).text
  merchantId := (cart.prop (js "merchant_id")).text
  items := (cart.prop (js "items")).elems.map asItem
  totalPaise := (cart.prop (js "total_paise")).int
  intentHashHex := (cart.prop (js "intent_hash_hex")).text
  agentSigHex := (cart.prop (js "agent_sig_hex")).text

/-- The checks of `verifyChain` behind both signatures. -/
def verifyAmounts (crypto : Crypto) (intent : IntentMandate) (cart : CartMandate) (ctx : VerifyCtx)
    (intentHashHex cartHashHex : JsString) : Except Exn VerifyResult :=
  if recomputedTotal cart.items != cart.totalPaise then
    .ok (.fail .LINE_ITEM_INVALID
      (some (js "total_paise does not match sum(qty * unit_price_paise)")))
  else
    match verifyPolicy intent cart ctx with
    | some (reason, detail) => .ok (.fail reason detail)
    | none => do
      let hash ← mandateCartHash crypto intentHashHex cartHashHex
      return .ok (needsApproval intent cart (ctx.spentPaise.getD 0)) hash

/-- The checks of `verifyChain` from the cart's signature on. -/
def verifyCart (crypto : Crypto) (intent cart : JsValue) (ctx : VerifyCtx)
    (intentHashHex : JsString) : Except Exn VerifyResult := do
  let cartBytes ← cartSigningBytes cart
  let cartSigned ← verifyMandateSignature crypto cartBytes
    (.ed25519 (cart.prop (js "agent_sig_hex")).text)
    (.ed25519 (intent.prop (js "agent_pubkey_hex")).text)
  if !cartSigned then return .fail .SIG_INVALID_CART none
  else
    verifyAmounts crypto (asIntent intent) (asCart cart) ctx intentHashHex
      (crypto.sha256Hex cartBytes)

/-- The checks of `verifyChain` from the intent's signature on. -/
def verifySigned (crypto : Crypto) (intent cart : JsValue) (ctx : VerifyCtx)
    (credential : Credential) : Except Exn VerifyResult := do
  let intentBytes ← intentSigningBytes intent
  let intentSigned ← verifyMandateSignature crypto intentBytes (asIntent intent).sig credential
  if !intentSigned then return .fail .SIG_INVALID_INTENT none
  else
    let intentHashHex := crypto.sha256Hex intentBytes
    if !(cart.prop (js "intent_hash_hex")).isStr intentHashHex then
      return .fail .HASH_LINK_MISMATCH none
    else verifyCart crypto intent cart ctx intentHashHex

/-- `verifyChain(intent, cart, ctx)`. -/
def verifyChain (crypto : Crypto) (intent cart : JsValue) (ctx : VerifyCtx) :
    Except Exn VerifyResult := do
  match ← validateIntentSchema intent with
  | some err => return .fail .SCHEMA_INVALID (some err)
  | none =>
  match ← validateCartSchema cart with
  | some err => return .fail .SCHEMA_INVALID (some err)
  | none =>
  match ctx.credential with
  | none => return .fail .MANDATE_UNKNOWN (some (js "no credential registered for this agent key"))
  | some credential => verifySigned crypto intent cart ctx credential

/-! ## What returns -/

/-- `x` does not throw. -/
def Returns {α : Type} (x : Except Exn α) : Prop := ∃ a, x = .ok a

@[simp] theorem returns_ok {α : Type} (a : α) : Returns (.ok a : Except Exn α) := ⟨a, rfl⟩

@[simp] theorem returns_pure {α : Type} (a : α) : Returns (pure a : Except Exn α) := ⟨a, rfl⟩

@[simp] theorem not_returns_error {α : Type} (e : Exn) : ¬ Returns (.error e : Except Exn α) :=
  fun ⟨_, h⟩ => nomatch h

theorem returns_bind {α β : Type} {x : Except Exn α} {f : α → Except Exn β} :
    Returns (x >>= f) ↔ ∃ a, x = .ok a ∧ Returns (f a) := by
  constructor
  · rintro ⟨b, h⟩
    obtain ⟨a, ha, hb⟩ := bind_eq_ok.mp h
    exact ⟨a, ha, b, hb⟩
  · rintro ⟨a, ha, b, hb⟩
    exact ⟨b, bind_eq_ok.mpr ⟨a, ha, hb⟩⟩

theorem ok_bind {α β : Type} (a : α) (f : α → Except Exn β) :
    ((.ok a : Except Exn α) >>= f) = f a := rfl

/-- A computation whose last step cannot throw. -/
theorem returns_bind_pure {α β : Type} {x : Except Exn α} {f : α → β} :
    Returns (x >>= fun a => (pure (f a) : Except Exn β)) ↔ Returns x := by
  rw [returns_bind]
  exact exists_congr fun a => ⟨fun h => h.1, fun h => ⟨h, returns_pure _⟩⟩

/-- The members of an object are written exactly when each of them has a text. -/
theorem returns_sequenceMembers {ms : List (JsString × Except Exn JsString)} :
    Returns (sequenceMembers ms) ↔ ∀ m ∈ ms, Returns m.2 := by
  induction ms with
  | nil => exact ⟨fun _ _ h => (nomatch h), fun _ => ⟨[], rfl⟩⟩
  | cons m ms ih =>
    obtain ⟨k, t⟩ := m
    rw [sequenceMembers, returns_bind, List.forall_mem_cons, ← ih]
    constructor
    · rintro ⟨a, ha, hrest⟩
      exact ⟨⟨a, ha⟩, returns_bind_pure.mp hrest⟩
    · rintro ⟨⟨a, ha⟩, hrest⟩
      exact ⟨a, ha, returns_bind_pure.mpr hrest⟩

mutual

/-- **A value is serialized exactly when every leaf of it has a canonical text.** -/
theorem returns_encode : ∀ (v : JsValue) (path : JsString),
    Returns (encode v path) ↔ v.canonical = true
  | .undefined, path => by simp [encode, JsValue.canonical]
  | .null, _ => by simp [encode, JsValue.canonical]
  | .bool _, _ => by simp [encode, JsValue.canonical]
  | .num (.int n), path => by
    rw [encode, JsValue.canonical]
    split
    · rename_i hn
      exact ⟨fun _ => hn, fun _ => returns_ok _⟩
    · rename_i hn
      exact ⟨fun h => absurd h (not_returns_error _), fun h => absurd h hn⟩
  | .num .negZero, path => by simp [encode, JsValue.canonical]
  | .num .fraction, path => by simp [encode, JsValue.canonical]
  | .num .infinite, path => by simp [encode, JsValue.canonical]
  | .str _, _ => by simp [encode, JsValue.canonical]
  | .arr xs, path => by
    rw [encode, returns_bind_pure, JsValue.canonical, returns_encodeElems xs path 0]
  | .obj members, path => by
    rw [encode, returns_bind_pure, JsValue.canonical, returns_sequenceMembers,
      ← returns_encodeMembers members path]
    -- sorting the members by key neither adds nor drops one
    exact forall_congr' fun m => imp_congr_left (sortMembers_perm _).mem_iff

theorem returns_encodeElems : ∀ (xs : List JsValue) (path : JsString) (i : Nat),
    Returns (encodeElems xs path i) ↔ JsValue.canonicalElems xs = true
  | [], _, _ => ⟨fun _ => rfl, fun _ => ⟨[], rfl⟩⟩
  | x :: xs, path, i => by
    rw [encodeElems, returns_bind, JsValue.canonicalElems, Bool.and_eq_true,
      ← returns_encode x (path ++ js "[" ++ decimal i ++ js "]"),
      ← returns_encodeElems xs path (i + 1)]
    constructor
    · rintro ⟨t, ht, hrest⟩
      exact ⟨⟨t, ht⟩, returns_bind_pure.mp hrest⟩
    · rintro ⟨⟨t, ht⟩, hrest⟩
      exact ⟨t, ht, returns_bind_pure.mpr hrest⟩

theorem returns_encodeMembers : ∀ (members : List (JsString × JsValue)) (path : JsString),
    (∀ m ∈ encodeMembers members path, Returns m.2) ↔ JsValue.canonicalMembers members = true
  | [], _ => ⟨fun _ => rfl, fun _ _ h => (nomatch h)⟩
  | (k, v) :: rest, path => by
    rw [encodeMembers, List.forall_mem_cons, JsValue.canonicalMembers, Bool.and_eq_true,
      returns_encode v _, returns_encodeMembers rest path]

end

theorem returns_canonicalJson (v : JsValue) : Returns (canonicalJson v) ↔ v.canonical = true := by
  rw [canonicalJson, returns_bind_pure, returns_encode]

/-! ## What the decoders take -/

/-- Pairs of characters that each start with a hexadecimal digit or a sign and one. -/
def hexReadable : JsString → Bool
  | [] => true
  | [_] => false
  | a :: b :: rest => (parseIntHex [a, b]).isSome && hexReadable rest

theorem even_of_hexReadable : ∀ {s : JsString}, hexReadable s = true → s.length % 2 = 0
  | [], _ => rfl
  | [_], h => nomatch h
  | a :: b :: rest, h => by
    rw [hexReadable, Bool.and_eq_true] at h
    have hrest := even_of_hexReadable h.2
    rw [List.length_cons, List.length_cons]
    omega

theorem returns_hexPairs : ∀ {s : JsString}, s.length % 2 = 0 →
    (Returns (hexPairs s) ↔ hexReadable s = true)
  | [], _ => ⟨fun _ => rfl, fun _ => ⟨[], rfl⟩⟩
  | [_], h => nomatch h
  | a :: b :: rest, h => by
    have heven : rest.length % 2 = 0 := by
      rw [List.length_cons, List.length_cons] at h
      omega
    rw [hexPairs, hexReadable, Bool.and_eq_true, ← returns_hexPairs heven]
    cases parseIntHex [a, b] with
    | none => exact ⟨fun h => absurd h (not_returns_error _), fun h => nomatch h.1⟩
    | some byte => exact ⟨fun h => ⟨rfl, returns_bind_pure.mp h⟩, fun h => returns_bind_pure.mpr h.2⟩

theorem returns_hexToBytes {hex : JsString} : Returns (hexToBytes hex) ↔ hexReadable hex = true := by
  rw [hexToBytes]
  split
  · rename_i hodd
    refine ⟨fun h => absurd h (not_returns_error _), fun h => ?_⟩
    rw [even_of_hexReadable h] at hodd
    exact absurd hodd (by decide)
  · rename_i heven
    exact returns_hexPairs (by simpa using heven)

/-- A coordinate of a P-256 key: base64url of 32 bytes. -/
def Coordinate (v : Option JsonValue) : Prop :=
  ∃ s bytes, v = some (.str s) ∧ s ≠ [] ∧ decodeBase64Url s = .ok bytes ∧ bytes.length = 32

/-- The keys `jwkToRawP256PublicKey` accepts. -/
structure JwkReadable (jwk : JsonValue) : Prop where
  kty : (jwk.get? (js "kty")).bind JsonValue.str? = some (js "EC")
  crv : (jwk.get? (js "crv")).bind JsonValue.str? = some (js "P-256")
  x : Coordinate (jwk.get? (js "x"))
  y : Coordinate (jwk.get? (js "y"))

theorem Coordinate.not_falsy {v : Option JsonValue} (h : Coordinate v) : falsy v = false := by
  obtain ⟨s, bytes, rfl, hs, -, -⟩ := h
  cases s with
  | nil => exact absurd rfl hs
  | cons c s => rfl

/-- A property that decodes to 32 bytes and is not falsy is a coordinate. -/
theorem coordinate_of_decode {v : Option JsonValue} {bytes : Bytes} (hf : falsy v = false)
    (h : decodeBase64UrlProperty v = .ok bytes) (hlen : bytes.length = 32) : Coordinate v := by
  match v, h with
  | some (.str s), h =>
    refine ⟨s, bytes, rfl, ?_, h, hlen⟩
    rintro rfl
    exact nomatch hf

theorem Coordinate.decode {v : Option JsonValue} (h : Coordinate v) :
    ∃ bytes, decodeBase64UrlProperty v = .ok bytes ∧ bytes.length = 32 := by
  obtain ⟨s, bytes, rfl, -, hdecode, hlen⟩ := h
  exact ⟨bytes, hdecode, hlen⟩

theorem returns_jwkToRawP256PublicKey {jwk : JsonValue} :
    Returns (jwkToRawP256PublicKey jwk) ↔ JwkReadable jwk := by
  rw [jwkToRawP256PublicKey]
  split
  · rename_i hbad
    refine ⟨fun h => absurd h (not_returns_error _), fun h => ?_⟩
    rw [h.kty, h.crv, h.x.not_falsy, h.y.not_falsy] at hbad
    exact absurd hbad (by decide)
  · rename_i hgood
    simp only [Bool.or_eq_true, not_or, Bool.not_eq_true, bne_eq_false_iff_eq] at hgood
    obtain ⟨⟨⟨hkty, hcrv⟩, hx⟩, hy⟩ := hgood
    rw [returns_bind]
    constructor
    · rintro ⟨x, hdx, h⟩
      obtain ⟨y, hdy, h⟩ := returns_bind.mp h
      split at h
      · exact absurd h (not_returns_error _)
      · rename_i hlen
        simp only [Bool.or_eq_true, bne_iff_ne, not_or, Decidable.not_not] at hlen
        exact ⟨hkty, hcrv, coordinate_of_decode hx hdx hlen.1, coordinate_of_decode hy hdy hlen.2⟩
    · intro h
      obtain ⟨x, hdx, hlx⟩ := h.x.decode
      obtain ⟨y, hdy, hly⟩ := h.y.decode
      refine ⟨x, hdx, returns_bind.mpr ⟨y, hdy, ?_⟩⟩
      rw [hlx, hly]
      exact returns_pure _

/-! ## What a signature check takes -/

/-- The client data of a WebAuthn assertion names the ceremony and the payload. -/
def NamesPayload (crypto : Crypto) (payloadBytes : Bytes) (clientData : JsonValue) : Prop :=
  (clientData.get? (js "type")).bind JsonValue.str? = some (js "webauthn.get") ∧
    (clientData.get? (js "challenge")).bind JsonValue.str? = some (crypto.sha256B64url payloadBytes)

/-- What `verifyWebauthnEs256` has to decode: the client data, which may be no JSON but not `null`,
    and the rest of the assertion and the key once the client data names the payload. -/
def AssertionReadable (crypto : Crypto) (payloadBytes : Bytes)
    (clientDataB64u authenticatorDataB64u signatureB64u : JsString) (jwk : JsonValue) : Prop :=
  ∃ bytes, decodeBase64Url clientDataB64u = .ok bytes ∧
    ∀ clientData, crypto.jsonParse (crypto.textDecode bytes) = some clientData →
      clientData ≠ .null ∧ (NamesPayload crypto payloadBytes clientData →
        Returns (decodeBase64Url authenticatorDataB64u) ∧ Returns (decodeBase64Url signatureB64u) ∧
          JwkReadable jwk)

/-- What `verifyMandateSignature` has to decode. -/
def EnvelopeReadable (crypto : Crypto) (payloadBytes : Bytes) : SigEnvelope → Credential → Prop
  | .ed25519 signatureHex, .ed25519 publicKeyHex =>
    hexReadable signatureHex = true ∧ hexReadable publicKeyHex = true
  | .webauthnEs256 clientData authenticatorData signature, .webauthnEs256 jwk =>
    AssertionReadable crypto payloadBytes clientData authenticatorData signature jwk
  | _, _ => True

end Hundi.Unchecked

/-- The noble verify functions return a boolean on byte strings of any length. -/
structure Hundi.Crypto.VerifiersReturn (crypto : Hundi.Crypto) : Prop where
  ed25519 : ∀ signature message publicKey,
    ∃ valid, crypto.ed25519Verify signature message publicKey = .ok valid
  p256 : ∀ signature message publicKey,
    ∃ valid, crypto.p256Verify signature message publicKey = .ok valid

namespace Hundi.Unchecked

open Js

theorem returns_verifyWebauthnEs256 {crypto : Crypto} (hc : crypto.VerifiersReturn)
    {payloadBytes : Bytes} {clientDataB64u authenticatorDataB64u signatureB64u : JsString}
    {jwk : JsonValue} :
    Returns (verifyWebauthnEs256 crypto payloadBytes clientDataB64u authenticatorDataB64u
      signatureB64u jwk) ↔
    AssertionReadable crypto payloadBytes clientDataB64u authenticatorDataB64u signatureB64u jwk := by
  rw [verifyWebauthnEs256, returns_bind, AssertionReadable]
  refine exists_congr fun bytes => and_congr_right fun _ => ?_
  cases crypto.jsonParse (crypto.textDecode bytes) with
  | none => exact ⟨fun _ _ h => (nomatch h), fun _ => returns_pure _⟩
  | some clientData =>
    -- what is decoded behind the client data, whatever value that is
    have hrest : Returns (do
        let authenticatorData ← decodeBase64Url authenticatorDataB64u
        let signature ← decodeBase64Url signatureB64u
        let publicKey ← jwkToRawP256PublicKey jwk
        crypto.p256Verify signature (authenticatorData ++ crypto.sha256 bytes) publicKey) ↔
        Returns (decodeBase64Url authenticatorDataB64u) ∧ Returns (decodeBase64Url signatureB64u) ∧
          JwkReadable jwk := by
      rw [returns_bind, ← returns_jwkToRawP256PublicKey]
      constructor
      · rintro ⟨a, ha, h⟩
        obtain ⟨s, hs, h⟩ := returns_bind.mp h
        obtain ⟨k, hk, -⟩ := returns_bind.mp h
        exact ⟨⟨a, ha⟩, ⟨s, hs⟩, ⟨k, hk⟩⟩
      · rintro ⟨⟨a, ha⟩, ⟨s, hs⟩, ⟨k, hk⟩⟩
        exact ⟨a, ha, returns_bind.mpr ⟨s, hs, returns_bind.mpr ⟨k, hk, hc.p256 _ _ _⟩⟩⟩
    have hbody : ∀ rest : Except Exn Bool,
        Returns (if (clientData.get? (js "type")).bind JsonValue.str? != some (js "webauthn.get") then
            pure false
          else if (clientData.get? (js "challenge")).bind JsonValue.str?
              != some (crypto.sha256B64url payloadBytes) then pure false
          else rest) ↔
        (NamesPayload crypto payloadBytes clientData → Returns rest) := by
      intro rest
      split
      · rename_i htype
        refine ⟨fun _ h => ?_, fun _ => returns_pure _⟩
        rw [h.1] at htype
        exact absurd htype (by decide)
      · rename_i htype
        split
        · rename_i hchallenge
          refine ⟨fun _ h => ?_, fun _ => returns_pure _⟩
          rw [h.2, bne_self_eq_false] at hchallenge
          exact nomatch hchallenge
        · rename_i hchallenge
          rw [bne_iff_ne, Decidable.not_not] at htype hchallenge
          exact ⟨fun h _ => h, fun h => h ⟨htype, hchallenge⟩⟩
    simp only [Option.some.injEq, forall_eq']
    cases clientData with
    | null => exact ⟨fun h => absurd h (not_returns_error _), fun h => absurd rfl h.1⟩
    | _ =>
      refine (hbody _).trans ⟨fun h => ⟨nofun, fun hn => hrest.mp (h hn)⟩, fun h hn => ?_⟩
      exact hrest.mpr (h.2 hn)

/-- **A signature check returns exactly when what it decodes can be decoded.** -/
theorem returns_verifyMandateSignature {crypto : Crypto} (hc : crypto.VerifiersReturn)
    {payloadBytes : Bytes} {sig : SigEnvelope} {credential : Credential} :
    Returns (verifyMandateSignature crypto payloadBytes sig credential) ↔
      EnvelopeReadable crypto payloadBytes sig credential := by
  match sig, credential with
  | .ed25519 signatureHex, .ed25519 publicKeyHex =>
    rw [verifyMandateSignature, verifyEd25519, returns_bind, EnvelopeReadable, ← returns_hexToBytes,
      ← returns_hexToBytes]
    constructor
    · rintro ⟨s, hs, h⟩
      obtain ⟨k, hk, -⟩ := returns_bind.mp h
      exact ⟨⟨s, hs⟩, ⟨k, hk⟩⟩
    · rintro ⟨⟨s, hs⟩, ⟨k, hk⟩⟩
      exact ⟨s, hs, returns_bind.mpr ⟨k, hk, hc.ed25519 _ _ _⟩⟩
  | .webauthnEs256 _ _ _, .webauthnEs256 _ => exact returns_verifyWebauthnEs256 hc
  | .ed25519 _, .webauthnEs256 _ => exact ⟨fun _ => trivial, fun _ => returns_ok _⟩
  | .webauthnEs256 _ _ _, .ed25519 _ => exact ⟨fun _ => trivial, fun _ => returns_ok _⟩

/-! ## What the gate takes -/

/-- The fields the structural checks leave without a canonical text: the currency, which they do
    not look at, and `-0`, which is a safe integer and not below zero. -/
structure CanonicalIntent (intent : JsValue) : Prop where
  currency : (intent.prop (js "currency")).canonical = true
  threshold : intent.prop (js "approval_threshold_paise") ≠ .num .negZero
  expires : intent.prop (js "expires_at") ≠ .num .negZero
  limits : ∀ e ∈ (intent.prop (js "per_merchant_ceiling_paise")).entries, e.2 ≠ .num .negZero
  line : intent.prop (js "cumulative_approval_threshold_paise") ≠ .num .negZero

/-- The intent can be serialized, and its envelope and the registered credential decoded. -/
structure IntentDecodes (crypto : Crypto) (intent : JsValue) (credential : Credential) : Prop where
  fields : CanonicalIntent intent
  envelope : ∀ bytes, intentSigningBytes intent = .ok bytes →
    EnvelopeReadable crypto bytes (asEnvelope (intent.prop (js "sig"))) credential

/-- The registered credential signed the intent, and the cart names the intent's hash. -/
def Vouched (crypto : Crypto) (intent cart : JsValue) (credential : Credential) : Prop :=
  ∃ bytes, intentSigningBytes intent = .ok bytes ∧
    verifyMandateSignature crypto bytes (asEnvelope (intent.prop (js "sig"))) credential = .ok true ∧
    cart.prop (js "intent_hash_hex") = .str (crypto.sha256Hex bytes)

/-- The cart can be serialized, and its signature and the agent's key decoded. -/
structure CartDecodes (intent cart : JsValue) : Prop where
  total : cart.prop (js "total_paise") ≠ .num .negZero
  signature : hexReadable (cart.prop (js "agent_sig_hex")).text = true
  key : hexReadable (intent.prop (js "agent_pubkey_hex")).text = true

/-- The cart is an object, and so is the first of its items that fails a check. -/
structure CartObject (cart : JsValue) : Prop where
  object : cart.nullish = false
  items : cartHeadChecks cart = none →
    ∀ item, (cart.prop (js "items")).elems.find? itemFails = some item → item.nullish = false

/-- Everything the gate reads on the way to its verdict can be read. -/
structure Decodes (crypto : Crypto) (intent cart : JsValue) (credential : Option Credential) :
    Prop where
  intentObject : intent.nullish = false
  cartObject : intentChecks intent = none → CartObject cart
  intentDecodes : intentChecks intent = none → validateCartSchema cart = .ok none →
    ∀ c, credential = some c → IntentDecodes crypto intent c
  cartDecodes : intentChecks intent = none → validateCartSchema cart = .ok none →
    ∀ c, credential = some c → Vouched crypto intent cart c → CartDecodes intent cart

/-! ### The two signed objects -/

theorem canonical_of_isNonEmptyString {v : JsValue} (h : isNonEmptyString v = true) :
    v.canonical = true := by
  match v, h with
  | .str s, _ => rfl

/-- An array of strings has a canonical text. -/
theorem canonical_of_strings {v : JsValue} (harr : v.isArray = true)
    (h : v.elems.all isNonEmptyString = true) : v.canonical = true := by
  match v, harr with
  | .arr xs, _ =>
    refine JsValue.canonicalElems_iff.mpr fun x hx => ?_
    exact canonical_of_isNonEmptyString (List.all_eq_true.mp h x hx)

theorem canonicalMembers_append (xs ys : List (JsString × JsValue)) :
    JsValue.canonicalMembers (xs ++ ys) =
      (JsValue.canonicalMembers xs && JsValue.canonicalMembers ys) := by
  induction xs with
  | nil => rfl
  | cons e xs ih =>
    rw [List.cons_append, JsValue.canonicalMembers, JsValue.canonicalMembers, ih, Bool.and_assoc]

/-- A property the text leaves out, or a canonical one. -/
theorem canonicalMembers_if {present : Bool} {k : JsString} {v : JsValue} :
    JsValue.canonicalMembers (if present then [(k, v)] else []) = true ↔
      (present = true → v.canonical = true) := by
  cases present with
  | false => exact ⟨fun _ h => (nomatch h), fun _ => rfl⟩
  | true => simp [JsValue.canonicalMembers]

theorem validateLimits_none_iff {members : List (JsString × JsValue)}
    (h : validateLimits members = none) : ∀ e ∈ members, e.2.isSafeInteger = true := by
  induction members with
  | nil => exact fun e he => nomatch he
  | cons e rest ih =>
    simp only [validateLimits, Option.orElse_eq_orElse, Option.orElse_eq_or, Option.or_eq_none_iff,
      returnIf_eq_none, Bool.or_eq_false_iff, Bool.not_eq_false'] at h
    obtain ⟨-, hlimit, hrest⟩ := h
    exact List.forall_mem_cons.mpr ⟨hlimit.1, ih hrest⟩

/-- **Of an intent that passes its checks, exactly `CanonicalIntent` is left to ask.** -/
theorem canonical_intentSigningValue {intent : JsValue} (h : intentChecks intent = none) :
    (intentSigningValue intent).canonical = true ↔ CanonicalIntent intent := by
  simp only [intentChecks, Option.orElse_eq_orElse, Option.orElse_eq_or, Option.or_eq_none_iff,
    returnIf_eq_none, Bool.or_eq_false_iff, Bool.not_eq_false', decide_eq_false_iff_not, not_le,
    not_lt] at h
  obtain ⟨hid, hgoal, hceiling, hthreshold, hmerchants, hnames, hexpires, hkey, hlimits, hline,
    hskus, hskuNames, -⟩ := h
  have hlimits' : ((intent.prop (js "per_merchant_ceiling_paise")).truthy = true →
      (intent.prop (js "per_merchant_ceiling_paise")).canonical = true) ↔
      ∀ e ∈ (intent.prop (js "per_merchant_ceiling_paise")).entries, e.2 ≠ .num .negZero := by
    cases hl : intent.prop (js "per_merchant_ceiling_paise") with
    | undefined => exact ⟨fun _ e he => (by cases he), fun _ ht => (by cases ht)⟩
    | obj members =>
      rw [hl] at hlimits
      have hsafe := validateLimits_none_iff hlimits
      rw [JsValue.canonical, JsValue.canonicalMembers_iff, JsValue.entries]
      have hentry : ∀ e ∈ members, e.2.canonical = true ↔ e.2 ≠ .num .negZero := fun e he =>
        JsValue.canonical_of_isSafeInteger (hsafe e he)
      exact ⟨fun hc e he => (hentry e he).mp (hc rfl e he), fun hn _ e he => (hentry e he).mpr (hn e he)⟩
    | _ => rw [hl] at hlimits; cases hlimits
  have hline' : JsValue.canonicalMembers
      (if (intent.prop (js "cumulative_approval_threshold_paise")).isUndefined then []
        else [(js "cumulative_approval_threshold_paise",
          intent.prop (js "cumulative_approval_threshold_paise"))]) = true ↔
      intent.prop (js "cumulative_approval_threshold_paise") ≠ .num .negZero := by
    split
    · rename_i hu
      refine ⟨fun _ hz => ?_, fun _ => rfl⟩
      rw [hz] at hu
      cases hu
    · rename_i hu
      rw [Bool.not_eq_true] at hu
      rw [hu, Bool.not_false, Bool.true_and, Bool.or_eq_false_iff, Bool.not_eq_false'] at hline
      rw [JsValue.canonicalMembers, JsValue.canonicalMembers, Bool.and_true]
      exact JsValue.canonical_of_isSafeInteger hline.1
  have hskus' : (intent.prop (js "allowed_skus")).truthy = true →
      (intent.prop (js "allowed_skus")).canonical = true := by
    intro ht
    have hu : (intent.prop (js "allowed_skus")).isUndefined = false := by
      cases hs : intent.prop (js "allowed_skus") with
      | undefined => rw [hs] at ht; cases ht
      | _ => rfl
    rw [hu, Bool.not_false, Bool.true_and] at hskus hskuNames
    rw [Bool.or_eq_false_iff, Bool.not_eq_false'] at hskus
    exact canonical_of_strings hskus.1 (by simpa using hskuNames)
  simp only [intentSigningValue, JsValue.canonical, canonicalMembers_append, Bool.and_eq_true,
    canonicalMembers_if, hlimits', hline', JsValue.canonicalMembers,
    canonical_of_isNonEmptyString hid, canonical_of_isNonEmptyString hgoal,
    JsValue.canonical_of_int_pos hceiling.1 hceiling.2,
    JsValue.canonical_of_isSafeInteger hthreshold.1, JsValue.canonical_of_isSafeInteger hexpires,
    canonical_of_strings hmerchants.1 hnames, canonical_of_isNonEmptyString hkey, true_and, and_true]
  constructor
  · rintro ⟨⟨⟨⟨ht, hc, hx⟩, hl⟩, hn⟩, -⟩
    exact ⟨hc, ht, hx, hl, hn⟩
  · rintro ⟨hc, ht, hx, hl, hn⟩
    exact ⟨⟨⟨⟨ht, hc, hx⟩, hl⟩, hn⟩, hskus'⟩

theorem itemChecks_none_iff {item : JsValue} {i : Nat} : itemChecks item i = none ↔
    isNonEmptyString (item.prop (js "sku")) = true ∧
    ((item.prop (js "qty")).isSafeInteger = true ∧ 1 ≤ (item.prop (js "qty")).int) ∧
    ((item.prop (js "unit_price_paise")).isSafeInteger = true ∧
      0 < (item.prop (js "unit_price_paise")).int) ∧
    ((item.prop (js "variant_id")).isUndefined = false →
      isNonEmptyString (item.prop (js "variant_id")) = true) ∧
    ((item.prop (js "variant_label")).isUndefined = false →
      (item.prop (js "variant_label")).isString = true) := by
  simp only [itemChecks, Option.orElse_eq_orElse, Option.orElse_eq_or, Option.or_eq_none_iff,
    returnIf_eq_none, Bool.or_eq_false_iff, Bool.not_eq_false', decide_eq_false_iff_not, not_le,
    not_lt, Bool.and_eq_false_iff]
  grind

/-- Whether an item passes does not depend on where it stands. -/
theorem itemFails_eq (item : JsValue) (i : Nat) : itemFails item = (itemChecks item i).isSome := by
  rw [itemFails, Bool.eq_iff_iff, ← not_iff_not, Bool.not_eq_true, Bool.not_eq_true, Option.isSome_eq_false_iff,
    Option.isSome_eq_false_iff, Option.isNone_iff_eq_none, Option.isNone_iff_eq_none,
    itemChecks_none_iff, itemChecks_none_iff]

/-- A nullish value has no properties, so it fails the first check. -/
theorem itemFails_nullish {item : JsValue} (h : item.nullish = true) : itemFails item = true := by
  match item, h with
  | .undefined, _ => rfl
  | .null, _ => rfl

theorem canonical_cartItemSigningValue {item : JsValue} {i : Nat} (h : itemChecks item i = none) :
    (cartItemSigningValue item).canonical = true := by
  obtain ⟨hsku, hqty, hprice, hvariant, -⟩ := itemChecks_none_iff.mp h
  have hid : (item.prop (js "variant_id")).truthy = true →
      (item.prop (js "variant_id")).canonical = true := by
    intro ht
    refine canonical_of_isNonEmptyString (hvariant ?_)
    cases hv : item.prop (js "variant_id") with
    | undefined => rw [hv] at ht; exact nomatch ht
    | _ => rfl
  simp only [cartItemSigningValue, JsValue.canonical, canonicalMembers_append, Bool.and_eq_true,
    canonicalMembers_if, JsValue.canonicalMembers, canonical_of_isNonEmptyString hsku,
    JsValue.canonical_of_int_pos hqty.1 (Int.lt_of_lt_of_le (by decide) hqty.2),
    JsValue.canonical_of_int_pos hprice.1 hprice.2, and_true]
  exact ⟨trivial, hid⟩

/-! ### The loop over the items -/

/-- **The loop returns exactly when the first item that fails a check is no `null`.** -/
theorem returns_validateItems : ∀ {items : List JsValue} {i : Nat},
    Returns (validateItems items i) ↔
      ∀ item, items.find? itemFails = some item → item.nullish = false
  | [], _ => ⟨fun _ _ h => (nomatch h), fun _ => ⟨none, rfl⟩⟩
  | item :: rest, i => by
    rw [validateItems, validateCartItemSchema]
    cases hn : item.nullish with
    | true =>
      rw [if_pos rfl, List.find?_cons_of_pos (itemFails_nullish hn)]
      refine ⟨fun h => absurd h (not_returns_error _), fun h => ?_⟩
      rw [h item rfl] at hn
      exact nomatch hn
    | false =>
      rw [if_neg (by decide)]
      cases hc : itemChecks item i with
      | some err =>
        rw [List.find?_cons_of_pos (by rw [itemFails_eq item i, hc]; rfl)]
        refine ⟨fun _ x hx => ?_, fun _ => ⟨some err, rfl⟩⟩
        rwa [← Option.some.inj hx]
      | none =>
        rw [List.find?_cons_of_neg (by rw [itemFails_eq item i, hc]; decide)]
        exact returns_validateItems

/-- The items of a list the loop accepts. -/
theorem validateItems_none : ∀ {items : List JsValue} {i : Nat}, validateItems items i = .ok none →
    ∀ item ∈ items, ∃ j, itemChecks item j = none
  | [], _, _, item, hitem => absurd hitem List.not_mem_nil
  | first :: rest, i, h, item, hitem => by
    rw [validateItems, validateCartItemSchema] at h
    split at h
    · exact nomatch h
    cases hc : itemChecks first i with
    | some err =>
      rw [hc] at h
      exact nomatch h
    | none =>
      rw [hc] at h
      rcases List.mem_cons.mp hitem with rfl | hitem
      · exact ⟨i, hc⟩
      · exact validateItems_none h item hitem

theorem returns_validateCartSchema {cart : JsValue} :
    Returns (validateCartSchema cart) ↔ CartObject cart := by
  rw [validateCartSchema]
  split
  · rename_i hn
    refine ⟨fun h => absurd h (not_returns_error _), fun h => ?_⟩
    rw [h.object] at hn
    exact nomatch hn
  rename_i hn
  rw [Bool.not_eq_true] at hn
  cases hhead : cartHeadChecks cart with
  | some err =>
    exact ⟨fun _ => ⟨hn, fun h => nomatch hhead.symm.trans h⟩, fun _ => ⟨some err, rfl⟩⟩
  | none =>
    have hloop : Returns (do
        match ← validateItems (cart.prop (js "items")).elems 0 with
        | some err => return some err
        | none => return cartTailChecks cart) ↔
        Returns (validateItems (cart.prop (js "items")).elems 0) := by
      rw [returns_bind]
      refine exists_congr fun a => ⟨fun h => h.1, fun h => ⟨h, ?_⟩⟩
      cases a <;> exact returns_pure _
    refine hloop.trans (returns_validateItems.trans ?_)
    exact ⟨fun h => ⟨hn, fun _ => h⟩, fun h => h.items hhead⟩

/-- What a cart that passes its checks is. -/
theorem validateCartSchema_none {cart : JsValue} (h : validateCartSchema cart = .ok none) :
    cart.nullish = false ∧ cartHeadChecks cart = none ∧
      validateItems (cart.prop (js "items")).elems 0 = .ok none ∧ cartTailChecks cart = none := by
  rw [validateCartSchema] at h
  split at h
  · exact nomatch h
  rename_i hn
  rw [Bool.not_eq_true] at hn
  cases hhead : cartHeadChecks cart with
  | some err =>
    rw [hhead] at h
    exact nomatch h
  | none =>
    rw [hhead, bind_eq_ok] at h
    obtain ⟨r, hitems, h⟩ := h
    cases r with
    | some err => exact nomatch h
    | none => exact ⟨hn, rfl, hitems, Except.ok.inj h⟩

/-- **Of a cart that passes its checks, only `-0` as its total is left to ask.** -/
theorem canonical_cartSigningValue {cart : JsValue} (h : validateCartSchema cart = .ok none) :
    (cartSigningValue cart).canonical = true ↔ cart.prop (js "total_paise") ≠ .num .negZero := by
  obtain ⟨-, hhead, hitems, htail⟩ := validateCartSchema_none h
  simp only [cartHeadChecks, cartTailChecks, Option.orElse_eq_orElse, Option.orElse_eq_or,
    Option.or_eq_none_iff, returnIf_eq_none, Bool.or_eq_false_iff, Bool.not_eq_false'] at hhead htail
  obtain ⟨hid, hmerchant, -⟩ := hhead
  obtain ⟨htotal, hhash, -⟩ := htail
  have hall : JsValue.canonicalElems
      ((cart.prop (js "items")).elems.map cartItemSigningValue) = true := by
    refine JsValue.canonicalElems_iff.mpr fun x hx => ?_
    obtain ⟨item, hitem, rfl⟩ := List.mem_map.mp hx
    obtain ⟨j, hj⟩ := validateItems_none hitems item hitem
    exact canonical_cartItemSigningValue hj
  simp only [cartSigningValue, JsValue.canonical, JsValue.canonicalMembers, Bool.and_eq_true,
    canonical_of_isNonEmptyString hid, canonical_of_isNonEmptyString hmerchant, hall,
    JsValue.canonical_of_isSafeInteger htotal.1, canonical_of_isNonEmptyString hhash, and_true,
    true_and]

/-! ### The gate -/

theorem returns_verifyAmounts {crypto : Crypto} {intent : IntentMandate} {cart : CartMandate}
    {ctx : VerifyCtx} {intentHashHex cartHashHex : JsString} :
    Returns (verifyAmounts crypto intent cart ctx intentHashHex cartHashHex) := by
  rw [verifyAmounts]
  split
  · exact returns_ok _
  split
  · exact returns_ok _
  · -- the mandate-cart hash is taken over two strings
    refine returns_bind_pure.mpr (returns_bind_pure.mpr ?_)
    exact ⟨_, canonicalJson_safe rfl⟩

theorem returns_verifyCart {crypto : Crypto} (hc : crypto.VerifiersReturn) {intent cart : JsValue}
    {ctx : VerifyCtx} {intentHashHex : JsString} (hcart : validateCartSchema cart = .ok none) :
    Returns (verifyCart crypto intent cart ctx intentHashHex) ↔ CartDecodes intent cart := by
  rw [verifyCart, returns_bind]
  constructor
  · rintro ⟨bytes, hbytes, h⟩
    obtain ⟨signed, hsigned, -⟩ := returns_bind.mp h
    have henv := (returns_verifyMandateSignature hc).mp ⟨signed, hsigned⟩
    have htotal := (canonical_cartSigningValue hcart).mp ((returns_canonicalJson _).mp ⟨bytes, hbytes⟩)
    exact ⟨htotal, henv.1, henv.2⟩
  · intro h
    obtain ⟨bytes, hbytes⟩ := (returns_canonicalJson _).mpr ((canonical_cartSigningValue hcart).mpr h.total)
    have henv : EnvelopeReadable crypto bytes (.ed25519 (cart.prop (js "agent_sig_hex")).text)
        (.ed25519 (intent.prop (js "agent_pubkey_hex")).text) := ⟨h.signature, h.key⟩
    obtain ⟨signed, hsigned⟩ := (returns_verifyMandateSignature hc).mpr henv
    refine ⟨bytes, hbytes, returns_bind.mpr ⟨signed, hsigned, ?_⟩⟩
    cases signed with
    | false => exact returns_pure _
    | true => exact returns_verifyAmounts

theorem isStr_iff {v : JsValue} {s : JsString} : v.isStr s = true ↔ v = .str s := by
  cases v with
  | str t => exact ⟨fun h => by rw [eq_of_beq h], fun h => by rw [JsValue.str.inj h]; exact beq_self_eq_true s⟩
  | _ => exact ⟨fun h => (nomatch h), fun h => (nomatch h)⟩

theorem returns_verifySigned {crypto : Crypto} (hc : crypto.VerifiersReturn) {intent cart : JsValue}
    {ctx : VerifyCtx} {credential : Credential} (hintent : intentChecks intent = none)
    (hcart : validateCartSchema cart = .ok none) :
    Returns (verifySigned crypto intent cart ctx credential) ↔
      IntentDecodes crypto intent credential ∧
        (Vouched crypto intent cart credential → CartDecodes intent cart) := by
  have hcanon := (returns_canonicalJson (intentSigningValue intent)).trans
    (canonical_intentSigningValue hintent)
  rw [verifySigned, returns_bind]
  constructor
  · rintro ⟨bytes, hbytes, h⟩
    obtain ⟨signed, hsigned, h⟩ := returns_bind.mp h
    refine ⟨⟨hcanon.mp ⟨bytes, hbytes⟩, fun bytes' hbytes' => ?_⟩, ?_⟩
    · obtain rfl := Except.ok.inj (hbytes.symm.trans hbytes')
      exact (returns_verifyMandateSignature hc).mp ⟨signed, hsigned⟩
    · rintro ⟨bytes', hbytes', hsigned', hlink⟩
      obtain rfl := Except.ok.inj (hbytes.symm.trans hbytes')
      obtain rfl := Except.ok.inj (hsigned.symm.trans hsigned')
      rw [Bool.not_true, if_neg (by decide)] at h
      simp only [isStr_iff.mpr hlink, Bool.not_true, Bool.false_eq_true, if_false] at h
      exact (returns_verifyCart hc hcart).mp h
  · rintro ⟨hi, hcartDecodes⟩
    obtain ⟨bytes, hbytes⟩ := hcanon.mpr hi.fields
    obtain ⟨signed, hsigned⟩ := (returns_verifyMandateSignature hc).mpr (hi.envelope bytes hbytes)
    refine ⟨bytes, hbytes, returns_bind.mpr ⟨signed, hsigned, ?_⟩⟩
    cases signed with
    | false => exact returns_pure _
    | true =>
      rw [Bool.not_true, if_neg (by decide)]
      dsimp only
      split
      · exact returns_pure _
      · rename_i hlink
        rw [Bool.not_eq_true, Bool.not_eq_false', isStr_iff] at hlink
        exact (returns_verifyCart hc hcart).mpr (hcartDecodes ⟨bytes, hbytes, hsigned, hlink⟩)

/-- **The gate answers exactly on the values it can decode.** -/
theorem returns_verifyChain {crypto : Crypto} (hc : crypto.VerifiersReturn) {intent cart : JsValue}
    {ctx : VerifyCtx} :
    Returns (verifyChain crypto intent cart ctx) ↔ Decodes crypto intent cart ctx.credential := by
  rw [verifyChain, validateIntentSchema]
  cases hn : intent.nullish with
  | true =>
    rw [if_pos rfl]
    refine ⟨fun h => absurd h (not_returns_error _), fun h => ?_⟩
    rw [h.intentObject] at hn
    exact nomatch hn
  | false =>
  rw [if_neg (by decide), ok_bind]
  cases hintent : intentChecks intent with
  | some err =>
    refine ⟨fun _ => ⟨hn, ?_, ?_, ?_⟩, fun _ => ⟨_, rfl⟩⟩ <;>
      (rw [hintent]; exact nofun)
  | none =>
  dsimp only
  cases hcart : validateCartSchema cart with
  | error e =>
    refine ⟨fun h => absurd h (not_returns_error _), fun h => ?_⟩
    obtain ⟨r, hr⟩ := returns_validateCartSchema.mpr (h.cartObject hintent)
    exact nomatch hcart.symm.trans hr
  | ok r =>
  have hobject := returns_validateCartSchema.mp ⟨r, hcart⟩
  rw [ok_bind]
  cases r with
  | some err =>
    refine ⟨fun _ => ⟨hn, fun _ => hobject, ?_, ?_⟩, fun _ => ⟨_, rfl⟩⟩ <;>
      (intro _ h; exact nomatch hcart.symm.trans h)
  | none =>
  dsimp only
  cases hcred : ctx.credential with
  | none => exact ⟨fun _ => ⟨hn, fun _ => hobject, nofun, nofun⟩, fun _ => ⟨_, rfl⟩⟩
  | some credential =>
    refine Iff.trans (returns_verifySigned hc hintent hcart) ⟨fun h => ?_, fun h => ?_⟩
    · refine ⟨hn, fun _ => hobject, fun _ _ c hc' => ?_, fun _ _ c hc' => ?_⟩
      · rw [← Option.some.inj hc']
        exact h.1
      · rw [← Option.some.inj hc']
        exact h.2
    · exact ⟨h.intentDecodes hintent hcart credential rfl,
        h.cartDecodes hintent hcart credential rfl⟩

end Hundi.Unchecked
