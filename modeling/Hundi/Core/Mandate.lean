/-
  packages/core/src/mandate.ts — the mandate chain and the bytes its signatures cover.

  An `IntentMandate` is the authority a human grants an agent, a `CartMandate` one purchase chained
  to it by hash.  Optional fields are `Option`; a `Record<string, number>` is its list of entries.
  The signing bytes are canonical JSON of an object that leaves an absent optional field out.

  `intentSigningBytes_inj` is what later chains rest on: two intents with the same signing bytes
  carry the same approval thresholds.
-/
import Hundi.Core.Hash

namespace Hundi

open Js

/-- `Record<string, number>`: its entries. -/
abbrev Record := List (JsString × Int)

/-- `record[key]`, `none` for `undefined`. -/
def Record.get? (r : Record) (key : JsString) : Option Int := (r.find? fun e => e.1 == key).map Prod.snd

inductive SigEnvelope where
  | ed25519 (signatureHex : JsString)
  | webauthnEs256 (clientDataJSONB64u authenticatorDataB64u signatureB64u : JsString)
  deriving DecidableEq

structure IntentMandate where
  mandateId : JsString
  goal : JsString
  ceilingPaise : Int
  approvalThresholdPaise : Int
  currency : JsString
  merchants : List JsString
  /-- Unix seconds. -/
  expiresAt : Int
  agentPubkeyHex : JsString
  perMerchantCeilingPaise : Option Record
  cumulativeApprovalThresholdPaise : Option Int
  allowedSkus : Option (List JsString)
  sig : SigEnvelope
  deriving DecidableEq

structure CartItem where
  sku : JsString
  qty : Int
  unitPricePaise : Int
  variantId : Option JsString
  /-- Display only: not signed. -/
  variantLabel : Option JsString
  deriving DecidableEq

structure CartMandate where
  cartId : JsString
  merchantId : JsString
  items : List CartItem
  totalPaise : Int
  intentHashHex : JsString
  agentSigHex : JsString
  deriving DecidableEq

/-! ## Signing bytes -/

/-- The object `intentSigningBytes` serializes: every field but `sig`, absent ones left out. -/
def intentSigningValue (intent : IntentMandate) : JsonValue :=
  .obj ([(js "mandateId", .str intent.mandateId),
    (js "goal", .str intent.goal),
    (js "ceiling_paise", .num intent.ceilingPaise),
    (js "approval_threshold_paise", .num intent.approvalThresholdPaise),
    (js "currency", .str intent.currency),
    (js "merchants", .arr (intent.merchants.map .str)),
    (js "expires_at", .num intent.expiresAt),
    (js "agent_pubkey_hex", .str intent.agentPubkeyHex)] ++
    (match intent.perMerchantCeilingPaise with
      | some limits =>
        [(js "per_merchant_ceiling_paise", .obj (limits.map fun e => (e.1, .num e.2)))]
      | none => []) ++
    (match intent.cumulativeApprovalThresholdPaise with
      | some line => [(js "cumulative_approval_threshold_paise", .num line)]
      | none => []) ++
    (match intent.allowedSkus with
      | some skus => [(js "allowed_skus", .arr (skus.map .str))]
      | none => []))

/-- `intentSigningBytes(intent)`. -/
def intentSigningBytes (intent : IntentMandate) : Except Exn Bytes :=
  canonicalJson (intentSigningValue intent)

/-- One item of the object `cartSigningBytes` serializes; an empty `variant_id` is falsy. -/
def cartItemSigningValue (item : CartItem) : JsonValue :=
  .obj ([(js "sku", .str item.sku), (js "qty", .num item.qty),
    (js "unit_price_paise", .num item.unitPricePaise)] ++
    (match item.variantId with
      | some (c :: id) => [(js "variant_id", .str (c :: id))]
      | _ => []))

/-- The object `cartSigningBytes` serializes: every field but `agent_sig_hex`. -/
def cartSigningValue (cart : CartMandate) : JsonValue :=
  .obj [(js "cartId", .str cart.cartId),
    (js "merchant_id", .str cart.merchantId),
    (js "items", .arr (cart.items.map cartItemSigningValue)),
    (js "total_paise", .num cart.totalPaise),
    (js "intent_hash_hex", .str cart.intentHashHex)]

/-- `cartSigningBytes(cart)`. -/
def cartSigningBytes (cart : CartMandate) : Except Exn Bytes := canonicalJson (cartSigningValue cart)

/-! ## The keys of an intent -/

/-- The members `intentSigningBytes` serializes. -/
def intentMembers (intent : IntentMandate) : List (JsString × JsonValue) :=
  match intentSigningValue intent with
  | .obj members => members
  | _ => []

theorem intentSigningValue_eq (intent : IntentMandate) :
    intentSigningValue intent = .obj (intentMembers intent) := rfl

/-- No key occurs twice, whichever optional fields are there. -/
theorem intentMembers_nodup (intent : IntentMandate) :
    ((intentMembers intent).map Prod.fst).Nodup := by
  obtain ⟨_, _, _, _, _, _, _, _, limits, line, skus, _⟩ := intent
  -- eight lists of literal keys, one for each choice of the optional fields
  cases limits <;> cases line <;> cases skus <;>
    (simp only [intentMembers, intentSigningValue, List.map_append, List.map_cons, List.map_nil]
     decide)

theorem get?_approvalThreshold (intent : IntentMandate) :
    (intentSigningValue intent).get? (js "approval_threshold_paise")
      = some (.num intent.approvalThresholdPaise) := by
  obtain ⟨_, _, _, _, _, _, _, _, limits, line, skus, _⟩ := intent
  cases limits <;> cases line <;> cases skus <;> rfl

theorem get?_cumulativeThreshold (intent : IntentMandate) :
    (intentSigningValue intent).get? (js "cumulative_approval_threshold_paise")
      = intent.cumulativeApprovalThresholdPaise.map .num := by
  obtain ⟨_, _, _, _, _, _, _, _, limits, line, skus, _⟩ := intent
  cases limits <;> cases line <;> cases skus <;> rfl

/-- A member of the signed object is fixed by the signing bytes. -/
theorem get?_of_intentSigningBytes {i j : IntentMandate} {b : Bytes}
    (hi : intentSigningBytes i = .ok b) (hj : intentSigningBytes j = .ok b) (k : JsString) :
    ((intentSigningValue i).get? k).map norm = ((intentSigningValue j).get? k).map norm :=
  get?_of_canonicalJson (intentMembers_nodup i) (intentMembers_nodup j) hi hj k

/-- **The signing bytes fix the approval thresholds.** -/
theorem thresholds_of_intentSigningBytes {i j : IntentMandate} {b : Bytes}
    (hi : intentSigningBytes i = .ok b) (hj : intentSigningBytes j = .ok b) :
    i.approvalThresholdPaise = j.approvalThresholdPaise ∧
      i.cumulativeApprovalThresholdPaise = j.cumulativeApprovalThresholdPaise := by
  have ht := get?_of_intentSigningBytes hi hj (js "approval_threshold_paise")
  have hc := get?_of_intentSigningBytes hi hj (js "cumulative_approval_threshold_paise")
  rw [get?_approvalThreshold, get?_approvalThreshold] at ht
  rw [get?_cumulativeThreshold, get?_cumulativeThreshold] at hc
  refine ⟨JsonValue.num.inj (Option.some.inj ht), ?_⟩
  cases hci : i.cumulativeApprovalThresholdPaise with
  | none =>
    cases hcj : j.cumulativeApprovalThresholdPaise with
    | none => rfl
    | some m => rw [hci, hcj] at hc; exact absurd hc (by simp)
  | some n =>
    cases hcj : j.cumulativeApprovalThresholdPaise with
    | none => rw [hci, hcj] at hc; exact absurd hc (by simp)
    | some m =>
      rw [hci, hcj] at hc
      exact congrArg some (JsonValue.num.inj (Option.some.inj hc))

end Hundi
