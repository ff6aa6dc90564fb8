/-
  What a signature is given for.

  Three messages are signed with a human's key and one with the agent's, each the canonical JSON of
  an object built where it is signed.  A member of the object is fixed by the bytes
  (`get?_of_canonicalJson`), so the bytes of an accepted intent fix all its terms
  (`terms_of_intentSigningBytes`) and those of an accepted cart all it orders
  (`signedPart_of_cartSigningBytes`).  The three human messages have a key each that the other two
  lack, so one never is another (`HumanMessage.purpose_eq`), and neither verifier takes an envelope
  for two messages (`verifyMandateSignature_binds`).
-/
import Hundi.Core.Reparse
import Hundi.Facilitator.Routes

namespace Hundi

open Js

/-! ## Strings, arrays and records in the signed object -/

theorem norm_strings (ss : List JsString) : norm (.arr (ss.map .str)) = .arr (ss.map .str) := by
  rw [norm, normElems_eq_map, List.map_map]
  rfl

theorem strings_inj {ss ts : List JsString} (h : ss.map JsonValue.str = ts.map JsonValue.str) :
    ss = ts :=
  List.map_injective_iff.mpr (fun _ _ => JsonValue.str.inj) h

/-- A record as the members of the object it is. -/
def Record.members (r : Record) : List (JsString × JsonValue) := r.map fun e => (e.1, .num e.2)

theorem Record.normMembers_members (r : Record) : normMembers r.members = r.members := by
  rw [normMembers_eq_map, members, List.map_map]
  rfl

/-- Records with one text differ at most in the order of their entries. -/
theorem Record.perm_of_norm {r t : Record} (h : norm (.obj r.members) = norm (.obj t.members)) :
    r.Perm t := by
  have hperm := normMembers_perm h
  rw [normMembers_members, normMembers_members] at hperm
  refine (List.map_perm_map_iff fun e f hef => ?_).mp hperm
  obtain ⟨hk, hv⟩ := Prod.mk.inj hef
  exact Prod.ext hk (JsonValue.num.inj hv)

/-! ## Intents -/

/-- An intent as a request hands it over: the schema accepts it. -/
structure AcceptedIntent where
  intent : IntentMandate
  schema : intentMandateSchema intent = true

/-- **The two intents grant the same**: they agree on every field but the signature, the record up
    to the order of its entries. -/
structure SameTerms (a b : IntentMandate) : Prop where
  fields : b = { a with sig := b.sig, perMerchantCeilingPaise := b.perMerchantCeilingPaise }
  limits : Option.Rel List.Perm a.perMerchantCeilingPaise b.perMerchantCeilingPaise

/-- An accepted intent has signing bytes. -/
theorem AcceptedIntent.signingBytes (a : AcceptedIntent) : ∃ bytes, intentSigningBytes a.intent = .ok bytes := by
  have hsafe : safe (intentSigningValue a.intent) = true := by
    rw [intentSigningValue_eq, safe]
    exact intentMembers_safe a.schema
  exact ⟨_, canonicalJson_safe hsafe⟩

theorem get?_limits (intent : IntentMandate) :
    (intentSigningValue intent).get? (js "per_merchant_ceiling_paise")
      = intent.perMerchantCeilingPaise.map fun r => .obj r.members := by
  obtain ⟨_, _, _, _, _, _, _, _, limits, line, skus, _⟩ := intent
  cases limits <;> cases line <;> cases skus <;> rfl

theorem get?_allowedSkus (intent : IntentMandate) :
    (intentSigningValue intent).get? (js "allowed_skus")
      = intent.allowedSkus.map fun skus => .arr (skus.map .str) := by
  obtain ⟨_, _, _, _, _, _, _, _, limits, line, skus, _⟩ := intent
  cases limits <;> cases line <;> cases skus <;> rfl

/-- Two optional records with one text, if any. -/
theorem limits_of_norm : ∀ {r t : Option Record},
    (r.map fun r => JsonValue.obj r.members).map norm
      = (t.map fun r => JsonValue.obj r.members).map norm → Option.Rel List.Perm r t
  | none, none, _ => .none
  | some _, some _, h => .some (Record.perm_of_norm (Option.some.inj h))

/-- Two optional lists of strings with one text, if any. -/
theorem strings_of_norm : ∀ {ss ts : Option (List JsString)},
    (ss.map fun ss => JsonValue.arr (ss.map .str)).map norm
      = (ts.map fun ss => JsonValue.arr (ss.map .str)).map norm → ss = ts
  | none, none, _ => rfl
  | some ss, some ts, h => by
    have harr := Option.some.inj h
    rw [norm_strings, norm_strings] at harr
    rw [strings_inj (JsonValue.arr.inj harr)]

/-- A string found under a key of both signed objects. -/
theorem str_of_norm {s t : JsString} (h : (some (JsonValue.str s)).map norm = (some (.str t)).map norm) :
    s = t :=
  JsonValue.str.inj (Option.some.inj h)

/-- A number found under a key of both signed objects. -/
theorem num_of_norm {m n : Int} (h : (some (JsonValue.num m)).map norm = (some (.num n)).map norm) :
    m = n :=
  JsonValue.num.inj (Option.some.inj h)

attribute [ext] IntentMandate CartItem CartMandate

/-- **The signing bytes fix the terms of an intent.** -/
theorem terms_of_intentSigningBytes {i j : IntentMandate} {b : Bytes}
    (hi : intentSigningBytes i = .ok b) (hj : intentSigningBytes j = .ok b) : SameTerms i j := by
  have hget := get?_of_intentSigningBytes hi hj
  have hline := (thresholds_of_intentSigningBytes hi hj).2
  have hmandateId : i.mandateId = j.mandateId := str_of_norm (hget (js "mandateId"))
  have hgoal : i.goal = j.goal := str_of_norm (hget (js "goal"))
  have hceiling : i.ceilingPaise = j.ceilingPaise := num_of_norm (hget (js "ceiling_paise"))
  have hthreshold : i.approvalThresholdPaise = j.approvalThresholdPaise :=
    num_of_norm (hget (js "approval_threshold_paise"))
  have hcurrency : i.currency = j.currency := str_of_norm (hget (js "currency"))
  have hmerchants : some i.merchants = some j.merchants := strings_of_norm (hget (js "merchants"))
  have hexpires : i.expiresAt = j.expiresAt := num_of_norm (hget (js "expires_at"))
  have hagent : i.agentPubkeyHex = j.agentPubkeyHex := str_of_norm (hget (js "agent_pubkey_hex"))
  have hlimits := hget (js "per_merchant_ceiling_paise")
  have hskus := hget (js "allowed_skus")
  rw [get?_limits, get?_limits] at hlimits
  rw [get?_allowedSkus, get?_allowedSkus] at hskus
  refine ⟨IntentMandate.ext hmandateId.symm hgoal.symm hceiling.symm hthreshold.symm hcurrency.symm
    (Option.some.inj hmerchants).symm hexpires.symm hagent.symm rfl hline.symm
    (strings_of_norm hskus).symm rfl, limits_of_norm hlimits⟩

/-! ## Carts -/

/-- A cart as a request hands it over: the schema accepts it. -/
structure AcceptedCart where
  cart : CartMandate
  schema : cartMandateSchema cart = true

/-- The item without its display label. -/
def CartItem.signedPart (item : CartItem) : CartItem := { item with variantLabel := none }

/-- The cart without the agent's signature and the display labels. -/
def CartMandate.signedPart (cart : CartMandate) : CartMandate :=
  { cart with agentSigHex := [], items := cart.items.map CartItem.signedPart }

/-- The members an item signs. -/
def cartItemMembers (item : CartItem) : List (JsString × JsonValue) :=
  match cartItemSigningValue item with
  | .obj members => members
  | _ => []

theorem cartItemSigningValue_eq (item : CartItem) :
    cartItemSigningValue item = .obj (cartItemMembers item) := rfl

theorem cartItemMembers_nodup (item : CartItem) : ((cartItemMembers item).map Prod.fst).Nodup := by
  obtain ⟨_, _, _, variantId, _⟩ := item
  rcases variantId with _ | _ | ⟨c, id⟩ <;>
    (simp only [cartItemMembers, cartItemSigningValue, List.map_append, List.map_cons, List.map_nil]
     decide)

/-- An accepted item has no empty variant id, so the signed object shows whether there is one. -/
theorem get?_variantId {item : CartItem} (h : cartItemSchema item = true) :
    (cartItemSigningValue item).get? (js "variant_id") = item.variantId.map .str := by
  obtain ⟨_, _, _, variantId, _⟩ := item
  rcases variantId with _ | _ | ⟨c, id⟩
  · rfl
  · simp only [cartItemSchema, Option.all_some, Bool.and_eq_true] at h
    cases h.1.2
  · rfl

/-- Two optional strings with one text, if any. -/
theorem str?_of_norm : ∀ {s t : Option JsString},
    (s.map JsonValue.str).map norm = (t.map JsonValue.str).map norm → s = t
  | none, none, _ => rfl
  | some _, some _, h => congrArg some (str_of_norm h)

/-- The text of an accepted item fixes it but for the label. -/
theorem signedPart_of_norm {item other : CartItem} (hi : cartItemSchema item = true)
    (ho : cartItemSchema other = true)
    (h : norm (cartItemSigningValue item) = norm (cartItemSigningValue other)) :
    item.signedPart = other.signedPart := by
  have hget : ∀ k, ((cartItemSigningValue item).get? k).map norm
      = ((cartItemSigningValue other).get? k).map norm := fun k => by
    rw [cartItemSigningValue_eq, cartItemSigningValue_eq] at h ⊢
    rw [← get?_norm (cartItemMembers_nodup item), ← get?_norm (cartItemMembers_nodup other), h]
  have hsku : item.sku = other.sku := str_of_norm (hget (js "sku"))
  have hqty : item.qty = other.qty := num_of_norm (hget (js "qty"))
  have hprice : item.unitPricePaise = other.unitPricePaise := num_of_norm (hget (js "unit_price_paise"))
  have hvariant := hget (js "variant_id")
  rw [get?_variantId hi, get?_variantId ho] at hvariant
  exact CartItem.ext hsku hqty hprice (str?_of_norm hvariant) rfl

/-- The texts of accepted items, one by one. -/
theorem signedParts_of_norm : ∀ {items others : List CartItem},
    (∀ item ∈ items, cartItemSchema item = true) → (∀ item ∈ others, cartItemSchema item = true) →
    (items.map cartItemSigningValue).map norm = (others.map cartItemSigningValue).map norm →
    items.map CartItem.signedPart = others.map CartItem.signedPart
  | [], [], _, _, _ => rfl
  | item :: items, other :: others, hi, ho, h => by
    obtain ⟨hhead, htail⟩ := List.cons.inj h
    rw [List.map_cons, List.map_cons, signedPart_of_norm (hi _ List.mem_cons_self)
      (ho _ List.mem_cons_self) hhead, signedParts_of_norm
      (fun i h => hi i (List.mem_cons_of_mem _ h)) (fun i h => ho i (List.mem_cons_of_mem _ h)) htail]

/-- The members a cart signs. -/
def cartMembers (cart : CartMandate) : List (JsString × JsonValue) :=
  match cartSigningValue cart with
  | .obj members => members
  | _ => []

theorem cartMembers_nodup (cart : CartMandate) : ((cartMembers cart).map Prod.fst).Nodup := by
  show [js "cartId", js "merchant_id", js "items", js "total_paise", js "intent_hash_hex"].Nodup
  decide

theorem AcceptedCart.items (c : AcceptedCart) : ∀ item ∈ c.cart.items, cartItemSchema item = true := by
  have h := c.schema
  simp only [cartMandateSchema, Bool.and_eq_true, List.all_eq_true] at h
  exact h.1.1.1.2.2

theorem cartItemSigningValue_safe {item : CartItem} (h : cartItemSchema item = true) :
    safe (cartItemSigningValue item) = true := by
  simp only [cartItemSchema, Bool.and_eq_true] at h
  obtain ⟨⟨⟨⟨-, hqty⟩, hprice⟩, -⟩, -⟩ := h
  rw [cartItemSigningValue, safe, safeMembers_append]
  simp only [safeMembers, safe, hqty.1, hprice.1, Bool.and_true, Bool.true_and]
  rcases item.variantId with _ | _ | ⟨c, id⟩ <;> rfl

/-- An accepted cart has signing bytes. -/
theorem AcceptedCart.signingBytes (c : AcceptedCart) : ∃ bytes, cartSigningBytes c.cart = .ok bytes := by
  have hitems : safeElems (c.cart.items.map cartItemSigningValue) = true := by
    refine safeElems_of_forall fun x hx => ?_
    obtain ⟨item, hitem, rfl⟩ := List.mem_map.mp hx
    exact cartItemSigningValue_safe (c.items item hitem)
  have htotal : isSafeInt c.cart.totalPaise = true := by
    have h := c.schema
    simp only [cartMandateSchema, Bool.and_eq_true] at h
    exact h.1.1.2.1
  have hsafe : safe (cartSigningValue c.cart) = true := by
    rw [cartSigningValue, safe]
    simp only [safeMembers, safe, hitems, htotal, Bool.and_true]
  exact ⟨_, canonicalJson_safe hsafe⟩

/-- **The signing bytes fix all that an accepted cart orders.** -/
theorem signedPart_of_cartSigningBytes {c d : AcceptedCart} {b : Bytes}
    (hc : cartSigningBytes c.cart = .ok b) (hd : cartSigningBytes d.cart = .ok b) :
    c.cart.signedPart = d.cart.signedPart := by
  have hget := get?_of_canonicalJson (cartMembers_nodup c.cart) (cartMembers_nodup d.cart) hc hd
  have hcartId : c.cart.cartId = d.cart.cartId := str_of_norm (hget (js "cartId"))
  have hmerchantId : c.cart.merchantId = d.cart.merchantId := str_of_norm (hget (js "merchant_id"))
  have htotal : c.cart.totalPaise = d.cart.totalPaise := num_of_norm (hget (js "total_paise"))
  have hhash : c.cart.intentHashHex = d.cart.intentHashHex := str_of_norm (hget (js "intent_hash_hex"))
  have hitems : some (norm (.arr (c.cart.items.map cartItemSigningValue)))
      = some (norm (.arr (d.cart.items.map cartItemSigningValue))) := hget (js "items")
  rw [norm, norm, normElems_eq_map, normElems_eq_map] at hitems
  exact CartMandate.ext hcartId hmerchantId (signedParts_of_norm c.items d.items
    (JsonValue.arr.inj (Option.some.inj hitems))) htotal hhash rfl

/-! ## The three human messages -/

/-- What a human's key signs. -/
inductive HumanMessage where
  /-- The intent of POST /mandates. -/
  | mandate (intent : IntentMandate)
  /-- The decision of POST /approvals. -/
  | approval (settlementId mandateCartHashHex : JsString) (decision : Decision)
  /-- The request of POST /revoke. -/
  | revocation (mandateId : JsString)

inductive Purpose where
  | register
  | decide
  | revoke
  deriving DecidableEq

def HumanMessage.purpose : HumanMessage → Purpose
  | .mandate _ => .register
  | .approval _ _ _ => .decide
  | .revocation _ => .revoke

/-- The members of the object the routes build before they verify. -/
def HumanMessage.members : HumanMessage → List (JsString × JsonValue)
  | .mandate intent => intentMembers intent
  | .approval settlementId mandateCartHashHex decision =>
    [(js "settlement_id", .str settlementId),
      (js "mandate_cart_hash_hex", .str mandateCartHashHex), (js "decision", .str decision.text)]
  | .revocation mandateId => [(js "mandateId", .str mandateId), (js "action", .str (js "revoke"))]

/-- The bytes the signature covers. -/
def HumanMessage.bytes (m : HumanMessage) : Except Exn Bytes := canonicalJson (.obj m.members)

theorem HumanMessage.bytes_mandate (intent : IntentMandate) :
    (HumanMessage.mandate intent).bytes = intentSigningBytes intent := rfl

theorem HumanMessage.bytes_approval (settlementId mandateCartHashHex : JsString) (decision : Decision) :
    (HumanMessage.approval settlementId mandateCartHashHex decision).bytes
      = canonicalJson (approvalValue settlementId mandateCartHashHex decision) := rfl

theorem HumanMessage.members_nodup (m : HumanMessage) : (m.members.map Prod.fst).Nodup := by
  cases m with
  | mandate intent => exact intentMembers_nodup intent
  | approval settlementId mandateCartHashHex decision =>
    show [js "settlement_id", js "mandate_cart_hash_hex", js "decision"].Nodup
    decide
  | revocation mandateId =>
    show [js "mandateId", js "action"].Nodup
    decide

/-- A key of the messages of one purpose that no other message has. -/
def Purpose.key : Purpose → JsString
  | .register => js "goal"
  | .decide => js "decision"
  | .revoke => js "action"

/-- The key of a purpose is in its own messages and in no other. -/
theorem HumanMessage.get?_key (m : HumanMessage) (p : Purpose) :
    ((JsonValue.obj m.members).get? p.key).isSome = decide (m.purpose = p) := by
  cases m with
  | mandate intent =>
    obtain ⟨_, _, _, _, _, _, _, _, limits, line, skus, _⟩ := intent
    cases p with
    | register => rfl
    | decide => cases limits <;> cases line <;> cases skus <;> rfl
    | revoke => cases limits <;> cases line <;> cases skus <;> rfl
  | approval settlementId mandateCartHashHex decision => cases p <;> rfl
  | revocation mandateId => cases p <;> rfl

/-- **Messages of two purposes are never equal as bytes**, whatever they say. -/
theorem HumanMessage.purpose_eq {m n : HumanMessage} {b : Bytes} (hm : m.bytes = .ok b)
    (hn : n.bytes = .ok b) : m.purpose = n.purpose := by
  have hget := congrArg Option.isSome
    (get?_of_canonicalJson m.members_nodup n.members_nodup hm hn m.purpose.key)
  rw [Option.isSome_map, Option.isSome_map, m.get?_key, n.get?_key, decide_eq_true rfl] at hget
  exact (of_decide_eq_true hget.symm).symm

/-! ## One envelope, one message -/

/-- Under the credential's key no signature is good for two messages. -/
def Credential.BindsMessages (crypto : Crypto) : Credential → Prop
  | .ed25519 publicKeyHex => ∀ publicKey, hexToBytes publicKeyHex = .ok publicKey →
    ∀ signature m n, crypto.ed25519Verify signature m publicKey = .ok true →
      crypto.ed25519Verify signature n publicKey = .ok true → m = n
  | .webauthnEs256 _ => True

theorem verifyEd25519_binds {crypto : Crypto} {b c : Bytes} {signatureHex publicKeyHex : JsString}
    (hbinds : (Credential.ed25519 publicKeyHex).BindsMessages crypto)
    (hb : verifyEd25519 crypto b signatureHex publicKeyHex = .ok true)
    (hc : verifyEd25519 crypto c signatureHex publicKeyHex = .ok true) :
    crypto.sha256 b = crypto.sha256 c := by
  simp only [verifyEd25519, bind_eq_ok] at hb hc
  obtain ⟨signature, hsig, publicKey, hkey, hb⟩ := hb
  obtain ⟨signature', hsig', publicKey', hkey', hc⟩ := hc
  obtain rfl := Except.ok.inj (hsig.symm.trans hsig')
  obtain rfl := Except.ok.inj (hkey.symm.trans hkey')
  exact hbinds publicKey hkey signature _ _ hb hc

/-- The challenge of an accepted assertion is the hash of the payload. -/
theorem challenge_of_verifyWebauthn {crypto : Crypto} {b : Bytes}
    {clientDataB64u authenticatorData signature : JsString} {jwk : JsonValue}
    (h : verifyWebauthnEs256 crypto b clientDataB64u authenticatorData signature jwk = .ok true) :
    ∃ bytes clientData, decodeBase64Url clientDataB64u = .ok bytes ∧
      crypto.jsonParse (crypto.textDecode bytes) = some clientData ∧
      (clientData.get? (js "challenge")).bind JsonValue.str? = some (crypto.sha256B64url b) := by
  simp only [verifyWebauthnEs256, bind_eq_ok] at h
  obtain ⟨bytes, hbytes, h⟩ := h
  split at h
  · exact nomatch Except.ok.inj h
  · exact nomatch h
  · rename_i clientData _ hparse
    split at h
    · exact nomatch Except.ok.inj h
    split at h
    · exact nomatch Except.ok.inj h
    · rename_i hchallenge
      exact ⟨bytes, clientData, hbytes, hparse, by simpa using hchallenge⟩

/-- **An envelope verifies for one message only.** -/
theorem verifyMandateSignature_binds {crypto : Crypto} {b c : Bytes} {sig : SigEnvelope}
    {credential : Credential} (hbinds : credential.BindsMessages crypto)
    (hcf : crypto.CollisionFree [b, c])
    (hb : verifyMandateSignature crypto b sig credential = .ok true)
    (hc : verifyMandateSignature crypto c sig credential = .ok true) : b = c := by
  have hbmem : b ∈ [b, c] := List.mem_cons_self
  have hcmem : c ∈ [b, c] := List.mem_cons_of_mem _ List.mem_cons_self
  cases sig with
  | ed25519 signatureHex =>
    cases credential with
    | ed25519 publicKeyHex => exact hcf b hbmem c hcmem (verifyEd25519_binds hbinds hb hc)
    | webauthnEs256 jwk => exact nomatch Except.ok.inj hb
  | webauthnEs256 clientDataB64u authenticatorData signature =>
    cases credential with
    | ed25519 publicKeyHex => exact nomatch Except.ok.inj hb
    | webauthnEs256 jwk =>
      obtain ⟨bytes, clientData, hbytes, hparse, hchallenge⟩ := challenge_of_verifyWebauthn hb
      obtain ⟨bytes', clientData', hbytes', hparse', hchallenge'⟩ := challenge_of_verifyWebauthn hc
      obtain rfl := Except.ok.inj (hbytes.symm.trans hbytes')
      obtain rfl := Option.some.inj (hparse.symm.trans hparse')
      exact Crypto.sha256B64url_inj hcf hbmem hcmem
        (Option.some.inj (hchallenge.symm.trans hchallenge'))

/-- **What is signed is unambiguous.**  The signing bytes of two accepted intents are equal only if
    the intents grant the same, those of two accepted carts only if the carts order the same, and
    messages of two purposes are never equal.  So under a key whose signatures are good for one
    message each, and without a SHA-256 collision between the two messages, an envelope that verifies
    for one purpose does not verify for another. -/
theorem signed_unambiguous :
    (∀ a b : AcceptedIntent, intentSigningBytes a.intent = intentSigningBytes b.intent →
      SameTerms a.intent b.intent) ∧
    (∀ c d : AcceptedCart, cartSigningBytes c.cart = cartSigningBytes d.cart →
      c.cart.signedPart = d.cart.signedPart) ∧
    (∀ (m n : HumanMessage) (b c : Bytes), m.purpose ≠ n.purpose → m.bytes = .ok b → n.bytes = .ok c →
      b ≠ c ∧
      ∀ (crypto : Crypto) (credential : Credential) (sig : SigEnvelope),
        credential.BindsMessages crypto → crypto.CollisionFree [b, c] →
        verifyMandateSignature crypto b sig credential = .ok true →
        verifyMandateSignature crypto c sig credential ≠ .ok true) := by
  refine ⟨fun a b h => ?_, fun c d h => ?_, fun m n b c hpurpose hm hn => ?_⟩
  · obtain ⟨bytes, ha⟩ := a.signingBytes
    exact terms_of_intentSigningBytes ha (h ▸ ha)
  · obtain ⟨bytes, hc⟩ := c.signingBytes
    exact signedPart_of_cartSigningBytes hc (h ▸ hc)
  · have hne : b ≠ c := by
      rintro rfl
      exact hpurpose (HumanMessage.purpose_eq hm hn)
    exact ⟨hne, fun crypto credential sig hbinds hcf hb hc =>
      hne (verifyMandateSignature_binds hbinds hcf hb hc)⟩

end Hundi
