/-
  What an agent's signature on a decision stands for.

  POST /settlements/:id/decisions verifies the signature over the canonical JSON of the payload alone,
  under the agent key of the settlement's mandate, and records the payload
  (`decisionAccepted_iff`).  The settlement is in the path only and nothing in the bytes says
  "decision": the pair is good for every settlement whose mandate has a key that verifies it, and a
  payload of the shape of an unsigned cart (`cartShape`) has the bytes a cart signs
  (`cartShape_iff`).
-/
import Hundi.Facilitator.Signing

namespace Hundi

open Js EventLoop

/-! ## Acceptance -/

/-- POST /settlements/:id/decisions records the decision. -/
def DecisionAccepted (env : Env) (now : Int) (seed : JsString) (w : World) (settlementId : JsString)
    (payload : List (JsString × JsonValue)) (signatureHex : JsString) : Prop :=
  ∃ row : LedgerRow, row.eventType = .agent_decision ∧ row.settlementId = some settlementId ∧
    row.payload = .obj payload ∧
    (handleRequest env now seed w (.postDecisions settlementId payload signatureHex)).world
      = w.commit { w.db with ledger := w.db.ledger ++ [row] }

/-- The agent key of the mandate of a stored settlement verifies the signature over the bytes. -/
def AgentVerifies (env : Env) (w : World) (settlementId signatureHex : JsString) (bytes : Bytes) :
    Prop :=
  ∃ settlement mandateRow, getSettlement w.db settlementId = some settlement ∧
    getMandateRow w.db settlement.mandateId = some mandateRow ∧
    verifyMandateSignature env.crypto bytes (.ed25519 signatureHex)
      (.ed25519 mandateRow.intent.agentPubkeyHex) = .ok true

theorem world_respondWith_error (w : World) (e : Exn) : (respondWith w (.error e)).world = w := rfl

/-- **A decision is recorded exactly when the settlement's agent key verifies the payload's bytes.** -/
theorem decisionAccepted_iff {env : Env} {now : Int} {seed : JsString} {w : World}
    {settlementId : JsString} {payload : List (JsString × JsonValue)} {signatureHex : JsString} :
    DecisionAccepted env now seed w settlementId payload signatureHex ↔
      isNonEmptyString signatureHex = true ∧ ∃ bytes, canonicalJson (.obj payload) = .ok bytes ∧
        AgentVerifies env w settlementId signatureHex bytes := by
  constructor
  · rintro ⟨row, -, -, -, h⟩
    -- a refused request leaves the ledger as long as it was
    have hne : (handleRequest env now seed w (.postDecisions settlementId payload signatureHex)).world
        ≠ w := fun heq => by
      have hlen := congrArg (fun w : World => w.db.ledger.length) (h.symm.trans heq)
      simp [World.commit] at hlen
    unfold handleRequest at hne
    split at hne
    · rename_i hvalid
      refine ⟨hvalid, ?_⟩
      simp only [handleValid, postDecisions] at hne
      split at hne
      · exact absurd (world_respondWith_error w _) hne
      rename_i settlement hsettlement
      split at hne
      · exact absurd (world_respondWith_error w _) hne
      rename_i mandateRow hmandate
      cases hbytes : canonicalJson (.obj payload) with
      | error e => rw [hbytes] at hne; exact absurd (world_respondWith_error w e) hne
      | ok bytes =>
        refine ⟨bytes, rfl, settlement, mandateRow, hsettlement, hmandate, ?_⟩
        rw [hbytes] at hne
        cases hverify : verifyMandateSignature env.crypto bytes (.ed25519 signatureHex)
            (.ed25519 mandateRow.intent.agentPubkeyHex) with
        | error e =>
          simp only [bind, Except.bind, hverify] at hne
          exact absurd (world_respondWith_error w e) hne
        | ok valid =>
          cases valid with
          | true => rfl
          | false =>
            simp only [bind, Except.bind, hverify] at hne
            exact absurd (world_respondWith_error w _) hne
    · exact absurd rfl hne
  · rintro ⟨hvalid, bytes, hbytes, settlement, mandateRow, hsettlement, hmandate, hverify⟩
    have hsafe := safe_of_canonicalJson hbytes
    rw [safe] at hsafe
    obtain ⟨db', hdb'⟩ := appendLedger_isOk env.crypto now w.db ⟨.agent_decision, some settlementId,
      js "agent:" ++ mandateRow.intent.agentPubkeyHex.take 8, payload⟩ hsafe
    obtain ⟨row, hrow, rfl⟩ := appendLedger_ok hdb'
    refine ⟨row, hrow.eventType, hrow.settlementId, hrow.payload, ?_⟩
    have hrequest : (Request.postDecisions settlementId payload signatureHex).valid = true := hvalid
    rw [handleRequest, if_pos hrequest]
    simp only [handleValid, postDecisions, hsettlement, hmandate, hbytes, hverify, bind, Except.bind,
      Bool.not_true, Bool.false_eq_true, if_false, hdb']
    rfl

/-! ## Payloads of the shape of a cart -/

/-- The property is a non-empty string. -/
def textAt (v : JsonValue) (k : JsString) : Bool :=
  match v.get? k with
  | some (.str s) => isNonEmptyString s
  | _ => false

/-- The property is a safe integer, `least` or more. -/
def amountAt (v : JsonValue) (k : JsString) (least : Int) : Bool :=
  match v.get? k with
  | some (.num n) => isSafeInt n && least ≤ n
  | _ => false

/-- An object with the members an accepted cart item signs, and no others. -/
def itemShape : JsonValue → Bool
  | .obj ms =>
    textAt (.obj ms) (js "sku") && amountAt (.obj ms) (js "qty") 1 &&
    amountAt (.obj ms) (js "unit_price_paise") 1 &&
    (ms.length == 3 || (ms.length == 4 && textAt (.obj ms) (js "variant_id")))
  | _ => false

/-- The members an accepted cart signs, and no others. -/
def cartShape (ms : List (JsString × JsonValue)) : Bool :=
  textAt (.obj ms) (js "cartId") && textAt (.obj ms) (js "merchant_id") &&
  (match (JsonValue.obj ms).get? (js "items") with
    | some (.arr xs) => !xs.isEmpty && xs.all itemShape
    | _ => false) &&
  amountAt (.obj ms) (js "total_paise") 0 && textAt (.obj ms) (js "intent_hash_hex") &&
  ms.length == 5

theorem textAt_iff {v : JsonValue} {k : JsString} :
    textAt v k = true ↔ ∃ s, v.get? k = some (.str s) ∧ isNonEmptyString s = true := by
  unfold textAt
  split
  · rename_i s h
    rw [h]
    exact ⟨fun hs => ⟨s, rfl, hs⟩, fun ⟨t, ht, hs⟩ => by
      rwa [JsonValue.str.inj (Option.some.inj ht)]⟩
  · rename_i h
    exact ⟨fun hf => (nomatch hf), fun ⟨s, hs, _⟩ => absurd hs (h s)⟩

theorem amountAt_iff {v : JsonValue} {k : JsString} {least : Int} :
    amountAt v k least = true ↔
      ∃ n, v.get? k = some (.num n) ∧ isSafeInt n = true ∧ least ≤ n := by
  unfold amountAt
  split
  · rename_i n h
    rw [h, Bool.and_eq_true, decide_eq_true_eq]
    exact ⟨fun hn => ⟨n, rfl, hn⟩, fun ⟨m, hm, hn⟩ => by
      rwa [JsonValue.num.inj (Option.some.inj hm)]⟩
  · rename_i h
    exact ⟨fun hf => (nomatch hf), fun ⟨n, hn, _⟩ => absurd hn (h n)⟩

/-! ### What an object shows of its members -/

/-- The members an object shows under distinct keys are all it has, if it has no more. -/
theorem perm_of_get? {ms ns : List (JsString × JsonValue)} (hnd : (ns.map Prod.fst).Nodup)
    (hlen : ms.length = ns.length) (h : ∀ m ∈ ns, (JsonValue.obj ms).get? m.1 = some m.2) :
    ms.Perm ns := by
  have hsub : ns ⊆ ms := fun m hm => by
    obtain ⟨m', hm', hv⟩ := Option.map_eq_some_iff.mp (h m hm)
    have hk : m'.1 = m.1 := by simpa using List.find?_some hm'
    rw [← Prod.ext hk hv]
    exact List.mem_of_find?_eq_some hm'
  exact ((List.subperm_of_subset (List.Nodup.of_map _ hnd) hsub).perm_of_length_le hlen.le).symm

/-- An object with the text of one whose keys are distinct. -/
structure SameText (ms ns : List (JsString × JsonValue)) : Prop where
  length : ms.length = ns.length
  get? : ∀ k, ((JsonValue.obj ms).get? k).map norm = ((JsonValue.obj ns).get? k).map norm

theorem sameText_of_norm {ms ns : List (JsString × JsonValue)} (hnd : (ns.map Prod.fst).Nodup)
    (h : norm (.obj ms) = norm (.obj ns)) : SameText ms ns := by
  have hperm := normMembers_perm h
  have hkeys := hperm.map Prod.fst
  rw [normMembers_eq_map, normMembers_eq_map, List.map_map, List.map_map] at hkeys
  have hms : (ms.map Prod.fst).Nodup := hkeys.nodup_iff.mpr hnd
  refine ⟨by simpa [normMembers_eq_map] using hperm.length_eq, fun k => ?_⟩
  rw [← get?_norm hms, ← get?_norm hnd, h]

theorem eq_str_of_norm {v : Option JsonValue} {s : JsString}
    (h : v.map norm = (some (JsonValue.str s)).map norm) : v = some (.str s) := by
  rcases v with _ | v
  · exact nomatch h
  · cases v with
    | str t => exact h
    | _ => exact nomatch h

theorem eq_num_of_norm {v : Option JsonValue} {n : Int}
    (h : v.map norm = (some (JsonValue.num n)).map norm) : v = some (.num n) := by
  rcases v with _ | v
  · exact nomatch h
  · cases v with
    | num m => exact h
    | _ => exact nomatch h

theorem eq_arr_of_norm {v : Option JsonValue} (ys : List JsonValue)
    (h : v.map norm = (some (JsonValue.arr ys)).map norm) :
    ∃ xs, v = some (.arr xs) ∧ xs.map norm = ys.map norm := by
  rcases v with _ | v
  · exact nomatch h
  · cases v with
    | arr xs =>
      have harr := JsonValue.arr.inj (Option.some.inj h)
      rw [normElems_eq_map, normElems_eq_map] at harr
      exact ⟨xs, rfl, harr⟩
    | _ => exact nomatch h

/-! ### Items -/

/-- The signed members of an item without a variant. -/
theorem cartItemMembers_none (sku : JsString) (qty price : Int) (label : Option JsString) :
    cartItemMembers ⟨sku, qty, price, none, label⟩ =
      [(js "sku", .str sku), (js "qty", .num qty), (js "unit_price_paise", .num price)] := rfl

theorem cartItemMembers_some (sku : JsString) (qty price : Int) {id : JsString}
    (hid : isNonEmptyString id = true) (label : Option JsString) :
    cartItemMembers ⟨sku, qty, price, some id, label⟩ =
      [(js "sku", .str sku), (js "qty", .num qty), (js "unit_price_paise", .num price),
        (js "variant_id", .str id)] := by
  cases id with
  | nil => exact nomatch hid
  | cons c id => rfl

/-- What has the shape of an item is one, up to the order of its members. -/
theorem item_of_shape {v : JsonValue} (h : itemShape v = true) :
    ∃ item, cartItemSchema item = true ∧ norm v = norm (cartItemSigningValue item) := by
  cases v with
  | obj ms =>
    simp only [itemShape, Bool.and_eq_true, Bool.or_eq_true, beq_iff_eq] at h
    obtain ⟨⟨⟨hsku, hqty⟩, hprice⟩, hvariant⟩ := h
    obtain ⟨sku, hgetSku, hsku⟩ := textAt_iff.mp hsku
    obtain ⟨qty, hgetQty, hqty⟩ := amountAt_iff.mp hqty
    obtain ⟨price, hgetPrice, hprice⟩ := amountAt_iff.mp hprice
    -- with or without a variant
    obtain ⟨variantId, hschema, hperm⟩ : ∃ variantId : Option JsString,
        variantId.all isNonEmptyString = true ∧
        ms.Perm (cartItemMembers ⟨sku, qty, price, variantId, none⟩) := by
      rcases hvariant with hlen | ⟨hlen, hvariant⟩
      · refine ⟨none, rfl, perm_of_get? (cartItemMembers_nodup _) hlen fun m hm => ?_⟩
        rw [cartItemMembers_none] at hm
        simp only [List.mem_cons, List.not_mem_nil, or_false] at hm
        rcases hm with rfl | rfl | rfl
        · exact hgetSku
        · exact hgetQty
        · exact hgetPrice
      · obtain ⟨id, hgetId, hid⟩ := textAt_iff.mp hvariant
        have hmembers := cartItemMembers_some sku qty price hid none
        refine ⟨some id, hid, perm_of_get? (cartItemMembers_nodup _) ?_ fun m hm => ?_⟩
        · rw [hmembers]
          exact hlen
        · rw [hmembers] at hm
          simp only [List.mem_cons, List.not_mem_nil, or_false] at hm
          rcases hm with rfl | rfl | rfl | rfl
          · exact hgetSku
          · exact hgetQty
          · exact hgetPrice
          · exact hgetId
    refine ⟨⟨sku, qty, price, variantId, none⟩, ?_, ?_⟩
    · simp only [cartItemSchema, hsku, hqty.1, hprice.1, hschema, Option.all_none, Bool.and_true,
        Bool.true_and, Bool.and_eq_true, decide_eq_true_eq]
      exact ⟨hqty.2, hprice.2⟩
    · rw [cartItemSigningValue_eq]
      refine norm_obj_perm ((hperm.map Prod.fst).nodup_iff.mpr (cartItemMembers_nodup _)) ?_
      rw [normMembers_eq_map, normMembers_eq_map]
      exact hperm.map _
  | _ => cases h

/-- What has the text of an accepted item has its shape. -/
theorem shape_of_item {v : JsonValue} {item : CartItem} (hi : cartItemSchema item = true)
    (h : norm v = norm (cartItemSigningValue item)) : itemShape v = true := by
  rw [cartItemSigningValue_eq] at h
  cases v with
  | obj ms =>
    have hsame := sameText_of_norm (cartItemMembers_nodup item) h
    have hsku := eq_str_of_norm (s := item.sku) (hsame.get? (js "sku"))
    have hqty := eq_num_of_norm (n := item.qty) (hsame.get? (js "qty"))
    have hprice := eq_num_of_norm (n := item.unitPricePaise) (hsame.get? (js "unit_price_paise"))
    have hvariant := hsame.get? (js "variant_id")
    have hlen := hsame.length
    rw [← cartItemSigningValue_eq, get?_variantId hi] at hvariant
    obtain ⟨sku, qty, price, variantId, label⟩ := item
    simp only [cartItemSchema, Bool.and_eq_true, decide_eq_true_eq] at hi
    obtain ⟨⟨⟨⟨hskuText, hqtyInt, hqtyMin⟩, hpriceInt, hpriceMin⟩, hid⟩, -⟩ := hi
    simp only [itemShape, Bool.and_eq_true, Bool.or_eq_true, beq_iff_eq]
    refine ⟨⟨⟨textAt_iff.mpr ⟨sku, hsku, hskuText⟩, amountAt_iff.mpr ⟨qty, hqty, hqtyInt, hqtyMin⟩⟩,
      amountAt_iff.mpr ⟨price, hprice, hpriceInt, hpriceMin⟩⟩, ?_⟩
    cases variantId with
    | none => exact Or.inl hlen
    | some id =>
      rw [cartItemMembers_some sku qty price hid] at hlen
      exact Or.inr ⟨hlen, textAt_iff.mpr ⟨id, eq_str_of_norm hvariant, hid⟩⟩
  | _ => cases h

/-- Arrays of shapes and arrays of items, element by element. -/
theorem items_of_shapes : ∀ {xs : List JsonValue}, xs.all itemShape = true →
    ∃ items : List CartItem, (∀ item ∈ items, cartItemSchema item = true) ∧
      xs.map norm = (items.map cartItemSigningValue).map norm
  | [], _ => ⟨[], fun _ h => absurd h List.not_mem_nil, rfl⟩
  | x :: xs, h => by
    rw [List.all_cons, Bool.and_eq_true] at h
    obtain ⟨item, hitem, hx⟩ := item_of_shape h.1
    obtain ⟨items, hitems, hxs⟩ := items_of_shapes h.2
    refine ⟨item :: items, fun i hi => ?_, by rw [List.map_cons, List.map_cons, List.map_cons, hx, hxs]⟩
    rcases List.mem_cons.mp hi with rfl | hi
    · exact hitem
    · exact hitems i hi

theorem shapes_of_items : ∀ {xs : List JsonValue} {items : List CartItem},
    (∀ item ∈ items, cartItemSchema item = true) →
    xs.map norm = (items.map cartItemSigningValue).map norm → xs.all itemShape = true
  | [], _, _, _ => rfl
  | x :: xs, item :: items, hs, h => by
    obtain ⟨hx, hxs⟩ := List.cons.inj h
    rw [List.all_cons, shape_of_item (hs item List.mem_cons_self) hx,
      shapes_of_items (fun i hi => hs i (List.mem_cons_of_mem _ hi)) hxs]
    rfl

/-! ### Carts -/

/-- What has the shape of a cart is what some accepted cart signs. -/
theorem cart_of_shape {payload : List (JsString × JsonValue)} (h : cartShape payload = true)
    {signatureHex : JsString} (hs : isNonEmptyString signatureHex = true) :
    ∃ c : AcceptedCart, c.cart.agentSigHex = signatureHex ∧
      norm (.obj payload) = norm (cartSigningValue c.cart) := by
  simp only [cartShape, Bool.and_eq_true, beq_iff_eq] at h
  obtain ⟨⟨⟨⟨⟨hcartId, hmerchantId⟩, hitems⟩, htotal⟩, hhash⟩, hlen⟩ := h
  obtain ⟨cartId, hgetCartId, hcartId⟩ := textAt_iff.mp hcartId
  obtain ⟨merchantId, hgetMerchantId, hmerchantId⟩ := textAt_iff.mp hmerchantId
  obtain ⟨total, hgetTotal, htotal⟩ := amountAt_iff.mp htotal
  obtain ⟨hash, hgetHash, hhash⟩ := textAt_iff.mp hhash
  split at hitems
  · rename_i xs hgetItems
    rw [Bool.and_eq_true] at hitems
    obtain ⟨items, hschema, hnorm⟩ := items_of_shapes hitems.2
    have hne : items.isEmpty = false := by
      cases items with
      | nil =>
        rw [List.map_nil, List.map_nil, List.map_eq_nil_iff] at hnorm
        rw [hnorm] at hitems
        cases hitems.1
      | cons item items => rfl
    have haccepted : cartMandateSchema ⟨cartId, merchantId, items, total, hash, signatureHex⟩
        = true := by
      simp only [cartMandateSchema, hcartId, hmerchantId, hne, List.all_eq_true.mpr hschema,
        htotal.1, decide_eq_true htotal.2, hhash, hs, Bool.not_false, Bool.and_self]
    refine ⟨⟨_, haccepted⟩, rfl, ?_⟩
    -- the payload is these five members, with the elements of `items` in another order inside
    have hperm : payload.Perm [(js "cartId", .str cartId), (js "merchant_id", .str merchantId),
        (js "items", .arr xs), (js "total_paise", .num total), (js "intent_hash_hex", .str hash)] := by
      refine perm_of_get? (cartMembers_nodup ⟨cartId, merchantId, items, total, hash, signatureHex⟩)
        hlen fun m hm => ?_
      simp only [List.mem_cons, List.not_mem_nil, or_false] at hm
      rcases hm with rfl | rfl | rfl | rfl | rfl
      · exact hgetCartId
      · exact hgetMerchantId
      · exact hgetItems
      · exact hgetTotal
      · exact hgetHash
    refine norm_obj_perm ((hperm.map Prod.fst).nodup_iff.mpr
      (cartMembers_nodup ⟨cartId, merchantId, items, total, hash, signatureHex⟩)) ?_
    rw [normMembers_eq_map, normMembers_eq_map]
    refine (hperm.map _).trans (List.Perm.of_eq ?_)
    have harr : norm (.arr xs) = norm (.arr (items.map cartItemSigningValue)) := by
      rw [norm, norm, normElems_eq_map, normElems_eq_map, hnorm]
    simp only [List.map_cons, List.map_nil, harr]
  · cases hitems

/-- What has the text an accepted cart signs has its shape. -/
theorem shape_of_cart {payload : List (JsString × JsonValue)} (c : AcceptedCart)
    (h : norm (.obj payload) = norm (cartSigningValue c.cart)) : cartShape payload = true := by
  have hsame := sameText_of_norm (cartMembers_nodup c.cart) h
  have hcartId := eq_str_of_norm (s := c.cart.cartId) (hsame.get? (js "cartId"))
  have hmerchantId := eq_str_of_norm (s := c.cart.merchantId) (hsame.get? (js "merchant_id"))
  have htotal := eq_num_of_norm (n := c.cart.totalPaise) (hsame.get? (js "total_paise"))
  have hhash := eq_str_of_norm (s := c.cart.intentHashHex) (hsame.get? (js "intent_hash_hex"))
  obtain ⟨xs, hitems, hnorm⟩ := eq_arr_of_norm (c.cart.items.map cartItemSigningValue)
    (hsame.get? (js "items"))
  have hschema := c.schema
  simp only [cartMandateSchema, Bool.and_eq_true, decide_eq_true_eq] at hschema
  obtain ⟨⟨⟨⟨⟨hcartIdText, hmerchantIdText⟩, hne, -⟩, htotalInt, htotalMin⟩, hhashText⟩, -⟩ := hschema
  have hxs : xs.isEmpty = false := by
    cases xs with
    | nil =>
      have hempty : c.cart.items = [] := by simpa using hnorm.symm
      rw [hempty] at hne
      cases hne
    | cons x xs => rfl
  simp only [cartShape, hitems, hxs, shapes_of_items c.items hnorm, Bool.and_eq_true, beq_iff_eq,
    Bool.not_false, and_true]
  exact ⟨⟨⟨⟨textAt_iff.mpr ⟨_, hcartId, hcartIdText⟩, textAt_iff.mpr ⟨_, hmerchantId, hmerchantIdText⟩⟩,
    amountAt_iff.mpr ⟨_, htotal, htotalInt, htotalMin⟩⟩, textAt_iff.mpr ⟨_, hhash, hhashText⟩⟩,
    hsame.length⟩

/-- **A payload has the bytes of a cart exactly when it has the shape of one.** -/
theorem cartShape_iff {payload : List (JsString × JsonValue)} {bytes : Bytes}
    (hbytes : canonicalJson (.obj payload) = .ok bytes) {signatureHex : JsString}
    (hs : isNonEmptyString signatureHex = true) :
    cartShape payload = true ↔ ∃ c : AcceptedCart, c.cart.agentSigHex = signatureHex ∧
      cartSigningBytes c.cart = .ok bytes := by
  constructor
  · intro h
    obtain ⟨c, hsig, hnorm⟩ := cart_of_shape h hs
    obtain ⟨bytes', hbytes'⟩ := c.signingBytes
    have hsame : bytes' = bytes := by
      have hp := canonicalJson_safe (safe_of_canonicalJson hbytes)
      have hc := canonicalJson_safe (safe_of_canonicalJson hbytes')
      rw [hnorm] at hp
      exact Except.ok.inj ((hbytes'.symm.trans hc).trans (hp.symm.trans hbytes))
    exact ⟨c, hsig, hsame ▸ hbytes'⟩
  · rintro ⟨c, -, hc⟩
    exact shape_of_cart c (canonicalJson_inj hbytes hc)

/-! ## The reach of a decision's signature -/

/-- The cart's signature verifies under the agent key: what `verifyChain` checks of it. -/
def CartSigned (crypto : Crypto) (agentPubkeyHex : JsString) (cart : CartMandate) : Prop :=
  ∃ bytes, cartSigningBytes cart = .ok bytes ∧
    verifyMandateSignature crypto bytes (.ed25519 cart.agentSigHex) (.ed25519 agentPubkeyHex)
      = .ok true

/-- **A decision's signature vouches for the payload and for nothing else.**  Accepted for one
    settlement, the pair is accepted for exactly those whose mandate has an agent key that verifies
    it, so for every settlement under the same key.  The signature is a cart's under that key exactly
    when the payload has the shape of an unsigned cart; and whatever cart is signed under the key can
    be recorded as a decision. -/
theorem decision_signature_reach {env : Env} {now : Int} {seed : JsString} {w : World}
    {settlementId : JsString} {settlement : SettlementRow} {mandateRow : MandateRow}
    (hsettlement : getSettlement w.db settlementId = some settlement)
    (hmandate : getMandateRow w.db settlement.mandateId = some mandateRow)
    {payload : List (JsString × JsonValue)} {signatureHex : JsString}
    (h : DecisionAccepted env now seed w settlementId payload signatureHex) :
    (∃ bytes, canonicalJson (.obj payload) = .ok bytes ∧
      (∀ other, DecisionAccepted env now seed w other payload signatureHex ↔
        AgentVerifies env w other signatureHex bytes) ∧
      (∀ (c : AcceptedCart) (cartBytes : Bytes), c.cart.agentSigHex = signatureHex →
        cartSigningBytes c.cart = .ok cartBytes →
        (Credential.ed25519 mandateRow.intent.agentPubkeyHex).BindsMessages env.crypto →
        env.crypto.CollisionFree [bytes, cartBytes] →
        CartSigned env.crypto mandateRow.intent.agentPubkeyHex c.cart → cartShape payload = true)) ∧
    (∀ other row otherMandate, getSettlement w.db other = some row →
      getMandateRow w.db row.mandateId = some otherMandate →
      otherMandate.intent.agentPubkeyHex = mandateRow.intent.agentPubkeyHex →
      DecisionAccepted env now seed w other payload signatureHex) ∧
    (cartShape payload = true → ∃ c : AcceptedCart, c.cart.agentSigHex = signatureHex ∧
      cartSigningBytes c.cart = canonicalJson (.obj payload) ∧
      CartSigned env.crypto mandateRow.intent.agentPubkeyHex c.cart) ∧
    (∀ c : AcceptedCart, CartSigned env.crypto mandateRow.intent.agentPubkeyHex c.cart →
      DecisionAccepted env now seed w settlementId (cartMembers c.cart) c.cart.agentSigHex) := by
  obtain ⟨hsig, bytes, hbytes, settlement', mandateRow', hsettlement', hmandate', hverify⟩ :=
    decisionAccepted_iff.mp h
  obtain rfl := Option.some.inj (hsettlement.symm.trans hsettlement')
  obtain rfl := Option.some.inj (hmandate.symm.trans hmandate')
  refine ⟨⟨bytes, hbytes, fun other => ?_, ?_⟩, ?_, ?_, ?_⟩
  · rw [decisionAccepted_iff]
    refine ⟨fun ⟨_, bytes', hbytes', hv⟩ => ?_, fun hv => ⟨hsig, bytes, hbytes, hv⟩⟩
    rwa [Except.ok.inj (hbytes.symm.trans hbytes')]
  · rintro c cartBytes rfl hcart hbinds hcf ⟨cartBytes', hcart', hsigned⟩
    rw [← Except.ok.inj (hcart.symm.trans hcart')] at hsigned
    have hsame := verifyMandateSignature_binds hbinds hcf hverify hsigned
    exact (cartShape_iff hbytes hsig).mpr ⟨c, rfl, hsame ▸ hcart⟩
  · intro other row otherMandate hrow hother hkey
    exact decisionAccepted_iff.mpr ⟨hsig, bytes, hbytes, row, otherMandate, hrow, hother,
      hkey ▸ hverify⟩
  · intro hshape
    obtain ⟨c, rfl, hc⟩ := (cartShape_iff hbytes hsig).mp hshape
    exact ⟨c, rfl, hc.trans hbytes.symm, bytes, hc, hverify⟩
  · rintro c ⟨cartBytes, hcart, hsigned⟩
    have hsigText : isNonEmptyString c.cart.agentSigHex = true := by
      have hschema := c.schema
      simp only [cartMandateSchema, Bool.and_eq_true] at hschema
      exact hschema.2
    exact decisionAccepted_iff.mpr ⟨hsigText, cartBytes, hcart, settlement, mandateRow, hsettlement,
      hmandate, hsigned⟩

/-! ## An installation whose signatures bind

A signature is the digest it is for, followed by the key. -/

def signingCrypto : Crypto :=
  { demoCrypto with
    ed25519Verify := fun signature message publicKey => .ok (signature == message ++ publicKey) }

def signingEnv : Env := { demoEnv with crypto := signingCrypto }

/-- The signature of the bytes under a key. -/
def signHex (key : Bytes) (bytes : Except Exn Bytes) : JsString :=
  match bytes with
  | .ok bytes => bytesToHex (signingCrypto.sha256 bytes ++ key)
  | .error _ => []

def signedIntent : IntentMandate :=
  { demoIntent with sig := .ed25519 (signHex [0xBB] (intentSigningBytes demoIntent)) }

def signedCart : CartMandate :=
  { demoCart with agentSigHex := signHex [0xAA] (cartSigningBytes demoCart) }

/-- A rationale, as the agent posts one. -/
def demoRationale : List (JsString × JsonValue) := [(js "note", .str (js "cheapest"))]

/-- Two settlements of one mandate: one rejected for its cart's signature, and the cart. -/
def demoTwoSettlements : List Act :=
  [.clock 1000,
    .request (.postCeremonyTokens (some (js "dashboard"))) (js "token"),
    .request (.postMandates signedIntent (.ed25519 (js "bb")) (js "token")) [],
    .request (.postSettlements (some (js "key")) signedIntent
      { signedCart with cartId := js "c0" }) [],
    .runTask (js "s1"),
    .request (.postSettlements (some (js "key2")) signedIntent signedCart) [],
    .runTask (js "s2")]

/-- The settlement is stored and its mandate's agent key verifies the signature. -/
def agentVerifies (env : Env) (s : Sys) (id signatureHex : JsString)
    (payload : List (JsString × JsonValue)) : Bool :=
  match canonicalJson (.obj payload), getSettlement s.world.db id with
  | .ok bytes, some settlement =>
    match getMandateRow s.world.db settlement.mandateId with
    | some mandateRow => decide (verifyMandateSignature env.crypto bytes (.ed25519 signatureHex)
        (.ed25519 mandateRow.intent.agentPubkeyHex) = .ok true)
    | none => false
  | _, _ => false

theorem accepted_of_agentVerifies {env : Env} {s : Sys} {id signatureHex : JsString}
    {payload : List (JsString × JsonValue)} (hs : isNonEmptyString signatureHex = true)
    (h : agentVerifies env s id signatureHex payload = true) (now : Int) (seed : JsString) :
    DecisionAccepted env now seed s.world id payload signatureHex := by
  unfold agentVerifies at h
  split at h
  · rename_i bytes settlement hbytes hsettlement
    split at h
    · rename_i mandateRow hmandate
      exact decisionAccepted_iff.mpr ⟨hs, bytes, hbytes, settlement, mandateRow, hsettlement, hmandate,
        of_decide_eq_true h⟩
    · exact nomatch h
  · exact nomatch h

/-- Both settlements of `demoTwoSettlements` are there under the agent key, and the note and the cart
    verify for the first. -/
def twoSettlements (s : Sys) : Bool :=
  agentVerifies signingEnv s (js "s1") (signHex [0xAA] (canonicalJson (.obj demoRationale)))
    demoRationale &&
  agentVerifies signingEnv s (js "s2") (signHex [0xAA] (canonicalJson (.obj demoRationale)))
    demoRationale &&
  agentVerifies signingEnv s (js "s1") signedCart.agentSigHex (cartMembers signedCart) &&
  (getSettlement s.world.db (js "s1")).any fun r => (getMandateRow s.world.db r.mandateId).any fun m =>
    m.intent.agentPubkeyHex == js "aa"

theorem twoSettlements_reachable : ∃ s, Reachable signingEnv s ∧ twoSettlements s = true :=
  reachable_of_run signingEnv demoTwoSettlements twoSettlements (by decide +kernel)

/-- The agent key binds its messages. -/
theorem signingCrypto_binds : (Credential.ed25519 (js "aa")).BindsMessages signingCrypto := by
  intro publicKey _ signature m n hm hn
  have hm : signature = m ++ publicKey := by simpa [signingCrypto] using hm
  have hn : signature = n ++ publicKey := by simpa [signingCrypto] using hn
  exact List.append_cancel_right (hm.symm.trans hn)

/-- **One signature, two settlements, two kinds of message.**  The note is accepted for both
    settlements, and the signature of a cart records it as a decision. -/
theorem decision_signature_not_bound : ∃ s : Sys, Reachable signingEnv s ∧
    (Credential.ed25519 (js "aa")).BindsMessages signingCrypto ∧
    (∃ payload signatureHex,
      DecisionAccepted signingEnv 1000 [] s.world (js "s1") payload signatureHex ∧
      DecisionAccepted signingEnv 1000 [] s.world (js "s2") payload signatureHex) ∧
    ∃ payload, DecisionAccepted signingEnv 1000 [] s.world (js "s1") payload signedCart.agentSigHex ∧
      canonicalJson (.obj payload) = cartSigningBytes signedCart ∧
      CartSigned signingCrypto (js "aa") signedCart := by
  obtain ⟨s, hreach, h⟩ := twoSettlements_reachable
  simp only [twoSettlements, Bool.and_eq_true] at h
  obtain ⟨⟨⟨hfirst, hsecond⟩, hcart⟩, -⟩ := h
  have hsigned : CartSigned signingCrypto (js "aa") signedCart := by
    have hverify : (cartSigningBytes signedCart >>= fun bytes => verifyMandateSignature signingCrypto
        bytes (.ed25519 signedCart.agentSigHex) (.ed25519 (js "aa"))) = .ok true := by decide +kernel
    exact bind_eq_ok.mp hverify
  exact ⟨s, hreach, signingCrypto_binds,
    ⟨_, _, accepted_of_agentVerifies (by decide +kernel) hfirst 1000 [],
      accepted_of_agentVerifies (by decide +kernel) hsecond 1000 []⟩,
    _, accepted_of_agentVerifies (by decide +kernel) hcart 1000 [], rfl, hsigned⟩

/-- The reach of the note's signature in the same state. -/
theorem decision_signature_reach_demo : ∃ s : Sys, Reachable signingEnv s ∧
    (cartShape demoRationale = true → ∃ c : AcceptedCart,
      cartSigningBytes c.cart = canonicalJson (.obj demoRationale)) ∧
    ∀ c : AcceptedCart, CartSigned signingCrypto (js "aa") c.cart →
      DecisionAccepted signingEnv 1000 [] s.world (js "s1") (cartMembers c.cart)
        c.cart.agentSigHex := by
  obtain ⟨s, hreach, h⟩ := twoSettlements_reachable
  simp only [twoSettlements, Bool.and_eq_true] at h
  obtain ⟨⟨⟨hfirst, -⟩, -⟩, hkey⟩ := h
  obtain ⟨settlement, hsettlement, hany⟩ := Option.any_eq_true _ _ |>.mp hkey
  obtain ⟨mandateRow, hmandate, hagent⟩ := Option.any_eq_true _ _ |>.mp hany
  have hreaches := decision_signature_reach hsettlement hmandate
    (accepted_of_agentVerifies (by decide +kernel) hfirst 1000 [])
  rw [eq_of_beq hagent] at hreaches
  exact ⟨s, hreach, fun hshape => by
    obtain ⟨c, -, hbytes, -⟩ := hreaches.2.2.1 hshape
    exact ⟨c, hbytes⟩, hreaches.2.2.2⟩

end Hundi
