/-
  agents/scripted-brain/src/agent-tools.ts `buildCartDraft` and apps/dashboard/src/lib/buyer.ts
  `pickFromSelection`, `buildUnsignedCart` — a cart line from a served listing.

  Both take a chosen variant's own price, under the product's id.  The registry has one price for
  an id, and `verifyChain` compares the line with it: `buyers_priced_as_registered_iff` says for
  which choices the two agree.
-/
import Hundi.Facilitator.Catalog

namespace Hundi

open Js

/-! ## Cart lines -/

/-- An optional string argument that is truthy. -/
def givenId (variantId : Option JsString) : Option JsString := variantId.filter fun id => !id.isEmpty

theorem givenId_eq_some {s : Option JsString} {id : JsString} :
    givenId s = some id ↔ s = some id ∧ id ≠ [] := by
  rw [givenId, Option.filter_eq_some_iff]
  refine and_congr_right fun _ => ?_
  simp

/-- `product.variants?.find((v) => v.variant_id === variantId)`. -/
def findVariant (product : FeedProduct) (variantId : JsString) : Option ScannedVariant :=
  product.variants.bind fun variants => variants.find? fun v => v.variantId == variantId

structure CartLineInput where
  product : FeedProduct
  qty : Int
  variantId : Option JsString

structure CartDraft where
  merchantId : JsString
  items : List CartItem
  totalPaise : Int
  cartId : Option JsString

/-- The body of the `map` in `buildCartDraft`; `error` is the text of what it throws. -/
def cartLine (merchantId : JsString) (line : CartLineInput) : Except JsString CartItem :=
  if line.product.merchantId ≠ merchantId then
    .error (js "buildCartDraft: all items must share one merchant_id")
  else
    match givenId line.variantId with
    | none => .ok ⟨line.product.id, line.qty, line.product.pricePaise, none, none⟩
    | some variantId =>
      match findVariant line.product variantId with
      | none => .error (js "buildCartDraft: variant \"" ++ variantId ++
          js "\" not found on product \"" ++ line.product.id ++ js "\"")
      | some variant =>
        .ok ⟨line.product.id, line.qty, variant.pricePaise, some variant.variantId,
          some variant.label⟩

def cartLines (merchantId : JsString) : List CartLineInput → Except JsString (List CartItem)
  | [] => .ok []
  | line :: lines => do
    let item ← cartLine merchantId line
    let items ← cartLines merchantId lines
    return item :: items

/-- `buildCartDraft(items, cartId)`. -/
def buildCartDraft (lines : List CartLineInput) (cartId : Option JsString) :
    Except JsString CartDraft :=
  match lines with
  | [] => .error (js "buildCartDraft: at least one item is required")
  | first :: _ => do
    let items ← cartLines first.product.merchantId lines
    return ⟨first.product.merchantId, items, recomputedTotal items, givenId cartId⟩

/-! ## The dashboard's buyer -/

inductive PickFailure where
  | NO_CANDIDATE | NO_POISONED_PRODUCT | VARIANT_NOT_FOUND
  deriving DecidableEq

/-- `PickResult` with `ok: true`. -/
structure Pick where
  product : FeedProduct
  merchantId : JsString
  unitPricePaise : Int
  variantId : Option JsString
  variantLabel : Option JsString

/-- `pickFromSelection(products, chosenSku, chosenVariantId)`. -/
def pickFromSelection (products : List FeedProduct) (chosenSku : JsString)
    (chosenVariantId : Option JsString) : Except PickFailure Pick :=
  match products.find? fun p => p.id == chosenSku with
  | none => .error .NO_CANDIDATE
  | some product =>
    match givenId chosenVariantId with
    | none => .ok ⟨product, product.merchantId, product.pricePaise, none, none⟩
    | some variantId =>
      match findVariant product variantId with
      | none => .error .VARIANT_NOT_FOUND
      | some variant =>
        .ok ⟨product, product.merchantId, variant.pricePaise, some variant.variantId,
          some variant.label⟩

/-- `Omit<CartMandate, 'agent_sig_hex'>`. -/
structure UnsignedCart where
  cartId : JsString
  merchantId : JsString
  items : List CartItem
  totalPaise : Int
  intentHashHex : JsString

/-- `buildUnsignedCart(pick, intent)`, with the cart id that `randomUUID` gives. -/
def buildUnsignedCart (crypto : Crypto) (cartId : JsString) (pick : Pick) (intent : IntentMandate) :
    Except Exn UnsignedCart := do
  let intentBytes ← intentSigningBytes intent
  return { cartId := cartId
           merchantId := pick.merchantId
           items := [⟨pick.product.id, 1, pick.unitPricePaise, givenId pick.variantId,
             givenId pick.variantLabel⟩]
           totalPaise := pick.unitPricePaise
           intentHashHex := crypto.sha256Hex intentBytes }

/-! ## The price check -/

/-- The items pass the price check of `verifyChain` against what is registered for the merchant. -/
def PassesPriceCheck (db : Db) (merchantId : JsString) (items : List CartItem) : Prop :=
  ((registeredPrices db merchantId).bind fun prices => priceMismatch prices items) = none

instance (db : Db) (merchantId : JsString) (items : List CartItem) :
    Decidable (PassesPriceCheck db merchantId items) :=
  inferInstanceAs (Decidable (_ = none))

theorem priceMismatch_eq_none {prices : Record} {items : List CartItem} :
    priceMismatch prices items = none ↔
      ∀ line ∈ items.map fun item => (item.sku, item.unitPricePaise), prices.get? line.1 = some line.2 := by
  rw [priceMismatch, List.find?_eq_none, List.forall_mem_map]
  refine forall_congr' fun item => imp_congr_right fun _ => ?_
  rw [bne_iff_ne, not_not]

/-- Of the checks after the line sum the price check is the first, so a failing one is reported. -/
theorem passesPriceCheck_iff {db : Db} {intent : IntentMandate} {cart : CartMandate} {now : Int}
    {ctx : VerifyCtx} (h : ctx.ReadFrom db intent cart now) :
    PassesPriceCheck db cart.merchantId cart.items ↔
      ∀ detail, verifyPolicy intent cart ctx ≠ some (.PRICE_MISMATCH, detail) := by
  have hprices : ctx.catalogPrices = registeredPrices db cart.merchantId := h.prices
  rw [PassesPriceCheck, ← hprices]
  constructor
  · intro hnone detail hfail
    rcases verifyPolicy_reason hfail with ⟨-, item, hitem⟩ | hpolicy
    · rw [hnone] at hitem
      exact nomatch hitem
    · exact nomatch hpolicy
  · intro hno
    cases hitem : ctx.catalogPrices.bind fun prices => priceMismatch prices cart.items with
    | none => rfl
    | some item =>
      refine absurd ?_ (hno (some (js "sku " ++ item.sku ++ js " price does not match catalog")))
      rw [verifyPolicy, hitem]
      rfl

/-! ## Which choices pass it -/

/-- A listing of the catalog, and one of its variants if one is named. -/
structure Offered (products : List FeedProduct) (product : FeedProduct)
    (variantId : Option JsString) : Prop where
  listed : product ∈ products
  variant : ∀ id, variantId = some id → ∃ variants, product.variants = some variants ∧
    ∃ v ∈ variants, v.variantId = id

/-- The price the buyers sign for a listing: the chosen variant's own, or the product's. -/
def listingPrice (product : FeedProduct) (variantId : Option JsString) : Int :=
  match (givenId variantId).bind (findVariant product) with
  | some variant => variant.pricePaise
  | none => product.pricePaise

/-- The listing costs what the last listing of the catalog with its id costs. -/
def PricedAsRegistered (products : List FeedProduct) (product : FeedProduct)
    (variantId : Option JsString) : Prop :=
  product.id ≠ js "__proto__" ∧
    (products.reverse.find? fun p => p.id == product.id).map (·.pricePaise) =
      some (listingPrice product variantId)

theorem Offered.findVariant {products : List FeedProduct} {product : FeedProduct}
    {variantId : Option JsString} {id : JsString} (h : Offered products product variantId)
    (hid : givenId variantId = some id) : ∃ v, findVariant product id = some v := by
  obtain ⟨hsome, -⟩ := Option.filter_eq_some_iff.mp hid
  obtain ⟨variants, hvariants, v, hv, hvid⟩ := h.variant id hsome
  rw [Hundi.findVariant, hvariants, Option.bind_some]
  exact Option.isSome_iff_exists.mp (List.find?_isSome.mpr ⟨v, hv, beq_iff_eq.mpr hvid⟩)

/-- An offered line is built, at the price of the listing. -/
theorem cartLine_ok {products : List FeedProduct} {merchantId : JsString} {line : CartLineInput}
    (h : Offered products line.product line.variantId)
    (hmerchant : line.product.merchantId = merchantId) :
    ∃ item, cartLine merchantId line = .ok item ∧ item.sku = line.product.id ∧
      item.unitPricePaise = listingPrice line.product line.variantId := by
  rw [cartLine, if_neg (not_not.mpr hmerchant), listingPrice]
  cases hid : givenId line.variantId with
  | none => exact ⟨_, rfl, rfl, rfl⟩
  | some id =>
    obtain ⟨v, hv⟩ := h.findVariant hid
    simp only [hv, Option.bind_some]
    exact ⟨_, rfl, rfl, rfl⟩

theorem cartLines_ok {products : List FeedProduct} (merchantId : JsString) :
    ∀ {lines : List CartLineInput},
      (∀ line ∈ lines, Offered products line.product line.variantId ∧
        line.product.merchantId = merchantId) →
      ∃ items, cartLines merchantId lines = .ok items ∧
        items.map (fun item => (item.sku, item.unitPricePaise)) =
          lines.map fun line => (line.product.id, listingPrice line.product line.variantId)
  | [], _ => ⟨[], rfl, rfl⟩
  | line :: lines, h => by
    obtain ⟨hline, hmerchant⟩ := h line (List.mem_cons_self ..)
    obtain ⟨item, hitem, hsku, hprice⟩ := cartLine_ok hline hmerchant
    obtain ⟨items, hitems, hmap⟩ := cartLines_ok merchantId fun l hl => h l (List.mem_cons_of_mem _ hl)
    refine ⟨item :: items, ?_, ?_⟩
    · simp only [cartLines, hitem, hitems, bind, Except.bind, pure, Except.pure]
    · rw [List.map_cons, List.map_cons, hmap, hsku, hprice]

/-- An offered selection is picked, at the price of the listing. -/
theorem pickFromSelection_ok {products served : List FeedProduct} {product : FeedProduct}
    {variantId : Option JsString} (h : Offered products product variantId)
    (hfirst : (served.find? fun p => p.id == product.id) = some product) :
    ∃ pick, pickFromSelection served product.id variantId = .ok pick ∧ pick.product = product ∧
      pick.merchantId = product.merchantId ∧
      pick.unitPricePaise = listingPrice product variantId := by
  rw [pickFromSelection, hfirst, listingPrice]
  cases hid : givenId variantId with
  | none => exact ⟨_, rfl, rfl, rfl, rfl⟩
  | some id =>
    obtain ⟨v, hv⟩ := h.findVariant hid
    simp only [hv, Option.bind_some]
    exact ⟨_, rfl, rfl, rfl, rfl⟩

/-- Items that carry the ids and prices of some choices pass the check when the choices are priced
    as registered. -/
theorem Onboarded.passes_iff {shops : Shops} {merchantId : JsString} {products : List FeedProduct}
    (h : Onboarded shops merchantId products) {items : List CartItem}
    (choices : List (FeedProduct × Option JsString))
    (hitems : items.map (fun item => (item.sku, item.unitPricePaise)) =
      choices.map fun c => (c.1.id, listingPrice c.1 c.2)) :
    PassesPriceCheck shops.db merchantId items ↔
      ∀ c ∈ choices, PricedAsRegistered products c.1 c.2 := by
  rw [PassesPriceCheck, h.prices, Option.bind_some, priceMismatch_eq_none, hitems,
    List.forall_mem_map]
  refine forall_congr' fun c => imp_congr_right fun _ => ?_
  rw [catalogPrices_get?, PricedAsRegistered]
  by_cases hproto : c.1.id = js "__proto__"
  · rw [if_pos hproto]
    exact ⟨fun hnone => (nomatch hnone), fun hp => absurd hproto hp.1⟩
  · rw [if_neg hproto]
    exact ⟨fun hprice => ⟨hproto, hprice⟩, And.right⟩

/-- **What the two buyers sign is what the registry holds exactly for the choices priced as
    registered.**  After an accepted onboarding both build their carts from the served catalog, with
    any quantity. -/
theorem buyers_priced_as_registered_iff {now : Int} {shops shops' : Shops}
    {url derived merchantId name : JsString} {deriveStoreName : JsString → JsString → JsString}
    {scan : Except JsString ScanResult}
    {browserScan : JsString → List ScannedProduct × List JsString} {productCount : Nat}
    {sample warnings : List JsString}
    (h : postStoresOnboard now shops url derived deriveStoreName scan browserScan =
      (shops', .ok merchantId name productCount sample warnings)) :
    ∃ products, getCatalog shops' merchantId false = some products ∧
      (∀ lines cartId, lines ≠ [] →
        (∀ line ∈ lines, Offered products line.product line.variantId) →
        ∃ draft, buildCartDraft lines cartId = .ok draft ∧
          (PassesPriceCheck shops'.db draft.merchantId draft.items ↔
            ∀ line ∈ lines, PricedAsRegistered products line.product line.variantId)) ∧
      (∀ poisoned served product variantId, getCatalog shops' merchantId poisoned = some served →
        (products.find? fun p => p.id == product.id) = some product →
        Offered products product variantId →
        ∃ pick, pickFromSelection served product.id variantId = .ok pick ∧
          ∀ crypto cartId intent cart, buildUnsignedCart crypto cartId pick intent = .ok cart →
            (PassesPriceCheck shops'.db cart.merchantId cart.items ↔
              PricedAsRegistered products product variantId)) := by
  obtain ⟨products, hon, -⟩ := onboarded h
  have hserved : getCatalog shops' merchantId false = some products := hon.getCatalog false
  refine ⟨products, hserved, ?_, ?_⟩
  · intro lines cartId hlines hoffered
    obtain ⟨first, rest, rfl⟩ := List.exists_cons_of_ne_nil hlines
    have hmerchant : ∀ line ∈ first :: rest, line.product.merchantId = merchantId :=
      fun line hline => (hon.listings _ (hoffered line hline).listed).1
    have hfirst := hmerchant first (List.mem_cons_self ..)
    obtain ⟨items, hitems, hmap⟩ := cartLines_ok merchantId
      fun line hline => ⟨hoffered line hline, hmerchant line hline⟩
    refine ⟨⟨merchantId, items, recomputedTotal items, givenId cartId⟩, ?_, ?_⟩
    · simp only [buildCartDraft, hfirst, hitems, bind, Except.bind, pure, Except.pure]
    · rw [hon.passes_iff ((first :: rest).map fun line => (line.product, line.variantId))
        (by rw [hmap, List.map_map]; rfl), List.forall_mem_map]
  · intro poisoned served product variantId hpoisoned hfirst hoffered
    obtain ⟨pick, hpick, hproduct, hmerchant, hprice⟩ := pickFromSelection_ok hoffered
      (hon.find?_served hpoisoned hfirst)
    refine ⟨pick, hpick, ?_⟩
    intro crypto cartId intent cart hcart
    obtain ⟨bytes, -, hcart⟩ := bind_eq_ok.mp hcart
    obtain rfl := Except.ok.inj hcart
    show PassesPriceCheck shops'.db pick.merchantId _ ↔ _
    rw [hmerchant, (hon.listings _ hoffered.listed).1,
      hon.passes_iff [(product, variantId)] (by simp [hproduct, hprice])]
    simp only [List.forall_mem_singleton]

/-- A shoe whose larger size costs more than the listing shows. -/
def demoShoe : ScannedProduct where
  sku := js "shoe"
  name := js "Shoe"
  description := []
  pricePaise := 320000
  currency := js "INR"
  availability := .in_stock
  image := []
  brand := js "shop"
  url := js "https://shop.example/products/shoe"
  variants := some [⟨js "v9", js "9", [js "9"], 320000, true, none⟩,
    ⟨js "v11", js "11", [js "11"], 350000, true, none⟩]
  options := some [⟨js "Size", [js "9", js "11"]⟩]

/-- The shoe as its store serves it: the larger size costs more than the listing shows. -/
def demoShoeListing : FeedProduct := toFeedProduct demoShoe (js "shop-example")

/-- The shoe's store is onboarded. -/
def demoOnboard : Shops × OnboardBody :=
  postStoresOnboard 0 ⟨Db.empty, .empty⟩ (js "https://shop.example") (js "shop-example")
    (fun _ merchantId => merchantId) (.ok ⟨js "shop-example", [demoShoe], []⟩) fun _ => ([], [])

theorem buyers_priced_as_registered_demo :
    ∃ products, getCatalog demoOnboard.1 (js "shop-example") false = some products ∧
      ∃ draft, buildCartDraft [⟨toFeedProduct demoShoe (js "shop-example"), 2, some (js "v9")⟩] none =
          .ok draft ∧
        (PassesPriceCheck demoOnboard.1.db draft.merchantId draft.items ↔
          PricedAsRegistered products (toFeedProduct demoShoe (js "shop-example")) (some (js "v9"))) := by
  have honboard : demoOnboard =
      (demoOnboard.1, .ok (js "shop-example") (js "shop-example") 1 [js "Shoe"] []) := rfl
  obtain ⟨products, hserved, hdraft, -⟩ := buyers_priced_as_registered_iff honboard
  obtain rfl : [toFeedProduct demoShoe (js "shop-example")] = products := Option.some.inj hserved
  obtain ⟨draft, hbuilt, hiff⟩ := hdraft
    [⟨toFeedProduct demoShoe (js "shop-example"), 2, some (js "v9")⟩] none (List.cons_ne_nil _ _) (by
      intro line hline
      obtain rfl := List.mem_singleton.mp hline
      refine ⟨List.mem_singleton.mpr rfl, fun id hid => ?_⟩
      obtain rfl := Option.some.inj hid
      exact ⟨_, rfl, _, List.mem_cons_self .., rfl⟩)
  exact ⟨_, hserved, draft, hbuilt, by rw [hiff, List.forall_mem_singleton]⟩

/-- The larger size is served and available, and neither buyer's cart for it passes. -/
theorem dearer_variant_refused :
    ∃ products product, getCatalog demoOnboard.1 (js "shop-example") false = some products ∧
      product ∈ products ∧
      (∃ v, findVariant product (js "v11") = some v ∧ v.available = true) ∧
      (∃ draft, buildCartDraft [⟨product, 1, some (js "v11")⟩] none = .ok draft ∧
        ¬ PassesPriceCheck demoOnboard.1.db draft.merchantId draft.items) ∧
      ∃ pick cart, pickFromSelection products (js "shoe") (some (js "v11")) = .ok pick ∧
        buildUnsignedCart demoCrypto (js "c1") pick demoIntent = .ok cart ∧
        ¬ PassesPriceCheck demoOnboard.1.db cart.merchantId cart.items := by
  refine ⟨[toFeedProduct demoShoe (js "shop-example")], toFeedProduct demoShoe (js "shop-example"),
    rfl, List.mem_singleton.mpr rfl, ⟨_, rfl, rfl⟩, ⟨_, rfl, ?_⟩, ?_⟩
  · show ¬ PassesPriceCheck demoOnboard.1.db (js "shop-example")
      [⟨js "shoe", 1, 350000, some (js "v11"), some (js "11")⟩]
    decide
  obtain ⟨bytes, hbytes⟩ : ∃ bytes, intentSigningBytes demoIntent = .ok bytes := ⟨_, rfl⟩
  refine ⟨_, _, rfl, by rw [buildUnsignedCart, hbytes]; rfl, ?_⟩
  show ¬ PassesPriceCheck demoOnboard.1.db (js "shop-example")
    [⟨js "shoe", 1, 350000, some (js "v11"), some (js "11")⟩]
  decide

end Hundi
