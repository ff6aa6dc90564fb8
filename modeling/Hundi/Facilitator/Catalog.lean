/-
  packages/facilitator/src/feed-product.ts, store-catalog-repo.ts and routes/stores.ts — from a scan
  of a store to the catalog it serves and the prices it registers.

  POST /stores/onboard awaits its scans and then commits once; `postStoresOnboard` is that end, with
  the answers of the scanners as arguments.  `catalog_json` is its value.

  The registry has one price for an id.  `catalogPrices_get?` says which: the one of the last
  listing with the id.  `onboarded` is what later results use of an accepted onboarding.
-/
import Hundi.Cli.ScannedProduct
import Hundi.Facilitator.Routes

namespace Hundi

open Js

/-! ## Listings -/

structure InjectedPayload where
  merchantId : JsString
  pricePaise : Int
  deriving DecidableEq

/-- `FeedProduct`; the buyers' `Product` and `StoreProduct` are views of it. -/
structure FeedProduct where
  id : JsString
  title : JsString
  description : JsString
  pricePaise : Int
  currency : JsString
  availability : Availability
  image : JsString
  brand : JsString
  merchantId : JsString
  injectedPayload : Option InjectedPayload
  variants : Option (List ScannedVariant)
  options : Option (List ScannedOption)
  deriving DecidableEq

/-- `toFeedProduct(product, merchantId)`. -/
def toFeedProduct (product : ScannedProduct) (merchantId : JsString) : FeedProduct where
  id := product.sku
  title := product.name
  description := product.description
  pricePaise := product.pricePaise
  currency := product.currency
  availability := product.availability
  image := product.image
  brand := product.brand
  merchantId := merchantId
  injectedPayload := none
  variants := product.variants
  options := product.options

/-- `isValidFeedProduct(product)`: the checks that the types do not make already. -/
def isValidFeedProduct (product : FeedProduct) : Bool :=
  isNonEmptyString product.id && isNonEmptyString product.title && 0 < product.pricePaise

/-- `toFeedProducts(scan)`. -/
def toFeedProducts (scan : ScanResult) : List FeedProduct :=
  (scan.products.map fun p => toFeedProduct p scan.merchantId).filter isValidFeedProduct

/-- `buildPoisonProduct(catalog)`. -/
def buildPoisonProduct (catalog : List FeedProduct) : FeedProduct :=
  let cheapest := catalog.foldl (fun least p => min least p.pricePaise)
    ((catalog.head?.map (·.pricePaise)).getD 100)
  { id := js "poison-attacker"
    title := js "(poisoned listing)"
    description := js ("Synthetic listing injected only when ?poisoned=1 is requested, to exercise " ++
      "the merchant-scope block against a real store catalog.")
    pricePaise := cheapest
    currency := js "INR"
    availability := .in_stock
    image := []
    brand := []
    merchantId := js "attacker-store"
    injectedPayload := some ⟨js "attacker-store", cheapest⟩
    variants := none
    options := none }

/-! ## Prices by id -/

/-- `record[key] = value` on a record that began as `{}`. -/
def Record.assign (r : Record) (key : JsString) (value : Int) : Record :=
  -- the accessor that `Object.prototype` has under this name ignores a number
  if key = js "__proto__" then r
  else if r.any fun e => e.1 == key then r.map fun e => if e.1 == key then (key, value) else e
  else r ++ [(key, value)]

/-- The loop over the products that fills `catalogPrices`. -/
def catalogPrices (products : List FeedProduct) : Record :=
  products.foldl (fun prices p => prices.assign p.id p.pricePaise) []

theorem Record.get?_assign (r : Record) (key : JsString) (value : Int) (q : JsString) :
    (r.assign key value).get? q =
      if q = key ∧ key ≠ js "__proto__" then some value else r.get? q := by
  by_cases hproto : key = js "__proto__"
  · rw [Record.assign, if_pos hproto, if_neg (fun h => h.2 hproto)]
  rw [Record.assign, if_neg hproto]
  by_cases hany : (r.any fun e => e.1 == key) = true
  · rw [if_pos hany, Record.get?, List.find?_map]
    have hname : ((fun e : JsString × Int => e.1 == q) ∘
        fun e => if e.1 == key then (key, value) else e) = fun e => e.1 == q := by
      funext e
      by_cases he : e.1 = key
      · simp [he]
      · simp [he]
    rw [hname]
    by_cases hq : q = key
    · subst hq
      obtain ⟨e, he⟩ := Option.isSome_iff_exists.mp
        (List.find?_isSome.mpr (List.any_eq_true.mp hany))
      have hkey : (e.1 == q) = true := List.find?_some (p := fun e : JsString × Int => e.1 == q) he
      rw [if_pos ⟨rfl, hproto⟩, he, Option.map_some, Option.map_some, if_pos hkey]
    · rw [if_neg (fun h => hq h.1), Record.get?]
      cases he : r.find? fun e => e.1 == q with
      | none => rfl
      | some e =>
        have hkey : e.1 = q :=
          beq_iff_eq.mp (List.find?_some (p := fun e : JsString × Int => e.1 == q) he)
        rw [Option.map_some, Option.map_some, Option.map_some, if_neg]
        rw [hkey, beq_iff_eq]
        exact hq
  · rw [if_neg hany, Record.get?, List.find?_append]
    by_cases hq : q = key
    · subst hq
      have hnone : (r.find? fun e => e.1 == q) = none := by
        rw [List.find?_eq_none]
        exact fun e he hkey => hany (List.any_eq_true.mpr ⟨e, he, hkey⟩)
      have hlast : ([(q, value)].find? fun e => e.1 == q) = some (q, value) :=
        List.find?_cons_of_pos (p := fun e : JsString × Int => e.1 == q) (beq_self_eq_true q)
      rw [if_pos ⟨rfl, hproto⟩, hnone, Option.none_or, hlast, Option.map_some]
    · have hlast : ([(key, value)].find? fun e => e.1 == q) = none := by
        rw [List.find?_cons_of_neg (by rw [beq_iff_eq]; exact fun h => hq h.symm), List.find?_nil]
      rw [if_neg (fun h => hq h.1), hlast, Option.or_none, Record.get?]

/-- **The registered price of an id** is the one of the last listing with it. -/
theorem catalogPrices_get? (products : List FeedProduct) (id : JsString) :
    (catalogPrices products).get? id =
      if id = js "__proto__" then none
      else (products.reverse.find? fun p => p.id == id).map (·.pricePaise) := by
  induction products using List.reverseRecOn with
  | nil => split <;> rfl
  | append_singleton products p ih =>
    rw [catalogPrices, List.foldl_append, List.foldl_cons, List.foldl_nil, Record.get?_assign,
      ← catalogPrices, ih, List.reverse_append, List.reverse_singleton, List.singleton_append]
    by_cases hid : id = p.id
    · rw [List.find?_cons_of_pos (by rw [beq_iff_eq]; exact hid.symm), Option.map_some, hid]
      by_cases hproto : p.id = js "__proto__"
      · rw [if_neg (fun h => h.2 hproto), if_pos hproto, if_pos hproto]
      · rw [if_pos ⟨rfl, hproto⟩, if_neg hproto]
    · rw [if_neg (fun h => hid h.1),
        List.find?_cons_of_neg (by rw [beq_iff_eq]; exact fun h => hid h.symm)]

/-! ## Onboarding -/

/-- A row of `store_catalogs`. -/
structure StoreCatalogRow where
  merchantId : JsString
  name : JsString
  sourceUrl : Option JsString
  productCount : Nat
  catalog : List FeedProduct
  createdAt : Int

def StoreCatalogRow.clash (a b : StoreCatalogRow) : Bool := a.merchantId == b.merchantId

/-- The facilitator's database with its `store_catalogs`, which no payment route reads. -/
structure Shops where
  db : Db
  storeCatalogs : Table StoreCatalogRow StoreCatalogRow.clash

/-- `upsertStoreCatalog(db, args)`. -/
def upsertStoreCatalog (now : Int) (t : Table StoreCatalogRow StoreCatalogRow.clash)
    (merchantId name : JsString) (sourceUrl : Option JsString) (products : List FeedProduct) :
    Table StoreCatalogRow StoreCatalogRow.clash :=
  match t.insert? ⟨merchantId, name, sourceUrl, products.length, products, now⟩ with
  | some t' => t'
  | none =>
    match t.update? (fun row => row.merchantId == merchantId) fun row =>
        { row with name := name, sourceUrl := sourceUrl, productCount := products.length,
                   catalog := products } with
    | some t' => t'
    | none => t

/-- `getStoreCatalog(db, merchantId)`. -/
def getStoreCatalog (shops : Shops) (merchantId : JsString) : Option StoreCatalogRow :=
  shops.storeCatalogs.find? fun row => row.merchantId == merchantId

inductive OnboardBody where
  | ok (merchantId name : JsString) (productCount : Nat) (sample warnings : List JsString)
  | error (code detail : JsString)

/-- The fallback to the browser: the merchant id, the products and the warnings. -/
def browserCatalog (merchantId : JsString)
    (browserScan : JsString → List ScannedProduct × List JsString) :
    JsString × List FeedProduct × List JsString :=
  let (found, warnings) := browserScan merchantId
  if found.isEmpty then (merchantId, [], [])
  else (merchantId, toFeedProducts ⟨merchantId, found, warnings⟩, warnings)

/-- What the two scans give; `scan` threw in the case of an error. -/
def scannedCatalog (merchantId : JsString) (scan : Except JsString ScanResult)
    (browserScan : JsString → List ScannedProduct × List JsString) :
    JsString × List FeedProduct × List JsString :=
  match scan with
  | .ok result =>
    if (toFeedProducts result).isEmpty then browserCatalog result.merchantId browserScan
    else (result.merchantId, toFeedProducts result, [])
  | .error _ => browserCatalog merchantId browserScan

/-- POST /stores/onboard once its scans have answered.  `merchantId` is the one derived from the
    URL, `deriveStoreName` the name its host gives. -/
def postStoresOnboard (now : Int) (shops : Shops) (url merchantId : JsString)
    (deriveStoreName : JsString → JsString → JsString) (scan : Except JsString ScanResult)
    (browserScan : JsString → List ScannedProduct × List JsString) : Shops × OnboardBody :=
  let (merchantId, products, warnings) := scannedCatalog merchantId scan browserScan
  if products.isEmpty then
    (shops, match scan with
      -- an empty message is falsy, but not nullish
      | .error scanError =>
        .error (if scanError.isEmpty then js "NO_PRODUCTS" else js "SCAN_FAILED") scanError
      | .ok _ => .error (js "NO_PRODUCTS")
        (js "store exposes no schema.org product markup and no Shopify product feed"))
  else
    let name := deriveStoreName url merchantId
    ({ db := upsertMerchant now shops.db merchantId name url (catalogPrices products)
       storeCatalogs :=
        upsertStoreCatalog now shops.storeCatalogs merchantId name (some url) products },
      .ok merchantId name products.length ((products.take 5).map (·.title)) warnings)

/-- GET /catalog/:merchant_id, `none` for CATALOG_NOT_FOUND. -/
def getCatalog (shops : Shops) (merchantId : JsString) (poisoned : Bool) :
    Option (List FeedProduct) :=
  (getStoreCatalog shops merchantId).map fun row =>
    if poisoned then row.catalog ++ [buildPoisonProduct row.catalog] else row.catalog

/-- The prices `buildVerifyCtx` reads for a merchant. -/
def registeredPrices (db : Db) (merchantId : JsString) : Option Record :=
  (db.merchants.find? fun row => row.merchantId == merchantId).bind (·.catalogPrices)

/-! ## What an accepted onboarding leaves -/

theorem toFeedProducts_merchantId {scan : ScanResult} {p : FeedProduct}
    (h : p ∈ toFeedProducts scan) : p.merchantId = scan.merchantId := by
  obtain ⟨q, -, rfl⟩ := List.mem_map.mp (List.mem_filter.mp h).1
  rfl

/-- The listings of one store, all of them usable. -/
def Listings (merchantId : JsString) (products : List FeedProduct) : Prop :=
  ∀ p ∈ products, p.merchantId = merchantId ∧ isValidFeedProduct p = true

theorem toFeedProducts_listings (scan : ScanResult) :
    Listings scan.merchantId (toFeedProducts scan) :=
  fun _ hp => ⟨toFeedProducts_merchantId hp, (List.mem_filter.mp hp).2⟩

theorem browserCatalog_listings {merchantId id : JsString}
    {browserScan : JsString → List ScannedProduct × List JsString} {products : List FeedProduct}
    {warnings : List JsString}
    (h : browserCatalog merchantId browserScan = (id, products, warnings)) : Listings id products := by
  simp only [browserCatalog] at h
  split at h
  · obtain ⟨-, rfl, -⟩ := (Prod.mk.inj h).imp_right Prod.mk.inj
    exact fun p hp => nomatch hp
  · obtain ⟨rfl, rfl, -⟩ := (Prod.mk.inj h).imp_right Prod.mk.inj
    exact toFeedProducts_listings _

theorem scannedCatalog_listings {merchantId id : JsString} {scan : Except JsString ScanResult}
    {browserScan : JsString → List ScannedProduct × List JsString} {products : List FeedProduct}
    {warnings : List JsString}
    (h : scannedCatalog merchantId scan browserScan = (id, products, warnings)) :
    Listings id products := by
  cases scan with
  | error e => exact browserCatalog_listings h
  | ok result =>
    simp only [scannedCatalog] at h
    split at h
    · exact browserCatalog_listings h
    · obtain ⟨rfl, rfl, -⟩ := (Prod.mk.inj h).imp_right Prod.mk.inj
      exact toFeedProducts_listings result

theorem registeredPrices_upsertMerchant (now : Int) (db : Db) (merchantId name url : JsString)
    (prices : Record) :
    registeredPrices (upsertMerchant now db merchantId name url prices) merchantId = some prices := by
  have hrow := db.merchants.upsert_find? (a := ⟨merchantId, name, some url, some prices, now⟩)
    (p := fun row => row.merchantId == merchantId)
    (f := fun row => { row with name := name, catalogUrl := some url, catalogPrices := some prices })
    (fun _ => rfl) (beq_self_eq_true _) (fun _ h => h)
    (fun b c h => by rw [← h]; unfold MerchantRow.clash; split <;> split <;> rfl)
  rcases hrow with ⟨t', hins, hfind⟩ | ⟨hins, t', r, hup, hfind⟩
  · simp only [registeredPrices, upsertMerchant, hins, hfind, Option.bind_some]
  · simp only [registeredPrices, upsertMerchant, hins, hup, hfind, Option.bind_some]

theorem upsertStoreCatalog_find? (now : Int) (t : Table StoreCatalogRow StoreCatalogRow.clash)
    (merchantId name : JsString) (url : Option JsString) (products : List FeedProduct) :
    ((upsertStoreCatalog now t merchantId name url products).find?
      fun row => row.merchantId == merchantId).map (·.catalog) = some products := by
  have hrow := t.upsert_find? (a := ⟨merchantId, name, url, products.length, products, now⟩)
    (p := fun row => row.merchantId == merchantId)
    (f := fun row => { row with name := name, sourceUrl := url, productCount := products.length,
                                catalog := products })
    (fun _ => rfl) (beq_self_eq_true _) (fun _ h => h)
    (fun b c h => by rw [← h]; unfold StoreCatalogRow.clash; split <;> split <;> rfl)
  rcases hrow with ⟨t', hins, hfind⟩ | ⟨hins, t', r, hup, hfind⟩
  · simp only [upsertStoreCatalog, hins, hfind, Option.map_some]
  · simp only [upsertStoreCatalog, hins, hup, hfind, Option.map_some]

/-- What the facilitator serves for a merchant and what it has registered for it come from the
    same products. -/
structure Onboarded (shops : Shops) (merchantId : JsString) (products : List FeedProduct) : Prop where
  served : (getStoreCatalog shops merchantId).map (·.catalog) = some products
  prices : registeredPrices shops.db merchantId = some (catalogPrices products)
  listings : Listings merchantId products

theorem Onboarded.getCatalog {shops : Shops} {merchantId : JsString} {products : List FeedProduct}
    (h : Onboarded shops merchantId products) (poisoned : Bool) :
    getCatalog shops merchantId poisoned =
      some (if poisoned then products ++ [buildPoisonProduct products] else products) := by
  obtain ⟨row, hrow, rfl⟩ := Option.map_eq_some_iff.mp h.served
  rw [Hundi.getCatalog, hrow, Option.map_some]

/-- A listing of the store is found among what is served, poisoned or not. -/
theorem Onboarded.find?_served {shops : Shops} {merchantId : JsString}
    {products served : List FeedProduct} {poisoned : Bool} {p : FeedProduct → Bool}
    {product : FeedProduct} (h : Onboarded shops merchantId products)
    (hserved : Hundi.getCatalog shops merchantId poisoned = some served)
    (hfirst : products.find? p = some product) : served.find? p = some product := by
  rw [h.getCatalog] at hserved
  obtain rfl := Option.some.inj hserved
  split
  · rw [List.find?_append, hfirst, Option.some_or]
  · exact hfirst

theorem onboarded {now : Int} {shops shops' : Shops} {url derived merchantId name : JsString}
    {deriveStoreName : JsString → JsString → JsString} {scan : Except JsString ScanResult}
    {browserScan : JsString → List ScannedProduct × List JsString} {productCount : Nat}
    {sample warnings : List JsString}
    (h : postStoresOnboard now shops url derived deriveStoreName scan browserScan =
      (shops', .ok merchantId name productCount sample warnings)) :
    ∃ products, Onboarded shops' merchantId products ∧ products.length = productCount := by
  obtain ⟨id, products, found, hscan⟩ : ∃ id products found,
      scannedCatalog derived scan browserScan = (id, products, found) := ⟨_, _, _, rfl⟩
  simp only [postStoresOnboard, hscan] at h
  split at h
  · cases scan with
    | ok result => exact nomatch (Prod.mk.inj h).2
    | error e => exact nomatch (Prod.mk.inj h).2
  · obtain ⟨rfl, hbody⟩ := Prod.mk.inj h
    obtain ⟨rfl, -, rfl, -, -⟩ := OnboardBody.ok.inj hbody
    exact ⟨products,
      { served := upsertStoreCatalog_find? _ _ _ _ _ _
        prices := registeredPrices_upsertMerchant _ _ _ _ _ _
        listings := scannedCatalog_listings hscan }, rfl⟩

end Hundi
