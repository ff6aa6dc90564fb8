/-
  packages/cli/src/scanner.ts — whether scanned prices are what the store wrote.

  `toPaise` takes the number that a price string starts with and leaves the rest, so `1,299.00` is read
  as one rupee; and only the first variant of a feed's product has to be positive.  Both extractors, and
  the builder of variants, hand on what it gives.

    nodeRecord_isSome_iff   which nodes of a page give a record, and `feedRecord_isSome_iff` of a feed
    page_as_written_iff     JSON-LD: a record for each node, as written exactly if its price is plain
    feed_as_written_iff     Shopify: the same for records and their variants, also once they are merged
    scanned_prices_iff      both
-/
import Hundi.Cli.JsonLd
import Hundi.Cli.ShopifyFeed
import Hundi.Lib.IpLiteral

namespace Hundi

open Js

/-- A price that is read: a number, or a string that starts like one. -/
def Legible : Json → Prop
  | .num _ => True
  | .str s => (parseFloat s).isSome = true
  | _ => False

theorem legible_iff {price : Json} : Legible price ↔ (toPaise (some price)).isSome = true := by
  cases price with
  | num d => exact iff_of_true trivial rfl
  | str s =>
    rw [toPaise, Option.isSome_map]
    exact Iff.rfl
  | _ => exact iff_of_false id Bool.false_ne_true

theorem toPaise_some {price : Option Json} {paise : Int} (h : toPaise price = some paise) :
    ∃ p, price = some p ∧ toPaise (some p) = some paise := by
  cases price with
  | none => exact absurd h (by simp [toPaise])
  | some p => exact ⟨p, rfl, h⟩

/-! ## JSON-LD -/

section

variable (urls : UrlParser) (lower : JsString → JsString) (parse : JsString → Option Json)
  (html baseUrl : JsString)

/-- The record that `buildProduct` makes of a node. -/
def nodeRecord (node : Json) : Option ScannedProduct :=
  (buildProduct urls lower node baseUrl).bind Prod.fst

/-- The price that `buildProduct` reads. -/
def nodeOfferPrice (node : Json) : Option Json :=
  (pickOffer (node.get "offers")).bind fun offer => offer.get "price"

/-- What is asked of a page: no record comes from a price that is not as written, and every product of
    the page is a node's record. -/
structure PageAsWritten : Prop where
  yields : ∀ node ∈ productNodes parse html, ∀ record, nodeRecord urls lower baseUrl node = some record →
    ∃ price, nodeOfferPrice node = some price ∧ AsWritten price record.pricePaise
  emits : ∀ products warnings, extractProducts urls lower parse html baseUrl = some (products, warnings) →
    ∀ p ∈ products, ∃ node ∈ productNodes parse html, nodeRecord urls lower baseUrl node = some p ∧
      ∃ price, nodeOfferPrice node = some price ∧ AsWritten price p.pricePaise

/-- A node that can be listed: it has a name, and an sku, or the page's URL is one that gives an sku. -/
structure NodeListable (node : Json) : Prop where
  named : (nodeName node).isSome = true
  identified : (normalizeSku node).isSome = true ∨ (urls.parse baseUrl).isSome = true

/-- Every price that is read of a node that can be listed is plain. -/
def PagePricesPlain : Prop :=
  ∀ node ∈ productNodes parse html, NodeListable urls baseUrl node →
    ∀ price, nodeOfferPrice node = some price → Legible price → PlainPrice price

end

section

variable {urls : UrlParser} {lower : JsString → JsString} {parse : JsString → Option Json}
  {html baseUrl : JsString}

theorem nodePrice_eq (node : Json) : nodePrice node = toPaise (nodeOfferPrice node) := by
  rw [nodePrice, nodeOfferPrice]
  cases pickOffer (node.get "offers") <;> rfl

/-- **`buildProduct`**: a record has the name of its node and its offer's price. -/
theorem nodeRecord_some {node : Json} {record : ScannedProduct}
    (h : nodeRecord urls lower baseUrl node = some record) :
    nodeName node = some record.name ∧
      toPaise (nodeOfferPrice node) = some record.pricePaise ∧
      (normalizeSku node).or (deriveSkuFromUrl urls lower baseUrl) = some record.sku := by
  obtain ⟨⟨built, warnings⟩, hbuild, rfl⟩ := Option.bind_eq_some_iff.mp h
  rw [buildProduct] at hbuild
  split at hbuild
  · exact absurd hbuild (by simp)
  rename_i name hname
  split at hbuild
  · exact absurd hbuild (by simp)
  rename_i pricePaise hpaise
  obtain ⟨⟨sku, skuWarnings⟩, hsku, hrecord⟩ := Option.bind_eq_some_iff.mp hbuild
  have hfields := (Prod.mk.inj (Option.some.inj hrecord)).1
  obtain rfl := Option.some.inj hfields
  refine ⟨hname, by rw [← nodePrice_eq, hpaise], ?_⟩
  rw [skuOf] at hsku
  cases hexplicit : normalizeSku node with
  | some explicit =>
    rw [hexplicit] at hsku
    exact congrArg some (Prod.mk.inj (Option.some.inj hsku)).1
  | none =>
    rw [hexplicit] at hsku
    obtain ⟨derived, hderived, heq⟩ := Option.map_eq_some_iff.mp hsku
    rw [Option.none_or, hderived]
    exact congrArg some (Prod.mk.inj heq).1

theorem skuOf_isSome {node : Json} {name : JsString} :
    (skuOf urls lower node baseUrl name).isSome = true ↔
      (normalizeSku node).isSome = true ∨ (urls.parse baseUrl).isSome = true := by
  have hderived : (deriveSkuFromUrl urls lower baseUrl).isSome = (urls.parse baseUrl).isSome := by
    rw [deriveSkuFromUrl]
    cases urls.parse baseUrl <;> rfl
  rw [skuOf]
  cases normalizeSku node with
  | some sku => exact iff_of_true rfl (.inl rfl)
  | none =>
    rw [← hderived]
    dsimp only
    rw [Option.isSome_map, Option.isSome_none, or_iff_right Bool.false_ne_true]

/-- **The nodes that give a record**: those that can be listed and have a price that is read. -/
theorem nodeRecord_isSome_iff {node : Json} :
    (nodeRecord urls lower baseUrl node).isSome = true ↔
      NodeListable urls baseUrl node ∧ ∃ price, nodeOfferPrice node = some price ∧ Legible price := by
  constructor
  · intro h
    obtain ⟨record, hrecord⟩ := Option.isSome_iff_exists.mp h
    obtain ⟨hname, hread, hsku⟩ := nodeRecord_some hrecord
    obtain ⟨price, hoffer, hpaise⟩ := toPaise_some hread
    refine ⟨⟨by rw [hname, Option.isSome_some], ?_⟩, price, hoffer, legible_iff.mpr ?_⟩
    · rw [← @skuOf_isSome urls lower baseUrl node record.name, skuOf]
      cases hexplicit : normalizeSku node with
      | some explicit => rfl
      | none =>
        rw [hexplicit, Option.none_or] at hsku
        rw [hsku]
        rfl
    · rw [hpaise, Option.isSome_some]
  · rintro ⟨⟨hnamed, hidentified⟩, price, hoffer, hlegible⟩
    -- the three places where `buildProduct` gives up
    obtain ⟨name, hname⟩ := Option.isSome_iff_exists.mp hnamed
    obtain ⟨paise, hpaise⟩ := Option.isSome_iff_exists.mp (legible_iff.mp hlegible)
    obtain ⟨⟨sku, warnings⟩, hsku⟩ := Option.isSome_iff_exists.mp
      ((@skuOf_isSome urls lower baseUrl node name).mpr hidentified)
    rw [nodeRecord, buildProduct, hname]
    dsimp only
    rw [nodePrice_eq, hoffer, hpaise]
    dsimp only
    rw [hsku]
    rfl

theorem map_some_filterMap {α β : Type} {f : α → Option (Option β × List JsString)} {xs : List α}
    {ys : List (Option β × List JsString)} (h : xs.map f = ys.map some) :
    ys.filterMap Prod.fst = xs.filterMap fun x => (f x).bind Prod.fst := by
  induction xs generalizing ys with
  | nil =>
    obtain rfl := List.map_eq_nil_iff.mp h.symm
    rfl
  | cons x xs ih =>
    cases ys with
    | nil => exact absurd h (by simp)
    | cons y ys =>
      obtain ⟨hx, hxs⟩ := List.cons.inj h
      rw [List.filterMap_cons, List.filterMap_cons, ih hxs, hx]
      rfl

/-- **The products of a page** are the records of its nodes, in their order. -/
theorem extractProducts_some {products : List ScannedProduct} {warnings : List JsString}
    (h : extractProducts urls lower parse html baseUrl = some (products, warnings)) :
    products = (productNodes parse html).filterMap (nodeRecord urls lower baseUrl) := by
  rw [extractProducts] at h
  split at h
  · rename_i hempty
    obtain rfl := (Prod.mk.inj (Option.some.inj h)).1
    rw [productNodes, pageValues, List.isEmpty_iff.mp hempty]
    rfl
  obtain ⟨extracted, hextracted, hresult⟩ := Option.bind_eq_some_iff.mp h
  obtain rfl := (Prod.mk.inj (Option.some.inj hresult)).1
  rw [mapM_eq_some_iff] at hextracted
  clear h hresult
  -- one block after the other
  rw [productNodes, pageValues]
  generalize jsonLdBlocks html = blocks at hextracted
  induction blocks generalizing extracted with
  | nil =>
    obtain rfl := List.map_eq_nil_iff.mp hextracted.symm
    rfl
  | cons raw blocks ih =>
    cases extracted with
    | nil => exact absurd hextracted (by simp)
    | cons e extracted =>
      obtain ⟨hraw, hblocks⟩ := List.cons.inj hextracted
      rw [List.map_cons, List.flatten_cons, ih extracted hblocks]
      rw [extractBlock] at hraw
      split at hraw
      · rename_i hnone
        obtain rfl := Option.some.inj hraw
        rw [List.filterMap_cons_none (f := fun raw => parse (trim raw)) hnone]
        rfl
      · rename_i parsed hparsed
        obtain ⟨built, hbuilt, heq⟩ := Option.bind_eq_some_iff.mp hraw
        obtain rfl := Option.some.inj heq
        rw [List.filterMap_cons_some (f := fun raw => parse (trim raw)) hparsed, List.map_cons, List.flatten_cons, List.filterMap_append]
        congr 1
        exact map_some_filterMap (mapM_eq_some_iff.mp hbuilt)

theorem page_as_written_iff :
    PageAsWritten urls lower parse html baseUrl ↔ PagePricesPlain urls parse html baseUrl := by
  constructor
  · intro h node hnode hlistable price hprice hlegible
    obtain ⟨record, hrecord⟩ := Option.isSome_iff_exists.mp
      ((@nodeRecord_isSome_iff urls lower baseUrl node).mpr ⟨hlistable, price, hprice, hlegible⟩)
    obtain ⟨price', hprice', hwritten⟩ := h.yields node hnode record hrecord
    obtain rfl := Option.some.inj (hprice.symm.trans hprice')
    have hread := (nodeRecord_some hrecord).2.1
    rw [hprice] at hread
    exact (asWritten_iff hread).mp hwritten
  · intro h
    have hyields : ∀ node ∈ productNodes parse html, ∀ record,
        nodeRecord urls lower baseUrl node = some record →
          ∃ price, nodeOfferPrice node = some price ∧ AsWritten price record.pricePaise := by
      intro node hnode record hrecord
      obtain ⟨price, hprice, hread⟩ := toPaise_some (nodeRecord_some hrecord).2.1
      have hsome : (nodeRecord urls lower baseUrl node).isSome = true := by
        rw [hrecord, Option.isSome_some]
      have hlegible : Legible price := legible_iff.mpr (by rw [hread, Option.isSome_some])
      have hplain := h node hnode (nodeRecord_isSome_iff.mp hsome).1 price hprice hlegible
      exact ⟨price, hprice, (asWritten_iff hread).mpr hplain⟩
    refine ⟨hyields, fun products warnings hextract p hp => ?_⟩
    rw [extractProducts_some hextract] at hp
    obtain ⟨node, hnode, hrecord⟩ := List.mem_filterMap.mp hp
    exact ⟨node, hnode, hrecord, hyields node hnode p hrecord⟩

end

/-! ## Shopify -/

section

variable (urls : UrlParser) (json : Json) (baseUrl merchantId : JsString) (base : Url)

/-- The record that a node of the feed gives. -/
def feedRecord (node : Json) : Option ScannedProduct :=
  (buildShopifyProduct urls baseUrl merchantId base node).bind Prod.fst

/-- The price of a record: that of the first variant. -/
def feedPrice (node : Json) : Option Json :=
  (firstVariant node).bind fun variant => variant.get "price"

/-- The paise are the price as it is written. -/
def PriceWritten (price : Option Json) (paise : Int) : Prop :=
  ∃ p, price = some p ∧ AsWritten p paise

/-- What is asked of a feed: no record and no variant of a record comes from a price that is not as
    written, and every product and every variant that the page emits comes from one that is. -/
structure FeedAsWritten : Prop where
  yields : ∀ node ∈ (rawProducts json).getD [], ∀ record,
    feedRecord urls baseUrl merchantId base node = some record →
      PriceWritten (feedPrice node) record.pricePaise ∧
        ∀ raw ∈ rawVariants node, ∀ v ∈ record.variantList, buildScannedVariant raw = some v →
          PriceWritten (raw.get "price") v.pricePaise
  emits : ∀ products warnings,
    extractShopifyProducts urls json baseUrl merchantId = some (products, warnings) → ∀ p ∈ products,
      (∃ node ∈ (rawProducts json).getD [], ∃ record,
        feedRecord urls baseUrl merchantId base node = some record ∧ record.sku = p.sku ∧
          PriceWritten (feedPrice node) p.pricePaise) ∧
      ∀ v ∈ p.variantList, ∃ node ∈ (rawProducts json).getD [], ∃ record,
        feedRecord urls baseUrl merchantId base node = some record ∧ record.sku = p.sku ∧
          ∃ raw ∈ rawVariants node, rawVariantId raw = some v.variantId ∧
            PriceWritten (raw.get "price") v.pricePaise

/-- A variant that can be listed: it has an id, and a price that is read. -/
def VariantListable (raw : Json) : Prop :=
  (rawVariantId raw).isSome = true ∧ ∃ price, raw.get "price" = some price ∧ Legible price

/-- A node that can be listed: it has a title and a handle, or its first variant an sku; none of its
    variants is `null`; the first has a price that is read as more than nothing; and the handle, if it has
    one, gives a URL. -/
structure ProductListable (node : Json) : Prop where
  titled : trim (((node.get "title").bind Json.str?).getD []) ≠ []
  identified : (Json.text? (node.get "handle")).isSome = true ∨
    ∃ variant, firstVariant node = some variant ∧ (Json.text? (variant.get "sku")).isSome = true
  variants : ∀ raw ∈ rawVariants node, raw.isNull = false
  priced : ∃ paise, toPaise (feedPrice node) = some paise ∧ 0 < paise
  located : ∀ handle, Json.text? (node.get "handle") = some handle →
    (urls.resolve (js "/products/" ++ handle) base.href).isSome = true

/-- Of every node that can be listed, the first variant's price is plain; and where two of its variants
    can be listed, so is the price of each that can. -/
def FeedPricesPlain : Prop :=
  ∀ node ∈ (rawProducts json).getD [], ProductListable urls base node →
    (∀ price, feedPrice node = some price → PlainPrice price) ∧
    ((∃ raw raw', [raw, raw'].Sublist (rawVariants node) ∧ VariantListable raw ∧ VariantListable raw') →
      ∀ raw ∈ rawVariants node, VariantListable raw →
        ∀ price, raw.get "price" = some price → PlainPrice price)

end

section

variable {urls : UrlParser} {json : Json} {baseUrl merchantId : JsString} {base : Url}

theorem buildScannedVariant_some {raw : Json} {v : ScannedVariant}
    (h : buildScannedVariant raw = some v) :
    rawVariantId raw = some v.variantId ∧ toPaise (raw.get "price") = some v.pricePaise := by
  rw [buildScannedVariant] at h
  split at h
  · rename_i variantId price hid hprice
    obtain rfl := Option.some.inj h
    exact ⟨hid, hprice⟩
  · exact absurd h (by simp)

theorem buildScannedVariant_isSome {raw : Json} :
    (buildScannedVariant raw).isSome = true ↔ VariantListable raw := by
  have hprice : (toPaise (raw.get "price")).isSome = true ↔
      ∃ price, raw.get "price" = some price ∧ Legible price := by
    cases raw.get "price" with
    | none => exact iff_of_false Bool.false_ne_true (by simp)
    | some price => simp [legible_iff]
  rw [VariantListable, ← hprice, buildScannedVariant]
  cases rawVariantId raw <;> cases toPaise (raw.get "price") <;> simp

/-- Two elements that are kept are there if two are kept. -/
theorem one_lt_length_filterMap {α β : Type} {f : α → Option β} {xs : List α} :
    1 < (xs.filterMap f).length ↔
      ∃ x y, [x, y].Sublist xs ∧ (f x).isSome = true ∧ (f y).isSome = true := by
  rw [List.length_filterMap_eq_countP, List.countP_eq_length_filter]
  constructor
  · intro h
    have hsub : (xs.filter fun x => (f x).isSome).Sublist xs := List.filter_sublist
    have hsome : ∀ x ∈ xs.filter fun x => (f x).isSome, (f x).isSome = true :=
      fun x hx => (List.mem_filter.mp hx).2
    generalize xs.filter (fun x => (f x).isSome) = kept at h hsub hsome
    obtain _ | ⟨x, _ | ⟨y, kept⟩⟩ := kept
    · exact absurd h (by simp)
    · exact absurd h (by simp)
    · refine ⟨x, y, List.Sublist.trans ?_ hsub, hsome x (by simp), hsome y (by simp)⟩
      exact ((List.nil_sublist kept).cons_cons y).cons_cons x
  · rintro ⟨x, y, hsub, hx, hy⟩
    have hkept := hsub.filter fun x => (f x).isSome
    rw [List.filter_cons_of_pos (by simpa using hx), List.filter_cons_of_pos (by simpa using hy),
      List.filter_nil] at hkept
    exact hkept.length_le

/-- **A record of the feed**: its node can be listed, it has the price of the first variant, and the
    variants that can be listed, if there are two. -/
theorem feedRecord_some {node : Json} {record : ScannedProduct}
    (h : feedRecord urls baseUrl merchantId base node = some record) :
    ProductListable urls base node ∧ toPaise (feedPrice node) = some record.pricePaise ∧
      record.variants =
        if ((rawVariants node).filterMap buildScannedVariant).length > 1 then
          some ((rawVariants node).filterMap buildScannedVariant)
        else none := by
  obtain ⟨⟨built, warnings⟩, hbuild, rfl⟩ := Option.bind_eq_some_iff.mp h
  rw [buildShopifyProduct] at hbuild
  split at hbuild
  · exact absurd hbuild (by simp)
  dsimp only at hbuild
  split at hbuild
  · exact absurd hbuild (by simp)
  rename_i htitle
  split at hbuild
  · exact absurd hbuild (by simp)
  rename_i variant hvariant
  split at hbuild
  · exact absurd hbuild (by simp)
  rename_i pricePaise hpaise
  split at hbuild
  · exact absurd hbuild (by simp)
  rename_i hpositive
  rw [shopifyRecord] at hbuild
  split at hbuild
  · exact absurd hbuild (by simp)
  rename_i sku hsku
  obtain ⟨scannedVariants, hvariants, hbuild⟩ := Option.bind_eq_some_iff.mp hbuild
  obtain ⟨url, hurl, hbuild⟩ := Option.bind_eq_some_iff.mp hbuild
  obtain rfl := Option.some.inj (Prod.mk.inj (Option.some.inj hbuild)).1
  have hprice : toPaise (feedPrice node) = some pricePaise := by
    rw [feedPrice, hvariant]
    exact hpaise
  rw [buildScannedVariants] at hvariants
  split at hvariants
  · exact absurd hvariants (by simp)
  rename_i hnull
  refine ⟨⟨?_, ?_, ?_, ⟨pricePaise, hprice, by omega⟩, ?_⟩, hprice, (Option.some.inj hvariants).symm⟩
  · rwa [List.isEmpty_iff] at htitle
  · rcases Option.or_eq_some_iff.mp hsku with hhandle | ⟨-, hsku⟩
    · exact .inl (by rw [hhandle, Option.isSome_some])
    · exact .inr ⟨variant, hvariant, by rw [hsku, Option.isSome_some]⟩
  · intro raw hraw
    rw [List.any_eq_true] at hnull
    simpa using fun hisNull => hnull ⟨raw, hraw, hisNull⟩
  · intro handle hhandle
    rw [hhandle, productUrl] at hurl
    obtain ⟨resolved, hresolved, -⟩ := Option.map_eq_some_iff.mp hurl
    rw [hresolved, Option.isSome_some]

/-- **The nodes that give a record**: those that can be listed. -/
theorem feedRecord_isSome_iff {node : Json} :
    (feedRecord urls baseUrl merchantId base node).isSome = true ↔ ProductListable urls base node := by
  constructor
  · intro h
    obtain ⟨record, hrecord⟩ := Option.isSome_iff_exists.mp h
    exact (feedRecord_some hrecord).1
  · rintro ⟨htitled, hidentified, hvariants, ⟨paise, hpaise, hpositive⟩, hlocated⟩
    -- each `have` is one place where `buildShopifyProduct` gives up or throws
    have hobject : node.isObject = true := by
      cases node with
      | obj members => rfl
      | _ => exact absurd rfl htitled
    cases hvariant : firstVariant node with
    | none =>
      rw [feedPrice, hvariant] at hpaise
      exact absurd hpaise (by simp [toPaise])
    | some variant =>
      rw [feedPrice, hvariant, Option.bind_some] at hpaise
      have hsku : ∃ sku, (Json.text? (node.get "handle")).or (Json.text? (variant.get "sku")) = some sku := by
        rw [← Option.isSome_iff_exists, Option.isSome_or, Bool.or_eq_true]
        refine hidentified.imp id ?_
        rintro ⟨variant', hvariant', hsku⟩
        obtain rfl := Option.some.inj (hvariant.symm.trans hvariant')
        exact hsku
      obtain ⟨sku, hsku⟩ := hsku
      have hscanned : ∃ scanned, buildScannedVariants (rawVariants node) = some scanned := by
        rw [buildScannedVariants, if_neg]
        · exact ⟨_, rfl⟩
        · rw [List.any_eq_true]
          rintro ⟨raw, hraw, hnull⟩
          exact absurd (hnull.symm.trans (hvariants raw hraw)) (by simp)
      obtain ⟨scanned, hscanned⟩ := hscanned
      have hurl : ∃ url, productUrl urls baseUrl base (Json.text? (node.get "handle")) = some url := by
        cases hhandle : Json.text? (node.get "handle") with
        | none => exact ⟨baseUrl, rfl⟩
        | some handle =>
          obtain ⟨resolved, hresolved⟩ := Option.isSome_iff_exists.mp (hlocated handle hhandle)
          exact ⟨resolved.href, by rw [productUrl, hresolved, Option.map_some]⟩
      obtain ⟨url, hurl⟩ := hurl
      rw [feedRecord, buildShopifyProduct, hobject, hvariant, if_neg (by simp)]
      dsimp only
      rw [if_neg (by simpa using htitled), hpaise]
      dsimp only
      rw [if_neg (not_le.mpr hpositive), shopifyRecord, hsku]
      dsimp only
      rw [hscanned, hurl]
      rfl

theorem mem_variantList {node : Json} {record : ScannedProduct}
    (h : feedRecord urls baseUrl merchantId base node = some record) {v : ScannedVariant} :
    v ∈ record.variantList ↔
      (∃ raw raw', [raw, raw'].Sublist (rawVariants node) ∧ VariantListable raw ∧ VariantListable raw') ∧
        ∃ raw ∈ rawVariants node, buildScannedVariant raw = some v := by
  simp only [← buildScannedVariant_isSome, ← one_lt_length_filterMap, ← List.mem_filterMap]
  rw [ScannedProduct.variantList, (feedRecord_some h).2.2]
  split
  · rename_i htwo
    rw [Option.getD_some, and_iff_right htwo]
  · rename_i htwo
    exact iff_of_false List.not_mem_nil fun h => htwo h.1

/-- The variants of a merged record have their ids and prices from variants of the records. -/
theorem variant_source {first : ScannedProduct} {rest : List ScannedProduct} {v : ScannedVariant}
    (h : v ∈ (mergedRecord first rest).variantList) :
    ∃ r ∈ first :: rest, ∃ w ∈ r.variantList, w.variantId = v.variantId ∧ w.pricePaise = v.pricePaise := by
  have h : v ∈ (listedVariants first.variants (rest.map ScannedProduct.variantList)).getD [] := h
  have hcounted := @mem_counted first rest
  rw [counted, ScannedProduct.variantList] at hcounted
  rw [listedVariants] at h
  generalize mergedFrom (first.variants.getD []) (rest.map ScannedProduct.variantList) = later
    at h hcounted
  cases later with
  | nil => exact ⟨first, List.mem_cons_self, v, h, rfl, rfl⟩
  | cons vs later =>
    obtain ⟨hv, -⟩ := (mem_oneEach keepsId_together).mp h
    rw [together, Option.map_eq_some_iff] at hv
    obtain ⟨last, hlast, hv⟩ := hv
    obtain ⟨r, hr, hw⟩ := hcounted (List.mem_filter.mp (List.mem_of_getLast? hlast)).1
    refine ⟨r, hr, last, hw, ?_, ?_⟩
    · rw [← hv]
    · rw [← hv]

/-- **The products of a feed's page** are its nodes' records, merged by handle. -/
theorem extractShopifyProducts_some {products : List ScannedProduct} {warnings : List JsString}
    (hbase : urls.parse baseUrl = some base)
    (h : extractShopifyProducts urls json baseUrl merchantId = some (products, warnings)) :
    ∃ ws, products = (dedupeShopifyProducts
      (((rawProducts json).getD []).filterMap (feedRecord urls baseUrl merchantId base)) ws).1 := by
  rw [extractShopifyProducts] at h
  split at h
  · rename_i hnone
    obtain rfl := (Prod.mk.inj (Option.some.inj h)).1
    rw [hnone]
    exact ⟨[], rfl⟩
  · rename_i nodes hnodes
    obtain ⟨base', hbase', h⟩ := Option.bind_eq_some_iff.mp h
    obtain rfl := Option.some.inj (hbase.symm.trans hbase')
    obtain ⟨built, hbuilt, h⟩ := Option.bind_eq_some_iff.mp h
    refine ⟨(built.map Prod.snd).flatten, ?_⟩
    have hrecords : built.filterMap Prod.fst = nodes.filterMap (feedRecord urls baseUrl merchantId base) :=
      map_some_filterMap (mapM_eq_some_iff.mp hbuilt)
    rw [hnodes, Option.getD_some, ← hrecords]
    exact (congrArg Prod.fst (Option.some.inj h)).symm

theorem priceWritten_of_plain {price : Option Json} {paise : Int} (hread : toPaise price = some paise)
    (hplain : ∀ p, price = some p → PlainPrice p) : PriceWritten price paise := by
  obtain ⟨p, rfl, hp⟩ := toPaise_some hread
  exact ⟨p, rfl, (asWritten_iff hp).mpr (hplain p rfl)⟩

theorem plain_of_priceWritten {price : Option Json} {paise : Int} (hread : toPaise price = some paise)
    (hwritten : PriceWritten price paise) : ∀ p, price = some p → PlainPrice p := by
  rintro p rfl
  obtain ⟨p', hp', hwritten⟩ := hwritten
  obtain rfl := Option.some.inj hp'
  exact (asWritten_iff hread).mp hwritten

theorem feed_as_written_iff (hbase : urls.parse baseUrl = some base) :
    FeedAsWritten urls json baseUrl merchantId base ↔ FeedPricesPlain urls json base := by
  constructor
  · intro h node hnode hlistable
    obtain ⟨record, hrecord⟩ := Option.isSome_iff_exists.mp
      ((@feedRecord_isSome_iff urls baseUrl merchantId base node).mpr hlistable)
    obtain ⟨hprice, hvariants⟩ := h.yields node hnode record hrecord
    refine ⟨plain_of_priceWritten (feedRecord_some hrecord).2.1 hprice, fun htwo raw hraw hlisted => ?_⟩
    obtain ⟨v, hbuild⟩ := Option.isSome_iff_exists.mp (buildScannedVariant_isSome.mpr hlisted)
    have hv := (mem_variantList hrecord).mpr ⟨htwo, raw, hraw, hbuild⟩
    exact plain_of_priceWritten (buildScannedVariant_some hbuild).2 (hvariants raw hraw v hv hbuild)
  · intro h
    have hyields : ∀ node ∈ (rawProducts json).getD [], ∀ record,
        feedRecord urls baseUrl merchantId base node = some record →
          PriceWritten (feedPrice node) record.pricePaise ∧
            ∀ raw ∈ rawVariants node, ∀ v ∈ record.variantList, buildScannedVariant raw = some v →
              PriceWritten (raw.get "price") v.pricePaise := by
      intro node hnode record hrecord
      obtain ⟨hlistable, hpaise, -⟩ := feedRecord_some hrecord
      obtain ⟨hprice, hvariants⟩ := h node hnode hlistable
      refine ⟨priceWritten_of_plain hpaise hprice, fun raw hraw v hv hbuild => ?_⟩
      have hlisted := buildScannedVariant_isSome.mp (by rw [hbuild, Option.isSome_some])
      exact priceWritten_of_plain (buildScannedVariant_some hbuild).2
        (hvariants ((mem_variantList hrecord).mp hv).1 raw hraw hlisted)
    refine ⟨hyields, fun products warnings hextract p hp => ?_⟩
    -- a merged record has the first one's price, and its variants' prices from some of them
    obtain ⟨ws, rfl⟩ := extractShopifyProducts_some hbase hextract
    rw [products_dedupe] at hp
    obtain ⟨handle, -, hlisting⟩ := List.mem_filterMap.mp hp
    obtain ⟨first, rest, hrecords, rfl, hsku⟩ := listing_some hlisting
    have hbuilt : ∀ r ∈ first :: rest, r.sku = handle ∧ ∃ node ∈ (rawProducts json).getD [],
        feedRecord urls baseUrl merchantId base node = some r := by
      intro r hr
      rw [← hrecords] at hr
      obtain ⟨hr, hhandle⟩ := List.mem_filter.mp hr
      exact ⟨of_decide_eq_true hhandle, List.mem_filterMap.mp hr⟩
    constructor
    · obtain ⟨-, node, hnode, hrecord⟩ := hbuilt first List.mem_cons_self
      exact ⟨node, hnode, first, hrecord, rfl, (hyields node hnode first hrecord).1⟩
    · intro v hv
      obtain ⟨r, hr, w, hw, hid, hprice⟩ := variant_source hv
      obtain ⟨hrsku, node, hnode, hrecord⟩ := hbuilt r hr
      obtain ⟨-, raw, hraw, hbuild⟩ := (mem_variantList hrecord).mp hw
      refine ⟨node, hnode, r, hrecord, hrsku.trans hsku.symm, raw, hraw, ?_, ?_⟩
      · rw [← hid]
        exact (buildScannedVariant_some hbuild).1
      · rw [← hprice]
        exact (hyields node hnode r hrecord).2 raw hraw w hw hbuild

end

/-- **Where scanned prices are what the store wrote.**  On any page, and on any page of a feed, exactly
    if every price that is read of a node or a variant that can be listed is positive and, where it is a
    string, a numeral from its first to its last character. -/
theorem scanned_prices_iff (urls : UrlParser) (lower : JsString → JsString)
    (parse : JsString → Option Json) (html pageUrl : JsString) (json : Json)
    (feedUrl merchantId : JsString) :
    (PageAsWritten urls lower parse html pageUrl ↔ PagePricesPlain urls parse html pageUrl) ∧
      ∀ base, urls.parse feedUrl = some base →
        (FeedAsWritten urls json feedUrl merchantId base ↔ FeedPricesPlain urls json base) :=
  ⟨page_as_written_iff, fun _ hbase => feed_as_written_iff hbase⟩

/-! ## A page as written, and one misread -/

/-- A URL parser for the tests here: every text is a URL of one shop. -/
def demoUrls : UrlParser where
  parse url := some ⟨url, js "https:", js "shop.example", js "https://shop.example", url, url⟩
  resolve url _ := some ⟨url, js "https:", js "shop.example", js "https://shop.example", url, url⟩

/-- The JSON text of a product with this price. -/
def pricedText (price : String) : JsString :=
  js "\x7b\"@type\":\"Product\",\"name\":\"Shoe\",\"offers\":\x7b\"price\":\"" ++ js price ++
    js "\"\x7d\x7d"

def pricedNode (price : String) : Json :=
  .obj [(js "@type", .str (js "Product")), (js "name", .str (js "Shoe")),
    (js "offers", .obj [(js "price", .str (js price))])]

/-- `JSON.parse`, on this one text. -/
def pricedParse (price : String) (text : JsString) : Option Json :=
  if text = pricedText price then some (pricedNode price) else none

/-- A page with this product. -/
def pricedPage (price : String) : JsString :=
  js "<script type='application/ld+json'>" ++ pricedText price ++ js "</script>"

theorem productNodes_pricedPage {price : String}
    (hblocks : jsonLdBlocks (pricedPage price) = [pricedText price])
    (htrim : trim (pricedText price) = pricedText price) :
    productNodes (pricedParse price) (pricedPage price) = [pricedNode price] := by
  rw [productNodes, pageValues, hblocks, List.filterMap_cons_some (by rw [htrim, pricedParse, if_pos rfl])]
  rfl

/-- A variant with this id and price. -/
def pricedVariant (id price : String) : Json :=
  .obj [(js "id", .str (js id)), (js "price", .str (js price)), (js "available", .bool true)]

/-- A feed of one product, in two sizes. -/
def pricedFeed : Json :=
  .obj [(js "products", .arr [.obj [(js "title", .str (js "Shoe")), (js "handle", .str (js "shoe")),
    (js "variants", .arr [pricedVariant "9" "1299.00", pricedVariant "10" "1399.50"])]])]

/-- `1299.00` is scanned as 129900 paise, from a page and in a feed of two variants. -/
theorem scanned_prices_iff_demo :
    PageAsWritten demoUrls id (pricedParse "1299.00") (pricedPage "1299.00") [] ∧
      FeedAsWritten demoUrls pricedFeed [] [] ⟨[], js "https:", js "shop.example",
        js "https://shop.example", [], []⟩ := by
  have hpage : PagePricesPlain demoUrls (pricedParse "1299.00") (pricedPage "1299.00") [] := by
    intro node hnode _ price hprice _
    rw [productNodes_pricedPage (by decide +kernel) (by decide), List.mem_singleton] at hnode
    subst hnode
    obtain rfl : Json.str (js "1299.00") = price := Option.some.inj hprice
    exact ⟨⟨129900, 2⟩, by decide, by decide⟩
  have hfeed : FeedPricesPlain demoUrls pricedFeed ⟨[], js "https:", js "shop.example",
      js "https://shop.example", [], []⟩ := by
    intro node hnode _
    obtain rfl := List.mem_singleton.mp hnode
    refine ⟨fun price hprice => ?_, fun _ raw hraw _ price hprice => ?_⟩
    · obtain rfl : Json.str (js "1299.00") = price := Option.some.inj hprice
      exact ⟨⟨129900, 2⟩, by decide, by decide⟩
    · rcases List.mem_cons.mp hraw with rfl | hraw
      · obtain rfl : Json.str (js "1299.00") = price := Option.some.inj hprice
        exact ⟨⟨129900, 2⟩, by decide, by decide⟩
      · obtain rfl := List.mem_singleton.mp hraw
        obtain rfl : Json.str (js "1399.50") = price := Option.some.inj hprice
        exact ⟨⟨139950, 2⟩, by decide, by decide⟩
  have h := scanned_prices_iff demoUrls id (pricedParse "1299.00") (pricedPage "1299.00") [] pricedFeed
    [] []
  exact ⟨h.1.mpr hpage, (h.2 _ rfl).mpr hfeed⟩

/-- `1,299.00` is scanned as a price of one rupee. -/
theorem grouped_price_misread :
    ¬ PageAsWritten demoUrls id (pricedParse "1,299.00") (pricedPage "1,299.00") [] := by
  intro h
  have hnodes := @productNodes_pricedPage "1,299.00" (by decide +kernel) (by decide)
  have hbuilt : (nodeRecord demoUrls id [] (pricedNode "1,299.00")).isSome = true := by decide
  obtain ⟨record, hrecord⟩ := Option.isSome_iff_exists.mp hbuilt
  obtain ⟨price, hprice, -, d, hd, -⟩ :=
    h.yields _ (hnodes ▸ List.mem_singleton_self _) record hrecord
  obtain rfl : Json.str (js "1,299.00") = price := Option.some.inj hprice
  have hnone : numeral (js "1,299.00") = none := by decide
  exact absurd (hnone.symm.trans hd) (by simp)

end Hundi
