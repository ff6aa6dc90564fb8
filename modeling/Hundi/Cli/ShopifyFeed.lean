/-
  packages/cli/src/scanner.ts — from a page of a Shopify feed to records.

  `new URL` is `urls`.  `none` is a `TypeError`: the code reads a property of a variant that is `null`,
  or `new URL` rejects the page's URL.
-/
import Hundi.Cli.ParsedJson
import Hundi.Cli.SafeFetch
import Hundi.Cli.ShopifyDedupe

namespace Hundi

open Js

/-! ## Texts -/

/-- `raw.replace(HTML_TAG_RE, ' ')`; `inTag` is set between a `<` that has its `>` and that `>`. -/
def replaceTags : Bool → JsString → JsString
  | _, [] => []
  | true, c :: rest => replaceTags (c != 0x3E) rest
  | false, c :: rest =>
    if c == 0x3C && rest.contains 0x3E then 0x20 :: replaceTags true rest
    else c :: replaceTags false rest

/-- `stripHtml(raw)`: what `trim` leaves once each run of white space is one space. -/
def stripHtml (raw : JsString) : JsString :=
  [0x20].intercalate (words (replaceTags false raw))

/-- `truncate(text, maxChars)`. -/
def truncate (text : JsString) (maxChars : Nat) : JsString :=
  if text.length > maxChars then (text.take maxChars).rdropWhile isWhiteSpace ++ [0x2026] else text

example : stripHtml (js "<p>Red\n shoe</p> < 10") = js "Red shoe < 10" := by decide

/-! ## Options and variants -/

/-- `buildScannedOptions(raw)`. -/
def buildScannedOptions (raw : Option Json) : Option (List ScannedOption) :=
  match raw.bind Json.arr? with
  | none => none
  | some entries =>
    let options := entries.filterMap fun entry =>
      (Json.text? (entry.get "name")).map fun name =>
        ⟨name, (((entry.get "values").bind Json.arr?).getD []).filterMap Json.str?⟩
    if options.length > 0 then some options else none

/-- `variantId` of a raw variant. -/
def rawVariantId (variant : Json) : Option JsString :=
  match variant.get "id" with
  | some (.num d) => some (numberToString d)
  | some (.str s) => if s.isEmpty then none else some s
  | _ => none

/-- The body of the loop of `buildScannedVariants`. -/
def buildScannedVariant (variant : Json) : Option ScannedVariant :=
  match rawVariantId variant, toPaise (variant.get "price") with
  | some variantId, some price =>
    let optionValues := [variant.get "option1", variant.get "option2", variant.get "option3"].filterMap
      fun v => v.bind Json.str?
    let label := (Json.text? (variant.get "title")).getD
      (textOr ((js " / ").intercalate optionValues) variantId)
    some
      { variantId := variantId
        label := label
        optionValues := optionValues
        pricePaise := price
        available := match variant.get "available" with
          | some (.bool b) => b
          | _ => false
        sku := Json.text? (variant.get "sku") }
  | _, _ => none

def Json.isNull : Json → Bool
  | .null => true
  | _ => false

/-- `buildScannedVariants(raw)`; the loop throws on a variant that is `null`. -/
def buildScannedVariants (raw : List Json) : Option (Option (List ScannedVariant)) :=
  if raw.any Json.isNull then none
  else
    let variants := raw.filterMap buildScannedVariant
    some (if variants.length > 1 then some variants else none)

/-! ## Records -/

/-- `Array.isArray(node.variants) ? node.variants : []`. -/
def rawVariants (node : Json) : List Json := ((node.get "variants").bind Json.arr?).getD []

/-- `variants[0]`, where it is truthy. -/
def firstVariant (node : Json) : Option Json := (rawVariants node).head?.filter Json.isTruthy

section

variable (urls : UrlParser) (baseUrl merchantId : JsString) (base : Url)

/-- The `url` of a record: the product's own page, if it has a handle. -/
def productUrl : Option JsString → Option JsString
  | some handle => (urls.resolve (js "/products/" ++ handle) base.href).map Url.href
  | none => some baseUrl

/-- The record of a node, once its title, its first variant and the price of that are known; the
    warning, where it has neither handle nor sku. -/
def shopifyRecord (node : Json) (title : JsString) (variant : Json) (pricePaise : Int) :
    Option (Option ScannedProduct × List JsString) :=
  let handle := Json.text? (node.get "handle")
  match handle.or (Json.text? (variant.get "sku")) with
  | none =>
    some (none, [js "shopify product \"" ++ title ++ js "\" has no handle or sku, skipped"])
  | some sku => do
    let scannedVariants ← buildScannedVariants (rawVariants node)
    let url ← productUrl urls baseUrl base handle
    return (some
      { sku := sku
        name := title
        description :=
          match Json.text? (node.get "body_html") with
          | some html => truncate (stripHtml html) 300
          | none => []
        pricePaise := pricePaise
        currency := js "INR"
        availability :=
          match variant.get "available" with
          | some (.bool true) => .in_stock
          | _ => .out_of_stock
        image :=
          ((((node.get "images").bind Json.arr?).getD []).head?.bind fun image =>
            (image.get "src").bind Json.str?).getD []
        brand := (Json.text? (node.get "vendor")).getD merchantId
        url := url
        variants := scannedVariants
        options := scannedVariants.bind fun _ => buildScannedOptions (node.get "options") }, [])

/-- The body of the loop of `extractShopifyProducts`: the record, if there is one, and warnings. -/
def buildShopifyProduct (node : Json) : Option (Option ScannedProduct × List JsString) :=
  if !node.isObject then some (none, [])
  else
    let title := trim (((node.get "title").bind Json.str?).getD [])
    if title.isEmpty then
      some (none, [js "shopify product missing title on " ++ baseUrl ++ js ", skipped"])
    else
      match firstVariant node with
      | none => some (none, [js "shopify product \"" ++ title ++ js "\" has no variants, skipped"])
      | some variant =>
        match toPaise (variant.get "price") with
        | none => some (none, [js "shopify product \"" ++ title ++ js "\" has no usable price, skipped"])
        | some pricePaise =>
          if pricePaise ≤ 0 then
            some (none, [js "shopify product \"" ++ title ++ js "\" has no usable price, skipped"])
          else shopifyRecord urls baseUrl merchantId base node title variant pricePaise

end

/-- `json.products`, where it is an array. -/
def rawProducts (json : Json) : Option (List Json) := (json.get "products").bind Json.arr?

/-- `extractShopifyProducts(json, baseUrl, merchantId)`. -/
def extractShopifyProducts (urls : UrlParser) (json : Json) (baseUrl merchantId : JsString) :
    Option (List ScannedProduct × List JsString) :=
  match rawProducts json with
  | none => some ([], [])
  | some nodes => do
    let base ← urls.parse baseUrl
    let built ← nodes.mapM (buildShopifyProduct urls baseUrl merchantId base)
    return dedupeShopifyProducts (built.filterMap Prod.fst) (built.map Prod.snd).flatten

end Hundi
