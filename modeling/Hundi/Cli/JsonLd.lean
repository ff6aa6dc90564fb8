/-
  packages/cli/src/scanner.ts — the schema.org products on a page.

  `JSON.parse` is `parse`, `new URL` is `urls`, `toLowerCase` is `lower`.  The page's script blocks are
  found as the pattern finds them: the attributes end at the first `>`, the block at the first
  `</script>` behind it.  `none` is a `TypeError` of `new URL` on the page's own URL.
-/
import Hundi.Cli.ParsedJson
import Hundi.Cli.SafeFetch
import Hundi.Cli.ScannedProduct

namespace Hundi

open Js

/-! ## Script blocks -/

/-- What follows `token`, if the text starts with it, in any case; `token` is lower case. -/
def afterToken (token s : JsString) : Option JsString :=
  if asciiLower (s.take token.length) == token then some (s.drop token.length) else none

def isWordChar (c : UInt16) : Bool :=
  isDigit c || (0x41 ≤ c.toNat && c.toNat ≤ 0x5A) || (0x61 ≤ c.toNat && c.toNat ≤ 0x7A) || c == 0x5F

def isQuote (c : UInt16) : Bool := c == 0x22 || c == 0x27

/-- What follows `name`, `=` and a quote, with white space around the `=`. -/
def afterAttribute (name s : JsString) : Option JsString := do
  let s ← afterToken name s
  match s.dropWhile isWhiteSpace with
  | 0x3D :: s =>
    match s.dropWhile isWhiteSpace with
    | c :: s => if isQuote c then some s else none
    | [] => none
  | _ => none

/-- `type="application/ld+json"` stands at the beginning of the text. -/
def isJsonLdType (s : JsString) : Bool :=
  match (afterAttribute (js "type") s).bind (afterToken (js "application/ld+json")) with
  | some (c :: _) => isQuote c
  | _ => false

/-- It stands somewhere in the attributes, not inside a word; `previous` is the character before. -/
def hasJsonLdType (previous : UInt16) : JsString → Bool
  | [] => false
  | c :: rest => (!isWordChar previous && isJsonLdType (c :: rest)) || hasJsonLdType c rest

/-- The text up to the first `</script>`, and what follows that. -/
def upToClosing : JsString → Option (JsString × JsString)
  | [] => none
  | c :: rest =>
    match afterToken (js "</script>") (c :: rest) with
    | some behind => some ([], behind)
    | none => (upToClosing rest).map fun r => (c :: r.1, r.2)

/-- A match of `JSON_LD_BLOCK_RE` at the beginning: the block, and what follows the match. -/
def jsonLdBlockAt (s : JsString) : Option (JsString × JsString) := do
  let s ← afterToken (js "<script") s
  let attributes := s.takeWhile (· != 0x3E)
  match s.dropWhile (· != 0x3E) with
  | _ :: body => if hasJsonLdType 0x74 attributes then upToClosing body else none
  | [] => none

/-- `html.matchAll(JSON_LD_BLOCK_RE)`, the first group of each match.  Each step takes at least one
    character, so `fuel` is the text's length. -/
def jsonLdBlocksIn : Nat → JsString → List JsString
  | 0, _ => []
  | _ + 1, [] => []
  | fuel + 1, c :: rest =>
    match jsonLdBlockAt (c :: rest) with
    | some (block, behind) => block :: jsonLdBlocksIn fuel behind
    | none => jsonLdBlocksIn fuel rest

def jsonLdBlocks (html : JsString) : List JsString := jsonLdBlocksIn html.length html

example : jsonLdBlocks (js "<p><script id=a type='application/LD+json'>{1}</SCRIPT><script>2</script>")
    = [js "\x7b1\x7d"] := by decide

/-! ## Product nodes -/

/-- `isProductType(type)`. -/
def isProductType : Option Json → Bool
  | some (.str s) => s == js "Product"
  | some (.arr elems) => elems.any fun e => e.str? == some (js "Product")
  | _ => false

mutual

/-- `collectProductNodes(root)`. -/
def collectProductNodes : Json → List Json
  | .arr elems => collectElems elems
  | .obj members =>
    (if isProductType ((Json.obj members).get "@type") then [.obj members] else []) ++
      collectGraph members
  | _ => []

def collectElems : List Json → List Json
  | [] => []
  | v :: vs => collectProductNodes v ++ collectElems vs

/-- The nodes in the member `@graph`, if that is an array. -/
def collectGraph : List (JsString × Json) → List Json
  | [] => []
  | (key, v) :: members =>
    if key = js "@graph" then
      match v with
      | .arr elems => collectElems elems
      | _ => []
    else collectGraph members

end

/-- `pickOffer(raw)`. -/
def pickOffer : Option Json → Option Json
  | some (.arr candidates) => candidates.find? Json.isObject
  | some raw => if raw.isObject then some raw else none
  | none => none

/-- `a ?? b`. -/
def nullishOr (a b : Option Json) : Option Json :=
  match a with
  | none => b
  | some .null => b
  | some v => some v

/-- `normalizeSku(node)`. -/
def normalizeSku (node : Json) : Option JsString :=
  Json.text? (nullishOr (nullishOr (node.get "sku") (node.get "productID")) (node.get "mpn"))

/-- `normalizeBrand(raw)`. -/
def normalizeBrand : Option Json → JsString
  | some (.str s) => s
  | some raw => ((raw.get "name").bind Json.str?).getD []
  | none => []

/-- `text.replace(/[^a-z0-9]+/g, '-')`; `inRun` is set inside a run that has its dash. -/
def dashRuns : Bool → JsString → JsString
  | _, [] => []
  | inRun, c :: rest =>
    if isDigit c || (0x61 ≤ c.toNat && c.toNat ≤ 0x7A) then c :: dashRuns false rest
    else if inRun then dashRuns true rest
    else 0x2D :: dashRuns true rest

/-- `text.replace(/(^-|-$)/g, '')`. -/
def trimDashes (text : JsString) : JsString :=
  let text := if text.head? = some 0x2D then text.drop 1 else text
  if text.getLast? = some 0x2D then text.dropLast else text

section

variable (urls : UrlParser) (lower : JsString → JsString)

/-- `mapAvailability(raw)`. -/
def mapAvailability (raw : Option Json) : Availability :=
  let value := lower ((raw.bind Json.str?).getD [])
  if [js "outofstock", js "soldout", js "discontinued", js "backorder"].any fun marker =>
      decide (marker <:+: value) then .out_of_stock
  else .in_stock

/-- `deriveSkuFromUrl(url)`. -/
def deriveSkuFromUrl (url : JsString) : Option JsString := do
  let parsed ← urls.parse url
  let segments := (parsed.pathname.splitOn 0x2F).filter fun s => !s.isEmpty
  let slug := trimDashes (dashRuns false (lower (segments.getLast?.getD (js "product"))))
  return if slug.isEmpty then js "product" else slug

/-- `normalizeImage(raw, baseUrl, name, warnings)`: the image and the warnings it adds. -/
def normalizeImage (raw : Option Json) (baseUrl name : JsString) : JsString × List JsString :=
  let candidate : Option JsString :=
    match raw with
    | some (.str s) => some s
    | some (.arr elems) => elems.findSome? Json.str?
    | some raw => (raw.get "url").bind Json.str?
    | none => none
  match candidate.filter fun s => !s.isEmpty with
  | none => ([], [])
  | some candidate =>
    match urls.resolve candidate baseUrl with
    | none => (candidate, [])
    | some resolved =>
      if (afterToken (js "http://") candidate).isSome || (afterToken (js "https://") candidate).isSome
      then (resolved.href, [])
      else (resolved.href, [js "normalized relative image URL for \"" ++ name ++ js "\": " ++ candidate ++
        js " -> " ++ resolved.href])

/-- `node.name`, where it is a string that is not empty. -/
def nodeName (node : Json) : Option JsString := Json.text? (node.get "name")

/-- `offer ? toPaise(offer.price) : undefined`. -/
def nodePrice (node : Json) : Option Int :=
  match pickOffer (node.get "offers") with
  | some offer => toPaise (offer.get "price")
  | none => none

/-- The sku of a node called `name`, derived from the page's URL if it has none, and the warning then. -/
def skuOf (node : Json) (baseUrl name : JsString) : Option (JsString × List JsString) :=
  match normalizeSku node with
  | some sku => some (sku, [])
  | none => (deriveSkuFromUrl urls lower baseUrl).map fun sku =>
    (sku, [js "missing sku for \"" ++ name ++ js "\", derived \"" ++ sku ++ js "\" from URL"])

/-- `buildProduct(node, baseUrl, warnings)`: the record, if there is one, and the warnings it adds. -/
def buildProduct (node : Json) (baseUrl : JsString) : Option (Option ScannedProduct × List JsString) :=
  match nodeName node with
  | none => some (none, [js "product missing name on " ++ baseUrl ++ js ", skipped"])
  | some name =>
    match nodePrice node with
    | none =>
      some (none, [js "missing price for \"" ++ name ++ js "\" on " ++ baseUrl ++ js ", skipped"])
    | some pricePaise => do
      let (sku, skuWarnings) ← skuOf urls lower node baseUrl name
      let offer := pickOffer (node.get "offers")
      let currency := (offer.bind fun offer => offer.get "priceCurrency").bind Json.str?
      let currencyWarnings :=
        if (currency.getD []).isEmpty then
          [js "missing priceCurrency for \"" ++ name ++ js "\", defaulting to INR"]
        else []
      let (image, imageWarnings) := normalizeImage urls (node.get "image") baseUrl name
      return (some
        { sku := sku
          name := name
          description := ((node.get "description").bind Json.str?).getD []
          pricePaise := pricePaise
          currency := currency.getD (js "INR")
          availability := mapAvailability lower (offer.bind fun offer => offer.get "availability")
          image := image
          brand := normalizeBrand (node.get "brand")
          url := baseUrl
          variants := none
          options := none }, skuWarnings ++ currencyWarnings ++ imageWarnings)

variable (parse : JsString → Option Json)

/-- The values in the blocks of a page. -/
def pageValues (html : JsString) : List Json :=
  (jsonLdBlocks html).filterMap fun raw => parse (trim raw)

/-- The `Product` nodes of a page. -/
def productNodes (html : JsString) : List Json :=
  ((pageValues parse html).map collectProductNodes).flatten

/-- One turn of the loop of `extractProducts`. -/
def extractBlock (baseUrl raw : JsString) : Option (List ScannedProduct × List JsString) :=
  match parse (trim raw) with
  | none => some ([], [js "malformed JSON-LD block on " ++ baseUrl])
  | some parsed => do
    let built ← (collectProductNodes parsed).mapM fun node => buildProduct urls lower node baseUrl
    return (built.filterMap Prod.fst, (built.map Prod.snd).flatten)

/-- `extractProducts(html, baseUrl)`. -/
def extractProducts (html baseUrl : JsString) : Option (List ScannedProduct × List JsString) :=
  let blocks := jsonLdBlocks html
  if blocks.isEmpty then some ([], [js "no JSON-LD found on " ++ baseUrl])
  else do
    let extracted ← blocks.mapM (extractBlock urls lower parse baseUrl)
    let products := (extracted.map Prod.fst).flatten
    let warnings := (extracted.map Prod.snd).flatten
    return (products,
      if products.isEmpty then warnings ++ [js "no products found in JSON-LD on " ++ baseUrl]
      else warnings)

end

end Hundi
