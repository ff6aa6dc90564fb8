/-
  packages/cli/src/scanner.ts — reading a Shopify feed page by page.

  `load` gives the body of a URL, if it loads.  `none` is a `TypeError` out of `extractShopifyProducts`,
  which nothing on the way catches.

  `readPages` says which pages a scan reads that goes on while it has not enough; `collectPages_eq` says
  that the plain scan's loop collects those of `plainPages`.
-/
import Hundi.Cli.ShopifyFeed

namespace Hundi

open Js

/-! ## One page -/

/-- What a page of the feed is good for: nothing, the throw, or its products and whether it is full. -/
inductive FeedRead where
  | stop
  | threw
  | page (full : Bool) (products : List ScannedProduct) (warnings : List JsString)

def shopifyPaths : List JsString := [js "/products.json", js "/collections/all/products.json"]

/-- `${origin}${path}?limit=${SHOPIFY_PRODUCTS_JSON_LIMIT}&page=${page}`. -/
def feedPageUrl (origin path : JsString) (page : Nat) : JsString :=
  origin ++ path ++ js "?limit=250&page=" ++ decimal page

section

variable (urls : UrlParser) (parse : JsString → Option Json) (merchantId : JsString)

/-- A page, from the text of its body. -/
def readFeedText (pageUrl text : JsString) : FeedRead :=
  match parse text with
  | none => .stop
  | some parsed =>
    match rawProducts parsed with
    | none => .stop
    | some nodes =>
      if nodes.length = 0 then .stop
      else
        match extractShopifyProducts urls parsed pageUrl merchantId with
        | none => .threw
        | some (products, warnings) => .page (nodes.length ≥ 250) products warnings

variable (load : JsString → Option JsString) (origin path : JsString)

/-- A page of the plain scan. -/
def readFeedPage (page : Nat) : FeedRead :=
  match load (feedPageUrl origin path page) with
  | none => .stop
  | some text => readFeedText urls parse merchantId (feedPageUrl origin path page) text

end

/-! ## The loop over the pages -/

/-- What the loop over the pages has: the products, whether a page was usable, and the warnings. -/
structure Collected where
  products : List ScannedProduct
  sawUsablePage : Bool
  warnings : List JsString

/-- The loop over the pages of one path, `left` pages before its end. -/
def collectPages (read : Nat → FeedRead) : Nat → Nat → Collected → Option Collected
  | 0, _, c => some c
  | left + 1, page, c =>
    match read page with
    | .stop => some c
    | .threw => none
    | .page full products warnings =>
      let c : Collected := ⟨c.products ++ products, true, c.warnings ++ warnings⟩
      if !full || c.products.length ≥ 500 then some c else collectPages read left (page + 1) c

/-- The warnings with those of `more` that are not among them. -/
def addNewWarnings (warnings more : List JsString) : List JsString :=
  more.foldl (fun ws w => if ws.contains w then ws else ws ++ [w]) warnings

/-- The loop over the paths: the products of the first that gives some, and the warnings. -/
def fetchShopifyPaths (read : JsString → Nat → FeedRead) :
    List JsString → List JsString → Option (List ScannedProduct × List JsString)
  | [], warnings => some ([], warnings)
  | path :: paths, warnings =>
    match collectPages (read path) 3 1 ⟨[], false, warnings⟩ with
    | none => none
    | some c =>
      if c.sawUsablePage && c.products.length > 0 then
        let (products, crossPageWarnings) := dedupeShopifyProducts c.products []
        let warnings := addNewWarnings c.warnings crossPageWarnings
        if products.length > 0 then some (products.take 500, warnings)
        else fetchShopifyPaths read paths warnings
      else fetchShopifyPaths read paths c.warnings

/-- `fetchShopifyProductsJson(origin, merchantId, fetchOptions, warnings)`. -/
def fetchShopifyProductsJson (urls : UrlParser) (parse : JsString → Option Json)
    (load : JsString → Option JsString) (origin merchantId : JsString) (warnings : List JsString) :
    Option (List ScannedProduct × List JsString) :=
  fetchShopifyPaths (readFeedPage urls parse merchantId load origin) shopifyPaths warnings

/-! ## The pages that are read -/

/-- The products of the pages that a scan reads which goes on while `more` says so. -/
def readPages (more : List (List ScannedProduct) → Bool) (read : Nat → FeedRead) :
    Nat → Nat → List (List ScannedProduct) → Option (List (List ScannedProduct))
  | 0, _, pages => some pages
  | left + 1, page, pages =>
    match read page with
    | .stop => some pages
    | .threw => none
    | .page full products _ =>
      if full && more (pages ++ [products]) then
        readPages more read left (page + 1) (pages ++ [products])
      else some (pages ++ [products])

/-- The plain scan goes on while its pages list fewer than 500 products. -/
def plainMore (pages : List (List ScannedProduct)) : Bool := pages.flatten.length < 500

/-- The pages that the plain scan reads. -/
def plainPages (read : Nat → FeedRead) : Option (List (List ScannedProduct)) :=
  readPages plainMore read 3 1 []

theorem stop_or_more (full : Bool) (n : Nat) :
    (!full || decide (n ≥ 500)) = !(full && decide (n < 500)) := by
  rw [Bool.not_and, ← decide_not]
  congr 1
  exact decide_eq_decide.mpr Nat.not_lt.symm

theorem collectPages_eq {read : Nat → FeedRead} (left : Nat) :
    ∀ {page : Nat} {pages : List (List ScannedProduct)} {c : Collected}, c.products = pages.flatten →
      (pages ≠ [] → c.sawUsablePage = true) →
      match collectPages read left page c with
      | none => readPages plainMore read left page pages = none
      | some c' => ∃ pages', readPages plainMore read left page pages = some pages' ∧
        c'.products = pages'.flatten ∧ (pages' ≠ [] → c'.sawUsablePage = true) := by
  induction left with
  | zero => exact fun hc hsaw => ⟨_, rfl, hc, hsaw⟩
  | succ left ih =>
    intro page pages c hc hsaw
    rw [collectPages, readPages]
    cases hread : read page with
    | stop => exact ⟨pages, rfl, hc, hsaw⟩
    | threw => rfl
    | page full products warnings =>
      have hproducts : c.products ++ products = (pages ++ [products]).flatten := by
        rw [hc, List.flatten_append, List.flatten_cons, List.flatten_nil, List.append_nil]
      dsimp only
      rw [plainMore, ← hproducts, stop_or_more]
      cases full && decide ((c.products ++ products).length < 500) with
      | true => exact ih hproducts fun _ => rfl
      | false => exact ⟨_, rfl, hproducts, fun _ => rfl⟩

/-! ## A shop -/

/-- An address of the shop, in its normal form. -/
def shopUrl (pathname : JsString) : Url :=
  let href := js "https://shop.example" ++ pathname
  ⟨href, js "https:", js "shop.example", js "https://shop.example", pathname, href⟩

/-- `new URL`, on such addresses and their paths. -/
def shopUrls : UrlParser where
  parse url := if (js "https://shop.example").isPrefixOf url then some (shopUrl (url.drop 20)) else none
  resolve pathname _ := some (shopUrl pathname)

end Hundi
