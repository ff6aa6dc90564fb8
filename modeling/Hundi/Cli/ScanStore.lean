/-
  packages/cli/src/scanner.ts — `scanStore`, from the start page to the catalog.

  `load` is `safeFetch`: it says of each fetch of the run what it gives or what the error says.  A scan
  fetches the start page once and no link and no page of the feed twice.  `none` is a scan that rejects.

    scanned_products     what the map has in the end
    standing_iff         it is built from the nodes that are not displaced
    scan_drops_none_iff  when every node that gives a record is represented

  A record of the start page is overwritten by the next one with its sku, and one of a linked page is
  hidden by any that came before; nothing is reported of either.  Nodes without a sku get that of their
  page's last path segment, so there it happens to different products.
-/
import Hundi.Cli.ScannedPrices
import Hundi.Cli.ShopifyScan

namespace Hundi

open Js

/-! ## Links -/

/-- `href`, `=` and a quoted value stand at the beginning, and a `>` behind them: the value, and what
    follows the `>`. -/
def hrefAt (s : JsString) : Option (JsString × JsString) := do
  let s ← afterAttribute (js "href") s
  let value := s.takeWhile fun c => !isQuote c
  match (s.dropWhile fun c => !isQuote c).dropWhile (· != 0x3E) with
  | _ :: behind => if value.isEmpty then none else some (value, behind)
  | [] => none

/-- The last `href` before the first `>` that is not inside a word; `previous` is the character
    before. -/
def lastHref (previous : UInt16) : JsString → Option (JsString × JsString)
  | [] => none
  | c :: rest =>
    if c == 0x3E then none
    else
      match lastHref c rest with
      | some found => some found
      | none => if isWordChar previous then none else hrefAt (c :: rest)

/-- A match of `ANCHOR_HREF_RE` at the beginning: the first group, and what follows the match. -/
def anchorAt (s : JsString) : Option (JsString × JsString) := do
  let s ← afterToken (js "<a") s
  match s with
  | c :: _ => if isWordChar c then none else lastHref 0x61 s
  | [] => none

/-- `html.matchAll(ANCHOR_HREF_RE)`, the first group of each match.  Each step takes at least one
    character, so `fuel` is the text's length. -/
def anchorHrefsIn : Nat → JsString → List JsString
  | 0, _ => []
  | _ + 1, [] => []
  | fuel + 1, c :: rest =>
    match anchorAt (c :: rest) with
    | some (href, behind) => href :: anchorHrefsIn fuel behind
    | none => anchorHrefsIn fuel rest

def anchorHrefs (html : JsString) : List JsString := anchorHrefsIn html.length html

example : anchorHrefs (js "<a class=b data-x HREF = '/one'>1</a><abbr href='/two'><a xhref='/three'>")
    = [js "/one"] := by decide

/-- `NON_PRODUCT_PATH_RE.test(pathname)`. -/
def isNonProductPath (pathname : JsString) : Bool :=
  [js "/cart", js "/checkout", js "/account"].any fun route =>
    match afterToken route pathname with
    | some [] => true
    | some (c :: _) => c == 0x2F
    | none => false

section

variable (urls : UrlParser)

/-- One turn of the loop over the anchors; the state is `seen` and `links`. -/
def addLink (base : Url) (state : List JsString × List JsString) (href : JsString) :
    List JsString × List JsString :=
  match urls.resolve href base.href with
  | none => state
  | some resolved =>
    if resolved.protocol != js "http:" && resolved.protocol != js "https:" then state
    else if resolved.origin != base.origin then state
    else if isNonProductPath resolved.pathname then state
    else if state.1.contains resolved.withoutHash then state
    else (state.1 ++ [resolved.withoutHash], state.2 ++ [resolved.withoutHash])

/-- `extractLinks(html, baseUrl)`. -/
def extractLinks (html baseUrl : JsString) : Option (List JsString) := do
  let base ← urls.parse baseUrl
  return ((anchorHrefs html).foldl (addLink urls base) ([base.href], [])).2

end

/-! ## The code -/

/-- What a scan fetches. -/
inductive Fetch where
  | start | link | feed
  deriving DecidableEq

/-- `if (!bySku.has(product.sku)) bySku.set(product.sku, product)`. -/
def addIfNew (bySku : JsMap JsString ScannedProduct) (product : ScannedProduct) :
    JsMap JsString ScannedProduct :=
  if (bySku.get? product.sku).isSome then bySku else bySku.set product.sku product

/-- `bySku.set(product.sku, product)`. -/
def setProduct (bySku : JsMap JsString ScannedProduct) (product : ScannedProduct) :
    JsMap JsString ScannedProduct :=
  bySku.set product.sku product

section

variable (urls : UrlParser) (lower : JsString → JsString) (parse : JsString → Option Json)
  (load : Fetch → JsString → Except JsString SafeFetchResult)

/-- `deriveMerchantId(url)`. -/
def deriveMerchantId (url : JsString) : Option JsString := do
  let parsed ← urls.parse url
  let hostname := lower parsed.hostname
  let hostname := if (js "www.").isPrefixOf hostname then hostname.drop 4 else hostname
  let id := trimDashes (dashRuns false hostname)
  return if id.isEmpty then js "merchant" else id

/-- One turn of the loop over the links; the state is `bySku` and `warnings`. -/
def scanLink (state : JsMap JsString ScannedProduct × List JsString) (link : JsString) :
    Option (JsMap JsString ScannedProduct × List JsString) :=
  match load .link link with
  | .error message =>
    some (state.1, state.2 ++ [js "failed to fetch " ++ link ++ js ": " ++ message])
  | .ok page => do
    let (products, warnings) ← extractProducts urls lower parse page.text link
    return (products.foldl addIfNew state.1,
      state.2 ++ warnings.filter fun w => !(js "no JSON-LD found").isPrefixOf w)

/-- The body of a page of the feed. -/
def loadFeed (url : JsString) : Option JsString :=
  match load .feed url with
  | .ok page => some page.text
  | .error _ => none

/-- The end of `scanStore`, for a map that is empty. -/
def scanFeed (finalUrl merchantId : JsString) (warnings : List JsString) : Option ScanResult := do
  let final ← urls.parse finalUrl
  let (shopifyProducts, warnings) ←
    fetchShopifyProductsJson urls parse (loadFeed load) final.origin merchantId warnings
  return if shopifyProducts.length > 0 then
      ⟨merchantId, (shopifyProducts.foldl setProduct .empty).values,
        warnings ++ [js ("used Shopify products.json fallback: " ++ toString shopifyProducts.length ++
          " products (no schema.org JSON-LD found)")]⟩
    else ⟨merchantId, [], warnings⟩

/-- `scanStore(url, options)`. -/
def scanStore (url : JsString) (maxProductPages : Option Nat) : Option ScanResult :=
  match load .start url with
  | .error _ => none
  | .ok start => do
    let (direct, warnings) ← extractProducts urls lower parse start.text start.finalUrl
    let links ← extractLinks urls start.text start.finalUrl
    let (bySku, warnings) ← (links.take (maxProductPages.getD 25)).foldlM
      (scanLink urls lower parse load) (direct.foldl setProduct .empty, warnings)
    let merchantId ← deriveMerchantId urls lower start.finalUrl
    if bySku.keys.isEmpty then scanFeed urls parse load start.finalUrl merchantId warnings
    else return ⟨merchantId, bySku.values, warnings⟩

end

/-! ## What stands in the end -/

/-- A page that was read, with the URL its products get. -/
structure Page where
  html : JsString
  url : JsString
  deriving DecidableEq

section

variable (urls : UrlParser) (lower : JsString → JsString) (parse : JsString → Option Json)
  (load : Fetch → JsString → Except JsString SafeFetchResult)

/-- The page behind a link, if it loads. -/
def linkedPage (link : JsString) : Option Page :=
  match load .link link with
  | .ok page => some ⟨page.text, link⟩
  | .error _ => none

/-- The pages that a scan reads: the start page, and the linked ones. -/
def pagesRead (url : JsString) (maxProductPages : Option Nat) : List Page × List Page :=
  match load .start url with
  | .error _ => ([], [])
  | .ok start =>
    ([⟨start.text, start.finalUrl⟩],
      (((extractLinks urls start.text start.finalUrl).getD []).take
        (maxProductPages.getD 25)).filterMap (linkedPage load))

/-- The `Product` nodes of these pages, each with its page's URL. -/
def nodesOn (pages : List Page) : List (Json × JsString) :=
  (pages.map fun page => (productNodes parse page.html).map fun node => (node, page.url)).flatten

/-- The records of these pages. -/
def recordsOn (pages : List Page) : List ScannedProduct :=
  (nodesOn parse pages).filterMap fun node => nodeRecord urls lower node.2 node.1

/-- The record that the map has under a sku in the end: the last of the start page, or else the first of
    the linked pages. -/
def standing (start linked : List ScannedProduct) (sku : JsString) : Option ScannedProduct :=
  ((start.filter fun r => r.sku = sku).getLast?).or ((linked.filter fun r => r.sku = sku).head?)

/-- `record` is built from the node at `i`. -/
def BuiltAt (nodes : List (Json × JsString)) (i : Nat) (record : ScannedProduct) : Prop :=
  ∃ node, nodes[i]? = some node ∧ nodeRecord urls lower node.2 node.1 = some record

/-- The node at `i` has a sku of its own that another node has too. -/
def SharesSku (nodes : List (Json × JsString)) (i : Nat) : Prop :=
  ∃ node other j sku, nodes[i]? = some node ∧ j ≠ i ∧ nodes[j]? = some other ∧
    normalizeSku node.1 = some sku ∧ normalizeSku other.1 = some sku

/-- A record with the sku of the node at `i` takes its place.  On the start page, where the first `n`
    nodes are, it is that of a later node there; on a linked page, that of any earlier node. -/
def Displaced (nodes : List (Json × JsString)) (n i : Nat) : Prop :=
  ∃ j record other, BuiltAt urls lower nodes i record ∧ BuiltAt urls lower nodes j other ∧
    other.sku = record.sku ∧ if i < n then i < j ∧ j < n else j < i

/-- Each node that gives a record, unless it shares its sku, is represented among the products: by one
    with its name and price. -/
def EachRepresented (nodes : List (Json × JsString)) (products : List ScannedProduct) : Prop :=
  ∀ i record, BuiltAt urls lower nodes i record → ¬ SharesSku nodes i →
    ∃ p ∈ products, p.name = record.name ∧ p.pricePaise = record.pricePaise

/-- Each node that is displaced, unless it shares its sku, has the name and price of one that is not. -/
def DisplacedHasTwin (nodes : List (Json × JsString)) (n : Nat) : Prop :=
  ∀ i record, BuiltAt urls lower nodes i record → Displaced urls lower nodes n i → ¬ SharesSku nodes i →
    ∃ k twin, BuiltAt urls lower nodes k twin ∧ ¬ Displaced urls lower nodes n k ∧
      twin.name = record.name ∧ twin.pricePaise = record.pricePaise

end

section

variable {urls : UrlParser} {lower : JsString → JsString} {parse : JsString → Option Json}
  {load : Fetch → JsString → Except JsString SafeFetchResult}

theorem get?_foldl_setProduct (records : List ScannedProduct) (sku : JsString) :
    (records.foldl setProduct .empty).get? sku = (records.filter fun r => r.sku = sku).getLast? := by
  show (JsMap.collect ScannedProduct.sku (fun _ r => r) .empty records).get? sku = _
  rw [JsMap.get?_collect, foldl_last, JsMap.get?_empty, Option.or_none]

theorem get?_addIfNew (bySku : JsMap JsString ScannedProduct) (product : ScannedProduct)
    (sku : JsString) :
    (addIfNew bySku product).get? sku =
      (bySku.get? sku).or (if product.sku = sku then some product else none) := by
  rw [addIfNew]
  by_cases hsku : product.sku = sku
  · subst hsku
    rw [if_pos rfl]
    cases hold : bySku.get? product.sku with
    | some old =>
      rw [Option.isSome_some, if_pos rfl, hold]
      rfl
    | none =>
      rw [Option.isSome_none, if_neg Bool.false_ne_true, JsMap.get?_set, if_pos rfl]
      rfl
  · rw [if_neg hsku, Option.or_none]
    split
    · rfl
    · rw [JsMap.get?_set, if_neg (Ne.symm hsku)]

theorem get?_foldl_addIfNew (records : List ScannedProduct) (bySku : JsMap JsString ScannedProduct)
    (sku : JsString) :
    (records.foldl addIfNew bySku).get? sku =
      (bySku.get? sku).or ((records.filter fun r => r.sku = sku).head?) := by
  induction records generalizing bySku with
  | nil => exact (Option.or_none).symm
  | cons r records ih =>
    rw [List.foldl_cons, ih, get?_addIfNew, Option.or_assoc]
    by_cases hsku : r.sku = sku
    · rw [if_pos hsku, List.filter_cons_of_pos (by simpa using hsku), List.head?_cons, Option.some_or]
    · rw [if_neg hsku, List.filter_cons_of_neg (by simpa using hsku), Option.none_or]

/-- The products of one page are its records. -/
theorem extractProducts_records {page : Page} {products : List ScannedProduct} {warnings : List JsString}
    (h : extractProducts urls lower parse page.html page.url = some (products, warnings)) :
    products = recordsOn urls lower parse [page] := by
  rw [extractProducts_some h, recordsOn, nodesOn, List.map_singleton, List.flatten_singleton,
    List.filterMap_map]
  rfl

theorem recordsOn_cons (page : Page) (pages : List Page) :
    recordsOn urls lower parse (page :: pages) =
      recordsOn urls lower parse [page] ++ recordsOn urls lower parse pages := by
  rw [recordsOn, nodesOn, List.map_cons, List.flatten_cons, List.filterMap_append, recordsOn, nodesOn,
    List.map_singleton, List.flatten_singleton]
  rfl

/-- **The loop over the links** adds the records of the linked pages that are new. -/
theorem foldlM_scanLink (links : List JsString) {state state' : JsMap JsString ScannedProduct × List JsString}
    (h : links.foldlM (scanLink urls lower parse load) state = some state') :
    state'.1 = (recordsOn urls lower parse (links.filterMap (linkedPage load))).foldl addIfNew state.1 := by
  induction links generalizing state with
  | nil =>
    obtain rfl := Option.some.inj h
    rfl
  | cons link links ih =>
    rw [List.foldlM_cons] at h
    obtain ⟨next, hnext, hrest⟩ := Option.bind_eq_some_iff.mp h
    rw [ih hrest]
    rw [scanLink] at hnext
    cases hload : load .link link with
    | error message =>
      rw [hload] at hnext
      obtain rfl := Option.some.inj hnext
      rw [List.filterMap_cons_none (by rw [linkedPage, hload])]
    | ok page =>
      rw [hload] at hnext
      obtain ⟨⟨products, warnings⟩, hextract, heq⟩ := Option.bind_eq_some_iff.mp hnext
      obtain rfl := Option.some.inj heq
      have hrecords := @extractProducts_records urls lower parse ⟨page.text, link⟩ _ _ hextract
      rw [List.filterMap_cons_some (by rw [linkedPage, hload]), recordsOn_cons, List.foldl_append,
        ← hrecords]

/-- **What a scan returns**, unless its pages give no record: the records that stand. -/
theorem scanned_products {url : JsString} {maxProductPages : Option Nat} {result : ScanResult}
    (h : scanStore urls lower parse load url maxProductPages = some result) :
    let pages := pagesRead urls load url maxProductPages
    let start := recordsOn urls lower parse pages.1
    let linked := recordsOn urls lower parse pages.2
    start ++ linked = [] ∨ ∀ p, p ∈ result.products ↔ ∃ sku, standing start linked sku = some p := by
  intro pages start linked
  rw [scanStore] at h
  cases hstart : load .start url with
  | error message =>
    rw [hstart] at h
    exact absurd h (by simp)
  | ok page =>
    rw [hstart] at h
    obtain ⟨⟨direct, warnings⟩, hdirect, h⟩ := Option.bind_eq_some_iff.mp h
    obtain ⟨links, hlinks, h⟩ := Option.bind_eq_some_iff.mp h
    obtain ⟨⟨bySku, warnings'⟩, hloop, h⟩ := Option.bind_eq_some_iff.mp h
    obtain ⟨merchantId, -, h⟩ := Option.bind_eq_some_iff.mp h
    have hpages : pages = ([⟨page.text, page.finalUrl⟩],
        (links.take (maxProductPages.getD 25)).filterMap (linkedPage load)) := by
      show pagesRead urls load url maxProductPages = _
      rw [pagesRead, hstart]
      dsimp only
      rw [hlinks, Option.getD_some]
    have hrecords : direct = start := by
      show direct = recordsOn urls lower parse pages.1
      rw [hpages]
      exact @extractProducts_records urls lower parse ⟨page.text, page.finalUrl⟩ _ _ hdirect
    have hmap : bySku = linked.foldl addIfNew (direct.foldl setProduct .empty) := by
      show bySku = (recordsOn urls lower parse pages.2).foldl _ _
      rw [hpages]
      exact foldlM_scanLink _ hloop
    have hget : ∀ sku, bySku.get? sku = standing start linked sku := by
      intro sku
      rw [hmap, get?_foldl_addIfNew, get?_foldl_setProduct, hrecords, standing]
    by_cases hempty : bySku.keys.isEmpty = true
    · left
      by_contra hne
      obtain ⟨r, hr⟩ := List.exists_mem_of_ne_nil _ hne
      have hnone := hget r.sku
      have hkeys : bySku.get? r.sku = none := by
        rw [← Option.not_isSome_iff_eq_none, JsMap.get?_isSome, List.isEmpty_iff.mp hempty]
        exact List.not_mem_nil
      rw [hkeys, standing, eq_comm, Option.or_eq_none_iff, List.getLast?_eq_none_iff,
        List.head?_eq_none_iff, List.filter_eq_nil_iff, List.filter_eq_nil_iff] at hnone
      rcases List.mem_append.mp hr with hr | hr
      · exact hnone.1 r hr (by simp)
      · exact hnone.2 r hr (by simp)
    · right
      intro p
      rw [if_neg hempty] at h
      obtain rfl := Option.some.inj h
      rw [JsMap.mem_values]
      exact exists_congr fun sku => by rw [hget]

end

/-! ## Places -/

theorem head?_filterMap_iff {α β : Type} {f : α → Option β} {xs : List α} {b : β} :
    (xs.filterMap f).head? = some b ↔
      ∃ (i : Nat) (x : α), xs[i]? = some x ∧ f x = some b ∧ ∀ (j : Nat) y, j < i → xs[j]? = some y → f y = none := by
  induction xs with
  | nil => simp
  | cons x xs ih =>
    cases hx : f x with
    | some a =>
      rw [List.filterMap_cons_some hx, List.head?_cons]
      constructor
      · rintro h
        exact ⟨0, x, rfl, hx.trans h, fun j y hj => absurd hj (Nat.not_lt_zero j)⟩
      · rintro ⟨i, y, hi, hy, hfirst⟩
        cases i with
        | zero =>
          obtain rfl := Option.some.inj hi
          exact hx.symm.trans hy
        | succ i => exact absurd (hx.symm.trans (hfirst 0 x (Nat.succ_pos i) rfl)) (by simp)
    | none =>
      rw [List.filterMap_cons_none hx, ih]
      constructor
      · rintro ⟨i, y, hi, hy, hfirst⟩
        refine ⟨i + 1, y, hi, hy, fun j z hj hz => ?_⟩
        cases j with
        | zero =>
          obtain rfl := Option.some.inj hz
          exact hx
        | succ j => exact hfirst j z (Nat.lt_of_succ_lt_succ hj) hz
      · rintro ⟨i, y, hi, hy, hfirst⟩
        cases i with
        | zero =>
          obtain rfl := Option.some.inj hi
          exact absurd (hx.symm.trans hy) (by simp)
        | succ i => exact ⟨i, y, hi, hy, fun j z hj hz => hfirst (j + 1) z (Nat.succ_lt_succ hj) hz⟩

theorem getLast?_filterMap_iff {α β : Type} {f : α → Option β} {xs : List α} {b : β} :
    (xs.filterMap f).getLast? = some b ↔
      ∃ (i : Nat) (x : α), xs[i]? = some x ∧ f x = some b ∧ ∀ (j : Nat) y, i < j → xs[j]? = some y → f y = none := by
  induction xs with
  | nil => simp
  | cons x xs ih =>
    have htail : (∃ i y, (x :: xs)[i + 1]? = some y ∧ f y = some b ∧
        ∀ j z, i + 1 < j → (x :: xs)[j]? = some z → f z = none) ↔ (xs.filterMap f).getLast? = some b := by
      rw [ih]
      refine exists_congr fun i => exists_congr fun y => and_congr_right fun _ => and_congr_right fun _ => ?_
      constructor
      · exact fun h j z hj hz => h (j + 1) z (Nat.succ_lt_succ hj) hz
      · intro h j z hj hz
        cases j with
        | zero => exact absurd hj (Nat.not_lt_zero _)
        | succ j => exact h j z (Nat.lt_of_succ_lt_succ hj) hz
    have hlast : ((x :: xs).filterMap f).getLast? = ((xs.filterMap f).getLast?).or (f x) := by
      cases hx : f x with
      | some a =>
        rw [List.filterMap_cons_some hx, List.getLast?_cons]
        cases (xs.filterMap f).getLast? <;> rfl
      | none => rw [List.filterMap_cons_none hx, Option.or_none]
    rw [hlast, Option.or_eq_some_iff, ← htail]
    constructor
    · rintro (⟨i, h⟩ | ⟨hnone, hx⟩)
      · exact ⟨i + 1, h⟩
      · refine ⟨0, x, rfl, hx, fun j z hj hz => ?_⟩
        cases j with
        | zero => exact absurd hj (Nat.not_lt_zero _)
        | succ j =>
          rw [List.getLast?_eq_none_iff, List.filterMap_eq_nil_iff] at hnone
          exact hnone z (List.mem_of_getElem? hz)
    · rintro ⟨i, y, hi, hy, hafter⟩
      cases i with
      | zero =>
        obtain rfl := Option.some.inj hi
        refine .inr ⟨?_, hy⟩
        rw [List.getLast?_eq_none_iff, List.filterMap_eq_nil_iff]
        intro z hz
        obtain ⟨j, hj⟩ := List.getElem?_of_mem hz
        exact hafter (j + 1) z (Nat.succ_pos j) hj
      | succ i => exact .inl ⟨i, y, hi, hy, hafter⟩

section

variable {urls : UrlParser} {lower : JsString → JsString} {parse : JsString → Option Json}
  {load : Fetch → JsString → Except JsString SafeFetchResult} {first rest : List (Json × JsString)}

theorem builtAt_left {i : Nat} {record : ScannedProduct} (h : i < first.length) :
    BuiltAt urls lower (first ++ rest) i record ↔ BuiltAt urls lower first i record := by
  rw [BuiltAt, BuiltAt, List.getElem?_append_left h]

theorem builtAt_right {i : Nat} {record : ScannedProduct} (h : first.length ≤ i) :
    BuiltAt urls lower (first ++ rest) i record ↔ BuiltAt urls lower rest (i - first.length) record := by
  rw [BuiltAt, BuiltAt, List.getElem?_append_right h]

theorem BuiltAt.unique {i : Nat} {record other : ScannedProduct}
    (h : BuiltAt urls lower first i record) (h' : BuiltAt urls lower first i other) : record = other := by
  obtain ⟨node, hnode, hrecord⟩ := h
  obtain ⟨node', hnode', hother⟩ := h'
  obtain rfl := Option.some.inj (hnode.symm.trans hnode')
  exact Option.some.inj (hrecord.symm.trans hother)

theorem BuiltAt.lt {i : Nat} {record : ScannedProduct} (h : BuiltAt urls lower first i record) :
    i < first.length := by
  obtain ⟨node, hnode, -⟩ := h
  exact (List.getElem?_eq_some_iff.mp hnode).1

/-- The records of one sku. -/
theorem filter_records (nodes : List (Json × JsString)) (sku : JsString) :
    (nodes.filterMap fun node => nodeRecord urls lower node.2 node.1).filter (fun r => r.sku = sku) =
      nodes.filterMap fun node =>
        (nodeRecord urls lower node.2 node.1).filter fun r => decide (r.sku = sku) :=
  List.filter_filterMap ..

theorem record_of_sku {node : Json × JsString} {sku : JsString} {record : ScannedProduct} :
    (nodeRecord urls lower node.2 node.1).filter (fun r => decide (r.sku = sku)) = some record ↔
      nodeRecord urls lower node.2 node.1 = some record ∧ record.sku = sku := by
  rw [Option.filter_eq_some_iff, decide_eq_true_eq]

theorem no_record_of_sku {node : Json × JsString} {sku : JsString} :
    (nodeRecord urls lower node.2 node.1).filter (fun r => decide (r.sku = sku)) = none ↔
      ∀ record, nodeRecord urls lower node.2 node.1 = some record → record.sku ≠ sku := by
  rw [Option.filter_eq_none_iff]
  exact forall_congr' fun record => imp_congr_right fun _ => by rw [decide_eq_true_eq]

/-- **What stands** under a sku is built from a node that is not displaced. -/
theorem standing_iff {sku : JsString} {p : ScannedProduct} :
    standing (first.filterMap fun node => nodeRecord urls lower node.2 node.1)
        (rest.filterMap fun node => nodeRecord urls lower node.2 node.1) sku = some p ↔
      ∃ k, BuiltAt urls lower (first ++ rest) k p ∧
        ¬ Displaced urls lower (first ++ rest) first.length k ∧ p.sku = sku := by
  have hlast := @getLast?_filterMap_iff _ _
    (fun node : Json × JsString => (nodeRecord urls lower node.2 node.1).filter fun r =>
      decide (r.sku = sku)) first
  have hfirst := @head?_filterMap_iff _ _
    (fun node : Json × JsString => (nodeRecord urls lower node.2 node.1).filter fun r =>
      decide (r.sku = sku)) rest p
  rw [standing, filter_records, filter_records, Option.or_eq_some_iff, hlast, hfirst]
  constructor
  · rintro (⟨i, node, hnode, hp, hafter⟩ | ⟨hnone, i, node, hnode, hp, hbefore⟩)
    · obtain ⟨hp, hsku⟩ := record_of_sku.mp hp
      have hbuilt : BuiltAt urls lower first i p := ⟨node, hnode, hp⟩
      refine ⟨i, (builtAt_left hbuilt.lt).mpr hbuilt, ?_, hsku⟩
      rintro ⟨j, record, other, hrecord, hother, hsame, horder⟩
      rw [if_pos hbuilt.lt] at horder
      obtain rfl := ((builtAt_left hbuilt.lt).mp hrecord).unique hbuilt
      obtain ⟨node', hnode', hother⟩ := (builtAt_left horder.2).mp hother
      exact no_record_of_sku.mp (hafter j node' horder.1 hnode') other hother (hsame.trans hsku)
    · obtain ⟨hp, hsku⟩ := record_of_sku.mp hp
      have hbuilt : BuiltAt urls lower rest i p := ⟨node, hnode, hp⟩
      have hat : BuiltAt urls lower (first ++ rest) (first.length + i) p := by
        rw [builtAt_right (Nat.le_add_right _ _), Nat.add_sub_cancel_left]
        exact hbuilt
      refine ⟨first.length + i, hat, ?_, hsku⟩
      rintro ⟨j, record, other, hrecord, hother, hsame, horder⟩
      rw [if_neg (by omega)] at horder
      obtain rfl := hrecord.unique hat
      by_cases hj : j < first.length
      · obtain ⟨node', hnode', hother⟩ := (builtAt_left hj).mp hother
        rw [List.getLast?_eq_none_iff, List.filterMap_eq_nil_iff] at hnone
        exact no_record_of_sku.mp (hnone node' (List.mem_of_getElem? hnode')) other hother
          (hsame.trans hsku)
      · obtain ⟨node', hnode', hother⟩ := (builtAt_right (Nat.le_of_not_lt hj)).mp hother
        exact no_record_of_sku.mp (hbefore _ node' (by omega) hnode') other hother (hsame.trans hsku)
  · rintro ⟨k, hbuilt, hstands, hsku⟩
    by_cases hk : k < first.length
    · obtain ⟨node, hnode, hp⟩ := (builtAt_left hk).mp hbuilt
      refine .inl ⟨k, node, hnode, record_of_sku.mpr ⟨hp, hsku⟩, fun j node' hj hnode' => ?_⟩
      rw [no_record_of_sku]
      intro other hother hsame
      have hin : BuiltAt urls lower first j other := ⟨node', hnode', hother⟩
      exact hstands ⟨j, p, other, hbuilt, (builtAt_left hin.lt).mpr hin, hsame.trans hsku.symm,
        by rw [if_pos hk]; exact ⟨hj, hin.lt⟩⟩
    · obtain ⟨node, hnode, hp⟩ := (builtAt_right (Nat.le_of_not_lt hk)).mp hbuilt
      refine .inr ⟨?_, k - first.length, node, hnode, record_of_sku.mpr ⟨hp, hsku⟩, ?_⟩
      · rw [List.getLast?_eq_none_iff, List.filterMap_eq_nil_iff]
        intro node' hnode'
        rw [no_record_of_sku]
        intro other hother hsame
        obtain ⟨j, hj⟩ := List.getElem?_of_mem hnode'
        have hin : BuiltAt urls lower first j other := ⟨node', hj, hother⟩
        have hlt := hin.lt
        exact hstands ⟨j, p, other, hbuilt, (builtAt_left hlt).mpr hin, hsame.trans hsku.symm,
          by rw [if_neg hk]; omega⟩
      · intro j node' hj hnode'
        rw [no_record_of_sku]
        intro other hother hsame
        have hat : BuiltAt urls lower (first ++ rest) (first.length + j) other := by
          rw [builtAt_right (Nat.le_add_right _ _), Nat.add_sub_cancel_left]
          exact ⟨node', hnode', hother⟩
        exact hstands ⟨first.length + j, p, other, hbuilt, hat, hsame.trans hsku.symm,
          by rw [if_neg hk]; omega⟩

/-- No product is dropped exactly if every displaced node has a twin. -/
theorem eachRepresented_iff {products : List ScannedProduct}
    (h : ∀ p, p ∈ products ↔ ∃ k, BuiltAt urls lower (first ++ rest) k p ∧
      ¬ Displaced urls lower (first ++ rest) first.length k) :
    EachRepresented urls lower (first ++ rest) products ↔
      DisplacedHasTwin urls lower (first ++ rest) first.length := by
  constructor
  · intro hall i record hbuilt _ hown
    obtain ⟨p, hp, hname, hprice⟩ := hall i record hbuilt hown
    obtain ⟨k, hk, hstands⟩ := (h p).mp hp
    exact ⟨k, p, hk, hstands, hname, hprice⟩
  · intro htwin i record hbuilt hown
    by_cases hstands : Displaced urls lower (first ++ rest) first.length i
    · obtain ⟨k, twin, hk, hkstands, hname, hprice⟩ := htwin i record hbuilt hstands hown
      exact ⟨twin, (h twin).mpr ⟨k, hk, hkstands⟩, hname, hprice⟩
    · exact ⟨record, (h record).mpr ⟨i, hbuilt, hstands⟩, rfl, rfl⟩

end

/-- **Where a scan drops no product.**  Every node that gives a record, unless it shares its sku with
    another, is represented in the result by an entry with its name and price, exactly if each of them
    that is displaced has the name and the price of a node that is not. -/
theorem scan_drops_none_iff (urls : UrlParser) (lower : JsString → JsString)
    (parse : JsString → Option Json) (load : Fetch → JsString → Except JsString SafeFetchResult)
    {url : JsString} {maxProductPages : Option Nat} {result : ScanResult}
    (h : scanStore urls lower parse load url maxProductPages = some result) :
    let pages := pagesRead urls load url maxProductPages
    let nodes := nodesOn parse pages.1 ++ nodesOn parse pages.2
    EachRepresented urls lower nodes result.products ↔
      DisplacedHasTwin urls lower nodes (nodesOn parse pages.1).length := by
  intro pages nodes
  rcases scanned_products h with hnone | hproducts
  · have hbuilt : ∀ i record, ¬ BuiltAt urls lower nodes i record := by
      rintro i record ⟨node, hnode, hrecord⟩
      have hin : record ∈ nodes.filterMap fun node => nodeRecord urls lower node.2 node.1 :=
        List.mem_filterMap.mpr ⟨node, List.mem_of_getElem? hnode, hrecord⟩
      rw [List.filterMap_append] at hin
      have hempty : record ∈ ([] : List ScannedProduct) := hnone ▸ hin
      exact absurd hempty List.not_mem_nil
    exact iff_of_true (fun i record hi => absurd hi (hbuilt i record))
      fun i record hi => absurd hi (hbuilt i record)
  · refine eachRepresented_iff fun p => ?_
    rw [hproducts]
    constructor
    · rintro ⟨sku, hsku⟩
      obtain ⟨k, hk, hstands, -⟩ := standing_iff.mp hsku
      exact ⟨k, hk, hstands⟩
    · rintro ⟨k, hk, hstands⟩
      exact ⟨p.sku, standing_iff.mpr ⟨k, hk, hstands, rfl⟩⟩

/-! ## A page of products without a sku -/

/-- The text of products with these names and prices. -/
def catalogText (items : List (String × Nat)) : JsString :=
  js "[" ++ (js ",").intercalate (items.map fun (name, price) =>
    js "\x7b\"@type\":\"Product\",\"name\":\"" ++ js name ++ js "\",\"offers\":\x7b\"price\":" ++
      decimal price ++ js "\x7d\x7d") ++ js "]"

def catalogValue (items : List (String × Nat)) : Json :=
  .arr (items.map fun (name, price) =>
    .obj [(js "@type", .str (js "Product")), (js "name", .str (js name)),
      (js "offers", .obj [(js "price", .num ⟨price, 0⟩)])])

/-- `JSON.parse`, on this one text. -/
def catalogParse (items : List (String × Nat)) (text : JsString) : Option Json :=
  if text = catalogText items then some (catalogValue items) else none

/-- A start page with these products, and nothing else that loads. -/
def catalogLoad (items : List (String × Nat)) : Fetch → JsString → Except JsString SafeFetchResult
  | .start, url =>
    .ok ⟨js "<script type=\"application/ld+json\">" ++ catalogText items ++ js "</script>", url⟩
  | _, _ => .error (js "fetch failed")

/-- The nodes of this page. -/
def catalogNodes (items : List (String × Nat)) : List (Json × JsString) :=
  let pages := pagesRead shopUrls (catalogLoad items) (js "https://shop.example/") none
  nodesOn (catalogParse items) pages.1 ++ nodesOn (catalogParse items) pages.2

def scanCatalog (items : List (String × Nat)) : Option ScanResult :=
  scanStore shopUrls asciiLower (catalogParse items) (catalogLoad items) (js "https://shop.example/") none

/-- One product is represented. -/
theorem scan_drops_none_iff_one : ∃ result, scanCatalog [("Shoe", 100)] = some result ∧
    EachRepresented shopUrls asciiLower (catalogNodes [("Shoe", 100)]) result.products := by
  have hsome : (scanCatalog [("Shoe", 100)]).isSome = true := by decide +kernel
  have hlen : (catalogNodes [("Shoe", 100)]).length = 1 := by decide +kernel
  obtain ⟨result, hresult⟩ := Option.isSome_iff_exists.mp hsome
  refine ⟨result, hresult, ?_⟩
  refine (scan_drops_none_iff shopUrls asciiLower (catalogParse [("Shoe", 100)])
    (catalogLoad [("Shoe", 100)]) hresult).mpr ?_
  rintro i record hbuilt ⟨j, record', other, hrecord, hother, -, horder⟩
  have hi : i < 1 := hlen ▸ hrecord.lt
  have hj : j < 1 := hlen ▸ hother.lt
  split at horder <;> omega

/-- Two products without a sku, on one page: the second overwrites the first. -/
theorem derived_sku_overwrites : ∃ result, scanCatalog [("Shoe", 100), ("Hat", 200)] = some result ∧
    ¬ EachRepresented shopUrls asciiLower (catalogNodes [("Shoe", 100), ("Hat", 200)])
      result.products := by
  have hproducts : (scanCatalog [("Shoe", 100), ("Hat", 200)]).map
      (fun result => result.products.map ScannedProduct.name) = some [js "Hat"] := by decide +kernel
  obtain ⟨result, hresult, hnames⟩ := Option.map_eq_some_iff.mp hproducts
  refine ⟨result, hresult, fun hall => ?_⟩
  have hrecord : ((catalogNodes [("Shoe", 100), ("Hat", 200)])[0]?.bind fun node =>
      nodeRecord shopUrls asciiLower node.2 node.1).map ScannedProduct.name = some (js "Shoe") := by
    decide +kernel
  obtain ⟨record, hbuilt, hname⟩ := Option.map_eq_some_iff.mp hrecord
  obtain ⟨node, hnode, hbuilt⟩ := Option.bind_eq_some_iff.mp hbuilt
  have hnoSku : (catalogNodes [("Shoe", 100), ("Hat", 200)]).all
      (fun node => (normalizeSku node.1).isNone) = true := by decide +kernel
  have hown : ¬ SharesSku (catalogNodes [("Shoe", 100), ("Hat", 200)]) 0 := by
    rintro ⟨node', -, -, sku, hnode', -, -, hsku, -⟩
    have hnone := List.all_eq_true.mp hnoSku node' (List.mem_of_getElem? hnode')
    rw [hsku] at hnone
    exact absurd hnone (by simp)
  obtain ⟨p, hp, hpname, -⟩ := hall 0 record ⟨node, hnode, hbuilt⟩ hown
  have hin := List.mem_map_of_mem (f := ScannedProduct.name) hp
  rw [hnames, List.mem_singleton, hpname, hname] at hin
  exact absurd hin (by decide)

end Hundi
