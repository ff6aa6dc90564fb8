/-
  packages/facilitator/src/browser-scan.ts — the Shopify feed read by a headless browser.

  The browser scan pages as the plain scan does, but keeps of each handle the first record it sees,
  counts handles where the plain scan counts records, and never merges or leaves out across pages.  Both
  scans are `readPages` with their own measure; the plain scan's pages are the first of the browser's.

    firstRecords        what the browser's loop collects
    take_dedupe_iff     when the merged list and the first records agree, up to the cap
    scans_agree_iff     the whole scans
-/
import Hundi.Cli.ShopifyScan
import Hundi.Cli.VariantEntries

namespace Hundi

open Js

/-! ## The code -/

/-- The loop over a page's products, with `seenSkus` the skus of `collected`. -/
def collectNew (collected products : List ScannedProduct) : List ScannedProduct :=
  products.foldl (fun collected p =>
    if collected.any fun c => c.sku = p.sku then collected else collected ++ [p]) collected

/-- The loop of `browserScanPath`, `left` pages before its end. -/
def browserPages (read : Nat → FeedRead) : Nat → Nat → Collected → Option Collected
  | 0, _, c => some c
  | left + 1, page, c =>
    match read page with
    | .stop => some c
    | .threw => none
    | .page full products warnings =>
      let c : Collected := ⟨collectNew c.products products, true, c.warnings ++ warnings⟩
      if !full || c.products.length ≥ 500 then some c else browserPages read left (page + 1) c

/-- `browserScanPath(origin, path, merchantId, warnings)`. -/
def browserScanPath (read : Nat → FeedRead) (warnings : List JsString) :
    Option (List ScannedProduct × List JsString) :=
  (browserPages read 3 1 ⟨[], false, warnings⟩).map fun c =>
    (if c.sawUsablePage then c.products.take 500 else [], c.warnings)

/-- The loop over the paths. -/
def browserScanPaths (read : JsString → Nat → FeedRead) :
    List JsString → List JsString → Option (List ScannedProduct × List JsString)
  | [], warnings => some ([], warnings)
  | path :: paths, warnings =>
    match browserScanPath (read path) warnings with
    | none => none
    | some (products, warnings) =>
      if products.length > 0 then
        some (products, warnings ++ [js ("scanned via headless browser (server-side fetch was " ++
          "bot-blocked): " ++ toString products.length ++ " products")])
      else browserScanPaths read paths warnings

section

variable (urls : UrlParser) (parse : JsString → Option Json) (load : JsString → Option JsString)
  (merchantId : JsString)

/-- A page of the browser scan: no text is as bad as none. -/
def browserReadPage (origin path : JsString) (page : Nat) : FeedRead :=
  match load (feedPageUrl origin path page) with
  | none => .stop
  | some text =>
    if text.isEmpty then .stop
    else readFeedText urls parse merchantId (feedPageUrl origin path page) text

/-- `browserScanShopify(storeUrl, merchantId)`. -/
def browserScanShopify (storeUrl : JsString) : Option (List ScannedProduct × List JsString) :=
  match urls.parse storeUrl with
  | none => some ([], [])
  | some parsed =>
    browserScanPaths (browserReadPage urls parse load merchantId parsed.origin) shopifyPaths []

end

/-! ## First records -/

/-- The first record of each handle. -/
def firstRecords (records : List ScannedProduct) : List ScannedProduct :=
  (records.map ScannedProduct.sku).eraseDups.filterMap fun handle => (recordsOf records handle).head?

theorem head_of_handle {records : List ScannedProduct} :
    ∀ handle ∈ (records.map ScannedProduct.sku).eraseDups,
      ∃ p, (recordsOf records handle).head? = some p ∧ p.sku = handle := by
  intro handle hhandle
  obtain ⟨first, rest, hrecords⟩ := recordsOf_cons (List.mem_eraseDups.mp hhandle)
  have hfirst : first ∈ recordsOf records handle := hrecords ▸ List.mem_cons_self
  exact ⟨first, by rw [hrecords, List.head?_cons], of_decide_eq_true (List.mem_filter.mp hfirst).2⟩

theorem map_sku_firstRecords (records : List ScannedProduct) :
    (firstRecords records).map ScannedProduct.sku = (records.map ScannedProduct.sku).eraseDups :=
  map_filterMap_id head_of_handle

/-- One more record. -/
theorem firstRecords_append (records : List ScannedProduct) (p : ScannedProduct) :
    firstRecords (records ++ [p]) =
      if (firstRecords records).any fun c => c.sku = p.sku then firstRecords records
      else firstRecords records ++ [p] := by
  have hany : ((firstRecords records).any fun c => c.sku = p.sku) = true ↔
      p.sku ∈ records.map ScannedProduct.sku := by
    rw [← List.mem_eraseDups, ← map_sku_firstRecords, List.any_eq_true, List.mem_map]
    exact exists_congr fun c => and_congr_right fun _ => decide_eq_true_iff
  have hold : ∀ handle ∈ (records.map ScannedProduct.sku).eraseDups,
      (recordsOf (records ++ [p]) handle).head? = (recordsOf records handle).head? := by
    intro handle hhandle
    obtain ⟨first, rest, hrecords⟩ := recordsOf_cons (List.mem_eraseDups.mp hhandle)
    rw [recordsOf_append, hrecords]
    rfl
  rw [firstRecords, List.map_append, List.map_singleton, List.eraseDups_append]
  by_cases hin : p.sku ∈ records.map ScannedProduct.sku
  · have hnone : [p.sku].removeAll (records.map ScannedProduct.sku) = [] := by
      simpa [List.removeAll] using hin
    rw [if_pos (hany.mpr hin), hnone, List.eraseDups_nil, List.append_nil]
    exact List.filterMap_congr hold
  · have hone : [p.sku].removeAll (records.map ScannedProduct.sku) = [p.sku] := by
      simpa [List.removeAll] using hin
    have hnew : (recordsOf (records ++ [p]) p.sku).head? = some p := by
      have hempty : recordsOf records p.sku = [] := by
        rw [recordsOf, List.filter_eq_nil_iff]
        intro r hr hsku
        exact hin (List.mem_map.mpr ⟨r, hr, of_decide_eq_true hsku⟩)
      rw [recordsOf_append, hempty, recordsOf, List.nil_append, List.filter_cons_of_pos (by simp)]
      rfl
    rw [if_neg (fun h => hin (hany.mp h)), hone, eraseDups_of_nodup (List.nodup_singleton _),
      List.filterMap_append, List.filterMap_congr hold,
      List.filterMap_cons_some (f := fun handle => (recordsOf (records ++ [p]) handle).head?) hnew]
    rfl

theorem collectNew_firstRecords (records products : List ScannedProduct) :
    collectNew (firstRecords records) products = firstRecords (records ++ products) := by
  induction products generalizing records with
  | nil => rw [List.append_nil]; rfl
  | cons p products ih =>
    have hassoc : records ++ p :: products = records ++ [p] ++ products := by
      rw [List.append_assoc, List.singleton_append]
    rw [hassoc, ← ih, firstRecords_append]
    rfl

/-- The browser scan goes on while its pages have fewer than 500 handles. -/
def browserMore (pages : List (List ScannedProduct)) : Bool :=
  (firstRecords pages.flatten).length < 500

theorem browserPages_eq {read : Nat → FeedRead} (left : Nat) :
    ∀ {page : Nat} {pages : List (List ScannedProduct)} {c : Collected},
      c.products = firstRecords pages.flatten → (pages ≠ [] → c.sawUsablePage = true) →
      match browserPages read left page c with
      | none => readPages browserMore read left page pages = none
      | some c' => ∃ pages', readPages browserMore read left page pages = some pages' ∧
        c'.products = firstRecords pages'.flatten ∧ (pages' ≠ [] → c'.sawUsablePage = true) := by
  induction left with
  | zero => exact fun hc hsaw => ⟨_, rfl, hc, hsaw⟩
  | succ left ih =>
    intro page pages c hc hsaw
    rw [browserPages, readPages]
    cases hread : read page with
    | stop => exact ⟨pages, rfl, hc, hsaw⟩
    | threw => rfl
    | page full products warnings =>
      have hproducts : collectNew c.products products = firstRecords (pages ++ [products]).flatten := by
        rw [hc, collectNew_firstRecords, List.flatten_append, List.flatten_cons, List.flatten_nil,
          List.append_nil]
      dsimp only
      rw [browserMore, ← hproducts, stop_or_more]
      cases full && decide ((collectNew c.products products).length < 500) with
      | true => exact ih hproducts fun _ => rfl
      | false => exact ⟨_, rfl, hproducts, fun _ => rfl⟩

/-! ## The pages of both scans -/

theorem readPages_extends {more : List (List ScannedProduct) → Bool} {read : Nat → FeedRead} (left : Nat) :
    ∀ {page : Nat} {pages pages' : List (List ScannedProduct)},
      readPages more read left page pages = some pages' → pages <+: pages' := by
  induction left with
  | zero =>
    intro page pages pages' h
    obtain rfl := Option.some.inj h
    exact List.prefix_refl _
  | succ left ih =>
    intro page pages pages' h
    rw [readPages] at h
    split at h
    · obtain rfl := Option.some.inj h
      exact List.prefix_refl _
    · exact absurd h (by simp)
    · split at h
      · exact (List.prefix_append _ _).trans (ih h)
      · obtain rfl := Option.some.inj h
        exact List.prefix_append _ _

theorem length_firstRecords_le (records : List ScannedProduct) :
    (firstRecords records).length ≤ records.length := by
  have hlen : ∀ xs : List JsString, xs.eraseDups.length ≤ xs.length := by
    intro xs
    have hsub : xs.eraseDups.Subperm xs :=
      List.subperm_of_subset (nodup_eraseDups xs) fun x hx => List.mem_eraseDups.mp hx
    exact hsub.length_le
  have := hlen (records.map ScannedProduct.sku)
  rwa [← map_sku_firstRecords, List.length_map, List.length_map] at this

/-- How the plain scan's pages lie to the browser's: they are the first of them, and all of them unless
    they list 500 products. -/
def PagesLie (plain browser : Option (List (List ScannedProduct))) : Prop :=
  match plain, browser with
  | none, browser => browser = none
  | some plain, none => 500 ≤ plain.flatten.length
  | some plain, some browser => plain <+: browser ∧ (plain ≠ browser → 500 ≤ plain.flatten.length)

theorem pagesLie (read : Nat → FeedRead) (left : Nat) :
    ∀ (page : Nat) (pages : List (List ScannedProduct)),
      PagesLie (readPages plainMore read left page pages) (readPages browserMore read left page pages) := by
  induction left with
  | zero => exact fun page pages => ⟨List.prefix_refl _, fun h => absurd rfl h⟩
  | succ left ih =>
    intro page pages
    rw [readPages, readPages]
    cases read page with
    | stop => exact ⟨List.prefix_refl _, fun h => absurd rfl h⟩
    | threw => rfl
    | page full products warnings =>
      dsimp only
      cases full with
      | false => exact ⟨List.prefix_refl _, fun h => absurd rfl h⟩
      | true =>
        rw [Bool.true_and, Bool.true_and]
        by_cases hplain : plainMore (pages ++ [products]) = true
        · -- fewer records, so fewer handles
          have hbrowser : browserMore (pages ++ [products]) = true := by
            have hle := length_firstRecords_le (pages ++ [products]).flatten
            rw [plainMore, decide_eq_true_eq] at hplain
            rw [browserMore, decide_eq_true_eq]
            omega
          rw [if_pos hplain, if_pos hbrowser]
          exact ih _ _
        · have henough : 500 ≤ (pages ++ [products]).flatten.length := by
            rw [plainMore, decide_eq_true_eq] at hplain
            omega
          rw [if_neg hplain]
          split
          · cases hrest : readPages browserMore read left (page + 1) (pages ++ [products]) with
            | none => exact henough
            | some browser => exact ⟨readPages_extends left hrest, fun _ => henough⟩
          · exact ⟨List.prefix_refl _, fun h => absurd rfl h⟩

/-! ## One path -/

/-- The later records add nothing to the first.  Of the variants: none of them makes two ids together with
    the first record's, or the first record's repeat no id and the entries that count are no others, have
    no other last entries but for stock, and no other ids in stock. -/
structure AddsNothing (first : ScannedProduct) (rest : List ScannedProduct) : Prop where
  description : first.description = [] → ∀ r ∈ rest, r.description = []
  image : first.image = [] → ∀ r ∈ rest, r.image = []
  options : first.options = none → ∀ r ∈ rest, r.options = none
  stock : first.availability = .out_of_stock → ∀ r ∈ rest, r.availability = .out_of_stock
  variants : (∀ r ∈ rest, twoIds (first.variantList ++ r.variantList) = false) ∨
    ∃ vs, first.variants = some vs ∧ (vs.map ScannedVariant.variantId).Nodup ∧
      SameEntries (counted vs (rest.map ScannedProduct.variantList)) vs

theorem mergedFrom_eq_nil_iff {first : ScannedProduct} {rest : List ScannedProduct} :
    mergedFrom first.variantList (rest.map ScannedProduct.variantList) = [] ↔
      ∀ r ∈ rest, twoIds (first.variantList ++ r.variantList) = false := by
  rw [mergedFrom, List.dropWhile_eq_nil_iff, List.forall_mem_map]
  simp only [Bool.not_eq_true']

/-- The first record's variants are listed as they are. -/
theorem listedVariants_eq_iff {first : ScannedProduct} {rest : List ScannedProduct} :
    listedVariants first.variants (rest.map ScannedProduct.variantList) = first.variants ↔
      (∀ r ∈ rest, twoIds (first.variantList ++ r.variantList) = false) ∨
        ∃ vs, first.variants = some vs ∧ (vs.map ScannedVariant.variantId).Nodup ∧
          SameEntries (counted vs (rest.map ScannedProduct.variantList)) vs := by
  rw [← mergedFrom_eq_nil_iff, listedVariants_eq_counted]
  show (if mergedFrom first.variantList (rest.map ScannedProduct.variantList) = [] then first.variants
    else some (unionById (counted first.variantList _))) = _ ↔ _
  split
  · rename_i hnone
    exact iff_of_true rfl (.inl hnone)
  · rename_i hlater
    have hlist : ∀ {vs}, first.variants = some vs → first.variantList = vs := by
      intro vs hvs
      rw [ScannedProduct.variantList, hvs, Option.getD_some]
    rw [eq_comm, VariantSource.eq_some_unionById_iff, or_iff_right hlater]
    constructor
    · rintro ⟨vs, hvs, hnodup, hsame⟩
      exact ⟨vs, hvs, hnodup, unionById_eq_iff.mp (hlist hvs ▸ hsame.symm)⟩
    · rintro ⟨vs, hvs, hnodup, hsame⟩
      exact ⟨vs, hvs, hnodup, hlist hvs ▸ (unionById_eq_iff.mpr hsame).symm⟩

theorem firstText_eq_nil {texts : List JsString} : firstText texts = [] ↔ ∀ s ∈ texts, s = [] := by
  induction texts with
  | nil => exact iff_of_true rfl fun s hs => absurd hs List.not_mem_nil
  | cons s texts ih =>
    rw [firstText_cons, List.forall_mem_cons, ← ih]
    cases s with
    | nil => exact ⟨fun h => ⟨rfl, h⟩, And.right⟩
    | cons c s => exact iff_of_false (List.cons_ne_nil _ _) fun h => List.cons_ne_nil _ _ h.1

theorem firstText_cons_eq {s : JsString} {texts : List JsString} :
    firstText (s :: texts) = s ↔ (s = [] → ∀ t ∈ texts, t = []) := by
  rw [firstText_cons, ← firstText_eq_nil]
  cases s with
  | nil => exact ⟨fun h _ => h, fun h => h rfl⟩
  | cons c s => exact iff_of_true rfl fun h => absurd h (List.cons_ne_nil _ _)

theorem mergedRecord_eq_iff {first : ScannedProduct} {rest : List ScannedProduct} :
    mergedRecord first rest = first ↔ AddsNothing first rest := by
  have htext : ∀ f : ScannedProduct → JsString, firstText ((first :: rest).map f) = f first ↔
      (f first = [] → ∀ r ∈ rest, f r = []) := by
    intro f
    rw [List.map_cons, firstText_cons_eq, List.forall_mem_map]
  have hoptions : (first :: rest).findSome? ScannedProduct.options = first.options ↔
      (first.options = none → ∀ r ∈ rest, r.options = none) := by
    rw [List.findSome?_cons]
    cases hfirst : first.options with
    | none => simp
    | some o => simp
  have hstock : (if (first :: rest).any fun r => r.availability = .in_stock then Availability.in_stock
        else .out_of_stock) = first.availability ↔
      (first.availability = .out_of_stock → ∀ r ∈ rest, r.availability = .out_of_stock) := by
    have hcases : ∀ a : Availability, a = .out_of_stock ↔ ¬ a = .in_stock := by
      intro a
      cases a <;> simp
    cases hfirst : first.availability with
    | in_stock => simp [hfirst]
    | out_of_stock =>
      rw [List.any_cons, hfirst]
      simp only [hcases]
      split
      · rename_i hany
        simp at hany
        simpa using hany
      · rename_i hany
        simp at hany
        simpa using hany
  constructor
  · intro h
    refine ⟨(htext _).mp (congrArg ScannedProduct.description h),
      (htext _).mp (congrArg ScannedProduct.image h), hoptions.mp (congrArg ScannedProduct.options h),
      hstock.mp (congrArg ScannedProduct.availability h),
      listedVariants_eq_iff.mp (congrArg ScannedProduct.variants h)⟩
  · rintro ⟨hdescription, himage, hnoOptions, hnoStock, hvariants⟩
    rw [mergedRecord, (htext _).mpr hdescription, (htext _).mpr himage, hoptions.mpr hnoOptions,
      hstock.mpr hnoStock, listedVariants_eq_iff.mpr hvariants]

theorem take_filter_all {α : Type} {p : α → Bool} {xs : List α} {n : Nat}
    (h : ∀ x ∈ xs.take n, p x = true) : (xs.filter p).take n = xs.take n := by
  induction xs generalizing n with
  | nil => rfl
  | cons x xs ih =>
    cases n with
    | zero => rfl
    | succ n =>
      rw [List.take_succ_cons] at h
      rw [List.filter_cons_of_pos (h x List.mem_cons_self), List.take_succ_cons, List.take_succ_cons,
        ih fun y hy => h y (List.mem_cons_of_mem _ hy)]

theorem take_filterMap_all {α β : Type} {g : α → Option β} {xs : List α} (n : Nat)
    (h : ∀ x ∈ xs, ∃ y, g x = some y) : (xs.filterMap g).take n = (xs.take n).filterMap g := by
  induction xs generalizing n with
  | nil => rw [List.filterMap_nil, List.take_nil, List.take_nil, List.filterMap_nil]
  | cons x xs ih =>
    obtain ⟨y, hy⟩ := h x List.mem_cons_self
    cases n with
    | zero => rfl
    | succ n =>
      rw [List.filterMap_cons_some hy, List.take_succ_cons, List.take_succ_cons,
        List.filterMap_cons_some hy, ih n fun x hx => h x (List.mem_cons_of_mem _ hx)]

/-- If all of the first `n` are in the first part, they are its first `n`. -/
theorem take_append_of_mem {α : Type} {xs ys : List α} {n : Nat} (hnodup : (xs ++ ys).Nodup)
    (h : ∀ y ∈ (xs ++ ys).take n, y ∈ xs) : (xs ++ ys).take n = xs.take n := by
  have hrest : ys.take (n - xs.length) = [] := by
    rw [List.eq_nil_iff_forall_not_mem]
    intro y hy
    have hin : y ∈ xs := h y (by rw [List.take_append]; exact List.mem_append_right _ hy)
    exact (List.nodup_append.mp hnodup).2.2 y hin y (List.mem_of_mem_take hy) rfl
  rw [List.take_append, hrest, List.append_nil]

/-- The two scans agree on a path whose records are these: each handle that the browser returns is among
    the plain scan's records, is no reserved duplicate among them, and its later records add nothing. -/
def Agreed (plain browser : List ScannedProduct) : Prop :=
  ∀ handle ∈ (browser.map ScannedProduct.sku).eraseDups.take 500,
    isReservedDuplicate plain handle = false ∧
      ∃ first rest, recordsOf plain handle = first :: rest ∧ AddsNothing first rest

theorem mem_firstRecords {records : List ScannedProduct} {p : ScannedProduct}
    (h : p ∈ firstRecords records) : (recordsOf records p.sku).head? = some p := by
  obtain ⟨handle, hhandle, hp⟩ := List.mem_filterMap.mp h
  obtain ⟨p', hp', hsku⟩ := head_of_handle handle hhandle
  obtain rfl := Option.some.inj (hp.symm.trans hp')
  rwa [hsku]

/-- **The merged list and the first records agree**, up to the cap. -/
theorem take_dedupe_iff {plain browser : List ScannedProduct} (h : plain <+: browser) :
    (dedupeShopifyProducts plain []).1.take 500 = (firstRecords browser).take 500 ↔
      Agreed plain browser := by
  obtain ⟨more, rfl⟩ := h
  -- the browser's first record of a handle is the plain scan's
  have hhead : ∀ handle first rest, recordsOf plain handle = first :: rest →
      (recordsOf (plain ++ more) handle).head? = some first := by
    intro handle first rest hrecords
    rw [recordsOf_append, hrecords]
    rfl
  constructor
  · intro h handle hhandle
    rw [← map_sku_firstRecords, ← List.map_take] at hhandle
    obtain ⟨p, hp, rfl⟩ := List.mem_map.mp hhandle
    have hfirst := mem_firstRecords (List.mem_of_mem_take hp)
    rw [← h] at hp
    obtain ⟨hres, hlisting⟩ := mem_products_dedupe.mp (List.mem_of_mem_take hp)
    obtain ⟨first, rest, hrecords, heq, -⟩ := listing_some hlisting
    rw [hhead _ _ _ hrecords] at hfirst
    obtain rfl := Option.some.inj hfirst
    exact ⟨hres, first, rest, hrecords, mergedRecord_eq_iff.mp heq.symm⟩
  · intro h
    have hsplit : ((plain ++ more).map ScannedProduct.sku).eraseDups =
        (plain.map ScannedProduct.sku).eraseDups ++
          ((more.map ScannedProduct.sku).removeAll (plain.map ScannedProduct.sku)).eraseDups := by
      rw [List.map_append, List.eraseDups_append]
    have hnodup := nodup_eraseDups ((plain ++ more).map ScannedProduct.sku)
    have htake : ((plain ++ more).map ScannedProduct.sku).eraseDups.take 500 =
        (plain.map ScannedProduct.sku).eraseDups.take 500 := by
      rw [hsplit] at hnodup ⊢
      refine take_append_of_mem hnodup fun handle hhandle => ?_
      rw [← hsplit] at hhandle
      obtain ⟨-, first, rest, hrecords, -⟩ := h handle hhandle
      have hin : first ∈ recordsOf plain handle := hrecords ▸ List.mem_cons_self
      obtain ⟨hmem, hsku⟩ := List.mem_filter.mp hin
      exact List.mem_eraseDups.mpr (List.mem_map.mpr ⟨first, hmem, of_decide_eq_true hsku⟩)
    have hlisted : (listedHandles plain).take 500 =
        ((plain ++ more).map ScannedProduct.sku).eraseDups.take 500 := by
      rw [htake]
      refine take_filter_all fun handle hhandle => ?_
      rw [← htake] at hhandle
      rw [(h handle hhandle).1]
      rfl
    rw [products_dedupe, firstRecords,
      take_filterMap_all 500 fun handle hh => (listing_of_listed handle hh).2.imp fun _ => And.left,
      take_filterMap_all 500 fun handle hh => (head_of_handle handle hh).imp fun _ => And.left, hlisted]
    refine List.filterMap_congr fun handle hhandle => ?_
    obtain ⟨-, first, rest, hrecords, hadds⟩ := h handle hhandle
    rw [hhead _ _ _ hrecords, listing, hrecords, mergeAll, mergedRecord_eq_iff.mpr hadds]

/-! ## The whole scans -/

theorem length_baseHandle_lt {handle : JsString} (h : baseHandle handle ≠ handle) :
    (baseHandle handle).length < handle.length := by
  rw [baseHandle] at h ⊢
  cases hfind : reservedRouteSuffixes.find? fun suffix => suffix.isSuffixOf (asciiLower handle) with
  | none =>
    rw [hfind] at h
    exact absurd rfl h
  | some suffix =>
    rw [hfind] at h
    show (handle.take _).length < _
    rw [List.length_take]
    by_contra hle
    exact h (List.take_of_length_le (by omega))

/-- A duplicate is one of a shorter handle, so not everything is left out. -/
theorem exists_listed {products : List ScannedProduct} (n : Nat) :
    ∀ handle ∈ products.map ScannedProduct.sku, handle.length ≤ n →
      ∃ listed, listed ∈ listedHandles products := by
  induction n with
  | zero =>
    intro handle hin hlen
    refine ⟨handle, List.mem_filter.mpr ⟨List.mem_eraseDups.mpr hin, ?_⟩⟩
    have hbase : baseHandle handle = handle := by
      by_contra hne
      have := length_baseHandle_lt hne
      omega
    rw [isReservedDuplicate, hbase, bne_self_eq_false, Bool.false_and]
    rfl
  | succ n ih =>
    intro handle hin hlen
    cases hres : isReservedDuplicate products handle with
    | false => exact ⟨handle, List.mem_filter.mpr ⟨List.mem_eraseDups.mpr hin, by rw [hres]; rfl⟩⟩
    | true =>
      rw [isReservedDuplicate, Bool.and_eq_true, bne_iff_ne] at hres
      obtain ⟨hne, hbase⟩ := hres
      refine ih (baseHandle handle) ?_ (by have := length_baseHandle_lt hne; omega)
      cases hrecords : recordsOf products (baseHandle handle) with
      | nil =>
        rw [hrecords] at hbase
        exact absurd hbase (by simp)
      | cons first rest =>
        have hfirst : first ∈ recordsOf products (baseHandle handle) := hrecords ▸ List.mem_cons_self
        obtain ⟨hmem, hsku⟩ := List.mem_filter.mp hfirst
        exact List.mem_map.mpr ⟨first, hmem, of_decide_eq_true hsku⟩

theorem dedupe_eq_nil {products : List ScannedProduct} :
    (dedupeShopifyProducts products []).1 = [] ↔ products = [] := by
  constructor
  · intro h
    by_contra hne
    obtain ⟨p, hp⟩ := List.exists_mem_of_ne_nil _ hne
    obtain ⟨listed, hlisted⟩ := exists_listed _ p.sku (List.mem_map_of_mem hp) (Nat.le_refl _)
    rw [← map_sku_dedupe, h] at hlisted
    exact absurd hlisted List.not_mem_nil
  · rintro rfl
    rfl

theorem firstRecords_eq_nil {records : List ScannedProduct} :
    firstRecords records = [] ↔ records = [] := by
  constructor
  · intro h
    by_contra hne
    obtain ⟨p, hp⟩ := List.exists_mem_of_ne_nil _ hne
    have hin := List.mem_eraseDups.mpr (List.mem_map_of_mem (f := ScannedProduct.sku) hp)
    rw [← map_sku_firstRecords, h] at hin
    exact absurd hin List.not_mem_nil
  · rintro rfl
    rfl

/-- What the plain scan returns, from the pages that it reads. -/
def plainProducts (read : JsString → Nat → FeedRead) : List JsString → Option (List ScannedProduct)
  | [] => some []
  | path :: paths =>
    match plainPages (read path) with
    | none => none
    | some pages =>
      if pages.flatten = [] then plainProducts read paths
      else some ((dedupeShopifyProducts pages.flatten []).1.take 500)

/-- The pages that the browser scan reads. -/
def browserPagesRead (read : Nat → FeedRead) : Option (List (List ScannedProduct)) :=
  readPages browserMore read 3 1 []

/-- What the browser scan returns, from the pages that it reads. -/
def browserProducts (read : JsString → Nat → FeedRead) : List JsString → Option (List ScannedProduct)
  | [] => some []
  | path :: paths =>
    match browserPagesRead (read path) with
    | none => none
    | some pages =>
      if pages.flatten = [] then browserProducts read paths
      else some ((firstRecords pages.flatten).take 500)

theorem fetchShopifyPaths_eq (read : JsString → Nat → FeedRead) (paths warnings : List JsString) :
    (fetchShopifyPaths read paths warnings).map Prod.fst = plainProducts read paths := by
  induction paths generalizing warnings with
  | nil => rfl
  | cons path paths ih =>
    have hpages := @collectPages_eq (read path) 3 1 [] ⟨[], false, warnings⟩ rfl (fun h => absurd rfl h)
    rw [fetchShopifyPaths, plainProducts, plainPages]
    cases hcollected : collectPages (read path) 3 1 ⟨[], false, warnings⟩ with
    | none =>
      rw [hcollected] at hpages
      rw [show readPages plainMore (read path) 3 1 [] = none from hpages]
      rfl
    | some c =>
      rw [hcollected] at hpages
      obtain ⟨pages, hread, hproducts, hsaw⟩ := hpages
      rw [hread]
      dsimp only
      by_cases hnone : pages.flatten = []
      · rw [if_pos hnone, hproducts, hnone, if_neg (by simp)]
        exact ih _
      · have hused : c.sawUsablePage = true := hsaw fun h => hnone (by rw [h]; rfl)
        have hlen : 0 < pages.flatten.length := List.length_pos_iff.mpr hnone
        have hleft : 0 < (dedupeShopifyProducts pages.flatten []).1.length :=
          List.length_pos_iff.mpr fun h => hnone (dedupe_eq_nil.mp h)
        rw [if_neg hnone, hproducts, if_pos (by rw [hused, Bool.true_and]; exact decide_eq_true hlen),
          if_pos hleft]
        rfl

theorem browserScanPaths_eq (read : JsString → Nat → FeedRead) (paths warnings : List JsString) :
    (browserScanPaths read paths warnings).map Prod.fst = browserProducts read paths := by
  induction paths generalizing warnings with
  | nil => rfl
  | cons path paths ih =>
    have hpages := @browserPages_eq (read path) 3 1 [] ⟨[], false, warnings⟩ rfl (fun h => absurd rfl h)
    rw [browserScanPaths, browserProducts, browserPagesRead, browserScanPath]
    cases hcollected : browserPages (read path) 3 1 ⟨[], false, warnings⟩ with
    | none =>
      rw [hcollected] at hpages
      rw [show readPages browserMore (read path) 3 1 [] = none from hpages]
      rfl
    | some c =>
      rw [hcollected] at hpages
      obtain ⟨pages, hread, hproducts, hsaw⟩ := hpages
      rw [hread, Option.map_some]
      dsimp only
      by_cases hnone : pages.flatten = []
      · have hempty : (if c.sawUsablePage = true then c.products.take 500 else []) = [] := by
          rw [hproducts, firstRecords_eq_nil.mpr hnone, List.take_nil, ite_self]
        rw [if_pos hnone, hempty, if_neg (by simp)]
        exact ih _
      · have hused : c.sawUsablePage = true := hsaw fun h => hnone (by rw [h]; rfl)
        have hlen : 0 < (firstRecords pages.flatten).length :=
          List.length_pos_iff.mpr fun h => hnone (firstRecords_eq_nil.mp h)
        rw [if_neg hnone, if_pos hused, hproducts, if_pos (by rw [List.length_take]; omega)]
        rfl

/-- The scans agree over these paths: on the first that gives something, they agree, unless a page that
    both read throws. -/
def PathsAgree (read : JsString → Nat → FeedRead) : List JsString → Prop
  | [] => True
  | path :: paths =>
    match plainPages (read path), browserPagesRead (read path) with
    | none, _ => True
    | some _, none => False
    | some plain, some browser =>
      if plain.flatten = [] then PathsAgree read paths else Agreed plain.flatten browser.flatten

theorem products_agree_iff (read : JsString → Nat → FeedRead) (paths : List JsString) :
    plainProducts read paths = browserProducts read paths ↔ PathsAgree read paths := by
  induction paths with
  | nil => exact iff_of_true rfl trivial
  | cons path paths ih =>
    have hlie := pagesLie (read path) 3 1 []
    rw [plainProducts, browserProducts, PathsAgree]
    rw [← plainPages, ← browserPagesRead] at hlie
    cases hplain : plainPages (read path) with
    | none =>
      rw [hplain] at hlie
      rw [show browserPagesRead (read path) = none from hlie]
      exact iff_of_true rfl trivial
    | some plain =>
      rw [hplain] at hlie
      cases hbrowser : browserPagesRead (read path) with
      | none =>
        rw [hbrowser] at hlie
        have henough : 500 ≤ plain.flatten.length := hlie
        dsimp only
        rw [if_neg (by rintro h; rw [h] at henough; exact absurd henough (by decide))]
        exact iff_of_false (by simp) not_false
      | some browser =>
        rw [hbrowser] at hlie
        obtain ⟨⟨more, hmore⟩, henough⟩ := hlie
        dsimp only
        by_cases hnone : plain.flatten = []
        · have hsame : plain = browser := by
            by_contra hne
            have := henough hne
            rw [hnone] at this
            exact absurd this (by decide)
          subst hsame
          rw [if_pos hnone, if_pos hnone, if_pos hnone]
          exact ih
        · have hstart : plain.flatten <+: browser.flatten :=
            ⟨more.flatten, by rw [← List.flatten_append, hmore]⟩
          have hsome : ¬ browser.flatten = [] := by
            intro h
            rw [h] at hstart
            exact hnone (List.eq_nil_of_prefix_nil hstart)
          rw [if_neg hnone, if_neg hnone, if_neg hsome, Option.some.injEq]
          exact take_dedupe_iff hstart

section

variable (urls : UrlParser) (parse : JsString → Option Json) (load : JsString → Option JsString)
  (merchantId : JsString)

/-- No text is no JSON, so the pages are the same. -/
theorem browserReadPage_eq (hempty : parse [] = none) (origin path : JsString) (page : Nat) :
    browserReadPage urls parse load merchantId origin path page =
      readFeedPage urls parse merchantId load origin path page := by
  rw [browserReadPage, readFeedPage]
  cases load (feedPageUrl origin path page) with
  | none => rfl
  | some text =>
    cases text with
    | nil =>
      show FeedRead.stop = readFeedText urls parse merchantId _ []
      rw [readFeedText, hempty]
    | cons c text => rfl

/-- **Where the two scans agree.**  On the first feed path on which the pages give a product, the handles
    that the browser scan returns are all among the plain scan's records, none is a reserved duplicate
    among them, and the later records of each add nothing to the first. -/
theorem scans_agree_iff {storeUrl : JsString} {parsed : Url} (hurl : urls.parse storeUrl = some parsed)
    (hempty : parse [] = none) (warnings : List JsString) :
    (fetchShopifyProductsJson urls parse load parsed.origin merchantId warnings).map Prod.fst =
        (browserScanShopify urls parse load merchantId storeUrl).map Prod.fst ↔
      PathsAgree (readFeedPage urls parse merchantId load parsed.origin) shopifyPaths := by
  have hread : browserReadPage urls parse load merchantId parsed.origin =
      readFeedPage urls parse merchantId load parsed.origin := by
    funext path page
    exact browserReadPage_eq urls parse load merchantId hempty parsed.origin path page
  rw [fetchShopifyProductsJson, fetchShopifyPaths_eq, browserScanShopify, hurl]
  dsimp only
  rw [browserScanPaths_eq, hread]
  exact products_agree_iff _ _

end

/-! ## A feed of two pages -/

/-- The text of a page with one product and `more` times `null`. -/
def feedText (available : Bool) (more : Nat) : JsString :=
  js "\x7b\"products\":[\x7b\"title\":\"Shoe\",\"handle\":\"shoe\"," ++
    js "\"variants\":[\x7b\"price\":100,\"available\":" ++ js (if available then "true" else "false") ++
    js "\x7d]\x7d" ++ (List.replicate more (js ",null")).flatten ++ js "]\x7d"

def feedValue (available : Bool) (more : Nat) : Json :=
  .obj [(js "products", .arr (.obj [(js "title", .str (js "Shoe")), (js "handle", .str (js "shoe")),
    (js "variants", .arr [.obj [(js "price", .num ⟨100, 0⟩), (js "available", .bool available)]])] ::
      List.replicate more .null))]

/-- `JSON.parse`, on the texts of these two pages. -/
def feedParse (text : JsString) : Option Json :=
  if text = feedText false 249 then some (feedValue false 249)
  else if text = feedText true 0 then some (feedValue true 0)
  else none

/-- The pages load as far as there are some. -/
def feedLoad (pages : List JsString) (url : JsString) : Option JsString :=
  pages.zipIdx.findSome? fun (text, i) =>
    if url = feedPageUrl (js "https://shop.example") (js "/products.json") (i + 1) then some text else none

/-- A feed whose second page does not load. -/
theorem scans_agree_iff_first_page :
    PathsAgree (readFeedPage shopUrls feedParse (js "shop") (feedLoad [feedText false 249])
      (shopUrl (js "/")).origin) shopifyPaths := by
  have hurl : shopUrls.parse (js "https://shop.example/") = some (shopUrl (js "/")) := by decide +kernel
  have hempty : feedParse [] = none := by decide +kernel
  rw [← scans_agree_iff shopUrls feedParse (feedLoad [feedText false 249]) (js "shop") hurl hempty []]
  decide +kernel

/-- The product is in stock on the second page only, where the browser scan does not look. -/
theorem later_stock_is_dropped :
    (fetchShopifyProductsJson shopUrls feedParse (feedLoad [feedText false 249, feedText true 0])
        (js "https://shop.example") (js "shop") []).map Prod.fst ≠
      (browserScanShopify shopUrls feedParse (feedLoad [feedText false 249, feedText true 0]) (js "shop")
        (js "https://shop.example/")).map Prod.fst := by
  decide +kernel

end Hundi
