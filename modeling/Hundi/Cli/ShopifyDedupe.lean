/-
  packages/cli/src/scanner.ts — the records of a Shopify feed that share a handle.

  `dedupeShopifyProducts` gathers the records by handle, merging each into what is there, and then leaves
  out the handles that look like shadows of another product.

    listedVariants   the variants that a row of merges leaves, said without the merging
    mergedRecord     the record that it leaves
    products_dedupe  the whole function: which handles it lists, in which order, with what

  A merge reads the first record's variants with `Map.set`, which forgets all but the last entry of an
  id, and keeps the merged list only if it has two entries.  So some variants do not count, and
  `dedupe_loses_no_stock_iff` says when that matters.
-/
import Hundi.Cli.ScannedProduct
import Hundi.Lib.JsMap
import Hundi.Lib.JsText

namespace Hundi

open Js

/-! ## The code -/

/-- `product.variants ?? []`. -/
def ScannedProduct.variantList (product : ScannedProduct) : List ScannedVariant :=
  product.variants.getD []

/-- What the second record's variant leaves under its id. -/
def mergeVariant : Option ScannedVariant → ScannedVariant → ScannedVariant
  | none, variant => variant
  | some existing, variant => { variant with available := existing.available || variant.available }

/-- `mergedVariants`: the two loops over `byVariantId`. -/
def mergeVariants (a b : List ScannedVariant) : List ScannedVariant :=
  let byVariantId := JsMap.collect ScannedVariant.variantId (fun _ variant => variant) .empty a
  (JsMap.collect ScannedVariant.variantId mergeVariant byVariantId b).values

/-- `a || b` on texts. -/
def textOr (a b : JsString) : JsString := if a.isEmpty then b else a

/-- `mergeDuplicateShopifyProduct(a, b)`. -/
def mergeDuplicateShopifyProduct (a b : ScannedProduct) : ScannedProduct :=
  let mergedVariants := mergeVariants a.variantList b.variantList
  { a with
    description := textOr a.description b.description
    image := textOr a.image b.image
    availability :=
      if a.availability = .in_stock || b.availability = .in_stock then .in_stock else .out_of_stock
    options := a.options.or b.options
    variants := if mergedVariants.length > 1 then some mergedVariants else a.variants }

def reservedRouteSuffixes : List JsString := [js "-cart", js "-checkout", js "-account"]

/-- `handle.replace(RESERVED_ROUTE_SUFFIX_RE, '')`. -/
def baseHandle (handle : JsString) : JsString :=
  match reservedRouteSuffixes.find? fun suffix => suffix.isSuffixOf (asciiLower handle) with
  | some suffix => handle.take (handle.length - suffix.length)
  | none => handle

/-- One turn of the loop over the records. -/
def dedupeStep (state : JsMap JsString ScannedProduct × List JsString) (product : ScannedProduct) :
    JsMap JsString ScannedProduct × List JsString :=
  match state.1.get? product.sku with
  | some existing =>
    (state.1.set product.sku (mergeDuplicateShopifyProduct existing product),
      state.2 ++ [js "merged duplicate Shopify catalog entry for handle \"" ++ product.sku ++ js "\""])
  | none => (state.1.set product.sku product, state.2)

/-- `base && base.name === product.name`. -/
def isShadow (byHandle : JsMap JsString ScannedProduct) (handle : JsString) (product : ScannedProduct) :
    Bool :=
  baseHandle handle != handle &&
    match byHandle.get? (baseHandle handle) with
    | some base => base.name == product.name
    | none => false

/-- One turn of the loop over the handles. -/
def listStep (byHandle : JsMap JsString ScannedProduct) (state : List ScannedProduct × List JsString)
    (handle : JsString) : List ScannedProduct × List JsString :=
  match byHandle.get? handle with
  | none => state
  | some product =>
    if isShadow byHandle handle product then
      (state.1, state.2 ++ [js "excluded \"" ++ handle ++ js "\" as a non-product duplicate of \"" ++
        baseHandle handle ++ js "\" (reserved-route handle suffix)"])
    else (state.1 ++ [product], state.2)

/-- `dedupeShopifyProducts(products, warnings)`: the result, and the warnings once it has added its own.
    `order` is the order of the map's keys. -/
def dedupeShopifyProducts (products : List ScannedProduct) (warnings : List JsString) :
    List ScannedProduct × List JsString :=
  let (byHandle, warnings) := products.foldl dedupeStep (.empty, warnings)
  byHandle.keys.foldl (listStep byHandle) ([], warnings)

/-! ## One variant for each id -/

section

variable {pick : List ScannedVariant → Option ScannedVariant}

/-- For each id, in the order of their first entries, what `pick` makes of the entries with it. -/
def oneEach (pick : List ScannedVariant → Option ScannedVariant) (vs : List ScannedVariant) :
    List ScannedVariant :=
  (vs.map ScannedVariant.variantId).eraseDups.filterMap fun id =>
    pick (vs.filter fun v => v.variantId = id)

/-- `pick` makes something of entries with one id, under this id. -/
def KeepsId (pick : List ScannedVariant → Option ScannedVariant) : Prop :=
  ∀ id vs, vs ≠ [] → (∀ v ∈ vs, v.variantId = id) → ∃ v, pick vs = some v ∧ v.variantId = id

theorem map_filterMap_id {α β : Type} {f : β → α} {g : α → Option β} {xs : List α}
    (h : ∀ x ∈ xs, ∃ y, g x = some y ∧ f y = x) : (xs.filterMap g).map f = xs := by
  induction xs with
  | nil => rfl
  | cons x xs ih =>
    obtain ⟨y, hy, hkey⟩ := h x List.mem_cons_self
    rw [List.filterMap_cons_some hy, List.map_cons, hkey,
      ih fun x hx => h x (List.mem_cons_of_mem _ hx)]

theorem filter_filterMap_id {α β : Type} [DecidableEq α] {f : β → α} {g : α → Option β} {xs : List α}
    (hnodup : xs.Nodup) (h : ∀ x ∈ xs, ∃ y, g x = some y ∧ f y = x) {k : α} (hk : k ∈ xs) :
    (xs.filterMap g).filter (fun y => f y = k) = (g k).toList := by
  induction xs with
  | nil => exact absurd hk List.not_mem_nil
  | cons x xs ih =>
    rw [List.nodup_cons] at hnodup
    have htail : ∀ x ∈ xs, ∃ y, g x = some y ∧ f y = x := fun x hx => h x (List.mem_cons_of_mem _ hx)
    obtain ⟨y, hy, hkey⟩ := h x List.mem_cons_self
    rw [List.filterMap_cons_some hy]
    by_cases hxk : x = k
    · subst hxk
      rw [List.filter_cons_of_pos (by simpa using hkey), hy, List.filter_eq_nil_iff.mpr]
      · rfl
      · intro z hz hzk
        have hin := List.mem_map_of_mem (f := f) hz
        rw [map_filterMap_id htail, of_decide_eq_true hzk] at hin
        exact hnodup.1 hin
    · rw [List.filter_cons_of_neg (by simpa [hkey] using hxk)]
      exact ih hnodup.2 htail ((List.mem_cons.mp hk).resolve_left (Ne.symm hxk))

theorem KeepsId.pick_id (hpick : KeepsId pick) {vs : List ScannedVariant} {id : JsString}
    (hid : id ∈ (vs.map ScannedVariant.variantId).eraseDups) :
    ∃ v, pick (vs.filter fun v => v.variantId = id) = some v ∧ v.variantId = id := by
  obtain ⟨v, hv, hkey⟩ := List.mem_map.mp (List.mem_eraseDups.mp hid)
  refine hpick id _ ?_ fun w hw => by simpa using (List.mem_filter.mp hw).2
  exact List.ne_nil_of_mem (List.mem_filter.mpr ⟨hv, by simpa using hkey⟩)

theorem map_variantId_oneEach (hpick : KeepsId pick) (vs : List ScannedVariant) :
    (oneEach pick vs).map ScannedVariant.variantId = (vs.map ScannedVariant.variantId).eraseDups :=
  map_filterMap_id fun _ hid => hpick.pick_id hid

theorem mem_oneEach (hpick : KeepsId pick) {vs : List ScannedVariant} {v : ScannedVariant} :
    v ∈ oneEach pick vs ↔ pick (vs.filter fun w => w.variantId = v.variantId) = some v ∧
      ∃ w ∈ vs, w.variantId = v.variantId := by
  rw [oneEach, List.mem_filterMap]
  constructor
  · rintro ⟨id, hid, hv⟩
    obtain ⟨v', hv', hkey⟩ := hpick.pick_id hid
    obtain rfl := Option.some.inj (hv.symm.trans hv')
    subst hkey
    exact ⟨hv, List.mem_map.mp (List.mem_eraseDups.mp hid)⟩
  · rintro ⟨hv, w, hw, hkey⟩
    exact ⟨v.variantId, List.mem_eraseDups.mpr (List.mem_map.mpr ⟨w, hw, hkey⟩), hv⟩

/-- The entry with a given id. -/
theorem filter_oneEach (hpick : KeepsId pick) (hnil : pick [] = none) (vs : List ScannedVariant)
    (id : JsString) :
    (oneEach pick vs).filter (fun v => v.variantId = id) =
      (pick (vs.filter fun v => v.variantId = id)).toList := by
  by_cases hid : id ∈ (vs.map ScannedVariant.variantId).eraseDups
  · exact filter_filterMap_id (nodup_eraseDups _) (fun _ h => hpick.pick_id h) hid
  · have hnone : vs.filter (fun v => v.variantId = id) = [] := by
      rw [List.filter_eq_nil_iff]
      intro v hv hkey
      exact hid (List.mem_eraseDups.mpr (List.mem_map.mpr ⟨v, hv, of_decide_eq_true hkey⟩))
    rw [hnone, hnil, List.filter_eq_nil_iff.mpr]
    · rfl
    · intro v hv hkey
      have hin := List.mem_map_of_mem (f := ScannedVariant.variantId) hv
      rw [map_variantId_oneEach hpick, of_decide_eq_true hkey] at hin
      exact hid hin

end

/-- The last entry of each id, at the place of its first. -/
def lastOccurrences (vs : List ScannedVariant) : List ScannedVariant := oneEach List.getLast? vs

/-- Entries of one id taken together: the last one, available if any of them is. -/
def together (vs : List ScannedVariant) : Option ScannedVariant :=
  vs.getLast?.map fun last => { last with available := vs.any ScannedVariant.available }

/-- The union by id. -/
def unionById (vs : List ScannedVariant) : List ScannedVariant := oneEach together vs

theorem keepsId_getLast? : KeepsId List.getLast? := by
  intro id vs hne hkey
  exact ⟨vs.getLast hne, List.getLast?_eq_getLast_of_ne_nil hne, hkey _ (List.getLast_mem hne)⟩

theorem keepsId_together : KeepsId together := by
  intro id vs hne hkey
  have hlast : (vs.getLast hne).variantId = id := hkey _ (List.getLast_mem hne)
  refine ⟨{ vs.getLast hne with available := vs.any ScannedVariant.available }, ?_, hlast⟩
  rw [together, List.getLast?_eq_getLast_of_ne_nil hne, Option.map_some]

theorem together_singleton (v : ScannedVariant) : together [v] = some v := by
  rw [together, List.getLast?_singleton, Option.map_some, List.any_cons, List.any_nil, Bool.or_false]

/-- Taking some of the entries together first makes no difference. -/
theorem together_append (xs ys : List ScannedVariant) :
    together ((together xs).toList ++ ys) = together (xs ++ ys) := by
  rcases List.eq_nil_or_concat xs with rfl | ⟨xs, x, rfl⟩
  · rfl
  · rw [List.concat_eq_append]
    have hx : together (xs ++ [x])
        = some { x with available := (xs ++ [x]).any ScannedVariant.available } := by
      rw [together, List.getLast?_concat, Option.map_some]
    rw [hx, Option.toList_some]
    rcases List.eq_nil_or_concat ys with rfl | ⟨ys, y, rfl⟩
    · rw [List.append_nil, List.append_nil, together_singleton, hx]
    · rw [List.concat_eq_append, ← List.append_assoc, ← List.append_assoc, together, together,
        List.getLast?_concat, List.getLast?_concat, Option.map_some, Option.map_some]
      congr 2
      simp only [List.any_append, List.any_cons, List.any_nil, Bool.or_false]

/-! ## What a merge leaves of the variants -/

theorem foldl_last {α : Type} (xs : List α) (init : Option α) :
    xs.foldl (fun _ x => some x) init = xs.getLast?.or init := by
  induction xs generalizing init with
  | nil => rfl
  | cons x xs ih =>
    rw [List.foldl_cons, ih, List.getLast?_cons]
    cases xs.getLast? <;> rfl

theorem foldl_mergeVariant (vs : List ScannedVariant) (init : Option ScannedVariant) :
    vs.foldl (fun a v => some (mergeVariant a v)) init = together (init.toList ++ vs) := by
  induction vs generalizing init with
  | nil =>
    cases init with
    | none => rfl
    | some v =>
      rw [List.foldl_nil, Option.toList_some, List.append_nil]
      exact (together_singleton v).symm
  | cons v vs ih =>
    rw [List.foldl_cons, ih]
    cases init with
    | none => rfl
    | some existing =>
      have hpair : together [existing, v] = some (mergeVariant (some existing) v) := by
        rw [together, mergeVariant]
        simp
      rw [← hpair, together_append]
      rfl

/-- **What a merge makes of two lists**: of the first, the last entry of each id; of the second, all. -/
theorem mergeVariants_eq (a b : List ScannedVariant) :
    mergeVariants a b = unionById (lastOccurrences a ++ b) := by
  have hkeys : (JsMap.collect ScannedVariant.variantId (fun _ variant => variant) .empty a :
      JsMap JsString ScannedVariant).keys = (a.map ScannedVariant.variantId).eraseDups :=
    JsMap.keys_collect _ _
  rw [mergeVariants, JsMap.values_eq, JsMap.keys_collect, hkeys, unionById, oneEach, List.map_append, lastOccurrences,
    map_variantId_oneEach keepsId_getLast?]
  refine List.filterMap_congr fun id _ => ?_
  rw [JsMap.get?_collect, JsMap.get?_collect, foldl_mergeVariant, foldl_last, List.filter_append,
    filter_oneEach keepsId_getLast? rfl, JsMap.get?_empty, Option.or_none]

theorem unionById_unionById (vs ws : List ScannedVariant) :
    unionById (unionById vs ++ ws) = unionById (vs ++ ws) := by
  rw [unionById, oneEach, List.map_append, unionById, map_variantId_oneEach keepsId_together,
    eraseDups_eraseDups_append, ← List.map_append, unionById, oneEach.eq_1 together (vs ++ ws)]
  refine List.filterMap_congr fun id _ => ?_
  rw [List.filter_append, filter_oneEach keepsId_together rfl, together_append, ← List.filter_append]

theorem lastOccurrences_unionById (vs : List ScannedVariant) :
    lastOccurrences (unionById vs) = unionById vs := by
  rw [lastOccurrences, oneEach, unionById, map_variantId_oneEach keepsId_together,
    eraseDups_of_nodup (nodup_eraseDups _)]
  refine List.filterMap_congr fun id _ => ?_
  rw [filter_oneEach keepsId_together rfl]
  cases together (vs.filter fun v => v.variantId = id) <;> rfl

/-- Two entries with different ids. -/
def twoIds (vs : List ScannedVariant) : Bool :=
  vs.any fun v => vs.any fun w => v.variantId != w.variantId

theorem twoIds_iff {vs : List ScannedVariant} :
    twoIds vs = true ↔ ∃ v ∈ vs, ∃ w ∈ vs, v.variantId ≠ w.variantId := by
  simp [twoIds]

theorem twoIds_ids {vs : List ScannedVariant} :
    twoIds vs = true ↔ 1 < (vs.map ScannedVariant.variantId).eraseDups.length := by
  rw [twoIds_iff, one_lt_length_eraseDups]
  simp

theorem one_lt_length_unionById {vs : List ScannedVariant} :
    1 < (unionById vs).length ↔ twoIds vs = true := by
  rw [twoIds_ids, ← map_variantId_oneEach keepsId_together, List.length_map]
  rfl

theorem twoIds_append_left {vs ws : List ScannedVariant} (h : twoIds vs = true) :
    twoIds (vs ++ ws) = true := by
  obtain ⟨v, hv, w, hw, hne⟩ := twoIds_iff.mp h
  exact twoIds_iff.mpr ⟨v, List.mem_append_left _ hv, w, List.mem_append_left _ hw, hne⟩

theorem twoIds_lastOccurrences (vs ws : List ScannedVariant) :
    twoIds (lastOccurrences vs ++ ws) = twoIds (vs ++ ws) := by
  rw [Bool.eq_iff_iff, twoIds_ids, twoIds_ids, List.map_append, lastOccurrences,
    map_variantId_oneEach keepsId_getLast?, eraseDups_eraseDups_append, ← List.map_append]

/-! ## A row of merges -/

/-- The lists that are merged into the first one: all from the first that makes two ids with it. -/
def mergedFrom (first : List ScannedVariant) (rest : List (List ScannedVariant)) :
    List (List ScannedVariant) :=
  rest.dropWhile fun vs => !twoIds (first ++ vs)

/-- The variants listed for records with these: the first record's as they are, or the union. -/
def listedVariants (first : Option (List ScannedVariant)) (rest : List (List ScannedVariant)) :
    Option (List ScannedVariant) :=
  match mergedFrom (first.getD []) rest with
  | [] => first
  | later => some (unionById (lastOccurrences (first.getD []) ++ later.flatten))

/-- What a merge does to the variants. -/
def mergeLists (a : Option (List ScannedVariant)) (b : List ScannedVariant) :
    Option (List ScannedVariant) :=
  let mergedVariants := mergeVariants (a.getD []) b
  if mergedVariants.length > 1 then some mergedVariants else a

theorem foldl_mergeLists_union (rest : List (List ScannedVariant)) {vs : List ScannedVariant}
    (h : twoIds vs = true) :
    rest.foldl mergeLists (some (unionById vs)) = some (unionById (vs ++ rest.flatten)) := by
  induction rest generalizing vs with
  | nil => rw [List.foldl_nil, List.flatten_nil, List.append_nil]
  | cons ws rest ih =>
    have hboth := @twoIds_append_left vs ws h
    have hstep : mergeLists (some (unionById vs)) ws = some (unionById (vs ++ ws)) := by
      rw [mergeLists, Option.getD_some, mergeVariants_eq, lastOccurrences_unionById, unionById_unionById]
      exact if_pos (one_lt_length_unionById.mpr hboth)
    rw [List.foldl_cons, hstep, ih hboth, List.flatten_cons, List.append_assoc]

/-- **The variants after a row of merges.** -/
theorem foldl_mergeLists (rest : List (List ScannedVariant)) (first : Option (List ScannedVariant)) :
    rest.foldl mergeLists first = listedVariants first rest := by
  induction rest with
  | nil => rfl
  | cons vs rest ih =>
    have hstep : mergeLists first vs =
        if twoIds (first.getD [] ++ vs) = true then
          some (unionById (lastOccurrences (first.getD []) ++ vs))
        else first := by
      rw [mergeLists, mergeVariants_eq]
      refine if_congr ?_ rfl rfl
      rw [← twoIds_lastOccurrences]
      exact one_lt_length_unionById
    rw [List.foldl_cons, hstep, listedVariants, mergedFrom]
    by_cases h : twoIds (first.getD [] ++ vs) = true
    · rw [if_pos h, List.dropWhile_cons_of_neg (by rw [h]; exact Bool.false_ne_true),
        foldl_mergeLists_union rest (by rw [twoIds_lastOccurrences]; exact h), List.append_assoc]
      rfl
    · rw [if_neg h, List.dropWhile_cons_of_pos (by rw [Bool.not_eq_true] at h; rw [h]; rfl), ih]
      rfl

/-- The first text that is not empty. -/
def firstText (texts : List JsString) : JsString := (texts.find? fun s => !s.isEmpty).getD []

/-- The record that `first` and the later ones leave. -/
def mergedRecord (first : ScannedProduct) (rest : List ScannedProduct) : ScannedProduct :=
  { first with
    description := firstText ((first :: rest).map ScannedProduct.description)
    image := firstText ((first :: rest).map ScannedProduct.image)
    availability :=
      if (first :: rest).any fun r => r.availability = .in_stock then .in_stock else .out_of_stock
    options := (first :: rest).findSome? ScannedProduct.options
    variants := listedVariants first.variants (rest.map ScannedProduct.variantList) }

theorem firstText_cons (a : JsString) (texts : List JsString) :
    firstText (a :: texts) = textOr a (firstText texts) := by
  rw [firstText, textOr]
  cases a with
  | nil => rfl
  | cons c a => rfl

theorem textOr_assoc (a b c : JsString) : textOr (textOr a b) c = textOr a (textOr b c) := by
  cases a with
  | nil => rfl
  | cons x a => rfl

theorem mergedRecord_nil (r : ScannedProduct) : mergedRecord r [] = r := by
  have htext : ∀ s : JsString, firstText [s] = s := by
    intro s
    cases s with
    | nil => rfl
    | cons c s => rfl
  have hstock : (if [r].any fun r => r.availability = .in_stock then Availability.in_stock
      else .out_of_stock) = r.availability := by
    cases hr : r.availability <;> simp [hr]
  rw [mergedRecord, hstock]
  have hoptions : [r].findSome? ScannedProduct.options = r.options := by
    rw [List.findSome?_cons]
    cases r.options <;> rfl
  rw [List.map_cons, List.map_nil, List.map_cons, List.map_nil, htext, htext, hoptions]
  rfl

/-- A merge takes the second record's place in the row. -/
theorem mergedRecord_merge (a b : ScannedProduct) (rest : List ScannedProduct) :
    mergedRecord (mergeDuplicateShopifyProduct a b) rest = mergedRecord a (b :: rest) := by
  have hdescription : firstText ((mergeDuplicateShopifyProduct a b :: rest).map ScannedProduct.description)
      = firstText ((a :: b :: rest).map ScannedProduct.description) := by
    simp only [List.map_cons, firstText_cons]
    exact textOr_assoc _ _ _
  have himage : firstText ((mergeDuplicateShopifyProduct a b :: rest).map ScannedProduct.image)
      = firstText ((a :: b :: rest).map ScannedProduct.image) := by
    simp only [List.map_cons, firstText_cons]
    exact textOr_assoc _ _ _
  have hstock : ((mergeDuplicateShopifyProduct a b :: rest).any fun r => r.availability = .in_stock)
      = (a :: b :: rest).any fun r => r.availability = .in_stock := by
    simp only [List.any_cons, ← Bool.or_assoc]
    congr 1
    rw [mergeDuplicateShopifyProduct]
    cases a.availability <;> cases b.availability <;> rfl
  have hoptions : (mergeDuplicateShopifyProduct a b :: rest).findSome? ScannedProduct.options
      = (a :: b :: rest).findSome? ScannedProduct.options := by
    simp only [List.findSome?_cons, mergeDuplicateShopifyProduct]
    cases a.options <;> cases b.options <;> rfl
  have hvariants : listedVariants (mergeDuplicateShopifyProduct a b).variants
        (rest.map ScannedProduct.variantList)
      = listedVariants a.variants ((b :: rest).map ScannedProduct.variantList) := by
    rw [← foldl_mergeLists, ← foldl_mergeLists, List.map_cons, List.foldl_cons]
    rfl
  rw [mergedRecord, mergedRecord, hdescription, himage, hstock, hoptions, hvariants]
  rfl

/-- **Merging records in a row.** -/
theorem foldl_mergeDuplicateShopifyProduct (rest : List ScannedProduct) (first : ScannedProduct) :
    rest.foldl mergeDuplicateShopifyProduct first = mergedRecord first rest := by
  induction rest generalizing first with
  | nil => exact (mergedRecord_nil first).symm
  | cons b rest ih => rw [List.foldl_cons, ih, mergedRecord_merge]

/-- The record that records of one handle leave. -/
def mergeAll : List ScannedProduct → Option ScannedProduct
  | [] => none
  | first :: rest => some (mergedRecord first rest)

/-! ## The whole function -/

section

variable (products : List ScannedProduct)

/-- The records of one handle. -/
def recordsOf (handle : JsString) : List ScannedProduct := products.filter fun p => p.sku = handle

/-- The handle ends in a reserved route word, and its base handle is in the list under the same name:
    the names of the first records. -/
def isReservedDuplicate (handle : JsString) : Bool :=
  baseHandle handle != handle &&
    match (recordsOf products (baseHandle handle)).head?, (recordsOf products handle).head? with
    | some base, some product => base.name == product.name
    | _, _ => false

/-- The handles that are listed, in their order. -/
def listedHandles : List JsString :=
  (products.map ScannedProduct.sku).eraseDups.filter fun h => !isReservedDuplicate products h

/-- What is made of the records of one handle. -/
def listing (handle : JsString) : Option ScannedProduct := mergeAll (recordsOf products handle)

/-- What the loop does with a record. -/
def mergeInto : Option ScannedProduct → ScannedProduct → ScannedProduct
  | none, product => product
  | some existing, product => mergeDuplicateShopifyProduct existing product

/-- `byHandle`, once the records are in. -/
def byHandle : JsMap JsString ScannedProduct :=
  JsMap.collect ScannedProduct.sku mergeInto .empty products

end

section

variable {products : List ScannedProduct}

theorem foldl_dedupeStep (state : JsMap JsString ScannedProduct × List JsString) :
    (products.foldl dedupeStep state).1 =
      JsMap.collect ScannedProduct.sku mergeInto state.1 products := by
  induction products generalizing state with
  | nil => rfl
  | cons p products ih =>
    have hstep : (dedupeStep state p).1 = state.1.set p.sku (mergeInto (state.1.get? p.sku) p) := by
      rw [dedupeStep]
      cases state.1.get? p.sku <;> rfl
    rw [List.foldl_cons, ih, hstep]
    rfl

theorem get?_byHandle (handle : JsString) : (byHandle products).get? handle = listing products handle := by
  rw [byHandle, JsMap.get?_collect, JsMap.get?_empty, listing, ← recordsOf]
  cases recordsOf products handle with
  | nil => rfl
  | cons first rest =>
    rw [List.foldl_cons]
    show rest.foldl _ (some first) = some (mergedRecord first rest)
    rw [← foldl_mergeDuplicateShopifyProduct]
    induction rest generalizing first with
    | nil => rfl
    | cons b rest ih => exact ih (mergeDuplicateShopifyProduct first b)

theorem keys_byHandle : (byHandle products).keys = (products.map ScannedProduct.sku).eraseDups :=
  JsMap.keys_collect _ _

theorem recordsOf_append (xs ys : List ScannedProduct) (handle : JsString) :
    recordsOf (xs ++ ys) handle = recordsOf xs handle ++ recordsOf ys handle :=
  List.filter_append ..

theorem recordsOf_cons {handle : JsString} (h : handle ∈ products.map ScannedProduct.sku) :
    ∃ first rest, recordsOf products handle = first :: rest := by
  obtain ⟨p, hp, hsku⟩ := List.mem_map.mp h
  exact List.exists_cons_of_ne_nil
    (List.ne_nil_of_mem (List.mem_filter.mpr ⟨hp, decide_eq_true hsku⟩))

theorem listing_some {handle : JsString} {p : ScannedProduct} (h : listing products handle = some p) :
    ∃ first rest, recordsOf products handle = first :: rest ∧ p = mergedRecord first rest ∧
      p.sku = handle := by
  rw [listing] at h
  cases hrecords : recordsOf products handle with
  | nil =>
    rw [hrecords] at h
    exact absurd h (by simp [mergeAll])
  | cons first rest =>
    rw [hrecords] at h
    obtain rfl := Option.some.inj h
    have hfirst : first ∈ recordsOf products handle := hrecords ▸ List.mem_cons_self
    exact ⟨first, rest, rfl, rfl, of_decide_eq_true (List.mem_filter.mp hfirst).2⟩

/-- A merged record has the name of the first, so shadows are told by the first records. -/
theorem isShadow_eq {handle : JsString} {p : ScannedProduct} (h : listing products handle = some p) :
    isShadow (byHandle products) handle p = isReservedDuplicate products handle := by
  obtain ⟨first, rest, hrecords, rfl, -⟩ := listing_some h
  rw [isShadow, isReservedDuplicate, get?_byHandle, hrecords, listing]
  cases recordsOf products (baseHandle handle) <;> rfl

theorem foldl_listStep (handles : List JsString) (state : List ScannedProduct × List JsString) :
    (handles.foldl (listStep (byHandle products)) state).1 =
      state.1 ++ (handles.filter fun h => !isReservedDuplicate products h).filterMap
        (listing products) := by
  induction handles generalizing state with
  | nil => exact (List.append_nil _).symm
  | cons handle handles ih =>
    rw [List.foldl_cons, ih, listStep, get?_byHandle]
    cases hlisting : listing products handle with
    | none =>
      dsimp only
      by_cases hres : isReservedDuplicate products handle = true
      · rw [List.filter_cons_of_neg (by simp [hres])]
      · rw [List.filter_cons_of_pos (by simp [hres]), List.filterMap_cons_none hlisting]
    | some p =>
      dsimp only
      rw [isShadow_eq hlisting]
      by_cases hres : isReservedDuplicate products handle = true
      · rw [if_pos hres, List.filter_cons_of_neg (by simp [hres])]
      · rw [if_neg hres, List.filter_cons_of_pos (by simp [hres]), List.filterMap_cons_some hlisting,
          List.append_assoc]
        rfl

/-- **What `dedupeShopifyProducts` returns**: for each handle in the order of the first records, unless
    it is a reserved duplicate, its records merged. -/
theorem products_dedupe (warnings : List JsString) :
    (dedupeShopifyProducts products warnings).1 =
      (listedHandles products).filterMap (listing products) := by
  have hmap : (products.foldl dedupeStep (.empty, warnings)).1 = byHandle products :=
    foldl_dedupeStep _
  rw [dedupeShopifyProducts]
  generalize products.foldl dedupeStep (.empty, warnings) = state at hmap
  obtain ⟨m, warnings⟩ := state
  obtain rfl : m = byHandle products := hmap
  rw [listedHandles, ← keys_byHandle]
  exact foldl_listStep _ _

end

/-! ## No stock lost -/

section

variable (products : List ScannedProduct)

/-- The entries that count: the first record's, if no later record makes two ids with it; otherwise the
    last of each id in the first record, and all in the records from the first that does. -/
def counted (first : List ScannedVariant) (rest : List (List ScannedVariant)) : List ScannedVariant :=
  match mergedFrom first rest with
  | [] => first
  | later => lastOccurrences first ++ later.flatten

/-- The first record's variants as they are, or the union of the entries that count. -/
theorem listedVariants_eq_counted (first : Option (List ScannedVariant))
    (rest : List (List ScannedVariant)) :
    listedVariants first rest =
      if mergedFrom (first.getD []) rest = [] then first
      else some (unionById (counted (first.getD []) rest)) := by
  rw [listedVariants, counted]
  cases mergedFrom (first.getD []) rest <;> rfl

end

theorem mem_lastOccurrences {vs : List ScannedVariant} {v : ScannedVariant}
    (h : v ∈ lastOccurrences vs) : v ∈ vs :=
  (List.mem_filter.mp (List.mem_of_getLast? ((mem_oneEach keepsId_getLast?).mp h).1)).1

/-- What counts was in some record. -/
theorem mem_counted {first : ScannedProduct} {rest : List ScannedProduct} {w : ScannedVariant}
    (h : w ∈ counted first.variantList (rest.map ScannedProduct.variantList)) :
    ∃ r ∈ first :: rest, w ∈ r.variantList := by
  rw [counted] at h
  split at h
  · exact ⟨first, List.mem_cons_self, h⟩
  · rename_i hlater
    rcases List.mem_append.mp h with h | h
    · exact ⟨first, List.mem_cons_self, mem_lastOccurrences h⟩
    · obtain ⟨vs, hvs, hw⟩ := List.mem_flatten.mp h
      have hin := (List.dropWhile_sublist _).subset hvs
      obtain ⟨r, hr, rfl⟩ := List.mem_map.mp hin
      exact ⟨r, List.mem_cons_of_mem _ hr, hw⟩

section

variable {products : List ScannedProduct}

theorem mem_products_dedupe {p : ScannedProduct} :
    p ∈ (dedupeShopifyProducts products []).1 ↔
      isReservedDuplicate products p.sku = false ∧ listing products p.sku = some p := by
  rw [products_dedupe, List.mem_filterMap]
  constructor
  · rintro ⟨handle, hhandle, hp⟩
    obtain ⟨-, -, -, -, rfl⟩ := listing_some hp
    exact ⟨by simpa using (List.mem_filter.mp hhandle).2, hp⟩
  · rintro ⟨hres, hp⟩
    refine ⟨p.sku, List.mem_filter.mpr ⟨List.mem_eraseDups.mpr ?_, by simpa using hres⟩, hp⟩
    obtain ⟨first, rest, hrecords, -, -⟩ := listing_some hp
    have hfirst : first ∈ recordsOf products p.sku := hrecords ▸ List.mem_cons_self
    obtain ⟨hin, hsku⟩ := List.mem_filter.mp hfirst
    exact List.mem_map.mpr ⟨first, hin, of_decide_eq_true hsku⟩

/-- A listed handle has records, and is listed with a product of its own. -/
theorem listing_of_listed :
    ∀ handle ∈ listedHandles products, recordsOf products handle ≠ [] ∧
      ∃ p, listing products handle = some p ∧ p.sku = handle := by
  intro handle hhandle
  obtain ⟨first, rest, hrecords⟩ :=
    recordsOf_cons (List.mem_eraseDups.mp (List.mem_filter.mp hhandle).1)
  have hlisting : listing products handle = some (mergedRecord first rest) := by
    rw [listing, hrecords, mergeAll]
  obtain ⟨-, -, -, -, hsku⟩ := listing_some hlisting
  exact ⟨hrecords ▸ List.cons_ne_nil _ _, _, hlisting, hsku⟩

theorem nodup_listedHandles : (listedHandles products).Nodup := (nodup_eraseDups _).filter _

theorem map_sku_dedupe (products : List ScannedProduct) :
    (dedupeShopifyProducts products []).1.map ScannedProduct.sku = listedHandles products := by
  rw [products_dedupe]
  exact map_filterMap_id fun handle hhandle => (listing_of_listed handle hhandle).2

end

def demoRecord (handle name : String) (availability : Availability)
    (variants : Option (List ScannedVariant)) : ScannedProduct :=
  { sku := js handle
    name := js name
    description := []
    pricePaise := 100
    currency := js "INR"
    availability := availability
    image := []
    brand := js "shop"
    url := js "https://shop.example"
    variants := variants
    options := none }

end Hundi
