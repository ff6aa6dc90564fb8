/-
  packages/cli/src/scanner.ts — whether it matters where a feed is cut into pages.

  `fetchShopifyProductsJson` deduplicates each page and then the pages together.  Two things are lost on
  the way.  A page leaves out what looks like a shadow on this page, though it may be none in the whole
  feed; and the variants of a page are merged before those of the next, which counts other entries than
  merging them in a row.  `page_boundaries_iff` says when neither shows: of the handles, of the records
  that the pages keep, and of the entries that count.
-/
import Hundi.Cli.VariantEntries

namespace Hundi

open Js

/-! ## Both ways -/

/-- Each page deduplicated, and the pages together. -/
def dedupePages (pages : List (List ScannedProduct)) : List ScannedProduct :=
  (dedupeShopifyProducts (pages.map fun page => (dedupeShopifyProducts page []).1).flatten []).1

/-- It does not matter where these pages were cut. -/
def BoundariesDontMatter (pages : List (List ScannedProduct)) : Prop :=
  dedupePages pages = (dedupeShopifyProducts pages.flatten []).1

/-- The records of a page but those that are reserved duplicates on it. -/
def keptOn (page : List ScannedProduct) : List ScannedProduct :=
  page.filter fun r => !isReservedDuplicate page r.sku

/-- The records that the pages keep. -/
def survivors (pages : List (List ScannedProduct)) : List ScannedProduct := (pages.map keptOn).flatten

/-- The records of a handle that the pages keep, for each page that keeps some. -/
def groupsOf (pages : List (List ScannedProduct)) (handle : JsString) : List (List ScannedProduct) :=
  (pages.map fun page => recordsOf (keptOn page) handle).filter fun group => !group.isEmpty

/-- What a merge takes from the first record. -/
def ScannedProduct.fixed (r : ScannedProduct) : JsString × JsString × Int × JsString × JsString × JsString :=
  (r.sku, r.name, r.pricePaise, r.currency, r.brand, r.url)

/-- The handle has a record, and is not a reserved duplicate. -/
def Listed (products : List ScannedProduct) (handle : JsString) : Prop :=
  (∃ r ∈ products, r.sku = handle) ∧ isReservedDuplicate products handle = false

/-- `kept` lists the handles that `records` do, in the same order: where some record of one handle
    stands in front of all those of another, so it does in `kept`. -/
structure SameHandles (kept records : List ScannedProduct) : Prop where
  listed : ∀ handle, Listed kept handle ↔ Listed records handle
  order : ∀ a b, Listed records a → Listed records b →
    Precedes (records.map ScannedProduct.sku) a b → Precedes (kept.map ScannedProduct.sku) a b

/-- What the records of a handle have is also in its groups: the first record as far as a merge keeps it,
    the first description, image and options, a record in stock; and the entries that count when the
    groups are merged are as those that count in a row. -/
structure SameListing (groups : List (List ScannedProduct)) (records : List ScannedProduct) : Prop where
  first : FirstSurvives (fun _ => True) ScannedProduct.fixed groups.flatten records
  description : FirstSurvives (fun r => r.description ≠ []) ScannedProduct.description groups.flatten records
  image : FirstSurvives (fun r => r.image ≠ []) ScannedProduct.image groups.flatten records
  options : FirstSurvives (fun r => r.options ≠ none) ScannedProduct.options groups.flatten records
  stock : ∀ r ∈ records, r.availability = .in_stock → ∃ k ∈ groups.flatten, k.availability = .in_stock
  variants : (pagedSource groups).Same (rowSource records)

/-! ## Merging group by group -/

/-- The record with these parts. -/
def assemble (records : List ScannedProduct) (source : VariantSource) : Option ScannedProduct :=
  records.head?.map fun first =>
    { first with
      description := firstText (records.map ScannedProduct.description)
      image := firstText (records.map ScannedProduct.image)
      availability :=
        if records.any fun r => r.availability = .in_stock then .in_stock else .out_of_stock
      options := records.findSome? ScannedProduct.options
      variants := source.variants }

theorem mergeAll_eq (records : List ScannedProduct) :
    mergeAll records = assemble records (rowSource records) := by
  cases records with
  | nil => rfl
  | cons first rest =>
    rw [mergeAll, mergedRecord, listedVariants_row]
    rfl

theorem firstText_append (xs ys : List JsString) :
    firstText (xs ++ ys) = textOr (firstText xs) (firstText ys) := by
  induction xs with
  | nil => rfl
  | cons x xs ih => rw [List.cons_append, firstText_cons, ih, firstText_cons, textOr_assoc]

/-- Records that are each made of a group. -/
inductive MadeOf : List ScannedProduct → List (List ScannedProduct) → Prop where
  | nil : MadeOf [] []
  | cons {first : ScannedProduct} {rest : List ScannedProduct} {made : List ScannedProduct}
      {groups : List (List ScannedProduct)} (h : MadeOf made groups) :
      MadeOf (mergedRecord first rest :: made) ((first :: rest) :: groups)

theorem MadeOf.head? {made : List ScannedProduct} {groups : List (List ScannedProduct)}
    (h : MadeOf made groups) :
    made.head?.map ScannedProduct.fixed = groups.flatten.head?.map ScannedProduct.fixed := by
  cases h <;> rfl

theorem MadeOf.texts {made : List ScannedProduct} {groups : List (List ScannedProduct)}
    (h : MadeOf made groups) :
    firstText (made.map ScannedProduct.description) =
        firstText (groups.flatten.map ScannedProduct.description) ∧
      firstText (made.map ScannedProduct.image) =
        firstText (groups.flatten.map ScannedProduct.image) := by
  induction h with
  | nil => exact ⟨rfl, rfl⟩
  | cons h ih =>
    rw [List.map_cons, List.map_cons, firstText_cons, firstText_cons, List.flatten_cons, List.map_append,
      List.map_append, firstText_append, firstText_append, ih.1, ih.2]
    exact ⟨rfl, rfl⟩

theorem MadeOf.options {made : List ScannedProduct} {groups : List (List ScannedProduct)}
    (h : MadeOf made groups) :
    made.findSome? ScannedProduct.options = groups.flatten.findSome? ScannedProduct.options := by
  induction h with
  | nil => rfl
  | @cons first rest made groups h ih =>
    rw [List.flatten_cons, List.findSome?_append, ← ih, List.findSome?_cons]
    have hmerged : (mergedRecord first rest).options
        = (first :: rest).findSome? ScannedProduct.options := rfl
    rw [hmerged]
    cases (first :: rest).findSome? ScannedProduct.options <;> rfl

theorem MadeOf.stock {made : List ScannedProduct} {groups : List (List ScannedProduct)}
    (h : MadeOf made groups) :
    (made.any fun r => r.availability = .in_stock) =
      groups.flatten.any fun r => r.availability = .in_stock := by
  induction h with
  | nil => rfl
  | @cons first rest made groups h ih =>
    rw [List.flatten_cons, List.any_append, ← ih, List.any_cons]
    congr 1
    show decide ((if (first :: rest).any fun r => r.availability = .in_stock then Availability.in_stock
      else .out_of_stock) = .in_stock) = _
    cases (first :: rest).any fun r => r.availability = .in_stock <;> rfl

theorem MadeOf.variants {made : List ScannedProduct} {groups : List (List ScannedProduct)}
    (h : MadeOf made groups) : (rowSource made).variants = (pagedSource groups).variants := by
  have hlists : ∀ {made groups}, MadeOf made groups → made.map ScannedProduct.variantList =
      (groups.map rowSource).map fun source => source.variants.getD [] := by
    intro made groups h
    induction h with
    | nil => rfl
    | @cons first rest made groups h ih =>
      rw [List.map_cons, List.map_cons, List.map_cons, ih, ← listedVariants_row]
      rfl
  cases h with
  | nil => rfl
  | @cons first rest made groups h =>
    rw [← listedVariants_row, hlists h, pagedSource, List.map_cons]
    show listedVariants (listedVariants first.variants (rest.map ScannedProduct.variantList)) _ = _
    rw [listedVariants_row]
    exact VariantSource.variants_mergeRow _ _

/-- **Merging group by group.** -/
theorem MadeOf.mergeAll {made : List ScannedProduct} {groups : List (List ScannedProduct)}
    (h : MadeOf made groups) : mergeAll made = assemble groups.flatten (pagedSource groups) := by
  rw [mergeAll_eq, assemble, assemble, h.texts.1, h.texts.2, h.options, h.stock, h.variants]
  cases h <;> rfl

/-! ## What the records kept have -/

theorem firstText_map (f : ScannedProduct → JsString) (rs : List ScannedProduct) :
    firstText (rs.map f) = ((rs.find? fun r => f r ≠ []).map f).getD [] := by
  induction rs with
  | nil => rfl
  | cons r rs ih =>
    rw [List.map_cons, firstText_cons, ih, List.find?_cons]
    cases hr : f r with
    | nil => rfl
    | cons c s =>
      show c :: s = f r
      exact hr.symm

theorem findSome?_map (f : ScannedProduct → Option (List ScannedOption)) (rs : List ScannedProduct) :
    rs.findSome? f = ((rs.find? fun r => f r ≠ none).map f).getD none := by
  induction rs with
  | nil => rfl
  | cons r rs ih =>
    rw [List.findSome?_cons, ih, List.find?_cons]
    cases hr : f r with
    | none => rfl
    | some options =>
      show some options = f r
      exact hr.symm

theorem head?_eq_find? (rs : List ScannedProduct) : rs.head? = rs.find? fun _ => True := by
  cases rs <;> rfl

theorem any_iff_any {α : Type} {p : α → Prop} [DecidablePred p] {ys xs : List α} (hsub : ys ⊆ xs) :
    ((ys.any fun y => p y) = xs.any fun x => p x) ↔ ∀ x ∈ xs, p x → ∃ y ∈ ys, p y := by
  rw [Bool.eq_iff_iff, List.any_eq_true, List.any_eq_true]
  simp only [decide_eq_true_eq]
  constructor
  · exact fun h x hx hp => h.mpr ⟨x, hx, hp⟩
  · exact fun h => ⟨fun ⟨y, hy, hp⟩ => ⟨y, hsub hy, hp⟩, fun ⟨x, hx, hp⟩ => h x hx hp⟩

theorem assemble_eq_iff {groups : List (List ScannedProduct)} {records : List ScannedProduct}
    (hsub : groups.flatten ⊆ records) (hgroups : groups.flatten ≠ []) (hrecords : records ≠ []) :
    assemble groups.flatten (pagedSource groups) = mergeAll records ↔ SameListing groups records := by
  have hstock : ∀ a b : Bool, (if a then Availability.in_stock else .out_of_stock) =
      (if b then .in_stock else .out_of_stock) ↔ a = b := by
    intro a b
    cases a <;> cases b <;> simp
  -- the record field by field
  have hfields : assemble groups.flatten (pagedSource groups) = mergeAll records ↔
      groups.flatten.head?.map ScannedProduct.fixed = records.head?.map ScannedProduct.fixed ∧
        firstText (groups.flatten.map ScannedProduct.description) =
          firstText (records.map ScannedProduct.description) ∧
        firstText (groups.flatten.map ScannedProduct.image) =
          firstText (records.map ScannedProduct.image) ∧
        groups.flatten.findSome? ScannedProduct.options = records.findSome? ScannedProduct.options ∧
        ((groups.flatten.any fun r => r.availability = .in_stock) =
          records.any fun r => r.availability = .in_stock) ∧
        (pagedSource groups).variants = (rowSource records).variants := by
    obtain ⟨f, fs, hf⟩ := List.exists_cons_of_ne_nil hgroups
    obtain ⟨r, rs, hr⟩ := List.exists_cons_of_ne_nil hrecords
    rw [mergeAll_eq, assemble, assemble, hf, hr, List.head?_cons, List.head?_cons]
    simp only [Option.map_some, Option.some.injEq, ScannedProduct.mk.injEq, ScannedProduct.fixed,
      Prod.mk.injEq, hstock]
    tauto
  rw [hfields, head?_eq_find?, head?_eq_find?, firstText_map, firstText_map, firstText_map, firstText_map,
    findSome?_map, findSome?_map, ← firstSurvives_iff hsub, any_iff_any hsub,
    ← firstSurvives_iff_getD hsub fun _ h => h, ← firstSurvives_iff_getD hsub fun _ h => h,
    ← firstSurvives_iff_getD hsub fun _ h => h, VariantSource.variants_eq_iff]
  constructor
  · rintro ⟨hfirst, hdescription, himage, hoptions, hstock, hvariants⟩
    exact ⟨hfirst, hdescription, himage, hoptions, hstock, hvariants⟩
  · rintro ⟨hfirst, hdescription, himage, hoptions, hstock, hvariants⟩
    exact ⟨hfirst, hdescription, himage, hoptions, hstock, hvariants⟩

/-! ## Pages -/

section

variable {page : List ScannedProduct} {pages : List (List ScannedProduct)}

theorem recordsOf_keptOn (handle : JsString) :
    recordsOf (keptOn page) handle =
      if isReservedDuplicate page handle = true then [] else recordsOf page handle := by
  rw [recordsOf, keptOn, List.filter_filter]
  split
  · rename_i hres
    rw [List.filter_eq_nil_iff]
    intro r _ h
    rw [Bool.and_eq_true, decide_eq_true_eq] at h
    rw [h.1, hres] at h
    exact absurd h.2 (by simp)
  · rename_i hres
    refine List.filter_congr fun r _ => ?_
    by_cases hsku : r.sku = handle
    · rw [Bool.not_eq_true] at hres
      rw [hsku, hres]
      simp
    · simp [hsku]

theorem flatten_groupsOf (handle : JsString) :
    (groupsOf pages handle).flatten = recordsOf (survivors pages) handle := by
  induction pages with
  | nil => rfl
  | cons page pages ih =>
    rw [survivors, List.map_cons, List.flatten_cons, recordsOf_append, ← survivors, ← ih, groupsOf,
      List.map_cons]
    cases hgroup : recordsOf (keptOn page) handle with
    | nil => rfl
    | cons r rs => rfl

/-- What a page lists under a handle. -/
theorem recordsOf_dedupe (handle : JsString) :
    recordsOf (dedupeShopifyProducts page []).1 handle =
      (mergeAll (recordsOf (keptOn page) handle)).toList := by
  have hsome : ∀ h ∈ listedHandles page, ∃ p, listing page h = some p ∧ p.sku = h :=
    fun h hh => (listing_of_listed h hh).2
  rw [recordsOf_keptOn, recordsOf, products_dedupe]
  by_cases hin : handle ∈ listedHandles page
  · have hres : ¬ isReservedDuplicate page handle = true := by
      simpa using (List.mem_filter.mp hin).2
    rw [if_neg hres, ← listing]
    exact filter_filterMap_id nodup_listedHandles hsome hin
  · have hnone : (if isReservedDuplicate page handle = true then [] else recordsOf page handle) = [] := by
      split
      · rfl
      · rename_i hres
        by_contra hne
        obtain ⟨r, hr⟩ := List.exists_mem_of_ne_nil _ hne
        obtain ⟨hr, hsku⟩ := List.mem_filter.mp hr
        refine hin (List.mem_filter.mpr ⟨List.mem_eraseDups.mpr ?_, by simpa using hres⟩)
        exact List.mem_map.mpr ⟨r, hr, of_decide_eq_true hsku⟩
    rw [hnone, mergeAll, List.filter_eq_nil_iff.mpr]
    · rfl
    · intro p hp hsku
      have hmem := List.mem_map_of_mem (f := ScannedProduct.sku) hp
      rw [map_filterMap_id hsome, of_decide_eq_true hsku] at hmem
      exact hin hmem

/-- What the pages list under a handle is made of its groups. -/
theorem madeOf_pages (handle : JsString) :
    MadeOf (recordsOf (pages.map fun page => (dedupeShopifyProducts page []).1).flatten handle)
      (groupsOf pages handle) := by
  induction pages with
  | nil => exact .nil
  | cons page pages ih =>
    rw [List.map_cons, List.flatten_cons, recordsOf_append, recordsOf_dedupe, groupsOf, List.map_cons]
    cases recordsOf (keptOn page) handle with
    | nil => exact ih
    | cons first rest => exact .cons ih

/-- Reserved duplicates are told by the names of the first records alone. -/
theorem isReservedDuplicate_congr {xs ys : List ScannedProduct}
    (h : ∀ handle, (recordsOf xs handle).head?.map ScannedProduct.name =
      (recordsOf ys handle).head?.map ScannedProduct.name) (handle : JsString) :
    isReservedDuplicate xs handle = isReservedDuplicate ys handle := by
  have hbase := h (baseHandle handle)
  have hself := h handle
  rw [isReservedDuplicate, isReservedDuplicate]
  congr 1
  generalize (recordsOf xs (baseHandle handle)).head? = a at hbase ⊢
  generalize (recordsOf ys (baseHandle handle)).head? = b at hbase ⊢
  generalize (recordsOf xs handle).head? = c at hself ⊢
  generalize (recordsOf ys handle).head? = d at hself ⊢
  cases a <;> cases b <;> cases c <;> cases d <;> simp_all

/-- The handles that the pages together list are those of the survivors. -/
theorem listedHandles_pages (pages : List (List ScannedProduct)) :
    listedHandles (pages.map fun page => (dedupeShopifyProducts page []).1).flatten =
      listedHandles (survivors pages) := by
  have hskus : ((pages.map fun page => (dedupeShopifyProducts page []).1).flatten.map
      ScannedProduct.sku).eraseDups = ((survivors pages).map ScannedProduct.sku).eraseDups := by
    have hpage : ∀ page : List ScannedProduct, (dedupeShopifyProducts page []).1.map ScannedProduct.sku =
        ((keptOn page).map ScannedProduct.sku).eraseDups := by
      intro page
      rw [map_sku_dedupe, listedHandles, eraseDups_filter, List.filter_map]
      rfl
    rw [survivors, List.map_flatten, List.map_map, List.map_flatten, List.map_map,
      ← eraseDups_flatten (pages.map (List.map ScannedProduct.sku ∘ keptOn)), List.map_map]
    congr 2
    exact List.map_congr_left fun page _ => hpage page
  have hnames : ∀ handle,
      (recordsOf (pages.map fun page => (dedupeShopifyProducts page []).1).flatten handle).head?.map
        ScannedProduct.name = (recordsOf (survivors pages) handle).head?.map ScannedProduct.name := by
    intro handle
    have hfixed := (@madeOf_pages pages handle).head?
    rw [flatten_groupsOf] at hfixed
    have hname := congrArg (Option.map fun x => x.2.1) hfixed
    rwa [Option.map_map, Option.map_map] at hname
  rw [listedHandles, listedHandles, hskus]
  exact List.filter_congr fun handle _ => by rw [isReservedDuplicate_congr hnames]

end

/-! ## Where boundaries do not matter -/

theorem mem_listedHandles {products : List ScannedProduct} {handle : JsString} :
    handle ∈ listedHandles products ↔ Listed products handle := by
  rw [listedHandles, List.mem_filter, List.mem_eraseDups, List.mem_map, Bool.not_eq_true']
  rfl

/-- Of two listed handles, the one whose records begin first is listed first. -/
theorem precedes_listedHandles {products : List ScannedProduct} {a b : JsString}
    (ha : Listed products a) (hb : Listed products b) :
    Precedes (listedHandles products) a b ↔ Precedes (products.map ScannedProduct.sku) a b := by
  rw [listedHandles, precedes_filter (by simp [ha.2]) (by simp [hb.2]), precedes_eraseDups]

theorem listedHandles_eq_iff {kept records : List ScannedProduct} :
    listedHandles kept = listedHandles records ↔ SameHandles kept records := by
  constructor
  · intro h
    have hlisted : ∀ handle, Listed kept handle ↔ Listed records handle := by
      intro handle
      rw [← mem_listedHandles, h, mem_listedHandles]
    refine ⟨hlisted, fun a b ha hb hprec => ?_⟩
    rw [← precedes_listedHandles ((hlisted a).mpr ha) ((hlisted b).mpr hb), h]
    exact (precedes_listedHandles ha hb).mpr hprec
  · rintro ⟨hlisted, horder⟩
    refine (eq_of_precedes nodup_listedHandles nodup_listedHandles (fun handle => ?_) ?_).symm
    · rw [mem_listedHandles, mem_listedHandles, hlisted]
    · intro a ha b hb hprec
      have ha := mem_listedHandles.mp ha
      have hb := mem_listedHandles.mp hb
      rw [precedes_listedHandles ((hlisted a).mpr ha) ((hlisted b).mpr hb)]
      exact horder a b ha hb ((precedes_listedHandles ha hb).mp hprec)

theorem survivors_subset (pages : List (List ScannedProduct)) : survivors pages ⊆ pages.flatten := by
  intro r hr
  obtain ⟨kept, hkept, hr⟩ := List.mem_flatten.mp hr
  obtain ⟨page, hpage, rfl⟩ := List.mem_map.mp hkept
  exact List.mem_flatten.mpr ⟨page, hpage, (List.mem_filter.mp hr).1⟩

/-- **Where page boundaries do not matter.**  Deduplicating page by page and then the pages gives what
    deduplicating the whole gives exactly if the records that the pages keep list the same handles in the
    same order, and for each of them have what all its records have. -/
theorem page_boundaries_iff (pages : List (List ScannedProduct)) :
    BoundariesDontMatter pages ↔ SameHandles (survivors pages) pages.flatten ∧
      ∀ handle, Listed pages.flatten handle →
        SameListing (groupsOf pages handle) (recordsOf pages.flatten handle) := by
  have hpaged : dedupePages pages = (listedHandles (survivors pages)).filterMap
      (listing (pages.map fun page => (dedupeShopifyProducts page []).1).flatten) := by
    rw [← listedHandles_pages]
    exact products_dedupe _
  have hwhole : (dedupeShopifyProducts pages.flatten []).1 =
      (listedHandles pages.flatten).filterMap (listing pages.flatten) := products_dedupe _
  have hlisted : ∀ handle ∈ listedHandles (survivors pages), ∃ p,
      listing (pages.map fun page => (dedupeShopifyProducts page []).1).flatten handle = some p ∧
        p.sku = handle := by
    rw [← listedHandles_pages]
    exact fun handle hhandle => (listing_of_listed handle hhandle).2
  -- one handle, listed both ways
  have hone : ∀ handle ∈ listedHandles (survivors pages), handle ∈ listedHandles pages.flatten →
      (listing (pages.map fun page => (dedupeShopifyProducts page []).1).flatten handle =
        listing pages.flatten handle ↔
          SameListing (groupsOf pages handle) (recordsOf pages.flatten handle)) := by
    intro handle hsurvives hhandle
    rw [listing, (madeOf_pages handle).mergeAll, listing]
    refine assemble_eq_iff ?_ ?_ (listing_of_listed handle hhandle).1
    · rw [flatten_groupsOf]
      intro r hr
      obtain ⟨hr, hsku⟩ := List.mem_filter.mp hr
      exact List.mem_filter.mpr ⟨survivors_subset pages hr, hsku⟩
    · rw [flatten_groupsOf]
      exact (listing_of_listed handle hsurvives).1
  rw [BoundariesDontMatter, hpaged, hwhole, ← listedHandles_eq_iff]
  constructor
  · intro h
    have hhandles := congrArg (List.map ScannedProduct.sku) h
    rw [map_filterMap_id hlisted, map_filterMap_id fun handle hh => (listing_of_listed handle hh).2]
      at hhandles
    refine ⟨hhandles, fun handle hhandle => ?_⟩
    rw [← mem_listedHandles] at hhandle
    refine (hone handle (hhandles ▸ hhandle) hhandle).mp ?_
    have hfiltered := congrArg (List.filter fun p => p.sku = handle) h
    rw [filter_filterMap_id nodup_listedHandles hlisted (hhandles ▸ hhandle),
      filter_filterMap_id nodup_listedHandles
        (fun handle hh => (listing_of_listed handle hh).2) hhandle] at hfiltered
    exact eq_of_toList hfiltered
  · rintro ⟨hhandles, hsame⟩
    rw [hhandles]
    refine List.filterMap_congr fun handle hhandle => ?_
    exact (hone handle (hhandles ▸ hhandle) hhandle).mpr (hsame handle (mem_listedHandles.mp hhandle))

/-- The name of a handle drifts from one page to the next, and the second page, on its own, takes the
    record that is in stock for a shadow. -/
theorem drifting_name_loses_stock : ¬ BoundariesDontMatter
    [[demoRecord "shoe-cart" "Old shoe" .out_of_stock none],
      [demoRecord "shoe" "Shoe" .in_stock none, demoRecord "shoe-cart" "Shoe" .in_stock none]] := by
  unfold BoundariesDontMatter
  decide

end Hundi
