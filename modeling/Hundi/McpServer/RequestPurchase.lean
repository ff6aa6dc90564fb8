/-
  packages/mcp-server/src/tools/request-purchase.ts — `resolveVariant`: which variant a shopper's size,
  color, free text or variant id stands for.

  1. **Program** — `variantHasAllValues`, `findVariantByText`, `resolveVariant`.
  2. **Specification** — a request is matched at one `Tier`; `Tier.Satisfied` says what it asks of a
     variant there.
  3. **When it fails loud** — `resolveVariant_fails_loud_iff`: a resolved variant is the only one of
     its tier, unless a text is exactly that of several.

  `toLowerCase` and `formatRupees` depend on Unicode tables and a locale; they are arguments, and
  nothing is assumed of them.
-/
import Hundi.Buyer.Cart
import Hundi.Lib.JsText
import Mathlib.Data.List.Perm.Subperm

namespace Hundi

open Js

/-! ## The program -/

/-- The arguments of request_purchase that choose a variant. -/
structure VariantRequest where
  size : Option JsString
  color : Option JsString
  variant : Option JsString
  variantId : Option JsString

/-- `FreeTextMatch`. -/
inductive FreeTextMatch where
  | found (variant : ScannedVariant)
  | ambiguous (candidates : List ScannedVariant)
  | none

section Program

variable (toLowerCase : JsString → JsString) (formatRupees : Int → JsString)

/-- `describeVariants(variants)`. -/
def describeVariants (variants : List ScannedVariant) : JsString :=
  join (js "; ") (variants.map fun v =>
    v.label ++ js " (" ++ formatRupees v.pricePaise ++
      (if v.available then [] else js ", out of stock") ++
      js ", variant_id \"" ++ v.variantId ++ js "\")")

/-- The loop of `variantHasAllValues`: each value takes its first equal out of what remains. -/
def takeEach (remaining : List JsString) : List JsString → Bool
  | [] => true
  | value :: values =>
    let needle := toLowerCase (trim value)
    if remaining.contains needle then takeEach (remaining.erase needle) values else false

/-- `variantHasAllValues(variant, values)`. -/
def variantHasAllValues (variant : ScannedVariant) (values : List JsString) : Bool :=
  takeEach toLowerCase (variant.optionValues.map fun v => toLowerCase (trim v)) values

/-- The label or an option value equals the needle. -/
def equalsText (n : JsString) (v : ScannedVariant) : Bool :=
  toLowerCase v.label == n || v.optionValues.any fun val => toLowerCase val == n

/-- The label or an option value includes the needle. -/
def includesText (n : JsString) (v : ScannedVariant) : Bool :=
  includes (toLowerCase v.label) n || v.optionValues.any fun val => includes (toLowerCase val) n

/-- `findVariantByText(variants, needle)`. -/
def findVariantByText (variants : List ScannedVariant) (needle : JsString) : FreeTextMatch :=
  let n := toLowerCase (trim needle)
  match variants.find? (equalsText toLowerCase n) with
  | some exact => .found exact
  | none =>
    match variants.filter (includesText toLowerCase n) with
    | [] => .none
    | [only] => .found only
    | substringMatches => .ambiguous substringMatches

/-- `[args.size, args.color].filter((v) => !!v && v.trim().length > 0)`. -/
def exactValues (args : VariantRequest) : List JsString :=
  [args.size, args.color].filterMap fun v => v.filter fun v => !(trim v).isEmpty

/-- `requestedSomething`. -/
def requestedSomething (args : VariantRequest) : Bool :=
  args.variantId.isSome || !(exactValues args).isEmpty ||
    args.variant.any fun v => !(trim v).isEmpty

/-- The end of `resolveVariant`, for a request on a product that has variants. -/
def resolveRequested (title : JsString) (variants : List ScannedVariant) (args : VariantRequest) :
    Except JsString ScannedVariant :=
  let available := js "Available: " ++ describeVariants formatRupees variants ++ js "."
  match givenId args.variantId with
  | some variantId =>
    match variants.find? fun v => v.variantId == variantId with
    | some found => .ok found
    | none => .error (js "variant_id \"" ++ variantId ++ js "\" does not exist on " ++ title ++
        js ". " ++ available)
  | none =>
    if exactValues args ≠ [] then
      match variants.filter fun v => variantHasAllValues toLowerCase v (exactValues args) with
      | [only] => .ok only
      | [] => .error (js "No variant on " ++ title ++ js " has " ++
          join (js " + ") ((exactValues args).map fun v => js "\"" ++ v ++ js "\"") ++ js ". " ++
          available)
      | candidates => .error (js "\"" ++ join (js " + ") (exactValues args) ++ js "\" matches " ++
          decimal candidates.length ++ js " variants on " ++ title ++
          js " — specify all axes (e.g. both size and color). Matching: " ++
          describeVariants formatRupees candidates ++ js ".")
    else
      match givenId args.variant with
      | none => .error (js "No \"" ++ args.variant.getD (js "undefined") ++ js "\" option on " ++
          title ++ js ". " ++ available)
      | some needle =>
        match findVariantByText toLowerCase variants needle with
        | .found variant => .ok variant
        | .ambiguous candidates => .error (js "\"" ++ needle ++ js "\" matches " ++
            decimal candidates.length ++ js " variants on " ++ title ++
            js " — be more specific (pass structured size/color, or the exact label). Matching: " ++
            describeVariants formatRupees candidates ++ js ".")
        | .none => .error (js "No \"" ++ needle ++ js "\" option on " ++ title ++ js ". " ++
            available)

/-- `resolveVariant(product, args)`; `error` is the text it fails with. -/
def resolveVariant (product : FeedProduct) (args : VariantRequest) :
    Except JsString (Option ScannedVariant) :=
  let title := js "\"" ++ product.title ++ js "\""
  let variants := product.variants.getD []
  if !requestedSomething args then .ok none
  else if variants.isEmpty then
    .error (title ++ js " has no size/color choices — it is a single listing. Call " ++
      js "request_purchase again for this sku without size/color/variant/variant_id.")
  else (resolveRequested toLowerCase formatRupees title variants args).map some

end Program

/-! ## What a request asks for -/

/-- The ways a request is matched, with what it is matched by. -/
inductive Tier where
  | id (variantId : JsString)
  | values (asked : List JsString)
  | exactText (n : JsString)
  | substring (n : JsString)

section Specification

variable (toLowerCase : JsString → JsString)

/-- The variant has what the request asks for: the id; each value on an axis of its own; the text as
    its label or one of its option values, or inside one. -/
def Tier.Satisfied : Tier → ScannedVariant → Prop
  | .id variantId, v => v.variantId = variantId
  | .values asked, v => (asked.map fun value => toLowerCase (trim value)).Subperm
      (v.optionValues.map fun value => toLowerCase (trim value))
  | .exactText n, v => ∃ text ∈ v.label :: v.optionValues, toLowerCase text = n
  | .substring n, v => ∃ text ∈ v.label :: v.optionValues, n <:+: toLowerCase text

/-- The free text of a request that names no variant id, size or color. -/
def textOf (args : VariantRequest) : Option JsString :=
  if givenId args.variantId = none ∧ exactValues args = [] ∧ requestedSomething args = true then
    givenId args.variant
  else none

instance (tier : Tier) (v : ScannedVariant) : Decidable (tier.Satisfied toLowerCase v) :=
  match tier with
  | .id variantId => inferInstanceAs (Decidable (v.variantId = variantId))
  | .values asked => inferInstanceAs (Decidable (List.Subperm
      (asked.map fun value => toLowerCase (trim value))
      (v.optionValues.map fun value => toLowerCase (trim value))))
  | .exactText n =>
    inferInstanceAs (Decidable (∃ text ∈ v.label :: v.optionValues, toLowerCase text = n))
  | .substring n =>
    inferInstanceAs (Decidable (∃ text ∈ v.label :: v.optionValues, n <:+: toLowerCase text))

/-- The tier a request is matched at, on the variants of a product. -/
def matchedTier (variants : List ScannedVariant) (args : VariantRequest) : Option Tier :=
  match givenId args.variantId with
  | some variantId => some (.id variantId)
  | none =>
    if exactValues args ≠ [] then some (.values (exactValues args))
    else
      (textOf args).map fun text =>
        let n := toLowerCase (trim text)
        if ∃ v ∈ variants, (Tier.exactText n).Satisfied toLowerCase v then .exactText n
        else .substring n

/-- The only variant of a list that a tier is satisfied by. -/
def IsOnly (variants : List ScannedVariant) (tier : Tier) (v : ScannedVariant) : Prop :=
  v ∈ variants ∧ tier.Satisfied toLowerCase v ∧ ∀ w ∈ variants, tier.Satisfied toLowerCase w → w = v

/-- Two of the variants satisfy the tier the request is matched at. -/
def Ambiguous (variants : List ScannedVariant) (args : VariantRequest) : Prop :=
  ∃ tier, matchedTier toLowerCase variants args = some tier ∧ ∃ v ∈ variants, ∃ w ∈ variants,
    v ≠ w ∧ tier.Satisfied toLowerCase v ∧ tier.Satisfied toLowerCase w

/-- A resolved variant is the only one, whatever the order of the list, and an ambiguous request
    fails. -/
structure FailsLoud (formatRupees : Int → JsString) (product : FeedProduct) (args : VariantRequest) :
    Prop where
  only : ∀ v, resolveVariant toLowerCase formatRupees product args = .ok (some v) →
    ∃ tier, matchedTier toLowerCase (product.variants.getD []) args = some tier ∧
      IsOnly toLowerCase (product.variants.getD []) tier v
  order : ∀ variants', variants'.Perm (product.variants.getD []) → ∀ result,
    resolveVariant toLowerCase formatRupees { product with variants := some variants' } args =
        .ok result ↔
      resolveVariant toLowerCase formatRupees product args = .ok result
  ambiguous : Ambiguous toLowerCase (product.variants.getD []) args →
    ∃ error, resolveVariant toLowerCase formatRupees product args = .error error

/-- No two variants have a request's free text exactly. -/
def ExactTextUnique (variants : List ScannedVariant) (args : VariantRequest) : Prop :=
  ∀ text, textOf args = some text → ∀ v ∈ variants, ∀ w ∈ variants,
    (Tier.exactText (toLowerCase (trim text))).Satisfied toLowerCase v →
    (Tier.exactText (toLowerCase (trim text))).Satisfied toLowerCase w → v = w

end Specification

/-! ## The tiers of the program are those of the specification -/

section Tiers

variable {toLowerCase : JsString → JsString}

/-- Taking the values out one by one succeeds when they are there together. -/
theorem takeEach_iff {remaining values : List JsString} :
    takeEach toLowerCase remaining values = true ↔
      (values.map fun value => toLowerCase (trim value)).Subperm remaining := by
  induction values generalizing remaining with
  | nil => simp [takeEach, List.nil_subperm]
  | cons value values ih =>
    rw [takeEach, List.map_cons]
    generalize toLowerCase (trim value) = needle
    by_cases hmem : needle ∈ remaining
    · rw [if_pos (List.contains_iff_mem.mpr hmem), ih]
      have hperm : remaining.Perm (needle :: remaining.erase needle) := List.perm_cons_erase hmem
      rw [hperm.subperm_left, List.subperm_cons]
    · rw [if_neg (fun hc => hmem (List.contains_iff_mem.mp hc))]
      refine iff_of_false Bool.false_ne_true fun hsub => ?_
      exact hmem (hsub.subset (List.mem_cons_self ..))

theorem variantHasAllValues_iff {v : ScannedVariant} {values : List JsString} :
    variantHasAllValues toLowerCase v values = true ↔ (Tier.values values).Satisfied toLowerCase v :=
  takeEach_iff

theorem equalsText_iff {n : JsString} {v : ScannedVariant} :
    equalsText toLowerCase n v = true ↔ (Tier.exactText n).Satisfied toLowerCase v := by
  simp [equalsText, Tier.Satisfied]

theorem includesText_iff {n : JsString} {v : ScannedVariant} :
    includesText toLowerCase n v = true ↔ (Tier.substring n).Satisfied toLowerCase v := by
  simp [includesText, Tier.Satisfied, includes_iff]

/-- One entry passes a filter exactly when it is the only one that satisfies it. -/
theorem filter_eq_singleton {variants : List ScannedVariant} (hnd : variants.Nodup)
    {p : ScannedVariant → Bool} {tier : Tier} (hp : ∀ v, p v = true ↔ tier.Satisfied toLowerCase v)
    {v : ScannedVariant} : variants.filter p = [v] ↔ IsOnly toLowerCase variants tier v := by
  constructor
  · intro h
    have hv : v ∈ variants.filter p := by
      rw [h]
      exact List.mem_singleton_self v
    obtain ⟨hmem, hpv⟩ := List.mem_filter.mp hv
    refine ⟨hmem, (hp v).mp hpv, fun w hw hsat => ?_⟩
    have hw' : w ∈ variants.filter p := List.mem_filter.mpr ⟨hw, (hp w).mpr hsat⟩
    rw [h] at hw'
    exact List.mem_singleton.mp hw'
  · rintro ⟨hmem, hsat, honly⟩
    have hnd' : (variants.filter p).Nodup := hnd.filter p
    have hall : ∀ w ∈ variants.filter p, w = v := by
      intro w hw
      obtain ⟨hw, hpw⟩ := List.mem_filter.mp hw
      exact honly w hw ((hp w).mp hpw)
    have hv : v ∈ variants.filter p := List.mem_filter.mpr ⟨hmem, (hp v).mpr hsat⟩
    exact List.perm_singleton.mp ((List.perm_ext_iff_of_nodup hnd' (List.nodup_singleton v)).mpr
      fun w => ⟨fun hw => List.mem_singleton.mpr (hall w hw), fun hw => List.mem_singleton.mp hw ▸ hv⟩)

/-- The first hit is the only one where no two entries satisfy the tier. -/
theorem find?_eq_some_iff_only {variants : List ScannedVariant} {p : ScannedVariant → Bool}
    {tier : Tier} (hp : ∀ v, p v = true ↔ tier.Satisfied toLowerCase v)
    (hunique : ∀ v ∈ variants, ∀ w ∈ variants, tier.Satisfied toLowerCase v →
      tier.Satisfied toLowerCase w → v = w) {v : ScannedVariant} :
    variants.find? p = some v ↔ IsOnly toLowerCase variants tier v := by
  constructor
  · intro h
    have hmem := List.mem_of_find?_eq_some h
    have hsat := (hp v).mp (List.find?_some h)
    exact ⟨hmem, hsat, fun w hw hw' => hunique w hw v hmem hw' hsat⟩
  · rintro ⟨hmem, hsat, honly⟩
    obtain ⟨w, hw⟩ := Option.isSome_iff_exists.mp (List.find?_isSome.mpr ⟨v, hmem, (hp v).mpr hsat⟩)
    have hwmem := List.mem_of_find?_eq_some hw
    have hwsat := (hp w).mp (List.find?_some hw)
    rw [hw, honly w hwmem hwsat]

end Tiers

/-! ## When a resolution fails loud -/

section Loud

variable {toLowerCase : JsString → JsString} {formatRupees : Int → JsString}

/-- Only a request is matched. -/
theorem requestedSomething_of_matched {variants : List ScannedVariant} {args : VariantRequest}
    {tier : Tier} (h : matchedTier toLowerCase variants args = some tier) :
    requestedSomething args = true := by
  unfold matchedTier at h
  cases hid : givenId args.variantId with
  | some variantId =>
    have hsome : args.variantId = some variantId := (givenId_eq_some.mp hid).1
    simp [requestedSomething, hsome]
  | none =>
    rw [hid] at h
    dsimp only at h
    by_cases hvalues : exactValues args = []
    · rw [if_neg (not_not.mpr hvalues)] at h
      obtain ⟨text, htext, -⟩ := Option.map_eq_some_iff.mp h
      unfold textOf at htext
      split at htext
      · rename_i hasked
        exact hasked.2.2
      · exact nomatch htext
    · simp [requestedSomething, hvalues]

/-- At the id: distinct ids leave one hit at most. -/
theorem resolveRequested_id {title : JsString} {variants : List ScannedVariant}
    {args : VariantRequest} {variantId : JsString} (hids : (variants.map (·.variantId)).Nodup)
    (hid : givenId args.variantId = some variantId) (v : ScannedVariant) :
    resolveRequested toLowerCase formatRupees title variants args = .ok v ↔
      IsOnly toLowerCase variants (.id variantId) v := by
  have hfind : variants.find? (fun v => v.variantId == variantId) = some v ↔
      IsOnly toLowerCase variants (.id variantId) v := by
    refine find?_eq_some_iff_only (fun v => beq_iff_eq) fun v hv w hw hv' hw' => ?_
    exact List.inj_on_of_nodup_map hids hv hw (Eq.trans hv' (Eq.symm hw'))
  rw [← hfind, resolveRequested, hid]
  dsimp only
  cases variants.find? fun v => v.variantId == variantId with
  | none => exact iff_of_false (fun h => nomatch h) fun h => nomatch h
  | some found => rw [Except.ok.injEq, Option.some.injEq]

/-- At the structured values: a list of one candidate gives it, any other an error. -/
theorem resolveRequested_values {title : JsString} {variants : List ScannedVariant}
    {args : VariantRequest} (hnd : variants.Nodup) (hid : givenId args.variantId = none)
    (hvalues : exactValues args ≠ []) (v : ScannedVariant) :
    resolveRequested toLowerCase formatRupees title variants args = .ok v ↔
      IsOnly toLowerCase variants (.values (exactValues args)) v := by
  have hfilter : (variants.filter fun v => variantHasAllValues toLowerCase v (exactValues args)) = [v] ↔
      IsOnly toLowerCase variants (.values (exactValues args)) v :=
    filter_eq_singleton hnd fun _ => variantHasAllValues_iff
  rw [← hfilter, resolveRequested, hid]
  dsimp only
  rw [if_pos hvalues]
  rcases variants.filter fun v => variantHasAllValues toLowerCase v (exactValues args) with
    _ | ⟨only, _ | ⟨second, rest⟩⟩
  · exact iff_of_false (fun h => nomatch h) fun h => nomatch h
  · rw [Except.ok.injEq, List.singleton_inj]
  · exact iff_of_false (fun h => nomatch h) fun h => nomatch h

/-- A text asks for neither an id nor structured values. -/
theorem textOf_eq_some {args : VariantRequest} {text : JsString} (h : textOf args = some text) :
    givenId args.variantId = none ∧ exactValues args = [] ∧ givenId args.variant = some text := by
  unfold textOf at h
  split at h
  · rename_i hasked
    exact ⟨hasked.1, hasked.2.1, h⟩
  · exact nomatch h

/-- At the text, where some variant has it exactly: the first one that has it. -/
theorem resolveRequested_exact {title : JsString} {variants : List ScannedVariant}
    {args : VariantRequest} {text : JsString} (htext : textOf args = some text)
    (hexact : ∃ w ∈ variants, (Tier.exactText (toLowerCase (trim text))).Satisfied toLowerCase w)
    (v : ScannedVariant) :
    resolveRequested toLowerCase formatRupees title variants args = .ok v ↔
      variants.find? (equalsText toLowerCase (toLowerCase (trim text))) = some v := by
  obtain ⟨hid, hvalues, htext⟩ := textOf_eq_some htext
  obtain ⟨w, hw, hsat⟩ := hexact
  obtain ⟨found, hfound⟩ := Option.isSome_iff_exists.mp
    (List.find?_isSome.mpr ⟨w, hw, equalsText_iff.mpr hsat⟩)
  rw [resolveRequested, hid]
  dsimp only
  rw [if_neg (not_not.mpr hvalues), htext]
  dsimp only
  rw [findVariantByText, hfound]
  dsimp only
  rw [Except.ok.injEq, Option.some.injEq]

/-- Where none has: the only one that includes it. -/
theorem resolveRequested_substring {title : JsString} {variants : List ScannedVariant}
    {args : VariantRequest} {text : JsString} (hnd : variants.Nodup) (htext : textOf args = some text)
    (hexact : ¬ ∃ w ∈ variants, (Tier.exactText (toLowerCase (trim text))).Satisfied toLowerCase w)
    (v : ScannedVariant) :
    resolveRequested toLowerCase formatRupees title variants args = .ok v ↔
      IsOnly toLowerCase variants (.substring (toLowerCase (trim text))) v := by
  obtain ⟨hid, hvalues, htext⟩ := textOf_eq_some htext
  have hnone : variants.find? (equalsText toLowerCase (toLowerCase (trim text))) = none := by
    rw [List.find?_eq_none]
    exact fun w hw hequal => hexact ⟨w, hw, equalsText_iff.mp hequal⟩
  have hfilter : variants.filter (includesText toLowerCase (toLowerCase (trim text))) = [v] ↔
      IsOnly toLowerCase variants (.substring (toLowerCase (trim text))) v :=
    filter_eq_singleton hnd fun _ => includesText_iff
  rw [← hfilter, resolveRequested, hid]
  dsimp only
  rw [if_neg (not_not.mpr hvalues), htext]
  dsimp only
  rw [findVariantByText, hnone]
  dsimp only
  rcases variants.filter (includesText toLowerCase (toLowerCase (trim text))) with
    _ | ⟨only, _ | ⟨second, rest⟩⟩
  · exact iff_of_false (fun h => nomatch h) fun h => nomatch h
  · rw [Except.ok.injEq, List.singleton_inj]
  · exact iff_of_false (fun h => nomatch h) fun h => nomatch h

/-- **What is resolved.**  With distinct ids, and no text that is exactly that of two variants, a
    variant is resolved when it is the only one of its tier, and only then. -/
theorem resolveRequested_eq_ok_iff {title : JsString} {variants : List ScannedVariant}
    {args : VariantRequest} (hids : (variants.map (·.variantId)).Nodup)
    (hunique : ExactTextUnique toLowerCase variants args) (hasked : requestedSomething args = true)
    (v : ScannedVariant) :
    resolveRequested toLowerCase formatRupees title variants args = .ok v ↔
      ∃ tier, matchedTier toLowerCase variants args = some tier ∧ IsOnly toLowerCase variants tier v := by
  have hnd : variants.Nodup := hids.of_map _
  have htier : ∀ {tier}, matchedTier toLowerCase variants args = some tier →
      (IsOnly toLowerCase variants tier v ↔ ∃ tier, matchedTier toLowerCase variants args = some tier ∧
        IsOnly toLowerCase variants tier v) := by
    intro tier hmatched
    refine ⟨fun honly => ⟨tier, hmatched, honly⟩, fun ⟨tier', hmatched', honly⟩ => ?_⟩
    rw [Option.some.inj (hmatched.symm.trans hmatched')]
    exact honly
  cases hid : givenId args.variantId with
  | some variantId =>
    have hmatched : matchedTier toLowerCase variants args = some (.id variantId) := by
      rw [matchedTier, hid]
    rw [resolveRequested_id hids hid, htier hmatched]
  | none =>
    by_cases hvalues : exactValues args = []
    · cases htext : textOf args with
      | none =>
        have hvariant : givenId args.variant = none := by
          rw [textOf, if_pos ⟨hid, hvalues, hasked⟩] at htext
          exact htext
        have hmatched : matchedTier toLowerCase variants args = none := by
          rw [matchedTier, hid]
          dsimp only
          rw [if_neg (not_not.mpr hvalues), htext]
          rfl
        rw [resolveRequested, hid, hmatched]
        dsimp only
        rw [if_neg (not_not.mpr hvalues), hvariant]
        exact iff_of_false (fun h => nomatch h) fun ⟨_, h, _⟩ => nomatch h
      | some text =>
        by_cases hexact : ∃ w ∈ variants,
            (Tier.exactText (toLowerCase (trim text))).Satisfied toLowerCase w
        · have hmatched : matchedTier toLowerCase variants args =
              some (.exactText (toLowerCase (trim text))) := by
            rw [matchedTier, hid]
            dsimp only
            rw [if_neg (not_not.mpr hvalues), htext, Option.map_some, if_pos hexact]
          rw [resolveRequested_exact htext hexact, ← htier hmatched]
          exact find?_eq_some_iff_only (fun _ => equalsText_iff) (hunique text htext)
        · have hmatched : matchedTier toLowerCase variants args =
              some (.substring (toLowerCase (trim text))) := by
            rw [matchedTier, hid]
            dsimp only
            rw [if_neg (not_not.mpr hvalues), htext, Option.map_some, if_neg hexact]
          rw [resolveRequested_substring hnd htext hexact, ← htier hmatched]
    · have hmatched : matchedTier toLowerCase variants args = some (.values (exactValues args)) := by
        rw [matchedTier, hid]
        dsimp only
        rw [if_pos hvalues]
      rw [resolveRequested_values hnd hid hvalues, htier hmatched]

/-- What the whole function resolves to, by the requests that ask for something. -/
theorem resolveVariant_eq_ok_iff {product : FeedProduct} {args : VariantRequest}
    (hids : ((product.variants.getD []).map (·.variantId)).Nodup)
    (hunique : ExactTextUnique toLowerCase (product.variants.getD []) args)
    (result : Option ScannedVariant) :
    resolveVariant toLowerCase formatRupees product args = .ok result ↔
      (requestedSomething args = false ∧ result = none) ∨
      ∃ v tier, result = some v ∧ matchedTier toLowerCase (product.variants.getD []) args = some tier ∧
        IsOnly toLowerCase (product.variants.getD []) tier v := by
  unfold resolveVariant
  generalize product.variants.getD [] = variants at hids hunique ⊢
  cases hasked : requestedSomething args with
  | false =>
    rw [Bool.not_false, if_pos rfl]
    constructor
    · intro h
      exact Or.inl ⟨rfl, (Except.ok.inj h).symm⟩
    · rintro (⟨-, rfl⟩ | ⟨v, tier, -, hmatched, -⟩)
      · rfl
      · rw [requestedSomething_of_matched hmatched] at hasked
        exact nomatch hasked
  | true =>
    rw [Bool.not_true, if_neg Bool.false_ne_true]
    cases hempty : variants.isEmpty with
    | true =>
      obtain rfl := List.isEmpty_iff.mp hempty
      rw [if_pos rfl]
      refine iff_of_false (fun h => nomatch h) ?_
      rintro (⟨h, -⟩ | ⟨v, tier, -, -, hmem, -⟩)
      · exact nomatch h
      · exact nomatch hmem
    | false =>
      have hiff : ∀ v, resolveRequested toLowerCase formatRupees (js "\"" ++ product.title ++ js "\"")
            variants args = .ok v ↔ ∃ tier, matchedTier toLowerCase variants args = some tier ∧
            IsOnly toLowerCase variants tier v :=
        resolveRequested_eq_ok_iff hids hunique hasked
      rw [if_neg Bool.false_ne_true]
      cases hresolved : resolveRequested toLowerCase formatRupees (js "\"" ++ product.title ++ js "\"")
          variants args with
      | error error =>
        refine iff_of_false (fun h => nomatch h) ?_
        rintro (⟨h, -⟩ | ⟨v, tier, -, hmatched, honly⟩)
        · exact nomatch h
        · rw [(hiff v).mpr ⟨tier, hmatched, honly⟩] at hresolved
          exact nomatch hresolved
      | ok v =>
        obtain ⟨tier, hmatched, honly⟩ := (hiff v).mp hresolved
        constructor
        · intro h
          exact Or.inr ⟨v, tier, (Except.ok.inj h).symm, hmatched, honly⟩
        · rintro (⟨h, -⟩ | ⟨w, tier', rfl, hmatched', honly'⟩)
          · exact nomatch h
          · rw [(hiff w).mpr ⟨tier', hmatched', honly'⟩] at hresolved
            rw [Except.ok.inj hresolved]
            rfl

theorem matchedTier_perm {variants variants' : List ScannedVariant} (h : variants'.Perm variants)
    (args : VariantRequest) :
    matchedTier toLowerCase variants' args = matchedTier toLowerCase variants args := by
  unfold matchedTier
  cases givenId args.variantId with
  | some variantId => rfl
  | none =>
    dsimp only
    refine ite_congr rfl (fun _ => rfl) fun _ => ?_
    refine congrArg (fun pick => (textOf args).map pick) (funext fun text => ?_)
    have hexact : (∃ v ∈ variants', (Tier.exactText (toLowerCase (trim text))).Satisfied toLowerCase v) ↔
        ∃ v ∈ variants, (Tier.exactText (toLowerCase (trim text))).Satisfied toLowerCase v :=
      exists_congr fun v => and_congr_left' h.mem_iff
    exact ite_congr (propext hexact) (fun _ => rfl) fun _ => rfl

theorem isOnly_perm {variants variants' : List ScannedVariant} (h : variants'.Perm variants)
    {tier : Tier} {v : ScannedVariant} :
    IsOnly toLowerCase variants' tier v ↔ IsOnly toLowerCase variants tier v := by
  simp only [IsOnly, h.mem_iff]

theorem exactTextUnique_perm {variants variants' : List ScannedVariant} (h : variants'.Perm variants)
    {args : VariantRequest} (hunique : ExactTextUnique toLowerCase variants args) :
    ExactTextUnique toLowerCase variants' args :=
  fun text htext v hv w hw => hunique text htext v (h.mem_iff.mp hv) w (h.mem_iff.mp hw)

/-- **A resolution fails loud unless a free text is exactly that of several variants.**  There the
    first of them is taken, whichever stands first. -/
theorem resolveVariant_fails_loud_iff (toLowerCase : JsString → JsString)
    (formatRupees : Int → JsString) (product : FeedProduct) (args : VariantRequest)
    (hids : ((product.variants.getD []).map (·.variantId)).Nodup) :
    FailsLoud toLowerCase formatRupees product args ↔
      ExactTextUnique toLowerCase (product.variants.getD []) args := by
  constructor
  · intro hloud text htext v hv w hw hsat hsat'
    have hexact : ∃ v ∈ product.variants.getD [],
        (Tier.exactText (toLowerCase (trim text))).Satisfied toLowerCase v := ⟨v, hv, hsat⟩
    have hasked : requestedSomething args = true := by
      unfold textOf at htext
      split at htext
      · rename_i hgiven
        exact hgiven.2.2
      · exact nomatch htext
    have hmatched : matchedTier toLowerCase (product.variants.getD []) args =
        some (.exactText (toLowerCase (trim text))) := by
      obtain ⟨hid, hvalues, -⟩ := textOf_eq_some htext
      rw [matchedTier, hid]
      dsimp only
      rw [if_neg (not_not.mpr hvalues), htext, Option.map_some, if_pos hexact]
    obtain ⟨first, hfirst⟩ := Option.isSome_iff_exists.mp
      (List.find?_isSome.mpr ⟨v, hv, equalsText_iff.mpr hsat⟩)
    have hresolved : resolveVariant toLowerCase formatRupees product args = .ok (some first) := by
      have hne : (product.variants.getD []).isEmpty = false :=
        List.isEmpty_eq_false_iff.mpr (List.ne_nil_of_mem hv)
      unfold resolveVariant
      dsimp only
      rw [hasked, hne, Bool.not_true, if_neg Bool.false_ne_true, if_neg Bool.false_ne_true,
        (resolveRequested_exact htext hexact first).mpr hfirst]
      rfl
    obtain ⟨tier, hmatched', -, -, honly⟩ := hloud.only first hresolved
    obtain rfl := Option.some.inj (hmatched.symm.trans hmatched')
    rw [honly v hv hsat, honly w hw hsat']
  · intro hunique
    refine ⟨fun v hv => ?_, fun variants' hperm result => ?_, fun hambiguous => ?_⟩
    · rcases (resolveVariant_eq_ok_iff hids hunique _).mp hv with ⟨-, hnone⟩ | ⟨w, tier, hw, h⟩
      · exact nomatch hnone
      · rw [Option.some.inj hw]
        exact ⟨tier, h⟩
    · let reordered : FeedProduct := { product with variants := some variants' }
      have hids' : ((reordered.variants.getD []).map (·.variantId)).Nodup :=
        (hperm.map _).nodup_iff.mpr hids
      have hunique' : ExactTextUnique toLowerCase (reordered.variants.getD []) args :=
        exactTextUnique_perm hperm hunique
      have hreordered : resolveVariant toLowerCase formatRupees reordered args = .ok result ↔
          (requestedSomething args = false ∧ result = none) ∨
          ∃ v tier, result = some v ∧ matchedTier toLowerCase variants' args = some tier ∧
            IsOnly toLowerCase variants' tier v :=
        resolveVariant_eq_ok_iff hids' hunique' result
      rw [hreordered, resolveVariant_eq_ok_iff hids hunique]
      simp only [matchedTier_perm hperm, isOnly_perm hperm]
    · obtain ⟨tier, hmatched, v, hv, w, hw, hne, hsat, hsat'⟩ := hambiguous
      cases hresolved : resolveVariant toLowerCase formatRupees product args with
      | error error => exact ⟨error, rfl⟩
      | ok result =>
        exfalso
        rcases (resolveVariant_eq_ok_iff hids hunique _).mp hresolved with
          ⟨hnone, -⟩ | ⟨only, tier', -, hmatched', -, -, honly⟩
        · rw [requestedSomething_of_matched hmatched] at hnone
          exact nomatch hnone
        · obtain rfl := Option.some.inj (hmatched.symm.trans hmatched')
          exact hne ((honly v hv hsat).trans (honly w hw hsat').symm)

end Loud

/-! ## The shoe in two widths -/

/-- Size 11 in two colors: each variant has the option value `11`. -/
def demoColors : List ScannedVariant :=
  [⟨js "v1", js "11 / Black", [js "11", js "Black"], 320000, true, none⟩,
    ⟨js "v2", js "11 / White", [js "11", js "White"], 330000, true, none⟩]

/-- The shoe with some variants. -/
def shoeWith (variants : List ScannedVariant) : FeedProduct :=
  { demoShoeListing with variants := some variants }

/-- A request with a free text only. -/
def textRequest (text : JsString) : VariantRequest := ⟨none, none, some text, none⟩

theorem resolveVariant_fails_loud_demo :
    FailsLoud asciiLower (fun _ => []) (shoeWith demoColors) (textRequest (js "11 / White")) := by
  refine (resolveVariant_fails_loud_iff _ _ _ _ (by decide)).mpr fun text htext => ?_
  have htext' : textOf (textRequest (js "11 / White")) = some (js "11 / White") := by decide
  obtain rfl := Option.some.inj (htext'.symm.trans htext)
  show ∀ v ∈ demoColors, ∀ w ∈ demoColors,
    (Tier.exactText (js "11 / white")).Satisfied asciiLower v →
      (Tier.exactText (js "11 / white")).Satisfied asciiLower w → v = w
  decide

/-- Both variants have the size 11: the first of the list is taken, and the other one when the list
    is turned around. -/
theorem ambiguous_text_resolved :
    (demoColors.map (·.variantId)).Nodup ∧
      resolveVariant asciiLower (fun _ => []) (shoeWith demoColors) (textRequest (js "11")) =
        .ok demoColors.head? ∧
      resolveVariant asciiLower (fun _ => []) (shoeWith demoColors.reverse) (textRequest (js "11")) =
        .ok demoColors.getLast? ∧
      ¬ FailsLoud asciiLower (fun _ => []) (shoeWith demoColors) (textRequest (js "11")) := by
  have hresolved : resolveVariant asciiLower (fun _ => []) (shoeWith demoColors)
      (textRequest (js "11")) = .ok demoColors.head? := rfl
  refine ⟨by decide, hresolved, rfl, fun hloud => ?_⟩
  obtain ⟨tier, hmatched, -, -, honly⟩ := hloud.only _ hresolved
  obtain rfl : Tier.exactText (js "11") = tier := Option.some.inj hmatched
  have hsecond := honly ⟨js "v2", js "11 / White", [js "11", js "White"], 330000, true, none⟩
    (by decide) (by decide)
  exact absurd hsecond (by decide)

end Hundi
