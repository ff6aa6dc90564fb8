/-
  packages/cli/src/scanner.ts — the entries behind the variants that merges list.

  A row of merges lists the first record's variants as they are, or it unites entries by id: `rowSource`
  says which.  Records that are merged group by group list what they would with each group's entries in
  its place (`variants_mergeRow`), as uniting some entries first makes no difference.

    unionById_eq_iff   when two lists of entries have one union
    variants_eq_iff    when the same is listed: a condition on entries and ids
-/
import Hundi.Cli.ShopifyDedupe

namespace Hundi

open Js

/-! ## Entries with one union -/

/-- The last entry of its id. -/
def LastEntry (vs : List ScannedVariant) (v : ScannedVariant) : Prop :=
  ∃ before after, vs = before ++ v :: after ∧ ∀ w ∈ after, w.variantId ≠ v.variantId

/-- The same entry but for its stock. -/
def SameButStock (v w : ScannedVariant) : Prop := { v with available := w.available } = w

/-- The same ids in the order of their first entries, for each of them the same last entry but for its
    stock, and an available entry of it in both or in neither. -/
structure SameEntries (vs ws : List ScannedVariant) : Prop where
  ids : (vs.map ScannedVariant.variantId).eraseDups = (ws.map ScannedVariant.variantId).eraseDups
  last : ∀ v w, LastEntry vs v → LastEntry ws w → v.variantId = w.variantId → SameButStock v w
  available : ∀ id, (∃ v ∈ vs, v.variantId = id ∧ v.available = true) ↔
    ∃ w ∈ ws, w.variantId = id ∧ w.available = true

theorem lastEntry_iff {vs : List ScannedVariant} {v : ScannedVariant} :
    LastEntry vs v ↔ (vs.filter fun w => w.variantId = v.variantId).getLast? = some v := by
  constructor
  · rintro ⟨before, after, rfl, hafter⟩
    have hnone : after.filter (fun w => w.variantId = v.variantId) = [] :=
      List.filter_eq_nil_iff.mpr fun w hw h => hafter w hw (of_decide_eq_true h)
    rw [List.filter_append, List.filter_cons_of_pos (by simp), hnone, List.getLast?_concat]
  · intro h
    rw [List.getLast?_filter, List.find?_eq_some_iff_append] at h
    obtain ⟨-, after, before, heq, hafter⟩ := h
    refine ⟨before.reverse, after.reverse, ?_, fun w hw => ?_⟩
    · rw [← List.reverse_reverse vs, heq, List.reverse_append, List.reverse_cons, List.append_assoc]
      rfl
    · simpa using hafter w (List.mem_reverse.mp hw)

/-- Entries of one id, taken together, give the same from both lists if the last ones are the same but
    for stock and an available one is in both or in neither. -/
theorem together_eq_iff {xs ys : List ScannedVariant} {v w : ScannedVariant}
    (hx : xs.getLast? = some v) (hy : ys.getLast? = some w) :
    together xs = together ys ↔
      SameButStock v w ∧ xs.any ScannedVariant.available = ys.any ScannedVariant.available := by
  obtain ⟨id, label, optionValues, pricePaise, available, sku⟩ := v
  obtain ⟨id', label', optionValues', pricePaise', available', sku'⟩ := w
  rw [together, together, hx, hy, SameButStock]
  simp only [Option.map_some, Option.some.injEq, ScannedVariant.mk.injEq]
  tauto

theorem any_available_filter {vs : List ScannedVariant} {id : JsString} :
    (vs.filter fun v => v.variantId = id).any ScannedVariant.available = true ↔
      ∃ v ∈ vs, v.variantId = id ∧ v.available = true := by
  rw [List.any_eq_true]
  constructor
  · rintro ⟨v, hv, ha⟩
    obtain ⟨hv, hid⟩ := List.mem_filter.mp hv
    exact ⟨v, hv, of_decide_eq_true hid, ha⟩
  · rintro ⟨v, hv, hid, ha⟩
    exact ⟨v, List.mem_filter.mpr ⟨hv, decide_eq_true hid⟩, ha⟩

/-- An id of an entry has a last entry. -/
theorem exists_last {vs : List ScannedVariant} {id : JsString}
    (h : id ∈ vs.map ScannedVariant.variantId) :
    ∃ v, v.variantId = id ∧ LastEntry vs v ∧
      (vs.filter fun w => w.variantId = id).getLast? = some v := by
  obtain ⟨u, hu, rfl⟩ := List.mem_map.mp h
  have hne : vs.filter (fun w => w.variantId = u.variantId) ≠ [] :=
    List.ne_nil_of_mem (List.mem_filter.mpr ⟨hu, decide_eq_true rfl⟩)
  have hlast := List.getLast?_eq_getLast_of_ne_nil hne
  have hid := of_decide_eq_true (List.mem_filter.mp (List.getLast_mem hne)).2
  refine ⟨_, hid, lastEntry_iff.mpr ?_, hlast⟩
  rw [hid]
  exact hlast

theorem eq_of_toList {α : Type} {a b : Option α} (h : a.toList = b.toList) : a = b := by
  cases a <;> cases b <;> simp_all

/-- **One union from two lists of entries.** -/
theorem unionById_eq_iff {vs ws : List ScannedVariant} :
    unionById vs = unionById ws ↔ SameEntries vs ws := by
  constructor
  · intro h
    have hids := congrArg (List.map ScannedVariant.variantId) h
    rw [unionById, unionById, map_variantId_oneEach keepsId_together,
      map_variantId_oneEach keepsId_together] at hids
    have hmem : ∀ id, id ∈ vs.map ScannedVariant.variantId ↔ id ∈ ws.map ScannedVariant.variantId := by
      intro id
      rw [← List.mem_eraseDups, hids, List.mem_eraseDups]
    -- what is listed under one id
    have hone : ∀ id, together (vs.filter fun v => v.variantId = id) =
        together (ws.filter fun w => w.variantId = id) := by
      intro id
      have hfiltered := congrArg (List.filter fun v => v.variantId = id) h
      rw [unionById, unionById, filter_oneEach keepsId_together rfl,
        filter_oneEach keepsId_together rfl] at hfiltered
      exact eq_of_toList hfiltered
    refine ⟨hids, fun v w hv hw hid => ?_, fun id => ?_⟩
    · have hv := lastEntry_iff.mp hv
      have hw := lastEntry_iff.mp hw
      rw [hid] at hv
      exact ((together_eq_iff hv hw).mp (hone w.variantId)).1
    · rw [← any_available_filter, ← any_available_filter, ← Bool.eq_iff_iff]
      by_cases hin : id ∈ vs.map ScannedVariant.variantId
      · obtain ⟨v, -, -, hv⟩ := exists_last hin
        obtain ⟨w, -, -, hw⟩ := exists_last ((hmem id).mp hin)
        exact ((together_eq_iff hv hw).mp (hone id)).2
      · have hnone : ∀ us : List ScannedVariant, id ∉ us.map ScannedVariant.variantId →
            us.filter (fun u => u.variantId = id) = [] := fun us hus =>
          List.filter_eq_nil_iff.mpr fun u hu hid =>
            hus (List.mem_map.mpr ⟨u, hu, of_decide_eq_true hid⟩)
        rw [hnone vs hin, hnone ws fun h => hin ((hmem id).mpr h)]
  · rintro ⟨hids, hlast, havailable⟩
    rw [unionById, oneEach, hids, unionById, oneEach]
    refine List.filterMap_congr fun id hid => ?_
    have hws : id ∈ ws.map ScannedVariant.variantId := List.mem_eraseDups.mp hid
    have hvs : id ∈ vs.map ScannedVariant.variantId := List.mem_eraseDups.mp (hids ▸ hid)
    obtain ⟨v, hvid, hv, hvlast⟩ := exists_last hvs
    obtain ⟨w, hwid, hw, hwlast⟩ := exists_last hws
    refine (together_eq_iff hvlast hwlast).mpr ⟨hlast v w hv hw (hvid.trans hwid.symm), ?_⟩
    rw [Bool.eq_iff_iff, any_available_filter, any_available_filter]
    exact havailable id

/-- What repeats no id is its own union. -/
theorem unionById_of_nodup {vs : List ScannedVariant}
    (h : (vs.map ScannedVariant.variantId).Nodup) : unionById vs = vs := by
  have hone : ∀ v ∈ vs, together (vs.filter fun w => w.variantId = v.variantId) = some v := by
    intro v hv
    have hsingle : vs.filter (fun w => w.variantId = v.variantId) = [v] := by
      induction vs with
      | nil => exact absurd hv List.not_mem_nil
      | cons u vs ih =>
        rw [List.map_cons, List.nodup_cons] at h
        rcases List.mem_cons.mp hv with rfl | hv
        · rw [List.filter_cons_of_pos (by simp), List.filter_eq_nil_iff.mpr]
          intro w hw hid
          exact h.1 (List.mem_map.mpr ⟨w, hw, of_decide_eq_true hid⟩)
        · have hne : ¬ u.variantId = v.variantId := fun heq => h.1 (List.mem_map.mpr ⟨v, hv, heq.symm⟩)
          rw [List.filter_cons_of_neg (by simpa using hne), ih h.2 hv]
    rw [hsingle, together_singleton]
  rw [unionById, oneEach, eraseDups_of_nodup h, List.filterMap_map]
  refine (List.filterMap_congr (g := some) fun v hv => ?_).trans List.filterMap_some
  exact hone v hv

theorem nodup_unionById (vs : List ScannedVariant) :
    ((unionById vs).map ScannedVariant.variantId).Nodup := by
  rw [unionById, map_variantId_oneEach keepsId_together]
  exact nodup_eraseDups _

/-! ## Uniting some entries first -/

theorem together_middle (xs ys zs : List ScannedVariant) :
    together (xs ++ ((together ys).toList ++ zs)) = together (xs ++ (ys ++ zs)) := by
  rcases List.eq_nil_or_concat ys with rfl | ⟨ys, y, rfl⟩
  · rfl
  rw [List.concat_eq_append]
  -- the last entry of all is that of `zs`, or else that of `ys`
  have hy : together (ys ++ [y]) = some { y with available := (ys ++ [y]).any ScannedVariant.available } := by
    rw [together, List.getLast?_concat, Option.map_some]
  rw [hy, Option.toList_some]
  rcases List.eq_nil_or_concat zs with rfl | ⟨zs, z, rfl⟩
  · rw [List.append_nil, List.append_nil, ← List.append_assoc, together, together, List.getLast?_concat,
      List.getLast?_concat, Option.map_some, Option.map_some]
    congr 2
    simp only [List.any_append, List.any_cons, List.any_nil, Bool.or_false, Bool.or_assoc]
  · rw [List.concat_eq_append, ← List.append_assoc, ← List.append_assoc, ← List.append_assoc,
      ← List.append_assoc, together, together, List.getLast?_concat, List.getLast?_concat,
      Option.map_some, Option.map_some]
    congr 2
    simp only [List.any_append, List.any_cons, List.any_nil, Bool.or_false, Bool.or_assoc]

/-- Entries united first count like the entries themselves. -/
theorem unionById_middle (xs ys zs : List ScannedVariant) :
    unionById (xs ++ (unionById ys ++ zs)) = unionById (xs ++ (ys ++ zs)) := by
  have hids : ((xs ++ (unionById ys ++ zs)).map ScannedVariant.variantId).eraseDups =
      ((xs ++ (ys ++ zs)).map ScannedVariant.variantId).eraseDups := by
    rw [List.map_append, List.map_append, unionById, map_variantId_oneEach keepsId_together,
      List.map_append, List.map_append, List.eraseDups_append, List.eraseDups_append, List.removeAll,
      List.removeAll, ← eraseDups_filter, ← eraseDups_filter, eraseDups_eraseDups_append]
  rw [unionById, oneEach, hids, unionById.eq_1 (xs ++ (ys ++ zs)), oneEach]
  -- the ids come in one order, so one id at a time
  refine List.filterMap_congr fun id _ => ?_
  rw [List.filter_append, List.filter_append, unionById, filter_oneEach keepsId_together rfl,
    together_middle, ← List.filter_append, ← List.filter_append]

/-! ## Rows of merges -/

/-- Where listed variants come from: they are the first record's as they are, or entries united. -/
inductive VariantSource where
  | asTheyAre (variants : Option (List ScannedVariant))
  | united (entries : List ScannedVariant)

namespace VariantSource

/-- What is listed. -/
def variants : VariantSource → Option (List ScannedVariant)
  | asTheyAre variants => variants
  | united entries => some (unionById entries)

def entries : VariantSource → List ScannedVariant
  | asTheyAre variants => variants.getD []
  | united entries => entries

/-- The entries that still count when others are merged into these: of a record's own, the last ones. -/
def lasting : VariantSource → List ScannedVariant
  | asTheyAre variants => lastOccurrences (variants.getD [])
  | united entries => entries

/-- Others are merged into `first`, one after the other. -/
def mergeRow (first : VariantSource) (rest : List (List ScannedVariant)) : VariantSource :=
  match mergedFrom first.entries rest with
  | [] => first
  | later => united (first.lasting ++ later.flatten)

theorem mem_ids (source : VariantSource) (id : JsString) :
    id ∈ (source.variants.getD []).map ScannedVariant.variantId ↔
      id ∈ source.entries.map ScannedVariant.variantId := by
  cases source with
  | asTheyAre variants => exact Iff.rfl
  | united entries =>
    show id ∈ (unionById entries).map ScannedVariant.variantId ↔ _
    rw [unionById, map_variantId_oneEach keepsId_together, List.mem_eraseDups]
    rfl

theorem twoIds_variants (first other : VariantSource) :
    twoIds (first.variants.getD [] ++ other.variants.getD []) =
      twoIds (first.entries ++ other.entries) := by
  rw [Bool.eq_iff_iff, twoIds_ids, twoIds_ids, one_lt_length_eraseDups, one_lt_length_eraseDups]
  simp only [List.map_append, List.mem_append, mem_ids]

/-- In a union, the listed variants count like the entries behind them. -/
theorem unionById_variants (sources : List VariantSource) (xs : List ScannedVariant) :
    unionById (xs ++ (sources.map fun s => s.variants.getD []).flatten) =
      unionById (xs ++ (sources.map entries).flatten) := by
  induction sources generalizing xs with
  | nil => rfl
  | cons source sources ih =>
    rw [List.map_cons, List.flatten_cons, List.map_cons, List.flatten_cons]
    have hsource : unionById (xs ++ (source.variants.getD [] ++
          (sources.map fun s => s.variants.getD []).flatten)) =
        unionById (xs ++ (source.entries ++ (sources.map fun s => s.variants.getD []).flatten)) := by
      cases source with
      | asTheyAre variants => rfl
      | united entries => exact unionById_middle xs entries _
    rw [hsource, ← List.append_assoc, ih, List.append_assoc]

/-- **Merging what merges list** is merging the entries behind it. -/
theorem variants_mergeRow (first : VariantSource) (rest : List VariantSource) :
    listedVariants first.variants (rest.map fun s => s.variants.getD []) =
      (first.mergeRow (rest.map entries)).variants := by
  -- how many are dropped is told by the ids, and what is listed has those of the entries
  have hlisted : mergedFrom (first.variants.getD []) (rest.map fun s => s.variants.getD []) =
      (rest.dropWhile fun s => !twoIds (first.entries ++ s.entries)).map fun s => s.variants.getD [] := by
    rw [mergedFrom, List.dropWhile_map]
    congr 2
    funext s
    exact congrArg not (twoIds_variants first s)
  have hentries : mergedFrom first.entries (rest.map entries) =
      (rest.dropWhile fun s => !twoIds (first.entries ++ s.entries)).map entries := by
    rw [mergedFrom, List.dropWhile_map]
    rfl
  rw [listedVariants, mergeRow, hlisted, hentries]
  cases rest.dropWhile fun s => !twoIds (first.entries ++ s.entries) with
  | nil => rfl
  | cons s later =>
    show some (unionById (lastOccurrences (first.variants.getD []) ++
        ((s :: later).map fun s => s.variants.getD []).flatten)) =
      some (unionById (first.lasting ++ ((s :: later).map entries).flatten))
    rw [unionById_variants]
    cases first with
    | asTheyAre variants => rfl
    | united es =>
      -- what is united already has one entry of each id, the last
      show some (unionById (lastOccurrences (unionById es) ++ _)) = some (unionById (es ++ _))
      rw [lastOccurrences_unionById, unionById_unionById]

/-- Two sources of the same variants.  Entries that are united are the same but for their order and what
    the last one of an id overwrites (`SameEntries`).  Variants that are listed as the first record has
    them are the same; or they repeat no id, and are the entries that the other unites. -/
def Same : VariantSource → VariantSource → Prop
  | asTheyAre vs, asTheyAre ws => vs = ws
  | asTheyAre vs, united es =>
    ∃ l, vs = some l ∧ (l.map ScannedVariant.variantId).Nodup ∧ SameEntries l es
  | united es, asTheyAre ws =>
    ∃ l, ws = some l ∧ (l.map ScannedVariant.variantId).Nodup ∧ SameEntries es l
  | united es, united fs => SameEntries es fs

theorem eq_some_unionById_iff {vs : Option (List ScannedVariant)} {es : List ScannedVariant} :
    vs = some (unionById es) ↔
      ∃ l, vs = some l ∧ (l.map ScannedVariant.variantId).Nodup ∧ unionById l = unionById es := by
  constructor
  · rintro rfl
    exact ⟨_, rfl, nodup_unionById es, unionById_of_nodup (nodup_unionById es)⟩
  · rintro ⟨l, rfl, hnodup, hsame⟩
    rw [← hsame, unionById_of_nodup hnodup]

/-- **When the same is listed.** -/
theorem variants_eq_iff (s t : VariantSource) : s.variants = t.variants ↔ s.Same t := by
  cases s with
  | asTheyAre vs =>
    cases t with
    | asTheyAre ws => exact Iff.rfl
    | united es =>
      simp only [Same, ← unionById_eq_iff]
      exact eq_some_unionById_iff
  | united es =>
    cases t with
    | asTheyAre ws =>
      simp only [Same, ← unionById_eq_iff]
      rw [eq_comm, variants, variants, eq_some_unionById_iff]
      simp only [eq_comm]
    | united fs =>
      rw [Same, ← unionById_eq_iff, variants, variants, Option.some.injEq]

end VariantSource

/-- Where the variants of records come from that are merged in a row. -/
def rowSource : List ScannedProduct → VariantSource
  | [] => .asTheyAre none
  | first :: rest => (VariantSource.asTheyAre first.variants).mergeRow (rest.map ScannedProduct.variantList)

/-- And of groups of records, each merged in a row, and the results merged in a row. -/
def pagedSource (groups : List (List ScannedProduct)) : VariantSource :=
  match groups.map rowSource with
  | [] => .asTheyAre none
  | first :: rest => first.mergeRow (rest.map VariantSource.entries)

theorem listedVariants_row (first : ScannedProduct) (rest : List ScannedProduct) :
    listedVariants first.variants (rest.map ScannedProduct.variantList) =
      (rowSource (first :: rest)).variants := by
  have h := VariantSource.variants_mergeRow (.asTheyAre first.variants)
    (rest.map fun r => .asTheyAre r.variants)
  rw [List.map_map, List.map_map] at h
  exact h

end Hundi
