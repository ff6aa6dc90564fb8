/-
  `Map`, and the loop that gathers a list into one.

  A map keeps its entries in the order in which their keys were first set.  A loop that reads each
  item's key and sets it to something made of what the key had before is `collect`; what it leaves under
  a key is made of the items with this key alone (`get?_collect`), and the keys stand in the order of
  their first item (`keys_collect`).
-/
import Hundi.Lib.FirstSeen

namespace Js

/-! ## Maps -/

/-- A `Map`: its entries, each key once. -/
structure JsMap (κ α : Type) where
  entries : List (κ × α)
  nodup : (entries.map Prod.fst).Nodup

section

variable {κ α β : Type} [DecidableEq κ]

namespace JsMap

/-- `new Map()`. -/
def empty : JsMap κ α := ⟨[], List.nodup_nil⟩

def keys (m : JsMap κ α) : List κ := m.entries.map Prod.fst

/-- `[...map.values()]`. -/
def values (m : JsMap κ α) : List α := m.entries.map Prod.snd

/-- `map.get(key)`. -/
def get? (m : JsMap κ α) (key : κ) : Option α :=
  (m.entries.find? fun e => e.1 = key).map Prod.snd

/-- The entries once `key` is set. -/
def put (entries : List (κ × α)) (key : κ) (value : α) : List (κ × α) :=
  if key ∈ entries.map Prod.fst then entries.map fun e => if e.1 = key then (key, value) else e
  else entries ++ [(key, value)]

theorem map_fst_put (entries : List (κ × α)) (key : κ) (value : α) :
    (put entries key value).map Prod.fst =
      if key ∈ entries.map Prod.fst then entries.map Prod.fst else entries.map Prod.fst ++ [key] := by
  rw [put]
  by_cases h : key ∈ entries.map Prod.fst
  · rw [if_pos h, if_pos h, List.map_map]
    refine List.map_congr_left fun e _ => ?_
    show (if e.1 = key then (key, value) else e).1 = e.1
    split
    · rename_i heq
      exact heq.symm
    · rfl
  · rw [if_neg h, if_neg h, List.map_append]
    rfl

/-- `map.set(key, value)`. -/
def set (m : JsMap κ α) (key : κ) (value : α) : JsMap κ α where
  entries := put m.entries key value
  nodup := by
    rw [map_fst_put]
    split
    · exact m.nodup
    · rename_i h
      exact List.nodup_append.mpr ⟨m.nodup, List.nodup_singleton key,
        fun a ha b hb heq => h (List.mem_singleton.mp hb ▸ heq ▸ ha)⟩

theorem keys_set (m : JsMap κ α) (key : κ) (value : α) :
    (m.set key value).keys = if key ∈ m.keys then m.keys else m.keys ++ [key] :=
  map_fst_put m.entries key value

theorem get?_set (m : JsMap κ α) (key : κ) (value : α) (k : κ) :
    (m.set key value).get? k = if k = key then some value else m.get? k := by
  rw [get?, get?, set]
  dsimp only
  rw [put]
  by_cases h : key ∈ m.entries.map Prod.fst
  · rw [if_pos h, List.find?_map]
    by_cases hk : k = key
    · subst hk
      rw [if_pos rfl]
      obtain ⟨e, he, hkey⟩ := List.mem_map.mp h
      have hsome : (m.entries.find? ((fun e => decide (e.1 = k)) ∘
          fun e => if e.1 = k then (k, value) else e)).isSome = true := by
        rw [List.find?_isSome]
        refine ⟨e, he, ?_⟩
        rw [Function.comp_apply, if_pos hkey]
        exact decide_eq_true rfl
      obtain ⟨e', he'⟩ := Option.isSome_iff_exists.mp hsome
      have hfound := List.find?_some he'
      rw [he', Option.map_some, Option.map_some]
      rw [Function.comp_apply, decide_eq_true_eq] at hfound
      congr 1
      by_cases hsame : e'.1 = k
      · rw [if_pos hsame]
      · rw [if_neg hsame] at hfound
        exact absurd hfound hsame
    · rw [if_neg hk, Option.map_map]
      have hother : ((fun e : κ × α => decide (e.1 = k)) ∘
          fun e => if e.1 = key then (key, value) else e) = fun e => decide (e.1 = k) := by
        funext e
        rw [Function.comp_apply]
        by_cases he : e.1 = key
        · rw [if_pos he, decide_eq_false (Ne.symm hk), decide_eq_false (he ▸ Ne.symm hk)]
        · rw [if_neg he]
      rw [hother]
      cases hfind : m.entries.find? fun e => decide (e.1 = k) with
      | none => rfl
      | some e =>
        have hkey : e.1 = k := by simpa using List.find?_some hfind
        rw [Option.map_some, Option.map_some, Function.comp_apply, if_neg (hkey ▸ hk)]
  · rw [if_neg h, List.find?_append]
    by_cases hk : k = key
    · subst hk
      have hnone : m.entries.find? (fun e => decide (e.1 = k)) = none := by
        rw [List.find?_eq_none]
        intro e he hkey
        exact h (List.mem_map.mpr ⟨e, he, of_decide_eq_true hkey⟩)
      rw [hnone, if_pos rfl, Option.none_or, List.find?_cons_of_pos (by simp)]
      rfl
    · rw [if_neg hk, List.find?_cons_of_neg (by simpa using Ne.symm hk), List.find?_nil, Option.or_none]

theorem get?_empty (k : κ) : (empty : JsMap κ α).get? k = none := rfl

theorem get?_isSome {m : JsMap κ α} {k : κ} : (m.get? k).isSome = true ↔ k ∈ m.keys := by
  rw [get?, Option.isSome_map, List.find?_isSome, keys, List.mem_map]
  exact exists_congr fun e => and_congr_right fun _ => decide_eq_true_iff

/-- **The values are what the keys have, in the order of the keys.** -/
theorem values_eq (m : JsMap κ α) : m.values = m.keys.filterMap m.get? := by
  obtain ⟨entries, nodup⟩ := m
  have hget : ∀ e ∈ entries, (⟨entries, nodup⟩ : JsMap κ α).get? e.1 = some e.2 := by
    intro e he
    rw [get?]
    dsimp only
    have hsome : (entries.find? fun x => decide (x.1 = e.1)).isSome = true :=
      List.find?_isSome.mpr ⟨e, he, decide_eq_true rfl⟩
    obtain ⟨e', he'⟩ := Option.isSome_iff_exists.mp hsome
    have hkey : e'.1 = e.1 := by simpa using List.find?_some he'
    have hsame : e' = e := List.inj_on_of_nodup_map nodup (List.mem_of_find?_eq_some he') he hkey
    rw [he', hsame]
    rfl
  rw [values, keys, List.filterMap_map]
  dsimp only
  rw [← List.filterMap_eq_map]
  exact List.filterMap_congr fun e he => (hget e he).symm

theorem mem_values {m : JsMap κ α} {a : α} : a ∈ m.values ↔ ∃ k, m.get? k = some a := by
  rw [values_eq, List.mem_filterMap]
  constructor
  · rintro ⟨k, -, hk⟩
    exact ⟨k, hk⟩
  · rintro ⟨k, hk⟩
    exact ⟨k, get?_isSome.mp (by rw [hk]; rfl), hk⟩

/-! ## The gathering loop -/

/-- A loop that sets the key of each item to what `step` makes of it and what the key had. -/
def collect (key : β → κ) (step : Option α → β → α) (m : JsMap κ α) (xs : List β) : JsMap κ α :=
  xs.foldl (fun m x => m.set (key x) (step (m.get? (key x)) x)) m

variable {key : β → κ} {step : Option α → β → α}

/-- **What the loop leaves under a key** is made of the items with this key, in their order. -/
theorem get?_collect (m : JsMap κ α) (xs : List β) (k : κ) :
    (collect key step m xs).get? k =
      (xs.filter fun x => key x = k).foldl (fun a x => some (step a x)) (m.get? k) := by
  induction xs generalizing m with
  | nil => rfl
  | cons x xs ih =>
    show (collect key step (m.set (key x) (step (m.get? (key x)) x)) xs).get? k = _
    rw [ih, get?_set]
    by_cases h : key x = k
    · rw [if_pos h.symm, List.filter_cons_of_pos (by simpa using h), List.foldl_cons, h]
    · rw [if_neg (Ne.symm h), List.filter_cons_of_neg (by simpa using h)]

/-- **The keys** stand in the order in which they first come. -/
theorem keys_collect [BEq κ] [LawfulBEq κ] (m : JsMap κ α) (xs : List β) :
    (collect key step m xs).keys = (m.keys ++ xs.map key).eraseDups := by
  induction xs generalizing m with
  | nil =>
    rw [List.map_nil, List.append_nil]
    exact (eraseDups_of_nodup m.nodup).symm
  | cons x xs ih =>
    show (collect key step (m.set (key x) (step (m.get? (key x)) x)) xs).keys = _
    rw [ih, keys_set, List.map_cons]
    by_cases h : key x ∈ m.keys
    · rw [if_pos h, List.eraseDups_append, List.eraseDups_append]
      congr 2
      rw [List.removeAll, List.removeAll, List.filter_cons_of_neg (by simpa using h)]
    · rw [if_neg h, List.append_assoc]
      rfl

end JsMap

end

end Js
