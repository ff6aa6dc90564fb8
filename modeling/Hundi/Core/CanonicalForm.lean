/-
  canonicalJson is a canonical form.

  A JavaScript value is a JSON value none of whose objects has two properties of one name.  Two such
  values are one up to the order of keys (`UpToKeys`) when their arrays agree element by element and
  their objects member by member, in whatever order the members stand.  That is what sorting the
  keys decides (`upToKeys_iff`), and so what the bytes decide (`canonicalJson_canonical`): the bytes
  are read back as the value, reading them loses nothing, and two values share them exactly when
  they are one up to the order of keys.
-/
import Hundi.Core.Reparse
import Mathlib.Data.List.Perm.Subperm

namespace Hundi

open Js

mutual

/-- The two values are one up to the order of object keys. -/
def UpToKeys : JsonValue → JsonValue → Prop
  | .null, .null => True
  | .bool a, .bool b => a = b
  | .num m, .num n => m = n
  | .str s, .str t => s = t
  | .arr xs, .arr ys => UpToKeysElems xs ys
  | .obj ms, .obj ns => ms.length = ns.length ∧ UpToKeysMembers ms ns
  | _, _ => False

def UpToKeysElems : List JsonValue → List JsonValue → Prop
  | [], [] => True
  | x :: xs, y :: ys => UpToKeys x y ∧ UpToKeysElems xs ys
  | _, _ => False

/-- Every member of the first list is one of the second. -/
def UpToKeysMembers : List (JsString × JsonValue) → List (JsString × JsonValue) → Prop
  | [], _ => True
  | (k, x) :: ms, ns => (∃ y, (k, y) ∈ ns ∧ UpToKeys x y) ∧ UpToKeysMembers ms ns

end

/-- A JavaScript value: no object in it has two properties of one name. -/
structure CanonicalValue where
  value : JsonValue
  keysOnce : KeysOnce value

/-! ## What sorting the keys decides -/

theorem mem_normMembers {ms : List (JsString × JsonValue)} {k : JsString} {u : JsonValue} :
    (k, u) ∈ normMembers ms ↔ ∃ y, (k, y) ∈ ms ∧ norm y = u := by
  rw [normMembers_eq_map, List.mem_map]
  constructor
  · rintro ⟨⟨k', y⟩, hm, heq⟩
    obtain ⟨rfl, rfl⟩ := Prod.mk.inj heq
    exact ⟨y, hm, rfl⟩
  · rintro ⟨y, hm, rfl⟩
    exact ⟨(k, y), hm, rfl⟩

theorem safeMembers_mem {ms : List (JsString × JsonValue)} (h : safeMembers ms = true)
    {m : JsString × JsonValue} (hm : m ∈ ms) : safe m.2 = true := by
  induction ms with
  | nil => exact nomatch hm
  | cons e ms ih =>
    rw [safeMembers, Bool.and_eq_true] at h
    rcases List.mem_cons.mp hm with rfl | hm
    · exact h.1
    · exact ih h.2 hm

theorem keysOnce_of_mem {ms : List (JsString × JsonValue)} (h : KeysOnceMembers ms)
    {m : JsString × JsonValue} (hm : m ∈ ms) : KeysOnce m.2 := by
  induction ms with
  | nil => exact nomatch hm
  | cons e ms ih =>
    rcases List.mem_cons.mp hm with rfl | hm
    · exact h.1
    · exact ih h.2 hm

/-- Objects of distinct keys have one sorted form when the members of the one are among the
    other's and there are as many. -/
theorem norm_obj_eq_iff {ms ns : List (JsString × JsonValue)} (hnd : (ms.map Prod.fst).Nodup) :
    norm (.obj ms) = norm (.obj ns) ↔
      ms.length = ns.length ∧ ∀ m ∈ normMembers ms, m ∈ normMembers ns := by
  have hlen : ∀ l : List (JsString × JsonValue), (normMembers l).length = l.length := fun l => by
    rw [normMembers_eq_map, List.length_map]
  constructor
  · intro h
    have hperm := normMembers_perm h
    refine ⟨?_, fun m hm => hperm.mem_iff.mp hm⟩
    rw [← hlen ms, ← hlen ns, hperm.length_eq]
  · rintro ⟨hl, hsub⟩
    have hkeys : (normMembers ms).map Prod.fst = ms.map Prod.fst := by
      rw [normMembers_eq_map, List.map_map]
      rfl
    have hnodup : (normMembers ms).Nodup := List.Nodup.of_map Prod.fst (hkeys ▸ hnd)
    have hsubperm : (normMembers ms).Subperm (normMembers ns) := hnodup.subperm hsub
    exact norm_obj_perm hnd (hsubperm.perm_of_length_le (by rw [hlen, hlen, hl]))

mutual

/-- **Sorting the keys decides whether two values are one up to their order.** -/
theorem upToKeys_iff : ∀ v w : JsonValue, KeysOnce v → KeysOnce w →
    (UpToKeys v w ↔ norm v = norm w)
  | .null, w, _, _ => by cases w <;> simp [UpToKeys, norm]
  | .bool b, w, _, _ => by cases w <;> simp [UpToKeys, norm]
  | .num n, w, _, _ => by cases w <;> simp [UpToKeys, norm]
  | .str s, w, _, _ => by cases w <;> simp [UpToKeys, norm]
  | .arr xs, w, hv, hw => by
    cases w with
    | arr ys =>
      rw [UpToKeys, norm, norm, JsonValue.arr.injEq]
      exact upToKeysElems_iff xs ys hv hw
    | _ => simp [UpToKeys, norm]
  | .obj ms, w, hv, hw => by
    cases w with
    | obj ns =>
      rw [UpToKeys, norm_obj_eq_iff hv.1, upToKeysMembers_iff ms ns hv.2 hw.2]
    | _ => simp [UpToKeys, norm]

theorem upToKeysElems_iff : ∀ xs ys : List JsonValue, KeysOnceElems xs → KeysOnceElems ys →
    (UpToKeysElems xs ys ↔ normElems xs = normElems ys)
  | [], [], _, _ => by simp [UpToKeysElems]
  | [], _ :: _, _, _ => by simp [UpToKeysElems, normElems]
  | _ :: _, [], _, _ => by simp [UpToKeysElems, normElems]
  | x :: xs, y :: ys, hx, hy => by
    rw [UpToKeysElems, normElems, normElems, List.cons.injEq, upToKeys_iff x y hx.1 hy.1,
      upToKeysElems_iff xs ys hx.2 hy.2]

theorem upToKeysMembers_iff : ∀ ms ns : List (JsString × JsonValue), KeysOnceMembers ms →
    KeysOnceMembers ns → (UpToKeysMembers ms ns ↔ ∀ m ∈ normMembers ms, m ∈ normMembers ns)
  | [], ns, _, _ => by simp [UpToKeysMembers, normMembers]
  | (k, x) :: ms, ns, hm, hn => by
    rw [UpToKeysMembers, normMembers, List.forall_mem_cons, upToKeysMembers_iff ms ns hm.2 hn,
      mem_normMembers]
    refine and_congr (exists_congr fun y => and_congr_right fun hy => ?_) Iff.rfl
    rw [upToKeys_iff x y hm.1 (keysOnce_of_mem hn hy)]
    exact eq_comm

end

/-! ## What the bytes decide -/

mutual

theorem safe_of_norm : ∀ v : JsonValue, safe (norm v) = true → safe v = true
  | .null, _ => rfl
  | .bool _, _ => rfl
  | .num _, h => h
  | .str _, _ => rfl
  | .arr xs, h => by
    rw [norm, safe] at h
    rw [safe]
    exact safeElems_of_norm xs h
  | .obj ms, h => by
    rw [norm, safe] at h
    rw [safe]
    refine safeMembers_of_norm ms fun m hm => ?_
    exact safeMembers_mem h ((sortMembers_perm _).mem_iff.mpr hm)

theorem safeElems_of_norm : ∀ xs : List JsonValue, safeElems (normElems xs) = true →
    safeElems xs = true
  | [], _ => rfl
  | x :: xs, h => by
    rw [normElems, safeElems, Bool.and_eq_true] at h
    rw [safeElems, safe_of_norm x h.1, safeElems_of_norm xs h.2]
    rfl

theorem safeMembers_of_norm : ∀ ms : List (JsString × JsonValue),
    (∀ m ∈ normMembers ms, safe m.2 = true) → safeMembers ms = true
  | [], _ => rfl
  | (k, x) :: ms, h => by
    rw [normMembers, List.forall_mem_cons] at h
    rw [safeMembers, safe_of_norm x h.1, safeMembers_of_norm ms h.2]
    rfl

end

mutual

/-- A value that can be read back is a JavaScript value. -/
theorem keysOnce_of_readable : ∀ v : JsonValue, Readable v → KeysOnce v
  | .null, _ => trivial
  | .bool _, _ => trivial
  | .num _, _ => trivial
  | .str _, _ => trivial
  | .arr xs, h => keysOnceElems_of_readable xs h
  | .obj ms, h => ⟨h.1, keysOnceMembers_of_readable ms h.2⟩

theorem keysOnceElems_of_readable : ∀ xs : List JsonValue, ReadableElems xs → KeysOnceElems xs
  | [], _ => trivial
  | x :: xs, h => ⟨keysOnce_of_readable x h.1, keysOnceElems_of_readable xs h.2⟩

theorem keysOnceMembers_of_readable : ∀ ms : List (JsString × JsonValue), ReadableMembers ms →
    KeysOnceMembers ms
  | [], _ => trivial
  | (_, x) :: ms, h => ⟨keysOnce_of_readable x h.1, keysOnceMembers_of_readable ms h.2⟩

end

/-- **canonicalJson is a faithful canonical form**: the bytes of a value are read back as the value
    up to the order of keys, encoding what was read gives them again, and they are the bytes of
    exactly the values that are this one up to the order of keys. -/
theorem canonicalJson_canonical (v w : CanonicalValue) (bytes : Bytes)
    (h : canonicalJson v.value = .ok bytes) :
    (∃ u : CanonicalValue, jsonParse (textDecode bytes) = some (some u.value) ∧
      UpToKeys v.value u.value ∧ canonicalJson u.value = .ok bytes) ∧
    (canonicalJson w.value = .ok bytes ↔ UpToKeys v.value w.value) := by
  have hsafe := safe_of_canonicalJson h
  constructor
  · have hkeys : KeysOnce (norm v.value) :=
      keysOnce_of_readable _ (readable_norm v.value hsafe v.keysOnce)
    refine ⟨⟨norm v.value, hkeys⟩, jsonParse_canonicalJson h v.keysOnce, ?_, canonicalJson_norm h⟩
    rw [upToKeys_iff v.value _ v.keysOnce hkeys, norm_norm]
  · rw [upToKeys_iff v.value w.value v.keysOnce w.keysOnce]
    constructor
    · intro hw
      exact canonicalJson_inj h hw
    · intro hnorm
      have hsafe' : safe w.value = true := safe_of_norm _ (hnorm ▸ safe_norm v.value hsafe)
      rw [canonicalJson_safe hsafe', ← hnorm, ← canonicalJson_safe hsafe, h]

/-- An object with a lone surrogate and a control character in it. -/
def demoValue : CanonicalValue where
  value := .obj [(js "ab", .arr [.str [0xD800, 0x0A], .num (-3)]), (js "a", .null)]
  keysOnce := ⟨by decide, ⟨⟨trivial, trivial, trivial⟩, trivial, trivial⟩⟩

/-- The same object, its keys in the other order. -/
def demoSwapped : CanonicalValue where
  value := .obj [(js "a", .null), (js "ab", .arr [.str [0xD800, 0x0A], .num (-3)])]
  keysOnce := ⟨by decide, ⟨trivial, ⟨trivial, trivial, trivial⟩, trivial⟩⟩

theorem canonicalJson_canonical_demo :
    canonicalJson demoSwapped.value =
      .ok (textEncode (js "\x7b\"a\":null,\"ab\":[\"\\ud800\\n\",-3]\x7d")) := by
  have h : canonicalJson demoValue.value =
      .ok (textEncode (js "\x7b\"a\":null,\"ab\":[\"\\ud800\\n\",-3]\x7d")) := by rfl
  refine (canonicalJson_canonical demoValue demoSwapped _ h).2.mpr ⟨rfl, ?_⟩
  exact ⟨⟨_, List.mem_cons_of_mem _ List.mem_cons_self, rfl, rfl, trivial⟩,
    ⟨_, List.mem_cons_self, trivial⟩, trivial⟩

end Hundi
