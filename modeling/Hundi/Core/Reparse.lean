/-
  Canonical JSON is a fixed point of storing and parsing.

  The payload of a ledger row is stored as canonical text and parsed back before it is hashed
  again; signed mandates make the same way through `JSON.stringify`.  A JavaScript object has no two
  properties of one name (`KeysOnce`), so for a value `canonicalJson` admits

  * the text is read back as `norm v`, the value with its keys sorted (`jsonParse_canonicalJson`);
  * encoding that value again gives the same bytes (`canonicalJson_norm`), because sorting sorted
    keys changes nothing (`norm_norm`).

  Two objects have one text exactly when they have the same members, whatever order these stand in
  (`norm_obj_perm`, `normMembers_perm`).
-/
import Hundi.Core.CanonicalJson
import Hundi.Lib.JsonParse
import Hundi.Lib.TextDecoder

namespace Hundi

open Js

/-! ## Sorting sorted keys -/

theorem keyLe_total : ∀ a b : JsString, keyLe a b = true ∨ keyLe b a = true
  | [], _ => Or.inl rfl
  | _ :: _, [] => Or.inr rfl
  | a :: s, b :: t => by
    simp only [keyLe, Bool.or_eq_true, Bool.and_eq_true, decide_eq_true_eq, beq_iff_eq]
    by_cases hab : a < b
    · exact Or.inl (Or.inl hab)
    by_cases hba : b < a
    · exact Or.inr (Or.inl hba)
    obtain rfl := UInt16.le_antisymm (UInt16.not_lt.mp hba) (UInt16.not_lt.mp hab)
    rcases keyLe_total s t with h | h
    · exact Or.inl (Or.inr ⟨rfl, h⟩)
    · exact Or.inr (Or.inr ⟨rfl, h⟩)

theorem keyLe_trans : ∀ a b c : JsString, keyLe a b = true → keyLe b c = true → keyLe a c = true
  | [], _, _, _, _ => rfl
  | _ :: _, [], _, hab, _ => nomatch hab
  | _ :: _, _ :: _, [], _, hbc => nomatch hbc
  | a :: s, b :: t, c :: u, hab, hbc => by
    simp only [keyLe, Bool.or_eq_true, Bool.and_eq_true, decide_eq_true_eq, beq_iff_eq] at hab hbc ⊢
    rcases hab with hab | ⟨rfl, hst⟩
    · rcases hbc with hbc | ⟨rfl, -⟩
      · exact Or.inl (UInt16.lt_trans hab hbc)
      · exact Or.inl hab
    · rcases hbc with hbc | ⟨rfl, htu⟩
      · exact Or.inl hbc
      · exact Or.inr ⟨rfl, keyLe_trans s t u hst htu⟩

theorem keyLe_antisymm : ∀ a b : JsString, keyLe a b = true → keyLe b a = true → a = b
  | [], [], _, _ => rfl
  | [], _ :: _, _, hba => nomatch hba
  | _ :: _, [], hab, _ => nomatch hab
  | a :: s, b :: t, hab, hba => by
    simp only [keyLe, Bool.or_eq_true, Bool.and_eq_true, decide_eq_true_eq, beq_iff_eq] at hab hba
    rcases hab with hab | ⟨rfl, hst⟩
    · rcases hba with hba | ⟨rfl, -⟩
      · exact absurd (UInt16.lt_trans hab hba) (UInt16.lt_irrefl a)
      · exact absurd hab (UInt16.lt_irrefl _)
    · rcases hba with hba | ⟨-, hts⟩
      · exact absurd hba (UInt16.lt_irrefl a)
      · rw [keyLe_antisymm s t hst hts]

/-- Sorted members with distinct keys do not depend on the order they stood in. -/
theorem sortMembers_perm_eq {α : Type} {ms ns : List (JsString × α)}
    (hnd : (ms.map Prod.fst).Nodup) (h : ms.Perm ns) : sortMembers ms = sortMembers ns := by
  have htotal : Std.Total fun a b : JsString × α => keyLe a.1 b.1 = true :=
    ⟨fun a b => keyLe_total a.1 b.1⟩
  have htrans : IsTrans (JsString × α) fun a b => keyLe a.1 b.1 = true :=
    ⟨fun a b c => keyLe_trans a.1 b.1 c.1⟩
  refine List.Perm.eq_of_pairwise (fun a b ha hb hab hba => ?_)
    (List.pairwise_insertionSort (r := fun a b : JsString × α => keyLe a.1 b.1 = true) ms)
    (List.pairwise_insertionSort (r := fun a b : JsString × α => keyLe a.1 b.1 = true) ns)
    ((sortMembers_perm ms).trans (h.trans (sortMembers_perm ns).symm))
  have ha' : a ∈ ms := (sortMembers_perm ms).mem_iff.mp ha
  have hb' : b ∈ ms := h.mem_iff.mpr ((sortMembers_perm ns).mem_iff.mp hb)
  exact List.inj_on_of_nodup_map hnd ha' hb' (keyLe_antisymm _ _ hab hba)

/-- Sorting sorted members changes nothing. -/
theorem sortMembers_sortMembers {α : Type} (ms : List (JsString × α)) :
    sortMembers (sortMembers ms) = sortMembers ms := by
  have htotal : Std.Total fun a b : JsString × α => keyLe a.1 b.1 = true :=
    ⟨fun a b => keyLe_total a.1 b.1⟩
  have htrans : IsTrans (JsString × α) fun a b => keyLe a.1 b.1 = true :=
    ⟨fun a b c => keyLe_trans a.1 b.1 c.1⟩
  exact List.Pairwise.insertionSort_eq (List.pairwise_insertionSort _ ms)

theorem normElems_eq_map (xs : List JsonValue) : normElems xs = xs.map norm := by
  induction xs with
  | nil => rfl
  | cons x xs ih => rw [normElems, List.map_cons, ih]

/-- **The order of the members does not show in the text.** -/
theorem norm_obj_perm {ms ns : List (JsString × JsonValue)} (hnd : (ms.map Prod.fst).Nodup)
    (h : (normMembers ms).Perm (normMembers ns)) : norm (.obj ms) = norm (.obj ns) := by
  have hkeys : (normMembers ms).map Prod.fst = ms.map Prod.fst := by
    rw [normMembers_eq_map, List.map_map]
    rfl
  rw [norm, norm, sortMembers_perm_eq (by rw [hkeys]; exact hnd) h]

/-- Two objects with one text have the same members, each up to the order of its own. -/
theorem normMembers_perm {ms ns : List (JsString × JsonValue)}
    (h : norm (.obj ms) = norm (.obj ns)) : (normMembers ms).Perm (normMembers ns) := by
  rw [norm, norm, JsonValue.obj.injEq] at h
  exact (sortMembers_perm _).symm.trans (h ▸ sortMembers_perm _)

mutual

theorem norm_norm : ∀ v : JsonValue, norm (norm v) = norm v
  | .null => rfl
  | .bool _ => rfl
  | .num _ => rfl
  | .str _ => rfl
  | .arr xs => by rw [norm, norm, normElems_normElems xs]
  | .obj ms => by
    have hsort := map_sortMembers norm (normMembers ms)
    rw [norm, norm, normMembers_eq_map, hsort, ← normMembers_eq_map, normMembers_normMembers ms,
      sortMembers_sortMembers]

theorem normElems_normElems : ∀ xs : List JsonValue, normElems (normElems xs) = normElems xs
  | [] => rfl
  | x :: xs => by rw [normElems, normElems, norm_norm x, normElems_normElems xs]

theorem normMembers_normMembers : ∀ ms : List (JsString × JsonValue),
    normMembers (normMembers ms) = normMembers ms
  | [] => rfl
  | (k, v) :: ms => by rw [normMembers, normMembers, norm_norm v, normMembers_normMembers ms]

end

/-! ## JavaScript objects -/

mutual

/-- No object anywhere in the value has two members of one name. -/
def KeysOnce : JsonValue → Prop
  | .arr xs => KeysOnceElems xs
  | .obj ms => (ms.map Prod.fst).Nodup ∧ KeysOnceMembers ms
  | _ => True

def KeysOnceElems : List JsonValue → Prop
  | [] => True
  | x :: xs => KeysOnce x ∧ KeysOnceElems xs

def KeysOnceMembers : List (JsString × JsonValue) → Prop
  | [] => True
  | (_, v) :: ms => KeysOnce v ∧ KeysOnceMembers ms

end

theorem readableMembers_iff {ms : List (JsString × JsonValue)} :
    ReadableMembers ms ↔ ∀ m ∈ ms, Readable m.2 := by
  induction ms with
  | nil => exact ⟨fun _ _ h => (nomatch h), fun _ => trivial⟩
  | cons m ms ih =>
    rw [List.forall_mem_cons, ← ih]
    rfl

/-- Sorting the members does not matter to reading them back. -/
theorem readable_sortMembers {ms : List (JsString × JsonValue)} (hnd : (ms.map Prod.fst).Nodup)
    (h : ReadableMembers ms) : Readable (.obj (sortMembers ms)) := by
  have hperm := sortMembers_perm ms
  refine ⟨(hperm.map Prod.fst).nodup_iff.mpr hnd, readableMembers_iff.mpr fun m hm => ?_⟩
  exact readableMembers_iff.mp h m (hperm.mem_iff.mp hm)

mutual

/-- **What `canonicalJson` admits can be read back**, keys sorted. -/
theorem readable_norm : ∀ v : JsonValue, safe v = true → KeysOnce v → Readable (norm v)
  | .null, _, _ => trivial
  | .bool _, _, _ => trivial
  | .num _, hs, _ => hs
  | .str _, _, _ => trivial
  | .arr xs, hs, hk => readableElems_norm xs hs hk
  | .obj ms, hs, hk => by
    rw [norm]
    refine readable_sortMembers ?_ (readableMembers_norm ms hs hk.2)
    have hkeys : (normMembers ms).map Prod.fst = ms.map Prod.fst := by
      rw [normMembers_eq_map, List.map_map]
      rfl
    rw [hkeys]
    exact hk.1

theorem readableElems_norm : ∀ xs : List JsonValue, safeElems xs = true → KeysOnceElems xs →
    ReadableElems (normElems xs)
  | [], _, _ => trivial
  | x :: xs, hs, hk => by
    rw [safeElems, Bool.and_eq_true] at hs
    exact ⟨readable_norm x hs.1 hk.1, readableElems_norm xs hs.2 hk.2⟩

theorem readableMembers_norm : ∀ ms : List (JsString × JsonValue), safeMembers ms = true →
    KeysOnceMembers ms → ReadableMembers (normMembers ms)
  | [], _, _ => trivial
  | (_, v) :: ms, hs, hk => by
    rw [safeMembers, Bool.and_eq_true] at hs
    exact ⟨readable_norm v hs.1 hk.1, readableMembers_norm ms hs.2 hk.2⟩

end

mutual

/-- So can the value as it stands, from the text `JSON.stringify` writes. -/
theorem readable_of_safe : ∀ v : JsonValue, safe v = true → KeysOnce v → Readable v
  | .null, _, _ => trivial
  | .bool _, _, _ => trivial
  | .num _, hs, _ => hs
  | .str _, _, _ => trivial
  | .arr xs, hs, hk => readableElems_of_safe xs hs hk
  | .obj ms, hs, hk => ⟨hk.1, readableMembers_of_safe ms hs hk.2⟩

theorem readableElems_of_safe : ∀ xs : List JsonValue, safeElems xs = true → KeysOnceElems xs →
    ReadableElems xs
  | [], _, _ => trivial
  | x :: xs, hs, hk => by
    rw [safeElems, Bool.and_eq_true] at hs
    exact ⟨readable_of_safe x hs.1 hk.1, readableElems_of_safe xs hs.2 hk.2⟩

theorem readableMembers_of_safe : ∀ ms : List (JsString × JsonValue), safeMembers ms = true →
    KeysOnceMembers ms → ReadableMembers ms
  | [], _, _ => trivial
  | (_, v) :: ms, hs, hk => by
    rw [safeMembers, Bool.and_eq_true] at hs
    exact ⟨readable_of_safe v hs.1 hk.1, readableMembers_of_safe ms hs.2 hk.2⟩

end

/-! ## Through the text and back -/

/-- No value's text starts with a byte order mark. -/
theorem head?_print (v : JsonValue) : (print v).head? ≠ some 0xFEFF := by
  obtain ⟨u, rest, hp, ht⟩ := print_head v
  rw [hp, List.head?_cons]
  intro hu
  obtain rfl := Option.some.inj hu
  have htop : headTag 0xFEFF = 7 := by decide
  rw [htop] at ht
  exact v.tag_ne_seven ht.symm

/-- What the decoder makes of canonical bytes is the text they encode. -/
theorem textDecode_canonicalJson {v : JsonValue} {b : Bytes} (h : canonicalJson v = .ok b) :
    textDecode b = print (norm v) := by
  rw [canonicalJson_safe (safe_of_canonicalJson h)] at h
  rw [← Except.ok.inj h, textDecode_textEncode (wellFormed_print _) (head?_print _)]

/-- **Canonical text is parsed back as the value with its keys sorted.** -/
theorem jsonParse_canonicalJson {v : JsonValue} {b : Bytes} (h : canonicalJson v = .ok b)
    (hk : KeysOnce v) : jsonParse (textDecode b) = some (some (norm v)) := by
  rw [textDecode_canonicalJson h]
  exact jsonParse_print (readable_norm v (safe_of_canonicalJson h) hk)

mutual

theorem safe_norm : ∀ v : JsonValue, safe v = true → safe (norm v) = true
  | .null, _ => rfl
  | .bool _, _ => rfl
  | .num _, h => h
  | .str _, _ => rfl
  | .arr xs, h => by
    rw [norm, safe]
    exact safeElems_norm xs h
  | .obj ms, h => by
    rw [norm, safe]
    have hall := safeMembers_norm ms h
    exact safeMembers_of_forall fun m hm => hall m ((sortMembers_perm _).mem_iff.mp hm)

theorem safeElems_norm : ∀ xs : List JsonValue, safeElems xs = true →
    safeElems (normElems xs) = true
  | [], _ => rfl
  | x :: xs, h => by
    rw [safeElems, Bool.and_eq_true] at h
    rw [normElems, safeElems, safe_norm x h.1, safeElems_norm xs h.2]
    rfl

theorem safeMembers_norm : ∀ ms : List (JsString × JsonValue), safeMembers ms = true →
    ∀ m ∈ normMembers ms, safe m.2 = true
  | [], _, _, hm => nomatch hm
  | (_, v) :: ms, h, m, hm => by
    rw [safeMembers, Bool.and_eq_true] at h
    rcases List.mem_cons.mp hm with rfl | hm
    · exact safe_norm v h.1
    · exact safeMembers_norm ms h.2 m hm

end

/-- **The keys' order is lost in the canonical bytes.** -/
theorem canonicalJson_norm {v : JsonValue} {b : Bytes} (h : canonicalJson v = .ok b) :
    canonicalJson (norm v) = .ok b := by
  have hsafe := safe_of_canonicalJson h
  rw [canonicalJson_safe (safe_norm v hsafe), norm_norm, ← canonicalJson_safe hsafe, h]

end Hundi
