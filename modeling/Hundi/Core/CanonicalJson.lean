/-
  packages/core/src/canonical-json.ts — the serializer every hash and signature is taken over.

  `encode` sorts the keys of every object by UTF-16 code unit, writes no whitespace, and throws a
  `TypeError` naming the path on a leaf without a canonical text.  `JsonValue` has integer numbers
  only, so the one leaf that can be refused here is an unsafe integer; `-0`, fractions and
  non-finite numbers are outside the type (a request that carries one is refused the same way,
  before it has any effect).

  What the rest of the development uses:

  * `encode_safe` / `safe_of_encode` — `encode` succeeds exactly on values without unsafe integers,
    and then writes `print (norm v)`, where `norm` sorts the members of every object;
  * `canonicalJson_inj` — equal bytes come from values that are equal up to the order of keys;
  * `get?_norm`, `get?_of_canonicalJson` — the order of keys does not matter for looking a member up,
    so the bytes fix what is found under every key.
-/
import Hundi.Lib.Json
import Hundi.Lib.JsNumber
import Mathlib.Data.List.Nodup

namespace Hundi

open Js

/-! ## Exceptions

  One type for everything a `throw` can carry in the modelled code. -/

/-- The errors thrown in the modelled code, with the data their handlers read. -/
inductive Exn where
  /-- `TypeError`. -/
  | typeError (message : JsString)
  /-- A plain `Error`. -/
  | error (message : JsString)
  /-- `InvalidTransition` of state-machine.ts. -/
  | invalidTransition (src dst : JsString)
  /-- `StaleTransition` of state-machine.ts. -/
  | staleTransition (id src dst : JsString)
  /-- A better-sqlite3 `SqliteError` whose code starts with `SQLITE_CONSTRAINT`. -/
  | sqliteConstraint (message : JsString)
  /-- `RouteError` of errors.ts. -/
  | routeError (status : Nat) (code : JsString) (detail : Option JsString)
  /-- `RazorpayApiError`, with the `error.description` of its body when there is one. -/
  | razorpayApiError (message : JsString) (description : Option JsString)
  deriving DecidableEq

/-- `err.message`, what `errMessage` logs. -/
def errMessage : Exn → JsString
  | .typeError message => message
  | .error message => message
  | .invalidTransition src dst => js "invalid transition: " ++ src ++ js " -> " ++ dst
  | .staleTransition id src dst =>
    js "stale transition on " ++ id ++ js ": expected state " ++ src ++ js " to move to " ++ dst
  | .sqliteConstraint message => message
  | .routeError _ code detail => detail.getD code
  | .razorpayApiError message _ => message

theorem bind_eq_ok {ε α β : Type} {x : Except ε α} {f : α → Except ε β} {b : β} :
    (x >>= f) = .ok b ↔ ∃ a, x = .ok a ∧ f a = .ok b := by
  cases x with
  | error e =>
    constructor
    · intro h; exact absurd h (by simp [bind, Except.bind])
    · rintro ⟨a, ha, -⟩; exact absurd ha (by simp)
  | ok a =>
    constructor
    · intro h; exact ⟨a, rfl, h⟩
    · rintro ⟨a', ha, h⟩
      obtain rfl := Except.ok.inj ha
      exact h

/-! ## Key order -/

/-- `a ≤ b` in the default order of `String#sort`: by UTF-16 code unit. -/
def keyLe : JsString → JsString → Bool
  | [], _ => true
  | _ :: _, [] => false
  | a :: s, b :: t => a < b || (a == b && keyLe s t)

/-- Members sorted by key (`Object.keys(obj).sort()`). -/
def sortMembers {α : Type} (ms : List (JsString × α)) : List (JsString × α) :=
  ms.insertionSort fun a b => keyLe a.1 b.1

/-! ## encode -/

/-- The members' texts in order, or the first error. -/
def sequenceMembers : List (JsString × Except Exn JsString) → Except Exn (List JsString)
  | [] => .ok []
  | (k, e) :: rest => do
    let t ← e
    let ts ← sequenceMembers rest
    return (quote k ++ js ":" ++ t) :: ts

mutual

/-- `encode(value, path)`. -/
def encode : JsonValue → JsString → Except Exn JsString
  | .null, _ => .ok (js "null")
  | .bool b, _ => .ok (if b then js "true" else js "false")
  | .num n, path =>
    if isSafeInt n then .ok (showInt n)
    else .error (.typeError (js "canonicalJson: unsafe integer at " ++ path))
  | .str s, _ => .ok (quote s)
  | .arr xs, path => do
    let ts ← encodeElems xs path 0
    return js "[" ++ join (js ",") ts ++ js "]"
  | .obj members, path => do
    let ts ← sequenceMembers (sortMembers (encodeMembers members path))
    return js "\x7b" ++ join (js ",") ts ++ js "\x7d"

/-- The elements of an array from index `i` on. -/
def encodeElems : List JsonValue → JsString → Nat → Except Exn (List JsString)
  | [], _, _ => .ok []
  | x :: xs, path, i => do
    let t ← encode x (path ++ js "[" ++ decimal i ++ js "]")
    let ts ← encodeElems xs path (i + 1)
    return t :: ts

/-- The members of an object, each value with its text or its error. -/
def encodeMembers : List (JsString × JsonValue) → JsString → List (JsString × Except Exn JsString)
  | [], _ => []
  | (k, v) :: rest, path => (k, encode v (path ++ js "." ++ k)) :: encodeMembers rest path

end

/-- `canonicalJson(value)`. -/
def canonicalJson (v : JsonValue) : Except Exn Bytes := do
  let json ← encode v (js "$")
  return textEncode json

/-! ## Which values can be encoded -/

mutual

/-- No unsafe integer anywhere in the value. -/
def safe : JsonValue → Bool
  | .num n => isSafeInt n
  | .arr xs => safeElems xs
  | .obj members => safeMembers members
  | _ => true

def safeElems : List JsonValue → Bool
  | [] => true
  | x :: xs => safe x && safeElems xs

def safeMembers : List (JsString × JsonValue) → Bool
  | [] => true
  | (_, v) :: rest => safe v && safeMembers rest

end

mutual

/-- The value with the members of every object sorted by key. -/
def norm : JsonValue → JsonValue
  | .arr xs => .arr (normElems xs)
  | .obj members => .obj (sortMembers (normMembers members))
  | v => v

def normElems : List JsonValue → List JsonValue
  | [] => []
  | x :: xs => norm x :: normElems xs

def normMembers : List (JsString × JsonValue) → List (JsString × JsonValue)
  | [] => []
  | (k, v) :: rest => (k, norm v) :: normMembers rest

end

theorem sortMembers_perm {α : Type} (ms : List (JsString × α)) : (sortMembers ms).Perm ms :=
  List.perm_insertionSort _ ms

/-- Sorting looks at the keys only. -/
theorem map_sortMembers {α γ : Type} (f : α → γ) (ms : List (JsString × α)) :
    (sortMembers ms).map (fun m => (m.1, f m.2)) = sortMembers (ms.map fun m => (m.1, f m.2)) :=
  List.map_insertionSort _ _ _ _ fun _ _ _ _ => Iff.rfl

/-- Members that all have a text are written in the order they stand in. -/
theorem sequenceMembers_ok (ms : List (JsString × JsonValue)) :
    sequenceMembers (ms.map fun m => (m.1, .ok (print m.2))) = .ok (printMembers ms) := by
  induction ms with
  | nil => rfl
  | cons m ms ih =>
    rw [List.map_cons, sequenceMembers, ih, printMembers]
    rfl

mutual

/-- **A value without unsafe integers is written out with its keys sorted.** -/
theorem encode_safe : ∀ (v : JsonValue) (path : JsString), safe v = true →
    encode v path = .ok (print (norm v))
  | .null, _, _ => rfl
  | .bool true, _, _ => rfl
  | .bool false, _, _ => rfl
  | .num n, path, h => by
    rw [safe] at h
    rw [encode, if_pos h]
    rfl
  | .str s, _, _ => rfl
  | .arr xs, path, h => by
    rw [safe] at h
    rw [encode, encodeElems_safe xs path 0 h, norm, print]
    rfl
  | .obj members, path, h => by
    rw [safe] at h
    have hsort := map_sortMembers (fun v => (Except.ok (print v) : Except Exn JsString))
      (normMembers members)
    rw [encode, encodeMembers_safe members path h, ← hsort, sequenceMembers_ok]
    rfl

theorem encodeElems_safe : ∀ (xs : List JsonValue) (path : JsString) (i : Nat),
    safeElems xs = true → encodeElems xs path i = .ok (printElems (normElems xs))
  | [], _, _, _ => rfl
  | x :: xs, path, i, h => by
    rw [safeElems, Bool.and_eq_true] at h
    rw [encodeElems, encode_safe x _ h.1, encodeElems_safe xs path (i + 1) h.2, normElems,
      printElems]
    rfl

theorem encodeMembers_safe : ∀ (members : List (JsString × JsonValue)) (path : JsString),
    safeMembers members = true →
    encodeMembers members path = (normMembers members).map fun m => (m.1, .ok (print m.2))
  | [], _, _ => rfl
  | (k, v) :: rest, path, h => by
    rw [safeMembers, Bool.and_eq_true] at h
    rw [encodeMembers, encode_safe v _ h.1, encodeMembers_safe rest path h.2, normMembers,
      List.map_cons]

end

/-- Members that could be written all had a text. -/
theorem ok_of_sequenceMembers : ∀ {ms : List (JsString × Except Exn JsString)} {ts : List JsString},
    sequenceMembers ms = .ok ts → ∀ m ∈ ms, ∃ t, m.2 = .ok t
  | [], _, _, m, hm => absurd hm List.not_mem_nil
  | (k, e) :: rest, ts, h, m, hm => by
    rw [sequenceMembers, bind_eq_ok] at h
    obtain ⟨t, he, h⟩ := h
    rw [bind_eq_ok] at h
    obtain ⟨ts', hrest, -⟩ := h
    rcases List.mem_cons.mp hm with rfl | hm
    · exact ⟨t, he⟩
    · exact ok_of_sequenceMembers hrest m hm

mutual

/-- A value that could be encoded has no unsafe integer. -/
theorem safe_of_encode : ∀ (v : JsonValue) (path t : JsString), encode v path = .ok t →
    safe v = true
  | .null, _, _, _ => rfl
  | .bool _, _, _, _ => rfl
  | .num n, path, t, h => by
    rw [encode] at h
    split at h
    · rename_i hn
      rwa [safe]
    · exact absurd h (by simp)
  | .str _, _, _, _ => rfl
  | .arr xs, path, t, h => by
    rw [encode, bind_eq_ok] at h
    obtain ⟨ts, hts, -⟩ := h
    rw [safe]
    exact safeElems_of_encode xs path 0 ts hts
  | .obj members, path, t, h => by
    rw [encode, bind_eq_ok] at h
    obtain ⟨ts, hts, -⟩ := h
    rw [safe]
    refine safeMembers_of_encode members path fun m hm => ?_
    exact ok_of_sequenceMembers hts m ((sortMembers_perm _).mem_iff.mpr hm)

theorem safeElems_of_encode : ∀ (xs : List JsonValue) (path : JsString) (i : Nat)
    (ts : List JsString), encodeElems xs path i = .ok ts → safeElems xs = true
  | [], _, _, _, _ => rfl
  | x :: xs, path, i, ts, h => by
    rw [encodeElems, bind_eq_ok] at h
    obtain ⟨t, ht, h⟩ := h
    rw [bind_eq_ok] at h
    obtain ⟨ts', hts, -⟩ := h
    rw [safeElems, safe_of_encode x _ t ht, safeElems_of_encode xs path (i + 1) ts' hts]
    rfl

theorem safeMembers_of_encode : ∀ (members : List (JsString × JsonValue)) (path : JsString),
    (∀ m ∈ encodeMembers members path, ∃ t, m.2 = .ok t) → safeMembers members = true
  | [], _, _ => rfl
  | (k, v) :: rest, path, h => by
    rw [encodeMembers] at h
    obtain ⟨t, ht⟩ := h _ List.mem_cons_self
    rw [safeMembers, safe_of_encode v _ t ht,
      safeMembers_of_encode rest path fun m hm => h m (List.mem_cons_of_mem _ hm)]
    rfl

end

/-! ## canonicalJson -/

/-- The members of two objects side by side. -/
theorem safeMembers_append (xs ys : List (JsString × JsonValue)) :
    safeMembers (xs ++ ys) = (safeMembers xs && safeMembers ys) := by
  induction xs with
  | nil => rfl
  | cons e xs ih => rw [List.cons_append, safeMembers, safeMembers, ih, Bool.and_assoc]

theorem safeElems_of_forall {xs : List JsonValue} (h : ∀ x ∈ xs, safe x = true) :
    safeElems xs = true := by
  induction xs with
  | nil => rfl
  | cons x xs ih =>
    rw [safeElems, h x List.mem_cons_self, ih fun y hy => h y (List.mem_cons_of_mem _ hy)]
    rfl

theorem safeMembers_of_forall {ms : List (JsString × JsonValue)} (h : ∀ e ∈ ms, safe e.2 = true) :
    safeMembers ms = true := by
  induction ms with
  | nil => rfl
  | cons e ms ih =>
    rw [safeMembers, h e List.mem_cons_self, ih fun y hy => h y (List.mem_cons_of_mem _ hy)]
    rfl

theorem canonicalJson_safe {v : JsonValue} (h : safe v = true) :
    canonicalJson v = .ok (textEncode (print (norm v))) := by
  rw [canonicalJson, encode_safe v _ h]
  rfl

theorem safe_of_canonicalJson {v : JsonValue} {b : Bytes} (h : canonicalJson v = .ok b) :
    safe v = true := by
  rw [canonicalJson, bind_eq_ok] at h
  obtain ⟨t, ht, -⟩ := h
  exact safe_of_encode v _ t ht

/-- **Equal canonical bytes come from values that are equal up to the order of keys.** -/
theorem canonicalJson_inj {v w : JsonValue} {b : Bytes} (hv : canonicalJson v = .ok b)
    (hw : canonicalJson w = .ok b) : norm v = norm w := by
  have hsv := safe_of_canonicalJson hv
  have hsw := safe_of_canonicalJson hw
  rw [canonicalJson_safe hsv] at hv
  rw [canonicalJson_safe hsw] at hw
  exact print_bytes_inj (Except.ok.inj (hv.trans hw.symm))

/-! ## Looking members up -/

/-- With distinct keys, the member found under a key is the one that is there. -/
theorem find?_key_iff {α : Type} {ms : List (JsString × α)} (hnd : (ms.map Prod.fst).Nodup)
    {k : JsString} {m : JsString × α} :
    ms.find? (fun m => m.1 == k) = some m ↔ m ∈ ms ∧ m.1 = k := by
  constructor
  · intro h
    exact ⟨List.mem_of_find?_eq_some h, by simpa using List.find?_some h⟩
  · rintro ⟨hm, rfl⟩
    cases h : ms.find? fun m' => m'.1 == m.1 with
    | none =>
      have := List.find?_eq_none.mp h m hm
      simp at this
    | some m' =>
      have hm' := List.mem_of_find?_eq_some h
      have hk : m'.1 = m.1 := by simpa using List.find?_some h
      rw [List.inj_on_of_nodup_map hnd hm' hm hk]

/-- Looking a key up does not depend on the order of the members. -/
theorem find?_perm {α : Type} {ms ns : List (JsString × α)} (hnd : (ms.map Prod.fst).Nodup)
    (h : ms.Perm ns) (k : JsString) :
    ms.find? (fun m => m.1 == k) = ns.find? fun m => m.1 == k := by
  have hnd' : (ns.map Prod.fst).Nodup := (h.map Prod.fst).nodup_iff.mp hnd
  refine Option.ext fun m => ?_
  rw [find?_key_iff hnd, find?_key_iff hnd', h.mem_iff]

theorem normMembers_eq_map (ms : List (JsString × JsonValue)) :
    normMembers ms = ms.map fun m => (m.1, norm m.2) := by
  induction ms with
  | nil => rfl
  | cons m ms ih => rw [normMembers, List.map_cons, ih]

/-- **Sorting the keys of an object changes none of its members.** -/
theorem get?_norm {ms : List (JsString × JsonValue)} (hnd : (ms.map Prod.fst).Nodup) (k : JsString) :
    (norm (.obj ms)).get? k = ((JsonValue.obj ms).get? k).map norm := by
  have hkeys : ((normMembers ms).map Prod.fst) = ms.map Prod.fst := by
    rw [normMembers_eq_map, List.map_map]
    rfl
  have hperm := find?_perm (by rw [hkeys]; exact hnd) (sortMembers_perm (normMembers ms)).symm k
  simp only [norm, JsonValue.get?]
  rw [← hperm, normMembers_eq_map, List.find?_map, Option.map_map, Option.map_map]
  rfl

/-- **What is found under a key is fixed by the canonical bytes.** -/
theorem get?_of_canonicalJson {ms ns : List (JsString × JsonValue)} {b : Bytes}
    (hm : (ms.map Prod.fst).Nodup) (hn : (ns.map Prod.fst).Nodup)
    (h : canonicalJson (.obj ms) = .ok b) (h' : canonicalJson (.obj ns) = .ok b) (k : JsString) :
    ((JsonValue.obj ms).get? k).map norm = ((JsonValue.obj ns).get? k).map norm := by
  rw [← get?_norm hm, ← get?_norm hn, canonicalJson_inj h h']

example : canonicalJson (.obj [(js "b", .num 1), (js "a", .str (js "x"))])
    = .ok (textEncode (js "\x7b\"a\":\"x\",\"b\":1\x7d")) := by rfl

end Hundi
