/-
  JavaScript values as `JSON.parse` returns them, before anything has checked their shape.

  `JsonValue` (Lib.Json) has integer numbers only and no way to say that a property is missing.  A
  `JsValue` has both: `undefined` is what reading a missing property gives, and a number is an
  integer, `-0`, a fraction or infinite (the text `1e999`).  No reader below looks at a fraction any
  further, so which one it is is left out.

  * `prop`      — `v.k` of a value that is neither `null` nor `undefined`; those two have no
                  properties and reading one throws, so a caller asks `nullish` first;
  * `ofJson`    — a `JsonValue` is a `JsValue`;
  * `canonical` — no `undefined`, and no number but safe integers other than `-0`, anywhere inside.
-/
import Hundi.Lib.Json
import Hundi.Lib.JsNumber

namespace Js

/-- A number, as far as the checks below tell numbers apart. -/
inductive JsNumber where
  | int (n : Int)
  | negZero
  | fraction
  | infinite

inductive JsValue where
  | undefined
  | null
  | bool (b : Bool)
  | num (x : JsNumber)
  | str (s : JsString)
  | arr (xs : List JsValue)
  | obj (members : List (JsString × JsValue))

namespace JsValue

/-! ## Reading a value -/

/-- `v == null`: reading a property of it throws. -/
def nullish : JsValue → Bool
  | undefined | null => true
  | _ => false

/-- `v === undefined`. -/
def isUndefined : JsValue → Bool
  | undefined => true
  | _ => false

/-- `v[k]` of a value that is not nullish, for a name `k` no built-in object has a property of. -/
def prop (v : JsValue) (k : JsString) : JsValue :=
  match v with
  | obj members => ((members.find? fun m => m.1 == k).map Prod.snd).getD undefined
  | _ => undefined

/-- `Boolean(v)`. -/
def truthy : JsValue → Bool
  | undefined | null => false
  | bool b => b
  | num (.int n) => n != 0
  | num .negZero => false
  | num _ => true
  | str s => !s.isEmpty
  | _ => true

/-- `v === s` for a string `s`. -/
def isStr (v : JsValue) (s : JsString) : Bool :=
  match v with
  | str t => t == s
  | _ => false

/-- `typeof v === 'string'`. -/
def isString : JsValue → Bool
  | str _ => true
  | _ => false

/-- `Array.isArray(v)`. -/
def isArray : JsValue → Bool
  | arr _ => true
  | _ => false

/-- `Number.isSafeInteger(v)`: `-0` is one. -/
def isSafeInteger : JsValue → Bool
  | num (.int n) => isSafeInt n
  | num .negZero => true
  | _ => false

/-! What a value holds once its type is known.  Of another type it reads as empty. -/

/-- A string's text. -/
def text : JsValue → JsString
  | str s => s
  | _ => []

/-- An integer's value; comparisons take `-0` for `0`. -/
def int : JsValue → Int
  | num (.int n) => n
  | _ => 0

/-- An array's elements. -/
def elems : JsValue → List JsValue
  | arr xs => xs
  | _ => []

/-- `Object.entries(v)` of a plain object. -/
def entries : JsValue → List (JsString × JsValue)
  | obj members => members
  | _ => []

/-! ## JSON data -/

mutual

/-- A value with integer numbers. -/
def ofJson : JsonValue → JsValue
  | .null => null
  | .bool b => bool b
  | .num n => num (.int n)
  | .str s => str s
  | .arr xs => arr (ofElems xs)
  | .obj members => obj (ofMembers members)

def ofElems : List JsonValue → List JsValue
  | [] => []
  | x :: xs => ofJson x :: ofElems xs

def ofMembers : List (JsString × JsonValue) → List (JsString × JsValue)
  | [] => []
  | (k, v) :: rest => (k, ofJson v) :: ofMembers rest

end

theorem ofElems_eq_map (xs : List JsonValue) : ofElems xs = xs.map ofJson := by
  induction xs with
  | nil => rfl
  | cons x xs ih => rw [ofElems, List.map_cons, ih]

theorem ofMembers_eq_map (ms : List (JsString × JsonValue)) :
    ofMembers ms = ms.map fun m => (m.1, ofJson m.2) := by
  induction ms with
  | nil => rfl
  | cons m ms ih => rw [ofMembers, List.map_cons, ih]

/-- A member is found where it was. -/
theorem prop_ofJson (v : JsonValue) (k : JsString) :
    (ofJson v).prop k = ((v.get? k).map ofJson).getD undefined := by
  cases v with
  | obj ms =>
    rw [ofJson, prop, JsonValue.get?, ofMembers_eq_map, List.find?_map, Option.map_map, Option.map_map]
    rfl
  | _ => rfl

/-! ## Canonical values -/

mutual

/-- Nothing in the value lacks a canonical text. -/
def canonical : JsValue → Bool
  | undefined => false
  | num (.int n) => isSafeInt n
  | num _ => false
  | arr xs => canonicalElems xs
  | obj members => canonicalMembers members
  | _ => true

def canonicalElems : List JsValue → Bool
  | [] => true
  | x :: xs => canonical x && canonicalElems xs

def canonicalMembers : List (JsString × JsValue) → Bool
  | [] => true
  | (_, v) :: rest => canonical v && canonicalMembers rest

end

theorem canonicalElems_iff {xs : List JsValue} :
    canonicalElems xs = true ↔ ∀ x ∈ xs, canonical x = true := by
  induction xs with
  | nil => exact ⟨fun _ _ h => (nomatch h), fun _ => rfl⟩
  | cons x xs ih => rw [canonicalElems, Bool.and_eq_true, ih, List.forall_mem_cons]

theorem canonicalMembers_iff {ms : List (JsString × JsValue)} :
    canonicalMembers ms = true ↔ ∀ m ∈ ms, canonical m.2 = true := by
  induction ms with
  | nil => exact ⟨fun _ _ h => (nomatch h), fun _ => rfl⟩
  | cons m ms ih => rw [canonicalMembers, Bool.and_eq_true, ih, List.forall_mem_cons]

/-- **A safe integer has a canonical text unless it is `-0`.** -/
theorem canonical_of_isSafeInteger {v : JsValue} (h : v.isSafeInteger = true) :
    canonical v = true ↔ v ≠ num .negZero := by
  match v, h with
  | num (.int n), h => exact ⟨fun _ => (nofun), fun _ => h⟩
  | num .negZero, _ => exact ⟨fun hc => (nomatch hc), fun hne => absurd rfl hne⟩

/-- A safe integer above zero is not `-0`. -/
theorem canonical_of_int_pos {v : JsValue} (h : v.isSafeInteger = true) (hpos : 0 < v.int) :
    canonical v = true := by
  refine (canonical_of_isSafeInteger h).mpr ?_
  rintro rfl
  exact absurd hpos (by decide)

end JsValue

end Js
