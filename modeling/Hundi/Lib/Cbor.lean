/-
  CBOR (RFC 8949): the data items of definite length, and the values they encode.

  An item starts with a head: a byte with the major type and five bits of information, and an argument
  in none, one, two, four or eight bytes behind it, most significant first.  Any width will do for an
  argument, so a value has several encodings; `Encodes v bs` says that `bs` is one of them.

  A map is the sequence of its entries, as a JavaScript `Map` keeps them: setting a key that is there
  replaces its value.  Keys are told apart as `Map` does it: numbers, texts and simple values by what
  they are, while a byte string, an array or a map is an object and never the same as another one.
-/
import Mathlib.Algebra.Group.Nat.Defs
import Hundi.Lib.TextDecoder

namespace Cbor

open Js

/-- The values of the data model.  No encoding below has `undefined` or `NaN`. -/
inductive Value where
  | undefined
  | nan
  | int (n : Int)
  | bytes (content : Bytes)
  | text (s : JsString)
  | arr (vs : List Value)
  | map (entries : List (Value × Value))
  | bool (b : Bool)
  | null

/-! ## Heads -/

/-- The number that bytes denote, the most significant first. -/
def bigEndian (bs : Bytes) : Nat := bs.foldl (fun n b => n * 256 + b.toNat) 0

/-- How many bytes the argument takes behind the initial byte. -/
def argumentWidth (info : Nat) : Nat := if info < 24 then 0 else 2 ^ (info - 24)

/-- An initial byte and what is there of its argument. -/
structure Head where
  initial : UInt8
  tail : Bytes

namespace Head

def major (h : Head) : Nat := h.initial.toNat / 32

def info (h : Head) : Nat := h.initial.toNat % 32

def argument (h : Head) : Nat := if h.info < 24 then h.info else bigEndian h.tail

/-- The argument has a definite width, and all its bytes are there. -/
def Whole (h : Head) : Prop := h.info ≤ 27 ∧ h.tail.length = argumentWidth h.info

def bytes (h : Head) : Bytes := h.initial :: h.tail

end Head

/-- The bytes are a head of the major type with the argument, in any width. -/
def IsHead (major n : Nat) (bs : Bytes) : Prop :=
  ∃ h : Head, h.Whole ∧ h.major = major ∧ h.argument = n ∧ bs = h.bytes

/-! ## Maps -/

/-- Two keys of a `Map` are one key: the comparison of `Map` on the values that `===` compares. -/
def sameKey : Value → Value → Bool
  | .undefined, .undefined | .nan, .nan | .null, .null => true
  | .int m, .int n => m == n
  | .text s, .text t => s == t
  | .bool a, .bool b => a == b
  | _, _ => false

/-- `map.set(key, value)`. -/
def setEntry (entries : List (Value × Value)) (entry : Value × Value) : List (Value × Value) :=
  if entries.any fun e => sameKey e.1 entry.1 then
    entries.map fun e => if sameKey e.1 entry.1 then (e.1, entry.2) else e
  else entries ++ [entry]

def DistinctKeys (entries : List (Value × Value)) : Prop :=
  entries.Pairwise fun a b => sameKey a.1 b.1 = false

/-- A key that is not there is added at the end. -/
theorem setEntry_new {entries : List (Value × Value)} {entry : Value × Value}
    (h : ∀ e ∈ entries, sameKey e.1 entry.1 = false) : setEntry entries entry = entries ++ [entry] := by
  have hany : entries.any (fun e => sameKey e.1 entry.1) = false := by
    rw [List.any_eq_false]
    intro e he
    rw [h e he]
    exact Bool.false_ne_true
  rw [setEntry, hany, if_neg Bool.false_ne_true]

/-- A key that is there makes the map no longer. -/
theorem length_setEntry_old {entries : List (Value × Value)} {entry : Value × Value}
    (h : entries.any (fun e => sameKey e.1 entry.1) = true) :
    (setEntry entries entry).length = entries.length := by
  rw [setEntry, if_pos h, List.length_map]

theorem length_setEntry_le (entries : List (Value × Value)) (entry : Value × Value) :
    (setEntry entries entry).length ≤ entries.length + 1 := by
  rw [setEntry]
  split
  · rw [List.length_map]
    omega
  · exact Nat.le_of_eq (by rw [List.length_append, List.length_singleton])

theorem length_foldl_setEntry_le (entries acc : List (Value × Value)) :
    (entries.foldl setEntry acc).length ≤ acc.length + entries.length := by
  induction entries generalizing acc with
  | nil => exact Nat.le_refl _
  | cons entry entries ih =>
    have hstep := length_setEntry_le acc entry
    have hrest := ih (setEntry acc entry)
    rw [List.foldl_cons, List.length_cons]
    omega

/-- Distinct keys are all kept, in their order. -/
theorem foldl_setEntry_distinct {entries acc : List (Value × Value)}
    (h : DistinctKeys (acc ++ entries)) : entries.foldl setEntry acc = acc ++ entries := by
  induction entries generalizing acc with
  | nil => rw [List.foldl_nil, List.append_nil]
  | cons entry entries ih =>
    have hnew : ∀ e ∈ acc, sameKey e.1 entry.1 = false := fun e he =>
      (List.pairwise_append.mp h).2.2 e he entry List.mem_cons_self
    rw [List.foldl_cons, setEntry_new hnew, ih]
    · rw [List.append_assoc]
      rfl
    · rw [List.append_assoc]
      exact h

/-- A map as long as the list of its entries has lost none of them. -/
theorem distinct_of_length {entries acc : List (Value × Value)} (hacc : DistinctKeys acc)
    (h : (entries.foldl setEntry acc).length = acc.length + entries.length) :
    DistinctKeys (acc ++ entries) := by
  induction entries generalizing acc with
  | nil =>
    rw [List.append_nil]
    exact hacc
  | cons entry entries ih =>
    rw [List.foldl_cons, List.length_cons] at h
    have hrest := length_foldl_setEntry_le entries (setEntry acc entry)
    cases hany : acc.any (fun e => sameKey e.1 entry.1) with
    | true =>
      have hold := length_setEntry_old hany
      omega
    | false =>
      have hnew : ∀ e ∈ acc, sameKey e.1 entry.1 = false := fun e he =>
        Bool.not_eq_true _ ▸ List.any_eq_false.mp hany e he
      rw [setEntry_new hnew] at h
      have hdistinct : DistinctKeys (acc ++ [entry]) := by
        refine List.pairwise_append.mpr ⟨hacc, List.pairwise_singleton _ _, fun e he e' he' => ?_⟩
        rw [List.mem_singleton.mp he']
        exact hnew e he
      have := ih hdistinct (by rw [h, List.length_append, List.length_singleton]; omega)
      rwa [List.append_assoc] at this

/-! ## Encodings -/

mutual

/-- The bytes are a well-formed encoding of definite length of the value. -/
def Encodes : Value → Bytes → Prop
  | .int n, bs => (0 ≤ n ∧ IsHead 0 n.toNat bs) ∨ (n < 0 ∧ IsHead 1 (-1 - n).toNat bs)
  | .bytes content, bs => ∃ head, IsHead 2 content.length head ∧ bs = head ++ content
  | .text s, bs =>
    WellFormed s ∧ ∃ head, IsHead 3 (textEncode s).length head ∧ bs = head ++ textEncode s
  | .arr vs, bs => ∃ head body, IsHead 4 vs.length head ∧ EncodesAll vs body ∧ bs = head ++ body
  | .map entries, bs => DistinctKeys entries ∧
    ∃ head body, IsHead 5 entries.length head ∧ EncodesEntries entries body ∧ bs = head ++ body
  | .bool b, bs => bs = [if b then 0xF5 else 0xF4]
  | .null, bs => bs = [0xF6]
  | .undefined, _ => False
  | .nan, _ => False

def EncodesAll : List Value → Bytes → Prop
  | [], bs => bs = []
  | v :: vs, bs => ∃ a b, Encodes v a ∧ EncodesAll vs b ∧ bs = a ++ b

def EncodesEntries : List (Value × Value) → Bytes → Prop
  | [], bs => bs = []
  | (k, v) :: entries, bs =>
    ∃ a b c, Encodes k a ∧ Encodes v b ∧ EncodesEntries entries c ∧ bs = a ++ (b ++ c)

end

end Cbor
