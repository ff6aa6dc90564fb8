/-
  apps/dashboard/src/lib/webauthn.ts — `decodeCborValue`.

  The decoder follows the heads of the items by their offsets and checks one thing only, that an item's
  initial byte is there.  Bytes of an argument that are missing read as zeros, a string that is cut off
  is returned as far as it goes, text goes through a lenient `TextDecoder`, numbers are doubles and a
  repeated key replaces its value.

  `Reads` is the grammar of what it takes: an item is read at an offset, complete or not, and each item
  stands for a value (`decodeValue_iff`).  `Flawless` picks the items in which none of the above
  happens, and these are the definite-length encodings (`Reads.encodes`, `reads_of_encodes`).  So the
  decoder parses exactly CBOR where all that can be read is flawless, and nowhere else.

  A declared length is kept exact.  `Number` rounds one above 2^53, but no array has that many bytes, so
  that only the value of an integer shows it.  No limit of the stack is modelled.
-/
import Hundi.Lib.Cbor
import Hundi.Core.CanonicalJson

namespace Hundi

open Js Cbor

namespace Dashboard

/-! ## The decoder -/

/-- The loop of the eight-byte length: `big = (big << 8n) | BigInt(bytes[offset + i])`. -/
def readBig (bytes : Bytes) : Nat → Nat → Nat → Except Exn Nat
  | 0, _, big => .ok big
  | count + 1, offset, big =>
    match bytes[offset]? with
    | none => .error (.typeError (js "Cannot convert undefined to a BigInt"))
    | some byte => readBig bytes count (offset + 1) (big <<< 8 ||| byte.toNat)

/-- `length`, `none` for `undefined`, and the offset behind the head.  A missing byte is `undefined`,
    which the bit operators take for 0. -/
def readLength (bytes : Bytes) (info offset : Nat) : Except Exn (Option Nat × Nat) :=
  let byte (i : Nat) : Nat := ((bytes[offset + i]?).map UInt8.toNat).getD 0
  if info < 24 then .ok (some info, offset)
  else if info == 24 then .ok ((bytes[offset]?).map UInt8.toNat, offset + 1)
  else if info == 25 then .ok (some (byte 0 <<< 8 ||| byte 1), offset + 2)
  else if info == 26 then
    .ok (some (byte 0 <<< 24 ||| byte 1 <<< 16 ||| byte 2 <<< 8 ||| byte 3), offset + 4)
  else if info == 27 then do
    let big ← readBig bytes 8 offset 0
    return (some big, offset + 8)
  else .error (.error (js "decodeCborValue: indefinite-length CBOR items are not supported"))

/-- The loop over the items of an array. -/
def decodeItems (decode : Option Nat → Except Exn (Value × Option Nat)) :
    Nat → Option Nat → Except Exn (List Value × Option Nat)
  | 0, offset => .ok ([], offset)
  | count + 1, offset => do
    let (value, offset) ← decode offset
    let (rest, offset) ← decodeItems decode count offset
    return (value :: rest, offset)

/-- The loop over the entries of a map. -/
def decodeEntries (decode : Option Nat → Except Exn (Value × Option Nat)) :
    Nat → Option Nat → List (Value × Value) → Except Exn (List (Value × Value) × Option Nat)
  | 0, offset, map => .ok (map, offset)
  | count + 1, offset, map => do
    let (key, offset) ← decode offset
    let (val, offset) ← decode offset
    decodeEntries decode count offset (setEntry map (key, val))

/-- The `switch` behind the head.  An offset is `none` when it is `NaN`: that is what adding an
    `undefined` length makes it. -/
def decodeBody (bytes : Bytes) (decode : Option Nat → Except Exn (Value × Option Nat))
    (majorType info : Nat) (length : Option Nat) (offset : Nat) : Except Exn (Value × Option Nat) :=
  match majorType with
  | 0 =>
    match length with
    | none => .ok (.undefined, some offset)
    | some n => .ok (.int (jsRound n), some offset)
  | 1 =>
    match length with
    | none => .ok (.nan, some offset)
    | some n => .ok (.int (jsRound (-1 - jsRound n)), some offset)
  -- the end of a slice that is `NaN` reads as 0
  | 2 => .ok (.bytes ((bytes.drop offset).take (length.getD 0)), length.map fun n => offset + n)
  | 3 =>
    .ok (.text (textDecode ((bytes.drop offset).take (length.getD 0))), length.map fun n => offset + n)
  -- no counter is below `undefined`
  | 4 => do
    let (arr, offset) ← decodeItems decode (length.getD 0) (some offset)
    return (.arr arr, offset)
  | 5 => do
    let (map, offset) ← decodeEntries decode (length.getD 0) (some offset) []
    return (.map map, offset)
  | 7 =>
    if info == 20 then .ok (.bool false, some offset)
    else if info == 21 then .ok (.bool true, some offset)
    else if info == 22 then .ok (.null, some offset)
    else .error (.error (js "decodeCborValue: unsupported simple value (info=" ++ decimal info ++ js ")"))
  | _ => .error (.error (js "decodeCborValue: unsupported major type " ++ decimal majorType))

/-- `decodeCborValue`, by the number of items that may be nested in one another. -/
def decodeValue (bytes : Bytes) : Nat → Option Nat → Except Exn (Value × Option Nat)
  | 0, offset =>
    match offset.bind fun o => bytes[o]? with
    | none => .error (.error (js "decodeCborValue: unexpected end of input"))
    | some _ => .error (.error (js "Maximum call stack size exceeded"))
  | _ + 1, none => .error (.error (js "decodeCborValue: unexpected end of input"))
  | depth + 1, some offset =>
    match bytes[offset]? with
    | none => .error (.error (js "decodeCborValue: unexpected end of input"))
    | some initial => do
      let majorType := initial.toNat >>> 5
      let info := initial.toNat &&& 0x1f
      let (length, offset) ← readLength bytes info (offset + 1)
      decodeBody bytes (decodeValue bytes depth) majorType info length offset

/-- `decodeCborValue(bytes, offset)`.  Every item has a byte of its own, so no more of them are nested
    than there are bytes (`decodeValue_depth`). -/
def decodeCborValue (bytes : Bytes) (offset : Nat) : Except Exn (Value × Option Nat) :=
  decodeValue bytes (bytes.length + 1) (some offset)

/-! ## What it reads -/

/-- An item as it is read, with its head and what belongs to it. -/
inductive Item where
  | leaf (head : Head)
  | str (head : Head) (content : Bytes)
  | arr (head : Head) (items : List Item)
  | map (head : Head) (entries : List (Item × Item))

/-- The head at the offset, with as much of its argument as is there. -/
def headAt (bytes : Bytes) (offset : Nat) : Option Head :=
  (bytes[offset]?).map fun initial =>
    ⟨initial, (bytes.drop (offset + 1)).take (argumentWidth (initial.toNat % 32))⟩

/-- The argument, zeros for what is missing; `none` if all of a one-byte argument is. -/
def lengthOf (h : Head) : Option Nat :=
  if h.info < 24 then some h.info
  else if h.info = 24 ∧ h.tail = [] then none
  else some (bigEndian (h.tail ++ List.replicate (argumentWidth h.info - h.tail.length) 0))

/-- Behind a head at the offset. -/
def behind (h : Head) (offset : Nat) : Nat := offset + 1 + argumentWidth h.info

/-- A head that is taken: of a definite width, and an eight-byte argument is all there. -/
def Taken (bytes : Bytes) (offset : Nat) (h : Head) : Prop :=
  headAt bytes offset = some h ∧ (h.info < 27 ∨ h.info = 27 ∧ h.tail.length = 8)

mutual

/-- The item is read from one offset to another. -/
def Reads (bytes : Bytes) : Item → Option Nat → Option Nat → Prop
  | .leaf h, offset, e => ∃ o, offset = some o ∧ Taken bytes o h ∧
    (h.major = 0 ∨ h.major = 1 ∨ h.major = 7 ∧ (h.info = 20 ∨ h.info = 21 ∨ h.info = 22)) ∧
    e = some (behind h o)
  | .str h content, offset, e => ∃ o, offset = some o ∧ Taken bytes o h ∧
    (h.major = 2 ∨ h.major = 3) ∧
    content = (bytes.drop (behind h o)).take ((lengthOf h).getD 0) ∧
    e = (lengthOf h).map fun n => behind h o + n
  | .arr h items, offset, e => ∃ o, offset = some o ∧ Taken bytes o h ∧ h.major = 4 ∧
    items.length = (lengthOf h).getD 0 ∧ ReadsAll bytes items (some (behind h o)) e
  | .map h entries, offset, e => ∃ o, offset = some o ∧ Taken bytes o h ∧ h.major = 5 ∧
    entries.length = (lengthOf h).getD 0 ∧ ReadsEntries bytes entries (some (behind h o)) e

def ReadsAll (bytes : Bytes) : List Item → Option Nat → Option Nat → Prop
  | [], offset, e => e = offset
  | item :: items, offset, e => ∃ o, Reads bytes item offset o ∧ ReadsAll bytes items o e

def ReadsEntries (bytes : Bytes) : List (Item × Item) → Option Nat → Option Nat → Prop
  | [], offset, e => e = offset
  | (key, val) :: entries, offset, e =>
    ∃ o₁ o₂, Reads bytes key offset o₁ ∧ Reads bytes val o₁ o₂ ∧ ReadsEntries bytes entries o₂ e

end

mutual

/-- The value an item stands for. -/
def valueOf : Item → Value
  | .leaf h =>
    if h.major = 0 then
      match lengthOf h with
      | none => .undefined
      | some n => .int (jsRound n)
    else if h.major = 1 then
      match lengthOf h with
      | none => .nan
      | some n => .int (jsRound (-1 - jsRound n))
    else if h.info = 20 then .bool false
    else if h.info = 21 then .bool true
    else .null
  | .str h content => if h.major = 2 then .bytes content else .text (textDecode content)
  | .arr _ items => .arr (valuesOf items)
  | .map _ entries => .map ((entriesOf entries).foldl setEntry [])

def valuesOf : List Item → List Value
  | [] => []
  | item :: items => valueOf item :: valuesOf items

def entriesOf : List (Item × Item) → List (Value × Value)
  | [] => []
  | (key, val) :: entries => (valueOf key, valueOf val) :: entriesOf entries

end

/-- Bytes that `TextDecoder` reads as they are meant: UTF-8 without a byte order mark in front. -/
def PlainText (content : Bytes) : Prop :=
  ∃ s, WellFormed s ∧ s.head? ≠ some 0xFEFF ∧ textEncode s = content

mutual

/-- Nothing of the item is missing, rounded, repaired or replaced. -/
def Flawless : Item → Prop
  | .leaf h => h.Whole ∧ (h.major = 0 → jsRound h.argument = h.argument) ∧
    (h.major = 1 → jsRound (-1 - jsRound h.argument) = -1 - (h.argument : Int))
  | .str h content => h.Whole ∧ content.length = h.argument ∧ (h.major = 3 → PlainText content)
  | .arr h items => h.Whole ∧ FlawlessAll items
  | .map h entries => h.Whole ∧ FlawlessEntries entries ∧ DistinctKeys (entriesOf entries)

def FlawlessAll : List Item → Prop
  | [] => True
  | item :: items => Flawless item ∧ FlawlessAll items

def FlawlessEntries : List (Item × Item) → Prop
  | [] => True
  | (key, val) :: entries => Flawless key ∧ Flawless val ∧ FlawlessEntries entries

end

/-! ## Heads -/

theorem shift_or (n : Nat) (b : UInt8) : n <<< 8 ||| b.toNat = n * 256 + b.toNat := by
  have hb : b.toNat < 2 ^ 8 := b.toNat_lt
  rw [Nat.shiftLeft_eq, Nat.mul_comm n, ← Nat.two_pow_add_eq_or_of_lt hb n, Nat.mul_comm]

/-- The eight-byte loop reads a number off the bytes if they are all there. -/
theorem readBig_eq (bytes : Bytes) : ∀ (count offset big : Nat),
    readBig bytes count offset big =
      if count ≤ (bytes.drop offset).length then
        .ok (((bytes.drop offset).take count).foldl (fun n b => n * 256 + b.toNat) big)
      else .error (.typeError (js "Cannot convert undefined to a BigInt"))
  | 0, offset, big => by
    rw [readBig, if_pos (Nat.zero_le _), List.take_zero, List.foldl_nil]
  | count + 1, offset, big => by
    have hget : bytes[offset]? = (bytes.drop offset)[0]? := by rw [List.getElem?_drop, Nat.add_zero]
    rw [readBig, hget]
    cases hrest : bytes.drop offset with
    | nil => rfl
    | cons byte rest =>
      have hnext : bytes.drop (offset + 1) = rest := by
        rw [← List.drop_drop, hrest]
        rfl
      show readBig bytes count (offset + 1) _ = _
      rw [readBig_eq bytes count (offset + 1), hnext, shift_or, List.length_cons, List.take_succ_cons,
        List.foldl_cons]
      by_cases hle : count ≤ rest.length
      · rw [if_pos hle, if_pos (by omega)]
      · rw [if_neg hle, if_neg (by omega)]

/-- A byte of an argument, with 0 for one that is missing, of the bytes that are there. -/
theorem byte_of_take {bytes : Bytes} {offset width i : Nat} (hi : i < width) :
    ((bytes[offset + i]?).map UInt8.toNat).getD 0
      = (((bytes.drop offset).take width)[i]?.map UInt8.toNat).getD 0 := by
  rw [List.getElem?_take_of_lt hi, List.getElem?_drop]

/-- A two-byte argument. -/
theorem two_bytes {tail : Bytes} (h : tail.length ≤ 2) :
    ((tail[0]?).map UInt8.toNat).getD 0 <<< 8 ||| ((tail[1]?).map UInt8.toNat).getD 0
      = bigEndian (tail ++ List.replicate (2 - tail.length) 0) := by
  match tail, h with
  | [], _ => rfl
  | [a], _ =>
    show a.toNat <<< 8 ||| (0 : UInt8).toNat = _
    rw [shift_or]
    simp [bigEndian]
  | [a, b], _ =>
    show a.toNat <<< 8 ||| b.toNat = _
    rw [shift_or]
    simp [bigEndian]
  | _ :: _ :: _ :: _, h => simp at h

/-- A four-byte argument. -/
theorem four_bytes {tail : Bytes} (h : tail.length ≤ 4) :
    ((tail[0]?).map UInt8.toNat).getD 0 <<< 24 ||| ((tail[1]?).map UInt8.toNat).getD 0 <<< 16 |||
      ((tail[2]?).map UInt8.toNat).getD 0 <<< 8 ||| ((tail[3]?).map UInt8.toNat).getD 0
      = bigEndian (tail ++ List.replicate (4 - tail.length) 0) := by
  have hfour : ∀ a b c d : UInt8, a.toNat <<< 24 ||| b.toNat <<< 16 ||| c.toNat <<< 8 ||| d.toNat
      = ((a.toNat * 256 + b.toNat) * 256 + c.toNat) * 256 + d.toNat := by
    intro a b c d
    rw [← shift_or, ← shift_or, ← shift_or]
    simp only [Nat.shiftLeft_or_distrib, ← Nat.shiftLeft_add]
  match tail, h with
  | [], _ => rfl
  | [a], _ =>
    refine (hfour a 0 0 0).trans ?_
    simp [bigEndian]
  | [a, b], _ =>
    refine (hfour a b 0 0).trans ?_
    simp [bigEndian]
  | [a, b, c], _ =>
    refine (hfour a b c 0).trans ?_
    simp [bigEndian]
  | [a, b, c, d], _ =>
    refine (hfour a b c d).trans ?_
    simp [bigEndian]
  | _ :: _ :: _ :: _ :: _ :: _, h =>
    simp only [List.length_cons] at h
    omega

/-- **What the head declares**, and that a head which is not taken is refused. -/
theorem readLength_eq {bytes : Bytes} {offset : Nat} {h : Head} (hh : headAt bytes offset = some h) :
    (h.info < 27 ∨ h.info = 27 ∧ h.tail.length = 8 →
      readLength bytes h.info (offset + 1) = .ok (lengthOf h, behind h offset)) ∧
    (¬ (h.info < 27 ∨ h.info = 27 ∧ h.tail.length = 8) →
      ∃ e, readLength bytes h.info (offset + 1) = .error e) := by
  have htail : h.tail = (bytes.drop (offset + 1)).take (argumentWidth h.info) := by
    rw [headAt] at hh
    obtain ⟨initial, -, rfl⟩ := Option.map_eq_some_iff.mp hh
    rfl
  have hlen : h.tail.length ≤ argumentWidth h.info := by
    rw [htail]
    exact List.length_take_le _ _
  have hinfo : h.info < 32 := Nat.mod_lt _ (by omega)
  by_cases h24 : h.info < 24
  · -- the argument is in the initial byte
    have hwidth : argumentWidth h.info = 0 := if_pos h24
    refine ⟨fun _ => ?_, fun hnot => absurd (Or.inl (by omega)) hnot⟩
    rw [readLength, if_pos h24, lengthOf, if_pos h24, behind, hwidth]
  by_cases heq24 : h.info = 24
  · have hwidth : argumentWidth h.info = 1 := by rw [heq24]; rfl
    refine ⟨fun _ => ?_, fun hnot => absurd (Or.inl (by omega)) hnot⟩
    rw [hwidth] at htail hlen
    rw [readLength, if_neg h24, if_pos (by rw [heq24]; rfl), lengthOf, if_neg h24, behind, hwidth]
    have hget : bytes[offset + 1]? = h.tail[0]? := by
      rw [htail, List.getElem?_take_of_lt (by omega), List.getElem?_drop, Nat.add_zero]
    rw [hget]
    clear hget htail hh
    cases hcut : h.tail with
    | nil =>
      rw [if_pos ⟨heq24, rfl⟩]
      rfl
    | cons a rest =>
      rw [hcut, List.length_cons] at hlen
      obtain rfl : rest = [] := List.eq_nil_of_length_eq_zero (by omega)
      rw [if_neg (fun hnil => absurd hnil.2 (List.cons_ne_nil _ _))]
      simp [bigEndian]
  by_cases heq25 : h.info = 25
  · have hwidth : argumentWidth h.info = 2 := by rw [heq25]; rfl
    refine ⟨fun _ => ?_, fun hnot => absurd (Or.inl (by omega)) hnot⟩
    rw [hwidth] at htail hlen
    rw [readLength, if_neg h24, if_neg (by rw [heq25]; decide), if_pos (by rw [heq25]; rfl), lengthOf,
      if_neg h24, if_neg (by omega), behind, hwidth]
    dsimp only
    rw [@byte_of_take bytes (offset + 1) 2 0 (by omega), @byte_of_take bytes (offset + 1) 2 1 (by omega),
      ← htail, two_bytes hlen]
  by_cases heq26 : h.info = 26
  · have hwidth : argumentWidth h.info = 4 := by rw [heq26]; rfl
    refine ⟨fun _ => ?_, fun hnot => absurd (Or.inl (by omega)) hnot⟩
    rw [hwidth] at htail hlen
    rw [readLength, if_neg h24, if_neg (by rw [heq26]; decide), if_neg (by rw [heq26]; decide),
      if_pos (by rw [heq26]; rfl), lengthOf, if_neg h24, if_neg (by omega), behind, hwidth]
    dsimp only
    rw [@byte_of_take bytes (offset + 1) 4 0 (by omega), @byte_of_take bytes (offset + 1) 4 1 (by omega),
      @byte_of_take bytes (offset + 1) 4 2 (by omega), @byte_of_take bytes (offset + 1) 4 3 (by omega),
      ← htail, four_bytes hlen]
  by_cases heq27 : h.info = 27
  · have hwidth : argumentWidth h.info = 8 := by rw [heq27]; rfl
    rw [hwidth] at htail hlen
    have hthere : h.tail.length = 8 ↔ 8 ≤ (bytes.drop (offset + 1)).length := by
      rw [htail, List.length_take]
      omega
    rw [readLength, if_neg h24, if_neg (by rw [heq27]; decide), if_neg (by rw [heq27]; decide),
      if_neg (by rw [heq27]; decide), if_pos (by rw [heq27]; rfl), readBig_eq]
    constructor
    · rintro (hlt | ⟨-, hall⟩)
      · omega
      rw [if_pos (hthere.mp hall), ← htail, lengthOf, if_neg h24, if_neg (by omega), hwidth, hall,
        Nat.sub_self, List.replicate_zero, List.append_nil, behind, hwidth]
      rfl
    · intro hnot
      have hshort : ¬ 8 ≤ (bytes.drop (offset + 1)).length := fun hle =>
        hnot (Or.inr ⟨heq27, hthere.mpr hle⟩)
      exact ⟨_, by rw [if_neg hshort]; rfl⟩
  · refine ⟨fun htaken => by omega, fun _ => ⟨.error (js
      "decodeCborValue: indefinite-length CBOR items are not supported"), ?_⟩⟩
    rw [readLength, if_neg h24, if_neg (by rw [beq_iff_eq]; exact heq24),
      if_neg (by rw [beq_iff_eq]; exact heq25), if_neg (by rw [beq_iff_eq]; exact heq26),
      if_neg (by rw [beq_iff_eq]; exact heq27)]

/-! ## The items it reads -/

section

variable {bytes : Bytes}

/-- One step of the decoder at a head. -/
theorem decodeValue_head {offset : Nat} {h : Head} (hh : headAt bytes offset = some h) (depth : Nat) :
    decodeValue bytes (depth + 1) (some offset) =
      readLength bytes h.info (offset + 1) >>= fun head =>
        decodeBody bytes (decodeValue bytes depth) h.major h.info head.1 head.2 := by
  rw [headAt] at hh
  obtain ⟨initial, hget, rfl⟩ := Option.map_eq_some_iff.mp hh
  have hmajor : initial.toNat >>> 5 = initial.toNat / 32 := Nat.shiftRight_eq_div_pow _ _
  have hinfo : initial.toNat &&& 0x1f = initial.toNat % 32 := Nat.and_two_pow_sub_one_eq_mod _ 5
  rw [decodeValue, hget]
  dsimp only
  rw [hmajor, hinfo]
  rfl

/-- Where the decoder succeeds it has taken a head, and goes on behind it. -/
theorem decodeValue_ok {depth : Nat} {offset : Option Nat} {r : Value × Option Nat}
    (h : decodeValue bytes depth offset = .ok r) : ∃ d o head, depth = d + 1 ∧ offset = some o ∧
      Taken bytes o head ∧ decodeBody bytes (decodeValue bytes d) head.major head.info (lengthOf head)
        (behind head o) = .ok r := by
  match depth, offset, h with
  | 0, o, h =>
    rw [decodeValue] at h
    split at h <;> exact absurd h (by simp)
  | _ + 1, none, h => exact absurd h (by simp [decodeValue])
  | d + 1, some o, h =>
    cases hhead : headAt bytes o with
    | none =>
      rw [headAt, Option.map_eq_none_iff] at hhead
      rw [decodeValue, hhead] at h
      exact absurd h (by simp)
    | some head =>
      rw [decodeValue_head hhead] at h
      by_cases htaken : head.info < 27 ∨ head.info = 27 ∧ head.tail.length = 8
      · rw [(readLength_eq hhead).1 htaken] at h
        exact ⟨d, o, head, rfl, rfl, ⟨hhead, htaken⟩, h⟩
      · obtain ⟨e, he⟩ := (readLength_eq hhead).2 htaken
        rw [he] at h
        exact absurd h (by simp [bind, Except.bind])

theorem decodeValue_taken {offset : Nat} {h : Head} (ht : Taken bytes offset h) (depth : Nat) :
    decodeValue bytes (depth + 1) (some offset) =
      decodeBody bytes (decodeValue bytes depth) h.major h.info (lengthOf h) (behind h offset) := by
  rw [decodeValue_head ht.1, (readLength_eq ht.1).1 ht.2]
  rfl

/-! What the decoder returns is the value of an item it reads. -/

variable {decode : Option Nat → Except Exn (Value × Option Nat)}

theorem reads_of_decodeItems
    (hd : ∀ o v e, decode o = .ok (v, e) → ∃ item, Reads bytes item o e ∧ valueOf item = v) :
    ∀ (count : Nat) (o : Option Nat) (vs : List Value) (e : Option Nat),
      decodeItems decode count o = .ok (vs, e) →
      ∃ items, items.length = count ∧ ReadsAll bytes items o e ∧ valuesOf items = vs
  | 0, o, vs, e, h => by
    obtain ⟨rfl, rfl⟩ := Prod.mk.inj (Except.ok.inj h)
    exact ⟨[], rfl, rfl, rfl⟩
  | count + 1, o, vs, e, h => by
    rw [decodeItems] at h
    obtain ⟨⟨v, o₁⟩, hv, h⟩ := bind_eq_ok.mp h
    obtain ⟨⟨rest, e'⟩, hrest, h⟩ := bind_eq_ok.mp h
    obtain ⟨rfl, rfl⟩ := Prod.mk.inj (Except.ok.inj h)
    obtain ⟨item, hitem, rfl⟩ := hd _ _ _ hv
    obtain ⟨items, rfl, hitems, rfl⟩ := reads_of_decodeItems hd count _ _ _ hrest
    exact ⟨item :: items, rfl, ⟨o₁, hitem, hitems⟩, rfl⟩

theorem reads_of_decodeEntries
    (hd : ∀ o v e, decode o = .ok (v, e) → ∃ item, Reads bytes item o e ∧ valueOf item = v) :
    ∀ (count : Nat) (o : Option Nat) (acc map : List (Value × Value)) (e : Option Nat),
      decodeEntries decode count o acc = .ok (map, e) →
      ∃ entries, entries.length = count ∧ ReadsEntries bytes entries o e ∧
        (entriesOf entries).foldl setEntry acc = map
  | 0, o, acc, map, e, h => by
    obtain ⟨rfl, rfl⟩ := Prod.mk.inj (Except.ok.inj h)
    exact ⟨[], rfl, rfl, rfl⟩
  | count + 1, o, acc, map, e, h => by
    rw [decodeEntries] at h
    obtain ⟨⟨k, o₁⟩, hk, h⟩ := bind_eq_ok.mp h
    obtain ⟨⟨v, o₂⟩, hv, h⟩ := bind_eq_ok.mp h
    obtain ⟨key, hkey, rfl⟩ := hd _ _ _ hk
    obtain ⟨val, hval, rfl⟩ := hd _ _ _ hv
    obtain ⟨entries, rfl, hentries, rfl⟩ := reads_of_decodeEntries hd count _ _ _ _ h
    exact ⟨(key, val) :: entries, rfl, ⟨o₁, o₂, hkey, hval, hentries⟩, rfl⟩

theorem reads_of_decodeBody
    (hd : ∀ o v e, decode o = .ok (v, e) → ∃ item, Reads bytes item o e ∧ valueOf item = v)
    {o : Nat} {h : Head} (ht : Taken bytes o h) {v : Value} {e : Option Nat}
    (hb : decodeBody bytes decode h.major h.info (lengthOf h) (behind h o) = .ok (v, e)) :
    ∃ item, Reads bytes item (some o) e ∧ valueOf item = v := by
  unfold decodeBody at hb
  split at hb
  · rename_i hmajor
    refine ⟨.leaf h, ⟨o, rfl, ht, Or.inl hmajor, ?_⟩, ?_⟩
    · split at hb <;> exact (Prod.mk.inj (Except.ok.inj hb)).2.symm
    · rw [valueOf, if_pos hmajor]
      split at hb <;> exact (Prod.mk.inj (Except.ok.inj hb)).1
  · rename_i hmajor
    refine ⟨.leaf h, ⟨o, rfl, ht, Or.inr (Or.inl hmajor), ?_⟩, ?_⟩
    · split at hb <;> exact (Prod.mk.inj (Except.ok.inj hb)).2.symm
    · rw [valueOf, if_neg (by omega), if_pos hmajor]
      split at hb <;> exact (Prod.mk.inj (Except.ok.inj hb)).1
  · rename_i hmajor
    obtain ⟨rfl, rfl⟩ := Prod.mk.inj (Except.ok.inj hb)
    refine ⟨.str h _, ⟨o, rfl, ht, Or.inl hmajor, rfl, rfl⟩, ?_⟩
    rw [valueOf, if_pos hmajor]
  · rename_i hmajor
    obtain ⟨rfl, rfl⟩ := Prod.mk.inj (Except.ok.inj hb)
    refine ⟨.str h _, ⟨o, rfl, ht, Or.inr hmajor, rfl, rfl⟩, ?_⟩
    rw [valueOf, if_neg (by omega)]
  · rename_i hmajor
    obtain ⟨⟨vs, e'⟩, hitems, hb⟩ := bind_eq_ok.mp hb
    obtain ⟨rfl, rfl⟩ := Prod.mk.inj (Except.ok.inj hb)
    obtain ⟨items, hlen, hreads, rfl⟩ := reads_of_decodeItems hd _ _ _ _ hitems
    exact ⟨.arr h items, ⟨o, rfl, ht, hmajor, hlen, hreads⟩, rfl⟩
  · rename_i hmajor
    obtain ⟨⟨map, e'⟩, hentries, hb⟩ := bind_eq_ok.mp hb
    obtain ⟨rfl, rfl⟩ := Prod.mk.inj (Except.ok.inj hb)
    obtain ⟨entries, hlen, hreads, rfl⟩ := reads_of_decodeEntries hd _ _ _ _ _ hentries
    exact ⟨.map h entries, ⟨o, rfl, ht, hmajor, hlen, hreads⟩, rfl⟩
  · rename_i hmajor
    have hvalue : ∀ simple, simple = v → (h.info = 20 ∨ h.info = 21 ∨ h.info = 22) →
        (if h.info = 20 then Value.bool false else if h.info = 21 then .bool true else .null) = simple →
        e = some (behind h o) → ∃ item, Reads bytes item (some o) e ∧ valueOf item = v := by
      rintro simple rfl hinfo hs rfl
      refine ⟨.leaf h, ⟨o, rfl, ht, Or.inr (Or.inr ⟨hmajor, hinfo⟩), rfl⟩, ?_⟩
      rw [valueOf, if_neg (by omega), if_neg (by omega)]
      exact hs
    simp only [beq_iff_eq] at hb
    split at hb
    · rename_i h20
      obtain ⟨hv, he⟩ := Prod.mk.inj (Except.ok.inj hb)
      exact hvalue _ hv (Or.inl h20) (if_pos h20) he.symm
    split at hb
    · rename_i h20 h21
      obtain ⟨hv, he⟩ := Prod.mk.inj (Except.ok.inj hb)
      exact hvalue _ hv (Or.inr (Or.inl h21)) (by rw [if_neg h20, if_pos h21]) he.symm
    split at hb
    · rename_i h20 h21 h22
      obtain ⟨hv, he⟩ := Prod.mk.inj (Except.ok.inj hb)
      exact hvalue _ hv (Or.inr (Or.inr h22)) (by rw [if_neg h20, if_neg h21]) he.symm
    · exact absurd hb (by simp)
  · exact absurd hb (by simp)

/-- **Whatever the decoder returns it has read.** -/
theorem reads_of_decodeValue : ∀ (depth : Nat) (o : Option Nat) (v : Value) (e : Option Nat),
    decodeValue bytes depth o = .ok (v, e) → ∃ item, Reads bytes item o e ∧ valueOf item = v
  | 0, o, v, e, h => by
    obtain ⟨d, _, _, hd, -⟩ := decodeValue_ok h
    exact absurd hd.symm (Nat.succ_ne_zero d)
  | depth + 1, o, v, e, h => by
    obtain ⟨d, o', head, hdepth, rfl, ht, hbody⟩ := decodeValue_ok h
    obtain rfl : d = depth := (Nat.succ.inj hdepth).symm
    exact reads_of_decodeBody (reads_of_decodeValue d) ht hbody

/-! An item has a byte of its own, so that what is read inside it is further on. -/

/-- Nothing is read at `NaN`. -/
theorem reads_nan (item : Item) {e : Option Nat} : ¬ Reads bytes item none e := by
  intro hr
  cases item <;> exact absurd hr.choose_spec.1 (by simp)

theorem readsAll_nan (items : List Item) {e : Nat} : ¬ ReadsAll bytes items none (some e) := by
  intro hr
  cases items with
  | nil => exact absurd hr (by simp [ReadsAll])
  | cons item items => exact reads_nan item hr.choose_spec.1

theorem readsEntries_nan (entries : List (Item × Item)) {e : Nat} :
    ¬ ReadsEntries bytes entries none (some e) := by
  intro hr
  match entries, hr with
  | [], hr => exact absurd hr (by simp [ReadsEntries])
  | (key, val) :: entries, hr => exact reads_nan key hr.choose_spec.choose_spec.1

mutual

theorem reads_lt : ∀ (item : Item) {o e : Nat}, Reads bytes item (some o) (some e) → o < e
  | .leaf h, o, e, hr => by
    obtain ⟨o', ho, -, -, he⟩ := hr
    obtain rfl := Option.some.inj ho
    obtain rfl := Option.some.inj he
    rw [behind]
    omega
  | .str h content, o, e, hr => by
    obtain ⟨o', ho, -, -, -, he⟩ := hr
    obtain rfl := Option.some.inj ho
    obtain ⟨n, -, rfl⟩ := Option.map_eq_some_iff.mp he.symm
    rw [behind]
    omega
  | .arr h items, o, e, hr => by
    obtain ⟨o', ho, -, -, -, hitems⟩ := hr
    obtain rfl := Option.some.inj ho
    have hle := readsAll_le items hitems
    rw [behind] at hle
    omega
  | .map h entries, o, e, hr => by
    obtain ⟨o', ho, -, -, -, hentries⟩ := hr
    obtain rfl := Option.some.inj ho
    have hle := readsEntries_le entries hentries
    rw [behind] at hle
    omega

theorem readsAll_le : ∀ (items : List Item) {o e : Nat},
    ReadsAll bytes items (some o) (some e) → o ≤ e
  | [], o, e, hr => Nat.le_of_eq (Option.some.inj hr).symm
  | item :: items, o, e, hr => by
    obtain ⟨o₁, hitem, hitems⟩ := hr
    cases o₁ with
    | none => exact absurd hitems (readsAll_nan items)
    | some o₁ =>
      have hlt := reads_lt item hitem
      have hle := readsAll_le items hitems
      omega

theorem readsEntries_le : ∀ (entries : List (Item × Item)) {o e : Nat},
    ReadsEntries bytes entries (some o) (some e) → o ≤ e
  | [], o, e, hr => Nat.le_of_eq (Option.some.inj hr).symm
  | (key, val) :: entries, o, e, hr => by
    obtain ⟨o₁, o₂, hkey, hval, hentries⟩ := hr
    cases o₁ with
    | none => exact absurd hval (reads_nan val)
    | some o₁ =>
      cases o₂ with
      | none => exact absurd hentries (readsEntries_nan entries)
      | some o₂ =>
        have hlt := reads_lt key hkey
        have hlt' := reads_lt val hval
        have hle := readsEntries_le entries hentries
        omega

end

/-! And what it reads it returns, once it may nest as many items as there are bytes. -/

/-- From the bound on, the decoder returns every item that can be read. -/
def Returns (bytes : Bytes) (decode : Option Nat → Except Exn (Value × Option Nat)) (bound : Nat) : Prop :=
  ∀ item o e, bound ≤ o → Reads bytes item (some o) e → decode (some o) = .ok (valueOf item, e)

/-- The end of an item, if it is an offset, is behind its start. -/
theorem le_of_reads {item : Item} {bound o : Nat} (ho : bound ≤ o) {e : Option Nat}
    (h : Reads bytes item (some o) e) : ∀ n, e = some n → bound ≤ n := by
  rintro n rfl
  exact Nat.le_trans ho (Nat.le_of_lt (reads_lt item h))

theorem decodeItems_of_reads {bound : Nat} (hd : Returns bytes decode bound) :
    ∀ (items : List Item) (o e : Option Nat), (∀ n, o = some n → bound ≤ n) →
      ReadsAll bytes items o e → decodeItems decode items.length o = .ok (valuesOf items, e)
  | [], o, e, _, hr => by
    obtain rfl : e = o := hr
    rfl
  | item :: items, none, e, _, hr => absurd hr.choose_spec.1 (reads_nan item)
  | item :: items, some o, e, ho, hr => by
    obtain ⟨o₁, hitem, hitems⟩ := hr
    have hle := ho o rfl
    show decodeItems decode (items.length + 1) (some o) = _
    rw [decodeItems, hd item o o₁ hle hitem]
    show (decodeItems decode items.length o₁ >>= fun p => _) = _
    rw [decodeItems_of_reads hd items o₁ e (le_of_reads hle hitem) hitems]
    rfl

theorem decodeEntries_of_reads {bound : Nat} (hd : Returns bytes decode bound) :
    ∀ (entries : List (Item × Item)) (o e : Option Nat) (acc : List (Value × Value)),
      (∀ n, o = some n → bound ≤ n) → ReadsEntries bytes entries o e →
      decodeEntries decode entries.length o acc = .ok ((entriesOf entries).foldl setEntry acc, e)
  | [], o, e, acc, _, hr => by
    obtain rfl : e = o := hr
    rfl
  | (key, val) :: entries, none, e, _, _, hr => absurd hr.choose_spec.choose_spec.1 (reads_nan key)
  | (key, val) :: entries, some o, e, acc, ho, hr => by
    obtain ⟨o₁, o₂, hkey, hval, hentries⟩ := hr
    have hle := ho o rfl
    cases o₁ with
    | none => exact absurd hval (reads_nan val)
    | some o₁ =>
      have hle₁ := le_of_reads hle hkey o₁ rfl
      show decodeEntries decode (entries.length + 1) (some o) acc = _
      rw [decodeEntries, hd key o (some o₁) hle hkey]
      show (decode (some o₁) >>= fun p => _) = _
      rw [hd val o₁ o₂ hle₁ hval]
      exact decodeEntries_of_reads hd entries o₂ e _ (le_of_reads hle₁ hval) hentries

theorem decodeBody_of_reads {item : Item} {o : Nat} {e : Option Nat}
    (hd : Returns bytes decode (o + 1)) (hr : Reads bytes item (some o) e) :
    ∃ h, Taken bytes o h ∧
      decodeBody bytes decode h.major h.info (lengthOf h) (behind h o) = .ok (valueOf item, e) := by
  have hbehind : ∀ h : Head, ∀ n, some (behind h o) = some n → o + 1 ≤ n := by
    intro h n hn
    obtain rfl := Option.some.inj hn
    exact Nat.le_add_right _ _
  cases item with
  | leaf h =>
    obtain ⟨o', ho, ht, hmajor, rfl⟩ := hr
    obtain rfl := Option.some.inj ho
    refine ⟨h, ht, ?_⟩
    rw [valueOf]
    rcases hmajor with hmajor | hmajor | ⟨hmajor, hinfo⟩
    · rw [hmajor, if_pos rfl]
      cases lengthOf h <;> rfl
    · rw [hmajor, if_neg (by omega), if_pos rfl]
      cases lengthOf h <;> rfl
    · rw [hmajor, if_neg (by omega), if_neg (by omega)]
      rcases hinfo with hinfo | hinfo | hinfo <;> rw [hinfo] <;> rfl
  | str h content =>
    obtain ⟨o', ho, ht, hmajor, rfl, rfl⟩ := hr
    obtain rfl := Option.some.inj ho
    refine ⟨h, ht, ?_⟩
    rw [valueOf]
    rcases hmajor with hmajor | hmajor
    · rw [hmajor, if_pos rfl]
      rfl
    · rw [hmajor, if_neg (by omega)]
      rfl
  | arr h items =>
    obtain ⟨o', ho, ht, hmajor, hlen, hitems⟩ := hr
    obtain rfl := Option.some.inj ho
    refine ⟨h, ht, ?_⟩
    rw [hmajor]
    show (decodeItems decode ((lengthOf h).getD 0) (some (behind h o)) >>= fun p => _) = _
    rw [← hlen, decodeItems_of_reads hd items _ e (hbehind h) hitems]
    rfl
  | map h entries =>
    obtain ⟨o', ho, ht, hmajor, hlen, hentries⟩ := hr
    obtain rfl := Option.some.inj ho
    refine ⟨h, ht, ?_⟩
    rw [hmajor]
    show (decodeEntries decode ((lengthOf h).getD 0) (some (behind h o)) [] >>= fun p => _) = _
    rw [← hlen, decodeEntries_of_reads hd entries _ e [] (hbehind h) hentries]
    rfl

/-- **Whatever can be read is returned**, if as many items may be nested as bytes are left. -/
theorem decodeValue_of_reads : ∀ (depth : Nat) (item : Item) (o : Nat) (e : Option Nat),
    bytes.length < o + depth → Reads bytes item (some o) e →
    decodeValue bytes depth (some o) = .ok (valueOf item, e)
  | 0, item, o, e, hdepth, hr => by
    have hget : ∀ h, ¬ Taken bytes o h := by
      intro h ht
      obtain ⟨initial, hget, -⟩ := Option.map_eq_some_iff.mp ht.1
      have hlt := (List.getElem?_eq_some_iff.mp hget).1
      omega
    cases item <;> obtain ⟨o', ho, ht, -⟩ := hr <;> obtain rfl := Option.some.inj ho <;>
      exact absurd ht (hget _)
  | depth + 1, item, o, e, hdepth, hr => by
    obtain ⟨h, ht, hbody⟩ := decodeBody_of_reads (fun item' o' e' hle hr' =>
      decodeValue_of_reads depth item' o' e' (by omega) hr') hr
    rw [decodeValue_taken ht]
    exact hbody

/-- **The decoder in terms of what can be read.** -/
theorem decodeCborValue_iff {o : Nat} {v : Value} {e : Option Nat} :
    decodeCborValue bytes o = .ok (v, e) ↔ ∃ item, Reads bytes item (some o) e ∧ valueOf item = v := by
  constructor
  · exact reads_of_decodeValue _ _ _ _
  · rintro ⟨item, hr, rfl⟩
    exact decodeValue_of_reads _ item o e (by omega) hr

/-! How many items may be nested does not matter beyond that. -/

/-- From the bound on, two decoders do the same, and neither goes back. -/
structure Agree (decode decode' : Option Nat → Except Exn (Value × Option Nat)) (bound : Nat) : Prop where
  nan : ∃ e, decode none = .error e ∧ decode' none = .error e
  same : ∀ o, bound ≤ o → decode (some o) = decode' (some o)
  onward : ∀ o v e, bound ≤ o → decode (some o) = .ok (v, some e) → bound ≤ e

variable {decode' : Option Nat → Except Exn (Value × Option Nat)}

/-- An item in a loop: the same answer, and an end from which the loop may go on. -/
theorem Agree.item {bound : Nat} (h : Agree decode decode' bound) {o : Option Nat}
    (ho : ∀ n, o = some n → bound ≤ n) :
    decode o = decode' o ∧ ∀ r, decode o = .ok r → ∀ n, r.2 = some n → bound ≤ n := by
  cases o with
  | none =>
    obtain ⟨e, he, he'⟩ := h.nan
    exact ⟨he.trans he'.symm, fun r hr => absurd (he.symm.trans hr) (by simp)⟩
  | some o =>
    refine ⟨h.same o (ho o rfl), fun r hr n hn => h.onward o r.1 n (ho o rfl) ?_⟩
    rw [hr, ← hn]

theorem Agree.items {bound : Nat} (h : Agree decode decode' bound) :
    ∀ (count : Nat) (o : Option Nat), (∀ n, o = some n → bound ≤ n) →
      decodeItems decode count o = decodeItems decode' count o
  | 0, _, _ => rfl
  | count + 1, o, ho => by
    obtain ⟨hhere, hnext⟩ := h.item ho
    rw [decodeItems, decodeItems, ← hhere]
    cases hr : decode o with
    | error e => rfl
    | ok r =>
      show (decodeItems decode count r.2 >>= fun p => _) = (decodeItems decode' count r.2 >>= fun p => _)
      rw [h.items count r.2 (hnext r hr)]

theorem Agree.entries {bound : Nat} (h : Agree decode decode' bound) :
    ∀ (count : Nat) (o : Option Nat) (acc : List (Value × Value)), (∀ n, o = some n → bound ≤ n) →
      decodeEntries decode count o acc = decodeEntries decode' count o acc
  | 0, _, _, _ => rfl
  | count + 1, o, acc, ho => by
    obtain ⟨hkey, hnext⟩ := h.item ho
    rw [decodeEntries, decodeEntries, ← hkey]
    cases hr : decode o with
    | error e => rfl
    | ok r =>
      obtain ⟨hval, hnext'⟩ := h.item (hnext r hr)
      show (decode r.2 >>= fun p => _) = (decode' r.2 >>= fun p => _)
      rw [← hval]
      cases hr' : decode r.2 with
      | error e => rfl
      | ok r' => exact h.entries count r'.2 _ (hnext' r' hr')

theorem Agree.body {bound : Nat} (h : Agree decode decode' bound) (majorType info : Nat)
    (length : Option Nat) {offset : Nat} (ho : bound ≤ offset) :
    decodeBody bytes decode majorType info length offset
      = decodeBody bytes decode' majorType info length offset := by
  have hoffset : ∀ n, some offset = some n → bound ≤ n := by
    intro n hn
    obtain rfl := Option.some.inj hn
    exact ho
  unfold decodeBody
  rw [h.items _ _ hoffset, h.entries _ _ _ hoffset]

/-- **Enough depth gives the result**: the decoder ends on every array and offset, and its depth is
    never what stops it. -/
theorem decodeValue_depth : ∀ (d d' o : Nat), bytes.length < o + d → bytes.length < o + d' →
    decodeValue bytes d (some o) = decodeValue bytes d' (some o)
  | 0, d', o, hd, hd' => by
    have hget : bytes[o]? = none := List.getElem?_eq_none (by omega)
    cases d' with
    | zero => rfl
    | succ d' =>
      rw [decodeValue, decodeValue, hget]
      simp only [Option.bind_some, hget]
  | d + 1, 0, o, hd, hd' => by
    have hget : bytes[o]? = none := List.getElem?_eq_none (by omega)
    rw [decodeValue, decodeValue, hget]
    simp only [Option.bind_some, hget]
  | d + 1, d' + 1, o, hd, hd' => by
    have hagree : Agree (decodeValue bytes d) (decodeValue bytes d') (o + 1) := by
      refine ⟨⟨.error (js "decodeCborValue: unexpected end of input"), ?_, ?_⟩, ?_, ?_⟩
      · cases d <;> rfl
      · cases d' <;> rfl
      · intro o' ho'
        exact decodeValue_depth d d' o' (by omega) (by omega)
      · intro o' v e ho' hr
        obtain ⟨item, hitem, -⟩ := reads_of_decodeValue d _ v _ hr
        exact Nat.le_trans ho' (Nat.le_of_lt (reads_lt item hitem))
    cases hhead : headAt bytes o with
    | none =>
      rw [headAt, Option.map_eq_none_iff] at hhead
      rw [decodeValue, decodeValue, hhead]
    | some h =>
      rw [decodeValue_head hhead, decodeValue_head hhead]
      cases hlen : readLength bytes h.info (o + 1) with
      | error e => rfl
      | ok head =>
        have hbehind : o + 1 ≤ head.2 := by
          by_cases htaken : h.info < 27 ∨ h.info = 27 ∧ h.tail.length = 8
          · rw [(readLength_eq hhead).1 htaken] at hlen
            rw [← Except.ok.inj hlen]
            exact Nat.le_add_right _ _
          · obtain ⟨e, he⟩ := (readLength_eq hhead).2 htaken
            exact absurd (he.symm.trans hlen) (by simp)
        exact hagree.body _ _ _ hbehind

end

end Dashboard

end Hundi
