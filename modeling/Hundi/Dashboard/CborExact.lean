/-
  apps/dashboard/src/lib/webauthn.ts — where `decodeCborValue` parses exactly CBOR.

  Three facts about an item that is read at an offset:

  * `encodes_of_reads`  — a flawless one is an encoding of its value, and ends where that does;
  * `reads_of_encodes`  — an encoding at the offset is read to its end, and has its value if flawless;
  * `flawless_of_reads` — if bytes at the offset encode the item's value, it ends with them and is
                          flawless.

  With `decodeCborValue_iff` they give `parses_exactly_iff`.
-/
import Hundi.Dashboard.CborDecoder

namespace Hundi

open Js Cbor

namespace Dashboard

section

variable {bytes : Bytes}

/-! ## Heads -/

/-- Two pieces in a row. -/
theorem append_prefix_drop {o : Nat} {a b : Bytes} :
    a ++ b <+: bytes.drop o ↔ a <+: bytes.drop o ∧ b <+: bytes.drop (o + a.length) := by
  constructor
  · rintro ⟨rest, hrest⟩
    refine ⟨⟨b ++ rest, by rw [← hrest, List.append_assoc]⟩, ⟨rest, ?_⟩⟩
    rw [← List.drop_drop, ← hrest, List.append_assoc, List.drop_left]
  · rintro ⟨⟨rest, hrest⟩, ⟨rest', hrest'⟩⟩
    refine ⟨rest', ?_⟩
    rw [← List.drop_drop, ← hrest, List.drop_left] at hrest'
    rw [List.append_assoc, hrest', hrest]

theorem prefix_of_headAt {o : Nat} {h : Head} (hh : headAt bytes o = some h) :
    h.bytes <+: bytes.drop o := by
  rw [headAt] at hh
  obtain ⟨initial, hget, rfl⟩ := Option.map_eq_some_iff.mp hh
  obtain ⟨hlt, rfl⟩ := List.getElem?_eq_some_iff.mp hget
  rw [List.drop_eq_getElem_cons hlt]
  exact List.prefix_cons_inj _ |>.mpr (List.take_prefix _ _)

theorem headAt_of_starts {o : Nat} {h : Head} (hw : h.Whole) (hp : h.bytes <+: bytes.drop o) :
    headAt bytes o = some h := by
  obtain ⟨rest, hrest⟩ := hp
  have hget : bytes[o]? = some h.initial := by
    have hfirst : (bytes.drop o)[0]? = some h.initial := by rw [← hrest]; rfl
    rwa [List.getElem?_drop, Nat.add_zero] at hfirst
  have hdrop : bytes.drop (o + 1) = h.tail ++ rest := by
    rw [← List.drop_drop, ← hrest]
    rfl
  have hwidth : h.tail.length = argumentWidth (h.initial.toNat % 32) := hw.2
  rw [headAt, hget, Option.map_some, hdrop, ← hwidth, List.take_left]

theorem taken_of_starts {o : Nat} {h : Head} (hw : h.Whole) (hp : h.bytes <+: bytes.drop o) :
    Taken bytes o h := by
  refine ⟨headAt_of_starts hw hp, ?_⟩
  rcases Nat.lt_or_eq_of_le hw.1 with hlt | heq
  · exact Or.inl hlt
  · refine Or.inr ⟨heq, ?_⟩
    rw [hw.2, heq]
    rfl

/-- A whole head declares its argument. -/
theorem lengthOf_whole {h : Head} (hw : h.Whole) : lengthOf h = some h.argument := by
  rw [lengthOf, Head.argument]
  by_cases h24 : h.info < 24
  · rw [if_pos h24, if_pos h24]
  · have hne : ¬ (h.info = 24 ∧ h.tail = []) := by
      rintro ⟨heq, hnil⟩
      have hlen := hw.2
      rw [hnil, heq] at hlen
      exact absurd hlen (by decide)
    rw [if_neg h24, if_neg hne, if_neg h24, hw.2, Nat.sub_self, List.replicate_zero, List.append_nil]

theorem behind_whole {h : Head} (hw : h.Whole) (o : Nat) : behind h o = o + h.bytes.length := by
  rw [behind, Head.bytes, List.length_cons, hw.2]
  omega

/-- The head of an encoding is the head that is taken. -/
theorem IsHead.eq {major n o : Nat} {head : Bytes} (hi : IsHead major n head)
    (hp : head <+: bytes.drop o) {h : Head} (ht : Taken bytes o h) :
    h.Whole ∧ h.major = major ∧ h.argument = n ∧ head = h.bytes := by
  obtain ⟨h', hw, hmajor, harg, rfl⟩ := hi
  have heq := (headAt_of_starts hw hp).symm.trans ht.1
  obtain rfl := Option.some.inj heq
  exact ⟨hw, hmajor, harg, rfl⟩

/-- And the other way round. -/
theorem IsHead.taken {major n o : Nat} {head : Bytes} (hi : IsHead major n head)
    (hp : head <+: bytes.drop o) :
    ∃ h, Taken bytes o h ∧ h.Whole ∧ h.major = major ∧ lengthOf h = some n ∧
      behind h o = o + head.length := by
  obtain ⟨h, hw, hmajor, harg, rfl⟩ := hi
  refine ⟨h, taken_of_starts hw hp, hw, hmajor, ?_, behind_whole hw o⟩
  rw [lengthOf_whole hw, harg]

theorem isHead_of_whole {h : Head} (hw : h.Whole) : IsHead h.major h.argument h.bytes :=
  ⟨h, hw, rfl, rfl, rfl⟩

/-- A head of the simple values is one byte. -/
theorem bytes_of_simple {h : Head} (hw : h.Whole) (hmajor : h.major = 7) {n : Nat} (hinfo : h.info = n)
    (hn : n < 24) : h.bytes = [UInt8.ofNat (7 * 32 + n)] := by
  have htail : h.tail = [] := by
    refine List.eq_nil_of_length_eq_zero ?_
    rw [hw.2, hinfo]
    exact if_pos hn
  have hinitial : h.initial.toNat = 7 * 32 + n := by
    have hdiv := Nat.div_add_mod h.initial.toNat 32
    rw [Head.major] at hmajor
    rw [Head.info] at hinfo
    omega
  rw [Head.bytes, htail, ← hinitial, UInt8.ofNat_toNat]

/-! ## Text -/

theorem textDecode_plain {content : Bytes} (h : PlainText content) :
    WellFormed (textDecode content) ∧ textEncode (textDecode content) = content := by
  obtain ⟨s, hs, hbom, rfl⟩ := h
  rw [textDecode_textEncode hs hbom]
  exact ⟨hs, rfl⟩

/-- The code unit U+FEFF in front of a text is the byte order mark. -/
theorem bom_of_head {c : Char} {l : List Char} (h : (utf16 (c :: l)).head? = some 0xFEFF) :
    c = '\uFEFF' := by
  have hvalid : c.toNat.isValidChar := c.valid
  simp only [Nat.isValidChar] at hvalid
  rw [utf16, List.flatMap_cons, utf16Char] at h
  by_cases hsmall : c.toNat < 0x10000
  · rw [if_pos hsmall] at h
    have hunit : UInt16.ofNat c.toNat = 0xFEFF := Option.some.inj h
    have hnat : c.toNat = 0xFEFF := by
      have := congrArg UInt16.toNat hunit
      rwa [UInt16.toNat_ofNat_of_lt' (by rw [UInt16.size]; omega)] at this
    rw [← Char.ofNat_toNat c, hnat]
  · rw [if_neg hsmall] at h
    have hunit : UInt16.ofNat (0xD800 + (c.toNat - 0x10000) / 0x400) = 0xFEFF := Option.some.inj h
    have hnat := congrArg UInt16.toNat hunit
    rw [UInt16.toNat_ofNat_of_lt' (by rw [UInt16.size]; omega)] at hnat
    change _ = 0xFEFF at hnat
    omega

/-- A text that starts with a byte order mark is not read back. -/
theorem plainText_of_decode {s : JsString} (hs : WellFormed s)
    (h : textDecode (textEncode s) = s) : PlainText (textEncode s) := by
  refine ⟨s, hs, ?_, rfl⟩
  intro hbom
  obtain ⟨l, rfl⟩ := hs
  cases l with
  | nil => exact absurd hbom (by simp [utf16])
  | cons c l =>
    obtain rfl := bom_of_head hbom
    rw [textEncode, toScalars_utf16, textDecode, decodeScalars_utf8 _ _ (Nat.le_refl _)] at h
    have hlen := congrArg List.length (show utf16 l = utf16 ('\uFEFF' :: l) from h)
    rw [utf16, utf16, List.flatMap_cons, List.length_append] at hlen
    have hone : (utf16Char '\uFEFF').length = 1 := rfl
    omega

/-! ## Items and encodings -/

theorem length_valuesOf : ∀ items : List Item, (valuesOf items).length = items.length
  | [] => rfl
  | item :: items => by rw [valuesOf, List.length_cons, List.length_cons, length_valuesOf items]

theorem length_entriesOf : ∀ entries : List (Item × Item), (entriesOf entries).length = entries.length
  | [] => rfl
  | (key, val) :: entries => by
    rw [entriesOf, List.length_cons, List.length_cons, length_entriesOf entries]

mutual

/-- **A flawless item is an encoding of its value.** -/
theorem encodes_of_reads : ∀ (item : Item) {o : Nat} {e : Option Nat},
    Reads bytes item (some o) e → Flawless item →
    ∃ bs, e = some (o + bs.length) ∧ bs <+: bytes.drop o ∧ Encodes (valueOf item) bs
  | .leaf h, o, e, hr, hf => by
    obtain ⟨o', ho, ht, hmajor, rfl⟩ := hr
    obtain rfl := Option.some.inj ho
    obtain ⟨hw, hunsigned, hnegative⟩ := hf
    refine ⟨h.bytes, by rw [behind_whole hw], prefix_of_headAt ht.1, ?_⟩
    have hhead := isHead_of_whole hw
    rw [valueOf, lengthOf_whole hw]
    rcases hmajor with hmajor | hmajor | ⟨hmajor, hinfo⟩
    · rw [if_pos hmajor, Encodes, hunsigned hmajor]
      refine Or.inl ⟨Int.natCast_nonneg _, ?_⟩
      rw [hmajor] at hhead
      exact hhead
    · rw [if_neg (by omega), if_pos hmajor]
      dsimp only
      rw [Encodes, hnegative hmajor]
      refine Or.inr ⟨by omega, ?_⟩
      rw [hmajor] at hhead
      rw [show (-1 - (-1 - (h.argument : Int))).toNat = h.argument by omega]
      exact hhead
    · rw [if_neg (by omega), if_neg (by omega)]
      rcases hinfo with hinfo | hinfo | hinfo <;>
        rw [bytes_of_simple hw hmajor hinfo (by omega), hinfo] <;> rfl
  | .str h content, o, e, hr, hf => by
    obtain ⟨o', ho, ht, hmajor, hcontent, rfl⟩ := hr
    obtain rfl := Option.some.inj ho
    obtain ⟨hw, hlen, htext⟩ := hf
    rw [lengthOf_whole hw] at hcontent ⊢
    have hprefix : content <+: bytes.drop (o + h.bytes.length) := by
      rw [hcontent, behind_whole hw]
      exact List.take_prefix _ _
    have hhead := isHead_of_whole hw
    refine ⟨h.bytes ++ content, ?_, append_prefix_drop.mpr ⟨prefix_of_headAt ht.1, hprefix⟩, ?_⟩
    · rw [Option.map_some, behind_whole hw, List.length_append, hlen, Nat.add_assoc]
    · rw [valueOf]
      rcases hmajor with hmajor | hmajor
      · rw [if_pos hmajor, Encodes]
        rw [hmajor, ← hlen] at hhead
        exact ⟨h.bytes, hhead, rfl⟩
      · rw [if_neg (by omega), Encodes]
        obtain ⟨hs, henc⟩ := textDecode_plain (htext hmajor)
        rw [hmajor, ← hlen] at hhead
        refine ⟨hs, h.bytes, ?_, by rw [henc]⟩
        rw [henc]
        exact hhead
  | .arr h items, o, e, hr, hf => by
    obtain ⟨o', ho, ht, hmajor, hlen, hitems⟩ := hr
    obtain rfl := Option.some.inj ho
    obtain ⟨hw, hall⟩ := hf
    rw [behind_whole hw] at hitems
    obtain ⟨body, rfl, hbody, henc⟩ := encodesAll_of_reads items hitems hall
    have hhead := isHead_of_whole hw
    rw [lengthOf_whole hw, Option.getD_some] at hlen
    refine ⟨h.bytes ++ body, ?_, append_prefix_drop.mpr ⟨prefix_of_headAt ht.1, hbody⟩, ?_⟩
    · rw [List.length_append, Nat.add_assoc]
    · rw [valueOf, Encodes]
      refine ⟨h.bytes, body, ?_, henc, rfl⟩
      rw [hmajor] at hhead
      rw [length_valuesOf, hlen]
      exact hhead
  | .map h entries, o, e, hr, hf => by
    obtain ⟨o', ho, ht, hmajor, hlen, hentries⟩ := hr
    obtain rfl := Option.some.inj ho
    obtain ⟨hw, hall, hkeys⟩ := hf
    rw [behind_whole hw] at hentries
    obtain ⟨body, rfl, hbody, henc⟩ := encodesEntries_of_reads entries hentries hall
    have hhead := isHead_of_whole hw
    rw [lengthOf_whole hw, Option.getD_some] at hlen
    refine ⟨h.bytes ++ body, ?_, append_prefix_drop.mpr ⟨prefix_of_headAt ht.1, hbody⟩, ?_⟩
    · rw [List.length_append, Nat.add_assoc]
    · have hmap : (entriesOf entries).foldl setEntry [] = entriesOf entries :=
        foldl_setEntry_distinct hkeys
      rw [valueOf, hmap, Encodes]
      refine ⟨hkeys, h.bytes, body, ?_, henc, rfl⟩
      rw [hmajor] at hhead
      rw [length_entriesOf, hlen]
      exact hhead

theorem encodesAll_of_reads : ∀ (items : List Item) {o : Nat} {e : Option Nat},
    ReadsAll bytes items (some o) e → FlawlessAll items →
    ∃ bs, e = some (o + bs.length) ∧ bs <+: bytes.drop o ∧ EncodesAll (valuesOf items) bs
  | [], o, e, hr, _ => ⟨[], hr, List.nil_prefix, rfl⟩
  | item :: items, o, e, hr, hf => by
    obtain ⟨o₁, hitem, hitems⟩ := hr
    obtain ⟨a, rfl, ha, henc⟩ := encodes_of_reads item hitem hf.1
    obtain ⟨b, rfl, hb, henc'⟩ := encodesAll_of_reads items hitems hf.2
    refine ⟨a ++ b, by rw [List.length_append, Nat.add_assoc], append_prefix_drop.mpr ⟨ha, hb⟩, ?_⟩
    exact ⟨a, b, henc, henc', rfl⟩

theorem encodesEntries_of_reads : ∀ (entries : List (Item × Item)) {o : Nat} {e : Option Nat},
    ReadsEntries bytes entries (some o) e → FlawlessEntries entries →
    ∃ bs, e = some (o + bs.length) ∧ bs <+: bytes.drop o ∧ EncodesEntries (entriesOf entries) bs
  | [], o, e, hr, _ => ⟨[], hr, List.nil_prefix, rfl⟩
  | (key, val) :: entries, o, e, hr, hf => by
    obtain ⟨o₁, o₂, hkey, hval, hentries⟩ := hr
    obtain ⟨a, rfl, ha, henc⟩ := encodes_of_reads key hkey hf.1
    obtain ⟨b, rfl, hb, henc'⟩ := encodes_of_reads val hval hf.2.1
    obtain ⟨c, rfl, hc, henc''⟩ := encodesEntries_of_reads entries hentries hf.2.2
    refine ⟨a ++ (b ++ c), ?_, ?_, ⟨a, b, c, henc, henc', henc'', rfl⟩⟩
    · rw [List.length_append, List.length_append, Nat.add_assoc, Nat.add_assoc]
    · exact append_prefix_drop.mpr ⟨ha, append_prefix_drop.mpr ⟨hb, hc⟩⟩

end

mutual

/-- The value can be told by the decoder: its integers are safe and no text starts with a byte order
    mark.  The structures of WebAuthn have no other values. -/
def Plain : Value → Prop
  | .int n => isSafeInt n = true
  | .text s => s.head? ≠ some 0xFEFF
  | .arr vs => PlainAll vs
  | .map entries => PlainEntries entries
  | _ => True

def PlainAll : List Value → Prop
  | [] => True
  | v :: vs => Plain v ∧ PlainAll vs

def PlainEntries : List (Value × Value) → Prop
  | [] => True
  | (k, v) :: entries => Plain k ∧ Plain v ∧ PlainEntries entries

end

theorem safe_bounds (n : Int) :
    isSafeInt n = true ↔ -9007199254740991 ≤ n ∧ n ≤ 9007199254740991 := by
  rw [isSafeInt, Bool.and_eq_true, decide_eq_true_eq, decide_eq_true_eq]
  exact Iff.rfl

theorem jsRound_safe {n : Int} (h : isSafeInt n = true) : jsRound n = n := by
  rw [safe_bounds] at h
  rw [jsRound, roundNat_of_lt (by omega)]
  split <;> omega

/-- A simple value of one byte. -/
theorem simple_of_prefix {h : Head} {o : Nat} (hmajor : h.tail = [] ∧ h.major = 7)
    (hinfo : h.info = 20 ∨ h.info = 21 ∨ h.info = 22) (hp : h.bytes <+: bytes.drop o) :
    ∃ item, Reads bytes item (some o) (some (o + h.bytes.length)) ∧ (Flawless item →
      valueOf item = if h.info = 20 then .bool false else if h.info = 21 then .bool true else .null) ∧
      (True → Flawless item) := by
  have hw : h.Whole := by
    refine ⟨by omega, ?_⟩
    rw [hmajor.1, argumentWidth, if_pos (by omega)]
    rfl
  refine ⟨.leaf h, ⟨o, rfl, taken_of_starts hw hp, Or.inr (Or.inr ⟨hmajor.2, hinfo⟩), ?_⟩, fun _ => ?_,
    fun _ => ⟨hw, fun hne => by omega, fun hne => by omega⟩⟩
  · rw [behind_whole hw]
  · rw [valueOf, if_neg (by omega), if_neg (by omega)]

mutual

/-- **An encoding at the offset is read to its end**, and has its value if it is flawless: so it is if
    the value is plain. -/
theorem reads_of_encodes : ∀ (v : Value) {o : Nat} {bs : Bytes}, Encodes v bs → bs <+: bytes.drop o →
    ∃ item, Reads bytes item (some o) (some (o + bs.length)) ∧ (Flawless item → valueOf item = v) ∧
      (Plain v → Flawless item)
  | .int n, o, bs, henc, hp => by
    rw [Encodes] at henc
    rcases henc with ⟨hn, hhead⟩ | ⟨hn, hhead⟩
    · obtain ⟨h, ht, hw, hmajor, hlen, hbehind⟩ := IsHead.taken hhead hp
      have harg : h.argument = n.toNat := Option.some.inj ((lengthOf_whole hw).symm.trans hlen)
      refine ⟨.leaf h, ⟨o, rfl, ht, Or.inl hmajor, by rw [hbehind]⟩, fun hf => ?_, fun hsafe => ?_⟩
      · have hexact := hf.2.1 hmajor
        rw [harg] at hexact
        rw [valueOf, if_pos hmajor, hlen]
        dsimp only
        rw [hexact, Int.toNat_of_nonneg hn]
      · refine ⟨hw, fun _ => ?_, fun hne => by omega⟩
        rw [harg, Int.toNat_of_nonneg hn, jsRound_safe hsafe]
    · obtain ⟨h, ht, hw, hmajor, hlen, hbehind⟩ := IsHead.taken hhead hp
      have harg : h.argument = (-1 - n).toNat := Option.some.inj ((lengthOf_whole hw).symm.trans hlen)
      have hback : -1 - ((-1 - n).toNat : Int) = n := by omega
      refine ⟨.leaf h, ⟨o, rfl, ht, Or.inr (Or.inl hmajor), by rw [hbehind]⟩, fun hf => ?_,
        fun hsafe => ?_⟩
      · have hexact := hf.2.2 hmajor
        rw [harg] at hexact
        rw [valueOf, if_neg (by omega), if_pos hmajor, hlen]
        dsimp only
        rw [hexact, hback]
      · refine ⟨hw, fun hne => by omega, fun _ => ?_⟩
        have hcomplement : isSafeInt ((-1 - n).toNat : Int) = true := by
          have hbounds := (safe_bounds n).mp hsafe
          rw [safe_bounds]
          omega
        rw [harg, jsRound_safe hcomplement, hback, jsRound_safe hsafe]
  | .bytes content, o, bs, henc, hp => by
    rw [Encodes] at henc
    obtain ⟨head, hhead, rfl⟩ := henc
    obtain ⟨hpre, ⟨rest, hrest⟩⟩ := append_prefix_drop.mp hp
    obtain ⟨h, ht, hw, hmajor, hlen, hbehind⟩ := IsHead.taken hhead hpre
    refine ⟨.str h content, ⟨o, rfl, ht, Or.inl hmajor, ?_, ?_⟩, fun _ => by rw [valueOf, if_pos hmajor],
      fun _ => ⟨hw, Option.some.inj (hlen.symm.trans (lengthOf_whole hw)), fun hne => by omega⟩⟩
    · rw [hlen, hbehind, Option.getD_some, ← hrest, List.take_left]
    · rw [hlen, hbehind, Option.map_some, List.length_append, Nat.add_assoc]
  | .text s, o, bs, henc, hp => by
    rw [Encodes] at henc
    obtain ⟨hs, head, hhead, rfl⟩ := henc
    obtain ⟨hpre, ⟨rest, hrest⟩⟩ := append_prefix_drop.mp hp
    obtain ⟨h, ht, hw, hmajor, hlen, hbehind⟩ := IsHead.taken hhead hpre
    refine ⟨.str h (textEncode s), ⟨o, rfl, ht, Or.inr hmajor, ?_, ?_⟩, fun hf => ?_, fun hbom =>
      ⟨hw, Option.some.inj (hlen.symm.trans (lengthOf_whole hw)), fun _ => ⟨s, hs, hbom, rfl⟩⟩⟩
    · rw [hlen, hbehind, Option.getD_some, ← hrest, List.take_left]
    · rw [hlen, hbehind, Option.map_some, List.length_append, Nat.add_assoc]
    · obtain ⟨hwf, hencoded⟩ := textDecode_plain (hf.2.2 hmajor)
      rw [valueOf, if_neg (by omega), textEncode_inj hwf hs hencoded]
  | .arr vs, o, bs, henc, hp => by
    rw [Encodes] at henc
    obtain ⟨head, body, hhead, hall, rfl⟩ := henc
    obtain ⟨hpre, hbody⟩ := append_prefix_drop.mp hp
    obtain ⟨h, ht, hw, hmajor, hlen, hbehind⟩ := IsHead.taken hhead hpre
    obtain ⟨items, hcount, hitems, hvalues, hplain⟩ := readsAll_of_encodes vs hall hbody
    refine ⟨.arr h items, ⟨o, rfl, ht, hmajor, ?_, ?_⟩, fun hf => ?_, fun hp => ⟨hw, hplain hp⟩⟩
    · rw [hlen, hcount, Option.getD_some]
    · rw [hbehind, List.length_append, ← Nat.add_assoc]
      exact hitems
    · rw [valueOf, hvalues hf.2]
  | .map entries, o, bs, henc, hp => by
    rw [Encodes] at henc
    obtain ⟨hkeys, head, body, hhead, hall, rfl⟩ := henc
    obtain ⟨hpre, hbody⟩ := append_prefix_drop.mp hp
    obtain ⟨h, ht, hw, hmajor, hlen, hbehind⟩ := IsHead.taken hhead hpre
    obtain ⟨items, hcount, hitems, hvalues, hplain⟩ := readsEntries_of_encodes entries hall hbody
    refine ⟨.map h items, ⟨o, rfl, ht, hmajor, ?_, ?_⟩, fun hf => ?_, fun hp =>
      ⟨hw, hplain hp, (hvalues (hplain hp)).symm ▸ hkeys⟩⟩
    · rw [hlen, hcount, Option.getD_some]
    · rw [hbehind, List.length_append, ← Nat.add_assoc]
      exact hitems
    · have hmap : (entriesOf items).foldl setEntry [] = entriesOf items :=
        foldl_setEntry_distinct hf.2.2
      rw [valueOf, hmap, hvalues hf.2.1]
  | .bool b, o, bs, henc, hp => by
    rw [Encodes] at henc
    subst henc
    cases b with
    | false => exact simple_of_prefix (h := ⟨0xF4, []⟩) (by decide) (Or.inl rfl) hp
    | true => exact simple_of_prefix (h := ⟨0xF5, []⟩) (by decide) (Or.inr (Or.inl rfl)) hp
  | .null, o, bs, henc, hp => by
    rw [Encodes] at henc
    subst henc
    exact simple_of_prefix (h := ⟨0xF6, []⟩) (by decide) (Or.inr (Or.inr rfl)) hp
  | .undefined, _, _, henc, _ => absurd henc (by rw [Encodes]; exact not_false)
  | .nan, _, _, henc, _ => absurd henc (by rw [Encodes]; exact not_false)

theorem readsAll_of_encodes : ∀ (vs : List Value) {o : Nat} {bs : Bytes}, EncodesAll vs bs →
    bs <+: bytes.drop o →
    ∃ items, items.length = vs.length ∧ ReadsAll bytes items (some o) (some (o + bs.length)) ∧
      (FlawlessAll items → valuesOf items = vs) ∧ (PlainAll vs → FlawlessAll items)
  | [], o, bs, henc, _ => by
    rw [EncodesAll] at henc
    subst henc
    exact ⟨[], rfl, rfl, fun _ => rfl, fun _ => trivial⟩
  | v :: vs, o, bs, henc, hp => by
    rw [EncodesAll] at henc
    obtain ⟨a, b, ha, hb, rfl⟩ := henc
    obtain ⟨hpa, hpb⟩ := append_prefix_drop.mp hp
    obtain ⟨item, hitem, hvalue, hplain⟩ := reads_of_encodes v ha hpa
    obtain ⟨items, hcount, hitems, hvalues, hplains⟩ := readsAll_of_encodes vs hb hpb
    refine ⟨item :: items, by rw [List.length_cons, List.length_cons, hcount], ?_, fun hf => ?_,
      fun hp => ⟨hplain hp.1, hplains hp.2⟩⟩
    · refine ⟨some (o + a.length), hitem, ?_⟩
      rw [List.length_append, ← Nat.add_assoc]
      exact hitems
    · rw [valuesOf, hvalue hf.1, hvalues hf.2]

theorem readsEntries_of_encodes : ∀ (entries : List (Value × Value)) {o : Nat} {bs : Bytes},
    EncodesEntries entries bs → bs <+: bytes.drop o →
    ∃ items, items.length = entries.length ∧
      ReadsEntries bytes items (some o) (some (o + bs.length)) ∧
      (FlawlessEntries items → entriesOf items = entries) ∧
      (PlainEntries entries → FlawlessEntries items)
  | [], o, bs, henc, _ => by
    rw [EncodesEntries] at henc
    subst henc
    exact ⟨[], rfl, rfl, fun _ => rfl, fun _ => trivial⟩
  | (k, v) :: entries, o, bs, henc, hp => by
    rw [EncodesEntries] at henc
    obtain ⟨a, b, c, ha, hb, hc, rfl⟩ := henc
    obtain ⟨hpa, hp⟩ := append_prefix_drop.mp hp
    obtain ⟨hpb, hpc⟩ := append_prefix_drop.mp hp
    obtain ⟨key, hkey, hkeyValue, hkeyPlain⟩ := reads_of_encodes k ha hpa
    obtain ⟨val, hval, hvalValue, hvalPlain⟩ := reads_of_encodes v hb hpb
    obtain ⟨items, hcount, hitems, hvalues, hplains⟩ := readsEntries_of_encodes entries hc hpc
    refine ⟨(key, val) :: items, by rw [List.length_cons, List.length_cons, hcount], ?_, fun hf => ?_,
      fun hp => ⟨hkeyPlain hp.1, hvalPlain hp.2.1, hplains hp.2.2⟩⟩
    · refine ⟨_, _, hkey, hval, ?_⟩
      rw [List.length_append, List.length_append, ← Nat.add_assoc, ← Nat.add_assoc]
      exact hitems
    · rw [entriesOf, hkeyValue hf.1, hvalValue hf.2.1, hvalues hf.2.2]

end

/-- **A plain value is decoded from any of its encodings**, whatever comes behind. -/
theorem decodeCborValue_of_encodes {v : Value} {o : Nat} {bs : Bytes} (henc : Encodes v bs)
    (hp : bs <+: bytes.drop o) (hplain : Plain v) :
    decodeCborValue bytes o = .ok (v, some (o + bs.length)) := by
  obtain ⟨item, hr, hvalue, hflawless⟩ := reads_of_encodes v henc hp
  exact decodeCborValue_iff.mpr ⟨item, hr, hvalue (hflawless hplain)⟩

mutual

/-- **An item whose value the bytes at its offset encode is flawless**, and ends with them. -/
theorem flawless_of_reads : ∀ (item : Item) {o : Nat} {e : Option Nat} {bs : Bytes},
    Reads bytes item (some o) e → Encodes (valueOf item) bs → bs <+: bytes.drop o →
    e = some (o + bs.length) ∧ Flawless item
  | .leaf h, o, e, bs, hr, henc, hp => by
    obtain ⟨o', ho, ht, hmajor, rfl⟩ := hr
    obtain rfl := Option.some.inj ho
    rw [valueOf] at henc
    rcases hmajor with hmajor | hmajor | ⟨hmajor, hinfo⟩
    · rw [if_pos hmajor] at henc
      cases hlen : lengthOf h with
      | none =>
        rw [hlen] at henc
        exact absurd henc (by rw [Encodes]; exact not_false)
      | some n =>
        rw [hlen] at henc
        dsimp only at henc
        rw [Encodes] at henc
        rcases henc with ⟨hn, hhead⟩ | ⟨-, hhead⟩
        · obtain ⟨hw, -, harg, rfl⟩ := IsHead.eq hhead hp ht
          obtain rfl : h.argument = n := Option.some.inj ((lengthOf_whole hw).symm.trans hlen)
          refine ⟨by rw [behind_whole hw], hw, fun _ => ?_, fun hne => by omega⟩
          omega
        · obtain ⟨-, hne, -⟩ := IsHead.eq hhead hp ht
          omega
    · rw [if_neg (by omega), if_pos hmajor] at henc
      cases hlen : lengthOf h with
      | none =>
        rw [hlen] at henc
        exact absurd henc (by rw [Encodes]; exact not_false)
      | some n =>
        rw [hlen] at henc
        dsimp only at henc
        rw [Encodes] at henc
        rcases henc with ⟨-, hhead⟩ | ⟨hn, hhead⟩
        · obtain ⟨-, hne, -⟩ := IsHead.eq hhead hp ht
          omega
        · obtain ⟨hw, -, harg, rfl⟩ := IsHead.eq hhead hp ht
          obtain rfl : h.argument = n := Option.some.inj ((lengthOf_whole hw).symm.trans hlen)
          refine ⟨by rw [behind_whole hw], hw, fun hne => by omega, fun _ => ?_⟩
          omega
    · rw [if_neg (by omega), if_neg (by omega)] at henc
      have hw : h.Whole := by
        have hlen := (Option.map_eq_some_iff.mp ht.1)
        obtain ⟨initial, -, rfl⟩ := hlen
        have hwidth : argumentWidth (initial.toNat % 32) = 0 := if_pos (by
          simp only [Head.info] at hinfo
          omega)
        refine ⟨by omega, ?_⟩
        show ((bytes.drop (o + 1)).take (argumentWidth (initial.toNat % 32))).length
          = argumentWidth (initial.toNat % 32)
        rw [hwidth]
        rfl
      have hone : bs.length = 1 := by
        rcases hinfo with hinfo | hinfo | hinfo <;> rw [hinfo] at henc
        · rw [if_pos rfl, Encodes] at henc
          rw [henc]
          rfl
        · rw [if_neg (by omega), if_pos rfl, Encodes] at henc
          rw [henc]
          rfl
        · rw [if_neg (by omega), if_neg (by omega), Encodes] at henc
          rw [henc]
          rfl
      refine ⟨?_, hw, fun hne => by omega, fun hne => by omega⟩
      have hwidth : argumentWidth h.info = 0 := if_pos (by omega)
      rw [hone, behind, hwidth]
  | .str h content, o, e, bs, hr, henc, hp => by
    obtain ⟨o', ho, ht, hmajor, hcontent, rfl⟩ := hr
    obtain rfl := Option.some.inj ho
    rw [valueOf] at henc
    rcases hmajor with hmajor | hmajor
    · rw [if_pos hmajor, Encodes] at henc
      obtain ⟨head, hhead, rfl⟩ := henc
      obtain ⟨hpre, -⟩ := append_prefix_drop.mp hp
      obtain ⟨hw, -, harg, rfl⟩ := IsHead.eq hhead hpre ht
      refine ⟨?_, hw, harg.symm, fun hne => by omega⟩
      rw [lengthOf_whole hw, Option.map_some, behind_whole hw, harg, List.length_append, Nat.add_assoc]
    · rw [if_neg (by omega), Encodes] at henc
      obtain ⟨hs, head, hhead, rfl⟩ := henc
      obtain ⟨hpre, ⟨rest, hrest⟩⟩ := append_prefix_drop.mp hp
      obtain ⟨hw, -, harg, rfl⟩ := IsHead.eq hhead hpre ht
      -- what is read is as long as the text's bytes, which stand in the same place
      have hsame : content = textEncode (textDecode content) := by
        rw [lengthOf_whole hw, Option.getD_some, behind_whole hw, ← hrest, harg, List.take_left]
          at hcontent
        exact hcontent
      have hlen : content.length = h.argument := by rw [harg, ← hsame]
      refine ⟨?_, hw, hlen, fun _ => ?_⟩
      · rw [lengthOf_whole hw, Option.map_some, behind_whole hw, harg, List.length_append,
          Nat.add_assoc]
      · rw [hsame]
        refine plainText_of_decode hs ?_
        rw [← hsame]
  | .arr h items, o, e, bs, hr, henc, hp => by
    obtain ⟨o', ho, ht, hmajor, -, hitems⟩ := hr
    obtain rfl := Option.some.inj ho
    rw [valueOf, Encodes] at henc
    obtain ⟨head, body, hhead, hall, rfl⟩ := henc
    obtain ⟨hpre, hbody⟩ := append_prefix_drop.mp hp
    obtain ⟨hw, -, -, rfl⟩ := IsHead.eq hhead hpre ht
    rw [behind_whole hw] at hitems
    obtain ⟨rfl, hf⟩ := flawlessAll_of_reads items hitems hall hbody
    exact ⟨by rw [List.length_append, Nat.add_assoc], hw, hf⟩
  | .map h entries, o, e, bs, hr, henc, hp => by
    obtain ⟨o', ho, ht, hmajor, hcount, hentries⟩ := hr
    obtain rfl := Option.some.inj ho
    rw [valueOf, Encodes] at henc
    obtain ⟨hkeys, head, body, hhead, hall, rfl⟩ := henc
    obtain ⟨hpre, hbody⟩ := append_prefix_drop.mp hp
    obtain ⟨hw, -, harg, rfl⟩ := IsHead.eq hhead hpre ht
    rw [lengthOf_whole hw, Option.getD_some, harg] at hcount
    -- the map has as many entries as were read, so that no key was there twice
    have hdistinct : DistinctKeys (entriesOf entries) := by
      refine distinct_of_length List.Pairwise.nil ?_
      rw [← hcount, length_entriesOf]
      exact (Nat.zero_add _).symm
    have hmap : (entriesOf entries).foldl setEntry [] = entriesOf entries :=
      foldl_setEntry_distinct hdistinct
    rw [hmap] at hall
    rw [behind_whole hw] at hentries
    obtain ⟨rfl, hf⟩ := flawlessEntries_of_reads entries hentries hall hbody
    exact ⟨by rw [List.length_append, Nat.add_assoc], hw, hf, hdistinct⟩

theorem flawlessAll_of_reads : ∀ (items : List Item) {o : Nat} {e : Option Nat} {bs : Bytes},
    ReadsAll bytes items (some o) e → EncodesAll (valuesOf items) bs → bs <+: bytes.drop o →
    e = some (o + bs.length) ∧ FlawlessAll items
  | [], o, e, bs, hr, henc, _ => by
    rw [valuesOf, EncodesAll] at henc
    subst henc
    exact ⟨hr, trivial⟩
  | item :: items, o, e, bs, hr, henc, hp => by
    obtain ⟨o₁, hitem, hitems⟩ := hr
    rw [valuesOf, EncodesAll] at henc
    obtain ⟨a, b, ha, hb, rfl⟩ := henc
    obtain ⟨hpa, hpb⟩ := append_prefix_drop.mp hp
    obtain ⟨rfl, hf⟩ := flawless_of_reads item hitem ha hpa
    obtain ⟨rfl, hf'⟩ := flawlessAll_of_reads items hitems hb hpb
    exact ⟨by rw [List.length_append, Nat.add_assoc], hf, hf'⟩

theorem flawlessEntries_of_reads : ∀ (entries : List (Item × Item)) {o : Nat} {e : Option Nat}
    {bs : Bytes}, ReadsEntries bytes entries (some o) e → EncodesEntries (entriesOf entries) bs →
    bs <+: bytes.drop o → e = some (o + bs.length) ∧ FlawlessEntries entries
  | [], o, e, bs, hr, henc, _ => by
    rw [entriesOf, EncodesEntries] at henc
    subst henc
    exact ⟨hr, trivial⟩
  | (key, val) :: entries, o, e, bs, hr, henc, hp => by
    obtain ⟨o₁, o₂, hkey, hval, hentries⟩ := hr
    rw [entriesOf, EncodesEntries] at henc
    obtain ⟨a, b, c, ha, hb, hc, rfl⟩ := henc
    obtain ⟨hpa, hp⟩ := append_prefix_drop.mp hp
    obtain ⟨hpb, hpc⟩ := append_prefix_drop.mp hp
    obtain ⟨rfl, hf⟩ := flawless_of_reads key hkey ha hpa
    obtain ⟨rfl, hf'⟩ := flawless_of_reads val hval hb hpb
    obtain ⟨rfl, hf''⟩ := flawlessEntries_of_reads entries hentries hc hpc
    refine ⟨?_, hf, hf', hf''⟩
    rw [List.length_append, List.length_append, Nat.add_assoc, Nat.add_assoc]

end

/-! ## The claim -/

/-- The decoder succeeds at the offset exactly on the definite-length encodings there, with the value
    they encode and the offset behind them. -/
def ParsesExactly (bytes : Bytes) (offset : Nat) : Prop :=
  ∀ (v : Value) (e : Option Nat), decodeCborValue bytes offset = .ok (v, e) ↔
    ∃ stop, e = some stop ∧ offset ≤ stop ∧ stop ≤ bytes.length ∧
      Encodes v ((bytes.drop offset).take (stop - offset))

/-- The bytes of an encoding stand within the array. -/
theorem slice_iff {o : Nat} {v : Value} {e : Option Nat} :
    (∃ stop, e = some stop ∧ o ≤ stop ∧ stop ≤ bytes.length ∧
      Encodes v ((bytes.drop o).take (stop - o))) ↔
    ∃ bs, e = some (o + bs.length) ∧ bs <+: bytes.drop o ∧ Encodes v bs := by
  constructor
  · rintro ⟨stop, rfl, hle, hin, henc⟩
    refine ⟨_, ?_, List.take_prefix _ _, henc⟩
    rw [List.length_take, List.length_drop]
    congr 1
    omega
  · rintro ⟨bs, rfl, hp, henc⟩
    obtain ⟨item, hr, -, -⟩ := reads_of_encodes v henc hp
    have hlt := reads_lt item hr
    have hle := hp.length_le
    rw [List.length_drop] at hle
    refine ⟨o + bs.length, rfl, Nat.le_add_right _ _, by omega, ?_⟩
    rw [Nat.add_sub_cancel_left, ← List.prefix_iff_eq_take.mp hp]
    exact henc

end

/-- **Where the decoder parses exactly CBOR.**  It ends on every array and offset: how many items it
    may nest does not matter once they are as many as the bytes.  And it succeeds on the
    definite-length encodings only, with their values, exactly when every item that can be read at the
    offset is flawless: its head and its string are all there, its integer is a double, its text is
    plain and the keys of its map are distinct, and so are those of all items inside. -/
theorem parses_exactly_iff (bytes : Bytes) (offset : Nat) :
    (∀ depth, bytes.length < offset + depth →
      decodeValue bytes depth (some offset) = decodeCborValue bytes offset) ∧
    (ParsesExactly bytes offset ↔ ∀ item e, Reads bytes item (some offset) e → Flawless item) := by
  refine ⟨fun depth hdepth => decodeValue_depth depth _ offset hdepth (by omega), ?_⟩
  constructor
  · intro hparses item e hr
    have hok := (hparses (valueOf item) e).mp (decodeCborValue_iff.mpr ⟨item, hr, rfl⟩)
    obtain ⟨bs, -, hp, henc⟩ := slice_iff.mp hok
    exact (flawless_of_reads item hr henc hp).2
  · intro hflawless v e
    rw [decodeCborValue_iff, slice_iff]
    constructor
    · rintro ⟨item, hr, rfl⟩
      exact encodes_of_reads item hr (hflawless item e hr)
    · rintro ⟨bs, rfl, hp, henc⟩
      obtain ⟨item, hr, hvalue, -⟩ := reads_of_encodes v henc hp
      exact ⟨item, hr, hvalue (hflawless item _ hr)⟩

/-- A map of one entry, and nothing behind it: what can be read there is its encoding, so it is
    flawless. -/
theorem parses_exactly_iff_demo : ParsesExactly [0xA1, 0x01, 0x02] 0 := by
  have henc : Encodes (.map [(.int 1, .int 2)]) [0xA1, 0x01, 0x02] := by
    refine ⟨List.pairwise_singleton _ _, [0xA1], [0x01, 0x02], ?_,
      ⟨[0x01], [0x02], [], Or.inl ⟨by decide, ?_⟩, Or.inl ⟨by decide, ?_⟩, rfl, rfl⟩, rfl⟩
    · exact ⟨⟨0xA1, []⟩, ⟨by decide, by decide⟩, by decide, by decide, rfl⟩
    · exact ⟨⟨0x01, []⟩, ⟨by decide, by decide⟩, by decide, by decide, rfl⟩
    · exact ⟨⟨0x02, []⟩, ⟨by decide, by decide⟩, by decide, by decide, rfl⟩
  refine (parses_exactly_iff [0xA1, 0x01, 0x02] 0).2.mpr fun item e hr => ?_
  have hread : decodeCborValue [0xA1, 0x01, 0x02] 0 = .ok (valueOf item, e) :=
    decodeCborValue_iff.mpr ⟨item, hr, rfl⟩
  have hvalue : valueOf item = .map [(.int 1, .int 2)] :=
    (Prod.mk.inj (Except.ok.inj (hread.symm.trans rfl))).1
  rw [← hvalue] at henc
  exact (flawless_of_reads item hr henc List.prefix_rfl).2

/-- A byte string of two bytes that is cut off after one is taken, and ends behind the array. -/
theorem truncated_string_accepted : ¬ ParsesExactly [0x42, 0x01] 0 := by
  intro hparses
  obtain ⟨stop, hstop, -, hin, -⟩ := (hparses (.bytes [0x01]) (some 3)).mp rfl
  obtain rfl := Option.some.inj hstop
  exact absurd hin (by decide)

end Dashboard

end Hundi
