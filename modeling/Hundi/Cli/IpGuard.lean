/-
  packages/cli/src/ip-guard.ts — which addresses the scanner refuses.

  The guard reads numbers off the front of a text and looks at nothing behind them.  So it lets pass
  what is no address at all as long as it starts like a public one, and of the IPv6 addresses that lead
  back to the host it knows `::1` and the dotted form `::ffff:d.d.d.d` only.  `Misread` is the exact
  extent of that.
-/
import Hundi.Lib.IpLiteral
import Hundi.Core.HexEncoding

namespace Hundi

open Js

/-! ## The guard -/

/-- The sign that `parseInt` takes off the front. -/
def takeSign : JsString → Int × JsString
  | 0x2D :: rest => (-1, rest)
  | 0x2B :: rest => (1, rest)
  | s => (1, s)

/-- `Number.parseInt(s, 10)`, `none` for `NaN`. -/
def parseIntDecimal (s : JsString) : Option Int :=
  let (sign, s) := takeSign (s.dropWhile isStrWhiteSpace)
  match s.takeWhile isDigit with
  | [] => none
  | ds => some (sign * (ofDigits ds : Int))

/-- The octet is `NaN` or out of range. -/
def badOctet (n : Option Int) : Bool :=
  match n with
  | none => true
  | some n => n < 0 || n > 255

/-- `isPrivateIpv4(address)`. -/
def isPrivateIpv4 (address : JsString) : Bool :=
  let parts := address.splitOn 0x2E
  if parts.length != 4 then true
  else
    let octets := parts.map parseIntDecimal
    if octets.any badOctet then true
    else
      match octets with
      | some a :: some b :: _ =>
        a == 127 || a == 10 || (a == 172 && 16 ≤ b && b ≤ 31) || (a == 192 && b == 168) ||
          (a == 169 && b == 254) || a == 0
      | _ => true

/-- `normalized.match(/^::ffff:(\d+\.\d+\.\d+\.\d+)$/)`: the group. -/
def mappedIpv4 (normalized : JsString) : Option JsString :=
  if (js "::ffff:").isPrefixOf normalized then
    let rest := normalized.drop 7
    if (rest.splitOn 0x2E).length = 4 && (rest.splitOn 0x2E).all isNumeral then some rest else none
  else none

/-- `isPrivateIpv6(address)`.  Of the letters only A to F matter to what follows, and no others are
    lowered to one of a to f. -/
def isPrivateIpv6 (address : JsString) : Bool :=
  let normalized := asciiLower address
  if normalized == js "::1" then true
  else
    match mappedIpv4 normalized with
    | some mapped => isPrivateIpv4 mapped
    | none =>
      let firstGroup := (normalized.splitOn 0x3A).headD []
      match parseIntHex firstGroup with
      | none => true
      | some firstHex =>
        if 0xFC00 ≤ firstHex && firstHex ≤ 0xFDFF then true
        else if 0xFE80 ≤ firstHex && firstHex ≤ 0xFEBF then true
        else false

/-- `isPrivateOrLoopbackIp(address)`. -/
def isPrivateOrLoopbackIp (address : JsString) : Bool :=
  if address.contains 0x3A then isPrivateIpv6 address else isPrivateIpv4 address

example : isPrivateOrLoopbackIp (js "169.254.169.254") = true := by rfl
example : isPrivateOrLoopbackIp (js "::FFFF:127.0.0.1") = true := by rfl
example : isPrivateOrLoopbackIp (js "8.8.8.8") = false := by rfl

/-! ## What it misreads -/

/-- Four parts, and a number from 0 to 255 on the front of each, the first two of a public address; but
    not every part is a number only. -/
def MisreadV4 (s : JsString) : Prop :=
  ∃ ns : List Nat, (s.splitOn 0x2E).map parseIntDecimal = ns.map (fun n : Nat => some (n : Int)) ∧
    ns.length = 4 ∧ (∀ n ∈ ns, n ≤ 255) ∧ privateV4 (ns.getD 0 0) (ns.getD 1 0) = false ∧
    ∃ part ∈ s.splitOn 0x2E, isNumeral part = false

/-- The text up to the first colon starts with a hexadecimal number of no local range, and the whole is
    no IPv6 address, or one that loops back. -/
def MisreadV6 (s : JsString) : Prop :=
  ∃ n, parseIntHex (((asciiLower s).splitOn 0x3A).headD []) = some n ∧ localGroup n = false ∧
    ∀ groups, ipv6Literal s = some groups → loopsBack groups = true

/-- What the guard lets pass and should not. -/
def Misread (s : JsString) : Prop :=
  (0x3A ∉ s ∧ MisreadV4 s) ∨ (0x3A ∈ s ∧ MisreadV6 s)

/-- What is asked of the guard: no text that is no address, and no private address, passes. -/
def Guarded (s : JsString) : Prop :=
  ((∀ address, ¬ Denotes s address) → isPrivateOrLoopbackIp s = true) ∧
    ∀ address, Denotes s address → IsPrivate address → isPrivateOrLoopbackIp s = true

/-! ## IPv4 -/

/-- No digit is white space. -/
theorem isDigit_bounds {c : UInt16} : isDigit c = true ↔ 0x30 ≤ c.toNat ∧ c.toNat ≤ 0x39 := by
  rw [isDigit, Bool.and_eq_true, decide_eq_true_eq, decide_eq_true_eq]

/-- A text that starts with neither white space nor a sign is read from its first character on. -/
theorem takeSign_plain {c : UInt16} {s : JsString} (hspace : isStrWhiteSpace c = false)
    (hminus : c ≠ 0x2D) (hplus : c ≠ 0x2B) :
    takeSign ((c :: s).dropWhile isStrWhiteSpace) = (1, c :: s) := by
  rw [List.dropWhile_cons_of_neg (by rw [hspace]; exact Bool.false_ne_true)]
  unfold takeSign
  split
  · rename_i heq
    exact absurd (List.cons.inj heq).1 hminus
  · rename_i heq
    exact absurd (List.cons.inj heq).1 hplus
  · rfl

/-- A numeral is read as the number it is. -/
theorem parseIntDecimal_numeral {s : JsString} (h : isNumeral s = true) :
    parseIntDecimal s = some (ofDigits s : Int) := by
  obtain ⟨hne, hdigits⟩ := isNumeral_iff.mp h
  obtain ⟨c, rest, rfl⟩ := List.exists_cons_of_ne_nil hne
  have hc := isDigit_bounds.mp (hdigits c List.mem_cons_self)
  have hspace : isStrWhiteSpace c = false := by
    rw [← Bool.not_eq_true]
    intro hspace
    have := range_of_space hspace
    omega
  have htake : (c :: rest).takeWhile isDigit = c :: rest := List.takeWhile_eq_self_iff.mpr hdigits
  rw [parseIntDecimal, takeSign_plain hspace (by rintro rfl; exact absurd hc (by decide))
    (by rintro rfl; exact absurd hc (by decide))]
  dsimp only
  rw [htake]
  exact congrArg some (Int.one_mul _)

/-- Octets that pass are numbers from 0 to 255. -/
theorem octets_of_good {octets : List (Option Int)} (h : octets.any badOctet = false) :
    ∃ ns : List Nat, octets = ns.map (fun n : Nat => some (n : Int)) ∧ ∀ n ∈ ns, n ≤ 255 := by
  induction octets with
  | nil => exact ⟨[], rfl, fun n hn => absurd hn List.not_mem_nil⟩
  | cons octet octets ih =>
    rw [List.any_cons, Bool.or_eq_false_iff] at h
    obtain ⟨ns, rfl, hle⟩ := ih h.2
    cases octet with
    | none => exact absurd h.1 (by simp [badOctet])
    | some n =>
      have hn : ¬ n < 0 ∧ ¬ n > 255 := by
        have := h.1
        rwa [badOctet, Bool.or_eq_false_iff, decide_eq_false_iff_not, decide_eq_false_iff_not] at this
      refine ⟨n.toNat :: ns, ?_, fun m hm => ?_⟩
      · rw [List.map_cons, Int.toNat_of_nonneg (by omega)]
      · rcases List.mem_cons.mp hm with rfl | hm
        · omega
        · exact hle m hm

theorem good_of_octets {ns : List Nat} (h : ∀ n ∈ ns, n ≤ 255) :
    (ns.map fun n : Nat => some (n : Int)).any badOctet = false := by
  rw [List.any_eq_false]
  intro octet hoctet
  obtain ⟨n, hn, rfl⟩ := List.mem_map.mp hoctet
  have hle := h n hn
  rw [badOctet, Bool.not_eq_true, Bool.or_eq_false_iff, decide_eq_false_iff_not,
    decide_eq_false_iff_not]
  omega

/-- The code's ranges are the private ones. -/
theorem privateV4_cast (a b : Nat) :
    ((a : Int) == 127 || (a : Int) == 10 || ((a : Int) == 172 && 16 ≤ (b : Int) && (b : Int) ≤ 31) ||
      ((a : Int) == 192 && (b : Int) == 168) || ((a : Int) == 169 && (b : Int) == 254) || (a : Int) == 0)
      = privateV4 a b := by
  rw [Bool.eq_iff_iff, privateV4]
  simp only [Bool.or_eq_true, Bool.and_eq_true, beq_iff_eq, decide_eq_true_eq]
  omega

/-- **What passes for an IPv4 address**: four parts with an octet on the front, of a public address. -/
theorem isPrivateIpv4_eq_false {s : JsString} :
    isPrivateIpv4 s = false ↔
      ∃ ns : List Nat, (s.splitOn 0x2E).map parseIntDecimal = ns.map (fun n : Nat => some (n : Int)) ∧
        ns.length = 4 ∧ (∀ n ∈ ns, n ≤ 255) ∧ privateV4 (ns.getD 0 0) (ns.getD 1 0) = false := by
  rw [isPrivateIpv4]
  generalize s.splitOn 0x2E = parts
  dsimp only
  by_cases hlen : parts.length = 4
  · rw [if_neg (by rw [bne_iff_ne, not_not]; exact hlen)]
    constructor
    · intro h
      split at h
      · exact absurd h (by simp)
      · rename_i hgood
        obtain ⟨ns, hns, hle⟩ := octets_of_good (Bool.not_eq_true _ ▸ hgood)
        have hcount : ns.length = 4 := by
          have := congrArg List.length hns
          rw [List.length_map, List.length_map] at this
          omega
        refine ⟨ns, hns, hcount, hle, ?_⟩
        rw [hns] at h
        match ns, hcount, h with
        | [a, b, c, d], _, h =>
          rw [← privateV4_cast]
          exact h
    · rintro ⟨ns, hns, hcount, hle, hpublic⟩
      rw [hns, if_neg (by rw [good_of_octets hle]; exact Bool.false_ne_true)]
      match ns, hcount, hpublic with
      | [a, b, c, d], _, hpublic =>
        refine Eq.trans ?_ hpublic
        exact privateV4_cast a b
  · rw [if_pos (bne_iff_ne.mpr hlen)]
    refine ⟨fun h => absurd h (by simp), ?_⟩
    rintro ⟨ns, hns, hcount, -⟩
    have := congrArg List.length hns
    rw [List.length_map, List.length_map] at this
    omega

/-- Where every part is a numeral, what passes is an address. -/
theorem ipv4Literal_of_parts {s : JsString} {ns : List Nat}
    (hns : (s.splitOn 0x2E).map parseIntDecimal = ns.map (fun n : Nat => some (n : Int)))
    (hcount : ns.length = 4) (hle : ∀ n ∈ ns, n ≤ 255)
    (hnums : ∀ part ∈ s.splitOn 0x2E, isNumeral part = true) : ipv4Literal s = some ns := by
  refine ipv4Literal_iff.mpr ⟨hcount, hle, hnums, ?_⟩
  have hvalues : (s.splitOn 0x2E).map parseIntDecimal
      = ((s.splitOn 0x2E).map ofDigits).map fun n : Nat => some (n : Int) := by
    rw [List.map_map]
    exact List.map_congr_left fun part hpart => parseIntDecimal_numeral (hnums part hpart)
  have hinj : Function.Injective fun n : Nat => some (n : Int) := fun a b h =>
    Int.ofNat_inj.mp (Option.some.inj h)
  exact List.map_injective_iff.mpr hinj (hns.symm.trans hvalues)

theorem parts_of_ipv4Literal {s : JsString} {ns : List Nat} (h : ipv4Literal s = some ns) :
    (s.splitOn 0x2E).map parseIntDecimal = ns.map (fun n : Nat => some (n : Int)) := by
  obtain ⟨-, -, hnums, rfl⟩ := ipv4Literal_iff.mp h
  rw [List.map_map]
  exact List.map_congr_left fun part hpart => parseIntDecimal_numeral (hnums part hpart)

/-- The octets a text is read as are determined. -/
theorem octets_unique {s : JsString} {ms ns : List Nat}
    (hms : (s.splitOn 0x2E).map parseIntDecimal = ms.map (fun n : Nat => some (n : Int)))
    (hns : (s.splitOn 0x2E).map parseIntDecimal = ns.map (fun n : Nat => some (n : Int))) : ms = ns := by
  have hinj : Function.Injective fun n : Nat => some (n : Int) := fun a b h =>
    Int.ofNat_inj.mp (Option.some.inj h)
  exact List.map_injective_iff.mpr hinj (hms.symm.trans hns)

/-- **The guard on a text without a colon.** -/
theorem guarded_v4 {s : JsString} (hcolon : 0x3A ∉ s) : Guarded s ↔ ¬ MisreadV4 s := by
  have hguard : isPrivateOrLoopbackIp s = isPrivateIpv4 s := by
    rw [isPrivateOrLoopbackIp, if_neg (by rw [List.contains_iff_mem]; exact hcolon)]
  have hv6 : ∀ groups, ¬ Denotes s (.v6 groups) := fun groups h => hcolon (colon_of_ipv6Literal h)
  rw [Guarded, hguard]
  constructor
  · rintro ⟨hunknown, hprivate⟩ ⟨ns, hns, hcount, hle, hpublic, part, hpart, hbad⟩
    have hpasses := isPrivateIpv4_eq_false.mpr ⟨ns, hns, hcount, hle, hpublic⟩
    have hno : ∀ address, ¬ Denotes s address := by
      intro address h
      cases address with
      | v4 octets =>
        have hnums := (ipv4Literal_iff.mp h).2.2.1
        exact absurd (hnums part hpart) (by rw [hbad]; exact Bool.false_ne_true)
      | v6 groups => exact hv6 groups h
    exact absurd (hunknown hno) (by rw [hpasses]; exact Bool.false_ne_true)
  · intro hread
    constructor
    · intro hno
      by_contra hpasses
      rw [Bool.not_eq_true] at hpasses
      obtain ⟨ns, hns, hcount, hle, hpublic⟩ := isPrivateIpv4_eq_false.mp hpasses
      refine hread ⟨ns, hns, hcount, hle, hpublic, ?_⟩
      by_contra hnums
      refine hno (.v4 ns) (ipv4Literal_of_parts hns hcount hle fun part hpart => ?_)
      by_contra hbad
      exact hnums ⟨part, hpart, Bool.not_eq_true _ ▸ hbad⟩
    · intro address hdenotes hprivate
      by_contra hpasses
      rw [Bool.not_eq_true] at hpasses
      obtain ⟨ns, hns, -, -, hpublic⟩ := isPrivateIpv4_eq_false.mp hpasses
      cases address with
      | v4 octets =>
        obtain rfl := octets_unique (parts_of_ipv4Literal hdenotes) hns
        exact absurd (hprivate.symm.trans hpublic) (by simp)
      | v6 groups => exact hv6 groups hdenotes

/-! ## Letters and hexadecimal digits -/

theorem hexValue_eq (c : UInt16) : Js.hexValue c = Hundi.hexValue c := rfl

/-- A group is read as the number it is, in either case. -/
theorem parseIntHex_group {s : JsString} {n : Nat} (h : hexGroup s = some n) :
    parseIntHex (asciiLower s) = some (n : Int) := by
  rw [hexGroup] at h
  split at h
  · rename_i hshape
    simp only [Bool.and_eq_true, Bool.not_eq_true', List.isEmpty_eq_false_iff, List.all_eq_true] at hshape
    obtain ⟨⟨hne, -⟩, hdigits⟩ := hshape
    obtain rfl := Option.some.inj h
    have hvalues : (s.map lowerUnit).filterMap Hundi.hexValue = s.filterMap Js.hexValue := by
      rw [List.filterMap_map]
      refine List.filterMap_congr fun c _ => ?_
      rw [hexValue_eq]
      exact hexValue_lowerUnit c
    rw [asciiLower_eq, parseIntHex_digits, hvalues]
    · rfl
    · intro hnil
      exact hne (List.map_eq_nil_iff.mp hnil)
    · intro c hc
      obtain ⟨d, hd, rfl⟩ := List.mem_map.mp hc
      rw [hexValue_lowerUnit, ← hexValue_eq]
      exact hdigits d hd
  · exact absurd h (by simp)

/-- The text before the first colon, in either case. -/
theorem firstGroup_lower (s : JsString) :
    ((asciiLower s).splitOn 0x3A).headD [] = asciiLower ((s.splitOn 0x3A).headD []) := by
  rw [head_splitOn, head_splitOn, asciiLower_eq, asciiLower_eq, List.takeWhile_map]
  congr 2
  funext c
  show (lowerUnit c != 0x3A) = (c != 0x3A)
  rw [Bool.eq_iff_iff, bne_iff_ne, bne_iff_ne, not_iff_not]
  constructor
  · intro h
    exact eq_of_lowerUnit h (by decide)
  · rintro rfl
    rfl

/-! ## IPv6 -/

theorem parseIntHex_nil : parseIntHex [] = none := rfl

/-- A text that starts with a colon has nothing before it. -/
theorem firstGroup_colon {s : JsString} (h : s.head? = some 0x3A) :
    (s.splitOn 0x3A).headD [] = [] := by
  rw [head_splitOn]
  cases s with
  | nil => rfl
  | cons c s =>
    obtain rfl := Option.some.inj h
    rfl

/-- **What passes for an IPv6 address.** -/
theorem isPrivateIpv6_eq_false {s : JsString} :
    isPrivateIpv6 s = false ↔
      (∃ mapped, mappedIpv4 (asciiLower s) = some mapped ∧ isPrivateIpv4 mapped = false) ∨
        ∃ n, parseIntHex (((asciiLower s).splitOn 0x3A).headD []) = some n ∧ localGroup n = false := by
  rw [isPrivateIpv6]
  generalize asciiLower s = normalized
  dsimp only
  constructor
  · intro h
    split at h
    · exact absurd h (by simp)
    · split at h
      · rename_i mapped hmapped
        exact Or.inl ⟨mapped, hmapped, h⟩
      · split at h
        · exact absurd h (by simp)
        · rename_i n hn
          refine Or.inr ⟨n, hn, ?_⟩
          rw [localGroup, Bool.or_eq_false_iff]
          split at h
          · exact absurd h (by simp)
          · rename_i hunique
            split at h
            · exact absurd h (by simp)
            · rename_i hlink
              exact ⟨Bool.not_eq_true _ ▸ hunique, Bool.not_eq_true _ ▸ hlink⟩
  · rintro (⟨mapped, hmapped, hpublic⟩ | ⟨n, hn, hlocal⟩)
    · rw [if_neg, hmapped]
      · exact hpublic
      · rw [beq_iff_eq]
        rintro rfl
        have hnone : mappedIpv4 (js "::1") = none := rfl
        exact absurd (hnone.symm.trans hmapped) (by simp)
    · have hcolon : normalized.head? ≠ some 0x3A := by
        intro hcolon
        rw [firstGroup_colon hcolon, parseIntHex_nil] at hn
        exact absurd hn (by simp)
      have hmapped : mappedIpv4 normalized = none := by
        rw [mappedIpv4, if_neg]
        intro hstarts
        obtain ⟨rest, rfl⟩ := List.isPrefixOf_iff_prefix.mp hstarts
        exact hcolon rfl
      rw [localGroup, Bool.or_eq_false_iff] at hlocal
      rw [if_neg, hmapped]
      · dsimp only
        rw [hn]
        dsimp only
        rw [hlocal.1, hlocal.2]
        rfl
      · rw [beq_iff_eq]
        rintro rfl
        exact hcolon rfl

/-- Four letters F are the group FFFF. -/
theorem hexGroup_ffff {a b c d : UInt16} (ha : lowerUnit a = 0x66) (hb : lowerUnit b = 0x66)
    (hc : lowerUnit c = 0x66) (hd : lowerUnit d = 0x66) : hexGroup [a, b, c, d] = some 0xFFFF := by
  have hf : ∀ x, lowerUnit x = 0x66 → Js.hexValue x = some 15 := by
    intro x hx
    rw [hexValue_eq, ← hexValue_lowerUnit, hx]
    rfl
  have hvalues : [a, b, c, d].filterMap Js.hexValue = [15, 15, 15, 15] := by
    rw [List.filterMap_cons_some (hf a ha), List.filterMap_cons_some (hf b hb),
      List.filterMap_cons_some (hf c hc), List.filterMap_cons_some (hf d hd), List.filterMap_nil]
  rw [hexGroup, if_pos, ofHexDigits, hvalues]
  · rfl
  · simp [hf a ha, hf b hb, hf c hc, hf d hd]

/-- The character is no colon if it lowers to the letter F. -/
theorem ne_colon_of_f {a : UInt16} (ha : lowerUnit a = 0x66) : a ≠ 0x3A := by
  rintro rfl
  exact absurd ha (by decide)

/-- A mapped address with the prefix in any case. -/
theorem ipv6Literal_mapped {a b c d : UInt16} {tail : JsString} {w x y z : Nat}
    (ha : lowerUnit a = 0x66) (hb : lowerUnit b = 0x66) (hc : lowerUnit c = 0x66)
    (hd : lowerUnit d = 0x66) (ht : ipv4Literal tail = some [w, x, y, z]) :
    ipv6Literal (0x3A :: 0x3A :: ([a, b, c, d] ++ 0x3A :: tail))
      = some [0, 0, 0, 0, 0, 0xFFFF, w * 256 + x, y * 256 + z] := by
  have hfirst : (0x3A : UInt16) ∉ [a, b, c, d] := by
    intro h
    simp only [List.mem_cons, List.not_mem_nil, or_false] at h
    rcases h with h | h | h | h
    · exact ne_colon_of_f ha h.symm
    · exact ne_colon_of_f hb h.symm
    · exact ne_colon_of_f hc h.symm
    · exact ne_colon_of_f hd h.symm
  have htail : (0x3A : UInt16) ∉ tail := by
    intro h
    rcases mem_ipv4Literal ht h with h | h <;> exact absurd h (by decide)
  -- a dotted tail is no hexadecimal group: it has a dot
  have hnohex : hexGroup tail = none := by
    have hdot : (0x2E : UInt16) ∈ tail := by
      by_contra hdot
      have hlen := (ipv4Literal_iff.mp ht).2.2.2
      rw [List.splitOn_eq_singleton hdot] at hlen
      exact absurd (congrArg List.length hlen) (by simp)
    rw [hexGroup, if_neg]
    rw [Bool.and_eq_true, List.all_eq_true]
    rintro ⟨-, hall⟩
    exact absurd (hall _ hdot) (by decide)
  have hlast : lastGroups tail = some [w * 256 + x, y * 256 + z] := by
    rw [lastGroups, hnohex, ht]
  have hlow : lowGroups ([a, b, c, d] ++ 0x3A :: tail)
      = some [0xFFFF, w * 256 + x, y * 256 + z] := by
    rw [lowGroups, if_neg (by simp), List.splitOn_append_cons_self, List.splitOn_eq_singleton hfirst,
      List.splitOn_eq_singleton htail]
    show (hexGroup [a, b, c, d] >>= fun n => lastGroups tail >>= fun ns => some (n :: ns)) = _
    rw [hexGroup_ffff ha hb hc hd, hlast]
    rfl
  have hsplit : splitCompressed (0x3A :: 0x3A :: ([a, b, c, d] ++ 0x3A :: tail))
      = some ([], [a, b, c, d] ++ 0x3A :: tail) := rfl
  rw [ipv6Literal, hsplit]
  dsimp only
  rw [hlow]
  rfl

/-- **The mapped form that passes is an address**, of the public IPv4 address it names. -/
theorem literal_of_mapped {s mapped : JsString} (h : mappedIpv4 (asciiLower s) = some mapped)
    (hpublic : isPrivateIpv4 mapped = false) :
    ∃ a b c d, ipv6Literal s = some [0, 0, 0, 0, 0, 0xFFFF, a * 256 + b, c * 256 + d] ∧
      b ≤ 255 ∧ privateV4 a b = false := by
  rw [mappedIpv4] at h
  split at h
  · rename_i hstarts
    obtain ⟨rest, hrest⟩ := List.isPrefixOf_iff_prefix.mp hstarts
    have hdrop : (asciiLower s).drop 7 = rest := by
      rw [← hrest]
      rfl
    rw [hdrop] at h
    dsimp only at h
    split at h
    · rename_i hshape
      obtain rfl := Option.some.inj h
      rw [Bool.and_eq_true, decide_eq_true_eq, List.all_eq_true] at hshape
      obtain ⟨ns, hns, hcount, hle, hns'⟩ := isPrivateIpv4_eq_false.mp hpublic
      have hv4 := ipv4Literal_of_parts hns hcount hle hshape.2
      rw [asciiLower_eq] at hrest
      obtain ⟨front, tail, rfl, hfront, htail⟩ := List.map_eq_append_iff.mp hrest.symm
      -- digits and dots are in no case
      have hsame : tail = rest := by
        rw [← htail]
        refine (List.map_id tail).symm.trans (List.map_congr_left fun c hc => ?_)
        have hin : lowerUnit c ∈ rest := htail ▸ List.mem_map_of_mem hc
        refine eq_of_lowerUnit rfl ?_
        rcases mem_ipv4Literal hv4 hin with hdigit | hdot
        · have := isDigit_bounds.mp hdigit
          omega
        · rw [hdot]
          decide
      have hseven : front.length = 7 := by
        have := congrArg List.length hfront
        rwa [List.length_map] at this
      match ns, hcount, front, hseven, hfront with
      | [a, b, c, d], _, [x₀, x₁, x₂, x₃, x₄, x₅, x₆], _, hfront =>
        have hunits : [lowerUnit x₀, lowerUnit x₁, lowerUnit x₂, lowerUnit x₃, lowerUnit x₄, lowerUnit x₅,
            lowerUnit x₆] = [0x3A, 0x3A, 0x66, 0x66, 0x66, 0x66, 0x3A] := hfront
        simp only [List.cons.injEq, and_true] at hunits
        obtain ⟨h₀, h₁, h₂, h₃, h₄, h₅, h₆⟩ := hunits
        obtain rfl := eq_of_lowerUnit h₀ (by decide)
        obtain rfl := eq_of_lowerUnit h₁ (by decide)
        obtain rfl := eq_of_lowerUnit h₆ (by decide)
        rw [← hsame] at hv4
        exact ⟨a, b, c, d, ipv6Literal_mapped h₂ h₃ h₄ h₅ hv4, hle b (by simp), hns'⟩
    · exact absurd h (by simp)
  · exact absurd h (by simp)

/-- **The guard on a text with a colon.** -/
theorem guarded_v6 {s : JsString} (hcolon : 0x3A ∈ s) : Guarded s ↔ ¬ MisreadV6 s := by
  have hguard : isPrivateOrLoopbackIp s = isPrivateIpv6 s := by
    rw [isPrivateOrLoopbackIp, if_pos (by rw [List.contains_iff_mem]; exact hcolon)]
  have hv4 : ∀ octets, ¬ Denotes s (.v4 octets) := by
    intro octets h
    rcases mem_ipv4Literal h hcolon with h | h <;> exact absurd h (by decide)
  rw [Guarded, hguard]
  constructor
  · rintro ⟨hunknown, hprivate⟩ ⟨n, hn, hlocal, hgroups⟩
    have hpasses := isPrivateIpv6_eq_false.mpr (Or.inr ⟨n, hn, hlocal⟩)
    cases hliteral : ipv6Literal s with
    | none =>
      have hno : ∀ address, ¬ Denotes s address := by
        intro address h
        cases address with
        | v4 octets => exact hv4 octets h
        | v6 groups => exact absurd (hliteral.symm.trans h) (by simp)
      exact absurd (hunknown hno) (by rw [hpasses]; exact Bool.false_ne_true)
    | some groups =>
      have hloops := hprivate (.v6 groups) hliteral (Or.inl (hgroups groups hliteral))
      exact absurd hloops (by rw [hpasses]; exact Bool.false_ne_true)
  · intro hread
    -- what passes is an address, and its groups lead nowhere inside
    have hpublic : isPrivateIpv6 s = false →
        ∃ groups, ipv6Literal s = some groups ∧ ¬ IsPrivate (.v6 groups) := by
      intro hpasses
      rcases isPrivateIpv6_eq_false.mp hpasses with ⟨mapped, hmapped, hv4public⟩ | ⟨n, hn, hlocal⟩
      · obtain ⟨a, b, c, d, hliteral, hb, hab⟩ := literal_of_mapped hmapped hv4public
        refine ⟨_, hliteral, ?_⟩
        rintro (hloops | hlocal)
        · change privateV4 ((a * 256 + b) / 256) ((a * 256 + b) % 256) = true at hloops
          rw [show (a * 256 + b) / 256 = a by omega, show (a * 256 + b) % 256 = b by omega, hab] at hloops
          exact Bool.false_ne_true hloops
        · have hzero : localGroup ((0 : Nat) : Int) = false := rfl
          exact Bool.false_ne_true (hzero.symm.trans hlocal)
      · have hsome : ∃ groups, ipv6Literal s = some groups ∧ loopsBack groups = false := by
          by_contra hnone
          refine hread ⟨n, hn, hlocal, fun groups hliteral => ?_⟩
          by_contra hloops
          exact hnone ⟨groups, hliteral, Bool.not_eq_true _ ▸ hloops⟩
        obtain ⟨groups, hliteral, hloops⟩ := hsome
        refine ⟨groups, hliteral, ?_⟩
        have hhead : s.head? ≠ some 0x3A := by
          intro hhead
          rw [firstGroup_lower, firstGroup_colon hhead] at hn
          exact absurd (parseIntHex_nil.symm.trans hn) (by simp)
        have hgroup := parseIntHex_group (first_group hliteral hhead)
        rw [← firstGroup_lower, hn] at hgroup
        rintro (h | h)
        · exact absurd h (by rw [hloops]; exact Bool.false_ne_true)
        · rw [← Option.some.inj hgroup, hlocal] at h
          exact Bool.false_ne_true h
    constructor
    · intro hno
      by_contra hpasses
      obtain ⟨groups, hliteral, -⟩ := hpublic (Bool.not_eq_true _ ▸ hpasses)
      exact hno (.v6 groups) hliteral
    · intro address hdenotes hprivate
      by_contra hpasses
      obtain ⟨groups, hliteral, hnot⟩ := hpublic (Bool.not_eq_true _ ▸ hpasses)
      cases address with
      | v4 octets => exact hv4 octets hdenotes
      | v6 groups' =>
        obtain rfl := Option.some.inj (hliteral.symm.trans hdenotes)
        exact hnot hprivate

/-- **Where the guard is complete.**  On a text it refuses whatever is no address and every private
    address, in every spelling, exactly if it does not misread it: as four octets that are not all
    numerals, or as a group in front of a colon where the whole is no IPv6 address or one that loops
    back. -/
theorem guard_complete_iff (s : JsString) : Guarded s ↔ ¬ Misread s := by
  by_cases hcolon : 0x3A ∈ s
  · rw [guarded_v6 hcolon, Misread, not_iff_not]
    exact ⟨fun h => Or.inr ⟨hcolon, h⟩, fun h => h.elim (fun h => absurd hcolon h.1) And.right⟩
  · rw [guarded_v4 hcolon, Misread, not_iff_not]
    exact ⟨fun h => Or.inl ⟨hcolon, h⟩, fun h => h.elim And.right fun h => absurd h.1 hcolon⟩

/-- The loopback address with all its zeros written out passes. -/
theorem expanded_loopback_passes : ¬ Guarded (js "0:0:0:0:0:0:0:1") := by
  rintro ⟨-, hprivate⟩
  have hflagged := hprivate (.v6 [0, 0, 0, 0, 0, 0, 0, 1]) rfl (Or.inl rfl)
  exact absurd hflagged (by decide)

end Hundi
