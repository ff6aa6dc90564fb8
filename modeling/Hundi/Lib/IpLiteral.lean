/-
  The text forms of IP addresses.

  * `ipv4Literal` — four decimal octets with dots between them;
  * `ipv6Literal` — the forms of RFC 4291 (2.2): eight groups of one to four hexadecimal digits in any
                    case, `::` for one or more groups of zeros, and the last two groups as an IPv4
                    address.

  `IsPrivate` lists the ranges that lead back into a network: loopback, the private and the link-local
  ones, and the IPv4-mapped forms of those of IPv4.
-/
import Hundi.Lib.JsonParse

namespace Js

/-! ## Numerals -/

/-- A nonempty run of digits. -/
def isNumeral (s : JsString) : Bool := !s.isEmpty && s.all isDigit

/-- An octet: digits that denote at most 255. -/
def octet (s : JsString) : Option Nat :=
  if isNumeral s && ofDigits s ≤ 255 then some (ofDigits s) else none

/-- The number that hexadecimal digits denote. -/
def ofHexDigits (s : JsString) : Nat := (s.filterMap hexValue).foldl (fun n d => n * 16 + d) 0

/-- A group: one to four hexadecimal digits. -/
def hexGroup (s : JsString) : Option Nat :=
  if !s.isEmpty && s.length ≤ 4 && s.all fun c => (hexValue c).isSome then some (ofHexDigits s) else none

/-! ## Addresses -/

/-- `d.d.d.d`. -/
def ipv4Literal (s : JsString) : Option (List Nat) :=
  if (s.splitOn 0x2E).length = 4 then (s.splitOn 0x2E).mapM octet else none

/-- The last piece of an IPv6 address: a group, or an IPv4 address for two groups. -/
def lastGroups (s : JsString) : Option (List Nat) :=
  match hexGroup s with
  | some n => some [n]
  | none =>
    match ipv4Literal s with
    | some [a, b, c, d] => some [a * 256 + b, c * 256 + d]
    | _ => none

/-- The groups of the pieces between colons. -/
def groups : List JsString → Option (List Nat)
  | [] => some []
  | [last] => lastGroups last
  | piece :: rest => do
    let n ← hexGroup piece
    let ns ← groups rest
    return n :: ns

/-- The text on both sides of the first `::`. -/
def splitCompressed : JsString → Option (JsString × JsString)
  | 0x3A :: 0x3A :: rest => some ([], rest)
  | c :: rest => (splitCompressed rest).map fun p => (c :: p.1, p.2)
  | [] => none

/-- The groups in front of `::`, if any. -/
def highGroups (left : JsString) : Option (List Nat) :=
  if left = [] then some [] else (left.splitOn 0x3A).mapM hexGroup

/-- The groups behind `::`, if any. -/
def lowGroups (right : JsString) : Option (List Nat) :=
  if right = [] then some [] else groups (right.splitOn 0x3A)

/-- An IPv6 address in any of its forms, as its eight groups. -/
def ipv6Literal (s : JsString) : Option (List Nat) :=
  match splitCompressed s with
  | none => (groups (s.splitOn 0x3A)).filter fun ns => ns.length = 8
  | some (left, right) => do
    let high ← highGroups left
    let low ← lowGroups right
    if high.length + low.length ≤ 7 then
      some (high ++ List.replicate (8 - (high.length + low.length)) 0 ++ low)
    else none

inductive Address where
  | v4 (octets : List Nat)
  | v6 (groups : List Nat)

/-- The text is a literal of the address. -/
def Denotes (s : JsString) : Address → Prop
  | .v4 octets => ipv4Literal s = some octets
  | .v6 groups => ipv6Literal s = some groups

/-- 127/8, 10/8, 172.16/12, 192.168/16, 169.254/16 and 0/8, by the first two octets. -/
def privateV4 (a b : Nat) : Bool :=
  a == 127 || a == 10 || (a == 172 && 16 ≤ b && b ≤ 31) || (a == 192 && b == 168) ||
    (a == 169 && b == 254) || a == 0

/-- `::1`, and the IPv4-mapped form of a private IPv4 address. -/
def loopsBack : List Nat → Bool
  | [0, 0, 0, 0, 0, 0, 0, 1] => true
  | [0, 0, 0, 0, 0, 0xFFFF, high, _] => privateV4 (high / 256) (high % 256)
  | _ => false

/-- fc00::/7 and fe80::/10, by the first group. -/
def localGroup (n : Int) : Bool := (0xFC00 ≤ n && n ≤ 0xFDFF) || (0xFE80 ≤ n && n ≤ 0xFEBF)

/-- The ranges that lead back into a network. -/
def IsPrivate : Address → Prop
  | .v4 octets => privateV4 (octets.getD 0 0) (octets.getD 1 0) = true
  | .v6 groups => loopsBack groups = true ∨ localGroup (groups.getD 0 0) = true

/-! ## Reading piece by piece -/

theorem mapM_eq_some_iff {α β : Type} {f : α → Option β} {xs : List α} {ys : List β} :
    xs.mapM f = some ys ↔ xs.map f = ys.map some := by
  induction xs generalizing ys with
  | nil =>
    constructor
    · intro h
      obtain rfl := Option.some.inj h
      rfl
    · intro h
      obtain rfl := List.map_eq_nil_iff.mp h.symm
      rfl
  | cons x xs ih =>
    rw [List.mapM_cons, List.map_cons]
    cases hx : f x with
    | none =>
      refine ⟨fun h => absurd h (by simp), fun h => ?_⟩
      cases ys with
      | nil => exact absurd h (by simp)
      | cons y ys => exact absurd (List.cons.inj h).1 (by simp)
    | some y =>
      cases hxs : xs.mapM f with
      | none =>
        refine ⟨fun h => absurd h (by simp), fun h => ?_⟩
        cases ys with
        | nil => exact absurd h (by simp)
        | cons y' ys => exact absurd (hxs.symm.trans (ih.mpr (List.cons.inj h).2)) (by simp)
      | some zs =>
        have hzs := ih.mp hxs
        constructor
        · intro h
          obtain rfl : y :: zs = ys := Option.some.inj h
          rw [hzs]
          rfl
        · intro h
          rw [hzs] at h
          have hsame : y :: zs = ys := List.map_injective_iff.mpr (Option.some_injective β) h
          rw [← hsame]
          rfl

theorem isNumeral_iff {s : JsString} : isNumeral s = true ↔ s ≠ [] ∧ ∀ c ∈ s, isDigit c = true := by
  rw [isNumeral, Bool.and_eq_true, List.all_eq_true, Bool.not_eq_true', List.isEmpty_eq_false_iff]

theorem octet_eq_some {s : JsString} {n : Nat} :
    octet s = some n ↔ isNumeral s = true ∧ n = ofDigits s ∧ n ≤ 255 := by
  rw [octet]
  by_cases h : (isNumeral s && decide (ofDigits s ≤ 255)) = true
  · rw [if_pos h]
    rw [Bool.and_eq_true, decide_eq_true_eq] at h
    constructor
    · intro hn
      obtain rfl := Option.some.inj hn
      exact ⟨h.1, rfl, h.2⟩
    · rintro ⟨-, rfl, -⟩
      rfl
  · rw [if_neg h]
    rw [Bool.and_eq_true, decide_eq_true_eq] at h
    refine ⟨fun hn => absurd hn (by simp), ?_⟩
    rintro ⟨hnum, rfl, hle⟩
    exact absurd ⟨hnum, hle⟩ h

/-- **An IPv4 address is four numerals of octets.** -/
theorem ipv4Literal_iff {s : JsString} {ns : List Nat} :
    ipv4Literal s = some ns ↔ ns.length = 4 ∧ (∀ n ∈ ns, n ≤ 255) ∧
      (∀ part ∈ s.splitOn 0x2E, isNumeral part = true) ∧ ns = (s.splitOn 0x2E).map ofDigits := by
  rw [ipv4Literal]
  constructor
  · intro h
    split at h
    · rename_i hlen
      have hmap := mapM_eq_some_iff.mp h
      have hcount : ns.length = 4 := by
        have := congrArg List.length hmap
        rw [List.length_map, List.length_map] at this
        omega
      have hmem : ∀ part ∈ s.splitOn 0x2E, ∃ n ∈ ns, octet part = some n := by
        intro part hpart
        have hin : octet part ∈ ns.map some := hmap ▸ List.mem_map_of_mem hpart
        obtain ⟨n, hn, heq⟩ := List.mem_map.mp hin
        exact ⟨n, hn, heq.symm⟩
      have hnums : ∀ part ∈ s.splitOn 0x2E, isNumeral part = true := by
        intro part hpart
        obtain ⟨n, -, hn⟩ := hmem part hpart
        exact (octet_eq_some.mp hn).1
      refine ⟨hcount, ?_, hnums, ?_⟩
      · intro n hn
        have hin : some n ∈ (s.splitOn 0x2E).map octet := hmap ▸ List.mem_map_of_mem hn
        obtain ⟨part, -, heq⟩ := List.mem_map.mp hin
        exact (octet_eq_some.mp heq).2.2
      · have hvalues : (s.splitOn 0x2E).map octet = ((s.splitOn 0x2E).map ofDigits).map some := by
          rw [List.map_map]
          refine List.map_congr_left fun part hpart => ?_
          obtain ⟨n, -, hn⟩ := hmem part hpart
          rw [hn, (octet_eq_some.mp hn).2.1]
          rfl
        rw [hvalues] at hmap
        exact (List.map_injective_iff.mpr (Option.some_injective Nat) hmap).symm
    · exact absurd h (by simp)
  · rintro ⟨hlen, hle, hnums, rfl⟩
    rw [List.length_map] at hlen
    rw [if_pos hlen, mapM_eq_some_iff, List.map_map]
    refine List.map_congr_left fun part hpart => ?_
    exact octet_eq_some.mpr ⟨hnums part hpart, rfl, hle _ (List.mem_map_of_mem hpart)⟩

/-- Every character but the separator is in a piece. -/
theorem exists_mem_splitOn {c d : UInt16} {s : JsString} (hd : d ∈ s) (hne : d ≠ c) :
    ∃ part ∈ s.splitOn c, d ∈ part := by
  induction s with
  | nil => exact absurd hd List.not_mem_nil
  | cons x s ih =>
    rw [List.splitOn_cons_eq_if_modifyHead]
    rcases List.mem_cons.mp hd with rfl | hd
    · rw [if_neg (by rw [beq_iff_eq]; exact hne)]
      cases hs : s.splitOn c with
      | nil => exact absurd hs (List.splitOn_ne_nil c s)
      | cons first rest => exact ⟨_, List.mem_cons_self, List.mem_cons_self⟩
    · obtain ⟨part, hpart, hin⟩ := ih hd
      split
      · exact ⟨part, List.mem_cons_of_mem _ hpart, hin⟩
      · cases hs : s.splitOn c with
        | nil => exact absurd hs (List.splitOn_ne_nil c s)
        | cons first rest =>
          rw [hs] at hpart
          rw [List.modifyHead_cons]
          rcases List.mem_cons.mp hpart with rfl | hpart
          · exact ⟨_, List.mem_cons_self, List.mem_cons_of_mem _ hin⟩
          · exact ⟨part, List.mem_cons_of_mem _ hpart, hin⟩

/-- The first piece ends at the first separator. -/
theorem head_splitOn (c : UInt16) (s : JsString) :
    (s.splitOn c).headD [] = s.takeWhile fun d => d != c := by
  induction s with
  | nil => rfl
  | cons x s ih =>
    rw [List.splitOn_cons_eq_if_modifyHead, List.takeWhile_cons]
    by_cases hx : x = c
    · rw [if_pos (by rw [beq_iff_eq]; exact hx), hx]
      simp
    · rw [if_neg (by rw [beq_iff_eq]; exact hx)]
      have hne : (x != c) = true := bne_iff_ne.mpr hx
      rw [hne]
      cases hs : s.splitOn c with
      | nil => exact absurd hs (List.splitOn_ne_nil c s)
      | cons first rest =>
        rw [hs] at ih
        rw [List.modifyHead_cons]
        show x :: first = x :: _
        rw [← ih]
        rfl

/-- An IPv4 address has digits and dots only. -/
theorem mem_ipv4Literal {s : JsString} {ns : List Nat} (h : ipv4Literal s = some ns) {c : UInt16}
    (hc : c ∈ s) : isDigit c = true ∨ c = 0x2E := by
  obtain ⟨-, -, hnums, -⟩ := ipv4Literal_iff.mp h
  by_cases hdot : c = 0x2E
  · exact Or.inr hdot
  · obtain ⟨part, hpart, hin⟩ := exists_mem_splitOn hc hdot
    exact Or.inl ((isNumeral_iff.mp (hnums part hpart)).2 c hin)

/-! ## IPv6 -/

theorem splitCompressed_eq_some {s left right : JsString} (h : splitCompressed s = some (left, right)) :
    s = left ++ 0x3A :: 0x3A :: right := by
  fun_induction splitCompressed s generalizing left with
  | case1 rest =>
    obtain ⟨rfl, rfl⟩ := Prod.mk.inj (Option.some.inj h)
    rfl
  | case2 c rest hne ih =>
    obtain ⟨⟨l, r⟩, hp, heq⟩ := Option.map_eq_some_iff.mp h
    obtain ⟨rfl, rfl⟩ := Prod.mk.inj heq
    rw [ih hp]
    rfl
  | case3 => exact absurd h (by simp)

theorem length_lastGroups {s : JsString} {ns : List Nat} (h : lastGroups s = some ns) :
    ns.length ≤ 2 := by
  rw [lastGroups] at h
  split at h
  · obtain rfl := Option.some.inj h
    exact Nat.le_succ 1
  · split at h
    · obtain rfl := Option.some.inj h
      exact Nat.le_refl 2
    · exact absurd h (by simp)

/-- An IPv6 address has a colon. -/
theorem colon_of_ipv6Literal {s : JsString} {ns : List Nat} (h : ipv6Literal s = some ns) :
    0x3A ∈ s := by
  by_contra hcolon
  rw [ipv6Literal] at h
  cases hsplit : splitCompressed s with
  | some p =>
    rw [splitCompressed_eq_some hsplit] at hcolon
    exact hcolon (List.mem_append_right _ List.mem_cons_self)
  | none =>
    rw [hsplit] at h
    dsimp only at h
    rw [List.splitOn_eq_singleton hcolon, Option.filter_eq_some_iff, decide_eq_true_eq] at h
    have hlen := length_lastGroups h.1
    omega

/-- **The first group is what stands before the first colon**, unless the address starts with one. -/
theorem first_group {s : JsString} {ns : List Nat} (h : ipv6Literal s = some ns)
    (hhead : s.head? ≠ some 0x3A) :
    hexGroup ((s.splitOn 0x3A).headD []) = some (ns.getD 0 0) := by
  rw [ipv6Literal] at h
  cases hsplit : splitCompressed s with
  | none =>
    rw [hsplit] at h
    dsimp only at h
    rw [Option.filter_eq_some_iff, decide_eq_true_eq] at h
    obtain ⟨hgroups, hlen⟩ := h
    have hpieces := List.splitOn_ne_nil 0x3A s
    generalize s.splitOn 0x3A = pieces at hgroups hpieces ⊢
    match pieces, hpieces, hgroups with
    | [last], _, hgroups =>
      have := length_lastGroups hgroups
      omega
    | piece :: next :: rest, _, hgroups =>
      obtain ⟨n, hn, hgroups⟩ := Option.bind_eq_some_iff.mp hgroups
      obtain ⟨ns', -, hcons⟩ := Option.bind_eq_some_iff.mp hgroups
      obtain rfl : n :: ns' = ns := Option.some.inj hcons
      exact hn
  | some p =>
    obtain ⟨left, right⟩ := p
    have hs := splitCompressed_eq_some hsplit
    rw [hsplit] at h
    dsimp only at h
    obtain ⟨high, hhigh, h⟩ := Option.bind_eq_some_iff.mp h
    obtain ⟨low, -, h⟩ := Option.bind_eq_some_iff.mp h
    split at h
    · obtain rfl := Option.some.inj h
      have hleft : left ≠ [] := by
        rintro rfl
        exact hhead (by rw [hs]; rfl)
      rw [highGroups, if_neg hleft, mapM_eq_some_iff] at hhigh
      have hfirst : (s.splitOn 0x3A).headD [] = (left.splitOn 0x3A).headD [] := by
        rw [hs, List.splitOn_append_cons_self]
        cases hl : left.splitOn 0x3A with
        | nil => exact absurd hl (List.splitOn_ne_nil _ _)
        | cons first rest => rfl
      rw [hfirst]
      cases hl : left.splitOn 0x3A with
      | nil => exact absurd hl (List.splitOn_ne_nil _ _)
      | cons first rest =>
        rw [hl] at hhigh
        cases high with
        | nil => exact absurd hhigh (by simp)
        | cons n high =>
          exact (List.cons.inj hhigh).1
    · exact absurd h (by simp)

example : ipv6Literal (js "::ffff:7f00:1") = some [0, 0, 0, 0, 0, 0xFFFF, 0x7F00, 1] := by rfl
example : ipv6Literal (js "0:0:0:0:0:FFFF:127.0.0.1") = some [0, 0, 0, 0, 0, 0xFFFF, 0x7F00, 1] := by rfl
example : ipv6Literal (js "1:::2") = none := by rfl

end Js
