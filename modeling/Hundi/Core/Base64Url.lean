/-
  packages/core/src/hash.ts — the base64url codec is exact.

  A byte string is a sequence of sextets, the groups of six bits of RFC 4648.  `bytesToBase64Url`
  writes one character for each (`bytesToBase64Url_eq`), and `atob`, given the padding back, reads the
  characters as these sextets and the sextets as the bytes.  So `decodeBase64Url` undoes
  `bytesToBase64Url` at every length, whichever of the three tails the loop ends in.
-/
import Hundi.Core.Hash

namespace Hundi

open Js

/-- The sextets of a byte string: four of each group of 24 bits, the last one filled up with zeros. -/
def sextets : Bytes → List Nat
  | a :: b :: c :: rest =>
    let n := a.toNat * 65536 + b.toNat * 256 + c.toNat
    n / 262144 :: n / 4096 % 64 :: n / 64 % 64 :: n % 64 :: sextets rest
  | [a, b] =>
    let n := a.toNat * 65536 + b.toNat * 256
    [n / 262144, n / 4096 % 64, n / 64 % 64]
  | [a] =>
    let n := a.toNat * 65536
    [n / 262144, n / 4096 % 64]
  | [] => []

/-- The standard alphabet of RFC 4648. -/
def base64Chars : JsString :=
  js "ABCDEFGHIJKLMNOPQRSTUVWXYZabcdefghijklmnopqrstuvwxyz0123456789+/"

/-- The character of a sextet. -/
def base64Char (n : Nat) : UInt16 := base64Chars.getD n 0

/-! ## Bytes and sextets -/

theorem sextets_lt (bytes : Bytes) : ∀ n ∈ sextets bytes, n < 64 := by
  induction bytes using sextets.induct with
  | case1 a b c rest ih =>
    have ha := a.toNat_lt
    have hb := b.toNat_lt
    have hc := c.toNat_lt
    intro m hm
    simp only [sextets, List.mem_cons] at hm
    rcases hm with rfl | rfl | rfl | rfl | hm
    · omega
    · omega
    · omega
    · omega
    · exact ih m hm
  | case2 a b =>
    have ha := a.toNat_lt
    have hb := b.toNat_lt
    intro m hm
    simp only [sextets, List.mem_cons, List.not_mem_nil, or_false] at hm
    rcases hm with rfl | rfl | rfl <;> omega
  | case3 a =>
    have ha := a.toNat_lt
    intro m hm
    simp only [sextets, List.mem_cons, List.not_mem_nil, or_false] at hm
    rcases hm with rfl | rfl <;> omega
  | case4 =>
    intro m hm
    exact absurd hm List.not_mem_nil

/-- No byte string ends in a single sextet. -/
theorem length_sextets (bytes : Bytes) : (sextets bytes).length % 4 ≠ 1 := by
  induction bytes using sextets.induct with
  | case1 a b c rest ih =>
    simp only [sextets, List.length_cons]
    omega
  | case2 a b => simp only [sextets, List.length_cons, List.length_nil]; omega
  | case3 a => simp only [sextets, List.length_cons, List.length_nil]; omega
  | case4 => simp only [sextets, List.length_nil]; omega

/-- **The bytes are read back from the sextets.** -/
theorem sextetBytes_sextets (bytes : Bytes) : sextetBytes (sextets bytes) = bytes := by
  have hbyte : ∀ (x : UInt8) (n : Nat), n = x.toNat → UInt8.ofNat n = x := by
    rintro x n rfl
    exact UInt8.ofNat_toNat
  induction bytes using sextets.induct with
  | case1 a b c rest ih =>
    have ha := a.toNat_lt
    have hb := b.toNat_lt
    have hc := c.toNat_lt
    rw [sextets]
    rw [sextetBytes, ih, hbyte a _ (by omega), hbyte b _ (by omega), hbyte c _ (by omega)]
  | case2 a b =>
    have ha := a.toNat_lt
    have hb := b.toNat_lt
    rw [sextets]
    rw [sextetBytes, hbyte a _ (by omega), hbyte b _ (by omega)]
  | case3 a =>
    have ha := a.toNat_lt
    rw [sextets]
    rw [sextetBytes, hbyte a _ (by omega)]
  | case4 => rfl

/-! ## Sextets and characters -/

/-- The character of the URL alphabet for a sextet. -/
theorem base64UrlChar_eq {b : UInt8} {n : Nat} (h : b.toNat = n) :
    base64UrlChar b = base64UrlChars.getD n 0 := by
  rw [base64UrlChar, h]

/-- **One character a sextet**, in the loop and in both of its tails. -/
theorem bytesToBase64Url_eq (bytes : Bytes) :
    bytesToBase64Url bytes = (sextets bytes).map fun n => base64UrlChars.getD n 0 := by
  induction bytes using sextets.induct with
  | case1 a b c rest ih =>
    have ha := a.toNat_lt
    have hb := b.toNat_lt
    have hc := c.toNat_lt
    rw [bytesToBase64Url, ih, sextets]
    simp only [List.map_cons]
    rw [base64UrlChar_eq (n := (a.toNat * 65536 + b.toNat * 256 + c.toNat) / 262144)
        (by rw [toNat_sextet0]; omega),
      base64UrlChar_eq (n := (a.toNat * 65536 + b.toNat * 256 + c.toNat) / 4096 % 64)
        (by rw [toNat_sextet1]; omega),
      base64UrlChar_eq (n := (a.toNat * 65536 + b.toNat * 256 + c.toNat) / 64 % 64)
        (by rw [toNat_sextet2]; omega),
      base64UrlChar_eq (n := (a.toNat * 65536 + b.toNat * 256 + c.toNat) % 64)
        (by rw [toNat_sextet3]; omega)]
  | case2 a b =>
    have ha := a.toNat_lt
    have hb := b.toNat_lt
    rw [bytesToBase64Url, sextets]
    simp only [List.map_cons, List.map_nil]
    rw [base64UrlChar_eq (n := (a.toNat * 65536 + b.toNat * 256) / 262144)
        (by rw [toNat_sextet0]; omega),
      base64UrlChar_eq (n := (a.toNat * 65536 + b.toNat * 256) / 4096 % 64)
        (by rw [toNat_sextet1]; omega),
      base64UrlChar_eq (n := (a.toNat * 65536 + b.toNat * 256) / 64 % 64)
        (by rw [toNat_low4]; omega)]
  | case3 a =>
    have ha := a.toNat_lt
    rw [bytesToBase64Url, sextets]
    simp only [List.map_cons, List.map_nil]
    rw [base64UrlChar_eq (n := a.toNat * 65536 / 262144) (by rw [toNat_sextet0]; omega),
      base64UrlChar_eq (n := a.toNat * 65536 / 4096 % 64) (by rw [toNat_low2]; omega)]
  | case4 => rfl

/-- The output has no padding and no character outside the URL alphabet. -/
theorem mem_bytesToBase64Url {bytes : Bytes} {c : UInt16} (h : c ∈ bytesToBase64Url bytes) :
    c ∈ base64UrlChars := by
  rw [bytesToBase64Url_eq] at h
  obtain ⟨n, hn, rfl⟩ := List.mem_map.mp h
  have hlt : n < base64UrlChars.length := sextets_lt bytes n hn
  rw [List.getD_eq_getElem?_getD, List.getElem?_eq_getElem hlt]
  exact List.getElem_mem hlt

/-- The two alphabets differ in `-` and `_`, which `base64UrlToBytes` turns back. -/
theorem standardChar : ∀ n < 64,
    (if base64UrlChars.getD n 0 == 0x2D then 0x2B
      else if base64UrlChars.getD n 0 == 0x5F then 0x2F else base64UrlChars.getD n 0)
      = base64Char n := by
  decide +kernel

theorem base64Value_char : ∀ n < 64, base64Value (base64Char n) = some n := by decide +kernel

/-- No character of the alphabet is white space or padding. -/
theorem base64Char_plain : ∀ n < 64, (base64Char n == 0x09 || base64Char n == 0x0A ||
    base64Char n == 0x0C || base64Char n == 0x0D || base64Char n == 0x20) = false ∧
    base64Char n ≠ 0x3D := by
  decide +kernel

theorem mapM_base64Value {ns : List Nat} (h : ∀ n ∈ ns, n < 64) :
    (ns.map base64Char).mapM base64Value = some ns := by
  induction ns with
  | nil => rfl
  | cons n ns ih =>
    rw [List.map_cons, List.mapM_cons, base64Value_char n (h n List.mem_cons_self),
      ih fun m hm => h m (List.mem_cons_of_mem _ hm)]
    rfl

/-! ## Reading standard base64 -/

/-- What `atob` does with the `=` at the end of a complete last quantum. -/
theorem unpad {data : JsString} {k : Nat} (hk : k ≤ 2) (hdata : ∀ c ∈ data, c ≠ 0x3D) :
    (match (data ++ List.replicate k 0x3D).reverse with
      | 0x3D :: 0x3D :: rest => rest.reverse
      | 0x3D :: rest => rest.reverse
      | _ => data ++ List.replicate k 0x3D) = data := by
  have hrev : ∀ c ∈ data.reverse, c ≠ 0x3D := fun c hc => hdata c (List.mem_reverse.mp hc)
  rw [List.reverse_append, List.reverse_replicate]
  rw [← List.reverse_reverse data]
  generalize data.reverse = rest at hrev
  rw [List.reverse_reverse]
  have hk' : k = 0 ∨ k = 1 ∨ k = 2 := by omega
  rcases hk' with rfl | rfl | rfl
  · cases rest with
    | nil => rfl
    | cons c rest =>
      have hc := hrev c List.mem_cons_self
      show (match c :: rest with
        | 0x3D :: 0x3D :: rest => rest.reverse
        | 0x3D :: rest => rest.reverse
        | _ => (c :: rest).reverse ++ []) = _
      split
      · rename_i heq
        exact absurd (List.cons.inj heq).1 hc
      · rename_i heq
        exact absurd (List.cons.inj heq).1 hc
      · exact List.append_nil _
  · cases rest with
    | nil => rfl
    | cons c rest =>
      have hc := hrev c List.mem_cons_self
      show (match 0x3D :: c :: rest with
        | 0x3D :: 0x3D :: rest => rest.reverse
        | 0x3D :: rest => rest.reverse
        | _ => (c :: rest).reverse ++ [0x3D]) = _
      split
      · rename_i heq
        exact absurd (List.cons.inj (List.cons.inj heq).2).1 hc
      · rename_i heq
        rw [← (List.cons.inj heq).2]
      · rename_i hne
        exact absurd rfl (hne _)
  · rfl

/-- **`atob` reads what standard base64 writes**, padded to whole quanta. -/
theorem atob_sextets {ns : List Nat} (h : ∀ n ∈ ns, n < 64) (hlen : ns.length % 4 ≠ 1) :
    atob (ns.map base64Char ++ List.replicate ((4 - ns.length % 4) % 4) 0x3D)
      = some (sextetBytes ns) := by
  have hplain : ∀ c ∈ ns.map base64Char, (c == 0x09 || c == 0x0A || c == 0x0C || c == 0x0D ||
      c == 0x20) = false ∧ c ≠ 0x3D := by
    intro c hc
    obtain ⟨n, hn, rfl⟩ := List.mem_map.mp hc
    exact base64Char_plain n (h n hn)
  have hfilter : (ns.map base64Char ++ List.replicate ((4 - ns.length % 4) % 4) 0x3D).filter
      (fun c => !(c == 0x09 || c == 0x0A || c == 0x0C || c == 0x0D || c == 0x20))
      = ns.map base64Char ++ List.replicate ((4 - ns.length % 4) % 4) 0x3D := by
    rw [List.filter_eq_self]
    intro c hc
    rcases List.mem_append.mp hc with hc | hc
    · rw [(hplain c hc).1]
      rfl
    · rw [List.eq_of_mem_replicate hc]
      rfl
  have hwhole : (ns.map base64Char ++ List.replicate ((4 - ns.length % 4) % 4) 0x3D).length % 4 = 0 := by
    rw [List.length_append, List.length_map, List.length_replicate]
    omega
  unfold atob
  simp only [hfilter, hwhole, beq_self_eq_true, if_true]
  refine (congrArg (fun data : JsString => if (data.length % 4 == 1) = true then none
    else (data.mapM base64Value).map sextetBytes)
    (unpad (by omega) fun c hc => (hplain c hc).2)).trans ?_
  have hodd : ¬ ((ns.map base64Char).length % 4 == 1) = true := by
    rw [List.length_map, beq_iff_eq]
    exact hlen
  rw [if_neg hodd, mapM_base64Value h]
  rfl

/-- **`decodeBase64Url` undoes `bytesToBase64Url`**, at every length. -/
theorem decodeBase64Url_bytesToBase64Url (bytes : Bytes) :
    decodeBase64Url (bytesToBase64Url bytes) = .ok bytes := by
  have hclean : (bytesToBase64Url bytes).map
      (fun c => if c == 0x2D then 0x2B else if c == 0x5F then 0x2F else c)
      = (sextets bytes).map base64Char := by
    rw [bytesToBase64Url_eq, List.map_map]
    exact List.map_congr_left fun n hn => standardChar n (sextets_lt bytes n hn)
  rw [decodeBase64Url, base64UrlToBytes]
  simp only [hclean, List.length_map]
  rw [atob_sextets (sextets_lt bytes) (length_sextets bytes), sextetBytes_sextets]

/-- Three bytes make four characters, the tail two or three. -/
theorem length_bytesToBase64Url (bytes : Bytes) :
    (bytesToBase64Url bytes).length = (4 * bytes.length + 2) / 3 := by
  rw [bytesToBase64Url_eq, List.length_map]
  induction bytes using sextets.induct with
  | case1 a b c rest ih =>
    simp only [sextets, List.length_cons, ih]
    omega
  | case2 a b => simp only [sextets, List.length_cons, List.length_nil]
  | case3 a => simp only [sextets, List.length_cons, List.length_nil]
  | case4 => simp only [sextets, List.length_nil]

end Hundi
