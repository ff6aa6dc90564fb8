/-
  packages/core/src/hash.ts — hashes and the byte encodings around them.

  The primitives of the noble packages and the runtime are the fields of `Crypto`: SHA-256, HMAC,
  the two signature verifiers, `TextDecoder` and `JSON.parse`.  The hand-written hex and base64url
  code is modelled as it stands; `atob` is the forgiving decode of the WHATWG standard.

  Where a result needs it, SHA-256 is assumed to have no collision among the byte strings at hand
  (`Crypto.CollisionFree`); `sha256Hex` and `sha256B64url` then have none, because both encodings are
  injective.
-/
import Hundi.Core.CanonicalJson

namespace Hundi

open Js

/-- What the modelled code calls and does not define. -/
structure Crypto where
  /-- `sha256` of @noble/hashes. -/
  sha256 : Bytes → Bytes
  /-- `ed25519.verify(signature, message, publicKey)`. -/
  ed25519Verify : Bytes → Bytes → Bytes → Except Exn Bool
  /-- `p256.verify(signature, message, publicKey, { format: 'der' })`. -/
  p256Verify : Bytes → Bytes → Bytes → Except Exn Bool
  /-- `createHmac('sha256', secret).update(body).digest('hex')`. -/
  hmacSha256Hex : JsString → JsString → JsString
  /-- `new TextDecoder().decode(bytes)`. -/
  textDecode : Bytes → JsString
  /-- `JSON.parse(text)`, `none` when it throws. -/
  jsonParse : JsString → Option JsonValue

/-- No two of the byte strings have one SHA-256 digest. -/
def Crypto.CollisionFree (crypto : Crypto) (hashed : List Bytes) : Prop :=
  ∀ a ∈ hashed, ∀ b ∈ hashed, crypto.sha256 a = crypto.sha256 b → a = b

instance (crypto : Crypto) (hashed : List Bytes) : Decidable (crypto.CollisionFree hashed) :=
  inferInstanceAs (Decidable (∀ a ∈ hashed, ∀ b ∈ hashed, crypto.sha256 a = crypto.sha256 b → a = b))

/-! ## Hexadecimal -/

/-- `bytesToHex` of @noble/hashes: two lower-case digits a byte. -/
def bytesToHex (bytes : Bytes) : JsString :=
  bytes.flatMap fun b => [hexDigit (b.toNat / 16), hexDigit (b.toNat % 16)]

theorem bytesToHex_inj : ∀ {a b : Bytes}, bytesToHex a = bytesToHex b → a = b
  | [], [], _ => rfl
  | [], _ :: _, h => absurd h (by simp [bytesToHex])
  | _ :: _, [], h => absurd h (by simp [bytesToHex])
  | x :: a, y :: b, h => by
    simp only [bytesToHex, List.flatMap_cons, List.cons_append, List.nil_append,
      List.cons.injEq] at h
    obtain ⟨hhi, hlo, hrest⟩ := h
    have hx := x.toNat_lt
    have hy := y.toNat_lt
    have e1 := hexDigit_inj _ (by omega) _ (by omega) hhi
    have e0 := hexDigit_inj _ (by omega) _ (by omega) hlo
    have hxy : x = y := UInt8.toNat_inj.mp (by omega)
    rw [hxy, bytesToHex_inj (a := a) (b := b) hrest]

/-- `sha256Hex(bytes)`. -/
def Crypto.sha256Hex (crypto : Crypto) (bytes : Bytes) : JsString := bytesToHex (crypto.sha256 bytes)

theorem Crypto.sha256Hex_inj {crypto : Crypto} {hashed : List Bytes} (h : crypto.CollisionFree hashed)
    {a b : Bytes} (ha : a ∈ hashed) (hb : b ∈ hashed)
    (hab : crypto.sha256Hex a = crypto.sha256Hex b) : a = b :=
  h a ha b hb (bytesToHex_inj hab)

/-! ## base64url -/

/-- `BASE64URL_CHARS`. -/
def base64UrlChars : JsString :=
  js "ABCDEFGHIJKLMNOPQRSTUVWXYZabcdefghijklmnopqrstuvwxyz0123456789-_"

/-- `BASE64URL_CHARS[n]`. -/
def base64UrlChar (n : UInt8) : UInt16 := base64UrlChars.getD n.toNat 0

/-- `bytesToBase64Url(bytes)`: the loop over triples, then the one or two bytes that remain. -/
def bytesToBase64Url : Bytes → JsString
  | b0 :: b1 :: b2 :: rest =>
    base64UrlChar (b0 >>> 2) :: base64UrlChar (((b0 &&& 0x03) <<< 4) ||| (b1 >>> 4)) ::
      base64UrlChar (((b1 &&& 0x0f) <<< 2) ||| (b2 >>> 6)) :: base64UrlChar (b2 &&& 0x3f) ::
      bytesToBase64Url rest
  | [b0] => [base64UrlChar (b0 >>> 2), base64UrlChar ((b0 &&& 0x03) <<< 4)]
  | [b0, b1] =>
    [base64UrlChar (b0 >>> 2), base64UrlChar (((b0 &&& 0x03) <<< 4) ||| (b1 >>> 4)),
      base64UrlChar ((b1 &&& 0x0f) <<< 2)]
  | [] => []

/-! ### base64url loses nothing

  The four characters of a triple are sextets; each is a linear function of the bytes it mixes. -/

theorem base64UrlChar_inj : ∀ m < 64, ∀ n < 64,
    base64UrlChar (UInt8.ofNat m) = base64UrlChar (UInt8.ofNat n) → m = n := by decide +kernel

/-- The characters of two sextets are one only if the sextets are. -/
theorem sextet_inj {a b : UInt8} (ha : a.toNat < 64) (hb : b.toNat < 64)
    (h : base64UrlChar a = base64UrlChar b) : a.toNat = b.toNat := by
  refine base64UrlChar_inj _ ha _ hb ?_
  rwa [UInt8.ofNat_toNat, UInt8.ofNat_toNat]

theorem toNat_sextet0 (b : UInt8) : (b >>> 2).toNat = b.toNat / 4 := by
  rw [UInt8.toNat_shiftRight]
  show b.toNat >>> 2 = _
  rw [Nat.shiftRight_eq_div_pow]

theorem toNat_low2 (b : UInt8) : ((b &&& 0x03) <<< 4).toNat = b.toNat % 4 * 16 := by
  have hb := b.toNat_lt
  rw [UInt8.toNat_shiftLeft, UInt8.toNat_and]
  show (b.toNat &&& (2 ^ 2 - 1)) <<< 4 % 2 ^ 8 = _
  rw [Nat.and_two_pow_sub_one_eq_mod, Nat.shiftLeft_eq]
  omega

theorem toNat_low4 (b : UInt8) : ((b &&& 0x0f) <<< 2).toNat = b.toNat % 16 * 4 := by
  rw [UInt8.toNat_shiftLeft, UInt8.toNat_and]
  show (b.toNat &&& (2 ^ 4 - 1)) <<< 2 % 2 ^ 8 = _
  rw [Nat.and_two_pow_sub_one_eq_mod, Nat.shiftLeft_eq]
  omega

theorem toNat_sextet1 (b c : UInt8) :
    (((b &&& 0x03) <<< 4) ||| (c >>> 4)).toNat = b.toNat % 4 * 16 + c.toNat / 16 := by
  have hc := c.toNat_lt
  have hlow : c.toNat / 16 < 2 ^ 4 := by omega
  rw [UInt8.toNat_or, toNat_low2, UInt8.toNat_shiftRight]
  show _ ||| c.toNat >>> 4 = _
  rw [Nat.shiftRight_eq_div_pow, Nat.mul_comm (b.toNat % 4),
    ← Nat.two_pow_add_eq_or_of_lt hlow (b.toNat % 4)]

theorem toNat_sextet2 (b c : UInt8) :
    (((b &&& 0x0f) <<< 2) ||| (c >>> 6)).toNat = b.toNat % 16 * 4 + c.toNat / 64 := by
  have hc := c.toNat_lt
  have hlow : c.toNat / 64 < 2 ^ 2 := by omega
  rw [UInt8.toNat_or, toNat_low4, UInt8.toNat_shiftRight]
  show _ ||| c.toNat >>> 6 = _
  rw [Nat.shiftRight_eq_div_pow, Nat.mul_comm (b.toNat % 16),
    ← Nat.two_pow_add_eq_or_of_lt hlow (b.toNat % 16)]

theorem toNat_sextet3 (b : UInt8) : (b &&& 0x3f).toNat = b.toNat % 64 := by
  rw [UInt8.toNat_and]
  exact Nat.and_two_pow_sub_one_eq_mod b.toNat 6

/-- **Base64url loses nothing.** -/
theorem bytesToBase64Url_inj : ∀ {a b : Bytes}, bytesToBase64Url a = bytesToBase64Url b → a = b
  | [], [], _ => rfl
  | [x], [y], h => by
    have hx := x.toNat_lt
    have hy := y.toNat_lt
    simp only [bytesToBase64Url, List.cons.injEq, and_true] at h
    have e0 := sextet_inj (by rw [toNat_sextet0]; omega) (by rw [toNat_sextet0]; omega) h.1
    have e1 := sextet_inj (by rw [toNat_low2]; omega) (by rw [toNat_low2]; omega) h.2
    rw [toNat_sextet0, toNat_sextet0] at e0
    rw [toNat_low2, toNat_low2] at e1
    rw [UInt8.toNat_inj.mp (show x.toNat = y.toNat by omega)]
  | [x₀, x₁], [y₀, y₁], h => by
    have hx₀ := x₀.toNat_lt
    have hx₁ := x₁.toNat_lt
    have hy₀ := y₀.toNat_lt
    have hy₁ := y₁.toNat_lt
    simp only [bytesToBase64Url, List.cons.injEq, and_true] at h
    have e0 := sextet_inj (by rw [toNat_sextet0]; omega) (by rw [toNat_sextet0]; omega) h.1
    have e1 := sextet_inj (by rw [toNat_sextet1]; omega) (by rw [toNat_sextet1]; omega) h.2.1
    have e2 := sextet_inj (by rw [toNat_low4]; omega) (by rw [toNat_low4]; omega) h.2.2
    rw [toNat_sextet0, toNat_sextet0] at e0
    rw [toNat_sextet1, toNat_sextet1] at e1
    rw [toNat_low4, toNat_low4] at e2
    rw [UInt8.toNat_inj.mp (show x₀.toNat = y₀.toNat by omega),
      UInt8.toNat_inj.mp (show x₁.toNat = y₁.toNat by omega)]
  | x₀ :: x₁ :: x₂ :: xs, y₀ :: y₁ :: y₂ :: ys, h => by
    have hx₀ := x₀.toNat_lt
    have hx₁ := x₁.toNat_lt
    have hx₂ := x₂.toNat_lt
    have hy₀ := y₀.toNat_lt
    have hy₁ := y₁.toNat_lt
    have hy₂ := y₂.toNat_lt
    simp only [bytesToBase64Url, List.cons.injEq] at h
    obtain ⟨h0, h1, h2, h3, hrest⟩ := h
    have e0 := sextet_inj (by rw [toNat_sextet0]; omega) (by rw [toNat_sextet0]; omega) h0
    have e1 := sextet_inj (by rw [toNat_sextet1]; omega) (by rw [toNat_sextet1]; omega) h1
    have e2 := sextet_inj (by rw [toNat_sextet2]; omega) (by rw [toNat_sextet2]; omega) h2
    have e3 := sextet_inj (by rw [toNat_sextet3]; omega) (by rw [toNat_sextet3]; omega) h3
    rw [toNat_sextet0, toNat_sextet0] at e0
    rw [toNat_sextet1, toNat_sextet1] at e1
    rw [toNat_sextet2, toNat_sextet2] at e2
    rw [toNat_sextet3, toNat_sextet3] at e3
    rw [UInt8.toNat_inj.mp (show x₀.toNat = y₀.toNat by omega),
      UInt8.toNat_inj.mp (show x₁.toNat = y₁.toNat by omega),
      UInt8.toNat_inj.mp (show x₂.toNat = y₂.toNat by omega), bytesToBase64Url_inj hrest]
  | [], [_], h => absurd h (by simp [bytesToBase64Url])
  | [], [_, _], h => absurd h (by simp [bytesToBase64Url])
  | [], _ :: _ :: _ :: _, h => absurd h (by simp [bytesToBase64Url])
  | [_], [], h => absurd h (by simp [bytesToBase64Url])
  | [_], [_, _], h => absurd h (by simp [bytesToBase64Url])
  | [_], _ :: _ :: _ :: _, h => absurd h (by simp [bytesToBase64Url])
  | [_, _], [], h => absurd h (by simp [bytesToBase64Url])
  | [_, _], [_], h => absurd h (by simp [bytesToBase64Url])
  | [_, _], _ :: _ :: _ :: _, h => absurd h (by simp [bytesToBase64Url])
  | _ :: _ :: _ :: _, [], h => absurd h (by simp [bytesToBase64Url])
  | _ :: _ :: _ :: _, [_], h => absurd h (by simp [bytesToBase64Url])
  | _ :: _ :: _ :: _, [_, _], h => absurd h (by simp [bytesToBase64Url])
/-! ### Decoding -/

/-- The value of a character of the standard base64 alphabet. -/
def base64Value (c : UInt16) : Option Nat :=
  let n := c.toNat
  if 0x41 ≤ n && n ≤ 0x5A then some (n - 0x41)
  else if 0x61 ≤ n && n ≤ 0x7A then some (n - 0x61 + 26)
  else if 0x30 ≤ n && n ≤ 0x39 then some (n - 0x30 + 52)
  else if n == 0x2B then some 62
  else if n == 0x2F then some 63
  else none

/-- The bytes of a list of sextets; the bits left over at the end are dropped. -/
def sextetBytes : List Nat → Bytes
  | a :: b :: c :: d :: rest =>
    UInt8.ofNat (a * 4 + b / 16) :: UInt8.ofNat (b % 16 * 16 + c / 4) ::
      UInt8.ofNat (c % 4 * 64 + d) :: sextetBytes rest
  | [a, b, c] => [UInt8.ofNat (a * 4 + b / 16), UInt8.ofNat (b % 16 * 16 + c / 4)]
  | [a, b] => [UInt8.ofNat (a * 4 + b / 16)]
  | _ => []

/-- `atob(s)` as bytes, `none` when it throws: ASCII whitespace is skipped, up to two `=` of a
    complete last quantum are dropped, and what is left must be base64 of a possible length. -/
def atob (s : JsString) : Option Bytes :=
  let data := s.filter fun c => !(c == 0x09 || c == 0x0A || c == 0x0C || c == 0x0D || c == 0x20)
  let data :=
    if data.length % 4 == 0 then
      match data.reverse with
      | 0x3D :: 0x3D :: rest => rest.reverse
      | 0x3D :: rest => rest.reverse
      | _ => data
    else data
  if data.length % 4 == 1 then none
  else (data.mapM base64Value).map sextetBytes

/-- `base64UrlToBytes(input)`. -/
def base64UrlToBytes (input : JsString) : Except Exn Bytes :=
  let clean := input.map fun c => if c == 0x2D then 0x2B else if c == 0x5F then 0x2F else c
  let padLen := (4 - clean.length % 4) % 4
  match atob (clean ++ List.replicate padLen 0x3D) with
  | some bytes => .ok bytes
  | none => .error (.error (js "The string to be decoded is not correctly encoded."))

/-- `sha256B64url(bytes)`. -/
def Crypto.sha256B64url (crypto : Crypto) (bytes : Bytes) : JsString :=
  bytesToBase64Url (crypto.sha256 bytes)

/-- `decodeBase64Url(input)`. -/
def decodeBase64Url (input : JsString) : Except Exn Bytes := base64UrlToBytes input

theorem Crypto.sha256B64url_inj {crypto : Crypto} {hashed : List Bytes}
    (h : crypto.CollisionFree hashed) {a b : Bytes} (ha : a ∈ hashed) (hb : b ∈ hashed)
    (hab : crypto.sha256B64url a = crypto.sha256B64url b) : a = b :=
  h a ha b hb (bytesToBase64Url_inj hab)

example : decodeBase64Url (bytesToBase64Url [0xFB, 0xEF, 0x01, 0x7F]) = .ok [0xFB, 0xEF, 0x01, 0x7F] := by
  rfl

end Hundi
