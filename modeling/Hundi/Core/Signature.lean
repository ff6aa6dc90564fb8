/-
  packages/core/src/signature.ts — verification of the two envelope types.

  The verifying key always comes from the caller's registered credential.  `hexToBytes` keeps the
  source's `Number.parseInt(pair, 16)` and its prefix parse; a JWK is its JSON object.
-/
import Hundi.Core.Mandate

namespace Hundi

open Js

inductive Credential where
  | ed25519 (publicKeyHex : JsString)
  | webauthnEs256 (publicKeyJwk : JsonValue)

/-! ## hexToBytes -/

/-- The value of a hexadecimal digit. -/
def hexValue (c : UInt16) : Option Nat :=
  let n := c.toNat
  if 0x30 ≤ n && n ≤ 0x39 then some (n - 0x30)
  else if 0x61 ≤ n && n ≤ 0x66 then some (n - 0x57)
  else if 0x41 ≤ n && n ≤ 0x46 then some (n - 0x37)
  else none

/-- The white space and line terminators `parseInt` skips. -/
def isStrWhiteSpace (c : UInt16) : Bool :=
  [0x09, 0x0A, 0x0B, 0x0C, 0x0D, 0x20, 0xA0, 0x1680, 0x2028, 0x2029, 0x202F, 0x205F, 0x3000,
    0xFEFF].contains c || (0x2000 ≤ c.toNat && c.toNat ≤ 0x200A)

/-- The number a run of hexadecimal digits denotes: the longest prefix that is one. -/
def hexPrefix (s : JsString) : Option Nat :=
  match (s.takeWhile fun c => (hexValue c).isSome).filterMap hexValue with
  | [] => none
  | ds => some (ds.foldl (fun n d => n * 16 + d) 0)

/-- `Number.parseInt(s, 16)`, `none` for `NaN`. -/
def parseIntHex (s : JsString) : Option Int :=
  let s := s.dropWhile isStrWhiteSpace
  let (sign, s) : Int × JsString :=
    match s with
    | 0x2D :: rest => (-1, rest)
    | 0x2B :: rest => (1, rest)
    | _ => (1, s)
  let s :=
    match s with
    | 0x30 :: x :: rest => if x == 0x78 || x == 0x58 then rest else s
    | _ => s
  (hexPrefix s).map fun n => sign * n

/-- The pairs of `hexToBytes`, each stored modulo 256 as a `Uint8Array` does. -/
def hexPairs : JsString → Except Exn Bytes
  | a :: b :: rest =>
    match parseIntHex [a, b] with
    | none => .error (.error (js "hexToBytes: invalid hex string"))
    | some byte => do
      let bytes ← hexPairs rest
      return UInt8.ofNat (byte % 256).toNat :: bytes
  | _ => .ok []

/-- `hexToBytes(hex)`. -/
def hexToBytes (hex : JsString) : Except Exn Bytes :=
  if hex.length % 2 != 0 then .error (.error (js "hexToBytes: odd-length hex string"))
  else hexPairs hex

example : hexToBytes (js "0aFF") = .ok [0x0A, 0xFF] := by rfl
example : hexToBytes (js "0g") = .ok [0x00] := by rfl

/-! ## The two verifiers -/

/-- `!value` of a JSON property. -/
def falsy : Option JsonValue → Bool
  | none => true
  | some .null => true
  | some (.bool b) => !b
  | some (.num n) => n == 0
  | some (.str s) => s.isEmpty
  | some _ => false

/-- `decodeBase64Url(value)` of a property that need not be a string. -/
def decodeBase64UrlProperty : Option JsonValue → Except Exn Bytes
  | some (.str s) => decodeBase64Url s
  | _ => .error (.typeError (js "input.replace is not a function"))

/-- `jwkToRawP256PublicKey(jwk)`. -/
def jwkToRawP256PublicKey (jwk : JsonValue) : Except Exn Bytes :=
  if (jwk.get? (js "kty")).bind JsonValue.str? != some (js "EC") ||
      (jwk.get? (js "crv")).bind JsonValue.str? != some (js "P-256") ||
      falsy (jwk.get? (js "x")) || falsy (jwk.get? (js "y")) then
    .error (.error (js "jwkToRawP256PublicKey: expected an EC P-256 JWK with x and y"))
  else do
    let x ← decodeBase64UrlProperty (jwk.get? (js "x"))
    let y ← decodeBase64UrlProperty (jwk.get? (js "y"))
    if x.length != 32 || y.length != 32 then
      .error (.error (js "jwkToRawP256PublicKey: x/y must each be 32 bytes"))
    else return 0x04 :: (x ++ y)

/-- `verifyEd25519(payloadBytes, sig, credential)`. -/
def verifyEd25519 (crypto : Crypto) (payloadBytes : Bytes) (signatureHex publicKeyHex : JsString) :
    Except Exn Bool := do
  let message := crypto.sha256 payloadBytes
  let signature ← hexToBytes signatureHex
  let publicKey ← hexToBytes publicKeyHex
  crypto.ed25519Verify signature message publicKey

/-- `verifyWebauthnEs256(payloadBytes, sig, credential)`. -/
def verifyWebauthnEs256 (crypto : Crypto) (payloadBytes : Bytes)
    (clientDataJSONB64u authenticatorDataB64u signatureB64u : JsString) (publicKeyJwk : JsonValue) :
    Except Exn Bool := do
  let clientDataBytes ← decodeBase64Url clientDataJSONB64u
  match crypto.jsonParse (crypto.textDecode clientDataBytes) with
  | none => return false
  | some .null => .error (.typeError (js "Cannot read properties of null (reading 'type')"))
  | some clientData =>
    if (clientData.get? (js "type")).bind JsonValue.str? != some (js "webauthn.get") then
      return false
    else if (clientData.get? (js "challenge")).bind JsonValue.str?
        != some (crypto.sha256B64url payloadBytes) then
      return false
    else
      let authenticatorData ← decodeBase64Url authenticatorDataB64u
      let signature ← decodeBase64Url signatureB64u
      let publicKey ← jwkToRawP256PublicKey publicKeyJwk
      crypto.p256Verify signature (authenticatorData ++ crypto.sha256 clientDataBytes) publicKey

/-- `verifyMandateSignature(payloadBytes, sig, credential)`. -/
def verifyMandateSignature (crypto : Crypto) (payloadBytes : Bytes) (sig : SigEnvelope)
    (credential : Credential) : Except Exn Bool :=
  match sig, credential with
  | .ed25519 signatureHex, .ed25519 publicKeyHex =>
    verifyEd25519 crypto payloadBytes signatureHex publicKeyHex
  | .webauthnEs256 clientData authenticatorData signature, .webauthnEs256 jwk =>
    verifyWebauthnEs256 crypto payloadBytes clientData authenticatorData signature jwk
  | _, _ => .ok false

end Hundi
