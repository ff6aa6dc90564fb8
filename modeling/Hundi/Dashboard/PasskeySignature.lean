/-
  apps/dashboard/src/lib/webauthn.ts — the base64url of the console, and signing with a passkey.

  The console writes base64url by way of `btoa`, core with a loop of its own.  Both write one character
  a sextet (`Dashboard.bytesToBase64Url_eq`), so the challenge a passkey is asked to sign survives the
  authenticator, which decodes it and writes it into its client data again, and is the one the verifier
  computes from the payload.
-/
import Hundi.Core.Base64Url
import Hundi.Core.Signature
import Mathlib.Data.List.DropRight

namespace Hundi

open Js

/-! ## The codec -/

/-- `btoa(binary)`: standard base64 of a text of characters up to U+00FF. -/
def btoa (binary : JsString) : Except Exn JsString :=
  if binary.all fun c => c.toNat ≤ 0xFF then
    let ns := sextets (binary.map fun c => UInt8.ofNat c.toNat)
    .ok (ns.map base64Char ++ List.replicate ((4 - ns.length % 4) % 4) 0x3D)
  else .error (.error (js "The string to be encoded contains characters outside of the Latin1 range."))

namespace Dashboard

/-- `bytesToBase64Url(bytes)` of webauthn.ts. -/
def bytesToBase64Url (bytes : Bytes) : Except Exn JsString := do
  let binary := bytes.map fun byte => UInt16.ofNat byte.toNat
  let padded ← btoa binary
  let dashed := padded.map fun c => if c == 0x2B then 0x2D else c
  let scored := dashed.map fun c => if c == 0x2F then 0x5F else c
  return scored.rdropWhile fun c => c == 0x3D

/-- A character of standard base64 after both replacements. -/
theorem urlChar : ∀ n < 64,
    (if (if base64Char n == 0x2B then 0x2D else base64Char n) == 0x2F then 0x5F
      else if base64Char n == 0x2B then 0x2D else base64Char n) = base64UrlChars.getD n 0 ∧
    (base64UrlChars.getD n 0 == 0x3D) = false := by
  decide +kernel

/-- Dropping the padding leaves the characters in front of it. -/
theorem rdropWhile_padding {s : JsString} (k : Nat) (h : ∀ c ∈ s, (c == 0x3D) = false) :
    (s ++ List.replicate k 0x3D).rdropWhile (fun c => c == 0x3D) = s := by
  have hrev : ∀ c ∈ s.reverse, (c == 0x3D) = false := fun c hc => h c (List.mem_reverse.mp hc)
  rw [List.rdropWhile, List.reverse_append, List.reverse_replicate]
  have hdrop : (List.replicate k 0x3D ++ s.reverse).dropWhile (fun c => c == 0x3D) = s.reverse := by
    induction k with
    | zero =>
      rw [List.replicate_zero, List.nil_append]
      cases hs : s.reverse with
      | nil => rfl
      | cons c rest =>
        rw [List.dropWhile_cons_of_neg]
        rw [hrev c (hs ▸ List.mem_cons_self)]
        exact Bool.false_ne_true
    | succ k ih =>
      rw [List.replicate_succ, List.cons_append, List.dropWhile_cons_of_pos rfl]
      exact ih
  rw [hdrop, List.reverse_reverse]

theorem binary_byte (byte : UInt8) : (UInt16.ofNat byte.toNat).toNat = byte.toNat := by
  have hbyte := byte.toNat_lt
  exact UInt16.toNat_ofNat_of_lt' (by rw [UInt16.size]; omega)

/-- **The two codecs agree**: `btoa` never throws on bytes, and what is left of its output is core's. -/
theorem bytesToBase64Url_eq (bytes : Bytes) :
    Dashboard.bytesToBase64Url bytes = .ok (Hundi.bytesToBase64Url bytes) := by
  have hbinary : (bytes.map fun byte => UInt16.ofNat byte.toNat).map (fun c => UInt8.ofNat c.toNat)
      = bytes := by
    rw [List.map_map]
    refine (List.map_congr_left fun byte _ => ?_).trans (List.map_id bytes)
    show UInt8.ofNat (UInt16.ofNat byte.toNat).toNat = byte
    rw [binary_byte, UInt8.ofNat_toNat]
  have hlatin : (bytes.map fun byte => UInt16.ofNat byte.toNat).all (fun c => c.toNat ≤ 0xFF) = true := by
    rw [List.all_eq_true]
    intro c hc
    obtain ⟨byte, -, rfl⟩ := List.mem_map.mp hc
    have hbyte := byte.toNat_lt
    rw [binary_byte, decide_eq_true_eq]
    omega
  rw [Dashboard.bytesToBase64Url, btoa, if_pos hlatin]
  simp only [hbinary]
  show Except.ok _ = _
  refine congrArg Except.ok ?_
  rw [List.map_map, List.map_append, List.map_map, List.map_replicate, Hundi.bytesToBase64Url_eq]
  have hchars : (sextets bytes).map (((fun c => if (c == 0x2F) = true then 0x5F else c) ∘
      fun c => if (c == 0x2B) = true then 0x2D else c) ∘ base64Char)
      = (sextets bytes).map fun n => base64UrlChars.getD n 0 :=
    List.map_congr_left fun n hn => (urlChar n (sextets_lt bytes n hn)).1
  rw [hchars]
  refine rdropWhile_padding _ fun c hc => ?_
  obtain ⟨n, hn, rfl⟩ := List.mem_map.mp hc
  exact (urlChar n (sextets_lt bytes n hn)).2

/-! ## Signing -/

/-- The `optionsJSON` of `startAuthentication`. -/
structure RequestOptions where
  challenge : JsString
  rpId : JsString
  /-- The ids of `allowCredentials`, each of type `public-key`. -/
  allowCredentials : List JsString
  userVerification : JsString

/-- The `response` of an assertion: base64url texts. -/
structure AssertionResponse where
  clientDataJSON : JsString
  authenticatorData : JsString
  signature : JsString

/-- `buildWebauthnEnvelope(response)`. -/
def buildWebauthnEnvelope (response : AssertionResponse) : SigEnvelope :=
  .webauthnEs256 response.clientDataJSON response.authenticatorData response.signature

/-- `signWithPasskey(payloadBytes, credentialId, rpId)`, with the browser's `startAuthentication`. -/
def signWithPasskey (crypto : Crypto)
    (startAuthentication : RequestOptions → Except Exn AssertionResponse)
    (payloadBytes : Bytes) (credentialId rpId : JsString) : Except Exn SigEnvelope := do
  let response ← startAuthentication {
    challenge := crypto.sha256B64url payloadBytes
    rpId := rpId
    allowCredentials := [credentialId]
    userVerification := js "preferred" }
  return buildWebauthnEnvelope response

/-- The client data of a response as the verifier reads it. -/
def clientDataOf (crypto : Crypto) (response : AssertionResponse) : Option JsonValue :=
  match decodeBase64Url response.clientDataJSON with
  | .ok bytes => crypto.jsonParse (crypto.textDecode bytes)
  | .error _ => none

/-- The client data is that of an assertion and names the challenge. -/
def Names (clientData : JsonValue) (challenge : JsString) : Prop :=
  (clientData.get? (js "type")).bind JsonValue.str? = some (js "webauthn.get") ∧
    (clientData.get? (js "challenge")).bind JsonValue.str? = some challenge

/-- What the verifier asks once the challenge is the right one. -/
def checkSignature (crypto : Crypto) (response : AssertionResponse) (jwk : JsonValue) :
    Except Exn Bool := do
  let clientDataBytes ← decodeBase64Url response.clientDataJSON
  let authenticatorData ← decodeBase64Url response.authenticatorData
  let signature ← decodeBase64Url response.signature
  let publicKey ← jwkToRawP256PublicKey jwk
  crypto.p256Verify signature (authenticatorData ++ crypto.sha256 clientDataBytes) publicKey

/-- The verifier on client data that is no `null`. -/
theorem verifyWebauthnEs256_eq {crypto : Crypto} {response : AssertionResponse} {clientData : JsonValue}
    (h : clientDataOf crypto response = some clientData) (hnull : clientData ≠ .null)
    (payloadBytes : Bytes) (jwk : JsonValue) :
    verifyWebauthnEs256 crypto payloadBytes response.clientDataJSON response.authenticatorData
        response.signature jwk =
      if (clientData.get? (js "type")).bind JsonValue.str? != some (js "webauthn.get") then .ok false
      else if (clientData.get? (js "challenge")).bind JsonValue.str?
          != some (crypto.sha256B64url payloadBytes) then .ok false
      else checkSignature crypto response jwk := by
  rw [clientDataOf] at h
  cases hbytes : decodeBase64Url response.clientDataJSON with
  | error e =>
    rw [hbytes] at h
    exact absurd h (by simp)
  | ok clientDataBytes =>
    rw [hbytes] at h
    dsimp only at h
    rw [verifyWebauthnEs256, checkSignature, hbytes]
    dsimp only [bind, Except.bind]
    rw [h]
    cases clientData with
    | null => exact absurd rfl hnull
    | _ => rfl

/-- **The verifier takes the challenge of the payload and no other.** -/
theorem verify_envelope {crypto : Crypto} {response : AssertionResponse} {clientData : JsonValue}
    (h : clientDataOf crypto response = some clientData) (payloadBytes : Bytes) (jwk : JsonValue) :
    (Names clientData (crypto.sha256B64url payloadBytes) →
      verifyMandateSignature crypto payloadBytes (buildWebauthnEnvelope response) (.webauthnEs256 jwk)
        = checkSignature crypto response jwk) ∧
    (¬ Names clientData (crypto.sha256B64url payloadBytes) →
      verifyMandateSignature crypto payloadBytes (buildWebauthnEnvelope response) (.webauthnEs256 jwk)
        ≠ .ok true) := by
  have hverify : verifyMandateSignature crypto payloadBytes (buildWebauthnEnvelope response)
      (.webauthnEs256 jwk) = verifyWebauthnEs256 crypto payloadBytes response.clientDataJSON
        response.authenticatorData response.signature jwk := rfl
  rw [hverify]
  by_cases hnull : clientData = .null
  · -- reading a property of `null` throws
    subst hnull
    refine ⟨fun hnames => absurd hnames.1 (by decide), fun _ hok => ?_⟩
    rw [clientDataOf] at h
    cases hbytes : decodeBase64Url response.clientDataJSON with
    | error e =>
      rw [hbytes] at h
      exact absurd h (by simp)
    | ok clientDataBytes =>
      rw [hbytes] at h
      dsimp only at h
      rw [verifyWebauthnEs256, hbytes] at hok
      dsimp only [bind, Except.bind] at hok
      rw [h] at hok
      exact absurd hok (by simp)
  · rw [verifyWebauthnEs256_eq h hnull]
    constructor
    · intro hnames
      rw [if_neg (by simp [hnames.1]), if_neg (by simp [hnames.2])]
    · intro hnames
      split
      · simp
      split
      · simp
      · rename_i htype hchallenge
        simp only [bne_iff_ne, ne_eq, not_not] at htype hchallenge
        exact absurd ⟨htype, hchallenge⟩ hnames

/-- **Base64url codecs agree.**  On every byte string the console's codec writes what core's writes, in
    the URL alphabet and unpadded, and core reads the bytes back.  So the challenge `signWithPasskey`
    sends stands for the payload's hash, whoever decodes and encodes it on the way, and is the one the
    verifier computes: a response whose client data names it comes to its signature check, and no
    other response verifies. -/
theorem base64url_codecs_agree :
    (∀ bytes : Bytes, Dashboard.bytesToBase64Url bytes = .ok (Hundi.bytesToBase64Url bytes) ∧
      (∀ c ∈ Hundi.bytesToBase64Url bytes, c ∈ base64UrlChars) ∧
      decodeBase64Url (Hundi.bytesToBase64Url bytes) = .ok bytes) ∧
    ∀ (crypto : Crypto) (startAuthentication : RequestOptions → Except Exn AssertionResponse)
      (payloadBytes : Bytes) (credentialId rpId : JsString),
      ∃ challenge,
        signWithPasskey crypto startAuthentication payloadBytes credentialId rpId
          = (startAuthentication ⟨challenge, rpId, [credentialId], js "preferred"⟩).map
              buildWebauthnEnvelope ∧
        decodeBase64Url challenge = .ok (crypto.sha256 payloadBytes) ∧
        Dashboard.bytesToBase64Url (crypto.sha256 payloadBytes) = .ok challenge ∧
        ∀ response clientData jwk, clientDataOf crypto response = some clientData →
          (Names clientData challenge →
            verifyMandateSignature crypto payloadBytes (buildWebauthnEnvelope response)
              (.webauthnEs256 jwk) = checkSignature crypto response jwk) ∧
          (¬ Names clientData challenge →
            verifyMandateSignature crypto payloadBytes (buildWebauthnEnvelope response)
              (.webauthnEs256 jwk) ≠ .ok true) := by
  refine ⟨fun bytes => ⟨bytesToBase64Url_eq bytes, fun c => mem_bytesToBase64Url,
    decodeBase64Url_bytesToBase64Url bytes⟩, ?_⟩
  intro crypto startAuthentication payloadBytes credentialId rpId
  refine ⟨crypto.sha256B64url payloadBytes, ?_, decodeBase64Url_bytesToBase64Url _,
    bytesToBase64Url_eq _, fun response clientData jwk h => verify_envelope h payloadBytes jwk⟩
  rw [signWithPasskey]
  cases startAuthentication _ with
  | error e => rfl
  | ok response => rfl

/-- A hash of four bytes, and client data that names it. -/
def demoPasskeyCrypto : Crypto where
  sha256 _ := [0xFB, 0xEF, 0x01, 0x7F]
  ed25519Verify _ _ _ := .ok false
  p256Verify _ _ _ := .ok true
  hmacSha256Hex _ _ := []
  textDecode _ := []
  jsonParse _ := some (.obj [(js "type", .str (js "webauthn.get")), (js "challenge", .str (js "--8Bfw"))])

/-- The challenge sent is `--8Bfw`, and the response that names it comes to its signature check. -/
theorem base64url_codecs_agree_demo : ∃ response,
    verifyMandateSignature demoPasskeyCrypto [1] (buildWebauthnEnvelope response) (.webauthnEs256 .null)
      = checkSignature demoPasskeyCrypto response .null := by
  obtain ⟨challenge, -, hdecode, hencode, hchecks⟩ :=
    base64url_codecs_agree.2 demoPasskeyCrypto (fun _ => .ok ⟨[], [], []⟩) [1] [] []
  refine ⟨⟨[], [], []⟩, (hchecks ⟨[], [], []⟩ _ .null rfl).1 ⟨rfl, ?_⟩⟩
  rw [bytesToBase64Url_eq] at hencode
  rw [← Except.ok.inj hencode]
  rfl

end Dashboard

end Hundi
