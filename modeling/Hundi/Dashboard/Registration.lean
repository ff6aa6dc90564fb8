/-
  apps/dashboard/src/lib/webauthn.ts — the public key of a new passkey, as a JWK.

  There are two ways to it.  The one over SPKI takes the last 65 bytes of the DER and cuts x and y out of
  them, so that both have 32 bytes.  The one over the authenticator data decodes the COSE key behind the
  credential id and takes whatever byte strings it has for x and y: `FitsP256` says that they have 32
  bytes, which `jwkToRawP256PublicKey` of core insists on.

  For the key of one point the two ways give one JWK, whatever order and widths the COSE key is written
  in and whatever follows it.
-/
import Hundi.Dashboard.CborExact
import Hundi.Dashboard.PasskeySignature

namespace Hundi

open Js Cbor

namespace Dashboard

/-! ## The extraction -/

/-- `{ kty: 'EC', crv: 'P-256', x, y }`. -/
def p256Jwk (x y : JsString) : JsonValue :=
  .obj [(js "kty", .str (js "EC")), (js "crv", .str (js "P-256")), (js "x", .str x), (js "y", .str y)]

/-- `spkiDerToP256Jwk(der)`. -/
def spkiDerToP256Jwk (der : Bytes) : Except Exn JsonValue :=
  let point := der.drop (der.length - 65)
  if point.length ≠ 65 ∨ point[0]? ≠ some 0x04 then
    .error (.error
      (js "spkiDerToP256Jwk: not an uncompressed P-256 point (unexpected SPKI shape)"))
  else do
    let x ← Dashboard.bytesToBase64Url ((point.drop 1).take 32)
    let y ← Dashboard.bytesToBase64Url ((point.drop 33).take 32)
    return p256Jwk x y

/-- `map.get(key)`. -/
def mapGet (entries : List (Value × Value)) (key : Value) : Option Value :=
  (entries.find? fun e => sameKey e.1 key).map Prod.snd

/-- `extractAuthDataFromAttestationObject(attestationObject)`. -/
def extractAuthDataFromAttestationObject (attestationObject : Bytes) : Except Exn Bytes := do
  let (value, _) ← decodeCborValue attestationObject 0
  match value with
  | .map entries =>
    match mapGet entries (.text (js "authData")) with
    | some (.bytes authData) => return authData
    | _ => .error (.error (js "attestationObject.authData missing"))
  | _ => .error (.error (js "attestationObject is not a CBOR map"))

/-- `AUTH_DATA_FLAGS_OFFSET`. -/
def flagsOffset : Nat := 32

/-- Where the length of the credential id stands: behind the flags, the counter and the AAGUID. -/
def credIdLenOffset : Nat := flagsOffset + 1 + 4 + 16

/-- `flags & AUTH_DATA_FLAG_ATTESTED_CREDENTIAL_DATA`. -/
def Attested (authData : Bytes) : Prop :=
  ∃ flags, authData[flagsOffset]? = some flags ∧ flags &&& 0x40 ≠ 0

/-- `publicKeyOffset`; a missing byte of the length is `undefined`, which counts as 0. -/
def publicKeyOffset (authData : Bytes) : Nat :=
  let byte (i : Nat) : Nat := ((authData[i]?).map UInt8.toNat).getD 0
  let credIdLen := byte credIdLenOffset <<< 8 ||| byte (credIdLenOffset + 1)
  credIdLenOffset + 2 + credIdLen

/-- The COSE key of the credential, as a JWK. -/
def coseToP256Jwk (cose : Value) : Except Exn JsonValue :=
  match cose with
  | .map entries =>
    match mapGet entries (.int 1), mapGet entries (.int (-1)), mapGet entries (.int (-2)),
      mapGet entries (.int (-3)) with
    | some (.int kty), some (.int crv), some (.bytes x), some (.bytes y) =>
      if kty ≠ 2 ∨ crv ≠ 1 then
        .error (.error (js "credentialPublicKey is not an EC2/P-256 COSE key"))
      else do
        let x ← Dashboard.bytesToBase64Url x
        let y ← Dashboard.bytesToBase64Url y
        return p256Jwk x y
    | _, _, _, _ => .error (.error (js "credentialPublicKey is not an EC2/P-256 COSE key"))
  | _ => .error (.error (js "credentialPublicKey is not a CBOR map"))

/-- `decodeAuthDataPublicKeyJwk(authData)`. -/
def decodeAuthDataPublicKeyJwk (authData : Bytes) : Except Exn JsonValue :=
  match authData[flagsOffset]? with
  | none => .error (.error (js "authenticatorData has no attested credential data (AT flag unset)"))
  | some flags =>
    if flags &&& 0x40 = 0 then
      .error (.error (js "authenticatorData has no attested credential data (AT flag unset)"))
    else do
      let (cose, _) ← decodeCborValue authData (publicKeyOffset authData)
      coseToP256Jwk cose

/-- The response of a registration: base64url texts. -/
structure AttestationResponse where
  publicKey : Option JsString
  authenticatorData : Option JsString
  attestationObject : JsString

/-- The `authData` of `extractP256Jwk`; an empty text is as good as none. -/
def authDataOf (response : AttestationResponse) : Except Exn Bytes :=
  match response.authenticatorData with
  | some (c :: authenticatorData) => decodeBase64Url (c :: authenticatorData)
  | _ => do
    let attestationObject ← decodeBase64Url response.attestationObject
    extractAuthDataFromAttestationObject attestationObject

/-- `extractP256Jwk(response)`. -/
def extractP256Jwk (response : AttestationResponse) : Except Exn JsonValue :=
  match response.publicKey with
  | some (c :: publicKey) => do
    let der ← decodeBase64Url (c :: publicKey)
    spkiDerToP256Jwk der
  | _ => do
    let authData ← authDataOf response
    decodeAuthDataPublicKeyJwk authData

/-! ## What the verifier accepts -/

/-- The extraction throws, or the JWK it gives can be used. -/
def Usable (r : Except Exn JsonValue) : Prop :=
  ∀ jwk, r = .ok jwk → ∃ raw, jwkToRawP256PublicKey jwk = .ok raw

theorem falsy_str (s : JsString) : falsy (some (.str s)) = s.isEmpty := rfl

/-- **Core takes the JWK of a point of 32-byte coordinates and of no others.** -/
theorem jwkToRawP256PublicKey_p256Jwk (x y : Bytes) :
    (∃ raw, jwkToRawP256PublicKey (p256Jwk (Hundi.bytesToBase64Url x) (Hundi.bytesToBase64Url y))
      = .ok raw) ↔ x.length = 32 ∧ y.length = 32 := by
  have hx : (p256Jwk (Hundi.bytesToBase64Url x) (Hundi.bytesToBase64Url y)).get? (js "x")
      = some (.str (Hundi.bytesToBase64Url x)) := rfl
  have hy : (p256Jwk (Hundi.bytesToBase64Url x) (Hundi.bytesToBase64Url y)).get? (js "y")
      = some (.str (Hundi.bytesToBase64Url y)) := rfl
  have hkty : ((p256Jwk (Hundi.bytesToBase64Url x) (Hundi.bytesToBase64Url y)).get? (js "kty")).bind
      JsonValue.str? = some (js "EC") := rfl
  have hcrv : ((p256Jwk (Hundi.bytesToBase64Url x) (Hundi.bytesToBase64Url y)).get? (js "crv")).bind
      JsonValue.str? = some (js "P-256") := rfl
  have hempty : ∀ bytes : Bytes, (Hundi.bytesToBase64Url bytes).isEmpty = true → bytes = [] := by
    intro bytes h
    have hlen := length_bytesToBase64Url bytes
    rw [List.isEmpty_iff.mp h, List.length_nil] at hlen
    exact List.eq_nil_of_length_eq_zero (by omega)
  rw [jwkToRawP256PublicKey, hx, hy, hkty, hcrv, falsy_str, falsy_str]
  simp only [bne_self_eq_false, Bool.false_or]
  cases hfalsy : ((Hundi.bytesToBase64Url x).isEmpty || (Hundi.bytesToBase64Url y).isEmpty) with
  | true =>
    rw [if_pos rfl]
    constructor
    · rintro ⟨raw, hraw⟩
      exact absurd hraw (by simp)
    · rintro ⟨hxlen, hylen⟩
      rcases Bool.or_eq_true_iff.mp hfalsy with h | h
      · rw [hempty x h] at hxlen
        exact absurd hxlen (by decide)
      · rw [hempty y h] at hylen
        exact absurd hylen (by decide)
  | false =>
    rw [if_neg Bool.false_ne_true]
    simp only [decodeBase64UrlProperty, decodeBase64Url_bytesToBase64Url]
    show (∃ raw, (if (x.length != 32 || y.length != 32) = true then _ else _) = Except.ok raw) ↔ _
    by_cases hlen : x.length = 32 ∧ y.length = 32
    · rw [if_neg (by simp [hlen.1, hlen.2])]
      exact ⟨fun _ => hlen, fun _ => ⟨_, rfl⟩⟩
    · rw [if_pos (by
        rw [Bool.or_eq_true, bne_iff_ne, bne_iff_ne]
        by_cases hxlen : x.length = 32
        · exact Or.inr fun hylen => hlen ⟨hxlen, hylen⟩
        · exact Or.inl hxlen)]
      exact ⟨fun ⟨raw, hraw⟩ => absurd hraw (by simp), fun h => absurd h hlen⟩

/-- The DER way gives two coordinates of 32 bytes or throws. -/
theorem spkiDerToP256Jwk_eq (der : Bytes) :
    (∃ e, spkiDerToP256Jwk der = .error e) ∨ ∃ x y : Bytes, x.length = 32 ∧ y.length = 32 ∧
      spkiDerToP256Jwk der
        = .ok (p256Jwk (Hundi.bytesToBase64Url x) (Hundi.bytesToBase64Url y)) := by
  rw [spkiDerToP256Jwk]
  generalize der.drop (der.length - 65) = point
  by_cases hshape : point.length ≠ 65 ∨ point[0]? ≠ some 0x04
  · rw [if_pos hshape]
    exact Or.inl ⟨_, rfl⟩
  · have hlen : point.length = 65 := not_not.mp fun hne => hshape (Or.inl hne)
    rw [if_neg hshape, bytesToBase64Url_eq, bytesToBase64Url_eq]
    refine Or.inr ⟨(point.drop 1).take 32, (point.drop 33).take 32, ?_, ?_, rfl⟩
    · rw [List.length_take, List.length_drop, hlen]
      rfl
    · rw [List.length_take, List.length_drop, hlen]
      rfl

theorem usable_spki (der : Bytes) : Usable (spkiDerToP256Jwk der) := by
  intro jwk hjwk
  rcases spkiDerToP256Jwk_eq der with ⟨e, he⟩ | ⟨x, y, hx, hy, hok⟩
  · exact absurd (he.symm.trans hjwk) (by simp)
  · obtain rfl := Except.ok.inj (hok.symm.trans hjwk)
    exact (jwkToRawP256PublicKey_p256Jwk x y).mpr ⟨hx, hy⟩

/-! ## The COSE key -/

/-- The value is the COSE key of an EC2 point on P-256 with these coordinates, of whatever length. -/
def KeyOf (v : Value) (x y : Bytes) : Prop :=
  ∃ entries, v = .map entries ∧ mapGet entries (.int 1) = some (.int 2) ∧
    mapGet entries (.int (-1)) = some (.int 1) ∧ mapGet entries (.int (-2)) = some (.bytes x) ∧
    mapGet entries (.int (-3)) = some (.bytes y)

/-- **What the COSE way takes.** -/
theorem coseToP256Jwk_ok {v : Value} {jwk : JsonValue} :
    coseToP256Jwk v = .ok jwk ↔ ∃ x y, KeyOf v x y ∧
      jwk = p256Jwk (Hundi.bytesToBase64Url x) (Hundi.bytesToBase64Url y) := by
  constructor
  · intro h
    unfold coseToP256Jwk at h
    split at h
    · rename_i entries
      split at h
      · rename_i kty crv x y hkty hcrv hx hy
        by_cases hkey : kty ≠ 2 ∨ crv ≠ 1
        · rw [if_pos hkey] at h
          exact absurd h (by simp)
        · rw [if_neg hkey, bytesToBase64Url_eq, bytesToBase64Url_eq] at h
          have hkty' : kty = 2 := not_not.mp fun hne => hkey (Or.inl hne)
          have hcrv' : crv = 1 := not_not.mp fun hne => hkey (Or.inr hne)
          refine ⟨x, y, ⟨entries, rfl, hkty' ▸ hkty, hcrv' ▸ hcrv, hx, hy⟩, ?_⟩
          exact (Except.ok.inj h).symm
      · exact absurd h (by simp)
    · exact absurd h (by simp)
  · rintro ⟨x, y, ⟨entries, rfl, hkty, hcrv, hx, hy⟩, rfl⟩
    unfold coseToP256Jwk
    dsimp only
    rw [hkty, hcrv, hx, hy]
    dsimp only
    rw [if_neg (by decide), bytesToBase64Url_eq, bytesToBase64Url_eq]
    rfl

/-- **What the way over authenticator data takes**: a COSE key read behind the credential id. -/
theorem decodeAuthDataPublicKeyJwk_ok {authData : Bytes} {jwk : JsonValue} :
    decodeAuthDataPublicKeyJwk authData = .ok jwk ↔ Attested authData ∧
      ∃ item e x y, Reads authData item (some (publicKeyOffset authData)) e ∧
        KeyOf (valueOf item) x y ∧
        jwk = p256Jwk (Hundi.bytesToBase64Url x) (Hundi.bytesToBase64Url y) := by
  have hdecoded : (∃ v e, decodeCborValue authData (publicKeyOffset authData) = .ok (v, e) ∧
      coseToP256Jwk v = .ok jwk) ↔
      ∃ item e x y, Reads authData item (some (publicKeyOffset authData)) e ∧
        KeyOf (valueOf item) x y ∧
        jwk = p256Jwk (Hundi.bytesToBase64Url x) (Hundi.bytesToBase64Url y) := by
    constructor
    · rintro ⟨v, e, hv, hjwk⟩
      obtain ⟨item, hr, rfl⟩ := decodeCborValue_iff.mp hv
      obtain ⟨x, y, hkey, rfl⟩ := coseToP256Jwk_ok.mp hjwk
      exact ⟨item, e, x, y, hr, hkey, rfl⟩
    · rintro ⟨item, e, x, y, hr, hkey, rfl⟩
      exact ⟨valueOf item, e, decodeCborValue_iff.mpr ⟨item, hr, rfl⟩,
        coseToP256Jwk_ok.mpr ⟨x, y, hkey, rfl⟩⟩
  rw [← hdecoded, decodeAuthDataPublicKeyJwk, Attested]
  cases hflags : authData[flagsOffset]? with
  | none => exact ⟨fun h => absurd h (by simp), fun ⟨⟨_, h, _⟩, _⟩ => absurd h (by simp)⟩
  | some flags =>
    dsimp only
    by_cases hbit : flags &&& 0x40 = 0
    · rw [if_pos hbit]
      refine ⟨fun h => absurd h (by simp), ?_⟩
      rintro ⟨⟨flags', hsome, hset⟩, -⟩
      obtain rfl := Option.some.inj hsome
      exact absurd hbit hset
    · rw [if_neg hbit, bind_eq_ok]
      constructor
      · rintro ⟨⟨v, e⟩, hv, hjwk⟩
        exact ⟨⟨flags, rfl, hbit⟩, v, e, hv, hjwk⟩
      · rintro ⟨-, v, e, hv, hjwk⟩
        exact ⟨(v, e), hv, hjwk⟩

/-- The COSE key that is read from the authenticator data has coordinates of 32 bytes. -/
def FitsP256 (authData : Bytes) : Prop :=
  Attested authData → ∀ item e x y, Reads authData item (some (publicKeyOffset authData)) e →
    KeyOf (valueOf item) x y → x.length = 32 ∧ y.length = 32

theorem usable_authData (authData : Bytes) :
    Usable (decodeAuthDataPublicKeyJwk authData) ↔ FitsP256 authData := by
  constructor
  · intro husable hattested item e x y hr hkey
    exact (jwkToRawP256PublicKey_p256Jwk x y).mp
      (husable _ (decodeAuthDataPublicKeyJwk_ok.mpr ⟨hattested, item, e, x, y, hr, hkey, rfl⟩))
  · intro hfits jwk hjwk
    obtain ⟨hattested, item, e, x, y, hr, hkey, rfl⟩ := decodeAuthDataPublicKeyJwk_ok.mp hjwk
    exact (jwkToRawP256PublicKey_p256Jwk x y).mpr (hfits hattested item e x y hr hkey)

/-! ## The response -/

/-- The text is there and not empty. -/
def Given (text : Option JsString) (s : JsString) : Prop := text = some s ∧ s ≠ []

/-- The response comes without SPKI, and its authenticator data, its own or the attestation object's,
    are these. -/
def Carries (response : AttestationResponse) (authData : Bytes) : Prop :=
  (∀ s, ¬ Given response.publicKey s) ∧
    ((∃ s, Given response.authenticatorData s ∧ decodeBase64Url s = .ok authData) ∨
      (∀ s, ¬ Given response.authenticatorData s) ∧
        ∃ object item e entries, decodeBase64Url response.attestationObject = .ok object ∧
          Reads object item (some 0) e ∧ valueOf item = .map entries ∧
          mapGet entries (.text (js "authData")) = some (.bytes authData))

theorem extractAuthData_ok {object authData : Bytes} :
    extractAuthDataFromAttestationObject object = .ok authData ↔
      ∃ item e entries, Reads object item (some 0) e ∧ valueOf item = .map entries ∧
        mapGet entries (.text (js "authData")) = some (.bytes authData) := by
  rw [extractAuthDataFromAttestationObject, bind_eq_ok]
  constructor
  · rintro ⟨⟨v, e⟩, hv, h⟩
    obtain ⟨item, hr, hvalue⟩ := decodeCborValue_iff.mp hv
    dsimp only at h
    split at h
    · rename_i entries
      split at h
      · rename_i found hget
        obtain rfl := Except.ok.inj h
        exact ⟨item, e, entries, hr, hvalue, hget⟩
      · exact absurd h (by simp)
    · exact absurd h (by simp)
  · rintro ⟨item, e, entries, hr, hvalue, hget⟩
    refine ⟨(.map entries, e), decodeCborValue_iff.mpr ⟨item, hr, hvalue⟩, ?_⟩
    dsimp only
    rw [hget]
    rfl

theorem not_given_none (s : JsString) : ¬ Given none s := fun h => absurd h.1 (by simp)

theorem not_given_empty (s : JsString) : ¬ Given (some []) s := fun h =>
  h.2 (Option.some.inj h.1).symm

theorem given_cons (c : UInt16) (s : JsString) : Given (some (c :: s)) (c :: s) :=
  ⟨rfl, List.cons_ne_nil _ _⟩

/-- Without SPKI the response stands for the authenticator data it carries. -/
theorem extractP256Jwk_carried {response : AttestationResponse}
    (hnone : ∀ s, ¬ Given response.publicKey s) {jwk : JsonValue} :
    extractP256Jwk response = .ok jwk ↔
      ∃ authData, Carries response authData ∧ decodeAuthDataPublicKeyJwk authData = .ok jwk := by
  obtain ⟨publicKey, authenticatorData, attestationObject⟩ := response
  have hpk : publicKey = none ∨ publicKey = some [] := by
    match publicKey, hnone with
    | none, _ => exact Or.inl rfl
    | some [], _ => exact Or.inr rfl
    | some (c :: s), hnone => exact absurd (given_cons c s) (hnone _)
  have hstep : extractP256Jwk ⟨publicKey, authenticatorData, attestationObject⟩ =
      authDataOf ⟨publicKey, authenticatorData, attestationObject⟩ >>= decodeAuthDataPublicKeyJwk := by
    rcases hpk with rfl | rfl <;> rfl
  rw [hstep, bind_eq_ok]
  refine exists_congr fun authData => and_congr_left fun _ => ?_
  have hobject : ((decodeBase64Url attestationObject >>= extractAuthDataFromAttestationObject)
      = .ok authData) ↔ ∃ object item e entries, decodeBase64Url attestationObject = .ok object ∧
        Reads object item (some 0) e ∧ valueOf item = .map entries ∧
        mapGet entries (.text (js "authData")) = some (.bytes authData) := by
    rw [bind_eq_ok]
    constructor
    · rintro ⟨object, hobject, h⟩
      obtain ⟨item, e, entries, h⟩ := extractAuthData_ok.mp h
      exact ⟨object, item, e, entries, hobject, h⟩
    · rintro ⟨object, item, e, entries, hobject, h⟩
      exact ⟨object, hobject, extractAuthData_ok.mpr ⟨item, e, entries, h⟩⟩
  match authenticatorData with
  | none =>
    rw [authDataOf]
    dsimp only
    rw [hobject]
    refine ⟨fun h => ⟨hnone, Or.inr ⟨not_given_none, h⟩⟩, fun h => ?_⟩
    rcases h.2 with ⟨s, hs, -⟩ | ⟨-, h⟩
    · exact absurd hs (not_given_none s)
    · exact h
  | some [] =>
    rw [authDataOf]
    dsimp only
    rw [hobject]
    refine ⟨fun h => ⟨hnone, Or.inr ⟨not_given_empty, h⟩⟩, fun h => ?_⟩
    rcases h.2 with ⟨s, hs, -⟩ | ⟨-, h⟩
    · exact absurd hs (not_given_empty s)
    · exact h
  | some (c :: s) =>
    rw [authDataOf]
    dsimp only
    refine ⟨fun h => ⟨hnone, Or.inl ⟨c :: s, given_cons c s, h⟩⟩, fun h => ?_⟩
    rcases h.2 with ⟨s', hs', h⟩ | ⟨hno, -⟩
    · obtain rfl := Option.some.inj hs'.1
      exact h
    · exact absurd (given_cons c s) (hno _)

theorem usable_response (response : AttestationResponse) :
    Usable (extractP256Jwk response) ↔ ∀ authData, Carries response authData → FitsP256 authData := by
  by_cases hgiven : ∃ s, Given response.publicKey s
  · -- the SPKI way, whatever else the response has
    obtain ⟨s, hs, hne⟩ := hgiven
    refine ⟨fun _ authData hcarries => absurd ⟨hs, hne⟩ (hcarries.1 s), fun _ jwk hjwk => ?_⟩
    obtain ⟨c, s, rfl⟩ := List.exists_cons_of_ne_nil hne
    rw [extractP256Jwk, hs] at hjwk
    obtain ⟨der, -, hjwk⟩ := bind_eq_ok.mp hjwk
    exact usable_spki der jwk hjwk
  · have hnone : ∀ s, ¬ Given response.publicKey s := fun s hs => hgiven ⟨s, hs⟩
    constructor
    · intro husable authData hcarries
      rw [← usable_authData]
      exact fun jwk hjwk => husable jwk ((extractP256Jwk_carried hnone).mpr ⟨authData, hcarries, hjwk⟩)
    · intro hfits jwk hjwk
      obtain ⟨authData, hcarries, hjwk⟩ := (extractP256Jwk_carried hnone).mp hjwk
      exact (usable_authData authData).mpr (hfits authData hcarries) jwk hjwk

/-! ## One point, two ways -/

/-- What stands in front of the point in the SPKI of a P-256 key: the two object identifiers and the
    header of the bit string. -/
def spkiHeader : Bytes :=
  [0x30, 0x59, 0x30, 0x13, 0x06, 0x07, 0x2A, 0x86, 0x48, 0xCE, 0x3D, 0x02, 0x01, 0x06, 0x08, 0x2A, 0x86,
    0x48, 0xCE, 0x3D, 0x03, 0x01, 0x07, 0x03, 0x42, 0x00]

/-- The SPKI DER of the point. -/
def spkiDer (x y : Bytes) : Bytes := spkiHeader ++ 0x04 :: (x ++ y)

/-- The entries of the COSE key of the point: type EC2, algorithm ES256, curve P-256, x and y. -/
def coseEntries (x y : Bytes) : List (Value × Value) :=
  [(.int 1, .int 2), (.int 3, .int (-7)), (.int (-1), .int 1), (.int (-2), .bytes x),
    (.int (-3), .bytes y)]

/-- Well-formed authenticator data with the COSE key of the point, in any order and any encoding, and
    whatever extensions follow it. -/
structure AttestedData (x y : Bytes) where
  rpIdHash : Bytes
  flags : UInt8
  signCount : Bytes
  aaguid : Bytes
  credentialId : Bytes
  entries : List (Value × Value)
  key : Bytes
  extensions : Bytes
  rpIdHash_length : rpIdHash.length = 32
  attested : flags &&& 0x40 ≠ 0
  signCount_length : signCount.length = 4
  aaguid_length : aaguid.length = 16
  credentialId_length : credentialId.length < 65536
  entries_perm : entries.Perm (coseEntries x y)
  key_encodes : Encodes (.map entries) key

namespace AttestedData

variable {x y : Bytes}

/-- Up to the length of the credential id. -/
def front (d : AttestedData x y) : Bytes := d.rpIdHash ++ d.flags :: (d.signCount ++ d.aaguid)

def bytes (d : AttestedData x y) : Bytes :=
  d.front ++ UInt8.ofNat (d.credentialId.length / 256) :: UInt8.ofNat (d.credentialId.length % 256) ::
    (d.credentialId ++ (d.key ++ d.extensions))

theorem front_length (d : AttestedData x y) : d.front.length = credIdLenOffset := by
  rw [front, List.length_append, List.length_cons, List.length_append, d.rpIdHash_length,
    d.signCount_length, d.aaguid_length]
  rfl

theorem isAttested (d : AttestedData x y) : Attested d.bytes := by
  refine ⟨d.flags, ?_, d.attested⟩
  rw [bytes, front, List.append_assoc, List.getElem?_append_right
    (by rw [d.rpIdHash_length]; exact Nat.le_refl _), d.rpIdHash_length]
  rfl

/-- The key stands behind the credential id. -/
theorem key_offset (d : AttestedData x y) :
    publicKeyOffset d.bytes = credIdLenOffset + 2 + d.credentialId.length := by
  have hget : ∀ i, d.bytes[credIdLenOffset + i]? =
      (UInt8.ofNat (d.credentialId.length / 256) :: UInt8.ofNat (d.credentialId.length % 256) ::
        (d.credentialId ++ (d.key ++ d.extensions)))[i]? := by
    intro i
    rw [bytes, List.getElem?_append_right (by rw [d.front_length]; exact Nat.le_add_right _ _),
      d.front_length, Nat.add_sub_cancel_left]
  have h0 := hget 0
  have h1 := hget 1
  rw [Nat.add_zero] at h0
  have hlen := d.credentialId_length
  rw [publicKeyOffset]
  dsimp only
  rw [h0, h1]
  show credIdLenOffset + 2 + ((UInt8.ofNat (d.credentialId.length / 256)).toNat <<< 8 |||
    (UInt8.ofNat (d.credentialId.length % 256)).toNat) = _
  rw [shift_or, toNat_ofNat_byte (by omega), toNat_ofNat_byte (by omega)]
  omega

theorem key_starts (d : AttestedData x y) : d.key <+: d.bytes.drop (publicKeyOffset d.bytes) := by
  have hlen : credIdLenOffset + 2 + d.credentialId.length = (d.front ++
      UInt8.ofNat (d.credentialId.length / 256) :: UInt8.ofNat (d.credentialId.length % 256) ::
        d.credentialId).length := by
    rw [List.length_append, List.length_cons, List.length_cons, d.front_length]
    omega
  have hsplit : d.bytes = (d.front ++ UInt8.ofNat (d.credentialId.length / 256) ::
      UInt8.ofNat (d.credentialId.length % 256) :: d.credentialId) ++ (d.key ++ d.extensions) := by
    rw [bytes, List.append_assoc]
    rfl
  rw [key_offset, hlen, hsplit, List.drop_left]
  exact List.prefix_append _ _

end AttestedData

theorem plainEntries_iff {entries : List (Value × Value)} :
    PlainEntries entries ↔ ∀ e ∈ entries, Plain e.1 ∧ Plain e.2 := by
  induction entries with
  | nil => exact ⟨fun _ e he => absurd he List.not_mem_nil, fun _ => trivial⟩
  | cons entry entries ih =>
    rw [List.forall_mem_cons, ← ih]
    exact and_assoc.symm

/-- The value set for a number is found, if no key is there twice. -/
theorem mapGet_int {entries : List (Value × Value)} (hd : DistinctKeys entries) {n : Int} {v : Value}
    (hmem : (.int n, v) ∈ entries) : mapGet entries (.int n) = some v := by
  induction entries with
  | nil => exact absurd hmem List.not_mem_nil
  | cons entry entries ih =>
    obtain ⟨hfirst, hrest⟩ := List.pairwise_cons.mp hd
    rw [mapGet, List.find?_cons]
    rcases List.mem_cons.mp hmem with rfl | hmem
    · rw [show sameKey (.int n) (.int n) = true from beq_self_eq_true n]
      rfl
    · have hne : sameKey entry.1 (.int n) = false := hfirst _ hmem
      rw [hne]
      exact ih hrest hmem

theorem AttestedData.keyOf {x y : Bytes} (d : AttestedData x y) : KeyOf (.map d.entries) x y := by
  have hdistinct : DistinctKeys d.entries := by
    have henc := d.key_encodes
    rw [Encodes] at henc
    exact henc.1
  have hget : ∀ n v, (Value.int n, v) ∈ coseEntries x y → mapGet d.entries (.int n) = some v :=
    fun n v hmem => mapGet_int hdistinct (d.entries_perm.mem_iff.mpr hmem)
  refine ⟨d.entries, rfl, hget 1 _ ?_, hget (-1) _ ?_, hget (-2) _ ?_, hget (-3) _ ?_⟩ <;>
    simp [coseEntries]

theorem AttestedData.plain {x y : Bytes} (d : AttestedData x y) : Plain (.map d.entries) := by
  show PlainEntries d.entries
  rw [plainEntries_iff]
  intro e he
  have hmem := d.entries_perm.mem_iff.mp he
  simp only [coseEntries, List.mem_cons, List.not_mem_nil, or_false] at hmem
  rcases hmem with rfl | rfl | rfl | rfl | rfl
  · exact ⟨rfl, rfl⟩
  · exact ⟨rfl, rfl⟩
  · exact ⟨rfl, rfl⟩
  · exact ⟨rfl, trivial⟩
  · exact ⟨rfl, trivial⟩

/-- **Authenticator data gives the JWK of its point.** -/
theorem decodeAuthData_attested {x y : Bytes} (d : AttestedData x y) :
    decodeAuthDataPublicKeyJwk d.bytes
      = .ok (p256Jwk (Hundi.bytesToBase64Url x) (Hundi.bytesToBase64Url y)) := by
  have hdecode := decodeCborValue_of_encodes d.key_encodes d.key_starts d.plain
  obtain ⟨item, hr, hvalue⟩ := decodeCborValue_iff.mp hdecode
  refine decodeAuthDataPublicKeyJwk_ok.mpr ⟨d.isAttested, item, _, x, y, hr, ?_, rfl⟩
  rw [hvalue]
  exact d.keyOf

/-- **SPKI DER gives the JWK of its point.** -/
theorem spkiDerToP256Jwk_der {x y : Bytes} (hx : x.length = 32) (hy : y.length = 32) :
    spkiDerToP256Jwk (spkiDer x y)
      = .ok (p256Jwk (Hundi.bytesToBase64Url x) (Hundi.bytesToBase64Url y)) := by
  have hpoint : (spkiDer x y).drop ((spkiDer x y).length - 65) = 0x04 :: (x ++ y) := by
    have hlen : (spkiDer x y).length - 65 = spkiHeader.length := by
      rw [spkiDer, List.length_append, List.length_cons, List.length_append, hx, hy]
      rfl
    rw [hlen, spkiDer, List.drop_left]
  have hshape : ¬ ((0x04 :: (x ++ y)).length ≠ 65 ∨ (0x04 :: (x ++ y))[0]? ≠ some (0x04 : UInt8)) := by
    rw [List.length_cons, List.length_append, hx, hy]
    rintro (h | h)
    · exact h rfl
    · exact h rfl
  have hxcut : ((0x04 :: (x ++ y)).drop 1).take 32 = x := by
    show (x ++ y).take 32 = x
    rw [← hx, List.take_left]
  have hycut : ((0x04 :: (x ++ y)).drop 33).take 32 = y := by
    show ((x ++ y).drop 32).take 32 = y
    rw [← hx, List.drop_left, hx, ← hy, List.take_length]
  rw [spkiDerToP256Jwk, hpoint]
  rw [if_neg hshape, hxcut, hycut, bytesToBase64Url_eq, bytesToBase64Url_eq]
  rfl

/-- **Where registration mints no unusable passkey.**  The SPKI way never does.  The way over
    authenticator data, and a response that takes it, does not exactly when the COSE key that is read
    has coordinates of 32 bytes.  And for the point of 32-byte coordinates, well-formed authenticator
    data and SPKI DER give one JWK. -/
theorem registration_usable_iff (response : AttestationResponse) (authData der : Bytes) :
    Usable (spkiDerToP256Jwk der) ∧
    (Usable (decodeAuthDataPublicKeyJwk authData) ↔ FitsP256 authData) ∧
    (Usable (extractP256Jwk response) ↔ ∀ authData, Carries response authData → FitsP256 authData) ∧
    ∀ x y : Bytes, x.length = 32 → y.length = 32 → ∀ d : AttestedData x y, ∃ jwk raw,
      decodeAuthDataPublicKeyJwk d.bytes = .ok jwk ∧ spkiDerToP256Jwk (spkiDer x y) = .ok jwk ∧
        jwkToRawP256PublicKey jwk = .ok raw := by
  refine ⟨usable_spki der, usable_authData authData, usable_response response, ?_⟩
  intro x y hx hy d
  obtain ⟨raw, hraw⟩ := (jwkToRawP256PublicKey_p256Jwk x y).mpr ⟨hx, hy⟩
  exact ⟨_, raw, decodeAuthData_attested d, spkiDerToP256Jwk_der hx hy, hraw⟩

/-- The COSE key `{1: 2, 3: -7, -1: 1, -2: x, -3: y}` of 32-byte coordinates. -/
def demoKey (x y : Bytes) : Bytes :=
  [0xA5, 0x01, 0x02, 0x03, 0x26, 0x20, 0x01, 0x21, 0x58, 0x20] ++ (x ++ ([0x22, 0x58, 0x20] ++ y))

/-- A head of one byte. -/
theorem isHead_byte {b : UInt8} {major n : Nat} (hb : b.toNat = major * 32 + n) (hn : n < 24) :
    IsHead major n [b] := by
  have hinfo : b.toNat % 32 = n := by omega
  refine ⟨⟨b, []⟩, ⟨?_, ?_⟩, ?_, ?_, rfl⟩
  · rw [Head.info, hinfo]
    omega
  · rw [argumentWidth, if_pos (by rw [Head.info, hinfo]; exact hn)]
    rfl
  · show b.toNat / 32 = major
    omega
  · rw [Head.argument, if_pos (by rw [Head.info, hinfo]; exact hn), Head.info, hinfo]

theorem demoKey_encodes {x y : Bytes} (hx : x.length = 32) (hy : y.length = 32) :
    Encodes (.map (coseEntries x y)) (demoKey x y) := by
  have hbytes : ∀ bs : Bytes, bs.length = 32 → Encodes (.bytes bs) ([0x58, 0x20] ++ bs) := by
    intro bs hbs
    rw [Encodes, hbs]
    exact ⟨[0x58, 0x20], ⟨⟨0x58, [0x20]⟩, ⟨by decide, by decide⟩, by decide, by decide, rfl⟩, rfl⟩
  have hunsigned : ∀ (n : Nat) (b : UInt8), b.toNat = 0 * 32 + n → n < 24 →
      Encodes (.int n) [b] := by
    intro n b hb hn
    rw [Encodes]
    exact Or.inl ⟨Int.natCast_nonneg n, isHead_byte hb hn⟩
  have hnegative : ∀ (n : Nat) (b : UInt8), b.toNat = 1 * 32 + n → n < 24 →
      Encodes (.int (-1 - n)) [b] := by
    intro n b hb hn
    rw [Encodes]
    refine Or.inr ⟨by omega, ?_⟩
    rw [show (-1 - (-1 - (n : Int))).toNat = n by omega]
    exact isHead_byte hb hn
  rw [Encodes]
  have hhead : IsHead 5 (coseEntries x y).length [0xA5] := @isHead_byte 0xA5 5 5 rfl (by decide)
  refine ⟨by simp [DistinctKeys, coseEntries, sameKey], [0xA5], _, hhead, ?_, rfl⟩
  refine ⟨[0x01], [0x02], _, hunsigned 1 _ rfl (by decide), hunsigned 2 _ rfl (by decide), ?_, rfl⟩
  refine ⟨[0x03], [0x26], _, hunsigned 3 _ rfl (by decide), hnegative 6 _ rfl (by decide), ?_, rfl⟩
  refine ⟨[0x20], [0x01], _, hnegative 0 _ rfl (by decide), hunsigned 1 _ rfl (by decide), ?_, rfl⟩
  refine ⟨[0x21], [0x58, 0x20] ++ x, [0x22] ++ ([0x58, 0x20] ++ y),
    hnegative 1 _ rfl (by decide), hbytes x hx, ?_, ?_⟩
  · exact ⟨[0x22], [0x58, 0x20] ++ y, [], hnegative 2 _ rfl (by decide), hbytes y hy, rfl, by simp⟩
  · simp

def demoCoordinate : Bytes := List.replicate 32 7

def demoAttested : AttestedData demoCoordinate demoCoordinate where
  rpIdHash := List.replicate 32 0
  flags := 0x40
  signCount := List.replicate 4 0
  aaguid := List.replicate 16 0
  credentialId := []
  entries := coseEntries demoCoordinate demoCoordinate
  key := demoKey demoCoordinate demoCoordinate
  extensions := []
  rpIdHash_length := rfl
  attested := by decide
  signCount_length := rfl
  aaguid_length := rfl
  credentialId_length := by decide
  entries_perm := List.Perm.refl _
  key_encodes := demoKey_encodes rfl rfl

/-- Both ways give the JWK of the point, and core takes it. -/
theorem registration_usable_iff_demo : ∃ jwk raw, decodeAuthDataPublicKeyJwk demoAttested.bytes = .ok jwk ∧
    spkiDerToP256Jwk (spkiDer demoCoordinate demoCoordinate) = .ok jwk ∧
    jwkToRawP256PublicKey jwk = .ok raw :=
  (registration_usable_iff ⟨none, none, []⟩ [] []).2.2.2 demoCoordinate demoCoordinate rfl rfl
    demoAttested

/-- Authenticator data with the key `{1: 2, -1: 1, -2: h'01', -3: h'02'}`. -/
def shortKeyData : Bytes :=
  List.replicate 32 0 ++ 0x40 :: (List.replicate 22 0 ++
    [0xA4, 0x01, 0x02, 0x20, 0x01, 0x21, 0x41, 0x01, 0x22, 0x41, 0x02])

/-- Coordinates of one byte are registered, and core refuses the JWK. -/
theorem short_coordinates_registered : ¬ Usable (decodeAuthDataPublicKeyJwk shortKeyData) := by
  intro husable
  obtain ⟨raw, hraw⟩ := husable (p256Jwk (js "AQ") (js "Ag")) rfl
  have hrefused : jwkToRawP256PublicKey (p256Jwk (js "AQ") (js "Ag"))
      = .error (.error (js "jwkToRawP256PublicKey: x/y must each be 32 bytes")) := rfl
  rw [hrefused] at hraw
  exact absurd hraw (by simp)

end Dashboard

end Hundi
