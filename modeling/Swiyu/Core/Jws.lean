import Swiyu.Core.DidDoc

/-!
# JWS verification

The verifying keys that a JWK stands for, Ed25519 and P-256, and the check of a signature.
-/

namespace Swiyu

/-- Third-party functions that JOSE objects need, in addition to those of the core library. -/
structure JoseCrates extends Crates where
  /-- The message of a `base64` error for the given text. -/
  base64Error : Text → Text
  /-- The message of a `serde_json` error for the given bytes. -/
  serdeJsonBytesError : Bytes → Text
  /-- `p256::ecdsa::VerifyingKey::from_sec1_bytes`. -/
  p256FromSec1 : Bytes → Except Text P256PublicKey
  /-- `VerifyingKey::verify` for ECDSA over P-256: key, message and the 64 bytes of the signature;
  false also when these are no signature. -/
  p256Verify : P256PublicKey → Bytes → FixedBytes 64 → Bool
  /-- `ZlibDecoder::read_to_end`. -/
  zlibDecode : Bytes → Except Text Bytes
  /-- The UTC time of a Unix timestamp in RFC 3339 form; absent out of the range of dates. -/
  rfc3339 : ℤ → Option Text
  /-- How `{:?}` shows a text. -/
  debugText : Text → Text

namespace JoseCrates

/-- `URL_SAFE_NO_PAD.decode(text)`. -/
def base64Decode (X : JoseCrates) (text : Text) : Except Text Bytes :=
  match Base64Url.decode text with
  | some bytes => .ok bytes
  | none => .error (X.base64Error text)

/-- `serde_json::from_slice::<Value>`. -/
def fromSlice (X : JoseCrates) (bytes : Bytes) : Except Text Json.Value :=
  match (Text.fromUtf8 bytes).bind (Json.parse X.f64) with
  | some v => .ok v
  | none => .error (X.serdeJsonBytesError bytes)

theorem base64Decode_eq_ok_iff {X : JoseCrates} {text : Text} {bytes : Bytes} :
    X.base64Decode text = .ok bytes ↔ Base64Url.decode text = some bytes := by
  unfold base64Decode
  cases Base64Url.decode text <;> simp

theorem fromSlice_eq_ok_iff {X : JoseCrates} {bytes : Bytes} {v : Json.Value} :
    X.fromSlice bytes = .ok v ↔ (Text.fromUtf8 bytes).bind (Json.parse X.f64) = some v := by
  unfold fromSlice
  cases (Text.fromUtf8 bytes).bind (Json.parse X.f64) <;> simp

end JoseCrates

/-- Why a signature is rejected. -/
inductive JwsVerifyError
  | malformedJwk (msg : Text)
  | invalidSignatureLength (expected actual : ℕ)
  | signatureMismatch
  deriving DecidableEq

/-- The message of an error. -/
def JwsVerifyError.toText : JwsVerifyError → Text
  | malformedJwk msg => Text.lit "malformed jwk: " ++ msg
  | invalidSignatureLength expected actual =>
    Text.lit "invalid signature length: expected " ++ Text.decimal expected ++ " bytes, got " ++
      Text.decimal actual
  | signatureMismatch => "signature did not verify"

/-- Why an EC key is no P-256 key. -/
inductive ECKeyError
  | unsupportedCurve (crv : Text)
  | invalidCoordinate (component reason : Text)
  | invalidPublicKey (reason : Text)
  deriving DecidableEq

/-- The message of an error. -/
def ECKeyError.toText : ECKeyError → Text
  | unsupportedCurve crv => Text.lit "unsupported curve '" ++ crv ++ "' (expected 'P-256')"
  | invalidCoordinate component reason =>
    Text.lit "JWK '" ++ component ++ "' not base64url: " ++ reason
  | invalidPublicKey reason => Text.lit "invalid P-256 public key: " ++ reason

/-- `kty` of a JWK. -/
def PublicKeyJWK.kty : PublicKeyJWK → Text
  | ec .. => "EC"
  | okp .. => "OKP"
  | rsa .. => "RSA"

/-- The curve of a JWK, if it has one. -/
def PublicKeyJWK.crv : PublicKeyJWK → Option Text
  | ec crv .. => some crv
  | okp crv .. => some crv
  | rsa .. => none

/-- A verifying key parsed from a JWK. -/
inductive VerifyingKey
  | ed25519 (key : FixedBytes 32)
  | ecdsaP256 (key : P256PublicKey)
  deriving DecidableEq

variable (X : JoseCrates)

/-- The P-256 key of an EC JWK. -/
def ecKeyToP256 (crv x y : Text) : Except ECKeyError P256PublicKey := do
  Except.ensure (crv = Text.lit "P-256") (.unsupportedCurve crv)
  let xBytes ← (X.base64Decode x).mapError (.invalidCoordinate "x")
  let yBytes ← (X.base64Decode y).mapError (.invalidCoordinate "y")
  (X.p256FromSec1 (0x04 :: (xBytes ++ yBytes))).mapError .invalidPublicKey

/-- The Ed25519 key of an OKP JWK. -/
def okpKeyToEd25519 (x : Text) : Except JwsVerifyError (FixedBytes 32) := do
  let bytes ← (X.base64Decode x).mapError fun e =>
    .malformedJwk (Text.lit "`x` not base64url: " ++ e)
  if h : bytes.length = 32 then
    match X.ed25519PointError ⟨bytes, h⟩ with
    | none => return ⟨bytes, h⟩
    | some e => .error (.malformedJwk (Text.lit "invalid Ed25519 public key: " ++ e))
  else
    .error (.malformedJwk (Text.lit "`x` must decode to 32 bytes for Ed25519, got " ++
      Text.decimal bytes.length))

/-- How `{:?}` shows an optional text. -/
def debugOption : Option Text → Text
  | none => "None"
  | some s => Text.lit "Some(" ++ X.debugText s ++ ")"

/-- The error for a JWK that no supported algorithm uses. -/
def unsupportedJwk (jwk : PublicKeyJWK) : JwsVerifyError :=
  .malformedJwk (Text.lit "unsupported jwk: kty=" ++ jwk.kty ++ ", crv=" ++ debugOption X jwk.crv)

namespace VerifyingKey

/-- JWS `alg` value matching the key's algorithm. -/
def alg : VerifyingKey → Text
  | ed25519 _ => "EdDSA"
  | ecdsaP256 _ => "ES256"

/-- Parses a JWK: only Ed25519 and P-256 keys are supported. -/
def tryFromJwk (jwk : PublicKeyJWK) : Except JwsVerifyError VerifyingKey :=
  match jwk with
  | .okp crv x _ =>
    if crv = Text.lit "Ed25519" then (okpKeyToEd25519 X x).map ed25519
    else .error (unsupportedJwk X jwk)
  | .ec crv x y _ =>
    if crv = Text.lit "P-256" then
      ((ecKeyToP256 X crv x y).mapError fun e => .malformedJwk e.toText).map ecdsaP256
    else .error (unsupportedJwk X jwk)
  | .rsa .. => .error (unsupportedJwk X jwk)

/-- Verifies a signature of 64 bytes over the signing input. -/
def verify (key : VerifyingKey) (signingInput signature : Bytes) : Except JwsVerifyError Unit :=
  if h : signature.length = 64 then
    have verified : Bool := match key with
      | ed25519 pk => X.ed25519Verify pk signingInput ⟨signature, h⟩
      | ecdsaP256 pk => X.p256Verify pk signingInput ⟨signature, h⟩
    Except.ensure (verified = true) .signatureMismatch
  else .error (.invalidSignatureLength 64 signature.length)

end VerifyingKey

end Swiyu
