import Swiyu.Core.Proof
import Swiyu.Didtool.World

/-!
# Keys and their files

Third-party functions of the tool, and private keys read from PEM files.
-/

namespace Swiyu

/-- Third-party functions that the tool calls, in addition to those of the core library. -/
structure ToolCrates extends SigningCrates where
  /-- `SigningKey::verifying_key`, for P-256. -/
  p256VerifyingKey : FixedBytes 32 → P256PublicKey
  /-- `SigningKey::sign`, for P-256, as the 64 bytes of a JWS signature. -/
  p256Sign : FixedBytes 32 → Bytes → FixedBytes 64
  /-- `to_pkcs8_pem` of an Ed25519 key. -/
  eddsaPrivateToPem : FixedBytes 32 → Except Text Text
  /-- `to_public_key_pem` of an Ed25519 key. -/
  eddsaPublicToPem : FixedBytes 32 → Except Text Text
  /-- `to_pkcs8_pem` of a P-256 key. -/
  ecdsaPrivateToPem : FixedBytes 32 → Except Text Text
  /-- `to_public_key_pem` of a P-256 key. -/
  ecdsaPublicToPem : P256PublicKey → Except Text Text
  /-- `SigningKey::from_pkcs8_pem`, for Ed25519. -/
  eddsaPrivateFromPem : Text → Except Text (FixedBytes 32)
  /-- `SigningKey::from_pkcs8_pem`, for P-256. -/
  ecdsaPrivateFromPem : Text → Except Text (FixedBytes 32)
  /-- BLAKE3. -/
  blake3 : Bytes → FixedBytes 32
  /-- `DateTime::parse_from_rfc3339`, in nanoseconds since 1970. -/
  parseRfc3339 : Text → Option ℤ
  /-- `to_rfc3339_opts(SecondsFormat::Secs, true)` of an instant in UTC. -/
  rfc3339Secs : ℤ → Text

/-- Why a key is rejected. -/
inductive CryptoError
  | io (source : Text)
  | invalidKey (msg : Text)
  deriving DecidableEq

/-- The message of an error. -/
def CryptoError.toText : CryptoError → Text
  | io source => Text.lit "I/O error: " ++ source
  | invalidKey msg => Text.lit "invalid key: " ++ msg

variable (X : ToolCrates) (env : Env)

/-- Parses an Ed25519 private key. -/
def parsePrivateKeyEddsa (pem : Text) : Except CryptoError (FixedBytes 32) :=
  (X.eddsaPrivateFromPem pem).mapError .invalidKey

/-- Parses a P-256 private key. -/
def parsePrivateKeyEcdsa (pem : Text) : Except CryptoError (FixedBytes 32) :=
  (X.ecdsaPrivateFromPem pem).mapError .invalidKey

/-- Reads a private key from a PEM file. -/
def readPrivateKey (parse : Text → Except CryptoError (FixedBytes 32)) (path : Text) :
    Command World CryptoError (FixedBytes 32) := do
  let pem ← (Os.readToString env path).mapError .io
  Command.ofExcept (parse pem)

/-- Reads an Ed25519 private key. -/
def readPrivateKeyEddsa := readPrivateKey env (parsePrivateKeyEddsa X)

/-- Reads a P-256 private key. -/
def readPrivateKeyEcdsa := readPrivateKey env (parsePrivateKeyEcdsa X)

end Swiyu
