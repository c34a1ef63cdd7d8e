import Swiyu.Lib.Base58
import Swiyu.Lib.Json.Parse

/-!
# Third-party crates

What the code uses of crates that are not part of the repository: hash functions, signature schemes,
canonicalisation, and the texts of their errors. They are parameters of the model; a theorem that
relies on one of them says what it relies on.
-/

namespace Swiyu

/-- An array of `n` bytes. -/
abbrev FixedBytes (n : ℕ) := { bytes : Bytes // bytes.length = n }

/-- Third-party functions the core library calls. -/
structure Crates where
  /-- How `serde_json` prints and reads doubles. -/
  f64 : Json.F64Codec
  /-- The message of a `serde_json` error for the given text. -/
  serdeJsonError : Text → Text
  /-- `serde_jcs::to_vec`. -/
  jcs : Json.Value → Bytes
  /-- SHA-256. -/
  sha256 : Bytes → FixedBytes 32
  /-- The message of a `bs58` error for the given text. -/
  bs58Error : Text → Text
  /-- The message of the error of `ed25519_dalek::VerifyingKey::from_bytes`; absent when the bytes
  are a point of the curve. -/
  ed25519PointError : FixedBytes 32 → Option Text
  /-- `VerifyingKey::verify`: key, message and signature. -/
  ed25519Verify : FixedBytes 32 → Bytes → FixedBytes 64 → Bool

namespace Crates

variable (X : Crates)

/-- `serde_json::from_str::<Value>`. -/
def fromStr (text : Text) : Except Text Json.Value :=
  match Json.parse X.f64 text with
  | some v => .ok v
  | none => .error (X.serdeJsonError text)

/-- `bs58::decode(text).into_vec()`. -/
def bs58Decode (text : Text) : Except Text Bytes :=
  match Base58.decode text with
  | some bytes => .ok bytes
  | none => .error (X.bs58Error text)

theorem fromStr_eq_ok_iff {text : Text} {v : Json.Value} :
    X.fromStr text = .ok v ↔ Json.parse X.f64 text = some v := by
  rw [fromStr]
  cases Json.parse X.f64 text <;> simp

theorem bs58Decode_eq_ok_iff {text : Text} {bytes : Bytes} :
    X.bs58Decode text = .ok bytes ↔ Base58.decode text = some bytes := by
  rw [bs58Decode]
  cases Base58.decode text <;> simp

end Crates

end Swiyu
