import Swiyu.Core.DidLog
import Swiyu.Core.Jws

/-!
# Data Integrity proofs

The proofs of log entries, in the `eddsa-jcs-2022` cryptosuite.
-/

namespace Swiyu

open Json

/-- Third-party functions that sign. -/
structure SigningCrates extends JoseCrates where
  /-- `SigningKey::verifying_key`, for Ed25519. -/
  ed25519VerifyingKey : FixedBytes 32 → FixedBytes 32
  /-- `SigningKey::sign`, for Ed25519. -/
  ed25519Sign : FixedBytes 32 → Bytes → FixedBytes 64

/-- The cryptosuite of a proof. -/
inductive Cryptosuite
  | eddsaJcs2022
  deriving DecidableEq

/-- The text of a cryptosuite. -/
def Cryptosuite.asStr : Cryptosuite → Text
  | eddsaJcs2022 => "eddsa-jcs-2022"

/-- The role that the proof key plays for the document being signed. -/
inductive ProofPurpose
  /-- Used by `did:tdw` 0.3. -/
  | authentication
  /-- Used by `did:webvh` 1.0. -/
  | assertionMethod
  deriving DecidableEq

/-- The text of a purpose. -/
def ProofPurpose.asStr : ProofPurpose → Text
  | authentication => "authentication"
  | assertionMethod => "assertionMethod"

/-- The options of a proof: all of it except `proofValue`. -/
structure ProofConfig where
  cryptosuite : Cryptosuite
  verificationMethod : Text
  proofPurpose : ProofPurpose
  challenge : Text
  created : Text
  deriving DecidableEq

namespace ProofConfig

/-- The members of the JSON form of the options. -/
def toFields (config : ProofConfig) : List (Text × Value) :=
  [(Text.lit "type", .string "DataIntegrityProof"),
    (Text.lit "cryptosuite", .string config.cryptosuite.asStr),
    (Text.lit "verificationMethod", .string config.verificationMethod),
    (Text.lit "proofPurpose", .string config.proofPurpose.asStr),
    (Text.lit "challenge", .string config.challenge), (Text.lit "created", .string config.created)]

/-- The JSON object of the options. -/
def toObject (config : ProofConfig) : Object := OrdMap.ofList config.toFields

/-- The bytes that are signed. -/
def signingInput (X : Crates) (config : ProofConfig) (document : Value) : Bytes :=
  match config.cryptosuite with
  | .eddsaJcs2022 => eddsaJcs2022Hash X document (.object config.toObject)

end ProofConfig

/-- A complete proof. -/
structure DataIntegrityProof where
  config : ProofConfig
  proofValue : Text
  deriving DecidableEq

namespace DataIntegrityProof

/-- Wraps a signature in the multibase encoding. -/
def fromSignature (config : ProofConfig) (signature : Bytes) : DataIntegrityProof :=
  { config, proofValue := 'z' :: Base58.encode signature }

/-- Signs a document. -/
def sign (X : SigningCrates) (signer : FixedBytes 32) (document : Value) (config : ProofConfig) :
    DataIntegrityProof :=
  fromSignature config (X.ed25519Sign signer (config.signingInput X.toCrates document))

/-- The JSON object of a proof. -/
def toObject (proof : DataIntegrityProof) : Object :=
  OrdMap.insert proof.config.toObject "proofValue" (.string proof.proofValue)

/-- The JSON form of a proof. -/
def toJson (proof : DataIntegrityProof) : Value := .object proof.toObject

@[simp]
theorem get_proofValue (proof : DataIntegrityProof) :
    proof.toObject.get "proofValue" = some (.string proof.proofValue) := by
  simp [toObject]

/-- The other members of a proof are its options. -/
theorem get_of_ne (proof : DataIntegrityProof) {key : Text} (h : key ≠ Text.lit "proofValue") :
    proof.toObject.get key = proof.config.toObject.get key := by
  simp [toObject, h]

/-- Without its value, a proof is its options. -/
theorem remove_proofValue (proof : DataIntegrityProof) :
    proof.toObject.remove "proofValue" = proof.config.toObject := by
  refine OrdMap.Entries.ext_get fun key => ?_
  rw [Object.remove, OrdMap.Entries.get_erase]
  by_cases h : key = Text.lit "proofValue"
  · subst h
    rw [if_pos rfl]
    simp [ProofConfig.toObject, ProofConfig.toFields, OrdMap.ofList]
  · rw [if_neg h]
    exact proof.get_of_ne h

end DataIntegrityProof

end Swiyu
