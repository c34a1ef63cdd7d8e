import Swiyu.Core.DidLog.Scid
import Swiyu.Lib.GuardedFold

/-!
# Verification of DID logs

The verifier of `did:tdw` 0.3 logs: it re-derives the SCID from the genesis entry and the hash of
every entry, and checks the first proof of every entry against the update keys in force.
-/

namespace Swiyu

open Json

/-- Why a log is rejected. Entries are counted from 0. -/
inductive DIDLogVerifyError
  | empty
  | didWithoutScid (did : Text)
  | unsupportedFormat (entry : ℕ)
  | patchState (entry : ℕ)
  | scidMismatch (derived claimed : Text)
  | didIdentifierMismatch (entry : ℕ) (expected actual : Text)
  | versionIdSequenceMismatch (entry : ℕ) (expectedSeq : UInt32) (actual : Text)
  | entryHashMismatch (entry : ℕ) (claimed derived : Text)
  | missingGenesisUpdateKeys
  | missingProof (entry : ℕ)
  | malformedProof (entry : ℕ) (message : Text)
  | proofKeyNotAuthorized (entry : ℕ) (verificationMethod multikey : Text)
  | signatureInvalid (entry : ℕ)
  | malformedEntry (entry : ℕ) (message : Text)
  deriving DecidableEq

/-- The message of an error. -/
def DIDLogVerifyError.toText : DIDLogVerifyError → Text
  | empty => "DID log is empty"
  | didWithoutScid did =>
    Text.lit "DID '" ++ did ++ "' has no SCID — cannot verify a did:tdw log against it"
  | unsupportedFormat i =>
    Text.lit "entry " ++ Text.decimal i ++ ": only did:tdw 0.3 verification is implemented"
  | patchState i => Text.lit "entry " ++ Text.decimal i ++
      ": state is a Patch — only Value states are supported for verification"
  | scidMismatch derived claimed => Text.lit "genesis SCID mismatch: derived '" ++ derived ++
      "', DID claims '" ++ claimed ++ "'"
  | didIdentifierMismatch i expected actual => Text.lit "entry " ++ Text.decimal i ++
      ": state.value.id is '" ++ actual ++ "', expected '" ++ expected ++ "'"
  | versionIdSequenceMismatch i seq actual => Text.lit "entry " ++ Text.decimal i ++
      ": versionId '" ++ actual ++ "' does not have the expected '" ++ Text.decimal seq.toNat ++
      "-' sequence prefix"
  | entryHashMismatch i claimed derived => Text.lit "entry " ++ Text.decimal i ++
      ": entryHash mismatch — versionId claims '" ++ claimed ++ "', recomputed '" ++ derived ++ "'"
  | missingGenesisUpdateKeys => "genesis entry must announce parameters.updateKeys"
  | missingProof i => Text.lit "entry " ++ Text.decimal i ++ ": no data integrity proof"
  | malformedProof i message =>
    Text.lit "entry " ++ Text.decimal i ++ ": malformed proof: " ++ message
  | proofKeyNotAuthorized i vm multikey => Text.lit "entry " ++ Text.decimal i ++
      ": proof verificationMethod '" ++ vm ++ "' references key '" ++ multikey ++
      "', which is not in the authorized updateKeys"
  | signatureInvalid i => Text.lit "entry " ++ Text.decimal i ++ ": proof signature is invalid"
  | malformedEntry i message => Text.lit "entry " ++ Text.decimal i ++ ": malformed: " ++ message

open DIDLogVerifyError

variable (X : Crates)

/-! ## Proofs -/

/-- The multikey that a verification method `did:key:<mk>#<mk>` names. -/
def parseDidKeyVm (vm : Text) : Option Text := do
  let afterPrefix ← Text.stripPrefix "did:key:" vm
  let (mk1, mk2) ← Text.splitOnce '#' afterPrefix
  if mk1 = mk2 then some mk1 else none

/-- The 32 key bytes after the Ed25519 multicodec. -/
def ed25519OfMulticodec (bytes : Bytes) : Except Text (FixedBytes 32) :=
  let lengthError := .error
    (Text.lit "Ed25519 multikey must decode to 34 bytes, got " ++ Text.decimal bytes.length)
  match bytes with
  | b₀ :: b₁ :: key =>
    if h : key.length = 32 then
      if b₀ = 0xed ∧ b₁ = 0x01 then .ok ⟨key, h⟩
      else .error (Text.lit "multikey is not Ed25519 (multicodec " ++ Text.hexByte b₀.toNat ++
        Text.hexByte b₁.toNat ++ ")")
    else lengthError
  | _ => lengthError

/-- The Ed25519 key of a multikey. -/
def decodeEd25519Multikey (s : Text) : Except Text (FixedBytes 32) := do
  let mb ← (PublicKeyMultibase.fromStr X s).mapError DIDDocError.toText
  ed25519OfMulticodec mb.key

/-- The bytes of a multibase string with the `z` prefix. -/
def decodeMultibaseZ (s : Text) : Except Text Bytes := do
  let rest ← (Text.stripPrefix "z" s).okOr
    (Text.lit "not a base58btc multibase string (no 'z' prefix): '" ++ s ++ "'")
  (X.bs58Decode rest).mapError fun e => Text.lit "base58 decode failed: " ++ e

/-- `VerifyingKey::from_bytes`. -/
def verifyingKeyFromBytes (bytes : FixedBytes 32) : Except Text (FixedBytes 32) :=
  match X.ed25519PointError bytes with
  | none => .ok bytes
  | some e => .error e

/-- A string member of a proof. -/
def proofString (i : ℕ) (proofObj : Object) (field : Text) : Except DIDLogVerifyError Text :=
  ((proofObj.get field).bind Value.asStr).okOr
    (malformedProof i (field ++ " missing or not a string"))

/-- The 64 bytes of a signature. -/
def signatureFromBytes (bytes : Bytes) : Except Text (FixedBytes 64) :=
  if h : bytes.length = 64 then .ok ⟨bytes, h⟩
  else .error (Text.lit "proofValue must decode to 64 bytes, got " ++ Text.decimal bytes.length)

/-- Checks the first proof of entry `i` over its document. -/
def verifyProof (i : ℕ) (entry : DIDLogEntry) (document : Value) (authKeys : List Text) :
    Except DIDLogVerifyError Unit := do
  let proof ← entry.dataIntegrityProofs.head?.okOr (missingProof i)
  let proofObj ← proof.asObject.okOr (malformedProof i "proof is not an object")
  let vm ← proofString i proofObj "verificationMethod"
  let multikey ← (parseDidKeyVm vm).okOr (malformedProof i
    (Text.lit "verificationMethod '" ++ vm ++ "' is not did:key:<mk>#<mk>"))
  Except.ensure (multikey ∈ authKeys) (proofKeyNotAuthorized i vm multikey)
  let vkBytes ← (decodeEd25519Multikey X multikey).mapError (malformedProof i)
  let vk ← (verifyingKeyFromBytes X vkBytes).mapError fun e =>
    malformedProof i (Text.lit "invalid Ed25519 verifying key: " ++ e)
  let configValue := Value.object (proofObj.remove "proofValue")
  let hashData := eddsaJcs2022Hash X document configValue
  let proofValueStr ← proofString i proofObj "proofValue"
  let pvBytes ← (decodeMultibaseZ X proofValueStr).mapError (malformedProof i)
  let signature ← (signatureFromBytes pvBytes).mapError (malformedProof i)
  Except.ensure (X.ed25519Verify vk hashData signature = true) (signatureInvalid i)

/-! ## Entries -/

/-- Re-derives the SCID from the text of the hashing form. -/
def deriveScidOfForm (i : ℕ) (hashingEntryValue : Value) (claimedScid : Text) :
    Except DIDLogVerifyError Text := do
  let prelimStr := Text.replace claimedScid scidPlaceholder (hashingEntryValue.print X.f64)
  let prelim ← (X.fromStr prelimStr).mapError fun e =>
    malformedEntry i (Text.lit "re-parse preliminary form: " ++ e)
  return deriveScid X prelim

/-- Checks the SCID of the genesis entry; the other entries have none to check. -/
def verifyScid (i : ℕ) (hashingEntryValue : Value) (claimedScid : Text) :
    Except DIDLogVerifyError Unit :=
  if i = 0 then do
    let derivedScid ← deriveScidOfForm X i hashingEntryValue claimedScid
    Except.ensure (derivedScid = claimedScid) (scidMismatch derivedScid claimedScid)
  else .ok ()

/-- The document of a state that is no patch. -/
def stateValue (i : ℕ) : DIDDocState → Except DIDLogVerifyError Value
  | .value v => .ok v
  | .patch _ => .error (patchState i)

/-- Checks entry `i`, number `n`, against its predecessor and the keys that may sign it. -/
def verifyEntry (i : ℕ) (n : UInt32) (entry : DIDLogEntry) (claimedScid expectedDid : Text)
    (prevVersionId : Option Text) (authKeys : List Text) : Except DIDLogVerifyError Unit := do
  let docValue ← stateValue i entry.didDocState
  let actualDid ← ((docValue.get "id").bind Value.asStr).okOr
    (malformedEntry i "state.value.id is missing or not a string")
  Except.ensure (actualDid = expectedDid) (didIdentifierMismatch i expectedDid actualDid)
  let vid := entry.versionId
  let actualHash ← (Text.stripPrefix (Text.decimal n.toNat ++ ['-']) vid).okOr
    (versionIdSequenceMismatch i n vid)
  let arr ← entry.toJson.asArray.okOr (malformedEntry i "entry is not a JSON array")
  Except.ensure (4 ≤ arr.length)
    (malformedEntry i (Text.lit "expected at least 4 elements, got " ++ Text.decimal arr.length))
  -- The proof slot is dropped and the versionId replaced by what the entry builds on.
  let hashingEntryValue :=
    Value.array ((arr.take 4).set 0 (.string (prevVersionId.getD claimedScid)))
  let derivedHash := deriveEntryHash X hashingEntryValue
  Except.ensure (derivedHash = actualHash) (entryHashMismatch i actualHash derivedHash)
  verifyScid X i hashingEntryValue claimedScid
  verifyProof X i entry docValue authKeys

/-! ## Logs -/

/-- What the verifier carries from entry to entry. -/
structure ChainState where
  effectiveUpdateKeys : List Text := []
  prevVersionId : Option Text := none

/-- The sequence number of entry `i`, a `u32`. -/
def sequenceNumber (i : ℕ) : UInt32 := UInt32.ofNat i + 1

/-- The keys that may sign entry `i`. Genesis: those it announces. Later entries: those in force. -/
def authKeysFor (i : ℕ) (s : ChainState) (entry : DIDLogEntry) :
    Except DIDLogVerifyError (List Text) :=
  if i = 0 then entry.parameters.updateKeys.okOr missingGenesisUpdateKeys
  else .ok s.effectiveUpdateKeys

/-- The loop over the entries. -/
def verifyLoop (claimedScid didStr : Text) :
    GuardedFold DIDLogVerifyError ChainState DIDLogEntry where
  check i s entry := do
    let authKeys ← authKeysFor i s entry
    verifyEntry X i (sequenceNumber i) entry claimedScid didStr s.prevVersionId authKeys
  next s entry :=
    { effectiveUpdateKeys := entry.parameters.updateKeys.getD s.effectiveUpdateKeys
      prevVersionId := some entry.versionId }

/-- Only `did:tdw` 0.3 entries can be verified. -/
def formatLoop : GuardedFold DIDLogVerifyError Unit DIDLogEntry where
  check i _ entry := Except.ensure (entry.format = .tdw03) (unsupportedFormat i)
  next s _ := s

/-- Verifies a log against the DID it is to be the log of. -/
def verifyLog (log : DIDLog) (did : DID) : Except DIDLogVerifyError Unit := do
  Except.ensure (log.entries ≠ []) empty
  let claimedScid ← did.scid.okOr (didWithoutScid did.toText)
  formatLoop.run () log.entries
  (verifyLoop X claimedScid did.toText).run {} log.entries

end Swiyu
