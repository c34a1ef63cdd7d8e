import Swiyu.Core.Proof
import Swiyu.Didtool.Cmd.DidLog
import Swiyu.Didtool.Cmd.File

/-!
# Updates of logs

What rotation and deactivation share: the target of the new entry, the key that signs it, the entry
itself, and the upload of the updated log.
-/

namespace Swiyu

open Json

/-- Why a log is not updated: the errors that rotation and deactivation share. -/
inductive UpdateError
  | emptyLog
  | didNotInLog
  | unsupportedFormat
  | did (didStr : Text) (e : DIDError)
  | keyStoreMiss (didStr : Text)
  | writeLog (e : WriteLogError)
  | registryArgs (e : RegistryArgsError)
  | identifierExtraction (didStr : Text)
  | publishFailed (source path : Text)
  | publishFailedPending (source path : Text)
  | noTarget
  | keyStore (e : KeyStoreError)
  | load (e : LogError)
  deriving DecidableEq

/-- How a command words the errors that it shares with the other. -/
structure UpdateWording where
  /-- What there is nothing to do for an empty log. -/
  nothingTo : Text
  format : Text
  sign : Text
  /-- What has been done to the log. -/
  done : Text
  /-- What is uploaded. -/
  upload : Text
  /-- What has been saved. -/
  saved : Text
  /-- What has nowhere to go. -/
  homeless : Text

/-- The message of an error. -/
def UpdateError.toText (wording : UpdateWording) : UpdateError → Text
  | emptyLog => Text.lit "DID log is empty — nothing to " ++ wording.nothingTo
  | didNotInLog => "could not extract a DID from the log (no entry has a Value state)"
  | unsupportedFormat => Text.lit "DID log uses an unsupported format for " ++ wording.format ++
      " (only did:tdw 0.3 is supported)"
  | did didStr e => Text.lit "invalid DID '" ++ didStr ++ "': " ++ e.toText
  | keyStoreMiss didStr =>
    Text.lit "no key store entry for DID '" ++ didStr ++ "' — cannot sign " ++ wording.sign
  | writeLog e => e.toText
  | registryArgs e => e.toText
  | identifierExtraction didStr =>
    Text.lit "cannot extract registry identifier (UUID) from DID '" ++ didStr ++ "'"
  | publishFailed source path => Text.lit "DID log " ++ wording.done ++
      " and saved locally, but registry upload failed: " ++ source ++
      " — retry manually with the file at " ++ path
  | publishFailedPending source path => Text.lit "registry upload of " ++ wording.upload ++
      " failed: " ++ source ++ " — " ++ wording.saved ++ " saved to fallback file " ++ path ++
      "; retry manually with this file"
  | noTarget => Text.lit "--did used without --out and --no-publish set: the " ++
      wording.homeless ++ " would have nowhere to go (use --out to save it locally, or drop " ++
      "--no-publish to publish to the registry)"
  | keyStore e => e.toText
  | load e => e.toText

/-- The arguments that rotation and deactivation share. -/
structure UpdateArgs where
  did : Option Text := none
  input : Option Text := none
  out : Option Text := none
  force : Bool := false
  noPublish : Bool := false
  partnerId : Option Text := none
  registryUrl : Option Text := none

/-- Commands that update a log. -/
abbrev UpdateCommand := Command World UpdateError

/-- One second, in nanoseconds. -/
def nanosPerSecond : ℤ := 1000000000

/-- The key that signs a new entry. -/
structure LogSigner where
  didStr : Text
  did : DID
  entry : KeyStoreEntry
  /-- The latest snapshot. -/
  version : ℕ
  /-- The authorized key of that snapshot. -/
  authorized : FixedBytes 32

/-- The trailing path segment of a DID. -/
def extractRegistryIdentifier (did : DID) : Option Text :=
  (did.path.bind fun p => (Text.split ':' p).getLast?).filter fun s => s ≠ []

/-- The lines of a log and a new one. -/
def buildUpdatedLog (rawLines : List Text) (newLine : Text) : Text :=
  (rawLines.flatMap fun line => line ++ ['\n']) ++ newLine ++
    (if newLine.getLast? = some '\n' then [] else ['\n'])

/-- A new entry. -/
structure NewEntry where
  versionId : Text
  /-- Its JSON form, with the proof. -/
  value : Value

/-- Builds entry number `n` on its predecessor: it is hashed without its proof, which is over the
document only. -/
def buildEntry (X : SigningCrates) (prevVersionId versionTime : Text) (parameters document : Value)
    (n : UInt32) (signer : FixedBytes 32) : NewEntry :=
  let state := Value.ofFields [(Text.lit "value", document)]
  let entryHash := deriveEntryHash X.toCrates
    (.array [.string prevVersionId, .string versionTime, parameters, state])
  let versionId := Text.decimal n.toNat ++ '-' :: entryHash
  let multikey := ed25519VerifyingKeyToMultikey (X.ed25519VerifyingKey signer)
  let proof := DataIntegrityProof.sign X signer document
    { cryptosuite := .eddsaJcs2022
      verificationMethod := Text.lit "did:key:" ++ multikey ++ '#' :: multikey
      proofPurpose := .authentication
      challenge := versionId
      created := versionTime }
  { versionId
    value := .array [.string versionId, .string versionTime, parameters, state,
      .array [proof.toJson]] }

variable (X : ToolCrates) (env : Env)

/-- The later of five seconds ago and one second after the previous version. -/
def computeVersionTime {ε : Type} (prevVersionTime : Text) : Command World ε Text := do
  let now ← Os.now env
  let backdated := now - 5 * nanosPerSecond
  return X.rfc3339Secs (((X.parseRfc3339 prevVersionTime).map fun prev =>
    max (prev + nanosPerSecond) backdated).getD backdated)

/-- A new entry must have a place to go to. -/
def checkTarget (args : UpdateArgs) : Except UpdateError Unit :=
  Except.ensure (¬ (args.did.isSome = true ∧ args.out = none ∧ args.noPublish = true)) .noTarget

/-- The last entry of a log, in the `did:tdw` 0.3 format. -/
def lastEntry (log : DIDLog) : Except UpdateError DIDLogEntry := do
  let last ← log.entries.getLast?.okOr .emptyLog
  Except.ensure (last.format = .tdw03) .unsupportedFormat
  return last

theorem lastEntry_eq_ok_iff {log : DIDLog} {last : DIDLogEntry} :
    lastEntry log = .ok last ↔ log.entries.getLast? = some last ∧ last.format = .tdw03 := by
  simp only [lastEntry, Except.bind_eq_ok_iff, Option.okOr_eq_ok_iff, Except.ensure_eq_ok_iff]
  constructor
  · rintro ⟨e, he, _, hformat, heq⟩
    obtain rfl := Except.ok.inj heq
    exact ⟨he, hformat⟩
  · rintro ⟨he, hformat⟩
    exact ⟨last, he, (), hformat, rfl⟩

/-- The DID of a log, as text and parsed. -/
def logDid (log : DIDLog) : Except UpdateError (Text × DID) := do
  let didStr ← (currentDid log).okOr .didNotInLog
  let did ← (DID.fromStr didStr).mapError (.did didStr)
  return (didStr, did)

/-- The authorized key of the DID of a log, from the latest snapshot. -/
def loadSigner (log : DIDLog) : UpdateCommand LogSigner := do
  let (didStr, did) ← Command.ofExcept (logDid log)
  let entry ← (KeyStore.lookup X env did).mapError .keyStore
  let entry ← Command.ofExcept (entry.okOr (.keyStoreMiss didStr))
  let version ← (entry.latestVersion env).mapError .keyStore
  let authorized ← (entry.loadEddsa X env .authorized (some version)).mapError .keyStore
  return { didStr, did, entry, version, authorized }

/-- Says that an upload has failed, once the log is somewhere else. -/
def reportUpload (updatedLog : Text) (source : Text) : Option Text → UpdateCommand Unit
  | some path => Command.fail (.publishFailed source path)
  | none => do
    let pending ← (writePendingLog env updatedLog).mapError .writeLog
    Command.fail (.publishFailedPending source pending)

/-- Uploads an updated log, which has been written to `writtenTo`, unless it is not to be
published. -/
def publishLog (args : UpdateArgs) (didStr : Text) (did : DID) (updatedLog : Text)
    (writtenTo : Option Text) : UpdateCommand Unit :=
  if args.noPublish = true then return ()
  else do
    let (partnerId, registryUrl) ← Command.ofExcept ((requireRegistryCredentials args.partnerId
      args.registryUrl " (or use --no-publish)").mapError .registryArgs)
    let identifier ← Command.ofExcept
      ((extractRegistryIdentifier did).okOr (.identifierExtraction didStr))
    let publication : Publication :=
      { registryUrl, partnerId, identifier, body := Text.trimEnd updatedLog }
    (Os.publish env publication).orElse fun source => reportUpload env updatedLog source writtenTo

end Swiyu
