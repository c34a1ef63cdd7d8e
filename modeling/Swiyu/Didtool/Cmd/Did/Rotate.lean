import Swiyu.Didtool.Cmd.Did.Update

/-!
# Rotation of keys

A new entry with the DID document of new keys, signed with the previous authorized key. The updated
log is written before the new keys are added to the key store.
-/

namespace Swiyu

open Json

/-- The roles whose keys are generated anew. -/
inductive RotateRole
  | authorized
  | authentication
  | assertion
  | all
  deriving DecidableEq

/-- Arguments of the rotation. -/
structure RotateArgs extends UpdateArgs where
  rotate : List RotateRole := []
  authorizedKey : Option Text := none
  authenticationKey : Option Text := none
  assertionKey : Option Text := none

/-- Why keys are not rotated. -/
inductive RotateError
  | noChange
  | conflictingRotation (role : Text)
  | keyImport (role : Text) (source : CryptoError)
  | update (e : UpdateError)
  deriving DecidableEq

/-- The message of an error. -/
def RotateError.toText : RotateError → Text
  | noChange => "nothing to update — pass at least one --role <role> or --<role>-key flag"
  | conflictingRotation role =>
    Text.lit "--role " ++ role ++ " and --" ++ role ++ "-key are mutually exclusive"
  | keyImport role source => Text.lit "--" ++ role ++ "-key: " ++ source.toText
  | update e => e.toText
      { nothingTo := "update against", format := "update", sign := "update", done := "updated",
        upload := "new DID log", saved := "new entry", homeless := "new log entry" }

/-- Commands of the rotation. -/
abbrev RotateCommand := Command World RotateError

namespace Rotate

/-! ## Planning -/

/-- What becomes of the key of a role. -/
inductive Action
  | keep
  | generate
  | import (path : Text)
  deriving DecidableEq

/-- What becomes of the three keys. -/
structure Plan where
  authorized : Action := .keep
  authentication : Action := .keep
  assertion : Action := .keep
  deriving DecidableEq

/-- Marks the key of a role to be generated. -/
def Plan.mark (plan : Plan) : RotateRole → Plan
  | .authorized => { plan with authorized := .generate }
  | .authentication => { plan with authentication := .generate }
  | .assertion => { plan with assertion := .generate }
  | .all => ⟨.generate, .generate, .generate⟩

/-- A key that is given is imported, unless it is to be generated. -/
def planImport (role : Text) (action : Action) (path : Option Text) : Except RotateError Action :=
  match path with
  | some p => if action = .generate then .error (.conflictingRotation role) else .ok (.import p)
  | none => .ok action

/-- Plans what becomes of the keys. -/
def planRotation (args : RotateArgs) : Except RotateError Plan := do
  let marked := args.rotate.foldl Plan.mark {}
  let authorized ← planImport "authorized" marked.authorized args.authorizedKey
  let authentication ← planImport "authentication" marked.authentication args.authenticationKey
  let assertion ← planImport "assertion" marked.assertion args.assertionKey
  let plan : Plan := { authorized, authentication, assertion }
  Except.ensure (plan ≠ {}) .noChange
  return plan

variable (X : ToolCrates) (env : Env)

/-- The key of a role after its action. -/
def stageKey (role : Text) (kept : KeyStoreCommand (FixedBytes 32))
    (generated : RotateCommand (FixedBytes 32))
    (read : Text → Command World CryptoError (FixedBytes 32)) :
    Action → RotateCommand (FixedBytes 32)
  | .keep => kept.mapError fun e => .update (.keyStore e)
  | .generate => generated
  | .import path => (read path).mapError (.keyImport role)

/-- The keys after the plan. -/
def stageKeys (entry : KeyStoreEntry) (version : ℕ) (plan : Plan) : RotateCommand StagedKeys := do
  let authorized ← stageKey "authorized" (entry.loadEddsa X env .authorized (some version))
    (Os.generateEddsa env) (readPrivateKeyEddsa X env) plan.authorized
  let authentication ← stageKey "authentication"
    (entry.loadEcdsa X env .authentication (some version)) (Os.generateEcdsa env)
    (readPrivateKeyEcdsa X env) plan.authentication
  let assertion ← stageKey "assertion" (entry.loadEcdsa X env .assertion (some version))
    (Os.generateEcdsa env) (readPrivateKeyEcdsa X env) plan.assertion
  return { authorized, authentication, assertion }

/-! ## The command -/

/-- A rotation that has not been written yet. -/
structure Prepared where
  loaded : LoadedLog
  signer : LogSigner
  staged : StagedKeys
  newEntry : NewEntry

/-- The parameters of the new entry: update keys only if the authorized key changes. -/
def newParameters (X : SigningCrates) (previous authorized : FixedBytes 32) : Value :=
  let previousMultikey := ed25519VerifyingKeyToMultikey (X.ed25519VerifyingKey previous)
  let newMultikey := ed25519VerifyingKeyToMultikey (X.ed25519VerifyingKey authorized)
  if previousMultikey = newMultikey then .ofFields []
  else .ofFields [(Text.lit "updateKeys", .strings [newMultikey])]

/-- The document of the new entry. -/
def newDocument (didStr : Text) (staged : StagedKeys) : Value :=
  (DIDDoc.newGenesis didStr (staged.authenticationKeyCoords X)
    (staged.assertionKeyCoords X)).toJson

/-- The line of the new entry. -/
def Prepared.newLine (prepared : Prepared) : Text := prepared.newEntry.value.print X.f64

/-- The text of the log with the new entry. -/
def Prepared.updatedLog (prepared : Prepared) : Text :=
  buildUpdatedLog prepared.loaded.rawLines (prepared.newLine X)

/-- Plans the rotation, loads the log and the keys, and builds the new entry. -/
def prepare (args : RotateArgs) : RotateCommand Prepared := do
  let plan ← Command.ofExcept (planRotation args)
  Command.ofExcept ((checkTarget args.toUpdateArgs).mapError .update)
  let loaded ← (loadLog X.toCrates env args.did args.input).mapError fun e => .update (.load e)
  let last ← Command.ofExcept ((lastEntry loaded.log).mapError .update)
  let signer ← (loadSigner X env loaded.log).mapError .update
  let staged ← stageKeys X env signer.entry signer.version plan
  let time ← computeVersionTime X env last.versionTime
  let newEntry := buildEntry X.toSigningCrates last.versionId time
    (newParameters X.toSigningCrates signer.authorized staged.authorized)
    (newDocument X signer.didStr staged) (sequenceNumber loaded.log.entries.length)
    signer.authorized
  return { loaded, signer, staged, newEntry }

/-- Writes the updated log, if there is a file to write it to. -/
def save (args : RotateArgs) (prepared : Prepared) : RotateCommand (Option Text) :=
  (writeLog env (prepared.updatedLog X) prepared.loaded.sourcePath args.out args.force).mapError
    fun e => .update (.writeLog e)

/-- Adds the new keys to the key store. -/
def commit (prepared : Prepared) : RotateCommand ℕ :=
  (prepared.signer.entry.addVersion X env prepared.staged).mapError fun e => .update (.keyStore e)

/-- Uploads the updated log. -/
def publish (args : RotateArgs) (prepared : Prepared) (writtenTo : Option Text) :
    RotateCommand Unit :=
  (publishLog env args.toUpdateArgs prepared.signer.didStr prepared.signer.did
    (prepared.updatedLog X) writtenTo).mapError .update

/-- What is reported of a rotation. -/
structure Report where
  didStr : Text
  newVersionId : Text
  writtenTo : Option Text
  hash : Text
  newVersion : ℕ
  publishedUrl : Option Text

/-- Rotates keys. -/
def cmdRotate (args : RotateArgs) : RotateCommand Report := do
  let prepared ← prepare X env args
  let writtenTo ← save X env args prepared
  let newVersion ← commit X env prepared
  publish X env args prepared writtenTo
  return {
    didStr := prepared.signer.didStr
    newVersionId := prepared.newEntry.versionId
    writtenTo
    hash := prepared.signer.entry.hash
    newVersion
    publishedUrl := if args.noPublish = true then none else some prepared.signer.did.logUrl }

end Rotate

end Swiyu
