import Swiyu.Didtool.Cmd.Did.Update

/-!
# Deactivation of DIDs

A last entry with the previous document and without update keys.
-/

namespace Swiyu

open Json

/-- Why a DID is not deactivated. -/
inductive DeactivateError
  | alreadyDeactivated
  | previousStateIsPatch
  | update (e : UpdateError)
  deriving DecidableEq

/-- The message of an error. -/
def DeactivateError.toText : DeactivateError → Text
  | alreadyDeactivated =>
    "DID is already deactivated (latest entry's parameters.deactivated == true)"
  | previousStateIsPatch =>
    "latest entry's state is a Patch — full DID document required for deactivate"
  | update e => e.toText
      { nothingTo := "deactivate", format := "deactivate", sign := "deactivate entry",
        done := "deactivated", upload := "deactivation entry", saved := "entry",
        homeless := "deactivation entry" }

/-- Commands of the deactivation. -/
abbrev DeactivateCommand := Command World DeactivateError

namespace Deactivate

/-- The document of the last entry, unless it deactivates the DID. -/
def previousDocument (last : DIDLogEntry) : Except DeactivateError Value := do
  Except.ensure (last.parameters.deactivated ≠ some true) .alreadyDeactivated
  match last.didDocState with
  | .value doc => .ok doc
  | .patch _ => .error .previousStateIsPatch

theorem previousDocument_eq_ok_iff {last : DIDLogEntry} {v : Value} :
    previousDocument last = .ok v ↔
      last.parameters.deactivated ≠ some true ∧ last.didDocState = .value v := by
  simp only [previousDocument, Except.bind_eq_ok_iff, Except.ensure_eq_ok_iff]
  cases last.didDocState with
  | value doc => simp
  | patch p => simp

/-- The parameters of a deactivation entry. -/
def newParameters : Value :=
  .ofFields [(Text.lit "deactivated", .bool true), (Text.lit "updateKeys", .array [])]

variable (X : ToolCrates) (env : Env)

/-- A deactivation that has not been written yet. -/
structure Prepared where
  loaded : LoadedLog
  signer : LogSigner
  newEntry : NewEntry

/-- The text of the log with the new entry. -/
def Prepared.updatedLog (prepared : Prepared) : Text :=
  buildUpdatedLog prepared.loaded.rawLines (prepared.newEntry.value.print X.f64)

/-- Loads the log and the key, and builds the new entry. -/
def prepare (args : UpdateArgs) : DeactivateCommand Prepared := do
  Command.ofExcept ((checkTarget args).mapError .update)
  let loaded ← (loadLog X.toCrates env args.did args.input).mapError fun e => .update (.load e)
  let last ← Command.ofExcept ((lastEntry loaded.log).mapError .update)
  let document ← Command.ofExcept (previousDocument last)
  let signer ← (loadSigner X env loaded.log).mapError .update
  let time ← computeVersionTime X env last.versionTime
  let newEntry := buildEntry X.toSigningCrates last.versionId time newParameters document
    (sequenceNumber loaded.log.entries.length) signer.authorized
  return { loaded, signer, newEntry }

/-- What is reported of a deactivation. -/
structure Report where
  didStr : Text
  newVersionId : Text
  writtenTo : Option Text
  publishedUrl : Option Text

/-- Deactivates a DID. -/
def cmdDeactivate (args : UpdateArgs) : DeactivateCommand Report := do
  let prepared ← prepare X env args
  let updatedLog := prepared.updatedLog X
  let writtenTo ← (writeLog env updatedLog prepared.loaded.sourcePath args.out args.force).mapError
    fun e => .update (.writeLog e)
  (publishLog env args prepared.signer.didStr prepared.signer.did updatedLog writtenTo).mapError
    .update
  return {
    didStr := prepared.signer.didStr
    newVersionId := prepared.newEntry.versionId
    writtenTo
    publishedUrl := if args.noPublish = true then none else some prepared.signer.did.logUrl }

end Deactivate

end Swiyu
