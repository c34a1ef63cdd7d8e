import Swiyu.Core.Did
import Swiyu.Core.DidDoc

/-!
# DID logs

The entries of a DID log in their two wire formats, `did:tdw` 0.3 arrays and `did:webvh` 1.0
objects, the constructors of the entries that the tools write, and the JSON Lines form of a log.

## Main definitions

- `Swiyu.LogParameters`, `Swiyu.DIDDocState`, `Swiyu.DIDLogEntry`: an entry and its parts.
- `Swiyu.DIDLogEntry.toJson`, `Swiyu.DIDLogEntry.tryFromJson`: its wire formats.
- `Swiyu.DIDLog.tryFromJsonl`: the parser of a log.
- `Swiyu.eddsaJcs2022Hash`: what the proof of an entry signs.
-/

namespace Swiyu

open Json

/-- Why a log or an entry is rejected. -/
inductive DIDLogError
  | invalidFormat (msg : Text)
  | missingField (field : Text)
  | invalidFieldType (msg : Text)
  deriving DecidableEq

/-- The message of an error. -/
def DIDLogError.toText : DIDLogError → Text
  | invalidFormat msg => Text.lit "invalid format: " ++ msg
  | missingField field => Text.lit "missing required field: " ++ field
  | invalidFieldType msg => Text.lit "invalid field type: " ++ msg

/-- The wire format of a log entry. -/
inductive LogEntryFormat
  /-- `did:tdw` v0.3: a five-element JSON array. -/
  | tdw03
  /-- `did:webvh` v1.0: a JSON object. -/
  | webVH10
  deriving DecidableEq

/-! ## Optional fields -/

/-- An optional field read by `read`, which is absent where the value has the wrong type. -/
def optionalField {α : Type} (read : Value → Option α) (typeName : Text) (obj : Object)
    (key : Text) : Except DIDLogError (Option α) :=
  match obj.get key with
  | none => .ok none
  | some v =>
    ((read v).okOr (.invalidFieldType (Text.lit "'" ++ key ++ "' must be " ++ typeName))).map some

/-- An optional string. -/
def stringField := optionalField Value.asStr "a string"

/-- An optional boolean. -/
def boolField := optionalField Value.asBool "a boolean"

/-- An optional unsigned number. -/
def u64Field := optionalField Value.asU64 "a number"

/-- An optional array of strings. -/
def stringArrayField (obj : Object) (key : Text) : Except DIDLogError (Option (List Text)) := do
  match ← optionalField Value.asArray "an array" obj key with
  | none => return none
  | some arr =>
    (arr.mapM fun v : Value => v.asStr.okOr
      (.invalidFieldType (Text.lit "'" ++ key ++ "' elements must be strings"))).map some

/-! ## States and parameters -/

/-- The state of the DID document in an entry: a full replacement or an incremental patch. -/
inductive DIDDocState
  | value (v : Value)
  | patch (p : Value)
  deriving DecidableEq

namespace DIDDocState

/-- Parses a state; `value` wins over `patch`. -/
def tryFromJson (v : Value) : Except DIDLogError DIDDocState := do
  let obj ← v.asObject.okOr (.invalidFieldType "DIDDocState must be a JSON object")
  match obj.get "value", obj.get "patch" with
  | some v, _ => .ok (.value v)
  | none, some p => .ok (.patch p)
  | none, none => .error (.invalidFormat "DIDDocState must contain 'value' or 'patch'")

/-- The JSON form of a state. -/
def toJson : DIDDocState → Value
  | value v => .ofFields [(Text.lit "value", v)]
  | patch p => .ofFields [(Text.lit "patch", p)]

theorem get_toJson (state : DIDDocState) (k : Text) : state.toJson.get k =
    match state with
    | value v => if k = Text.lit "value" then some v else none
    | patch p => if k = Text.lit "patch" then some p else none := by
  cases state <;> simp [toJson, Value.ofFields, Value.get, Value.asObject, OrdMap.ofList]

theorem toJson_injective : Function.Injective toJson := by
  intro a b h
  have hget : ∀ k : Text, a.toJson.get k = b.toJson.get k := fun k => by rw [h]
  have hvalue := hget "value"
  have hpatch := hget "patch"
  rw [get_toJson, get_toJson] at hvalue hpatch
  cases a <;> cases b <;> simp_all

end DIDDocState

/-- The parameters of an entry, which control DID generation and verification. -/
structure LogParameters where
  /-- The wire format that the parameters are read from and written in. -/
  format : LogEntryFormat
  /-- The DID method version. Present only in the first entry. -/
  method : Option Text := none
  /-- The self-certifying identifier. Present only in the first entry. -/
  scid : Option Text := none
  /-- The keys authorized to sign subsequent entries. -/
  updateKeys : Option (List Text) := none
  /-- Whether the next-key-hashes commitment is active. -/
  prerotation : Option Bool := none
  /-- Hashes of the next update keys. -/
  nextKeyHashes : Option (List Text) := none
  /-- Whether the DID may be moved to a different domain. -/
  portable : Option Bool := none
  /-- Whether the DID is deactivated. -/
  deactivated : Option Bool := none
  /-- How long resolvers may cache the document, in seconds. -/
  ttl : Option UInt64 := none
  /-- Witness configuration. -/
  witness : Option Value := none
  /-- URLs of monitoring services, in `did:webvh` only. -/
  watchers : Option (List Text) := none
  deriving DecidableEq

namespace LogParameters

/-- The genesis parameters of a `did:tdw` log. -/
def newTdwMinimal (method scid : Text) (updateKeys : List Text) : LogParameters :=
  { format := .tdw03, method := some method, scid := some scid, updateKeys := some updateKeys }

/-- The genesis parameters of a `did:webvh` log. -/
def newWebvhMinimal (method scid : Text) (updateKeys : List Text) : LogParameters :=
  { format := .webVH10, method := some method, scid := some scid, updateKeys := some updateKeys }

/-- Parses parameters; members with other names are ignored. -/
def tryFromJson (v : Value) (format : LogEntryFormat) : Except DIDLogError LogParameters := do
  let obj ← v.asObject.okOr (.invalidFieldType "parameters must be a JSON object")
  let method ← stringField obj "method"
  let scid ← stringField obj "scid"
  let updateKeys ← stringArrayField obj "updateKeys"
  let prerotation ← boolField obj "prerotation"
  let nextKeyHashes ← stringArrayField obj "nextKeyHashes"
  let portable ← boolField obj "portable"
  let deactivated ← boolField obj "deactivated"
  let ttl ← u64Field obj "ttl"
  let watchers ← match format with
    | .webVH10 => stringArrayField obj "watchers"
    | .tdw03 => .ok none
  return { format, method, scid, updateKeys, prerotation, nextKeyHashes, portable, deactivated, ttl,
           witness := obj.get "witness", watchers }

/-- The value of the `portable` member: a `did:tdw` genesis entry always has one. -/
def portableJson (p : LogParameters) : Option Bool :=
  let isTdwGenesis := p.format = .tdw03 ∧ p.scid.isSome
  match p.portable with
  | some v => some v
  | none => if isTdwGenesis then some false else none

/-- The member `key` when there is a value for it. -/
def member {α : Type} (key : Text) (toJson : α → Value) (v : Option α) : List (Text × Value) :=
  (v.map fun a => (key, toJson a)).toList

/-- The members of the JSON form of parameters. -/
def toFields (p : LogParameters) : List (Text × Value) :=
  member "method" .string p.method ++
  member "scid" .string p.scid ++
  member "updateKeys" .strings p.updateKeys ++
  member "prerotation" .bool p.prerotation ++
  member "nextKeyHashes" .strings p.nextKeyHashes ++
  member "portable" .bool p.portableJson ++
  member "deactivated" .bool p.deactivated ++
  member "ttl" (fun n => .number (.posInt n)) p.ttl ++
  member "witness" id p.witness ++
  member "watchers" .strings (if p.format = .webVH10 then p.watchers else none)

/-- The JSON form of parameters. -/
def toJson (p : LogParameters) : Value := .ofFields p.toFields

end LogParameters

/-! ## Entries -/

/-- A single entry of a DID log. -/
structure DIDLogEntry where
  /-- The wire format of this entry. -/
  format : LogEntryFormat
  /-- The version of the document: a sequence number and a hash of the entry. -/
  versionId : Text
  /-- When this version was published. -/
  versionTime : Text
  /-- Control parameters. -/
  parameters : LogParameters
  /-- The document this entry introduces. -/
  didDocState : DIDDocState
  /-- Data integrity proofs authorising this entry. -/
  dataIntegrityProofs : List Value
  deriving DecidableEq

namespace DIDLogEntry

/-- The genesis entry, with `{SCID}` placeholders. -/
def newGenesis (format : LogEntryFormat) (authorizedMultikey didPlaceholder : Text)
    (authentication assertion : P256PublicKey) (now : Text) : DIDLogEntry :=
  { format
    versionId := scidPlaceholder
    versionTime := now
    parameters := match format with
      | .tdw03 => .newTdwMinimal "did:tdw:0.3" scidPlaceholder [authorizedMultikey]
      | .webVH10 => .newWebvhMinimal "did:webvh:1.0" scidPlaceholder [authorizedMultikey]
    didDocState := .value (DIDDoc.newGenesis didPlaceholder authentication assertion).toJson
    dataIntegrityProofs := [] }

/-- A deactivation entry that carries the previous document and version. -/
def newDeactivation (format : LogEntryFormat) (prevVersionId : Text) (prevDidDoc : DIDDoc)
    (newVersionTime : Text) : DIDLogEntry :=
  { format
    versionId := prevVersionId
    versionTime := newVersionTime
    parameters := { format, updateKeys := some [], deactivated := some true }
    didDocState := .value prevDidDoc.toJson
    dataIntegrityProofs := [] }

/-- A key-rotation entry that carries the previous version. -/
def newRotation (format : LogEntryFormat) (prevVersionId did newAuthorizedMultikey : Text)
    (newAuthentication newAssertion : P256PublicKey) (newVersionTime : Text) : DIDLogEntry :=
  { format
    versionId := prevVersionId
    versionTime := newVersionTime
    parameters := { format, updateKeys := some [newAuthorizedMultikey] }
    didDocState := .value (DIDDoc.newGenesis did newAuthentication newAssertion).toJson
    dataIntegrityProofs := [] }

/-- Parses a `did:tdw` 0.3 entry. -/
def tryFromJsonArray (arr : List Value) : Except DIDLogError DIDLogEntry :=
  match arr with
  | [v₀, v₁, v₂, v₃, v₄] => do
    let versionId ← v₀.asStr.okOr (.invalidFieldType "versionId must be a string")
    let versionTime ← v₁.asStr.okOr (.invalidFieldType "versionTime must be a string")
    let parameters ← LogParameters.tryFromJson v₂ .tdw03
    let didDocState ← DIDDocState.tryFromJson v₃
    let dataIntegrityProofs ←
      v₄.asArray.okOr (.invalidFieldType "DataIntegrityProof must be a JSON array")
    return { format := .tdw03, versionId, versionTime, parameters, didDocState,
             dataIntegrityProofs }
  | _ => .error (.invalidFormat (Text.lit "v0.3 log entry must have exactly 5 elements, got " ++
      Text.decimal arr.length))

/-- Parses a `did:webvh` 1.0 entry. -/
def tryFromJsonObject (obj : Object) : Except DIDLogError DIDLogEntry := do
  let versionId ← (← stringField obj "versionId").okOr (.missingField "versionId")
  let versionTime ← (← stringField obj "versionTime").okOr (.missingField "versionTime")
  let parameters ← (obj.get "parameters").okOr (.missingField "parameters")
  let parameters ← LogParameters.tryFromJson parameters .webVH10
  let state ← (obj.get "state").okOr (.missingField "state")
  let didDocState ← DIDDocState.tryFromJson state
  let proof ← (obj.get "proof").okOr (.missingField "proof")
  let dataIntegrityProofs ← proof.asArray.okOr (.invalidFieldType "proof must be a JSON array")
  return { format := .webVH10, versionId, versionTime, parameters, didDocState,
           dataIntegrityProofs }

/-- Parses an entry in the format that its JSON type tells. -/
def tryFromJson : Value → Except DIDLogError DIDLogEntry
  | .array arr => tryFromJsonArray arr
  | .object obj => tryFromJsonObject obj
  | _ => .error (.invalidFormat "log entry must be a JSON array (v0.3) or object (v1.0)")

/-- The JSON form of an entry. -/
def toJson (entry : DIDLogEntry) : Value :=
  match entry.format with
  | .tdw03 =>
    .array [.string entry.versionId, .string entry.versionTime, entry.parameters.toJson,
      entry.didDocState.toJson, .array entry.dataIntegrityProofs]
  | .webVH10 =>
    .ofFields [(Text.lit "versionId", .string entry.versionId),
      (Text.lit "versionTime", .string entry.versionTime),
      (Text.lit "parameters", entry.parameters.toJson),
      (Text.lit "state", entry.didDocState.toJson),
      (Text.lit "proof", .array entry.dataIntegrityProofs)]

end DIDLogEntry

/-! ## Logs -/

/-- A DID log: its entries in order. -/
structure DIDLog where
  entries : List DIDLogEntry
  deriving DecidableEq

namespace DIDLog

variable (X : Crates)

/-- The error of line `i`, counted from 0, of a log. -/
def lineError (i : ℕ) (e : DIDLogError) : DIDLogError :=
  let line := Text.lit "line " ++ Text.decimal (i + 1) ++ ": "
  match e with
  | .invalidFormat m => .invalidFormat (line ++ m)
  | .missingField f => .invalidFormat (line ++ "missing field '" ++ f ++ "'")
  | .invalidFieldType m => .invalidFormat (line ++ m)

/-- Parses line `i`, which is not blank. -/
def entryOfLine (i : ℕ) (trimmed : Text) : Except DIDLogError DIDLogEntry := do
  let v ← (X.fromStr trimmed).mapError fun e => lineError i (.invalidFormat e)
  (DIDLogEntry.tryFromJson v).mapError (lineError i)

/-- Parses the lines from line `i` on; blank ones are skipped. -/
def entriesOfLines : ℕ → List Text → Except DIDLogError (List DIDLogEntry)
  | _, [] => .ok []
  | i, line :: lines =>
    let trimmed := Text.trim line
    if trimmed = [] then entriesOfLines (i + 1) lines
    else do
      let entry ← entryOfLine X i trimmed
      return entry :: (← entriesOfLines (i + 1) lines)

/-- Parses a DID log from JSON Lines. -/
def tryFromJsonl (text : Text) : Except DIDLogError DIDLog :=
  (entriesOfLines X 0 (Text.lines text)).map DIDLog.mk

end DIDLog

/-- The hash input of an `eddsa-jcs-2022` proof: the hash of the canonical proof options followed by
the hash of the canonical document. -/
def eddsaJcs2022Hash (X : Crates) (document proofConfig : Value) : Bytes :=
  X.sha256 (X.jcs proofConfig) ++ (X.sha256 (X.jcs document) : Bytes)

end Swiyu
