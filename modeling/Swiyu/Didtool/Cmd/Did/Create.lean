import Swiyu.Core.DidLog.Scid
import Swiyu.Core.Proof
import Swiyu.Didtool.Cmd.Resolve

/-!
# Creation of DIDs

The genesis entry is built with a placeholder for the SCID, from which the SCID is derived and put
in. The log is written before the keys are committed to the key store.
-/

namespace Swiyu

open Json

/-- Arguments of the creation. -/
structure CreateArgs where
  url : Option Text := none
  swiyu : Bool := false
  partnerId : Option Text := none
  registryUrl : Option Text := none
  noPublish : Bool := false
  format : LogEntryFormat := .tdw03
  out : Text
  authorizedKey : Option Text := none
  authenticationKey : Option Text := none
  assertionKey : Option Text := none

/-- Why no DID is created. -/
inductive CreateError
  | url (msg : Text)
  | authorizedKey (e : CryptoError)
  | authenticationKey (e : CryptoError)
  | assertionKey (e : CryptoError)
  | identicalKeys
  | noUrlSource
  | ambiguousUrlSource
  | registryArgs (e : RegistryArgsError)
  | noPublishWithoutSwiyu
  | publishFailed (source path : Text)
  | writeLog (path source : Text)
  | keyStore (e : KeyStoreError)
  | did (e : DIDError)
  | json (msg : Text)
  | swiyu (source : Text)
  deriving DecidableEq

/-- The message of an error. -/
def CreateError.toText : CreateError → Text
  | url msg => msg
  | authorizedKey e => Text.lit "--authorized-key: " ++ e.toText
  | authenticationKey e => Text.lit "--authentication-key: " ++ e.toText
  | assertionKey e => Text.lit "--assertion-key: " ++ e.toText
  | identicalKeys => "--authentication-key and --assertion-key must differ"
  | noUrlSource => "neither URL nor SWIYU mode set"
  | ambiguousUrlSource => "URL and SWIYU mode are mutually exclusive"
  | registryArgs e => e.toText
  | noPublishWithoutSwiyu => "--no-publish requires SWIYU mode"
  | publishFailed source path =>
    Text.lit "DID created and saved locally, but registry upload failed: " ++ source ++
      " — retry manually with the file at " ++ path
  | writeLog path source => Text.lit "cannot write '" ++ path ++ "': " ++ source
  | keyStore e => e.toText
  | did e => e.toText
  | json msg => msg
  | swiyu source => source

/-- Commands of the creation. -/
abbrev CreateCommand := Command World CreateError

namespace Create

/-! ## The DID -/

/-- The host and the path of what follows the scheme of a URL. -/
def splitHost (rest : Text) : Text × Text := (Text.splitOnce '/' rest).getD (rest, [])

/-- The colon before the port, percent-encoded. -/
def didHost (host : Text) : Text :=
  match Text.splitOnce ':' host with
  | some (name, port) => name ++ "%3A" ++ port
  | none => host

/-- The segments of a path, without the name of the log. -/
def pathSegments (path : Text) : List Text :=
  let segments := (Text.split '/' path).filter fun s => s ≠ []
  if segments.getLast? = some (Text.lit "did.jsonl") then segments.dropLast else segments

/-- The path of a DID; the root path is implicit. -/
def didPath (segments : List Text) : Option Text :=
  if segments = [] ∨ segments = [Text.lit ".well-known"] then none
  else some ([':'].intercalate segments)

/-- The domain and the path of the DID whose log is served at a URL. -/
def urlToDidComponents (url : Text) : Except CreateError (Text × Option Text) := do
  let rest ← (Text.stripPrefix "https://" url).okOr
    (.url (Text.lit "URL must use https:// scheme: " ++ url))
  let (host, path) := splitHost rest
  Except.ensure (host ≠ []) (.url "URL is missing a host")
  return (didHost host, didPath (pathSegments path))

/-- Builds the DID of a format. -/
def buildDid (format : LogEntryFormat) (scid : Option Text) (domain : Text) (path : Option Text) :
    Except DIDError DID :=
  match format with
  | .tdw03 => DID.tryNewTdw scid domain path
  | .webVH10 => DID.tryNewWebvh scid domain path

/-! ## The genesis entry -/

/-- A genesis entry and the DID that it creates. -/
structure Genesis where
  did : DID
  /-- The JSON form of the entry, with its proof. -/
  value : Value

/-- The document in a serialised entry. -/
def documentOf (entry : Value) : LogEntryFormat → Value
  | .tdw03 => ((entry.asArray.bind fun arr => arr[3]?).bind fun v => v.get "value").getD .null
  | .webVH10 => ((entry.get "state").bind fun v => v.get "value").getD .null

/-- The purpose of the proofs of a format. -/
def proofPurpose : LogEntryFormat → ProofPurpose
  | .tdw03 => .authentication
  | .webVH10 => .assertionMethod

variable (X : ToolCrates) (env : Env)

/-- The genesis entry before its SCID is known, without its proof slot. -/
def preliminary (format : LogEntryFormat) (staged : StagedKeys) (placeholder : DID) (now : Text) :
    Value :=
  stripProofSlot (DIDLogEntry.newGenesis format
    (ed25519VerifyingKeyToMultikey (staged.authorizedKeyBytes X)) placeholder.toText
    (staged.authenticationKeyCoords X) (staged.assertionKeyCoords X) now).toJson format

/-- Signs a genesis entry: its number and hash become its version. -/
def signGenesis (format : LogEntryFormat) (staged : StagedKeys) (now : Text) (entryValue : Value) :
    Value :=
  let versionId := Text.lit "1-" ++ deriveEntryHash X.toCrates entryValue
  let entryValue := setVersionId entryValue versionId format
  let multikey := ed25519VerifyingKeyToMultikey (staged.authorizedKeyBytes X)
  let proof := DataIntegrityProof.sign X.toSigningCrates staged.authorized
    (documentOf entryValue format)
    { cryptosuite := .eddsaJcs2022
      verificationMethod := Text.lit "did:key:" ++ multikey ++ '#' :: multikey
      proofPurpose := proofPurpose format
      challenge := versionId
      created := now }
  appendProof entryValue proof.toJson format

/-- Builds the genesis entry: derives the SCID from the preliminary entry and puts it in place of
its placeholder. -/
def buildGenesis (format : LogEntryFormat) (staged : StagedKeys) (domain : Text)
    (path : Option Text) (placeholder : DID) (now : Text) : Except CreateError Genesis := do
  let prelim := preliminary X format staged placeholder now
  let scid := deriveScid X.toCrates prelim
  let withScid := Text.replace scidPlaceholder scid (prelim.print X.f64)
  let entryValue ← (X.fromStr withScid).mapError .json
  let did ← (buildDid format (some scid) domain path).mapError .did
  return { did, value := signGenesis X format staged now entryValue }

/-- The line of a genesis entry. -/
def Genesis.line (genesis : Genesis) : Text := genesis.value.print X.f64 ++ ['\n']

/-! ## Keys -/

/-- A key that is imported from a file, or else generated. -/
def prepareKey (path : Option Text) (read : Text → Command World CryptoError (FixedBytes 32))
    (error : CryptoError → CreateError) (generated : CreateCommand (FixedBytes 32)) :
    CreateCommand (FixedBytes 32) :=
  match path with
  | some p => (read p).mapError error
  | none => generated

/-- Imports or generates the keys of a new DID. -/
def prepareKeys (args : CreateArgs) : CreateCommand StagedKeys := do
  let authorized ← prepareKey args.authorizedKey (readPrivateKeyEddsa X env) .authorizedKey
    (Os.generateEddsa env)
  let authentication ← prepareKey args.authenticationKey (readPrivateKeyEcdsa X env)
    .authenticationKey (Os.generateEcdsa env)
  let assertion ← prepareKey args.assertionKey (readPrivateKeyEcdsa X env) .assertionKey
    (Os.generateEcdsa env)
  Command.ofExcept (Except.ensure
    (¬ (args.authenticationKey.isSome = true ∧ args.assertionKey.isSome = true ∧
      X.p256VerifyingKey authentication = X.p256VerifyingKey assertion)) .identicalKeys)
  return { authorized, authentication, assertion }

/-! ## The command -/

/-- The space in the registry that has been allocated for a DID. -/
structure Space where
  partnerId : Text
  registryUrl : Text
  allocation : Allocation

/-- The URL at which the log will be served: the one that is given, or one that the registry
allocates. -/
def resolveUrl (args : CreateArgs) : CreateCommand (Text × Option Space) :=
  match args.url, args.swiyu with
  | some _, true => Command.fail .ambiguousUrlSource
  | none, false => Command.fail .noUrlSource
  | none, true => do
    let (partnerId, registryUrl) ← Command.ofExcept
      ((requireRegistryCredentials args.partnerId args.registryUrl []).mapError .registryArgs)
    let allocation ← (Os.allocate env partnerId registryUrl).mapError .swiyu
    return (allocation.url, some { partnerId, registryUrl, allocation })
  | some url, false => return (url, none)

/-- Five seconds ago. -/
def nowIso8601 {ε : Type} : Command World ε Text := do
  let now ← Os.now env
  return X.rfc3339Secs (now - 5 * 1000000000)

/-- A new DID that has not been written yet. -/
structure Prepared where
  space : Option Space
  staged : StagedKeys
  genesis : Genesis

/-- Resolves the URL, prepares the keys and builds the genesis entry. -/
def prepare (args : CreateArgs) : CreateCommand Prepared := do
  Command.ofExcept (Except.ensure (¬ (args.noPublish = true ∧ args.swiyu = false))
    .noPublishWithoutSwiyu)
  let (url, space) ← resolveUrl env args
  let (domain, path) ← Command.ofExcept (urlToDidComponents url)
  let staged ← prepareKeys X env args
  let placeholder ← Command.ofExcept ((buildDid args.format none domain path).mapError .did)
  let now ← nowIso8601 X env
  let genesis ← Command.ofExcept (buildGenesis X args.format staged domain path placeholder now)
  return { space, staged, genesis }

/-- Writes the log. -/
def save (args : CreateArgs) (prepared : Prepared) : CreateCommand Unit :=
  (Os.write env args.out (prepared.genesis.line X)).mapError (.writeLog args.out)

/-- Commits the keys to the key store. -/
def commit (prepared : Prepared) : CreateCommand KeyStoreEntry :=
  (KeyStore.commit X env prepared.staged prepared.genesis.did).mapError .keyStore

/-- Uploads the log, if a space has been allocated for it and it is to be published. -/
def publish (args : CreateArgs) (prepared : Prepared) : CreateCommand (Option Text) :=
  match prepared.space, args.noPublish with
  | some space, false => do
    let publication : Publication :=
      { registryUrl := space.registryUrl
        partnerId := space.partnerId
        identifier := space.allocation.identifier
        body := Text.trimEnd (prepared.genesis.line X) }
    (Os.publish env publication).mapError fun source => .publishFailed source args.out
    return some space.allocation.url
  | _, _ => return none

/-- What is reported of a creation. -/
structure Report where
  did : DID
  out : Text
  hash : Text
  publishedUrl : Option Text

/-- Creates a DID. -/
def cmdCreate (args : CreateArgs) : CreateCommand Report := do
  let prepared ← prepare X env args
  save X env args prepared
  let entry ← commit X env prepared
  let publishedUrl ← publish X env args prepared
  return { did := prepared.genesis.did, out := args.out, hash := entry.hash, publishedUrl }

end Create

end Swiyu
