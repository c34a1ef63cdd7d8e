import Swiyu.Core.DidLog.Verify
import Swiyu.Core.TrustStatement
import Swiyu.Didtool.Cmd.Http
import Swiyu.Didtool.Cmd.Resolve
import Swiyu.Lib.Command
import Swiyu.Registries.Trust

/-!
# Verification of trust statements

Four checks decide on a trust statement: its issuer, its signature, its freshness and its slot in a
status list. The documents of issuers and the status lists are fetched once and cached.

## Main definitions

- `Swiyu.VerifyContext`: the expected issuer and the two caches.
- `Swiyu.Trust.verifyOne`: the verification of one statement.
- `Swiyu.Trust.verifyStatements`: that of a list of statements, with one context.
-/

namespace Swiyu

open Json

/-- Why a verification ends without a verdict. -/
inductive TrustError
  | trustRegistryUrlMissing
  | trustIssuerMissing
  | statement (n : ℕ) (source : TrustStatementError)
  | issuerResolution (iss reason : Text)
  | statusListMalformed (url reason : Text)
  | statusListSignatureInvalid
  | statusList (e : StatusListError)
  | registry (e : RegistryError)
  | fetch (e : FetchError)
  | resolve (e : ResolveError)
  | didDoc (e : DIDDocError)
  deriving DecidableEq

/-- The message of an error. -/
def TrustError.toText : TrustError → Text
  | trustRegistryUrlMissing => "--trust-registry-url or SWIYU_TRUST_REGISTRY_URL is required"
  | trustIssuerMissing => "--trust-issuer or SWIYU_TRUST_ISSUER_DID is required"
  | statement n source =>
    Text.lit "trust statement #" ++ Text.decimal n ++ " is malformed: " ++ source.toText
  | issuerResolution iss reason =>
    Text.lit "cannot resolve issuer DID log for '" ++ iss ++ "': " ++ reason
  | statusListMalformed url reason =>
    Text.lit "status list at '" ++ url ++ "' is malformed: " ++ reason
  | statusListSignatureInvalid => "status list signature verification failed"
  | statusList e => e.toText
  | registry e => e.toText
  | fetch e => e.toText
  | resolve e => e.toText
  | didDoc e => e.toText

/-- State threaded through the verification of the statements of one command. -/
structure VerifyContext where
  /-- The trust issuer whose statements and status lists count. -/
  expectedIssuer : Text
  /-- Issuer documents, keyed by DID. -/
  issuerDocs : OrdMap Text DIDDoc := ∅
  /-- Status lists with a verified signature, keyed by URL. -/
  statusLists : OrdMap Text StatusList := ∅

/-- A request: its URL and, unless it is for a status list, the DID whose log is asked for. -/
structure Request where
  url : Text
  logOf : Option Text := none
  deriving DecidableEq

/-- The context and the requests made so far, the first one first. -/
structure VerifyState where
  ctx : VerifyContext
  requests : List Request := []

/-- The state after one more request. -/
def VerifyState.requested (s : VerifyState) (request : Request) : VerifyState :=
  { s with requests := s.requests ++ [request] }

/-- The outcome of one check. -/
inductive Check
  | ok (message : Text)
  | fail (message : Text)
  | skip (message : Text)
  deriving DecidableEq

/-- Whether a check is passed. -/
def Check.passed : Check → Bool
  | ok _ => true
  | _ => false

/-- The outcome of the verification of a statement. -/
structure Report where
  statement : TrustStatement
  issCheck : Check
  signatureCheck : Check
  freshnessCheck : Check
  statusCheck : Check
  verdict : Bool

namespace Trust

variable (X : JoseCrates) (server : Server)

/-- Commands of the verification. -/
abbrev Verification := Command VerifyState TrustError

/-- Makes a request. -/
def fetch (request : Request) : Verification FetchOutcome := do
  let n ← Command.read fun s => s.requests.length
  Command.update fun s => s.requested request
  Command.ofExcept ((fetchText request.url (server n request.url)).mapError .fetch)

/-! ## Issuer documents -/

/-- The document of a state, which must not be a patch. -/
def latestDocValue (issDid : Text) : DIDDocState → Except TrustError Value
  | .value v => .ok v
  | .patch _ => .error (.issuerResolution issDid "latest entry's state is a JSON Patch")

/-- The document in the last entry of a log. -/
def docOfLog (issDid : Text) (log : DIDLog) : Except TrustError DIDDoc := do
  let last ← log.entries.getLast?.okOr (.issuerResolution issDid "log is empty")
  let docValue ← latestDocValue issDid last.didDocState
  (DIDDoc.tryFromJson X.toCrates docValue).mapError .didDoc

/-- Fetches the document of an issuer. -/
def fetchIssuerDoc (issDid : Text) : Verification DIDDoc := do
  let did ← Command.ofExcept
    ((DID.fromStr issDid).mapError fun e => .issuerResolution issDid e.toText)
  let logUrl := did.logUrl
  match ← fetch server { url := logUrl, logOf := issDid } with
  | .notFound => Command.fail (.issuerResolution issDid ('\'' :: (logUrl ++ "' returned 404")))
  | .ok text => do
    let log ← Command.ofExcept ((DIDLog.tryFromJsonl X.toCrates text).mapError fun e =>
      .issuerResolution issDid (Text.lit "log parse: " ++ e.toText))
    Command.ofExcept (docOfLog X issDid log)

/-- Remembers the document of an issuer. -/
def cacheIssuerDoc (issDid : Text) (doc : DIDDoc) (s : VerifyState) : VerifyState :=
  { s with ctx := { s.ctx with issuerDocs := s.ctx.issuerDocs.insert issDid doc } }

/-- The document of an issuer, from the cache or else fetched. -/
def loadIssuerDoc (issDid : Text) : Verification DIDDoc := do
  match ← Command.read fun s => s.ctx.issuerDocs.get issDid with
  | some doc => return doc
  | none => do
    let doc ← fetchIssuerDoc X server issDid
    Command.update (cacheIssuerDoc issDid doc)
    return doc

/-- The JWK of a public key. -/
def publicKeyJwk : PublicKey → Except Text PublicKeyJWK
  | .jwk jwk => .ok jwk
  | .multibase _ => .error "verification method publicKey is not a JWK"

/-- The P-256 key of the verification method `kid` of a document. -/
def findVerifyingKey (doc : DIDDoc) (kid : Text) : Except Text VerifyingKey := do
  let vm ← (doc.verificationMethod.find? fun vm => vm.id = kid).okOr
    (Text.lit "no verification method with id '" ++ kid ++ "'")
  let jwk ← publicKeyJwk vm.publicKey
  let key ← (VerifyingKey.tryFromJwk X jwk).mapError JwsVerifyError.toText
  Except.ensure (key.alg = Text.lit "ES256") (Text.lit "expected ES256 key, got " ++ key.alg)
  return key

/-! ## Status lists -/

/-- A status list JWT, taken apart. -/
structure StatusListJwt where
  header : Value
  payload : Value
  signature : Bytes
  signingInput : Text

/-- A segment of a JWT as bytes. -/
def decodeSegment (url name segment : Text) : Except TrustError Bytes :=
  (X.base64Decode segment).mapError fun e =>
    .statusListMalformed url (name ++ " not base64url: " ++ e)

/-- The JSON value of a decoded segment. -/
def parseSegment (url name : Text) (bytes : Bytes) : Except TrustError Value :=
  (X.fromSlice bytes).mapError fun e => .statusListMalformed url (name ++ " not JSON: " ++ e)

/-- Takes a status list JWT apart. -/
def splitStatusListJwt (url jwt : Text) : Except TrustError StatusListJwt :=
  match Text.split '.' jwt with
  | [seg₀, seg₁, seg₂] => do
    let headerBytes ← decodeSegment X url "header" seg₀
    let header ← parseSegment X url "header" headerBytes
    let payloadBytes ← decodeSegment X url "payload" seg₁
    let payload ← parseSegment X url "payload" payloadBytes
    let signature ← decodeSegment X url "signature" seg₂
    return { header, payload, signature, signingInput := seg₀ ++ '.' :: seg₁ }
  | segs => .error (.statusListMalformed url
      (Text.lit "expected 3 dot-separated parts, got " ++ Text.decimal segs.length))

/-- The key identifier of a status list JWT and the DID in it, which has to be the expected issuer;
the algorithm has to be ES256. -/
def statusListKid (url : Text) (header : Value) (expectedIssuer : Text) :
    Except TrustError (Text × Text) := do
  let alg := ((header.get "alg").bind Value.asStr).getD "(missing)"
  Except.ensure (alg = Text.lit "ES256") (.statusListMalformed url
    (Text.lit "unsupported alg '" ++ alg ++ "' (expected ES256)"))
  let kid ← ((header.get "kid").bind Value.asStr).okOr
    (.statusListMalformed url "missing 'kid' in header")
  let (kidDid, _) ← (Text.splitOnce '#' kid).okOr
    (.statusListMalformed url (Text.lit "kid '" ++ kid ++ "' has no fragment"))
  Except.ensure (kidDid = expectedIssuer) (.statusListMalformed url
    (Text.lit "kid's DID '" ++ kidDid ++ "' does not match expected issuer '" ++ expectedIssuer ++
      "'"))
  return (kid, kidDid)

/-- Checks the signature of a status list JWT and decodes its list. -/
def openStatusList (url kid : Text) (jwt : StatusListJwt) (doc : DIDDoc) :
    Except TrustError StatusList := do
  let vk ← (findVerifyingKey X doc kid).mapError fun reason =>
    .statusListMalformed url (Text.lit "issuer key resolution: " ++ reason)
  (vk.verify X (Text.utf8 jwt.signingInput) jwt.signature).mapError
    fun _ => .statusListSignatureInvalid
  let inner ← (jwt.payload.get "status_list").okOr
    (.statusListMalformed url "payload is missing the `status_list` member")
  (StatusList.tryFromJson X inner).mapError .statusList

/-- Parses a status list JWT and verifies that the expected issuer signed it. -/
def parseAndVerifyStatusList (url jwt : Text) : Verification StatusList := do
  let parts ← Command.ofExcept (splitStatusListJwt X url jwt)
  let expectedIssuer ← Command.read fun s => s.ctx.expectedIssuer
  let (kid, kidDid) ← Command.ofExcept (statusListKid url parts.header expectedIssuer)
  let doc ← loadIssuerDoc X server kidDid
  Command.ofExcept (openStatusList X url kid parts doc)

/-- Remembers a status list. -/
def cacheStatusList (url : Text) (list : StatusList) (s : VerifyState) : VerifyState :=
  { s with ctx := { s.ctx with statusLists := s.ctx.statusLists.insert url list } }

/-- The status list at `url`, from the cache or else fetched and verified. -/
def loadStatusList (url : Text) : Verification StatusList := do
  match ← Command.read fun s => s.ctx.statusLists.get url with
  | some list => return list
  | none =>
    match ← fetch server { url } with
    | .notFound => Command.fail (.statusListMalformed url "registry returned 404")
    | .ok text => do
      let list ← parseAndVerifyStatusList X server url (Text.trim text)
      Command.update (cacheStatusList url list)
      return list

/-! ## The four checks -/

/-- The issuer has to be the expected one. -/
def checkIssuer (stmt : TrustStatement) (expectedIssuer : Text) : Check :=
  if stmt.iss = expectedIssuer then .ok "matches expected issuer"
  else .fail (stmt.iss ++ " (does not match expected issuer)")

/-- Checks the signature of a statement under the key `kid` of a document. -/
def checkSignature (stmt : TrustStatement) (doc : DIDDoc) : Check :=
  match findVerifyingKey X doc stmt.kid with
  | .error reason => .fail reason
  | .ok vk =>
    match vk.verify X (Text.utf8 stmt.signingInput) stmt.signature with
    | .ok () => .ok (Text.lit "valid (kid: " ++ stmt.kid ++ ")")
    | .error (.invalidSignatureLength ..) =>
      .fail "signature bytes are not a valid ES256 signature"
    | .error _ => .fail "signature does not verify"

/-- Resolves the DID in a statement's `kid` and checks the statement's signature. -/
def verifySignature (stmt : TrustStatement) : Verification Check :=
  if stmt.alg ≠ Text.lit "ES256" then
    return .fail (Text.lit "unsupported alg '" ++ stmt.alg ++ "' (expected ES256)")
  else
    match Text.splitOnce '#' stmt.kid with
    | none => return .fail (Text.lit "kid '" ++ stmt.kid ++ "' has no fragment")
    | some (kidDid, _) => do
      let doc ← loadIssuerDoc X server kidDid
      return checkSignature X stmt doc

/-- The time has to be within the statement's limits. -/
def checkFreshness (stmt : TrustStatement) (now : UInt64) : Check :=
  match stmt.nbf.filter fun nbf => now < nbf with
  | some nbf => .fail (Text.lit "now < nbf (" ++ iso8601 X now ++ " < " ++ iso8601 X nbf ++ ")")
  | none =>
    match stmt.exp.filter fun exp => exp ≤ now with
    | some exp => .fail (Text.lit "expired at " ++ iso8601 X exp)
    | none =>
      let nbf := (stmt.nbf.map (iso8601 X)).getD "—"
      let exp := (stmt.exp.map (iso8601 X)).getD "—"
      .ok (Text.lit "now within nbf..exp (" ++ nbf ++ ".." ++ exp ++ ")")

/-- What a slot says, in a list of the given width. -/
def checkStatusValue (idx : UInt64) (bits : UInt8) (value : StatusValue) : Check :=
  let place := Text.lit "(idx=" ++ Text.decimal idx.toNat ++ ", bits=" ++
    Text.decimal bits.toNat ++ ")"
  match value with
  | .valid => .ok (Text.lit "valid " ++ place)
  | .revoked => .fail (Text.lit "revoked " ++ place)
  | .suspended => .fail (Text.lit "suspended " ++ place)
  | .reserved n => .fail (Text.lit "reserved=" ++ Text.decimal n.toNat ++ ' ' :: place)

/-- Looks a statement up in its status list. -/
def checkStatus (stmt : TrustStatement) : Verification Check :=
  match stmt.status with
  | none => return .fail "no status_list claim in payload"
  | some info => do
    let list ← loadStatusList X server info.uri
    let value ← Command.ofExcept ((list.valueAt info.idx).mapError .statusList)
    return checkStatusValue info.idx list.bits value

/-- The signature is checked only for the expected issuer. -/
def signatureAfter (issCheck : Check) (stmt : TrustStatement) : Verification Check :=
  if issCheck.passed = true then verifySignature X server stmt
  else pure (.skip "(issuer mismatch)")

/-- The status is checked only when the signature is trusted. -/
def statusAfter (signatureCheck : Check) (stmt : TrustStatement) : Verification Check :=
  if signatureCheck.passed = true then checkStatus X server stmt
  else pure (.skip "(would only matter if signature were trusted)")

/-- Verifies one statement. -/
def verifyOne (stmt : TrustStatement) (now : UInt64) : Verification Report := do
  let expectedIssuer ← Command.read fun s => s.ctx.expectedIssuer
  let issCheck := checkIssuer stmt expectedIssuer
  let signatureCheck ← signatureAfter X server issCheck stmt
  let freshnessCheck := checkFreshness X stmt now
  let statusCheck ← statusAfter X server signatureCheck stmt
  let verdict := issCheck.passed && signatureCheck.passed && freshnessCheck.passed &&
    statusCheck.passed
  return { statement := stmt, issCheck, signatureCheck, freshnessCheck, statusCheck, verdict }

/-- Verifies statements in order, with one context. -/
def verifyStatements (now : UInt64) : List TrustStatement → Verification (List Report)
  | [] => return []
  | stmt :: stmts => do
    let report ← verifyOne X server stmt now
    return report :: (← verifyStatements now stmts)

/-! ## The command -/

/-- Arguments of the command. -/
structure VerifyArgs where
  did : Text
  trustRegistryUrl : Option Text
  trustIssuer : Option Text

/-- Whether the entity is trusted. -/
inductive VerifyOutcome
  | trusted
  | untrusted
  deriving DecidableEq

/-- Decodes statements, the first of which has number `n`. -/
def decodeStatements : ℕ → List Text → Except TrustError (List TrustStatement)
  | _, [] => .ok []
  | n, jwt :: jwts => do
    let stmt ← (TrustStatement.tryFromJwt X jwt).mapError (.statement n)
    return stmt :: (← decodeStatements (n + 1) jwts)

/-- The newest statements first. -/
def newestFirst (stmts : List TrustStatement) : List TrustStatement :=
  stmts.mergeSort fun a b => b.iat ≤ a.iat

/-- Runs a verification with a new context; its requests are the next ones. -/
def withContext {α : Type} (env : Env) (issuer : Text) (run : Server → Verification α) :
    Command World TrustError α := fun w =>
  let (result, s) := run (fun n => env.server (w.tick + n)) ⟨{ expectedIssuer := issuer }, []⟩
  (result, { w with tick := w.tick + s.requests.length })

@[simp]
theorem withContext_eq_ok_iff {α : Type} {env : Env} {issuer : Text}
    {run : Server → Verification α} {w w' : World} {a : α} :
    withContext env issuer run w = (.ok a, w') ↔
      ∃ s',
        run (fun n => env.server (w.tick + n)) ⟨{ expectedIssuer := issuer }, []⟩ = (.ok a, s') ∧
        { w with tick := w.tick + s'.requests.length } = w' := by
  rw [withContext]
  rcases run (fun n => env.server (w.tick + n)) ⟨{ expectedIssuer := issuer }, []⟩ with ⟨r, s⟩
  simp

/-- Verifies the trust statements for a DID: the verdict, and the reports that are printed. -/
def cmdVerify (env : Env) (args : VerifyArgs) :
    Command World TrustError (VerifyOutcome × List Report) := do
  let baseUrl ← Command.ofExcept (args.trustRegistryUrl.okOr .trustRegistryUrlMissing)
  let expectedIssuer ← Command.ofExcept (args.trustIssuer.okOr .trustIssuerMissing)
  let did ← (resolveDid env args.did).mapError .resolve
  let array ← (fetchTrustStatements X.toCrates env baseUrl did).mapError .registry
  if array = [] then return (.untrusted, [])
  else do
    let decoded ← Command.ofExcept (decodeStatements X 1 array)
    let now ← Os.unixSeconds env
    let reports ← withContext env expectedIssuer fun server =>
      verifyStatements X server now (newestFirst decoded)
    if 0 < reports.countP Report.verdict then return (.trusted, reports)
    else return (.untrusted, reports)

end Trust

end Swiyu
