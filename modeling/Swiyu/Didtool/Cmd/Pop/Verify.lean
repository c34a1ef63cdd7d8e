import Swiyu.Core.DidLog.Replay
import Swiyu.Didtool.Cmd.DidLog

/-!
# Verification of proofs of possession

A proof of possession is a JWT. Its `kid` names the key that has to verify it: a `did:key`, a
verification method in the latest document of a log, or a key of the key store.

## Main definitions

- `Swiyu.Pop.resolveContext`: the key that a `kid` names and the issuer that goes with it.
- `Swiyu.Pop.cmdVerifyPop`: the verification of a proof of possession.
-/

namespace Swiyu

open Json

/-- Why a proof of possession is rejected. -/
inductive VerifyPopError
  | ambiguousJwt
  | noJwt
  | jwtMalformed (msg : Text)
  | kidMalformed (kid : Text)
  | multikey (msg : Text)
  | unsupportedAlg (alg : Text)
  | algKeyMismatch (alg keyType : Text)
  | signatureInvalid
  | issMismatch (expected iss : Text)
  | multikeyNotInUpdateKeys (sourceDid : Text)
  | expired (expIso delta : Text)
  | notYetIssued (delta : Text)
  | nonceMismatch (expected actual : Text)
  | verificationMethodMissing (kid : Text)
  | didMismatch (kidDid sourceDid : Text)
  | notFound (did : Text)
  | previousStateIsPatch
  | unsupportedKeyMaterial
  | emptyLog
  | readJwt (path source : Text)
  | did (e : DIDError)
  | didDoc (e : DIDDocError)
  | keyStore (e : KeyStoreError)
  | log (e : LogError)
  deriving DecidableEq

/-- The message of an error. -/
def VerifyPopError.toText : VerifyPopError → Text
  | ambiguousJwt => "--jwt and --jwt-file are mutually exclusive"
  | noJwt => "provide one of --jwt or --jwt-file"
  | jwtMalformed msg => Text.lit "JWT is malformed: " ++ msg
  | kidMalformed kid => Text.lit "kid '" ++ kid ++ "' is malformed"
  | multikey msg => Text.lit "cannot decode did:key multikey: " ++ msg
  | unsupportedAlg alg => Text.lit "unsupported alg '" ++ alg ++ "'; expected EdDSA or ES256"
  | algKeyMismatch alg keyType =>
    Text.lit "alg '" ++ alg ++ "' does not match key type " ++ keyType
  | signatureInvalid => "signature verification failed"
  | issMismatch expected iss =>
    Text.lit "payload.iss '" ++ iss ++ "' does not match expected '" ++ expected ++ "'"
  | multikeyNotInUpdateKeys sourceDid =>
    Text.lit "did:key multikey is not present in the latest entry's parameters.updateKeys of '" ++
      sourceDid ++ "'"
  | expired expIso delta => Text.lit "JWT expired at " ++ expIso ++ " (" ++ delta ++ " ago)"
  | notYetIssued delta => Text.lit "JWT has iat in the future (" ++ delta ++ " ahead)"
  | nonceMismatch expected actual =>
    Text.lit "payload.nonce '" ++ actual ++ "' does not match expected '" ++ expected ++ "'"
  | verificationMethodMissing kid =>
    Text.lit "no verification method with id '" ++ kid ++ "' in DID document"
  | didMismatch kidDid sourceDid =>
    Text.lit "DID '" ++ sourceDid ++ "' does not match kid's DID '" ++ kidDid ++ "'"
  | notFound target => Text.lit "no entry found for '" ++ target ++ "'"
  | previousStateIsPatch =>
    "DID document state is a JSON Patch; verify-pop only supports full snapshots"
  | unsupportedKeyMaterial =>
    "verification-method publicKey is not a JWK; only publicKeyJwk is supported"
  | emptyLog => "DID log is empty"
  | readJwt path source => Text.lit "cannot read JWT from '" ++ path ++ "': " ++ source
  | did e => e.toText
  | didDoc e => e.toText
  | keyStore e => e.toText
  | log e => e.toText

/-- The rejection for a signature that does not verify. -/
def VerifyPopError.ofJws : JwsVerifyError → VerifyPopError
  | .malformedJwk msg => .jwtMalformed msg
  | .invalidSignatureLength .. => .signatureInvalid
  | .signatureMismatch => .signatureInvalid

/-- Arguments of the verification. -/
structure VerifyPopArgs where
  jwt : Option Text := none
  jwtFile : Option Text := none
  did : Option Text := none
  input : Option Text := none
  nonce : Option Text := none
  allowExpired : Bool := false

/-- Whether a log is given. -/
def VerifyPopArgs.logFlag (args : VerifyPopArgs) : Bool := args.did.isSome || args.input.isSome

namespace Pop

/-- How far the clock of the issuer may be ahead. -/
def IAT_SKEW_SECS : UInt64 := 60

/-- Commands of the verification. -/
abbrev PopCommand := Command World VerifyPopError

/-- The two forms of a `kid`. -/
inductive KidShape
  | didKey (multikey : Text)
  | fragment (kidDid : Text)
  deriving DecidableEq

/-- Tells the form of a `kid`. -/
def parseKid (kid : Text) : Except VerifyPopError KidShape :=
  match Text.stripPrefix "did:key:" kid with
  | some rest => do
    let (multikey, frag) ← (Text.splitOnce '#' rest).okOr (.kidMalformed kid)
    Except.ensure (multikey = frag) (.kidMalformed kid)
    return .didKey multikey
  | none => do
    let (kidDid, _) ← (Text.splitOnce '#' kid).okOr (.kidMalformed kid)
    return .fragment kidDid

/-- The key that a `kid` names. -/
structure Context where
  key : VerifyingKey
  /-- What `payload.iss` has to be; absent when it is informational. -/
  issConstraint : Option Text
  deriving DecidableEq

variable (X : ToolCrates) (env : Env)

/-! ## Keys -/

/-- The Ed25519 key after its multicodec. -/
def keyOfMulticodec (bytes : Bytes) : Except VerifyPopError VerifyingKey :=
  match bytes with
  | b₀ :: b₁ :: key =>
    if b₀ = 0xed ∧ b₁ = 0x01 then
      if h : key.length = 32 then
        match X.ed25519PointError ⟨key, h⟩ with
        | none => .ok (.ed25519 ⟨key, h⟩)
        | some e => .error (.multikey (Text.lit "invalid Ed25519 key: " ++ e))
      else .error (.multikey
        (Text.lit "Ed25519 multikey must be 34 bytes, got " ++ Text.decimal bytes.length))
    else .error (.unsupportedAlg
      (Text.lit "did:key multicodec 0x" ++ Text.hexByte b₀.toNat ++ Text.hexByte b₁.toNat))
  | _ => .error (.multikey "payload too short")

/-- The key of a multikey. -/
def decodeMultikey (s : Text) : Except VerifyPopError VerifyingKey := do
  let mb ← (PublicKeyMultibase.fromStr X.toCrates s).mapError fun e => .multikey e.toText
  keyOfMulticodec X mb.key

/-- The document of a state that is no patch. -/
def snapshotValue : DIDDocState → Except VerifyPopError Value
  | .value v => .ok v
  | .patch _ => .error .previousStateIsPatch

/-- The key of a verification method. -/
def vmKey : PublicKey → Except VerifyPopError VerifyingKey
  | .jwk jwk => (VerifyingKey.tryFromJwk X.toJoseCrates jwk).mapError .ofJws
  | .multibase _ => .error .unsupportedKeyMaterial

/-- The key of the verification method `kid` in the last document of a log. -/
def findVmKeyInLog (log : DIDLog) (kid : Text) : Except VerifyPopError VerifyingKey := do
  let last ← log.entries.getLast?.okOr .emptyLog
  let docValue ← snapshotValue last.didDocState
  let doc ← (DIDDoc.tryFromJson X.toCrates docValue).mapError .didDoc
  let vm ← (doc.verificationMethod.find? fun vm => vm.id = kid).okOr
    (.verificationMethodMissing kid)
  vmKey X vm.publicKey

/-- The role whose key a fragment names. -/
def roleOfKid (kid : Text) : Except VerifyPopError KeyRole :=
  let frag := ((Text.splitOnce '#' kid).map Prod.snd).getD []
  if frag = Text.lit "authentication-key-01" then .ok .authentication
  else if frag = Text.lit "assertion-key-01" then .ok .assertion
  else .error (.verificationMethodMissing kid)

/-- The key of the key store that a `kid` names. -/
def resolveViaKeystore (kidDid kid : Text) : PopCommand VerifyingKey := do
  let did ← Command.ofExcept ((DID.fromStr kidDid).mapError .did)
  let entry ← (KeyStore.lookup X env did).mapError .keyStore
  let entry ← Command.ofExcept (entry.okOr (.notFound kidDid))
  let role ← Command.ofExcept (roleOfKid kid)
  let signingKey ← (entry.loadEcdsa X env role none).mapError .keyStore
  return .ecdsaP256 (X.p256VerifyingKey signingKey)

/-- The log that is given, and the DID that it announces. -/
def loadSource (args : VerifyPopArgs) : PopCommand (DIDLog × Text) := do
  let loaded ← (loadLog X.toCrates env args.did args.input).mapError .log
  let logDid ← Command.ofExcept ((currentDid loaded.log).okOr .emptyLog)
  return (loaded.log, logDid)

/-- A `did:key` has to be an update key of the log, if there is one. -/
def resolveDidKey (args : VerifyPopArgs) (multikey : Text) : PopCommand Context := do
  let key ← Command.ofExcept (decodeMultikey X multikey)
  if args.logFlag = true then do
    let (log, logDid) ← loadSource X env args
    Command.ofExcept (Except.ensure (multikey ∈ latestUpdateKeys log.entries)
      (.multikeyNotInUpdateKeys logDid))
    return ⟨key, some logDid⟩
  else return ⟨key, none⟩

/-- A verification method is one of the log's last document, if there is one, and else of the key
store. -/
def resolveFragment (args : VerifyPopArgs) (kid kidDid : Text) : PopCommand Context :=
  if args.logFlag = true then do
    let (log, logDid) ← loadSource X env args
    Command.ofExcept (Except.ensure (logDid = kidDid) (.didMismatch kidDid logDid))
    let key ← Command.ofExcept (findVmKeyInLog X log kid)
    return ⟨key, some kidDid⟩
  else do
    let key ← resolveViaKeystore X env kidDid kid
    return ⟨key, some kidDid⟩

/-- Resolves a `kid`. -/
def resolveContext (args : VerifyPopArgs) (kid : Text) : KidShape → PopCommand Context
  | .didKey multikey => resolveDidKey X env args multikey
  | .fragment kidDid => resolveFragment X env args kid kidDid

/-! ## The JWT -/

/-- A JWT taken apart. -/
structure PopJwt where
  header : Value
  payload : Value
  signature : Bytes
  signingInput : Text

/-- The JSON object in a segment. -/
def decodePartJson (part label : Text) : Except VerifyPopError Value := do
  let bytes ← (X.base64Decode part).mapError fun e =>
    .jwtMalformed (label ++ " is not base64url: " ++ e)
  let value ← (X.fromSlice bytes).mapError fun e =>
    .jwtMalformed (label ++ " is not JSON: " ++ e)
  Except.ensure value.asObject.isSome (.jwtMalformed (label ++ " is not a JSON object"))
  return value

/-- Takes a JWT apart. -/
def splitJwt (jwtText : Text) : Except VerifyPopError PopJwt :=
  match Text.split '.' jwtText with
  | [part₀, part₁, part₂] => do
    let header ← decodePartJson X part₀ "header"
    let payload ← decodePartJson X part₁ "payload"
    let signature ← (X.base64Decode part₂).mapError fun e =>
      .jwtMalformed (Text.lit "signature is not base64url: " ++ e)
    return { header, payload, signature, signingInput := part₀ ++ '.' :: part₁ }
  | parts => .error (.jwtMalformed
      (Text.lit "expected 3 dot-separated parts, got " ++ Text.decimal parts.length))

/-- A string member of the header or the payload. -/
def jwtString (v : Value) (name part : Text) : Except VerifyPopError Text :=
  ((v.get name).bind Value.asStr).okOr
    (.jwtMalformed (Text.lit "missing '" ++ name ++ "' in " ++ part))

/-- A time in the payload. -/
def jwtU64 (v : Value) (name : Text) : Except VerifyPopError UInt64 :=
  ((v.get name).bind Value.asU64).okOr
    (.jwtMalformed (Text.lit "missing or non-numeric '" ++ name ++ ['\'']))

/-- The algorithm of a JWT. -/
def headerAlg (header : Value) : Except VerifyPopError Text := do
  let alg ← jwtString header "alg" "header"
  Except.ensure (alg = Text.lit "EdDSA" ∨ alg = Text.lit "ES256") (.unsupportedAlg alg)
  return alg

/-- Checks the issuer against the constraint that goes with the key. -/
def checkIss (iss : Text) : Option Text → Except VerifyPopError Unit
  | some expected => Except.ensure (iss = expected) (.issMismatch expected iss)
  | none => .ok ()

/-- Checks the nonce against the expected one, if there is one. -/
def checkNonce (nonce : Text) : Option Text → Except VerifyPopError Unit
  | some expected => Except.ensure (expected = nonce) (.nonceMismatch expected nonce)
  | none => .ok ()

/-- A duration for people. -/
def humanDuration (secs : UInt64) : Text :=
  let h := secs / 3600
  let m := secs % 3600 / 60
  let s := secs % 60
  let show' (n : UInt64) (unit : Char) := Text.decimal n.toNat ++ [unit]
  if h > 0 then show' h 'h' ++ ' ' :: show' m 'm'
  else if m > 0 then show' m 'm' ++ ' ' :: show' s 's'
  else show' s 's'

/-! ## The command -/

/-- What is printed of a valid proof of possession. -/
structure Summary where
  alg : Text
  kid : Text
  iss : Text
  iat : UInt64
  exp : UInt64
  nonce : Text
  expired : Bool
  now : UInt64
  deriving DecidableEq

/-- The JWT that is given, in the arguments or in a file. -/
def readJwt (args : VerifyPopArgs) : PopCommand Text :=
  if args.jwt.isSome = true ∧ args.jwtFile.isSome = true then Command.fail .ambiguousJwt
  else
    match args.jwt, args.jwtFile with
    | some s, _ => return Text.trim s
    | none, some p => do
      let text ← (Os.readToString env p).mapError (.readJwt p)
      return Text.trim text
    | none, none => Command.fail .noJwt

/-- Checks the claims of a JWT whose signature has been verified. -/
def checkClaims (args : VerifyPopArgs) (issConstraint : Option Text) (payload : Value)
    (alg kid : Text) : PopCommand Summary := do
  let iss ← Command.ofExcept (jwtString payload "iss" "payload")
  Command.ofExcept (checkIss iss issConstraint)
  let iat ← Command.ofExcept (jwtU64 payload "iat")
  let exp ← Command.ofExcept (jwtU64 payload "exp")
  let now ← Os.unixSeconds env
  Command.ofExcept (Except.ensure (¬ now + IAT_SKEW_SECS < iat)
    (.notYetIssued (humanDuration (iat - now))))
  let expired := decide (exp ≤ now)
  Command.ofExcept (Except.ensure (¬ (expired = true ∧ args.allowExpired = false))
    (.expired (iso8601 X.toJoseCrates exp) (humanDuration (now - exp))))
  let nonce ← Command.ofExcept (jwtString payload "nonce" "payload")
  Command.ofExcept (checkNonce nonce args.nonce)
  return { alg, kid, iss, iat, exp, nonce, expired, now }

/-- Verifies a proof of possession. -/
def cmdVerifyPop (args : VerifyPopArgs) : PopCommand Summary := do
  let jwtText ← readJwt env args
  let jwt ← Command.ofExcept (splitJwt X jwtText)
  let alg ← Command.ofExcept (headerAlg jwt.header)
  let kid ← Command.ofExcept (jwtString jwt.header "kid" "header")
  let shape ← Command.ofExcept (parseKid kid)
  let context ← resolveContext X env args kid shape
  Command.ofExcept (Except.ensure (alg = context.key.alg) (.algKeyMismatch alg context.key.alg))
  Command.ofExcept ((context.key.verify X.toJoseCrates (Text.utf8 jwt.signingInput)
    jwt.signature).mapError .ofJws)
  checkClaims X env args context.issConstraint jwt.payload alg kid

/-! ## Success -/

variable {X env} {w w' : World} {args : VerifyPopArgs}

/-- The two forms of a `kid` that is accepted. -/
theorem parseKid_eq_ok_iff {kid : Text} {shape : KidShape} : parseKid kid = .ok shape ↔
    (∃ multikey, kid = didKeyUrl multikey ∧ '#' ∉ multikey ∧ shape = .didKey multikey) ∨
      (Text.stripPrefix "did:key:" kid = none ∧ ∃ kidDid frag, kid = kidDid ++ '#' :: frag ∧
        '#' ∉ kidDid ∧ shape = .fragment kidDid) := by
  rw [parseKid]
  cases hprefix : Text.stripPrefix "did:key:" kid with
  | some rest =>
    -- A `did:key` names its key twice, before the `#` and after it.
    obtain rfl := Text.stripPrefix_eq_some_iff.mp hprefix
    simp only [Except.bind_eq_ok_iff, Option.okOr_eq_ok_iff, Prod.exists,
      Text.splitOnce_eq_some_iff, Except.ensure_eq_ok_iff, pure, Except.pure, Except.ok.injEq,
      didKeyUrl, List.append_assoc, List.append_cancel_left_eq, reduceCtorEq, false_and, or_false]
    constructor
    · rintro ⟨_, _, ⟨rfl, hhash⟩, _, rfl, rfl⟩
      exact ⟨_, rfl, hhash, rfl⟩
    · rintro ⟨multikey, rfl, hhash, rfl⟩
      exact ⟨multikey, multikey, ⟨rfl, hhash⟩, (), rfl, rfl⟩
  | none =>
    -- Any other DID is what comes before the first `#`.
    have hno : ∀ multikey, kid ≠ didKeyUrl multikey := by
      rintro multikey rfl
      rw [didKeyUrl, List.append_assoc, Text.stripPrefix_append] at hprefix
      cases hprefix
    simp only [Except.bind_eq_ok_iff, Option.okOr_eq_ok_iff, Prod.exists,
      Text.splitOnce_eq_some_iff, pure, Except.pure, Except.ok.injEq, hno, false_and, exists_false,
      false_or, true_and]
    constructor
    · rintro ⟨kidDid, frag, ⟨rfl, hhash⟩, rfl⟩
      exact ⟨kidDid, frag, rfl, hhash, rfl⟩
    · rintro ⟨kidDid, frag, rfl, hhash, rfl⟩
      exact ⟨kidDid, frag, ⟨rfl, hhash⟩, rfl⟩

theorem keyOfMulticodec_eq_ok_iff {bytes : Bytes} {key : VerifyingKey} :
    keyOfMulticodec X bytes = .ok key ↔ ∃ pk : FixedBytes 32,
      X.ed25519PointError pk = none ∧ bytes = 0xed :: 0x01 :: (pk : Bytes) ∧
        key = .ed25519 pk := by
  unfold keyOfMulticodec
  split
  next b₀ b₁ tail =>
    -- The prefix says that the bytes after it are an Ed25519 key, and these must be 32.
    by_cases hcodec : b₀ = 0xed ∧ b₁ = 0x01
    · obtain ⟨rfl, rfl⟩ := hcodec
      by_cases hlength : tail.length = 32
      · rw [if_pos ⟨rfl, rfl⟩, dif_pos hlength]
        cases hpoint : X.ed25519PointError ⟨tail, hlength⟩ with
        | none =>
          constructor
          · rintro ⟨⟩
            exact ⟨⟨tail, hlength⟩, hpoint, rfl, rfl⟩
          · rintro ⟨pk, -, hbytes, rfl⟩
            obtain rfl : pk = ⟨tail, hlength⟩ := Subtype.ext (by simpa using hbytes.symm)
            rfl
        | some e =>
          refine iff_of_false (by simp) ?_
          rintro ⟨pk, hpk, hbytes, rfl⟩
          obtain rfl : pk = ⟨tail, hlength⟩ := Subtype.ext (by simpa using hbytes.symm)
          rw [hpoint] at hpk
          cases hpk
      · rw [if_pos ⟨rfl, rfl⟩, dif_neg hlength]
        refine iff_of_false (by simp) ?_
        rintro ⟨pk, -, hbytes, rfl⟩
        simp only [List.cons.injEq, true_and] at hbytes
        exact hlength (hbytes ▸ pk.2)
    · rw [if_neg hcodec]
      refine iff_of_false (by simp) ?_
      rintro ⟨pk, -, hbytes, rfl⟩
      simp only [List.cons.injEq] at hbytes
      exact hcodec ⟨hbytes.1, hbytes.2.1⟩
  -- Fewer than two bytes have no prefix.
  next hshort =>
    refine iff_of_false (by simp) ?_
    rintro ⟨pk, -, hbytes, rfl⟩
    exact hshort _ _ _ hbytes

/-- A multikey stands for the Ed25519 key whose multikey it is. -/
theorem decodeMultikey_eq_ok_iff {multikey : Text} {key : VerifyingKey} :
    decodeMultikey X multikey = .ok key ↔ ∃ pk : FixedBytes 32,
      X.ed25519PointError pk = none ∧ multikey = ed25519VerifyingKeyToMultikey pk ∧
        key = .ed25519 pk := by
  simp only [decodeMultikey, Except.bind_eq_ok_iff, Except.mapError_eq_ok_iff,
    fromStr_multibase_eq_ok_iff, keyOfMulticodec_eq_ok_iff, ed25519VerifyingKeyToMultikey]
  constructor
  · rintro ⟨mb, rfl, pk, hpoint, hkey, rfl⟩
    exact ⟨pk, hpoint, by rw [hkey], rfl⟩
  · rintro ⟨pk, hpoint, rfl, rfl⟩
    exact ⟨⟨_⟩, rfl, pk, hpoint, rfl, rfl⟩

/-- Multikeys have one spelling: the verifier of logs decodes exactly the multikey of each key, so
that multikeys are equal just when their keys are, and a multikey that is used as a `did:key` stands
for the same key, provided that this is a point of the curve. -/
theorem multikey_canonical (X : ToolCrates) :
    (∀ s key, decodeEd25519Multikey X.toCrates s = .ok key ↔
      s = ed25519VerifyingKeyToMultikey key) ∧
    (∀ key key', ed25519VerifyingKeyToMultikey key = ed25519VerifyingKeyToMultikey key' ↔
      key = key') ∧
    ∀ s key, decodeMultikey X s = .ok key ↔ ∃ pk, decodeEd25519Multikey X.toCrates s = .ok pk ∧
      X.ed25519PointError pk = none ∧ key = .ed25519 pk := by
  refine ⟨fun s key => decodeEd25519Multikey_eq_ok_iff, fun key key' => ⟨fun h => ?_, ?_⟩,
    fun s key => ?_⟩
  · -- A multikey decodes to one key only.
    have hkey := decodeEd25519Multikey_eq_ok_iff (X := X.toCrates).mpr h.symm
    rw [decodeEd25519Multikey_eq_ok_iff.mpr rfl] at hkey
    exact Except.ok.inj hkey.symm
  · apply congrArg
  · rw [decodeMultikey_eq_ok_iff]
    refine exists_congr fun pk => ?_
    rw [decodeEd25519Multikey_eq_ok_iff]
    tauto

/-- The key of a method in the last document of a log. -/
theorem findVmKeyInLog_eq_ok_iff {log : DIDLog} {kid : Text} {key : VerifyingKey} :
    findVmKeyInLog X log kid = .ok key ↔ ∃ last v doc vm jwk, log.entries.getLast? = some last ∧
      last.didDocState = .value v ∧ DIDDoc.tryFromJson X.toCrates v = .ok doc ∧
      (doc.verificationMethod.find? fun vm => vm.id = kid) = some vm ∧ vm.publicKey = .jwk jwk ∧
      VerifyingKey.tryFromJwk X.toJoseCrates jwk = .ok key := by
  simp only [findVmKeyInLog, Except.bind_eq_ok_iff, Option.okOr_eq_ok_iff,
    Except.mapError_eq_ok_iff]
  constructor
  · rintro ⟨last, hlast, v, hv, doc, hdoc, vm, hvm, hkey⟩
    cases hstate : last.didDocState with
    | patch p => simp [hstate, snapshotValue] at hv
    | value v' =>
      rw [hstate, snapshotValue, Except.ok.injEq] at hv
      cases hpublic : vm.publicKey with
      | multibase mb => simp [hpublic, vmKey] at hkey
      | jwk jwk =>
        rw [hpublic, vmKey, Except.mapError_eq_ok_iff] at hkey
        exact ⟨last, v, doc, vm, jwk, hlast, hv ▸ hstate, hdoc, hvm, hpublic, hkey⟩
  · rintro ⟨last, v, doc, vm, jwk, hlast, hstate, hdoc, hvm, hpublic, hkey⟩
    refine ⟨last, hlast, v, by rw [hstate, snapshotValue], doc, hdoc, vm, hvm, ?_⟩
    rw [hpublic, vmKey, hkey]
    rfl

theorem loadSource_eq_ok_iff {source : DIDLog × Text} :
    loadSource X env args w = (.ok source, w') ↔ ∃ loaded,
      loadLog X.toCrates env args.did args.input w = (.ok loaded, w') ∧ loaded.log = source.1 ∧
        currentDid loaded.log = some source.2 := by
  simp only [loadSource, Command.bind_eq_ok_iff, Command.mapError_eq_ok_iff,
    Command.ofExcept_eq_ok_iff, Option.okOr_eq_ok_iff, Command.pure_eq_ok_iff]
  constructor
  · rintro ⟨loaded, _, hload, logDid, _, ⟨hdid, rfl⟩, rfl, rfl⟩
    exact ⟨loaded, hload, rfl, hdid⟩
  · rintro ⟨loaded, hload, hlog, hdid⟩
    exact ⟨loaded, _, hload, source.2, _, ⟨hdid, rfl⟩, by rw [hlog], rfl⟩

/-- A `did:key` that is accepted with a log is one of the log's update keys. -/
theorem resolveDidKey_log_eq_ok_iff {multikey : Text} {context : Context}
    (hlog : args.logFlag = true) : resolveDidKey X env args multikey w = (.ok context, w') ↔
      ∃ loaded logDid, decodeMultikey X multikey = .ok context.key ∧
        loadLog X.toCrates env args.did args.input w = (.ok loaded, w') ∧
        currentDid loaded.log = some logDid ∧ multikey ∈ latestUpdateKeys loaded.log.entries ∧
        context.issConstraint = some logDid := by
  simp only [resolveDidKey, hlog, ↓reduceIte, Command.bind_eq_ok_iff, Command.ofExcept_eq_ok_iff,
    loadSource_eq_ok_iff, Except.ensure_eq_ok_iff, Command.pure_eq_ok_iff]
  constructor
  · rintro ⟨key, _, ⟨hkey, rfl⟩, ⟨log, logDid⟩, _, ⟨loaded, hload, rfl, hdid⟩, _, _, ⟨hmem, rfl⟩,
      rfl, rfl⟩
    exact ⟨loaded, logDid, hkey, hload, hdid, hmem, rfl⟩
  · rintro ⟨loaded, logDid, hkey, hload, hdid, hmem, hiss⟩
    exact ⟨context.key, _, ⟨hkey, rfl⟩, (loaded.log, logDid), _, ⟨loaded, hload, rfl, hdid⟩, (), _,
      ⟨hmem, rfl⟩, by rw [← hiss], rfl⟩

/-- Without a log, a `did:key` binds no issuer. -/
theorem resolveDidKey_eq_ok_iff {multikey : Text} {context : Context}
    (hlog : ¬ args.logFlag = true) : resolveDidKey X env args multikey w = (.ok context, w') ↔
      decodeMultikey X multikey = .ok context.key ∧ context.issConstraint = none ∧ w = w' := by
  simp only [resolveDidKey, hlog, Bool.false_eq_true, ↓reduceIte, Command.bind_eq_ok_iff,
    Command.ofExcept_eq_ok_iff, Command.pure_eq_ok_iff]
  constructor
  · rintro ⟨key, _, ⟨hkey, rfl⟩, rfl, rfl⟩
    exact ⟨hkey, rfl, rfl⟩
  · rintro ⟨hkey, hiss, rfl⟩
    exact ⟨context.key, _, ⟨hkey, rfl⟩, by rw [← hiss], rfl⟩

/-- A method that is accepted with a log is one of the log's DID. -/
theorem resolveFragment_log_eq_ok_iff {kid kidDid : Text} {context : Context}
    (hlog : args.logFlag = true) :
    resolveFragment X env args kid kidDid w = (.ok context, w') ↔
      ∃ loaded, loadLog X.toCrates env args.did args.input w = (.ok loaded, w') ∧
        currentDid loaded.log = some kidDid ∧ findVmKeyInLog X loaded.log kid = .ok context.key ∧
        context.issConstraint = some kidDid := by
  simp only [resolveFragment, hlog, ↓reduceIte, Command.bind_eq_ok_iff,
    Command.ofExcept_eq_ok_iff, loadSource_eq_ok_iff, Except.ensure_eq_ok_iff,
    Command.pure_eq_ok_iff]
  constructor
  · rintro ⟨⟨log, logDid⟩, _, ⟨loaded, hload, rfl, hdid⟩, _, _, ⟨rfl, rfl⟩, key, _, ⟨hkey, rfl⟩,
      rfl, rfl⟩
    exact ⟨loaded, hload, hdid, hkey, rfl⟩
  · rintro ⟨loaded, hload, hdid, hkey, hiss⟩
    exact ⟨(loaded.log, kidDid), _, ⟨loaded, hload, rfl, hdid⟩, (), _, ⟨rfl, rfl⟩, context.key, _,
      ⟨hkey, rfl⟩, by rw [← hiss], rfl⟩

theorem resolveFragment_eq_ok_iff {kid kidDid : Text} {context : Context}
    (hlog : ¬ args.logFlag = true) :
    resolveFragment X env args kid kidDid w = (.ok context, w') ↔
      resolveViaKeystore X env kidDid kid w = (.ok context.key, w') ∧
        context.issConstraint = some kidDid := by
  simp only [resolveFragment, hlog, Bool.false_eq_true, ↓reduceIte, Command.bind_eq_ok_iff,
    Command.pure_eq_ok_iff]
  constructor
  · rintro ⟨key, _, hkey, rfl, rfl⟩
    exact ⟨hkey, rfl⟩
  · rintro ⟨hkey, hiss⟩
    exact ⟨context.key, _, hkey, by rw [← hiss], rfl⟩

/-- The role whose key a fragment names. -/
theorem roleOfKid_eq_ok_iff {kidDid frag : Text} {role : KeyRole} (hhash : '#' ∉ kidDid) :
    roleOfKid (kidDid ++ '#' :: frag) = .ok role ↔
      frag = Text.lit "authentication-key-01" ∧ role = .authentication ∨
        frag = Text.lit "assertion-key-01" ∧ role = .assertion := by
  have hsplit : Text.splitOnce '#' (kidDid ++ '#' :: frag) = some (kidDid, frag) :=
    Text.splitOnce_eq_some_iff.mpr ⟨rfl, hhash⟩
  rw [roleOfKid, hsplit, Option.map_some, Option.getD_some]
  by_cases hauth : frag = Text.lit "authentication-key-01"
  · subst hauth
    simp [Text.lit_inj, eq_comm]
  · by_cases hassert : frag = Text.lit "assertion-key-01"
    · subst hassert
      simp [Text.lit_inj, eq_comm]
    · simp [hauth, hassert]

/-- A key of the key store that is accepted is the latest one of its role. -/
theorem resolveViaKeystore_eq_ok_iff {kidDid frag : Text} {key : VerifyingKey}
    (hhash : '#' ∉ kidDid) :
    resolveViaKeystore X env kidDid (kidDid ++ '#' :: frag) w = (.ok key, w') ↔
      ∃ did entry w₁ role sk, DID.fromStr kidDid = .ok did ∧
        KeyStore.lookup X env did w = (.ok (some entry), w₁) ∧
        (frag = Text.lit "authentication-key-01" ∧ role = KeyRole.authentication ∨
          frag = Text.lit "assertion-key-01" ∧ role = KeyRole.assertion) ∧
        entry.loadEcdsa X env role none w₁ = (.ok sk, w') ∧
        key = .ecdsaP256 (X.p256VerifyingKey sk) := by
  simp only [resolveViaKeystore, Command.bind_eq_ok_iff, Command.ofExcept_eq_ok_iff,
    Command.mapError_eq_ok_iff, Except.mapError_eq_ok_iff, Option.okOr_eq_ok_iff,
    roleOfKid_eq_ok_iff hhash, Command.pure_eq_ok_iff]
  constructor
  · rintro ⟨did, _, ⟨hdid, rfl⟩, _, w₁, hlookup, entry, _, ⟨rfl, rfl⟩, role, _, ⟨hrole, rfl⟩, sk, _,
      hload, rfl, rfl⟩
    exact ⟨did, entry, _, role, sk, hdid, hlookup, hrole, hload, rfl⟩
  · rintro ⟨did, entry, w₁, role, sk, hdid, hlookup, hrole, hload, rfl⟩
    exact ⟨did, _, ⟨hdid, rfl⟩, _, w₁, hlookup, entry, _, ⟨rfl, rfl⟩, role, _, ⟨hrole, rfl⟩, sk, _,
      hload, rfl, rfl⟩

/-- A segment that is the base64url form of a JSON object. -/
def JsonSegment (X : JoseCrates) (part : Text) (v : Value) : Prop :=
  ∃ bytes text, Base64Url.decode part = some bytes ∧ Text.fromUtf8 bytes = some text ∧
    Json.parse X.f64 text = some v ∧ v.asObject.isSome = true

theorem decodePartJson_eq_ok_iff {part label : Text} {v : Value} :
    decodePartJson X part label = .ok v ↔ JsonSegment X.toJoseCrates part v := by
  have hbase64 : ∀ bytes, X.base64Decode part = .ok bytes ↔ Base64Url.decode part = some bytes := by
    intro bytes
    rw [JoseCrates.base64Decode]
    cases Base64Url.decode part <;> simp
  have hjson : ∀ bytes v, X.fromSlice bytes = .ok v ↔
      (Text.fromUtf8 bytes).bind (Json.parse X.f64) = some v := by
    intro bytes v
    rw [JoseCrates.fromSlice]
    cases (Text.fromUtf8 bytes).bind (Json.parse X.f64) <;> simp
  simp only [decodePartJson, Except.bind_eq_ok_iff, Except.mapError_eq_ok_iff, hbase64, hjson,
    Option.bind_eq_some_iff, Except.ensure_eq_ok_iff, pure, Except.pure, Except.ok.injEq]
  constructor
  · rintro ⟨bytes, hbytes, _, ⟨text, htext, hv⟩, _, hobject, rfl⟩
    exact ⟨bytes, text, hbytes, htext, hv, hobject⟩
  · rintro ⟨bytes, text, hbytes, htext, hv, hobject⟩
    exact ⟨bytes, hbytes, v, ⟨text, htext, hv⟩, (), hobject, rfl⟩

/-- A JWT has three segments. -/
theorem splitJwt_eq_ok_iff {jwtText : Text} {jwt : PopJwt} :
    splitJwt X jwtText = .ok jwt ↔ ∃ part₀ part₁ part₂,
      Text.split '.' jwtText = [part₀, part₁, part₂] ∧
        JsonSegment X.toJoseCrates part₀ jwt.header ∧
        JsonSegment X.toJoseCrates part₁ jwt.payload ∧
        Base64Url.decode part₂ = some jwt.signature ∧
        jwt.signingInput = part₀ ++ '.' :: part₁ := by
  have hbase64 : ∀ part bytes,
      X.base64Decode part = .ok bytes ↔ Base64Url.decode part = some bytes := by
    intro part bytes
    rw [JoseCrates.base64Decode]
    cases Base64Url.decode part <;> simp
  rw [splitJwt]
  split
  next part₀ part₁ part₂ hparts =>
    simp only [Except.bind_eq_ok_iff, decodePartJson_eq_ok_iff, Except.mapError_eq_ok_iff, hbase64,
      pure, Except.pure, Except.ok.injEq]
    constructor
    · rintro ⟨header, hheader, payload, hpayload, signature, hsignature, rfl⟩
      exact ⟨part₀, part₁, part₂, hparts, hheader, hpayload, hsignature, rfl⟩
    · rintro ⟨_, _, _, hsplit, hheader, hpayload, hsignature, hinput⟩
      cases hparts.symm.trans hsplit
      refine ⟨_, hheader, _, hpayload, _, hsignature, ?_⟩
      rw [← hinput]
  next hparts =>
    refine iff_of_false (by simp) ?_
    rintro ⟨part₀, part₁, part₂, hsplit, -⟩
    exact hparts part₀ part₁ part₂ hsplit

theorem jwtString_eq_ok_iff {v : Value} {name part s : Text} :
    jwtString v name part = .ok s ↔ v.get name = some (.string s) := by
  simp [jwtString, Option.bind_eq_some_iff, Value.asStr_eq_some_iff]

theorem jwtU64_eq_ok_iff {v : Value} {name : Text} {n : UInt64} :
    jwtU64 v name = .ok n ↔ v.get name = some (.number (.posInt n)) := by
  simp [jwtU64, Option.bind_eq_some_iff, Value.asU64_eq_some_iff]

theorem headerAlg_eq_ok_iff {header : Value} {alg : Text} :
    headerAlg header = .ok alg ↔ header.get "alg" = some (.string alg) ∧
      (alg = Text.lit "EdDSA" ∨ alg = Text.lit "ES256") := by
  simp only [headerAlg, Except.bind_eq_ok_iff, jwtString_eq_ok_iff, Except.ensure_eq_ok_iff, pure,
    Except.pure, Except.ok.injEq]
  constructor
  · rintro ⟨_, halg, _, hknown, rfl⟩
    exact ⟨halg, hknown⟩
  · rintro ⟨halg, hknown⟩
    exact ⟨alg, halg, (), hknown, rfl⟩

theorem checkIss_eq_ok_iff {iss : Text} {constraint : Option Text} {u : Unit} :
    checkIss iss constraint = .ok u ↔ ∀ expected ∈ constraint, iss = expected := by
  cases constraint <;> simp [checkIss]

theorem checkNonce_eq_ok_iff {nonce : Text} {constraint : Option Text} {u : Unit} :
    checkNonce nonce constraint = .ok u ↔ ∀ expected ∈ constraint, expected = nonce := by
  cases constraint <;> simp [checkNonce]

/-- The JWT is the one in the arguments, or that in the file. -/
theorem readJwt_eq_ok_iff {text : Text} : readJwt env args w = (.ok text, w') ↔
    (∃ s, args.jwt = some s ∧ args.jwtFile = none ∧ Text.trim s = text ∧ w = w') ∨
      ∃ path s, args.jwt = none ∧ args.jwtFile = some path ∧
        env.fault w.tick (.readFile path) = none ∧ w.files.get path = some s ∧
        Text.trim s = text ∧ w.ticked = w' := by
  rw [readJwt]
  cases hjwt : args.jwt with
  | some s => cases hfile : args.jwtFile <;> simp [Command.fail_ne_ok]
  | none =>
    cases hfile : args.jwtFile with
    | none => simp
    | some path =>
      simp only [Option.isSome_none, Option.isSome_some, Bool.false_eq_true, false_and, ↓reduceIte,
        Command.bind_eq_ok_iff, Command.mapError_eq_ok_iff, Os.readToString_eq_ok_iff,
        Command.pure_eq_ok_iff, reduceCtorEq, exists_false, false_or, true_and, Option.some.injEq]
      constructor
      · rintro ⟨s, _, ⟨hfault, hs, rfl⟩, rfl, rfl⟩
        exact ⟨path, s, rfl, hfault, hs, rfl, rfl⟩
      · rintro ⟨_, s, rfl, hfault, hs, rfl, rfl⟩
        exact ⟨s, _, ⟨hfault, hs, rfl⟩, rfl, rfl⟩

/-- The claims that are accepted. -/
theorem checkClaims_eq_ok_iff {constraint : Option Text} {payload : Value} {alg kid : Text}
    {s : Summary} : checkClaims X env args constraint payload alg kid w = (.ok s, w') ↔
      payload.get "iss" = some (.string s.iss) ∧ (∀ expected ∈ constraint, s.iss = expected) ∧
        payload.get "iat" = some (.number (.posInt s.iat)) ∧
        payload.get "exp" = some (.number (.posInt s.exp)) ∧
        s.now = UInt64.ofNat (env.clock w.tick / 1000000000).toNat ∧
        ¬ s.now + IAT_SKEW_SECS < s.iat ∧ s.expired = decide (s.exp ≤ s.now) ∧
        ¬ (s.expired = true ∧ args.allowExpired = false) ∧
        payload.get "nonce" = some (.string s.nonce) ∧
        (∀ expected ∈ args.nonce, expected = s.nonce) ∧
        s.alg = alg ∧ s.kid = kid ∧ w.ticked = w' := by
  simp only [checkClaims, Command.bind_eq_ok_iff, Command.ofExcept_eq_ok_iff, jwtString_eq_ok_iff,
    jwtU64_eq_ok_iff, checkIss_eq_ok_iff, checkNonce_eq_ok_iff, Os.unixSeconds_eq_ok_iff,
    Except.ensure_eq_ok_iff, Command.pure_eq_ok_iff]
  constructor
  · rintro ⟨iss, _, ⟨hiss, rfl⟩, _, _, ⟨hconstraint, rfl⟩, iat, _, ⟨hiat, rfl⟩, exp, _, ⟨hexp, rfl⟩,
      now, _, ⟨rfl, rfl⟩, _, _, ⟨hearly, rfl⟩, _, _, ⟨hlate, rfl⟩, nonce, _, ⟨hnonce, rfl⟩, _, _,
      ⟨hexpected, rfl⟩, rfl, rfl⟩
    exact ⟨hiss, hconstraint, hiat, hexp, rfl, hearly, rfl, hlate, hnonce, hexpected, rfl, rfl, rfl⟩
  · rintro ⟨hiss, hconstraint, hiat, hexp, hnow, hearly, hexpired, hlate, hnonce, hexpected, rfl,
      rfl, rfl⟩
    rw [hnow] at hearly
    rw [hexpired, hnow] at hlate
    refine ⟨_, _, ⟨hiss, rfl⟩, (), _, ⟨hconstraint, rfl⟩, _, _, ⟨hiat, rfl⟩, _, _, ⟨hexp, rfl⟩, _,
      _, ⟨rfl, rfl⟩, (), _, ⟨hearly, rfl⟩, (), _, ⟨hlate, rfl⟩, _, _, ⟨hnonce, rfl⟩, (), _,
      ⟨hexpected, rfl⟩, ?_, rfl⟩
    rw [← hnow, ← hexpired]

/-- The steps of a verification that succeeds. -/
theorem cmdVerifyPop_eq_ok_iff {s : Summary} : cmdVerifyPop X env args w = (.ok s, w') ↔
    ∃ jwtText jwt shape context w₁ w₂, readJwt env args w = (.ok jwtText, w₁) ∧
      splitJwt X jwtText = .ok jwt ∧ headerAlg jwt.header = .ok s.alg ∧
      jwt.header.get "kid" = some (.string s.kid) ∧ parseKid s.kid = .ok shape ∧
      resolveContext X env args s.kid shape w₁ = (.ok context, w₂) ∧ s.alg = context.key.alg ∧
      context.key.verify X.toJoseCrates (Text.utf8 jwt.signingInput) jwt.signature = .ok () ∧
      checkClaims X env args context.issConstraint jwt.payload s.alg s.kid w₂ = (.ok s, w') := by
  simp only [cmdVerifyPop, Command.bind_eq_ok_iff, Command.ofExcept_eq_ok_iff, jwtString_eq_ok_iff,
    Except.ensure_eq_ok_iff, Except.mapError_eq_ok_iff]
  constructor
  · rintro ⟨jwtText, w₁, hread, jwt, _, ⟨hsplit, rfl⟩, alg, _, ⟨halg, rfl⟩, kid, _, ⟨hkid, rfl⟩,
      shape, _, ⟨hshape, rfl⟩, context, w₂, hcontext, _, _, ⟨hkey, rfl⟩, _, _, ⟨hverify, rfl⟩, h⟩
    obtain ⟨rfl, rfl⟩ : s.alg = alg ∧ s.kid = kid := by
      obtain ⟨-, -, -, -, -, -, -, -, -, -, halg, hkid, -⟩ := checkClaims_eq_ok_iff.mp h
      exact ⟨halg, hkid⟩
    exact ⟨jwtText, jwt, shape, context, _, w₂, hread, hsplit, halg, hkid, hshape, hcontext, hkey,
      hverify, h⟩
  · rintro ⟨jwtText, jwt, shape, context, w₁, w₂, hread, hsplit, halg, hkid, hshape, hcontext, hkey,
      hverify, h⟩
    exact ⟨jwtText, w₁, hread, jwt, _, ⟨hsplit, rfl⟩, s.alg, _, ⟨halg, rfl⟩, s.kid, _, ⟨hkid, rfl⟩,
      shape, _, ⟨hshape, rfl⟩, context, w₂, hcontext, (), _, ⟨hkey, rfl⟩, (), _, ⟨hverify, rfl⟩, h⟩

/-! ## Keys in force -/

/-- The multikey that the first proof of an entry names. -/
def firstProofKey (entry : DIDLogEntry) : Option Text := do
  let proof ← entry.dataIntegrityProofs.head?
  let proofObj ← proof.asObject
  let vm ← (proofObj.get "verificationMethod").bind Value.asStr
  parseDidKeyVm vm

theorem exists_firstProofKey_of_signedBy {X : Crates} {entry : DIDLogEntry} {document : Value}
    {keys : List Text} (h : SignedBy X entry document keys) :
    ∃ key ∈ firstProofKey entry, key ∈ keys := by
  obtain ⟨proof, rest, key, signature, hproofs, hvm, hmem, -⟩ := h
  refine ⟨ed25519VerifyingKeyToMultikey key, ?_, hmem⟩
  have hparse : parseDidKeyVm (didKeyUrl (ed25519VerifyingKeyToMultikey key)) =
      some (ed25519VerifyingKeyToMultikey key) :=
    parseDidKeyVm_eq_some_iff.mpr ⟨rfl, hash_notMem_multikey key⟩
  show firstProofKey entry = _
  simp [firstProofKey, hproofs, hvm, hparse, Value.asObject, Value.asStr]

/-- The update keys that a proof of possession is checked against are those that the verifier of
logs holds after the last entry, and whatever entry it accepts next is signed with one of them. -/
theorem latestUpdateKeys_in_force {X : Crates} {log : DIDLog} {did : DID}
    (h : verifyLog X log did = .ok ()) :
    (∃ scid, did.scid = some scid ∧ latestUpdateKeys log.entries =
      (log.entries.foldl (verifyLoop X scid did.toText).next {}).effectiveUpdateKeys) ∧
    ∀ e, verifyLog X ⟨log.entries ++ [e]⟩ did = .ok () →
      ∃ key ∈ firstProofKey e, key ∈ latestUpdateKeys log.entries := by
  obtain ⟨scid, hscid, hauth⟩ := verifyLog_eq_ok_iff_authentic.mp h
  refine ⟨⟨scid, hscid, (effectiveUpdateKeys_foldl scid did.toText log.entries).symm⟩, ?_⟩
  intro e he
  obtain ⟨-, _, -, -, doc, -, -, -, -, hsigned⟩ :=
    (verifyLog_concat_eq_ok_iff hauth.nonempty).mp he
  exact exists_firstProofKey_of_signedBy hsigned

end Pop

namespace Sample

open Pop

/-- The keys in force after the genesis entry of the sample log, and the rotation that is signed
with one of them. -/
theorem rotation_in_force :
    (∃ scid, did.scid = some scid ∧ latestUpdateKeys [genesis] =
      ([genesis].foldl (verifyLoop crates scid did.toText).next {}).effectiveUpdateKeys) ∧
    ∃ key ∈ firstProofKey rotation, key ∈ latestUpdateKeys [genesis] := by
  have hkeys := latestUpdateKeys_in_force verifyLog_genesis
  exact ⟨hkeys.1, hkeys.2 rotation verifyLog_rotation⟩

end Sample

end Swiyu
