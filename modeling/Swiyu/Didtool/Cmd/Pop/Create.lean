import Swiyu.Didtool.Cmd.Resolve

/-!
# Creation of proofs of possession

A proof of possession is signed with a key of the key store. Its `kid` names the key: as a `did:key`
for the authorized key, and as a verification method of the DID for the other two.
-/

namespace Swiyu

open Json

/-- Why no proof of possession is created. -/
inductive CreatePopError
  | invalidTtl
  | forceWithoutOut
  | fileExists (path : Text)
  | writeOutput (path source : Text)
  | writeStdout (source : Text)
  | resolve (e : ResolveError)
  | keyStore (e : KeyStoreError)
  deriving DecidableEq

/-- The message of an error. -/
def CreatePopError.toText : CreatePopError → Text
  | invalidTtl => "--ttl must be a positive integer"
  | forceWithoutOut => "--force is only meaningful with --out"
  | fileExists path =>
    Text.lit "file '" ++ path ++ "' already exists; pass --force to overwrite"
  | writeOutput path source => Text.lit "cannot write '" ++ path ++ "': " ++ source
  | writeStdout source => Text.lit "cannot write to stdout: " ++ source
  | resolve e => e.toText
  | keyStore e => e.toText

/-- Arguments of the creation. -/
structure CreatePopArgs where
  did : Text
  role : KeyRole
  nonce : Option Text := none
  ttl : UInt64
  /-- The snapshot of the key; the latest one when absent. -/
  version : Option ℕ := none
  out : Option Text := none
  force : Bool := false

namespace Pop

variable (X : ToolCrates) (env : Env)

/-- A signing key. -/
inductive Signer
  | eddsa (key : FixedBytes 32)
  | ecdsa (key : FixedBytes 32)
  deriving DecidableEq

namespace Signer

/-- The JWS algorithm of a signer. -/
def alg : Signer → Text
  | eddsa _ => "EdDSA"
  | ecdsa _ => "ES256"

/-- Signs a message. -/
def sign (msg : Bytes) : Signer → Bytes
  | eddsa key => X.ed25519Sign key msg
  | ecdsa key => X.p256Sign key msg

end Signer

/-- Commands of the creation. -/
abbrev CreatePopCommand := Command World CreatePopError

/-- The key of a role, and the `kid` that names it. -/
def resolveRole (entry : KeyStoreEntry) (role : KeyRole) (version : Option ℕ) :
    CreatePopCommand (Text × Signer) :=
  match role with
  | .authorized => do
    let signingKey ← (entry.loadEddsa X env role version).mapError .keyStore
    let multikey := ed25519VerifyingKeyToMultikey (X.ed25519VerifyingKey signingKey)
    return (Text.lit "did:key:" ++ multikey ++ '#' :: multikey, .eddsa signingKey)
  | .authentication => do
    let signingKey ← (entry.loadEcdsa X env role version).mapError .keyStore
    return (entry.did ++ "#authentication-key-01", .ecdsa signingKey)
  | .assertion => do
    let signingKey ← (entry.loadEcdsa X env role version).mapError .keyStore
    return (entry.did ++ "#assertion-key-01", .ecdsa signingKey)

/-- A random nonce. -/
def generateNonce {ε : Type} : Command World ε Text := do
  let bytes ← Os.fillBytes env
  return Base64Url.encode bytes

/-- The nonce of the arguments, or else a random one. -/
def chooseNonce {ε : Type} : Option Text → Command World ε Text
  | some n => return n
  | none => generateNonce env

/-- A JSON value as a segment of a JWT. -/
def encodePart (X : Crates) (v : Value) : Text := Base64Url.encode (Text.utf8 (v.print X.f64))

/-- The header of a proof of possession. -/
def popHeader (alg kid : Text) : Value :=
  .ofFields [(Text.lit "alg", .string alg), (Text.lit "kid", .string kid)]

/-- The payload of a proof of possession. -/
def popPayload (iss : Text) (iat exp : UInt64) (nonce : Text) : Value :=
  .ofFields [(Text.lit "iss", .string iss), (Text.lit "iat", .number (.posInt iat)),
    (Text.lit "exp", .number (.posInt exp)), (Text.lit "nonce", .string nonce)]

/-- The segments that are signed. -/
def popInput (X : Crates) (header payload : Value) : Text :=
  encodePart X header ++ '.' :: encodePart X payload

/-- A JWT in its compact form. -/
def compactJwt (X : Crates) (header payload : Value) (signature : Bytes) : Text :=
  popInput X header payload ++ '.' :: Base64Url.encode signature

/-- Writes the JWT to a file, or prints it. -/
def writeOutput (jwt : Text) (out : Option Text) (force : Bool) : CreatePopCommand Unit :=
  match out with
  | some path => do
    let present ← Os.pathExists path
    if present = true ∧ force = false then Command.fail (.fileExists path)
    else (Os.write env path jwt).mapError (.writeOutput path)
  | none => (Os.writeStdout env).mapError .writeStdout

/-- Creates a proof of possession, which is written out. -/
def cmdCreatePop (args : CreatePopArgs) : CreatePopCommand Text := do
  Command.ofExcept (Except.ensure (args.ttl ≠ 0) .invalidTtl)
  Command.ofExcept (Except.ensure (¬ (args.force = true ∧ args.out = none)) .forceWithoutOut)
  let entry ← (resolveEntry X env args.did).mapError .resolve
  let (kid, signer) ← resolveRole X env entry args.role args.version
  let nonce ← chooseNonce env args.nonce
  let now ← Os.unixSeconds env
  let header := popHeader signer.alg kid
  let payload := popPayload entry.did now (now + args.ttl) nonce
  let signature := signer.sign X (Text.utf8 (popInput X.toCrates header payload))
  let jwt := compactJwt X.toCrates header payload signature
  writeOutput env jwt args.out args.force
  return jwt

end Pop

end Swiyu
