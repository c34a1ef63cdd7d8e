import Swiyu.Core.Crates
import Swiyu.Lib.Base64Url
import Swiyu.Lib.Exec

/-!
# DID documents

The W3C DID 1.0 data model: public keys, verification methods, services and the document, with their
JSON-LD forms, and the document of a freshly created DID.

## Main definitions

- `Swiyu.PublicKeyJWK`, `Swiyu.PublicKeyMultibase`: the two representations of a public key.
- `Swiyu.DIDDoc`: a DID document, `DIDDoc.toJson` and `DIDDoc.tryFromJson`.
- `Swiyu.DIDDoc.newGenesis`: the document that embeds an authentication and an assertion key.
-/

namespace Swiyu

open Json

/-- Why a DID document is rejected. -/
inductive DIDDocError
  | missingField (field : Text)
  | invalidFieldType (msg : Text)
  | invalidFormat (msg : Text)
  deriving DecidableEq

/-- The message of an error. -/
def DIDDocError.toText : DIDDocError → Text
  | missingField field => Text.lit "missing required field: " ++ field
  | invalidFieldType msg => Text.lit "invalid field type: " ++ msg
  | invalidFormat msg => Text.lit "invalid format: " ++ msg

namespace DIDDoc

/-! ## Fields -/

/-- A string field that has to be there. -/
def requiredString (obj : Object) (key : Text) : Except DIDDocError Text := do
  let v ← (obj.get key).okOr (.missingField key)
  v.asStr.okOr (.invalidFieldType (Text.lit "'" ++ key ++ "' must be a string"))

/-- A string field that may be absent. -/
def optionalString (obj : Object) (key : Text) : Except DIDDocError (Option Text) :=
  match obj.get key with
  | none => .ok none
  | some v =>
    (v.asStr.okOr (.invalidFieldType (Text.lit "'" ++ key ++ "' must be a string"))).map some

/-- The strings of a list, or the error `e` at the first element that is none. -/
def collectStrings (e : DIDDocError) (arr : List Value) : Except DIDDocError (List Text) :=
  arr.mapM fun v => v.asStr.okOr e

/-- An array field that may be absent; `none` when it is. -/
def optionalArray (obj : Object) (key : Text) : Except DIDDocError (Option (List Value)) :=
  match obj.get key with
  | none => .ok none
  | some v =>
    (v.asArray.okOr (.invalidFieldType (Text.lit "'" ++ key ++ "' must be an array"))).map some

/-- The error for an array whose elements are not all strings. -/
def elementsError (key : Text) : DIDDocError :=
  .invalidFieldType (Text.lit "'" ++ key ++ "' elements must be strings")

/-- An array of strings that may be absent. -/
def optionalStringArray (obj : Object) (key : Text) : Except DIDDocError (Option (List Text)) := do
  match ← optionalArray obj key with
  | none => return none
  | some arr => (collectStrings (elementsError key) arr).map some

/-- A string or an array of strings, as a list. -/
def stringOrArray (obj : Object) (key : Text) : Except DIDDocError (List Text) :=
  match obj.get key with
  | none => .ok []
  | some (.string s) => .ok [s]
  | some (.array arr) => collectStrings (elementsError key) arr
  | some _ =>
    .error (.invalidFieldType (Text.lit "'" ++ key ++ "' must be a string or array of strings"))

end DIDDoc

open DIDDoc

/-! ## Public keys -/

/-- Intended use of a JWK key. -/
inductive KeyUse
  | sig
  | enc
  deriving DecidableEq

/-- Parses a key use. -/
def KeyUse.tryFromStr (s : Text) : Except DIDDocError KeyUse :=
  if s = Text.lit "sig" then .ok .sig
  else if s = Text.lit "enc" then .ok .enc
  else .error (.invalidFormat (Text.lit "unknown key use '" ++ s ++ "'; expected 'sig' or 'enc'"))

/-- The text of a key use. -/
def KeyUse.toText : KeyUse → Text
  | sig => "sig"
  | enc => "enc"

/-- The optional fields that all JWK types share. -/
structure JwkOptions where
  use : Option KeyUse := none
  keyOps : Option (List Text) := none
  alg : Option Text := none
  kid : Option Text := none
  deriving DecidableEq

/-- Reads the key use. -/
def parseKeyUse (obj : Object) : Except DIDDocError (Option KeyUse) :=
  match obj.get "use" with
  | none => .ok none
  | some v => do
    let s ← v.asStr.okOr (.invalidFieldType "'use' must be a string")
    (KeyUse.tryFromStr s).map some

/-- Reads the optional fields. -/
def JwkOptions.tryFromJson (obj : Object) : Except DIDDocError JwkOptions := do
  let use ← parseKeyUse obj
  let keyOps ← optionalStringArray obj "key_ops"
  let alg ← optionalString obj "alg"
  let kid ← optionalString obj "kid"
  return { use, keyOps, alg, kid }

/-- The members for the optional fields that are present. -/
def JwkOptions.toFields (o : JwkOptions) : List (Text × Value) :=
  (o.use.map fun v => (Text.lit "use", Value.string v.toText)).toList ++
  (o.keyOps.map fun v => (Text.lit "key_ops", Value.strings v)).toList ++
  (o.alg.map fun v => (Text.lit "alg", Value.string v)).toList ++
  (o.kid.map fun v => (Text.lit "kid", Value.string v)).toList

/-- Public key in JWK format, public key material only. -/
inductive PublicKeyJWK
  /-- Elliptic curve key with its curve and coordinates. -/
  | ec (crv x y : Text) (options : JwkOptions)
  /-- Octet key pair with its curve and public key. -/
  | okp (crv x : Text) (options : JwkOptions)
  /-- RSA key with its modulus and exponent. -/
  | rsa (n e : Text) (options : JwkOptions)
  deriving DecidableEq

namespace PublicKeyJWK

/-- Parses a JWK. -/
def tryFromJson (v : Value) : Except DIDDocError PublicKeyJWK := do
  let obj ← v.asObject.okOr (.invalidFieldType "publicKeyJwk must be a JSON object")
  let kty ← requiredString obj "kty"
  if kty = Text.lit "EC" then
    return .ec (← requiredString obj "crv") (← requiredString obj "x") (← requiredString obj "y")
      (← JwkOptions.tryFromJson obj)
  else if kty = Text.lit "OKP" then
    return .okp (← requiredString obj "crv") (← requiredString obj "x")
      (← JwkOptions.tryFromJson obj)
  else if kty = Text.lit "RSA" then
    return .rsa (← requiredString obj "n") (← requiredString obj "e")
      (← JwkOptions.tryFromJson obj)
  else
    .error (.invalidFormat (Text.lit "unsupported JWK key type '" ++ kty ++
      "'; expected 'EC', 'OKP', or 'RSA'"))

/-- The JSON form of a JWK. -/
def toJson : PublicKeyJWK → Value
  | ec crv x y o => .ofFields ([(Text.lit "kty", .string "EC"), (Text.lit "crv", .string crv),
      (Text.lit "x", .string x), (Text.lit "y", .string y)] ++ o.toFields)
  | okp crv x o => .ofFields ([(Text.lit "kty", .string "OKP"), (Text.lit "crv", .string crv),
      (Text.lit "x", .string x)] ++ o.toFields)
  | rsa n e o => .ofFields ([(Text.lit "kty", .string "RSA"), (Text.lit "n", .string n),
      (Text.lit "e", .string e)] ++ o.toFields)

end PublicKeyJWK

/-- Affine coordinates of an uncompressed P-256 public key. -/
structure P256PublicKey where
  x : FixedBytes 32
  y : FixedBytes 32
  deriving DecidableEq

/-- `ECKey::from_p256_coordinates`, with a key identifier. -/
def PublicKeyJWK.fromP256Coordinates (key : P256PublicKey) (kid : Text) : PublicKeyJWK :=
  .ec "P-256" (Base64Url.encode key.x) (Base64Url.encode key.y) { kid := some kid }

/-- A public key as a multibase string: its decoded bytes. -/
structure PublicKeyMultibase where
  key : Bytes
  deriving DecidableEq

/-- Parses a multibase string; only the `z` prefix is supported. -/
def PublicKeyMultibase.fromStr (X : Crates) : Text → Except DIDDocError PublicKeyMultibase
  | [] => .error (.invalidFormat "empty multibase string")
  | c :: rest =>
    if c = 'z' then do
      let key ← (X.bs58Decode rest).mapError fun e =>
        .invalidFormat (Text.lit "invalid base58btc encoding: " ++ e)
      return ⟨key⟩
    else
      .error (.invalidFormat (Text.lit "unsupported multibase prefix '" ++ [c] ++
        "'; only 'z' (base58btc) is supported"))

/-- The multibase string of a key. -/
def PublicKeyMultibase.toText (mb : PublicKeyMultibase) : Text := 'z' :: Base58.encode mb.key

/-- Encodes a raw Ed25519 public key as a multikey string. -/
def ed25519VerifyingKeyToMultikey (keyBytes : FixedBytes 32) : Text :=
  'z' :: Base58.encode (0xed :: 0x01 :: keyBytes)

/-- The public key material of a verification method. -/
inductive PublicKey
  | jwk (jwk : PublicKeyJWK)
  | multibase (mb : PublicKeyMultibase)
  deriving DecidableEq

/-! ## The document -/

/-- A cryptographic key to authenticate or prove control of a DID subject. -/
structure VerificationMethod where
  /-- DID URL identifying this verification method. -/
  id : Text
  /-- The cryptographic suite type. -/
  type : Text
  /-- DID of the entity that controls this key. -/
  controller : Text
  /-- The public key material. -/
  publicKey : PublicKey
  deriving DecidableEq

/-- A verification method that is embedded or referenced by its DID URL. -/
inductive VerificationMethodOrRef
  | embedded (vm : VerificationMethod)
  | reference (url : Text)
  deriving DecidableEq

/-- A network endpoint of the DID subject. -/
structure Service where
  id : Text
  type : List Text
  serviceEndpoint : Value
  deriving DecidableEq

/-- A DID document. -/
structure DIDDoc where
  /-- The JSON-LD context. -/
  context : Value
  /-- The DID of the document's subject. -/
  id : Text
  alsoKnownAs : List Text := []
  controller : List Text := []
  verificationMethod : List VerificationMethod := []
  authentication : List VerificationMethodOrRef := []
  assertionMethod : List VerificationMethodOrRef := []
  keyAgreement : List VerificationMethodOrRef := []
  capabilityInvocation : List VerificationMethodOrRef := []
  capabilityDelegation : List VerificationMethodOrRef := []
  service : List Service := []
  deriving DecidableEq

/-- The document of a freshly created or rotated DID. The authorized key is not part of it. -/
def DIDDoc.newGenesis (did : Text) (authentication assertion : P256PublicKey) : DIDDoc :=
  let authVmId := did ++ "#authentication-key-01"
  let assertVmId := did ++ "#assertion-key-01"
  { context := .strings ["https://www.w3.org/ns/did/v1", "https://w3id.org/security/jwk/v1"]
    id := did
    verificationMethod :=
      [{ id := authVmId, type := "JsonWebKey2020", controller := did,
         publicKey := .jwk (.fromP256Coordinates authentication "authentication-key-01") },
       { id := assertVmId, type := "JsonWebKey2020", controller := did,
         publicKey := .jwk (.fromP256Coordinates assertion "assertion-key-01") }]
    authentication := [.reference authVmId]
    assertionMethod := [.reference assertVmId] }

/-- The JSON form of a verification method. -/
def VerificationMethod.toJson (vm : VerificationMethod) : Value :=
  .ofFields [(Text.lit "id", .string vm.id), (Text.lit "type", .string vm.type),
    (Text.lit "controller", .string vm.controller),
    match vm.publicKey with
    | .jwk jwk => (Text.lit "publicKeyJwk", jwk.toJson)
    | .multibase mb => (Text.lit "publicKeyMultibase", .string mb.toText)]

/-- The JSON form of a verification method or a reference to one. -/
def VerificationMethodOrRef.toJson : VerificationMethodOrRef → Value
  | embedded vm => vm.toJson
  | reference s => .string s

/-- A list of strings as a bare string when it has one element. -/
def stringOrArrayValue : List Text → Value
  | [s] => .string s
  | l => .strings l

/-- The JSON form of a service. -/
def Service.toJson (s : Service) : Value :=
  .ofFields [(Text.lit "id", .string s.id), (Text.lit "type", stringOrArrayValue s.type),
    (Text.lit "serviceEndpoint", s.serviceEndpoint)]

/-- The member `key` for a list that is not empty. -/
def listField {α : Type} (key : Text) (toJson : List α → Value) (l : List α) :
    List (Text × Value) :=
  if l.isEmpty then [] else [(key, toJson l)]

namespace DIDDoc

/-- The JSON-LD form of a document. -/
def toJson (doc : DIDDoc) : Value :=
  let refs (key : Text) := listField key fun l : List VerificationMethodOrRef =>
    .array (l.map VerificationMethodOrRef.toJson)
  .ofFields ([(Text.lit "@context", doc.context), (Text.lit "id", .string doc.id)] ++
    listField "alsoKnownAs" .strings doc.alsoKnownAs ++
    listField "controller" stringOrArrayValue doc.controller ++
    listField "verificationMethod" (fun l => .array (l.map VerificationMethod.toJson))
      doc.verificationMethod ++
    refs "authentication" doc.authentication ++
    refs "assertionMethod" doc.assertionMethod ++
    refs "keyAgreement" doc.keyAgreement ++
    refs "capabilityInvocation" doc.capabilityInvocation ++
    refs "capabilityDelegation" doc.capabilityDelegation ++
    listField "service" (fun l => .array (l.map Service.toJson)) doc.service)

variable (X : Crates)

/-- The key of a verification method; a JWK wins over a multibase string. -/
def publicKeyFromJson (obj : Object) : Except DIDDocError PublicKey :=
  match obj.get "publicKeyJwk" with
  | some jwk => (PublicKeyJWK.tryFromJson jwk).map .jwk
  | none =>
    match (obj.get "publicKeyMultibase").bind Value.asStr with
    | some mb => (PublicKeyMultibase.fromStr X mb).map .multibase
    | none => .error (.missingField
        "verification method must have 'publicKeyJwk' or 'publicKeyMultibase'")

/-- Parses a verification method. -/
def vmFromJson (v : Value) : Except DIDDocError VerificationMethod := do
  let obj ← v.asObject.okOr (.invalidFieldType "verification method must be an object")
  let id ← requiredString obj "id"
  let type ← requiredString obj "type"
  let controller ← requiredString obj "controller"
  let publicKey ← publicKeyFromJson X obj
  return { id, type, controller, publicKey }

/-- Parses a verification method or a reference to one. -/
def vmOrRefFromJson (v : Value) : Except DIDDocError VerificationMethodOrRef :=
  match v.asStr with
  | some s => .ok (.reference s)
  | none => (vmFromJson X v).map .embedded

/-- The types of a service. -/
def serviceTypeFromJson (obj : Object) : Except DIDDocError (List Text) :=
  match obj.get "type" with
  | some (.string s) => .ok [s]
  | some (.array arr) =>
    collectStrings (.invalidFieldType "service 'type' elements must be strings") arr
  | some _ => .error (.invalidFieldType "service 'type' must be a string or array of strings")
  | none => .error (.missingField "service 'type'")

/-- Parses a service. -/
def serviceFromJson (v : Value) : Except DIDDocError Service := do
  let obj ← v.asObject.okOr (.invalidFieldType "service must be an object")
  let id ← requiredString obj "id"
  let type ← serviceTypeFromJson obj
  let serviceEndpoint ← (obj.get "serviceEndpoint").okOr (.missingField "serviceEndpoint")
  return { id, type, serviceEndpoint }

/-- Parses an array field that may be absent, element by element. -/
def parseArray {α : Type} (parse : Value → Except DIDDocError α) (obj : Object) (key : Text) :
    Except DIDDocError (List α) := do
  match ← optionalArray obj key with
  | none => return []
  | some arr => arr.mapM parse

/-- Parses a document from its JSON-LD form. -/
def tryFromJson (v : Value) : Except DIDDocError DIDDoc := do
  let obj ← v.asObject.okOr (.invalidFormat "DID document must be a JSON object")
  let context ← (obj.get "@context").okOr (.missingField "@context")
  let id ← requiredString obj "id"
  let alsoKnownAs ← stringOrArray obj "alsoKnownAs"
  let controller ← stringOrArray obj "controller"
  let verificationMethod ← parseArray (vmFromJson X) obj "verificationMethod"
  let authentication ← parseArray (vmOrRefFromJson X) obj "authentication"
  let assertionMethod ← parseArray (vmOrRefFromJson X) obj "assertionMethod"
  let keyAgreement ← parseArray (vmOrRefFromJson X) obj "keyAgreement"
  let capabilityInvocation ← parseArray (vmOrRefFromJson X) obj "capabilityInvocation"
  let capabilityDelegation ← parseArray (vmOrRefFromJson X) obj "capabilityDelegation"
  let service ← parseArray serviceFromJson obj "service"
  return { context, id, alsoKnownAs, controller, verificationMethod, authentication,
           assertionMethod, keyAgreement, capabilityInvocation, capabilityDelegation, service }

end DIDDoc

end Swiyu
