import Swiyu.Core.SdJwt
import Swiyu.Core.StatusList

/-!
# Trust statements

A trust statement and its decoder from the SD-JWT VC wire form.
-/

namespace Swiyu

open Json

/-- Why a trust statement is rejected. -/
inductive TrustStatementError
  | jwtShape (got : ℕ)
  | base64 (segment reason : Text)
  | json (segment reason : Text)
  | disclosureNotArray
  | missingHeaderField (name : Text)
  | missingPayloadField (name : Text)
  | statusListPointer (e : StatusListError)
  deriving DecidableEq

/-- The message of an error. -/
def TrustStatementError.toText : TrustStatementError → Text
  | jwtShape got => Text.lit "expected 3 dot-separated parts, got " ++ Text.decimal got
  | base64 segment reason => segment ++ " not base64url: " ++ reason
  | json segment reason => segment ++ " not JSON: " ++ reason
  | disclosureNotArray => "disclosure is not a JSON array"
  | missingHeaderField name => Text.lit "missing '" ++ name ++ "' in header"
  | missingPayloadField name => Text.lit "missing or non-numeric '" ++ name ++ "'"
  | statusListPointer e => e.toText

/-- What a trust authority says about the entity that owns a DID. -/
structure TrustStatement where
  /-- Verifiable credential type. -/
  vct : Text
  /-- Issuer DID. -/
  iss : Text
  /-- Issued at, Unix seconds. -/
  iat : UInt64
  /-- Not before, Unix seconds. -/
  nbf : Option UInt64
  /-- Expiration, Unix seconds. -/
  exp : Option UInt64
  /-- Legal names by language. -/
  entityName : OrdMap Text Text
  /-- The disclosed `isStateActor` claim. -/
  isStateActor : Option Bool
  /-- Status list pointer; absent when the statement has no revocation mechanism. -/
  status : Option StatusListPointer
  /-- The verification method that signed the statement. -/
  kid : Text
  /-- JWS algorithm. -/
  alg : Text
  /-- Header and payload as they were signed. -/
  signingInput : Text
  /-- Raw signature bytes. -/
  signature : Bytes
  deriving DecidableEq

variable (X : JoseCrates)

/-! ## Disclosures -/

/-- The claims disclosed so far. -/
structure DisclosedClaims where
  entityName : OrdMap Text Text := ∅
  isStateActor : Option Bool := none

/-- The names of an `entityName` claim; members that are no strings are ignored. -/
def addEntityNames (names : OrdMap Text Text) (claim : Object) : OrdMap Text Text :=
  claim.toList.foldl (fun names member =>
    match member.2.asStr with
    | some name => names.insert member.1 name
    | none => names) names

/-- Takes a claim over. -/
def DisclosedClaims.add (claims : DisclosedClaims) (disclosure : Disclosure) : DisclosedClaims :=
  if disclosure.name = Text.lit "entityName" then
    match disclosure.value.asObject with
    | some claim => { claims with entityName := addEntityNames claims.entityName claim }
    | none => claims
  else if disclosure.name = Text.lit "isStateActor" then
    match disclosure.value.asBool with
    | some b => { claims with isStateActor := some b }
    | none => claims
  else claims

/-- Reads a disclosure; one of another shape is skipped. -/
def readDisclosure (encoded : Text) : Except TrustStatementError (Option Disclosure) :=
  match Disclosure.fromStr X encoded with
  | .ok disclosure => .ok (some disclosure)
  | .error (.base64 reason) => .error (.base64 "disclosure" reason)
  | .error (.json reason) => .error (.json "disclosure" reason)
  | .error .notArray => .error .disclosureNotArray
  | .error _ => .ok none

/-- The disclosed claims that the digests in `sdSet` commit to. -/
def readDisclosures (sdSet : List Text) :
    DisclosedClaims → List Text → Except TrustStatementError DisclosedClaims
  | claims, [] => .ok claims
  | claims, encoded :: rest => do
    match ← readDisclosure X encoded with
    | some disclosure =>
      if disclosure.digest X ∈ sdSet then readDisclosures sdSet (claims.add disclosure) rest
      else readDisclosures sdSet claims rest
    | none => readDisclosures sdSet claims rest

/-! ## Statements -/

namespace TrustStatement

/-- A segment of a JWT as bytes. -/
def decodeSegment (name segment : Text) : Except TrustStatementError Bytes :=
  (X.base64Decode segment).mapError (.base64 name)

/-- A segment of a JWT as JSON. -/
def parseSegment (name segment : Text) : Except TrustStatementError Value := do
  let bytes ← decodeSegment X name segment
  (X.fromSlice bytes).mapError (.json name)

/-- A string member of the header. -/
def headerString (header : Value) (name : Text) : Except TrustStatementError Text :=
  ((header.get name).bind Value.asStr).okOr (.missingHeaderField name)

/-- A string member of the payload, which may be missing. -/
def payloadString (payload : Value) (name : Text) : Text :=
  ((payload.get name).bind Value.asStr).getD "(unknown)"

/-- The status list pointer of a payload. -/
def statusOfPayload (payload : Value) : Except TrustStatementError (Option StatusListPointer) :=
  match (payload.get "status").bind fun status => status.get "status_list" with
  | none => .ok none
  | some v => ((StatusListPointer.tryFromJson v).mapError .statusListPointer).map some

/-- The parts of the wire form: the JWT and its disclosures. -/
def splitDisclosures (jwtText : Text) : Text × List Text :=
  match Text.split '~' (Text.trimEndMatches '~' jwtText) with
  | [] => ([], [])
  | jwt :: disclosures => (jwt, disclosures)

/-- Decodes a trust statement from its wire form. -/
def tryFromJwt (jwtText : Text) : Except TrustStatementError TrustStatement :=
  match Text.split '.' (splitDisclosures jwtText).1 with
  | [seg₀, seg₁, seg₂] => do
    let header ← parseSegment X "header" seg₀
    let payload ← parseSegment X "payload" seg₁
    let signature ← decodeSegment X "signature" seg₂
    let kid ← headerString header "kid"
    let alg ← headerString header "alg"
    let sdSet := (((payload.get "_sd").bind Value.asArray).getD []).filterMap Value.asStr
    let claims ← readDisclosures X sdSet {} (splitDisclosures jwtText).2
    let iat ← ((payload.get "iat").bind Value.asU64).okOr (.missingPayloadField "iat")
    let status ← statusOfPayload payload
    return { vct := payloadString payload "vct"
             iss := payloadString payload "iss"
             iat
             nbf := (payload.get "nbf").bind Value.asU64
             exp := (payload.get "exp").bind Value.asU64
             entityName := claims.entityName
             isStateActor := claims.isStateActor
             status, kid, alg
             signingInput := seg₀ ++ '.' :: seg₁
             signature }
  | segs => .error (.jwtShape segs.length)

end TrustStatement

end Swiyu
