import Swiyu.Core.DidLog.Authentic
import Swiyu.Core.StatusList
import Swiyu.Lib.Json.Codec

/-!
# The wire formats of status lists

The JSON forms of a status list, of the pointer that a credential has into one, and of the header
and the payload of the JWT that a registry serves. Each is read back as it was written.

## Main definitions

- `Swiyu.StatusListJwtHeader`, `Swiyu.StatusListJwtPayload`: the parts of a status list JWT.

## Main results

- `Swiyu.statusList_roundTrips`: the four formats round-trip.
-/

namespace Swiyu

open Json

/-! ## Encoders and decoders -/

/-- The `status_list` object that the issuer of a credential embeds. -/
def StatusListPointer.toJson (pointer : StatusListPointer) : Value :=
  .ofFields [(Text.lit "type", .string pointer.type),
    (Text.lit "idx", .number (.posInt pointer.idx)),
    (Text.lit "uri", .string pointer.uri)]

/-- The inner `status_list` object of a status list JWT: the compressed bitstring, in base64url. The
compression is that of `ZlibEncoder`, at its default level. -/
def StatusList.toJson (zlibEncode : Bytes → Bytes) (list : StatusList) : Value :=
  .ofFields [(Text.lit "bits", .number (.posInt list.bits.toUInt64)),
    (Text.lit "lst", .string (Base64Url.encode (zlibEncode list.bytes)))]

/-- The JOSE header of a status list JWT. -/
structure StatusListJwtHeader where
  alg : Text
  typ : Text
  kid : Text
  deriving DecidableEq

namespace StatusListJwtHeader

/-- Parses a header. -/
def tryFromJson (v : Value) : Except StatusListError StatusListJwtHeader := do
  let obj ← v.asObject.okOr (.invalidFieldType "header")
  let alg ← statusListMember Value.asStr obj "alg"
  let typ ← statusListMember Value.asStr obj "typ"
  let kid ← statusListMember Value.asStr obj "kid"
  return { alg, typ, kid }

/-- The JSON form of a header. -/
def toJson (header : StatusListJwtHeader) : Value :=
  .ofFields [(Text.lit "alg", .string header.alg), (Text.lit "typ", .string header.typ),
    (Text.lit "kid", .string header.kid)]

end StatusListJwtHeader

/-- The payload of a status list JWT. -/
structure StatusListJwtPayload where
  /-- The DID of the issuer. -/
  iss : Text
  /-- The URL that the JWT is served at. -/
  sub : Text
  /-- When the JWT was issued. -/
  iat : UInt64
  /-- When the JWT expires, if it does. -/
  exp : Option UInt64
  list : StatusList

namespace StatusListJwtPayload

/-- The expiry: none when it is absent or `null`. -/
def expFromJson (obj : Object) : Except StatusListError (Option UInt64) :=
  match obj.get "exp" with
  | none => .ok none
  | some .null => .ok none
  | some v => (v.asU64.okOr (.invalidFieldType "exp")).map some

variable (X : JoseCrates) (zlibEncode : Bytes → Bytes)

/-- Parses a payload. -/
def tryFromJson (v : Value) : Except StatusListError StatusListJwtPayload := do
  let obj ← v.asObject.okOr (.invalidFieldType "payload")
  let iss ← statusListMember Value.asStr obj "iss"
  let sub ← statusListMember Value.asStr obj "sub"
  let iat ← statusListMember Value.asU64 obj "iat"
  let exp ← expFromJson obj
  let inner ← (obj.get "status_list").okOr (.missingField "status_list")
  let list ← StatusList.tryFromJson X inner
  return { iss, sub, iat, exp, list }

/-- The JSON form of a payload. -/
def toJson (payload : StatusListJwtPayload) : Value :=
  .ofFields ([(Text.lit "iss", .string payload.iss), (Text.lit "sub", .string payload.sub),
    (Text.lit "iat", .number (.posInt payload.iat))] ++
    (payload.exp.map fun exp => (Text.lit "exp", Value.number (.posInt exp))).toList ++
    [(Text.lit "status_list", payload.list.toJson zlibEncode)])

end StatusListJwtPayload

/-! ## Round trips -/

theorem StatusListPointer.roundTrips : RoundTrips toJson tryFromJson := by
  intro pointer
  unfold tryFromJson toJson Value.ofFields
  simp [Value.asObject, statusListMember, OrdMap.get_ofList_cons, OrdMap.get_ofList_nil,
    Text.lit_inj, Value.asStr, Value.asU64]

theorem StatusListJwtHeader.roundTrips : RoundTrips toJson tryFromJson := by
  intro header
  unfold tryFromJson toJson Value.ofFields
  simp [Value.asObject, statusListMember, OrdMap.get_ofList_cons, OrdMap.get_ofList_nil,
    Text.lit_inj, Value.asStr]

variable {X : JoseCrates} {zlibEncode : Bytes → Bytes}

/-- The slot width is read back: it fits into 8 bits. -/
theorem StatusList.bitsFromJson_eq_ok {obj : Object} {bits : UInt8}
    (h : obj.get "bits" = some (.number (.posInt bits.toUInt64))) :
    bitsFromJson obj = .ok bits := by
  have hlt : bits.toUInt64 < 256 := by
    rw [UInt64.lt_iff_toNat_lt, UInt8.toNat_toUInt64]
    exact bits.toNat_lt
  unfold bitsFromJson
  rw [h]
  dsimp only [Value.asU64]
  rw [if_pos hlt, UInt8.toUInt8_toUInt64]

/-- A list is read back when the compression can be undone. -/
theorem StatusList.roundTrips (hzlib : ∀ bytes, X.zlibDecode (zlibEncode bytes) = .ok bytes) :
    RoundTrips (toJson zlibEncode) (tryFromJson X) := by
  intro list
  have hobj : (list.toJson zlibEncode).asObject = some (OrdMap.ofList
      [(Text.lit "bits", .number (.posInt list.bits.toUInt64)),
        (Text.lit "lst", .string (Base64Url.encode (zlibEncode list.bytes)))]) := rfl
  have hbits : bitsFromJson (OrdMap.ofList
      [(Text.lit "bits", .number (.posInt list.bits.toUInt64)),
        (Text.lit "lst", .string (Base64Url.encode (zlibEncode list.bytes)))]) = .ok list.bits := by
    apply bitsFromJson_eq_ok
    simp [OrdMap.get_ofList_cons, OrdMap.get_ofList_nil, Text.lit_inj]
  unfold tryFromJson
  rw [hobj, Option.okOr_some, Except.ok_bind, hbits, Except.ok_bind, dif_pos list.bits_valid]
  simp [OrdMap.get_ofList_cons, OrdMap.get_ofList_nil, Text.lit_inj, Value.asStr,
    Base64Url.decode_encode, hzlib, Except.mapError]

theorem StatusListJwtPayload.expFromJson_eq_ok {obj : Object} (exp : Option UInt64)
    (h : obj.get "exp" = exp.map fun exp => .number (.posInt exp)) : expFromJson obj = .ok exp := by
  unfold expFromJson
  rw [h]
  cases exp <;> rfl

/-- A payload is read back, with or without an expiry. -/
theorem StatusListJwtPayload.roundTrips
    (hzlib : ∀ bytes, X.zlibDecode (zlibEncode bytes) = .ok bytes) :
    RoundTrips (toJson zlibEncode) (tryFromJson X) := by
  intro payload
  have hlist := StatusList.roundTrips hzlib payload.list
  unfold tryFromJson toJson Value.ofFields
  rw [Value.asObject, Option.okOr_some, Except.ok_bind, expFromJson_eq_ok payload.exp]
  · simp [statusListMember, OrdMap.get_ofList_append, OrdMap.get_ofList_cons, OrdMap.get_ofList_nil,
      OrdMap.get_ofList_toList, Text.lit_inj, Value.asStr, Value.asU64, hlist]
  · simp [OrdMap.get_ofList_append, OrdMap.get_ofList_cons, OrdMap.get_ofList_nil,
      OrdMap.get_ofList_toList, Text.lit_inj]

/-- The four formats round-trip, and what has been read in any form is written in one that is read
as the same value, as long as the compression can be undone. -/
theorem statusList_roundTrips (hzlib : ∀ bytes, X.zlibDecode (zlibEncode bytes) = .ok bytes) :
    (RoundTrips (StatusList.toJson zlibEncode) (StatusList.tryFromJson X) ∧
      ∀ v list, StatusList.tryFromJson X v = .ok list →
        StatusList.tryFromJson X (list.toJson zlibEncode) = .ok list) ∧
    (RoundTrips (StatusListJwtPayload.toJson zlibEncode) (StatusListJwtPayload.tryFromJson X) ∧
      ∀ v payload, StatusListJwtPayload.tryFromJson X v = .ok payload →
        StatusListJwtPayload.tryFromJson X (payload.toJson zlibEncode) = .ok payload) ∧
    (RoundTrips StatusListPointer.toJson StatusListPointer.tryFromJson ∧
      ∀ v pointer, StatusListPointer.tryFromJson v = .ok pointer →
        StatusListPointer.tryFromJson pointer.toJson = .ok pointer) ∧
    (RoundTrips StatusListJwtHeader.toJson StatusListJwtHeader.tryFromJson ∧
      ∀ v header, StatusListJwtHeader.tryFromJson v = .ok header →
        StatusListJwtHeader.tryFromJson header.toJson = .ok header) := by
  have hlist := StatusList.roundTrips hzlib
  have hpayload := StatusListJwtPayload.roundTrips hzlib
  refine ⟨⟨hlist, fun _ _ => hlist.stable⟩, ⟨hpayload, fun _ _ => hpayload.stable⟩, ?_, ?_⟩
  · exact ⟨StatusListPointer.roundTrips, fun _ _ => StatusListPointer.roundTrips.stable⟩
  · exact ⟨StatusListJwtHeader.roundTrips, fun _ _ => StatusListJwtHeader.roundTrips.stable⟩

namespace Sample

/-- The form in which a list of 16 slots is compressed. -/
def compressed : Bytes := [0x78, 0x9c, 0xdb, 0xb9, 0x18, 0x00, 0x02, 0x17, 0x01, 0x5d]

/-- A compression that marks all other bitstrings by a leading zero. -/
def deflate (bytes : Bytes) : Bytes := if bytes = [0xb9, 0xa3] then compressed else 0 :: bytes

/-- Crates that undo the compression. -/
def zlibCrates : JoseCrates where
  toCrates := cratesOf [] []
  base64Error _ := []
  serdeJsonBytesError _ := []
  p256FromSec1 _ := .error []
  p256Verify _ _ _ := false
  zlibDecode bytes := if bytes = compressed then .ok [0xb9, 0xa3] else .ok bytes.tail
  rfc3339 _ := none
  debugText t := t

/-- A payload with a list of 16 slots, which does not expire. -/
def statusPayload : StatusListJwtPayload where
  iss := "did:tdw:Qm:example"
  sub := "https://example/list"
  iat := 1735689600
  exp := none
  list := ⟨1, [0xb9, 0xa3], .inl rfl⟩

theorem statusPayload_roundTrips :
    StatusListJwtPayload.tryFromJson zlibCrates (statusPayload.toJson deflate) =
      .ok statusPayload := by
  refine (statusList_roundTrips (X := zlibCrates) fun bytes => ?_).2.1.1 statusPayload
  show (if deflate bytes = compressed then _ else _) = _
  unfold deflate
  by_cases h : bytes = [0xb9, 0xa3]
  · rw [if_pos h, if_pos rfl, h]
  · rw [if_neg h, if_neg (by simp [compressed]), List.tail_cons]

end Sample

end Swiyu
