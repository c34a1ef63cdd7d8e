import Swiyu.Core.DidDoc.RoundTrip
import Swiyu.Core.Jws
import Swiyu.Lib.Json.Plain

/-!
# The document of a created or rotated DID

The document that the tool writes is read back from its JSON form, and so are the keys in it.

## Main results

- `Swiyu.DIDDoc.tryFromJson_newGenesis`: the document is read back.
- `Swiyu.tryFromJwk_fromP256Coordinates`: the keys in it are read back.
-/

namespace Swiyu

open Json

variable {X : Crates}

/-- A verification method for a P-256 key. -/
def p256Method (id controller : Text) (key : P256PublicKey) (kid : Text) : VerificationMethod where
  id := id
  type := "JsonWebKey2020"
  controller := controller
  publicKey := .jwk (.fromP256Coordinates key kid)

/-- The document of a created or rotated DID is read back. -/
theorem DIDDoc.tryFromJson_newGenesis (did : Text) (authentication assertion : P256PublicKey) :
    tryFromJson X (newGenesis did authentication assertion).toJson =
      .ok (newGenesis did authentication assertion) :=
  tryFromJson_toJson _

/-- A P-256 key is read back from a JWK of its coordinates. -/
theorem tryFromJwk_fromP256Coordinates {X : JoseCrates} {key : P256PublicKey} (kid : Text)
    (h : X.p256FromSec1 (0x04 :: (key.x ++ (key.y : Bytes))) = .ok key) :
    VerifyingKey.tryFromJwk X (.fromP256Coordinates key kid) = .ok (.ecdsaP256 key) := by
  have hx : X.base64Decode (Base64Url.encode key.x) = .ok (key.x : Bytes) := by
    rw [JoseCrates.base64Decode, Base64Url.decode_encode]
  have hy : X.base64Decode (Base64Url.encode key.y) = .ok (key.y : Bytes) := by
    rw [JoseCrates.base64Decode, Base64Url.decode_encode]
  have hkey : ecKeyToP256 X "P-256" (Base64Url.encode key.x) (Base64Url.encode key.y) =
      .ok key := by
    simp only [ecKeyToP256, hx, hy, Except.ensure, ↓reduceIte, Except.mapError, Except.ok_bind, h]
  simp only [PublicKeyJWK.fromP256Coordinates, VerifyingKey.tryFromJwk, ↓reduceIte, hkey,
    Except.mapError, Except.map]

/-! ## Its form -/

theorem plainWithin_p256Method (id controller : Text) (key : P256PublicKey) (kid : Text) :
    (p256Method id controller key kid).toJson.PlainWithin 2 := by
  refine .ofFields fun p hp => ?_
  simp only [p256Method, List.mem_cons, List.not_mem_nil, or_false] at hp
  rcases hp with rfl | rfl | rfl | rfl
  · exact .string 1 _
  · exact .string 1 _
  · exact .string 1 _
  · refine .ofFields fun q hq => ?_
    simp only [JwkOptions.toFields, Option.map_none, Option.map_some, Option.toList_none,
      Option.toList_some, List.nil_append, List.append_nil, List.cons_append, List.mem_cons,
      List.not_mem_nil, or_false] at hq
    rcases hq with rfl | rfl | rfl | rfl | rfl <;> exact .string 0 _

/-- The document of a created or rotated DID holds no doubles and is not nested deep. -/
theorem DIDDoc.plainWithin_newGenesis (did : Text) (authentication assertion : P256PublicKey) :
    (newGenesis did authentication assertion).toJson.PlainWithin 4 := by
  refine .ofFields fun p hp => ?_
  simp only [newGenesis, listField, List.isEmpty_nil, List.isEmpty_cons, Bool.false_eq_true,
    ↓reduceIte, List.append_nil, List.cons_append, List.nil_append, List.map_cons, List.map_nil,
    List.mem_cons, List.not_mem_nil, or_false] at hp
  rcases hp with rfl | rfl | rfl | rfl | rfl
  · exact (Value.PlainWithin.strings 0 _).mono (by decide)
  · exact .string 3 _
  · refine .array fun v hv => ?_
    simp only [List.mem_cons, List.not_mem_nil, or_false] at hv
    rcases hv with rfl | rfl <;> exact plainWithin_p256Method _ _ _ _
  · refine .array fun v hv => ?_
    obtain rfl := List.mem_singleton.mp hv
    exact .string 2 _
  · refine .array fun v hv => ?_
    obtain rfl := List.mem_singleton.mp hv
    exact .string 2 _

end Swiyu
