import Swiyu.Core.DidDoc
import Swiyu.Lib.Json.Codec

/-!
# Documents are read back

The JSON-LD form of a document is read as the document, whatever it holds. Lists disappear when they
are empty and collapse to their element when there is one; the decoder undoes either.

## Main results

- `Swiyu.PublicKeyJWK.roundTrips`: keys with any options are read back.
- `Swiyu.VerificationMethod.roundTrips`, `Swiyu.Service.roundTrips`: so are the parts of a document.
- `Swiyu.didDoc_roundTrips`: and so are documents.
-/

namespace Swiyu

open Json

variable {X : Crates} {obj : Object} {key : Text}

/-! ## Fields -/

namespace DIDDoc

theorem requiredString_eq_ok {s : Text} (h : obj.get key = some (.string s)) :
    requiredString obj key = .ok s := by
  unfold requiredString
  rw [h, Option.okOr_some, Except.ok_bind, Value.asStr, Option.okOr_some]

theorem optionalString_eq_ok (o : Option Text) (h : obj.get key = o.map .string) :
    optionalString obj key = .ok o := by
  unfold optionalString
  rw [h]
  cases o <;> rfl

theorem collectStrings_map (e : DIDDocError) (l : List Text) :
    collectStrings e (l.map .string) = .ok l :=
  Except.mapM_map_eq_ok fun _ _ => rfl

theorem optionalArray_eq_ok {o : Option (List Value)} (h : obj.get key = o.map .array) :
    optionalArray obj key = .ok o := by
  unfold optionalArray
  rw [h]
  cases o <;> rfl

theorem optionalStringArray_eq_ok (o : Option (List Text)) (h : obj.get key = o.map .strings) :
    optionalStringArray obj key = .ok o := by
  unfold optionalStringArray
  cases o with
  | none => rw [optionalArray_eq_ok (o := none) h]; rfl
  | some l =>
    rw [optionalArray_eq_ok (o := some (l.map .string)) h, Except.ok_bind]
    dsimp only
    rw [collectStrings_map]
    rfl

/-- A list of strings is read back, in either of its forms. -/
theorem stringOrArrayValue_cases (l : List Text) :
    (∃ s, l = [s] ∧ stringOrArrayValue l = .string s) ∨
      stringOrArrayValue l = .array (l.map .string) := by
  match l with
  | [] => exact .inr rfl
  | [s] => exact .inl ⟨s, rfl, rfl⟩
  | _ :: _ :: _ => exact .inr rfl

/-- A list that may be absent is read back, when it is absent just when it is empty. -/
theorem stringOrArray_eq_ok (toJson : List Text → Value) (l : List Text)
    (h : obj.get key = if l.isEmpty then none else some (toJson l))
    (hform : toJson l = stringOrArrayValue l ∨ toJson l = .strings l) :
    stringOrArray obj key = .ok l := by
  unfold stringOrArray
  rw [h]
  split_ifs with hempty
  · rw [List.isEmpty_iff.mp hempty]
  · have hstrings : toJson l = .array (l.map .string) ∨ ∃ s, l = [s] ∧ toJson l = .string s := by
      rcases hform with hform | hform
      · rcases stringOrArrayValue_cases l with ⟨s, hl, hs⟩ | harray
        · exact .inr ⟨s, hl, hform.trans hs⟩
        · exact .inl (hform.trans harray)
      · exact .inl hform
    rcases hstrings with harray | ⟨s, hl, hs⟩
    · rw [harray]
      exact collectStrings_map _ l
    · rw [hs, hl]

/-- A list that may be absent is read back element by element. -/
theorem parseArray_eq_ok {α : Type} {encode : α → Value} {decode : Value → Except DIDDocError α}
    (hcodec : RoundTrips encode decode) (l : List α)
    (h : obj.get key = if l.isEmpty then none else some (.array (l.map encode))) :
    parseArray decode obj key = .ok l := by
  unfold parseArray
  split_ifs at h with hempty
  · rw [optionalArray_eq_ok (o := none) h, List.isEmpty_iff.mp hempty]
    rfl
  · rw [optionalArray_eq_ok (o := some (l.map encode)) h, Except.ok_bind]
    exact hcodec.mapM l

end DIDDoc

open DIDDoc

/-! ## Keys -/

theorem KeyUse.tryFromStr_toText (use : KeyUse) : tryFromStr use.toText = .ok use := by
  cases use <;> rfl

theorem parseKeyUse_eq_ok (o : Option KeyUse)
    (h : obj.get "use" = o.map fun use => .string use.toText) : parseKeyUse obj = .ok o := by
  unfold parseKeyUse
  rw [h]
  cases o with
  | none => rfl
  | some use =>
    show (KeyUse.tryFromStr use.toText).map some = _
    rw [KeyUse.tryFromStr_toText]
    rfl

/-- The options are read back from an object that holds their members after others. -/
theorem JwkOptions.tryFromJson_eq_ok (o : JwkOptions) {l : List (Text × Value)}
    (huse : (OrdMap.ofList l).get (Text.lit "use") = none)
    (hkeyOps : (OrdMap.ofList l).get (Text.lit "key_ops") = none)
    (halg : (OrdMap.ofList l).get (Text.lit "alg") = none)
    (hkid : (OrdMap.ofList l).get (Text.lit "kid") = none) :
    tryFromJson (OrdMap.ofList (l ++ o.toFields)) = .ok o := by
  unfold tryFromJson
  rw [parseKeyUse_eq_ok o.use, Except.ok_bind, optionalStringArray_eq_ok o.keyOps, Except.ok_bind,
    optionalString_eq_ok o.alg, Except.ok_bind, optionalString_eq_ok o.kid]
  · rfl
  all_goals
    simp [toFields, OrdMap.get_ofList_append, OrdMap.get_ofList_toList, Text.lit_inj, *]

/-- A member before those of the options is read. -/
theorem JwkOptions.requiredString_eq_ok (o : JwkOptions) {l : List (Text × Value)} {s : Text}
    (h : (OrdMap.ofList l).get key = some (.string s))
    (hkey : (OrdMap.ofList o.toFields).get key = none) :
    requiredString (OrdMap.ofList (l ++ o.toFields)) key = .ok s := by
  refine DIDDoc.requiredString_eq_ok ?_
  show (OrdMap.ofList (l ++ o.toFields)).get key = _
  rw [OrdMap.get_ofList_append, hkey, Option.none_or, h]

/-- The options have no other members. -/
theorem JwkOptions.get_toFields_eq_none (o : JwkOptions)
    (h : key ∉ ["use", "key_ops", "alg", "kid"].map Text.lit) :
    (OrdMap.ofList o.toFields).get key = none := by
  simp only [List.map_cons, List.map_nil, List.mem_cons, List.not_mem_nil, or_false,
    not_or] at h
  simp only [toFields, OrdMap.get_ofList_append, OrdMap.get_ofList_toList, if_neg h.1,
    if_neg h.2.1, if_neg h.2.2.1, if_neg h.2.2.2, Option.or_none]

/-- Keys of any type, with any options, are read back. -/
theorem PublicKeyJWK.roundTrips : RoundTrips toJson tryFromJson := by
  intro jwk
  -- The fields of each type are found under their names, which no option has.
  cases jwk with
  | ec crv x y o =>
    show tryFromJson (.object _) = _
    unfold tryFromJson
    rw [Value.asObject, Option.okOr_some, Except.ok_bind,
      o.requiredString_eq_ok (s := "EC"), Except.ok_bind, if_pos rfl,
      o.requiredString_eq_ok (s := crv), Except.ok_bind, o.requiredString_eq_ok (s := x),
      Except.ok_bind, o.requiredString_eq_ok (s := y), Except.ok_bind, o.tryFromJson_eq_ok]
    · rfl
    all_goals first
      | simp [OrdMap.get_ofList_cons, OrdMap.get_ofList_nil, Text.lit_inj]
      | exact o.get_toFields_eq_none (by simp [Text.lit_inj])
  | okp crv x o =>
    show tryFromJson (.object _) = _
    unfold tryFromJson
    rw [Value.asObject, Option.okOr_some, Except.ok_bind,
      o.requiredString_eq_ok (s := "OKP"), Except.ok_bind, if_neg (by simp), if_pos rfl,
      o.requiredString_eq_ok (s := crv), Except.ok_bind, o.requiredString_eq_ok (s := x),
      Except.ok_bind, o.tryFromJson_eq_ok]
    · rfl
    all_goals first
      | simp [OrdMap.get_ofList_cons, OrdMap.get_ofList_nil, Text.lit_inj]
      | exact o.get_toFields_eq_none (by simp [Text.lit_inj])
  | rsa n e o =>
    show tryFromJson (.object _) = _
    unfold tryFromJson
    rw [Value.asObject, Option.okOr_some, Except.ok_bind,
      o.requiredString_eq_ok (s := "RSA"), Except.ok_bind, if_neg (by simp), if_neg (by simp),
      if_pos rfl, o.requiredString_eq_ok (s := n), Except.ok_bind,
      o.requiredString_eq_ok (s := e), Except.ok_bind, o.tryFromJson_eq_ok]
    · rfl
    all_goals first
      | simp [OrdMap.get_ofList_cons, OrdMap.get_ofList_nil, Text.lit_inj]
      | exact o.get_toFields_eq_none (by simp [Text.lit_inj])

theorem PublicKeyMultibase.fromStr_toText (mb : PublicKeyMultibase) :
    fromStr X mb.toText = .ok mb := by
  have hdecode : X.bs58Decode (Base58.encode mb.key) = .ok mb.key :=
    X.bs58Decode_eq_ok_iff.mpr (Base58.decode_encode mb.key)
  unfold toText fromStr
  dsimp only
  rw [if_pos rfl, hdecode]
  rfl

/-! ## Parts of a document -/

/-- Either key is read back from the member that tells its form. -/
theorem DIDDoc.publicKeyFromJson_eq_ok (publicKey : PublicKey)
    (hjwk : obj.get "publicKeyJwk" =
      match publicKey with
      | .jwk jwk => some jwk.toJson
      | .multibase _ => none)
    (hmultibase : obj.get "publicKeyMultibase" =
      match publicKey with
      | .jwk _ => none
      | .multibase mb => some (.string mb.toText)) :
    publicKeyFromJson X obj = .ok publicKey := by
  unfold publicKeyFromJson
  cases publicKey with
  | jwk jwk =>
    rw [hjwk]
    dsimp only
    rw [PublicKeyJWK.roundTrips jwk]
    rfl
  | multibase mb =>
    rw [hjwk, hmultibase]
    dsimp only [Option.bind_some, Value.asStr]
    rw [PublicKeyMultibase.fromStr_toText]
    rfl

theorem VerificationMethod.roundTrips : RoundTrips toJson (vmFromJson X) := by
  intro vm
  show vmFromJson X (.object _) = _
  unfold vmFromJson
  rw [Value.asObject, Option.okOr_some, Except.ok_bind, requiredString_eq_ok (s := vm.id),
    Except.ok_bind, requiredString_eq_ok (s := vm.type), Except.ok_bind,
    requiredString_eq_ok (s := vm.controller), Except.ok_bind,
    publicKeyFromJson_eq_ok vm.publicKey]
  · rfl
  all_goals
    cases vm.publicKey <;> simp [OrdMap.get_ofList_cons, OrdMap.get_ofList_nil, Text.lit_inj]

/-- Only a reference has the form of a string. -/
theorem VerificationMethodOrRef.roundTrips : RoundTrips toJson (vmOrRefFromJson X) := by
  intro r
  unfold vmOrRefFromJson
  cases r with
  | reference url => rfl
  | embedded vm =>
    show (vmFromJson X vm.toJson).map embedded = _
    rw [VerificationMethod.roundTrips vm]
    rfl

theorem DIDDoc.serviceTypeFromJson_eq_ok (types : List Text)
    (h : obj.get "type" = some (stringOrArrayValue types)) :
    serviceTypeFromJson obj = .ok types := by
  unfold serviceTypeFromJson
  rw [h]
  rcases stringOrArrayValue_cases types with ⟨s, htypes, hs⟩ | harray
  · rw [hs, htypes]
  · rw [harray]
    exact collectStrings_map _ types

/-- A service is read back, whatever its endpoint is. -/
theorem Service.roundTrips : RoundTrips toJson serviceFromJson := by
  intro service
  show serviceFromJson (.object _) = _
  unfold serviceFromJson
  rw [Value.asObject, Option.okOr_some, Except.ok_bind, requiredString_eq_ok (s := service.id),
    Except.ok_bind, serviceTypeFromJson_eq_ok service.type, Except.ok_bind]
  · simp [OrdMap.get_ofList_cons, OrdMap.get_ofList_nil, Text.lit_inj]
  all_goals simp [OrdMap.get_ofList_cons, OrdMap.get_ofList_nil, Text.lit_inj]

/-! ## Documents -/

/-- The member for a list is there if the list is not empty. -/
theorem get_listField {α : Type} (toJson : List α → Value) (l : List α) (k : Text) :
    (OrdMap.ofList (listField key toJson l)).get k =
      if k = key then if l.isEmpty then none else some (toJson l) else none := by
  unfold listField
  cases l with
  | nil => exact (ite_self none).symm
  | cons a l =>
    show (OrdMap.ofList [(key, toJson (a :: l))]).get k =
      if k = key then some (toJson (a :: l)) else none
    rw [OrdMap.get_ofList_cons, OrdMap.get_ofList_nil, Option.none_or]
    split_ifs <;> rfl

/-- A document is read back from its JSON-LD form. -/
theorem DIDDoc.tryFromJson_toJson (doc : DIDDoc) : tryFromJson X doc.toJson = .ok doc := by
  show tryFromJson X (.object _) = _
  unfold tryFromJson
  have hrefs := VerificationMethodOrRef.roundTrips (X := X)
  rw [Value.asObject, Option.okOr_some, Except.ok_bind, requiredString_eq_ok (s := doc.id),
    stringOrArray_eq_ok .strings doc.alsoKnownAs _ (.inr rfl),
    stringOrArray_eq_ok stringOrArrayValue doc.controller _ (.inl rfl),
    parseArray_eq_ok VerificationMethod.roundTrips doc.verificationMethod,
    parseArray_eq_ok hrefs doc.authentication, parseArray_eq_ok hrefs doc.assertionMethod,
    parseArray_eq_ok hrefs doc.keyAgreement, parseArray_eq_ok hrefs doc.capabilityInvocation,
    parseArray_eq_ok hrefs doc.capabilityDelegation,
    parseArray_eq_ok Service.roundTrips doc.service]
  all_goals
    simp [OrdMap.get_ofList_append, get_listField, OrdMap.get_ofList_cons, Text.lit_inj]

/-- Documents round-trip, whatever they hold. -/
theorem didDoc_roundTrips : RoundTrips DIDDoc.toJson (DIDDoc.tryFromJson X) :=
  DIDDoc.tryFromJson_toJson

end Swiyu
