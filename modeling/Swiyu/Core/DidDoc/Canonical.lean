import Swiyu.Core.DidDoc.RoundTrip

/-!
# Documents in the form they are written in

A document that was read is not always written as it was: members that the data model does not know
are lost, and lists have several forms. This is the form of the documents that are.

## Main definitions

- `Swiyu.DIDDoc.IsCanonical`: the form that documents are written in.

## Main results

- `Swiyu.DIDDoc.writesBack`: the documents that are written as they were read.
-/

namespace Swiyu

open Json

variable {X : Crates} {obj : Object} {key : Text}

/-! ## The form -/

/-- The members of the options of a JWK. -/
def JwkOptions.memberNames : List Text := ["use", "key_ops", "alg", "kid"]

/-- The members of a JWK of the given type. -/
def PublicKeyJWK.memberNames (kty : Text) : List Text :=
  let own : List Text :=
    if kty = Text.lit "EC" then ["kty", "crv", "x", "y"]
    else if kty = Text.lit "OKP" then ["kty", "crv", "x"]
    else ["kty", "n", "e"]
  own ++ JwkOptions.memberNames

/-- A JWK without members of no meaning. -/
def PublicKeyJWK.IsCanonical (v : Value) : Prop :=
  ∀ (obj : Object) kty, v = .object obj → obj.get "kty" = some (.string kty) →
    HasOnly (memberNames kty) obj

/-- A verification method without members of no meaning, in which a JWK does not stand beside a
multibase string. -/
structure VerificationMethod.IsCanonical (obj : Object) : Prop where
  members : HasOnly ["id", "type", "controller", "publicKeyJwk", "publicKeyMultibase"] obj
  jwk (v : Value) : obj.get "publicKeyJwk" = some v →
    obj.get "publicKeyMultibase" = none ∧ PublicKeyJWK.IsCanonical v

/-- A service without members of no meaning, in which a single type does not stand in an array. -/
structure Service.IsCanonical (obj : Object) : Prop where
  members : HasOnly ["id", "type", "serviceEndpoint"] obj
  type (v : Value) : obj.get "type" ≠ some (.array [v])

/-- The object, if the value is one, is of the given form. -/
def OfObject (IsForm : Object → Prop) (v : Value) : Prop := ∀ obj, v = .object obj → IsForm obj

/-- The array, if there is one, is not empty, and its elements are of the given form. -/
def OfArray (IsForm : Value → Prop) (field : Option Value) : Prop :=
  ∀ arr, field = some (.array arr) → arr ≠ [] ∧ ∀ v ∈ arr, IsForm v

namespace DIDDoc

/-- The members of a document. -/
def memberNames : List Text :=
  ["@context", "id", "alsoKnownAs", "controller", "verificationMethod", "authentication",
    "assertionMethod", "keyAgreement", "capabilityInvocation", "capabilityDelegation", "service"]

/-- A document as it is written: without members of no meaning and without empty lists, its names in
an array, and a single controller not in an array. -/
structure IsCanonical (obj : Object) : Prop where
  members : HasOnly memberNames obj
  alsoKnownAs (v : Value) : obj.get "alsoKnownAs" = some v → ∃ arr, v = .array arr ∧ arr ≠ []
  controller (arr : List Value) : obj.get "controller" = some (.array arr) → 2 ≤ arr.length
  verificationMethod :
    OfArray (OfObject VerificationMethod.IsCanonical) (obj.get "verificationMethod")
  relationships : ∀ key ∈ [Text.lit "authentication", "assertionMethod", "keyAgreement",
    "capabilityInvocation", "capabilityDelegation"],
    OfArray (OfObject VerificationMethod.IsCanonical) (obj.get key)
  service : OfArray (OfObject Service.IsCanonical) (obj.get "service")

/-! ## Fields -/

theorem requiredString_eq_ok_iff {s : Text} :
    requiredString obj key = .ok s ↔ obj.get key = some (.string s) := by
  refine ⟨fun h => ?_, requiredString_eq_ok⟩
  simp only [requiredString, Except.bind_eq_ok_iff, Option.okOr_eq_ok_iff] at h
  obtain ⟨v, hv, hs⟩ := h
  rw [hv, Value.asStr_eq_some_iff.mp hs]

theorem optionalString_eq_ok_iff {o : Option Text} :
    optionalString obj key = .ok o ↔ obj.get key = o.map Value.string := by
  refine ⟨fun h => ?_, optionalString_eq_ok o⟩
  unfold optionalString at h
  cases hget : obj.get key with
  | none =>
    rw [hget] at h
    rw [← Except.ok.inj h]
    rfl
  | some v =>
    rw [hget] at h
    simp only [Except.map_eq_ok_iff, Option.okOr_eq_ok_iff] at h
    obtain ⟨s, hs, rfl⟩ := h
    rw [Value.asStr_eq_some_iff.mp hs]
    rfl

theorem optionalArray_eq_ok_iff {o : Option (List Value)} :
    optionalArray obj key = .ok o ↔ obj.get key = o.map Value.array := by
  refine ⟨fun h => ?_, optionalArray_eq_ok⟩
  unfold optionalArray at h
  cases hget : obj.get key with
  | none =>
    rw [hget] at h
    rw [← Except.ok.inj h]
    rfl
  | some v =>
    rw [hget] at h
    simp only [Except.map_eq_ok_iff, Option.okOr_eq_ok_iff] at h
    obtain ⟨arr, harr, rfl⟩ := h
    rw [Value.asArray_eq_some_iff.mp harr]
    rfl

theorem collectStrings_eq_ok_iff {e : DIDDocError} {arr : List Value} {l : List Text} :
    collectStrings e arr = .ok l ↔ arr = l.map Value.string := by
  refine ⟨fun h => ?_, fun h => h ▸ collectStrings_map e l⟩
  induction Except.mapM_eq_ok_iff.mp h with
  | nil => rfl
  | cons hv hrest ih =>
    rw [List.map_cons, ← ih (Except.mapM_eq_ok_iff.mpr hrest),
      Value.asStr_eq_some_iff.mp (Option.okOr_eq_ok_iff.mp hv)]

theorem optionalStringArray_eq_ok_iff {o : Option (List Text)} :
    optionalStringArray obj key = .ok o ↔ obj.get key = o.map Value.strings := by
  refine ⟨fun h => ?_, optionalStringArray_eq_ok o⟩
  simp only [optionalStringArray, Except.bind_eq_ok_iff, optionalArray_eq_ok_iff] at h
  obtain ⟨arr, hget, harr⟩ := h
  rw [hget]
  cases arr with
  | none =>
    rw [← Except.ok.inj harr]
    rfl
  | some arr =>
    simp only [Except.map_eq_ok_iff, collectStrings_eq_ok_iff] at harr
    obtain ⟨l, rfl, rfl⟩ := harr
    rfl

/-- The forms of a list of strings. -/
theorem stringOrArray_eq_ok_iff {l : List Text} : stringOrArray obj key = .ok l ↔
    obj.get key = none ∧ l = [] ∨ (∃ s, obj.get key = some (.string s) ∧ l = [s]) ∨
      obj.get key = some (.strings l) := by
  unfold stringOrArray
  split <;> rename_i hget
  · rw [hget]
    simp [eq_comm]
  · rw [hget]
    simp [eq_comm, Value.strings]
  · rw [hget, collectStrings_eq_ok_iff]
    simp [Value.strings]
  · rename_i v hstr harr
    -- A value of another type is none of the forms.
    refine ⟨fun h => (by cases h), fun h => ?_⟩
    rcases h with ⟨hnone, -⟩ | ⟨s, hs, -⟩ | hl
    · rw [hget] at hnone
      cases hnone
    · rw [hget] at hs
      exact absurd (Option.some.inj hs) (hstr s)
    · rw [hget] at hl
      exact absurd (Option.some.inj hl) (harr _)

/-- The forms of a list. -/
theorem parseArray_eq_ok_iff {α : Type} {parse : Value → Except DIDDocError α} {l : List α} :
    parseArray parse obj key = .ok l ↔ obj.get key = none ∧ l = [] ∨
      ∃ arr, obj.get key = some (.array arr) ∧ arr.mapM parse = .ok l := by
  simp only [parseArray, Except.bind_eq_ok_iff, optionalArray_eq_ok_iff]
  constructor
  · rintro ⟨arr, hget, hread⟩
    cases arr with
    | none => exact .inl ⟨hget, (Except.ok.inj hread).symm⟩
    | some arr => exact .inr ⟨arr, hget, hread⟩
  · intro h
    rcases h with ⟨hget, hl⟩ | ⟨arr, hget, hread⟩
    · exact ⟨none, hget, congrArg Except.ok hl.symm⟩
    · exact ⟨some arr, hget, hread⟩

/-! ## Lists -/

/-- When an array that was read is written back as it was. -/
theorem arrayField_eq_iff {α : Type} {encode : α → Value} {parse : Value → Except DIDDocError α}
    {IsForm : Value → Prop} (h : WritesBack encode parse IsForm) {l : List α}
    (hread : parseArray parse obj key = .ok l) :
    (if l.isEmpty then none else some (.array (l.map encode))) = obj.get key ↔
      OfArray IsForm (obj.get key) := by
  rcases parseArray_eq_ok_iff.mp hread with ⟨hget, rfl⟩ | ⟨arr, hget, hl⟩
  · rw [hget]
    exact ⟨fun _ arr harr => (by cases harr), fun _ => rfl⟩
  · have hlength : l = [] ↔ arr = [] := by
      have heq := (Except.mapM_eq_ok_iff.mp hl).length_eq
      rw [← List.length_eq_zero_iff, ← List.length_eq_zero_iff, heq]
    have hform : OfArray IsForm (some (.array arr)) ↔ arr ≠ [] ∧ ∀ v ∈ arr, IsForm v := by
      constructor
      · exact fun h => h arr rfl
      · intro h arr' harr'
        obtain rfl : arr = arr' := by simpa using harr'
        exact h
    rw [hget, hform, ← h.map_eq_iff hl]
    by_cases hempty : l = []
    · simp [hempty, hlength.mp hempty]
    · simp [hempty, mt hlength.mpr hempty]

/-- When names are written back as they were. -/
theorem alsoKnownAs_eq_iff {l : List Text} (hread : stringOrArray obj key = .ok l) :
    (if l.isEmpty then none else some (.strings l)) = obj.get key ↔
      ∀ v, obj.get key = some v → ∃ arr, v = .array arr ∧ arr ≠ [] := by
  rcases stringOrArray_eq_ok_iff.mp hread with ⟨hget, rfl⟩ | ⟨s, hget, rfl⟩ | hget
  · rw [hget]
    simp
  · rw [hget]
    simp [Value.strings]
  · rw [hget]
    by_cases hempty : l = []
    · simp [hempty, Value.strings]
    · simp [hempty, Value.strings]

/-- When controllers are written back as they were. -/
theorem controller_eq_iff {l : List Text} (hread : stringOrArray obj key = .ok l) :
    (if l.isEmpty then none else some (stringOrArrayValue l)) = obj.get key ↔
      ∀ arr, obj.get key = some (.array arr) → 2 ≤ arr.length := by
  rcases stringOrArray_eq_ok_iff.mp hread with ⟨hget, rfl⟩ | ⟨s, hget, rfl⟩ | hget
  · rw [hget]
    simp
  · rw [hget]
    simp [stringOrArrayValue]
  · rw [hget]
    match l with
    | [] => simp [Value.strings]
    | [s] => simp [Value.strings, stringOrArrayValue]
    | s :: s' :: l => simp [Value.strings, stringOrArrayValue]

end DIDDoc

open DIDDoc

/-! ## Keys -/

theorem parseKeyUse_eq_ok_iff {o : Option KeyUse} : parseKeyUse obj = .ok o ↔
    obj.get "use" = o.map fun use => Value.string use.toText := by
  refine ⟨fun h => ?_, parseKeyUse_eq_ok o⟩
  unfold parseKeyUse at h
  cases hget : obj.get "use" with
  | none =>
    rw [hget] at h
    rw [← Except.ok.inj h]
    rfl
  | some v =>
    rw [hget] at h
    simp only [Except.bind_eq_ok_iff, Except.map_eq_ok_iff, Option.okOr_eq_ok_iff] at h
    obtain ⟨s, hs, use, huse, rfl⟩ := h
    have htext : use.toText = s := by
      unfold KeyUse.tryFromStr at huse
      split_ifs at huse with hsig henc
      · rw [hsig, ← Except.ok.inj huse]
        rfl
      · rw [henc, ← Except.ok.inj huse]
        rfl
    rw [Value.asStr_eq_some_iff.mp hs, Option.map_some, htext]

theorem JwkOptions.tryFromJson_eq_ok_iff {o : JwkOptions} : tryFromJson obj = .ok o ↔
    obj.get "use" = (o.use.map fun use => Value.string use.toText) ∧
    obj.get "key_ops" = o.keyOps.map Value.strings ∧
    obj.get "alg" = o.alg.map Value.string ∧ obj.get "kid" = o.kid.map Value.string := by
  simp only [tryFromJson, Except.bind_eq_ok_iff, parseKeyUse_eq_ok_iff,
    optionalStringArray_eq_ok_iff, optionalString_eq_ok_iff]
  constructor
  · rintro ⟨use, huse, keyOps, hkeyOps, alg, halg, kid, hkid, ho⟩
    obtain rfl := Except.ok.inj ho
    exact ⟨huse, hkeyOps, halg, hkid⟩
  · rintro ⟨huse, hkeyOps, halg, hkid⟩
    exact ⟨_, huse, _, hkeyOps, _, halg, _, hkid, rfl⟩

/-- The members of options are written back. -/
theorem JwkOptions.get_toFields {o : JwkOptions} (h : tryFromJson obj = .ok o) :
    ∀ key ∈ memberNames, (OrdMap.ofList o.toFields).get key = obj.get key := by
  obtain ⟨huse, hkeyOps, halg, hkid⟩ := tryFromJson_eq_ok_iff.mp h
  unfold memberNames
  simp only [List.forall_mem_cons]
  refine ⟨?_, ?_, ?_, ?_, by simp⟩
  · rw [huse]
    simp [toFields, OrdMap.get_ofList_append, OrdMap.get_ofList_toList]
  · rw [hkeyOps]
    simp [toFields, OrdMap.get_ofList_append, OrdMap.get_ofList_toList]
  · rw [halg]
    simp [toFields, OrdMap.get_ofList_append, OrdMap.get_ofList_toList]
  · rw [hkid]
    simp [toFields, OrdMap.get_ofList_append, OrdMap.get_ofList_toList]

/-- Members before those of the options are written back with them, if there are no others. -/
theorem JwkOptions.ofFields_eq_object_iff {o : JwkOptions} (h : tryFromJson obj = .ok o)
    (names : List Text) (hnodup : names.Nodup) (hnames : ∀ key ∈ names, key ∉ memberNames)
    {own : List (Text × Value)} (hkeys : own.map Prod.fst = names)
    (hown : ∀ p ∈ own, obj.get p.1 = some p.2) :
    Value.ofFields (own ++ o.toFields) = .object obj ↔ HasOnly (names ++ memberNames) obj := by
  subst hkeys
  have hkeys : ∀ p ∈ own ++ o.toFields, p.1 ∈ own.map Prod.fst ++ memberNames := by
    intro p hp
    rcases List.mem_append.mp hp with hp | hp
    · exact List.mem_append_left _ (List.mem_map_of_mem hp)
    · refine List.mem_append_right _ ?_
      simp only [toFields, List.mem_append, Option.mem_toList, Option.map_eq_some_iff] at hp
      rcases hp with ((⟨_, _, rfl⟩ | ⟨_, _, rfl⟩) | ⟨_, _, rfl⟩) | ⟨_, _, rfl⟩ <;>
        simp [memberNames]
  rw [Json.ofFields_eq_object_iff _ hkeys]
  refine and_iff_right fun key hkey => ?_
  rw [OrdMap.get_ofList_append]
  rcases List.mem_append.mp hkey with hkey | hkey
  · obtain ⟨p, hp, rfl⟩ := List.mem_map.mp hkey
    rw [o.get_toFields_eq_none (hnames _ hkey), Option.none_or, hown p hp]
    exact (OrdMap.get_ofList_eq_some_iff hnodup).mpr hp
  · have hnone : (OrdMap.ofList own).get key = none := by
      by_contra hne
      obtain ⟨v, hv⟩ := Option.ne_none_iff_exists'.mp hne
      have hmem := (OrdMap.get_ofList_eq_some_iff hnodup).mp hv
      exact hnames key (List.mem_map_of_mem hmem) hkey
    rw [hnone, Option.or_none, get_toFields h key hkey]

/-- A JWK is written back when its object has no other members. -/
theorem PublicKeyJWK.writesBack : WritesBack toJson tryFromJson IsCanonical := by
  intro v jwk h
  simp only [tryFromJson, Except.bind_eq_ok_iff, Option.okOr_eq_ok_iff,
    Value.asObject_eq_some_iff, requiredString_eq_ok_iff] at h
  obtain ⟨obj, rfl, kty, hkty, h⟩ := h
  -- Which members a JWK may have depends on its type.
  have hform : IsCanonical (.object obj) ↔ HasOnly (memberNames kty) obj := by
    constructor
    · exact fun h => h obj kty rfl hkty
    · intro h obj' kty' hobj hkty'
      obtain rfl := Value.object.inj hobj
      rw [hkty] at hkty'
      obtain rfl : kty = kty' := by simpa using hkty'
      exact h
  rw [hform]
  split_ifs at h with hec hokp hrsa
  · simp only [Except.bind_eq_ok_iff, requiredString_eq_ok_iff] at h
    obtain ⟨crv, hcrv, x, hx, y, hy, o, ho, hjwk⟩ := h
    obtain rfl := Except.ok.inj hjwk
    obtain rfl := hec
    exact JwkOptions.ofFields_eq_object_iff ho ["kty", "crv", "x", "y"] (by decide) (by decide) rfl
      (by simp [*])
  · simp only [Except.bind_eq_ok_iff, requiredString_eq_ok_iff] at h
    obtain ⟨crv, hcrv, x, hx, o, ho, hjwk⟩ := h
    obtain rfl := Except.ok.inj hjwk
    obtain rfl := hokp
    exact JwkOptions.ofFields_eq_object_iff ho ["kty", "crv", "x"] (by decide) (by decide) rfl
      (by simp [*])
  · simp only [Except.bind_eq_ok_iff, requiredString_eq_ok_iff] at h
    obtain ⟨n, hn, e, he, o, ho, hjwk⟩ := h
    obtain rfl := Except.ok.inj hjwk
    obtain rfl := hrsa
    exact JwkOptions.ofFields_eq_object_iff ho ["kty", "n", "e"] (by decide) (by decide) rfl
      (by simp [*])

/-! ## Parts of a document -/

theorem PublicKeyMultibase.toText_of_fromStr {s : Text} {mb : PublicKeyMultibase}
    (h : fromStr X s = .ok mb) : mb.toText = s := by
  unfold fromStr at h
  split at h
  · cases h
  · split_ifs at h with hz
    simp only [Except.bind_eq_ok_iff, Except.mapError_eq_ok_iff, X.bs58Decode_eq_ok_iff] at h
    obtain ⟨key, hkey, hmb⟩ := h
    obtain rfl := Except.ok.inj hmb
    rw [toText, hz, Base58.decode_eq_some_iff.mp hkey]

theorem ofObject_iff {P : Object → Prop} : OfObject P (.object obj) ↔ P obj := by
  constructor
  · exact fun h => h obj rfl
  · intro h obj' hobj
    rwa [← Value.object.inj hobj]

/-- A verification method is written back when its object has no other members. -/
theorem VerificationMethod.writesBack :
    WritesBack toJson (vmFromJson X) (OfObject IsCanonical) := by
  intro v vm h
  simp only [vmFromJson, Except.bind_eq_ok_iff, Option.okOr_eq_ok_iff, Value.asObject_eq_some_iff,
    requiredString_eq_ok_iff] at h
  obtain ⟨obj, rfl, id, hid, type, htype, controller, hcontroller, publicKey, hkey, hvm⟩ := h
  obtain rfl := Except.ok.inj hvm
  rw [ofObject_iff]
  unfold toJson
  rw [Json.ofFields_eq_object_iff ["id", "type", "controller", "publicKeyJwk",
    "publicKeyMultibase"] (by cases publicKey <;> simp)]
  unfold publicKeyFromJson at hkey
  -- The key is read from the JWK when there is one, and from the multibase text otherwise.
  cases hjwk : obj.get "publicKeyJwk" with
  | some w =>
    rw [hjwk] at hkey
    obtain ⟨jwk, hread, rfl⟩ := Except.map_eq_ok_iff.mp hkey
    have hwrite := PublicKeyJWK.writesBack w jwk hread
    constructor
    · rintro ⟨hkeys, honly⟩
      refine ⟨honly, fun v hv => ?_⟩
      obtain rfl : w = v := Option.some.inj (hjwk.symm.trans hv)
      have hboth :=
        And.intro (hkeys "publicKeyJwk" (by simp)) (hkeys "publicKeyMultibase" (by simp))
      simp only [OrdMap.get_ofList_cons, OrdMap.get_ofList_nil, Text.lit_inj, hjwk] at hboth
      exact ⟨by simpa using hboth.2.symm, hwrite.mp (by simpa using hboth.1)⟩
    · intro h
      obtain ⟨hnone, hform⟩ := h.jwk w hjwk
      refine ⟨?_, h.members⟩
      simp [OrdMap.get_ofList_cons, OrdMap.get_ofList_nil, Text.lit_inj, hid, htype, hcontroller,
        hjwk, hnone, hwrite.mpr hform]
  | none =>
    rw [hjwk] at hkey
    dsimp only at hkey
    split at hkey
    · rename_i s hs
      obtain ⟨mb, hread, rfl⟩ := Except.map_eq_ok_iff.mp hkey
      obtain ⟨w, hmultibase, hw⟩ := Option.bind_eq_some_iff.mp hs
      obtain rfl := Value.asStr_eq_some_iff.mp hw
      constructor
      · exact fun h => ⟨h.2, fun v hv => absurd (hjwk.symm.trans hv) (by simp)⟩
      · intro h
        refine ⟨?_, h.members⟩
        simp [OrdMap.get_ofList_cons, OrdMap.get_ofList_nil, Text.lit_inj, hid, htype, hcontroller,
          hjwk, hmultibase, PublicKeyMultibase.toText_of_fromStr hread]
    · cases hkey

/-- So is one that may be a reference. -/
theorem VerificationMethodOrRef.writesBack :
    WritesBack toJson (vmOrRefFromJson X) (OfObject VerificationMethod.IsCanonical) := by
  intro v r h
  unfold vmOrRefFromJson at h
  split at h
  · rename_i s hs
    obtain rfl := Except.ok.inj h
    obtain rfl := Value.asStr_eq_some_iff.mp hs
    exact ⟨fun _ obj hobj => (by cases hobj), fun _ => rfl⟩
  · obtain ⟨vm, hread, rfl⟩ := Except.map_eq_ok_iff.mp h
    exact VerificationMethod.writesBack v vm hread

theorem DIDDoc.serviceTypeFromJson_eq_ok_iff {types : List Text} :
    serviceTypeFromJson obj = .ok types ↔
      (∃ s, obj.get "type" = some (.string s) ∧ types = [s]) ∨
        obj.get "type" = some (.strings types) := by
  unfold serviceTypeFromJson
  split <;> rename_i hget
  · rw [hget]
    simp [eq_comm, Value.strings]
  · rw [hget, collectStrings_eq_ok_iff]
    simp [Value.strings]
  · rename_i v hstr harr
    refine ⟨fun h => (by cases h), fun h => ?_⟩
    rcases h with ⟨s, hs, -⟩ | hl
    · rw [hget] at hs
      exact absurd (Option.some.inj hs) (hstr s)
    · rw [hget] at hl
      exact absurd (Option.some.inj hl) (harr _)
  · rw [hget]
    simp

/-- A service is written back when its object has no other members, and its type is in the form of
types. -/
theorem Service.writesBack : WritesBack toJson serviceFromJson (OfObject IsCanonical) := by
  intro v service h
  simp only [serviceFromJson, Except.bind_eq_ok_iff, Option.okOr_eq_ok_iff,
    Value.asObject_eq_some_iff, requiredString_eq_ok_iff, serviceTypeFromJson_eq_ok_iff] at h
  obtain ⟨obj, rfl, id, hid, types, htypes, endpoint, hendpoint, hservice⟩ := h
  obtain rfl := Except.ok.inj hservice
  rw [ofObject_iff]
  unfold toJson
  rw [Json.ofFields_eq_object_iff ["id", "type", "serviceEndpoint"] (by simp)]
  -- An array of one type is read like that type, and written without the array.
  have htype : stringOrArrayValue types = (obj.get "type").getD .null ↔
      ∀ v, obj.get "type" ≠ some (.array [v]) := by
    rcases htypes with ⟨s, hget, rfl⟩ | hget
    · rw [hget]
      simp [stringOrArrayValue]
    · rw [hget]
      -- No type, one type, or more than one.
      rcases types with _ | ⟨s, _ | ⟨s', l⟩⟩
      · simp [stringOrArrayValue, Value.strings]
      · simp [stringOrArrayValue, Value.strings]
      · simp [stringOrArrayValue, Value.strings]
  -- There is a type in either form, as its absence is an error.
  obtain ⟨w, hw⟩ : ∃ w, obj.get "type" = some w := by
    rcases htypes with ⟨s, hget, -⟩ | hget
    · exact ⟨_, hget⟩
    · exact ⟨_, hget⟩
  rw [hw, Option.getD_some] at htype
  constructor
  · rintro ⟨hkeys, honly⟩
    have hkey := hkeys "type" (by simp)
    simp only [OrdMap.get_ofList_cons, OrdMap.get_ofList_nil, Text.lit_inj, hw] at hkey
    refine ⟨honly, ?_⟩
    rw [hw]
    exact htype.mp (by simpa using hkey)
  · intro h
    have hform := h.type
    rw [hw] at hform
    refine ⟨?_, h.members⟩
    simp [OrdMap.get_ofList_cons, OrdMap.get_ofList_nil, Text.lit_inj, hid, hw, hendpoint,
      htype.mpr hform]

/-! ## Documents -/

/-- A document is written as it was read when it is in canonical form. -/
theorem DIDDoc.writesBack : WritesBack toJson (tryFromJson X) (OfObject IsCanonical) := by
  intro v doc h
  simp only [tryFromJson, Except.bind_eq_ok_iff, Option.okOr_eq_ok_iff,
    Value.asObject_eq_some_iff, requiredString_eq_ok_iff] at h
  obtain ⟨obj, rfl, context, hcontext, id, hid, names, hnames, controllers, hcontrollers, methods,
    hmethods, authentication, hauthentication, assertion, hassertion, agreement, hagreement,
    invocation, hinvocation, delegation, hdelegation, services, hservices, hdoc⟩ := h
  obtain rfl := Except.ok.inj hdoc
  -- The five relationships have elements of one kind.
  have hrefs := VerificationMethodOrRef.writesBack (X := X)
  rw [ofObject_iff]
  unfold toJson
  rw [Json.ofFields_eq_object_iff memberNames]
  · -- Member by member.
    simp only [memberNames, List.forall_mem_cons, OrdMap.get_ofList_append, get_listField,
      OrdMap.get_ofList_cons, OrdMap.get_ofList_nil, Text.lit_inj, String.reduceEq, ↓reduceIte,
      Option.none_or, Option.or_none, hcontext, hid, alsoKnownAs_eq_iff hnames,
      controller_eq_iff hcontrollers, arrayField_eq_iff VerificationMethod.writesBack hmethods,
      arrayField_eq_iff hrefs hauthentication, arrayField_eq_iff hrefs hassertion,
      arrayField_eq_iff hrefs hagreement, arrayField_eq_iff hrefs hinvocation,
      arrayField_eq_iff hrefs hdelegation, arrayField_eq_iff Service.writesBack hservices, true_and]
    constructor
    · rintro ⟨⟨haka, hcontroller, hmethod, hauth, hassert, hagree, hinvoke, hdelegate, hservice, _⟩,
        honly⟩
      refine ⟨honly, haka, hcontroller, hmethod, ?_, hservice⟩
      simp only [List.forall_mem_cons]
      exact ⟨hauth, hassert, hagree, hinvoke, hdelegate, fun _ h => (by cases h)⟩
    · intro h
      have hrelationships := h.relationships
      simp only [List.forall_mem_cons] at hrelationships
      obtain ⟨hauth, hassert, hagree, hinvoke, hdelegate, -⟩ := hrelationships
      exact ⟨⟨h.alsoKnownAs, h.controller, h.verificationMethod, hauth, hassert, hagree, hinvoke,
        hdelegate, h.service, fun _ h => (by cases h)⟩, h.members⟩
  · -- Only known members are written.
    have hlistField : ∀ {α : Type} (k : Text) (f : List α → Value) (l : List α),
        k ∈ memberNames → ∀ p ∈ listField k f l, p.1 ∈ memberNames := by
      intro α k f l hk p hp
      unfold listField at hp
      split_ifs at hp
      · cases hp
      · obtain rfl := List.mem_singleton.mp hp
        exact hk
    intro p hp
    simp only [List.mem_append] at hp
    rcases hp with (((((((((hp | hp) | hp) | hp) | hp) | hp) | hp) | hp) | hp) | hp)
    · simp only [List.mem_cons, List.not_mem_nil, or_false] at hp
      rcases hp with rfl | rfl <;> simp [memberNames]
    all_goals exact hlistField _ _ _ (by simp [memberNames]) p hp

end Swiyu
