import Swiyu.Core.Jws.Coordinates

/-!
# did:jwk identifiers

A `did:jwk` identifier is a public key: the base64url encoding of its JSON form.

## Main definitions

- `Swiyu.DIDJwk.fromJwk`: the identifier of a key.
- `Swiyu.DIDJwk.fromStr`: the key in an identifier, which need not be written in canonical form.

## Main results

- `Swiyu.DIDJwk.faithful`: an identifier tells its key with all that belongs to it.
-/

namespace Swiyu

open Json

/-- Third-party functions of `did:jwk`, in addition to those of JOSE objects. -/
structure DIDJwkCrates extends JoseCrates where
  /-- `serde_jcs::to_string`. -/
  jcsToString : Value → Except Text Text

/-- Why a text is no `did:jwk` identifier, or a key has none. -/
inductive DIDJwkError
  | missingPrefix
  | invalidBase64
  | invalidJson (msg : Text)
  | invalidJwk (msg : Text)
  | unsupportedAlgorithm (s : Text)
  | privateKeyMaterial
  | canonicalization (msg : Text)
  deriving DecidableEq

/-- The message of an error. -/
def DIDJwkError.toText : DIDJwkError → Text
  | missingPrefix => "input does not start with 'did:jwk:'"
  | invalidBase64 => "did:jwk suffix is not valid unpadded base64url"
  | invalidJson msg => Text.lit "did:jwk payload is not valid JSON: " ++ msg
  | invalidJwk msg => Text.lit "did:jwk payload is not a valid JWK: " ++ msg
  | unsupportedAlgorithm s => Text.lit "unsupported algorithm '" ++ s ++ "' in did:jwk payload"
  | privateKeyMaterial => "did:jwk payload contains private key material"
  | canonicalization msg => Text.lit "could not canonicalise JWK to JSON: " ++ msg

/-- A DID according to the `did:jwk` method: the identifier and its key. -/
structure DIDJwk where
  did : Text
  jwk : PublicKeyJWK
  deriving DecidableEq

namespace DIDJwk

/-- What identifiers start with. -/
def PREFIX : Text := "did:jwk:"

/-- Only Ed25519 and P-256 keys have an identifier. -/
def validateCurve : PublicKeyJWK → Except DIDJwkError Unit
  | .okp crv _ _ =>
    if crv = Text.lit "Ed25519" then .ok ()
    else .error (.unsupportedAlgorithm (Text.lit "OKP/" ++ crv))
  | .ec crv _ _ _ =>
    if crv = Text.lit "P-256" then .ok ()
    else .error (.unsupportedAlgorithm (Text.lit "EC/" ++ crv))
  | .rsa .. => .error (.unsupportedAlgorithm "RSA")

/-- The members that only private keys have. -/
def PRIVATE_FIELDS : List Text := ["d", "p", "q", "dp", "dq", "qi", "k"]

/-- The object has a member that only private keys have. -/
def hasPrivateKeyMaterial (obj : Object) : Bool :=
  PRIVATE_FIELDS.any fun field => (obj.get field).isSome

/-- A DID URL without its query and fragment. -/
def bareDid (suffix : Text) : Text := suffix.takeWhile fun c => c ≠ '#' ∧ c ≠ '?'

variable (X : DIDJwkCrates)

/-- The identifier of a key. -/
def fromJwk (jwk : PublicKeyJWK) : Except DIDJwkError DIDJwk := do
  validateCurve jwk
  let canonical ← (X.jcsToString jwk.toJson).mapError .canonicalization
  return { did := PREFIX ++ Base64Url.encode (Text.utf8 canonical), jwk }

/-- The key in a payload. -/
def jwkFromPayload (value : Value) : Except DIDJwkError PublicKeyJWK := do
  let obj ← value.asObject.okOr (.invalidJwk "payload is not a JSON object")
  Except.ensure (hasPrivateKeyMaterial obj = false) .privateKeyMaterial
  let kty ← ((obj.get "kty").bind Value.asStr).okOr (.invalidJwk "missing or non-string 'kty'")
  Except.ensure (kty = Text.lit "OKP" ∨ kty = Text.lit "EC") (.unsupportedAlgorithm kty)
  let jwk ← (PublicKeyJWK.tryFromJson value).mapError fun e => .invalidJwk e.toText
  validateCurve jwk
  return jwk

/-- Parses an identifier. The query and the fragment of a DID URL are dropped. -/
def fromStr (s : Text) : Except DIDJwkError DIDJwk := do
  let suffix ← (Text.stripPrefix PREFIX s).okOr .missingPrefix
  let suffix := bareDid suffix
  let decoded ← (X.base64Decode suffix).mapError fun _ => .invalidBase64
  let value ← (X.fromSlice decoded).mapError .invalidJson
  let jwk ← jwkFromPayload value
  return { did := PREFIX ++ suffix, jwk }

/-! ## Payloads -/

theorem jwkFromPayload_toJson {jwk : PublicKeyJWK} (h : validateCurve jwk = .ok ()) :
    jwkFromPayload jwk.toJson = .ok jwk := by
  have hread := PublicKeyJWK.roundTrips jwk
  -- The members are those of public keys.
  have hmembers : ∃ obj : Object, jwk.toJson = .object obj ∧ hasPrivateKeyMaterial obj = false ∧
      (obj.get "kty").bind Value.asStr = some jwk.kty := by
    cases jwk with
    | ec crv x y o =>
      refine ⟨_, rfl, ?_, ?_⟩
      · simp [hasPrivateKeyMaterial, PRIVATE_FIELDS, OrdMap.get_ofList_cons,
          o.get_toFields_eq_none, Text.lit_inj]
      · simp [OrdMap.get_ofList_cons, o.get_toFields_eq_none, Text.lit_inj, PublicKeyJWK.kty,
          Value.asStr]
    | okp crv x o =>
      refine ⟨_, rfl, ?_, ?_⟩
      · simp [hasPrivateKeyMaterial, PRIVATE_FIELDS, OrdMap.get_ofList_cons,
          o.get_toFields_eq_none, Text.lit_inj]
      · simp [OrdMap.get_ofList_cons, o.get_toFields_eq_none, Text.lit_inj, PublicKeyJWK.kty,
          Value.asStr]
    | rsa n e o => cases h
  -- Keys of the third type have no curve that is accepted.
  have hkty : jwk.kty = Text.lit "OKP" ∨ jwk.kty = Text.lit "EC" := by
    cases jwk with
    | ec => exact .inr rfl
    | okp => exact .inl rfl
    | rsa => cases h
  obtain ⟨obj, hobj, hprivate, hktyMember⟩ := hmembers
  have hasObject : jwk.toJson.asObject = some obj := by rw [hobj, Value.asObject]
  unfold jwkFromPayload
  simp only [hasObject, Option.okOr_some, Except.ok_bind, hprivate, hktyMember, Except.ensure,
    if_pos hkty, hread, Except.mapError, h, ↓reduceIte]
  rfl

theorem validateCurve_of_jwkFromPayload {value : Value} {jwk : PublicKeyJWK}
    (h : jwkFromPayload value = .ok jwk) : validateCurve jwk = .ok () := by
  simp only [jwkFromPayload, Except.bind_eq_ok_iff] at h
  obtain ⟨obj, _, _, _, kty, _, _, _, jwk', _, ⟨⟩, hcurve, hjwk⟩ := h
  obtain rfl : jwk' = jwk := Except.ok.inj hjwk
  exact hcurve

/-! ## Identifiers -/

/-- A query or a fragment does not belong to the identifier. -/
theorem bareDid_append {c : Char} (hc : c ∈ ['#', '?']) (suffix rest : Text) :
    bareDid (suffix ++ c :: rest) = bareDid suffix := by
  have hstop : ¬ (c ≠ '#' ∧ c ≠ '?') := by
    simp only [List.mem_cons, List.not_mem_nil, or_false] at hc
    rcases hc with rfl | rfl <;> simp
  unfold bareDid
  induction suffix with
  | nil => rw [List.nil_append, List.takeWhile_cons_of_neg (by simpa using hstop)]; rfl
  | cons d suffix ih => rw [List.cons_append, List.takeWhile_cons, List.takeWhile_cons, ih]

/-- An encoded payload has neither. -/
theorem bareDid_encode (bytes : Bytes) :
    bareDid (Base64Url.encode bytes) = Base64Url.encode bytes := by
  have halphabet : ∀ c ∈ Base64Url.alphabet, c ≠ '#' ∧ c ≠ '?' :=
    Text.forall_mem_of_all (by decide)
  unfold bareDid
  rw [List.takeWhile_eq_self_iff]
  intro c hc
  exact decide_eq_true (halphabet c (Base64Url.encode_subset bytes hc))

variable {X}

theorem fromStr_eq_ok_iff {s : Text} {did : DIDJwk} : fromStr X s = .ok did ↔
    ∃ suffix bytes value, s = PREFIX ++ suffix ∧ Base64Url.decode (bareDid suffix) = some bytes ∧
      (Text.fromUtf8 bytes).bind (Json.parse X.f64) = some value ∧
      jwkFromPayload value = .ok did.jwk ∧ did.did = PREFIX ++ bareDid suffix := by
  unfold fromStr
  simp only [Except.bind_eq_ok_iff, Option.okOr_eq_ok_iff, Text.stripPrefix_eq_some_iff,
    Except.mapError_eq_ok_iff, JoseCrates.base64Decode_eq_ok_iff, JoseCrates.fromSlice_eq_ok_iff]
  constructor
  · rintro ⟨suffix, hs, bytes, hbytes, value, hvalue, jwk, hjwk, hdid⟩
    obtain rfl := Except.ok.inj hdid
    exact ⟨suffix, bytes, value, hs, hbytes, hvalue, hjwk, rfl⟩
  · rintro ⟨suffix, bytes, value, hs, hbytes, hvalue, hjwk, hdid⟩
    refine ⟨suffix, hs, bytes, hbytes, value, hvalue, did.jwk, hjwk, ?_⟩
    rw [← hdid]
    rfl

theorem fromJwk_eq_ok_iff {jwk : PublicKeyJWK} {did : DIDJwk} : fromJwk X jwk = .ok did ↔
    validateCurve jwk = .ok () ∧ ∃ canonical, X.jcsToString jwk.toJson = .ok canonical ∧
      did = { did := PREFIX ++ Base64Url.encode (Text.utf8 canonical), jwk } := by
  unfold fromJwk
  simp only [Except.bind_eq_ok_iff, Except.mapError_eq_ok_iff]
  constructor
  · rintro ⟨_, hcurve, canonical, hcanonical, hdid⟩
    exact ⟨hcurve, canonical, hcanonical, (Except.ok.inj hdid).symm⟩
  · rintro ⟨hcurve, canonical, hcanonical, hdid⟩
    exact ⟨(), hcurve, canonical, hcanonical, congrArg Except.ok hdid.symm⟩

variable (X) in
/-- What is relied on for the canonical form of a key: there is one, and it is read back. -/
def ReadsBackKeys : Prop :=
  ∀ jwk : PublicKeyJWK, ∃ canonical, X.jcsToString jwk.toJson = .ok canonical ∧
    Json.parse X.f64 canonical = some jwk.toJson

/-- The identifier of a key is read back. -/
theorem fromStr_fromJwk (hX : ReadsBackKeys X) {jwk : PublicKeyJWK} {did : DIDJwk}
    (h : fromJwk X jwk = .ok did) : did.jwk = jwk ∧ fromStr X did.did = .ok did := by
  obtain ⟨hcurve, canonical, hcanonical, rfl⟩ := fromJwk_eq_ok_iff.mp h
  obtain ⟨canonical', hcanonical', hparse⟩ := hX jwk
  obtain rfl := Except.ok.inj (hcanonical.symm.trans hcanonical')
  refine ⟨rfl, fromStr_eq_ok_iff.mpr ⟨_, Text.utf8 canonical, jwk.toJson, rfl, ?_, ?_,
    jwkFromPayload_toJson hcurve, ?_⟩⟩
  · rw [bareDid_encode, Base64Url.decode_encode]
  · rw [Text.fromUtf8_utf8, Option.bind_some, hparse]
  · rw [bareDid_encode]

/-- A key that was read from an identifier has an identifier. -/
theorem exists_fromJwk_of_fromStr (hX : ReadsBackKeys X) {s : Text} {did : DIDJwk}
    (h : fromStr X s = .ok did) : ∃ did', fromJwk X did.jwk = .ok did' := by
  obtain ⟨_, _, _, _, _, _, hjwk, _⟩ := fromStr_eq_ok_iff.mp h
  obtain ⟨canonical, hcanonical, _⟩ := hX did.jwk
  exact ⟨_, fromJwk_eq_ok_iff.mpr
    ⟨validateCurve_of_jwkFromPayload hjwk, canonical, hcanonical, rfl⟩⟩

/-- Identifiers are faithful. That of a key is read back with all that belongs to the key, so that
keys with one identifier are the same. In a DID URL an identifier stands for the same key as alone.
The key in any identifier, canonical or not, has an identifier that is read back as this key. -/
theorem faithful (hX : ReadsBackKeys X) :
    (∀ jwk did, fromJwk X jwk = .ok did → did.jwk = jwk ∧ fromStr X did.did = .ok did) ∧
    (∀ jwk jwk' did did', fromJwk X jwk = .ok did → fromJwk X jwk' = .ok did' →
      did.did = did'.did → jwk = jwk') ∧
    (∀ s did, fromStr X s = .ok did → ∀ c ∈ ['#', '?'], ∀ rest,
      fromStr X (s ++ c :: rest) = .ok did) ∧
    ∀ s did, fromStr X s = .ok did → ∃ did', fromJwk X did.jwk = .ok did' ∧
      ∃ did'', fromStr X did'.did = .ok did'' ∧ did''.jwk = did.jwk := by
  refine ⟨fun jwk did => fromStr_fromJwk hX, ?_, ?_, ?_⟩
  · intro jwk jwk' did did' h h' heq
    obtain ⟨rfl, hread⟩ := fromStr_fromJwk hX h
    obtain ⟨rfl, hread'⟩ := fromStr_fromJwk hX h'
    rw [heq, hread'] at hread
    exact congrArg jwk (Except.ok.inj hread).symm
  · intro s did h c hc rest
    obtain ⟨suffix, bytes, value, rfl, hbytes, hvalue, hjwk, hdid⟩ := fromStr_eq_ok_iff.mp h
    refine fromStr_eq_ok_iff.mpr ⟨suffix ++ c :: rest, bytes, value, ?_, ?_, hvalue, hjwk, ?_⟩
    · exact List.append_assoc _ _ _
    · rw [bareDid_append hc, hbytes]
    · rw [bareDid_append hc, hdid]
  · intro s did h
    obtain ⟨did', hdid'⟩ := exists_fromJwk_of_fromStr hX h
    obtain ⟨hjwk, hread⟩ := fromStr_fromJwk hX hdid'
    exact ⟨did', hdid', did', hread, hjwk⟩

end DIDJwk

/-! ## A sample identifier -/

/-- A key is written without numbers, and nested at most two deep. -/
theorem PublicKeyJWK.plainWithin_toJson (jwk : PublicKeyJWK) : jwk.toJson.PlainWithin 2 := by
  have hoptions : ∀ o : JwkOptions, ∀ p ∈ o.toFields, p.2.PlainWithin 1 := by
    intro o p hp
    simp only [JwkOptions.toFields, List.mem_append, Option.mem_toList,
      Option.map_eq_some_iff] at hp
    rcases hp with ((⟨use, _, rfl⟩ | ⟨ops, _, rfl⟩) | ⟨alg, _, rfl⟩) | ⟨kid, _, rfl⟩
    · exact .string 1 _
    · exact .strings 0 _
    · exact .string 1 _
    · exact .string 1 _
  have hfields : ∀ (l : List (Text × Value)) (o : JwkOptions),
      (∀ p ∈ l, ∃ s, p.2 = .string s) → (Value.ofFields (l ++ o.toFields)).PlainWithin 2 := by
    intro l o hl
    refine .ofFields fun p hp => ?_
    rcases List.mem_append.mp hp with hp | hp
    · obtain ⟨s, hs⟩ := hl p hp
      rw [hs]
      exact .string 1 s
    · exact hoptions o p hp
  cases jwk with
  | ec crv x y o => exact hfields _ o (by simp)
  | okp crv x o => exact hfields _ o (by simp)
  | rsa n e o => exact hfields _ o (by simp)

namespace Sample

/-- Crates that write canonical forms as JSON. -/
def didJwkCrates : DIDJwkCrates where
  toJoseCrates := pointCrates
  jcsToString v := .ok (v.print pointCrates.f64)

theorem readsBackKeys_didJwkCrates : DIDJwk.ReadsBackKeys didJwkCrates := fun jwk =>
  ⟨_, rfl, jwk.plainWithin_toJson.parse_print _ (by decide)⟩

/-- The base point as a key for signatures. -/
def baseJwk : PublicKeyJWK :=
  .ec "P-256" (Base64Url.encode basePoint.x) (Base64Url.encode basePoint.y)
    { use := some .sig, kid := some (Text.lit "k") }

/-- The identifier of the base point, and the DID URL of its verification method. -/
theorem faithful_baseJwk : ∃ did, DIDJwk.fromJwk didJwkCrates baseJwk = .ok did ∧
    did.jwk = baseJwk ∧ DIDJwk.fromStr didJwkCrates did.did = .ok did ∧
    DIDJwk.fromStr didJwkCrates (did.did ++ '#' :: Text.lit "0") = .ok did := by
  have hdid := (DIDJwk.fromJwk_eq_ok_iff (X := didJwkCrates)).mpr
    ⟨(rfl : DIDJwk.validateCurve baseJwk = .ok ()), _, rfl, rfl⟩
  obtain ⟨hjwk, hurl⟩ := DIDJwk.faithful readsBackKeys_didJwkCrates
  obtain ⟨heq, hread⟩ := hjwk _ _ hdid
  exact ⟨_, hdid, heq, hread, hurl.2.1 _ _ hread '#' (by simp) _⟩

end Sample

end Swiyu
