import Swiyu.Core.DidLog.Substituted
import Swiyu.Core.Proof.Readers
import Swiyu.Didtool.Cmd.Did.Location
import Swiyu.Didtool.Cmd.Did.Rotated
import Swiyu.Didtool.Cmd.Did.Written

/-!
# The genesis entry of a created DID

The SCID is put into the text of the preliminary entry. When it is found nowhere else in that text,
the signed entry is a log that the verifier accepts.

## Main definitions

- `Swiyu.Create.genesisForm`: what a genesis entry is hashed as.
- `Swiyu.Create.genesisEntry`: the entry that the line of a genesis entry is read as.

## Main results

- `Swiyu.Create.substituteScid_preliminary`: the SCID in the preliminary entry.
- `Swiyu.Create.verifyLog_genesisEntry`: the genesis entry is accepted.
-/

namespace Swiyu

open Json

namespace Create

section Substitution

variable {scid t : Text}

/-- A text without braces is left as it is. -/
theorem replace_of_notMem (h : '{' ∉ t) : Text.replace scidPlaceholder scid t = t :=
  Text.replace_eq_self_of_notMem (by decide) h

/-- The first placeholder of a text is replaced. -/
theorem replace_append_placeholder {w : Text} (scid : Text) (hw : '{' ∉ w) (ht : '{' ∉ t) :
    Text.replace scidPlaceholder scid (w ++ scidPlaceholder ++ t) = w ++ scid ++ t := by
  have hno : ¬ ['{', 'S', 'C', 'I', 'D', '}'] <:+: w := fun h =>
    hw (h.subset List.mem_cons_self)
  have hreplace := @Text.replace_append_pattern scid '{' ['S', 'C', 'I', 'D', '}'] w t
    (by decide) hno
  rw [← scidPlaceholder_eq, replace_of_notMem ht] at hreplace
  exact hreplace

/-- The DID of the placeholder becomes the DID with the SCID. -/
theorem replace_toText {placeholder did : DID} (hnone : placeholder.scid = none)
    (hscid : did.scid = some scid) (hmethod : did.method = placeholder.method)
    (hdomain : did.domain = placeholder.domain) (hpath : did.path = placeholder.path)
    (hbrace : '{' ∉ placeholder.domain ∧ ∀ p ∈ placeholder.path, '{' ∉ p) (ht : '{' ∉ t) :
    Text.replace scidPlaceholder scid (placeholder.toText ++ t) = did.toText ++ t := by
  have hmethod' : '{' ∉ placeholder.method.prefixText := by
    cases placeholder.method with
    | tdw => decide
    | webVh => decide
  have hrest : '{' ∉ ':' :: (placeholder.domain ++
      (placeholder.path.map fun p => ':' :: p).getD []) ++ t := by
    cases hp : placeholder.path with
    | none => simp [hbrace.1, ht]
    | some p => simp [hbrace.1, hbrace.2 p hp, ht]
  have hreplace := replace_append_placeholder scid hmethod' hrest
  rw [placeholder.toText_eq_append, did.toText_eq_append, hnone, hscid, hmethod, hdomain, hpath]
  simp only [Option.getD_none, Option.getD_some, List.append_assoc] at hreplace ⊢
  exact hreplace

/-- The coordinates of a key have no braces. -/
theorem brace_notMem_encode (bytes : Bytes) : '{' ∉ Base64Url.encode bytes := fun h =>
  absurd (Base64Url.encode_subset bytes h) (by decide)

/-- A multikey has no braces. -/
theorem brace_notMem_multikey (key : FixedBytes 32) :
    '{' ∉ ed25519VerifyingKeyToMultikey key := by
  rw [ed25519VerifyingKeyToMultikey, List.mem_cons, not_or]
  exact ⟨by decide, fun h => absurd (Base58.mem_alphabet_of_mem_encode h) (by decide)⟩

/-- In an object whose keys have no braces the values are substituted. -/
theorem substituteScid_ofFields {l : List (Text × Value)} (names : List Text)
    (hnames : l.map Prod.fst = names) (h : ∀ k ∈ names, '{' ∉ k) :
    substituteScid scid (.ofFields l) =
      .ofFields (l.map fun p => (p.1, substituteScid scid p.2)) := by
  refine Value.mapText_ofFields fun p hp => replace_of_notMem (h _ ?_)
  rw [← hnames]
  exact List.mem_map_of_mem hp

theorem substituteScid_string (h : '{' ∉ t) : substituteScid scid (.string t) = .string t := by
  rw [substituteScid, Value.mapText, replace_of_notMem h]

theorem substituteScid_array (l : List Value) :
    substituteScid scid (.array l) = .array (l.map (substituteScid scid)) :=
  congrArg Value.array (Value.mapTextList_eq l)

/-- The JWK of a key is left as it is. -/
theorem substituteScid_jwk (key : P256PublicKey) {kid : Text} (hkid : '{' ∉ kid) :
    substituteScid scid (PublicKeyJWK.fromP256Coordinates key kid).toJson =
      (PublicKeyJWK.fromP256Coordinates key kid).toJson := by
  have hfields : (PublicKeyJWK.fromP256Coordinates key kid).toJson = .ofFields [
      (Text.lit "kty", .string "EC"), (Text.lit "crv", .string "P-256"),
      (Text.lit "x", .string (Base64Url.encode key.x)),
      (Text.lit "y", .string (Base64Url.encode key.y)), (Text.lit "kid", .string kid)] := rfl
  rw [hfields, substituteScid_ofFields ["kty", "crv", "x", "y", "kid"] rfl (by decide)]
  simp only [List.map_cons, List.map_nil, substituteScid_string (brace_notMem_encode _),
    substituteScid_string hkid, substituteScid_string (t := Text.lit "EC") (by decide),
    substituteScid_string (t := Text.lit "P-256") (by decide)]

/-- A verification method of the placeholder becomes one of the DID. -/
theorem substituteScid_methodWith {id id' controller controller' : Text} {jwk : Value}
    (hid : Text.replace scidPlaceholder scid id = id')
    (hcontroller : Text.replace scidPlaceholder scid controller = controller')
    (hjwk : substituteScid scid jwk = jwk) :
    substituteScid scid (Rotate.methodWith id controller (some jwk)) =
      Rotate.methodWith id' controller' (some jwk) := by
  have hfields (id controller : Text) : Rotate.methodWith id controller (some jwk) = .ofFields [
      (Text.lit "id", .string id), (Text.lit "type", .string "JsonWebKey2020"),
      (Text.lit "controller", .string controller), (Text.lit "publicKeyJwk", jwk)] := rfl
  rw [hfields, hfields, substituteScid_ofFields ["id", "type", "controller", "publicKeyJwk"] rfl
    (by decide)]
  simp only [List.map_cons, List.map_nil, hjwk,
    substituteScid_string (t := Text.lit "JsonWebKey2020") (by decide)]
  simp only [substituteScid, Value.mapText, hid, hcontroller]

/-- The document of the placeholder becomes that of the DID. -/
theorem substituteScid_newDocument {X : ToolCrates} {didText did : Text} (staged : StagedKeys)
    (h : ∀ t, '{' ∉ t → Text.replace scidPlaceholder scid (didText ++ t) = did ++ t) :
    substituteScid scid (Rotate.newDocument X didText staged) =
      Rotate.newDocument X did staged := by
  have hself : Text.replace scidPlaceholder scid didText = did := by
    have hnil := h [] List.not_mem_nil
    rwa [List.append_nil, List.append_nil] at hnil
  have hcontext : substituteScid scid (.strings ["https://www.w3.org/ns/did/v1",
      "https://w3id.org/security/jwk/v1"]) = .strings ["https://www.w3.org/ns/did/v1",
        "https://w3id.org/security/jwk/v1"] := by
    rw [Value.strings, substituteScid_array]
    simp only [List.map_cons, List.map_nil,
      substituteScid_string (t := Text.lit "https://www.w3.org/ns/did/v1") (by decide),
      substituteScid_string (t := Text.lit "https://w3id.org/security/jwk/v1") (by decide)]
  have hauthentication := h (Text.lit "#authentication-key-01") (by decide)
  have hassertion := h (Text.lit "#assertion-key-01") (by decide)
  have hkey : substituteScid scid (Rotate.authenticationJwk X staged) =
      Rotate.authenticationJwk X staged := substituteScid_jwk _ (by decide)
  have hkey' : substituteScid scid (Rotate.assertionJwk X staged) =
      Rotate.assertionJwk X staged := substituteScid_jwk _ (by decide)
  rw [Rotate.toJson_newGenesis, Rotate.toJson_newGenesis, Rotate.documentWith,
    Rotate.documentWith, substituteScid_ofFields
      ["@context", "id", "verificationMethod", "authentication", "assertionMethod"] rfl (by decide)]
  simp only [List.map_cons, List.map_nil, hcontext, substituteScid_array,
    substituteScid_methodWith hauthentication hself hkey,
    substituteScid_methodWith hassertion hself hkey']
  simp only [substituteScid, Value.mapText, hself, hauthentication, hassertion]

end Substitution

/-! ## The genesis entry -/

section Genesis

variable (X : ToolCrates) (staged : StagedKeys) (scid now : Text)

/-- The parameters of a genesis entry. -/
def genesisParameters : LogParameters :=
  .newTdwMinimal "did:tdw:0.3" scid [ed25519VerifyingKeyToMultikey (staged.authorizedKeyBytes X)]

/-- What a genesis entry is hashed as. -/
def genesisForm (didText : Text) : Value :=
  .array [.string scid, .string (Text.replace scidPlaceholder scid now),
    (genesisParameters X staged scid).toJson,
    (DIDDocState.value (Rotate.newDocument X didText staged)).toJson]

/-- The entry that the line of a genesis entry is read as. -/
def genesisEntry (didText : Text) : DIDLogEntry :=
  let versionId := Text.lit "1-" ++
    deriveEntryHash X.toCrates (genesisForm X staged scid now didText)
  { format := .tdw03
    versionId
    versionTime := Text.replace scidPlaceholder scid now
    parameters := (genesisParameters X staged scid).asRead .tdw03
    didDocState := .value (Rotate.newDocument X didText staged)
    dataIntegrityProofs := [(entryProof X.toSigningCrates now (Rotate.newDocument X didText staged)
      staged.authorized versionId).toJson] }

variable {X staged scid now} {didText : Text}

theorem toJson_genesisParameters : (genesisParameters X staged scid).toJson = .ofFields [
    (Text.lit "method", .string "did:tdw:0.3"), (Text.lit "scid", .string scid),
    (Text.lit "updateKeys",
      .strings [ed25519VerifyingKeyToMultikey (staged.authorizedKeyBytes X)]),
    (Text.lit "portable", .bool false)] := rfl

theorem versionId_genesisEntry : (genesisEntry X staged scid now didText).versionId =
    Text.decimal 1 ++ '-' :: deriveEntryHash X.toCrates (genesisForm X staged scid now didText) :=
  rfl

/-- The form that is hashed has the parameters as they are read. -/
theorem hashingForm_genesisEntry :
    (genesisEntry X staged scid now didText).hashingForm scid =
      genesisForm X staged scid now didText := by
  have hparameters := LogParameters.toJson_asRead (genesisParameters X staged scid) rfl
  unfold genesisEntry genesisForm DIDLogEntry.hashingForm
  rw [hparameters]

/-- The signed genesis entry is written as it is read. -/
theorem signGenesis_genesisForm :
    signGenesis X .tdw03 staged now (genesisForm X staged scid now didText) =
      .array [.string (genesisEntry X staged scid now didText).versionId,
        .string (genesisEntry X staged scid now didText).versionTime,
        (genesisParameters X staged scid).toJson,
        (genesisEntry X staged scid now didText).didDocState.toJson,
        .array (genesisEntry X staged scid now didText).dataIntegrityProofs] := rfl

/-- With the SCID put in, the preliminary entry is the form that is hashed. -/
theorem substituteScid_preliminary {placeholder : DID}
    (h : ∀ t, '{' ∉ t →
      Text.replace scidPlaceholder scid (placeholder.toText ++ t) = didText ++ t) :
    substituteScid scid (preliminary X .tdw03 staged placeholder now) =
      genesisForm X staged scid now didText := by
  have hprelim : preliminary X .tdw03 staged placeholder now =
      .array [.string scidPlaceholder, .string now,
        (genesisParameters X staged scidPlaceholder).toJson,
        .ofFields [(Text.lit "value", Rotate.newDocument X placeholder.toText staged)]] := rfl
  have hscid : Text.replace scidPlaceholder scid scidPlaceholder = scid := by
    have hreplace := replace_append_placeholder scid (List.not_mem_nil (a := '{'))
      (List.not_mem_nil (a := '{'))
    rwa [List.append_nil, List.nil_append, List.append_nil, List.nil_append] at hreplace
  -- The placeholder is one of the parameters, and part of the DID in the document.
  have hparameters : substituteScid scid (genesisParameters X staged scidPlaceholder).toJson =
      (genesisParameters X staged scid).toJson := by
    rw [toJson_genesisParameters, toJson_genesisParameters,
      substituteScid_ofFields ["method", "scid", "updateKeys", "portable"] rfl (by decide)]
    simp only [List.map_cons, List.map_nil, Value.strings, substituteScid_array,
      substituteScid_string (brace_notMem_multikey _),
      substituteScid_string (t := Text.lit "did:tdw:0.3") (by decide)]
    simp only [substituteScid, Value.mapText, hscid]
  rw [hprelim, substituteScid_array]
  simp only [List.map_cons, List.map_nil, hparameters,
    substituteScid_ofFields (l := [(Text.lit "value",
      Rotate.newDocument X placeholder.toText staged)]) ["value"] rfl (by decide),
    substituteScid_newDocument staged h]
  simp only [substituteScid, Value.mapText, hscid]
  rfl

/-- The parameters are a flat object of texts, with a list of keys. -/
theorem plainWithin_genesisParameters : (genesisParameters X staged scid).toJson.PlainWithin 2 := by
  rw [toJson_genesisParameters]
  refine .ofFields fun p hp => ?_
  simp only [List.mem_cons, List.not_mem_nil, or_false] at hp
  rcases hp with rfl | rfl | rfl | rfl
  · exact .string 1 _
  · exact .string 1 _
  · exact .strings 0 _
  · exact .bool 1 _

/-- The state holds the document. -/
theorem plainWithin_state (didText : Text) (staged : StagedKeys) :
    (DIDDocState.value (Rotate.newDocument X didText staged)).toJson.PlainWithin 5 := by
  refine .ofFields fun p hp => ?_
  obtain rfl := List.mem_singleton.mp hp
  exact DIDDoc.plainWithin_newGenesis _ _ _

/-- The signed genesis entry has no doubles and is not nested deep. -/
theorem plainWithin_signGenesis :
    (signGenesis X .tdw03 staged now (genesisForm X staged scid now didText)).PlainWithin 6 := by
  rw [signGenesis_genesisForm]
  refine .array fun v hv => ?_
  simp only [List.mem_cons, List.not_mem_nil, or_false] at hv
  rcases hv with rfl | rfl | rfl | rfl | rfl
  · exact .string 5 _
  · exact .string 5 _
  · exact plainWithin_genesisParameters.mono (by decide)
  · exact plainWithin_state _ _
  · refine .mono (n := 2) (.array fun v hv => ?_) (by decide)
    obtain rfl := List.mem_singleton.mp hv
    exact DataIntegrityProof.plainWithin_toJson _

/-- So is the preliminary entry. -/
theorem plainWithin_preliminary (placeholder : DID) :
    (preliminary X .tdw03 staged placeholder now).PlainWithin 6 := by
  show (Value.array [.string scidPlaceholder, .string now,
    (genesisParameters X staged scidPlaceholder).toJson,
    (DIDDocState.value (Rotate.newDocument X placeholder.toText staged)).toJson]).PlainWithin 6
  refine .array fun v hv => ?_
  simp only [List.mem_cons, List.not_mem_nil, or_false] at hv
  rcases hv with rfl | rfl | rfl | rfl
  · exact .string 5 _
  · exact .string 5 _
  · exact plainWithin_genesisParameters.mono (by decide)
  · exact plainWithin_state _ _

/-- The line of the genesis entry is read as a log with this entry. -/
theorem tryFromJsonl_line {did : DID} : DIDLog.tryFromJsonl X.toCrates (Genesis.line X
    ⟨did, signGenesis X .tdw03 staged now (genesisForm X staged scid now didText)⟩) =
      .ok ⟨[genesisEntry X staged scid now didText]⟩ := by
  have hplain : (signGenesis X .tdw03 staged now
      (genesisForm X staged scid now didText)).PlainWithin 6 := plainWithin_signGenesis
  have hnewline := (hplain.newline_notMem_print X.f64).1
  have hparses : ParsesTo X.toCrates (Text.trim ((signGenesis X .tdw03 staged now
      (genesisForm X staged scid now didText)).print X.f64))
      (genesisEntry X staged scid now didText) := by
    refine ⟨signGenesis X .tdw03 staged now (genesisForm X staged scid now didText), ?_, ?_⟩
    · have hparse := hplain.parse_print X.f64 (by decide)
      rw [signGenesis_genesisForm] at hparse ⊢
      rw [Value.trim_print_array]
      exact hparse
    · rw [signGenesis_genesisForm]
      exact DIDLogEntry.tryFromJson_array _ _ _ _ _
  have hempty : DIDLog.tryFromJsonl X.toCrates [] = .ok ⟨[]⟩ := rfl
  have hlog := tryFromJsonl_concat hempty (fun h => hnewline (List.dropLast_subset _ h)) hparses
  have hlast : ¬ ((signGenesis X .tdw03 staged now (genesisForm X staged scid now didText)).print
      X.f64).getLast? = some '\n' := fun h => hnewline (List.mem_of_getLast? h)
  rw [buildUpdatedLog, if_neg hlast] at hlog
  exact hlog

/-- The genesis entry is accepted for the DID with the SCID that its preliminary form derives. -/
theorem verifyLog_genesisEntry (hX : X.Lawful) {did : DID} {prelim : Value}
    (hscid : did.scid = some scid) (hderive : deriveScid X.toCrates prelim = scid)
    (hform : substituteScid scid prelim = genesisForm X staged scid now did.toText)
    (hplain : prelim.PlainWithin 6)
    (hocc : Text.OccursOnlyAt scidPlaceholder scid (prelim.print X.f64)) :
    verifyLog X.toCrates ⟨[genesisEntry X staged scid now did.toText]⟩ did = .ok () := by
  refine (verifyLog_eq_ok_iff (by simp)).mpr ⟨scid, hscid, ?_⟩
  have hhead : ∀ e ∈ [genesisEntry X staged scid now did.toText].head?,
      e = genesisEntry X staged scid now did.toText := fun e he => (Option.some.inj he).symm
  constructor
  case nonempty => exact List.cons_ne_nil _ _
  case format => exact List.forall_mem_singleton.mpr rfl
  case subject => exact List.forall_mem_singleton.mpr ⟨_, rfl, rfl⟩
  case genesisKeys =>
    intro e he
    rw [hhead e he]
    rfl
  case versionId =>
    intro i hi
    obtain rfl : i = 0 := by simpa using hi
    -- The version hashes the form that the tool has signed.
    have hhash : (genesisEntry X staged scid now did.toText).hashingForm scid = _ :=
      hashingForm_genesisEntry
    show (genesisEntry X staged scid now did.toText).versionId =
      Text.decimal 1 ++ '-' :: deriveEntryHash X.toCrates
        ((genesisEntry X staged scid now did.toText).hashingForm scid)
    rw [hhash]
    exact versionId_genesisEntry
  case signed =>
    intro i hi doc hdoc
    obtain rfl : i = 0 := by simpa using hi
    obtain rfl := DIDDocState.value.inj hdoc
    -- The entry announces the key that has signed it.
    exact signedBy_sign (hX.ed25519_point _) (hX.ed25519_verify _) rfl (List.mem_singleton.mpr rfl)
      rfl
  case scid =>
    intro e he
    rw [hhead e he, hashingForm_genesisEntry, ← hform]
    -- With the placeholder for the SCID the form is the preliminary one again.
    refine ⟨prelim, ?_, hderive⟩
    have hfloats : ∀ x ∈ prelim.floats, X.f64.ReadsBack x := by simp [hplain.floats]
    rw [← hderive] at hocc ⊢
    exact parse_replace_substituteScid hfloats hocc (hplain.depth.trans (by decide))

end Genesis

end Create

end Swiyu
