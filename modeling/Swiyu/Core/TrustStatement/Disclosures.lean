import Swiyu.Core.DidLog.Authentic
import Swiyu.Core.TrustStatement
import Swiyu.Lib.Text.Join

/-!
# The disclosed claims of a trust statement

The disclosures of a statement are not signed, but their digests are. A statement says what those of
its disclosures say that its payload commits to, whatever else stands between them.

## Main definitions

- `Swiyu.committedClaim`: the claim that a segment discloses.
- `Swiyu.sdJwt`: the wire form of a JWT and its disclosures.

## Main results

- `Swiyu.readDisclosures_eq_ok_iff`: what the decoder's loop makes of the segments.
- `Swiyu.TrustStatement.disclosed_eq_committed`: an accepted statement discloses what its payload
  commits to.
-/

namespace Swiyu

open Json

variable (X : JoseCrates)

/-! ## Claims -/

/-- The JSON value that a segment decodes to. -/
def segmentValue (segment : Text) : Option Value := do
  let bytes ← Base64Url.decode segment
  (Text.fromUtf8 bytes).bind (Json.parse X.f64)

/-- The JSON array that a segment decodes to. -/
def segmentArray (segment : Text) : Option (List Value) :=
  (segmentValue X segment).bind Value.asArray

/-- The digest of the segment, as it was received, is one of those given. -/
def IsCommitted (sdSet : List Text) (segment : Text) : Prop :=
  Base64Url.encode (X.sha256 (Text.utf8 segment)) ∈ sdSet

instance (sdSet : List Text) (segment : Text) : Decidable (IsCommitted X sdSet segment) :=
  Text.decidableMem _ _

/-- The name and the value in an array of three elements: a salt, a name and a value. -/
def claimOfArray : List Value → Option (Text × Value)
  | [salt, name, value] => do
    let _ ← salt.asStr
    let name ← name.asStr
    return (name, value)
  | _ => none

/-- The claim that a segment discloses, if it is committed to. -/
def committedClaim (sdSet : List Text) (segment : Text) : Option (Text × Value) :=
  if IsCommitted X sdSet segment then (segmentArray X segment).bind claimOfArray else none

/-- The names by language in a claim. -/
def namesOfClaim (claim : Text × Value) : List (Text × Text) :=
  if claim.1 = Text.lit "entityName" then
    ((claim.2.asObject.map OrdMap.Entries.toList).getD []).filterMap fun member =>
      member.2.asStr.map (member.1, ·)
  else []

/-- Whether a claim says that the entity is a state actor. -/
def stateActorOfClaim (claim : Text × Value) : Option Bool :=
  if claim.1 = Text.lit "isStateActor" then claim.2.asBool else none

/-! ## The loop -/

variable {X} {sdSet : List Text}

theorem addEntityNames_eq (names : OrdMap Text Text) (claim : Object) :
    addEntityNames names claim =
      (claim.toList.filterMap fun member => member.2.asStr.map (member.1, ·)).foldl
        (fun names member => OrdMap.insert names member.1 member.2) names := by
  unfold addEntityNames
  generalize claim.toList = members
  induction members generalizing names with
  | nil => rfl
  | cons member members ih =>
    rw [List.foldl_cons, ih, List.filterMap_cons]
    -- A member that is no string is skipped on both sides.
    cases member.2.asStr <;> rfl

/-- What a claim adds: its names override earlier ones of the same language, its boolean an
earlier one. -/
def DisclosedClaims.addClaim (claims : DisclosedClaims) (claim : Text × Value) :
    DisclosedClaims where
  entityName := (namesOfClaim claim).foldl
    (fun names member => OrdMap.insert names member.1 member.2) claims.entityName
  isStateActor := (stateActorOfClaim claim).or claims.isStateActor

theorem DisclosedClaims.add_eq (claims : DisclosedClaims) (disclosure : Disclosure) :
    claims.add disclosure = claims.addClaim (disclosure.name, disclosure.value) := by
  unfold add addClaim namesOfClaim stateActorOfClaim
  by_cases hentity : disclosure.name = Text.lit "entityName"
  · rw [if_pos hentity, if_pos hentity, if_neg (by simp [hentity])]
    cases disclosure.value.asObject with
    | none => rfl
    | some claim =>
      show DisclosedClaims.mk (addEntityNames _ _) _ = _
      rw [addEntityNames_eq]
      rfl
  · rw [if_neg hentity, if_neg hentity]
    by_cases hactor : disclosure.name = Text.lit "isStateActor"
    · rw [if_pos hactor, if_pos hactor]
      cases disclosure.value.asBool <;> rfl
    · rw [if_neg hactor, if_neg hactor]
      rfl

/-- The claims that are disclosed one after the other. -/
theorem DisclosedClaims.foldl_addClaim (claims : List (Text × Value)) :
    claims.foldl addClaim {} =
      { entityName := OrdMap.ofList (claims.flatMap namesOfClaim)
        isStateActor := (claims.filterMap stateActorOfClaim).getLast? } := by
  induction claims using List.reverseRecOn with
  | nil => rfl
  | append_singleton claims claim ih =>
    rw [List.foldl_append, ih, List.flatMap_append, List.filterMap_append]
    unfold OrdMap.ofList
    rw [List.foldl_append]
    cases hactor : stateActorOfClaim claim <;> simp [addClaim, hactor]

/-- A segment that decodes to no array is an error. -/
theorem exists_readDisclosure_eq_error {encoded : Text} (h : segmentArray X encoded = none) :
    ∃ e, readDisclosure X encoded = .error e := by
  unfold readDisclosure Disclosure.fromStr JoseCrates.base64Decode JoseCrates.fromSlice
  unfold segmentArray segmentValue at h
  cases hbytes : Base64Url.decode encoded with
  | none => exact ⟨_, rfl⟩
  | some bytes =>
    rw [hbytes, Option.bind_eq_bind, Option.bind_some] at h
    simp only [Except.mapError, Except.ok_bind]
    cases hvalue : (Text.fromUtf8 bytes).bind (Json.parse X.f64) with
    | none => exact ⟨_, rfl⟩
    | some value =>
      rw [hvalue, Option.bind_some] at h
      simp only [Except.ok_bind, h]
      exact ⟨_, rfl⟩

/-- A segment that decodes to an array is read as the claim of the array, if it is one; arrays of
another shape are skipped. -/
theorem exists_readDisclosure_eq_ok {encoded : Text} {array : List Value}
    (h : segmentArray X encoded = some array) : ∃ disclosure,
      readDisclosure X encoded = .ok disclosure ∧
      disclosure.map (fun d => (d.name, d.value)) = claimOfArray array ∧
      ∀ d ∈ disclosure, d.encoded = encoded := by
  obtain ⟨value, hvalue, harray⟩ := Option.bind_eq_some_iff.mp h
  obtain ⟨bytes, hbytes, hparse⟩ := Option.bind_eq_some_iff.mp hvalue
  unfold readDisclosure Disclosure.fromStr JoseCrates.base64Decode JoseCrates.fromSlice
  simp only [hbytes, hparse, harray, Except.mapError, Except.ok_bind, Option.okOr_some]
  rcases array with _ | ⟨salt, _ | ⟨name, _ | ⟨value, _ | ⟨v, l⟩⟩⟩⟩
  iterate 3 exact ⟨none, rfl, rfl, by simp⟩
  · dsimp only [claimOfArray]
    cases salt.asStr with
    | none => exact ⟨none, rfl, rfl, by simp⟩
    | some salt =>
      cases name.asStr with
      | none => exact ⟨none, rfl, rfl, by simp⟩
      | some name => exact ⟨some ⟨salt, name, value, encoded⟩, rfl, rfl, by simp⟩
  · exact ⟨none, rfl, rfl, by simp⟩

/-- What the loop makes of its next segment. -/
theorem readDisclosures_cons_eq_ok_iff {claims claims' : DisclosedClaims} {segment : Text}
    {rest : List Text} : readDisclosures X sdSet claims (segment :: rest) = .ok claims' ↔
      (segmentArray X segment).isSome ∧ readDisclosures X sdSet
        ((committedClaim X sdSet segment).elim claims claims.addClaim) rest = .ok claims' := by
  unfold committedClaim
  cases harray : segmentArray X segment with
  | none =>
    obtain ⟨e, he⟩ := exists_readDisclosure_eq_error harray
    simp only [readDisclosures, he]
    exact ⟨(fun h => by cases h), by simp⟩
  | some array =>
    -- An array is no error, whether it is a disclosure of a claim or not.
    obtain ⟨disclosure, hread, hclaim, hencoded⟩ := exists_readDisclosure_eq_ok harray
    rw [Option.bind_some, ← hclaim]
    simp only [readDisclosures, hread, Except.ok_bind, Option.isSome_some, true_and]
    cases disclosure with
    | none =>
      rw [Option.map_none, ite_self]
      rfl
    | some disclosure =>
      have hdigest : disclosure.digest X ∈ sdSet ↔ IsCommitted X sdSet segment := by
        rw [Disclosure.digest, hencoded disclosure rfl, IsCommitted]
      dsimp only
      by_cases hcommitted : IsCommitted X sdSet segment
      · rw [if_pos hcommitted, if_pos (hdigest.mpr hcommitted), DisclosedClaims.add_eq]
        rfl
      · rw [if_neg hcommitted, if_neg (fun h => hcommitted (hdigest.mp h))]
        rfl

/-- The loop accepts segments that decode to arrays, and takes over the claims among them that are
committed to, from left to right. -/
theorem readDisclosures_eq_ok_iff {claims claims' : DisclosedClaims} {segments : List Text} :
    readDisclosures X sdSet claims segments = .ok claims' ↔
      (∀ segment ∈ segments, (segmentArray X segment).isSome) ∧
        claims' = (segments.filterMap (committedClaim X sdSet)).foldl .addClaim claims := by
  induction segments generalizing claims with
  | nil =>
    rw [readDisclosures, Except.ok.injEq]
    exact ⟨fun h => ⟨by simp, h.symm⟩, fun h => h.2.symm⟩
  | cons segment segments ih =>
    rw [readDisclosures_cons_eq_ok_iff, ih, List.forall_mem_cons, and_assoc, List.filterMap_cons]
    cases committedClaim X sdSet segment <;> rfl

/-! ## The wire form -/

/-- The wire form of a JWT and its disclosures, with `n` separators at the end. -/
def sdJwt (jwt : Text) (segments : List Text) (n : ℕ) : Text :=
  ['~'].intercalate (jwt :: segments) ++ List.replicate n '~'

variable (X) in
/-- The payload of a JWT. -/
def jwtPayload (jwt : Text) : Option Value :=
  (Text.split '.' jwt)[1]?.bind (segmentValue X)

/-- The digests in the `_sd` array of a payload. -/
def sdDigests (payload : Value) : List Text :=
  (((payload.get "_sd").bind Value.asArray).getD []).filterMap Value.asStr

namespace TrustStatement

/-- A text that is neither empty nor has a separator. -/
def IsPart (part : Text) : Prop := '~' ∉ part ∧ part ≠ []

theorem splitDisclosures_sdJwt {jwt : Text} {segments : List Text}
    (h : ∀ part ∈ jwt :: segments, IsPart part) (n : ℕ) :
    splitDisclosures (sdJwt jwt segments n) = (jwt, segments) := by
  unfold splitDisclosures sdJwt
  rw [Text.trimEndMatches_append_replicate n (Text.getLast?_intercalate_ne h),
    Text.split_intercalate (by simp) fun part hpart => (h part hpart).1]

theorem exists_sdJwt (jwtText : Text) : ∃ jwt segments n, jwtText = sdJwt jwt segments n ∧
    splitDisclosures jwtText = (jwt, segments) ∧ ∀ part ∈ jwt :: segments, '~' ∉ part := by
  obtain ⟨⟨n, hn⟩, -⟩ := Text.exists_trimEndMatches '~' jwtText
  obtain ⟨jwt, segments, hparts⟩ := List.exists_cons_of_ne_nil
    (Text.split_ne_nil (c := '~') (s := Text.trimEndMatches '~' jwtText))
  refine ⟨jwt, segments, n, ?_, ?_, ?_⟩
  · rw [sdJwt, ← hparts, Text.intercalate_split]
    exact hn
  · rw [splitDisclosures, hparts]
  · intro part hpart
    exact Text.notMem_of_mem_split (hparts ▸ hpart)

/-- The statement with what the claims say. -/
def withClaims (stmt : TrustStatement) (claims : List (Text × Value)) : TrustStatement :=
  { stmt with
    entityName := OrdMap.ofList (claims.flatMap namesOfClaim)
    isStateActor := (claims.filterMap stateActorOfClaim).getLast? }

theorem parseSegment_eq_ok_iff {name segment : Text} {value : Value} :
    parseSegment X name segment = .ok value ↔ segmentValue X segment = some value := by
  unfold parseSegment decodeSegment JoseCrates.base64Decode JoseCrates.fromSlice segmentValue
  cases Base64Url.decode segment with
  | none => exact ⟨(fun h => by cases h), by simp⟩
  | some bytes =>
    simp only [Except.mapError, Except.ok_bind, Option.bind_eq_bind, Option.bind_some]
    cases (Text.fromUtf8 bytes).bind (Json.parse X.f64) <;> simp

/-- Whether a text is accepted depends on its disclosures only in that each has to decode to an
array, and what is read depends on those only that are committed to. -/
theorem tryFromJwt_of_jwt {jwtText : Text} {stmt : TrustStatement}
    (h : tryFromJwt X jwtText = .ok stmt) : ∃ payload,
      jwtPayload X (splitDisclosures jwtText).1 = some payload ∧
      ∀ jwtText', (splitDisclosures jwtText').1 = (splitDisclosures jwtText).1 → ∀ stmt',
        tryFromJwt X jwtText' = .ok stmt' ↔
          (∀ segment ∈ (splitDisclosures jwtText').2, (segmentArray X segment).isSome) ∧
          stmt' = stmt.withClaims ((splitDisclosures jwtText').2.filterMap
            (committedClaim X (sdDigests payload))) := by
  unfold tryFromJwt at h
  split at h
  · rename_i seg₀ seg₁ seg₂ hsplit
    simp only [Except.bind_eq_ok_iff, pure, Except.pure, Except.ok.injEq] at h
    obtain ⟨header, hheader, payload, hpayload, signature, hsignature, kid, hkid, alg, halg, claims,
      hclaims, iat, hiat, status, hstatus, rfl⟩ := h
    refine ⟨payload, ?_, ?_⟩
    · rw [jwtPayload, hsplit]
      exact parseSegment_eq_ok_iff.mp hpayload
    · -- The JWT is the same, so that all but the claims are read as before.
      intro jwtText' hjwt stmt'
      unfold tryFromJwt
      rw [hjwt, hsplit]
      simp only [hheader, hpayload, hsignature, hkid, halg, hiat, hstatus, Except.ok_bind,
        Except.bind_eq_ok_iff, readDisclosures_eq_ok_iff, pure, Except.pure, Except.ok.injEq]
      constructor
      · rintro ⟨claims', ⟨hsegments, rfl⟩, rfl⟩
        refine ⟨hsegments, ?_⟩
        rw [DisclosedClaims.foldl_addClaim]
        rfl
      · rintro ⟨hsegments, rfl⟩
        refine ⟨_, ⟨hsegments, rfl⟩, ?_⟩
        rw [DisclosedClaims.foldl_addClaim]
        rfl
  · cases h

end TrustStatement

/-! ## Disclosures of an issuer -/

namespace Disclosure

/-- The wire form of a disclosure decodes to the array it was built from, unless the value is nested
too deep. -/
theorem segmentArray_new (hF : X.f64.Lawful) (salt name : Text) (value : Value) :
    segmentArray X (new X salt name value).encoded =
      if value.depth < depthLimit then some [.string salt, .string name, value] else none := by
  have hdepth : (Value.array [.string salt, .string name, value]).depth = value.depth + 1 := by
    simp [Value.depth, Value.depthList]
  have hread : Json.parse X.f64 ((Value.array [.string salt, .string name, value]).print X.f64) =
      if value.depth < depthLimit then some (.array [.string salt, .string name, value])
      else none := by
    rw [Value.print, parse_printWith fun x _ => hF x,
      Value.mapText_eq_self (f := id) fun _ _ => rfl, hdepth]
    rfl
  unfold segmentArray segmentValue new
  rw [Base64Url.decode_encode, Option.bind_eq_bind, Option.bind_some, Text.fromUtf8_utf8,
    Option.bind_some, hread]
  split_ifs <;> rfl

/-- The wire form of a disclosure may stand between separators. -/
theorem isPart_new (salt name : Text) (value : Value) :
    TrustStatement.IsPart (new X salt name value).encoded := by
  constructor
  · exact fun h => absurd (Base64Url.encode_subset _ h) (by decide)
  · refine Base64Url.encode_ne_nil fun hempty => ?_
    have hprint := Text.fromUtf8_utf8
      ((Value.array [.string salt, .string name, value]).print X.f64)
    rw [hempty, ← show Text.utf8 [] = [] from rfl, Text.fromUtf8_utf8] at hprint
    cases hprint

/-- A disclosure is read back exactly, unless its value is nested too deep. -/
theorem fromStr_new_iff (hF : X.f64.Lawful) {salt name : Text} {value : Value} :
    fromStr X (new X salt name value).encoded = .ok (new X salt name value) ↔
      value.depth < depthLimit := by
  have harray := segmentArray_new hF salt name value
  constructor
  · intro h
    by_contra hdeep
    rw [if_neg hdeep] at harray
    -- A segment that decodes to no array is an error for the loop, and so for `from_str`.
    obtain ⟨e, he⟩ := exists_readDisclosure_eq_error harray
    unfold readDisclosure at he
    rw [h] at he
    cases he
  · intro hdepth
    rw [if_pos hdepth] at harray
    obtain ⟨value', hvalue, harray⟩ := Option.bind_eq_some_iff.mp harray
    obtain ⟨bytes, hbytes, hparse⟩ := Option.bind_eq_some_iff.mp hvalue
    unfold fromStr JoseCrates.base64Decode JoseCrates.fromSlice
    simp only [hbytes, hparse, harray, Except.mapError, Except.ok_bind, Option.okOr_some]
    rfl

end Disclosure

/-! ## Accepted statements -/

theorem segmentArray_nil : segmentArray X [] = none := rfl

namespace TrustStatement

/-- The text of an accepted statement is a JWT and segments that decode to arrays. -/
theorem exists_sdJwt_of_ok {jwtText : Text} {stmt : TrustStatement}
    (h : tryFromJwt X jwtText = .ok stmt) : ∃ jwt segments n payload,
      jwtText = sdJwt jwt segments n ∧ (∀ part ∈ jwt :: segments, IsPart part) ∧
      jwtPayload X jwt = some payload ∧
      ∀ segments' m stmt', (∀ segment ∈ segments', IsPart segment) →
        (tryFromJwt X (sdJwt jwt segments' m) = .ok stmt' ↔
          (∀ segment ∈ segments', (segmentArray X segment).isSome) ∧
          stmt' = stmt.withClaims (segments'.filterMap
            (committedClaim X (sdDigests payload)))) := by
  obtain ⟨jwt, segments, n, hjwtText, hsplit, hparts⟩ := exists_sdJwt jwtText
  obtain ⟨payload, hpayload, hiff⟩ := tryFromJwt_of_jwt h
  rw [hsplit] at hpayload hiff
  have harrays := ((hiff jwtText (by rw [hsplit]) stmt).mp h).1
  rw [hsplit] at harrays
  have hjwt : IsPart jwt := by
    refine ⟨hparts jwt List.mem_cons_self, ?_⟩
    rintro rfl
    -- The empty text has one dot-separated part.
    exact absurd hpayload (by simp [jwtPayload, Text.split])
  refine ⟨jwt, segments, n, payload, hjwtText, ?_, hpayload, ?_⟩
  · intro part hpart
    rcases List.mem_cons.mp hpart with rfl | hpart
    · exact hjwt
    · refine ⟨hparts part (List.mem_cons_of_mem _ hpart), ?_⟩
      rintro rfl
      exact absurd (harrays [] hpart) (by rw [segmentArray_nil]; simp)
  · intro segments' m stmt' hsegments'
    have hsplit' := splitDisclosures_sdJwt (List.forall_mem_cons.mpr ⟨hjwt, hsegments'⟩) m
    have hiff' := hiff (sdJwt jwt segments' m) (by rw [hsplit']) stmt'
    rwa [hsplit'] at hiff'

/-- Segments that disclose no claim do not count. -/
theorem filterMap_committedClaim_congr {segments segments' : List Text}
    (h : segments'.filter (fun segment => (committedClaim X sdSet segment).isSome) =
      segments.filter fun segment => (committedClaim X sdSet segment).isSome) :
    segments'.filterMap (committedClaim X sdSet) = segments.filterMap (committedClaim X sdSet) := by
  have hcount : ∀ l : List Text, l.filterMap (committedClaim X sdSet) =
      (l.filter fun segment => (committedClaim X sdSet segment).isSome).filterMap
        (committedClaim X sdSet) := by
    intro l
    rw [List.filterMap_filter]
    refine List.filterMap_congr fun segment _ => ?_
    cases committedClaim X sdSet segment <;> rfl
  rw [hcount segments', h, ← hcount segments]

variable (X sdSet) in
/-- A disclosure that an issuer made and committed to. -/
structure Issued (disclosure : Disclosure) : Prop where
  eq_new : disclosure = .new X disclosure.salt disclosure.name disclosure.value
  digest_mem : disclosure.digest X ∈ sdSet

namespace Issued

variable {disclosure : Disclosure}

/-- An issued disclosure is read as it was made, unless its value is nested too deep. -/
theorem segmentArray_encoded (h : Issued X sdSet disclosure) (hF : X.f64.Lawful) :
    segmentArray X disclosure.encoded = if disclosure.value.depth < depthLimit then
      some [.string disclosure.salt, .string disclosure.name, disclosure.value] else none := by
  rw [h.eq_new]
  exact Disclosure.segmentArray_new hF _ _ _

theorem isSome_segmentArray_iff (h : Issued X sdSet disclosure) (hF : X.f64.Lawful) :
    (segmentArray X disclosure.encoded).isSome ↔ disclosure.value.depth < depthLimit := by
  rw [h.segmentArray_encoded hF]
  split_ifs with hdepth <;> simp [hdepth]

/-- An issued disclosure counts as what the issuer put into it. -/
theorem committedClaim_encoded (h : Issued X sdSet disclosure) (hF : X.f64.Lawful)
    (hdepth : disclosure.value.depth < depthLimit) :
    committedClaim X sdSet disclosure.encoded = some (disclosure.name, disclosure.value) := by
  have hcommitted : IsCommitted X sdSet disclosure.encoded := h.digest_mem
  rw [committedClaim, if_pos hcommitted, h.segmentArray_encoded hF, if_pos hdepth]
  rfl

end Issued

/-- What issued disclosures say is what the issuer put into them. -/
theorem filterMap_committedClaim_issued (hF : X.f64.Lawful) {disclosures : List Disclosure}
    (h : ∀ d ∈ disclosures, Issued X sdSet d)
    (hdepth : ∀ d ∈ disclosures, d.value.depth < depthLimit) :
    (disclosures.map (·.encoded)).filterMap (committedClaim X sdSet) =
      disclosures.map fun d => (d.name, d.value) := by
  induction disclosures with
  | nil => rfl
  | cons d disclosures ih =>
    obtain ⟨hd, hrest⟩ := List.forall_mem_cons.mp h
    obtain ⟨hd', hrest'⟩ := List.forall_mem_cons.mp hdepth
    rw [List.map_cons, List.filterMap_cons, hd.committedClaim_encoded hF hd', ih hrest hrest']
    rfl

/-- The disclosed claims of an accepted statement are those of the segments, from left to right,
that are an array of a salt, a name and a value and whose digest, as they were received, is in the
payload's `_sd`. Segments that are arrays but do not count may be inserted, deleted and altered.
Disclosures that an issuer made are read as it made them, unless the value of one is nested 127 deep
or deeper: then it is read by neither `from_str` nor `try_from_jwt`. -/
theorem disclosed_eq_committed {jwtText : Text} {stmt : TrustStatement}
    (h : tryFromJwt X jwtText = .ok stmt) : ∃ jwt segments n payload,
      jwtText = sdJwt jwt segments n ∧ (∀ part ∈ jwt :: segments, IsPart part) ∧
      jwtPayload X jwt = some payload ∧
      stmt.entityName = OrdMap.ofList ((segments.filterMap
        (committedClaim X (sdDigests payload))).flatMap namesOfClaim) ∧
      stmt.isStateActor = ((segments.filterMap
        (committedClaim X (sdDigests payload))).filterMap stateActorOfClaim).getLast? ∧
      (∀ segments' m, (∀ segment ∈ segments', '~' ∉ segment ∧ (segmentArray X segment).isSome) →
        segments'.filter (fun segment => (committedClaim X (sdDigests payload) segment).isSome) =
          segments.filter (fun segment => (committedClaim X (sdDigests payload) segment).isSome) →
        tryFromJwt X (sdJwt jwt segments' m) = .ok stmt) ∧
      (X.f64.Lawful → ∀ disclosures : List Disclosure,
        (∀ d ∈ disclosures, Issued X (sdDigests payload) d) →
        (∀ m stmt', tryFromJwt X (sdJwt jwt (disclosures.map (·.encoded)) m) = .ok stmt' ↔
          (∀ d ∈ disclosures, d.value.depth < depthLimit) ∧
          stmt' = stmt.withClaims (disclosures.map fun d => (d.name, d.value))) ∧
        ∀ d ∈ disclosures, Disclosure.fromStr X d.encoded = .ok d ↔
          d.value.depth < depthLimit) := by
  obtain ⟨jwt, segments, n, payload, rfl, hparts, hpayload, hiff⟩ := exists_sdJwt_of_ok h
  obtain ⟨hjwt, hsegments⟩ := List.forall_mem_cons.mp hparts
  have hself : stmt = stmt.withClaims (segments.filterMap (committedClaim X (sdDigests payload))) :=
    ((hiff segments n stmt hsegments).mp h).2
  refine ⟨jwt, segments, n, payload, rfl, hparts, hpayload, congrArg entityName hself,
    congrArg isStateActor hself, ?_, ?_⟩
  · -- Other segments with the same committed claims, in the same order, say the same.
    intro segments' m harrays hcount
    have hparts' : ∀ segment ∈ segments', IsPart segment := by
      intro segment hsegment
      refine ⟨(harrays segment hsegment).1, ?_⟩
      rintro rfl
      exact absurd (harrays [] hsegment).2 (by rw [segmentArray_nil]; simp)
    refine (hiff segments' m stmt hparts').mpr ⟨fun s hs => (harrays s hs).2, ?_⟩
    rw [filterMap_committedClaim_congr hcount]
    exact hself
  · -- What an issuer made is accepted as long as it is read back, which needs a bounded depth.
    intro hF disclosures hissued
    have hparts' : ∀ segment ∈ disclosures.map (·.encoded), IsPart segment := by
      intro segment hsegment
      obtain ⟨d, hd, rfl⟩ := List.mem_map.mp hsegment
      rw [(hissued d hd).eq_new]
      exact Disclosure.isPart_new _ _ _
    have harrays : (∀ segment ∈ disclosures.map (·.encoded), (segmentArray X segment).isSome) ↔
        ∀ d ∈ disclosures, d.value.depth < depthLimit := by
      rw [List.forall_mem_map]
      exact forall₂_congr fun d hd => (hissued d hd).isSome_segmentArray_iff hF
    constructor
    · intro m stmt'
      rw [hiff _ m stmt' hparts', harrays]
      refine and_congr_right fun hdepth => ?_
      rw [filterMap_committedClaim_issued hF hissued hdepth]
    · intro d hd
      rw [(hissued d hd).eq_new]
      exact Disclosure.fromStr_new_iff hF

end TrustStatement

/-! ## A sample statement -/

namespace Sample

/-- A disclosure that the entity is a state actor. -/
def actorDisclosure : Text := "WyJ0IiwiaXNTdGF0ZUFjdG9yIix0cnVlXQ"

/-- A disclosure that it is none. -/
def otherDisclosure : Text := "WyJ1IiwiaXNTdGF0ZUFjdG9yIixmYWxzZV0"

/-- What a disclosure with a value inside 127 arrays says. -/
def deepValue : Value := (fun v => Value.array [v])^[127] .null

/-- Crates with the digests of the disclosures. -/
def disclosureCrates : JoseCrates where
  toCrates := cratesOf [
    (22401, 0x87fb48780240c4e2bd2d94bee5325b2ab21f937aa7f32d2c176abb25e44766ba),
    (7391, 0xdfbd99d74d256950faed9f0b72034072465d7b3f99617baf868142e09656796f),
    (24591, 0xb0e77690126489a69d30828232f73731897390e6d66061bc313a95cc1afac122)] []
  base64Error _ := []
  serdeJsonBytesError _ := []
  p256FromSec1 _ := .error []
  p256Verify _ _ _ := false
  zlibDecode _ := .error []
  rfc3339 _ := none
  debugText t := t

/-- A payload that commits to the first disclosure, and to one whose value is too deep. -/
def disclosurePayload : Value := .ofFields [
  (Text.lit "_sd", .strings ["h_tIeAJAxOK9LZS-5TJbKrIfk3qn8y0sF2q7JeRHZro",
    "sOd2kBJkiaadMIKCMvc3MYlzkObWYGG8MTqVzBr6wSI"]),
  (Text.lit "iat", .number (.posInt 1735689600))]

/-- A JWT with the payload. -/
def disclosureJwt : Text :=
  let segment (v : Value) := Base64Url.encode (Text.utf8 (v.print disclosureCrates.f64))
  segment (.ofFields [(Text.lit "alg", .string "ES256"), (Text.lit "kid", .string "k")]) ++
    '.' :: segment disclosurePayload ++ '.' :: Base64Url.encode [0]

/-- The statement with the disclosures that the entity is a state actor and that it is none. -/
def disclosureText : Text := sdJwt disclosureJwt [actorDisclosure, otherDisclosure] 1

theorem exists_tryFromJwt_disclosureText : ∃ stmt,
    TrustStatement.tryFromJwt disclosureCrates disclosureText = .ok stmt ∧
      stmt.isStateActor = some true := by
  have hread : (TrustStatement.tryFromJwt disclosureCrates disclosureText).toOption.map
      TrustStatement.isStateActor = some (some true) := by decide +kernel
  cases hstmt : TrustStatement.tryFromJwt disclosureCrates disclosureText with
  | error e =>
    rw [hstmt] at hread
    cases hread
  | ok stmt =>
    rw [hstmt] at hread
    exact ⟨stmt, rfl, Option.some.inj hread⟩

/-- The second disclosure does not count. -/
theorem disclosureText_discloses : ∃ stmt jwt segments n payload,
    TrustStatement.tryFromJwt disclosureCrates disclosureText = .ok stmt ∧
    stmt.isStateActor = some true ∧ disclosureText = sdJwt jwt segments n ∧
    jwtPayload disclosureCrates jwt = some payload ∧
    ((segments.filterMap (committedClaim disclosureCrates (sdDigests payload))).filterMap
      stateActorOfClaim).getLast? = some true := by
  obtain ⟨stmt, hstmt, hactor⟩ := exists_tryFromJwt_disclosureText
  obtain ⟨jwt, segments, n, payload, htext, -, hpayload, -, hclaims, -⟩ :=
    TrustStatement.disclosed_eq_committed hstmt
  exact ⟨stmt, jwt, segments, n, payload, hstmt, hactor, htext, hpayload, hclaims ▸ hactor⟩

/-- The disclosure that is too deep. -/
def deepDisclosure : Disclosure := .new disclosureCrates "s" "isStateActor" deepValue

/-- The payload of an accepted statement commits to a disclosure as `Disclosure::new` makes it,
which neither decoder reads. -/
theorem deepDisclosure_refused : ∃ stmt,
    TrustStatement.tryFromJwt disclosureCrates disclosureText = .ok stmt ∧
      jwtPayload disclosureCrates disclosureJwt = some disclosurePayload ∧
      TrustStatement.Issued disclosureCrates (sdDigests disclosurePayload) deepDisclosure ∧
      Disclosure.fromStr disclosureCrates deepDisclosure.encoded ≠ .ok deepDisclosure ∧
      ∀ stmt', TrustStatement.tryFromJwt disclosureCrates
        (sdJwt disclosureJwt [deepDisclosure.encoded] 1) ≠ .ok stmt' := by
  obtain ⟨stmt, hstmt, -⟩ := exists_tryFromJwt_disclosureText
  have hpayload : jwtPayload disclosureCrates disclosureJwt = some disclosurePayload := by
    decide +kernel
  have hcommitted : IsCommitted disclosureCrates (sdDigests disclosurePayload)
      deepDisclosure.encoded := by decide +kernel
  have hdeep : ¬ deepValue.depth < depthLimit := by decide +kernel
  have hjwt : TrustStatement.IsPart disclosureJwt :=
    ⟨by decide +kernel, by decide +kernel⟩
  have hsegments : ∀ segment ∈ [deepDisclosure.encoded], TrustStatement.IsPart segment :=
    List.forall_mem_singleton.mpr (Disclosure.isPart_new _ _ _)
  have hsplit := TrustStatement.splitDisclosures_sdJwt
    (List.forall_mem_cons.mpr ⟨hjwt, hsegments⟩) 1
  refine ⟨stmt, hstmt, hpayload, ⟨rfl, hcommitted⟩, ?_, fun stmt' hread => ?_⟩
  · exact fun h => hdeep ((Disclosure.fromStr_new_iff lawful_f64).mp h)
  · -- Every segment of an accepted text decodes to an array.
    obtain ⟨payload, -, hiff⟩ := TrustStatement.tryFromJwt_of_jwt hread
    have harray := ((hiff _ rfl stmt').mp hread).1 deepDisclosure.encoded (by simp [hsplit])
    rw [deepDisclosure, Disclosure.segmentArray_new lawful_f64, if_neg hdeep] at harray
    cases harray

end Sample

end Swiyu
