import Swiyu.Lib.Text

/-!
# DIDs

`did:tdw` 0.3 and `did:webvh` 1.0 identifiers: their parts, their text and their parser.
-/

namespace Swiyu

/-- Which DID method an identifier uses. -/
inductive Method
  /-- `did:tdw`, Trust DID Web v0.3. -/
  | tdw
  /-- `did:webvh`, Web + Verifiable History v1.0. -/
  | webVh
  deriving DecidableEq

/-- The text before the SCID. -/
def Method.prefixText : Method → Text
  | tdw => "did:tdw:"
  | webVh => "did:webvh:"

/-- A domain is a `.`-separated sequence of non-empty segments. -/
def isValidDomain (domain : Text) : Bool :=
  !domain.isEmpty && (Text.split '.' domain).all fun seg => !seg.isEmpty

/-- A path is a `:`-separated list of non-empty segments. -/
def isValidPath (path : Text) : Bool :=
  !path.isEmpty && (Text.split ':' path).all fun seg => !seg.isEmpty

/-- A decentralized identifier. -/
structure DID where
  /-- Which DID method this identifier uses. -/
  method : Method
  /-- The self-certifying identifier, if present. -/
  scid : Option Text
  /-- The domain. -/
  domain : Text
  /-- The path, as a `:`-separated list of segments, if present. -/
  path : Option Text
  /-- No DID has an invalid domain. -/
  domain_valid : isValidDomain domain = true
  /-- No DID has an invalid path. -/
  path_valid : ∀ p ∈ path, isValidPath p = true
  deriving DecidableEq

/-- Why a DID is rejected. -/
inductive DIDError
  | missingPrefix
  | missingSCID
  | missingDomain
  | invalidDomain
  | invalidPath
  deriving DecidableEq

/-- The message of an error. -/
def DIDError.toText : DIDError → Text
  | missingPrefix => "DID must start with 'did:tdw:' or 'did:webvh:'"
  | missingSCID => "DID is missing the SCID component"
  | missingDomain => "DID is missing the domain component"
  | invalidDomain => "domain must be a '.'-separated sequence of non-empty segments"
  | invalidPath => "path must be a ':'-separated list of non-empty segments"

/-- The placeholder for a SCID that is not known yet. -/
def scidPlaceholder : Text := "{SCID}"

namespace DID

/-- Checks the parts of a DID. -/
def validateAndBuild (method : Method) (scid : Option Text) (domain : Text) (path : Option Text) :
    Except DIDError DID :=
  if hd : isValidDomain domain = true then
    if hp : ∀ p ∈ path, isValidPath p = true then .ok ⟨method, scid, domain, path, hd, hp⟩
    else .error .invalidPath
  else .error .invalidDomain

theorem noPath_valid : ∀ p ∈ (none : Option Text), isValidPath p = true := by simp

/-- Creates a `did:tdw` DID from its components. -/
def tryNewTdw := validateAndBuild .tdw

/-- Creates a `did:webvh` DID from its components. -/
def tryNewWebvh := validateAndBuild .webVh

/-- HTTPS URL where the DID's log is served. -/
def logUrl (did : DID) : Text :=
  let host := Text.replace "%3A" ":" did.domain
  match did.path with
  | some p => Text.lit "https://" ++ host ++ "/" ++ Text.replace ":" "/" p ++ "/did.jsonl"
  | none => Text.lit "https://" ++ host ++ "/.well-known/did.jsonl"

/-- Percent-encodes a character of a URL path segment. -/
def percentEncodeChar : Char → Text
  | ':' => "%3A"
  | '/' => "%2F"
  | '?' => "%3F"
  | '#' => "%23"
  | '%' => "%25"
  | ' ' => "%20"
  | c => [c]

/-- The text of a DID. -/
def toText (did : DID) : Text :=
  let base := did.method.prefixText ++ did.scid.getD scidPlaceholder ++ ':' :: did.domain
  match did.path with
  | some path => base ++ ':' :: path
  | none => base

/-- A DID as a percent-encoded URL path segment. -/
def urlPathSegment (did : DID) : Text := did.toText.flatMap percentEncodeChar

/-- Reads the part of a DID after its method: SCID, domain and, after a second colon, the path. -/
def fromParts (method : Method) (rest : Text) : Except DIDError DID :=
  match Text.splitN 3 ':' rest with
  | [] => .error .missingSCID
  | scidRaw :: parts =>
    let scid := if scidRaw = [] then none else some scidRaw
    match parts.head? with
    | none => .error .missingDomain
    | some [] => .error .missingDomain
    | some domain =>
      if hd : isValidDomain domain = true then
        match parts[1]? with
        | none => .ok ⟨method, scid, domain, none, hd, noPath_valid⟩
        | some p =>
          if hp : isValidPath p = true then
            .ok ⟨method, scid, domain, some p, hd, by simpa using hp⟩
          else .error .invalidPath
      else .error .invalidDomain

/-- Parses a DID. -/
def fromStr (s : Text) : Except DIDError DID :=
  match Text.stripPrefix "did:tdw:" s with
  | some rest => fromParts .tdw rest
  | none =>
    match Text.stripPrefix "did:webvh:" s with
    | some rest => fromParts .webVh rest
    | none => .error .missingPrefix

/-- A DID with a SCID has the text that it has been read from. -/
theorem toText_of_fromParts {method : Method} {rest : Text} {did : DID}
    (h : fromParts method rest = .ok did) (hscid : did.scid.isSome) :
    did.toText = method.prefixText ++ rest := by
  have hjoin : [':'].intercalate (Text.splitN 3 ':' rest) = rest := Text.intercalate_splitN
  have hlength : (Text.splitN 3 ':' rest).length ≤ 3 := Text.length_splitN_le
  rw [← hjoin]
  -- There are at most three parts: the SCID, the domain and the path.
  match hparts : Text.splitN 3 ':' rest with
  | [] | [_] | [_, []] | [_, [], _] => simp [fromParts, hparts] at h
  | [scid, c :: domain] =>
    simp only [fromParts, hparts, List.head?_cons] at h
    split at h
    · cases h
      -- Without a SCID there would be no text to compare with.
      by_cases hs : scid = [] <;> simp_all [toText]
    · cases h
  | [scid, c :: domain, path] =>
    simp only [fromParts, hparts, List.head?_cons] at h
    split at h
    · split at h
      next hno => cases hno
      next p hp =>
        split at h
        · cases h
          cases hp
          by_cases hs : scid = [] <;> simp_all [toText]
        · cases h
    · cases h
  | _ :: _ :: _ :: _ :: _ =>
    rw [hparts] at hlength
    simp only [List.length_cons] at hlength
    omega

/-- A parsed DID with a SCID has the text that it has been parsed from. -/
theorem toText_of_fromStr {s : Text} {did : DID} (h : fromStr s = .ok did)
    (hscid : did.scid.isSome) : did.toText = s := by
  rw [fromStr] at h
  split at h
  next rest hrest =>
    rw [toText_of_fromParts h hscid, Text.stripPrefix_eq_some_iff.mp hrest]
    rfl
  next =>
    split at h
    next rest hrest =>
      rw [toText_of_fromParts h hscid, Text.stripPrefix_eq_some_iff.mp hrest]
      rfl
    next => cases h

/-- The text of a DID, part by part. -/
theorem toText_eq_append (did : DID) : did.toText = did.method.prefixText ++
    did.scid.getD scidPlaceholder ++ ':' :: (did.domain ++
      (did.path.map fun p => ':' :: p).getD []) := by
  rw [toText]
  cases did.path <;> simp

/-- The text of a DID begins with the scheme, and then the method. -/
theorem exists_toText_eq (did : DID) : ∃ rest, did.toText = did.method.prefixText ++ rest := by
  refine ⟨did.scid.getD scidPlaceholder ++ ':' :: (did.domain ++
    (did.path.map fun p => ':' :: p).getD []), ?_⟩
  rw [toText]
  cases did.path <;> simp

/-- No DID is a `did:key`. -/
theorem stripPrefix_didKey_toText (did : DID) (t : Text) :
    Text.stripPrefix "did:key:" (did.toText ++ t) = none := by
  obtain ⟨rest, hrest⟩ := did.exists_toText_eq
  rw [hrest]
  cases did.method <;> rfl

end DID

end Swiyu
