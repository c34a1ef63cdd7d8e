import Mathlib.Data.Set.Subsingleton
import Swiyu.Core.Did
import Swiyu.Lib.Text.Join

/-!
# The grammar of DIDs

A DID is a method, a SCID, a domain and, possibly, a path, separated by colons. The SCID may be
empty, and then it is absent from what the parser makes of it.

## Main definitions

- `Swiyu.DID.Parts`: the components of the text of a DID.
- `Swiyu.DID.Parts.Spell`: the components are well formed and spell a text.

## Main results

- `Swiyu.DID.fromStr_accepts_grammar`: the parser accepts the grammar, which is unambiguous.
- `Swiyu.DID.agree_iff`: when the constructors, the text of a DID and the parser agree.
-/

namespace Swiyu

namespace DID

/-! ## The grammar -/

theorem isValidDomain_iff {domain : Text} :
    isValidDomain domain = true ↔ Text.IsSegments '.' domain := by
  rw [isValidDomain, Text.all_isEmpty_iff]

theorem isValidPath_iff {path : Text} : isValidPath path = true ↔ Text.IsSegments ':' path := by
  rw [isValidPath, Text.all_isEmpty_iff]

/-- The components of the text of a DID. -/
structure Parts where
  method : Method
  /-- The SCID, possibly empty. -/
  scid : Text
  domain : Text
  path : Option Text
  deriving DecidableEq

namespace Parts

/-- What follows the method. -/
def rest (parts : Parts) : Text :=
  parts.scid ++ ':' :: (parts.domain ++ (parts.path.map fun p => ':' :: p).getD [])

/-- The components are well formed, and they are those of the text. -/
structure Spell (parts : Parts) (s : Text) : Prop where
  text : s = parts.method.prefixText ++ parts.rest
  scid : ':' ∉ parts.scid
  domain : ':' ∉ parts.domain ∧ Text.IsSegments '.' parts.domain
  path : ∀ p ∈ parts.path, Text.IsSegments ':' p

/-- The DID has these components; an empty SCID is none. -/
structure Of (parts : Parts) (did : DID) : Prop where
  method : did.method = parts.method
  scid : did.scid = if parts.scid = [] then none else some parts.scid
  domain : did.domain = parts.domain
  path : did.path = parts.path

end Parts

/-! ## Splitting -/

variable {rest scid domain : Text} {path : Option Text}

/-- The two or three parts of what follows the method are separated by its first two colons. -/
theorem splitN_eq_iff : Text.splitN 3 ':' rest = scid :: domain :: path.toList ↔
    rest = scid ++ ':' :: (domain ++ (path.map fun p => ':' :: p).getD []) ∧
      ':' ∉ scid ∧ ':' ∉ domain := by
  -- What follows the SCID is divided at its first colon, if there is one.
  have hlast : ∀ r : Text, Text.splitN 2 ':' r = domain :: path.toList ↔
      r = domain ++ (path.map fun p => ':' :: p).getD [] ∧ ':' ∉ domain := by
    intro r
    rw [Text.splitN]
    cases hsplit : Text.splitOnce ':' r with
    | none =>
      have hr := Text.splitOnce_eq_none_iff.mp hsplit
      cases path with
      | none =>
        simp only [Option.toList_none, List.cons.injEq, and_true, Option.map_none,
          Option.getD_none, List.append_nil]
        exact ⟨fun h => ⟨h, h ▸ hr⟩, And.left⟩
      | some p =>
        -- There would be a colon before the path.
        refine ⟨fun h => by simp at h, fun h => absurd ?_ hr⟩
        rw [h.1]
        simp
    | some found =>
      obtain ⟨rfl, hfound⟩ := Text.splitOnce_eq_some_iff.mp hsplit
      show found.1 :: Text.splitN 1 ':' found.2 = _ ↔ _
      rw [Text.splitN]
      cases path with
      | none =>
        -- The domain would have a colon.
        refine ⟨fun h => by simp at h, fun h => absurd ?_ h.2⟩
        have hdomain : found.1 ++ ':' :: found.2 = domain := by simpa using h.1
        rw [← hdomain]
        simp
      | some p =>
        have hiff := Text.splitOnce_eq_some_iff (c := ':') (s := found.1 ++ ':' :: found.2)
          (a := domain) (b := p)
        rw [hsplit] at hiff
        simpa [Prod.ext_iff] using hiff
  rw [Text.splitN]
  cases hsplit : Text.splitOnce ':' rest with
  | none =>
    -- There would be a colon after the SCID.
    refine ⟨fun h => by simp at h, fun h => absurd ?_ (Text.splitOnce_eq_none_iff.mp hsplit)⟩
    rw [h.1]
    simp
  | some found =>
    show found.1 :: Text.splitN 2 ':' found.2 = _ ↔ _
    rw [List.cons.injEq, hlast]
    have hiff := Text.splitOnce_eq_some_iff (c := ':') (s := rest) (a := scid)
      (b := domain ++ (path.map fun p => ':' :: p).getD [])
    rw [hsplit, Option.some.injEq, Prod.ext_iff] at hiff
    rw [← and_assoc, hiff, and_assoc]

theorem Parts.Spell.splitN_rest {parts : Parts} {s : Text} (h : parts.Spell s) :
    Text.splitN 3 ':' parts.rest = parts.scid :: parts.domain :: parts.path.toList :=
  splitN_eq_iff.mpr ⟨rfl, h.scid, h.domain.1⟩

/-! ## The parser -/

theorem fromParts_eq_ok_iff {method : Method} {did : DID} :
    fromParts method rest = .ok did ↔
      ∃ scid, Text.splitN 3 ':' rest = scid :: did.domain :: did.path.toList ∧
        did.method = method ∧ did.scid = if scid = [] then none else some scid := by
  have hlength : (Text.splitN 3 ':' rest).length ≤ 3 := Text.length_splitN_le
  constructor
  · intro h
    unfold fromParts at h
    -- Two or three parts are accepted, and only with a domain that is not empty.
    match hparts : Text.splitN 3 ':' rest with
    | [] | [_] | [_, []] | [_, [], _] => simp [hparts] at h
    | [scid, c :: domain] =>
      simp only [hparts, List.head?_cons] at h
      split at h
      · cases h
        exact ⟨scid, rfl, rfl, rfl⟩
      · cases h
    | [scid, c :: domain, path] =>
      simp only [hparts, List.head?_cons] at h
      split at h
      · split at h
        next hno => cases hno
        next p hp =>
          cases hp
          split at h
          · cases h
            exact ⟨scid, rfl, rfl, rfl⟩
          · cases h
      · cases h
    | _ :: _ :: _ :: _ :: _ =>
      -- There are three parts at most.
      rw [hparts] at hlength
      simp only [List.length_cons] at hlength
      omega
  · rintro ⟨scid, hparts, hmethod, hscid⟩
    -- The domain and the path of a DID are valid, so the checks succeed.
    obtain ⟨method', scid', domain, path, hdomain, hpath⟩ := did
    dsimp only at hparts hmethod hscid
    subst hmethod hscid
    obtain ⟨c, domain, rfl⟩ := List.exists_cons_of_ne_nil (isValidDomain_iff.mp hdomain).ne_nil
    unfold fromParts
    cases path with
    | none => simp [hparts, hdomain]
    | some p =>
      have hp : isValidPath p = true := hpath p rfl
      simp [hparts, hdomain, hp]

/-- What follows the method is accepted when it has two or three well-formed components. -/
theorem fromParts_iff {method : Method} {did : DID} : fromParts method rest = .ok did ↔
    ∃ parts : Parts, parts.method = method ∧ parts.rest = rest ∧
      parts.Spell (method.prefixText ++ rest) ∧ parts.Of did := by
  rw [fromParts_eq_ok_iff]
  constructor
  · rintro ⟨scid, hparts, hmethod, hscid⟩
    obtain ⟨hrest, hscidColon, hdomainColon⟩ := splitN_eq_iff.mp hparts
    refine ⟨⟨method, scid, did.domain, did.path⟩, rfl, hrest.symm, ?_, ⟨hmethod, hscid, rfl, rfl⟩⟩
    exact {
      text := congrArg (method.prefixText ++ ·) hrest
      scid := hscidColon
      domain := ⟨hdomainColon, isValidDomain_iff.mp did.domain_valid⟩
      path := fun p hp => isValidPath_iff.mp (did.path_valid p hp) }
  · rintro ⟨parts, hmethod, hrest, hspell, hof⟩
    refine ⟨parts.scid, ?_, hof.method.trans hmethod, hof.scid⟩
    rw [hof.domain, hof.path]
    exact splitN_eq_iff.mpr ⟨hrest.symm, hspell.scid, hspell.domain.1⟩

/-- The methods are told apart by the text before the SCID. -/
theorem stripPrefix_prefixText (method method' : Method) (r : Text) :
    Text.stripPrefix method.prefixText (method'.prefixText ++ r) =
      if method = method' then some r else none := by
  cases method <;> cases method' <;> rfl

theorem fromStr_prefixText (method : Method) (r : Text) :
    fromStr (method.prefixText ++ r) = fromParts method r := by
  have htdw := stripPrefix_prefixText .tdw method r
  have hwebVh := stripPrefix_prefixText .webVh method r
  unfold fromStr
  change Text.stripPrefix (Text.lit "did:tdw:") _ = _ at htdw
  change Text.stripPrefix (Text.lit "did:webvh:") _ = _ at hwebVh
  rw [htdw, hwebVh]
  cases method <;> rfl

/-- A text without the prefix of a method is rejected. -/
theorem exists_prefixText_of_fromStr {s : Text} {did : DID} (h : fromStr s = .ok did) :
    ∃ (method : Method) (r : Text), s = method.prefixText ++ r := by
  unfold fromStr at h
  split at h
  · exact ⟨.tdw, _, Text.stripPrefix_eq_some_iff.mp ‹_›⟩
  · split at h
    · exact ⟨.webVh, _, Text.stripPrefix_eq_some_iff.mp ‹_›⟩
    · cases h

theorem fromStr_eq_ok_iff {s : Text} {did : DID} :
    fromStr s = .ok did ↔ ∃ parts : Parts, parts.Spell s ∧ parts.Of did := by
  constructor
  · intro h
    obtain ⟨method, r, hs⟩ := exists_prefixText_of_fromStr h
    rw [hs, fromStr_prefixText] at h
    obtain ⟨parts, _, _, hspell, hof⟩ := fromParts_iff.mp h
    exact ⟨parts, hs ▸ hspell, hof⟩
  · rintro ⟨parts, hspell, hof⟩
    have hs := hspell.text
    rw [hs, fromStr_prefixText]
    exact fromParts_iff.mpr ⟨parts, rfl, rfl, hs ▸ hspell, hof⟩

/-- No text has two decompositions. -/
theorem Parts.Spell.unique {parts parts' : Parts} {s : Text} (h : parts.Spell s)
    (h' : parts'.Spell s) : parts = parts' := by
  have htext := h.text.symm.trans h'.text
  have hmethod : parts.method = parts'.method := by
    have hstrip := stripPrefix_prefixText parts.method parts'.method parts'.rest
    rw [← htext, stripPrefix_prefixText, if_pos rfl] at hstrip
    by_contra hne
    rw [if_neg hne] at hstrip
    cases hstrip
  have hrest : parts.rest = parts'.rest := by
    rw [hmethod] at htext
    exact List.append_cancel_left htext
  -- The three-way split of the text determines the other components.
  have hsplit := h.splitN_rest
  rw [hrest, h'.splitN_rest] at hsplit
  obtain ⟨method, scid, domain, path⟩ := parts
  obtain ⟨method', scid', domain', path'⟩ := parts'
  simp only [List.cons.injEq] at hsplit
  obtain ⟨hscid, hdomain, hpath⟩ := hsplit
  have hpath' := congrArg List.head? hpath
  rw [Option.head?_toList, Option.head?_toList] at hpath'
  dsimp only at hmethod hpath'
  rw [hmethod, hscid, hdomain, hpath']

/-- The parser accepts a text exactly when it is a method, a SCID without a colon, a domain of
`.`-separated segments without a colon and possibly a path of `:`-separated segments, and then
yields these components; there is only one way to decompose a text so. -/
theorem fromStr_accepts_grammar (s : Text) :
    ((∃ did, fromStr s = .ok did) ↔ ∃ parts : Parts, parts.Spell s) ∧
      (∀ did, fromStr s = .ok did ↔ ∃ parts : Parts, parts.Spell s ∧ parts.Of did) ∧
      {parts : Parts | parts.Spell s}.Subsingleton := by
  refine ⟨⟨?_, ?_⟩, fun did => fromStr_eq_ok_iff, fun _ h _ h' => h.unique h'⟩
  · rintro ⟨did, h⟩
    obtain ⟨parts, hspell, _⟩ := fromStr_eq_ok_iff.mp h
    exact ⟨parts, hspell⟩
  · rintro ⟨parts, h⟩
    let did : DID := ⟨parts.method, if parts.scid = [] then none else some parts.scid, parts.domain,
      parts.path, isValidDomain_iff.mpr h.domain.2, fun p hp => isValidPath_iff.mpr (h.path p hp)⟩
    exact ⟨did, fromStr_eq_ok_iff.mpr ⟨parts, h, ⟨rfl, rfl, rfl, rfl⟩⟩⟩

/-! ## Agreement -/

theorem validateAndBuild_eq_ok_iff {method : Method} {scid? : Option Text} {did : DID} :
    validateAndBuild method scid? domain path = .ok did ↔
      did.method = method ∧ did.scid = scid? ∧ did.domain = domain ∧ did.path = path := by
  unfold validateAndBuild
  obtain ⟨method', scid', domain', path', hdomain, hpath⟩ := did
  constructor
  · intro h
    split at h
    · split at h
      · cases h
        exact ⟨rfl, rfl, rfl, rfl⟩
      · cases h
    · cases h
  · rintro ⟨hmethod, hscid, hdom, hpth⟩
    dsimp only at hmethod hscid hdom hpth
    subst hmethod hscid hdom hpth
    rw [dif_pos hdomain, dif_pos hpath]

/-- A DID with a SCID is spelled by its components. -/
theorem toText_eq {did : DID} (h : did.scid = some scid) :
    did.toText = did.method.prefixText ++ Parts.rest ⟨did.method, scid, did.domain, did.path⟩ := by
  unfold toText Parts.rest
  rw [h, Option.getD_some]
  cases did.path <;> simp

/-- A DID with a SCID is read back from its text when the SCID is not empty, and neither the SCID
nor the domain has a colon. -/
theorem fromStr_toText_iff {did : DID} (h : did.scid = some scid) :
    fromStr did.toText = .ok did ↔ scid ≠ [] ∧ ':' ∉ scid ∧ ':' ∉ did.domain := by
  rw [fromStr_eq_ok_iff]
  constructor
  · -- What has been parsed is spelled in one way, with neither colons nor an empty SCID.
    rintro ⟨parts, hspell, hof⟩
    have hscid := hof.scid
    rw [h] at hscid
    split_ifs at hscid with hempty
    obtain rfl := Option.some.inj hscid
    rw [hof.domain]
    exact ⟨hempty, hspell.scid, hspell.domain.1⟩
  · rintro ⟨hempty, hscidColon, hdomainColon⟩
    refine ⟨⟨did.method, scid, did.domain, did.path⟩, ?_, ⟨rfl, ?_, rfl, rfl⟩⟩
    · exact {
        text := toText_eq h
        scid := hscidColon
        domain := ⟨hdomainColon, isValidDomain_iff.mp did.domain_valid⟩
        path := fun p hp => isValidPath_iff.mp (did.path_valid p hp) }
    · rw [if_neg hempty, h]

/-- The text of a DID that has been read is the text that it has been read from, unless this has no
SCID: then the placeholder is put in. -/
theorem toText_eq_iff {s : Text} {did : DID} (h : fromStr s = .ok did) :
    did.toText = s ↔ ∀ method : Method, ¬ method.prefixText ++ [':'] <+: s := by
  obtain ⟨parts, hspell, hof⟩ := fromStr_eq_ok_iff.mp h
  have hrest (method : Method) (r : Text) (hs : method.prefixText ++ [':'] ++ r = s) :
      parts.scid = [] := by
    -- The text has one method only, and its SCID has no colon.
    have hstrip := stripPrefix_prefixText method parts.method parts.rest
    rw [← hspell.text, ← hs, List.append_assoc, Text.stripPrefix_append] at hstrip
    split_ifs at hstrip
    have hcolon := Option.some.inj hstrip
    unfold Parts.rest at hcolon
    cases hscid : parts.scid with
    | nil => rfl
    | cons c scid =>
      rw [hscid] at hcolon
      have hc : ':' = c := (List.cons.inj hcolon).1
      exact absurd (hscid ▸ hc ▸ List.mem_cons_self) hspell.scid
  by_cases hempty : parts.scid = []
  · refine ⟨fun htext => ?_, fun hno => ?_⟩
    · have hscid : did.scid = none := by rw [hof.scid, if_pos hempty]
      have hs := hspell.text
      unfold toText at htext
      unfold Parts.rest at hs
      rw [hscid, hof.method] at htext
      rw [hempty] at hs
      -- After the method one has a brace and the other a colon.
      cases hpath : did.path <;> rw [hpath, hs] at htext <;>
        simp [scidPlaceholder, Text.lit] at htext
    · refine absurd ⟨parts.domain ++ (parts.path.map fun p => ':' :: p).getD [], ?_⟩
        (hno parts.method)
      have hs := hspell.text
      unfold Parts.rest at hs
      rw [hs, hempty]
      simp
  · -- With a SCID the text is read back, and has no colon right after the method.
    refine ⟨fun _ method hprefix => ?_, fun _ => ?_⟩
    · obtain ⟨r, hr⟩ := hprefix
      exact hempty (hrest method r hr)
    · refine toText_of_fromStr h ?_
      rw [hof.scid, if_neg hempty]
      rfl

/-- A DID built with a SCID is read back from its text exactly when the SCID is not empty, and
neither the SCID nor the domain has a colon; a text that is read is written back exactly when its
SCID is not empty. -/
theorem agree_iff (scid domain : Text) (path : Option Text) (s : Text) (did : DID) :
    ((tryNewTdw (some scid) domain path = .ok did ∨
        tryNewWebvh (some scid) domain path = .ok did) →
      (fromStr did.toText = .ok did ↔ scid ≠ [] ∧ ':' ∉ scid ∧ ':' ∉ domain)) ∧
    (fromStr s = .ok did →
      (did.toText = s ↔ ∀ method : Method, ¬ method.prefixText ++ [':'] <+: s)) := by
  refine ⟨fun h => ?_, toText_eq_iff⟩
  have hscid : did.scid = some scid ∧ did.domain = domain := by
    rcases h with h | h
    · obtain ⟨_, hscid, hdomain, _⟩ := validateAndBuild_eq_ok_iff.mp h
      exact ⟨hscid, hdomain⟩
    · obtain ⟨_, hscid, hdomain, _⟩ := validateAndBuild_eq_ok_iff.mp h
      exact ⟨hscid, hdomain⟩
  rw [fromStr_toText_iff hscid.1, hscid.2]

end DID

/-! ## Sample DIDs -/

namespace Sample

open DID

theorem isValidDomain_host : isValidDomain "example.com" = true := by decide

theorem isValidPath_host : ∀ p ∈ some (Text.lit "dids:issuer"), isValidPath p = true := by decide

/-- The DID of a host with a path. -/
def hostDid : DID :=
  ⟨.tdw, some "abc123", "example.com", some "dids:issuer", isValidDomain_host, isValidPath_host⟩

/-- A DID whose domain has a port. -/
def portDid : DID := ⟨.tdw, some "abc123", "example.com:3000", none, by decide, noPath_valid⟩

/-- A DID without a SCID. -/
def noScidDid : DID := ⟨.tdw, none, "example.com", none, by decide, noPath_valid⟩

theorem hostDid_agrees :
    (fromStr hostDid.toText = .ok hostDid ↔
      Text.lit "abc123" ≠ [] ∧ ':' ∉ Text.lit "abc123" ∧ ':' ∉ Text.lit "example.com") ∧
    (hostDid.toText = Text.lit "did:tdw:abc123:example.com:dids:issuer" ↔
      ∀ method : Method,
        ¬ method.prefixText ++ [':'] <+: Text.lit "did:tdw:abc123:example.com:dids:issuer") :=
  have h := agree_iff "abc123" "example.com" (some "dids:issuer")
    "did:tdw:abc123:example.com:dids:issuer" hostDid
  ⟨h.1 (.inl (by decide)), h.2 (by decide)⟩

/-- A port becomes a path when it is read back, and a missing SCID is written as the placeholder. -/
theorem portDid_disagrees :
    (tryNewTdw (some "abc123") "example.com:3000" none = .ok portDid ∧
      fromStr portDid.toText ≠ .ok portDid) ∧
    fromStr "did:tdw::example.com" = .ok noScidDid ∧
      noScidDid.toText ≠ Text.lit "did:tdw::example.com" := by
  decide

end Sample

end Swiyu
