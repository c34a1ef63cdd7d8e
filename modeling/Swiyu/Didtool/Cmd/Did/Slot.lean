import Swiyu.Didtool.Cmd.Did.Location
import Swiyu.Didtool.Cmd.Did.Update
import Swiyu.Registries.Identifier

/-!
# The registry slot of a created DID

A created DID is published under the identifier that the registry client has read from the URL of
its space, and later versions of its log under the one that is read from the DID.

## Main definitions

- `Swiyu.Create.KeepsSlot`: the URLs of spaces from which both read the same.

## Main results

- `Swiyu.Create.same_identifier_iff`: when the log keeps its slot.
-/

namespace Swiyu

namespace Create

variable {url rest : Text}

/-! ## The identifier of a space -/

theorem extractIdentifier_eq (url : Text) : extractIdentifier url =
    (Text.segments '/' ((Text.stripSuffix "/did.jsonl" url).getD url)).getLast? :=
  Text.getLast?_split_trimEndMatches _

theorem pathSegments_eq (path : Text) : pathSegments path =
    if (Text.segments '/' path).getLast? = some (Text.lit "did.jsonl") then
      (Text.segments '/' path).dropLast
    else Text.segments '/' path := rfl

/-- The segments of a URL are its scheme, its host and the segments of its path. -/
theorem segments_url (h : (splitHost rest).1 ≠ []) :
    Text.segments '/' (Text.lit "https://" ++ rest) =
      Text.lit "https:" :: (splitHost rest).1 :: Text.segments '/' (splitHost rest).2 := by
  have hscheme :
      Text.lit "https://" ++ rest = Text.lit "https:" ++ '/' :: ([] ++ '/' :: rest) := rfl
  have hempty : Text.segments '/' [] = [] := rfl
  rw [hscheme, Text.segments_append, Text.segments_append, hempty,
    Text.segments_of_notMem (by decide) (by decide)]
  unfold splitHost at h ⊢
  cases hsplit : Text.splitOnce '/' rest with
  | none =>
    rw [hsplit] at h
    rw [Text.segments_of_notMem (Text.splitOnce_eq_none_iff.mp hsplit) h]
    rfl
  | some parts =>
    rw [hsplit] at h
    obtain ⟨hrest, hhost⟩ := Text.splitOnce_eq_some_iff.mp hsplit
    rw [hrest, Text.segments_append, Text.segments_of_notMem hhost h]
    rfl

theorem segments_append_log (y : Text) : Text.segments '/' (y ++ Text.lit "/did.jsonl") =
    Text.segments '/' y ++ [Text.lit "did.jsonl"] := by
  have hlog : Text.segments '/' (Text.lit "did.jsonl") = [Text.lit "did.jsonl"] :=
    Text.segments_of_notMem (by decide) (by decide)
  rw [← hlog]
  exact Text.segments_append _ _

/-! ## The identifier of a DID -/

/-- The last part of a path is that of its last segment. -/
theorem getLast?_split_intercalate (before : List Text) (last : Text) :
    (Text.split ':' ([':'].intercalate (before ++ [last]))).getLast? =
      (Text.split ':' last).getLast? := by
  induction before with
  | nil => rw [List.nil_append, List.intercalate_singleton]
  | cons w before ih =>
    rw [List.cons_append, List.intercalate_cons_of_ne_nil (by simp), List.append_assoc,
      List.singleton_append, Text.split_append, List.getLast?_append, ih]
    rw [List.getLast?_eq_some_getLast Text.split_ne_nil, Option.some_or]

theorem extractRegistryIdentifier_eq {did : DID} {segments : List Text}
    (hpath : did.path = didPath segments) : extractRegistryIdentifier did =
      if segments = [] ∨ segments = [Text.lit ".well-known"] then none
      else segments.getLast?.bind fun last => (Text.split ':' last).getLast? := by
  have hvalid := did.path_valid
  unfold extractRegistryIdentifier
  rw [hpath] at hvalid ⊢
  unfold didPath at hvalid ⊢
  by_cases hroot : segments = [] ∨ segments = [Text.lit ".well-known"]
  · rw [if_pos hroot, if_pos hroot]
    rfl
  · rw [if_neg hroot] at hvalid
    rw [if_neg hroot, if_neg hroot, Option.bind_some]
    obtain ⟨before, last, rfl⟩ : ∃ before last, segments = before ++ [last] :=
      ⟨_, _, (List.dropLast_append_getLast (not_or.mp hroot).1).symm⟩
    rw [getLast?_split_intercalate, List.getLast?_concat, Option.bind_some]
    -- No part of a path is empty.
    have hsegments := DID.isValidPath_iff.mp (hvalid _ rfl)
    have hlast := getLast?_split_intercalate before last
    rw [List.getLast?_eq_some_getLast (Text.split_ne_nil (c := ':') (s := last))] at hlast ⊢
    have hne := Text.isSegments_iff.mp hsegments _ (List.mem_of_getLast? hlast)
    simp [hne]

/-! ## The slot -/

/-- The URL ends with the name of the log, followed by slashes. -/
def EndsInSlashedLog (url : Text) : Prop :=
  ∃ n, Text.lit "/did.jsonl" ++ List.replicate (n + 1) '/' <:+ url

/-- The path of the URL has a segment besides the name of the log at its end and is not the root
path, and the last such segment has no colon; but when slashes follow the name of the log, this name
has to be what follows the last colon of the segment, too. -/
def KeepsSlot (url : Text) : Prop :=
  ∃ rest before last, url = Text.lit "https://" ++ rest ∧
    pathSegments (splitHost rest).2 = before ++ [last] ∧
    before ++ [last] ≠ [Text.lit ".well-known"] ∧
    (EndsInSlashedLog url → (Text.split ':' last).getLast? = some (Text.lit "did.jsonl")) ∧
    (¬ EndsInSlashedLog url → ':' ∉ last)

theorem exists_rest_of_components {components : Text × Option Text}
    (h : urlToDidComponents url = .ok components) : ∃ rest, url = Text.lit "https://" ++ rest := by
  unfold urlToDidComponents at h
  obtain ⟨rest, hrest, _⟩ := Except.bind_eq_ok_iff.mp h
  exact ⟨rest, Text.stripPrefix_eq_some_iff.mp (Option.okOr_eq_ok_iff.mp hrest)⟩

theorem keepsSlot_iff : KeepsSlot (Text.lit "https://" ++ rest) ↔
    ∃ before last, pathSegments (splitHost rest).2 = before ++ [last] ∧
      before ++ [last] ≠ [Text.lit ".well-known"] ∧
      (EndsInSlashedLog (Text.lit "https://" ++ rest) →
        (Text.split ':' last).getLast? = some (Text.lit "did.jsonl")) ∧
      (¬ EndsInSlashedLog (Text.lit "https://" ++ rest) → ':' ∉ last) := by
  constructor
  · rintro ⟨rest', before, last, hurl, h⟩
    obtain rfl := List.append_cancel_left hurl
    exact ⟨before, last, h⟩
  · rintro ⟨before, last, h⟩
    exact ⟨rest, before, last, rfl, h⟩

/-- A URL whose last segment is the name of the log ends with this name, and possibly slashes. -/
theorem exists_eq_append_log {before : List Text} (hne : before ≠ [])
    (h : Text.segments '/' url = before ++ [Text.lit "did.jsonl"]) :
    ∃ y n, url = y ++ Text.lit "/did.jsonl" ++ List.replicate n '/' := by
  obtain ⟨⟨n, hn⟩, hlast⟩ := Text.exists_trimEndMatches '/' url
  generalize Text.trimEndMatches '/' url = t at hn hlast
  have hsegments : Text.segments '/' t = before ++ [Text.lit "did.jsonl"] := by
    rw [← h, hn, Text.segments_append_replicate]
  have ht : t ≠ [] := by
    rintro rfl
    exact absurd hsegments.symm (by simp [Text.segments, Text.split])
  -- Without the slashes at the end, the last part is not empty, and is the last segment.
  obtain ⟨parts, last, hparts, hlastNe⟩ := Text.getLast?_split ht hlast
  have hfilter : Text.segments '/' t = (parts.filter fun w => w ≠ []) ++ [last] := by
    unfold Text.segments
    rw [hparts, List.filter_append]
    simp [hlastNe]
  obtain ⟨hbefore, hlog⟩ := List.append_inj' (hfilter.symm.trans hsegments) rfl
  have hpartsNe : parts ≠ [] := by
    rintro rfl
    exact hne hbefore.symm
  refine ⟨['/'].intercalate parts, n, ?_⟩
  rw [hn]
  congr 1
  rw [← Text.intercalate_split '/' t, hparts, (List.cons.inj hlog).1,
    Text.intercalate_concat hpartsNe]
  rfl

/-- What the registry client reads from the URL, given the last segment of the path of the DID. -/
theorem extractIdentifier_of_segments {x last : Text} {before : List Text}
    (hx : extractIdentifier (Text.lit "https://" ++ rest) = some x)
    (hhost : (splitHost rest).1 ≠ [])
    (h : pathSegments (splitHost rest).2 = before ++ [last]) :
    (EndsInSlashedLog (Text.lit "https://" ++ rest) → x = Text.lit "did.jsonl") ∧
      (¬ EndsInSlashedLog (Text.lit "https://" ++ rest) → x = last) := by
  have hsegments := segments_url hhost
  rw [extractIdentifier_eq] at hx
  rw [pathSegments_eq] at h
  generalize Text.lit "https://" ++ rest = url at hsegments hx
  generalize (splitHost rest).1 = host at hsegments
  generalize Text.segments '/' (splitHost rest).2 = segments at hsegments h
  -- A URL that ends in the name of the log and slashes has that name for its last segment.
  have hslashed : EndsInSlashedLog url →
      (Text.segments '/' url).getLast? = some (Text.lit "did.jsonl") := by
    rintro ⟨n, y, hy⟩
    rw [← hy, ← List.append_assoc, Text.segments_append_replicate, segments_append_log,
      List.getLast?_concat]
  cases hsuffix : Text.stripSuffix "/did.jsonl" url with
  | some v =>
    -- The URL ends in the name of the log, which the client strips off.
    have hurl := Text.stripSuffix_eq_some_iff.mp hsuffix
    rw [hsuffix, Option.getD_some] at hx
    have hno : ¬ EndsInSlashedLog url := by
      rintro ⟨n, y, hy⟩
      have hlast := congrArg List.getLast? (hy.trans hurl)
      rw [List.replicate_succ', ← List.append_assoc, ← List.append_assoc, List.getLast?_concat,
        List.getLast?_append] at hlast
      exact absurd (Option.some.inj hlast) (by decide)
    refine ⟨fun hends => absurd hends hno, fun _ => ?_⟩
    -- The name of the log is the last segment, and the identifier the one before.
    have hv : Text.segments '/' url = Text.segments '/' v ++ [Text.lit "did.jsonl"] := by
      rw [hurl, segments_append_log]
    rw [hsegments] at hv
    cases segments using List.reverseRecOn with
    | nil => simp at h
    | append_singleton segments seg _ =>
      rw [← List.cons_append, ← List.cons_append] at hv
      obtain ⟨hinit, hseg⟩ := List.append_inj' hv rfl
      obtain rfl := (List.cons.inj hseg).1
      rw [List.getLast?_concat, if_pos rfl, List.dropLast_concat] at h
      rw [← hinit, h, ← List.cons_append, ← List.cons_append, List.getLast?_concat] at hx
      exact (Option.some.inj hx).symm
  | none =>
    rw [hsuffix, Option.getD_none] at hx
    -- The client takes the last segment as it is.
    refine ⟨fun hends => ?_, fun hno => ?_⟩
    · rw [hslashed hends] at hx
      exact (Option.some.inj hx).symm
    · -- The last segment is not the name of the log, or else that name would be stripped off or be
      -- followed by slashes.
      have hlast : segments.getLast? ≠ some (Text.lit "did.jsonl") := by
        intro hlog
        obtain ⟨init, rfl⟩ := List.getLast?_eq_some_iff.mp hlog
        rw [← List.cons_append, ← List.cons_append] at hsegments
        obtain ⟨y, n, hurl⟩ := exists_eq_append_log (List.cons_ne_nil _ _) hsegments
        cases n with
        | zero =>
          rw [List.replicate_zero, List.append_nil] at hurl
          rw [Text.stripSuffix_eq_some_iff.mpr hurl] at hsuffix
          cases hsuffix
        | succ n => exact hno ⟨n, y, by rw [hurl, List.append_assoc]⟩
      rw [if_neg hlast] at h
      rw [hsegments, h, ← List.cons_append, ← List.cons_append, List.getLast?_concat] at hx
      exact (Option.some.inj hx).symm

/-- The identifier that the registry client has read from the URL is read from the DID, too, exactly
when the URL keeps its slot. -/
theorem same_identifier_iff {format : LogEntryFormat} {scid : Option Text} {domain x : Text}
    {didPath? : Option Text} {did : DID} (hx : extractIdentifier url = some x)
    (hcomponents : urlToDidComponents url = .ok (domain, didPath?))
    (hdid : buildDid format scid domain didPath? = .ok did) :
    extractRegistryIdentifier did = some x ↔ KeepsSlot url := by
  obtain ⟨rest, rfl⟩ := exists_rest_of_components hcomponents
  obtain ⟨hhost, -, hpath⟩ := urlToDidComponents_eq_ok_iff.mp hcomponents
  rw [← (buildDid_eq_ok hdid).2] at hpath
  rw [extractRegistryIdentifier_eq hpath.symm, keepsSlot_iff]
  have hcases := fun before last => @extractIdentifier_of_segments rest x last before hx hhost
  generalize pathSegments (splitHost rest).2 = segments at hcases
  -- The last segment of the path decides; without one the DID has no path.
  cases segments using List.reverseRecOn with
  | nil => simp
  | append_singleton before last _ =>
    obtain ⟨hslashed, hplain⟩ := hcases before last rfl
    -- `.well-known` alone stands for no path at all.
    by_cases hroot : before ++ [last] = [Text.lit ".well-known"]
    · rw [if_pos (.inr hroot)]
      refine ⟨(fun h => by cases h), fun ⟨before', last', heq, hne, _⟩ => absurd ?_ hne⟩
      rw [← heq, hroot]
    · rw [if_neg (by simp [hroot]), List.getLast?_concat, Option.bind_some]
      -- A colon in the last segment divides it in the DID.
      have hcolon : (Text.split ':' last).getLast? = some last ↔ ':' ∉ last := by
        refine ⟨fun h => Text.notMem_of_mem_split (List.mem_of_getLast? h), fun h => ?_⟩
        rw [Text.split_of_notMem h]
        rfl
      constructor
      · intro h
        refine ⟨before, last, rfl, hroot, fun hends => ?_, fun hno => ?_⟩
        · rw [h, hslashed hends]
        · rw [hplain hno] at h
          exact hcolon.mp h
      · rintro ⟨before', last', heq, _, hends, hno⟩
        obtain rfl : last = last' := (List.cons.inj (List.append_inj' heq rfl).2).1
        by_cases hends' : EndsInSlashedLog (Text.lit "https://" ++ rest)
        · rw [hslashed hends']
          exact hends hends'
        · rw [hplain hends']
          exact hcolon.mpr (hno hends')

end Create

/-! ## Sample spaces -/

namespace Sample

open Create

/-- The URL of a space, followed by slashes or not. -/
def spaceUrl (n : ℕ) : Text :=
  Text.lit "https://identifier-reg.swiyu.admin.ch/api/v1/did/fce949f2/did.jsonl" ++
    List.replicate n '/'

/-- The DID that is created in the space. -/
def spaceDid : DID := ⟨.tdw, some "abc123", "identifier-reg.swiyu.admin.ch",
  some "api:v1:did:fce949f2", by decide, by decide⟩

theorem spaceDid_keepsSlot :
    extractRegistryIdentifier spaceDid = some (Text.lit "fce949f2") ↔ KeepsSlot (spaceUrl 0) := by
  have hx : extractIdentifier (spaceUrl 0) = some (Text.lit "fce949f2") := by decide
  have hcomponents : urlToDidComponents (spaceUrl 0) = .ok
      (Text.lit "identifier-reg.swiyu.admin.ch", some (Text.lit "api:v1:did:fce949f2")) := by decide
  have hdid : buildDid .tdw03 (some "abc123") "identifier-reg.swiyu.admin.ch"
      (some "api:v1:did:fce949f2") = .ok spaceDid := by decide
  exact same_identifier_iff hx hcomponents hdid

/-- With a slash at the end of the URL, the name of the log is taken for the identifier. -/
theorem spaceDid_losesSlot : extractIdentifier (spaceUrl 1) = some (Text.lit "did.jsonl") ∧
    urlToDidComponents (spaceUrl 1) = .ok (Text.lit "identifier-reg.swiyu.admin.ch",
      some (Text.lit "api:v1:did:fce949f2")) ∧
    buildDid .tdw03 (some "abc123") "identifier-reg.swiyu.admin.ch" (some "api:v1:did:fce949f2") =
      .ok spaceDid ∧
    extractRegistryIdentifier spaceDid = some (Text.lit "fce949f2") ∧
    extractRegistryIdentifier spaceDid ≠ some (Text.lit "did.jsonl") := by
  decide

end Sample

end Swiyu
