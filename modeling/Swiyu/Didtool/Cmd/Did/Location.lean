import Swiyu.Core.Did.Grammar
import Swiyu.Didtool.Cmd.Did.Create
import Swiyu.Lib.Text.Join
import Swiyu.Lib.Text.Replace

/-!
# Where the log of a created DID is served

The URL that is given to the creation is taken apart into a domain and a path, from which the DID is
built, and the URL of its log is put together from these again.

## Main definitions

- `Swiyu.Create.IsHttpsUrl`: the host and the path of a URL, and what follows them.
- `Swiyu.Create.location`: where the log is meant to be served.

## Main results

- `Swiyu.Create.logUrl_eq_location_iff`: when the log is looked for where it was meant to be.
-/

namespace Swiyu

namespace Create

/-! ## URLs -/

/-- The URL has this host (with its port) and this path, followed by a query or a fragment if `rest`
is not empty. -/
structure IsHttpsUrl (url host path rest : Text) : Prop where
  text : url = Text.lit "https://" ++ (host ++ (path ++ rest))
  host : '/' ∉ host ∧ '?' ∉ host ∧ '#' ∉ host
  path : (path = [] ∨ ∃ p, path = '/' :: p) ∧ '?' ∉ path ∧ '#' ∉ path
  rest : rest = [] ∨ ∃ r, rest = '?' :: r ∨ rest = '#' :: r

/-- The place of the log on a host: the segments of the path, without the name of the log, or
`.well-known` when there is none. -/
def location (host path : Text) : Text :=
  Text.lit "https://" ++ (host ++ '/' ::
    ((if pathSegments path = [] then Text.lit ".well-known"
      else ['/'].intercalate (pathSegments path)) ++ Text.lit "/did.jsonl"))

variable {url host path rest : Text}

theorem urlToDidComponents_eq_ok_iff {domain : Text} {didPath? : Option Text} :
    urlToDidComponents (Text.lit "https://" ++ rest) = .ok (domain, didPath?) ↔
      (splitHost rest).1 ≠ [] ∧ didHost (splitHost rest).1 = domain ∧
        didPath (pathSegments (splitHost rest).2) = didPath? := by
  unfold urlToDidComponents
  rw [Text.stripPrefix_append, Option.okOr_some, Except.ok_bind]
  by_cases hhost : (splitHost rest).1 = []
  · simp [hhost, Except.ensure]
  · simp [hhost, Except.ensure, pure, Except.pure]

theorem buildDid_eq_ok {format : LogEntryFormat} {scid : Option Text} {domain : Text}
    {path : Option Text} {did : DID} (h : buildDid format scid domain path = .ok did) :
    did.domain = domain ∧ did.path = path := by
  unfold buildDid at h
  cases format with
  | tdw03 => exact (DID.validateAndBuild_eq_ok_iff.mp h).2.2
  | webVH10 => exact (DID.validateAndBuild_eq_ok_iff.mp h).2.2

/-- The path begins with the slash that ends the host. -/
theorem splitHost_eq (hhost : '/' ∉ host) (hpath : path = [] ∨ ∃ p, path = '/' :: p) :
    splitHost (host ++ path) = (host, path.tail) := by
  unfold splitHost
  rcases hpath with rfl | ⟨p, rfl⟩
  · rw [List.append_nil, Text.splitOnce_eq_none_iff.mpr hhost]
    rfl
  · rw [Text.splitOnce_eq_some_iff.mpr ⟨rfl, hhost⟩]
    rfl

theorem pathSegments_tail (hpath : path = [] ∨ ∃ p, path = '/' :: p) :
    pathSegments path.tail = pathSegments path := by
  rcases hpath with rfl | ⟨p, rfl⟩
  · rfl
  · unfold pathSegments
    rw [List.tail_cons, Text.split_cons, if_pos rfl]
    simp

/-! ## The host -/

theorem didHost_of_notMem (h : ':' ∉ host) : didHost host = host := by
  unfold didHost
  rw [Text.splitOnce_eq_none_iff.mpr h]

theorem didHost_append {name port : Text} (h : ':' ∉ name) :
    didHost (name ++ ':' :: port) = name ++ Text.lit "%3A" ++ port := by
  unfold didHost
  rw [Text.splitOnce_eq_some_iff.mpr ⟨rfl, h⟩]

/-- The host comes back exactly when it has no percent-encoded colon of its own. -/
theorem replace_didHost_iff :
    Text.replace (Text.lit "%3A") (Text.lit ":") (didHost host) = host ↔
      ¬ Text.lit "%3A" <:+: host := by
  have hne : Text.lit "%3A" ≠ [] := by decide
  constructor
  · intro h
    rw [← h]
    exact Text.not_infix_replace hne (by decide)
  · intro h
    cases hport : Text.splitOnce ':' host with
    | none =>
      rw [didHost_of_notMem (Text.splitOnce_eq_none_iff.mp hport), Text.replace_eq_self hne h]
    | some parts =>
      obtain ⟨hparts, hname⟩ := Text.splitOnce_eq_some_iff.mp hport
      -- The first colon is the one that has been encoded, and the only one that is decoded.
      rw [hparts] at h ⊢
      have hleft : ¬ Text.lit "%3A" <:+: parts.1 :=
        fun hi => h (hi.trans (List.infix_append' [] _ _))
      have hright : ¬ Text.lit "%3A" <:+: parts.2 := by
        intro hi
        refine h (hi.trans ?_)
        exact (List.suffix_cons ':' _).isInfix.trans (List.suffix_append _ _).isInfix
      have hreplace := @Text.replace_append_pattern (Text.lit ":") '%' ['3', 'A'] parts.1 parts.2
        (by decide) hleft
      rw [didHost_append hname]
      refine hreplace.trans ?_
      change _ ++ Text.replace (Text.lit "%3A") _ _ = _
      rw [Text.replace_eq_self hne hright, List.append_assoc]
      rfl

/-- The characters of a host are those of its encoded form, but for the colon. -/
theorem mem_didHost {c : Char} (hc : c ≠ ':') (h : c ∈ host) : c ∈ didHost host := by
  cases hport : Text.splitOnce ':' host with
  | none => rwa [didHost_of_notMem (Text.splitOnce_eq_none_iff.mp hport)]
  | some parts =>
    obtain ⟨hparts, hname⟩ := Text.splitOnce_eq_some_iff.mp hport
    rw [hparts] at h ⊢
    rw [didHost_append hname]
    simp only [List.mem_append, List.mem_cons, hc, false_or] at h ⊢
    exact h.elim (fun h => .inl (.inl h)) .inr

theorem slash_notMem_didHost (h : '/' ∉ host) : '/' ∉ didHost host := by
  cases hport : Text.splitOnce ':' host with
  | none => rwa [didHost_of_notMem (Text.splitOnce_eq_none_iff.mp hport)]
  | some parts =>
    obtain ⟨hparts, hname⟩ := Text.splitOnce_eq_some_iff.mp hport
    rw [hparts] at h ⊢
    rw [didHost_append hname]
    have hpercent : '/' ∉ Text.lit "%3A" := by decide
    simp only [List.mem_append, List.mem_cons, not_or] at h ⊢
    exact ⟨⟨h.1, hpercent⟩, h.2.2⟩

/-! ## The path -/

/-- The segments of a path as they are written in the URL of the log. -/
def logPath (segments : List Text) : Text :=
  if segments = [] then Text.lit ".well-known"
  else Text.replace (Text.lit ":") (Text.lit "/") ([':'].intercalate segments)

/-- The URL of the log of a DID that has been built from a host and the segments of a path. -/
theorem logUrl_eq {did : DID} {segments : List Text} (hdomain : did.domain = didHost host)
    (hpath : did.path = didPath segments) :
    did.logUrl = Text.lit "https://" ++
      (Text.replace (Text.lit "%3A") (Text.lit ":") (didHost host) ++
        '/' :: (logPath segments ++ Text.lit "/did.jsonl")) := by
  unfold DID.logUrl logPath
  rw [hdomain, hpath]
  unfold didPath
  by_cases hempty : segments = []
  · rw [if_pos (.inl hempty), if_pos hempty]
    simp [Text.lit]
  · by_cases hroot : segments = [Text.lit ".well-known"]
    · have hreplace : Text.replace (Text.lit ":") (Text.lit "/") (Text.lit ".well-known") =
          Text.lit ".well-known" := by decide
      rw [if_pos (.inr hroot), if_neg hempty, hroot, List.intercalate_singleton, hreplace]
      simp [Text.lit]
    · rw [if_neg (by simp [hempty, hroot]), if_neg hempty]
      simp [Text.lit]

/-- Each segment is written as it is when none has a colon. -/
theorem replace_intercalate_iff (segments : List Text) :
    Text.replace (Text.lit ":") (Text.lit "/") ([':'].intercalate segments) =
      ['/'].intercalate segments ↔ ∀ seg ∈ segments, ':' ∉ seg := by
  have hreplace := Text.replace_singleton ':' '/'
  constructor
  · -- A segment with a colon would bring it to the right side.
    intro h seg hseg hcolon
    -- The left side has no colon at all.
    have hmem : ':' ∈ ['/'].intercalate segments := by
      obtain ⟨before, after, rfl⟩ := List.append_of_mem hseg
      clear h hseg
      induction before with
      | nil => cases after <;> simp [hcolon]
      | cons w before ih =>
        rw [List.cons_append, List.intercalate_cons_of_ne_nil (by simp)]
        exact List.mem_append_right _ ih
    rw [← h] at hmem
    refine absurd (List.mem_map.mp (hreplace _ ▸ hmem)) ?_
    rintro ⟨c, _, hc⟩
    split_ifs at hc with hcolon'
    · exact absurd hc (by decide)
    · exact hcolon' hc
  · intro h
    refine (hreplace _).trans ?_
    -- Without colons the replacement changes the separators only.
    induction segments with
    | nil => rfl
    | cons seg segments ih =>
      have hseg : seg.map (fun c => if c = ':' then '/' else c) = seg := by
        refine (List.map_congr_left fun c hc => if_neg ?_).trans (List.map_id _)
        exact fun hcolon => h seg List.mem_cons_self (hcolon ▸ hc)
      cases segments with
      | nil => simpa using hseg
      | cons seg' segments =>
        rw [List.intercalate_cons_cons, List.intercalate_cons_cons, List.map_append,
          List.map_append, hseg, ih fun s hs => h s (List.mem_cons_of_mem _ hs)]
        rfl

/-! ## Queries and fragments -/

/-- A character that does not occur in the name of the log is kept with its segment. -/
theorem exists_mem_pathSegments {c : Char} (hslash : c ≠ '/') (hlog : c ∉ Text.lit "did.jsonl")
    (h : c ∈ path) : ∃ seg ∈ pathSegments path, c ∈ seg := by
  obtain ⟨seg, hseg, hc⟩ := Text.exists_mem_split hslash h
  refine ⟨seg, ?_, hc⟩
  have hmem : seg ∈ (Text.split '/' path).filter fun s => s ≠ [] := by
    simpa [hseg] using List.ne_nil_of_mem hc
  unfold pathSegments
  dsimp only
  split_ifs with hlast
  · -- The segment that is left out is another one.
    obtain ⟨before, hsegments⟩ := List.getLast?_eq_some_iff.mp hlast
    rw [hsegments] at hmem ⊢
    rw [List.dropLast_concat]
    rcases List.mem_append.mp hmem with hmem | hmem
    · exact hmem
    · rw [List.mem_singleton.mp hmem] at hc
      exact absurd hc hlog
  · exact hmem

/-- A question mark or a hash in what follows the scheme of the URL is found in that of the log. -/
theorem mem_logUrl {c : Char} {did : DID} (hc : c = '?' ∨ c = '#') (h : c ∈ host ∨ c ∈ path)
    (hdomain : did.domain = didHost host) (hpath : did.path = didPath (pathSegments path)) :
    c ∈ did.logUrl := by
  have hother : c ≠ ':' ∧ c ≠ '/' ∧ c ∉ Text.lit "%3A" ∧ c ∉ Text.lit ":" ∧
      c ∉ Text.lit "did.jsonl" := by
    rcases hc with rfl | rfl <;> decide
  obtain ⟨hcolon, hslash, hencoded, hpattern, hlog⟩ := hother
  rw [logUrl_eq hdomain hpath]
  apply List.mem_append_right
  rcases h with h | h
  · apply List.mem_append_left
    exact Text.mem_replace (by decide) hencoded (mem_didHost hcolon h)
  · apply List.mem_append_right
    apply List.mem_cons_of_mem
    apply List.mem_append_left
    obtain ⟨seg, hseg, hmem⟩ := exists_mem_pathSegments hslash hlog h
    unfold logPath
    rw [if_neg (List.ne_nil_of_mem hseg)]
    exact Text.mem_replace (by decide) hpattern (Text.mem_intercalate hseg hmem)

/-- The place of the log has no question mark and no hash. -/
theorem notMem_location {c : Char} (hc : c = '?' ∨ c = '#') (hhost : c ∉ host) (hpath : c ∉ path) :
    c ∉ location host path := by
  -- The segments are parts of the path.
  have hsegments : ∀ seg ∈ pathSegments path, c ∉ seg := by
    intro seg hseg hmem
    have hsplit : seg ∈ Text.split '/' path := by
      unfold pathSegments at hseg
      dsimp only at hseg
      split_ifs at hseg
      · exact (List.mem_filter.mp (List.dropLast_subset _ hseg)).1
      · exact (List.mem_filter.mp hseg).1
    have hjoin := Text.mem_intercalate (c := '/') hsplit hmem
    rw [Text.intercalate_split] at hjoin
    exact hpath hjoin
  have hjoin : c ∉ ['/'].intercalate (pathSegments path) := by
    intro hmem
    rcases Text.mem_of_mem_intercalate hmem with hslash | ⟨seg, hseg, hmem⟩
    · rcases hc with rfl | rfl <;> exact absurd hslash (by decide)
    · exact hsegments seg hseg hmem
  unfold location
  have hliterals : c ∉ Text.lit "https://" ∧ c ≠ '/' ∧ c ∉ Text.lit ".well-known" ∧
      c ∉ Text.lit "/did.jsonl" := by
    rcases hc with rfl | rfl <;> decide
  obtain ⟨hscheme, hslash, hroot, hlog⟩ := hliterals
  split_ifs <;> simp [hscheme, hslash, hroot, hlog, hhost, hjoin]

/-! ## The place of the log -/

/-- The log of a created DID is looked for where it was meant to be served exactly when the URL has
neither a query nor a fragment, its host has no percent-encoded colon, and no segment of its path
has a colon. -/
theorem logUrl_eq_location_iff {format : LogEntryFormat} {scid : Option Text} {domain : Text}
    {didPath? : Option Text} {did : DID} (hurl : IsHttpsUrl url host path rest)
    (hcomponents : urlToDidComponents url = .ok (domain, didPath?))
    (hdid : buildDid format scid domain didPath? = .ok did) :
    did.logUrl = location host path ↔
      rest = [] ∧ ¬ Text.lit "%3A" <:+: host ∧ ∀ seg ∈ pathSegments path, ':' ∉ seg := by
  -- The DID has the domain and the path that the tool reads from the URL.
  rw [hurl.text] at hcomponents
  obtain ⟨-, hdomain, hpath⟩ := urlToDidComponents_eq_ok_iff.mp hcomponents
  rw [← (buildDid_eq_ok hdid).1] at hdomain
  rw [← (buildDid_eq_ok hdid).2] at hpath
  rcases hurl.rest with hrest | ⟨r, hr⟩
  · -- There is neither a query nor a fragment, so the tool reads the host and the path as they are.
    rw [hrest, List.append_nil, splitHost_eq hurl.host.1 hurl.path.1] at hdomain hpath
    dsimp only at hdomain hpath
    rw [pathSegments_tail hurl.path.1] at hpath
    -- The path of the DID becomes the path of the URL again unless a segment has a colon.
    have hlog : logPath (pathSegments path) = (if pathSegments path = [] then Text.lit ".well-known"
        else ['/'].intercalate (pathSegments path)) ↔ ∀ seg ∈ pathSegments path, ':' ∉ seg := by
      unfold logPath
      split_ifs with hempty
      · simp [hempty]
      · exact replace_intercalate_iff _
    rw [← replace_didHost_iff, ← hlog, logUrl_eq hdomain.symm hpath.symm, location,
      List.append_cancel_left_eq]
    constructor
    · intro h
      -- Both hosts end at the first slash.
      have hslash : '/' ∉ Text.replace (Text.lit "%3A") (Text.lit ":") (didHost host) := by
        intro hmem
        rcases Text.mem_or_of_mem_replace (by decide) hmem with hmem | hmem
        · exact absurd hmem (by decide)
        · exact slash_notMem_didHost hurl.host.1 hmem
      have hsplit := Text.splitOnce_eq_some_iff.mpr ⟨h.symm, hslash⟩
      rw [Text.splitOnce_eq_some_iff.mpr ⟨rfl, hurl.host.1⟩] at hsplit
      obtain ⟨hhost, htail⟩ := Prod.mk.inj (Option.some.inj hsplit)
      exact ⟨hrest, hhost.symm, (List.append_cancel_right htail).symm⟩
    · rintro ⟨_, hhost, htail⟩
      rw [hhost, htail]
  · -- The tool takes a query or a fragment for a part of the host or of the path.
    have hc : ∃ c, (c = '?' ∨ c = '#') ∧ c ∈ rest ∧ rest ≠ [] := by
      rcases hr with rfl | rfl
      · exact ⟨'?', .inl rfl, List.mem_cons_self, List.cons_ne_nil _ _⟩
      · exact ⟨'#', .inr rfl, List.mem_cons_self, List.cons_ne_nil _ _⟩
    obtain ⟨c, hc, hmem, hne⟩ := hc
    refine ⟨fun h => ?_, fun h => absurd h.1 hne⟩
    -- The character that begins it is then in the URL of the log, but not where the log is.
    have hparts : c ∈ (splitHost (host ++ (path ++ rest))).1 ∨
        c ∈ (splitHost (host ++ (path ++ rest))).2 := by
      have hall : c ∈ host ++ (path ++ rest) :=
        List.mem_append_right _ (List.mem_append_right _ hmem)
      unfold splitHost
      cases hsplit : Text.splitOnce '/' (host ++ (path ++ rest)) with
      | none => exact .inl hall
      | some parts =>
        rw [(Text.splitOnce_eq_some_iff.mp hsplit).1, List.mem_append, List.mem_cons] at hall
        rcases hall with hall | hall | hall
        · exact .inl hall
        · rcases hc with rfl | rfl <;> exact absurd hall (by decide)
        · exact .inr hall
    have hlogUrl := mem_logUrl hc hparts hdomain.symm hpath.symm
    rw [h] at hlogUrl
    refine absurd hlogUrl (notMem_location hc ?_ ?_)
    · rcases hc with rfl | rfl
      · exact hurl.host.2.1
      · exact hurl.host.2.2
    · rcases hc with rfl | rfl
      · exact hurl.path.2.1
      · exact hurl.path.2.2

end Create

/-! ## Sample URLs -/

namespace Sample

open Create

/-- The DID of a host with a port and a path. -/
def servedDid : DID :=
  ⟨.tdw, some "abc123", "example.com%3A3000", some "dids:issuer", by decide, isValidPath_host⟩

theorem servedDid_logUrl : servedDid.logUrl = location "example.com:3000" "/dids/issuer" ↔
    Text.lit "" = [] ∧ ¬ Text.lit "%3A" <:+: Text.lit "example.com:3000" ∧
      ∀ seg ∈ pathSegments "/dids/issuer", ':' ∉ seg := by
  have hurl : IsHttpsUrl "https://example.com:3000/dids/issuer" "example.com:3000" "/dids/issuer"
      (Text.lit "") :=
    ⟨rfl, by decide, ⟨.inr ⟨_, rfl⟩, by decide⟩, .inl rfl⟩
  have hcomponents : urlToDidComponents "https://example.com:3000/dids/issuer" = .ok
      (Text.lit "example.com%3A3000", some (Text.lit "dids:issuer")) := by decide
  have hdid : buildDid .tdw03 (some "abc123") "example.com%3A3000" (some "dids:issuer") =
      .ok servedDid := by decide
  exact logUrl_eq_location_iff hurl hcomponents hdid

/-- The DID of a host with a path of one segment that has a colon. -/
def colonDid : DID :=
  ⟨.tdw, some "abc123", "example.com", some "a:b", isValidDomain_host, by decide⟩

/-- A colon in the path becomes a slash. -/
theorem colonDid_logUrl :
    IsHttpsUrl "https://example.com/a:b" "example.com" "/a:b" [] ∧
      urlToDidComponents "https://example.com/a:b" =
        .ok (Text.lit "example.com", some (Text.lit "a:b")) ∧
      buildDid .tdw03 (some "abc123") "example.com" (some "a:b") = .ok colonDid ∧
      colonDid.logUrl = Text.lit "https://example.com/a/b/did.jsonl" ∧
      location "example.com" "/a:b" = Text.lit "https://example.com/a:b/did.jsonl" ∧
      colonDid.logUrl ≠ location "example.com" "/a:b" := by
  refine ⟨⟨rfl, by decide, ⟨.inr ⟨_, rfl⟩, by decide⟩, .inl rfl⟩, ?_⟩
  decide

end Sample

end Swiyu
