import Swiyu.Core.TrustStatement.Disclosures

/-!
# The order of disclosures

Nobody signs the order in which disclosures follow a JWT. What a statement says does not depend on
it as long as the disclosures that are committed to do not contradict each other.

## Main definitions

- `Swiyu.TrustStatement.said`: the names and the flag that a text states.
- `Swiyu.TrustStatement.OrderFree`: these are the same in whatever order the segments stand.
- `Swiyu.TrustStatement.Agree`: two claims that do not contradict each other.

## Main results

- `Swiyu.TrustStatement.orderFree_iff`: the texts that say the same in any order.
-/

namespace Swiyu

open Json

namespace TrustStatement

variable (X : JoseCrates)

/-! ## What a text says -/

/-- The names and the flag that a text states, if it is accepted. -/
def said (jwtText : Text) : Option (OrdMap Text Text × Option Bool) :=
  (tryFromJwt X jwtText).toOption.map fun stmt => (stmt.entityName, stmt.isStateActor)

/-- In whatever order the segments of the text stand, it is rejected or says the same. -/
def OrderFree (jwtText : Text) : Prop :=
  ∀ n, jwtText = sdJwt (splitDisclosures jwtText).1 (splitDisclosures jwtText).2 n →
    ∀ segments', segments'.Perm (splitDisclosures jwtText).2 →
      said X (sdJwt (splitDisclosures jwtText).1 segments' n) = said X jwtText

/-- The JWT has all that a statement needs, but for its disclosures. -/
def IsStatementJwt (jwt : Text) : Prop :=
  ∃ seg₀ seg₁ seg₂ header payload signature kid alg iat status,
    Text.split '.' jwt = [seg₀, seg₁, seg₂] ∧
    segmentValue X seg₀ = some header ∧ segmentValue X seg₁ = some payload ∧
    Base64Url.decode seg₂ = some signature ∧
    (header.get "kid").bind Value.asStr = some kid ∧
    (header.get "alg").bind Value.asStr = some alg ∧
    (payload.get "iat").bind Value.asU64 = some iat ∧ statusOfPayload payload = .ok status

/-- The names and the flag in claims, of which the later count. -/
def claimsSay (claims : List (Text × Value)) : OrdMap Text Text × Option Bool :=
  (OrdMap.ofList (claims.flatMap namesOfClaim), (claims.filterMap stateActorOfClaim).getLast?)

/-- Two claims do not contradict each other. -/
structure Agree (claim claim' : Text × Value) : Prop where
  names (lang name name' : Text) :
    (lang, name) ∈ namesOfClaim claim → (lang, name') ∈ namesOfClaim claim' → name = name'
  stateActor (b b' : Bool) :
    stateActorOfClaim claim = some b → stateActorOfClaim claim' = some b' → b = b'

variable {X}

theorem decodeSegment_eq_ok_iff {name segment : Text} {bytes : Bytes} :
    decodeSegment X name segment = .ok bytes ↔ Base64Url.decode segment = some bytes := by
  unfold decodeSegment JoseCrates.base64Decode
  cases Base64Url.decode segment <;> simp [Except.mapError]

/-- A text is accepted when its JWT has what is needed, and its segments decode to arrays. -/
theorem exists_tryFromJwt_iff {jwtText : Text} : (∃ stmt, tryFromJwt X jwtText = .ok stmt) ↔
    IsStatementJwt X (splitDisclosures jwtText).1 ∧
      ∀ segment ∈ (splitDisclosures jwtText).2, (segmentArray X segment).isSome := by
  unfold tryFromJwt IsStatementJwt
  constructor
  · rintro ⟨stmt, h⟩
    split at h
    · rename_i seg₀ seg₁ seg₂ hsplit
      simp only [Except.bind_eq_ok_iff, headerString, Option.okOr_eq_ok_iff, parseSegment_eq_ok_iff,
        decodeSegment_eq_ok_iff, readDisclosures_eq_ok_iff] at h
      obtain ⟨header, hheader, payload, hpayload, signature, hsignature, kid, hkid, alg, halg,
        claims, ⟨hsegments, _⟩, iat, hiat, status, hstatus, _⟩ := h
      exact ⟨⟨seg₀, seg₁, seg₂, header, payload, signature, kid, alg, iat, status, hsplit, hheader,
        hpayload, hsignature, hkid, halg, hiat, hstatus⟩, hsegments⟩
    · cases h
  · rintro ⟨⟨seg₀, seg₁, seg₂, header, payload, signature, kid, alg, iat, status, hsplit, hheader,
      hpayload, hsignature, hkid, halg, hiat, hstatus⟩, hsegments⟩
    rw [hsplit]
    simp only [Except.bind_eq_ok_iff, headerString, Option.okOr_eq_ok_iff, parseSegment_eq_ok_iff,
      decodeSegment_eq_ok_iff, readDisclosures_eq_ok_iff]
    exact ⟨_, header, hheader, payload, hpayload, signature, hsignature, kid, hkid, alg, halg, _,
      ⟨hsegments, rfl⟩, iat, hiat, status, hstatus, rfl⟩

theorem IsStatementJwt.ne_nil {jwt : Text} (h : IsStatementJwt X jwt) : jwt ≠ [] := by
  intro hjwt
  obtain ⟨_, _, _, _, _, _, _, _, _, _, hsplit, _⟩ := h
  rw [hjwt] at hsplit
  cases hsplit

/-- What the texts with this JWT say. -/
theorem exists_said {jwt : Text} (h : IsStatementJwt X jwt) (hjwt : '~' ∉ jwt) : ∃ payload,
    jwtPayload X jwt = some payload ∧ ∀ jwtText, (splitDisclosures jwtText).1 = jwt →
      said X jwtText =
        if ∀ segment ∈ (splitDisclosures jwtText).2, (segmentArray X segment).isSome then
          some (claimsSay ((splitDisclosures jwtText).2.filterMap
            (committedClaim X (sdDigests payload))))
        else none := by
  have hbare : splitDisclosures (sdJwt jwt [] 0) = (jwt, []) :=
    splitDisclosures_sdJwt (by simpa using ⟨hjwt, h.ne_nil⟩) 0
  obtain ⟨stmt, hstmt⟩ : ∃ stmt, tryFromJwt X (sdJwt jwt [] 0) = .ok stmt := by
    rw [exists_tryFromJwt_iff, hbare]
    exact ⟨h, by simp⟩
  obtain ⟨payload, hpayload, hiff⟩ := tryFromJwt_of_jwt hstmt
  rw [hbare] at hpayload hiff
  refine ⟨payload, hpayload, fun jwtText htext => ?_⟩
  unfold said
  split_ifs with hsegments
  · rw [(hiff jwtText htext _).mpr ⟨hsegments, rfl⟩]
    rfl
  · cases hread : tryFromJwt X jwtText with
    | error e => rfl
    | ok stmt' => exact absurd ((hiff jwtText htext stmt').mp hread).1 hsegments

/-- A text with another JWT says nothing. -/
theorem said_eq_none {jwtText : Text} (h : ¬ IsStatementJwt X (splitDisclosures jwtText).1 ∨
    ∃ segment ∈ (splitDisclosures jwtText).2, segmentArray X segment = none) :
    said X jwtText = none := by
  unfold said
  cases hread : tryFromJwt X jwtText with
  | error e => rfl
  | ok stmt =>
    obtain ⟨hjwt, hsegments⟩ := exists_tryFromJwt_iff.mp ⟨stmt, hread⟩
    rcases h with h | ⟨segment, hmem, hnone⟩
    · exact absurd hjwt h
    · exact absurd (hsegments segment hmem) (by rw [hnone]; exact Bool.false_ne_true)

/-! ## Claims that agree -/

/-- No claim has two names of one language. -/
theorem nodup_namesOfClaim (claim : Text × Value) : ((namesOfClaim claim).map Prod.fst).Nodup := by
  have hsub : ∀ l : List (Text × Value), ((l.filterMap fun member =>
      member.2.asStr.map (member.1, ·)).map Prod.fst).Sublist (l.map Prod.fst) := by
    intro l
    induction l with
    | nil => exact List.Sublist.slnil
    | cons member l ih =>
      rw [List.filterMap_cons]
      cases member.2.asStr with
      | none => exact ih.cons _
      | some name => exact ih.cons_cons _
  unfold namesOfClaim
  split_ifs
  · cases claim.2.asObject with
    | none => exact List.nodup_nil
    | some obj => exact obj.nodup_keys.sublist (hsub _)
  · exact List.nodup_nil

theorem Agree.refl (claim : Text × Value) : Agree claim claim where
  names lang name name' h h' := by
    have hnodup := nodup_namesOfClaim claim
    rw [← OrdMap.get_ofList_eq_some_iff hnodup] at h h'
    exact Option.some.inj (h.symm.trans h')
  stateActor _ _ h h' := Option.some.inj (h.symm.trans h')

/-- The last element of a list whose elements are all the same does not depend on their order. -/
theorem getLast?_perm {α : Type} {l l' : List α} (hperm : l'.Perm l)
    (h : ∀ a ∈ l, ∀ b ∈ l, a = b) : l'.getLast? = l.getLast? := by
  ext a
  constructor
  · intro ha
    have hmem := hperm.mem_iff.mp (List.mem_of_getLast? ha)
    have hlast := List.getLast?_eq_some_getLast (List.ne_nil_of_mem hmem)
    rw [hlast, h _ (List.getLast_mem _) a hmem]
  · intro ha
    have hmem := hperm.mem_iff.mpr (List.mem_of_getLast? ha)
    have hlast := List.getLast?_eq_some_getLast (List.ne_nil_of_mem hmem)
    rw [hlast, h _ (hperm.mem_iff.mp (List.getLast_mem _)) a (hperm.mem_iff.mp hmem)]

/-- Claims that agree say the same in any order. -/
theorem claimsSay_perm {claims claims' : List (Text × Value)} (hperm : claims'.Perm claims)
    (h : ∀ c ∈ claims, ∀ c' ∈ claims, Agree c c') : claimsSay claims' = claimsSay claims := by
  -- Two names in one language are the same, and so are two flags.
  have hnames : ∀ e ∈ claims.flatMap namesOfClaim, ∀ e' ∈ claims.flatMap namesOfClaim,
      e.1 = e'.1 → e.2 = e'.2 := by
    rintro ⟨lang, name⟩ he ⟨lang', name'⟩ he' hlang
    obtain rfl : lang = lang' := hlang
    obtain ⟨c, hc, hname⟩ := List.mem_flatMap.mp he
    obtain ⟨c', hc', hname'⟩ := List.mem_flatMap.mp he'
    exact (h c hc c' hc').names lang name name' hname hname'
  have hflags : ∀ b ∈ claims.filterMap stateActorOfClaim, ∀ b' ∈ claims.filterMap stateActorOfClaim,
      b = b' := by
    intro b hb b' hb'
    obtain ⟨c, hc, hflag⟩ := List.mem_filterMap.mp hb
    obtain ⟨c', hc', hflag'⟩ := List.mem_filterMap.mp hb'
    exact (h c hc c' hc').stateActor b b' hflag hflag'
  have hmem : ∀ e, e ∈ claims'.flatMap namesOfClaim ↔ e ∈ claims.flatMap namesOfClaim :=
    fun e => (hperm.flatMap_right namesOfClaim).mem_iff
  unfold claimsSay
  rw [getLast?_perm (hperm.filterMap stateActorOfClaim) hflags]
  congr 1
  refine OrdMap.Entries.ext_get fun q => Option.ext fun v => ?_
  rw [OrdMap.get_ofList_of_agree hnames, ← hmem, OrdMap.get_ofList_of_agree]
  intro e he e' he'
  exact hnames e ((hmem e).mp he) e' ((hmem e').mp he')

/-- Two claims that may be exchanged at the end agree. -/
theorem agree_of_claimsSay {rest : List (Text × Value)} {c c' : Text × Value}
    (h : claimsSay (rest ++ [c, c']) = claimsSay (rest ++ [c', c])) : Agree c c' := by
  obtain ⟨hnames, hflags⟩ := Prod.mk.inj h
  constructor
  · intro lang name name' hname hname'
    have hget := congrArg (·.get lang) hnames
    simp only [List.flatMap_append, List.flatMap_cons, List.flatMap_nil, List.append_nil] at hget
    rw [← List.append_assoc, ← List.append_assoc, OrdMap.get_ofList_append,
      OrdMap.get_ofList_append, OrdMap.get_ofList_append, OrdMap.get_ofList_append] at hget
    rw [← OrdMap.get_ofList_eq_some_iff (nodup_namesOfClaim _)] at hname hname'
    rw [hname, hname'] at hget
    exact (Option.some.inj hget).symm
  · intro b b' hb hb'
    simp only [List.filterMap_append, List.filterMap_cons, List.filterMap_nil, hb, hb'] at hflags
    simpa using hflags.symm

/-! ## Permutations -/

/-- Empty segments at the end are further separators. -/
theorem sdJwt_append_replicate (jwt : Text) (segments : List Text) (k n : ℕ) :
    sdJwt jwt (segments ++ List.replicate k []) n = sdJwt jwt segments (k + n) := by
  unfold sdJwt
  rw [List.replicate_add, ← List.append_assoc]
  congr 1
  induction k with
  | zero => rw [List.replicate_zero, List.replicate_zero, List.append_nil, List.append_nil]
  | succ k ih =>
    rw [List.replicate_succ', List.replicate_succ', ← List.append_assoc, ← List.cons_append,
      Text.intercalate_concat (List.cons_ne_nil _ _), ih, List.append_assoc]

/-- Of the segments only empty ones are trimmed off. -/
theorem splitDisclosures_of_notMem {jwt : Text} {segments : List Text}
    (h : ∀ part ∈ jwt :: segments, '~' ∉ part) (n : ℕ) :
    (splitDisclosures (sdJwt jwt segments n)).1 = jwt ∧
      ∀ s ∈ segments, s ≠ [] → s ∈ (splitDisclosures (sdJwt jwt segments n)).2 := by
  have hparts : Text.split '~' (['~'].intercalate (jwt :: segments)) = jwt :: segments :=
    Text.split_intercalate (List.cons_ne_nil _ _) h
  obtain ⟨hhead, hsegments⟩ := Text.split_trimEndMatches (c := '~') (sdJwt jwt segments n)
  unfold sdJwt at hhead hsegments ⊢
  rw [Text.head?_split_append_replicate, hparts] at hhead
  rw [Text.segments_append_replicate, Text.segments, Text.segments, hparts] at hsegments
  unfold splitDisclosures
  generalize Text.split '~' (Text.trimEndMatches '~' _) = parts at hhead hsegments
  obtain _ | ⟨jwt', segments'⟩ := parts
  · cases hhead
  · obtain rfl : jwt' = jwt := Option.some.inj hhead
    refine ⟨rfl, fun s hs hne => ?_⟩
    -- The JWT counts on both sides, or it is empty and counts on neither.
    have hsame : (segments'.filter fun w => w ≠ []) = segments.filter fun w => w ≠ [] := by
      by_cases hjwt : jwt' = []
      · simpa [hjwt] using hsegments
      · simpa [hjwt] using hsegments
    have hmem : s ∈ segments'.filter fun w => w ≠ [] := by
      rw [hsame]
      simpa using ⟨hs, hne⟩
    exact (List.mem_filter.mp hmem).1

variable (X) in
/-- No two claims that the segments disclose, and that are committed to, contradict each other. -/
def Consistent (sdSet : List Text) (segments : List Text) : Prop :=
  ∀ c ∈ segments.filterMap (committedClaim X sdSet),
    ∀ c' ∈ segments.filterMap (committedClaim X sdSet), Agree c c'

/-- What a statement says does not depend on the order of its disclosures exactly when the text is
rejected anyway, for its JWT or for a segment that is not empty and decodes to no array, or else no
segment is empty, and the claims that are committed to do not contradict each other. -/
theorem orderFree_iff (jwtText : Text) : OrderFree X jwtText ↔
    (IsStatementJwt X (splitDisclosures jwtText).1 →
      (∀ segment ∈ (splitDisclosures jwtText).2, segment ≠ [] →
        (segmentArray X segment).isSome) →
      [] ∉ (splitDisclosures jwtText).2 ∧
        ∀ payload, jwtPayload X (splitDisclosures jwtText).1 = some payload →
          Consistent X (sdDigests payload) (splitDisclosures jwtText).2) := by
  -- The text is the JWT, its segments and a number of empty ones that the parser trims off.
  obtain ⟨jwt, segments, n, htext, hsplit, hparts⟩ := exists_sdJwt jwtText
  unfold OrderFree
  rw [hsplit]
  dsimp only
  obtain ⟨hjwtPart, hsegmentParts⟩ := List.forall_mem_cons.mp hparts
  -- The segments of a text in another order.
  have hsplit' : jwt ≠ [] → ∀ segments' : List Text, (∀ s ∈ segments', IsPart s) → ∀ m,
      splitDisclosures (sdJwt jwt segments' m) = (jwt, segments') := by
    intro hjwt segments' hsegments' m
    exact splitDisclosures_sdJwt (List.forall_mem_cons.mpr ⟨⟨hjwtPart, hjwt⟩, hsegments'⟩) m
  constructor
  · intro hfree hjwt hsegments
    -- The JWT and its segments are well formed, so that what the text says depends on the trailing
    -- segments only.
    obtain ⟨payload, hpayload, hsaid⟩ := exists_said hjwt hjwtPart
    -- An empty segment that is not the last rejects the text.
    have hnonempty : [] ∉ segments := by
      intro hempty
      have hnone : said X jwtText = none := by
        refine said_eq_none (.inr ⟨[], ?_, segmentArray_nil⟩)
        rw [hsplit]
        exact hempty
      -- With its empty segments at the end the text is accepted.
      obtain ⟨k, hk⟩ : ∃ k, (segments.filter fun s => s = []) = List.replicate k [] :=
        ⟨_, List.eq_replicate_of_mem fun s hs => of_decide_eq_true (List.mem_filter.mp hs).2⟩
      have hperm : ((segments.filter fun s => s ≠ []) ++ List.replicate k []).Perm segments := by
        rw [← hk]
        simpa using List.filter_append_perm (fun s : Text => decide (s ≠ [])) segments
      have hmoved := hfree n htext _ hperm
      rw [sdJwt_append_replicate, hnone] at hmoved
      -- What is left has only segments that decode to an array.
      have hkept : ∀ s ∈ segments.filter fun s => s ≠ [], s ∈ segments ∧ s ≠ [] := by
        intro s hs
        simpa using hs
      have hsplitKept := hsplit' hjwt.ne_nil (segments.filter fun s => s ≠ [])
        (fun s hs => ⟨hsegmentParts s (hkept s hs).1, (hkept s hs).2⟩) (k + n)
      rw [hsaid _ (by rw [hsplitKept]), hsplitKept,
        if_pos fun s hs => hsegments s (hkept s hs).1 (hkept s hs).2] at hmoved
      cases hmoved
    refine ⟨hnonempty, fun payload' hpayload' => ?_⟩
    obtain rfl : payload = payload' := Option.some.inj (hpayload.symm.trans hpayload')
    have hpart : ∀ s ∈ segments, IsPart s :=
      fun s hs => ⟨hsegmentParts s hs, fun h => hnonempty (h ▸ hs)⟩
    -- Any two orders say the same.
    have hsame : ∀ segments', segments'.Perm segments → said X (sdJwt jwt segments' n) =
        some (claimsSay (segments'.filterMap (committedClaim X (sdDigests payload)))) := by
      intro segments' hperm
      have hsplitPerm := hsplit' hjwt.ne_nil segments' (fun s hs => hpart s (hperm.mem_iff.mp hs)) n
      rw [hsaid _ (by rw [hsplitPerm]), hsplitPerm]
      refine if_pos fun s hs => hsegments s (hperm.mem_iff.mp hs) ?_
      exact (hpart s (hperm.mem_iff.mp hs)).2
    -- Two claims that are committed to are put last, in both orders, so that what the text says
    -- tells which of them comes first.
    intro c hc c' hc'
    obtain ⟨s, hs, hclaim⟩ := List.mem_filterMap.mp hc
    obtain ⟨s', hs', hclaim'⟩ := List.mem_filterMap.mp hc'
    by_cases heq : s = s'
    · rw [heq, hclaim'] at hclaim
      obtain rfl := Option.some.inj hclaim
      exact Agree.refl _
    · have hmem : s' ∈ segments.erase s := (List.mem_erase_of_ne (Ne.symm heq)).mpr hs'
      have hperm : (((segments.erase s).erase s') ++ [s, s']).Perm segments := by
        have hfirst := List.perm_cons_erase hs
        have hsecond := List.perm_cons_erase hmem
        refine (List.perm_append_comm.trans ?_).trans (hfirst.trans (hsecond.cons s)).symm
        exact List.Perm.refl _
      -- Both orders say the same, so the two claims may be swapped.
      have hswap : (((segments.erase s).erase s') ++ [s', s]).Perm segments :=
        ((List.Perm.swap s s' []).append_left _).trans hperm
      have hsaidSame := (hfree n htext _ hperm).trans (hfree n htext _ hswap).symm
      rw [hsame _ hperm, hsame _ hswap, Option.some.injEq, List.filterMap_append,
        List.filterMap_append] at hsaidSame
      simp only [List.filterMap_cons, hclaim, hclaim', List.filterMap_nil] at hsaidSame
      exact agree_of_claimsSay hsaidSame
  · -- Conversely, let the segments be in another order; whether the JWT and the segments are well
    -- formed does not depend on it.
    intro hcond m _ segments' hperm
    have hparts' : ∀ segments', segments'.Perm segments → ∀ part ∈ jwt :: segments', '~' ∉ part :=
      fun segments' hperm => List.forall_mem_cons.mpr
        ⟨hjwtPart, fun part hpart => hsegmentParts part (hperm.mem_iff.mp hpart)⟩
    by_cases hjwt : IsStatementJwt X jwt
    · by_cases hsegments : ∀ s ∈ segments, s ≠ [] → (segmentArray X s).isSome
      · -- Both texts are accepted, and claims that do not contradict each other may be permuted.
        obtain ⟨hnonempty, hconsistent⟩ := hcond hjwt hsegments
        obtain ⟨payload, hpayload, hsaid⟩ := exists_said hjwt hjwtPart
        have hpart : ∀ s ∈ segments, IsPart s :=
          fun s hs => ⟨hsegmentParts s hs, fun h => hnonempty (h ▸ hs)⟩
        have harrays : ∀ s ∈ segments, (segmentArray X s).isSome :=
          fun s hs => hsegments s hs (hpart s hs).2
        have hsplitPerm := hsplit' hjwt.ne_nil segments'
          (fun s hs => hpart s (hperm.mem_iff.mp hs)) m
        rw [hsaid _ (by rw [hsplitPerm]), hsaid jwtText (by rw [hsplit]), hsplitPerm, hsplit,
          if_pos fun s hs => harrays s (hperm.mem_iff.mp hs), if_pos harrays]
        exact congrArg some (claimsSay_perm (hperm.filterMap _) (hconsistent payload hpayload))
      · -- A malformed segment is still there, and not trimmed off.
        push Not at hsegments
        obtain ⟨s, hs, hne, hmalformed⟩ := hsegments
        have hmalformed : segmentArray X s = none := by simpa using hmalformed
        have hrejected : said X jwtText = none :=
          said_eq_none (.inr ⟨s, by rw [hsplit]; exact hs, hmalformed⟩)
        have hkept := (splitDisclosures_of_notMem (hparts' segments' hperm) m).2 s
          (hperm.mem_iff.mpr hs) hne
        rw [hrejected]
        exact said_eq_none (.inr ⟨s, hkept, hmalformed⟩)
    · -- A text whose JWT is malformed is rejected in every order.
      have hrejected : said X jwtText = none := said_eq_none (.inl (by rwa [hsplit]))
      rw [hrejected]
      refine said_eq_none (.inl ?_)
      rwa [(splitDisclosures_of_notMem (hparts' segments' hperm) m).1]

end TrustStatement

/-! ## A statement that contradicts itself -/

namespace Sample

open TrustStatement

/-- A JWT whose payload commits to both disclosures of `isStateActor`. -/
def contradictoryJwt : Text :=
  let segment (v : Value) := Base64Url.encode (Text.utf8 (v.print disclosureCrates.f64))
  segment (.ofFields [(Text.lit "alg", .string "ES256"), (Text.lit "kid", .string "k")]) ++
    '.' :: segment (.ofFields [
      (Text.lit "_sd", .strings ["h_tIeAJAxOK9LZS-5TJbKrIfk3qn8y0sF2q7JeRHZro",
        "372Z100laVD67Z8LcgNAckZdez-ZYXuvhoFC4JZWeW8"]),
      (Text.lit "iat", .number (.posInt 1735689600))]) ++
    '.' :: Base64Url.encode [0]

theorem isPart_contradictory :
    ∀ part ∈ [contradictoryJwt, actorDisclosure, otherDisclosure], IsPart part := by
  unfold IsPart
  decide

/-- Whether the entity is a state actor depends on which of the disclosures comes last. -/
theorem not_orderFree_contradictory :
    ¬ OrderFree disclosureCrates (sdJwt contradictoryJwt [actorDisclosure, otherDisclosure] 1) := by
  intro hfree
  unfold OrderFree at hfree
  rw [splitDisclosures_sdJwt isPart_contradictory] at hfree
  have hswapped := hfree 1 rfl [otherDisclosure, actorDisclosure] (List.Perm.swap _ _ _)
  have hflags : (said disclosureCrates (sdJwt contradictoryJwt
        [otherDisclosure, actorDisclosure] 1)).map Prod.snd = some (some true) ∧
      (said disclosureCrates (sdJwt contradictoryJwt
        [actorDisclosure, otherDisclosure] 1)).map Prod.snd = some (some false) := by
    decide +kernel
  rw [hswapped, hflags.2] at hflags
  cases hflags.1

end Sample

end Swiyu
