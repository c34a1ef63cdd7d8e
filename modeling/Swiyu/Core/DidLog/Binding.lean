import Swiyu.Core.DidLog.Authentic
import Swiyu.Lib.HashChain

/-!
# What an accepted log commits to

Two bindings, each for hashes that do not collide on the values hashed: the last versionId commits
to the whole log and the SCID to the genesis entry.

## Main results

- `Swiyu.eq_of_last_versionId_eq`: accepted logs with the same last versionId have the same history.
- `Swiyu.genesis_eq`: accepted logs of a DID have the same genesis entry, unless one of the two
  contains the placeholder itself.
-/

namespace Swiyu

open Json

variable {X : Crates}

/-! ## The hash chain of a log -/

/-- What a versionId commits to: number, time, parameters and state of an entry. -/
structure Content where
  number : ℕ
  versionTime : Text
  parameters : Value
  state : Value

/-- The versionId of a content on a predecessor. -/
def nextVersionId (X : Crates) (predecessor : Text) (c : Content) : Text :=
  Text.decimal c.number ++ '-' :: deriveEntryHash X
    (.array [.string predecessor, .string c.versionTime, c.parameters, c.state])

/-- The content of entry `i`. -/
def contentAt (i : ℕ) (e : DIDLogEntry) : Content :=
  ⟨(sequenceNumber i).toNat, e.versionTime, e.parameters.toJson, e.didDocState.toJson⟩

/-- The contents of a log. -/
def contents (entries : List DIDLogEntry) : List Content := entries.mapIdx contentAt

/-- The four-element forms whose hashes are in the versionIds of a log. -/
def hashedForms (scid : Text) (entries : List DIDLogEntry) : Set Value :=
  {v | ∃ i, ∃ h : i < entries.length, v = entries[i].hashingForm (predecessor scid entries i)}

/-- A number and a hash are read back from the versionId they form. -/
theorem decimal_dash_inj {m n : ℕ} {a b : Text}
    (h : Text.decimal m ++ '-' :: a = Text.decimal n ++ '-' :: b) : m = n ∧ a = b := by
  have hm := (Text.splitOnce_eq_some_iff (b := a)).mpr ⟨rfl, Text.dash_notMem_decimal m⟩
  have hn := (Text.splitOnce_eq_some_iff (b := b)).mpr ⟨rfl, Text.dash_notMem_decimal n⟩
  rw [h, hn, Option.some.injEq, Prod.mk.injEq] at hm
  exact ⟨Text.decimal_injective hm.1.symm, hm.2.symm⟩

section Chain

variable {did scid : Text} {entries : List DIDLogEntry}

/-- The versionIds of an authentic log are the links of its chain. -/
theorem foldl_contents_eq (h : Authentic X did scid (fun i => (sequenceNumber i).toNat) entries)
    {i : ℕ} (hi : i ≤ entries.length) :
    ((contents entries).take i).foldl (nextVersionId X) scid = predecessor scid entries i := by
  induction i with
  | zero => rfl
  | succ i ih =>
    have hlen : i < (contents entries).length := by simpa [contents] using hi
    rw [List.take_succ_eq_append_getElem hlen, List.foldl_append, ih (by omega), predecessor,
      List.getElem?_eq_getElem hi, Option.map_some, Option.getD_some, h.versionId i hi]
    simp [contents, contentAt, nextVersionId, DIDLogEntry.hashingForm]

/-- The last link of the chain is the last versionId. -/
theorem foldl_contents_eq_last
    (h : Authentic X did scid (fun i => (sequenceNumber i).toNat) entries) :
    (contents entries).foldl (nextVersionId X) scid =
      (entries.getLast h.nonempty).versionId := by
  obtain ⟨n, hn⟩ := Nat.exists_eq_succ_of_ne_zero (List.length_pos_iff.mpr h.nonempty).ne'
  have hlast := foldl_contents_eq h (Nat.le_refl entries.length)
  rw [List.take_of_length_le (by simp [contents]), hn, predecessor,
    List.getElem?_eq_getElem (by omega)] at hlast
  simp [hlast, List.getLast_eq_getElem, hn]

/-- The steps of the chain hash the forms of the log. -/
theorem mem_hashedForms_of_mem_steps
    (h : Authentic X did scid (fun i => (sequenceNumber i).toNat) entries) {p : Text × Content}
    (hp : p ∈ HashChain.steps (nextVersionId X) scid (contents entries)) :
    .array [.string p.1, .string p.2.versionTime, p.2.parameters, p.2.state] ∈
      hashedForms scid entries := by
  obtain ⟨i, hi, rfl⟩ := (HashChain.mem_steps_iff _).mp hp
  have hi' : i < entries.length := by simpa [contents] using hi
  refine ⟨i, hi', ?_⟩
  rw [foldl_contents_eq h hi'.le]
  simp [contents, contentAt, DIDLogEntry.hashingForm]

/-- A SCID has no dash, a versionId has one. -/
theorem nextVersionId_ne_scid
    (h : Authentic X did scid (fun i => (sequenceNumber i).toNat) entries)
    (p : Text) (c : Content) :
    nextVersionId X p c ≠ scid := by
  obtain ⟨e, rest, rfl⟩ := List.exists_cons_of_ne_nil h.nonempty
  obtain ⟨prelim, -, hscid⟩ := h.scid e rfl
  have hdash : '-' ∉ scid := hscid ▸ notMem_hashLogEntry X (by decide)
  rintro rfl
  exact hdash (by simp [nextVersionId])

/-- Chains with the same last versionId have the same contents. -/
theorem contents_eq {entries' : List DIDLogEntry}
    (h : Authentic X did scid (fun i => (sequenceNumber i).toNat) entries)
    (h' : Authentic X did scid (fun i => (sequenceNumber i).toNat) entries')
    (hinj : Set.InjOn (deriveEntryHash X) (hashedForms scid entries ∪ hashedForms scid entries'))
    (hlast : (entries.getLast h.nonempty).versionId = (entries'.getLast h'.nonempty).versionId) :
    contents entries = contents entries' := by
  refine HashChain.eq_of_foldl_eq (nextVersionId X) scid
    (S := {p | .array [.string p.1, .string p.2.versionTime, p.2.parameters, p.2.state] ∈
      hashedForms scid entries ∪ hashedForms scid entries'}) ?_
    (fun p _ => nextVersionId_ne_scid h p.1 p.2)
    (fun p hp => .inl (mem_hashedForms_of_mem_steps h hp))
    (fun p hp => .inr (mem_hashedForms_of_mem_steps h' hp)) ?_
  · rintro ⟨p, n, t, ps, st⟩ hp ⟨p', n', t', ps', st'⟩ hp' heq
    obtain ⟨rfl, hhash⟩ := decimal_dash_inj heq
    have hform := hinj hp hp' hhash
    simp only [Value.array.injEq, List.cons.injEq, Value.string.injEq, and_true] at hform
    obtain ⟨rfl, rfl, rfl, rfl⟩ := hform
    rfl
  · rw [foldl_contents_eq_last h, foldl_contents_eq_last h', hlast]

end Chain

/-- Two accepted logs of a DID whose last entries have the same versionId have the same length and
the same versionId, time, parameters and state at every index. -/
theorem eq_of_last_versionId_eq {log log' : DIDLog} {did : DID} (h : verifyLog X log did = .ok ())
    (h' : verifyLog X log' did = .ok ())
    (hinj : Set.InjOn (deriveEntryHash X)
      (hashedForms (did.scid.getD []) log.entries ∪ hashedForms (did.scid.getD []) log'.entries))
    (hlast : log.entries.getLast?.map DIDLogEntry.versionId =
      log'.entries.getLast?.map DIDLogEntry.versionId) :
    log.entries.length = log'.entries.length ∧
      ∀ i (hi : i < log.entries.length) (hi' : i < log'.entries.length),
        log.entries[i].versionId = log'.entries[i].versionId ∧
        log.entries[i].versionTime = log'.entries[i].versionTime ∧
        log.entries[i].parameters.toJson = log'.entries[i].parameters.toJson ∧
        log.entries[i].didDocState.toJson = log'.entries[i].didDocState.toJson := by
  obtain ⟨scid, hscid, hauth⟩ := verifyLog_eq_ok_iff_authentic.mp h
  obtain ⟨_, hscid', hauth'⟩ := verifyLog_eq_ok_iff_authentic.mp h'
  obtain rfl := Option.some.inj (hscid.symm.trans hscid')
  rw [hscid, Option.getD_some] at hinj
  -- The last link of the hash chain determines all contents.
  have hcontents := contents_eq hauth hauth' hinj (by
    rw [List.getLast?_eq_getLast_of_ne_nil hauth.nonempty,
      List.getLast?_eq_getLast_of_ne_nil hauth'.nonempty] at hlast
    simpa using hlast)
  refine ⟨by simpa [contents] using congrArg List.length hcontents, fun i hi hi' => ?_⟩
  have hi₁ : i < (contents log.entries).length := by simpa [contents] using hi
  have hget := List.getElem_of_eq hcontents hi₁
  simp only [contents, List.getElem_mapIdx, contentAt, Content.mk.injEq] at hget
  -- The version of an entry is the link after it.
  have hnext := foldl_contents_eq hauth hi
  rw [hcontents, foldl_contents_eq hauth' hi', predecessor, predecessor,
    List.getElem?_eq_getElem hi, List.getElem?_eq_getElem hi'] at hnext
  exact ⟨hnext.symm, hget.2⟩

namespace Sample

/-- The genesis entry with a proof of the day after. -/
def genesisAgain : DIDLogEntry := entry 1 scid "2025-01-01T00:00:00Z" genesisParameters
  "2025-01-02T00:00:00Z" genesisAgainSignature

theorem verifyLog_genesisAgain : verifyLog crates ⟨[genesisAgain]⟩ did = .ok () := by
  decide +kernel

theorem verifyLog_rotationAgain : verifyLog crates ⟨[genesisAgain, rotation]⟩ did = .ok () := by
  decide +kernel

theorem eq_or_eq_of_mem_hashedForms {e e' : DIDLogEntry} {scid : Text} {v : Value}
    (h : v ∈ hashedForms scid [e, e']) :
    v = e.hashingForm scid ∨ v = e'.hashingForm e.versionId := by
  obtain ⟨i, hi, rfl⟩ := h
  match i, hi with
  | 0, _ => exact .inl rfl
  | 1, _ => exact .inr rfl

theorem hashingForm_genesisAgain : genesisAgain.hashingForm scid = genesis.hashingForm scid := by
  rw [genesis, genesisAgain, hashingForm_entry, hashingForm_entry]

/-- Two sample logs with the same last versionId, and different proofs, have the same contents. -/
theorem rotationAgain_eq : genesis ≠ genesisAgain ∧
    genesis.versionTime = genesisAgain.versionTime ∧
    genesis.parameters.toJson = genesisAgain.parameters.toJson ∧
    genesis.didDocState.toJson = genesisAgain.didDocState.toJson := by
  have hversion : genesisAgain.versionId = genesis.versionId := by decide +kernel
  have hsub : ∀ v ∈ hashedForms scid [genesis, rotation] ∪
      hashedForms scid [genesisAgain, rotation],
      v ∈ [genesis.hashingForm scid, rotation.hashingForm genesis.versionId] := by
    rintro v (hv | hv)
    · rcases eq_or_eq_of_mem_hashedForms hv with rfl | rfl <;> simp
    · rcases eq_or_eq_of_mem_hashedForms hv with rfl | rfl
      · rw [hashingForm_genesisAgain]
        exact List.mem_cons_self
      · rw [hversion]
        simp
  have hforms : ∀ v ∈ [genesis.hashingForm scid, rotation.hashingForm genesis.versionId],
      ∀ w ∈ [genesis.hashingForm scid, rotation.hashingForm genesis.versionId],
        deriveEntryHash crates v = deriveEntryHash crates w → v = w := by decide +kernel
  have h := eq_of_last_versionId_eq verifyLog_rotation verifyLog_rotationAgain
    (fun v hv w hw => hforms v (hsub v hv) w (hsub w hw)) (by decide +kernel)
  exact ⟨by decide +kernel, (h.2 0 (by decide) (by decide)).2⟩

end Sample

/-! ## The SCID and the genesis entry -/

/-- The forms that the SCID of a log's genesis entry is derived from. -/
def preliminaryForms (X : Crates) (scid : Text) (entries : List DIDLogEntry) : Set Value :=
  {v | ∃ e ∈ entries.head?, Json.parse X.f64
    (Text.replace scid scidPlaceholder ((e.hashingForm scid).print X.f64)) = some v}

/-- There is at most one, and it depends on the genesis entry only. -/
theorem injOn_preliminaryForms {scid : Text} {entries entries' : List DIDLogEntry}
    (h : entries.head? = entries'.head?) : Set.InjOn (deriveScid X)
      (preliminaryForms X scid entries ∪ preliminaryForms X scid entries') := by
  have hsub : (preliminaryForms X scid entries).Subsingleton := by
    rintro v ⟨e, he, hv⟩ w ⟨e', he', hw⟩
    cases Option.mem_unique he he'
    exact Option.some.inj (hv.symm.trans hw)
  have heq : preliminaryForms X scid entries' = preliminaryForms X scid entries := by
    rw [preliminaryForms, preliminaryForms, h]
  rw [heq, Set.union_self]
  exact hsub.injOn _

/-- No string and no member name in the time, the parameters and the state of an entry contains
`{SCID}` itself. -/
def PlaceholderFree (e : DIDLogEntry) : Prop :=
  ∀ s ∈ (e.hashingForm []).texts, ¬ scidPlaceholder <:+: s

/-- Replacing the SCID in the text of an entry without placeholder can be undone: the preliminary
form determines the hashing form. -/
theorem mapText_preliminary (hF : X.f64.Lawful) {e : DIDLogEntry} {scid : Text} {prelim : Value}
    (hinert : Inert scid) (hbrace : '{' ∉ scid) (he : PlaceholderFree e)
    (hparse : Json.parse X.f64
      (Text.replace scid scidPlaceholder ((e.hashingForm scid).print X.f64)) = some prelim) :
    prelim.mapText (Text.replace scidPlaceholder scid) = e.hashingForm scid := by
  have htexts : ∀ s ∈ (e.hashingForm scid).texts, ¬ scidPlaceholder <:+: s := by
    intro s hs
    rcases List.mem_cons.mp hs with rfl | hs
    · intro hin
      exact hbrace (hin.subset (by rw [scidPlaceholder_eq]; decide))
    · exact he s (List.mem_cons_of_mem _ hs)
  rw [Value.parse_replace_print hinert inert_scidPlaceholder.plain fun x _ => hF x] at hparse
  split_ifs at hparse
  obtain rfl := Option.some.inj hparse
  refine Value.mapText_mapText fun s hs => ?_
  refine Text.replace_replace hinert.ne_nil inert_scidPlaceholder.ne_nil ?_
  have habsent := htexts s hs
  rw [scidPlaceholder_eq] at habsent ⊢
  exact Text.occursOnlyAt_of_absent (by decide) habsent

/-- Authentic logs with the same SCID whose genesis entries do not contain the placeholder have the
same genesis form. -/
theorem Authentic.hashingForm_eq (hF : X.f64.Lawful) {did did' scid : Text}
    {number number' : ℕ → ℕ} {entries entries' : List DIDLogEntry}
    (h : Authentic X did scid number entries)
    (h' : Authentic X did' scid number' entries')
    (hinj : Set.InjOn (deriveScid X)
      (preliminaryForms X scid entries ∪ preliminaryForms X scid entries'))
    {e e' : DIDLogEntry} (he : e ∈ entries.head?) (he' : e' ∈ entries'.head?)
    (hfree : PlaceholderFree e) (hfree' : PlaceholderFree e') :
    e.hashingForm scid = e'.hashingForm scid := by
  obtain ⟨prelim, hparse, hderive⟩ := h.scid e he
  obtain ⟨prelim', hparse', hderive'⟩ := h'.scid e' he'
  have hinert : Inert scid := hderive ▸ inert_hashLogEntry X prelim
  have hbrace : '{' ∉ scid := hderive ▸ notMem_hashLogEntry X (by decide)
  have hprelim : prelim = prelim' :=
    hinj (.inl ⟨e, he, hparse⟩) (.inr ⟨e', he', hparse'⟩) (hderive.trans hderive'.symm)
  rw [← mapText_preliminary hF hinert hbrace hfree hparse,
    ← mapText_preliminary hF hinert hbrace hfree' hparse', hprelim]

/-- A hashing form is read back to what it is made of. -/
theorem hashingForm_inj {e e' : DIDLogEntry} {p p' : Text} :
    e.hashingForm p = e'.hashingForm p' ↔ p = p' ∧ e.versionTime = e'.versionTime ∧
      e.parameters.toJson = e'.parameters.toJson ∧ e.didDocState = e'.didDocState := by
  simp only [DIDLogEntry.hashingForm, Value.array.injEq, List.cons.injEq, Value.string.injEq,
    and_true, DIDDocState.toJson_injective.eq_iff]

/-- Two accepted logs of a DID, both with a genesis entry that does not contain the placeholder
itself, have the same genesis time, parameters and state. -/
theorem genesis_eq (hF : X.f64.Lawful) {log log' : DIDLog} {did : DID}
    (h : verifyLog X log did = .ok ()) (h' : verifyLog X log' did = .ok ())
    (hinj : Set.InjOn (deriveScid X) (preliminaryForms X (did.scid.getD []) log.entries ∪
      preliminaryForms X (did.scid.getD []) log'.entries))
    {e e' : DIDLogEntry} (he : e ∈ log.entries.head?) (he' : e' ∈ log'.entries.head?)
    (hfree : PlaceholderFree e) (hfree' : PlaceholderFree e') :
    e.versionTime = e'.versionTime ∧ e.parameters.toJson = e'.parameters.toJson ∧
      e.didDocState = e'.didDocState := by
  obtain ⟨scid, hscid, hauth⟩ := verifyLog_eq_ok_iff_authentic.mp h
  obtain ⟨_, hscid', hauth'⟩ := verifyLog_eq_ok_iff_authentic.mp h'
  obtain rfl := Option.some.inj (hscid.symm.trans hscid')
  rw [hscid, Option.getD_some] at hinj
  exact (hashingForm_inj.mp (hauth.hashingForm_eq hF hauth' hinj he he' hfree hfree')).2

namespace Sample

/-- The text that the preliminary form of a genesis entry is read from. -/
def preliminaryText (e : DIDLogEntry) : Text :=
  Text.replace scid scidPlaceholder ((e.hashingForm scid).print crates.f64)

theorem injOn_of_preliminaryText_eq {e e' : DIDLogEntry}
    (h : preliminaryText e = preliminaryText e') : Set.InjOn (deriveScid crates)
      (preliminaryForms crates scid [e] ∪ preliminaryForms crates scid [e']) := by
  have hall : ∀ v ∈ preliminaryForms crates scid [e] ∪ preliminaryForms crates scid [e'],
      Json.parse crates.f64 (preliminaryText e) = some v := by
    rintro v (⟨_, he, hv⟩ | ⟨_, he, hv⟩)
    · obtain rfl := Option.some.inj he
      exact hv
    · obtain rfl := Option.some.inj he
      exact h ▸ hv
  exact fun v hv w hw _ => Option.some.inj ((hall v hv).symm.trans (hall w hw))

theorem placeholderFree_genesis : PlaceholderFree genesis := by
  unfold PlaceholderFree
  decide +kernel

theorem placeholderFree_genesisAgain : PlaceholderFree genesisAgain := by
  unfold PlaceholderFree
  decide +kernel

/-- Two sample logs, of two entries and of one, have the same genesis contents. -/
theorem genesis_eq_genesisAgain : genesis.versionTime = genesisAgain.versionTime ∧
    genesis.parameters.toJson = genesisAgain.parameters.toJson ∧
    genesis.didDocState = genesisAgain.didDocState :=
  genesis_eq lawful_f64 verifyLog_rotation verifyLog_genesisAgain
    (injOn_of_preliminaryText_eq (by rw [preliminaryText, preliminaryText,
      hashingForm_genesisAgain])) rfl rfl placeholderFree_genesis placeholderFree_genesisAgain

/-- A genesis entry with the placeholder itself in its parameters. -/
def placeholderGenesis : DIDLogEntry := entry 1 scid "2025-01-01T00:00:00Z"
  { genesisParameters with scid := some scidPlaceholder } "2025-01-01T00:00:00Z"
  placeholderSignature

/-- Two accepted logs of one DID with different genesis parameters: the placeholder in the text of
the second stands where the first has the SCID. -/
theorem parameters_ne_of_placeholder : verifyLog crates ⟨[genesis]⟩ did = .ok () ∧
    verifyLog crates ⟨[placeholderGenesis]⟩ did = .ok () ∧
    Set.InjOn (deriveScid crates) (preliminaryForms crates scid [genesis] ∪
      preliminaryForms crates scid [placeholderGenesis]) ∧
    genesis.parameters.toJson ≠ placeholderGenesis.parameters.toJson :=
  ⟨verifyLog_genesis, by decide +kernel, injOn_of_preliminaryText_eq (by decide +kernel),
    by decide +kernel⟩

end Sample

end Swiyu
