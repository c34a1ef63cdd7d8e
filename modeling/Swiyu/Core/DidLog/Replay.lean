import Swiyu.Core.DidLog.Binding
import Swiyu.Core.DidLog.Wire

/-!
# Replay of proofs

The proof of an entry signs the document and the options of the proof. What ties it to the version,
the time and the parameters of the entry is the `challenge` in its options, which the verifier does
not compare with the entry.

## Main definitions

- `Swiyu.ChallengeBound`: the proof of an entry names the version of the entry.
- `Swiyu.Rivals`: two accepted logs with the same proof on entry `i`.

## Main results

- `Swiyu.verifyLog_replay`: the proof of a later entry is accepted on an entry with any time and any
  parameters.
- `Swiyu.rivals_sameEntry_iff`: when rivals say the same.
-/

namespace Swiyu

open Json

variable {X : Crates}

/-- The first proof of an entry was made for the entry: its challenge is the entry's versionId. -/
def ChallengeBound (e : DIDLogEntry) : Prop :=
  ∀ proof ∈ e.dataIntegrityProofs.head?, proof.get "challenge" = some (.string e.versionId)

/-- Two entries say the same: version, time, parameters and document. -/
structure SameEntry (e e' : DIDLogEntry) : Prop where
  versionId : e.versionId = e'.versionId
  versionTime : e.versionTime = e'.versionTime
  parameters : e.parameters.toJson = e'.parameters.toJson
  updateKeys : e.parameters.updateKeys = e'.parameters.updateKeys
  deactivated : e.parameters.deactivated = e'.parameters.deactivated
  state : e.didDocState = e'.didDocState

/-- Two accepted logs of a DID that agree before entry `i` and have the same first proof there. -/
structure Rivals (X : Crates) (did : DID) (i : ℕ) (log log' : DIDLog) (e e' : DIDLogEntry) :
    Prop where
  accepted : verifyLog X log did = .ok ()
  accepted' : verifyLog X log' did = .ok ()
  entry : log.entries[i]? = some e
  entry' : log'.entries[i]? = some e'
  agree : log.entries.take i = log'.entries.take i
  proof : e.dataIntegrityProofs.head? = e'.dataIntegrityProofs.head?

/-- Entries with the same version and the same hashing form say the same. -/
theorem sameEntry_of_hashingForm_eq {e e' : DIDLogEntry} {p p' : Text}
    (hvid : e.versionId = e'.versionId) (h : e.hashingForm p = e'.hashingForm p') :
    SameEntry e e' := by
  obtain ⟨-, htime, hparameters, hstate⟩ := hashingForm_inj.mp h
  obtain ⟨hkeys, hdeactivated⟩ := LogParameters.eq_of_toJson_eq hparameters
  exact ⟨hvid, htime, hparameters, hkeys, hdeactivated, hstate⟩

/-! ## The replayed entry -/

/-- Entry `e` with another time and other parameters, its version recomputed and its proofs kept. -/
def replay (X : Crates) (i : ℕ) (predecessor : Text) (e : DIDLogEntry) (versionTime : Text)
    (parameters : LogParameters) : DIDLogEntry :=
  let e' := { e with versionTime, parameters }
  { e' with versionId := Text.decimal (sequenceNumber i).toNat ++
      '-' :: deriveEntryHash X (e'.hashingForm predecessor) }

theorem predecessor_take {scid : Text} {entries : List DIDLogEntry} {i : ℕ}
    (hi : i ≤ entries.length) :
    predecessor scid (entries.take i) i = predecessor scid entries i := by
  have h : predecessor scid (entries.take i ++ entries.drop i) i =
      predecessor scid (entries.take i) i := predecessor_append (by simpa using hi)
  rw [List.take_append_drop] at h
  exact h.symm

/-- The proof of an entry after genesis is accepted on an entry with any time and any parameters. -/
theorem verifyLog_replay {log : DIDLog} {did : DID} {scid : Text} {i : ℕ} {e : DIDLogEntry}
    (h : verifyLog X log did = .ok ()) (hscid : did.scid = some scid)
    (he : log.entries[i]? = some e) (hi : 0 < i) (versionTime : Text) (parameters : LogParameters) :
    verifyLog X ⟨log.entries.take i ++
      [replay X i (predecessor scid log.entries i) e versionTime parameters]⟩ did = .ok () := by
  obtain ⟨hlt, rfl⟩ := List.getElem?_eq_some_iff.mp he
  obtain ⟨_, hscid', hauth⟩ := verifyLog_eq_ok_iff_authentic.mp h
  obtain rfl := Option.some.inj (hscid.symm.trans hscid')
  have hne : log.entries.take i ≠ [] := by
    simpa [List.take_eq_nil_iff, hi.ne'] using hauth.nonempty
  have hlen : (log.entries.take i).length = i := List.length_take_of_le hlt.le
  have hmem := List.getElem_mem hlt
  have hmax : max i 1 = i := by omega
  obtain ⟨doc, hdoc, hid⟩ := hauth.subject _ hmem
  have hformat := hauth.format _ hmem
  have hsigned := hauth.signed i hlt doc hdoc
  rw [authorizedKeys, hmax] at hsigned
  refine (verifyLog_concat_eq_ok_iff hne).mpr ⟨verifyLog_take hi h, scid, hscid, hformat, doc, hdoc,
    hid, ?_, fun h0 => absurd (hlen ▸ h0) hi.ne', hsigned⟩
  rw [hlen, predecessor_take hlt.le]
  rfl

/-! ## Rivals -/

section Rivals

variable {did : DID} {i : ℕ} {log log' : DIDLog} {e e' : DIDLogEntry}

/-- The common DID, history and version of rivals. -/
theorem Rivals.versionId (h : Rivals X did i log log' e e') : ∃ scid, did.scid = some scid ∧
    e.versionId = Text.decimal (sequenceNumber i).toNat ++
      '-' :: deriveEntryHash X (e.hashingForm (predecessor scid log.entries i)) ∧
    e'.versionId = Text.decimal (sequenceNumber i).toNat ++
      '-' :: deriveEntryHash X (e'.hashingForm (predecessor scid log.entries i)) := by
  obtain ⟨scid, hscid, hauth⟩ := verifyLog_eq_ok_iff_authentic.mp h.accepted
  obtain ⟨_, hscid', hauth'⟩ := verifyLog_eq_ok_iff_authentic.mp h.accepted'
  obtain rfl := Option.some.inj (hscid.symm.trans hscid')
  obtain ⟨hlt, rfl⟩ := List.getElem?_eq_some_iff.mp h.entry
  obtain ⟨hlt', rfl⟩ := List.getElem?_eq_some_iff.mp h.entry'
  refine ⟨scid, hscid, hauth.versionId i hlt, ?_⟩
  rw [← predecessor_take hlt.le, h.agree, predecessor_take hlt'.le]
  exact hauth'.versionId i hlt'

/-- Every accepted entry has a proof, and a proof has one challenge. -/
theorem Rivals.versionId_eq (h : Rivals X did i log log' e e') (hb : ChallengeBound e)
    (hb' : ChallengeBound e') : e.versionId = e'.versionId := by
  obtain ⟨scid, -, hauth⟩ := verifyLog_eq_ok_iff_authentic.mp h.accepted
  obtain ⟨hlt, rfl⟩ := List.getElem?_eq_some_iff.mp h.entry
  obtain ⟨doc, hdoc, -⟩ := hauth.subject _ (List.getElem_mem hlt)
  obtain ⟨proof, rest, -, -, hproofs, -⟩ := hauth.signed i hlt doc hdoc
  have hhead : log.entries[i].dataIntegrityProofs.head? = some (.object proof) := by
    rw [hproofs]; rfl
  have hchallenge := (hb _ hhead).symm.trans (hb' _ (h.proof ▸ hhead))
  exact Value.string.inj (Option.some.inj hchallenge)

/-- The hashes tell apart what is hashed of two entries `i`. -/
structure NoCollision (X : Crates) (did : DID) (i : ℕ) (log log' : DIDLog) (e e' : DIDLogEntry) :
    Prop where
  entryHash : Set.InjOn (deriveEntryHash X)
    {e.hashingForm (predecessor (did.scid.getD []) log.entries i),
      e'.hashingForm (predecessor (did.scid.getD []) log.entries i)}
  /-- The SCID is derived from the genesis entries. -/
  scid : i = 0 → Set.InjOn (deriveScid X) (preliminaryForms X (did.scid.getD []) log.entries ∪
    preliminaryForms X (did.scid.getD []) log'.entries)

/-- Rivals whose proofs were made for them say the same. -/
theorem Rivals.sameEntry_of_challengeBound (h : Rivals X did i log log' e e')
    (hno : NoCollision X did i log log' e e') (hb : ChallengeBound e) (hb' : ChallengeBound e') :
    SameEntry e e' := by
  obtain ⟨scid, hscid, hvid, hvid'⟩ := h.versionId
  have hinj := hno.entryHash
  rw [hscid, Option.getD_some] at hinj
  have hveq := h.versionId_eq hb hb'
  have hhash := (decimal_dash_inj (hvid.symm.trans (hveq.trans hvid'))).2
  exact sameEntry_of_hashingForm_eq hveq (hinj (by simp) (by simp) hhash)

/-- The SCID makes rivals on the genesis entry say the same. -/
theorem Rivals.sameEntry_of_genesis (hF : X.f64.Lawful) (h : Rivals X did 0 log log' e e')
    (hno : NoCollision X did 0 log log' e e') (hfree : PlaceholderFree e)
    (hfree' : PlaceholderFree e') : SameEntry e e' := by
  obtain ⟨scid, hscid, hauth⟩ := verifyLog_eq_ok_iff_authentic.mp h.accepted
  obtain ⟨_, hscid', hauth'⟩ := verifyLog_eq_ok_iff_authentic.mp h.accepted'
  obtain rfl := Option.some.inj (hscid.symm.trans hscid')
  obtain ⟨_, hscid', hvid, hvid'⟩ := h.versionId
  obtain rfl := Option.some.inj (hscid.symm.trans hscid')
  have hinj := hno.scid rfl
  rw [hscid, Option.getD_some] at hinj
  have hform := hauth.hashingForm_eq hF hauth' hinj (List.head?_eq_getElem? ▸ h.entry)
    (List.head?_eq_getElem? ▸ h.entry') hfree hfree'
  refine sameEntry_of_hashingForm_eq ?_ hform
  rw [predecessor] at hvid hvid'
  rw [hvid, hvid', hform]

/-- What ties an entry to its proof or to its SCID does so for an entry that says the same. -/
theorem SameEntry.tied_iff (h : SameEntry e e')
    (hproof : e.dataIntegrityProofs.head? = e'.dataIntegrityProofs.head?) :
    (ChallengeBound e ↔ ChallengeBound e') ∧ (PlaceholderFree e ↔ PlaceholderFree e') := by
  have hform : e.hashingForm [] = e'.hashingForm [] :=
    hashingForm_inj.mpr ⟨rfl, h.versionTime, h.parameters, h.state⟩
  constructor
  · rw [ChallengeBound, ChallengeBound, hproof, h.versionId]
  · rw [PlaceholderFree, PlaceholderFree, hform]

/-- Rivals of which one is tied to its proof, or to its SCID, say the same just when the other is,
too. -/
theorem Rivals.sameEntry_iff (hF : X.f64.Lawful) (h : Rivals X did i log log' e e')
    (hno : NoCollision X did i log log' e e')
    (htied : (ChallengeBound e ∨ ChallengeBound e') ∨
      i = 0 ∧ (PlaceholderFree e ∨ PlaceholderFree e')) :
    SameEntry e e' ↔ ChallengeBound e ∧ ChallengeBound e' ∨
      i = 0 ∧ PlaceholderFree e ∧ PlaceholderFree e' := by
  constructor
  · intro hsame
    obtain ⟨hbound, hfree⟩ := hsame.tied_iff h.proof
    rcases htied with hb | ⟨hi, hf⟩
    · exact .inl ⟨hb.elim id hbound.mpr, hb.elim hbound.mp id⟩
    · exact .inr ⟨hi, hf.elim id hfree.mpr, hf.elim hfree.mp id⟩
  · rintro (⟨hb, hb'⟩ | ⟨rfl, hf, hf'⟩)
    · exact h.sameEntry_of_challengeBound hno hb hb'
    · exact h.sameEntry_of_genesis hF hno hf hf'

end Rivals

/-- Every accepted entry after the genesis entry has a rival that says something else: the same one
at another time that the hash tells apart. -/
theorem exists_rivals {log : DIDLog} {did : DID} {i : ℕ} {e : DIDLogEntry}
    (h : verifyLog X log did = .ok ()) (he : log.entries[i]? = some e) (hi : 0 < i)
    (htime : ∃ versionTime, deriveEntryHash X ({ e with versionTime }.hashingForm
      (predecessor (did.scid.getD []) log.entries i)) ≠
        deriveEntryHash X (e.hashingForm (predecessor (did.scid.getD []) log.entries i))) :
    ∃ log' e', Rivals X did i log log' e e' ∧ NoCollision X did i log log' e e' ∧
      ¬ SameEntry e e' := by
  obtain ⟨scid, hscid, -⟩ := verifyLog_eq_ok_iff_authentic.mp h
  obtain ⟨versionTime, hhash⟩ := htime
  rw [hscid, Option.getD_some] at hhash
  -- The proof of the entry does not cover its time, so it is accepted with another one.
  have haccepted := verifyLog_replay h hscid he hi versionTime e.parameters
  set e' := replay X i (predecessor scid log.entries i) e versionTime e.parameters with he'
  obtain ⟨hlt, -⟩ := List.getElem?_eq_some_iff.mp he
  have hlen : (log.entries.take i).length = i := List.length_take_of_le hlt.le
  refine ⟨⟨log.entries.take i ++ [e']⟩, e', ?_, ⟨?_, fun hzero => absurd hzero hi.ne'⟩, ?_⟩
  · exact ⟨h, haccepted, he, by rw [List.getElem?_append_right hlen.le, hlen]; simp,
      by rw [List.take_append_of_le_length hlen.ge, List.take_take, Nat.min_self], rfl⟩
  · -- The two hashes differ.
    have hform : deriveEntryHash X (e'.hashingForm (predecessor scid log.entries i)) ≠
        deriveEntryHash X (e.hashingForm (predecessor scid log.entries i)) := hhash
    rw [hscid, Option.getD_some, Set.injOn_pair]
    exact fun heq => absurd heq.symm hform
  · intro hsame
    have htime : e.versionTime = versionTime := hsame.versionTime
    exact hhash (by rw [← htime])

/-- A proof authorises the entry it was made for, and the SCID the genesis entry that does not
contain its placeholder. For every accepted log and every entry `i` of it, of which the hash tells
some other time apart:

* all rivals on entry `i` say the same just when `i` is the genesis entry, where entries with the
  placeholder are left out;
* of rivals of which one is bound to its proof, or is a genesis entry without the placeholder, the
  two say the same just when both are bound, or are genesis entries without the placeholder. -/
theorem rivals_sameEntry_iff (hF : X.f64.Lawful) {log : DIDLog} {did : DID} {i : ℕ}
    {e : DIDLogEntry} (h : verifyLog X log did = .ok ()) (he : log.entries[i]? = some e)
    (htime : ∃ versionTime, deriveEntryHash X ({ e with versionTime }.hashingForm
      (predecessor (did.scid.getD []) log.entries i)) ≠
        deriveEntryHash X (e.hashingForm (predecessor (did.scid.getD []) log.entries i))) :
    ((∀ log' e', Rivals X did i log log' e e' → NoCollision X did i log log' e e' →
        (i = 0 → PlaceholderFree e ∧ PlaceholderFree e') → SameEntry e e') ↔ i = 0) ∧
    ∀ log' e', Rivals X did i log log' e e' → NoCollision X did i log log' e e' →
      ((ChallengeBound e ∨ ChallengeBound e') ∨
        i = 0 ∧ (PlaceholderFree e ∨ PlaceholderFree e')) →
      (SameEntry e e' ↔ ChallengeBound e ∧ ChallengeBound e' ∨
        i = 0 ∧ PlaceholderFree e ∧ PlaceholderFree e') := by
  refine ⟨⟨fun hall => ?_, ?_⟩, fun log' e' hr hno htied => hr.sameEntry_iff hF hno htied⟩
  · by_contra hi
    obtain ⟨log', e', hr, hno, hne⟩ := exists_rivals h he (Nat.pos_of_ne_zero hi) htime
    exact hne (hall log' e' hr hno fun hzero => absurd hzero hi)
  · rintro rfl log' e' hr hno hfree
    exact hr.sameEntry_of_genesis hF hno (hfree rfl).1 (hfree rfl).2

/-! ## A replayed sample proof -/

namespace Sample

/-- The document and the options that the first proof of an entry signs. -/
def signedForm (e : DIDLogEntry) : Option (Value × Value) := do
  let proof ← e.dataIntegrityProofs.head?.bind Value.asObject
  let doc ← e.didDocState.toJson.get "value"
  return (doc, .object (proof.remove "proofValue"))

/-- The proof of the rotation on an entry that keeps the first key. -/
def takeover : DIDLogEntry := replay crates 1 genesis.versionId rotation "2025-01-03T00:00:00Z"
  { format := .tdw03, updateKeys := some [ed25519VerifyingKeyToMultikey key] }

/-- The forms hashed in the logs of the rotation and of the takeover. -/
def rotationForms : List Value :=
  [genesis.hashingForm scid, rotation.hashingForm genesis.versionId,
    takeover.hashingForm genesis.versionId]

theorem injOn_rotationForms : Set.InjOn (deriveEntryHash crates)
    (hashedForms scid [genesis, rotation] ∪ hashedForms scid [genesis, takeover]) := by
  have hsub : ∀ v ∈ hashedForms scid [genesis, rotation] ∪ hashedForms scid [genesis, takeover],
      v ∈ rotationForms := by
    rintro v (hv | hv)
    · rcases eq_or_eq_of_mem_hashedForms hv with rfl | rfl <;> simp [rotationForms]
    · rcases eq_or_eq_of_mem_hashedForms hv with rfl | rfl <;> simp [rotationForms]
  have hinj : ∀ v ∈ rotationForms, ∀ w ∈ rotationForms,
      deriveEntryHash crates v = deriveEntryHash crates w → v = w := by decide +kernel
  exact fun v hv w hw => hinj v (hsub v hv) w (hsub w hw)

/-- The rotation has a rival that says something else, and one that is bound to its proof says the
same as the rotation. -/
theorem exists_rival_rotation : (∃ log' e',
    Rivals crates did 1 ⟨[genesis, rotation]⟩ log' rotation e' ∧
      NoCollision crates did 1 ⟨[genesis, rotation]⟩ log' rotation e' ∧
      ¬ SameEntry rotation e') ∧
    ∀ log' e', Rivals crates did 1 ⟨[genesis, rotation]⟩ log' rotation e' →
      NoCollision crates did 1 ⟨[genesis, rotation]⟩ log' rotation e' →
      ChallengeBound e' → SameEntry rotation e' := by
  have htime : ∃ versionTime, deriveEntryHash crates ({ rotation with versionTime }.hashingForm
      (predecessor (did.scid.getD []) [genesis, rotation] 1)) ≠
        deriveEntryHash crates (rotation.hashingForm
          (predecessor (did.scid.getD []) [genesis, rotation] 1)) :=
    ⟨"2025-01-03T00:00:00Z", by decide +kernel⟩
  have hbound : ChallengeBound rotation := by
    unfold ChallengeBound
    decide +kernel
  obtain ⟨hrivals, hpair⟩ := rivals_sameEntry_iff lawful_f64 verifyLog_rotation rfl htime
  refine ⟨?_, fun log' e' hr hno hb' => (hpair log' e' hr hno (.inl (.inl hbound))).mpr
    (.inl ⟨hbound, hb'⟩)⟩
  by_contra hno
  exact one_ne_zero (hrivals.mp fun log' e' hr hc _ =>
    by_contra fun hne => hno ⟨log', e', hr, hc, hne⟩)

/-- Two accepted logs that agree on the genesis entry and have the same proof in the next entry,
which announces different update keys. -/
theorem updateKeys_ne_of_replay : verifyLog crates ⟨[genesis, rotation]⟩ did = .ok () ∧
    verifyLog crates ⟨[genesis, takeover]⟩ did = .ok () ∧
    rotation.dataIntegrityProofs.head? = takeover.dataIntegrityProofs.head? ∧
    Set.InjOn (deriveEntryHash crates)
      (hashedForms scid [genesis, rotation] ∪ hashedForms scid [genesis, takeover]) ∧
    (∀ p ∈ [genesis, rotation, takeover].filterMap signedForm,
      ∀ q ∈ [genesis, rotation, takeover].filterMap signedForm,
        eddsaJcs2022Hash crates p.1 p.2 = eddsaJcs2022Hash crates q.1 q.2 → p = q) ∧
    rotation.parameters.updateKeys ≠ takeover.parameters.updateKeys := by
  refine ⟨verifyLog_rotation, ?_, rfl, injOn_rotationForms, by decide +kernel, by decide +kernel⟩
  exact verifyLog_replay verifyLog_rotation rfl rfl Nat.zero_lt_one _ _

end Sample

end Swiyu
