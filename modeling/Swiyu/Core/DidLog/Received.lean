import Swiyu.Core.DidLog.Binding
import Swiyu.Core.DidLog.Wire

/-!
# What verification covers

The verifier hashes an entry as it would write it, not as it was received. The two agree just when
reading the entry has dropped nothing: when its parameters and its state have no members that the
reader does not know, and genesis parameters say whether the DID is portable.

## Main definitions

- `Swiyu.Covered`: a received entry hashes to what its own `versionId` says.
- `Swiyu.Verbatim`: a received entry is one that is written as it was read.

## Main results

- `Swiyu.LogParameters.toJson_eq_iff`, `Swiyu.DIDDocState.toJson_eq_iff`: when parameters and
  states are written as they were read.
- `Swiyu.covered_iff_verbatim`: which entries of an accepted log are covered.
-/

namespace Swiyu

open Json

/-! ## Parameters -/

namespace LogParameters

/-- The members that a `did:tdw` entry may have. -/
def tdwFieldNames : List Text :=
  ["method", "scid", "updateKeys", "prerotation", "nextKeyHashes", "portable", "deactivated", "ttl",
    "witness"].map Text.lit

/-- Parameters that are written as they were read: they have no other members, and those of a
genesis entry have `portable`. -/
structure Verbatim (params : Value) : Prop where
  known : ∀ key v, params.get key = some v → key ∈ tdwFieldNames
  portable : (params.get "scid").isSome → (params.get "portable").isSome

variable {obj : Object} {p : LogParameters}

/-- An optional field that was read is written as it was read. -/
theorem get_eq_of_optionalField {α : Type} {read : Value → Option α} {toJson : α → Value}
    {typeName key : Text} {o : Option α} (h : optionalField read typeName obj key = .ok o)
    (hread : ∀ v a, read v = some a → v = toJson a) : obj.get key = o.map toJson := by
  rw [optionalField] at h
  cases hget : obj.get key with
  | none =>
    rw [hget] at h
    cases h
    rfl
  | some v =>
    rw [hget] at h
    simp only [Except.map_eq_ok_iff, Option.okOr_eq_ok_iff] at h
    obtain ⟨a, ha, rfl⟩ := h
    rw [hread v a ha]
    rfl

theorem eq_map_string {arr : List Value} {l : List Text}
    (h : List.Forall₂ (fun v t => Value.asStr v = some t) arr l) : arr = l.map .string := by
  induction h with
  | nil => rfl
  | cons hv _ ih => rw [List.map_cons, ← ih, Value.asStr_eq_some_iff.mp hv]

theorem get_eq_of_stringArrayField {key : Text} {o : Option (List Text)}
    (h : stringArrayField obj key = .ok o) : obj.get key = o.map Value.strings := by
  simp only [stringArrayField, Except.bind_eq_ok_iff] at h
  obtain ⟨arr, harr, h⟩ := h
  have hget : obj.get key = arr.map Value.array :=
    get_eq_of_optionalField harr fun v a ha => Value.asArray_eq_some_iff.mp ha
  rw [hget]
  cases arr with
  | none =>
    cases h
    rfl
  | some arr =>
    simp only [Except.map_eq_ok_iff, Except.mapM_eq_ok_iff, Option.okOr_eq_ok_iff] at h
    obtain ⟨l, hl, rfl⟩ := h
    rw [eq_map_string hl]
    rfl

/-- The members of parameters that were read, in terms of what they were read as. -/
theorem get_of_tryFromJson {params : Value} (h : tryFromJson params .tdw03 = .ok p) :
    params.get "method" = p.method.map .string ∧ params.get "scid" = p.scid.map .string ∧
      params.get "updateKeys" = p.updateKeys.map .strings ∧
      params.get "prerotation" = p.prerotation.map .bool ∧
      params.get "nextKeyHashes" = p.nextKeyHashes.map .strings ∧
      params.get "portable" = p.portable.map .bool ∧
      params.get "deactivated" = p.deactivated.map .bool ∧
      params.get "ttl" = p.ttl.map (fun n => .number (.posInt n)) ∧
      params.get "witness" = p.witness ∧ p.format = .tdw03 ∧ p.watchers = none := by
  simp only [tryFromJson, Except.bind_eq_ok_iff, Option.okOr_eq_ok_iff,
    Value.asObject_eq_some_iff] at h
  obtain ⟨obj, rfl, method, hmethod, scid, hscid, updateKeys, hupdateKeys, prerotation,
    hprerotation, nextKeyHashes, hnextKeyHashes, portable, hportable, deactivated, hdeactivated,
    ttl, httl, watchers, hwatchers, h⟩ := h
  cases h
  cases hwatchers
  have hbool : ∀ v b, Value.asBool v = some b → v = .bool b := fun _ _ =>
    Value.asBool_eq_some_iff.mp
  have hstr : ∀ v t, Value.asStr v = some t → v = .string t := fun _ _ =>
    Value.asStr_eq_some_iff.mp
  exact ⟨get_eq_of_optionalField hmethod hstr, get_eq_of_optionalField hscid hstr,
    get_eq_of_stringArrayField hupdateKeys, get_eq_of_optionalField hprerotation hbool,
    get_eq_of_stringArrayField hnextKeyHashes, get_eq_of_optionalField hportable hbool,
    get_eq_of_optionalField hdeactivated hbool,
    get_eq_of_optionalField httl fun _ _ => Value.asU64_eq_some_iff.mp, rfl, rfl, rfl⟩

/-- The members with which parameters are written. -/
theorem get_toJson (p : LogParameters) :
    p.toJson.get "method" = p.method.map .string ∧ p.toJson.get "scid" = p.scid.map .string ∧
      p.toJson.get "updateKeys" = p.updateKeys.map .strings ∧
      p.toJson.get "prerotation" = p.prerotation.map .bool ∧
      p.toJson.get "nextKeyHashes" = p.nextKeyHashes.map .strings ∧
      p.toJson.get "portable" = p.portableJson.map .bool ∧
      p.toJson.get "deactivated" = p.deactivated.map .bool ∧
      p.toJson.get "ttl" = p.ttl.map (fun n => .number (.posInt n)) ∧
      p.toJson.get "witness" = p.witness := by
  refine ⟨p.get_toFields "method" .string p.method ?_, p.get_toFields "scid" .string p.scid ?_,
    p.get_toFields "updateKeys" .strings p.updateKeys ?_,
    p.get_toFields "prerotation" .bool p.prerotation ?_,
    p.get_toFields "nextKeyHashes" .strings p.nextKeyHashes ?_,
    p.get_toFields "portable" .bool p.portableJson ?_,
    p.get_toFields "deactivated" .bool p.deactivated ?_,
    p.get_toFields "ttl" (fun n => .number (.posInt n)) p.ttl ?_,
    (p.get_toFields "witness" id p.witness ?_).trans Option.map_id'⟩
  all_goals simp [toFields, mem_member]

/-- Nothing else is written. -/
theorem mem_of_get_toJson {key : Text} {v : Value} (hp : p.format = .tdw03)
    (h : p.toJson.get key = some v) : key ∈ tdwFieldNames := by
  rw [get_toJson_eq_some_iff] at h
  simp only [toFields, List.mem_append, mem_member, hp] at h
  rcases h with ((((((((h | h) | h) | h) | h) | h) | h) | h) | h) | ⟨-, a, h, -⟩
  · simp [tdwFieldNames, h.1]
  · simp [tdwFieldNames, h.1]
  · simp [tdwFieldNames, h.1]
  · simp [tdwFieldNames, h.1]
  · simp [tdwFieldNames, h.1]
  · simp [tdwFieldNames, h.1]
  · simp [tdwFieldNames, h.1]
  · simp [tdwFieldNames, h.1]
  · simp [tdwFieldNames, h.1]
  · cases h

/-- Parameters are written as they were read just when nothing had to be dropped or added. -/
theorem toJson_eq_iff {params : Value} (h : tryFromJson params .tdw03 = .ok p) :
    p.toJson = params ↔ Verbatim params := by
  obtain ⟨hmethod, hscid, hupdateKeys, hprerotation, hnextKeyHashes, hportable, hdeactivated, httl,
    hwitness, hformat, -⟩ := get_of_tryFromJson h
  obtain ⟨hmethod', hscid', hupdateKeys', hprerotation', hnextKeyHashes', hportable',
    hdeactivated', httl', hwitness'⟩ := get_toJson p
  constructor
  · -- Parameters that are written as they were read have no other members, as none is written.
    intro heq
    refine ⟨fun key v hget => mem_of_get_toJson hformat (heq ▸ hget), fun hsome => ?_⟩
    rw [← heq, hportable', portableJson, hformat]
    rw [hscid] at hsome
    cases p.portable <;> simp_all
  · rintro ⟨hknown, hgenesis⟩
    have hportableJson : p.portableJson = p.portable := by
      rw [portableJson]
      cases hp : p.portable with
      | some v => rfl
      | none =>
        rw [hscid, hportable, hp] at hgenesis
        have hnone : p.scid.isSome = false := by simpa using hgenesis
        simp [hnone]
    -- Both sides are objects with the same members.
    obtain ⟨obj, rfl⟩ : ∃ obj, params = .object obj := by
      simp only [tryFromJson, Except.bind_eq_ok_iff, Option.okOr_eq_ok_iff,
        Value.asObject_eq_some_iff] at h
      obtain ⟨obj, hobj, -⟩ := h
      exact ⟨obj, hobj⟩
    -- Each known member is written as it was read, and there are no others on either side.
    have hget : ∀ key, p.toJson.get key = (Value.object obj).get key := by
      intro key
      by_cases hkey : key ∈ tdwFieldNames
      · simp only [tdwFieldNames, List.map_cons, List.map_nil, List.mem_cons, List.not_mem_nil,
          or_false] at hkey
        rcases hkey with rfl | rfl | rfl | rfl | rfl | rfl | rfl | rfl | rfl
        · rw [hmethod', hmethod]
        · rw [hscid', hscid]
        · rw [hupdateKeys', hupdateKeys]
        · rw [hprerotation', hprerotation]
        · rw [hnextKeyHashes', hnextKeyHashes]
        · rw [hportable', hportable, hportableJson]
        · rw [hdeactivated', hdeactivated]
        · rw [httl', httl]
        · rw [hwitness', hwitness]
      · have hleft : p.toJson.get key = none := by
          by_contra hne
          obtain ⟨v, hv⟩ := Option.ne_none_iff_exists'.mp hne
          exact hkey (mem_of_get_toJson hformat hv)
        have hright : (Value.object obj).get key = none := by
          by_contra hne
          obtain ⟨v, hv⟩ := Option.ne_none_iff_exists'.mp hne
          exact hkey (hknown key v hv)
        rw [hleft, hright]
    exact congrArg Value.object (OrdMap.Entries.ext_get hget)

end LogParameters

/-! ## States -/

namespace DIDDocState

/-- A state that is written as it was read: it has the one member that is read. -/
def Verbatim (state : Value) : Prop :=
  ∀ key v, state.get key = some v →
    key = if (state.get "value").isSome then Text.lit "value" else Text.lit "patch"

/-- States are written as they were read just when they have one member. -/
theorem toJson_eq_iff {v : Value} {state : DIDDocState} (h : tryFromJson v = .ok state) :
    state.toJson = v ↔ Verbatim v := by
  simp only [tryFromJson, Except.bind_eq_ok_iff, Option.okOr_eq_ok_iff,
    Value.asObject_eq_some_iff] at h
  obtain ⟨obj, rfl, h⟩ := h
  have hread : ∀ key, (Value.object obj).get key = obj.get key := fun _ => rfl
  -- The member that is read, and the only one that is written.
  obtain ⟨name, v, hname, hget, hwritten⟩ : ∃ name v,
      (if (obj.get "value").isSome then Text.lit "value" else Text.lit "patch") = name ∧
        obj.get name = some v ∧
          ∀ key, state.toJson.get key = if key = name then some v else none := by
    cases hvalue : obj.get "value" with
    | some v =>
      rw [hvalue] at h
      cases h
      exact ⟨_, v, rfl, hvalue, fun key => get_toJson (.value v) key⟩
    | none =>
      cases hpatch : obj.get "patch" with
      | some p =>
        rw [hvalue, hpatch] at h
        cases h
        exact ⟨_, p, rfl, hpatch, fun key => get_toJson (.patch p) key⟩
      | none =>
        rw [hvalue, hpatch] at h
        cases h
  constructor
  · intro heq key w hw
    rw [hread, hname]
    rw [← heq, hwritten] at hw
    by_contra hne
    rw [if_neg hne] at hw
    cases hw
  · -- A state with one member is the object with that member.
    intro hverbatim
    have hsame : ∀ key, state.toJson.get key = (Value.object obj).get key := by
      intro key
      rw [hwritten, hread]
      by_cases hkey : key = name
      · rw [if_pos hkey, hkey, hget]
      · rw [if_neg hkey]
        by_contra hne
        obtain ⟨w, hw⟩ := Option.ne_none_iff_exists'.mp (Ne.symm hne)
        have hone := hverbatim key w hw
        rw [hread, hname] at hone
        exact hkey hone
    cases state <;> exact congrArg Value.object (OrdMap.Entries.ext_get hsame)

end DIDDocState

/-! ## Entries and lines -/

variable (X : Crates)

/-- The lines of a log that are not blank. -/
def receivedLines (text : Text) : List Text :=
  ((Text.lines text).map Text.trim).filter fun line => line ≠ []

/-- A line is read as an entry. -/
def ParsesTo (line : Text) (entry : DIDLogEntry) : Prop :=
  ∃ v, Json.parse X.f64 line = some v ∧ DIDLogEntry.tryFromJson v = .ok entry

/-- The entries of a log as they are received. -/
def receivedEntries (text : Text) : List Value := (receivedLines text).filterMap (Json.parse X.f64)

/-- What is hashed of a received entry: the array without its last element, its first one replaced
by what the entry builds on. -/
def receivedForm (received : Value) (predecessor : Text) : Value :=
  setVersionId (stripProofSlot received .tdw03) predecessor .tdw03

/-- A received entry hashes to what its own `versionId` says. -/
def Covered (received : Value) (predecessor : Text) : Prop :=
  ∃ versionId rest n, received = .array (.string versionId :: rest) ∧
    versionId = Text.decimal n ++ '-' :: deriveEntryHash X (receivedForm received predecessor)

/-- A received entry is one that is written as it was read. -/
def Verbatim (received : Value) : Prop :=
  ∃ versionId versionTime params state proofs,
    received = .array [versionId, versionTime, params, state, proofs] ∧
      LogParameters.Verbatim params ∧ DIDDocState.Verbatim state

variable {X}

/-- The lines that are read as the given entries. -/
theorem entriesOfLines_eq_ok_iff {lines : List Text} {i : ℕ} {entries : List DIDLogEntry} :
    DIDLog.entriesOfLines X i lines = .ok entries ↔
      List.Forall₂ (ParsesTo X) ((lines.map Text.trim).filter fun line => line ≠ []) entries := by
  induction lines generalizing i entries with
  | nil =>
    rw [DIDLog.entriesOfLines, List.map_nil, List.filter_nil, List.forall₂_nil_left_iff,
      Except.ok.injEq, eq_comm]
  | cons line lines ih =>
    rw [DIDLog.entriesOfLines, List.map_cons]
    by_cases hblank : Text.trim line = []
    · simpa [hblank] using ih
    · -- The first entry is that of the line, and the others are those of the lines after it.
      rw [if_neg hblank, List.filter_cons_of_pos (by simpa using hblank),
        List.forall₂_cons_left_iff]
      simp only [Except.bind_eq_ok_iff, DIDLog.entryOfLine, Except.mapError_eq_ok_iff,
        X.fromStr_eq_ok_iff, ih]
      constructor
      · rintro ⟨entry, hline, rest, hrest, hentries⟩
        exact ⟨entry, rest, hline, hrest, (Except.ok.inj hentries).symm⟩
      · rintro ⟨entry, rest, hline, hrest, hentries⟩
        exact ⟨entry, hline, rest, hrest, hentries ▸ rfl⟩

/-- A log is read from its lines. -/
theorem tryFromJsonl_eq_ok_iff {text : Text} {log : DIDLog} :
    DIDLog.tryFromJsonl X text = .ok log ↔
      List.Forall₂ (ParsesTo X) (receivedLines text) log.entries := by
  simp only [DIDLog.tryFromJsonl, Except.map_eq_ok_iff, entriesOfLines_eq_ok_iff]
  constructor
  · rintro ⟨entries, h, hlog⟩
    exact hlog ▸ h
  · intro h
    exact ⟨log.entries, h, rfl⟩

/-- The received entries of a log and what they are read as. -/
theorem forall₂_receivedEntries {text : Text} {log : DIDLog}
    (h : DIDLog.tryFromJsonl X text = .ok log) :
    List.Forall₂ (fun received entry => DIDLogEntry.tryFromJson received = .ok entry)
      (receivedEntries X text) log.entries := by
  have hall := tryFromJsonl_eq_ok_iff.mp h
  rw [receivedEntries]
  generalize receivedLines text = lines at hall
  generalize log.entries = entries at hall
  induction hall with
  | nil => exact .nil
  | cons hline _ ih =>
    obtain ⟨v, hv, hentry⟩ := hline
    rw [List.filterMap_cons_some hv]
    exact .cons hentry ih

/-- A received `did:tdw` entry, taken apart. -/
theorem array_of_tryFromJson {received : Value} {entry : DIDLogEntry}
    (h : DIDLogEntry.tryFromJson received = .ok entry) (hformat : entry.format = .tdw03) :
    ∃ params state, received = .array [.string entry.versionId, .string entry.versionTime, params,
        state, .array entry.dataIntegrityProofs] ∧
      LogParameters.tryFromJson params .tdw03 = .ok entry.parameters ∧
      DIDDocState.tryFromJson state = .ok entry.didDocState := by
  cases received with
  | array arr =>
    rw [DIDLogEntry.tryFromJson] at h
    unfold DIDLogEntry.tryFromJsonArray at h
    split at h
    · simp only [Except.bind_eq_ok_iff, Option.okOr_eq_ok_iff, Value.asStr_eq_some_iff,
        Value.asArray_eq_some_iff, pure, Except.pure, Except.ok.injEq] at h
      obtain ⟨_, rfl, _, rfl, _, hparams, _, hstate, _, rfl, rfl⟩ := h
      exact ⟨_, _, rfl, hparams, hstate⟩
    · cases h
  | object obj =>
    -- Such an entry is in the other format.
    simp only [DIDLogEntry.tryFromJson, DIDLogEntry.tryFromJsonObject, Except.bind_eq_ok_iff, pure,
      Except.pure, Except.ok.injEq] at h
    obtain ⟨_, _, _, _, _, _, _, _, _, _, _, _, _, _, _, _, _, _, _, _, rfl⟩ := h
    cases hformat
  | null => cases h
  | bool b => cases h
  | number n => cases h
  | string t => cases h

/-- An entry hashes to what its `versionId` says just when it is written as it was read. -/
theorem covered_iff_verbatim {received : Value} {entry : DIDLogEntry} {predecessor : Text} {n : ℕ}
    (h : DIDLogEntry.tryFromJson received = .ok entry) (hformat : entry.format = .tdw03)
    (hversion : entry.versionId =
      Text.decimal n ++ '-' :: deriveEntryHash X (entry.hashingForm predecessor))
    (hcollision : deriveEntryHash X (receivedForm received predecessor) =
        deriveEntryHash X (entry.hashingForm predecessor) →
      receivedForm received predecessor = entry.hashingForm predecessor) :
    Covered X received predecessor ↔ Verbatim received := by
  obtain ⟨params, state, rfl, hparams, hstate⟩ := array_of_tryFromJson h hformat
  have hform : receivedForm (.array [.string entry.versionId, .string entry.versionTime, params,
      state, .array entry.dataIntegrityProofs]) predecessor =
        .array [.string predecessor, .string entry.versionTime, params, state] := rfl
  -- What was received and what is written differ in the parameters and in the state only.
  have hsame : receivedForm (.array [.string entry.versionId, .string entry.versionTime, params,
      state, .array entry.dataIntegrityProofs]) predecessor = entry.hashingForm predecessor ↔
        LogParameters.Verbatim params ∧ DIDDocState.Verbatim state := by
    rw [hform, ← LogParameters.toJson_eq_iff hparams, ← DIDDocState.toJson_eq_iff hstate,
      DIDLogEntry.hashingForm]
    simp only [Value.array.injEq, List.cons.injEq, true_and, and_true]
    exact and_congr eq_comm eq_comm
  constructor
  · rintro ⟨versionId, rest, m, hreceived, hclaimed⟩
    cases hreceived
    have hhash := decimal_dash_inj (hclaimed.symm.trans hversion)
    exact ⟨_, _, params, state, _, rfl, hsame.mp (hcollision hhash.2)⟩
  · rintro ⟨_, _, params', state', _, hreceived, hverbatim⟩
    cases hreceived
    refine ⟨entry.versionId, _, n, rfl, ?_⟩
    rw [hsame.mpr hverbatim]
    exact hversion

/-- The entries of an accepted log hash, as they were received, to what their `versionId`s say
just when each of them is written as it was read; unless what was received and what is written
collide. -/
theorem covered_iff_forall_verbatim {text : Text} {log : DIDLog} {did : DID} {scid : Text}
    (hlog : DIDLog.tryFromJsonl X text = .ok log) (hverify : verifyLog X log did = .ok ())
    (hscid : did.scid = some scid)
    (hcollision : ∀ i received entry, (receivedEntries X text)[i]? = some received →
      log.entries[i]? = some entry →
      deriveEntryHash X (receivedForm received (predecessor scid log.entries i)) =
        deriveEntryHash X (entry.hashingForm (predecessor scid log.entries i)) →
      receivedForm received (predecessor scid log.entries i) =
        entry.hashingForm (predecessor scid log.entries i)) :
    (∀ i received, (receivedEntries X text)[i]? = some received →
        Covered X received (predecessor scid log.entries i)) ↔
      ∀ received ∈ receivedEntries X text, Verbatim received := by
  obtain ⟨scid', hscid', hauth⟩ := verifyLog_eq_ok_iff_authentic.mp hverify
  obtain rfl : scid = scid' := by simpa [hscid] using hscid'
  have hread := forall₂_receivedEntries hlog
  -- Entry by entry.
  have hentry : ∀ i received, (receivedEntries X text)[i]? = some received →
      (Covered X received (predecessor scid log.entries i) ↔ Verbatim received) := by
    intro i received hreceived
    obtain ⟨hi, rfl⟩ := List.getElem?_eq_some_iff.mp hreceived
    have hi' : i < log.entries.length := hread.length_eq ▸ hi
    have hparse : DIDLogEntry.tryFromJson (receivedEntries X text)[i] = .ok log.entries[i] :=
      List.forall₂_iff_get.mp hread |>.2 i hi hi'
    exact covered_iff_verbatim hparse (hauth.format _ (List.getElem_mem hi'))
      (hauth.versionId i hi')
      (hcollision i _ _ hreceived (List.getElem?_eq_getElem hi'))
  constructor
  · intro hcovered received hmem
    obtain ⟨i, hi⟩ := List.mem_iff_getElem?.mp hmem
    exact (hentry i received hi).mp (hcovered i received hi)
  · intro hverbatim i received hi
    exact (hentry i received hi).mpr (hverbatim received (List.mem_of_getElem? hi))

/-! ## A sample member that nothing covers -/

namespace Sample

/-- The sample crates with the digest of the padded entry. -/
def paddedCrates : Crates :=
  cratesOf ((42288, 0xd9a723e88f6445256a56dd0c41c41eb42f0946892f719ebd3f5c920e6d2e0210) :: digests)
    signatures

/-- The sample genesis entry as it is read back: with an explicit `portable`. -/
def paddedAsRead : DIDLogEntry :=
  { genesis with parameters := genesisParameters.asRead .tdw03 }

/-- The sample genesis entry with another member beside the document. -/
def padded : Value := .array [.string genesis.versionId, .string genesis.versionTime,
  genesis.parameters.toJson,
  .ofFields [(Text.lit "value", document), (Text.lit "x", .number (.posInt 1))],
  .array genesis.dataIntegrityProofs]

/-- The log of that entry. -/
def paddedText : Text := padded.print paddedCrates.f64 ++ ['\n']

theorem tryFromJsonl_paddedText :
    DIDLog.tryFromJsonl paddedCrates paddedText = .ok ⟨[paddedAsRead]⟩ := by
  decide +kernel

theorem verifyLog_paddedAsRead : verifyLog paddedCrates ⟨[paddedAsRead]⟩ did = .ok () := by
  decide +kernel

theorem receivedEntries_paddedText : receivedEntries paddedCrates paddedText = [padded] := by
  decide +kernel

/-- With and without the member the entry has different hashes. -/
theorem hash_padded_ne : deriveEntryHash paddedCrates (receivedForm padded scid) ≠
    deriveEntryHash paddedCrates (paddedAsRead.hashingForm scid) := by
  decide +kernel

theorem versionId_padded : genesis.versionId =
    Text.decimal 1 ++ '-' :: deriveEntryHash paddedCrates (paddedAsRead.hashingForm scid) := by
  decide +kernel

/-- The log is accepted although the hash in its `versionId` is not that of the received entry. -/
theorem not_covered_padded : DIDLog.tryFromJsonl paddedCrates paddedText = .ok ⟨[paddedAsRead]⟩ ∧
    verifyLog paddedCrates ⟨[paddedAsRead]⟩ did = .ok () ∧
    ¬ ∀ i received, (receivedEntries paddedCrates paddedText)[i]? = some received →
      Covered paddedCrates received (predecessor scid [paddedAsRead] i) := by
  refine ⟨tryFromJsonl_paddedText, verifyLog_paddedAsRead, fun hall => ?_⟩
  rw [receivedEntries_paddedText] at hall
  obtain ⟨versionId, rest, n, hreceived, hclaimed⟩ := hall 0 padded rfl
  cases hreceived
  exact hash_padded_ne (decimal_dash_inj (hclaimed.symm.trans versionId_padded)).2

/-- The padded entry is not written as it was read, so that it is not covered. -/
theorem covered_iff_verbatim_padded :
    (∀ i received, (receivedEntries paddedCrates paddedText)[i]? = some received →
        Covered paddedCrates received (predecessor scid [paddedAsRead] i)) ↔
      ∀ received ∈ receivedEntries paddedCrates paddedText, Verbatim received := by
  refine covered_iff_forall_verbatim tryFromJsonl_paddedText verifyLog_paddedAsRead rfl ?_
  intro i received entry hreceived hentry hhash
  rw [receivedEntries_paddedText] at hreceived
  cases i with
  | zero =>
    cases hreceived
    cases hentry
    exact absurd hhash hash_padded_ne
  | succ i => cases hreceived

end Sample

end Swiyu
