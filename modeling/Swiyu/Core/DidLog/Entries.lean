import Swiyu.Core.DidLog.Wire
import Swiyu.Lib.Json.Codec

/-!
# Entries are read back

An entry is written as an array or as an object, and read as what it was but for one member: the
genesis entry of `did:tdw` says that the DID is not portable where its parameters do not say
anything.

## Main definitions

- `Swiyu.LogParameters.newTdw`, `Swiyu.LogParameters.newWebvh`: parameters of either format.
- `Swiyu.DIDLogEntry.newTdw`, `Swiyu.DIDLogEntry.newWebvh`: entries of either format.
- `Swiyu.LogParameters.Constructed`: what the constructors and the parser guarantee.

## Main results

- `Swiyu.DIDLogEntry.reread`: the entry that an entry is read as.
-/

namespace Swiyu

open Json

/-! ## Constructors -/

namespace LogParameters

/-- Parameters of a `did:tdw` entry. -/
def newTdw (method scid : Option Text) (updateKeys : Option (List Text))
    (prerotation : Option Bool) (nextKeyHashes : Option (List Text))
    (portable deactivated : Option Bool) (ttl : Option UInt64) (witness : Option Value) :
    LogParameters :=
  { format := .tdw03, method, scid, updateKeys, prerotation, nextKeyHashes, portable, deactivated,
    ttl, witness, watchers := none }

/-- Parameters of a `did:webvh` entry. -/
def newWebvh (method scid : Option Text) (updateKeys : Option (List Text))
    (prerotation : Option Bool) (nextKeyHashes : Option (List Text))
    (portable deactivated : Option Bool) (ttl : Option UInt64) (witness : Option Value)
    (watchers : Option (List Text)) : LogParameters :=
  { format := .webVH10, method, scid, updateKeys, prerotation, nextKeyHashes, portable, deactivated,
    ttl, witness, watchers }

/-- Only parameters of `did:webvh` have watchers. -/
def Constructed (p : LogParameters) : Prop := p.format = .tdw03 → p.watchers = none

/-- These are the parameters that the constructors build. -/
theorem constructed_iff {p : LogParameters} : p.Constructed ↔
    p = newTdw p.method p.scid p.updateKeys p.prerotation p.nextKeyHashes p.portable p.deactivated
        p.ttl p.witness ∨
      p = newWebvh p.method p.scid p.updateKeys p.prerotation p.nextKeyHashes p.portable
        p.deactivated p.ttl p.witness p.watchers := by
  obtain ⟨format, _, _, _, _, _, _, _, _, _, watchers⟩ := p
  unfold Constructed newTdw newWebvh
  cases format with
  | tdw03 => simp
  | webVH10 => simp

/-- The parser builds no others. -/
theorem constructed_of_tryFromJson {v : Value} {format : LogEntryFormat} {p : LogParameters}
    (h : tryFromJson v format = .ok p) : p.Constructed ∧ p.format = format := by
  unfold tryFromJson at h
  simp only [Except.bind_eq_ok_iff] at h
  obtain ⟨_, _, _, _, _, _, _, _, _, _, _, _, _, _, _, _, _, _, hp⟩ := h
  cases format with
  | tdw03 =>
    obtain rfl := Except.ok.inj hp
    exact ⟨fun _ => rfl, rfl⟩
  | webVH10 =>
    obtain ⟨_, _, hp⟩ := Except.bind_eq_ok_iff.mp hp
    obtain rfl := Except.ok.inj hp
    exact ⟨(fun hformat => by cases hformat), rfl⟩

end LogParameters

namespace DIDLogEntry

/-- An entry of a `did:tdw` log. -/
def newTdw (versionId versionTime : Text) (parameters : LogParameters) (didDocState : DIDDocState)
    (dataIntegrityProofs : List Value) : DIDLogEntry :=
  { format := .tdw03, versionId, versionTime, parameters, didDocState, dataIntegrityProofs }

/-- An entry of a `did:webvh` log. -/
def newWebvh (versionId versionTime : Text) (parameters : LogParameters)
    (didDocState : DIDDocState) (dataIntegrityProofs : List Value) : DIDLogEntry :=
  { format := .webVH10, versionId, versionTime, parameters, didDocState, dataIntegrityProofs }

end DIDLogEntry

/-! ## Reading back -/

namespace LogParameters

variable {p : LogParameters}

/-- The `portable` member: `did:tdw` genesis entries always have one. -/
theorem portableJson_eq (p : LogParameters) : p.portableJson =
    if p.format = .tdw03 ∧ p.scid.isSome = true ∧ p.portable = none then some false
    else p.portable := by
  unfold portableJson
  cases p.portable with
  | some b => simp
  | none => simp

/-- Parameters that the constructors build are read with all that they had, but for the `portable`
member. -/
theorem asRead_eq (h : p.Constructed) :
    p.asRead p.format = { p with portable := p.portableJson } := by
  unfold asRead
  cases hformat : p.format with
  | tdw03 => rw [h hformat, ite_self]
  | webVH10 => rw [if_pos ⟨rfl, rfl⟩]

/-- What is read is written as before. -/
theorem toJson_asRead_self (h : p.Constructed) : (p.asRead p.format).toJson = p.toJson := by
  rw [asRead_eq h]
  have hportable : portableJson { p with portable := p.portableJson } = p.portableJson := by
    rw [portableJson_eq { p with portable := p.portableJson }]
    refine if_neg fun ⟨hformat, hscid, hnone⟩ => ?_
    -- The member is there when the parameters are those of a genesis entry.
    have hmember : p.portableJson = none := hnone
    rw [portableJson_eq] at hmember
    split_ifs at hmember with hgenesis
    exact hgenesis ⟨hformat, hscid, hmember⟩
  unfold toJson toFields
  rw [hportable]

end LogParameters

namespace DIDLogEntry

/-- The entry that an object with the members of an entry is read as. -/
theorem tryFromJson_object (versionId versionTime : Text) (p : LogParameters)
    (state : DIDDocState) (proofs : List Value) :
    tryFromJson (.ofFields [(Text.lit "versionId", .string versionId),
      (Text.lit "versionTime", .string versionTime), (Text.lit "parameters", p.toJson),
      (Text.lit "state", state.toJson), (Text.lit "proof", .array proofs)]) = .ok
        (newWebvh versionId versionTime (p.asRead .webVH10) state proofs) := by
  unfold Value.ofFields tryFromJson tryFromJsonObject stringField optionalField
  simp [OrdMap.get_ofList_cons, OrdMap.get_ofList_nil, Text.lit_inj, Value.asStr, Value.asArray,
    Except.map, p.tryFromJson_toJson, state.tryFromJson_toJson, newWebvh]

/-- The entry that an entry is read as. -/
theorem tryFromJson_toJson (e : DIDLogEntry) :
    tryFromJson e.toJson = .ok { e with parameters := e.parameters.asRead e.format } := by
  obtain ⟨format, versionId, versionTime, p, state, proofs⟩ := e
  cases format with
  | tdw03 => exact tryFromJson_array versionId versionTime p state proofs
  | webVH10 => exact tryFromJson_object versionId versionTime p state proofs

/-- An entry whose parameters have the same format is read back with all that it had, and written as
before; only a `did:tdw` genesis entry that does not say whether the DID is portable is read as one
that says that it is not. -/
theorem reread (versionId versionTime : Text) {p : LogParameters} (state : DIDDocState)
    (proofs : List Value) (hp : p.Constructed) :
    (p.format = .tdw03 →
      ∃ e, tryFromJson (newTdw versionId versionTime p state proofs).toJson = .ok e ∧
        e.toJson = (newTdw versionId versionTime p state proofs).toJson ∧
        e = newTdw versionId versionTime { p with
          portable := if p.scid.isSome = true ∧ p.portable = none then some false
            else p.portable } state proofs) ∧
    (p.format = .webVH10 →
      tryFromJson (newWebvh versionId versionTime p state proofs).toJson =
        .ok (newWebvh versionId versionTime p state proofs)) := by
  have hjson := LogParameters.toJson_asRead_self hp
  have hread := LogParameters.asRead_eq hp
  rw [LogParameters.portableJson_eq] at hread
  constructor
  · intro hformat
    have htdw : p.asRead .tdw03 = p.asRead p.format := by rw [hformat]
    refine ⟨_, tryFromJson_toJson _, ?_, ?_⟩
    · -- The parameters are the only part that may differ, and they are written as before.
      unfold toJson newTdw
      rw [htdw, hjson]
    · unfold newTdw
      rw [htdw, hread, if_congr (and_iff_right hformat) rfl rfl]
  · intro hformat
    have hwebvh : p.asRead .webVH10 = p.asRead p.format := by rw [hformat]
    rw [tryFromJson_toJson]
    unfold newWebvh
    rw [hwebvh, hread, if_neg fun h => ?_]
    rw [hformat] at h
    cases h.1

end DIDLogEntry

namespace Sample

/-- Parameters that do not say whether the DID is portable. -/
def silentParameters : LogParameters := .newTdwMinimal "did:tdw:0.3" "Qm" ["z6Mk"]

theorem silentParameters_reread :
    ∃ e, DIDLogEntry.tryFromJson (DIDLogEntry.newTdw "1-Qm" "2025-01-01T00:00:00Z" silentParameters
        (.value .null) []).toJson = .ok e ∧
      e.toJson = (DIDLogEntry.newTdw "1-Qm" "2025-01-01T00:00:00Z" silentParameters
        (.value .null) []).toJson ∧
      e = DIDLogEntry.newTdw "1-Qm" "2025-01-01T00:00:00Z"
        { silentParameters with portable := some false } (.value .null) [] :=
  (DIDLogEntry.reread _ _ _ _ fun _ => rfl).1 rfl

end Sample

end Swiyu
