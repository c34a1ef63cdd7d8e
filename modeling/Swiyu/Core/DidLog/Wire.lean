import Swiyu.Core.DidLog

/-!
# Round trips of the wire formats

Parameters, states and entries are read back from their JSON form.

## Main results

- `Swiyu.LogParameters.tryFromJson_toJson`: the parameters that the JSON form of parameters is read
  as.
- `Swiyu.DIDLogEntry.tryFromJson_array`: the entry that a five-element array is read as.
-/

namespace Swiyu

open Json

/-! ## Parameters -/

namespace LogParameters

variable (p : LogParameters)

theorem mem_member {α : Type} {key k : Text} {toJson : α → Value} {o : Option α} {v : Value} :
    (k, v) ∈ member key toJson o ↔ k = key ∧ ∃ a, o = some a ∧ toJson a = v := by
  cases o <;> simp [member, eq_comm]

theorem keys_member_sublist {α : Type} (key : Text) (toJson : α → Value) (o : Option α) :
    ((member key toJson o).map Prod.fst).Sublist [key] := by
  cases o <;> simp [member]

/-- The names of the members, in the order in which they are written. -/
def fieldNames : List Text :=
  ["method", "scid", "updateKeys", "prerotation", "nextKeyHashes", "portable", "deactivated", "ttl",
    "witness", "watchers"].map Text.lit

theorem keys_toFields_sublist : (p.toFields.map Prod.fst).Sublist fieldNames := by
  simp only [toFields, List.map_append]
  have h (k : Text) {α : Type} (f : α → Value) (o : Option α) := keys_member_sublist k f o
  exact ((((((((h _ _ _).append (h _ _ _)).append (h _ _ _)).append (h _ _ _)).append
    (h _ _ _)).append (h _ _ _)).append (h _ _ _)).append (h _ _ _)).append (h _ _ _)
      |>.append (h _ _ _)

theorem nodup_fieldNames : fieldNames.Nodup :=
  List.Nodup.map (fun _ _ => Text.lit_inj.mp) (by decide)

theorem get_toJson_eq_some_iff {key : Text} {v : Value} :
    p.toJson.get key = some v ↔ (key, v) ∈ p.toFields :=
  OrdMap.get_ofList_eq_some_iff (p.keys_toFields_sublist.nodup nodup_fieldNames)

/-- The member `key` of the JSON form, where the fields hold it just when there is a value. -/
theorem get_toFields {α : Type} (key : Text) (toJson : α → Value) (o : Option α)
    (h : ∀ v, (key, v) ∈ p.toFields ↔ ∃ a, o = some a ∧ toJson a = v) :
    Object.get (OrdMap.ofList p.toFields) key = o.map toJson := by
  refine Option.ext fun v => ?_
  rw [OrdMap.get_ofList_eq_some_iff (p.keys_toFields_sublist.nodup nodup_fieldNames), h]
  cases o <;> simp

theorem optionalField_eq_ok {α : Type} (read : Value → Option α) {typeName key : Text}
    {obj : Object} {toJson : α → Value} {o : Option α} (hget : obj.get key = o.map toJson)
    (hread : ∀ a, read (toJson a) = some a) : optionalField read typeName obj key = .ok o := by
  cases o <;> simp [optionalField, hget, hread, Except.map]

theorem stringArrayField_eq_ok {key : Text} {obj : Object} {o : Option (List Text)}
    (hget : obj.get key = o.map Value.strings) : stringArrayField obj key = .ok o := by
  have harray : optionalField Value.asArray "an array" obj key =
      .ok (o.map fun l => l.map Value.string) := by
    cases o <;> simp [optionalField, hget, Value.strings, Value.asArray, Except.map]
  rw [stringArrayField, harray]
  cases o with
  | none => rfl
  | some l =>
    have hmapM := Except.mapM_map_eq_ok (g := Value.string) (l := l)
      (f := fun v : Value => v.asStr.okOr
        (DIDLogError.invalidFieldType (Text.lit "'" ++ key ++ "' elements must be strings")))
      (fun _ _ => rfl)
    simp only [Option.map_some, Except.ok_bind, hmapM]
    rfl

/-- The parameters that the JSON form of parameters is read as: those written, in the format asked
for, with the `portable` member as written. -/
def asRead (format : LogEntryFormat) : LogParameters :=
  { p with
    format
    portable := p.portableJson
    watchers := if format = .webVH10 ∧ p.format = .webVH10 then p.watchers else none }

theorem tryFromJson_toJson (format : LogEntryFormat) :
    tryFromJson p.toJson format = .ok (p.asRead format) := by
  -- Every member is found under its name with the value that was written.
  have hmethod := p.get_toFields "method" .string p.method (by simp [toFields, mem_member])
  have hscid := p.get_toFields "scid" .string p.scid (by simp [toFields, mem_member])
  have hupdateKeys := p.get_toFields "updateKeys" .strings p.updateKeys
    (by simp [toFields, mem_member])
  have hprerotation := p.get_toFields "prerotation" .bool p.prerotation
    (by simp [toFields, mem_member])
  have hnextKeyHashes := p.get_toFields "nextKeyHashes" .strings p.nextKeyHashes
    (by simp [toFields, mem_member])
  have hportable := p.get_toFields "portable" .bool p.portableJson
    (by simp [toFields, mem_member])
  have hdeactivated := p.get_toFields "deactivated" .bool p.deactivated
    (by simp [toFields, mem_member])
  have httl := p.get_toFields "ttl" (fun n => .number (.posInt n)) p.ttl
    (by simp [toFields, mem_member])
  have hwitness := p.get_toFields "witness" id p.witness (by simp [toFields, mem_member])
  have hwatchers := p.get_toFields "watchers" .strings
    (if p.format = .webVH10 then p.watchers else none) (by simp [toFields, mem_member])
  have hobj : p.toJson.asObject = some (OrdMap.ofList p.toFields) := rfl
  rw [tryFromJson, hobj, Option.okOr_some]
  simp only [Except.ok_bind, stringField, boolField, u64Field,
    optionalField_eq_ok Value.asStr hmethod fun _ => rfl,
    optionalField_eq_ok Value.asStr hscid fun _ => rfl,
    stringArrayField_eq_ok hupdateKeys,
    optionalField_eq_ok Value.asBool hprerotation fun _ => rfl,
    stringArrayField_eq_ok hnextKeyHashes,
    optionalField_eq_ok Value.asBool hportable fun _ => rfl,
    optionalField_eq_ok Value.asBool hdeactivated fun _ => rfl,
    optionalField_eq_ok Value.asU64 httl fun _ => rfl, hwitness, Option.map_id]
  -- The watchers are read in one of the formats only.
  cases format with
  | tdw03 => rfl
  | webVH10 => simp [stringArrayField_eq_ok hwatchers, asRead]

/-- Parameters of `did:tdw` are written as they were read. -/
theorem toJson_asRead (h : p.format = .tdw03) : (p.asRead .tdw03).toJson = p.toJson := by
  have hportable : (p.asRead .tdw03).portableJson = p.portableJson := by
    rw [portableJson]
    cases hp : p.portableJson with
    | some v => simp [asRead, hp]
    | none =>
      have := hp
      rw [portableJson, h] at this
      split at this
      · cases this
      · simpa [asRead, hp] using this
  rw [toJson, toJson, toFields, toFields, hportable, h]
  rfl

/-- The JSON form tells the update keys and whether the DID is deactivated. -/
theorem eq_of_toJson_eq {p p' : LogParameters} (h : p.toJson = p'.toJson) :
    p.updateKeys = p'.updateKeys ∧ p.deactivated = p'.deactivated := by
  have hread := p.tryFromJson_toJson .tdw03
  rw [h, p'.tryFromJson_toJson, Except.ok.injEq] at hread
  simp only [asRead, mk.injEq] at hread
  obtain ⟨-, -, -, hupdateKeys, -, -, -, hdeactivated, -⟩ := hread
  exact ⟨hupdateKeys.symm, hdeactivated.symm⟩

end LogParameters

/-! ## States and entries -/

theorem DIDDocState.tryFromJson_toJson (state : DIDDocState) :
    tryFromJson state.toJson = .ok state := by
  have hvalue := get_toJson state "value"
  have hpatch := get_toJson state "patch"
  cases state with
  | value v =>
    simp only [toJson, Value.ofFields, Value.get, Value.asObject, Option.bind_some] at hvalue
    simp [tryFromJson, toJson, Value.ofFields, Value.asObject, hvalue]
  | patch p =>
    simp only [toJson, Value.ofFields, Value.get, Value.asObject, Option.bind_some] at hvalue hpatch
    simp [tryFromJson, toJson, Value.ofFields, Value.asObject, hvalue, hpatch]

/-- The entry that a five-element array is read as. -/
theorem DIDLogEntry.tryFromJson_array (versionId versionTime : Text) (p : LogParameters)
    (state : DIDDocState) (proofs : List Value) :
    tryFromJson (.array [.string versionId, .string versionTime, p.toJson, state.toJson,
      .array proofs]) = .ok
        { format := .tdw03, versionId, versionTime, parameters := p.asRead .tdw03,
          didDocState := state, dataIntegrityProofs := proofs } := by
  simp only [tryFromJson, tryFromJsonArray, Value.asStr, Value.asArray, Option.okOr_some,
    Except.ok_bind, p.tryFromJson_toJson, state.tryFromJson_toJson]
  rfl

end Swiyu
