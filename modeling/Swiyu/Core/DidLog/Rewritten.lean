import Swiyu.Core.DidLog.Entries
import Swiyu.Core.DidLog.Received
import Swiyu.Lib.Json.Pretty

/-!
# Entries that are written again

An entry that has been read is written from parts of what it was read from: its texts, the members
of its parameters that are known, its document and its proofs. It is therefore nested no deeper;
compact or indented it can be read again.

## Main results

- `Swiyu.DIDLogEntry.readable_toJson`: an entry that has been read can be written.
- `Swiyu.DIDLogEntry.parsesTo_pretty`: an entry that is written, compact or indented, is read as it
  was.
-/

namespace Swiyu

open Json

variable {F : F64Codec} {limit : ℕ} {format : LogEntryFormat}

/-! ## Parameters -/

namespace LogParameters

variable {obj : Object} {p : LogParameters}

/-- A member that is written is one that was read, or tells whether the DID is portable. -/
theorem get_of_mem_toFields (h : tryFromJson (.object obj) format = .ok p) {key : Text} {v : Value}
    (hv : (key, v) ∈ p.toFields) : obj.get key = some v ∨ ∃ b, v = .bool b := by
  simp only [tryFromJson, Value.asObject, Option.okOr_some, Except.bind_eq_ok_iff,
    Except.ok.injEq, exists_eq_left'] at h
  obtain ⟨method, hmethod, scid, hscid, updateKeys, hupdateKeys, prerotation, hprerotation,
    nextKeyHashes, hnextKeyHashes, portable, hportable, deactivated, hdeactivated, ttl, httl,
    h⟩ := h
  -- The watchers are read in one of the formats only.
  obtain ⟨watchers, hwatchers, rfl⟩ : ∃ watchers,
      (format = .webVH10 → obj.get "watchers" = watchers.map .strings) ∧
        p = { format, method, scid, updateKeys, prerotation, nextKeyHashes, portable, deactivated,
              ttl, witness := obj.get "witness", watchers } := by
    cases format with
    | tdw03 =>
      obtain rfl := Except.ok.inj h
      exact ⟨none, (fun h => by cases h), rfl⟩
    | webVH10 =>
      obtain ⟨watchers, hwatchers, h⟩ := Except.bind_eq_ok_iff.mp h
      obtain rfl := Except.ok.inj h
      exact ⟨watchers, fun _ => get_eq_of_stringArrayField hwatchers, rfl⟩
  have hstr : ∀ v t, Value.asStr v = some t → v = .string t := fun _ _ =>
    Value.asStr_eq_some_iff.mp
  have hbool : ∀ v b, Value.asBool v = some b → v = .bool b := fun _ _ =>
    Value.asBool_eq_some_iff.mp
  have hu64 : ∀ v n, Value.asU64 v = some n → v = .number (.posInt n) := fun _ _ =>
    Value.asU64_eq_some_iff.mp
  -- A member is written as the value that its field was read from.
  have hfound : ∀ {α : Type} {k : Text} {toJson : α → Value} {o : Option α},
      obj.get k = o.map toJson → (key, v) ∈ member k toJson o → obj.get key = some v := by
    intro α k toJson o hget hmem
    obtain ⟨rfl, a, rfl, rfl⟩ := mem_member.mp hmem
    exact hget
  simp only [toFields, List.mem_append] at hv
  rcases hv with ((((((((hv | hv) | hv) | hv) | hv) | hv) | hv) | hv) | hv) | hv
  · exact .inl (hfound (get_eq_of_optionalField hmethod hstr) hv)
  · exact .inl (hfound (get_eq_of_optionalField hscid hstr) hv)
  · exact .inl (hfound (get_eq_of_stringArrayField hupdateKeys) hv)
  · exact .inl (hfound (get_eq_of_optionalField hprerotation hbool) hv)
  · exact .inl (hfound (get_eq_of_stringArrayField hnextKeyHashes) hv)
  · -- The only member that may be written without having been read.
    obtain ⟨-, b, -, rfl⟩ := mem_member.mp hv
    exact .inr ⟨b, rfl⟩
  · exact .inl (hfound (get_eq_of_optionalField hdeactivated hbool) hv)
  · exact .inl (hfound (get_eq_of_optionalField httl hu64) hv)
  · exact .inl (hfound Option.map_id'.symm hv)
  · obtain ⟨rfl, a, ha, rfl⟩ := mem_member.mp hv
    split_ifs at ha with hformat
    subst ha
    exact .inl (hwatchers hformat)

/-- Parameters that have been read can be written. -/
theorem readable_toJson {v : Value} (h : tryFromJson v format = .ok p)
    (hv : Readable F (limit + 1) v) : Readable F (limit + 1) p.toJson := by
  obtain ⟨obj, rfl⟩ : ∃ obj, v = .object obj := by
    simp only [tryFromJson, Except.bind_eq_ok_iff, Option.okOr_eq_ok_iff,
      Value.asObject_eq_some_iff] at h
    obtain ⟨obj, hobj, -⟩ := h
    exact ⟨obj, hobj⟩
  refine .object fun member hmember => ?_
  rcases get_of_mem_toFields h (OrdMap.mem_of_mem_toList_ofList hmember) with hget | ⟨b, hb⟩
  · exact hv.of_mem_object (OrdMap.Entries.get_eq_some_iff.mp hget)
  · rw [hb]
    exact ⟨Nat.zero_le _, fun x hx => absurd hx List.not_mem_nil⟩

/-- Parameters that have been read are read again as they were, with the `portable` member as it is
written. -/
theorem asRead_eq_of_tryFromJson {v : Value} (h : tryFromJson v format = .ok p) :
    p.asRead format = { p with portable := p.portableJson } := by
  obtain ⟨hconstructed, rfl⟩ := constructed_of_tryFromJson h
  exact asRead_eq hconstructed

end LogParameters

/-! ## States and entries -/

/-- A state that has been read can be written. -/
theorem DIDDocState.readable_toJson {state : DIDDocState} {v : Value}
    (h : tryFromJson v = .ok state) (hv : Readable F (limit + 1) v) :
    Readable F (limit + 1) state.toJson := by
  simp only [tryFromJson, Except.bind_eq_ok_iff, Option.okOr_eq_ok_iff,
    Value.asObject_eq_some_iff] at h
  obtain ⟨obj, rfl, h⟩ := h
  have hmember : ∀ {key : Text} {doc : Value}, obj.get key = some doc →
      Readable F (limit + 1) (.ofFields [(key, doc)]) := by
    intro key doc hget
    refine .object fun e he => ?_
    obtain rfl := List.mem_singleton.mp (OrdMap.mem_of_mem_toList_ofList he)
    exact hv.of_mem_object (OrdMap.Entries.get_eq_some_iff.mp hget)
  split at h
  · obtain rfl := Except.ok.inj h
    exact hmember ‹_›
  · obtain rfl := Except.ok.inj h
    exact hmember ‹_›
  · cases h

namespace DIDLogEntry

/-- An entry that has been read can be written. -/
theorem readable_toJson {e : DIDLogEntry} {v : Value} (h : tryFromJson v = .ok e)
    (hv : Readable F (limit + 2) v) : Readable F (limit + 2) e.toJson := by
  -- Each element that is written is a text or was an element of what was read.
  have hstring : ∀ s : Text, Readable F (limit + 1) (.string s) := fun s =>
    ⟨Nat.zero_le _, fun x hx => absurd hx List.not_mem_nil⟩
  unfold tryFromJson at h
  split at h
  · -- The elements of an array.
    unfold tryFromJsonArray at h
    split at h
    · simp only [Except.bind_eq_ok_iff, Option.okOr_eq_ok_iff, Value.asArray_eq_some_iff] at h
      obtain ⟨versionId, -, versionTime, -, p, hp, state, hstate, proofs, rfl, h⟩ := h
      obtain rfl := Except.ok.inj h
      have hparameters := p.readable_toJson hp (hv.of_mem_array (by simp))
      have hstate' := DIDDocState.readable_toJson hstate (hv.of_mem_array (by simp))
      have hproofs := hv.of_mem_array (v := .array proofs) (by simp)
      refine .array fun w hw => ?_
      simp only [List.mem_cons, List.not_mem_nil, or_false] at hw
      rcases hw with rfl | rfl | rfl | rfl | rfl
      · exact hstring _
      · exact hstring _
      · exact hparameters
      · exact hstate'
      · exact hproofs
    · cases h
  · -- The members of an object.
    simp only [tryFromJsonObject, Except.bind_eq_ok_iff, Option.okOr_eq_ok_iff,
      Value.asArray_eq_some_iff] at h
    obtain ⟨_, _, versionId, -, _, _, versionTime, -, parameters, hparameters, p, hp, state, hstate,
      didDocState, hread, proof, hproof, proofs, rfl, h⟩ := h
    obtain rfl := Except.ok.inj h
    have hmember : ∀ {key : Text} {w : Value}, Object.get _ key = some w →
        Readable F (limit + 1) w := fun hget =>
      hv.of_mem_object (OrdMap.Entries.get_eq_some_iff.mp hget)
    refine .object fun w hw => ?_
    replace hw := OrdMap.mem_of_mem_toList_ofList hw
    simp only [List.mem_cons, List.not_mem_nil, or_false] at hw
    rcases hw with rfl | rfl | rfl | rfl | rfl
    · exact hstring _
    · exact hstring _
    · exact p.readable_toJson hp (hmember hparameters)
    · exact DIDDocState.readable_toJson hread (hmember hstate)
    · exact hmember hproof
  · cases h

/-- The parameters of an entry are read in the format of the entry. -/
theorem exists_parameters_eq_ok {e : DIDLogEntry} {v : Value} (h : tryFromJson v = .ok e) :
    ∃ w, LogParameters.tryFromJson w e.format = .ok e.parameters := by
  unfold tryFromJson at h
  split at h
  · unfold tryFromJsonArray at h
    split at h
    · simp only [Except.bind_eq_ok_iff] at h
      obtain ⟨_, -, _, -, p, hp, _, -, _, -, h⟩ := h
      obtain rfl := Except.ok.inj h
      exact ⟨_, hp⟩
    · cases h
  · simp only [tryFromJsonObject, Except.bind_eq_ok_iff] at h
    obtain ⟨_, -, _, -, _, -, _, -, _, -, p, hp, _, -, _, -, _, -, _, -, h⟩ := h
    obtain rfl := Except.ok.inj h
    exact ⟨_, hp⟩
  · cases h

/-- The entry with the `portable` member as it is written: a `did:tdw` genesis entry always has
one. -/
def withPortable (e : DIDLogEntry) : DIDLogEntry :=
  { e with parameters := { e.parameters with portable := e.parameters.portableJson } }

/-- An entry that has been read is read from its indented rendering, and from its compact one, as
the entry that it was, but for the `portable` member of a genesis entry, which is always written. -/
theorem parsesTo_pretty {X : Crates} (hF : X.f64.Lawful) {e : DIDLogEntry} {line text : Text}
    (h : ParsesTo X line e)
    (htext : text = e.toJson.pretty X.f64 ∨ text = e.toJson.print X.f64) :
    ParsesTo X text e.withPortable := by
  obtain ⟨received, hparse, hentry⟩ := h
  have hreadable : Readable X.f64 (125 + 2) e.toJson :=
    readable_toJson hentry (readable_of_parse hparse)
  have hfloats : ∀ x ∈ e.toJson.floats, X.f64.ReadsBack x := fun x _ => hF x
  have hcompact : Json.parse X.f64 (e.toJson.print X.f64) = some e.toJson :=
    parse_print hfloats hreadable.depth_le
  -- The indentation is white space to the reader.
  have hindented : Json.parse X.f64 (e.toJson.pretty X.f64) = some e.toJson :=
    (Json.parse_pretty (r := id) hfloats).trans hcompact
  obtain ⟨w, hparameters⟩ := exists_parameters_eq_ok hentry
  have hread : tryFromJson e.toJson = .ok e.withPortable := by
    rw [tryFromJson_toJson, LogParameters.asRead_eq_of_tryFromJson hparameters]
    rfl
  rcases htext with rfl | rfl
  · exact ⟨_, hindented, hread⟩
  · exact ⟨_, hcompact, hread⟩

end DIDLogEntry

end Swiyu
