import Swiyu.Core.DidDoc.Genesis
import Swiyu.Didtool.Cmd.Did.Appended
import Swiyu.Didtool.Cmd.Did.Deactivate
import Swiyu.Didtool.Cmd.Did.Rotate

/-!
# What a new entry is read as

A rotation or a deactivation writes its entry as one line, and this line is read as the entry: its
version, its time, its parameters, its document and its proof. The updated log is read as the old
entries and this one, whether or not it keeps the newline at its end.

## Main definitions

- `Swiyu.NewEntry.asRead`: the entry that the line of a new entry is read as.

## Main results

- `Swiyu.parsesTo_buildEntry`: a new entry is read back from its line.
- `Swiyu.tryFromJsonl_leftOf`: what an updated log is read as.
-/

namespace Swiyu

open Json

/-! ## The line of a new entry -/

section Entry

variable (X : SigningCrates) (prevVersionId versionTime : Text) (parameters : LogParameters)
  (document : Value) (n : UInt32) (signer : FixedBytes 32)

/-- The proof of the entry with a version. -/
def entryProof (versionId : Text) : DataIntegrityProof :=
  let multikey := ed25519VerifyingKeyToMultikey (X.ed25519VerifyingKey signer)
  DataIntegrityProof.sign X signer document
    { cryptosuite := .eddsaJcs2022
      verificationMethod := Text.lit "did:key:" ++ multikey ++ '#' :: multikey
      proofPurpose := .authentication
      challenge := versionId
      created := versionTime }

/-- The entry that the line of a new entry is read as, where doubles are read as `r` says. -/
def NewEntry.asRead (r : F64 → F64) : DIDLogEntry :=
  let versionId :=
    (buildEntry X prevVersionId versionTime parameters.toJson document n signer).versionId
  { format := .tdw03
    versionId
    versionTime
    parameters := parameters.asRead .tdw03
    didDocState := .value (document.reread id r)
    dataIntegrityProofs := [(entryProof X versionTime document signer versionId).toJson] }

/-- The JSON form of a new entry. -/
theorem value_buildEntry (params : Value) :
    (buildEntry X prevVersionId versionTime params document n signer).value =
      .array [.string (buildEntry X prevVersionId versionTime params document n signer).versionId,
        .string versionTime, params, .ofFields [(Text.lit "value", document)],
        .array [(entryProof X versionTime document signer
          (buildEntry X prevVersionId versionTime params document n signer).versionId).toJson]] :=
  rfl

end Entry

/-- A proof is a flat object of texts. -/
theorem DataIntegrityProof.plainWithin_toJson (proof : DataIntegrityProof) :
    proof.toJson.PlainWithin 1 := by
  have hfields : proof.toJson = .ofFields (proof.config.toFields ++
      [(Text.lit "proofValue", .string proof.proofValue)]) := by
    unfold toJson toObject ProofConfig.toObject Value.ofFields OrdMap.ofList
    rw [List.foldl_append]
    rfl
  rw [hfields]
  refine .ofFields fun p hp => ?_
  simp only [ProofConfig.toFields, List.cons_append, List.nil_append, List.mem_cons,
    List.not_mem_nil, or_false] at hp
  rcases hp with rfl | rfl | rfl | rfl | rfl | rfl | rfl <;> exact .string 0 _

variable {X : ToolCrates}

/-- A new entry is within the bounds of the reader when its parameters and its document are. -/
theorem readable_buildEntry {params document : Value} (hparams : params.PlainWithin 2)
    (hdocument : Readable X.f64 (depthLimit - 2) document) (prevVersionId versionTime : Text)
    (n : UInt32) (signer : FixedBytes 32) : Readable X.f64 depthLimit
      (buildEntry X.toSigningCrates prevVersionId versionTime params document n signer).value := by
  show Readable X.f64 (126 + 1) _
  rw [value_buildEntry]
  refine .array fun v hv => ?_
  simp only [List.mem_cons, List.not_mem_nil, or_false] at hv
  rcases hv with rfl | rfl | rfl | rfl | rfl
  · exact (Value.PlainWithin.string 126 _).readable _
  · exact (Value.PlainWithin.string 126 _).readable _
  · exact (hparams.mono (by decide)).readable _
  · refine .object fun e he => ?_
    obtain rfl := List.mem_singleton.mp (OrdMap.mem_of_mem_toList_ofList he)
    exact hdocument
  · refine .array fun v hv => ?_
    obtain rfl := List.mem_singleton.mp hv
    exact ((DataIntegrityProof.plainWithin_toJson _).mono (by decide)).readable _

/-- A new entry is read back from its line, which is one line without space around it. -/
theorem parsesTo_buildEntry {r : F64 → F64} {parameters : LogParameters} {document : Value}
    (hparameters : parameters.toJson.PlainWithin 2)
    (hdocument : Readable X.f64 (depthLimit - 2) document)
    (hr : ∀ x ∈ document.floats, X.f64.ReadsAs x (r x)) (prevVersionId versionTime : Text)
    (n : UInt32) (signer : FixedBytes 32) :
    let line := (buildEntry X.toSigningCrates prevVersionId versionTime parameters.toJson document n
      signer).value.print X.f64
    '\n' ∉ line.dropLast ∧ ParsesTo X.toCrates (Text.trim line)
      (NewEntry.asRead X.toSigningCrates prevVersionId versionTime parameters document n signer
        r) := by
  have hreadable := readable_buildEntry hparameters hdocument prevVersionId versionTime n signer
  have hreads : ∀ x ∈ (buildEntry X.toSigningCrates prevVersionId versionTime parameters.toJson
      document n signer).value.floats, X.f64.ReadsAs x (r x) := by
    intro x hx
    -- Only the document has doubles.
    have hproof := (DataIntegrityProof.plainWithin_toJson (entryProof X.toSigningCrates versionTime
      document signer (buildEntry X.toSigningCrates prevVersionId versionTime parameters.toJson
        document n signer).versionId)).floats
    have hstate : (Value.ofFields [(Text.lit "value", document)]).floats = document.floats :=
      List.append_nil _
    rw [value_buildEntry] at hx
    simp only [Value.floats, Value.floatsList, hparameters.floats, hproof, hstate,
      List.nil_append, List.append_nil] at hx
    exact hr x hx
  intro line
  have hprintable : ∀ c ∈ line, Printable c := Value.printable_print hreads
  -- The compact form has no line break, and neither space before it nor after it.
  refine ⟨fun hmem => absurd (hprintable _ (List.dropLast_subset _ hmem)) (by decide),
    (buildEntry X.toSigningCrates prevVersionId versionTime parameters.toJson document n
      signer).value.reread id r, ?_, ?_⟩
  · have htrim : Text.trim line = line := Value.trim_print_array [_, _, _, _, _]
    rw [htrim, parse_print_reread hreads, if_pos hreadable.depth_le]
  · -- What has no doubles is read back as it is, and the document with its doubles read again.
    have hself : ∀ {n : ℕ} {v : Value}, v.PlainWithin n → v.reread id r = v := fun h =>
      Value.reread_eq_self (by simp [h.floats])
    have hproof := hself (DataIntegrityProof.plainWithin_toJson (entryProof X.toSigningCrates
      versionTime document signer (buildEntry X.toSigningCrates prevVersionId versionTime
        parameters.toJson document n signer).versionId))
    have hstate : (Value.ofFields [(Text.lit "value", document)]).reread id r =
        (DIDDocState.value (document.reread id r)).toJson := rfl
    rw [value_buildEntry]
    simp only [Value.reread, Value.rereadList, hself hparameters, hproof, hstate, id]
    exact DIDLogEntry.tryFromJson_array _ _ _ _ _

/-! ## The updated log -/

/-- A log is read without the newline at its end as it is with it. -/
theorem tryFromJsonl_trimEnd_eq_ok_iff {text : Text} {log : DIDLog} :
    DIDLog.tryFromJsonl X.toCrates (Text.trimEnd text) = .ok log ↔
      DIDLog.tryFromJsonl X.toCrates text = .ok log := by
  obtain ⟨w, hw, htext⟩ := Text.trimEnd_append_whitespace text
  have hlines : receivedLines text = receivedLines (Text.trimEnd text) := by
    conv_lhs => rw [htext]
    exact Text.filter_trimmedLines_append hw _
  rw [tryFromJsonl_eq_ok_iff, tryFromJsonl_eq_ok_iff, hlines]

/-- A text that a call leaves of an updated log: the log, or what is uploaded of it. -/
def LeftOf (updatedLog text : Text) : Prop := text = updatedLog ∨ text = Text.trimEnd updatedLog

/-- The updated log is read as the old entries and the new one. -/
theorem tryFromJsonl_leftOf {text text' newLine : Text} {log : DIDLog} {e : DIDLogEntry}
    (h : DIDLog.tryFromJsonl X.toCrates text = .ok log) (hnewline : '\n' ∉ newLine.dropLast)
    (he : ParsesTo X.toCrates (Text.trim newLine) e)
    (hleft : LeftOf (buildUpdatedLog (collectRawLines text) newLine) text') :
    DIDLog.tryFromJsonl X.toCrates text' = .ok ⟨log.entries ++ [e]⟩ := by
  have hupdated := tryFromJsonl_concat h hnewline he
  rcases hleft with rfl | rfl
  · exact hupdated
  · exact tryFromJsonl_trimEnd_eq_ok_iff.mpr hupdated

/-! ## What the commands write -/

/-- The parameters of a rotation are those of an entry. -/
theorem Rotate.exists_parameters (X : SigningCrates) (previous authorized : FixedBytes 32) :
    ∃ parameters : LogParameters,
      parameters.toJson = newParameters X previous authorized ∧ parameters.format = .tdw03 := by
  unfold newParameters
  dsimp only
  split_ifs
  · exact ⟨{ format := .tdw03 }, rfl, rfl⟩
  · exact ⟨{ format := .tdw03, updateKeys := some [_] }, rfl, rfl⟩

theorem Rotate.plainWithin_newParameters (X : SigningCrates) (previous authorized : FixedBytes 32) :
    (newParameters X previous authorized).PlainWithin 2 := by
  unfold newParameters
  dsimp only
  split_ifs
  · exact .ofFields (by simp)
  · refine .ofFields fun p hp => ?_
    obtain rfl := List.mem_singleton.mp hp
    exact .strings 0 _

/-- The parameters of a deactivation. -/
def Deactivate.parameters : LogParameters :=
  { format := .tdw03, updateKeys := some [], deactivated := some true }

theorem Deactivate.toJson_parameters : parameters.toJson = newParameters := by
  decide

theorem Deactivate.plainWithin_newParameters : newParameters.PlainWithin 2 := by
  refine .ofFields fun p hp => ?_
  simp only [List.mem_cons, List.not_mem_nil, or_false] at hp
  rcases hp with rfl | rfl
  · exact .bool 1 true
  · exact .array (by simp)

/-- Each entry of a log is read from a line of it. -/
theorem exists_parsesTo {X : Crates} {text : Text} {log : DIDLog} {e : DIDLogEntry}
    (h : DIDLog.tryFromJsonl X text = .ok log) (he : e ∈ log.entries) :
    ∃ line, ParsesTo X line e := by
  obtain ⟨i, hi, rfl⟩ := List.getElem_of_mem he
  have hlines := tryFromJsonl_eq_ok_iff.mp h
  exact ⟨_, hlines.get (hlines.length_eq ▸ hi) hi⟩

/-- The document of an entry that has been read is two levels below the bound of the reader. -/
theorem readable_document {X : Crates} {line : Text} {e : DIDLogEntry} {document : Value}
    (h : ParsesTo X line e) (hformat : e.format = .tdw03)
    (hdocument : e.didDocState = .value document) :
    Readable X.f64 (depthLimit - 2) document := by
  obtain ⟨received, hparse, hentry⟩ := h
  obtain ⟨params, state, rfl, -, hstate⟩ := array_of_tryFromJson hentry hformat
  have hreceived : Readable X.f64 (126 + 1) (.array [.string e.versionId, .string e.versionTime,
      params, state, .array e.dataIntegrityProofs]) := readable_of_parse hparse
  have hvalue : Readable X.f64 (125 + 1) state := hreceived.of_mem_array (by simp)
  rw [hdocument] at hstate
  simp only [DIDDocState.tryFromJson, Except.bind_eq_ok_iff, Option.okOr_eq_ok_iff,
    Value.asObject_eq_some_iff] at hstate
  obtain ⟨obj, rfl, hstate⟩ := hstate
  split at hstate
  · next v hget =>
    obtain rfl : v = document := by simpa using hstate
    exact hvalue.of_mem_object (OrdMap.Entries.get_eq_some_iff.mp hget)
  · cases hstate
  · cases hstate

end Swiyu
