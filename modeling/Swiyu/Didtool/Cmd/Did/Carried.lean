import Swiyu.Core.DidDoc.Canonical
import Swiyu.Didtool.Cmd.Did.Deactivate
import Swiyu.Didtool.InStep

/-!
# Documents that are carried forward

A deactivation carries the last document forward. The tool copies its JSON form, the library writes
the document that it has read, which is the same only for documents in canonical form.

## Main definitions

- `Swiyu.Deactivate.SameEntry`: the tool and the library make the same entry.
- `Swiyu.Deactivate.Carries`: an entry carries a document forward.

## Main results

- `Swiyu.Deactivate.carries_of_prepare`: the entry that the tool makes.
- `Swiyu.Deactivate.sameEntry_iff_isCanonical`: when the library makes the same.
-/

namespace Swiyu

open Json

namespace Deactivate

/-- What the tool hashes for a deactivation with the document `v` is the library's entry for the
document `doc` without its proof slot: both have the same hash and carry `v` forward. -/
structure SameEntry (X : SigningCrates) (prevVersionId versionTime : Text) (v : Value)
    (doc : DIDDoc) : Prop where
  unsigned : .array [.string prevVersionId, .string versionTime, newParameters,
      .ofFields [(Text.lit "value", v)]] =
    stripProofSlot (DIDLogEntry.newDeactivation .tdw03 prevVersionId doc versionTime).toJson .tdw03
  entryHash (n : UInt32) (signer : FixedBytes 32) :
    (buildEntry X prevVersionId versionTime newParameters v n signer).versionId =
      Text.decimal n.toNat ++ '-' :: deriveEntryHash X.toCrates (stripProofSlot
        (DIDLogEntry.newDeactivation .tdw03 prevVersionId doc versionTime).toJson .tdw03)
  document : (DIDLogEntry.newDeactivation .tdw03 prevVersionId doc versionTime).didDocState =
    .value v

/-- The entry that is prepared is built on the last entry of the log, with its document `v`. -/
def Carries (X : ToolCrates) (prepared : Prepared) (last : DIDLogEntry) (v : Value) : Prop :=
  prepared.loaded.log.entries.getLast? = some last ∧ last.didDocState = .value v ∧
    ∃ time, prepared.newEntry = buildEntry X.toSigningCrates last.versionId time newParameters v
      (sequenceNumber prepared.loaded.log.entries.length) prepared.signer.authorized

/-- The entry that the tool makes carries the document of the last entry. -/
theorem carries_of_prepare {X : ToolCrates} {env : Env} {args : UpdateArgs} {prepared : Prepared}
    {w w' : World} (h : prepare X env args w = (.ok prepared, w')) :
    ∃ last v, Carries X prepared last v := by
  simp only [prepare, Command.bind_eq_ok_iff, Command.ofExcept_eq_ok_iff,
    Command.pure_eq_ok_iff, Except.mapError_eq_ok_iff] at h
  obtain ⟨_, _, _, loaded, _, _, last, _, ⟨hlast, _⟩, v, _, ⟨hv, _⟩, signer, _, _, time, _, _, rfl,
    _⟩ := h
  exact ⟨last, v, (lastEntry_eq_ok_iff.mp hlast).1, (previousDocument_eq_ok_iff.mp hv).2, time, rfl⟩

/-- The library's entry without its proof slot. -/
theorem stripProofSlot_newDeactivation (prevVersionId versionTime : Text) (doc : DIDDoc) :
    stripProofSlot (DIDLogEntry.newDeactivation .tdw03 prevVersionId doc versionTime).toJson
        .tdw03 =
      .array [.string prevVersionId, .string versionTime, newParameters,
        (DIDDocState.value doc.toJson).toJson] := by
  have hparameters : newParameters = LogParameters.toJson
      { format := .tdw03, updateKeys := some [], deactivated := some true } := by decide
  rw [hparameters]
  rfl

/-- The tool carries the document of the last entry forward, and the library makes the entry that
the tool makes exactly when the document is in canonical form. -/
theorem sameEntry_iff_isCanonical (X : SigningCrates) (v : Value) (doc : DIDDoc)
    (h : DIDDoc.tryFromJson X.toCrates v = .ok doc) (prevVersionId versionTime : Text) :
    (∀ (X : ToolCrates) (env : Env) (args : UpdateArgs) (w w' : World) (prepared : Prepared),
      prepare X env args w = (.ok prepared, w') → ∃ last v, Carries X prepared last v) ∧
    (SameEntry X prevVersionId versionTime v doc ↔ OfObject DIDDoc.IsCanonical v) := by
  refine ⟨fun X env args w w' prepared => carries_of_prepare, ?_⟩
  rw [← DIDDoc.writesBack v doc h]
  constructor
  · intro hsame
    exact DIDDocState.value.inj hsame.document
  · intro hdoc
    have hunsigned := stripProofSlot_newDeactivation prevVersionId versionTime doc
    rw [hdoc] at hunsigned
    refine ⟨hunsigned.symm, fun n signer => ?_, congrArg DIDDocState.value hdoc⟩
    rw [hunsigned]
    rfl

end Deactivate

/-! ## A document of another tool

The sample DID after an update by a tool that writes a name of the subject as a bare string. -/

namespace Sample

/-- The digests of what is hashed for the update, and for a rotation of the assertion key after
it. -/
def foreignDigests : List (ℕ × ℕ) := [
  (49728, 0x476599b5ba0fdc109d0e973b4957a7d1d47b6cf531a6fe8cb1e47d2db1fe0324),
  (56939, 0x557adbad7bc706b791c2fe095d87157f95b9a93b57ae7d6bd61330de3d7099fe),
  (52031, 0x0a2dd06a1b91e0cf1a834484d12f091132e8c5964e336ae0c4a186924e580c82),
  (17794, 0x02bb370284e01a0e8a53ed675a7d87050ec666a4c4b36c2d2588669b9b90d1d3),
  (22574, 0x35bc1a1e8cdc8cda065eec65a63a779e5893619ea93d80795c1e49546cb26a7f),
  (6520, 0x36766a808d93a0174b28f5a31d575b86bc2254ff0393d41e7322103b1bb6198b)]

/-- The signature of the update. -/
def foreignSignature : FixedBytes 64 :=
  signatureOf 0xc710d7470ef8912ac1748b188e3bd55161ff772af31954fac93751f75e631c54
    0x99fc60ed4297a51a880de151b304cddf4457f47ef6ac08a95b0c6854636dfa01

/-- The signatures of the update and of the rotation. -/
def foreignSignatures : List (ℕ × FixedBytes 64) := [
  (17123, foreignSignature),
  (38382, signatureOf 0xe360556e3f7272a0ce0494b1fae5a5339657a08387ca75002448988bde22551a
    0x4a765dee1e85209896c9f3f867055f5b477399da41bf1083ce1283336e160b0d)]

/-- The signature of a message. -/
def foreignSign (message : Bytes) : FixedBytes 64 :=
  (foreignSignatures.lookup (fingerprint message)).getD (toolSignature message)

/-- The sample crates with these digests and signatures. -/
def foreignCrates : ToolCrates :=
  { toolCrates with
    sha256 := fun bytes => ((foreignDigests.lookup (fingerprint bytes)).map (bytesOf 32)).getD
      (toolCrates.sha256 bytes)
    ed25519Verify := fun _ message signature => signature = foreignSign message
    ed25519Sign := fun _ => foreignSign }

/-- The document of the created DID. -/
def createdDoc : DIDDoc :=
  DIDDoc.newGenesis toolDid.toText (createdKeys.authenticationKeyCoords toolCrates)
    (createdKeys.assertionKeyCoords toolCrates)

/-- Its JSON form, as an object. -/
def createdObject : Object := createdDoc.toJson.asObject.getD ∅

/-- The document with a name of its subject. -/
def foreignDocument : Value :=
  .object (OrdMap.insert createdObject (Text.lit "alsoKnownAs") (.string "https://a.ch"))

/-- The version of the update. -/
def foreignVersionId : Text := "2-QmT9MWefdCGFJ8YHbbvNPG7uKTTbXc9rTmnedwtDXh6enw"

/-- The entry of the update. -/
def foreignEntry : DIDLogEntry where
  format := .tdw03
  versionId := foreignVersionId
  versionTime := "2025-01-02T00:00:00Z"
  parameters := { format := .tdw03 }
  didDocState := .value foreignDocument
  dataIntegrityProofs := [proof foreignVersionId "2025-01-02T00:00:00Z" foreignSignature]

/-- The log with the update. -/
def foreignLog : DIDLog := ⟨[createdEntry, foreignEntry]⟩

theorem verifyLog_foreignLog : verifyLog foreignCrates.toCrates foreignLog toolDid = .ok () := by
  decide +kernel

/-- The document of the update as the library reads it. -/
def foreignDoc : DIDDoc := { createdDoc with alsoKnownAs := ["https://a.ch"] }

theorem tryFromJson_foreignDocument :
    DIDDoc.tryFromJson foreignCrates.toCrates foreignDocument = .ok foreignDoc := by
  decide +kernel

/-- A name as a bare string is not in canonical form. -/
theorem not_isCanonical_foreignDocument : ¬ OfObject DIDDoc.IsCanonical foreignDocument := by
  intro h
  obtain ⟨arr, harr, -⟩ := (h _ rfl).alsoKnownAs (.string "https://a.ch") (by simp)
  cases harr

/-- The documents that the tool itself writes are carried forward by both. -/
theorem sameEntry_created : Deactivate.SameEntry foreignCrates.toSigningCrates createdVersionId
    "2025-01-02T00:00:00Z" createdDoc.toJson createdDoc := by
  have hread := DIDDoc.tryFromJson_toJson (X := foreignCrates.toCrates) createdDoc
  exact (Deactivate.sameEntry_iff_isCanonical _ _ _ hread _ _).2.mpr
    ((DIDDoc.writesBack _ _ hread).mp rfl)

/-- The document of another tool is not. -/
theorem not_sameEntry_foreign : ¬ ∀ (log : DIDLog) (did : DID) last v doc prevVersionId versionTime,
    verifyLog foreignCrates.toCrates log did = .ok () → log.entries.getLast? = some last →
      last.didDocState = .value v → DIDDoc.tryFromJson foreignCrates.toCrates v = .ok doc →
        Deactivate.SameEntry foreignCrates.toSigningCrates prevVersionId versionTime v doc := by
  intro h
  have hsame := h foreignLog toolDid foreignEntry foreignDocument foreignDoc foreignVersionId
    "2025-01-03T00:00:00Z" verifyLog_foreignLog rfl rfl tryFromJson_foreignDocument
  exact not_isCanonical_foreignDocument ((DIDDoc.writesBack _ _ tryFromJson_foreignDocument).mp
    (DIDDocState.value.inj hsame.document))

end Sample

end Swiyu
