import Swiyu.Core.DidLog.Received
import Swiyu.Didtool.Cmd.DidLog

/-!
# Logs loaded for a DID

A log that is fetched for a DID is verified against the DID, but only when its first entry is in the
`did:tdw` 0.3 format. What is served decides on that.

## Main results

- `Swiyu.verifyLog_loaded_iff`: when a loaded log is one that the verifier accepts for the DID.
-/

namespace Swiyu

open Json

variable {X : Crates} {env : Env} {w w' w₁ : World}

/-- The first line of a text that is not blank is a JSON array. -/
def BeginsWithArray (X : Crates) (text : Text) : Prop :=
  ∃ arr, (receivedEntries X text).head? = some (.array arr)

/-- An array is read as an entry in the `did:tdw` 0.3 format. -/
theorem format_of_tryFromJson_array {arr : List Value} {entry : DIDLogEntry}
    (h : DIDLogEntry.tryFromJson (.array arr) = .ok entry) : entry.format = .tdw03 := by
  rw [DIDLogEntry.tryFromJson] at h
  unfold DIDLogEntry.tryFromJsonArray at h
  split at h
  · simp only [Except.bind_eq_ok_iff, pure, Except.pure, Except.ok.injEq] at h
    obtain ⟨_, _, _, _, _, _, _, _, _, _, rfl⟩ := h
    rfl
  · cases h

/-- A log begins with an array just when its first entry is in the `did:tdw` 0.3 format. -/
theorem beginsWithArray_iff {text : Text} {log : DIDLog}
    (h : DIDLog.tryFromJsonl X text = .ok log) :
    BeginsWithArray X text ↔ ∃ e ∈ log.entries.head?, e.format = .tdw03 := by
  have hall := forall₂_receivedEntries h
  rw [BeginsWithArray]
  generalize receivedEntries X text = received at hall
  generalize log.entries = entries at hall
  cases hall with
  | nil => simp
  | @cons v e _ _ hentry _ =>
    simp only [List.head?_cons, Option.some.injEq, Option.mem_some_iff, exists_eq_left']
    constructor
    · rintro ⟨arr, rfl⟩
      exact format_of_tryFromJson_array hentry
    · intro hformat
      obtain ⟨_, _, rfl, -⟩ := array_of_tryFromJson hentry hformat
      exact ⟨_, rfl⟩

/-- A log that is loaded for a DID is one that the verifier accepts for that DID just when the text
that is served for it begins with an array. -/
theorem verifyLog_loaded_iff {target text : Text} {input : Option Text} {did : DID}
    {loaded : LoadedLog} (h : loadLog X env (some target) input w = (.ok loaded, w'))
    (hdid : resolveDid env target w = (.ok did, w₁))
    (htext : fetchText did.logUrl (env.server w₁.tick did.logUrl) = .ok (.ok text)) :
    verifyLog X loaded.log did = .ok () ↔ BeginsWithArray X text := by
  obtain ⟨-, text', targetDid, hread, hlog, hverify, -⟩ := loadLog_eq_ok_iff.mp h
  obtain ⟨resolved, w₂, hresolved, hserved, -, rfl, -⟩ := readLog_target_eq_ok_iff.mp hread
  cases hdid.symm.trans hresolved
  cases htext.symm.trans hserved
  rw [beginsWithArray_iff hlog]
  constructor
  · intro haccepted
    obtain ⟨scid, -, hauth⟩ := verifyLog_eq_ok_iff_authentic.mp haccepted
    obtain ⟨e, rest, hentries⟩ := List.exists_cons_of_ne_nil hauth.nonempty
    exact ⟨e, by simp [hentries], hauth.format e (by simp [hentries])⟩
  · intro hformat
    exact verifyLoadedLog_eq_ok_iff.mp hverify hformat did rfl

/-! ## A log in the other format -/

namespace Sample

/-- A world without files. -/
def emptyWorld : World := { files := ∅, keyStore := ∅ }

/-- An environment in which every request is answered with a text. -/
def serving (text : Text) : Env := .calm (fun _ _ => .answered 200 (.text text)) 0

/-- An entry in the `did:webvh` 1.0 format that nobody has signed. -/
def unsignedEntry : DIDLogEntry where
  format := .webVH10
  versionId := "1"
  versionTime := "2025-01-01T00:00:00Z"
  parameters := { format := .webVH10 }
  didDocState := .value (.ofFields [(Text.lit "id", .string "did:tdw:e:e.ch")])
  dataIntegrityProofs := []

/-- The text of a log of that entry. -/
def unsignedText : Text := unsignedEntry.toJson.print crates.f64

/-- Served for the sample DID, the log of another DID that nobody has signed is loaded. -/
theorem not_verifyLog_loaded : loadLog crates (serving unsignedText) (some did.toText) none
      emptyWorld = (.ok ⟨[unsignedText], ⟨[unsignedEntry]⟩, none⟩, emptyWorld.ticked) ∧
    verifyLog crates ⟨[unsignedEntry]⟩ did ≠ .ok () := by
  constructor <;> decide +kernel

/-- The lines of the sample log of two entries. -/
def rotationLines : List Text := [genesis, rotation].map fun e => e.toJson.print crates.f64

/-- The text of that log. -/
def rotationText : Text := (Text.lit "\n").intercalate rotationLines

/-- The sample log as it is loaded. -/
def loadedRotation : LoadedLog :=
  ⟨rotationLines,
    ⟨[{ genesis with parameters := genesisParameters.asRead .tdw03 }, rotation]⟩, none⟩

/-- The sample log is loaded for the sample DID, and it is one that the verifier accepts for it. -/
theorem verifyLog_loadedRotation :
    loadLog crates (serving rotationText) (some did.toText) none emptyWorld =
        (.ok loadedRotation, emptyWorld.ticked) ∧
      verifyLog crates loadedRotation.log did = .ok () := by
  have hload : loadLog crates (serving rotationText) (some did.toText) none emptyWorld =
      (.ok loadedRotation, emptyWorld.ticked) := by decide +kernel
  have hdid : resolveDid (serving rotationText) did.toText emptyWorld = (.ok did, emptyWorld) := by
    decide +kernel
  have htext : fetchText did.logUrl (.answered 200 (.text rotationText)) =
      .ok (.ok rotationText) := fetchText_ok (by decide +kernel)
  have hlog : DIDLog.tryFromJsonl crates rotationText = .ok loadedRotation.log := by decide +kernel
  refine ⟨hload, (verifyLog_loaded_iff hload hdid htext).mpr ?_⟩
  exact (beginsWithArray_iff hlog).mpr ⟨_, rfl, rfl⟩

end Sample

end Swiyu
