import Swiyu.Core.DidLog.Authentic

/-!
# Deactivation

The verifier does not look at `parameters.deactivated`. What ends a log is that none of the update
keys in force can sign.

## Main results

- `Swiyu.terminalAt_iff`: when a deactivation entry is the last entry of every accepted log.
-/

namespace Swiyu

open Json

variable {X : Crates}

/-- Entry `i` of a log, if it deactivates the DID, is the last one. -/
def TerminalAt (log : DIDLog) (i : ℕ) : Prop :=
  ∀ e ∈ log.entries[i]?, e.parameters.deactivated = some true → log.entries.length = i + 1

/-- One of the keys has signed some document of the DID. -/
def CanSign (X : Crates) (did : Text) (keys : List Text) : Prop :=
  ∃ (entry : DIDLogEntry) (document : Value), document.get "id" = some (.string did) ∧
    SignedBy X entry document keys

/-- Nobody can sign without a key. -/
theorem not_canSign_nil (did : Text) : ¬ CanSign X did [] := by
  rintro ⟨entry, document, -, proof, rest, key, signature, -, -, hmem, -⟩
  exact List.not_mem_nil hmem

/-- The entry `entry` with the given document on a log, with no parameters of its own. -/
def continuation (X : Crates) (predecessor : Text) (n : ℕ) (entry : DIDLogEntry)
    (document : Value) : DIDLogEntry :=
  let entry' := { entry with
    format := .tdw03
    parameters := { format := .tdw03 }
    didDocState := .value document }
  { entry' with versionId :=
      Text.decimal n ++ '-' :: deriveEntryHash X (entry'.hashingForm predecessor) }

/-- An accepted log can be continued just when a key in force can sign. -/
theorem exists_continuation_iff {entries : List DIDLogEntry} {did : DID} (hne : entries ≠ [])
    (h : verifyLog X ⟨entries⟩ did = .ok ()) :
    (∃ e, verifyLog X ⟨entries ++ [e]⟩ did = .ok ()) ↔
      CanSign X did.toText (latestUpdateKeys entries) := by
  constructor
  · rintro ⟨e, he⟩
    obtain ⟨-, scid, -, -, doc, -, hid, -, -, hsigned⟩ := (verifyLog_concat_eq_ok_iff hne).mp he
    exact ⟨e, doc, hid, hsigned⟩
  · rintro ⟨entry, doc, hid, hsigned⟩
    obtain ⟨scid, hscid, -⟩ := verifyLog_eq_ok_iff_authentic.mp h
    refine ⟨continuation X (predecessor scid entries entries.length)
      (sequenceNumber entries.length).toNat entry doc, (verifyLog_concat_eq_ok_iff hne).mpr
      ⟨h, scid, hscid, rfl, doc, rfl, hid, rfl, fun h0 => ?_, hsigned⟩⟩
    exact absurd (List.length_eq_zero_iff.mp h0) hne

/-- A deactivation entry of an accepted log is the last entry of every accepted log that begins in
the same way, just when the update keys in force after it cannot sign. -/
theorem terminalAt_iff {log : DIDLog} {did : DID} {i : ℕ} {e : DIDLogEntry}
    (h : verifyLog X log did = .ok ()) (he : log.entries[i]? = some e)
    (hd : e.parameters.deactivated = some true) :
    (∀ log', verifyLog X log' did = .ok () → log.entries.take (i + 1) <+: log'.entries →
        TerminalAt log' i) ↔
      ¬ CanSign X did.toText (latestUpdateKeys (log.entries.take (i + 1))) := by
  obtain ⟨hlt, -⟩ := List.getElem?_eq_some_iff.mp he
  have hlen : (log.entries.take (i + 1)).length = i + 1 := List.length_take_of_le hlt
  have hne : log.entries.take (i + 1) ≠ [] := List.ne_nil_of_length_eq_add_one hlen
  rw [← exists_continuation_iff hne (verifyLog_take (Nat.succ_pos i) h)]
  constructor
  · rintro hterminal ⟨e', he'⟩
    have hlast := hterminal _ he' (List.prefix_append _ _) e
      (by rw [Option.mem_def, List.getElem?_append_left (by omega), List.getElem?_take_of_lt
        (Nat.lt_succ_self i), he]) hd
    rw [List.length_append, hlen] at hlast
    simp at hlast
  · rintro hno ⟨_⟩ hlog' ⟨rest, rfl⟩ e' - -
    -- The first entry after the deactivation would continue the log.
    cases rest with
    | nil => rw [List.append_nil, hlen]
    | cons e₁ rest =>
      have happend : verifyLog X ⟨(log.entries.take (i + 1) ++ [e₁]) ++ rest⟩ did = .ok () := by
        simpa using hlog'
      exact absurd ⟨e₁, verifyLog_of_append (by simp) happend⟩ hno

namespace Sample

/-- An entry that deactivates the sample DID and keeps its update keys. -/
def deactivation : DIDLogEntry := entry 2 genesis.versionId "2025-01-02T00:00:00Z"
  { format := .tdw03, deactivated := some true } "2025-01-02T00:00:00Z" deactivationSignature

/-- An entry after the deactivation. -/
def revival : DIDLogEntry := entry 3 deactivation.versionId "2025-01-03T00:00:00Z"
  { format := .tdw03 } "2025-01-03T00:00:00Z" revivalSignature

theorem verifyLog_revival : verifyLog crates ⟨[genesis, deactivation, revival]⟩ did = .ok () := by
  decide +kernel

/-- An accepted log that goes on after its deactivation entry. -/
theorem not_terminalAt_revival : verifyLog crates ⟨[genesis, deactivation, revival]⟩ did = .ok () ∧
    ¬ TerminalAt ⟨[genesis, deactivation, revival]⟩ 1 :=
  ⟨verifyLog_revival, fun h => absurd (h deactivation rfl rfl) (by decide)⟩

/-- After the deactivation the sample key can still sign. -/
theorem canSign_deactivation :
    CanSign crates did.toText (latestUpdateKeys [genesis, deactivation]) := by
  have hlog : verifyLog crates ⟨[genesis, deactivation]⟩ did = .ok () := by
    simpa using verifyLog_take Nat.zero_lt_two verifyLog_revival
  by_contra hno
  have hterminal := (terminalAt_iff (i := 1) hlog rfl rfl).mpr hno _ verifyLog_revival
    ⟨[revival], rfl⟩
  exact absurd (hterminal deactivation rfl rfl) (by decide)

end Sample

end Swiyu
