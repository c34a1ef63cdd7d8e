import Swiyu.Didtool.InStep
import Swiyu.Didtool.KeyStore.Left

/-!
# The history of a DID

Entry `i` of the log of a DID announces the `i`-th keys of the DID, and snapshot `i` of the key
store holds them. Creation and rotation leave it so, and no earlier snapshot is lost.

## Main definitions

- `Swiyu.Archive`: the key store has one snapshot for each of the keys given.
- `Swiyu.KeyHistory`: the entries announce the keys given.
- `Swiyu.Holds`: a file holds the log of a DID, with its history.

## Main results

- `Swiyu.archive_of_commit`, `Swiyu.archive_of_addVersion`: what the writes of the key store leave.
- `Swiyu.Holds.inStep`: log and key store are in step.
-/

/-- An element of a list with one more element is that one, or an earlier one. -/
theorem List.getElem?_concat_eq_some {α : Type*} {l : List α} {a b : α} {i : ℕ}
    (h : (l ++ [a])[i]? = some b) : i < l.length ∧ l[i]? = some b ∨ i = l.length ∧ b = a := by
  rcases lt_trichotomy i l.length with hi | rfl | hi
  · rw [getElem?_append_left hi] at h
    exact .inl ⟨hi, h⟩
  · rw [getElem?_concat_length] at h
    exact .inr ⟨rfl, (Option.some.inj h).symm⟩
  · rw [getElem?_eq_none (by simpa using hi)] at h
    cases h

namespace Swiyu

/-- The PEM of a role's public key. -/
def publicToPem (X : ToolCrates) (keys : StagedKeys) : KeyRole → Except Text Text
  | .authorized => X.eddsaPublicToPem (keys.authorizedKeyBytes X)
  | .authentication => X.ecdsaPublicToPem (keys.authenticationKeyCoords X)
  | .assertion => X.ecdsaPublicToPem (keys.assertionKeyCoords X)

/-- Snapshot `n` of an entry holds the key pairs. -/
structure HoldsKeys (X : ToolCrates) (w : World) (hash : Text) (n : ℕ) (keys : StagedKeys) :
    Prop where
  privateKey (role : KeyRole) : storedKey X w hash n role = some (keys.key role)
  publicKey (role : KeyRole) : ∃ pem, publicToPem X keys role = .ok pem ∧
    Os.keyFile w hash (snapshotName n) (keyFileName role false) = some pem

/-- The entry of a DID has the snapshots 1, 2, …, which hold the keys in this order. -/
structure Archive (X : ToolCrates) (w : World) (did : DID) (history : List StagedKeys) : Prop where
  entry : ∃ dir stored, w.keyStore.get (didToHash X did.toText) = some dir ∧
    dir.didTxt = some stored ∧ Text.trim stored = did.toText ∧
      ∀ m, m ∈ dir.numbers ↔ 1 ≤ m ∧ m ≤ history.length
  keys {i : ℕ} {keys : StagedKeys} : history[i]? = some keys →
    HoldsKeys X w (didToHash X did.toText) (i + 1) keys

variable {X : ToolCrates} {env : Env} {w w' : World} {did : DID} {hash : Text} {n : ℕ}
  {keys staged : StagedKeys} {history : List StagedKeys} {dir : EntryDir}

/-! ## One snapshot -/

/-- Only the directory of the entry counts. -/
theorem HoldsKeys.congr (h : HoldsKeys X w hash n keys)
    (hw : ∀ name,
      Os.keyFile w' hash (snapshotName n) name = Os.keyFile w hash (snapshotName n) name) :
    HoldsKeys X w' hash n keys := by
  refine ⟨fun role => ?_, fun role => ?_⟩
  · rw [← h.privateKey role]
    unfold storedKey
    rw [hw]
  · rw [hw]
    exact h.publicKey role

/-- The key pairs are in a snapshot when none of the writes has failed. -/
theorem holdsKeys_of_all (hX : X.Lawful) {tick : ℕ}
    (hdir : w.keyStore.get hash = some (dir.withFiles (snapshotName n)
      (filesLeft env hash tick (staged.keyFiles X))))
    (hall : ∀ file ∈ staged.keyFiles X, ∃ pem, file.pem = .ok pem ∧
      (file.name, pem) ∈ filesLeft env hash tick (staged.keyFiles X)) :
    HoldsKeys X w hash n staged := by
  refine ⟨storedKey_of_all hX hdir hall, fun role => ?_⟩
  have hfile : ⟨role, false, publicToPem X staged role⟩ ∈ staged.keyFiles X := by
    cases role <;> simp [StagedKeys.keyFiles, publicToPem]
  obtain ⟨pem, hpem, hmem⟩ := hall _ hfile
  exact ⟨pem, hpem, keyFile_of_mem hdir (nodup_filesLeft tick staged) hmem⟩

/-! ## All snapshots -/

namespace Archive

/-- The directory of the entry is all that counts. -/
theorem congr (h : Archive X w did history)
    (hw : w'.keyStore.get (didToHash X did.toText) = w.keyStore.get (didToHash X did.toText)) :
    Archive X w' did history := by
  refine ⟨?_, fun hkeys => (h.keys hkeys).congr fun name => ?_⟩
  · rw [hw]
    exact h.entry
  · unfold Os.keyFile
    rw [hw]

/-- The latest snapshot has the number of the last keys. -/
theorem latestNumber (h : Archive X w did history) (hne : history ≠ []) :
    ∃ dir stored, w.keyStore.get (didToHash X did.toText) = some dir ∧ dir.didTxt = some stored ∧
      Text.trim stored = did.toText ∧ dir.latestNumber = some history.length := by
  obtain ⟨dir, stored, hdir, hrecorded, htrim, hnumbers⟩ := h.entry
  refine ⟨dir, stored, hdir, hrecorded, htrim, EntryDir.latestNumber_eq_some_iff.mpr ⟨?_, ?_⟩⟩
  · exact (hnumbers _).mpr ⟨List.length_pos_iff.mpr hne, le_rfl⟩
  · exact fun m hm => ((hnumbers m).mp hm).2

/-- The latest snapshot holds the last keys. -/
theorem stored (h : Archive X w did history) (hlast : history.getLast? = some keys) :
    Stored X w did history.length keys := by
  have hne : history ≠ [] := by
    rintro rfl
    cases hlast
  have hpos := List.length_pos_iff.mpr hne
  rw [List.getLast?_eq_getElem?] at hlast
  have hkeys := h.keys hlast
  rw [Nat.sub_add_cancel hpos] at hkeys
  exact ⟨h.latestNumber hne, hkeys.privateKey⟩

end Archive

/-- A commit that succeeds leaves the keys in the first snapshot. -/
theorem archive_of_commit (hX : X.Lawful) {entry : KeyStoreEntry}
    (htrim : Text.trim did.toText = did.toText)
    (h : KeyStore.commit X env staged did w = (.ok entry, w')) : Archive X w' did [staged] := by
  simp only [KeyStore.commit, Command.bind_eq_ok_iff, Os.entryExists, Command.read_eq_ok_iff,
    Command.ite_fail_eq_ok_iff, Command.mapError_eq_ok_iff, Command.pure_eq_ok_iff,
    Os.writeDidTxt, Os.writing_eq_ok_iff] at h
  obtain ⟨_, _, ⟨rfl, rfl⟩, hunused, _, w₁, hwrite, _, _, ⟨-, rfl⟩, -, rfl⟩ := h
  obtain ⟨-, hkeyStore, hall⟩ := triple_writeKeys.1 _ _ hwrite
  -- The directory is a new one, and has nothing but what the commit has written.
  have hempty : entryDir w (didToHash X did.toText) = {} := by
    rw [entryDir, Option.not_isSome_iff_eq_none.mp hunused]
    rfl
  rw [hempty] at hkeyStore
  let dir : EntryDir := ({} : EntryDir).withFiles (snapshotName 1)
    (filesLeft env (didToHash X did.toText) (w.tick + 1) (staged.keyFiles X))
  have hdir : w₁.keyStore.get (didToHash X did.toText) = some dir := by
    rw [hkeyStore, OrdMap.get_insert, if_pos rfl]
    rfl
  refine ⟨⟨{ dir with didTxt := some did.toText }, did.toText, ?_, rfl, htrim, fun m => ?_⟩, ?_⟩
  · show (w₁.keyStore.insert _ _).get _ = _
    rw [OrdMap.get_insert, if_pos rfl, World.keyStore_ticked, hdir, Option.getD_some]
  · -- The only snapshot is the one that has been written.
    refine EntryDir.mem_numbers_withFiles.trans ⟨?_, fun hm => .inl ⟨?_, by decide⟩⟩
    · rintro (⟨rfl, -⟩ | hm)
      · exact ⟨le_rfl, le_rfl⟩
      · exact absurd hm List.not_mem_nil
    · exact le_antisymm hm.2 hm.1
  · intro i keys hkeys
    obtain ⟨rfl, rfl⟩ := (List.getElem?_concat_eq_some (l := []) hkeys).resolve_left fun h =>
      absurd h.1 (Nat.not_lt_zero i)
    refine (holdsKeys_of_all hX hdir hall).congr fun name => ?_
    exact keyFile_putDidTxt (w := w₁.ticked) _ _ _ hdir

/-- A call that adds a snapshot keeps the earlier ones. -/
theorem archive_of_addVersion (hX : X.Lawful) (h : Archive X w did history) (hne : history ≠ [])
    (hn : history.length < 9999) {entry : KeyStoreEntry}
    (hentry : entry.hash = didToHash X did.toText) {m : ℕ}
    (hadd : entry.addVersion X env staged w = (.ok m, w')) :
    Archive X w' did (history ++ [staged]) := by
  obtain ⟨dir, stored, hdir, hrecorded, htrim, hnumbers⟩ := h.entry
  obtain ⟨dir', _, hdir', -, -, hlatest⟩ := h.latestNumber hne
  obtain rfl := Option.some.inj (hdir.symm.trans hdir')
  -- The snapshot gets the number after the latest, which is the length of the history.
  obtain ⟨dir', m', tick, hdir', hlatest', rfl, hkeyStore, hall⟩ :=
    KeyStoreEntry.addVersion_spec hadd
  rw [hentry] at hdir' hkeyStore hall
  obtain rfl := Option.some.inj (hdir.symm.trans hdir')
  obtain rfl := Option.some.inj (hlatest.symm.trans hlatest')
  have hget : w'.keyStore.get (didToHash X did.toText) = some (dir.withFiles
      (snapshotName (history.length + 1))
      (filesLeft env (didToHash X did.toText) tick (staged.keyFiles X))) := by
    rw [hkeyStore, OrdMap.get_insert, if_pos rfl]
  refine ⟨⟨_, stored, hget, ?_, htrim, fun m => ?_⟩, ?_⟩
  · rw [EntryDir.didTxt_withFiles, hrecorded]
  · rw [EntryDir.mem_numbers_withFiles, hnumbers, List.length_append, List.length_singleton]
    omega
  · intro i keys hkeys
    rcases List.getElem?_concat_eq_some hkeys with ⟨hi, hkeys⟩ | ⟨rfl, rfl⟩
    · -- An earlier snapshot has another name.
      refine (h.keys hkeys).congr fun name => keyFile_withFiles_of_ne hdir hget fun hname => ?_
      have heq := snapshotName_injective hname
      omega
    · exact holdsKeys_of_all hX hget hall

/-! ## The log -/

/-- The entries announce the keys: the document of each entry is that of its keys, the only update
key from then on is the authorized one, and the DID is not deactivated. -/
structure KeyHistory (X : ToolCrates) (did : DID) (entries : List DIDLogEntry)
    (history : List StagedKeys) : Prop where
  length : entries.length = history.length
  entry {i : ℕ} {e : DIDLogEntry} {keys : StagedKeys} :
    entries[i]? = some e → history[i]? = some keys →
      e.didDocState = .value (DIDDoc.newGenesis did.toText (keys.authenticationKeyCoords X)
        (keys.assertionKeyCoords X)).toJson ∧
      latestUpdateKeys (entries.take (i + 1)) =
        [ed25519VerifyingKeyToMultikey (keys.authorizedKeyBytes X)] ∧
      e.parameters.deactivated ≠ some true

/-- The file at `path` holds the log of the DID, accepted by the verifier, whose entries announce
the keys in the snapshots of the key store. -/
def Holds (X : ToolCrates) (path : Text) (did : DID) (history : List StagedKeys) (w : World) :
    Prop :=
  ∃ text log, w.files.get path = some text ∧ DIDLog.tryFromJsonl X.toCrates text = .ok log ∧
    DID.fromStr did.toText = .ok did ∧ verifyLog X.toCrates log did = .ok () ∧
    Archive X w did history ∧ KeyHistory X did log.entries history

/-- Only the file and the entry of the key store count. -/
theorem Holds.congr {path : Text} (h : Holds X path did history w)
    (hfile : w'.files.get path = w.files.get path)
    (hkeys : w'.keyStore.get (didToHash X did.toText) = w.keyStore.get (didToHash X did.toText)) :
    Holds X path did history w' := by
  obtain ⟨text, log, hget, hread, hdid, haccepted, harchive, hhistory⟩ := h
  exact ⟨text, log, hfile.trans hget, hread, hdid, haccepted, harchive.congr hkeys, hhistory⟩

/-- One more entry announces one more set of keys. -/
theorem KeyHistory.concat {entries : List DIDLogEntry} (h : KeyHistory X did entries history)
    {e : DIDLogEntry} (hstate : e.didDocState = .value (DIDDoc.newGenesis did.toText
      (keys.authenticationKeyCoords X) (keys.assertionKeyCoords X)).toJson)
    (hkeys : latestUpdateKeys (entries ++ [e]) =
      [ed25519VerifyingKeyToMultikey (keys.authorizedKeyBytes X)])
    (hactive : e.parameters.deactivated ≠ some true) :
    KeyHistory X did (entries ++ [e]) (history ++ [keys]) := by
  refine ⟨by simp [h.length], fun {i e' keys'} he' hkeys' => ?_⟩
  rcases List.getElem?_concat_eq_some he' with ⟨hi, he'⟩ | ⟨rfl, rfl⟩
  · rw [List.getElem?_append_left (h.length ▸ hi)] at hkeys'
    rw [List.take_append_of_le_length hi]
    exact h.entry he' hkeys'
  · rw [h.length, List.getElem?_concat_length] at hkeys'
    obtain rfl := Option.some.inj hkeys'
    rw [List.take_of_length_le (by simp)]
    exact ⟨hstate, hkeys, hactive⟩

/-- Log and key store are in step. -/
theorem Holds.inStep {path : Text} (h : Holds X path did history w)
    (hlast : history.getLast? = some keys) (hn : history.length < 2 ^ 32) : ∃ text log,
      w.files.get path = some text ∧ DIDLog.tryFromJsonl X.toCrates text = .ok log ∧
        InStep X w did log keys ∧ KeyHistory X did log.entries history := by
  obtain ⟨text, log, hfile, hread, hdid, haccepted, harchive, hhistory⟩ := h
  have hstored := harchive.stored hlast
  rw [← hhistory.length] at hstored hn
  obtain ⟨scid, -, hauth⟩ := (verifyLog_eq_ok_iff hn).mp haccepted
  have hpos := List.length_pos_iff.mpr hauth.nonempty
  have hi : log.entries.length - 1 < log.entries.length := by omega
  have hget : log.entries[log.entries.length - 1]? = some log.entries[log.entries.length - 1] :=
    List.getElem?_eq_getElem hi
  have hget' : log.entries.getLast? = some log.entries[log.entries.length - 1] := by
    rw [List.getLast?_eq_getElem?, hget]
  rw [List.getLast?_eq_getElem?, ← hhistory.length] at hlast
  obtain ⟨hstate, hkeys, -⟩ := hhistory.entry hget hlast
  rw [Nat.sub_add_cancel hpos, List.take_length] at hkeys
  have hversion := hauth.versionId _ hi
  rw [Nat.sub_add_cancel hpos] at hversion
  exact ⟨text, log, hfile, hread, ⟨hdid, haccepted, hstored, hkeys, _, _, hget', hversion, hstate⟩,
    hhistory⟩

end Swiyu
