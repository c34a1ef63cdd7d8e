import Swiyu.Core.DidLog.Terminal
import Swiyu.Didtool.Cmd.Did.Created
import Swiyu.Didtool.Cmd.Did.VersionTimes

/-!
# The life of a DID

A DID is created, its keys are rotated any number of times in the file that holds its log, and at
the end it may be deactivated. In between anything may happen to other files and to other entries of
the key store. After every step the file holds a log that the verifier accepts, with one snapshot in
the key store for each entry.

## Main definitions

- `Swiyu.InPlace`: the arguments of an update of a file.
- `Swiyu.Run`: the worlds that the life of a DID reaches.
- `Swiyu.Ended`: the file holds a log that no entry can follow.

## Main results

- `Swiyu.Rotate.holds_of_cmdRotate`: a rotation in place leaves the next entry and its keys.
- `Swiyu.Deactivate.ended_of_cmdDeactivate`: a deactivation in place ends the log.
- `Swiyu.holds_of_run`, `Swiyu.ended_of_run`: what every run leaves.
-/

namespace Swiyu

open Json

variable {X : ToolCrates} {env : Env} {w w' : World} {did : DID} {n : ℕ} {keys : StagedKeys}
  {history : List StagedKeys} {path text : Text} {log : DIDLog} {last : DIDLogEntry}

/-! ## One more entry -/

/-- The document of a new entry, when doubles are read as they are. -/
theorem didDocState_asRead {X : SigningCrates} {prevVersionId time : Text}
    {parameters : LogParameters} {document : Value} {m : UInt32} {signer : FixedBytes 32} :
    (NewEntry.asRead X prevVersionId time parameters document m signer id).didDocState =
      .value document := by
  have hself : document.reread id id = document := Value.reread_eq_self fun _ _ => rfl
  exact congrArg DIDDocState.value hself

/-- An entry that is built on the last one, about the DID and signed with a key in force, extends
the log. -/
theorem extends_asRead (hX : X.Lawful) {scid didStr time : Text} {parameters : LogParameters}
    {document : Value} {signer : FixedBytes 32} (hlast : log.entries.getLast? = some last)
    (hformat : parameters.format = .tdw03) (hid : document.get "id" = some (.string didStr))
    (hkey : ed25519VerifyingKeyToMultikey (X.ed25519VerifyingKey signer) ∈
      latestUpdateKeys log.entries) (m : UInt32) :
    Extends X.toCrates didStr scid m.toNat log.entries
      (NewEntry.asRead X.toSigningCrates last.versionId time parameters document m signer id) := by
  have hself : document.reread id id = document := Value.reread_eq_self fun _ _ => rfl
  obtain ⟨before, hentries⟩ := List.getLast?_eq_some_iff.mp hlast
  -- The entry is hashed with the version of the last one.
  have hpredecessor : predecessor scid log.entries log.entries.length = last.versionId := by
    rw [hentries, List.length_append, List.length_singleton, predecessor,
      List.getElem?_concat_length]
    rfl
  refine ⟨rfl, document, ?_, hid, ?_, fun hempty => ?_, ?_⟩
  · exact didDocState_asRead
  · -- What is hashed has the parameters as they are read.
    have hparameters := LogParameters.toJson_asRead parameters hformat
    show _ = _ ++ '-' :: deriveEntryHash X.toCrates (.array [.string _, .string time,
      (parameters.asRead .tdw03).toJson, (DIDDocState.value (document.reread id id)).toJson])
    rw [hself, hparameters, hpredecessor]
    rfl
  · rw [List.length_eq_zero_iff.mp hempty] at hlast
    cases hlast
  · exact signedBy_sign (hX.ed25519_point _) (hX.ed25519_verify _) rfl hkey rfl

/-- The log with the line of such an entry is read as the log with the entry, and accepted. -/
theorem accepted_buildUpdatedLog (hX : X.Lawful) {time : Text} {parameters : LogParameters}
    {document : Value} {signer : FixedBytes 32}
    (hread : DIDLog.tryFromJsonl X.toCrates text = .ok log)
    (haccepted : verifyLog X.toCrates log did = .ok ())
    (hlast : log.entries.getLast? = some last) (hformat : parameters.format = .tdw03)
    (hparameters : parameters.toJson.PlainWithin 2) (hdocument : document.PlainWithin 4)
    (hid : document.get "id" = some (.string did.toText))
    (hkey : ed25519VerifyingKeyToMultikey (X.ed25519VerifyingKey signer) ∈
      latestUpdateKeys log.entries) :
    let e := NewEntry.asRead X.toSigningCrates last.versionId time parameters document
      (sequenceNumber log.entries.length) signer id
    DIDLog.tryFromJsonl X.toCrates (buildUpdatedLog (collectRawLines text)
      ((buildEntry X.toSigningCrates last.versionId time parameters.toJson document
        (sequenceNumber log.entries.length) signer).value.print X.f64)) =
      .ok ⟨log.entries ++ [e]⟩ ∧ verifyLog X.toCrates ⟨log.entries ++ [e]⟩ did = .ok () := by
  have hne : log.entries ≠ [] := by
    rintro hnil
    rw [hnil] at hlast
    cases hlast
  have hreads : ∀ x ∈ document.floats, X.f64.ReadsAs x (id x) := by simp [hdocument.floats]
  obtain ⟨hnewline, hparses⟩ := parsesTo_buildEntry hparameters
    ((hdocument.mono (by decide)).readable _) hreads last.versionId time
    (sequenceNumber log.entries.length) signer
  obtain ⟨scid, hscid, -⟩ := verifyLog_eq_ok_iff_authentic.mp haccepted
  exact ⟨tryFromJsonl_concat hread hnewline hparses, (verifyLog_concat_eq_ok_iff hne).mpr
    ⟨haccepted, scid, hscid, extends_asRead hX hlast hformat hid hkey _⟩⟩

/-! ## The signer -/

/-- The signer of a log in step is the latest authorized key. -/
theorem authorized_of_loadSigner {signer : LogSigner} {didStr : Text}
    (h : loadSigner X env log w = (.ok signer, w')) (hdid : logDid log = .ok (didStr, did))
    (hstored : Stored X w did n keys) : signer.did = did ∧ signer.authorized = keys.authorized := by
  simp only [loadSigner, Command.bind_eq_ok_iff, Command.ofExcept_eq_ok_iff,
    Command.mapError_eq_ok_iff, Command.pure_eq_ok_iff, Option.okOr_eq_ok_iff] at h
  obtain ⟨_, _, ⟨hdid', rfl⟩, found, w₁, hlookup, entry, _, ⟨hentry, rfl⟩, version, w₂, hversion,
    authorized, _, hload, rfl, -⟩ := h
  subst hentry
  rw [hdid] at hdid'
  obtain rfl := Except.ok.inj hdid'
  obtain ⟨-, -, rfl, rfl⟩ := KeyStore.lookup_eq_ok_some_iff.mp hlookup
  obtain ⟨-, hnumber, rfl⟩ := KeyStoreEntry.latestVersion_eq_ok_iff.mp hversion
  obtain ⟨dir, -, hdir, -, -, hlatest⟩ := hstored.entry
  rw [World.keyStore_ticked, hdir, Option.bind_some, hlatest] at hnumber
  obtain rfl := Option.some.inj hnumber
  exact ⟨rfl, hstored.ticked.ticked.eq_of_load rfl (.inr rfl) hload⟩

/-- The DID of a log in step. -/
theorem InStep.logDid_eq (h : InStep X w did log keys) : logDid log = .ok (did.toText, did) := by
  unfold logDid
  rw [currentDid_of_verifyLog h.accepted, Option.okOr_some, Except.ok_bind, h.fromStr]
  rfl

/-! ## Updates in place -/

/-- The arguments of an update of the file at `path`: the log is read from it and written back. -/
structure InPlace (path : Text) (args : UpdateArgs) : Prop where
  did : args.did = none
  input : args.input.getD DEFAULT_INPUT = path
  out : args.out = none ∨ args.out = some path

/-- The log that is loaded is that in the file. -/
theorem loaded_of_inPlace {args : UpdateArgs} (hargs : InPlace path args) {loaded : LoadedLog}
    (hfile : w.files.get path = some text) (hread : DIDLog.tryFromJsonl X.toCrates text = .ok log)
    (h : loadLog X.toCrates env args.did args.input w = (.ok loaded, w')) :
    loaded.log = log ∧ loaded.rawLines = collectRawLines text ∧ loaded.sourcePath = some path := by
  obtain ⟨-, text', target, hread', hlog, -, hlines⟩ := loadLog_eq_ok_iff.mp h
  rw [hargs.did] at hread'
  obtain ⟨-, hfile', hpath, -, -⟩ := readLog_input_eq_ok_iff.mp hread'
  rw [hargs.input] at hfile' hpath
  obtain rfl := Option.some.inj (hfile.symm.trans hfile')
  exact ⟨Except.ok.inj (hlog.symm.trans hread), hlines, hpath⟩

/-- The updated log is in the file. -/
theorem InPlace.get_of_writeLog {args : UpdateArgs} (hargs : InPlace path args) {content : Text}
    {written : Option Text}
    (h : writeLog env content (some path) args.out args.force w = (.ok written, w')) :
    written = some path ∧ w'.files.get path = some content := by
  have hwritten : written = some path := by
    rcases hargs.out with hout | hout
    · rw [hout] at h
      simp only [writeLog, Command.bind_eq_ok_iff, Command.pure_eq_ok_iff] at h
      obtain ⟨_, _, -, rfl, -⟩ := h
      rfl
    · rw [hout] at h
      simp only [writeLog, Command.bind_eq_ok_iff, Command.ite_fail_eq_ok_iff,
        Command.pure_eq_ok_iff] at h
      obtain ⟨_, _, -, -, _, _, -, rfl, -⟩ := h
      rfl
  subst hwritten
  exact ⟨rfl, (Rotate.get_of_writeLog h).2⟩

namespace Rotate

/-- The parameters of a rotation announce the new authorized key, unless it is the one in force, and
do not deactivate the DID. -/
theorem exists_announcing (X : SigningCrates) (previous authorized : FixedBytes 32) :
    ∃ parameters : LogParameters, parameters.toJson = newParameters X previous authorized ∧
      parameters.format = .tdw03 ∧ parameters.updateKeys.getD
        [ed25519VerifyingKeyToMultikey (X.ed25519VerifyingKey previous)] =
          [ed25519VerifyingKeyToMultikey (X.ed25519VerifyingKey authorized)] ∧
      parameters.deactivated ≠ some true := by
  unfold newParameters
  dsimp only
  split_ifs with hsame
  · exact ⟨{ format := .tdw03 }, rfl, rfl, congrArg (fun k => [k]) hsame, nofun⟩
  · exact ⟨{ format := .tdw03, updateKeys := some [_] }, rfl, rfl, rfl, nofun⟩

theorem plainWithin_newDocument (didStr : Text) (staged : StagedKeys) :
    (newDocument X didStr staged).PlainWithin 4 :=
  DIDDoc.plainWithin_newGenesis _ _ _

/-- The document is about the DID. -/
theorem get_id_newDocument (didStr : Text) (staged : StagedKeys) :
    (newDocument X didStr staged).get "id" = some (.string didStr) := rfl

/-- What a rotation in place of a log in step prepares: an entry that extends the log, with the
document of the new keys. -/
theorem prepared_of_inStep {args : RotateArgs} (hargs : InPlace path args.toUpdateArgs)
    (hfile : w.files.get path = some text) (hread : DIDLog.tryFromJsonl X.toCrates text = .ok log)
    (h : InStep X w did log keys) {prepared : Prepared}
    (hprepare : prepare X env args w = (.ok prepared, w')) : ∃ last time,
      log.entries.getLast? = some last ∧ prepared.loaded.rawLines = collectRawLines text ∧
        prepared.loaded.sourcePath = some path ∧
        prepared.signer.entry.hash = didToHash X did.toText ∧
        prepared.newEntry = buildEntry X.toSigningCrates last.versionId time
          (newParameters X.toSigningCrates keys.authorized prepared.staged.authorized)
          (newDocument X did.toText prepared.staged) (sequenceNumber log.entries.length)
          keys.authorized := by
  simp only [prepare, Command.bind_eq_ok_iff, Command.ofExcept_eq_ok_iff,
    Command.mapError_eq_ok_iff, Command.pure_eq_ok_iff, Except.mapError_eq_ok_iff] at hprepare
  obtain ⟨plan, _, ⟨-, rfl⟩, _, _, ⟨-, rfl⟩, loaded, w₁, hloaded, last, _, ⟨hlast, rfl⟩, signer, w₂,
    hsigner, staged, w₃, -, time, w₄, -, rfl, -⟩ := hprepare
  obtain ⟨rfl, hlines, hsource⟩ := loaded_of_inPlace hargs hfile hread hloaded
  have hw₁ : w₁.keyStore = w.keyStore := (keeps_loadLog fun _ => rfl).eq hloaded
  have hstored := h.stored.congr hw₁
  obtain ⟨hdidStr, hhash, -⟩ := entry_of_loadSigner hsigner h.logDid_eq hstored
  obtain ⟨-, hauthorized⟩ := authorized_of_loadSigner hsigner h.logDid_eq hstored
  refine ⟨last, time, (lastEntry_eq_ok_iff.mp hlast).1, hlines, hsource, hhash, ?_⟩
  dsimp only
  rw [hdidStr, hauthorized]

/-- A rotation in place that has got to its upload has left the log with one more entry, and its
keys in the next snapshot. -/
theorem holds_of_commit (hX : X.Lawful) {args : RotateArgs}
    (hargs : InPlace path args.toUpdateArgs) (h : Holds X path did history w)
    (hne : history ≠ []) (hn : history.length < 9999) {prepared : Prepared} {written : Option Text}
    {number : ℕ} {w₁ w₂ w₃ : World} (hprepare : prepare X env args w = (.ok prepared, w₁))
    (hsave : save X env args prepared w₁ = (.ok written, w₂))
    (hcommit : commit X env prepared w₂ = (.ok number, w₃)) :
    written = some path ∧ w₃.files.get path = some (prepared.updatedLog X) ∧
      Holds X path did (history ++ [prepared.staged]) w₃ ∧ ∃ text log e,
        w.files.get path = some text ∧ DIDLog.tryFromJsonl X.toCrates text = .ok log ∧
          DIDLog.tryFromJsonl X.toCrates (prepared.updatedLog X) = .ok ⟨log.entries ++ [e]⟩ := by
  obtain ⟨text, log, hfile, hread, hstep, hhistory⟩ :=
    h.inStep (List.getLast?_eq_some_getLast hne) (by omega)
  obtain ⟨_, _, -, -, -, -, harchive, -⟩ := h
  simp only [save, commit, Command.mapError_eq_ok_iff] at hsave hcommit
  obtain ⟨last, time, hlast, hlines, hsource, hhash, hentry⟩ :=
    prepared_of_inStep hargs hfile hread hstep hprepare
  rw [hsource] at hsave
  obtain ⟨rfl, hwritten⟩ := hargs.get_of_writeLog hsave
  -- The key store is written after the log.
  have hkeyStore : w₂.keyStore = w.keyStore :=
    ((keeps_writeLog (fun _ => rfl) fun _ _ => rfl).eq hsave).trans
      ((keeps_prepare fun _ => rfl).eq hprepare)
  have hadded : w₃.files = w₂.files := (keeps_addVersion (fun _ => rfl) fun _ _ => rfl).eq hcommit
  -- The keys are in the next snapshot, and those of the history in theirs.
  have harchive' : Archive X w₃ did (history ++ [prepared.staged]) :=
    archive_of_addVersion hX (harchive.congr (by rw [hkeyStore])) hne hn hhash hcommit
  -- The entry announces the authorized key when it is another one, and is signed with the one
  -- before.
  obtain ⟨parameters, hparameters, hformat, hannounced, hactive⟩ := exists_announcing
    X.toSigningCrates (history.getLast hne).authorized prepared.staged.authorized
  have hflat := plainWithin_newParameters X.toSigningCrates (history.getLast hne).authorized
    prepared.staged.authorized
  rw [← hparameters] at hentry hflat
  let e := NewEntry.asRead X.toSigningCrates last.versionId time parameters
    (newDocument X did.toText prepared.staged) (sequenceNumber log.entries.length)
    (history.getLast hne).authorized id
  -- So the updated log is read and accepted with one more entry.
  obtain ⟨hparses, haccepted⟩ : DIDLog.tryFromJsonl X.toCrates (prepared.updatedLog X) =
      .ok ⟨log.entries ++ [e]⟩ ∧ verifyLog X.toCrates ⟨log.entries ++ [e]⟩ did = .ok () := by
    rw [Prepared.updatedLog, Prepared.newLine, hlines, hentry]
    exact accepted_buildUpdatedLog hX hread hstep.accepted hlast hformat hflat
      (plainWithin_newDocument did.toText prepared.staged) (get_id_newDocument _ _)
      (hstep.updateKeys ▸ List.mem_singleton.mpr rfl)
  rw [← hadded] at hwritten
  refine ⟨rfl, hwritten, ⟨prepared.updatedLog X, ⟨log.entries ++ [e]⟩, hwritten, hparses,
    hstep.fromStr, haccepted, harchive', hhistory.concat didDocState_asRead ?_ hactive⟩, text,
    log, e, hfile, hread, hparses⟩
  rw [latestUpdateKeys_concat, hstep.updateKeys]
  exact hannounced

/-- A rotation in place leaves the log with one more entry, and its keys in the next snapshot. -/
theorem holds_of_cmdRotate (hX : X.Lawful) {args : RotateArgs}
    (hargs : InPlace path args.toUpdateArgs) (h : Holds X path did history w)
    (hne : history ≠ []) (hn : history.length < 9999) {report : Report}
    (hrun : cmdRotate X env args w = (.ok report, w')) :
    ∃ prepared w₁, prepare X env args w = (.ok prepared, w₁) ∧
      Holds X path did (history ++ [prepared.staged]) w' := by
  simp only [cmdRotate, Command.bind_eq_ok_iff, Command.pure_eq_ok_iff] at hrun
  obtain ⟨prepared, w₁, hprepare, written, w₂, hsave, number, w₃, hcommit, _, w₄, hpublish, -,
    rfl⟩ := hrun
  obtain ⟨rfl, -, hholds, -⟩ := holds_of_commit hX hargs h hne hn hprepare hsave hcommit
  -- After both nothing but the registry changes.
  have hfiles : w₄.files = w₃.files := keeps_publish_some.eq hpublish
  have hkeyStore : (publish X env args prepared (some path)).Keeps World.keyStore :=
    .mapError keeps_publishLog
  exact ⟨prepared, w₁, hprepare, hholds.congr (by rw [hfiles]) (by rw [hkeyStore.eq hpublish])⟩

end Rotate

/-! ## Deactivation -/

variable (X) in
/-- The file at `path` holds a log of the DID that is accepted, whose last entry deactivates the DID
and has no successor in any log that is accepted; the keys of the entries before it are kept. -/
def Ended (path : Text) (did : DID) (history : List StagedKeys) (w : World) : Prop :=
  ∃ text log last, w.files.get path = some text ∧ DIDLog.tryFromJsonl X.toCrates text = .ok log ∧
    verifyLog X.toCrates log did = .ok () ∧ log.entries.length = history.length + 1 ∧
    log.entries.getLast? = some last ∧ last.parameters.deactivated = some true ∧
    (∀ log', verifyLog X.toCrates log' did = .ok () → log.entries <+: log'.entries → log' = log) ∧
    Archive X w did history

/-- Only the file and the entry of the key store count. -/
theorem Ended.congr (h : Ended X path did history w) (hfile : w'.files.get path = w.files.get path)
    (hkeys : w'.keyStore.get (didToHash X did.toText) = w.keyStore.get (didToHash X did.toText)) :
    Ended X path did history w' := by
  obtain ⟨text, log, last, hget, hread, haccepted, hlength, hlast, hdeactivated, hend,
    harchive⟩ := h
  exact ⟨text, log, last, hfile.trans hget, hread, haccepted, hlength, hlast, hdeactivated, hend,
    harchive.congr hkeys⟩

/-- A log without update keys ends every log that is accepted. -/
theorem eq_of_prefix {log' : DIDLog} (hne : log.entries ≠ [])
    (haccepted : verifyLog X.toCrates log did = .ok ()) (hkeys : latestUpdateKeys log.entries = [])
    (haccepted' : verifyLog X.toCrates log' did = .ok ()) (h : log.entries <+: log'.entries) :
    log' = log := by
  obtain ⟨rest, hrest⟩ := h
  rcases rest with _ | ⟨e, rest⟩
  · rw [List.append_nil] at hrest
    rcases log with ⟨entries⟩
    rcases log' with ⟨entries'⟩
    exact congrArg DIDLog.mk hrest.symm
  · -- The first entry after the log would be signed with one of its keys.
    have hentries :
        (log.entries ++ e :: rest).take (log.entries.length + 1) = log.entries ++ [e] := by
      simp [List.take_append]
    have htake := verifyLog_take (i := log.entries.length + 1) (Nat.succ_pos _) haccepted'
    rw [← hrest, hentries] at htake
    have hsign := (exists_continuation_iff hne haccepted).mp ⟨e, htake⟩
    rw [hkeys] at hsign
    exact absurd hsign (not_canSign_nil _)

namespace Deactivate

/-- What a deactivation in place of a log in step prepares: an entry that extends the log, with the
last document. -/
theorem prepared_of_inStep {args : UpdateArgs} (hargs : InPlace path args)
    (hfile : w.files.get path = some text) (hread : DIDLog.tryFromJsonl X.toCrates text = .ok log)
    (h : InStep X w did log keys) {prepared : Prepared}
    (hprepare : prepare X env args w = (.ok prepared, w')) : ∃ last time,
      log.entries.getLast? = some last ∧ prepared.loaded.rawLines = collectRawLines text ∧
        prepared.loaded.sourcePath = some path ∧
        prepared.newEntry = buildEntry X.toSigningCrates last.versionId time newParameters
          (Rotate.newDocument X did.toText keys) (sequenceNumber log.entries.length)
          keys.authorized := by
  simp only [prepare, Command.bind_eq_ok_iff, Command.ofExcept_eq_ok_iff,
    Command.mapError_eq_ok_iff, Except.mapError_eq_ok_iff, Command.pure_eq_ok_iff] at hprepare
  obtain ⟨_, _, ⟨-, rfl⟩, loaded, w₁, hloaded, last, _, ⟨hlast, rfl⟩, document, _, ⟨hdocument, rfl⟩,
    signer, w₂, hsigner, time, w₃, -, rfl, -⟩ := hprepare
  obtain ⟨rfl, hlines, hsource⟩ := loaded_of_inPlace hargs hfile hread hloaded
  have hw₁ : w₁.keyStore = w.keyStore := (keeps_loadLog fun _ => rfl).eq hloaded
  obtain ⟨-, hauthorized⟩ := authorized_of_loadSigner hsigner h.logDid_eq (h.stored.congr hw₁)
  obtain ⟨hlast, -⟩ := lastEntry_eq_ok_iff.mp hlast
  -- The last document is the one that the tool has written.
  obtain ⟨e, hash, he, -, hstate⟩ := h.last
  obtain rfl := Option.some.inj (hlast.symm.trans he)
  obtain rfl := DIDDocState.value.inj
    (hstate.symm.trans (previousDocument_eq_ok_iff.mp hdocument).2)
  refine ⟨last, time, hlast, hlines, hsource, ?_⟩
  dsimp only
  rw [hauthorized]
  rfl

/-- A deactivation in place that has got to its upload has ended the log, and kept the keys. -/
theorem ended_of_writeLog (hX : X.Lawful) {args : UpdateArgs} (hargs : InPlace path args)
    (h : Holds X path did history w) (hne : history ≠ []) (hn : history.length < 2 ^ 32)
    {prepared : Prepared} {written : Option Text} {w₁ w₂ : World}
    (hprepare : prepare X env args w = (.ok prepared, w₁))
    (hsave : writeLog env (prepared.updatedLog X) prepared.loaded.sourcePath args.out args.force
      w₁ = (.ok written, w₂)) :
    written = some path ∧ w₂.files.get path = some (prepared.updatedLog X) ∧
      Ended X path did history w₂ ∧ ∃ text log e,
        w.files.get path = some text ∧ DIDLog.tryFromJsonl X.toCrates text = .ok log ∧
          DIDLog.tryFromJsonl X.toCrates (prepared.updatedLog X) = .ok ⟨log.entries ++ [e]⟩ := by
  obtain ⟨text, log, hfile, hread, hstep, hhistory⟩ :=
    h.inStep (List.getLast?_eq_some_getLast hne) hn
  obtain ⟨_, _, -, -, -, -, harchive, -⟩ := h
  obtain ⟨last, time, hlast, hlines, hsource, hentry⟩ :=
    prepared_of_inStep hargs hfile hread hstep hprepare
  rw [hsource] at hsave
  obtain ⟨rfl, hwritten⟩ := hargs.get_of_writeLog hsave
  have hkeyStore : w₂.keyStore = w.keyStore :=
    ((keeps_writeLog (fun _ => rfl) fun _ _ => rfl).eq hsave).trans
      ((keeps_prepare fun _ => rfl).eq hprepare)
  -- The new entry has the last document, no update keys, and the signature of the last authorized
  -- key.
  let e := NewEntry.asRead X.toSigningCrates last.versionId time parameters
    (Rotate.newDocument X did.toText (history.getLast hne)) (sequenceNumber log.entries.length)
    (history.getLast hne).authorized id
  obtain ⟨hparses, haccepted⟩ : DIDLog.tryFromJsonl X.toCrates (prepared.updatedLog X) =
      .ok ⟨log.entries ++ [e]⟩ ∧ verifyLog X.toCrates ⟨log.entries ++ [e]⟩ did = .ok () := by
    rw [Prepared.updatedLog, hlines, hentry, ← toJson_parameters]
    exact accepted_buildUpdatedLog hX hread hstep.accepted hlast rfl
      (toJson_parameters ▸ plainWithin_newParameters) (Rotate.plainWithin_newDocument did.toText _)
      (Rotate.get_id_newDocument _ _) (hstep.updateKeys ▸ List.mem_singleton.mpr rfl)
  -- Nobody can sign an entry that follows it.
  have hkeys : latestUpdateKeys (log.entries ++ [e]) = [] := latestUpdateKeys_concat _ _
  refine ⟨rfl, hwritten, ⟨prepared.updatedLog X, ⟨log.entries ++ [e]⟩, e, hwritten, hparses,
    haccepted, ?_, List.getLast?_concat, rfl, fun log' haccepted' hprefix => ?_,
    harchive.congr (by rw [hkeyStore])⟩, text, log, e, hfile, hread, hparses⟩
  · rw [List.length_append, hhistory.length]
    rfl
  · exact eq_of_prefix (by simp) haccepted hkeys haccepted' hprefix

/-- A deactivation in place ends the log, and keeps the keys. -/
theorem ended_of_cmdDeactivate (hX : X.Lawful) {args : UpdateArgs} (hargs : InPlace path args)
    (h : Holds X path did history w) (hne : history ≠ []) (hn : history.length < 2 ^ 32)
    {report : Report} (hrun : cmdDeactivate X env args w = (.ok report, w')) :
    Ended X path did history w' := by
  simp only [cmdDeactivate, Command.bind_eq_ok_iff, Command.pure_eq_ok_iff,
    Command.mapError_eq_ok_iff] at hrun
  obtain ⟨prepared, w₁, hprepare, written, w₂, hsave, _, w₃, hpublish, -, rfl⟩ := hrun
  obtain ⟨rfl, -, hended, -⟩ := ended_of_writeLog hX hargs h hne hn hprepare hsave
  have hfiles : w₃.files = w₂.files := Rotate.keeps_publishLog_some.eq hpublish
  have hkeyStore : w₃.keyStore = w₂.keyStore := keeps_publishLog.eq hpublish
  exact hended.congr (by rw [hfiles]) (by rw [hkeyStore])

end Deactivate

/-! ## Runs -/

variable (X path) in
/-- The worlds that the life of a DID reaches, and the number of its entries: it is created in the
file at `path`, and rotated there. In between other files and other entries of the key store may
change in any way. -/
inductive Run (did : DID) : ℕ → World → Prop
  | created {env : Env} {args : CreateArgs} {w w' : World} {report : Create.Report}
      (hordinary : Create.Ordinary X env args w) (hout : args.out = path)
      (hrun : Create.cmdCreate X env args w = (.ok report, w')) (hdid : report.did = did) :
      Run did 1 w'
  | rotated {n : ℕ} {env : Env} {args : RotateArgs} {w w' : World} {report : Rotate.Report}
      (h : Run did n w) (hargs : InPlace path args.toUpdateArgs)
      (hrun : Rotate.cmdRotate X env args w = (.ok report, w')) : Run did (n + 1) w'
  | elsewhere {n : ℕ} {w w' : World} (h : Run did n w)
      (hfile : w'.files.get path = w.files.get path)
      (hkeys : w'.keyStore.get (didToHash X did.toText) = w.keyStore.get (didToHash X did.toText)) :
      Run did n w'

/-- Up to the last number that the key store recognises, every run leaves a log that is accepted,
with one snapshot of the announced keys for each of its entries. -/
theorem exists_holds (hX : X.Lawful) (h : Run X path did n w) (hn : n ≤ 9999) :
    ∃ history, history.length = n ∧ history ≠ [] ∧ Holds X path did history w := by
  induction h with
  | created hordinary hout hrun hdid =>
    obtain ⟨keys, hholds⟩ := Create.holds_of_cmdCreate hX hordinary hrun
    rw [hout, hdid] at hholds
    exact ⟨[keys], rfl, List.cons_ne_nil _ _, hholds⟩
  | rotated _ hargs hrun ih =>
    obtain ⟨history, rfl, hne, hholds⟩ := ih (by omega)
    obtain ⟨prepared, -, -, hholds⟩ := Rotate.holds_of_cmdRotate hX hargs hholds hne (by omega) hrun
    exact ⟨history ++ [prepared.staged], by simp, by simp, hholds⟩
  | elsewhere _ hfile hkeys ih =>
    obtain ⟨history, hlength, hne, hholds⟩ := ih hn
    exact ⟨history, hlength, hne, hholds.congr hfile hkeys⟩

/-- Whatever the order of its steps, the life of a DID leaves a log that is accepted and the keys of
every entry in the snapshot with its number, which are those that the entry announces. -/
theorem holds_of_run (hX : X.Lawful) (h : Run X path did n w) (hn : n ≤ 9999) :
    ∃ history, history.length = n ∧ Holds X path did history w := by
  obtain ⟨history, hlength, -, hholds⟩ := exists_holds hX h hn
  exact ⟨history, hlength, hholds⟩

/-- A deactivation after a run leaves a log that is accepted and that no other log continues, and
the keys of every entry before it. -/
theorem ended_of_run (hX : X.Lawful) (h : Run X path did n w) (hn : n ≤ 9999) {args : UpdateArgs}
    (hargs : InPlace path args) {report : Deactivate.Report}
    (hrun : Deactivate.cmdDeactivate X env args w = (.ok report, w')) :
    ∃ history, history.length = n ∧ Ended X path did history w' := by
  obtain ⟨history, hlength, hne, hholds⟩ := exists_holds hX h hn
  exact ⟨history, hlength, Deactivate.ended_of_cmdDeactivate hX hargs hholds hne (by omega) hrun⟩

/-! ## The life of the sample DID -/

namespace Sample

/-- An environment in which the keys of the sample DID are generated. -/
def creationEnv : Env :=
  { toolEnv (1735689600 + 5) with
    freshEddsa := fun _ => seed
    freshEcdsa := fun n => if n = 1 then authenticationSecret else assertionSecret }

/-- The arguments of its creation. -/
def creationArgs : CreateArgs where
  url := some "https://a.ch"
  out := logPath

/-- A world without files and keys. -/
def blankWorld : World := ⟨∅, ∅, [], 0⟩

/-- The sample DID before its SCID is known. -/
def placeholderDid : DID := ⟨.tdw, none, "a.ch", none, isValidDomain_sample, DID.noPath_valid⟩

/-- Its preliminary entry. -/
def preliminaryEntry : Value :=
  Create.preliminary toolCrates .tdw03 createdKeys placeholderDid "2025-01-01T00:00:00Z"

/-- The world in which it has been created. -/
def bornWorld : World := (Create.cmdCreate toolCrates creationEnv creationArgs).after blankWorld

theorem isPlainUrl_sample : Create.IsPlainUrl "https://a.ch" where
  chars := by
    have hall : ∀ c ∈ Text.lit "https://a.ch", c ≠ '{' ∧ Text.isWhitespace c = false :=
      Text.forall_mem_of_all (by decide)
    exact hall
  port := ⟨"a.ch", rfl, by decide⟩

/-- The sample DID is drafted in one way. -/
theorem eq_of_drafts {prelim : Value}
    (h : Create.Drafts toolCrates creationEnv creationArgs blankWorld prelim) :
    prelim = preliminaryEntry := by
  have hcomponents : Create.urlToDidComponents "https://a.ch" = .ok (Text.lit "a.ch", none) := by
    decide
  have hkeys : Create.prepareKeys toolCrates creationEnv creationArgs blankWorld =
      (.ok createdKeys, blankWorld.ticked.ticked.ticked) := by decide +kernel
  have hplaceholder : Create.buildDid .tdw03 none "a.ch" none = .ok placeholderDid := by decide
  have hnow : (Create.nowIso8601 toolCrates creationEnv : CreateCommand Text)
      blankWorld.ticked.ticked.ticked =
        (.ok (Text.lit "2025-01-01T00:00:00Z"), blankWorld.ticked.ticked.ticked.ticked) := by
    decide +kernel
  exact h.eq rfl hcomponents hkeys hplaceholder hnow

/-- The SCID of the sample DID is in the entry only where the placeholder is. -/
theorem occursOnlyAt_preliminaryEntry : Text.OccursOnlyAt scidPlaceholder
    (deriveScid toolCrates.toCrates preliminaryEntry) (preliminaryEntry.print toolCrates.f64) := by
  decide +kernel

theorem ordinary_sample : Create.Ordinary toolCrates creationEnv creationArgs blankWorld where
  format := rfl
  url h := by
    obtain rfl := (Prod.mk.inj (Except.ok.inj (Prod.mk.inj h).1)).1
    exact isPlainUrl_sample
  scid h := by
    rw [eq_of_drafts h]
    exact occursOnlyAt_preliminaryEntry

/-- The sample DID is created. -/
theorem run_bornWorld : Run toolCrates logPath toolDid 1 bornWorld := by
  have hcreated : ∃ report ∈
      (Create.cmdCreate toolCrates creationEnv creationArgs blankWorld).1.toOption,
      report.did = toolDid := by decide +kernel
  obtain ⟨report, hreport, hdid⟩ := hcreated
  exact .created ordinary_sample rfl
    (Command.eq_ok_after (Except.toOption_eq_some_iff.mp hreport)) hdid

/-- The world in which its assertion key has been rotated. -/
def rotatedWorld : World :=
  (Rotate.cmdRotate toolCrates rotationEnv rotationArgs).after bornWorld

theorem inPlace_rotationArgs : InPlace logPath rotationArgs.toUpdateArgs := ⟨rfl, rfl, .inl rfl⟩

/-- The sample DID is created, and then its assertion key is rotated. -/
theorem run_rotatedWorld : Run toolCrates logPath toolDid 2 rotatedWorld := by
  have hrotated : (Rotate.cmdRotate toolCrates rotationEnv rotationArgs
      bornWorld).1.toOption.isSome := by decide +kernel
  obtain ⟨report, hreport⟩ := Option.isSome_iff_exists.mp hrotated
  exact .rotated run_bornWorld inPlace_rotationArgs
    (Command.eq_ok_after (Except.toOption_eq_some_iff.mp hreport))

/-- After the rotation the log and both snapshots are there. -/
theorem holds_rotatedWorld : ∃ history, history.length = 2 ∧
    Holds toolCrates logPath toolDid history rotatedWorld :=
  holds_of_run lawful_toolCrates run_rotatedWorld (by decide)

/-- An environment in which the DID is deactivated on the day after. -/
def finalEnv : Env := toolEnv (1735948800 + 5)

/-- The sample DID is created, rotated and deactivated. -/
theorem ended_rotatedWorld : ∃ history w', history.length = 2 ∧
    Ended toolCrates logPath toolDid history w' := by
  have hdeactivated : (Deactivate.cmdDeactivate toolCrates finalEnv rotationArgs.toUpdateArgs
      rotatedWorld).1.toOption.isSome := by decide +kernel
  obtain ⟨report, hreport⟩ := Option.isSome_iff_exists.mp hdeactivated
  obtain ⟨history, hended⟩ := ended_of_run lawful_toolCrates run_rotatedWorld (by decide)
    inPlace_rotationArgs (Command.eq_ok_of_fst_eq (Except.toOption_eq_some_iff.mp hreport))
  exact ⟨history, _, hended⟩

end Sample

end Swiyu
