import Swiyu.Didtool.Cmd.Did.Salvaged

/-!
# Announced keys

An entry announces its keys as soon as it is in a log that persists. Creation and rotation write the
log before they write the keys, which until then are in memory only: when the tool stops in between,
a log announces keys that nobody has.

## Main definitions

- `Swiyu.World.Announces`: a log that persists has the entry.
- `Swiyu.Rotate.KeysKept`, `Swiyu.Create.KeysKept`: if a log has the entry, its keys can be read.
- `Swiyu.Rotate.KeysSafe`, `Swiyu.Create.KeysSafe`: no operation fails that loses a key.

## Main results

- `Swiyu.keysKept_iff`: the keys that are announced can be read exactly when they are safe.
-/

namespace Swiyu

variable {X : ToolCrates} {env : Env} {w w₁ w' : World}

/-- The entry is in one of the files, or in a log that has been uploaded. -/
def World.Announces (w : World) (names : Set Text) (entry : Text) : Prop :=
  (∃ path ∈ names, ∃ text, w.files.get path = some text ∧ entry <:+: text) ∨
    ∃ p ∈ w.published, entry <:+: p.body

theorem World.Announces.congr {names : Set Text} {entry : Text}
    (hfiles : ∀ path ∈ names, w'.files.get path = w.files.get path)
    (hpublished : w'.published = w.published) :
    w'.Announces names entry ↔ w.Announces names entry := by
  unfold Announces
  rw [hpublished]
  refine or_congr_left (exists_congr fun path => and_congr_right fun hpath => ?_)
  rw [hfiles path hpath]

/-! ## Rotation -/

namespace Rotate

variable {args : RotateArgs} {prepared : Prepared}

/-- The files that may have the new entry: the one that the log goes to, and the one that it comes
from. -/
def announcing (args : RotateArgs) : Set Text :=
  { path | args.out = some path ∨ sourceFile args.toUpdateArgs = some path }

variable (X) in
/-- The new entry is in one of these files, or in a registry. -/
def Announced (args : RotateArgs) (prepared : Prepared) (w : World) : Prop :=
  w.Announces (announcing args) (prepared.newLine X)

variable (X) in
/-- If the new entry is announced, the private keys for it can be read. -/
def KeysKept (args : RotateArgs) (prepared : Prepared) (w : World) : Prop :=
  Announced X args prepared w → KeysReadable X prepared.signer.did prepared.staged w

variable (X env) in
/-- A log that is stored in a file, or has the entry already, is followed by its keys: each one is
in a file of an earlier snapshot, or in the one that its write leaves. When the log cannot be
stored, but the entry is in what was there before or in what is left, all keys are those of earlier
snapshots. -/
structure KeysSafe (args : RotateArgs) (prepared : Prepared) (w : World) : Prop where
  stored : LogStored env (sourceFile args.toUpdateArgs) args.out args.force (writeTick args w) w →
    (args.out.or (sourceFile args.toUpdateArgs)).isSome = true ∨ Announced X args prepared w →
    ∀ role, KeyLeft X w prepared.signer.entry.hash (snapshotName (prepared.signer.version + 1))
      (FileLeft X env prepared.signer.entry.hash prepared.staged
        (writeTick args w + (logOperations (sourceFile args.toUpdateArgs) args.out).length)
        (keyFileName role true))
      role (prepared.staged.key role)
  unstored :
    ¬ LogStored env (sourceFile args.toUpdateArgs) args.out args.force (writeTick args w) w →
    Announced X args prepared
      (w.unstored env (prepared.updatedLog X) args.out args.force (writeTick args w)) →
    ∀ role, ∃ n,
      storedKey X w prepared.signer.entry.hash n role = some (prepared.staged.key role)

theorem infix_updatedLog (prepared : Prepared) : prepared.newLine X <:+: prepared.updatedLog X :=
  List.infix_append _ _ _

/-- Wherever a rotation stops, the keys that it has announced can be read exactly when they are
safe. -/
theorem keysKept_iff_safe (hX : X.Lawful) {r : Except RotateError Report}
    (hprepare : prepare X env args w = (.ok prepared, w₁))
    (hrun : cmdRotate X env args w = (r, w')) :
    KeysKept X args prepared w' ↔ KeysSafe X env args prepared w := by
  -- The preparation changes nothing but the tick.
  obtain ⟨htick, hsource⟩ := steps_prepare hprepare
  obtain ⟨hhash, havailable⟩ := signerAvailable_of_prepare hprepare
  obtain ⟨hfiles₁, hkeyStore₁, hpublished₁⟩ :=
    World.data_eq_iff.mp ((keeps_prepare (f := World.data) fun _ => rfl).eq hprepare)
  obtain ⟨dir, recorded, hdir, htxt, htrim, hnumber⟩ := havailable.entry
  rw [← hhash] at hdir
  have hwrite {r : Except RotateError (Option Text)} {w₂ : World}
      (hsave : save X env args prepared w₁ = (r, w₂)) :
      w₂.keyStore = w.keyStore ∧ w₂.published = w.published :=
    ⟨(Command.Keeps.eq (.mapError (keeps_writeLog (fun _ => rfl) fun _ _ => rfl)) hsave).trans
        hkeyStore₁,
      (Command.Keeps.eq (.mapError (keeps_writeLog (fun _ => rfl) fun _ _ => rfl)) hsave).trans
        hpublished₁⟩
  rcases cases_cmdRotate hprepare hrun with ⟨e, hsave⟩ | ⟨path, w₂, hsave, hadd⟩
  · -- The tool stops before it adds a snapshot.
    obtain ⟨hstored, hleft⟩ := triple_writeLog.mapError.2 _ _ hsave
    obtain ⟨hkeyStore, hpublished⟩ := hwrite hsave
    rw [htick, hsource, LogStored.congr hfiles₁] at hstored
    -- Only what the failed write has left in the file can announce the keys.
    have hannounced : Announced X args prepared w' ↔ Announced X args prepared
        (w.unstored env (prepared.updatedLog X) args.out args.force (writeTick args w)) := by
      refine World.Announces.congr (fun p hp => ?_) (hpublished.trans World.published_unstored.symm)
      rw [← World.files_unstored hfiles₁, ← htick]
      rw [hsource] at hleft
      exact hleft p hp
    -- The key store is as it was, so the keys are readable when they are those of earlier
    -- snapshots.
    have hreadable : KeysReadable X prepared.signer.did prepared.staged w' ↔ ∀ role, ∃ n,
        storedKey X w prepared.signer.entry.hash n role = some (prepared.staged.key role) := by
      rw [KeysReadable.congr hkeyStore, KeysReadable, ← hhash]
      refine and_iff_right ⟨recorded, ?_, htrim⟩
      rw [World.didTxt, hdir, Option.bind_some, htxt]
    unfold KeysKept
    rw [hannounced, hreadable]
    exact ⟨fun h => ⟨fun hlog => absurd hlog hstored, fun _ => h⟩, fun h => h.unstored hstored⟩
  · obtain ⟨hstored, hpath, hlength, hget, hsame⟩ := triple_writeLog.mapError.1 _ _ hsave
    obtain ⟨hkeyStore, hpublished⟩ := hwrite hsave
    rw [htick, hsource, LogStored.congr hfiles₁] at hstored
    rw [htick, hsource] at hlength
    rw [hsource] at hpath
    have hdir₂ : w₂.keyStore.get prepared.signer.entry.hash = some dir := by
      rw [hkeyStore, hdir]
    -- What is read afterwards is what the snapshot is left with.
    have hreadable {r : Except KeyStoreError ℕ} {w₃ : World}
        (hadd : prepared.signer.entry.addVersion X env prepared.staged w₂ = (r, w₃)) :=
      keysReadable_addVersion_iff hhash hdir₂ htxt htrim hnumber hadd
    simp only [hlength, KeyLeft.congr hkeyStore] at hreadable
    rcases hadd with ⟨e, hadd⟩ | ⟨n, w₃, uploaded, hadd, hpublish, -⟩
    · -- The snapshot is not completed, and nothing is uploaded.
      have hfiles : w'.files = w₂.files := (keeps_addVersion (fun _ => rfl) fun _ _ => rfl).eq hadd
      have hpublished' : w'.published = w₂.published :=
        (keeps_addVersion (fun _ => rfl) fun _ _ => rfl).eq hadd
      have hannounced : Announced X args prepared w' ↔
          (args.out.or (sourceFile args.toUpdateArgs)).isSome = true ∨
            Announced X args prepared w := by
        rw [← hpath]
        cases path with
        | some path =>
          refine iff_of_true (.inl ⟨path, ?_, _, ?_, infix_updatedLog prepared⟩) (.inl rfl)
          · exact (Option.or_eq_some_iff.mp hpath.symm).imp_right And.right
          · rw [hfiles, hget path rfl]
        | none =>
          -- The log is in memory only.
          rw [hsame rfl] at hfiles
          rw [Option.isSome_none, or_iff_right Bool.false_ne_true]
          exact World.Announces.congr (fun p _ => by rw [hfiles, hfiles₁])
            (hpublished'.trans hpublished)
      unfold KeysKept
      rw [hannounced, hreadable hadd]
      exact ⟨fun h => ⟨fun _ => h, fun hlog => absurd hstored hlog⟩, fun h => h.stored hstored⟩
    · -- All keys are there, whatever becomes of the upload.
      have hall : KeysReadable X prepared.signer.did prepared.staged w₃ :=
        keysReadable_of_addVersion hX hhash hdir₂ htxt htrim hadd
      have hend : w'.keyStore = w₃.keyStore := by
        have hkeeps : (publish X env args prepared path).Keeps World.keyStore :=
          .mapError keeps_publishLog
        exact hkeeps.eq hpublish
      refine iff_of_true (fun _ => (KeysReadable.congr hend).mpr hall) ⟨fun _ _ => ?_, fun h => ?_⟩
      · exact (hreadable hadd).mp hall
      · exact absurd hstored h

end Rotate

/-! ## Creation -/

namespace Create

variable {args : CreateArgs} {prepared : Prepared}

variable (X) in
/-- The new entry is in the file that the log goes to, or in a registry. -/
def Announced (args : CreateArgs) (prepared : Prepared) (w : World) : Prop :=
  w.Announces {args.out} (prepared.genesis.value.print X.f64)

variable (X) in
/-- If the new entry is announced, the private keys for it can be read. -/
def KeysKept (args : CreateArgs) (prepared : Prepared) (w : World) : Prop :=
  Announced X args prepared w → KeysReadable X prepared.genesis.did prepared.staged w

variable (X env) in
/-- A log that is stored is followed by its keys: they can be read already, or the commit leaves
them. When the log cannot be stored, but the entry is in what was there before or in what is left,
they can be read already. -/
structure KeysSafe (args : CreateArgs) (prepared : Prepared) (w : World) : Prop where
  stored : env.fault (writeTick args w) (.writeFile args.out) = none →
    KeysReadable X prepared.genesis.did prepared.staged w ∨
      CommitLeaves X env prepared.genesis.did prepared.staged (writeTick args w + 1) w
  unstored : env.fault (writeTick args w) (.writeFile args.out) ≠ none →
    Announced X args prepared
      (w.unstored env (prepared.genesis.line X) (some args.out) true (writeTick args w)) →
    KeysReadable X prepared.genesis.did prepared.staged w

theorem keeps_publish {γ : Type} {f : World → γ} (hf : ∀ w, f w.ticked = f w)
    (hpublished : ∀ p w, f (Os.putPublication p w) = f w) :
    (publish X env args prepared).Keeps f := by
  unfold publish
  cases prepared.space with
  | none => exact .pure
  | some space =>
    cases args.noPublish with
    | true => exact .pure
    | false => exact .bind (.mapError (Os.keeps_publish hf (hpublished _))) fun _ => .pure

/-- Wherever a creation stops, the keys that it has announced can be read exactly when they are
safe. -/
theorem keysKept_iff_safe (hX : X.Lawful) {r : Except CreateError Report}
    (hprepare : prepare X env args w = (.ok prepared, w₁))
    (hrun : cmdCreate X env args w = (r, w')) :
    KeysKept X args prepared w' ↔ KeysSafe X env args prepared w := by
  -- The preparation changes nothing but the tick.
  have htick := tick_prepare hprepare
  obtain ⟨hfiles₁, hkeyStore₁, hpublished₁⟩ :=
    World.data_eq_iff.mp ((keeps_prepare (f := World.data) fun _ => rfl).eq hprepare)
  rcases cases_cmdCreate hprepare hrun with ⟨e, hsave⟩ | ⟨w₂, r', w₃, hsave, hcommit, hend⟩
  · -- The tool stops before it commits the keys.
    obtain ⟨f, hfault, hw'⟩ := Os.triple_writing.mapError.2 _ _ hsave
    rw [htick] at hfault
    have hleft : env.left (writeTick args w) (.writeFile args.out) (prepared.genesis.line X) =
        f.leaves := by
      rw [Env.left, hfault]
    have hannounced : Announced X args prepared w' ↔ Announced X args prepared
        (w.unstored env (prepared.genesis.line X) (some args.out) true (writeTick args w)) := by
      refine World.Announces.congr (fun p _ => ?_) ?_
      · rw [← World.files_unstored hfiles₁, hw', World.unstored, hleft, if_neg (by simp)]
        cases f.leaves <;> rfl
      · rw [World.published_unstored, ← hpublished₁, hw']
        cases f.leaves <;> rfl
    have hkeyStore : w'.keyStore = w.keyStore := by
      rw [← hkeyStore₁, hw']
      cases f.leaves <;> rfl
    have hfailed : env.fault (writeTick args w) (.writeFile args.out) ≠ none := by
      rw [hfault]
      exact Option.some_ne_none f
    unfold KeysKept
    rw [hannounced, KeysReadable.congr hkeyStore]
    exact ⟨fun h => ⟨fun hnone => absurd hnone hfailed, fun _ => h⟩, fun h => h.unstored hfailed⟩
  · -- The genesis entry is in its file, whatever comes later, so its keys are announced.
    obtain ⟨rfl, hfault⟩ := Os.triple_writing.mapError.1 _ _ hsave
    rw [htick] at hfault
    have hreadable := keysReadable_commit_iff hX hcommit
    have hfiles : w₃.files = (Os.putFile args.out (prepared.genesis.line X) w₁.ticked).files :=
      (keeps_commit (fun _ => rfl) fun _ _ => rfl).eq hcommit
    -- The upload leaves both alone.
    have hsame : w'.keyStore = w₃.keyStore ∧ w'.files = w₃.files := by
      rcases hend with rfl | ⟨uploaded, hpublish⟩
      · exact ⟨rfl, rfl⟩
      · exact ⟨(keeps_publish (fun _ => rfl) fun _ _ => rfl).eq hpublish,
          (keeps_publish (fun _ => rfl) fun _ _ => rfl).eq hpublish⟩
    have hannounced : Announced X args prepared w' := by
      refine .inl ⟨args.out, rfl, prepared.genesis.line X, ?_, [], ['\n'], rfl⟩
      rw [hsame.2, hfiles]
      show (w₁.files.insert args.out _).get args.out = _
      rw [OrdMap.get_insert, if_pos rfl]
    -- The commit begins at the tick after the write, in the key store that was there before.
    have hcommitTick : (Os.putFile args.out (prepared.genesis.line X) w₁.ticked).tick =
        writeTick args w + 1 := congrArg (· + 1) htick
    have hkeyStore : (Os.putFile args.out (prepared.genesis.line X) w₁.ticked).keyStore =
        w.keyStore := hkeyStore₁
    rw [hcommitTick, KeysReadable.congr hkeyStore, CommitLeaves.congr hkeyStore] at hreadable
    unfold KeysKept
    rw [imp_iff_right hannounced, KeysReadable.congr hsame.1, hreadable]
    exact ⟨fun h => ⟨fun _ => h, fun hfailed => absurd hfault hfailed⟩, fun h => h.stored hfault⟩

end Create

/-- Wherever a rotation or a creation stops, the keys of the new entry can be read, once a log has
this entry, exactly when no operation fails that loses one. -/
theorem keysKept_iff (hX : X.Lawful) :
    (∀ (env : Env) (args : RotateArgs) (w w₁ w' : World) prepared r,
      Rotate.prepare X env args w = (.ok prepared, w₁) → Rotate.cmdRotate X env args w = (r, w') →
        (Rotate.KeysKept X args prepared w' ↔ Rotate.KeysSafe X env args prepared w)) ∧
    ∀ (env : Env) (args : CreateArgs) (w w₁ w' : World) prepared r,
      Create.prepare X env args w = (.ok prepared, w₁) → Create.cmdCreate X env args w = (r, w') →
        (Create.KeysKept X args prepared w' ↔ Create.KeysSafe X env args prepared w) :=
  ⟨fun _ _ _ _ _ _ _ => Rotate.keysKept_iff_safe hX,
    fun _ _ _ _ _ _ _ => Create.keysKept_iff_safe hX⟩

/-! ## A full disk -/

namespace Sample

/-- No operation writes to the directory of the sample DID. -/
def fullFault (op : Operation) : Option Fault :=
  if op = .writeKeyStore (didToHash toolCrates toolDid.toText) then
    some ⟨"No space left on device", none⟩
  else none

/-- An environment in which there is no space left for keys. -/
def fullEnv : Env := { rotationEnv with fault := fun _ => fullFault }

/-- There are no private keys but those of the first snapshot. -/
theorem storedKey_createdWorld {n : ℕ} {role : KeyRole} {key : FixedBytes 32}
    (h : storedKey toolCrates createdWorld (didToHash toolCrates toolDid.toText) n role =
      some key) : key = createdKeys.key role := by
  by_cases hn : n = 1
  · rw [hn] at h
    exact Option.some.inj (h.symm.trans ((stored_worldOf createdText).key role))
  · obtain ⟨pem, hpem, -⟩ := storedKey_eq_some_iff.mp h
    have hname : snapshotName n ≠ Text.lit "0001" := fun hname => hn (snapshotName_injective hname)
    simp [Os.keyFile, createdWorld, worldOf, OrdMap.ofList, hname] at hpem

/-- The log is stored, but there is no directory for the new assertion key. -/
theorem not_keysSafe_full {prepared : Rotate.Prepared}
    (hhash : prepared.signer.entry.hash = didToHash toolCrates toolDid.toText)
    (hkey : prepared.staged.assertion = rotatedSecret) :
    ¬ Rotate.KeysSafe toolCrates fullEnv rotationArgs prepared createdWorld := by
  intro h
  have hlog : LogStored fullEnv (sourceFile rotationArgs.toUpdateArgs) rotationArgs.out
      rotationArgs.force (Rotate.writeTick rotationArgs createdWorld) createdWorld :=
    logStored_source_iff.mpr ⟨rfl, rfl⟩
  have hleft := h.stored hlog (.inl rfl) .assertion
  rw [hhash, keyLeft_iff_of_forall_not] at hleft
  · obtain ⟨n, hn⟩ := hleft
    exact absurd ((storedKey_createdWorld hn).symm.trans hkey) (by decide +kernel)
  · intro text hfile
    have hfault := hfile.2.1
    simp [fullEnv, fullFault] at hfault

/-- A rotation on a full disk. -/
theorem exists_full : ∃ prepared w₁ r w',
    Rotate.prepare toolCrates fullEnv rotationArgs createdWorld = (.ok prepared, w₁) ∧
      Rotate.cmdRotate toolCrates fullEnv rotationArgs createdWorld = (r, w') ∧
      prepared.signer.entry.hash = didToHash toolCrates toolDid.toText ∧
      prepared.staged.assertion = rotatedSecret := by
  have hrun : ∃ prepared ∈
      (Rotate.prepare toolCrates fullEnv rotationArgs createdWorld).1.toOption,
      prepared.signer.entry.hash = didToHash toolCrates toolDid.toText ∧
        prepared.staged.assertion = rotatedSecret := by
    decide +kernel
  obtain ⟨prepared, hprepared, hstaged⟩ := hrun
  have hprepare := Command.eq_ok_of_fst_eq (Except.toOption_eq_some_iff.mp hprepared)
  rcases hrun : Rotate.cmdRotate toolCrates fullEnv rotationArgs createdWorld with ⟨r, w'⟩
  exact ⟨prepared, _, r, w', hprepare, rfl, hstaged⟩

/-- On a full disk the new assertion key is lost. -/
theorem keysKept_full : ∃ prepared w₁ r w',
    Rotate.prepare toolCrates fullEnv rotationArgs createdWorld = (.ok prepared, w₁) ∧
      Rotate.cmdRotate toolCrates fullEnv rotationArgs createdWorld = (r, w') ∧
      ¬ Rotate.KeysKept toolCrates rotationArgs prepared w' := by
  obtain ⟨prepared, w₁, r, w', hprepare, hrun, hhash, hkey⟩ := exists_full
  refine ⟨prepared, w₁, r, w', hprepare, hrun, fun h => not_keysSafe_full hhash hkey ?_⟩
  exact ((keysKept_iff lawful_toolCrates).1 _ _ _ _ _ _ _ hprepare hrun).mp h

/-- A key that has been announced may be lost. -/
theorem not_keysKept_full : ¬ ∀ (env : Env) (args : RotateArgs) (w w₁ w' : World) prepared r,
    Rotate.prepare toolCrates env args w = (.ok prepared, w₁) →
    Rotate.cmdRotate toolCrates env args w = (r, w') →
      Rotate.KeysKept toolCrates args prepared w' := by
  intro h
  obtain ⟨prepared, w₁, r, w', hprepare, hrun, hhash, hkey⟩ := exists_full
  have hkept := h _ _ _ _ _ _ _ hprepare hrun
  exact not_keysSafe_full hhash hkey
    ((Rotate.keysKept_iff_safe lawful_toolCrates hprepare hrun).mp hkept)

end Sample

end Swiyu
