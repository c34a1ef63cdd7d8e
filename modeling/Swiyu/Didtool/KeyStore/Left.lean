import Swiyu.Didtool.KeyStore.Isolation

/-!
# The keys that a stopped write leaves

The six files of a snapshot are written one after the other, and the tool may stop at any of them. A
private key can be read afterwards when its file is among those that are left. The keys of a new DID
can be read only when its `did.txt` is there as well, which is written last.

## Main definitions

- `Swiyu.KeysReadable`: all private keys of a DID can be read from the key store.
- `Swiyu.FileLeft`: what a file of a snapshot is left with, wherever the writes stop.
- `Swiyu.KeyLeft`: a private key can be read once its file has been written, or has not been.
- `Swiyu.SnapshotWritten`: all keys are written.
- `Swiyu.CommitLeaves`: a new DID is recorded with its keys.

## Main results

- `Swiyu.keysReadable_addVersion_iff`: the keys after another snapshot, complete or not.
- `Swiyu.keysReadable_commit_iff`: the keys after a first snapshot.
-/

namespace Swiyu

variable {X : ToolCrates} {env : Env} {w w' : World} {did : DID} {staged : StagedKeys}

variable (X) in
/-- The key store finds the entry of the DID, and each private key is in one of its snapshots. -/
def KeysReadable (did : DID) (staged : StagedKeys) (w : World) : Prop :=
  (∃ stored, w.didTxt (didToHash X did.toText) = some stored ∧ Text.trim stored = did.toText) ∧
    ∀ role, ∃ n, storedKey X w (didToHash X did.toText) n role = some (staged.key role)

theorem KeysReadable.congr (h : w'.keyStore = w.keyStore) :
    KeysReadable X did staged w' ↔ KeysReadable X did staged w := by
  unfold KeysReadable World.didTxt storedKey Os.keyFile
  rw [h]

/-! ## More files in a snapshot -/

variable (X) in
/-- When the file of a private key in a snapshot is left with one of these texts, or with what was
there before, the key is in it or in the file of another snapshot. -/
def KeyLeft (w : World) (hash snapshot : Text) (left : Text → Prop) (role : KeyRole)
    (key : FixedBytes 32) : Prop :=
  ∃ pem, parsePrivateKey X role pem = .ok key ∧ (left pem ∨
    ∃ n, Os.keyFile w hash (snapshotName n) (keyFileName role true) = some pem ∧
      (snapshotName n = snapshot → ∀ text, ¬ left text))

variable {hash : Text} {role : KeyRole} {key : FixedBytes 32}

theorem KeyLeft.congr {snapshot : Text} {left : Text → Prop} (h : w'.keyStore = w.keyStore) :
    KeyLeft X w' hash snapshot left role key ↔ KeyLeft X w hash snapshot left role key := by
  unfold KeyLeft Os.keyFile
  rw [h]

/-- When no file is written, the key has to be there already. -/
theorem keyLeft_iff_of_forall_not {snapshot : Text} {left : Text → Prop} (h : ∀ text, ¬ left text) :
    KeyLeft X w hash snapshot left role key ↔ ∃ n, storedKey X w hash n role = some key := by
  unfold KeyLeft
  simp only [storedKey_eq_some_iff, h, false_or, not_false_eq_true, implies_true, and_true]
  constructor
  · rintro ⟨pem, hparse, n, hpem⟩
    exact ⟨n, pem, hpem, hparse⟩
  · rintro ⟨n, pem, hpem, hparse⟩
    exact ⟨pem, hparse, n, hpem⟩

/-- A private key can be read after files have been put into a snapshot exactly when it is left. -/
theorem exists_storedKey_iff {dir : EntryDir} {k : ℕ} {files : List (Text × Text)}
    {left : Text → Prop} (hdir : w.keyStore.get hash = some dir)
    (hdir' : w'.keyStore.get hash = some (dir.withFiles (snapshotName k) files))
    (hnames : (files.map Prod.fst).Nodup)
    (hleft : ∀ text, left text ↔ (keyFileName role true, text) ∈ files) :
    (∃ n, storedKey X w' hash n role = some key) ↔
      KeyLeft X w hash (snapshotName k) left role key := by
  have hname : keyFileName role true ∈ files.map Prod.fst ↔ ∃ text, left text := by
    simp [hleft]
  simp only [storedKey_eq_some_iff]
  constructor
  · rintro ⟨n, pem, hpem, hparse⟩
    refine ⟨pem, hparse, ?_⟩
    by_cases hwritten : snapshotName n = snapshotName k ∧ ∃ text, left text
    · -- The file is one of those that have been written.
      obtain ⟨hn, text, htext⟩ := hwritten
      rw [hn, keyFile_of_mem hdir' hnames ((hleft text).mp htext)] at hpem
      obtain rfl := Option.some.inj hpem
      exact .inl htext
    · refine .inr ⟨n, ?_, fun hn text htext => hwritten ⟨hn, text, htext⟩⟩
      rw [← hpem]
      by_cases hn : snapshotName n = snapshotName k
      · rw [hn]
        refine (keyFile_withFiles_of_notMem hdir hdir' hnames fun h => hwritten ⟨hn, ?_⟩).symm
        exact hname.mp h
      · exact (keyFile_withFiles_of_ne hdir hdir' hn).symm
  · -- What is left can be read, and other snapshots are as they were.
    rintro ⟨pem, hparse, hcases⟩
    rcases hcases with hmem | ⟨n, hpem, hkept⟩
    · exact ⟨k, pem, keyFile_of_mem hdir' hnames ((hleft pem).mp hmem), hparse⟩
    · refine ⟨n, pem, ?_, hparse⟩
      rw [← hpem]
      by_cases hn : snapshotName n = snapshotName k
      · rw [hn]
        refine keyFile_withFiles_of_notMem hdir hdir' hnames fun h => ?_
        obtain ⟨text, htext⟩ := hname.mp h
        exact hkept hn text htext
      · exact keyFile_withFiles_of_ne hdir hdir' hn

/-! ## Snapshots that are complete -/

/-- Key files are written when there is a text for each of them and nothing fails. -/
theorem exists_writePems_iff {snapshot : Text} {files : List KeyFile} :
    (∃ w', writePems env hash snapshot files w = (.ok (), w')) ↔
      (∀ file ∈ files, ∃ pem, file.pem = .ok pem) ∧
        ∀ i < files.length, env.fault (w.tick + i) (.writeKeyStore hash) = none := by
  -- The first file is written at the tick of the world, the others after it.
  induction files generalizing w with
  | nil => exact iff_of_true ⟨w, rfl⟩ ⟨by simp, by simp⟩
  | cons file files ih =>
    simp only [writePems, writePem, Os.writeKeyFile, Command.bind_eq_ok_iff,
      Command.ofExcept_eq_ok_iff, Command.mapError_eq_ok_iff, Except.mapError_eq_ok_iff,
      Os.writing_eq_ok_iff, List.forall_mem_cons, List.length_cons, Nat.forall_lt_succ_left]
    constructor
    · rintro ⟨w', _, w₁, hfirst, hrest⟩
      obtain ⟨pem, _, ⟨hpem, rfl⟩, hfault, rfl⟩ := hfirst
      obtain ⟨hpems, hfaults⟩ := ih.mp ⟨w', hrest⟩
      refine ⟨⟨⟨pem, hpem⟩, hpems⟩, hfault, fun i hi => ?_⟩
      rw [← Nat.add_assoc, Nat.add_right_comm]
      exact hfaults i hi
    · rintro ⟨⟨⟨pem, hpem⟩, hpems⟩, hfault, hfaults⟩
      obtain ⟨w', hrest⟩ := (ih (w := Os.putKeyFile hash snapshot file.name pem w.ticked)).mpr
        ⟨hpems, fun i hi => by
          show env.fault (w.tick + 1 + i) _ = none
          rw [Nat.add_right_comm, Nat.add_assoc]
          exact hfaults i hi⟩
      exact ⟨w', (), _, ⟨pem, w, ⟨hpem, rfl⟩, hfault, rfl⟩, hrest⟩

/-- A snapshot is written when there is a text for each of its files and nothing fails. -/
theorem exists_writeKeys_iff {snapshot : Text} :
    (∃ w', writeKeys X env hash snapshot staged w = (.ok (), w')) ↔
      (∀ file ∈ staged.keyFiles X, ∃ pem, file.pem = .ok pem) ∧
        ∀ i < 7, env.fault (w.tick + i) (.writeKeyStore hash) = none := by
  have hlength : 7 = (staged.keyFiles X).length + 1 := rfl
  rw [writeKeys_eq, hlength, Nat.forall_lt_succ_left]
  simp only [Os.createSnapshotDir, Command.bind_eq_ok_iff, Command.mapError_eq_ok_iff,
    Os.writing_eq_ok_iff]
  -- The directory takes the first tick, and the files those after it.
  have hshift (i : ℕ) : w.tick + 1 + i = w.tick + (i + 1) := by omega
  constructor
  · rintro ⟨w', _, w₁, hfirst, hrest⟩
    obtain ⟨hfault, rfl⟩ := hfirst
    obtain ⟨hpems, hfaults⟩ := exists_writePems_iff.mp ⟨w', hrest⟩
    refine ⟨hpems, hfault, fun i hi => ?_⟩
    rw [← hshift]
    exact hfaults i hi
  · rintro ⟨hpems, hfault, hfaults⟩
    obtain ⟨w', hrest⟩ := (exists_writePems_iff (w := Os.updateDir hash
      (fun dir => dir.updateSnapshot snapshot id) w.ticked)).mpr ⟨hpems, fun i hi => by
        show env.fault (w.tick + 1 + i) _ = none
        rw [hshift]
        exact hfaults i hi⟩
    exact ⟨w', (), _, ⟨hfault, rfl⟩, hrest⟩

variable (X env) in
/-- A snapshot that is begun at a tick is written: the entry is listed, each key has a text, and
nothing fails. -/
structure SnapshotWritten (hash : Text) (staged : StagedKeys) (tick : ℕ) : Prop where
  listed : env.fault tick (.readKeyStore hash) = none
  pem : ∀ file ∈ staged.keyFiles X, ∃ pem, file.pem = .ok pem
  fault : ∀ i < 7, env.fault (tick + 1 + i) (.writeKeyStore hash) = none

/-- Another snapshot is added exactly when it is written. -/
theorem KeyStoreEntry.exists_addVersion_iff {entry : KeyStoreEntry} {m : ℕ}
    (hnumber : (w.keyStore.get entry.hash).bind EntryDir.latestNumber = some m) :
    (∃ n w', entry.addVersion X env staged w = (.ok n, w')) ↔
      SnapshotWritten X env entry.hash staged w.tick := by
  simp only [addVersion, Command.bind_eq_ok_iff, Command.pure_eq_ok_iff, latestVersion_eq_ok_iff]
  constructor
  · rintro ⟨_, _, _, _, ⟨hlisted, -, rfl⟩, _, w₂, hwrite, -⟩
    obtain ⟨hpem, hfault⟩ := exists_writeKeys_iff.mp ⟨w₂, hwrite⟩
    exact ⟨hlisted, hpem, hfault⟩
  · intro h
    obtain ⟨w₂, hwrite⟩ := exists_writeKeys_iff (w := w.ticked).mpr ⟨h.pem, h.fault⟩
    exact ⟨_, _, m, _, ⟨h.listed, hnumber, rfl⟩, (), w₂, hwrite, rfl, rfl⟩

/-- A snapshot takes eight operations. -/
theorem KeyStoreEntry.tick_addVersion {entry : KeyStoreEntry} {n : ℕ}
    (h : entry.addVersion X env staged w = (.ok n, w')) : w'.tick = w.tick + 8 := by
  simp only [addVersion, Command.bind_eq_ok_iff, Command.pure_eq_ok_iff,
    latestVersion_eq_ok_iff] at h
  obtain ⟨_, _, ⟨-, -, rfl⟩, _, w₂, hwrite, -, rfl⟩ := h
  rw [triple_writeKeys_tick.1 _ _ hwrite]
  show w.tick + 1 + 7 = _
  omega

/-! ## Another snapshot -/

variable (X env) in
/-- A file of a snapshot that is begun at a tick is left with a text: the entry is listed, the
directory is made, the files before it are written, and this is what its own write leaves. -/
def FileLeft (hash : Text) (staged : StagedKeys) (tick : ℕ) (name text : Text) : Prop :=
  env.fault tick (.readKeyStore hash) = none ∧
    env.fault (tick + 1) (.writeKeyStore hash) = none ∧
    ∃ i file, (staged.keyFiles X)[i]? = some file ∧ file.name = name ∧
      (∀ j < i, ∀ earlier, (staged.keyFiles X)[j]? = some earlier →
        (∃ pem, earlier.pem = .ok pem) ∧
          env.fault (tick + 2 + j) (.writeKeyStore hash) = none) ∧
      ∃ pem, file.pem = .ok pem ∧
        env.left (tick + 2 + i) (.writeKeyStore hash) pem = some text

variable (X env) in
/-- The key files that a new snapshot is left with: none when its directory is not made, and those
up to the first failure otherwise. -/
def addedFiles (hash : Text) (staged : StagedKeys) (tick : ℕ) : List (Text × Text) :=
  if env.fault tick (.readKeyStore hash) = none ∧
      env.fault (tick + 1) (.writeKeyStore hash) = none then
    filesLeft env hash (tick + 2) (staged.keyFiles X)
  else []

theorem nodup_addedFiles {tick : ℕ} :
    ((addedFiles X env hash staged tick).map Prod.fst).Nodup := by
  unfold addedFiles
  split_ifs
  · exact nodup_filesLeft _ staged
  · exact List.nodup_nil

theorem fileLeft_iff {tick : ℕ} {name text : Text} :
    FileLeft X env hash staged tick name text ↔
      (name, text) ∈ addedFiles X env hash staged tick := by
  unfold FileLeft addedFiles
  rw [← and_assoc]
  split_ifs with hmade
  · rw [mem_filesLeft_iff, and_iff_right hmade]
  · rw [iff_false_right List.not_mem_nil]
    exact fun h => hmade h.1

namespace KeyStoreEntry

variable {entry : KeyStoreEntry} {dir : EntryDir} {m : ℕ}

/-- Wherever a call that adds a snapshot ends, the files that are left are in the next one. -/
theorem keyStore_addVersion {r : Except KeyStoreError ℕ}
    (hdir : w.keyStore.get entry.hash = some dir) (hnumber : dir.latestNumber = some m)
    (h : entry.addVersion X env staged w = (r, w')) :
    w'.keyStore = w.keyStore ∧ addedFiles X env entry.hash staged w.tick = [] ∨
      w'.keyStore.get entry.hash = some (dir.withFiles (snapshotName (m + 1))
        (addedFiles X env entry.hash staged w.tick)) := by
  cases r with
  | error e =>
    -- A call that fails has not begun to write, or has left some files.
    rcases triple_addVersion.2 e w' h with
      ⟨hsame, hcond⟩ | ⟨dir', m', hread, hwrite, hdir', hnumber', hkeyStore⟩
    · refine .inl ⟨hsame, if_neg fun hok => ?_⟩
      rcases hcond with hread | hnone | hwrite
      · exact hread hok.1
      · rw [hdir, Option.bind_some, hnumber] at hnone
        cases hnone
      · exact hwrite hok.2
    · obtain rfl := Option.some.inj (hdir.symm.trans hdir')
      obtain rfl := Option.some.inj (hnumber.symm.trans hnumber')
      rw [addedFiles, if_pos ⟨hread, hwrite⟩, hkeyStore, OrdMap.get_insert, if_pos rfl]
      exact .inr rfl
  | ok n =>
    -- A call that succeeds has left all files.
    unfold addVersion at h
    simp only [Command.bind_eq_ok_iff, Command.pure_eq_ok_iff] at h
    obtain ⟨m', w₁, hlatest, _, w₂, hwrite, rfl, rfl⟩ := h
    obtain ⟨hread, hnumber', rfl⟩ := latestVersion_eq_ok_iff.mp hlatest
    rw [hdir, Option.bind_some, hnumber, Option.some.injEq] at hnumber'
    obtain ⟨hfault, hkeyStore, -⟩ := triple_writeKeys.1 _ _ hwrite
    have hentry : entryDir w.ticked entry.hash = dir := by
      rw [entryDir, World.keyStore_ticked, hdir, Option.getD_some]
    rw [hentry, ← hnumber'] at hkeyStore
    rw [addedFiles, if_pos ⟨hread, hfault⟩, hkeyStore, OrdMap.get_insert, if_pos rfl]
    exact .inr rfl

end KeyStoreEntry

/-- The keys of another snapshot can be read after it has been added, or the tool has stopped while
doing so, exactly when they are left. -/
theorem keysReadable_addVersion_iff {entry : KeyStoreEntry} {dir : EntryDir} {m : ℕ}
    {r : Except KeyStoreError ℕ} {stored : Text} (hhash : entry.hash = didToHash X did.toText)
    (hdir : w.keyStore.get entry.hash = some dir) (htxt : dir.didTxt = some stored)
    (htrim : Text.trim stored = did.toText) (hnumber : dir.latestNumber = some m)
    (h : entry.addVersion X env staged w = (r, w')) :
    KeysReadable X did staged w' ↔ ∀ role, KeyLeft X w entry.hash (snapshotName (m + 1))
      (FileLeft X env entry.hash staged w.tick (keyFileName role true)) role (staged.key role) := by
  unfold KeysReadable
  rw [← hhash]
  rcases KeyStoreEntry.keyStore_addVersion hdir hnumber h with ⟨hsame, hnone⟩ | hdir'
  · have hrecorded : w'.didTxt entry.hash = some stored := by
      rw [World.didTxt, hsame, hdir, Option.bind_some, htxt]
    rw [and_iff_right ⟨stored, hrecorded, htrim⟩]
    refine forall_congr' fun role => ?_
    rw [keyLeft_iff_of_forall_not fun text htext => ?_]
    swap
    · rw [fileLeft_iff, hnone] at htext
      cases htext
    unfold storedKey Os.keyFile
    rw [hsame]
  · have hrecorded : w'.didTxt entry.hash = some stored := by
      rw [World.didTxt, hdir', Option.bind_some, EntryDir.didTxt_withFiles, htxt]
    rw [and_iff_right ⟨stored, hrecorded, htrim⟩]
    exact forall_congr' fun role =>
      exists_storedKey_iff hdir hdir' nodup_addedFiles fun _ => fileLeft_iff

/-- All keys of a snapshot that has been added can be read. -/
theorem keysReadable_of_addVersion (hX : X.Lawful) {entry : KeyStoreEntry} {dir : EntryDir} {n : ℕ}
    {stored : Text} (hhash : entry.hash = didToHash X did.toText)
    (hdir : w.keyStore.get entry.hash = some dir) (htxt : dir.didTxt = some stored)
    (htrim : Text.trim stored = did.toText)
    (h : entry.addVersion X env staged w = (.ok n, w')) : KeysReadable X did staged w' := by
  obtain ⟨dir', m, tick, hdir', -, -, hkeyStore, hall⟩ := KeyStoreEntry.addVersion_spec h
  obtain rfl := Option.some.inj (hdir.symm.trans hdir')
  have hget : w'.keyStore.get entry.hash = some (dir.withFiles (snapshotName n)
      (filesLeft env entry.hash tick (staged.keyFiles X))) := by
    rw [hkeyStore, OrdMap.get_insert, if_pos rfl]
  unfold KeysReadable
  rw [← hhash]
  refine ⟨⟨stored, ?_, htrim⟩, fun role => ⟨n, storedKey_of_all hX hget hall role⟩⟩
  rw [World.didTxt, hget, Option.bind_some, EntryDir.didTxt_withFiles, htxt]

/-! ## A first snapshot -/

variable (X env) in
/-- A commit that is begun at a tick writes all keys, none of which fails, and leaves a `did.txt`
with the DID. -/
structure CommitLeaves (did : DID) (staged : StagedKeys) (tick : ℕ) (w : World) : Prop where
  unused : w.keyStore.get (didToHash X did.toText) = none
  pem : ∀ file ∈ staged.keyFiles X, ∃ pem, file.pem = .ok pem
  fault : ∀ i < 7, env.fault (tick + i) (.writeKeyStore (didToHash X did.toText)) = none
  didTxt : ∃ stored, Text.trim stored = did.toText ∧
    env.left (tick + 7) (.writeKeyStore (didToHash X did.toText)) did.toText = some stored

theorem CommitLeaves.congr {tick : ℕ} (h : w'.keyStore = w.keyStore) :
    CommitLeaves X env did staged tick w' ↔ CommitLeaves X env did staged tick w := by
  constructor
  · rintro ⟨hunused, hpem, hfault, htxt⟩
    rw [h] at hunused
    exact ⟨hunused, hpem, hfault, htxt⟩
  · rintro ⟨hunused, hpem, hfault, htxt⟩
    rw [← h] at hunused
    exact ⟨hunused, hpem, hfault, htxt⟩

theorem not_keysReadable (h : w.didTxt (didToHash X did.toText) = none) :
    ¬ KeysReadable X did staged w := by
  rintro ⟨⟨stored, hstored, _⟩, _⟩
  rw [h] at hstored
  cases hstored

theorem didTxt_putDidTxt (text : Text) : (Os.putDidTxt hash text w).didTxt hash = some text := by
  show ((w.keyStore.insert hash _).get hash).bind EntryDir.didTxt = _
  rw [OrdMap.get_insert, if_pos rfl]
  rfl

theorem keyFile_putDidTxt (text snapshot name : Text) {dir : EntryDir}
    (hdir : w.keyStore.get hash = some dir) :
    Os.keyFile (Os.putDidTxt hash text w) hash snapshot name =
      Os.keyFile w hash snapshot name := by
  have hdir' : (Os.putDidTxt hash text w).keyStore.get hash =
      some { dir with didTxt := some text } := by
    show (w.keyStore.insert hash _).get hash = _
    rw [OrdMap.get_insert, if_pos rfl, hdir]
    rfl
  unfold Os.keyFile
  rw [hdir, hdir']
  rfl

/-- Writing `did.txt` leaves the keys as they are, whatever it ends in. -/
theorem triple_writeDidTxt {dir : EntryDir}
    (hdir : w.keyStore.get (didToHash X did.toText) = some dir) (htxt : dir.didTxt = none) :
    (Os.writeDidTxt env (didToHash X did.toText) did.toText).Triple w
      (fun _ w' => w'.didTxt (didToHash X did.toText) =
          env.left w.tick (.writeKeyStore (didToHash X did.toText)) did.toText ∧
        ∀ snapshot name, Os.keyFile w' (didToHash X did.toText) snapshot name =
          Os.keyFile w (didToHash X did.toText) snapshot name)
      fun w' => w'.didTxt (didToHash X did.toText) =
          env.left w.tick (.writeKeyStore (didToHash X did.toText)) did.toText ∧
        ∀ snapshot name, Os.keyFile w' (didToHash X did.toText) snapshot name =
          Os.keyFile w (didToHash X did.toText) snapshot name := by
  unfold Env.left
  refine Os.triple_writing.mono ?_ ?_
  · rintro _ w' ⟨hw', hfault⟩
    rw [hw', hfault]
    exact ⟨didTxt_putDidTxt _, fun _ _ => keyFile_putDidTxt (w := w.ticked) _ _ _ hdir⟩
  · rintro w' ⟨f, hfault, hw'⟩
    rw [hw', hfault]
    dsimp only
    cases f.leaves with
    | none =>
      refine ⟨?_, fun _ _ => rfl⟩
      show (w.keyStore.get _).bind EntryDir.didTxt = none
      rw [hdir, Option.bind_some, htxt]
    | some text =>
      exact ⟨didTxt_putDidTxt _, fun _ _ => keyFile_putDidTxt (w := w.ticked) _ _ _ hdir⟩

/-- A snapshot that is not complete leaves a new entry without `did.txt`. -/
theorem didTxt_writeKeys {snapshot : Text} {e : KeyStoreError} (hget : w.keyStore.get hash = none)
    (h : writeKeys X env hash snapshot staged w = (.error e, w')) : w'.didTxt hash = none := by
  have hdir : entryDir w hash = {} := by
    rw [entryDir, hget]
    rfl
  rcases triple_writeKeys.2 e w' h with ⟨f, -, hkeyStore⟩ | ⟨-, hkeyStore⟩
  · split_ifs at hkeyStore
    · rw [World.didTxt, hkeyStore, hget]
      rfl
    · rw [World.didTxt_of_insert hkeyStore, hdir]
  · rw [World.didTxt_of_insert hkeyStore, hdir]
    rfl

/-- The keys of a new DID can be read after they have been committed, or the tool has stopped while
doing so, exactly when they could be read before or the commit has left everything. -/
theorem keysReadable_commit_iff (hX : X.Lawful) {r : Except KeyStoreError KeyStoreEntry}
    (h : KeyStore.commit X env staged did w = (r, w')) :
    KeysReadable X did staged w' ↔
      KeysReadable X did staged w ∨ CommitLeaves X env did staged w.tick w := by
  unfold KeyStore.commit at h
  have hpresent : (Os.entryExists (didToHash X did.toText) : KeyStoreCommand Bool) w =
      (.ok (w.keyStore.get (didToHash X did.toText)).isSome, w) := rfl
  rw [Command.bind_of_eq_ok hpresent] at h
  cases hget : w.keyStore.get (didToHash X did.toText) with
  | some dir =>
    -- An entry that is there is left as it is.
    rw [hget, Option.isSome_some, if_pos rfl] at h
    obtain ⟨-, rfl⟩ := Prod.mk.inj h
    refine (or_iff_left fun hleaves => ?_).symm
    cases hget.symm.trans hleaves.unused
  | none =>
    rw [hget, Option.isSome_none, if_neg Bool.false_ne_true] at h
    -- Without a directory there were no keys before.
    have hbefore : ¬ KeysReadable X did staged w := by
      refine not_keysReadable ?_
      rw [World.didTxt, hget]
      rfl
    rw [or_iff_right hbefore]
    rcases hwrite : writeKeys X env (didToHash X did.toText) "0001" staged w with ⟨e | u, w₁⟩
    · -- The tool has stopped before `did.txt`.
      simp only [bind, hwrite] at h
      obtain ⟨-, rfl⟩ := Prod.mk.inj h
      refine iff_of_false (not_keysReadable (didTxt_writeKeys hget hwrite)) fun hleaves => ?_
      obtain ⟨w₂, hok⟩ := exists_writeKeys_iff.mpr ⟨hleaves.pem, hleaves.fault⟩
      cases hwrite.symm.trans hok
    · rw [Command.bind_of_eq_ok hwrite] at h
      -- All keys are written, and what remains is `did.txt`.
      obtain ⟨hpem, hfault⟩ := exists_writeKeys_iff.mp ⟨w₁, hwrite⟩
      obtain ⟨-, hkeyStore, hall⟩ := triple_writeKeys.1 _ _ hwrite
      have hdir : w₁.keyStore.get (didToHash X did.toText) =
          some ((entryDir w (didToHash X did.toText)).withFiles (snapshotName 1) (filesLeft env
            (didToHash X did.toText) (w.tick + 1) (staged.keyFiles X))) := by
        rw [hkeyStore, OrdMap.get_insert, if_pos rfl]
        rfl
      have htxt : ((entryDir w (didToHash X did.toText)).withFiles (snapshotName 1) (filesLeft env
          (didToHash X did.toText) (w.tick + 1) (staged.keyFiles X))).didTxt = none := by
        rw [EntryDir.didTxt_withFiles, entryDir, hget]
        rfl
      -- Whether its write succeeds or not, the file has what the operation leaves.
      obtain ⟨hrecorded, hfiles⟩ := Command.Triple.state
        ((triple_writeDidTxt hdir htxt).mapError.bind fun _ _ h => .pure h)
      rw [h, triple_writeKeys_tick.1 _ _ hwrite] at hrecorded
      rw [h] at hfiles
      -- The keys are there in any case.
      have hkeys (role : KeyRole) :
          storedKey X w' (didToHash X did.toText) 1 role = some (staged.key role) := by
        rw [← storedKey_of_all hX (n := 1) hdir hall role]
        unfold storedKey
        rw [hfiles]
      unfold KeysReadable
      rw [hrecorded, and_iff_left fun role => ⟨1, hkeys role⟩]
      constructor
      · rintro ⟨stored, hstored, htrim⟩
        exact ⟨hget, hpem, hfault, stored, htrim, hstored⟩
      · intro hleaves
        obtain ⟨stored, htrim, hstored⟩ := hleaves.didTxt
        exact ⟨stored, hstored, htrim⟩

end Swiyu
