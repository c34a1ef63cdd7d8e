import Swiyu.Didtool.Lawful

/-!
# The files that the key store writes

A snapshot is written as a directory and six files, one after the other, and any of these steps may
fail. What is there afterwards is what the steps before have written, and what a failing write has
left in its file.

## Main definitions

- `Swiyu.StagedKeys.keyFiles`: the files of a snapshot, in the order in which they are written.
- `Swiyu.filesLeft`: the files that are there after the writes, be they complete or not.

## Main results

- `Swiyu.snapshotNumber_snapshotName`: the names of snapshots that are recognised.
- `Swiyu.triple_writeKeys`: what writing a snapshot ends in.
-/

namespace Swiyu

/-! ## Names of snapshots -/

theorem ofDigitChars_snapshotName (n : ℕ) : Nat.ofDigitChars 10 (snapshotName n) 0 = n := by
  rw [snapshotName, Nat.ofDigitChars_append, Nat.ofDigitChars_replicate_zero, Nat.mul_zero,
    Text.ofDigitChars_decimal]

/-- Different snapshots have different names. -/
theorem snapshotName_injective : Function.Injective snapshotName := by
  intro m n h
  rw [← ofDigitChars_snapshotName m, h, ofDigitChars_snapshotName]

/-- A snapshot is recognised by its name up to number 9999. -/
theorem snapshotNumber_snapshotName (n : ℕ) :
    snapshotNumber (snapshotName n) = if n ≤ 9999 then some n else none := by
  have hlength : (snapshotName n).length = 4 ↔ n ≤ 9999 := by
    have hdecimal : (Text.decimal n).length ≤ 4 ↔ n < 10 ^ 4 :=
      Nat.length_toDigits_le_iff (by decide) (by decide)
    rw [snapshotName, List.length_append, List.length_replicate]
    omega
  have hdigits : (snapshotName n).all Char.isDigit = true := by
    rw [List.all_eq_true]
    intro c hc
    rcases List.mem_append.mp hc with hc | hc
    · rw [List.eq_of_mem_replicate hc]
      rfl
    · exact Text.isDigit_of_mem_decimal hc
  unfold snapshotNumber
  rw [ofDigitChars_snapshotName]
  by_cases hn : n ≤ 9999
  · rw [if_pos ⟨hlength.mpr hn, hdigits⟩, if_pos hn]
  · rw [if_neg fun h => hn (hlength.mp h.1), if_neg hn]

/-- The numbers of the snapshots in a directory. -/
def EntryDir.numbers (dir : EntryDir) : List ℕ :=
  (dir.snapshots.toList.map Prod.fst).filterMap snapshotNumber

variable {dir : EntryDir} {n : ℕ}

theorem EntryDir.latestNumber_eq (dir : EntryDir) : dir.latestNumber = dir.numbers.max? := rfl

theorem EntryDir.mem_numbers_iff : n ∈ dir.numbers ↔
    ∃ name files, dir.snapshots.get name = some files ∧ snapshotNumber name = some n := by
  simp only [numbers, List.mem_filterMap, List.mem_map]
  constructor
  · rintro ⟨_, ⟨⟨name, files⟩, hmem, rfl⟩, hnumber⟩
    exact ⟨name, files, OrdMap.Entries.get_eq_some_iff.mpr hmem, hnumber⟩
  · rintro ⟨name, files, hget, hnumber⟩
    exact ⟨name, ⟨(name, files), OrdMap.Entries.get_eq_some_iff.mp hget, rfl⟩, hnumber⟩

/-- The latest number is one of them, and no other is higher. -/
theorem EntryDir.latestNumber_eq_some_iff :
    dir.latestNumber = some n ↔ n ∈ dir.numbers ∧ ∀ m ∈ dir.numbers, m ≤ n := by
  rw [latestNumber_eq, List.max?_eq_some_iff]

/-! ## The files of a snapshot -/

/-- A key file and its text, if there is one. -/
structure KeyFile where
  role : KeyRole
  isPrivate : Bool
  pem : Except Text Text

/-- The name of a key file. -/
def KeyFile.name (file : KeyFile) : Text := keyFileName file.role file.isPrivate

variable (X : ToolCrates) (env : Env)

/-- The files of a snapshot, in the order in which they are written. -/
def StagedKeys.keyFiles (staged : StagedKeys) : List KeyFile := [
  ⟨.authorized, true, X.eddsaPrivateToPem staged.authorized⟩,
  ⟨.authorized, false, X.eddsaPublicToPem (staged.authorizedKeyBytes X)⟩,
  ⟨.authentication, true, X.ecdsaPrivateToPem staged.authentication⟩,
  ⟨.authentication, false, X.ecdsaPublicToPem (staged.authenticationKeyCoords X)⟩,
  ⟨.assertion, true, X.ecdsaPrivateToPem staged.assertion⟩,
  ⟨.assertion, false, X.ecdsaPublicToPem (staged.assertionKeyCoords X)⟩]

/-- Writes key files one after the other. -/
def writePems (hash snapshot : Text) : List KeyFile → KeyStoreCommand Unit
  | [] => return ()
  | file :: files => do
    writePem env hash snapshot file.role file.isPrivate file.pem
    writePems hash snapshot files

/-- The files that are there after they have been written one after the other from a tick on: those
up to the first failure, and what the failing write has left. -/
def filesLeft (hash : Text) : ℕ → List KeyFile → List (Text × Text)
  | _, [] => []
  | tick, file :: files =>
    match file.pem with
    | .error _ => []
    | .ok pem =>
      match env.fault tick (.writeKeyStore hash) with
      | some f => (f.leaves.map fun text => (file.name, text)).toList
      | none => (file.name, pem) :: filesLeft hash (tick + 1) files

/-- A directory with more files in a snapshot. -/
def EntryDir.withFiles (dir : EntryDir) (snapshot : Text) (files : List (Text × Text)) : EntryDir :=
  dir.updateSnapshot snapshot fun present =>
    files.foldl (fun present file => OrdMap.insert present file.1 file.2) present

variable {X env} {hash snapshot : Text} {w : World}

/-! ### More files in a directory -/

theorem EntryDir.updateSnapshot_updateSnapshot (dir : EntryDir) (f g : Snapshot → Snapshot) :
    (dir.updateSnapshot snapshot f).updateSnapshot snapshot g =
      dir.updateSnapshot snapshot fun files => g (f files) := by
  simp only [updateSnapshot, OrdMap.get_insert, if_true, Option.getD_some, OrdMap.insert_insert]

theorem EntryDir.withFiles_withFiles (dir : EntryDir) (files files' : List (Text × Text)) :
    (dir.withFiles snapshot files).withFiles snapshot files' =
      dir.withFiles snapshot (files ++ files') := by
  simp only [withFiles, updateSnapshot_updateSnapshot, List.foldl_append]

/-- Writing no files changes nothing where the snapshot is there. -/
theorem EntryDir.withFiles_nil {files : Snapshot} (h : dir.snapshots.get snapshot = some files) :
    dir.withFiles snapshot [] = dir := by
  unfold withFiles updateSnapshot
  rw [h, Option.getD_some]
  dsimp only [List.foldl_nil]
  rw [OrdMap.insert_of_get h]

theorem EntryDir.get_withFiles (dir : EntryDir) (snapshot : Text) (files : List (Text × Text))
    (name : Text) :
    (dir.withFiles snapshot files).snapshots.get name =
      if name = snapshot then
        some (files.foldl (fun present file => OrdMap.insert present file.1 file.2)
          ((dir.snapshots.get snapshot).getD ∅))
      else dir.snapshots.get name := by
  unfold withFiles updateSnapshot
  rw [OrdMap.get_insert]
  split_ifs <;> rfl

theorem EntryDir.didTxt_withFiles (dir : EntryDir) (files : List (Text × Text)) :
    (dir.withFiles snapshot files).didTxt = dir.didTxt := rfl

/-- A snapshot gets another file. -/
theorem keyStore_putKeyFile {name text : Text} (h : w.keyStore.get hash = some dir) :
    (Os.putKeyFile hash snapshot name text w).keyStore =
      w.keyStore.insert hash (dir.withFiles snapshot [(name, text)]) := by
  unfold Os.putKeyFile Os.updateDir
  rw [h]
  rfl

/-! ### Writing the files -/

theorem writeKeys_eq (staged : StagedKeys) : writeKeys X env hash snapshot staged = (do
    (Os.createSnapshotDir env hash snapshot).mapError .io
    writePems env hash snapshot (staged.keyFiles X)) := by
  have hlast : ∀ x : KeyStoreCommand Unit, (x >>= fun _ => pure ()) = x := by
    intro x
    funext w
    simp only [bind]
    rcases x w with ⟨_ | _, _⟩ <;> rfl
  unfold writeKeys StagedKeys.keyFiles
  simp only [writePems, hlast]

/-- Wherever the writes of key files end, the files that are left are in the snapshot; when none has
failed, these are all. -/
theorem triple_writePems {files : List KeyFile} {present : Snapshot}
    (hdir : w.keyStore.get hash = some dir)
    (hsnapshot : dir.snapshots.get snapshot = some present) :
    (writePems env hash snapshot files).Triple w
      (fun _ w' => w'.keyStore = w.keyStore.insert hash
          (dir.withFiles snapshot (filesLeft env hash w.tick files)) ∧
        ∀ file ∈ files, ∃ pem, file.pem = .ok pem ∧
          (file.name, pem) ∈ filesLeft env hash w.tick files)
      fun w' => w'.keyStore = w.keyStore.insert hash
        (dir.withFiles snapshot (filesLeft env hash w.tick files)) := by
  have hself : w.keyStore.insert hash (dir.withFiles snapshot []) = w.keyStore := by
    rw [EntryDir.withFiles_nil hsnapshot, OrdMap.insert_of_get hdir]
  -- The induction is on the files that are still to be written, from any world in which the
  -- snapshot is there.
  induction files generalizing w dir present with
  | nil => exact .pure ⟨hself.symm, by simp⟩
  | cons file files ih =>
    rw [writePems, filesLeft]
    cases hpem : file.pem with
    | error e =>
      -- There is no text to write.
      refine .bind (Q := fun _ _ => False) ?_ fun _ _ h => h.elim
      refine .bind (Q := fun _ _ => False) (.ofExcept (fun _ h => by cases h) fun _ _ => ?_)
        fun _ _ h => h.elim
      exact hself.symm
    | ok pem =>
      refine .bind (Q := fun _ w' => env.fault w.tick (.writeKeyStore hash) = none ∧
        w' = Os.putKeyFile hash snapshot file.name pem w.ticked) ?_ ?_
      · refine .bind (Q := fun text w' => text = pem ∧ w' = w)
          (.ofExcept (fun text h => ⟨(Except.ok.inj h).symm, rfl⟩) fun _ h => by cases h) ?_
        intro text w₀ h
        rw [h.1, h.2]
        refine .mapError (Os.triple_writing.mono (fun _ w' h => ⟨h.2, h.1⟩) ?_)
        rintro w' ⟨f, hfault, hw'⟩
        rw [hfault, hw']
        dsimp only
        -- A write that fails ends the sequence, with what it leaves in the file.
        cases f.leaves with
        | none => exact hself.symm
        | some text => exact keyStore_putKeyFile (w := w.ticked) hdir
      · -- The file is in the snapshot, and the others are written after it.
        rintro - w' ⟨hfault, rfl⟩
        have hkeyStore : (Os.putKeyFile hash snapshot file.name pem w.ticked).keyStore =
            w.keyStore.insert hash (dir.withFiles snapshot [(file.name, pem)]) :=
          keyStore_putKeyFile (w := w.ticked) hdir
        have hdir' : (Os.putKeyFile hash snapshot file.name pem w.ticked).keyStore.get hash =
            some (dir.withFiles snapshot [(file.name, pem)]) := by
          rw [hkeyStore, OrdMap.get_insert, if_pos rfl]
        have hsnapshot' := dir.get_withFiles snapshot [(file.name, pem)] snapshot
        rw [if_pos rfl] at hsnapshot'
        rw [hfault]
        dsimp only
        refine (ih hdir' hsnapshot' ?_).mono ?_ ?_
        · rw [EntryDir.withFiles_nil hsnapshot', OrdMap.insert_of_get hdir']
        · rintro _ w'' ⟨hend, hall⟩
          refine ⟨?_, ?_⟩
          · rw [hend, hkeyStore, OrdMap.insert_insert, EntryDir.withFiles_withFiles]
            rfl
          · intro file' hfile'
            rcases List.mem_cons.mp hfile' with rfl | hfile'
            · exact ⟨pem, hpem, List.mem_cons_self⟩
            · obtain ⟨pem', hpem', hmem⟩ := hall file' hfile'
              exact ⟨pem', hpem', List.mem_cons_of_mem _ hmem⟩
        · intro w'' hend
          rw [hend, hkeyStore, OrdMap.insert_insert, EntryDir.withFiles_withFiles]
          rfl

/-- The directory of an entry, empty when there is none. -/
def entryDir (w : World) (hash : Text) : EntryDir := (w.keyStore.get hash).getD {}

/-- Wherever the writes of a snapshot end, the directory is as it was when its creation has failed,
and has the files that are left otherwise; when nothing has failed, these are all. -/
theorem triple_writeKeys {staged : StagedKeys} :
    (writeKeys X env hash snapshot staged).Triple w
      (fun _ w' => env.fault w.tick (.writeKeyStore hash) = none ∧
        w'.keyStore = w.keyStore.insert hash ((entryDir w hash).withFiles snapshot
          (filesLeft env hash (w.tick + 1) (staged.keyFiles X))) ∧
        ∀ file ∈ staged.keyFiles X, ∃ pem, file.pem = .ok pem ∧
          (file.name, pem) ∈ filesLeft env hash (w.tick + 1) (staged.keyFiles X))
      fun w' =>
        (∃ f, env.fault w.tick (.writeKeyStore hash) = some f ∧ w'.keyStore =
          if f.leaves = none then w.keyStore else w.keyStore.insert hash (entryDir w hash)) ∨
        env.fault w.tick (.writeKeyStore hash) = none ∧
          w'.keyStore = w.keyStore.insert hash ((entryDir w hash).withFiles snapshot
            (filesLeft env hash (w.tick + 1) (staged.keyFiles X))) := by
  rw [writeKeys_eq]
  refine .bind (.mapError (Os.triple_writing.mono (fun _ w' h => h) ?_)) ?_
  · -- The directory cannot be created.
    rintro w' ⟨f, hfault, hw'⟩
    refine .inl ⟨f, hfault, ?_⟩
    rw [hw']
    cases f.leaves <;> rfl
  · -- The directory is there, with no file yet.
    rintro _ w₁ ⟨hw₁, hfault⟩
    have htick : w₁.tick = w.tick + 1 := by
      rw [hw₁]
      rfl
    have hkeyStore :
        w₁.keyStore = w.keyStore.insert hash ((entryDir w hash).withFiles snapshot []) := by
      rw [hw₁]
      rfl
    have hdir : w₁.keyStore.get hash = some ((entryDir w hash).withFiles snapshot []) := by
      rw [hkeyStore, OrdMap.get_insert, if_pos rfl]
    have hsnapshot := (entryDir w hash).get_withFiles snapshot [] snapshot
    rw [if_pos rfl] at hsnapshot
    refine (triple_writePems hdir hsnapshot).mono ?_ ?_
    · rintro _ w' ⟨hend, hall⟩
      rw [hkeyStore, OrdMap.insert_insert, EntryDir.withFiles_withFiles, htick] at hend
      rw [htick] at hall
      exact ⟨hfault, hend, hall⟩
    · intro w' hend
      rw [hkeyStore, OrdMap.insert_insert, EntryDir.withFiles_withFiles, htick] at hend
      exact .inr ⟨hfault, hend⟩

/-! ### Reading the files -/

theorem names_filesLeft (tick : ℕ) (files : List KeyFile) :
    (filesLeft env hash tick files).map Prod.fst <+: files.map KeyFile.name := by
  induction files generalizing tick with
  | nil => exact List.prefix_rfl
  | cons file files ih =>
    rw [filesLeft, List.map_cons]
    cases file.pem with
    | error e => exact List.nil_prefix
    | ok pem =>
      dsimp only
      cases env.fault tick (.writeKeyStore hash) with
      | none => exact (List.prefix_cons_inj _).mpr (ih (tick + 1))
      | some f =>
        dsimp only
        cases f.leaves with
        | none => exact List.nil_prefix
        | some text => exact (List.prefix_cons_inj _).mpr List.nil_prefix

/-- The files of a snapshot have different names. -/
theorem nodup_keyFiles (staged : StagedKeys) : ((staged.keyFiles X).map KeyFile.name).Nodup := by
  have hnames : (staged.keyFiles X).map KeyFile.name = [
      keyFileName .authorized true, keyFileName .authorized false,
      keyFileName .authentication true, keyFileName .authentication false,
      keyFileName .assertion true, keyFileName .assertion false] := rfl
  rw [hnames]
  decide

theorem nodup_filesLeft (tick : ℕ) (staged : StagedKeys) :
    ((filesLeft env hash tick (staged.keyFiles X)).map Prod.fst).Nodup :=
  (nodup_keyFiles staged).sublist (names_filesLeft tick _).sublist

/-- A file is left with what its own write leaves, when those before it have been written. -/
theorem mem_filesLeft_iff {tick : ℕ} {files : List KeyFile} {name text : Text} :
    (name, text) ∈ filesLeft env hash tick files ↔ ∃ i file, files[i]? = some file ∧
      file.name = name ∧
      (∀ j < i, ∀ earlier, files[j]? = some earlier → (∃ pem, earlier.pem = .ok pem) ∧
        env.fault (tick + j) (.writeKeyStore hash) = none) ∧
      ∃ pem, file.pem = .ok pem ∧ env.left (tick + i) (.writeKeyStore hash) pem = some text := by
  induction files generalizing tick with
  | nil => simp [filesLeft]
  | cons file files ih =>
    -- The file is the first one, or it comes after the first one.
    rw [← Nat.or_exists_add_one, filesLeft]
    simp only [List.getElem?_cons_zero, List.getElem?_cons_succ, Nat.forall_lt_succ_left,
      Option.some.injEq, forall_eq', exists_eq_left', Nat.add_zero]
    have hshift (i : ℕ) : tick + 1 + i = tick + (i + 1) := by omega
    have hrest := @ih (tick + 1)
    simp only [hshift] at hrest
    cases hpem : file.pem with
    | error e => simp
    | ok pem =>
      cases hfault : env.fault tick (.writeKeyStore hash) with
      | none =>
        -- It is written, and the next one follows.
        rw [List.mem_cons, hrest, Prod.mk.injEq]
        simp [Env.left, hfault, eq_comm]
      | some f =>
        -- Nothing follows the write that fails.
        simp [Env.left, hfault, eq_comm, and_comm]

/-- A file that is left is read. -/
theorem keyFile_of_mem {files : List (Text × Text)} {name text : Text}
    (hdir : w.keyStore.get hash = some (dir.withFiles snapshot files))
    (hnames : (files.map Prod.fst).Nodup) (hmem : (name, text) ∈ files) :
    Os.keyFile w hash snapshot name = some text := by
  unfold Os.keyFile
  rw [hdir, Option.bind_eq_bind, Option.bind_some, EntryDir.get_withFiles, if_pos rfl,
    Option.bind_eq_bind, Option.bind_some]
  exact (OrdMap.get_foldl_insert hnames).mpr (.inl hmem)

/-- The files of other snapshots stay as they are. -/
theorem keyFile_withFiles_of_ne {files : List (Text × Text)} {w' : World} {other name : Text}
    (hdir : w.keyStore.get hash = some dir)
    (hdir' : w'.keyStore.get hash = some (dir.withFiles snapshot files)) (hne : other ≠ snapshot) :
    Os.keyFile w' hash other name = Os.keyFile w hash other name := by
  unfold Os.keyFile
  rw [hdir, hdir', Option.bind_eq_bind, Option.bind_eq_bind, Option.bind_some, Option.bind_some,
    EntryDir.get_withFiles, if_neg hne]

/-- A file of the snapshot that has not been written stays as it is. -/
theorem keyFile_withFiles_of_notMem {files : List (Text × Text)} {w' : World} {name : Text}
    (hdir : w.keyStore.get hash = some dir)
    (hdir' : w'.keyStore.get hash = some (dir.withFiles snapshot files))
    (hnames : (files.map Prod.fst).Nodup) (hname : name ∉ files.map Prod.fst) :
    Os.keyFile w' hash snapshot name = Os.keyFile w hash snapshot name := by
  unfold Os.keyFile
  rw [hdir, hdir', Option.bind_eq_bind, Option.bind_eq_bind, Option.bind_some, Option.bind_some,
    EntryDir.get_withFiles, if_pos rfl, Option.bind_some]
  have hmem : ∀ text, (name, text) ∉ files := fun text h => hname (List.mem_map_of_mem h)
  refine Option.ext fun text => ?_
  rw [OrdMap.get_foldl_insert hnames]
  cases dir.snapshots.get snapshot with
  | none => simp [hmem]
  | some present => simp [hmem, hname]

/-- The private keys are in the snapshot when none of the writes has failed. -/
theorem storedKey_of_all (hX : X.Lawful) {staged : StagedKeys} {tick n : ℕ}
    (hdir : w.keyStore.get hash = some (dir.withFiles (snapshotName n)
      (filesLeft env hash tick (staged.keyFiles X))))
    (hall : ∀ file ∈ staged.keyFiles X, ∃ pem, file.pem = .ok pem ∧
      (file.name, pem) ∈ filesLeft env hash tick (staged.keyFiles X)) (role : KeyRole) :
    storedKey X w hash n role = some (staged.key role) := by
  have hfile : ⟨role, true, privateToPem X role (staged.key role)⟩ ∈ staged.keyFiles X := by
    cases role <;> simp [StagedKeys.keyFiles, privateToPem, StagedKeys.key]
  obtain ⟨pem, hpem, hmem⟩ := hall _ hfile
  exact storedKey_eq_some_iff.mpr ⟨pem, keyFile_of_mem hdir (nodup_filesLeft tick staged) hmem,
    hX.parsePrivateKey hpem⟩

end Swiyu
