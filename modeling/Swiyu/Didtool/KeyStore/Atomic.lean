import Swiyu.Didtool.KeyStore.Snapshots

/-!
# What a failed write leaves visible

A snapshot is there as soon as its directory is, and an entry likewise, whether its files are
written or not. A failed `commit` or `add_version` is therefore seen by those who read the entry
later, unless it has failed before.

## Main definitions

- `Swiyu.SameReaders`: no later call can tell two states of the key store apart.
- `Swiyu.Alike`: two states of the key store that agree in all that is ever read of an entry.

## Main results

- `Swiyu.SameReaders.of_alike`: what is read depends on nothing else.
- `Swiyu.unseen_iff`: the failed writes that nobody sees.
-/

namespace Swiyu

variable {X : ToolCrates} {env : Env} {hash : Text}

/-! ## Readers -/

/-- The same world at another time. -/
def World.atTick (w : World) (t : ℕ) : World := { w with tick := t }

variable (X) in
/-- The entry of a DID. -/
def entryOf (did : DID) : KeyStoreEntry := ⟨didToHash X did.toText, did.toText⟩

variable (X) in
/-- Whatever happens later, and whenever, each of these calls for the DID has the same result in
both worlds. -/
structure SameReaders (did : DID) (w w' : World) : Prop where
  lookup (env : Env) (t : ℕ) :
    (KeyStore.lookup X env did (w'.atTick t)).1 = (KeyStore.lookup X env did (w.atTick t)).1
  latestVersion (env : Env) (t : ℕ) :
    ((entryOf X did).latestVersion env (w'.atTick t)).1 =
      ((entryOf X did).latestVersion env (w.atTick t)).1
  allVersions (env : Env) (t : ℕ) :
    ((entryOf X did).allVersions env (w'.atTick t)).1 =
      ((entryOf X did).allVersions env (w.atTick t)).1
  loadEddsa (env : Env) (t : ℕ) (role : KeyRole) :
    ((entryOf X did).loadEddsa X env role none (w'.atTick t)).1 =
      ((entryOf X did).loadEddsa X env role none (w.atTick t)).1
  loadEcdsa (env : Env) (t : ℕ) (role : KeyRole) :
    ((entryOf X did).loadEcdsa X env role none (w'.atTick t)).1 =
      ((entryOf X did).loadEcdsa X env role none (w.atTick t)).1
  publicKeyPem (env : Env) (t : ℕ) (role : KeyRole) (version : Option ℕ) :
    ((entryOf X did).publicKeyPem env role version (w'.atTick t)).1 =
      ((entryOf X did).publicKeyPem env role version (w.atTick t)).1
  commit (env : Env) (t : ℕ) (staged : StagedKeys) :
    (KeyStore.commit X env staged did (w'.atTick t)).1 =
      (KeyStore.commit X env staged did (w.atTick t)).1

/-- Two worlds of the same tick that agree in what is read of an entry: whether it is there, its
DID, the numbers of its snapshots, the private keys of the latest and all public keys. -/
structure Alike (hash : Text) (w w' : World) : Prop where
  tick : w.tick = w'.tick
  didTxt : (w.keyStore.get hash).map EntryDir.didTxt = (w'.keyStore.get hash).map EntryDir.didTxt
  numbers : (w.keyStore.get hash).map EntryDir.numbers = (w'.keyStore.get hash).map EntryDir.numbers
  privateKey (n : ℕ) (role : KeyRole) :
    (w.keyStore.get hash).bind EntryDir.latestNumber = some n →
      Os.keyFile w hash (snapshotName n) (keyFileName role true) =
        Os.keyFile w' hash (snapshotName n) (keyFileName role true)
  publicKey (n : ℕ) (role : KeyRole) :
    Os.keyFile w hash (snapshotName n) (keyFileName role false) =
      Os.keyFile w' hash (snapshotName n) (keyFileName role false)

namespace Alike

variable {w w' : World}

theorem ticked (h : Alike hash w w') : Alike hash w.ticked w'.ticked :=
  ⟨congrArg (· + 1) h.tick, h.didTxt, h.numbers, h.privateKey, h.publicKey⟩

theorem isSome_eq (h : Alike hash w w') :
    (w.keyStore.get hash).isSome = (w'.keyStore.get hash).isSome := by
  have hsome := congrArg Option.isSome h.didTxt
  rwa [Option.isSome_map, Option.isSome_map] at hsome

theorem didTxt_bind (h : Alike hash w w') : (w.keyStore.get hash).bind EntryDir.didTxt =
    (w'.keyStore.get hash).bind EntryDir.didTxt := by
  have hbind := congrArg (fun o : Option (Option Text) => o.bind id) h.didTxt
  simpa only [Option.bind_map, Function.id_comp] using hbind

end Alike

/-! ### Commands that read -/

theorem respects_lookup {did : DID} : (KeyStore.lookup X env did).Respects
    (Alike (didToHash X did.toText)) fun _ _ _ => True := by
  refine .bind (Q := fun _ => Alike (didToHash X did.toText))
    (.read fun w w' h => ⟨h.isSome_eq, h⟩) fun present => ?_
  refine .ite (fun _ => .pure fun _ _ _ => trivial) fun _ => ?_
  refine .bind (Q := fun _ _ _ => True) (.mapError (Os.respects_reading (fun _ _ h => h.tick) ?_))
    fun stored => .ite (fun _ => .fail) fun _ => .pure fun _ _ _ => trivial
  intro w w' h
  refine ⟨?_, fun _ _ => trivial⟩
  rw [World.keyStore_ticked, World.keyStore_ticked, h.didTxt_bind]

namespace KeyStoreEntry

variable {entry : KeyStoreEntry}

/-- The numbers that are listed. -/
def listNumbers (entry : KeyStoreEntry) (env : Env) : Command World Text (List ℕ) :=
  Os.reading env (.readKeyStore entry.hash) fun w =>
    ((w.keyStore.get entry.hash).map EntryDir.numbers).okOr env.notFound

/-- What is done with a listing depends on the numbers in it only. -/
theorem listSnapshots_bind {α : Type} (f : List ℕ → KeyStoreCommand α) :
    ((Os.listSnapshots env entry.hash).mapError .io >>= fun names =>
      f (names.filterMap snapshotNumber)) = ((entry.listNumbers env).mapError .io >>= f) := by
  funext w
  simp only [Os.listSnapshots, listNumbers, Os.reading, Os.nextTick, bind, Command.mapError,
    Command.read, Command.update, pure]
  cases env.fault w.tick (.readKeyStore entry.hash) with
  | some f => rfl
  | none =>
    simp only [Command.ofExcept]
    cases w.keyStore.get entry.hash with
    | none => rfl
    | some dir => rfl

/-- The numbers that are listed are the same. -/
theorem respects_listNumbers :
    (entry.listNumbers env).Respects (Alike entry.hash) fun numbers w w' => Alike entry.hash w w' ∧
      (w.keyStore.get entry.hash).map EntryDir.numbers = some numbers := by
  refine Os.respects_reading (fun _ _ h => h.tick) ?_
  intro w w' h
  refine ⟨?_, fun numbers hnumbers => ⟨h.ticked, Option.okOr_eq_ok_iff.mp hnumbers⟩⟩
  rw [World.keyStore_ticked, World.keyStore_ticked, h.numbers]

theorem respects_latestVersion : (entry.latestVersion env).Respects (Alike entry.hash) fun n w w' =>
    Alike entry.hash w w' ∧ (w.keyStore.get entry.hash).bind EntryDir.latestNumber = some n := by
  unfold latestVersion
  rw [listSnapshots_bind fun numbers => Command.ofExcept (numbers.max?.okOr (.notFound entry.hash))]
  refine .bind (.mapError respects_listNumbers) fun numbers => .ofExcept ?_
  intro n w w' hmax h
  obtain ⟨dir, hdir, hnumbers⟩ := Option.map_eq_some_iff.mp h.2
  refine ⟨h.1, ?_⟩
  rw [hdir, Option.bind_some, EntryDir.latestNumber_eq, hnumbers]
  exact Option.okOr_eq_ok_iff.mp hmax

theorem respects_allVersions :
    (entry.allVersions env).Respects (Alike entry.hash) fun _ _ _ => True := by
  have hnumbers : entry.allVersions env = ((entry.listNumbers env).mapError .io >>= fun numbers =>
      if numbers = [] then Command.fail (.notFound entry.hash) else pure numbers.mergeSort) :=
    listSnapshots_bind fun numbers =>
      if numbers = [] then Command.fail (.notFound entry.hash)
      else pure (numbers.mergeSort fun a b => decide (a ≤ b))
  rw [hnumbers]
  refine .bind (.mapError respects_listNumbers) fun numbers => ?_
  exact .ite (fun _ => .fail) fun _ => .pure fun _ _ _ => trivial

variable (env) in
/-- What is read from a file that is the same in both states is the same. -/
theorem respects_readKeyFile {R : World → World → Prop} (snapshot name : Text)
    (htick : ∀ w w', R w w' → w.tick = w'.tick)
    (hfile : ∀ w w', R w w' → Os.keyFile w entry.hash snapshot name =
      Os.keyFile w' entry.hash snapshot name) :
    (Os.keyFileExists entry.hash snapshot name : KeyStoreCommand Bool).Respects R (fun _ => R) ∧
      (Os.readKeyFile env entry.hash snapshot name).Respects R fun _ _ _ => True := by
  refine ⟨.read fun w w' h => ⟨congrArg Option.isSome (hfile w w' h), h⟩, ?_⟩
  refine Os.respects_reading htick fun w w' h => ⟨?_, fun _ _ => trivial⟩
  show (Os.keyFile w entry.hash snapshot name).okOr env.notFound =
    (Os.keyFile w' entry.hash snapshot name).okOr env.notFound
  rw [hfile w w' h]

theorem respects_load {parse : Text → Except CryptoError (FixedBytes 32)} {role : KeyRole} :
    (entry.load env parse role none).Respects (Alike entry.hash) fun _ _ _ => True := by
  unfold load
  refine .bind respects_latestVersion fun n => ?_
  have hread := respects_readKeyFile env (snapshotName n) (keyFileName role true)
    (R := fun w w' => Alike entry.hash w w' ∧
      (w.keyStore.get entry.hash).bind EntryDir.latestNumber = some n)
    (fun _ _ h => h.1.tick) fun _ _ h => h.1.privateKey n role h.2
  refine .bind hread.1 fun present => ?_
  exact .ite (fun _ => .fail) fun _ => .bind (.mapError hread.2) fun _ =>
    .ofExcept fun _ _ _ _ _ => trivial

theorem respects_publicKeyPem {role : KeyRole} {version : Option ℕ} :
    (entry.publicKeyPem env role version).Respects (Alike entry.hash) fun _ _ _ => True := by
  unfold publicKeyPem
  refine .bind (Q := fun _ => Alike entry.hash) ?_ fun n => ?_
  · cases version with
    | none => exact fun w w' h => ⟨(respects_latestVersion w w' h).1, fun n hn =>
        ((respects_latestVersion w w' h).2 n hn).1⟩
    | some n => exact .pure fun _ _ h => h
  · have hread := respects_readKeyFile env (snapshotName n) (keyFileName role false)
      (R := Alike entry.hash) (fun _ _ h => h.tick) fun _ _ h => h.publicKey n role
    exact .bind hread.1 fun present => .ite (fun _ => .fail) fun _ => .mapError hread.2

end KeyStoreEntry

/-! ### Commands that write -/

theorem respects_writeKeys {snapshot : Text} {staged : StagedKeys} :
    (writeKeys X env hash snapshot staged).Respects (fun w w' => w.tick = w'.tick)
      fun _ w w' => w.tick = w'.tick := by
  have hwrite : ∀ (effect : World → World) (broken : Text → World → World),
      (∀ w, (effect w).tick = w.tick) →
      (Os.writing env (.writeKeyStore hash) effect broken).Respects (fun w w' => w.tick = w'.tick)
        fun _ w w' => w.tick = w'.tick := by
    intro effect broken heffect
    refine Os.respects_writing (fun _ _ h => h) fun w w' h => ?_
    rw [heffect, heffect]
    exact congrArg (· + 1) h
  have hpems : ∀ files, (writePems env hash snapshot files).Respects (fun w w' => w.tick = w'.tick)
      fun _ w w' => w.tick = w'.tick := by
    intro files
    induction files with
    | nil => exact .pure fun _ _ h => h
    | cons file files ih =>
      refine .bind ?_ fun _ => ih
      refine .bind (.ofExcept fun _ _ _ _ h => h) fun pem => .mapError ?_
      exact hwrite _ _ fun _ => rfl
  rw [writeKeys_eq]
  exact .bind (.mapError (hwrite _ _ fun _ => rfl)) fun _ => hpems _

/-- Whether a DID can be added depends on its directory only. -/
theorem respects_commit {did : DID} {staged : StagedKeys} :
    (KeyStore.commit X env staged did).Respects (Alike (didToHash X did.toText))
      fun _ _ _ => True := by
  refine .bind (Q := fun _ => Alike (didToHash X did.toText))
    (.read fun w w' h => ⟨h.isSome_eq, h⟩) fun present => ?_
  refine .ite (fun _ => .fail) fun _ => ?_
  refine .bind (Q := fun _ w w' => w.tick = w'.tick)
    (fun w w' h => respects_writeKeys w w' h.tick) fun _ => ?_
  refine .bind (Q := fun _ _ _ => True)
    (.mapError (Os.respects_writing (fun _ _ h => h) fun _ _ _ => trivial)) fun _ => ?_
  exact .pure fun _ _ _ => trivial

/-- No later call can tell apart what agrees in all that is read. -/
theorem SameReaders.of_alike {did : DID} {w w' : World}
    (h : ∀ t, Alike (didToHash X did.toText) (w.atTick t) (w'.atTick t)) :
    SameReaders X did w w' := by
  have hentry (t : ℕ) : Alike (entryOf X did).hash (w.atTick t) (w'.atTick t) := h t
  exact {
    lookup _ t := (respects_lookup _ _ (h t)).1.symm
    latestVersion _ t := (KeyStoreEntry.respects_latestVersion _ _ (hentry t)).1.symm
    allVersions _ t := (KeyStoreEntry.respects_allVersions _ _ (hentry t)).1.symm
    loadEddsa _ t _ := (KeyStoreEntry.respects_load _ _ (hentry t)).1.symm
    loadEcdsa _ t _ := (KeyStoreEntry.respects_load _ _ (hentry t)).1.symm
    publicKeyPem _ t _ _ := (KeyStoreEntry.respects_publicKeyPem _ _ (hentry t)).1.symm
    commit _ t _ := (respects_commit _ _ (h t)).1.symm }

theorem SameReaders.of_keyStore_eq {did : DID} {w w' : World} (h : w'.keyStore = w.keyStore) :
    SameReaders X did w w' := by
  refine .of_alike fun t => ?_
  have hfile : ∀ snapshot name, Os.keyFile (w.atTick t) (didToHash X did.toText) snapshot name =
      Os.keyFile (w'.atTick t) (didToHash X did.toText) snapshot name := by
    intro snapshot name
    show Os.keyFile w _ snapshot name = Os.keyFile w' _ snapshot name
    rw [Os.keyFile, Os.keyFile, h]
  have hget : (w.atTick t).keyStore = (w'.atTick t).keyStore := h.symm
  exact ⟨rfl, by rw [hget], by rw [hget], fun _ _ _ => hfile _ _, fun _ _ => hfile _ _⟩

/-! ## Failed commits -/

/-- The DID is found not to be in the key store exactly when it has no directory. -/
theorem lookup_eq_ok_none_iff {did : DID} {w : World} :
    (KeyStore.lookup X env did w).1 = .ok none ↔
      w.keyStore.get (didToHash X did.toText) = none := by
  constructor
  · intro h
    have hlookup := Command.eq_ok_of_fst_eq h
    simp only [KeyStore.lookup, Command.bind_eq_ok_iff, Os.entryExists,
      Command.read_eq_ok_iff] at hlookup
    obtain ⟨_, _, ⟨rfl, rfl⟩, hlookup⟩ := hlookup
    by_contra hsome
    rw [if_neg (by simpa using hsome)] at hlookup
    simp only [Command.bind_eq_ok_iff, Command.ite_fail_eq_ok_iff,
      Command.pure_eq_ok_iff] at hlookup
    obtain ⟨_, _, -, -, hentry, -⟩ := hlookup
    cases hentry
  · intro h
    unfold KeyStore.lookup
    simp only [bind, Os.entryExists, Command.read, h]
    rfl

/-- What a commit that fails has done: nothing, or the directory is there. -/
theorem triple_commit {did : DID} {staged : StagedKeys} {w : World} :
    (KeyStore.commit X env staged did).Triple w (fun _ _ => True) fun w' =>
      w'.keyStore = w.keyStore ∧ ((w.keyStore.get (didToHash X did.toText)).isSome = true ∨
        ∃ f, env.fault w.tick (.writeKeyStore (didToHash X did.toText)) = some f ∧
          f.leaves = none) ∨
      w.keyStore.get (didToHash X did.toText) = none ∧
        (∀ f, env.fault w.tick (.writeKeyStore (didToHash X did.toText)) = some f →
          f.leaves ≠ none) ∧
        w'.keyStore.get (didToHash X did.toText) ≠ none := by
  unfold KeyStore.commit
  dsimp only
  generalize didToHash X did.toText = hash
  refine .bind (Q := fun present w' => present = (w.keyStore.get hash).isSome ∧ w' = w)
    (.read ⟨rfl, rfl⟩) ?_
  rintro present w' ⟨hpresent, hw'⟩
  rw [hpresent, hw']
  -- A directory that is there already is left alone.
  refine .ite (fun hsome => .fail (.inl ⟨rfl, .inl hsome⟩)) fun hnone => ?_
  have hnone : w.keyStore.get hash = none := by simpa using hnone
  refine .bind (Q := fun _ w' => env.fault w.tick (.writeKeyStore hash) = none ∧
    w'.keyStore.get hash ≠ none) (triple_writeKeys.mono ?_ ?_) ?_
  · rintro _ w' ⟨hfault, hkeyStore, _⟩
    refine ⟨hfault, ?_⟩
    rw [hkeyStore, OrdMap.get_insert, if_pos rfl]
    exact Option.some_ne_none _
  · intro w' h
    -- The first write makes the directory, unless it leaves nothing; a later one that fails leaves
    -- the directory there.
    rcases h with ⟨f, hfault, hkeyStore⟩ | ⟨hfault, hkeyStore⟩
    · split_ifs at hkeyStore with hleaves
      · exact .inl ⟨hkeyStore, .inr ⟨f, hfault, hleaves⟩⟩
      · refine .inr ⟨hnone, ?_, ?_⟩
        · intro f' hfault'
          rw [hfault, Option.some.injEq] at hfault'
          rwa [← hfault']
        · rw [hkeyStore, OrdMap.get_insert, if_pos rfl]
          exact Option.some_ne_none _
    · refine .inr ⟨hnone, fun f hf => ?_, ?_⟩
      · rw [hfault] at hf
        cases hf
      · rw [hkeyStore, OrdMap.get_insert, if_pos rfl]
        exact Option.some_ne_none _
  · rintro _ w₁ ⟨hfault, hget⟩
    refine .bind (Q := fun _ _ => True)
      (.mapError (Os.triple_writing.mono (fun _ _ _ => trivial) ?_))
      fun _ _ _ => .pure trivial
    -- The keys are there, and the `did.txt` is not written.
    rintro w' ⟨f, _, hw'⟩
    refine .inr ⟨hnone, fun f' hf' => ?_, ?_⟩
    · rw [hfault] at hf'
      cases hf'
    · rw [hw']
      cases f.leaves with
      | none => exact hget
      | some text =>
        show (w₁.keyStore.insert hash _).get hash ≠ none
        rw [OrdMap.get_insert, if_pos rfl]
        exact Option.some_ne_none _

/-- A failed commit is not seen when the DID has a directory already, and otherwise when the first
step fails without an effect. -/
theorem sameReaders_commit_iff {did : DID} {staged : StagedKeys} {w w' : World} {e : KeyStoreError}
    (h : KeyStore.commit X env staged did w = (.error e, w')) :
    SameReaders X did w w' ↔ (w.keyStore.get (didToHash X did.toText)).isSome = true ∨
      ∃ f, env.fault w.tick (.writeKeyStore (didToHash X did.toText)) = some f ∧
        f.leaves = none := by
  rcases triple_commit.2 e w' h with ⟨hsame, hcond⟩ | ⟨hnone, hfault, hget⟩
  · exact ⟨fun _ => hcond, fun _ => .of_keyStore_eq hsame⟩
  · constructor
    · intro hreaders
      -- Before the commit the DID is not found, and now it is.
      have hbefore : (KeyStore.lookup X env did (w.atTick 0)).1 = .ok none :=
        lookup_eq_ok_none_iff.mpr hnone
      have hlookup := hreaders.lookup env 0
      rw [hbefore] at hlookup
      exact absurd (lookup_eq_ok_none_iff.mp hlookup) hget
    · intro hcond
      rcases hcond with hsome | ⟨f, hf, hleaves⟩
      · rw [hnone] at hsome
        cases hsome
      · exact absurd hleaves (hfault f hf)

/-! ## Failed additions -/

namespace KeyStoreEntry

variable {entry : KeyStoreEntry} {w w' : World} {dir : EntryDir} {m n : ℕ}

theorem publicKeyPem_some_eq_ok_iff {role : KeyRole} {pem : Text} :
    entry.publicKeyPem env role (some n) w = (.ok pem, w') ↔
      env.fault w.tick (.readKeyStore entry.hash) = none ∧
        Os.keyFile w entry.hash (snapshotName n) (keyFileName role false) = some pem ∧
        w.ticked = w' := by
  simp only [publicKeyPem, resolveVersion, Command.bind_eq_ok_iff, Command.pure_eq_ok_iff,
    Os.keyFileExists, Command.read_eq_ok_iff]
  constructor
  · rintro ⟨_, _, ⟨hv, hw⟩, _, _, ⟨hpresent, hw'⟩, h⟩
    subst hv hw hpresent hw'
    simp only [Command.ite_fail_eq_ok_iff, Command.mapError_eq_ok_iff, Os.readKeyFile,
      Os.reading_eq_ok_iff, Option.okOr_eq_ok_iff] at h
    exact h.2
  · rintro ⟨hfault, hpem, hw'⟩
    refine ⟨_, _, ⟨rfl, rfl⟩, _, _, ⟨rfl, rfl⟩, ?_⟩
    rw [hpem, Option.isSome_some, if_neg (by simp)]
    simp only [Command.mapError_eq_ok_iff, Os.readKeyFile, Os.reading_eq_ok_iff,
      Option.okOr_eq_ok_iff]
    exact ⟨hfault, hpem, hw'⟩

/-- What a call that fails has done: nothing, or the next directory is there, with the files that
were written. -/
theorem triple_addVersion {staged : StagedKeys} :
    (entry.addVersion X env staged).Triple w (fun _ _ => True) fun w' =>
      w'.keyStore = w.keyStore ∧ (env.fault w.tick (.readKeyStore entry.hash) ≠ none ∨
        (w.keyStore.get entry.hash).bind EntryDir.latestNumber = none ∨
        env.fault (w.tick + 1) (.writeKeyStore entry.hash) ≠ none) ∨
      ∃ dir m, env.fault w.tick (.readKeyStore entry.hash) = none ∧
        env.fault (w.tick + 1) (.writeKeyStore entry.hash) = none ∧
        w.keyStore.get entry.hash = some dir ∧ dir.latestNumber = some m ∧
        w'.keyStore = w.keyStore.insert entry.hash (dir.withFiles (snapshotName (m + 1))
          (filesLeft env entry.hash (w.tick + 2) (staged.keyFiles X))) := by
  -- The latest version is read first, which changes nothing.
  have hlatest : (entry.latestVersion env).Triple w
      (fun m w' => w' = w.ticked ∧ env.fault w.tick (.readKeyStore entry.hash) = none ∧
        ∃ dir, w.keyStore.get entry.hash = some dir ∧ dir.latestNumber = some m)
      fun w' => w'.keyStore = w.keyStore ∧ (env.fault w.tick (.readKeyStore entry.hash) ≠ none ∨
        (w.keyStore.get entry.hash).bind EntryDir.latestNumber = none) := by
    refine ⟨fun m w' h => ?_, fun e w' h => ?_⟩
    · obtain ⟨hfault, hnumber, hw'⟩ := latestVersion_eq_ok_iff.mp h
      exact ⟨hw'.symm, hfault, Option.bind_eq_some_iff.mp hnumber⟩
    · have hkeeps : (entry.latestVersion env).Keeps World.keyStore :=
        .bind (.mapError (Os.keeps_reading fun _ => rfl)) fun _ => .ofExcept
      refine ⟨hkeeps.eq h, ?_⟩
      by_contra hcond
      rw [not_or, not_not] at hcond
      obtain ⟨m, hm⟩ := Option.ne_none_iff_exists'.mp hcond.2
      rw [latestVersion_eq_ok_iff.mpr ⟨hcond.1, hm, rfl⟩] at h
      cases h
  refine .bind (hlatest.mono (fun _ _ h => h) ?_) ?_
  · rintro w' ⟨hsame, hcond⟩
    exact .inl ⟨hsame, hcond.imp_right .inl⟩
  · rintro m w₁ ⟨hw₁, hread, dir, hdir, hnumber⟩
    have htick : w₁.tick = w.tick + 1 := hw₁ ▸ rfl
    have hkeyStore : w₁.keyStore = w.keyStore := hw₁ ▸ rfl
    have hentry : entryDir w₁ entry.hash = dir := by
      rw [entryDir, hkeyStore, hdir, Option.getD_some]
    -- The first write makes the directory of the snapshot; if it fails the entry is as it was.
    refine .bind (Q := fun _ _ => True) (triple_writeKeys.mono (fun _ _ _ => trivial) ?_)
      fun _ _ _ => .pure trivial
    intro w' h
    rw [htick, hkeyStore, hentry] at h
    rcases h with ⟨f, hfault, hw'⟩ | ⟨hfault, hw'⟩
    · refine .inl ⟨?_, .inr (.inr ?_)⟩
      · -- The directory of the entry is there already.
        rw [hw', OrdMap.insert_of_get hdir, ite_self]
      · rw [hfault]
        exact Option.some_ne_none f
    · exact .inr ⟨dir, m, hread, hfault, hdir, hnumber, hw'⟩

/-- The public keys that a call has left in the next snapshot are there already. -/
def PublicKeysKept (X : ToolCrates) (env : Env) (entry : KeyStoreEntry) (staged : StagedKeys)
    (w : World) (n : ℕ) : Prop :=
  ∀ role text,
    (keyFileName role false, text) ∈ filesLeft env entry.hash (w.tick + 2) (staged.keyFiles X) →
      Os.keyFile w entry.hash (snapshotName n) (keyFileName role false) = some text

/-- A directory whose number is not recognised is seen in the public keys only. -/
theorem alike_addVersion {staged : StagedKeys} (hdir : w.keyStore.get entry.hash = some dir)
    (hm : 9999 ≤ m)
    (hdir' : w'.keyStore.get entry.hash = some (dir.withFiles (snapshotName (m + 1))
      (filesLeft env entry.hash (w.tick + 2) (staged.keyFiles X))))
    (hkept : PublicKeysKept X env entry staged w (m + 1)) (t : ℕ) :
    Alike entry.hash (w.atTick t) (w'.atTick t) := by
  have hget : (w.atTick t).keyStore.get entry.hash = some dir := hdir
  have hget' : (w'.atTick t).keyStore.get entry.hash = _ := hdir'
  -- The tick, the `did.txt`, the numbers, the latest private keys and all public keys are compared.
  refine ⟨rfl, ?_, ?_, ?_, ?_⟩
  · rw [hget, hget', Option.map_some, Option.map_some, EntryDir.didTxt_withFiles]
  · rw [hget, hget', Option.map_some, Option.map_some,
      EntryDir.numbers_withFiles (Nat.lt_succ_of_le hm)]
  · -- The latest snapshot has a number that is recognised.
    intro n role hn
    rw [hget, Option.bind_some] at hn
    obtain ⟨hmem, -⟩ := EntryDir.latestNumber_eq_some_iff.mp hn
    obtain ⟨name, _, _, hname⟩ := EntryDir.mem_numbers_iff.mp hmem
    have hle := le_of_snapshotNumber hname
    refine (keyFile_withFiles_of_ne hget hget' fun hnames => ?_).symm
    have heq := snapshotName_injective hnames
    omega
  · intro n role
    -- In the new directory a public key is either written, and was the same before, or not touched.
    by_cases hn : n = m + 1
    · subst hn
      have hnodup : ((filesLeft env entry.hash (w.tick + 2) (staged.keyFiles X)).map
          Prod.fst).Nodup := nodup_filesLeft (w.tick + 2) staged
      by_cases hwritten : keyFileName role false ∈
          (filesLeft env entry.hash (w.tick + 2) (staged.keyFiles X)).map Prod.fst
      · obtain ⟨⟨name, text⟩, hmem, hname⟩ := List.mem_map.mp hwritten
        obtain rfl : name = keyFileName role false := hname
        rw [keyFile_of_mem hget' hnodup hmem]
        exact hkept role text hmem
      · exact (keyFile_withFiles_of_notMem hget hget' hnodup hwritten).symm
    · exact (keyFile_withFiles_of_ne hget hget' fun hnames =>
        hn (snapshotName_injective hnames)).symm

/-- A failed call is not seen when it fails before it has made a directory, and otherwise when the
number of this directory is not recognised and the public keys in it are there already. -/
theorem sameReaders_addVersion_iff {did : DID} {staged : StagedKeys} {e : KeyStoreError}
    (h : (entryOf X did).addVersion X env staged w = (.error e, w')) :
    SameReaders X did w w' ↔
      env.fault w.tick (.readKeyStore (entryOf X did).hash) ≠ none ∨
        (w.keyStore.get (entryOf X did).hash).bind EntryDir.latestNumber = none ∨
        env.fault (w.tick + 1) (.writeKeyStore (entryOf X did).hash) ≠ none ∨
        ∃ m, (w.keyStore.get (entryOf X did).hash).bind EntryDir.latestNumber = some m ∧
          9999 ≤ m ∧ PublicKeysKept X env (entryOf X did) staged w (m + 1) := by
  -- Either the key store is as it was, or the files that are left are in a new directory.
  rcases triple_addVersion.2 e w' h with
    ⟨hsame, hcond⟩ | ⟨dir, m, hread, hwrite, hdir, hnumber, hkeyStore⟩
  · refine ⟨fun _ => ?_, fun _ => .of_keyStore_eq hsame⟩
    rcases hcond with hread | hnone | hwrite
    · exact .inl hread
    · exact .inr (.inl hnone)
    · exact .inr (.inr (.inl hwrite))
  have hlatest : (w.keyStore.get (entryOf X did).hash).bind EntryDir.latestNumber = some m := by
    rw [hdir, Option.bind_some, hnumber]
  have hdir' : w'.keyStore.get (entryOf X did).hash = some (dir.withFiles (snapshotName (m + 1))
      (filesLeft env (entryOf X did).hash (w.tick + 2) (staged.keyFiles X))) := by
    rw [hkeyStore, OrdMap.get_insert, if_pos rfl]
  constructor
  · -- Readers of the same answers find the same latest version and the same public keys.
    intro hreaders
    let calm : Env := .calm (fun _ _ => .failed []) 0
    refine .inr (.inr (.inr ⟨m, hlatest, ?_, ?_⟩))
    · -- Otherwise the latest snapshot is another one than before.
      by_contra hm
      have hbefore : (entryOf X did).latestVersion calm (w.atTick 0) = (.ok m, _) :=
        latestVersion_eq_ok_iff.mpr ⟨rfl, hlatest, rfl⟩
      have hafter : (entryOf X did).latestVersion calm (w'.atTick 0) =
          (.ok (m + 1), (w'.atTick 0).ticked) := by
        refine latestVersion_eq_ok_iff.mpr ⟨rfl, ?_, rfl⟩
        show (w'.keyStore.get _).bind _ = _
        rw [hdir', Option.bind_some, EntryDir.latestNumber_withFiles hnumber,
          if_pos (Nat.not_le.mp hm)]
      have hversion := hreaders.latestVersion calm 0
      rw [hbefore, hafter] at hversion
      exact absurd (Except.ok.inj hversion) (Nat.succ_ne_self m)
    · -- A public key that is left can be read afterwards, and so before.
      intro role text hmem
      have hafter : (entryOf X did).publicKeyPem calm role (some (m + 1)) (w'.atTick 0) =
          (.ok text, _) :=
        publicKeyPem_some_eq_ok_iff.mpr ⟨rfl, keyFile_of_mem hdir' (nodup_filesLeft _ _) hmem, rfl⟩
      have hpem := hreaders.publicKeyPem calm 0 role (some (m + 1))
      rw [hafter] at hpem
      exact (publicKeyPem_some_eq_ok_iff.mp (Command.eq_ok_of_fst_eq hpem.symm)).2.1
  · intro hcond
    -- The directory was made, so the number was not recognised and the keys in it were there.
    rcases hcond with hread' | hnone | hwrite' | ⟨m', hm', hle, hkept⟩
    · exact absurd hread hread'
    · rw [hlatest] at hnone
      cases hnone
    · exact absurd hwrite hwrite'
    · obtain rfl : m = m' := Option.some.inj (hlatest.symm.trans hm')
      exact .of_alike fun t => alike_addVersion hdir hle hdir' hkept t

end KeyStoreEntry

/-! ## Both calls -/

/-- The failed writes to the key store that nobody sees: a commit that finds a directory or whose
first step fails without an effect, and the addition of a snapshot that fails before it has made a
directory, or after it has made one that is not recognised and in which no public key changes. -/
theorem unseen_iff {did : DID} {staged : StagedKeys} {w w' : World} {e : KeyStoreError} :
    (KeyStore.commit X env staged did w = (.error e, w') →
      (SameReaders X did w w' ↔ (w.keyStore.get (didToHash X did.toText)).isSome = true ∨
        ∃ f, env.fault w.tick (.writeKeyStore (didToHash X did.toText)) = some f ∧
          f.leaves = none)) ∧
    ((entryOf X did).addVersion X env staged w = (.error e, w') →
      (SameReaders X did w w' ↔
        env.fault w.tick (.readKeyStore (entryOf X did).hash) ≠ none ∨
          (w.keyStore.get (entryOf X did).hash).bind EntryDir.latestNumber = none ∨
          env.fault (w.tick + 1) (.writeKeyStore (entryOf X did).hash) ≠ none ∨
          ∃ m, (w.keyStore.get (entryOf X did).hash).bind EntryDir.latestNumber = some m ∧
            9999 ≤ m ∧ KeyStoreEntry.PublicKeysKept X env (entryOf X did) staged w (m + 1))) :=
  ⟨sameReaders_commit_iff, KeyStoreEntry.sameReaders_addVersion_iff⟩

/-! ## A sample entry -/

namespace Sample

/-- A DID. -/
def keptDid : DID := ⟨.tdw, some "Qm", "example", none, by decide, DID.noPath_valid⟩

/-- A key store in which the DID has one snapshot. -/
def keptWorld : World where
  files := ∅
  keyStore := OrdMap.ofList [((entryOf toolCrates keptDid).hash,
    ⟨some keptDid.toText, OrdMap.ofList [("0001", ∅)]⟩)]

/-- An environment in which one operation fails without an effect. -/
def failingAt (tick : ℕ) : Env :=
  { quietEnv with fault := fun n _ => if n = tick then some { source := [] } else none }

/-- The call that adds a snapshot, when one operation fails. -/
def failingCall (tick : ℕ) : Except KeyStoreError ℕ × World :=
  (entryOf toolCrates keptDid).addVersion toolCrates (failingAt tick) snapshotKeys keptWorld

theorem failingCall_error : (failingCall 1).1 = .error (.io []) ∧
    (failingCall 2).1 = .error (.crypto (.io [])) ∧
    (KeyStore.commit toolCrates quietEnv snapshotKeys keptDid keptWorld).1 =
      .error (.alreadyExists (entryOf toolCrates keptDid).hash) ∧
    ((entryOf toolCrates keptDid).latestVersion quietEnv (keptWorld.atTick 9)).1 = .ok 1 ∧
    ((entryOf toolCrates keptDid).latestVersion quietEnv ((failingCall 2).2.atTick 9)).1 =
      .ok 2 := by
  decide +kernel

/-- A commit into a directory that is there is not seen, nor is the addition of a snapshot whose
directory cannot be made. -/
theorem failingCall_unseen :
    SameReaders toolCrates keptDid keptWorld
        (KeyStore.commit toolCrates quietEnv snapshotKeys keptDid keptWorld).2 ∧
      SameReaders toolCrates keptDid keptWorld (failingCall 1).2 := by
  have hcommit : KeyStore.commit toolCrates quietEnv snapshotKeys keptDid keptWorld =
      (.error (.alreadyExists (entryOf toolCrates keptDid).hash), _) :=
    Prod.ext failingCall_error.2.2.1 rfl
  have hcall : (entryOf toolCrates keptDid).addVersion toolCrates (failingAt 1) snapshotKeys
      keptWorld = (.error (.io []), (failingCall 1).2) :=
    Prod.ext failingCall_error.1 rfl
  exact ⟨(unseen_iff.1 hcommit).mpr (.inl rfl),
    (unseen_iff.2 hcall).mpr (.inr (.inr (.inl (Option.some_ne_none _))))⟩

/-- When the first key file cannot be written, the snapshot is there all the same: it is found to be
the latest. -/
theorem failingCall_seen :
    (entryOf toolCrates keptDid).addVersion toolCrates (failingAt 2) snapshotKeys keptWorld =
        (.error (.crypto (.io [])), (failingCall 2).2) ∧
      ¬ SameReaders toolCrates keptDid keptWorld (failingCall 2).2 := by
  refine ⟨Prod.ext failingCall_error.2.1 rfl, fun hreaders => ?_⟩
  have hversion := hreaders.latestVersion quietEnv 9
  rw [failingCall_error.2.2.2.1, failingCall_error.2.2.2.2] at hversion
  cases hversion

end Sample

end Swiyu
