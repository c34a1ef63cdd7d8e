import Swiyu.Didtool.KeyStore.Files

/-!
# Snapshots of an entry

A new snapshot gets the number after the latest one, which is found by the names of the snapshot
directories. These are recognised by four digits, while the number in a new name may have five: at
number 9999 an entry stops growing, and every later call writes the same directory.

## Main definitions

- `Swiyu.KeyStoreEntry.Grows`: what is expected of a call that adds a snapshot.
- `Swiyu.KeyStoreEntry.Additions`: successive calls that add snapshots.

## Main results

- `Swiyu.KeyStoreEntry.addVersion_spec`: what a call that adds a snapshot leaves.
- `Swiyu.KeyStoreEntry.additions_grow_iff`: successive calls do what is expected of them as long as
  the numbers do not go beyond 9999, and no longer.
-/

namespace Swiyu

variable {X : ToolCrates} {env : Env} {w w' : World} {dir : EntryDir} {n m : ℕ}

/-! ## Numbers -/

/-- A new directory adds its number, if it is recognised. -/
theorem EntryDir.mem_numbers_withFiles {files : List (Text × Text)} :
    m ∈ (dir.withFiles (snapshotName n) files).numbers ↔ m = n ∧ n ≤ 9999 ∨ m ∈ dir.numbers := by
  rw [mem_numbers_iff, mem_numbers_iff]
  constructor
  · rintro ⟨name, present, hget, hnumber⟩
    rw [get_withFiles] at hget
    split_ifs at hget with hname
    · rw [hname, snapshotNumber_snapshotName] at hnumber
      split_ifs at hnumber with hn
      exact .inl ⟨(Option.some.inj hnumber).symm, hn⟩
    · exact .inr ⟨name, present, hget, hnumber⟩
  · intro h
    rcases h with ⟨rfl, hn⟩ | ⟨name, present, hget, hnumber⟩
    · refine ⟨snapshotName m, _, (dir.get_withFiles _ files _).trans (if_pos rfl), ?_⟩
      rw [snapshotNumber_snapshotName, if_pos hn]
    · by_cases hname : name = snapshotName n
      · exact ⟨name, _, (dir.get_withFiles _ files _).trans (if_pos hname), hnumber⟩
      · refine ⟨name, present, ?_, hnumber⟩
        rw [get_withFiles, if_neg hname, hget]

theorem ofDigitChars_lt {l : Text} (h : ∀ c ∈ l, c.isDigit = true) :
    Nat.ofDigitChars 10 l 0 < 10 ^ l.length := by
  induction l with
  | nil => exact Nat.one_pos
  | cons c l ih =>
    rw [List.forall_mem_cons] at h
    have hdigit : c.toNat - '0'.toNat ≤ 9 := by
      have hle : c.toNat ≤ 57 := (Char.isDigit_iff_toNat.mp h.1).2
      show c.toNat - 48 ≤ 9
      omega
    have hrest := ih h.2
    rw [Nat.ofDigitChars_cons, Nat.ofDigitChars_eq_ofDigitChars_zero, List.length_cons,
      Nat.pow_succ]
    have hmul := Nat.mul_le_mul_left (10 ^ l.length) hdigit
    rw [Nat.mul_zero, Nat.zero_add]
    omega

/-- The names of snapshots that are recognised have numbers up to 9999. -/
theorem le_of_snapshotNumber {name : Text} (h : snapshotNumber name = some n) : n ≤ 9999 := by
  unfold snapshotNumber at h
  split_ifs at h with hname
  obtain rfl := Option.some.inj h
  have hlt := ofDigitChars_lt (List.all_eq_true.mp hname.2)
  rw [hname.1] at hlt
  exact Nat.le_of_lt_succ hlt

/-- A directory with a number that is not recognised is not listed. -/
theorem EntryDir.numbers_withFiles (hn : 9999 < n) (files : List (Text × Text)) :
    (dir.withFiles (snapshotName n) files).numbers = dir.numbers := by
  refine OrdMap.filterMap_keys_insert ?_ dir.snapshots _
  rw [snapshotNumber_snapshotName, if_neg (Nat.not_le.mpr hn)]

/-- The directory after the latest one becomes the latest, unless its number is not recognised. -/
theorem EntryDir.latestNumber_withFiles (h : dir.latestNumber = some m)
    (files : List (Text × Text)) :
    (dir.withFiles (snapshotName (m + 1)) files).latestNumber =
      some (if m < 9999 then m + 1 else m) := by
  obtain ⟨hmem, hmax⟩ := latestNumber_eq_some_iff.mp h
  rw [latestNumber_eq_some_iff]
  split_ifs with hm
  · refine ⟨mem_numbers_withFiles.mpr (.inl ⟨rfl, hm⟩), fun l hl => ?_⟩
    rcases mem_numbers_withFiles.mp hl with ⟨rfl, -⟩ | hl
    · exact le_rfl
    · exact Nat.le_succ_of_le (hmax l hl)
  · refine ⟨mem_numbers_withFiles.mpr (.inr hmem), fun l hl => ?_⟩
    rcases mem_numbers_withFiles.mp hl with ⟨-, hm'⟩ | hl
    · exact absurd hm' hm
    · exact hmax l hl

/-- No directory has the name after the latest one. -/
theorem EntryDir.get_next (h : dir.latestNumber = some m) (hm : m < 9999) :
    dir.snapshots.get (snapshotName (m + 1)) = none := by
  by_contra hsome
  obtain ⟨files, hfiles⟩ := Option.ne_none_iff_exists'.mp hsome
  have hnumber : snapshotNumber (snapshotName (m + 1)) = some (m + 1) := by
    rw [snapshotNumber_snapshotName, if_pos (Nat.succ_le_of_lt hm)]
  have hle := (latestNumber_eq_some_iff.mp h).2 _ (mem_numbers_iff.mpr ⟨_, _, hfiles, hnumber⟩)
  exact absurd hle (Nat.not_succ_le_self m)

namespace KeyStoreEntry

variable {entry : KeyStoreEntry} {staged : StagedKeys}

/-! ## One call -/

/-- A call that adds a snapshot has found a latest one, and the six files are in the next. -/
theorem addVersion_spec (h : entry.addVersion X env staged w = (.ok n, w')) :
    ∃ dir m tick, w.keyStore.get entry.hash = some dir ∧ dir.latestNumber = some m ∧ n = m + 1 ∧
      w'.keyStore = w.keyStore.insert entry.hash (dir.withFiles (snapshotName n)
        (filesLeft env entry.hash tick (staged.keyFiles X))) ∧
      ∀ file ∈ staged.keyFiles X, ∃ pem, file.pem = .ok pem ∧
        (file.name, pem) ∈ filesLeft env entry.hash tick (staged.keyFiles X) := by
  unfold addVersion at h
  simp only [Command.bind_eq_ok_iff, Command.pure_eq_ok_iff] at h
  obtain ⟨m, w₁, hlatest, _, w₂, hwrite, rfl, rfl⟩ := h
  obtain ⟨-, hnumber, rfl⟩ := latestVersion_eq_ok_iff.mp hlatest
  obtain ⟨dir, hdir, hnumber⟩ := Option.bind_eq_some_iff.mp hnumber
  obtain ⟨-, hkeyStore, hall⟩ := triple_writeKeys.1 _ _ hwrite
  have hentry : entryDir w.ticked entry.hash = dir := by
    unfold entryDir
    rw [World.keyStore_ticked, hdir, Option.getD_some]
  rw [hentry] at hkeyStore
  exact ⟨dir, m, _, hdir, hnumber, rfl, hkeyStore, hall⟩

variable (X entry) in
/-- Whenever the key store is that of `w` and can be read, the latest snapshot is found to be `n`,
and the keys that are loaded without a number are those given. -/
def Reads (w : World) (n : ℕ) (staged : StagedKeys) : Prop :=
  ∀ (env : Env) (v : World), v.keyStore = w.keyStore →
    (∀ t, env.fault t (.readKeyStore entry.hash) = none) →
    (entry.latestVersion env v).1 = .ok n ∧
      (entry.loadEddsa X env .authorized none v).1 = .ok staged.authorized ∧
      (entry.loadEcdsa X env .authentication none v).1 = .ok staged.authentication ∧
      (entry.loadEcdsa X env .assertion none v).1 = .ok staged.assertion

theorem reads_of_storedKey
    (hlatest : (w.keyStore.get entry.hash).bind EntryDir.latestNumber = some n)
    (hkey : ∀ role, storedKey X w entry.hash n role = some (staged.key role)) :
    Reads X entry w n staged := by
  intro env v hv hfault
  have hversion : entry.latestVersion env v = (.ok n, v.ticked) :=
    latestVersion_eq_ok_iff.mpr ⟨hfault _, hv ▸ hlatest, rfl⟩
  have hload : ∀ role, (entry.load env (parsePrivateKey X role) role none v).1 =
      .ok (staged.key role) := by
    intro role
    obtain ⟨pem, hpem, hparse⟩ := storedKey_eq_some_iff.mp (hkey role)
    have hpem' : Os.keyFile v.ticked entry.hash (snapshotName n) (keyFileName role true) =
        some pem := by
      rw [← hpem, Os.keyFile, Os.keyFile, World.keyStore_ticked, hv]
    have hsome : entry.load env (parsePrivateKey X role) role (some n) v.ticked =
        (.ok (staged.key role), v.ticked.ticked) :=
      load_some_eq_ok_iff.mpr ⟨hfault _, ⟨pem, hpem', hparse⟩, rfl⟩
    have hnone : entry.load env (parsePrivateKey X role) role none v =
        (.ok (staged.key role), v.ticked.ticked) := by
      rw [load_none, Command.bind_eq_ok_iff]
      exact ⟨n, _, hversion, hsome⟩
    rw [hnone]
  exact ⟨by rw [hversion], hload .authorized, hload .authentication, hload .assertion⟩

variable (X entry) in
/-- What is expected of a call that adds the snapshot `n`: its number is above all earlier ones, it
is read from then on, and the earlier snapshots stay as they are. -/
structure Grows (w w' : World) (staged : StagedKeys) (n : ℕ) : Prop where
  greater : ∀ m ∈ (entryDir w entry.hash).numbers, m < n
  reads : Reads X entry w' n staged
  unchanged : ∀ name files, (entryDir w entry.hash).snapshots.get name = some files →
    (entryDir w' entry.hash).snapshots.get name = some files

theorem entryDir_insert {hash : Text} (h : w'.keyStore = w.keyStore.insert hash dir) :
    entryDir w' hash = dir := by
  rw [entryDir, h, OrdMap.get_insert, if_pos rfl, Option.getD_some]

/-- A call does what is expected if and only if the latest number before it is below 9999. -/
theorem grows_iff (hX : X.Lawful) (h : entry.addVersion X env staged w = (.ok n, w'))
    (hlatest : (entryDir w entry.hash).latestNumber = some m) :
    Grows X entry w w' staged n ↔ m < 9999 := by
  obtain ⟨dir, m', tick, hdir, hnumber, rfl, hkeyStore, hall⟩ := addVersion_spec h
  have hentry : entryDir w entry.hash = dir := by rw [entryDir, hdir, Option.getD_some]
  rw [hentry, hnumber, Option.some.injEq] at hlatest
  rw [hlatest] at hnumber hkeyStore ⊢
  -- The call has added the directory of the next number.
  have hget : w'.keyStore.get entry.hash = some (dir.withFiles (snapshotName (m + 1))
      (filesLeft env entry.hash tick (staged.keyFiles X))) := by
    rw [hkeyStore, OrdMap.get_insert, if_pos rfl]
  have hnumber' := EntryDir.latestNumber_withFiles hnumber
    (filesLeft env entry.hash tick (staged.keyFiles X))
  constructor
  · intro hgrows
    by_contra hm
    -- The latest snapshot is found to be the one before.
    have hread := (hgrows.reads (.calm (fun _ _ => .failed []) 0) w' rfl fun _ => rfl).1
    rw [if_neg hm] at hnumber'
    have hversion : entry.latestVersion (.calm (fun _ _ => .failed []) 0) w' =
        (.ok m, w'.ticked) := by
      refine latestVersion_eq_ok_iff.mpr ⟨rfl, ?_, rfl⟩
      rw [hget, Option.bind_some, hnumber']
    rw [hversion] at hread
    exact absurd (Except.ok.inj hread) (Nat.succ_ne_self m).symm
  · -- A number of four digits is recognised, and is the latest.
    intro hm
    rw [if_pos hm] at hnumber'
    refine ⟨?_, ?_, ?_⟩
    · rw [hentry]
      exact fun l hl => Nat.lt_succ_of_le ((EntryDir.latestNumber_eq_some_iff.mp hnumber).2 l hl)
    · refine reads_of_storedKey ?_ (storedKey_of_all hX hget hall)
      rw [hget, Option.bind_some, hnumber']
    · intro name files hfiles
      rw [hentry] at hfiles
      rw [entryDir_insert hkeyStore, EntryDir.get_withFiles, if_neg, hfiles]
      intro hname
      rw [hname, EntryDir.get_next hnumber hm] at hfiles
      cases hfiles

/-- Below 9999 the number of the call is the next one, and becomes the latest. -/
theorem latest_addVersion (h : entry.addVersion X env staged w = (.ok n, w'))
    (hlatest : (entryDir w entry.hash).latestNumber = some m) (hm : m < 9999) :
    n = m + 1 ∧ (entryDir w' entry.hash).latestNumber = some (m + 1) := by
  obtain ⟨dir, m', tick, hdir, hnumber, rfl, hkeyStore, -⟩ := addVersion_spec h
  rw [entryDir, hdir, Option.getD_some, hnumber, Option.some.injEq] at hlatest
  rw [hlatest] at hnumber hkeyStore ⊢
  refine ⟨rfl, ?_⟩
  rw [entryDir_insert hkeyStore, EntryDir.latestNumber_withFiles hnumber, if_pos hm]

/-! ## Successive calls -/

variable (X env entry) in
/-- There are `k` successive calls that succeed, and nothing else changes the key store. -/
def Additions (k : ℕ) (ws : ℕ → World) (stageds : ℕ → StagedKeys) (ns : ℕ → ℕ) : Prop :=
  ∀ i < k, ∃ w', entry.addVersion X env (stageds i) (ws i) = (.ok (ns i), w') ∧
    (ws (i + 1)).keyStore = w'.keyStore

variable (X entry) in
/-- What is expected of successive calls: each does what is expected of it, the numbers increase,
and the snapshots before a call are there, as they were, after any later one. -/
structure AllGrow (k : ℕ) (ws : ℕ → World) (stageds : ℕ → StagedKeys) (ns : ℕ → ℕ) : Prop where
  step : ∀ i < k, Grows X entry (ws i) (ws (i + 1)) (stageds i) (ns i)
  increasing : ∀ i j, i < j → j < k → ns i < ns j
  unchanged : ∀ i j, i ≤ j → j ≤ k → ∀ name files,
    (entryDir (ws i) entry.hash).snapshots.get name = some files →
      (entryDir (ws j) entry.hash).snapshots.get name = some files

theorem entryDir_congr {hash : Text} (h : w'.keyStore = w.keyStore) :
    entryDir w' hash = entryDir w hash := by
  rw [entryDir, entryDir, h]

theorem grows_congr {w₁ : World} (h : w₁.keyStore = w'.keyStore) :
    Grows X entry w w₁ staged n ↔ Grows X entry w w' staged n := by
  have hreads : Reads X entry w₁ n staged ↔ Reads X entry w' n staged := by
    unfold Reads
    rw [h]
  constructor
  · intro hgrows
    exact ⟨hgrows.greater, hreads.mp hgrows.reads, entryDir_congr h ▸ hgrows.unchanged⟩
  · intro hgrows
    exact ⟨hgrows.greater, hreads.mpr hgrows.reads, (entryDir_congr h).symm ▸ hgrows.unchanged⟩

variable {k : ℕ} {ws : ℕ → World} {stageds : ℕ → StagedKeys} {ns : ℕ → ℕ}

/-- As long as the numbers stay below 9999, the latest one goes up by one with each call. -/
theorem latest_additions (hrun : Additions X env entry k ws stageds ns)
    (hlatest : (entryDir (ws 0) entry.hash).latestNumber = some m) {i : ℕ} (hi : i ≤ k)
    (hbelow : ∀ j < i, m + j < 9999) :
    (entryDir (ws i) entry.hash).latestNumber = some (m + i) := by
  induction i with
  | zero => exact hlatest
  | succ i ih =>
    have hbefore := ih (Nat.le_of_succ_le hi) fun j hj => hbelow j (Nat.lt_succ_of_lt hj)
    obtain ⟨w', hcall, hkeyStore⟩ := hrun i hi
    rw [entryDir_congr hkeyStore]
    exact (latest_addVersion hcall hbefore (hbelow i (Nat.lt_succ_self i))).2

/-- Successive calls that add snapshots do what is expected of them if and only if each of them
finds a latest number below 9999. -/
theorem additions_grow_iff (hX : X.Lawful) (hrun : Additions X env entry k ws stageds ns)
    (hlatest : (entryDir (ws 0) entry.hash).latestNumber = some m) :
    AllGrow X entry k ws stageds ns ↔ ∀ i < k, m + i < 9999 := by
  constructor
  · intro hgrow i
    -- By strong induction: a call that grows has found a number below 9999.
    induction i using Nat.strongRecOn with
    | _ i ih =>
      intro hi
      have hbefore := latest_additions hrun hlatest (Nat.le_of_lt hi) fun j hj =>
        ih j hj (hj.trans hi)
      obtain ⟨w', hcall, hkeyStore⟩ := hrun i hi
      exact (grows_iff hX hcall hbefore).mp ((grows_congr hkeyStore).mp (hgrow.step i hi))
  · -- The latest number grows by one with every call.
    intro hbelow
    have hlatests : ∀ i ≤ k, (entryDir (ws i) entry.hash).latestNumber = some (m + i) :=
      fun i hi => latest_additions hrun hlatest hi fun j hj => hbelow j (hj.trans_le hi)
    have hstep : ∀ i < k, Grows X entry (ws i) (ws (i + 1)) (stageds i) (ns i) := by
      intro i hi
      obtain ⟨w', hcall, hkeyStore⟩ := hrun i hi
      exact (grows_congr hkeyStore).mpr
        ((grows_iff hX hcall (hlatests i (Nat.le_of_lt hi))).mpr (hbelow i hi))
    have hnumber : ∀ i < k, ns i = m + i + 1 := by
      intro i hi
      obtain ⟨w', hcall, -⟩ := hrun i hi
      exact (latest_addVersion hcall (hlatests i (Nat.le_of_lt hi)) (hbelow i hi)).1
    refine ⟨hstep, ?_, ?_⟩
    · intro i j hij hj
      rw [hnumber i (hij.trans hj), hnumber j hj]
      omega
    · intro i j hij hj name files hfiles
      -- An earlier snapshot is left alone by every later call.
      induction j, hij using Nat.le_induction with
      | base => exact hfiles
      | succ j hij ih => exact (hstep j hj).unchanged name files (ih (Nat.le_of_succ_le hj))

end KeyStoreEntry

/-! ## A sample entry -/

namespace Sample

/-- An entry. -/
def snapshotEntry : KeyStoreEntry := ⟨"0123456789ab", []⟩

/-- A key store in which the entry has one snapshot directory. -/
def snapshotWorld (name : Text) : World where
  files := ∅
  keyStore := OrdMap.ofList [(snapshotEntry.hash, ⟨none, OrdMap.ofList [(name, ∅)]⟩)]

/-- An environment in which nothing fails. -/
def quietEnv : Env := .calm (fun _ _ => .failed []) 0

/-- The keys of a new snapshot. -/
def snapshotKeys : StagedKeys := ⟨seed, authenticationSecret, assertionSecret⟩

/-- What the call does to the entry. -/
def snapshotCall (name : Text) : Except KeyStoreError ℕ × World :=
  snapshotEntry.addVersion toolCrates quietEnv snapshotKeys (snapshotWorld name)

theorem snapshotCall_ok : (snapshotCall "0001").1 = .ok 2 ∧ (snapshotCall "9999").1 = .ok 10000 ∧
    (entryDir (snapshotWorld "0001") snapshotEntry.hash).latestNumber = some 1 ∧
    (snapshotEntry.latestVersion quietEnv (snapshotCall "9999").2).1 = .ok 9999 := by
  decide +kernel

/-- The states before and after a call that finds snapshot 1. -/
def snapshotWorlds (i : ℕ) : World :=
  if i = 0 then snapshotWorld "0001" else (snapshotCall "0001").2

/-- After snapshot 1 a call does what is expected of it. -/
theorem snapshotCall_grows : KeyStoreEntry.AllGrow toolCrates snapshotEntry 1 snapshotWorlds
    (fun _ => snapshotKeys) (fun _ => 2) := by
  have hrun : KeyStoreEntry.Additions toolCrates quietEnv snapshotEntry 1 snapshotWorlds
      (fun _ => snapshotKeys) (fun _ => 2) := by
    intro i hi
    obtain rfl := Nat.lt_one_iff.mp hi
    exact ⟨(snapshotCall "0001").2, Command.eq_ok_of_fst_eq snapshotCall_ok.1, rfl⟩
  have hlatest : (entryDir (snapshotWorlds 0) snapshotEntry.hash).latestNumber = some 1 :=
    snapshotCall_ok.2.2.1
  refine (KeyStoreEntry.additions_grow_iff lawful_toolCrates hrun hlatest).mpr fun i hi => ?_
  omega

/-- After snapshot 9999 a call writes a directory that nobody sees: the latest snapshot is found to
be the one before. -/
theorem snapshotCall_lost :
    snapshotEntry.addVersion toolCrates quietEnv snapshotKeys (snapshotWorld "9999") =
        (.ok 10000, (snapshotCall "9999").2) ∧
      (snapshotEntry.latestVersion quietEnv (snapshotCall "9999").2).1 = .ok 9999 ∧
      ¬ KeyStoreEntry.Grows toolCrates snapshotEntry (snapshotWorld "9999")
        (snapshotCall "9999").2 snapshotKeys 10000 := by
  have hlatest := snapshotCall_ok.2.2.2
  refine ⟨Command.eq_ok_of_fst_eq snapshotCall_ok.2.1, hlatest, fun hgrows => ?_⟩
  have hread := (hgrows.reads quietEnv _ rfl fun _ => rfl).1
  rw [hlatest] at hread
  cases hread

end Sample

end Swiyu
