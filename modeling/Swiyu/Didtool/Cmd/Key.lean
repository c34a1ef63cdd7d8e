import Swiyu.Didtool.Cmd.Did.Published

/-!
# Listing, comparing and exporting keys

The `key` commands read the key store and nothing else. They list its entries, tell which public
keys have changed from one snapshot to the next, and copy keys to files, from where rotations can
take them.

## Main definitions

- `Swiyu.KeyStore.list`: the entries of the key store.
- `Swiyu.Key.cmdVersions`, `Swiyu.Key.cmdShow`, `Swiyu.Key.cmdExport`: the commands.
- `Swiyu.Key.changedKeys`: the roles in which two sets of keys differ.

## Main results

- `Swiyu.KeyStore.list_spec`, `Swiyu.KeyStore.mem_list_iff`: what is listed.
- `Swiyu.Key.cmdVersions_of_run`: the history that the versions of a DID tell.
- `Swiyu.Key.cmdShow_of_run`: the public keys that are shown of a DID.
- `Swiyu.Key.cmdExport_of_run`: an exported key is read back, and the life of its DID goes on.
-/

namespace Swiyu

/-! ## The key store -/

/-- An entry of the key store, as it is listed. -/
structure KeyStoreListEntry where
  /-- Names the entry's directory. -/
  hash : Text
  /-- The DID read from `did.txt`. -/
  did : Text
  deriving DecidableEq

/-- The names in the directory of the key store. -/
def Os.listEntries (env : Env) : Command World Text (List Text) :=
  Os.reading env (.readKeyStore []) fun w => .ok (w.keyStore.toList.map Prod.fst)

namespace KeyStore

variable (env : Env)

/-- The entry in a directory; none when its `did.txt` cannot be read. -/
def listEntry (hash : Text) : KeyStoreCommand (Option KeyStoreListEntry) :=
  Command.orElse (do
    let did ← Os.readDidTxt env hash
    return some { hash, did := Text.trim did }) fun _ => return none

/-- The entries in some directories. -/
def listEntriesOf : List Text → KeyStoreCommand (List KeyStoreListEntry)
  | [] => return []
  | hash :: rest => do
    let entry ← listEntry env hash
    let entries ← listEntriesOf rest
    return entry.toList ++ entries

/-- All entries in the key store, sorted by hash. -/
def list : KeyStoreCommand (List KeyStoreListEntry) := do
  let names ← (Os.listEntries env).mapError .io
  let entries ← listEntriesOf env names
  return entries.mergeSort fun a b => a.hash ≤ b.hash

end KeyStore

namespace KeyStoreEntry

variable (env : Env) (entry : KeyStoreEntry)

/-- Copies the public key for a role to a file. -/
def exportPublicKey (role : KeyRole) (version : Option ℕ) (dest : Text) :
    KeyStoreCommand Unit := do
  let pem ← entry.publicKeyPem env role version
  (Os.write env dest pem).mapError .io

/-- Copies the private key for a role to a file. -/
def exportPrivateKey (role : KeyRole) (version : Option ℕ) (dest : Text) :
    KeyStoreCommand Unit := do
  let v ← entry.resolveVersion env version
  let name := keyFileName role true
  let present ← Os.keyFileExists entry.hash (snapshotName v) name
  if present = false then Command.fail (.notFound entry.hash)
  else do
    let pem ← (Os.readKeyFile env entry.hash (snapshotName v) name).mapError .io
    (Os.write env dest pem).mapError fun e => .crypto (.io e)

end KeyStoreEntry

/-! ## The commands -/

namespace Key

/-- Why a `key` command fails. -/
inductive KeyError
  | resolve (e : ResolveError)
  | keyStore (e : KeyStoreError)
  deriving DecidableEq

/-- The message of an error. -/
def KeyError.toText : KeyError → Text
  | resolve e => e.toText
  | keyStore e => e.toText

/-- Commands on keys; those that print result in the lines that they have printed. -/
abbrev KeyCommand := Command World KeyError

/-- The roles and what they are called, in the order in which they are shown. -/
def roles : List (Text × KeyRole) := [
  ("authorized", .authorized),
  ("authentication", .authentication),
  ("assertion", .assertion)]

/-- The PEMs of the public keys in a snapshot. -/
structure PublicPems where
  authorized : Text
  authentication : Text
  assertion : Text
  deriving DecidableEq

/-- The PEM for a role. -/
def PublicPems.pem (pems : PublicPems) : KeyRole → Text
  | .authorized => pems.authorized
  | .authentication => pems.authentication
  | .assertion => pems.assertion

variable (X : ToolCrates) (env : Env)

/-- Prints the entries of the key store. -/
def cmdList : KeyCommand (List Text) := do
  let entries ← (KeyStore.list env).mapError .keyStore
  return entries.map fun entry => entry.hash ++ Text.lit "  " ++ entry.did

/-- Reads the public keys of a snapshot. -/
def readPems (entry : KeyStoreEntry) (version : ℕ) : KeyStoreCommand PublicPems := do
  let authorized ← entry.publicKeyPem env .authorized (some version)
  let authentication ← entry.publicKeyPem env .authentication (some version)
  let assertion ← entry.publicKeyPem env .assertion (some version)
  return { authorized, authentication, assertion }

/-- What is printed next to a version, from the labels of the roles that have changed. -/
def tagOf (changed : List Text) : Text :=
  if changed = [] then "(unchanged)" else [' '].intercalate changed

/-- What is printed next to a version, given the keys of the version before. -/
def versionTag (pems : PublicPems) : Option PublicPems → Text
  | none => "initial"
  | some prev => tagOf ((roles.filter fun r => prev.pem r.2 ≠ pems.pem r.2).map Prod.fst)

/-- The line of a version. -/
def versionLine (version : ℕ) (tag : Text) : Text := Text.decimal version ++ Text.lit "  " ++ tag

/-- Prints the versions given, after the one that had the keys `prev`. -/
def printVersions (entry : KeyStoreEntry) :
    Option PublicPems → List ℕ → KeyStoreCommand (List Text)
  | _, [] => return []
  | prev, v :: versions => do
    let pems ← readPems env entry v
    let rest ← printVersions entry (some pems) versions
    return versionLine v (versionTag pems prev) :: rest

/-- Prints the versions of an entry, and which keys have changed in each. -/
def cmdVersions (target : Text) : KeyCommand (List Text) := do
  let entry ← (resolveEntry X env target).mapError .resolve
  let versions ← (entry.allVersions env).mapError .keyStore
  (printVersions env entry none versions).mapError .keyStore

/-- Prints the public keys for some roles, each after its label. -/
def showRoles (entry : KeyStoreEntry) (version : Option ℕ) :
    List (Text × KeyRole) → KeyStoreCommand (List Text)
  | [] => return []
  | (label, role) :: rest => do
    let pem ← entry.publicKeyPem env role version
    let lines ← showRoles entry version rest
    return (Text.lit "# " ++ label) :: Text.trim pem :: [] :: lines

/-- Prints one public key, or all. -/
def cmdShow (target : Text) (role : Option KeyRole) (version : Option ℕ) :
    KeyCommand (List Text) := do
  let entry ← (resolveEntry X env target).mapError .resolve
  match role with
  | some role => do
    let pem ← (entry.publicKeyPem env role version).mapError .keyStore
    return [Text.trim pem]
  | none => (showRoles env entry version roles).mapError .keyStore

/-- Copies a key to a file. -/
def cmdExport (target : Text) (role : KeyRole) (out : Text) (isPrivate : Bool)
    (version : Option ℕ) : KeyCommand Unit := do
  let entry ← (resolveEntry X env target).mapError .resolve
  if isPrivate = true then (entry.exportPrivateKey env role version out).mapError .keyStore
  else (entry.exportPublicKey env role version out).mapError .keyStore

end Key

/-! ## What is listed -/

/-- What a directory of the key store is listed as: the DID that its `did.txt` records. -/
def recordedEntry (keyStore : OrdMap Text EntryDir) (hash : Text) : Option KeyStoreListEntry :=
  ((keyStore.get hash).bind EntryDir.didTxt).map fun stored => ⟨hash, Text.trim stored⟩

theorem hash_of_recordedEntry {keyStore : OrdMap Text EntryDir} {hash : Text}
    {entry : KeyStoreListEntry} (h : recordedEntry keyStore hash = some entry) :
    entry.hash = hash := by
  obtain ⟨stored, -, rfl⟩ := Option.map_eq_some_iff.mp h
  rfl

namespace KeyStore

variable {env : Env} {w w' : World} {hash : Text} {entries : List KeyStoreListEntry}

/-- A directory is listed as what it records, unless its `did.txt` cannot be read. -/
theorem listEntry_apply : listEntry env hash w =
    (.ok (if env.fault w.tick (.readKeyStore hash) = none then recordedEntry w.keyStore hash
      else none), w.ticked) := by
  simp only [listEntry, Command.orElse, bind, Os.readDidTxt, Os.reading, Os.nextTick, Command.read,
    Command.update, pure, recordedEntry]
  cases env.fault w.tick (.readKeyStore hash) with
  | some f => rfl
  | none =>
    rw [if_pos rfl]
    dsimp only [Command.ofExcept]
    cases (w.keyStore.get hash).bind EntryDir.didTxt <;> rfl

variable (env) in
/-- Directories are listed in their order. Those that cannot be read are left out. -/
theorem listEntriesOf_spec (names : List Text) (w : World) : ∃ entries w',
    listEntriesOf env names w = (.ok entries, w') ∧
      entries.Sublist (names.filterMap (recordedEntry w.keyStore)) ∧
      ((∀ n op, env.fault n op = none) →
        entries = names.filterMap (recordedEntry w.keyStore)) := by
  induction names generalizing w with
  | nil => exact ⟨[], w, rfl, .slnil, fun _ => rfl⟩
  | cons hash rest ih =>
    obtain ⟨entries, w', hrun, hsub, hall⟩ := ih w.ticked
    refine ⟨(if env.fault w.tick (.readKeyStore hash) = none then recordedEntry w.keyStore hash
      else none).toList ++ entries, w', ?_, ?_, fun hfault => ?_⟩
    · rw [listEntriesOf, Command.bind_of_eq_ok listEntry_apply, Command.bind_of_eq_ok hrun]
      rfl
    · -- The directory is listed as what it records, or not at all.
      rw [List.filterMap_cons]
      by_cases hread : env.fault w.tick (.readKeyStore hash) = none
      · rw [if_pos hread]
        cases recordedEntry w.keyStore hash with
        | none => exact hsub
        | some entry => exact hsub.cons_cons entry
      · rw [if_neg hread]
        cases recordedEntry w.keyStore hash with
        | none => exact hsub
        | some entry => exact hsub.cons entry
    · rw [if_pos (hfault _ _), hall hfault, List.filterMap_cons]
      cases recordedEntry w.keyStore hash <;> rfl

/-- What records a DID under a hash is found by that hash. -/
theorem lookupByHash_eq_ok_some_iff {entry : KeyStoreEntry} :
    lookupByHash env hash w = (.ok (some entry), w') ↔
      env.fault w.tick (.readKeyStore hash) = none ∧
        recordedEntry w.keyStore hash = some ⟨entry.hash, entry.did⟩ ∧ w.ticked = w' := by
  simp only [lookupByHash, Command.bind_eq_ok_iff, Os.entryExists, Command.read_eq_ok_iff]
  constructor
  · rintro ⟨_, _, ⟨rfl, rfl⟩, h⟩
    by_cases hpresent : (w.keyStore.get hash).isSome = false
    · simp [hpresent] at h
    · rw [if_neg hpresent] at h
      simp only [Command.bind_eq_ok_iff, Command.mapError_eq_ok_iff, Os.readDidTxt,
        Os.reading_eq_ok_iff, Option.okOr_eq_ok_iff, Command.pure_eq_ok_iff] at h
      obtain ⟨stored, _, ⟨hfault, hstored, rfl⟩, hentry, rfl⟩ := h
      obtain rfl := Option.some.inj hentry
      exact ⟨hfault, by rw [recordedEntry, ← World.keyStore_ticked, hstored]; rfl, rfl⟩
  · rintro ⟨hfault, hrecorded, rfl⟩
    obtain ⟨stored, hstored, hentry⟩ := Option.map_eq_some_iff.mp hrecorded
    obtain ⟨dir, hdir, -⟩ := Option.bind_eq_some_iff.mp hstored
    obtain ⟨rfl, hdid⟩ := KeyStoreListEntry.mk.inj hentry
    refine ⟨_, _, ⟨rfl, rfl⟩, ?_⟩
    rw [hdir, Option.isSome_some, if_neg (by simp)]
    simp only [Command.bind_eq_ok_iff, Command.mapError_eq_ok_iff, Os.readDidTxt,
      Os.reading_eq_ok_iff, Option.okOr_eq_ok_iff, Command.pure_eq_ok_iff]
    exact ⟨stored, _, ⟨hfault, hstored, rfl⟩, by rw [hdid], rfl⟩

/-- The list is in strict order of the hashes, and each entry on it is recorded. Nothing is missing
when everything can be read. -/
theorem list_spec (h : list env w = (.ok entries, w')) :
    (entries.map KeyStoreListEntry.hash).Pairwise (· < ·) ∧
      (∀ entry ∈ entries, recordedEntry w.keyStore entry.hash = some entry) ∧
      ((∀ n op, env.fault n op = none) →
        ∀ hash, ∀ entry ∈ recordedEntry w.keyStore hash, entry ∈ entries) := by
  simp only [list, Command.bind_eq_ok_iff, Command.mapError_eq_ok_iff, Os.listEntries,
    Os.reading_eq_ok_iff, Command.pure_eq_ok_iff, Except.ok.injEq] at h
  obtain ⟨_, _, ⟨-, rfl, rfl⟩, listed, w₁, hrun, rfl, rfl⟩ := h
  -- Each directory on the list is looked up, and those that can be read are kept.
  obtain ⟨listed', w₂, hrun', hsub, hall⟩ := listEntriesOf_spec env
    (w.keyStore.toList.map Prod.fst) w.ticked
  obtain ⟨hlisted, rfl⟩ := Prod.mk.inj (hrun.symm.trans hrun')
  obtain rfl := Except.ok.inj hlisted
  have hperm := List.mergeSort_perm listed fun a b => decide (a.hash ≤ b.hash)
  have hrecorded : ∀ entry ∈ listed, recordedEntry w.keyStore entry.hash = some entry := by
    intro entry hentry
    obtain ⟨hash, -, hhash⟩ := List.mem_filterMap.mp (hsub.subset hentry)
    rwa [hash_of_recordedEntry hhash]
  refine ⟨?_, fun entry hentry => hrecorded entry (hperm.mem_iff.mp hentry), ?_⟩
  · -- Sorting makes the order weak, and no two directories have the same name.
    have hsorted : (listed.mergeSort fun a b => a.hash ≤ b.hash).Pairwise
        fun a b => a.hash ≤ b.hash := by
      refine (List.pairwise_mergeSort (fun a b c => ?_) (fun a b => ?_) listed).imp ?_
      · simpa using le_trans
      · simpa using le_total a.hash b.hash
      · simp
    have hdistinct : listed.Pairwise fun a b => a.hash ≠ b.hash := by
      have hkeys : (w.keyStore.toList.map Prod.fst).Pairwise (· ≠ ·) := OrdMap.Entries.nodup_keys _
      refine .sublist hsub (hkeys.filterMap _ fun hash hash' hne a ha b hb => ?_)
      rwa [hash_of_recordedEntry ha, hash_of_recordedEntry hb]
    rw [List.pairwise_map]
    exact hsorted.and (hdistinct.perm hperm.symm fun h => h.symm) |>.imp fun h =>
      lt_of_le_of_ne h.1 h.2
  · -- Without faults every directory is read.
    intro hfault hash entry hentry
    refine hperm.mem_iff.mpr ?_
    rw [hall hfault, List.mem_filterMap]
    obtain ⟨stored, hstored, rfl⟩ := Option.map_eq_some_iff.mp hentry
    obtain ⟨dir, hdir, -⟩ := Option.bind_eq_some_iff.mp hstored
    refine ⟨hash, List.mem_map.mpr ⟨(hash, dir), ?_, rfl⟩, hentry⟩
    exact OrdMap.Entries.get_eq_some_iff.mp hdir

/-- When everything can be read, the entries on the list are those that are found by their hash, and
one line is printed for each. -/
theorem mem_list_iff (hfault : ∀ n op, env.fault n op = none) : ∃ entries w',
    list env w = (.ok entries, w') ∧ (entries.map KeyStoreListEntry.hash).Pairwise (· < ·) ∧
      (∀ hash did, ⟨hash, did⟩ ∈ entries ↔
        lookupByHash env hash w = (.ok (some ⟨hash, did⟩), w.ticked)) ∧
      Key.cmdList env w =
        (.ok (entries.map fun entry => entry.hash ++ Text.lit "  " ++ entry.did), w') := by
  obtain ⟨listed, w', hlisted, -⟩ := listEntriesOf_spec env
    (w.keyStore.toList.map Prod.fst) w.ticked
  have hrun : list env w = (.ok (listed.mergeSort fun a b => a.hash ≤ b.hash), w') := by
    simp only [list, Command.bind_eq_ok_iff, Command.mapError_eq_ok_iff, Os.listEntries,
      Os.reading_eq_ok_iff, Command.pure_eq_ok_iff]
    exact ⟨_, _, ⟨hfault _ _, rfl, rfl⟩, listed, w', hlisted, rfl, rfl⟩
  obtain ⟨hsorted, hsound, hcomplete⟩ := list_spec hrun
  refine ⟨_, w', hrun, hsorted, fun hash did => ⟨fun hmem => ?_, fun hfound => ?_⟩, ?_⟩
  · exact lookupByHash_eq_ok_some_iff.mpr ⟨hfault _ _, hsound _ hmem, rfl⟩
  · exact hcomplete hfault hash _ (lookupByHash_eq_ok_some_iff.mp hfound).2.1
  · rw [Key.cmdList, Command.bind_of_eq_ok (Command.mapError_eq_ok_iff.mpr hrun)]
    rfl

end KeyStore

/-! ## Versions -/

/-- Digits of the same number, as many in one text as in the other, are the same. -/
theorem ofDigitChars_injective {l l' : Text} (hlength : l.length = l'.length)
    (hl : ∀ c ∈ l, c.isDigit = true) (hl' : ∀ c ∈ l', c.isDigit = true)
    (h : Nat.ofDigitChars 10 l 0 = Nat.ofDigitChars 10 l' 0) : l = l' := by
  induction l generalizing l' with
  | nil => exact (List.length_eq_zero_iff.mp hlength.symm).symm
  | cons c l ih =>
    obtain ⟨c', l', rfl⟩ := List.exists_cons_of_length_pos (l := l') (by simp [← hlength])
    rw [List.length_cons, List.length_cons, Nat.add_right_cancel_iff] at hlength
    rw [List.forall_mem_cons] at hl hl'
    rw [Nat.ofDigitChars_cons, Nat.ofDigitChars_cons, Nat.ofDigitChars_eq_ofDigitChars_zero,
      Nat.ofDigitChars_eq_ofDigitChars_zero (l := l'), ← hlength] at h
    -- What the first digits stand for exceeds all that follows.
    have hlt := ofDigitChars_lt hl.2
    have hlt' := ofDigitChars_lt hl'.2
    rw [← hlength] at hlt'
    have hpos : 0 < 10 ^ l.length := Nat.lt_of_le_of_lt (Nat.zero_le _) hlt
    have hfirst := congrArg (· / 10 ^ l.length) h
    have hrest := congrArg (· % 10 ^ l.length) h
    simp only [Nat.mul_zero, Nat.zero_add, Nat.mul_add_div hpos, Nat.mul_add_mod,
      Nat.div_eq_of_lt hlt, Nat.div_eq_of_lt hlt', Nat.mod_eq_of_lt hlt, Nat.mod_eq_of_lt hlt',
      Nat.add_zero] at hfirst hrest
    rw [ih hlength hl.2 hl'.2 hrest]
    have hdigit : 48 ≤ c.toNat := (Char.isDigit_iff_toNat.mp hl.1).1
    have hdigit' : 48 ≤ c'.toNat := (Char.isDigit_iff_toNat.mp hl'.1).1
    have hchar : c.toNat = c'.toNat := by
      change c.toNat - 48 = c'.toNat - 48 at hfirst
      omega
    rw [Char.toNat_inj.mp hchar]

/-- The name of a snapshot is that of its number. -/
theorem eq_snapshotName {name : Text} {n : ℕ} (h : snapshotNumber name = some n) :
    name = snapshotName n := by
  have hn := le_of_snapshotNumber h
  have h' := (snapshotNumber_snapshotName n).trans (if_pos hn)
  unfold snapshotNumber at h h'
  split_ifs at h h' with hname hname'
  refine ofDigitChars_injective (hname.1.trans hname'.1.symm) (List.all_eq_true.mp hname.2)
    (List.all_eq_true.mp hname'.2) ?_
  rw [Option.some.inj h, Option.some.inj h']

/-- No number occurs twice in a directory. -/
theorem EntryDir.nodup_numbers (dir : EntryDir) : dir.numbers.Nodup := by
  refine (OrdMap.Entries.nodup_keys dir.snapshots).filterMap fun name name' n hn hn' => ?_
  rw [eq_snapshotName hn, eq_snapshotName hn']

namespace KeyStoreEntry

variable {env : Env} {entry : KeyStoreEntry} {w w' : World}

theorem allVersions_eq_ok_iff {versions : List ℕ} :
    entry.allVersions env w = (.ok versions, w') ↔
      env.fault w.tick (.readKeyStore entry.hash) = none ∧
        (∃ dir, w.keyStore.get entry.hash = some dir ∧ dir.numbers ≠ [] ∧
          versions = dir.numbers.mergeSort) ∧ w.ticked = w' := by
  simp only [allVersions, Command.bind_eq_ok_iff, Command.mapError_eq_ok_iff, Os.listSnapshots,
    Os.reading_eq_ok_iff, Option.okOr_eq_ok_iff, Option.map_eq_some_iff, World.keyStore_ticked,
    Command.ite_fail_eq_ok_iff, Command.pure_eq_ok_iff]
  constructor
  · rintro ⟨_, _, ⟨hfault, ⟨dir, hdir, rfl⟩, rfl⟩, hne, rfl, rfl⟩
    exact ⟨hfault, ⟨dir, hdir, hne, rfl⟩, rfl⟩
  · rintro ⟨hfault, ⟨dir, hdir, hne, rfl⟩, rfl⟩
    exact ⟨_, _, ⟨hfault, ⟨dir, hdir, rfl⟩, rfl⟩, hne, rfl, rfl⟩

end KeyStoreEntry

/-! ## The history that the versions tell -/

namespace Key

variable {X : ToolCrates} {env : Env} {w w' : World} {hash : Text} {n : ℕ}
  {prev keys : StagedKeys} {pems prevPems : PublicPems}

variable (X) in
/-- The labels of the roles in which two sets of keys have different public keys, as their PEM
tells. -/
def changedKeys (prev keys : StagedKeys) : List Text :=
  (roles.filter fun r => publicToPem X prev r.2 ≠ publicToPem X keys r.2).map Prod.fst

variable (X) in
/-- What is told of some keys, given those before. -/
def historyTag (keys : StagedKeys) : Option StagedKeys → Text
  | none => "initial"
  | some prev => tagOf (changedKeys X prev keys)

variable (X) in
/-- What is told of a history, from version `n` on. -/
def historyLines : ℕ → Option StagedKeys → List StagedKeys → List Text
  | _, _, [] => []
  | n, prev, keys :: rest =>
    versionLine n (historyTag X keys prev) :: historyLines (n + 1) (some keys) rest

/-- The PEMs are those of the public keys. -/
def PublicPems.Of (X : ToolCrates) (keys : StagedKeys) (pems : PublicPems) : Prop :=
  ∀ role, publicToPem X keys role = .ok (pems.pem role)

/-- The tag of a version tells which keys have changed. -/
theorem versionTag_eq_historyTag {prevPems : Option PublicPems}
    {prev : Option StagedKeys} (hprev : Option.Rel (PublicPems.Of X) prev prevPems)
    (h : pems.Of X keys) : versionTag pems prevPems = historyTag X keys prev := by
  cases hprev with
  | none => rfl
  | some hprev =>
    refine congrArg tagOf (congrArg _ (List.filter_congr fun r _ => ?_))
    simp only [hprev r.2, h r.2, ne_eq, Except.ok.injEq]

/-- The public keys of a snapshot can be read, one by one. -/
theorem exists_publicKeyPem (hfault : ∀ n op, env.fault n op = none)
    (h : HoldsKeys X w hash n keys) (did : Text) : ∃ pems : PublicPems, pems.Of X keys ∧
      ∀ role (v : World), v.keyStore = w.keyStore →
        (⟨hash, did⟩ : KeyStoreEntry).publicKeyPem env role (some n) v =
          (.ok (pems.pem role), v.ticked) := by
  obtain ⟨authorized, hauthorized, hfile₁⟩ := h.publicKey .authorized
  obtain ⟨authentication, hauthentication, hfile₂⟩ := h.publicKey .authentication
  obtain ⟨assertion, hassertion, hfile₃⟩ := h.publicKey .assertion
  refine ⟨⟨authorized, authentication, assertion⟩, ?_, fun role v hv => ?_⟩
  · rintro (_ | _ | _)
    · exact hauthorized
    · exact hauthentication
    · exact hassertion
  · refine KeyStoreEntry.publicKeyPem_some_eq_ok_iff.mpr ⟨hfault _ _, ?_, rfl⟩
    unfold Os.keyFile at hfile₁ hfile₂ hfile₃ ⊢
    rw [hv]
    cases role with
    | authorized => exact hfile₁
    | authentication => exact hfile₂
    | assertion => exact hfile₃

/-- They can be read together. -/
theorem exists_readPems (hfault : ∀ n op, env.fault n op = none) (h : HoldsKeys X w hash n keys)
    (did : Text) : ∃ pems w', readPems env ⟨hash, did⟩ n w = (.ok pems, w') ∧
      w'.keyStore = w.keyStore ∧ pems.Of X keys := by
  obtain ⟨pems, hof, hread⟩ := exists_publicKeyPem hfault h did
  refine ⟨pems, w.ticked.ticked.ticked, ?_, rfl, hof⟩
  rw [readPems, Command.bind_of_eq_ok (hread .authorized w rfl),
    Command.bind_of_eq_ok (hread .authentication w.ticked rfl),
    Command.bind_of_eq_ok (hread .assertion w.ticked.ticked rfl)]
  rfl

/-- What is printed of a public key among several. -/
def shownLines (pems : PublicPems) (r : Text × KeyRole) : List Text :=
  [Text.lit "# " ++ r.1, Text.trim (pems.pem r.2), []]

/-- When the public keys of a version can be read, they are shown one after the other. -/
theorem exists_showRoles {entry : KeyStoreEntry} {version : Option ℕ}
    (hpem : ∀ role (v : World), v.keyStore = w.keyStore → ∃ v',
      entry.publicKeyPem env role version v = (.ok (pems.pem role), v') ∧
        v'.keyStore = w.keyStore) (rs : List (Text × KeyRole)) :
    ∃ w', showRoles env entry version rs w = (.ok (rs.flatMap (shownLines pems)), w') := by
  suffices hshow : ∀ v : World, v.keyStore = w.keyStore →
      ∃ w', showRoles env entry version rs v = (.ok (rs.flatMap (shownLines pems)), w') from
    hshow w rfl
  induction rs with
  | nil => exact fun v _ => ⟨v, rfl⟩
  | cons r rest ih =>
    intro v hv
    obtain ⟨v₁, hread, hv₁⟩ := hpem r.2 v hv
    obtain ⟨w', hrest⟩ := ih v₁ hv₁
    refine ⟨w', ?_⟩
    rw [showRoles, Command.bind_of_eq_ok hread, Command.bind_of_eq_ok hrest]
    rfl

/-- Of the keys in consecutive snapshots, the versions tell the history. -/
theorem exists_printVersions (hfault : ∀ n op, env.fault n op = none)
    {did : Text} {history : List StagedKeys} {prev : Option StagedKeys}
    {prevPems : Option PublicPems} (hprev : Option.Rel (PublicPems.Of X) prev prevPems)
    (h : ∀ {i : ℕ} {keys : StagedKeys}, history[i]? = some keys → HoldsKeys X w hash (n + i) keys) :
    ∃ w', printVersions env ⟨hash, did⟩ prevPems (List.range' n history.length) w =
      (.ok (historyLines X n prev history), w') := by
  induction history generalizing n prev prevPems w with
  | nil => exact ⟨w, rfl⟩
  | cons keys rest ih =>
    obtain ⟨pems, w₁, hpems, hkeyStore, hof⟩ := exists_readPems (n := n) hfault (h (i := 0) rfl) did
    have hrest : ∀ {i : ℕ} {keys : StagedKeys}, rest[i]? = some keys →
        HoldsKeys X w₁ hash (n + 1 + i) keys := by
      intro i keys' hkeys
      have hholds := h (i := i + 1) hkeys
      rw [show n + 1 + i = n + (i + 1) by omega]
      refine hholds.congr fun name => ?_
      unfold Os.keyFile
      rw [hkeyStore]
    obtain ⟨w', hrun⟩ := ih (.some hof) hrest
    refine ⟨w', ?_⟩
    rw [List.length_cons, List.range'_succ, printVersions, Command.bind_of_eq_ok hpems,
      Command.bind_of_eq_ok hrun, historyLines, versionTag_eq_historyTag hprev hof]
    rfl

end Key

/-! ## Over the life of a DID -/

variable {X : ToolCrates} {env : Env} {w w' : World} {did : DID} {n : ℕ} {keys : StagedKeys}
  {history : List StagedKeys} {path target : Text}

/-- When everything can be read, a target that names a DID resolves to its entry. -/
theorem Stored.resolveEntry_of_names (h : Stored X w did n keys)
    (hdid : DID.fromStr did.toText = .ok did) (hfault : ∀ n op, env.fault n op = none)
    (htarget : Names X did target) : resolveEntry X env target w =
      (.ok ⟨didToHash X did.toText, did.toText⟩, w.ticked) := by
  rcases htarget with rfl | rfl
  · rw [resolveEntry, isHash_toText, if_neg (by simp)]
    simp only [Command.bind_eq_ok_iff, Command.ofExcept_eq_ok_iff, Except.mapError_eq_ok_iff,
      Command.mapError_eq_ok_iff, Option.okOr_eq_ok_iff]
    exact ⟨_, _, ⟨hdid, rfl⟩, _, _, h.lookup hfault, rfl, rfl⟩
  · rw [resolveEntry, isHash_didToHash, if_pos rfl]
    simp only [Command.bind_eq_ok_iff, Command.ofExcept_eq_ok_iff, Command.mapError_eq_ok_iff,
      Option.okOr_eq_ok_iff]
    exact ⟨_, _, h.lookupByHash_eq_ok_iff.mpr ⟨hfault _ _, rfl, rfl⟩, rfl, rfl⟩

/-- The versions of an entry are the numbers of its keys, in ascending order. -/
theorem Archive.allVersions (h : Archive X w did history) (hne : history ≠ [])
    (hfault : ∀ n op, env.fault n op = none) :
    (⟨didToHash X did.toText, did.toText⟩ : KeyStoreEntry).allVersions env w =
      (.ok (List.range' 1 history.length), w.ticked) := by
  obtain ⟨dir, stored, hdir, -, -, hnumbers⟩ := h.entry
  have hperm : dir.numbers.Perm (List.range' 1 history.length) := by
    refine (List.perm_ext_iff_of_nodup dir.nodup_numbers List.nodup_range').mpr fun m => ?_
    rw [hnumbers, List.mem_range'_1]
    omega
  refine KeyStoreEntry.allVersions_eq_ok_iff.mpr ⟨hfault _ _, ⟨dir, hdir, ?_, ?_⟩, rfl⟩
  · have hmem := (hnumbers 1).mpr ⟨le_rfl, List.length_pos_iff.mpr hne⟩
    exact List.ne_nil_of_mem hmem
  · refine List.Perm.eq_of_pairwise (fun a b _ _ => le_antisymm) (List.pairwise_le_range' 1) ?_
      (hperm.symm.trans (List.mergeSort_perm _ _).symm)
    refine (List.pairwise_mergeSort (fun a b c => ?_) (fun a b => ?_) dir.numbers).imp ?_
    · simpa using le_trans
    · simpa using le_total a b
    · simp

/-- A version that is not given is the latest. -/
theorem Archive.resolveVersion (h : Archive X w did history) (hne : history ≠ [])
    (hfault : ∀ n op, env.fault n op = none) (version : Option ℕ) : ∃ w₁,
      (⟨didToHash X did.toText, did.toText⟩ : KeyStoreEntry).resolveVersion env version w =
        (.ok (version.getD history.length), w₁) ∧ w₁.keyStore = w.keyStore := by
  cases version with
  | some v => exact ⟨w, rfl, rfl⟩
  | none =>
    obtain ⟨dir, -, hdir, -, -, hnumber⟩ :=
      (h.stored (List.getLast?_eq_some_getLast hne)).entry
    refine ⟨w.ticked, KeyStoreEntry.latestVersion_eq_ok_iff.mpr ⟨hfault _ _, ?_, rfl⟩, rfl⟩
    rw [hdir, Option.bind_some, hnumber, Option.getD_none]

namespace Key

/-- Over the life of a DID, its versions are those of its log, and next to each stands which of the
keys that the log announces have changed since the one before. -/
theorem cmdVersions_of_run (hX : X.Lawful) (h : Run X path did n w) (hn : n ≤ 9999)
    (hfault : ∀ n op, env.fault n op = none) (htarget : Names X did target) :
    ∃ history w', history.length = n ∧ Holds X path did history w ∧
      cmdVersions X env target w = (.ok (historyLines X 1 none history), w') := by
  obtain ⟨history, hlength, hne, hholds⟩ := exists_holds hX h hn
  obtain ⟨text, log, hfile, hread, hdid, haccepted, harchive, hhistory⟩ := hholds
  have hstored := harchive.stored (List.getLast?_eq_some_getLast hne)
  have hentry := hstored.resolveEntry_of_names hdid hfault htarget
  have hticked : Archive X w.ticked did history := harchive.congr rfl
  have hversions := hticked.allVersions hne hfault
  obtain ⟨w', hlines⟩ := @exists_printVersions X env w.ticked.ticked _ 1 hfault
    did.toText history none none .none fun {i _} hkeys => by
      rw [Nat.add_comm 1 i]
      exact (harchive.keys hkeys).congr fun _ => rfl
  refine ⟨history, w', hlength, ⟨text, log, hfile, hread, hdid, haccepted, harchive, hhistory⟩, ?_⟩
  simp only [cmdVersions, Command.bind_eq_ok_iff, Command.mapError_eq_ok_iff]
  exact ⟨_, _, hentry, _, _, hversions, hlines⟩

/-- Over the life of a DID, the public keys that are shown for a version, one or all, are those of
the keys that the log announces in the entry of that number. -/
theorem cmdShow_of_run (hX : X.Lawful) (h : Run X path did n w) (hn : n ≤ 9999)
    (hfault : ∀ n op, env.fault n op = none) (htarget : Names X did target) {version : Option ℕ}
    (hversion : ∀ v ∈ version, 1 ≤ v ∧ v ≤ n) :
    ∃ (history : List StagedKeys) (keys : StagedKeys) (pems : PublicPems),
      history.length = n ∧ Holds X path did history w ∧
      history[version.getD n - 1]? = some keys ∧ pems.Of X keys ∧
      (∀ role, ∃ w', cmdShow X env target (some role) version w =
        (.ok [Text.trim (pems.pem role)], w')) ∧
      ∃ w', cmdShow X env target none version w = (.ok (roles.flatMap (shownLines pems)), w') := by
  obtain ⟨history, rfl, hne, hholds⟩ := exists_holds hX h hn
  obtain ⟨text, log, hfile, hread, hdid, haccepted, harchive, hhistory⟩ := id hholds
  have hentry := (harchive.stored (List.getLast?_eq_some_getLast hne)).resolveEntry_of_names hdid
    hfault htarget
  -- The version is one that the DID has.
  obtain ⟨hpos, hle⟩ : 1 ≤ version.getD history.length ∧
      version.getD history.length ≤ history.length := by
    cases version with
    | some v => exact hversion v rfl
    | none => exact ⟨List.length_pos_iff.mpr hne, le_rfl⟩
  obtain ⟨keys, hkeys⟩ : ∃ keys, history[version.getD history.length - 1]? = some keys :=
    ⟨_, List.getElem?_eq_getElem (by omega)⟩
  have hsnapshot := harchive.keys hkeys
  rw [Nat.sub_add_cancel hpos] at hsnapshot
  obtain ⟨pems, hof, hpems⟩ := exists_publicKeyPem hfault hsnapshot did.toText
  -- Reading a key changes nothing but the tick, so that one role can be read after the other.
  have hpem : ∀ role (v : World), v.keyStore = w.ticked.keyStore → ∃ v',
      (⟨didToHash X did.toText, did.toText⟩ : KeyStoreEntry).publicKeyPem env role version v =
        (.ok (pems.pem role), v') ∧ v'.keyStore = w.ticked.keyStore := by
    intro role v hv
    have hv' : Archive X v did history := harchive.congr (congrArg _ hv)
    obtain ⟨v₁, hresolve, hv₁⟩ := hv'.resolveVersion hne hfault version
    refine ⟨v₁.ticked, ?_, hv₁.trans hv⟩
    rw [← hpems role v₁ (hv₁.trans hv), KeyStoreEntry.publicKeyPem,
      Command.bind_of_eq_ok hresolve]
    rfl
  refine ⟨history, keys, pems, rfl, hholds, hkeys, hof, fun role => ?_, ?_⟩
  · obtain ⟨v', hshown, -⟩ := hpem role w.ticked rfl
    refine ⟨v', ?_⟩
    rw [cmdShow, Command.bind_of_eq_ok (Command.mapError_eq_ok_iff.mpr hentry)]
    dsimp only
    rw [Command.bind_of_eq_ok (Command.mapError_eq_ok_iff.mpr hshown)]
    rfl
  · obtain ⟨w', hshown⟩ := exists_showRoles hpem roles
    refine ⟨w', ?_⟩
    rw [cmdShow, Command.bind_of_eq_ok (Command.mapError_eq_ok_iff.mpr hentry)]
    exact Command.mapError_eq_ok_iff.mpr hshown

/-- What a private key that is exported leaves. -/
theorem cmdExport_private_eq_ok_iff {role : KeyRole} {out : Text} {version : Option ℕ} :
    cmdExport X env target role out true version w = (.ok (), w') ↔
      ∃ entry v pem w₁ w₂, resolveEntry X env target w = (.ok entry, w₁) ∧
        entry.resolveVersion env version w₁ = (.ok v, w₂) ∧
        env.fault w₂.tick (.readKeyStore entry.hash) = none ∧
        Os.keyFile w₂ entry.hash (snapshotName v) (keyFileName role true) = some pem ∧
        env.fault w₂.ticked.tick (.writeFile out) = none ∧
        Os.putFile out pem w₂.ticked.ticked = w' := by
  simp only [cmdExport, if_true, KeyStoreEntry.exportPrivateKey, Command.bind_eq_ok_iff,
    Command.mapError_eq_ok_iff, Os.keyFileExists, Command.read_eq_ok_iff,
    Command.ite_fail_eq_ok_iff, Os.readKeyFile, Os.reading_eq_ok_iff, Option.okOr_eq_ok_iff,
    Os.write, Os.writing_eq_ok_iff]
  constructor
  · rintro ⟨entry, w₁, hentry, v, w₂, hversion, _, _, ⟨rfl, rfl⟩, -, pem, _, ⟨hread, hpem, rfl⟩,
      hwrite, rfl⟩
    exact ⟨entry, v, pem, w₁, w₂, hentry, hversion, hread, hpem, hwrite, rfl⟩
  · rintro ⟨entry, v, pem, w₁, w₂, hentry, hversion, hread, hpem, hwrite, rfl⟩
    refine ⟨entry, w₁, hentry, v, w₂, hversion, _, _, ⟨rfl, rfl⟩, ?_, pem, _, ⟨hread, hpem, rfl⟩,
      hwrite, rfl⟩
    rw [hpem]
    simp

/-- A private key that is exported over the life of a DID is read back from its file as the key of
that version. The life of the DID goes on, if the file is not that of its log. -/
theorem cmdExport_of_run (hX : X.Lawful) (h : Run X path did n w) (hn : n ≤ 9999)
    (htarget : Names X did target) {role : KeyRole} {out : Text} (hout : out ≠ path)
    {version : Option ℕ} (hversion : ∀ v ∈ version, 1 ≤ v ∧ v ≤ n)
    (hrun : cmdExport X env target role out true version w = (.ok (), w')) :
    Run X path did n w' ∧ ∃ history keys, history.length = n ∧ Holds X path did history w' ∧
      history[version.getD n - 1]? = some keys ∧ ∀ env' : Env, (∀ t op, env'.fault t op = none) →
        readPrivateKey env' (parsePrivateKey X role) out w' = (.ok (keys.key role), w'.ticked) := by
  obtain ⟨history, hlength, hne, hholds⟩ := exists_holds hX h hn
  obtain ⟨text, log, hfile, hread, hdid, haccepted, harchive, hhistory⟩ := id hholds
  have hstored := harchive.stored (List.getLast?_eq_some_getLast hne)
  -- The export reads one file of the entry that the target names.
  obtain ⟨entry, v, pem, w₁, w₂, hentry, hresolved, -, hpem, -, rfl⟩ :=
    cmdExport_private_eq_ok_iff.mp hrun
  obtain ⟨rfl, rfl⟩ := hstored.eq_of_resolveEntry hdid htarget hentry
  -- The version is one that the DID has.
  obtain ⟨hv, hpos, hle, hfiles, hkeyStore⟩ : v = version.getD n ∧ 1 ≤ v ∧ v ≤ n ∧
      w₂.files = w.files ∧ w₂.keyStore = w.keyStore := by
    cases version with
    | some m =>
      obtain ⟨rfl, rfl⟩ := Command.pure_eq_ok_iff.mp hresolved
      exact ⟨rfl, (hversion _ rfl).1, (hversion _ rfl).2, rfl, rfl⟩
    | none =>
      obtain ⟨-, hlatest, rfl⟩ := KeyStoreEntry.latestVersion_eq_ok_iff.mp hresolved
      obtain ⟨dir, stored, hdir, -, -, hnumber⟩ := hstored.entry
      rw [World.keyStore_ticked, hdir, Option.bind_some, hnumber, hlength] at hlatest
      obtain rfl := Option.some.inj hlatest
      exact ⟨rfl, hlength ▸ List.length_pos_iff.mpr hne, le_rfl, rfl, rfl⟩
  -- The log is in another file, and the key store is as it was.
  have hpath : (Os.putFile out pem w₂.ticked.ticked).files.get path = w.files.get path := by
    show (w₂.files.insert out pem).get path = _
    rw [OrdMap.get_insert, if_neg hout.symm, hfiles]
  have hentry' : (Os.putFile out pem w₂.ticked.ticked).keyStore.get (didToHash X did.toText) =
      w.keyStore.get (didToHash X did.toText) := congrArg _ hkeyStore
  -- What has been copied is the file of the key.
  obtain ⟨keys, hget⟩ : ∃ keys, history[v - 1]? = some keys :=
    ⟨_, List.getElem?_eq_getElem (by omega)⟩
  obtain ⟨pem', hpem', hparse⟩ := storedKey_eq_some_iff.mp ((harchive.keys hget).privateKey role)
  rw [Nat.sub_add_cancel hpos] at hpem'
  unfold Os.keyFile at hpem hpem'
  rw [hkeyStore] at hpem
  obtain rfl := Option.some.inj (hpem.symm.trans hpem')
  refine ⟨.elsewhere h hpath hentry', history, keys, hlength, hholds.congr hpath hentry', ?_,
    fun env' hfault => ?_⟩
  · rw [← hv]
    exact hget
  · simp only [readPrivateKey, Command.bind_eq_ok_iff, Command.mapError_eq_ok_iff,
      Os.readToString_eq_ok_iff, Command.ofExcept_eq_ok_iff]
    -- The file that has been written is parsed like the one that was copied.
    refine ⟨pem, _, ⟨hfault _ _, ?_, rfl⟩, hparse, rfl⟩
    show (w₂.files.insert out pem).get out = _
    rw [OrdMap.get_insert, if_pos rfl]

end Key

/-! ## The keys of the sample DIDs -/

namespace Sample

/-- A world with the keys of two DIDs. -/
def sharedWorld : World :=
  { createdWorld with
    keyStore := OrdMap.insert createdWorld.keyStore (didToHash toolCrates registryDid.toText)
      { didTxt := some registryDid.toText
        snapshots := OrdMap.ofList [(Text.lit "0001", snapshotOf createdKeys)] } }

/-- The entry of a DID in the key store. -/
def listedEntry (did : DID) : KeyStoreListEntry := ⟨didToHash toolCrates did.toText, did.toText⟩

/-- Both DIDs are listed. -/
theorem mem_list_sharedWorld : ∃ entries w',
    KeyStore.list (toolEnv 0) sharedWorld = (.ok entries, w') ∧
      (entries.map KeyStoreListEntry.hash).Pairwise (· < ·) ∧ listedEntry toolDid ∈ entries ∧
      listedEntry registryDid ∈ entries := by
  obtain ⟨entries, w', hlist, hsorted, hmem, -⟩ :=
    @KeyStore.mem_list_iff (toolEnv 0) sharedWorld fun _ _ => rfl
  have hrecorded : ∀ did ∈ [toolDid, registryDid],
      recordedEntry sharedWorld.keyStore (listedEntry did).hash = some (listedEntry did) := by
    decide +kernel
  have hfound : ∀ did ∈ [toolDid, registryDid],
      KeyStore.lookupByHash (toolEnv 0) (listedEntry did).hash sharedWorld =
        (.ok (some ⟨(listedEntry did).hash, (listedEntry did).did⟩), sharedWorld.ticked) :=
    fun did hdid => KeyStore.lookupByHash_eq_ok_some_iff.mpr ⟨rfl, hrecorded did hdid, rfl⟩
  exact ⟨entries, w', hlist, hsorted, (hmem _ _).mpr (hfound _ List.mem_cons_self),
    (hmem _ _).mpr (hfound _ (List.mem_cons_of_mem _ List.mem_cons_self))⟩

/-- The sample DID is created and its assertion key rotated; its versions tell so. -/
theorem cmdVersions_rotatedWorld : ∃ history w', history.length = 2 ∧
    Holds toolCrates logPath toolDid history rotatedWorld ∧
      Key.cmdVersions toolCrates (toolEnv 0) toolDid.toText rotatedWorld =
        (.ok (Key.historyLines toolCrates 1 none history), w') :=
  Key.cmdVersions_of_run lawful_toolCrates run_rotatedWorld (by decide)
    (fun _ _ => rfl) (.inl rfl)

/-- The file that a key of the sample DID is exported to. -/
def exportPath : Text := "key.pem"

/-- After the rotation the first assertion key is exported and read back. -/
theorem cmdExport_rotatedWorld : ∃ w' history keys, history.length = 2 ∧
    Holds toolCrates logPath toolDid history w' ∧ history[0]? = some keys ∧
      readPrivateKey (toolEnv 0) (parsePrivateKey toolCrates .assertion) exportPath w' =
        (.ok (keys.key .assertion), w'.ticked) := by
  have hexported : (Key.cmdExport toolCrates (toolEnv 0) toolDid.toText .assertion exportPath true
      (some 1) rotatedWorld).1 = .ok () := by decide +kernel
  obtain ⟨-, history, keys, hlength, hholds, hkeys, hread⟩ :=
    Key.cmdExport_of_run lawful_toolCrates run_rotatedWorld (by decide) (.inl rfl) (by decide)
      (fun _ h => Option.mem_some_iff.mp h ▸ by decide) (Command.eq_ok_of_fst_eq hexported)
  exact ⟨_, history, keys, hlength, hholds, hkeys, hread _ fun _ _ => rfl⟩

end Sample

end Swiyu
