import Swiyu.Core.DidDoc.Genesis
import Swiyu.Core.DidLog.Authentic
import Swiyu.Core.DidLog.Wire
import Swiyu.Didtool.Cmd.Resolve
import Swiyu.Didtool.Lawful

/-!
# Logs and key stores in step

A log and the key store are in step when the latest snapshot of the DID holds the keys that the log
announces. Creation and rotation leave them so.

## Main definitions

- `Swiyu.Names`: the targets that name a DID.
- `Swiyu.Stored`: the latest snapshot of a DID.
- `Swiyu.InStep`: the log and the key store are in step.

## Main results

- `Swiyu.Stored.lookup`, `Swiyu.Stored.load`: what is read of the latest snapshot.
- `Swiyu.Stored.eq_of_resolveEntry`, `Swiyu.resolveDid_of_names`: what a target resolves to.
-/

namespace Swiyu

open Json

/-! ## Targets -/

/-- A target that names a DID: its text, or the hash of its key-store entry. -/
def Names (X : ToolCrates) (did : DID) (target : Text) : Prop :=
  target = did.toText ∨ target = didToHash X did.toText

/-- The name of an entry's directory is a hash. -/
theorem isHash_didToHash (X : ToolCrates) (t : Text) : isHash (didToHash X t) = true := by
  have hdigit : ∀ n < 16, isAsciiHexDigit (Nat.digitChar n) = true ∧
      (Nat.digitChar n).utf8Size = 1 := by decide
  -- Every character is a hexadecimal digit, which is one byte long.
  have hmem : ∀ c ∈ didToHash X t, isAsciiHexDigit c = true ∧ c.utf8Size = 1 := by
    intro c hc
    obtain ⟨b, -, hb⟩ := List.mem_flatMap.mp (List.mem_of_mem_take hc)
    have hlt := b.toNat_lt
    simp only [Text.hexByte, List.mem_cons, List.not_mem_nil, or_false] at hb
    rcases hb with rfl | rfl
    · exact hdigit _ (by omega)
    · exact hdigit _ (by omega)
  have hlength : (didToHash X t).length = 12 := by
    -- Two digits for each of the 32 bytes.
    have hdigits : ∀ l : Bytes,
        (l.flatMap fun b => Text.hexByte b.toNat).length = 2 * l.length := by
      intro l
      induction l with
      | nil => rfl
      | cons b l ih =>
        rw [List.flatMap_cons, List.length_append, ih, List.length_cons]
        simp only [Text.hexByte, List.length_cons, List.length_nil]
        omega
    rw [didToHash, List.length_take, hdigits, (X.blake3 _).2]
    rfl
  rw [isHash, Bool.and_eq_true, decide_eq_true_iff, List.all_eq_true]
  refine ⟨?_, fun c hc => (hmem c hc).1⟩
  rw [Text.utf8Length, List.map_congr_left fun c hc => (hmem c hc).2]
  simp [hlength]

/-- The text of a DID is no hash. -/
theorem isHash_toText (did : DID) : isHash did.toText = false := by
  obtain ⟨rest, hrest⟩ := did.exists_toText_eq
  have hcolon : ':' ∈ did.toText := by
    rw [hrest]
    refine List.mem_append_left _ ?_
    cases did.method <;> decide
  have hall : did.toText.all isAsciiHexDigit = false :=
    List.all_eq_false.mpr ⟨':', hcolon, by decide⟩
  rw [isHash, hall, Bool.and_false]

/-! ## Snapshots -/

/-- The latest snapshot of a DID has the number `n` and holds the keys. -/
structure Stored (X : ToolCrates) (w : World) (did : DID) (n : ℕ) (keys : StagedKeys) : Prop where
  /-- The entry records the DID. -/
  entry : ∃ dir stored, w.keyStore.get (didToHash X did.toText) = some dir ∧
    dir.didTxt = some stored ∧ Text.trim stored = did.toText ∧ dir.latestNumber = some n
  key (role : KeyRole) : storedKey X w (didToHash X did.toText) n role = some (keys.key role)

variable {X : ToolCrates} {env : Env} {w : World} {did : DID} {n : ℕ} {keys : StagedKeys}

namespace Stored

/-- The key store is all that counts. -/
theorem congr (h : Stored X w did n keys) {w' : World} (hw : w'.keyStore = w.keyStore) :
    Stored X w' did n keys := by
  refine ⟨?_, fun role => ?_⟩
  · rw [hw]
    exact h.entry
  · rw [← h.key role]
    unfold storedKey Os.keyFile
    rw [hw]

/-- The key store is the same at any tick. -/
theorem ticked (h : Stored X w did n keys) : Stored X w.ticked did n keys := h.congr rfl

/-- The entry is found. -/
theorem lookup (h : Stored X w did n keys) (hfault : ∀ n op, env.fault n op = none) :
    KeyStore.lookup X env did w =
      (.ok (some ⟨didToHash X did.toText, did.toText⟩), w.ticked) := by
  obtain ⟨dir, stored, hdir, hstored, htext, -⟩ := h.entry
  exact KeyStore.lookup_eq_ok_some_iff.mpr
    ⟨hfault _ _, ⟨dir, stored, hdir, hstored, htext⟩, rfl, rfl⟩

/-- The number of the snapshot is found. -/
theorem latestVersion (h : Stored X w did n keys) (hfault : ∀ n op, env.fault n op = none)
    {entry : KeyStoreEntry} (hentry : entry.hash = didToHash X did.toText) :
    entry.latestVersion env w = (.ok n, w.ticked) := by
  obtain ⟨dir, -, hdir, -, -, hnumber⟩ := h.entry
  refine KeyStoreEntry.latestVersion_eq_ok_iff.mpr ⟨hfault _ _, ?_, rfl⟩
  rw [hentry, hdir, Option.bind_some, hnumber]

/-- The key of a role that is loaded, be it from the latest snapshot or from the one with its
number. -/
theorem eq_of_load (h : Stored X w did n keys) {entry : KeyStoreEntry}
    (hentry : entry.hash = didToHash X did.toText) {version : Option ℕ}
    (hversion : version = none ∨ version = some n) {role : KeyRole} {sk : FixedBytes 32}
    {w' : World} (hload : entry.load env (parsePrivateKey X role) role version w = (.ok sk, w')) :
    sk = keys.key role := by
  obtain ⟨pem, hpem, hparse⟩ := storedKey_eq_some_iff.mp (h.key role)
  have heq : ∀ w₁, (w₁ = w ∨ w₁ = w.ticked) →
      entry.load env (parsePrivateKey X role) role (some n) w₁ = (.ok sk, w') →
        sk = keys.key role := by
    intro w₁ hw₁ hload
    obtain ⟨-, ⟨pem', hpem', hparse'⟩, -⟩ := KeyStoreEntry.load_some_eq_ok_iff.mp hload
    obtain rfl : pem' = pem := by
      rw [hentry] at hpem'
      rcases hw₁ with rfl | rfl <;> exact Option.some.inj (hpem'.symm.trans hpem)
    exact Except.ok.inj (hparse'.symm.trans hparse)
  rcases hversion with rfl | rfl
  · rw [KeyStoreEntry.load_none, Command.bind_eq_ok_iff] at hload
    obtain ⟨m, w₁, hlatest, hload⟩ := hload
    obtain ⟨-, hnumber, rfl⟩ := KeyStoreEntry.latestVersion_eq_ok_iff.mp hlatest
    obtain ⟨dir, -, hdir, -, -, hnumber'⟩ := h.entry
    rw [hentry, hdir, Option.bind_some, hnumber'] at hnumber
    obtain rfl := Option.some.inj hnumber
    exact heq _ (.inr rfl) hload
  · exact heq _ (.inl rfl) hload

/-- The key of a role is loaded from the latest snapshot. -/
theorem load (h : Stored X w did n keys) (hfault : ∀ n op, env.fault n op = none)
    {entry : KeyStoreEntry} (hentry : entry.hash = didToHash X did.toText) (role : KeyRole) :
    entry.load env (parsePrivateKey X role) role none w =
      (.ok (keys.key role), w.ticked.ticked) := by
  obtain ⟨pem, hpem, hparse⟩ := storedKey_eq_some_iff.mp (h.key role)
  rw [KeyStoreEntry.load_none, Command.bind_eq_ok_iff]
  refine ⟨n, w.ticked, h.latestVersion hfault hentry,
    KeyStoreEntry.load_some_eq_ok_iff.mpr ⟨hfault _ _, ⟨pem, ?_, hparse⟩, rfl⟩⟩
  rw [hentry]
  exact hpem

end Stored

/-! ## Resolving targets -/

/-- The entry that is found by the hash of the DID. -/
theorem Stored.lookupByHash_eq_ok_iff (h : Stored X w did n keys) {entry : Option KeyStoreEntry}
    {w' : World} : KeyStore.lookupByHash env (didToHash X did.toText) w = (.ok entry, w') ↔
      env.fault w.tick (.readKeyStore (didToHash X did.toText)) = none ∧
        entry = some ⟨didToHash X did.toText, did.toText⟩ ∧ w.ticked = w' := by
  obtain ⟨dir, stored, hdir, hstored, htext, -⟩ := h.entry
  have hdidTxt : (w.keyStore.get (didToHash X did.toText)).bind EntryDir.didTxt = some stored := by
    rw [hdir, Option.bind_some, hstored]
  simp only [KeyStore.lookupByHash, Command.bind_eq_ok_iff, Os.entryExists, Command.read_eq_ok_iff]
  constructor
  · rintro ⟨_, _, ⟨rfl, rfl⟩, hrest⟩
    rw [hdir, Option.isSome_some, if_neg (by simp)] at hrest
    simp only [Command.bind_eq_ok_iff, Command.mapError_eq_ok_iff, Os.readDidTxt,
      Os.reading_eq_ok_iff, Option.okOr_eq_ok_iff, World.keyStore_ticked, hdidTxt,
      Command.pure_eq_ok_iff] at hrest
    obtain ⟨_, _, ⟨hfault, hsome, rfl⟩, rfl, rfl⟩ := hrest
    rw [← Option.some.inj hsome, htext]
    exact ⟨hfault, rfl, rfl⟩
  · rintro ⟨hfault, rfl, rfl⟩
    refine ⟨_, _, ⟨rfl, rfl⟩, ?_⟩
    rw [hdir, Option.isSome_some, if_neg (by simp)]
    simp only [Command.bind_eq_ok_iff, Command.mapError_eq_ok_iff, Os.readDidTxt,
      Os.reading_eq_ok_iff, Option.okOr_eq_ok_iff, World.keyStore_ticked, hdidTxt,
      Command.pure_eq_ok_iff]
    exact ⟨stored, _, ⟨hfault, rfl, rfl⟩, by rw [htext], rfl⟩

/-- A target that names the DID resolves to no other entry than that of the DID. -/
theorem Stored.eq_of_resolveEntry (h : Stored X w did n keys)
    (hdid : DID.fromStr did.toText = .ok did) {target : Text} (htarget : Names X did target)
    {entry : KeyStoreEntry} {w' : World} (hentry : resolveEntry X env target w = (.ok entry, w')) :
    entry = ⟨didToHash X did.toText, did.toText⟩ ∧ w' = w.ticked := by
  rcases htarget with rfl | rfl
  · rw [resolveEntry, isHash_toText, if_neg (by simp)] at hentry
    simp only [Command.bind_eq_ok_iff, Command.ofExcept_eq_ok_iff, Except.mapError_eq_ok_iff,
      Command.mapError_eq_ok_iff, Option.okOr_eq_ok_iff, hdid, Except.ok.injEq] at hentry
    obtain ⟨_, _, ⟨rfl, rfl⟩, _, _, hlookup, rfl, rfl⟩ := hentry
    obtain ⟨-, -, rfl, rfl⟩ := KeyStore.lookup_eq_ok_some_iff.mp hlookup
    exact ⟨rfl, rfl⟩
  · rw [resolveEntry, isHash_didToHash, if_pos rfl] at hentry
    simp only [Command.bind_eq_ok_iff, Command.ofExcept_eq_ok_iff, Command.mapError_eq_ok_iff,
      Option.okOr_eq_ok_iff] at hentry
    obtain ⟨_, _, hlookup, rfl, rfl⟩ := hentry
    obtain ⟨-, hentry, rfl⟩ := h.lookupByHash_eq_ok_iff.mp hlookup
    exact ⟨Option.some.inj hentry, rfl⟩

/-- A target that names the DID resolves to the DID. -/
theorem resolveDid_of_names (h : Stored X w did n keys) (hdid : DID.fromStr did.toText = .ok did)
    (hfault : ∀ n op, env.fault n op = none) {target : Text} (htarget : Names X did target) :
    ∃ w', resolveDid env target w = (.ok did, w') ∧ (w' = w ∨ w' = w.ticked) := by
  rcases htarget with rfl | rfl
  · refine ⟨w, ?_, .inl rfl⟩
    rw [resolveDid, isHash_toText, if_neg (by simp)]
    simp [hdid, Except.mapError]
  · refine ⟨w.ticked, ?_, .inr rfl⟩
    rw [resolveDid, isHash_didToHash, if_pos rfl]
    simp only [Command.bind_eq_ok_iff, Command.ofExcept_eq_ok_iff, Command.mapError_eq_ok_iff,
      Option.okOr_eq_ok_iff, Except.mapError_eq_ok_iff]
    exact ⟨_, _, h.lookupByHash_eq_ok_iff.mpr ⟨hfault _ _, rfl, rfl⟩, _, _, ⟨rfl, rfl⟩, hdid, rfl⟩

/-! ## Logs -/

/-- The log of a DID and the key store are in step. -/
structure InStep (X : ToolCrates) (w : World) (did : DID) (log : DIDLog) (keys : StagedKeys) :
    Prop where
  fromStr : DID.fromStr did.toText = .ok did
  /-- The verifier accepts the log. -/
  accepted : verifyLog X.toCrates log did = .ok ()
  /-- The latest snapshot has the number of the last entry. -/
  stored : Stored X w did log.entries.length keys
  /-- The only update key is the latest authorized key. -/
  updateKeys : latestUpdateKeys log.entries =
    [ed25519VerifyingKeyToMultikey (keys.authorizedKeyBytes X)]
  /-- The last entry has that number, and its document holds the latest keys. -/
  last : ∃ e hash, log.entries.getLast? = some e ∧
    e.versionId = Text.decimal log.entries.length ++ '-' :: hash ∧
    e.didDocState = .value (DIDDoc.newGenesis did.toText (keys.authenticationKeyCoords X)
      (keys.assertionKeyCoords X)).toJson

/-! ## A sample DID

The log and the keys of a DID that has been created. -/

namespace Sample

/-- The DID. -/
def toolDid : DID := ⟨.tdw, some "QmWvKGs1ovEoCwi3qjxtVR9Mfu5DL5zSiktNfByadTvHes", "a.ch", none,
  isValidDomain_sample, DID.noPath_valid⟩

/-- Its keys. -/
def createdKeys : StagedKeys := ⟨seed, authenticationSecret, assertionSecret⟩

/-- The version of its first entry. -/
def createdVersionId : Text := "1-QmPWnvoMfLoWqY3zkruJzy45J9WNHTAc1fEuj2Hh6GPdZi"

/-- The first entry. -/
def createdEntry : DIDLogEntry where
  format := .tdw03
  versionId := createdVersionId
  versionTime := "2025-01-01T00:00:00Z"
  parameters := (LogParameters.newTdwMinimal "did:tdw:0.3" (toolDid.scid.getD [])
    [ed25519VerifyingKeyToMultikey key]).asRead .tdw03
  didDocState := .value (DIDDoc.newGenesis toolDid.toText
    (createdKeys.authenticationKeyCoords toolCrates)
    (createdKeys.assertionKeyCoords toolCrates)).toJson
  dataIntegrityProofs := [proof createdVersionId "2025-01-01T00:00:00Z" createdSignature]

/-- The log. -/
def createdLog : DIDLog := ⟨[createdEntry]⟩

/-- The text of the log. -/
def createdText : Text := createdEntry.toJson.print toolCrates.f64 ++ ['\n']

/-- The text of a PEM, or nothing. -/
def pemText (pem : Except Text Text) : Text := pem.toOption.getD []

/-- The files of the keys. -/
def snapshotOf (keys : StagedKeys) : Snapshot := OrdMap.ofList [
  (keyFileName .authorized true, pemText (toolCrates.eddsaPrivateToPem keys.authorized)),
  (keyFileName .authorized false,
    pemText (toolCrates.eddsaPublicToPem (keys.authorizedKeyBytes toolCrates))),
  (keyFileName .authentication true, pemText (toolCrates.ecdsaPrivateToPem keys.authentication)),
  (keyFileName .authentication false,
    pemText (toolCrates.ecdsaPublicToPem (keys.authenticationKeyCoords toolCrates))),
  (keyFileName .assertion true, pemText (toolCrates.ecdsaPrivateToPem keys.assertion)),
  (keyFileName .assertion false,
    pemText (toolCrates.ecdsaPublicToPem (keys.assertionKeyCoords toolCrates)))]

/-- The file of the log. -/
def logPath : Text := "did.jsonl"

/-- A world with a log and the keys of the DID. -/
def worldOf (log : Text) : World where
  files := OrdMap.ofList [(logPath, log)]
  keyStore := OrdMap.ofList [(didToHash toolCrates toolDid.toText,
    { didTxt := some toolDid.toText
      snapshots := OrdMap.ofList [(Text.lit "0001", snapshotOf createdKeys)] })]

/-- The world once the DID is created. -/
def createdWorld : World := worldOf createdText

theorem files_worldOf {log : Text} : (worldOf log).files.get logPath = some log := by
  simp [worldOf, OrdMap.ofList]

/-- An environment without servers, at some second. -/
def toolEnv (second : ℤ) : Env := .calm (fun _ _ => .failed "no network") (second * 1000000000)

theorem tryFromJsonl_createdText :
    DIDLog.tryFromJsonl toolCrates.toCrates createdText = .ok createdLog := by
  decide +kernel

/-- The only snapshot holds the keys. -/
theorem stored_worldOf (log : Text) : Stored toolCrates (worldOf log) toolDid 1 createdKeys where
  entry := by
    have hdir : ∃ dir ∈ (worldOf []).keyStore.get (didToHash toolCrates toolDid.toText),
        dir.didTxt = some toolDid.toText ∧ Text.trim toolDid.toText = toolDid.toText ∧
          dir.latestNumber = some 1 := by decide +kernel
    obtain ⟨dir, hdir, htxt, htrim, hnumber⟩ := hdir
    exact ⟨dir, toolDid.toText, hdir, htxt, htrim, hnumber⟩
  key role := by
    show storedKey toolCrates (worldOf []) _ 1 role = _
    cases role <;> decide +kernel

/-- The sample DID and its keys are in step. -/
theorem inStep_created : InStep toolCrates createdWorld toolDid createdLog createdKeys where
  fromStr := by decide +kernel
  accepted := by decide +kernel
  stored := stored_worldOf _
  updateKeys := by decide +kernel
  last := ⟨createdEntry, "QmPWnvoMfLoWqY3zkruJzy45J9WNHTAc1fEuj2Hh6GPdZi", rfl,
    by decide +kernel, rfl⟩

end Sample

end Swiyu
