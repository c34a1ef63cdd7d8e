import Swiyu.Core.Did
import Swiyu.Didtool.Crypto

/-!
# The key store

Each DID has a directory, named by a hash of the DID, with numbered snapshots of its three key
pairs.

## Main definitions

- `Swiyu.StagedKeys`: key pairs that are not in the key store yet.
- `Swiyu.KeyStore.lookup`, `Swiyu.KeyStore.commit`: entries of DIDs.
- `Swiyu.KeyStoreEntry.loadEddsa`, `Swiyu.KeyStoreEntry.addVersion`: snapshots of an entry.
-/

namespace Swiyu

/-- Why an operation on the key store fails. -/
inductive KeyStoreError
  | io (source : Text)
  | alreadyExists (hash : Text)
  | notFound (hash : Text)
  /-- The directory holds another DID: a collision of hashes or a corruption. -/
  | mismatch (hash : Text)
  | crypto (e : CryptoError)
  deriving DecidableEq

/-- The message of an error. -/
def KeyStoreError.toText : KeyStoreError → Text
  | io source => Text.lit "I/O error: " ++ source
  | alreadyExists hash => Text.lit "entry '" ++ hash ++ "' already exists"
  | notFound hash => Text.lit "entry '" ++ hash ++ "' not found"
  | mismatch hash => Text.lit "entry '" ++ hash ++ "': did.txt contains a different DID"
  | crypto e => Text.lit "crypto error: " ++ e.toText

/-- The role a key pair plays for a DID. -/
inductive KeyRole
  /-- Signs log entries. -/
  | authorized
  | authentication
  /-- Signs verifiable credentials. -/
  | assertion
  deriving DecidableEq

/-- The beginning of the names of a role's files. -/
def keyRoleFileStem : KeyRole → Text
  | .authorized => "authorized"
  | .authentication => "authentication"
  | .assertion => "assertion"

/-- The signing keys of the three roles. -/
structure StagedKeys where
  authorized : FixedBytes 32
  authentication : FixedBytes 32
  assertion : FixedBytes 32
  deriving DecidableEq

/-- A resolved entry. -/
structure KeyStoreEntry where
  /-- Names the entry's directory. -/
  hash : Text
  /-- The DID this entry holds keys for. -/
  did : Text
  deriving DecidableEq

/-- `format!("{n:04}")`. -/
def snapshotName (n : ℕ) : Text :=
  List.replicate (4 - (Text.decimal n).length) '0' ++ Text.decimal n

/-- The number in the name of a snapshot: four digits. -/
def snapshotNumber (name : Text) : Option ℕ :=
  if name.length = 4 ∧ name.all Char.isDigit = true then some (Nat.ofDigitChars 10 name 0) else none

/-- The name of a key file. -/
def keyFileName (role : KeyRole) (isPrivate : Bool) : Text :=
  keyRoleFileStem role ++ '-' :: (if isPrivate then Text.lit "private" else Text.lit "public") ++
    Text.lit ".pem"

/-- Commands on the key store. -/
abbrev KeyStoreCommand := Command World KeyStoreError

variable (X : ToolCrates) (env : Env)

/-- The first 12 hexadecimal digits of the BLAKE3 hash of a DID. -/
def didToHash (did : Text) : Text :=
  ((X.blake3 (Text.utf8 did) : Bytes).flatMap fun b => Text.hexByte b.toNat).take 12

namespace StagedKeys

/-- The public key for the `authorized` role. -/
def authorizedKeyBytes (staged : StagedKeys) : FixedBytes 32 :=
  X.ed25519VerifyingKey staged.authorized

/-- The public key for the `authentication` role. -/
def authenticationKeyCoords (staged : StagedKeys) : P256PublicKey :=
  X.p256VerifyingKey staged.authentication

/-- The public key for the `assertion` role. -/
def assertionKeyCoords (staged : StagedKeys) : P256PublicKey := X.p256VerifyingKey staged.assertion

end StagedKeys

/-! ## Snapshots -/

/-- Writes a key file once its PEM is there. -/
def writePem (hash snapshot : Text) (role : KeyRole) (isPrivate : Bool) (pem : Except Text Text) :
    KeyStoreCommand Unit := do
  let pem ← Command.ofExcept (pem.mapError fun e => .crypto (.invalidKey e))
  (Os.writeKeyFile env hash snapshot (keyFileName role isPrivate) pem).mapError fun e =>
    .crypto (.io e)

/-- Writes the three key pairs into a snapshot. -/
def writeKeys (hash snapshot : Text) (staged : StagedKeys) : KeyStoreCommand Unit := do
  (Os.createSnapshotDir env hash snapshot).mapError .io
  writePem env hash snapshot .authorized true (X.eddsaPrivateToPem staged.authorized)
  writePem env hash snapshot .authorized false (X.eddsaPublicToPem (staged.authorizedKeyBytes X))
  writePem env hash snapshot .authentication true (X.ecdsaPrivateToPem staged.authentication)
  writePem env hash snapshot .authentication false
    (X.ecdsaPublicToPem (staged.authenticationKeyCoords X))
  writePem env hash snapshot .assertion true (X.ecdsaPrivateToPem staged.assertion)
  writePem env hash snapshot .assertion false (X.ecdsaPublicToPem (staged.assertionKeyCoords X))

namespace KeyStoreEntry

variable (entry : KeyStoreEntry)

/-- The highest snapshot number. -/
def latestVersion : KeyStoreCommand ℕ := do
  let names ← (Os.listSnapshots env entry.hash).mapError .io
  Command.ofExcept ((names.filterMap snapshotNumber).max?.okOr (.notFound entry.hash))

/-- All snapshot numbers, in ascending order. -/
def allVersions : KeyStoreCommand (List ℕ) := do
  let names ← (Os.listSnapshots env entry.hash).mapError .io
  let versions := names.filterMap snapshotNumber
  if versions = [] then Command.fail (.notFound entry.hash)
  else return versions.mergeSort

/-- The given snapshot number, or the highest one. -/
def resolveVersion : Option ℕ → KeyStoreCommand ℕ
  | some v => return v
  | none => entry.latestVersion env

/-- The PEM of the public key for a role. -/
def publicKeyPem (role : KeyRole) (version : Option ℕ) : KeyStoreCommand Text := do
  let v ← entry.resolveVersion env version
  let name := keyFileName role false
  let present ← Os.keyFileExists entry.hash (snapshotName v) name
  if present = false then Command.fail (.notFound entry.hash)
  else (Os.readKeyFile env entry.hash (snapshotName v) name).mapError .io

/-- Loads the private key for a role. -/
def load (parse : Text → Except CryptoError (FixedBytes 32)) (role : KeyRole)
    (version : Option ℕ) : KeyStoreCommand (FixedBytes 32) := do
  let v ← entry.resolveVersion env version
  let name := keyFileName role true
  let present ← Os.keyFileExists entry.hash (snapshotName v) name
  if present = false then Command.fail (.notFound entry.hash)
  else do
    let pem ← (Os.readKeyFile env entry.hash (snapshotName v) name).mapError .io
    Command.ofExcept ((parse pem).mapError .crypto)

/-- Loads an Ed25519 private key. -/
def loadEddsa := entry.load env (parsePrivateKeyEddsa X)

/-- Loads a P-256 private key. -/
def loadEcdsa := entry.load env (parsePrivateKeyEcdsa X)

/-- Writes a new snapshot and yields its number. -/
def addVersion (staged : StagedKeys) : KeyStoreCommand ℕ := do
  let latest ← entry.latestVersion env
  let next := latest + 1
  writeKeys X env entry.hash (snapshotName next) staged
  return next

end KeyStoreEntry

/-! ## Entries -/

namespace KeyStore

/-- Looks up the entry for a DID. -/
def lookup (did : DID) : KeyStoreCommand (Option KeyStoreEntry) := do
  let didStr := did.toText
  let hash := didToHash X didStr
  let present ← Os.entryExists hash
  if present = false then return none
  else do
    let stored ← (Os.readDidTxt env hash).mapError .io
    if Text.trim stored ≠ didStr then Command.fail (.mismatch hash)
    else return some { hash, did := didStr }

/-- Looks up an entry by its hash. -/
def lookupByHash (hash : Text) : KeyStoreCommand (Option KeyStoreEntry) := do
  let present ← Os.entryExists hash
  if present = false then return none
  else do
    let stored ← (Os.readDidTxt env hash).mapError .io
    return some { hash, did := Text.trim stored }

/-- Writes the keys of a new DID into a first snapshot, and then records the DID. -/
def commit (staged : StagedKeys) (did : DID) : KeyStoreCommand KeyStoreEntry := do
  let didStr := did.toText
  let hash := didToHash X didStr
  let present ← Os.entryExists hash
  if present = true then Command.fail (.alreadyExists hash)
  else do
    writeKeys X env hash "0001" staged
    (Os.writeDidTxt env hash didStr).mapError .io
    return { hash, did := didStr }

/-- Removes the entry for a DID and all its contents. -/
def remove (did : DID) : KeyStoreCommand Unit := do
  let hash := didToHash X did.toText
  let present ← Os.entryExists hash
  if present = false then Command.fail (.notFound hash)
  else (Os.removeEntry env hash).mapError .io

end KeyStore

/-- Whether an entry for a DID exists. -/
def KeyStore.exists (did : DID) : KeyStoreCommand Bool := Os.entryExists (didToHash X did.toText)

/-! ## Success -/

/-- The highest snapshot number of an entry. -/
def EntryDir.latestNumber (dir : EntryDir) : Option ℕ :=
  ((dir.snapshots.toList.map Prod.fst).filterMap snapshotNumber).max?

/-- The parser of a role's private keys. -/
def parsePrivateKey : KeyRole → Text → Except CryptoError (FixedBytes 32)
  | .authorized => parsePrivateKeyEddsa X
  | .authentication => parsePrivateKeyEcdsa X
  | .assertion => parsePrivateKeyEcdsa X

/-- The private key of a role in snapshot `n` of an entry, if it can be read. -/
def storedKey (w : World) (hash : Text) (n : ℕ) (role : KeyRole) : Option (FixedBytes 32) :=
  (Os.keyFile w hash (snapshotName n) (keyFileName role true)).bind fun pem =>
    (parsePrivateKey X role pem).toOption

variable {X env} {w w' : World} {entry : KeyStoreEntry}

theorem storedKey_eq_some_iff {hash : Text} {n : ℕ} {role : KeyRole} {key : FixedBytes 32} :
    storedKey X w hash n role = some key ↔
      ∃ pem, Os.keyFile w hash (snapshotName n) (keyFileName role true) = some pem ∧
        parsePrivateKey X role pem = .ok key := by
  rw [storedKey, Option.bind_eq_some_iff]
  refine exists_congr fun pem => and_congr_right fun _ => ?_
  cases parsePrivateKey X role pem <;> simp [Except.toOption]

/-- An entry that is found records the DID that it was looked up for. -/
theorem KeyStore.lookup_eq_ok_some_iff {did : DID} :
    KeyStore.lookup X env did w = (.ok (some entry), w') ↔
      env.fault w.tick (.readKeyStore (didToHash X did.toText)) = none ∧
        (∃ dir stored, w.keyStore.get (didToHash X did.toText) = some dir ∧
          dir.didTxt = some stored ∧ Text.trim stored = did.toText) ∧
        entry = ⟨didToHash X did.toText, did.toText⟩ ∧ w.ticked = w' := by
  simp only [KeyStore.lookup, Command.bind_eq_ok_iff, Os.entryExists, Command.read_eq_ok_iff]
  constructor
  · rintro ⟨_, _, ⟨rfl, rfl⟩, h⟩
    by_cases hpresent : (w.keyStore.get (didToHash X did.toText)).isSome = false
    · simp [hpresent] at h
    · rw [if_neg hpresent] at h
      simp only [Command.bind_eq_ok_iff, Command.mapError_eq_ok_iff, Os.readDidTxt,
        Os.reading_eq_ok_iff, Option.okOr_eq_ok_iff, Option.bind_eq_some_iff] at h
      obtain ⟨stored, _, ⟨hfault, ⟨dir, hdir, hstored⟩, rfl⟩, h⟩ := h
      rw [Command.ite_fail_eq_ok_iff, Command.pure_eq_ok_iff] at h
      obtain ⟨htext, hentry, rfl⟩ := h
      exact ⟨hfault, ⟨dir, stored, hdir, hstored, not_not.mp htext⟩, (Option.some.inj hentry).symm,
        rfl⟩
  · rintro ⟨hfault, ⟨dir, stored, hdir, hstored, htext⟩, rfl, rfl⟩
    refine ⟨_, _, ⟨rfl, rfl⟩, ?_⟩
    rw [hdir, Option.isSome_some, if_neg (by simp)]
    simp only [Command.bind_eq_ok_iff, Command.mapError_eq_ok_iff, Os.readDidTxt,
      Os.reading_eq_ok_iff, Option.okOr_eq_ok_iff, Option.bind_eq_some_iff]
    refine ⟨stored, _, ⟨hfault, ⟨dir, hdir, hstored⟩, rfl⟩, ?_⟩
    rw [if_neg (not_not.mpr htext), Command.pure_eq_ok_iff]
    exact ⟨rfl, rfl⟩

namespace KeyStoreEntry

theorem latestVersion_eq_ok_iff {n : ℕ} : entry.latestVersion env w = (.ok n, w') ↔
    env.fault w.tick (.readKeyStore entry.hash) = none ∧
      (w.keyStore.get entry.hash).bind EntryDir.latestNumber = some n ∧ w.ticked = w' := by
  simp only [latestVersion, Command.bind_eq_ok_iff, Command.mapError_eq_ok_iff, Os.listSnapshots,
    Os.reading_eq_ok_iff, Option.okOr_eq_ok_iff, Command.ofExcept_eq_ok_iff, Option.map_eq_some_iff,
    Option.bind_eq_some_iff, World.keyStore_ticked]
  constructor
  · rintro ⟨_, _, ⟨hfault, ⟨dir, hdir, rfl⟩, rfl⟩, hmax, rfl⟩
    exact ⟨hfault, ⟨dir, hdir, hmax⟩, rfl⟩
  · rintro ⟨hfault, ⟨dir, hdir, hmax⟩, rfl⟩
    exact ⟨_, _, ⟨hfault, ⟨dir, hdir, rfl⟩, rfl⟩, hmax, rfl⟩

/-- A key that is loaded from a given snapshot is in its file. -/
theorem load_some_eq_ok_iff {parse : Text → Except CryptoError (FixedBytes 32)} {role : KeyRole}
    {n : ℕ} {key : FixedBytes 32} : entry.load env parse role (some n) w = (.ok key, w') ↔
      env.fault w.tick (.readKeyStore entry.hash) = none ∧
        (∃ pem, Os.keyFile w entry.hash (snapshotName n) (keyFileName role true) = some pem ∧
          parse pem = .ok key) ∧ w.ticked = w' := by
  simp only [load, resolveVersion, Command.bind_eq_ok_iff, Command.pure_eq_ok_iff,
    Os.keyFileExists, Command.read_eq_ok_iff]
  constructor
  · rintro ⟨_, _, ⟨rfl, rfl⟩, _, _, ⟨rfl, rfl⟩, h⟩
    simp only [Command.ite_fail_eq_ok_iff, Command.bind_eq_ok_iff, Command.mapError_eq_ok_iff,
      Os.readKeyFile, Os.reading_eq_ok_iff, Option.okOr_eq_ok_iff, Command.ofExcept_eq_ok_iff,
      Except.mapError_eq_ok_iff] at h
    obtain ⟨-, pem, _, ⟨hfault, hpem, rfl⟩, hparse, rfl⟩ := h
    exact ⟨hfault, ⟨pem, hpem, hparse⟩, rfl⟩
  · rintro ⟨hfault, ⟨pem, hpem, hparse⟩, rfl⟩
    refine ⟨_, _, ⟨rfl, rfl⟩, _, _, ⟨rfl, rfl⟩, ?_⟩
    rw [hpem, Option.isSome_some, if_neg (by simp)]
    simp only [Command.bind_eq_ok_iff, Command.mapError_eq_ok_iff, Os.readKeyFile,
      Os.reading_eq_ok_iff, Option.okOr_eq_ok_iff, Command.ofExcept_eq_ok_iff,
      Except.mapError_eq_ok_iff]
    exact ⟨pem, _, ⟨hfault, hpem, rfl⟩, hparse, rfl⟩

/-- Without a snapshot number, the highest one is loaded from. -/
theorem load_none {parse : Text → Except CryptoError (FixedBytes 32)} {role : KeyRole} :
    entry.load env parse role none =
      (do
        let n ← entry.latestVersion env
        entry.load env parse role (some n)) := rfl

end KeyStoreEntry

end Swiyu
