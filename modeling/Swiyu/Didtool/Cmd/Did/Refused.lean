import Swiyu.Didtool.Cmd.Did.Rotated
import Swiyu.Didtool.Cmd.Pop.Deactivated
import Swiyu.Didtool.KeyStore.Atomic

/-!
# Updates of deactivated DIDs

A deactivation refuses a log whose last entry deactivates the DID. A rotation does not ask for that:
what keeps it from adding an entry is only what would keep it from adding one to any log.

## Main definitions

- `Swiyu.Untouched`: a command that ends in an error and has changed nothing.
- `Swiyu.Rotate.Rotatable`: nothing that a rotation needs is missing.

## Main results

- `Swiyu.untouched_iff`: when deactivated DIDs are not updated.
-/

namespace Swiyu

open Json

/-- The command ends in an error, and leaves the files and the key store as they are. -/
def Untouched {ε α : Type} (x : Command World ε α) (w : World) : Prop :=
  (∃ e, (x w).1 = .error e) ∧ (x w).2.files = w.files ∧ (x w).2.keyStore = w.keyStore

variable {X : ToolCrates} {env : Env} {w w' : World} {did : DID} {n : ℕ}

/-! ## Publication -/

/-- Uploading a log leaves the key store as it is. -/
theorem keeps_publishLog {args : UpdateArgs} {didStr updatedLog : Text} {writtenTo : Option Text} :
    (publishLog env args didStr did updatedLog writtenTo).Keeps World.keyStore := by
  have hreport (source : Text) :
      (reportUpload env updatedLog source writtenTo).Keeps World.keyStore := by
    cases writtenTo with
    | some path => exact .fail
    | none =>
      exact .bind (.mapError (keeps_writePendingLog (fun _ => rfl) fun _ _ => rfl)) fun _ => .fail
  refine .ite .pure (.bind .ofExcept fun ⟨partnerId, registryUrl⟩ => .bind .ofExcept fun _ => ?_)
  exact .orElse (Os.keeps_publish (fun _ => rfl) fun _ => rfl) hreport

namespace Rotate

/-! ## What a rotation needs -/

/-- What becomes of the key of a role. -/
def Plan.action (plan : Plan) : KeyRole → Action
  | .authorized => plan.authorized
  | .authentication => plan.authentication
  | .assertion => plan.assertion

variable (X) in
/-- The key that a role is to have can be read. -/
def KeyAvailable (w : World) (hash : Text) (n : ℕ) (role : KeyRole) : Action → Prop
  | .keep => ∃ key, storedKey X w hash n role = some key
  | .generate => True
  | .import path => ∃ pem key, w.files.get path = some pem ∧ parsePrivateKey X role pem = .ok key

variable (X) in
/-- The key store has an entry for the DID, with the latest snapshot `n` and the authorized key in
it. -/
structure SignerAvailable (w : World) (did : DID) (n : ℕ) : Prop where
  entry : ∃ dir stored, w.keyStore.get (didToHash X did.toText) = some dir ∧
    dir.didTxt = some stored ∧ Text.trim stored = did.toText ∧ dir.latestNumber = some n
  authorized : ∃ key, storedKey X w (didToHash X did.toText) n .authorized = some key

variable (X) in
/-- Nothing that a rotation needs is missing: the arguments make a plan with a place for the log,
the log is in the right format and tells its DID, the keys that are kept or imported can be read,
and a file that is in the way may be overwritten. -/
def Rotatable (w : World) (args : RotateArgs) (log : DIDLog) : Prop :=
  ∃ plan last didStr did n, planRotation args = .ok plan ∧
    checkTarget args.toUpdateArgs = .ok () ∧ lastEntry log = .ok last ∧
    logDid log = .ok (didStr, did) ∧ SignerAvailable X w did n ∧
    (∀ role, KeyAvailable X w (didToHash X did.toText) n role (plan.action role)) ∧
    ∀ path, args.out = some path → (w.files.get path).isSome → args.force = true

theorem Rotatable.overwrite {args : RotateArgs} {log : DIDLog} (h : Rotatable X w args log) :
    ∀ path, args.out = some path → (w.files.get path).isSome → args.force = true := by
  obtain ⟨_, _, _, _, _, -, -, -, -, -, -, hout⟩ := h
  exact hout

theorem SignerAvailable.congr (h : SignerAvailable X w did n) (hw : w'.keyStore = w.keyStore) :
    SignerAvailable X w' did n := by
  obtain ⟨hentry, hauthorized⟩ := h
  unfold storedKey Os.keyFile at hauthorized
  rw [← hw] at hentry hauthorized
  exact ⟨hentry, hauthorized⟩

theorem KeyAvailable.congr {hash : Text} {role : KeyRole} {action : Action}
    (h : KeyAvailable X w hash n role action) (hkeyStore : w'.keyStore = w.keyStore)
    (hfiles : w'.files = w.files) : KeyAvailable X w' hash n role action := by
  cases action with
  | keep =>
    unfold KeyAvailable storedKey Os.keyFile at h ⊢
    rwa [hkeyStore]
  | generate => trivial
  | «import» path =>
    unfold KeyAvailable at h ⊢
    rwa [hfiles]

/-- The signer of a log, once it is found. -/
theorem loadSigner_eq_ok {log : DIDLog} {signer : LogSigner}
    (h : loadSigner X env log w = (.ok signer, w')) :
    logDid log = .ok (signer.didStr, signer.did) ∧
      signer.entry.hash = didToHash X signer.did.toText ∧
      SignerAvailable X w signer.did signer.version := by
  simp only [loadSigner, Command.bind_eq_ok_iff, Command.ofExcept_eq_ok_iff,
    Command.mapError_eq_ok_iff, Command.pure_eq_ok_iff, Option.okOr_eq_ok_iff] at h
  obtain ⟨_, _, ⟨hdid, rfl⟩, found, w₁, hlookup, entry, _, ⟨hentry, rfl⟩, version, w₂, hversion,
    authorized, _, hauthorized, rfl, -⟩ := h
  subst hentry
  obtain ⟨-, ⟨dir, stored, hdir, hstored, htext⟩, rfl, rfl⟩ :=
    KeyStore.lookup_eq_ok_some_iff.mp hlookup
  obtain ⟨-, hnumber, rfl⟩ := KeyStoreEntry.latestVersion_eq_ok_iff.mp hversion
  obtain ⟨-, ⟨pem, hpem, hparse⟩, -⟩ := KeyStoreEntry.load_some_eq_ok_iff.mp hauthorized
  refine ⟨hdid, rfl, ⟨dir, stored, hdir, hstored, htext, ?_⟩, authorized, ?_⟩
  · rw [← hnumber, World.keyStore_ticked, hdir]
    rfl
  · exact storedKey_eq_some_iff.mpr ⟨pem, hpem, hparse⟩

/-- Without faults the signer is found. -/
theorem exists_loadSigner (hfault : ∀ n op, env.fault n op = none) {log : DIDLog} {didStr : Text}
    (hdid : logDid log = .ok (didStr, did)) (h : SignerAvailable X w did n) :
    ∃ signer w', loadSigner X env log w = (.ok signer, w') ∧ signer.did = did ∧
      signer.version = n := by
  obtain ⟨⟨dir, stored, hdir, hstored, htext, hnumber⟩, key, hkey⟩ := h
  obtain ⟨pem, hpem, hparse⟩ := storedKey_eq_some_iff.mp hkey
  have hlookup := KeyStore.lookup_eq_ok_some_iff.mpr
    ⟨hfault _ _, ⟨dir, stored, hdir, hstored, htext⟩, rfl, rfl⟩
  have hversion : (entryOf X did).latestVersion env w.ticked = (.ok n, w.ticked.ticked) := by
    refine KeyStoreEntry.latestVersion_eq_ok_iff.mpr ⟨hfault _ _, ?_, rfl⟩
    show (w.keyStore.get (didToHash X did.toText)).bind _ = _
    rw [hdir, Option.bind_some, hnumber]
  have hload : (entryOf X did).loadEddsa X env .authorized (some n) w.ticked.ticked =
      (.ok key, w.ticked.ticked.ticked) :=
    KeyStoreEntry.load_some_eq_ok_iff.mpr ⟨hfault _ _, ⟨pem, hpem, hparse⟩, rfl⟩
  refine ⟨⟨didStr, did, entryOf X did, n, key⟩, w.ticked.ticked.ticked, ?_, rfl, rfl⟩
  simp only [loadSigner, Command.bind_eq_ok_iff, Command.ofExcept_eq_ok_iff,
    Command.mapError_eq_ok_iff, Command.pure_eq_ok_iff, Option.okOr_eq_ok_iff]
  exact ⟨_, _, ⟨hdid, rfl⟩, _, _, hlookup, _, _, ⟨rfl, rfl⟩, _, _, hversion, _, _, hload, rfl, rfl⟩

/-! ### The keys -/

/-- A key that is staged was available. -/
theorem available_of_stageKey {entry : KeyStoreEntry} {role : KeyRole} {name : Text}
    {generated : RotateCommand (FixedBytes 32)} {action : Action} {key : FixedBytes 32}
    (h : stageKey name (entry.load env (parsePrivateKey X role) role (some n)) generated
      (readPrivateKey env (parsePrivateKey X role)) action w = (.ok key, w')) :
    KeyAvailable X w entry.hash n role action := by
  cases action with
  | keep =>
    obtain ⟨-, ⟨pem, hpem, hparse⟩, -⟩ :=
      KeyStoreEntry.load_some_eq_ok_iff.mp (Command.mapError_eq_ok_iff.mp h)
    exact ⟨key, storedKey_eq_some_iff.mpr ⟨pem, hpem, hparse⟩⟩
  | generate => trivial
  | «import» path =>
    unfold stageKey readPrivateKey at h
    simp only [Command.mapError_eq_ok_iff, Command.bind_eq_ok_iff, Os.readToString_eq_ok_iff,
      Command.ofExcept_eq_ok_iff] at h
    obtain ⟨pem, _, ⟨-, hpem, rfl⟩, hparse, -⟩ := h
    exact ⟨pem, key, hpem, hparse⟩

/-- Without faults a key that is available is staged. -/
theorem exists_stageKey (hfault : ∀ n op, env.fault n op = none) (name : Text)
    {entry : KeyStoreEntry} {role : KeyRole} {generated : RotateCommand (FixedBytes 32)}
    {action : Action}
    (hgenerated : ∀ w, ∃ key w', generated w = (.ok key, w'))
    (h : KeyAvailable X w entry.hash n role action) : ∃ key w',
      stageKey name (entry.load env (parsePrivateKey X role) role (some n)) generated
        (readPrivateKey env (parsePrivateKey X role)) action w = (.ok key, w') := by
  cases action with
  | keep =>
    obtain ⟨key, hkey⟩ := h
    obtain ⟨pem, hpem, hparse⟩ := storedKey_eq_some_iff.mp hkey
    exact ⟨key, _, Command.mapError_eq_ok_iff.mpr
      (KeyStoreEntry.load_some_eq_ok_iff.mpr ⟨hfault _ _, ⟨pem, hpem, hparse⟩, rfl⟩)⟩
  | generate => exact hgenerated w
  | «import» path =>
    obtain ⟨pem, key, hpem, hparse⟩ := h
    refine ⟨key, w.ticked, ?_⟩
    unfold stageKey readPrivateKey
    simp only [Command.mapError_eq_ok_iff, Command.bind_eq_ok_iff, Os.readToString_eq_ok_iff,
      Command.ofExcept_eq_ok_iff]
    exact ⟨pem, _, ⟨hfault _ _, hpem, rfl⟩, hparse, rfl⟩

theorem keeps_stageKey_data {entry : KeyStoreEntry} (role : KeyRole) {name : Text}
    {answer : ℕ → FixedBytes 32} {action : Action} :
    (stageKey name (entry.load env (parsePrivateKey X role) role (some n))
      (do let n ← Os.nextTick; return answer n) (readPrivateKey env (parsePrivateKey X role))
      action).Keeps World.data :=
  keeps_stageKey (keeps_load fun _ => rfl) (Os.keeps_ask fun _ => rfl)
    (fun _ => keeps_readPrivateKey fun _ => rfl) _

theorem KeyAvailable.congr_data {hash : Text} {role : KeyRole} {action : Action}
    (h : KeyAvailable X w hash n role action) (hdata : w'.data = w.data) :
    KeyAvailable X w' hash n role action := by
  obtain ⟨hfiles, hkeyStore, -⟩ := World.data_eq_iff.mp hdata
  exact h.congr hkeyStore hfiles

/-- Keys that are staged were available. -/
theorem available_of_stageKeys {entry : KeyStoreEntry} {plan : Plan} {staged : StagedKeys}
    (h : stageKeys X env entry n plan w = (.ok staged, w')) (role : KeyRole) :
    KeyAvailable X w entry.hash n role (plan.action role) := by
  simp only [stageKeys, Command.bind_eq_ok_iff, Command.pure_eq_ok_iff] at h
  obtain ⟨authorized, w₁, h₁, authentication, w₂, h₂, assertion, w₃, h₃, -, -⟩ := h
  have hw₁ : w.data = w₁.data := ((keeps_stageKey_data .authorized).eq h₁).symm
  have hw₂ : w₁.data = w₂.data := ((keeps_stageKey_data .authentication).eq h₂).symm
  cases role with
  | authorized => exact available_of_stageKey h₁
  | authentication => exact (available_of_stageKey h₂).congr_data hw₁
  | assertion => exact (available_of_stageKey h₃).congr_data (hw₁.trans hw₂)

/-- Without faults keys that are available are staged. -/
theorem exists_stageKeys (hfault : ∀ n op, env.fault n op = none) {entry : KeyStoreEntry}
    {plan : Plan} (h : ∀ role, KeyAvailable X w entry.hash n role (plan.action role)) :
    ∃ staged w', stageKeys X env entry n plan w = (.ok staged, w') := by
  have hgenerated (answer : ℕ → FixedBytes 32) (w : World) : ∃ key w',
      (do let n ← Os.nextTick; return answer n : RotateCommand (FixedBytes 32)) w = (.ok key, w') :=
    ⟨_, _, rfl⟩
  obtain ⟨authorized, w₁, h₁⟩ :=
    exists_stageKey hfault "authorized" (hgenerated env.freshEddsa) (h .authorized)
  have hw₁ : w₁.data = w.data := (keeps_stageKey_data .authorized).eq h₁
  obtain ⟨authentication, w₂, h₂⟩ := exists_stageKey hfault "authentication"
    (hgenerated env.freshEcdsa) ((h .authentication).congr_data hw₁)
  have hw₂ : w₂.data = w₁.data := (keeps_stageKey_data .authentication).eq h₂
  obtain ⟨assertion, w₃, h₃⟩ := exists_stageKey hfault "assertion"
    (hgenerated env.freshEcdsa) ((h .assertion).congr_data (hw₂.trans hw₁))
  refine ⟨⟨authorized, authentication, assertion⟩, w₃, ?_⟩
  simp only [stageKeys, Command.bind_eq_ok_iff, Command.pure_eq_ok_iff]
  exact ⟨_, _, h₁, _, _, h₂, _, _, h₃, rfl, rfl⟩

/-! ### The preparation -/

variable {args : RotateArgs} {loaded : LoadedLog} {w₁ : World}

/-- A rotation that is prepared, and has a file to be written to, needs nothing more. -/
theorem rotatable_of_prepare {prepared : Prepared}
    (hload : loadLog X.toCrates env args.did args.input w = (.ok loaded, w₁))
    (h : prepare X env args w = (.ok prepared, w'))
    (hout : ∀ path, args.out = some path → (w.files.get path).isSome → args.force = true) :
    Rotatable X w args loaded.log := by
  simp only [prepare, Command.bind_eq_ok_iff, Command.ofExcept_eq_ok_iff,
    Command.mapError_eq_ok_iff, Command.pure_eq_ok_iff, Except.mapError_eq_ok_iff] at h
  obtain ⟨plan, _, ⟨hplan, rfl⟩, _, _, ⟨htarget, rfl⟩, loaded', w₂, hloaded, last, _,
    ⟨hlast, rfl⟩, signer, w₃, hsigner, staged, w₄, hstaged, -⟩ := h
  obtain ⟨hloaded', hw₂⟩ := Prod.mk.inj (hload.symm.trans hloaded)
  obtain rfl := Except.ok.inj hloaded'
  subst hw₂
  have hw₁ : w₁.data = w.data := (keeps_loadLog fun _ => rfl).eq hload
  have hw₃ : w₃.data = w₁.data := (keeps_loadSigner fun _ => rfl).eq hsigner
  obtain ⟨hdid, hhash, havailable⟩ := loadSigner_eq_ok hsigner
  refine ⟨plan, last, signer.didStr, signer.did, signer.version, hplan, htarget, hlast, hdid,
    havailable.congr (World.data_eq_iff.mp hw₁.symm).2.1, fun role => ?_, hout⟩
  rw [← hhash]
  exact (available_of_stageKeys hstaged role).congr_data (hw₃.trans hw₁).symm

/-- Without faults a rotation that needs nothing more is prepared. -/
theorem exists_prepare (hfault : ∀ n op, env.fault n op = none)
    (hload : loadLog X.toCrates env args.did args.input w = (.ok loaded, w₁))
    (h : Rotatable X w args loaded.log) : ∃ prepared w' n,
      prepare X env args w = (.ok prepared, w') ∧
        (w.keyStore.get prepared.signer.entry.hash).bind EntryDir.latestNumber = some n := by
  obtain ⟨plan, last, didStr, did, n, hplan, htarget, hlast, hdid, hsigner, hkeys, -⟩ := h
  -- Every step reads only, so that the next one finds the keys where they were.
  have hw₁ : w₁.data = w.data := (keeps_loadLog fun _ => rfl).eq hload
  obtain ⟨signer, w₂, hsigned, rfl, rfl⟩ :=
    exists_loadSigner hfault hdid (hsigner.congr (World.data_eq_iff.mp hw₁).2.1)
  have hw₂ : w₂.data = w₁.data := (keeps_loadSigner fun _ => rfl).eq hsigned
  obtain ⟨-, hhash, -⟩ := loadSigner_eq_ok hsigned
  have hkeys₂ (role : KeyRole) :
      KeyAvailable X w₂ signer.entry.hash signer.version role (plan.action role) := by
    rw [hhash]
    exact (hkeys role).congr_data (hw₂.trans hw₁)
  obtain ⟨staged, w₃, hstaged⟩ := exists_stageKeys hfault hkeys₂
  have hprepare : ∃ prepared w', prepare X env args w = (.ok prepared, w') ∧
      prepared.signer = signer := by
    simp only [prepare, Command.bind_eq_ok_iff, Command.ofExcept_eq_ok_iff,
      Command.mapError_eq_ok_iff, Command.pure_eq_ok_iff, Except.mapError_eq_ok_iff]
    exact ⟨_, _, ⟨plan, _, ⟨hplan, rfl⟩, (), _, ⟨htarget, rfl⟩, loaded, _, hload, last, _,
      ⟨hlast, rfl⟩, signer, _, hsigned, staged, _, hstaged, _, _, rfl, rfl, rfl⟩, rfl⟩
  obtain ⟨prepared, w', hprepare, rfl⟩ := hprepare
  obtain ⟨⟨dir, -, hdir, -, -, hnumber⟩, -⟩ := hsigner
  refine ⟨prepared, w', prepared.signer.version, hprepare, ?_⟩
  rw [hhash, hdir, Option.bind_some, hnumber]

/-! ### The writes -/

/-- Without faults a call that adds a snapshot has made the next directory, whatever it ends in. -/
theorem latestNumber_addVersion (hfault : ∀ n op, env.fault n op = none) {entry : KeyStoreEntry}
    {staged : StagedKeys} {r : Except KeyStoreError ℕ}
    (hnumber : (w.keyStore.get entry.hash).bind EntryDir.latestNumber = some n) (hn : n < 9999)
    (h : entry.addVersion X env staged w = (r, w')) :
    (w'.keyStore.get entry.hash).bind EntryDir.latestNumber = some (n + 1) := by
  -- A call can only fail after the directory is there, when a key has no PEM text.
  have hinsert : ∃ (dir : EntryDir) (files : List (Text × Text)),
      dir.latestNumber = some n ∧ w'.keyStore =
        w.keyStore.insert entry.hash (dir.withFiles (snapshotName (n + 1)) files) := by
    cases r with
    | ok m =>
      obtain ⟨dir, m', tick, hdir, hlatest, rfl, hkeyStore, -⟩ :=
        KeyStoreEntry.addVersion_spec h
      rw [hdir, Option.bind_some, hlatest] at hnumber
      obtain rfl := Option.some.inj hnumber
      exact ⟨dir, _, hlatest, hkeyStore⟩
    | error e =>
      rcases KeyStoreEntry.triple_addVersion.2 e w' h with
        ⟨-, hread | hnone | hwrite⟩ | ⟨dir, m, -, -, hdir, hlatest, hkeyStore⟩
      · exact absurd (hfault _ _) hread
      · rw [hnumber] at hnone
        cases hnone
      · exact absurd (hfault _ _) hwrite
      · rw [hdir, Option.bind_some, hlatest] at hnumber
        obtain rfl := Option.some.inj hnumber
        exact ⟨dir, _, hlatest, hkeyStore⟩
  obtain ⟨dir, files, hlatest, hkeyStore⟩ := hinsert
  rw [hkeyStore, OrdMap.get_insert, if_pos rfl, Option.bind_some,
    EntryDir.latestNumber_withFiles hlatest, if_pos hn]

/-- Without faults a log is written, unless a file is in the way. -/
theorem exists_writeLog (hfault : ∀ n op, env.fault n op = none) (content : Text)
    (sourcePath : Option Text) {out : Option Text} {force : Bool}
    (hout : ∀ path, out = some path → (w.files.get path).isSome → force = true) :
    ∃ writtenTo w', writeLog env content sourcePath out force w = (.ok writtenTo, w') := by
  have hwrite (op : Operation) (effect : World → World) (broken : Text → World → World)
      (w : World) : Os.writing env op effect broken w = (.ok (), effect w.ticked) :=
    Os.writing_eq_ok_iff.mpr ⟨hfault _ _, rfl⟩
  cases out with
  | some path =>
    -- A file that is in the way may be overwritten.
    have hfree : ¬ ((w.files.get path).isSome = true ∧ force = false) := by
      rintro ⟨hpresent, hforce⟩
      rw [hout path rfl hpresent] at hforce
      cases hforce
    refine ⟨some path, Os.putFile path content w.ticked, ?_⟩
    simp only [writeLog, Command.bind_eq_ok_iff, Os.pathExists, Command.read_eq_ok_iff]
    refine ⟨_, _, ⟨rfl, rfl⟩, ?_⟩
    rw [if_neg hfree]
    simp only [Command.bind_eq_ok_iff, Command.mapError_eq_ok_iff, Command.pure_eq_ok_iff]
    exact ⟨(), _, hwrite _ _ _ _, trivial, rfl⟩
  | none =>
    cases sourcePath with
    | none => exact ⟨none, w, rfl⟩
    | some source =>
      -- The log goes back to its file.
      have hatomic : ∃ w', writeAtomic env source content w = (.ok (), w') :=
        ⟨_, Command.bind_eq_ok_iff.mpr ⟨(), _, hwrite _ _ _ _, hwrite _ _ _ _⟩⟩
      obtain ⟨w', hatomic⟩ := hatomic
      refine ⟨some source, w', ?_⟩
      simp only [writeLog, Command.bind_eq_ok_iff, Command.mapError_eq_ok_iff,
        Command.pure_eq_ok_iff]
      exact ⟨(), w', hatomic, trivial, rfl⟩

/-- A file that is in the way is found before anything is written. -/
theorem writeLog_of_exists {content path : Text} {sourcePath : Option Text}
    (hpresent : (w.files.get path).isSome = true) :
    writeLog env content sourcePath (some path) false w = (.error (.fileExists path), w) := by
  have hread : (Os.pathExists path : WriteLogCommand Bool) w = (.ok true, w) :=
    Command.read_eq_ok_iff.mpr ⟨hpresent, rfl⟩
  unfold writeLog
  dsimp only
  rw [Command.bind_of_eq_ok hread]
  rfl

/-! ## The rotation -/

/-- A rotation that lacks something changes nothing. -/
theorem untouched_of_not_rotatable
    (hload : loadLog X.toCrates env args.did args.input w = (.ok loaded, w₁))
    (h : ¬ Rotatable X w args loaded.log) : Untouched (cmdRotate X env args) w := by
  -- An error before anything is written leaves the log and the keys alone.
  have hstop {e : RotateError} {w' : World} (hrun : cmdRotate X env args w = (.error e, w'))
      (hdata : w'.data = w.data) : Untouched (cmdRotate X env args) w := by
    obtain ⟨hfiles, hkeyStore, -⟩ := World.data_eq_iff.mp hdata
    unfold Untouched
    rw [hrun]
    exact ⟨⟨e, rfl⟩, hfiles, hkeyStore⟩
  rcases hprepare : prepare X env args w with ⟨e | prepared, w₂⟩
  · refine hstop (e := e) ?_ ((keeps_prepare fun _ => rfl).eq hprepare)
    simp only [cmdRotate, bind, hprepare]
  · have hw₂ : w₂.data = w.data := (keeps_prepare fun _ => rfl).eq hprepare
    by_cases hout : ∀ path, args.out = some path → (w.files.get path).isSome → args.force = true
    · exact absurd (rotatable_of_prepare hload hprepare hout) h
    · -- What is missing is the permission to overwrite a file.
      push Not at hout
      obtain ⟨path, hpath, hpresent, hforce⟩ := hout
      rw [← (World.data_eq_iff.mp hw₂).1] at hpresent
      have hsave : save X env args prepared w₂ =
          (.error (.update (.writeLog (.fileExists path))), w₂) := by
        unfold save Command.mapError
        rw [hpath, Bool.eq_false_iff.mpr hforce, writeLog_of_exists hpresent]
        rfl
      refine hstop (e := .update (.writeLog (.fileExists path))) ?_ hw₂
      rw [cmdRotate, Command.bind_of_eq_ok hprepare]
      simp only [bind, hsave]

/-- Without faults a rotation that lacks nothing adds a snapshot to the key store. -/
theorem not_untouched_of_rotatable (hfault : ∀ n op, env.fault n op = none)
    (hlimit : ∀ hash n, (w.keyStore.get hash).bind EntryDir.latestNumber = some n → n < 9999)
    (hload : loadLog X.toCrates env args.did args.input w = (.ok loaded, w₁))
    (h : Rotatable X w args loaded.log) : ¬ Untouched (cmdRotate X env args) w := by
  obtain ⟨prepared, w₂, n, hprepare, hnumber⟩ := exists_prepare hfault hload h
  have hout := h.overwrite
  obtain ⟨hfiles, hkeyStore, -⟩ :=
    World.data_eq_iff.mp ((keeps_prepare (f := World.data) fun _ => rfl).eq hprepare)
  rw [← hfiles] at hout
  obtain ⟨writtenTo, w₃, hsave⟩ := exists_writeLog hfault (prepared.updatedLog X)
    prepared.loaded.sourcePath hout
  have hw₃ : w₃.keyStore = w₂.keyStore := (keeps_writeLog (fun _ => rfl) fun _ _ => rfl).eq hsave
  rcases hcommit : prepared.signer.entry.addVersion X env prepared.staged w₃ with ⟨r, w₄⟩
  -- Even if a key cannot be written, the directory of the next number is there.
  have hnext : (w₄.keyStore.get prepared.signer.entry.hash).bind EntryDir.latestNumber =
      some (n + 1) := by
    refine latestNumber_addVersion hfault ?_ (hlimit _ _ hnumber) hcommit
    rw [hw₃, hkeyStore, hnumber]
  -- What comes after the key store has got its snapshot does not take it back.
  have hend : (cmdRotate X env args w).2.keyStore = w₄.keyStore := by
    have hsaved : save X env args prepared w₂ = (.ok writtenTo, w₃) :=
      Command.mapError_eq_ok_iff.mpr hsave
    rw [cmdRotate, Command.bind_of_eq_ok hprepare, Command.bind_of_eq_ok hsaved]
    cases r with
    | error e => simp only [bind, commit, Command.mapError, hcommit, Except.mapError]
    | ok m =>
      have hcommitted : commit X env prepared w₃ = (.ok m, w₄) :=
        Command.mapError_eq_ok_iff.mpr hcommit
      rw [Command.bind_of_eq_ok hcommitted]
      have hpublish : (publish X env args prepared writtenTo).Keeps World.keyStore :=
        .mapError keeps_publishLog
      exact (hpublish.bind fun _ => .pure) w₄
  rintro ⟨_, _, hsame⟩
  rw [← hend, hsame, hnumber] at hnext
  exact Nat.succ_ne_self n (Option.some.inj hnext).symm

end Rotate

/-! ## Both commands -/

/-- A deactivation refuses a log whose last entry deactivates the DID. -/
theorem Deactivate.untouched_of_deactivated {args : UpdateArgs} {loaded : LoadedLog}
    {w₁ : World} {last : DIDLogEntry}
    (hload : loadLog X.toCrates env args.did args.input w = (.ok loaded, w₁))
    (hlast : loaded.log.entries.getLast? = some last)
    (hdeactivated : last.parameters.deactivated = some true) :
    Untouched (cmdDeactivate X env args) w := by
  rcases hprepare : prepare X env args w with ⟨e | prepared, w'⟩
  · have hdata : w'.data = w.data := (keeps_prepare fun _ => rfl).eq hprepare
    obtain ⟨hfiles, hkeyStore, -⟩ := World.data_eq_iff.mp hdata
    have hrun : cmdDeactivate X env args w = (.error e, w') := by
      simp only [cmdDeactivate, bind, hprepare]
    unfold Untouched
    rw [hrun]
    exact ⟨⟨e, rfl⟩, hfiles, hkeyStore⟩
  · exfalso
    simp only [prepare, Command.bind_eq_ok_iff, Command.ofExcept_eq_ok_iff,
      Command.mapError_eq_ok_iff, Except.mapError_eq_ok_iff] at hprepare
    obtain ⟨_, _, ⟨-, rfl⟩, loaded', w₂, hloaded, last', _, ⟨hlast', rfl⟩, document, _,
      ⟨hdocument, rfl⟩, -⟩ := hprepare
    obtain rfl := Except.ok.inj (congrArg Prod.fst (hload.symm.trans hloaded))
    obtain rfl := Option.some.inj (hlast.symm.trans (lastEntry_eq_ok_iff.mp hlast').1)
    exact (previousDocument_eq_ok_iff.mp hdocument).1 hdeactivated

/-- For a log whose last entry deactivates the DID: a deactivation fails and changes nothing. So
does a rotation that lacks something it needs, whatever fails; without faults, and as long as there
are snapshot numbers left, it does so only then. -/
theorem untouched_iff {args : RotateArgs} {loaded : LoadedLog} {w₁ : World} {last : DIDLogEntry}
    (hload : loadLog X.toCrates env args.did args.input w = (.ok loaded, w₁))
    (hlast : loaded.log.entries.getLast? = some last)
    (hdeactivated : last.parameters.deactivated = some true) :
    (¬ Rotate.Rotatable X w args loaded.log →
      Untouched (Rotate.cmdRotate X env args) w ∧
        Untouched (Deactivate.cmdDeactivate X env args.toUpdateArgs) w) ∧
    ((∀ n op, env.fault n op = none) →
      (∀ hash n, (w.keyStore.get hash).bind EntryDir.latestNumber = some n → n < 9999) →
      (Untouched (Rotate.cmdRotate X env args) w ∧
          Untouched (Deactivate.cmdDeactivate X env args.toUpdateArgs) w ↔
        ¬ Rotate.Rotatable X w args loaded.log)) := by
  have hdeactivate : Untouched (Deactivate.cmdDeactivate X env args.toUpdateArgs) w :=
    Deactivate.untouched_of_deactivated hload hlast hdeactivated
  have hrotate (h : ¬ Rotate.Rotatable X w args loaded.log) :=
    And.intro (Rotate.untouched_of_not_rotatable hload h) hdeactivate
  refine ⟨hrotate, fun hfault hlimit => ⟨fun ⟨hsame, _⟩ h => ?_, hrotate⟩⟩
  exact Rotate.not_untouched_of_rotatable hfault hlimit hload h hsame

/-! ## A sample rotation -/

namespace Sample

/-- The arguments of a rotation of the authentication key. -/
def revivalArgs : RotateArgs where
  input := some logPath
  noPublish := true
  rotate := [.authentication]

theorem loadLog_revivalArgs {w : World} (h : w.files.get logPath = some deactivatedText) :
    loadLog toolCrates.toCrates (toolEnv 0) revivalArgs.did revivalArgs.input w =
      (.ok ⟨collectRawLines deactivatedText, deactivatedLog, some logPath⟩, w.ticked) := by
  let args := { popArgs with input := some logPath }
  have hload : loadLog toolCrates.toCrates (toolEnv 0) args.did args.input w =
      (.ok ⟨collectRawLines deactivatedText, deactivatedLog, some logPath⟩, w.ticked) :=
    Pop.loadLog_file deactivatedLog_deactivatedText (fun _ _ => rfl) rfl rfl h
  exact hload

/-- Without a key store nothing is changed. -/
theorem untouched_deactivated :
    Untouched (Rotate.cmdRotate toolCrates (toolEnv 0) revivalArgs)
        { worldOf deactivatedText with keyStore := ∅ } ∧
      Untouched (Deactivate.cmdDeactivate toolCrates (toolEnv 0) revivalArgs.toUpdateArgs)
        { worldOf deactivatedText with keyStore := ∅ } := by
  have hload := loadLog_revivalArgs (w := { worldOf deactivatedText with keyStore := ∅ })
    files_worldOf
  refine ((untouched_iff hload rfl rfl).2 (fun _ _ => rfl) ?_).mpr ?_
  · intro hash n hnumber
    cases hnumber
  · rintro ⟨_, _, _, _, _, _, _, _, _, hsigner, _⟩
    obtain ⟨dir, _, hdir, _⟩ := hsigner.entry
    cases hdir

/-- The keys of the DID are in the key store: it gets new ones, and its log another entry. -/
theorem not_untouched_deactivated : ¬ ∀ (env : Env) (args : RotateArgs) (w w₁ : World)
    (loaded : LoadedLog) (did : DID) (last : DIDLogEntry),
    loadLog toolCrates.toCrates env args.did args.input w = (.ok loaded, w₁) →
    verifyLog toolCrates.toCrates loaded.log did = .ok () →
    loaded.log.entries.getLast? = some last → last.parameters.deactivated = some true →
      Untouched (Rotate.cmdRotate toolCrates env args) w ∧
        Untouched (Deactivate.cmdDeactivate toolCrates env args.toUpdateArgs) w := by
  intro h
  have hload := loadLog_revivalArgs (w := worldOf deactivatedText) files_worldOf
  have hstored := stored_worldOf deactivatedText
  obtain ⟨dir, stored, hdir, htxt, htrim, hnumber⟩ := hstored.entry
  have hdid : logDid deactivatedLog = .ok (toolDid.toText, toolDid) := by decide +kernel
  -- Nothing is missing for a rotation of the authentication key.
  have hrotatable : Rotate.Rotatable toolCrates (worldOf deactivatedText) revivalArgs
      deactivatedLog := by
    refine ⟨{ authentication := .generate }, deactivatedEntry, _, _, 1, rfl, rfl, rfl, hdid,
      ⟨⟨dir, stored, hdir, htxt, htrim, hnumber⟩, _, hstored.key .authorized⟩, fun role => ?_, ?_⟩
    · cases role with
      | authorized => exact ⟨_, hstored.key .authorized⟩
      | authentication => trivial
      | assertion => exact ⟨_, hstored.key .assertion⟩
    · intro path hpath
      cases hpath
  refine Rotate.not_untouched_of_rotatable (fun _ _ => rfl) ?_ hload hrotatable
    (h _ _ _ _ _ toolDid deactivatedEntry hload deactivatedLog_deactivatedText.accepted rfl rfl).1
  intro hash n hlatest
  -- There is one directory in the key store, with one snapshot.
  by_cases hhash : hash = didToHash toolCrates toolDid.toText
  · rw [hhash, hdir, Option.bind_some, hnumber] at hlatest
    rw [← Option.some.inj hlatest]
    decide
  · have hnone : (worldOf deactivatedText).keyStore.get hash = none := by
      simp [worldOf, OrdMap.ofList, OrdMap.get_insert, hhash]
    rw [hnone] at hlatest
    cases hlatest

end Sample

end Swiyu
