import Swiyu.Didtool.Cmd.Did.Life

/-!
# Progress in the life of a DID

Nothing that the earlier steps of a life have left keeps the next one from being taken: as long as
nothing fails, whether a rotation or a deactivation in place succeeds depends on its arguments, on
the key files that they name and on the path of the DID only.

## Main definitions

- `Swiyu.Reliable`: nothing fails.
- `Swiyu.Publishable`: what an upload needs.
- `Swiyu.Rotate.Permitted`, `Swiyu.Deactivate.Permitted`: what the two commands need.

## Main results

- `Swiyu.Rotate.planRotation_eq_ok_iff`: what is planned of each key.
- `Swiyu.Rotate.exists_run_iff`: when a run goes on.
- `Swiyu.Deactivate.exists_ended_iff`: when a run ends.
-/

namespace Swiyu

variable {X : ToolCrates} {env : Env} {w w' : World} {did : DID} {n : ℕ} {role : KeyRole}
  {key : FixedBytes 32} {path : Text} {history : List StagedKeys}

/-! ## Keys that can be written -/

/-- There is a PEM for the key of a role, and one for its public key. -/
def Encodable (X : ToolCrates) (key : FixedBytes 32) : KeyRole → Prop
  | .authorized => (∃ pem, X.eddsaPrivateToPem key = .ok pem) ∧
      ∃ pem, X.eddsaPublicToPem (X.ed25519VerifyingKey key) = .ok pem
  | .authentication | .assertion => (∃ pem, X.ecdsaPrivateToPem key = .ok pem) ∧
      ∃ pem, X.ecdsaPublicToPem (X.p256VerifyingKey key) = .ok pem

/-- The key that is generated for a role at a tick. -/
def freshKey (env : Env) (tick : ℕ) : KeyRole → FixedBytes 32
  | .authorized => env.freshEddsa tick
  | .authentication | .assertion => env.freshEcdsa tick

/-- Nothing fails: no operation and no upload, and keys that are generated or have been read from a
PEM can be written. -/
structure Reliable (X : ToolCrates) (env : Env) : Prop where
  fault (tick : ℕ) (op : Operation) : env.fault tick op = none
  publish (tick : ℕ) (p : Publication) : env.publish tick p = .accepted
  fresh (tick : ℕ) (role : KeyRole) : Encodable X (freshKey env tick role) role
  read {role : KeyRole} {pem : Text} {key : FixedBytes 32} :
    parsePrivateKey X role pem = .ok key → Encodable X key role

/-- The files of keys that can be written. -/
theorem exists_pem_of_encodable {staged : StagedKeys}
    (h : ∀ role, Encodable X (staged.key role) role) :
    ∀ file ∈ staged.keyFiles X, ∃ pem, file.pem = .ok pem := by
  obtain ⟨hauthorizedPrivate, hauthorizedPublic⟩ := h .authorized
  obtain ⟨hauthenticationPrivate, hauthenticationPublic⟩ := h .authentication
  obtain ⟨hassertionPrivate, hassertionPublic⟩ := h .assertion
  simp only [StagedKeys.keyFiles, List.forall_mem_cons, List.not_mem_nil, false_imp_iff,
    implies_true, and_true]
  exact ⟨hauthorizedPrivate, hauthorizedPublic, hauthenticationPrivate, hauthenticationPublic,
    hassertionPrivate, hassertionPublic⟩

/-- A snapshot of such keys is added to an entry that has one. -/
theorem KeyStoreEntry.exists_addVersion (henv : Reliable X env) {entry : KeyStoreEntry}
    {staged : StagedKeys}
    (hnumber : (w.keyStore.get entry.hash).bind EntryDir.latestNumber = some n)
    (hkeys : ∀ role, Encodable X (staged.key role) role) :
    ∃ w', entry.addVersion X env staged w = (.ok (n + 1), w') := by
  have hlatest : entry.latestVersion env w = (.ok n, w.ticked) :=
    latestVersion_eq_ok_iff.mpr ⟨henv.fault _ _, hnumber, rfl⟩
  have hwrites : ∃ w', writeKeys X env entry.hash (snapshotName (n + 1)) staged w.ticked =
      (.ok (), w') :=
    exists_writeKeys_iff.mpr ⟨exists_pem_of_encodable hkeys, fun _ _ => henv.fault _ _⟩
  obtain ⟨w', hwrite⟩ := hwrites
  refine ⟨w', ?_⟩
  unfold addVersion
  rw [Command.bind_of_eq_ok hlatest, Command.bind_of_eq_ok hwrite]
  rfl

/-! ## The upload -/

/-- The credentials are given, and the DID has an identifier in the registry. -/
def Publishable (args : UpdateArgs) (did : DID) : Prop :=
  args.noPublish = false →
    args.partnerId.isSome ∧ args.registryUrl.isSome ∧ (extractRegistryIdentifier did).isSome

/-- When the registry accepts uploads, only what an upload needs may be missing. -/
theorem exists_publishLog_iff (hpublish : ∀ tick p, env.publish tick p = .accepted)
    {args : UpdateArgs} {didStr updatedLog : Text} {writtenTo : Option Text} :
    (∃ w', publishLog env args didStr did updatedLog writtenTo w = (.ok (), w')) ↔
      Publishable args did := by
  have haccepted (p : Publication) (w : World) :
      Os.publish env p w = (.ok (), Os.putPublication p w.ticked) := by
    simp only [Os.publish, Command.bind_eq_ok_iff, Os.nextTick_eq_ok_iff]
    refine ⟨_, _, ⟨rfl, rfl⟩, ?_⟩
    rw [hpublish]
    rfl
  -- The upload succeeds, whatever would be reported of a failure.
  have hupload (p : Publication) (report : Text → UpdateCommand Unit) (w : World) :
      (Os.publish env p).orElse report w = (.ok (), Os.putPublication p w.ticked) := by
    unfold Command.orElse
    rw [haccepted]
  unfold publishLog Publishable
  by_cases hno : args.noPublish = true
  · rw [if_pos hno, hno]
    exact iff_of_true ⟨w, rfl⟩ fun h => absurd h (by decide)
  · rw [if_neg hno, Bool.eq_false_iff.mpr hno]
    simp only [Command.bind_eq_ok_iff, Command.ofExcept_eq_ok_iff, Except.mapError_eq_ok_iff,
      requireRegistryCredentials, Except.bind_eq_ok_iff, Option.okOr_eq_ok_iff, hupload,
      Option.isSome_iff_exists, forall_const]
    constructor
    · rintro ⟨_, ⟨_, _⟩, _, ⟨⟨partnerId, hpartner, url, hurl, -⟩, -⟩, identifier, _, ⟨hid, -⟩, -⟩
      exact ⟨⟨partnerId, hpartner⟩, ⟨url, hurl⟩, identifier, hid⟩
    · rintro ⟨⟨partnerId, hpartner⟩, ⟨url, hurl⟩, identifier, hid⟩
      exact ⟨_, (partnerId, url), w, ⟨⟨partnerId, hpartner, url, hurl, rfl⟩, rfl⟩, identifier, w,
        ⟨hid, rfl⟩, rfl⟩

/-! ## The log -/

/-- No entry of a history deactivates the DID. -/
theorem KeyHistory.active {entries : List DIDLogEntry} (h : KeyHistory X did entries history) :
    ∀ e ∈ entries, e.parameters.deactivated ≠ some true := by
  intro e he
  obtain ⟨i, hi, hget⟩ := List.getElem_of_mem he
  have hi' : i < history.length := h.length ▸ hi
  have hentry : entries[i]? = some e := (List.getElem?_eq_getElem hi).trans (congrArg some hget)
  obtain ⟨-, -, hactive⟩ := h.entry hentry (List.getElem?_eq_getElem hi')
  exact hactive

/-- The last entry of a log that is accepted is in the format that can be continued. -/
theorem lastEntry_of_verifyLog {log : DIDLog} (h : verifyLog X.toCrates log did = .ok ()) :
    ∃ last, lastEntry log = .ok last := by
  obtain ⟨scid, -, hauth⟩ := verifyLog_eq_ok_iff_authentic.mp h
  have hlast := List.getLast?_eq_some_getLast hauth.nonempty
  exact ⟨_, lastEntry_eq_ok_iff.mpr
    ⟨hlast, hauth.format _ (List.getLast_mem hauth.nonempty)⟩⟩

/-- The log in the file is loaded. -/
theorem exists_loadLog_of_inPlace {args : UpdateArgs} (hargs : InPlace path args)
    (hfault : ∀ tick op, env.fault tick op = none) {text : Text} {log : DIDLog}
    (hfile : w.files.get path = some text) (hread : DIDLog.tryFromJsonl X.toCrates text = .ok log)
    (hdid : DID.fromStr did.toText = .ok did) (haccepted : verifyLog X.toCrates log did = .ok ()) :
    loadLog X.toCrates env args.did args.input w =
      (.ok ⟨collectRawLines text, log, some path⟩, w.ticked) := by
  refine loadLog_eq_ok_iff.mpr ⟨by simp [hargs.did], text, none, ?_, hread,
    verifyLoadedLog_of_verifyLog haccepted hdid (by simp), rfl⟩
  rw [hargs.did]
  refine readLog_input_eq_ok_iff.mpr ⟨hfault _ _, ?_, ?_, rfl, rfl⟩
  · rwa [hargs.input]
  · rw [hargs.input]

/-- A file is in place already, so that it takes leave to write it as `--out`. -/
theorem InPlace.overwrite_iff {args : UpdateArgs} (hargs : InPlace path args)
    (hfile : (w.files.get path).isSome) :
    (∀ out, args.out = some out → (w.files.get out).isSome → args.force = true) ↔
      (args.out.isSome → args.force = true) := by
  rcases hargs.out with hout | hout
  · rw [hout]
    simp
  · rw [hout]
    simp only [Option.some.injEq, forall_eq', hfile, Option.isSome_some, forall_const]

/-- A log is written only with leave to overwrite what is there. -/
theorem overwrite_of_writeLog {content : Text} {source out : Option Text} {force : Bool}
    {written : Option Text} (h : writeLog env content source out force w = (.ok written, w')) :
    ∀ path, out = some path → (w.files.get path).isSome → force = true := by
  rintro path rfl hpresent
  by_contra hforce
  rw [Bool.eq_false_iff.mpr hforce, Rotate.writeLog_of_exists hpresent] at h
  cases h

namespace Rotate

/-! ## The plan -/

/-- The value of `--role` that names a role. -/
def rotateRole : KeyRole → RotateRole
  | .authorized => .authorized
  | .authentication => .authentication
  | .assertion => .assertion

/-- The key of a role is to be generated. -/
abbrev Marks (args : RotateArgs) (role : KeyRole) : Prop :=
  rotateRole role ∈ args.rotate ∨ .all ∈ args.rotate

/-- The file that the key of a role is to be imported from. -/
def keyPath (args : RotateArgs) : KeyRole → Option Text
  | .authorized => args.authorizedKey
  | .authentication => args.authenticationKey
  | .assertion => args.assertionKey

/-- What the arguments say is to become of a key. -/
def intended (args : RotateArgs) (role : KeyRole) : Action :=
  ((keyPath args role).map .import).getD (if Marks args role then .generate else .keep)

theorem intended_eq_keep_iff {args : RotateArgs} :
    intended args role = .keep ↔ ¬ Marks args role ∧ keyPath args role = none := by
  unfold intended
  cases keyPath args role with
  | none => simp
  | some path => simp

theorem action_mark (plan : Plan) (first : RotateRole) (role : KeyRole) :
    (plan.mark first).action role =
      if first = rotateRole role ∨ first = .all then .generate else plan.action role := by
  cases first <;> cases role <;> rfl

/-- The roles that are named are marked, and the others are as before. -/
theorem action_foldl_mark (roles : List RotateRole) (plan : Plan) (role : KeyRole) :
    (roles.foldl Plan.mark plan).action role =
      if rotateRole role ∈ roles ∨ .all ∈ roles then .generate else plan.action role := by
  induction roles generalizing plan with
  | nil => simp
  | cons first roles ih =>
    rw [List.foldl_cons, ih, action_mark]
    have hcons : (rotateRole role ∈ first :: roles ∨ .all ∈ first :: roles) ↔
        (rotateRole role ∈ roles ∨ .all ∈ roles) ∨ first = rotateRole role ∨ first = .all := by
      rw [List.mem_cons, List.mem_cons, eq_comm, eq_comm (a := RotateRole.all)]
      tauto
    simp only [hcons]
    split_ifs <;> tauto

theorem planImport_eq_ok_iff {name : Text} {action result : Action} {path : Option Text} :
    planImport name action path = .ok result ↔
      (path.isSome → action ≠ .generate) ∧ result = (path.map .import).getD action := by
  cases path with
  | none => simp [planImport, eq_comm]
  | some p =>
    unfold planImport
    dsimp only
    split_ifs with haction
    · simp [haction]
    · simp [haction, eq_comm]

/-- A plan is what becomes of the keys. -/
theorem Plan.ext_action {plan plan' : Plan} (h : ∀ role, plan.action role = plan'.action role) :
    plan = plan' := by
  obtain ⟨authorized, authentication, assertion⟩ := plan
  obtain rfl : authorized = plan'.authorized := h .authorized
  obtain rfl : authentication = plan'.authentication := h .authentication
  obtain rfl : assertion = plan'.assertion := h .assertion
  rfl

/-- The plan that the arguments ask for. -/
def intendedPlan (args : RotateArgs) : Plan :=
  ⟨intended args .authorized, intended args .authentication, intended args .assertion⟩

theorem action_intendedPlan (args : RotateArgs) (role : KeyRole) :
    (intendedPlan args).action role = intended args role := by
  cases role <;> rfl

/-- Something changes when a key is named. -/
theorem intendedPlan_ne_iff {args : RotateArgs} :
    intendedPlan args ≠ {} ↔ ∃ role, Marks args role ∨ (keyPath args role).isSome := by
  have hkeep (role : KeyRole) : ({} : Plan).action role = .keep := by cases role <;> rfl
  have hnamed (role : KeyRole) :
      Marks args role ∨ (keyPath args role).isSome ↔ intended args role ≠ .keep := by
    rw [Ne, intended_eq_keep_iff, not_and_or, not_not, Option.isSome_iff_ne_none]
  simp only [hnamed]
  constructor
  · intro hne
    by_contra hall
    push Not at hall
    refine hne (Plan.ext_action fun role => ?_)
    rw [action_intendedPlan, hall, hkeep]
  · rintro ⟨role, hrole⟩ heq
    rw [← action_intendedPlan, heq] at hrole
    exact hrole (hkeep role)

/-- The arguments make a plan when a key is named for some role, and no role has two. It is the plan
that they ask for. -/
theorem planRotation_eq_ok_iff {args : RotateArgs} {plan : Plan} :
    planRotation args = .ok plan ↔ plan = intendedPlan args ∧
      (∀ role, Marks args role → keyPath args role = none) ∧
        ∃ role, Marks args role ∨ (keyPath args role).isSome := by
  -- The roles are marked first, and the keys that are imported are put over them.
  have hmarked (role : KeyRole) : (args.rotate.foldl Plan.mark {}).action role =
      if Marks args role then .generate else .keep := by
    rw [action_foldl_mark]
    cases role <;> rfl
  -- A key that is imported must not be marked.
  have hconflict (role : KeyRole) : ((keyPath args role).isSome → (args.rotate.foldl Plan.mark
      {}).action role ≠ .generate) ↔ (Marks args role → keyPath args role = none) := by
    rw [hmarked, ← not_imp_not, not_not, Option.not_isSome_iff_eq_none]
    by_cases hmark : Marks args role
    · simp [hmark]
    · simp [hmark]
  have himport (role : KeyRole) : ((keyPath args role).map Action.import).getD
      ((args.rotate.foldl Plan.mark {}).action role) = intended args role := by
    rw [hmarked]
    rfl
  have hplan : ({ authorized := _, authentication := _, assertion := _ } : Plan) =
      intendedPlan args :=
    congr (congr (congrArg Plan.mk (himport .authorized)) (himport .authentication))
      (himport .assertion)
  -- One check for each role, and one that the plan is not empty.
  simp only [planRotation, Except.bind_eq_ok_iff, planImport_eq_ok_iff, Except.ensure_eq_ok_iff]
  rw [← intendedPlan_ne_iff]
  constructor
  · rintro ⟨_, ⟨h₁, rfl⟩, _, ⟨h₂, rfl⟩, _, ⟨h₃, rfl⟩, _, hne, heq⟩
    obtain rfl := Except.ok.inj heq
    refine ⟨hplan, fun role => ?_, hplan ▸ hne⟩
    cases role with
    | authorized => exact (hconflict .authorized).mp h₁
    | authentication => exact (hconflict .authentication).mp h₂
    | assertion => exact (hconflict .assertion).mp h₃
  · rintro ⟨rfl, hmarks, hne⟩
    exact ⟨_, ⟨(hconflict .authorized).mpr (hmarks _), rfl⟩, _,
      ⟨(hconflict .authentication).mpr (hmarks _), rfl⟩, _,
      ⟨(hconflict .assertion).mpr (hmarks _), rfl⟩, (), hplan ▸ hne, congrArg Except.ok hplan⟩

/-! ## The keys -/

/-- A key that is staged can be written. -/
theorem encodable_of_stageKey (henv : Reliable X env) {entry : KeyStoreEntry} {name : Text}
    {answer : ℕ → FixedBytes 32} (hfresh : ∀ tick, Encodable X (answer tick) role) {action : Action}
    (h : stageKey name (entry.load env (parsePrivateKey X role) role (some n))
      (do let n ← Os.nextTick; return answer n) (readPrivateKey env (parsePrivateKey X role))
      action w = (.ok key, w')) : Encodable X key role := by
  cases action with
  | keep =>
    obtain ⟨-, ⟨pem, -, hparse⟩, -⟩ :=
      KeyStoreEntry.load_some_eq_ok_iff.mp (Command.mapError_eq_ok_iff.mp h)
    exact henv.read hparse
  | generate =>
    simp only [stageKey, Command.bind_eq_ok_iff, Os.nextTick_eq_ok_iff,
      Command.pure_eq_ok_iff] at h
    obtain ⟨tick, _, -, rfl, -⟩ := h
    exact hfresh tick
  | «import» path =>
    unfold stageKey readPrivateKey at h
    simp only [Command.mapError_eq_ok_iff, Command.bind_eq_ok_iff, Command.ofExcept_eq_ok_iff] at h
    obtain ⟨pem, _, -, hparse, -⟩ := h
    exact henv.read hparse

theorem encodable_of_stageKeys (henv : Reliable X env) {entry : KeyStoreEntry} {plan : Plan}
    {staged : StagedKeys} (h : stageKeys X env entry n plan w = (.ok staged, w'))
    (role : KeyRole) : Encodable X (staged.key role) role := by
  simp only [stageKeys, Command.bind_eq_ok_iff, Command.pure_eq_ok_iff] at h
  obtain ⟨authorized, w₁, h₁, authentication, w₂, h₂, assertion, w₃, h₃, rfl, -⟩ := h
  cases role with
  | authorized => exact encodable_of_stageKey henv (fun tick => henv.fresh tick .authorized) h₁
  | authentication =>
    exact encodable_of_stageKey henv (fun tick => henv.fresh tick .authentication) h₂
  | assertion => exact encodable_of_stageKey henv (fun tick => henv.fresh tick .assertion) h₃

/-! ## The rotation -/

variable (X) in
/-- What a rotation in place needs: the arguments name some key, and none twice; the files that keys
are imported from hold keys; there is leave to overwrite the log when it is named as `--out`;
nothing that an upload needs is missing. -/
structure Permitted (args : RotateArgs) (did : DID) (w : World) : Prop where
  named : ∃ role, Marks args role ∨ (keyPath args role).isSome
  once (role : KeyRole) : Marks args role → keyPath args role = none
  imported {role : KeyRole} {path : Text} : keyPath args role = some path →
    ∃ pem key, w.files.get path = some pem ∧ parsePrivateKey X role pem = .ok key
  overwrite : args.out.isSome → args.force = true
  publishable : Publishable args.toUpdateArgs did

/-- The keys that the plan needs are those that are imported; the others are in the key store. -/
theorem keyAvailable_intended_iff {args : RotateArgs} {keys : StagedKeys}
    (hstored : Stored X w did n keys) :
    (∀ role, KeyAvailable X w (didToHash X did.toText) n role (intended args role)) ↔
      ∀ role path, keyPath args role = some path →
        ∃ pem key, w.files.get path = some pem ∧ parsePrivateKey X role pem = .ok key := by
  refine forall_congr' fun role => ?_
  unfold intended
  cases keyPath args role with
  | some path => simp [KeyAvailable]
  | none =>
    refine iff_of_true ?_ nofun
    rw [Option.map_none, Option.getD_none]
    split_ifs
    · trivial
    · exact ⟨_, hstored.key role⟩

/-- What is missing in place. -/
theorem rotatable_iff {args : RotateArgs} {text : Text} {log : DIDLog} {keys : StagedKeys}
    (hargs : InPlace path args.toUpdateArgs) (hfile : w.files.get path = some text)
    (h : InStep X w did log keys) : Rotatable X w args log ↔
      (∃ role, Marks args role ∨ (keyPath args role).isSome) ∧
      (∀ role, Marks args role → keyPath args role = none) ∧
      (∀ role path, keyPath args role = some path →
        ∃ pem key, w.files.get path = some pem ∧ parsePrivateKey X role pem = .ok key) ∧
      (args.out.isSome → args.force = true) := by
  have hpresent : (w.files.get path).isSome := Option.isSome_iff_exists.mpr ⟨text, hfile⟩
  obtain ⟨last, hlast⟩ := lastEntry_of_verifyLog h.accepted
  have htarget : checkTarget args.toUpdateArgs = .ok () :=
    Except.ensure_eq_ok_iff.mpr (by simp [hargs.did])
  unfold Rotatable
  rw [hargs.overwrite_iff hpresent, ← keyAvailable_intended_iff h.stored]
  constructor
  · rintro ⟨plan, _, _, did', m, hplan, -, -, hdid, hsigner, hkeys, hout⟩
    obtain ⟨rfl, honce, hnamed⟩ := planRotation_eq_ok_iff.mp hplan
    obtain ⟨-, rfl⟩ := Prod.mk.inj (Except.ok.inj (h.logDid_eq.symm.trans hdid))
    -- The snapshot that is read is the latest one.
    obtain ⟨dir, _, hdir, -, -, hnumber⟩ := h.stored.entry
    obtain ⟨⟨dir', _, hdir', -, -, hnumber'⟩, -⟩ := hsigner
    obtain rfl := Option.some.inj (hdir.symm.trans hdir')
    obtain rfl := Option.some.inj (hnumber.symm.trans hnumber')
    refine ⟨hnamed, honce, fun role => ?_, hout⟩
    rw [← action_intendedPlan]
    exact hkeys role
  · rintro ⟨hnamed, honce, hkeys, hout⟩
    refine ⟨_, last, _, did, _, planRotation_eq_ok_iff.mpr ⟨rfl, honce, hnamed⟩, htarget, hlast,
      h.logDid_eq, ⟨h.stored.entry, _, h.stored.key .authorized⟩, fun role => ?_, hout⟩
    rw [action_intendedPlan]
    exact hkeys role

/-- What is prepared is signed for the DID of the log, and its keys can be written. -/
theorem signer_of_prepare (henv : Reliable X env) {args : RotateArgs} {loaded : LoadedLog}
    {didStr : Text} {w₁ : World}
    (hload : loadLog X.toCrates env args.did args.input w = (.ok loaded, w₁))
    (hdid : logDid loaded.log = .ok (didStr, did)) {prepared : Prepared}
    (h : prepare X env args w = (.ok prepared, w')) :
    prepared.signer.did = did ∧ ∀ role, Encodable X (prepared.staged.key role) role := by
  simp only [prepare, Command.bind_eq_ok_iff, Command.ofExcept_eq_ok_iff,
    Command.mapError_eq_ok_iff, Command.pure_eq_ok_iff, Except.mapError_eq_ok_iff] at h
  obtain ⟨plan, _, ⟨-, rfl⟩, _, _, ⟨-, rfl⟩, loaded', w₂, hloaded, last, _, ⟨-, rfl⟩, signer, w₃,
    hsigner, staged, w₄, hstaged, time, w₅, -, rfl, -⟩ := h
  obtain rfl := Except.ok.inj (Prod.mk.inj (hload.symm.trans hloaded)).1
  obtain ⟨hdid', -, -⟩ := loadSigner_eq_ok hsigner
  obtain ⟨-, hsame⟩ := Prod.mk.inj (Except.ok.inj (hdid'.symm.trans hdid))
  exact ⟨hsame, encodable_of_stageKeys henv hstaged⟩

/-- With a history, a rotation in place needs nothing more. -/
theorem exists_cmdRotate_iff (henv : Reliable X env) {args : RotateArgs}
    (hargs : InPlace path args.toUpdateArgs) (h : Holds X path did history w) (hne : history ≠ [])
    (hn : history.length < 2 ^ 32) :
    (∃ report w', cmdRotate X env args w = (.ok report, w')) ↔ Permitted X args did w := by
  obtain ⟨text, log, hfile, hread, hstep, -⟩ := h.inStep (List.getLast?_eq_some_getLast hne) hn
  -- The log is loaded without failure, as it is accepted.
  have hload := exists_loadLog_of_inPlace (w := w) hargs henv.fault hfile hread hstep.fromStr
    hstep.accepted
  have hrotatable := rotatable_iff hargs hfile hstep
  constructor
  · -- Each step that has succeeded says that what it needs is there.
    rintro ⟨report, w', hrun⟩
    simp only [cmdRotate, save, publish, Command.bind_eq_ok_iff, Command.mapError_eq_ok_iff] at hrun
    obtain ⟨prepared, w₁, hprepare, written, w₂, hsave, number, w₃, -, _, w₄, hpublish, -⟩ := hrun
    have hout := overwrite_of_writeLog hsave
    rw [(keeps_prepare (f := World.files) fun _ => rfl).eq hprepare] at hout
    obtain ⟨hnamed, honce, himported, hout⟩ :=
      hrotatable.mp (rotatable_of_prepare hload hprepare hout)
    obtain ⟨hdid, -⟩ := signer_of_prepare henv hload hstep.logDid_eq hprepare
    exact ⟨hnamed, honce, himported _ _, hout,
      hdid ▸ (exists_publishLog_iff henv.publish).mp ⟨w₄, hpublish⟩⟩
  · -- With everything there, each step succeeds in the world that the one before has left.
    rintro ⟨hnamed, honce, himported, hout, hpublishable⟩
    have hneeds := hrotatable.mpr ⟨hnamed, honce, fun role path => himported, hout⟩
    obtain ⟨prepared, w₁, n, hprepare, hnumber⟩ := exists_prepare henv.fault hload hneeds
    obtain ⟨hdid, hkeys⟩ := signer_of_prepare henv hload hstep.logDid_eq hprepare
    obtain ⟨hfiles, hkeyStore, -⟩ :=
      World.data_eq_iff.mp ((keeps_prepare (f := World.data) fun _ => rfl).eq hprepare)
    obtain ⟨written, w₂, hsave⟩ := exists_writeLog henv.fault (prepared.updatedLog X)
      prepared.loaded.sourcePath (hfiles ▸ hneeds.overwrite)
    have hsaved : w₂.keyStore = w₁.keyStore :=
      (keeps_writeLog (fun _ => rfl) fun _ _ => rfl).eq hsave
    rw [← hkeyStore, ← hsaved] at hnumber
    obtain ⟨w₃, hcommit⟩ := KeyStoreEntry.exists_addVersion henv hnumber hkeys
    obtain ⟨w₄, hpublish⟩ :=
      (exists_publishLog_iff (w := w₃) henv.publish).mpr (hdid ▸ hpublishable)
    simp only [cmdRotate, save, commit, publish, Command.bind_eq_ok_iff, Command.mapError_eq_ok_iff]
    exact ⟨_, w₄, prepared, w₁, hprepare, written, w₂, hsave, n + 1, w₃, hcommit, (), w₄, hpublish,
      rfl⟩

end Rotate

namespace Deactivate

/-- What a deactivation in place needs: there is leave to overwrite the log when it is named as
`--out`, and nothing that an upload needs is missing. -/
structure Permitted (args : UpdateArgs) (did : DID) : Prop where
  overwrite : args.out.isSome → args.force = true
  publishable : Publishable args did

/-- What is prepared is signed for the DID of the log. -/
theorem signer_of_prepare {args : UpdateArgs} {loaded : LoadedLog} {didStr : Text} {w₁ : World}
    (hload : loadLog X.toCrates env args.did args.input w = (.ok loaded, w₁))
    (hdid : logDid loaded.log = .ok (didStr, did)) {prepared : Prepared}
    (h : prepare X env args w = (.ok prepared, w')) : prepared.signer.did = did := by
  simp only [prepare, Command.bind_eq_ok_iff, Command.ofExcept_eq_ok_iff,
    Command.mapError_eq_ok_iff, Command.pure_eq_ok_iff, Except.mapError_eq_ok_iff] at h
  obtain ⟨_, _, ⟨-, rfl⟩, loaded', w₂, hloaded, last, _, ⟨-, rfl⟩, document, _, ⟨-, rfl⟩, signer,
    w₃, hsigner, time, w₄, -, rfl, -⟩ := h
  obtain rfl := Except.ok.inj (Prod.mk.inj (hload.symm.trans hloaded)).1
  obtain ⟨hdid', -, -⟩ := Rotate.loadSigner_eq_ok hsigner
  exact (Prod.mk.inj (Except.ok.inj (hdid'.symm.trans hdid))).2

/-- A log that is in step, and not deactivated, lacks nothing that a deactivation needs. -/
theorem exists_prepare_of_inStep (henv : Reliable X env) {args : UpdateArgs} {loaded : LoadedLog}
    {keys : StagedKeys} {w₁ : World} (hargs : args.did = none)
    (hload : loadLog X.toCrates env args.did args.input w = (.ok loaded, w₁))
    (h : InStep X w did loaded.log keys)
    (hactive : ∀ e ∈ loaded.log.entries, e.parameters.deactivated ≠ some true) :
    ∃ prepared w', prepare X env args w = (.ok prepared, w') := by
  have htarget : checkTarget args = .ok () := Except.ensure_eq_ok_iff.mpr (by simp [hargs])
  obtain ⟨last, hlast⟩ := lastEntry_of_verifyLog h.accepted
  obtain ⟨e, _, he, -, hstate⟩ := h.last
  obtain rfl := Option.some.inj ((lastEntry_eq_ok_iff.mp hlast).1.symm.trans he)
  have hdocument := previousDocument_eq_ok_iff.mpr
    ⟨hactive _ (List.mem_of_getLast? he), hstate⟩
  have hw₁ : w₁.keyStore = w.keyStore := (keeps_loadLog fun _ => rfl).eq hload
  have hsigner : Rotate.SignerAvailable X w₁ did loaded.log.entries.length :=
    Rotate.SignerAvailable.congr ⟨h.stored.entry, _, h.stored.key .authorized⟩ hw₁
  obtain ⟨signer, w₂, hsigned, -⟩ := Rotate.exists_loadSigner henv.fault h.logDid_eq hsigner
  simp only [prepare, Command.bind_eq_ok_iff, Command.ofExcept_eq_ok_iff,
    Command.mapError_eq_ok_iff, Command.pure_eq_ok_iff, Except.mapError_eq_ok_iff]
  exact ⟨_, _, (), _, ⟨htarget, rfl⟩, loaded, _, hload, last, _, ⟨hlast, rfl⟩, _, _,
    ⟨hdocument, rfl⟩, signer, w₂, hsigned, _, _, rfl, rfl, rfl⟩

/-- With a history, a deactivation in place needs nothing more. -/
theorem exists_cmdDeactivate_iff (henv : Reliable X env) {args : UpdateArgs}
    (hargs : InPlace path args) (h : Holds X path did history w) (hne : history ≠ [])
    (hn : history.length < 2 ^ 32) :
    (∃ report w', cmdDeactivate X env args w = (.ok report, w')) ↔ Permitted args did := by
  obtain ⟨text, log, hfile, hread, hstep, hhistory⟩ :=
    h.inStep (List.getLast?_eq_some_getLast hne) hn
  have hload := exists_loadLog_of_inPlace (w := w) hargs henv.fault hfile hread hstep.fromStr
    hstep.accepted
  -- The log goes back to its own file, which is there.
  have hoverwrite := hargs.overwrite_iff (Option.isSome_iff_exists.mpr ⟨text, hfile⟩)
  constructor
  · rintro ⟨report, w', hrun⟩
    simp only [cmdDeactivate, Command.bind_eq_ok_iff, Command.mapError_eq_ok_iff] at hrun
    obtain ⟨prepared, w₁, hprepare, written, w₂, hsave, _, w₃, hpublish, -⟩ := hrun
    have hout := overwrite_of_writeLog hsave
    rw [(keeps_prepare (f := World.files) fun _ => rfl).eq hprepare] at hout
    have hdid := signer_of_prepare hload hstep.logDid_eq hprepare
    exact ⟨hoverwrite.mp hout, hdid ▸ (exists_publishLog_iff henv.publish).mp ⟨w₃, hpublish⟩⟩
  · rintro ⟨hout, hpublishable⟩
    obtain ⟨prepared, w₁, hprepare⟩ := exists_prepare_of_inStep henv hargs.did hload hstep
      hhistory.active
    have hdid := signer_of_prepare hload hstep.logDid_eq hprepare
    have hfiles : w₁.files = w.files := (keeps_prepare fun _ => rfl).eq hprepare
    obtain ⟨written, w₂, hsave⟩ := Rotate.exists_writeLog henv.fault (prepared.updatedLog X)
      prepared.loaded.sourcePath (hfiles ▸ hoverwrite.mpr hout)
    obtain ⟨w₃, hpublish⟩ :=
      (exists_publishLog_iff (w := w₂) henv.publish).mpr (hdid ▸ hpublishable)
    simp only [cmdDeactivate, Command.bind_eq_ok_iff, Command.mapError_eq_ok_iff]
    exact ⟨_, w₃, prepared, w₁, hprepare, written, w₂, hsave, (), w₃, hpublish, rfl⟩

end Deactivate

/-! ## Runs -/

/-- Wherever a run has got to, it goes on with every rotation that is permitted, and with no
other. -/
theorem Rotate.exists_run_iff (hX : X.Lawful) (henv : Reliable X env) (h : Run X path did n w)
    (hn : n ≤ 9999) {args : RotateArgs} (hargs : InPlace path args.toUpdateArgs) :
    (∃ report w', cmdRotate X env args w = (.ok report, w') ∧ Run X path did (n + 1) w') ↔
      Permitted X args did w := by
  obtain ⟨history, rfl, hne, hholds⟩ := exists_holds hX h hn
  rw [← exists_cmdRotate_iff henv hargs hholds hne (by omega)]
  refine exists_congr fun report => exists_congr fun w' => and_iff_left_of_imp fun hrun => ?_
  exact .rotated h hargs hrun

/-- Wherever a run has got to, it is ended by every deactivation that is permitted, and by no
other. -/
theorem Deactivate.exists_ended_iff (hX : X.Lawful) (henv : Reliable X env)
    (h : Run X path did n w) (hn : n ≤ 9999) {args : UpdateArgs} (hargs : InPlace path args) :
    (∃ report w' history, cmdDeactivate X env args w = (.ok report, w') ∧ history.length = n ∧
        Ended X path did history w') ↔ Permitted args did := by
  obtain ⟨history, rfl, hne, hholds⟩ := exists_holds hX h hn
  rw [← exists_cmdDeactivate_iff henv hargs hholds hne (by omega)]
  constructor
  · rintro ⟨report, w', _, hrun, -⟩
    exact ⟨report, w', hrun⟩
  · rintro ⟨report, w', hrun⟩
    exact ⟨report, w', history, hrun, rfl,
      ended_of_cmdDeactivate hX hargs hholds hne (by omega) hrun⟩

/-! ## The sample DID goes on -/

namespace Sample

/-- An environment in which the keys that are generated can be written. -/
def reliableEnv : Env :=
  { finalEnv with
    freshEddsa := fun _ => seed
    freshEcdsa := fun _ => assertionSecret }

/-- There is a text when an encoder is found to succeed. -/
theorem exists_ok_of_isSome {x : Except Text Text} (h : x.toOption.isSome) :
    ∃ pem, x = .ok pem := by
  obtain ⟨pem, hpem⟩ := Option.isSome_iff_exists.mp h
  exact ⟨pem, Except.toOption_eq_some_iff.mp hpem⟩

theorem encodable_seed : Encodable toolCrates seed .authorized :=
  ⟨exists_ok_of_isSome (by decide +kernel), exists_ok_of_isSome (by decide +kernel)⟩

/-- The sample P-256 keys can be written, and so can their public keys. -/
theorem encodable_of_mem {secret : FixedBytes 32} (h : secret ∈ p256Pems.map Prod.fst) :
    Encodable toolCrates secret .authentication ∧ Encodable toolCrates secret .assertion := by
  have hall : ∀ secret ∈ p256Pems.map Prod.fst,
      (toolCrates.ecdsaPrivateToPem secret).toOption.isSome ∧
        (toolCrates.ecdsaPublicToPem (toolCrates.p256VerifyingKey secret)).toOption.isSome := by
    decide +kernel
  obtain ⟨hprivate, hpublic⟩ := hall _ h
  have hencodable : Encodable toolCrates secret .authentication :=
    ⟨exists_ok_of_isSome hprivate, exists_ok_of_isSome hpublic⟩
  exact ⟨hencodable, hencodable⟩

/-- A P-256 key that is read is one of the sample keys. -/
theorem mem_of_parsePrivateKeyEcdsa {pem : Text} {secret : FixedBytes 32}
    (h : parsePrivateKeyEcdsa toolCrates pem = .ok secret) : secret ∈ p256Pems.map Prod.fst := by
  have hfound : ((p256Pems.find? fun p => p.2 = pem).map Prod.fst).okOr [] = .ok secret :=
    Except.mapError_eq_ok_iff.mp h
  obtain ⟨p, hp, rfl⟩ := Option.map_eq_some_iff.mp (Option.okOr_eq_ok_iff.mp hfound)
  exact List.mem_map_of_mem (List.mem_of_find?_eq_some hp)

theorem reliable_reliableEnv : Reliable toolCrates reliableEnv where
  fault _ _ := rfl
  publish _ _ := rfl
  fresh _ role := by
    have hfresh : assertionSecret ∈ p256Pems.map Prod.fst := by decide +kernel
    obtain ⟨hauthentication, hassertion⟩ := encodable_of_mem hfresh
    cases role with
    | authorized => exact encodable_seed
    | authentication => exact hauthentication
    | assertion => exact hassertion
  read {role pem secret} h := by
    cases role with
    | authorized =>
      have hread : (if pem = seedPem then Except.ok seed else .error ([] : Text)) = .ok secret :=
        Except.mapError_eq_ok_iff.mp h
      split_ifs at hread
      obtain rfl := Except.ok.inj hread
      exact encodable_seed
    | authentication => exact (encodable_of_mem (mem_of_parsePrivateKeyEcdsa h)).1
    | assertion => exact (encodable_of_mem (mem_of_parsePrivateKeyEcdsa h)).2

/-- The assertion key of the sample DID is rotated once more. -/
theorem run_rotated : ∃ report w',
    Rotate.cmdRotate toolCrates reliableEnv rotationArgs rotatedWorld = (.ok report, w') ∧
      Run toolCrates logPath toolDid 3 w' := by
  refine (Rotate.exists_run_iff lawful_toolCrates reliable_reliableEnv run_rotatedWorld (by decide)
    inPlace_rotationArgs).mpr ⟨⟨.assertion, .inl (.inl ?_)⟩, fun role _ => ?_, fun {role _} h => ?_,
      nofun, nofun⟩
  · exact List.mem_singleton.mpr rfl
  · cases role <;> rfl
  · cases role <;> cases h

/-- The sample DID is deactivated once its assertion key has been rotated. -/
theorem run_deactivated : ∃ report w' history,
    Deactivate.cmdDeactivate toolCrates reliableEnv rotationArgs.toUpdateArgs rotatedWorld =
      (.ok report, w') ∧ history.length = 2 ∧ Ended toolCrates logPath toolDid history w' :=
  (Deactivate.exists_ended_iff lawful_toolCrates reliable_reliableEnv run_rotatedWorld (by decide)
    inPlace_rotationArgs).mpr ⟨nofun, nofun⟩

end Sample

end Swiyu
