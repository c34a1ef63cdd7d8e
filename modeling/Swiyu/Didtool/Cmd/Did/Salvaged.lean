import Swiyu.Didtool.Cmd.Did.Steps
import Swiyu.Didtool.KeyStore.Left

/-!
# The updated log after a failed rotation

Once the key store has a new snapshot, the updated log must not be lost. It is in a file when the
log came from a file or goes to one. A log that was fetched is written to a pending file, but only
when an upload has failed: an upload that is not even tried leaves no trace of the new entry, nor
does a snapshot that is not completed.

## Main definitions

- `Swiyu.Rotate.Kept`: the updated log is in a file of the user or in a registry.
- `Swiyu.Rotate.Uploadable`: the upload is tried, and the log is stored by it or in a pending file.

## Main results

- `Swiyu.Rotate.kept_iff`: when a rotation that fails late keeps the updated log.
-/

namespace Swiyu

variable {X : ToolCrates} {env : Env} {w w' : World} {content : Text}

/-! ## Pending files -/

/-- A write to the file leaves all of `content` there, whether or not it is reported to fail. -/
def Env.Leaves (env : Env) (tick : ℕ) (path content : Text) : Prop :=
  env.left tick (.writeFile path) content = some content

/-- The lowest number of a pending file that does not exist. -/
def World.lowestFree (w : World) (numbers : List ℕ) : Option ℕ :=
  numbers.find? fun n => (w.files.get (pendingPath n)).isNone

/-- The text is in a file with one of the given names. -/
def World.HasFile (w : World) (names : Set Text) (content : Text) : Prop :=
  ∃ path ∈ names, w.files.get path = some content

theorem World.HasFile.congr {names : Set Text} (h : w'.files = w.files) :
    w'.HasFile names content ↔ w.HasFile names content := by
  unfold HasFile
  rw [h]

/-- A new file holds the content if the write has left it there. -/
theorem triple_write_new {names : Set Text} {path : Text} (hpath : path ∈ names)
    (hfree : w.files.get path = none) :
    (Os.write env path content).Triple w
      (fun _ w' => w'.published = w.published ∧ (w'.HasFile names content ↔
        w.HasFile names content ∨ env.Leaves w.tick path content))
      fun w' => w'.published = w.published ∧ (w'.HasFile names content ↔
        w.HasFile names content ∨ env.Leaves w.tick path content) := by
  -- Whatever is put there, the other files are the same.
  have hput (text : Text) : (Os.putFile path text w.ticked).HasFile names content ↔
      w.HasFile names content ∨ text = content := by
    unfold World.HasFile
    show (∃ other ∈ names, (w.files.insert path text).get other = some content) ↔ _
    constructor
    · rintro ⟨other, hother, hget⟩
      rw [OrdMap.get_insert] at hget
      split_ifs at hget with heq
      · exact .inr (Option.some.inj hget)
      · exact .inl ⟨other, hother, hget⟩
    · intro hcases
      rcases hcases with ⟨other, hother, hget⟩ | rfl
      · refine ⟨other, hother, ?_⟩
        rw [OrdMap.get_insert, if_neg, hget]
        rintro rfl
        rw [hfree] at hget
        cases hget
      · exact ⟨path, hpath, by rw [OrdMap.get_insert, if_pos rfl]⟩
  refine Os.triple_writing.mono ?_ ?_
  · rintro _ w' ⟨hw', hfault⟩
    have hleaves : env.Leaves w.tick path content := by
      rw [Env.Leaves, Env.left, hfault]
    rw [hw']
    exact ⟨rfl, (hput content).trans (or_congr_right (iff_of_true rfl hleaves))⟩
  · rintro w' ⟨f, hfault, hw'⟩
    have hleaves : env.Leaves w.tick path content ↔ f.leaves = some content := by
      rw [Env.Leaves, Env.left, hfault]
    rw [hw', hleaves]
    -- A fault may leave any text in the file, even the content.
    cases f.leaves with
    | none => exact ⟨rfl, by simp [World.HasFile]⟩
    | some text => exact ⟨rfl, (hput text).trans (by simp)⟩

/-- A pending file is written if there is a number left. -/
theorem triple_writePendingFrom {names : Set Text} {numbers : List ℕ}
    (hnames : ∀ n ∈ numbers, pendingPath n ∈ names) :
    (writePendingFrom env content numbers).Triple w
      (fun _ w' => w'.published = w.published ∧ (w'.HasFile names content ↔
        w.HasFile names content ∨
          ∃ n ∈ w.lowestFree numbers, env.Leaves w.tick (pendingPath n) content))
      fun w' => w'.published = w.published ∧ (w'.HasFile names content ↔
        w.HasFile names content ∨
          ∃ n ∈ w.lowestFree numbers, env.Leaves w.tick (pendingPath n) content) := by
  -- The numbers are tried one after the other; the first free one is written, and ends the search.
  induction numbers with
  | nil =>
    refine .fail ⟨rfl, ?_⟩
    simp [World.lowestFree]
  | cons n rest ih =>
    refine .bind (Q := fun present s => s = w ∧ present = (w.files.get (pendingPath n)).isSome)
      (.read ⟨rfl, rfl⟩) ?_
    rintro present s ⟨hs, hpresent⟩
    rw [hs]
    unfold World.lowestFree
    rw [List.find?_cons]
    cases hget : w.files.get (pendingPath n) with
    | some text =>
      rw [hget, Option.isSome_some] at hpresent
      rw [if_pos hpresent]
      exact ih fun m hm => hnames m (List.mem_cons_of_mem _ hm)
    | none =>
      rw [hget, Option.isSome_none] at hpresent
      rw [if_neg (by rw [hpresent]; exact Bool.false_ne_true)]
      have hwrite : (Os.write env (pendingPath n) content).Triple w _ _ :=
        triple_write_new (hnames n List.mem_cons_self) hget
      simp only [Option.isNone_none, Option.mem_some_iff, exists_eq_left']
      exact .bind (.mapError hwrite) fun _ _ h => .pure h

/-! ## The upload -/

theorem requireRegistryCredentials_eq_ok_iff {partnerId registryUrl : Option Text} {hint : Text}
    {c : Text × Text} : requireRegistryCredentials partnerId registryUrl hint = .ok c ↔
      partnerId = some c.1 ∧ registryUrl = some c.2 := by
  unfold requireRegistryCredentials
  simp only [Except.bind_eq_ok_iff, Option.okOr_eq_ok_iff]
  constructor
  · rintro ⟨p, hp, r, hr, h⟩
    rw [← Except.ok.inj h]
    exact ⟨hp, hr⟩
  · rintro ⟨hp, hr⟩
    exact ⟨_, hp, _, hr, rfl⟩

namespace Rotate

variable {args : RotateArgs} {prepared : Prepared}

/-- The files where the updated log may be found. -/
def logFiles (args : RotateArgs) : Set Text :=
  { path | args.out = some path ∨ sourceFile args.toUpdateArgs = some path ∨
    ∃ n, 1 ≤ n ∧ n ≤ MAX_PENDING_INDEX ∧ path = pendingPath n }

variable (X) in
/-- The updated log is in one of these files, or a registry has it. -/
def Kept (args : RotateArgs) (prepared : Prepared) (w : World) : Prop :=
  w.HasFile (logFiles args) (prepared.updatedLog X) ∨
    ∃ p ∈ w.published, p.body = Text.trimEnd (prepared.updatedLog X)

variable (X) in
/-- What is uploaded. -/
def publication (prepared : Prepared) (partnerId registryUrl identifier : Text) : Publication :=
  { registryUrl, partnerId, identifier, body := Text.trimEnd (prepared.updatedLog X) }

variable (X env) in
/-- The upload can be tried at a tick: both credentials are there, and the DID has an identifier.
The registry does not refuse it, or else there is a pending file that can be written. -/
def Uploadable (args : RotateArgs) (prepared : Prepared) (tick : ℕ) (w : World) : Prop :=
  ∃ partnerId registryUrl identifier, args.partnerId = some partnerId ∧
    args.registryUrl = some registryUrl ∧
    extractRegistryIdentifier prepared.signer.did = some identifier ∧
    ((∀ source, env.publish tick (publication X prepared partnerId registryUrl identifier) ≠
        .refused source) ∨
      ∃ n ∈ w.lowestFree (List.range' 1 MAX_PENDING_INDEX),
        env.Leaves (tick + 1) (pendingPath n) (prepared.updatedLog X))

theorem Uploadable.congr {tick : ℕ} (h : w'.files = w.files) :
    Uploadable X env args prepared tick w' ↔ Uploadable X env args prepared tick w := by
  unfold Uploadable World.lowestFree
  rw [h]

theorem Kept.congr (hfiles : w'.files = w.files) (hpublished : w'.published = w.published) :
    Kept X args prepared w' ↔ Kept X args prepared w := by
  unfold Kept
  rw [World.HasFile.congr hfiles, hpublished]

/-- A pending file keeps the log. -/
theorem triple_writePendingLog :
    (writePendingLog env (prepared.updatedLog X)).Triple w
      (fun _ w' => w'.published = w.published ∧ (Kept X args prepared w' ↔
        Kept X args prepared w ∨ ∃ n ∈ w.lowestFree (List.range' 1 MAX_PENDING_INDEX),
          env.Leaves w.tick (pendingPath n) (prepared.updatedLog X)))
      fun w' => w'.published = w.published ∧ (Kept X args prepared w' ↔
        Kept X args prepared w ∨ ∃ n ∈ w.lowestFree (List.range' 1 MAX_PENDING_INDEX),
          env.Leaves w.tick (pendingPath n) (prepared.updatedLog X)) := by
  have hnames : ∀ n ∈ List.range' 1 MAX_PENDING_INDEX, pendingPath n ∈ logFiles args := by
    intro n hn
    rw [List.mem_range'_1] at hn
    exact .inr (.inr ⟨n, hn.1, by omega, rfl⟩)
  -- A pending file is one of those that keep the log.
  have hkept {w' : World} (h : w'.published = w.published ∧
      (w'.HasFile (logFiles args) (prepared.updatedLog X) ↔
        w.HasFile (logFiles args) (prepared.updatedLog X) ∨
          ∃ n ∈ w.lowestFree (List.range' 1 MAX_PENDING_INDEX),
            env.Leaves w.tick (pendingPath n) (prepared.updatedLog X))) :
      w'.published = w.published ∧ (Kept X args prepared w' ↔
        Kept X args prepared w ∨ ∃ n ∈ w.lowestFree (List.range' 1 MAX_PENDING_INDEX),
          env.Leaves w.tick (pendingPath n) (prepared.updatedLog X)) := by
    refine ⟨h.1, ?_⟩
    unfold Kept
    rw [h.1, h.2, or_right_comm]
  exact (triple_writePendingFrom hnames).mono (fun _ _ => hkept) fun _ => hkept

variable (args) in
/-- After a failed upload the log is written to a pending file, if it can be. -/
theorem triple_reportUpload_none {source : Text} :
    (reportUpload env (prepared.updatedLog X) source none).Triple w (fun _ _ => False) fun w' =>
      (Kept X args prepared w' ↔ Kept X args prepared w ∨
        ∃ n ∈ w.lowestFree (List.range' 1 MAX_PENDING_INDEX),
          env.Leaves w.tick (pendingPath n) (prepared.updatedLog X)) :=
  .bind (.mapError (triple_writePendingLog.mono (fun _ _ h => h.2) fun _ h => h.2))
    fun _ _ h => .fail h

/-- An upload of a log that is in no file ends with the log kept when it can be tried and the log is
stored somewhere by it. -/
theorem triple_publish_none :
    (publish X env args prepared none).Triple w (fun _ _ => True) fun w' =>
      (Kept X args prepared w' ↔
        Kept X args prepared w ∨ Uploadable X env args prepared w.tick w) := by
  -- The upload needs both credentials and an identifier, in this order; without one of them it is
  -- not tried.
  refine .mapError (.ite (fun _ => .pure trivial) fun _ => ?_)
  refine .bind (Q := fun c s => s = w ∧ args.partnerId = some c.1 ∧ args.registryUrl = some c.2)
    (.ofExcept (fun c hc => ⟨rfl, ?_⟩) fun e he => ?_) ?_
  · exact requireRegistryCredentials_eq_ok_iff.mp (Except.mapError_eq_ok_iff.mp hc)
  · -- A credential is missing, and the upload is not tried.
    refine ⟨.inl, fun h => h.resolve_right ?_⟩
    rintro ⟨partnerId, registryUrl, _, hpartner, hregistry, _⟩
    have hcredentials : requireRegistryCredentials args.partnerId args.registryUrl
        " (or use --no-publish)" = .ok (partnerId, registryUrl) :=
      requireRegistryCredentials_eq_ok_iff.mpr ⟨hpartner, hregistry⟩
    rw [hcredentials] at he
    cases he
  · rintro ⟨partnerId, registryUrl⟩ s ⟨hs, hpartner, hregistry⟩
    rw [hs]
    refine .bind (Q := fun identifier s =>
      s = w ∧ extractRegistryIdentifier prepared.signer.did = some identifier)
      (.ofExcept (fun identifier h => ⟨rfl, Option.okOr_eq_ok_iff.mp h⟩) fun e he => ?_) ?_
    · -- There is no identifier, and the upload is not tried.
      refine ⟨.inl, fun h => h.resolve_right ?_⟩
      rintro ⟨_, _, identifier, _, _, hidentifier, _⟩
      rw [hidentifier] at he
      cases he
    · rintro identifier s ⟨hs, hidentifier⟩
      rw [hs]
      -- With all three of them, it is up to the registry and to the pending files.
      have huploadable : Uploadable X env args prepared w.tick w ↔
          ((∀ source, env.publish w.tick (publication X prepared partnerId registryUrl identifier) ≠
              .refused source) ∨
            ∃ n ∈ w.lowestFree (List.range' 1 MAX_PENDING_INDEX),
              env.Leaves (w.tick + 1) (pendingPath n) (prepared.updatedLog X)) := by
        unfold Uploadable
        rw [hpartner, hregistry, hidentifier]
        simp
      rw [huploadable]
      refine .orElse (Os.triple_publish.mono (fun _ _ _ => trivial) fun _ h => h) ?_
      intro source s hs
      refine (triple_reportUpload_none args).mono (fun _ _ _ => trivial) fun w' hkept => ?_
      rw [hkept]
      rcases hs with ⟨⟨source, hupload⟩, rfl⟩ | ⟨⟨source, hupload⟩, rfl⟩
      · -- The registry has the log, and says otherwise.
        refine iff_of_true
          (.inl (.inr ⟨_, List.mem_append_right _ (List.mem_singleton_self _), rfl⟩))
          (.inr (.inl fun source h => ?_))
        cases hupload.symm.trans h
      · -- The registry does not have it.
        have hrefused : ¬ ∀ source, env.publish w.tick
            (publication X prepared partnerId registryUrl identifier) ≠ .refused source :=
          fun h => h source hupload
        rw [or_iff_right hrefused]
        exact or_congr_left (Kept.congr rfl rfl)

/-! ## The rotation -/

/-- A log that is written to a file is in this file. -/
theorem get_of_writeLog {content path : Text} {sourcePath out : Option Text} {force : Bool}
    (h : writeLog env content sourcePath out force w = (.ok (some path), w')) :
    (out = some path ∨ out = none ∧ sourcePath = some path) ∧
      w'.files.get path = some content := by
  obtain ⟨-, hpath, -, hget, -⟩ := triple_writeLog.1 _ _ h
  refine ⟨?_, hget path rfl⟩
  cases out with
  | some target => exact .inl hpath.symm
  | none => exact .inr ⟨rfl, hpath.symm⟩

/-- An upload of a log that is in a file leaves the files as they are. -/
theorem keeps_publishLog_some {args : UpdateArgs} {didStr updatedLog path : Text} {did : DID} :
    (publishLog env args didStr did updatedLog (some path)).Keeps World.files := by
  refine .ite .pure (.bind .ofExcept fun _ => .bind .ofExcept fun _ => ?_)
  exact .orElse (Os.keeps_publish (fun _ => rfl) fun _ => rfl) fun _ => .fail

theorem keeps_publish_some {path : Text} :
    (publish X env args prepared (some path)).Keeps World.files :=
  .mapError keeps_publishLog_some

/-- A rotation that fails once the key store has changed keeps the updated log exactly when it was
there before, when the log comes from a file or goes to one, or when all keys are written, the
upload can be tried and the log is stored by it or in a pending file. -/
theorem kept_iff {e : RotateError} (hprepare : prepare X env args w = (.ok prepared, w₁))
    (hrun : cmdRotate X env args w = (.error e, w')) (hchanged : w'.keyStore ≠ w.keyStore) :
    Kept X args prepared w' ↔ Kept X args prepared w ∨ args.did = none ∨
      args.out.isSome = true ∨
      SnapshotWritten X env prepared.signer.entry.hash prepared.staged (writeTick args w) ∧
        Uploadable X env args prepared (writeTick args w + 8) w := by
  -- The preparation changes nothing but the tick.
  obtain ⟨htick, hsource⟩ := steps_prepare hprepare
  obtain ⟨hhash, havailable⟩ := signerAvailable_of_prepare hprepare
  obtain ⟨hfiles₁, hkeyStore₁, hpublished₁⟩ :=
    World.data_eq_iff.mp ((keeps_prepare (f := World.data) fun _ => rfl).eq hprepare)
  rcases cases_cmdRotate hprepare hrun with ⟨e', hsave⟩ | ⟨path, w₂, hsave, hadd⟩
  · -- The key store has not been reached.
    have hsame : w'.keyStore = w₁.keyStore :=
      Command.Keeps.eq (.mapError (keeps_writeLog (fun _ => rfl) fun _ _ => rfl)) hsave
    exact absurd (hsame.trans hkeyStore₁) hchanged
  obtain ⟨-, hpath, hlength, hget, hsame⟩ := triple_writeLog.mapError.1 _ _ hsave
  rw [hsource] at hpath
  cases path with
  | some path =>
    -- The log is in a file, where it stays.
    have hend : w'.files = w₂.files := by
      rcases hadd with ⟨e', hadd⟩ | ⟨n, w₃, uploaded, hadd, hpublish, -⟩
      · exact (keeps_addVersion (fun _ => rfl) fun _ _ => rfl).eq hadd
      · exact (keeps_publish_some.eq hpublish).trans
          ((keeps_addVersion (fun _ => rfl) fun _ _ => rfl).eq hadd)
    refine iff_of_true (.inl ⟨path, ?_, ?_⟩) (.inr ?_)
    · exact (Option.or_eq_some_iff.mp hpath.symm).imp_right fun h => .inl h.2
    · rw [hend, hget path rfl]
    · rcases Option.or_eq_some_iff.mp hpath.symm with hout | ⟨-, hsourceFile⟩
      · exact .inr (.inl (by rw [hout]; rfl))
      · exact .inl ((sourcePath_of_prepare hprepare).mp (by rw [hsource, hsourceFile]; rfl))
  | none =>
    -- The log is in memory only.
    obtain rfl := hsame rfl
    obtain ⟨hout, hsourceFile⟩ := Option.or_eq_none_iff.mp hpath.symm
    have hdid : args.did ≠ none := by
      intro hdid
      rw [← sourcePath_of_prepare hprepare, hsource, hsourceFile] at hdid
      cases hdid
    rw [hout, or_iff_right hdid, Option.isSome_none, or_iff_right Bool.false_ne_true]
    -- The snapshot can be added when its files can be written.
    have hnumber : (w₂.keyStore.get prepared.signer.entry.hash).bind EntryDir.latestNumber =
        some prepared.signer.version := by
      obtain ⟨dir, -, hdir, -, -, hnumber⟩ := havailable.entry
      rw [hkeyStore₁, hhash, hdir, Option.bind_some, hnumber]
    have hwritten : (∃ n w', prepared.signer.entry.addVersion X env prepared.staged w₂ =
        (.ok n, w')) ↔ SnapshotWritten X env prepared.signer.entry.hash prepared.staged w₂.tick :=
      KeyStoreEntry.exists_addVersion_iff hnumber
    rw [htick] at hwritten
    -- The keys go to the key store only.
    have hkept {r : Except KeyStoreError ℕ} {w₃ : World}
        (hadd : prepared.signer.entry.addVersion X env prepared.staged w₂ = (r, w₃)) :
        w₃.files = w.files ∧ (Kept X args prepared w₃ ↔ Kept X args prepared w) := by
      have hfiles : w₃.files = w₂.files :=
        (keeps_addVersion (fun _ => rfl) fun _ _ => rfl).eq hadd
      have hpublished : w₃.published = w₂.published :=
        (keeps_addVersion (fun _ => rfl) fun _ _ => rfl).eq hadd
      exact ⟨hfiles.trans hfiles₁,
        Kept.congr (hfiles.trans hfiles₁) (hpublished.trans hpublished₁)⟩
    rcases hadd with ⟨e', hadd⟩ | ⟨n, w₃, uploaded, hadd, hpublish, herror⟩
    · -- The snapshot is not complete, and nothing is uploaded.
      rw [(hkept hadd).2, or_iff_left]
      rintro ⟨hsnapshot, _⟩
      obtain ⟨n, w₃, hok⟩ := hwritten.mpr hsnapshot
      cases hadd.symm.trans hok
    · -- All keys are there, so it depends on the upload.
      have hend : Kept X args prepared w' ↔
          Kept X args prepared w₃ ∨ Uploadable X env args prepared w₃.tick w₃ := by
        refine triple_publish_none.2 e _ ?_
        rw [hpublish, herror e rfl]
      obtain ⟨hfiles, hkept⟩ := hkept hadd
      rw [hend, hkept, Uploadable.congr hfiles, KeyStoreEntry.tick_addVersion hadd, htick,
        and_iff_right (hwritten.mp ⟨n, w₃, hadd⟩)]

end Rotate

/-! ## A sample rotation -/

namespace Sample

/-- An environment in which the log of the sample DID is served. -/
def servedEnv : Env :=
  { rotationEnv with server := fun _ _ => .answered 200 (.text createdText) }

/-- The arguments of a rotation of a fetched log, without credentials. -/
def fetchedArgs : RotateArgs where
  did := some toolDid.toText
  rotate := [.authentication]

/-- The keys of the sample DID, and no files. -/
def keysOnly : World := { createdWorld with files := ∅ }

/-- The key store gets its new snapshot, and then the credentials are found to be missing. -/
theorem exists_fetched : ∃ prepared w₁ w' e,
    Rotate.prepare toolCrates servedEnv fetchedArgs keysOnly = (.ok prepared, w₁) ∧
      Rotate.cmdRotate toolCrates servedEnv fetchedArgs keysOnly = (.error e, w') ∧
      w'.keyStore ≠ keysOnly.keyStore ∧ w'.files = ∅ ∧ w'.published = [] := by
  have hrun : (Rotate.prepare toolCrates servedEnv fetchedArgs keysOnly).1.toOption.isSome ∧
      (Rotate.cmdRotate toolCrates servedEnv fetchedArgs keysOnly).1.toOption.isNone ∧
      (Rotate.cmdRotate toolCrates servedEnv fetchedArgs keysOnly).2.keyStore ≠
        keysOnly.keyStore ∧
      (Rotate.cmdRotate toolCrates servedEnv fetchedArgs keysOnly).2.files = ∅ ∧
      (Rotate.cmdRotate toolCrates servedEnv fetchedArgs keysOnly).2.published = [] := by
    decide +kernel
  obtain ⟨hprepared, herror, hend⟩ := hrun
  obtain ⟨prepared, hprepared⟩ := Option.isSome_iff_exists.mp hprepared
  have hprepare := Command.eq_ok_of_fst_eq (Except.toOption_eq_some_iff.mp hprepared)
  rcases hrun : Rotate.cmdRotate toolCrates servedEnv fetchedArgs keysOnly with ⟨e | report, w'⟩
  · rw [hrun] at hend
    exact ⟨prepared, _, w', e, hprepare, rfl, hend⟩
  · rw [hrun] at herror
    cases herror

/-- A log is lost that is in no file and in no registry. -/
theorem not_kept_of_empty {prepared : Rotate.Prepared} {w : World} (hfiles : w.files = ∅)
    (hpublished : w.published = []) : ¬ Rotate.Kept toolCrates fetchedArgs prepared w := by
  intro h
  rcases h with ⟨_, _, hget⟩ | ⟨_, hmem, _⟩
  · rw [hfiles] at hget
    cases hget
  · rw [hpublished] at hmem
    cases hmem

/-- The log is lost, for want of credentials. -/
theorem lost_fetched : ∃ prepared w₁ w' e,
    Rotate.prepare toolCrates servedEnv fetchedArgs keysOnly = (.ok prepared, w₁) ∧
      Rotate.cmdRotate toolCrates servedEnv fetchedArgs keysOnly = (.error e, w') ∧
      w'.keyStore ≠ keysOnly.keyStore ∧ ¬ Rotate.Kept toolCrates fetchedArgs prepared w' := by
  obtain ⟨prepared, w₁, w', e, hprepare, hrun, hchanged, -⟩ := exists_fetched
  refine ⟨prepared, w₁, w', e, hprepare, hrun, hchanged, fun h => ?_⟩
  rcases (Rotate.kept_iff hprepare hrun hchanged).mp h with hkept | hdid | hout |
    ⟨-, _, _, _, hpartner, _⟩
  · exact not_kept_of_empty rfl rfl hkept
  · cases hdid
  · cases hout
  · cases hpartner

/-- Not every rotation that fails late keeps the log. -/
theorem not_kept_fetched : ¬ ∀ (env : Env) (args : RotateArgs) (w w₁ w' : World) prepared e,
    Rotate.prepare toolCrates env args w = (.ok prepared, w₁) →
    Rotate.cmdRotate toolCrates env args w = (.error e, w') → w'.keyStore ≠ w.keyStore →
      Rotate.Kept toolCrates args prepared w' := by
  intro h
  obtain ⟨prepared, w₁, w', e, hprepare, hrun, hchanged, hfiles, hpublished⟩ := exists_fetched
  exact not_kept_of_empty hfiles hpublished (h _ _ _ _ _ _ _ hprepare hrun hchanged)

end Sample

end Swiyu
