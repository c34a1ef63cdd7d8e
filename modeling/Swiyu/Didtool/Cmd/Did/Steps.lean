import Swiyu.Didtool.Cmd.Did.Refused

/-!
# When the commands write

Each operation takes one tick, and the arguments say how many of them come before the first write.
So the fault that keeps a log or a key from being written can be named before a command is run.

## Main definitions

- `Swiyu.Rotate.writeTick`, `Swiyu.Create.writeTick`: when the log is written.
- `Swiyu.LogStored`: nothing keeps a log from being written.
- `Swiyu.World.unstored`: what is left when something does.

## Main results

- `Swiyu.Rotate.steps_prepare`, `Swiyu.Create.tick_prepare`: a preparation ends at that tick.
- `Swiyu.triple_writeLog`: what the write of a log ends in.
-/

namespace Swiyu

variable {X : ToolCrates} {env : Env} {w w₁ w' : World}

/-! ## Writing a log -/

/-- The operations that write a log. -/
def logOperations (sourcePath out : Option Text) : List Operation :=
  match out, sourcePath with
  | some path, _ => [.writeFile path]
  | none, some source => [.writeFile (tmpPath source), .rename (tmpPath source) source]
  | none, none => []

variable (env) in
/-- A log can be written from a tick on: no file is in the way, and no operation fails. -/
structure LogStored (sourcePath out : Option Text) (force : Bool) (tick : ℕ) (w : World) :
    Prop where
  free : ∀ path, out = some path → (w.files.get path).isSome → force = true
  fault : ∀ i op, (logOperations sourcePath out)[i]? = some op → env.fault (tick + i) op = none

variable (env) in
/-- The world when a log could not be written: as before, apart from what a write to `out` that has
failed leaves there. -/
def World.unstored (w : World) (content : Text) (out : Option Text) (force : Bool) (tick : ℕ) :
    World :=
  match out with
  | some path =>
    if (w.files.get path).isSome = true ∧ force = false then w
    else
      ((env.left tick (.writeFile path) content).map fun text => Os.putFile path text w).getD w
  | none => w

theorem World.files_unstored {content : Text} {out : Option Text} {force : Bool} {tick : ℕ}
    (h : w'.files = w.files) : (w'.unstored env content out force tick).files =
      (w.unstored env content out force tick).files := by
  unfold unstored
  cases out with
  | none => exact h
  | some path =>
    dsimp only
    rw [h]
    split_ifs
    · exact h
    · cases env.left tick (.writeFile path) content with
      | none => exact h
      | some text => exact congrArg (fun files => files.insert path text) h

theorem World.published_unstored {content : Text} {out : Option Text} {force : Bool} {tick : ℕ} :
    (w.unstored env content out force tick).published = w.published := by
  unfold unstored
  cases out with
  | none => rfl
  | some path =>
    dsimp only
    split_ifs
    · rfl
    · cases env.left tick (.writeFile path) content <;> rfl

theorem logStored_out_iff {sourcePath : Option Text} {path : Text} {force : Bool} {tick : ℕ} :
    LogStored env sourcePath (some path) force tick w ↔
      ¬ ((w.files.get path).isSome = true ∧ force = false) ∧
        env.fault tick (.writeFile path) = none := by
  rw [not_and, Bool.not_eq_false]
  constructor
  · intro h
    exact ⟨h.free path rfl, h.fault 0 _ rfl⟩
  · rintro ⟨hfree, hfault⟩
    refine ⟨fun p hp => ?_, fun i op hop => ?_⟩
    · rw [← Option.some.inj hp]
      exact hfree
    · obtain ⟨rfl, rfl⟩ : i = 0 ∧ .writeFile path = op := by
        simpa [logOperations, List.getElem?_singleton] using hop
      exact hfault

theorem logStored_source_iff {source : Text} {force : Bool} {tick : ℕ} :
    LogStored env (some source) none force tick w ↔
      env.fault tick (.writeFile (tmpPath source)) = none ∧
        env.fault (tick + 1) (.rename (tmpPath source) source) = none := by
  constructor
  · intro h
    exact ⟨h.fault 0 _ rfl, h.fault 1 _ rfl⟩
  · rintro ⟨hwrite, hrename⟩
    refine ⟨fun p hp => absurd hp (Option.some_ne_none p).symm, fun i op hop => ?_⟩
    rcases i with _ | _ | i
    · obtain rfl := Option.some.inj hop
      exact hwrite
    · obtain rfl := Option.some.inj hop
      exact hrename
    · cases hop

theorem logStored_none {force : Bool} {tick : ℕ} : LogStored env none none force tick w :=
  ⟨fun p h => absurd h (Option.some_ne_none p).symm,
    fun _ op h => absurd h (Option.some_ne_none op).symm⟩

theorem LogStored.congr {sourcePath out : Option Text} {force : Bool} {tick : ℕ}
    (h : w'.files = w.files) :
    LogStored env sourcePath out force tick w' ↔ LogStored env sourcePath out force tick w := by
  constructor
  · rintro ⟨hfree, hfault⟩
    rw [h] at hfree
    exact ⟨hfree, hfault⟩
  · rintro ⟨hfree, hfault⟩
    rw [← h] at hfree
    exact ⟨hfree, hfault⟩

theorem tmpPath_ne (source : Text) : tmpPath source ≠ source := by
  intro h
  have hlength : (source ++ Text.lit ".tmp").length = source.length := congrArg List.length h
  rw [List.length_append] at hlength
  exact absurd hlength (Nat.ne_of_gt (Nat.lt_add_of_pos_right (by decide)))

/-- A log that is written is in its file. Otherwise something has kept it from being written, and
the file is as it was, apart from what a write that has failed leaves there. -/
theorem triple_writeLog {content : Text} {sourcePath out : Option Text} {force : Bool} :
    (writeLog env content sourcePath out force).Triple w
      (fun path w' => LogStored env sourcePath out force w.tick w ∧ path = out.or sourcePath ∧
        w'.tick = w.tick + (logOperations sourcePath out).length ∧
        (∀ p, path = some p → w'.files.get p = some content) ∧ (path = none → w' = w))
      fun w' => ¬ LogStored env sourcePath out force w.tick w ∧
        ∀ p, out = some p ∨ sourcePath = some p →
          w'.files.get p = (w.unstored env content out force w.tick).files.get p := by
  cases out with
  | some path =>
    -- With `--out` the log goes to that file, in one operation.
    refine .bind (Q := fun present s => s = w ∧ present = (w.files.get path).isSome)
      (.read ⟨rfl, rfl⟩) ?_
    rintro present s ⟨hs, hpresent⟩
    rw [hs, hpresent, logStored_out_iff]
    refine .ite (fun hblocked => ?_) fun hfree => ?_
    · -- A file is in the way.
      refine .fail ⟨fun h => h.1 hblocked, fun p _ => ?_⟩
      rw [World.unstored, if_pos hblocked]
    · -- Nothing is in the way, so the only thing that can fail is the write.
      refine .bind (.mapError (Os.triple_writing.mono (fun _ w' h => h) ?_)) fun _ w' h => .pure ?_
      · -- The write fails, and leaves in the file what the fault says.
        rintro w' ⟨f, hfault, hw'⟩
        have hleft : env.left w.tick (.writeFile path) content = f.leaves := by
          rw [Env.left, hfault]
        refine ⟨fun h => ?_, fun p _ => ?_⟩
        · cases hfault.symm.trans h.2
        · rw [World.unstored, if_neg hfree, hw', hleft]
          cases f.leaves <;> rfl
      · obtain ⟨hw', hfault⟩ := h
        refine ⟨⟨hfree, hfault⟩, rfl, by rw [hw']; rfl, fun p hp => ?_,
          fun hp => absurd hp (Option.some_ne_none path)⟩
        rw [hw', ← Option.some.inj hp]
        show (w.files.insert path content).get path = _
        rw [OrdMap.get_insert, if_pos rfl]
  | none =>
    cases sourcePath with
    | none =>
      exact .pure ⟨logStored_none, rfl, rfl, fun p h => absurd h (Option.some_ne_none p).symm,
        fun _ => rfl⟩
    | some source =>
      -- The file that the log came from is written to a temporary file first, which is then
      -- renamed.
      rw [logStored_source_iff]
      -- What a failed write leaves is next to the file.
      have hother (p text : Text) (hp : source = p) :
          (w.files.insert (tmpPath source) text).get p = w.files.get p := by
        rw [OrdMap.get_insert, if_neg]
        rw [← hp]
        exact (tmpPath_ne source).symm
      refine .bind (Q := fun _ w' =>
        env.fault w.tick (.writeFile (tmpPath source)) = none ∧
          env.fault (w.tick + 1) (.rename (tmpPath source) source) = none ∧
          w' = Os.moveFile (tmpPath source) source
            (Os.putFile (tmpPath source) content w.ticked).ticked)
        (.mapError (.bind (Os.triple_writing.mono (fun _ w' h => h) ?_) fun _ s h =>
          Os.triple_writing.mono (fun _ w' h' => ?_) ?_)) fun _ w' h => .pure ?_
      · -- The temporary file cannot be written.
        rintro w' ⟨f, hfault, hw'⟩
        refine ⟨fun h => ?_, fun p hp => ?_⟩
        · cases hfault.symm.trans h.1
        · have hp := hp.resolve_left (Option.some_ne_none p).symm
          rw [hw', World.unstored]
          cases f.leaves with
          | none => rfl
          | some text => exact hother p text (Option.some.inj hp)
      · obtain ⟨rfl, hwrite⟩ := h
        exact ⟨hwrite, h'.2, h'.1⟩
      · obtain ⟨rfl, hwrite⟩ := h
        rintro w' ⟨f, hfault, hw'⟩
        refine ⟨fun h => ?_, fun p hp => ?_⟩
        · cases hfault.symm.trans h.2
        · have hp := hp.resolve_left (Option.some_ne_none p).symm
          have hsame : w'.files = w.files.insert (tmpPath source) content := by
            rw [hw']
            cases f.leaves <;> rfl
          rw [hsame, World.unstored]
          exact hother p content (Option.some.inj hp)
      · obtain ⟨hwrite, hrename, rfl⟩ := h
        -- What has just been written is moved.
        have hmove : (Os.putFile (tmpPath source) content w.ticked).ticked.files.get
            (tmpPath source) = some content := by
          show (w.files.insert (tmpPath source) content).get (tmpPath source) = _
          rw [OrdMap.get_insert, if_pos rfl]
        unfold Os.moveFile
        rw [hmove]
        refine ⟨⟨hwrite, hrename⟩, rfl, rfl, fun p hp => ?_,
          fun hp => absurd hp (Option.some_ne_none source)⟩
        rw [← Option.some.inj hp]
        show (OrdMap.insert _ source content).get source = _
        rw [OrdMap.get_insert, if_pos rfl]

/-! ## Loading a log -/

/-- The file that a log is read from, if it is not fetched. -/
def sourceFile (args : UpdateArgs) : Option Text :=
  if args.did = none then some (args.input.getD DEFAULT_INPUT) else none

/-- The number of operations that load a log: a hash is looked up before the log is fetched. -/
def loadTicks (did : Option Text) : ℕ := if did.any isHash = true then 2 else 1

theorem tick_resolveDid {target : Text} {did : DID} (h : resolveDid env target w = (.ok did, w')) :
    w'.tick = w.tick + if isHash target = true then 1 else 0 := by
  unfold resolveDid at h
  split_ifs at h with hhash
  · simp only [Command.bind_eq_ok_iff, Command.mapError_eq_ok_iff, Command.ofExcept_eq_ok_iff,
      Option.okOr_eq_ok_iff, KeyStore.lookupByHash, Os.entryExists, Command.read_eq_ok_iff] at h
    obtain ⟨_, _, ⟨_, _, ⟨rfl, rfl⟩, hlookup⟩, entry, _, ⟨rfl, rfl⟩, -, rfl⟩ := h
    by_cases hpresent : (w.keyStore.get target).isSome = false
    · rw [if_pos hpresent, Command.pure_eq_ok_iff] at hlookup
      cases hlookup.1
    · rw [if_neg hpresent] at hlookup
      simp only [Command.bind_eq_ok_iff, Command.mapError_eq_ok_iff, Os.readDidTxt,
        Os.reading_eq_ok_iff, Command.pure_eq_ok_iff] at hlookup
      obtain ⟨_, _, ⟨-, -, rfl⟩, -, rfl⟩ := hlookup
      rw [if_pos hhash]
      rfl
  · obtain ⟨-, rfl⟩ := Command.ofExcept_eq_ok_iff.mp h
    rw [if_neg hhash]
    rfl

theorem steps_loadLog {args : UpdateArgs} {loaded : LoadedLog}
    (h : loadLog X.toCrates env args.did args.input w = (.ok loaded, w')) :
    w'.tick = w.tick + loadTicks args.did ∧ loaded.sourcePath = sourceFile args := by
  obtain ⟨-, _, _, hread, -⟩ := loadLog_eq_ok_iff.mp h
  unfold loadTicks sourceFile
  cases hdid : args.did with
  | none =>
    rw [hdid] at hread
    obtain ⟨-, -, hpath, -, rfl⟩ := readLog_input_eq_ok_iff.mp hread
    exact ⟨rfl, hpath⟩
  | some target =>
    rw [hdid] at hread
    obtain ⟨_, w₁, hresolve, -, hpath, -, rfl⟩ := readLog_target_eq_ok_iff.mp hread
    refine ⟨?_, hpath⟩
    show w₁.tick + 1 = _
    rw [tick_resolveDid hresolve, Option.any_some]
    split_ifs <;> rfl

theorem tick_loadSigner {log : DIDLog} {signer : LogSigner}
    (h : loadSigner X env log w = (.ok signer, w')) : w'.tick = w.tick + 3 := by
  simp only [loadSigner, Command.bind_eq_ok_iff, Command.ofExcept_eq_ok_iff,
    Command.mapError_eq_ok_iff, Command.pure_eq_ok_iff, Option.okOr_eq_ok_iff] at h
  obtain ⟨_, _, ⟨-, rfl⟩, found, w₁, hlookup, entry, _, ⟨rfl, rfl⟩, version, w₂, hversion, _, _,
    hauthorized, -, rfl⟩ := h
  obtain ⟨-, -, -, rfl⟩ := KeyStore.lookup_eq_ok_some_iff.mp hlookup
  obtain ⟨-, -, rfl⟩ := KeyStoreEntry.latestVersion_eq_ok_iff.mp hversion
  obtain ⟨-, -, rfl⟩ := KeyStoreEntry.load_some_eq_ok_iff.mp hauthorized
  rfl

theorem eq_ticked_of_readPrivateKey {parse : Text → Except CryptoError (FixedBytes 32)}
    {path : Text} {key : FixedBytes 32} (h : readPrivateKey env parse path w = (.ok key, w')) :
    w' = w.ticked := by
  simp only [readPrivateKey, Command.mapError_eq_ok_iff, Command.bind_eq_ok_iff,
    Os.readToString_eq_ok_iff, Command.ofExcept_eq_ok_iff] at h
  obtain ⟨_, _, ⟨-, -, rfl⟩, -, rfl⟩ := h
  rfl

/-! ## The commands -/

namespace Rotate

variable {args : RotateArgs} {prepared : Prepared}

/-- The tick at which a rotation writes the log. -/
def writeTick (args : RotateArgs) (w : World) : ℕ := w.tick + loadTicks args.did + 7

theorem eq_ticked_of_stageKey {name : Text} {entry : KeyStoreEntry} {role : KeyRole} {n : ℕ}
    {parse : Text → Except CryptoError (FixedBytes 32)} {answer : ℕ → FixedBytes 32}
    {action : Action} {key : FixedBytes 32}
    (h : stageKey name (entry.load env parse role (some n))
      (do let n ← Os.nextTick; return answer n) (readPrivateKey env parse) action w =
        (.ok key, w')) : w' = w.ticked := by
  cases action with
  | keep =>
    obtain ⟨-, -, rfl⟩ :=
      KeyStoreEntry.load_some_eq_ok_iff.mp (Command.mapError_eq_ok_iff.mp h)
    rfl
  | generate => exact (congrArg Prod.snd h).symm
  | «import» path => exact eq_ticked_of_readPrivateKey (Command.mapError_eq_ok_iff.mp h)

theorem tick_stageKeys {entry : KeyStoreEntry} {n : ℕ} {plan : Plan} {staged : StagedKeys}
    (h : stageKeys X env entry n plan w = (.ok staged, w')) : w'.tick = w.tick + 3 := by
  simp only [stageKeys, Command.bind_eq_ok_iff, Command.pure_eq_ok_iff] at h
  obtain ⟨_, w₁, h₁, _, w₂, h₂, _, w₃, h₃, -, rfl⟩ := h
  rw [eq_ticked_of_stageKey h₃, eq_ticked_of_stageKey h₂, eq_ticked_of_stageKey h₁]
  rfl

/-- A rotation that is prepared is about to write the log, to the file that it has come from unless
there is another one for it. -/
theorem steps_prepare (h : prepare X env args w = (.ok prepared, w₁)) :
    w₁.tick = writeTick args w ∧ prepared.loaded.sourcePath = sourceFile args.toUpdateArgs := by
  simp only [prepare, Command.bind_eq_ok_iff, Command.ofExcept_eq_ok_iff,
    Command.mapError_eq_ok_iff, Command.pure_eq_ok_iff] at h
  obtain ⟨_, _, ⟨-, rfl⟩, _, _, ⟨-, rfl⟩, loaded, w₂, hloaded, _, _, ⟨-, rfl⟩, signer, w₃, hsigner,
    staged, w₄, hstaged, time, w₅, htime, rfl, rfl⟩ := h
  obtain ⟨hload, hsource⟩ := steps_loadLog hloaded
  have hend : w₅ = w₄.ticked := (congrArg Prod.snd htime).symm
  refine ⟨?_, hsource⟩
  rw [hend]
  show w₄.tick + 1 = _
  rw [tick_stageKeys hstaged, tick_loadSigner hsigner, hload]
  rfl

/-- The signer of a rotation that is prepared. -/
theorem signerAvailable_of_prepare (h : prepare X env args w = (.ok prepared, w')) :
    prepared.signer.entry.hash = didToHash X prepared.signer.did.toText ∧
      SignerAvailable X w prepared.signer.did prepared.signer.version := by
  simp only [prepare, Command.bind_eq_ok_iff, Command.ofExcept_eq_ok_iff,
    Command.mapError_eq_ok_iff, Command.pure_eq_ok_iff, Except.mapError_eq_ok_iff] at h
  obtain ⟨_, _, ⟨-, rfl⟩, _, _, ⟨-, rfl⟩, loaded, w₁, hloaded, _, _, ⟨-, rfl⟩, signer, _, hsigner,
    _, _, -, _, _, -, rfl, -⟩ := h
  obtain ⟨-, hhash, havailable⟩ := loadSigner_eq_ok hsigner
  exact ⟨hhash, havailable.congr ((keeps_loadLog fun _ => rfl).eq hloaded).symm⟩

/-- A rotation that is prepared stops at the log or at the keys, or goes on to the upload. -/
theorem cases_cmdRotate {r : Except RotateError Report}
    (hprepare : prepare X env args w = (.ok prepared, w₁))
    (hrun : cmdRotate X env args w = (r, w')) :
    (∃ e, save X env args prepared w₁ = (.error e, w')) ∨
      ∃ path w₂, save X env args prepared w₁ = (.ok path, w₂) ∧
        ((∃ e, prepared.signer.entry.addVersion X env prepared.staged w₂ = (.error e, w')) ∨
          ∃ n w₃ uploaded,
            prepared.signer.entry.addVersion X env prepared.staged w₂ = (.ok n, w₃) ∧
              publish X env args prepared path w₃ = (uploaded, w') ∧
              ∀ e, r = .error e → uploaded = .error e) := by
  rw [cmdRotate, Command.bind_of_eq_ok hprepare] at hrun
  -- Each step in turn fails and ends the command, or succeeds.
  rcases hsave : save X env args prepared w₁ with ⟨e | path, w₂⟩
  · simp only [bind, hsave] at hrun
    obtain ⟨-, rfl⟩ := Prod.mk.inj hrun
    exact .inl ⟨e, rfl⟩
  · rw [Command.bind_of_eq_ok hsave] at hrun
    refine .inr ⟨path, w₂, rfl, ?_⟩
    rcases hadd : prepared.signer.entry.addVersion X env prepared.staged w₂ with ⟨e | n, w₃⟩
    · have hcommit : commit X env prepared w₂ = (.error (.update (.keyStore e)), w₃) := by
        unfold commit Command.mapError
        rw [hadd]
        rfl
      simp only [bind, hcommit] at hrun
      obtain ⟨-, rfl⟩ := Prod.mk.inj hrun
      exact .inl ⟨e, rfl⟩
    · have hcommit : commit X env prepared w₂ = (.ok n, w₃) := Command.mapError_eq_ok_iff.mpr hadd
      rw [Command.bind_of_eq_ok hcommit] at hrun
      -- Nothing can fail after the upload.
      rcases hpublish : publish X env args prepared path w₃ with ⟨e | u, w₄⟩
      · simp only [bind, hpublish] at hrun
        obtain ⟨rfl, rfl⟩ := Prod.mk.inj hrun
        exact .inr ⟨n, w₃, .error e, rfl, hpublish, fun _ h => by rw [← Except.error.inj h]⟩
      · rw [Command.bind_of_eq_ok hpublish] at hrun
        obtain ⟨rfl, rfl⟩ := Prod.mk.inj hrun
        exact .inr ⟨n, w₃, .ok u, rfl, hpublish, fun _ h => by cases h⟩

/-- A log comes from a file unless it has been fetched for a DID. -/
theorem sourcePath_of_prepare (h : prepare X env args w = (.ok prepared, w₁)) :
    prepared.loaded.sourcePath.isSome = true ↔ args.did = none := by
  rw [(steps_prepare h).2, sourceFile]
  split_ifs with hdid <;> simp [hdid]

end Rotate

namespace Create

variable {args : CreateArgs} {prepared : Prepared}

/-- The tick at which a creation writes the log: a space has been allocated before, if need be. -/
def writeTick (args : CreateArgs) (w : World) : ℕ :=
  w.tick + (if args.swiyu = true then 1 else 0) + 4

theorem eq_ticked_of_prepareKey {path : Option Text}
    {parse : Text → Except CryptoError (FixedBytes 32)} {error : CryptoError → CreateError}
    {answer : ℕ → FixedBytes 32} {key : FixedBytes 32}
    (h : prepareKey path (readPrivateKey env parse) error
      (do let n ← Os.nextTick; return answer n) w = (.ok key, w')) : w' = w.ticked := by
  cases path with
  | some p => exact eq_ticked_of_readPrivateKey (Command.mapError_eq_ok_iff.mp h)
  | none => exact (congrArg Prod.snd h).symm

theorem tick_prepareKeys {staged : StagedKeys}
    (h : prepareKeys X env args w = (.ok staged, w')) : w'.tick = w.tick + 3 := by
  simp only [prepareKeys, Command.bind_eq_ok_iff, Command.ofExcept_eq_ok_iff,
    Command.pure_eq_ok_iff] at h
  obtain ⟨_, w₁, h₁, _, w₂, h₂, _, w₃, h₃, _, _, ⟨-, rfl⟩, -, rfl⟩ := h
  rw [eq_ticked_of_prepareKey h₃, eq_ticked_of_prepareKey h₂, eq_ticked_of_prepareKey h₁]
  rfl

theorem tick_resolveUrl {url : Text} {space : Option Space}
    (h : resolveUrl env args w = (.ok (url, space), w')) :
    w'.tick = w.tick + if args.swiyu = true then 1 else 0 := by
  unfold resolveUrl at h
  cases hurl : args.url with
  | some given =>
    cases hswiyu : args.swiyu with
    | true =>
      rw [hurl, hswiyu] at h
      exact absurd h Command.fail_ne_ok
    | false =>
      rw [hurl, hswiyu] at h
      obtain ⟨-, rfl⟩ := Command.pure_eq_ok_iff.mp h
      rfl
  | none =>
    cases hswiyu : args.swiyu with
    | true =>
      rw [hurl, hswiyu] at h
      simp only [Command.bind_eq_ok_iff, Command.ofExcept_eq_ok_iff, Command.mapError_eq_ok_iff,
        Os.allocate, Os.nextTick_eq_ok_iff, Command.pure_eq_ok_iff] at h
      obtain ⟨_, _, ⟨-, rfl⟩, _, _, ⟨_, _, ⟨-, rfl⟩, -, rfl⟩, -, rfl⟩ := h
      rfl
    | false =>
      rw [hurl, hswiyu] at h
      exact absurd h Command.fail_ne_ok

/-- A creation that is prepared is about to write the log. -/
theorem tick_prepare (h : prepare X env args w = (.ok prepared, w₁)) :
    w₁.tick = writeTick args w := by
  simp only [prepare, nowIso8601, Command.bind_eq_ok_iff, Command.ofExcept_eq_ok_iff,
    Command.pure_eq_ok_iff, Os.now_eq_ok_iff] at h
  obtain ⟨_, _, ⟨-, rfl⟩, ⟨url, space⟩, w₂, hurl, _, _, ⟨-, rfl⟩, staged, w₃, hstaged, _, _,
    ⟨-, rfl⟩, _, _, ⟨_, _, ⟨-, rfl⟩, -, rfl⟩, _, _, ⟨-, rfl⟩, -, rfl⟩ := h
  show w₃.tick + 1 = _
  rw [tick_prepareKeys hstaged, tick_resolveUrl hurl]
  rfl

/-- A creation that is prepared stops at the log or at the keys, or goes on to the upload. -/
theorem cases_cmdCreate {r : Except CreateError Report}
    (hprepare : prepare X env args w = (.ok prepared, w₁))
    (hrun : cmdCreate X env args w = (r, w')) :
    (∃ e, save X env args prepared w₁ = (.error e, w')) ∨
      ∃ w₂ committed w₃, save X env args prepared w₁ = (.ok (), w₂) ∧
        KeyStore.commit X env prepared.staged prepared.genesis.did w₂ = (committed, w₃) ∧
        (w₃ = w' ∨ ∃ uploaded, publish X env args prepared w₃ = (uploaded, w')) := by
  rw [cmdCreate, Command.bind_of_eq_ok hprepare] at hrun
  -- Each step in turn fails and ends the command, or succeeds.
  rcases hsave : save X env args prepared w₁ with ⟨e | u, w₂⟩
  · simp only [bind, hsave] at hrun
    obtain ⟨-, rfl⟩ := Prod.mk.inj hrun
    exact .inl ⟨e, rfl⟩
  · rw [Command.bind_of_eq_ok hsave] at hrun
    rcases hadd : KeyStore.commit X env prepared.staged prepared.genesis.did w₂ with ⟨e | entry, w₃⟩
    · have hcommit : commit X env prepared w₂ = (.error (.keyStore e), w₃) := by
        unfold commit Command.mapError
        rw [hadd]
        rfl
      simp only [bind, hcommit] at hrun
      obtain ⟨-, rfl⟩ := Prod.mk.inj hrun
      exact .inr ⟨w₂, _, w₃, rfl, hadd, .inl rfl⟩
    · have hcommit : commit X env prepared w₂ = (.ok entry, w₃) :=
        Command.mapError_eq_ok_iff.mpr hadd
      rw [Command.bind_of_eq_ok hcommit] at hrun
      refine .inr ⟨w₂, _, w₃, rfl, hadd, .inr ?_⟩
      rcases hpublish : publish X env args prepared w₃ with ⟨e | url, w₄⟩
      · simp only [bind, hpublish] at hrun
        obtain ⟨-, rfl⟩ := Prod.mk.inj hrun
        exact ⟨_, rfl⟩
      · rw [Command.bind_of_eq_ok hpublish] at hrun
        obtain ⟨-, rfl⟩ := Prod.mk.inj hrun
        exact ⟨_, rfl⟩

end Create

end Swiyu
