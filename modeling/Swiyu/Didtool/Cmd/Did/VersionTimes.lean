import Mathlib.Logic.Relation
import Swiyu.Didtool.Cmd.Did.Salvaged
import Swiyu.Didtool.Cmd.Did.Written

/-!
# Version times

A new version is later than the one before it, whatever the clock says, and not ahead of both five
seconds ago and one second after the version before it. The instant is compared with its fraction of
a second and written without: the second that is added makes up for what is cut off.

## Main definitions

- `Swiyu.nextInstant`: the instant of a new version, before it is written.
- `Swiyu.ToolCrates.WritesSeconds`: instants are written in whole seconds, rounded down.
- `Swiyu.Updates`: what a call reads and what it leaves.
- `Swiyu.Later`: an entry is later than another.

## Main results

- `Swiyu.instant_computeVersionTime`: the instant that is written.
- `Swiyu.later_of_call`: what one call appends.
- `Swiyu.versionTimes_increase`: chains of calls.
-/

namespace Swiyu

open Json

/-! ## Instants -/

/-- The first instant of the year 0, in nanoseconds since 1970. -/
def yearZero : ℤ := -62167219200 * nanosPerSecond

/-- The first instant of the year 9999. -/
def year9999 : ℤ := 253370764800 * nanosPerSecond

/-- The first instant after the year 9999. -/
def year10000 : ℤ := 253402300800 * nanosPerSecond

/-- The instant of a new version at the time `now`, after the instant of the version before it if
that can be told. -/
def nextInstant (now : ℤ) (prev : Option ℤ) : ℤ :=
  let backdated := now - 5 * nanosPerSecond
  (prev.map fun prev => max (prev + nanosPerSecond) backdated).getD backdated

/-- What the tool relies on of `chrono`: with four-digit years the text of an instant is that of its
whole second, rounded down. -/
def ToolCrates.WritesSeconds (X : ToolCrates) : Prop :=
  ∀ t, yearZero ≤ t → t < year10000 →
    X.parseRfc3339 (X.rfc3339Secs t) = some (t - t % nanosPerSecond)

variable {X : ToolCrates} {env : Env}

theorem computeVersionTime_eq_ok_iff {ε : Type} {prev text : Text} {w w' : World} :
    (computeVersionTime X env prev : Command World ε Text) w = (.ok text, w') ↔
      text = X.rfc3339Secs (nextInstant (env.clock w.tick) (X.parseRfc3339 prev)) ∧
        w.ticked = w' := by
  simp only [computeVersionTime, Command.bind_eq_ok_iff, Os.now_eq_ok_iff, Command.pure_eq_ok_iff]
  constructor
  · rintro ⟨_, _, ⟨hnow, hticked⟩, htext, hw⟩
    subst hnow
    exact ⟨htext.symm, hticked.trans hw⟩
  · rintro ⟨htext, hw⟩
    exact ⟨_, _, ⟨rfl, rfl⟩, htext.symm, hw⟩

/-- The whole second of the next instant is later than the instant before: either branch is at least
one second after it, or else the fraction that is cut off is below that second. -/
theorem nextInstant_bounds (now prev : ℤ) :
    let t := nextInstant now (some prev)
    prev < t - t % nanosPerSecond ∧
      t - t % nanosPerSecond ≤ max (now - 5 * nanosPerSecond) (prev + nanosPerSecond) := by
  intro t
  have ht : t = max (prev + nanosPerSecond) (now - 5 * nanosPerSecond) := rfl
  have hnanos : nanosPerSecond = 1000000000 := rfl
  have hlow : 0 ≤ t % nanosPerSecond := Int.emod_nonneg _ (by decide)
  have hhigh : t % nanosPerSecond < nanosPerSecond := Int.emod_lt_of_pos _ (by decide)
  have hprev : prev + nanosPerSecond ≤ t := ht ▸ le_max_left _ _
  have hbound : t = max (now - 5 * nanosPerSecond) (prev + nanosPerSecond) := by
    rw [ht, max_comm]
  constructor
  · omega
  · rw [← hbound]
    omega

/-- What is written parses as a whole second between the two bounds. -/
theorem parse_nextInstant (hX : X.WritesSeconds) {now prev : ℤ} (hnow : 0 ≤ now)
    (hnow' : now < year9999) (hprev : prev < year9999) :
    ∃ t, X.parseRfc3339 (X.rfc3339Secs (nextInstant now (some prev))) = some t ∧
      t % nanosPerSecond = 0 ∧ prev < t ∧
      t ≤ max (now - 5 * nanosPerSecond) (prev + nanosPerSecond) := by
  have ht : nextInstant now (some prev) =
      max (prev + nanosPerSecond) (now - 5 * nanosPerSecond) := rfl
  have hyears :
      yearZero ≤ nextInstant now (some prev) ∧ nextInstant now (some prev) < year10000 := by
    rw [ht]
    unfold yearZero year10000
    unfold year9999 at hnow' hprev
    have hnanos : nanosPerSecond = 1000000000 := rfl
    omega
  refine ⟨_, hX _ hyears.1 hyears.2, ?_, nextInstant_bounds now prev⟩
  rw [Int.sub_emod, Int.emod_emod, sub_self, Int.zero_emod]

/-- The instant that is written is a whole second, later than the previous version and not later
than both five seconds ago and one second after the previous version. -/
theorem instant_computeVersionTime (hX : X.WritesSeconds) {ε : Type} {prev : Text} {p : ℤ}
    (hprev : X.parseRfc3339 prev = some p) (hp : p < year9999) (w : World)
    (hnow : 0 ≤ env.clock w.tick) (hnow' : env.clock w.tick < year9999) :
    ∃ text t, (computeVersionTime X env prev : Command World ε Text) w = (.ok text, w.ticked) ∧
      X.parseRfc3339 text = some t ∧ t % nanosPerSecond = 0 ∧ p < t ∧
      t ≤ max (env.clock w.tick - 5 * nanosPerSecond) (p + nanosPerSecond) := by
  obtain ⟨t, ht⟩ := parse_nextInstant hX hnow hnow' hp
  refine ⟨_, t, computeVersionTime_eq_ok_iff.mpr ⟨rfl, rfl⟩, ?_⟩
  rw [hprev]
  exact ht

/-! ## One call -/

variable (X env) in
/-- A call of a command reads the log `text`, and leaves the log `text'`. -/
inductive Updates (text text' : Text) : Prop
  | rotate {args : RotateArgs} {w w₁ w' : World} {path : Option Text} {target : Option DID}
      {prepared : Rotate.Prepared}
      (hread : readLog env args.did args.input w = (.ok (text, path, target), w₁))
      (hprepare : Rotate.prepare X env args w = (.ok prepared, w'))
      (hleft : LeftOf (prepared.updatedLog X) text')
  | deactivate {args : UpdateArgs} {w w₁ w' : World} {path : Option Text} {target : Option DID}
      {prepared : Deactivate.Prepared}
      (hread : readLog env args.did args.input w = (.ok (text, path, target), w₁))
      (hprepare : Deactivate.prepare X env args w = (.ok prepared, w'))
      (hleft : LeftOf (prepared.updatedLog X) text')

variable (X env) in
/-- What the calls have in common: the new line is that of an entry on the last entry of the log, at
the next instant. -/
structure Builds (text newLine : Text) (log : DIDLog) (last : DIDLogEntry) : Prop where
  read : DIDLog.tryFromJsonl X.toCrates text = .ok log
  getLast : log.entries.getLast? = some last
  format : last.format = .tdw03
  line : ∃ (tick : ℕ) (parameters : LogParameters) (document : Value) (n : UInt32)
    (signer : FixedBytes 32), parameters.toJson.PlainWithin 2 ∧
      Readable X.f64 (depthLimit - 2) document ∧
      newLine = (buildEntry X.toSigningCrates last.versionId
        (X.rfc3339Secs (nextInstant (env.clock tick) (X.parseRfc3339 last.versionTime)))
        parameters.toJson document n signer).value.print X.f64

/-- The log that is loaded is that of the text that is read. -/
theorem loaded_of_readLog {did input path : Option Text} {target : Option DID} {text : Text}
    {loaded : LoadedLog} {w w₁ w₂ : World}
    (hread : readLog env did input w = (.ok (text, path, target), w₁))
    (h : loadLog X.toCrates env did input w = (.ok loaded, w₂)) :
    DIDLog.tryFromJsonl X.toCrates text = .ok loaded.log ∧
      loaded.rawLines = collectRawLines text := by
  obtain ⟨-, text', target', hread', hlog, -, hlines⟩ := loadLog_eq_ok_iff.mp h
  rw [hread] at hread'
  obtain ⟨htext, -⟩ := Prod.mk.inj (Except.ok.inj (Prod.mk.inj hread').1)
  exact htext ▸ ⟨hlog, hlines⟩

/-- Each call builds an entry on the last entry of the log that it has read. -/
theorem Updates.exists_builds {text text' : Text} (h : Updates X env text text') :
    ∃ newLine log last, Builds X env text newLine log last ∧
      LeftOf (buildUpdatedLog (collectRawLines text) newLine) text' := by
  cases h with
  | rotate hread hprepare hleft =>
    simp only [Rotate.prepare, Command.bind_eq_ok_iff, Command.ofExcept_eq_ok_iff,
      Command.mapError_eq_ok_iff, Except.mapError_eq_ok_iff, Command.pure_eq_ok_iff] at hprepare
    obtain ⟨plan, _, ⟨-, rfl⟩, _, _, ⟨-, rfl⟩, loaded, w₂, hload, last, _, ⟨hlast, rfl⟩, signer, w₃,
      -, staged, w₄, -, time, w₅, htime, rfl, -⟩ := hprepare
    -- A rotation writes a new document with the keys.
    obtain ⟨hlog, hlines⟩ := loaded_of_readLog hread hload
    obtain ⟨hlast, hformat⟩ := lastEntry_eq_ok_iff.mp hlast
    obtain ⟨htime, -⟩ := computeVersionTime_eq_ok_iff.mp htime
    obtain ⟨parameters, hparameters, -⟩ :=
      Rotate.exists_parameters X.toSigningCrates signer.authorized staged.authorized
    refine ⟨_, loaded.log, last, ⟨hlog, hlast, hformat, w₄.tick, parameters,
      Rotate.newDocument X signer.didStr staged, sequenceNumber loaded.log.entries.length,
      signer.authorized, ?_, ?_, rfl⟩, ?_⟩
    · rw [hparameters]
      exact Rotate.plainWithin_newParameters _ _ _
    · exact ((DIDDoc.plainWithin_newGenesis _ _ _).mono (by decide)).readable _
    · rw [hparameters, ← htime, ← hlines]
      exact hleft
  | deactivate hread hprepare hleft =>
    simp only [Deactivate.prepare, Command.bind_eq_ok_iff, Command.ofExcept_eq_ok_iff,
      Command.mapError_eq_ok_iff, Except.mapError_eq_ok_iff, Command.pure_eq_ok_iff] at hprepare
    obtain ⟨_, _, ⟨-, rfl⟩, loaded, w₂, hload, last, _, ⟨hlast, rfl⟩, document, _, ⟨hdocument, rfl⟩,
      signer, w₃, -, time, w₄, htime, rfl, -⟩ := hprepare
    obtain ⟨hlog, hlines⟩ := loaded_of_readLog hread hload
    obtain ⟨hlast, hformat⟩ := lastEntry_eq_ok_iff.mp hlast
    obtain ⟨htime, -⟩ := computeVersionTime_eq_ok_iff.mp htime
    have hstate := (Deactivate.previousDocument_eq_ok_iff.mp hdocument).2
    -- The document is carried forward from the last line.
    obtain ⟨line, hline⟩ := exists_parsesTo hlog (List.mem_of_getLast? hlast)
    refine ⟨_, loaded.log, last, ⟨hlog, hlast, hformat, w₃.tick, Deactivate.parameters, document,
      sequenceNumber loaded.log.entries.length, signer.authorized, ?_,
      readable_document hline hformat hstate, rfl⟩, ?_⟩
    · rw [Deactivate.toJson_parameters]
      exact Deactivate.plainWithin_newParameters
    · rw [Deactivate.toJson_parameters, ← htime, ← hlines]
      exact hleft

variable (X) in
/-- A command that reads the log `text` and reports that it has written to a file leaves there what
a call leaves. -/
def WritesUpdate {ε ρ : Type} (env : Env) (did input : Option Text) (command : Command World ε ρ)
    (writtenTo : ρ → Option Text) : Prop :=
  ∀ (w w₁ w' : World) (text path : Text) (source : Option Text) (target : Option DID) (report : ρ),
    readLog env did input w = (.ok (text, source, target), w₁) → command w = (.ok report, w') →
      writtenTo report = some path →
        ∃ text', w'.files.get path = some text' ∧ Updates X env text text'

/-- What a successful rotation has written to a file is what it leaves. -/
theorem Rotate.writesUpdate_cmdRotate (args : RotateArgs) :
    WritesUpdate X env args.did args.input (cmdRotate X env args) Report.writtenTo := by
  intro w w₁ w' text path source target report hread h hpath
  simp only [cmdRotate, Command.bind_eq_ok_iff, Command.pure_eq_ok_iff] at h
  obtain ⟨prepared, w₂, hprepare, writtenTo, w₃, hsave, number, w₄, hcommit, _, w₅, hpublish, rfl,
    rfl⟩ := h
  obtain rfl : writtenTo = some path := hpath
  -- After the log nothing but the key store is written.
  have hfile := (get_of_writeLog (Command.mapError_eq_ok_iff.mp hsave)).2
  have hkeys : w₄.files = w₃.files :=
    (Command.Keeps.mapError (keeps_addVersion (fun _ => rfl) fun _ _ => rfl)).eq hcommit
  have hupload : w₅.files = w₄.files := keeps_publish_some.eq hpublish
  refine ⟨_, ?_, .rotate hread hprepare (.inl rfl)⟩
  rw [hupload, hkeys]
  exact hfile

/-- So is what a successful deactivation has written to a file. -/
theorem Deactivate.writesUpdate_cmdDeactivate (args : UpdateArgs) :
    WritesUpdate X env args.did args.input (cmdDeactivate X env args) Report.writtenTo := by
  intro w w₁ w' text path source target report hread h hpath
  simp only [cmdDeactivate, Command.bind_eq_ok_iff, Command.pure_eq_ok_iff] at h
  obtain ⟨prepared, w₂, hprepare, writtenTo, w₃, hsave, _, w₄, hpublish, rfl, rfl⟩ := h
  obtain rfl : writtenTo = some path := hpath
  have hfile := (Rotate.get_of_writeLog (Command.mapError_eq_ok_iff.mp hsave)).2
  have hupload : w₄.files = w₃.files :=
    (Command.Keeps.mapError Rotate.keeps_publishLog_some).eq hpublish
  refine ⟨_, ?_, .deactivate hread hprepare (.inl rfl)⟩
  rw [hupload]
  exact hfile

/-! ## Chains of calls -/

variable (X) in
/-- The second entry has a later time than the first. -/
def Later (e e' : DIDLogEntry) : Prop :=
  ∃ t t', X.parseRfc3339 e.versionTime = some t ∧ X.parseRfc3339 e'.versionTime = some t' ∧ t < t'

variable (X) in
/-- A call at a time of a year up to 9998, on a log whose last entry is from a year up to 9998. -/
def Call (text text' : Text) : Prop :=
  ∃ env : Env, (∀ n, 0 ≤ env.clock n ∧ env.clock n < year9999) ∧ Updates X env text text' ∧
    ∀ (log : DIDLog) (last : DIDLogEntry) (p : ℤ), DIDLog.tryFromJsonl X.toCrates text = .ok log →
      log.entries.getLast? = some last → X.parseRfc3339 last.versionTime = some p → p < year9999

/-- A call appends one entry, which is later than the last. -/
theorem later_of_call (hX : X.WritesSeconds) (hF : X.f64.Rewrites) {text text' : Text}
    {log : DIDLog} {last : DIDLogEntry} {p : ℤ} (h : Call X text text')
    (hlog : DIDLog.tryFromJsonl X.toCrates text = .ok log)
    (hlast : log.entries.getLast? = some last)
    (hp : X.parseRfc3339 last.versionTime = some p) :
    ∃ e, DIDLog.tryFromJsonl X.toCrates text' = .ok ⟨log.entries ++ [e]⟩ ∧ Later X last e := by
  obtain ⟨env, hclock, hupdates, hyears⟩ := h
  obtain ⟨newLine, log', last', hbuilds, hleft⟩ := hupdates.exists_builds
  obtain rfl := Except.ok.inj (hlog.symm.trans hbuilds.read)
  obtain rfl := Option.some.inj (hlast.symm.trans hbuilds.getLast)
  obtain ⟨tick, parameters, document, n, signer, hparameters, hdocument, rfl⟩ := hbuilds.line
  obtain ⟨r, hr⟩ := exists_readsAs hF
  obtain ⟨hnewline, hparses⟩ := parsesTo_buildEntry hparameters hdocument (hr _ _ hdocument)
    last.versionId (X.rfc3339Secs (nextInstant (env.clock tick) (X.parseRfc3339 last.versionTime)))
    n signer
  refine ⟨_, tryFromJsonl_leftOf hlog hnewline hparses hleft, ?_⟩
  -- The time that is read back is the one that was written.
  obtain ⟨t, ht, -, hlt, -⟩ := parse_nextInstant hX (hclock tick).1 (hclock tick).2
    (hyears log last p hlog hlast hp)
  exact ⟨p, t, hp, hp ▸ ht, hlt⟩

/-- The entries that a chain of calls appends are later one than the other. -/
theorem later_of_calls (hX : X.WritesSeconds) (hF : X.f64.Rewrites) {text text' : Text}
    {log : DIDLog} {last : DIDLogEntry} {p : ℤ}
    (hlog : DIDLog.tryFromJsonl X.toCrates text = .ok log)
    (hlast : log.entries.getLast? = some last)
    (hp : X.parseRfc3339 last.versionTime = some p)
    (hcalls : Relation.ReflTransGen (Call X) text text') :
    ∃ appended newest q,
      DIDLog.tryFromJsonl X.toCrates text' = .ok ⟨log.entries ++ appended⟩ ∧
      (last :: appended).IsChain (Later X) ∧ (last :: appended).getLast? = some newest ∧
      X.parseRfc3339 newest.versionTime = some q := by
  induction hcalls with
  | refl => exact ⟨[], last, p, by simpa using hlog, List.isChain_singleton _, rfl, hp⟩
  | tail _ hcall ih =>
    obtain ⟨appended, newest, q, hread, hchain, hnewest, hq⟩ := ih
    -- The newest entry ends the log that the call reads.
    have hgetLast : (log.entries ++ appended).getLast? = some newest := by
      cases appended with
      | nil => simpa [hlast] using hnewest
      | cons e l => simpa [List.getLast?_append] using hnewest
    obtain ⟨e, hread', hlater⟩ := later_of_call hX hF hcall hread hgetLast hq
    have hlater' := hlater
    obtain ⟨-, q', -, hq', -⟩ := hlater'
    refine ⟨appended ++ [e], e, q', by simpa using hread', ?_,
      List.getLast?_concat (l := last :: appended), hq'⟩
    rw [← List.cons_append, List.isChain_append]
    refine ⟨hchain, List.isChain_singleton _, fun x hx y hy => ?_⟩
    obtain rfl := Option.some.inj (hnewest.symm.trans hx)
    obtain rfl := Option.some.inj hy
    exact hlater

/-- What is written is a whole second later than the previous version and not ahead of the bounds;
what both commands write is such an update; and the entries that a chain of calls appends are later
one than the other. -/
theorem versionTimes_increase (hX : X.WritesSeconds) (hF : X.f64.Rewrites) :
    (∀ (ε : Type) (env : Env) (w : World) (prev : Text) (p : ℤ),
      X.parseRfc3339 prev = some p → p < year9999 →
      0 ≤ env.clock w.tick → env.clock w.tick < year9999 →
      ∃ text t, (computeVersionTime X env prev : Command World ε Text) w = (.ok text, w.ticked) ∧
        X.parseRfc3339 text = some t ∧ t % nanosPerSecond = 0 ∧ p < t ∧
        t ≤ max (env.clock w.tick - 5 * nanosPerSecond) (p + nanosPerSecond)) ∧
    (∀ (env : Env) (args : RotateArgs),
      WritesUpdate X env args.did args.input (Rotate.cmdRotate X env args)
        Rotate.Report.writtenTo) ∧
    (∀ (env : Env) (args : UpdateArgs),
      WritesUpdate X env args.did args.input (Deactivate.cmdDeactivate X env args)
        Deactivate.Report.writtenTo) ∧
    ∀ (text text' : Text) (log : DIDLog) (last : DIDLogEntry) (p : ℤ),
      DIDLog.tryFromJsonl X.toCrates text = .ok log → log.entries.getLast? = some last →
      X.parseRfc3339 last.versionTime = some p → Relation.ReflTransGen (Call X) text text' →
      ∃ appended, DIDLog.tryFromJsonl X.toCrates text' = .ok ⟨log.entries ++ appended⟩ ∧
        (last :: appended).IsChain (Later X) := by
  refine ⟨fun ε env w prev p hprev hp hnow hnow' =>
    instant_computeVersionTime hX hprev hp w hnow hnow', fun _ => Rotate.writesUpdate_cmdRotate,
    fun _ => Deactivate.writesUpdate_cmdDeactivate, ?_⟩
  intro text text' log last p hlog hlast hp hcalls
  obtain ⟨appended, -, -, hread, hchain, -⟩ := later_of_calls hX hF hlog hlast hp hcalls
  exact ⟨appended, hread, hchain⟩

/-! ## A sample chain -/

namespace Sample

/-- The text of an instant: that of a sample instant, or else its seconds since the year 0. -/
def writeInstant (t : ℤ) : Text :=
  (instants.lookup (t / nanosPerSecond)).getD
    ('s' :: Text.decimal ((t - yearZero) / nanosPerSecond).toNat)

/-- The instant of such a text. -/
def readInstant : Text → Option ℤ
  | 's' :: digits => some (yearZero + Nat.ofDigitChars 10 digits 0 * nanosPerSecond)
  | text => (instants.find? fun p => p.2 = text).map fun p => p.1 * nanosPerSecond

/-- The sample crates, which write and read every instant. -/
def timedCrates : ToolCrates :=
  { toolCrates with parseRfc3339 := readInstant, rfc3339Secs := writeInstant }

theorem writesSeconds_timedCrates : timedCrates.WritesSeconds := by
  have hinstants : ∀ p ∈ instants, readInstant p.2 = some (p.1 * nanosPerSecond) := by decide
  intro t hyear _
  show readInstant (writeInstant t) = _
  unfold writeInstant
  cases hlookup : instants.lookup (t / nanosPerSecond) with
  | some text =>
    obtain ⟨before, after, htable, -⟩ := List.lookup_eq_some_iff.mp hlookup
    have hmem : (t / nanosPerSecond, text) ∈ instants :=
      htable ▸ List.mem_append_right _ List.mem_cons_self
    rw [Option.getD_some, hinstants _ hmem]
    congr 1
    unfold nanosPerSecond
    dsimp only
    omega
  | none =>
    rw [Option.getD_none, readInstant, Text.ofDigitChars_decimal]
    congr 1
    unfold yearZero nanosPerSecond at hyear ⊢
    omega

theorem rewrites_timedCrates : timedCrates.f64.Rewrites := lawful_f64.rewrites

/-- An environment a day after the creation of the sample DID. -/
def timedEnv : Env := toolEnv (1735776000 + 5)

/-- The arguments of a deactivation. -/
def timedArgs : UpdateArgs where
  input := some logPath
  noPublish := true

/-- The deactivation of the sample DID, a day after its creation, appends a later entry. -/
theorem versionTimes_increase_created : ∃ text' appended,
    Updates timedCrates timedEnv createdText text' ∧
    DIDLog.tryFromJsonl timedCrates.toCrates text' = .ok ⟨createdLog.entries ++ appended⟩ ∧
    (createdEntry :: appended).IsChain (Later timedCrates) := by
  have hrun :
      (Deactivate.prepare timedCrates timedEnv timedArgs createdWorld).1.toOption.isSome := by
    decide +kernel
  obtain ⟨prepared, hprepared⟩ := Option.isSome_iff_exists.mp hrun
  have hprepare := Command.eq_ok_of_fst_eq (Except.toOption_eq_some_iff.mp hprepared)
  have hread : readLog timedEnv timedArgs.did timedArgs.input createdWorld =
      (.ok (createdText, some logPath, none), createdWorld.ticked) :=
    readLog_input_eq_ok_iff.mpr ⟨rfl, files_worldOf, rfl, rfl, rfl⟩
  have hupdates : Updates timedCrates timedEnv createdText (prepared.updatedLog timedCrates) :=
    .deactivate hread hprepare (.inl rfl)
  have hlog : DIDLog.tryFromJsonl timedCrates.toCrates createdText = .ok createdLog :=
    tryFromJsonl_createdText
  have htime : timedCrates.parseRfc3339 createdEntry.versionTime =
      some (1735689600 * nanosPerSecond) := by decide
  have hclock : ∀ n, timedEnv.clock n = 1735776005 * nanosPerSecond := fun _ => rfl
  -- The clock of the sample is a day after the entry's time.
  have hcall : Call timedCrates createdText (prepared.updatedLog timedCrates) := by
    refine ⟨timedEnv, fun n => hclock n ▸ by decide, hupdates, fun log last p hread hlast hp => ?_⟩
    obtain rfl := Except.ok.inj (hlog.symm.trans hread)
    obtain rfl := Option.some.inj hlast
    obtain rfl := Option.some.inj (htime.symm.trans hp)
    decide
  obtain ⟨appended, happended⟩ := (versionTimes_increase writesSeconds_timedCrates
    rewrites_timedCrates).2.2.2 createdText _ createdLog createdEntry _ hlog rfl htime
      (.single hcall)
  exact ⟨_, appended, hupdates, happended⟩

end Sample

end Swiyu
