import Swiyu.Didtool.KeyStore.Atomic

/-!
# Isolation of the entries

The directory of an entry is named by 48 bits of a hash, which DIDs may share. Looking up a DID and
committing keys check whose directory it is; removing an entry, asking whether it exists and adding
a snapshot do not. A run in which these calls find the DID's own `did.txt`, or no directory, keeps
the entries of different DIDs apart.

## Main definitions

- `Swiyu.KeyStore.Call`, `Swiyu.KeyStore.Run`: calls on the key store, one after the other.
- `Swiyu.KeyStore.Ledger`: whose keys a directory holds, and which DIDs are committed.
- `Swiyu.KeyStore.Step.Isolated`: a call has nothing to do with the keys of another DID.
- `Swiyu.KeyStore.Step.Guarded`: the directory that a call finds is that of its DID.

## Main results

- `Swiyu.KeyStore.triple_perform`: what a call does to the directories.
- `Swiyu.KeyStore.isolated_of_guarded`: runs of guarded calls keep DIDs apart.
-/

namespace Swiyu

variable {X : ToolCrates} {env : Env} {hash : Text} {w w' : World}

/-! ## The record of the DID -/

/-- The text of the `did.txt` of an entry. -/
def World.didTxt (w : World) (hash : Text) : Option Text :=
  (w.keyStore.get hash).bind EntryDir.didTxt

/-- The directories of all other entries are the same. -/
def OnlyDir (hash : Text) (w w' : World) : Prop :=
  ∀ other, other ≠ hash → w'.keyStore.get other = w.keyStore.get other

theorem OnlyDir.trans {w'' : World} (h : OnlyDir hash w w') (h' : OnlyDir hash w' w'') :
    OnlyDir hash w w'' :=
  fun other hne => (h' other hne).trans (h other hne)

theorem OnlyDir.of_eq (h : w'.keyStore = w.keyStore) : OnlyDir hash w w' :=
  fun _ _ => by rw [h]

theorem OnlyDir.of_insert {dir : EntryDir} (h : w'.keyStore = w.keyStore.insert hash dir) :
    OnlyDir hash w w' := by
  intro other hne
  rw [h, OrdMap.get_insert, if_neg hne]

theorem World.didTxt_of_insert {dir : EntryDir} (h : w'.keyStore = w.keyStore.insert hash dir) :
    w'.didTxt hash = dir.didTxt := by
  rw [World.didTxt, h, OrdMap.get_insert, if_pos rfl, Option.bind_some]

/-- Six files are written after the directory. -/
theorem triple_writeKeys_tick {snapshot : Text} {staged : StagedKeys} :
    (writeKeys X env hash snapshot staged).Triple w (fun _ w' => w'.tick = w.tick + 7)
      fun _ => True := by
  -- Each file takes one tick.
  have hpems : ∀ (files : List KeyFile) (w : World), (writePems env hash snapshot files).Triple w
      (fun _ w' => w'.tick = w.tick + files.length) fun _ => True := by
    intro files
    induction files with
    | nil => exact fun w => .pure rfl
    | cons file files ih =>
      intro w
      refine .bind (Q := fun _ w' => w'.tick = w.tick + 1) ?_ fun _ w' hw' => (ih w').mono ?_ ?_
      · refine .bind (Q := fun _ w' => w' = w) (.ofExcept (fun _ _ => rfl) fun _ _ => trivial) ?_
        intro pem w₁ hw₁
        subst hw₁
        refine .mapError (Os.triple_writing.mono (fun _ w' h => ?_) fun _ _ => trivial)
        rw [h.1]
        rfl
      · intro _ w'' hw''
        rw [hw'', hw', List.length_cons, Nat.add_assoc, Nat.add_comm 1]
      · exact fun _ _ => trivial
  rw [writeKeys_eq]
  refine .bind (Q := fun _ w' => w'.tick = w.tick + 1) ?_ fun _ w' hw' => (hpems _ w').mono ?_ ?_
  · refine .mapError (Os.triple_writing.mono (fun _ w' h => ?_) fun _ _ => trivial)
    rw [h.1]
    rfl
  · intro _ w'' hw''
    rw [hw'', hw', Nat.add_assoc]
    rfl
  · exact fun _ _ => trivial

/-! ## Calls -/

namespace KeyStore

/-- A call for a DID. -/
inductive Call
  | commit (staged : StagedKeys)
  | lookup
  | addVersion (staged : StagedKeys)
  | remove
  | exists

/-- What a call returns. -/
inductive Answer
  | done
  | found (entry : Option KeyStoreEntry)
  | present (b : Bool)

/-- The call checks whose directory it is. -/
def Call.Checks : Call → Prop
  | commit _ => True
  | lookup => True
  | _ => False

/-- The call commits keys. -/
def Call.Commits : Call → Prop
  | commit _ => True
  | _ => False

theorem Call.Commits.exists_eq {call : Call} (h : call.Commits) :
    ∃ staged, call = commit staged := by
  cases call with
  | commit staged => exact ⟨staged, rfl⟩
  | _ => exact h.elim

variable (X env) in
/-- Makes a call for a DID. -/
def Call.perform (did : DID) : Call → KeyStoreCommand Answer
  | commit staged => do return .found (some (← KeyStore.commit X env staged did))
  | lookup => do return .found (← KeyStore.lookup X env did)
  | addVersion staged => do
    let _ ← (entryOf X did).addVersion X env staged
    return .done
  | remove => do
    KeyStore.remove X env did
    return .done
  | «exists» => do return .present (← KeyStore.exists X did)

/-- What a call may do to the directory `hash`: leave all others as they are, and put a text into
`did.txt` only if the directory is new and the text is one of `fresh`. A call that checks whose
directory it is changes nothing in one that is there. -/
structure Effect (hash : Text) (checks : Prop) (fresh : Set Text) (w w' : World) : Prop where
  only : OnlyDir hash w w'
  didTxt (t : Text) : w'.didTxt hash = some t →
    w.didTxt hash = some t ∨ w.keyStore.get hash = none ∧ t ∈ fresh
  kept : checks → w.keyStore.get hash ≠ none → w'.keyStore = w.keyStore

theorem Effect.of_eq {checks : Prop} {fresh : Set Text} (h : w'.keyStore = w.keyStore) :
    Effect hash checks fresh w w' :=
  ⟨.of_eq h, fun t ht => .inl (by rwa [World.didTxt, ← h]), fun _ _ => h⟩

variable {did : DID}

variable (X env) in
/-- What the write of a `did.txt` that fails may leave in it. -/
def leftTexts (did : DID) (w : World) : Set Text :=
  { t | ∃ f, env.fault (w.tick + 7) (.writeKeyStore (didToHash X did.toText)) = some f ∧
    f.leaves = some t }

/-- A commit records the DID in a new directory; one that fails may leave other texts there. -/
theorem effect_commit {staged : StagedKeys} : (KeyStore.commit X env staged did).Triple w
    (fun entry w' => entry = entryOf X did ∧ w.keyStore.get (didToHash X did.toText) = none ∧
      w'.didTxt (didToHash X did.toText) = some did.toText ∧
      Effect (didToHash X did.toText) True {did.toText} w w')
    fun w' => Effect (didToHash X did.toText) True (leftTexts X env did w) w w' := by
  unfold KeyStore.commit leftTexts entryOf
  dsimp only
  generalize didToHash X did.toText = hash
  refine .bind (Q := fun present w' => present = (w.keyStore.get hash).isSome ∧ w' = w)
    (.read ⟨rfl, rfl⟩) ?_
  rintro present w₀ ⟨hpresent, hw₀⟩
  subst hpresent hw₀
  refine .ite (fun _ => .fail (.of_eq rfl)) fun hnone => ?_
  have hnone : w₀.keyStore.get hash = none := by simpa using hnone
  -- The directory was not there, so that each `did.txt` found in it later is fresh.
  have hdir : entryDir w₀ hash = {} := by
    rw [entryDir, hnone]
    rfl
  have heffect {w' : World} {fresh : Set Text} (honly : OnlyDir hash w₀ w')
      (hfresh : ∀ t, w'.didTxt hash = some t → t ∈ fresh) : Effect hash True fresh w₀ w' :=
    ⟨honly, fun t ht => .inr ⟨hnone, hfresh t ht⟩, fun _ h => absurd hnone h⟩
  -- Whatever is written to `did.txt` is what the directory records.
  have hput (w₁ : World) (text : Text) (honly : OnlyDir hash w₀ w₁) :
      OnlyDir hash w₀ (Os.putDidTxt hash text w₁.ticked) ∧
        (Os.putDidTxt hash text w₁.ticked).didTxt hash = some text := by
    have hinsert : (Os.putDidTxt hash text w₁.ticked).keyStore =
        w₁.keyStore.insert hash { entryDir w₁ hash with didTxt := some text } := rfl
    exact ⟨honly.trans (.of_insert hinsert), World.didTxt_of_insert hinsert⟩
  -- The directory is new, and has no `did.txt` until the keys are there.
  refine .bind (Q := fun _ w₁ => w₁.tick = w₀.tick + 7 ∧ OnlyDir hash w₀ w₁ ∧
    w₁.didTxt hash = none) ⟨fun a w₁ h => ?_, fun e w₁ h => ?_⟩ ?_
  · obtain ⟨-, hkeyStore, -⟩ := triple_writeKeys.1 a w₁ h
    refine ⟨triple_writeKeys_tick.1 a w₁ h, .of_insert hkeyStore, ?_⟩
    rw [World.didTxt_of_insert hkeyStore, hdir]
    rfl
  · have hnew {dir : EntryDir} {fresh : Set Text}
        (hkeyStore : w₁.keyStore = w₀.keyStore.insert hash dir) (htxt : dir.didTxt = none) :
        Effect hash True fresh w₀ w₁ := by
      refine heffect (.of_insert hkeyStore) fun t ht => ?_
      rw [World.didTxt_of_insert hkeyStore, htxt] at ht
      cases ht
    -- The keys cannot be written, and the directory is left without a `did.txt`.
    rcases triple_writeKeys.2 e w₁ h with ⟨f, -, hkeyStore⟩ | ⟨-, hkeyStore⟩
    · split_ifs at hkeyStore
      · exact .of_eq hkeyStore
      · exact hnew hkeyStore (by rw [hdir])
    · exact hnew hkeyStore (by rw [hdir]; rfl)
  · rintro _ w₁ ⟨htick, honly, htxt⟩
    refine .bind (Q := fun _ w' => OnlyDir hash w₀ w' ∧ w'.didTxt hash = some did.toText)
      (.mapError (Os.triple_writing.mono ?_ ?_)) ?_
    · rintro _ w' ⟨hw', _⟩
      rw [hw']
      exact hput w₁ did.toText honly
    · -- The `did.txt` cannot be written, and has what the fault leaves in it.
      rintro w' ⟨f, hfault, hw'⟩
      rw [htick] at hfault
      subst hw'
      cases hleaves : f.leaves with
      | none => exact heffect honly fun t ht => by cases htxt.symm.trans ht
      | some text =>
        obtain ⟨honly', htxt'⟩ := hput w₁ text honly
        refine heffect honly' fun t ht => ⟨f, hfault, ?_⟩
        rw [hleaves, ← htxt']
        exact ht
    · rintro _ w' ⟨honly', htxt'⟩
      refine .pure ⟨rfl, hnone, htxt', heffect honly' fun t ht => ?_⟩
      exact Option.some.inj (ht.symm.trans htxt')

theorem Effect.mono {checks : Prop} {fresh fresh' : Set Text} (h : Effect hash checks fresh w w')
    (hfresh : fresh ⊆ fresh') : Effect hash checks fresh' w w' :=
  ⟨h.only, fun t ht => (h.didTxt t ht).imp_right fun h => ⟨h.1, hfresh h.2⟩, h.kept⟩

/-- The addition of a snapshot leaves `did.txt` as it is. -/
theorem effect_addVersion {staged : StagedKeys} :
    ((entryOf X did).addVersion X env staged).Triple w
      (fun _ w' => Effect (didToHash X did.toText) False ∅ w w')
      fun w' => Effect (didToHash X did.toText) False ∅ w w' := by
  have hhash : (entryOf X did).hash = didToHash X did.toText := rfl
  have heffect {w' : World} {dir : EntryDir} {snapshot : Text} {files : List (Text × Text)}
      (hdir : w.keyStore.get (didToHash X did.toText) = some dir)
      (h : w'.keyStore = w.keyStore.insert (didToHash X did.toText)
        (dir.withFiles snapshot files)) : Effect (didToHash X did.toText) False ∅ w w' := by
    refine ⟨.of_insert h, fun t ht => .inl ?_, False.elim⟩
    rw [World.didTxt_of_insert h, EntryDir.didTxt_withFiles] at ht
    rw [World.didTxt, hdir, Option.bind_some, ht]
  refine ⟨fun n w' h => ?_, fun e w' h => ?_⟩
  · simp only [KeyStoreEntry.addVersion, Command.bind_eq_ok_iff,
      KeyStoreEntry.latestVersion_eq_ok_iff, Command.pure_eq_ok_iff] at h
    obtain ⟨m, _, ⟨-, hlatest, rfl⟩, _, _, hkeys, -, rfl⟩ := h
    obtain ⟨dir, hdir, -⟩ := Option.bind_eq_some_iff.mp hlatest
    obtain ⟨-, hkeyStore, -⟩ := triple_writeKeys.1 _ _ hkeys
    rw [entryDir, World.keyStore_ticked, hdir, Option.getD_some] at hkeyStore
    exact heffect hdir hkeyStore
  · rcases KeyStoreEntry.triple_addVersion.2 e w' h with
      ⟨hsame, -⟩ | ⟨dir, m, -, -, hdir, -, hkeyStore⟩
    · exact .of_eq hsame
    · exact heffect hdir hkeyStore

/-- A removal that succeeds leaves no directory; one that fails may leave some of its files. -/
theorem effect_remove : (KeyStore.remove X env did).Triple w
    (fun _ w' => w'.keyStore.get (didToHash X did.toText) = none ∧
      Effect (didToHash X did.toText) False ∅ w w')
    fun w' => Effect (didToHash X did.toText) False ∅ w w' := by
  unfold KeyStore.remove
  dsimp only
  generalize didToHash X did.toText = hash
  refine .bind (Q := fun present w' => present = (w.keyStore.get hash).isSome ∧ w' = w)
    (.read ⟨rfl, rfl⟩) ?_
  rintro present w₀ ⟨hpresent, hw₀⟩
  subst hpresent hw₀
  refine .ite (fun _ => .fail (.of_eq rfl)) fun hsome => ?_
  obtain ⟨dir, hdir⟩ : ∃ dir, w₀.keyStore.get hash = some dir := by
    rw [Bool.not_eq_false] at hsome
    exact Option.isSome_iff_exists.mp hsome
  refine .mapError (Os.triple_writing.mono ?_ ?_)
  · -- The directory is gone, and the others are as they were.
    rintro _ w' ⟨hw', _⟩
    have hget (other : Text) : w'.keyStore.get other =
        if other = hash then none else w₀.keyStore.get other := by
      rw [hw']
      show (w₀.keyStore.erase hash).get other = _
      rw [OrdMap.Entries.get_erase]
      split_ifs <;> rfl
    refine ⟨by rw [hget, if_pos rfl], fun other hne => by rw [hget, if_neg hne], fun t ht => ?_,
      False.elim⟩
    rw [World.didTxt, hget, if_pos rfl] at ht
    cases ht
  · rintro w' ⟨f, _, hw'⟩
    subst hw'
    -- The fault says which files remain, if the removal has begun at all.
    cases f.leaves with
    | none => exact .of_eq rfl
    | some listing =>
      have hinsert : (Os.updateDir hash (EntryDir.remaining (Text.split '\n' listing))
          w₀.ticked).keyStore = w₀.keyStore.insert hash
            ((entryDir w₀ hash).remaining (Text.split '\n' listing)) := rfl
      refine ⟨.of_insert hinsert, fun t ht => .inl ?_, False.elim⟩
      -- What is left of the directory has its `did.txt` or none.
      have htxt := (World.didTxt_of_insert hinsert).symm.trans ht
      rw [entryDir, hdir, Option.getD_some] at htxt
      unfold EntryDir.remaining at htxt
      dsimp only at htxt
      split_ifs at htxt
      rw [World.didTxt, hdir, Option.bind_some, htxt]

variable (X) in
/-- What a call that succeeds has done. -/
structure Succeeds (did : DID) (call : Call) (answer : Answer) (w w' : World) : Prop where
  effect : Effect (didToHash X did.toText) call.Checks { t | call.Commits ∧ t = did.toText } w w'
  removed : call = .remove → w'.keyStore.get (didToHash X did.toText) = none
  /-- An entry is returned that is new, or that records the DID. -/
  found (entry : KeyStoreEntry) : answer = .found (some entry) →
    entry = entryOf X did ∧ w'.keyStore.get (didToHash X did.toText) ≠ none ∧
      (w.keyStore.get (didToHash X did.toText) = none ∨
        ∃ t, w.didTxt (didToHash X did.toText) = some t ∧ Text.trim t = did.toText)
  present : answer = .present true →
    call = .exists ∧ w.keyStore.get (didToHash X did.toText) ≠ none

/-- What a call does to the directories, whether it succeeds or not. -/
theorem triple_perform (call : Call) : (call.perform X env did).Triple w
    (fun answer w' => Succeeds X did call answer w w')
    fun w' => Effect (didToHash X did.toText) call.Checks
      { t | call.Commits ∧ t ∈ leftTexts X env did w } w w' := by
  -- Each call has its own lemma; what is left to say is what it answers.
  cases call with
  | commit staged =>
    refine .bind (effect_commit.mono (fun _ _ h => h) ?_) ?_
    · intro w' heffect
      exact heffect.mono fun t ht => ⟨trivial, ht⟩
    · rintro entry w' ⟨hentry, hnone, htxt, heffect⟩
      refine .pure
        { effect := heffect.mono fun t ht => ⟨trivial, ht⟩
          removed := fun h => by cases h
          found := fun entry' h => ?_
          present := fun h => by cases h }
      cases h
      refine ⟨hentry, fun hget => ?_, .inl hnone⟩
      rw [World.didTxt, hget] at htxt
      cases htxt
  | lookup =>
    -- A lookup reads only, and answers with an entry when the directory records the DID.
    have hkeeps : (KeyStore.lookup X env did).Keeps World.keyStore :=
      .bind .read fun _ => .ite .pure <|
        .bind (.mapError (Os.keeps_reading fun _ => rfl)) fun _ => .ite .fail .pure
    refine .bind (Q := fun entry w' => w'.keyStore = w.keyStore ∧ ∀ e, entry = some e →
      e = entryOf X did ∧ ∃ t, w.didTxt (didToHash X did.toText) = some t ∧
        Text.trim t = did.toText) ⟨fun entry w' h => ⟨hkeeps.eq h, fun e he => ?_⟩,
        fun e w' h => .of_eq (hkeeps.eq h)⟩ ?_
    · subst he
      obtain ⟨-, ⟨dir, stored, hdir, hstored, htext⟩, hentry, -⟩ :=
        KeyStore.lookup_eq_ok_some_iff.mp h
      refine ⟨hentry, stored, ?_, htext⟩
      rw [World.didTxt, hdir, Option.bind_some, hstored]
    · rintro entry w' ⟨hkeyStore, hentry⟩
      refine .pure
        { effect := .of_eq hkeyStore
          removed := fun h => by cases h
          found := fun e h => ?_
          present := fun h => by cases h }
      cases h
      obtain ⟨he, t, htxt, htext⟩ := hentry e rfl
      refine ⟨he, fun hget => ?_, .inr ⟨t, htxt, htext⟩⟩
      rw [World.didTxt, ← hkeyStore, hget] at htxt
      cases htxt
  | addVersion staged =>
    refine .bind (effect_addVersion.mono (fun _ _ h => h) fun w' h =>
        h.mono (Set.empty_subset _)) fun _ w' h => .pure
      { effect := h.mono (Set.empty_subset _)
        removed := fun h => by cases h
        found := fun e h => by cases h
        present := fun h => by cases h }
  | remove =>
    refine .bind (effect_remove.mono (fun _ _ h => h) fun w' h =>
        h.mono (Set.empty_subset _)) fun _ w' h => .pure
      { effect := h.2.mono (Set.empty_subset _)
        removed := fun _ => h.1
        found := fun e h => by cases h
        present := fun h => by cases h }
  | «exists» =>
    refine .bind (Q := fun present w' =>
      present = (w.keyStore.get (didToHash X did.toText)).isSome ∧ w' = w) (.read ⟨rfl, rfl⟩) ?_
    rintro present w' ⟨hpresent, hw'⟩
    subst hpresent hw'
    refine .pure
      { effect := .of_eq rfl
        removed := fun h => by cases h
        found := fun e h => by cases h
        present := fun h => ⟨rfl, ?_⟩ }
    rw [Answer.present.injEq] at h
    exact Option.isSome_iff_ne_none.mp h

/-! ## Runs -/

/-- Whose keys are where: the DID whose commit has made a directory, and the DIDs that are committed
and have not been removed since. -/
structure Ledger where
  holder : Text → Option Text
  committed : Set Text

/-- A call, in the world that it finds and with what is known of the run before. -/
structure Step where
  env : Env
  did : DID
  call : Call
  start : World
  ledger : Ledger

namespace Step

variable (X) (step : Step)

/-- The name of the directory. -/
def dirName : Text := didToHash X step.did.toText

/-- What the call returns. -/
def result : Except KeyStoreError Answer := (step.call.perform X step.env step.did step.start).1

/-- The world after the call. -/
def finish : World := (step.call.perform X step.env step.did step.start).2

/-- The DIDs that are committed after the call. -/
def committed : Set Text :=
  match step.call with
  | .commit _ =>
    { t | t ∈ step.ledger.committed ∨ t = step.did.toText ∧ ∃ a, step.result X = .ok a }
  | .remove =>
    { t | t ∈ step.ledger.committed ∧ ¬ (t = step.did.toText ∧ ∃ a, step.result X = .ok a) }
  | _ => step.ledger.committed

/-- What is known after the call. A directory that is new belongs to the DID of the call. -/
def next : Ledger where
  holder hash :=
    if (step.finish X).keyStore.get hash = none then none
    else if step.start.keyStore.get hash = none then some step.did.toText
    else step.ledger.holder hash
  committed := step.committed X

/-- The call has nothing to do with the keys of other DIDs: it leaves their directories as they are,
returns none of their entries, and reports no presence of a DID that is not committed. -/
structure Isolated : Prop where
  others (hash holder : Text) : step.ledger.holder hash = some holder → holder ≠ step.did.toText →
    (step.finish X).keyStore.get hash = step.start.keyStore.get hash
  found (entry : KeyStoreEntry) : step.result X = .ok (.found (some entry)) →
    (step.next X).holder entry.hash = some step.did.toText
  present : step.result X = .ok (.present true) → step.did.toText ∈ step.ledger.committed

/-- The texts that a commit may leave in a `did.txt` are taken for no other DID with the same hash,
and those that a fault leaves for no DID at all. -/
def Unambiguous : Prop :=
  ∀ other : DID, didToHash X other.toText = step.dirName X →
    (Text.trim step.did.toText = other.toText → other.toText = step.did.toText) ∧
    ∀ t ∈ leftTexts X step.env step.did step.start, Text.trim t ≠ other.toText

/-- The directory that the call finds records the DID of the call, unless the call checks that. -/
def Guarded : Prop :=
  match step.call with
  | .commit _ => step.start.keyStore.get (step.dirName X) = none → step.Unambiguous X
  | .lookup => True
  | _ => step.start.keyStore.get (step.dirName X) ≠ none →
      ∃ t, step.start.didTxt (step.dirName X) = some t ∧ Text.trim t = step.did.toText

end Step

variable (X) in
/-- Calls one after the other, from an empty key store on. Other parts of the world may change in
between. -/
inductive Run : List Step → World → Ledger → Prop
  | start {w : World} : w.keyStore = ∅ → Run [] w ⟨fun _ => none, ∅⟩
  | step {steps : List Step} {w : World} {step : Step} : Run steps w step.ledger →
      step.start.keyStore = w.keyStore → Run (steps ++ [step]) (step.finish X) (step.next X)

variable (X) in
/-- The ledger matches the directories: those that are there have a holder, and those that record a
DID are held by it, which is committed. -/
structure Ledger.Matches (ledger : Ledger) (w : World) : Prop where
  holder (hash : Text) : ledger.holder hash = none ↔ w.keyStore.get hash = none
  recorded (did : DID) (t : Text) : w.didTxt (didToHash X did.toText) = some t →
    Text.trim t = did.toText →
      ledger.holder (didToHash X did.toText) = some did.toText ∧ did.toText ∈ ledger.committed

namespace Step

variable {step : Step}

/-- DIDs stay committed, but for one that is removed. -/
theorem mem_committed {t : Text} (h : t ∈ step.ledger.committed)
    (hremove : step.call = .remove → (∃ a, step.result X = .ok a) → t ≠ step.did.toText) :
    t ∈ step.committed X := by
  unfold committed
  split
  · exact .inl h
  · exact ⟨h, fun hremoved => hremove ‹_› hremoved.2 hremoved.1⟩
  · exact h

/-- The effect of a guarded call: a text that is new in `did.txt` records no other DID than that of
the call, which is then committed. -/
theorem exists_effect (hguarded : step.Guarded X) :
    ∃ fresh, Effect (step.dirName X) step.call.Checks fresh step.start (step.finish X) ∧
      (step.start.keyStore.get (step.dirName X) = none → ∀ (other : DID), ∀ t ∈ fresh,
        Text.trim t = other.toText → didToHash X other.toText = step.dirName X →
          other.toText = step.did.toText ∧ step.did.toText ∈ step.committed X) := by
  -- A call that commits into a new directory is guarded against other DIDs of the same hash.
  have hunambiguous (hcommits : step.call.Commits)
      (hnone : step.start.keyStore.get (step.dirName X) = none) : step.Unambiguous X := by
    obtain ⟨staged, hcall⟩ := hcommits.exists_eq
    unfold Guarded at hguarded
    rw [hcall] at hguarded
    exact hguarded hnone
  have hperform : (step.call.perform X step.env step.did).Triple step.start _ _ :=
    triple_perform step.call
  cases hresult : step.result X with
  | ok answer =>
    have hsucceeds := hperform.1 answer (step.finish X) (by rw [← hresult]; rfl)
    refine ⟨_, hsucceeds.effect, fun hnone other t ht htext hother => ?_⟩
    obtain ⟨hcommits, rfl⟩ := ht
    refine ⟨((hunambiguous hcommits hnone) other hother).1 htext, ?_⟩
    obtain ⟨staged, hcall⟩ := hcommits.exists_eq
    unfold committed
    rw [hcall]
    exact .inr ⟨rfl, answer, hresult⟩
  | error e =>
    refine ⟨_, hperform.2 e (step.finish X) (by rw [← hresult]; rfl),
      fun hnone other t ht htext hother => ?_⟩
    exact absurd htext (((hunambiguous ht.1 hnone) other hother).2 t ht.2)

/-- A removal that succeeds leaves no directory. -/
theorem get_of_removed (hcall : step.call = .remove) (hresult : ∃ a, step.result X = .ok a) :
    (step.finish X).keyStore.get (step.dirName X) = none := by
  obtain ⟨answer, hresult⟩ := hresult
  exact ((triple_perform step.call).1 answer (step.finish X) (by rw [← hresult]; rfl)).removed hcall

/-- Where a call does not check whose directory it is, a guarded one finds that of its DID. -/
theorem holder_of_guarded (hguarded : step.Guarded X) (hmatches : step.ledger.Matches X step.start)
    (hchecks : ¬ step.call.Checks) (hpresent : step.start.keyStore.get (step.dirName X) ≠ none) :
    step.ledger.holder (step.dirName X) = some step.did.toText ∧
      step.did.toText ∈ step.ledger.committed := by
  obtain ⟨t, htxt, htext⟩ : ∃ t, step.start.didTxt (step.dirName X) = some t ∧
      Text.trim t = step.did.toText := by
    unfold Guarded at hguarded
    split at hguarded
    · next hcall => exact absurd (by rw [hcall]; trivial) hchecks
    · next hcall => exact absurd (by rw [hcall]; trivial) hchecks
    · exact hguarded hpresent
  exact hmatches.recorded step.did t htxt htext

/-- A guarded call has nothing to do with the keys of other DIDs. -/
theorem isolated (hguarded : step.Guarded X) (hmatches : step.ledger.Matches X step.start) :
    step.Isolated X where
  others := by
    obtain ⟨fresh, heffect, -⟩ := exists_effect hguarded
    intro hash holder hholder hne
    -- Only the directory of the DID changes. If it had another holder, a call that checks keeps it,
    -- and one that does not is guarded.
    by_cases hhash : hash = step.dirName X
    · subst hhash
      have hpresent : step.start.keyStore.get (step.dirName X) ≠ none := fun hnone => by
        rw [(hmatches.holder _).mpr hnone] at hholder
        cases hholder
      by_cases hchecks : step.call.Checks
      · rw [heffect.kept hchecks hpresent]
      · obtain ⟨hown, -⟩ := holder_of_guarded hguarded hmatches hchecks hpresent
        exact absurd (Option.some.inj (hholder.symm.trans hown)) hne
    · exact heffect.only hash hhash
  found := by
    intro entry hresult
    obtain ⟨hentry, hpresent, hcases⟩ := ((triple_perform step.call).1 _ (step.finish X)
      (by rw [← hresult]; rfl)).found entry rfl
    subst hentry
    show ite ((step.finish X).keyStore.get (didToHash X step.did.toText) = none) _ _ = _
    rw [if_neg hpresent]
    -- Either the call has made the directory, or the `did.txt` in it names the DID.
    rcases hcases with hnone | ⟨t, htxt, htext⟩
    · exact if_pos hnone
    · rw [if_neg]
      · exact (hmatches.recorded step.did t htxt htext).1
      · intro (hnone : step.start.keyStore.get (didToHash X step.did.toText) = none)
        rw [World.didTxt, hnone] at htxt
        cases htxt
  present := by
    intro hresult
    obtain ⟨hcall, hpresent⟩ := ((triple_perform step.call).1 _ (step.finish X)
      (by rw [← hresult]; rfl)).present rfl
    refine (holder_of_guarded hguarded hmatches ?_ hpresent).2
    rw [hcall]
    exact False.elim

/-- The ledger matches the directories after a guarded call, too. -/
theorem matches_next (hguarded : step.Guarded X) (hmatches : step.ledger.Matches X step.start) :
    (step.next X).Matches X (step.finish X) where
  holder hash := by
    show ite _ _ _ = none ↔ _
    -- A directory keeps its holder for as long as it is there; one that is new belongs to the DID
    -- of the call.
    by_cases hfinish : (step.finish X).keyStore.get hash = none
    · rw [if_pos hfinish]
      exact iff_of_true rfl hfinish
    · rw [if_neg hfinish]
      refine iff_of_false (fun h => ?_) hfinish
      by_cases hstart : step.start.keyStore.get hash = none
      · rw [if_pos hstart] at h
        cases h
      · rw [if_neg hstart] at h
        exact hstart ((hmatches.holder hash).mp h)
  recorded other t htxt htext := by
    obtain ⟨fresh, heffect, hfresh⟩ := exists_effect hguarded
    have hfinish : (step.finish X).keyStore.get (didToHash X other.toText) ≠ none := fun hnone => by
      rw [World.didTxt, hnone] at htxt
      cases htxt
    show ite _ _ _ = _ ∧ other.toText ∈ step.committed X
    rw [if_neg hfinish]
    -- The record was there before the call, or the call has made it.
    have hold (hbefore : step.start.didTxt (didToHash X other.toText) = some t) :
        (if step.start.keyStore.get (didToHash X other.toText) = none then some step.did.toText
          else step.ledger.holder (didToHash X other.toText)) = some other.toText ∧
        other.toText ∈ step.committed X := by
      obtain ⟨hholder, hcommitted⟩ := hmatches.recorded other t hbefore htext
      refine ⟨?_, mem_committed hcommitted fun hcall hresult heq => hfinish ?_⟩
      · rw [if_neg, hholder]
        intro hnone
        rw [World.didTxt, hnone] at hbefore
        cases hbefore
      · rw [heq]
        exact get_of_removed hcall hresult
    -- Only the directory of the DID has changed.
    by_cases hhash : didToHash X other.toText = step.dirName X
    · rw [hhash] at htxt
      rcases heffect.didTxt t htxt with hbefore | ⟨hnone, ht⟩
      · rw [← hhash] at hbefore
        exact hold hbefore
      · obtain ⟨heq, hcommitted⟩ := hfresh hnone other t ht htext hhash
        rw [hhash, if_pos hnone, heq]
        exact ⟨rfl, hcommitted⟩
    · refine hold ?_
      rw [← htxt, World.didTxt, World.didTxt, heffect.only _ hhash]

end Step

/-- The key store is all that counts. -/
theorem Ledger.Matches.congr {ledger : Ledger} (h : ledger.Matches X w)
    (hw : w'.keyStore = w.keyStore) : ledger.Matches X w' := by
  refine ⟨fun hash => by rw [hw, h.holder], fun did t htxt => h.recorded did t ?_⟩
  rw [← htxt, World.didTxt, World.didTxt, hw]

/-- Guarded calls keep the ledger and the directories matched, and each has nothing to do with the
keys of other DIDs. -/
theorem isolated_of_guarded {steps : List Step} {ledger : Ledger} (h : Run X steps w ledger)
    (hguarded : ∀ step ∈ steps, step.Guarded X) : ∀ step ∈ steps, step.Isolated X := by
  suffices H : ledger.Matches X w ∧ ∀ step ∈ steps, step.Isolated X from H.2
  -- The induction is on the run: the ledger matches the directories before each call.
  induction h with
  | start hempty =>
    refine ⟨⟨fun hash => ?_, fun did t htxt => ?_⟩, by simp⟩
    · rw [hempty]
      exact iff_of_true rfl rfl
    · rw [World.didTxt, hempty] at htxt
      cases htxt
  | @step steps w step hrun hstart ih =>
    obtain ⟨hmatches, hisolated⟩ := ih fun s hs => hguarded s (List.mem_append_left _ hs)
    have hlast := hguarded step (List.mem_append_right _ (List.mem_singleton.mpr rfl))
    have hmatches := hmatches.congr hstart
    refine ⟨Step.matches_next hlast hmatches, fun s hs => ?_⟩
    rcases List.mem_append.mp hs with hs | hs
    · exact hisolated s hs
    · rw [List.mem_singleton.mp hs]
      exact Step.isolated hlast hmatches

end KeyStore

/-! ## Two DIDs of one hash -/

namespace Sample

open KeyStore

/-- A DID. -/
def twinDid : DID := ⟨.tdw, some "Qm", "f288aa.ch", none, by decide, DID.noPath_valid⟩

/-- Another one, whose hash starts with the same 48 bits. -/
def otherTwinDid : DID := ⟨.tdw, some "Qm", "1b216cf.ch", none, by decide, DID.noPath_valid⟩

/-- The sample crates with the hashes of the two. -/
def twinCrates : ToolCrates :=
  { toolCrates with
    blake3 := fun bytes =>
      if bytes = Text.utf8 otherTwinDid.toText then
        bytesOf 32 0x8989384aca8d904d8f9f24b5c1fe8015f3b0e21186dfd3ddd84cb489f5e54bbe
      else bytesOf 32 0x8989384aca8d941c9d31f2c2deeee0f17f0a9ff55d5b289d218e1979a48dcba5 }

/-- The keys of the first DID are committed. -/
def twinCommit : Step :=
  ⟨quietEnv, twinDid, .commit snapshotKeys, ⟨∅, ∅, [], 0⟩, ⟨fun _ => none, ∅⟩⟩

/-- A call for one of the DIDs after that. -/
def twinCall (did : DID) (call : Call) : Step :=
  ⟨quietEnv, did, call, twinCommit.finish twinCrates, twinCommit.next twinCrates⟩

theorem run_twinCall (did : DID) (call : Call) : Run twinCrates [twinCommit, twinCall did call]
    ((twinCall did call).finish twinCrates) ((twinCall did call).next twinCrates) := by
  have hstart : Run twinCrates [] ⟨∅, ∅, [], 0⟩ twinCommit.ledger := .start rfl
  have hcommit : Run twinCrates [twinCommit] (twinCommit.finish twinCrates)
      (twinCall did call).ledger := hstart.step rfl
  exact hcommit.step rfl

theorem guarded_twinCommit : twinCommit.Guarded twinCrates := by
  intro _ other _
  have htrim : Text.trim twinDid.toText = twinDid.toText := by decide +kernel
  refine ⟨fun h => h.symm.trans htrim, fun t ⟨f, hfault, _⟩ => ?_⟩
  cases hfault

/-- Looking up the other DID has nothing to do with the keys. -/
theorem isolated_twins : twinCommit.Isolated twinCrates ∧
    (twinCall otherTwinDid .lookup).Isolated twinCrates := by
  have hrun := isolated_of_guarded (run_twinCall otherTwinDid .lookup) (by
    intro step hstep
    rcases List.mem_cons.mp hstep with h | hstep
    · rw [h]
      exact guarded_twinCommit
    · rw [List.mem_singleton.mp hstep]
      trivial)
  exact ⟨hrun _ (by simp), hrun _ (by simp)⟩

/-- The removal of the other DID removes them. -/
theorem not_isolated_twins : ¬ ∀ steps w ledger, Run twinCrates steps w ledger →
    ∀ step ∈ steps, step.Isolated twinCrates := by
  intro h
  have hremove := h _ _ _ (run_twinCall otherTwinDid .remove) _
    (List.mem_cons_of_mem _ (List.mem_singleton.mpr rfl))
  have hholder : (twinCommit.next twinCrates).holder (didToHash twinCrates twinDid.toText) =
      some twinDid.toText := by decide +kernel
  have hfiles := hremove.others _ _ hholder (by decide +kernel)
  have hgone : ((twinCall otherTwinDid .remove).finish twinCrates).keyStore.get
        (didToHash twinCrates twinDid.toText) = none ∧
      ((twinCommit.finish twinCrates).keyStore.get
        (didToHash twinCrates twinDid.toText)).isSome := by decide +kernel
  have hthere : ((twinCommit.finish twinCrates).keyStore.get
      (didToHash twinCrates twinDid.toText)) = none := hfiles.symm.trans hgone.1
  rw [hthere] at hgone
  cases hgone.2

end Sample

end Swiyu
