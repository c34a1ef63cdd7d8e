import Swiyu.Core.DidLog.Authentic
import Swiyu.Didtool.Cmd.Http
import Swiyu.Didtool.Cmd.Resolve

/-!
# Loading logs

Commands that need a log fetch it for a DID or read it from a file, and verify it.
-/

namespace Swiyu

open Json

/-- Why a log cannot be loaded. -/
inductive LogError
  | ambiguousSource
  | readInput (path source : Text)
  | fetch (e : FetchError)
  | resolve (e : ResolveError)
  | logParse (e : DIDLogError)
  | verification (e : DIDLogVerifyError)
  deriving DecidableEq

/-- The message of an error. -/
def LogError.toText : LogError → Text
  | ambiguousSource => "--did and --input are mutually exclusive"
  | readInput path source => Text.lit "cannot read '" ++ path ++ "': " ++ source
  | fetch e => e.toText
  | resolve e => e.toText
  | logParse e => Text.lit "DID log parse error: " ++ e.toText
  | verification e => Text.lit "DID log failed verification: " ++ e.toText

/-- The file that is read when neither a DID nor a file is given. -/
def DEFAULT_INPUT : Text := "did.jsonl"

/-- A loaded log. -/
structure LoadedLog where
  /-- The lines of its text that are not blank. -/
  rawLines : List Text
  log : DIDLog
  /-- The file that it was read from; absent when it was fetched. -/
  sourcePath : Option Text
  deriving DecidableEq

/-- The subject of a document that is no patch. -/
def DIDDocState.subject : DIDDocState → Option Text
  | .value doc => (doc.get "id").bind Value.asStr
  | .patch _ => none

/-- The DID that a log announces, in the last entry that tells. -/
def currentDid (log : DIDLog) : Option Text :=
  log.entries.reverse.findSome? fun entry => entry.didDocState.subject

/-- The lines of a text that are not blank. -/
def collectRawLines (text : Text) : List Text :=
  (Text.lines text).filter fun line => Text.trim line ≠ []

variable (X : Crates) (env : Env)

/-- The DID that a log is verified against: the one asked for, or else the one that it announces. -/
def verificationTarget (log : DIDLog) : Option DID → Option DID
  | some did => some did
  | none => (currentDid log).bind fun s => (DID.fromStr s).toOption

/-- Verifies a loaded log, unless its first entry is not in the `did:tdw` 0.3 format or it does not
tell its DID. -/
def verifyLoadedLog (log : DIDLog) (targetDid : Option DID) : Except LogError Unit :=
  if log.entries.head?.any (fun entry => entry.format = .tdw03) = true then
    match verificationTarget log targetDid with
    | some did => (verifyLog X log did).mapError .verification
    | none => .ok ()
  else .ok ()

/-- The text of a fetched log; a missing log is an error. -/
def logOfOutcome (url : Text) : Except FetchError FetchOutcome → Except LogError Text
  | .ok (.ok text) => .ok text
  | .ok .notFound => .error (.fetch (.httpStatus url 404 []))
  | .error e => .error (.fetch e)

/-- Fetches the text of a log. -/
def fetchLog (url : Text) : Command World LogError Text := do
  let response ← Os.get env url
  Command.ofExcept (logOfOutcome url (fetchText url response))

/-- The text of a log, the file that it comes from and the DID that it has been fetched for. -/
def readLog (did input : Option Text) :
    Command World LogError (Text × Option Text × Option DID) :=
  match did with
  | some target => do
    let resolved ← (resolveDid env target).mapError .resolve
    let text ← fetchLog env resolved.logUrl
    return (text, none, some resolved)
  | none => do
    let path := input.getD DEFAULT_INPUT
    let text ← (Os.readToString env path).mapError (.readInput path)
    return (text, some path, none)

/-- Loads the log for a DID, or from a file. -/
def loadLog (did input : Option Text) : Command World LogError LoadedLog :=
  if did.isSome = true ∧ input.isSome = true then Command.fail .ambiguousSource
  else do
    let (text, sourcePath, targetDid) ← readLog env did input
    let rawLines := collectRawLines text
    let log ← Command.ofExcept ((DIDLog.tryFromJsonl X text).mapError .logParse)
    Command.ofExcept (verifyLoadedLog X log targetDid)
    return { rawLines, log, sourcePath }

/-! ## Success -/

variable {X env} {w w' : World}

theorem logOfOutcome_eq_ok_iff {url text : Text} {outcome : Except FetchError FetchOutcome} :
    logOfOutcome url outcome = .ok text ↔ outcome = .ok (.ok text) := by
  rcases outcome with _ | _ | _ <;> simp [logOfOutcome]

theorem fetchLog_eq_ok_iff {url text : Text} : fetchLog env url w = (.ok text, w') ↔
    fetchText url (env.server w.tick url) = .ok (.ok text) ∧ w.ticked = w' := by
  simp only [fetchLog, Command.bind_eq_ok_iff, Os.get_eq_ok_iff, Command.ofExcept_eq_ok_iff,
    logOfOutcome_eq_ok_iff]
  constructor
  · rintro ⟨_, _, ⟨rfl, rfl⟩, hfetch, rfl⟩
    exact ⟨hfetch, rfl⟩
  · rintro ⟨hfetch, rfl⟩
    exact ⟨_, _, ⟨rfl, rfl⟩, hfetch, rfl⟩

/-- A log that is read for a DID is served for it. -/
theorem readLog_target_eq_ok_iff {target text : Text} {input path : Option Text}
    {did : Option DID} :
    readLog env (some target) input w = (.ok (text, path, did), w') ↔
      ∃ resolved w₁, resolveDid env target w = (.ok resolved, w₁) ∧
        fetchText resolved.logUrl (env.server w₁.tick resolved.logUrl) = .ok (.ok text) ∧
        path = none ∧ did = some resolved ∧ w₁.ticked = w' := by
  simp only [readLog, Command.bind_eq_ok_iff, Command.mapError_eq_ok_iff, fetchLog_eq_ok_iff,
    Command.pure_eq_ok_iff, Prod.mk.injEq]
  constructor
  · rintro ⟨resolved, w₁, hresolve, text', w₂, ⟨hfetch, rfl⟩, ⟨rfl, rfl, rfl⟩, rfl⟩
    exact ⟨resolved, w₁, hresolve, hfetch, rfl, rfl, rfl⟩
  · rintro ⟨resolved, w₁, hresolve, hfetch, rfl, rfl, rfl⟩
    exact ⟨resolved, w₁, hresolve, text, _, ⟨hfetch, rfl⟩, ⟨rfl, rfl, rfl⟩, rfl⟩

/-- A log that is read from a file is what the file holds. -/
theorem readLog_input_eq_ok_iff {text : Text} {input path : Option Text} {did : Option DID} :
    readLog env none input w = (.ok (text, path, did), w') ↔
      env.fault w.tick (.readFile (input.getD DEFAULT_INPUT)) = none ∧
        w.files.get (input.getD DEFAULT_INPUT) = some text ∧
        path = some (input.getD DEFAULT_INPUT) ∧ did = none ∧ w.ticked = w' := by
  simp only [readLog, Command.bind_eq_ok_iff, Command.mapError_eq_ok_iff,
    Os.readToString_eq_ok_iff, Command.pure_eq_ok_iff, Prod.mk.injEq]
  constructor
  · rintro ⟨_, _, ⟨hfault, hfile, rfl⟩, ⟨rfl, rfl, rfl⟩, rfl⟩
    exact ⟨hfault, hfile, rfl, rfl, rfl⟩
  · rintro ⟨hfault, hfile, rfl, rfl, rfl⟩
    exact ⟨text, _, ⟨hfault, hfile, rfl⟩, ⟨rfl, rfl, rfl⟩, rfl⟩

theorem loadLog_eq_ok_iff {did input : Option Text} {loaded : LoadedLog} :
    loadLog X env did input w = (.ok loaded, w') ↔
      ¬ (did.isSome = true ∧ input.isSome = true) ∧ ∃ text targetDid,
        readLog env did input w = (.ok (text, loaded.sourcePath, targetDid), w') ∧
        DIDLog.tryFromJsonl X text = .ok loaded.log ∧
        verifyLoadedLog X loaded.log targetDid = .ok () ∧
        loaded.rawLines = collectRawLines text := by
  simp only [loadLog, Command.ite_fail_eq_ok_iff, Command.bind_eq_ok_iff,
    Command.ofExcept_eq_ok_iff, Except.mapError_eq_ok_iff, Command.pure_eq_ok_iff]
  refine and_congr_right fun _ => ⟨?_, ?_⟩
  · rintro ⟨⟨text, path, target⟩, _, hread, log, _, ⟨hlog, rfl⟩, _, _, ⟨hverify, rfl⟩, rfl, rfl⟩
    exact ⟨text, target, hread, hlog, hverify, rfl⟩
  · rintro ⟨text, target, hread, hlog, hverify, hlines⟩
    refine ⟨_, _, hread, _, _, ⟨hlog, rfl⟩, (), _, ⟨hverify, rfl⟩, ?_, rfl⟩
    cases loaded
    simp_all

/-- What is verified of a loaded log. -/
theorem verifyLoadedLog_eq_ok_iff {log : DIDLog} {target : Option DID} {u : Unit} :
    verifyLoadedLog X log target = .ok u ↔
      ((∃ e ∈ log.entries.head?, e.format = .tdw03) →
        ∀ did ∈ verificationTarget log target, verifyLog X log did = .ok ()) := by
  have hhead : log.entries.head?.any (fun entry => entry.format = .tdw03) = true ↔
      ∃ e ∈ log.entries.head?, e.format = .tdw03 := by
    cases log.entries.head? <;> simp
  cases u
  rw [verifyLoadedLog]
  by_cases hformat : ∃ e ∈ log.entries.head?, e.format = .tdw03
  · rw [if_pos (hhead.mpr hformat)]
    cases verificationTarget log target with
    | none => simp
    | some did =>
      rw [Except.mapError_eq_ok_iff]
      exact ⟨fun h _ _ hd => Option.mem_some_iff.mp hd ▸ h, fun h => h hformat did rfl⟩
  · rw [if_neg (fun h => hformat (hhead.mp h))]
    exact ⟨fun _ h => absurd h hformat, fun _ => rfl⟩

/-- A log that is accepted for a DID announces that DID. -/
theorem currentDid_of_verifyLog {log : DIDLog} {did : DID} (h : verifyLog X log did = .ok ()) :
    currentDid log = some did.toText := by
  obtain ⟨scid, -, hauth⟩ := verifyLog_eq_ok_iff_authentic.mp h
  have hsubject : ∀ e ∈ log.entries, e.didDocState.subject = some did.toText := by
    intro e he
    obtain ⟨doc, hdoc, hid⟩ := hauth.subject e he
    rw [hdoc, DIDDocState.subject, hid]
    rfl
  rw [currentDid]
  cases hentries : log.entries.reverse with
  | nil => exact absurd (List.reverse_eq_nil_iff.mp hentries) hauth.nonempty
  | cons e rest =>
    have hmem : e ∈ log.entries := List.mem_reverse.mp (hentries ▸ List.mem_cons_self)
    rw [List.findSome?_cons, hsubject e hmem]

/-- A log that is accepted for a DID is accepted when it is loaded from a file. -/
theorem verifyLoadedLog_of_verifyLog {log : DIDLog} {did : DID} (h : verifyLog X log did = .ok ())
    (hdid : DID.fromStr did.toText = .ok did) {target : Option DID}
    (htarget : ∀ d ∈ target, d = did) :
    verifyLoadedLog X log target = .ok () := by
  refine verifyLoadedLog_eq_ok_iff.mpr fun _ d hd => ?_
  suffices d = did by rw [this]; exact h
  cases target with
  | some d' =>
    obtain rfl := Option.some.inj hd
    exact htarget _ rfl
  | none =>
    rw [verificationTarget, currentDid_of_verifyLog h, Option.bind_some, hdid] at hd
    exact (Option.some.inj hd).symm

end Swiyu
