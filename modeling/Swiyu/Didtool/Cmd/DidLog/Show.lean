import Swiyu.Core.DidLog.Rewritten
import Swiyu.Didtool.Cmd.Did.Life
import Swiyu.Didtool.Cmd.DidLog.Target

/-!
# Showing logs

The `didlog` commands show a log that they have loaded: whole, or one entry of it, in the lines in
which it was received or indented. What is shown can be read again: a log that has been saved is
loaded as it was, and an entry that has been printed is read as the entry.

## Main definitions

- `Swiyu.Didlog.cmdShow`, `Swiyu.Didlog.cmdEntry`: the commands.
- `Swiyu.Didlog.resolveSelector`: the entry that a selector asks for.
- `Swiyu.Didlog.ShownAs`: what an entry is shown as.

## Main results

- `Swiyu.Didlog.renderShow_eq`: a whole log is shown as its entries are.
- `Swiyu.Didlog.loadLog_of_cmdShow`: a log that is saved is loaded as it was.
- `Swiyu.Didlog.shownAs_of_cmdEntry`: the entry that is selected is shown, and none beyond the end
  of the log is looked for.
-/

namespace Swiyu.Didlog

open Json

/-- Why a log is not shown. -/
inductive ShowError
  | ambiguousFormat
  | forceWithoutOut
  | fileExists (path : Text)
  | writeOutput (path source : Text)
  | writeStdout (source : Text)
  | load (e : LogError)
  | badSelector (s : Text)
  | indexOutOfRange (index total : ℕ)
  /-- A line is asked for that is not there: the tool panics. -/
  | panicked
  deriving DecidableEq

/-- The message of an error. -/
def ShowError.toText : ShowError → Text
  | ambiguousFormat => "--raw and --pretty are mutually exclusive"
  | forceWithoutOut => "--force is only meaningful with --out"
  | fileExists path => Text.lit "file '" ++ path ++ "' already exists; pass --force to overwrite"
  | writeOutput path source => Text.lit "cannot write '" ++ path ++ "': " ++ source
  | writeStdout source => Text.lit "write to stdout failed: " ++ source
  | load e => e.toText
  | badSelector s =>
    Text.lit "invalid --at selector '" ++ s ++ "': must be 'latest' or a positive integer"
  | indexOutOfRange index total =>
    Text.lit "no entry at index " ++ Text.decimal index ++ " (log has " ++ Text.decimal total ++
      " entries)"
  | panicked => "index out of bounds"

/-- Commands that show logs. They result in what they print; nothing when it goes to a file. -/
abbrev ShowCommand := Command World ShowError

/-! ## Selectors -/

/-- Which entry is to be shown. -/
inductive Selector
  | latest
  /-- Counted from 1. -/
  | index (n : ℕ)
  deriving DecidableEq

/-- `s.parse::<usize>()`. -/
def parseUsize (s : Text) : Option ℕ :=
  let digits := (Text.stripPrefix "+" s).getD s
  let n := Nat.ofDigitChars 10 digits 0
  if digits ≠ [] ∧ digits.all Char.isDigit = true ∧ n < 2 ^ 64 then some n else none

/-- Reads a selector: `latest`, or a positive integer. -/
def parseSelector (s : Text) : Except ShowError Selector :=
  if s = Text.lit "latest" then .ok .latest
  else
    match parseUsize s with
    | some n => if 1 ≤ n then .ok (.index n) else .error (.badSelector s)
    | none => .error (.badSelector s)

/-- The index of the selected entry, counted from 0. -/
def resolveSelector (selector : Selector) (log : DIDLog) : Except ShowError ℕ :=
  let total := log.entries.length
  match selector with
  | .latest => if total = 0 then .error (.indexOutOfRange 1 total) else .ok (total - 1)
  | .index n => if total < n then .error (.indexOutOfRange n total) else .ok (n - 1)

/-! ## Formats -/

/-- How entries are shown. -/
inductive Format
  /-- In the lines in which they were received. -/
  | raw
  /-- Indented, after a header. -/
  | pretty
  deriving DecidableEq

/-- The format that the flags ask for: by default a file gets the raw lines. -/
def Format.fromFlags (toFile raw pretty : Bool) : Format :=
  if raw = true then .raw
  else if pretty = true then .pretty
  else if toFile = true then .raw
  else .pretty

section

variable (X : Crates) (env : Env)

/-- The header of an indented entry. -/
def formatPrettyHeader (index : ℕ) (entry : DIDLogEntry) : Text :=
  Text.lit "# entry " ++ Text.decimal (index + 1) ++ " — " ++ entry.versionId

/-- An indented entry. -/
def prettyJson (entry : DIDLogEntry) : Text := entry.toJson.pretty X.f64

/-- An entry with its header. -/
def renderPretty (index : ℕ) (entry : DIDLogEntry) : Text :=
  formatPrettyHeader index entry ++ ['\n'] ++ prettyJson X entry ++ ['\n']

/-- A whole log. -/
def renderShow (loaded : LoadedLog) : Format → Text
  | .raw =>
    let s := Text.lit "\n" |>.intercalate loaded.rawLines
    if s = [] then s else s ++ ['\n']
  | .pretty => loaded.log.entries.zipIdx.flatMap fun e =>
    (if 0 < e.2 then ['\n'] else []) ++ renderPretty X e.2 e.1

/-- One entry; nothing when there is none. -/
def renderEntry (loaded : LoadedLog) (index : ℕ) : Format → Option Text
  | .raw => loaded.rawLines[index]?.map fun line => line ++ ['\n']
  | .pretty => loaded.log.entries[index]?.map fun entry => renderPretty X index entry

/-! ## The commands -/

/-- Writes to a file, or prints. -/
def writeBody (body : Text) (out : Option Text) (force : Bool) : ShowCommand (Option Text) :=
  match out with
  | some path => do
    let present ← Os.pathExists path
    if present = true ∧ force = false then Command.fail (.fileExists path)
    else do
      (Os.write env path body).mapError (.writeOutput path)
      return none
  | none => do
    (Os.writeStdout env).mapError .writeStdout
    return some body

/-- The arguments of `didlog show`. -/
structure ShowArgs where
  did : Option Text := none
  input : Option Text := none
  out : Option Text := none
  force : Bool := false
  raw : Bool := false
  pretty : Bool := false

/-- The format that is asked for. -/
def ShowArgs.format (args : ShowArgs) : Format :=
  .fromFlags args.out.isSome args.raw args.pretty

/-- Arguments that contradict each other. -/
def checkArgs (args : ShowArgs) : Except ShowError Unit :=
  if args.raw = true ∧ args.pretty = true then .error .ambiguousFormat
  else if args.force = true ∧ args.out = none then .error .forceWithoutOut
  else .ok ()

/-- Shows a whole log. -/
def cmdShow (args : ShowArgs) : ShowCommand (Option Text) := do
  Command.ofExcept (checkArgs args)
  let loaded ← (loadLog X env args.did args.input).mapError .load
  writeBody env (renderShow X loaded args.format) args.out args.force

/-- The arguments of `didlog entry`. -/
structure EntryArgs extends ShowArgs where
  at_ : Option Text := none

/-- Shows one entry of a log. -/
def cmdEntry (args : EntryArgs) : ShowCommand (Option Text) := do
  Command.ofExcept (checkArgs args.toShowArgs)
  let selector ← Command.ofExcept (parseSelector (args.at_.getD "latest"))
  let loaded ← (loadLog X env args.did args.input).mapError .load
  let index ← Command.ofExcept (resolveSelector selector loaded.log)
  let body ← Command.ofExcept ((renderEntry X loaded index args.format).okOr .panicked)
  writeBody env body args.out args.force

end

/-! ## A whole log -/

variable {X : Crates} {env : Env} {w w' : World} {did input : Option Text} {loaded : LoadedLog}
  {i : ℕ} {e : DIDLogEntry}

/-- A loaded log is read from the lines that are kept of it. -/
theorem exists_text_of_loadLog (h : loadLog X env did input w = (.ok loaded, w')) :
    ∃ text, loaded.rawLines = collectRawLines text ∧
      DIDLog.tryFromJsonl X text = .ok loaded.log := by
  obtain ⟨-, text, _, -, hlog, -, hlines⟩ := loadLog_eq_ok_iff.mp h
  exact ⟨text, hlines, hlog⟩

/-- Each entry of a loaded log is read from the line that is kept for it. -/
theorem forall₂_parsesTo (h : loadLog X env did input w = (.ok loaded, w')) :
    List.Forall₂ (fun line e => ParsesTo X (Text.trim line) e) loaded.rawLines
      loaded.log.entries := by
  obtain ⟨text, hlines, hlog⟩ := exists_text_of_loadLog h
  rw [hlines, ← List.forall₂_map_left_iff, map_trim_collectRawLines]
  exact tryFromJsonl_eq_ok_iff.mp hlog

/-- No line that is kept is blank, and none has a newline in it. -/
theorem line_of_loadLog (h : loadLog X env did input w = (.ok loaded, w')) {line : Text}
    (hline : line ∈ loaded.rawLines) : '\n' ∉ line ∧ Text.trim line ≠ [] := by
  obtain ⟨text, hlines, -⟩ := exists_text_of_loadLog h
  obtain ⟨hmem, hblank⟩ := mem_collectRawLines (hlines ▸ hline)
  exact ⟨Text.newline_notMem_of_mem_lines hmem, hblank⟩

/-- What is put between two entries of a whole log. -/
def Format.separator : Format → Text
  | .raw => []
  | .pretty => "\n"

/-- Joined parts are the first part and the others, each after the separator. -/
theorem intercalate_cons_eq (sep part : Text) (parts : List Text) :
    sep.intercalate (part :: parts) = part ++ parts.flatMap fun p => sep ++ p := by
  induction parts generalizing part with
  | nil => simp
  | cons p parts ih => rw [List.intercalate_cons_cons, ih, List.flatMap_cons, List.append_assoc,
      List.append_assoc]

/-- Lines that are each followed by a newline. -/
theorem renderShow_raw (h : ∀ line ∈ loaded.rawLines, line ≠ []) :
    renderShow X loaded .raw = loaded.rawLines.flatMap fun line => line ++ ['\n'] := by
  have hjoin : ∀ (line : Text) (lines : List Text),
      (Text.lit "\n").intercalate (line :: lines) ++ ['\n'] =
        (line :: lines).flatMap fun line => line ++ ['\n'] := by
    intro line lines
    induction lines generalizing line with
    | nil => simp
    | cons line' lines ih =>
      rw [List.intercalate_cons_cons, List.append_assoc, List.append_assoc, ih, List.flatMap_cons]
      simp [Text.lit]
  unfold renderShow
  dsimp only
  cases hlines : loaded.rawLines with
  | nil => rfl
  | cons line lines =>
    have hne : (Text.lit "\n").intercalate (line :: lines) ≠ [] := by
      rw [intercalate_cons_eq]
      exact List.append_ne_nil_of_left_ne_nil (h line (hlines ▸ List.mem_cons_self)) _
    rw [if_neg hne, hjoin]

/-- What is made of each element by its index. -/
theorem map_range_getElem? {α : Type} (l : List α) (f : ℕ → α → Text) :
    (List.range l.length).map (fun i => (l[i]?.map (f i)).getD []) =
      l.zipIdx.map fun e => f e.2 e.1 := by
  refine List.ext_getElem (by simp) fun i hi _ => ?_
  have hi' : i < l.length := by simpa using hi
  simp [hi']

/-- A whole log is shown as its entries are, one after the other. -/
theorem renderShow_eq (h : loadLog X env did input w = (.ok loaded, w')) (format : Format) :
    (∀ i < loaded.log.entries.length, (renderEntry X loaded i format).isSome) ∧
      renderShow X loaded format = format.separator.intercalate
        ((List.range loaded.log.entries.length).map fun i =>
          (renderEntry X loaded i format).getD []) := by
  -- There are as many lines as entries.
  have hlength := (forall₂_parsesTo h).length_eq
  cases format with
  | raw =>
    refine ⟨fun i hi => ?_, ?_⟩
    · rw [← hlength] at hi
      simp [renderEntry, hi]
    · have hline : ∀ line ∈ loaded.rawLines, line ≠ [] := by
        rintro line hmem rfl
        exact (line_of_loadLog h hmem).2 rfl
      rw [renderShow_raw hline, ← hlength]
      unfold renderEntry
      dsimp only
      rw [map_range_getElem? loaded.rawLines fun _ line => line ++ ['\n'], Format.separator]
      have hmap : loaded.rawLines.zipIdx.map (fun e => e.1 ++ ['\n']) =
          loaded.rawLines.map fun line => line ++ ['\n'] := by
        conv_rhs => rw [← List.zipIdx_map_fst 0 loaded.rawLines, List.map_map]
        rfl
      rw [hmap]
      -- Nothing is put between the lines.
      cases loaded.rawLines with
      | nil => rfl
      | cons line lines =>
        rw [List.map_cons, intercalate_cons_eq, List.flatMap_cons, List.flatMap_map]
        rfl
  | pretty =>
    refine ⟨fun i hi => by simp [renderEntry, hi], ?_⟩
    unfold renderShow renderEntry
    dsimp only
    rw [map_range_getElem? loaded.log.entries (renderPretty X)]
    cases loaded.log.entries with
    | nil => rfl
    | cons e rest =>
      -- Every entry but the first has a separator before it.
      rw [List.zipIdx_cons, List.map_cons, intercalate_cons_eq, List.flatMap_cons, List.flatMap_map]
      congr 1
      refine List.flatMap_congr fun e he => ?_
      have hpos : 0 < e.2 := (List.mem_zipIdx he).1
      rw [if_pos hpos]
      rfl

/-! ## A log that is saved -/

/-- Lines that are written are the lines that are received. -/
theorem receivedLines_renderShow (h : loadLog X env did input w = (.ok loaded, w')) :
    receivedLines (renderShow X loaded .raw) = loaded.rawLines.map Text.trim := by
  have hline : ∀ line ∈ loaded.rawLines, '\n' ∉ line ∧ Text.trim line ≠ [] := fun _ =>
    line_of_loadLog h
  have hraw : ∀ line ∈ loaded.rawLines, line ≠ [] := by
    rintro line hmem rfl
    exact (hline _ hmem).2 rfl
  have hread := Text.trimmedLines_append (fun line hmem => (hline line hmem).1) []
  rw [List.append_nil, ← renderShow_raw (X := X) hraw] at hread
  show (Text.trimmedLines _).filter _ = _
  rw [hread]
  refine (List.append_nil _).symm ▸ List.filter_eq_self.mpr fun line hmem => ?_
  obtain ⟨raw, hmem', rfl⟩ := List.mem_map.mp hmem
  exact decide_eq_true (hline raw hmem').2

/-- A DID that a target resolves to has been read from a text. -/
theorem exists_fromStr_of_resolveDid {target : Text} {did : DID}
    (h : resolveDid env target w = (.ok did, w')) : ∃ s, DID.fromStr s = .ok did := by
  unfold resolveDid at h
  split_ifs at h
  · simp only [Command.bind_eq_ok_iff, Command.mapError_eq_ok_iff, Command.ofExcept_eq_ok_iff,
      Except.mapError_eq_ok_iff] at h
    obtain ⟨_, _, -, entry, _, -, hdid, -⟩ := h
    exact ⟨_, hdid⟩
  · rw [Command.ofExcept_eq_ok_iff, Except.mapError_eq_ok_iff] at h
    exact ⟨_, h.1⟩

/-- A log that has been loaded, for a DID or from a file, is accepted from a file. -/
theorem verifyLoadedLog_none (h : loadLog X env did input w = (.ok loaded, w')) :
    verifyLoadedLog X loaded.log none = .ok () := by
  obtain ⟨-, text, targetDid, hread, -, hverify, -⟩ := loadLog_eq_ok_iff.mp h
  cases did with
  | none =>
    obtain ⟨-, -, -, rfl, -⟩ := readLog_input_eq_ok_iff.mp hread
    exact hverify
  | some target =>
    obtain ⟨resolved, w₁, hresolve, -, -, rfl, -⟩ := readLog_target_eq_ok_iff.mp hread
    rw [verifyLoadedLog_eq_ok_iff] at hverify ⊢
    intro hformat d hd
    have haccepted := hverify hformat resolved rfl
    -- The log announces the DID that it was fetched for.
    obtain ⟨scid, hscid, -⟩ := verifyLog_eq_ok_iff_authentic.mp haccepted
    obtain ⟨s, hs⟩ := exists_fromStr_of_resolveDid hresolve
    have htext : resolved.toText = s := DID.toText_of_fromStr hs (by simp [hscid])
    rw [verificationTarget, currentDid_of_verifyLog haccepted, Option.bind_some, htext, hs] at hd
    obtain rfl := Option.some.inj hd
    exact haccepted

/-- What a log is written to. -/
theorem writeBody_eq_ok_iff {body : Text} {out printed : Option Text} {force : Bool} :
    writeBody env body out force w = (.ok printed, w') ↔ match out with
      | some path => ((w.files.get path).isSome = true → force = true) ∧
          env.fault w.tick (.writeFile path) = none ∧ printed = none ∧
          Os.putFile path body w.ticked = w'
      | none => env.fault w.tick .writeStdout = none ∧ printed = some body ∧ w.ticked = w' := by
  cases out with
  | some path =>
    simp only [writeBody, Command.bind_eq_ok_iff, Os.pathExists, Command.read_eq_ok_iff,
      Command.ite_fail_eq_ok_iff, Command.mapError_eq_ok_iff, Os.write, Os.writing_eq_ok_iff,
      Command.pure_eq_ok_iff]
    constructor
    · rintro ⟨_, _, ⟨rfl, rfl⟩, hforce, _, _, ⟨hfault, rfl⟩, rfl, rfl⟩
      exact ⟨fun h => by simpa [h] using hforce, hfault, rfl, rfl⟩
    · rintro ⟨hforce, hfault, rfl, rfl⟩
      refine ⟨_, _, ⟨rfl, rfl⟩, fun h => ?_, (), _, ⟨hfault, rfl⟩, rfl, rfl⟩
      simpa [h.2] using hforce h.1
  | none =>
    simp only [writeBody, Command.bind_eq_ok_iff, Command.mapError_eq_ok_iff, Os.writeStdout,
      Os.writing_eq_ok_iff, Command.pure_eq_ok_iff]
    constructor
    · rintro ⟨_, _, ⟨hfault, rfl⟩, rfl, rfl⟩
      exact ⟨hfault, rfl, rfl⟩
    · rintro ⟨hfault, rfl, rfl⟩
      exact ⟨(), _, ⟨hfault, rfl⟩, rfl, rfl⟩

/-- A log that is saved in its lines, wherever it comes from, is loaded from its file as it was, as
long as the file stays as it is; no other file has changed. -/
theorem loadLog_of_cmdShow {X : ToolCrates} {args : ShowArgs} {path : Text} {printed : Option Text}
    (hout : args.out = some path) (hpretty : args.pretty = false)
    (hrun : cmdShow X.toCrates env args w = (.ok printed, w')) :
    (∀ other, other ≠ path → w'.files.get other = w.files.get other) ∧
      w'.keyStore = w.keyStore ∧ w'.published = w.published ∧
      ∃ loaded w₁, loadLog X.toCrates env args.did args.input w = (.ok loaded, w₁) ∧
        ∀ (env' : Env) (v : World), (∀ n op, env'.fault n op = none) →
          v.files.get path = w'.files.get path →
            ∃ lines, loadLog X.toCrates env' none (some path) v =
                (.ok ⟨lines, loaded.log, some path⟩, v.ticked) ∧
              lines.map Text.trim = loaded.rawLines.map Text.trim := by
  -- Without `--pretty` the lines go to the file as they were received.
  have hformat : args.format = .raw := by
    rw [ShowArgs.format, hpretty, hout]
    cases args.raw <;> rfl
  simp only [cmdShow, Command.bind_eq_ok_iff, Command.ofExcept_eq_ok_iff,
    Command.mapError_eq_ok_iff, hformat, hout] at hrun
  obtain ⟨_, _, ⟨-, rfl⟩, loaded, w₁, hloaded, hwrite⟩ := hrun
  obtain ⟨-, -, -, rfl⟩ := writeBody_eq_ok_iff.mp hwrite
  have hdata : w₁.data = w.data := (keeps_loadLog fun _ => rfl).eq hloaded
  obtain ⟨hfiles, hkeyStore, hpublished⟩ := World.data_eq_iff.mp hdata
  refine ⟨fun other hother => ?_, hkeyStore, hpublished, loaded, w₁, hloaded,
    fun env' v hfault hfile => ?_⟩
  · show (w₁.files.insert path _).get other = _
    rw [OrdMap.get_insert, if_neg hother, hfiles]
  · -- The file holds the lines, and they are received as before.
    replace hfile : v.files.get path = some (renderShow X.toCrates loaded .raw) := by
      rw [hfile]
      show (w₁.files.insert path _).get path = _
      rw [OrdMap.get_insert, if_pos rfl]
    obtain ⟨text, hlines, hlog⟩ := exists_text_of_loadLog hloaded
    have hreceived := receivedLines_renderShow hloaded
    have hverify := verifyLoadedLog_none hloaded
    refine ⟨collectRawLines (renderShow X.toCrates loaded .raw), loadLog_eq_ok_iff.mpr ⟨by simp, _,
      none, readLog_input_eq_ok_iff.mpr ⟨hfault _ _, hfile, rfl, rfl, rfl⟩, ?_,
      hverify, rfl⟩, ?_⟩
    · rw [tryFromJsonl_eq_ok_iff, hreceived, hlines, map_trim_collectRawLines]
      exact tryFromJsonl_eq_ok_iff.mp hlog
    · rw [map_trim_collectRawLines, hreceived]

/-! ## One entry -/

/-- The entry that a selector asks for, counted from 0: the last one of the log, or the one whose
place the selector says. -/
def Selects (s : Text) (total i : ℕ) : Prop :=
  (s = Text.lit "latest" ∧ i + 1 = total) ∨
    (s ≠ Text.lit "latest" ∧ parseUsize s = some (i + 1) ∧ i + 1 ≤ total)

/-- The numbers after which selectors are named start from 1. -/
theorem selects_iff {s : Text} {log : DIDLog} :
    (∃ selector, parseSelector s = .ok selector ∧ resolveSelector selector log = .ok i) ↔
      Selects s log.entries.length i := by
  unfold parseSelector Selects
  constructor
  · -- A selector is `latest`, or a number from 1 to the length of the log.
    rintro ⟨selector, hselector, hi⟩
    split_ifs at hselector with hlatest
    · obtain rfl := Except.ok.inj hselector
      simp only [resolveSelector] at hi
      split_ifs at hi with hempty
      obtain rfl := Except.ok.inj hi
      exact .inl ⟨hlatest, by omega⟩
    · cases hn : parseUsize s with
      | none => simp [hn] at hselector
      | some n =>
        simp only [hn] at hselector
        split_ifs at hselector with hpos
        obtain rfl := Except.ok.inj hselector
        simp only [resolveSelector] at hi
        split_ifs at hi with hbound
        obtain rfl := Except.ok.inj hi
        refine .inr ⟨hlatest, ?_, by omega⟩
        rw [Nat.sub_add_cancel hpos]
  · -- The entry at an index has a name in either case.
    rintro (⟨hlatest, hi⟩ | ⟨hlatest, hn, hi⟩)
    · refine ⟨.latest, if_pos hlatest, ?_⟩
      unfold resolveSelector
      dsimp only
      rw [if_neg (by omega), ← hi, Nat.add_sub_cancel]
    · refine ⟨.index (i + 1), ?_, ?_⟩
      · rw [if_neg hlatest, hn]
        exact if_pos (by omega)
      · unfold resolveSelector
        dsimp only
        rw [if_neg (by omega), Nat.add_sub_cancel]

/-- An entry is shown when the arguments agree, the log can be loaded and has such an entry. -/
theorem cmdEntry_eq_ok_iff {args : EntryArgs} {printed : Option Text} :
    cmdEntry X env args w = (.ok printed, w') ↔
      checkArgs args.toShowArgs = .ok () ∧ ∃ loaded w₁ i body,
        loadLog X env args.did args.input w = (.ok loaded, w₁) ∧
          Selects (args.at_.getD "latest") loaded.log.entries.length i ∧
            renderEntry X loaded i args.format = some body ∧
              writeBody env body args.out args.force w₁ = (.ok printed, w') := by
  simp only [cmdEntry, Command.bind_eq_ok_iff, Command.ofExcept_eq_ok_iff,
    Command.mapError_eq_ok_iff, Option.okOr_eq_ok_iff]
  constructor
  · rintro ⟨_, _, ⟨hargs, rfl⟩, selector, _, ⟨hselector, rfl⟩, loaded, w₁, hloaded, i, _,
      ⟨hi, rfl⟩, body, _, ⟨hbody, rfl⟩, hwrite⟩
    exact ⟨hargs, loaded, w₁, i, body, hloaded, selects_iff.mp ⟨selector, hselector, hi⟩, hbody,
      hwrite⟩
  · rintro ⟨hargs, loaded, w₁, i, body, hloaded, hselects, hbody, hwrite⟩
    obtain ⟨selector, hselector, hi⟩ := selects_iff.mpr hselects
    exact ⟨(), w, ⟨hargs, rfl⟩, selector, w, ⟨hselector, rfl⟩, loaded, w₁, hloaded, i, w₁,
      ⟨hi, rfl⟩, body, w₁, ⟨hbody, rfl⟩, hwrite⟩

/-- What is shown of an entry. -/
inductive ShownAs (X : Crates) (i : ℕ) (e : DIDLogEntry) : Format → Text → Prop
  /-- A line that is read as the entry. -/
  | raw {line : Text} (hread : ParsesTo X (Text.trim line) e) : ShownAs X i e .raw (line ++ ['\n'])
  /-- A header with its place and version, and a text that is read as the entry, with its `portable`
  member as it is written. -/
  | pretty {text : Text} (hread : ParsesTo X text e.withPortable) :
    ShownAs X i e .pretty (Text.lit "# entry " ++ Text.decimal (i + 1) ++ " — " ++ e.versionId ++
      ['\n'] ++ text ++ ['\n'])

/-- An entry that a log has is shown. -/
theorem shownAs_renderEntry (hF : X.f64.Lawful)
    (h : loadLog X env did input w = (.ok loaded, w')) (he : loaded.log.entries[i]? = some e)
    (format : Format) : ∃ body, renderEntry X loaded i format = some body ∧
      ShownAs X i e format body := by
  have hlines := forall₂_parsesTo h
  obtain ⟨hi, rfl⟩ := List.getElem?_eq_some_iff.mp he
  have hi' : i < loaded.rawLines.length := hlines.length_eq ▸ hi
  have hread := hlines.get hi' hi
  cases format with
  | raw =>
    refine ⟨loaded.rawLines[i] ++ ['\n'], ?_, .raw hread⟩
    simp [renderEntry, hi']
  | pretty =>
    have hparses := DIDLogEntry.parsesTo_pretty hF hread (.inl rfl)
    refine ⟨renderPretty X i loaded.log.entries[i], ?_, .pretty hparses⟩
    simp [renderEntry, hi]

/-- Only a line that is not there makes the tool panic. -/
theorem ne_panicked_writeBody {body : Text} {out : Option Text} {force : Bool} :
    Command.FailsWith (fun e => e ≠ .panicked) (writeBody env body out force) := by
  have hwritten : ∀ {α : Type} {x : Command World Text α} {f : Text → ShowError},
      (∀ s, f s ≠ .panicked) → Command.FailsWith (fun e => e ≠ .panicked) (x.mapError f) :=
    fun hf => .mapError hf
  unfold writeBody
  cases out with
  | none => exact .bind (hwritten fun _ => nofun) fun _ => .pure
  | some path =>
    refine .bind (fun _ => .ok) fun present => .ite (.fail nofun) ?_
    exact .bind (hwritten fun _ => nofun) fun _ => .pure

/-- A command has ended without a panic. -/
def Ended (r : Except ShowError (Option Text) × World) : Prop := r.1 ≠ .error .panicked

theorem ended_error (e : ShowError) (v : World) (h : e ≠ .panicked) : Ended (.error e, v) :=
  fun he => h (Except.error.inj he)

theorem ne_panicked_checkArgs {args : ShowArgs} :
    Except.FailsWith (fun e => e ≠ .panicked) (checkArgs args) := by
  unfold checkArgs
  split_ifs
  · exact .error nofun
  · exact .error nofun
  · exact .ok

theorem ne_panicked_parseSelector {s : Text} :
    Except.FailsWith (fun e => e ≠ .panicked) (parseSelector s) := by
  unfold parseSelector
  split_ifs
  · exact .ok
  · rcases parseUsize s with _ | n
    · exact .error nofun
    · dsimp only
      split_ifs
      · exact .ok
      · exact .error nofun

theorem ne_panicked_resolveSelector {selector : Selector} {log : DIDLog} :
    Except.FailsWith (fun e => e ≠ .panicked) (resolveSelector selector log) := by
  unfold resolveSelector
  rcases selector with _ | n
  · dsimp only
    split_ifs
    · exact .error nofun
    · exact .ok
  · dsimp only
    split_ifs
    · exact .error nofun
    · exact .ok

/-- An entry that is selected is there, and is what is shown; the tool does not panic. -/
theorem shownAs_of_cmdEntry {X : ToolCrates} {args : EntryArgs} (hF : X.f64.Lawful) :
    (cmdEntry X.toCrates env args w).1 ≠ .error .panicked ∧
      ∀ printed w', cmdEntry X.toCrates env args w = (.ok printed, w') →
        ∃ loaded w₁ i e body, loadLog X.toCrates env args.did args.input w = (.ok loaded, w₁) ∧
          Selects (args.at_.getD "latest") loaded.log.entries.length i ∧
            loaded.log.entries[i]? = some e ∧ ShownAs X.toCrates i e args.format body ∧
              w'.keyStore = w.keyStore ∧ w'.published = w.published ∧
                match args.out with
                | none => printed = some body ∧ w'.files = w.files
                | some path => printed = none ∧ w'.files = w.files.insert path body := by
  -- Every step before the entry is shown fails with an error of its own.
  constructor
  · unfold cmdEntry
    show Ended _
    refine Command.FailsWith.bind_end (.ofExcept ne_panicked_checkArgs) ended_error
      fun _ w₁ hargs => ?_
    obtain ⟨-, rfl⟩ := Command.ofExcept_eq_ok_iff.mp hargs
    refine Command.FailsWith.bind_end (.ofExcept ne_panicked_parseSelector) ended_error ?_
    intro selector w₁ hselector
    obtain ⟨hparsed, rfl⟩ := Command.ofExcept_eq_ok_iff.mp hselector
    refine Command.FailsWith.bind_end (.mapError fun _ => nofun) ended_error
      fun loaded w₁ hloaded => ?_
    refine Command.FailsWith.bind_end (.ofExcept ne_panicked_resolveSelector) ended_error
      fun i w₂ hi => ?_
    obtain ⟨hresolved, rfl⟩ := Command.ofExcept_eq_ok_iff.mp hi
    -- The index that a selector resolves to is one of an entry, which can be shown.
    have hbound : i < loaded.log.entries.length := by
      rcases selects_iff.mp ⟨selector, hparsed, hresolved⟩ with ⟨-, h⟩ | ⟨-, -, h⟩ <;> omega
    obtain ⟨body, hbody, -⟩ := shownAs_renderEntry hF (Command.mapError_eq_ok_iff.mp hloaded)
      (List.getElem?_eq_getElem hbound) args.format
    have hshown : Command.ofExcept ((renderEntry X.toCrates loaded i args.format).okOr
        ShowError.panicked) w₁ = (.ok body, w₁) := by
      rw [hbody]
      rfl
    rw [Command.bind_of_eq_ok hshown]
    exact fun h => ne_panicked_writeBody w₁ _ h rfl
  · -- A run that succeeds has loaded the log and selected an entry, which is shown and then
    -- written.
    intro printed w' hrun
    obtain ⟨-, loaded, w₁, i, body, hloaded, hselects, hbody, hwrite⟩ := cmdEntry_eq_ok_iff.mp hrun
    have hbound : i < loaded.log.entries.length := by
      rcases hselects with ⟨-, h⟩ | ⟨-, -, h⟩ <;> omega
    obtain ⟨body', hbody', hshown⟩ := shownAs_renderEntry hF hloaded
      (List.getElem?_eq_getElem hbound) args.format
    obtain rfl := Option.some.inj (hbody.symm.trans hbody')
    obtain ⟨hfiles, hkeyStore, hpublished⟩ :=
      World.data_eq_iff.mp ((keeps_loadLog fun _ => rfl).eq hloaded)
    refine ⟨loaded, w₁, i, _, body, hloaded, hselects, List.getElem?_eq_getElem hbound, hshown, ?_⟩
    rw [writeBody_eq_ok_iff] at hwrite
    cases hout : args.out with
    | none =>
      simp only [hout] at hwrite
      obtain ⟨-, rfl, rfl⟩ := hwrite
      exact ⟨hkeyStore, hpublished, rfl, hfiles⟩
    | some path =>
      simp only [hout] at hwrite
      obtain ⟨-, -, rfl, rfl⟩ := hwrite
      exact ⟨hkeyStore, hpublished, rfl, congrArg (·.insert path body) hfiles⟩

end Swiyu.Didlog

namespace Swiyu.Sample

/-! ## The sample log -/

/-- The log of the sample DID, created and rotated, is loaded. -/
theorem loadLog_rotatedWorld : ∃ lines log, log.entries.length = 2 ∧
    loadLog toolCrates.toCrates (toolEnv 0) none (some logPath) rotatedWorld =
      (.ok ⟨lines, log, some logPath⟩, rotatedWorld.ticked) := by
  obtain ⟨history, hlength, text, log, hfile, hread, hdid, haccepted, -, hhistory⟩ :=
    holds_rotatedWorld
  refine ⟨_, log, hhistory.length.trans hlength, loadLog_eq_ok_iff.mpr
    ⟨by simp, text, none, ?_, hread, ?_, rfl⟩⟩
  · exact readLog_input_eq_ok_iff.mpr ⟨rfl, hfile, rfl, rfl, rfl⟩
  · exact verifyLoadedLog_of_verifyLog haccepted hdid (by simp)

/-- Where a copy of the sample log is saved. -/
def copyPath : Text := "copy.jsonl"

/-- The arguments with which it is saved. -/
def copyArgs : Didlog.ShowArgs where
  input := some logPath
  out := copyPath
  force := true

/-- A log that is loaded is saved in that file. -/
theorem cmdShow_copyArgs {w w₁ : World} {loaded : LoadedLog}
    (hload : loadLog toolCrates.toCrates (toolEnv 0) none (some logPath) w = (.ok loaded, w₁)) :
    ∃ w', Didlog.cmdShow toolCrates.toCrates (toolEnv 0) copyArgs w = (.ok none, w') := by
  unfold Didlog.cmdShow
  simp only [Command.bind_eq_ok_iff, Command.ofExcept_eq_ok_iff, Command.mapError_eq_ok_iff]
  exact ⟨_, (), _, ⟨rfl, rfl⟩, _, _, hload,
    Didlog.writeBody_eq_ok_iff.mpr ⟨fun _ => rfl, rfl, rfl, rfl⟩⟩

/-- The sample log is saved in another file, and loaded from it as it was. -/
theorem loadLog_copy : ∃ w' log, log.entries.length = 2 ∧
    Didlog.cmdShow toolCrates.toCrates (toolEnv 0) copyArgs rotatedWorld = (.ok none, w') ∧
      w'.files.get logPath = rotatedWorld.files.get logPath ∧
      (loadLog toolCrates.toCrates (toolEnv 0) none (some copyPath) w').1.toOption.map
        LoadedLog.log = some log := by
  obtain ⟨lines, log, hlength, hload⟩ := loadLog_rotatedWorld
  obtain ⟨w', hsaved⟩ := cmdShow_copyArgs hload
  obtain ⟨hother, -, -, loaded, w₁, hloaded, hcopy⟩ :=
    Didlog.loadLog_of_cmdShow rfl rfl hsaved
  obtain ⟨copied, hlines, -⟩ := hcopy (toolEnv 0) _ (fun _ _ => rfl) rfl
  obtain ⟨hresult, -⟩ := Prod.mk.inj (hloaded.symm.trans hload)
  obtain rfl := Except.ok.inj hresult
  refine ⟨w', log, hlength, hsaved, hother logPath (by decide), ?_⟩
  rw [hlines]
  rfl

/-- The arguments with which the last entry is printed. -/
def lastArgs : Didlog.EntryArgs where
  input := some logPath

/-- The second entry of the sample log, its last one, is printed, indented. -/
theorem shownAs_rotatedWorld : ∃ body log e, log.entries.length = 2 ∧ log.entries[1]? = some e ∧
    (loadLog toolCrates.toCrates (toolEnv 0) none (some logPath) rotatedWorld).1.toOption.map
        LoadedLog.log = some log ∧
      Didlog.cmdEntry toolCrates.toCrates (toolEnv 0) lastArgs rotatedWorld =
        (.ok (some body), rotatedWorld.ticked.ticked) ∧
      Didlog.ShownAs toolCrates.toCrates 1 e .pretty body := by
  obtain ⟨lines, log, hlength, hload⟩ := loadLog_rotatedWorld
  have hF : toolCrates.f64.Lawful := lawful_f64
  obtain ⟨last, hlast⟩ : ∃ e, log.entries[1]? = some e :=
    ⟨_, List.getElem?_eq_getElem (by omega)⟩
  obtain ⟨body, hbody, -⟩ := Didlog.shownAs_renderEntry hF hload hlast lastArgs.format
  have hrun : Didlog.cmdEntry toolCrates.toCrates (toolEnv 0) lastArgs rotatedWorld =
      (.ok (some body), rotatedWorld.ticked.ticked) :=
    Didlog.cmdEntry_eq_ok_iff.mpr ⟨rfl, _, _, 1, body, hload, .inl ⟨rfl, hlength.symm⟩, hbody,
      Didlog.writeBody_eq_ok_iff.mpr ⟨rfl, rfl, rfl⟩⟩
  obtain ⟨loaded, w₁, i, e, shown, hloaded, hselects, he, hshown, -, -, hout, -⟩ :=
    (Didlog.shownAs_of_cmdEntry hF).2 _ _ hrun
  obtain ⟨hresult, -⟩ := Prod.mk.inj (hloaded.symm.trans hload)
  obtain rfl := Except.ok.inj hresult
  -- The last of two entries is the second.
  obtain ⟨-, hi⟩ | ⟨hne, -⟩ := hselects
  · obtain rfl : i = 1 := Nat.succ.inj (hi.trans hlength)
    obtain rfl := Option.some.inj hout
    exact ⟨body, log, e, hlength, he, by rw [hload]; rfl, hrun, hshown⟩
  · exact absurd rfl hne

end Swiyu.Sample
