import Swiyu.Didtool.World

/-!
# Writing logs

An updated log goes to the file that is asked for, or back to the file that it was read from. A log
that was fetched has neither; when it cannot be uploaded it is saved as a pending file.
-/

namespace Swiyu

/-- The highest number of a pending file. -/
def MAX_PENDING_INDEX : ℕ := 9999

/-- Why a log is not written. -/
inductive WriteLogError
  | fileExists (path : Text)
  | writeOutput (path source : Text)
  | pendingExhausted (max : ℕ)
  deriving DecidableEq

/-- The message of an error. -/
def WriteLogError.toText : WriteLogError → Text
  | fileExists path =>
    Text.lit "file '" ++ path ++ "' already exists; pass --force to overwrite"
  | writeOutput path source => Text.lit "cannot write '" ++ path ++ "': " ++ source
  | pendingExhausted max =>
    Text.lit "could not allocate a fallback file: did-pending-1.jsonl through did-pending-" ++
      Text.decimal max ++ ".jsonl all exist; remove old pending files and retry"

/-- Commands that write logs. -/
abbrev WriteLogCommand := Command World WriteLogError

/-- The file next to `target` that is written first. -/
def tmpPath (target : Text) : Text := target ++ ".tmp"

/-- The name of a pending file. -/
def pendingPath (n : ℕ) : Text := Text.lit "did-pending-" ++ Text.decimal n ++ ".jsonl"

variable (env : Env)

/-- Writes a file under another name and renames it. -/
def writeAtomic (target content : Text) : Command World Text Unit := do
  Os.write env (tmpPath target) content
  Os.rename env (tmpPath target) target

/-- Writes a log to `out`, or else back to `sourcePath`, and yields the path. Without either nothing
is written. -/
def writeLog (content : Text) (sourcePath out : Option Text) (force : Bool) :
    WriteLogCommand (Option Text) :=
  match out with
  | some path => do
    let present ← Os.pathExists path
    if present = true ∧ force = false then Command.fail (.fileExists path)
    else do
      (Os.write env path content).mapError (.writeOutput path)
      return some path
  | none =>
    match sourcePath with
    | some source => do
      (writeAtomic env source content).mapError (.writeOutput source)
      return some source
    | none => return none

/-- Writes a log to the first of the pending files that does not exist. -/
def writePendingFrom (content : Text) : List ℕ → WriteLogCommand Text
  | [] => Command.fail (.pendingExhausted MAX_PENDING_INDEX)
  | n :: rest => do
    let present ← Os.pathExists (pendingPath n)
    if present = true then writePendingFrom content rest
    else do
      (Os.write env (pendingPath n) content).mapError (.writeOutput (pendingPath n))
      return pendingPath n

/-- Writes a log to the pending file with the lowest free number. -/
def writePendingLog (content : Text) : WriteLogCommand Text :=
  writePendingFrom env content (List.range' 1 MAX_PENDING_INDEX)

end Swiyu
