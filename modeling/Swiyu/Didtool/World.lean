import Swiyu.Core.Crates
import Swiyu.Didtool.Cmd.Http
import Swiyu.Lib.Command
import Swiyu.Lib.OrdMap

/-!
# The world of the tool

What the commands of the tool read and change: files, the directory of the key store and the
registry. Each operation of the operating system takes one tick, at which it may fail, and a write
that fails may leave anything in its file.

## Main definitions

- `Swiyu.World`: the files, the key store and what has been published.
- `Swiyu.Env`: what the commands cannot foresee: faults, the time, fresh keys and answers from
  servers.
- `Swiyu.Os.readToString`, `Swiyu.Os.write`, `Swiyu.Os.rename`: operations on files.

## Main results

- `Swiyu.Os.triple_writing`: what an operation that writes ends in.
-/

namespace Swiyu

/-- The files of a key snapshot, by name. -/
abbrev Snapshot := OrdMap Text Text

/-- The directory of a key-store entry. -/
structure EntryDir where
  /-- The text of `did.txt`, if it is there. -/
  didTxt : Option Text := none
  /-- The snapshot directories, by name. -/
  snapshots : OrdMap Text Snapshot := ∅
  deriving DecidableEq

/-- A directory with other files in a snapshot. -/
def EntryDir.updateSnapshot (dir : EntryDir) (snapshot : Text) (f : Snapshot → Snapshot) :
    EntryDir :=
  { dir with snapshots := dir.snapshots.insert snapshot (f ((dir.snapshots.get snapshot).getD ∅)) }

/-- What is left of a directory when only the files listed are left. -/
def EntryDir.remaining (listing : List Text) (dir : EntryDir) : EntryDir where
  didTxt := if Text.lit "did.txt" ∈ listing then dir.didTxt else none
  snapshots := OrdMap.ofList ((dir.snapshots.toList.filter fun s => s.1 ∈ listing).map fun s =>
    (s.1, OrdMap.ofList (s.2.toList.filter fun f => s.1 ++ '/' :: f.1 ∈ listing)))

/-- A log that has been uploaded to a registry. -/
structure Publication where
  registryUrl : Text
  partnerId : Text
  identifier : Text
  body : Text
  deriving DecidableEq

/-- What persists from one command to the next. -/
structure World where
  /-- Files outside the key store, by path. -/
  files : OrdMap Text Text
  /-- The entries of the key store, by the name of their directory. -/
  keyStore : OrdMap Text EntryDir
  /-- What registries have accepted, the latest last. -/
  published : List Publication := []
  /-- The number of operations so far. -/
  tick : ℕ := 0
  deriving DecidableEq

/-- The failure of an operation. -/
structure Fault where
  /-- The message of the operating system. -/
  source : Text
  /-- What a write leaves in its file, when it has got that far. -/
  leaves : Option Text := none

/-- A space in the registry. -/
structure Allocation where
  url : Text
  identifier : Text
  deriving DecidableEq

/-- What the registry makes of an upload. -/
inductive Upload
  /-- The log is stored. -/
  | accepted
  /-- The log is stored, but the tool learns of a failure. -/
  | unconfirmed (source : Text)
  /-- The log is not stored. -/
  | refused (source : Text)
  deriving DecidableEq

/-- An operation of the operating system that may fail. -/
inductive Operation
  | readFile (path : Text)
  | writeFile (path : Text)
  | rename (source target : Text)
  | writeStdout
  /-- Reads from the directory of a key-store entry. -/
  | readKeyStore (hash : Text)
  /-- Writes to the directory of a key-store entry. -/
  | writeKeyStore (hash : Text)
  deriving DecidableEq

/-- What happens at each tick. A crash is an environment in which everything fails from then on. -/
structure Env where
  /-- Whether an operation fails, were it made at a tick. -/
  fault : ℕ → Operation → Option Fault
  /-- The message for a file that does not exist. -/
  notFound : Text
  /-- The current time, in nanoseconds since 1970. -/
  clock : ℕ → ℤ
  /-- A fresh Ed25519 signing key. -/
  freshEddsa : ℕ → FixedBytes 32
  /-- A fresh P-256 signing key. -/
  freshEcdsa : ℕ → FixedBytes 32
  /-- Random bytes. -/
  randomBytes : ℕ → FixedBytes 16
  /-- The answer to a request. -/
  server : Server
  /-- `allocate_did_url(partner_id, registry_url)`. -/
  allocate : ℕ → Text → Text → Except Text Allocation
  /-- `publish_entry`. -/
  publish : ℕ → Publication → Upload

/-- What a write at a tick leaves in its file: all of the text, or what it has got to when it
fails. -/
def Env.left (env : Env) (tick : ℕ) (op : Operation) (text : Text) : Option Text :=
  match env.fault tick op with
  | none => some text
  | some f => f.leaves

/-- An environment without faults, in which time stands still. -/
def Env.calm (server : Server) (clock : ℤ) : Env where
  fault _ _ := none
  notFound := "No such file or directory"
  clock _ := clock
  freshEddsa _ := ⟨List.replicate 32 0, List.length_replicate⟩
  freshEcdsa _ := ⟨List.replicate 32 0, List.length_replicate⟩
  randomBytes _ := ⟨List.replicate 16 0, List.length_replicate⟩
  server := server
  allocate _ _ _ := .error "no registry"
  publish _ _ := .accepted

namespace Os

variable {ε : Type}

/-- The number of the operation that starts now. -/
def nextTick : Command World ε ℕ := do
  let n ← Command.read World.tick
  Command.update fun w => { w with tick := w.tick + 1 }
  return n

variable (env : Env)

/-- An operation that reads. -/
def reading {α : Type} (op : Operation) (result : World → Except Text α) :
    Command World Text α := do
  let n ← nextTick
  match env.fault n op with
  | some f => Command.fail f.source
  | none => do
    let r ← Command.read result
    Command.ofExcept r

/-- An operation that changes the world: what it does and, from what it leaves in a file, what it
does when it fails. -/
def writing (op : Operation) (effect : World → World) (broken : Text → World → World) :
    Command World Text Unit := do
  let n ← nextTick
  match env.fault n op with
  | some f => do
    Command.update fun w => (f.leaves.map fun text => broken text w).getD w
    Command.fail f.source
  | none => Command.update effect

/-! ## Files -/

/-- The world with `text` in the file at `path`. -/
def putFile (path text : Text) (w : World) : World := { w with files := w.files.insert path text }

/-- `fs::read_to_string(path)`. -/
def readToString (path : Text) : Command World Text Text :=
  reading env (.readFile path) fun w => (w.files.get path).okOr env.notFound

/-- `fs::write(path, text)`. -/
def write (path text : Text) : Command World Text Unit :=
  writing env (.writeFile path) (putFile path text) (putFile path)

/-- `path.exists()`. -/
def pathExists (path : Text) : Command World ε Bool :=
  Command.read fun w => (w.files.get path).isSome

/-- The world with the file at `source` moved to `target`. -/
def moveFile (source target : Text) (w : World) : World :=
  match w.files.get source with
  | some text => { w with files := OrdMap.insert (w.files.erase source) target text }
  | none => w

/-- `fs::rename(source, target)` of a file that has just been written. -/
def rename (source target : Text) : Command World Text Unit :=
  writing env (.rename source target) (moveFile source target) fun _ w => w

/-- `stdout().write_all(text)`. What is printed is no part of the world. -/
def writeStdout : Command World Text Unit := writing env .writeStdout id fun _ w => w

/-! ## The directory of the key store -/

/-- The file `name` of a snapshot. -/
def keyFile (w : World) (hash snapshot name : Text) : Option Text := do
  let dir ← w.keyStore.get hash
  let files ← dir.snapshots.get snapshot
  files.get name

/-- The world with another directory of a key-store entry. -/
def updateDir (hash : Text) (f : EntryDir → EntryDir) (w : World) : World :=
  { w with keyStore := w.keyStore.insert hash (f ((w.keyStore.get hash).getD {})) }

/-- The world with `text` in the file `name` of a snapshot. -/
def putKeyFile (hash snapshot name text : Text) : World → World :=
  updateDir hash fun dir => dir.updateSnapshot snapshot fun files => files.insert name text

/-- The world with `text` in the `did.txt` of an entry. -/
def putDidTxt (hash text : Text) : World → World :=
  updateDir hash fun dir => { dir with didTxt := some text }

/-- Whether the directory of an entry exists. -/
def entryExists (hash : Text) : Command World ε Bool :=
  Command.read fun w => (w.keyStore.get hash).isSome

/-- Whether a file of a snapshot exists. -/
def keyFileExists (hash snapshot name : Text) : Command World ε Bool :=
  Command.read fun w => (keyFile w hash snapshot name).isSome

/-- `fs::create_dir_all` of the directory of a snapshot; it may fail half-way. -/
def createSnapshotDir (hash snapshot : Text) : Command World Text Unit :=
  writing env (.writeKeyStore hash) (updateDir hash fun dir => dir.updateSnapshot snapshot id)
    fun _ => updateDir hash id

/-- Writes a file of a snapshot. -/
def writeKeyFile (hash snapshot name text : Text) : Command World Text Unit :=
  writing env (.writeKeyStore hash) (putKeyFile hash snapshot name text)
    (putKeyFile hash snapshot name)

/-- Writes the `did.txt` of an entry. -/
def writeDidTxt (hash text : Text) : Command World Text Unit :=
  writing env (.writeKeyStore hash) (putDidTxt hash text) (putDidTxt hash)

/-- `fs::remove_dir_all` of the directory of an entry; it may fail when some files are gone, and
leave the others. -/
def removeEntry (hash : Text) : Command World Text Unit :=
  writing env (.writeKeyStore hash) (fun w => { w with keyStore := w.keyStore.erase hash })
    fun listing => updateDir hash (EntryDir.remaining (Text.split '\n' listing))

/-- Reads a file of a snapshot. -/
def readKeyFile (hash snapshot name : Text) : Command World Text Text :=
  reading env (.readKeyStore hash) fun w => (keyFile w hash snapshot name).okOr env.notFound

/-- Reads the `did.txt` of an entry. -/
def readDidTxt (hash : Text) : Command World Text Text :=
  reading env (.readKeyStore hash) fun w =>
    ((w.keyStore.get hash).bind EntryDir.didTxt).okOr env.notFound

/-- The names in the directory of an entry, those of snapshots. -/
def listSnapshots (hash : Text) : Command World Text (List Text) :=
  reading env (.readKeyStore hash) fun w =>
    ((w.keyStore.get hash).map fun dir => dir.snapshots.toList.map Prod.fst).okOr env.notFound

/-! ## Time, chance and servers -/

/-- `Utc::now()`, in nanoseconds. -/
def now : Command World ε ℤ := do
  let n ← nextTick
  return env.clock n

/-- `Utc::now().timestamp().max(0)`. -/
def unixSeconds : Command World ε UInt64 := do
  let ns ← now env
  return UInt64.ofNat (ns / 1000000000).toNat

/-- Generates an Ed25519 key. -/
def generateEddsa : Command World ε (FixedBytes 32) := do
  let n ← nextTick
  return env.freshEddsa n

/-- Generates a P-256 key. -/
def generateEcdsa : Command World ε (FixedBytes 32) := do
  let n ← nextTick
  return env.freshEcdsa n

/-- `OsRng.fill_bytes`, for 16 bytes. -/
def fillBytes : Command World ε (FixedBytes 16) := do
  let n ← nextTick
  return env.randomBytes n

/-- Sends a GET request. -/
def get (url : Text) : Command World ε Response := do
  let n ← nextTick
  return env.server n url

/-- `allocate_did_url`. -/
def allocate (partnerId registryUrl : Text) : Command World Text Allocation := do
  let n ← nextTick
  Command.ofExcept (env.allocate n partnerId registryUrl)

/-- The world with another log in the registry. -/
def putPublication (p : Publication) (w : World) : World :=
  { w with published := w.published ++ [p] }

/-- `publish_entry`. -/
def publish (p : Publication) : Command World Text Unit := do
  let n ← nextTick
  match env.publish n p with
  | .accepted => Command.update (putPublication p)
  | .unconfirmed source => do
    Command.update (putPublication p)
    Command.fail source
  | .refused source => Command.fail source

end Os

/-! ## What the operations end in -/

/-- The world after one more operation. -/
def World.ticked (w : World) : World := { w with tick := w.tick + 1 }

@[simp]
theorem World.files_ticked (w : World) : w.ticked.files = w.files := rfl

@[simp]
theorem World.keyStore_ticked (w : World) : w.ticked.keyStore = w.keyStore := rfl

@[simp]
theorem World.published_ticked (w : World) : w.ticked.published = w.published := rfl

namespace Os

variable {ε α : Type} {env : Env} {w : World} {op : Operation}

@[simp]
theorem nextTick_eq_ok_iff {n : ℕ} {w' : World} :
    (nextTick : Command World ε ℕ) w = (.ok n, w') ↔ w.tick = n ∧ w.ticked = w' := by
  simp [nextTick, World.ticked]

/-- A request is answered as the server answers at this tick. -/
@[simp]
theorem get_eq_ok_iff {url : Text} {r : Response} {w' : World} :
    (get env url : Command World ε Response) w = (.ok r, w') ↔
      env.server w.tick url = r ∧ w.ticked = w' := by
  simp [get, and_comm]

@[simp]
theorem now_eq_ok_iff {t : ℤ} {w' : World} :
    (now env : Command World ε ℤ) w = (.ok t, w') ↔ env.clock w.tick = t ∧ w.ticked = w' := by
  simp [now, and_comm]

@[simp]
theorem unixSeconds_eq_ok_iff {t : UInt64} {w' : World} :
    (unixSeconds env : Command World ε UInt64) w = (.ok t, w') ↔
      UInt64.ofNat (env.clock w.tick / 1000000000).toNat = t ∧ w.ticked = w' := by
  simp [unixSeconds, and_comm]

theorem reading_eq_ok_iff {result : World → Except Text α} {a : α} {w' : World} :
    reading env op result w = (.ok a, w') ↔
      env.fault w.tick op = none ∧ result w.ticked = .ok a ∧ w.ticked = w' := by
  simp only [reading, Command.bind_eq_ok_iff, nextTick_eq_ok_iff]
  constructor
  · rintro ⟨_, _, ⟨rfl, rfl⟩, h⟩
    cases hfault : env.fault w.tick op with
    | some f => simp [hfault] at h
    | none =>
      simp only [hfault, Command.bind_eq_ok_iff, Command.read_eq_ok_iff,
        Command.ofExcept_eq_ok_iff] at h
      obtain ⟨_, _, ⟨rfl, rfl⟩, h, rfl⟩ := h
      exact ⟨rfl, h, rfl⟩
  · rintro ⟨hfault, h, rfl⟩
    refine ⟨_, _, ⟨rfl, rfl⟩, ?_⟩
    simp [hfault, h]

theorem writing_eq_ok_iff {effect : World → World} {broken : Text → World → World} {u : Unit}
    {w' : World} : writing env op effect broken w = (.ok u, w') ↔
      env.fault w.tick op = none ∧ effect w.ticked = w' := by
  simp only [writing, Command.bind_eq_ok_iff, nextTick_eq_ok_iff]
  constructor
  · rintro ⟨_, _, ⟨rfl, rfl⟩, h⟩
    cases hfault : env.fault w.tick op with
    | some f => simp [hfault] at h
    | none =>
      rw [hfault] at h
      exact ⟨rfl, Command.update_eq_ok_iff.mp h⟩
  · rintro ⟨hfault, rfl⟩
    refine ⟨_, _, ⟨rfl, rfl⟩, ?_⟩
    rw [hfault]
    rfl

/-- A file that is read is there. -/
theorem readToString_eq_ok_iff {path text : Text} {w' : World} :
    readToString env path w = (.ok text, w') ↔
      env.fault w.tick (.readFile path) = none ∧ w.files.get path = some text ∧ w.ticked = w' := by
  rw [readToString, reading_eq_ok_iff, Option.okOr_eq_ok_iff]
  rfl

theorem triple_nextTick {E : World → Prop} :
    (nextTick : Command World ε ℕ).Triple w (fun n w' => n = w.tick ∧ w' = w.ticked) E := by
  refine .bind (Q := fun n w' => n = w.tick ∧ w' = w) (.read ⟨rfl, rfl⟩) fun n w' h => ?_
  obtain ⟨rfl, rfl⟩ := h
  exact .bind (Q := fun _ w' => w' = World.ticked _) (.update rfl) fun _ _ h => .pure ⟨rfl, h⟩

/-- An operation that writes has its effect, or a fault has left something else. -/
theorem triple_writing {effect : World → World} {broken : Text → World → World} :
    (writing env op effect broken).Triple w
      (fun _ w' => w' = effect w.ticked ∧ env.fault w.tick op = none)
      fun w' => ∃ f, env.fault w.tick op = some f ∧
        w' = (f.leaves.map fun text => broken text w.ticked).getD w.ticked := by
  refine .bind triple_nextTick ?_
  rintro n w' ⟨rfl, rfl⟩
  cases hfault : env.fault w.tick op with
  | some f =>
    refine .bind (Q := fun _ w' => w' =
      (f.leaves.map fun text => broken text w.ticked).getD w.ticked) (.update rfl) ?_
    rintro - w' rfl
    exact .fail ⟨f, rfl, rfl⟩
  | none => exact .update ⟨rfl, rfl⟩

/-- An upload that is not refused is stored. -/
theorem triple_publish {p : Publication} :
    (publish env p).Triple w
      (fun _ w' => w' = putPublication p w.ticked)
      fun w' =>
        (∃ source, env.publish w.tick p = .unconfirmed source) ∧ w' = putPublication p w.ticked ∨
        (∃ source, env.publish w.tick p = .refused source) ∧ w' = w.ticked := by
  refine .bind triple_nextTick ?_
  rintro n w' ⟨rfl, rfl⟩
  cases hupload : env.publish w.tick p with
  | accepted => exact .update rfl
  | unconfirmed source =>
    refine .bind (Q := fun _ w' => w' = putPublication p w.ticked) (.update rfl) ?_
    rintro - w' rfl
    exact .fail (.inl ⟨⟨source, rfl⟩, rfl⟩)
  | refused source => exact .fail (.inr ⟨⟨source, rfl⟩, rfl⟩)

/-! ## What the operations leave as it is -/

section Keeps

variable {γ : Type} {f : World → γ} (hf : ∀ w, f w.ticked = f w)

include hf

theorem keeps_nextTick : (nextTick : Command World ε ℕ).Keeps f :=
  .bind .read fun _ => .bind (.update hf) fun _ => .pure

theorem keeps_reading {result : World → Except Text α} : (reading env op result).Keeps f := by
  refine .bind (keeps_nextTick hf) fun n => ?_
  cases env.fault n op with
  | some fault => exact .fail
  | none => exact .bind .read fun _ => .ofExcept

theorem keeps_writing {effect : World → World} {broken : Text → World → World}
    (heffect : ∀ w, f (effect w) = f w) (hbroken : ∀ text w, f (broken text w) = f w) :
    (writing env op effect broken).Keeps f := by
  refine .bind (keeps_nextTick hf) fun n => ?_
  cases env.fault n op with
  | some fault =>
    refine .bind (.update fun w => ?_) fun _ => .fail
    cases fault.leaves with
    | none => rfl
    | some text => exact hbroken text w
  | none => exact .update heffect

/-- Asking for the time, for chance or for an answer changes nothing. -/
theorem keeps_publish {p : Publication} (hpublished : ∀ w, f (putPublication p w) = f w) :
    (publish env p).Keeps f := by
  refine .bind (keeps_nextTick hf) fun n => ?_
  cases env.publish n p with
  | accepted => exact .update hpublished
  | unconfirmed source => exact .bind (.update hpublished) fun _ => .fail
  | refused source => exact .fail

theorem keeps_ask {β : Type} {answer : ℕ → β} :
    (do let n ← nextTick; return answer n : Command World ε β).Keeps f :=
  .bind (keeps_nextTick hf) fun _ => .pure

end Keeps

/-! ## Operations in related states -/

section Respects

variable {R : World → World → Prop} (htick : ∀ w w', R w w' → w.tick = w'.tick)

include htick

/-- An operation that reads finds the same where what it looks at is the same. -/
theorem respects_reading {result : World → Except Text α} {Q : α → World → World → Prop}
    (h : ∀ w w', R w w' → result w.ticked = result w'.ticked ∧
      ∀ a, result w.ticked = .ok a → Q a w.ticked w'.ticked) :
    (reading env op result).Respects R Q := by
  intro w w' hR
  have hrun : ∀ v, reading env op result v = (match env.fault v.tick op with
      | some f => (.error f.source, v.ticked)
      | none => (result v.ticked, v.ticked)) := by
    intro v
    simp only [reading, bind, nextTick, Command.read, Command.update, pure]
    cases env.fault v.tick op <;> rfl
  rw [hrun, hrun, htick w w' hR]
  cases env.fault w'.tick op with
  | some f => exact ⟨rfl, fun _ h => by cases h⟩
  | none => exact h w w' hR

/-- An operation that writes fails or succeeds depending on when it is made only. -/
theorem respects_writing {effect : World → World} {broken : Text → World → World}
    {Q : Unit → World → World → Prop}
    (h : ∀ w w', R w w' → Q () (effect w.ticked) (effect w'.ticked)) :
    (writing env op effect broken).Respects R Q := by
  intro w w' hR
  have hrun : ∀ v, writing env op effect broken v = (match env.fault v.tick op with
      | some f => (.error f.source, (f.leaves.map fun text => broken text v.ticked).getD v.ticked)
      | none => (.ok (), effect v.ticked)) := by
    intro v
    simp only [writing, bind, nextTick, Command.read, Command.update, pure]
    cases env.fault v.tick op <;> rfl
  rw [hrun, hrun, htick w w' hR]
  cases env.fault w'.tick op with
  | some f => exact ⟨rfl, fun _ h => by cases h⟩
  | none => exact ⟨rfl, fun _ _ => h w w' hR⟩

end Respects

end Os

/-- Everything that persists, apart from the number of operations. -/
def World.data (w : World) : OrdMap Text Text × OrdMap Text EntryDir × List Publication :=
  (w.files, w.keyStore, w.published)

@[simp]
theorem World.data_ticked (w : World) : w.ticked.data = w.data := rfl

theorem World.data_eq_iff {w w' : World} :
    w'.data = w.data ↔
      w'.files = w.files ∧ w'.keyStore = w.keyStore ∧ w'.published = w.published := by
  simp [data]

end Swiyu
