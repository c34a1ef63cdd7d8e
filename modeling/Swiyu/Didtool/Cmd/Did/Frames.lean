import Swiyu.Didtool.Cmd.Did.Create
import Swiyu.Didtool.Cmd.Did.Deactivate
import Swiyu.Didtool.Cmd.Did.Rotate

/-!
# What the steps of a command leave as it is

Everything up to the first write only reads. Writing the log leaves the key store as it is, and
writing the keys leaves the logs as they are.

## Main results

- `Swiyu.Rotate.keeps_prepare`, `Swiyu.Deactivate.keeps_prepare`, `Swiyu.Create.keeps_prepare`:
  the preparation of a command changes nothing.
- `Swiyu.keeps_writeLog`, `Swiyu.keeps_addVersion`, `Swiyu.keeps_commit`: what is left by the
  writes.
-/

namespace Swiyu

variable {X : ToolCrates} {env : Env} {γ : Type} {f : World → γ}

/-! ## Reading -/

section Reading

variable (hf : ∀ w, f w.ticked = f w)

include hf

theorem keeps_lookup {did : DID} : (KeyStore.lookup X env did).Keeps f := by
  refine .bind .read fun present => .ite .pure ?_
  refine .bind (.mapError (Os.keeps_reading hf)) fun stored => ?_
  exact .ite .fail .pure

theorem keeps_lookupByHash {hash : Text} : (KeyStore.lookupByHash env hash).Keeps f := by
  refine .bind .read fun present => .ite .pure ?_
  exact .bind (.mapError (Os.keeps_reading hf)) fun stored => .pure

theorem keeps_latestVersion {entry : KeyStoreEntry} : (entry.latestVersion env).Keeps f :=
  .bind (.mapError (Os.keeps_reading hf)) fun _ => .ofExcept

theorem keeps_load {entry : KeyStoreEntry} {parse : Text → Except CryptoError (FixedBytes 32)}
    {role : KeyRole} {n : ℕ} : (entry.load env parse role (some n)).Keeps f := by
  refine .bind .pure fun v => .bind .read fun present => .ite .fail ?_
  exact .bind (.mapError (Os.keeps_reading hf)) fun pem => .ofExcept

theorem keeps_readPrivateKey {parse : Text → Except CryptoError (FixedBytes 32)} {path : Text} :
    (readPrivateKey env parse path).Keeps f :=
  .bind (.mapError (Os.keeps_reading hf)) fun _ => .ofExcept

theorem keeps_resolveDid {target : Text} : (resolveDid env target).Keeps f := by
  refine .ite ?_ .ofExcept
  exact .bind (.mapError (keeps_lookupByHash hf)) fun _ => .bind .ofExcept fun _ => .ofExcept

theorem keeps_readLog {did input : Option Text} : (readLog env did input).Keeps f := by
  cases did with
  | some target =>
    refine .bind (.mapError (keeps_resolveDid hf)) fun resolved => ?_
    exact .bind (.bind (Os.keeps_ask hf) fun _ => .ofExcept) fun _ => .pure
  | none => exact .bind (.mapError (Os.keeps_reading hf)) fun _ => .pure

theorem keeps_loadLog {did input : Option Text} : (loadLog X.toCrates env did input).Keeps f := by
  refine .ite .fail (.bind (keeps_readLog hf) fun ⟨text, path, target⟩ => ?_)
  exact .bind .ofExcept fun _ => .bind .ofExcept fun _ => .pure

theorem keeps_loadSigner {log : DIDLog} : (loadSigner X env log).Keeps f := by
  refine .bind .ofExcept fun ⟨didStr, did⟩ => .bind (.mapError (keeps_lookup hf)) fun _ => ?_
  refine .bind .ofExcept fun entry => .bind (.mapError (keeps_latestVersion hf)) fun n => ?_
  exact .bind (.mapError (keeps_load hf)) fun _ => .pure

theorem keeps_computeVersionTime {ε : Type} {time : Text} :
    (computeVersionTime X env time : Command World ε Text).Keeps f :=
  .bind (Os.keeps_ask hf) fun _ => .pure

namespace Rotate

omit hf in
theorem keeps_stageKey {role : Text} {kept : KeyStoreCommand (FixedBytes 32)}
    {generated : RotateCommand (FixedBytes 32)}
    {read : Text → Command World CryptoError (FixedBytes 32)} (hkept : kept.Keeps f)
    (hgenerated : generated.Keeps f) (hread : ∀ path, (read path).Keeps f) (action : Action) :
    (stageKey role kept generated read action).Keeps f := by
  cases action with
  | keep => exact .mapError hkept
  | generate => exact hgenerated
  | «import» path => exact .mapError (hread path)

theorem keeps_stageKeys {entry : KeyStoreEntry} {n : ℕ} {plan : Plan} :
    (stageKeys X env entry n plan).Keeps f := by
  refine .bind (keeps_stageKey (keeps_load hf) (Os.keeps_ask hf)
    (fun _ => keeps_readPrivateKey hf) _) fun _ => ?_
  refine .bind (keeps_stageKey (keeps_load hf) (Os.keeps_ask hf)
    (fun _ => keeps_readPrivateKey hf) _) fun _ => ?_
  exact .bind (keeps_stageKey (keeps_load hf) (Os.keeps_ask hf)
    (fun _ => keeps_readPrivateKey hf) _) fun _ => .pure

/-- The preparation of a rotation changes nothing. -/
theorem keeps_prepare {args : RotateArgs} : (prepare X env args).Keeps f := by
  refine .bind .ofExcept fun plan => .bind .ofExcept fun _ => ?_
  refine .bind (.mapError (keeps_loadLog hf)) fun loaded => .bind .ofExcept fun last => ?_
  refine .bind (.mapError (keeps_loadSigner hf)) fun signer => ?_
  refine .bind (keeps_stageKeys hf) fun staged => ?_
  exact .bind (keeps_computeVersionTime hf) fun _ => .pure

end Rotate

/-- The preparation of a deactivation changes nothing. -/
theorem Deactivate.keeps_prepare {args : UpdateArgs} : (prepare X env args).Keeps f := by
  refine .bind .ofExcept fun _ => .bind (.mapError (keeps_loadLog hf)) fun loaded => ?_
  refine .bind .ofExcept fun last => .bind .ofExcept fun document => ?_
  refine .bind (.mapError (keeps_loadSigner hf)) fun signer => ?_
  exact .bind (keeps_computeVersionTime hf) fun _ => .pure

namespace Create

omit hf in
theorem keeps_prepareKey {path : Option Text}
    {read : Text → Command World CryptoError (FixedBytes 32)} {error : CryptoError → CreateError}
    {generated : CreateCommand (FixedBytes 32)}
    (hread : ∀ path, (read path).Keeps f) (hgenerated : generated.Keeps f) :
    (prepareKey path read error generated).Keeps f := by
  cases path with
  | some p => exact .mapError (hread p)
  | none => exact hgenerated

theorem keeps_prepareKeys {args : CreateArgs} : (prepareKeys X env args).Keeps f := by
  refine .bind (keeps_prepareKey (fun _ => keeps_readPrivateKey hf) (Os.keeps_ask hf)) fun _ => ?_
  refine .bind (keeps_prepareKey (fun _ => keeps_readPrivateKey hf) (Os.keeps_ask hf)) fun _ => ?_
  refine .bind (keeps_prepareKey (fun _ => keeps_readPrivateKey hf) (Os.keeps_ask hf)) fun _ => ?_
  exact .bind .ofExcept fun _ => .pure

theorem keeps_resolveUrl {args : CreateArgs} : (resolveUrl env args).Keeps f := by
  unfold resolveUrl
  cases args.url <;> cases args.swiyu
  · exact .fail
  · refine .bind .ofExcept fun ⟨partnerId, registryUrl⟩ => ?_
    exact .bind (.mapError (.bind (Os.keeps_nextTick hf) fun _ => .ofExcept)) fun _ => .pure
  · exact .pure
  · exact .fail

/-- The preparation of a creation changes nothing. -/
theorem keeps_prepare {args : CreateArgs} : (prepare X env args).Keeps f := by
  refine .bind .ofExcept fun _ => .bind (keeps_resolveUrl hf) fun ⟨url, space⟩ => ?_
  refine .bind .ofExcept fun ⟨domain, path⟩ => .bind (keeps_prepareKeys hf) fun staged => ?_
  refine .bind .ofExcept fun placeholder => .bind ?_ fun now => ?_
  · exact .bind (Os.keeps_ask hf) fun _ => .pure
  · exact .bind .ofExcept fun _ => .pure

end Create

end Reading

/-! ## Writing logs -/

section WritingLogs

variable (hf : ∀ w, f w.ticked = f w) (hfiles : ∀ w files, f { w with files } = f w)

include hf hfiles

theorem keeps_write {path text : Text} : (Os.write env path text).Keeps f :=
  Os.keeps_writing hf (fun _ => hfiles _ _) fun _ _ => hfiles _ _

theorem keeps_rename {source target : Text} : (Os.rename env source target).Keeps f := by
  refine Os.keeps_writing hf (fun w => ?_) fun _ _ => rfl
  rw [Os.moveFile]
  cases w.files.get source with
  | none => rfl
  | some text => exact hfiles _ _

/-- Writing a log changes nothing but files. -/
theorem keeps_writeLog {content : Text} {sourcePath out : Option Text} {force : Bool} :
    (writeLog env content sourcePath out force).Keeps f := by
  cases out with
  | some path =>
    refine .bind .read fun present => .ite .fail ?_
    exact .bind (.mapError (keeps_write hf hfiles)) fun _ => .pure
  | none =>
    cases sourcePath with
    | some source =>
      refine .bind (.mapError ?_) fun _ => .pure
      exact .bind (keeps_write hf hfiles) fun _ => keeps_rename hf hfiles
    | none => exact .pure

theorem keeps_writePendingLog {content : Text} : (writePendingLog env content).Keeps f := by
  have hfrom : ∀ l, (writePendingFrom env content l).Keeps f := by
    intro l
    induction l with
    | nil => exact .fail
    | cons n rest ih =>
      refine .bind .read fun present => .ite ih ?_
      exact .bind (.mapError (keeps_write hf hfiles)) fun _ => .pure
  exact hfrom _

end WritingLogs

/-! ## Writing keys -/

section WritingKeys

variable (hf : ∀ w, f w.ticked = f w) (hkeyStore : ∀ w keyStore, f { w with keyStore } = f w)

include hf hkeyStore

theorem keeps_writePem {hash snapshot : Text} {role : KeyRole} {isPrivate : Bool}
    {pem : Except Text Text} : (writePem env hash snapshot role isPrivate pem).Keeps f := by
  refine .bind .ofExcept fun text => .mapError ?_
  exact Os.keeps_writing hf (fun _ => hkeyStore _ _) fun _ _ => hkeyStore _ _

theorem keeps_writeKeys {hash snapshot : Text} {staged : StagedKeys} :
    (writeKeys X env hash snapshot staged).Keeps f := by
  have hpem (role : KeyRole) (isPrivate : Bool) (pem : Except Text Text) :
      (writePem env hash snapshot role isPrivate pem).Keeps f := keeps_writePem hf hkeyStore
  refine .bind (.mapError ?_) fun _ => .bind (hpem _ _ _) fun _ => .bind (hpem _ _ _) fun _ =>
    .bind (hpem _ _ _) fun _ => .bind (hpem _ _ _) fun _ => .bind (hpem _ _ _) fun _ => hpem _ _ _
  exact Os.keeps_writing hf (fun _ => hkeyStore _ _) fun _ _ => hkeyStore _ _

/-- Adding a snapshot changes nothing but the key store. -/
theorem keeps_addVersion {entry : KeyStoreEntry} {staged : StagedKeys} :
    (entry.addVersion X env staged).Keeps f :=
  .bind (keeps_latestVersion hf) fun _ => .bind (keeps_writeKeys hf hkeyStore) fun _ => .pure

/-- Committing the keys of a new DID changes nothing but the key store. -/
theorem keeps_commit {staged : StagedKeys} {did : DID} :
    (KeyStore.commit X env staged did).Keeps f := by
  refine .bind .read fun present => .ite .fail ?_
  refine .bind (keeps_writeKeys hf hkeyStore) fun _ => .bind (.mapError ?_) fun _ => .pure
  exact Os.keeps_writing hf (fun _ => hkeyStore _ _) fun _ _ => hkeyStore _ _

end WritingKeys

end Swiyu
