import Swiyu.Didtool.Cmd.Did.Life
import Swiyu.Didtool.Cmd.DidLog.Target

/-!
# What the registry is sent

Over the life of a DID its log is uploaded to a registry, now and then and not always with success:
an upload may be switched off, refused, or stored without the tool getting to know. Whatever comes
of the uploads, the registry never sees a fork: what it is sent are accepted logs, each of which
continues those before it and is continued by the log in the file.

## Main definitions

- `Swiyu.Upkeep`: the worlds that the life of a DID reaches, with what has been uploaded on the way.
- `Swiyu.Settled`: what holds of them.

## Main results

- `Swiyu.growing_of_upkeep`: the uploaded logs are accepted, and each continues those before it.
- `Swiyu.loadLog_of_upkeep`: whoever is served one of them finds a log that the file continues, with
  the keys that are in the key store.
-/

namespace Swiyu

variable {X : ToolCrates} {env : Env} {w w' : World} {did : DID} {path : Text}

/-! ## Uploads -/

/-- What has been uploaded from one world to another is a text, without the white space at its
end. -/
def Sends (text : Text) (w w' : World) : Prop :=
  ∃ sent, w'.published = w.published ++ sent ∧ ∀ p ∈ sent, p.body = Text.trimEnd text

theorem Sends.of_eq {text : Text} (h : w'.published = w.published) : Sends text w w' :=
  ⟨[], by rw [h, List.append_nil], fun _ hp => absurd hp List.not_mem_nil⟩

/-- An upload sends its body, if it is not refused. -/
theorem sends_publish {p : Publication} {text : Text} (hp : p.body = Text.trimEnd text) :
    (Os.publish env p).Triple w (fun _ w' => Sends text w w') fun w' => Sends text w w' := by
  have hstored : Sends text w (Os.putPublication p w.ticked) := by
    refine ⟨[p], rfl, fun q hq => ?_⟩
    rw [List.mem_singleton.mp hq, hp]
  refine Os.triple_publish.mono ?_ ?_
  · rintro - w' rfl
    exact hstored
  · rintro w' (⟨-, rfl⟩ | ⟨-, rfl⟩)
    · exact hstored
    · exact .of_eq rfl

/-- An update that has been written to a file is uploaded as it is there. -/
theorem sends_publishLog {args : UpdateArgs} {didStr updatedLog : Text} {saved : Text} :
    (publishLog env args didStr did updatedLog (some saved)).Triple w
      (fun _ w' => Sends updatedLog w w') fun w' => Sends updatedLog w w' := by
  have hnone : Sends updatedLog w w := .of_eq rfl
  refine .ite (fun _ => .pure hnone) fun _ => ?_
  refine .bind (Q := fun _ w' => w' = w) (.ofExcept (fun _ _ => rfl) fun _ _ => hnone) ?_
  rintro ⟨partnerId, registryUrl⟩ _ rfl
  refine .bind (Q := fun _ w' => w' = _) (.ofExcept (fun _ _ => rfl) fun _ _ => hnone) ?_
  rintro identifier _ rfl
  refine .orElse (sends_publish rfl) fun source w' h => ?_
  exact .fail h

/-- An update that succeeds has been uploaded, unless it was not to be. -/
theorem published_publishLog {args : UpdateArgs} {didStr updatedLog saved : Text}
    (hpublish : args.noPublish = false) :
    (publishLog env args didStr did updatedLog (some saved)).Triple w
      (fun _ w' => ∃ p, w'.published = w.published ++ [p]) fun _ => True := by
  refine .ite (fun hno => absurd hno (by simp [hpublish])) fun _ => ?_
  refine .bind (Q := fun _ w' => w' = w) (.ofExcept (fun _ _ => rfl) fun _ _ => trivial) ?_
  rintro ⟨partnerId, registryUrl⟩ _ rfl
  refine .bind (Q := fun _ w' => w' = _) (.ofExcept (fun _ _ => rfl) fun _ _ => trivial) ?_
  rintro identifier _ rfl
  refine .orElse (Os.triple_publish.mono ?_ fun _ _ => trivial) fun source w' h => ?_
  · rintro - w' rfl
    exact ⟨_, rfl⟩
  · exact .fail h

/-- A creation uploads the log that it has written. -/
theorem Create.sends_publish {args : CreateArgs} {prepared : Create.Prepared} :
    (Create.publish X env args prepared).Triple w
      (fun _ w' => Sends (prepared.genesis.line X) w w') fun w' =>
        Sends (prepared.genesis.line X) w w' := by
  unfold publish
  split
  · refine .bind (Q := fun _ w' => Sends (prepared.genesis.line X) w w') ?_ fun _ w' h => .pure h
    exact .mapError (Swiyu.sends_publish rfl)
  · exact .pure (.of_eq rfl)

/-! ## The last step of a command -/

/-- What is made of a result has no effect. -/
theorem Command.snd_bind_pure {σ ε α β : Type} {s : σ} {x : Command σ ε α} {f : α → β} :
    ((x >>= fun a => pure (f a)) s).2 = (x s).2 := by
  simp only [Bind.bind]
  rcases x s with ⟨_ | a, s'⟩ <;> rfl

/-- A creation gets to its upload: its log is written and its keys are committed. -/
def Create.Reaches (X : ToolCrates) (env : Env) (args : CreateArgs) (w : World)
    (prepared : Create.Prepared) (w₃ : World) : Prop :=
  ∃ w₁ w₂ entry, prepare X env args w = (.ok prepared, w₁) ∧
    save X env args prepared w₁ = (.ok (), w₂) ∧ commit X env prepared w₂ = (.ok entry, w₃)

/-- A rotation gets to its upload: its log is written and its keys are committed. -/
def Rotate.Reaches (X : ToolCrates) (env : Env) (args : RotateArgs) (w : World)
    (prepared : Rotate.Prepared) (written : Option Text) (w₃ : World) : Prop :=
  ∃ w₁ w₂ number, prepare X env args w = (.ok prepared, w₁) ∧
    save X env args prepared w₁ = (.ok written, w₂) ∧ commit X env prepared w₂ = (.ok number, w₃)

/-- A deactivation gets to its upload: its log is written. -/
def Deactivate.Reaches (X : ToolCrates) (env : Env) (args : UpdateArgs) (w : World)
    (prepared : Deactivate.Prepared) (written : Option Text) (w₂ : World) : Prop :=
  ∃ w₁, prepare X env args w = (.ok prepared, w₁) ∧
    writeLog env (prepared.updatedLog X) prepared.loaded.sourcePath args.out args.force w₁ =
      (.ok written, w₂)

/-- A creation that gets to its upload ends as the upload does. -/
theorem Create.Reaches.snd_eq {args : CreateArgs} {prepared : Create.Prepared} {w₃ : World}
    (h : Create.Reaches X env args w prepared w₃) :
    (cmdCreate X env args w).2 = (publish X env args prepared w₃).2 := by
  obtain ⟨w₁, w₂, entry, hprepare, hsave, hcommit⟩ := h
  rw [cmdCreate, Command.bind_of_eq_ok hprepare, Command.bind_of_eq_ok hsave,
    Command.bind_of_eq_ok hcommit, Command.snd_bind_pure]

/-- A rotation that gets to its upload ends as the upload does. -/
theorem Rotate.Reaches.snd_eq {args : RotateArgs} {prepared : Rotate.Prepared}
    {written : Option Text} {w₃ : World} (h : Rotate.Reaches X env args w prepared written w₃) :
    (cmdRotate X env args w).2 = (publish X env args prepared written w₃).2 := by
  obtain ⟨w₁, w₂, number, hprepare, hsave, hcommit⟩ := h
  rw [cmdRotate, Command.bind_of_eq_ok hprepare, Command.bind_of_eq_ok hsave,
    Command.bind_of_eq_ok hcommit, Command.snd_bind_pure]

/-- A deactivation that gets to its upload ends as the upload does. -/
theorem Deactivate.Reaches.snd_eq {args : UpdateArgs} {prepared : Deactivate.Prepared}
    {written : Option Text} {w₂ : World} (h : Deactivate.Reaches X env args w prepared written w₂) :
    (cmdDeactivate X env args w).2 =
      (publishLog env args prepared.signer.didStr prepared.signer.did (prepared.updatedLog X)
        written w₂).2 := by
  obtain ⟨w₁, hprepare, hsave⟩ := h
  rw [cmdDeactivate, Command.bind_of_eq_ok hprepare,
    Command.bind_of_eq_ok (Command.mapError_eq_ok_iff.mpr hsave), Command.snd_bind_pure]
  rfl

/-- A creation that succeeds has got to its upload. -/
theorem Create.reaches_of_ok {args : CreateArgs} {report : Create.Report}
    (h : cmdCreate X env args w = (.ok report, w')) : ∃ prepared w₃,
      Create.Reaches X env args w prepared w₃ ∧ prepared.genesis.did = report.did := by
  simp only [cmdCreate, Command.bind_eq_ok_iff, Command.pure_eq_ok_iff] at h
  obtain ⟨prepared, w₁, hprepare, _, w₂, hsave, entry, w₃, hcommit, published, w₄, -, rfl, -⟩ := h
  exact ⟨prepared, w₃, ⟨w₁, w₂, entry, hprepare, hsave, hcommit⟩, rfl⟩

/-- A rotation that succeeds has got to its upload, and has made it. -/
theorem Rotate.reaches_of_ok {args : RotateArgs} {report : Rotate.Report}
    (h : cmdRotate X env args w = (.ok report, w')) : ∃ prepared w₃,
      Rotate.Reaches X env args w prepared report.writtenTo w₃ ∧
        publish X env args prepared report.writtenTo w₃ = (.ok (), w') := by
  simp only [cmdRotate, Command.bind_eq_ok_iff, Command.pure_eq_ok_iff] at h
  obtain ⟨prepared, w₁, hprepare, written, w₂, hsave, number, w₃, hcommit, _, _, hpublish, rfl,
    rfl⟩ := h
  exact ⟨prepared, w₃, ⟨w₁, w₂, number, hprepare, hsave, hcommit⟩, hpublish⟩

/-- From `w` to `w'` nothing has been uploaded but a text, at most, and since `w₁` nothing else has
happened. -/
structure Uploads (text : Text) (w w₁ w' : World) : Prop where
  files : w'.files = w₁.files
  keyStore : w'.keyStore = w₁.keyStore
  sends : Sends text w w'

/-- What happens before the upload is no upload. -/
theorem Sends.of_published_eq {text : Text} {w₁ : World} (h : Sends text w₁ w')
    (hpublished : w₁.published = w.published) : Sends text w w' := by
  obtain ⟨sent, hsent, hbody⟩ := h
  exact ⟨sent, by rw [hsent, hpublished], hbody⟩

/-- The upload of a creation is that of its log. -/
theorem Create.Reaches.uploads {args : CreateArgs} {prepared : Create.Prepared} {w₃ : World}
    (h : Create.Reaches X env args w prepared w₃) :
    Uploads (prepared.genesis.line X) w w₃ (cmdCreate X env args w).2 := by
  rw [h.snd_eq]
  obtain ⟨w₁, w₂, entry, hprepare, hsave, hcommit⟩ := h
  simp only [save, commit, Command.mapError_eq_ok_iff] at hsave hcommit
  have hpublished : w₃.published = w.published := calc
    w₃.published = w₂.published := (keeps_commit (fun _ => rfl) fun _ _ => rfl).eq hcommit
    _ = w₁.published := (keeps_write (fun _ => rfl) fun _ _ => rfl).eq hsave
    _ = w.published := (keeps_prepare fun _ => rfl).eq hprepare
  exact ⟨keeps_publish (fun _ => rfl) (fun _ _ => rfl) w₃,
    keeps_publish (fun _ => rfl) (fun _ _ => rfl) w₃,
    sends_publish.state.of_published_eq hpublished⟩

/-- A rotation that gets to its upload has uploaded nothing before. -/
theorem Rotate.Reaches.published_eq {args : RotateArgs} {prepared : Rotate.Prepared}
    {written : Option Text} {w₃ : World} (h : Rotate.Reaches X env args w prepared written w₃) :
    w₃.published = w.published := by
  obtain ⟨w₁, w₂, number, hprepare, hsave, hcommit⟩ := h
  simp only [save, commit, Command.mapError_eq_ok_iff] at hsave hcommit
  calc
    w₃.published = w₂.published := (keeps_addVersion (fun _ => rfl) fun _ _ => rfl).eq hcommit
    _ = w₁.published := (keeps_writeLog (fun _ => rfl) fun _ _ => rfl).eq hsave
    _ = w.published := (keeps_prepare fun _ => rfl).eq hprepare

/-- The upload of a rotation in place is that of the updated log. -/
theorem Rotate.Reaches.uploads {args : RotateArgs} {prepared : Rotate.Prepared} {saved : Text}
    {w₃ : World} (h : Rotate.Reaches X env args w prepared (some saved) w₃) :
    Uploads (prepared.updatedLog X) w w₃ (cmdRotate X env args w).2 := by
  rw [h.snd_eq]
  have hkeyStore : (publish X env args prepared (some saved)).Keeps World.keyStore :=
    .mapError keeps_publishLog
  have hsends : Sends (prepared.updatedLog X) w₃ (publish X env args prepared (some saved) w₃).2 :=
    Command.Triple.state (.mapError sends_publishLog)
  exact ⟨keeps_publish_some w₃, hkeyStore w₃, hsends.of_published_eq h.published_eq⟩

/-- The upload of a deactivation in place is that of the updated log. -/
theorem Deactivate.Reaches.uploads {args : UpdateArgs} {prepared : Deactivate.Prepared}
    {saved : Text} {w₂ : World} (h : Deactivate.Reaches X env args w prepared (some saved) w₂) :
    Uploads (prepared.updatedLog X) w w₂ (cmdDeactivate X env args w).2 := by
  rw [h.snd_eq]
  obtain ⟨w₁, hprepare, hsave⟩ := h
  have hpublished : w₂.published = w.published := calc
    w₂.published = w₁.published := (keeps_writeLog (fun _ => rfl) fun _ _ => rfl).eq hsave
    _ = w.published := (keeps_prepare fun _ => rfl).eq hprepare
  exact ⟨Rotate.keeps_publishLog_some w₂, keeps_publishLog w₂,
    sends_publishLog.state.of_published_eq hpublished⟩

/-- All that has been uploaded is the text. -/
theorem Uploads.body_eq {text : Text} {w₁ : World} {sent : List Publication}
    (h : Uploads text w w₁ w') (hsent : w'.published = w.published ++ sent) :
    ∀ p ∈ sent, p.body = Text.trimEnd text := by
  obtain ⟨sent', hsent', hbody⟩ := h.sends
  obtain rfl := List.append_cancel_left (hsent.symm.trans hsent')
  exact hbody

/-! ## Upkeep -/

variable (X path) in
/-- The worlds that the life of a DID reaches, whether it may be continued, the number of its keys,
and what has been uploaded on the way: it is created in the file at `path`, rotated and in the end
deactivated there, by commands that get to their upload, whatever comes of it. In between other
files and other entries of the key store may change in any way, and registries may receive other
logs. -/
inductive Upkeep (did : DID) : Bool → ℕ → List Publication → World → Prop
  | created {env : Env} {args : CreateArgs} {w w₃ : World} {prepared : Create.Prepared}
      {sent : List Publication} (hordinary : Create.Ordinary X env args w) (hout : args.out = path)
      (hreaches : Create.Reaches X env args w prepared w₃) (hdid : prepared.genesis.did = did)
      (hsent : (Create.cmdCreate X env args w).2.published = w.published ++ sent) :
      Upkeep did true 1 sent (Create.cmdCreate X env args w).2
  | rotated {n : ℕ} {ps sent : List Publication} {env : Env} {args : RotateArgs} {w w₃ : World}
      {prepared : Rotate.Prepared} {written : Option Text} (h : Upkeep did true n ps w)
      (hargs : InPlace path args.toUpdateArgs)
      (hreaches : Rotate.Reaches X env args w prepared written w₃)
      (hsent : (Rotate.cmdRotate X env args w).2.published = w.published ++ sent) :
      Upkeep did true (n + 1) (ps ++ sent) (Rotate.cmdRotate X env args w).2
  | deactivated {n : ℕ} {ps sent : List Publication} {env : Env} {args : UpdateArgs} {w w₂ : World}
      {prepared : Deactivate.Prepared} {written : Option Text} (h : Upkeep did true n ps w)
      (hargs : InPlace path args)
      (hreaches : Deactivate.Reaches X env args w prepared written w₂)
      (hsent : (Deactivate.cmdDeactivate X env args w).2.published = w.published ++ sent) :
      Upkeep did false n (ps ++ sent) (Deactivate.cmdDeactivate X env args w).2
  | elsewhere {live : Bool} {n : ℕ} {ps : List Publication} {w w' : World}
      (h : Upkeep did live n ps w) (hfile : w'.files.get path = w.files.get path)
      (hkeys : w'.keyStore.get (didToHash X did.toText) = w.keyStore.get (didToHash X did.toText))
      (hpublished : w.published <+: w'.published) : Upkeep did live n ps w'

/-- A creation that succeeds is the beginning. -/
theorem Upkeep.of_cmdCreate {args : CreateArgs} {report : Create.Report}
    (hordinary : Create.Ordinary X env args w) (hout : args.out = path) (hnone : w.published = [])
    (hrun : Create.cmdCreate X env args w = (.ok report, w')) (hdid : report.did = did) :
    Upkeep X path did true 1 w'.published w' := by
  obtain ⟨prepared, w₃, hreaches, hprepared⟩ := Create.reaches_of_ok hrun
  obtain rfl : (Create.cmdCreate X env args w).2 = w' := congrArg Prod.snd hrun
  refine .created hordinary hout hreaches (hprepared.trans hdid) ?_
  rw [hnone, List.nil_append]

/-- A rotation that succeeds is a step, with one upload more unless there was to be none. -/
theorem Upkeep.of_cmdRotate {n : ℕ} {ps : List Publication} {args : RotateArgs}
    {report : Rotate.Report} {saved : Text} (h : Upkeep X path did true n ps w)
    (hargs : InPlace path args.toUpdateArgs) (hpublish : args.noPublish = false)
    (hrun : Rotate.cmdRotate X env args w = (.ok report, w'))
    (hwritten : report.writtenTo = some saved) :
    ∃ p, w'.published = w.published ++ [p] ∧ Upkeep X path did true (n + 1) (ps ++ [p]) w' := by
  obtain ⟨prepared, w₃, hreaches, hsend⟩ := Rotate.reaches_of_ok hrun
  rw [hwritten] at hreaches hsend
  obtain ⟨p, hsent⟩ :=
    (published_publishLog hpublish).1 () _ (Command.mapError_eq_ok_iff.mp hsend)
  rw [hreaches.published_eq] at hsent
  obtain rfl : (Rotate.cmdRotate X env args w).2 = w' := congrArg Prod.snd hrun
  exact ⟨p, hsent, .rotated h hargs hreaches hsent⟩

/-- A text is read as a log that is accepted for a DID. -/
def Carries (X : ToolCrates) (did : DID) (text : Text) (log : DIDLog) : Prop :=
  DIDLog.tryFromJsonl X.toCrates text = .ok log ∧ verifyLog X.toCrates log did = .ok ()

/-- The file holds an accepted log that announces the keys in the key store, in all of its entries
but one that deactivates the DID; what has been uploaded are accepted logs too, and each log is
continued by those after it, the one in the file being the last. -/
def Settled (X : ToolCrates) (path : Text) (did : DID) (live : Bool) (history : List StagedKeys)
    (ps : List Publication) (w : World) : Prop :=
  DID.fromStr did.toText = .ok did ∧ ∃ text log logs,
    w.files.get path = some text ∧ Carries X did text log ∧
    List.Forall₂ (fun p l => Carries X did (Publication.body p) l) ps logs ∧
    (logs ++ [log]).Pairwise (fun l l' => l.entries <+: l'.entries) ∧
    log.entries.length = history.length + (if live = true then 0 else 1) ∧
    KeyHistory X did (log.entries.take history.length) history ∧ Archive X w did history

section Settled

variable {live : Bool} {n : ℕ} {history : List StagedKeys} {ps sent : List Publication}
  {text : Text} {log : DIDLog}

/-- A chain is continued by any number of copies of an element after its last one. -/
theorem pairwise_extend {α : Type*} {R : α → α → Prop} (hrefl : ∀ a, R a a)
    (htrans : ∀ a b c, R a b → R b c → R a c) {l l' : List α} {a b : α}
    (h : (l ++ [a]).Pairwise R) (hab : R a b) (hl' : ∀ x ∈ l', x = b) :
    (l ++ l' ++ [b]).Pairwise R := by
  obtain ⟨hl, -, hla⟩ := List.pairwise_append.mp h
  have hlast : ∀ x ∈ l' ++ [b], x = b := by
    simp only [List.mem_append, List.mem_singleton]
    rintro x (hx | rfl)
    · exact hl' x hx
    · rfl
  rw [List.append_assoc, List.pairwise_append]
  refine ⟨hl, List.pairwise_of_forall_mem_list fun x hx y hy => ?_, fun x hx y hy => ?_⟩
  · rw [hlast x hx, hlast y hy]
    exact hrefl b
  · rw [hlast y hy]
    exact htrans x a b (hla x hx a (List.mem_singleton.mpr rfl)) hab

theorem Settled.congr (h : Settled X path did live history ps w)
    (hfile : w'.files.get path = w.files.get path)
    (hkeys : w'.keyStore.get (didToHash X did.toText) = w.keyStore.get (didToHash X did.toText)) :
    Settled X path did live history ps w' := by
  obtain ⟨hdid, text, log, logs, hget, hcarries, hps, hgrowing, hlength, hhistory, harchive⟩ := h
  exact ⟨hdid, text, log, logs, hfile.trans hget, hcarries, hps, hgrowing, hlength, hhistory,
    harchive.congr hkeys⟩

/-- A life that may be continued has its log in the file. -/
theorem Settled.holds (h : Settled X path did true history ps w) : Holds X path did history w := by
  obtain ⟨hdid, text, log, logs, hget, ⟨hread, haccepted⟩, -, -, hlength, hhistory, harchive⟩ := h
  rw [if_pos rfl, Nat.add_zero] at hlength
  rw [List.take_of_length_le hlength.le] at hhistory
  exact ⟨text, log, hget, hread, hdid, haccepted, harchive, hhistory⟩

/-- The text of an accepted log is uploaded as one that carries it. -/
theorem carries_of_sends (hcarries : Carries X did text log)
    (hsent : ∀ p ∈ sent, p.body = Text.trimEnd text) :
    List.Forall₂ (fun p l => Carries X did (Publication.body p) l)
      sent (sent.map fun _ => log) := by
  rw [List.forall₂_map_right_iff, List.forall₂_same]
  intro p hp
  rw [hsent p hp]
  exact ⟨tryFromJsonl_trimEnd_eq_ok_iff.mpr hcarries.1, hcarries.2⟩

/-- What a step makes of the uploads, if it leaves a log that continues the one before it. -/
theorem Settled.extend {live' : Bool} {history' : List StagedKeys} {text' : Text} {log' : DIDLog}
    (h : Settled X path did live history ps w) (hfile : w.files.get path = some text)
    (hread : DIDLog.tryFromJsonl X.toCrates text = .ok log)
    (hfile' : w'.files.get path = some text') (hcarries : Carries X did text' log')
    (hcontinues : log.entries <+: log'.entries) (hsent : ∀ p ∈ sent, p.body = Text.trimEnd text')
    (hlength : log'.entries.length = history'.length + (if live' = true then 0 else 1))
    (hhistory : KeyHistory X did (log'.entries.take history'.length) history')
    (harchive : Archive X w' did history') :
    Settled X path did live' history' (ps ++ sent) w' := by
  obtain ⟨hdid, text₀, log₀, logs, hget, ⟨hread₀, -⟩, hps, hgrowing, -⟩ := h
  obtain rfl := Option.some.inj (hget.symm.trans hfile)
  obtain rfl := Except.ok.inj (hread₀.symm.trans hread)
  refine ⟨hdid, text', log', logs ++ sent.map fun _ => log', hfile', hcarries,
    List.rel_append hps (carries_of_sends hcarries hsent), ?_, hlength, hhistory, harchive⟩
  refine pairwise_extend (R := fun l l' : DIDLog => l.entries <+: l'.entries)
    (fun _ => List.prefix_rfl) (fun _ _ _ => List.IsPrefix.trans) hgrowing hcontinues fun l hl => ?_
  obtain ⟨-, -, rfl⟩ := List.mem_map.mp hl
  rfl

end Settled

/-! ## The steps -/

section Steps

variable {n : ℕ} {history : List StagedKeys} {ps sent : List Publication}

/-- A creation that gets to its upload settles the DID. -/
theorem settled_of_created (hX : X.Lawful) {args : CreateArgs} {w₃ : World}
    {prepared : Create.Prepared} (hordinary : Create.Ordinary X env args w) (hout : args.out = path)
    (hreaches : Create.Reaches X env args w prepared w₃) (hdid : prepared.genesis.did = did)
    (hsent : (Create.cmdCreate X env args w).2.published = w.published ++ sent) :
    Settled X path did true [prepared.staged] sent (Create.cmdCreate X env args w).2 := by
  have huploads := hreaches.uploads
  obtain ⟨w₁, w₂, entry, hprepare, hsave, hcommit⟩ := hreaches
  obtain ⟨hwritten, hholds⟩ := Create.holds_of_commit hX hordinary hprepare hsave hcommit
  rw [hout] at hwritten hholds
  rw [hdid] at hholds
  obtain ⟨text, log, hfile, hread, hself, haccepted, harchive, hhistory⟩ := hholds
  obtain rfl := Option.some.inj (hfile.symm.trans hwritten)
  -- The file has the log that was uploaded, if any was.
  have hcarries : Carries X did (prepared.genesis.line X) log := ⟨hread, haccepted⟩
  refine ⟨hself, _, log, sent.map fun _ => log, (huploads.files ▸ hwritten), hcarries,
    carries_of_sends hcarries (huploads.body_eq hsent), ?_, hhistory.length, ?_,
    harchive.congr (by rw [huploads.keyStore])⟩
  · refine pairwise_extend (R := fun l l' : DIDLog => l.entries <+: l'.entries) (l := [])
      (fun _ => List.prefix_rfl) (fun _ _ _ => List.IsPrefix.trans) (List.pairwise_singleton _ log)
      List.prefix_rfl fun l hl => ?_
    obtain ⟨-, -, rfl⟩ := List.mem_map.mp hl
    rfl
  · rwa [List.take_of_length_le hhistory.length.le]

/-- A rotation that gets to its upload settles the DID with one more set of keys. -/
theorem settled_of_rotated (hX : X.Lawful) {args : RotateArgs} {w₃ : World}
    {prepared : Rotate.Prepared} {written : Option Text} (h : Settled X path did true history ps w)
    (hne : history ≠ []) (hn : history.length < 9999) (hargs : InPlace path args.toUpdateArgs)
    (hreaches : Rotate.Reaches X env args w prepared written w₃)
    (hsent : (Rotate.cmdRotate X env args w).2.published = w.published ++ sent) :
    Settled X path did true (history ++ [prepared.staged]) (ps ++ sent)
      (Rotate.cmdRotate X env args w).2 := by
  obtain ⟨w₁, w₂, number, hprepare, hsave, hcommit⟩ := id hreaches
  obtain ⟨rfl, hwritten, hholds, text, log, e, hfile, hread, hparses⟩ :=
    Rotate.holds_of_commit hX hargs h.holds hne hn hprepare hsave hcommit
  have huploads := hreaches.uploads
  obtain ⟨text', log', hfile', hread', -, haccepted', harchive, hhistory⟩ := hholds
  obtain rfl := Option.some.inj (hfile'.symm.trans hwritten)
  obtain rfl := Except.ok.inj (hread'.symm.trans hparses)
  refine h.extend hfile hread (huploads.files ▸ hwritten) ⟨hparses, haccepted'⟩
    (List.prefix_append _ _) (huploads.body_eq hsent) hhistory.length ?_
    (harchive.congr (by rw [huploads.keyStore]))
  rwa [List.take_of_length_le hhistory.length.le]

/-- A deactivation that gets to its upload settles the DID for good. -/
theorem settled_of_deactivated (hX : X.Lawful) {args : UpdateArgs} {w₂ : World}
    {prepared : Deactivate.Prepared} {written : Option Text}
    (h : Settled X path did true history ps w) (hne : history ≠ []) (hn : history.length < 2 ^ 32)
    (hargs : InPlace path args) (hreaches : Deactivate.Reaches X env args w prepared written w₂)
    (hsent : (Deactivate.cmdDeactivate X env args w).2.published = w.published ++ sent) :
    Settled X path did false history (ps ++ sent) (Deactivate.cmdDeactivate X env args w).2 := by
  obtain ⟨w₁, hprepare, hsave⟩ := id hreaches
  obtain ⟨rfl, hwritten, hended, text, log, e, hfile, hread, hparses⟩ :=
    Deactivate.ended_of_writeLog hX hargs h.holds hne hn hprepare hsave
  have huploads := hreaches.uploads
  obtain ⟨text', log', last, hfile', hread', haccepted', hlength, -, -, -, harchive⟩ := hended
  obtain rfl := Option.some.inj (hfile'.symm.trans hwritten)
  obtain rfl := Except.ok.inj (hread'.symm.trans hparses)
  refine h.extend hfile hread (huploads.files ▸ hwritten) ⟨hparses, haccepted'⟩
    (List.prefix_append _ _) (huploads.body_eq hsent) hlength ?_
    (harchive.congr (by rw [huploads.keyStore]))
  -- The entries before the last one are those of the log that has been deactivated.
  obtain ⟨text₀, log₀, hfile₀, hread₀, -, -, -, hhistory⟩ := h.holds
  obtain rfl := Option.some.inj (hfile₀.symm.trans hfile)
  obtain rfl := Except.ok.inj (hread₀.symm.trans hread)
  rwa [← hhistory.length, List.take_left]

end Steps

/-! ## Runs -/

section Runs

variable {live : Bool} {n : ℕ} {history : List StagedKeys} {ps : List Publication}

/-- Every step leaves the DID settled, up to the last number that the key store recognises. -/
theorem exists_settled (hX : X.Lawful) (h : Upkeep X path did live n ps w) (hn : n ≤ 9999) :
    ∃ history, history.length = n ∧ history ≠ [] ∧ Settled X path did live history ps w := by
  induction h with
  | created hordinary hout hreaches hdid hsent =>
    exact ⟨_, rfl, List.cons_ne_nil _ _,
      settled_of_created hX hordinary hout hreaches hdid hsent⟩
  | rotated _ hargs hreaches hsent ih =>
    obtain ⟨history, rfl, hne, hsettled⟩ := ih (by omega)
    exact ⟨_, by simp, by simp,
      settled_of_rotated hX hsettled hne (by omega) hargs hreaches hsent⟩
  | deactivated _ hargs hreaches hsent ih =>
    obtain ⟨history, hlength, hne, hsettled⟩ := ih hn
    exact ⟨history, hlength, hne,
      settled_of_deactivated hX hsettled hne (by omega) hargs hreaches hsent⟩
  | elsewhere _ hfile hkeys _ ih =>
    obtain ⟨history, hlength, hne, hsettled⟩ := ih hn
    exact ⟨history, hlength, hne, hsettled.congr hfile hkeys⟩

/-- What has been uploaded is in the registries, in this order. -/
theorem sublist_published (h : Upkeep X path did live n ps w) : ps.Sublist w.published := by
  induction h with
  | created _ _ _ _ hsent =>
    rw [hsent]
    exact List.sublist_append_right _ _
  | rotated _ _ _ hsent ih =>
    rw [hsent]
    exact ih.append_right _
  | deactivated _ _ _ hsent ih =>
    rw [hsent]
    exact ih.append_right _
  | elsewhere _ _ _ hpublished ih => exact ih.trans hpublished.sublist

/-- Whatever comes of its uploads, the logs that registries receive over the life of a DID are
accepted, and each continues those before it; the one in the file continues them all. -/
theorem growing_of_upkeep (hX : X.Lawful) (h : Upkeep X path did live n ps w) (hn : n ≤ 9999) :
    ps.Sublist w.published ∧ ∃ text log logs, w.files.get path = some text ∧
      Carries X did text log ∧ log.entries.length = n + (if live = true then 0 else 1) ∧
      List.Forall₂ (fun p l => Carries X did (Publication.body p) l) ps logs ∧
      (logs ++ [log]).Pairwise (fun l l' => l.entries <+: l'.entries) := by
  obtain ⟨history, rfl, -, -, text, log, logs, hfile, hcarries, hps, hgrowing, hlength, -⟩ :=
    exists_settled hX h hn
  exact ⟨sublist_published h, text, log, logs, hfile, hcarries, hlength, hps, hgrowing⟩

/-- Keys that are announced by a log are announced by the logs that it continues. -/
theorem KeyHistory.take {entries : List DIDLogEntry} (h : KeyHistory X did entries history)
    (k : ℕ) : KeyHistory X did (entries.take k) (history.take k) := by
  refine ⟨by rw [List.length_take, List.length_take, h.length], fun {i e keys} he hkeys => ?_⟩
  rw [List.getElem?_take] at he hkeys
  split_ifs at he hkeys with hi
  rw [List.take_take, min_eq_left hi]
  exact h.entry he hkeys

/-- A DID that is read back from its text resolves to itself. -/
theorem resolveDid_toText (hdid : DID.fromStr did.toText = .ok did) :
    resolveDid env did.toText w = (.ok did, w) := by
  rw [resolveDid, isHash_toText, if_neg (by simp), Command.ofExcept_eq_ok_iff, hdid]
  exact ⟨rfl, rfl⟩

/-- Whoever is served a log that has been uploaded, be it an old one, loads it for the DID: it is
accepted, the log in the file continues it, and the keys that its entries announce are in the key
store. -/
theorem loadLog_of_upkeep (hX : X.Lawful) (h : Upkeep X path did live n ps w) (hn : n ≤ 9999)
    {p : Publication} (hp : p ∈ ps) {v : World}
    (hserved : env.server v.tick did.logUrl = .answered 200 (.text p.body))
    (hsize : Text.utf8Length p.body ≤ MAX_BYTES) :
    ∃ text log lines served history, w.files.get path = some text ∧ Carries X did text log ∧
      loadLog X.toCrates env (some did.toText) none v = (.ok ⟨lines, served, none⟩, v.ticked) ∧
      verifyLog X.toCrates served did = .ok () ∧ served.entries <+: log.entries ∧
      history.length = n ∧ Archive X w did history ∧
      KeyHistory X did (served.entries.take n) (history.take served.entries.length) := by
  obtain ⟨history, rfl, -, hdid, text, log, logs, hfile, hcarries, hps, hgrowing, -, hhistory,
    harchive⟩ := exists_settled hX h hn
  obtain ⟨i, hi, rfl⟩ := List.getElem_of_mem hp
  have hi' : i < logs.length := hps.length_eq ▸ hi
  -- Every upload was an accepted log, which the one in the file continues.
  obtain ⟨hread, haccepted⟩ := hps.get hi hi'
  have hmem : logs[i] ∈ logs := List.getElem_mem hi'
  have hcontinues : logs[i].entries <+: log.entries :=
    (List.pairwise_append.mp hgrowing).2.2 _ hmem log (List.mem_singleton.mpr rfl)
  refine ⟨text, log, collectRawLines ps[i].body, logs[i], history, hfile, hcarries,
    loadLog_eq_ok_iff.mpr ⟨by simp, ps[i].body, some did, ?_, hread, ?_, rfl⟩, haccepted,
    hcontinues, rfl, harchive, ?_⟩
  · refine readLog_target_eq_ok_iff.mpr ⟨did, v, resolveDid_toText hdid, ?_, rfl, rfl, rfl⟩
    rw [hserved]
    exact fetchText_ok hsize
  · exact verifyLoadedLog_of_verifyLog haccepted hdid (by simp)
  · -- The entries are the first ones of the log in the file.
    have htake := List.prefix_iff_eq_take.mp hcontinues
    rw [htake, List.take_take, min_comm, ← List.take_take, ← htake]
    exact hhistory.take _

end Runs

/-! ## A sample registry -/

namespace Sample

/-- The URL of the log in a space of the sample registry. -/
def allocatedUrl : Text := "https://a.ch/18fa7c77/did.jsonl"

/-- An environment with a registry, in which the keys of a sample DID are generated. -/
def uploadEnv : Env :=
  { toolEnv (1735689600 + 5) with
    freshEddsa := fun _ => seed
    freshEcdsa := fun n => if n = 2 then authenticationSecret else assertionSecret
    allocate := fun _ _ _ => .ok ⟨allocatedUrl, "18fa7c77"⟩ }

/-- The arguments with which it is created in the space. -/
def uploadArgs : CreateArgs where
  swiyu := true
  partnerId := some (Text.lit "partner")
  registryUrl := some (Text.lit "https://r.ch")
  out := logPath

theorem isValidPath_registry : ∀ p ∈ some (Text.lit "18fa7c77"), isValidPath p = true := by
  decide +kernel

/-- A DID in the space. -/
def registryDidOf (scid : Option Text) : DID :=
  ⟨.tdw, scid, "a.ch", some (Text.lit "18fa7c77"), isValidDomain_sample, isValidPath_registry⟩

/-- The DID that is created in it. -/
def registryDid : DID := registryDidOf (some "QmTEjETrCr8DTCVDNJNx6MKjhusw9E74gvpUSAjSagMCUJ")

theorem isPlainUrl_allocatedUrl : Create.IsPlainUrl allocatedUrl where
  chars := by
    have hall : ∀ c ∈ allocatedUrl, c ≠ '{' ∧ Text.isWhitespace c = false :=
      Text.forall_mem_of_all (by decide)
    exact hall
  port := ⟨"a.ch/18fa7c77/did.jsonl", rfl, by decide⟩

theorem ordinary_upload : Create.Ordinary toolCrates uploadEnv uploadArgs blankWorld where
  format := rfl
  url h := by
    obtain rfl := (Prod.mk.inj (Except.ok.inj (Prod.mk.inj h).1)).1
    exact isPlainUrl_allocatedUrl
  scid h := by
    have hcomponents : Create.urlToDidComponents allocatedUrl =
        .ok (Text.lit "a.ch", some (Text.lit "18fa7c77")) := by decide +kernel
    have hkeys : Create.prepareKeys toolCrates uploadEnv uploadArgs blankWorld.ticked =
        (.ok createdKeys, blankWorld.ticked.ticked.ticked.ticked) := by decide +kernel
    have hplaceholder : Create.buildDid .tdw03 none "a.ch" (some (Text.lit "18fa7c77")) =
        .ok (registryDidOf none) := by decide +kernel
    have hnow : (Create.nowIso8601 toolCrates uploadEnv : CreateCommand Text)
        blankWorld.ticked.ticked.ticked.ticked =
          (.ok (Text.lit "2025-01-01T00:00:00Z"),
            blankWorld.ticked.ticked.ticked.ticked.ticked) := by decide +kernel
    rw [h.eq rfl hcomponents hkeys hplaceholder hnow]
    decide +kernel

/-- The world in which it has been created and uploaded. -/
def uploadedWorld : World :=
  (Create.cmdCreate toolCrates uploadEnv uploadArgs).after blankWorld

/-- A sample DID is created, and its log is uploaded. -/
theorem upkeep_uploadedWorld :
    Upkeep toolCrates logPath registryDid true 1 uploadedWorld.published uploadedWorld := by
  have hcreated : ∃ report ∈
      (Create.cmdCreate toolCrates uploadEnv uploadArgs blankWorld).1.toOption,
      report.did = registryDid := by decide +kernel
  obtain ⟨report, hreport, hdid⟩ := hcreated
  exact .of_cmdCreate ordinary_upload rfl rfl
    (Command.eq_ok_after (Except.toOption_eq_some_iff.mp hreport)) hdid

/-- The registry has received one log, of moderate size. -/
theorem published_uploadedWorld : ∃ p, uploadedWorld.published = [p] ∧
    Text.utf8Length p.body ≤ MAX_BYTES := by
  have hone : (uploadedWorld.published.map fun p => decide (Text.utf8Length p.body ≤ MAX_BYTES)) =
      [true] := by decide +kernel
  obtain ⟨p, hp, hsize⟩ := List.map_eq_singleton_iff.mp hone
  exact ⟨p, hp, of_decide_eq_true hsize⟩

/-- The arguments with which its assertion key is rotated. -/
def updateArgs : RotateArgs where
  input := some logPath
  partnerId := some (Text.lit "partner")
  registryUrl := some (Text.lit "https://r.ch")
  rotate := [.assertion]

/-- The world in which the key has been rotated, and the log uploaded again. -/
def updatedWorld : World :=
  (Rotate.cmdRotate toolCrates rotationEnv updateArgs).after uploadedWorld

/-- A sample DID is created and rotated, and its log is uploaded both times. -/
theorem upkeep_updatedWorld : ∃ p', updatedWorld.published = uploadedWorld.published ++ [p'] ∧
    Upkeep toolCrates logPath registryDid true 2 updatedWorld.published updatedWorld := by
  have hrotated : ∃ report ∈
      (Rotate.cmdRotate toolCrates rotationEnv updateArgs uploadedWorld).1.toOption,
      report.writtenTo = some logPath := by decide +kernel
  obtain ⟨report, hreport, hwritten⟩ := hrotated
  obtain ⟨p', hsent, hupkeep⟩ := upkeep_uploadedWorld.of_cmdRotate ⟨rfl, rfl, .inl rfl⟩ rfl
    (Command.eq_ok_after (Except.toOption_eq_some_iff.mp hreport)) hwritten
  rw [← hsent] at hupkeep
  exact ⟨p', hsent, hupkeep⟩

/-- The registry has received two logs, the first one of moderate size. -/
theorem published_updatedWorld : ∃ p p', updatedWorld.published = [p, p'] ∧
    Text.utf8Length p.body ≤ MAX_BYTES := by
  obtain ⟨p, hp, hsize⟩ := published_uploadedWorld
  obtain ⟨p', hp', -⟩ := upkeep_updatedWorld
  exact ⟨p, p', by rw [hp', hp, List.singleton_append], hsize⟩

/-- Both logs that are uploaded are accepted, the second one continues the first, and the one in the
file continues both. -/
theorem growing_updatedWorld : ∃ p p' text log l l', updatedWorld.published = [p, p'] ∧
    updatedWorld.files.get logPath = some text ∧ Carries toolCrates registryDid text log ∧
    log.entries.length = 2 ∧ Carries toolCrates registryDid p.body l ∧
    Carries toolCrates registryDid p'.body l' ∧ l.entries <+: l'.entries ∧
    l'.entries <+: log.entries := by
  obtain ⟨p, p', hp, -⟩ := published_updatedWorld
  obtain ⟨-, -, hupkeep⟩ := upkeep_updatedWorld
  obtain ⟨-, text, log, logs, hfile, hcarries, hlength, hps, hgrowing⟩ :=
    growing_of_upkeep lawful_toolCrates hupkeep (by decide)
  rw [hp] at hps
  obtain ⟨l, _, hl, htail, rfl⟩ := List.forall₂_cons_left_iff.mp hps
  obtain ⟨l', _, hl', hnil, rfl⟩ := List.forall₂_cons_left_iff.mp htail
  obtain rfl := List.forall₂_nil_left_iff.mp hnil
  obtain ⟨hfirst, hgrowing⟩ := List.pairwise_cons.mp hgrowing
  exact ⟨p, p', text, log, l, l', hp, hfile, hcarries, hlength, hl, hl',
    hfirst l' List.mem_cons_self, (List.pairwise_cons.mp hgrowing).1 log List.mem_cons_self⟩

/-- Whoever is served the first log still after the rotation loads it. -/
theorem loadLog_updatedWorld : ∃ p p' lines served, updatedWorld.published = [p, p'] ∧
    loadLog toolCrates.toCrates (serving p.body) (some registryDid.toText) none emptyWorld =
        (.ok ⟨lines, served, none⟩, emptyWorld.ticked) ∧
      verifyLog toolCrates.toCrates served registryDid = .ok () := by
  obtain ⟨p, p', hp, hsize⟩ := published_updatedWorld
  obtain ⟨-, -, hupkeep⟩ := upkeep_updatedWorld
  have hmem : p ∈ updatedWorld.published := by
    rw [hp]
    exact List.mem_cons_self
  have hserved : (serving p.body).server emptyWorld.tick registryDid.logUrl =
      .answered 200 (.text p.body) := rfl
  obtain ⟨-, -, lines, served, -, -, -, hload, haccepted, -⟩ :=
    loadLog_of_upkeep lawful_toolCrates hupkeep (by decide) hmem hserved hsize
  exact ⟨p, p', lines, served, hp, hload, haccepted⟩

end Sample

end Swiyu
