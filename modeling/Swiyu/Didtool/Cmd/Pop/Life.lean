import Swiyu.Didtool.Cmd.Did.Life
import Swiyu.Didtool.Cmd.Pop.Complete

/-!
# Proofs of possession over the life of a DID

Whoever checks proofs of possession against the log of a DID accepts those that are signed with the
keys of its last entry, and no others. A token is thus accepted until its key is rotated, unless its
time is over before.

## Main definitions

- `Swiyu.Pop.Vouched`: a token that is signed with the key of a role, for its DID and in its time.
- `Swiyu.Pop.Rotations`: rotations of the keys of a DID, and what may happen in between.

## Main results

- `Swiyu.Pop.accepted_iff_vouched`: what is accepted when log and key store are in step.
- `Swiyu.Pop.accepted_iff_of_run`: what is accepted in the life of a DID.
- `Swiyu.Pop.survives_iff`: what becomes of a token when keys are rotated.
-/

namespace Swiyu

namespace Pop

open Json

variable {X : ToolCrates} {env : Env} {args : VerifyPopArgs} {w w' w₁ w₂ : World} {did : DID}
  {log : DIDLog} {keys current : StagedKeys} {history : List StagedKeys} {path : Text} {n : ℕ}

/-! ## The keys of a log -/

/-- The only methods that are found in a document that the tool has written are the two that it has
put there. -/
theorem exists_role_of_findVmKeyInLog (hX : X.Lawful) {last : DIDLogEntry}
    (hlast : log.entries.getLast? = some last)
    (hstate : last.didDocState = .value (DIDDoc.newGenesis did.toText
      (keys.authenticationKeyCoords X) (keys.assertionKeyCoords X)).toJson)
    {kid : Text} {key : VerifyingKey} (hkey : findVmKeyInLog X log kid = .ok key) :
    ∃ role, kid = kidOf X did.toText keys role ∧ key = (signerOf keys role).verifyingKey X := by
  obtain ⟨hauthentication, hassertion⟩ := findVmKeyInLog_of_newGenesis hX hlast hstate
  obtain ⟨_, _, _, vm, _, hlast', hstate', hdoc, hvm, -⟩ := findVmKeyInLog_eq_ok_iff.mp hkey
  obtain rfl := Option.some.inj (hlast.symm.trans hlast')
  obtain rfl := DIDDocState.value.inj (hstate.symm.trans hstate')
  obtain rfl := Except.ok.inj ((DIDDoc.tryFromJson_newGenesis _ _ _).symm.trans hdoc)
  have hid : vm.id = kid := by simpa using List.find?_some hvm
  have hmem := List.mem_of_find?_eq_some hvm
  rw [DIDDoc.newGenesis, List.mem_cons, List.mem_singleton] at hmem
  rcases hmem with rfl | rfl
  · obtain rfl : did.toText ++ Text.lit "#authentication-key-01" = kid := hid
    exact ⟨.authentication, rfl, Except.ok.inj (hkey.symm.trans hauthentication)⟩
  · obtain rfl : did.toText ++ Text.lit "#assertion-key-01" = kid := hid
    exact ⟨.assertion, rfl, Except.ok.inj (hkey.symm.trans hassertion)⟩

/-- When log and keys are in step, a `kid` that is resolved with the log names one of the keys, and
is resolved to it. -/
theorem eq_of_resolveContext (hX : X.Lawful) (h : InStep X w did log keys)
    (hfault : ∀ n op, env.fault n op = none) (hsource : Source X env args w did log)
    (hlog : args.logFlag = true) (hw : w₁ = w ∨ w₁ = w.ticked) {kid : Text} {shape : KidShape}
    {context : Context} (hshape : parseKid kid = .ok shape)
    (hcontext : resolveContext X env args kid shape w₁ = (.ok context, w₂)) :
    ∃ role, kid = kidOf X did.toText keys role ∧
      context = ⟨(signerOf keys role).verifyingKey X, some did.toText⟩ := by
  obtain ⟨w₃, hload⟩ := loadSource_of_source h hfault hsource hlog hw
  obtain ⟨given, hgiven, rfl, hcurrent⟩ := loadSource_eq_ok_iff.mp hload
  obtain ⟨key, constraint⟩ := context
  rcases parseKid_eq_ok_iff.mp hshape with ⟨multikey, rfl, -, rfl⟩ | ⟨-, kidDid, frag, rfl, -, rfl⟩
  · -- An update key is the authorized one.
    obtain ⟨loaded, logDid, hkey, hloaded, hdid, hmem, rfl⟩ :=
      (resolveDidKey_log_eq_ok_iff hlog).mp hcontext
    cases hgiven.symm.trans hloaded
    rw [h.updateKeys, List.mem_singleton] at hmem
    obtain rfl := Option.some.inj (hcurrent.symm.trans hdid)
    have hauthorized : decodeMultikey X multikey = .ok (.ed25519 (keys.authorizedKeyBytes X)) :=
      decodeMultikey_eq_ok_iff.mpr ⟨_, hX.ed25519_point _, hmem, rfl⟩
    obtain rfl := Except.ok.inj (hkey.symm.trans hauthorized)
    exact ⟨.authorized, congrArg didKeyUrl hmem, rfl⟩
  · -- A method is one of the two in the last document.
    obtain ⟨loaded, hloaded, hdid, hkey, rfl⟩ := (resolveFragment_log_eq_ok_iff hlog).mp hcontext
    cases hgiven.symm.trans hloaded
    obtain rfl := Option.some.inj (hcurrent.symm.trans hdid)
    obtain ⟨last, -, hlast, -, hstate⟩ := h.last
    obtain ⟨role, hkid, rfl⟩ := exists_role_of_findVmKeyInLog hX hlast hstate hkey
    exact ⟨role, hkid, rfl⟩

/-! ## Acceptance -/

/-- A token that is signed with the key of a role, and whose claims are those that are expected at
time `t`. -/
def Vouched (X : ToolCrates) (did : DID) (keys : StagedKeys) (role : KeyRole)
    (args : VerifyPopArgs) (t : UInt64) (jwtText : Text) : Prop :=
  ∃ jwt iat exp nonce, splitJwt X jwtText = .ok jwt ∧
    jwt.header.get "alg" = some (.string (signerOf keys role).alg) ∧
    jwt.header.get "kid" = some (.string (kidOf X did.toText keys role)) ∧
    ((signerOf keys role).verifyingKey X).verify X.toJoseCrates (Text.utf8 jwt.signingInput)
      jwt.signature = .ok () ∧
    jwt.payload.get "iss" = some (.string did.toText) ∧
    jwt.payload.get "iat" = some (.number (.posInt iat)) ∧ ¬ t + IAT_SKEW_SECS < iat ∧
    jwt.payload.get "exp" = some (.number (.posInt exp)) ∧
    (exp ≤ t → args.allowExpired = true) ∧
    jwt.payload.get "nonce" = some (.string nonce) ∧ ∀ expected ∈ args.nonce, expected = nonce

/-- With a log that is in step with the keys, the tokens that are accepted are those that a key
vouches for. -/
theorem accepted_iff_vouched (hX : X.Lawful) (h : InStep X w did log keys)
    (hfault : ∀ n op, env.fault n op = none) (hhash : '#' ∉ did.toText)
    (hsource : Source X env args w did log) (hlog : args.logFlag = true) {t : UInt64}
    (ht : ∀ tick, timeOf env tick = t) {jwtText : Text}
    (hread : readJwt env args w = (.ok jwtText, w₁)) :
    (∃ s w', cmdVerifyPop X env args w = (.ok s, w')) ↔
      ∃ role, Vouched X did keys role args t jwtText := by
  have hw : w₁ = w ∨ w₁ = w.ticked := by
    rcases readJwt_eq_ok_iff.mp hread with ⟨_, -, -, -, rfl⟩ | ⟨_, _, -, -, -, -, -, rfl⟩
    · exact .inl rfl
    · exact .inr rfl
  constructor
  · rintro ⟨s, w', haccepted⟩
    obtain ⟨_, jwt, shape, context, _, w₂, hread', hsplit, halg, hkid, hshape, hcontext, hkey,
      hverify, hclaims⟩ := cmdVerifyPop_eq_ok_iff.mp haccepted
    cases hread.symm.trans hread'
    obtain ⟨hiss, hconstraint, hiat, hexp, hnow, hearly, hexpired, hlate, hnonce, hexpected, -⟩ :=
      checkClaims_eq_ok_iff.mp hclaims
    obtain rfl : s.now = t := hnow.trans (ht _)
    -- The key that has been resolved is one of the log, and so that of a role.
    obtain ⟨role, hname, rfl⟩ :=
      eq_of_resolveContext hX h hfault hsource hlog hw hshape hcontext
    refine ⟨role, jwt, s.iat, s.exp, s.nonce, hsplit, ?_, hname ▸ hkid, hverify, ?_, hiat, hearly,
      hexp, fun hle => ?_, hnonce, hexpected⟩
    · rw [← Signer.alg_verifyingKey (X := X), ← hkey]
      exact (headerAlg_eq_ok_iff.mp halg).1
    · rw [hiss, hconstraint did.toText rfl]
    · by_contra hallow
      exact hlate ⟨hexpired.trans (decide_eq_true hle), by simpa using hallow⟩
  · rintro ⟨role, jwt, iat, exp, nonce, hsplit, halg, hkid, hverify, hiss, hiat, hearly, hexp,
      hlate, hnonce, hexpected⟩
    obtain ⟨shape, constraint, w₂, hshape, hcontext, hconstraint⟩ :=
      resolveContext_of_inStep hX h hfault hhash hsource hw role
    -- All that is checked is known, so the summary can be written down.
    let s : Summary :=
      { alg := (signerOf keys role).alg, kid := kidOf X did.toText keys role, iss := did.toText
        iat, exp, nonce, expired := decide (exp ≤ t), now := t }
    have hknown : headerAlg jwt.header = .ok s.alg := by
      refine headerAlg_eq_ok_iff.mpr ⟨halg, ?_⟩
      show (signerOf keys role).alg = _ ∨ (signerOf keys role).alg = _
      cases role with
      | authorized => exact .inl rfl
      | authentication => exact .inr rfl
      | assertion => exact .inr rfl
    refine ⟨s, w₂.ticked, cmdVerifyPop_eq_ok_iff.mpr ⟨jwtText, jwt, shape, _, w₁, w₂, hread, hsplit,
      hknown, hkid, hshape, hcontext, (Signer.alg_verifyingKey _).symm, hverify,
      checkClaims_eq_ok_iff.mpr ⟨hiss, hconstraint, hiat, hexp, (ht _).symm, hearly, rfl, ?_,
        hnonce, hexpected, rfl, rfl, rfl⟩⟩⟩
    rintro ⟨hexpired, hallow⟩
    rw [hlate (of_decide_eq_true hexpired)] at hallow
    cases hallow

/-! ## Every run -/

/-- A token is checked against the log in the file at `path`, at time `t`. -/
structure Checks (env : Env) (args : VerifyPopArgs) (w : World) (path jwtText : Text) (t : UInt64) :
    Prop where
  fault (n : ℕ) (op : Operation) : env.fault n op = none
  presented : Presented args w jwtText
  no_did : args.did = none
  input : args.input = some path
  clock (tick : ℕ) : timeOf env tick = t

/-- The token that is presented is read. -/
theorem Checks.exists_readJwt {jwtText : Text} {t : UInt64}
    (h : Checks env args w path jwtText t) :
    ∃ w₁, readJwt env args w = (.ok (Text.trim jwtText), w₁) := by
  rcases h.presented with ⟨hjwt, hfile⟩ | ⟨path, hjwt, hfile, htext⟩
  · exact ⟨w, readJwt_eq_ok_iff.mpr (.inl ⟨jwtText, hjwt, hfile, rfl, rfl⟩)⟩
  · exact ⟨w.ticked, readJwt_eq_ok_iff.mpr
      (.inr ⟨path, jwtText, hjwt, hfile, h.fault _ _, htext, rfl, rfl⟩)⟩

/-- In a world that holds the log of a DID, the tokens that are accepted are those that a key of its
last entry vouches for. -/
theorem accepted_iff_of_holds (hX : X.Lawful) (h : Holds X path did history w)
    (hlast : history.getLast? = some keys) (hn : history.length < 2 ^ 32)
    (hhash : '#' ∉ did.toText) {jwtText : Text} {t : UInt64}
    (hchecks : Checks env args w path jwtText t) :
    (∃ s w', cmdVerifyPop X env args w = (.ok s, w')) ↔
      ∃ role, Vouched X did keys role args t (Text.trim jwtText) := by
  obtain ⟨text, log, hfile, hread, hstep, -⟩ := h.inStep hlast hn
  obtain ⟨w₁, hjwt⟩ := hchecks.exists_readJwt
  have hlog : args.logFlag = true := by simp [VerifyPopArgs.logFlag, hchecks.input]
  exact accepted_iff_vouched hX hstep hchecks.fault hhash
    (.file hchecks.no_did hchecks.input hfile hread) hlog hchecks.clock hjwt

/-- Over the life of a DID, whoever checks tokens against its log accepts those that a key of its
last entry vouches for, and no others. -/
theorem accepted_iff_of_run (hX : X.Lawful) (hrun : Run X path did n w) (hn : n ≤ 9999)
    (hhash : '#' ∉ did.toText) : ∃ history keys, history.length = n ∧
      Holds X path did history w ∧ history.getLast? = some keys ∧
      ∀ {env : Env} {args : VerifyPopArgs} {jwtText : Text} {t : UInt64},
        Checks env args w path jwtText t →
        ((∃ s w', cmdVerifyPop X env args w = (.ok s, w')) ↔
          ∃ role, Vouched X did keys role args t (Text.trim jwtText)) := by
  obtain ⟨history, hlength, hne, hholds⟩ := exists_holds hX hrun hn
  have hlast := List.getLast?_eq_some_getLast hne
  exact ⟨history, _, hlength, hholds, hlast,
    accepted_iff_of_holds hX hholds hlast (by omega) hhash⟩

/-! ## Rotations -/

variable (X path did) in
/-- What leads from a world to another: the keys are rotated in the file at `path`, by the given
plans one after the other. In between other files and other entries of the key store may change in
any way. -/
inductive Rotations (w : World) : List Rotate.Plan → World → Prop
  | refl : Rotations w [] w
  | rotated {plans : List Rotate.Plan} {plan : Rotate.Plan} {env : Env} {args : RotateArgs}
      {w₁ w₂ : World} {report : Rotate.Report} (h : Rotations w plans w₁)
      (hargs : InPlace path args.toUpdateArgs) (hplan : Rotate.planRotation args = .ok plan)
      (hrun : Rotate.cmdRotate X env args w₁ = (.ok report, w₂)) :
      Rotations w (plans ++ [plan]) w₂
  | elsewhere {plans : List Rotate.Plan} {w₁ w₂ : World} (h : Rotations w plans w₁)
      (hfile : w₂.files.get path = w₁.files.get path)
      (hkeys : w₂.keyStore.get (didToHash X did.toText) =
        w₁.keyStore.get (didToHash X did.toText)) : Rotations w plans w₂

/-- A rotation in place keeps the keys that it does not rotate. -/
theorem key_eq_of_prepare {args : RotateArgs} {plan : Rotate.Plan}
    (hargs : InPlace path args.toUpdateArgs) (hplan : Rotate.planRotation args = .ok plan)
    (h : Holds X path did history w) (hlast : history.getLast? = some keys)
    (hn : history.length < 2 ^ 32) {prepared : Rotate.Prepared}
    (hprepare : Rotate.prepare X env args w = (.ok prepared, w')) {role : KeyRole}
    (hrole : ¬ plan.Rotates role) : prepared.staged.key role = keys.key role := by
  obtain ⟨text, log, hfile, hread, hstep, -⟩ := h.inStep hlast hn
  have hlog : prepared.loaded.log = log := by
    simp only [Rotate.prepare, Command.bind_eq_ok_iff, Command.ofExcept_eq_ok_iff,
      Command.mapError_eq_ok_iff, Command.pure_eq_ok_iff] at hprepare
    obtain ⟨_, _, ⟨-, rfl⟩, _, _, ⟨-, rfl⟩, loaded, _, hloaded, _, _, -, _, _, -, _, _, -, _, _, -,
      rfl, -⟩ := hprepare
    exact (loaded_of_inPlace hargs hfile hread hloaded).1
  exact (Rotate.newEntry_of_prepare hplan hprepare (hlog ▸ hstep.logDid_eq) hstep.stored).2 _ hrole

/-- After rotations there are as many more keys, and a key that none of them rotates is the same. -/
theorem exists_holds_of_rotations (hX : X.Lawful) (h : Holds X path did history w)
    (hlast : history.getLast? = some keys) {plans : List Rotate.Plan}
    (hrotations : Rotations X did path w plans w') (hn : history.length + plans.length ≤ 9999) :
    ∃ more current, more.length = plans.length ∧ Holds X path did (history ++ more) w' ∧
      (history ++ more).getLast? = some current ∧
      ∀ role, (∀ plan ∈ plans, ¬ plan.Rotates role) → current.key role = keys.key role := by
  -- The induction is on the run: a rotation adds its keys, and whatever happens elsewhere adds
  -- none.
  induction hrotations with
  | refl =>
    refine ⟨[], keys, rfl, ?_, ?_, fun _ _ => rfl⟩
    · rwa [List.append_nil]
    · rwa [List.append_nil]
  | @rotated plans plan env args w₁ w₂ report _ hargs hplan hrun ih =>
    rw [List.length_append, List.length_singleton] at hn
    obtain ⟨more, current, hlength, hholds, hcurrent, hkept⟩ := ih (by omega)
    have hne : history ++ more ≠ [] := fun hnil => by simp [hnil] at hcurrent
    have hshort : (history ++ more).length < 9999 := by
      rw [List.length_append]
      omega
    obtain ⟨prepared, w₃, hprepare, hholds'⟩ :=
      Rotate.holds_of_cmdRotate hX hargs hholds hne hshort hrun
    rw [List.append_assoc] at hholds'
    refine ⟨more ++ [prepared.staged], prepared.staged, by simp [hlength], hholds', ?_, ?_⟩
    · rw [← List.append_assoc, List.getLast?_concat]
    · intro role hroles
      have hrole := hroles plan (by simp)
      -- A key that is not rotated is carried over to the next snapshot.
      rw [key_eq_of_prepare hargs hplan hholds hcurrent (by omega) hprepare hrole]
      exact hkept role fun plan hplan => hroles plan (List.mem_append_left _ hplan)
  | elsewhere _ hfile hkeys ih =>
    obtain ⟨more, current, hlength, hholds, hcurrent, hkept⟩ := ih hn
    exact ⟨more, current, hlength, hholds.congr hfile hkeys, hcurrent, hkept⟩

/-! ## What becomes of a token -/

/-- A `kid` tells its role. -/
theorem role_eq_of_kidOf_eq {role role' : KeyRole}
    (h : kidOf X did.toText keys role = kidOf X did.toText current role') : role = role' := by
  -- A `did:key` is not a method of the DID.
  have hne (multikey frag : Text) : didKeyUrl multikey ≠ did.toText ++ frag := by
    intro heq
    have hprefix := did.stripPrefix_didKey_toText frag
    rw [← heq, didKeyUrl, List.append_assoc] at hprefix
    simp at hprefix
  -- The other two roles have different fragments.
  have hfragments : did.toText ++ Text.lit "#authentication-key-01" ≠
      did.toText ++ Text.lit "#assertion-key-01" := by
    simp [Text.lit_inj]
  cases role with
  | authorized =>
    cases role' with
    | authorized => rfl
    | authentication => exact absurd h (hne _ _)
    | assertion => exact absurd h (hne _ _)
  | authentication =>
    cases role' with
    | authorized => exact absurd h.symm (hne _ _)
    | authentication => rfl
    | assertion => exact absurd h hfragments
  | assertion =>
    cases role' with
    | authorized => exact absurd h.symm (hne _ _)
    | authentication => exact absurd h.symm hfragments
    | assertion => rfl

/-- The key of a role that is loaded from a snapshot is the one that it holds. -/
theorem eq_of_load (h : Archive X w did history) {i : ℕ} (hkeys : history[i]? = some keys)
    {entry : KeyStoreEntry} (hentry : entry.hash = didToHash X did.toText) {version : Option ℕ}
    (hversion : version = some (i + 1) ∨ version = none ∧ i + 1 = history.length) {role : KeyRole}
    {sk : FixedBytes 32}
    (hload : entry.load env (parsePrivateKey X role) role version w = (.ok sk, w')) :
    sk = keys.key role := by
  rcases hversion with rfl | ⟨rfl, hlength⟩
  · obtain ⟨-, ⟨pem, hpem, hparse⟩, -⟩ := KeyStoreEntry.load_some_eq_ok_iff.mp hload
    obtain ⟨pem', hpem', hparse'⟩ := storedKey_eq_some_iff.mp ((h.keys hkeys).privateKey role)
    rw [hentry, hpem'] at hpem
    obtain rfl := Option.some.inj hpem
    exact Except.ok.inj (hparse.symm.trans hparse')
  · have hlast : history.getLast? = some keys := by
      rw [List.getLast?_eq_getElem?, ← hlength, Nat.add_sub_cancel]
      exact hkeys
    exact (h.stored hlast).eq_of_load hentry (.inl rfl) hload

/-- The key that signs for a role is that of the snapshot, and its `kid` names it. -/
theorem signer_of_resolveRole (h : Archive X w did history) {i : ℕ}
    (hkeys : history[i]? = some keys) {version : Option ℕ}
    (hversion : version = some (i + 1) ∨ version = none ∧ i + 1 = history.length) {role : KeyRole}
    {kid : Text} {signer : Signer}
    (hrole : resolveRole X env ⟨didToHash X did.toText, did.toText⟩ role version w =
      (.ok (kid, signer), w')) :
    kid = kidOf X did.toText keys role ∧ signer = signerOf keys role := by
  cases role <;>
    · simp only [resolveRole, Command.bind_eq_ok_iff, Command.mapError_eq_ok_iff,
        Command.pure_eq_ok_iff, Prod.mk.injEq] at hrole
      obtain ⟨sk, _, hload, ⟨rfl, rfl⟩, -⟩ := hrole
      obtain rfl := eq_of_load h hkeys rfl hversion hload
      exact ⟨rfl, rfl⟩

/-- The signer of a role and its `kid` depend on the key of the role only. -/
theorem signerOf_congr {t : Text} {role : KeyRole} (h : current.key role = keys.key role) :
    signerOf current role = signerOf keys role ∧
      kidOf X t current role = kidOf X t keys role := by
  cases role with
  | authorized => exact ⟨congrArg Signer.eddsa h, congrArg (fun key =>
      didKeyUrl (ed25519VerifyingKeyToMultikey (X.ed25519VerifyingKey key))) h⟩
  | authentication => exact ⟨congrArg Signer.ecdsa h, rfl⟩
  | assertion => exact ⟨congrArg Signer.ecdsa h, rfl⟩

/-- A token that the tool has made is vouched for by the key of its role, if that is the key that
its `kid` names and verifies its signature. -/
theorem vouched_compactJwt_iff {role : KeyRole} {t iat exp : UInt64} {nonce : Text}
    {signature : Bytes} (hearly : ¬ t + IAT_SKEW_SECS < iat) (hlate : t < exp)
    (hnonce : ∀ expected ∈ args.nonce, expected = nonce) :
    let header := popHeader (signerOf keys role).alg (kidOf X did.toText keys role)
    let payload := popPayload did.toText iat exp nonce
    (∃ role', Vouched X did current role' args t
        (compactJwt X.toCrates header payload signature)) ↔
      kidOf X did.toText current role = kidOf X did.toText keys role ∧
        ((signerOf current role).verifyingKey X).verify X.toJoseCrates
          (Text.utf8 (popInput X.toCrates header payload)) signature = .ok () := by
  intro header payload
  obtain ⟨halg, hkid⟩ := get_popHeader (signerOf keys role).alg (kidOf X did.toText keys role)
  obtain ⟨hiss, hiat, hexp, hget⟩ := get_popPayload did.toText iat exp nonce
  have hsame : (signerOf current role).alg = (signerOf keys role).alg := by
    cases role <;> rfl
  constructor
  · rintro ⟨role', jwt, -, -, -, hsplit, -, hkid', hverify, -⟩
    obtain rfl := Except.ok.inj ((splitJwt_compactJwt _ _ _ _ _ _ _).symm.trans hsplit)
    have hname : kidOf X did.toText keys role = kidOf X did.toText current role' :=
      Value.string.inj (Option.some.inj (hkid.symm.trans hkid'))
    obtain rfl := role_eq_of_kidOf_eq hname
    exact ⟨hname.symm, hverify⟩
  · rintro ⟨hname, hverify⟩
    refine ⟨role, _, iat, exp, nonce, splitJwt_compactJwt _ _ _ _ _ _ _, ?_, ?_, hverify, hiss,
      hiat, hearly, hexp, fun hle => absurd hlate (UInt64.not_lt.mpr hle), hget, hnonce⟩
    · rw [hsame]
      exact halg
    · rw [hname]
      exact hkid

/-- When a token has been made of a snapshot and the keys have been rotated, it is accepted just
when the key that its `kid` names is that of its role in the last entry, and verifies it: a new
authorized key ends the tokens of the one before. A token of the latest keys is accepted as long as
no rotation has been for its role. -/
theorem survives_iff (hX : X.Lawful) (h : Holds X path did history w) (hhash : '#' ∉ did.toText)
    {cargs : CreatePopArgs} (hnames : Names X did cargs.did) {i : ℕ}
    (hkeys : history[i]? = some keys)
    (hversion : cargs.version = some (i + 1) ∨ cargs.version = none ∧ i + 1 = history.length)
    {jwt : Text} (hcreate : cmdCreatePop X env cargs w = (.ok jwt, w')) :
    ∃ (iat : UInt64) (nonce : Text) (signature : Bytes),
      let header := popHeader (signerOf keys cargs.role).alg (kidOf X did.toText keys cargs.role)
      let payload := popPayload did.toText iat (iat + cargs.ttl) nonce
      jwt = compactJwt X.toCrates header payload signature ∧
      (∃ tick, iat = timeOf env tick) ∧ (∀ n ∈ cargs.nonce, nonce = n) ∧
      ∀ {plans : List Rotate.Plan} {w₁ : World}, Rotations X did path w plans w₁ →
        history.length + plans.length ≤ 9999 →
        ∃ more current, more.length = plans.length ∧ Holds X path did (history ++ more) w₁ ∧
          (history ++ more).getLast? = some current ∧
          ∀ {env' : Env} {args : VerifyPopArgs} {t : UInt64}, Checks env' args w₁ path jwt t →
            ¬ t + IAT_SKEW_SECS < iat → t < iat + cargs.ttl →
            (∀ expected ∈ args.nonce, expected = nonce) →
            ((∃ s w₂, cmdVerifyPop X env' args w₁ = (.ok s, w₂)) ↔
              kidOf X did.toText current cargs.role = kidOf X did.toText keys cargs.role ∧
              ((signerOf current cargs.role).verifyingKey X).verify X.toJoseCrates
                (Text.utf8 (popInput X.toCrates header payload)) signature = .ok ()) ∧
            (i + 1 = history.length → (∀ plan ∈ plans, ¬ plan.Rotates cargs.role) →
              ∃ s w₂, cmdVerifyPop X env' args w₁ = (.ok s, w₂)) := by
  have hi : i < history.length := (List.getElem?_eq_some_iff.mp hkeys).1
  have hne : history ≠ [] := List.ne_nil_of_length_pos (by omega)
  have hlast := List.getLast?_eq_some_getLast hne
  obtain ⟨_, _, -, -, hdid, -, harchive, -⟩ := id h
  -- The token is signed with the key in the snapshot.
  obtain ⟨-, entry, kid, signer, nonce, tick, w₃, w₄, hentry, hrole, hnonce, rfl⟩ :=
    eq_of_cmdCreatePop hcreate
  obtain ⟨rfl, rfl⟩ := (harchive.stored hlast).eq_of_resolveEntry hdid hnames hentry
  obtain ⟨rfl, rfl⟩ :=
    signer_of_resolveRole (w := w.ticked) (harchive.congr rfl) hkeys hversion hrole
  refine ⟨timeOf env tick, nonce, _, rfl, ⟨tick, rfl⟩, hnonce, fun {plans w₁} hrotations hn => ?_⟩
  -- Each rotation adds one set of keys to the history; the last set is in force.
  obtain ⟨more, current, hlength, hholds, hcurrent, hkept⟩ :=
    exists_holds_of_rotations hX h hlast hrotations hn
  refine ⟨more, current, hlength, hholds, hcurrent, ?_⟩
  intro env' args t hchecks hearly hlate hexpected
  have hshort : (history ++ more).length < 2 ^ 32 := by
    rw [List.length_append, hlength]
    omega
  -- A token is accepted when a key in force vouches for it, and this one has one `kid` and one
  -- signature.
  have haccepted := accepted_iff_of_holds hX hholds hcurrent hshort hhash hchecks
  rw [trim_compactJwt] at haccepted
  replace haccepted := haccepted.trans (vouched_compactJwt_iff hearly hlate hexpected)
  refine ⟨haccepted, fun hlatest hroles => haccepted.mpr ?_⟩
  -- The key has never been another one.
  have hkey : current.key cargs.role = keys.key cargs.role := by
    rw [hkept _ hroles]
    rw [List.getLast?_eq_getElem?, ← hlatest, Nat.add_sub_cancel, hkeys] at hlast
    rw [← Option.some.inj hlast]
  obtain ⟨hsigner, hname⟩ := signerOf_congr (X := X) (t := did.toText) hkey
  refine ⟨hname, ?_⟩
  rw [hsigner]
  exact Signer.verify_sign hX _ _

end Pop

/-! ## A sample token -/

namespace Sample

open Pop

/-- The world once the sample DID is created holds its log. -/
theorem holds_createdWorld : Holds toolCrates logPath toolDid [createdKeys] createdWorld := by
  refine ⟨createdText, createdLog, files_worldOf, tryFromJsonl_createdText,
    inStep_created.fromStr, inStep_created.accepted, ⟨?_, ?_⟩, rfl, ?_⟩
  · have hdir : ∃ dir ∈ (worldOf []).keyStore.get (didToHash toolCrates toolDid.toText),
        dir.didTxt = some toolDid.toText ∧ Text.trim toolDid.toText = toolDid.toText ∧
          dir.numbers = [1] := by decide +kernel
    obtain ⟨dir, hdir, htxt, htrim, hnumbers⟩ := hdir
    refine ⟨dir, toolDid.toText, hdir, htxt, htrim, fun m => ?_⟩
    rw [hnumbers, List.mem_singleton, List.length_singleton]
    omega
  · rintro i keys hkeys
    obtain ⟨rfl, rfl⟩ := (List.getElem?_concat_eq_some (l := []) hkeys).resolve_left fun h =>
      absurd h.1 (Nat.not_lt_zero i)
    refine ⟨(stored_worldOf createdText).key, fun role => ?_⟩
    have hpublic : ∃ pem ∈ (publicToPem toolCrates createdKeys role).toOption,
        Os.keyFile (worldOf []) (didToHash toolCrates toolDid.toText) (snapshotName 1)
          (keyFileName role false) = some pem := by
      cases role <;> decide +kernel
    obtain ⟨pem, hpem, hfile⟩ := hpublic
    exact ⟨pem, Except.toOption_eq_some_iff.mp hpem, hfile⟩
  · rintro i e keys he hkeys
    obtain ⟨rfl, rfl⟩ := (List.getElem?_concat_eq_some (l := []) hkeys).resolve_left fun h =>
      absurd h.1 (Nat.not_lt_zero i)
    obtain rfl := Option.some.inj he
    exact ⟨rfl, inStep_created.updateKeys, by decide⟩

/-- When the sample DID is created and its assertion key rotated, a token is checked against the
second entry. -/
theorem accepted_iff_rotatedWorld : ∃ history keys, history.length = 2 ∧
    Holds toolCrates logPath toolDid history rotatedWorld ∧ history.getLast? = some keys ∧
    ∀ {env : Env} {args : VerifyPopArgs} {jwtText : Text} {t : UInt64},
      Checks env args rotatedWorld logPath jwtText t →
      ((∃ s w', cmdVerifyPop toolCrates env args rotatedWorld = (.ok s, w')) ↔
        ∃ role, Vouched toolCrates toolDid keys role args t (Text.trim jwtText)) :=
  accepted_iff_of_run lawful_toolCrates run_rotatedWorld (by decide) (by decide)

/-- An environment in which a new assertion key is generated, shortly after the sample token is
made. -/
def laterEnv : Env := { toolEnv (1735800045 + 5) with freshEcdsa := fun _ => rotatedSecret }

/-- The world in which the assertion key is then rotated. -/
def laterWorld : World := (Rotate.cmdRotate toolCrates laterEnv rotationArgs).after createdWorld

theorem rotations_laterWorld :
    Rotations toolCrates toolDid logPath createdWorld [rotationPlan] laterWorld := by
  have hrotated : (Rotate.cmdRotate toolCrates laterEnv rotationArgs
      createdWorld).1.toOption.isSome := by decide +kernel
  obtain ⟨report, hreport⟩ := Option.isSome_iff_exists.mp hrotated
  have hbefore : Rotations toolCrates toolDid logPath createdWorld [] createdWorld := .refl
  exact hbefore.rotated inPlace_rotationArgs rfl
    (Command.eq_ok_after (Except.toOption_eq_some_iff.mp hreport))

/-- The sample token, signed with the authentication key, is accepted when the assertion key has
been rotated. -/
theorem survives_popToken : ∃ s w₂,
    cmdVerifyPop toolCrates (toolEnv 1735800100) { popArgs with input := some logPath }
      laterWorld = (.ok s, w₂) := by
  have hcreate : (cmdCreatePop toolCrates (toolEnv 1735800000)
      { did := toolDid.toText, role := .authentication, nonce := some "n", ttl := 300 }
      createdWorld).1 = .ok popToken := by
    decide +kernel
  obtain ⟨iat, nonce, signature, -, ⟨tick, rfl⟩, hnonce, hsurvives⟩ := survives_iff
    lawful_toolCrates holds_createdWorld (by decide) (.inl rfl) rfl (.inr ⟨rfl, rfl⟩)
    (Command.eq_ok_of_fst_eq hcreate)
  have htime (second : ℤ) (tick : ℕ) : timeOf (toolEnv second) tick =
      UInt64.ofNat (second * 1000000000 / 1000000000).toNat := rfl
  rw [htime] at hsurvives
  -- The rotation is for the assertion key only.
  obtain ⟨more, current, -, -, -, haccepted⟩ := hsurvives rotations_laterWorld (by decide)
  have hchecks : Checks (toolEnv 1735800100) { popArgs with input := some logPath } laterWorld
      logPath popToken 1735800100 :=
    { fault := fun _ _ => rfl
      presented := .inl ⟨rfl, rfl⟩
      no_did := rfl
      input := rfl
      clock := htime 1735800100 }
  have hexpected : ∀ expected ∈ popArgs.nonce, expected = nonce := by
    intro expected hexpected
    rw [hnonce "n" rfl]
    exact (Option.some.inj hexpected).symm
  have hkept : ∀ plan ∈ [rotationPlan], ¬ plan.Rotates .authentication := by
    simp [Rotate.Plan.Rotates, rotationPlan]
  exact (haccepted hchecks (by decide) (by decide) hexpected).2 rfl hkept

end Sample

end Swiyu
