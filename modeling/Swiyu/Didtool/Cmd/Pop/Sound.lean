import Swiyu.Didtool.Cmd.Pop.Create
import Swiyu.Didtool.Cmd.Pop.Verify
import Swiyu.Didtool.InStep

/-!
# What an accepted proof of possession shows

An accepted proof of possession is signed by the key that its `kid` names, is in time, and names as
its issuer the DID to which that key belongs. Only a `did:key` that is verified without a log leaves
the issuer open.

## Main definitions

- `Swiyu.Pop.IdentityBound`: the ways in which a key belongs to an issuer.
- `Swiyu.Pop.Shown`: what an accepted proof of possession has shown.

## Main results

- `Swiyu.Pop.shown_of_cmdVerifyPop`: what has been accepted has shown all that.
-/

namespace Swiyu

namespace Pop

open Json

/-! ## Identity -/

/-- The log that is given is loaded. Until then at most the file of the JWT has been read. -/
def LoadsLog (X : Crates) (env : Env) (args : VerifyPopArgs) (w : World) (log : DIDLog) : Prop :=
  args.logFlag = true ∧ ∃ w₁ w₂ loaded, (w₁ = w ∨ w₁ = w.ticked) ∧
    loadLog X env args.did args.input w₁ = (.ok loaded, w₂) ∧ loaded.log = log

/-- The key belongs to the issuer, and the `kid` names it. -/
inductive IdentityBound (X : ToolCrates) (env : Env) (args : VerifyPopArgs) (w : World)
    (kid iss : Text) : VerifyingKey → Prop
  /-- An update key that the log announces. -/
  | updateKey {log : DIDLog} {pk : FixedBytes 32} (log_given : LoadsLog X.toCrates env args w log)
      (kid_eq : kid = didKeyUrl (ed25519VerifyingKeyToMultikey pk))
      (mem : ed25519VerifyingKeyToMultikey pk ∈ latestUpdateKeys log.entries)
      (iss_eq : currentDid log = some iss) : IdentityBound X env args w kid iss (.ed25519 pk)
  /-- A verification method in the latest document of the log. -/
  | verificationMethod {log : DIDLog} {frag : Text} {last : DIDLogEntry} {v : Value} {doc : DIDDoc}
      {vm : VerificationMethod} {jwk : PublicKeyJWK} {key : VerifyingKey}
      (log_given : LoadsLog X.toCrates env args w log) (kid_eq : kid = iss ++ '#' :: frag)
      (hash_notMem : '#' ∉ iss) (iss_eq : currentDid log = some iss)
      (last_eq : log.entries.getLast? = some last) (state_eq : last.didDocState = .value v)
      (doc_eq : DIDDoc.tryFromJson X.toCrates v = .ok doc) (id_eq : doc.id = iss)
      (vm_eq : (doc.verificationMethod.find? fun vm => vm.id = kid) = some vm)
      (vm_key : vm.publicKey = .jwk jwk)
      (key_eq : VerifyingKey.tryFromJwk X.toJoseCrates jwk = .ok key) :
      IdentityBound X env args w kid iss key
  /-- The latest authentication or assertion key of the key store. -/
  | stored {did : DID} {dir : EntryDir} {frag stored : Text} {role : KeyRole} {n : ℕ}
      {sk : FixedBytes 32} (no_log : args.logFlag = false) (kid_eq : kid = iss ++ '#' :: frag)
      (hash_notMem : '#' ∉ iss) (did_eq : DID.fromStr iss = .ok did)
      (dir_eq : w.keyStore.get (didToHash X did.toText) = some dir)
      (didTxt_eq : dir.didTxt = some stored) (stored_eq : Text.trim stored = did.toText)
      (frag_eq : frag = Text.lit "authentication-key-01" ∧ role = .authentication ∨
        frag = Text.lit "assertion-key-01" ∧ role = .assertion)
      (latest : dir.latestNumber = some n)
      (key_eq : storedKey X w (didToHash X did.toText) n role = some sk) :
      IdentityBound X env args w kid iss (.ecdsaP256 (X.p256VerifyingKey sk))
  /-- A `did:key` without a log, whose issuer is informational. -/
  | selfContained {pk : FixedBytes 32} (no_log : args.logFlag = false)
      (kid_eq : kid = didKeyUrl (ed25519VerifyingKeyToMultikey pk)) :
      IdentityBound X env args w kid iss (.ed25519 pk)

/-- What an accepted proof of possession has shown, in a run from `w` to `w'`. -/
structure Shown (X : ToolCrates) (env : Env) (args : VerifyPopArgs) (w w' : World) (jwtText : Text)
    (jwt : PopJwt) (key : VerifyingKey) (s : Summary) : Prop where
  /-- The JWT has three segments. -/
  segments : ∃ part₀ part₁ part₂, Text.split '.' jwtText = [part₀, part₁, part₂] ∧
    JsonSegment X.toJoseCrates part₀ jwt.header ∧ JsonSegment X.toJoseCrates part₁ jwt.payload ∧
    Base64Url.decode part₂ = some jwt.signature ∧ jwt.signingInput = part₀ ++ '.' :: part₁
  alg : jwt.header.get "alg" = some (.string key.alg)
  kid : jwt.header.get "kid" = some (.string s.kid)
  /-- The key verifies the third segment over the first two. -/
  verified : key.verify X.toJoseCrates (Text.utf8 jwt.signingInput) jwt.signature = .ok ()
  iss : jwt.payload.get "iss" = some (.string s.iss)
  iat : jwt.payload.get "iat" = some (.number (.posInt s.iat))
  exp : jwt.payload.get "exp" = some (.number (.posInt s.exp))
  nonce : jwt.payload.get "nonce" = some (.string s.nonce)
  /-- The clock is read by the last operation of the run. -/
  now : ∃ n, w'.tick = n + 1 ∧ s.now = UInt64.ofNat (env.clock n / 1000000000).toNat
  issued : s.iat.toNat ≤ s.now.toNat + 60
  unexpired : s.now.toNat < s.exp.toNat ∨ args.allowExpired = true
  expected : ∀ nonce ∈ args.nonce, s.nonce = nonce
  identity : IdentityBound X env args w s.kid s.iss key

variable {X : ToolCrates} {env : Env} {args : VerifyPopArgs} {w w' : World}

/-- The DID that a log announces is the subject of its last document, if there is one. -/
theorem currentDid_of_getLast {log : DIDLog} {last : DIDLogEntry} {v : Value} {doc : DIDDoc}
    (hlast : log.entries.getLast? = some last) (hstate : last.didDocState = .value v)
    (hdoc : DIDDoc.tryFromJson X.toCrates v = .ok doc) : currentDid log = some doc.id := by
  have hid : (v.get "id").bind Value.asStr = some doc.id := by
    simp only [DIDDoc.tryFromJson, Except.bind_eq_ok_iff, Option.okOr_eq_ok_iff,
      Value.asObject_eq_some_iff, DIDDoc.requiredString, pure, Except.pure, Except.ok.injEq] at hdoc
    obtain ⟨obj, rfl, _, _, id, ⟨vid, hvid, hstr⟩, _, _, _, _, _, _, _, _, _, _, _, _, _, _, _, _,
      _, _, rfl⟩ := hdoc
    simp only [Value.get, Value.asObject, Option.bind_some]
    rw [hvid, Option.bind_some, hstr]
  rw [currentDid]
  rw [← List.head?_reverse] at hlast
  cases hreverse : log.entries.reverse with
  | nil => simp [hreverse] at hlast
  | cons e rest =>
    rw [hreverse, List.head?_cons, Option.some.injEq] at hlast
    subst hlast
    simp [DIDDocState.subject, hstate, hid]

/-- A key that is resolved belongs to the issuer that passes the constraint that goes with it. -/
theorem identityBound_of_resolveContext {kid iss : Text} {shape : KidShape} {context : Context}
    {w₁ w₂ : World} (hw : w₁ = w ∨ w₁ = w.ticked) (hshape : parseKid kid = .ok shape)
    (hcontext : resolveContext X env args kid shape w₁ = (.ok context, w₂))
    (hiss : ∀ expected ∈ context.issConstraint, iss = expected) :
    IdentityBound X env args w kid iss context.key := by
  -- There are two shapes of a `kid`, each resolved with a log or without one.
  rcases parseKid_eq_ok_iff.mp hshape with
    ⟨multikey, rfl, -, rfl⟩ | ⟨-, kidDid, frag, rfl, hhash, rfl⟩
  · rw [resolveContext] at hcontext
    by_cases hlog : args.logFlag = true
    · -- A `did:key` with a log.
      obtain ⟨loaded, logDid, hkey, hload, hdid, hmem, hconstraint⟩ :=
        (resolveDidKey_log_eq_ok_iff hlog).mp hcontext
      obtain ⟨pk, -, rfl, hpk⟩ := decodeMultikey_eq_ok_iff.mp hkey
      rw [hpk, hiss logDid (by simp [hconstraint])]
      exact .updateKey ⟨hlog, w₁, w₂, loaded, hw, hload, rfl⟩ rfl hmem hdid
    · -- A `did:key` without one.
      obtain ⟨hkey, -, -⟩ := (resolveDidKey_eq_ok_iff hlog).mp hcontext
      obtain ⟨pk, -, rfl, hpk⟩ := decodeMultikey_eq_ok_iff.mp hkey
      rw [hpk]
      exact .selfContained (by simpa using hlog) rfl
  · rw [resolveContext] at hcontext
    by_cases hlog : args.logFlag = true
    · -- A verification method with a log.
      obtain ⟨loaded, hload, hdid, hkey, hconstraint⟩ :=
        (resolveFragment_log_eq_ok_iff hlog).mp hcontext
      obtain rfl : iss = kidDid := hiss kidDid (by simp [hconstraint])
      obtain ⟨last, v, doc, vm, jwk, hlast, hstate, hdoc, hvm, hpublic, hjwk⟩ :=
        findVmKeyInLog_eq_ok_iff.mp hkey
      have hid : doc.id = iss := Option.some.inj
        ((currentDid_of_getLast hlast hstate hdoc).symm.trans hdid)
      exact .verificationMethod ⟨hlog, w₁, w₂, loaded, hw, hload, rfl⟩ rfl hhash hdid hlast hstate
        hdoc hid hvm hpublic hjwk
    · -- A key of the key store.
      obtain ⟨hkey, hconstraint⟩ := (resolveFragment_eq_ok_iff hlog).mp hcontext
      obtain rfl : iss = kidDid := hiss kidDid (by simp [hconstraint])
      obtain ⟨did, entry, w₃, role, sk, hdid, hlookup, hrole, hload, hkey⟩ :=
        (resolveViaKeystore_eq_ok_iff hhash).mp hkey
      -- The entry that is looked up is the one that records the DID.
      obtain ⟨-, ⟨dir, stored, hdir, hstored, htext⟩, rfl, rfl⟩ :=
        KeyStore.lookup_eq_ok_some_iff.mp hlookup
      -- Its latest snapshot has the key that is loaded.
      rw [KeyStoreEntry.loadEcdsa, KeyStoreEntry.load_none, Command.bind_eq_ok_iff] at hload
      obtain ⟨n, w₄, hlatest, hload⟩ := hload
      obtain ⟨-, hnumber, rfl⟩ := KeyStoreEntry.latestVersion_eq_ok_iff.mp hlatest
      obtain ⟨-, ⟨pem, hpem, hparse⟩, -⟩ := KeyStoreEntry.load_some_eq_ok_iff.mp hload
      have hstoredKey : storedKey X w (didToHash X did.toText) n role = some sk := by
        refine storedKey_eq_some_iff.mpr ⟨pem, ?_, ?_⟩
        · rcases hw with rfl | rfl <;> exact hpem
        · rcases hrole with ⟨-, rfl⟩ | ⟨-, rfl⟩ <;> exact hparse
      have hdir' : w.keyStore.get (didToHash X did.toText) = some dir := by
        rcases hw with rfl | rfl <;> exact hdir
      rw [World.keyStore_ticked, hdir, Option.bind_some] at hnumber
      rw [hkey]
      exact .stored (by simpa using hlog) rfl hhash hdid hdir' hstored htext hrole hnumber
        hstoredKey

/-- An accepted proof of possession is signed by the key that its `kid` names, in time, for the
expected nonce, and its issuer is the one to whom the key belongs. -/
theorem shown_of_cmdVerifyPop {s : Summary} (h : cmdVerifyPop X env args w = (.ok s, w')) :
    ∃ jwtText jwt key w₁, readJwt env args w = (.ok jwtText, w₁) ∧
      Shown X env args w w' jwtText jwt key s := by
  obtain ⟨jwtText, jwt, shape, context, w₁, w₂, hread, hsplit, halg, hkid, hshape, hcontext, hkey,
    hverify, hclaims⟩ := cmdVerifyPop_eq_ok_iff.mp h
  obtain ⟨hiss, hconstraint, hiat, hexp, hnow, hearly, hexpired, hlate, hnonce, hexpected, -, -,
    hend⟩ := checkClaims_eq_ok_iff.mp hclaims
  -- A JWT that is given as an argument takes no tick, and one that is read from a file takes one.
  have hw : w₁ = w ∨ w₁ = w.ticked := by
    rcases readJwt_eq_ok_iff.mp hread with ⟨_, -, -, -, rfl⟩ | ⟨_, _, -, -, -, -, -, rfl⟩
    · exact .inl rfl
    · exact .inr rfl
  refine ⟨jwtText, jwt, context.key, w₁, hread, ?_⟩
  exact {
    segments := splitJwt_eq_ok_iff.mp hsplit
    alg := hkey ▸ (headerAlg_eq_ok_iff.mp halg).1
    kid := hkid
    verified := hverify
    iss := hiss
    iat := hiat
    exp := hexp
    nonce := hnonce
    now := ⟨_, (congrArg World.tick hend).symm, hnow⟩
    issued := by
      -- The sum with the skew may wrap around, which makes it smaller.
      have hle := UInt64.le_iff_toNat_le.mp (UInt64.not_lt.mp hearly)
      rw [UInt64.toNat_add] at hle
      exact hle.trans (Nat.mod_le _ _)
    unexpired := by
      by_cases hallow : args.allowExpired = true
      · exact .inr hallow
      · refine .inl (UInt64.lt_iff_toNat_lt.mp (UInt64.not_le.mp fun hle => hlate ⟨?_, ?_⟩))
        · rw [hexpired]
          exact decide_eq_true hle
        · simpa using hallow
    expected := fun nonce hmem => (hexpected nonce hmem).symm
    identity := identityBound_of_resolveContext hw hshape hcontext hconstraint }

end Pop

/-! ## A sample token -/

namespace Sample

open Pop

/-- A proof of possession by the authentication key of the sample DID. -/
def popToken : Text :=
  compactJwt toolCrates.toCrates (popHeader "ES256" (toolDid.toText ++ "#authentication-key-01"))
    (popPayload toolDid.toText 1735800000 1735800300 "n") popSignature

/-- The token is verified with the keys of the key store. -/
def popArgs : VerifyPopArgs := { jwt := some popToken, nonce := some "n" }

/-- What is printed of the token. -/
def popSummary : Summary where
  alg := "ES256"
  kid := toolDid.toText ++ "#authentication-key-01"
  iss := toolDid.toText
  iat := 1735800000
  exp := 1735800300
  nonce := "n"
  expired := false
  now := 1735800100

theorem cmdVerifyPop_popToken :
    (cmdVerifyPop toolCrates (toolEnv 1735800100) popArgs createdWorld).1 = .ok popSummary := by
  decide +kernel

/-- The sample token is accepted, and so its issuer is the sample DID. -/
theorem shown_popToken : ∃ w' jwtText jwt key w₁,
    cmdVerifyPop toolCrates (toolEnv 1735800100) popArgs createdWorld = (.ok popSummary, w') ∧
    readJwt (toolEnv 1735800100) popArgs createdWorld = (.ok jwtText, w₁) ∧
      Shown toolCrates (toolEnv 1735800100) popArgs createdWorld w' jwtText jwt key popSummary := by
  have hrun := Command.eq_ok_of_fst_eq cmdVerifyPop_popToken
  obtain ⟨jwtText, jwt, key, w₁, hread, hshown⟩ := shown_of_cmdVerifyPop hrun
  exact ⟨_, jwtText, jwt, key, w₁, hrun, hread, hshown⟩

end Sample

end Swiyu
