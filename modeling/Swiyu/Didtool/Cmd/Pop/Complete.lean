import Swiyu.Didtool.Cmd.Pop.Sound
import Swiyu.Lib.Json.Plain

/-!
# Proofs of possession that the tool makes are accepted

What creation and verification do to a token fits together: the segments that are encoded are
decoded, the key that has signed is the key that is found, and it is found by the `kid` that names
it.

## Main definitions

- `Swiyu.Pop.Presented`: how the verification gets a token.
- `Swiyu.Pop.Source`: the log sources that give a log.

## Main results

- `Swiyu.Pop.cmdVerifyPop_of_parts`: what it takes for a token to be accepted.
- `Swiyu.Pop.accepted_of_cmdCreatePop`: a token that has been created is accepted.
-/

namespace Swiyu

namespace Pop

open Json

/-! ## Tokens -/

section Tokens

variable {X : JoseCrates}

/-- A segment holds the value that has been encoded. -/
theorem jsonSegment_encodePart {v : Value} {n : ℕ} (hplain : v.PlainWithin n) (hn : n ≤ depthLimit)
    (hobject : v.asObject.isSome = true) : JsonSegment X (encodePart X.toCrates v) v :=
  ⟨Text.utf8 (v.print X.f64), v.print X.f64, Base64Url.decode_encode _, Text.fromUtf8_utf8 _,
    hplain.parse_print X.f64 hn, hobject⟩

theorem plainWithin_popHeader (alg kid : Text) : (popHeader alg kid).PlainWithin 1 := by
  refine .ofFields fun p hp => ?_
  simp only [List.mem_cons, List.not_mem_nil, or_false] at hp
  rcases hp with rfl | rfl <;> exact .string 0 _

theorem plainWithin_popPayload (iss : Text) (iat exp : UInt64) (nonce : Text) :
    (popPayload iss iat exp nonce).PlainWithin 1 := by
  refine .ofFields fun p hp => ?_
  simp only [List.mem_cons, List.not_mem_nil, or_false] at hp
  rcases hp with rfl | rfl | rfl | rfl
  · exact .string 0 _
  · exact .posInt 0 _
  · exact .posInt 0 _
  · exact .string 0 _

/-- The dot separates segments. -/
theorem dot_notMem_encode (bytes : Bytes) : '.' ∉ Base64Url.encode bytes := by
  intro h
  have hdot : '.' ∉ Base64Url.alphabet := by decide
  exact hdot (Base64Url.encode_subset bytes h)

/-- There is no white space in a token. -/
theorem trim_compactJwt (X : Crates) (header payload : Value) (signature : Bytes) :
    Text.trim (compactJwt X header payload signature) = compactJwt X header payload signature := by
  have hencode : ∀ bytes : Bytes, ∀ c ∈ Base64Url.encode bytes, Text.isWhitespace c = false := by
    intro bytes c hc
    have hall : ∀ c ∈ Base64Url.alphabet, Text.isWhitespace c = false :=
      Text.forall_mem_of_all (by decide)
    exact hall c (Base64Url.encode_subset bytes hc)
  have hdot : Text.isWhitespace '.' = false := by decide
  refine Text.trim_of_forall fun c hc => ?_
  simp only [compactJwt, popInput, encodePart, List.mem_append, List.mem_cons] at hc
  rcases hc with (hc | rfl | hc) | rfl | hc
  · exact hencode _ c hc
  · exact hdot
  · exact hencode _ c hc
  · exact hdot
  · exact hencode _ c hc

end Tokens

/-- A token is taken apart into what it has been made of. -/
theorem splitJwt_compactJwt {X : ToolCrates} (alg kid iss : Text) (iat exp : UInt64) (nonce : Text)
    (signature : Bytes) :
    splitJwt X
        (compactJwt X.toCrates (popHeader alg kid) (popPayload iss iat exp nonce) signature) =
      .ok {
        header := popHeader alg kid
        payload := popPayload iss iat exp nonce
        signature
        signingInput :=
          popInput X.toCrates (popHeader alg kid) (popPayload iss iat exp nonce) } := by
  refine splitJwt_eq_ok_iff.mpr ⟨_, _, _, ?_, ?_, ?_, Base64Url.decode_encode _, rfl⟩
  · have hpart (v : Value) : '.' ∉ encodePart X.toCrates v := dot_notMem_encode _
    rw [compactJwt, popInput, List.append_assoc, List.cons_append,
      Text.split_append_cons (hpart _), Text.split_append_cons (hpart _),
      Text.split_of_notMem (dot_notMem_encode _)]
  · exact jsonSegment_encodePart (plainWithin_popHeader alg kid) (by decide) rfl
  · exact jsonSegment_encodePart (plainWithin_popPayload iss iat exp nonce) (by decide) rfl

/-- The members of the header. -/
theorem get_popHeader (alg kid : Text) : (popHeader alg kid).get "alg" = some (.string alg) ∧
    (popHeader alg kid).get "kid" = some (.string kid) := by
  constructor <;>
    simp [popHeader, Value.get, Value.ofFields, Value.asObject, OrdMap.ofList, Text.lit_inj]

/-- The members of the payload. -/
theorem get_popPayload (iss : Text) (iat exp : UInt64) (nonce : Text) :
    (popPayload iss iat exp nonce).get "iss" = some (.string iss) ∧
      (popPayload iss iat exp nonce).get "iat" = some (.number (.posInt iat)) ∧
      (popPayload iss iat exp nonce).get "exp" = some (.number (.posInt exp)) ∧
      (popPayload iss iat exp nonce).get "nonce" = some (.string nonce) := by
  refine ⟨?_, ?_, ?_, ?_⟩ <;>
    simp [popPayload, Value.get, Value.ofFields, Value.asObject, OrdMap.ofList, Text.lit_inj]

/-! ## Acceptance -/

/-- The time in seconds that is read at a tick. -/
def timeOf (env : Env) (tick : ℕ) : UInt64 := UInt64.ofNat (env.clock tick / 1000000000).toNat

variable {X : ToolCrates} {env : Env} {args : VerifyPopArgs} {w w₁ w₂ : World}

/-- A token is accepted when its `kid` resolves to a key that verifies it, and its claims are those
that are expected. -/
theorem cmdVerifyPop_of_parts (context : Context) {kid iss nonce : Text} {iat exp : UInt64}
    {signature : Bytes} {shape : KidShape}
    (hread : readJwt env args w = (.ok (compactJwt X.toCrates (popHeader context.key.alg kid)
      (popPayload iss iat exp nonce) signature), w₁))
    (hshape : parseKid kid = .ok shape)
    (hcontext : resolveContext X env args kid shape w₁ = (.ok context, w₂))
    (hverify : context.key.verify X.toJoseCrates (Text.utf8 (popInput X.toCrates
      (popHeader context.key.alg kid) (popPayload iss iat exp nonce))) signature = .ok ())
    (hiss : ∀ expected ∈ context.issConstraint, iss = expected)
    (hearly : iat ≤ timeOf env w₂.tick + IAT_SKEW_SECS) (hlate : timeOf env w₂.tick < exp)
    (hnonce : ∀ expected ∈ args.nonce, expected = nonce) :
    ∃ s w', cmdVerifyPop X env args w = (.ok s, w') := by
  let s : Summary :=
    { alg := context.key.alg, kid, iss, iat, exp, nonce
      expired := decide (exp ≤ timeOf env w₂.tick)
      now := timeOf env w₂.tick }
  have halg : headerAlg (popHeader context.key.alg kid) = .ok s.alg := by
    refine headerAlg_eq_ok_iff.mpr ⟨(get_popHeader _ _).1, ?_⟩
    show context.key.alg = _ ∨ context.key.alg = _
    cases context.key with
    | ed25519 pk => exact .inl rfl
    | ecdsaP256 pk => exact .inr rfl
  have hclaims : checkClaims X env args context.issConstraint (popPayload iss iat exp nonce)
      s.alg s.kid w₂ = (.ok s, w₂.ticked) := by
    obtain ⟨hgetIss, hgetIat, hgetExp, hgetNonce⟩ := get_popPayload iss iat exp nonce
    refine checkClaims_eq_ok_iff.mpr ⟨hgetIss, hiss, hgetIat, hgetExp, rfl,
      UInt64.not_lt.mpr hearly, rfl, ?_, hgetNonce, hnonce, rfl, rfl, rfl⟩
    rintro ⟨hexpired, -⟩
    exact UInt64.not_le.mpr hlate (of_decide_eq_true hexpired)
  exact ⟨s, w₂.ticked, cmdVerifyPop_eq_ok_iff.mpr ⟨_, _, shape, context, w₁, w₂, hread,
    splitJwt_compactJwt _ _ _ _ _ _ _, halg, (get_popHeader _ _).2, hshape, hcontext, rfl, hverify,
    hclaims⟩⟩

/-! ## Issuance -/

/-- The key that verifies what a signer signs. -/
def Signer.verifyingKey (X : ToolCrates) : Signer → VerifyingKey
  | eddsa key => .ed25519 (X.ed25519VerifyingKey key)
  | ecdsa key => .ecdsaP256 (X.p256VerifyingKey key)

theorem Signer.alg_verifyingKey (signer : Signer) : (signer.verifyingKey X).alg = signer.alg := by
  cases signer <;> rfl

/-- A signature verifies under the key of its signer. -/
theorem Signer.verify_sign (hX : X.Lawful) (signer : Signer) (message : Bytes) :
    (signer.verifyingKey X).verify X.toJoseCrates message (signer.sign X message) = .ok () := by
  cases signer with
  | eddsa key =>
    have hlength : ((X.ed25519Sign key message : FixedBytes 64) : Bytes).length = 64 :=
      (X.ed25519Sign key message).2
    simp only [verifyingKey, sign, VerifyingKey.verify, hlength, ↓reduceDIte]
    exact Except.ensure_eq_ok_iff.mpr (hX.ed25519_verify key message)
  | ecdsa key =>
    have hlength : ((X.p256Sign key message : FixedBytes 64) : Bytes).length = 64 :=
      (X.p256Sign key message).2
    simp only [verifyingKey, sign, VerifyingKey.verify, hlength, ↓reduceDIte]
    exact Except.ensure_eq_ok_iff.mpr (hX.p256_verify key message)

/-- The signer of a role. -/
def signerOf (keys : StagedKeys) : KeyRole → Signer
  | .authorized => .eddsa keys.authorized
  | .authentication => .ecdsa keys.authentication
  | .assertion => .ecdsa keys.assertion

/-- The `kid` that names the key of a role. -/
def kidOf (X : ToolCrates) (did : Text) (keys : StagedKeys) : KeyRole → Text
  | .authorized => didKeyUrl (ed25519VerifyingKeyToMultikey (keys.authorizedKeyBytes X))
  | .authentication => did ++ "#authentication-key-01"
  | .assertion => did ++ "#assertion-key-01"

variable {did : DID} {n : ℕ} {keys : StagedKeys} {w' : World}

/-- The key that signs for a role is the latest one, and its `kid` names it. -/
theorem eq_of_resolveRole (h : Stored X w did n keys) {version : Option ℕ}
    (hversion : version = none ∨ version = some n) {role : KeyRole} {kid : Text} {signer : Signer}
    (hrole : resolveRole X env ⟨didToHash X did.toText, did.toText⟩ role version w =
      (.ok (kid, signer), w')) :
    kid = kidOf X did.toText keys role ∧ signer = signerOf keys role := by
  cases role <;>
    · simp only [resolveRole, Command.bind_eq_ok_iff, Command.mapError_eq_ok_iff,
        Command.pure_eq_ok_iff, Prod.mk.injEq] at hrole
      obtain ⟨sk, _, hload, ⟨rfl, rfl⟩, -⟩ := hrole
      obtain rfl := h.eq_of_load rfl hversion hload
      exact ⟨rfl, rfl⟩

/-- What a token that is created has been made of. -/
theorem eq_of_cmdCreatePop {args : CreatePopArgs} {jwt : Text}
    (h : cmdCreatePop X env args w = (.ok jwt, w')) :
    args.ttl ≠ 0 ∧ ∃ entry kid signer nonce tick w₁ w₂,
      resolveEntry X env args.did w = (.ok entry, w₁) ∧
      resolveRole X env entry args.role args.version w₁ = (.ok (kid, signer), w₂) ∧
      (∀ n ∈ args.nonce, nonce = n) ∧
      jwt = compactJwt X.toCrates (popHeader signer.alg kid)
        (popPayload entry.did (timeOf env tick) (timeOf env tick + args.ttl) nonce)
        (signer.sign X (Text.utf8 (popInput X.toCrates (popHeader signer.alg kid)
          (popPayload entry.did (timeOf env tick) (timeOf env tick + args.ttl) nonce)))) := by
  simp only [cmdCreatePop, Command.bind_eq_ok_iff, Command.ofExcept_eq_ok_iff,
    Except.ensure_eq_ok_iff, Command.mapError_eq_ok_iff, Os.unixSeconds_eq_ok_iff,
    Command.pure_eq_ok_iff] at h
  obtain ⟨_, _, ⟨httl, rfl⟩, _, _, ⟨-, rfl⟩, entry, w₁, hentry, ⟨kid, signer⟩, w₂, hrole, nonce, w₃,
    hnonce, now, _, ⟨rfl, rfl⟩, _, _, -, rfl, -⟩ := h
  refine ⟨httl, entry, kid, signer, nonce, w₃.tick, w₁, w₂, hentry, hrole, ?_, rfl⟩
  intro n hn
  rw [Option.mem_def.mp hn, chooseNonce, Command.pure_eq_ok_iff] at hnonce
  exact hnonce.1.symm

/-! ## Sources -/

/-- No log source, or one that gives `log`. -/
inductive Source (X : ToolCrates) (env : Env) (args : VerifyPopArgs) (w : World) (did : DID)
    (log : DIDLog) : Prop
  /-- No source. -/
  | absent (no_did : args.did = none) (no_input : args.input = none)
  /-- A file with the log. -/
  | file {path text : Text} (no_did : args.did = none) (input_eq : args.input = some path)
      (file_eq : w.files.get path = some text)
      (log_eq : DIDLog.tryFromJsonl X.toCrates text = .ok log)
  /-- The log that is served for the DID. -/
  | served {target text : Text} (did_eq : args.did = some target) (no_input : args.input = none)
      (names : Names X did target)
      (served_eq : ∀ n, fetchText did.logUrl (env.server n did.logUrl) = .ok (.ok text))
      (log_eq : DIDLog.tryFromJsonl X.toCrates text = .ok log)

variable {log : DIDLog}

/-- A source that is given gives the log and its DID. -/
theorem loadSource_of_source (h : InStep X w did log keys) (hfault : ∀ n op, env.fault n op = none)
    (hsource : Source X env args w did log) (hlog : args.logFlag = true) {w₁ : World}
    (hw : w₁ = w ∨ w₁ = w.ticked) :
    ∃ w₂, loadSource X env args w₁ = (.ok (log, did.toText), w₂) := by
  have hstored : Stored X w₁ did log.entries.length keys := by
    rcases hw with rfl | rfl
    · exact h.stored
    · exact h.stored.ticked
  have hfiles : w₁.files = w.files := by rcases hw with rfl | rfl <;> rfl
  -- It is enough to read the text: the log in it is accepted for the DID.
  suffices ∃ text path target w₂, readLog env args.did args.input w₁ =
      (.ok (text, path, target), w₂) ∧ DIDLog.tryFromJsonl X.toCrates text = .ok log ∧
      (∀ d ∈ target, d = did) ∧ ¬ (args.did.isSome = true ∧ args.input.isSome = true) by
    obtain ⟨text, path, target, w₂, hread, hparse, htarget, hargs⟩ := this
    have hload : loadLog X.toCrates env args.did args.input w₁ =
        (.ok ⟨collectRawLines text, log, path⟩, w₂) :=
      loadLog_eq_ok_iff.mpr ⟨hargs, text, target, hread, hparse,
        verifyLoadedLog_of_verifyLog h.accepted h.fromStr htarget, rfl⟩
    exact ⟨w₂, loadSource_eq_ok_iff.mpr ⟨_, hload, rfl, currentDid_of_verifyLog h.accepted⟩⟩
  -- The text is in a file, or it is served.
  cases hsource with
  | absent hdid hinput => simp [VerifyPopArgs.logFlag, hdid, hinput] at hlog
  | @file path text hdid hinput hfile hparse =>
    refine ⟨text, some path, none, w₁.ticked, ?_, hparse, by simp, by simp [hdid]⟩
    rw [hdid]
    refine readLog_input_eq_ok_iff.mpr ⟨hfault _ _, ?_, ?_, rfl, rfl⟩
    · rw [hinput, Option.getD_some, hfiles, hfile]
    · rw [hinput, Option.getD_some]
  | @served target text hdid hinput hnames hserved hparse =>
    obtain ⟨w₂, hresolve, -⟩ := resolveDid_of_names hstored h.fromStr hfault hnames
    refine ⟨text, none, some did, w₂.ticked, ?_, hparse, by simp, by simp [hinput]⟩
    rw [hdid]
    exact readLog_target_eq_ok_iff.mpr ⟨did, w₂, hresolve, hserved _, rfl, rfl, rfl⟩

/-- The keys in a document that the tool has written are found by their names. -/
theorem findVmKeyInLog_of_newGenesis (hX : X.Lawful) {last : DIDLogEntry}
    (hlast : log.entries.getLast? = some last) {didText : Text}
    (hstate : last.didDocState = .value (DIDDoc.newGenesis didText
      (keys.authenticationKeyCoords X) (keys.assertionKeyCoords X)).toJson) :
    findVmKeyInLog X log (didText ++ "#authentication-key-01") =
        .ok (.ecdsaP256 (keys.authenticationKeyCoords X)) ∧
      findVmKeyInLog X log (didText ++ "#assertion-key-01") =
        .ok (.ecdsaP256 (keys.assertionKeyCoords X)) := by
  have hdoc := DIDDoc.tryFromJson_newGenesis (X := X.toCrates) didText
    (keys.authenticationKeyCoords X) (keys.assertionKeyCoords X)
  constructor
  · exact findVmKeyInLog_eq_ok_iff.mpr ⟨last, _, _, _, _, hlast, hstate, hdoc,
      List.find?_cons_of_pos (by simp), rfl, tryFromJwk_fromP256Coordinates _ (hX.p256_sec1 _)⟩
  · have hfind : (DIDDoc.newGenesis didText (keys.authenticationKeyCoords X)
        (keys.assertionKeyCoords X)).verificationMethod.find? (fun vm => vm.id =
          didText ++ Text.lit "#assertion-key-01") = some
        (p256Method (didText ++ "#assertion-key-01") didText (keys.assertionKeyCoords X)
          "assertion-key-01") := by
      -- The other method has another name.
      rw [DIDDoc.newGenesis, List.find?_cons_of_neg (by simp [Text.lit_inj])]
      exact List.find?_cons_of_pos (by simp)
    exact findVmKeyInLog_eq_ok_iff.mpr ⟨last, _, _, _, _, hlast, hstate, hdoc, hfind, rfl,
      tryFromJwk_fromP256Coordinates _ (hX.p256_sec1 _)⟩

/-- Without a source, the keys other than the authorized one are those of the key store. -/
theorem resolveViaKeystore_of_stored (h : Stored X w did n keys)
    (hdid : DID.fromStr did.toText = .ok did) (hfault : ∀ n op, env.fault n op = none)
    (hhash : '#' ∉ did.toText) {frag : Text} {role : KeyRole}
    (hrole : frag = Text.lit "authentication-key-01" ∧ role = .authentication ∨
      frag = Text.lit "assertion-key-01" ∧ role = .assertion) :
    ∃ w', resolveViaKeystore X env did.toText (did.toText ++ '#' :: frag) w =
      (.ok (.ecdsaP256 (X.p256VerifyingKey (keys.key role))), w') := by
  let entry : KeyStoreEntry := ⟨didToHash X did.toText, did.toText⟩
  have hload : entry.load env (parsePrivateKey X role) role none w.ticked = _ :=
    h.ticked.load hfault rfl role
  refine ⟨w.ticked.ticked.ticked, (resolveViaKeystore_eq_ok_iff hhash).mpr
    ⟨did, _, _, role, _, hdid, h.lookup hfault, hrole, ?_, rfl⟩⟩
  rcases hrole with ⟨-, rfl⟩ | ⟨-, rfl⟩ <;> exact hload

/-- The `kid` of a role resolves to the key that goes with the role's signer, and to no other
issuer than the DID. -/
theorem resolveContext_of_inStep (hX : X.Lawful) (h : InStep X w did log keys)
    (hfault : ∀ n op, env.fault n op = none) (hhash : '#' ∉ did.toText)
    (hsource : Source X env args w did log) {w₁ : World} (hw : w₁ = w ∨ w₁ = w.ticked)
    (role : KeyRole) :
    ∃ shape constraint w₂, parseKid (kidOf X did.toText keys role) = .ok shape ∧
      resolveContext X env args (kidOf X did.toText keys role) shape w₁ =
        (.ok ⟨(signerOf keys role).verifyingKey X, constraint⟩, w₂) ∧
      ∀ expected ∈ constraint, did.toText = expected := by
  have hstored : Stored X w₁ did log.entries.length keys := by
    rcases hw with rfl | rfl
    · exact h.stored
    · exact h.stored.ticked
  -- The text of the DID and a fragment are told apart again, as the DID has no `#`.
  have hfragment (frag : String) : parseKid (did.toText ++ Text.lit ("#" ++ frag)) =
      .ok (.fragment did.toText) := by
    refine parseKid_eq_ok_iff.mpr (.inr ⟨did.stripPrefix_didKey_toText _, did.toText, frag, ?_,
      hhash, rfl⟩)
    simp [Text.lit]
  by_cases hlog : args.logFlag = true
  · -- The key is found in the log.
    obtain ⟨w₂, hload⟩ := loadSource_of_source h hfault hsource hlog hw
    obtain ⟨loaded, hloaded, rfl, hcurrent⟩ := loadSource_eq_ok_iff.mp hload
    obtain ⟨last, -, hlast, -, hstate⟩ := h.last
    obtain ⟨hauth, hassert⟩ := findVmKeyInLog_of_newGenesis hX hlast hstate
    cases role with
    | authorized =>
      -- The authorized key is in the `kid` itself, and an update key of the log.
      refine ⟨_, some did.toText, w₂, parseKid_eq_ok_iff.mpr
        (.inl ⟨_, rfl, hash_notMem_multikey _, rfl⟩), ?_, by simp⟩
      refine (resolveDidKey_log_eq_ok_iff hlog).mpr
        ⟨loaded, did.toText, ?_, hloaded, hcurrent, ?_, rfl⟩
      · exact decodeMultikey_eq_ok_iff.mpr ⟨_, hX.ed25519_point _, rfl, rfl⟩
      · rw [h.updateKeys]
        exact List.mem_singleton_self _
    | authentication =>
      -- The document of the last entry has the other two as verification methods.
      refine ⟨_, some did.toText, w₂, hfragment "authentication-key-01", ?_, by simp⟩
      exact (resolveFragment_log_eq_ok_iff hlog).mpr ⟨loaded, hloaded, hcurrent, hauth, rfl⟩
    | assertion =>
      refine ⟨_, some did.toText, w₂, hfragment "assertion-key-01", ?_, by simp⟩
      exact (resolveFragment_log_eq_ok_iff hlog).mpr ⟨loaded, hloaded, hcurrent, hassert, rfl⟩
  · -- The key is in the `kid` or in the key store.
    cases role with
    | authorized =>
      refine ⟨_, none, w₁, parseKid_eq_ok_iff.mpr
        (.inl ⟨_, rfl, hash_notMem_multikey _, rfl⟩), ?_, by simp⟩
      refine (resolveDidKey_eq_ok_iff hlog).mpr ⟨?_, rfl, rfl⟩
      exact decodeMultikey_eq_ok_iff.mpr ⟨_, hX.ed25519_point _, rfl, rfl⟩
    | authentication =>
      obtain ⟨w₂, hkey⟩ := resolveViaKeystore_of_stored hstored h.fromStr hfault hhash
        (.inl ⟨rfl, rfl⟩)
      refine ⟨_, some did.toText, w₂, hfragment "authentication-key-01", ?_, by simp⟩
      exact (resolveFragment_eq_ok_iff hlog).mpr ⟨hkey, rfl⟩
    | assertion =>
      obtain ⟨w₂, hkey⟩ := resolveViaKeystore_of_stored hstored h.fromStr hfault hhash
        (.inr ⟨rfl, rfl⟩)
      refine ⟨_, some did.toText, w₂, hfragment "assertion-key-01", ?_, by simp⟩
      exact (resolveFragment_eq_ok_iff hlog).mpr ⟨hkey, rfl⟩

/-! ## Both together -/

/-- The verification gets the token, in its arguments or in a file. -/
def Presented (args : VerifyPopArgs) (w : World) (jwt : Text) : Prop :=
  args.jwt = some jwt ∧ args.jwtFile = none ∨
    ∃ path, args.jwt = none ∧ args.jwtFile = some path ∧ w.files.get path = some jwt

/-- A token with the given claims. -/
def Carries (X : Crates) (jwt iss : Text) (iat exp : UInt64) (nonce : Text) : Prop :=
  ∃ header signature, jwt = compactJwt X header (popPayload iss iat exp nonce) signature

/-- A token that is presented is read, up to white space around it. -/
theorem exists_readJwt {jwt : Text} (hfault : ∀ n op, env.fault n op = none)
    (h : Presented args w jwt) (htrim : Text.trim jwt = jwt) :
    ∃ w₁, readJwt env args w = (.ok jwt, w₁) ∧ (w₁ = w ∨ w₁ = w.ticked) := by
  rcases h with ⟨hjwt, hfile⟩ | ⟨path, hjwt, hfile, htext⟩
  · exact ⟨w, readJwt_eq_ok_iff.mpr (.inl ⟨jwt, hjwt, hfile, htrim, rfl⟩), .inl rfl⟩
  · exact ⟨w.ticked, readJwt_eq_ok_iff.mpr
      (.inr ⟨path, jwt, hjwt, hfile, hfault _ _, htext, htrim, rfl⟩), .inr rfl⟩

/-- A token that is created from the latest snapshot carries the time of its creation and the nonce
asked for. When the log and the keys are in step, it is accepted without a log source and with the
log as its source, with its nonce or none, at every time `t` from 60 seconds before its creation
until it expires. -/
theorem accepted_of_cmdCreatePop (hX : X.Lawful) (h : InStep X w did log keys)
    (hhash : '#' ∉ did.toText) {args : CreatePopArgs} (hnames : Names X did args.did)
    (hversion : args.version = none ∨ args.version = some log.entries.length) {jwt : Text}
    (hcreate : cmdCreatePop X env args w = (.ok jwt, w')) :
    ∃ (iat : UInt64) (nonce : Text), Carries X.toCrates jwt did.toText iat (iat + args.ttl) nonce ∧
      (∃ tick, iat = timeOf env tick) ∧ (∀ n ∈ args.nonce, nonce = n) ∧
      (iat.toNat + args.ttl.toNat < 2 ^ 64 →
        ∀ {env' : Env} {vargs : VerifyPopArgs} {w₁ : World} {t : UInt64},
          (∀ n op, env'.fault n op = none) → w₁.keyStore = w.keyStore →
          Presented vargs w₁ jwt → Source X env' vargs w₁ did log →
          (∀ expected ∈ vargs.nonce, expected = nonce) →
          (∀ tick, timeOf env' tick = t) → t.toNat + 60 < 2 ^ 64 →
          iat.toNat ≤ t.toNat + 60 → t.toNat < iat.toNat + args.ttl.toNat →
          ∃ s w₂, cmdVerifyPop X env' vargs w₁ = (.ok s, w₂)) := by
  obtain ⟨-, entry, kid, signer, nonce, tick, w₃, w₄, hentry, hrole, hnonce, rfl⟩ :=
    eq_of_cmdCreatePop hcreate
  -- The token is signed with the latest key of the role.
  obtain ⟨rfl, rfl⟩ := h.stored.eq_of_resolveEntry h.fromStr hnames hentry
  obtain ⟨rfl, rfl⟩ := eq_of_resolveRole h.stored.ticked hversion hrole
  refine ⟨timeOf env tick, nonce, ⟨_, _, rfl⟩, ⟨tick, rfl⟩, hnonce, ?_⟩
  intro hrange env' vargs w₁ t hfault' hkeyStore hpresented hsource hexpected ht htrange hearly
    hlate
  -- The key store is the same.
  have hstep : InStep X w₁ did log keys := by
    obtain ⟨⟨dir, stored, hdir, hrest⟩, hkey⟩ := h.stored
    refine { h with stored := ⟨⟨dir, stored, hkeyStore ▸ hdir, hrest⟩, fun role => ?_⟩ }
    rw [← hkey role, storedKey, storedKey, Os.keyFile, Os.keyFile, hkeyStore]
  obtain ⟨w₂, hread, hw₂⟩ := exists_readJwt hfault' hpresented (trim_compactJwt _ _ _ _)
  obtain ⟨shape, constraint, w₆, hshape, hcontext, hiss⟩ :=
    resolveContext_of_inStep hX hstep hfault' hhash hsource hw₂ args.role
  have halg := (signerOf keys args.role).alg_verifyingKey (X := X)
  rw [← halg] at hread
  refine cmdVerifyPop_of_parts _ hread hshape hcontext ?_ hiss ?_ ?_ hexpected
  · exact Signer.verify_sign hX _ _
  · -- Neither sum wraps around, so the comparisons are those of the numbers.
    have hskew : (t + IAT_SKEW_SECS).toNat = t.toNat + 60 := by
      rw [UInt64.toNat_add]
      exact Nat.mod_eq_of_lt htrange
    rw [ht, UInt64.le_iff_toNat_le, hskew]
    exact hearly
  · rw [ht, UInt64.lt_iff_toNat_lt, UInt64.toNat_add, Nat.mod_eq_of_lt hrange]
    exact hlate

end Pop

namespace Sample

open Pop

/-- The sample token is the one that is created from the latest snapshot of the sample DID. It is
accepted with the log as its source. -/
theorem accepted_popToken :
    ∃ s w₂, cmdVerifyPop toolCrates (toolEnv 1735800100) { popArgs with input := some logPath }
      createdWorld = (.ok s, w₂) := by
  have hcreate : (cmdCreatePop toolCrates (toolEnv 1735800000)
      { did := toolDid.toText, role := .authentication, nonce := some "n", ttl := 300 }
      createdWorld).1 = .ok popToken := by
    decide +kernel
  obtain ⟨iat, nonce, -, ⟨tick, rfl⟩, hnonce, haccepted⟩ := accepted_of_cmdCreatePop
    lawful_toolCrates inStep_created (by decide) (.inl rfl) (.inl rfl)
    (Command.eq_ok_of_fst_eq hcreate)
  obtain rfl := hnonce "n" rfl
  have htime (second : ℤ) (tick : ℕ) : timeOf (toolEnv second) tick =
      UInt64.ofNat (second * 1000000000 / 1000000000).toNat := rfl
  rw [htime] at haccepted
  have hsource : Source toolCrates (toolEnv 1735800100) { popArgs with input := some logPath }
      createdWorld toolDid createdLog :=
    .file rfl rfl files_worldOf tryFromJsonl_createdText
  have hnonce : ∀ expected ∈ popArgs.nonce, expected = Text.lit "n" := by
    intro expected hexpected
    exact (Option.some.inj hexpected).symm
  exact haccepted (by decide) (fun _ _ => rfl) rfl (.inl ⟨rfl, rfl⟩) hsource hnonce
    (htime 1735800100) (by decide) (by decide) (by decide)

end Sample

end Swiyu
