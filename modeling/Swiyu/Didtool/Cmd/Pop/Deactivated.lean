import Swiyu.Didtool.Cmd.Pop.Complete

/-!
# Proofs of possession for deactivated DIDs

The verification of a proof of possession does not ask whether the last entry of the log deactivates
the DID. What stands in its way is only that no key is left to be found in the log: no update key,
and no verification method in the document, which a deactivation carries forward.

## Main definitions

- `Swiyu.Pop.DeactivatedLog`: an accepted log that ends in a deactivation.
- `Swiyu.Pop.UsableKey`: the keys that a `kid` finds in a log.

## Main results

- `Swiyu.Pop.rejected_iff_not_usableKey`: when every proof of possession is rejected.
- `Swiyu.Sample.not_rejected_deactivated`: a deactivated DID that still proves possession.
-/

namespace Swiyu

namespace Pop

open Json

/-- The text of a log that is accepted for a DID and whose last entry deactivates the DID. -/
structure DeactivatedLog (X : Crates) (text : Text) (log : DIDLog) (did : DID) : Prop where
  parsed : DIDLog.tryFromJsonl X text = .ok log
  fromStr : DID.fromStr did.toText = .ok did
  accepted : verifyLog X log did = .ok ()
  deactivated : ∃ last ∈ log.entries.getLast?, last.parameters.deactivated = some true

/-- A key that a `kid` finds in the log of a DID: an update key that was announced last, or a
verification method of the last document. -/
def UsableKey (X : ToolCrates) (log : DIDLog) (did kid : Text) (key : VerifyingKey) : Prop :=
  (∃ multikey ∈ latestUpdateKeys log.entries, kid = didKeyUrl multikey ∧
      decodeMultikey X multikey = .ok key) ∨
    ('#' ∉ did ∧ ∃ frag, kid = did ++ '#' :: frag ∧ findVmKeyInLog X log kid = .ok key)

/-- A log source that gives no other log than `log` to the verification. -/
def SourceGives (X : Crates) (env : Env) (args : VerifyPopArgs) (w : World) (log : DIDLog) : Prop :=
  args.logFlag = true ∧ ∀ jwt w₁ loaded w₂, readJwt env args w = (.ok jwt, w₁) →
    loadLog X env args.did args.input w₁ = (.ok loaded, w₂) → loaded.log = log

variable {X : ToolCrates} {env : Env} {args : VerifyPopArgs} {w w' : World} {text : Text}
  {log : DIDLog} {did : DID}

/-- What is accepted is signed with a key of the log. -/
theorem exists_usableKey_of_cmdVerifyPop (haccepted : verifyLog X.toCrates log did = .ok ())
    (hsource : SourceGives X.toCrates env args w log) {s : Summary}
    (h : cmdVerifyPop X env args w = (.ok s, w')) :
    ∃ key, UsableKey X log did.toText s.kid key := by
  obtain ⟨hlog, hgives⟩ := hsource
  obtain ⟨jwt, -, shape, context, w₁, w₂, hread, -, -, -, hshape, hcontext, -⟩ :=
    cmdVerifyPop_eq_ok_iff.mp h
  refine ⟨context.key, ?_⟩
  rcases parseKid_eq_ok_iff.mp hshape with ⟨multikey, hkid, -, rfl⟩ | ⟨-, kidDid, frag, hkid, hhash,
    rfl⟩
  · obtain ⟨loaded, logDid, hkey, hload, -, hmem, -⟩ :=
      (resolveDidKey_log_eq_ok_iff hlog).mp hcontext
    rw [hgives _ _ _ _ hread hload] at hmem
    exact .inl ⟨multikey, hmem, hkid, hkey⟩
  · obtain ⟨loaded, hload, hdid, hkey, -⟩ := (resolveFragment_log_eq_ok_iff hlog).mp hcontext
    obtain rfl := hgives _ _ _ _ hread hload
    obtain rfl := Option.some.inj ((currentDid_of_verifyLog haccepted).symm.trans hdid)
    exact .inr ⟨hhash, frag, hkid, hkey⟩

section File

variable {path : Text} (h : DeactivatedLog X.toCrates text log did)
  (hfault : ∀ n op, env.fault n op = none) (hdid : args.did = none)
  (hinput : args.input = some path) (hfile : w.files.get path = some text)

include h hfault hdid hinput hfile

/-- The log is loaded from a file. -/
theorem loadLog_file : loadLog X.toCrates env args.did args.input w =
    (.ok ⟨collectRawLines text, log, some path⟩, w.ticked) := by
  have hread : readLog env none (some path) w = (.ok (text, some path, none), w.ticked) :=
    readLog_input_eq_ok_iff.mpr ⟨hfault _ _, hfile, rfl, rfl, rfl⟩
  rw [hdid, hinput]
  exact loadLog_eq_ok_iff.mpr ⟨by simp, text, none, hread, h.parsed,
    verifyLoadedLog_of_verifyLog h.accepted h.fromStr (by simp), rfl⟩

/-- A file gives no other log. -/
theorem sourceGives_file (hjwt : args.jwtFile = none) :
    SourceGives X.toCrates env args w log := by
  refine ⟨by simp [VerifyPopArgs.logFlag, hinput], fun jwt w₁ loaded w₂ hread hload => ?_⟩
  rcases readJwt_eq_ok_iff.mp hread with ⟨_, -, -, -, rfl⟩ | ⟨_, _, -, hjwt', -⟩
  · rw [loadLog_file h hfault hdid hinput hfile] at hload
    cases hload
    rfl
  · rw [hjwt] at hjwt'
    cases hjwt'

/-- A token is accepted with the file as its source, when it is signed with a key that is usable. -/
theorem exists_cmdVerifyPop_file {kid : Text} {key : VerifyingKey}
    (hkey : UsableKey X log did.toText kid key) {iat exp : UInt64} {nonce : Text}
    {signature : Bytes} (hjwt : args.jwt = some (compactJwt X.toCrates (popHeader key.alg kid)
      (popPayload did.toText iat exp nonce) signature))
    (hjwtFile : args.jwtFile = none)
    (hverify : key.verify X.toJoseCrates (Text.utf8 (popInput X.toCrates (popHeader key.alg kid)
      (popPayload did.toText iat exp nonce))) signature = .ok ())
    {t : UInt64} (ht : ∀ tick, timeOf env tick = t) (hearly : iat ≤ t + IAT_SKEW_SECS)
    (hlate : t < exp) (hnonce : ∀ expected ∈ args.nonce, expected = nonce) :
    ∃ s w', cmdVerifyPop X env args w = (.ok s, w') := by
  have hload := loadLog_file h hfault hdid hinput hfile
  have hlog : args.logFlag = true := by simp [VerifyPopArgs.logFlag, hinput]
  have hcurrent := currentDid_of_verifyLog h.accepted
  have hread : readJwt env args w = (.ok _, w) :=
    readJwt_eq_ok_iff.mpr (.inl ⟨_, hjwt, hjwtFile, trim_compactJwt _ _ _ _, rfl⟩)
  rw [← ht] at hearly hlate
  rcases hkey with ⟨multikey, hmem, rfl, hkey⟩ | ⟨hhash, frag, rfl, hkey⟩
  · obtain ⟨pk, -, rfl, -⟩ := decodeMultikey_eq_ok_iff.mp hkey
    refine cmdVerifyPop_of_parts ⟨key, some did.toText⟩ hread
      (parseKid_eq_ok_iff.mpr (.inl ⟨_, rfl, hash_notMem_multikey pk, rfl⟩))
      ((resolveDidKey_log_eq_ok_iff hlog).mpr ⟨_, _, hkey, hload, hcurrent, hmem, rfl⟩)
      hverify (by simp) hearly hlate hnonce
  · refine cmdVerifyPop_of_parts ⟨key, some did.toText⟩ hread
      (parseKid_eq_ok_iff.mpr
        (.inr ⟨did.stripPrefix_didKey_toText _, _, frag, rfl, hhash, rfl⟩))
      ((resolveFragment_log_eq_ok_iff hlog).mpr ⟨_, hload, hcurrent, hkey, rfl⟩)
      hverify (by simp) hearly hlate hnonce

end File

/-- With a deactivated log as the source, every proof of possession is rejected just when the log
has no key left: neither an update key nor a verification method. Whoever holds a key is taken to be
able to sign with it. -/
theorem rejected_iff_not_usableKey (h : DeactivatedLog X.toCrates text log did)
    (hsign : ∀ kid key, UsableKey X log did.toText kid key → ∀ message, ∃ signature,
      key.verify X.toJoseCrates message signature = .ok ()) :
    (∀ env args w, SourceGives X.toCrates env args w log →
        ∀ s w', cmdVerifyPop X env args w ≠ (.ok s, w')) ↔
      ∀ kid key, ¬ UsableKey X log did.toText kid key := by
  constructor
  · intro hrejected kid key hkey
    -- The holder of the key issues a token in the name of the DID, in 1970.
    obtain ⟨signature, hverify⟩ := hsign kid key hkey (Text.utf8 (popInput X.toCrates
      (popHeader key.alg kid) (popPayload did.toText 0 1 [])))
    let args : VerifyPopArgs :=
      { jwt := some (compactJwt X.toCrates (popHeader key.alg kid)
          (popPayload did.toText 0 1 []) signature)
        input := some DEFAULT_INPUT }
    let w : World := { files := OrdMap.ofList [(DEFAULT_INPUT, text)], keyStore := ∅ }
    let env : Env := .calm (fun _ _ => .failed []) 0
    have hfile : w.files.get DEFAULT_INPUT = some text := by simp [w, OrdMap.ofList]
    have hsource : SourceGives X.toCrates env args w log :=
      sourceGives_file h (fun _ _ => rfl) rfl rfl hfile rfl
    obtain ⟨s, w', haccepted⟩ : ∃ s w', cmdVerifyPop X env args w = (.ok s, w') :=
      exists_cmdVerifyPop_file h (fun _ _ => rfl) rfl rfl hfile hkey rfl rfl hverify (t := 0)
        (fun _ => rfl) (by decide) (by decide) (by simp [args])
    exact hrejected _ _ _ hsource s w' haccepted
  · intro hkeys env args w hsource s w' haccepted
    obtain ⟨key, hkey⟩ := exists_usableKey_of_cmdVerifyPop h.accepted hsource haccepted
    exact hkeys _ _ hkey

end Pop

/-! ## A sample deactivation -/

namespace Sample

open Pop

/-- The version of the last entry. -/
def deactivatedVersionId : Text := "2-QmT4JuJ1BLxbyHWjHw7RNNW27L32pS98G2LMLhYvhKPwCV"

/-- The entry that deactivates the sample DID: without update keys, with the document of the first
entry. -/
def deactivatedEntry : DIDLogEntry where
  format := .tdw03
  versionId := deactivatedVersionId
  versionTime := "2025-01-02T00:00:00Z"
  parameters := { format := .tdw03, deactivated := some true, updateKeys := some [] }
  didDocState := createdEntry.didDocState
  dataIntegrityProofs := [proof deactivatedVersionId "2025-01-02T00:00:00Z" deactivatedSignature]

/-- The deactivated log. -/
def deactivatedLog : DIDLog := ⟨[createdEntry, deactivatedEntry]⟩

/-- The text of the deactivated log. -/
def deactivatedText : Text :=
  createdText ++ deactivatedEntry.toJson.print toolCrates.f64 ++ ['\n']

theorem deactivatedLog_deactivatedText :
    DeactivatedLog toolCrates.toCrates deactivatedText deactivatedLog toolDid where
  parsed := by decide +kernel
  fromStr := inStep_created.fromStr
  accepted := by decide +kernel
  deactivated := ⟨deactivatedEntry, rfl, rfl⟩

/-- Every key verifies some signature of a message. -/
theorem exists_verify_toolCrates (key : VerifyingKey) (message : Bytes) :
    ∃ signature, key.verify toolCrates.toJoseCrates message signature = .ok () := by
  have hlength : (toolSignature message : Bytes).length = 64 := (toolSignature message).2
  refine ⟨toolSignature message, ?_⟩
  cases key <;>
    · rw [VerifyingKey.verify, dif_pos hlength, Except.ensure_eq_ok_iff]
      exact decide_eq_true rfl

/-- The sample token is not rejected because a key is left in the deactivated log. -/
theorem rejected_iff_deactivatedLog :
    (∀ env args w, SourceGives toolCrates.toCrates env args w deactivatedLog →
        ∀ s w', cmdVerifyPop toolCrates env args w ≠ (.ok s, w')) ↔
      ∀ kid key, ¬ UsableKey toolCrates deactivatedLog toolDid.toText kid key :=
  rejected_iff_not_usableKey deactivatedLog_deactivatedText
    fun _ key _ message => exists_verify_toolCrates key message

/-- The sample token was issued after the deactivation. It is accepted with the deactivated log as
its source. -/
theorem not_rejected_deactivated :
    DeactivatedLog toolCrates.toCrates deactivatedText deactivatedLog toolDid ∧
      SourceGives toolCrates.toCrates (toolEnv 1735800100) { popArgs with input := some logPath }
        (worldOf deactivatedText) deactivatedLog ∧
      ∃ s w', cmdVerifyPop toolCrates (toolEnv 1735800100) { popArgs with input := some logPath }
        (worldOf deactivatedText) = (.ok s, w') := by
  have h := deactivatedLog_deactivatedText
  have hlast : deactivatedLog.entries.getLast? = some deactivatedEntry := rfl
  have hkey : UsableKey toolCrates deactivatedLog toolDid.toText
      (toolDid.toText ++ "#authentication-key-01")
      (.ecdsaP256 (createdKeys.authenticationKeyCoords toolCrates)) :=
    .inr ⟨by decide, "authentication-key-01", by simp [Text.lit],
      (findVmKeyInLog_of_newGenesis lawful_toolCrates hlast rfl).1⟩
  have hverify : (VerifyingKey.ecdsaP256 (createdKeys.authenticationKeyCoords toolCrates)).verify
      toolCrates.toJoseCrates (Text.utf8 (popInput toolCrates.toCrates
        (popHeader "ES256" (toolDid.toText ++ "#authentication-key-01"))
        (popPayload toolDid.toText 1735800000 1735800300 "n"))) popSignature = .ok () := by
    decide +kernel
  refine ⟨h, sourceGives_file h (fun _ _ => rfl) rfl rfl files_worldOf rfl, ?_⟩
  refine exists_cmdVerifyPop_file h (fun _ _ => rfl) rfl rfl files_worldOf hkey rfl rfl hverify
    (t := 1735800100) (fun _ => rfl) (by decide) (by decide) ?_
  intro expected hexpected
  exact (Option.some.inj hexpected).symm

end Sample

end Swiyu
