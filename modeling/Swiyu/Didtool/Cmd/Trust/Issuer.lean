import Swiyu.Core.DidLog.Authentic
import Swiyu.Didtool.Cmd.Trust.Verify
import Swiyu.Didtool.Lawful

/-!
# Whose signature a trusted statement bears

A statement is trusted on the word of one issuer. The signature of a status list counts only under a
key of that issuer, whereas the signature of a statement counts under a key of whatever DID the
statement's own `kid` names.

## Main definitions

- `Swiyu.Trust.TrustsOnlyIssuer`: in no context is the statement trusted unless its signature
  verifies under a key of the expected issuer.
- `Swiyu.Trust.Presentable`: what a statement needs besides a key to be trusted in some context.

## Main results

- `Swiyu.Trust.trustsOnlyIssuer_iff`: a presentable statement is trusted only under a key of the
  issuer just when its `kid` names the issuer's DID.
-/

namespace Swiyu

namespace Trust

variable (X : JoseCrates) (server : Server)

/-! ## Signatures and keys -/

/-- The signature of a statement verifies under a key. -/
def SignatureVerifies (stmt : TrustStatement) (key : VerifyingKey) : Prop :=
  key.verify X (Text.utf8 stmt.signingInput) stmt.signature = .ok ()

/-- The signature of a statement verifies under the key of a verification method. -/
def VerifiesUnder (stmt : TrustStatement) (vm : VerificationMethod) : Prop :=
  ∃ jwk key, vm.publicKey = .jwk jwk ∧ VerifyingKey.tryFromJwk X jwk = .ok key ∧
    SignatureVerifies X stmt key

/-- The DID `did` resolves to `doc` in a context. -/
def Resolves (s : VerifyState) (did : Text) (doc : DIDDoc) : Prop :=
  ∃ s', loadIssuerDoc X server did s = (.ok doc, s')

/-- Whatever the servers answer and the context holds, the statement gets a true verdict only when
its signature verifies under a verification method of the issuer's document. -/
def TrustsOnlyIssuer (stmt : TrustStatement) (now : UInt64) (issuer : Text) : Prop :=
  ∀ (server : Server) (s s' : VerifyState) (report : Report), s.ctx.expectedIssuer = issuer →
    verifyOne X server stmt now s = (.ok report, s') → report.verdict = true →
      ∃ doc, Resolves X server s issuer doc ∧
        ∃ vm ∈ doc.verificationMethod, VerifiesUnder X stmt vm

/-- The DID in the `kid` of a statement. -/
def kidDid (stmt : TrustStatement) : Option Text := (Text.splitOnce '#' stmt.kid).map Prod.fst

/-- What a statement needs, besides a document that holds the right key, to be trusted at a time. -/
structure Presentable (stmt : TrustStatement) (now : UInt64) (issuer : Text) : Prop where
  /-- It names the issuer. -/
  iss : stmt.iss = issuer
  /-- It has been signed with the one algorithm that counts. -/
  alg : stmt.alg = Text.lit "ES256"
  /-- Its `kid` is a DID URL. -/
  kid : (kidDid stmt).isSome
  /-- It is fresh. -/
  fresh : (checkFreshness X stmt now).passed = true
  /-- It has a slot in a status list. -/
  status : stmt.status.isSome
  /-- Its signature is one under some P-256 key. -/
  signed : ∃ jwk key, VerifyingKey.tryFromJwk X jwk = .ok (.ecdsaP256 key) ∧
    SignatureVerifies X stmt (.ecdsaP256 key)

variable {X server} {stmt : TrustStatement} {now : UInt64} {issuer : Text} {s s' : VerifyState}
  {report : Report} {doc : DIDDoc}

/-! ## The checks -/

@[simp]
theorem passed_checkIssuer : (checkIssuer stmt issuer).passed = true ↔ stmt.iss = issuer := by
  by_cases h : stmt.iss = issuer <;> simp [checkIssuer, h, Check.passed]

/-- The key that a document has for a `kid`. -/
theorem findVerifyingKey_eq_ok_iff {kid : Text} {key : VerifyingKey} :
    findVerifyingKey X doc kid = .ok key ↔
      ∃ vm jwk, doc.verificationMethod.find? (fun vm => vm.id = kid) = some vm ∧
        vm.publicKey = .jwk jwk ∧ VerifyingKey.tryFromJwk X jwk = .ok key ∧
        key.alg = Text.lit "ES256" := by
  have hjwk : ∀ {pk : PublicKey} {jwk}, publicKeyJwk pk = .ok jwk ↔ pk = .jwk jwk := by
    rintro (_ | _) _ <;> simp [publicKeyJwk]
  simp [findVerifyingKey, hjwk, pure, Except.pure]

/-- The signature check is passed under the key that the document has for the statement's `kid`. -/
theorem passed_checkSignature : (checkSignature X stmt doc).passed = true ↔
    ∃ key, findVerifyingKey X doc stmt.kid = .ok key ∧ SignatureVerifies X stmt key := by
  rw [checkSignature]
  cases hkey : findVerifyingKey X doc stmt.kid with
  | error e => simp [Check.passed]
  | ok key =>
    cases hverify : key.verify X (Text.utf8 stmt.signingInput) stmt.signature with
    | ok u => simp [Check.passed, SignatureVerifies, hverify]
    | error e => cases e <;> simp [Check.passed, SignatureVerifies, hverify]

/-- A passed signature check has resolved the DID in the statement's `kid`. -/
theorem verifySignature_passed_iff {check : Check} :
    verifySignature X server stmt s = (.ok check, s') ∧ check.passed = true ↔
      stmt.alg = Text.lit "ES256" ∧ ∃ did doc, kidDid stmt = some did ∧
        loadIssuerDoc X server did s = (.ok doc, s') ∧
        checkSignature X stmt doc = check ∧ check.passed = true := by
  rw [verifySignature, kidDid]
  by_cases halg : stmt.alg = Text.lit "ES256"
  · rw [if_neg (not_not_intro halg)]
    cases hkid : Text.splitOnce '#' stmt.kid with
    | none =>
      simp only [Command.pure_eq_ok_iff]
      constructor
      · rintro ⟨⟨rfl, -⟩, h⟩
        cases h
      · rintro ⟨-, did, doc, hdid, -⟩
        cases hdid
    | some parts => simp [halg, ← and_assoc]
  · rw [if_pos halg]
    simp only [Command.pure_eq_ok_iff, halg, false_and, iff_false]
    rintro ⟨⟨rfl, -⟩, h⟩
    cases h

/-- The checks that a trusted statement has passed. -/
theorem verdict_eq_true_iff :
    verifyOne X server stmt now s = (.ok report, s') ∧ report.verdict = true ↔
      stmt.iss = s.ctx.expectedIssuer ∧ (checkFreshness X stmt now).passed = true ∧
      ∃ check s₁ status, (verifySignature X server stmt s = (.ok check, s₁) ∧ check.passed = true) ∧
        (checkStatus X server stmt s₁ = (.ok status, s') ∧ status.passed = true) ∧
        report = ⟨stmt, checkIssuer stmt s.ctx.expectedIssuer, check, checkFreshness X stmt now,
          status, true⟩ := by
  simp only [verifyOne, Command.bind_eq_ok_iff, Command.read_eq_ok_iff, Command.pure_eq_ok_iff]
  constructor
  · rintro ⟨⟨_, _, ⟨rfl, rfl⟩, check, s₁, hcheck, status, s₂, hstatus, rfl, rfl⟩, hverdict⟩
    simp only [Bool.and_eq_true] at hverdict
    obtain ⟨⟨⟨hiss, hpassed⟩, hfresh⟩, hok⟩ := hverdict
    rw [signatureAfter, if_pos hiss] at hcheck
    rw [statusAfter, if_pos hpassed] at hstatus
    exact ⟨passed_checkIssuer.mp hiss, hfresh, check, s₁, status, ⟨hcheck, hpassed⟩,
      ⟨hstatus, hok⟩, by simp [hiss, hpassed, hfresh, hok]⟩
  · rintro ⟨hiss, hfresh, check, s₁, status, ⟨hcheck, hpassed⟩, ⟨hstatus, hok⟩, rfl⟩
    have hiss' := passed_checkIssuer.mpr hiss
    refine ⟨⟨_, s, ⟨rfl, rfl⟩, check, s₁, ?_, status, s', ?_, ?_, rfl⟩, rfl⟩
    · rwa [signatureAfter, if_pos hiss']
    · rwa [statusAfter, if_pos hpassed]
    · simp [hiss', hpassed, hfresh, hok]

/-! ## Under whose key -/

/-- The key of the document resolved for the DID in a trusted statement's `kid` verifies the
signature. -/
theorem exists_resolves_kidDid (h : verifyOne X server stmt now s = (.ok report, s'))
    (hverdict : report.verdict = true) : ∃ did doc, kidDid stmt = some did ∧
      Resolves X server s did doc ∧ ∃ vm ∈ doc.verificationMethod, VerifiesUnder X stmt vm := by
  obtain ⟨-, -, check, s₁, -, hsignature, -, -⟩ := verdict_eq_true_iff.mp ⟨h, hverdict⟩
  obtain ⟨-, did, doc, hdid, hload, rfl, hpassed⟩ := verifySignature_passed_iff.mp hsignature
  obtain ⟨key, hkey, hverifies⟩ := passed_checkSignature.mp hpassed
  obtain ⟨vm, jwk, hvm, hjwk, hparse, -⟩ := findVerifyingKey_eq_ok_iff.mp hkey
  exact ⟨did, doc, hdid, ⟨s₁, hload⟩, vm, List.mem_of_find?_eq_some hvm, jwk, key, hjwk, hparse,
    hverifies⟩

/-- A statement that gets a true verdict is presentable. -/
theorem presentable_of_verdict (h : verifyOne X server stmt now s = (.ok report, s'))
    (hverdict : report.verdict = true) : Presentable X stmt now s.ctx.expectedIssuer := by
  obtain ⟨hiss, hfresh, check, s₁, status, hsignature, ⟨hstatus, hok⟩, -⟩ :=
    verdict_eq_true_iff.mp ⟨h, hverdict⟩
  obtain ⟨halg, did, doc, hdid, -, rfl, hpassed⟩ := verifySignature_passed_iff.mp hsignature
  obtain ⟨key, hkey, hverifies⟩ := passed_checkSignature.mp hpassed
  obtain ⟨vm, jwk, -, -, hparse, hes256⟩ := findVerifyingKey_eq_ok_iff.mp hkey
  refine ⟨hiss, halg, by simp [hdid], hfresh, ?_, ?_⟩
  · cases hinfo : stmt.status with
    | none =>
      rw [checkStatus, hinfo] at hstatus
      obtain ⟨rfl, -⟩ := Command.pure_eq_ok_iff.mp hstatus
      cases hok
    | some info => rfl
  · cases key with
    | ed25519 key => exact absurd hes256 (by simp [VerifyingKey.alg])
    | ecdsaP256 key => exact ⟨jwk, key, hparse, hverifies⟩

/-! ## A context for a foreign key -/

theorem bits_valid_one : (1 : UInt8) = 1 ∨ (1 : UInt8) = 2 := .inl rfl

/-- A status list of one bit per slot that revokes nothing up to slot `idx`. -/
def clearList (idx : UInt64) : StatusList :=
  ⟨1, List.replicate ((idx / 8).toNat + 1) 0, bits_valid_one⟩

theorem valueAt_clearList (idx : UInt64) : (clearList idx).valueAt idx = .ok .valid := by
  have hbyte : (clearList idx).bytes[(idx / 8).toNat]? = some 0 := by simp [clearList]
  have hbits : (clearList idx).bits = 1 := rfl
  rw [StatusList.valueAt, if_pos hbits, hbyte]
  simp [StatusValue.fromRaw, pure, Except.pure]

/-- A document with the given verification methods. -/
def documentOf (did : Text) (methods : List VerificationMethod) : DIDDoc :=
  { context := .strings ["https://www.w3.org/ns/did/v1"], id := did, verificationMethod := methods }

/-- A context that knows the issuer's document, and another DID's document with the key `jwk` for
`kid`. -/
def foreignContext (issuer : Text) (issuerDoc : DIDDoc) (kid did : Text) (jwk : PublicKeyJWK)
    (info : StatusListPointer) : VerifyContext where
  expectedIssuer := issuer
  issuerDocs := OrdMap.ofList [(issuer, issuerDoc),
    (did, documentOf did [⟨kid, "JsonWebKey2020", did, .jwk jwk⟩])]
  statusLists := OrdMap.ofList [(info.uri, clearList info.idx)]

variable {did : Text} {jwk : PublicKeyJWK} {info : StatusListPointer} {issuerDoc : DIDDoc}

/-- A cached document is returned. -/
theorem loadIssuerDoc_of_get (h : s.ctx.issuerDocs.get did = some doc) :
    loadIssuerDoc X server did s = (.ok doc, s) := by
  simp [loadIssuerDoc, h]

/-- A cached status list is returned. -/
theorem loadStatusList_of_get {url : Text} {list : StatusList}
    (h : s.ctx.statusLists.get url = some list) :
    loadStatusList X server url s = (.ok list, s) := by
  simp [loadStatusList, h]

/-- In such a context the issuer's document is the one that it resolves to. -/
theorem loadIssuerDoc_foreignContext {kid : Text} (hne : did ≠ issuer) :
    loadIssuerDoc X server issuer ⟨foreignContext issuer issuerDoc kid did jwk info, []⟩ =
      (.ok issuerDoc, ⟨foreignContext issuer issuerDoc kid did jwk info, []⟩) :=
  loadIssuerDoc_of_get (by simp [foreignContext, OrdMap.ofList, hne.symm])

/-- In such a context a presentable statement is trusted under the other DID's key. -/
theorem trusted_in_foreignContext {key : P256PublicKey} (h : Presentable X stmt now issuer)
    (hdid : kidDid stmt = some did) (hinfo : stmt.status = some info)
    (hparse : VerifyingKey.tryFromJwk X jwk = .ok (.ecdsaP256 key))
    (hverifies : SignatureVerifies X stmt (.ecdsaP256 key)) :
    ∃ report s', verifyOne X server stmt now
        ⟨foreignContext issuer issuerDoc stmt.kid did jwk info, []⟩ = (.ok report, s') ∧
      report.verdict = true := by
  let s : VerifyState := ⟨foreignContext issuer issuerDoc stmt.kid did jwk info, []⟩
  let vm : VerificationMethod := ⟨stmt.kid, "JsonWebKey2020", did, .jwk jwk⟩
  let doc := documentOf did [vm]
  have hdoc : loadIssuerDoc X server did s = (.ok doc, s) :=
    loadIssuerDoc_of_get (by simp [s, doc, vm, foreignContext, OrdMap.ofList])
  have hlist : loadStatusList X server info.uri s = (.ok (clearList info.idx), s) :=
    loadStatusList_of_get (by simp [s, foreignContext, OrdMap.ofList])
  have hkey : findVerifyingKey X doc stmt.kid = .ok (.ecdsaP256 key) :=
    findVerifyingKey_eq_ok_iff.mpr ⟨vm, jwk, by simp [doc, vm, documentOf], rfl, hparse, rfl⟩
  have hpassed : (checkSignature X stmt doc).passed = true :=
    passed_checkSignature.mpr ⟨_, hkey, hverifies⟩
  have hsignature := verifySignature_passed_iff.mpr ⟨h.alg, did, doc, hdid, hdoc, rfl, hpassed⟩
  have hstatus : checkStatus X server stmt s =
      (.ok (checkStatusValue info.idx (clearList info.idx).bits .valid), s) := by
    simp [checkStatus, hinfo, hlist, valueAt_clearList]
  exact ⟨_, s, verdict_eq_true_iff.mpr ⟨h.iss, h.fresh, _, s, _, hsignature,
    ⟨hstatus, rfl⟩, rfl⟩⟩

/-- A presentable statement is trusted under a key of the expected issuer only, in every context,
just when the DID in its `kid` is the issuer's. -/
theorem trustsOnlyIssuer_iff : TrustsOnlyIssuer X stmt now issuer ↔
    (Presentable X stmt now issuer → kidDid stmt = some issuer) := by
  constructor
  · intro htrusts hpresentable
    obtain ⟨did, hdid⟩ := Option.isSome_iff_exists.mp hpresentable.kid
    obtain ⟨info, hinfo⟩ := Option.isSome_iff_exists.mp hpresentable.status
    obtain ⟨jwk, key, hparse, hverifies⟩ := hpresentable.signed
    by_contra hkid
    have hne : did ≠ issuer := by
      rintro rfl
      exact hkid hdid
    let server : Server := fun _ _ => .failed []
    -- In this context the statement is trusted, under a key of the other DID.
    obtain ⟨report, s', h, hverdict⟩ : ∃ report s', verifyOne X server stmt now
        ⟨foreignContext issuer (documentOf issuer []) stmt.kid did jwk info, []⟩ =
          (.ok report, s') ∧ report.verdict = true :=
      trusted_in_foreignContext hpresentable hdid hinfo hparse hverifies
    -- The issuer's document is in the context, and has no verification method.
    obtain ⟨doc, ⟨s₁, hload⟩, vm, hvm, -⟩ := htrusts server _ _ _ rfl h hverdict
    rw [loadIssuerDoc_foreignContext hne] at hload
    cases hload
    cases hvm
  · -- A verdict rests on a document that was resolved for the DID in the `kid`.
    rintro hkid server s s' report rfl h hverdict
    obtain ⟨did, doc, hdid, hresolves, hvm⟩ := exists_resolves_kidDid h hverdict
    have hissuer := hkid (presentable_of_verdict h hverdict)
    obtain rfl : did = s.ctx.expectedIssuer := Option.some_inj.mp (hdid.symm.trans hissuer)
    exact ⟨doc, hresolves, hvm⟩

end Trust

/-! ## A sample impostor -/

namespace Sample

open Trust

/-- A P-256 key from its coordinates. -/
def p256Of (x y : ℕ) : P256PublicKey := ⟨bytesOf 32 x, bytesOf 32 y⟩

/-- The P-256 key of the issuer. -/
def issuerKey : P256PublicKey :=
  p256Of 0x515c3d6eb9e396b904d3feca7f54fdcd0cc1e997bf375dca515ad0a6c3b4035f
    0x4536be3a50f318fbf9a5475902a221502bef0d57e08c53b2cc0a56f17d9f9354

/-- The P-256 key of the impostor. -/
def impostorKey : P256PublicKey :=
  p256Of 0x60fed4ba255a9d31c961eb74c6356d68c049b8923b61fa6ce669622e60f29fb6
    0x7903fe1008b8bc99a41ae9e95628bc64f2f1b20c2d7e9f5177a3c294d4462299

/-- The impostor's signature of the sample statement. -/
def impostorSignature : FixedBytes 64 :=
  signatureOf 0xadff428760c895ee0bc669208de9dd437cd8c4224545346c9cdaf897e5158ea5
    0x44bbed84f0c8604c3290dfb60fda272ea382b1f9dd4be75e7464a343eab697e5

/-- The header and payload of the sample statement. -/
def impostorInput : Text :=
  Text.lit "eyJhbGciOiJFUzI1NiIsImtpZCI6ImRpZDp0ZHc6ZTplLmNoI2sifQ." ++
    Text.lit
      ("eyJpYXQiOjE3MzU2ODk2MDAsImlzcyI6ImRpZDp0ZHc6UW1XeHd0dG00ZzVBam1LZ2ljTVJMbndrQVFpTHd1QX" ++
      "FGNlRHNE5LaGtMZmFubTphLmNoIiwic3RhdHVzIjp7InN0YXR1c19saXN0Ijp7ImlkeCI6MCwidHlwZSI6IlN3" ++
      "aXNzVG9rZW5TdGF0dXNMaXN0LTEuMCIsInVyaSI6Imh0dHBzOi8vYS5jaC9sIn19LCJ2Y3QiOiJUcnVzdFN0YX" ++
      "RlbWVudElkZW50aXR5VjEifQ")

/-- The sample crates with the ES256 signature of the sample statement. -/
def joseCrates : JoseCrates where
  toCrates := crates
  base64Error _ := []
  serdeJsonBytesError _ := []
  p256FromSec1 := toolCrates.p256FromSec1
  p256Verify key message signature :=
    (key, message, signature) = (impostorKey, Text.utf8 impostorInput, impostorSignature)
  zlibDecode _ := .error []
  rfc3339 _ := none
  debugText t := t

/-- A statement in the name of the DID of the sample logs that another DID has signed. -/
def impostor : TrustStatement where
  vct := "TrustStatementIdentityV1"
  iss := did.toText
  iat := 1735689600
  nbf := none
  exp := none
  entityName := ∅
  isStateActor := none
  status := some ⟨"SwissTokenStatusList-1.0", 0, "https://a.ch/l"⟩
  kid := "did:tdw:e:e.ch#k"
  alg := "ES256"
  signingInput := impostorInput
  signature := impostorSignature

/-- The JWK of a P-256 key. -/
def jwkOf (key : P256PublicKey) : PublicKeyJWK := .fromP256Coordinates key "k"

/-- The document of the issuer. -/
def issuerDocument : DIDDoc :=
  documentOf did.toText [⟨did.toText ++ "#k", "JsonWebKey2020", did.toText, .jwk (jwkOf issuerKey)⟩]

theorem tryFromJwk_jwkOf :
    VerifyingKey.tryFromJwk joseCrates (jwkOf impostorKey) = .ok (.ecdsaP256 impostorKey) ∧
      VerifyingKey.tryFromJwk joseCrates (jwkOf issuerKey) = .ok (.ecdsaP256 issuerKey) := by
  decide +kernel

theorem signatureVerifies_impostor_iff {key : P256PublicKey} :
    SignatureVerifies joseCrates impostor (.ecdsaP256 key) ↔ key = impostorKey := by
  have hlength : impostor.signature.length = 64 := impostorSignature.2
  have hverify : ∀ message signature, joseCrates.p256Verify key message signature =
      decide ((key, message, signature) =
        (impostorKey, Text.utf8 impostorInput, impostorSignature)) := fun _ _ => rfl
  have hinput : impostor.signingInput = impostorInput := rfl
  have hsignature : (⟨impostor.signature, hlength⟩ : FixedBytes 64) = impostorSignature := rfl
  rw [SignatureVerifies, VerifyingKey.verify, dif_pos hlength, Except.ensure_eq_ok_iff]
  simp [hverify, hinput, hsignature]

theorem presentable_impostor : Presentable joseCrates impostor 1735700000 did.toText where
  iss := rfl
  alg := rfl
  kid := by decide +kernel
  fresh := by decide +kernel
  status := rfl
  signed := ⟨_, _, tryFromJwk_jwkOf.1, signatureVerifies_impostor_iff.mpr rfl⟩

/-- The sample statement is trusted although the issuer has not signed it. -/
theorem not_trustsOnlyIssuer_impostor :
    ¬ TrustsOnlyIssuer joseCrates impostor 1735700000 did.toText := by
  intro htrusts
  have hdid : kidDid impostor = some "did:tdw:e:e.ch" := by decide +kernel
  have hne : Text.lit "did:tdw:e:e.ch" ≠ did.toText := by decide +kernel
  have hkey : issuerKey ≠ impostorKey := by decide +kernel
  let server : Server := fun _ _ => .failed []
  obtain ⟨report, s', h, hverdict⟩ : ∃ report s', verifyOne joseCrates server impostor 1735700000
      ⟨foreignContext did.toText issuerDocument impostor.kid "did:tdw:e:e.ch" (jwkOf impostorKey)
        ⟨"SwissTokenStatusList-1.0", 0, "https://a.ch/l"⟩, []⟩ = (.ok report, s') ∧
      report.verdict = true :=
    trusted_in_foreignContext presentable_impostor hdid rfl tryFromJwk_jwkOf.1
      (signatureVerifies_impostor_iff.mpr rfl)
  obtain ⟨doc, ⟨s₁, hload⟩, vm, hvm, jwk, key, hjwk, hparse, hverifies⟩ :=
    htrusts server _ _ _ rfl h hverdict
  rw [loadIssuerDoc_foreignContext hne] at hload
  cases hload
  obtain rfl := List.mem_singleton.mp hvm
  cases hjwk
  cases tryFromJwk_jwkOf.2.symm.trans hparse
  exact hkey (signatureVerifies_impostor_iff.mp hverifies)

end Sample

end Swiyu
