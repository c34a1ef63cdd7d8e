import Swiyu.Core.DidLog.Authentic
import Swiyu.Core.Proof

/-!
# The readers of proofs

A proof in a log is read twice: the verifier of logs looks at the JSON object and hashes it without
the signature, while the proof module decodes the object and hashes what it has decoded. The
verifier does not look at the type, the cryptosuite, the purpose or any other option of a proof, so
that it accepts proofs that the decoder refuses, or that it hashes without some of their options.

## Main definitions

- `Swiyu.DataIntegrityProof.tryFromJson`: the decoder.
- `Swiyu.ReadersAgree`: both readers accept the first proof of an entry, and hash the same.

## Main results

- `Swiyu.DataIntegrityProof.tryFromJson_eq_ok_iff`: the objects that are decoded.
- `Swiyu.readersAgree_iff`: the verified logs whose proofs are read alike.
- `Swiyu.verifyProof_sign`: both readers accept what the proof module signs.
-/

namespace Swiyu

open Json

/-! ## The decoder -/

/-- Why a proof cannot be decoded. -/
inductive ProofError
  | unknownCryptosuite (s : Text)
  | unknownProofPurpose (s : Text)
  | missingField (field : Text)
  | invalidField (field message : Text)
  | invalidEncoding (s : Text)
  deriving DecidableEq

/-- The message of an error. -/
def ProofError.toText : ProofError → Text
  | unknownCryptosuite s => Text.lit "unknown cryptosuite: " ++ s
  | unknownProofPurpose s => Text.lit "unknown proof purpose: " ++ s
  | missingField field => Text.lit "missing field: " ++ field
  | invalidField field message => Text.lit "invalid field '" ++ field ++ "': " ++ message
  | invalidEncoding s => Text.lit "invalid encoding: " ++ s

/-- Parses a cryptosuite. -/
def Cryptosuite.fromStr (s : Text) : Except ProofError Cryptosuite :=
  if s = Text.lit "eddsa-jcs-2022" then .ok .eddsaJcs2022 else .error (.unknownCryptosuite s)

/-- Parses a purpose. -/
def ProofPurpose.fromStr (s : Text) : Except ProofError ProofPurpose :=
  if s = Text.lit "authentication" then .ok .authentication
  else if s = Text.lit "assertionMethod" then .ok .assertionMethod
  else .error (.unknownProofPurpose s)

theorem Cryptosuite.fromStr_eq_ok_iff {s : Text} {suite : Cryptosuite} :
    fromStr s = .ok suite ↔ s = suite.asStr := by
  cases suite
  unfold fromStr asStr
  split_ifs with h
  · simp [h]
  · simp [h]

theorem ProofPurpose.fromStr_eq_ok_iff {s : Text} {purpose : ProofPurpose} :
    fromStr s = .ok purpose ↔ s = purpose.asStr := by
  unfold fromStr
  split_ifs with h h'
  · cases purpose <;> simp [h, asStr]
  · cases purpose <;> simp [h', asStr]
  · cases purpose <;> simp [h, h', asStr]

namespace DataIntegrityProof

/-- A string member of a proof. -/
def stringField (obj : Object) (field : Text) : Except ProofError Text := do
  let v ← (obj.get field).okOr (.missingField field)
  v.asStr.okOr (.invalidField field "must be a string")

/-- Decodes a proof. -/
def tryFromJson (value : Value) : Except ProofError DataIntegrityProof := do
  let obj ← value.asObject.okOr (.invalidField "<proof>" "proof is not a JSON object")
  let proofType ← stringField obj "type"
  Except.ensure (proofType = Text.lit "DataIntegrityProof") (.invalidField "type"
    (Text.lit "expected 'DataIntegrityProof', got '" ++ proofType ++ "'"))
  let cryptosuite ← Cryptosuite.fromStr (← stringField obj "cryptosuite")
  let verificationMethod ← stringField obj "verificationMethod"
  let proofPurpose ← ProofPurpose.fromStr (← stringField obj "proofPurpose")
  let challenge ← stringField obj "challenge"
  let created ← stringField obj "created"
  let proofValue ← stringField obj "proofValue"
  return { config := { cryptosuite, verificationMethod, proofPurpose, challenge, created },
           proofValue }

/-- The bytes of the signature. -/
def decodeSignature (X : Crates) (proof : DataIntegrityProof) : Except ProofError Bytes := do
  let stripped ← (Text.stripPrefix "z" proof.proofValue).okOr
    (.invalidEncoding "proofValue does not start with multibase-z prefix")
  (X.bs58Decode stripped).mapError fun e => .invalidEncoding (Text.lit "bs58 decode failed: " ++ e)

variable {obj : Object} {p : DataIntegrityProof}

theorem stringField_eq_ok_iff {field s : Text} :
    stringField obj field = .ok s ↔ obj.get field = some (.string s) := by
  simp only [stringField, Except.bind_eq_ok_iff, Option.okOr_eq_ok_iff, Value.asStr_eq_some_iff]
  constructor
  · rintro ⟨_, hget, rfl⟩
    exact hget
  · intro h
    exact ⟨_, h, rfl⟩

/-- An object is decoded as a proof if it has the members that the proof is written with; it may
have others. -/
theorem tryFromJson_eq_ok_iff : tryFromJson (.object obj) = .ok p ↔
    (∀ f ∈ p.config.toFields, obj.get f.1 = some f.2) ∧
      obj.get "proofValue" = some (.string p.proofValue) := by
  simp only [tryFromJson, Value.asObject, Option.okOr_some, Except.ok_bind, Except.bind_eq_ok_iff,
    stringField_eq_ok_iff, Except.ensure_eq_ok_iff, Cryptosuite.fromStr_eq_ok_iff,
    ProofPurpose.fromStr_eq_ok_iff, ProofConfig.toFields, List.forall_mem_cons,
    List.not_mem_nil, false_imp_iff, implies_true, and_true]
  constructor
  · rintro ⟨_, htype, _, htypeText, _, hsuite, _, hsuiteText, _, hvm, _, hpurpose, _, hpurposeText,
      _, hchallenge, _, hcreated, _, hvalue, hp⟩
    obtain rfl := Except.ok.inj hp
    subst htypeText hsuiteText hpurposeText
    exact ⟨⟨htype, hsuite, hvm, hpurpose, hchallenge, hcreated⟩, hvalue⟩
  · rintro ⟨⟨htype, hsuite, hvm, hpurpose, hchallenge, hcreated⟩, hvalue⟩
    exact ⟨_, htype, (), rfl, _, hsuite, _, rfl, _, hvm, _, hpurpose, _, rfl, _, hchallenge, _,
      hcreated, _, hvalue, rfl⟩

/-- A proof is decoded from its own form. -/
theorem tryFromJson_toJson (p : DataIntegrityProof) : tryFromJson p.toJson = .ok p := by
  refine tryFromJson_eq_ok_iff.mpr ⟨fun f hf => ?_, p.get_proofValue⟩
  have hnodup : (p.config.toFields.map Prod.fst).Nodup := by
    simp [ProofConfig.toFields, Text.lit_inj]
  have hne : f.1 ≠ Text.lit "proofValue" := by
    have hmem : f.1 ∈ p.config.toFields.map Prod.fst := List.mem_map_of_mem hf
    intro heq
    rw [heq] at hmem
    simp [ProofConfig.toFields, Text.lit_inj] at hmem
  rw [p.get_of_ne hne]
  exact (OrdMap.get_ofList_eq_some_iff hnodup).mpr hf

/-- When an object without its signature is the options that are decoded from it, it is the form of
the proof. -/
theorem eq_toObject (h : tryFromJson (.object obj) = .ok p)
    (hoptions : obj.remove "proofValue" = p.config.toObject) : obj = p.toObject := by
  refine OrdMap.Entries.ext_get fun key => ?_
  by_cases hkey : key = Text.lit "proofValue"
  · rw [hkey]
    exact (tryFromJson_eq_ok_iff.mp h).2.trans p.get_proofValue.symm
  · have hremoved := OrdMap.Entries.get_erase (q := Text.lit "proofValue") (p := key) obj
    rw [if_neg hkey] at hremoved
    show obj.get key = p.toObject.get key
    rw [p.get_of_ne hkey, ← hoptions]
    exact hremoved.symm

theorem decodeSignature_eq_ok_iff {X : Crates} {signature : Bytes} :
    p.decodeSignature X = .ok signature ↔ p.proofValue = 'z' :: Base58.encode signature := by
  simp only [decodeSignature, Except.bind_eq_ok_iff, Option.okOr_eq_ok_iff,
    Text.stripPrefix_eq_some_iff, Except.mapError_eq_ok_iff, X.bs58Decode_eq_ok_iff,
    Base58.decode_eq_some_iff]
  constructor
  · rintro ⟨_, hvalue, hstripped⟩
    rw [hvalue, hstripped]
    rfl
  · intro h
    exact ⟨_, h, rfl⟩

end DataIntegrityProof

/-! ## Agreement -/

variable (X : Crates)

/-- The decoder accepts the first proof of an entry that holds a document, the signature in it
verifies under the key that it names over the document and the options decoded, and these are hashed
as the verifier of logs hashes them. -/
def ReadersAgree (e : DIDLogEntry) : Prop :=
  ∃ (doc : Value) (proof : Object) (p : DataIntegrityProof) (key : FixedBytes 32)
    (signature : FixedBytes 64),
    e.didDocState = .value doc ∧ e.dataIntegrityProofs.head? = some (.object proof) ∧
    DataIntegrityProof.tryFromJson (.object proof) = .ok p ∧
    p.config.verificationMethod = didKeyUrl (ed25519VerifyingKeyToMultikey key) ∧
    p.decodeSignature X = .ok signature ∧
    X.ed25519Verify key (p.config.signingInput X doc) signature = true ∧
    p.config.signingInput X doc =
      eddsaJcs2022Hash X doc (.object (proof.remove "proofValue"))

/-- The first proof of an entry has the members that the proof module writes, and no others. -/
def IsWritten (e : DIDLogEntry) : Prop :=
  ∃ p : DataIntegrityProof, e.dataIntegrityProofs.head? = some p.toJson

variable {X}

/-- A signed entry whose proof is as the proof module writes it is read alike. -/
theorem readersAgree_of_isWritten {e : DIDLogEntry} {doc : Value} {keys : List Text}
    (hdoc : e.didDocState = .value doc) (hsigned : SignedBy X e doc keys) (h : IsWritten e) :
    ReadersAgree X e := by
  obtain ⟨p, hp⟩ := h
  obtain ⟨proof, rest, key, signature, hproofs, hvm, -, -, hvalue, hverify⟩ := hsigned
  have hproof : proof = p.toObject := by
    rw [hproofs, List.head?_cons] at hp
    exact Value.object.inj (Option.some.inj hp)
  have hdecoded := p.tryFromJson_toJson
  have hmembers := DataIntegrityProof.tryFromJson_eq_ok_iff.mp hdecoded
  rw [hproof] at hvm hvalue hverify
  -- Without its signature the object is what the proof module hashes.
  have hinput : p.config.signingInput X doc =
      eddsaJcs2022Hash X doc (.object (p.toObject.remove "proofValue")) := by
    rw [p.remove_proofValue]
    rfl
  refine ⟨doc, p.toObject, p, key, signature, hdoc, hp, hdecoded, ?_, ?_, ?_, hinput⟩
  · have hread := hmembers.1 (Text.lit "verificationMethod", .string p.config.verificationMethod)
      (by simp [ProofConfig.toFields])
    exact Value.string.inj (Option.some.inj (hread.symm.trans hvm))
  · rw [DataIntegrityProof.decodeSignature_eq_ok_iff]
    exact Value.string.inj (Option.some.inj (hmembers.2.symm.trans hvalue))
  · rw [hinput]
    exact hverify

/-- The options of two proofs that are hashed alike are the same. -/
def OptionsBound (X : Crates) (log : DIDLog) : Prop :=
  ∀ e ∈ log.entries, ∀ (proof : Object) (p : DataIntegrityProof),
    e.dataIntegrityProofs.head? = some (.object proof) →
    DataIntegrityProof.tryFromJson (.object proof) = .ok p →
    X.sha256 (X.jcs (.object p.config.toObject)) =
      X.sha256 (X.jcs (.object (proof.remove "proofValue"))) →
    p.config.toObject = proof.remove "proofValue"

/-- A proof as the proof module writes it is hashed with the options that are decoded. -/
theorem optionsBound_of_isWritten {log : DIDLog} (h : ∀ e ∈ log.entries, IsWritten e) :
    OptionsBound X log := by
  intro e he proof p hproof hdecoded _
  obtain ⟨p', hp'⟩ := h e he
  have hobject : Value.object proof = p'.toJson := Option.some.inj (hproof.symm.trans hp')
  rw [hobject, p'.tryFromJson_toJson, Except.ok.injEq] at hdecoded
  rw [Value.object.inj hobject, p'.remove_proofValue, hdecoded]

/-- An entry that is read alike has a proof as the proof module writes it. -/
theorem isWritten_of_readersAgree {log : DIDLog} {e : DIDLogEntry} (he : e ∈ log.entries)
    (hbound : OptionsBound X log) (h : ReadersAgree X e) : IsWritten e := by
  obtain ⟨doc, proof, p, key, signature, -, hproof, hdecoded, -, -, -, hinput⟩ := h
  -- The first half of the signed bytes is the hash of the options.
  have hhash : X.sha256 (X.jcs (.object p.config.toObject)) =
      X.sha256 (X.jcs (.object (proof.remove "proofValue"))) := by
    refine Subtype.ext (List.append_inj_left hinput ?_)
    rw [(X.sha256 _).2, (X.sha256 _).2]
  have hoptions := hbound e he proof p hproof hdecoded hhash
  refine ⟨p, ?_⟩
  rw [hproof, DataIntegrityProof.eq_toObject hdecoded hoptions.symm]
  rfl

/-- In a verified log the first proofs are read alike if and only if they are as the proof module
writes them: with its members, and no others. -/
theorem readersAgree_iff {log : DIDLog} {did : DID} (h : verifyLog X log did = .ok ())
    (hbound : OptionsBound X log) :
    (∀ e ∈ log.entries, ReadersAgree X e) ↔ ∀ e ∈ log.entries, IsWritten e := by
  obtain ⟨scid, -, hauth⟩ := verifyLog_eq_ok_iff_authentic.mp h
  constructor
  · intro hagree e he
    exact isWritten_of_readersAgree he hbound (hagree e he)
  · intro hwritten e he
    obtain ⟨i, hi, rfl⟩ := List.mem_iff_getElem.mp he
    obtain ⟨doc, hdoc, -⟩ := hauth.subject _ he
    exact readersAgree_of_isWritten hdoc (hauth.signed i hi doc hdoc) (hwritten _ he)

/-! ## What is signed -/

section Sign

variable {X : SigningCrates} {seed : FixedBytes 32} {document : Value} {config : ProofConfig}

/-- The verification method of a proof is that of its options. -/
theorem get_verificationMethod (p : DataIntegrityProof) :
    p.toObject.get "verificationMethod" = some (.string p.config.verificationMethod) := by
  have hmembers := (DataIntegrityProof.tryFromJson_eq_ok_iff.mp p.tryFromJson_toJson).1
  refine hmembers (Text.lit "verificationMethod", .string p.config.verificationMethod) ?_
  simp [ProofConfig.toFields]

/-- An entry whose first proof is made with an authorised key over a document is signed. -/
theorem signedBy_sign (hpoint : X.ed25519PointError (X.ed25519VerifyingKey seed) = none)
    (hverify : ∀ message, X.ed25519Verify (X.ed25519VerifyingKey seed) message
      (X.ed25519Sign seed message) = true)
    (hvm : config.verificationMethod =
      didKeyUrl (ed25519VerifyingKeyToMultikey (X.ed25519VerifyingKey seed)))
    {keys : List Text} (hkeys : ed25519VerifyingKeyToMultikey (X.ed25519VerifyingKey seed) ∈ keys)
    {entry : DIDLogEntry} (hproof : entry.dataIntegrityProofs.head? =
      some (DataIntegrityProof.sign X seed document config).toJson) :
    SignedBy X.toCrates entry document keys := by
  obtain ⟨rest, hproofs⟩ := List.head?_eq_some_iff.mp hproof
  refine ⟨_, rest, X.ed25519VerifyingKey seed,
    X.ed25519Sign seed (config.signingInput X.toCrates document), hproofs, ?_, hkeys, hpoint,
    DataIntegrityProof.get_proofValue _, ?_⟩
  · rw [get_verificationMethod, ← hvm]
    rfl
  · -- What the verifier hashes is what was signed: the options, and not the signature.
    rw [DataIntegrityProof.remove_proofValue]
    exact hverify _

/-- The verifier of logs accepts what is signed with an authorised key, provided that the proof
names this key; the decoder reads the same proof, and without its value the proof is its options.
-/
theorem verifyProof_sign
    (hpoint : ∀ seed, X.ed25519PointError (X.ed25519VerifyingKey seed) = none)
    (hverify : ∀ seed message, X.ed25519Verify (X.ed25519VerifyingKey seed) message
      (X.ed25519Sign seed message) = true)
    (hvm : config.verificationMethod =
      didKeyUrl (ed25519VerifyingKeyToMultikey (X.ed25519VerifyingKey seed)))
    {keys : List Text} (hkeys : ed25519VerifyingKeyToMultikey (X.ed25519VerifyingKey seed) ∈ keys)
    {entry : DIDLogEntry} (hproof : entry.dataIntegrityProofs.head? =
      some (DataIntegrityProof.sign X seed document config).toJson) (i : ℕ) :
    verifyProof X.toCrates i entry document keys = .ok () ∧
      DataIntegrityProof.tryFromJson (DataIntegrityProof.sign X seed document config).toJson =
        .ok (DataIntegrityProof.sign X seed document config) ∧
      ∃ proof : Object,
        (DataIntegrityProof.sign X seed document config).toJson = .object proof ∧
          Value.object (proof.remove "proofValue") = .object config.toObject := by
  refine ⟨?_, DataIntegrityProof.tryFromJson_toJson _, _, rfl, ?_⟩
  · rw [verifyProof_eq_ok_iff]
    exact signedBy_sign (hpoint seed) (hverify seed) hvm hkeys hproof
  · rw [DataIntegrityProof.remove_proofValue]
    rfl

end Sign

namespace Sample

/-- The secret of `key`. -/
def keySeed : FixedBytes 32 :=
  bytesOf 32 0x9d61b19deffd5a60ba844af492ec2cc44449c5697b326919703bac031cae7f60

/-- The signature of a message by `key`. -/
def signatureBy (message : Bytes) : FixedBytes 64 :=
  if fingerprint message = 72 then genesisSignature else signatureOf 0 0

/-- Crates that sign the genesis entry. -/
def signingCrates : SigningCrates where
  toCrates := { crates with
    ed25519Verify := fun _ message signature => signature = signatureBy message }
  base64Error _ := []
  serdeJsonBytesError _ := []
  p256FromSec1 _ := .error []
  p256Verify _ _ _ := false
  zlibDecode _ := .error []
  rfc3339 _ := none
  debugText t := t
  ed25519VerifyingKey secret := if secret = keySeed then key else secret
  ed25519Sign _ := signatureBy

/-- The options of the proof of the genesis entry. -/
def genesisConfig : ProofConfig := ⟨.eddsaJcs2022, didKeyUrl (ed25519VerifyingKeyToMultikey key),
  .authentication, genesis.versionId, "2025-01-01T00:00:00Z"⟩

/-- The genesis entry is accepted, its proof made with the secret of `key`. -/
theorem verifyProof_signed :
    verifyProof signingCrates.toCrates 0 genesis document [ed25519VerifyingKeyToMultikey key] =
        .ok () ∧
      DataIntegrityProof.tryFromJson
          (DataIntegrityProof.sign signingCrates keySeed document genesisConfig).toJson =
        .ok (DataIntegrityProof.sign signingCrates keySeed document genesisConfig) ∧
      ∃ proof : Object,
        (DataIntegrityProof.sign signingCrates keySeed document genesisConfig).toJson =
            .object proof ∧
          Value.object (proof.remove "proofValue") = .object genesisConfig.toObject := by
  have hsigned : genesis.dataIntegrityProofs.head? =
      some (DataIntegrityProof.sign signingCrates keySeed document genesisConfig).toJson := by
    decide +kernel
  exact verifyProof_sign (fun _ => rfl) (fun _ _ => decide_eq_true rfl) rfl
    (List.mem_singleton.mpr rfl) hsigned 0

/-- The proofs of the sample entries are as the proof module writes them. -/
theorem isWritten_entry (n : ℕ) (predecessor versionTime : Text) (parameters : LogParameters)
    (created : Text) (signature : FixedBytes 64) :
    IsWritten (entry n predecessor versionTime parameters created signature) :=
  ⟨⟨⟨.eddsaJcs2022, didKeyUrl (ed25519VerifyingKeyToMultikey key), .authentication,
    (entry n predecessor versionTime parameters created signature).versionId, created⟩,
    'z' :: Base58.encode signature⟩, rfl⟩

theorem isWritten_rotation : ∀ e ∈ (⟨[genesis, rotation]⟩ : DIDLog).entries, IsWritten e := by
  simp only [List.mem_cons, List.not_mem_nil, or_false, forall_eq_or_imp, forall_eq]
  exact ⟨isWritten_entry .., isWritten_entry ..⟩

/-- Both readers accept the proofs of both entries. -/
theorem readersAgree_rotation : ReadersAgree crates genesis ∧ ReadersAgree crates rotation := by
  have hagree :=
    (readersAgree_iff verifyLog_rotation (optionsBound_of_isWritten isWritten_rotation)).mpr
      isWritten_rotation
  exact ⟨hagree _ (by simp), hagree _ (by simp)⟩

def bareSignature : FixedBytes 64 :=
  signatureOf 0x2d1c00968a00d7940503d649e8bfcff73bbf53b8787a848d0c0aaf0dc37d2aff
    0x690fa5c627a45112a8c43209cda54ff82995d972afd8ab7af43ec39873e05103

/-- Crates that also have the digest and the signature of a proof without options. -/
def bareCrates : Crates := cratesOf
  ((37613, 0xf2a18f6002d8095eedb5a5aa6ce7646acca6459cc125d1e269041b5480004fb2) :: digests)
  ((key, 20520, bareSignature) :: signatures)

/-- A proof that says neither what type it has nor in which cryptosuite it is made. -/
def bareProof : Value := .ofFields [
  (Text.lit "verificationMethod", .string (didKeyUrl (ed25519VerifyingKeyToMultikey key))),
  (Text.lit "proofValue", .string ('z' :: Base58.encode bareSignature))]

/-- The genesis entry with this proof. -/
def bareGenesis : DIDLogEntry := { genesis with dataIntegrityProofs := [bareProof] }

theorem verifyLog_bareGenesis : verifyLog bareCrates ⟨[bareGenesis]⟩ did = .ok () ∧
    DataIntegrityProof.tryFromJson bareProof = .error (.missingField "type") := by
  decide +kernel

/-- The verifier accepts a proof that the decoder refuses. -/
theorem not_readersAgree_bareGenesis : verifyLog bareCrates ⟨[bareGenesis]⟩ did = .ok () ∧
    ¬ ∀ e ∈ (⟨[bareGenesis]⟩ : DIDLog).entries, ReadersAgree bareCrates e := by
  refine ⟨verifyLog_bareGenesis.1, fun hagree => ?_⟩
  obtain ⟨_, proof, p, _, _, -, hproof, hdecoded, -⟩ := hagree _ (List.mem_singleton.mpr rfl)
  rw [← Option.some.inj hproof, verifyLog_bareGenesis.2] at hdecoded
  cases hdecoded

end Sample

end Swiyu
