import Swiyu.Core.DidLog.Verify

/-!
# Authentic logs

What a verified log is, without the order in which the verifier looks at it: a log is authentic for
a DID when each of its entries is, on its own, linked to its predecessor and signed with a key in
force, and the genesis entry derives the DID's SCID.

## Main definitions

- `Swiyu.SignedBy`: the first proof of an entry verifies under one of the given keys.
- `Swiyu.Authentic`: the conditions on a whole log.

## Main results

- `Swiyu.verifyLog_eq_ok_iff`: the verifier accepts exactly the authentic logs.
-/

namespace Swiyu

open Json

variable (X : Crates)

/-! ## Conditions -/

/-- The DID URL `did:key:<mk>#<mk>` of a multikey. -/
def didKeyUrl (multikey : Text) : Text := Text.lit "did:key:" ++ multikey ++ '#' :: multikey

/-- The first proof of an entry names one of the keys `keys`, and verifies under it over the
document and the proof's options. -/
def SignedBy (entry : DIDLogEntry) (document : Value) (keys : List Text) : Prop :=
  ∃ (proof : Object) (rest : List Value) (key : FixedBytes 32) (signature : FixedBytes 64),
    entry.dataIntegrityProofs = .object proof :: rest ∧
    proof.get "verificationMethod" =
      some (.string (didKeyUrl (ed25519VerifyingKeyToMultikey key))) ∧
    ed25519VerifyingKeyToMultikey key ∈ keys ∧
    X.ed25519PointError key = none ∧
    proof.get "proofValue" = some (.string ('z' :: Base58.encode signature)) ∧
    X.ed25519Verify key
      (eddsaJcs2022Hash X document (.object (proof.remove "proofValue"))) signature = true

/-- The four-element form of an entry that is hashed: what it builds on, then its own content. -/
def DIDLogEntry.hashingForm (entry : DIDLogEntry) (predecessor : Text) : Value :=
  .array [.string predecessor, .string entry.versionTime, entry.parameters.toJson,
    entry.didDocState.toJson]

/-- What entry `i` builds on: the SCID or the version of the entry before it. -/
def predecessor (scid : Text) (entries : List DIDLogEntry) : ℕ → Text
  | 0 => scid
  | i + 1 => (entries[i]?.map DIDLogEntry.versionId).getD []

/-- The update keys that some entry announced last. -/
def latestUpdateKeys (entries : List DIDLogEntry) : List Text :=
  (entries.reverse.findSome? fun e => e.parameters.updateKeys).getD []

/-- The keys that may sign entry `i`: genesis is signed with its own update keys, a later entry with
those announced last before it. -/
def authorizedKeys (entries : List DIDLogEntry) (i : ℕ) : List Text :=
  latestUpdateKeys (entries.take (max i 1))

/-- The preliminary form of a hashing form, the SCID taken out of its text, derives the SCID. -/
def DerivesScid (hashingForm : Value) (scid : Text) : Prop :=
  ∃ prelim, Json.parse X.f64 (Text.replace scid scidPlaceholder (hashingForm.print X.f64)) =
    some prelim ∧ deriveScid X prelim = scid

/-- A log is authentic for the DID `did` with the SCID `scid`; `number` numbers its entries. -/
structure Authentic (did scid : Text) (number : ℕ → ℕ) (entries : List DIDLogEntry) : Prop where
  /-- There is a genesis entry. -/
  nonempty : entries ≠ []
  /-- Every entry is in the `did:tdw` 0.3 format. -/
  format : ∀ e ∈ entries, e.format = .tdw03
  /-- Every entry holds a document whose subject is the DID. -/
  subject : ∀ e ∈ entries, ∃ doc, e.didDocState = .value doc ∧ doc.get "id" = some (.string did)
  /-- The genesis entry announces update keys. -/
  genesisKeys : ∀ e ∈ entries.head?, e.parameters.updateKeys.isSome
  /-- The version of every entry is its number and the hash of its content and predecessor. -/
  versionId : ∀ i (h : i < entries.length), entries[i].versionId =
    Text.decimal (number i) ++
      '-' :: deriveEntryHash X (entries[i].hashingForm (predecessor scid entries i))
  /-- Every entry is signed with a key in force. -/
  signed : ∀ i (h : i < entries.length), ∀ doc, entries[i].didDocState = .value doc →
    SignedBy X entries[i] doc (authorizedKeys entries i)
  /-- The genesis entry derives the SCID. -/
  scid : ∀ e ∈ entries.head?, DerivesScid X (e.hashingForm scid) scid

variable {X}

/-! ## One entry -/

theorem parseDidKeyVm_eq_some_iff {vm multikey : Text} :
    parseDidKeyVm vm = some multikey ↔ vm = didKeyUrl multikey ∧ '#' ∉ multikey := by
  simp only [parseDidKeyVm, Option.bind_eq_bind, Option.bind_eq_some_iff,
    Text.stripPrefix_eq_some_iff, Prod.exists, Text.splitOnce_eq_some_iff, didKeyUrl]
  constructor
  · rintro ⟨_, rfl, mk₁, mk₂, ⟨rfl, hhash⟩, h⟩
    split_ifs at h with heq
    cases h
    subst heq
    exact ⟨by simp, hhash⟩
  · rintro ⟨rfl, hhash⟩
    exact ⟨_, List.append_assoc _ _ _, multikey, multikey, ⟨rfl, hhash⟩, by simp⟩

theorem fromStr_multibase_eq_ok_iff {s : Text} {mb : PublicKeyMultibase} :
    PublicKeyMultibase.fromStr X s = .ok mb ↔ s = 'z' :: Base58.encode mb.key := by
  cases s with
  | nil => simp [PublicKeyMultibase.fromStr]
  | cons c rest =>
    by_cases hc : c = 'z'
    · simp only [PublicKeyMultibase.fromStr, hc, ↓reduceIte, Except.bind_eq_ok_iff,
        Except.mapError_eq_ok_iff, X.bs58Decode_eq_ok_iff, Base58.decode_eq_some_iff,
        List.cons.injEq, true_and]
      exact ⟨by rintro ⟨_, rfl, h⟩; cases h; rfl, fun h => ⟨_, h, rfl⟩⟩
    · simp [PublicKeyMultibase.fromStr, hc]

theorem ed25519OfMulticodec_eq_ok_iff {bytes : Bytes} {key : FixedBytes 32} :
    ed25519OfMulticodec bytes = .ok key ↔ bytes = 0xed :: 0x01 :: (key : Bytes) := by
  unfold ed25519OfMulticodec
  split
  · rename_i b₀ b₁ rest
    by_cases hlen : rest.length = 32
    · simp only [hlen, ↓reduceDIte, List.cons.injEq]
      by_cases hcodec : b₀ = 0xed ∧ b₁ = 0x01
      · simp [hcodec, Subtype.ext_iff]
      · simpa [hcodec] using fun h₀ h₁ => absurd ⟨h₀, h₁⟩ hcodec
    · have hne : rest ≠ key := fun h => hlen (h ▸ key.2)
      simp [hlen, hne]
  · rename_i hno
    simpa using fun h => hno _ _ _ h

theorem decodeEd25519Multikey_eq_ok_iff {s : Text} {key : FixedBytes 32} :
    decodeEd25519Multikey X s = .ok key ↔ s = ed25519VerifyingKeyToMultikey key := by
  simp only [decodeEd25519Multikey, Except.bind_eq_ok_iff, Except.mapError_eq_ok_iff,
    fromStr_multibase_eq_ok_iff, ed25519OfMulticodec_eq_ok_iff, ed25519VerifyingKeyToMultikey]
  exact ⟨by rintro ⟨mb, rfl, h⟩; rw [h], fun h => ⟨⟨_⟩, h, rfl⟩⟩

theorem decodeMultibaseZ_eq_ok_iff {s : Text} {bytes : Bytes} :
    decodeMultibaseZ X s = .ok bytes ↔ s = 'z' :: Base58.encode bytes := by
  have hz : Text.lit "z" = ['z'] := Text.lit_ofList _
  simp only [decodeMultibaseZ, Except.bind_eq_ok_iff, Option.okOr_eq_ok_iff,
    Text.stripPrefix_eq_some_iff, Except.mapError_eq_ok_iff, X.bs58Decode_eq_ok_iff,
    Base58.decode_eq_some_iff, hz, List.singleton_append]
  exact ⟨by rintro ⟨_, rfl, rfl⟩; rfl, fun h => ⟨_, h, rfl⟩⟩

theorem verifyingKeyFromBytes_eq_ok_iff {bytes key : FixedBytes 32} :
    verifyingKeyFromBytes X bytes = .ok key ↔ X.ed25519PointError key = none ∧ bytes = key := by
  rw [verifyingKeyFromBytes]
  cases h : X.ed25519PointError bytes with
  | none =>
    simp only [Except.ok.injEq, iff_and_self]
    rintro rfl
    exact h
  | some e =>
    simp only [reduceCtorEq, false_iff, not_and]
    rintro hkey rfl
    simp [h] at hkey

theorem proofString_eq_ok_iff {i : ℕ} {proof : Object} {field s : Text} :
    proofString i proof field = .ok s ↔ proof.get field = some (.string s) := by
  simp [proofString, Option.bind_eq_some_iff, Value.asStr_eq_some_iff]

theorem signatureFromBytes_eq_ok_iff {bytes : Bytes} {signature : FixedBytes 64} :
    signatureFromBytes bytes = .ok signature ↔ bytes = signature := by
  unfold signatureFromBytes
  split
  · simp [Subtype.ext_iff]
  · rename_i h
    simp only [reduceCtorEq, false_iff]
    rintro rfl
    exact h signature.2

theorem hash_notMem_multikey (key : FixedBytes 32) : '#' ∉ ed25519VerifyingKeyToMultikey key := by
  rw [ed25519VerifyingKeyToMultikey, List.mem_cons, not_or]
  exact ⟨by decide, fun h => absurd (Base58.mem_alphabet_of_mem_encode h) (by decide)⟩

/-- The verifier accepts the first proof of an entry just when the entry is signed. -/
theorem verifyProof_eq_ok_iff {i : ℕ} {entry : DIDLogEntry} {document : Value} {keys : List Text} :
    verifyProof X i entry document keys = .ok () ↔ SignedBy X entry document keys := by
  simp only [verifyProof, Except.bind_eq_ok_iff, Option.okOr_eq_ok_iff, Value.asObject_eq_some_iff,
    proofString_eq_ok_iff, parseDidKeyVm_eq_some_iff, Except.ensure_eq_ok_iff,
    Except.mapError_eq_ok_iff, decodeEd25519Multikey_eq_ok_iff, verifyingKeyFromBytes_eq_ok_iff,
    decodeMultibaseZ_eq_ok_iff, signatureFromBytes_eq_ok_iff, SignedBy]
  constructor
  · rintro ⟨_, hproof, proof, rfl, _, hvm, _, ⟨rfl, -⟩, _, hmem, key, rfl, _, ⟨hpoint, rfl⟩, _, hpv,
      _, rfl, signature, rfl, hverify⟩
    obtain ⟨rest, hproofs⟩ := List.head?_eq_some_iff.mp hproof
    exact ⟨proof, rest, key, signature, hproofs, hvm, hmem, hpoint, hpv, hverify⟩
  · rintro ⟨proof, rest, key, signature, hproofs, hvm, hmem, hpoint, hpv, hverify⟩
    exact ⟨_, by rw [hproofs]; rfl, proof, rfl, _, hvm, _, ⟨rfl, hash_notMem_multikey key⟩, (),
      hmem, key, rfl, key, ⟨hpoint, rfl⟩, _, hpv, _, rfl, signature, rfl, hverify⟩

theorem verifyScid_eq_ok_iff {i : ℕ} {form : Value} {scid : Text} {u : Unit} :
    verifyScid X i form scid = .ok u ↔ (i = 0 → DerivesScid X form scid) := by
  by_cases hi : i = 0
  · simp [verifyScid, deriveScidOfForm, DerivesScid, X.fromStr_eq_ok_iff, hi, pure, Except.pure]
  · simp [verifyScid, hi]

theorem stateValue_eq_ok_iff {i : ℕ} {state : DIDDocState} {v : Value} :
    stateValue i state = .ok v ↔ state = .value v := by
  cases state <;> simp [stateValue]

/-- The conditions on entry `i`, number `n`, alone. -/
def EntryAccepted (X : Crates) (i n : ℕ) (entry : DIDLogEntry) (scid did predecessor : Text)
    (keys : List Text) : Prop :=
  ∃ doc, entry.didDocState = .value doc ∧ doc.get "id" = some (.string did) ∧
    entry.versionId = Text.decimal n ++ '-' :: deriveEntryHash X (entry.hashingForm predecessor) ∧
    (i = 0 → DerivesScid X (entry.hashingForm predecessor) scid) ∧
    SignedBy X entry doc keys

/-- What the verifier checks of one entry. -/
theorem verifyEntry_eq_ok_iff {i : ℕ} {n : UInt32} {entry : DIDLogEntry} {scid did : Text}
    {prev : Option Text} {keys : List Text} (hformat : entry.format = .tdw03) :
    verifyEntry X i n entry scid did prev keys = .ok () ↔
      EntryAccepted X i n.toNat entry scid did (prev.getD scid) keys := by
  have harr : entry.toJson.asArray = some [.string entry.versionId, .string entry.versionTime,
      entry.parameters.toJson, entry.didDocState.toJson, .array entry.dataIntegrityProofs] := by
    simp [DIDLogEntry.toJson, hformat, Value.asArray]
  have hform : ∀ p : Text, Value.array (([Value.string entry.versionId, .string entry.versionTime,
      entry.parameters.toJson, entry.didDocState.toJson,
      .array entry.dataIntegrityProofs].take 4).set 0 (.string p)) = entry.hashingForm p :=
    fun p => rfl
  simp only [verifyEntry, Except.bind_eq_ok_iff, stateValue_eq_ok_iff, Option.okOr_eq_ok_iff,
    Option.bind_eq_some_iff, Value.asStr_eq_some_iff, Except.ensure_eq_ok_iff,
    Text.stripPrefix_eq_some_iff, harr, verifyScid_eq_ok_iff, verifyProof_eq_ok_iff, EntryAccepted]
  constructor
  · rintro ⟨doc, hdoc, _, ⟨_, hid, rfl⟩, _, rfl, _, hvid, _, harr', _, -, _, rfl, _, h₀, hsigned⟩
    cases harr'
    rw [hform] at h₀ hvid
    exact ⟨doc, hdoc, hid, by simpa using hvid, h₀, hsigned⟩
  · rintro ⟨doc, hdoc, hid, hvid, h₀, hsigned⟩
    refine ⟨doc, hdoc, did, ⟨_, hid, rfl⟩, (), rfl, _, ?_, _, rfl, (), by simp, (), rfl, (), ?_,
      hsigned⟩
    · rw [hform]
      simpa using hvid
    · rw [hform]
      exact h₀

/-! ## The loop -/

theorem latestUpdateKeys_concat (entries : List DIDLogEntry) (e : DIDLogEntry) :
    latestUpdateKeys (entries ++ [e]) =
      e.parameters.updateKeys.getD (latestUpdateKeys entries) := by
  cases h : e.parameters.updateKeys <;> simp [latestUpdateKeys, h]

/-- The keys in force after entries are those announced last. -/
theorem effectiveUpdateKeys_foldl (scid did : Text) (entries : List DIDLogEntry) :
    (entries.foldl (verifyLoop X scid did).next {}).effectiveUpdateKeys =
      latestUpdateKeys entries := by
  induction entries using List.reverseRecOn with
  | nil => rfl
  | append_singleton entries e ih =>
    rw [List.foldl_append, latestUpdateKeys_concat, ← ih]
    rfl

theorem prevVersionId_stateAt (scid did : Text) {entries : List DIDLogEntry} {i : ℕ}
    (hi : i ≤ entries.length) :
    ((verifyLoop X scid did).stateAt {} entries i).prevVersionId.getD scid =
      predecessor scid entries i := by
  cases i with
  | zero => rfl
  | succ j =>
    rw [GuardedFold.stateAt_succ _ hi, predecessor, List.getElem?_eq_getElem hi]
    rfl

theorem authKeysFor_eq_ok_iff (scid did : Text) {entries : List DIDLogEntry} {i : ℕ}
    (hi : i < entries.length) {keys : List Text} :
    authKeysFor i ((verifyLoop X scid did).stateAt {} entries i) entries[i] = .ok keys ↔
      (i = 0 → entries[i].parameters.updateKeys.isSome) ∧ keys = authorizedKeys entries i := by
  by_cases h0 : i = 0
  · subst h0
    have htake : entries.take 1 = [] ++ [entries[0]] := by
      rw [List.take_succ_eq_append_getElem hi, List.take_zero]
    simp only [authKeysFor, ↓reduceIte, Option.okOr_eq_ok_iff, forall_const, authorizedKeys,
      Nat.zero_max, htake, latestUpdateKeys_concat, Option.isSome_iff_exists]
    constructor
    · intro h
      exact ⟨⟨keys, h⟩, by rw [h]; rfl⟩
    · rintro ⟨⟨keys', h⟩, rfl⟩
      rw [h]
      rfl
  · have hmax : max i 1 = i := by omega
    simp only [authKeysFor, h0, ↓reduceIte, Except.ok.injEq, GuardedFold.stateAt,
      effectiveUpdateKeys_foldl, authorizedKeys, hmax, false_implies, true_and]
    exact eq_comm

theorem formatLoop_run_eq_ok_iff {entries : List DIDLogEntry} {u : Unit} :
    formatLoop.run () entries = .ok u ↔ ∀ e ∈ entries, e.format = .tdw03 := by
  cases u
  rw [GuardedFold.run_eq_ok_iff]
  simp [formatLoop, List.forall_mem_iff_getElem]

/-- What the loop checks of entry `i`. -/
theorem verifyLoop_check_eq_ok_iff {scid did : Text} {entries : List DIDLogEntry} {i : ℕ}
    (hi : i < entries.length) (hformat : entries[i].format = .tdw03) :
    (verifyLoop X scid did).check i ((verifyLoop X scid did).stateAt {} entries i) entries[i] =
        .ok () ↔
      (i = 0 → entries[i].parameters.updateKeys.isSome) ∧
        EntryAccepted X i (sequenceNumber i).toNat entries[i] scid did (predecessor scid entries i)
          (authorizedKeys entries i) := by
  rw [← prevVersionId_stateAt (X := X) scid did hi.le]
  have hcheck : ∀ s e, (verifyLoop X scid did).check i s e = (do
      let authKeys ← authKeysFor i s e
      verifyEntry X i (sequenceNumber i) e scid did s.prevVersionId authKeys) := fun _ _ => rfl
  simp only [hcheck, Except.bind_eq_ok_iff, authKeysFor_eq_ok_iff scid did hi,
    verifyEntry_eq_ok_iff hformat]
  constructor
  · rintro ⟨_, ⟨hkeys, rfl⟩, h⟩
    exact ⟨hkeys, h⟩
  · rintro ⟨hkeys, h⟩
    exact ⟨_, ⟨hkeys, rfl⟩, h⟩

/-- The verifier accepts exactly the authentic logs; entry `i` has the `u32` number `i + 1`. -/
theorem verifyLog_eq_ok_iff_authentic {log : DIDLog} {did : DID} :
    verifyLog X log did = .ok () ↔ ∃ scid, did.scid = some scid ∧
      Authentic X did.toText scid (fun i => (sequenceNumber i).toNat) log.entries := by
  simp only [verifyLog, Except.bind_eq_ok_iff, Except.ensure_eq_ok_iff, Option.okOr_eq_ok_iff,
    formatLoop_run_eq_ok_iff, GuardedFold.run_eq_ok_iff]
  constructor
  · -- Every check of the loop says one thing of each clause.
    rintro ⟨_, hne, scid, hscid, _, hformat, hcheck⟩
    have haccept := fun i (hi : i < log.entries.length) =>
      (verifyLoop_check_eq_ok_iff hi (hformat _ (List.getElem_mem hi))).mp (hcheck i hi)
    have hhead : ∀ e ∈ log.entries.head?, ∃ hi : 0 < log.entries.length, e = log.entries[0] := by
      intro e he
      obtain ⟨rest, hrest⟩ := List.head?_eq_some_iff.mp he
      exact ⟨by simp [hrest], by simp [hrest]⟩
    refine ⟨scid, hscid, hne, hformat, fun e he => ?_, fun e he => ?_, fun i hi => ?_,
      fun i hi doc hdoc => ?_, fun e he => ?_⟩
    · obtain ⟨i, hi, rfl⟩ := List.getElem_of_mem he
      obtain ⟨-, doc, hdoc, hid, -⟩ := haccept i hi
      exact ⟨doc, hdoc, hid⟩
    · obtain ⟨hi, rfl⟩ := hhead e he
      exact (haccept 0 hi).1 rfl
    · obtain ⟨-, doc, -, -, hvid, -⟩ := haccept i hi
      exact hvid
    · obtain ⟨-, doc', hdoc', -, -, -, hsigned⟩ := haccept i hi
      cases hdoc.symm.trans hdoc'
      exact hsigned
    · obtain ⟨hi, rfl⟩ := hhead e he
      obtain ⟨-, doc, -, -, -, h₀, -⟩ := haccept 0 hi
      exact h₀ rfl
  · -- Conversely, the clauses at an index are what its check asks for.
    rintro ⟨scid, hscid, h⟩
    refine ⟨(), h.nonempty, scid, hscid, (), h.format, fun i hi => ?_⟩
    obtain ⟨doc, hdoc, hid⟩ := h.subject _ (List.getElem_mem hi)
    have hhead : i = 0 → log.entries[i] ∈ log.entries.head? := fun h0 => by
      subst h0
      exact List.head?_eq_getElem? ▸ List.getElem?_eq_getElem hi
    refine (verifyLoop_check_eq_ok_iff hi (h.format _ (List.getElem_mem hi))).mpr
      ⟨fun h0 => h.genesisKeys _ (hhead h0), doc, hdoc, hid, h.versionId i hi, fun h0 => ?_,
        h.signed i hi doc hdoc⟩
    subst h0
    exact h.scid _ (hhead rfl)

/-! ## Prefixes and extensions -/

section Extend

variable {did scid : Text} {number : ℕ → ℕ} {entries entries' : List DIDLogEntry} {e : DIDLogEntry}

theorem predecessor_append {i : ℕ} (hi : i ≤ entries.length) :
    predecessor scid (entries ++ entries') i = predecessor scid entries i := by
  cases i with
  | zero => rfl
  | succ i => rw [predecessor, predecessor, List.getElem?_append_left hi]

theorem authorizedKeys_append {i : ℕ} (hi : max i 1 ≤ entries.length) :
    authorizedKeys (entries ++ entries') i = authorizedKeys entries i := by
  rw [authorizedKeys, authorizedKeys, List.take_append_of_le_length hi]

theorem authorizedKeys_length (h : entries ≠ []) :
    authorizedKeys entries entries.length = latestUpdateKeys entries := by
  have hmax : max entries.length 1 = entries.length := by
    have := List.length_pos_iff.mpr h
    omega
  rw [authorizedKeys, hmax, List.take_length]

/-- A non-empty beginning of an authentic log is authentic. -/
theorem Authentic.of_append (hne : entries ≠ [])
    (h : Authentic X did scid number (entries ++ entries')) :
    Authentic X did scid number entries := by
  have hpos := List.length_pos_iff.mpr hne
  have hhead : (entries ++ entries').head? = entries.head? := List.head?_append_of_ne_nil _ hne
  refine ⟨hne, fun e he => h.format e (List.mem_append_left _ he),
    fun e he => h.subject e (List.mem_append_left _ he), hhead ▸ h.genesisKeys, fun i hi => ?_,
    fun i hi doc hdoc => ?_, hhead ▸ h.scid⟩
  · have hvid := h.versionId i (by rw [List.length_append]; omega)
    rwa [List.getElem_append_left hi, predecessor_append hi.le] at hvid
  · have hsigned := h.signed i (by rw [List.length_append]; omega) doc
    rw [List.getElem_append_left hi, authorizedKeys_append (by omega)] at hsigned
    exact hsigned hdoc

/-- What an entry has to satisfy to extend a log. -/
def Extends (X : Crates) (did scid : Text) (n : ℕ) (entries : List DIDLogEntry) (e : DIDLogEntry) :
    Prop :=
  e.format = .tdw03 ∧ EntryAccepted X entries.length n e scid did
    (predecessor scid entries entries.length) (latestUpdateKeys entries)

/-- An authentic log is extended entry by entry. -/
theorem authentic_concat_iff (hne : entries ≠ []) :
    Authentic X did scid number (entries ++ [e]) ↔
      Authentic X did scid number entries ∧
        Extends X did scid (number entries.length) entries e := by
  have hpos := List.length_pos_iff.mpr hne
  have hhead : (entries ++ [e]).head? = entries.head? := List.head?_append_of_ne_nil _ hne
  constructor
  · -- The last entry is at the index where the log has ended before.
    intro h
    have hmem : e ∈ entries ++ [e] := by simp
    obtain ⟨doc, hdoc, hid⟩ := h.subject e hmem
    have hlt : entries.length < (entries ++ [e]).length := by simp
    have hvid := h.versionId entries.length hlt
    have hsigned := h.signed entries.length hlt doc
    rw [List.getElem_concat_length rfl] at hvid hsigned
    rw [predecessor_append le_rfl] at hvid
    rw [authorizedKeys_append (by omega), authorizedKeys_length hne] at hsigned
    exact ⟨h.of_append hne, h.format e hmem, doc, hdoc, hid, hvid, fun h0 => absurd h0 hpos.ne',
      hsigned hdoc⟩
  · -- What is said of an index holds in the shorter log, or it is the new entry's.
    rintro ⟨h, hformat, doc, hdoc, hid, hvid, -, hsigned⟩
    refine ⟨by simp, ?_, ?_, hhead ▸ h.genesisKeys, fun i hi => ?_, fun i hi doc' hdoc' => ?_,
      hhead ▸ h.scid⟩
    · intro e' he'
      rcases List.mem_append.mp he' with he' | he'
      · exact h.format e' he'
      · exact List.mem_singleton.mp he' ▸ hformat
    · intro e' he'
      rcases List.mem_append.mp he' with he' | he'
      · exact h.subject e' he'
      · exact List.mem_singleton.mp he' ▸ ⟨doc, hdoc, hid⟩
    · rcases Nat.lt_or_ge i entries.length with hlt | hge
      · rw [List.getElem_append_left hlt, predecessor_append hlt.le]
        exact h.versionId i hlt
      · obtain rfl : i = entries.length := by simp at hi; omega
        rwa [List.getElem_concat_length rfl, predecessor_append le_rfl]
    · rcases Nat.lt_or_ge i entries.length with hlt | hge
      · rw [List.getElem_append_left hlt] at hdoc' ⊢
        rw [authorizedKeys_append (by omega)]
        exact h.signed i hlt doc' hdoc'
      · obtain rfl : i = entries.length := by simp at hi; omega
        rw [List.getElem_concat_length rfl] at hdoc' ⊢
        rw [authorizedKeys_append (by omega), authorizedKeys_length hne]
        cases hdoc.symm.trans hdoc'
        exact hsigned

end Extend

/-- An accepted log is extended by the entries that extend it. -/
theorem verifyLog_concat_eq_ok_iff {entries : List DIDLogEntry} {e : DIDLogEntry} {did : DID}
    (hne : entries ≠ []) : verifyLog X ⟨entries ++ [e]⟩ did = .ok () ↔
      verifyLog X ⟨entries⟩ did = .ok () ∧ ∃ scid, did.scid = some scid ∧
        Extends X did.toText scid (sequenceNumber entries.length).toNat entries e := by
  simp only [verifyLog_eq_ok_iff_authentic, authentic_concat_iff hne]
  constructor
  · rintro ⟨scid, hscid, h, he⟩
    exact ⟨⟨scid, hscid, h⟩, scid, hscid, he⟩
  · rintro ⟨⟨scid, hscid, h⟩, _, hscid', he⟩
    cases hscid.symm.trans hscid'
    exact ⟨scid, hscid, h, he⟩

/-- The beginning of an accepted log is accepted. -/
theorem verifyLog_of_append {entries entries' : List DIDLogEntry} {did : DID} (hne : entries ≠ [])
    (h : verifyLog X ⟨entries ++ entries'⟩ did = .ok ()) : verifyLog X ⟨entries⟩ did = .ok () := by
  obtain ⟨scid, hscid, hauth⟩ := verifyLog_eq_ok_iff_authentic.mp h
  exact verifyLog_eq_ok_iff_authentic.mpr ⟨scid, hscid, hauth.of_append hne⟩

/-- The first entries of an accepted log are accepted. -/
theorem verifyLog_take {log : DIDLog} {did : DID} {i : ℕ} (hi : 0 < i)
    (h : verifyLog X log did = .ok ()) : verifyLog X ⟨log.entries.take i⟩ did = .ok () := by
  obtain ⟨scid, -, hauth⟩ := verifyLog_eq_ok_iff_authentic.mp h
  have hne : log.entries.take i ≠ [] := by
    simpa [List.take_eq_nil_iff, hi.ne'] using hauth.nonempty
  have happend : verifyLog X ⟨log.entries.take i ++ log.entries.drop i⟩ did = .ok () := by
    rwa [List.take_append_drop]
  exact verifyLog_of_append hne happend

/-- Below the range of `u32` the number of entry `i` is `i + 1`. -/
theorem sequenceNumber_toNat {i : ℕ} (h : i + 1 < 2 ^ 32) : (sequenceNumber i).toNat = i + 1 := by
  simpa [sequenceNumber, UInt32.toNat_add] using h

theorem Authentic.congr_number {did scid : Text} {number number' : ℕ → ℕ}
    {entries : List DIDLogEntry} (hnumber : ∀ i < entries.length, number i = number' i)
    (h : Authentic X did scid number entries) : Authentic X did scid number' entries :=
  { h with versionId := fun i hi => hnumber i hi ▸ h.versionId i hi }

/-- A log of fewer than `2 ^ 32` entries is accepted for a DID just when the DID has a SCID and the
log is authentic for it, its entries numbered from 1. -/
theorem verifyLog_eq_ok_iff {log : DIDLog} {did : DID} (hlen : log.entries.length < 2 ^ 32) :
    verifyLog X log did = .ok () ↔
      ∃ scid, did.scid = some scid ∧ Authentic X did.toText scid (· + 1) log.entries := by
  have hnumber : ∀ i < log.entries.length, (sequenceNumber i).toNat = i + 1 := fun i hi =>
    sequenceNumber_toNat (by omega)
  rw [verifyLog_eq_ok_iff_authentic]
  exact exists_congr fun scid => and_congr_right fun _ =>
    ⟨Authentic.congr_number hnumber, Authentic.congr_number fun i hi => (hnumber i hi).symm⟩

/-! ## A sample log

Logs of the DID `did:tdw:<SCID>:a.ch` that RFC 8032's first test key has signed. The digests and
signatures are those of SHA-256 and Ed25519, looked up by a fingerprint of what they are made of. -/

namespace Sample

/-- The `n` bytes of a big-endian number. -/
def bytesOf (n number : ℕ) : FixedBytes n :=
  ⟨(List.range n).map fun i => UInt8.ofNat (number / 256 ^ (n - 1 - i)), by simp⟩

/-- Tells the sample values apart. -/
def fingerprint (bytes : Bytes) : ℕ := bytes.foldl (fun a b => (a * 257 + b.toNat) % 65521) 0

/-- A signature: the key, the fingerprint of the message and the signature itself. -/
abbrev Signature := FixedBytes 32 × ℕ × FixedBytes 64

/-- The double with the given bits. -/
def doubleOf (bits : ℕ) : Option F64 :=
  if h : (UInt64.ofNat bits).toNat / 2 ^ 52 % 2 ^ 11 ≠ 2 ^ 11 - 1 then some ⟨UInt64.ofNat bits, h⟩
  else none

/-- Doubles are written as `0.` and their bits. No sample value holds one. -/
def f64 : F64Codec where
  print x := '0' :: '.' :: Text.decimal x.bits.toNat
  parse
    | '0' :: '.' :: bits => doubleOf (Nat.ofDigitChars 10 bits 0)
    | _ => none

theorem doubleOf_toNat (x : F64) : doubleOf x.bits.toNat = some x := by
  have hbits : UInt64.ofNat x.bits.toNat = x.bits := UInt64.ofNat_toNat
  unfold doubleOf
  simp only [hbits]
  exact dif_pos x.finite

theorem lawful_f64 : f64.Lawful := by
  intro x t ht
  -- The digits of the bits are the fraction of the literal.
  have hspan : ('0' :: '.' :: (Text.decimal x.bits.toNat ++ t)).span Char.isDigit =
      (['0'], '.' :: (Text.decimal x.bits.toNat ++ t)) := by
    simp [List.span_eq_takeWhile_dropWhile]
  have hfraction : parseFraction ('.' :: (Text.decimal x.bits.toNat ++ t)) =
      some ('.' :: Text.decimal x.bits.toNat, t) := by
    rw [parseFraction, span_decimal ht]
    simp [Text.decimal_ne_nil]
  have hparse : f64.parse ('0' :: '.' :: Text.decimal x.bits.toNat) = some x := by
    show doubleOf _ = _
    rw [Text.ofDigitChars_decimal, doubleOf_toNat]
  show parseUnsigned f64 false ('0' :: '.' :: (Text.decimal x.bits.toNat ++ t)) = _
  rw [parseUnsigned, hspan]
  simp [hfraction, parseExponent_of_delimited ht, numberOfDigits, hparse, guard]

/-- Crates with the given digests and signatures. No sample value holds a double, so that its
canonical form is its text. -/
def cratesOf (digests : List (ℕ × ℕ)) (signatures : List Signature) : Crates where
  f64 := f64
  serdeJsonError _ := []
  jcs v := (v.print f64).map fun c => UInt8.ofNat c.toNat
  sha256 bytes := bytesOf 32 ((digests.lookup (fingerprint bytes)).getD 0)
  bs58Error _ := []
  ed25519PointError _ := none
  ed25519Verify key message signature := (key, fingerprint message, signature) ∈ signatures

/-- The SHA-256 digests of the sample values. -/
def digests : List (ℕ × ℕ) := [
  (26508, 0x8029d63759c954735dea8d19f7aa76c5860a3b008b90b84bd75f145ff7298e02),
  (40851, 0x09de276c876dd9a2a068922508e4389ae523451510466fcf416539030e71646f),
  (21182, 0x23400c923e7b0c77f20925e34eb7194b89289a3b2cec86651eaef4887d739457),
  (11581, 0x965e7bc9dd9ff3fe1f670e69bfe69041368437d1f529254bcdb7efee35390a4b),
  (7503, 0xd85ae65c09ca083ba83072f953d455d12dfc2011215ebcc8df85a84ed9dd1257),
  (36772, 0x63fb9cf7f45eb4392cd8a088a485f7bc28acbce7221668be54e001fcf2f042f4),
  (13787, 0x1f8c4e17f73c42f8adfdd0147a95cf54cdceca28aefb52ee2cc4838ae2c8b3ec),
  (15601, 0xbdaeb4b080b19a7cdfd5cf5cd979932483c31f5c4ca29e236ad650757ec67bc3),
  (40878, 0x79a5bd2c37a7ceada8675a1f965c34f1b77a97658bf4374b583114a116c07603),
  (8759, 0xb3db81c33727b67ffbff9ab2bdfa3d9f89f5c747f63f54c9a91ac86dbbe88709),
  (18420, 0xf46da71340de7943a3bc29f8d168c7dfb837d38cdb670f6f624fb10b2486655f),
  (6035, 0x454184fbf9df698b9a884665fd19ad08a18c034161cbc424ae91e9b0429fcc24),
  (48947, 0x3c1a7d93979a89dd48c9fba936abd006b24fb253992bc2f6d2b6ddb25dfbca55),
  (52575, 0x8b4bb63b9cc1aba154fdde17900da668d1b340a469a168358f3f998905012a7b)]

/-- The key that signs the sample entries. -/
def key : FixedBytes 32 :=
  bytesOf 32 0xd75a980182b10ab7d54bfed3c964073a0ee172f3daa62325af021a68f707511a

/-- Another key. -/
def otherKey : FixedBytes 32 :=
  bytesOf 32 0x03a107bff3ce10be1d70dd18e74bc09967e4d6309ba50d5f1ddc8664125531b8

/-- An Ed25519 signature from its two halves. -/
def signatureOf (r s : ℕ) : FixedBytes 64 :=
  ⟨bytesOf 32 r ++ (bytesOf 32 s : Bytes), by simp [(bytesOf 32 _).2]⟩

def genesisSignature : FixedBytes 64 :=
  signatureOf 0x6fff2d510edbc2b4aba8c710fbebdf36686670e2272322f3a969355506672c70
    0xc70ec06976e777770e39c1b5059da8cd44a3b49ee6580de6af05f7133683e905

def genesisAgainSignature : FixedBytes 64 :=
  signatureOf 0x5097dd46e4b7ee77ccfd9c32378f7ce4567bb137cc3521680769e685af01dcef
    0x88f6da07c2834f085a63f80dc9c1adbf373590ea6406d0882f3fcb34d57a6601

def rotationSignature : FixedBytes 64 :=
  signatureOf 0xadd70a72cd5c090be1669a9b1c9ca65d309b9ecec51147a7500bb79ead205544
    0x75fbb240426f9bda9a8f43430b47b417a09bea3cb5e26210a36bf80b55d22a0c

def deactivationSignature : FixedBytes 64 :=
  signatureOf 0x307b2e73506773fa0db521544a5a3ed89d178eca5dbb1a588845aaf6219b9592
    0x8b87c448e1faa4dc850534952f884076c1aa78cebd091f2cd55c18162008e40b

def revivalSignature : FixedBytes 64 :=
  signatureOf 0x1aead9e45a99b5812a9da94da63644b43dd18167ecd209528858a57386b084ac
    0x4fc3a6040a7d3f5d3124368dc0f4297e0024989a1e34f34270b8db62f580100a

def placeholderSignature : FixedBytes 64 :=
  signatureOf 0x7e8fcdb83aab4ab8a6aa84dcf1e631e0bb3bea0403e2a67948595e7dd49fd573
    0x9feddf88a986d26ff9fe414eff51b84fb0b6e5f16c36a5f6d1378b310f9bd60c

/-- The signatures of the sample proofs, with the fingerprints of what they sign. -/
def signatures : List Signature := [
  (key, 72, genesisSignature),
  (key, 57233, genesisAgainSignature),
  (key, 48915, rotationSignature),
  (key, 25300, deactivationSignature),
  (key, 32071, revivalSignature),
  (key, 58892, placeholderSignature)]

/-- The sample crates. -/
def crates : Crates := cratesOf digests signatures

/-- The SCID of the sample logs. -/
def scid : Text := Base58.encode (multihash
  (bytesOf 32 0x8029d63759c954735dea8d19f7aa76c5860a3b008b90b84bd75f145ff7298e02))

theorem isValidDomain_sample : isValidDomain "a.ch" = true := by decide +kernel

/-- The DID of the sample logs. -/
def did : DID := ⟨.tdw, some scid, "a.ch", none, isValidDomain_sample, DID.noPath_valid⟩

/-- The document of the sample entries. -/
def document : Value := .ofFields [
  (Text.lit "@context", .strings ["https://www.w3.org/ns/did/v1"]),
  (Text.lit "id", .string did.toText)]

/-- A proof by `key` with the given challenge. -/
def proof (challenge created : Text) (signature : FixedBytes 64) : Value := .ofFields [
  (Text.lit "type", .string "DataIntegrityProof"),
  (Text.lit "cryptosuite", .string "eddsa-jcs-2022"),
  (Text.lit "verificationMethod", .string (didKeyUrl (ed25519VerifyingKeyToMultikey key))),
  (Text.lit "proofPurpose", .string "authentication"),
  (Text.lit "challenge", .string challenge),
  (Text.lit "created", .string created),
  (Text.lit "proofValue", .string ('z' :: Base58.encode signature))]

/-- Entry number `n` with a proof made for it at the time `created`. -/
def entry (n : ℕ) (predecessor versionTime : Text) (parameters : LogParameters) (created : Text)
    (signature : FixedBytes 64) : DIDLogEntry :=
  let e : DIDLogEntry := { format := .tdw03, versionId := [], versionTime, parameters,
                           didDocState := .value document, dataIntegrityProofs := [] }
  let versionId := Text.decimal n ++ '-' :: deriveEntryHash crates (e.hashingForm predecessor)
  { e with versionId, dataIntegrityProofs := [proof versionId created signature] }

/-- The proof is not part of what is hashed. -/
theorem hashingForm_entry (n : ℕ) (pred versionTime : Text) (parameters : LogParameters)
    (created : Text) (signature : FixedBytes 64) (p : Text) :
    (entry n pred versionTime parameters created signature).hashingForm p =
      .array [.string p, .string versionTime, parameters.toJson,
        (DIDDocState.value document).toJson] := rfl

/-- The parameters of the genesis entry. -/
def genesisParameters : LogParameters :=
  .newTdwMinimal "did:tdw:0.3" scid [ed25519VerifyingKeyToMultikey key]

/-- The genesis entry. -/
def genesis : DIDLogEntry := entry 1 scid "2025-01-01T00:00:00Z" genesisParameters
  "2025-01-01T00:00:00Z" genesisSignature

theorem verifyLog_genesis : verifyLog crates ⟨[genesis]⟩ did = .ok () := by decide +kernel

/-- The entry that hands the sample DID over to the other key. -/
def rotation : DIDLogEntry := entry 2 genesis.versionId "2025-01-02T00:00:00Z"
  { format := .tdw03, updateKeys := some [ed25519VerifyingKeyToMultikey otherKey] }
  "2025-01-02T00:00:00Z" rotationSignature

theorem verifyLog_rotation : verifyLog crates ⟨[genesis, rotation]⟩ did = .ok () := by
  decide +kernel

/-- The verifier accepts the sample log of two entries, which is therefore authentic. -/
theorem authentic_rotation : ∃ scid, did.scid = some scid ∧
    Authentic crates did.toText scid (· + 1) [genesis, rotation] := by
  have hlen : (⟨[genesis, rotation]⟩ : DIDLog).entries.length < 2 ^ 32 := by decide
  exact (verifyLog_eq_ok_iff hlen).mp verifyLog_rotation

end Sample

end Swiyu
