import Swiyu.Didtool.Cmd.Did.Carried
import Swiyu.Didtool.Cmd.Did.Frames

/-!
# What a rotation changes in the document

A rotation does not edit the last document, it writes a new one with the keys. Documents that are
laid out as the tool lays them out change in nothing but the rotated keys; whatever else another
tool has put into a document is lost.

## Main definitions

- `Swiyu.Rotate.OnlyKeysChanged`: two documents differ in the keys of rotated roles only.
- `Swiyu.Rotate.LaidOut`: a document as the tool lays it out, with the keys that are kept.

## Main results

- `Swiyu.Rotate.onlyKeysChanged_iff`: when a rotation changes only the rotated keys.
- `Swiyu.Rotate.laidOut_of_inStep`: it does for documents that the tool has written.
- `Swiyu.Rotate.unsigned_eq_newRotation_iff`: when the library makes the same entry.
-/

namespace Swiyu

open Json

namespace Rotate

/-! ## Documents -/

/-- The plan replaces the key of the role. -/
def Plan.Rotates (plan : Plan) : KeyRole → Prop
  | .authorized => plan.authorized ≠ .keep
  | .authentication => plan.authentication ≠ .keep
  | .assertion => plan.assertion ≠ .keep

/-- The verification method `id` has the role: the document lists it for what the role is for. The
authorized key is not in the document. -/
def HasRole (v : Value) (id : Text) : KeyRole → Prop
  | .authorized => False
  | .authentication => ∃ ids, v.get "authentication" = some (.array ids) ∧ .string id ∈ ids
  | .assertion => ∃ ids, v.get "assertionMethod" = some (.array ids) ∧ .string id ∈ ids

/-- A verification method of the document `v` is the same, or its role is rotated and it is the same
but for its `publicKeyJwk`. -/
def SameMethod (plan : Plan) (v m m' : Value) : Prop :=
  m' = m ∨ ∃ id role, m.get "id" = some (.string id) ∧ HasRole v id role ∧ plan.Rotates role ∧
    ∀ key : Text, key ≠ "publicKeyJwk" → m'.get key = m.get key

/-- The document `v'` is `v` but for the `publicKeyJwk` of the verification methods whose role is in
the plan. -/
structure OnlyKeysChanged (plan : Plan) (v v' : Value) : Prop where
  isObject : v.asObject.isSome ∧ v'.asObject.isSome
  member (key : Text) : key ≠ "verificationMethod" → v'.get key = v.get key
  methods : v'.get "verificationMethod" = v.get "verificationMethod" ∨
    ∃ ms ms', v.get "verificationMethod" = some (.array ms) ∧
      v'.get "verificationMethod" = some (.array ms') ∧ List.Forall₂ (SameMethod plan v) ms ms'

/-- A verification method as the tool writes it, with the given `publicKeyJwk`, if any. -/
def methodWith (id controller : Text) (jwk : Option Value) : Value :=
  .ofFields ([(Text.lit "id", .string id), (Text.lit "type", .string "JsonWebKey2020"),
    (Text.lit "controller", .string controller)] ++
      (jwk.map fun jwk => (Text.lit "publicKeyJwk", jwk)).toList)

/-- A document as the tool writes it, with the given values of `publicKeyJwk`. -/
def documentWith (did : Text) (authentication assertion : Option Value) : Value :=
  .ofFields [
    (Text.lit "@context",
      .strings ["https://www.w3.org/ns/did/v1", "https://w3id.org/security/jwk/v1"]),
    (Text.lit "id", .string did),
    (Text.lit "verificationMethod", .array [
      methodWith (did ++ "#authentication-key-01") did authentication,
      methodWith (did ++ "#assertion-key-01") did assertion]),
    (Text.lit "authentication", .array [.string (did ++ "#authentication-key-01")]),
    (Text.lit "assertionMethod", .array [.string (did ++ "#assertion-key-01")])]

variable (X : ToolCrates) in
/-- The `publicKeyJwk` of the authentication key. -/
def authenticationJwk (keys : StagedKeys) : Value :=
  (PublicKeyJWK.fromP256Coordinates (keys.authenticationKeyCoords X)
    "authentication-key-01").toJson

variable (X : ToolCrates) in
/-- The `publicKeyJwk` of the assertion key. -/
def assertionJwk (keys : StagedKeys) : Value :=
  (PublicKeyJWK.fromP256Coordinates (keys.assertionKeyCoords X) "assertion-key-01").toJson

variable (X : ToolCrates) in
/-- The document is laid out as the tool lays documents out, with nothing else in it, and the keys
of the roles that are not rotated are those given. -/
def LaidOut (plan : Plan) (did : Text) (keys : StagedKeys) (v : Value) : Prop :=
  ∃ authentication assertion, v = documentWith did authentication assertion ∧
    (¬ plan.Rotates .authentication → authentication = some (authenticationJwk X keys)) ∧
    (¬ plan.Rotates .assertion → assertion = some (assertionJwk X keys))

variable {X : ToolCrates} {plan : Plan} {did : Text}

theorem toJson_newGenesis (keys : StagedKeys) : newDocument X did keys =
    documentWith did (some (authenticationJwk X keys)) (some (assertionJwk X keys)) := rfl

/-- The members of a verification method. -/
theorem get_methodWith (id controller : Text) (jwk : Option Value) (key : Text) :
    (methodWith id controller jwk).get key =
      if key = "publicKeyJwk" then jwk else (methodWith id controller none).get key := by
  show (OrdMap.ofList _).get key = ite _ _ ((OrdMap.ofList _).get key)
  rw [OrdMap.get_ofList_append, OrdMap.get_ofList_toList, Option.map_id']
  split_ifs with hkey
  · subst hkey
    exact Option.or_none
  · rfl

theorem get_id_methodWith (id controller : Text) (jwk : Option Value) :
    (methodWith id controller jwk).get "id" = some (.string id) := by
  rw [get_methodWith, if_neg (by decide)]
  rfl

/-- A verification method that is the same but for its `publicKeyJwk` is of that form. -/
theorem eq_methodWith_iff {id controller : Text} {jwk : Option Value} {m : Value}
    (hm : m.asObject.isSome) :
    (∀ key : Text, key ≠ "publicKeyJwk" → (methodWith id controller jwk).get key = m.get key) ↔
      ∃ jwk', m = methodWith id controller jwk' := by
  obtain ⟨obj, hobj⟩ := Option.isSome_iff_exists.mp hm
  obtain rfl := Value.asObject_eq_some_iff.mp hobj
  constructor
  · intro h
    refine ⟨obj.get (Text.lit "publicKeyJwk"), congrArg Value.object ?_⟩
    refine OrdMap.Entries.ext_get fun key => ?_
    show obj.get key = (methodWith id controller _).get key
    rw [get_methodWith]
    split_ifs with hkey
    · rw [hkey]
    · rw [← show _ = obj.get key from h key hkey, get_methodWith, if_neg hkey]
  · rintro ⟨jwk', h⟩ key hkey
    rw [h, get_methodWith, get_methodWith id controller jwk', if_neg hkey, if_neg hkey]

/-- The members of a document, all but the verification methods. -/
theorem get_documentWith {did : Text} {a b a' b' : Option Value} {key : Text}
    (h : key ≠ "verificationMethod") :
    (documentWith did a b).get key = (documentWith did a' b').get key := by
  show (OrdMap.ofList _).get key = (OrdMap.ofList _).get key
  simp only [OrdMap.get_ofList_cons, OrdMap.get_ofList_nil, if_neg h]

theorem get_verificationMethod_documentWith (did : Text) (a b : Option Value) :
    (documentWith did a b).get "verificationMethod" = some (.array [
      methodWith (did ++ "#authentication-key-01") did a,
      methodWith (did ++ "#assertion-key-01") did b]) := rfl

/-- The roles of the authentication key. -/
theorem hasRole_authentication_iff {a b : Option Value} {role : KeyRole} :
    HasRole (documentWith did a b) (did ++ "#authentication-key-01") role ↔
      role = .authentication := by
  constructor
  · intro h
    cases role with
    | authorized => exact h.elim
    | authentication => rfl
    | assertion =>
      obtain ⟨ids, hids, hid⟩ := h
      obtain rfl := Value.array.inj (Option.some.inj (hids.symm.trans rfl))
      rw [List.mem_singleton, Value.string.injEq, List.append_cancel_left_eq] at hid
      exact absurd hid (by decide)
  · rintro rfl
    exact ⟨_, rfl, List.mem_singleton.mpr rfl⟩

/-- The roles of the assertion key. -/
theorem hasRole_assertion_iff {a b : Option Value} {role : KeyRole} :
    HasRole (documentWith did a b) (did ++ "#assertion-key-01") role ↔ role = .assertion := by
  constructor
  · intro h
    cases role with
    | authorized => exact h.elim
    | assertion => rfl
    | authentication =>
      obtain ⟨ids, hids, hid⟩ := h
      obtain rfl := Value.array.inj (Option.some.inj (hids.symm.trans rfl))
      rw [List.mem_singleton, Value.string.injEq, List.append_cancel_left_eq] at hid
      exact absurd hid (by decide)
  · rintro rfl
    exact ⟨_, rfl, List.mem_singleton.mpr rfl⟩

/-- The roles of a verification method do not change. -/
theorem OnlyKeysChanged.hasRole_iff {v v' : Value} (h : OnlyKeysChanged plan v v') {id : Text}
    {role : KeyRole} : HasRole v id role ↔ HasRole v' id role := by
  cases role with
  | authorized => exact Iff.rfl
  | authentication => rw [HasRole, HasRole, h.member _ (by decide)]
  | assertion => rw [HasRole, HasRole, h.member _ (by decide)]

/-- The verification methods of the two documents, one by one. -/
theorem OnlyKeysChanged.forall₂ {v v' : Value} (h : OnlyKeysChanged plan v v') {ms' : List Value}
    (hms' : v'.get "verificationMethod" = some (.array ms')) : ∃ ms,
      v.get "verificationMethod" = some (.array ms) ∧ List.Forall₂ (SameMethod plan v) ms ms' := by
  rcases h.methods with hsame | ⟨ms, ms₁, hms, hms₁, hmethods⟩
  · exact ⟨ms', hsame.symm.trans hms', List.forall₂_same.mpr fun m _ => .inl rfl⟩
  · obtain rfl := Value.array.inj (Option.some.inj (hms₁.symm.trans hms'))
    exact ⟨ms, hms, hmethods⟩

/-- The verification method of a role is the same but for a rotated key. -/
theorem sameMethod_methodWith_iff {v m jwk : Value} {id : Text} {role : KeyRole}
    (hrole : ∀ r, HasRole v id r ↔ r = role) :
    SameMethod plan v m (methodWith id did (some jwk)) ↔
      ∃ jwk', m = methodWith id did jwk' ∧ (¬ plan.Rotates role → jwk' = some jwk) := by
  constructor
  · rintro (rfl | ⟨id', r, hid, hr, hrotates, hkeys⟩)
    · exact ⟨some jwk, rfl, fun _ => rfl⟩
    · -- The method has the identifier of the new one, and so its role.
      have hid' := hkeys "id" (by decide)
      rw [get_id_methodWith, hid] at hid'
      obtain rfl := Value.string.inj (Option.some.inj hid')
      obtain rfl := (hrole r).mp hr
      have hm : m.asObject.isSome := by
        cases m with
        | object obj => rfl
        | _ => cases hid
      obtain ⟨jwk', hjwk'⟩ := (eq_methodWith_iff hm).mp hkeys
      exact ⟨jwk', hjwk', fun hkept => absurd hrotates hkept⟩
  · rintro ⟨jwk', hm, hkept⟩
    by_cases hrotates : plan.Rotates role
    · subst hm
      exact .inr ⟨id, role, get_id_methodWith _ _ _, (hrole role).mpr rfl, hrotates,
        (eq_methodWith_iff rfl).mpr ⟨jwk', rfl⟩⟩
    · left
      rw [hm, hkept hrotates]

/-- A document that the tool writes is another one but for rotated keys exactly when that is laid
out in the same way. -/
theorem onlyKeysChanged_documentWith_iff {v a' b' : Value} :
    OnlyKeysChanged plan v (documentWith did (some a') (some b')) ↔ ∃ a b,
      v = documentWith did a b ∧ (¬ plan.Rotates .authentication → a = some a') ∧
        (¬ plan.Rotates .assertion → b = some b') := by
  constructor
  · intro h
    -- The two verification methods are compared one by one.
    obtain ⟨ms, hms, hmethods⟩ := h.forall₂ (get_verificationMethod_documentWith _ _ _)
    obtain ⟨m₁, _, hm₁, hrest, rfl⟩ := List.forall₂_cons_right_iff.mp hmethods
    obtain ⟨m₂, _, hm₂, hnil, rfl⟩ := List.forall₂_cons_right_iff.mp hrest
    obtain rfl := List.forall₂_nil_right_iff.mp hnil
    obtain ⟨a, rfl, ha⟩ := (sameMethod_methodWith_iff fun r =>
      h.hasRole_iff.trans hasRole_authentication_iff).mp hm₁
    obtain ⟨b, rfl, hb⟩ := (sameMethod_methodWith_iff fun r =>
      h.hasRole_iff.trans hasRole_assertion_iff).mp hm₂
    refine ⟨a, b, ?_, ha, hb⟩
    -- The other members are those of the new document.
    obtain ⟨obj, hobj⟩ := Option.isSome_iff_exists.mp h.isObject.1
    obtain rfl := Value.asObject_eq_some_iff.mp hobj
    refine congrArg Value.object (OrdMap.Entries.ext_get fun key => ?_)
    show (Value.object obj).get key = (documentWith did a b).get key
    by_cases hkey : key = "verificationMethod"
    · rw [hkey, hms]
      rfl
    · rw [← h.member key hkey]
      exact get_documentWith hkey
  · rintro ⟨a, b, hv, ha, hb⟩
    subst hv
    refine ⟨⟨rfl, rfl⟩, fun key hkey => get_documentWith hkey, .inr ⟨_, _,
      get_verificationMethod_documentWith _ _ _, get_verificationMethod_documentWith _ _ _, ?_⟩⟩
    refine .cons ?_ (.cons ?_ .nil)
    · exact (sameMethod_methodWith_iff fun r => hasRole_authentication_iff).mpr ⟨a, rfl, ha⟩
    · exact (sameMethod_methodWith_iff fun r => hasRole_assertion_iff).mpr ⟨b, rfl, hb⟩

/-! ## The rotation -/

section Rotation

variable {env : Env} {w w' : World} {did : DID} {n : ℕ} {keys staged : StagedKeys}

/-- The key of a role that is not rotated is the stored one. -/
theorem key_eq_of_stageKey (hstored : Stored X w did n keys) {entry : KeyStoreEntry}
    (hentry : entry.hash = didToHash X did.toText) {role : KeyRole} {name : Text}
    {generated : RotateCommand (FixedBytes 32)}
    {read : Text → Command World CryptoError (FixedBytes 32)} {action : Action}
    {key : FixedBytes 32}
    (h : stageKey name (entry.load env (parsePrivateKey X role) role (some n)) generated read action
      w = (.ok key, w')) (hkept : ¬ action ≠ .keep) : key = keys.key role := by
  rw [not_not.mp hkept] at h
  unfold stageKey at h
  exact hstored.eq_of_load hentry (.inr rfl) (Command.mapError_eq_ok_iff.mp h)

/-- Keys that are not rotated are those of the latest snapshot. -/
theorem key_eq_of_stageKeys (hstored : Stored X w did n keys) {entry : KeyStoreEntry}
    (hentry : entry.hash = didToHash X did.toText)
    (h : stageKeys X env entry n plan w = (.ok staged, w')) (role : KeyRole)
    (hkept : ¬ plan.Rotates role) : staged.key role = keys.key role := by
  simp only [stageKeys, Command.bind_eq_ok_iff, Command.pure_eq_ok_iff] at h
  obtain ⟨authorized, w₁, h₁, authentication, w₂, h₂, assertion, w₃, h₃, rfl, -⟩ := h
  have hw₁ : w₁.keyStore = w.keyStore :=
    (keeps_stageKey (f := World.keyStore) (keeps_load fun _ => rfl) (Os.keeps_ask fun _ => rfl)
      (fun _ => keeps_readPrivateKey fun _ => rfl) _).eq h₁
  have hw₂ : w₂.keyStore = w₁.keyStore :=
    (keeps_stageKey (f := World.keyStore) (keeps_load fun _ => rfl) (Os.keeps_ask fun _ => rfl)
      (fun _ => keeps_readPrivateKey fun _ => rfl) _).eq h₂
  cases role with
  | authorized => exact key_eq_of_stageKey hstored hentry h₁ hkept
  | authentication => exact key_eq_of_stageKey (hstored.congr hw₁) hentry h₂ hkept
  | assertion => exact key_eq_of_stageKey (hstored.congr (hw₂.trans hw₁)) hentry h₃ hkept

/-- The signer is the DID of the log, with its latest snapshot. -/
theorem entry_of_loadSigner {log : DIDLog} {signer : LogSigner} {didStr : Text}
    (h : loadSigner X env log w = (.ok signer, w')) (hdid : logDid log = .ok (didStr, did))
    (hstored : Stored X w did n keys) :
    signer.didStr = didStr ∧ signer.entry.hash = didToHash X did.toText ∧ signer.version = n := by
  simp only [loadSigner, Command.bind_eq_ok_iff, Command.ofExcept_eq_ok_iff,
    Command.mapError_eq_ok_iff, Command.pure_eq_ok_iff, Option.okOr_eq_ok_iff] at h
  obtain ⟨_, _, ⟨hdid', rfl⟩, found, w₁, hlookup, entry, _, ⟨hentry, rfl⟩, version, w₂, hversion,
    authorized, _, -, rfl, -⟩ := h
  subst hentry
  rw [hdid] at hdid'
  obtain rfl := Except.ok.inj hdid'
  obtain ⟨-, -, rfl, rfl⟩ := KeyStore.lookup_eq_ok_some_iff.mp hlookup
  refine ⟨rfl, rfl, ?_⟩
  obtain ⟨-, hnumber, -⟩ := KeyStoreEntry.latestVersion_eq_ok_iff.mp hversion
  obtain ⟨dir, -, hdir, -, -, hlatest⟩ := hstored.ticked.entry
  rw [hdir, Option.bind_some, hlatest] at hnumber
  exact (Option.some.inj hnumber).symm

/-- The entry that the tool makes holds a document of the stored keys, but for those that are
rotated. -/
theorem newEntry_of_prepare {args : RotateArgs} {prepared : Prepared} {didStr : Text}
    (hplan : planRotation args = .ok plan) (h : prepare X env args w = (.ok prepared, w'))
    (hdid : logDid prepared.loaded.log = .ok (didStr, did)) (hstored : Stored X w did n keys) :
    Create.documentOf prepared.newEntry.value .tdw03 = newDocument X didStr prepared.staged ∧
      ∀ role, ¬ plan.Rotates role → prepared.staged.key role = keys.key role := by
  simp only [prepare, Command.bind_eq_ok_iff, Command.ofExcept_eq_ok_iff,
    Command.mapError_eq_ok_iff, Command.pure_eq_ok_iff, Except.mapError_eq_ok_iff] at h
  obtain ⟨plan', _, ⟨hplan', rfl⟩, _, _, ⟨-, rfl⟩, loaded, w₁, hloaded, last, _, ⟨-, rfl⟩, signer,
    w₂, hsigner, staged, w₃, hstaged, time, _, -, rfl, -⟩ := h
  obtain rfl := Except.ok.inj (hplan'.symm.trans hplan)
  dsimp only at hdid
  -- The key store is read as it was at the start.
  have hw₁ : w₁.keyStore = w.keyStore := (keeps_loadLog fun _ => rfl).eq hloaded
  have hw₂ : w₂.keyStore = w₁.keyStore := (keeps_loadSigner fun _ => rfl).eq hsigner
  obtain ⟨hdidStr, hhash, hversion⟩ := entry_of_loadSigner hsigner hdid (hstored.congr hw₁)
  rw [hversion] at hstaged
  refine ⟨?_, key_eq_of_stageKeys (hstored.congr (hw₂.trans hw₁)) hhash hstaged⟩
  rw [← hdidStr]
  rfl

/-- A rotation changes nothing but the rotated keys exactly when the last document is laid out as
the tool does it and holds the stored keys that are not rotated. -/
theorem onlyKeysChanged_iff {args : RotateArgs} {prepared : Prepared} {didStr : Text}
    (hplan : planRotation args = .ok plan) (h : prepare X env args w = (.ok prepared, w'))
    (hdid : logDid prepared.loaded.log = .ok (didStr, did)) (hstored : Stored X w did n keys) :
    ∀ last v, prepared.loaded.log.entries.getLast? = some last → last.didDocState = .value v →
      (OnlyKeysChanged plan v (Create.documentOf prepared.newEntry.value .tdw03) ↔
        LaidOut X plan didStr keys v) := by
  intro _ v _ _
  obtain ⟨hdocument, hkept⟩ := newEntry_of_prepare hplan h hdid hstored
  rw [hdocument, toJson_newGenesis, onlyKeysChanged_documentWith_iff]
  have hauthentication (hrole : ¬ plan.Rotates .authentication) :
      authenticationJwk X prepared.staged = authenticationJwk X keys := by
    unfold authenticationJwk StagedKeys.authenticationKeyCoords
    rw [show prepared.staged.authentication = keys.authentication from hkept _ hrole]
  have hassertion (hrole : ¬ plan.Rotates .assertion) :
      assertionJwk X prepared.staged = assertionJwk X keys := by
    unfold assertionJwk StagedKeys.assertionKeyCoords
    rw [show prepared.staged.assertion = keys.assertion from hkept _ hrole]
  refine exists₂_congr fun a b => and_congr_right fun _ => and_congr ?_ ?_
  · exact forall_congr' fun hrole => by rw [hauthentication hrole]
  · exact forall_congr' fun hrole => by rw [hassertion hrole]

/-- The documents that the tool itself writes are laid out so. -/
theorem laidOut_of_inStep {log : DIDLog} {last : DIDLogEntry} {v : Value}
    (h : InStep X w did log keys) (hlast : log.entries.getLast? = some last)
    (hv : last.didDocState = .value v) : LaidOut X plan did.toText keys v := by
  obtain ⟨e, hash, he, -, hdocument⟩ := h.last
  obtain rfl := Option.some.inj (hlast.symm.trans he)
  obtain rfl := DIDDocState.value.inj (hv.symm.trans hdocument)
  exact ⟨some (authenticationJwk X keys), some (assertionJwk X keys), toJson_newGenesis keys,
    fun _ => rfl, fun _ => rfl⟩

end Rotation

/-! ## The library's entry -/

/-- The library's entry without its proof slot. -/
theorem stripProofSlot_newRotation (prevVersionId versionTime didStr multikey : Text)
    (authentication assertion : P256PublicKey) :
    stripProofSlot (DIDLogEntry.newRotation .tdw03 prevVersionId didStr multikey authentication
        assertion versionTime).toJson .tdw03 =
      .array [.string prevVersionId, .string versionTime,
        .ofFields [(Text.lit "updateKeys", .strings [multikey])],
        .ofFields [(Text.lit "value",
          (DIDDoc.newGenesis didStr authentication assertion).toJson)]] := rfl

/-- What the tool hashes for a rotation is the library's entry without its proof slot exactly when
the authorized key is replaced by another one: otherwise the tool leaves out the update keys. -/
theorem unsigned_eq_newRotation_iff (X : ToolCrates) (previous : FixedBytes 32)
    (staged : StagedKeys) (prevVersionId versionTime didStr : Text) :
    .array [.string prevVersionId, .string versionTime,
        newParameters X.toSigningCrates previous staged.authorized,
        .ofFields [(Text.lit "value", newDocument X didStr staged)]] =
      stripProofSlot (DIDLogEntry.newRotation .tdw03 prevVersionId didStr
        (ed25519VerifyingKeyToMultikey (staged.authorizedKeyBytes X))
        (staged.authenticationKeyCoords X) (staged.assertionKeyCoords X) versionTime).toJson
        .tdw03 ↔
    ed25519VerifyingKeyToMultikey (X.ed25519VerifyingKey previous) ≠
      ed25519VerifyingKeyToMultikey (staged.authorizedKeyBytes X) := by
  rw [stripProofSlot_newRotation]
  simp only [Value.array.injEq, List.cons.injEq, and_true, true_and]
  unfold newParameters StagedKeys.authorizedKeyBytes
  dsimp only
  constructor
  · intro hparameters hsame
    rw [if_pos hsame] at hparameters
    cases congrArg (fun v => v.get "updateKeys") hparameters.1
  · intro hne
    exact ⟨if_neg hne, rfl⟩

end Rotate

/-! ## Rotations of the sample DID

The assertion key is rotated, of the DID as it has been created and after the update by another
tool. -/

namespace Sample

/-- The world with the log of the update, and a snapshot for each of its entries. -/
def foreignWorld : World where
  files := OrdMap.ofList [(logPath,
    createdText ++ foreignEntry.toJson.print toolCrates.f64 ++ ['\n'])]
  keyStore := OrdMap.ofList [(didToHash toolCrates toolDid.toText,
    { didTxt := some toolDid.toText
      snapshots := OrdMap.ofList [(Text.lit "0001", snapshotOf createdKeys),
        (Text.lit "0002", snapshotOf createdKeys)] })]

/-- Its latest snapshot holds the keys. -/
theorem stored_foreignWorld : Stored foreignCrates foreignWorld toolDid 2 createdKeys where
  entry := by
    have hdir : ∃ dir ∈ foreignWorld.keyStore.get (didToHash toolCrates toolDid.toText),
        dir.didTxt = some toolDid.toText ∧ Text.trim toolDid.toText = toolDid.toText ∧
          dir.latestNumber = some 2 := by decide +kernel
    obtain ⟨dir, hdir, htxt, htrim, hnumber⟩ := hdir
    exact ⟨dir, toolDid.toText, hdir, htxt, htrim, hnumber⟩
  key role := by cases role <;> decide +kernel

/-- An environment in which the new assertion key is generated. -/
def rotationEnv : Env := { toolEnv (1735862400 + 5) with freshEcdsa := fun _ => rotatedSecret }

/-- The arguments of the rotation. -/
def rotationArgs : RotateArgs where
  input := some logPath
  noPublish := true
  rotate := [.assertion]

/-- The roles that it rotates. -/
def rotationPlan : Rotate.Plan := { assertion := .generate }

/-- The rotation of the DID as it has been created changes nothing else. -/
theorem onlyKeysChanged_created : ∃ prepared w',
    Rotate.prepare toolCrates rotationEnv rotationArgs createdWorld = (.ok prepared, w') ∧
      Rotate.OnlyKeysChanged rotationPlan createdDoc.toJson
        (Create.documentOf prepared.newEntry.value .tdw03) := by
  have hrun : ∃ prepared ∈
      (Rotate.prepare toolCrates rotationEnv rotationArgs createdWorld).1.toOption,
      prepared.loaded.log = createdLog := by decide +kernel
  obtain ⟨prepared, hprepared, hlog⟩ := hrun
  have hprepare := Command.eq_ok_of_fst_eq (Except.toOption_eq_some_iff.mp hprepared)
  have hdid : logDid prepared.loaded.log = .ok (toolDid.toText, toolDid) := by
    rw [hlog]
    decide +kernel
  have hiff := Rotate.onlyKeysChanged_iff rfl hprepare hdid (stored_worldOf _) createdEntry
    createdDoc.toJson (by rw [hlog]; rfl) rfl
  exact ⟨prepared, _, hprepare, hiff.mpr (Rotate.laidOut_of_inStep inStep_created rfl rfl)⟩

/-- The rotation after the update loses the name of the subject. -/
theorem not_onlyKeysChanged_foreign : ¬ ∀ (env : Env) (args : RotateArgs) (w w' : World) plan
    prepared report did didStr n keys last v,
    verifyLog foreignCrates.toCrates prepared.loaded.log did = .ok () →
    Rotate.planRotation args = .ok plan →
    Rotate.prepare foreignCrates env args w = (.ok prepared, w') →
    (Rotate.cmdRotate foreignCrates env args w).1 = .ok report →
    logDid prepared.loaded.log = .ok (didStr, did) → Stored foreignCrates w did n keys →
    prepared.loaded.log.entries.getLast? = some last → last.didDocState = .value v →
      Rotate.OnlyKeysChanged plan v (Create.documentOf prepared.newEntry.value .tdw03) := by
  intro h
  have hrun : (∃ prepared ∈
      (Rotate.prepare foreignCrates rotationEnv rotationArgs foreignWorld).1.toOption,
      prepared.loaded.log = foreignLog ∧
        (Create.documentOf prepared.newEntry.value .tdw03).get "alsoKnownAs" = none) ∧
      (Rotate.cmdRotate foreignCrates rotationEnv rotationArgs
        foreignWorld).1.toOption.isSome := by decide +kernel
  obtain ⟨⟨prepared, hprepared, hlog, hnone⟩, hreport⟩ := hrun
  obtain ⟨report, hreport⟩ := Option.isSome_iff_exists.mp hreport
  have hprepare := Command.eq_ok_of_fst_eq (Except.toOption_eq_some_iff.mp hprepared)
  have hdid : logDid prepared.loaded.log = .ok (toolDid.toText, toolDid) := by
    rw [hlog]
    decide +kernel
  have hchanged := h _ _ _ _ rotationPlan prepared report toolDid _ 2 createdKeys foreignEntry
    foreignDocument (by rw [hlog]; exact verifyLog_foreignLog) rfl hprepare
    (Except.toOption_eq_some_iff.mp hreport) hdid stored_foreignWorld (by rw [hlog]; rfl) rfl
  -- The name is in the last document, and not in the new one.
  rw [hchanged.member "alsoKnownAs" (by decide)] at hnone
  cases hnone

end Sample

end Swiyu
