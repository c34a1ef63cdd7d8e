import Swiyu.Core.StatusList.SlotArray
import Swiyu.Didtool.Cmd.Trust.Issuer

/-!
# The status list behind a verdict

A true verdict rests on a slot of a status list. Whatever has been verified before in the same
context, with or without success, that list is the one that was served at the statement's own
pointer, and the expected issuer has signed it.

## Main definitions

- `Swiyu.Trust.Grows`: what every step of a verification does to the context.
- `Swiyu.Trust.ServedLog`: a log was the answer to a request for the log of a DID.
- `Swiyu.Trust.IssuedAt`: a list was fetched from a URL and bears the issuer's signature.
- `Swiyu.Trust.Vouched`: every cached document and every cached list was obtained in that way.

## Main results

- `Swiyu.Trust.triple_verifyOne`: one verification keeps the context vouched for.
- `Swiyu.Trust.verdict_rests_on_issued_list`: what a true verdict says about the status list, in
  any run.
-/

namespace Swiyu

open Json

namespace Trust

variable (X : JoseCrates) (server : Server)

/-! ## What the caches hold -/

/-- The context after some steps: the issuer is the same, and cached documents are kept. -/
structure Grows (s s' : VerifyState) : Prop where
  issuer : s'.ctx.expectedIssuer = s.ctx.expectedIssuer
  requests : s.requests <+: s'.requests
  docs : ∀ did doc, s.ctx.issuerDocs.get did = some doc → s'.ctx.issuerDocs.get did = some doc

/-- The log was served for the DID: it is the answer to a request for the DID's log. -/
def ServedLog (s : VerifyState) (didText : Text) (did : DID) (log : DIDLog) : Prop :=
  ∃ n text, s.requests[n]? = some ⟨did.logUrl, didText⟩ ∧ DID.fromStr didText = .ok did ∧
    fetchText did.logUrl (server n did.logUrl) = .ok (.ok text) ∧
    DIDLog.tryFromJsonl X.toCrates text = .ok log

/-- The document ends the log that was served for the DID. -/
def ResolvedAt (s : VerifyState) (didText : Text) (doc : DIDDoc) : Prop :=
  ∃ did log, ServedLog X server s didText did log ∧ docOfLog X didText log = .ok doc

/-- The list is the content of the JWT that was served at `url`; its `alg` is ES256, the DID in its
`kid` is the expected issuer's, and its signature verifies under the key for that `kid` in the
issuer's document. -/
def IssuedAt (s : VerifyState) (url : Text) (list : StatusList) : Prop :=
  ∃ n text jwt kid fragment doc key inner, s.requests[n]? = some { url } ∧
    fetchText url (server n url) = .ok (.ok text) ∧
    splitStatusListJwt X url (Text.trim text) = .ok jwt ∧
    jwt.header.get "alg" = some (.string "ES256") ∧ jwt.header.get "kid" = some (.string kid) ∧
    Text.splitOnce '#' kid = some (s.ctx.expectedIssuer, fragment) ∧
    s.ctx.issuerDocs.get s.ctx.expectedIssuer = some doc ∧
    findVerifyingKey X doc kid = .ok key ∧
    key.verify X (Text.utf8 jwt.signingInput) jwt.signature = .ok () ∧
    jwt.payload.get "status_list" = some inner ∧ StatusList.tryFromJson X inner = .ok list

/-- Every cached document was served for its DID, and every cached list was issued at its URL. -/
structure Vouched (s : VerifyState) : Prop where
  docs : ∀ did doc, s.ctx.issuerDocs.get did = some doc → ResolvedAt X server s did doc
  lists : ∀ url list, s.ctx.statusLists.get url = some list → IssuedAt X server s url list

/-- The state after verifying statements one after the other, each at its time and whatever comes
of it, from empty caches. -/
def stateAfter (issuer : Text) (runs : List (TrustStatement × UInt64)) : VerifyState :=
  runs.foldl (fun s run => (verifyOne X server run.1 run.2 s).2) ⟨{ expectedIssuer := issuer }, []⟩

variable {X server} {s s' s'' : VerifyState} {didText url : Text} {doc : DIDDoc}
  {list : StatusList}

theorem Grows.refl (s : VerifyState) : Grows s s := ⟨rfl, List.prefix_rfl, fun _ _ h => h⟩

theorem Grows.trans (h : Grows s s') (h' : Grows s' s'') : Grows s s'' where
  issuer := h'.issuer.trans h.issuer
  requests := h.requests.trans h'.requests
  docs := fun did doc hdoc => h'.docs did doc (h.docs did doc hdoc)

/-- Requests that have been made stay where they are. -/
theorem Grows.getElem?_requests (h : Grows s s') {n : ℕ} {request : Request}
    (hn : s.requests[n]? = some request) : s'.requests[n]? = some request := by
  obtain ⟨later, hlater⟩ := h.requests
  rw [← hlater, List.getElem?_append_left (List.getElem?_eq_some_iff.mp hn).1, hn]

theorem ResolvedAt.mono (h : ResolvedAt X server s didText doc) (hs : Grows s s') :
    ResolvedAt X server s' didText doc := by
  obtain ⟨did, log, ⟨n, text, hn, hserved⟩, hdoc⟩ := h
  exact ⟨did, log, ⟨n, text, hs.getElem?_requests hn, hserved⟩, hdoc⟩

theorem IssuedAt.mono (h : IssuedAt X server s url list) (hs : Grows s s') :
    IssuedAt X server s' url list := by
  obtain ⟨n, text, jwt, kid, fragment, doc, key, inner, hn, hfetch, hjwt, halg, hkid, hsplit, hdoc,
    h⟩ := h
  refine ⟨n, text, jwt, kid, fragment, doc, key, inner, hs.getElem?_requests hn, hfetch, hjwt,
    halg, hkid, ?_, ?_, h⟩
  · rw [hsplit, hs.issuer]
  · rw [hs.issuer]
    exact hs.docs _ _ hdoc

/-- A step that only adds documents that were served keeps the caches vouched for. -/
theorem Vouched.of_grows (h : Vouched X server s) (hs : Grows s s')
    (hdocs : ∀ did doc, s'.ctx.issuerDocs.get did = some doc →
      s.ctx.issuerDocs.get did = some doc ∨ ResolvedAt X server s' did doc)
    (hlists : s'.ctx.statusLists = s.ctx.statusLists) : Vouched X server s' where
  docs := by
    intro did doc hdoc
    rcases hdocs did doc hdoc with hold | hnew
    · exact (h.docs did doc hold).mono hs
    · exact hnew
  lists := by
    intro url list hlist
    rw [hlists] at hlist
    exact (h.lists url list hlist).mono hs

/-! ## What each step does -/

theorem getElem?_requested (s : VerifyState) (request : Request) :
    (s.requested request).requests[s.requests.length]? = some request := by
  simp [VerifyState.requested]

/-- A request is recorded, and the context stays as it is. -/
theorem triple_fetch {request : Request} : (fetch server request).Triple s
    (fun outcome s' => s' = s.requested request ∧
      fetchText request.url (server s.requests.length request.url) = .ok outcome)
    fun s' => s' = s.requested request ∧
      ∀ outcome, fetchText request.url (server s.requests.length request.url) ≠ .ok outcome := by
  refine .bind (Q := fun n s' => s.requests.length = n ∧ s = s') (.read ⟨rfl, rfl⟩) ?_
  rintro n _ ⟨rfl, rfl⟩
  refine .bind (Q := fun _ s' => s' = s.requested request) (.update rfl) ?_
  rintro - _ rfl
  refine .ofExcept (fun outcome h => ?_) fun e h => ⟨rfl, fun outcome houtcome => ?_⟩
  · exact ⟨rfl, Except.mapError_eq_ok_iff.mp h⟩
  · rw [houtcome] at h
    cases h

theorem grows_requested (s : VerifyState) (request : Request) : Grows s (s.requested request) :=
  ⟨rfl, List.prefix_append _ _, fun _ _ h => h⟩

/-- Recording a request keeps the caches vouched for. -/
theorem Vouched.requested (h : Vouched X server s) (request : Request) :
    Vouched X server (s.requested request) :=
  h.of_grows (grows_requested s request) (fun _ _ hdoc => .inl hdoc) rfl

/-- A fetched document was served for its DID; when none is fetched, none was served. -/
theorem triple_fetchIssuerDoc : (fetchIssuerDoc X server didText).Triple s
    (fun doc s' => ∃ did log, s' = s.requested ⟨did.logUrl, didText⟩ ∧
      ServedLog X server s' didText did log ∧ docOfLog X didText log = .ok doc)
    fun s' => s = s' ∨ ∃ did, s' = s.requested ⟨did.logUrl, didText⟩ ∧
      DID.fromStr didText = .ok did ∧ ∀ text log doc,
        fetchText did.logUrl (server s.requests.length did.logUrl) = .ok (.ok text) →
        DIDLog.tryFromJsonl X.toCrates text = .ok log → docOfLog X didText log ≠ .ok doc := by
  refine .bind (Q := fun did s' => DID.fromStr didText = .ok did ∧ s = s') (.ofExcept
    (fun did h => ⟨Except.mapError_eq_ok_iff.mp h, rfl⟩) fun _ _ => .inl rfl) ?_
  rintro did _ ⟨hdid, rfl⟩
  refine .bind (triple_fetch.mono (fun _ _ h => h) ?_) ?_
  · rintro _ ⟨rfl, hfetch⟩
    exact .inr ⟨did, rfl, hdid, fun _ _ _ htext => absurd htext (hfetch _)⟩
  rintro outcome _ ⟨rfl, hfetch⟩
  cases outcome with
  | notFound =>
    -- A missing log is no text.
    refine .fail (.inr ⟨did, rfl, hdid, fun text _ _ htext => ?_⟩)
    cases hfetch.symm.trans htext
  | ok text =>
    -- There is one text that the server has answered.
    have htext : ∀ text', fetchText did.logUrl (server s.requests.length did.logUrl) =
        .ok (.ok text') → text' = text := by
      intro text' h
      cases hfetch.symm.trans h
      rfl
    refine .bind (Q := fun log s' => DIDLog.tryFromJsonl X.toCrates text = .ok log ∧
      s' = s.requested ⟨did.logUrl, didText⟩) (.ofExcept
      (fun log h => ⟨Except.mapError_eq_ok_iff.mp h, rfl⟩) fun e he => .inr ⟨did, rfl, hdid, ?_⟩) ?_
    · rintro text' log doc htext' hlog -
      rw [htext text' htext'] at hlog
      rw [hlog] at he
      cases he
    · rintro log _ ⟨hlog, rfl⟩
      refine .ofExcept (fun doc hdoc => ?_) fun e he => .inr ⟨did, rfl, hdid, ?_⟩
      · exact ⟨did, log, rfl, ⟨_, text, getElem?_requested _ _, hdid, hfetch, hlog⟩, hdoc⟩
      · rintro text' log' doc htext' hlog' hdoc
        rw [htext text' htext'] at hlog'
        obtain rfl := Except.ok.inj (hlog.symm.trans hlog')
        cases he.symm.trans hdoc

/-- Looking up a document leaves it in the cache, and touches no status list. -/
theorem triple_loadIssuerDoc (hs : Vouched X server s) :
    (loadIssuerDoc X server didText).Triple s
      (fun doc s' => Grows s s' ∧ Vouched X server s' ∧
        s'.ctx.issuerDocs.get didText = some doc)
      fun s' => Grows s s' ∧ Vouched X server s' := by
  refine .bind (Q := fun cached s' => s.ctx.issuerDocs.get didText = cached ∧ s = s')
    (.read ⟨rfl, rfl⟩) ?_
  rintro cached _ ⟨hcached, rfl⟩
  cases cached with
  | some doc => exact .pure ⟨.refl s, hs, hcached⟩
  | none =>
    refine .bind (triple_fetchIssuerDoc.mono (fun _ _ h => h) ?_) ?_
    · rintro _ (rfl | ⟨did, rfl, -⟩)
      · exact ⟨.refl s, hs⟩
      · exact ⟨grows_requested _ _, hs.requested _⟩
    · rintro doc _ ⟨did, log, rfl, hserved, hdoc⟩
      let s₁ := s.requested ⟨did.logUrl, didText⟩
      -- The DID was not in the cache, so that no document is replaced.
      have hinsert : Grows s (cacheIssuerDoc didText doc s₁) := by
        refine ⟨rfl, List.prefix_append _ _, fun did doc' hdoc' => ?_⟩
        have hne : did ≠ didText := by
          rintro rfl
          exact absurd (hdoc'.symm.trans hcached) (by simp)
        simpa [s₁, cacheIssuerDoc, VerifyState.requested, hne] using hdoc'
      -- Each cached document is an old one, or the one that has been served now.
      have hvouched : Vouched X server (cacheIssuerDoc didText doc s₁) := by
        refine hs.of_grows hinsert (fun did' doc' hdoc' => ?_) rfl
        by_cases hdid : did' = didText
        · subst hdid
          obtain rfl : doc = doc' := by simpa [cacheIssuerDoc] using hdoc'
          exact .inr ⟨did, log, hserved, hdoc⟩
        · exact .inl (by simpa [s₁, cacheIssuerDoc, VerifyState.requested, hdid] using hdoc')
      refine .bind (.update (Q := fun _ s' => s' = cacheIssuerDoc didText doc s₁) rfl) ?_
      rintro - _ rfl
      exact .pure ⟨hinsert, hvouched, by simp [cacheIssuerDoc]⟩

/-- What the header of a status list JWT has to say. -/
theorem statusListKid_eq_ok_iff {header : Value} {issuer kid did : Text} :
    statusListKid url header issuer = .ok (kid, did) ↔
      header.get "alg" = some (.string "ES256") ∧ header.get "kid" = some (.string kid) ∧
        did = issuer ∧ ∃ fragment, Text.splitOnce '#' kid = some (issuer, fragment) := by
  have hstr : ∀ {v : Option Value} {t : Text},
      v.bind Value.asStr = some t ↔ v = some (.string t) := by
    intro v t
    cases v with
    | none => simp
    | some v => simp [Value.asStr_eq_some_iff]
  have halg : ((header.get "alg").bind Value.asStr).getD "(missing)" = Text.lit "ES256" ↔
      header.get "alg" = some (.string "ES256") := by
    rw [← hstr]
    cases (header.get "alg").bind Value.asStr with
    | none =>
      have hne : Text.lit "(missing)" ≠ Text.lit "ES256" := by decide
      simp [hne]
    | some alg => simp
  simp only [statusListKid, Except.bind_eq_ok_iff, Except.ensure_eq_ok_iff, halg,
    Option.okOr_eq_ok_iff, hstr]
  constructor
  · rintro ⟨-, halg, kid', hkid, ⟨did', fragment⟩, hsplit, -, rfl, h⟩
    cases h
    exact ⟨halg, hkid, rfl, fragment, hsplit⟩
  · rintro ⟨halg, hkid, rfl, fragment, hsplit⟩
    exact ⟨(), halg, kid, hkid, (did, fragment), hsplit, (), rfl, rfl⟩

/-- The list in a status list JWT, once its signature has been verified. -/
theorem openStatusList_eq_ok_iff {kid : Text} {jwt : StatusListJwt} :
    openStatusList X url kid jwt doc = .ok list ↔ ∃ key inner,
      findVerifyingKey X doc kid = .ok key ∧
      key.verify X (Text.utf8 jwt.signingInput) jwt.signature = .ok () ∧
      jwt.payload.get "status_list" = some inner ∧ StatusList.tryFromJson X inner = .ok list := by
  simp only [openStatusList, Except.bind_eq_ok_iff, Except.mapError_eq_ok_iff,
    Option.okOr_eq_ok_iff]
  constructor
  · rintro ⟨key, hkey, _, hverify, inner, hinner, hlist⟩
    exact ⟨key, inner, hkey, hverify, hinner, hlist⟩
  · rintro ⟨key, inner, hkey, hverify, hinner, hlist⟩
    exact ⟨key, hkey, (), hverify, inner, hinner, hlist⟩

/-- A verified list was issued at the URL. -/
theorem triple_parseAndVerifyStatusList {n : ℕ} {text : Text} (hs : Vouched X server s)
    (hn : s.requests[n]? = some { url }) (hfetch : fetchText url (server n url) = .ok (.ok text)) :
    (parseAndVerifyStatusList X server url (Text.trim text)).Triple s
      (fun list s' => Grows s s' ∧ Vouched X server s' ∧ IssuedAt X server s' url list)
      fun s' => Grows s s' ∧ Vouched X server s' := by
  refine .bind (Q := fun jwt s' => splitStatusListJwt X url (Text.trim text) = .ok jwt ∧ s = s')
    (.ofExcept (fun jwt h => ⟨h, rfl⟩) fun _ _ => ⟨.refl s, hs⟩) ?_
  rintro jwt _ ⟨hjwt, rfl⟩
  refine .bind (Q := fun issuer s' => s.ctx.expectedIssuer = issuer ∧ s = s')
    (.read ⟨rfl, rfl⟩) ?_
  rintro issuer _ ⟨hissuer, rfl⟩
  refine .bind (Q := fun kid s' => statusListKid url jwt.header issuer = .ok kid ∧ s = s')
    (.ofExcept (fun kid h => ⟨h, rfl⟩) fun _ _ => ⟨.refl s, hs⟩) ?_
  rintro ⟨kid, did⟩ _ ⟨hkid, rfl⟩
  -- The `kid` of the list names the expected issuer, whose document is looked up.
  obtain ⟨halg, hheader, rfl, fragment, hsplit⟩ := statusListKid_eq_ok_iff.mp hkid
  refine .bind (triple_loadIssuerDoc hs) ?_
  rintro doc s' ⟨hgrows, hvouched, hdoc⟩
  refine .ofExcept (fun list hlist => ?_) fun _ _ => ⟨hgrows, hvouched⟩
  obtain ⟨key, inner, hkey, hverify, hinner, hparse⟩ := openStatusList_eq_ok_iff.mp hlist
  have hsame : s'.ctx.expectedIssuer = did := hgrows.issuer.trans hissuer
  refine ⟨hgrows, hvouched, n, text, jwt, kid, fragment, doc, key, inner,
    hgrows.getElem?_requests hn, hfetch, hjwt, halg, hheader, ?_, ?_, hkey, hverify, hinner,
    hparse⟩
  · rw [hsplit, hsame]
  · rw [hsame]
    exact hdoc

/-- A list that is looked up is the cached one afterwards. -/
theorem triple_loadStatusList (hs : Vouched X server s) :
    (loadStatusList X server url).Triple s
      (fun list s' => Grows s s' ∧ Vouched X server s' ∧ s'.ctx.statusLists.get url = some list)
      fun s' => Grows s s' ∧ Vouched X server s' := by
  refine .bind (Q := fun cached s' => s.ctx.statusLists.get url = cached ∧ s = s')
    (.read ⟨rfl, rfl⟩) ?_
  rintro cached _ ⟨hcached, rfl⟩
  cases cached with
  | some list => exact .pure ⟨.refl s, hs, hcached⟩
  | none =>
    -- The list is asked for, whatever is answered.
    have hgrows := grows_requested s { url }
    have hrequest := hs.requested { url }
    refine .bind (triple_fetch.mono (fun _ _ h => h) ?_) ?_
    · rintro _ ⟨rfl, -⟩
      exact ⟨hgrows, hrequest⟩
    · rintro outcome _ ⟨rfl, hfetch⟩
      cases outcome with
      | notFound => exact .fail ⟨hgrows, hrequest⟩
      | ok text =>
        refine .bind
          ((triple_parseAndVerifyStatusList hrequest (getElem?_requested _ _) hfetch).mono
            (fun _ _ h => h) fun s' h => ⟨hgrows.trans h.1, h.2⟩) ?_
        rintro list s' ⟨hgrows', hvouched, hissued⟩
        have hinsert : Grows s' (cacheStatusList url list s') :=
          ⟨rfl, List.prefix_rfl, fun _ _ h => h⟩
        -- The caches are vouched for with the new list, which has been issued at its URL.
        have hkeeps : Vouched X server (cacheStatusList url list s') := by
          refine ⟨fun did doc h => (hvouched.docs did doc h).mono hinsert, fun url' list' h => ?_⟩
          by_cases hurl : url' = url
          · subst hurl
            obtain rfl : list = list' := by simpa [cacheStatusList] using h
            exact hissued.mono hinsert
          · have hold : s'.ctx.statusLists.get url' = some list' := by
              simpa [cacheStatusList, hurl] using h
            exact (hvouched.lists url' list' hold).mono hinsert
        refine .bind (.update (Q := fun _ t => t = cacheStatusList url list s') rfl) ?_
        rintro - _ rfl
        exact .pure ⟨hgrows.trans (hgrows'.trans hinsert), hkeeps, by simp [cacheStatusList]⟩

/-- A status check is passed on a slot of the list at the statement's own pointer. -/
theorem triple_checkStatus {stmt : TrustStatement} (hs : Vouched X server s) :
    (checkStatus X server stmt).Triple s
      (fun check s' => Grows s s' ∧ Vouched X server s' ∧ (check.passed = true →
        ∃ info list, stmt.status = some info ∧ s'.ctx.statusLists.get info.uri = some list ∧
          list.valueAt info.idx = .ok .valid))
      fun s' => Grows s s' ∧ Vouched X server s' := by
  rw [checkStatus]
  cases hstatus : stmt.status with
  | none =>
    refine .pure ⟨.refl s, hs, fun h => ?_⟩
    cases h
  | some info =>
    refine .bind (triple_loadStatusList hs) ?_
    rintro list s' ⟨hgrows, hvouched, hlist⟩
    refine .bind (Q := fun value t => list.valueAt info.idx = .ok value ∧ s' = t) (.ofExcept
      (fun value h => ⟨Except.mapError_eq_ok_iff.mp h, rfl⟩) fun _ _ => ⟨hgrows, hvouched⟩) ?_
    rintro value _ ⟨hvalue, rfl⟩
    refine .pure ⟨hgrows, hvouched, fun h => ⟨info, list, rfl, hlist, ?_⟩⟩
    -- Of all the values only one passes.
    cases value with
    | valid => exact hvalue
    | revoked => cases h
    | suspended => cases h
    | reserved n => cases h

/-- A signature check only looks documents up. -/
theorem triple_verifySignature {stmt : TrustStatement} (hs : Vouched X server s) :
    (verifySignature X server stmt).Triple s (fun _ s' => Grows s s' ∧ Vouched X server s')
      fun s' => Grows s s' ∧ Vouched X server s' := by
  refine .ite (fun _ => .pure ⟨.refl s, hs⟩) fun _ => ?_
  cases Text.splitOnce '#' stmt.kid with
  | none => exact .pure ⟨.refl s, hs⟩
  | some parts =>
    refine .bind (triple_loadIssuerDoc hs) ?_
    rintro doc s' ⟨hgrows, hvouched, -⟩
    exact .pure ⟨hgrows, hvouched⟩

/-- One verification keeps the caches vouched for; a true verdict rests on a slot of the list that
is then cached under the statement's own pointer. -/
theorem triple_verifyOne {stmt : TrustStatement} {now : UInt64} (hs : Vouched X server s) :
    (verifyOne X server stmt now).Triple s
      (fun report s' => Grows s s' ∧ Vouched X server s' ∧ (report.verdict = true →
        ∃ info list, stmt.status = some info ∧ s'.ctx.statusLists.get info.uri = some list ∧
          list.valueAt info.idx = .ok .valid))
      fun s' => Grows s s' ∧ Vouched X server s' := by
  refine .bind (Q := fun _ s' => s = s') (.read rfl) ?_
  rintro issuer _ rfl
  refine .bind (Q := fun _ s' => Grows s s' ∧ Vouched X server s')
    (.ite (fun _ => triple_verifySignature hs) fun _ => .pure ⟨.refl s, hs⟩) ?_
  rintro check s₁ ⟨hgrows, hvouched⟩
  -- The status is looked up when the signature has passed.
  refine .bind (Q := fun status s' => Grows s s' ∧ Vouched X server s' ∧ (status.passed = true →
      ∃ info list, stmt.status = some info ∧ s'.ctx.statusLists.get info.uri = some list ∧
        list.valueAt info.idx = .ok .valid)) (.ite (fun _ => ?_) fun _ => ?_) ?_
  · refine (triple_checkStatus hvouched).mono ?_ ?_
    · rintro status s' ⟨hgrows', h⟩
      exact ⟨hgrows.trans hgrows', h⟩
    · rintro s' ⟨hgrows', h⟩
      exact ⟨hgrows.trans hgrows', h⟩
  · refine .pure ⟨hgrows, hvouched, fun h => ?_⟩
    cases h
  · rintro status s' ⟨hgrows', hvouched', hpassed⟩
    refine .pure ⟨hgrows', hvouched', fun hverdict => hpassed ?_⟩
    simp only [Bool.and_eq_true] at hverdict
    exact hverdict.2

/-! ## Whole runs -/

theorem stateAfter_concat (issuer : Text) (runs : List (TrustStatement × UInt64))
    (run : TrustStatement × UInt64) : stateAfter X server issuer (runs ++ [run]) =
      (verifyOne X server run.1 run.2 (stateAfter X server issuer runs)).2 := by
  rw [stateAfter, List.foldl_append]
  rfl

/-- In every run the caches are vouched for. -/
theorem vouched_stateAfter (issuer : Text) (runs : List (TrustStatement × UInt64)) :
    (stateAfter X server issuer runs).ctx.expectedIssuer = issuer ∧
      Vouched X server (stateAfter X server issuer runs) := by
  induction runs using List.reverseRecOn with
  | nil =>
    refine ⟨rfl, fun did doc h => ?_, fun url list h => ?_⟩
    · cases h
    · cases h
  | append_singleton runs run ih =>
    obtain ⟨hissuer, hvouched⟩ := ih
    have hstep : Grows (stateAfter X server issuer runs)
          (stateAfter X server issuer (runs ++ [run])) ∧
        Vouched X server (stateAfter X server issuer (runs ++ [run])) := by
      rw [stateAfter_concat]
      exact ((triple_verifyOne hvouched).mono (fun _ _ h => ⟨h.1, h.2.1⟩) fun _ h => h).state
    exact ⟨hstep.1.issuer.trans hissuer, hstep.2⟩

/-- A slot read as valid holds 0. -/
theorem slot_eq_zero_of_valueAt {idx : UInt64} (h : list.valueAt idx = .ok .valid) :
    idx.toNat < list.slotCount ∧ list.slot idx.toNat = 0 := by
  rw [StatusList.valueAt_eq] at h
  split_ifs at h with hidx
  refine ⟨hidx, ?_⟩
  have hraw := StatusList.toU8_fromRaw (list.slot idx.toNat) list.bits
  rw [Except.ok.inj h] at hraw
  exact hraw.symm

/-- Whatever the servers answer and whatever has been verified before in the same context, a true
verdict rests on slot `idx` of the list at the statement's pointer, and the slot holds 0. The list
was issued there by the expected issuer, whose document was served for its DID. -/
theorem verdict_rests_on_issued_list (issuer : Text) (runs : List (TrustStatement × UInt64))
    (stmt : TrustStatement) (now : UInt64) (report : Report) (s' : VerifyState)
    (h : verifyOne X server stmt now (stateAfter X server issuer runs) = (.ok report, s'))
    (hverdict : report.verdict = true) :
    s'.ctx.expectedIssuer = issuer ∧ Vouched X server s' ∧
      ∃ info list, stmt.status = some info ∧ s'.ctx.statusLists.get info.uri = some list ∧
        IssuedAt X server s' info.uri list ∧
        info.idx.toNat < list.slotCount ∧ list.slot info.idx.toNat = 0 := by
  obtain ⟨hissuer, hvouched⟩ : (stateAfter X server issuer runs).ctx.expectedIssuer = issuer ∧ _ :=
    vouched_stateAfter issuer runs
  obtain ⟨hgrows, hvouched', hrests⟩ := (triple_verifyOne hvouched).1 report s' h
  obtain ⟨info, list, hstatus, hlist, hvalue⟩ := hrests hverdict
  exact ⟨hgrows.issuer.trans hissuer, hvouched', info, list, hstatus, hlist,
    hvouched'.lists _ _ hlist, slot_eq_zero_of_valueAt hvalue⟩

end Trust

/-! ## A sample statement -/

namespace Sample

open Trust

/-- The DID of an issuer. -/
def issuer : Text := "did:tdw:e:e.ch"

/-- A segment of a JWT. -/
def segment (v : Value) : Text := Base64Url.encode (Text.utf8 (v.print crates.f64))

/-- The header and payload of a JWT that the issuer signs. -/
def issuerInput (payload : Value) : Text :=
  segment (.ofFields [(Text.lit "alg", .string "ES256"),
    (Text.lit "kid", .string (issuer ++ "#k"))]) ++ '.' :: segment payload

/-- The payload of a statement about a DID. -/
def payloadAbout (subject : Text) (iat idx : UInt64) : Value := .ofFields [
  (Text.lit "iat", .number (.posInt iat)), (Text.lit "iss", .string issuer),
  (Text.lit "status", .ofFields [(Text.lit "status_list", .ofFields [
    (Text.lit "idx", .number (.posInt idx)), (Text.lit "type", .string "t"),
    (Text.lit "uri", .string "https://a.ch/l")])]),
  (Text.lit "sub", .string subject)]

/-- The payload of a statement about another DID. -/
def statementPayload : Value := payloadAbout "did:tdw:o:o.ch" 1735689600 0

/-- The payload of a later statement about the sample DID. -/
def aboutPayload : Value := payloadAbout did.toText 1735689601 1

/-- The payload of a status list with eight clear slots. -/
def listPayload : Value := .ofFields [(Text.lit "status_list", .ofFields [
  (Text.lit "bits", .number (.posInt 1)), (Text.lit "lst", .string "eJxjAAAAAQAB")])]

def statementSignature : FixedBytes 64 :=
  signatureOf 0xf0f9e54445ea4679968838f31dee12ee04b07f4fb4b8ce8a06b5241a1d56f419
    0x717625f64ed84acd930cb93824aeac062ab91c7669f6ae0b0e812ff1943c4e5a

def aboutSignature : FixedBytes 64 :=
  signatureOf 0x711f6e6c3a753f590141cf76bb4cdc6f01aba46247b144ee5bc85cbb6f1174c7
    0xbeb76c62f4140384b4214aa61e6f0059c4905995a43ca13b2e7ca35372275afe

def listSignature : FixedBytes 64 :=
  signatureOf 0x59bc4dfc066e0fecdc7a0ffefb3c736f138093b4d7f7efd699a9a0920d66255b
    0x7e1a44f82e7841b03631630593373d8148adda63896c858122b0736b93a54e8c

/-- The sample crates with the issuer's signatures. -/
def issuerCrates : JoseCrates :=
  { joseCrates with
    p256Verify := fun key message signature => (key, fingerprint message, signature) ∈
      [(issuerKey, 41931, statementSignature), (issuerKey, 61946, aboutSignature),
        (issuerKey, 38211, listSignature)]
    zlibDecode := fun bytes => if bytes = [0x78, 0x9c, 0x63, 0, 0, 0, 1, 0, 1] then .ok [0]
      else .error [] }

/-- The statement, decoded. -/
def statement : TrustStatement where
  vct := "(unknown)"
  iss := issuer
  iat := 1735689600
  nbf := none
  exp := none
  entityName := ∅
  isStateActor := none
  status := some ⟨"t", 0, "https://a.ch/l"⟩
  kid := issuer ++ "#k"
  alg := "ES256"
  signingInput := issuerInput statementPayload
  signature := statementSignature

/-- The later statement, decoded. -/
def aboutStatement : TrustStatement :=
  { statement with
    iat := 1735689601
    status := some ⟨"t", 1, "https://a.ch/l"⟩
    signingInput := issuerInput aboutPayload
    signature := aboutSignature }

/-- The log of the issuer; nobody verifies it. -/
def issuerLog : Text := DIDLogEntry.toJson
  { format := .tdw03, versionId := "1", versionTime := "2025-01-01T00:00:00Z"
    parameters := { format := .tdw03 }
    didDocState := .value (documentOf issuer
      [⟨issuer ++ "#k", "JsonWebKey2020", issuer, .jwk (jwkOf issuerKey)⟩]).toJson
    dataIntegrityProofs := [] } |>.print crates.f64

/-- The status list, signed by the issuer. -/
def listJwt : Text := issuerInput listPayload ++ '.' :: Base64Url.encode listSignature

/-- What is served at the URLs of the sample. -/
def answer (url : Text) : Response :=
  if url = Text.lit "https://e.ch/.well-known/did.jsonl" then .answered 200 (.text issuerLog)
  else if url = Text.lit "https://a.ch/l" then .answered 200 (.text listJwt)
  else .failed "connection refused"

/-- A verification that ends in a true verdict. -/
theorem exists_report_of_verdict {X : JoseCrates} {server : Server} {stmt : TrustStatement}
    {now : UInt64} {s : VerifyState}
    (h : (verifyOne X server stmt now s).1.toOption.map Report.verdict = some true) :
    ∃ report s', verifyOne X server stmt now s = (.ok report, s') ∧ report.verdict = true := by
  rcases hverify : verifyOne X server stmt now s with ⟨e | report, s'⟩
  · rw [hverify] at h
    cases h
  · rw [hverify] at h
    exact ⟨report, s', rfl, Option.some.inj h⟩

/-- The second verification of the sample statement in one context rests on the list that the first
one has fetched. -/
theorem statement_rests_on_issued_list : ∃ report s',
    verifyOne issuerCrates (fun _ => answer) statement 1735700000
        (stateAfter issuerCrates (fun _ => answer) issuer [(statement, 1735700000)]) =
      (.ok report, s') ∧ report.verdict = true ∧
    ∃ info list, statement.status = some info ∧
      s'.ctx.statusLists.get info.uri = some list ∧
      IssuedAt issuerCrates (fun _ => answer) s' info.uri list ∧ list.slot info.idx.toNat = 0 := by
  obtain ⟨report, s', h, hverdict⟩ : ∃ report s',
      verifyOne issuerCrates (fun _ => answer) statement 1735700000
        (stateAfter issuerCrates (fun _ => answer) issuer [(statement, 1735700000)]) =
      (.ok report, s') ∧ report.verdict = true :=
    exists_report_of_verdict (by decide +kernel)
  obtain ⟨-, -, info, list, hstatus, hlist, hissued, -, hslot⟩ :=
    verdict_rests_on_issued_list issuer [(statement, 1735700000)] statement 1735700000 report s' h
      hverdict
  exact ⟨report, s', h, hverdict, info, list, hstatus, hlist, hissued, hslot⟩

end Sample

end Swiyu
