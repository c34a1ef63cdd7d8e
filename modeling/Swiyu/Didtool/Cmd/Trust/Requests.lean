import Swiyu.Didtool.Cmd.Trust.Caches

/-!
# The requests of a run

A run asks for every log and for every status list at most once: what it is served it remembers, and
what it cannot use ends the run. The cached documents are therefore the documents that have been
served, and as long as the run goes on something is cached for every request.

## Main definitions

- `Swiyu.Trust.Recorded`: no request has been made twice, and what was served for a DID is cached.
- `Swiyu.Trust.Complete`: for every request there is something in the caches.

## Main results

- `Swiyu.Trust.recorded_verifyStatements`: both hold in every run, the second one until it fails.
-/

namespace Swiyu

namespace Trust

variable (X : JoseCrates) (server : Server)

/-- No request has been made twice, and the documents that have been served are cached. -/
structure Recorded (s : VerifyState) : Prop where
  nodup : s.requests.Nodup
  served : ∀ didText doc, ResolvedAt X server s didText doc →
    s.ctx.issuerDocs.get didText = some doc

/-- For every request there is something in the caches, except for the status list that is
pending. -/
structure Complete (pending : Option Text) (s : VerifyState) : Prop where
  docs : ∀ url didText, ⟨url, some didText⟩ ∈ s.requests →
    (s.ctx.issuerDocs.get didText).isSome = true
  lists : ∀ url, { url } ∈ s.requests → pending ≠ some url →
    (s.ctx.statusLists.get url).isSome = true

/-- The state of a run that has not failed. -/
def Running (pending : Option Text) (s : VerifyState) : Prop :=
  Recorded X server s ∧ Complete pending s

variable {X server} {s s' : VerifyState} {didText url : Text} {doc : DIDDoc} {list : StatusList}
  {pending : Option Text} {request : Request}

/-! ## One more request -/

/-- The requests are those made before, and the new one. -/
theorem getElem?_requested_eq_some_iff {n : ℕ} {request' : Request} :
    (s.requested request).requests[n]? = some request' ↔
      s.requests[n]? = some request' ∨ n = s.requests.length ∧ request = request' := by
  rw [VerifyState.requested, List.getElem?_append]
  split_ifs with hn
  · exact ⟨.inl, fun h => h.elim id fun hlast => absurd hlast.1 hn.ne⟩
  · have hnone : s.requests[n]? = none := List.getElem?_eq_none (not_lt.mp hn)
    rw [hnone, List.getElem?_singleton]
    by_cases hlast : n = s.requests.length
    · simp [hlast]
    · have hpos : n - s.requests.length ≠ 0 := by omega
      simp [hlast, hpos]

/-- A document that has been served was served before, or for the new request. -/
theorem resolvedAt_requested_iff : ResolvedAt X server (s.requested request) didText doc ↔
    ResolvedAt X server s didText doc ∨ ∃ did text log, request = ⟨did.logUrl, didText⟩ ∧
      DID.fromStr didText = .ok did ∧
      fetchText did.logUrl (server s.requests.length did.logUrl) = .ok (.ok text) ∧
      DIDLog.tryFromJsonl X.toCrates text = .ok log ∧ docOfLog X didText log = .ok doc := by
  constructor
  · rintro ⟨did, log, ⟨n, text, hn, hdid, hfetch, hlog⟩, hdoc⟩
    rcases getElem?_requested_eq_some_iff.mp hn with hn | ⟨rfl, hrequest⟩
    · exact .inl ⟨did, log, ⟨n, text, hn, hdid, hfetch, hlog⟩, hdoc⟩
    · exact .inr ⟨did, text, log, hrequest, hdid, hfetch, hlog, hdoc⟩
  · rintro (h | ⟨did, text, log, rfl, hdid, hfetch, hlog, hdoc⟩)
    · exact h.mono (grows_requested _ _)
    · exact ⟨did, log, ⟨_, text, getElem?_requested _ _, hdid, hfetch, hlog⟩, hdoc⟩

theorem nodup_requested (h : s.requests.Nodup) (hnew : request ∉ s.requests) :
    (s.requested request).requests.Nodup :=
  List.nodup_append.mpr ⟨h, List.nodup_singleton _, fun _ ha _ hb hsame =>
    hnew (List.mem_singleton.mp hb ▸ hsame ▸ ha)⟩

/-- A new request that is not for a log that ends in a document leaves the run recorded. -/
theorem Recorded.requested (hs : Recorded X server s) (hnew : request ∉ s.requests)
    (hnone : ∀ didText did text log doc, request = ⟨did.logUrl, some didText⟩ →
      DID.fromStr didText = .ok did →
      fetchText did.logUrl (server s.requests.length did.logUrl) = .ok (.ok text) →
      DIDLog.tryFromJsonl X.toCrates text = .ok log → docOfLog X didText log ≠ .ok doc) :
    Recorded X server (s.requested request) where
  nodup := nodup_requested hs.nodup hnew
  served := by
    intro didText doc hresolved
    rcases resolvedAt_requested_iff.mp hresolved with h | ⟨did, text, log, hrequest, hdid, hfetch,
      hlog, hdoc⟩
    · exact hs.served didText doc h
    · exact absurd hdoc (hnone didText did text log doc hrequest hdid hfetch hlog)

/-! ## One more document -/

theorem get_cacheIssuerDoc (didText' : Text) :
    (cacheIssuerDoc didText doc s).ctx.issuerDocs.get didText' =
      if didText' = didText then some doc else s.ctx.issuerDocs.get didText' := by
  by_cases h : didText' = didText <;> simp [cacheIssuerDoc, h]

/-- A document that has been served for a DID without one, and is cached, leaves the run
recorded. -/
theorem Recorded.cacheIssuerDoc (hs : Recorded X server s) {did : DID} {text : Text} {log : DIDLog}
    (hnew : ⟨did.logUrl, some didText⟩ ∉ s.requests)
    (hcached : s.ctx.issuerDocs.get didText = none) (hdid : DID.fromStr didText = .ok did)
    (hfetch : fetchText did.logUrl (server s.requests.length did.logUrl) = .ok (.ok text))
    (hlog : DIDLog.tryFromJsonl X.toCrates text = .ok log)
    (hdoc : docOfLog X didText log = .ok doc) :
    Recorded X server (cacheIssuerDoc didText doc (s.requested ⟨did.logUrl, didText⟩)) where
  nodup := nodup_requested hs.nodup hnew
  served := by
    intro didText' doc' hresolved
    rw [get_cacheIssuerDoc]
    rcases resolvedAt_requested_iff.mp hresolved with h | ⟨did', text', log', hrequest, hdid',
      hfetch', hlog', hdoc'⟩
    · have hold := hs.served didText' doc' h
      rw [if_neg]
      · exact hold
      · rintro rfl
        rw [hcached] at hold
        cases hold
    · -- The new request has one answer.
      obtain ⟨-, hsame⟩ := Request.mk.inj hrequest
      obtain rfl := Option.some.inj hsame
      obtain rfl := Except.ok.inj (hdid.symm.trans hdid')
      cases hfetch.symm.trans hfetch'
      obtain rfl := Except.ok.inj (hlog.symm.trans hlog')
      rw [if_pos rfl, Except.ok.inj (hdoc.symm.trans hdoc')]

/-- So does it leave the caches complete. -/
theorem Complete.cacheIssuerDoc (hc : Complete pending s) :
    Complete pending (cacheIssuerDoc didText doc (s.requested ⟨url, didText⟩)) where
  docs := by
    intro url' didText' hmem
    rw [get_cacheIssuerDoc]
    by_cases hsame : didText' = didText
    · rw [if_pos hsame]
      rfl
    · rw [if_neg hsame]
      rcases List.mem_append.mp hmem with hold | hlast
      · exact hc.docs url' didText' hold
      · obtain ⟨-, hdid⟩ := Request.mk.inj (List.mem_singleton.mp hlast)
        exact absurd (Option.some.inj hdid) hsame
  lists := by
    intro url' hmem hpending
    rcases List.mem_append.mp hmem with hold | hlast
    · exact hc.lists url' hold hpending
    · cases List.mem_singleton.mp hlast

/-! ## What each step maintains -/

/-- The log of a DID whose document is not cached has not been asked for. -/
theorem Complete.notMem_of_get_eq_none (hc : Complete pending s)
    (hcached : s.ctx.issuerDocs.get didText = none) : ⟨url, some didText⟩ ∉ s.requests := by
  intro hmem
  have hsome := hc.docs _ _ hmem
  rw [hcached] at hsome
  cases hsome

/-- A document that is looked up is remembered, and one that is not found ends the run. -/
theorem running_loadIssuerDoc (hs : Running X server pending s) :
    (loadIssuerDoc X server didText).Triple s (fun _ s' => Running X server pending s')
      (Recorded X server) := by
  obtain ⟨hrecorded, hcomplete⟩ := hs
  refine .bind (Q := fun cached s' => s.ctx.issuerDocs.get didText = cached ∧ s = s')
    (.read ⟨rfl, rfl⟩) ?_
  rintro cached _ ⟨hcached, rfl⟩
  cases cached with
  | some doc => exact .pure ⟨hrecorded, hcomplete⟩
  | none =>
    refine .bind (triple_fetchIssuerDoc.mono (fun _ _ h => h) ?_) ?_
    · rintro _ (rfl | ⟨did, rfl, hdid, hnone⟩)
      · exact hrecorded
      · -- The request has been answered, but not with a log that ends in a document.
        refine hrecorded.requested (hcomplete.notMem_of_get_eq_none hcached) ?_
        intro didText' did' text log doc hrequest hdid' hfetch hlog
        obtain ⟨-, hsame⟩ := Request.mk.inj hrequest
        obtain rfl := Option.some.inj hsame
        obtain rfl := Except.ok.inj (hdid.symm.trans hdid')
        exact hnone text log doc hfetch hlog
    · rintro doc _ ⟨did, log, rfl, ⟨n, text, hn, hdid, hfetch, hlog⟩, hdoc⟩
      -- The document is not in the cache, so it has not been asked for before.
      have hnew : (⟨did.logUrl, didText⟩ : Request) ∉ s.requests :=
        hcomplete.notMem_of_get_eq_none hcached
      obtain rfl : n = s.requests.length := by
        rcases getElem?_requested_eq_some_iff.mp hn with hold | ⟨h, -⟩
        · exact absurd (List.mem_of_getElem? hold) hnew
        · exact h
      refine .bind (.update (Q := fun _ s' => s' = cacheIssuerDoc didText doc
        (s.requested ⟨did.logUrl, didText⟩)) rfl) ?_
      rintro - _ rfl
      exact .pure ⟨hrecorded.cacheIssuerDoc hnew hcached hdid hfetch hlog hdoc,
        hcomplete.cacheIssuerDoc⟩

theorem running_parseAndVerifyStatusList {jwt : Text} (hs : Running X server pending s) :
    (parseAndVerifyStatusList X server url jwt).Triple s (fun _ s' => Running X server pending s')
      (Recorded X server) := by
  refine .bind (Q := fun _ s' => s = s') (.ofExcept (fun _ _ => rfl) fun _ _ => hs.1) ?_
  rintro parts _ rfl
  refine .bind (Q := fun _ s' => s = s') (.read rfl) ?_
  rintro issuer _ rfl
  refine .bind (Q := fun _ s' => s = s') (.ofExcept (fun _ _ => rfl) fun _ _ => hs.1) ?_
  rintro ⟨kid, did⟩ _ rfl
  refine .bind (running_loadIssuerDoc hs) ?_
  rintro doc s' hs'
  exact .ofExcept (fun _ _ => hs') fun _ _ => hs'.1

/-- A status list that is asked for is pending until it is cached. -/
theorem running_loadStatusList (hs : Running X server none s) :
    (loadStatusList X server url).Triple s (fun _ s' => Running X server none s')
      (Recorded X server) := by
  obtain ⟨hrecorded, hcomplete⟩ := hs
  refine .bind (Q := fun cached s' => s.ctx.statusLists.get url = cached ∧ s = s')
    (.read ⟨rfl, rfl⟩) ?_
  rintro cached _ ⟨hcached, rfl⟩
  cases cached with
  | some list => exact .pure ⟨hrecorded, hcomplete⟩
  | none =>
    -- A list that had been asked for would be in the cache.
    have hnew : ({ url } : Request) ∉ s.requests := by
      intro hmem
      have hsome := hcomplete.lists url hmem (by simp)
      rw [hcached] at hsome
      cases hsome
    have hrequested : Recorded X server (s.requested { url }) :=
      hrecorded.requested hnew fun _ _ _ _ _ hrequest => by cases hrequest
    -- The request is recorded whatever is answered.
    refine .bind (triple_fetch.mono (fun _ _ h => h) ?_) ?_
    · rintro _ ⟨rfl, -⟩
      exact hrequested
    · rintro outcome _ ⟨rfl, -⟩
      cases outcome with
      | notFound => exact .fail hrequested
      | ok text =>
        -- While the list is parsed it is the only one that is asked for but not cached.
        have hpending : Complete (some url) (s.requested { url }) := by
          refine ⟨fun url' didText hmem => ?_, fun url' hmem hne => ?_⟩
          · rcases List.mem_append.mp hmem with hold | hlast
            · exact hcomplete.docs url' didText hold
            · cases List.mem_singleton.mp hlast
          · rcases List.mem_append.mp hmem with hold | hlast
            · exact hcomplete.lists url' hold (by simp)
            · obtain ⟨rfl, -⟩ := Request.mk.inj (List.mem_singleton.mp hlast)
              exact absurd rfl hne
        refine .bind (running_parseAndVerifyStatusList ⟨hrequested, hpending⟩) ?_
        rintro list s' ⟨hrecorded', hcomplete'⟩
        refine .bind (.update (Q := fun _ t => t = cacheStatusList url list s') rfl) ?_
        rintro - _ rfl
        refine .pure ⟨⟨hrecorded'.nodup, hrecorded'.served⟩, hcomplete'.docs, fun url' hmem _ => ?_⟩
        -- Now it is cached, too.
        by_cases hsame : url' = url
        · simp [cacheStatusList, hsame]
        · have hold := hcomplete'.lists url' hmem fun h => hsame (Option.some.inj h).symm
          simpa [cacheStatusList, hsame] using hold

theorem running_checkStatus {stmt : TrustStatement} (hs : Running X server none s) :
    (checkStatus X server stmt).Triple s (fun _ s' => Running X server none s')
      (Recorded X server) := by
  rw [checkStatus]
  cases stmt.status with
  | none => exact .pure hs
  | some info =>
    refine .bind (running_loadStatusList hs) ?_
    rintro list s' hs'
    refine .bind (Q := fun _ t => s' = t) (.ofExcept (fun _ _ => rfl) fun _ _ => hs'.1) ?_
    rintro value _ rfl
    exact .pure hs'

theorem running_verifySignature {stmt : TrustStatement} (hs : Running X server pending s) :
    (verifySignature X server stmt).Triple s (fun _ s' => Running X server pending s')
      (Recorded X server) := by
  refine .ite (fun _ => .pure hs) fun _ => ?_
  cases Text.splitOnce '#' stmt.kid with
  | none => exact .pure hs
  | some parts =>
    refine .bind (running_loadIssuerDoc hs) ?_
    rintro doc s' hs'
    exact .pure hs'

theorem running_verifyOne {stmt : TrustStatement} {now : UInt64} (hs : Running X server none s) :
    (verifyOne X server stmt now).Triple s (fun _ s' => Running X server none s')
      (Recorded X server) := by
  refine .bind (Q := fun _ s' => s = s') (.read rfl) ?_
  rintro issuer _ rfl
  refine .bind (Q := fun _ s' => Running X server none s')
    (.ite (fun _ => running_verifySignature hs) fun _ => .pure hs) ?_
  rintro check s₁ hs₁
  refine .bind (Q := fun _ s' => Running X server none s')
    (.ite (fun _ => running_checkStatus hs₁) fun _ => .pure hs₁) ?_
  rintro status s₂ hs₂
  exact .pure hs₂

/-! ## Whole runs -/

theorem running_verifyStatements {stmts : List TrustStatement} {now : UInt64}
    (hs : Running X server none s) :
    (verifyStatements X server now stmts).Triple s (fun _ s' => Running X server none s')
      (Recorded X server) := by
  induction stmts generalizing s with
  | nil => exact .pure hs
  | cons stmt stmts ih =>
    refine .bind (running_verifyOne hs) ?_
    rintro report s' hs'
    refine .bind (ih hs') ?_
    rintro reports s'' hs''
    exact .pure hs''

/-- A run may begin. -/
theorem running_freshState {issuer : Text} : Running X server none (freshState issuer) := by
  refine ⟨⟨List.nodup_nil, ?_⟩, fun _ _ h => absurd h List.not_mem_nil,
    fun _ h => absurd h List.not_mem_nil⟩
  rintro didText doc ⟨did, log, ⟨n, text, hn, -⟩, -⟩
  cases hn

theorem vouched_freshState {issuer : Text} : Vouched X server (freshState issuer) := by
  refine ⟨fun did doc h => ?_, fun url list h => ?_⟩
  · cases h
  · cases h

/-- A run keeps the caches vouched for. -/
theorem triple_verifyStatements {stmts : List TrustStatement} {now : UInt64}
    (hs : Vouched X server s) :
    (verifyStatements X server now stmts).Triple s (fun _ s' => Grows s s' ∧ Vouched X server s')
      fun s' => Grows s s' ∧ Vouched X server s' := by
  induction stmts generalizing s with
  | nil => exact .pure ⟨.refl s, hs⟩
  | cons stmt stmts ih =>
    refine .bind (triple_verifyOne hs) ?_
    rintro report s' ⟨hgrows, hvouched, -⟩
    have hrest : (verifyStatements X server now stmts).Triple s'
        (fun _ s'' => Grows s s'' ∧ Vouched X server s'')
        fun s'' => Grows s s'' ∧ Vouched X server s'' :=
      (ih hvouched).mono (fun _ _ h => ⟨hgrows.trans h.1, h.2⟩) fun _ h => ⟨hgrows.trans h.1, h.2⟩
    refine .bind hrest ?_
    rintro reports s'' h
    exact .pure h

/-- However a run ends, the caches are vouched for. -/
theorem vouched_verifyStatements (stmts : List TrustStatement) (now : UInt64) (issuer : Text) :
    Vouched X server (verifyStatements X server now stmts (freshState issuer)).2 :=
  ((triple_verifyStatements vouched_freshState).mono (fun _ _ h => h.2) fun _ h => h.2).state

/-- However a run ends, no request has been made twice and the documents served are cached. -/
theorem recorded_verifyStatements (stmts : List TrustStatement) (now : UInt64) (issuer : Text) :
    Recorded X server (verifyStatements X server now stmts (freshState issuer)).2 :=
  ((running_verifyStatements running_freshState).mono (fun _ _ h => h.1) fun _ h => h).state

end Trust

end Swiyu
