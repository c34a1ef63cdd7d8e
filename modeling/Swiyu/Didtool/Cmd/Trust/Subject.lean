import Swiyu.Didtool.Cmd.Trust.Outcome

/-!
# Whom a trusted statement is about

The trust registry is asked for the statements about a DID. Nothing compares the `sub` of a
statement with that DID, so that the answer to the query is as good as the registry.

## Main definitions

- `Swiyu.Trust.IsAbout`: the signed payload of a statement names a DID as its subject.
- `Swiyu.Trust.Endorsed`: the documents and the status lists that were served speak for a statement.
- `Swiyu.Trust.Returned`: the registry returns statements to the command.

## Main results

- `Swiyu.Trust.forall₂_endorsed`: a run reports a true verdict on the endorsed statements.
- `Swiyu.Trust.trusted_isAbout_iff`: when a trusted DID is one that a trusted statement is about.
-/

namespace Swiyu

open Json

namespace Trust

variable (X : JoseCrates) (server : Server)

/-- The payload that the signature of a statement covers. -/
def signedPayload (stmt : TrustStatement) : Option Value := do
  let segment ← (Text.split '.' stmt.signingInput)[1]?
  let bytes ← Base64Url.decode segment
  (Text.fromUtf8 bytes).bind (Json.parse X.f64)

/-- The `sub` in the signed payload of a statement is the DID. -/
def IsAbout (did : Text) (stmt : TrustStatement) : Prop :=
  (signedPayload X stmt).bind (fun payload => payload.get "sub") = some (.string did)

/-- The list is the content of the JWT that was served at `url`; its `alg` is ES256, the DID in its
`kid` is the issuer's, and its signature verifies under the key for that `kid` in the document that
was served for the issuer. -/
def ServedList (s : VerifyState) (issuer url : Text) (list : StatusList) : Prop :=
  ∃ n text jwt kid fragment doc key inner, s.requests[n]? = some { url } ∧
    fetchText url (server n url) = .ok (.ok text) ∧
    splitStatusListJwt X url (Text.trim text) = .ok jwt ∧
    jwt.header.get "alg" = some (.string "ES256") ∧ jwt.header.get "kid" = some (.string kid) ∧
    Text.splitOnce '#' kid = some (issuer, fragment) ∧ ResolvedAt X server s issuer doc ∧
    findVerifyingKey X doc kid = .ok key ∧
    key.verify X (Text.utf8 jwt.signingInput) jwt.signature = .ok () ∧
    jwt.payload.get "status_list" = some inner ∧ StatusList.tryFromJson X inner = .ok list

/-- What was served speaks for the statement: it names the issuer and ES256, the time is within its
limits, the key for its `kid` in the document served for the `kid`'s DID verifies its signature, and
its slot in the list served at its pointer is valid. -/
structure Endorsed (s : VerifyState) (issuer : Text) (now : UInt64) (stmt : TrustStatement) :
    Prop where
  iss : stmt.iss = issuer
  alg : stmt.alg = Text.lit "ES256"
  fresh : (checkFreshness X stmt now).passed = true
  signed : ∃ did doc key, kidDid stmt = some did ∧ ResolvedAt X server s did doc ∧
    findVerifyingKey X doc stmt.kid = .ok key ∧ SignatureVerifies X stmt key
  valid : ∃ info list, stmt.status = some info ∧ ServedList X server s issuer info.uri list ∧
    list.valueAt info.idx = .ok .valid

/-- The command is to verify the DID on the word of the issuer, and the registry returns it these
statements; the clock then shows `now`, and `server` answers the requests that follow. -/
structure Returned (env : Env) (w : World) (args : VerifyArgs) (did : DID) (issuer : Text)
    (array : List Text) (now : UInt64) (server : Server) : Prop where
  issuer : args.trustIssuer = some issuer
  query : ∃ baseUrl w₁, args.trustRegistryUrl = some baseUrl ∧
    resolveDid env args.did w = (.ok did, w₁) ∧
    statementsOfResponse X.toCrates (env.server w₁.tick (trustEndpoint baseUrl did)) = .ok array ∧
    UInt64.ofNat (env.clock w₁.ticked.tick / 1000000000).toNat = now ∧
    (fun n => env.server (w₁.ticked.ticked.tick + n)) = server

/-- The state in which the verification of the statements ends. -/
def verified (issuer : Text) (now : UInt64) (stmts : List TrustStatement) : VerifyState :=
  (verifyStatements X server now (newestFirst stmts) (freshState issuer)).2

variable {X server} {stmt : TrustStatement} {now : UInt64} {s s' s'' : VerifyState}
  {issuer url : Text} {list list' : StatusList} {report : Report}

/-! ## What has been served -/

/-- What was served is served in the states that follow. -/
theorem ServedList.mono (h : ServedList X server s issuer url list) (hs : Grows s s') :
    ServedList X server s' issuer url list := by
  obtain ⟨n, text, jwt, kid, fragment, doc, key, inner, hn, hfetch, hjwt, halg, hkid, hsplit, hdoc,
    h⟩ := h
  exact ⟨n, text, jwt, kid, fragment, doc, key, inner, hs.getElem?_requests hn, hfetch, hjwt, halg,
    hkid, hsplit, hdoc.mono hs, h⟩

/-- One document has been served for a DID. -/
theorem Recorded.resolvedAt_inj (hs : Recorded X server s) {did : Text} {doc doc' : DIDDoc}
    (h : ResolvedAt X server s did doc) (h' : ResolvedAt X server s did doc') : doc = doc' :=
  Option.some.inj ((hs.served did doc h).symm.trans (hs.served did doc' h'))

/-- One list has been served at a URL. -/
theorem Recorded.servedList_inj (hs : Recorded X server s)
    (h : ServedList X server s issuer url list) (h' : ServedList X server s issuer url list') :
    list = list' := by
  obtain ⟨n, text, jwt, kid, fragment, doc, key, inner, hn, hfetch, hjwt, -, hkid, -, hdoc, hkey, -,
    hinner, hlist⟩ := h
  obtain ⟨n', text', jwt', kid', fragment', doc', key', inner', hn', hfetch', hjwt', -, hkid', -,
    hdoc', hkey', -, hinner', hlist'⟩ := h'
  obtain rfl : n = n' :=
    (List.getElem?_inj (List.getElem?_eq_some_iff.mp hn).1 hs.nodup).mp (hn.trans hn'.symm)
  cases hfetch.symm.trans hfetch'
  obtain rfl := Except.ok.inj (hjwt.symm.trans hjwt')
  obtain rfl := Option.some.inj (hinner.symm.trans hinner')
  exact Except.ok.inj (hlist.symm.trans hlist')

/-- A list that was issued at a URL was served there, where the documents in the cache have been
served. -/
theorem IssuedAt.servedList (hs : Vouched X server s) (h : IssuedAt X server s url list) :
    ServedList X server s s.ctx.expectedIssuer url list := by
  obtain ⟨n, text, jwt, kid, fragment, doc, key, inner, hn, hfetch, hjwt, halg, hkid, hsplit, hdoc,
    h⟩ := h
  exact ⟨n, text, jwt, kid, fragment, doc, key, inner, hn, hfetch, hjwt, halg, hkid, hsplit,
    hs.docs _ _ hdoc, h⟩

/-! ## Verdicts -/

/-- What a status check that does not fail has looked up. -/
theorem checkStatus_eq_ok_iff {check : Check} {info : StatusListPointer}
    (hinfo : stmt.status = some info) :
    checkStatus X server stmt s = (.ok check, s') ↔ ∃ list value,
      loadStatusList X server info.uri s = (.ok list, s') ∧ list.valueAt info.idx = .ok value ∧
        checkStatusValue info.idx list.bits value = check := by
  rw [checkStatus, hinfo]
  simp only [Command.bind_eq_ok_iff, Command.ofExcept_eq_ok_iff, Except.mapError_eq_ok_iff,
    Command.pure_eq_ok_iff]
  constructor
  · rintro ⟨list, _, hlist, value, _, ⟨hvalue, rfl⟩, rfl, rfl⟩
    exact ⟨list, value, hlist, hvalue, rfl⟩
  · rintro ⟨list, value, hlist, hvalue, rfl⟩
    exact ⟨list, _, hlist, value, _, ⟨hvalue, rfl⟩, rfl, rfl⟩

theorem passed_checkStatusValue_iff {idx : UInt64} {bits : UInt8} {value : StatusValue} :
    (checkStatusValue idx bits value).passed = true ↔ value = .valid := by
  cases value <;> simp [checkStatusValue, Check.passed]

/-- A statement that gets a true verdict is endorsed by what has been served. -/
theorem endorsed_of_verdict (hs : Vouched X server s)
    (h : verifyOne X server stmt now s = (.ok report, s')) (hverdict : report.verdict = true) :
    Endorsed X server s' s.ctx.expectedIssuer now stmt := by
  obtain ⟨hiss, hfresh, check, s₁, status, hsignature, ⟨hstatus, hpassed⟩, -⟩ :=
    verdict_eq_true_iff.mp ⟨h, hverdict⟩
  obtain ⟨halg, did, doc, hkid, hload, rfl, hok⟩ := verifySignature_passed_iff.mp hsignature
  obtain ⟨hgrows, hvouched, hdoc⟩ := (triple_loadIssuerDoc hs).1 _ _ hload
  obtain ⟨hgrows', hvouched', hslot⟩ := (triple_checkStatus hvouched).1 _ _ hstatus
  obtain ⟨info, list, hinfo, hlist, hvalue⟩ := hslot hpassed
  obtain ⟨key, hkey, hverifies⟩ := passed_checkSignature.mp hok
  have hissuer : s'.ctx.expectedIssuer = s.ctx.expectedIssuer := (hgrows.trans hgrows').issuer
  refine ⟨hiss, halg, hfresh, ⟨did, doc, key, hkid, ?_, hkey, hverifies⟩, info, list, hinfo, ?_,
    hvalue⟩
  · exact (hvouched.docs _ _ hdoc).mono hgrows'
  · rw [← hissuer]
    exact (hvouched'.lists _ _ hlist).servedList hvouched'

/-- A statement that is endorsed at the end of the run gets a true verdict in the course of it: no
other document and no other list has been served. -/
theorem verdict_of_endorsed (hs : Vouched X server s)
    (h : verifyOne X server stmt now s = (.ok report, s')) (hgrows : Grows s' s'')
    (hrecorded : Recorded X server s'')
    (hendorsed : Endorsed X server s'' s.ctx.expectedIssuer now stmt) : report.verdict = true := by
  obtain ⟨hiss, halg, hfresh, ⟨did, doc, key, hkid, hdoc, hkey, hverifies⟩, info, list, hinfo,
    hlist, hvalue⟩ := hendorsed
  simp only [verifyOne, Command.bind_eq_ok_iff, Command.read_eq_ok_iff, Command.pure_eq_ok_iff] at h
  obtain ⟨_, _, ⟨rfl, rfl⟩, check, s₁, hcheck, status, s₂, hstatus, rfl, rfl⟩ := h
  have hissuer : (checkIssuer stmt s.ctx.expectedIssuer).passed = true :=
    passed_checkIssuer.mpr hiss
  -- The signature is checked with the document that was served.
  obtain ⟨doc', hload, rfl⟩ : ∃ doc', loadIssuerDoc X server did s = (.ok doc', s₁) ∧
      checkSignature X stmt doc' = check := by
    obtain ⟨parts, hsplit, rfl⟩ := Option.map_eq_some_iff.mp hkid
    rw [signatureAfter, if_pos hissuer, verifySignature, if_neg (not_not_intro halg),
      hsplit] at hcheck
    simpa using hcheck
  obtain ⟨hgrows₁, hvouched₁, hcached⟩ := (triple_loadIssuerDoc hs).1 _ _ hload
  -- One document only was served for the DID, so this is the one that endorses the statement.
  have hpassed : (checkSignature X stmt doc').passed = true := by
    rw [statusAfter] at hstatus
    have hkept : Grows s₁ s'' := by
      refine Grows.trans ?_ hgrows
      split_ifs at hstatus with hok
      · exact ((triple_checkStatus hvouched₁).1 _ _ hstatus).1
      · obtain ⟨-, rfl⟩ := Command.pure_eq_ok_iff.mp hstatus
        exact .refl _
    obtain rfl := hrecorded.resolvedAt_inj hdoc ((hvouched₁.docs _ _ hcached).mono hkept)
    exact passed_checkSignature.mpr ⟨key, hkey, hverifies⟩
  -- And the slot is one of the list that was served.
  rw [statusAfter, if_pos hpassed] at hstatus
  obtain ⟨list', value, hload', hvalue', rfl⟩ := (checkStatus_eq_ok_iff hinfo).mp hstatus
  obtain ⟨hgrows₂, hvouched₂, hcached'⟩ := (triple_loadStatusList hvouched₁).1 _ _ hload'
  have hserved := ((hvouched₂.lists _ _ hcached').servedList hvouched₂).mono hgrows
  rw [(hgrows₁.trans hgrows₂).issuer] at hserved
  obtain rfl := hrecorded.servedList_inj hlist hserved
  obtain rfl := Except.ok.inj (hvalue.symm.trans hvalue')
  simp [hissuer, hpassed, hfresh, passed_checkStatusValue_iff.mpr]

/-! ## Runs -/

/-- A report is one on the statement that has been verified. -/
theorem statement_of_verifyOne (h : verifyOne X server stmt now s = (.ok report, s')) :
    report.statement = stmt := by
  simp only [verifyOne, Command.bind_eq_ok_iff, Command.pure_eq_ok_iff] at h
  obtain ⟨_, _, -, _, _, -, _, _, -, rfl, -⟩ := h
  rfl

theorem statement_of_verifiedAfresh {answer : Text → Response}
    (h : verifiedAfresh X answer issuer now stmt = .ok report) : report.statement = stmt :=
  statement_of_verifyOne (Command.eq_ok_of_fst_eq h)

/-- A run that does not fail reports on each statement, and a true verdict on those that are
endorsed by what it has been served. -/
theorem forall₂_endorsed {stmts : List TrustStatement} {reports : List Report}
    (hs : Vouched X server s) (h : verifyStatements X server now stmts s = (.ok reports, s'))
    (hrecorded : Recorded X server s') :
    List.Forall₂ (fun stmt report => report.statement = stmt ∧
      (report.verdict = true ↔ Endorsed X server s' s.ctx.expectedIssuer now stmt))
      stmts reports := by
  induction stmts generalizing s reports with
  | nil =>
    obtain ⟨rfl, -⟩ := Command.pure_eq_ok_iff.mp h
    exact .nil
  | cons stmt stmts ih =>
    simp only [verifyStatements, Command.bind_eq_ok_iff, Command.pure_eq_ok_iff] at h
    obtain ⟨report, s₁, hreport, rest, s₂, hrest, rfl, rfl⟩ := h
    obtain ⟨hgrows, hvouched, -⟩ := (triple_verifyOne hs).1 _ _ hreport
    have hlater : Grows s₁ s₂ := ((triple_verifyStatements hvouched).1 _ _ hrest).1
    -- What endorses the first statement is still served when the run has ended.
    refine .cons ⟨statement_of_verifyOne hreport, fun hverdict => ?_, ?_⟩ ?_
    · obtain ⟨hiss, halg, hfresh, ⟨did, doc, key, hkid, hdoc, hsigned⟩, info, list, hinfo, hlist,
        hvalue⟩ := endorsed_of_verdict hs hreport hverdict
      exact ⟨hiss, halg, hfresh, ⟨did, doc, key, hkid, hdoc.mono hlater, hsigned⟩, info, list,
        hinfo, hlist.mono hlater, hvalue⟩
    · exact verdict_of_endorsed hs hreport hlater hrecorded
    · have hforall := ih hvouched hrest
      rwa [hgrows.issuer] at hforall

/-- The reports with a true verdict are those on the endorsed statements. -/
theorem exists_verdict_iff {stmts : List TrustStatement} {reports : List Report}
    (h : verifyStatements X server now (newestFirst stmts) (freshState issuer) =
      (.ok reports, verified X server issuer now stmts)) {P : TrustStatement → Prop} :
    (∃ report ∈ reports, report.verdict = true ∧ P report.statement) ↔
      ∃ stmt ∈ stmts, Endorsed X server (verified X server issuer now stmts) issuer now stmt ∧
        P stmt := by
  have hforall : List.Forall₂ (fun stmt report => report.statement = stmt ∧ (report.verdict = true ↔
      Endorsed X server (verified X server issuer now stmts) issuer now stmt))
        (newestFirst stmts) reports :=
    forall₂_endorsed vouched_freshState h (recorded_verifyStatements _ _ _)
  have hmem : ∀ stmt, stmt ∈ newestFirst stmts ↔ stmt ∈ stmts := fun stmt => by
    rw [newestFirst, List.mem_mergeSort]
  simp only [← hmem]
  generalize newestFirst stmts = sorted at hforall
  clear h hmem
  induction hforall with
  | nil => simp
  | @cons stmt report sorted reports hreport hrest ih =>
    obtain ⟨rfl, hverdict⟩ := hreport
    simp only [List.mem_cons, exists_eq_or_imp, hverdict, ih]

/-! ## The command -/

/-- What the command does with the statements that the registry returns. -/
theorem verifyStatements_of_cmdVerify {env : Env} {w w' : World} {args : VerifyArgs} {did : DID}
    {array : List Text} {outcome : VerifyOutcome} {reports : List Report}
    {stmts : List TrustStatement} (hreturned : Returned X env w args did issuer array now server)
    (hdecode : decodeStatements X 1 array = .ok stmts)
    (h : cmdVerify X env args w = (.ok (outcome, reports), w')) :
    verifyStatements X server now (newestFirst stmts) (freshState issuer) =
        (.ok reports, verified X server issuer now stmts) ∧
      verdictOf reports = outcome := by
  obtain ⟨baseUrl, w₁, hurl, hdid, harray, hnow, hserver⟩ := hreturned.query
  simp only [cmdVerify, fetchTrustStatements, hurl, hreturned.issuer, Option.okOr_some,
    Command.bind_eq_ok_iff, Command.ofExcept_eq_ok_iff, Command.mapError_eq_ok_iff,
    Os.get_eq_ok_iff] at h
  -- The query is the one whose answer is given.
  obtain ⟨_, _, ⟨h₁, rfl⟩, _, _, ⟨h₂, rfl⟩, _, _, h₃, _, _, ⟨_, _, ⟨rfl, rfl⟩, h₄, rfl⟩, h⟩ := h
  cases h₁
  cases h₂
  cases hdid.symm.trans h₃
  cases harray.symm.trans h₄
  split_ifs at h with hempty
  · -- Without statements there is nothing to verify.
    subst hempty
    obtain rfl := Except.ok.inj hdecode
    obtain ⟨houtcome, -⟩ := Command.pure_eq_ok_iff.mp h
    obtain ⟨rfl, rfl⟩ := Prod.mk.inj houtcome
    have hnone : newestFirst [] = [] := by simp [newestFirst]
    rw [verified, hnone]
    exact ⟨rfl, rfl⟩
  · -- The statements are verified with fresh caches, and one time for all of them.
    simp only [Command.bind_eq_ok_iff, Command.ofExcept_eq_ok_iff, withContext_eq_ok_iff,
      Os.unixSeconds_eq_ok_iff] at h
    obtain ⟨stmts', _, ⟨hstmts, rfl⟩, now', w₂, ⟨hnow', rfl⟩, reports', w₃, ⟨s', hrun, -⟩, h⟩ := h
    cases hdecode.symm.trans hstmts
    obtain rfl := hnow.symm.trans hnow'
    rw [hserver] at hrun
    have hstate : verified X server issuer now stmts = s' := congrArg Prod.snd hrun
    rw [hstate]
    unfold verdictOf
    split_ifs at h with hcount
    · cases h
      exact ⟨hrun, if_pos hcount⟩
    · cases h
      exact ⟨hrun, if_neg hcount⟩

/-- Of the answers of a registry that the command gets through with, those keep the DID from being
trusted on the word of statements about others that, if any of their statements is endorsed by the
documents and lists served, have an endorsed statement about the DID. -/
theorem trusted_isAbout_iff {env : Env} {w w' : World} {args : VerifyArgs} {did : DID}
    {array : List Text} {outcome : VerifyOutcome} {reports : List Report}
    {stmts : List TrustStatement} (hreturned : Returned X env w args did issuer array now server)
    (hdecode : decodeStatements X 1 array = .ok stmts)
    (hrun : cmdVerify X env args w = (.ok (outcome, reports), w')) :
    (outcome = .trusted →
        ∃ report ∈ reports, report.verdict = true ∧ IsAbout X did.toText report.statement) ↔
      ((∃ stmt ∈ stmts, Endorsed X server (verified X server issuer now stmts) issuer now stmt) →
        ∃ stmt ∈ stmts, Endorsed X server (verified X server issuer now stmts) issuer now stmt ∧
          IsAbout X did.toText stmt) := by
  obtain ⟨hverify, rfl⟩ := verifyStatements_of_cmdVerify hreturned hdecode hrun
  have htrusted : verdictOf reports = .trusted ↔
      ∃ stmt ∈ stmts, Endorsed X server (verified X server issuer now stmts) issuer now stmt := by
    have h := exists_verdict_iff hverify (P := fun _ => True)
    simp only [and_true] at h
    rw [verdictOf_eq_trusted_iff, h]
  rw [htrusted, exists_verdict_iff hverify]

end Trust

/-! ## A sample answer of the registry -/

namespace Sample

open Trust

theorem returned_registryEnv (jwts : List Text) :
    Returned issuerCrates (registryEnv jwts) ⟨∅, ∅, [], 0⟩ verifyArgs did issuer jwts 1735700000
      fun _ => registryAnswer jwts := by
  obtain ⟨-, hissuer, -⟩ := answered_registryEnv jwts
  have hanswer : statementsOfResponse issuerCrates.toCrates
      (registryAnswer jwts (trustEndpoint "https://t.ch" did)) = .ok jwts := by
    rw [registryAnswer, if_pos rfl, statementsOfResponse_strings]
  refine ⟨hissuer, "https://t.ch", ⟨∅, ∅, [], 0⟩, rfl, ?_, hanswer, rfl, rfl⟩
  simp [verifyArgs, resolveDid, isHash_of_fromStr fromStr_did, fromStr_did]

/-- The sample DID is trusted when all of the statements are endorsed, and there are some. -/
theorem exists_trusted {jwts : List Text} {jwt : Text} {report : Report}
    (hall : ∀ jwt ∈ jwts, ∃ report,
      VerifiedAlone issuerCrates (registryAnswer jwts) issuer 1735700000 jwt report)
    (hjwt : jwt ∈ jwts)
    (hreport : VerifiedAlone issuerCrates (registryAnswer jwts) issuer 1735700000 jwt report)
    (hverdict : report.verdict = true) : ∃ reports w',
    cmdVerify issuerCrates (registryEnv jwts) verifyArgs ⟨∅, ∅, [], 0⟩ =
      (.ok (.trusted, reports), w') ∧ report ∈ reports := by
  obtain ⟨reports, hreports⟩ := exists_verifiedEach_iff.mpr hall
  have hmem : report ∈ reports := (mem_of_verifiedEach hreports).mpr ⟨jwt, hjwt, hreport⟩
  have htrusted : verdictOf reports = .trusted :=
    verdictOf_eq_trusted_iff.mpr ⟨report, hmem, hverdict⟩
  have hfst := fst_cmdVerify (answered_registryEnv jwts)
  rw [hreports, Except.map, htrusted] at hfst
  exact ⟨reports, _, Command.eq_ok_of_fst_eq hfst, hmem⟩

/-- The first sample statement is about another DID than the sample DID. -/
theorem not_isAbout_statement : ¬ IsAbout issuerCrates did.toText statement := by
  have hsubject : (signedPayload issuerCrates statement).bind (fun payload => payload.get "sub") =
      some (.string "did:tdw:o:o.ch") := by decide +kernel
  have hne : Text.lit "did:tdw:o:o.ch" ≠ did.toText := by decide +kernel
  rw [IsAbout, hsubject]
  simpa using hne

theorem isAbout_aboutStatement : IsAbout issuerCrates did.toText aboutStatement := by
  unfold IsAbout
  decide +kernel

/-- With both sample statements, the sample DID is trusted on one that is about it. -/
theorem trusted_isAbout : ∃ reports w',
    cmdVerify issuerCrates (registryEnv bothJwts) verifyArgs ⟨∅, ∅, [], 0⟩ =
        (.ok (.trusted, reports), w') ∧
      ∃ report ∈ reports, report.verdict = true ∧
        IsAbout issuerCrates did.toText report.statement := by
  have hjwt : aboutJwt ∈ bothJwts := by simp [bothJwts]
  obtain ⟨report', hreport', hverdict⟩ := exists_verifiedAlone_bothJwts aboutJwt hjwt
  obtain ⟨reports, w', hrun, hmem⟩ := exists_trusted
    (fun jwt h => (exists_verifiedAlone_bothJwts jwt h).imp fun _ h => h.1) hjwt hreport' hverdict
  have hdecode : decodeStatements issuerCrates 1 bothJwts = .ok [statement, aboutStatement] := by
    rw [bothJwts, decodeStatements, decodeStatements, decodeStatements, tryFromJwt_statementJwt,
      tryFromJwt_aboutJwt]
    rfl
  have hreturned := returned_registryEnv bothJwts
  refine ⟨reports, w', hrun, (trusted_isAbout_iff hreturned hdecode hrun).mpr (fun _ => ?_) rfl⟩
  -- The later statement is endorsed.
  obtain ⟨hverify, -⟩ := verifyStatements_of_cmdVerify hreturned hdecode hrun
  obtain ⟨stmt, hstmt, hafresh⟩ := hreport'
  obtain rfl := Except.ok.inj (hstmt.symm.trans tryFromJwt_aboutJwt)
  have hreported : report'.statement = aboutStatement :=
    statement_of_verifiedAfresh hafresh
  obtain ⟨stmt, hmem', hendorsed, rfl⟩ := (exists_verdict_iff hverify
    (P := fun stmt => stmt = aboutStatement)).mp ⟨report', hmem, hverdict, hreported⟩
  exact ⟨aboutStatement, hmem', hendorsed, isAbout_aboutStatement⟩

/-- Asked for the sample DID, the registry returns the first sample statement, and the sample DID is
trusted. -/
theorem trusted_not_isAbout :
    Returned issuerCrates (registryEnv [statementJwt]) ⟨∅, ∅, [], 0⟩ verifyArgs did issuer
        [statementJwt] 1735700000 (fun _ => registryAnswer [statementJwt]) ∧
      ∃ reports w', cmdVerify issuerCrates (registryEnv [statementJwt]) verifyArgs ⟨∅, ∅, [], 0⟩ =
          (.ok (.trusted, reports), w') ∧
        ¬ ∃ report ∈ reports, report.verdict = true ∧
          IsAbout issuerCrates did.toText report.statement := by
  obtain ⟨report, hreport, hverdict⟩ : ∃ report, VerifiedAlone issuerCrates
      (registryAnswer [statementJwt]) issuer 1735700000 statementJwt report ∧
        report.verdict = true :=
    exists_verifiedAlone tryFromJwt_statementJwt (by decide +kernel)
  obtain ⟨reports, w', hrun, -⟩ := exists_trusted
    (List.forall_mem_singleton.mpr ⟨report, hreport⟩) (List.mem_singleton.mpr rfl) hreport hverdict
  have hdecode : decodeStatements issuerCrates 1 [statementJwt] = .ok [statement] := by
    rw [decodeStatements, decodeStatements, tryFromJwt_statementJwt]
    rfl
  have hreturned := returned_registryEnv [statementJwt]
  obtain ⟨hverify, -⟩ := verifyStatements_of_cmdVerify hreturned hdecode hrun
  refine ⟨hreturned, reports, w', hrun, fun habout => ?_⟩
  obtain ⟨stmt, hmem, -, habout⟩ := (exists_verdict_iff hverify).mp habout
  obtain rfl := List.mem_singleton.mp hmem
  exact not_isAbout_statement habout

end Sample

end Swiyu
