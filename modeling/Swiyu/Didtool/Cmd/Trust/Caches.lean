import Swiyu.Didtool.Cmd.Trust.StatusLists

/-!
# Transparency of the caches

When every URL always has the same answer, the caches of a verification context hold what a fetch
would yield anyway. Then the statements of a run get the reports that each of them would get in a
context of its own.

## Main definitions

- `Swiyu.Trust.Coherent`: a context whose caches hold what would be fetched.
- `Swiyu.Trust.verifiedAfresh`: the verification of a statement in a fresh context.

## Main results

- `Swiyu.Trust.determined_verifyOne`: in coherent contexts a verification has one result.
- `Swiyu.Trust.verifyStatements_eq_mapM`: a run verifies each statement as if afresh.
- `Swiyu.Trust.caches_transparent`: for runs over statements that are verified without failure.
-/

namespace Swiyu

namespace Trust

variable (X : JoseCrates) (answer : Text → Response) (issuer : Text)

/-- The state before any verification. -/
def freshState : VerifyState := ⟨{ expectedIssuer := issuer }, []⟩

/-- Fetches and verifies the status list at `url`. -/
def fetchStatusList (server : Server) (url : Text) : Verification StatusList := do
  match ← fetch server { url } with
  | .notFound => Command.fail (.statusListMalformed url "registry returned 404")
  | .ok text => parseAndVerifyStatusList X server url (Text.trim text)

/-- The caches hold what would be fetched. -/
structure Coherent (s : VerifyState) : Prop where
  expected : s.ctx.expectedIssuer = issuer
  docs : ∀ did doc, s.ctx.issuerDocs.get did = some doc →
    (fetchIssuerDoc X (fun _ => answer) did (freshState issuer)).1 = .ok doc
  lists : ∀ url list, s.ctx.statusLists.get url = some list →
    (fetchStatusList X (fun _ => answer) url (freshState issuer)).1 = .ok list

/-- The report on a statement in a fresh context. -/
def verifiedAfresh (now : UInt64) (stmt : TrustStatement) : Except TrustError Report :=
  (verifyOne X (fun _ => answer) stmt now (freshState issuer)).1

/-- The trusted statements of some reports. -/
def trustedStatements (reports : List Report) : Set TrustStatement :=
  { stmt | ∃ report ∈ reports, report.verdict = true ∧ report.statement = stmt }

variable {X answer issuer} {didText url : Text}

theorem coherent_freshState : Coherent X answer issuer (freshState issuer) := by
  refine ⟨rfl, fun did doc h => ?_, fun url list h => ?_⟩
  · cases h
  · cases h

/-! ## Lookups -/

theorem loadIssuerDoc_eq_memo (server : Server) : loadIssuerDoc X server didText =
    Command.memo (fun s => s.ctx.issuerDocs.get didText) (cacheIssuerDoc didText)
      (fetchIssuerDoc X server didText) := by
  funext s
  rw [Command.memo_apply]
  simp only [loadIssuerDoc, bind, Command.read]
  cases s.ctx.issuerDocs.get didText with
  | some doc => rfl
  | none =>
    dsimp only
    rcases fetchIssuerDoc X server didText s with ⟨e | doc, s'⟩ <;> rfl

theorem loadStatusList_eq_memo (server : Server) : loadStatusList X server url =
    Command.memo (fun s => s.ctx.statusLists.get url) (cacheStatusList url)
      (fetchStatusList X server url) := by
  funext s
  rw [Command.memo_apply]
  simp only [loadStatusList, fetchStatusList, bind, Command.read]
  cases s.ctx.statusLists.get url with
  | some list => rfl
  | none =>
    dsimp only
    rcases fetch server { url } s with ⟨e | outcome, s₁⟩
    · rfl
    · cases outcome with
      | notFound => rfl
      | ok text =>
        dsimp only
        rcases parseAndVerifyStatusList X server url (Text.trim text) s₁ with ⟨e | list, s₂⟩ <;> rfl

/-- The answer to a request does not depend on when it is made. -/
theorem determined_fetch {request : Request} :
    (fetch (fun _ => answer) request).Determined (Coherent X answer issuer) :=
  ⟨fun _ hs => ⟨hs.expected, hs.docs, hs.lists⟩, fun _ _ _ _ => rfl⟩

theorem determined_fetchIssuerDoc :
    (fetchIssuerDoc X (fun _ => answer) didText).Determined (Coherent X answer issuer) := by
  refine .bind .ofExcept fun did => ?_
  refine .bind determined_fetch fun outcome => ?_
  cases outcome with
  | notFound => exact .fail
  | ok text => exact .bind .ofExcept fun log => .ofExcept

theorem determined_loadIssuerDoc :
    (loadIssuerDoc X (fun _ => answer) didText).Determined (Coherent X answer issuer) := by
  rw [loadIssuerDoc_eq_memo]
  refine determined_fetchIssuerDoc.memo coherent_freshState (fun s doc hs h => hs.docs _ _ h) ?_
  intro s doc hs hdoc
  refine ⟨hs.expected, fun did doc' h => ?_, hs.lists⟩
  by_cases hdid : did = didText
  · subst hdid
    obtain rfl : doc = doc' := by simpa [cacheIssuerDoc] using h
    exact hdoc
  · exact hs.docs did doc' (by simpa [cacheIssuerDoc, hdid] using h)

theorem determined_fetchStatusList :
    (fetchStatusList X (fun _ => answer) url).Determined (Coherent X answer issuer) := by
  refine .bind determined_fetch fun outcome => ?_
  cases outcome with
  | notFound => exact .fail
  | ok text =>
    refine .bind .ofExcept fun jwt => ?_
    refine .bind (.read fun s s' hs hs' => hs.expected.trans hs'.expected.symm) fun expected => ?_
    refine .bind .ofExcept fun kid => ?_
    exact .bind determined_loadIssuerDoc fun doc => .ofExcept

theorem determined_loadStatusList :
    (loadStatusList X (fun _ => answer) url).Determined (Coherent X answer issuer) := by
  rw [loadStatusList_eq_memo]
  refine determined_fetchStatusList.memo coherent_freshState (fun s list hs h => hs.lists _ _ h) ?_
  intro s list hs hlist
  refine ⟨hs.expected, hs.docs, fun url' list' h => ?_⟩
  by_cases hurl : url' = url
  · subst hurl
    obtain rfl : list = list' := by simpa [cacheStatusList] using h
    exact hlist
  · exact hs.lists url' list' (by simpa [cacheStatusList, hurl] using h)

/-! ## Verifications -/

variable {stmt : TrustStatement} {now : UInt64}

theorem determined_verifySignature :
    (verifySignature X (fun _ => answer) stmt).Determined (Coherent X answer issuer) := by
  refine .ite .pure ?_
  cases Text.splitOnce '#' stmt.kid with
  | none => exact .pure
  | some parts => exact .bind determined_loadIssuerDoc fun doc => .pure

theorem determined_checkStatus :
    (checkStatus X (fun _ => answer) stmt).Determined (Coherent X answer issuer) := by
  rw [checkStatus]
  cases stmt.status with
  | none => exact .pure
  | some info =>
    refine .bind determined_loadStatusList fun list => ?_
    exact .bind .ofExcept fun value => .pure

/-- In every coherent context the verification of a statement ends in the same report or error. -/
theorem determined_verifyOne :
    (verifyOne X (fun _ => answer) stmt now).Determined (Coherent X answer issuer) := by
  refine .bind (.read fun s s' hs hs' => hs.expected.trans hs'.expected.symm) fun expected => ?_
  refine .bind (.ite determined_verifySignature .pure) fun check => ?_
  exact .bind (.ite determined_checkStatus .pure) fun status => .pure

/-- A verification in a coherent context, as one in a fresh context and a coherent context left. -/
theorem verifyOne_of_coherent {s : VerifyState} (hs : Coherent X answer issuer s) :
    (verifyOne X (fun _ => answer) stmt now s).1 = verifiedAfresh X answer issuer now stmt ∧
      Coherent X answer issuer (verifyOne X (fun _ => answer) stmt now s).2 :=
  ⟨determined_verifyOne.2 s _ hs coherent_freshState, determined_verifyOne.1 s hs⟩

/-! ## Runs -/

/-- The first failure of a run is the first one that there is afresh, and without a failure the
reports are the same. -/
theorem verifyStatements_eq_mapM (stmts : List TrustStatement) {s : VerifyState}
    (hs : Coherent X answer issuer s) :
    (verifyStatements X (fun _ => answer) now stmts s).1 =
      stmts.mapM (verifiedAfresh X answer issuer now) := by
  induction stmts generalizing s with
  | nil => rfl
  | cons stmt stmts ih =>
    obtain ⟨hresult, hcoherent⟩ : (verifyOne X (fun _ => answer) stmt now s).1 = _ ∧ _ :=
      verifyOne_of_coherent hs
    rw [List.mapM_cons, ← hresult]
    rcases hone : verifyOne X (fun _ => answer) stmt now s with ⟨e | report, s'⟩
    · simp only [verifyStatements, bind, hone]
      rfl
    · rw [hone] at hcoherent
      rw [← ih hcoherent]
      simp only [verifyStatements, bind, hone]
      rcases verifyStatements X (fun _ => answer) now stmts s' with ⟨e | reports, s''⟩ <;> rfl

/-- The statements trusted in a run are those trusted afresh. -/
theorem mem_trustedStatements_iff {stmts : List TrustStatement} {reports : List Report}
    (h : List.Forall₂ (fun stmt report => verifiedAfresh X answer issuer now stmt = .ok report)
      stmts reports) {trusted : TrustStatement} :
    trusted ∈ trustedStatements reports ↔
      ∃ stmt ∈ stmts, ∃ report, verifiedAfresh X answer issuer now stmt = .ok report ∧
        report.verdict = true ∧ report.statement = trusted := by
  induction h with
  | nil => simp [trustedStatements]
  | @cons stmt report stmts reports hreport hreports ih =>
    have hcons : trusted ∈ trustedStatements (report :: reports) ↔
        (report.verdict = true ∧ report.statement = trusted) ∨
          trusted ∈ trustedStatements reports := by
      simp [trustedStatements]
    rw [hcons, ih]
    simp [hreport]

/-- When every URL has one answer, statements that are verified without failure in contexts of their
own get the same checks and verdicts in a run with one context; and which of them are trusted does
not depend on their order. -/
theorem caches_transparent (stmts : List TrustStatement) (now : UInt64)
    (h : ∀ stmt ∈ stmts, ∃ report, verifiedAfresh X answer issuer now stmt = .ok report) :
    ∃ reports,
      (verifyStatements X (fun _ => answer) now stmts (freshState issuer)).1 = .ok reports ∧
      List.Forall₂ (fun stmt report => verifiedAfresh X answer issuer now stmt = .ok report)
        stmts reports ∧
      ∀ stmts', stmts'.Perm stmts → ∃ reports',
        (verifyStatements X (fun _ => answer) now stmts' (freshState issuer)).1 = .ok reports' ∧
        trustedStatements reports' = trustedStatements reports := by
  obtain ⟨reports, hreports⟩ := Except.exists_mapM_eq_ok h
  have hforall := Except.mapM_eq_ok_iff.mp hreports
  refine ⟨reports, (verifyStatements_eq_mapM stmts coherent_freshState).trans hreports, hforall,
    fun stmts' hperm => ?_⟩
  obtain ⟨reports', hreports'⟩ :=
    Except.exists_mapM_eq_ok fun stmt hstmt => h stmt (hperm.mem_iff.mp hstmt)
  refine ⟨reports', (verifyStatements_eq_mapM stmts' coherent_freshState).trans hreports', ?_⟩
  ext trusted
  rw [mem_trustedStatements_iff (Except.mapM_eq_ok_iff.mp hreports'),
    mem_trustedStatements_iff hforall]
  simp only [hperm.mem_iff]

end Trust

namespace Sample

open Trust

/-- A statement in the name of another issuer. -/
def foreignStatement : TrustStatement := { statement with iss := did.toText }

theorem exists_verifiedAfresh {stmt : TrustStatement} (verdict : Bool)
    (h : (verifiedAfresh issuerCrates answer issuer 1735700000 stmt).toOption.map Report.verdict =
      some verdict) :
    ∃ report, verifiedAfresh issuerCrates answer issuer 1735700000 stmt = .ok report := by
  cases hverify : verifiedAfresh issuerCrates answer issuer 1735700000 stmt with
  | error e =>
    rw [hverify] at h
    cases h
  | ok report => exact ⟨report, rfl⟩

/-- The sample statement, one in the name of another issuer, and the sample statement again: in both
orders the same statements are trusted. -/
theorem caches_transparent_statements : ∃ reports reports',
    (verifyStatements issuerCrates (fun _ => answer) 1735700000
      [statement, foreignStatement, statement] (freshState issuer)).1 = .ok reports ∧
    (verifyStatements issuerCrates (fun _ => answer) 1735700000
      [foreignStatement, statement, statement] (freshState issuer)).1 = .ok reports' ∧
    trustedStatements reports' = trustedStatements reports := by
  have hok : ∀ stmt ∈ [statement, foreignStatement, statement],
      ∃ report, verifiedAfresh issuerCrates answer issuer 1735700000 stmt = .ok report := by
    simp only [List.mem_cons, List.not_mem_nil, or_false, forall_eq_or_imp, forall_eq]
    refine ⟨?_, ?_, ?_⟩
    · exact exists_verifiedAfresh true (by decide +kernel)
    · exact exists_verifiedAfresh false (by decide +kernel)
    · exact exists_verifiedAfresh true (by decide +kernel)
  obtain ⟨reports, hreports, -, hperm⟩ := caches_transparent _ _ hok
  obtain ⟨reports', hreports', hsame⟩ := hperm [foreignStatement, statement, statement] (.swap ..)
  exact ⟨reports, reports', hreports, hreports', hsame⟩

end Sample

end Swiyu
