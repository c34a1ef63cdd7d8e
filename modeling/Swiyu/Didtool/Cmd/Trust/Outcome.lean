import Swiyu.Didtool.Cmd.Trust.IssuerDocs
import Swiyu.Lib.Json.Plain

/-!
# The outcome of a verification

A verification gives a verdict only when none of the statements fails; then the verdict is that some
statement is trusted. A single statement that is malformed, whose issuer is not resolved or whose
status list is not available leaves the others without a verdict, wherever in the list it is.

## Main definitions

- `Swiyu.Trust.Answered`: the answers to a command, one for each URL.
- `Swiyu.Trust.VerifiedAlone`: what the verification of a statement alone reports.

## Main results

- `Swiyu.Trust.cmdVerify_outcome_iff`: the outcome, from those of the single statements.
-/

namespace Swiyu

open Json

namespace Trust

variable (X : JoseCrates)

/-- Every URL has one answer, among them that of the registry with the statements for the DID; the
clock shows `now` once they are there. -/
structure Answered (env : Env) (w : World) (args : VerifyArgs) (answer : Text → Response)
    (issuer : Text) (array : List Text) (now : UInt64) : Prop where
  server : ∀ n, env.server n = answer
  issuer : args.trustIssuer = some issuer
  query : ∃ baseUrl did w₁, args.trustRegistryUrl = some baseUrl ∧
    resolveDid env args.did w = (.ok did, w₁) ∧
    statementsOfResponse X.toCrates (answer (trustEndpoint baseUrl did)) = .ok array ∧
    UInt64.ofNat (env.clock w₁.ticked.tick / 1000000000).toNat = now

/-- Alone, with a fresh context, the statement is decoded and verified with this report. -/
def VerifiedAlone (answer : Text → Response) (issuer : Text) (now : UInt64) (jwt : Text)
    (report : Report) : Prop :=
  ∃ stmt, TrustStatement.tryFromJwt X jwt = .ok stmt ∧
    verifiedAfresh X answer issuer now stmt = .ok report

/-- What the statements alone report, the newest first, or the first failure. -/
def verifiedEach (answer : Text → Response) (issuer : Text) (now : UInt64) (array : List Text) :
    Except TrustError (List Report) := do
  let stmts ← decodeStatements X 1 array
  (newestFirst stmts).mapM (verifiedAfresh X answer issuer now)

/-- The verdict on some reports. -/
def verdictOf (reports : List Report) : VerifyOutcome :=
  if 0 < reports.countP Report.verdict then .trusted else .untrusted

variable {X} {env : Env} {w : World} {args : VerifyArgs} {answer : Text → Response}
  {issuer : Text} {array : List Text} {now : UInt64}

theorem verdictOf_eq_trusted_iff {reports : List Report} :
    verdictOf reports = .trusted ↔ ∃ report ∈ reports, report.verdict = true := by
  rw [← List.countP_pos_iff, verdictOf]
  split_ifs with h <;> simp [h]

/-! ## Single statements -/

/-- Statements are decoded one by one. -/
theorem decodeStatements_eq_ok_iff {n : ℕ} {jwts : List Text} {stmts : List TrustStatement} :
    decodeStatements X n jwts = .ok stmts ↔
      jwts.mapM (TrustStatement.tryFromJwt X) = .ok stmts := by
  rw [Except.mapM_eq_ok_iff]
  induction jwts generalizing n stmts with
  | nil =>
    rw [List.forall₂_nil_left_iff]
    show Except.ok [] = .ok stmts ↔ _
    rw [Except.ok.injEq, eq_comm]
  | cons jwt jwts ih =>
    unfold decodeStatements
    simp only [Except.bind_eq_ok_iff, Except.mapError_eq_ok_iff, List.forall₂_cons_left_iff, ih]
    constructor
    · rintro ⟨stmt, hstmt, rest, hrest, h⟩
      exact ⟨stmt, rest, hstmt, hrest, (Except.ok.inj h).symm⟩
    · rintro ⟨stmt, rest, hstmt, hrest, h⟩
      exact ⟨stmt, hstmt, rest, hrest, congrArg Except.ok h.symm⟩

/-- The reports are those on the statements. -/
theorem mem_of_verifiedEach {reports : List Report}
    (h : verifiedEach X answer issuer now array = .ok reports) {report : Report} :
    report ∈ reports ↔ ∃ jwt ∈ array, VerifiedAlone X answer issuer now jwt report := by
  obtain ⟨stmts, hstmts, hreports⟩ := Except.bind_eq_ok_iff.mp h
  rw [Except.mem_of_mapM_eq_ok hreports]
  have hmem (stmt : TrustStatement) : stmt ∈ newestFirst stmts ↔
      ∃ jwt ∈ array, TrustStatement.tryFromJwt X jwt = .ok stmt := by
    rw [newestFirst, List.mem_mergeSort]
    exact Except.mem_of_mapM_eq_ok (decodeStatements_eq_ok_iff.mp hstmts)
  constructor
  · rintro ⟨stmt, hstmt, hreport⟩
    obtain ⟨jwt, hjwt, hdecode⟩ := (hmem stmt).mp hstmt
    exact ⟨jwt, hjwt, stmt, hdecode, hreport⟩
  · rintro ⟨jwt, hjwt, stmt, hdecode, hreport⟩
    exact ⟨stmt, (hmem stmt).mpr ⟨jwt, hjwt, hdecode⟩, hreport⟩

/-- There are reports when there is one for every statement. -/
theorem exists_verifiedEach_iff :
    (∃ reports, verifiedEach X answer issuer now array = .ok reports) ↔
      ∀ jwt ∈ array, ∃ report, VerifiedAlone X answer issuer now jwt report := by
  constructor
  · rintro ⟨reports, h⟩ jwt hjwt
    obtain ⟨stmts, hstmts, hreports⟩ := Except.bind_eq_ok_iff.mp h
    have hdecode := decodeStatements_eq_ok_iff.mp hstmts
    obtain ⟨stmt, hstmt⟩ := Except.exists_mapM_eq_ok_iff.mp ⟨_, hdecode⟩ jwt hjwt
    -- Sorting drops no statement.
    have hmem : stmt ∈ newestFirst stmts := by
      rw [newestFirst, List.mem_mergeSort, Except.mem_of_mapM_eq_ok hdecode]
      exact ⟨jwt, hjwt, hstmt⟩
    obtain ⟨report, hreport⟩ := Except.exists_mapM_eq_ok_iff.mp ⟨_, hreports⟩ stmt hmem
    exact ⟨report, stmt, hstmt, hreport⟩
  · intro h
    -- Every statement is decoded, and then every decoded statement is verified.
    obtain ⟨stmts, hstmts⟩ : ∃ stmts, array.mapM (TrustStatement.tryFromJwt X) = .ok stmts := by
      refine Except.exists_mapM_eq_ok_iff.mpr fun jwt hjwt => ?_
      obtain ⟨_, stmt, hstmt, _⟩ := h jwt hjwt
      exact ⟨stmt, hstmt⟩
    obtain ⟨reports, hreports⟩ : ∃ reports,
        (newestFirst stmts).mapM (verifiedAfresh X answer issuer now) = .ok reports := by
      refine Except.exists_mapM_eq_ok_iff.mpr fun stmt hstmt => ?_
      rw [newestFirst, List.mem_mergeSort, Except.mem_of_mapM_eq_ok hstmts] at hstmt
      obtain ⟨jwt, hjwt, hdecode⟩ := hstmt
      obtain ⟨report, stmt', hdecode', hreport⟩ := h jwt hjwt
      obtain rfl := Except.ok.inj (hdecode.symm.trans hdecode')
      exact ⟨report, hreport⟩
    exact ⟨reports, Except.bind_eq_ok_iff.mpr
      ⟨stmts, decodeStatements_eq_ok_iff.mpr hstmts, hreports⟩⟩

/-! ## The command -/

/-- The command ends as the statements do alone. -/
theorem fst_cmdVerify (h : Answered X env w args answer issuer array now) :
    (cmdVerify X env args w).1 = (verifiedEach X answer issuer now array).map
      fun reports => (verdictOf reports, reports) := by
  obtain ⟨baseUrl, did, w₁, hurl, hdid, harray, hnow⟩ := h.query
  have hfetch : (fetchTrustStatements X.toCrates env baseUrl did).mapError TrustError.registry w₁ =
      (.ok array, w₁.ticked) := by
    simp only [fetchTrustStatements, Command.mapError_eq_ok_iff, Command.bind_eq_ok_iff,
      Command.ofExcept_eq_ok_iff, Os.get_eq_ok_iff, h.server]
    exact ⟨_, _, ⟨rfl, rfl⟩, harray, rfl⟩
  -- The query is asked once, and its answer is the array of statements.
  unfold cmdVerify
  rw [Command.bind_of_eq_ok (show _ = (Except.ok baseUrl, w) by simp [hurl]),
    Command.bind_of_eq_ok (show _ = (Except.ok issuer, w) by simp [h.issuer]),
    Command.bind_of_eq_ok (show _ = (Except.ok did, w₁) by simp [hdid]),
    Command.bind_of_eq_ok hfetch]
  split_ifs with hempty
  · -- Without statements there is nothing to verify.
    subst hempty
    have hnone : verifiedEach X answer issuer now [] = .ok [] := by
      simp [verifiedEach, decodeStatements, newestFirst, pure, Except.pure]
    rw [hnone]
    rfl
  · unfold verifiedEach
    -- All statements are decoded before the first of them is verified.
    cases hstmts : decodeStatements X 1 array with
    | error e => rfl
    | ok stmts =>
      rw [Command.bind_of_eq_ok (Command.ofExcept_eq_ok_iff.mpr ⟨rfl, rfl⟩),
        Command.bind_of_eq_ok (Os.unixSeconds_eq_ok_iff.mpr ⟨hnow, rfl⟩), Except.ok_bind]
      -- The shared caches give the same reports as a fresh run for each statement.
      have hrun : (withContext env issuer (fun server =>
          verifyStatements X server now (newestFirst stmts)) w₁.ticked.ticked).1 =
            (newestFirst stmts).mapM (verifiedAfresh X answer issuer now) := by
        rw [← verifyStatements_eq_mapM _ coherent_freshState]
        unfold withContext
        simp only [h.server]
        rfl
      rw [← hrun]
      simp only [bind]
      rcases withContext env issuer (fun server =>
        verifyStatements X server now (newestFirst stmts)) w₁.ticked.ticked with ⟨e | reports, w₂⟩
      · rfl
      · dsimp only [Except.map, verdictOf]
        split_ifs <;> rfl

/-- The command gives a verdict exactly when every statement alone is decoded and verified without
failure, and then the DID is trusted exactly when some statement alone is. -/
theorem cmdVerify_outcome_iff (h : Answered X env w args answer issuer array now)
    (outcome : VerifyOutcome) :
    (∃ reports w', cmdVerify X env args w = (.ok (outcome, reports), w')) ↔
      (∀ jwt ∈ array, ∃ report, VerifiedAlone X answer issuer now jwt report) ∧
      (outcome = .trusted ↔ ∃ jwt ∈ array, ∃ report,
        VerifiedAlone X answer issuer now jwt report ∧ report.verdict = true) := by
  -- The command gives the verdict of the reports that the statements have alone.
  have hcmd : (∃ reports w', cmdVerify X env args w = (.ok (outcome, reports), w')) ↔
      ∃ reports, verifiedEach X answer issuer now array = .ok reports ∧
        verdictOf reports = outcome := by
    constructor
    · rintro ⟨reports, w', hverify⟩
      have hfst := congrArg Prod.fst hverify
      rw [fst_cmdVerify h, Except.map_eq_ok_iff] at hfst
      obtain ⟨_, hreports, heq⟩ := hfst
      obtain ⟨houtcome, rfl⟩ := Prod.mk.inj heq
      exact ⟨_, hreports, houtcome⟩
    · rintro ⟨reports, hreports, houtcome⟩
      refine ⟨reports, _, Command.eq_ok_of_fst_eq ?_⟩
      rw [fst_cmdVerify h, hreports, ← houtcome]
      rfl
  -- There are two outcomes.
  have houtcome (reports : List Report) : verdictOf reports = outcome ↔
      (outcome = .trusted ↔ ∃ report ∈ reports, report.verdict = true) := by
    rw [← verdictOf_eq_trusted_iff]
    cases outcome <;> cases verdictOf reports <;> decide
  -- A report is one of these just when some statement has it alone.
  have htrusted {reports : List Report}
      (hreports : verifiedEach X answer issuer now array = .ok reports) :
      (∃ report ∈ reports, report.verdict = true) ↔ ∃ jwt ∈ array, ∃ report,
        VerifiedAlone X answer issuer now jwt report ∧ report.verdict = true := by
    simp only [mem_of_verifiedEach hreports]
    constructor
    · rintro ⟨report, ⟨jwt, hjwt, halone⟩, hverdict⟩
      exact ⟨jwt, hjwt, report, halone, hverdict⟩
    · rintro ⟨jwt, hjwt, report, halone, hverdict⟩
      exact ⟨report, ⟨jwt, hjwt, halone⟩, hverdict⟩
  rw [hcmd, ← exists_verifiedEach_iff]
  constructor
  · rintro ⟨reports, hreports, hverdict⟩
    exact ⟨⟨reports, hreports⟩, ((houtcome reports).mp hverdict).trans (htrusted hreports)⟩
  · rintro ⟨⟨reports, hreports⟩, hverdict⟩
    exact ⟨reports, hreports, (houtcome reports).mpr (hverdict.trans (htrusted hreports).symm)⟩

/-- A DID is not mistaken for the hash of a key-store entry. -/
theorem isHash_of_fromStr {target : Text} {did : DID} (h : DID.fromStr target = .ok did) :
    isHash target = false := by
  have hhead : target[1]? = some 'i' := by
    rw [DID.fromStr] at h
    split at h
    next rest hrest =>
      rw [Text.stripPrefix_eq_some_iff.mp hrest]
      rfl
    next =>
      split at h
      next rest hrest =>
        rw [Text.stripPrefix_eq_some_iff.mp hrest]
        rfl
      next => cases h
  have hmem : 'i' ∈ target := List.mem_of_getElem? hhead
  have hall : target.all isAsciiHexDigit = false := by
    rw [List.all_eq_false]
    exact ⟨'i', hmem, by decide⟩
  rw [isHash, hall, Bool.and_false]

/-- A registry that answers with a list of statements returns them. -/
theorem statementsOfResponse_strings (jwts : List Text) : statementsOfResponse X.toCrates
    (.answered 200 (.text ((Value.strings jwts).print X.f64))) = .ok jwts := by
  have hparse : Json.parse X.f64 ((Value.strings jwts).print X.f64) = some (Value.strings jwts) :=
    (Value.PlainWithin.strings 0 jwts).parse_print X.f64 (by decide)
  have hmapM : (jwts.map Value.string).mapM Value.asStr = some jwts := by
    clear hparse
    induction jwts with
    | nil => rfl
    | cons jwt jwts ih =>
      rw [List.map_cons, List.mapM_cons, ih]
      rfl
  have hbody : statementsOfText X.toCrates ((Value.strings jwts).print X.f64) = .ok jwts := by
    rw [statementsOfText, hparse, Option.bind_some, Value.strings, Value.asArray, Option.bind_some,
      hmapM]
    rfl
  simp [statementsOfResponse, hbody]

end Trust

/-! ## A registry with a malformed statement -/

namespace Sample

open Trust

/-- The wire forms of the sample statements. -/
def statementJwt : Text :=
  issuerInput statementPayload ++ '.' :: Base64Url.encode statementSignature

def aboutJwt : Text := issuerInput aboutPayload ++ '.' :: Base64Url.encode aboutSignature

theorem tryFromJwt_statementJwt :
    TrustStatement.tryFromJwt issuerCrates statementJwt = .ok statement := by
  decide +kernel

theorem tryFromJwt_aboutJwt :
    TrustStatement.tryFromJwt issuerCrates aboutJwt = .ok aboutStatement := by
  decide +kernel

/-- Arguments that ask for statements about the sample DID by the issuer. -/
def verifyArgs : VerifyArgs where
  did := did.toText
  trustRegistryUrl := some "https://t.ch"
  trustIssuer := some issuer

/-- The answers when the registry returns these statements for the sample DID. -/
def registryAnswer (jwts : List Text) (url : Text) : Response :=
  if url = trustEndpoint "https://t.ch" did then
    .answered 200 (.text ((Value.strings jwts).print issuerCrates.f64))
  else answer url

/-- The environment with these answers. -/
def registryEnv (jwts : List Text) : Env :=
  .calm (fun _ => registryAnswer jwts) (1735700000 * 1000000000)

theorem answered_registryEnv (jwts : List Text) :
    Answered issuerCrates (registryEnv jwts) ⟨∅, ∅, [], 0⟩ verifyArgs (registryAnswer jwts) issuer
      jwts 1735700000 := by
  refine ⟨fun _ => rfl, rfl, "https://t.ch", did, ⟨∅, ∅, [], 0⟩, rfl, ?_, ?_, rfl⟩
  · simp [verifyArgs, resolveDid, isHash_of_fromStr fromStr_did, fromStr_did]
  · rw [registryAnswer, if_pos rfl, statementsOfResponse_strings]

/-- A statement that has a verdict alone, whatever else the registry returns. -/
theorem exists_verifiedAlone {jwts : List Text} {jwt : Text} {stmt : TrustStatement}
    {verdict : Bool} (hdecode : TrustStatement.tryFromJwt issuerCrates jwt = .ok stmt)
    (h : (verifiedAfresh issuerCrates (registryAnswer jwts) issuer 1735700000
      stmt).toOption.map Report.verdict = some verdict) : ∃ report,
    VerifiedAlone issuerCrates (registryAnswer jwts) issuer 1735700000 jwt report ∧
      report.verdict = verdict := by
  obtain ⟨report, hreport, hverdict⟩ := Option.map_eq_some_iff.mp h
  exact ⟨report, ⟨stmt, hdecode, Except.toOption_eq_some_iff.mp hreport⟩, hverdict⟩

/-- What the registry returns in the following sample: two statements of the issuer. -/
def bothJwts : List Text := [statementJwt, aboutJwt]

theorem exists_verifiedAlone_bothJwts : ∀ jwt ∈ bothJwts, ∃ report,
    VerifiedAlone issuerCrates (registryAnswer bothJwts) issuer 1735700000 jwt report ∧
      report.verdict = true := by
  simp only [bothJwts, List.mem_cons, List.not_mem_nil, or_false, forall_eq_or_imp, forall_eq]
  exact ⟨exists_verifiedAlone tryFromJwt_statementJwt (by decide +kernel),
    exists_verifiedAlone tryFromJwt_aboutJwt (by decide +kernel)⟩

/-- With both sample statements the sample DID is trusted. -/
theorem trusted_statementJwt : ∃ reports w',
    cmdVerify issuerCrates (registryEnv bothJwts) verifyArgs ⟨∅, ∅, [], 0⟩ =
      (.ok (.trusted, reports), w') := by
  have hmem : statementJwt ∈ bothJwts := List.mem_cons_self
  obtain ⟨report, hreport, hverdict⟩ := exists_verifiedAlone_bothJwts statementJwt hmem
  apply (cmdVerify_outcome_iff (answered_registryEnv _) _).mpr
  refine ⟨fun jwt hjwt => ?_, fun _ => ⟨_, hmem, report, hreport, hverdict⟩, fun _ => rfl⟩
  obtain ⟨report, hreport, -⟩ := exists_verifiedAlone_bothJwts jwt hjwt
  exact ⟨report, hreport⟩

/-- With a malformed statement before it, the DID is not. -/
theorem not_trusted_malformed : ¬ ∀ env w args answer issuer array now,
    Answered issuerCrates env w args answer issuer array now →
      ((∃ reports w', cmdVerify issuerCrates env args w = (.ok (.trusted, reports), w')) ↔
        ∃ jwt ∈ array, ∃ report, VerifiedAlone issuerCrates answer issuer now jwt report ∧
          report.verdict = true) := by
  intro h
  have hanswered := answered_registryEnv [[], statementJwt]
  obtain ⟨report, hreport⟩ : ∃ report, VerifiedAlone issuerCrates
      (registryAnswer [[], statementJwt]) issuer 1735700000 statementJwt report ∧
        report.verdict = true :=
    exists_verifiedAlone tryFromJwt_statementJwt (by decide +kernel)
  obtain ⟨reports, w', hverify⟩ := (h _ _ _ _ _ _ _ hanswered).mpr
    ⟨statementJwt, by simp, report, hreport⟩
  have hfst := congrArg Prod.fst hverify
  rw [fst_cmdVerify hanswered, Except.map_eq_ok_iff] at hfst
  obtain ⟨_, hreports, -⟩ := hfst
  -- The first statement is not decoded.
  obtain ⟨_, stmt, hstmt, -⟩ := exists_verifiedEach_iff.mp ⟨_, hreports⟩ [] List.mem_cons_self
  have hmalformed : (TrustStatement.tryFromJwt issuerCrates []).toOption.isSome = false := by
    decide +kernel
  rw [hstmt] at hmalformed
  cases hmalformed

end Sample

end Swiyu
