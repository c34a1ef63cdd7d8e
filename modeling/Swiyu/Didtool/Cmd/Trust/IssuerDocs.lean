import Swiyu.Core.DidLog.Wire
import Swiyu.Didtool.Cmd.Trust.Requests

/-!
# Cached issuer documents

The documents of issuers are cached under their DIDs. They are taken from the log that is served for
the DID, which nobody verifies: the cache is as good as the logs it has been filled from.

## Main definitions

- `Swiyu.Trust.GenuineCache`: every cached document comes from a log that the verifier accepts.
- `Swiyu.Trust.LogsAccepted`: every log that has been served for a DID and ends in a document is one
  that the verifier accepts for the DID.

## Main results

- `Swiyu.Trust.genuineCache_iff`: in every run, the one holds just when the other does.
-/

namespace Swiyu

open Json

/-- The `id` of a parsed document is that of its JSON form. -/
theorem DIDDoc.get_id_of_tryFromJson {X : Crates} {v : Value} {doc : DIDDoc}
    (h : DIDDoc.tryFromJson X v = .ok doc) : v.get "id" = some (.string doc.id) := by
  simp only [tryFromJson, requiredString, Except.bind_eq_ok_iff, Option.okOr_eq_ok_iff] at h
  obtain ⟨obj, hobj, _, _, id, ⟨idValue, hget, hid⟩, h⟩ := h
  obtain rfl : id = doc.id := by
    obtain ⟨_, _, _, _, _, _, _, _, _, _, _, _, _, _, _, _, _, _, h⟩ := h
    cases h
    rfl
  rw [Value.get, hobj, Option.bind_some, hget, Value.asStr_eq_some_iff.mp hid]

namespace Trust

variable (X : JoseCrates) (server : Server)

/-- Every cached document ends a log that was served for its DID and that the verifier accepts for
the DID; and the document is about the DID. -/
def GenuineCache (s : VerifyState) : Prop :=
  ∀ didText doc, s.ctx.issuerDocs.get didText = some doc →
    ∃ did log, ServedLog X server s didText did log ∧ docOfLog X didText log = .ok doc ∧
      verifyLog X.toCrates log did = .ok () ∧ doc.id = didText

/-- The verifier accepts for a DID every log that was served for it and that ends in a document. -/
def LogsAccepted (s : VerifyState) : Prop :=
  ∀ didText did log doc, ServedLog X server s didText did log → docOfLog X didText log = .ok doc →
    verifyLog X.toCrates log did = .ok ()

variable {X server} {didText issuer : Text} {doc : DIDDoc} {log : DIDLog} {did : DID}
  {s : VerifyState}

/-- The document in the last entry of an accepted log is about the DID. -/
theorem id_of_verifyLog (hdid : DID.fromStr didText = .ok did)
    (hlog : verifyLog X.toCrates log did = .ok ()) (hdoc : docOfLog X didText log = .ok doc) :
    doc.id = didText := by
  obtain ⟨scid, hscid, hauth⟩ := verifyLog_eq_ok_iff_authentic.mp hlog
  simp only [docOfLog, Except.bind_eq_ok_iff, Option.okOr_eq_ok_iff,
    Except.mapError_eq_ok_iff] at hdoc
  obtain ⟨last, hlast, docValue, hstate, hparse⟩ := hdoc
  obtain ⟨subject, hsubject, hid⟩ := hauth.subject last (List.mem_of_getLast? hlast)
  rw [hsubject] at hstate
  cases hstate
  have hsame := (DIDDoc.get_id_of_tryFromJson hparse).symm.trans hid
  rw [DID.toText_of_fromStr hdid (by simp [hscid])] at hsame
  simpa using hsame

/-- A request is answered once: the logs that were served for a DID are one log. -/
theorem ServedLog.eq {did' : DID} {log' : DIDLog} (hnodup : s.requests.Nodup)
    (h : ServedLog X server s didText did log) (h' : ServedLog X server s didText did' log') :
    did = did' ∧ log = log' := by
  obtain ⟨n, text, hn, hdid, hfetch, hlog⟩ := h
  obtain ⟨n', text', hn', hdid', hfetch', hlog'⟩ := h'
  obtain rfl := Except.ok.inj (hdid.symm.trans hdid')
  obtain rfl : n = n' :=
    (List.getElem?_inj (List.getElem?_eq_some_iff.mp hn).1 hnodup).mp (hn.trans hn'.symm)
  cases hfetch.symm.trans hfetch'
  exact ⟨rfl, Except.ok.inj (hlog.symm.trans hlog')⟩

/-- Where the documents that were served are those in the cache, the cache is genuine just when the
logs that were served are accepted. -/
theorem genuineCache_iff_of_recorded (hvouched : Vouched X server s)
    (hrecorded : Recorded X server s) : GenuineCache X server s ↔ LogsAccepted X server s := by
  constructor
  · intro h didText did log doc hserved hdoc
    obtain ⟨did', log', hserved', -, haccepted, -⟩ :=
      h didText doc (hrecorded.served didText doc ⟨did, log, hserved, hdoc⟩)
    obtain ⟨rfl, rfl⟩ := hserved.eq hrecorded.nodup hserved'
    exact haccepted
  · intro h didText doc hcached
    obtain ⟨did, log, hserved, hdoc⟩ := hvouched.docs didText doc hcached
    have haccepted := h didText did log doc hserved hdoc
    obtain ⟨n, text, -, hdid, -⟩ := id hserved
    exact ⟨did, log, hserved, hdoc, haccepted, id_of_verifyLog hdid haccepted hdoc⟩

/-- In a run over any statements, started with empty caches and whatever comes of it, every cached
document is the genuine one of its DID just when the verifier accepts for a DID every log that the
run was served for it. -/
theorem genuineCache_iff (server : Server) (stmts : List TrustStatement) (now : UInt64)
    (issuer : Text) :
    GenuineCache X server (verifyStatements X server now stmts (freshState issuer)).2 ↔
      LogsAccepted X server (verifyStatements X server now stmts (freshState issuer)).2 :=
  genuineCache_iff_of_recorded (vouched_verifyStatements stmts now issuer)
    (recorded_verifyStatements stmts now issuer)

end Trust

/-! ## Sample servers -/

namespace Sample

open Trust

/-- The text of the sample log. -/
def genesisText : Text := genesis.toJson.print crates.f64 ++ ['\n']

/-- The text of a log that no key has signed, about another DID. -/
def forgedText : Text := Text.lit ("[\"1-x\",\"2025-01-01T00:00:00Z\",\x7b\x7d," ++
  "\x7b\"value\":\x7b\"@context\":[],\"id\":\"did:tdw:e:e.ch\"\x7d\x7d,[]]")

/-- A server that has one answer. -/
def serverOf (text : Text) : Server := fun _ _ => .answered 200 (.text text)

/-- A statement that the owner of the sample log has not signed. -/
def unsigned : TrustStatement := { impostor with kid := did.toText ++ "#k", signature := [] }

/-- The sample log as it is read back: with an explicit `portable`. -/
def genesisAsRead : DIDLogEntry :=
  { genesis with parameters := genesisParameters.asRead .tdw03 }

theorem fromStr_did : DID.fromStr did.toText = .ok did := by decide +kernel

/-- The sample log is parsed and accepted. -/
theorem verifyLog_genesisText :
    DIDLog.tryFromJsonl crates genesisText = .ok ⟨[genesisAsRead]⟩ ∧
      verifyLog crates ⟨[genesisAsRead]⟩ did = .ok () := by
  decide +kernel

/-- The state in which a run over the unsigned statement ends. -/
def unsignedRun (server : Server) : VerifyState :=
  (verifyStatements joseCrates server 1735700000 [unsigned] (freshState did.toText)).2

/-- Served the accepted sample log, a run caches its document. -/
theorem genuineCache_genesisText :
    GenuineCache joseCrates (serverOf genesisText) (unsignedRun (serverOf genesisText)) ∧
      ((unsignedRun (serverOf genesisText)).ctx.issuerDocs.get did.toText).isSome = true := by
  refine ⟨(genuineCache_iff _ _ _ _).mpr ?_, by decide +kernel⟩
  rintro didText did' log doc ⟨n, text, hn, hdid, hfetch, hlog⟩ -
  have hrequests : (unsignedRun (serverOf genesisText)).requests = [⟨did.logUrl, did.toText⟩] := by
    decide +kernel
  have hmem := List.mem_of_getElem? hn
  rw [← unsignedRun, hrequests, List.mem_singleton] at hmem
  -- The one request is for the log of the sample DID.
  obtain ⟨-, hsame⟩ := Request.mk.inj hmem
  obtain rfl := Option.some.inj hsame
  cases fromStr_did.symm.trans hdid
  have hlength : Text.utf8Length genesisText ≤ MAX_BYTES := by decide +kernel
  cases (fetchText_ok hlength).symm.trans hfetch
  cases verifyLog_genesisText.1.symm.trans hlog
  exact verifyLog_genesisText.2

/-- Served a forged log, a run caches a document about another DID. -/
theorem not_genuineCache_forgedText :
    ¬ GenuineCache joseCrates (serverOf forgedText) (unsignedRun (serverOf forgedText)) := by
  intro h
  have hcached : ((unsignedRun (serverOf forgedText)).ctx.issuerDocs.get did.toText).map DIDDoc.id =
      some (Text.lit "did:tdw:e:e.ch") := by decide +kernel
  obtain ⟨doc, hdoc, hid⟩ := Option.map_eq_some_iff.mp hcached
  obtain ⟨-, -, -, -, -, hsame⟩ := h _ _ hdoc
  have hne : Text.lit "did:tdw:e:e.ch" ≠ did.toText := by decide +kernel
  exact hne (hid.symm.trans hsame)

end Sample

end Swiyu
