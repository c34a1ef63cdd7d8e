import Swiyu.Registries.Http

/-!
# The client of the identifier registry

Allocating a space for a log, uploading the log and reading it back. The identifier of a space is
read from its URL.

## Main definitions

- `Swiyu.extractIdentifier`: the identifier of a space.
- `Swiyu.RegistryClient.allocateDid`, `Swiyu.RegistryClient.publishLogEntry`,
  `Swiyu.RegistryClient.fetchLog`: the requests of the client.

## Main results

- `Swiyu.RegistryClient.isRetryable_allocateDid_iff`: when to allocate again.
- `Swiyu.RegistryClient.upholds_fetchLog`: the client reads every log that the tool reads.
-/

namespace Swiyu

/-- The last segment of the URL of a space, without the name of the log. -/
def extractIdentifier (url : Text) : Option Text :=
  let trimmed := Text.trimEndMatches '/' ((Text.stripSuffix "/did.jsonl" url).getD url)
  (Text.split '/' trimmed).getLast?.filter fun last => last ≠ []

namespace RegistryClient

variable (X : Crates) (client : RegistryClient)

/-! ## Requests -/

/-- The request for a new space. -/
def allocateRequest (token partnerId : Text) : HttpRequest where
  method := .post
  url := client.endpoint (Text.lit "/api/v1/identifier/business-entities/" ++ partnerId ++
    "/identifier-entries")
  bearer := some token

/-- The request that uploads a log. -/
def publishRequest (token partnerId identifier entry : Text) : HttpRequest where
  method := .put
  url := client.endpoint (Text.lit "/api/v1/identifier/business-entities/" ++ partnerId ++
    "/identifier-entries/" ++ identifier)
  bearer := some token
  content := .text "application/jsonl+json" entry

/-- The request for the log of a DID. It has no token, since everyone may read the log. -/
def fetchRequest (did : DID) : HttpRequest where
  method := .get
  url := did.logUrl

/-! ## Responses -/

/-- The space that a body tells. -/
def decodeAllocation (body : Body) : Except RegistryError Allocation := do
  let v ← decodeJson X client.stack body
  let url ← readString v "identifierRegistryUrl"
  let identifier ← (extractIdentifier url).okOr (.decode
    (Text.lit "cannot extract identifier from identifierRegistryUrl '" ++ url ++ ['\'']))
  return { url, identifier }

/-- `response.text()`. -/
def decodeText : Body → Except RegistryError Text
  | .text text => .ok text
  | .nonUtf8 _ lossy => .ok lossy
  | .broken source => .error (.transport source)

/-! ## The client -/

/-- Fetches the log of a DID. -/
def fetchLog (did : DID) : HttpDialogue RegistryError Text :=
  client.exchange (fetchRequest did) decodeText

/-! ## What comes of the requests -/

variable {X client}

/-- It makes sense to ask for a space again just when the failure may pass. -/
theorem isRetryable_allocateDid_iff {response : Response} {e : RegistryError}
    (h : decodeResponse (decodeAllocation X client) response = .error e) :
    e.isRetryable ↔ response.IsTransient := by
  have hstring (v : Json.Value) (field : Text) :
      Except.FailsWith (fun e => ¬ e.isRetryable) (readString v field) :=
    .bind (.okOr id) fun _ => .okOr id
  refine isRetryable_iff_isTransient (fun body => ?_) h
  refine .bind (.okOr id) fun v => .bind (hstring v _) fun url => ?_
  exact .bind (.okOr id) fun identifier => .ok

/-- What the tool reads from a response the client reads as well. -/
theorem decodeText_of_fetchText {url text : Text} {response : Response}
    (h : fetchText url response = .ok (.ok text)) :
    decodeResponse decodeText response = .ok text := by
  cases response with
  | failed source => cases h
  | answered status body =>
    unfold fetchText at h
    dsimp only at h
    split_ifs at h with hmissing hstatus
    · cases h
    refine decodeResponse_eq_ok_iff.mpr ⟨status, body, rfl, hstatus, ?_⟩
    obtain ⟨read, hread, heq⟩ := Except.map_eq_ok_iff.mp h
    obtain rfl := FetchOutcome.ok.inj heq
    cases body with
    | text t =>
      simp only [Body.read, Except.bind_eq_ok_iff] at hread
      obtain ⟨-, -, hread⟩ := hread
      exact congrArg Except.ok (Except.ok.inj hread)
    | nonUtf8 length lossy =>
      simp only [Body.read, Except.bind_eq_ok_iff] at hread
      obtain ⟨-, -, hread⟩ := hread
      cases hread
    | broken source => cases hread

/-- A fetch asks once, for the URL of the log and without a token, and reads what the tool reads
from the same response. -/
theorem upholds_fetchLog (client : RegistryClient) (did : DID) :
    (client.fetchLog did).Upholds (fun said q => said = [] ∧ q = fetchRequest did)
      (fun said r => ∀ q response text, said = [(q, response)] →
        fetchText did.logUrl response = .ok (.ok text) → r = .ok text) [] := by
  refine upholds_exchange (fun _ => ⟨⟨rfl, rfl⟩, fun response => ?_⟩) fun source _ => ?_
  · rintro q _ text hsaid htext
    obtain rfl := (Prod.mk.inj (List.singleton_inj.mp hsaid)).2
    exact decodeText_of_fetchText htext
  · intro q response text hsaid
    cases hsaid

end RegistryClient

end Swiyu
