import Swiyu.Lib.Dialogue
import Swiyu.Registries.Trust

/-!
# Requests to registries

What the registry clients share: the requests that they make, and what they make of a response. A
client is a dialogue with the servers; a request that the HTTP library does not let through is not
part of it.

## Main definitions

- `Swiyu.HttpRequest`: a request, as it is handed to the HTTP library.
- `Swiyu.HttpStack`: what the library decides by itself.
- `Swiyu.RegistryClient.exchange`: one request of a registry client.

## Main results

- `Swiyu.isRetryable_iff_isTransient`: the failures after which it makes sense to try again.
- `Swiyu.RegistryClient.upholds_exchange`: what is asked, and what comes of the response.
-/

namespace Swiyu

/-- The method of a request. -/
inductive HttpMethod
  | get
  | post
  | put
  deriving DecidableEq

/-- What is sent along with a request. -/
inductive Payload
  | none
  /-- The fields of a form. -/
  | form (fields : List (Text × Text))
  | text (contentType body : Text)
  deriving DecidableEq

/-- A request. -/
structure HttpRequest where
  method : HttpMethod
  url : Text
  query : List (Text × Text) := []
  /-- The token of the `Authorization` header. -/
  bearer : Option Text := none
  content : Payload := .none
  deriving DecidableEq

/-- Programs that talk to servers. A server that is not reached counts as one that does not answer.
-/
abbrev HttpDialogue := Dialogue HttpRequest Response

/-- What the HTTP library decides by itself. -/
structure HttpStack where
  /-- Why no client is built. -/
  buildError : Option Text
  /-- Why a request is not sent: its URL or a header is malformed or, for a client that is
  restricted to HTTPS, its scheme is another one. -/
  refusal (httpsOnly : Bool) : HttpRequest → Option Text
  /-- The message of the error of `response.json()`. -/
  jsonError : Body → Text

/-- `request.send()`. -/
def HttpStack.send {ε : Type} (H : HttpStack) (httpsOnly : Bool) (request : HttpRequest) :
    HttpDialogue ε Response :=
  match H.refusal httpsOnly request with
  | some source => Dialogue.ofExcept (.ok (.failed source))
  | none => Dialogue.request request

/-- `status.is_success()`. -/
def isSuccess (status : ℕ) : Prop := 200 ≤ status ∧ status < 300
  deriving Decidable

/-- `status.is_client_error()`. -/
def isClientError (status : ℕ) : Prop := 400 ≤ status ∧ status < 500
  deriving Decidable

/-- Whether it makes sense to try again. -/
def RegistryError.isRetryable : RegistryError → Prop
  | transport _ => True
  | httpStatus status _ => status = 429 ∨ 500 ≤ status ∧ status < 600
  | decode _ => False

/-- What a registry client makes of a response. -/
def decodeResponse {α : Type} (decode : Body → Except RegistryError α) :
    Response → Except RegistryError α
  | .failed source => .error (.transport source)
  | .answered status body =>
    if ¬ isSuccess status then .error (.httpStatus status body.textOrDefault) else decode body

/-- The JSON of a body. -/
def decodeJson (X : Crates) (H : HttpStack) (body : Body) : Except RegistryError Json.Value :=
  let json := match body with
    | .text text => Json.parse X.f64 text
    | _ => none
  json.okOr (.decode (Text.lit "response is not valid JSON: " ++ H.jsonError body))

/-- A text member of an object. -/
def readString (v : Json.Value) (field : Text) : Except RegistryError Text := do
  let value ← (v.get field).okOr (.decode (Text.lit "missing " ++ field))
  value.asStr.okOr (.decode (field ++ " is not a string"))

/-- A client of a registry. -/
structure RegistryClient where
  baseUrl : Text
  stack : HttpStack

namespace RegistryClient

/-- Builds a client. -/
def new (H : HttpStack) (baseUrl : Text) : Except RegistryError RegistryClient :=
  match H.buildError with
  | some source => .error (.transport source)
  | none => .ok ⟨baseUrl, H⟩

variable (client : RegistryClient)

/-- The URL of a resource of the registry. -/
def endpoint (resource : Text) : Text := Text.trimEndMatches '/' client.baseUrl ++ resource

/-- Makes one request. All clients of registries are restricted to HTTPS. -/
def exchange {α : Type} (request : HttpRequest) (decode : Body → Except RegistryError α) :
    HttpDialogue RegistryError α := do
  let response ← client.stack.send true request
  Dialogue.ofExcept (decodeResponse decode response)

end RegistryClient

/-! ## What comes of a request -/

variable {α : Type} {decode : Body → Except RegistryError α}

theorem decodeResponse_eq_ok_iff {response : Response} {a : α} :
    decodeResponse decode response = .ok a ↔ ∃ status body, response = .answered status body ∧
      isSuccess status ∧ decode body = .ok a := by
  cases response with
  | failed source => simp [decodeResponse]
  | answered status body =>
    unfold decodeResponse
    dsimp only
    by_cases hstatus : isSuccess status
    · simp [hstatus]
    · simp [hstatus]

/-- A response tells of a failure that may pass. -/
def Response.IsTransient : Response → Prop
  | .failed _ => True
  | .answered status _ => status = 429 ∨ 500 ≤ status ∧ status < 600

/-- When it makes no sense to try again after a body that is not understood, it makes sense just
when the failure may pass. -/
theorem isRetryable_iff_isTransient
    (hdecode : ∀ body, Except.FailsWith (fun e => ¬ e.isRetryable) (decode body))
    {response : Response} {e : RegistryError} (h : decodeResponse decode response = .error e) :
    e.isRetryable ↔ response.IsTransient := by
  cases response with
  | failed source =>
    cases h
    exact Iff.rfl
  | answered status body =>
    unfold decodeResponse at h
    dsimp only at h
    split_ifs at h with hstatus
    · -- A successful status is neither 429 nor that of an error of the server.
      obtain ⟨hlow, hhigh⟩ := hstatus
      refine iff_of_false (hdecode body e h) ?_
      show ¬ (status = 429 ∨ 500 ≤ status ∧ status < 600)
      omega
    · cases h
      exact Iff.rfl

/-- A request that is sent is the one that is asked for, and its response settles what comes of it;
one that is not sent fails like a server that is not reached. -/
theorem RegistryClient.upholds_exchange {client : RegistryClient} {request : HttpRequest}
    {P : List (HttpRequest × Response) → HttpRequest → Prop}
    {R : List (HttpRequest × Response) → Except RegistryError α → Prop}
    {said : List (HttpRequest × Response)}
    (hsent : client.stack.refusal true request = none → P said request ∧
      ∀ response, R (said ++ [(request, response)]) (decodeResponse decode response))
    (hrefused : ∀ source, client.stack.refusal true request = some source →
      R said (.error (.transport source))) :
    (client.exchange request decode).Upholds P R said := by
  unfold exchange HttpStack.send
  cases hrefusal : client.stack.refusal true request with
  | some source => exact .fail (hrefused source hrefusal)
  | none => exact hsent hrefusal

end Swiyu
