import Swiyu.Core.Did
import Swiyu.Didtool.World

/-!
# The trust registry

The client that fetches the trust statements for a DID.
-/

namespace Swiyu

/-- Why a registry client fails. -/
inductive RegistryError
  | transport (source : Text)
  | httpStatus (status : ℕ) (body : Text)
  | decode (msg : Text)
  deriving DecidableEq

/-- The message of an error. -/
def RegistryError.toText : RegistryError → Text
  | transport source => Text.lit "transport error: " ++ source
  | httpStatus status body =>
    Text.lit "registry returned HTTP " ++ Text.decimal status ++ ": " ++ body
  | decode msg => Text.lit "could not decode registry response: " ++ msg

/-- The URL of the statements for a DID. -/
def trustEndpoint (baseUrl : Text) (did : DID) : Text :=
  Text.trimEndMatches '/' baseUrl ++ Text.lit "/api/v1/truststatements/identity/" ++
    did.urlPathSegment

/-- The statements in a body: a JSON array of strings. -/
def statementsOfText (X : Crates) (text : Text) : Except RegistryError (List Text) :=
  (((Json.parse X.f64 text).bind Json.Value.asArray).bind fun array =>
    array.mapM Json.Value.asStr).okOr
      (.decode "trust registry response is not a JSON array of JWT strings")

/-- What the client makes of a response: a 404 means that there are no statements. -/
def statementsOfResponse (X : Crates) : Response → Except RegistryError (List Text)
  | .failed source => .error (.transport source)
  | .answered status body =>
    if status = 404 then .ok []
    else if ¬ (200 ≤ status ∧ status < 300) then .error (.httpStatus status body.textOrDefault)
    else
      match body with
      | .text text => statementsOfText X text
      | .nonUtf8 _ lossy => statementsOfText X lossy
      | .broken source => .error (.transport source)

/-- Fetches the statements for a DID, as the texts of their JWTs. -/
def fetchTrustStatements (X : Crates) (env : Env) (baseUrl : Text) (did : DID) :
    Command World RegistryError (List Text) := do
  let response ← Os.get env (trustEndpoint baseUrl did)
  Command.ofExcept (statementsOfResponse X response)

end Swiyu
