import Swiyu.Lib.Exec
import Swiyu.Lib.Text

/-!
# HTTPS fetches

What a GET request answers, and the text that the tool makes of it.
-/

namespace Swiyu

/-- The body of a response. -/
inductive Body
  | text (t : Text)
  /-- Bytes that are not UTF-8, and the text that stands in for them in an error message. -/
  | nonUtf8 (length : ℕ) (lossy : Text)
  /-- The body cannot be read to its end. -/
  | broken (source : Text)
  deriving DecidableEq

/-- What a GET request ends in. -/
inductive Response
  | failed (source : Text)
  | answered (status : ℕ) (body : Body)
  deriving DecidableEq

/-- What the servers answer to a request, by its number and URL. -/
abbrev Server := ℕ → Text → Response

/-- Why a fetch fails. -/
inductive FetchError
  | http (url source : Text)
  | httpStatus (url : Text) (status : ℕ) (body : Text)
  | tooLarge (url : Text) (maxBytes : ℕ)
  | nonUtf8 (url : Text)
  | io (url source : Text)
  deriving DecidableEq

/-- The message of an error. -/
def FetchError.toText : FetchError → Text
  | http url source => Text.lit "cannot fetch '" ++ url ++ "': " ++ source
  | httpStatus url status body =>
    '\'' :: (url ++ "' returned " ++ Text.decimal status ++ ": " ++ body)
  | tooLarge url maxBytes =>
    Text.lit "response from '" ++ url ++ "' exceeds " ++ Text.decimal maxBytes ++ " bytes"
  | nonUtf8 url => Text.lit "response from '" ++ url ++ "' is not valid UTF-8"
  | io url source => Text.lit "reading response body for '" ++ url ++ "' failed: " ++ source

/-- Outcome of a successful fetch. -/
inductive FetchOutcome
  | ok (text : Text)
  | notFound
  deriving DecidableEq

/-- Hard cap on the size of a response body, in bytes. -/
def MAX_BYTES : ℕ := 1024 * 1024

/-- Maximum number of characters of an error page in an error message. -/
def FETCH_BODY_SNIPPET : ℕ := 200

/-- `response.text().unwrap_or_default()`. -/
def Body.textOrDefault : Body → Text
  | text t => t
  | nonUtf8 _ lossy => lossy
  | broken _ => []

/-- The text of a successful response. -/
def Body.read (url : Text) : Body → Except FetchError Text
  | text t => do
    Except.ensure (Text.utf8Length t ≤ MAX_BYTES) (.tooLarge url MAX_BYTES)
    return t
  | nonUtf8 length _ => do
    Except.ensure (length ≤ MAX_BYTES) (.tooLarge url MAX_BYTES)
    .error (.nonUtf8 url)
  | broken source => .error (.io url source)

/-- What the tool makes of a response: 404 is an outcome, every other failure an error. -/
def fetchText (url : Text) : Response → Except FetchError FetchOutcome
  | .failed source => .error (.http url source)
  | .answered status body =>
    if status = 404 then .ok .notFound
    else if ¬ (200 ≤ status ∧ status < 300) then
      .error (.httpStatus url status (body.textOrDefault.take FETCH_BODY_SNIPPET))
    else (body.read url).map .ok

/-- A served text of moderate size is fetched. -/
theorem fetchText_ok {url t : Text} (h : Text.utf8Length t ≤ MAX_BYTES) :
    fetchText url (.answered 200 (.text t)) = .ok (.ok t) := by
  simp [fetchText, Body.read, Except.ensure, h, pure, Except.pure, Except.map]

end Swiyu
