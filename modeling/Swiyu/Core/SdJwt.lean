import Swiyu.Core.Jws

/-!
# Selective disclosure

The disclosures of an SD-JWT: a salt, the name of a claim and its value.
-/

namespace Swiyu

open Json

/-- Why a disclosure is rejected. -/
inductive DisclosureError
  | base64 (reason : Text)
  | json (reason : Text)
  | notArray
  | wrongLength (got : ℕ)
  | saltNotString
  | nameNotString
  deriving DecidableEq

/-- The message of an error. -/
def DisclosureError.toText : DisclosureError → Text
  | base64 reason => Text.lit "disclosure is not base64url: " ++ reason
  | json reason => Text.lit "disclosure is not JSON: " ++ reason
  | notArray => "disclosure is not a JSON array"
  | wrongLength got => Text.lit "disclosure must have 3 elements, got " ++ Text.decimal got
  | saltNotString => "disclosure salt is not a string"
  | nameNotString => "disclosure claim name is not a string"

/-- A disclosure of one claim. -/
structure Disclosure where
  salt : Text
  name : Text
  value : Value
  /-- The wire form, as it was received. -/
  encoded : Text

namespace Disclosure

variable (X : JoseCrates)

/-- Builds a disclosure of one claim, and encodes it once. -/
def new (salt name : Text) (value : Value) : Disclosure where
  salt := salt
  name := name
  value := value
  encoded := Base64Url.encode (Text.utf8
    ((Value.array [.string salt, .string name, value]).print X.f64))

/-- The digest that commits to a disclosure: that of its wire form, never of a re-encoding. -/
def digest (disclosure : Disclosure) : Text :=
  Base64Url.encode (X.sha256 (Text.utf8 disclosure.encoded))

/-- Parses a disclosure. -/
def fromStr (encoded : Text) : Except DisclosureError Disclosure := do
  let bytes ← (X.base64Decode encoded).mapError .base64
  let value ← (X.fromSlice bytes).mapError .json
  let array ← value.asArray.okOr .notArray
  match array with
  | [salt, name, value] => do
    let salt ← salt.asStr.okOr .saltNotString
    let name ← name.asStr.okOr .nameNotString
    return { salt, name, value, encoded }
  | _ => .error (.wrongLength array.length)

end Disclosure

end Swiyu
