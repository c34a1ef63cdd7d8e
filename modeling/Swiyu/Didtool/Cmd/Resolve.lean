import Swiyu.Didtool.KeyStore

/-!
# What the commands share

Commands name a DID by its text or by the hash of its key-store entry; those that publish need
credentials for the registry.
-/

namespace Swiyu

/-- Formats a Unix timestamp. -/
def iso8601 (X : JoseCrates) (unixSecs : UInt64) : Text :=
  (X.rfc3339 unixSecs.toInt64.toInt).getD (Text.decimal unixSecs.toNat)

/-- Why a target cannot be resolved. -/
inductive ResolveError
  | notFound (target : Text)
  | did (e : DIDError)
  | keyStore (e : KeyStoreError)
  deriving DecidableEq

/-- The message of an error. -/
def ResolveError.toText : ResolveError → Text
  | notFound target => Text.lit "no entry found for '" ++ target ++ "'"
  | did e => e.toText
  | keyStore e => e.toText

/-- Which credential for the registry is missing, and a hint on how to do without. -/
inductive RegistryArgsError
  | partnerIdMissing (hint : Text)
  | registryUrlMissing (hint : Text)
  deriving DecidableEq

/-- The message of an error. -/
def RegistryArgsError.toText : RegistryArgsError → Text
  | partnerIdMissing hint => Text.lit "provide --partner-id or set SWIYU_PARTNER_ID" ++ hint
  | registryUrlMissing hint =>
    Text.lit "provide --registry-url or set SWIYU_IDENTIFIER_REGISTRY_URL" ++ hint

/-- Both credentials, or which of them is missing. -/
def requireRegistryCredentials (partnerId registryUrl : Option Text) (noPublishHint : Text) :
    Except RegistryArgsError (Text × Text) := do
  let partnerId ← partnerId.okOr (.partnerIdMissing noPublishHint)
  let registryUrl ← registryUrl.okOr (.registryUrlMissing noPublishHint)
  return (partnerId, registryUrl)

/-- `c.is_ascii_hexdigit()`. -/
def isAsciiHexDigit (c : Char) : Bool :=
  c.isDigit || ('a' ≤ c && c ≤ 'f') || ('A' ≤ c && c ≤ 'F')

/-- Whether a target is the hash of a key-store entry: 12 hexadecimal digits. -/
def isHash (s : Text) : Bool := Text.utf8Length s = 12 && s.all isAsciiHexDigit

variable (X : ToolCrates) (env : Env)

/-- Resolves a target to a DID. Only a hash is looked up in the key store, so that foreign DIDs are
accepted. -/
def resolveDid (target : Text) : Command World ResolveError DID :=
  if isHash target = true then do
    let entry ← (KeyStore.lookupByHash env target).mapError .keyStore
    let entry ← Command.ofExcept (entry.okOr (.notFound target))
    Command.ofExcept ((DID.fromStr entry.did).mapError .did)
  else Command.ofExcept ((DID.fromStr target).mapError .did)

/-- Resolves a target to its key-store entry. -/
def resolveEntry (target : Text) : Command World ResolveError KeyStoreEntry :=
  if isHash target = true then do
    let entry ← (KeyStore.lookupByHash env target).mapError .keyStore
    Command.ofExcept (entry.okOr (.notFound target))
  else do
    let did ← Command.ofExcept ((DID.fromStr target).mapError .did)
    let entry ← (KeyStore.lookup X env did).mapError .keyStore
    Command.ofExcept (entry.okOr (.notFound target))

end Swiyu
