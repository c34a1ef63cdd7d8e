import Swiyu.Core.Crates
import Swiyu.Core.Did
import Swiyu.Core.DidDoc
import Swiyu.Core.DidLog
import Swiyu.Core.DidLog.Replay
import Swiyu.Core.DidLog.Terminal
import Swiyu.Core.Proof
import Swiyu.Core.StatusList.SlotArray
import Swiyu.Lib.Base58
import Swiyu.Lib.Json.Subst
import Swiyu.Didtool.Cmd.Trust.IssuerDocs
import Swiyu.Didtool.World
import Swiyu.Didtool.KeyStore
import Swiyu.Core.DidLog.Received
import Swiyu.Didtool.Cmd.Trust.StatusLists
import Swiyu.Didtool.Cmd.Trust.Caches
import Swiyu.Didtool.Cmd.Resolve
import Swiyu.Didtool.Cmd.Trust.Subject
import Swiyu.Didtool.Cmd.DidLog
import Swiyu.Didtool.Cmd.DidLog.Target
import Swiyu.Didtool.Cmd.Pop.Verify
import Swiyu.Lib.Json.Plain
import Swiyu.Didtool.Cmd.Pop.Create
import Swiyu.Didtool.Cmd.Did.Rotate
import Swiyu.Didtool.Cmd.Did.Deactivate
import Swiyu.Didtool.Cmd.Did.Create
import Swiyu.Didtool.Lawful
import Swiyu.Didtool.Cmd.Pop.Sound
import Swiyu.Core.DidDoc.Genesis
import Swiyu.Didtool.InStep
import Swiyu.Didtool.Cmd.Pop.Complete
import Swiyu.Didtool.Cmd.Pop.Deactivated
import Swiyu.Didtool.Cmd.Did.Frames
import Swiyu.Core.TrustStatement.Disclosures
import Swiyu.Didtool.Cmd.Trust.TimeLimits
import Swiyu.Didtool.KeyStore.Files
import Swiyu.Didtool.KeyStore.Snapshots
import Swiyu.Didtool.KeyStore.Atomic
import Swiyu.Core.StatusList.Wire
import Swiyu.Lib.Json.Codec
import Swiyu.Core.DidLog.Entries
import Swiyu.Core.Proof.Readers
import Swiyu.Core.Did.Grammar
import Swiyu.Didtool.Cmd.Did.Slot
import Swiyu.Core.TrustStatement.Order
import Swiyu.Core.DidJwk
import Swiyu.Didtool.Cmd.Did.Carried
import Swiyu.Didtool.Cmd.Did.Rotated
import Swiyu.Didtool.KeyStore.Isolation
import Swiyu.Didtool.Cmd.Trust.Outcome
import Swiyu.Didtool.Cmd.Did.Refused
import Swiyu.Didtool.Cmd.Did.Steps
import Swiyu.Didtool.KeyStore.Left
import Swiyu.Didtool.Cmd.Did.Salvaged
import Swiyu.Didtool.Cmd.Did.Appended
import Swiyu.Didtool.Cmd.Pop.Times
import Swiyu.Core.DidLog.Substituted
import Swiyu.Didtool.Cmd.Did.Written
import Swiyu.Didtool.Cmd.Did.VersionTimes
import Swiyu.Didtool.Cmd.Did.Announced
import Swiyu.Didtool.Cmd.Did.Genesis
import Swiyu.Didtool.Cmd.Did.Created
import Swiyu.Didtool.History
import Swiyu.Didtool.Cmd.Did.Life
import Swiyu.Didtool.Cmd.Key
import Swiyu.Lib.Json.Pretty
import Swiyu.Core.DidLog.Rewritten
import Swiyu.Didtool.Cmd.DidLog.Show
import Swiyu.Didtool.Cmd.Did.Published
import Swiyu.Didtool.Cmd.Did.Progress
import Swiyu.Lib.Dialogue
import Swiyu.Registries.Http
import Swiyu.Registries.Identifier
import Swiyu.Didtool.OAuth2
import Swiyu.Didtool.Registry
import Swiyu.Didtool.Registry.Uploads
import Swiyu.Didtool.Cmd.Pop.Life
