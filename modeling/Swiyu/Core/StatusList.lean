import Swiyu.Core.Jws
import Swiyu.Lib.Command

/-!
# Status lists

The pointer from a credential into a status list, and the decoded list of slot values.
-/

namespace Swiyu

open Json

/-- Why a status list is rejected. -/
inductive StatusListError
  | missingField (name : Text)
  | invalidFieldType (name : Text)
  | unsupportedBits (bits : UInt8)
  | invalidBase64
  | decompress (msg : Text)
  | idxOutOfRange (idx : UInt64) (slots : UInt64)
  | invalidCapacity (capacity : UInt64) (bits : UInt8)
  | valueOutOfRange (raw bits : UInt8)
  deriving DecidableEq

/-- The message of an error. -/
def StatusListError.toText : StatusListError → Text
  | missingField name => Text.lit "missing '" ++ name ++ "' in status_list"
  | invalidFieldType name => Text.lit "field '" ++ name ++ "' has the wrong type in status_list"
  | unsupportedBits b =>
    Text.lit "unsupported 'bits' value " ++ Text.decimal b.toNat ++ " (expected 1 or 2)"
  | invalidBase64 => "'lst' is not valid base64url"
  | decompress msg => Text.lit "decompressing 'lst' failed: " ++ msg
  | idxOutOfRange idx slots => Text.lit "idx " ++ Text.decimal idx.toNat ++
      " exceeds bitstring length (" ++ Text.decimal slots.toNat ++ " slots)"
  | invalidCapacity capacity bits => Text.lit "capacity " ++ Text.decimal capacity.toNat ++
      " at bits=" ++ Text.decimal bits.toNat ++ " does not align to whole bytes"
  | valueOutOfRange raw bits => Text.lit "value " ++ Text.decimal raw.toNat ++
      " does not fit in bits=" ++ Text.decimal bits.toNat

/-- Where a status list is, and which slot of it a credential has. -/
structure StatusListPointer where
  type : Text
  /-- 0-based index of the credential's slot in the bitstring. -/
  idx : UInt64
  /-- HTTPS URL where the status list JWT is served. -/
  uri : Text
  deriving DecidableEq

/-- A member of the pointer's JSON form. -/
def statusListMember {α : Type} (read : Value → Option α) (obj : Object) (name : Text) :
    Except StatusListError α := do
  let v ← (obj.get name).okOr (.missingField name)
  (read v).okOr (.invalidFieldType name)

/-- Parses the `status_list` object of a credential. -/
def StatusListPointer.tryFromJson (v : Value) : Except StatusListError StatusListPointer := do
  let obj ← v.asObject.okOr (.invalidFieldType "status_list")
  let type ← statusListMember Value.asStr obj "type"
  let idx ← statusListMember Value.asU64 obj "idx"
  let uri ← statusListMember Value.asStr obj "uri"
  return { type, idx, uri }

/-- Semantic interpretation of a slot. -/
inductive StatusValue
  | valid
  | revoked
  | suspended
  /-- Any other value, with the raw bit pattern. -/
  | reserved (raw : UInt8)
  deriving DecidableEq

/-- Translates the raw bit pattern in a list of the given width. -/
def StatusValue.fromRaw (raw bits : UInt8) : StatusValue :=
  if raw = 0 then valid
  else if raw = 1 then revoked
  else if bits = 2 ∧ raw = 2 then suspended
  else reserved raw

/-- `u8::from`: the numeric encoding, whatever the width. -/
def StatusValue.toU8 : StatusValue → UInt8
  | valid => 0
  | revoked => 1
  | suspended => 2
  | reserved raw => raw

/-- The largest bit pattern of a slot of the given width. -/
def maxRaw (bits : UInt8) : Except StatusListError UInt8 :=
  if bits = 1 then .ok 1 else if bits = 2 then .ok 0b11 else .error (.unsupportedBits bits)

/-- The raw bit pattern in a list of the given width. -/
def StatusValue.toRaw (value : StatusValue) (bits : UInt8) : Except StatusListError UInt8 := do
  let raw := value.toU8
  let max ← maxRaw bits
  Except.ensure (raw ≤ max) (.valueOutOfRange raw bits)
  return raw

/-- A decoded status list: the decompressed bitstring and the slot width. -/
structure StatusList where
  bits : UInt8
  bytes : Bytes
  /-- No list has another width. -/
  bits_valid : bits = 1 ∨ bits = 2

namespace StatusList

/-- Total number of slots, a `u64`. -/
def len (list : StatusList) : UInt64 :=
  UInt64.ofNat list.bytes.length * (8 / list.bits).toUInt64

/-- Reads the slot at `idx`. -/
def valueAt (list : StatusList) (idx : UInt64) : Except StatusListError StatusValue := do
  let raw ←
    if list.bits = 1 then do
      let byte ← (list.bytes[(idx / 8).toNat]?).okOr (.idxOutOfRange idx list.len)
      pure ((byte >>> (idx % 8).toUInt8) &&& 1)
    else if list.bits = 2 then do
      let byte ← (list.bytes[(idx / 4).toNat]?).okOr (.idxOutOfRange idx list.len)
      pure ((byte >>> (idx % 4 * 2).toUInt8) &&& 0b11)
    else .error (.unsupportedBits list.bits)
  return .fromRaw raw list.bits

/-- An all-zero list with the given number of slots, which must fill whole bytes. -/
def new (bits : UInt8) (capacity : UInt64) : Except StatusListError StatusList :=
  if h : bits = 1 ∨ bits = 2 then
    let totalBits := capacity.toNat * bits.toNat
    if totalBits < 2 ^ 64 ∧ totalBits % 8 = 0 then
      .ok ⟨bits, List.replicate (totalBits / 8) 0, h⟩
    else .error (.invalidCapacity capacity bits)
  else .error (.unsupportedBits bits)

/-- Wraps a decompressed bitstring. -/
def fromRaw (bits : UInt8) (bytes : Bytes) : Except StatusListError StatusList :=
  if h : bits = 1 ∨ bits = 2 then .ok ⟨bits, bytes, h⟩ else .error (.unsupportedBits bits)

/-- Changes the byte at `i`, or fails with `e` when there is none. -/
def updateByte (i : ℕ) (f : UInt8 → UInt8) (e : StatusListError) :
    Command StatusList StatusListError Unit := do
  let byte ← Command.read fun list => list.bytes[i]?
  let byte ← Command.ofExcept (byte.okOr e)
  Command.update fun list => { list with bytes := list.bytes.set i (f byte) }

/-- Writes the slot at `idx`. -/
def setAt (idx : UInt64) (value : StatusValue) : Command StatusList StatusListError Unit := do
  let bits ← Command.read StatusList.bits
  let raw ← Command.ofExcept (value.toRaw bits)
  let slots ← Command.read len
  if bits = 1 then
    let bit := (idx % 8).toUInt8
    updateByte (idx / 8).toNat (fun byte => (byte &&& ~~~(1 <<< bit)) ||| ((raw &&& 1) <<< bit))
      (.idxOutOfRange idx slots)
  else if bits = 2 then
    let shift := (idx % 4 * 2).toUInt8
    updateByte (idx / 4).toNat
      (fun byte => (byte &&& ~~~(0b11 <<< shift)) ||| ((raw &&& 0b11) <<< shift))
      (.idxOutOfRange idx slots)
  else Command.fail (.unsupportedBits bits)

variable (X : JoseCrates)

/-- The slot width of a list: 1 unless it says otherwise. -/
def bitsFromJson (obj : Object) : Except StatusListError UInt8 :=
  match obj.get "bits" with
  | none => .ok 1
  | some v =>
    match v.asU64 with
    | some n => if n < 256 then .ok n.toUInt8 else .error (.invalidFieldType "bits")
    | none => .error (.invalidFieldType "bits")

/-- Parses the `status_list` object of a status list JWT. -/
def tryFromJson (value : Value) : Except StatusListError StatusList := do
  let obj ← value.asObject.okOr (.invalidFieldType "status_list")
  let bits ← bitsFromJson obj
  if h : bits = 1 ∨ bits = 2 then do
    let lst ← (obj.get "lst").okOr (.missingField "lst")
    let lst ← lst.asStr.okOr (.invalidFieldType "lst")
    let compressed ← (Base64Url.decode lst).okOr .invalidBase64
    let bytes ← (X.zlibDecode compressed).mapError .decompress
    return ⟨bits, bytes, h⟩
  else .error (.unsupportedBits bits)

end StatusList

end Swiyu
