import Swiyu.Core.DidLog
import Swiyu.Lib.Json.Subst

/-!
# SCIDs and entry hashes

Both are the base58btc text of the SHA2-256 multihash of a canonicalised entry. Such a text is inert
in JSON: it can be replaced in a serialised entry without touching anything but strings.

The second half edits serialised entries in place: the steps between the constructor of an entry and
its final form.
-/

namespace Swiyu

open Json

variable (X : Crates)

/-- The multihash of a SHA2-256 digest: code, length and digest. -/
def multihash (digest : FixedBytes 32) : Bytes := 0x12 :: 0x20 :: digest

/-- The base58btc multihash of the canonicalised value. -/
def hashLogEntry (value : Value) : Text := Base58.encode (multihash (X.sha256 (X.jcs value)))

/-- Derives the SCID from the preliminary genesis entry. -/
def deriveScid (preliminaryEntry : Value) : Text := hashLogEntry X preliminaryEntry

/-- Derives the entry hash from the entry without its proof slot. -/
def deriveEntryHash (entry : Value) : Text := hashLogEntry X entry

theorem mem_alphabet_of_mem_hashLogEntry {v : Value} {c : Char} (h : c ∈ hashLogEntry X v) :
    c ∈ Base58.alphabet :=
  Base58.mem_alphabet_of_mem_encode h

/-- The number of a SHA2-256 multihash lies between those that start with its code and length. -/
theorem value_multihash (digest : FixedBytes 32) :
    ∃ r < 256 ^ 32,
      Radix.value 256 ((multihash digest).map UInt8.toNat) = r + 256 ^ 32 * 0x1220 := by
  obtain ⟨digest, hlen⟩ := digest
  refine ⟨Radix.value 256 (digest.map UInt8.toNat), ?_, ?_⟩
  · have hbytes : ∀ d ∈ (digest.map UInt8.toNat).reverse, d < 256 := by
      simp only [List.mem_reverse, List.mem_map, forall_exists_index, and_imp,
        forall_apply_eq_imp_iff₂]
      exact fun x _ => x.toNat_lt
    have hlt := Nat.ofDigits_lt_base_pow_length (b := 256) (by decide) hbytes
    rwa [List.length_reverse, List.length_map, hlen] at hlt
  · simp only [multihash, List.map_cons, Radix.value, List.reverse_cons, List.append_assoc,
      Nat.ofDigits_append, List.length_reverse, List.length_map, hlen]
    rfl

/-- The hash of an entry starts with `Q`. -/
theorem head_hashLogEntry (v : Value) : (hashLogEntry X v).head? = some 'Q' := by
  obtain ⟨r, hr, hvalue⟩ := value_multihash (X.sha256 (X.jcs v))
  have hlo : 23 * 58 ^ 45 ≤ 256 ^ 32 * 0x1220 := by decide +kernel
  have hhi : 256 ^ 32 + 256 ^ 32 * 0x1220 ≤ 24 * 58 ^ 45 := by decide +kernel
  exact Base58.encode_head (d := 23) (k := 45) (by decide) (by decide) (by simp [multihash])
    (by rw [hvalue]; exact hlo.trans (Nat.le_add_left _ _))
    (by rw [hvalue]; exact (Nat.add_lt_add_right hr _).trans_le hhi)

theorem escapeChar_hashLogEntry {v : Value} {c : Char} (h : c ∈ hashLogEntry X v) :
    escapeChar c = [c] := by
  have hall : ∀ c ∈ Base58.alphabet, escapeChar c = [c] :=
    Text.forall_mem_of_all (by decide +kernel)
  exact hall c (mem_alphabet_of_mem_hashLogEntry X h)

theorem notMem_hashLogEntry {v : Value} {c : Char} (hc : c ∉ Base58.alphabet) :
    c ∉ hashLogEntry X v :=
  fun h => hc (mem_alphabet_of_mem_hashLogEntry X h)

/-- A SCID can be replaced in the text of an entry. -/
theorem inert_hashLogEntry (v : Value) : Inert (hashLogEntry X v) := by
  have hhead := head_hashLogEntry X v
  obtain ⟨p, hp⟩ : ∃ p, hashLogEntry X v = 'Q' :: p := by
    cases hcons : hashLogEntry X v with
    | nil => simp [hcons] at hhead
    | cons c p => exact ⟨p, by simpa [hcons] using hhead⟩
  exact ⟨fun c hc => escapeChar_hashLogEntry X hc, ⟨'Q', p, hp, by decide⟩,
    ⟨'Q', by simp [hp], by decide⟩⟩

theorem scidPlaceholder_eq : scidPlaceholder = ['{', 'S', 'C', 'I', 'D', '}'] :=
  Text.lit_ofList _

/-- The placeholder can be replaced in the text of an entry. -/
theorem inert_scidPlaceholder : Inert scidPlaceholder := by
  rw [scidPlaceholder_eq]
  exact ⟨Text.forall_mem_of_all (by decide), ⟨'{', _, rfl, by decide⟩, ⟨'S', by decide, by decide⟩⟩

/-! ## Entry edits -/

/-- Removes the proof slot from a serialised entry. -/
def stripProofSlot (entry : Value) : LogEntryFormat → Value
  | .tdw03 => match entry with
    | .array arr => .array arr.dropLast
    | v => v
  | .webVH10 => match entry with
    | .object obj => .object (Object.remove obj "proof")
    | v => v

/-- Sets the `versionId` of a serialised entry. -/
def setVersionId (entry : Value) (versionId : Text) : LogEntryFormat → Value
  | .tdw03 => match entry with
    | .array (_ :: arr) => .array (.string versionId :: arr)
    | v => v
  | .webVH10 => match entry with
    | .object obj => .object (OrdMap.insert obj "versionId" (.string versionId))
    | v => v

/-- Appends a Data Integrity proof to a serialised entry. -/
def appendProof (entry proof : Value) : LogEntryFormat → Value
  | .tdw03 => match entry with
    | .array arr => .array (arr ++ [.array [proof]])
    | v => v
  | .webVH10 => match entry with
    | .object obj => .object (OrdMap.insert obj "proof" (.array [proof]))
    | v => v

end Swiyu
