import Swiyu.Lib.Base58

/-!
# Base64url

The URL-safe base64 encoding without padding, as the `base64` crate reads and writes it: a decoder
that rejects padding and non-zero trailing bits.

## Main results

- `Base64Url.decode_encode`: what is encoded is decoded again.
- `Base64Url.encode_decode`: nothing else is decoded.
-/

namespace Base64Url

/-- The URL-safe alphabet. -/
def alphabet : List Char :=
  ['A', 'B', 'C', 'D', 'E', 'F', 'G', 'H', 'I', 'J', 'K', 'L', 'M', 'N', 'O', 'P', 'Q', 'R', 'S',
    'T', 'U', 'V', 'W', 'X', 'Y', 'Z', 'a', 'b', 'c', 'd', 'e', 'f', 'g', 'h', 'i', 'j', 'k', 'l',
    'm', 'n', 'o', 'p', 'q', 'r', 's', 't', 'u', 'v', 'w', 'x', 'y', 'z', '0', '1', '2', '3', '4',
    '5', '6', '7', '8', '9', '-', '_']

/-- The character of a group of six bits. -/
def sextetChar (n : ℕ) : Char := alphabet.getD (n % 64) 'A'

/-- The six bits of a character of the alphabet. -/
def charSextet (c : Char) : Option ℕ :=
  let n := alphabet.idxOf c
  if n < 64 then some n else none

/-- `URL_SAFE_NO_PAD.encode(bytes)`. -/
def encode : Bytes → Text
  | [] => []
  | [a] => [sextetChar (a.toNat / 4), sextetChar (a.toNat * 16)]
  | [a, b] =>
    [sextetChar (a.toNat / 4), sextetChar (a.toNat * 16 + b.toNat / 16), sextetChar (b.toNat * 4)]
  | a :: b :: c :: rest =>
    sextetChar (a.toNat / 4) :: sextetChar (a.toNat * 16 + b.toNat / 16) ::
      sextetChar (b.toNat * 4 + c.toNat / 64) :: sextetChar c.toNat :: encode rest

/-- `URL_SAFE_NO_PAD.decode(text)`. -/
def decode : Text → Option Bytes
  | [] => some []
  | [_] => none
  | [c, d] => do
    let (i, j) := (← charSextet c, ← charSextet d)
    guard (j % 16 = 0)
    return [UInt8.ofNat (i * 4 + j / 16)]
  | [c, d, e] => do
    let (i, j, k) := (← charSextet c, ← charSextet d, ← charSextet e)
    guard (k % 4 = 0)
    return [UInt8.ofNat (i * 4 + j / 16), UInt8.ofNat (j * 16 + k / 4)]
  | c :: d :: e :: f :: rest => do
    let (i, j, k, l) := (← charSextet c, ← charSextet d, ← charSextet e, ← charSextet f)
    return UInt8.ofNat (i * 4 + j / 16) :: UInt8.ofNat (j * 16 + k / 4) ::
      UInt8.ofNat (k * 64 + l) :: (← decode rest)

theorem sextetChar_mem_alphabet (n : ℕ) : sextetChar n ∈ alphabet := by
  have hall : ∀ m < 64, alphabet.getD m 'A' ∈ alphabet := by decide +kernel
  exact hall _ (Nat.mod_lt n (by decide))

theorem encode_subset (bytes : Bytes) : encode bytes ⊆ alphabet := by
  induction bytes using encode.induct with
  | case1 => exact List.nil_subset _
  | case2 a => simp [encode, sextetChar_mem_alphabet]
  | case3 a b => simp [encode, sextetChar_mem_alphabet]
  | case4 a b c rest ih => simp [encode, sextetChar_mem_alphabet, ih]

theorem charSextet_sextetChar (n : ℕ) : charSextet (sextetChar n) = some (n % 64) := by
  have hall : ∀ m < 64, charSextet (alphabet.getD m 'A') = some m := by decide +kernel
  exact hall _ (Nat.mod_lt n (by decide))

/-- A byte is told by its number. -/
theorem ofNat_eq_of_mod {a : UInt8} {n : ℕ} (h : n % 256 = a.toNat) : UInt8.ofNat n = a := by
  refine UInt8.toNat_inj.mp ?_
  rw [UInt8.toNat_ofNat', h]

/-- What is encoded is decoded again. -/
theorem decode_encode (bytes : Bytes) : decode (encode bytes) = some bytes := by
  -- The cases are those of the encoder: groups of three bytes, with one or two left at the end.
  induction bytes using encode.induct with
  | case1 => rfl
  | case2 a =>
    have ha := a.toNat_lt
    have hbyte : UInt8.ofNat (a.toNat / 4 % 64 * 4 + a.toNat * 16 % 64 / 16) = a :=
      ofNat_eq_of_mod (by omega)
    -- The bits that are left over are zero, as the decoder wants.
    have hbits : a.toNat * 16 % 64 % 16 = 0 := by omega
    simp [-UInt8.ofNat_add, -UInt8.ofNat_mul, encode, decode, charSextet_sextetChar, hbyte, hbits]
  | case3 a b =>
    have ha := a.toNat_lt
    have hb := b.toNat_lt
    have hbyte₁ :
        UInt8.ofNat (a.toNat / 4 % 64 * 4 + (a.toNat * 16 + b.toNat / 16) % 64 / 16) = a :=
      ofNat_eq_of_mod (by omega)
    have hbyte₂ :
        UInt8.ofNat ((a.toNat * 16 + b.toNat / 16) % 64 * 16 + b.toNat * 4 % 64 / 4) = b :=
      ofNat_eq_of_mod (by omega)
    have hbits : b.toNat * 4 % 64 % 4 = 0 := by omega
    simp [-UInt8.ofNat_add, -UInt8.ofNat_mul, encode, decode, charSextet_sextetChar, hbyte₁,
      hbyte₂, hbits]
  | case4 a b c rest ih =>
    have ha := a.toNat_lt
    have hb := b.toNat_lt
    have hc := c.toNat_lt
    have hbyte₁ :
        UInt8.ofNat (a.toNat / 4 % 64 * 4 + (a.toNat * 16 + b.toNat / 16) % 64 / 16) = a :=
      ofNat_eq_of_mod (by omega)
    have hbyte₂ : UInt8.ofNat ((a.toNat * 16 + b.toNat / 16) % 64 * 16 +
        (b.toNat * 4 + c.toNat / 64) % 64 / 4) = b := ofNat_eq_of_mod (by omega)
    have hbyte₃ : UInt8.ofNat ((b.toNat * 4 + c.toNat / 64) % 64 * 64 + c.toNat % 64) = c :=
      ofNat_eq_of_mod (by omega)
    simp [-UInt8.ofNat_add, -UInt8.ofNat_mul, encode, decode, charSextet_sextetChar, hbyte₁,
      hbyte₂, hbyte₃, ih]

theorem charSextet_eq_some {c : Char} {i : ℕ} (h : charSextet c = some i) :
    i < 64 ∧ ∀ n, n % 64 = i → sextetChar n = c := by
  unfold charSextet at h
  dsimp only at h
  split_ifs at h with hlt
  obtain rfl := Option.some.inj h
  refine ⟨hlt, fun n hn => ?_⟩
  have hlength : alphabet.idxOf c < alphabet.length := hlt
  rw [sextetChar, hn, List.getD_eq_getElem _ _ hlength, List.getElem_idxOf]

/-- The number of a byte that is told by its number. -/
theorem toNat_ofNat_of_lt {n : ℕ} : (UInt8.ofNat n).toNat = n % 256 := UInt8.toNat_ofNat'

/-- The decoder is strict: it reads nothing but what the encoder writes. -/
theorem encode_decode {text : Text} {bytes : Bytes} (h : decode text = some bytes) :
    encode bytes = text := by
  -- The cases are those of the decoder: groups of four characters, with two or three left at the
  -- end.
  induction text using decode.induct generalizing bytes with
  | case1 =>
    obtain rfl := Option.some.inj h
    rfl
  | case2 c => cases h
  | case3 c d =>
    simp only [decode, Option.bind_eq_bind, Option.bind_eq_some_iff, Option.guard_eq_some',
      Option.pure_def, Option.some.injEq] at h
    -- The bits that are left over are zero, so the encoder writes the same last character.
    obtain ⟨i, hi, j, hj, _, hbits, rfl⟩ := h
    obtain ⟨hi64, hc⟩ := charSextet_eq_some hi
    obtain ⟨hj64, hd⟩ := charSextet_eq_some hj
    rw [encode, toNat_ofNat_of_lt, hc _ (by omega), hd _ (by omega)]
  | case4 c d e =>
    simp only [decode, Option.bind_eq_bind, Option.bind_eq_some_iff, Option.guard_eq_some',
      Option.pure_def, Option.some.injEq] at h
    obtain ⟨i, hi, j, hj, k, hk, _, hbits, rfl⟩ := h
    obtain ⟨hi64, hc⟩ := charSextet_eq_some hi
    obtain ⟨hj64, hd⟩ := charSextet_eq_some hj
    obtain ⟨hk64, he⟩ := charSextet_eq_some hk
    rw [encode, toNat_ofNat_of_lt, toNat_ofNat_of_lt, hc _ (by omega), hd _ (by omega),
      he _ (by omega)]
  | case5 c d e f rest ih =>
    simp only [decode, Option.bind_eq_bind, Option.bind_eq_some_iff, Option.pure_def,
      Option.some.injEq] at h
    obtain ⟨i, hi, j, hj, k, hk, l, hl, restBytes, hrest, rfl⟩ := h
    obtain ⟨hi64, hc⟩ := charSextet_eq_some hi
    obtain ⟨hj64, hd⟩ := charSextet_eq_some hj
    obtain ⟨hk64, he⟩ := charSextet_eq_some hk
    obtain ⟨hl64, hf⟩ := charSextet_eq_some hl
    rw [encode, toNat_ofNat_of_lt, toNat_ofNat_of_lt, toNat_ofNat_of_lt, hc _ (by omega),
      hd _ (by omega), he _ (by omega), hf _ (by omega), ih hrest]

theorem encode_ne_nil {bytes : Bytes} (h : bytes ≠ []) : encode bytes ≠ [] := by
  match bytes with
  | [] => exact absurd rfl h
  | [_] | [_, _] | _ :: _ :: _ :: _ => simp [encode]

end Base64Url
