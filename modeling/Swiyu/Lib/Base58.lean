import Mathlib.Data.Nat.Digits.Lemmas
import Mathlib.Data.List.GetD
import Mathlib.Data.List.TakeWhile
import Swiyu.Lib.Text

/-!
# Base58

The base58btc encoding of byte strings, as a change of radix that keeps leading zeros.

## Main definitions

- `Radix.convert`: the digits of a number, most significant first, in another base.
- `Base58.encode`, `Base58.decode`: base58 with the Bitcoin alphabet.

## Main results

- `Radix.convert_convert`: a change of radix is undone by the change back.
- `Base58.decode_encode`: decoding undoes encoding.
- `Base58.encode_head`: the leading character of an encoding, from bounds on the encoded number.
-/

/-- A byte string. -/
abbrev Bytes := List UInt8

namespace Radix

/-- The number of a list of digits in base `b`, most significant first. -/
def value (b : ℕ) (l : List ℕ) : ℕ := Nat.ofDigits b l.reverse

/-- The digits of a number in base `b`, most significant first and without leading zeros. -/
def digits (b n : ℕ) : List ℕ := (Nat.digits b n).reverse

/-- The digits `l` of a number in base `b`, in base `b'`; every leading zero stays one. -/
def convert (b b' : ℕ) (l : List ℕ) : List ℕ := l.takeWhile (· = 0) ++ digits b' (value b l)

variable {b b' : ℕ} {l : List ℕ}

theorem value_zeros_append {z : List ℕ} (hz : ∀ d ∈ z, d = 0) : value b (z ++ l) = value b l := by
  rw [value, value, List.reverse_append, List.eq_replicate_of_mem hz, List.reverse_replicate,
    Nat.ofDigits_append_replicate_zero]

theorem digits_value (hb : 1 < b) (hl : ∀ d ∈ l, d < b) (hhead : l.head? ≠ some 0) :
    digits b (value b l) = l := by
  rw [digits, value, Nat.digits_ofDigits b hb l.reverse (by simpa using hl) fun hne => ?_,
    List.reverse_reverse]
  intro hzero
  exact hhead (by rw [← List.getLast?_reverse, List.getLast?_eq_getLast_of_ne_nil hne, hzero])

theorem value_digits (b n : ℕ) : value b (digits b n) = n := by
  rw [value, digits, List.reverse_reverse, Nat.ofDigits_digits]

theorem head_digits_ne_zero (b n : ℕ) : (digits b n).head? ≠ some 0 := by
  intro h
  rw [digits, List.head?_reverse] at h
  obtain rfl | hn := eq_or_ne n 0
  · simp at h
  · have hne := Nat.digits_ne_nil_iff_ne_zero (b := b).mpr hn
    rw [List.getLast?_eq_getLast_of_ne_nil hne, Option.some.injEq] at h
    exact Nat.getLast_digit_ne_zero b hn h

theorem takeWhile_zeros_append {z : List ℕ} (hz : ∀ d ∈ z, d = 0) (hhead : l.head? ≠ some 0) :
    (z ++ l).takeWhile (· = 0) = z := by
  rw [List.takeWhile_append_of_pos (by simpa using hz)]
  cases l with
  | nil => simp
  | cons d l =>
    have hd : d ≠ 0 := fun h => hhead (by simp [h])
    simp [hd]

theorem value_convert (b b' : ℕ) (l : List ℕ) : value b' (convert b b' l) = value b l := by
  rw [convert, value_zeros_append fun d hd => by simpa using List.mem_takeWhile_imp hd,
    value_digits]

/-- A change of radix is undone by the change back. -/
theorem convert_convert (hb : 1 < b) (hl : ∀ d ∈ l, d < b) :
    convert b' b (convert b b' l) = l := by
  have hz : ∀ d ∈ l.takeWhile (· = 0), d = 0 := fun d hd => by
    simpa using List.mem_takeWhile_imp hd
  -- Leading zeros stay, one for one.
  have hzeros : (convert b b' l).takeWhile (· = 0) = l.takeWhile (· = 0) :=
    takeWhile_zeros_append hz (head_digits_ne_zero b' _)
  have hvalue : value b l = value b (l.dropWhile (· = 0)) := by
    conv_lhs => rw [← List.takeWhile_append_dropWhile (p := (· = 0)) (l := l)]
    rw [value_zeros_append hz]
  -- The rest are the digits of a number, without leading zeros.
  have hdrop : digits b (value b (l.dropWhile (· = 0))) = l.dropWhile (· = 0) :=
    digits_value hb (fun d hd => hl d ((List.dropWhile_sublist _).subset hd)) fun h => by
      cases hcons : l.dropWhile (· = 0) with
      | nil => simp [hcons] at h
      | cons d r =>
        have := List.head_dropWhile_not (p := (· = 0)) (by simp [hcons] : l.dropWhile (· = 0) ≠ [])
        simp_all
  rw [convert, hzeros, value_convert, hvalue, hdrop, List.takeWhile_append_dropWhile]

theorem lt_of_mem_convert (hb' : 1 < b') {d : ℕ} (h : d ∈ convert b b' l) : d < b' := by
  rcases List.mem_append.mp h with h | h
  · have : d = 0 := by simpa using List.mem_takeWhile_imp h
    omega
  · exact Nat.digits_lt_base hb' (List.mem_reverse.mp h)

/-- The leading digit, from the bounds it puts on the number. -/
theorem head_digits {d k n : ℕ} (hb : 1 < b) (hd : 0 < d) (hdb : d < b) (hlo : d * b ^ k ≤ n)
    (hhi : n < (d + 1) * b ^ k) : (digits b n).head? = some d := by
  obtain ⟨r, rfl⟩ := Nat.exists_eq_add_of_le hlo
  have hr : r < b ^ k := by
    rw [Nat.add_mul, Nat.one_mul] at hhi
    omega
  have hlen : (Nat.digits b r).length ≤ k := (Nat.digits_length_le_iff hb r).mpr hr
  have hsum : d * b ^ k + r =
      r + b ^ ((Nat.digits b r).length + (k - (Nat.digits b r).length)) * d := by
    rw [Nat.add_sub_cancel' hlen, Nat.add_comm, Nat.mul_comm]
  rw [digits, hsum, ← Nat.digits_append_zeroes_append_digits hb hd, Nat.digits_of_lt b d hd.ne' hdb]
  simp

end Radix

namespace Base58

/-- The Bitcoin alphabet. -/
def alphabet : List Char :=
  ['1', '2', '3', '4', '5', '6', '7', '8', '9', 'A', 'B', 'C', 'D', 'E', 'F', 'G', 'H', 'J', 'K',
    'L', 'M', 'N', 'P', 'Q', 'R', 'S', 'T', 'U', 'V', 'W', 'X', 'Y', 'Z', 'a', 'b', 'c', 'd', 'e',
    'f', 'g', 'h', 'i', 'j', 'k', 'm', 'n', 'o', 'p', 'q', 'r', 's', 't', 'u', 'v', 'w', 'x', 'y',
    'z']

/-- The character of a digit. -/
def digitChar (d : ℕ) : Char := alphabet.getD d '1'

/-- The digit of a character of the alphabet. -/
def charDigit (c : Char) : Option ℕ :=
  let d := alphabet.idxOf c
  if d < 58 then some d else none

/-- `bs58::encode(bytes).into_string()`. -/
def encode (bytes : Bytes) : Text :=
  (Radix.convert 256 58 (bytes.map UInt8.toNat)).map digitChar

/-- `bs58::decode(text).into_vec()`; absent when a character is not in the alphabet. -/
def decode (text : Text) : Option Bytes :=
  (text.mapM charDigit).map fun l => (Radix.convert 58 256 l).map UInt8.ofNat

theorem charDigit_digitChar : ∀ d < 58, charDigit (digitChar d) = some d := by decide +kernel

theorem digitChar_mem_alphabet : ∀ d < 58, digitChar d ∈ alphabet := by decide +kernel

theorem mapM_charDigit {l : List ℕ} (hl : ∀ d ∈ l, d < 58) :
    (l.map digitChar).mapM charDigit = some l := by
  induction l with
  | nil => rfl
  | cons d l ih =>
    rw [List.map_cons, List.mapM_cons, charDigit_digitChar d (hl d List.mem_cons_self),
      ih fun e he => hl e (List.mem_cons_of_mem _ he)]
    rfl

@[simp]
theorem decode_encode (bytes : Bytes) : decode (encode bytes) = some bytes := by
  have hbytes : ∀ d ∈ bytes.map UInt8.toNat, d < 256 := by
    simp only [List.mem_map, forall_exists_index, and_imp, forall_apply_eq_imp_iff₂]
    exact fun x _ => x.toNat_lt
  rw [decode, encode, mapM_charDigit fun d => Radix.lt_of_mem_convert (by decide),
    Option.map_some, Radix.convert_convert (by decide) hbytes, List.map_map]
  simp [Function.comp_def]

theorem lt_of_charDigit {c : Char} {d : ℕ} (h : charDigit c = some d) : d < 58 := by
  rw [charDigit] at h
  split_ifs at h with hlt
  cases h
  exact hlt

theorem digitChar_of_charDigit {c : Char} {d : ℕ} (h : charDigit c = some d) : digitChar d = c := by
  rw [charDigit] at h
  split_ifs at h with hlt
  cases h
  have hlen : alphabet.idxOf c < alphabet.length := hlt
  rw [digitChar, List.getD_eq_getElem _ _ hlen, List.getElem_idxOf hlen]

theorem eq_map_of_mapM_charDigit {text : Text} {l : List ℕ} (h : text.mapM charDigit = some l) :
    text = l.map digitChar ∧ ∀ d ∈ l, d < 58 := by
  induction text generalizing l with
  | nil =>
    obtain rfl : [] = l := by simpa using h
    simp
  | cons c text ih =>
    rw [List.mapM_cons] at h
    simp only [Option.bind_eq_bind, Option.bind_eq_some_iff] at h
    obtain ⟨d, hd, r, hr, hl⟩ := h
    obtain rfl : d :: r = l := by simpa using hl
    obtain ⟨htext, hlt⟩ := ih hr
    rw [List.map_cons, digitChar_of_charDigit hd, ← htext]
    exact ⟨rfl, List.forall_mem_cons.mpr ⟨lt_of_charDigit hd, hlt⟩⟩

/-- A text decodes to bytes just when it is their encoding. -/
theorem decode_eq_some_iff {text : Text} {bytes : Bytes} :
    decode text = some bytes ↔ text = encode bytes := by
  refine ⟨fun h => ?_, fun h => h ▸ decode_encode bytes⟩
  obtain ⟨l, hl, rfl⟩ := Option.map_eq_some_iff.mp h
  obtain ⟨rfl, hlt⟩ := eq_map_of_mapM_charDigit hl
  have hback :
      ((Radix.convert 58 256 l).map UInt8.ofNat).map UInt8.toNat = Radix.convert 58 256 l := by
    rw [List.map_map]
    refine (List.map_congr_left fun d hd => ?_).trans (List.map_id _)
    have hd256 : d < 256 := Radix.lt_of_mem_convert (by decide) hd
    simpa using Nat.mod_eq_of_lt hd256
  rw [encode, hback, Radix.convert_convert (by decide) hlt]

theorem mem_alphabet_of_mem_encode {bytes : Bytes} {c : Char} (h : c ∈ encode bytes) :
    c ∈ alphabet := by
  obtain ⟨d, hd, rfl⟩ := List.mem_map.mp h
  exact digitChar_mem_alphabet d (Radix.lt_of_mem_convert (by decide) hd)

/-- The leading character of the encoding of bytes without a leading zero byte. -/
theorem encode_head {bytes : Bytes} {d k : ℕ} (hd : 0 < d) (hd58 : d < 58)
    (hhead : bytes.head? ≠ some 0) (hlo : d * 58 ^ k ≤ Radix.value 256 (bytes.map UInt8.toNat))
    (hhi : Radix.value 256 (bytes.map UInt8.toNat) < (d + 1) * 58 ^ k) :
    (encode bytes).head? = some (digitChar d) := by
  have hzeros : (bytes.map UInt8.toNat).takeWhile (· = 0) = [] := by
    cases bytes with
    | nil => rfl
    | cons x bytes =>
      have hx : x.toNat ≠ 0 := fun h => hhead (by simpa using UInt8.toNat_inj.mp h)
      simp [hx]
  rw [encode, Radix.convert, hzeros, List.nil_append, List.head?_map,
    Radix.head_digits (by decide) hd hd58 hlo hhi]
  rfl

end Base58
