import Mathlib.Algebra.Group.Nat.Defs
import Mathlib.Tactic.Common

/-!
# Bit fields of a byte

A byte holds several values of a few bits each, at different shifts. Writing one of them leaves the
others alone.

## Main results

- `BitField.read_write_self`: what is written is read.
- `BitField.read_write_of_disjoint`: fields that do not overlap are left alone.
-/

namespace BitField

/-- The byte whose lowest `w` bits are set. -/
def mask (w : ℕ) : UInt8 := UInt8.ofNat (2 ^ w - 1)

/-- The field of `w` bits at a shift. -/
def read (w : ℕ) (byte shift : UInt8) : UInt8 := (byte >>> shift) &&& mask w

/-- The byte with the lowest `w` bits of `raw` in the field at a shift. -/
def write (w : ℕ) (byte shift raw : UInt8) : UInt8 :=
  (byte &&& ~~~(mask w <<< shift)) ||| ((raw &&& mask w) <<< shift)

variable {w : ℕ} {byte shift shift' raw : UInt8}

theorem getLsbD_mask (w i : ℕ) :
    (mask w).toBitVec.getLsbD i = (decide (i < w) && decide (i < 8)) := by
  simp [mask, UInt8.ofNat, BitVec.getLsbD_ofNat, Nat.testBit_two_pow_sub_one, Bool.and_comm]

/-- The bits of a field. -/
theorem getLsbD_read (hs : shift.toNat < 8) (i : ℕ) :
    (read w byte shift).toBitVec.getLsbD i =
      (byte.toBitVec.getLsbD (shift.toNat + i) && decide (i < w)) := by
  simp only [read, UInt8.toBitVec_and, UInt8.toBitVec_shiftRight, BitVec.getLsbD_and,
    BitVec.ushiftRight_eq', BitVec.getLsbD_ushiftRight, getLsbD_mask]
  have hmod : (shift.toBitVec % 8).toNat = shift.toNat := by simp [Nat.mod_eq_of_lt hs]
  rw [hmod]
  by_cases hi : i < 8
  · simp [hi]
  · have hout : byte.toBitVec.getLsbD (shift.toNat + i) = false :=
      BitVec.getLsbD_of_ge _ _ (by omega)
    simp [hout]

/-- The bits of a byte after a write: those of the field are those written. -/
theorem getLsbD_write (hs : shift.toNat < 8) {i : ℕ} (hi : i < 8) :
    (write w byte shift raw).toBitVec.getLsbD i =
      if shift.toNat ≤ i ∧ i < shift.toNat + w then raw.toBitVec.getLsbD (i - shift.toNat)
      else byte.toBitVec.getLsbD i := by
  have hmod : (shift.toBitVec % 8).toNat = shift.toNat := by simp [Nat.mod_eq_of_lt hs]
  have hsub : i - shift.toNat < 8 := by omega
  simp only [write, UInt8.toBitVec_or, UInt8.toBitVec_and, UInt8.toBitVec_not,
    UInt8.toBitVec_shiftLeft, BitVec.getLsbD_or, BitVec.getLsbD_and, BitVec.getLsbD_not,
    BitVec.shiftLeft_eq', BitVec.getLsbD_shiftLeft, getLsbD_mask, hmod, hi, hsub, decide_true,
    Bool.true_and, Bool.and_true]
  by_cases hle : shift.toNat ≤ i
  · have hge : ¬ i < shift.toNat := by omega
    by_cases hlt : i < shift.toNat + w
    · have hw : i - shift.toNat < w := by omega
      simp [hge, hle, hlt, hw]
    · have hw : ¬ i - shift.toNat < w := by omega
      simp [hge, hle, hlt, hw]
  · have hlt : i < shift.toNat := by omega
    simp [hlt, hle]

/-- What has been written is read, cut to the width of the field. -/
theorem read_write_self (h : shift.toNat + w ≤ 8) (hs : shift.toNat < 8) :
    read w (write w byte shift raw) shift = raw &&& mask w := by
  refine UInt8.toBitVec_inj.mp (BitVec.eq_of_getLsbD_eq fun i hi => ?_)
  rw [getLsbD_read hs, UInt8.toBitVec_and, BitVec.getLsbD_and, getLsbD_mask]
  by_cases hw : i < w
  · rw [getLsbD_write hs (by omega), if_pos (by omega), Nat.add_sub_cancel_left]
    simp [hw, hi]
  · simp [hw]

/-- A write leaves the fields alone that do not overlap with it. -/
theorem read_write_of_disjoint (h : shift.toNat + w ≤ shift'.toNat ∨ shift'.toNat + w ≤ shift.toNat)
    (hs : shift.toNat < 8) (hs' : shift'.toNat + w ≤ 8) (hlt : shift'.toNat < 8) :
    read w (write w byte shift raw) shift' = read w byte shift' := by
  refine UInt8.toBitVec_inj.mp (BitVec.eq_of_getLsbD_eq fun i hi => ?_)
  rw [getLsbD_read hlt, getLsbD_read hlt]
  by_cases hw : i < w
  · rw [getLsbD_write hs (by omega), if_neg (by omega)]
  · simp [hw]

/-- A value that fits in `w` bits is not cut. -/
theorem and_mask (h : raw.toNat < 2 ^ w) : raw &&& mask w = raw := by
  refine UInt8.toBitVec_inj.mp (BitVec.eq_of_getLsbD_eq fun i hi => ?_)
  rw [UInt8.toBitVec_and, BitVec.getLsbD_and, getLsbD_mask]
  by_cases hw : i < w
  · simp [hw, hi]
  · have hpow : 2 ^ w ≤ 2 ^ i := Nat.pow_le_pow_right (by decide) (Nat.le_of_not_lt hw)
    have hbit : raw.toBitVec.getLsbD i = false :=
      Nat.testBit_lt_two_pow (Nat.lt_of_lt_of_le h hpow)
    simp [hw, hbit]

theorem read_lt : (read w byte shift).toNat < 2 ^ w := by
  refine Nat.lt_pow_two_of_testBit _ fun i hi => ?_
  have hbit : (read w byte shift).toNat.testBit i =
      (read w byte shift).toBitVec.getLsbD i := rfl
  have hw : ¬ i < w := Nat.not_lt_of_le hi
  rw [hbit, read, UInt8.toBitVec_and, BitVec.getLsbD_and, getLsbD_mask]
  simp [hw]

end BitField
