import Swiyu.Core.StatusList
import Swiyu.Lib.BitField

/-!
# Status lists as arrays of slots

A status list packs slots of one or two bits into bytes. Seen from outside it is an array of slot
values: reading reads one of them, and writing replaces one and leaves the others alone.

## Main definitions

- `Swiyu.SlotArray`: arrays of values of a bounded width, the abstract model.
- `Swiyu.StatusList.toSlotArray`: the array that a status list stands for.

## Main results

- `Swiyu.StatusList.setAt_spec`: a write is one of the array, or fails and changes nothing.
- `Swiyu.StatusList.refines_slotArray`: over any number of writes.
-/

namespace Swiyu

/-- An array of slot values, each below `2 ^ width`. -/
structure SlotArray where
  width : ℕ
  values : List UInt8
  /-- No slot holds more than its width allows. -/
  bounded : ∀ v ∈ values, v.toNat < 2 ^ width

namespace SlotArray

/-- The array takes the value `v` at `i`. -/
def Admits (a : SlotArray) (i : ℕ) (v : UInt8) : Prop :=
  i < a.values.length ∧ v.toNat < 2 ^ a.width

instance (a : SlotArray) (i : ℕ) (v : UInt8) : Decidable (a.Admits i v) :=
  inferInstanceAs (Decidable (_ ∧ _))

/-- Replaces one value; a write that the array does not admit changes nothing. -/
def write (a : SlotArray) (i : ℕ) (v : UInt8) : SlotArray :=
  if h : a.Admits i v then
    { a with
      values := a.values.set i v
      bounded := fun u hu => (List.mem_or_eq_of_mem_set hu).elim (a.bounded u) fun e => e ▸ h.2 }
  else a

@[ext]
theorem ext {a b : SlotArray} (hw : a.width = b.width) (hv : a.values = b.values) : a = b := by
  cases a
  cases b
  cases hw
  cases hv
  rfl

end SlotArray

namespace StatusList

/-! ## Slots -/

/-- The number of slots in a byte. -/
def slotsPerByte (list : StatusList) : ℕ := 8 / list.bits.toNat

/-- The number of slots. -/
def slotCount (list : StatusList) : ℕ := list.bytes.length * list.slotsPerByte

/-- The shift of slot `i` in its byte. -/
def shiftOf (list : StatusList) (i : ℕ) : UInt8 :=
  UInt8.ofNat (i % list.slotsPerByte * list.bits.toNat)

/-- The bit pattern in slot `i`. -/
def slot (list : StatusList) (i : ℕ) : UInt8 :=
  BitField.read list.bits.toNat (list.bytes.getD (i / list.slotsPerByte) 0) (list.shiftOf i)

theorem slot_lt (list : StatusList) (i : ℕ) : (list.slot i).toNat < 2 ^ list.bits.toNat :=
  BitField.read_lt

/-- The array that a list stands for. -/
def toSlotArray (list : StatusList) : SlotArray where
  width := list.bits.toNat
  values := (List.range list.slotCount).map list.slot
  bounded := by
    intro v hv
    obtain ⟨i, -, rfl⟩ := List.mem_map.mp hv
    exact list.slot_lt i

variable {list : StatusList} {i j : ℕ}

theorem bits_cases (list : StatusList) :
    list.bits = 1 ∧ list.bits.toNat = 1 ∧ list.slotsPerByte = 8 ∨
      list.bits = 2 ∧ list.bits.toNat = 2 ∧ list.slotsPerByte = 4 := by
  rcases list.bits_valid with h | h
  · exact .inl ⟨h, by rw [h]; rfl, by rw [slotsPerByte, h]; rfl⟩
  · exact .inr ⟨h, by rw [h]; rfl, by rw [slotsPerByte, h]; rfl⟩

/-- A slot lies in its byte. -/
theorem shiftOf_toNat (list : StatusList) (i : ℕ) :
    (list.shiftOf i).toNat = i % list.slotsPerByte * list.bits.toNat ∧
      (list.shiftOf i).toNat + list.bits.toNat ≤ 8 := by
  rcases list.bits_cases with ⟨-, hb, hp⟩ | ⟨-, hb, hp⟩
  · have hlt : i % 8 < 8 := Nat.mod_lt _ (by decide)
    simp only [shiftOf, hb, hp, UInt8.toNat_ofNat']
    omega
  · have hlt : i % 4 < 4 := Nat.mod_lt _ (by decide)
    simp only [shiftOf, hb, hp, UInt8.toNat_ofNat']
    omega

theorem byteIndex_lt_iff : i / list.slotsPerByte < list.bytes.length ↔ i < list.slotCount := by
  have hpos : 0 < list.slotsPerByte := by
    rcases list.bits_cases with ⟨-, -, hp⟩ | ⟨-, -, hp⟩ <;> rw [hp] <;> decide
  rw [slotCount, Nat.div_lt_iff_lt_mul hpos]

/-- The list with the value `raw` in slot `i`. -/
def putSlot (list : StatusList) (i : ℕ) (raw : UInt8) : StatusList :=
  { list with
    bytes := list.bytes.set (i / list.slotsPerByte) (BitField.write list.bits.toNat
      (list.bytes.getD (i / list.slotsPerByte) 0) (list.shiftOf i) raw) }

/-- A write to one slot is read there and nowhere else. -/
theorem slot_putSlot {raw : UInt8} (hi : i < list.slotCount)
    (hraw : raw.toNat < 2 ^ list.bits.toNat) (j : ℕ) :
    (list.putSlot i raw).slot j = if j = i then raw else list.slot j := by
  have hbyte := byteIndex_lt_iff.mpr hi
  obtain ⟨hshift, hfit⟩ := list.shiftOf_toNat i
  obtain ⟨hshift', hfit'⟩ := list.shiftOf_toNat j
  have hpos : 0 < list.bits.toNat := by
    rcases list.bits_cases with ⟨-, hb, -⟩ | ⟨-, hb, -⟩ <;> rw [hb] <;> decide
  have hread : (list.putSlot i raw).slot j = BitField.read list.bits.toNat
      ((list.putSlot i raw).bytes.getD (j / list.slotsPerByte) 0) (list.shiftOf j) := rfl
  rw [hread, putSlot, List.getD_eq_getElem?_getD, List.getElem?_set]
  -- Only the byte of the written slot has changed.
  by_cases hsame : i / list.slotsPerByte = j / list.slotsPerByte
  · rw [if_pos hsame, if_pos hbyte, Option.getD_some]
    by_cases hij : j = i
    · subst hij
      rw [if_pos rfl, BitField.read_write_self hfit (by omega), BitField.and_mask hraw]
    · rw [if_neg hij, BitField.read_write_of_disjoint _ (by omega) hfit' (by omega), slot, hsame]
      -- Two slots of one byte are a width apart.
      have hne : i % list.slotsPerByte ≠ j % list.slotsPerByte := by
        intro hmod
        have hi' := Nat.div_add_mod i list.slotsPerByte
        have hj' := Nat.div_add_mod j list.slotsPerByte
        rw [hsame, hmod, hj'] at hi'
        exact hij hi'
      rw [hshift, hshift']
      rcases Nat.lt_or_gt_of_ne hne with hlt | hgt
      · refine .inl ?_
        calc i % list.slotsPerByte * list.bits.toNat + list.bits.toNat
            = (i % list.slotsPerByte + 1) * list.bits.toNat := by ring
          _ ≤ j % list.slotsPerByte * list.bits.toNat := Nat.mul_le_mul_right _ hlt
      · refine .inr ?_
        calc j % list.slotsPerByte * list.bits.toNat + list.bits.toNat
            = (j % list.slotsPerByte + 1) * list.bits.toNat := by ring
          _ ≤ i % list.slotsPerByte * list.bits.toNat := Nat.mul_le_mul_right _ hgt
  · have hij : j ≠ i := by
      rintro rfl
      exact hsame rfl
    rw [if_neg hsame, if_neg hij, slot, List.getD_eq_getElem?_getD]

/-! ## Reading and writing -/

theorem toU8_fromRaw (raw bits : UInt8) : (StatusValue.fromRaw raw bits).toU8 = raw := by
  rw [StatusValue.fromRaw]
  split_ifs with h₀ h₁ h₂
  · exact h₀.symm
  · exact h₁.symm
  · exact h₂.2.symm
  · rfl

/-- The place of a slot as the code computes it, in a list of one bit a slot. -/
theorem place_one (hb : list.bits.toNat = 1) (hp : list.slotsPerByte = 8) (idx : UInt64) :
    (idx / 8).toNat = idx.toNat / list.slotsPerByte ∧
      (idx % 8).toUInt8 = list.shiftOf idx.toNat := by
  refine ⟨by rw [hp, UInt64.toNat_div]; rfl, UInt8.toNat_inj.mp ?_⟩
  have hlt : idx.toNat % 8 < 8 := Nat.mod_lt _ (by decide)
  have h8 : (8 : UInt64).toNat = 8 := rfl
  rw [(list.shiftOf_toNat idx.toNat).1, hb, hp, UInt64.toNat_toUInt8, UInt64.toNat_mod, h8]
  omega

/-- The place of a slot as the code computes it, in a list of two bits a slot. -/
theorem place_two (hb : list.bits.toNat = 2) (hp : list.slotsPerByte = 4) (idx : UInt64) :
    (idx / 4).toNat = idx.toNat / list.slotsPerByte ∧
      (idx % 4 * 2).toUInt8 = list.shiftOf idx.toNat := by
  refine ⟨by rw [hp, UInt64.toNat_div]; rfl, UInt8.toNat_inj.mp ?_⟩
  have hlt : idx.toNat % 4 < 4 := Nat.mod_lt _ (by decide)
  have h4 : (4 : UInt64).toNat = 4 := rfl
  have h2 : (2 : UInt64).toNat = 2 := rfl
  rw [(list.shiftOf_toNat idx.toNat).1, hb, hp, UInt64.toNat_toUInt8, UInt64.toNat_mul,
    UInt64.toNat_mod, h4, h2]
  omega

/-- A byte that the code looks up. -/
theorem getElem?_bytes (list : StatusList) (i : ℕ) :
    list.bytes[i / list.slotsPerByte]? =
      if i < list.slotCount then some (list.bytes.getD (i / list.slotsPerByte) 0) else none := by
  by_cases h : i < list.slotCount
  · have hbyte := byteIndex_lt_iff.mpr h
    rw [if_pos h, List.getD_eq_getElem _ _ hbyte, List.getElem?_eq_getElem hbyte]
  · rw [if_neg h, List.getElem?_eq_none (not_lt.mp (mt byteIndex_lt_iff.mp h))]

/-- A read yields the value of the slot; there is nothing to read past the last one. -/
theorem valueAt_eq (list : StatusList) (idx : UInt64) :
    list.valueAt idx = if idx.toNat < list.slotCount then
      .ok (.fromRaw (list.slot idx.toNat) list.bits)
    else .error (.idxOutOfRange idx list.len) := by
  rcases list.bits_cases with ⟨h, hb, hp⟩ | ⟨h, hb, hp⟩
  · obtain ⟨hbyte, hshift⟩ := place_one hb hp idx
    rw [valueAt, if_pos h, hbyte, hshift, getElem?_bytes, slot, BitField.read, hb]
    by_cases hi : idx.toNat < list.slotCount
    · rw [if_pos hi, if_pos hi]
      rfl
    · rw [if_neg hi, if_neg hi]
      rfl
  · obtain ⟨hbyte, hshift⟩ := place_two hb hp idx
    have hne : list.bits ≠ 1 := by
      rw [h]
      decide
    rw [valueAt, if_neg hne, if_pos h, hbyte, hshift, getElem?_bytes, slot, BitField.read, hb]
    by_cases hi : idx.toNat < list.slotCount
    · rw [if_pos hi, if_pos hi]
      rfl
    · rw [if_neg hi, if_neg hi]
      rfl

theorem toRaw_eq (list : StatusList) (value : StatusValue) :
    value.toRaw list.bits = if value.toU8.toNat < 2 ^ list.bits.toNat then .ok value.toU8
      else .error (.valueOutOfRange value.toU8 list.bits) := by
  have hmax : ∃ m, maxRaw list.bits = .ok m ∧
      (value.toU8 ≤ m ↔ value.toU8.toNat < 2 ^ list.bits.toNat) := by
    rcases list.bits_cases with ⟨h, hb, -⟩ | ⟨h, hb, -⟩
    · refine ⟨1, by rw [h]; rfl, ?_⟩
      rw [hb, UInt8.le_iff_toNat_le]
      exact Nat.lt_succ_iff.symm
    · refine ⟨3, by rw [h]; rfl, ?_⟩
      rw [hb, UInt8.le_iff_toNat_le]
      exact Nat.lt_succ_iff.symm
  obtain ⟨m, hm, hle⟩ := hmax
  rw [StatusValue.toRaw, hm]
  by_cases h : value.toU8.toNat < 2 ^ list.bits.toNat
  · simp [Except.ensure, hle.mpr h, h, pure, Except.pure]
  · simp [Except.ensure, mt hle.mp h, h, bind, Except.bind]

theorem updateByte_eq (list : StatusList) (i : ℕ) (f : UInt8 → UInt8) (e : StatusListError) :
    updateByte (i / list.slotsPerByte) f e list = if i < list.slotCount then
      (.ok (), { list with
        bytes := list.bytes.set (i / list.slotsPerByte)
          (f (list.bytes.getD (i / list.slotsPerByte) 0)) })
    else (.error e, list) := by
  have hstep : updateByte (i / list.slotsPerByte) f e list =
      match list.bytes[i / list.slotsPerByte]? with
      | some byte =>
        (.ok (), { list with bytes := list.bytes.set (i / list.slotsPerByte) (f byte) })
      | none => (.error e, list) := by
    cases hget : list.bytes[i / list.slotsPerByte]? <;>
      simp [updateByte, bind, Command.read, Command.ofExcept, Command.update, hget, Option.okOr]
  rw [hstep, getElem?_bytes]
  by_cases hi : i < list.slotCount
  · rw [if_pos hi, if_pos hi]
  · rw [if_neg hi, if_neg hi]

/-- A write puts the value into its slot, unless the value or the index is out of range. -/
theorem setAt_eq (list : StatusList) (idx : UInt64) (value : StatusValue) :
    setAt idx value list =
      if value.toU8.toNat < 2 ^ list.bits.toNat then
        if idx.toNat < list.slotCount then (.ok (), list.putSlot idx.toNat value.toU8)
        else (.error (.idxOutOfRange idx list.len), list)
      else (.error (.valueOutOfRange value.toU8 list.bits), list) := by
  -- First the steps of the code, with the shift and the mask of each width.
  have hstep : setAt idx value list = match value.toRaw list.bits with
      | .ok raw =>
        if list.bits = 1 then
          updateByte (idx / 8).toNat (fun byte => BitField.write 1 byte (idx % 8).toUInt8 raw)
            (.idxOutOfRange idx list.len) list
        else if list.bits = 2 then
          updateByte (idx / 4).toNat (fun byte => BitField.write 2 byte (idx % 4 * 2).toUInt8 raw)
            (.idxOutOfRange idx list.len) list
        else (.error (.unsupportedBits list.bits), list)
      | .error e => (.error e, list) := by
    cases hraw : value.toRaw list.bits with
    | error e => simp [setAt, bind, Command.read, Command.ofExcept, hraw]
    | ok raw =>
      simp only [setAt, bind, Command.read, Command.ofExcept, hraw]
      split_ifs <;> rfl
  rw [hstep, toRaw_eq]
  by_cases hraw : value.toU8.toNat < 2 ^ list.bits.toNat
  · rw [if_pos hraw, if_pos hraw]
    -- Eight or four slots share a byte.
    rcases list.bits_cases with ⟨h, hb, hp⟩ | ⟨h, hb, hp⟩
    · obtain ⟨hbyte, hshift⟩ := place_one hb hp idx
      simp only [if_pos h]
      rw [hbyte, hshift, updateByte_eq, putSlot, hb]
    · obtain ⟨hbyte, hshift⟩ := place_two hb hp idx
      have hne : list.bits ≠ 1 := by
        rw [h]
        decide
      simp only [if_neg hne, if_pos h]
      rw [hbyte, hshift, updateByte_eq, putSlot, hb]
  · rw [if_neg hraw, if_neg hraw]

/-! ## Refinement -/

theorem slotCount_eq (list : StatusList) :
    list.slotCount = list.bytes.length * 8 / list.bits.toNat := by
  rcases list.bits_cases with ⟨-, hb, hp⟩ | ⟨-, hb, hp⟩
  · rw [slotCount, hb, hp, Nat.div_one]
  · rw [slotCount, hb, hp]
    omega

/-- The length is the number of slots, as far as a `u64` can hold it. -/
theorem len_toNat (list : StatusList) : list.len.toNat = list.slotCount % 2 ^ 64 := by
  have hper : ((8 / list.bits).toUInt64).toNat = list.slotsPerByte := by
    rcases list.bits_cases with ⟨h, -, hp⟩ | ⟨h, -, hp⟩ <;> rw [h, hp] <;> rfl
  rw [len, UInt64.toNat_mul, hper, UInt64.toNat_ofNat', Nat.mod_mul_mod, slotCount]

/-- A list of zeros has the capacity asked for. -/
theorem len_of_new {bits : UInt8} {capacity : UInt64} (h : new bits capacity = .ok list) :
    list.len = capacity := by
  simp only [new] at h
  split_ifs at h with hbits hcap
  cases h
  apply UInt64.toNat_inj.mp
  have hlt := capacity.toNat_lt
  rw [len_toNat, slotCount_eq, List.length_replicate]
  rcases hbits with rfl | rfl
  · have h1 : (1 : UInt8).toNat = 1 := rfl
    rw [h1] at hcap ⊢
    omega
  · have h2 : (2 : UInt8).toNat = 2 := rfl
    rw [h2] at hcap ⊢
    omega

/-- What a user of the list relies on. -/
structure ActsAsArray (list : StatusList) : Prop where
  width : list.bits = 1 ∨ list.bits = 2
  len : list.len = UInt64.ofNat (list.bytes.length * 8 / list.bits.toNat)
  /-- The length bounds the indices, unless the number of slots exceeds a `u64`. -/
  lt_len : list.slotCount < 2 ^ 64 → ∀ i : UInt64, i < list.len ↔ i.toNat < list.slotCount
  read : ∀ i, (∃ v, list.valueAt i = .ok v) ↔ i.toNat < list.slotCount
  /-- A value that is read is that of the array. -/
  value : ∀ i v, list.valueAt i = .ok v → list.toSlotArray.values[i.toNat]? = some v.toU8
  write : ∀ i v list', setAt i v list = (.ok (), list') →
    (list'.valueAt i).map StatusValue.toU8 = .ok v.toU8 ∧
      ∀ j ≠ i, list'.valueAt j = list.valueAt j
  reject : ∀ i v, (∃ e, (setAt i v list).1 = .error e) ↔
    list.slotCount ≤ i.toNat ∨ 2 ^ list.bits.toNat ≤ v.toU8.toNat
  unchanged : ∀ i v e, (setAt i v list).1 = .error e → (setAt i v list).2 = list

/-- What a write does: it puts the value into its slot, or nothing. -/
theorem setAt_cases (list : StatusList) (i : UInt64) (v : StatusValue) :
    (i.toNat < list.slotCount ∧ v.toU8.toNat < 2 ^ list.bits.toNat) ∧
        setAt i v list = (.ok (), list.putSlot i.toNat v.toU8) ∨
      (list.slotCount ≤ i.toNat ∨ 2 ^ list.bits.toNat ≤ v.toU8.toNat) ∧
        ∃ e, setAt i v list = (.error e, list) := by
  rw [setAt_eq]
  by_cases hv : v.toU8.toNat < 2 ^ list.bits.toNat
  · by_cases hi : i.toNat < list.slotCount
    · rw [if_pos hv, if_pos hi]
      exact .inl ⟨⟨hi, hv⟩, rfl⟩
    · rw [if_pos hv, if_neg hi]
      exact .inr ⟨.inl (not_lt.mp hi), _, rfl⟩
  · rw [if_neg hv]
    exact .inr ⟨.inr (not_lt.mp hv), _, rfl⟩

theorem putSlot_slotCount (list : StatusList) (i : ℕ) (raw : UInt8) :
    (list.putSlot i raw).slotCount = list.slotCount := by
  rw [slotCount, slotCount, putSlot, List.length_set]
  rfl

theorem putSlot_len (list : StatusList) (i : ℕ) (raw : UInt8) :
    (list.putSlot i raw).len = list.len := by
  rw [StatusList.len, StatusList.len, putSlot, List.length_set]

theorem actsAsArray (list : StatusList) : list.ActsAsArray where
  width := list.bits_valid
  len := by
    apply UInt64.toNat_inj.mp
    rw [len_toNat, slotCount_eq, UInt64.toNat_ofNat']
  lt_len := by
    intro hfits i
    rw [UInt64.lt_iff_toNat_lt, len_toNat, Nat.mod_eq_of_lt hfits]
  read := by
    intro i
    rw [valueAt_eq]
    by_cases hi : i.toNat < list.slotCount <;> simp [hi]
  value := by
    intro i v hv
    rw [valueAt_eq] at hv
    split_ifs at hv with hi
    cases hv
    rw [toU8_fromRaw]
    simp [toSlotArray, hi]
  write := by
    intro i v list' hset
    -- A write goes through when the slot is there and the value fits into its width.
    rcases list.setAt_cases i v with ⟨⟨hi, hv⟩, h⟩ | ⟨-, e, h⟩
    · rw [h] at hset
      cases hset
      have hcount := list.putSlot_slotCount i.toNat v.toU8
      refine ⟨?_, ?_⟩
      · rw [valueAt_eq, hcount, if_pos hi, slot_putSlot hi hv, if_pos rfl]
        exact congrArg Except.ok (toU8_fromRaw _ _)
      · -- Other slots keep their values, those in the same byte too.
        intro j hj
        have hne : j.toNat ≠ i.toNat := mt UInt64.toNat_inj.mp hj
        rw [valueAt_eq, valueAt_eq, hcount, slot_putSlot hi hv, if_neg hne, putSlot_len]
        rfl
    · rw [h] at hset
      cases hset
  reject := by
    intro i v
    rcases list.setAt_cases i v with ⟨⟨hi, hv⟩, h⟩ | ⟨hout, e, h⟩
    · rw [h]
      simp [hi, hv]
    · rw [h]
      exact ⟨fun _ => hout, fun _ => ⟨e, rfl⟩⟩
  unchanged := by
    intro i v e herr
    rcases list.setAt_cases i v with ⟨-, h⟩ | ⟨-, e', h⟩
    · rw [h] at herr
      cases herr
    · rw [h]

/-- A write to the list is one to the array that it stands for. -/
theorem setAt_spec (list : StatusList) (i : UInt64) (v : StatusValue) :
    (setAt i v list).2.toSlotArray = list.toSlotArray.write i.toNat v.toU8 := by
  have hadmits : list.toSlotArray.Admits i.toNat v.toU8 ↔
      i.toNat < list.slotCount ∧ v.toU8.toNat < 2 ^ list.bits.toNat := by
    simp [SlotArray.Admits, toSlotArray]
  rcases list.setAt_cases i v with ⟨hin, h⟩ | ⟨hout, e, h⟩
  · rw [h, SlotArray.write, dif_pos (hadmits.mpr hin)]
    refine SlotArray.ext rfl (List.ext_getElem ?_ ?_)
    · simp [toSlotArray, putSlot_slotCount]
    · intro j hj hj'
      simp only [toSlotArray, List.getElem_map, List.getElem_range, List.getElem_set]
      rw [slot_putSlot hin.1 hin.2]
      by_cases hij : i.toNat = j
      · rw [if_pos hij, if_pos hij.symm]
      · rw [if_neg hij, if_neg (Ne.symm hij)]
  · have hnot : ¬ list.toSlotArray.Admits i.toNat v.toU8 := by
      rw [hadmits]
      omega
    rw [h, SlotArray.write, dif_neg hnot]

/-- A write keeps the width and the number of bytes. -/
theorem setAt_shape (list : StatusList) (i : UInt64) (v : StatusValue) :
    (setAt i v list).2.bits = list.bits ∧
      (setAt i v list).2.bytes.length = list.bytes.length := by
  rcases list.setAt_cases i v with ⟨-, h⟩ | ⟨-, e, h⟩
  · rw [h]
    exact ⟨rfl, List.length_set⟩
  · rw [h]
    exact ⟨rfl, rfl⟩

/-- One write after the other, whatever comes of each. -/
def setAll (list : StatusList) (ops : List (UInt64 × StatusValue)) : StatusList :=
  ops.foldl (fun l op => (setAt op.1 op.2 l).2) list

theorem setAll_shape (list : StatusList) (ops : List (UInt64 × StatusValue)) :
    (list.setAll ops).bits = list.bits ∧
      (list.setAll ops).bytes.length = list.bytes.length := by
  induction ops generalizing list with
  | nil => exact ⟨rfl, rfl⟩
  | cons op ops ih =>
    obtain ⟨hbits, hlength⟩ := ih (setAt op.1 op.2 list).2
    obtain ⟨hbits', hlength'⟩ := list.setAt_shape op.1 op.2
    exact ⟨hbits.trans hbits', hlength.trans hlength'⟩

/-- Any number of writes to the list are those to its array. -/
theorem toSlotArray_setAll (list : StatusList) (ops : List (UInt64 × StatusValue)) :
    (list.setAll ops).toSlotArray =
      ops.foldl (fun a op => a.write op.1.toNat op.2.toU8) list.toSlotArray := by
  induction ops generalizing list with
  | nil => rfl
  | cons op ops ih =>
    have hrest := ih (setAt op.1 op.2 list).2
    rw [setAt_spec] at hrest
    exact hrest

/-- Whatever is written to a list, it stays the array that it was, of the same width and length,
with the writes that the array admits carried out. -/
theorem refines_slotArray (list : StatusList) (ops : List (UInt64 × StatusValue)) :
    (list.setAll ops).ActsAsArray ∧
      (list.setAll ops).bits = list.bits ∧
      (list.setAll ops).bytes.length = list.bytes.length ∧
      (list.setAll ops).toSlotArray =
        ops.foldl (fun a op => a.write op.1.toNat op.2.toU8) list.toSlotArray ∧
      ∀ bits capacity, new bits capacity = .ok list → (list.setAll ops).len = capacity := by
  obtain ⟨hbits, hlength⟩ := list.setAll_shape ops
  refine ⟨actsAsArray _, hbits, hlength, list.toSlotArray_setAll ops, ?_⟩
  intro bits capacity hnew
  rw [(actsAsArray _).len, hbits, hlength, ← (actsAsArray list).len]
  exact len_of_new hnew

end StatusList

end Swiyu
