import Mathlib.Order.Defs.LinearOrder
import Mathlib.Order.Lattice
import Mathlib.Data.List.Nodup
import Mathlib.Data.List.Perm.Basic
import Mathlib.Tactic.Common

/-!
# Ordered maps

`OrdMap κ α` is a finite map with its keys in increasing order, the `BTreeMap` of the Rust standard
library. The entries of a map are indexed by a lower bound of their keys, so two maps with the same
lookups are equal (`OrdMap.ext`) and no proof ever speaks of a list being sorted.
-/

namespace OrdMap

/-- Entries with increasing keys, all above the bound `b` when there is one. -/
inductive Entries (κ : Type*) [LT κ] (α : Type*) : Option κ → Type _
  | nil {b : Option κ} : Entries κ α b
  | cons {b : Option κ} (k : κ) (above : ∀ a ∈ b, a < k) (v : α) (rest : Entries κ α (some k)) :
      Entries κ α b

end OrdMap

/-- A finite map from `κ` to `α`, its entries sorted by key. -/
abbrev OrdMap (κ : Type*) [LT κ] (α : Type*) := OrdMap.Entries κ α none

namespace OrdMap

section Lists

variable {κ α : Type*} [LT κ] {b : Option κ}

/-- The entries in the order of their keys. -/
def Entries.toList {b : Option κ} : Entries κ α b → List (κ × α)
  | .nil => []
  | .cons k _ v rest => (k, v) :: rest.toList

/-- No entries. -/
def empty : OrdMap κ α := .nil

instance : EmptyCollection (OrdMap κ α) := ⟨empty⟩

theorem Entries.toList_injective : Function.Injective (toList : Entries κ α b → List (κ × α)) := by
  intro m m' h
  induction m with
  | nil => cases m' with
    | nil => rfl
    | cons k _ v rest => cases h
  | cons k _ v rest ih => cases m' with
    | nil => cases h
    | cons k' _ v' rest' =>
      obtain ⟨⟨rfl, rfl⟩, hrest⟩ : (k = k' ∧ v = v') ∧ rest.toList = rest'.toList := by
        simpa [toList] using h
      rw [ih hrest]

instance [DecidableEq κ] [DecidableEq α] : DecidableEq (Entries κ α b) := fun _ _ =>
  decidable_of_iff _ Entries.toList_injective.eq_iff

end Lists

variable {κ α : Type*} [LinearOrder κ] {b : Option κ}

/-- The value stored under a key. -/
def Entries.get {b : Option κ} (q : κ) : Entries κ α b → Option α
  | .nil => none
  | .cons k _ v rest => if q = k then some v else rest.get q

/-- The map with `v` stored under `q`, in place of what was there. -/
def Entries.insertAbove {b : Option κ} (q : κ) (v : α) (hq : ∀ a ∈ b, a < q) :
    Entries κ α b → Entries κ α b
  | .nil => .cons q hq v .nil
  | .cons k hk w rest =>
    if hlt : q < k then .cons q hq v (.cons k (by simpa using hlt) w rest)
    else if heq : q = k then .cons k hk v rest
    else
      have hkq : k < q := lt_of_le_of_ne (not_lt.mp hlt) (Ne.symm heq)
      .cons k hk w (rest.insertAbove q v (by simpa using hkq))

/-- Entries above `k` are above every bound below `k`. -/
def Entries.lower {k : κ} (hk : ∀ a ∈ b, a < k) : Entries κ α (some k) → Entries κ α b
  | .nil => .nil
  | .cons k' hk' v rest => .cons k' (fun a ha => (hk a ha).trans (hk' k rfl)) v rest

/-- The map without the key `q`. -/
def Entries.erase {b : Option κ} (q : κ) : Entries κ α b → Entries κ α b
  | .nil => .nil
  | .cons k hk v rest => if q = k then rest.lower hk else .cons k hk v (rest.erase q)

/-- `BTreeMap::insert`. -/
def insert (m : OrdMap κ α) (q : κ) (v : α) : OrdMap κ α := Entries.insertAbove q v (by simp) m

/-- The map of a list of entries; of two entries with one key the later counts. -/
def ofList (l : List (κ × α)) : OrdMap κ α := l.foldl (fun m e => insert m e.1 e.2) empty

/-! ## Lookups -/

@[simp]
theorem get_nil (q : κ) : (Entries.nil : Entries κ α b).get q = none := rfl

@[simp]
theorem get_empty (q : κ) : (empty : OrdMap κ α).get q = none := rfl

@[simp]
theorem get_emptyCollection (q : κ) : Entries.get q (∅ : OrdMap κ α) = none := rfl

/-- Keys at or below the bound are absent. -/
theorem Entries.get_eq_none_of_le {q k : κ} {m : Entries κ α (some k)} (h : q ≤ k) :
    m.get q = none := by
  suffices H : ∀ {b : Option κ} (m : Entries κ α b), (∃ k ∈ b, q ≤ k) → m.get q = none from
    H m ⟨k, rfl, h⟩
  intro b m hb
  induction m with
  | nil => rfl
  | cons k' hk' v rest ih =>
    obtain ⟨k, hk, hq⟩ := hb
    have hlt : q < k' := hq.trans_lt (hk' k hk)
    rw [get, if_neg hlt.ne, ih ⟨k', rfl, hlt.le⟩]

theorem Entries.get_insertAbove {q p : κ} {v : α} {hq : ∀ a ∈ b, a < q} (m : Entries κ α b) :
    (m.insertAbove q v hq).get p = if p = q then some v else m.get p := by
  induction m with
  | nil => simp [insertAbove, get]
  | cons k hk w rest ih =>
    by_cases hlt : q < k
    · rw [insertAbove, dif_pos hlt, get]
      rfl
    · by_cases heq : q = k
      · rw [insertAbove, dif_neg hlt, dif_pos heq]
        by_cases hp : p = k <;> simp [get, heq, hp]
      · rw [insertAbove, dif_neg hlt, dif_neg heq, get, ih, get]
        by_cases hp : p = k <;> simp [hp, Ne.symm heq]

@[simp]
theorem get_insert (m : OrdMap κ α) (q p : κ) (v : α) :
    (insert m q v).get p = if p = q then some v else m.get p :=
  Entries.get_insertAbove m

theorem Entries.get_lower {k q : κ} (hk : ∀ a ∈ b, a < k) (m : Entries κ α (some k)) :
    (m.lower hk).get q = m.get q := by
  cases m <;> rfl

@[simp]
theorem Entries.get_erase {q p : κ} (m : Entries κ α b) :
    (m.erase q).get p = if p = q then none else m.get p := by
  induction m with
  | nil => simp [erase]
  | cons k hk v rest ih =>
    rw [erase]
    split_ifs with hqk hpq hpq
    · subst hqk hpq
      rw [get_lower, get_eq_none_of_le le_rfl]
    · rw [get_lower, get, if_neg (hqk ▸ hpq)]
    · rw [get, if_neg (hpq ▸ hqk), ih, if_pos hpq]
    · rw [get, ih, if_neg hpq, get]

/-- Maps with the same lookups are equal. -/
theorem Entries.ext_get {m m' : Entries κ α b} (h : ∀ q, m.get q = m'.get q) : m = m' := by
  induction m with
  | nil =>
    cases m' with
    | nil => rfl
    | cons k hk v rest => simpa [get] using h k
  | cons k hk v rest ih =>
    cases m' with
    | nil => simpa [get] using h k
    | cons k' hk' v' rest' =>
      -- The smaller of the two first keys would be found in one map only.
      obtain hlt | rfl | hgt := lt_trichotomy k k'
      · have := h k
        simp [get, hlt.ne, get_eq_none_of_le hlt.le] at this
      · obtain rfl : v = v' := by simpa [get] using h k
        have hrest : rest = rest' := ih fun q => by
          by_cases hq : q = k
          · rw [hq, get_eq_none_of_le le_rfl, get_eq_none_of_le le_rfl]
          · simpa [get, hq] using h q
        rw [hrest]
      · have := h k'
        simp [get, hgt.ne, get_eq_none_of_le hgt.le] at this

/-! ## Lists of entries -/

theorem Entries.lt_of_mem_toList {m : Entries κ α b} {e : κ × α} (h : e ∈ m.toList) :
    ∀ a ∈ b, a < e.1 := by
  induction m with
  | nil => cases h
  | cons k hk v rest ih =>
    intro a ha
    rcases List.mem_cons.mp h with rfl | h
    · exact hk a ha
    · exact (hk a ha).trans (ih h k rfl)

theorem Entries.nodup_keys (m : Entries κ α b) : (m.toList.map Prod.fst).Nodup := by
  induction m with
  | nil => simp [toList]
  | cons k hk v rest ih =>
    rw [toList, List.map_cons, List.nodup_cons]
    refine ⟨fun hmem => ?_, ih⟩
    obtain ⟨e, he, hek⟩ := List.mem_map.mp hmem
    exact (lt_of_mem_toList he k rfl).ne hek.symm

theorem Entries.get_eq_some_iff {m : Entries κ α b} {q : κ} {v : α} :
    m.get q = some v ↔ (q, v) ∈ m.toList := by
  induction m with
  | nil => simp [toList]
  | cons k hk w rest ih =>
    rw [get, toList, List.mem_cons]
    split_ifs with h
    · subst h
      have hno : (q, v) ∉ rest.toList := fun hm => (lt_of_mem_toList hm q rfl).false
      simp [hno, eq_comm]
    · simp [h, ih]

theorem get_foldl_insert {l : List (κ × α)} (hl : (l.map Prod.fst).Nodup) {m : OrdMap κ α} {q : κ}
    {v : α} : (l.foldl (fun m e => insert m e.1 e.2) m).get q = some v ↔
      (q, v) ∈ l ∨ q ∉ l.map Prod.fst ∧ m.get q = some v := by
  induction l generalizing m with
  | nil => simp
  | cons e l ih =>
    obtain ⟨k, w⟩ := e
    obtain ⟨hk, hl⟩ := List.nodup_cons.mp hl
    rw [List.foldl_cons, ih hl, get_insert]
    by_cases hq : q = k
    · subst hq
      have hno : (q, v) ∉ l := fun hm => hk (List.mem_map.mpr ⟨_, hm, rfl⟩)
      have hno' : q ∉ l.map Prod.fst := hk
      simp [hno, hno', eq_comm]
    · simp [hq]

/-- In the map of a list with distinct keys, a lookup finds exactly the listed entries. -/
theorem get_ofList_eq_some_iff {l : List (κ × α)} (hl : (l.map Prod.fst).Nodup) {q : κ} {v : α} :
    (ofList l).get q = some v ↔ (q, v) ∈ l := by
  simp [ofList, get_foldl_insert hl]

/-- Entries that are put into a map hide what was there. -/
theorem get_foldl_insert_or (l : List (κ × α)) (m : OrdMap κ α) (q : κ) :
    (l.foldl (fun m e => insert m e.1 e.2) m).get q = ((ofList l).get q).or (m.get q) := by
  unfold ofList
  induction l generalizing m with
  | nil => rfl
  | cons e l ih =>
    rw [List.foldl_cons, List.foldl_cons, ih, ih (insert empty e.1 e.2), Option.or_assoc,
      get_insert, get_insert]
    split_ifs <;> rfl

/-- Of two lists of entries the later one counts. -/
theorem get_ofList_append (l l' : List (κ × α)) (q : κ) :
    (ofList (l ++ l')).get q = ((ofList l').get q).or ((ofList l).get q) := by
  rw [ofList, List.foldl_append, get_foldl_insert_or]
  rfl

theorem get_ofList_cons (e : κ × α) (l : List (κ × α)) (q : κ) :
    (ofList (e :: l)).get q = ((ofList l).get q).or (if q = e.1 then some e.2 else none) := by
  rw [ofList, List.foldl_cons, get_foldl_insert_or, get_insert, get_empty]

theorem get_ofList_nil (q : κ) : (ofList ([] : List (κ × α))).get q = none := rfl

/-- An entry that is there if there is a value for it. -/
theorem get_ofList_toList {β : Type*} (o : Option β) (k : κ) (f : β → α) (q : κ) :
    (ofList (o.map fun a => (k, f a)).toList).get q = if q = k then o.map f else none := by
  cases o with
  | none => exact (ite_self none).symm
  | some a => rw [Option.map_some, Option.toList_some, get_ofList_cons, get_ofList_nil]; rfl

/-- The values of a map that is made from pairs are those of the pairs. -/
theorem get_ofList_map {β : Type*} (g : α → β) (l : List (κ × α)) (q : κ) :
    (ofList (l.map fun e => (e.1, g e.2))).get q = ((ofList l).get q).map g := by
  induction l with
  | nil => rfl
  | cons e l ih =>
    rw [List.map_cons, get_ofList_cons, get_ofList_cons, ih]
    rcases (ofList l).get q with _ | v
    · simp only [Option.map_none, Option.none_or]
      split_ifs <;> rfl
    · rfl

/-- The map of a list has no other entries. -/
theorem mem_of_mem_toList_ofList {l : List (κ × α)} {e : κ × α} (h : e ∈ (ofList l).toList) :
    e ∈ l := by
  have hfold : ∀ (m : OrdMap κ α), m.get e.1 ≠ some e.2 → e ∉ l →
      (l.foldl (fun m e => insert m e.1 e.2) m).get e.1 ≠ some e.2 := by
    clear h
    induction l with
    | nil => exact fun m hm _ => hm
    | cons e' l ih =>
      intro m hm he
      rw [List.mem_cons, not_or] at he
      refine ih _ ?_ he.2
      rw [get_insert]
      split_ifs with hkey
      · exact fun hvalue => he.1 (Prod.ext hkey (Option.some.inj hvalue).symm)
      · exact hm
  by_contra he
  exact hfold empty (by simp) he (Entries.get_eq_some_iff.mpr h)

/-- When entries with one key agree, a lookup finds exactly the listed entries. -/
theorem get_ofList_of_agree {l : List (κ × α)} (h : ∀ e ∈ l, ∀ e' ∈ l, e.1 = e'.1 → e.2 = e'.2)
    {q : κ} {v : α} : (ofList l).get q = some v ↔ (q, v) ∈ l := by
  induction l with
  | nil => simp [get_ofList_nil]
  | cons e l ih =>
    have hrest := ih fun a ha b hb =>
      h a (List.mem_cons_of_mem _ ha) b (List.mem_cons_of_mem _ hb)
    rw [get_ofList_cons, List.mem_cons, ← hrest]
    cases hget : (ofList l).get q with
    | none =>
      rw [Option.none_or]
      split_ifs with hq
      · rw [Option.some.injEq, Prod.ext_iff, hq]
        simp [eq_comm]
      · simp [Prod.ext_iff, hq]
    | some w =>
      rw [Option.some_or, Option.some.injEq]
      refine ⟨.inr, fun hv => hv.elim (fun he => ?_) id⟩
      -- The first entry has the key of a later one, and so its value.
      have hmem : (q, w) ∈ l := mem_of_mem_toList_ofList (Entries.get_eq_some_iff.mp hget)
      have hvalue := h e List.mem_cons_self (q, w) (List.mem_cons_of_mem _ hmem) (by rw [← he])
      rw [← he] at hvalue
      exact hvalue.symm

@[simp]
theorem ofList_toList (m : OrdMap κ α) : ofList m.toList = m :=
  Entries.ext_get fun q => Option.ext fun v => by
    rw [get_ofList_eq_some_iff m.nodup_keys, Entries.get_eq_some_iff]

/-- Distinct keys are only put in order. -/
theorem toList_ofList_perm {l : List (κ × α)} (hl : (l.map Prod.fst).Nodup) :
    (ofList l).toList.Perm l := by
  have hleft : (ofList l).toList.Nodup := (ofList l).nodup_keys.of_map _
  refine (List.perm_ext_iff_of_nodup hleft (hl.of_map _)).mpr fun e => ?_
  rw [← Entries.get_eq_some_iff, get_ofList_eq_some_iff hl]

theorem ofList_congr {l l' : List (κ × α)} (hl : (l.map Prod.fst).Nodup) (h : l.Perm l') :
    ofList l = ofList l' :=
  Entries.ext_get fun q => Option.ext fun v => by
    rw [get_ofList_eq_some_iff hl, get_ofList_eq_some_iff ((h.map _).nodup_iff.mp hl), h.mem_iff]

/-- A value that is there may be put there again. -/
theorem insert_of_get {m : OrdMap κ α} {q : κ} {v : α} (h : m.get q = some v) :
    m.insert q v = m := by
  refine Entries.ext_get fun p => ?_
  rw [get_insert]
  split_ifs with hp
  · rw [hp, h]
  · rfl

/-- Of two values put at one key the later one stays. -/
theorem insert_insert (m : OrdMap κ α) (q : κ) (v v' : α) :
    (m.insert q v).insert q v' = m.insert q v' := by
  refine Entries.ext_get fun p => ?_
  rw [get_insert, get_insert, get_insert]
  split_ifs <;> rfl

/-- A key that is not selected leaves the selected ones as they are. -/
theorem filterMap_keys_insert {β : Type*} {f : κ → Option β} {q : κ} (h : f q = none)
    (m : OrdMap κ α) (v : α) :
    ((m.insert q v).toList.map Prod.fst).filterMap f = (m.toList.map Prod.fst).filterMap f := by
  suffices H : ∀ {b : Option κ} (m : Entries κ α b) (hq : ∀ a ∈ b, a < q),
      ((m.insertAbove q v hq).toList.map Prod.fst).filterMap f =
        (m.toList.map Prod.fst).filterMap f from H m (by simp)
  intro b m hq
  induction m with
  | nil => exact List.filterMap_cons_none h
  | cons k hk w rest ih =>
    unfold Entries.insertAbove
    split_ifs with hlt heq
    · exact List.filterMap_cons_none h
    · rfl
    · simp only [Entries.toList, List.map_cons, List.filterMap_cons, ih]

/-- The map with `g` applied to every value. -/
def Entries.mapValues {β : Type*} (g : α → β) {b : Option κ} : Entries κ α b → Entries κ β b
  | .nil => .nil
  | .cons k above v rest => .cons k above (g v) (rest.mapValues g)

theorem Entries.toList_mapValues {β : Type*} (g : α → β) (m : Entries κ α b) :
    (m.mapValues g).toList = m.toList.map fun e => (e.1, g e.2) := by
  induction m with
  | nil => rfl
  | cons k _ v rest ih => rw [mapValues, toList, toList, ih, List.map_cons]

end OrdMap
