import Swiyu.Lib.Json.Reprint

/-!
# Plain values

Values that are written without doubles and are not nested too deep. Such a value is read back from
its rendering, which is a single line.

## Main results

- `Json.Value.PlainWithin.parse_print`: a plain value is read back.
- `Json.Value.PlainWithin.newline_notMem_print`: its rendering is a single line.
-/

namespace Json

namespace Value

/-- A value without doubles in which arrays and objects are nested at most `n` deep. -/
structure PlainWithin (n : ℕ) (v : Value) : Prop where
  floats : v.floats = []
  depth : v.depth ≤ n

namespace PlainWithin

variable {n m : ℕ} {v : Value}

theorem mono (h : PlainWithin n v) (hnm : n ≤ m) : PlainWithin m v :=
  ⟨h.floats, h.depth.trans hnm⟩

theorem string (n : ℕ) (s : Text) : PlainWithin n (.string s) :=
  ⟨rfl, Nat.zero_le n⟩

theorem bool (n : ℕ) (b : Bool) : PlainWithin n (.bool b) :=
  ⟨rfl, Nat.zero_le n⟩

theorem posInt (n : ℕ) (k : UInt64) : PlainWithin n (.number (.posInt k)) :=
  ⟨rfl, Nat.zero_le n⟩

theorem list {l : List Value} (h : ∀ v ∈ l, PlainWithin n v) :
    floatsList l = [] ∧ depthList l ≤ n := by
  induction l with
  | nil => exact ⟨rfl, Nat.zero_le n⟩
  | cons v l ih =>
    obtain ⟨hfloats, hdepth⟩ := ih fun w hw => h w (List.mem_cons_of_mem _ hw)
    have hv := h v List.mem_cons_self
    exact ⟨by rw [floatsList, hv.floats, hfloats, List.append_nil],
      by rw [depthList]; exact max_le hv.depth hdepth⟩

theorem array {l : List Value} (h : ∀ v ∈ l, PlainWithin n v) : PlainWithin (n + 1) (.array l) :=
  ⟨by rw [Value.floats]; exact (list h).1, by rw [Value.depth]; exact Nat.succ_le_succ (list h).2⟩

theorem strings (n : ℕ) (l : List Text) : PlainWithin (n + 1) (.strings l) := by
  refine array fun v hv => ?_
  obtain ⟨s, -, rfl⟩ := List.mem_map.mp hv
  exact string n s

theorem object {m : Object} (h : ∀ p ∈ m.toList, PlainWithin n p.2) :
    PlainWithin (n + 1) (.object m) := by
  refine ⟨List.eq_nil_iff_forall_not_mem.mpr fun x hx => ?_,
    Nat.succ_le_succ (depthEntries_le_iff.mpr fun p hp => (h p hp).depth)⟩
  obtain ⟨p, hp, hx⟩ := mem_floatsEntries_iff.mp hx
  rw [(h p hp).floats] at hx
  exact List.not_mem_nil hx

theorem ofFields {l : List (Text × Value)} (h : ∀ p ∈ l, PlainWithin n p.2) :
    PlainWithin (n + 1) (.ofFields l) :=
  object fun p hp => h p (OrdMap.mem_of_mem_toList_ofList hp)

/-- A plain value is within the bounds of the reader. -/
theorem readable (h : PlainWithin n v) (F : F64Codec) : Readable F n v :=
  ⟨h.depth, by simp [h.floats]⟩

/-- A plain value is read back. -/
theorem parse_print (h : PlainWithin n v) (F : F64Codec) (hn : n ≤ depthLimit) :
    parse F (v.print F) = some v :=
  Json.parse_print (by simp [h.floats]) (h.depth.trans hn)

/-- A plain value is rendered in one line. -/
theorem newline_notMem_print (h : PlainWithin n v) (F : F64Codec) :
    '\n' ∉ v.print F ∧ '\r' ∉ v.print F := by
  have hprintable : ∀ c ∈ v.print F, Printable c :=
    Value.printable_print (r := id) (by simp [h.floats])
  exact ⟨fun hmem => absurd (hprintable _ hmem) (by decide),
    fun hmem => absurd (hprintable _ hmem) (by decide)⟩

end PlainWithin

end Value

end Json
