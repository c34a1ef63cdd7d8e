import Mathlib.Data.List.Forall2
import Mathlib.Tactic.Common

/-!
# Fallible computations

When a computation in `Except` succeeds, taken apart along its steps.
-/

/-- `opt.ok_or(e)`. -/
def Option.okOr {ε α : Type*} (opt : Option α) (e : ε) : Except ε α :=
  match opt with
  | some a => .ok a
  | none => .error e

@[simp]
theorem Option.okOr_eq_ok_iff {ε α : Type*} {opt : Option α} {e : ε} {a : α} :
    opt.okOr e = .ok a ↔ opt = some a := by
  cases opt <;> simp [okOr]

@[simp]
theorem Option.okOr_some {ε α : Type*} (a : α) (e : ε) : (some a).okOr e = .ok a := rfl

namespace Except

/-- Fails with `e` unless `c` holds. -/
def ensure {ε : Type*} (c : Prop) [Decidable c] (e : ε) : Except ε Unit :=
  if c then .ok () else .error e

@[simp]
theorem ensure_eq_ok_iff {ε : Type*} {c : Prop} [Decidable c] {e : ε} {u : Unit} :
    ensure c e = .ok u ↔ c := by
  by_cases h : c <;> simp [ensure, h]

universe u

variable {ε ε' : Type*} {α β : Type u}

@[simp]
theorem ok_bind (a : α) (f : α → Except ε β) : (.ok a >>= f) = f a := rfl

@[simp]
theorem bind_eq_ok_iff {x : Except ε α} {f : α → Except ε β} {b : β} :
    (x >>= f) = .ok b ↔ ∃ a, x = .ok a ∧ f a = .ok b := by
  cases x with
  | error e => simp [bind, Except.bind]
  | ok a => simp [bind, Except.bind]

@[simp]
theorem map_eq_ok_iff {x : Except ε α} {f : α → β} {b : β} :
    x.map f = .ok b ↔ ∃ a, x = .ok a ∧ f a = b := by
  cases x <;> simp [Except.map]

@[simp]
theorem mapError_eq_ok_iff {x : Except ε α} {f : ε → ε'} {a : α} :
    x.mapError f = .ok a ↔ x = .ok a := by
  cases x <;> simp [Except.mapError]

theorem toOption_eq_some_iff {x : Except ε α} {a : α} : x.toOption = some a ↔ x = .ok a := by
  cases x <;> simp [Except.toOption]

@[simp]
theorem ite_error_eq_ok_iff {c : Prop} [Decidable c] {e : ε} {x : Except ε α} {a : α} :
    (if c then .error e else x) = .ok a ↔ ¬ c ∧ x = .ok a := by
  by_cases h : c <;> simp [h]

/-- What is written element by element is read back element by element. -/
theorem mapM_map_eq_ok {f : β → Except ε α} {g : α → β} {l : List α}
    (h : ∀ a ∈ l, f (g a) = .ok a) : (l.map g).mapM f = .ok l := by
  induction l with
  | nil => rfl
  | cons a l ih =>
    rw [List.map_cons, List.mapM_cons, h a (by simp), ih fun b hb => h b (by simp [hb])]
    rfl

/-- A computation that is mapped over a list succeeds when it does for each element. -/
theorem mapM_eq_ok_iff {α β : Type} {f : α → Except ε β} {as : List α} {bs : List β} :
    as.mapM f = .ok bs ↔ List.Forall₂ (fun a b => f a = .ok b) as bs := by
  induction as generalizing bs with
  | nil =>
    rw [List.forall₂_nil_left_iff]
    simp [pure, Except.pure, eq_comm]
  | cons a as ih =>
    rw [List.mapM_cons]
    constructor
    · intro h
      simp only [bind_eq_ok_iff, pure, Except.pure, ok.injEq] at h
      obtain ⟨b, hb, bs', hbs, rfl⟩ := h
      exact .cons hb (ih.mp hbs)
    · intro h
      cases h with
      | cons hb hbs => simp [hb, ih.mpr hbs, pure, Except.pure]

/-- Such a computation succeeds. -/
theorem exists_mapM_eq_ok {α β : Type} {f : α → Except ε β} {as : List α}
    (h : ∀ a ∈ as, ∃ b, f a = .ok b) : ∃ bs, as.mapM f = .ok bs := by
  induction as with
  | nil => exact ⟨[], rfl⟩
  | cons a as ih =>
    obtain ⟨b, hb⟩ := h a (by simp)
    obtain ⟨bs, hbs⟩ := ih fun a' ha' => h a' (by simp [ha'])
    exact ⟨b :: bs, mapM_eq_ok_iff.mpr (.cons hb (mapM_eq_ok_iff.mp hbs))⟩

/-- It succeeds only then. -/
theorem exists_mapM_eq_ok_iff {α β : Type} {f : α → Except ε β} {as : List α} :
    (∃ bs, as.mapM f = .ok bs) ↔ ∀ a ∈ as, ∃ b, f a = .ok b := by
  constructor
  · rintro ⟨bs, h⟩
    rw [mapM_eq_ok_iff] at h
    induction h with
    | nil => simp
    | cons hb hbs ih => exact List.forall_mem_cons.mpr ⟨⟨_, hb⟩, ih⟩
  · exact exists_mapM_eq_ok

/-- The results are those of the elements. -/
theorem mem_of_mapM_eq_ok {α β : Type} {f : α → Except ε β} {as : List α} {bs : List β}
    (h : as.mapM f = .ok bs) {b : β} : b ∈ bs ↔ ∃ a ∈ as, f a = .ok b := by
  rw [mapM_eq_ok_iff] at h
  induction h with
  | nil => simp
  | cons hb hbs ih => simp [ih, hb, eq_comm]

/-! ## Failure -/

/-- The errors of a computation satisfy `p`. -/
def FailsWith {α : Type*} (p : ε → Prop) (x : Except ε α) : Prop := ∀ e, x = .error e → p e

namespace FailsWith

variable {p : ε → Prop} {e : ε}

theorem ok {α : Type*} {a : α} : FailsWith p (.ok a) := fun _ h => by cases h

theorem error {α : Type*} (h : p e) : FailsWith p (.error e : Except ε α) := by
  intro e' he
  obtain rfl := Except.error.inj he
  exact h

theorem okOr {α : Type*} {opt : Option α} (h : p e) : FailsWith p (opt.okOr e) := by
  cases opt with
  | none => exact error h
  | some a => exact ok

theorem ensure {c : Prop} [Decidable c] (h : p e) : FailsWith p (Except.ensure c e) := by
  unfold Except.ensure
  split_ifs
  · exact ok
  · exact error h

theorem mapError {α : Type*} {f : ε' → ε} {x : Except ε' α} (h : ∀ e, p (f e)) :
    FailsWith p (x.mapError f) := by
  cases x with
  | error e => exact error (h e)
  | ok a => exact ok

/-- An error of a sequence is one of its steps. -/
theorem bind {x : Except ε α} {f : α → Except ε β} (hx : FailsWith p x)
    (hf : ∀ a, FailsWith p (f a)) : FailsWith p (x >>= f) := by
  cases x with
  | error e => exact error (hx e rfl)
  | ok a => exact hf a

end FailsWith

end Except
