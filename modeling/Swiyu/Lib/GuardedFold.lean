import Mathlib.Data.List.Basic
import Mathlib.Tactic.Common

/-!
# Guarded folds

A loop over a list that carries a state and stops at the first element its guard rejects. The guard
sees the position, the state before the element and the element; the loop succeeds just when every
guard does (`run_eq_ok_iff`), each at the state that the elements before it lead to (`stateAt`).
-/

/-- A loop with a guard and a state update. -/
structure GuardedFold (ε σ α : Type*) where
  /-- Accepts or rejects the element at a position, in the state before it. -/
  check : ℕ → σ → α → Except ε Unit
  /-- The state after an element. -/
  next : σ → α → σ

namespace GuardedFold

variable {ε σ α : Type*} (G : GuardedFold ε σ α)

/-- The loop from position `i` on. -/
def runFrom : ℕ → σ → List α → Except ε Unit
  | _, _, [] => .ok ()
  | i, s, a :: l => do
    G.check i s a
    runFrom (i + 1) (G.next s a) l

/-- The whole loop. -/
def run (s : σ) (l : List α) : Except ε Unit := G.runFrom 0 s l

/-- The state before the element at position `i`. -/
def stateAt (s : σ) (l : List α) (i : ℕ) : σ := (l.take i).foldl G.next s

theorem runFrom_eq_ok_iff {i : ℕ} {s : σ} {l : List α} : G.runFrom i s l = .ok () ↔
    ∀ j (h : j < l.length), G.check (i + j) (G.stateAt s l j) l[j] = .ok () := by
  induction l generalizing i s with
  | nil => simp [runFrom]
  | cons a l ih =>
    have hbind : G.runFrom i s (a :: l) = .ok () ↔
        G.check i s a = .ok () ∧ G.runFrom (i + 1) (G.next s a) l = .ok () := by
      rw [runFrom]
      cases G.check i s a with
      | error e => simp [bind, Except.bind]
      | ok u => simp [bind, Except.bind]
    rw [hbind, ih]
    constructor
    · -- The check of the head is the one at index `0`, and those of the tail come after it.
      rintro ⟨h₀, h⟩ (_ | j) hj
      · exact h₀
      · have := h j (by simpa using hj)
        rwa [Nat.add_assoc, Nat.add_comm 1] at this
    · intro h
      refine ⟨h 0 (by simp), fun j hj => ?_⟩
      have := h (j + 1) (by simpa using hj)
      have hidx : i + (j + 1) = i + 1 + j := by omega
      rwa [hidx] at this

/-- The loop succeeds just when every element passes its guard. -/
theorem run_eq_ok_iff {s : σ} {l : List α} : G.run s l = .ok () ↔
    ∀ i (h : i < l.length), G.check i (G.stateAt s l i) l[i] = .ok () := by
  simp [run, runFrom_eq_ok_iff]

theorem stateAt_succ {s : σ} {l : List α} {i : ℕ} (h : i < l.length) :
    G.stateAt s l (i + 1) = G.next (G.stateAt s l i) l[i] := by
  rw [stateAt, stateAt, List.take_succ_eq_append_getElem h, List.foldl_append]
  rfl

end GuardedFold
