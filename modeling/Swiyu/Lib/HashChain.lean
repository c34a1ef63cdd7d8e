import Mathlib.Data.Set.Function
import Mathlib.Data.List.Induction
import Mathlib.Tactic.Common

/-!
# Hash chains

A hash chain folds its contents into links: every link is computed from the link before it and the
content it adds. When no two of the steps taken collide, and no step leads back to the root, the
last link commits to the whole chain (`eq_of_foldl_eq`): to every content, and so to their number.
-/

namespace HashChain

variable {ι α : Type*} (next : ι → α → ι)

/-- The steps of a chain from `root`: each link with the content added to it. -/
def steps (root : ι) : List α → List (ι × α)
  | [] => []
  | a :: as => (root, a) :: steps (next root a) as

theorem steps_concat (root : ι) (as : List α) (a : α) :
    steps next root (as ++ [a]) = steps next root as ++ [(as.foldl next root, a)] := by
  induction as generalizing root with
  | nil => rfl
  | cons b as ih => rw [List.cons_append, steps, ih, steps, List.cons_append, List.foldl_cons]

theorem mem_steps_iff {root : ι} {as : List α} {p : ι × α} :
    p ∈ steps next root as ↔
      ∃ i, ∃ h : i < as.length, p = ((as.take i).foldl next root, as[i]) := by
  induction as generalizing root with
  | nil => simp [steps]
  | cons a as ih =>
    rw [steps, List.mem_cons, ih]
    constructor
    · rintro (rfl | ⟨i, hi, rfl⟩)
      · exact ⟨0, by simp, rfl⟩
      · exact ⟨i + 1, by simpa using hi, rfl⟩
    · rintro ⟨_ | i, hi, rfl⟩
      · exact .inl rfl
      · exact .inr ⟨i, by simpa using hi, rfl⟩

/-- Chains with the same last link have the same contents. The induction runs backwards: equal links
were made by equal steps, which leaves shorter chains with equal last links. -/
theorem eq_of_foldl_eq (root : ι) {S : Set (ι × α)} (hinj : Set.InjOn (Function.uncurry next) S)
    (hroot : ∀ p ∈ S, next p.1 p.2 ≠ root) {as bs : List α}
    (has : ∀ p ∈ steps next root as, p ∈ S) (hbs : ∀ p ∈ steps next root bs, p ∈ S)
    (h : as.foldl next root = bs.foldl next root) : as = bs := by
  induction as using List.reverseRecOn generalizing bs with
  | nil =>
    rcases List.eq_nil_or_concat bs with rfl | ⟨bs, b, rfl⟩
    · rfl
    · rw [List.concat_eq_append] at hbs h
      rw [List.foldl_append] at h
      -- A step would lead back to the root.
      exact absurd h.symm (hroot (bs.foldl next root, b) (hbs _ (by simp [steps_concat])))
  | append_singleton as a ih =>
    rcases List.eq_nil_or_concat bs with rfl | ⟨bs, b, rfl⟩
    · rw [List.foldl_append] at h
      exact absurd h (hroot (as.foldl next root, a) (has _ (by simp [steps_concat])))
    · rw [List.concat_eq_append] at hbs h ⊢
      rw [List.foldl_append, List.foldl_append] at h
      rw [steps_concat] at has hbs
      -- Both last links come from steps in the set, on which the steps are injective.
      have hstep : (as.foldl next root, a) = (bs.foldl next root, b) :=
        hinj (has _ (by simp)) (hbs _ (by simp)) h
      obtain ⟨hlink, rfl⟩ := Prod.mk.inj hstep
      rw [ih (fun p hp => has p (List.mem_append_left _ hp))
        (fun p hp => hbs p (List.mem_append_left _ hp)) hlink]

end HashChain
