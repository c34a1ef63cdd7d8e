import Swiyu.Lib.Text

/-!
# Replacing one text by another

What is in a text after a replacement, and what replacing does around the places where it is done.

## Main results

- `Text.not_infix_replace`: a pattern without the character that replaces it is gone.
- `Text.replace_append_pattern`: the first occurrence of a pattern is replaced.
- `Text.replace_singleton`: replacing one character by another goes character by character.
-/

namespace Text

variable {pat rep t : Text}

/-! ## Texts without the pattern -/

/-- A text in which the pattern does not occur is left alone. -/
theorem replaceFrom_eq_self (h : ¬ pat <:+: t) : replaceFrom pat rep 0 t = t := by
  induction t with
  | nil => rfl
  | cons c t ih =>
    rw [List.infix_cons_iff, not_or] at h
    rw [replaceFrom, if_neg h.1, ih h.2]

theorem replace_eq_self (hp : pat ≠ []) (h : ¬ pat <:+: t) : replace pat rep t = t := by
  rw [replace, if_neg hp, replaceFrom_eq_self h]

/-- When one character that the pattern lacks replaces it, the pattern does not occur any more. -/
theorem not_infix_replace {b : Char} (hp : pat ≠ []) (hb : b ∉ pat) :
    ¬ pat <:+: replace pat [b] t := by
  have hloop : ∀ k, ¬ pat <:+: replaceFrom pat [b] k t := by
    induction t with
    | nil => exact fun k h => hp (List.infix_nil.mp h)
    | cons c t ih =>
      intro k h
      cases k with
      | succ k => exact ih k h
      | zero =>
        rw [replaceFrom] at h
        split_ifs at h with hpre
        · rw [List.singleton_append, List.infix_cons_iff] at h
          rcases h with h | h
          · obtain ⟨d, p, rfl⟩ := List.exists_cons_of_ne_nil hp
            exact hb (by simp [(List.cons_prefix_cons.mp h).1])
          · exact ih _ h
        · rw [List.infix_cons_iff] at h
          rcases h with h | h
          · -- A match that begins at a kept character would have been a match before.
            obtain ⟨d, p, rfl⟩ := List.exists_cons_of_ne_nil hp
            obtain ⟨rfl, hrest⟩ := List.cons_prefix_cons.mp h
            have hb' : b ∉ p := fun hmem => hb (List.mem_cons_of_mem _ hmem)
            exact hpre (List.cons_prefix_cons.mpr ⟨rfl, prefix_of_prefix_replaceFrom hb' hrest⟩)
          · exact ih 0 h
  rw [replace, if_neg hp]
  exact hloop 0

/-- A pattern whose first character does not occur again in it is replaced where it first occurs. -/
theorem replace_append_pattern {a : Char} {p w r : Text} (ha : a ∉ p) (h : ¬ a :: p <:+: w) :
    replace (a :: p) rep (w ++ a :: p ++ r) = w ++ rep ++ replace (a :: p) rep r := by
  rw [replace_cons, replace_cons]
  induction w with
  | nil =>
    have hpre : a :: p <+: a :: p ++ r := List.prefix_append _ _
    rw [List.nil_append, List.nil_append, replaceFrom_of_prefix (List.cons_ne_nil _ _) hpre,
      List.drop_left]
  | cons c w ih =>
    rw [List.infix_cons_iff, not_or] at h
    have hno : ¬ a :: p <+: c :: (w ++ a :: p ++ r) := by
      intro hpre
      obtain ⟨rfl, htail⟩ := List.cons_prefix_cons.mp hpre
      rw [List.append_assoc, List.cons_append] at htail
      exact h.1 (List.cons_prefix_cons.mpr ⟨rfl, (prefix_append_cons_iff ha).mp htail⟩)
    rw [List.cons_append, List.cons_append, replaceFrom, if_neg hno, ih h.2]
    rfl

/-! ## Characters -/

/-- A character of a replaced text is one of the replacement or of the text. -/
theorem mem_or_of_mem_replace {c : Char} (hp : pat ≠ []) (h : c ∈ replace pat rep t) :
    c ∈ rep ∨ c ∈ t := by
  have hloop : ∀ k, c ∈ replaceFrom pat rep k t → c ∈ rep ∨ c ∈ t := by
    clear h
    induction t with
    | nil => exact fun _ h => by cases h
    | cons d t ih =>
      intro k h
      cases k with
      | succ k => exact (ih k h).imp_right (List.mem_cons_of_mem _)
      | zero =>
        rw [replaceFrom] at h
        split_ifs at h
        · rcases List.mem_append.mp h with h | h
          · exact .inl h
          · exact (ih _ h).imp_right (List.mem_cons_of_mem _)
        · rcases List.mem_cons.mp h with rfl | h
          · exact .inr List.mem_cons_self
          · exact (ih 0 h).imp_right (List.mem_cons_of_mem _)
  rw [replace, if_neg hp] at h
  exact hloop 0 h

/-- A character that the pattern lacks is kept. -/
theorem mem_replace {c : Char} (hp : pat ≠ []) (hc : c ∉ pat) (h : c ∈ t) :
    c ∈ replace pat rep t := by
  obtain ⟨a, b, rfl⟩ := List.append_of_mem h
  rw [replace_append_cons hp hc]
  simp

/-- Replacing one character goes character by character. -/
theorem replace_singleton (a b : Char) (t : Text) :
    replace [a] [b] t = t.map fun c => if c = a then b else c := by
  rw [replace_cons]
  induction t with
  | nil => rfl
  | cons c t ih =>
    have hpre : [a] <+: c :: t ↔ c = a := by
      rw [List.cons_prefix_cons]
      exact ⟨fun h => h.1.symm, fun h => ⟨h.symm, List.nil_prefix⟩⟩
    rw [replaceFrom, List.map_cons]
    by_cases hc : c = a
    · rw [if_pos (hpre.mpr hc), if_pos hc]
      exact congrArg ([b] ++ ·) ih
    · rw [if_neg fun h => hc (hpre.mp h), if_neg hc, ih]

end Text
