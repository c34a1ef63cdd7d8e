import Mathlib.Data.List.TakeWhile
import Swiyu.Lib.Text

/-!
# Splitting and joining

A text is split at a separator into parts without it, and the parts joined again are the text.
Separators at the end may be trimmed off and put back.

## Main results

- `Text.split_intercalate`, `Text.intercalate_split`: splitting and joining undo each other.
- `Text.trimEndMatches_append_replicate`, `Text.exists_trimEndMatches`: trailing separators.
-/

namespace Text

variable {c : Char}

/-- The first character of a text is a separator or belongs to the first part. -/
theorem split_cons (d : Char) (s : Text) :
    split c (d :: s) = if d = c then [] :: split c s else (split c s).modifyHead (d :: ·) := by
  obtain ⟨w, ws, hparts⟩ := List.exists_cons_of_ne_nil (split_ne_nil (c := c) (s := s))
  rw [split, hparts]
  rfl

/-- The parts are those of the list of characters. -/
theorem split_eq_splitOn (s : Text) : split c s = s.splitOn c := by
  induction s with
  | nil => rfl
  | cons d s ih =>
    rw [split_cons, List.splitOn_cons_eq_if_modifyHead, ih]
    simp only [beq_iff_eq]

/-- The parts of a text, joined again, are the text. -/
theorem intercalate_split (c : Char) (s : Text) : [c].intercalate (split c s) = s := by
  rw [split_eq_splitOn, List.intercalate_splitOn]

/-- Parts without the separator are the parts of the text that they are joined to. -/
theorem split_intercalate {parts : List Text} (hne : parts ≠ []) (h : ∀ w ∈ parts, c ∉ w) :
    split c ([c].intercalate parts) = parts := by
  rw [split_eq_splitOn, List.splitOn_intercalate c h hne]

/-- No part of a text has the separator. -/
theorem notMem_of_mem_split {s w : Text} (h : w ∈ split c s) : c ∉ w := by
  induction s generalizing w with
  | nil =>
    obtain rfl := List.mem_singleton.mp h
    exact List.not_mem_nil
  | cons d s ih =>
    obtain ⟨v, vs, hparts⟩ := List.exists_cons_of_ne_nil (split_ne_nil (c := c) (s := s))
    rw [hparts] at ih
    rw [split_cons, hparts, List.modifyHead_cons] at h
    split_ifs at h with hd
    · rcases List.mem_cons.mp h with rfl | h
      · exact List.not_mem_nil
      · exact ih h
    · rcases List.mem_cons.mp h with rfl | h
      · intro hmem
        rcases List.mem_cons.mp hmem with hc | hmem
        · exact hd hc.symm
        · exact ih List.mem_cons_self hmem
      · exact ih (List.mem_cons_of_mem _ h)

/-- A text that is joined to parts ends as the last part does. -/
theorem getLast?_intercalate_ne {parts : List Text} (h : ∀ w ∈ parts, c ∉ w ∧ w ≠ []) :
    ([c].intercalate parts).getLast? ≠ some c := by
  induction parts with
  | nil => simp
  | cons w ws ih =>
    cases ws with
    | nil =>
      rw [List.intercalate_singleton]
      exact fun hlast => (h w List.mem_cons_self).1 (List.mem_of_getLast? hlast)
    | cons w' ws =>
      have hne : [c].intercalate (w' :: ws) ≠ [] := by
        have hw' : w' ≠ [] := (h w' (by simp)).2
        cases ws <;> simp [hw']
      rw [List.intercalate_cons_cons, List.getLast?_append_of_ne_nil _ hne]
      exact ih fun v hv => h v (List.mem_cons_of_mem _ hv)

/-! ## Trailing separators -/

/-- Separators at the end are trimmed off. -/
theorem trimEndMatches_append_replicate {s : Text} (n : ℕ) (h : s.getLast? ≠ some c) :
    trimEndMatches c (s ++ List.replicate n c) = s := by
  have hdrop : ∀ t : Text, t.head? ≠ some c →
      (List.replicate n c ++ t).dropWhile (fun d => d = c) = t := by
    intro t ht
    induction n with
    | zero =>
      cases t with
      | nil => rfl
      | cons d t =>
        have hd : d ≠ c := fun hd => ht (by rw [hd]; rfl)
        rw [List.replicate_zero, List.nil_append, List.dropWhile_cons_of_neg (by simpa using hd)]
    | succ n ih =>
      rw [List.replicate_succ, List.cons_append, List.dropWhile_cons_of_pos (by simp), ih]
  rw [trimEndMatches, List.reverse_append, List.reverse_replicate,
    hdrop _ (by rwa [List.head?_reverse]), List.reverse_reverse]

/-- What is trimmed off are separators, and none is left at the end. -/
theorem exists_trimEndMatches (c : Char) (s : Text) :
    (∃ n, s = trimEndMatches c s ++ List.replicate n c) ∧
      (trimEndMatches c s).getLast? ≠ some c := by
  have hsplit := List.takeWhile_append_dropWhile (p := fun d => decide (d = c)) (l := s.reverse)
  constructor
  · refine ⟨(s.reverse.takeWhile fun d => decide (d = c)).length, ?_⟩
    have hall : s.reverse.takeWhile (fun d => decide (d = c)) =
        List.replicate (s.reverse.takeWhile fun d => decide (d = c)).length c := by
      refine List.eq_replicate_of_mem fun d hd => ?_
      simpa using List.mem_takeWhile_imp hd
    rw [trimEndMatches, ← List.reverse_replicate, ← hall, ← List.reverse_append, hsplit,
      List.reverse_reverse]
  · rw [trimEndMatches, List.getLast?_reverse]
    intro hlast
    cases hrest : s.reverse.dropWhile (fun d => decide (d = c)) with
    | nil => simp [hrest] at hlast
    | cons d t =>
      have hneg := List.head?_dropWhile_not (fun d => decide (d = c)) s.reverse
      rw [hrest] at hlast hneg
      simp only [List.head?_cons, Option.some.injEq] at hlast hneg
      simp [hlast] at hneg

/-! ## Lists of segments -/

/-- The text is a list of segments, none of them empty, separated by `c`. -/
def IsSegments (c : Char) (t : Text) : Prop :=
  ∃ segments : List Text, segments ≠ [] ∧ (∀ w ∈ segments, w ≠ [] ∧ c ∉ w) ∧
    [c].intercalate segments = t

theorem isSegments_iff {t : Text} : IsSegments c t ↔ ∀ w ∈ split c t, w ≠ [] := by
  constructor
  · rintro ⟨segments, hne, hsegments, ht⟩
    rw [← ht, split_intercalate hne fun w hw => (hsegments w hw).2]
    exact fun w hw => (hsegments w hw).1
  · intro h
    exact ⟨split c t, split_ne_nil, fun w hw => ⟨h w hw, notMem_of_mem_split hw⟩,
      intercalate_split c t⟩

theorem IsSegments.ne_nil {t : Text} (h : IsSegments c t) : t ≠ [] := by
  intro ht
  rw [ht] at h
  exact isSegments_iff.mp h [] List.mem_cons_self rfl

/-- How lists of segments are recognised. -/
theorem all_isEmpty_iff {t : Text} :
    (!t.isEmpty && (split c t).all fun seg => !seg.isEmpty) = true ↔ IsSegments c t := by
  have hall : ((split c t).all fun seg => !seg.isEmpty) = true ↔ ∀ w ∈ split c t, w ≠ [] := by
    simp
  rw [Bool.and_eq_true, hall, ← isSegments_iff]
  refine ⟨And.right, fun h => ⟨?_, h⟩⟩
  simpa using h.ne_nil

/-- A separator between two texts separates their parts. -/
theorem split_append (a b : Text) : split c (a ++ c :: b) = split c a ++ split c b := by
  induction a with
  | nil =>
    rw [List.nil_append, split_cons, if_pos rfl]
    rfl
  | cons d a ih =>
    obtain ⟨w, ws, hparts⟩ := List.exists_cons_of_ne_nil (split_ne_nil (c := c) (s := a))
    rw [List.cons_append, split_cons, split_cons, ih, hparts]
    split_ifs <;> rfl

/-- The last part follows a separator. -/
theorem intercalate_concat {parts : List Text} (h : parts ≠ []) (w : Text) :
    [c].intercalate (parts ++ [w]) = [c].intercalate parts ++ c :: w := by
  induction parts with
  | nil => exact absurd rfl h
  | cons v parts ih =>
    cases parts with
    | nil => simp
    | cons u parts =>
      rw [List.cons_append, List.cons_append, List.intercalate_cons_cons,
        List.intercalate_cons_cons, ← List.cons_append, ih (List.cons_ne_nil _ _)]
      simp

/-! ## The characters of the parts -/

theorem mem_intercalate {d : Char} {parts : List Text} {w : Text} (hw : w ∈ parts) (h : d ∈ w) :
    d ∈ [c].intercalate parts := by
  obtain ⟨before, after, rfl⟩ := List.append_of_mem hw
  clear hw
  induction before with
  | nil => cases after <;> simp [h]
  | cons v before ih =>
    rw [List.cons_append, List.intercalate_cons_of_ne_nil (by simp)]
    exact List.mem_append_right _ ih

theorem mem_of_mem_intercalate {d : Char} {parts : List Text} (h : d ∈ [c].intercalate parts) :
    d = c ∨ ∃ w ∈ parts, d ∈ w := by
  induction parts with
  | nil => cases h
  | cons v parts ih =>
    cases parts with
    | nil => exact .inr ⟨v, List.mem_cons_self, by simpa using h⟩
    | cons w parts =>
      rw [List.intercalate_cons_cons] at h
      rcases List.mem_append.mp h with h | h
      · rcases List.mem_append.mp h with h | h
        · exact .inr ⟨v, List.mem_cons_self, h⟩
        · exact .inl (List.mem_singleton.mp h)
      · exact (ih h).imp_right fun ⟨u, hu, hd⟩ => ⟨u, List.mem_cons_of_mem _ hu, hd⟩

theorem exists_mem_split {d : Char} {t : Text} (hd : d ≠ c) (h : d ∈ t) :
    ∃ w ∈ split c t, d ∈ w := by
  rw [← intercalate_split c t] at h
  exact (mem_of_mem_intercalate h).resolve_left hd

/-! ## Parts that are not empty -/

/-- The parts of a text that are not empty. -/
def segments (c : Char) (t : Text) : List Text := (split c t).filter fun w => w ≠ []

theorem segments_append (a b : Text) : segments c (a ++ c :: b) = segments c a ++ segments c b := by
  unfold segments
  rw [split_append, List.filter_append]

theorem segments_of_notMem {t : Text} (h : c ∉ t) (ht : t ≠ []) : segments c t = [t] := by
  unfold segments
  rw [split_of_notMem h]
  simp [ht]

theorem segments_append_replicate (t : Text) (n : ℕ) :
    segments c (t ++ List.replicate n c) = segments c t := by
  induction n with
  | zero => simp
  | succ n ih =>
    have hcons : t ++ List.replicate (n + 1) c = (t ++ List.replicate n c) ++ c :: [] := by
      rw [List.replicate_succ', List.append_assoc]
    rw [hcons, segments_append, ih]
    exact List.append_nil _

/-- Separators at the end leave the first part as it is. -/
theorem head?_split_append_replicate (t : Text) (n : ℕ) :
    (split c (t ++ List.replicate n c)).head? = (split c t).head? := by
  induction n with
  | zero => rw [List.replicate_zero, List.append_nil]
  | succ n ih =>
    have hcons : t ++ List.replicate (n + 1) c = (t ++ List.replicate n c) ++ c :: [] := by
      rw [List.replicate_succ', List.append_assoc]
    rw [hcons, split_append, List.head?_append_of_ne_nil _ split_ne_nil, ih]

/-- A text has the parts of its trimmed form, but for empty ones. -/
theorem split_trimEndMatches (t : Text) :
    (split c (trimEndMatches c t)).head? = (split c t).head? ∧
      segments c (trimEndMatches c t) = segments c t := by
  obtain ⟨⟨n, hn⟩, -⟩ := exists_trimEndMatches c t
  constructor
  · conv_rhs => rw [hn]
    exact (head?_split_append_replicate _ n).symm
  · conv_rhs => rw [hn]
    exact (segments_append_replicate _ n).symm

/-- The last part of a text that does not end with a separator is not empty. -/
theorem getLast?_split {t : Text} (ht : t ≠ []) (h : t.getLast? ≠ some c) :
    ∃ before last, split c t = before ++ [last] ∧ last ≠ [] := by
  obtain ⟨before, last, hparts⟩ : ∃ before last, split c t = before ++ [last] :=
    ⟨_, _, (List.dropLast_append_getLast split_ne_nil).symm⟩
  refine ⟨before, last, hparts, fun hlast => ?_⟩
  have hjoin := intercalate_split c t
  rw [hparts, hlast] at hjoin
  by_cases hbefore : before = []
  · rw [hbefore] at hjoin
    exact ht hjoin.symm
  · rw [intercalate_concat hbefore] at hjoin
    refine h ?_
    rw [← hjoin, List.getLast?_append]
    rfl

/-- What is the last part once the separators at the end are trimmed off. -/
theorem getLast?_split_trimEndMatches (t : Text) :
    ((split c (trimEndMatches c t)).getLast?.filter fun w => w ≠ []) = (segments c t).getLast? := by
  obtain ⟨-, hlast⟩ := exists_trimEndMatches c t
  rw [← (split_trimEndMatches t).2]
  generalize trimEndMatches c t = s at hlast
  by_cases hs : s = []
  · rw [hs]
    rfl
  · obtain ⟨before, last, hparts, hne⟩ := getLast?_split hs hlast
    unfold segments
    rw [hparts, List.filter_append]
    simp [hne]

end Text
