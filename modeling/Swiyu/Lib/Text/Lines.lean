import Mathlib.Data.List.TakeWhile
import Swiyu.Lib.Text

/-!
# Lines

A text that ends each of its lines by a newline has these lines, up to the carriage returns that
`lines` drops. As white space the carriage returns do not matter to who trims the lines.

## Main results

- `Text.newline_notMem_of_mem_lines`: no line has a newline.
- `Text.trimmedLines_append`: the trimmed lines of lines written one after the other.
- `Text.filter_trimmedLines_append`: white space at the end makes no line but blank ones.
-/

namespace Text

variable {s l : Text}

/-! ## Trimming -/

/-- White space at the end does not matter. -/
theorem trim_append_of_forall {w : Text} (h : ∀ c ∈ w, isWhitespace c = true) (s : Text) :
    trim (s ++ w) = trim s := by
  have hw : w.dropWhile isWhitespace = [] := List.dropWhile_eq_nil_iff.mpr h
  have hrev : ∀ c ∈ w.reverse, isWhitespace c = true := fun c hc => h c (List.mem_reverse.mp hc)
  unfold trim
  rw [List.dropWhile_append]
  by_cases hs : s.dropWhile isWhitespace = []
  · simp [hs, hw]
  · rw [if_neg (by simpa using hs), List.reverse_append, List.dropWhile_append_of_pos hrev]

/-- Dropping a carriage return at the end does not matter. -/
theorem trim_stripCr (acc : List Char) : trim (stripCr acc) = trim acc.reverse := by
  unfold stripCr
  split
  · next acc' =>
    rw [List.reverse_cons]
    exact (trim_append_of_forall (List.forall_mem_singleton.mpr rfl) _).symm
  · rfl

/-! ## The lines of a text -/

theorem linesFrom_cons (acc : List Char) (c : Char) (s : Text) :
    linesFrom acc (c :: s) =
      if c = '\n' then stripCr acc :: linesFrom [] s else linesFrom (c :: acc) s := by
  cases acc <;> rfl

/-- A line is dropped no more than a carriage return. -/
theorem mem_of_mem_stripCr {acc : List Char} {c : Char} (h : c ∈ stripCr acc) : c ∈ acc := by
  unfold stripCr at h
  split at h
  · exact List.mem_cons_of_mem _ (List.mem_reverse.mp h)
  · exact List.mem_reverse.mp h

/-- No line of a text has a newline. -/
theorem newline_notMem_of_mem_lines (h : l ∈ lines s) : '\n' ∉ l := by
  -- The induction is on the text, with what has been read of the current line, reversed.
  have hloop : ∀ (s : Text) (acc : List Char), '\n' ∉ acc → ∀ l ∈ linesFrom acc s, '\n' ∉ l := by
    intro s
    induction s with
    | nil =>
      intro acc hacc l hl
      cases acc with
      | nil => simp [linesFrom] at hl
      | cons c acc =>
        rw [linesFrom, List.mem_singleton] at hl
        rw [hl, List.mem_reverse]
        exact hacc
    | cons c s ih =>
      intro acc hacc l hl
      rw [linesFrom_cons] at hl
      split_ifs at hl with hc
      · rcases List.mem_cons.mp hl with rfl | hl
        · exact fun hmem => hacc (mem_of_mem_stripCr hmem)
        · exact ih [] List.not_mem_nil l hl
      · refine ih (c :: acc) ?_ l hl
        rw [List.mem_cons, not_or]
        exact ⟨Ne.symm hc, hacc⟩
  exact hloop s [] List.not_mem_nil l h

/-- The lines of a text, trimmed. -/
def trimmedLines (s : Text) : List Text := (lines s).map trim

/-- A line with a newline after it is the first line. -/
theorem trimmedLines_append_newline (hl : '\n' ∉ l) (rest : Text) :
    trimmedLines (l ++ '\n' :: rest) = trim l :: trimmedLines rest := by
  rw [trimmedLines, lines, linesFrom_append_newline hl, List.append_nil, List.map_cons,
    trim_stripCr, List.reverse_reverse]
  rfl

/-- Lines that are written one after the other, each with a newline after it, are the lines that
are read. -/
theorem trimmedLines_append {ls : List Text} (h : ∀ l ∈ ls, '\n' ∉ l) (rest : Text) :
    trimmedLines ((ls.flatMap fun l => l ++ ['\n']) ++ rest) =
      ls.map trim ++ trimmedLines rest := by
  induction ls with
  | nil => rfl
  | cons l ls ih =>
    have hl : '\n' ∉ l := h l List.mem_cons_self
    have hls : ∀ l ∈ ls, '\n' ∉ l := fun l' hl' => h l' (List.mem_cons_of_mem _ hl')
    rw [List.flatMap_cons, List.append_assoc, List.append_assoc, List.singleton_append,
      trimmedLines_append_newline hl, ih hls]
    rfl

/-! ## White space at the end of a text -/

theorem trimEnd_append_whitespace (s : Text) :
    ∃ w, (∀ c ∈ w, isWhitespace c = true) ∧ s = trimEnd s ++ w := by
  refine ⟨(s.reverse.takeWhile isWhitespace).reverse, fun c hc => ?_, ?_⟩
  · exact List.mem_takeWhile_imp (List.mem_reverse.mp hc)
  · rw [trimEnd, ← List.reverse_append, List.takeWhile_append_dropWhile, List.reverse_reverse]

/-- White space at the end of a text makes no line but blank ones. -/
theorem filter_trimmedLines_append {w : Text} (hw : ∀ c ∈ w, isWhitespace c = true) (s : Text) :
    (trimmedLines (s ++ w)).filter (fun l => l ≠ []) =
      (trimmedLines s).filter fun l => l ≠ [] := by
  -- After the last line there is nothing but the rest of that line.
  have hrest : ∀ acc, ((linesFrom acc w).map trim).filter (fun l => l ≠ []) =
      [trim acc.reverse].filter fun l => l ≠ [] := by
    induction w with
    | nil => intro acc; cases acc <;> rfl
    | cons c w ih =>
      intro acc
      have hc : isWhitespace c = true := hw c List.mem_cons_self
      have ih := ih fun d hd => hw d (List.mem_cons_of_mem _ hd)
      rw [linesFrom_cons]
      split_ifs
      · have hnil : [trim [].reverse].filter (fun l => l ≠ []) = [] := rfl
        rw [List.map_cons, trim_stripCr, ← List.singleton_append, List.filter_append, ih, hnil,
          List.append_nil]
      · have htrim := trim_append_of_forall (w := [c]) (by simpa using hc) acc.reverse
        rw [ih, List.reverse_cons, htrim]
  -- The induction is on the text before it, with any line begun.
  suffices H : ∀ acc, ((linesFrom acc (s ++ w)).map trim).filter (fun l => l ≠ []) =
      ((linesFrom acc s).map trim).filter fun l => l ≠ [] from H []
  induction s with
  | nil =>
    intro acc
    rw [List.nil_append, hrest]
    cases acc <;> rfl
  | cons c s ih =>
    intro acc
    rw [List.cons_append, linesFrom_cons, linesFrom_cons]
    split_ifs
    · rw [List.map_cons, List.map_cons, ← List.singleton_append, List.filter_append, ih,
        ← List.filter_append, List.singleton_append]
    · exact ih _

end Text
