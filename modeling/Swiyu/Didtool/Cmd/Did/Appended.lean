import Swiyu.Core.DidLog.Received
import Swiyu.Didtool.Cmd.Did.Update
import Swiyu.Lib.Text.Lines

/-!
# Appending an entry

The tool writes an updated log from the lines of the log that it has read, each with a newline after
it, and the new line. It reads the lines a second time to get hold of them: once to parse them and
once to keep them. Both readings skip the same lines, and what is written is read as the old entries
and the new one.

## Main results

- `Swiyu.receivedLines_buildUpdatedLog`: the lines of an updated log.
- `Swiyu.tryFromJsonl_buildUpdatedLog`: the entries of an updated log.
-/

namespace Swiyu

open Json

variable {X : Crates} {text : Text}

/-! ## The lines of a log -/

/-- The lines that are kept are those that are parsed, before they are trimmed. -/
theorem map_trim_collectRawLines (text : Text) :
    (collectRawLines text).map Text.trim = receivedLines text := by
  rw [receivedLines, List.filter_map]
  rfl

/-- A line that is kept is a line of the text, and not blank. -/
theorem mem_collectRawLines {line : Text} (h : line ∈ collectRawLines text) :
    line ∈ Text.lines text ∧ Text.trim line ≠ [] := by
  simpa only [collectRawLines, List.mem_filter, decide_eq_true_eq] using h

/-- An updated log ends in one newline after the new line. -/
theorem buildUpdatedLog_eq {newLine : Text} (h : '\n' ∉ newLine.dropLast) (rawLines : List Text) :
    ∃ line, '\n' ∉ line ∧ Text.trim line = Text.trim newLine ∧
      buildUpdatedLog rawLines newLine =
        (rawLines.flatMap fun l => l ++ ['\n']) ++ line ++ ['\n'] := by
  by_cases hlast : newLine.getLast? = some '\n'
  · -- The new line has its own newline.
    have hsplit := List.dropLast_append_getLast? '\n' hlast
    refine ⟨newLine.dropLast, h, ?_, ?_⟩
    · rw [← hsplit, Text.trim_append_of_forall (List.forall_mem_singleton.mpr rfl),
        List.dropLast_concat]
    · rw [buildUpdatedLog, if_pos hlast, List.append_nil, List.append_assoc, hsplit]
  · refine ⟨newLine, fun hmem => ?_, rfl, ?_⟩
    · have hne : newLine ≠ [] := List.ne_nil_of_mem hmem
      rw [← List.dropLast_append_getLast hne, List.mem_append, List.mem_singleton] at hmem
      refine hmem.elim h fun heq => hlast ?_
      rw [List.getLast?_eq_some_getLast hne, ← heq]
    · rw [buildUpdatedLog, if_neg hlast]

/-- The lines of an updated log are those of the log and the new one. -/
theorem receivedLines_buildUpdatedLog {newLine : Text} (hnewline : '\n' ∉ newLine.dropLast)
    (hblank : Text.trim newLine ≠ []) (text : Text) :
    receivedLines (buildUpdatedLog (collectRawLines text) newLine) =
      receivedLines text ++ [Text.trim newLine] := by
  obtain ⟨line, hline, htrim, hbuilt⟩ := buildUpdatedLog_eq hnewline (collectRawLines text)
  have hraw : ∀ l ∈ collectRawLines text, '\n' ∉ l := fun l hl =>
    Text.newline_notMem_of_mem_lines (mem_collectRawLines hl).1
  have hkept : (receivedLines text).filter (fun l => l ≠ []) = receivedLines text := by
    rw [receivedLines, List.filter_filter]
    simp
  -- Each line is read back, and none of them is blank.
  calc receivedLines (buildUpdatedLog (collectRawLines text) newLine)
      = (Text.trimmedLines (((collectRawLines text).flatMap fun l => l ++ ['\n']) ++
          (line ++ '\n' :: []))).filter fun l => l ≠ [] := by
        rw [hbuilt, List.append_assoc]
        rfl
    _ = ((collectRawLines text).map Text.trim ++ [Text.trim line]).filter fun l => l ≠ [] := by
        rw [Text.trimmedLines_append hraw, Text.trimmedLines_append_newline hline]
        rfl
    _ = receivedLines text ++ [Text.trim newLine] := by
        rw [map_trim_collectRawLines, List.filter_append, hkept, htrim,
          List.filter_cons_of_pos (by simpa using hblank), List.filter_nil]

/-! ## The entries of a log -/

/-- A line that is read as an entry is not blank. -/
theorem ParsesTo.ne_nil {line : Text} {e : DIDLogEntry} (h : ParsesTo X line e) : line ≠ [] := by
  intro hline
  obtain ⟨v, hv, -⟩ := h
  subst hline
  cases hv

/-- An updated log is read as the log and what the new line is read as. -/
theorem tryFromJsonl_concat {log : DIDLog} (h : DIDLog.tryFromJsonl X text = .ok log)
    {newLine : Text} (hnewline : '\n' ∉ newLine.dropLast) {e : DIDLogEntry}
    (he : ParsesTo X (Text.trim newLine) e) :
    DIDLog.tryFromJsonl X (buildUpdatedLog (collectRawLines text) newLine) =
      .ok ⟨log.entries ++ [e]⟩ := by
  rw [tryFromJsonl_eq_ok_iff] at h ⊢
  rw [receivedLines_buildUpdatedLog hnewline he.ne_nil]
  exact List.rel_append h (.cons he .nil)

/-- Of a log that is parsed, the tool keeps one line for each entry, in order, and the entry is what
this line is read as. When it writes these lines and one that is read as a new entry, this is parsed
as the old entries and the new one. -/
theorem tryFromJsonl_buildUpdatedLog {log : DIDLog} (h : DIDLog.tryFromJsonl X text = .ok log) :
    (collectRawLines text).length = log.entries.length ∧
      (∀ (i : ℕ) (line : Text) (e : DIDLogEntry), (collectRawLines text)[i]? = some line →
        log.entries[i]? = some e → ParsesTo X (Text.trim line) e) ∧
      ∀ (newLine : Text) (e : DIDLogEntry), '\n' ∉ newLine.dropLast →
        ParsesTo X (Text.trim newLine) e →
          DIDLog.tryFromJsonl X (buildUpdatedLog (collectRawLines text) newLine) =
            .ok ⟨log.entries ++ [e]⟩ := by
  have hlines := tryFromJsonl_eq_ok_iff.mp h
  rw [← map_trim_collectRawLines, List.forall₂_map_left_iff] at hlines
  refine ⟨hlines.length_eq, fun i line e hline he => ?_, fun newLine e hnewline hparses => ?_⟩
  · obtain ⟨hi, rfl⟩ := List.getElem?_eq_some_iff.mp hline
    obtain ⟨hi', rfl⟩ := List.getElem?_eq_some_iff.mp he
    exact hlines.get hi hi'
  · exact tryFromJsonl_concat h hnewline hparses

namespace Sample

/-- An entry without parameters and proofs, and with an empty document. -/
def bareEntry (versionId versionTime : Text) : DIDLogEntry where
  format := .tdw03
  versionId
  versionTime
  parameters := { format := .tdw03 }
  didDocState := .value (.object .nil)
  dataIntegrityProofs := []

/-- A log of two entries between blank lines, with white space around its lines. -/
def spacedText : Text :=
  " \r\n\t[\"1-a\",\"2025-01-01T00:00:00Z\",\x7b\x7d,\x7b\"value\":\x7b\x7d\x7d,[]]".toList ++
    " \r\n\n".toList ++
    "  [\"2-b\", \"2025-01-02T00:00:00Z\", \x7b\x7d, \x7b\"value\":\x7b\x7d\x7d, []]\r\n \r".toList

/-- Its entries. -/
def spacedEntries : List DIDLogEntry :=
  [bareEntry "1-a" "2025-01-01T00:00:00Z", bareEntry "2-b" "2025-01-02T00:00:00Z"]

/-- The line of another entry. -/
def nextLine : Text :=
  "[\"3-c\", \"2025-01-03T00:00:00Z\", \x7b\x7d, \x7b\"value\": \x7b\x7d\x7d, []]\n"

theorem tryFromJsonl_spacedText : DIDLog.tryFromJsonl crates spacedText = .ok ⟨spacedEntries⟩ := by
  decide +kernel

theorem parsesTo_nextLine :
    ParsesTo crates (Text.trim nextLine) (bareEntry "3-c" "2025-01-03T00:00:00Z") := by
  obtain ⟨v, hv⟩ : ∃ v ∈ Json.parse crates.f64 (Text.trim nextLine),
      DIDLogEntry.tryFromJson v = .ok (bareEntry "3-c" "2025-01-03T00:00:00Z") := by
    decide +kernel
  exact ⟨v, hv⟩

/-- The sample log keeps its entries when another one is appended. -/
theorem tryFromJsonl_spacedText_concat :
    (collectRawLines spacedText).length = 2 ∧
      DIDLog.tryFromJsonl crates (buildUpdatedLog (collectRawLines spacedText) nextLine) =
        .ok ⟨spacedEntries ++ [bareEntry "3-c" "2025-01-03T00:00:00Z"]⟩ := by
  obtain ⟨hlength, -, happend⟩ := tryFromJsonl_buildUpdatedLog tryFromJsonl_spacedText
  exact ⟨hlength, happend nextLine _ (by decide +kernel) parsesTo_nextLine⟩

end Sample

end Swiyu
