import Swiyu.Core.DidLog.Authentic

/-!
# The SCID in the text of an entry

The SCID is put in place of its placeholder in the serialised text of the preliminary entry, and the
verifier takes it out of a serialised text again. On values both are one function applied to every
string and every key, and each undoes the other, as long as `serde_json` reads the texts that it
writes, which are nested at most 127 deep.

## Main definitions

- `Swiyu.substituteScid`: a value with its placeholders replaced, string by string and key by key.

## Main results

- `Swiyu.parse_replace_scid`: the text with the SCID put in is the text of the substituted value,
  and the text with the SCID taken out again that of the value.
-/

namespace Swiyu

open Json

variable (X : Crates)

/-- The value with the SCID in place of the placeholder, in each of its strings and keys. -/
def substituteScid (scid : Text) (v : Value) : Value :=
  v.mapText (Text.replace scidPlaceholder scid)

section Undo

variable {X} {v w : Value} (hfloats : ∀ x ∈ v.floats, X.f64.ReadsBack x)
  (h : Text.OccursOnlyAt scidPlaceholder (deriveScid X w) (v.print X.f64))

include hfloats h

/-- Taking the SCID out of a string undoes putting it in. -/
theorem replace_scid_of_mem_texts {t : Text} (ht : t ∈ v.texts) :
    Text.replace (deriveScid X w) scidPlaceholder
      (Text.replace scidPlaceholder (deriveScid X w) t) = t := by
  have hscid : Inert (deriveScid X w) := inert_hashLogEntry X w
  have hplain := inert_scidPlaceholder.plain
  exact Value.replace_replace_of_mem_texts inert_scidPlaceholder hscid hplain hfloats h ht

/-- Distinct strings and keys stay distinct. -/
theorem injOn_replace_scidPlaceholder :
    Set.InjOn (Text.replace scidPlaceholder (deriveScid X w)) {t | t ∈ v.texts} := by
  have hleft : Set.LeftInvOn (Text.replace (deriveScid X w) scidPlaceholder)
      (Text.replace scidPlaceholder (deriveScid X w)) {t | t ∈ v.texts} :=
    fun t ht => replace_scid_of_mem_texts hfloats h ht
  exact hleft.injOn

/-- The preliminary value is read back from the substituted one. -/
theorem parse_replace_substituteScid (hdepth : v.depth ≤ depthLimit) :
    parse X.f64 (Text.replace (deriveScid X w) scidPlaceholder
      ((substituteScid (deriveScid X w) v).print X.f64)) = some v := by
  have hscid : Inert (deriveScid X w) := inert_hashLogEntry X w
  -- The substituted value is no deeper than the value, and has its doubles.
  have hdepth' : (substituteScid (deriveScid X w) v).depth ≤ depthLimit :=
    (Value.depth_mapText_le v).trans hdepth
  have hfloats' : ∀ x ∈ (substituteScid (deriveScid X w) v).floats, X.f64.ReadsBack x :=
    fun x hx => hfloats x (Value.floats_mapText_subset v hx)
  rw [Value.parse_replace_print hscid inert_scidPlaceholder.plain hfloats', if_pos hdepth']
  have hback : (substituteScid (deriveScid X w) v).mapText
      (Text.replace (deriveScid X w) scidPlaceholder) = v :=
    Value.mapText_mapText fun t ht => replace_scid_of_mem_texts hfloats h ht
  rw [hback]

end Undo

/-- Where the SCID occurs in the substituted text only where it has been put, substitution goes
through every string and key, keeps them distinct and is undone by the verifier, which derives from
the substituted value the SCID of the value. -/
theorem parse_replace_scid (hF : X.f64.Lawful) (i : ℕ) (v w : Value) (hdepth : v.depth ≤ depthLimit)
    (h : Text.OccursOnlyAt scidPlaceholder (deriveScid X w) (v.print X.f64)) :
    let scid := deriveScid X w
    let substituted := substituteScid scid v
    parse X.f64 (Text.replace scidPlaceholder scid (v.print X.f64)) = some substituted ∧
      Set.InjOn (Text.replace scidPlaceholder scid) {t | t ∈ v.texts} ∧
      parse X.f64 (Text.replace scid scidPlaceholder (substituted.print X.f64)) = some v ∧
      deriveScidOfForm X i substituted scid = .ok (deriveScid X v) := by
  intro scid substituted
  have hscid : Inert scid := inert_hashLogEntry X w
  have hfloats : ∀ x ∈ v.floats, X.f64.ReadsBack x := fun x _ => hF x
  have hback : parse X.f64 (Text.replace scid scidPlaceholder (substituted.print X.f64)) = some v :=
    parse_replace_substituteScid hfloats h hdepth
  refine ⟨?_, injOn_replace_scidPlaceholder hfloats h, hback, ?_⟩
  · rw [Value.parse_replace_print inert_scidPlaceholder hscid.plain hfloats, if_pos hdepth]
    rfl
  · have hread : X.fromStr (Text.replace scid scidPlaceholder (substituted.print X.f64)) = .ok v :=
      X.fromStr_eq_ok_iff.mpr hback
    unfold deriveScidOfForm
    dsimp only
    rw [hread]
    rfl

namespace Sample

/-- The preliminary form of the sample genesis entry. -/
def preliminary : Value :=
  (genesis.hashingForm scid).mapText (Text.replace scid scidPlaceholder)

theorem deriveScid_preliminary : deriveScid crates preliminary = scid := by decide +kernel

/-- The preliminary form itself gets its SCID, and loses it again. -/
theorem parse_replace_scid_preliminary :
    parse crates.f64 (Text.replace scidPlaceholder (deriveScid crates preliminary)
        (preliminary.print crates.f64)) =
      some (substituteScid (deriveScid crates preliminary) preliminary) ∧
      deriveScidOfForm crates 0 (substituteScid (deriveScid crates preliminary) preliminary)
        (deriveScid crates preliminary) = .ok (deriveScid crates preliminary) := by
  have hocc : Text.OccursOnlyAt scidPlaceholder (deriveScid crates preliminary)
      (preliminary.print crates.f64) := by
    rw [deriveScid_preliminary]
    decide +kernel
  have h := parse_replace_scid crates lawful_f64 0 preliminary preliminary (by decide +kernel) hocc
  exact ⟨h.1, h.2.2.2⟩

/-- A placeholder inside 128 arrays. -/
def nested : Value := (fun v => Value.array [v])^[128] (.string scidPlaceholder)

/-- A text that is nested too deep is not read at all, although the SCID occurs only where it has
been put. -/
theorem not_parse_replace_scid :
    Text.OccursOnlyAt scidPlaceholder (deriveScid crates preliminary) (nested.print crates.f64) ∧
      parse crates.f64 (Text.replace scidPlaceholder (deriveScid crates preliminary)
        (nested.print crates.f64)) = none := by
  rw [deriveScid_preliminary]
  decide +kernel

end Sample

end Swiyu
