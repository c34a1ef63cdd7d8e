import Swiyu.Lib.Exec
import Swiyu.Lib.Json.Value

/-!
# Round trips through JSON

A type whose values are written as JSON and read back, by functions that know nothing of each other.

## Main definitions

- `Json.RoundTrips`: a decoder undoes an encoder.
- `Json.WritesBack`: which values the encoder writes as they were read.
- `Json.HasOnly`: the members of an object are among those named.

## Main results

- `Json.RoundTrips.stable`: what has been read, in whatever form, is written in one that is read as
  the same value.
- `Json.RoundTrips.mapM`: lists are read back element by element.
- `Json.WritesBack.map_eq_iff`: and written back so.
- `Json.ofFields_eq_object_iff`: when an object is that of a list of members.
-/

namespace Json

/-- The decoder yields the value that has been encoded. -/
def RoundTrips {ε α : Type} (encode : α → Value) (decode : Value → Except ε α) : Prop :=
  ∀ a, decode (encode a) = .ok a

namespace RoundTrips

variable {ε α : Type} {encode : α → Value} {decode : Value → Except ε α}

/-- A value that has been read from a form that the encoder would not have chosen is written in one
that is read as the same value. -/
theorem stable (h : RoundTrips encode decode) {v : Value} {a : α} (_ : decode v = .ok a) :
    decode (encode a) = .ok a :=
  h a

/-- Lists are read back element by element. -/
theorem mapM (h : RoundTrips encode decode) (l : List α) : (l.map encode).mapM decode = .ok l :=
  Except.mapM_map_eq_ok fun a _ => h a

end RoundTrips

/-- What has been read is written back as it was just when it is of the given form. -/
def WritesBack {ε α : Type} (encode : α → Value) (decode : Value → Except ε α)
    (IsForm : Value → Prop) : Prop :=
  ∀ v a, decode v = .ok a → (encode a = v ↔ IsForm v)

/-- A list is written back as it was when its elements are. -/
theorem WritesBack.map_eq_iff {ε α : Type} {encode : α → Value} {decode : Value → Except ε α}
    {IsForm : Value → Prop} (h : WritesBack encode decode IsForm) {arr : List Value} {l : List α}
    (hread : arr.mapM decode = .ok l) : l.map encode = arr ↔ ∀ v ∈ arr, IsForm v := by
  induction Except.mapM_eq_ok_iff.mp hread with
  | nil => simp
  | cons hv hrest ih =>
    rw [List.map_cons, List.cons.injEq, List.forall_mem_cons, h _ _ hv,
      ih (Except.mapM_eq_ok_iff.mpr hrest)]

/-! ## Members -/

/-- The object has no members but those named. -/
def HasOnly (keys : List Text) (obj : Object) : Prop := ∀ key, key ∉ keys → obj.get key = none

/-- An object is that of a list of members when it has the same members and no others. -/
theorem ofFields_eq_object_iff {fields : List (Text × Value)} (keys : List Text)
    (h : ∀ p ∈ fields, p.1 ∈ keys) {obj : Object} : Value.ofFields fields = .object obj ↔
      (∀ key ∈ keys, (OrdMap.ofList fields).get key = obj.get key) ∧ HasOnly keys obj := by
  have hnone : HasOnly keys (OrdMap.ofList fields) := by
    intro key hkey
    by_contra hne
    obtain ⟨v, hv⟩ := Option.ne_none_iff_exists'.mp hne
    exact hkey (h _ (OrdMap.mem_of_mem_toList_ofList (OrdMap.Entries.get_eq_some_iff.mp hv)))
  unfold Value.ofFields
  rw [Value.object.injEq]
  constructor
  · intro heq
    rw [← heq]
    exact ⟨fun key _ => rfl, hnone⟩
  · rintro ⟨hkeys, honly⟩
    refine OrdMap.Entries.ext_get fun key => ?_
    by_cases hkey : key ∈ keys
    · exact hkeys key hkey
    · exact (hnone key hkey).trans (honly key hkey).symm

end Json
