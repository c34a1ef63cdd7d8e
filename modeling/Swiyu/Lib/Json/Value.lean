import Mathlib.Data.Char
import Swiyu.Lib.OrdMap
import Swiyu.Lib.Text

/-!
# JSON values

The value type of `serde_json` (its default features: objects are `BTreeMap`s, integers are `u64` or
negative `i64`, other numbers are doubles) and its compact rendering.

## Main definitions

- `Json.Value`: JSON values; an object's keys are in order by construction.
- `Json.Value.print`: `serde_json::to_string`.
- `Json.Value.mapText`: a function applied to every string and every key of a value.
-/

namespace Json

/-- A finite IEEE 754 double, by its bits. -/
structure F64 where
  bits : UInt64
  /-- The biased exponent is not that of the infinities and of what is not a number. -/
  finite : bits.toNat / 2 ^ 52 % 2 ^ 11 ≠ 2 ^ 11 - 1
  deriving DecidableEq

/-- How doubles are written and read. -/
structure F64Codec where
  /-- The shortest text that denotes the double. -/
  print : F64 → Text
  /-- The double a number literal denotes, unless it is out of range. -/
  parse : Text → Option F64

/-- `serde_json::Number`. -/
inductive Number
  /-- A non-negative integer. -/
  | posInt (n : UInt64)
  /-- The negative integer `-(n + 1)`. -/
  | negInt (n : Fin (2 ^ 63))
  /-- Any other number. -/
  | float (f : F64)
  deriving DecidableEq

/-- `serde_json::Value`. -/
inductive Value
  | null
  | bool (b : Bool)
  | number (n : Number)
  | string (s : Text)
  | array (l : List Value)
  | object (m : OrdMap.Entries Text Value none)

/-- `serde_json::Map<String, Value>`. -/
abbrev Object := OrdMap Text Value

/-- `Map::get`. -/
abbrev Object.get (m : Object) (key : Text) : Option Value := OrdMap.Entries.get key m

/-- `Map::remove`, without the removed value. -/
abbrev Object.remove (m : Object) (key : Text) : Object := OrdMap.Entries.erase key m

namespace Value

/-! ## Access -/

/-- `Value::as_str`. -/
def asStr : Value → Option Text
  | string s => some s
  | _ => none

/-- `Value::as_array`. -/
def asArray : Value → Option (List Value)
  | array l => some l
  | _ => none

/-- `Value::as_object`. -/
def asObject : Value → Option Object
  | object m => some m
  | _ => none

/-- `Value::as_bool`. -/
def asBool : Value → Option Bool
  | bool b => some b
  | _ => none

/-- `Value::as_u64`. -/
def asU64 : Value → Option UInt64
  | number (.posInt n) => some n
  | _ => none

/-- `Value::get(key)`: a member of an object. -/
def get (v : Value) (key : Text) : Option Value := v.asObject.bind fun m => m.get key

theorem asObject_eq_some_iff {v : Value} {m : Object} : v.asObject = some m ↔ v = object m := by
  cases v <;> simp [asObject]

theorem asStr_eq_some_iff {v : Value} {s : Text} : v.asStr = some s ↔ v = string s := by
  cases v <;> simp [asStr]

theorem asArray_eq_some_iff {v : Value} {l : List Value} : v.asArray = some l ↔ v = array l := by
  cases v <;> simp [asArray]

theorem asBool_eq_some_iff {v : Value} {b : Bool} : v.asBool = some b ↔ v = bool b := by
  cases v <;> simp [asBool]

theorem asU64_eq_some_iff {v : Value} {n : UInt64} :
    v.asU64 = some n ↔ v = number (.posInt n) := by
  rcases v with _ | _ | (_ | _ | _) | _ | _ | _ <;> simp [asU64]

/-- `json!` of a list of strings. -/
def strings (l : List Text) : Value := array (l.map string)

/-- `json!({ key: value, ... })`. -/
def ofFields (l : List (Text × Value)) : Value := object (OrdMap.ofList l)

/-! ## Equality -/

mutual

/-- Structural equality. -/
def beq : Value → Value → Bool
  | null, null => true
  | bool a, bool b => a == b
  | number a, number b => a == b
  | string s, string t => s == t
  | array l, array l' => beqList l l'
  | object m, object m' => beqEntries m m'
  | _, _ => false

def beqList : List Value → List Value → Bool
  | [], [] => true
  | v :: l, w :: l' => beq v w && beqList l l'
  | _, _ => false

def beqEntries {b b' : Option Text} :
    OrdMap.Entries Text Value b → OrdMap.Entries Text Value b' → Bool
  | .nil, .nil => true
  | .cons k _ v rest, .cons k' _ v' rest' => k == k' && beq v v' && beqEntries rest rest'
  | _, _ => false

end

mutual

theorem eq_of_beq {v w : Value} (h : beq v w = true) : v = w := by
  match v, w with
  | null, null => rfl
  | bool a, bool b => simpa [beq] using h
  | number a, number b => simpa [beq] using h
  | string s, string t => simpa [beq] using h
  | array l, array l' =>
    have hl : beqList l l' = true := by simpa [beq] using h
    rw [eq_of_beqList hl]
  | object m, object m' =>
    have hm : beqEntries m m' = true := by simpa [beq] using h
    rw [OrdMap.Entries.toList_injective (toList_eq_of_beqEntries hm)]

theorem eq_of_beqList {l l' : List Value} (h : beqList l l' = true) : l = l' := by
  match l, l' with
  | [], [] => rfl
  | v :: l, w :: l' =>
    obtain ⟨hv, hl⟩ : beq v w = true ∧ beqList l l' = true := by simpa [beqList] using h
    rw [eq_of_beq hv, eq_of_beqList hl]

theorem toList_eq_of_beqEntries {b b' : Option Text} {m : OrdMap.Entries Text Value b}
    {m' : OrdMap.Entries Text Value b'} (h : beqEntries m m' = true) : m.toList = m'.toList := by
  match m, m' with
  | .nil, .nil => rfl
  | .cons k _ v rest, .cons k' _ v' rest' =>
    obtain ⟨⟨rfl, hv⟩, hrest⟩ : (k = k' ∧ beq v v' = true) ∧ beqEntries rest rest' = true := by
      simpa [beqEntries] using h
    rw [OrdMap.Entries.toList, OrdMap.Entries.toList, eq_of_beq hv, toList_eq_of_beqEntries hrest]

end

mutual

@[simp]
theorem beq_refl (v : Value) : beq v v = true := by
  match v with
  | null => rfl
  | bool b => simp [beq]
  | number n => simp [beq]
  | string s => simp [beq]
  | array l => simpa [beq] using beqList_refl l
  | object m => simpa [beq] using beqEntries_refl m

theorem beqList_refl (l : List Value) : beqList l l = true := by
  match l with
  | [] => rfl
  | v :: l => simp [beqList, beq_refl v, beqList_refl l]

theorem beqEntries_refl {b : Option Text} (m : OrdMap.Entries Text Value b) :
    beqEntries m m = true := by
  match m with
  | .nil => rfl
  | .cons k _ v rest => simp [beqEntries, beq_refl v, beqEntries_refl rest]

end

instance : DecidableEq Value := fun v w =>
  decidable_of_iff (beq v w = true) ⟨eq_of_beq, fun h => h ▸ beq_refl v⟩

end Value

/-! ## Rendering -/

/-- The digit of a number below 16, in lower case. -/
def hexDigit (n : ℕ) : Char := Nat.digitChar n

/-- A character inside a string literal. -/
def escapeChar (c : Char) : Text :=
  if c = '"' then ['\\', '"']
  else if c = '\\' then ['\\', '\\']
  else if c = '\x08' then ['\\', 'b']
  else if c = '\t' then ['\\', 't']
  else if c = '\n' then ['\\', 'n']
  else if c = '\x0c' then ['\\', 'f']
  else if c = '\r' then ['\\', 'r']
  else if c.toNat < 0x20 then
    ['\\', 'u', '0', '0', hexDigit (c.toNat / 16), hexDigit (c.toNat % 16)]
  else [c]

/-- The inside of a string literal. -/
def escape (s : Text) : Text := s.flatMap escapeChar

/-- A string literal followed by `rest`. -/
def quote (s rest : Text) : Text := '"' :: (escape s ++ '"' :: rest)

/-- The rendering of a number. -/
def Number.print (F : F64Codec) : Number → Text
  | posInt n => Text.decimal n.toNat
  | negInt n => '-' :: Text.decimal (n + 1)
  | float f => F.print f

namespace Value

variable (F : F64Codec) (f : Text → Text)

/- The renderings are followed by the text `rest`, so that a statement about them can say what comes
after a value. -/
mutual

/-- The compact rendering of a value with `f` applied to every string and key, followed by
`rest`. -/
def printWith (rest : Text) : Value → Text
  | null => 'n' :: 'u' :: 'l' :: 'l' :: rest
  | bool true => 't' :: 'r' :: 'u' :: 'e' :: rest
  | bool false => 'f' :: 'a' :: 'l' :: 's' :: 'e' :: rest
  | number n => n.print F ++ rest
  | string s => quote (f s) rest
  | array [] => '[' :: ']' :: rest
  | array (v :: l) => '[' :: printWith (printElems rest l) v
  | object .nil => '{' :: '}' :: rest
  | object (.cons k _ v m) => '{' :: quote (f k) (':' :: printWith (printMembers rest m) v)

/-- The elements after the first, and the bracket that closes the array. -/
def printElems (rest : Text) : List Value → Text
  | [] => ']' :: rest
  | v :: l => ',' :: printWith (printElems rest l) v

/-- The members after the first, and the brace that closes the object. -/
def printMembers (rest : Text) {b : Option Text} : OrdMap.Entries Text Value b → Text
  | .nil => '}' :: rest
  | .cons k _ v m => ',' :: quote (f k) (':' :: printWith (printMembers rest m) v)

end

/-- `serde_json::to_string`. -/
def print (v : Value) : Text := printWith F id [] v

/-! ## The strings, the doubles and the depth of a value -/

mutual

/-- `f` applied to every string and every key; of two keys that become one the later counts. -/
def mapText : Value → Value
  | string s => string (f s)
  | array l => array (mapTextList l)
  | object m => object (OrdMap.ofList (mapTextEntries m))
  | v => v

def mapTextList : List Value → List Value
  | [] => []
  | v :: l => mapText v :: mapTextList l

def mapTextEntries {b : Option Text} : OrdMap.Entries Text Value b → List (Text × Value)
  | .nil => []
  | .cons k _ v m => (f k, mapText v) :: mapTextEntries m

end

mutual

/-- The strings and the keys of a value. -/
def texts : Value → List Text
  | string s => [s]
  | array l => textsList l
  | object m => textsEntries m
  | _ => []

def textsList : List Value → List Text
  | [] => []
  | v :: l => texts v ++ textsList l

def textsEntries {b : Option Text} : OrdMap.Entries Text Value b → List Text
  | .nil => []
  | .cons k _ v m => k :: (texts v ++ textsEntries m)

end

mutual

/-- The doubles of a value. -/
def floats : Value → List F64
  | number (.float f) => [f]
  | array l => floatsList l
  | object m => floatsEntries m
  | _ => []

def floatsList : List Value → List F64
  | [] => []
  | v :: l => floats v ++ floatsList l

def floatsEntries {b : Option Text} : OrdMap.Entries Text Value b → List F64
  | .nil => []
  | .cons _ _ v m => floats v ++ floatsEntries m

end

mutual

/-- How deep arrays and objects are nested. -/
def depth : Value → ℕ
  | array l => depthList l + 1
  | object m => depthEntries m + 1
  | _ => 0

def depthList : List Value → ℕ
  | [] => 0
  | v :: l => max (depth v) (depthList l)

def depthEntries {b : Option Text} : OrdMap.Entries Text Value b → ℕ
  | .nil => 0
  | .cons _ _ v m => max (depth v) (depthEntries m)

end

/-! ## Functions on texts -/

section MapText

variable {f g : Text → Text}

theorem mapTextEntries_eq {b : Option Text} (m : OrdMap.Entries Text Value b) :
    mapTextEntries f m = m.toList.map fun e => (f e.1, e.2.mapText f) := by
  induction m with
  | nil => rfl
  | cons k _ v m ih => rw [mapTextEntries, OrdMap.Entries.toList, List.map_cons, ih]

theorem mapTextList_eq (l : List Value) : mapTextList f l = l.map (mapText f) := by
  induction l with
  | nil => rfl
  | cons v l ih => rw [mapTextList, List.map_cons, ih]

/-- A function that fixes the keys of an object is applied to its values. -/
theorem mapText_ofFields {l : List (Text × Value)} (h : ∀ p ∈ l, f p.1 = p.1) :
    (ofFields l).mapText f = ofFields (l.map fun p => (p.1, p.2.mapText f)) := by
  have hkeys : (OrdMap.ofList l).toList.map (fun p => (f p.1, p.2.mapText f)) =
      (OrdMap.ofList l).toList.map fun p => (p.1, p.2.mapText f) :=
    List.map_congr_left fun p hp => by rw [h p (OrdMap.mem_of_mem_toList_ofList hp)]
  unfold ofFields
  rw [mapText, mapTextEntries_eq, hkeys]
  refine congrArg object (OrdMap.Entries.ext_get fun q => ?_)
  rw [OrdMap.get_ofList_map (mapText f), OrdMap.get_ofList_map (mapText f), OrdMap.ofList_toList]

mutual

/-- A function that fixes the texts of a value fixes the value. -/
theorem mapText_eq_self {v : Value} (h : ∀ s ∈ v.texts, f s = s) : v.mapText f = v := by
  match v with
  | null => rfl
  | bool b => rfl
  | number n => rfl
  | string s => rw [mapText, h s List.mem_cons_self]
  | array l => rw [mapText, mapTextList_eq_self h]
  | object m => rw [mapText, mapTextEntries_eq_self h, OrdMap.ofList_toList]

theorem mapTextList_eq_self {l : List Value} (h : ∀ s ∈ textsList l, f s = s) :
    mapTextList f l = l := by
  match l with
  | [] => rfl
  | v :: l =>
    rw [mapTextList, mapText_eq_self fun s hs => h s (List.mem_append_left _ hs),
      mapTextList_eq_self fun s hs => h s (List.mem_append_right _ hs)]

theorem mapTextEntries_eq_self {b : Option Text} {m : OrdMap.Entries Text Value b}
    (h : ∀ s ∈ textsEntries m, f s = s) : mapTextEntries f m = m.toList := by
  match m with
  | .nil => rfl
  | .cons k _ v m =>
    have hrest : ∀ s ∈ v.texts ++ textsEntries m, f s = s := fun s hs =>
      h s (List.mem_cons_of_mem _ hs)
    rw [mapTextEntries, OrdMap.Entries.toList, h k List.mem_cons_self,
      mapText_eq_self fun s hs => hrest s (List.mem_append_left _ hs),
      mapTextEntries_eq_self fun s hs => hrest s (List.mem_append_right _ hs)]

end

mutual

/-- A function that is undone on the texts of a value is undone on the value. Keys may change their
order on the way, but distinct keys stay distinct. -/
theorem mapText_mapText {v : Value} (h : ∀ s ∈ v.texts, g (f s) = s) :
    (v.mapText f).mapText g = v := by
  match v with
  | null => rfl
  | bool b => rfl
  | number n => rfl
  | string s => rw [mapText, mapText, h s List.mem_cons_self]
  | array l => rw [mapText, mapText, mapTextList_mapTextList h]
  | object m =>
    have hback := map_mapTextEntries h
    have hkeys : ((mapTextEntries f m).map Prod.fst).Nodup := by
      have hg : ((mapTextEntries f m).map Prod.fst).map g = m.toList.map Prod.fst := by
        conv_rhs => rw [← hback]
        simp
      exact List.Nodup.of_map g (hg ▸ m.nodup_keys)
    have hperm := (OrdMap.toList_ofList_perm hkeys).map fun e => (g e.1, e.2.mapText g)
    rw [hback] at hperm
    have hkeys' := (hperm.map Prod.fst).nodup_iff.mpr m.nodup_keys
    rw [mapText, mapText, mapTextEntries_eq, OrdMap.ofList_congr hkeys' hperm, OrdMap.ofList_toList]

theorem mapTextList_mapTextList {l : List Value} (h : ∀ s ∈ textsList l, g (f s) = s) :
    mapTextList g (mapTextList f l) = l := by
  match l with
  | [] => rfl
  | v :: l =>
    rw [mapTextList, mapTextList, mapText_mapText fun s hs => h s (List.mem_append_left _ hs),
      mapTextList_mapTextList fun s hs => h s (List.mem_append_right _ hs)]

theorem map_mapTextEntries {b : Option Text} {m : OrdMap.Entries Text Value b}
    (h : ∀ s ∈ textsEntries m, g (f s) = s) :
    (mapTextEntries f m).map (fun e => (g e.1, e.2.mapText g)) = m.toList := by
  match m with
  | .nil => rfl
  | .cons k _ v m =>
    have hrest : ∀ s ∈ v.texts ++ textsEntries m, g (f s) = s := fun s hs =>
      h s (List.mem_cons_of_mem _ hs)
    rw [mapTextEntries, OrdMap.Entries.toList, List.map_cons, h k List.mem_cons_self,
      mapText_mapText fun s hs => hrest s (List.mem_append_left _ hs),
      map_mapTextEntries fun s hs => hrest s (List.mem_append_right _ hs)]

end

theorem depthEntries_le_iff {b : Option Text} {m : OrdMap.Entries Text Value b} {n : ℕ} :
    depthEntries m ≤ n ↔ ∀ e ∈ m.toList, e.2.depth ≤ n := by
  induction m with
  | nil => simp [depthEntries, OrdMap.Entries.toList]
  | cons k _ v m ih => simp [depthEntries, OrdMap.Entries.toList, ih]

theorem mem_floatsEntries_iff {b : Option Text} {m : OrdMap.Entries Text Value b} {x : F64} :
    x ∈ floatsEntries m ↔ ∃ e ∈ m.toList, x ∈ e.2.floats := by
  induction m with
  | nil => simp [floatsEntries, OrdMap.Entries.toList]
  | cons k _ v m ih => simp [floatsEntries, OrdMap.Entries.toList, ih]

/- A function on texts neither nests a value deeper nor brings in a double. -/
mutual

theorem depth_mapText_le (v : Value) : (v.mapText f).depth ≤ v.depth := by
  match v with
  | null => exact le_rfl
  | bool b => exact le_rfl
  | number n => exact le_rfl
  | string s => exact le_rfl
  | array l => exact Nat.add_le_add_right (depthList_mapTextList_le l) 1
  | object m =>
    refine Nat.add_le_add_right (depthEntries_le_iff.mpr fun e he => ?_) 1
    exact depth_of_mem_mapTextEntries m (OrdMap.mem_of_mem_toList_ofList he)

theorem depthList_mapTextList_le (l : List Value) :
    depthList (mapTextList f l) ≤ depthList l := by
  match l with
  | [] => exact le_rfl
  | v :: l => exact max_le_max (depth_mapText_le v) (depthList_mapTextList_le l)

theorem depth_of_mem_mapTextEntries {b : Option Text} (m : OrdMap.Entries Text Value b)
    {e : Text × Value} (h : e ∈ mapTextEntries f m) : e.2.depth ≤ depthEntries m := by
  match m with
  | .nil => cases h
  | .cons k _ v m =>
    rcases List.mem_cons.mp h with rfl | h
    · exact (depth_mapText_le v).trans (le_max_left _ _)
    · exact (depth_of_mem_mapTextEntries m h).trans (le_max_right _ _)

end

mutual

theorem floats_mapText_subset (v : Value) : (v.mapText f).floats ⊆ v.floats := by
  match v with
  | null => exact List.Subset.refl _
  | bool b => exact List.Subset.refl _
  | number n => exact List.Subset.refl _
  | string s => exact List.Subset.refl _
  | array l => exact floatsList_mapTextList_subset l
  | object m =>
    intro x hx
    obtain ⟨e, he, hx⟩ := mem_floatsEntries_iff.mp hx
    exact floats_of_mem_mapTextEntries m (OrdMap.mem_of_mem_toList_ofList he) hx

theorem floatsList_mapTextList_subset (l : List Value) :
    floatsList (mapTextList f l) ⊆ floatsList l := by
  match l with
  | [] => exact List.Subset.refl _
  | v :: l =>
    apply List.append_subset.mpr
    exact ⟨List.subset_append_of_subset_left _ (floats_mapText_subset v),
      List.subset_append_of_subset_right _ (floatsList_mapTextList_subset l)⟩

theorem floats_of_mem_mapTextEntries {b : Option Text} (m : OrdMap.Entries Text Value b)
    {e : Text × Value} (h : e ∈ mapTextEntries f m) : e.2.floats ⊆ floatsEntries m := by
  match m with
  | .nil => cases h
  | .cons k _ v m =>
    rcases List.mem_cons.mp h with rfl | h
    · exact List.subset_append_of_subset_left _ (floats_mapText_subset v)
    · exact List.subset_append_of_subset_right _ (floats_of_mem_mapTextEntries m h)

end

end MapText

end Value

end Json
