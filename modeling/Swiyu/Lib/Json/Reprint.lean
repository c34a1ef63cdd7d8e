import Swiyu.Lib.Json.Subst

/-!
# Values that are read and written again

A value that has been read is nested no deeper than the reader goes, and its doubles have been read.
It can therefore be written again, on one line without space around it, and this line is read.

## Main definitions

- `Json.F64Codec.Rewrites`: a double that is read is written as a number literal.
- `Json.Readable`: a value within the bounds of the reader.

## Main results

- `Json.readable_of_parse`: what is read is readable.
- `Json.exists_readsAs`: how the doubles of a readable value are read once they are written.
- `Json.Value.printable_print`, `Json.Value.trim_print_array`: a rendering is one line.
-/

namespace Json

variable {F : F64Codec}

/-! ## What is read -/

/-- Every double that can be read is written as a number literal. -/
def F64Codec.Rewrites (F : F64Codec) : Prop :=
  ∀ t f, F.parse t = some f → ∃ g, F.ReadsAs f g

theorem F64Codec.Lawful.rewrites (hF : F.Lawful) : F.Rewrites := fun _ f _ => ⟨f, hF f⟩

/-- A value nested at most `limit` deep, all of whose doubles can be read. -/
structure Readable (F : F64Codec) (limit : ℕ) (v : Value) : Prop where
  depth_le : v.depth ≤ limit
  read : ∀ x ∈ v.floats, ∃ t, F.parse t = some x

/-- A double that is read is one that the codec reads. -/
theorem exists_parse_of_numberOfDigits {negative : Bool} {ds fraction exponent : Text} {x : F64}
    (h : numberOfDigits F negative ds fraction exponent = some (.float x)) :
    ∃ t, F.parse t = some x := by
  have hdouble : ∀ t, (F.parse t).map Number.float = some (.float x) → ∃ t, F.parse t = some x := by
    intro t ht
    obtain ⟨y, hy, hyx⟩ := Option.map_eq_some_iff.mp ht
    exact ⟨t, Number.float.inj hyx ▸ hy⟩
  unfold numberOfDigits at h
  dsimp only at h
  -- Integers that fit are no doubles.
  split_ifs at h <;> first | exact hdouble _ h | cases h

theorem exists_parse_of_parseNumber {t t' : Text} {x : F64}
    (h : parseNumber F t = some (.float x, t')) : ∃ s, F.parse s = some x := by
  have hunsigned : ∀ negative t, parseUnsigned F negative t = some (.float x, t') →
      ∃ s, F.parse s = some x := by
    intro negative t h
    simp only [parseUnsigned, Option.bind_eq_bind, Option.bind_eq_some_iff, Prod.exists] at h
    obtain ⟨_, _, _, _, _, _, _, _, n, hn, heq⟩ := h
    obtain ⟨rfl, -⟩ := Prod.mk.inj (Option.some.inj heq)
    exact exists_parse_of_numberOfDigits hn
  unfold parseNumber at h
  split at h
  · exact hunsigned _ _ h
  · exact hunsigned _ _ h

section Loops

variable {p : Text → Option (Value × Text)} {P : Value → Prop}
  (hp : ∀ t v t', p t = some (v, t') → P v)

include hp

/-- What holds of each value that is read holds of the elements of an array. -/
theorem forall_mem_parseElems {fuel : ℕ} {t t' : Text} {l : List Value}
    (h : parseElems p fuel t = some (l, t')) : ∀ v ∈ l, P v := by
  induction fuel generalizing t t' l with
  | zero => cases h
  | succ fuel ih =>
    simp only [parseElems, Option.bind_eq_bind, Option.bind_eq_some_iff, Prod.exists] at h
    obtain ⟨v, t₁, hv, h⟩ := h
    split at h
    · obtain ⟨rfl, -⟩ := Prod.mk.inj (Option.some.inj h)
      simpa using hp _ _ _ hv
    · simp only [Option.bind_eq_some_iff, Prod.exists] at h
      obtain ⟨l', t₂, hl, h⟩ := h
      obtain ⟨rfl, -⟩ := Prod.mk.inj (Option.some.inj h)
      exact List.forall_mem_cons.mpr ⟨hp _ _ _ hv, ih hl⟩
    · cases h

/-- What holds of each value that is read holds of the members of an object. -/
theorem forall_mem_parseMembers {fuel : ℕ} {t t' : Text} {l : List (Text × Value)}
    (h : parseMembers p fuel t = some (l, t')) : ∀ e ∈ l, P e.2 := by
  induction fuel generalizing t t' l with
  | zero => cases h
  | succ fuel ih =>
    unfold parseMembers at h
    split at h
    · simp only [Option.bind_eq_bind, Option.bind_eq_some_iff, Prod.exists] at h
      obtain ⟨k, t₁, -, h⟩ := h
      split at h
      · simp only [Option.bind_eq_some_iff, Prod.exists] at h
        obtain ⟨v, t₂, hv, h⟩ := h
        split at h
        · obtain ⟨rfl, -⟩ := Prod.mk.inj (Option.some.inj h)
          simpa using hp _ _ _ hv
        · simp only [Option.bind_eq_some_iff, Prod.exists] at h
          obtain ⟨l', t₃, hl, h⟩ := h
          obtain ⟨rfl, -⟩ := Prod.mk.inj (Option.some.inj h)
          exact List.forall_mem_cons.mpr ⟨hp _ _ _ hv, ih hl⟩
        · cases h
      · cases h
    · cases h

end Loops

namespace Readable

variable {limit : ℕ}

theorem array {l : List Value} (h : ∀ v ∈ l, Readable F limit v) :
    Readable F (limit + 1) (.array l) := by
  have hboth : Value.depthList l ≤ limit ∧
      ∀ x ∈ Value.floatsList l, ∃ t, F.parse t = some x := by
    induction l with
    | nil => exact ⟨Nat.zero_le _, fun x hx => absurd hx List.not_mem_nil⟩
    | cons v l ih =>
      obtain ⟨hv, hl⟩ := List.forall_mem_cons.mp h
      obtain ⟨hdepth, hread⟩ := ih hl
      exact ⟨max_le hv.depth_le hdepth, List.forall_mem_append.mpr ⟨hv.read, hread⟩⟩
  exact ⟨Nat.succ_le_succ hboth.1, hboth.2⟩

theorem object {m : Object} (h : ∀ e ∈ m.toList, Readable F limit e.2) :
    Readable F (limit + 1) (.object m) := by
  refine ⟨Nat.succ_le_succ (Value.depthEntries_le_iff.mpr fun e he => (h e he).depth_le), ?_⟩
  intro x hx
  obtain ⟨e, he, hx⟩ := Value.mem_floatsEntries_iff.mp hx
  exact (h e he).read x hx

/-- A value inside an array is less deep. -/
theorem of_mem_array {l : List Value} (h : Readable F (limit + 1) (.array l)) {v : Value}
    (hv : v ∈ l) : Readable F limit v := by
  obtain ⟨hdepth, hread⟩ := h
  have hdepth' : Value.depthList l ≤ limit := Nat.le_of_succ_le_succ hdepth
  replace hread : ∀ x ∈ Value.floatsList l, ∃ t, F.parse t = some x := hread
  induction l with
  | nil => cases hv
  | cons w l ih =>
    obtain ⟨hw, hl⟩ := max_le_iff.mp hdepth'
    obtain ⟨hreadw, hreadl⟩ := List.forall_mem_append.mp hread
    rcases List.mem_cons.mp hv with rfl | hv
    · exact ⟨hw, hreadw⟩
    · exact ih hv (Nat.succ_le_succ hl) hl hreadl

/-- A member of an object is less deep. -/
theorem of_mem_object {m : Object} (h : Readable F (limit + 1) (.object m)) {e : Text × Value}
    (he : e ∈ m.toList) : Readable F limit e.2 := by
  refine ⟨Value.depthEntries_le_iff.mp (Nat.le_of_succ_le_succ h.depth_le) e he, fun x hx => ?_⟩
  exact h.read x (Value.mem_floatsEntries_iff.mpr ⟨e, he, hx⟩)

end Readable

/-- A value is read within the limit when the values inside it are read within the one below. -/
theorem readable_of_parseValueWith {inner : Option (Text → Option (Value × Text))} {limit : ℕ}
    (hinner : ∀ p ∈ inner, ∃ k, limit = k + 1 ∧
      ∀ t v t', p t = some (v, t') → Readable F k v)
    {t t' : Text} {v : Value} (h : parseValueWith F inner t = some (v, t')) :
    Readable F limit v := by
  -- A scalar that is no double can be read within every limit.
  have hflat : ∀ v : Value, v.depth = 0 → v.floats = [] → Readable F limit v :=
    fun v hdepth hfloats => ⟨hdepth ▸ Nat.zero_le _, by simp [hfloats]⟩
  unfold parseValueWith at h
  split at h
  · obtain ⟨rfl, -⟩ := Prod.mk.inj (Option.some.inj h)
    exact hflat _ rfl rfl
  · obtain ⟨rfl, -⟩ := Prod.mk.inj (Option.some.inj h)
    exact hflat _ rfl rfl
  · obtain ⟨rfl, -⟩ := Prod.mk.inj (Option.some.inj h)
    exact hflat _ rfl rfl
  · obtain ⟨⟨s, t₁⟩, -, heq⟩ := Option.map_eq_some_iff.mp h
    obtain ⟨rfl, -⟩ := Prod.mk.inj heq
    exact hflat _ rfl rfl
  · -- An array: its elements are read one level below.
    obtain ⟨p, hmem, h⟩ := Option.bind_eq_some_iff.mp h
    obtain ⟨k, rfl, hp⟩ := hinner p hmem
    split at h
    · obtain ⟨rfl, -⟩ := Prod.mk.inj (Option.some.inj h)
      exact .array (by simp)
    · simp only [Option.bind_eq_bind, Option.bind_eq_some_iff, Prod.exists] at h
      obtain ⟨l, t₁, hl, heq⟩ := h
      obtain ⟨rfl, -⟩ := Prod.mk.inj (Option.some.inj heq)
      exact .array (forall_mem_parseElems hp hl)
  · -- An object: the later of two members with one key counts.
    obtain ⟨p, hmem, h⟩ := Option.bind_eq_some_iff.mp h
    obtain ⟨k, rfl, hp⟩ := hinner p hmem
    split at h
    · obtain ⟨rfl, -⟩ := Prod.mk.inj (Option.some.inj h)
      exact .object (by simp [OrdMap.Entries.toList])
    · simp only [Option.bind_eq_bind, Option.bind_eq_some_iff, Prod.exists] at h
      obtain ⟨l, t₁, hl, heq⟩ := h
      obtain ⟨rfl, -⟩ := Prod.mk.inj (Option.some.inj heq)
      have hmembers := forall_mem_parseMembers hp hl
      exact .object fun e he => hmembers e (OrdMap.mem_of_mem_toList_ofList he)
  · -- A number: a double is read from some text, and the integers are exact.
    obtain ⟨⟨n, t₁⟩, hn, heq⟩ := Option.map_eq_some_iff.mp h
    obtain ⟨rfl, -⟩ := Prod.mk.inj heq
    refine ⟨Nat.zero_le _, fun x hx => ?_⟩
    cases n with
    | float y =>
      obtain rfl : x = y := by simpa [Value.floats] using hx
      exact exists_parse_of_parseNumber hn
    | posInt n => simp [Value.floats] at hx
    | negInt n => simp [Value.floats] at hx

theorem readable_of_parseValue {limit : ℕ} {t t' : Text} {v : Value}
    (h : parseValue F limit t = some (v, t')) : Readable F limit v := by
  induction limit generalizing t t' v with
  | zero => exact readable_of_parseValueWith (by simp) h
  | succ limit ih =>
    refine readable_of_parseValueWith (fun p hp => ?_) h
    obtain rfl := Option.some.inj hp
    exact ⟨limit, rfl, fun t v t' => ih⟩

/-- A value that is read is within the bounds of the reader. -/
theorem readable_of_parse {t : Text} {v : Value} (h : parse F t = some v) :
    Readable F depthLimit v := by
  simp only [parse, Option.bind_eq_bind, Option.bind_eq_some_iff, Prod.exists] at h
  obtain ⟨w, t', hw, h⟩ := h
  split_ifs at h
  rw [← Option.some.inj h]
  exact readable_of_parseValue hw

/-- The doubles of a readable value are written as number literals, and read somehow. -/
theorem exists_readsAs (hF : F.Rewrites) :
    ∃ r : F64 → F64, ∀ (limit : ℕ) (v : Value), Readable F limit v →
      ∀ x ∈ v.floats, F.ReadsAs x (r x) := by
  classical
  refine ⟨fun x => if h : ∃ g, F.ReadsAs x g then h.choose else x, fun limit v hv x hx => ?_⟩
  obtain ⟨t, ht⟩ := hv.read x hx
  have h := hF t x ht
  show F.ReadsAs x (if h : ∃ g, F.ReadsAs x g then h.choose else x)
  rw [dif_pos h]
  exact h.choose_spec

/-! ## What is written -/

/-- A character that ends no line and is no other control character either. -/
def Printable (c : Char) : Prop := 0x20 ≤ c.toNat

instance : DecidablePred Printable := fun c => inferInstanceAs (Decidable (0x20 ≤ c.toNat))

theorem printable_escapeChar (c : Char) : ∀ d ∈ escapeChar c, Printable d := by
  have hescape : ∀ d ∈ escapeAlphabet, Printable d := Text.forall_mem_of_all (by decide)
  rcases escapeChar_eq_or c with hplain | ⟨w, -, hw⟩
  · rw [hplain]
    intro d hd
    obtain rfl := List.mem_singleton.mp hd
    by_contra hcontrol
    -- A control character is escaped.
    have hlt : d.toNat < 0x20 := Nat.not_le.mp hcontrol
    have hne : ∀ d : Char, d.toNat < 0x20 → escapeChar d ≠ [d] := by
      intro d hd hself
      have hmem : d ∈ escapeChar d := hself ▸ List.mem_singleton_self d
      rw [escapeChar] at hself
      split_ifs at hself <;> simp_all
    exact hne d hlt hplain
  · exact fun d hd => hescape d (hw d hd)

theorem printable_cons {c : Char} {rest : Text} (hc : 0x20 ≤ c.toNat)
    (hrest : ∀ d ∈ rest, Printable d) : ∀ d ∈ c :: rest, Printable d :=
  List.forall_mem_cons.mpr ⟨hc, hrest⟩

theorem printable_quote {s rest : Text} (hrest : ∀ d ∈ rest, Printable d) :
    ∀ d ∈ quote s rest, Printable d := by
  refine printable_cons (by decide) (List.forall_mem_append.mpr ⟨fun d hd => ?_, ?_⟩)
  · obtain ⟨c, -, hc⟩ := List.mem_flatMap.mp hd
    exact printable_escapeChar c d hc
  · exact printable_cons (by decide) hrest

namespace Value

variable {f : Text → Text} {r : F64 → F64}

/- A rendering has no control character but in what follows it. The induction is on the value. -/
mutual

theorem printable_printWith {v : Value} (hv : ∀ x ∈ v.floats, F.ReadsAs x (r x)) {rest : Text}
    (hrest : ∀ d ∈ rest, Printable d) : ∀ d ∈ v.printWith F f rest, Printable d := by
  have hbare : ∀ d ∈ bareAlphabet, Printable d := Text.forall_mem_of_all (by decide)
  have happend : ∀ w : Text, w ⊆ bareAlphabet → ∀ d ∈ w ++ rest, Printable d := fun w hw =>
    List.forall_mem_append.mpr ⟨fun d hd => hbare d (hw hd), hrest⟩
  match v with
  | null => exact happend ['n', 'u', 'l', 'l'] (by decide)
  | bool true => exact happend ['t', 'r', 'u', 'e'] (by decide)
  | bool false => exact happend ['f', 'a', 'l', 's', 'e'] (by decide)
  | number n =>
    have hn := print_number_subset (readsAs_of_number hv)
    exact happend _ (List.Subset.trans hn (List.subset_append_left _ _))
  | string s => exact printable_quote hrest
  | array [] => exact happend ['[', ']'] (by decide)
  | array (w :: l) =>
    obtain ⟨hw, hl⟩ := List.forall_mem_append.mp hv
    exact printable_cons (by decide) (printable_printWith hw (printable_printElems hl hrest))
  | object .nil => exact happend ['{', '}'] (by decide)
  | object (.cons k _ w m) =>
    obtain ⟨hw, hm⟩ := List.forall_mem_append.mp hv
    have hvalue := printable_printWith hw (printable_printMembers hm hrest)
    exact printable_cons (by decide) (printable_quote (printable_cons (by decide) hvalue))

theorem printable_printElems {l : List Value} (hl : ∀ x ∈ floatsList l, F.ReadsAs x (r x))
    {rest : Text} (hrest : ∀ d ∈ rest, Printable d) :
    ∀ d ∈ printElems F f rest l, Printable d := by
  match l with
  | [] => exact printable_cons (by decide) hrest
  | v :: l =>
    obtain ⟨hv, hl⟩ := List.forall_mem_append.mp hl
    exact printable_cons (by decide) (printable_printWith hv (printable_printElems hl hrest))

theorem printable_printMembers {b : Option Text} {m : OrdMap.Entries Text Value b}
    (hm : ∀ x ∈ floatsEntries m, F.ReadsAs x (r x)) {rest : Text}
    (hrest : ∀ d ∈ rest, Printable d) : ∀ d ∈ printMembers F f rest m, Printable d := by
  match m with
  | .nil => exact printable_cons (by decide) hrest
  | .cons k _ v m =>
    obtain ⟨hv, hm⟩ := List.forall_mem_append.mp hm
    have hvalue := printable_printWith hv (printable_printMembers hm hrest)
    exact printable_cons (by decide) (printable_quote (printable_cons (by decide) hvalue))

end

/-- A rendering has no control character. -/
theorem printable_print {v : Value} (hv : ∀ x ∈ v.floats, F.ReadsAs x (r x)) :
    ∀ c ∈ v.print F, Printable c :=
  printable_printWith hv (by simp)

theorem suffix_quote (s rest : Text) : rest <:+ quote s rest :=
  ⟨'"' :: (escape s ++ ['"']), by simp [quote]⟩

/- What follows a rendering ends it. -/
mutual

theorem suffix_printWith (v : Value) (rest : Text) : rest <:+ v.printWith F f rest := by
  match v with
  | null => exact List.suffix_append ['n', 'u', 'l', 'l'] rest
  | bool true => exact List.suffix_append ['t', 'r', 'u', 'e'] rest
  | bool false => exact List.suffix_append ['f', 'a', 'l', 's', 'e'] rest
  | number n => exact List.suffix_append _ rest
  | string s => exact suffix_quote (f s) rest
  | array [] => exact List.suffix_append ['[', ']'] rest
  | array (w :: l) =>
    exact ((suffix_printElems l rest).trans (suffix_printWith w _)).trans (List.suffix_cons _ _)
  | object .nil => exact List.suffix_append ['{', '}'] rest
  | object (.cons k _ w m) =>
    have hmembers := (suffix_printMembers m rest).trans (suffix_printWith w _)
    exact ((hmembers.trans (List.suffix_cons ':' _)).trans (suffix_quote (f k) _)).trans
      (List.suffix_cons _ _)

theorem suffix_printElems (l : List Value) (rest : Text) : rest <:+ printElems F f rest l := by
  match l with
  | [] => exact List.suffix_cons _ _
  | v :: l =>
    exact ((suffix_printElems l rest).trans (suffix_printWith v _)).trans (List.suffix_cons _ _)

theorem suffix_printMembers {b : Option Text} (m : OrdMap.Entries Text Value b) (rest : Text) :
    rest <:+ printMembers F f rest m := by
  match m with
  | .nil => exact List.suffix_cons _ _
  | .cons k _ v m =>
    have hmembers := (suffix_printMembers m rest).trans (suffix_printWith v _)
    exact ((hmembers.trans (List.suffix_cons ':' _)).trans (suffix_quote (f k) _)).trans
      (List.suffix_cons _ _)

end

/-- There is no space around the rendering of an array. -/
theorem trim_print_array (l : List Value) :
    Text.trim ((array l).print F) = (array l).print F := by
  match l with
  | [] => exact Text.trim_eq_self (s := []) (by decide) (by decide)
  | v :: l =>
    have hclose : [']'] <:+ printElems F id [] l := by
      have hlast : ∀ l : List Value, [']'] <:+ printElems F id [] l := by
        intro l
        induction l with
        | nil => exact List.suffix_refl _
        | cons w l ih => exact (ih.trans (suffix_printWith w _)).trans (List.suffix_cons _ _)
      exact hlast l
    obtain ⟨s, hs⟩ := hclose.trans (suffix_printWith (F := F) (f := id) v _)
    have hprint : (array (v :: l)).print F = '[' :: (s ++ [']']) := by
      rw [hs]
      rfl
    rw [hprint]
    exact Text.trim_eq_self (by decide) (by decide)

/-! ## Reading it again -/

mutual

/-- How the doubles are read matters only for the doubles of the value. -/
theorem reread_congr {r' : F64 → F64} {v : Value} (h : ∀ x ∈ v.floats, r x = r' x) :
    v.reread f r = v.reread f r' := by
  match v with
  | null => rfl
  | bool b => rfl
  | number (.posInt n) => rfl
  | number (.negInt n) => rfl
  | number (.float x) => exact congrArg (fun y => number (.float y)) (h x List.mem_cons_self)
  | string s => rfl
  | array l => rw [reread, reread, rereadList_congr h]
  | object m => rw [reread, reread, rereadEntries_congr h]

theorem rereadList_congr {r' : F64 → F64} {l : List Value} (h : ∀ x ∈ floatsList l, r x = r' x) :
    rereadList f r l = rereadList f r' l := by
  match l with
  | [] => rfl
  | v :: l =>
    obtain ⟨hv, hl⟩ := List.forall_mem_append.mp h
    rw [rereadList, rereadList, reread_congr hv, rereadList_congr hl]

theorem rereadEntries_congr {r' : F64 → F64} {b : Option Text} {m : OrdMap.Entries Text Value b}
    (h : ∀ x ∈ floatsEntries m, r x = r' x) : rereadEntries f r m = rereadEntries f r' m := by
  match m with
  | .nil => rfl
  | .cons k _ v m =>
    obtain ⟨hv, hm⟩ := List.forall_mem_append.mp h
    rw [rereadEntries, rereadEntries, reread_congr hv, rereadEntries_congr hm]

end

/-- A value whose doubles are read as they are is read back. -/
theorem reread_eq_self {v : Value} (h : ∀ x ∈ v.floats, r x = x) : v.reread id r = v := by
  have hid : v.reread id r = v.reread id id := reread_congr h
  rw [hid, reread_id, mapText_eq_self (f := id) fun _ _ => rfl]

end Value

end Json
