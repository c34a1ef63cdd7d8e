import Swiyu.Lib.Json.Reprint

/-!
# Indented JSON

`serde_json::to_string_pretty` puts every element and every member on a line of its own, indented by
two blanks for each array or object around it. The line breaks and blanks are white space between
tokens, which the parser skips: an indented rendering is read as the compact one.

## Main definitions

- `Json.Value.pretty`: the indented rendering of a value.

## Main results

- `Json.parse_pretty`: an indented rendering is read as the compact rendering.
-/

namespace Json

/-- A new line at depth `n`, and what follows. -/
def newline (n : ℕ) (rest : Text) : Text := '\n' :: (List.replicate (2 * n) ' ' ++ rest)

namespace Value

section

variable (F : F64Codec)

mutual

/-- An indented value at depth `n`, followed by `rest`. -/
def prettyWith (n : ℕ) (rest : Text) : Value → Text
  | null => 'n' :: 'u' :: 'l' :: 'l' :: rest
  | bool true => 't' :: 'r' :: 'u' :: 'e' :: rest
  | bool false => 'f' :: 'a' :: 'l' :: 's' :: 'e' :: rest
  | number k => k.print F ++ rest
  | string s => quote s rest
  | array [] => '[' :: ']' :: rest
  | array (v :: l) => '[' :: newline (n + 1) (prettyWith (n + 1) (prettyElems n rest l) v)
  | object .nil => '{' :: '}' :: rest
  | object (.cons k _ v m) => '{' :: newline (n + 1)
      (quote k (':' :: ' ' :: prettyWith (n + 1) (prettyMembers n rest m) v))

/-- The elements after the first, and the bracket that closes the array. -/
def prettyElems (n : ℕ) (rest : Text) : List Value → Text
  | [] => newline n (']' :: rest)
  | v :: l => ',' :: newline (n + 1) (prettyWith (n + 1) (prettyElems n rest l) v)

/-- The members after the first, and the brace that closes the object. -/
def prettyMembers (n : ℕ) (rest : Text) {b : Option Text} : OrdMap.Entries Text Value b → Text
  | .nil => newline n ('}' :: rest)
  | .cons k _ v m => ',' :: newline (n + 1)
      (quote k (':' :: ' ' :: prettyWith (n + 1) (prettyMembers n rest m) v))

end

/-- `serde_json::to_string_pretty`. -/
def pretty (v : Value) : Text := prettyWith F 0 [] v

end

end Value

example (F : F64Codec) : (Value.array [.null, .array [], .array [.bool true]]).pretty F =
    "[\n  null,\n  [],\n  [\n    true\n  ]\n]" := rfl

/-! ## White space -/

theorem skipSpace_newline (n : ℕ) (t : Text) : skipSpace (newline n t) = skipSpace t := by
  have hblank : ∀ c ∈ List.replicate (2 * n) ' ', isSpace c = true := fun c hc => by
    rw [List.eq_of_mem_replicate hc]
    rfl
  show List.dropWhile isSpace ('\n' :: _) = _
  rw [List.dropWhile_cons_of_pos rfl, List.dropWhile_append_of_pos hblank]
  rfl

/-- White space before a value is skipped. -/
theorem parseValueWith_skipSpace {F : F64Codec} {inner : Option (Text → Option (Value × Text))}
    {t t' : Text} (h : skipSpace t = skipSpace t') :
    parseValueWith F inner t = parseValueWith F inner t' := by
  rw [parseValueWith, parseValueWith, h]

theorem parseValue_newline (F : F64Codec) (limit n : ℕ) (t : Text) :
    parseValue F limit (newline n t) = parseValue F limit t := by
  obtain ⟨inner, hinner⟩ := Value.parseValue_eq_parseValueWith F limit
  rw [hinner, parseValueWith_skipSpace (skipSpace_newline n t)]

theorem parseValue_blank (F : F64Codec) (limit : ℕ) (t : Text) :
    parseValue F limit (' ' :: t) = parseValue F limit t := by
  obtain ⟨inner, hinner⟩ := Value.parseValue_eq_parseValueWith F limit
  rw [hinner, parseValueWith_skipSpace]
  rfl

/-- White space before the first element or member is skipped. -/
theorem parseValueWith_open {F : F64Codec} {inner : Option (Text → Option (Value × Text))}
    (c : Char) (hc : c = '[' ∨ c = '{') (n : ℕ) (t : Text) :
    parseValueWith F inner (c :: newline n t) = parseValueWith F inner (c :: t) := by
  rcases hc with rfl | rfl
  · rw [parseValueWith, parseValueWith, skipSpace_cons (by decide), skipSpace_cons (by decide)]
    simp only [skipSpace_newline]
  · rw [parseValueWith, parseValueWith, skipSpace_cons (by decide), skipSpace_cons (by decide)]
    simp only [skipSpace_newline]

theorem parseElems_newline (F : F64Codec) (limit fuel n : ℕ) (t : Text) :
    parseElems (parseValue F limit) fuel (newline n t) =
      parseElems (parseValue F limit) fuel t := by
  cases fuel with
  | zero => rfl
  | succ fuel => rw [parseElems, parseElems, parseValue_newline]

theorem parseMembers_newline (p : Text → Option (Value × Text)) (fuel n : ℕ) (t : Text) :
    parseMembers p fuel (newline n t) = parseMembers p fuel t := by
  cases fuel with
  | zero => rfl
  | succ fuel => rw [parseMembers, parseMembers, skipSpace_newline]

/-! ## Reading -/

namespace Value

variable {F : F64Codec} {r : F64 → F64}

theorem sublist_newline {t t' : Text} (n : ℕ) (h : t.Sublist t') : t.Sublist (newline n t') :=
  (h.trans (List.sublist_append_right _ _)).cons _

theorem sublist_quote {t t' : Text} (s : Text) (h : t.Sublist t') :
    (quote s t).Sublist (quote s t') :=
  ((List.Sublist.refl _).append (h.cons_cons _)).cons_cons _

mutual

/-- The compact rendering is what is left without the white space. -/
theorem sublist_prettyWith (n : ℕ) {t t' : Text} (h : t.Sublist t') (v : Value) :
    (v.printWith F id t).Sublist (v.prettyWith F n t') := by
  match v with
  | null => exact (List.Sublist.refl ['n', 'u', 'l', 'l']).append h
  | bool true => exact (List.Sublist.refl ['t', 'r', 'u', 'e']).append h
  | bool false => exact (List.Sublist.refl ['f', 'a', 'l', 's', 'e']).append h
  | number k => exact (List.Sublist.refl _).append h
  | string s => exact sublist_quote s h
  | array [] => exact (List.Sublist.refl ['[', ']']).append h
  | array (w :: l) =>
    exact (sublist_newline _ (sublist_prettyWith (n + 1) (sublist_prettyElems n h l) w)).cons_cons _
  | object .nil => exact (List.Sublist.refl [_, _]).append h
  | object (.cons k _ w m) =>
    refine (sublist_newline _ (sublist_quote k ?_)).cons_cons _
    exact ((sublist_prettyWith (n + 1) (sublist_prettyMembers n h m) w).cons _).cons_cons _

theorem sublist_prettyElems (n : ℕ) {t t' : Text} (h : t.Sublist t') (l : List Value) :
    (printElems F id t l).Sublist (prettyElems F n t' l) := by
  match l with
  | [] => exact sublist_newline n (h.cons_cons _)
  | w :: l =>
    exact (sublist_newline _ (sublist_prettyWith (n + 1) (sublist_prettyElems n h l) w)).cons_cons _

theorem sublist_prettyMembers (n : ℕ) {t t' : Text} (h : t.Sublist t') {b : Option Text}
    (m : OrdMap.Entries Text Value b) :
    (printMembers F id t m).Sublist (prettyMembers F n t' m) := by
  match m with
  | .nil => exact sublist_newline n (h.cons_cons _)
  | .cons k _ w m =>
    refine (sublist_newline _ (sublist_quote k ?_)).cons_cons _
    exact ((sublist_prettyWith (n + 1) (sublist_prettyMembers n h m) w).cons _).cons_cons _

end

/-- Both renderings start with the same character. -/
theorem exists_head_prettyWith {v : Value} (hv : ∀ x ∈ v.floats, F.ReadsAs x (r x)) (n : ℕ)
    (rest : Text) :
    ∃ c t, v.prettyWith F n rest = c :: t ∧ isSpace c = false ∧ c ≠ ']' ∧ c ≠ '}' := by
  obtain ⟨c, t, hprint, hc⟩ := exists_head_printWith (f := id) hv rest
  have hhead : (v.prettyWith F n rest).head? = (v.printWith F id rest).head? := by
    rcases v with _ | (_ | _) | _ | _ | (_ | _) | (_ | _) <;> rfl
  rw [hprint, List.head?_cons, List.head?_eq_some_iff] at hhead
  obtain ⟨t', hpretty⟩ := hhead
  exact ⟨c, t', hpretty, hc⟩

theorem delimited_prettyElems (n : ℕ) (l : List Value) (rest : Text) :
    Delimited (prettyElems F n rest l) := by
  cases l <;> exact delimited_cons (by decide)

theorem delimited_prettyMembers (n : ℕ) {b : Option Text} (m : OrdMap.Entries Text Value b)
    (rest : Text) : Delimited (prettyMembers F n rest m) := by
  cases m <;> exact delimited_cons (by decide)

/- An indented rendering is read as the compact one is. The induction is on the value; a list of
elements or members is read by as many rounds of the loop. -/
mutual

theorem parseValue_prettyWith {v : Value} (hv : ∀ x ∈ v.floats, F.ReadsAs x (r x)) (n : ℕ)
    {limit : ℕ} {rest : Text} (hrest : Delimited rest) :
    parseValue F limit (v.prettyWith F n rest) =
      if v.depth ≤ limit then some (v.reread id r, rest) else none := by
  -- Scalars and empty brackets are printed as in the compact form; the others differ from it in
  -- white space only.
  match v with
  | null => exact parseValue_printWith (f := id) (v := null) hv hrest
  | bool true => exact parseValue_printWith (f := id) (v := bool true) hv hrest
  | bool false => exact parseValue_printWith (f := id) (v := bool false) hv hrest
  | number k => exact parseValue_printWith (f := id) (v := number k) hv hrest
  | string s => exact parseValue_printWith (f := id) (v := string s) hv hrest
  | array [] => exact parseValue_printWith (f := id) (v := array []) hv hrest
  | array (w :: l) =>
    cases limit with
    | zero =>
      rw [parseValue, parseValueWith, prettyWith, skipSpace_cons (by decide)]
      simp [depth]
    | succ limit =>
      have hw : ∀ x ∈ w.floats, F.ReadsAs x (r x) := fun x hx => hv x (List.mem_append_left _ hx)
      have hl : ∀ x ∈ floatsList l, F.ReadsAs x (r x) :=
        fun x hx => hv x (List.mem_append_right _ hx)
      have hfuel : l.length < (w.prettyWith F (n + 1) (prettyElems F n rest l)).length := by
        -- The compact form is a sublist of the pretty one, which is therefore as long at least.
        have hsub := sublist_prettyWith (F := F) (n + 1)
          (sublist_prettyElems (F := F) n (List.Sublist.refl rest) l) w
        have h₁ := length_lt_printWith (f := id) hw (printElems F id rest l)
        have h₂ := length_lt_printElems (f := id) hl rest
        have h₃ := hsub.length_le
        omega
      have ih := parseElems_pretty hw hl n limit hfuel hrest
      -- The first element does not begin with white space, so the space before it is skipped.
      obtain ⟨c, t, hp, hspace, hbracket, -⟩ :=
        exists_head_prettyWith hw (n + 1) (prettyElems F n rest l)
      rw [parseValue, prettyWith, parseValueWith_open _ (.inl rfl), hp,
        parseValueWith_array hspace hbracket, ← hp, ih]
      simp only [depth, depthList, reread, rereadList, Nat.add_le_add_iff_right]
      split_ifs <;> rfl
  | object .nil => exact parseValue_printWith (f := id) (v := object .nil) hv hrest
  | object (.cons k hk w m) =>
    cases limit with
    | zero =>
      rw [parseValue, parseValueWith, prettyWith, skipSpace_cons (by decide)]
      simp [depth]
    | succ limit =>
      have hw : ∀ x ∈ w.floats, F.ReadsAs x (r x) := fun x hx => hv x (List.mem_append_left _ hx)
      have hm : ∀ x ∈ floatsEntries m, F.ReadsAs x (r x) := fun x hx =>
        hv x (List.mem_append_right _ hx)
      have hfuel : m.toList.length < (quote k
          (':' :: ' ' :: w.prettyWith F (n + 1) (prettyMembers F n rest m))).length := by
        have hsub := sublist_prettyWith (F := F) (n + 1)
          (sublist_prettyMembers (F := F) n (List.Sublist.refl rest) m) w
        have h₁ := length_lt_printWith (f := id) hw (printMembers F id rest m)
        have h₂ := length_lt_printMembers (f := id) hm rest
        have h₃ := hsub.length_le
        simp only [quote, List.length_cons, List.length_append]
        omega
      have ih := parseMembers_pretty (k := k) hw hm n limit hfuel hrest
      rw [parseValue, prettyWith, parseValueWith_open _ (.inr rfl), quote,
        parseValueWith_object (by decide) (by decide), ← quote, ih]
      simp only [depth, depthEntries, reread, rereadEntries, Nat.add_le_add_iff_right, id_eq]
      split_ifs <;> rfl
termination_by sizeOf v

theorem parseElems_pretty {v : Value} {l : List Value} (hv : ∀ x ∈ v.floats, F.ReadsAs x (r x))
    (hl : ∀ x ∈ floatsList l, F.ReadsAs x (r x)) (n limit : ℕ) {fuel : ℕ} (hfuel : l.length < fuel)
    {rest : Text} (hrest : Delimited rest) :
    parseElems (parseValue F limit) fuel (v.prettyWith F (n + 1) (prettyElems F n rest l)) =
      if max v.depth (depthList l) ≤ limit then some (v.reread id r :: rereadList id r l, rest)
      else none := by
  obtain ⟨fuel, rfl⟩ : ∃ k, fuel = k + 1 := Nat.exists_eq_succ_of_ne_zero (by omega)
  rw [parseElems, parseValue_prettyWith hv (n + 1) (delimited_prettyElems n l rest)]
  by_cases hdv : v.depth ≤ limit
  · cases l with
    | nil =>
      simp [hdv, prettyElems, skipSpace_newline, skipSpace_cons (c := ']') (by decide), depthList,
        rereadList]
    | cons w l =>
      have hw : ∀ x ∈ w.floats, F.ReadsAs x (r x) := fun x hx => hl x (List.mem_append_left _ hx)
      have hl : ∀ x ∈ floatsList l, F.ReadsAs x (r x) :=
        fun x hx => hl x (List.mem_append_right _ hx)
      have ih := parseElems_pretty hw hl n limit (Nat.lt_of_succ_lt_succ hfuel) hrest
      simp only [hdv, ↓reduceIte, Option.bind_eq_bind, Option.bind_some, prettyElems,
        skipSpace_cons (c := ',') (by decide), parseElems_newline, ih, depthList, rereadList,
        sup_le_iff, true_and]
      split_ifs <;> rfl
  · simp [hdv]
termination_by sizeOf v + sizeOf l + 1

theorem parseMembers_pretty {k : Text} {v : Value} {b : Option Text}
    {m : OrdMap.Entries Text Value b} (hv : ∀ x ∈ v.floats, F.ReadsAs x (r x))
    (hm : ∀ x ∈ floatsEntries m, F.ReadsAs x (r x)) (n limit : ℕ) {fuel : ℕ}
    (hfuel : m.toList.length < fuel) {rest : Text} (hrest : Delimited rest) :
    parseMembers (parseValue F limit) fuel
        (quote k (':' :: ' ' :: v.prettyWith F (n + 1) (prettyMembers F n rest m))) =
      if max v.depth (depthEntries m) ≤ limit then
        some ((k, v.reread id r) :: rereadEntries id r m, rest)
      else none := by
  obtain ⟨fuel, rfl⟩ : ∃ k, fuel = k + 1 := Nat.exists_eq_succ_of_ne_zero (by omega)
  rw [parseMembers, quote, skipSpace_cons (by decide)]
  simp only [parseString_escape, Option.bind_eq_bind, Option.bind_some,
    skipSpace_cons (c := ':') (by decide), parseValue_blank,
    parseValue_prettyWith hv (n + 1) (delimited_prettyMembers n m rest)]
  by_cases hdv : v.depth ≤ limit
  · cases m with
    | nil =>
      simp [hdv, prettyMembers, skipSpace_newline, skipSpace_cons (c := '}') (by decide),
        depthEntries, rereadEntries]
    | cons k' _ w m =>
      have hw : ∀ x ∈ w.floats, F.ReadsAs x (r x) := fun x hx => hm x (List.mem_append_left _ hx)
      have hm : ∀ x ∈ floatsEntries m, F.ReadsAs x (r x) := fun x hx =>
        hm x (List.mem_append_right _ hx)
      have ih := parseMembers_pretty (k := k') hw hm n limit (Nat.lt_of_succ_lt_succ hfuel) hrest
      simp only [hdv, ↓reduceIte, Option.bind_some, prettyMembers,
        skipSpace_cons (c := ',') (by decide), parseMembers_newline, ih, depthEntries,
        rereadEntries, sup_le_iff, true_and, id_eq]
      split_ifs <;> rfl
  · simp [hdv]
termination_by sizeOf v + sizeOf m + 1

end

end Value

/-- An indented rendering is read as the compact one, and no other value. -/
theorem parse_pretty {F : F64Codec} {r : F64 → F64} {v : Value}
    (hv : ∀ x ∈ v.floats, F.ReadsAs x (r x)) : parse F (v.pretty F) = parse F (v.print F) := by
  rw [parse_print_reread hv, parse, Value.pretty,
    Value.parseValue_prettyWith hv 0 delimited_nil]
  split_ifs <;> rfl

end Json
