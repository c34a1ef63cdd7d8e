import Swiyu.Lib.Json.Value

/-!
# Reading JSON

`serde_json::from_str::<Value>`: a recursive descent over the text that gives up when arrays and
objects are nested deeper than its recursion limit. What `Value.printWith` renders is read back as
the value with the same function applied to its texts (`parse_printWith`), provided its doubles read
back, and up to its doubles otherwise (`parse_print_reread`).

## Main definitions

- `Json.parse`: the parser.
- `Json.F64Codec.ReadsBack`: a double that survives printing and parsing.
- `Json.F64Codec.Lawful`: every double does.
- `Json.Value.reread`: the value that is read where doubles do not survive.

## Main results

- `Json.parseValue_printWith`: what the parser makes of a rendered value followed by other text.
- `Json.parse_print`: a value within the recursion limit whose doubles read back is read back.
-/

namespace Json

/-- JSON white space. -/
def isSpace (c : Char) : Bool := c = ' ' ∨ c = '\n' ∨ c = '\t' ∨ c = '\r'

/-- Skips white space. -/
def skipSpace (t : Text) : Text := t.dropWhile isSpace

/-! ## Strings -/

/-- The value of a hexadecimal digit. -/
def hexValue (c : Char) : Option ℕ :=
  if '0' ≤ c ∧ c ≤ '9' then some (c.toNat - '0'.toNat)
  else if 'a' ≤ c ∧ c ≤ 'f' then some (c.toNat - 'a'.toNat + 10)
  else if 'A' ≤ c ∧ c ≤ 'F' then some (c.toNat - 'A'.toNat + 10)
  else none

/-- The value of four hexadecimal digits. -/
def hex4 (a b c d : Char) : Option ℕ := do
  return (← hexValue a) * 4096 + (← hexValue b) * 256 + (← hexValue c) * 16 + (← hexValue d)

/-- The character a one-letter escape stands for. -/
def unescapeChar : Char → Option Char
  | '"' => some '"'
  | '\\' => some '\\'
  | '/' => some '/'
  | 'b' => some '\x08'
  | 'f' => some '\x0c'
  | 'n' => some '\n'
  | 'r' => some '\r'
  | 't' => some '\t'
  | _ => none

/-- The rest of a string literal after its opening quote, and the text after it. A `\u` escape of a
leading surrogate has to be followed by one of a trailing surrogate. -/
def parseString : Text → Option (Text × Text)
  | [] => none
  | '"' :: t => some ([], t)
  | '\\' :: 'u' :: a :: b :: c :: d :: t =>
    match hex4 a b c d with
    | none => none
    | some n =>
      if 0xd800 ≤ n ∧ n < 0xdc00 then
        match t with
        | '\\' :: 'u' :: a' :: b' :: c' :: d' :: t' =>
          match hex4 a' b' c' d' with
          | none => none
          | some m =>
            if 0xdc00 ≤ m ∧ m < 0xe000 then
              (parseString t').map fun p =>
                (Char.ofNat ((n - 0xd800) * 0x400 + (m - 0xdc00) + 0x10000) :: p.1, p.2)
            else none
        | _ => none
      else if 0xdc00 ≤ n ∧ n < 0xe000 then none
      else (parseString t).map fun p => (Char.ofNat n :: p.1, p.2)
  | '\\' :: c :: t =>
    match unescapeChar c with
    | none => none
    | some e => (parseString t).map fun p => (e :: p.1, p.2)
  | c :: t =>
    if c.toNat < 0x20 ∨ c = '\\' then none else (parseString t).map fun p => (c :: p.1, p.2)

/-! ## Numbers -/

/-- A fraction: a point and digits, or nothing; the text it takes up and the text after it. -/
def parseFraction : Text → Option (Text × Text)
  | '.' :: t =>
    let (ds, t) := t.span Char.isDigit
    if ds = [] then none else some ('.' :: ds, t)
  | t => some ([], t)

/-- The digits of an exponent after `mark`. -/
def parseExponentDigits (mark t : Text) : Option (Text × Text) :=
  let (ds, t) := t.span Char.isDigit
  if ds = [] then none else some (mark ++ ds, t)

/-- An exponent, or nothing. -/
def parseExponent : Text → Option (Text × Text)
  | 'e' :: '+' :: t => parseExponentDigits ['e', '+'] t
  | 'e' :: '-' :: t => parseExponentDigits ['e', '-'] t
  | 'e' :: t => parseExponentDigits ['e'] t
  | 'E' :: '+' :: t => parseExponentDigits ['E', '+'] t
  | 'E' :: '-' :: t => parseExponentDigits ['E', '-'] t
  | 'E' :: t => parseExponentDigits ['E'] t
  | t => some ([], t)

/-- The number of a literal of the digits `ds`: integers that fit are `u64` or negative `i64`, every
other number is a double, negative zero included. -/
def numberOfDigits (F : F64Codec) (negative : Bool) (ds fraction exponent : Text) :
    Option Number :=
  let n := Nat.ofDigitChars 10 ds 0
  let double := (F.parse ((if negative then ['-'] else []) ++ ds ++ fraction ++ exponent)).map
    Number.float
  if fraction = [] ∧ exponent = [] then
    if negative then
      if h : 0 < n ∧ n ≤ 2 ^ 63 then some (.negInt ⟨n - 1, by omega⟩) else double
    else if n < 2 ^ 64 then some (.posInt (UInt64.ofNat n)) else double
  else double

/-- A number without its sign; a leading zero stands alone. -/
def parseUnsigned (F : F64Codec) (negative : Bool) (t : Text) : Option (Number × Text) := do
  let (ds, t) := t.span Char.isDigit
  guard (ds ≠ [] ∧ (ds.head? = some '0' → ds = ['0']))
  let (fraction, t) ← parseFraction t
  let (exponent, t) ← parseExponent t
  return (← numberOfDigits F negative ds fraction exponent, t)

/-- A number, and the text after it. -/
def parseNumber (F : F64Codec) : Text → Option (Number × Text)
  | '-' :: t => parseUnsigned F true t
  | t => parseUnsigned F false t

/-! ## Values -/

/-- The elements of an array up to its bracket; `p` reads one, `fuel` bounds their number. -/
def parseElems (p : Text → Option (Value × Text)) : ℕ → Text → Option (List Value × Text)
  | 0, _ => none
  | fuel + 1, t => do
    let (v, t) ← p t
    match skipSpace t with
    | ']' :: t => return ([v], t)
    | ',' :: t =>
      let (l, t) ← parseElems p fuel t
      return (v :: l, t)
    | _ => none

/-- The members of an object up to its brace; `p` reads a value, `fuel` bounds their number. -/
def parseMembers (p : Text → Option (Value × Text)) : ℕ → Text → Option (List (Text × Value) × Text)
  | 0, _ => none
  | fuel + 1, t =>
    match skipSpace t with
    | '"' :: t => do
      let (k, t) ← parseString t
      match skipSpace t with
      | ':' :: t =>
        let (v, t) ← p t
        match skipSpace t with
        | '}' :: t => return ([(k, v)], t)
        | ',' :: t =>
          let (l, t) ← parseMembers p fuel t
          return ((k, v) :: l, t)
        | _ => none
      | _ => none
    | _ => none

/-- A value, and the text after it; `inner` reads the values inside it and is absent at the
recursion limit. -/
def parseValueWith (F : F64Codec) (inner : Option (Text → Option (Value × Text))) (t : Text) :
    Option (Value × Text) :=
  match skipSpace t with
  | 'n' :: 'u' :: 'l' :: 'l' :: t => some (.null, t)
  | 't' :: 'r' :: 'u' :: 'e' :: t => some (.bool true, t)
  | 'f' :: 'a' :: 'l' :: 's' :: 'e' :: t => some (.bool false, t)
  | '"' :: t => (parseString t).map fun p => (.string p.1, p.2)
  | '[' :: t => do
    let p ← inner
    match skipSpace t with
    | ']' :: t => return (.array [], t)
    | t =>
      let (l, t) ← parseElems p t.length t
      return (.array l, t)
  | '{' :: t => do
    let p ← inner
    match skipSpace t with
    | '}' :: t => return (.object .nil, t)
    | t =>
      let (l, t) ← parseMembers p t.length t
      return (.object (OrdMap.ofList l), t)
  | t => (parseNumber F t).map fun p => (.number p.1, p.2)

/-- A value whose arrays and objects are nested at most as deep as the number given. -/
def parseValue (F : F64Codec) : ℕ → Text → Option (Value × Text)
  | 0 => parseValueWith F none
  | limit + 1 => parseValueWith F (some (parseValue F limit))

/-- How deep `serde_json` lets arrays and objects be nested. -/
def depthLimit : ℕ := 127

/-- `serde_json::from_str::<Value>`. -/
def parse (F : F64Codec) (t : Text) : Option Value := do
  let (v, t) ← parseValue F depthLimit t
  if skipSpace t = [] then some v else none

/-! ## Reading what was printed -/

theorem skipSpace_cons {c : Char} {t : Text} (h : isSpace c = false) :
    skipSpace (c :: t) = c :: t := by
  simp [skipSpace, h]

theorem hex4_control {n : ℕ} (h : n < 0x20) :
    hex4 '0' '0' (hexDigit (n / 16)) (hexDigit (n % 16)) = some n := by
  revert n
  decide

theorem parseString_escapeChar_append (c : Char) {t : Text} :
    parseString (escapeChar c ++ t) = (parseString t).map fun p => (c :: p.1, p.2) := by
  by_cases hquote : c = '"'
  · simp [escapeChar, hquote, parseString, unescapeChar]
  by_cases hback : c = '\\'
  · simp [escapeChar, hback, parseString, unescapeChar]
  by_cases hb : c = '\x08'
  · simp [escapeChar, hb, parseString, unescapeChar]
  by_cases ht : c = '\t'
  · simp [escapeChar, ht, parseString, unescapeChar]
  by_cases hn : c = '\n'
  · simp [escapeChar, hn, parseString, unescapeChar]
  by_cases hf : c = '\x0c'
  · simp [escapeChar, hf, parseString, unescapeChar]
  by_cases hr : c = '\r'
  · simp [escapeChar, hr, parseString, unescapeChar]
  by_cases hctl : c.toNat < 0x20
  · have hlead : ¬ (0xd800 ≤ c.toNat) := by omega
    have htrail : ¬ (0xdc00 ≤ c.toNat) := by omega
    simp [escapeChar, hquote, hback, hb, ht, hn, hf, hr, hctl, parseString, hex4_control hctl,
      hlead, htrail, Char.ofNat_toNat]
  · simp [escapeChar, hquote, hback, hb, ht, hn, hf, hr, hctl, parseString]

theorem parseString_escape (s : Text) {t : Text} :
    parseString (escape s ++ '"' :: t) = some (s, t) := by
  induction s with
  | nil => rfl
  | cons c s ih =>
    rw [escape, List.flatMap_cons, List.append_assoc, parseString_escapeChar_append, ← escape, ih]
    rfl

/-- No number goes on with this text. -/
def Delimited (t : Text) : Prop :=
  ∀ c ∈ t.head?, c.isDigit = false ∧ c ≠ '.' ∧ c ≠ 'e' ∧ c ≠ 'E'

theorem delimited_nil : Delimited [] := by simp [Delimited]

theorem delimited_cons {c : Char} {t : Text} (h : c.isDigit = false ∧ c ≠ '.' ∧ c ≠ 'e' ∧ c ≠ 'E') :
    Delimited (c :: t) := by simpa [Delimited] using h

/-- The double is read back from its rendering. -/
def F64Codec.ReadsBack (F : F64Codec) (f : F64) : Prop :=
  ∀ t, Delimited t → parseNumber F (F.print f ++ t) = some (.float f, t)

/-- The rendering of the double `f` is a number literal, and is read as the double `g`. -/
def F64Codec.ReadsAs (F : F64Codec) (f g : F64) : Prop :=
  ∀ t, Delimited t → parseNumber F (F.print f ++ t) = some (.float g, t)

/-- Every double is read back from its rendering: the shortest text that denotes a double is
written, and a text is read as the double nearest to what it denotes. -/
def F64Codec.Lawful (F : F64Codec) : Prop := ∀ x, F.ReadsBack x

theorem span_decimal {n : ℕ} {t : Text} (h : Delimited t) :
    (Text.decimal n ++ t).span Char.isDigit = (Text.decimal n, t) := by
  have hdigits : ∀ c ∈ Text.decimal n, c.isDigit = true := fun c => Text.isDigit_of_mem_decimal
  rw [List.span_eq_takeWhile_dropWhile, List.takeWhile_append_of_pos hdigits,
    List.dropWhile_append_of_pos hdigits]
  cases t with
  | nil => simp
  | cons c t =>
    have hc : c.isDigit = false := (h c rfl).1
    simp [hc]

theorem parseFraction_of_delimited {t : Text} (h : Delimited t) :
    parseFraction t = some ([], t) := by
  unfold parseFraction
  split
  · exact absurd rfl (h '.' rfl).2.1
  · rfl

theorem parseExponent_of_delimited {t : Text} (h : Delimited t) :
    parseExponent t = some ([], t) := by
  unfold parseExponent
  split
  iterate 3 exact absurd rfl (h 'e' rfl).2.2.1
  iterate 3 exact absurd rfl (h 'E' rfl).2.2.2
  rfl

theorem parseUnsigned_decimal (F : F64Codec) {negative : Bool} {n : ℕ} {t : Text}
    (h : Delimited t) : parseUnsigned F negative (Text.decimal n ++ t) =
      (numberOfDigits F negative (Text.decimal n) [] []).map fun m => (m, t) := by
  have hzero : (Text.decimal n).head? = some '0' → Text.decimal n = ['0'] := fun hd => by
    rw [Text.eq_zero_of_head_decimal hd]
    rfl
  rw [parseUnsigned, span_decimal h]
  simp only [Text.decimal_ne_nil, ne_eq, not_false_eq_true, true_and]
  rw [guard, if_pos hzero]
  simp [parseFraction_of_delimited h, parseExponent_of_delimited h, Option.map_eq_bind]

/-- The number that is read where the doubles are read as `r` says. -/
def Number.reread (r : F64 → F64) : Number → Number
  | float f => float (r f)
  | n => n

theorem parseNumber_print (F : F64Codec) {r : F64 → F64} {n : Number} {t : Text} (ht : Delimited t)
    (hf : ∀ f, n = .float f → F.ReadsAs f (r f)) :
    parseNumber F (n.print F ++ t) = some (n.reread r, t) := by
  cases n with
  | posInt n =>
    have hn : n.toNat < 2 ^ 64 := n.toNat_lt
    have hsign : ∀ r, Text.decimal n.toNat ++ t ≠ '-' :: r := fun r hr => by
      obtain ⟨c, w, hw⟩ := List.exists_cons_of_ne_nil (Text.decimal_ne_nil n.toNat)
      have hc : c.isDigit = true := Text.isDigit_of_mem_decimal (n := n.toNat) (by simp [hw])
      rw [hw, List.cons_append, List.cons.injEq] at hr
      simp [hr.1] at hc
    have hnum : parseNumber F (Text.decimal n.toNat ++ t) =
        parseUnsigned F false (Text.decimal n.toNat ++ t) := by
      unfold parseNumber
      split
      · exact absurd ‹_› (hsign _)
      · rfl
    rw [Number.print, hnum, parseUnsigned_decimal F ht]
    simpa [numberOfDigits, Number.reread] using hn
  | negInt n =>
    have hn : (n : ℕ) ≤ 2 ^ 63 - 1 := Nat.le_sub_one_of_lt n.isLt
    rw [Number.print, List.cons_append, parseNumber, parseUnsigned_decimal F ht]
    simpa [numberOfDigits, Number.reread] using hn
  | float f => exact hf f rfl t ht

/-- A number starts with a sign or a digit. -/
theorem exists_head_of_parseNumber {F : F64Codec} {t : Text} {p : Number × Text}
    (h : parseNumber F t = some p) : ∃ c r, t = c :: r ∧ (c = '-' ∨ c.isDigit = true) := by
  unfold parseNumber at h
  split at h
  · exact ⟨_, _, rfl, .inl rfl⟩
  · cases t with
    | nil => simp [parseUnsigned] at h
    | cons c r =>
      refine ⟨c, r, rfl, .inr ?_⟩
      by_contra hc
      simp [parseUnsigned, List.span_eq_takeWhile_dropWhile, hc] at h

/-- A text that starts like a number is read as a number. -/
theorem parseValueWith_number {F : F64Codec} {inner : Option (Text → Option (Value × Text))}
    {c : Char} {t : Text} (hc : c = '-' ∨ c.isDigit = true) :
    parseValueWith F inner (c :: t) =
      (parseNumber F (c :: t)).map fun p => (.number p.1, p.2) := by
  have hspace : isSpace c = false := by
    by_contra hs
    simp only [isSpace, Bool.decide_or, Bool.or_eq_true, decide_eq_true_eq, Bool.not_eq_false]
      at hs
    rcases hs with rfl | rfl | rfl | rfl <;> simp at hc
  rw [parseValueWith, skipSpace_cons hspace]
  split <;> first | rfl | (rename_i h; cases h; simp at hc)

namespace Value

/- What is read where the texts are rendered through `f` and the doubles are read as `r` says. -/
section Reread

variable (f : Text → Text) (r : F64 → F64)

mutual

/-- `f` applied to every string and every key, `r` to every double. -/
def reread : Value → Value
  | number n => number (n.reread r)
  | string s => string (f s)
  | array l => array (rereadList l)
  | object m => object (OrdMap.ofList (rereadEntries m))
  | v => v

def rereadList : List Value → List Value
  | [] => []
  | v :: l => reread v :: rereadList l

def rereadEntries {b : Option Text} : OrdMap.Entries Text Value b → List (Text × Value)
  | .nil => []
  | .cons k _ v m => (f k, reread v) :: rereadEntries m

end

mutual

/-- Where the doubles read back only the texts change. -/
theorem reread_id (v : Value) : v.reread f id = v.mapText f := by
  match v with
  | null => rfl
  | bool b => rfl
  | number n => cases n <;> rfl
  | string s => rfl
  | array l => rw [reread, mapText, rereadList_id l]
  | object m => rw [reread, mapText, rereadEntries_id m]

theorem rereadList_id (l : List Value) : rereadList f id l = mapTextList f l := by
  match l with
  | [] => rfl
  | v :: l => rw [rereadList, mapTextList, reread_id v, rereadList_id l]

theorem rereadEntries_id {b : Option Text} (m : OrdMap.Entries Text Value b) :
    rereadEntries f id m = mapTextEntries f m := by
  match m with
  | .nil => rfl
  | .cons k _ v m => rw [rereadEntries, mapTextEntries, reread_id v, rereadEntries_id m]

end

end Reread

variable {F : F64Codec} {f : Text → Text} {r : F64 → F64}

theorem readsAs_of_number {n : Number} (hv : ∀ x ∈ (number n).floats, F.ReadsAs x (r x)) (x : F64)
    (hx : n = .float x) : F.ReadsAs x (r x) := by
  subst hx
  exact hv x List.mem_cons_self

/-- A rendered value starts with neither white space nor a closing bracket or brace. -/
theorem exists_head_printWith {v : Value} (hv : ∀ x ∈ v.floats, F.ReadsAs x (r x)) (rest : Text) :
    ∃ c t, v.printWith F f rest = c :: t ∧ isSpace c = false ∧ c ≠ ']' ∧ c ≠ '}' := by
  cases v with
  | null => exact ⟨_, _, rfl, by decide⟩
  | bool b => cases b <;> exact ⟨_, _, rfl, by decide⟩
  | number n =>
    have hread := parseNumber_print F delimited_nil (readsAs_of_number hv)
    rw [List.append_nil] at hread
    obtain ⟨c, t, hp, hc⟩ := exists_head_of_parseNumber hread
    refine ⟨c, t ++ rest, by rw [printWith, hp, List.cons_append], ?_⟩
    have hspecial : ∀ d : Char, d.isDigit = false → d ≠ '-' → c ≠ d := by
      rintro d hd hne rfl
      simp [hd, hne] at hc
    refine ⟨?_, hspecial _ rfl (by decide), hspecial _ rfl (by decide)⟩
    simp [isSpace, hspecial ' ' rfl (by decide), hspecial '\n' rfl (by decide),
      hspecial '\t' rfl (by decide), hspecial '\r' rfl (by decide)]
  | string s => exact ⟨_, _, rfl, by decide⟩
  | array l => cases l <;> exact ⟨_, _, rfl, by decide⟩
  | object m => cases m <;> exact ⟨_, _, rfl, by decide⟩

theorem delimited_printElems (l : List Value) (rest : Text) :
    Delimited (printElems F f rest l) := by
  cases l <;> exact delimited_cons (by decide)

theorem delimited_printMembers {b : Option Text} (m : OrdMap.Entries Text Value b) (rest : Text) :
    Delimited (printMembers F f rest m) := by
  cases m <;> exact delimited_cons (by decide)

mutual

theorem length_lt_printWith {v : Value} (hv : ∀ x ∈ v.floats, F.ReadsAs x (r x)) (rest : Text) :
    rest.length < (v.printWith F f rest).length := by
  -- Every value is printed with at least one character before what follows it.
  match v with
  | null =>
    simp only [printWith, List.length_cons]
    omega
  | bool true =>
    simp only [printWith, List.length_cons]
    omega
  | bool false =>
    simp only [printWith, List.length_cons]
    omega
  | number n =>
    -- A number has at least one digit.
    obtain ⟨c, t, hp, -⟩ := exists_head_printWith (f := f) hv []
    rw [printWith, List.append_nil] at hp
    simp only [printWith, hp, List.length_append, List.length_cons]
    omega
  | string s =>
    simp only [printWith, quote, List.length_cons, List.length_append]
    omega
  | array [] =>
    simp only [printWith, List.length_cons]
    omega
  | array (w :: l) =>
    have hw : ∀ x ∈ w.floats, F.ReadsAs x (r x) := fun x hx => hv x (List.mem_append_left _ hx)
    have hl : ∀ x ∈ floatsList l, F.ReadsAs x (r x) := fun x hx => hv x (List.mem_append_right _ hx)
    have h₁ := length_lt_printWith hw (printElems F f rest l)
    have h₂ := length_lt_printElems hl rest
    simp only [printWith, List.length_cons]
    omega
  | object .nil =>
    simp only [printWith, List.length_cons]
    omega
  | object (.cons k _ w m) =>
    have hw : ∀ x ∈ w.floats, F.ReadsAs x (r x) := fun x hx => hv x (List.mem_append_left _ hx)
    have hm : ∀ x ∈ floatsEntries m, F.ReadsAs x (r x) := fun x hx =>
      hv x (List.mem_append_right _ hx)
    have h₁ := length_lt_printWith hw (printMembers F f rest m)
    have h₂ := length_lt_printMembers hm rest
    simp only [printWith, quote, List.length_cons, List.length_append]
    omega

theorem length_lt_printElems {l : List Value} (hl : ∀ x ∈ floatsList l, F.ReadsAs x (r x))
    (rest : Text) : rest.length + l.length < (printElems F f rest l).length := by
  match l with
  | [] => simp [printElems]
  | v :: l =>
    have hv : ∀ x ∈ v.floats, F.ReadsAs x (r x) := fun x hx => hl x (List.mem_append_left _ hx)
    have hl : ∀ x ∈ floatsList l, F.ReadsAs x (r x) := fun x hx => hl x (List.mem_append_right _ hx)
    have h₁ := length_lt_printWith hv (printElems F f rest l)
    have h₂ := length_lt_printElems hl rest
    simp only [printElems, List.length_cons]
    omega

theorem length_lt_printMembers {b : Option Text} {m : OrdMap.Entries Text Value b}
    (hm : ∀ x ∈ floatsEntries m, F.ReadsAs x (r x)) (rest : Text) :
    rest.length + m.toList.length < (printMembers F f rest m).length := by
  match m with
  | .nil => simp [printMembers, OrdMap.Entries.toList]
  | .cons k _ v m =>
    have hv : ∀ x ∈ v.floats, F.ReadsAs x (r x) := fun x hx => hm x (List.mem_append_left _ hx)
    have hm : ∀ x ∈ floatsEntries m, F.ReadsAs x (r x) := fun x hx =>
      hm x (List.mem_append_right _ hx)
    have h₁ := length_lt_printWith hv (printMembers F f rest m)
    have h₂ := length_lt_printMembers hm rest
    simp only [printMembers, OrdMap.Entries.toList, quote, List.length_cons, List.length_append]
    omega

end

theorem parseValueWith_array {p : Text → Option (Value × Text)} {c : Char} {t : Text}
    (hspace : isSpace c = false) (hc : c ≠ ']') :
    parseValueWith F (some p) ('[' :: c :: t) =
      (parseElems p (c :: t).length (c :: t)).map fun q => (array q.1, q.2) := by
  rw [parseValueWith, skipSpace_cons (by decide)]
  simp only [Option.bind_eq_bind, Option.bind_some, skipSpace_cons hspace]
  split
  · rename_i h
    exact absurd (List.cons.inj h).1 hc
  · rw [Option.map_eq_bind]
    rfl

theorem parseValueWith_object {p : Text → Option (Value × Text)} {c : Char} {t : Text}
    (hspace : isSpace c = false) (hc : c ≠ '}') :
    parseValueWith F (some p) ('{' :: c :: t) =
      (parseMembers p (c :: t).length (c :: t)).map fun q =>
        (object (OrdMap.ofList q.1), q.2) := by
  rw [parseValueWith, skipSpace_cons (by decide)]
  simp only [Option.bind_eq_bind, Option.bind_some, skipSpace_cons hspace]
  split
  · rename_i h
    exact absurd (List.cons.inj h).1 hc
  · rw [Option.map_eq_bind]
    rfl

theorem parseValue_eq_parseValueWith (F : F64Codec) (limit : ℕ) :
    ∃ inner, parseValue F limit = parseValueWith F inner := by
  cases limit <;> exact ⟨_, rfl⟩

/- What was rendered is read back with `f` applied to its texts, unless it is nested too deep. The
induction is on the value; a list of elements or members is read by as many rounds of the loop. -/
mutual

theorem parseValue_printWith {v : Value} (hv : ∀ x ∈ v.floats, F.ReadsAs x (r x)) {limit : ℕ}
    {rest : Text} (hrest : Delimited rest) : parseValue F limit (v.printWith F f rest) =
      if v.depth ≤ limit then some (v.reread f r, rest) else none := by
  obtain ⟨inner, hinner⟩ := parseValue_eq_parseValueWith F limit
  -- One case for each constructor; a value in brackets is read only when there is a level left.
  match v with
  | null =>
    rw [hinner, parseValueWith, printWith, skipSpace_cons (by decide)]
    simp [depth, reread]
  | bool true =>
    rw [hinner, parseValueWith, printWith, skipSpace_cons (by decide)]
    simp [depth, reread]
  | bool false =>
    rw [hinner, parseValueWith, printWith, skipSpace_cons (by decide)]
    simp [depth, reread]
  | number n =>
    have hread := parseNumber_print F hrest (readsAs_of_number hv)
    obtain ⟨c, t, hp, hc⟩ := exists_head_of_parseNumber hread
    rw [hinner, printWith, hp, parseValueWith_number hc, ← hp, hread]
    simp [depth, reread]
  | string s =>
    rw [hinner, parseValueWith, printWith, quote, skipSpace_cons (by decide)]
    simp [parseString_escape, depth, reread]
  | array [] =>
    cases limit with
    | zero =>
      rw [parseValue, parseValueWith, printWith, skipSpace_cons (by decide)]
      simp [depth]
    | succ l =>
      rw [parseValue, parseValueWith, printWith, skipSpace_cons (by decide)]
      simp [skipSpace_cons (c := ']') (by decide), depth, depthList, reread, rereadList]
  | array (w :: l) =>
    cases limit with
    | zero =>
      rw [parseValue, parseValueWith, printWith, skipSpace_cons (by decide)]
      simp [depth]
    | succ limit =>
      -- The elements are parsed one level deeper, with fuel for as many as there are.
      have hw : ∀ x ∈ w.floats, F.ReadsAs x (r x) := fun x hx => hv x (List.mem_append_left _ hx)
      have hl : ∀ x ∈ floatsList l, F.ReadsAs x (r x) :=
        fun x hx => hv x (List.mem_append_right _ hx)
      have hfuel : l.length < (w.printWith F f (printElems F f rest l)).length := by
        have h₁ := length_lt_printWith (f := f) hw (printElems F f rest l)
        have h₂ := length_lt_printElems (f := f) hl rest
        omega
      have ih := parseElems_print hw hl limit hfuel hrest
      obtain ⟨c, t, hp, hspace, hbracket, -⟩ :=
        exists_head_printWith (f := f) hw (printElems F f rest l)
      rw [parseValue, printWith, hp, parseValueWith_array hspace hbracket, ← hp, ih]
      simp only [depth, depthList, reread, rereadList, Nat.add_le_add_iff_right]
      split_ifs <;> rfl
  | object .nil =>
    cases limit with
    | zero =>
      rw [parseValue, parseValueWith, printWith, skipSpace_cons (by decide)]
      simp [depth]
    | succ l =>
      rw [parseValue, parseValueWith, printWith, skipSpace_cons (by decide)]
      simp [skipSpace_cons (c := '}') (by decide), depth, depthEntries, reread, rereadEntries,
        OrdMap.ofList, OrdMap.empty]
  | object (.cons k _ w m) =>
    cases limit with
    | zero =>
      rw [parseValue, parseValueWith, printWith, skipSpace_cons (by decide)]
      simp [depth]
    | succ limit =>
      -- The members are parsed one level deeper, with fuel for as many as there are.
      have hw : ∀ x ∈ w.floats, F.ReadsAs x (r x) := fun x hx => hv x (List.mem_append_left _ hx)
      have hm : ∀ x ∈ floatsEntries m, F.ReadsAs x (r x) := fun x hx =>
        hv x (List.mem_append_right _ hx)
      have hfuel : m.toList.length <
          (quote (f k) (':' :: w.printWith F f (printMembers F f rest m))).length := by
        have h₁ := length_lt_printWith (f := f) hw (printMembers F f rest m)
        have h₂ := length_lt_printMembers (f := f) hm rest
        simp only [quote, List.length_cons, List.length_append]
        omega
      have ih := parseMembers_print (k := k) hw hm limit hfuel hrest
      rw [parseValue, printWith, quote, parseValueWith_object (by decide) (by decide), ← quote, ih]
      simp only [depth, depthEntries, reread, rereadEntries, Nat.add_le_add_iff_right]
      split_ifs <;> rfl
termination_by sizeOf v

theorem parseElems_print {v : Value} {l : List Value} (hv : ∀ x ∈ v.floats, F.ReadsAs x (r x))
    (hl : ∀ x ∈ floatsList l, F.ReadsAs x (r x)) (limit : ℕ) {fuel : ℕ} (hfuel : l.length < fuel)
    {rest : Text} (hrest : Delimited rest) :
    parseElems (parseValue F limit) fuel (v.printWith F f (printElems F f rest l)) =
      if max v.depth (depthList l) ≤ limit then some (v.reread f r :: rereadList f r l, rest)
      else none := by
  obtain ⟨fuel, rfl⟩ : ∃ n, fuel = n + 1 := Nat.exists_eq_succ_of_ne_zero (by omega)
  rw [parseElems, parseValue_printWith hv (delimited_printElems l rest)]
  by_cases hdv : v.depth ≤ limit
  · cases l with
    | nil => simp [hdv, printElems, skipSpace_cons (c := ']') (by decide), depthList, rereadList]
    | cons w l =>
      have hw : ∀ x ∈ w.floats, F.ReadsAs x (r x) := fun x hx => hl x (List.mem_append_left _ hx)
      have hl : ∀ x ∈ floatsList l, F.ReadsAs x (r x) :=
        fun x hx => hl x (List.mem_append_right _ hx)
      have ih := parseElems_print hw hl limit (Nat.lt_of_succ_lt_succ hfuel) hrest
      simp only [hdv, ↓reduceIte, Option.bind_eq_bind, Option.bind_some, printElems,
        skipSpace_cons (c := ',') (by decide), ih, depthList, rereadList, sup_le_iff, true_and]
      split_ifs <;> rfl
  · simp [hdv]
termination_by sizeOf v + sizeOf l + 1

theorem parseMembers_print {k : Text} {v : Value} {b : Option Text}
    {m : OrdMap.Entries Text Value b} (hv : ∀ x ∈ v.floats, F.ReadsAs x (r x))
    (hm : ∀ x ∈ floatsEntries m, F.ReadsAs x (r x)) (limit : ℕ) {fuel : ℕ}
    (hfuel : m.toList.length < fuel)
    {rest : Text} (hrest : Delimited rest) :
    parseMembers (parseValue F limit) fuel
        (quote (f k) (':' :: v.printWith F f (printMembers F f rest m))) =
      if max v.depth (depthEntries m) ≤ limit then
        some ((f k, v.reread f r) :: rereadEntries f r m, rest)
      else none := by
  obtain ⟨fuel, rfl⟩ : ∃ n, fuel = n + 1 := Nat.exists_eq_succ_of_ne_zero (by omega)
  rw [parseMembers, quote, skipSpace_cons (by decide)]
  simp only [parseString_escape, Option.bind_eq_bind, Option.bind_some,
    skipSpace_cons (c := ':') (by decide), parseValue_printWith hv (delimited_printMembers m rest)]
  by_cases hdv : v.depth ≤ limit
  · cases m with
    | nil =>
      simp [hdv, printMembers, skipSpace_cons (c := '}') (by decide), depthEntries, rereadEntries]
    | cons k' _ w m =>
      have hw : ∀ x ∈ w.floats, F.ReadsAs x (r x) := fun x hx => hm x (List.mem_append_left _ hx)
      have hm : ∀ x ∈ floatsEntries m, F.ReadsAs x (r x) := fun x hx =>
        hm x (List.mem_append_right _ hx)
      have ih := parseMembers_print (k := k') hw hm limit
        (Nat.lt_of_succ_lt_succ hfuel) hrest
      simp only [hdv, ↓reduceIte, Option.bind_some, printMembers,
        skipSpace_cons (c := ',') (by decide), ih, depthEntries, rereadEntries, sup_le_iff,
        true_and]
      split_ifs <;> rfl
  · simp [hdv]
termination_by sizeOf v + sizeOf m + 1

end

end Value

/-- A rendered value is read as the value with `f` applied to its texts. -/
theorem parse_printWith {F : F64Codec} {f : Text → Text} {v : Value}
    (hv : ∀ x ∈ v.floats, F.ReadsBack x) : parse F (v.printWith F f []) =
      if v.depth ≤ depthLimit then some (v.mapText f) else none := by
  have hread : parseValue F depthLimit (v.printWith F f []) =
      if v.depth ≤ depthLimit then some (v.reread f id, []) else none :=
    Value.parseValue_printWith hv delimited_nil
  rw [parse, hread, Value.reread_id]
  split_ifs <;> rfl

/-- A rendered value is read up to its doubles, however these are read. -/
theorem parse_print_reread {F : F64Codec} {r : F64 → F64} {v : Value}
    (hv : ∀ x ∈ v.floats, F.ReadsAs x (r x)) : parse F (v.print F) =
      if v.depth ≤ depthLimit then some (v.reread id r) else none := by
  rw [parse, Value.print, Value.parseValue_printWith hv delimited_nil]
  split_ifs <;> rfl

/-- A rendered value is read back. -/
theorem parse_print {F : F64Codec} {v : Value} (hv : ∀ x ∈ v.floats, F.ReadsBack x)
    (hdepth : v.depth ≤ depthLimit) : parse F (v.print F) = some v := by
  rw [Value.print, parse_printWith hv, if_pos hdepth,
    Value.mapText_eq_self (f := id) fun _ _ => rfl]

end Json
