import Mathlib.Data.List.Lex
import Mathlib.Data.List.Infix
import Mathlib.Data.Nat.Digits.Defs
import Mathlib.Tactic.Common

/-!
# Text

Rust's `String` and `&str` as lists of Unicode scalar values, with the operations of the standard
library that string-handling code uses: `strip_prefix`, `split`, `split_once`, `splitn`, `lines`,
`trim`, `replace` and the decimal rendering of a number. `BTreeMap<String, _>` orders its keys by
their UTF-8 bytes, which is the lexicographic order of the scalar values used here.

The second half is about substituting one text for another. `OccursOnlyAt pat rep t` says that,
after `rep` has replaced `pat` in `t`, it begins nowhere but at the replaced places; then replacing
back gives `t` (`replace_replace`).
-/

/-- A Rust string: its Unicode scalar values. -/
abbrev Text := List Char

namespace Text

/-- A string literal as a text. -/
def lit (s : String) : Text := s.toList

instance : Coe String Text := ⟨lit⟩

@[simp]
theorem lit_inj {a b : String} : lit a = lit b ↔ a = b := String.toList_inj

/-- The characters of a literal, for when they matter. -/
theorem lit_ofList (cs : List Char) : lit (String.ofList cs) = cs := String.toList_ofList

/-- A property of the characters of a text is decided character by character. -/
theorem forall_mem_of_all {t : Text} {p : Char → Prop} [DecidablePred p]
    (h : t.all (fun c => decide (p c)) = true) : ∀ c ∈ t, p c := by
  simpa using h

/-- Whether a text is in a list, character by character. -/
instance decidableMem (t : Text) (l : List Text) : Decidable (t ∈ l) := inferInstance

/-- The number of bytes of a text in UTF-8. -/
def utf8Length (t : Text) : ℕ := (t.map Char.utf8Size).sum

/-- The UTF-8 bytes of a text. -/
def utf8 (t : Text) : List UInt8 := t.flatMap String.utf8EncodeChar

/-- The text of UTF-8 bytes. -/
def fromUtf8 (bytes : List UInt8) : Option Text :=
  (ByteArray.mk bytes.toArray).utf8Decode?.map Array.toList

/-- The bytes of a text are those of no other. -/
theorem fromUtf8_utf8 (t : Text) : fromUtf8 (utf8 t) = some t := by
  have hbytes : ByteArray.mk (utf8 t).toArray = List.utf8Encode t := by
    refine ByteArray.ext ?_
    rw [List.utf8Encode, List.data_toByteArray, utf8]
  rw [fromUtf8, hbytes, List.utf8Decode?_utf8Encode, Option.map_some]

/-! ## Prefixes, splitting and trimming -/

/-- `s.strip_prefix(p)`. -/
def stripPrefix : Text → Text → Option Text
  | [], s => some s
  | _ :: _, [] => none
  | c :: p, d :: s => if c = d then stripPrefix p s else none

theorem stripPrefix_eq_some_iff {p s r : Text} : stripPrefix p s = some r ↔ s = p ++ r := by
  induction p generalizing s with
  | nil => simp [stripPrefix]
  | cons c p ih =>
    cases s with
    | nil => simp [stripPrefix]
    | cons d s =>
      by_cases h : c = d
      · simp [stripPrefix, h, ih]
      · simp [stripPrefix, h, Ne.symm h]

@[simp]
theorem stripPrefix_append (p r : Text) : stripPrefix p (p ++ r) = some r :=
  stripPrefix_eq_some_iff.mpr rfl

/-- `s.strip_suffix(p)`. -/
def stripSuffix (p s : Text) : Option Text := (stripPrefix p.reverse s.reverse).map List.reverse

theorem stripSuffix_eq_some_iff {p s r : Text} : stripSuffix p s = some r ↔ s = r ++ p := by
  rw [stripSuffix, Option.map_eq_some_iff]
  constructor
  · rintro ⟨r', hr', hr⟩
    have hs := congrArg List.reverse (stripPrefix_eq_some_iff.mp hr')
    rwa [List.reverse_reverse, List.reverse_append, List.reverse_reverse, hr] at hs
  · intro hs
    refine ⟨r.reverse, stripPrefix_eq_some_iff.mpr ?_, List.reverse_reverse r⟩
    rw [hs, List.reverse_append]

/-- `s.split_once(c)`. -/
def splitOnce (c : Char) : Text → Option (Text × Text)
  | [] => none
  | d :: s => if d = c then some ([], s) else (splitOnce c s).map fun p => (d :: p.1, p.2)

theorem splitOnce_eq_some_iff {c : Char} {s a b : Text} :
    splitOnce c s = some (a, b) ↔ s = a ++ c :: b ∧ c ∉ a := by
  induction s generalizing a with
  | nil => simp [splitOnce]
  | cons d s ih =>
    -- The first character is the separator, or it belongs to the part before it.
    by_cases h : d = c
    · subst h
      cases a with
      | nil => simp [splitOnce]
      | cons e a =>
        simp only [splitOnce, ↓reduceIte, Option.some.injEq, Prod.mk.injEq, List.nil_eq,
          reduceCtorEq, false_and, List.cons_append, List.cons.injEq, List.mem_cons, not_or,
          false_iff, not_and, not_not]
        rintro ⟨rfl, -⟩ hne
        exact absurd rfl hne
    · cases a with
      | nil => simp [splitOnce, h]
      | cons e a =>
        simp only [splitOnce, h, ↓reduceIte, Option.map_eq_some_iff, Prod.mk.injEq,
          List.cons.injEq, List.cons_append, List.mem_cons, not_or]
        constructor
        · rintro ⟨⟨a', b'⟩, hs, ⟨rfl, rfl⟩, rfl⟩
          obtain ⟨rfl, hc⟩ := ih.mp hs
          exact ⟨⟨rfl, rfl⟩, Ne.symm h, hc⟩
        · rintro ⟨⟨rfl, rfl⟩, -, hc⟩
          exact ⟨(a, b), ih.mpr ⟨rfl, hc⟩, ⟨rfl, rfl⟩, rfl⟩

theorem splitOnce_eq_none_iff {c : Char} {s : Text} : splitOnce c s = none ↔ c ∉ s := by
  induction s with
  | nil => simp [splitOnce]
  | cons d s ih =>
    by_cases h : d = c
    · simp [splitOnce, h]
    · simp [splitOnce, h, ih, Ne.symm h]

/-- `s.splitn(n, c)`, as the list of parts it yields. -/
def splitN : ℕ → Char → Text → List Text
  | 0, _, _ => []
  | 1, _, s => [s]
  | n + 2, c, s =>
    match splitOnce c s with
    | none => [s]
    | some (a, r) => a :: splitN (n + 1) c r

/-- The parts of a text, joined again, are the text. -/
theorem intercalate_splitN {n : ℕ} {c : Char} {s : Text} :
    [c].intercalate (splitN (n + 1) c s) = s := by
  induction n generalizing s with
  | zero => simp [splitN]
  | succ n ih =>
    rw [splitN]
    cases h : splitOnce c s with
    | none => simp
    | some parts =>
      obtain ⟨rfl, -⟩ := splitOnce_eq_some_iff.mp h
      have hne : splitN (n + 1) c parts.2 ≠ [] := by
        cases n with
        | zero => simp [splitN]
        | succ n =>
          rw [splitN]
          split <;> simp
      rw [List.intercalate_cons_of_ne_nil hne, ih]
      simp

theorem length_splitN_le {n : ℕ} {c : Char} {s : Text} : (splitN n c s).length ≤ n := by
  fun_induction splitN n c s with
  | case1 => simp
  | case2 => simp
  | case3 => simp
  | case4 n s _ a r h ih => simpa using ih

/-- `s.split(c)`, as the list of parts it yields. -/
def split (c : Char) : Text → List Text
  | [] => [[]]
  | d :: s =>
    match split c s with
    | [] => [[d]]
    | w :: ws => if d = c then [] :: w :: ws else (d :: w) :: ws

theorem split_ne_nil {c : Char} {s : Text} : split c s ≠ [] := by
  cases s with
  | nil => simp [split]
  | cons d s =>
    rw [split]
    split
    · simp
    · split <;> simp

/-- A text without the separator is its only part. -/
theorem split_of_notMem {c : Char} {s : Text} (h : c ∉ s) : split c s = [s] := by
  induction s with
  | nil => rfl
  | cons d s ih =>
    rw [List.mem_cons, not_or] at h
    rw [split, ih h.2]
    exact if_neg (Ne.symm h.1)

/-- The first part ends at the first separator. -/
theorem split_append_cons {c : Char} {s t : Text} (h : c ∉ s) :
    split c (s ++ c :: t) = s :: split c t := by
  induction s with
  | nil =>
    obtain ⟨w, ws, hparts⟩ := List.exists_cons_of_ne_nil (split_ne_nil (c := c) (s := t))
    rw [List.nil_append, split, hparts]
    exact if_pos rfl
  | cons d s ih =>
    rw [List.mem_cons, not_or] at h
    rw [List.cons_append, split, ih h.2]
    exact if_neg (Ne.symm h.1)

/-- Rust's `char::is_whitespace`: the Unicode `White_Space` property. -/
def isWhitespace (c : Char) : Bool :=
  c.toNat ∈ [0x9, 0xa, 0xb, 0xc, 0xd, 0x20, 0x85, 0xa0, 0x1680, 0x2000, 0x2001, 0x2002, 0x2003,
    0x2004, 0x2005, 0x2006, 0x2007, 0x2008, 0x2009, 0x200a, 0x2028, 0x2029, 0x202f, 0x205f, 0x3000]

/-- `s.trim()`. -/
def trim (s : Text) : Text :=
  ((s.dropWhile isWhitespace).reverse.dropWhile isWhitespace).reverse

/-- `s.trim_end()`. -/
def trimEnd (s : Text) : Text := (s.reverse.dropWhile isWhitespace).reverse

/-- `s.trim_end_matches(c)`. -/
def trimEndMatches (c : Char) (s : Text) : Text := (s.reverse.dropWhile fun d => d = c).reverse

/-- A text whose first and last characters are not white space is its own trimming. -/
theorem trim_eq_self {a z : Char} {s : Text} (ha : isWhitespace a = false)
    (hz : isWhitespace z = false) : trim (a :: (s ++ [z])) = a :: (s ++ [z]) := by
  have hstart : (a :: (s ++ [z])).dropWhile isWhitespace = a :: (s ++ [z]) := by
    rw [List.dropWhile_cons_of_neg (by simp [ha])]
  have hrev : (a :: (s ++ [z])).reverse = z :: (a :: s).reverse := by simp
  rw [trim, hstart, hrev, List.dropWhile_cons_of_neg (by simp [hz])]
  simp

/-- A text without white space is its own trimming. -/
theorem trim_of_forall {s : Text} (h : ∀ c ∈ s, isWhitespace c = false) : trim s = s := by
  have hdrop : ∀ t : Text, (∀ c ∈ t, isWhitespace c = false) → t.dropWhile isWhitespace = t := by
    intro t ht
    cases t with
    | nil => rfl
    | cons c t => rw [List.dropWhile_cons_of_neg (by simp [ht c List.mem_cons_self])]
  have hreverse : ∀ c ∈ s.reverse, isWhitespace c = false :=
    fun c hc => h c (List.mem_reverse.mp hc)
  rw [trim, hdrop s h, hdrop s.reverse hreverse, List.reverse_reverse]

/-- Drops one trailing carriage return, given the characters in reverse. -/
def stripCr : List Char → Text
  | '\r' :: acc => acc.reverse
  | acc => acc.reverse

/-- The loop of `lines`: `acc` holds the current line in reverse. -/
def linesFrom : List Char → Text → List Text
  | [], [] => []
  | acc@(_ :: _), [] => [acc.reverse]
  | acc, c :: s => if c = '\n' then stripCr acc :: linesFrom [] s else linesFrom (c :: acc) s

/-- `s.lines()`: split at `\n` or `\r\n`; a last line without a newline keeps its `\r`. -/
def lines (s : Text) : List Text := linesFrom [] s

theorem linesFrom_append_newline {acc l rest : Text} (hl : '\n' ∉ l) :
    linesFrom acc (l ++ '\n' :: rest) = stripCr (l.reverse ++ acc) :: lines rest := by
  induction l generalizing acc with
  | nil => cases acc <;> simp [linesFrom, lines]
  | cons c l ih =>
    have hc : c ≠ '\n' := fun h => hl (by simp [h])
    have hl' : '\n' ∉ l := fun h => hl (by simp [h])
    cases acc <;> simp [linesFrom, hc, ih hl']

/-! ## Numbers -/

/-- `format!("{b:02x}")` of a byte. -/
def hexByte (b : ℕ) : Text := [Nat.digitChar (b / 16), Nat.digitChar (b % 16)]

/-- `format!("{n}")`. -/
def decimal (n : ℕ) : Text := Nat.toDigits 10 n

theorem isDigit_of_mem_decimal {n : ℕ} {c : Char} (h : c ∈ decimal n) : c.isDigit = true :=
  Nat.isDigit_of_mem_toDigits (by decide) (by decide) h

theorem dash_notMem_decimal (n : ℕ) : '-' ∉ decimal n := fun h => by
  simpa using isDigit_of_mem_decimal h

theorem decimal_ne_nil (n : ℕ) : decimal n ≠ [] := Nat.toDigits_ne_nil

@[simp]
theorem ofDigitChars_decimal (n : ℕ) : Nat.ofDigitChars 10 (decimal n) 0 = n :=
  Nat.ofDigitChars_ten_toDigits

theorem decimal_injective : Function.Injective decimal := fun m n h => by
  rw [← ofDigitChars_decimal m, h, ofDigitChars_decimal]

/-- Only zero is written with a leading zero. -/
theorem eq_zero_of_head_decimal {n : ℕ} (h : (decimal n).head? = some '0') : n = 0 := by
  induction n using Nat.strongRecOn with
  | _ n ih =>
    rcases Nat.lt_or_ge n 10 with hlt | hge
    · rw [decimal, Nat.toDigits_of_lt_base hlt] at h
      have hdigit : ∀ m < 10, some (Nat.digitChar m) = some '0' → m = 0 := by decide
      exact hdigit n hlt h
    · rw [decimal, Nat.toDigits_of_base_le (by decide) hge,
        List.head?_append_of_ne_nil _ Nat.toDigits_ne_nil] at h
      have := ih (n / 10) (by omega) h
      omega

/-! ## Substitution -/

/-- The loop of `replace` for a non-empty pattern: `k` characters of a match are still to be
skipped. -/
def replaceFrom (pat rep : Text) : ℕ → Text → Text
  | _, [] => []
  | k + 1, _ :: t => replaceFrom pat rep k t
  | 0, c :: t =>
    if pat <+: c :: t then rep ++ replaceFrom pat rep (pat.length - 1) t
    else c :: replaceFrom pat rep 0 t

/-- `s.replace(pat, rep)`: the matches of `pat` from left to right, none overlapping an earlier one;
the empty pattern matches before every character and at the end. -/
def replace (pat rep t : Text) : Text :=
  if pat = [] then rep ++ t.flatMap fun c => c :: rep else replaceFrom pat rep 0 t

variable {pat rep : Text}

theorem replaceFrom_append (pat rep w t : Text) :
    replaceFrom pat rep w.length (w ++ t) = replaceFrom pat rep 0 t := by
  induction w with
  | nil => rfl
  | cons c w ih => exact ih

theorem replaceFrom_of_prefix {t : Text} (hp : pat ≠ []) (h : pat <+: t) :
    replaceFrom pat rep 0 t = rep ++ replaceFrom pat rep 0 (t.drop pat.length) := by
  obtain ⟨r, rfl⟩ := h
  obtain ⟨c, w, rfl⟩ := List.exists_cons_of_ne_nil hp
  have hpre : c :: w <+: c :: (w ++ r) := ⟨r, rfl⟩
  rw [List.cons_append, replaceFrom, if_pos hpre]
  simp [replaceFrom_append (c :: w) rep w r]

/-- Characters that cannot begin a match are copied. -/
theorem replaceFrom_append_of_head_notMem {a : Char} {p w t : Text} (h : a ∉ w) :
    replaceFrom (a :: p) rep 0 (w ++ t) = w ++ replaceFrom (a :: p) rep 0 t := by
  induction w with
  | nil => rfl
  | cons c w ih =>
    have hc : ¬ a :: p <+: c :: (w ++ t) := fun hpre =>
      h (by simp [(List.cons_prefix_cons.mp hpre).1])
    rw [List.cons_append, replaceFrom, if_neg hc, ih fun hm => h (List.mem_cons_of_mem _ hm)]
    rfl

theorem replace_cons {a : Char} {p t : Text} :
    replace (a :: p) rep t = replaceFrom (a :: p) rep 0 t := by
  rw [replace, if_neg (List.cons_ne_nil _ _)]

/-- A prefix without `c` that starts before a `c` ends before it. -/
theorem prefix_append_cons_iff {c : Char} {p a b : Text} (hc : c ∉ p) :
    p <+: a ++ c :: b ↔ p <+: a := by
  refine ⟨fun h => ?_, fun h => h.trans (List.prefix_append _ _)⟩
  induction p generalizing a with
  | nil => exact List.nil_prefix
  | cons d p ih =>
    cases a with
    | nil => exact absurd (List.cons_prefix_cons.mp h).1 fun e => hc (by simp [e])
    | cons e a =>
      obtain ⟨rfl, hp⟩ := List.cons_prefix_cons.mp h
      exact List.cons_prefix_cons.mpr ⟨rfl, ih (fun hm => hc (List.mem_cons_of_mem _ hm)) hp⟩

/-- A character that is not in the pattern cuts the text into two that are replaced on their own. -/
theorem replaceFrom_append_cons {c : Char} {a b : Text} {k : ℕ} (hp : pat ≠ []) (hc : c ∉ pat)
    (hk : k ≤ a.length) :
    replaceFrom pat rep k (a ++ c :: b) =
      replaceFrom pat rep k a ++ c :: replaceFrom pat rep 0 b := by
  induction a generalizing k with
  | nil =>
    obtain rfl : k = 0 := by simpa using hk
    have hno : ¬ pat <+: c :: b := fun h => hp <| by
      simpa using (prefix_append_cons_iff (a := []) hc).mp h
    simp [replaceFrom, hno]
  | cons d a ih =>
    cases k with
    | succ k => exact ih (by simpa using hk)
    | zero =>
      -- An occurrence that begins before the character ends before it.
      have hiff : pat <+: d :: (a ++ c :: b) ↔ pat <+: d :: a :=
        prefix_append_cons_iff (a := d :: a) hc
      by_cases h : pat <+: d :: a
      · have hlen : pat.length - 1 ≤ a.length := by
          have := h.length_le
          simp only [List.length_cons] at this
          omega
        simp [replaceFrom, hiff, h, ih hlen]
      · simp [replaceFrom, hiff, h, ih (Nat.zero_le _)]

theorem replace_append_cons {c : Char} {a b : Text} (hp : pat ≠ []) (hc : c ∉ pat) :
    replace pat rep (a ++ c :: b) = replace pat rep a ++ c :: replace pat rep b := by
  simp only [replace, if_neg hp]
  exact replaceFrom_append_cons hp hc (Nat.zero_le _)

/-- A text that lacks a character of the pattern is left alone. -/
theorem replace_eq_self_of_notMem {c : Char} {t : Text} (hc : c ∈ pat) (h : c ∉ t) :
    replace pat rep t = t := by
  rw [replace, if_neg (List.ne_nil_of_mem hc)]
  induction t with
  | nil => rfl
  | cons d t ih =>
    have hno : ¬ pat <+: d :: t := fun hpre => h (hpre.subset hc)
    rw [replaceFrom, if_neg hno, ih fun hm => h (List.mem_cons_of_mem _ hm)]

/-- The loop of `OccursOnlyAt`: `k` characters of a replaced match are still to be skipped. -/
def OccursOnlyAtFrom (pat rep : Text) : ℕ → Text → Prop
  | _, [] => True
  | k + 1, _ :: t => OccursOnlyAtFrom pat rep k t
  | 0, c :: t =>
    if pat <+: c :: t then OccursOnlyAtFrom pat rep (pat.length - 1) t
    else ¬ rep <+: replaceFrom pat rep 0 (c :: t) ∧ OccursOnlyAtFrom pat rep 0 t

/-- After `rep` has replaced `pat` in `t`, it begins at no character that was kept. -/
def OccursOnlyAt (pat rep t : Text) : Prop := OccursOnlyAtFrom pat rep 0 t

instance decidableOccursOnlyAtFrom (pat rep : Text) :
    (k : ℕ) → (t : Text) → Decidable (OccursOnlyAtFrom pat rep k t)
  | _, [] => isTrue (by simp [OccursOnlyAtFrom])
  | k + 1, _ :: t => decidableOccursOnlyAtFrom pat rep k t
  | 0, c :: t =>
    have := decidableOccursOnlyAtFrom pat rep (pat.length - 1) t
    have := decidableOccursOnlyAtFrom pat rep 0 t
    inferInstanceAs (Decidable (if pat <+: c :: t then OccursOnlyAtFrom pat rep (pat.length - 1) t
      else ¬ rep <+: replaceFrom pat rep 0 (c :: t) ∧ OccursOnlyAtFrom pat rep 0 t))

instance (pat rep t : Text) : Decidable (OccursOnlyAt pat rep t) :=
  decidableOccursOnlyAtFrom pat rep 0 t

theorem replaceFrom_replaceFrom {t : Text} {k : ℕ} (hp : pat ≠ []) (hr : rep ≠ [])
    (h : OccursOnlyAtFrom pat rep k t) :
    replaceFrom rep pat 0 (replaceFrom pat rep k t) = t.drop k := by
  induction t generalizing k with
  | nil => simp [replaceFrom]
  | cons c t ih =>
    cases k with
    | succ k => exact ih h
    | zero =>
      -- What has been put in is taken out again; at no other place does the replacement occur.
      by_cases hpre : pat <+: c :: t
      · have hrest := ih (k := pat.length - 1) (by simpa [OccursOnlyAtFrom, hpre] using h)
        have hpos : 0 < pat.length := List.length_pos_iff.mpr hp
        rw [replaceFrom, if_pos hpre, replaceFrom_of_prefix hr (List.prefix_append _ _),
          List.drop_left, hrest, List.drop_zero]
        obtain ⟨r, hr⟩ := hpre
        rw [← List.drop_succ_cons (a := c), Nat.sub_add_cancel hpos, ← hr, List.drop_left]
      · obtain ⟨hno, hrest⟩ : ¬ rep <+: replaceFrom pat rep 0 (c :: t) ∧
            OccursOnlyAtFrom pat rep 0 t := by simpa [OccursOnlyAtFrom, hpre] using h
        rw [replaceFrom, if_neg hpre] at hno ⊢
        rw [replaceFrom, if_neg hno, ih hrest, List.drop_zero, List.drop_zero]

/-- Replacing back undoes a replacement whose text occurs only where it was put. -/
theorem replace_replace {t : Text} (hp : pat ≠ []) (hr : rep ≠ []) (h : OccursOnlyAt pat rep t) :
    replace rep pat (replace pat rep t) = t := by
  rw [replace, if_neg hr, replace, if_neg hp, replaceFrom_replaceFrom hp hr h, List.drop_zero]

/-- A prefix of a replaced text that does not reach into a replacement is a prefix of the text. -/
theorem prefix_of_prefix_replaceFrom {a : Char} {r p t : Text} (ha : a ∉ p)
    (h : p <+: replaceFrom pat (a :: r) 0 t) : p <+: t := by
  induction t generalizing p with
  | nil => simpa [replaceFrom] using h
  | cons c t ih =>
    by_cases hpre : pat <+: c :: t
    · rw [replaceFrom, if_pos hpre, List.cons_append] at h
      cases p with
      | nil => exact List.nil_prefix
      | cons d p => exact absurd (List.cons_prefix_cons.mp h).1 fun e => ha (by simp [e])
    · rw [replaceFrom, if_neg hpre] at h
      cases p with
      | nil => exact List.nil_prefix
      | cons d p =>
        obtain ⟨rfl, hp⟩ := List.cons_prefix_cons.mp h
        exact List.cons_prefix_cons.mpr ⟨rfl, ih (fun hm => ha (List.mem_cons_of_mem _ hm)) hp⟩

/-- A replacement whose first character is not in its rest, and which the text does not contain,
occurs only where it is put. -/
theorem occursOnlyAtFrom_of_absent {a : Char} {r t : Text} {k : ℕ} (ha : a ∉ r)
    (h : ¬ a :: r <:+: t) : OccursOnlyAtFrom pat (a :: r) k t := by
  induction t generalizing k with
  | nil => simp [OccursOnlyAtFrom]
  | cons c t ih =>
    have ht : ¬ a :: r <:+: t := fun hi => h (hi.trans (List.infix_cons_iff.mpr (.inr (by simp))))
    cases k with
    | succ k => exact ih ht
    | zero =>
      by_cases hpre : pat <+: c :: t
      · simpa [OccursOnlyAtFrom, hpre] using ih ht
      · rw [OccursOnlyAtFrom, if_neg hpre]
        refine ⟨fun hrep => ?_, ih ht⟩
        rw [replaceFrom, if_neg hpre] at hrep
        obtain ⟨rfl, hr⟩ := List.cons_prefix_cons.mp hrep
        have : a :: r <+: a :: t :=
          List.cons_prefix_cons.mpr ⟨rfl, prefix_of_prefix_replaceFrom ha hr⟩
        exact h this.isInfix

theorem occursOnlyAt_of_absent {a : Char} {r t : Text} (ha : a ∉ r) (h : ¬ a :: r <:+: t) :
    OccursOnlyAt pat (a :: r) t :=
  occursOnlyAtFrom_of_absent ha h

end Text
