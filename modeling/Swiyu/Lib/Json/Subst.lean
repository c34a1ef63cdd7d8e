import Mathlib.Data.List.TakeWhile
import Swiyu.Lib.Json.Parse

/-!
# Substitution in rendered JSON

Replacing a text in the rendering of a value, instead of in the strings of the value, is sound for
patterns that cannot be mistaken for JSON punctuation: the result is the rendering of the value with
the text replaced in each of its strings and keys (`Value.replace_print`).

## Main definitions

- `Json.Inert`: patterns that occur in a rendered value only inside a string or a key.

## Main results

- `Json.Value.replace_print`: replacing in the text is replacing in the strings.
- `Json.Value.mapText_mapText`: a function on texts undone on the texts of a value is undone on it.
-/

namespace Json

/-- The characters of escape sequences. -/
def escapeAlphabet : List Char :=
  ['\\', '"', 'b', 't', 'n', 'f', 'r', 'u', '0', '1', '2', '3', '4', '5', '6', '7', '8', '9', 'a',
    'c', 'd', 'e']

/-- The characters of number literals. -/
def numberAlphabet : List Char :=
  ['0', '1', '2', '3', '4', '5', '6', '7', '8', '9', '-', '+', '.', 'e', 'E']

/-- The characters of a rendering outside string literals. -/
def bareAlphabet : List Char :=
  numberAlphabet ++ ['n', 'u', 'l', 't', 'r', 'e', 'f', 'a', 's', '[', ']', '{', '}', ',', ':']

/-- A pattern that matches a rendered value only within one string or key, where it matches plain
characters. -/
structure Inert (pat : Text) : Prop where
  /-- No character of the pattern is ever escaped. -/
  plain : ∀ c ∈ pat, escapeChar c = [c]
  /-- It does not begin inside an escape sequence. -/
  start : ∃ a p, pat = a :: p ∧ a ∉ escapeAlphabet
  /-- It has a character that occurs in string literals only. -/
  mark : ∃ c ∈ pat, c ∉ bareAlphabet

namespace Inert

variable {pat : Text}

theorem ne_nil (h : Inert pat) : pat ≠ [] := by
  obtain ⟨a, p, rfl, -⟩ := h.start
  exact List.cons_ne_nil a p

theorem quote_notMem (h : Inert pat) : '"' ∉ pat := fun hq => by
  have := h.plain _ hq
  revert this
  decide

end Inert

/-! ## Inside a string literal -/

theorem escapeChar_eq_or (c : Char) :
    escapeChar c = [c] ∨
      ∃ w, escapeChar c = '\\' :: w ∧ ∀ d ∈ escapeChar c, d ∈ escapeAlphabet := by
  have hcontrol : ∀ n < 0x20, hexDigit (n / 16) ∈ escapeAlphabet ∧
      hexDigit (n % 16) ∈ escapeAlphabet := by decide
  by_cases hspecial : c ∈ ['"', '\\', '\x08', '\t', '\n', '\x0c', '\r']
  · simp only [List.mem_cons, List.not_mem_nil, or_false] at hspecial
    rcases hspecial with rfl | rfl | rfl | rfl | rfl | rfl | rfl <;>
      exact .inr ⟨_, rfl, Text.forall_mem_of_all (by decide)⟩
  · simp only [List.mem_cons, List.not_mem_nil, or_false, not_or] at hspecial
    obtain ⟨h₁, h₂, h₃, h₄, h₅, h₆, h₇⟩ := hspecial
    rw [escapeChar, if_neg h₁, if_neg h₂, if_neg h₃, if_neg h₄, if_neg h₅, if_neg h₆, if_neg h₇]
    by_cases h : c.toNat < 0x20
    · rw [if_pos h]
      refine .inr ⟨_, rfl, ?_⟩
      simp only [List.mem_cons, List.not_mem_nil, or_false, forall_eq_or_imp, forall_eq]
      exact ⟨by decide, by decide, by decide, by decide, hcontrol _ h⟩
    · exact .inl (if_neg h)

theorem escape_append (s t : Text) : escape (s ++ t) = escape s ++ escape t :=
  List.flatMap_append

theorem escape_eq_self {s : Text} (h : ∀ c ∈ s, escapeChar c = [c]) : escape s = s := by
  induction s with
  | nil => rfl
  | cons c s ih =>
    rw [escape, List.flatMap_cons, h c List.mem_cons_self, ← escape,
      ih fun d hd => h d (List.mem_cons_of_mem _ hd)]
    rfl

/-- Plain text begins an escaped text just when it begins the text. -/
theorem prefix_escape_iff {p s : Text} (hp : ∀ c ∈ p, escapeChar c = [c]) :
    p <+: escape s ↔ p <+: s := by
  constructor
  · intro h
    induction p generalizing s with
    | nil => exact List.nil_prefix
    | cons c p ih =>
      cases s with
      | nil => exact absurd h (by simp [escape])
      | cons d s =>
        rw [escape, List.flatMap_cons, ← escape] at h
        -- A plain character is not the backslash that begins an escape sequence.
        rcases escapeChar_eq_or d with hd | ⟨w, hd, -⟩
        · rw [hd, List.cons_append, List.nil_append, List.cons_prefix_cons] at h
          exact List.cons_prefix_cons.mpr
            ⟨h.1, ih (fun e he => hp e (List.mem_cons_of_mem _ he)) h.2⟩
        · rw [hd, List.cons_append, List.cons_prefix_cons] at h
          have hback := hp c List.mem_cons_self
          rw [h.1] at hback
          exact absurd hback (by decide)
  · rintro ⟨r, rfl⟩
    rw [escape_append, escape_eq_self hp]
    exact List.prefix_append _ _

theorem replaceFrom_escape {pat rep : Text} (hpat : Inert pat)
    (hrep : ∀ c ∈ rep, escapeChar c = [c]) {s : Text} {k : ℕ}
    (hk : ∀ c ∈ s.take k, escapeChar c = [c]) :
    Text.replaceFrom pat rep k (escape s) = escape (Text.replaceFrom pat rep k s) := by
  obtain ⟨a, p, rfl, ha⟩ := hpat.start
  -- The induction is on the text; `k` characters of it belong to an occurrence that has been
  -- replaced.
  induction s generalizing k with
  | nil => cases k <;> rfl
  | cons c s ih =>
    cases k with
    | succ k =>
      have hc : escapeChar c = [c] := hk c (by simp)
      rw [escape, List.flatMap_cons, hc, ← escape]
      exact ih fun d hd => hk d (by simp [hd])
    | zero =>
      have hiff := prefix_escape_iff (s := c :: s) hpat.plain
      -- An occurrence in the text is one in the escaped text, because its characters are not
      -- escaped.
      by_cases hpre : a :: p <+: c :: s
      · have htake : ∀ d ∈ s.take p.length, escapeChar d = [d] := by
          obtain ⟨r, hr⟩ := (List.cons_prefix_cons.mp hpre).2
          intro d hd
          rw [← hr, List.take_left] at hd
          exact hpat.plain d (List.mem_cons_of_mem _ hd)
        have hc : escapeChar c = [c] := hpat.plain c (by simp [(List.cons_prefix_cons.mp hpre).1])
        have hpre' := hiff.mpr hpre
        rw [escape, List.flatMap_cons, hc, ← escape] at hpre' ⊢
        rw [List.cons_append, List.nil_append] at hpre' ⊢
        rw [Text.replaceFrom, if_pos hpre', Text.replaceFrom, if_pos hpre, escape_append,
          escape_eq_self hrep, List.length_cons, Nat.add_sub_cancel, ih htake]
      · rw [Text.replaceFrom, if_neg hpre]
        -- Within an escape sequence there is no occurrence, as none begins with a backslash.
        rcases escapeChar_eq_or c with hc | ⟨-, -, hc⟩
        · have hpre' := mt hiff.mp hpre
          rw [escape, List.flatMap_cons, hc, ← escape] at hpre' ⊢
          rw [List.cons_append, List.nil_append] at hpre' ⊢
          rw [Text.replaceFrom, if_neg hpre', ih (by simp), escape, escape, List.flatMap_cons, hc]
          rfl
        · rw [escape, List.flatMap_cons, ← escape,
            Text.replaceFrom_append_of_head_notMem fun hm => ha (hc a hm), ih (by simp)]
          rfl

theorem replace_escape {pat rep : Text} (hpat : Inert pat) (hrep : ∀ c ∈ rep, escapeChar c = [c])
    (s : Text) : Text.replace pat rep (escape s) = escape (Text.replace pat rep s) := by
  simp only [Text.replace, if_neg hpat.ne_nil]
  exact replaceFrom_escape hpat hrep (by simp)

/-! ## Outside string literals -/

theorem mem_numberAlphabet_of_isDigit {c : Char} (h : c.isDigit = true) : c ∈ numberAlphabet := by
  have hbounds : 48 ≤ c.toNat ∧ c.toNat ≤ 57 := by
    simpa [Char.isDigit, UInt32.le_iff_toNat_le] using h
  have hall : ∀ n < 10, Char.ofNat (48 + n) ∈ numberAlphabet := by decide
  have hn : 48 + (c.toNat - 48) = c.toNat := by omega
  have := hall (c.toNat - 48) (by omega)
  rwa [hn, Char.ofNat_toNat] at this

theorem span_isDigit {t ds r : Text} (h : t.span Char.isDigit = (ds, r)) :
    t = ds ++ r ∧ ds ⊆ numberAlphabet := by
  rw [List.span_eq_takeWhile_dropWhile, Prod.mk.injEq] at h
  obtain ⟨rfl, rfl⟩ := h
  exact ⟨List.takeWhile_append_dropWhile.symm, fun c hc =>
    mem_numberAlphabet_of_isDigit (List.mem_takeWhile_imp hc)⟩

theorem parseFraction_eq_some {t w r : Text} (h : parseFraction t = some (w, r)) :
    t = w ++ r ∧ w ⊆ numberAlphabet := by
  unfold parseFraction at h
  split at h
  · rename_i t
    cases hspan : t.span Char.isDigit with
    | mk ds r' =>
      obtain ⟨rfl, hds⟩ := span_isDigit hspan
      simp only [hspan] at h
      split_ifs at h
      obtain ⟨rfl, rfl⟩ : '.' :: ds = w ∧ r' = r := by simpa using h
      exact ⟨rfl, List.cons_subset.mpr ⟨by decide, hds⟩⟩
  · obtain ⟨rfl, rfl⟩ : [] = w ∧ t = r := by simpa using h
    exact ⟨rfl, List.nil_subset _⟩

theorem parseExponentDigits_eq_some {mark t w r : Text} (hmark : mark ⊆ numberAlphabet)
    (h : parseExponentDigits mark t = some (w, r)) : mark ++ t = w ++ r ∧ w ⊆ numberAlphabet := by
  unfold parseExponentDigits at h
  cases hspan : t.span Char.isDigit with
  | mk ds r' =>
    obtain ⟨rfl, hds⟩ := span_isDigit hspan
    simp only [hspan] at h
    split_ifs at h
    obtain ⟨rfl, rfl⟩ : mark ++ ds = w ∧ r' = r := by simpa using h
    exact ⟨(List.append_assoc _ _ _).symm, List.append_subset.mpr ⟨hmark, hds⟩⟩

theorem parseExponent_eq_some {t w r : Text} (h : parseExponent t = some (w, r)) :
    t = w ++ r ∧ w ⊆ numberAlphabet := by
  unfold parseExponent at h
  split at h
  iterate 6 exact parseExponentDigits_eq_some (by decide) h
  obtain ⟨rfl, rfl⟩ : [] = w ∧ t = r := by simpa using h
  exact ⟨rfl, List.nil_subset _⟩

theorem parseUnsigned_eq_some {F : F64Codec} {negative : Bool} {t r : Text} {n : Number}
    (h : parseUnsigned F negative t = some (n, r)) : ∃ w, t = w ++ r ∧ w ⊆ numberAlphabet := by
  unfold parseUnsigned at h
  cases hspan : t.span Char.isDigit with
  | mk ds t₁ =>
    obtain ⟨rfl, hds⟩ := span_isDigit hspan
    simp only [hspan, Option.bind_eq_bind, Option.bind_eq_some_iff, Prod.exists] at h
    obtain ⟨-, -, fr, t₂, hfr, ex, t₃, hex, m, -, heq⟩ := h
    obtain ⟨rfl, hfrac⟩ := parseFraction_eq_some hfr
    obtain ⟨rfl, hexp⟩ := parseExponent_eq_some hex
    obtain ⟨-, rfl⟩ : m = n ∧ t₃ = r := by simpa using heq
    exact ⟨ds ++ fr ++ ex, by simp,
      List.append_subset.mpr ⟨List.append_subset.mpr ⟨hds, hfrac⟩, hexp⟩⟩

/-- A number literal is made of the characters of numbers. -/
theorem parseNumber_eq_some {F : F64Codec} {t r : Text} {n : Number}
    (h : parseNumber F t = some (n, r)) : ∃ w, t = w ++ r ∧ w ⊆ numberAlphabet := by
  unfold parseNumber at h
  split at h
  · obtain ⟨w, rfl, hw⟩ := parseUnsigned_eq_some h
    exact ⟨'-' :: w, rfl, List.cons_subset.mpr ⟨by decide, hw⟩⟩
  · exact parseUnsigned_eq_some h

theorem print_number_subset {F : F64Codec} {r : F64 → F64} {n : Number}
    (hf : ∀ f, n = .float f → F.ReadsAs f (r f)) : n.print F ⊆ numberAlphabet := by
  have hread := parseNumber_print F delimited_nil hf
  obtain ⟨w, hw, hsub⟩ := parseNumber_eq_some hread
  rw [List.append_nil, List.append_nil] at hw
  exact hw ▸ hsub

/-- A string literal is read back up to its closing quote. -/
theorem quote_inj {s s' t t' : Text} (h : quote s t = quote s' t') : s = s' ∧ t = t' := by
  have hparse := parseString_escape s (t := t)
  rw [(List.cons.inj h).2, parseString_escape] at hparse
  simpa [eq_comm] using hparse

/-! ## Across a rendered value -/

variable {F : F64Codec} {pat rep : Text}

/-- Replacing in `t` gives `t'`, also when text from outside string literals stands before it. -/
def ReplacesTo (pat rep t t' : Text) : Prop :=
  ∀ u, u ⊆ bareAlphabet → Text.replace pat rep (u ++ t) = u ++ t'

namespace ReplacesTo

variable {t t' : Text}

theorem nil (hpat : Inert pat) : ReplacesTo pat rep [] [] := fun u hu => by
  obtain ⟨c, hc, hbare⟩ := hpat.mark
  rw [List.append_nil, Text.replace_eq_self_of_notMem hc fun hm => hbare (hu hm)]

theorem append_left {w : Text} (hw : w ⊆ bareAlphabet) (h : ReplacesTo pat rep t t') :
    ReplacesTo pat rep (w ++ t) (w ++ t') := fun u hu => by
  rw [← List.append_assoc, ← List.append_assoc, h (u ++ w) (List.append_subset.mpr ⟨hu, hw⟩)]

theorem cons {c : Char} (hc : c ∈ bareAlphabet) (h : ReplacesTo pat rep t t') :
    ReplacesTo pat rep (c :: t) (c :: t') :=
  append_left (w := [c]) (by simpa using hc) h

theorem quote (hpat : Inert pat) (hrep : ∀ c ∈ rep, escapeChar c = [c]) (s : Text)
    (h : ReplacesTo pat rep t t') :
    ReplacesTo pat rep (quote s t) (quote (Text.replace pat rep s) t') := fun u hu => by
  have hu' : Text.replace pat rep u = u := by simpa using nil hpat u hu
  have ht : Text.replace pat rep t = t' := by simpa using h [] (List.nil_subset _)
  rw [Json.quote, Text.replace_append_cons hpat.ne_nil hpat.quote_notMem,
    Text.replace_append_cons hpat.ne_nil hpat.quote_notMem, hu', ht, replace_escape hpat hrep]
  rfl

end ReplacesTo

namespace Value

/- The induction is on the value, whose texts are rendered through `r`; what follows it is replaced
as it may. -/
mutual

theorem replacesTo_printWith (hpat : Inert pat) (hrep : ∀ c ∈ rep, escapeChar c = [c])
    (r : Text → Text) {v : Value} (hv : ∀ x ∈ v.floats, F.ReadsBack x) {t t' : Text}
    (h : ReplacesTo pat rep t t') :
    ReplacesTo pat rep (v.printWith F r t) (v.printWith F (Text.replace pat rep ∘ r) t') := by
  match v with
  | null => exact h.append_left (w := ['n', 'u', 'l', 'l']) (by decide)
  | bool true => exact h.append_left (w := ['t', 'r', 'u', 'e']) (by decide)
  | bool false => exact h.append_left (w := ['f', 'a', 'l', 's', 'e']) (by decide)
  | number n =>
    have hn := print_number_subset (readsAs_of_number (r := id) hv)
    exact h.append_left (List.Subset.trans hn (List.subset_append_left _ _))
  | string s => exact h.quote hpat hrep (r s)
  | array [] => exact h.append_left (w := ['[', ']']) (by decide)
  | array (w :: l) =>
    have hw : ∀ x ∈ w.floats, F.ReadsBack x := fun x hx => hv x (List.mem_append_left _ hx)
    have hl : ∀ x ∈ floatsList l, F.ReadsBack x := fun x hx => hv x (List.mem_append_right _ hx)
    have hrest := replacesTo_printElems hpat hrep r hl h
    exact (replacesTo_printWith hpat hrep r hw hrest).cons (by decide)
  | object .nil => exact h.append_left (w := ['{', '}']) (by decide)
  | object (.cons k _ w m) =>
    have hw : ∀ x ∈ w.floats, F.ReadsBack x := fun x hx => hv x (List.mem_append_left _ hx)
    have hm : ∀ x ∈ floatsEntries m, F.ReadsBack x := fun x hx =>
      hv x (List.mem_append_right _ hx)
    have hrest := replacesTo_printWith hpat hrep r hw (replacesTo_printMembers hpat hrep r hm h)
    exact ((hrest.cons (c := ':') (by decide)).quote hpat hrep (r k)).cons (by decide)

theorem replacesTo_printElems (hpat : Inert pat) (hrep : ∀ c ∈ rep, escapeChar c = [c])
    (r : Text → Text) {l : List Value} (hl : ∀ x ∈ floatsList l, F.ReadsBack x) {t t' : Text}
    (h : ReplacesTo pat rep t t') :
    ReplacesTo pat rep (printElems F r t l) (printElems F (Text.replace pat rep ∘ r) t' l) := by
  match l with
  | [] => exact h.cons (by decide)
  | v :: l =>
    have hv : ∀ x ∈ v.floats, F.ReadsBack x := fun x hx => hl x (List.mem_append_left _ hx)
    have hl : ∀ x ∈ floatsList l, F.ReadsBack x := fun x hx => hl x (List.mem_append_right _ hx)
    have hrest := replacesTo_printElems hpat hrep r hl h
    exact (replacesTo_printWith hpat hrep r hv hrest).cons (by decide)

theorem replacesTo_printMembers (hpat : Inert pat) (hrep : ∀ c ∈ rep, escapeChar c = [c])
    (r : Text → Text) {b : Option Text} {m : OrdMap.Entries Text Value b}
    (hm : ∀ x ∈ floatsEntries m, F.ReadsBack x) {t t' : Text} (h : ReplacesTo pat rep t t') :
    ReplacesTo pat rep (printMembers F r t m)
      (printMembers F (Text.replace pat rep ∘ r) t' m) := by
  match m with
  | .nil => exact h.cons (by decide)
  | .cons k _ v m =>
    have hv : ∀ x ∈ v.floats, F.ReadsBack x := fun x hx => hm x (List.mem_append_left _ hx)
    have hm : ∀ x ∈ floatsEntries m, F.ReadsBack x := fun x hx =>
      hm x (List.mem_append_right _ hx)
    have hrest := replacesTo_printWith hpat hrep r hv (replacesTo_printMembers hpat hrep r hm h)
    exact ((hrest.cons (c := ':') (by decide)).quote hpat hrep (r k)).cons (by decide)

end

/-- Replacing an inert pattern in a rendering replaces it in the strings and keys as rendered. -/
theorem replace_printWith (hpat : Inert pat) (hrep : ∀ c ∈ rep, escapeChar c = [c])
    (r : Text → Text) {v : Value} (hv : ∀ x ∈ v.floats, F.ReadsBack x) :
    Text.replace pat rep (v.printWith F r []) =
      v.printWith F (Text.replace pat rep ∘ r) [] := by
  simpa using
    replacesTo_printWith hpat hrep r hv (ReplacesTo.nil hpat) [] (List.nil_subset _)

/-- Replacing an inert pattern in a rendering replaces it in the strings and keys. -/
theorem replace_print (hpat : Inert pat) (hrep : ∀ c ∈ rep, escapeChar c = [c]) {v : Value}
    (hv : ∀ x ∈ v.floats, F.ReadsBack x) :
    Text.replace pat rep (v.print F) = v.printWith F (Text.replace pat rep) [] :=
  replace_printWith hpat hrep id hv

/-- Reading the rendering with an inert pattern replaced. -/
theorem parse_replace_print (hpat : Inert pat) (hrep : ∀ c ∈ rep, escapeChar c = [c]) {v : Value}
    (hv : ∀ x ∈ v.floats, F.ReadsBack x) : parse F (Text.replace pat rep (v.print F)) =
      if v.depth ≤ depthLimit then some (v.mapText (Text.replace pat rep)) else none := by
  rw [replace_print hpat hrep hv, parse_printWith hv]

/-! ## There and back -/

/- A rendering determines how the texts were rendered, and what follows it. The induction is on the
value; a string literal is read back up to its closing quote. -/
mutual

theorem printWith_inj {f g : Text → Text} {v : Value} {t t' : Text}
    (h : v.printWith F f t = v.printWith F g t') : (∀ s ∈ v.texts, f s = g s) ∧ t = t' := by
  match v with
  | null => exact ⟨by simp [texts], by simpa [printWith] using h⟩
  | bool true => exact ⟨by simp [texts], by simpa [printWith] using h⟩
  | bool false => exact ⟨by simp [texts], by simpa [printWith] using h⟩
  | number n => exact ⟨by simp [texts], by simpa [printWith] using h⟩
  | string s =>
    obtain ⟨hs, ht⟩ := quote_inj h
    exact ⟨by simpa [texts] using hs, ht⟩
  | array [] => exact ⟨by simp [texts, textsList], by simpa [printWith] using h⟩
  | array (w :: l) =>
    rw [printWith, printWith, List.cons.injEq] at h
    obtain ⟨hw, hrest⟩ := printWith_inj h.2
    obtain ⟨hl, ht⟩ := printElems_inj hrest
    exact ⟨List.forall_mem_append.mpr ⟨hw, hl⟩, ht⟩
  | object .nil => exact ⟨by simp [texts, textsEntries], by simpa [printWith] using h⟩
  | object (.cons k _ w m) =>
    rw [printWith, printWith, List.cons.injEq] at h
    obtain ⟨hk, hvalue⟩ := quote_inj h.2
    obtain ⟨hw, hrest⟩ := printWith_inj (List.cons.inj hvalue).2
    obtain ⟨hm, ht⟩ := printMembers_inj hrest
    exact ⟨List.forall_mem_cons.mpr ⟨hk, List.forall_mem_append.mpr ⟨hw, hm⟩⟩, ht⟩

theorem printElems_inj {f g : Text → Text} {l : List Value} {t t' : Text}
    (h : printElems F f t l = printElems F g t' l) : (∀ s ∈ textsList l, f s = g s) ∧ t = t' := by
  match l with
  | [] => exact ⟨by simp [textsList], by simpa [printElems] using h⟩
  | v :: l =>
    rw [printElems, printElems, List.cons.injEq] at h
    obtain ⟨hv, hrest⟩ := printWith_inj h.2
    obtain ⟨hl, ht⟩ := printElems_inj hrest
    exact ⟨List.forall_mem_append.mpr ⟨hv, hl⟩, ht⟩

theorem printMembers_inj {f g : Text → Text} {b : Option Text}
    {m : OrdMap.Entries Text Value b} {t t' : Text}
    (h : printMembers F f t m = printMembers F g t' m) :
    (∀ s ∈ textsEntries m, f s = g s) ∧ t = t' := by
  match m with
  | .nil => exact ⟨by simp [textsEntries], by simpa [printMembers] using h⟩
  | .cons k _ v m =>
    rw [printMembers, printMembers, List.cons.injEq] at h
    obtain ⟨hk, hvalue⟩ := quote_inj h.2
    obtain ⟨hv, hrest⟩ := printWith_inj (List.cons.inj hvalue).2
    obtain ⟨hm, ht⟩ := printMembers_inj hrest
    exact ⟨List.forall_mem_cons.mpr ⟨hk, List.forall_mem_append.mpr ⟨hv, hm⟩⟩, ht⟩

end

/-- When a replacement in a rendering is undone by replacing back, so it is in each string and
key. -/
theorem replace_replace_of_mem_texts (hpat : Inert pat) (hrep : Inert rep)
    (hplain : ∀ c ∈ pat, escapeChar c = [c]) {v : Value} (hv : ∀ x ∈ v.floats, F.ReadsBack x)
    (h : Text.OccursOnlyAt pat rep (v.print F)) {s : Text} (hs : s ∈ v.texts) :
    Text.replace rep pat (Text.replace pat rep s) = s := by
  have hback := Text.replace_replace hpat.ne_nil hrep.ne_nil h
  rw [replace_print hpat hrep.plain hv, replace_printWith hrep hplain _ hv] at hback
  exact (printWith_inj hback).1 s hs

end Value

end Json
