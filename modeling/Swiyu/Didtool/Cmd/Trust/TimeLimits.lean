import Mathlib.Algebra.Order.Ring.Rat
import Mathlib.Tactic.NormNum
import Swiyu.Core.TrustStatement.Disclosures
import Swiyu.Didtool.Cmd.Trust.Subject

/-!
# The time limits of a trust statement

The `nbf` and `exp` of a statement are taken over when they are `u64` integers. Any other value is
taken for an absent one, so that the freshness check lets the statement pass at times at which the
payload says that it must not. The decoder of status lists refuses such an `exp`.

## Main definitions

- `Swiyu.Trust.numericDate`: the instant that a JSON value denotes.
- `Swiyu.Trust.LimitsKept`: the freshness check enforces the limits that the payload has.
- `Swiyu.Trust.LimitsReadable`: the limits are written so that the decoder takes them over, or are
  such that it does not matter.

## Main results

- `Swiyu.Trust.limitsKept_iff`: the limits of an accepted statement are enforced when they are
  readable, and only then.
-/

namespace Swiyu

open Json

namespace Trust

variable (X : JoseCrates)

/-! ## Instants -/

/-- The number that the bits of a double denote: sign, biased exponent and fraction. -/
def doubleValue (f : F64) : ℚ :=
  let sign : ℚ := if f.bits.toNat / 2 ^ 63 = 1 then -1 else 1
  let exponent : ℕ := f.bits.toNat / 2 ^ 52 % 2 ^ 11
  let fraction : ℕ := f.bits.toNat % 2 ^ 52
  -- The least exponent is that of the subnormal numbers, which have no leading one.
  if exponent = 0 then sign * fraction * (2 : ℚ) ^ (-1074 : ℤ)
  else sign * (2 ^ 52 + fraction) * (2 : ℚ) ^ ((exponent : ℤ) - 1075)

/-- The instant that a NumericDate denotes, in Unix seconds; a value that is no number denotes
none. -/
def numericDate : Value → Option ℚ
  | .number (.posInt n) => some n.toNat
  | .number (.negInt n) => some (-(n + 1))
  | .number (.float f) => some (doubleValue f)
  | _ => none

/-- At no time from the instant of `exp` on does the statement pass the freshness check, and at no
time at all if `exp` denotes none. -/
def ExpKept (stmt : TrustStatement) (exp : Value) : Prop :=
  ∀ now : UInt64, (∀ t ∈ numericDate exp, t ≤ now.toNat) →
    (checkFreshness X stmt now).passed = false

/-- At no time before the instant of `nbf` does the statement pass the freshness check, and at no
time at all if `nbf` denotes none. -/
def NbfKept (stmt : TrustStatement) (nbf : Value) : Prop :=
  ∀ now : UInt64, (∀ t ∈ numericDate nbf, now.toNat < t) →
    (checkFreshness X stmt now).passed = false

/-- The limits in the payload are enforced. -/
structure LimitsKept (payload : Value) (stmt : TrustStatement) : Prop where
  exp : ∀ v ∈ payload.get "exp", ExpKept X stmt v
  nbf : ∀ v ∈ payload.get "nbf", NbfKept X stmt v

/-- Each limit in the payload is a `u64` integer, or does not bind: an `exp` that no `u64` time
reaches, an `nbf` that none precedes or that stands beside an `exp` of 0. -/
structure LimitsReadable (payload : Value) : Prop where
  exp : ∀ v ∈ payload.get "exp", v.asU64.isSome ∨ ∃ t ∈ numericDate v, 2 ^ 64 - 1 < t
  nbf : ∀ v ∈ payload.get "nbf", v.asU64.isSome ∨ (∃ t ∈ numericDate v, t ≤ 0) ∨
    (payload.get "exp").bind Value.asU64 = some 0

variable {X} {stmt : TrustStatement} {payload : Value}

/-- The freshness check passes between the limits that the statement has. -/
theorem passed_checkFreshness_iff {now : UInt64} : (checkFreshness X stmt now).passed = true ↔
    (∀ nbf ∈ stmt.nbf, nbf ≤ now) ∧ ∀ exp ∈ stmt.exp, now < exp := by
  unfold checkFreshness
  cases hnbf : stmt.nbf.filter (fun nbf => now < nbf) with
  | some nbf =>
    obtain ⟨hmem, hlt⟩ := Option.filter_eq_some_iff.mp hnbf
    have hlt : now < nbf := by simpa using hlt
    refine ⟨(fun h => by cases h), fun h => ?_⟩
    exact absurd (h.1 nbf hmem) (UInt64.not_le.mpr hlt)
  | none =>
    have hnbf : ∀ nbf ∈ stmt.nbf, nbf ≤ now := by
      simpa [UInt64.not_lt] using hnbf
    cases hexp : stmt.exp.filter (fun exp => exp ≤ now) with
    | some exp =>
      obtain ⟨hmem, hle⟩ := Option.filter_eq_some_iff.mp hexp
      have hle : exp ≤ now := by simpa using hle
      refine ⟨(fun h => by cases h), fun h => ?_⟩
      exact absurd (h.2 exp hmem) (UInt64.not_lt.mpr hle)
    | none =>
      have hexp : ∀ exp ∈ stmt.exp, now < exp := by
        simpa [UInt64.not_le] using hexp
      exact ⟨fun _ => ⟨hnbf, hexp⟩, fun _ => rfl⟩

/-- What the decoder takes over. -/
theorem limits_of_tryFromJwt {jwtText : Text} (h : TrustStatement.tryFromJwt X jwtText = .ok stmt)
    (hpayload : signedPayload X stmt = some payload) :
    stmt.exp = (payload.get "exp").bind Value.asU64 ∧
      stmt.nbf = (payload.get "nbf").bind Value.asU64 := by
  unfold TrustStatement.tryFromJwt at h
  split at h
  · rename_i seg₀ seg₁ seg₂ hsplit
    simp only [Except.bind_eq_ok_iff, pure, Except.pure, Except.ok.injEq] at h
    obtain ⟨header, -, payload', hpayload', signature, -, kid, -, alg, -, claims, -, iat, -, status,
      -, rfl⟩ := h
    -- The signing input has the same two segments.
    have hparts : ∀ part ∈ [seg₀, seg₁], '.' ∉ part := by
      intro part hpart
      refine Text.notMem_of_mem_split (s := (TrustStatement.splitDisclosures jwtText).1) ?_
      rw [hsplit]
      exact List.mem_of_mem_take (i := 2) hpart
    have hinput : Text.split '.' (seg₀ ++ '.' :: seg₁) = [seg₀, seg₁] := by
      rw [Text.split_append_cons (hparts seg₀ (by simp)),
        Text.split_of_notMem (hparts seg₁ (by simp))]
    unfold signedPayload at hpayload
    rw [hinput] at hpayload
    change segmentValue X seg₁ = some payload at hpayload
    rw [TrustStatement.parseSegment_eq_ok_iff.mp hpayload', Option.some.injEq] at hpayload
    rw [hpayload]
    exact ⟨rfl, rfl⟩
  · cases h

theorem numericDate_of_asU64 {v : Value} {n : UInt64} (h : v.asU64 = some n) :
    numericDate v = some (n.toNat : ℚ) := by
  rw [Value.asU64_eq_some_iff.mp h]
  rfl

theorem cast_toNat_le (now : UInt64) : (now.toNat : ℚ) ≤ 2 ^ 64 - 1 := by
  have hsucc : ((now.toNat + 1 : ℕ) : ℚ) ≤ ((2 ^ 64 : ℕ) : ℚ) := Nat.cast_le.mpr now.toNat_lt
  push_cast at hsucc
  exact le_sub_iff_add_le.mpr hsucc

/-- An `exp` is enforced when it is read, or when no time reaches it. -/
theorem expKept_iff {v : Value} (hexp : stmt.exp = v.asU64) :
    ExpKept X stmt v ↔ v.asU64.isSome ∨ ∃ t ∈ numericDate v, 2 ^ 64 - 1 < t := by
  constructor
  · intro h
    by_contra hneither
    obtain ⟨hnone, hreached⟩ := not_or.mp hneither
    rw [Option.not_isSome_iff_eq_none] at hnone
    -- The last time of all passes.
    have htop : (18446744073709551615 : UInt64).toNat = 2 ^ 64 - 1 := rfl
    have hmax : ((18446744073709551615 : UInt64).toNat : ℚ) = 2 ^ 64 - 1 := by
      rw [htop]
      norm_num
    have hfail := h 18446744073709551615 fun t ht => by
      rw [hmax]
      exact not_lt.mp fun hlt => hreached ⟨t, ht, hlt⟩
    have hpass : (checkFreshness X stmt 18446744073709551615).passed = true := by
      refine passed_checkFreshness_iff.mpr ⟨fun nbf _ => ?_, ?_⟩
      · rw [UInt64.le_iff_toNat_le]
        exact Nat.le_of_lt_succ nbf.toNat_lt
      · rw [hexp, hnone]
        simp
    rw [hpass] at hfail
    cases hfail
  · -- A limit that is read is checked; one that is not read must be beyond all times.
    intro h now hnow
    rw [Bool.eq_false_iff, ne_eq, passed_checkFreshness_iff]
    intro hpass
    rcases h with hsome | ⟨t, ht, hlt⟩
    · obtain ⟨n, hn⟩ := Option.isSome_iff_exists.mp hsome
      have hle : (n.toNat : ℚ) ≤ now.toNat := hnow _ (numericDate_of_asU64 hn)
      have hlt : now < n := hpass.2 n (hexp.trans hn)
      rw [UInt64.lt_iff_toNat_lt] at hlt
      exact absurd (Nat.cast_le.mp hle) (Nat.not_le.mpr hlt)
    · exact absurd (hlt.trans_le ((hnow t ht).trans (cast_toNat_le now))) (lt_irrefl _)

/-- An `nbf` is enforced when it is read, when no time precedes it, or when nothing passes. -/
theorem nbfKept_iff {v : Value} (hnbf : stmt.nbf = v.asU64) :
    NbfKept X stmt v ↔
      v.asU64.isSome ∨ (∃ t ∈ numericDate v, t ≤ 0) ∨ stmt.exp = some 0 := by
  constructor
  · intro h
    by_contra hnone
    obtain ⟨hunread, hpositive, hexp⟩ : v.asU64 = none ∧ (¬ ∃ t ∈ numericDate v, t ≤ 0) ∧
        stmt.exp ≠ some 0 := by simpa [not_or] using hnone
    -- The first time of all passes.
    have hfail := h 0 fun t ht => by
      refine lt_of_not_ge fun hle => hpositive ⟨t, ht, by simpa using hle⟩
    have hpass : (checkFreshness X stmt 0).passed = true := by
      refine passed_checkFreshness_iff.mpr ⟨?_, fun exp hmem => ?_⟩
      · rw [hnbf, hunread]
        simp
      · rw [UInt64.lt_iff_toNat_lt]
        refine Nat.pos_of_ne_zero fun hzero => hexp ?_
        have heq : exp = 0 := UInt64.toNat_inj.mp hzero
        exact heq ▸ hmem
    rw [hpass] at hfail
    cases hfail
  · -- A limit that is read is checked; one that is not read must not be passed by any time.
    intro h now hnow
    rw [Bool.eq_false_iff, ne_eq, passed_checkFreshness_iff]
    intro hpass
    rcases h with hsome | ⟨t, ht, hle⟩ | hzero
    · obtain ⟨n, hn⟩ := Option.isSome_iff_exists.mp hsome
      have hlt : (now.toNat : ℚ) < n.toNat := hnow _ (numericDate_of_asU64 hn)
      have hle : n ≤ now := hpass.1 n (hnbf.trans hn)
      rw [UInt64.le_iff_toNat_le] at hle
      exact absurd (Nat.cast_lt.mp hlt) (Nat.not_lt.mpr hle)
    · exact absurd ((hnow t ht).trans_le hle) (not_lt.mpr (Nat.cast_nonneg _))
    · have hlt : now < 0 := hpass.2 0 hzero
      rw [UInt64.lt_iff_toNat_lt] at hlt
      exact absurd hlt (Nat.not_lt_zero _)

/-- The limits of an accepted statement are enforced if and only if they are readable. -/
theorem limitsKept_iff {jwtText : Text} (h : TrustStatement.tryFromJwt X jwtText = .ok stmt)
    (hpayload : signedPayload X stmt = some payload) :
    LimitsKept X payload stmt ↔ LimitsReadable payload := by
  -- The statement has the limits that are `u64`s, and no others.
  obtain ⟨hexp, hnbf⟩ := limits_of_tryFromJwt h hpayload
  have hexps : ∀ v ∈ payload.get "exp", stmt.exp = v.asU64 := by
    intro v hv
    rw [hexp, Option.mem_def.mp hv]
    rfl
  have hnbfs : ∀ v ∈ payload.get "nbf", stmt.nbf = v.asU64 := by
    intro v hv
    rw [hnbf, Option.mem_def.mp hv]
    rfl
  constructor
  · intro hkept
    refine ⟨fun v hv => (expKept_iff (hexps v hv)).mp (hkept.exp v hv), fun v hv => ?_⟩
    rw [← hexp]
    exact (nbfKept_iff (hnbfs v hv)).mp (hkept.nbf v hv)
  · intro hreadable
    refine ⟨fun v hv => (expKept_iff (hexps v hv)).mpr (hreadable.exp v hv), fun v hv => ?_⟩
    have hread := hreadable.nbf v hv
    rw [← hexp] at hread
    exact (nbfKept_iff (hnbfs v hv)).mpr hread

end Trust

/-! ## A sample statement -/

namespace Sample

open Trust

/-- A number literal with a fraction, and the double it denotes. -/
def fractionText : Text := "1700000000.5"

def fraction : F64 := ⟨0x41d954fc40200000, by decide⟩

/-- Crates that read and write the double. -/
def fractionCrates : JoseCrates :=
  { disclosureCrates with
    f64 := ⟨fun f => if f = fraction then fractionText else [],
      fun t => if t = fractionText then some fraction else none⟩ }

/-- A payload whose `exp` has a fraction. -/
def fractionPayload : Value := .ofFields [(Text.lit "exp", .number (.float fraction)),
  (Text.lit "iat", .number (.posInt 1600000000))]

/-- A statement with this payload. -/
def fractionJwt : Text :=
  let segment (v : Value) := Base64Url.encode (Text.utf8 (v.print fractionCrates.f64))
  segment (.ofFields [(Text.lit "alg", .string "ES256"), (Text.lit "kid", .string "k")]) ++
    '.' :: segment fractionPayload ++ '.' :: Base64Url.encode [0]

/-- The statement that is decoded: its `exp` is gone. -/
theorem tryFromJwt_fractionJwt : ∃ stmt,
    TrustStatement.tryFromJwt fractionCrates fractionJwt = .ok stmt ∧
    signedPayload fractionCrates stmt = some fractionPayload ∧ stmt.nbf = none ∧
    stmt.exp = none := by
  have hread : (TrustStatement.tryFromJwt fractionCrates fractionJwt).toOption.map (fun stmt =>
      (signedPayload fractionCrates stmt, stmt.nbf, stmt.exp)) =
      some (some fractionPayload, none, none) := by decide +kernel
  cases hstmt : TrustStatement.tryFromJwt fractionCrates fractionJwt with
  | error e =>
    rw [hstmt] at hread
    cases hread
  | ok stmt =>
    rw [hstmt] at hread
    obtain ⟨hpayload, hlimits⟩ := Prod.mk.inj (Option.some.inj hread)
    exact ⟨stmt, rfl, hpayload, Prod.mk.inj hlimits⟩

theorem doubleValue_fraction : doubleValue fraction = 1700000000 + 1 / 2 := by
  have hbits : fraction.bits.toNat = 0x41d954fc40200000 := rfl
  unfold doubleValue
  rw [hbits]
  norm_num

/-- The sample `exp` has a fraction, so that the limits of the sample statement are not enforced. -/
theorem not_limitsKept_fraction : ∃ stmt,
    TrustStatement.tryFromJwt fractionCrates fractionJwt = .ok stmt ∧
    signedPayload fractionCrates stmt = some fractionPayload ∧
    ¬ LimitsKept fractionCrates fractionPayload stmt := by
  obtain ⟨stmt, hstmt, hpayload, -⟩ := tryFromJwt_fractionJwt
  refine ⟨stmt, hstmt, hpayload, fun hkept => ?_⟩
  -- An `exp` that is neither a 64-bit integer nor beyond all of them is not readable.
  have hreadable := ((limitsKept_iff hstmt hpayload).mp hkept).exp (.number (.float fraction)) rfl
  rcases hreadable with hsome | ⟨t, ht, hle⟩
  · cases hsome
  · obtain rfl := Option.some.inj ht
    rw [doubleValue_fraction] at hle
    norm_num at hle

/-- The statement passes the freshness check half a second after its `exp`. -/
theorem fraction_expired_passes : ∃ stmt exp,
    TrustStatement.tryFromJwt fractionCrates fractionJwt = .ok stmt ∧
    signedPayload fractionCrates stmt = some fractionPayload ∧
    fractionPayload.get "exp" = some exp ∧ numericDate exp = some (1700000000 + 1 / 2) ∧
    (checkFreshness fractionCrates stmt 1700000001).passed = true ∧
    ¬ ExpKept fractionCrates stmt exp := by
  obtain ⟨stmt, hstmt, hpayload, hnbf, hexp⟩ := tryFromJwt_fractionJwt
  have hdate : numericDate (.number (.float fraction)) = some (1700000000 + 1 / 2) :=
    congrArg some doubleValue_fraction
  have hpass : (checkFreshness fractionCrates stmt 1700000001).passed = true := by
    refine passed_checkFreshness_iff.mpr ⟨?_, ?_⟩
    · rw [hnbf]
      simp
    · rw [hexp]
      simp
  refine ⟨stmt, .number (.float fraction), hstmt, hpayload, rfl, hdate, hpass, ?_⟩
  intro hkept
  have hnow : (1700000001 : UInt64).toNat = 1700000001 := rfl
  have hfail := hkept 1700000001 fun t ht => by
    rw [hdate, Option.mem_some_iff] at ht
    rw [← ht, hnow]
    norm_num
  rw [hpass] at hfail
  cases hfail

end Sample

end Swiyu
