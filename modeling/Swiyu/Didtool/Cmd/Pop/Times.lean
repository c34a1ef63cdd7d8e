import Mathlib.Data.UInt
import Swiyu.Didtool.Cmd.Pop.Complete

/-!
# Times in proofs of possession

Times are seconds in unsigned 64-bit integers: those in a token are whatever its issuer has put
there. The differences that the verification reports are taken once it is known which of two times
is the later one. The expiry of a new token is added up without such a check, and a time that is
printed as a date is cast to a signed integer first.

## Main definitions

- `Swiyu.Pop.Summary.difference`: the time between now and the expiry, which is printed.
- `Swiyu.Pop.Reported`: the times and differences that a verification reports are the true ones.
- `Swiyu.Rendered`: a time is printed as its date or as a number.

## Main results

- `Swiyu.Pop.endsRight_cmdVerifyPop`: every verification reports true times.
- `Swiyu.rendered_iff`: the times that are printed as themselves.
- `Swiyu.Pop.timesExact_iff`: when times are exact.
-/

namespace Swiyu

open Json

/-! ## Dates -/

/-- A time is printed as its date, or as the number that it is. -/
def Rendered (X : JoseCrates) (time : UInt64) : Prop :=
  X.rfc3339 time.toNat = some (iso8601 X time) ∨ iso8601 X time = Text.decimal time.toNat

/-- The signed integer of a time is the time, or else it is no date. -/
def Renderable (X : JoseCrates) (time : UInt64) : Prop :=
  time.toNat < 2 ^ 63 ∨ X.rfc3339 ((time.toNat : ℤ) - 2 ^ 64) = none

/-- How dates are written. -/
structure JoseCrates.RendersDates (X : JoseCrates) : Prop where
  /-- A date has colons between hours, minutes and seconds. -/
  colon {t : ℤ} {date : Text} : X.rfc3339 t = some date → ':' ∈ date
  /-- A date is that of one second. -/
  injective {t t' : ℤ} {date : Text} :
    X.rfc3339 t = some date → X.rfc3339 t' = some date → t = t'

theorem toInt_toInt64 (time : UInt64) : time.toInt64.toInt =
    if time.toNat < 2 ^ 63 then (time.toNat : ℤ) else time.toNat - 2 ^ 64 := by
  have hcast : time.toInt64.toInt = time.toBitVec.toInt := rfl
  rw [hcast, BitVec.toInt_eq_toNat_cond, UInt64.toNat_toBitVec]
  push_cast
  split_ifs <;> omega

/-- A time is printed as itself just when the signed integer does not stand for another date. -/
theorem rendered_iff {X : JoseCrates} (hX : X.RendersDates) {time : UInt64} :
    Rendered X time ↔ Renderable X time := by
  have hiso : iso8601 X time =
      (X.rfc3339 time.toInt64.toInt).getD (Text.decimal time.toNat) := rfl
  unfold Rendered Renderable
  rw [hiso, toInt_toInt64]
  -- The cast to a signed integer keeps the lower half, and takes `2 ^ 64` off the upper one.
  by_cases hlow : time.toNat < 2 ^ 63
  · rw [if_pos hlow]
    refine iff_of_true ?_ (.inl hlow)
    cases X.rfc3339 time.toNat with
    | some date => exact .inl rfl
    | none => exact .inr rfl
  · rw [if_neg hlow]
    cases hdate : X.rfc3339 ((time.toNat : ℤ) - 2 ^ 64) with
    | none => exact iff_of_true (.inr rfl) (.inr rfl)
    | some date =>
      rw [Option.getD_some]
      refine iff_of_false (fun hrendered => ?_) fun hlate => hlate.elim hlow nofun
      rcases hrendered with hsame | hnumber
      · -- One date would be that of two seconds.
        have htimes := hX.injective hsame hdate
        omega
      · have hcolon := hX.colon hdate
        rw [hnumber] at hcolon
        exact absurd (Text.isDigit_of_mem_decimal hcolon) (by decide)

namespace Pop

/-! ## Reports -/

/-- The time between now and the expiry of a token. -/
def Summary.difference (s : Summary) : UInt64 := if s.expired then s.now - s.exp else s.exp - s.now

/-- What a verification reports at the time `now` of a token with the claims `iat` and `exp`: which
time is the later one, and how far they are apart. -/
def Reported (X : JoseCrates) (now iat exp : UInt64) : Except VerifyPopError Summary → Prop
  | .error (.notYetIssued delta) => now.toNat + 60 < iat.toNat ∧
    ∃ d : UInt64, (d.toNat : ℤ) = iat.toNat - now.toNat ∧ delta = humanDuration d
  | .error (.expired expIso delta) => exp.toNat ≤ now.toNat ∧ expIso = iso8601 X exp ∧
    ∃ d : UInt64, (d.toNat : ℤ) = now.toNat - exp.toNat ∧ delta = humanDuration d
  | .error _ => True
  | .ok s => s.now = now ∧ s.iat = iat ∧ s.exp = exp ∧ iat.toNat ≤ now.toNat + 60 ∧
    (s.expired = true ↔ exp.toNat ≤ now.toNat) ∧
    (s.difference.toNat : ℤ) = |(now.toNat : ℤ) - exp.toNat|

/-- The errors that tell a time. -/
def TellsTime : VerifyPopError → Prop
  | .notYetIssued _ => True
  | .expired _ _ => True
  | _ => False

theorem reported_error {X : JoseCrates} {now iat exp : UInt64} {e : VerifyPopError}
    (h : ¬ TellsTime e) : Reported X now iat exp (.error e) := by
  cases e <;> first | trivial | exact absurd trivial h

/-! ## Errors that tell no time -/

section Errors

variable {X : ToolCrates} {env : Env} {args : VerifyPopArgs}

/-- A computation tells no time when it fails. -/
abbrev Timeless {α : Type} (x : Except VerifyPopError α) : Prop :=
  Except.FailsWith (fun e => ¬ TellsTime e) x

theorem timeless_jwtString (v : Value) (name part : Text) : Timeless (jwtString v name part) :=
  .okOr id

theorem timeless_headerAlg (header : Value) : Timeless (headerAlg header) :=
  .bind (timeless_jwtString _ _ _) fun _ => .bind (.ensure id) fun _ => .ok

theorem timeless_parseKid (kid : Text) : Timeless (parseKid kid) := by
  unfold parseKid
  split
  · exact .bind (.okOr id) fun _ => .bind (.ensure id) fun _ => .ok
  · exact .bind (.okOr id) fun _ => .ok

theorem timeless_checkIss (iss : Text) (constraint : Option Text) :
    Timeless (checkIss iss constraint) := by
  cases constraint with
  | none => exact .ok
  | some expected => exact .ensure id

theorem timeless_checkNonce (nonce : Text) (constraint : Option Text) :
    Timeless (checkNonce nonce constraint) := by
  cases constraint with
  | none => exact .ok
  | some expected => exact .ensure id

theorem timeless_decodeMultikey (s : Text) : Timeless (decodeMultikey X s) := by
  refine .bind (.mapError fun e => id) fun mb => ?_
  unfold keyOfMulticodec
  split
  · split_ifs
    · split
      · exact .ok
      · exact .error id
    · exact .error id
    · exact .error id
  · exact .error id

theorem timeless_ofJws (e : JwsVerifyError) : ¬ TellsTime (.ofJws e) := by
  cases e <;> exact id

theorem timeless_findVmKeyInLog (log : DIDLog) (kid : Text) :
    Timeless (findVmKeyInLog X log kid) := by
  refine .bind (.okOr id) fun last => .bind ?_ fun docValue => ?_
  · cases last.didDocState with
    | value v => exact .ok
    | patch p => exact .error id
  · refine .bind (.mapError fun e => id) fun doc => .bind (.okOr id) fun vm => ?_
    cases vm.publicKey with
    | jwk jwk => exact .mapError timeless_ofJws
    | multibase mb => exact .error id

theorem timeless_roleOfKid (kid : Text) : Timeless (roleOfKid kid) := by
  unfold roleOfKid
  dsimp only
  split_ifs
  · exact .ok
  · exact .ok
  · exact .error id

/-- A command tells no time when it fails. -/
abbrev TimelessCommand {α : Type} (x : PopCommand α) : Prop :=
  Command.FailsWith (fun e => ¬ TellsTime e) x

theorem timeless_resolveContext (kid : Text) (shape : KidShape) :
    TimelessCommand (resolveContext X env args kid shape) := by
  have hsource : TimelessCommand (loadSource X env args) :=
    .bind (.mapError fun e => id) fun _ => .bind (.ofExcept (.okOr id)) fun _ => .pure
  cases shape with
  | didKey multikey =>
    refine .bind (.ofExcept (timeless_decodeMultikey _)) fun key => .ite ?_ .pure
    refine .bind hsource fun source => ?_
    exact .bind (.ofExcept (.ensure id)) fun _ => .pure
  | fragment kidDid =>
    refine .ite ?_ (.bind ?_ fun key => .pure)
    · refine .bind hsource fun source => .bind (.ofExcept (.ensure id)) fun _ => ?_
      exact .bind (.ofExcept (timeless_findVmKeyInLog _ _)) fun _ => .pure
    · refine .bind (.ofExcept (.mapError fun e => id)) fun did => ?_
      refine .bind (.mapError fun e => id) fun entry => .bind (.ofExcept (.okOr id)) fun entry => ?_
      refine .bind (.ofExcept (timeless_roleOfKid _)) fun role => ?_
      exact .bind (.mapError fun e => id) fun _ => .pure

end Errors

/-! ## What is reported -/

section Reports

variable {X : ToolCrates} {env : Env} {args : VerifyPopArgs} {w : World} {iat exp : UInt64}

/-- A clock before the year 292277026596 is read as it is. -/
theorem toNat_timeOf {tick : ℕ} (h : env.clock tick / 1000000000 < 2 ^ 63) :
    (timeOf env tick).toNat = (env.clock tick / 1000000000).toNat := by
  rw [timeOf, UInt64.toNat_ofNat']
  omega

theorem toNat_add_skew {now : UInt64} (h : now.toNat + 60 < 2 ^ 64) :
    (now + IAT_SKEW_SECS).toNat = now.toNat + 60 := by
  rw [UInt64.toNat_add]
  exact Nat.mod_eq_of_lt h

/-- The difference that is printed is that of the two times. -/
theorem toNat_difference {s : Summary} (h : s.expired = decide (s.exp ≤ s.now)) :
    (s.difference.toNat : ℤ) = |(s.now.toNat : ℤ) - s.exp.toNat| := by
  unfold Summary.difference
  rw [h]
  by_cases hle : s.exp ≤ s.now
  · have hnat := UInt64.le_iff_toNat_le.mp hle
    rw [if_pos (decide_eq_true hle), UInt64.toNat_sub_of_le _ _ hle, abs_of_nonneg (by omega)]
    omega
  · have hlt := UInt64.lt_iff_toNat_lt.mp (UInt64.not_le.mp hle)
    have hge : s.now ≤ s.exp := UInt64.le_iff_toNat_le.mpr hlt.le
    rw [if_neg (by simpa using hle), UInt64.toNat_sub_of_le _ _ hge, abs_of_nonpos (by omega)]
    omega

/-- The claims of a token, judged at the time `now`. -/
def judgeClaims (X : ToolCrates) (args : VerifyPopArgs) (payload : Value) (alg kid iss : Text)
    (iat exp now : UInt64) : PopCommand Summary := do
  Command.ofExcept (Except.ensure (¬ now + IAT_SKEW_SECS < iat)
    (.notYetIssued (humanDuration (iat - now))))
  let expired := decide (exp ≤ now)
  Command.ofExcept (Except.ensure (¬ (expired = true ∧ args.allowExpired = false))
    (.expired (iso8601 X.toJoseCrates exp) (humanDuration (now - exp))))
  let nonce ← Command.ofExcept (jwtString payload "nonce" "payload")
  Command.ofExcept (checkNonce nonce args.nonce)
  return { alg, kid, iss, iat, exp, nonce, expired, now }

/-- A verification ends without telling a time, or reports what is right at the time of the clock,
which is the last thing that it has read. -/
def EndsRight (X : JoseCrates) (env : Env) (iat exp : UInt64)
    (r : Except VerifyPopError Summary × World) : Prop :=
  (∃ e, r.1 = .error e ∧ ¬ TellsTime e) ∨
    ∃ tick, r.2.tick = tick + 1 ∧ Reported X (timeOf env tick) iat exp r.1

theorem endsRight_error {X : JoseCrates} (e : VerifyPopError) (w : World) (h : ¬ TellsTime e) :
    EndsRight X env iat exp (.error e, w) := .inl ⟨e, rfl, h⟩

/-- The claims of a token are judged at the time that the clock tells. -/
theorem checkClaims_eq (constraint : Option Text) (payload : Value) (alg kid : Text) :
    checkClaims X env args constraint payload alg kid = (do
      let iss ← Command.ofExcept (jwtString payload "iss" "payload")
      Command.ofExcept (checkIss iss constraint)
      let iat ← Command.ofExcept (jwtU64 payload "iat")
      let exp ← Command.ofExcept (jwtU64 payload "exp")
      let now ← Os.unixSeconds env
      judgeClaims X args payload alg kid iss iat exp now) := rfl

/-- A token that is not issued yet is early by the difference of the two times. -/
theorem reported_notYetIssued {now : UInt64} (hskew : now.toNat + 60 < 2 ^ 64)
    (h : now + IAT_SKEW_SECS < iat) :
    Reported X.toJoseCrates now iat exp (.error (.notYetIssued (humanDuration (iat - now)))) := by
  have hlt := UInt64.lt_iff_toNat_lt.mp h
  rw [toNat_add_skew hskew] at hlt
  refine ⟨hlt, iat - now, ?_, rfl⟩
  rw [UInt64.toNat_sub_of_le _ _ (UInt64.le_iff_toNat_le.mpr (by omega))]
  omega

/-- A token has been expired for the difference of the two times. -/
theorem reported_expired {now : UInt64} (h : exp ≤ now) : Reported X.toJoseCrates now iat exp
    (.error (.expired (iso8601 X.toJoseCrates exp) (humanDuration (now - exp)))) := by
  have hle := UInt64.le_iff_toNat_le.mp h
  refine ⟨hle, rfl, now - exp, ?_, rfl⟩
  rw [UInt64.toNat_sub_of_le _ _ h]
  omega

/-- What is reported when the claims are judged at a time that leaves room for the skew. -/
theorem reported_judgeClaims {payload : Value} {alg kid iss : Text} {now : UInt64}
    (hskew : now.toNat + 60 < 2 ^ 64) :
    ∃ r, judgeClaims X args payload alg kid iss iat exp now w = (r, w) ∧
      Reported X.toJoseCrates now iat exp r := by
  unfold judgeClaims
  -- The claims are checked in this order: the issue time, the expiry, and then those that tell no
  -- time.
  by_cases hearly : now + IAT_SKEW_SECS < iat
  · refine ⟨_, ?_, reported_notYetIssued hskew hearly⟩
    rw [Except.ensure, if_neg (not_not.mpr hearly)]
    rfl
  rw [Command.bind_of_eq_ok (a := ()) (Command.ofExcept_eq_ok_iff.mpr
    ⟨Except.ensure_eq_ok_iff.mpr hearly, rfl⟩)]
  by_cases hlate : decide (exp ≤ now) = true ∧ args.allowExpired = false
  · refine ⟨_, ?_, reported_expired (of_decide_eq_true hlate.1)⟩
    rw [Except.ensure, if_neg (not_not.mpr hlate)]
    rfl
  rw [Command.bind_of_eq_ok (a := ()) (Command.ofExcept_eq_ok_iff.mpr
    ⟨Except.ensure_eq_ok_iff.mpr hlate, rfl⟩)]
  -- What is left to fail tells no time.
  cases hnonce : jwtString payload (Text.lit "nonce") (Text.lit "payload") with
  | error e => exact ⟨.error e, rfl, reported_error (timeless_jwtString _ _ _ e hnonce)⟩
  | ok nonce =>
    cases hexpected : checkNonce nonce args.nonce with
    | error e =>
      refine ⟨.error e, ?_, reported_error (timeless_checkNonce _ _ e hexpected)⟩
      show (Command.ofExcept (checkNonce nonce args.nonce) >>= _) w = _
      rw [hexpected]
      rfl
    | ok u =>
      -- All checks pass, and the summary has the times of the claims.
      refine ⟨.ok ⟨alg, kid, iss, iat, exp, nonce, decide (exp ≤ now), now⟩, ?_, rfl, rfl, rfl, ?_,
        ?_, toNat_difference rfl⟩
      · show (Command.ofExcept (checkNonce nonce args.nonce) >>= _) w = _
        rw [hexpected]
        rfl
      · rw [← toNat_add_skew hskew]
        exact UInt64.le_iff_toNat_le.mp (UInt64.not_lt.mp hearly)
      · rw [decide_eq_true_iff]
        exact UInt64.le_iff_toNat_le

/-- The claims of a token are checked at the time at which the clock is read. -/
theorem endsRight_checkClaims {constraint : Option Text} {payload : Value} {alg kid : Text}
    (hclock : ∀ tick, env.clock tick / 1000000000 < 2 ^ 63)
    (hiat : payload.get "iat" = some (.number (.posInt iat)))
    (hexp : payload.get "exp" = some (.number (.posInt exp))) :
    EndsRight X.toJoseCrates env iat exp
      (checkClaims X env args constraint payload alg kid w) := by
  rw [checkClaims_eq]
  refine Command.FailsWith.bind_end (.ofExcept (timeless_jwtString _ _ _)) endsRight_error ?_
  intro iss w₁ hiss
  obtain ⟨-, rfl⟩ := Command.ofExcept_eq_ok_iff.mp hiss
  refine Command.FailsWith.bind_end (.ofExcept (timeless_checkIss _ _)) endsRight_error ?_
  intro _ w₂ hconstraint
  obtain ⟨-, rfl⟩ := Command.ofExcept_eq_ok_iff.mp hconstraint
  rw [Command.bind_of_eq_ok (Command.ofExcept_eq_ok_iff.mpr ⟨jwtU64_eq_ok_iff.mpr hiat, rfl⟩),
    Command.bind_of_eq_ok (Command.ofExcept_eq_ok_iff.mpr ⟨jwtU64_eq_ok_iff.mpr hexp, rfl⟩),
    Command.bind_of_eq_ok (Os.unixSeconds_eq_ok_iff.mpr ⟨rfl, rfl⟩)]
  have hskew : (timeOf env w.tick).toNat + 60 < 2 ^ 64 := by
    have hlt := hclock w.tick
    rw [toNat_timeOf hlt]
    omega
  obtain ⟨r, hr, hreported⟩ :=
    @reported_judgeClaims X args w.ticked iat exp payload alg kid iss _ hskew
  exact .inr ⟨w.tick, congrArg (fun r => r.2.tick) hr, (congrArg Prod.fst hr) ▸ hreported⟩

/-- The token that is given to a verification has the claims `iat` and `exp`. -/
def Presents (X : ToolCrates) (env : Env) (args : VerifyPopArgs) (w : World) (iat exp : UInt64) :
    Prop :=
  ∃ jwtText w₁ jwt, readJwt env args w = (.ok jwtText, w₁) ∧ splitJwt X jwtText = .ok jwt ∧
    jwt.payload.get "iat" = some (.number (.posInt iat)) ∧
    jwt.payload.get "exp" = some (.number (.posInt exp))

/-- What a verification reports of times is right. -/
theorem endsRight_cmdVerifyPop (hclock : ∀ tick, env.clock tick / 1000000000 < 2 ^ 63)
    (h : Presents X env args w iat exp) :
    EndsRight X.toJoseCrates env iat exp (cmdVerifyPop X env args w) := by
  obtain ⟨jwtText, w₁, jwt, hread, hsplit, hiat, hexp⟩ := h
  unfold cmdVerifyPop
  rw [Command.bind_of_eq_ok hread,
    Command.bind_of_eq_ok (Command.ofExcept_eq_ok_iff.mpr ⟨hsplit, rfl⟩)]
  -- An error on the way to the claims tells no time.
  refine Command.FailsWith.bind_end (.ofExcept (timeless_headerAlg _)) endsRight_error ?_
  intro alg w₂ _
  refine Command.FailsWith.bind_end (.ofExcept (timeless_jwtString _ _ _)) endsRight_error ?_
  intro kid w₃ _
  refine Command.FailsWith.bind_end (.ofExcept (timeless_parseKid _)) endsRight_error ?_
  intro shape w₄ _
  refine Command.FailsWith.bind_end (timeless_resolveContext _ _) endsRight_error ?_
  intro context w₅ _
  refine Command.FailsWith.bind_end (.ofExcept (.ensure id)) endsRight_error ?_
  intro _ w₆ _
  refine Command.FailsWith.bind_end (.ofExcept (.mapError timeless_ofJws)) endsRight_error ?_
  intro _ w₇ _
  exact endsRight_checkClaims hclock hiat hexp

end Reports

/-! ## Exactness -/

section Exact

variable {X : ToolCrates} {env env' : Env} {args : CreatePopArgs} {vargs : VerifyPopArgs}
  {jwt : Text} {iat exp : UInt64} {w w₁ w₂ w₃ w' : World}

/-- A token expires when the lifetime `ttl` has passed since it was issued. -/
def CreatedExact (X : ToolCrates) (jwt : Text) (ttl : UInt64) : Prop :=
  ∃ parts iat exp, splitJwt X jwt = .ok parts ∧
    parts.payload.get "iat" = some (.number (.posInt iat)) ∧
    parts.payload.get "exp" = some (.number (.posInt exp)) ∧
    exp.toNat = iat.toNat + ttl.toNat

/-- What a creation does before it reads the clock. -/
theorem exists_of_cmdCreatePop (h : cmdCreatePop X env args w = (.ok jwt, w')) :
    ∃ entry kid signer nonce w₁ w₂ w₃, resolveEntry X env args.did w = (.ok entry, w₁) ∧
      resolveRole X env entry args.role args.version w₁ = (.ok (kid, signer), w₂) ∧
      (chooseNonce env args.nonce : CreatePopCommand Text) w₂ = (.ok nonce, w₃) := by
  unfold cmdCreatePop at h
  simp only [Command.bind_eq_ok_iff, Command.ofExcept_eq_ok_iff, Except.ensure_eq_ok_iff,
    Command.mapError_eq_ok_iff] at h
  obtain ⟨_, _, ⟨-, rfl⟩, _, _, ⟨-, rfl⟩, entry, w₁, hentry, ⟨kid, signer⟩, w₂, hrole, nonce, w₃,
    hnonce, -⟩ := h
  exact ⟨entry, kid, signer, nonce, w₁, w₂, w₃, hentry, hrole, hnonce⟩

/-- A token that is created says its times right just when its expiry fits. -/
theorem createdExact_iff {entry : KeyStoreEntry} {kid nonce : Text} {signer : Signer}
    (hentry : resolveEntry X env args.did w = (.ok entry, w₁))
    (hrole : resolveRole X env entry args.role args.version w₁ = (.ok (kid, signer), w₂))
    (hnonce : (chooseNonce env args.nonce : CreatePopCommand Text) w₂ = (.ok nonce, w₃))
    (h : cmdCreatePop X env args w = (.ok jwt, w')) :
    CreatedExact X jwt args.ttl ↔ (timeOf env w₃.tick).toNat + args.ttl.toNat < 2 ^ 64 := by
  -- The times in the token are now and now plus the lifetime.
  obtain ⟨signature, hjwt⟩ : ∃ signature, jwt = compactJwt X.toCrates (popHeader signer.alg kid)
      (popPayload entry.did (timeOf env w₃.tick) (timeOf env w₃.tick + args.ttl) nonce)
      signature := by
    unfold cmdCreatePop at h
    simp only [Command.bind_eq_ok_iff, Command.ofExcept_eq_ok_iff, Except.ensure_eq_ok_iff,
      Command.mapError_eq_ok_iff, Os.unixSeconds_eq_ok_iff, Command.pure_eq_ok_iff] at h
    obtain ⟨_, _, ⟨-, rfl⟩, _, _, ⟨-, rfl⟩, _, _, hentry', _, _, hrole', _, _, hnonce', _, _,
      ⟨rfl, rfl⟩, _, _, -, rfl, -⟩ := h
    cases hentry.symm.trans hentry'
    cases hrole.symm.trans hrole'
    cases hnonce.symm.trans hnonce'
    exact ⟨_, rfl⟩
  have hsplit := splitJwt_compactJwt (X := X) signer.alg kid entry.did (timeOf env w₃.tick)
    (timeOf env w₃.tick + args.ttl) nonce signature
  have hget := get_popPayload entry.did (timeOf env w₃.tick) (timeOf env w₃.tick + args.ttl) nonce
  -- The expiry is exact when the sum of `u64`s is that of the numbers.
  have hexp : CreatedExact X jwt args.ttl ↔ (timeOf env w₃.tick + args.ttl).toNat =
      (timeOf env w₃.tick).toNat + args.ttl.toNat := by
    constructor
    · rintro ⟨parts, iat, exp, hparts, hiat, hexp, hsum⟩
      rw [hjwt, hsplit] at hparts
      obtain rfl := Except.ok.inj hparts
      rw [hget.2.1] at hiat
      rw [hget.2.2.1] at hexp
      cases hiat
      cases hexp
      exact hsum
    · intro hsum
      exact ⟨_, _, _, hjwt ▸ hsplit, hget.2.1, hget.2.2.1, hsum⟩
  have hadd := UInt64.toNat_add (timeOf env w₃.tick) args.ttl
  rw [hexp, hadd]
  constructor
  · intro hsum
    rw [← hsum]
    exact Nat.mod_lt _ (by decide)
  · exact Nat.mod_eq_of_lt

/-- The times of the token `jwt` that is created with the lifetime `ttl`, and those of a token with
the claims `iat` and `exp` that is verified, are told right. -/
structure TimesExact (X : ToolCrates) (jwt : Text) (ttl : UInt64) (env : Env)
    (args : VerifyPopArgs) (w : World) (iat exp : UInt64) : Prop where
  /-- The new token expires when its lifetime has passed. -/
  created : CreatedExact X jwt ttl
  /-- The differences that are reported are those of the times. -/
  reported : EndsRight X.toJoseCrates env iat exp (cmdVerifyPop X env args w)
  /-- The time of issue is printed as itself. -/
  iat : Rendered X.toJoseCrates iat
  /-- The time of expiry is printed as itself. -/
  exp : Rendered X.toJoseCrates exp

/-- Before the year 292277026596, times are told right just when the expiry of the new token fits
into 64 bits, and the times that are verified are not printed as dates before 1970. -/
theorem timesExact_iff (hX : X.RendersDates) (hclock : ∀ tick, env.clock tick / 1000000000 < 2 ^ 63)
    (hclock' : ∀ tick, env'.clock tick / 1000000000 < 2 ^ 63)
    {entry : KeyStoreEntry} {kid nonce : Text} {signer : Signer}
    (hentry : resolveEntry X env args.did w = (.ok entry, w₁))
    (hrole : resolveRole X env entry args.role args.version w₁ = (.ok (kid, signer), w₂))
    (hnonce : (chooseNonce env args.nonce : CreatePopCommand Text) w₂ = (.ok nonce, w₃))
    (hcreate : cmdCreatePop X env args w = (.ok jwt, w'))
    {wv : World} (hpresents : Presents X env' vargs wv iat exp) :
    TimesExact X jwt args.ttl env' vargs wv iat exp ↔
      (env.clock w₃.tick / 1000000000).toNat + args.ttl.toNat < 2 ^ 64 ∧
        Renderable X.toJoseCrates iat ∧ Renderable X.toJoseCrates exp := by
  have hcreated := createdExact_iff hentry hrole hnonce hcreate
  rw [toNat_timeOf (hclock _)] at hcreated
  constructor
  · intro h
    exact ⟨hcreated.mp h.created, (rendered_iff hX).mp h.iat, (rendered_iff hX).mp h.exp⟩
  · rintro ⟨hfits, hiat, hexp⟩
    exact ⟨hcreated.mpr hfits, endsRight_cmdVerifyPop hclock' hpresents, (rendered_iff hX).mpr hiat,
      (rendered_iff hX).mpr hexp⟩

end Exact

end Pop

namespace Sample

open Pop

/-- The signature of the token whose expiry has wrapped. -/
def wrappedSignature : FixedBytes 64 :=
  signatureOf 0xc3df7fcbb4551897db11bfd20c7756efbc0b9b4255054346bfaaa9ae13c5d9b8
    0xf56676528a6c834bce67e9043d393f8dcdbe436f16a3906553d4c255de9f1570

/-- The signature of a message. -/
def datedSignature (message : Bytes) : FixedBytes 64 :=
  if fingerprint message = 6155 then wrappedSignature else toolSignature message

/-- Dates, one of them before 1970. -/
def dates : List (ℤ × Text) := [
  (1735800000, "2025-01-02T06:40:00Z"),
  (1735800300, "2025-01-02T06:45:00Z"),
  (-1, "1969-12-31T23:59:59Z")]

/-- Crates that write these dates. -/
def datedCrates : ToolCrates := { toolCrates with
  p256Sign := fun _ => datedSignature
  p256Verify := fun _ message signature => signature = datedSignature message
  rfc3339 := fun t => dates.lookup t }

theorem rendersDates_datedCrates : datedCrates.RendersDates where
  colon {t date} h := by
    obtain ⟨before, after, hdates, -⟩ := List.lookup_eq_some_iff.mp h
    have hmem : (t, date) ∈ dates := hdates ▸ List.mem_append_right _ List.mem_cons_self
    have hall : ∀ p ∈ dates, ':' ∈ p.2 := by decide +kernel
    exact hall _ hmem
  injective {t t' date} h h' := by
    have hmem : ∀ {t : ℤ}, datedCrates.rfc3339 t = some date → (t, date) ∈ dates := by
      intro t h
      obtain ⟨before, after, hdates, -⟩ := List.lookup_eq_some_iff.mp h
      exact hdates ▸ List.mem_append_right _ List.mem_cons_self
    have hall : ∀ p ∈ dates, ∀ q ∈ dates, p.2 = q.2 → p.1 = q.1 := by decide +kernel
    exact hall _ (hmem h) _ (hmem h') rfl

/-- A token of the sample DID. -/
def datedArgs (ttl : UInt64) : CreatePopArgs :=
  { did := toolDid.toText, role := .authentication, nonce := some "n", ttl }

theorem cmdCreatePop_dated :
    (cmdCreatePop datedCrates (toolEnv 1735800000) (datedArgs 300) createdWorld).1 =
        .ok popToken ∧
      (cmdCreatePop datedCrates (toolEnv 1735800000) (datedArgs (2 ^ 64 - 1))
        createdWorld).1.toOption.isSome = true := by
  decide +kernel

theorem presents_popToken (second : ℤ) : Presents datedCrates (toolEnv second) popArgs createdWorld
    1735800000 1735800300 := by
  have hsplit := splitJwt_compactJwt (X := datedCrates) "ES256"
    (toolDid.toText ++ "#authentication-key-01") toolDid.toText 1735800000 1735800300 "n"
    popSignature
  have hread : readJwt (toolEnv second) popArgs createdWorld = (.ok popToken, createdWorld) :=
    readJwt_eq_ok_iff.mpr (.inl ⟨popToken, rfl, rfl, trim_compactJwt _ _ _ _, rfl⟩)
  have hget := get_popPayload toolDid.toText 1735800000 1735800300 "n"
  exact ⟨popToken, createdWorld, _, hread, hsplit, hget.2.1, hget.2.2.1⟩

/-- The times of the sample token are told right, and it can be created. -/
theorem timesExact_popToken :
    TimesExact datedCrates popToken 300 (toolEnv 1735800100) popArgs createdWorld 1735800000
      1735800300 := by
  have hcreate := Command.eq_ok_of_fst_eq cmdCreatePop_dated.1
  obtain ⟨entry, kid, signer, nonce, w₁, w₂, w₃, hentry, hrole, hnonce⟩ :=
    exists_of_cmdCreatePop hcreate
  have hclock : ∀ tick, (toolEnv 1735800000).clock tick / 1000000000 < 2 ^ 63 := by
    intro tick
    show (1735800000 * 1000000000 : ℤ) / 1000000000 < 2 ^ 63
    decide
  have hclock' : ∀ tick, (toolEnv 1735800100).clock tick / 1000000000 < 2 ^ 63 := by
    intro tick
    show (1735800100 * 1000000000 : ℤ) / 1000000000 < 2 ^ 63
    decide
  refine (timesExact_iff rendersDates_datedCrates hclock hclock' hentry hrole hnonce hcreate
    (presents_popToken 1735800100)).mpr ⟨?_, .inl (by decide), .inl (by decide)⟩
  show ((1735800000 * 1000000000 : ℤ) / 1000000000).toNat + 300 < 2 ^ 64
  decide

/-- A token with the longest lifetime is created, but has expired when it is issued; and the last
second that there is is printed as one before 1970. -/
theorem not_timesExact_wrapped :
    (∃ jwt w', cmdCreatePop datedCrates (toolEnv 1735800000) (datedArgs (2 ^ 64 - 1)) createdWorld =
        (.ok jwt, w') ∧ ¬ CreatedExact datedCrates jwt (2 ^ 64 - 1)) ∧
      iso8601 datedCrates.toJoseCrates (2 ^ 64 - 1) = Text.lit "1969-12-31T23:59:59Z" ∧
      ¬ Rendered datedCrates.toJoseCrates (2 ^ 64 - 1) := by
  refine ⟨?_, by decide +kernel, ?_⟩
  · obtain ⟨jwt, hjwt⟩ := Option.isSome_iff_exists.mp cmdCreatePop_dated.2
    have hcreate := Command.eq_ok_of_fst_eq (Except.toOption_eq_some_iff.mp hjwt)
    obtain ⟨entry, kid, signer, nonce, w₁, w₂, w₃, hentry, hrole, hnonce⟩ :=
      exists_of_cmdCreatePop hcreate
    refine ⟨jwt, _, hcreate, fun hexact => ?_⟩
    have hfits := (createdExact_iff hentry hrole hnonce hcreate).mp hexact
    change (UInt64.ofNat ((1735800000 * 1000000000 : ℤ) / 1000000000).toNat).toNat +
      (2 ^ 64 - 1 : UInt64).toNat < 2 ^ 64 at hfits
    exact absurd hfits (by decide +kernel)
  · rw [rendered_iff rendersDates_datedCrates]
    intro hrenderable
    rcases hrenderable with hlow | hnone
    · exact absurd hlow (by decide +kernel)
    · exact absurd hnone (by decide +kernel)

end Sample

end Swiyu
