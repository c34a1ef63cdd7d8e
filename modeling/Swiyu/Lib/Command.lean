import Swiyu.Lib.Exec

/-!
# Commands

A command runs on a state and ends in a result or an error; either way it leaves a state behind.

## Main definitions

- `Command`: commands, a monad.
- `Command.Triple`: what a command started in a state ends in.
- `Command.Determined`: a command keeps an invariant, and its result depends on nothing else.
- `Command.Respects`: a command started in related states ends in the same result.
- `Command.Keeps`: a command leaves a part of the state as it is.
- `Command.FailsWith`: what the errors of a command satisfy.

## Main results

- `Command.bind_eq_ok_iff`: the steps of a command that succeeds.
- `Command.Triple.bind`: the rule of sequences.
-/

/-- A computation on a state that may fail; a failure keeps the state reached. -/
def Command (σ ε α : Type) : Type := σ → Except ε α × σ

namespace Command

variable {σ ε ε' α β : Type}

instance : Monad (Command σ ε) where
  pure a := fun s => (.ok a, s)
  bind x f := fun s => match x s with
    | (.ok a, s') => f a s'
    | (.error e, s') => (.error e, s')

/-- A computation that does not look at the state. -/
def ofExcept (x : Except ε α) : Command σ ε α := fun s => (x, s)

instance : MonadLift (Except ε) (Command σ ε) := ⟨ofExcept⟩

/-- Fails with `e`. -/
def fail (e : ε) : Command σ ε α := fun s => (.error e, s)

/-- Reads from the state. -/
def read (f : σ → α) : Command σ ε α := fun s => (.ok (f s), s)

/-- Changes the state. -/
def update (f : σ → σ) : Command σ ε Unit := fun s => (.ok (), f s)

/-- Translates the error of a command. -/
def mapError (f : ε → ε') (x : Command σ ε α) : Command σ ε' α := fun s =>
  ((x s).1.mapError f, (x s).2)

/-- Goes on after a failure, in the state that it left. -/
def orElse (x : Command σ ε α) (f : ε → Command σ ε' α) : Command σ ε' α := fun s =>
  match x s with
  | (.ok a, s') => (.ok a, s')
  | (.error e, s') => f e s'

/-- The state in which a command ends. -/
def after (x : Command σ ε α) (s : σ) : σ := (x s).2

/-- The result that is stored in the state, or else that of `x`, which is then stored. -/
def memo (get : σ → Option α) (store : α → σ → σ) (x : Command σ ε α) : Command σ ε α := do
  match ← read get with
  | some a => return a
  | none => do
    let a ← x
    update (store a)
    return a

theorem memo_apply (get : σ → Option α) (store : α → σ → σ) (x : Command σ ε α) (s : σ) :
    memo get store x s = match get s with
      | some a => (.ok a, s)
      | none => match x s with
        | (.ok a, s') => (.ok a, store a s')
        | (.error e, s') => (.error e, s') := by
  simp only [memo, bind, read]
  cases get s with
  | some a => rfl
  | none =>
    dsimp only
    rcases x s with ⟨e | a, s'⟩ <;> rfl

/-! ## Success -/

section Ok

variable {s s' : σ} {a b : α} {e : ε}

@[simp]
theorem pure_eq_ok_iff : (pure a : Command σ ε α) s = (.ok b, s') ↔ a = b ∧ s = s' := by
  simp [pure]

@[simp]
theorem ofExcept_eq_ok_iff {x : Except ε α} :
    (ofExcept x : Command σ ε α) s = (.ok b, s') ↔ x = .ok b ∧ s = s' := by
  simp [ofExcept]

@[simp]
theorem liftM_eq_ok_iff {x : Except ε α} :
    (liftM x : Command σ ε α) s = (.ok b, s') ↔ x = .ok b ∧ s = s' :=
  ofExcept_eq_ok_iff

@[simp]
theorem fail_ne_ok : (fail e : Command σ ε α) s ≠ (.ok b, s') := by
  simp [fail]

@[simp]
theorem read_eq_ok_iff {f : σ → α} :
    (read f : Command σ ε α) s = (.ok b, s') ↔ f s = b ∧ s = s' := by
  simp [read]

@[simp]
theorem update_eq_ok_iff {f : σ → σ} {u : Unit} :
    (update f : Command σ ε Unit) s = (.ok u, s') ↔ f s = s' := by
  simp [update]

@[simp]
theorem mapError_eq_ok_iff {f : ε → ε'} {x : Command σ ε α} :
    mapError f x s = (.ok b, s') ↔ x s = (.ok b, s') := by
  rw [mapError]
  rcases x s with ⟨_ | _, _⟩ <;> simp [Except.mapError]

/-- A sequence of two commands succeeds when the first one does, and then the second. -/
@[simp]
theorem bind_eq_ok_iff {x : Command σ ε α} {f : α → Command σ ε β} {b : β} :
    (x >>= f) s = (.ok b, s') ↔ ∃ a s₁, x s = (.ok a, s₁) ∧ f a s₁ = (.ok b, s') := by
  simp only [bind]
  rcases x s with ⟨_ | a, s₁⟩
  · simp
  · constructor
    · intro h
      exact ⟨a, s₁, rfl, h⟩
    · rintro ⟨_, _, ⟨rfl, rfl⟩, h⟩
      exact h

/-- After a command that succeeds the second one is run. -/
theorem bind_of_eq_ok {x : Command σ ε α} {f : α → Command σ ε β} (h : x s = (.ok a, s')) :
    (x >>= f) s = f a s' := by
  simp only [bind, h]

@[simp]
theorem ite_fail_eq_ok_iff {c : Prop} [Decidable c] {x : Command σ ε α} :
    (if c then fail e else x) s = (.ok b, s') ↔ ¬ c ∧ x s = (.ok b, s') := by
  by_cases h : c <;> simp [h]

end Ok

/-- A command whose result is `a` ends in `a` and the state that it leaves. -/
theorem eq_ok_of_fst_eq {σ ε α : Type} {x : Command σ ε α} {s : σ} {a : α}
    (h : (x s).1 = .ok a) : x s = (.ok a, (x s).2) :=
  Prod.ext h rfl

theorem eq_ok_after {σ ε α : Type} {x : Command σ ε α} {s : σ} {a : α} (h : (x s).1 = .ok a) :
    x s = (.ok a, x.after s) :=
  Prod.ext h rfl

/-! ## Triples -/

/-- Started in `s`, a command ends in a result and a state that satisfy `Q`, or in an error and a
state that satisfies `E`. -/
def Triple (s : σ) (x : Command σ ε α) (Q : α → σ → Prop) (E : σ → Prop) : Prop :=
  (∀ a s', x s = (.ok a, s') → Q a s') ∧ ∀ e s', x s = (.error e, s') → E s'

namespace Triple

variable {s : σ} {x : Command σ ε α} {Q Q' : α → σ → Prop} {E E' : σ → Prop}

/-- What is known of the end may be weakened. -/
theorem mono (h : Triple s x Q E) (hQ : ∀ a s', Q a s' → Q' a s') (hE : ∀ s', E s' → E' s') :
    Triple s x Q' E' :=
  ⟨fun a s' hx => hQ a s' (h.1 a s' hx), fun e s' hx => hE s' (h.2 e s' hx)⟩

theorem pure {a : α} (h : Q a s) : Triple s (Pure.pure a : Command σ ε α) Q E := by
  refine ⟨fun b s' hx => ?_, fun e s' hx => ?_⟩
  · cases hx
    exact h
  · cases hx

theorem ofExcept {y : Except ε α} (h : ∀ a, y = .ok a → Q a s) (hE : ∀ e, y = .error e → E s) :
    Triple s (Command.ofExcept y : Command σ ε α) Q E := by
  refine ⟨fun a s' hx => ?_, fun e s' hx => ?_⟩
  · obtain ⟨rfl, rfl⟩ := Prod.mk.inj hx
    exact h a rfl
  · obtain ⟨rfl, rfl⟩ := Prod.mk.inj hx
    exact hE e rfl

theorem fail {e : ε} (hE : E s) : Triple s (Command.fail e : Command σ ε α) Q E := by
  refine ⟨fun a s' hx => ?_, fun e' s' hx => ?_⟩
  · cases hx
  · cases hx
    exact hE

theorem read {f : σ → α} (h : Q (f s) s) : Triple s (Command.read f : Command σ ε α) Q E := by
  refine ⟨fun a s' hx => ?_, fun e s' hx => ?_⟩
  · cases hx
    exact h
  · cases hx

theorem update {f : σ → σ} {Q : Unit → σ → Prop} (h : Q () (f s)) :
    Triple s (Command.update f : Command σ ε Unit) Q E := by
  refine ⟨fun a s' hx => ?_, fun e s' hx => ?_⟩
  · cases hx
    exact h
  · cases hx

theorem mapError {f : ε → ε'} (h : Triple s x Q E) : Triple s (Command.mapError f x) Q E := by
  rw [Triple] at h ⊢
  simp only [Command.mapError]
  rcases hxs : x s with ⟨e | a, s'⟩
  · refine ⟨fun b s₁ hx => ?_, fun e' s₁ hx => ?_⟩
    · cases hx
    · cases hx
      exact h.2 e s' hxs
  · refine ⟨fun b s₁ hx => ?_, fun e' s₁ hx => ?_⟩
    · cases hx
      exact h.1 a s' hxs
    · cases hx

/-- The second command starts where the first one ends. -/
theorem bind {f : α → Command σ ε β} {R : β → σ → Prop} (hx : Triple s x Q E)
    (hf : ∀ a s', Q a s' → Triple s' (f a) R E) : Triple s (x >>= f) R E := by
  rw [Triple]
  simp only [Bind.bind]
  rcases hxs : x s with ⟨e | a, s'⟩
  · refine ⟨fun b s₁ h => ?_, fun e' s₁ h => ?_⟩
    · cases h
    · cases h
      exact hx.2 e s' hxs
  · exact hf a s' (hx.1 a s' hxs)

theorem ite {c : Prop} [Decidable c] {y : Command σ ε α} (hx : c → Triple s x Q E)
    (hy : ¬ c → Triple s y Q E) : Triple s (if c then x else y) Q E := by
  by_cases h : c
  · rw [if_pos h]
    exact hx h
  · rw [if_neg h]
    exact hy h

/-- What is done after a failure starts where the failure has left off. -/
theorem orElse {f : ε → Command σ ε' α} (hx : Triple s x Q E)
    (hf : ∀ e s', E s' → Triple s' (f e) Q E') : Triple s (x.orElse f) Q E' := by
  rw [Triple]
  simp only [Command.orElse]
  rcases hxs : x s with ⟨e | a, s'⟩
  · exact hf e s' (hx.2 e s' hxs)
  · refine ⟨fun b s₁ h => ?_, fun e' s₁ h => ?_⟩
    · cases h
      exact hx.1 a s' hxs
    · cases h

/-- What holds of either end holds of the state left. -/
theorem state {I : σ → Prop} (h : Triple s x (fun _ s' => I s') I) : I (x s).2 := by
  rcases hxs : x s with ⟨e | a, s'⟩
  · exact h.2 e s' hxs
  · exact h.1 a s' hxs

end Triple

/-! ## Determined results -/

/-- The command keeps `I`, and its result is the same from every state where `I` holds. -/
def Determined (I : σ → Prop) (x : Command σ ε α) : Prop :=
  (∀ s, I s → I (x s).2) ∧ ∀ s s', I s → I s' → (x s).1 = (x s').1

namespace Determined

variable {I : σ → Prop} {x : Command σ ε α}

theorem pure {a : α} : Determined I (Pure.pure a : Command σ ε α) :=
  ⟨fun _ hs => hs, fun _ _ _ _ => rfl⟩

theorem ofExcept {y : Except ε α} : Determined I (Command.ofExcept y : Command σ ε α) :=
  ⟨fun _ hs => hs, fun _ _ _ _ => rfl⟩

theorem fail {e : ε} : Determined I (Command.fail e : Command σ ε α) :=
  ⟨fun _ hs => hs, fun _ _ _ _ => rfl⟩

theorem read {f : σ → α} (h : ∀ s s', I s → I s' → f s = f s') :
    Determined I (Command.read f : Command σ ε α) :=
  ⟨fun _ hs => hs, fun s s' hs hs' => congrArg Except.ok (h s s' hs hs')⟩

/-- When both commands are determined, so is their sequence. -/
theorem bind {f : α → Command σ ε β} (hx : Determined I x) (hf : ∀ a, Determined I (f a)) :
    Determined I (x >>= f) := by
  have hstep : ∀ s, (x >>= f) s = match x s with
      | (.ok a, s') => f a s'
      | (.error e, s') => (.error e, s') := fun _ => rfl
  refine ⟨fun s hs => ?_, fun s s' hs hs' => ?_⟩
  · have hI := hx.1 s hs
    rw [hstep]
    rcases hxs : x s with ⟨e | a, s₁⟩
    · rwa [hxs] at hI
    · rw [hxs] at hI
      exact (hf a).1 s₁ hI
  · have hsame := hx.2 s s' hs hs'
    have hI := hx.1 s hs
    have hI' := hx.1 s' hs'
    rw [hstep, hstep]
    rcases hxs : x s with ⟨e | a, s₁⟩ <;> rcases hxs' : x s' with ⟨e' | a', s₁'⟩ <;>
      rw [hxs, hxs'] at hsame <;> cases hsame
    · rfl
    · rw [hxs] at hI
      rw [hxs'] at hI'
      exact (hf a).2 s₁ s₁' hI hI'

theorem ite {c : Prop} [Decidable c] {y : Command σ ε α} (hx : Determined I x)
    (hy : Determined I y) : Determined I (if c then x else y) := by
  by_cases h : c
  · rwa [if_pos h]
  · rwa [if_neg h]

/-- A memoised command is determined when what has been stored is what it results in. -/
theorem memo {get : σ → Option α} {store : α → σ → σ} {s₀ : σ} (hx : Determined I x) (h₀ : I s₀)
    (hget : ∀ s a, I s → get s = some a → (x s₀).1 = .ok a)
    (hstore : ∀ s a, I s → (x s₀).1 = .ok a → I (store a s)) :
    Determined I (memo get store x) := by
  -- From any state the result is that from `s₀`.
  have hmemo : ∀ s, I s → (Command.memo get store x s).1 = (x s₀).1 ∧
      I (Command.memo get store x s).2 := by
    intro s hs
    rw [memo_apply]
    cases hcached : get s with
    | some a => exact ⟨(hget s a hs hcached).symm, hs⟩
    | none =>
      have hsame := hx.2 s s₀ hs h₀
      have hI := hx.1 s hs
      rcases hxs : x s with ⟨e | a, s'⟩
      · rw [hxs] at hsame hI
        exact ⟨hsame, hI⟩
      · rw [hxs] at hsame hI
        exact ⟨hsame, hstore s' a hI hsame.symm⟩
  exact ⟨fun s hs => (hmemo s hs).2, fun s s' hs hs' => (hmemo s hs).1.trans (hmemo s' hs').1.symm⟩

end Determined

/-! ## Related states -/

/-- Started in states related by `R`, the command has the same result, and a success with `a` leaves
states related by `Q a`. -/
def Respects (R : σ → σ → Prop) (x : Command σ ε α) (Q : α → σ → σ → Prop) : Prop :=
  ∀ s s', R s s' → (x s).1 = (x s').1 ∧ ∀ a, (x s).1 = .ok a → Q a (x s).2 (x s').2

namespace Respects

variable {R : σ → σ → Prop} {x : Command σ ε α} {Q : α → σ → σ → Prop}

theorem pure {a : α} (h : ∀ s s', R s s' → Q a s s') :
    Respects R (Pure.pure a : Command σ ε α) Q := by
  intro s s' hs
  refine ⟨rfl, fun b hb => ?_⟩
  obtain rfl := Except.ok.inj hb
  exact h s s' hs

theorem ofExcept {y : Except ε α} (h : ∀ a s s', y = .ok a → R s s' → Q a s s') :
    Respects R (Command.ofExcept y : Command σ ε α) Q :=
  fun s s' hs => ⟨rfl, fun a ha => h a s s' ha hs⟩

theorem fail {e : ε} : Respects R (Command.fail e : Command σ ε α) Q :=
  fun _ _ _ => ⟨rfl, fun _ h => by cases h⟩

theorem read {f : σ → α} (h : ∀ s s', R s s' → f s = f s' ∧ Q (f s) s s') :
    Respects R (Command.read f : Command σ ε α) Q := by
  intro s s' hs
  refine ⟨congrArg Except.ok (h s s' hs).1, fun a ha => ?_⟩
  obtain rfl := Except.ok.inj ha
  exact (h s s' hs).2

theorem mapError {f : ε → ε'} (h : Respects R x Q) : Respects R (Command.mapError f x) Q := by
  intro s s' hs
  obtain ⟨hsame, hend⟩ := h s s' hs
  refine ⟨congrArg (Except.mapError f) hsame, fun a ha => ?_⟩
  have hx : x s = (.ok a, (x s).2) := mapError_eq_ok_iff.mp (Prod.ext ha rfl)
  exact hend a (congrArg Prod.fst hx)

/-- In a sequence, the second command starts in the states that the first one leaves. -/
theorem bind {f : α → Command σ ε β} {Q' : β → σ → σ → Prop} (hx : Respects R x Q)
    (hf : ∀ a, Respects (Q a) (f a) Q') : Respects R (x >>= f) Q' := by
  intro s s' hs
  obtain ⟨hsame, hend⟩ := hx s s' hs
  simp only [Bind.bind]
  rcases hxs : x s with ⟨e | a, s₁⟩ <;> rcases hxs' : x s' with ⟨e' | a', s₁'⟩ <;>
    rw [hxs, hxs'] at hsame <;> cases hsame
  · exact ⟨rfl, fun _ h => by cases h⟩
  · rw [hxs, hxs'] at hend
    exact hf a s₁ s₁' (hend a rfl)

theorem ite {c : Prop} [Decidable c] {y : Command σ ε α} (hx : c → Respects R x Q)
    (hy : ¬ c → Respects R y Q) : Respects R (if c then x else y) Q := by
  by_cases h : c
  · rw [if_pos h]
    exact hx h
  · rw [if_neg h]
    exact hy h

end Respects

/-! ## Frames -/

/-- The command leaves the part `f` of the state as it is. -/
def Keeps {γ : Type} (f : σ → γ) (x : Command σ ε α) : Prop := ∀ s, f (x s).2 = f s

namespace Keeps

variable {γ : Type} {f : σ → γ} {x : Command σ ε α}

theorem pure {a : α} : Keeps f (Pure.pure a : Command σ ε α) := fun _ => rfl

theorem ofExcept {y : Except ε α} : Keeps f (Command.ofExcept y : Command σ ε α) := fun _ => rfl

theorem fail {e : ε} : Keeps f (Command.fail e : Command σ ε α) := fun _ => rfl

theorem read {g : σ → α} : Keeps f (Command.read g : Command σ ε α) := fun _ => rfl

theorem update {g : σ → σ} (h : ∀ s, f (g s) = f s) :
    Keeps f (Command.update g : Command σ ε Unit) :=
  h

theorem mapError {g : ε → ε'} (h : Keeps f x) : Keeps f (Command.mapError g x) := h

/-- What both commands keep their sequence keeps. -/
theorem bind {g : α → Command σ ε β} (hx : Keeps f x) (hg : ∀ a, Keeps f (g a)) :
    Keeps f (x >>= g) := by
  intro s
  have hs := hx s
  simp only [Bind.bind]
  rcases hxs : x s with ⟨e | a, s'⟩
  · rwa [hxs] at hs
  · rw [hxs] at hs
    exact (hg a s').trans hs

theorem orElse {g : ε → Command σ ε' α} (hx : Keeps f x) (hg : ∀ e, Keeps f (g e)) :
    Keeps f (x.orElse g) := by
  intro s
  have hs := hx s
  simp only [Command.orElse]
  rcases hxs : x s with ⟨e | a, s'⟩
  · rw [hxs] at hs
    exact (hg e s').trans hs
  · rwa [hxs] at hs

theorem ite {c : Prop} [Decidable c] {y : Command σ ε α} (hx : Keeps f x) (hy : Keeps f y) :
    Keeps f (if c then x else y) := by
  by_cases h : c
  · rwa [if_pos h]
  · rwa [if_neg h]

/-- The state that a command reaches has the same part `f`. -/
theorem eq (h : Keeps f x) {s s' : σ} {r : Except ε α} (hx : x s = (r, s')) : f s' = f s := by
  have hs := h s
  rwa [hx] at hs

end Keeps

/-! ## Failure -/

/-- The errors of a command satisfy `p`. -/
def FailsWith (p : ε → Prop) (x : Command σ ε α) : Prop := ∀ s, Except.FailsWith p (x s).1

namespace FailsWith

variable {p : ε → Prop} {x : Command σ ε α}

theorem pure {a : α} : FailsWith p (Pure.pure a : Command σ ε α) := fun _ => .ok

theorem ofExcept {y : Except ε α} (h : Except.FailsWith p y) :
    FailsWith p (Command.ofExcept y : Command σ ε α) := fun _ => h

theorem fail {e : ε} (h : p e) : FailsWith p (Command.fail e : Command σ ε α) := fun _ => .error h

theorem mapError {f : ε' → ε} {x : Command σ ε' α} (h : ∀ e, p (f e)) :
    FailsWith p (Command.mapError f x) := fun _ => .mapError h

theorem ite {c : Prop} [Decidable c] {y : Command σ ε α} (hx : FailsWith p x)
    (hy : FailsWith p y) : FailsWith p (if c then x else y) := by
  by_cases h : c
  · rwa [if_pos h]
  · rwa [if_neg h]

/-- What a sequence ends in is an error of its first step, or else what the second step ends in. -/
theorem bind_end {f : α → Command σ ε β} {s : σ} {P : Except ε β × σ → Prop} (hx : FailsWith p x)
    (herror : ∀ e s', p e → P (.error e, s')) (hf : ∀ a s', x s = (.ok a, s') → P (f a s')) :
    P ((x >>= f) s) := by
  simp only [Bind.bind]
  have hs := hx s
  rcases hxs : x s with ⟨e | a, s'⟩
  · rw [hxs] at hs
    exact herror e s' (hs e rfl)
  · exact hf a s' hxs

/-- An error of a sequence is one of its steps. -/
theorem bind {f : α → Command σ ε β} (hx : FailsWith p x) (hf : ∀ a, FailsWith p (f a)) :
    FailsWith p (x >>= f) := by
  intro s
  refine hx.bind_end (P := fun r => Except.FailsWith p r.1) (fun e s' he => ?_) fun a s' _ => ?_
  · exact .error he
  · exact hf a s'

end FailsWith

end Command
