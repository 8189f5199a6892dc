import RemoteLink.Library.Runs
import Mathlib.Logic.Relation

set_option autoImplicit false

/-!
# Programs that interact with a world

A program performs operations and continues with their answers. A machine says what an operation
does to a world, given what its surroundings answer, and how the world changes by itself between
two operations. Together they run as a transition system with one step for each operation and each
change.

A loop of the source is unfolded to a finite depth: the program ends in `stop` there. The runs of
all unfoldings are all finite runs of the loop.

## Main definitions

* `Prog` — a program over operations `o : Op` with answers in `Ans o`.
* `Machine` — the meaning of operations, and the changes of the world between them.
* `Machine.system` — the transition system of a set of programs.
* `Contract` — what may be assumed of every answer and must hold at every operation.
* `Safe`, `Meets` — a program respects a contract and establishes a postcondition.
* `Spec` — the same for a program that returns a result or an error.

## Main results

* `Safe.bind`, `Spec.bind` — the rules of sequencing.
* `Meets.perform`, `Spec.call` — the rules of one operation.
* `Machine.invariant` — what the required operations keep holds in every run.
* `Machine.always` — in every run whose answers are as assumed, what a contract requires holds
  whenever an operation is due.
-/

namespace RemoteLink.Library

/-! ## Programs -/

/-- A program that performs operations `o : Op` and returns a value of type `α`. `stop` goes no
further: the unfolding of a loop ends there, or the program dies. -/
inductive Prog (Op : Type) (Ans : Op → Type) (α : Type) : Type where
  | ret (a : α)
  | op (o : Op) (k : Ans o → Prog Op Ans α)
  | stop

namespace Prog

variable {Op : Type} {Ans : Op → Type} {α β ε : Type}

/-- Sequencing. -/
def bind : Prog Op Ans α → (α → Prog Op Ans β) → Prog Op Ans β
  | .ret a, f => f a
  | .op o k, f => .op o fun a => (k a).bind f
  | .stop, _ => .stop

instance : Monad (Prog Op Ans) where
  pure := .ret
  bind := .bind

/-- One operation. -/
def perform (o : Op) : Prog Op Ans (Ans o) := .op o .ret

/-- One operation of a program that may fail. -/
def call (o : Op) : ExceptT ε (Prog Op Ans) (Ans o) := ExceptT.lift (perform o)

/-- A program that may fail and stops here. -/
def halt : ExceptT ε (Prog Op Ans) α := ExceptT.lift .stop

/-- The result of a program that may fail, as a value. -/
def attempt (p : ExceptT ε (Prog Op Ans) α) : ExceptT ε (Prog Op Ans) (Except ε α) :=
  ExceptT.lift p.run

end Prog

/-! ## Machines -/

/-- The meaning of operations over a world of type `σ`: what an operation answers and does, given
what the surroundings answer, and the changes of the world between operations. -/
structure Machine (Op : Type) (Ans : Op → Type) (σ ε ι : Type) where
  act : (o : Op) → ε → σ → Option (Ans o × σ)
  interfere : ι → σ → Option σ

/-- What may be assumed of an operation, the answer of the surroundings and the world before it;
and what must hold of the world when an operation is due. -/
structure Contract (Op σ ε : Type) where
  assume : Op → ε → σ → Prop
  require : Op → σ → Prop

/-- A step of a running program. -/
inductive Event (ε ι : Type) where
  | act (e : ε)
  | interfere (i : ι)

section

variable {Op : Type} {Ans : Op → Type} {σ ε ι α β δ : Type}

namespace Machine

/-- The world has changed by itself, any number of times. -/
def Drift (M : Machine Op Ans σ ε ι) : σ → σ → Prop :=
  Relation.ReflTransGen fun w w' => ∃ i, M.interfere i w = some w'

/-- A property that no change of the world by itself affects. -/
def Stable (M : Machine Op Ans σ ε ι) (P : σ → Prop) : Prop :=
  ∀ i w w', P w → M.interfere i w = some w' → P w'

/-- One step of a program over its world. -/
def step (M : Machine Op Ans σ ε ι) (s : Prog Op Ans α × σ) :
    Event ε ι → Option (Prog Op Ans α × σ)
  | .act e =>
    match s.1 with
    | .op o k => (M.act o e s.2).map fun r => (k r.1, r.2)
    | _ => none
  | .interfere i => (M.interfere i s.2).map fun w => (s.1, w)

/-- The runs of some programs from some worlds. -/
def system (M : Machine Op Ans σ ε ι) (programs : Prog Op Ans α → Prop) (init : σ → Prop) :
    System (Prog Op Ans α × σ) (Event ε ι) where
  init s := programs s.1 ∧ init s.2
  step := M.step

/-- A stable property survives every drift. -/
theorem Stable.drift {M : Machine Op Ans σ ε ι} {P : σ → Prop} (hP : M.Stable P) {w w' : σ}
    (hd : M.Drift w w') (hw : P w) : P w' := by
  induction hd with
  | refl => exact hw
  | tail _ hstep ih =>
    obtain ⟨i, hi⟩ := hstep
    exact hP i _ _ ih hi

end Machine

/-- A step whose answer is as the contract assumes. -/
def Contract.Assumed (K : Contract Op σ ε) (s : Prog Op Ans α × σ) : Event ε ι → Prop
  | .act e =>
    match s.1 with
    | .op o _ => K.assume o e s.2
    | _ => True
  | .interfere _ => True

/-- A step whose answer passes a test. -/
def passing (test : Op → ε → σ → Bool) (s : Prog Op Ans α × σ) : Event ε ι → Bool
  | .act e =>
    match s.1 with
    | .op o _ => test o e s.2
    | _ => true
  | .interfere _ => true

/-- An answer that passes a test is as the contract assumes, if the test is strict enough. -/
theorem Contract.assumed_of_passing {K : Contract Op σ ε} {test : Op → ε → σ → Bool}
    (htest : ∀ o e w, test o e w = true → K.assume o e w) {s : Prog Op Ans α × σ}
    {e : Event ε ι} (h : passing test s e = true) : K.Assumed s e := by
  obtain ⟨p, w⟩ := s
  cases e with
  | act e =>
    cases p with
    | op o k => exact htest o e w h
    | _ => trivial
  | interfere i => trivial

/-! ## Safe programs -/

/-- **The program respects the contract and ends in `Φ`**: whenever an operation is due, what the
contract requires of it holds; and when the program returns, `Φ` holds of the value and the world.
The world may drift at any time, and the answers are as the contract assumes. -/
def Safe (M : Machine Op Ans σ ε ι) (K : Contract Op σ ε) :
    Prog Op Ans α → (α → σ → Prop) → σ → Prop
  | .ret a, Φ, w => ∀ w', M.Drift w w' → Φ a w'
  | .op o k, Φ, w => ∀ w', M.Drift w w' → K.require o w' ∧
      ∀ e a w'', K.assume o e w' → M.act o e w' = some (a, w'') → Safe M K (k a) Φ w''
  | .stop, _, _ => True

/-- The program is safe from every world of the precondition. -/
def Meets (M : Machine Op Ans σ ε ι) (K : Contract Op σ ε) (P : σ → Prop) (p : Prog Op Ans α)
    (Φ : α → σ → Prop) : Prop :=
  ∀ w, P w → Safe M K p Φ w

/-- The program is safe from every world of the precondition: a result ends in `Φ`, an error in
`E`. -/
def Spec (M : Machine Op Ans σ ε ι) (K : Contract Op σ ε) (P : σ → Prop)
    (p : ExceptT δ (Prog Op Ans) α) (Φ : α → σ → Prop) (E : δ → σ → Prop) : Prop :=
  Meets M K P p.run fun
    | .ok a => Φ a
    | .error e => E e

variable {M : Machine Op Ans σ ε ι} {K : Contract Op σ ε}

/-- Safety survives a drift. -/
theorem Safe.drift {p : Prog Op Ans α} {Φ : α → σ → Prop} {w w' : σ} (h : Safe M K p Φ w)
    (hd : M.Drift w w') : Safe M K p Φ w' := by
  cases p with
  | ret a => exact fun w'' hd' => h w'' (hd.trans hd')
  | op o k => exact fun w'' hd' => h w'' (hd.trans hd')
  | stop => trivial

/-- **Consequence**: a weaker postcondition. -/
theorem Safe.mono {p : Prog Op Ans α} {Φ Ψ : α → σ → Prop} (hΦ : ∀ a w, Φ a w → Ψ a w) {w : σ}
    (h : Safe M K p Φ w) : Safe M K p Ψ w := by
  induction p generalizing w with
  | ret a => exact fun w' hd => hΦ a w' (h w' hd)
  | op o k ih =>
    intro w' hd
    obtain ⟨hrequire, hnext⟩ := h w' hd
    exact ⟨hrequire, fun e a w'' hassume hact => ih a (hnext e a w'' hassume hact)⟩
  | stop => trivial

/-- **Sequencing**: the second program is safe wherever the first one ends. -/
theorem Safe.bind {p : Prog Op Ans α} {f : α → Prog Op Ans β} {Φ : β → σ → Prop} {w : σ}
    (h : Safe M K p (fun a w' => Safe M K (f a) Φ w') w) : Safe M K (p >>= f) Φ w := by
  induction p generalizing w with
  | ret a => exact h w .refl
  | op o k ih =>
    intro w' hd
    obtain ⟨hrequire, hnext⟩ := h w' hd
    exact ⟨hrequire, fun e a w'' hassume hact => ih a (hnext e a w'' hassume hact)⟩
  | stop => trivial

/-- One operation. -/
theorem Meets.perform {P : σ → Prop} (hP : M.Stable P) {o : Op} {Φ : Ans o → σ → Prop}
    (hΦ : ∀ a, M.Stable (Φ a)) (hrequire : ∀ w, P w → K.require o w)
    (hact : ∀ w e a w', P w → K.assume o e w → M.act o e w = some (a, w') → Φ a w') :
    Meets M K P (Prog.perform o) Φ := by
  intro w hw w' hd
  have hw' := hP.drift hd hw
  refine ⟨hrequire w' hw', fun e a w'' hassume h => ?_⟩
  exact fun w₃ hd' => (hΦ a).drift hd' (hact w' e a w'' hw' hassume h)

/-! ## Programs that may fail -/

namespace Spec

variable {P Q : σ → Prop} {Φ Ψ : α → σ → Prop} {E F : δ → σ → Prop}

theorem pure {a : α} (hP : M.Stable P) (h : ∀ w, P w → Φ a w) :
    Spec M K P (Pure.pure a) Φ E :=
  fun _ hw _ hd => h _ (hP.drift hd hw)

theorem throw {e : δ} (hP : M.Stable P) (h : ∀ w, P w → E e w) :
    Spec M K P (MonadExcept.throw e : ExceptT δ (Prog Op Ans) α) Φ E :=
  fun _ hw _ hd => h _ (hP.drift hd hw)

theorem halt : Spec M K P (Prog.halt : ExceptT δ (Prog Op Ans) α) Φ E :=
  fun _ _ => trivial

/-- **Consequence**: a stronger precondition and weaker postconditions. -/
theorem conseq {p : ExceptT δ (Prog Op Ans) α} (h : Spec M K Q p Ψ F) (hP : ∀ w, P w → Q w)
    (hΦ : ∀ a w, Ψ a w → Φ a w) (hE : ∀ e w, F e w → E e w) : Spec M K P p Φ E := by
  intro w hw
  refine (h w (hP w hw)).mono fun r w' hr => ?_
  rcases r with e | a
  · exact hE e w' hr
  · exact hΦ a w' hr

/-- **Sequencing**: an error of the first program ends the whole. -/
theorem bind {p : ExceptT δ (Prog Op Ans) α} {f : α → ExceptT δ (Prog Op Ans) β}
    {Ψ : α → σ → Prop} {Φ : β → σ → Prop} (hp : Spec M K P p Ψ E)
    (hE : ∀ e, M.Stable (E e)) (hf : ∀ a, Spec M K (Ψ a) (f a) Φ E) :
    Spec M K P (p >>= f) Φ E := by
  intro w hw
  refine Safe.bind ((hp w hw).mono fun r w' hr => ?_)
  rcases r with e | a
  · exact fun w'' hd => (hE e).drift hd hr
  · exact hf a w' hr

/-- One operation, which cannot fail by itself. -/
theorem call {o : Op} {Φ : Ans o → σ → Prop} (hP : M.Stable P) (hΦ : ∀ a, M.Stable (Φ a))
    (hrequire : ∀ w, P w → K.require o w)
    (hact : ∀ w e a w', P w → K.assume o e w → M.act o e w = some (a, w') → Φ a w') :
    Spec M K P (Prog.call o : ExceptT δ (Prog Op Ans) (Ans o)) Φ E := by
  intro w hw
  refine Safe.bind ((Meets.perform hP hΦ hrequire hact w hw).mono fun a w' ha => ?_)
  exact fun w'' hd => (hΦ a).drift hd ha

/-- The result of a program that may fail, as a value. -/
theorem attempt {p : ExceptT δ (Prog Op Ans) α} (hp : Spec M K P p Ψ F)
    (hΨ : ∀ a, M.Stable (Ψ a)) (hF : ∀ e, M.Stable (F e)) :
    Spec M K P (Prog.attempt p : ExceptT δ (Prog Op Ans) (Except δ α))
      (fun
        | .ok a => Ψ a
        | .error e => F e) E := by
  intro w hw
  refine Safe.bind ((hp w hw).mono fun r w' hr => ?_)
  rcases r with e | a
  · exact fun w'' hd => (hF e).drift hd hr
  · exact fun w'' hd => (hΨ a).drift hd hr

end Spec

/-! ## Soundness -/

/-- A running program that is safe. -/
def SafeState (M : Machine Op Ans σ ε ι) (K : Contract Op σ ε) (s : Prog Op Ans α × σ) : Prop :=
  Safe M K s.1 (fun _ _ => True) s.2

/-- **The step lemma**: a step whose answer is as assumed leads from safe to safe. -/
theorem SafeState.step {s s' : Prog Op Ans α × σ} (hs : SafeState M K s) {e : Event ε ι}
    (hassume : K.Assumed s e) (h : M.step s e = some s') : SafeState M K s' := by
  obtain ⟨p, w⟩ := s
  cases e with
  | act e =>
    cases p with
    | ret a => cases h
    | op o k =>
      obtain ⟨⟨a, w'⟩, hact, rfl⟩ := Option.map_eq_some_iff.mp h
      exact (hs w .refl).2 e a w' hassume hact
    | stop => cases h
  | interfere i =>
    obtain ⟨w', hw', rfl⟩ := Option.map_eq_some_iff.mp h
    exact Safe.drift hs (.single ⟨i, hw'⟩)

/-- **The invariant rule**: if every program is safe, a property of the world that changes between
operations keep, and that the required operations keep, holds in every run whose answers are as
assumed. -/
theorem Machine.invariant {programs : Prog Op Ans α → Prop} {init : σ → Prop}
    (hsafe : ∀ p w, programs p → init w → Safe M K p (fun _ _ => True) w) {I : σ → Prop}
    (hinit : ∀ w, init w → I w) (hstable : M.Stable I)
    (hstep : ∀ o e w a w', I w → K.require o w → K.assume o e w → M.act o e w = some (a, w') →
      I w')
    {s : Prog Op Ans α × σ} (h : (M.system programs init).ReachableVia K.Assumed s) : I s.2 := by
  refine (h.invariant (fun s => SafeState M K s ∧ I s.2) ?_ ?_).2
  · exact fun s hs => ⟨hsafe s.1 s.2 hs.1 hs.2, hinit s.2 hs.2⟩
  rintro ⟨p, w⟩ e s' ⟨hs, hI⟩ hassume h
  refine ⟨hs.step hassume h, ?_⟩
  cases e with
  | act e =>
    cases p with
    | ret a => cases h
    | op o k =>
      obtain ⟨⟨a, w'⟩, hact, rfl⟩ := Option.map_eq_some_iff.mp h
      exact hstep o e w a w' hI (hs w .refl).1 hassume hact
    | stop => cases h
  | interfere i =>
    obtain ⟨w', hw', rfl⟩ := Option.map_eq_some_iff.mp h
    exact hstable i w w' hI hw'

/-- **Soundness**: if every program is safe from every initial world, then in every run whose
answers are as assumed, what the contract requires holds whenever an operation is due. -/
theorem Machine.always {programs : Prog Op Ans α → Prop} {init : σ → Prop}
    (hsafe : ∀ p w, programs p → init w → Safe M K p (fun _ _ => True) w)
    {s : Prog Op Ans α × σ} (h : (M.system programs init).ReachableVia K.Assumed s) {o : Op}
    {k : Ans o → Prog Op Ans α} (hs : s.1 = .op o k) : K.require o s.2 := by
  have hinit : ∀ s, (M.system programs init).init s → SafeState M K s :=
    fun s hs => hsafe s.1 s.2 hs.1 hs.2
  have hinv : SafeState M K s := h.invariant (SafeState M K) hinit
    fun _ _ _ hs hassume hstep => hs.step hassume hstep
  unfold SafeState at hinv
  rw [hs] at hinv
  exact (hinv s.2 .refl).1

end

end RemoteLink.Library
