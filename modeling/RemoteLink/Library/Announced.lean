import RemoteLink.Library.Interaction

set_option autoImplicit false

/-!
# Programs that announce their errors

An action may come with the error on which its caller gives up, for each answer. A part of a larger
program performs such operations. What a part does to a world then follows from what its actions do:
it is enough to know which actions it performs, and that it fails only with an error that an
operation has announced.

## Main definitions

* `Announced` — an action with the errors that its caller gives up with.
* `Routine` — a program of announced operations that may fail.
* `Routine.call`, `Routine.use`, `Routine.ignoring` — an operation whose caller goes on, one whose caller may
  give up, and a part whose caller goes on.
* `Within` — the actions that a part performs, before and after it gives up.
* `announced` — the machine of announced operations over the machine of the actions.

## Main results

* `Within.bind`, `Within.use`, `Within.recover` — the rules of a part.
* `Within.spec` — what every action keeps, the part keeps; what holds when an error is announced
  holds when the part fails with it.
-/

namespace RemoteLink.Library

/-- An action with the errors that its caller gives up with. -/
structure Announced (Act : Type) (Ans : Act → Type) (δ : Type) where
  action : Act
  givesUp : Ans action → Option δ

/-- A program of announced operations that may fail. -/
abbrev Routine (Act : Type) (Ans : Act → Type) (δ : Type) : Type → Type :=
  ExceptT δ (Prog (Announced Act Ans δ) fun c => Ans c.action)

section

variable {Act : Type} {Ans : Act → Type} {δ ε α β : Type}

namespace Routine

/-- One operation with the errors of its caller. -/
def performing (o : Act) (givesUp : Ans o → Option δ) : Routine Act Ans δ (Ans o) :=
  Prog.call (⟨o, givesUp⟩ : Announced Act Ans δ)

/-- One operation, whose answer its caller goes on with. -/
def call (o : Act) : Routine Act Ans δ (Ans o) := performing o fun _ => none

/-- The error of a result. -/
def errorOf : Except ε α → Option ε
  | .error e => some e
  | .ok _ => none

/-- A result, or the end of the part. -/
def settle : Except δ α → Routine Act Ans δ α
  | .error e => throw e
  | .ok a => pure a

/-- One operation; its caller gives up where `f` yields an error. -/
def use (o : Act) (f : Ans o → Except δ α) : Routine Act Ans δ α := do
  let answer ← performing o fun a => errorOf (f a)
  settle (f answer)

/-- The same operations, on which nobody gives up. -/
def unheeded : Prog (Announced Act Ans δ) (fun c => Ans c.action) α →
    Prog (Announced Act Ans δ) (fun c => Ans c.action) α
  | .ret a => .ret a
  | .op c k => .op ⟨c.action, fun _ => none⟩ fun a => unheeded (k a)
  | .stop => .stop

/-- A part whose caller goes on, whatever comes of it. -/
def ignoring (p : Routine Act Ans δ α) : Routine Act Ans δ Unit := ExceptT.lift do
  let _ ← unheeded p.run
  return ()

end Routine

open Routine

/-! ## The actions of a part -/

/-- The program goes on with actions of `B` only, whatever the answers are, and fails with `t`. -/
def Ends (B : Act → Prop) (t : δ) :
    Prog (Announced Act Ans δ) (fun c => Ans c.action) (Except δ α) → Prop
  | .ret (.error e) => e = t
  | .ret (.ok _) => False
  | .op c k => B c.action ∧ (∀ a, c.givesUp a = none) ∧ ∀ a, Ends B t (k a)
  | .stop => True

/-- **The part performs actions of `A` only, and gives up as announced**: after an announced error it
performs actions of `B` only and fails with that error, and otherwise it does not fail. -/
def Within (A B : Act → Prop) :
    Prog (Announced Act Ans δ) (fun c => Ans c.action) (Except δ α) → Prop
  | .ret (.ok _) => True
  | .ret (.error _) => False
  | .op c k => A c.action ∧ ∀ a,
      match c.givesUp a with
      | some t => Ends B t (k a)
      | none => Within A B (k a)
  | .stop => True

section

variable {A B C : Act → Prop} {t : δ}

theorem Ends.mono (hBC : ∀ o, B o → C o)
    {p : Prog (Announced Act Ans δ) (fun c => Ans c.action) (Except δ α)} (h : Ends B t p) :
    Ends C t p := by
  induction p with
  | ret r =>
    rcases r with e | a
    · exact h
    · exact h.elim
  | op c k ih => exact ⟨hBC _ h.1, h.2.1, fun a => ih a (h.2.2 a)⟩
  | stop => trivial

/-- A program that fails does not reach what comes after it. -/
theorem Ends.bind {p : Routine Act Ans δ α} (h : Ends B t p.run) (f : α → Routine Act Ans δ β) :
    Ends B t (p >>= f).run := by
  change Prog _ _ _ at p
  induction p with
  | ret r =>
    rcases r with e | a
    · exact h
    · exact h.elim
  | op c k ih => exact ⟨h.1, h.2.1, fun a => ih a (h.2.2 a)⟩
  | stop => trivial

theorem Ends.throw (t : δ) : Ends B t (MonadExcept.throw t : Routine Act Ans δ α).run := rfl

theorem Ends.call {o : Act} (ho : B o) {f : Ans o → Routine Act Ans δ α}
    (hf : ∀ a, Ends B t (f a).run) : Ends B t (Routine.call o >>= f).run :=
  ⟨ho, fun _ => rfl, hf⟩

namespace Within

theorem pure (a : α) : Within A B (Pure.pure a : Routine Act Ans δ α).run := trivial

theorem halt : Within A B (Prog.halt : Routine Act Ans δ α).run := trivial

theorem call {o : Act} (ho : A o) : Within A B (Routine.call o : Routine Act Ans δ (Ans o)).run :=
  ⟨ho, fun _ => trivial⟩

/-- One operation gives up where its result is an error. -/
theorem use {o : Act} (ho : A o) (f : Ans o → Except δ α) :
    Within A B (Routine.use o f : Routine Act Ans δ α).run := by
  refine ⟨ho, fun a => ?_⟩
  show match errorOf (f a) with
    | some t => Ends B t (settle (f a) : Routine Act Ans δ α).run
    | none => Within A B (settle (f a) : Routine Act Ans δ α).run
  rcases f a with e | b
  · exact Ends.throw e
  · trivial

/-- **Sequencing.** -/
theorem bind {p : Routine Act Ans δ α} {f : α → Routine Act Ans δ β} (hp : Within A B p.run)
    (hf : ∀ a, Within A B (f a).run) : Within A B (p >>= f).run := by
  change Prog _ _ _ at p
  induction p with
  | ret r =>
    rcases r with e | a
    · exact hp.elim
    · exact hf a
  | op c k ih =>
    refine ⟨hp.1, fun a => ?_⟩
    have hk := hp.2 a
    split at hk
    · exact Ends.bind hk f
    · exact ih a hk
  | stop => trivial

theorem mono {A' B' : Act → Prop} (hA : ∀ o, A o → A' o) (hB : ∀ o, B o → B' o)
    {p : Prog (Announced Act Ans δ) (fun c => Ans c.action) (Except δ α)} (h : Within A B p) :
    Within A' B' p := by
  induction p with
  | ret r =>
    rcases r with e | a
    · exact h.elim
    · trivial
  | op c k ih =>
    refine ⟨hA _ h.1, fun a => ?_⟩
    have hk := h.2 a
    split at hk
    · exact hk.mono hB
    · exact ih a hk
  | stop => trivial

/-- Ignoring an error: the part performs the same actions, and does not fail. -/
theorem ignoring {p : Routine Act Ans δ α} (hp : Within A B p.run) (hBA : ∀ o, B o → A o) :
    Within A B (Routine.ignoring p).run := by
  have hends : ∀ (t : δ) (q : Prog (Announced Act Ans δ) (fun c => Ans c.action) (Except δ α)),
      Ends B t q → Within A B (Routine.ignoring (ExceptT.mk q)).run := by
    intro t q hq
    induction q with
    | ret r => trivial
    | op c k ih => exact ⟨hBA _ hq.1, fun a => ih a (hq.2.2 a)⟩
    | stop => trivial
  change Prog _ _ _ at p
  induction p with
  | ret r => trivial
  | op c k ih =>
    refine ⟨hp.1, fun a => ?_⟩
    have hk := hp.2 a
    split at hk
    · exact hends _ _ hk
    · exact ih a hk
  | stop => trivial

/-- Handling an error: the announced error goes on. -/
theorem recover {p : Routine Act Ans δ α} {f : Except δ α → Routine Act Ans δ β}
    (hp : Within A B p.run) (hok : ∀ a, Within A B (f (.ok a)).run)
    (herror : ∀ t, Ends B t (f (.error t)).run) :
    Within A B (Prog.attempt p >>= f).run := by
  have hends : ∀ (t : δ) (q : Prog (Announced Act Ans δ) (fun c => Ans c.action) (Except δ α)),
      Ends B t q → Ends B t (Prog.attempt (ExceptT.mk q) >>= f).run := by
    intro t q hq
    induction q with
    | ret r =>
      rcases r with e | a
      · obtain rfl : e = t := hq
        exact herror e
      · exact hq.elim
    | op c k ih => exact ⟨hq.1, hq.2.1, fun a => ih a (hq.2.2 a)⟩
    | stop => trivial
  change Prog _ _ _ at p
  induction p with
  | ret r =>
    rcases r with e | a
    · exact hp.elim
    · exact hok a
  | op c k ih =>
    refine ⟨hp.1, fun a => ?_⟩
    have hk := hp.2 a
    split at hk
    · exact hends _ _ hk
    · exact ih a hk
  | stop => trivial

end Within

end

/-! ## What a part does to a world -/

/-- The machine of announced operations: an announcement changes nothing. -/
def announced {σ ι : Type} (M : Machine Act Ans σ ε ι) :
    Machine (Announced Act Ans δ) (fun c => Ans c.action) σ ε ι where
  act c := M.act c.action
  interfere := M.interfere

section

variable {σ ι : Type} {M : Machine (Announced Act Ans δ) (fun c => Ans c.action) σ ε ι}
  {K : Contract (Announced Act Ans δ) σ ε} {A B : Act → Prop} {P Q : σ → Prop}
  {G : δ → σ → Prop}

/-- A program that fails keeps what its actions keep. -/
theorem Ends.safe (hG : ∀ t, M.Stable (G t))
    (hrequire : ∀ c t w, B c.action → G t w → K.require c w)
    (hkeep : ∀ c t w e a w', B c.action → (∀ a, c.givesUp a = none) → G t w → K.assume c e w →
      M.act c e w = some (a, w') → G t w')
    {t : δ} {p : Prog (Announced Act Ans δ) (fun c => Ans c.action) (Except δ α)} (hp : Ends B t p)
    (Φ : α → σ → Prop) {w : σ} (hw : G t w) :
    Safe M K p (fun
      | .ok a => Φ a
      | .error e => G e) w := by
  induction p generalizing w with
  | ret r =>
    rcases r with e | a
    · obtain rfl : e = t := hp
      exact fun w' hd => (hG e).drift hd hw
    · exact hp.elim
  | op c k ih =>
    intro w' hd
    have hw' := (hG t).drift hd hw
    refine ⟨hrequire c t w' hp.1 hw', fun e a w'' hassume hact => ?_⟩
    exact ih a (hp.2.2 a) (hkeep c t w' e a w'' hp.1 hp.2.1 hw' hassume hact)
  | stop => trivial

/-- **What every action keeps, the part keeps**, and what holds when an error is announced holds when
the part fails with it. -/
theorem Within.spec {p : Routine Act Ans δ α} (hp : Within A B p.run) (hP : M.Stable P)
    (hG : ∀ t, M.Stable (G t))
    (hrequire : ∀ c w, A c.action → P w → K.require c w)
    (hstep : ∀ c w e a w', A c.action → P w → K.assume c e w → M.act c e w = some (a, w') →
      P w' ∧ ∀ t, c.givesUp a = some t → G t w')
    (hafter : ∀ c t w, B c.action → G t w → K.require c w)
    (hkeep : ∀ c t w e a w', B c.action → (∀ a, c.givesUp a = none) → G t w → K.assume c e w →
      M.act c e w = some (a, w') → G t w') :
    Spec M K P p (fun _ => P) G := by
  intro w hw
  change Prog _ _ _ at p
  induction p generalizing w with
  | ret r =>
    rcases r with e | a
    · exact hp.elim
    · exact fun w' hd => hP.drift hd hw
  | op c k ih =>
    intro w' hd
    have hw' := hP.drift hd hw
    refine ⟨hrequire c w' hp.1 hw', fun e a w'' hassume hact => ?_⟩
    obtain ⟨hP', hG'⟩ := hstep c w' e a w'' hp.1 hw' hassume hact
    have hk := hp.2 a
    split at hk
    · rename_i t ht
      refine (Ends.safe hG hafter hkeep hk (fun _ => P) (hG' t ht)).mono fun r w₃ hr => ?_
      rcases r with e | a <;> exact hr
    · exact ih a w'' hP' hk
  | stop => trivial

/-- One operation, with what its result establishes. -/
theorem Spec.use {o : Act} {f : Ans o → Except δ α} {Φ : α → σ → Prop} (hP : M.Stable P)
    (hΦ : ∀ b, M.Stable (Φ b)) (hG : ∀ t, M.Stable (G t))
    (hrequire : ∀ w, P w → K.require ⟨o, fun a => errorOf (f a)⟩ w)
    (hstep : ∀ w e a w', P w → K.assume ⟨o, fun a => errorOf (f a)⟩ e w →
      M.act ⟨o, fun a => errorOf (f a)⟩ e w = some (a, w') →
        match f a with
        | .ok b => Φ b w'
        | .error t => G t w') :
    Spec M K P (Routine.use o f) Φ G := by
  intro w hw w' hd
  have hw' := hP.drift hd hw
  refine ⟨hrequire w' hw', fun e a w'' hassume hact => ?_⟩
  have hresult := hstep w' e a w'' hw' hassume hact
  show Safe M K (settle (f a) : Routine Act Ans δ α).run _ w''
  rcases hf : f a with t | b
  · rw [hf] at hresult
    exact fun w₃ hd' => (hG t).drift hd' hresult
  · rw [hf] at hresult
    exact fun w₃ hd' => (hΦ b).drift hd' hresult

/-- Operations on which nobody gives up do what they did, under a contract that does not look at
announcements. -/
theorem Safe.unheeded {N : Machine Act Ans σ ε ι} {L : Contract (Announced Act Ans δ) σ ε}
    (hassume : ∀ c e w, K.assume ⟨c.action, fun _ => none⟩ e w → L.assume c e w)
    (hrequire : ∀ c w, L.require c w → K.require ⟨c.action, fun _ => none⟩ w)
    {p : Prog (Announced Act Ans δ) (fun c => Ans c.action) α} {Φ : α → σ → Prop} {w : σ}
    (hp : Safe (announced N) L p Φ w) : Safe (announced N) K (Routine.unheeded p) Φ w := by
  induction p generalizing w with
  | ret a => exact hp
  | op c k ih =>
    intro w' hd
    obtain ⟨hreq, hnext⟩ := hp w' hd
    exact ⟨hrequire c w' hreq, fun e a w'' he hact => ih a (hnext e a w'' (hassume c e w' he) hact)⟩
  | stop => trivial

/-- A part whose errors are ignored ends where the part returns or fails. -/
theorem Spec.ignoring {N : Machine Act Ans σ ε ι} {L : Contract (Announced Act Ans δ) σ ε}
    (hassume : ∀ c e w, K.assume ⟨c.action, fun _ => none⟩ e w → L.assume c e w)
    (hrequire : ∀ c w, L.require c w → K.require ⟨c.action, fun _ => none⟩ w)
    {p : Routine Act Ans δ α} (hQ : (announced (δ := δ) N).Stable Q)
    (hp : Spec (announced N) L P p (fun _ => Q) (fun _ => Q)) :
    Spec (announced N) K P (Routine.ignoring p) (fun _ => Q) G := by
  intro w hw
  have hsafe : Safe (announced N) K (Routine.unheeded p.run) (fun _ => Q) w :=
    (Safe.unheeded hassume hrequire (hp w hw)).mono fun r w' hr => by
      rcases r with e | a <;> exact hr
  refine Safe.bind ?_
  refine Safe.bind (hsafe.mono fun r w' hr => ?_)
  exact fun w'' hd w₃ hd' => hQ.drift hd' (hQ.drift hd hr)

end

end

end RemoteLink.Library
