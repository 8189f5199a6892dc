import Mathlib.Logic.Basic

set_option autoImplicit false

/-!
# Fallible programs

Rules for programs of `EStateM ε σ`: methods that change a state of type `σ` and return a result
or an error, where an error undoes nothing.

## Main definitions

* `after` — the state after a program, whatever its outcome.
* `Preserves` — the program keeps an invariant, whatever its outcome.
* `Keeps` — the program leaves a part of the state as it is.
* `Leads` — the program leads from a state to a related one.

## Main results

* `Preserves.bind`, `Keeps.bind`, `Leads.bind` — the rules of sequencing.
* `Keeps.preserves` — a program that keeps a part of the state keeps what is known of it.
-/

namespace RemoteLink.Library

variable {ε σ τ α β : Type}

/-- The state of an outcome. -/
def finalState : EStateM.Result ε σ α → σ
  | .ok _ s => s
  | .error _ s => s

/-- The state after a program, whatever its outcome. -/
def after (p : EStateM ε σ α) (s : σ) : σ := finalState (p s)

/-- The program keeps the invariant `I`. -/
def Preserves (I : σ → Prop) (p : EStateM ε σ α) : Prop := ∀ s, I s → I (after p s)

/-- The program leaves the part `f` of the state as it is. -/
def Keeps (f : σ → τ) (p : EStateM ε σ α) : Prop := ∀ s, f (after p s) = f s

/-- The program leads from every state to a related one. -/
def Leads (R : σ → σ → Prop) (p : EStateM ε σ α) : Prop := ∀ s, R s (after p s)

theorem after_ok {p : EStateM ε σ α} {s s' : σ} {a : α} (h : p s = .ok a s') : after p s = s' := by
  rw [after, h]
  rfl

theorem after_error {p : EStateM ε σ α} {s s' : σ} {e : ε} (h : p s = .error e s') :
    after p s = s' := by
  rw [after, h]
  rfl

/-- Sequencing runs the second program after the first, unless that failed. -/
theorem after_bind (p : EStateM ε σ α) (k : α → EStateM ε σ β) (s : σ) :
    after (p >>= k) s = match p s with
      | .ok a s' => after (k a) s'
      | .error _ s' => s' := by
  have hbind : (p >>= k) s = match p s with
      | .ok a s' => k a s'
      | .error e s' => .error e s' := rfl
  rw [after, hbind]
  rcases p s with ⟨a, s'⟩ | ⟨e, s'⟩ <;> rfl

/-- The second program runs where the first one ends. -/
theorem bind_of_ok {p : EStateM ε σ α} {s s' : σ} {a : α} (h : p s = .ok a s')
    (k : α → EStateM ε σ β) : (p >>= k) s = k a s' := by
  have hbind : (p >>= k) s = match p s with
      | .ok a s' => k a s'
      | .error e s' => .error e s' := rfl
  rw [hbind, h]

/-- The second program does not run when the first one fails. -/
theorem bind_of_error {p : EStateM ε σ α} {s s' : σ} {e : ε} (h : p s = .error e s')
    (k : α → EStateM ε σ β) : (p >>= k) s = .error e s' := by
  have hbind : (p >>= k) s = match p s with
      | .ok a s' => k a s'
      | .error e s' => .error e s' := rfl
  rw [hbind, h]

/-- A result that counts as true is a success. -/
theorem exists_ok_of_toBool {r : Except ε α} (h : r.toBool = true) : ∃ a, r = .ok a := by
  rcases r with e | a
  · cases h
  · exact ⟨a, rfl⟩

/-- Changing the state succeeds. -/
theorem modify_ok (f : σ → σ) (s : σ) :
    (modify f : EStateM ε σ PUnit) s = .ok ⟨⟩ (f s) := rfl

/-- Taking something out of the state succeeds. -/
theorem modifyGet_ok (f : σ → α × σ) (s : σ) :
    (modifyGet f : EStateM ε σ α) s = .ok (f s).1 (f s).2 := rfl

/-- A sequence succeeds exactly when both of its programs do. -/
theorem bind_ok {p : EStateM ε σ α} {k : α → EStateM ε σ β} {s s'' : σ} {b : β} :
    (p >>= k) s = .ok b s'' ↔ ∃ a s', p s = .ok a s' ∧ k a s' = .ok b s'' := by
  have hbind : (p >>= k) s = match p s with
      | .ok a s' => k a s'
      | .error e s' => .error e s' := rfl
  rw [hbind]
  rcases h : p s with ⟨a, s'⟩ | ⟨e, s'⟩
  · constructor
    · exact fun hk => ⟨a, s', rfl, hk⟩
    · rintro ⟨a', s'', h', hk⟩
      obtain ⟨rfl, rfl⟩ := EStateM.Result.ok.inj h'
      exact hk
  · constructor
    · exact fun hk => absurd hk (by simp)
    · rintro ⟨a', s'', h', -⟩
      cases h'

theorem after_ofExcept (r : Except ε α) (s : σ) :
    after (ofExcept r : EStateM ε σ α) s = s := by
  rcases r with e | a <;> rfl

/-- A result that is passed on is a success as it was, and the state stays. -/
theorem ofExcept_ok {r : Except ε α} {s s' : σ} {a : α}
    (h : (ofExcept r : EStateM ε σ α) s = .ok a s') : r = .ok a ∧ s' = s := by
  rcases r with e | b
  · cases h
  · obtain ⟨rfl, rfl⟩ := EStateM.Result.ok.inj h
    exact ⟨rfl, rfl⟩

theorem ofExcept_ok_bind (a : α) (k : α → EStateM ε σ β) :
    (ofExcept (.ok a) >>= k : EStateM ε σ β) = k a := rfl

/-- Reading the state first changes nothing. -/
theorem after_get_bind (k : σ → EStateM ε σ α) (s : σ) :
    after (MonadState.get >>= k) s = after (k s) s := rfl

namespace Preserves

variable {I : σ → Prop}

theorem of_pure (a : α) : Preserves I (Pure.pure a : EStateM ε σ α) := fun _ h => h

theorem of_throw (e : ε) : Preserves I (MonadExcept.throw e : EStateM ε σ α) := fun _ h => h

theorem of_get : Preserves I (MonadState.get : EStateM ε σ σ) := fun _ h => h

theorem of_modify {f : σ → σ} (hf : ∀ s, I s → I (f s)) :
    Preserves I (modify f : EStateM ε σ PUnit) := hf

theorem of_modifyGet {f : σ → α × σ} (hf : ∀ s, I s → I (f s).2) :
    Preserves I (MonadStateOf.modifyGet f : EStateM ε σ α) := hf

theorem of_except (r : Except ε α) : Preserves I (ofExcept r : EStateM ε σ α) := by
  intro s h
  rwa [after_ofExcept]

/-- **Sequencing keeps what both programs keep.** -/
theorem bind {p : EStateM ε σ α} {k : α → EStateM ε σ β} (hp : Preserves I p)
    (hk : ∀ a, Preserves I (k a)) : Preserves I (p >>= k) := by
  intro s hs
  have hs' := hp s hs
  rw [after_bind]
  rcases h : p s with ⟨a, s'⟩ | ⟨e, s'⟩
  · exact hk a s' (by rwa [after_ok h] at hs')
  · rwa [after_error h] at hs'

end Preserves

namespace Keeps

variable {f : σ → τ}

theorem of_pure (a : α) : Keeps f (Pure.pure a : EStateM ε σ α) := fun _ => rfl

theorem of_throw (e : ε) : Keeps f (MonadExcept.throw e : EStateM ε σ α) := fun _ => rfl

theorem of_get : Keeps f (MonadState.get : EStateM ε σ σ) := fun _ => rfl

theorem of_modify {g : σ → σ} (hg : ∀ s, f (g s) = f s) :
    Keeps f (modify g : EStateM ε σ PUnit) := hg

/-- **Sequencing leaves alone what both programs leave alone.** -/
theorem bind {p : EStateM ε σ α} {k : α → EStateM ε σ β} (hp : Keeps f p)
    (hk : ∀ a, Keeps f (k a)) : Keeps f (p >>= k) := by
  intro s
  have hs' := hp s
  rw [after_bind]
  rcases h : p s with ⟨a, s'⟩ | ⟨e, s'⟩
  · rw [after_ok h] at hs'
    exact (hk a s').trans hs'
  · rwa [after_error h] at hs'

/-- A program that leaves a part of the state alone keeps what is known of that part. -/
theorem preserves {p : EStateM ε σ α} (h : Keeps f p) {I : σ → Prop}
    (hI : ∀ s s', f s' = f s → I s → I s') : Preserves I p :=
  fun s hs => hI s _ (h s) hs

end Keeps

namespace Leads

variable {R : σ → σ → Prop}

/-- **Sequencing**: two programs lead where the relation composes. -/
theorem bind (htrans : ∀ a b c, R a b → R b c → R a c) {p : EStateM ε σ α}
    {k : α → EStateM ε σ β} (hp : Leads R p) (hk : ∀ a, Leads R (k a)) : Leads R (p >>= k) := by
  intro s
  have hs := hp s
  rw [after_bind]
  rcases h : p s with ⟨a, s'⟩ | ⟨e, s'⟩
  · rw [after_ok h] at hs
    exact htrans _ _ _ hs (hk a s')
  · rwa [after_error h] at hs

end Leads

end RemoteLink.Library
