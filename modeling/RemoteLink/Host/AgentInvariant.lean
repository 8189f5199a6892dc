import RemoteLink.Host.Agent

set_option autoImplicit false

/-!
# The invariant of the agent's control state

Six flags and a session id, changed by ten kinds of messages. The flags of a killed, an idle and a
live session agree with each other in every reachable state, and a message that is answered with
an error has changed nothing.

## Main definitions

* `controlSystem` — the runs of the control state from its initial value.
* `Consistent` — the relation among the flags.

## Main results

* `Consistent.handle` — every message keeps the relation.
* `Consistent.handle_error` — an error reply leaves the state as it was.
* `control_state_consistent` — both, in every reachable state.
-/

namespace RemoteLink.Host

open Library Protocol Auth Net Platform

/-- Something that changes the control state: a message, or the host's own switch. -/
inductive ControlStateEvent where
  | message (msg : ControlMessage)
  | reenableUnattendedLocal

/-- The runs of the control state. -/
def controlSystem : System AgentSessionState ControlStateEvent where
  init s := s = .empty
  step s
    | .message msg => some (s.handle msg).2
    | .reenableUnattendedLocal => some s.reenableUnattendedLocal

/-- Whether a reply is an error. -/
def isErrorReply : ControlMessage → Bool
  | .error _ => true
  | _ => false

/-- The flags agree: a killed session is dark, a live one shows its chrome, without a session
nothing runs, and unattended access is never on against its latch. -/
structure Consistent (s : AgentSessionState) : Prop where
  killed : s.killed = true → s.mediaStarted = false ∧ s.enableInput = false ∧
    s.unattended = false ∧ s.chromeVisible = false
  live : s.sessionId.isSome = true → s.killed = false → s.chromeVisible = true
  idle : s.sessionId = none → s.mediaStarted = false ∧ s.enableInput = false
  latch : s.unattended = true → s.unattendedDisabled = false

section

variable {s : AgentSessionState}

/-! ## What the guards establish -/

/-- A session command gets past its guard only for the attached session. -/
theorem requireSession_none {sid : String} :
    s.requireSession sid = none ↔ s.sessionId = some sid := by
  unfold AgentSessionState.requireSession
  rcases hsid : s.sessionId with _ | cur
  · simp
  · by_cases hcur : cur = sid
    · simp [hcur]
    · simp [hcur]

/-- A live command gets past its guards only for the attached session, while it is not killed. -/
theorem requireLive_none {sid : String} :
    s.requireLive sid = none ↔ s.sessionId = some sid ∧ s.killed = false := by
  unfold AgentSessionState.requireLive AgentSessionState.requireNotKilled
  rw [Option.or_eq_none_iff, requireSession_none]
  by_cases hkilled : s.killed = true
  · simp [hkilled]
  · simp [hkilled]

/-! ## Preservation -/

theorem Consistent.empty : Consistent .empty where
  killed := by simp [AgentSessionState.empty]
  live := by simp [AgentSessionState.empty]
  idle := by simp [AgentSessionState.empty]
  latch := by simp [AgentSessionState.empty]

/-- After a detach only the latch is left. -/
theorem Consistent.cleared : Consistent s.clearSessionKeepUnattendedLatch where
  killed := by simp [AgentSessionState.clearSessionKeepUnattendedLatch, AgentSessionState.empty]
  live := by simp [AgentSessionState.clearSessionKeepUnattendedLatch, AgentSessionState.empty]
  idle := by simp [AgentSessionState.clearSessionKeepUnattendedLatch, AgentSessionState.empty]
  latch := by simp [AgentSessionState.clearSessionKeepUnattendedLatch, AgentSessionState.empty]

/-- A kill leaves the session dark. -/
theorem Consistent.kill (disable : Bool) : Consistent (s.kill disable) where
  killed := by simp [AgentSessionState.kill]
  live := by simp [AgentSessionState.kill]
  idle := by simp [AgentSessionState.kill]
  latch := by simp [AgentSessionState.kill]

theorem Consistent.reenable (h : Consistent s) : Consistent s.reenableUnattendedLocal where
  killed := h.killed
  live := h.live
  idle := h.idle
  latch _ := rfl

/-- The chrome of an attached session that is not killed is shown already. -/
theorem Consistent.showChrome (h : Consistent s) {sid : String} (hsid : s.sessionId = some sid)
    (hkilled : s.killed = false) : { s with chromeVisible := true } = s := by
  have hvisible := h.live (by rw [hsid]; rfl) hkilled
  rw [← hvisible]

/-- **Every message keeps the flags consistent.** -/
theorem Consistent.handle (h : Consistent s) (msg : ControlMessage) :
    Consistent (s.handle msg).2 := by
  cases msg with
  | attachSession a =>
    simp only [AgentSessionState.handle]
    split
    · exact h
    · constructor <;> simp
  | detachSession sid reason | shutdownSession sid reason =>
    simp only [AgentSessionState.handle]
    split
    · exact h
    · exact .cleared
  | setPolicy p =>
    simp only [AgentSessionState.handle]
    rcases hlive : s.requireLive p.sessionId with _ | e
    · obtain ⟨hsid, hkilled⟩ := requireLive_none.mp hlive
      dsimp only
      split
      · exact h
      rename_i henable
      exact {
        killed := by simp [hkilled]
        live := h.live
        idle := by simp [hsid]
        latch := by
          intro hon
          simpa [show p.unattended = true from hon] using henable }
    · exact h
  | startMedia sid displayId =>
    simp only [AgentSessionState.handle]
    rcases hlive : s.requireLive sid with _ | e
    · obtain ⟨hsid, hkilled⟩ := requireLive_none.mp hlive
      exact {
        killed := by simp [hkilled]
        live := h.live
        idle := by simp [hsid]
        latch := h.latch }
    · exact h
  | stopMedia sid =>
    simp only [AgentSessionState.handle]
    split
    · exact h
    · exact {
        killed := fun hkilled => ⟨rfl, (h.killed hkilled).2⟩
        live := h.live
        idle := fun hnone => ⟨rfl, (h.idle hnone).2⟩
        latch := h.latch }
  | queryStats sid? =>
    simp only [AgentSessionState.handle]
    split
    · exact h
    · split <;> exact h
  | showSessionChrome sid visible label =>
    simp only [AgentSessionState.handle]
    rcases hsession : s.requireSession sid with _ | e
    · have hsid := requireSession_none.mp hsession
      dsimp only
      split
      · exact h
      rename_i hkilled
      rw [h.showChrome hsid (by simpa using hkilled)]
      split <;> exact h
    · exact h
  | killSwitch k =>
    simp only [AgentSessionState.handle]
    split
    · exact h
    · split
      · exact .kill _
      · exact h
    · exact .kill _
  | signalForward f =>
    simp only [AgentSessionState.handle]
    split <;> exact h
  | localConfirmResult | statsPush | ack | error => exact h

/-- **An error reply leaves the control state exactly as it was.** The one branch that writes and
answers with an error shows a chrome that is shown already. -/
theorem Consistent.handle_error (h : Consistent s) {msg : ControlMessage}
    (herror : isErrorReply (s.handle msg).1 = true) : (s.handle msg).2 = s := by
  cases msg with
  | attachSession a =>
    simp only [AgentSessionState.handle] at herror ⊢
    split_ifs at herror ⊢
    · rfl
    · cases herror
  | detachSession sid reason | shutdownSession sid reason | stopMedia sid =>
    simp only [AgentSessionState.handle] at herror ⊢
    split at herror
    · rfl
    · cases herror
  | setPolicy p =>
    simp only [AgentSessionState.handle] at herror ⊢
    split at herror
    · rfl
    · split_ifs at herror ⊢
      · rfl
      · cases herror
  | startMedia sid displayId | signalForward sid =>
    simp only [AgentSessionState.handle] at herror ⊢
    split at herror
    · rfl
    · first | rfl | cases herror
  | queryStats sid? =>
    simp only [AgentSessionState.handle] at herror ⊢
    split at herror
    · rfl
    · split_ifs at herror ⊢ <;> rfl
  | showSessionChrome sid visible label =>
    simp only [AgentSessionState.handle] at herror ⊢
    rcases hsession : s.requireSession sid with _ | e
    · have hsid := requireSession_none.mp hsession
      dsimp only
      split
      · rfl
      rename_i hkilled
      rw [h.showChrome hsid (by simpa using hkilled)]
      split <;> rfl
    · rfl
  | killSwitch k =>
    simp only [AgentSessionState.handle] at herror ⊢
    split at herror
    · rfl
    · split_ifs at herror ⊢
      · cases herror
      · rfl
    · cases herror
  | localConfirmResult | statsPush | ack | error => rfl

end

/-! ## Runs -/

/-- **The control state is consistent in every reachable state**, and a message that is answered
with an error there changes nothing: a killed session has no media, no input, no unattended access
and no chrome; an attached session that is not killed shows its chrome; without a session media
and input are off; unattended access is never on while it is latched off. -/
theorem control_state_consistent {s : AgentSessionState} (h : controlSystem.Reachable s) :
    (s.killed = true → s.mediaStarted = false ∧ s.enableInput = false ∧
      s.unattended = false ∧ s.chromeVisible = false) ∧
    (s.sessionId.isSome = true → s.killed = false → s.chromeVisible = true) ∧
    (s.sessionId = none → s.mediaStarted = false ∧ s.enableInput = false) ∧
    (s.unattended = true → s.unattendedDisabled = false) ∧
    ∀ msg, isErrorReply (s.handle msg).1 = true → (s.handle msg).2 = s := by
  have hinv : Consistent s := by
    refine h.invariant Consistent (fun s hs => ?_) fun s e s' hs _ hstep => ?_
    · obtain rfl : s = .empty := hs
      exact .empty
    · cases e with
      | message msg =>
        cases hstep
        exact hs.handle msg
      | reenableUnattendedLocal =>
        cases hstep
        exact hs.reenable
  exact ⟨hinv.killed, hinv.live, hinv.idle, hinv.latch, fun msg => hinv.handle_error⟩

/-- Attach, start media, kill, and ask for the chrome of the killed session. -/
theorem control_state_consistent_killedRun :
    ∃ s, controlSystem.runFrom .empty
        [.message (.attachSession ⟨"a", none, ⟨true, false, []⟩, [], none⟩),
          .message (.startMedia "a" none), .message (.killSwitch ⟨none, true, .hotkey⟩)] = some s ∧
      s.killed = true ∧ s.mediaStarted = false ∧
      (s.handle (.showSessionChrome "a" true none)).2 = s := by
  refine ⟨_, rfl, rfl, ?_⟩
  have hconsistent := control_state_consistent (System.reachable_of_runFrom (.init rfl)
    (show controlSystem.runFrom .empty
        [.message (.attachSession ⟨"a", none, ⟨true, false, []⟩, [], none⟩),
          .message (.startMedia "a" none), .message (.killSwitch ⟨none, true, .hotkey⟩)] =
      some _ from rfl))
  exact ⟨(hconsistent.1 rfl).1, hconsistent.2.2.2.2 (.showSessionChrome "a" true none) rfl⟩

end RemoteLink.Host
