import RemoteLink.Net.Transport

set_option autoImplicit false

/-!
# The connection machine of the viewer

The phase of a viewer session, driven by the calls of the application and by the connection
states that the transport reports.

## Main definitions

* `ViewerPhase` — the phase shown to the user; `ViewerPhase.linked` are the two in which media is
  played and input is sent.
* `ConnectionMachine` — the phase with what is remembered of the attempt.
* `Up` — a sequence of reports that ends connected.

## Main results

* `ConnectionMachine.up_of_linked` — the machine is linked only while the reports it has seen end
  connected.
-/

namespace RemoteLink.Viewer

open Net

/-! ## Phases -/

/-- Phase of a viewer session. -/
inductive ViewerPhase where
  | idle
  | connecting
  | answering
  | connected
  | streaming
  | failed (reason : String)
  | disconnected
  | closed
  deriving Repr, DecidableEq

namespace ViewerPhase

/-- The label of a phase. -/
def asStr : ViewerPhase → String
  | idle => "idle"
  | connecting => "connecting"
  | answering => "answering"
  | connected => "connected"
  | streaming => "streaming"
  | failed _ => "failed"
  | disconnected => "disconnected"
  | closed => "closed"

/-- Whether the session is shown as actively linked. -/
def isActive : ViewerPhase → Bool
  | connecting | answering | connected | streaming => true
  | _ => false

/-- Whether media may be played and input may be sent. -/
def linked : ViewerPhase → Bool
  | connected | streaming => true
  | _ => false

end ViewerPhase

/-! ## The machine -/

/-- The connection state machine. -/
structure ConnectionMachine where
  phase : ViewerPhase
  transport : ConnectionState
  hostPublicId : Option String
  lastError : Option String
  deriving Repr, DecidableEq

namespace ConnectionMachine

/-- An idle machine. -/
def new : ConnectionMachine := ⟨.idle, .new, none, none⟩

/-- Begin a connect attempt. -/
def beginConnect (m : ConnectionMachine) (hostPublicId : String) : ConnectionMachine :=
  { m with
    hostPublicId := some hostPublicId, lastError := none, phase := .connecting, transport := .new }

/-- A remote offer is being answered. -/
def beginAnswer (m : ConnectionMachine) : ConnectionMachine :=
  if m.phase = .connecting ∨ m.phase = .answering then { m with phase := .answering } else m

/-- A hard failure. -/
def fail (m : ConnectionMachine) (reason : String) : ConnectionMachine :=
  { m with lastError := some reason, phase := .failed reason }

/-- The transport reports its state. -/
def onTransportState (m : ConnectionMachine) (state : ConnectionState) : ConnectionMachine :=
  let m := { m with transport := state }
  match state with
  | .new | .connecting => m
  | .connected =>
    if m.phase.isActive ∧ m.phase ≠ .streaming then { m with phase := .connected } else m
  | .disconnected =>
    if m.phase.isActive ∨ m.phase = .connected then { m with phase := .disconnected } else m
  | .failed => m.fail "transport failed"
  | .closed => { m with phase := .closed }

/-- A media unit has been received. -/
def onMediaReceived (m : ConnectionMachine) : ConnectionMachine :=
  if m.phase = .connected ∨ m.phase = .streaming then { m with phase := .streaming } else m

/-- The application closes the session. -/
def close (m : ConnectionMachine) : ConnectionMachine :=
  { m with phase := .closed, transport := .closed }

end ConnectionMachine

/-! ## Reports -/

/-- The report takes a connection down. -/
def down : ConnectionState → Bool
  | .disconnected | .failed | .closed => true
  | .new | .connecting | .connected => false

/-- The reports contain a connect, and nothing after it takes the connection down. -/
def Up (reports : List ConnectionState) : Prop :=
  ∃ before after, reports = before ++ .connected :: after ∧ ∀ s ∈ after, down s = false

/-- A further report that does not take the connection down. -/
theorem Up.concat {reports : List ConnectionState} (h : Up reports) {s : ConnectionState}
    (hs : down s = false) : Up (reports ++ [s]) := by
  obtain ⟨before, after, rfl, hafter⟩ := h
  refine ⟨before, after ++ [s], by simp, fun t ht => ?_⟩
  rcases List.mem_append.mp ht with ht | ht
  · exact hafter t ht
  · obtain rfl := List.mem_singleton.mp ht
    exact hs

theorem up_connected (reports : List ConnectionState) : Up (reports ++ [.connected]) :=
  ⟨reports, [], rfl, fun _ hs => absurd hs List.not_mem_nil⟩

theorem not_up_nil : ¬Up [] := by
  rintro ⟨before, after, h, -⟩
  exact List.cons_ne_nil _ _ (List.append_eq_nil_iff.mp h.symm).2

namespace ConnectionMachine

variable {m : ConnectionMachine} {reports : List ConnectionState}

/-- **One more report**: a machine that is linked only if its reports end connected stays so. -/
theorem up_of_report (h : m.phase.linked = true → Up reports) (s : ConnectionState)
    (hlinked : (m.onTransportState s).phase.linked = true) : Up (reports ++ [s]) := by
  cases s with
  | new => exact (h hlinked).concat rfl
  | connecting => exact (h hlinked).concat rfl
  | connected => exact up_connected reports
  | disconnected =>
    simp only [onTransportState] at hlinked
    split_ifs at hlinked with hactive
    · cases hlinked
    · -- a linked phase is active
      rcases hphase : m.phase <;> simp_all [ViewerPhase.linked, ViewerPhase.isActive]
  | failed => cases hlinked
  | closed => cases hlinked

/-- **The machine is linked only while its reports end connected.** -/
theorem up_of_linked (h : m.phase.linked = true → Up reports) (states : List ConnectionState)
    (hlinked : (states.foldl onTransportState m).phase.linked = true) : Up (reports ++ states) := by
  induction states generalizing m reports with
  | nil => simpa using h hlinked
  | cons s states ih =>
    have htail := ih (up_of_report h s) hlinked
    rwa [List.append_assoc, List.singleton_append] at htail

@[simp] theorem onMediaReceived_linked (m : ConnectionMachine) :
    m.onMediaReceived.phase.linked = m.phase.linked := by
  unfold onMediaReceived
  split_ifs with h
  · rcases h with h | h
    · rw [h]
      rfl
    · rw [h]
  · rfl

@[simp] theorem beginAnswer_linked (m : ConnectionMachine) :
    m.beginAnswer.phase.linked = m.phase.linked := by
  unfold beginAnswer
  split_ifs with h
  · rcases h with h | h
    · rw [h]
      rfl
    · rw [h]
  · rfl

end ConnectionMachine

end RemoteLink.Viewer
