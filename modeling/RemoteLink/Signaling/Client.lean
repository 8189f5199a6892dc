import Mathlib.Tactic.SplitIfs
import RemoteLink.Protocol.Message

set_option autoImplicit false

/-!
# The signaling client

The errors of a client, and the numbering of a party's messages. A client numbers what it sends
with a counter of its own, and moves the counter past every number it receives; all its sessions
share the counter.

## Main definitions

* `SignalingError` — the errors with their texts.
* `SignalingClient` — the counter, with `SignalingClient.takeSeq` and
  `SignalingClient.observeSeq`.
* `Follows` — one number continues after another, up to the saturation at the largest one.

## Main results

* `Follows.step`, `SignalingClient.observeSeq_follows`, `SignalingClient.le_observeSeq` — the
  counter continues after what was taken and observed.
-/

namespace RemoteLink.Signaling

open RemoteLink.Protocol

/-! ## Errors -/

/-- Errors of the client. -/
inductive SignalingError where
  | connect (detail : String)
  | protocol (detail : String)
  | timeout (detail : String)
  | server (code message : String)
  | closed
  deriving Repr, DecidableEq

/-- The text of an error. -/
def SignalingError.display : SignalingError → String
  | connect detail => "connect: " ++ detail
  | protocol detail => "protocol: " ++ detail
  | timeout detail => "timeout: " ++ detail
  | server code message => "server error " ++ code ++ ": " ++ message
  | closed => "connection closed"

/-- The server dropped a late or colliding number. -/
def SignalingError.isStaleSignalSeq : SignalingError → Bool
  | server code _ => code = "stale_signal_seq"
  | _ => false

/-- The version of the protocol that a client speaks. -/
def protocolVersion : UInt32 := 1

/-! ## The counter -/

/-- A signaling client: the next `signal_seq` for an outbound session message. -/
structure SignalingClient where
  nextSeq : UInt64
  deriving Repr, DecidableEq

namespace SignalingClient

/-- A freshly connected client. -/
def connect : SignalingClient := ⟨1⟩

/-- Allocate and return the next outbound `signal_seq`, then advance. -/
def takeSeq (c : SignalingClient) : UInt64 × SignalingClient :=
  (c.nextSeq, { c with nextSeq := saturatingSucc c.nextSeq })

/-- Observe a remote `signal_seq` and move the counter past it. -/
def observeSeq (c : SignalingClient) (signalSeq : UInt64) : SignalingClient :=
  let next := saturatingSucc signalSeq
  if next > c.nextSeq then { c with nextSeq := next } else c

/-- What receiving a message does to the counter. -/
def observe (c : SignalingClient) (msg : SignalMessage) : SignalingClient :=
  match msg.signalSeq? with
  | some seq => c.observeSeq seq
  | none => c

end SignalingClient

/-! ## Numbers that continue after others -/

/-- `b` is not below the number that continues after `a`. -/
def Follows (a b : UInt64) : Prop := saturatingSucc a ≤ b

/-- The saturating increment on natural numbers. -/
theorem saturatingSucc_toNat (n : UInt64) :
    (saturatingSucc n).toNat = min (n.toNat + 1) 18446744073709551615 := by
  have hlt := n.toNat_lt
  unfold saturatingSucc checkedSucc
  split_ifs with hmax
  · rw [hmax]
    rfl
  · have hne : n.toNat ≠ 18446744073709551615 := fun heq => hmax (UInt64.toNat_inj.mp heq)
    have hone : (1 : UInt64).toNat = 1 := rfl
    show (n + 1).toNat = _
    rw [UInt64.toNat_add, hone]
    omega

theorem le_saturatingSucc (n : UInt64) : n ≤ saturatingSucc n := by
  have hlt := n.toNat_lt
  rw [UInt64.le_iff_toNat_le, saturatingSucc_toNat]
  omega

theorem saturatingSucc_mono {a b : UInt64} (h : a ≤ b) : saturatingSucc a ≤ saturatingSucc b := by
  rw [UInt64.le_iff_toNat_le] at h ⊢
  rw [saturatingSucc_toNat, saturatingSucc_toNat]
  omega

namespace Follows

variable {a b c : UInt64}

theorem trans_le (h : Follows a b) (hle : b ≤ c) : Follows a c := UInt64.le_trans h hle

/-- What continues after a number continues after every smaller one. -/
theorem of_le (hle : a ≤ b) (h : Follows b c) : Follows a c :=
  UInt64.le_trans (saturatingSucc_mono hle) h

/-- What continues after `a` is followed by its own continuation. -/
theorem step (h : Follows a b) : Follows a (saturatingSucc b) := h.trans_le (le_saturatingSucc b)

end Follows

namespace SignalingClient

variable (c : SignalingClient)

/-- The counter continues after the number it gave out. -/
theorem takeSeq_follows : Follows c.takeSeq.1 c.takeSeq.2.nextSeq := UInt64.le_refl _

theorem le_takeSeq : c.nextSeq ≤ c.takeSeq.2.nextSeq := le_saturatingSucc c.nextSeq

/-- Observing never lowers the counter. -/
theorem le_observeSeq (seq : UInt64) : c.nextSeq ≤ (c.observeSeq seq).nextSeq := by
  unfold observeSeq
  dsimp only
  split_ifs with h
  · exact UInt64.le_of_lt h
  · exact UInt64.le_refl _

/-- The counter continues after an observed number. -/
theorem observeSeq_follows (seq : UInt64) : Follows seq (c.observeSeq seq).nextSeq := by
  unfold observeSeq Follows
  dsimp only
  split_ifs with h
  · exact UInt64.le_refl _
  · exact UInt64.not_lt.mp h

theorem le_observe (msg : SignalMessage) : c.nextSeq ≤ (c.observe msg).nextSeq := by
  unfold observe
  rcases msg.signalSeq? with _ | seq
  · exact UInt64.le_refl _
  · exact c.le_observeSeq seq

theorem observe_follows {msg : SignalMessage} {seq : UInt64} (h : msg.signalSeq? = some seq) :
    Follows seq (c.observe msg).nextSeq := by
  unfold observe
  rw [h]
  exact c.observeSeq_follows seq

end SignalingClient

end RemoteLink.Signaling
