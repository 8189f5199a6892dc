import Mathlib.Tactic.SplitIfs
import RemoteLink.Auth.Identity
import RemoteLink.Net.Transport

set_option autoImplicit false

/-!
# Transports that work

What the two ends of a session rely on when they exchange identity messages: a transport that is
up sends, polls and exports its fingerprints, and what it was given to send last can be named.

## Main definitions

* `Links` — a set of transports that are up, with their two fingerprints.
* `identityOnly` — the identity messages among data.
* `lastData` — the message that a transport sent last.
-/

namespace RemoteLink.Net

open Library Auth

variable {π : Type}

/-! ## Identity messages -/

/-- A message of the identity channel. -/
def identityMessage (data : Bytes) : DataMessage := ⟨identityChannelLabel, data, false⟩

/-- The data among callbacks. -/
def dataOf (cs : List PeerCallback) : List DataMessage :=
  cs.filterMap fun
    | .data m => some m
    | _ => none

/-- The identity messages among data. -/
def identityOnly (data : List DataMessage) : List DataMessage :=
  data.filter fun m => m.label = identityChannelLabel

theorem identityOnly_append (data more : List DataMessage) :
    identityOnly (data ++ more) = identityOnly data ++ identityOnly more :=
  List.filter_append data more

theorem identityOnly_eq_nil {data : List DataMessage} :
    identityOnly data = [] ↔ ∀ d ∈ data, d.label ≠ identityChannelLabel := by
  simp [identityOnly, List.filter_eq_nil_iff]

/-! ## Working transports -/

/-- A call that works: it succeeds, the transport stays up, and no identity message comes of it. -/
structure Works (up : π → Prop) (c : Call π Unit) : Prop where
  result : c.result = .ok ()
  up : up c.peer
  quiet : identityOnly (dataOf c.callbacks) = []

/-- Transports that are up send and poll, and export the given fingerprints. -/
structure Links (T : PeerTransport π) (own other : DtlsFingerprint) (up : π → Prop) : Prop where
  localFingerprint : ∀ p, up p → T.localFingerprint p = .ok own
  remoteFingerprint : ∀ p, up p → T.remoteFingerprint p = .ok (some other)
  sendData : ∀ p msg, up p → Works up (T.sendData p msg)
  poll : ∀ p, up p → Works up (T.poll p)

/-- The message that a transport sent last. -/
def lastData (l : Logged π) : Option DataMessage :=
  match l.sent with
  | .data m :: _ => some m
  | _ => none

/-- A transport that is up sends, and the message is the last it has sent. -/
theorem Links.logged_sendData {T : PeerTransport π} {own other : DtlsFingerprint} {up : π → Prop}
    (h : Links T own other up) {l : Logged π} (hup : up l.peer) (msg : DataMessage) :
    T.logged.sendData l msg = ⟨.ok (), ⟨(T.sendData l.peer msg).peer, .data msg :: l.sent⟩,
      (T.sendData l.peer msg).callbacks⟩ := by
  have hres := (h.sendData l.peer msg hup).result
  have hsending : T.logged.sendData l msg =
      PeerTransport.sending l (.data msg) (T.sendData l.peer msg) := rfl
  rw [hsending]
  unfold PeerTransport.sending
  simp only [hres]

/-- Keeping a log changes nothing. -/
theorem Links.logged {T : PeerTransport π} {own other : DtlsFingerprint} {up : π → Prop}
    (h : Links T own other up) : Links T.logged own other fun l => up l.peer where
  localFingerprint l hup := h.localFingerprint l.peer hup
  remoteFingerprint l hup := h.remoteFingerprint l.peer hup
  sendData l msg hup := by
    have hworks := h.sendData l.peer msg hup
    rw [h.logged_sendData hup msg]
    exact ⟨rfl, hworks.up, hworks.quiet⟩
  poll l hup :=
    have hworks := h.poll l.peer hup
    ⟨hworks.result, hworks.up, hworks.quiet⟩

end RemoteLink.Net
