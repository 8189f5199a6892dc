import RemoteLink.Server.SessionAtomicity
import RemoteLink.Server.SessionHangup

set_option autoImplicit false

/-!
# Crossing candidates

The negotiation of an active session: the host offers, the viewer answers, and then both of them
send ICE candidates. Each party numbers its messages with its own counter, which continues after
the numbers it has received, so the numbers of messages that cross may collide. The relay refuses
an offer or answer with a stale number, and drops a candidate with one.

## Main definitions

* `Loop`, `sends`, `receives` — the loops of the two parties, and what makes them go on or end.
* `Negotiation`, `negotiation` — the interleavings of the two parties and the server.
* `overtaken` — a message of the other party with a number that is not below was handled first.
* `Negotiation.relayed` — the messages that were not overtaken.
* `Progress` — the phases of the negotiation.

## Main results

* `crossing_relayed` — offer and answer are delivered, a candidate is unless it was overtaken, and
  no loop ends.
* `crossing_dropped` — a run in which a candidate is dropped.
-/

namespace RemoteLink.Server

open RemoteLink.Library RemoteLink.Protocol RemoteLink.Signaling

/-! ## The parties -/

/-- The other role. -/
def peer : Role → Role
  | .host => .viewer
  | .viewer => .host

@[simp] theorem peer_peer (r : Role) : peer (peer r) = r := by cases r <;> rfl

theorem peer_injective : Function.Injective peer := fun r r' h => by
  rw [← peer_peer r, h, peer_peer]

/-- A role is one of the two. -/
theorem eq_or_eq_peer (r r' : Role) : r' = r ∨ r' = peer r := by
  cases r <;> cases r' <;> simp [peer]

/-- The connection of a party of the session. -/
def Session.connOf (s : Session) : Role → ConnId
  | .host => s.hostConn
  | .viewer => s.viewerConn

/-- Where the loop of a party is: it is about to send its description, it waits for the one of the
other party, it trickles candidates, or an error or the end of the session made it return. -/
inductive Loop where
  | describing
  | awaiting
  | trickling
  | ended
  deriving Repr, DecidableEq

/-- The loop after the party has sent a message, if it sends this message there. The host offers,
waits for the answer and then sends candidates; the viewer waits for the offer, answers and then
sends candidates. -/
def sends : Role → Loop → SignalMessage → Option Loop
  | .host, .describing, .sessionOffer .. => some .awaiting
  | .viewer, .describing, .sessionAnswer .. => some .trickling
  | _, .trickling, .iceCandidate .. => some .trickling
  | _, _, _ => none

/-- The loop after the party has received a message, if it receives there. An error is returned by
`recv`, and ends the loop like the end of the session. -/
def receives : Role → Loop → SignalMessage → Option Loop
  | _, .describing, _ | _, .ended, _ => none
  | _, _, .error .. | _, _, .sessionEnd .. => some .ended
  | .host, _, .sessionAnswer .. => some .trickling
  | .viewer, _, .sessionOffer .. => some .describing
  | _, l, _ => some l

/-- A message on which no loop goes on or ends. -/
def idleMessage : SignalMessage → Bool
  | .error .. | .sessionEnd .. | .sessionAnswer .. | .sessionOffer .. => false
  | _ => true

/-! ## The system -/

/-- The registry, the client and the loop of each party, and the messages that the server has
handled, newest first. The last component only records history. -/
structure Negotiation where
  registry : RegistryInner
  ends : Role → Endpoint
  loops : Role → Loop
  handled : List (Role × Posted)

/-- An event of the parties and the server. -/
inductive NegotiationEvent where
  | post (r : Role) (msg : SignalMessage)
  | receive (r : Role)
  /-- The server handles the oldest message in flight from a party. -/
  | handle (r : Role) (now : Time)

/-- Everything put on the channel of a connection so far, oldest first. -/
def RegistryInner.channel (g : RegistryInner) (conn : ConnId) : List SignalMessage :=
  (g.sent.filter fun x => x.1 = conn).map Prod.snd

/-- The registry after a call for `conn`: an error is sent back. -/
def RegistryInner.replied (conn : ConnId) :
    Except SignalMessage Unit × RegistryInner → RegistryInner
  | (.ok _, g) => g
  | (.error e, g) => (g.sendTo conn e).2

/-- A message of the other party with a number that is not below was handled before. -/
def overtaken (handled : List (Role × Posted)) (r : Role) (x : Posted) : Bool :=
  handled.any fun y => decide (y.1 ≠ r) && decide (x.seq < saturatingSucc y.2.seq)

/-- The messages of a party that were not overtaken when they were handled, oldest first. -/
def relayed (r : Role) : List (Role × Posted) → List Posted
  | [] => []
  | (r', x) :: older =>
    if r' = r ∧ overtaken older r x = false then relayed r older ++ [x] else relayed r older

section

variable (s : Session) (base : Role → Nat)

/-- What is on the channel of a party since the first `base` messages. -/
def Negotiation.inbox (w : Negotiation) (r : Role) : List SignalMessage :=
  (w.registry.channel (s.connOf r)).drop (base r)

/-- One step of the negotiation of the session `s`. -/
def negotiate (w : Negotiation) : NegotiationEvent → Option Negotiation
  | .post r msg =>
    match sends r (w.loops r) msg, (w.ends r).post msg with
    | some l, some p =>
      if msg.sessionId? = some s.sessionId then
        some { w with ends := Function.update w.ends r p, loops := Function.update w.loops r l }
      else none
    | _, _ => none
  | .receive r =>
    match (w.inbox s base r)[(w.ends r).received]?, (w.ends r).receive (w.inbox s base r) with
    | some msg, some p => (receives r (w.loops r) msg).map fun l =>
      { w with ends := Function.update w.ends r p, loops := Function.update w.loops r l }
    | _, _ => none
  | .handle r now =>
    match (w.ends r).outbox with
    | x :: rest => some {
      registry :=
        .replied (s.connOf r) (w.registry.relayMediaSignal (s.connOf r) x.msg now)
      ends := Function.update w.ends r { w.ends r with outbox := rest }
      loops := w.loops
      handled := (r, x) :: w.handled }
    | [] => none

/-- All interleavings of the two parties and the server, from `start`. -/
def negotiation (start : Negotiation) : System Negotiation NegotiationEvent where
  init w := w = start
  step := negotiate s base

/-- A step while the session is active: the server does not read a clock past its expiry. -/
def Timely (_ : Negotiation) : NegotiationEvent → Prop
  | .handle _ now => now < s.expiresAt
  | _ => True

/-- **The start of a negotiation.** The session is active, its parties are connected and have no
other session; neither has a message in flight, and no offer, answer, end or error is unread. The
host is about to offer, under a number that continues after its accept. -/
structure Opened (w : Negotiation) : Prop where
  stored : w.registry.sessions.lookup s.sessionId = some s
  active : s.state = .active
  parties : s.hostConn ≠ s.viewerConn
  alone : ∀ sid t, w.registry.sessions.lookup sid = some t → (∃ r, t.party (s.connOf r)) →
    sid = s.sessionId
  reaches : ∀ r, w.registry.reaches (s.connOf r) = true
  numbered : s.nextSignalSeq ≤ (w.ends .host).client.nextSeq
  outbox : ∀ r, (w.ends r).outbox = []
  based : ∀ r, base r ≤ (w.registry.channel (s.connOf r)).length
  received : ∀ r, (w.ends r).received = 0
  unread : ∀ r, ∀ m ∈ w.inbox s base r, idleMessage m = true
  host : w.loops .host = .describing
  viewer : w.loops .viewer = .awaiting
  handled : w.handled = []

end

/-! ## What a relay does to the channels -/

namespace RegistryInner

variable {g : RegistryInner} {conn : ConnId} {now : Time}

/-- Closing a session leaves the channels of the others alone. -/
theorem channel_close {sid : String} (reason : String)
    (h : ∀ t, g.sessions.lookup sid = some t → ¬t.party conn) :
    (g.closeSessionLocked sid reason).channel conn = g.channel conn := by
  unfold closeSessionLocked
  rcases hs : g.sessions.lookup sid with _ | t
  · rfl
  · have hnot := h t hs
    dsimp only
    split_ifs
    · rfl
    · unfold channel
      have hhost : ¬t.hostConn = conn := fun heq => hnot (.inl heq)
      have hviewer : ¬t.viewerConn = conn := fun heq => hnot (.inr heq)
      rw [push_sent, push_sent]
      split_ifs <;> simp [hhost, hviewer]

theorem channel_closeAll (sids : List String) (reason : String)
    (h : ∀ sid ∈ sids, ∀ t, g.sessions.lookup sid = some t → ¬t.party conn) :
    (g.closeAll sids reason).channel conn = g.channel conn := by
  induction sids generalizing g with
  | nil => rfl
  | cons sid sids ih =>
    have hrest : ∀ k ∈ sids, ∀ t,
        (g.closeSessionLocked sid reason).sessions.lookup k = some t → ¬t.party conn := by
      intro k hk t ht
      rw [sessions_close] at ht
      split_ifs at ht
      exact h k (List.mem_cons_of_mem sid hk) t ht
    have hcons : g.closeAll (sid :: sids) reason =
        (g.closeSessionLocked sid reason).closeAll sids reason := rfl
    rw [hcons, ih hrest, channel_close reason (h sid List.mem_cons_self)]

/-- **Reaping leaves the channel of a connection alone** whose only session has not expired. -/
theorem channel_reap {s : Session} (hs : g.sessions.lookup s.sessionId = some s)
    (halone : ∀ sid t, g.sessions.lookup sid = some t → t.party conn → sid = s.sessionId)
    (hnow : now < s.expiresAt) : (g.reapExpired now).2.channel conn = g.channel conn := by
  refine channel_closeAll _ _ fun sid hsid t ht hparty => ?_
  obtain ⟨t', ht', -, hexpired⟩ := mem_expired.mp hsid
  obtain rfl := halone sid t ht hparty
  obtain rfl := Option.some.inj (hs.symm.trans ht')
  exact absurd hnow (Int.not_lt.mpr hexpired)

/-- A session that has not expired is not reaped. -/
theorem lookup_reap {s : Session} (hs : g.sessions.lookup s.sessionId = some s)
    (hnow : now < s.expiresAt) : (g.reapExpired now).2.sessions.lookup s.sessionId = some s := by
  rw [sessions_reap, if_neg, hs]
  intro hmem
  obtain ⟨t, ht, -, hexpired⟩ := mem_expired.mp hmem
  obtain rfl := Option.some.inj (hs.symm.trans ht)
  exact absurd hnow (Int.not_lt.mpr hexpired)

variable {t : Session} {sid : String} {seq : UInt64} {msg : SignalMessage}

/-- A stale candidate is dropped without an error. -/
theorem relay_dropped (hkey : relayKey? msg = some (sid, seq))
    (ht : (g.reapExpired now).2.sessions.lookup sid = some t) (hparty : t.party conn)
    (hactive : t.state = .active) (hseq : seq < t.nextSignalSeq)
    (hice : isIceCandidate msg = true) :
    replied conn (g.relayMediaSignal conn msg now) = (g.reapExpired now).2 := by
  have hin : ¬(t.hostConn ≠ conn ∧ t.viewerConn ≠ conn) := by
    rintro ⟨hhost, hviewer⟩
    exact hparty.elim hhost hviewer
  have hact : ¬t.state ≠ .active := fun h => h hactive
  unfold relayMediaSignal
  simp only [hkey, ht, if_neg hin, if_neg hact, if_pos hseq, hice, if_true]
  rfl

/-- A message that passes the checks is put on the channel of the other party. -/
theorem relay_forwarded (hkey : relayKey? msg = some (sid, seq))
    (ht : (g.reapExpired now).2.sessions.lookup sid = some t) (hparty : t.party conn)
    (hactive : t.state = .active) (hseq : ¬seq < t.nextSignalSeq)
    (hrole : relayRoleError msg (decide (t.hostConn = conn)) = none)
    (hreach : g.reaches (t.otherParty conn) = true) :
    replied conn (g.relayMediaSignal conn msg now) = { (g.reapExpired now).2 with
      sessions := (g.reapExpired now).2.sessions.insert sid (t.relayed seq)
      sent := (g.reapExpired now).2.sent ++ [(t.otherParty conn, msg)] } := by
  rw [relay_checked hkey ht hparty hactive hseq hrole]
  rcases (g.reapExpired now).2.forward_cases conn sid seq t msg with ⟨-, heq⟩ | ⟨hnone, -⟩
  · rw [heq]
    rfl
  · rw [reap_reaches, hreach] at hnone
    cases hnone

end RegistryInner

/-! ## What every phase keeps -/

/-- The session when it expects the number `next`. -/
def Session.expecting (s : Session) (next : UInt64) : Session := { s with nextSignalSeq := next }

/-- The messages that a party sends in the negotiation. -/
def describes : Role → SignalMessage → Bool
  | .host, .sessionOffer .. | .viewer, .sessionAnswer .. | _, .iceCandidate .. => true
  | _, _ => false

section

variable (s : Session) (base : Role → Nat)

/-- The number that the session expects is the one it started with, or continues after the largest
one handled. -/
structure Expects (handled : List (Role × Posted)) (next : UInt64) : Prop where
  attained : handled = [] ∧ next = s.nextSignalSeq ∨
    ∃ y ∈ handled, next = saturatingSucc y.2.seq
  above : ∀ y ∈ handled, Follows y.2.seq next

/-- What every step keeps: the session is active and alone, the channels hold what they held at the
start and what was relayed since, and the parties are ahead of the numbers they know. -/
structure Steady (start w : Negotiation) : Prop where
  stored : ∃ next, w.registry.sessions.lookup s.sessionId = some (s.expecting next) ∧
    Expects s w.handled next
  alone : ∀ sid t, w.registry.sessions.lookup sid = some t → (∃ r, t.party (s.connOf r)) →
    sid = s.sessionId
  reaches : ∀ r, w.registry.reaches (s.connOf r) = true
  based : ∀ r, base r ≤ (w.registry.channel (s.connOf r)).length
  inbox : ∀ r, w.inbox s base (peer r) =
    start.inbox s base (peer r) ++ (relayed r w.handled).map Posted.msg
  ahead : ∀ r, (w.ends r).Ahead (w.inbox s base r) fun q => ∃ x, (r, x) ∈ w.handled ∧ x.seq = q
  posted : ∀ r, ∀ x ∈ (w.ends r).outbox,
    describes r x.msg = true ∧ x.msg.sessionId? = some s.sessionId

end

section

variable {s : Session} {base : Role → Nat} {start w w' : Negotiation} {r : Role} {x : Posted}
  {rest : List Posted} {now : Time}

/-- What a party sends is relayed under the id and the number it carries. -/
theorem describes_key {msg : SignalMessage} {sid : String} {seq : UInt64}
    (h : describes r msg = true) (hsid : msg.sessionId? = some sid)
    (hseq : msg.signalSeq? = some seq) : RegistryInner.relayKey? msg = some (sid, seq) := by
  cases msg <;> cases r <;>
    simp_all [describes, RegistryInner.relayKey?, SignalMessage.sessionId?,
      SignalMessage.signalSeq?]

theorem describes_role {msg : SignalMessage} (h : describes r msg = true) :
    RegistryInner.relayRoleError msg (decide (r = .host)) = none := by
  cases msg <;> cases r <;> simp_all [describes, RegistryInner.relayRoleError]

theorem Session.party_connOf (s : Session) (r : Role) : s.party (s.connOf r) := by
  cases r
  · exact .inl rfl
  · exact .inr rfl

theorem Session.otherParty_connOf (h : s.hostConn ≠ s.viewerConn) (r : Role) :
    s.otherParty (s.connOf r) = s.connOf (peer r) := by
  cases r
  · exact if_pos rfl
  · exact if_neg h

/-- **A number is stale exactly when it was overtaken.** -/
theorem Steady.stale_iff (h : Steady s base start w) {next : UInt64}
    (hnext : Expects s w.handled next) (hx : x ∈ (w.ends r).outbox)
    (hfirst : w.handled = [] → s.nextSignalSeq ≤ x.seq) :
    x.seq < next ↔ overtaken w.handled r x = true := by
  unfold overtaken
  rw [List.any_eq_true]
  constructor
  · intro hlt
    rcases hnext.attained with ⟨hnil, rfl⟩ | ⟨y, hy, rfl⟩
    · exact absurd hlt (UInt64.not_lt.mpr (hfirst hnil))
    · refine ⟨y, hy, ?_⟩
      rw [Bool.and_eq_true, decide_eq_true_eq, decide_eq_true_eq]
      refine ⟨?_, hlt⟩
      -- a party's own numbers come before the one it takes
      rintro rfl
      exact absurd hlt (UInt64.not_lt.mpr ((h.ahead y.1).own_posted x hx y.2.seq ⟨y.2, hy, rfl⟩))
  · rintro ⟨y, hy, hboth⟩
    rw [Bool.and_eq_true, decide_eq_true_eq, decide_eq_true_eq] at hboth
    exact UInt64.lt_of_lt_of_le hboth.2 (hnext.above y hy)

/-- A number below the expected one is followed by it. -/
theorem follows_of_lt {a b : UInt64} (h : a < b) : Follows a b := by
  have hb := b.toNat_lt
  rw [UInt64.lt_iff_toNat_lt] at h
  unfold Follows
  rw [UInt64.le_iff_toNat_le, saturatingSucc_toNat]
  omega

/-- A message that is not stale is the one after which the session continues. -/
theorem Expects.fresh {next : UInt64} (h : Expects s w.handled next) (hseq : ¬x.seq < next) :
    Expects s ((r, x) :: w.handled) (saturatingSucc x.seq) where
  attained := .inr ⟨(r, x), List.mem_cons_self, rfl⟩
  above y hy := by
    rcases List.mem_cons.mp hy with rfl | hy
    · exact UInt64.le_refl _
    · exact ((h.above y hy).trans_le (UInt64.not_lt.mp hseq)).step

/-- A stale message leaves the expected number, which continues after it. -/
theorem Expects.stale {next : UInt64} (h : Expects s w.handled next) (hseq : x.seq < next)
    (hfirst : w.handled = [] → s.nextSignalSeq ≤ x.seq) :
    Expects s ((r, x) :: w.handled) next where
  attained := by
    rcases h.attained with ⟨hnil, rfl⟩ | ⟨y, hy, heq⟩
    · exact absurd hseq (UInt64.not_lt.mpr (hfirst hnil))
    · exact .inr ⟨y, List.mem_cons_of_mem _ hy, heq⟩
  above y hy := by
    rcases List.mem_cons.mp hy with rfl | hy
    · exact follows_of_lt hseq
    · exact h.above y hy

/-- What the relay of a message leaves of the registry. -/
structure Relayed (s : Session) (w : Negotiation) (r : Role) (x : Posted) (g : RegistryInner) :
    Prop where
  stored : ∃ next, g.sessions.lookup s.sessionId = some (s.expecting next) ∧
    Expects s ((r, x) :: w.handled) next
  alone : ∀ sid t, g.sessions.lookup sid = some t → (∃ r, t.party (s.connOf r)) →
    sid = s.sessionId
  conns : g.conns = w.registry.conns
  channel : ∀ r', g.channel (s.connOf r') = w.registry.channel (s.connOf r') ++
    if r' = peer r ∧ overtaken w.handled r x = false then [x.msg] else []

/-- **The relay of the next message**: it is dropped if it was overtaken, and forwarded if not. -/
theorem Steady.relay (h : Steady s base start w) (hactive : s.state = .active)
    (hparties : s.hostConn ≠ s.viewerConn) (hnow : now < s.expiresAt)
    (hx : x ∈ (w.ends r).outbox) (hfirst : w.handled = [] → s.nextSignalSeq ≤ x.seq)
    (hfresh : RegistryInner.isIceCandidate x.msg = true ∨ overtaken w.handled r x = false) :
    Relayed s w r x
      (.replied (s.connOf r) (w.registry.relayMediaSignal (s.connOf r) x.msg now)) := by
  obtain ⟨next, hstored, hnext⟩ := h.stored
  obtain ⟨hdescribes, hsid⟩ := h.posted r x hx
  have hkey := describes_key hdescribes hsid x.numbered
  have hlookup : (w.registry.reapExpired now).2.sessions.lookup s.sessionId =
      some (s.expecting next) := RegistryInner.lookup_reap (s := s.expecting next) hstored hnow
  have hchannel : ∀ r', (w.registry.reapExpired now).2.channel (s.connOf r') =
      w.registry.channel (s.connOf r') := fun r' =>
    RegistryInner.channel_reap (s := s.expecting next) hstored
      (fun sid t ht hparty => h.alone sid t ht ⟨r', hparty⟩) hnow
  have halone : ∀ sid t, (w.registry.reapExpired now).2.sessions.lookup sid = some t →
      (∃ r, t.party (s.connOf r)) → sid = s.sessionId :=
    fun sid t ht => h.alone sid t (RegistryInner.lookup_of_reap ht).1
  have hconns := (w.registry.reap_frame now).1
  have hstale := h.stale_iff hnext hx hfirst
  rcases hover : overtaken w.handled r x with _ | _
  · have hseq : ¬x.seq < next := fun hlt => by
      rw [hstale.mp hlt] at hover
      cases hover
    have hrole : RegistryInner.relayRoleError x.msg
        (decide ((s.expecting next).hostConn = s.connOf r)) = none := by
      have hhost : (s.hostConn = s.connOf r) ↔ r = .host := by
        cases r
        · exact ⟨fun _ => rfl, fun _ => rfl⟩
        · exact ⟨fun heq => absurd heq hparties, nofun⟩
      show RegistryInner.relayRoleError x.msg (decide (s.hostConn = s.connOf r)) = none
      rw [decide_eq_decide.mpr hhost]
      exact describes_role hdescribes
    have hother : (s.expecting next).otherParty (s.connOf r) = s.connOf (peer r) :=
      Session.otherParty_connOf hparties r
    rw [RegistryInner.relay_forwarded hkey hlookup (Session.party_connOf s r) hactive hseq hrole
      (hother ▸ h.reaches (peer r)), hother]
    refine ⟨⟨saturatingSucc x.seq, ?_, hnext.fresh hseq⟩, fun sid t ht hparty => ?_, hconns,
      fun r' => ?_⟩
    · rw [HashMap.lookup_insert_if, if_pos rfl]
      rfl
    · rw [HashMap.lookup_insert_if] at ht
      split_ifs at ht with hsid'
      · exact hsid'
      · exact halone sid t ht hparty
    · rw [← hchannel r']
      unfold RegistryInner.channel
      rw [List.filter_append, List.map_append]
      by_cases hr : r' = peer r
      · subst hr
        simp [hover]
      · have hconn : s.connOf (peer r) ≠ s.connOf r' := by
          cases r <;> cases r'
          · exact hparties.symm
          · exact absurd rfl hr
          · exact absurd rfl hr
          · exact hparties
        simp [hr, hconn]
  · have hseq := hstale.mpr hover
    have hice := hfresh.resolve_right (by rw [hover]; nofun)
    rw [RegistryInner.relay_dropped hkey hlookup (Session.party_connOf s r) hactive hseq hice]
    refine ⟨⟨next, hlookup, hnext.stale hseq hfirst⟩, halone, hconns, fun r' => ?_⟩
    rw [hchannel, if_neg, List.append_nil]
    rintro ⟨-, hnone⟩
    rw [hover] at hnone
    cases hnone

/-- What the server does with the oldest message in flight from a party. -/
theorem negotiate_handle (hout : (w.ends r).outbox = x :: rest)
    (hstep : negotiate s base w (.handle r now) = some w') :
    w' = {
      registry := .replied (s.connOf r) (w.registry.relayMediaSignal (s.connOf r) x.msg now)
      ends := Function.update w.ends r { w.ends r with outbox := rest }
      loops := w.loops
      handled := (r, x) :: w.handled } := by
  simp only [negotiate, hout] at hstep
  exact (Option.some.inj hstep).symm

/-- **Handling a message**: it comes to the channel of the other party, unless it was overtaken;
nothing else does. -/
theorem Steady.handle (h : Steady s base start w) (hactive : s.state = .active)
    (hparties : s.hostConn ≠ s.viewerConn) (hnow : now < s.expiresAt)
    (hout : (w.ends r).outbox = x :: rest)
    (hfirst : w.handled = [] → s.nextSignalSeq ≤ x.seq)
    (hfresh : RegistryInner.isIceCandidate x.msg = true ∨ overtaken w.handled r x = false)
    (hstep : negotiate s base w (.handle r now) = some w') :
    Steady s base start w' ∧ ∀ r', w'.inbox s base r' = w.inbox s base r' ++
      if r' = peer r ∧ overtaken w.handled r x = false then [x.msg] else [] := by
  have hx : x ∈ (w.ends r).outbox := hout ▸ List.mem_cons_self
  have hrelay := h.relay hactive hparties hnow hx hfirst hfresh
  obtain rfl := negotiate_handle hout hstep
  have hinbox : ∀ r', Negotiation.inbox s base ⟨.replied (s.connOf r)
      (w.registry.relayMediaSignal (s.connOf r) x.msg now),
      Function.update w.ends r { w.ends r with outbox := rest }, w.loops, (r, x) :: w.handled⟩ r' =
      w.inbox s base r' ++
        if r' = peer r ∧ overtaken w.handled r x = false then [x.msg] else [] := by
    intro r'
    unfold Negotiation.inbox
    rw [hrelay.channel r', List.drop_append_of_le_length (h.based r')]
  refine ⟨⟨hrelay.stored, hrelay.alone, fun r' => ?_, fun r' => ?_, fun r' => ?_, fun r' => ?_,
    fun r' y hy => ?_⟩, hinbox⟩
  · unfold RegistryInner.reaches
    rw [hrelay.conns]
    exact h.reaches r'
  · show base r' ≤ (RegistryInner.channel _ (s.connOf r')).length
    rw [hrelay.channel r', List.length_append]
    exact Nat.le_add_right_of_le (h.based r')
  · rw [hinbox, h.inbox r', relayed, List.append_assoc]
    by_cases hr : r = r'
    · subst hr
      cases overtaken w.handled r x <;> simp
    · have hpeer : peer r' ≠ peer r := fun heq => hr (peer_injective heq).symm
      rw [if_neg (fun hboth => hpeer hboth.1), if_neg (fun hboth => hr hboth.1), List.append_nil]
  · rw [hinbox r']
    refine Endpoint.Ahead.deliver ?_ _
    by_cases hr : r' = r
    · subst hr
      dsimp only
      rw [Function.update_self]
      refine ((h.ahead r').handle hout).mono ?_
      rintro q ⟨y, hy, rfl⟩
      rcases List.mem_cons.mp hy with heq | hy
      · obtain ⟨-, rfl⟩ := Prod.mk.inj heq
        exact .inr rfl
      · exact .inl ⟨y, hy, rfl⟩
    · dsimp only
      rw [Function.update_of_ne hr]
      refine (h.ahead r').mono ?_
      rintro q ⟨y, hy, rfl⟩
      rcases List.mem_cons.mp hy with heq | hy
      · exact absurd (Prod.mk.inj heq).1 hr
      · exact ⟨y, hy, rfl⟩
  · dsimp only at hy
    by_cases hr : r' = r
    · subst hr
      rw [Function.update_self] at hy
      exact h.posted r' y (hout ▸ List.mem_cons_of_mem x hy)
    · rw [Function.update_of_ne hr] at hy
      exact h.posted r' y hy

/-- What a party that sends has done. -/
theorem negotiate_post {msg : SignalMessage} (hstep : negotiate s base w (.post r msg) = some w') :
    ∃ l p, sends r (w.loops r) msg = some l ∧ (w.ends r).post msg = some p ∧
      msg.sessionId? = some s.sessionId ∧
      w' = { w with ends := Function.update w.ends r p, loops := Function.update w.loops r l } := by
  simp only [negotiate] at hstep
  split at hstep
  · split_ifs at hstep with hsid
    exact ⟨_, _, ‹_›, ‹_›, hsid, (Option.some.inj hstep).symm⟩
  · cases hstep

/-- What a party that receives has done. -/
theorem negotiate_receive (hstep : negotiate s base w (.receive r) = some w') :
    ∃ l p msg, (w.inbox s base r)[(w.ends r).received]? = some msg ∧
      (w.ends r).receive (w.inbox s base r) = some p ∧ receives r (w.loops r) msg = some l ∧
      w' = { w with ends := Function.update w.ends r p, loops := Function.update w.loops r l } := by
  simp only [negotiate] at hstep
  split at hstep
  · obtain ⟨l, hl, rfl⟩ := Option.map_eq_some_iff.mp hstep
    exact ⟨l, _, _, ‹_›, ‹_›, hl, rfl⟩
  · cases hstep

/-- A client that sends has one more message in flight. -/
theorem post_outbox {p p' : Endpoint} {msg : SignalMessage} (h : p.post msg = some p') :
    ∃ x, x.msg = msg ∧ x.seq = p.client.nextSeq ∧ x.seen = p.received ∧
      p'.outbox = p.outbox ++ [x] ∧ p'.received = p.received := by
  unfold Endpoint.post at h
  split_ifs at h with hseq
  obtain rfl := Option.some.inj h
  exact ⟨⟨msg, p.client.takeSeq.1, hseq, p.received⟩, rfl, rfl, rfl, rfl, rfl⟩

/-- What a party sends belongs to the negotiation. -/
theorem describes_of_sends {l l' : Loop} {msg : SignalMessage} (h : sends r l msg = some l') :
    describes r msg = true := by
  cases r <;> cases l <;> cases msg <;> first | rfl | cases h

/-- A client that stays ahead keeps what every phase keeps. -/
theorem Steady.client (h : Steady s base start w) {p : Endpoint} (l : Loop)
    (hahead : p.Ahead (w.inbox s base r) fun q => ∃ x, (r, x) ∈ w.handled ∧ x.seq = q)
    (hposted : ∀ x ∈ p.outbox, describes r x.msg = true ∧ x.msg.sessionId? = some s.sessionId) :
    Steady s base start { w with
      ends := Function.update w.ends r p
      loops := Function.update w.loops r l } := by
  refine { h with ahead := fun r' => ?_, posted := fun r' => ?_ }
  · by_cases hr : r' = r
    · subst hr
      dsimp only
      rw [Function.update_self]
      exact hahead
    · dsimp only
      rw [Function.update_of_ne hr]
      exact h.ahead r'
  · by_cases hr : r' = r
    · subst hr
      dsimp only
      rw [Function.update_self]
      exact hposted
    · dsimp only
      rw [Function.update_of_ne hr]
      exact h.posted r'

theorem Steady.post (h : Steady s base start w) {msg : SignalMessage}
    (hstep : negotiate s base w (.post r msg) = some w') : Steady s base start w' := by
  obtain ⟨l, p, hsends, hp, hsid, rfl⟩ := negotiate_post hstep
  obtain ⟨x, rfl, -, -, hout, -⟩ := post_outbox hp
  refine h.client l ((h.ahead r).post hp) fun y hy => ?_
  rw [hout] at hy
  rcases List.mem_append.mp hy with hy | hy
  · exact h.posted r y hy
  · obtain rfl := List.mem_singleton.mp hy
    exact ⟨describes_of_sends hsends, hsid⟩

theorem Steady.receive (h : Steady s base start w)
    (hstep : negotiate s base w (.receive r) = some w') : Steady s base start w' := by
  obtain ⟨l, p, msg, hmsg, hp, -, rfl⟩ := negotiate_receive hstep
  refine h.client l ((h.ahead r).receive hp) fun y hy => ?_
  obtain ⟨msg', -, rfl⟩ := Option.map_eq_some_iff.mp hp
  exact h.posted r y hy

end

/-! ## The phases -/

/-- Whether a message is the description of a party: the offer of the host, or the answer of the
viewer. -/
def isDescription : Role → SignalMessage → Bool
  | .host, .sessionOffer .. | .viewer, .sessionAnswer .. => true
  | _, _ => false

/-- A description is no candidate. -/
theorem isIceCandidate_description {r : Role} {msg : SignalMessage}
    (h : isDescription r msg = true) : RegistryInner.isIceCandidate msg = false := by
  cases r <;> cases msg <;> first | rfl | cases h

/-- No message of a list makes a loop go on or end. -/
def Idle (l : List SignalMessage) : Prop := ∀ m ∈ l, idleMessage m = true

/-- Only one message of a list makes a loop go on or end. -/
def Announces (l : List SignalMessage) (msg : SignalMessage) : Prop :=
  ∃ l₁ l₂, l = l₁ ++ msg :: l₂ ∧ Idle l₁ ∧ Idle l₂

/-- All messages in flight are candidates. -/
def Trickle (l : List Posted) : Prop := ∀ x ∈ l, RegistryInner.isIceCandidate x.msg = true

section

variable (s : Session) (base : Role → Nat)

/-- What a party has not received. -/
def Negotiation.unread (w : Negotiation) (r : Role) : List SignalMessage :=
  (w.inbox s base r).drop (w.ends r).received

/-- **The phases of a negotiation.** -/
inductive Progress (w : Negotiation) : Prop
  /-- The host has not offered. -/
  | accepted (handled : w.handled = []) (out : ∀ r, (w.ends r).outbox = [])
      (host : w.loops .host = .describing) (viewer : w.loops .viewer = .awaiting)
      (numbered : s.nextSignalSeq ≤ (w.ends .host).client.nextSeq)
      (unread : ∀ r, Idle (w.unread s base r))
  /-- The offer is in flight. -/
  | offering (x : Posted) (kind : isDescription .host x.msg = true) (handled : w.handled = [])
      (offer : (w.ends .host).outbox = [x]) (out : (w.ends .viewer).outbox = [])
      (host : w.loops .host = .awaiting) (viewer : w.loops .viewer = .awaiting)
      (numbered : s.nextSignalSeq ≤ x.seq) (unread : ∀ r, Idle (w.unread s base r))
  /-- The offer has been relayed. -/
  | offered (x : Posted) (kind : isDescription .host x.msg = true)
      (handled : w.handled = [(.host, x)]) (out : ∀ r, (w.ends r).outbox = [])
      (host : w.loops .host = .awaiting) (viewer : w.loops .viewer = .awaiting)
      (unreadHost : Idle (w.unread s base .host))
      (unreadViewer : Announces (w.unread s base .viewer) x.msg)
  /-- The viewer has received the offer. -/
  | answering (x : Posted) (handled : w.handled = [(.host, x)])
      (out : ∀ r, (w.ends r).outbox = []) (host : w.loops .host = .awaiting)
      (viewer : w.loops .viewer = .describing)
      (numbered : Follows x.seq (w.ends .viewer).client.nextSeq)
      (unread : ∀ r, Idle (w.unread s base r))
  /-- The answer is in flight. -/
  | answered (x y : Posted) (ices : List Posted) (kind : isDescription .viewer y.msg = true)
      (handled : w.handled = [(.host, x)]) (out : (w.ends .host).outbox = [])
      (answer : (w.ends .viewer).outbox = y :: ices) (trickle : Trickle ices)
      (host : w.loops .host = .awaiting) (viewer : w.loops .viewer = .trickling)
      (numbered : Follows x.seq y.seq) (unread : ∀ r, Idle (w.unread s base r))
  /-- The answer has been relayed. -/
  | agreed (msg : SignalMessage) (kind : isDescription .viewer msg = true) (handled : w.handled ≠ [])
      (out : (w.ends .host).outbox = []) (trickle : Trickle (w.ends .viewer).outbox)
      (host : w.loops .host = .awaiting) (viewer : w.loops .viewer = .trickling)
      (unreadHost : Announces (w.unread s base .host) msg)
      (unreadViewer : Idle (w.unread s base .viewer))
  /-- Both parties trickle candidates. -/
  | trickling (handled : w.handled ≠ []) (trickle : ∀ r, Trickle (w.ends r).outbox)
      (loops : ∀ r, w.loops r = .trickling) (unread : ∀ r, Idle (w.unread s base r))

end

section

variable {s : Session} {base : Role → Nat} {start w w' : Negotiation} {r : Role} {x : Posted}
  {rest : List Posted} {now : Time}

/-- A party that sends has one more message in flight, under its next number; nothing else of the
two changes. -/
theorem posted_step {msg : SignalMessage}
    (hstep : negotiate s base w (.post r msg) = some w') :
    ∃ x : Posted, x.msg = msg ∧ x.seq = (w.ends r).client.nextSeq ∧
      sends r (w.loops r) msg = some (w'.loops r) ∧
      (w'.ends r).outbox = (w.ends r).outbox ++ [x] ∧
      w'.ends (peer r) = w.ends (peer r) ∧ w'.loops (peer r) = w.loops (peer r) ∧
      w'.handled = w.handled ∧ ∀ r', w'.unread s base r' = w.unread s base r' := by
  obtain ⟨l, p, hsends, hp, -, rfl⟩ := negotiate_post hstep
  obtain ⟨x, hmsg, hseq, -, hout, hreceived⟩ := post_outbox hp
  have hne : peer r ≠ r := by cases r <;> nofun
  refine ⟨x, hmsg, hseq, ?_, ?_, Function.update_of_ne hne _ _, Function.update_of_ne hne _ _, rfl,
    fun r' => ?_⟩
  · dsimp only
    rw [Function.update_self]
    exact hsends
  · dsimp only
    rw [Function.update_self]
    exact hout
  · unfold Negotiation.unread
    by_cases hr : r' = r
    · subst hr
      dsimp only
      rw [Function.update_self, hreceived]
      rfl
    · dsimp only
      rw [Function.update_of_ne hr]
      rfl

/-- A party that receives takes the oldest message it has not received; nothing else of the two
changes. -/
theorem received_step (hstep : negotiate s base w (.receive r) = some w') :
    ∃ msg, w.unread s base r = msg :: w'.unread s base r ∧
      receives r (w.loops r) msg = some (w'.loops r) ∧
      (w'.ends r).outbox = (w.ends r).outbox ∧
      (w'.ends r).client = (w.ends r).client.observe msg ∧
      w'.ends (peer r) = w.ends (peer r) ∧ w'.loops (peer r) = w.loops (peer r) ∧
      w'.handled = w.handled ∧ w'.unread s base (peer r) = w.unread s base (peer r) := by
  obtain ⟨l, p, msg, hmsg, hp, hl, rfl⟩ := negotiate_receive hstep
  obtain ⟨msg', hmsg', rfl⟩ := Option.map_eq_some_iff.mp hp
  obtain rfl := Option.some.inj (hmsg.symm.trans hmsg')
  have hne : peer r ≠ r := by cases r <;> nofun
  refine ⟨msg, ?_, ?_, ?_, ?_, Function.update_of_ne hne _ _, Function.update_of_ne hne _ _, rfl, ?_⟩
  · unfold Negotiation.unread
    dsimp only
    rw [Function.update_self]
    obtain ⟨hlt, hget⟩ := List.getElem?_eq_some_iff.mp hmsg
    rw [List.drop_eq_getElem_cons hlt, hget]
    rfl
  · dsimp only
    rw [Function.update_self]
    exact hl
  · dsimp only
    rw [Function.update_self]
  · dsimp only
    rw [Function.update_self]
  · unfold Negotiation.unread
    dsimp only
    rw [Function.update_of_ne hne]
    rfl

/-- An idle message leaves a loop where it is. -/
theorem receives_idle {l l' : Loop} {msg : SignalMessage} (hidle : idleMessage msg = true)
    (hl : receives r l msg = some l') : l' = l := by
  unfold receives at hl
  split at hl
  all_goals first | exact (Option.some.inj hl).symm | cases hidle | cases hl

theorem Idle.tail {msg : SignalMessage} {l : List SignalMessage} (h : Idle (msg :: l)) : Idle l :=
  fun m hm => h m (List.mem_cons_of_mem msg hm)

theorem Idle.append {l l' : List SignalMessage} (h : Idle l) (h' : Idle l') : Idle (l ++ l') :=
  fun m hm => (List.mem_append.mp hm).elim (h m) (h' m)

theorem Announces.append {msg : SignalMessage} {l l' : List SignalMessage} (h : Announces l msg)
    (h' : Idle l') : Announces (l ++ l') msg := by
  obtain ⟨l₁, l₂, rfl, hl₁, hl₂⟩ := h
  exact ⟨l₁, l₂ ++ l', by rw [List.append_assoc, List.cons_append], hl₁, hl₂.append h'⟩

/-- The first message of a list with an announcement is idle, or it is the announcement. -/
theorem Announces.first {m msg : SignalMessage} {unread : List SignalMessage}
    (h : Announces (m :: unread) msg) :
    idleMessage m = true ∧ Announces unread msg ∨ m = msg ∧ Idle unread := by
  obtain ⟨l₁, l₂, heq, hl₁, hl₂⟩ := h
  rcases l₁ with _ | ⟨m', l₁⟩
  · obtain ⟨rfl, rfl⟩ := List.cons.inj heq
    exact .inr ⟨rfl, hl₂⟩
  · obtain ⟨rfl, rfl⟩ := List.cons.inj heq
    exact .inl ⟨hl₁ m List.mem_cons_self, l₁, l₂, rfl,
      fun m' hm => hl₁ m' (List.mem_cons_of_mem m hm), hl₂⟩

/-- A party sends its description once it is about to, and candidates once it trickles. -/
theorem sends_cases {l l' : Loop} {msg : SignalMessage} (h : sends r l msg = some l') :
    l = .describing ∧ isDescription r msg = true ∧
      (r = .host ∧ l' = .awaiting ∨ r = .viewer ∧ l' = .trickling) ∨
    l = .trickling ∧ RegistryInner.isIceCandidate msg = true ∧ l' = .trickling := by
  unfold sends at h
  split at h
  · exact .inl ⟨rfl, rfl, .inl ⟨rfl, (Option.some.inj h).symm⟩⟩
  · exact .inl ⟨rfl, rfl, .inr ⟨rfl, (Option.some.inj h).symm⟩⟩
  · exact .inr ⟨rfl, rfl, (Option.some.inj h).symm⟩
  · cases h

theorem Trickle.append {l : List Posted} (h : Trickle l)
    (hx : RegistryInner.isIceCandidate x.msg = true) : Trickle (l ++ [x]) := by
  intro y hy
  rcases List.mem_append.mp hy with hy | hy
  · exact h y hy
  · obtain rfl := List.mem_singleton.mp hy
    exact hx

/-- **What a party sends leads to the next phase.** -/
theorem Progress.post (h : Progress s base w) {msg : SignalMessage}
    (hstep : negotiate s base w (.post r msg) = some w') : Progress s base w' := by
  obtain ⟨x, rfl, hseq, hsends, hout, hends, hloops, hhandled, hunread⟩ := posted_step hstep
  have hidle : (∀ r', Idle (w.unread s base r')) → ∀ r', Idle (w'.unread s base r') := by
    intro h r'
    rw [hunread r']
    exact h r'
  rcases sends_cases hsends with ⟨hl, hkind, hl'⟩ | ⟨hl, hice, hl'⟩
  · cases h with
    | accepted handled out host viewer numbered unread =>
      -- the host offers
      rcases hl' with ⟨rfl, hl'⟩ | ⟨rfl, -⟩
      · refine .offering x hkind (hhandled.trans handled) ?_ ?_ hl' (hloops.trans viewer) ?_
          (hidle unread)
        · rw [hout, out]
          rfl
        · exact (congrArg Endpoint.outbox hends).trans (out .viewer)
        · rw [hseq]
          exact numbered
      · cases viewer.symm.trans hl
    | answering y handled out host viewer numbered unread =>
      -- the viewer answers
      rcases hl' with ⟨rfl, -⟩ | ⟨rfl, hl'⟩
      · cases host.symm.trans hl
      · refine .answered y x [] hkind (hhandled.trans handled) ?_ ?_ (fun _ hx => nomatch hx)
          (hloops.trans host) hl' ?_ (hidle unread)
        · exact (congrArg Endpoint.outbox hends).trans (out .host)
        · rw [hout, out]
          rfl
        · rw [hseq]
          exact numbered
    | offering y kind handled offer out host viewer numbered unread =>
      rcases hl' with ⟨rfl, -⟩ | ⟨rfl, -⟩
      · cases host.symm.trans hl
      · cases viewer.symm.trans hl
    | offered y kind handled out host viewer unreadHost unreadViewer =>
      rcases hl' with ⟨rfl, -⟩ | ⟨rfl, -⟩
      · cases host.symm.trans hl
      · cases viewer.symm.trans hl
    | answered y z ices kind handled out answer trickle host viewer numbered unread =>
      rcases hl' with ⟨rfl, -⟩ | ⟨rfl, -⟩
      · cases host.symm.trans hl
      · cases viewer.symm.trans hl
    | agreed msg kind handled out trickle host viewer unreadHost unreadViewer =>
      rcases hl' with ⟨rfl, -⟩ | ⟨rfl, -⟩
      · cases host.symm.trans hl
      · cases viewer.symm.trans hl
    | trickling handled trickle loops unread => cases (loops r).symm.trans hl
  · -- only who trickles sends candidates
    cases h with
    | answered y z ices kind handled out answer trickle host viewer numbered unread =>
      cases r with
      | host => cases host.symm.trans hl
      | viewer =>
        refine .answered y z (ices ++ [x]) kind (hhandled.trans handled) ?_ ?_ (trickle.append hice)
          (hloops.trans host) hl' numbered (hidle unread)
        · exact (congrArg Endpoint.outbox hends).trans out
        · rw [hout, answer]
          rfl
    | agreed msg kind handled out trickle host viewer unreadHost unreadViewer =>
      cases r with
      | host => cases host.symm.trans hl
      | viewer =>
        refine .agreed msg kind (hhandled ▸ handled) ?_ ?_ (hloops.trans host) hl' ?_ ?_
        · exact (congrArg Endpoint.outbox hends).trans out
        · rw [hout]
          exact trickle.append hice
        · rw [hunread]
          exact unreadHost
        · rw [hunread]
          exact unreadViewer
    | trickling handled trickle loops unread =>
      refine .trickling (hhandled ▸ handled) (fun r' => ?_) (fun r' => ?_) (hidle unread)
      · rcases eq_or_eq_peer r r' with rfl | rfl
        · rw [hout]
          exact (trickle r').append hice
        · rw [hends]
          exact trickle (peer r)
      · rcases eq_or_eq_peer r r' with rfl | rfl
        · exact hl'
        · rw [hloops]
          exact loops (peer r)
    | accepted handled out host viewer numbered unread =>
      cases r
      · cases host.symm.trans hl
      · cases viewer.symm.trans hl
    | answering y handled out host viewer numbered unread =>
      cases r
      · cases host.symm.trans hl
      · cases viewer.symm.trans hl
    | offering y kind handled offer out host viewer numbered unread =>
      cases r
      · cases host.symm.trans hl
      · cases viewer.symm.trans hl
    | offered y kind handled out host viewer unreadHost unreadViewer =>
      cases r
      · cases host.symm.trans hl
      · cases viewer.symm.trans hl

/-- The viewer that waits for the offer answers it, the host that waits for the answer goes on. -/
theorem receives_description {l' : Loop} {msg : SignalMessage}
    (hkind : isDescription (peer r) msg = true) (h : receives r .awaiting msg = some l') :
    r = .host ∧ l' = .trickling ∨ r = .viewer ∧ l' = .describing := by
  cases r <;> cases msg <;> simp_all [receives, isDescription, peer]

/-- **What a party receives leads to the next phase**, or leaves the negotiation where it is. -/
theorem Progress.receive (h : Progress s base w)
    (hstep : negotiate s base w (.receive r) = some w') : Progress s base w' := by
  obtain ⟨msg, hunread, hreceives, hout, hclient, hends, hloops, hhandled, hother⟩ :=
    received_step hstep
  have houtbox : ∀ r', (w'.ends r').outbox = (w.ends r').outbox := by
    intro r'
    rcases eq_or_eq_peer r r' with rfl | rfl
    · exact hout
    · rw [hends]
  -- an idle message leaves the loops where they are
  have hstay : idleMessage msg = true → ∀ r', w'.loops r' = w.loops r' := by
    intro hidle r'
    rcases eq_or_eq_peer r r' with rfl | rfl
    · exact receives_idle hidle hreceives
    · exact hloops
  have hidle : (∀ r', Idle (w.unread s base r')) →
      idleMessage msg = true ∧ ∀ r', Idle (w'.unread s base r') := by
    intro h
    have hr := h r
    rw [hunread] at hr
    refine ⟨hr msg List.mem_cons_self, fun r' => ?_⟩
    rcases eq_or_eq_peer r r' with rfl | rfl
    · exact hr.tail
    · rw [hother]
      exact h (peer r)
  have hnext : ∀ r', (w.ends r').client.nextSeq ≤ (w'.ends r').client.nextSeq := by
    intro r'
    rcases eq_or_eq_peer r r' with rfl | rfl
    · rw [hclient]
      exact SignalingClient.le_observe _ msg
    · rw [hends]
      exact UInt64.le_refl _
  cases h with
  | accepted handled out host viewer numbered unread =>
    obtain ⟨hmsg, hunread'⟩ := hidle unread
    exact .accepted (hhandled.trans handled) (fun r' => (houtbox r').trans (out r'))
      ((hstay hmsg _).trans host) ((hstay hmsg _).trans viewer)
      (UInt64.le_trans numbered (hnext .host)) hunread'
  | offering x kind handled offer out host viewer numbered unread =>
    obtain ⟨hmsg, hunread'⟩ := hidle unread
    exact .offering x kind (hhandled.trans handled) ((houtbox _).trans offer)
      ((houtbox _).trans out) ((hstay hmsg _).trans host) ((hstay hmsg _).trans viewer) numbered
      hunread'
  | offered x kind handled out host viewer unreadHost unreadViewer =>
    have hout' := fun r' => (houtbox r').trans (out r')
    cases r with
    | host =>
      rw [hunread] at unreadHost
      have hmsg := unreadHost msg List.mem_cons_self
      refine .offered x kind (hhandled.trans handled) hout' ((hstay hmsg _).trans host)
        ((hstay hmsg _).trans viewer) unreadHost.tail ?_
      exact hother ▸ unreadViewer
    | viewer =>
      rw [hunread] at unreadViewer
      rcases unreadViewer.first with ⟨hmsg, hrest⟩ | ⟨rfl, hrest⟩
      · refine .offered x kind (hhandled.trans handled) hout' ((hstay hmsg _).trans host)
          ((hstay hmsg _).trans viewer) ?_ hrest
        exact hother ▸ unreadHost
      · -- the offer
        rw [viewer] at hreceives
        rcases receives_description (r := .viewer) kind hreceives with ⟨hr, -⟩ | ⟨-, hl'⟩
        · cases hr
        refine .answering x (hhandled.trans handled) hout' (hloops.trans host) hl' ?_ fun r' => ?_
        · rw [hclient]
          exact SignalingClient.observe_follows _ x.numbered
        · rcases eq_or_eq_peer .viewer r' with rfl | rfl
          · exact hrest
          · rw [hother]
            exact unreadHost
  | answering x handled out host viewer numbered unread =>
    obtain ⟨hmsg, hunread'⟩ := hidle unread
    exact .answering x (hhandled.trans handled) (fun r' => (houtbox r').trans (out r'))
      ((hstay hmsg _).trans host) ((hstay hmsg _).trans viewer)
      (numbered.trans_le (hnext .viewer)) hunread'
  | answered x y ices kind handled out answer trickle host viewer numbered unread =>
    obtain ⟨hmsg, hunread'⟩ := hidle unread
    exact .answered x y ices kind (hhandled.trans handled) ((houtbox _).trans out)
      ((houtbox _).trans answer) trickle ((hstay hmsg _).trans host)
      ((hstay hmsg _).trans viewer) numbered hunread'
  | agreed m kind handled out trickle host viewer unreadHost unreadViewer =>
    have htrickle : Trickle (w'.ends .viewer).outbox := by
      rw [houtbox]
      exact trickle
    cases r with
    | host =>
      rw [hunread] at unreadHost
      rcases unreadHost.first with ⟨hmsg, hrest⟩ | ⟨rfl, hrest⟩
      · refine .agreed m kind (hhandled ▸ handled) ((houtbox _).trans out) htrickle
          ((hstay hmsg _).trans host) ((hstay hmsg _).trans viewer) hrest ?_
        exact hother ▸ unreadViewer
      · -- the answer
        rw [host] at hreceives
        rcases receives_description (r := .host) kind hreceives with ⟨-, hl'⟩ | ⟨hr, -⟩
        · refine .trickling (hhandled ▸ handled) (fun r' => ?_) (fun r' => ?_) fun r' => ?_
          · rcases eq_or_eq_peer .host r' with rfl | rfl
            · rw [houtbox, out]
              exact fun _ hx => nomatch hx
            · exact htrickle
          · rcases eq_or_eq_peer .host r' with rfl | rfl
            · exact hl'
            · exact hloops.trans viewer
          · rcases eq_or_eq_peer .host r' with rfl | rfl
            · exact hrest
            · rw [hother]
              exact unreadViewer
        · cases hr
    | viewer =>
      rw [hunread] at unreadViewer
      have hmsg := unreadViewer msg List.mem_cons_self
      refine .agreed m kind (hhandled ▸ handled) ((houtbox _).trans out) htrickle
        ((hstay hmsg _).trans host) ((hstay hmsg _).trans viewer) ?_ unreadViewer.tail
      exact hother ▸ unreadHost
  | trickling handled trickle loops unread =>
    obtain ⟨hmsg, hunread'⟩ := hidle unread
    refine .trickling (hhandled ▸ handled) (fun r' => ?_) (fun r' => (hstay hmsg r').trans (loops r'))
      hunread'
    rw [houtbox]
    exact trickle r'

/-- **Only candidates are overtaken**: when the offer is handled nothing else has been, and the
answer continues after the offer. -/
theorem Progress.fresh (h : Progress s base w) (hout : (w.ends r).outbox = x :: rest) :
    (w.handled = [] → s.nextSignalSeq ≤ x.seq) ∧
      (RegistryInner.isIceCandidate x.msg = true ∨ overtaken w.handled r x = false) := by
  have hnone : ∀ {l : List Posted}, l = [] → l ≠ x :: rest := fun h => h ▸ nofun
  cases h with
  | accepted handled out host viewer numbered unread => exact absurd hout (hnone (out r))
  | offering y kind handled offer out host viewer numbered unread =>
    cases r with
    | host =>
      obtain ⟨rfl, -⟩ := List.cons.inj (offer.symm.trans hout)
      refine ⟨fun _ => numbered, .inr ?_⟩
      rw [handled]
      rfl
    | viewer => exact absurd hout (hnone out)
  | offered y kind handled out host viewer unreadHost unreadViewer =>
    exact absurd hout (hnone (out r))
  | answering y handled out host viewer numbered unread => exact absurd hout (hnone (out r))
  | answered y z ices kind handled out answer trickle host viewer numbered unread =>
    cases r with
    | host => exact absurd hout (hnone out)
    | viewer =>
      obtain ⟨rfl, -⟩ := List.cons.inj (answer.symm.trans hout)
      refine ⟨fun hnil => ?_, .inr ?_⟩
      · rw [handled] at hnil
        cases hnil
      · have hlt : ¬z.seq < saturatingSucc y.seq := UInt64.not_lt.mpr numbered
        rw [handled]
        simp [overtaken, hlt]
  | agreed msg kind handled out trickle host viewer unreadHost unreadViewer =>
    cases r with
    | host => exact absurd hout (hnone out)
    | viewer =>
      refine ⟨fun hnil => absurd hnil handled, .inl (trickle x ?_)⟩
      rw [hout]
      exact List.mem_cons_self
  | trickling handled trickle loops unread =>
    refine ⟨fun hnil => absurd hnil handled, .inl (trickle r x ?_)⟩
    rw [hout]
    exact List.mem_cons_self

/-- What the server handles is no longer in flight; nothing else of the parties changes. -/
theorem handled_step (hout : (w.ends r).outbox = x :: rest)
    (hstep : negotiate s base w (.handle r now) = some w') :
    (w'.ends r).outbox = rest ∧ w'.ends (peer r) = w.ends (peer r) ∧
      (∀ r', (w'.ends r').client = (w.ends r').client ∧
        (w'.ends r').received = (w.ends r').received) ∧
      w'.loops = w.loops ∧ w'.handled = (r, x) :: w.handled := by
  obtain rfl := negotiate_handle hout hstep
  have hne : peer r ≠ r := by cases r <;> nofun
  refine ⟨?_, Function.update_of_ne hne _ _, fun r' => ?_, rfl, rfl⟩
  · dsimp only
    rw [Function.update_self]
  · dsimp only
    by_cases hr : r' = r
    · subst hr
      rw [Function.update_self]
      exact ⟨rfl, rfl⟩
    · rw [Function.update_of_ne hr]
      exact ⟨rfl, rfl⟩

/-- A candidate that is relayed, or dropped, makes no loop go on or end. -/
theorem idle_relayed {msg : SignalMessage} (h : RegistryInner.isIceCandidate msg = true) (P : Prop)
    [Decidable P] : Idle (if P then [msg] else []) := by
  split_ifs
  · intro m hm
    obtain rfl := List.mem_singleton.mp hm
    cases m <;> first | rfl | cases h
  · exact fun _ hm => nomatch hm

/-- **What the server handles leads to the next phase.** -/
theorem Progress.handle (h : Progress s base w) (hs : Steady s base start w)
    (hactive : s.state = .active) (hparties : s.hostConn ≠ s.viewerConn) (hnow : now < s.expiresAt)
    (hstep : negotiate s base w (.handle r now) = some w') :
    Steady s base start w' ∧ Progress s base w' := by
  obtain ⟨x, rest, hout⟩ : ∃ x rest, (w.ends r).outbox = x :: rest := by
    rcases hout : (w.ends r).outbox with _ | ⟨x, rest⟩
    · simp only [negotiate, hout] at hstep
      cases hstep
    · exact ⟨x, rest, rfl⟩
  obtain ⟨hfirst, hfresh⟩ := h.fresh hout
  obtain ⟨hsteady, hinbox⟩ := hs.handle hactive hparties hnow hout hfirst hfresh hstep
  obtain ⟨hrest, hends, hkept, hloops, hhandled⟩ := handled_step hout hstep
  have hunread : ∀ r', w'.unread s base r' = w.unread s base r' ++
      if r' = peer r ∧ overtaken w.handled r x = false then [x.msg] else [] := by
    intro r'
    unfold Negotiation.unread
    rw [hinbox r', (hkept r').2, List.drop_append_of_le_length (hs.ahead r').received_le]
  have hnone : ∀ {l : List Posted}, l = [] → l ≠ x :: rest := fun h => h ▸ nofun
  have hsame : ∀ r', r' ≠ peer r → w'.unread s base r' = w.unread s base r' := by
    intro r' hr'
    rw [hunread, if_neg (fun hboth => hr' hboth.1), List.append_nil]
  have hidle : RegistryInner.isIceCandidate x.msg = true → ∀ r', Idle (w.unread s base r') →
      Idle (w'.unread s base r') := by
    intro hice r' hr'
    rw [hunread]
    exact hr'.append (idle_relayed hice _)
  have hcons : w'.handled ≠ [] := by
    rw [hhandled]
    exact List.cons_ne_nil _ _
  refine ⟨hsteady, ?_⟩
  cases h with
  | accepted handled out host viewer numbered unread => exact absurd hout (hnone (out r))
  | offered y kind handled out host viewer unreadHost unreadViewer =>
    exact absurd hout (hnone (out r))
  | answering y handled out host viewer numbered unread => exact absurd hout (hnone (out r))
  | offering y kind handled offer out host viewer numbered unread =>
    cases r with
    | viewer => exact absurd hout (hnone out)
    | host =>
      -- the offer is relayed
      obtain ⟨rfl, rfl⟩ := List.cons.inj (offer.symm.trans hout)
      refine .offered y kind (handled ▸ hhandled) (fun r' => ?_) (hloops ▸ host) (hloops ▸ viewer)
        ?_ ?_
      · rcases eq_or_eq_peer .host r' with rfl | rfl
        · exact hrest
        · rw [hends]
          exact out
      · rw [hsame .host nofun]
        exact unread .host
      · rw [hunread, if_pos ⟨rfl, by rw [handled]; rfl⟩]
        exact ⟨_, [], rfl, unread .viewer, fun _ hm => nomatch hm⟩
  | answered y z ices kind handled out answer trickle host viewer numbered unread =>
    cases r with
    | host => exact absurd hout (hnone out)
    | viewer =>
      -- the answer is relayed
      obtain ⟨rfl, rfl⟩ := List.cons.inj (answer.symm.trans hout)
      have hnot : overtaken w.handled .viewer z = false := by
        refine hfresh.resolve_left ?_
        rw [isIceCandidate_description kind]
        exact Bool.false_ne_true
      refine .agreed z.msg kind hcons ?_ (hrest ▸ trickle) (hloops ▸ host) (hloops ▸ viewer) ?_ ?_
      · exact (congrArg Endpoint.outbox hends).trans out
      · rw [hunread, if_pos ⟨rfl, hnot⟩]
        exact ⟨_, [], rfl, unread .host, fun _ hm => nomatch hm⟩
      · rw [hsame .viewer nofun]
        exact unread .viewer
  | agreed msg kind handled out trickle host viewer unreadHost unreadViewer =>
    cases r with
    | host => exact absurd hout (hnone out)
    | viewer =>
      have hice := trickle x (hout ▸ List.mem_cons_self)
      refine .agreed msg kind hcons ?_ ?_ (hloops ▸ host) (hloops ▸ viewer) ?_
        (hidle hice .viewer unreadViewer)
      · exact (congrArg Endpoint.outbox hends).trans out
      · rw [hrest]
        exact fun y hy => trickle y (hout ▸ List.mem_cons_of_mem x hy)
      · rw [hunread]
        exact unreadHost.append (idle_relayed hice _)
  | trickling handled trickle loops unread =>
    have hice := trickle r x (hout ▸ List.mem_cons_self)
    refine .trickling hcons (fun r' => ?_) (fun r' => ?_) fun r' => hidle hice r' (unread r')
    · rcases eq_or_eq_peer r r' with rfl | rfl
      · rw [hrest]
        exact fun y hy => trickle r' y (hout ▸ List.mem_cons_of_mem x hy)
      · rw [hends]
        exact trickle (peer r)
    · rw [hloops]
      exact loops r'

/-- At the start nothing has been handled, and the host has not offered. -/
theorem Opened.begins (h : Opened s base start) :
    Steady s base start start ∧ Progress s base start := by
  refine ⟨⟨⟨s.nextSignalSeq, h.stored, .inl ⟨h.handled, rfl⟩, fun y hy => ?_⟩, h.alone, h.reaches,
    h.based, fun r => ?_, fun r => ?_, fun r x hx => ?_⟩, ?_⟩
  · rw [h.handled] at hy
    cases hy
  · rw [h.handled]
    exact (List.append_nil _).symm
  · refine ⟨?_, fun x hx => ?_, fun q hq => ?_, fun q hq => ?_, fun x hx => ?_, fun x hx => ?_,
      fun x hx => ?_, ?_⟩
    · rw [h.received]
      exact Nat.zero_le _
    · rw [h.outbox] at hx
      cases hx
    · obtain ⟨x, hx, -⟩ := hq
      rw [h.handled] at hx
      cases hx
    · rw [h.received] at hq
      cases hq
    · rw [h.outbox] at hx
      cases hx
    · rw [h.outbox] at hx
      cases hx
    · rw [h.outbox] at hx
      cases hx
    · rw [h.outbox]
      exact List.Pairwise.nil
  · rw [h.outbox] at hx
    cases hx
  · refine .accepted h.handled h.outbox h.host h.viewer h.numbered fun r => ?_
    unfold Negotiation.unread
    rw [h.received]
    exact h.unread r

/-- In every phase no loop has ended. -/
theorem Progress.not_ended (h : Progress s base w) (r : Role) : w.loops r ≠ .ended := by
  have hloops : w.loops .host ≠ .ended ∧ w.loops .viewer ≠ .ended := by
    cases h with
    | accepted handled out host viewer => exact ⟨host ▸ nofun, viewer ▸ nofun⟩
    | offering x kind handled offer out host viewer => exact ⟨host ▸ nofun, viewer ▸ nofun⟩
    | offered x kind handled out host viewer => exact ⟨host ▸ nofun, viewer ▸ nofun⟩
    | answering x handled out host viewer => exact ⟨host ▸ nofun, viewer ▸ nofun⟩
    | answered x y ices kind handled out answer trickle host viewer =>
      exact ⟨host ▸ nofun, viewer ▸ nofun⟩
    | agreed msg kind handled out trickle host viewer => exact ⟨host ▸ nofun, viewer ▸ nofun⟩
    | trickling handled trickle loops => exact ⟨loops .host ▸ nofun, loops .viewer ▸ nofun⟩
  cases r
  · exact hloops.1
  · exact hloops.2

end

/-- Every description that has been handled was relayed. -/
def Described (handled : List (Role × Posted)) : Prop :=
  ∀ r x, (r, x) ∈ handled → RegistryInner.isIceCandidate x.msg = false → x ∈ relayed r handled

theorem Described.cons {handled : List (Role × Posted)} (h : Described handled) {r : Role}
    {x : Posted}
    (hfresh : RegistryInner.isIceCandidate x.msg = true ∨ overtaken handled r x = false) :
    Described ((r, x) :: handled) := by
  intro r' y hy hkind
  unfold relayed
  rcases List.mem_cons.mp hy with heq | hy
  · obtain ⟨rfl, rfl⟩ := Prod.mk.inj heq
    have hnot := hfresh.resolve_left (by rw [hkind]; exact Bool.false_ne_true)
    rw [if_pos ⟨rfl, hnot⟩]
    exact List.mem_append_right _ List.mem_cons_self
  · split_ifs
    · exact List.mem_append_left _ (h r' y hy hkind)
    · exact h r' y hy hkind

/-- **Crossing candidates**: in every interleaving of the offer, the answer and the candidates of
the two parties of an active session with the server,

* each party is put on its channel exactly what the other party has sent, in order and once, but
  for what was overtaken: a message that the server handled after one of the other party with a
  number that is not below;
* the offer and the answer are never overtaken, so only candidates are dropped;
* nothing ends the loop of a party; a candidate that is dropped is not answered with an error.

**Proof sketch.** The negotiation goes through the phases of `Progress`: no message crosses the
offer or the answer, as each party waits for the one before it sends more. The session expects the
number after the largest one handled, and a client's numbers continue after its own
(`Endpoint.Ahead`), so only those of the other party make a message stale. -/
theorem crossing_relayed {s : Session} {base : Role → Nat} {start w : Negotiation}
    (hopened : Opened s base start)
    (h : (negotiation s base start).ReachableVia (Timely s) w) :
    (∀ r, w.inbox s base (peer r) =
      start.inbox s base (peer r) ++ (relayed r w.handled).map Posted.msg) ∧
    (∀ r x, (r, x) ∈ w.handled → RegistryInner.isIceCandidate x.msg = false →
      x ∈ relayed r w.handled) ∧
    ∀ r, w.loops r ≠ .ended := by
  obtain ⟨hsteady, hprogress, hdescribed⟩ :
      Steady s base start w ∧ Progress s base w ∧ Described w.handled := by
    refine h.invariant (fun w => Steady s base start w ∧ Progress s base w ∧ Described w.handled)
      ?_ ?_
    · rintro w rfl
      refine ⟨hopened.begins.1, hopened.begins.2, fun r x hx => ?_⟩
      rw [hopened.handled] at hx
      cases hx
    · rintro w e w' ⟨hsteady, hprogress, hdescribed⟩ htimely hstep
      replace hstep : negotiate s base w e = some w' := hstep
      cases e with
      | post r msg =>
        obtain ⟨-, -, -, -, -, -, -, hhandled, -⟩ := posted_step hstep
        exact ⟨hsteady.post hstep, hprogress.post hstep, hhandled ▸ hdescribed⟩
      | receive r =>
        obtain ⟨-, -, -, -, -, -, -, hhandled, -⟩ := received_step hstep
        exact ⟨hsteady.receive hstep, hprogress.receive hstep, hhandled ▸ hdescribed⟩
      | handle r now =>
        obtain ⟨hsteady', hprogress'⟩ :=
          hprogress.handle hsteady hopened.active hopened.parties htimely hstep
        refine ⟨hsteady', hprogress', ?_⟩
        rcases hout : (w.ends r).outbox with _ | ⟨x, rest⟩
        · simp only [negotiate, hout] at hstep
          cases hstep
        · obtain ⟨-, -, -, -, hhandled⟩ := handled_step hout hstep
          rw [hhandled]
          exact hdescribed.cons (hprogress.fresh hout).2
  exact ⟨hsteady.inbox, hdescribed, hprogress.not_ended⟩

/-- The session of `answeredRun` in a registry of its own, when its host is about to offer. -/
def openedNegotiation : Negotiation where
  registry := { RegistryInner.empty with
    conns := ((∅ : HashMap ConnId ConnTx).insert 1 ⟨true⟩).insert 2 ⟨true⟩
    sessions := (∅ : HashMap String Session).insert "sess-1" (answeredSession 4) }
  ends _ := ⟨⟨4⟩, [], 0⟩
  loops
    | .host => .describing
    | .viewer => .awaiting
  handled := []

/-- The host offers, the viewer answers, and each of them sends a candidate before it receives the
one of the other. -/
def crossingRun : List NegotiationEvent :=
  [.post .host (.sessionOffer "sess-1" 4 "v=0" ""), .handle .host second, .receive .viewer,
    .post .viewer (.sessionAnswer "sess-1" 5 "v=0"), .handle .viewer second, .receive .host,
    .post .host (.iceCandidate "sess-1" 6 ⟨"host", none, none, none⟩),
    .post .viewer (.iceCandidate "sess-1" 6 ⟨"viewer", none, none, none⟩),
    .handle .host second, .handle .viewer second]

/-- The host's candidate, and the one of the viewer under the same number. -/
def hostCandidate : Posted := ⟨.iceCandidate "sess-1" 6 ⟨"host", none, none, none⟩, 6, rfl, 1⟩

def viewerCandidate : Posted := ⟨.iceCandidate "sess-1" 6 ⟨"viewer", none, none, none⟩, 6, rfl, 1⟩

/-- The test of a step that is timely. -/
def timely (s : Session) (_ : Negotiation) : NegotiationEvent → Bool
  | .handle _ now => decide (now < s.expiresAt)
  | _ => true

/-- A replay of timely steps. -/
theorem reachable_of_timely {s : Session} {base : Role → Nat} {start w : Negotiation}
    {es : List NegotiationEvent}
    (hrun : ((negotiation s base start).restrict (timely s)).runFrom start es = some w) :
    (negotiation s base start).ReachableVia (Timely s) w := by
  have hinit : ((negotiation s base start).restrict (timely s)).Reachable start := .init rfl
  refine System.reachableVia_of_restrict (fun w e h => ?_) (System.reachable_of_runFrom hinit hrun)
  cases e with
  | handle r now => exact of_decide_eq_true (p := now < s.expiresAt) h
  | _ => trivial

/-- The negotiation may start. -/
theorem openedNegotiation_opened : Opened (answeredSession 4) (fun _ => 0) openedNegotiation where
  stored := rfl
  active := rfl
  parties := by decide
  alone sid t ht _ := by
    simp only [openedNegotiation, HashMap.lookup_insert_if] at ht
    split_ifs at ht with hsid
    · exact hsid
    · cases ht
  reaches r := by cases r <;> rfl
  numbered := UInt64.le_refl _
  outbox _ := rfl
  based _ := Nat.zero_le _
  received _ := rfl
  unread _ _ hm := nomatch hm
  host := rfl
  viewer := rfl
  handled := rfl

/-- The candidates cross, and the one that the server handles first is relayed. -/
theorem crossing_relayed_crossingRun : ∃ w,
    (negotiation (answeredSession 4) (fun _ => 0) openedNegotiation).ReachableVia
      (Timely (answeredSession 4)) w ∧
    (.host, hostCandidate) ∈ w.handled ∧
    (SignalMessage.iceCandidate "sess-1" 6 ⟨"host", none, none, none⟩) ∈
      w.inbox (answeredSession 4) (fun _ => 0) .viewer ∧
    ∀ r, w.loops r ≠ .ended := by
  obtain ⟨w, hrun, hhandled, hrelayed⟩ : ∃ w,
      ((negotiation (answeredSession 4) (fun _ => 0) openedNegotiation).restrict
        (timely (answeredSession 4))).runFrom openedNegotiation crossingRun = some w ∧
      (.host, hostCandidate) ∈ w.handled ∧ hostCandidate ∈ relayed .host w.handled := by
    refine ⟨_, rfl, ?_, ?_⟩
    · exact .tail _ (.head _)
    · exact .tail _ (.head _)
  have hvia := reachable_of_timely hrun
  obtain ⟨hinbox, -, hloops⟩ := crossing_relayed openedNegotiation_opened hvia
  refine ⟨w, hvia, hhandled, ?_, hloops⟩
  have hviewer := hinbox .host
  change w.inbox _ _ .viewer = _ at hviewer
  rw [hviewer]
  exact List.mem_append_right _ (List.mem_map_of_mem hrelayed)

/-- **A candidate is dropped**: the viewer's takes the number of one that the host has sent, and is
handled after it. -/
theorem crossing_dropped :
    ¬∀ s base start w, Opened s base start →
      (negotiation s base start).ReachableVia (Timely s) w →
      ∀ r x, (r, x) ∈ w.handled → x.msg ∈ w.inbox s base (peer r) := by
  intro hclaim
  obtain ⟨w, hrun, hhandled, hinbox⟩ : ∃ w,
      ((negotiation (answeredSession 4) (fun _ => 0) openedNegotiation).restrict
        (timely (answeredSession 4))).runFrom openedNegotiation crossingRun = some w ∧
      (.viewer, viewerCandidate) ∈ w.handled ∧
      w.inbox (answeredSession 4) (fun _ => 0) .host = [.sessionAnswer "sess-1" 5 "v=0"] := by
    exact ⟨_, rfl, .head _, rfl⟩
  have hvia := reachable_of_timely hrun
  have hmem := hclaim _ _ _ w openedNegotiation_opened hvia .viewer viewerCandidate hhandled
  change _ ∈ w.inbox _ _ .host at hmem
  rw [hinbox] at hmem
  cases List.mem_singleton.mp hmem

end RemoteLink.Server
