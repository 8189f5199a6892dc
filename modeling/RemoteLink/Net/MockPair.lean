import RemoteLink.Library.Duplex
import RemoteLink.Library.Simulation
import RemoteLink.Net.Mock

set_option autoImplicit false

/-!
# Pairs of mock transports

The two sides of the in-process loopback, joined by the two queues between them. Each side may call
any operation of its transport at any time. Closing a side drops the senders of both queues, so the
other side drains what waits for it and then observes the hang-up.

## Main definitions

* `PeerOp`, `MockPeer.call` — the calls of one side.
* `MockPeerPair` — two peers and the fabric between them.
* `PairWorld`, `pairSystem` — the calls of both sides in any order, with what each side has sent and
  which callbacks it has had.
* `pairLink` — the pair as a two-way link.

## Main results

* `MockPeer.call_cases` — what a call of one side can do.
* `mock_pair_delivers` — delivery is exactly once and in order, a hang-up is observed only after
  everything has been delivered, and nothing is sent once a side is closed.
-/

namespace RemoteLink.Net

open Library Protocol

/-! ## One side -/

/-- A call of one side of a pair. -/
inductive PeerOp where
  | createOffer
  | createAnswer
  | setLocalDescription (desc : SessionDescription)
  | setRemoteDescription (desc : SessionDescription)
  | addIceCandidate (candidate : IceCandidate)
  | restartIce
  | sendVideoNalu (nalu : VideoNalu)
  | sendAudio (packet : AudioPacket)
  | sendData (message : DataMessage)
  | poll
  | close

/-- What a call is to send. -/
def PeerOp.message : PeerOp → Option Sent
  | sendVideoNalu nalu => some (.video nalu)
  | sendAudio packet => some (.audio packet)
  | sendData message => some (.data message)
  | _ => none

/-- A call without its value. -/
def Call.void {π α : Type} (c : Call π α) : Call π Unit :=
  ⟨c.result.map fun _ => (), c.peer, c.callbacks⟩

/-- The media and data among callbacks, as they were sent. -/
def delivered (cs : List PeerCallback) : List Sent :=
  cs.filterMap fun
    | .track (.video nalu) => some (.video nalu)
    | .track (.audio packet) => some (.audio packet)
    | .data message => some (.data message)
    | _ => none

@[simp] theorem delivered_nil : delivered [] = [] := rfl

@[simp] theorem delivered_append (cs ds : List PeerCallback) :
    delivered (cs ++ ds) = delivered cs ++ delivered ds :=
  List.filterMap_append

@[simp] theorem delivered_state (s : ConnectionState) (cs : List PeerCallback) :
    delivered (.connectionState s :: cs) = delivered cs := rfl

@[simp] theorem delivered_ice (c : IceCandidate) (cs : List PeerCallback) :
    delivered (.iceCandidate c :: cs) = delivered cs := rfl

/-- What is delivered is what was sent. -/
@[simp] theorem delivered_map_deliver (ms : List Sent) :
    delivered (ms.map MockPeer.deliver) = ms := by
  induction ms with
  | nil => rfl
  | cons m ms ih =>
    have hcons : delivered ((m :: ms).map MockPeer.deliver) =
        m :: delivered (ms.map MockPeer.deliver) := by
      cases m <;> rfl
    rw [hcons, ih]

namespace MockPeer

/-- Restart ICE: a connected peer reconnects at once, and there is a new candidate. -/
def restartIce (p : MockPeer) : Call MockPeer Unit :=
  if p.isClosed then ⟨.error .closed, p, []⟩
  else
    let p := { p with iceRestartCount := min (p.iceRestartCount + 1) 4294967295 }
    if p.state = .connected then
      let (p, down) := p.emitState .connecting
      let offered := [PeerCallback.iceCandidate p.hostCandidate]
      let (p, up) := p.emitState .connected
      ⟨.ok (), p, down ++ offered ++ up⟩
    else ⟨.ok (), p, [.iceCandidate p.hostCandidate]⟩

/-- A call of one side. -/
def call (p : MockPeer) : PeerOp → Call MockPeer Unit
  | .createOffer => (mockTransport.createOffer p).void
  | .createAnswer => (mockTransport.createAnswer p).void
  | .setLocalDescription desc => mockTransport.setLocalDescription p desc
  | .setRemoteDescription desc => mockTransport.setRemoteDescription p desc
  | .addIceCandidate candidate => mockTransport.addIceCandidate p candidate
  | .restartIce => p.restartIce
  | .sendVideoNalu nalu => mockTransport.sendVideoNalu p nalu
  | .sendAudio packet => mockTransport.sendAudio p packet
  | .sendData message => mockTransport.sendData p message
  | .poll => mockTransport.poll p
  | .close => mockTransport.close p

/-- A call that neither sends, delivers nor hangs up: the queues stay, and a side that has ended
stays as it is. -/
structure Quiet (p : MockPeer) (c : Call MockPeer Unit) : Prop where
  outbound : c.peer.outbound = p.outbound
  inbound : c.peer.inbound = p.inbound
  inboundOpen : c.peer.inboundOpen = p.inboundOpen
  closed : c.peer.closed = p.closed
  paired : c.peer.paired = p.paired
  stateClosed : c.peer.state = .closed ↔ p.state = .closed
  stateDisconnected : c.peer.state = .disconnected ↔ p.state = .disconnected
  silent : delivered c.callbacks = []

variable {p : MockPeer}

/-- A call that fails before it does anything. -/
theorem Quiet.refused (e : NetError) : Quiet p ⟨.error e, p, []⟩ :=
  ⟨rfl, rfl, rfl, rfl, rfl, .rfl, .rfl, rfl⟩

/-- Connecting leaves the queues alone, and leaves no ended state. -/
theorem tryConnect_quiet (result : Except NetError Unit) :
    Quiet p ⟨result, p.tryConnect.1, p.tryConnect.2⟩ := by
  unfold tryConnect
  rcases p.localDesc with _ | l
  · exact ⟨rfl, rfl, rfl, rfl, rfl, .rfl, .rfl, rfl⟩
  rcases p.remoteDesc with _ | r
  · exact ⟨rfl, rfl, rfl, rfl, rfl, .rfl, .rfl, rfl⟩
  dsimp only
  split_ifs with hpaired hended
  · exact ⟨rfl, rfl, rfl, rfl, rfl, .rfl, .rfl, rfl⟩
  · simp only [not_or] at hended
    obtain ⟨-, hclosed, hdisconnected⟩ := hended
    exact ⟨rfl, rfl, rfl, rfl, rfl, ⟨(fun h => by cases h), fun h => absurd h hclosed⟩,
      ⟨(fun h => by cases h), fun h => absurd h hdisconnected⟩, rfl⟩
  · exact ⟨rfl, rfl, rfl, rfl, rfl, .rfl, .rfl, rfl⟩

/-- Quiet calls in a row are quiet. -/
theorem Quiet.trans {c d : Call MockPeer Unit} {result : Except NetError Unit}
    (h : Quiet p c) (h' : Quiet c.peer d) :
    Quiet p ⟨result, d.peer, c.callbacks ++ d.callbacks⟩ where
  outbound := h'.outbound.trans h.outbound
  inbound := h'.inbound.trans h.inbound
  inboundOpen := h'.inboundOpen.trans h.inboundOpen
  closed := h'.closed.trans h.closed
  paired := h'.paired.trans h.paired
  stateClosed := h'.stateClosed.trans h.stateClosed
  stateDisconnected := h'.stateDisconnected.trans h.stateDisconnected
  silent := by
    rw [delivered_append, h.silent, h'.silent]
    rfl

/-- Applying a description is quiet, when what it stores is. -/
theorem describe_quiet {set : MockPeer → MockPeer} {offered : List PeerCallback}
    (hset : Quiet p ⟨.ok (), set p, []⟩) (hoffered : delivered offered = []) :
    Quiet p (p.describe set offered) := by
  have hleave : Quiet (set p) ⟨.ok (), (set p).leaveNew.1, (set p).leaveNew.2 ++ offered⟩ := by
    unfold leaveNew
    split_ifs with hnew
    · refine ⟨rfl, rfl, rfl, rfl, rfl, ⟨(fun h => by cases h), fun h => ?_⟩,
        ⟨(fun h => by cases h), fun h => ?_⟩, ?_⟩
      · rw [h] at hnew
        cases hnew
      · rw [h] at hnew
        cases hnew
      · simpa [emitState] using hoffered
    · exact ⟨rfl, rfl, rfl, rfl, rfl, .rfl, .rfl, by simpa using hoffered⟩
  have hconnect := tryConnect_quiet (p := (set p).leaveNew.1) (.ok ())
  have hboth : Quiet p ⟨.ok (), (set p).leaveNew.1, [] ++ ((set p).leaveNew.2 ++ offered)⟩ :=
    hset.trans hleave
  have hall : Quiet p ⟨.ok (), ((set p).leaveNew.1.tryConnect).1,
      ([] ++ ((set p).leaveNew.2 ++ offered)) ++ ((set p).leaveNew.1.tryConnect).2⟩ :=
    hboth.trans hconnect
  simpa [describe] using hall

/-- Putting a message on the wire is refused, or appends it to what this side has sent. -/
theorem sendWire_cases (m : Sent) (hpaired : p.paired = true) :
    (∃ e, p.sendWire m = ⟨.error e, p, []⟩) ∨
    ∃ queue, p.isClosed = false ∧ p.state = .connected ∧ p.outbound = some queue ∧
      p.sendWire m = ⟨.ok (), { p with outbound := some (queue ++ [m]) }, []⟩ := by
  unfold sendWire
  by_cases hclosed : p.isClosed = true
  · exact .inl ⟨_, if_pos hclosed⟩
  rw [if_neg hclosed]
  by_cases hstate : p.state ≠ .connected
  · exact .inl ⟨_, if_pos hstate⟩
  rw [if_neg hstate, if_neg (by simp [hpaired])]
  cases hout : p.outbound with
  | none => exact .inl ⟨_, rfl⟩
  | some queue => exact .inr ⟨queue, by simpa using hclosed, not_not.mp hstate, rfl, rfl⟩

/-- What a poll of an open side does. -/
theorem poll_open (hpaired : p.paired = true) (hopen : p.isClosed = false) :
    p.poll.result = .ok () ∧ delivered p.poll.callbacks = p.inbound ∧
      ∃ s, p.poll.peer = { p with inbound := [], state := s } ∧
        (s = p.state ∨ s = .disconnected ∧ p.inboundOpen = false) := by
  unfold poll
  rw [if_neg (by simp [hopen]), if_neg (by simp [hpaired])]
  dsimp only
  split_ifs with hdown
  · refine ⟨rfl, by simp [emitState], .disconnected, rfl, .inr ⟨rfl, by simpa using hdown.1⟩⟩
  · exact ⟨rfl, delivered_map_deliver _, p.state, rfl, .inl rfl⟩

/-- What a call of a paired side can do. -/
inductive Effect (p : MockPeer) : PeerOp → Call MockPeer Unit → Prop
  | quiet (op c) (hquiet : Quiet p c)
      (hrefused : op.message ≠ none ∨ op = .poll → ∃ e, c.result = .error e)
      (hclose : op = .close → p.closed = true) : Effect p op c
  | sent (op m queue) (hmessage : op.message = some m) (hopen : p.isClosed = false)
      (hstate : p.state = .connected) (hqueue : p.outbound = some queue) :
      Effect p op ⟨.ok (), { p with outbound := some (queue ++ [m]) }, []⟩
  | polled (c s) (hopen : p.isClosed = false) (hresult : c.result = .ok ())
      (hpeer : c.peer = { p with inbound := [], state := s })
      (hdelivered : delivered c.callbacks = p.inbound)
      (hstate : s = p.state ∨ s = .disconnected ∧ p.inboundOpen = false) : Effect p .poll c
  | closed (hopen : p.closed = false) :
      Effect p .close ⟨.ok (), { p with
        closed := true, outbound := none, inboundOpen := false, state := .closed },
        [.connectionState .closed]⟩

/-- A call that refuses or is quiet. -/
theorem Effect.of_quiet {op : PeerOp} {c : Call MockPeer Unit} (hquiet : Quiet p c)
    (hmessage : op.message = none) (hpoll : op ≠ .poll) (hclose : op ≠ .close) : Effect p op c :=
  .quiet op c hquiet (fun h => h.elim (absurd hmessage) fun h => absurd h hpoll)
    fun h => absurd h hclose

/-- A call that sends. -/
theorem Effect.of_sendWire {op : PeerOp} {m : Sent} (hpaired : p.paired = true)
    (hmessage : op.message = some m) (hclose : op ≠ .close) :
    Effect p op (p.sendWire m) := by
  rcases sendWire_cases m hpaired with ⟨e, he⟩ | ⟨queue, hopen, hstate, hqueue, heq⟩
  · rw [he]
    exact .quiet op _ (.refused e) (fun _ => ⟨e, rfl⟩) fun h => absurd h hclose
  · rw [heq]
    exact .sent op m queue hmessage hopen hstate hqueue

/-- **What a call of one side can do**: it is quiet, or sends, or delivers what waits, or closes. -/
theorem call_cases (hpaired : p.paired = true) (op : PeerOp) : Effect p op (p.call op) := by
  have hsame : ∀ r : Except NetError Unit, Quiet p ⟨r, p, []⟩ :=
    fun _ => ⟨rfl, rfl, rfl, rfl, rfl, .rfl, .rfl, rfl⟩
  cases op with
  | createOffer =>
    refine .of_quiet ?_ rfl (by simp) (by simp)
    simp only [call, mockTransport, Call.void]
    split_ifs
    · exact hsame _
    · exact hsame _
  | createAnswer =>
    refine .of_quiet ?_ rfl (by simp) (by simp)
    simp only [call, mockTransport, Call.void]
    split_ifs
    · exact hsame _
    · exact hsame _
    · exact hsame _
  | setLocalDescription desc =>
    refine .of_quiet ?_ rfl (by simp) (by simp)
    simp only [call, mockTransport]
    split_ifs
    · exact hsame _
    · exact describe_quiet ⟨rfl, rfl, rfl, rfl, rfl, .rfl, .rfl, rfl⟩ rfl
  | setRemoteDescription desc =>
    refine .of_quiet ?_ rfl (by simp) (by simp)
    simp only [call, mockTransport]
    split_ifs
    · exact hsame _
    · exact hsame _
    · exact describe_quiet ⟨rfl, rfl, rfl, rfl, rfl, .rfl, .rfl, rfl⟩ rfl
  | addIceCandidate candidate =>
    refine .of_quiet ?_ rfl (by simp) (by simp)
    simp only [call, mockTransport]
    split_ifs
    · exact hsame _
    · exact hsame _
    · exact tryConnect_quiet _
  | restartIce =>
    refine .of_quiet ?_ rfl (by simp) (by simp)
    simp only [call, restartIce]
    split_ifs with _ hconnected
    · exact hsame _
    · exact ⟨rfl, rfl, rfl, rfl, rfl, by simp [emitState, hconnected],
        by simp [emitState, hconnected], rfl⟩
    · exact ⟨rfl, rfl, rfl, rfl, rfl, .rfl, .rfl, rfl⟩
  | sendVideoNalu nalu => exact .of_sendWire hpaired rfl (by simp)
  | sendAudio packet => exact .of_sendWire hpaired rfl (by simp)
  | sendData message => exact .of_sendWire hpaired rfl (by simp)
  | poll =>
    cases hopen : p.isClosed with
    | true =>
      have hcall : p.call .poll = ⟨.error .closed, p, []⟩ := if_pos hopen
      rw [hcall]
      exact .quiet _ _ (hsame _) (fun _ => ⟨_, rfl⟩) (fun h => by cases h)
    | false =>
      obtain ⟨hresult, hdelivered, s, hpeer, hstate⟩ := poll_open hpaired hopen
      exact .polled _ s hopen hresult hpeer hdelivered hstate
  | close =>
    cases hopen : p.closed with
    | true =>
      have hcall : p.call .close = ⟨.ok (), p, []⟩ := if_pos hopen
      rw [hcall]
      exact .quiet _ _ (hsame _) (fun h => by rcases h with h | h <;> simp [PeerOp.message] at h)
        (fun _ => hopen)
    | false =>
      have hcall : p.call .close = ⟨.ok (), { p with
          closed := true, outbound := none, inboundOpen := false, state := .closed },
          [.connectionState .closed]⟩ := if_neg (by simp [hopen])
      rw [hcall]
      exact .closed hopen

end MockPeer

/-! ## Both sides -/

/-- Two peers; a message that one has sent waits at the other. -/
structure MockPeerPair where
  peerA : MockPeer
  peerB : MockPeer
  deriving Repr, DecidableEq

namespace MockPeerPair

/-- A fresh pair. -/
def withConfigs (labelA labelB : String) (fpA fpB : DtlsFingerprint) : MockPeerPair :=
  ⟨.new labelA fpA, .new labelB fpB⟩

/-- The peer of a side. -/
def peer (pair : MockPeerPair) : Side → MockPeer
  | .a => pair.peerA
  | .b => pair.peerB

/-- The pair with the peers of a side and of the other side. -/
def ofPeers (side : Side) (own other : MockPeer) : MockPeerPair :=
  match side with
  | .a => ⟨own, other⟩
  | .b => ⟨other, own⟩

@[simp] theorem peer_ofPeers (side : Side) (own other : MockPeer) :
    (ofPeers side own other).peer side = own := by
  cases side <;> rfl

@[simp] theorem peer_ofPeers_other (side : Side) (own other : MockPeer) :
    (ofPeers side own other).peer side.other = other := by
  cases side <;> rfl

/-- The fabric after a call of one side: what it has put on the wire waits at the other side, and a
side that has closed has dropped the senders of both directions. -/
def settle (pair : MockPeerPair) (side : Side) (own : MockPeer) : MockPeerPair :=
  let other := pair.peer side.other
  match own.outbound with
  | some queue =>
    ofPeers side { own with outbound := some [] } { other with inbound := other.inbound ++ queue }
  | none => ofPeers side own { other with outbound := none, inboundOpen := false }

/-- A call of one side of the pair. -/
def call (pair : MockPeerPair) (side : Side) (op : PeerOp) : Call MockPeerPair Unit :=
  let c := (pair.peer side).call op
  ⟨c.result, pair.settle side c.peer, c.callbacks⟩

end MockPeerPair

/-- A pair with what each side has sent and the callbacks that each side has had. -/
structure PairWorld where
  pair : MockPeerPair
  sent : Side → List Sent
  heard : Side → List PeerCallback

/-- What a call has sent, by its result. -/
def sentBy (op : PeerOp) (result : Except NetError Unit) : List Sent :=
  match result with
  | .ok () => op.message.toList
  | .error _ => []

/-- The world after a call of a side. -/
def PairWorld.step (w : PairWorld) (side : Side) (op : PeerOp) : PairWorld :=
  let c := w.pair.call side op
  ⟨c.peer, Function.update w.sent side (w.sent side ++ sentBy op c.result),
    Function.update w.heard side (w.heard side ++ c.callbacks)⟩

/-- The calls of both sides of a fresh pair, in any order. -/
def pairSystem (labelA labelB : String) (fpA fpB : DtlsFingerprint) :
    System PairWorld (Side × PeerOp) where
  init w := w = ⟨.withConfigs labelA labelB fpA fpB, fun _ => [], fun _ => []⟩
  step w e := some (w.step e.1 e.2)

/-! ## The pair is a link -/

/-- The pair `w` stands for the link `d`: what waits at a peer is what was sent to it and has not
been received, and the wires are there exactly while the link is up. -/
structure PairRel (w : PairWorld) (d : Duplex Sent) : Prop where
  paired : ∀ s, (w.pair.peer s).paired = true
  sent : d.sent = w.sent
  received : ∀ s, d.received s = delivered (w.heard s)
  waiting : ∀ s, w.sent s.other = delivered (w.heard s) ++ (w.pair.peer s).inbound
  wires : ∀ s, (w.pair.peer s).outbound = (if d.up then some [] else none) ∧
    (w.pair.peer s).inboundOpen = d.up
  closed : ∀ s, (w.pair.peer s).closed = true ↔ (w.pair.peer s).state = .closed
  hungUp : d.up = false ↔ ∃ s, (w.pair.peer s).closed = true
  drained : ∀ s, (w.pair.peer s).state = .disconnected → (w.pair.peer s).inbound = [] ∧ d.up = false

/-- A fresh pair is a fresh link. -/
theorem PairRel.fresh (labelA labelB : String) (fpA fpB : DtlsFingerprint) :
    PairRel ⟨.withConfigs labelA labelB fpA fpB, fun _ => [], fun _ => []⟩ .fresh where
  paired s := by cases s <;> rfl
  sent := rfl
  received _ := rfl
  waiting s := by cases s <;> rfl
  wires s := by cases s <;> exact ⟨rfl, rfl⟩
  closed s := by cases s <;> exact ⟨(fun h => by cases h), fun h => by cases h⟩
  hungUp := by
    refine ⟨(fun h => by cases h), fun ⟨s, hs⟩ => ?_⟩
    cases s <;> cases hs
  drained s h := by cases s <;> cases h

/-- The fabric leaves the other side alone while nothing has been put on the wire and the wires are
as they were. -/
theorem MockPeerPair.settle_still {pair : MockPeerPair} {side : Side} {own : MockPeer} {up : Bool}
    (hown : own.outbound = if up then some [] else none)
    (hother : (pair.peer side.other).outbound = (if up then some [] else none) ∧
      (pair.peer side.other).inboundOpen = up) :
    pair.settle side own = ofPeers side own (pair.peer side.other) := by
  unfold settle
  cases up with
  | true =>
    simp only [if_true] at hown
    simp only [hown, List.append_nil]
    congr 1
    rw [← hown]
  | false =>
    simp only [Bool.false_eq_true, if_false] at hown hother
    obtain ⟨hout, hopen⟩ := hother
    simp only [hown]
    congr 1
    rw [← hout, ← hopen]

section Step

variable {w : PairWorld} {d : Duplex Sent} {side : Side} {op : PeerOp}

/-- What a side has sent and heard after a call of one of the sides. -/
theorem PairWorld.step_eq {c : Call MockPeer Unit} {pair : MockPeerPair}
    (hc : (w.pair.peer side).call op = c) (hpair : w.pair.settle side c.peer = pair) :
    w.step side op = ⟨pair, Function.update w.sent side (w.sent side ++ sentBy op c.result),
      Function.update w.heard side (w.heard side ++ c.callbacks)⟩ := by
  subst hc hpair
  rfl

namespace PairRel

/-- The waiting messages of the link wait at the peers. -/
theorem waiting_eq (h : PairRel w d) (s : Side) : d.waiting s = (w.pair.peer s).inbound := by
  rw [Duplex.waiting, h.sent, h.waiting s, h.received s, List.drop_left]

/-- A quiet call is no event of the link. -/
theorem quiet (h : PairRel w d) {c : Call MockPeer Unit}
    (hc : (w.pair.peer side).call op = c) (hquiet : (w.pair.peer side).Quiet c)
    (hsent : sentBy op c.result = []) : PairRel (w.step side op) d := by
  have hpair : w.pair.settle side c.peer = .ofPeers side c.peer (w.pair.peer side.other) :=
    MockPeerPair.settle_still (hquiet.outbound.trans (h.wires side).1) (h.wires side.other)
  rw [PairWorld.step_eq hc hpair, hsent, List.append_nil, Function.update_eq_self]
  have hheard : ∀ s, delivered (Function.update w.heard side (w.heard side ++ c.callbacks) s) =
      delivered (w.heard s) := by
    intro s
    by_cases hs : s = side
    · subst hs
      rw [Function.update_self, delivered_append, hquiet.silent, List.append_nil]
    · rw [Function.update_of_ne hs]
  -- the peer of the side is the quiet one, the other peer is the same
  have hpeer : ∀ s, ∃ p, (MockPeerPair.ofPeers side c.peer (w.pair.peer side.other)).peer s = p ∧
      (w.pair.peer s).Quiet ⟨.ok (), p, []⟩ := by
    intro s
    rcases side.eq_or_other s with rfl | rfl
    · exact ⟨c.peer, MockPeerPair.peer_ofPeers _ _ _, hquiet.outbound, hquiet.inbound,
        hquiet.inboundOpen, hquiet.closed, hquiet.paired, hquiet.stateClosed,
        hquiet.stateDisconnected, rfl⟩
    · exact ⟨_, MockPeerPair.peer_ofPeers_other _ _ _, rfl, rfl, rfl, rfl, rfl, .rfl, .rfl, rfl⟩
  constructor
  · intro s
    obtain ⟨p, hp, hq⟩ := hpeer s
    simpa only [hp] using hq.paired.trans (h.paired s)
  · exact h.sent
  · intro s
    exact (h.received s).trans (hheard s).symm
  · intro s
    obtain ⟨p, hp, hq⟩ := hpeer s
    have hin : p.inbound = (w.pair.peer s).inbound := hq.inbound
    simp only [hp, hheard s, hin]
    exact h.waiting s
  · intro s
    obtain ⟨p, hp, hq⟩ := hpeer s
    simp only [hp]
    exact ⟨hq.outbound.trans (h.wires s).1, hq.inboundOpen.trans (h.wires s).2⟩
  · intro s
    obtain ⟨p, hp, hq⟩ := hpeer s
    have hcl : p.closed = (w.pair.peer s).closed := hq.closed
    simp only [hp, hcl]
    exact (h.closed s).trans hq.stateClosed.symm
  · rw [h.hungUp]
    refine exists_congr fun s => ?_
    obtain ⟨p, hp, hq⟩ := hpeer s
    have hcl : p.closed = (w.pair.peer s).closed := hq.closed
    simp only [hp, hcl]
  · intro s hs
    obtain ⟨p, hp, hq⟩ := hpeer s
    have hin : p.inbound = (w.pair.peer s).inbound := hq.inbound
    simp only [hp] at hs ⊢
    rw [hin]
    exact h.drained s (hq.stateDisconnected.mp hs)

/-- Putting a message on the wire is a send. -/
theorem send (h : PairRel w d) {m : Sent} {queue : List Sent} (hmessage : op.message = some m)
    (hqueue : (w.pair.peer side).outbound = some queue)
    (hc : (w.pair.peer side).call op =
      ⟨.ok (), { w.pair.peer side with outbound := some (queue ++ [m]) }, []⟩) :
    ∃ d', d.step (.send side m) = some d' ∧ PairRel (w.step side op) d' := by
  obtain ⟨hup, rfl⟩ : d.up = true ∧ queue = [] := by
    have hout := hqueue.symm.trans (h.wires side).1
    cases hup : d.up with
    | true => simpa [hup] using hout
    | false => simp [hup] at hout
  refine ⟨_, if_pos hup, ?_⟩
  have hown : { w.pair.peer side with outbound := some [] } = w.pair.peer side := by
    rw [← hqueue]
  have hpair : w.pair.settle side { w.pair.peer side with outbound := some ([] ++ [m]) } =
      .ofPeers side (w.pair.peer side) { w.pair.peer side.other with
        inbound := (w.pair.peer side.other).inbound ++ [m] } := by
    simp only [MockPeerPair.settle, List.nil_append, hown]
  rw [PairWorld.step_eq hc hpair]
  have hsentBy : sentBy op (.ok ()) = [m] := by
    rw [sentBy, hmessage]
    rfl
  simp only [hsentBy, List.append_nil, Function.update_eq_self]
  constructor
  · intro s
    rcases side.eq_or_other s with rfl | rfl
    · simpa using h.paired _
    · simpa using h.paired _
  · simp only [h.sent]
  · exact h.received
  · intro s
    rcases side.eq_or_other s with rfl | rfl
    · -- what waits at the sender is untouched
      simpa [Function.update_of_ne (Side.other_ne _)] using h.waiting _
    · have hwaiting := h.waiting side.other
      rw [Side.other_other] at hwaiting
      simp [hwaiting]
  · intro s
    rcases side.eq_or_other s with rfl | rfl
    · simpa using h.wires _
    · simpa using h.wires _
  · intro s
    rcases side.eq_or_other s with rfl | rfl
    · simpa using h.closed _
    · simpa using h.closed _
  · constructor
    · intro hdown
      simp [hup] at hdown
    · rintro ⟨s, hs⟩
      have hclosed : (w.pair.peer s).closed = true := by
        rcases side.eq_or_other s with rfl | rfl
        · simpa using hs
        · simpa using hs
      exact h.hungUp.mpr ⟨s, hclosed⟩
  · intro s hs
    have hdown : d.up = false := by
      rcases side.eq_or_other s with rfl | rfl
      · exact (h.drained _ (by simpa using hs)).2
      · exact (h.drained _ (by simpa using hs)).2
    rw [hup] at hdown
    cases hdown

/-- A poll is a receive of what waits. -/
theorem receive (h : PairRel w d) {c : Call MockPeer Unit} {state : ConnectionState}
    (hc : (w.pair.peer side).call op = c) (hmessage : op.message = none)
    (hpeer : c.peer = { w.pair.peer side with inbound := [], state := state })
    (hdelivered : delivered c.callbacks = (w.pair.peer side).inbound)
    (hopen : (w.pair.peer side).isClosed = false)
    (hstate : state = (w.pair.peer side).state ∨
      state = .disconnected ∧ (w.pair.peer side).inboundOpen = false) :
    ∃ d', d.step (.receive side (w.pair.peer side).inbound.length) = some d' ∧
      PairRel (w.step side op) d' := by
  refine ⟨_, rfl, ?_⟩
  have hpair : w.pair.settle side c.peer = .ofPeers side c.peer (w.pair.peer side.other) := by
    refine MockPeerPair.settle_still ?_ (h.wires side.other)
    rw [hpeer]
    exact (h.wires side).1
  have hsentBy : sentBy op c.result = [] := by
    cases c.result with
    | error e => rfl
    | ok u => simp [sentBy, hmessage]
  rw [PairWorld.step_eq hc hpair, hsentBy, List.append_nil, Function.update_eq_self]
  have hnotClosed : (w.pair.peer side).state ≠ .closed := by
    simp only [MockPeer.isClosed, Bool.or_eq_false_iff, decide_eq_false_iff_not] at hopen
    exact hopen.2
  constructor
  · intro s
    rcases side.eq_or_other s with rfl | rfl
    · simpa [hpeer] using h.paired _
    · simpa using h.paired _
  · exact h.sent
  · intro s
    rcases side.eq_or_other s with rfl | rfl
    · simp [h.received, hdelivered, h.waiting_eq]
    · simpa [Function.update_of_ne (Side.other_ne _)] using h.received _
  · intro s
    rcases side.eq_or_other s with rfl | rfl
    · simpa [hpeer, hdelivered] using h.waiting _
    · simpa [Function.update_of_ne (Side.other_ne _)] using h.waiting side.other
  · intro s
    rcases side.eq_or_other s with rfl | rfl
    · simpa [hpeer] using h.wires _
    · simpa using h.wires _
  · intro s
    rcases side.eq_or_other s with rfl | rfl
    · rcases hstate with rfl | ⟨rfl, -⟩
      · simpa [hpeer] using h.closed _
      · simpa [hpeer] using (h.closed _).not.mpr hnotClosed
    · simpa using h.closed _
  · have hflag : ∀ s, ((MockPeerPair.ofPeers side c.peer (w.pair.peer side.other)).peer s).closed =
        (w.pair.peer s).closed := by
      intro s
      rcases side.eq_or_other s with rfl | rfl
      · simp [hpeer]
      · simp
    simp only [hflag]
    exact h.hungUp
  · intro s hs
    rcases side.eq_or_other s with rfl | rfl
    · refine ⟨by simp [hpeer], ?_⟩
      rcases hstate with rfl | ⟨-, hdown⟩
      · exact (h.drained _ (by simpa [hpeer] using hs)).2
      · exact (h.wires _).2.symm.trans hdown
    · simpa using h.drained side.other (by simpa using hs)

/-- Closing is a hang-up. -/
theorem hangUp (h : PairRel w d) (hmessage : op.message = none)
    (hc : (w.pair.peer side).call op = ⟨.ok (), { w.pair.peer side with
      closed := true, outbound := none, inboundOpen := false, state := .closed },
      [.connectionState .closed]⟩) :
    ∃ d', d.step .hangUp = some d' ∧ PairRel (w.step side op) d' := by
  refine ⟨_, rfl, ?_⟩
  rw [PairWorld.step_eq hc rfl]
  have hsentBy : sentBy op (.ok ()) = [] := by
    rw [sentBy, hmessage]
    rfl
  simp only [hsentBy, List.append_nil, Function.update_eq_self, MockPeerPair.settle]
  have hheard : ∀ s, delivered (Function.update w.heard side
      (w.heard side ++ [.connectionState .closed]) s) = delivered (w.heard s) := by
    intro s
    rcases side.eq_or_other s with rfl | rfl
    · simp
    · simp [Function.update_of_ne (Side.other_ne _)]
  constructor
  · intro s
    rcases side.eq_or_other s with rfl | rfl
    · simpa using h.paired _
    · simpa using h.paired _
  · exact h.sent
  · intro s
    exact (h.received s).trans (hheard s).symm
  · intro s
    simp only [hheard s]
    rcases side.eq_or_other s with rfl | rfl
    · simpa using h.waiting _
    · simpa using h.waiting side.other
  · intro s
    rcases side.eq_or_other s with rfl | rfl
    · simp
    · simp
  · intro s
    rcases side.eq_or_other s with rfl | rfl
    · simp
    · simpa using h.closed _
  · exact ⟨fun _ => ⟨side, by simp⟩, fun _ => rfl⟩
  · intro s hs
    rcases side.eq_or_other s with rfl | rfl
    · simp at hs
    · simpa using (h.drained side.other (by simpa using hs)).1

end PairRel

end Step

/-- The events of the link that match a call. -/
def linkEvents (w : PairWorld) (e : Side × PeerOp) : List (DuplexEvent Sent) :=
  let p := w.pair.peer e.1
  match (p.call e.2).result, e.2 with
  | .error _, _ => []
  | .ok (), .poll => [.receive e.1 p.inbound.length]
  | .ok (), .close => if p.closed then [] else [.hangUp]
  | .ok (), op => (op.message.map (DuplexEvent.send e.1)).toList

/-- **A pair of mock transports is a two-way link**: every call of a side is matched by what it does
to the link. -/
def pairLink (labelA labelB : String) (fpA fpB : DtlsFingerprint) :
    Simulation (pairSystem labelA labelB fpA fpB) (duplexSystem Sent) where
  rel := PairRel
  events := linkEvents
  init := by
    rintro _ rfl
    exact ⟨.fresh, rfl, .fresh labelA labelB fpA fpB⟩
  step := by
    rintro w ⟨side, op⟩ w' d h hstep
    obtain rfl := Option.some.inj hstep
    generalize hc : (w.pair.peer side).call op = c
    have heffect := MockPeer.call_cases (h.paired side) op
    rw [hc] at heffect
    -- an event that the link accepts is a run of one event
    have hone : ∀ {e d'}, linkEvents w (side, op) = [e] → d.step e = some d' →
        (duplexSystem Sent).runFrom d (linkEvents w (side, op)) = some d' := by
      intro e d' hevents he
      rw [hevents, System.runFrom_cons]
      change (d.step e).bind _ = _
      rw [he]
      rfl
    cases heffect with
    | quiet op c hquiet hrefused hclose =>
      refine ⟨d, ?_, h.quiet hc hquiet ?_⟩
      · suffices hnone : linkEvents w (side, op) = [] by
          rw [hnone]
          rfl
        simp only [linkEvents, hc]
        cases hresult : c.result with
        | error e => rfl
        | ok u =>
          have hno : ¬ (op.message ≠ none ∨ op = .poll) := by
            intro hsome
            obtain ⟨e, he⟩ := hrefused hsome
            rw [he] at hresult
            cases hresult
          simp only [not_or, not_not] at hno
          cases op <;> simp_all [PeerOp.message]
      · cases hresult : c.result with
        | error e => rfl
        | ok u =>
          cases hmessage : op.message with
          | none => simp [sentBy, hmessage]
          | some m =>
            obtain ⟨e, he⟩ := hrefused (.inl (by simp [hmessage]))
            rw [he] at hresult
            cases hresult
    | sent op m queue hmessage hopen hstate hqueue =>
      obtain ⟨d', hd', hrel⟩ := h.send hmessage hqueue hc
      refine ⟨d', hone ?_ hd', hrel⟩
      cases op <;> simp_all [linkEvents, PeerOp.message]
    | polled c s hopen hresult hpeer hdelivered hstate =>
      obtain ⟨d', hd', hrel⟩ := h.receive hc rfl hpeer hdelivered hopen hstate
      refine ⟨d', hone ?_ hd', hrel⟩
      simp only [linkEvents, hc, hresult]
    | closed hopen =>
      obtain ⟨d', hd', hrel⟩ := h.hangUp rfl hc
      refine ⟨d', hone ?_ hd', hrel⟩
      simp [linkEvents, hc, hopen]

/-! ## Delivery -/

/-- A poll of a side that is not closed hears everything that the other side has sent. -/
theorem PairRel.poll_delivers {w : PairWorld} {d : Duplex Sent} (h : PairRel w d) {s : Side}
    (hopen : (w.pair.peer s).isClosed = false) :
    delivered ((w.step s .poll).heard s) = w.sent s.other := by
  obtain ⟨-, hdelivered, -⟩ := MockPeer.poll_open (h.paired s) hopen
  rw [PairWorld.step_eq rfl rfl]
  simp only [Function.update_self, delivered_append]
  rw [h.waiting s]
  exact congrArg _ hdelivered

/-- **Delivery over a pair, whatever the two sides call and in whatever order**: what one side has
sent is what the other has heard, followed by what waits for it; a side that has observed the
hang-up has heard everything; a poll of a side that is not closed hears everything; and once a side
is closed nothing more is sent by either. -/
theorem mock_pair_delivers (labelA labelB : String) (fpA fpB : DtlsFingerprint) {w : PairWorld}
    (h : (pairSystem labelA labelB fpA fpB).Reachable w) :
    (∀ s, w.sent s.other = delivered (w.heard s) ++ (w.pair.peer s).inbound) ∧
    (∀ s, (w.pair.peer s).state = .disconnected →
      delivered (w.heard s) = w.sent s.other ∧ ∃ t, (w.pair.peer t).closed = true) ∧
    (∀ s, (w.pair.peer s).isClosed = false →
      delivered ((w.step s .poll).heard s) = w.sent s.other) ∧
    ((∃ t, (w.pair.peer t).closed = true) → ∀ es w',
      (pairSystem labelA labelB fpA fpB).runFrom w es = some w' → w'.sent = w.sent) := by
  obtain ⟨d, -, hrel⟩ := (pairLink labelA labelB fpA fpB).reachable h
  have hrel : PairRel w d := hrel
  refine ⟨hrel.waiting, fun s hs => ?_, fun s hs => hrel.poll_delivers hs,
    fun hclosed es w' hrun => ?_⟩
  · obtain ⟨hinbound, hdown⟩ := hrel.drained s hs
    have hwaiting := hrel.waiting s
    rw [hinbound, List.append_nil] at hwaiting
    exact ⟨hwaiting.symm, hrel.hungUp.mp hdown⟩
  · obtain ⟨d', hd', hrel'⟩ := (pairLink labelA labelB fpA fpB).run hrel hrun
    have hrel' : PairRel w' d' := hrel'
    rw [← hrel'.sent, ← hrel.sent]
    exact (duplex_sent_frozen hd' (hrel.hungUp.mpr hclosed)).1

/-- A side sends after the handshake and closes; the other hears the message and the hang-up. -/
theorem mock_pair_delivers_hang_up :
    ∃ w, (pairSystem "host" "viewer" ⟨"sha-256", "AA"⟩ ⟨"sha-256", "BB"⟩).Reachable w ∧
      (w.pair.peer .b).state = .disconnected ∧
      delivered (w.heard .b) = [.data ⟨"input", [1], false⟩] ∧
      w.sent .a = [.data ⟨"input", [1], false⟩] := by
  let m : DataMessage := ⟨"input", [1], false⟩
  let S := pairSystem "host" "viewer" ⟨"sha-256", "AA"⟩ ⟨"sha-256", "BB"⟩
  let w₀ : PairWorld :=
    ⟨.withConfigs "host" "viewer" ⟨"sha-256", "AA"⟩ ⟨"sha-256", "BB"⟩, fun _ => [], fun _ => []⟩
  let es : List (Side × PeerOp) := [(.a, .setLocalDescription ⟨.offer, "v"⟩),
    (.b, .setRemoteDescription ⟨.offer, "v"⟩), (.b, .setLocalDescription ⟨.answer, "v"⟩),
    (.a, .setRemoteDescription ⟨.answer, "v"⟩), (.a, .sendData m), (.b, .poll), (.a, .close),
    (.b, .poll)]
  let w := es.foldl (fun w e => w.step e.1 e.2) w₀
  have hrun : S.runFrom w₀ es = some w := rfl
  have hw : S.Reachable w := System.reachable_of_runFrom (.init rfl) hrun
  have hdisconnected : (w.pair.peer .b).state = .disconnected := by decide +kernel
  have hsent : w.sent .a = [.data m] := by decide +kernel
  obtain ⟨-, hall, -⟩ :=
    mock_pair_delivers "host" "viewer" ⟨"sha-256", "AA"⟩ ⟨"sha-256", "BB"⟩ hw
  have hheard : delivered (w.heard .b) = w.sent .a := (hall .b hdisconnected).1
  exact ⟨w, hw, hdisconnected, hheard.trans hsent, hsent⟩

end RemoteLink.Net
