import RemoteLink.Library.Outcome
import RemoteLink.Net.MockPair

set_option autoImplicit false

/-!
# The handshake of a mock pair

Offer, answer and candidates are exchanged between the two sides of a pair, which connects them.
From then on everything that is sent arrives at the next poll, until a side closes.

## Main definitions

* `PairWorld.handshake`, `PairWorld.flush` — the exchange, and a poll of both sides.
* `MockPeer.Shaking` — the state of a peer by the descriptions that it has.
* `PairWorld.Live` — both sides are connected.

## Main results

* `handshake_connects` — the handshake of a fresh pair succeeds and connects it.
* `PairWorld.Live.send`, `PairWorld.Live.flush` — what is sent over a connected pair is delivered.
-/

namespace RemoteLink.Net

open Library Protocol

/-! ## Handshake -/

/-- A fresh pair of which nothing has been called. -/
def PairWorld.fresh (labelA labelB : String) (fpA fpB : DtlsFingerprint) : PairWorld :=
  ⟨.withConfigs labelA labelB fpA fpB, fun _ => [], fun _ => []⟩

/-- A call of a side that must succeed. -/
def PairWorld.call (w : PairWorld) (side : Side) (op : PeerOp) : Except NetError PairWorld :=
  (w.pair.call side op).result.map fun _ => w.step side op

/-- The last candidate among callbacks. -/
def lastLocalIce (cs : List PeerCallback) : Option IceCandidate :=
  cs.reverse.findSome? fun
    | .iceCandidate candidate => some candidate
    | _ => none

/-- Offer, answer, and the exchange of the candidates that were emitted. -/
def PairWorld.handshake (w : PairWorld) : Except NetError PairWorld := do
  let offer ← (mockTransport.createOffer w.pair.peerA).result
  let w ← w.call .a .createOffer
  let w ← w.call .a (.setLocalDescription offer)
  let w ← w.call .b (.setRemoteDescription offer)
  let answer ← (mockTransport.createAnswer w.pair.peerB).result
  let w ← w.call .b .createAnswer
  let w ← w.call .b (.setLocalDescription answer)
  let w ← w.call .a (.setRemoteDescription answer)
  match lastLocalIce (w.heard .a), lastLocalIce (w.heard .b) with
  | none, _ => .error (.internal "host emitted no ICE")
  | some _, none => .error (.internal "viewer emitted no ICE")
  | some candidateA, some candidateB =>
    w.call .a (.addIceCandidate candidateB) >>= fun w => w.call .b (.addIceCandidate candidateA)

/-- Poll both sides. -/
def PairWorld.flush (w : PairWorld) : Except NetError PairWorld :=
  w.call .a .poll >>= fun w => w.call .b .poll

/-- A description that a peer has made is not empty. -/
theorem MockPeer.mockSdp_ne (p : MockPeer) (ty : SdpType) : (p.mockSdp ty).sdp ≠ "" := by
  intro h
  have := congrArg String.length h
  simp [mockSdp] at this

/-- The line of a candidate is not empty. -/
theorem candidateLine_ne (port : Nat) :
    s!"candidate:1 1 UDP 2122252543 127.0.0.1 {port} typ host" ≠ "" := by
  intro h
  have htyp : " typ host" = "" := (String.append_eq_empty_iff.mp h).2
  simp at htyp

/-- How far a peer that is open has come: which descriptions it has, and the state that follows. -/
structure MockPeer.Shaking (p : MockPeer) (localSet remoteSet : Bool) : Prop where
  closed : p.closed = false
  restarts : p.iceRestartCount = 0
  paired : p.paired = true
  localDesc : p.localDesc.isSome = localSet
  remoteDesc : p.remoteDesc.isSome = remoteSet
  state : p.state = if localSet && remoteSet then .connected else
    if localSet || remoteSet then .connecting else .new

namespace MockPeer.Shaking

variable {p q : MockPeer} {l r : Bool}

theorem isClosed (h : p.Shaking l r) : p.isClosed = false := by
  rw [MockPeer.isClosed, h.closed, h.state]
  cases l <;> cases r <;> rfl

/-- The queues do not matter. -/
theorem congr (h : p.Shaking l r) (hclosed : q.closed = p.closed)
    (hrestarts : q.iceRestartCount = p.iceRestartCount) (hpaired : q.paired = p.paired)
    (hlocal : q.localDesc = p.localDesc) (hremote : q.remoteDesc = p.remoteDesc)
    (hstate : q.state = p.state) : q.Shaking l r :=
  ⟨hclosed.trans h.closed, hrestarts.trans h.restarts, hpaired.trans h.paired,
    hlocal ▸ h.localDesc, hremote ▸ h.remoteDesc, hstate.trans h.state⟩

/-- Connecting brings the state up to date with the descriptions. -/
theorem tryConnect (hclosed : p.closed = false) (hrestarts : p.iceRestartCount = 0)
    (hpaired : p.paired = true) (hlocal : p.localDesc.isSome = l)
    (hremote : p.remoteDesc.isSome = r) (hset : (l || r) = true)
    (hstate : p.state = .connecting ∨ p.state = .connected ∧ (l && r) = true) :
    p.tryConnect.1.Shaking l r := by
  unfold MockPeer.tryConnect
  cases hl : p.localDesc with
  | none =>
    simp only [hl, Option.isSome_none] at hlocal
    subst hlocal
    refine ⟨hclosed, hrestarts, hpaired, by rw [hl]; rfl, hremote, ?_⟩
    simpa [hset] using hstate
  | some d =>
    simp only [hl, Option.isSome_some] at hlocal
    subst hlocal
    cases hr : p.remoteDesc with
    | none =>
      simp only [hr, Option.isSome_none] at hremote
      subst hremote
      exact ⟨hclosed, hrestarts, hpaired, by rw [hl]; rfl, by rw [hr]; rfl, by simpa using hstate⟩
    | some e =>
      simp only [hr, Option.isSome_some] at hremote
      subst hremote
      simp only [hpaired, if_true]
      rcases hstate with hconnecting | ⟨hconnected, -⟩
      · rw [if_neg (by simp [hconnecting])]
        exact ⟨hclosed, hrestarts, rfl, by simp [MockPeer.emitState], by simp [MockPeer.emitState],
          rfl⟩
      · rw [if_pos (.inl hconnected)]
        exact ⟨hclosed, hrestarts, rfl, by simp, by simp, hconnected⟩

/-- A description is set: the peer has it, and the state follows. -/
theorem describe {set : MockPeer → MockPeer} {offered : List PeerCallback} {l' r' : Bool}
    (h : p.Shaking l r) (hclosed : (set p).closed = p.closed)
    (hrestarts : (set p).iceRestartCount = p.iceRestartCount)
    (hpaired : (set p).paired = p.paired) (hstate : (set p).state = p.state)
    (hlocal : (set p).localDesc.isSome = l')
    (hremote : (set p).remoteDesc.isSome = r') (hset : (l' || r') = true)
    (hleft : l = true → l' = true) (hright : r = true → r' = true) :
    (p.describe set offered).peer.Shaking l' r' := by
  unfold MockPeer.describe MockPeer.leaveNew
  by_cases hnew : (set p).state = .new
  · rw [if_pos hnew]
    exact tryConnect (hclosed.trans h.closed) (hrestarts.trans h.restarts)
      (hpaired.trans h.paired) hlocal hremote hset (.inl rfl)
  · rw [if_neg hnew]
    refine tryConnect (hclosed.trans h.closed) (hrestarts.trans h.restarts)
      (hpaired.trans h.paired) hlocal hremote hset ?_
    have hbefore := hstate.trans h.state
    rw [hbefore] at hnew ⊢
    cases l <;> cases r <;> simp_all

end MockPeer.Shaking

/-! ### Candidates -/

theorem lastLocalIce_append (cs ds : List PeerCallback) :
    lastLocalIce (cs ++ ds) = (lastLocalIce ds).or (lastLocalIce cs) := by
  simp [lastLocalIce, List.findSome?_append]

theorem lastLocalIce_leaveNew (p : MockPeer) : lastLocalIce p.leaveNew.2 = none := by
  unfold MockPeer.leaveNew
  split_ifs <;> rfl

theorem lastLocalIce_tryConnect (p : MockPeer) : lastLocalIce p.tryConnect.2 = none := by
  unfold MockPeer.tryConnect
  split
  · dsimp only
    split_ifs <;> rfl
  · rfl

/-- The last candidate of a call that sets a description is the one that it offers. -/
theorem lastLocalIce_describe (p : MockPeer) (set : MockPeer → MockPeer)
    (offered : List PeerCallback) :
    lastLocalIce (p.describe set offered).callbacks = lastLocalIce offered := by
  unfold MockPeer.describe
  simp only [lastLocalIce_append, lastLocalIce_leaveNew, lastLocalIce_tryConnect]
  cases lastLocalIce offered <;> rfl

/-! ### Both sides -/

/-- A pair after some calls of its sides. -/
def PairWorld.Reached (w : PairWorld) : Prop :=
  ∃ labelA labelB fpA fpB, (pairSystem labelA labelB fpA fpB).Reachable w

theorem PairWorld.Reached.step {w : PairWorld} (h : w.Reached) (side : Side) (op : PeerOp) :
    (w.step side op).Reached := by
  obtain ⟨labelA, labelB, fpA, fpB, hw⟩ := h
  exact ⟨labelA, labelB, fpA, fpB, .step (e := (side, op)) hw trivial rfl⟩

/-- A pair is a link. -/
theorem PairWorld.Reached.rel {w : PairWorld} (h : w.Reached) : ∃ d, PairRel w d := by
  obtain ⟨labelA, labelB, fpA, fpB, hw⟩ := h
  obtain ⟨d, -, hrel⟩ := (pairLink labelA labelB fpA fpB).reachable hw
  exact ⟨d, hrel⟩

/-- How far both sides have come; nothing has been sent, and a side with a description of its own
has emitted a candidate. -/
structure PairWorld.Shaking (w : PairWorld) (descs : Side → Bool × Bool) : Prop where
  reached : w.Reached
  peer : ∀ s, (w.pair.peer s).Shaking (descs s).1 (descs s).2
  sent : ∀ s, w.sent s = []
  emitted : ∀ s, (descs s).1 = true →
    ∃ candidate, lastLocalIce (w.heard s) = some candidate ∧ candidate.candidate ≠ ""

/-- The peers after a call of one side are what they were but for the queues. -/
theorem MockPeerPair.settle_shaking {pair : MockPeerPair} {side : Side} {own : MockPeer}
    {l r l' r' : Bool} (hown : own.Shaking l r) (hother : (pair.peer side.other).Shaking l' r') :
    ((pair.settle side own).peer side).Shaking l r ∧
      ((pair.settle side own).peer side.other).Shaking l' r' := by
  unfold MockPeerPair.settle
  cases own.outbound with
  | none =>
    simp only [MockPeerPair.peer_ofPeers, MockPeerPair.peer_ofPeers_other]
    exact ⟨hown, hother.congr rfl rfl rfl rfl rfl rfl⟩
  | some queue =>
    simp only [MockPeerPair.peer_ofPeers, MockPeerPair.peer_ofPeers_other]
    exact ⟨hown.congr rfl rfl rfl rfl rfl rfl, hother.congr rfl rfl rfl rfl rfl rfl⟩

theorem PairWorld.call_ok {w : PairWorld} {side : Side} {op : PeerOp}
    (h : ((w.pair.peer side).call op).result = .ok ()) : w.call side op = .ok (w.step side op) := by
  rw [PairWorld.call, MockPeerPair.call, h]
  rfl

namespace PairWorld.Shaking

variable {w : PairWorld} {descs : Side → Bool × Bool}

/-- A call that sends nothing. -/
theorem call (h : w.Shaking descs) (side : Side) {op : PeerOp} {l r : Bool}
    (hresult : ((w.pair.peer side).call op).result = .ok ()) (hmessage : op.message = none)
    (hpeer : ((w.pair.peer side).call op).peer.Shaking l r)
    (hemitted : l = true → (∃ candidate,
      lastLocalIce ((w.pair.peer side).call op).callbacks = some candidate ∧
        candidate.candidate ≠ "") ∨
      lastLocalIce ((w.pair.peer side).call op).callbacks = none ∧ (descs side).1 = true) :
    Succeeds (PairWorld.Shaking · (Function.update descs side (l, r))) (w.call side op) := by
  have hpeers := MockPeerPair.settle_shaking hpeer (h.peer side.other)
  refine ⟨_, call_ok hresult, h.reached.step side op, ?_, fun s => ?_, fun s hs => ?_⟩
  · intro s
    rcases side.eq_or_other s with rfl | rfl
    · rw [Function.update_self]
      exact hpeers.1
    · rw [Function.update_of_ne (Side.other_ne _)]
      exact hpeers.2
  · rw [PairWorld.step_eq rfl rfl]
    have hsentBy : sentBy op ((w.pair.peer side).call op).result = [] := by
      rw [hresult, sentBy, hmessage]
      rfl
    simp only [hsentBy, List.append_nil, Function.update_eq_self]
    exact h.sent s
  · rw [PairWorld.step_eq rfl rfl]
    rcases side.eq_or_other s with rfl | rfl
    · rw [Function.update_self] at hs
      simp only [Function.update_self, lastLocalIce_append]
      rcases hemitted hs with ⟨candidate, hcandidate, hne⟩ | ⟨hnone, hbefore⟩
      · exact ⟨candidate, by rw [hcandidate]; rfl, hne⟩
      · obtain ⟨candidate, hcandidate, hne⟩ := h.emitted s hbefore
        exact ⟨candidate, by rw [hnone]; exact hcandidate, hne⟩
    · rw [Function.update_of_ne (Side.other_ne _)] at hs
      simp only [Function.update_of_ne (Side.other_ne _)]
      exact h.emitted _ hs

/-- A call that leaves the peer as it is. -/
theorem keep (h : w.Shaking descs) (side : Side) {op : PeerOp} (hmessage : op.message = none)
    (hcall : (w.pair.peer side).call op = ⟨.ok (), w.pair.peer side, []⟩) :
    Succeeds (PairWorld.Shaking · descs) (w.call side op) := by
  have hcalled := h.call side (l := (descs side).1) (r := (descs side).2)
    (by rw [hcall]) hmessage (by rw [hcall]; exact h.peer side)
    fun hl => .inr ⟨by rw [hcall]; rfl, hl⟩
  rwa [Function.update_eq_self] at hcalled

/-- A side applies a description of its own. -/
theorem setLocal (h : w.Shaking descs) (side : Side) (desc : SessionDescription) :
    Succeeds (PairWorld.Shaking · (Function.update descs side (true, (descs side).2)))
      (w.call side (.setLocalDescription desc)) := by
  have hopen := (h.peer side).isClosed
  have hcall : (w.pair.peer side).call (.setLocalDescription desc) = (w.pair.peer side).describe
      (fun p => { p with localDesc := some desc })
      [.iceCandidate (w.pair.peer side).hostCandidate] := if_neg (by simp [hopen])
  refine h.call side (by rw [hcall]; rfl) rfl ?_
    fun _ => .inl ⟨(w.pair.peer side).hostCandidate, ?_, ?_⟩
  · rw [hcall]
    exact (h.peer side).describe rfl rfl rfl rfl rfl (h.peer side).remoteDesc rfl (fun _ => rfl) id
  · rw [hcall, lastLocalIce_describe]
    rfl
  · exact candidateLine_ne _

/-- A side applies the description of the other. -/
theorem setRemote (h : w.Shaking descs) (side : Side) {desc : SessionDescription}
    (hne : desc.sdp ≠ "") :
    Succeeds (PairWorld.Shaking · (Function.update descs side ((descs side).1, true)))
      (w.call side (.setRemoteDescription desc)) := by
  have hopen := (h.peer side).isClosed
  have hcall : (w.pair.peer side).call (.setRemoteDescription desc) = (w.pair.peer side).describe
      (fun p => { p with remoteDesc := some desc }) [] :=
    (if_neg (by simp [hopen])).trans (if_neg hne)
  refine h.call side (by rw [hcall]; rfl) rfl ?_ fun hl => .inr ⟨?_, hl⟩
  · rw [hcall]
    exact (h.peer side).describe rfl rfl rfl rfl (h.peer side).localDesc rfl (by simp) id
      fun _ => rfl
  · rw [hcall, lastLocalIce_describe]
    rfl

/-- A side that is connected takes a candidate. -/
theorem addIce (h : w.Shaking descs) (side : Side) {candidate : IceCandidate}
    (hne : candidate.candidate ≠ "") (hset : descs side = (true, true)) :
    Succeeds (PairWorld.Shaking · descs) (w.call side (.addIceCandidate candidate)) := by
  have hpeer := h.peer side
  rw [hset] at hpeer
  have hopen := hpeer.isClosed
  have hcall : (w.pair.peer side).call (.addIceCandidate candidate) =
      ⟨.ok (), (w.pair.peer side).tryConnect.1, (w.pair.peer side).tryConnect.2⟩ :=
    (if_neg (by simp [hopen])).trans (if_neg hne)
  have hshaking : (w.pair.peer side).tryConnect.1.Shaking true true :=
    .tryConnect hpeer.closed hpeer.restarts hpeer.paired hpeer.localDesc hpeer.remoteDesc rfl
      (.inr ⟨hpeer.state, rfl⟩)
  have hcalled := h.call side (l := true) (r := true)
    (by rw [hcall]) rfl (by rw [hcall]; exact hshaking)
    fun _ => .inr ⟨by rw [hcall]; exact lastLocalIce_tryConnect _, by rw [hset]⟩
  rwa [← hset, Function.update_eq_self] at hcalled

end PairWorld.Shaking

/-- A pair of which nothing has been called. -/
theorem PairWorld.fresh_shaking (labelA labelB : String) (fpA fpB : DtlsFingerprint) :
    (PairWorld.fresh labelA labelB fpA fpB).Shaking fun _ => (false, false) where
  reached := ⟨labelA, labelB, fpA, fpB, .init rfl⟩
  peer s := by
    cases s with
    | a => exact ⟨rfl, rfl, rfl, rfl, rfl, rfl⟩
    | b => exact ⟨rfl, rfl, rfl, rfl, rfl, rfl⟩
  sent _ := rfl
  emitted _ h := by cases h

/-- A side that has the offer makes an answer. -/
theorem PairWorld.Shaking.answer {w : PairWorld} {descs : Side → Bool × Bool} (h : w.Shaking descs)
    (hset : (descs .b).2 = true) : mockTransport.createAnswer (w.pair.peer .b) =
      ⟨.ok ((w.pair.peer .b).mockSdp .answer), w.pair.peer .b, []⟩ := by
  have hopen := (h.peer .b).isClosed
  have hremote := (h.peer .b).remoteDesc.trans hset
  have hsome : (w.pair.peer .b).remoteDesc.isNone = false := by
    rw [← Option.not_isSome, hremote]
    rfl
  exact (if_neg (by simp [hopen])).trans (if_neg (by simp [hsome]))

/-- **The handshake connects a fresh pair.** -/
theorem handshake_connects (labelA labelB : String) (fpA fpB : DtlsFingerprint) :
    Succeeds (PairWorld.Shaking · fun _ => (true, true))
      (PairWorld.fresh labelA labelB fpA fpB).handshake := by
  have h := PairWorld.fresh_shaking labelA labelB fpA fpB
  refine .bind (P := fun d => d.sdp ≠ "") (.ok (MockPeer.mockSdp_ne _ _)) fun offer hoffer => ?_
  refine .bind (h.keep .a rfl rfl) fun w h => ?_
  refine .bind (h.setLocal .a offer) fun w h => ?_
  refine .bind (h.setRemote .b hoffer) fun w h => ?_
  have hanswer := h.answer rfl
  refine .bind (P := fun d => d.sdp ≠ "") ⟨_, congrArg Call.result hanswer, MockPeer.mockSdp_ne _ _⟩
    fun answer hne => ?_
  refine .bind (h.keep .b rfl (congrArg Call.void hanswer)) fun w h => ?_
  refine .bind (h.setLocal .b answer) fun w h => ?_
  refine .bind (h.setRemote .a hne) fun w h => ?_
  obtain ⟨candidateA, hcandidateA, hneA⟩ := h.emitted .a rfl
  obtain ⟨candidateB, hcandidateB, hneB⟩ := h.emitted .b rfl
  rw [hcandidateA, hcandidateB]
  refine .bind (h.addIce .a hneB rfl) fun w h => ?_
  refine (h.addIce .b hneA rfl).imp fun w h => ?_
  refine cast (congrArg w.Shaking (funext fun s => ?_)) h
  cases s <;> rfl

/-! ## Connected pairs -/

/-- Both sides are connected. -/
structure PairWorld.Live (w : PairWorld) : Prop where
  reached : w.Reached
  peer : ∀ s, (w.pair.peer s).Shaking true true

/-- The pair is live after the handshake. -/
theorem PairWorld.Shaking.live {w : PairWorld} (h : w.Shaking fun _ => (true, true)) : w.Live :=
  ⟨h.reached, h.peer⟩

namespace PairWorld.Live

variable {w : PairWorld}

/-- The wires of a live pair are there. -/
theorem wires (h : w.Live) (s : Side) :
    (w.pair.peer s).outbound = some [] ∧ (w.pair.peer s).inboundOpen = true := by
  obtain ⟨d, hrel⟩ := h.reached.rel
  have hup : d.up = true := by
    by_contra hdown
    obtain ⟨t, ht⟩ := hrel.hungUp.mp (Bool.eq_false_iff.mpr hdown)
    rw [(h.peer t).closed] at ht
    cases ht
  have hwires := hrel.wires s
  rwa [hup] at hwires

/-- **A live pair takes what is sent.** -/
theorem send (h : w.Live) (side : Side) {op : PeerOp} {m : Sent} (hmessage : op.message = some m) :
    (w.pair.call side op).result = .ok () ∧ (w.step side op).Live ∧
      (w.step side op).sent = Function.update w.sent side (w.sent side ++ [m]) := by
  have hsend : (w.pair.peer side).call op = (w.pair.peer side).sendWire m := by
    cases op with
    | sendVideoNalu nalu => exact congrArg (w.pair.peer side).sendWire (Option.some.inj hmessage)
    | sendAudio packet => exact congrArg (w.pair.peer side).sendWire (Option.some.inj hmessage)
    | sendData message => exact congrArg (w.pair.peer side).sendWire (Option.some.inj hmessage)
    | _ => cases hmessage
  have hcall : (w.pair.peer side).call op =
      ⟨.ok (), { w.pair.peer side with outbound := some ([] ++ [m]) }, []⟩ := by
    have hstate : (w.pair.peer side).state = .connected := (h.peer side).state
    rw [hsend, MockPeer.sendWire, if_neg (by simp [(h.peer side).isClosed]),
      if_neg (not_not.mpr hstate), if_neg (by simp [(h.peer side).paired]), (h.wires side).1]
  have hsent : MockPeer.Shaking { w.pair.peer side with outbound := some ([] ++ [m]) } true true :=
    (h.peer side).congr rfl rfl rfl rfl rfl rfl
  have hpeers := MockPeerPair.settle_shaking hsent (h.peer side.other)
  refine ⟨by rw [MockPeerPair.call, hcall], ⟨h.reached.step side op, fun s => ?_⟩, ?_⟩
  · rw [PairWorld.step_eq hcall rfl]
    rcases side.eq_or_other s with rfl | rfl
    · exact hpeers.1
    · exact hpeers.2
  · rw [PairWorld.step_eq hcall rfl, sentBy, hmessage]
    rfl

/-- A call that sends over a live pair. -/
theorem call_send (h : w.Live) (side : Side) {op : PeerOp} {m : Sent}
    (hmessage : op.message = some m) :
    Succeeds (fun w' => w'.Live ∧ w'.sent = Function.update w.sent side (w.sent side ++ [m]))
      (w.call side op) := by
  obtain ⟨hresult, hlive, hsent⟩ := h.send side hmessage
  refine ⟨w.step side op, ?_, hlive, hsent⟩
  rw [PairWorld.call, hresult]
  rfl

/-- A poll of a live pair delivers to a side what the other has sent. -/
theorem poll (h : w.Live) (side : Side) :
    Succeeds (fun w' => w'.Live ∧ w'.sent = w.sent ∧ delivered (w'.heard side) = w.sent side.other ∧
      w'.heard side.other = w.heard side.other) (w.call side .poll) := by
  have hopen := (h.peer side).isClosed
  obtain ⟨hresult, -, state, hpeer, hstate⟩ := MockPeer.poll_open (h.peer side).paired hopen
  have hsame : state = (w.pair.peer side).state := by
    refine hstate.resolve_right fun hdown => ?_
    rw [(h.wires side).2] at hdown
    cases hdown.2
  obtain ⟨d, hrel⟩ := h.reached.rel
  have hpolled : (w.pair.peer side).poll.peer.Shaking true true := by
    rw [hpeer]
    exact (h.peer side).congr rfl rfl rfl rfl rfl hsame
  have hpeers := MockPeerPair.settle_shaking hpolled (h.peer side.other)
  refine ⟨w.step side .poll, PairWorld.call_ok hresult, ⟨h.reached.step side .poll, fun s => ?_⟩,
    ?_, hrel.poll_delivers hopen, ?_⟩
  · rcases side.eq_or_other s with rfl | rfl
    · exact hpeers.1
    · exact hpeers.2
  · rw [PairWorld.step_eq rfl rfl]
    have hsentBy : sentBy .poll ((w.pair.peer side).call .poll).result = [] := by
      cases ((w.pair.peer side).call .poll).result <;> rfl
    simp only [hsentBy, List.append_nil, Function.update_eq_self]
  · rw [PairWorld.step_eq rfl rfl]
    exact Function.update_of_ne (Side.other_ne _) _ _

/-- **A flush delivers everything** to both sides of a live pair. -/
theorem flush (h : w.Live) :
    Succeeds (fun w' => w'.Live ∧ w'.sent = w.sent ∧
      ∀ s, delivered (w'.heard s) = w.sent s.other) w.flush := by
  refine .bind (h.poll .a) fun w₁ ⟨hlive₁, hsent₁, hheard₁, _⟩ => ?_
  refine (hlive₁.poll .b).imp fun w₂ ⟨hlive₂, hsent₂, hheard₂, hother⟩ => ?_
  refine ⟨hlive₂, hsent₂.trans hsent₁, fun s => ?_⟩
  cases s with
  | a => exact (congrArg delivered hother).trans hheard₁
  | b => exact hheard₂.trans (congrFun hsent₁ _)

/-- **A live pair hangs up**: the side that closes is closed, and the other observes it when it
polls. -/
theorem close (h : w.Live) (side : Side) :
    Succeeds (fun w' => (w'.pair.peer side).state = .closed ∧
      ((w'.step side.other .poll).pair.peer side.other).state = .disconnected)
      (w.call side .close) := by
  have hcall : (w.pair.peer side).call .close = ⟨.ok (), { w.pair.peer side with
      closed := true, outbound := none, inboundOpen := false, state := .closed },
      [.connectionState .closed]⟩ := if_neg (by simp [(h.peer side).closed])
  refine ⟨_, PairWorld.call_ok (by rw [hcall]), ?_, ?_⟩
  · rw [PairWorld.step_eq hcall rfl]
    exact congrArg MockPeer.state (MockPeerPair.peer_ofPeers side _ _)
  · have hother : ((w.step side .close).pair.peer side.other) = { w.pair.peer side.other with
        outbound := none, inboundOpen := false } := by
      rw [PairWorld.step_eq hcall rfl]
      exact MockPeerPair.peer_ofPeers_other side _ _
    have hpoll : ((w.step side .close).pair.peer side.other).poll.peer.state = .disconnected ∧
        ((w.step side .close).pair.peer side.other).poll.peer.outbound = none := by
      have hopen : ((w.step side .close).pair.peer side.other).isClosed = false := by
        rw [hother]
        exact (h.peer side.other).isClosed
      have hpaired := (h.peer side.other).paired
      have hstate : (w.pair.peer side.other).state = .connected := (h.peer side.other).state
      rw [MockPeer.poll, if_neg (by simp [hopen]), hother]
      simp [hpaired, hstate, MockPeer.emitState]
    rw [PairWorld.step_eq rfl rfl]
    simp only [MockPeer.call, mockTransport, MockPeerPair.settle, hpoll.2,
      MockPeerPair.peer_ofPeers]
    exact hpoll.1

/-- **A live pair restarts ICE** and is connected again. -/
theorem restartIce (h : w.Live) (side : Side) :
    Succeeds (fun w' => (w'.pair.peer side).iceRestartCount = 1 ∧
      (w'.pair.peer side).state = .connected) (w.call side .restartIce) := by
  have hstate : (w.pair.peer side).state = .connected := (h.peer side).state
  have hrestart : ((w.pair.peer side).call .restartIce).result = .ok () ∧
      ((w.pair.peer side).call .restartIce).peer.iceRestartCount = 1 ∧
      ((w.pair.peer side).call .restartIce).peer.state = .connected := by
    simp [MockPeer.call, MockPeer.restartIce, (h.peer side).isClosed, hstate, MockPeer.emitState,
      (h.peer side).restarts]
  refine ⟨_, PairWorld.call_ok hrestart.1, ?_⟩
  rw [PairWorld.step_eq rfl rfl]
  simp only [MockPeerPair.settle]
  split
  · simpa using hrestart.2
  · simpa using hrestart.2

end PairWorld.Live

end RemoteLink.Net
