import Mathlib.Logic.Function.Basic
import RemoteLink.Server.SessionReconnect
import RemoteLink.Server.SignalOrder
import RemoteLink.Signaling.Client

set_option autoImplicit false

/-!
# Hanging up

The registry together with the clients that number the messages. Each connection is a pair of
queues: what its client sent and the server has not handled, and what the server sent and the
client has not received. Clients send, receive and are served in any order, so the numbers of the
two parties of a session cross. A `session_end` closes its session unless a message of somebody
else, with a number that is not below its own, was sequenced first.

## Main definitions

* `Endpoint` — the client of one connection with its messages in flight.
* `dispatch` — the call of the registry that a message asks for.
* `Wire`, `wireSystem` — the interleavings of clients and server.
* `Overtaken` — a number of somebody else was sequenced first.

## Main results

* `handleText_dispatch`, `createStep_dispatch` — the WebSocket handlers call what `dispatch` says.
* `Endpoint.Ahead` — a client's numbers continue after its own and after those it received.
* `session_end_closes` — when a `session_end` closes its session.
* `session_end_overtaken` — a run in which it does not.
-/

namespace RemoteLink.Server

open RemoteLink.Library RemoteLink.Protocol RemoteLink.Signaling

/-! ## Clients -/

/-- A message in flight to the server, its number, and how many messages its client had received
when it took the number. -/
structure Posted where
  msg : SignalMessage
  seq : UInt64
  numbered : msg.signalSeq? = some seq
  seen : Nat

/-- The client of a connection: its counter, its messages in flight, oldest first, and how many
messages it has received. -/
structure Endpoint where
  client : SignalingClient
  outbox : List Posted
  received : Nat

namespace Endpoint

/-- A client that has just connected. -/
def connect : Endpoint := ⟨.connect, [], 0⟩

/-- Send a message under the next number. -/
def post (p : Endpoint) (msg : SignalMessage) : Option Endpoint :=
  if h : msg.signalSeq? = some p.client.takeSeq.1 then
    some { p with
      client := p.client.takeSeq.2
      outbox := p.outbox ++ [⟨msg, p.client.takeSeq.1, h, p.received⟩] }
  else none

/-- Receive the next message of the channel. -/
def receive (p : Endpoint) (inbox : List SignalMessage) : Option Endpoint :=
  inbox[p.received]?.map fun msg =>
    { p with client := p.client.observe msg, received := p.received + 1 }

end Endpoint

/-- The numbers among the first `k` messages of a channel. -/
def heard (inbox : List SignalMessage) (k : Nat) : List UInt64 :=
  (inbox.take k).filterMap SignalMessage.signalSeq?

/-! ## Serving a message -/

/-- The call that a message of `conn` asks of the registry. An intent is first checked, with the
device and the viewer info as the result; the other messages are not. -/
def dispatch (role : Role) (conn : ConnId) (msg : SignalMessage)
    (verdict : Option (Device × Value)) (now : Time) : Option RegistryEvent :=
  match msg with
  | .sessionIntent sessionId signalSeq hostPublicId mode _ =>
    if role = .viewer then verdict.map fun (device, viewerInfo) =>
      .createPendingSession
        ⟨conn, sessionId, hostPublicId, device, mode, signalSeq, viewerInfo⟩ now
    else none
  | .sessionAccept sessionId signalSeq =>
    if role = .host then some (.acceptSession conn sessionId signalSeq now) else none
  | .sessionReject sessionId signalSeq reason =>
    if role = .host then some (.rejectSession conn sessionId signalSeq reason now) else none
  | .sessionOffer .. | .sessionAnswer .. | .iceCandidate .. | .mediaRestart ..
  | .renegotiate .. | .authChallenge .. | .authResponse .. | .stats .. =>
    some (.relayMediaSignal conn msg now)
  | .sessionEnd sessionId signalSeq reason =>
    some (.endSession conn sessionId signalSeq reason now)
  | .hello .. | .helloOk .. | .sessionIncoming .. | .error .. => none

/-- The registry after a call, or without one. -/
def RegistryInner.serve (ttls : Ttls) (g : RegistryInner) (call : Option RegistryEvent) :
    RegistryInner :=
  match call with
  | some e => (e.perform ttls g).2
  | none => g

@[simp] theorem WsWorld.finish_registry (w : WsWorld) (conn : ConnId)
    (identity : Option PeerIdentity) (result : Except SignalMessage Unit) :
    (w.finish conn identity result).registry = w.registry := by
  rcases result with e | _
  · rfl
  · rfl

@[simp] theorem WsWorld.goto_registry (w : WsWorld) (conn : ConnId)
    (identity : Option PeerIdentity) (stage : Stage) :
    (w.goto conn identity stage).registry = w.registry := rfl

/-- **The handler of text frames makes the call of `dispatch`**; of an intent it makes none yet. -/
theorem handleText_dispatch (cfg : ServerConfig) (w : WsWorld) (conn : ConnId)
    (identity : PeerIdentity) (msg : SignalMessage) (ans : Answers) :
    (handleText cfg w conn identity (.ok msg) ans).registry =
      w.registry.serve cfg.ttls (dispatch identity.role conn msg none ans.now) := by
  unfold handleText dispatch
  cases msg with
  | sessionIntent sid seq host mode prefilter =>
    dsimp only
    rcases checkIntent identity ⟨sid, seq, host, mode, prefilter⟩ ans with e | device
    · simp [RegistryInner.serve]
    · simp [RegistryInner.serve]
  | sessionAccept sid seq =>
    dsimp only
    by_cases hrole : identity.role = .host
    · rw [if_neg (not_not.mpr hrole), if_pos hrole]
      rcases h : w.registry.acceptSession cfg.ttls.active conn sid seq ans.now with ⟨e | _, g⟩
      · simp [RegistryInner.serve, RegistryEvent.perform, h]
      · simp [RegistryInner.serve, RegistryEvent.perform, h]
    · rw [if_pos hrole, if_neg hrole]
      simp [RegistryInner.serve]
  | sessionReject sid seq reason =>
    dsimp only
    by_cases hrole : identity.role = .host
    · rw [if_neg (not_not.mpr hrole), if_pos hrole]
      simp [RegistryInner.serve, RegistryEvent.perform]
    · rw [if_pos hrole, if_neg hrole]
      simp [RegistryInner.serve]
  | _ => simp [RegistryInner.serve, RegistryEvent.perform]

/-- **An admitted intent makes the call of `dispatch`** with the device it was checked against. -/
theorem createStep_dispatch (cfg : ServerConfig) (w : WsWorld) (conn : ConnId)
    (identity : PeerIdentity) (intent : Intent) (device : Device) (checked : Option Checked)
    (ans : Answers) (hrole : identity.role = .viewer) :
    (createStep cfg w conn identity intent device checked ans).registry =
      w.registry.serve cfg.ttls (dispatch identity.role conn
        (.sessionIntent intent.sessionId intent.signalSeq intent.hostPublicId intent.mode
          intent.prefilter)
        (if ans.hostLimit = none then some (device, defaultViewerInfo identity) else none)
        ans.now) := by
  unfold createStep dispatch
  dsimp only
  rw [if_pos hrole]
  rcases ans.hostLimit with _ | e
  · dsimp only
    rcases h : w.registry.createPendingSession cfg.ttls.pending _ ans.now with ⟨e | _, g⟩
    · simp [RegistryInner.serve, RegistryEvent.perform, h]
    · simp [RegistryInner.serve, RegistryEvent.perform, h]
  · simp [RegistryInner.serve]

/-! ## The system -/

/-- The registry, the client of every connection, and for every session id the numbers that its
latest session has sequenced, oldest first, each with the connection it came from; the number of
its `session_incoming` comes from the server. The last component only records history. -/
structure Wire where
  world : RegistryWorld
  ends : ConnId → Endpoint
  sequenced : String → List (Option ConnId × UInt64)

/-- Everything put on the channel of a connection so far, oldest first. -/
def Wire.inbox (w : Wire) (conn : ConnId) : List SignalMessage :=
  (w.world.inner.sent.filter fun x => x.1 = conn).map Prod.snd

/-- The numbers sequenced after an event. A new session starts with the number of its
`session_incoming`. -/
def RegistryEvent.sequences (ttls : Ttls) (g : RegistryInner)
    (log : String → List (Option ConnId × UInt64)) (e : RegistryEvent) :
    String → List (Option ConnId × UInt64) :=
  match e.accepts ttls g, e.sender with
  | some (sid, seq), some conn => Function.update log sid (log sid ++ [(some conn, seq)])
  | some (sid, seq), none => Function.update log sid [(none, seq)]
  | none, _ => log

/-- A call of the registry. -/
def Wire.call (ttls : Ttls) (w : Wire) (e : RegistryEvent) : Option Wire :=
  ((registrySystem ttls).step w.world e).map fun world =>
    { w with world, sequenced := e.sequences ttls w.world.inner w.sequenced }

/-- An event of the clients and the server. -/
inductive WireEvent where
  /-- A call that no numbered message asks for. -/
  | server (e : RegistryEvent)
  | post (conn : ConnId) (msg : SignalMessage)
  | receive (conn : ConnId)
  /-- The server handles the oldest message in flight from `conn`. -/
  | handle (conn : ConnId) (verdict : Option (Device × Value)) (now : Time)

/-- The role that a connection is bound with. -/
def RegistryWorld.role? (w : RegistryWorld) (conn : ConnId) : Option Role :=
  match w.phase.lookup conn with
  | some (.bound role) => some role
  | _ => none

/-- One step of clients and server. -/
def wireStep (ttls : Ttls) (w : Wire) : WireEvent → Option Wire
  | .server e => if e.carries = none then w.call ttls e else none
  | .post conn msg => ((w.ends conn).post msg).map fun p =>
    { w with ends := Function.update w.ends conn p }
  | .receive conn => ((w.ends conn).receive (w.inbox conn)).map fun p =>
    { w with ends := Function.update w.ends conn p }
  | .handle conn verdict now =>
    match (w.ends conn).outbox, w.world.role? conn with
    | x :: rest, some role =>
      let w := { w with
        ends := Function.update w.ends conn { w.ends conn with outbox := rest } }
      match dispatch role conn x.msg verdict now with
      | some e => w.call ttls e
      | none => some w
    | _, _ => none

/-- All interleavings of clients and server. -/
def wireSystem (ttls : Ttls) : System Wire WireEvent where
  init w := w = ⟨⟨.empty, ∅⟩, fun _ => .connect, fun _ => []⟩
  step := wireStep ttls

/-! ## Clients ahead of what they know -/

/-- The numbers of a client continue after those that were sequenced for it (`own`), those it
received, and each other: its counter after all of them, a message in flight after those known
when its number was taken. -/
structure Endpoint.Ahead (p : Endpoint) (inbox : List SignalMessage) (own : UInt64 → Prop) :
    Prop where
  received_le : p.received ≤ inbox.length
  seen_le : ∀ x ∈ p.outbox, x.seen ≤ p.received
  own_next : ∀ q, own q → Follows q p.client.nextSeq
  heard_next : ∀ q ∈ heard inbox p.received, Follows q p.client.nextSeq
  posted_next : ∀ x ∈ p.outbox, Follows x.seq p.client.nextSeq
  own_posted : ∀ x ∈ p.outbox, ∀ q, own q → Follows q x.seq
  heard_posted : ∀ x ∈ p.outbox, ∀ q ∈ heard inbox x.seen, Follows q x.seq
  ordered : p.outbox.Pairwise fun x y => Follows x.seq y.seq

/-- What was received stays the same while the channel grows. -/
theorem heard_append {inbox new : List SignalMessage} {k : Nat} (h : k ≤ inbox.length) :
    heard (inbox ++ new) k = heard inbox k := by
  unfold heard
  rw [List.take_append_of_le_length h]

/-- Receiving one more message adds its number. -/
theorem heard_succ {inbox : List SignalMessage} {k : Nat} {msg : SignalMessage}
    (h : inbox[k]? = some msg) : heard inbox (k + 1) = heard inbox k ++ msg.signalSeq?.toList := by
  unfold heard
  rw [List.take_add_one, h, List.filterMap_append]
  rcases hseq : msg.signalSeq? with _ | seq
  · simp [hseq]
  · simp [hseq]

namespace Endpoint.Ahead

variable {p p' : Endpoint} {inbox : List SignalMessage} {own own' : UInt64 → Prop}

theorem connect (inbox : List SignalMessage) : Ahead .connect inbox fun _ => False where
  received_le := Nat.zero_le _
  seen_le _ hx := absurd hx List.not_mem_nil
  own_next _ hq := hq.elim
  heard_next _ hq := absurd hq List.not_mem_nil
  posted_next _ hx := absurd hx List.not_mem_nil
  own_posted _ hx := absurd hx List.not_mem_nil
  heard_posted _ hx := absurd hx List.not_mem_nil
  ordered := List.Pairwise.nil

/-- **A message that is sent takes a number after everything its client knows.** -/
theorem post (h : p.Ahead inbox own) {msg : SignalMessage} (hp : p.post msg = some p') :
    p'.Ahead inbox own := by
  unfold Endpoint.post at hp
  split_ifs at hp with hseq
  obtain rfl := Option.some.inj hp
  have hle := p.client.le_takeSeq
  refine ⟨h.received_le, fun x hx => ?_, fun q hq => (h.own_next q hq).trans_le hle,
    fun q hq => (h.heard_next q hq).trans_le hle, fun x hx => ?_, fun x hx q hq => ?_,
    fun x hx q hq => ?_, ?_⟩
  · rcases List.mem_append.mp hx with hx | hx
    · exact h.seen_le x hx
    · obtain rfl := List.mem_singleton.mp hx
      exact Nat.le_refl _
  · rcases List.mem_append.mp hx with hx | hx
    · exact (h.posted_next x hx).trans_le hle
    · obtain rfl := List.mem_singleton.mp hx
      exact p.client.takeSeq_follows
  · rcases List.mem_append.mp hx with hx | hx
    · exact h.own_posted x hx q hq
    · obtain rfl := List.mem_singleton.mp hx
      exact h.own_next q hq
  · rcases List.mem_append.mp hx with hx | hx
    · exact h.heard_posted x hx q hq
    · obtain rfl := List.mem_singleton.mp hx
      exact h.heard_next q hq
  · refine List.pairwise_append.mpr ⟨h.ordered, List.pairwise_singleton _ _, fun x hx y hy => ?_⟩
    obtain rfl := List.mem_singleton.mp hy
    exact h.posted_next x hx

/-- **A received number moves the counter past it.** -/
theorem receive (h : p.Ahead inbox own) (hp : p.receive inbox = some p') :
    p'.Ahead inbox own := by
  obtain ⟨msg, hmsg, rfl⟩ := Option.map_eq_some_iff.mp hp
  have hle := p.client.le_observe msg
  refine ⟨?_, fun x hx => Nat.le_succ_of_le (h.seen_le x hx),
    fun q hq => (h.own_next q hq).trans_le hle, fun q hq => ?_,
    fun x hx => (h.posted_next x hx).trans_le hle, h.own_posted, h.heard_posted, h.ordered⟩
  · obtain ⟨hlt, -⟩ := List.getElem?_eq_some_iff.mp hmsg
    exact hlt
  · have hq : q ∈ heard inbox (p.received + 1) := hq
    rw [heard_succ hmsg] at hq
    rcases List.mem_append.mp hq with hq | hq
    · exact (h.heard_next q hq).trans_le hle
    · exact p.client.observe_follows (Option.mem_toList.mp hq)

/-- The server puts more on the channel. -/
theorem deliver (h : p.Ahead inbox own) (new : List SignalMessage) :
    p.Ahead (inbox ++ new) own := by
  refine ⟨?_, h.seen_le, h.own_next, fun q hq => ?_, h.posted_next, h.own_posted,
    fun x hx q hq => ?_, h.ordered⟩
  · rw [List.length_append]
    exact Nat.le_add_right_of_le h.received_le
  · rw [heard_append h.received_le] at hq
    exact h.heard_next q hq
  · rw [heard_append (Nat.le_trans (h.seen_le x hx) h.received_le)] at hq
    exact h.heard_posted x hx q hq

/-- Numbers may stop to count as sequenced. -/
theorem mono (h : p.Ahead inbox own) (hsub : ∀ q, own' q → own q) : p.Ahead inbox own' :=
  { h with
    own_next := fun q hq => h.own_next q (hsub q hq)
    own_posted := fun x hx q hq => h.own_posted x hx q (hsub q hq) }

/-- **The oldest message in flight is handled**: its number may be sequenced. -/
theorem handle (h : p.Ahead inbox own) {x : Posted} {rest : List Posted}
    (hout : p.outbox = x :: rest) :
    Ahead { p with outbox := rest } inbox fun q => own q ∨ q = x.seq := by
  have hrest : ∀ y ∈ rest, y ∈ p.outbox := fun y hy => hout ▸ List.mem_cons_of_mem x hy
  have hx : x ∈ p.outbox := hout ▸ List.mem_cons_self
  have hord : (x :: rest).Pairwise fun x y => Follows x.seq y.seq := hout ▸ h.ordered
  obtain ⟨hhead, htail⟩ := List.pairwise_cons.mp hord
  refine ⟨h.received_le, fun y hy => h.seen_le y (hrest y hy), ?_, h.heard_next,
    fun y hy => h.posted_next y (hrest y hy), ?_, fun y hy => h.heard_posted y (hrest y hy), htail⟩
  · rintro q (hq | rfl)
    · exact h.own_next q hq
    · exact h.posted_next x hx
  · rintro y hy q (hq | rfl)
    · exact h.own_posted y (hrest y hy) q hq
    · exact hhead y hy

end Endpoint.Ahead

/-! ## What a call sequences -/

namespace RegistryEvent

open RegistryInner

variable {ttls : Ttls} {g : RegistryInner} {e : RegistryEvent}

/-- What a call accepts is what it carries, except that the server numbers a `session_incoming`
itself. -/
theorem accepts_carries {key : String × UInt64} (h : e.accepts ttls g = some key) :
    e.carries = some key ∨ e.sender = none ∧ e.carries ≠ none := by
  cases e with
  | createPendingSession req now => exact .inr ⟨rfl, Option.some_ne_none _⟩
  | acceptSession conn sid seq now =>
    simp only [accepts, admits] at h
    split at h
    · exact .inl h
    · cases h
  | relayMediaSignal conn msg now => exact .inl (Option.filter_eq_some_iff.mp h).1
  | _ => cases h

/-- A message is dispatched to a call that carries its number and comes from its connection. -/
theorem dispatch_carries {role : Role} {conn : ConnId} {msg : SignalMessage}
    {verdict : Option (Device × Value)} {now : Time} {seq : UInt64}
    (h : dispatch role conn msg verdict now = some e) (hseq : msg.signalSeq? = some seq) :
    (∃ sid, e.carries = some (sid, seq)) ∧ ∀ c, e.sender = some c → c = conn := by
  have hrelay : ∀ sid, relayKey? msg = some (sid, seq) →
      some (relayMediaSignal conn msg now) = some e →
      (∃ sid, e.carries = some (sid, seq)) ∧ ∀ c, e.sender = some c → c = conn := by
    intro sid hkey he
    obtain rfl := Option.some.inj he
    exact ⟨⟨sid, hkey⟩, fun c hc => (Option.some.inj hc).symm⟩
  cases msg with
  | sessionIntent sid seq' host mode prefilter =>
    obtain rfl := Option.some.inj hseq
    simp only [dispatch] at h
    split_ifs at h
    obtain ⟨⟨device, viewerInfo⟩, -, rfl⟩ := Option.map_eq_some_iff.mp h
    refine ⟨⟨sid, rfl⟩, fun c hc => ?_⟩
    cases hc
  | sessionAccept sid seq' =>
    obtain rfl := Option.some.inj hseq
    simp only [dispatch] at h
    split_ifs at h
    obtain rfl := Option.some.inj h
    exact ⟨⟨sid, rfl⟩, fun c hc => (Option.some.inj hc).symm⟩
  | sessionReject sid seq' reason =>
    obtain rfl := Option.some.inj hseq
    simp only [dispatch] at h
    split_ifs at h
    obtain rfl := Option.some.inj h
    exact ⟨⟨sid, rfl⟩, fun c hc => (Option.some.inj hc).symm⟩
  | sessionEnd sid seq' reason =>
    obtain rfl := Option.some.inj hseq
    obtain rfl := Option.some.inj h
    exact ⟨⟨sid, rfl⟩, fun c hc => (Option.some.inj hc).symm⟩
  | sessionIncoming sid seq' viewerInfo mode prefilter => cases h
  | hello role version auth => cases h
  | helloOk time flags => cases h
  | error code text => cases h
  | sessionOffer sid seq' sdp sig => exact hrelay sid (Option.some.inj hseq ▸ rfl) h
  | sessionAnswer sid seq' sdp => exact hrelay sid (Option.some.inj hseq ▸ rfl) h
  | iceCandidate sid seq' candidate => exact hrelay sid (Option.some.inj hseq ▸ rfl) h
  | mediaRestart sid seq' => exact hrelay sid (Option.some.inj hseq ▸ rfl) h
  | renegotiate sid seq' => exact hrelay sid (Option.some.inj hseq ▸ rfl) h
  | authChallenge sid seq' payload => exact hrelay sid (Option.some.inj hseq ▸ rfl) h
  | authResponse sid seq' payload => exact hrelay sid (Option.some.inj hseq ▸ rfl) h
  | stats sid seq' payload => exact hrelay sid (Option.some.inj hseq ▸ rfl) h

/-- **The next number of a session** that is stored after a call continues after the number that
the call made it accept, or is the one it had before. -/
theorem perform_next {k : String} {t : Session}
    (h : (e.perform ttls g).2.sessions.lookup k = some t) :
    (∃ q, e.accepts ttls g = some (k, q) ∧ t.nextSignalSeq = saturatingSucc q ∧
      (e.sender = none ∨ ∃ t₀, g.sessions.lookup k = some t₀ ∧ ¬q < t₀.nextSignalSeq)) ∨
    (∀ q, e.accepts ttls g ≠ some (k, q)) ∧ ∃ t₀, g.sessions.lookup k = some t₀ ∧
      t.nextSignalSeq = t₀.nextSignalSeq := by
  -- the call accepts nothing and leaves the session as it was
  have hkeep : e.accepts ttls g = none → g.sessions.lookup k = some t →
      (∀ q, e.accepts ttls g ≠ some (k, q)) ∧ ∃ t₀, g.sessions.lookup k = some t₀ ∧
        t.nextSignalSeq = t₀.nextSignalSeq := by
    intro hnone hs
    refine ⟨fun q hq => ?_, t, hs, rfl⟩
    rw [hnone] at hq
    cases hq
  have hreaped : ∀ {now : Time}, e.accepts ttls g = none →
      (g.reapExpired now).2.sessions.lookup k = some t →
      (∀ q, e.accepts ttls g ≠ some (k, q)) ∧ ∃ t₀, g.sessions.lookup k = some t₀ ∧
        t.nextSignalSeq = t₀.nextSignalSeq :=
    fun hnone hs => hkeep hnone (lookup_of_reap hs).1
  -- the call makes the session `sid` accept `q`, and leaves the others as they were
  have haccepted : ∀ {now : Time} {sid : String} {q : UInt64} {s s' : Session},
      e.accepts ttls g = some (sid, q) → (g.reapExpired now).2.sessions.lookup sid = some s →
      ¬q < s.nextSignalSeq → s'.nextSignalSeq = saturatingSucc q →
      ((g.reapExpired now).2.sessions.insert sid s').lookup k = some t →
      (∃ q, e.accepts ttls g = some (k, q) ∧ t.nextSignalSeq = saturatingSucc q ∧
        (e.sender = none ∨ ∃ t₀, g.sessions.lookup k = some t₀ ∧ ¬q < t₀.nextSignalSeq)) ∨
      (∀ q, e.accepts ttls g ≠ some (k, q)) ∧ ∃ t₀, g.sessions.lookup k = some t₀ ∧
        t.nextSignalSeq = t₀.nextSignalSeq := by
    intro now sid q s s' hacc hs hq hnext hk
    rw [HashMap.lookup_insert_if] at hk
    split_ifs at hk with hsid
    · obtain rfl := Option.some.inj hk
      subst hsid
      exact .inl ⟨q, hacc, hnext, .inr ⟨s, (lookup_of_reap hs).1, hq⟩⟩
    · refine .inr ⟨fun q' hq' => ?_, t, (lookup_of_reap hk).1, rfl⟩
      rw [hacc] at hq'
      exact hsid (congrArg Prod.fst (Option.some.inj hq')).symm
  cases e with
  | registerConn => exact .inr (hkeep rfl h)
  | dropReceiver conn => exact .inr (hkeep rfl h)
  | sendTo conn msg =>
    exact .inr (hkeep rfl (by simpa [perform, RegistryInner.sendTo] using h))
  | bindPeer conn identity =>
    obtain ⟨x, old, publicId, hx, hmove⟩ := lookup_of_bindPeer h
    refine .inr ⟨fun q hq => ?_, x, hx, ?_⟩
    · cases hq
    · rcases hmove with rfl | rfl
      · rfl
      · rfl
  | unregisterConn conn =>
    simp only [perform, RegistryInner.unregisterConn, sessions_closeAll] at h
    split_ifs at h
    exact .inr (hkeep rfl h)
  | reapExpired now => exact .inr (hreaped rfl h)
  | rejectSession conn sid seq reason now => exact .inr (hreaped rfl (lookup_of_reject h))
  | endSession conn sid seq reason now => exact .inr (hreaped rfl (lookup_of_end h))
  | forceDisconnect sid reason now => exact .inr (hreaped rfl (lookup_of_forceDisconnect h))
  | createPendingSession req now =>
    simp only [perform] at h
    rcases g.create_cases now ttls.pending req with ⟨e, -, heq⟩ |
      ⟨hostConn, incoming, next, -, -, -, hincoming, hnext, heq⟩
    · rw [heq] at h
      exact .inr (hreaped (by simp only [accepts, heq]) h)
    · rcases (g.reapExpired now).2.insertPending_cases req
        (pendingSession ttls.pending req hostConn next now) incoming with ⟨-, hins⟩ | ⟨-, hins⟩
      · have hacc : (createPendingSession req now).accepts ttls g =
            some (req.sessionId, incoming) := by
          simp only [accepts, heq, hins, hincoming, Option.map_some]
        rw [heq, hins] at h
        dsimp only at h
        rw [HashMap.lookup_insert_if] at h
        split_ifs at h with hsid
        · obtain rfl := Option.some.inj h
          subst hsid
          refine .inl ⟨incoming, hacc, ?_, .inl rfl⟩
          show next = saturatingSucc incoming
          rw [saturatingSucc, hnext, Option.getD_some]
        · refine .inr ⟨fun q hq => ?_, t, (lookup_of_reap h).1, rfl⟩
          rw [hacc] at hq
          exact hsid (congrArg Prod.fst (Option.some.inj hq)).symm
      · rw [heq, hins] at h
        dsimp only at h
        rw [HashMap.lookup_erase_if, HashMap.lookup_insert_if] at h
        split_ifs at h
        exact .inr (hreaped (by simp only [accepts, heq, hins]) h)
  | acceptSession conn sid seq now =>
    simp only [perform, RegistryInner.acceptSession] at h
    rcases hp : (g.reapExpired now).2.hostPending conn sid seq with e | s
    · simp only [hp] at h
      exact .inr (hreaped (by simp only [accepts, admits, hp]) h)
    · obtain ⟨hs, -, -, hseq⟩ := hostPending_ok hp
      simp only [hp, push_sessions] at h
      exact haccepted (by simp only [accepts, admits, hp]) hs hseq rfl h
  | relayMediaSignal conn msg now =>
    simp only [perform] at h
    rcases g.relay_cases now conn msg with ⟨hkey, code, text, heq⟩ | ⟨sid, seq, hkey, hcases⟩
    · rw [heq] at h
      exact .inr (hkeep (by simp only [accepts, admits, hkey, Option.filter_none]) h)
    by_cases hpass : relayPasses (g.reapExpired now).2 conn msg (sid, seq) = true
    · have hacc : (relayMediaSignal conn msg now).accepts ttls g = some (sid, seq) := by
        simp only [accepts, admits, hkey, Option.filter_some, hpass, if_true]
      obtain ⟨s, hs, hparty, hactive, hseq, hrole⟩ := relayPasses_iff.mp hpass
      rw [relay_checked hkey hs hparty hactive hseq hrole] at h
      have hsessions : ((g.reapExpired now).2.forward conn sid seq s msg).2.sessions =
          (g.reapExpired now).2.sessions.insert sid (s.relayed seq) := by
        rcases (g.reapExpired now).2.forward_cases conn sid seq s msg with
          ⟨-, hfwd⟩ | ⟨-, text, hfwd⟩
        · rw [hfwd]
        · rw [hfwd]
      rw [hsessions] at h
      exact haccepted hacc hs hseq rfl h
    · have hacc : (relayMediaSignal conn msg now).accepts ttls g = none := by
        simp only [accepts, admits, hkey, Option.filter_some, hpass, Bool.false_eq_true, if_false]
      rcases hcases with ⟨code, text, heq⟩ | ⟨s, -, -, -, -, -, heq⟩ |
        ⟨s, hs, hparty, hactive, hseq, hrole, -⟩
      · rw [heq] at h
        exact .inr (hreaped hacc h)
      · rw [heq] at h
        exact .inr (hreaped hacc h)
      · exact absurd (relayPasses_iff.mpr ⟨s, hs, hparty, hactive, hseq, hrole⟩) hpass

end RegistryEvent

/-! ## Runs -/

/-- A number that was sequenced for a message of `conn`. -/
def Wire.Owns (w : Wire) (conn : ConnId) (q : UInt64) : Prop :=
  ∃ sid, (some conn, q) ∈ w.sequenced sid

/-- Every client is ahead of its numbers, and every session expects the number that continues
after the largest one sequenced for it. -/
structure Wire.Numbered (w : Wire) : Prop where
  ahead : ∀ conn, (w.ends conn).Ahead (w.inbox conn) (w.Owns conn)
  next : ∀ sid s, w.world.inner.sessions.lookup sid = some s →
    (∃ x ∈ w.sequenced sid, s.nextSignalSeq = saturatingSucc x.2) ∧
      ∀ x ∈ w.sequenced sid, Follows x.2 s.nextSignalSeq

namespace Wire

variable {ttls : Ttls} {w w' : Wire}

/-- What a call adds to a channel comes at its end. -/
theorem inbox_perform {e : RegistryEvent} {world : RegistryWorld}
    (hworld : (registrySystem ttls).step w.world e = some world) (conn : ConnId) :
    ∃ new, ((world.inner.sent.filter fun x => x.1 = conn).map Prod.snd) = w.inbox conn ++ new := by
  simp only [registrySystem] at hworld
  split_ifs at hworld
  obtain rfl := Option.some.inj hworld
  obtain ⟨new, hsent, -⟩ : RegistryInner.Sends _ w.world.inner (e.perform ttls w.world.inner).2 :=
    RegistryEvent.perform_sends e
  refine ⟨(new.filter fun x => x.1 = conn).map Prod.snd, ?_⟩
  rw [hsent, List.filter_append, List.map_append]
  rfl

/-- A sequenced number was sequenced before, or is the one the call accepts. -/
theorem mem_sequences {g : RegistryInner} {log : String → List (Option ConnId × UInt64)}
    {e : RegistryEvent} {sid : String} {x : Option ConnId × UInt64}
    (h : x ∈ e.sequences ttls g log sid) :
    x ∈ log sid ∨ e.accepts ttls g = some (sid, x.2) ∧ e.sender = x.1 := by
  unfold RegistryEvent.sequences at h
  rcases hacc : e.accepts ttls g with _ | ⟨sid', q⟩
  · rw [hacc] at h
    exact .inl h
  · rcases hsend : e.sender with _ | conn
    · rw [hacc, hsend] at h
      dsimp only at h
      by_cases hsid : sid = sid'
      · subst hsid
        rw [Function.update_self] at h
        obtain rfl := List.mem_singleton.mp h
        exact .inr ⟨rfl, rfl⟩
      · rw [Function.update_of_ne hsid] at h
        exact .inl h
    · rw [hacc, hsend] at h
      dsimp only at h
      by_cases hsid : sid = sid'
      · subst hsid
        rw [Function.update_self] at h
        rcases List.mem_append.mp h with h | h
        · exact .inl h
        · obtain rfl := List.mem_singleton.mp h
          exact .inr ⟨rfl, rfl⟩
      · rw [Function.update_of_ne hsid] at h
        exact .inl h

/-- The number that a call accepts for a session is the last one sequenced for it, after those
before unless the session is new. -/
theorem sequences_accepted {g : RegistryInner} {e : RegistryEvent} {sid : String} {q : UInt64}
    (h : e.accepts ttls g = some (sid, q)) (log : String → List (Option ConnId × UInt64)) :
    (e.sender, q) ∈ e.sequences ttls g log sid ∧
      (e.sender = none → ∀ x ∈ e.sequences ttls g log sid, x.2 = q) := by
  unfold RegistryEvent.sequences
  rw [h]
  rcases e.sender with _ | conn
  · simp
  · simp

/-- Without an accepted number for it, the numbers of a session stay. -/
theorem sequences_other {g : RegistryInner} {log : String → List (Option ConnId × UInt64)}
    {e : RegistryEvent} {sid : String} (h : ∀ q, e.accepts ttls g ≠ some (sid, q)) :
    e.sequences ttls g log sid = log sid := by
  unfold RegistryEvent.sequences
  rcases hacc : e.accepts ttls g with _ | ⟨sid', q⟩
  · rfl
  · have hsid : sid ≠ sid' := by
      rintro rfl
      exact h q hacc
    rcases e.sender with _ | conn
    · exact Function.update_of_ne hsid _ _
    · exact Function.update_of_ne hsid _ _

/-- **A call keeps the numbers of the sessions.** -/
theorem next_call {e : RegistryEvent} (h : w.Numbered) (hcall : w.call ttls e = some w')
    {sid : String} {s : Session} (hs : w'.world.inner.sessions.lookup sid = some s) :
    (∃ x ∈ w'.sequenced sid, s.nextSignalSeq = saturatingSucc x.2) ∧
      ∀ x ∈ w'.sequenced sid, Follows x.2 s.nextSignalSeq := by
  obtain ⟨world, hworld, rfl⟩ := Option.map_eq_some_iff.mp hcall
  simp only [registrySystem] at hworld
  split_ifs at hworld
  obtain rfl := Option.some.inj hworld
  rcases RegistryEvent.perform_next hs with ⟨q, hacc, hnext, hold⟩ | ⟨hacc, t₀, ht₀, hnext⟩
  · obtain ⟨hmem, hnew⟩ := sequences_accepted hacc w.sequenced
    refine ⟨⟨_, hmem, hnext⟩, fun x hx => ?_⟩
    rw [hnext]
    rcases hold with hnone | ⟨t₀, ht₀, hge⟩
    · rw [hnew hnone x hx]
      exact UInt64.le_refl _
    · rcases mem_sequences hx with hx | ⟨hacc', -⟩
      · exact (((h.next sid t₀ ht₀).2 x hx).trans_le (UInt64.not_lt.mp hge)).step
      · obtain ⟨-, rfl⟩ := Prod.mk.inj (Option.some.inj (hacc.symm.trans hacc'))
        exact UInt64.le_refl _
  · show (∃ x ∈ e.sequences ttls w.world.inner w.sequenced sid, _) ∧
      ∀ x ∈ e.sequences ttls w.world.inner w.sequenced sid, _
    rw [sequences_other hacc, hnext]
    exact h.next sid t₀ ht₀

/-- **A call keeps the clients ahead** of what it puts on their channels and sequences, if they
are ahead of the number it accepts. -/
theorem ahead_call {e : RegistryEvent} {own : ConnId → UInt64 → Prop}
    (h : ∀ c, (w.ends c).Ahead (w.inbox c) (own c)) (hown : ∀ c q, w.Owns c q → own c q)
    (hnew : ∀ c sid q, e.sender = some c → e.accepts ttls w.world.inner = some (sid, q) → own c q)
    (hcall : w.call ttls e = some w') (conn : ConnId) :
    (w'.ends conn).Ahead (w'.inbox conn) (w'.Owns conn) := by
  obtain ⟨world, hworld, rfl⟩ := Option.map_eq_some_iff.mp hcall
  obtain ⟨new, hinbox⟩ := inbox_perform hworld conn
  show (w.ends conn).Ahead ((world.inner.sent.filter fun x => x.1 = conn).map Prod.snd) _
  rw [hinbox]
  refine ((h conn).deliver new).mono fun q hq => ?_
  obtain ⟨sid, hmem⟩ := hq
  rcases mem_sequences hmem with hmem | ⟨hacc, hsend⟩
  · exact hown conn q ⟨sid, hmem⟩
  · exact hnew conn sid q hsend hacc

/-- A call that no numbered message asks for. -/
theorem numbered_server {e : RegistryEvent} (h : w.Numbered) (hcarries : e.carries = none)
    (hcall : w.call ttls e = some w') : w'.Numbered := by
  refine ⟨ahead_call h.ahead (fun _ _ hq => hq) (fun c sid q hsend hacc => ?_) hcall,
    fun sid s hs => next_call h hcall hs⟩
  rcases RegistryEvent.accepts_carries hacc with hkey | ⟨hnone, -⟩
  · rw [hcarries] at hkey
    cases hkey
  · rw [hsend] at hnone
    cases hnone

/-- A client sends or receives. -/
theorem numbered_client {conn : ConnId} {p : Endpoint} (h : w.Numbered)
    (hp : p.Ahead (w.inbox conn) (w.Owns conn)) :
    Numbered { w with ends := Function.update w.ends conn p } := by
  refine ⟨fun c => ?_, h.next⟩
  show (Function.update w.ends conn p c).Ahead (w.inbox c) (w.Owns c)
  by_cases hc : c = conn
  · subst hc
    rwa [Function.update_self]
  · rw [Function.update_of_ne hc]
    exact h.ahead c

/-- **The server handles a message**: its number may become one of its client's sequenced ones. -/
theorem numbered_handle {conn : ConnId} {x : Posted} {rest : List Posted} {role : Role}
    {verdict : Option (Device × Value)} {now : Time} (h : w.Numbered)
    (hout : (w.ends conn).outbox = x :: rest) {e : RegistryEvent}
    (hdisp : dispatch role conn x.msg verdict now = some e)
    (hcall : call ttls { w with
      ends := Function.update w.ends conn { w.ends conn with outbox := rest } } e = some w') :
    w'.Numbered := by
  obtain ⟨⟨sid₀, hcarries⟩, hfrom⟩ := RegistryEvent.dispatch_carries hdisp x.numbered
  have hpop : ∀ c, (Function.update w.ends conn { w.ends conn with outbox := rest } c).Ahead
      (w.inbox c) fun q => w.Owns c q ∨ c = conn ∧ q = x.seq := by
    intro c
    by_cases hc : c = conn
    · subst hc
      rw [Function.update_self]
      refine ((h.ahead c).handle hout).mono fun q hq => ?_
      exact hq.imp_right And.right
    · rw [Function.update_of_ne hc]
      exact (h.ahead c).mono fun q hq => hq.elim id fun hq => absurd hq.1 hc
  have hnum : Numbered { w with
      ends := Function.update w.ends conn { w.ends conn with outbox := rest } } :=
    ⟨fun c => (hpop c).mono fun q hq => .inl hq, h.next⟩
  refine ⟨ahead_call hpop (fun c q hq => .inl hq) (fun c sid q hsend hacc => .inr ?_) hcall,
    fun sid s hs => next_call hnum hcall hs⟩
  refine ⟨hfrom c hsend, ?_⟩
  rcases RegistryEvent.accepts_carries hacc with hkey | ⟨hnone, -⟩
  · exact (Prod.mk.inj (Option.some.inj (hkey.symm.trans hcarries))).2
  · rw [hsend] at hnone
    cases hnone

/-- **Every step keeps the numbers.** -/
theorem numbered_step {e : WireEvent} (h : w.Numbered) (hstep : wireStep ttls w e = some w') :
    w'.Numbered := by
  cases e with
  | server e =>
    simp only [wireStep] at hstep
    split_ifs at hstep with hcarries
    exact numbered_server h hcarries hstep
  | post conn msg =>
    obtain ⟨p, hp, rfl⟩ := Option.map_eq_some_iff.mp hstep
    exact numbered_client h ((h.ahead conn).post hp)
  | receive conn =>
    obtain ⟨p, hp, rfl⟩ := Option.map_eq_some_iff.mp hstep
    exact numbered_client h ((h.ahead conn).receive hp)
  | handle conn verdict now =>
    simp only [wireStep] at hstep
    rcases hout : (w.ends conn).outbox with _ | ⟨x, rest⟩
    · simp only [hout] at hstep
      cases hstep
    · rcases hrole : w.world.role? conn with _ | role
      · simp only [hout, hrole] at hstep
        cases hstep
      · simp only [hout, hrole] at hstep
        rcases hdisp : dispatch role conn x.msg verdict now with _ | e
        · simp only [hdisp] at hstep
          obtain rfl := Option.some.inj hstep
          refine numbered_client h (((h.ahead conn).handle hout).mono fun q hq => ?_)
          exact .inl hq
        · simp only [hdisp] at hstep
          exact numbered_handle h hout hdisp hstep

end Wire

/-- A step of clients and server is a step of the registry, or leaves it alone. -/
theorem wireStep_world {ttls : Ttls} {w w' : Wire} {e : WireEvent}
    (h : wireStep ttls w e = some w') :
    w'.world = w.world ∨ ∃ call, (registrySystem ttls).step w.world call = some w'.world := by
  have hcall : ∀ {w₁ : Wire} {call : RegistryEvent}, w₁.call ttls call = some w' →
      w₁.world = w.world → ∃ call, (registrySystem ttls).step w.world call = some w'.world := by
    intro w₁ call hc hw₁
    obtain ⟨world, hworld, rfl⟩ := Option.map_eq_some_iff.mp hc
    exact ⟨call, hw₁ ▸ hworld⟩
  cases e with
  | server e =>
    simp only [wireStep] at h
    split_ifs at h
    exact .inr (hcall h rfl)
  | post conn msg =>
    obtain ⟨p, -, rfl⟩ := Option.map_eq_some_iff.mp h
    exact .inl rfl
  | receive conn =>
    obtain ⟨p, -, rfl⟩ := Option.map_eq_some_iff.mp h
    exact .inl rfl
  | handle conn verdict now =>
    simp only [wireStep] at h
    split at h
    · split at h
      · exact .inr (hcall h rfl)
      · obtain rfl := Option.some.inj h
        exact .inl rfl
    · cases h

/-- **Every reachable state is numbered**, and its registry is one of a run of the registry. -/
theorem wireSystem_numbered {ttls : Ttls} {w : Wire} (h : (wireSystem ttls).Reachable w) :
    (registrySystem ttls).Reachable w.world ∧ w.Numbered := by
  induction h with
  | init hw =>
    obtain rfl := hw
    refine ⟨.init rfl, fun conn => (Endpoint.Ahead.connect _).mono fun q hq => ?_, fun sid s hs => ?_⟩
    · obtain ⟨sid, hmem⟩ := hq
      cases hmem
    · cases hs
  | @step w w' e _ _ hstep ih =>
    refine ⟨?_, Wire.numbered_step ih.2 hstep⟩
    rcases wireStep_world hstep with heq | ⟨call, hcall⟩
    · rw [heq]
      exact ih.1
    · exact .step ih.1 trivial hcall

/-! ## Hanging up -/

/-- The next message of `conn` that the server handles is `x`, which ends the session `s` for
`reason`; `conn` is a party of the session, and the session has not expired at `now`. -/
structure Wire.Ending (w : Wire) (conn : ConnId) (x : Posted) (reason : String) (s : Session)
    (now : Time) : Prop where
  next : (w.ends conn).outbox.head? = some x
  ends : x.msg = .sessionEnd s.sessionId x.seq reason
  stored : w.world.inner.sessions.lookup s.sessionId = some s
  party : s.party conn
  live : now < s.expiresAt

/-- Somebody other than `conn` had a number sequenced for the session that is not below `seq`. -/
def Wire.Overtaken (w : Wire) (conn : ConnId) (sid : String) (seq : UInt64) : Prop :=
  ∃ x ∈ w.sequenced sid, x.1 ≠ some conn ∧ seq < saturatingSucc x.2

/-- The session is gone and its host is free. -/
def Wire.HungUp (w : Wire) (s : Session) : Prop :=
  w.world.inner.sessions.lookup s.sessionId = none ∧
    w.world.inner.hostBusy.lookup s.hostPublicId = none

/-- The connection of a party is bound. -/
theorem role_of_party {w : RegistryWorld} (hcoh : Coherent w.phase w.inner) {sid : String}
    {s : Session} (hs : w.inner.sessions.lookup sid = some s) {conn : ConnId}
    (hparty : s.party conn) : ∃ role, w.role? conn = some role := by
  unfold RegistryWorld.role?
  rcases hparty with rfl | rfl
  · rw [hcoh.hosts _ _ (hcoh.published sid s hs)]
    exact ⟨.host, rfl⟩
  · rw [hcoh.viewer sid s hs]
    exact ⟨.viewer, rfl⟩

namespace Wire

variable {ttls : Ttls} {w : Wire} {conn : ConnId} {x : Posted} {reason : String} {s : Session}
  {now : Time}

/-- A number is refused exactly when it was overtaken. -/
theorem stale_iff_overtaken (h : w.Numbered) (hend : w.Ending conn x reason s now) :
    x.seq < s.nextSignalSeq ↔ w.Overtaken conn s.sessionId x.seq := by
  have hx : x ∈ (w.ends conn).outbox := List.mem_of_mem_head? hend.next
  obtain ⟨⟨y, hy, hnext⟩, hall⟩ := h.next _ _ hend.stored
  constructor
  · intro hlt
    rw [hnext] at hlt
    refine ⟨y, hy, ?_, hlt⟩
    intro hown
    have hmine : w.Owns conn y.2 := ⟨s.sessionId, by rwa [← hown]⟩
    exact absurd hlt (UInt64.not_lt.mpr ((h.ahead conn).own_posted x hx y.2 hmine))
  · rintro ⟨z, hz, -, hlt⟩
    exact UInt64.lt_of_lt_of_le hlt (hall z hz)

/-- A client that received the numbers of the others, or later ones, before it took its own is not
overtaken. -/
theorem not_overtaken_of_heard (h : w.Numbered) (hend : w.Ending conn x reason s now)
    (hheard : ∀ y ∈ w.sequenced s.sessionId, y.1 ≠ some conn →
      ∃ q ∈ heard (w.inbox conn) x.seen, y.2 ≤ q) :
    ¬w.Overtaken conn s.sessionId x.seq := by
  rintro ⟨y, hy, hother, hlt⟩
  have hx : x ∈ (w.ends conn).outbox := List.mem_of_mem_head? hend.next
  obtain ⟨q, hq, hle⟩ := hheard y hy hother
  have hfollows : Follows y.2 x.seq := .of_le hle ((h.ahead conn).heard_posted x hx q hq)
  exact absurd hlt (UInt64.not_lt.mpr hfollows)

/-- Handling the end of a session is a call of `endSession`. -/
theorem handle_ending (hcoh : Coherent w.world.phase w.world.inner)
    (hend : w.Ending conn x reason s now) (verdict : Option (Device × Value)) :
    ∃ w', (wireSystem ttls).step w (.handle conn verdict now) = some w' ∧
      w'.world.inner =
        (w.world.inner.endSession conn s.sessionId x.seq reason now).2 := by
  obtain ⟨role, hrole⟩ := role_of_party hcoh hend.stored hend.party
  obtain ⟨rest, hout⟩ := List.head?_eq_some_iff.mp hend.next
  have hstep : (wireSystem ttls).step w (.handle conn verdict now) =
      call ttls { w with
        ends := Function.update w.ends conn { w.ends conn with outbox := rest } }
        (.endSession conn s.sessionId x.seq reason now) := by
    simp only [wireSystem, wireStep, hout, hrole, hend.ends, dispatch]
  rw [hstep]
  exact ⟨_, rfl, rfl⟩

end Wire

/-- **A party that hangs up closes its session unless it was overtaken.** In every run of clients
and server, when the server handles a `session_end` of a party of a live session:

* the session is closed and its host is free, unless a number of somebody else that is not below
  the number of the `session_end` was sequenced first;
* in that case the sender is answered `stale_signal_seq`, and the session and the lock stay;
* it is not the case if the sender, when it took the number, had received every number that is
  sequenced for somebody else by the time its message is handled, or a larger one.

**Proof sketch.** The session expects the number after the largest one sequenced for it. A client's
numbers continue after its own sequenced ones and after those it received (`Endpoint.Ahead`), so
only a number of somebody else that it had not received makes the session expect more. -/
theorem session_end_closes {ttls : Ttls} {w : Wire} (h : (wireSystem ttls).Reachable w)
    {conn : ConnId} {x : Posted} {reason : String} {s : Session} {now : Time}
    (hend : w.Ending conn x reason s now) (verdict : Option (Device × Value)) :
    (∃ w', (wireSystem ttls).step w (.handle conn verdict now) = some w' ∧
      (¬w.Overtaken conn s.sessionId x.seq → w'.HungUp s) ∧
      (w.Overtaken conn s.sessionId x.seq →
        (w.world.inner.endSession conn s.sessionId x.seq reason now).1 =
          .error (RegistryInner.staleSignalSeq x.seq s.nextSignalSeq) ∧
        w'.world.inner.sessions.lookup s.sessionId = some s ∧
        w'.world.inner.hostBusy.lookup s.hostPublicId = some s.sessionId)) ∧
    ((∀ y ∈ w.sequenced s.sessionId, y.1 ≠ some conn →
        ∃ q ∈ heard (w.inbox conn) x.seen, y.2 ≤ q) →
      ¬w.Overtaken conn s.sessionId x.seq) := by
  obtain ⟨hreach, hnum⟩ := wireSystem_numbered h
  have hcoh := registry_coherent hreach
  obtain ⟨w', hstep, hinner⟩ : ∃ w', (wireSystem ttls).step w (.handle conn verdict now) = some w' ∧
      w'.world.inner = (w.world.inner.endSession conn s.sessionId x.seq reason now).2 :=
    Wire.handle_ending hcoh hend verdict
  have hreaped : (w.world.inner.reapExpired now).2.sessions.lookup s.sessionId = some s := by
    rw [RegistryInner.sessions_reap, if_neg, hend.stored]
    intro hexp
    obtain ⟨s', hs', -, hle⟩ := RegistryInner.mem_expired.mp hexp
    obtain rfl := Option.some.inj (hend.stored.symm.trans hs')
    exact absurd hend.live (Int.not_lt.mpr hle)
  have hin : ¬(s.hostConn ≠ conn ∧ s.viewerConn ≠ conn) :=
    fun hne => hend.party.elim hne.1 hne.2
  have hopen := hcoh.live _ _ hend.stored
  refine ⟨⟨w', hstep, fun hfresh => ?_, fun hover => ?_⟩, Wire.not_overtaken_of_heard hnum hend⟩
  · have hseq : ¬x.seq < s.nextSignalSeq :=
      fun hlt => hfresh ((Wire.stale_iff_overtaken hnum hend).mp hlt)
    unfold Wire.HungUp
    rw [hinner]
    unfold RegistryInner.endSession
    simp only [hreaped, if_neg hin, if_neg hopen, if_neg hseq, RegistryInner.push_sessions,
      RegistryInner.push_hostBusy, AList.lookup_erase, and_self]
  · have hseq := (Wire.stale_iff_overtaken hnum hend).mpr hover
    have heq : w.world.inner.endSession conn s.sessionId x.seq reason now =
        (.error (RegistryInner.staleSignalSeq x.seq s.nextSignalSeq),
          (w.world.inner.reapExpired now).2) := by
      unfold RegistryInner.endSession
      simp only [hreaped, if_neg hin, if_neg hopen, if_pos hseq]
    rw [hinner, heq]
    exact ⟨rfl, hreaped, (hcoh.reap now).busy_of_lookup hreaped⟩

/-- A host and an anonymous viewer connect, the viewer asks for a session, the host accepts it, and
the viewer receives the accept. -/
def answeredRun : List WireEvent :=
  [.server .registerConn, .server (.bindPeer 1 ⟨.host, some "host-1", some 7, false⟩),
    .server .registerConn, .server (.bindPeer 2 ⟨.viewer, none, none, true⟩),
    .post 2 (.sessionIntent "sess-1" 1 "host-1" .otp .null),
    .handle 2 (some (⟨7, "host-1", .active⟩, .null)) 0,
    .receive 1, .post 1 (.sessionAccept "sess-1" 3), .handle 1 none second, .receive 2]

/-- The session of `answeredRun`, when it expects the number `next`. -/
def answeredSession (next : UInt64) : Session where
  sessionId := "sess-1"
  hostPublicId := "host-1"
  hostDeviceId := 7
  hostConn := 1
  viewerConn := 2
  mode := .otp
  state := .active
  nextSignalSeq := next
  createdAt := 0
  expiresAt := second + activeSessionTtl

/-- The viewer's `session_end` after `answeredRun`. -/
def hangUp : Posted := ⟨.sessionEnd "sess-1" 4 "user_end", 4, rfl, 1⟩

/-- After `answeredRun` the viewer hangs up, and the session closes. -/
theorem session_end_closes_answeredRun : ∃ w w',
    (wireSystem .default).runFrom ⟨⟨.empty, ∅⟩, fun _ => .connect, fun _ => []⟩
      (answeredRun ++ [.post 2 (.sessionEnd "sess-1" 4 "user_end")]) = some w ∧
    w.Ending 2 hangUp "user_end" (answeredSession 4) (2 * second) ∧
    (wireSystem .default).step w (.handle 2 none (2 * second)) = some w' ∧
    w'.HungUp (answeredSession 4) := by
  obtain ⟨w, hrun, hend, hheard⟩ : ∃ w,
      (wireSystem .default).runFrom ⟨⟨.empty, ∅⟩, fun _ => .connect, fun _ => []⟩
        (answeredRun ++ [.post 2 (.sessionEnd "sess-1" 4 "user_end")]) = some w ∧
      w.Ending 2 hangUp "user_end" (answeredSession 4) (2 * second) ∧
      ∀ y ∈ w.sequenced "sess-1", y.1 ≠ some 2 → ∃ q ∈ heard (w.inbox 2) 1, y.2 ≤ q := by
    refine ⟨_, rfl, ⟨rfl, rfl, rfl, .inr rfl, by decide⟩, ?_⟩
    decide
  obtain ⟨⟨w', hstep, hfresh, -⟩, hclear⟩ :=
    session_end_closes (System.reachable_of_runFrom (.init rfl) hrun) hend none
  exact ⟨w, w', hrun, hend, hstep, hfresh (hclear hheard)⟩

/-- **A party that was overtaken does not hang up**: while the viewer's `session_end` is in flight
the host's media restart, which took the same number, is relayed first. -/
theorem session_end_overtaken :
    ¬∀ w, (wireSystem .default).Reachable w → ∀ conn x reason s now,
      w.Ending conn x reason s now → ∀ verdict w',
        (wireSystem .default).step w (.handle conn verdict now) = some w' → w'.HungUp s := by
  intro hclaim
  obtain ⟨w, w', hrun, hend, hstep, hkept⟩ : ∃ w w',
      (wireSystem .default).runFrom ⟨⟨.empty, ∅⟩, fun _ => .connect, fun _ => []⟩
        (answeredRun ++ [.post 1 (.mediaRestart "sess-1" 4),
          .post 2 (.sessionEnd "sess-1" 4 "user_end"), .handle 1 none second]) = some w ∧
      w.Ending 2 hangUp "user_end" (answeredSession 5) (2 * second) ∧
      (wireSystem .default).step w (.handle 2 none (2 * second)) = some w' ∧
      w'.world.inner.sessions.lookup "sess-1" = some (answeredSession 5) := by
    refine ⟨_, _, rfl, ⟨rfl, rfl, rfl, .inr rfl, by decide⟩, rfl, rfl⟩
  have hgone := (hclaim w (System.reachable_of_runFrom (.init rfl) hrun) 2 hangUp "user_end"
    (answeredSession 5) (2 * second) hend none w' hstep).1
  rw [show (answeredSession 5).sessionId = "sess-1" from rfl, hkept] at hgone
  cases hgone

end RemoteLink.Server
