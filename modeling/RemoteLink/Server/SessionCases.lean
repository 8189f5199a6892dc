import RemoteLink.Server.Session

set_option autoImplicit false

/-!
# What a session operation can do

One lemma for each operation of the registry that says everything the operation can do: either it
refuses and leaves the reaped registry, or its checks hold and its writes are these. Later proofs
split along these cases and do not open the operations again.

## Main definitions

* `RegistryInner.reaches` — whether a message put on a connection's channel is taken.
* `Session.party`, `Session.otherParty` — the two connections of a session.

## Main results

* `RegistryInner.create_cases`, `RegistryInner.accept_cases`, `RegistryInner.reject_cases`,
  `RegistryInner.end_cases`, `RegistryInner.force_cases`, `RegistryInner.relay_cases` — the cases
  of each operation.
-/

namespace RemoteLink.Server

open RemoteLink.Library RemoteLink.Protocol

/-- Whether a connection is a party of the session. -/
def Session.party (s : Session) (conn : ConnId) : Prop := s.hostConn = conn ∨ s.viewerConn = conn

/-- The connection at the other end of the session from `conn`. -/
def Session.otherParty (s : Session) (conn : ConnId) : ConnId :=
  if s.hostConn = conn then s.viewerConn else s.hostConn

/-- The session after the signal `seq` of one of its parties was relayed. -/
def Session.relayed (s : Session) (seq : UInt64) : Session :=
  { s with nextSignalSeq := saturatingSucc seq }

/-- The session after its host accepted it with `seq`. -/
def Session.accepted (s : Session) (activeTtl : Int) (seq : UInt64) (now : Time) : Session :=
  { s with state := .active, expiresAt := now + activeTtl, nextSignalSeq := saturatingSucc seq }

/-- The other party of a session is a party of it. -/
theorem Session.otherParty_party (s : Session) (conn : ConnId) : s.party (s.otherParty conn) := by
  unfold party otherParty
  split_ifs
  · exact .inr rfl
  · exact .inl rfl

namespace RegistryInner

/-! ## Channels -/

/-- Whether a message put on the channel of `conn` is taken. -/
def reaches (g : RegistryInner) (conn : ConnId) : Bool :=
  (g.conns.lookup conn).any fun tx => tx.rxOpen

/-- A message is put on a channel when the connection takes it, and lost otherwise. -/
theorem push_sent (g : RegistryInner) (conn : ConnId) (msg : SignalMessage) :
    (g.push conn msg).sent = g.sent ++ if g.reaches conn then [(conn, msg)] else [] := by
  unfold push trySend reaches
  rcases g.conns.lookup conn with _ | tx
  · simp
  · rcases h : tx.rxOpen <;> simp [h]

/-! ## The cases -/

/-- The host's checks refuse with an error message. -/
theorem hostPending_error {g : RegistryInner} {conn : ConnId} {sid : String} {seq : UInt64}
    {e : SignalMessage} (h : g.hostPending conn sid seq = .error e) :
    ∃ code text, e = .error code text := by
  unfold hostPending at h
  rcases hs : g.sessions.lookup sid with _ | s
  · simp only [hs] at h
    exact ⟨_, _, (Except.error.inj h).symm⟩
  · simp only [hs] at h
    split_ifs at h
    · exact ⟨_, _, (Except.error.inj h).symm⟩
    · exact ⟨_, _, (Except.error.inj h).symm⟩
    · exact ⟨_, _, (Except.error.inj h).symm⟩

/-- The role gate refuses with an error message. -/
theorem relayRoleError_some {msg e : SignalMessage} {isHost : Bool}
    (h : relayRoleError msg isHost = some e) : ∃ code text, e = .error code text := by
  unfold relayRoleError at h
  split at h
  · split_ifs at h
    exact ⟨_, _, (Option.some.inj h).symm⟩
  · split_ifs at h
    exact ⟨_, _, (Option.some.inj h).symm⟩
  · cases h

section Cases

variable (g : RegistryInner) (now : Time)

/-- A create refuses, with `busy` if the host has a session; or the session id and the host are
free, the host is published and the sequence numbers do not overflow. -/
theorem create_cases (ttl : Int) (req : CreatePendingSession) :
    (∃ e, ((∃ code text, e = .error code text) ∨
        e = .sessionReject req.sessionId (saturatingSucc req.signalSeq) .busy) ∧
      g.createPendingSession ttl req now = (.error e, (g.reapExpired now).2)) ∨
    ∃ hostConn incomingSeq nextSeq,
      (g.reapExpired now).2.sessions.lookup req.sessionId = none ∧
      (g.reapExpired now).2.hostBusy.lookup req.hostPublicId = none ∧
      g.hostByPublicId.lookup req.hostPublicId = some hostConn ∧
      checkedSucc req.signalSeq = some incomingSeq ∧ checkedSucc incomingSeq = some nextSeq ∧
      g.createPendingSession ttl req now = (g.reapExpired now).2.insertPending req
        (pendingSession ttl req hostConn nextSeq now) incomingSeq := by
  unfold createPendingSession
  dsimp only
  split_ifs with hsid hbusy
  · exact .inl ⟨_, .inl ⟨_, _, rfl⟩, rfl⟩
  · exact .inl ⟨_, .inr rfl, rfl⟩
  · rcases hhost : (g.reapExpired now).2.hostByPublicId.lookup req.hostPublicId with _ | hostConn
    · exact .inl ⟨_, .inl ⟨_, _, rfl⟩, rfl⟩
    · rcases hseq : checkedSucc req.signalSeq with _ | incoming
      · exact .inl ⟨_, .inl ⟨_, _, rfl⟩, rfl⟩
      · dsimp only
        rcases hnext : checkedSucc incoming with _ | next
        · exact .inl ⟨_, .inl ⟨_, _, rfl⟩, rfl⟩
        · rw [reap_hostByPublicId] at hhost
          exact .inr ⟨hostConn, incoming, next, by simpa using hsid, by simpa using hbusy, hhost,
            rfl, hnext, rfl⟩

/-- A stored pending session is announced to its host, or taken back. -/
theorem insertPending_cases (req : CreatePendingSession) (s : Session) (seq : UInt64) :
    (g.reaches s.hostConn = true ∧ g.insertPending req s seq =
      (.ok (), { g with
        hostBusy := g.hostBusy.insert req.hostPublicId req.sessionId
        sessions := g.sessions.insert req.sessionId s
        sent := g.sent ++ [(s.hostConn, incomingMessage req seq)] })) ∨
    (g.reaches s.hostConn = false ∧ g.insertPending req s seq =
      (.error (.error "host_offline" "host disconnected before session_incoming"), { g with
        hostBusy := (g.hostBusy.insert req.hostPublicId req.sessionId).erase s.hostPublicId
        sessions := (g.sessions.insert req.sessionId s).erase req.sessionId })) := by
  unfold insertPending reaches trySend
  dsimp only
  rcases g.conns.lookup s.hostConn with _ | tx
  · exact .inr ⟨rfl, by simp⟩
  · rcases h : tx.rxOpen
    · exact .inr ⟨by simp [h], by simp [h]⟩
    · exact .inl ⟨by simp [h], by simp [h]⟩

/-- An accept refuses, or the session is pending, of this host and the number is not stale. -/
theorem accept_cases (ttl : Int) (conn : ConnId) (sid : String) (seq : UInt64) :
    (∃ code text, g.acceptSession ttl conn sid seq now =
      (.error (.error code text), (g.reapExpired now).2)) ∨
    ∃ s, (g.reapExpired now).2.sessions.lookup sid = some s ∧ s.hostConn = conn ∧
      s.state = .pending ∧ ¬seq < s.nextSignalSeq ∧
      g.acceptSession ttl conn sid seq now =
        (.ok (), { (g.reapExpired now).2 with
          sessions := (g.reapExpired now).2.sessions.insert sid
            (s.accepted ttl seq now) }.push s.viewerConn (.sessionAccept sid seq)) := by
  unfold acceptSession
  dsimp only
  rcases hp : (g.reapExpired now).2.hostPending conn sid seq with e | s
  · obtain ⟨code, text, rfl⟩ := hostPending_error hp
    exact .inl ⟨code, text, rfl⟩
  · obtain ⟨hs, hconn, hstate, hseq⟩ := hostPending_ok hp
    exact .inr ⟨s, hs, hconn, hstate, hseq, rfl⟩

/-- A reject refuses, or the session is pending, of this host and the number is not stale. -/
theorem reject_cases (conn : ConnId) (sid : String) (seq : UInt64) (reason : RejectReason) :
    (∃ code text, g.rejectSession conn sid seq reason now =
      (.error (.error code text), (g.reapExpired now).2)) ∨
    ∃ s, (g.reapExpired now).2.sessions.lookup sid = some s ∧ s.hostConn = conn ∧
      s.state = .pending ∧ ¬seq < s.nextSignalSeq ∧
      g.rejectSession conn sid seq reason now =
        (.ok (), { (g.reapExpired now).2 with
          hostBusy := (g.reapExpired now).2.hostBusy.erase s.hostPublicId
          sessions := (g.reapExpired now).2.sessions.erase sid }.push s.viewerConn
            (.sessionReject sid seq reason)) := by
  unfold rejectSession
  dsimp only
  rcases hp : (g.reapExpired now).2.hostPending conn sid seq with e | s
  · obtain ⟨code, text, rfl⟩ := hostPending_error hp
    exact .inl ⟨code, text, rfl⟩
  · obtain ⟨hs, hconn, hstate, hseq⟩ := hostPending_ok hp
    exact .inr ⟨s, hs, hconn, hstate, hseq, rfl⟩

/-- An end refuses, or finds the session closed, or is from a party and not stale. -/
theorem end_cases (conn : ConnId) (sid : String) (seq : UInt64) (reason : String) :
    (∃ code text, g.endSession conn sid seq reason now =
      (.error (.error code text), (g.reapExpired now).2)) ∨
    (∃ s, (g.reapExpired now).2.sessions.lookup sid = some s ∧ s.state = .closed ∧
      g.endSession conn sid seq reason now = (.ok (), (g.reapExpired now).2)) ∨
    ∃ s, (g.reapExpired now).2.sessions.lookup sid = some s ∧ s.party conn ∧
      s.state ≠ .closed ∧ ¬seq < s.nextSignalSeq ∧
      g.endSession conn sid seq reason now =
        (.ok (), { (g.reapExpired now).2 with
          hostBusy := (g.reapExpired now).2.hostBusy.erase s.hostPublicId
          sessions := (g.reapExpired now).2.sessions.erase sid }.push (s.otherParty conn)
            (.sessionEnd sid seq reason)) := by
  unfold endSession
  dsimp only
  rcases hs : (g.reapExpired now).2.sessions.lookup sid with _ | s
  · exact .inl ⟨_, _, rfl⟩
  · dsimp only
    by_cases hparty : s.hostConn ≠ conn ∧ s.viewerConn ≠ conn
    · exact .inl ⟨_, _, if_pos hparty⟩
    · rw [if_neg hparty]
      by_cases hclosed : s.state = .closed
      · exact .inr (.inl ⟨s, rfl, hclosed, if_pos hclosed⟩)
      · rw [if_neg hclosed]
        by_cases hseq : seq < s.nextSignalSeq
        · exact .inl ⟨_, _, if_pos hseq⟩
        · rw [if_neg hseq]
          refine .inr (.inr ⟨s, rfl, ?_, hclosed, hseq, rfl⟩)
          rcases not_and_or.mp hparty with h | h
          · exact .inl (not_not.mp h)
          · exact .inr (not_not.mp h)

/-- A forced disconnect finds nothing, or drops a closed record, or closes the session. -/
theorem force_cases (sid reason : String) :
    g.forceDisconnect sid reason now = (false, (g.reapExpired now).2) ∨
    (∃ s, (g.reapExpired now).2.sessions.lookup sid = some s ∧ s.state = .closed ∧
      g.forceDisconnect sid reason now = (false, { (g.reapExpired now).2 with
        sessions := (g.reapExpired now).2.sessions.erase sid })) ∨
    ∃ s, (g.reapExpired now).2.sessions.lookup sid = some s ∧ s.state ≠ .closed ∧
      g.forceDisconnect sid reason now =
        (true, (g.reapExpired now).2.closeSessionLocked sid reason) := by
  unfold forceDisconnect
  dsimp only
  rcases hs : (g.reapExpired now).2.sessions.lookup sid with _ | s
  · exact .inl rfl
  · dsimp only
    split_ifs with hclosed
    · exact .inr (.inl ⟨s, rfl, hclosed, rfl⟩)
    · exact .inr (.inr ⟨s, rfl, hclosed, rfl⟩)

/-- Forwarding advances the sequence number first; then the message is sent, or found to be
undeliverable. -/
theorem forward_cases (from_ : ConnId) (sid : String) (seq : UInt64) (s : Session)
    (msg : SignalMessage) :
    (g.reaches (s.otherParty from_) = true ∧ g.forward from_ sid seq s msg =
      (.ok (), { g with
        sessions := g.sessions.insert sid (s.relayed seq)
        sent := g.sent ++ [(s.otherParty from_, msg)] })) ∨
    (g.reaches (s.otherParty from_) = false ∧
      ∃ text, g.forward from_ sid seq s msg = (.error (.error "peer_offline" text),
        { g with sessions := g.sessions.insert sid (s.relayed seq) })) := by
  have hpeer : s.otherParty from_ = if s.hostConn = from_ then s.viewerConn else s.hostConn := rfl
  unfold forward reaches trySend
  rw [hpeer]
  generalize (if s.hostConn = from_ then s.viewerConn else s.hostConn) = peer
  dsimp only
  rcases g.conns.lookup peer with _ | tx
  · exact .inr ⟨rfl, _, rfl⟩
  · rcases h : tx.rxOpen
    · refine .inr ⟨by simp [h], "peer disconnected; could not relay media signal", ?_⟩
      simp [h, Session.relayed]
    · exact .inl ⟨by simp [h], by simp [h, Session.relayed]⟩

/-- A relay of another type of message refuses at once. Otherwise it refuses, or drops a stale
ICE candidate, or forwards a message of an active session from one of its parties. -/
theorem relay_cases (from_ : ConnId) (msg : SignalMessage) :
    (relayKey? msg = none ∧ ∃ code text,
      g.relayMediaSignal from_ msg now = (.error (.error code text), g)) ∨
    ∃ sid seq, relayKey? msg = some (sid, seq) ∧
      ((∃ code text, g.relayMediaSignal from_ msg now =
        (.error (.error code text), (g.reapExpired now).2)) ∨
      (∃ s, (g.reapExpired now).2.sessions.lookup sid = some s ∧ s.party from_ ∧
        s.state = .active ∧ seq < s.nextSignalSeq ∧ isIceCandidate msg = true ∧
        g.relayMediaSignal from_ msg now = (.ok (), (g.reapExpired now).2)) ∨
      ∃ s, (g.reapExpired now).2.sessions.lookup sid = some s ∧ s.party from_ ∧
        s.state = .active ∧ ¬seq < s.nextSignalSeq ∧
        relayRoleError msg (decide (s.hostConn = from_)) = none ∧
        g.relayMediaSignal from_ msg now =
          (g.reapExpired now).2.forward from_ sid seq s msg) := by
  unfold relayMediaSignal
  rcases hkey : relayKey? msg with _ | ⟨sid, seq⟩
  · exact .inl ⟨rfl, _, _, rfl⟩
  · refine .inr ⟨sid, seq, rfl, ?_⟩
    dsimp only
    rcases hs : (g.reapExpired now).2.sessions.lookup sid with _ | s
    · exact .inl ⟨_, _, rfl⟩
    · dsimp only
      by_cases hin : s.hostConn ≠ from_ ∧ s.viewerConn ≠ from_
      · exact .inl ⟨_, _, if_pos hin⟩
      rw [if_neg hin]
      have hparty : s.party from_ := by
        rcases not_and_or.mp hin with h | h
        · exact .inl (not_not.mp h)
        · exact .inr (not_not.mp h)
      by_cases hactive : s.state ≠ .active
      · exact .inl ⟨_, _, if_pos hactive⟩
      rw [if_neg hactive]
      by_cases hseq : seq < s.nextSignalSeq
      · rw [if_pos hseq]
        split_ifs with hice
        · exact .inr (.inl ⟨s, rfl, hparty, not_not.mp hactive, hseq, hice, rfl⟩)
        · exact .inl ⟨_, _, rfl⟩
      rw [if_neg hseq]
      rcases hrole : relayRoleError msg (decide (s.hostConn = from_)) with _ | e
      · exact .inr (.inr ⟨s, rfl, hparty, not_not.mp hactive, hseq, hrole, rfl⟩)
      · obtain ⟨code, text, rfl⟩ := relayRoleError_some hrole
        exact .inl ⟨code, text, rfl⟩

end Cases

/-- A relay that passes the checks forwards. -/
theorem relay_checked {g : RegistryInner} {now : Time} {from_ : ConnId} {msg : SignalMessage}
    {sid : String} {seq : UInt64} {s : Session} (hkey : relayKey? msg = some (sid, seq))
    (hs : (g.reapExpired now).2.sessions.lookup sid = some s) (hparty : s.party from_)
    (hactive : s.state = .active) (hseq : ¬seq < s.nextSignalSeq)
    (hrole : relayRoleError msg (decide (s.hostConn = from_)) = none) :
    g.relayMediaSignal from_ msg now = (g.reapExpired now).2.forward from_ sid seq s msg := by
  have hin : ¬(s.hostConn ≠ from_ ∧ s.viewerConn ≠ from_) := by
    rintro ⟨hhost, hviewer⟩
    exact hparty.elim hhost hviewer
  have hact : ¬s.state ≠ .active := fun h => h hactive
  unfold relayMediaSignal
  simp only [hkey, hs, if_neg hin, if_neg hact, if_neg hseq, hrole]

end RegistryInner

end RemoteLink.Server
