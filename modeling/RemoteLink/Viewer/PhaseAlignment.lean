import RemoteLink.Net.Mock
import RemoteLink.Viewer.Session

set_option autoImplicit false

/-!
# Phase, identity and transport of the viewer

The phase of the machine, the identity flag and the attached transport are changed by different
methods. A connect brings all three back to the start; attaching another transport replaces only
the transport, and closing the session keeps the identity flag.

## Main definitions

* `Aligned` — phase and identity flag agree with the attached transport.
* `Tracked` — the relation that every method but these two keeps.
* `KeepsAligned` — the condition on attaching and closing.

## Main results

* `Tracked.drain`, `Tracked.acceptOffer`, `Tracked.poll` — the methods that follow the transport.
* `not_aligned` — an attach or a close without the condition breaks the alignment at once.
* `phase_aligned` — the alignment in every run that keeps to the condition.
-/

namespace RemoteLink.Viewer

open Library Auth Net

variable {π μ α : Type}

/-- The machine is connected or streaming only while the attached transport has reported a connect
with no disconnect, failure or close after it, up to the reports that still wait in the buffer; and
the identity is bound only if a challenge was answered on the attached transport. -/
structure Aligned (s : ViewerSession π μ) : Prop where
  phase : s.machine.phase.linked = true → ∃ a processed, s.transport = some a ∧
    a.reported = processed ++ s.callbacks.states ∧ Up processed
  identity : s.identity.identityBound = true → ∃ a, s.transport = some a ∧ a.answered ≠ []

/-- The condition: another transport is attached only to a session that is neither linked nor bound,
and a bound session is not closed. -/
def KeepsAligned (s : ViewerSession π μ) : ViewerEvent π → Prop
  | .attachTransport _ => s.machine.phase.linked = false ∧ s.identity.identityBound = false
  | .close => s.identity.identityBound = false
  | _ => True

/-! ## Tearing down -/

section Teardown

variable (T : PeerTransport π) (s : ViewerSession π μ)

@[simp] theorem teardown_transport : (s.teardownTransport T).transport = none := by
  unfold ViewerSession.teardownTransport
  rcases ht : s.transport with _ | a
  · exact ht
  · rfl

@[simp] theorem teardown_machine : (s.teardownTransport T).machine = s.machine := by
  unfold ViewerSession.teardownTransport
  rcases s.transport with _ | a
  · rfl
  · rfl

@[simp] theorem teardown_identity : (s.teardownTransport T).identity = s.identity := by
  unfold ViewerSession.teardownTransport
  rcases s.transport with _ | a
  · rfl
  · rfl

end Teardown

/-! ## The invariant -/

/-- What an attached transport reported has been followed by the machine, or waits in the buffer;
without a transport the session is neither linked nor bound, and no report waits. -/
structure Tracked (s : ViewerSession π μ) : Prop where
  reports : ∀ a, s.transport = some a → ∃ processed, a.reported = processed ++ s.callbacks.states ∧
    (s.machine.phase.linked = true → Up processed)
  answered : ∀ a, s.transport = some a → s.identity.identityBound = true → a.answered ≠ []
  detached : s.transport = none → s.machine.phase.linked = false ∧
    s.identity.identityBound = false ∧ s.callbacks.states = []

theorem deliver_states (buf : EventBuf) (cs : List PeerCallback) :
    (buf.deliver cs).states = buf.states ++ statesOf cs := by
  induction cs generalizing buf with
  | nil => simp [EventBuf.deliver, statesOf]
  | cons c cs ih =>
    have hcons : buf.deliver (c :: cs) = (buf.receive c).deliver cs := rfl
    rw [hcons, ih]
    cases c with
    | connectionState s => simp [EventBuf.receive, statesOf]
    | iceCandidate candidate => simp [EventBuf.receive, statesOf]
    | track t => simp [EventBuf.receive, statesOf]
    | data m => simp [EventBuf.receive, statesOf]

namespace Tracked

variable {C : Crypto} {T : PeerTransport π} {S : MediaSink μ} {s s' : ViewerSession π μ}

theorem aligned (h : Tracked s) : Aligned s := by
  refine ⟨fun hlinked => ?_, fun hbound => ?_⟩
  · rcases ht : s.transport with _ | a
    · rw [(h.detached ht).1] at hlinked
      cases hlinked
    · obtain ⟨processed, hreported, hup⟩ := h.reports a ht
      exact ⟨a, processed, rfl, hreported, hup hlinked⟩
  · rcases ht : s.transport with _ | a
    · rw [(h.detached ht).2.1] at hbound
      cases hbound
    · exact ⟨a, rfl, h.answered a ht hbound⟩

theorem new (media : μ) : Tracked (ViewerSession.new media : ViewerSession π μ) where
  reports a ha := by cases ha
  answered a ha := by cases ha
  detached _ := ⟨rfl, rfl, rfl⟩

/-- Changes elsewhere. -/
theorem congr (h : Tracked s) (ht : s'.transport = s.transport)
    (hc : s'.callbacks.states = s.callbacks.states)
    (hm : s'.machine.phase.linked = s.machine.phase.linked)
    (hi : s'.identity.identityBound = s.identity.identityBound) : Tracked s' := by
  refine ⟨fun a ha => ?_, fun a ha hb => ?_, fun hn => ?_⟩
  · obtain ⟨processed, hreported, hup⟩ := h.reports a (ht ▸ ha)
    exact ⟨processed, by rw [hreported, hc], fun hl => hup (hm ▸ hl)⟩
  · exact h.answered a (ht ▸ ha) (hi ▸ hb)
  · obtain ⟨hl, hb, hs⟩ := h.detached (ht ▸ hn)
    exact ⟨hm.trans hl, hi.trans hb, hc.trans hs⟩

/-! ### Calls of the transport -/

/-- The attached transport calls back. -/
theorem called (h : Tracked s) (ht : s.transport ≠ none) (cs : List PeerCallback) :
    Tracked (s.called cs) := by
  obtain ⟨a, ha⟩ := Option.ne_none_iff_exists'.mp ht
  have hcalled : (s.called cs).transport = some (a.report cs) := by
    simp [ViewerSession.called, ha]
  refine ⟨fun b hb => ?_, fun b hb hbound => ?_, fun hn => ?_⟩
  · obtain rfl := Option.some.inj (hcalled.symm.trans hb)
    obtain ⟨processed, hreported, hup⟩ := h.reports a ha
    refine ⟨processed, ?_, hup⟩
    show a.reported ++ statesOf cs = processed ++ (s.callbacks.deliver cs).states
    rw [deliver_states, hreported, List.append_assoc]
  · obtain rfl := Option.some.inj (hcalled.symm.trans hb)
    exact h.answered a ha hbound
  · rw [hcalled] at hn
    cases hn

/-- The attached transport changes its own state. -/
theorem peer (h : Tracked s) {a : Attachment π} (ha : s.transport = some a) (p : π) :
    Tracked { s with transport := some { a with peer := p } } := by
  refine ⟨fun b hb => ?_, fun b hb hbound => ?_, fun hn => ?_⟩
  · obtain rfl := Option.some.inj hb
    exact h.reports a ha
  · obtain rfl := Option.some.inj hb
    exact h.answered a ha hbound
  · cases hn

/-- A tracked session with a transport. -/
def Attached (s : ViewerSession π μ) : Prop := Tracked s ∧ s.transport ≠ none

/-- **A call of the transport keeps track of what it reports.** -/
theorem onTransport_attached (f : π → Call π α) :
    Preserves Attached (ViewerSession.onTransport f : ViewerM π μ α) := by
  rintro s ⟨h, ht⟩
  obtain ⟨a, ha⟩ := Option.ne_none_iff_exists'.mp ht
  have hcall : Attached ({ s with transport := some { a with peer := (f a.peer).peer } }.called
      (f a.peer).callbacks) := by
    refine ⟨(h.peer ha _).called (by simp) _, ?_⟩
    simp [ViewerSession.called]
  unfold after ViewerSession.onTransport
  rw [ha]
  dsimp only
  rcases (f a.peer).result with e | x
  · exact hcall
  · exact hcall

theorem askTransport_keeps (f : π → Except NetError α) :
    Keeps id (ViewerSession.askTransport f : ViewerM π μ α) := by
  intro s
  unfold after ViewerSession.askTransport
  rcases s.transport with _ | a
  · rfl
  · dsimp only
    rcases f a.peer with e | x
    · rfl
    · rfl

theorem askTransport_attached (f : π → Except NetError α) :
    Preserves Attached (ViewerSession.askTransport f : ViewerM π μ α) := by
  refine (askTransport_keeps f).preserves fun s s' heq h => ?_
  rwa [show s' = s from heq]

theorem askTransport (f : π → Except NetError α) :
    Preserves Tracked (ViewerSession.askTransport f : ViewerM π μ α) := by
  refine (askTransport_keeps f).preserves fun s s' heq h => ?_
  rwa [show s' = s from heq]

theorem onTransport (f : π → Call π α) :
    Preserves Tracked (ViewerSession.onTransport f : ViewerM π μ α) := by
  intro s h
  by_cases ht : s.transport = none
  · unfold after ViewerSession.onTransport
    rwa [ht]
  · exact (onTransport_attached f s ⟨h, ht⟩).1

/-! ### Draining -/

/-- A challenge has been answered on the attached transport. -/
theorem markBound (h : Attached s) (c : DcIdentityChallenge) :
    Attached (s.markBound c) := by
  obtain ⟨h, ht⟩ := h
  obtain ⟨a, ha⟩ := Option.ne_none_iff_exists'.mp ht
  have hmark : (s.markBound c).transport = some (a.answer c) := by
    simp [ViewerSession.markBound, ViewerSession.syncBindStatus, ha]
  refine ⟨⟨fun b hb => ?_, fun b hb _ => ?_, fun hn => ?_⟩, by simp [hmark]⟩
  · obtain rfl := Option.some.inj (hmark.symm.trans hb)
    exact h.reports a ha
  · obtain rfl := Option.some.inj (hmark.symm.trans hb)
    simp [Attachment.answer]
  · rw [hmark] at hn
    cases hn

/-- **Answering a challenge binds the identity on the attached transport.** -/
theorem answerChallenge_attached (c : DcIdentityChallenge) :
    Preserves Attached (ViewerSession.answerChallenge C T c : ViewerM π μ Unit) := by
  unfold ViewerSession.answerChallenge
  refine Preserves.of_get.bind fun s => ?_
  rcases s.bindKey with _ | key
  · exact Preserves.of_throw _
  dsimp only
  rcases s.sessionId with _ | sid
  · exact Preserves.of_throw _
  dsimp only
  refine (askTransport_attached _).bind fun fp => ?_
  rcases fp with _ | fpHost
  · exact Preserves.of_throw _
  dsimp only
  refine (askTransport_attached _).bind fun fpViewer => ?_
  refine (onTransport_attached _).bind fun _ => ?_
  exact Preserves.of_modify fun s hs => markBound hs c

/-- Without a transport no challenge is answered. -/
theorem answerChallenge_detached (c : DcIdentityChallenge) (hs : s.transport = none) :
    after (ViewerSession.answerChallenge C T c : ViewerM π μ Unit) s = s := by
  unfold ViewerSession.answerChallenge
  rw [after_get_bind]
  rcases s.bindKey with _ | key
  · rfl
  dsimp only
  rcases s.sessionId with _ | sid
  · rfl
  dsimp only
  rw [after_bind, ViewerSession.askTransport, hs]

theorem answerChallenge (c : DcIdentityChallenge) :
    Preserves Tracked (ViewerSession.answerChallenge C T c : ViewerM π μ Unit) := by
  intro s h
  by_cases ht : s.transport = none
  · rwa [answerChallenge_detached c ht]
  · exact (answerChallenge_attached c s ⟨h, ht⟩).1

theorem handleIdentityMessages (msgs : List Bytes) :
    Preserves Tracked (ViewerSession.handleIdentityMessages C T msgs : ViewerM π μ Unit) := by
  induction msgs with
  | nil => exact Preserves.of_pure ()
  | cons data rest ih =>
    refine Preserves.bind ?_ fun _ => ih
    unfold ViewerSession.handleIdentityMessage
    rcases DcIdentityMessage.parse data with e | parsed
    · exact Preserves.of_throw _
    dsimp only
    refine Preserves.bind (Preserves.of_modify fun s hs => ?_) fun _ => ?_
    · exact hs.congr rfl rfl rfl rfl
    · cases parsed with
      | challenge c => exact answerChallenge c
      | response r => exact Preserves.of_throw _

/-- Received media leaves all but the phase and the sink alone, and does not link the session. -/
theorem handleTracks (tracks : List IncomingTrackData) (s : ViewerSession π μ) :
    (tracks.foldl (ViewerSession.handleTrack S) s).transport = s.transport ∧
    (tracks.foldl (ViewerSession.handleTrack S) s).callbacks = s.callbacks ∧
    (tracks.foldl (ViewerSession.handleTrack S) s).identity = s.identity ∧
    (tracks.foldl (ViewerSession.handleTrack S) s).machine.phase.linked =
      s.machine.phase.linked := by
  induction tracks generalizing s with
  | nil => exact ⟨rfl, rfl, rfl, rfl⟩
  | cons t tracks ih =>
    obtain ⟨h1, h2, h3, h4⟩ := ih (ViewerSession.handleTrack S s t)
    refine ⟨h1, h2, h3, h4.trans ?_⟩
    unfold ViewerSession.handleTrack
    dsimp only
    split_ifs
    · exact ConnectionMachine.onMediaReceived_linked _
    · rfl

/-- **The machine follows the reports that wait in the buffer.** -/
theorem takeEvents (h : Tracked s) : Tracked (s.takeEvents S) := by
  obtain ⟨ht, hc, hi, hm⟩ := @handleTracks π μ S s.callbacks.tracks
    { s with
      callbacks := .empty
      pendingLocalIce := s.pendingLocalIce ++ s.callbacks.ice
      stats := { s.stats with
        localIce := s.callbacks.ice.foldl (fun n _ => Protocol.saturatingSucc n) s.stats.localIce
        dataRx := s.callbacks.data.foldl (fun n _ => Protocol.saturatingSucc n) s.stats.dataRx }
      machine := s.callbacks.states.foldl ConnectionMachine.onTransportState s.machine }
  refine ⟨fun a ha => ?_, fun a ha hb => ?_, fun hn => ?_⟩
  · obtain ⟨processed, hreported, hup⟩ := h.reports a (ht.symm.trans ha)
    refine ⟨a.reported, ?_, fun hl => ?_⟩
    · rw [ViewerSession.takeEvents, hc]
      exact (List.append_nil _).symm
    · rw [hreported]
      exact ConnectionMachine.up_of_linked hup _ (hm.symm.trans hl)
  · exact h.answered a (ht.symm.trans ha) ((congrArg IdentityBindState.identityBound hi).symm.trans hb)
  · obtain ⟨hl, hb, hs⟩ := h.detached (ht.symm.trans hn)
    refine ⟨hm.trans ?_, (congrArg IdentityBindState.identityBound hi).trans hb, ?_⟩
    · rw [hs]
      exact hl
    · rw [ViewerSession.takeEvents, hc]
      rfl

/-- **Draining the buffer keeps track.** -/
theorem drain : Preserves Tracked (ViewerSession.drainCallbackBuf C T S : ViewerM π μ Unit) := by
  refine Preserves.of_get.bind fun s => ?_
  refine Preserves.bind (Preserves.of_modify fun s hs => hs.takeEvents) fun _ => ?_
  exact handleIdentityMessages _

/-! ### The methods -/

theorem answerOffer (offer : SessionDescription) : Preserves Tracked
    (ViewerSession.answerOffer C T S offer : ViewerM π μ SessionDescription) := by
  unfold ViewerSession.answerOffer
  refine Preserves.of_get.bind fun s => ?_
  rcases s.transport with _ | a
  · exact Preserves.of_throw _
  dsimp only
  refine Preserves.bind (Preserves.of_modify fun s hs => ?_) fun _ => ?_
  · exact hs.congr rfl rfl (ConnectionMachine.beginAnswer_linked _) rfl
  refine (onTransport _).bind fun _ => (askTransport _).bind fun fp => ?_
  refine Preserves.bind (Preserves.of_modify fun s hs => ?_) fun _ => ?_
  · exact hs.congr rfl rfl rfl rfl
  exact (onTransport _).bind fun answer => (onTransport _).bind fun _ =>
    drain.bind fun _ => Preserves.of_pure answer

/-- Checking a signature changes nothing. -/
theorem checkOfferSig_keeps (sig : String) :
    Keeps id (ViewerSession.checkOfferSig C sig : ViewerM π μ Unit) := by
  intro s
  unfold after ViewerSession.checkOfferSig
  split
  · rfl
  split
  · rfl
  split
  · rfl
  split
  · rfl
  · rfl

theorem checkPresentSig (sig : Option String) :
    Preserves Tracked (ViewerSession.checkPresentSig C sig : ViewerM π μ Unit) := by
  unfold ViewerSession.checkPresentSig
  split
  · refine (checkOfferSig_keeps _).preserves fun s s' heq h => ?_
    rwa [show s' = s from heq]
  · exact Preserves.of_pure ()

theorem acceptOffer (offer : SessionDescription) (sig : Option String) : Preserves Tracked
    (ViewerSession.acceptOfferWithSig C T S offer sig : ViewerM π μ SessionDescription) := by
  refine Preserves.bind (Preserves.of_modify fun s hs => ?_) fun _ => ?_
  · exact hs.congr rfl rfl rfl rfl
  · exact (checkPresentSig sig).bind fun _ => answerOffer offer

theorem addRemoteIce (candidate : Protocol.IceCandidate) :
    Preserves Tracked (ViewerSession.addRemoteIce C T S candidate : ViewerM π μ Unit) :=
  (onTransport _).bind fun _ => drain

theorem poll : Preserves Tracked (ViewerSession.poll C T S : ViewerM π μ Unit) := by
  refine Preserves.bind (fun s hs => ?_) fun _ => drain.bind fun _ => ?_
  · unfold after ViewerSession.pollTransport
    rcases ht : s.transport with _ | a
    · exact hs
    · exact onTransport _ s hs
  · exact Preserves.of_modify fun s hs => hs.congr rfl rfl rfl rfl

theorem sendInput (msg : DataMessage) :
    Preserves Tracked (ViewerSession.sendInput T msg : ViewerM π μ Unit) := by
  refine Preserves.of_get.bind fun s => ?_
  rcases s.ensureCanSendInput with e | _
  · exact Preserves.of_throw _
  · exact onTransport _

/-- **A connect brings phase, identity and transport back to the start.** -/
theorem beginConnect (req : ConnectRequest) :
    Preserves Tracked (ViewerSession.beginConnect T S req : ViewerM π μ ConnectStubResult) := by
  intro s h
  unfold after ViewerSession.beginConnect
  rcases connectStub req with e | stub
  · exact h
  · refine ⟨fun a ha => ?_, fun a ha => ?_, fun _ => ⟨rfl, rfl, ?_⟩⟩
    · exact absurd ha (by simp [finalState, ViewerSession.syncBindStatus, teardown_transport])
    · exact absurd ha (by simp [finalState, ViewerSession.syncBindStatus, teardown_transport])
    · rfl

/-- Attaching a transport to a session that is neither linked nor bound. -/
theorem attachTransport (hl : s.machine.phase.linked = false)
    (hb : s.identity.identityBound = false) (p : π) : Tracked (s.attachTransport T p) := by
  refine ⟨fun a ha => ?_, fun a ha hbound => ?_, fun hn => by cases hn⟩
  · obtain rfl := Option.some.inj ha
    refine ⟨[], rfl, fun hlinked => ?_⟩
    rw [ViewerSession.attachTransport, teardown_machine, hl] at hlinked
    cases hlinked
  · rw [ViewerSession.attachTransport, teardown_identity, hb] at hbound
    cases hbound

/-- Closing a session that is not bound. -/
theorem close (hb : s.identity.identityBound = false) : Tracked (s.close T S) := by
  refine ⟨fun a ha => ?_, fun a ha => ?_, fun _ => ⟨rfl, ?_, rfl⟩⟩
  · rw [ViewerSession.close, teardown_transport] at ha
    cases ha
  · rw [ViewerSession.close, teardown_transport] at ha
    cases ha
  · rw [ViewerSession.close, teardown_identity, hb]

/-- **Every event that meets the condition keeps track of the transport.** -/
theorem perform (h : Tracked s) {e : ViewerEvent π} (hc : KeepsAligned s e) :
    Tracked (e.perform C T S s) := by
  cases e with
  | setHostVerifyingKey key => exact h.congr rfl rfl rfl rfl
  | setBindKey key => exact h.congr rfl rfl rfl rfl
  | setRequireIdentityForInput require => exact h.congr rfl rfl rfl rfl
  | markSessionAuthorized => exact h.congr rfl rfl rfl rfl
  | beginConnect req => exact beginConnect req s h
  | attachTransport p => exact attachTransport hc.1 hc.2 p
  | acceptOffer offer sig => exact acceptOffer offer sig s h
  | addRemoteIce candidate => exact addRemoteIce candidate s h
  | takePendingLocalIce => exact h.congr rfl rfl rfl rfl
  | sendInput msg => exact sendInput msg s h
  | poll => exact poll s h
  | close => exact close hc
  | callback cs =>
    simp only [ViewerEvent.perform]
    split_ifs with ht
    · exact h.called (Option.isSome_iff_ne_none.mp ht) cs
    · exact h

end Tracked

/-! ## The alignment -/

/-- **An attach or a close that does not meet the condition breaks the alignment.** -/
theorem not_aligned {C : Crypto} {T : PeerTransport π} {S : MediaSink μ} {s : ViewerSession π μ}
    {e : ViewerEvent π} (hc : ¬KeepsAligned s e) : ¬Aligned (e.perform C T S s) := by
  intro h
  cases e with
  | attachTransport p =>
    refine hc ⟨?_, ?_⟩
    · by_contra hlinked
      obtain ⟨a, processed, ha, hreported, hup⟩ := h.phase (by
        rw [ViewerEvent.perform, ViewerSession.attachTransport, teardown_machine]
        simpa using hlinked)
      obtain rfl := Option.some.inj ha
      obtain ⟨rfl, -⟩ := List.append_eq_nil_iff.mp (show processed ++ _ = [] from hreported.symm)
      exact not_up_nil hup
    · by_contra hbound
      obtain ⟨a, ha, hanswered⟩ := h.identity (by
        rw [ViewerEvent.perform, ViewerSession.attachTransport, teardown_identity]
        simpa using hbound)
      obtain rfl := Option.some.inj ha
      exact hanswered rfl
  | close =>
    refine hc (show s.identity.identityBound = false from ?_)
    by_contra hbound
    obtain ⟨a, ha, -⟩ := h.identity (by
      rw [ViewerEvent.perform, ViewerSession.close, teardown_identity]
      simpa using hbound)
    rw [ViewerEvent.perform, ViewerSession.close, teardown_transport] at ha
    cases ha
  | _ => exact hc trivial

/-- **Phase and identity flag agree with the attached transport** in every run that attaches a
transport only while the session is neither linked nor bound, and does not close it while it is
bound. Any other attach or close breaks the agreement at once.

**Proof sketch.** The machine follows the reports of the attached transport in their order, so it is
linked only while those it has followed end connected; what a torn-down transport left in the buffer
is dropped. -/
theorem phase_aligned (C : Crypto) (T : PeerTransport π) (S : MediaSink μ) (media : μ) :
    (∀ s, (viewerSystem C T S media).ReachableVia KeepsAligned s → Aligned s) ∧
    ∀ (s : ViewerSession π μ) e, ¬KeepsAligned s e → ¬Aligned (e.perform C T S s) := by
  refine ⟨fun s h => Tracked.aligned ?_, fun s e => not_aligned⟩
  refine h.invariant Tracked (fun s hs => ?_) fun s e s' hi hc hstep => ?_
  · obtain rfl : s = .new media := hs
    exact Tracked.new media
  · obtain rfl := Option.some.inj hstep
    exact hi.perform hc

/-! ### Concrete runs -/

/-- One side of a mock pair, and an offer that it answers. -/
def localPeer : MockPeer := .new "viewer" ⟨"sha-256", "11"⟩

def plainOffer : SessionDescription := ⟨.offer, "v=0"⟩

/-- A viewer connects, attaches a transport, and answers an offer. -/
def linkedRun : List (ViewerEvent MockPeer) :=
  [.beginConnect (.otp "host-1" "123456"), .attachTransport localPeer, .acceptOffer plainOffer none]

/-- Whether an event neither attaches to a linked or bound session nor closes a bound one. -/
def keepsAligned (s : ViewerSession MockPeer Unit) : ViewerEvent MockPeer → Bool
  | .attachTransport _ => !s.machine.phase.linked && !s.identity.identityBound
  | .close => !s.identity.identityBound
  | _ => true

theorem keepsAligned_of (s : ViewerSession MockPeer Unit) (e : ViewerEvent MockPeer)
    (h : keepsAligned s e = true) : KeepsAligned s e := by
  cases e with
  | attachTransport p => simpa [keepsAligned, KeepsAligned] using h
  | close => simpa [keepsAligned, KeepsAligned] using h
  | _ => trivial

/-- The run links the session, and the attached transport has reported it. -/
theorem phase_aligned_linked : ∃ s,
    (viewerSystem .windowed mockTransport .discard ()).ReachableVia KeepsAligned s ∧
    s.machine.phase = .connected ∧ Aligned s := by
  have hrun : (((viewerSystem .windowed mockTransport .discard ()).restrict keepsAligned).runFrom
      (.new ()) linkedRun).any (fun s => decide (s.machine.phase = .connected)) = true := by
    decide +kernel
  obtain ⟨s, hs, hphase⟩ := (Option.any_eq_true _ _).mp hrun
  have hinit : ((viewerSystem .windowed mockTransport .discard ()).restrict keepsAligned).Reachable
      (.new ()) := .init rfl
  have hreach := System.reachableVia_of_restrict keepsAligned_of
    (System.reachable_of_runFrom hinit hs)
  exact ⟨s, hreach, of_decide_eq_true hphase,
    (phase_aligned .windowed mockTransport .discard ()).1 s hreach⟩

/-- **Another transport attached to a linked session** leaves it linked, although the new transport
has reported nothing. -/
theorem phase_aligned_fails :
    ¬∀ s, (viewerSystem .windowed mockTransport .discard ()).Reachable s → Aligned s := by
  intro hclaim
  have hrun : ((viewerSystem .windowed mockTransport .discard ()).runFrom (.new ())
      linkedRun).any (fun s => s.machine.phase.linked) = true := by
    decide +kernel
  obtain ⟨s, hs, hlinked⟩ := (Option.any_eq_true _ _).mp hrun
  have hreach := System.reachable_of_runFrom (.init rfl) hs
  have hcond : ¬KeepsAligned s (.attachTransport localPeer) := by
    rintro ⟨hnot, -⟩
    rw [hnot] at hlinked
    cases hlinked
  have hnext : (viewerSystem .windowed mockTransport .discard ()).Reachable
      (ViewerEvent.perform .windowed mockTransport .discard s (.attachTransport localPeer)) :=
    .step hreach trivial rfl
  exact not_aligned hcond (hclaim _ hnext)

end RemoteLink.Viewer
