import RemoteLink.Host.AgentAgreement

set_option autoImplicit false

/-!
# Retrying the start of media

`startMedia` opens the sources, records them as running, and only then makes the local offer. A
caller that gets an error calls it again: the host falls back to a mock desktop, the agent waits
for another `StartMedia`. When it was the offer that failed the record stays, and the second call
returns early as if media ran, with no offer for the viewer.

## Main definitions

* `MediaSession` — a manager with the signals that have been drained from it for its session.
* `MediaSession.Offered` — an offer has been queued for the session.
* `Retryable` — what a caller may rely on when `startMedia` returns.
* `RetryCondition` — when it may, in terms of the state and of the calls that `startMedia` makes.

## Main results

* `startMedia_ok_cases`, `startMedia_error_cases` — the ways in which `startMedia` returns.
* `start_media_retryable_iff` — `startMedia` is retryable exactly under the condition.
* `start_media_sticks` — after a failed offer the retry succeeds and offers nothing.
-/

namespace RemoteLink.Host

open Library Protocol Auth Net Platform

/-! ## Offers of a session -/

/-- A manager with the signals that have been drained from it since its session was attached. -/
structure MediaSession (π : Type) where
  manager : SessionManager π
  drained : List SignalForward

/-- The signals that have been queued for the session so far. -/
def MediaSession.queued {π : Type} (w : MediaSession π) : List SignalForward :=
  w.drained ++ w.manager.outboundSignals

/-- An offer for a session. -/
def IsOffer (sid : String) (s : SignalForward) : Prop :=
  s.sessionId = sid ∧ s.kind = SignalKind.sessionOffer

/-- An offer has been queued for the session that is attached. -/
def MediaSession.Offered {π : Type} (w : MediaSession π) : Prop :=
  ∃ sid, w.manager.sessionId = some sid ∧ ∃ s ∈ w.queued, IsOffer sid s

/-- Between two states of a manager an offer for its session has been queued. -/
def QueuesOffer {π : Type} (m m' : SessionManager π) : Prop :=
  ∃ sid new, m.sessionId = some sid ∧ m'.outboundSignals = m.outboundSignals ++ new ∧
    ∃ s ∈ new, IsOffer sid s

/-! ## What a caller relies on -/

section

variable {π : Type}

/-- A later state of a session in which media is as it was: the manager may have been configured
and its signals drained, and its transport may answer other calls otherwise. -/
structure MediaSession.Waits (T T' : PeerTransport π) (w w' : MediaSession π) : Prop where
  session : w'.manager.sessionId = w.manager.sessionId
  media : w'.manager.media = w.manager.media
  queued : w'.queued = w.queued
  connection : T'.connectionState w'.manager.peer = T.connectionState w.manager.peer

/-- Every call that `startMedia` can make succeeds. -/
structure CallsSucceed (T : PeerTransport π) (ans : SessionManager.MediaAnswers)
    (m : SessionManager π) : Prop where
  opens : (SessionManager.openMedia ans).toBool = true
  offers : makesOffer T m = true

/-- **`startMedia` can be retried**: an error leaves media unrecorded, and once its calls succeed a
later call on the same session queues an offer; a success means that an offer has been queued. -/
structure Retryable (C : Crypto) (T : PeerTransport π) (J : Codec)
    (ans : SessionManager.MediaAnswers) (w : MediaSession π) : Prop where
  unrecorded : ∀ e m', SessionManager.startMedia C T J ans w.manager = .error e m' →
    m'.media = none
  retried : ∀ e m', SessionManager.startMedia C T J ans w.manager = .error e m' →
    ∀ T' ans' w', MediaSession.Waits T T' { w with manager := m' } w' →
      w'.manager.sessionId.isSome = true → CallsSucceed T' ans' w'.manager →
        ∃ m'', SessionManager.startMedia C T' J ans' w'.manager = .ok () m'' ∧
          QueuesOffer w'.manager m''
  offered : ∀ m', SessionManager.startMedia C T J ans w.manager = .ok () m' →
    MediaSession.Offered { w with manager := m' }

/-- When it can: media that is recorded has been offered; on a fresh transport sources that open
are offered; on any other one the sources open, and an offer has been queued already. -/
structure RetryCondition (T : PeerTransport π) (ans : SessionManager.MediaAnswers)
    (w : MediaSession π) : Prop where
  recorded : w.manager.media.isSome = true → w.Offered
  fresh : w.manager.sessionId.isSome = true → w.manager.media = none →
    T.connectionState w.manager.peer = .new →
      (SessionManager.openMedia ans).toBool = true → makesOffer T w.manager = true
  negotiated : w.manager.sessionId.isSome = true → w.manager.media = none →
    T.connectionState w.manager.peer ≠ .new →
      (SessionManager.openMedia ans).toBool = true ∧ w.Offered

end

section

variable {π : Type} {C : Crypto} {T : PeerTransport π} {J : Codec}
  {ans : SessionManager.MediaAnswers} {m m' : SessionManager π} {w : MediaSession π}

/-! ### Waiting -/

/-- Selecting other sources, as the fallback to a mock desktop does, leaves the session waiting. -/
theorem MediaSession.Waits.configure (w : MediaSession π) (width height fps : Nat)
    (videoKind : VideoCaptureKind) (audioKind : AudioCaptureKind) (forceSoftware : Bool) :
    MediaSession.Waits T T w
      { w with
        manager := w.manager.configure width height fps videoKind audioKind forceSoftware } :=
  ⟨rfl, rfl, rfl, rfl⟩

/-- So does draining its signals. -/
theorem MediaSession.Waits.drain (w : MediaSession π) :
    MediaSession.Waits T T w
      ⟨w.manager.takeOutboundSignals.2, w.drained ++ w.manager.takeOutboundSignals.1⟩ :=
  ⟨rfl, rfl, List.append_nil _, rfl⟩

/-- A retry after another one still starts from where the session waited. -/
theorem MediaSession.Waits.trans {T' T'' : PeerTransport π} {w' w'' : MediaSession π}
    (h : MediaSession.Waits T T' w w') (h' : MediaSession.Waits T' T'' w' w'') :
    MediaSession.Waits T T'' w w'' :=
  ⟨h'.session.trans h.session, h'.media.trans h.media, h'.queued.trans h.queued,
    h'.connection.trans h.connection⟩

/-! ### Offers in the queue -/

/-- Candidates are not offers. -/
theorem offered_queuePendingIce {sid : String} (plane : Option MediaPlane) :
    MediaSession.Offered
        { w with manager := ({ w.manager with media := plane }).queuePendingIce J sid } ↔
      w.Offered := by
  have hkind : SignalKind.iceCandidate ≠ SignalKind.sessionOffer := by decide
  simp only [MediaSession.Offered, MediaSession.queued, SessionManager.queuePendingIce]
  refine exists_congr fun attached => and_congr_right fun _ => ?_
  constructor
  · rintro ⟨s, hs, hoffer⟩
    rw [← List.append_assoc, List.mem_append, List.mem_map] at hs
    obtain hold | ⟨c, -, rfl⟩ := hs
    · exact ⟨s, hold, hoffer⟩
    · exact absurd hoffer.2 hkind
  · rintro ⟨s, hs, hoffer⟩
    exact ⟨s, by rw [← List.append_assoc]; exact List.mem_append_left _ hs, hoffer⟩

/-- A queued offer has been queued. -/
theorem QueuesOffer.offered (h : QueuesOffer w.manager m')
    (hsid : m'.sessionId = w.manager.sessionId) :
    MediaSession.Offered { w with manager := m' } := by
  obtain ⟨sid, new, hattached, hqueue, s, hs, hoffer⟩ := h
  refine ⟨sid, hsid.trans hattached, s, ?_, hoffer⟩
  simp only [MediaSession.queued, hqueue, List.mem_append]
  exact .inr (.inr hs)

/-- **The offer is made last**: when nothing failed on the way it is in the queue. -/
theorem createLocalOffer_queues {sid : String} (hsid : m.sessionId = some sid)
    (h : SessionManager.createLocalOfferAndQueue C T J sid m = .ok () m') : QueuesOffer m m' := by
  have hqueued (offer : SessionDescription) (sig : Option String) (cs : List IceCandidate) :
      ∃ s ∈ [(⟨sid, SignalKind.sessionOffer, J.encodeSdp ⟨offer.sdp, sig⟩, .agent⟩ :
          SignalForward)] ++
        cs.map fun c => ⟨sid, SignalKind.iceCandidate, J.encodeIce c, .agent⟩, IsOffer sid s :=
    ⟨_, List.mem_append_left _ (List.mem_singleton_self _), rfl, rfl⟩
  revert h
  unfold SessionManager.createLocalOfferAndQueue
  dsimp only [bind, EStateM.bind, SessionManager.onPeer]
  rcases (T.createOffer m.peer).result with e | offer
  · intro h
    cases h
  dsimp only
  rcases (T.setLocalDescription (T.createOffer m.peer).peer offer).result with e | u
  · intro h
    cases h
  dsimp only [SessionManager.fingerprintSig]
  rcases m.deviceSigningKey with _ | key
  · intro h
    cases h
    exact ⟨sid, _, hsid, List.append_assoc _ _ _, hqueued _ _ _⟩
  dsimp only
  rcases T.localFingerprint
    (T.setLocalDescription (T.createOffer m.peer).peer offer).peer with e | fp
  · intro h
    cases h
  · intro h
    cases h
    exact ⟨sid, _, hsid, List.append_assoc _ _ _, hqueued _ _ _⟩

/-! ### The ways in which it returns -/

/-- Without a session nothing happens. -/
theorem startMedia_detached (hsid : m.sessionId = none) :
    SessionManager.startMedia C T J ans m = .error (.invalidState "no session attached") m := by
  unfold SessionManager.startMedia
  dsimp only [bind, EStateM.bind, get, getThe, MonadStateOf.get, EStateM.get]
  conv_lhs => rw [hsid]
  rfl

/-- The session stays attached. -/
theorem startMedia_session (C : Crypto) (T : PeerTransport π) (J : Codec)
    (ans : SessionManager.MediaAnswers) (m : SessionManager π) :
    (after (SessionManager.startMedia C T J ans) m).sessionId = m.sessionId :=
  congrArg (fun gate => gate.1) (keeps_startMedia C T J ans m)

/-- **A success of `startMedia`**: media was recorded, or a fresh transport made its offer, or the
candidates of any other transport were queued. -/
theorem startMedia_ok_cases (h : SessionManager.startMedia C T J ans m = .ok () m') :
    (m.media.isSome = true ∧ m' = m) ∨
    (m.media = none ∧ T.connectionState m.peer = .new ∧ QueuesOffer m m') ∨
    (m.media = none ∧ T.connectionState m.peer ≠ .new ∧
      (SessionManager.openMedia ans).toBool = true ∧
      ∃ sid plane, m' = ({ m with media := plane }).queuePendingIce J sid) := by
  obtain hsid | ⟨sid, hsid⟩ := m.sessionId.eq_none_or_eq_some
  · rw [startMedia_detached hsid] at h
    cases h
  rw [startMedia_eq hsid] at h
  by_cases hmedia : m.media.isSome = true
  · rw [if_pos hmedia] at h
    cases h
    exact .inl ⟨hmedia, rfl⟩
  rw [if_neg hmedia] at h
  have hnone : m.media = none := by simpa using hmedia
  rcases hopen : SessionManager.openMedia ans with e | plane
  · rw [hopen] at h
    cases h
  rw [hopen] at h
  dsimp only at h
  by_cases hnew : T.connectionState m.peer = .new
  · rw [if_pos hnew] at h
    obtain ⟨sid', new, hattached, hqueue, hoffer⟩ := createLocalOffer_queues (by exact hsid) h
    exact .inr (.inl ⟨hnone, hnew, sid', new, hattached, hqueue, hoffer⟩)
  · rw [if_neg hnew] at h
    cases h
    exact .inr (.inr ⟨hnone, hnew, rfl, sid, some plane, rfl⟩)

/-- **An error of `startMedia`**: there is no session, or the sources do not open, and nothing has
changed; or the offer failed, and media is recorded all the same. -/
theorem startMedia_error_cases {e : SessionError}
    (h : SessionManager.startMedia C T J ans m = .error e m') :
    (m.sessionId = none ∧ m' = m) ∨
    (m.sessionId.isSome = true ∧ m.media = none ∧
      (SessionManager.openMedia ans).toBool = false ∧ m' = m) ∨
    (m.sessionId.isSome = true ∧ failsHalfway T ans m = true ∧ m'.media.isSome = true) := by
  rcases hsid : m.sessionId with _ | sid
  · rw [startMedia_detached hsid] at h
    cases h
    exact .inl ⟨rfl, rfl⟩
  have hstarted : m'.mediaStarted = failsHalfway T ans m := by
    obtain ⟨m'', hok, -⟩ | ⟨e', m'', herror, hstarted⟩ :=
      startMedia_cases (C := C) (T := T) (J := J) hsid ans
    · rw [hok] at h
      cases h
    · rw [herror] at h
      cases h
      exact hstarted
  rcases hhalf : failsHalfway T ans m with _ | _
  · -- the sources did not open: every other way succeeds or fails half way
    rw [startMedia_eq hsid] at h
    by_cases hmedia : m.media.isSome = true
    · rw [if_pos hmedia] at h
      cases h
    rw [if_neg hmedia] at h
    have hnone : m.media = none := by simpa using hmedia
    rcases hopen : SessionManager.openMedia ans with e' | plane
    · rw [hopen] at h
      cases h
      exact .inr (.inl ⟨rfl, hnone, rfl, rfl⟩)
    · exfalso
      rw [hopen] at h
      dsimp only at h
      by_cases hnew : T.connectionState m.peer = .new
      · rw [if_pos hnew] at h
        have hmade : makesOffer T { m with media := some plane } = true := by
          simpa [failsHalfway, SessionManager.mediaStarted, hnone, hopen, hnew, Except.toBool,
            makesOffer] using hhalf
        obtain ⟨m'', hoffer⟩ := createLocalOffer_ok_iff.mpr hmade
        rw [hoffer] at h
        cases h
      · rw [if_neg hnew] at h
        cases h
  · exact .inr (.inr ⟨rfl, rfl, hstarted.trans hhalf⟩)

/-- When every call succeeds, media starts on a fresh transport with an offer. -/
theorem startMedia_offers (hsid : m.sessionId.isSome = true) (hmedia : m.media = none)
    (hnew : T.connectionState m.peer = .new) (hcalls : CallsSucceed T ans m) :
    ∃ m', SessionManager.startMedia C T J ans m = .ok () m' ∧ QueuesOffer m m' := by
  have hwhole : failsHalfway T ans m = false := by simp [failsHalfway, hcalls.offers]
  rcases hrun : SessionManager.startMedia C T J ans m with ⟨u, m'⟩ | ⟨e, m'⟩
  · refine ⟨m', rfl, ?_⟩
    obtain ⟨hsome, -⟩ | ⟨-, -, hqueues⟩ | ⟨-, hold, -⟩ := startMedia_ok_cases hrun
    · simp [hmedia] at hsome
    · exact hqueues
    · exact absurd hnew hold
  · obtain ⟨hnone, -⟩ | ⟨-, -, hshut, -⟩ | ⟨-, hhalf, -⟩ := startMedia_error_cases hrun
    · simp [hnone] at hsid
    · simp [hcalls.opens] at hshut
    · simp [hwhole] at hhalf

/-! ### When media can be started again -/

/-- The transport whose calls for an offer all succeed. -/
def willing (T : PeerTransport π) : PeerTransport π :=
  { T with
    createOffer := fun peer => ⟨.ok ⟨.offer, ""⟩, peer, []⟩
    setLocalDescription := fun peer _ => ⟨.ok (), peer, []⟩
    localFingerprint := fun _ => .ok ⟨"sha-256", ""⟩ }

/-- On it every call of `startMedia` succeeds, if the sources open. -/
theorem callsSucceed_willing (T : PeerTransport π) (m : SessionManager π) :
    CallsSucceed (willing T) ⟨.ok "", .ok "", .ok ""⟩ m :=
  ⟨rfl, by simp [makesOffer, willing, Except.toBool]⟩

/-- Under the condition nothing fails half way. -/
theorem RetryCondition.whole (h : RetryCondition T ans w)
    (hsid : w.manager.sessionId.isSome = true) : failsHalfway T ans w.manager = false := by
  rw [Bool.eq_false_iff]
  intro hhalf
  simp only [failsHalfway, SessionManager.mediaStarted, Bool.and_eq_true, Bool.not_eq_true',
    decide_eq_true_eq, Option.isSome_eq_false_iff, Option.isNone_iff_eq_none] at hhalf
  obtain ⟨⟨⟨hmedia, hopen⟩, hnew⟩, hrefused⟩ := hhalf
  have hmade := h.fresh hsid hmedia hnew hopen
  rw [hmade] at hrefused
  cases hrefused

/-- A transport past the fresh state is never asked for an offer. -/
theorem not_queuesOffer_of_old (hold : T.connectionState m.peer ≠ .new) (hmedia : m.media = none)
    (h : SessionManager.startMedia C T J ans m = .ok () m') : ¬ QueuesOffer m m' := by
  rintro ⟨sid, new, hattached, hqueue, hoffer⟩
  obtain ⟨hsome, -⟩ | ⟨-, hnew, -⟩ | ⟨-, -, -, sid', plane, rfl⟩ := startMedia_ok_cases h
  · simp [hmedia] at hsome
  · exact hold hnew
  · -- seen from an empty queue, the candidates would hold the offer
    have hnew : m.cb.ice.map (fun c => (⟨sid', SignalKind.iceCandidate, J.encodeIce c, .agent⟩ :
        SignalForward)) = new := List.append_cancel_left hqueue
    obtain ⟨s, hs, hs'⟩ := hoffer
    rw [← hnew, List.mem_map] at hs
    obtain ⟨c, -, rfl⟩ := hs
    have hkind : SignalKind.iceCandidate ≠ SignalKind.sessionOffer := by decide
    exact hkind hs'.2

/-- The condition is enough. -/
theorem Retryable.of_condition (h : RetryCondition T ans w) : Retryable C T J ans w where
  unrecorded e m' hrun := by
    obtain ⟨hnone, rfl⟩ | ⟨-, hmedia, -, rfl⟩ | ⟨hsid, hhalf, -⟩ := startMedia_error_cases hrun
    · by_contra hmedia
      obtain ⟨sid, hattached, -⟩ := h.recorded (Option.isSome_iff_ne_none.mpr hmedia)
      rw [hnone] at hattached
      cases hattached
    · exact hmedia
    · rw [h.whole hsid] at hhalf
      cases hhalf
  retried e m' hrun T' ans' w' hwaits hsid hcalls := by
    have hkept := startMedia_session C T J ans w.manager
    rw [after_error hrun] at hkept
    rw [hwaits.session] at hsid
    obtain ⟨hnone, rfl⟩ | ⟨hsome, hmedia, hshut, rfl⟩ | ⟨hsome, hhalf, -⟩ :=
      startMedia_error_cases hrun
    · simp [hnone] at hsid
    · -- only the sources have failed, so the transport is fresh
      have hnew : T.connectionState w.manager.peer = .new := by
        by_contra hold
        have hopens := (h.negotiated hsome hmedia hold).1
        rw [hshut] at hopens
        cases hopens
      refine startMedia_offers ?_ (hwaits.media.trans hmedia) (hwaits.connection.trans hnew) hcalls
      rw [hwaits.session]
      exact hsid
    · rw [h.whole hsome] at hhalf
      cases hhalf
  offered m' hrun := by
    have hkept := startMedia_session C T J ans w.manager
    rw [after_ok hrun] at hkept
    obtain ⟨hsome, rfl⟩ | ⟨-, -, hqueues⟩ | ⟨hmedia, hold, -, sid, plane, rfl⟩ :=
      startMedia_ok_cases hrun
    · exact h.recorded hsome
    · exact hqueues.offered hkept
    · have hsid : w.manager.sessionId.isSome = true := by
        by_contra hnone
        rw [startMedia_detached (by simpa using hnone)] at hrun
        cases hrun
      exact (offered_queuePendingIce plane).mpr (h.negotiated hsid hmedia hold).2

/-- And it is needed. -/
theorem Retryable.condition (h : Retryable C T J ans w) : RetryCondition T ans w where
  recorded hmedia := by
    obtain hsid | ⟨sid, hsid⟩ := w.manager.sessionId.eq_none_or_eq_some
    · have hnone := h.unrecorded _ _ (startMedia_detached hsid)
      simp [hnone] at hmedia
    · refine h.offered w.manager ?_
      rw [startMedia_eq hsid, if_pos hmedia]
  fresh hsid hmedia hnew hopen := by
    obtain ⟨sid, hsid⟩ := Option.isSome_iff_exists.mp hsid
    obtain ⟨m', -, -, hwhole⟩ | ⟨e, m', hrun, hstarted⟩ :=
      startMedia_cases (C := C) (T := T) (J := J) hsid ans
    · simpa [failsHalfway, SessionManager.mediaStarted, hmedia, hnew, hopen] using hwhole
    · have hnone := h.unrecorded e m' hrun
      simpa [failsHalfway, SessionManager.mediaStarted, hmedia, hnew, hopen, hnone] using hstarted
  negotiated hsid hmedia hold := by
    rcases hrun : SessionManager.startMedia C T J ans w.manager with ⟨u, m'⟩ | ⟨e, m'⟩
    · have hoffered := h.offered m' hrun
      obtain ⟨hsome, -⟩ | ⟨-, hnew, -⟩ | ⟨-, -, hopens, sid, plane, rfl⟩ :=
        startMedia_ok_cases hrun
      · simp [hmedia] at hsome
      · exact absurd hnew hold
      · exact ⟨hopens, (offered_queuePendingIce plane).mp hoffered⟩
    · -- a retry with willing calls would have to make the offer that only a fresh transport makes
      exfalso
      have hwaits : MediaSession.Waits T (willing T) { w with manager := m' }
          { w with manager := m' } := ⟨rfl, rfl, rfl, rfl⟩
      obtain ⟨hnone, -⟩ | ⟨-, -, -, rfl⟩ | ⟨-, hhalf, -⟩ := startMedia_error_cases hrun
      · simp [hnone] at hsid
      · obtain ⟨m'', hretry, hqueues⟩ :=
          h.retried e w.manager hrun (willing T) _ _ hwaits hsid (callsSucceed_willing T _)
        exact not_queuesOffer_of_old (T := willing T) hold hmedia hretry hqueues
      · simp [failsHalfway, hold] at hhalf

/-- **When `startMedia` is retryable**: exactly if media that is recorded has been offered, a fresh
transport makes the offer for sources that open, and on any other transport the sources open for a
session that has been offered already. -/
theorem start_media_retryable_iff (C : Crypto) (T : PeerTransport π) (J : Codec)
    (ans : SessionManager.MediaAnswers) (w : MediaSession π) :
    Retryable C T J ans w ↔ RetryCondition T ans w :=
  ⟨Retryable.condition, Retryable.of_condition⟩

end

/-! ### A failed capture and a failed offer -/

/-- A session on a transport that has not been used. -/
def attachedSession : MediaSession MockPeer :=
  ⟨(SessionManager.withPeer freshPeer .synthetic .synthetic 0).attach "sess" (.ok ()) 0, []⟩

/-- A capture that does not open can be retried. -/
theorem start_media_retryable_capture :
    Retryable .windowed mockTransport demoCodec ⟨.error "no display", .ok "", .ok ""⟩
      attachedSession := by
  refine (start_media_retryable_iff _ _ _ _ _).mpr ⟨?_, ?_, ?_⟩
  · intro hmedia
    cases hmedia
  · intro _ _ _ hopen
    cases hopen
  · intro _ _ hold
    exact absurd rfl hold

/-- Sources that open. -/
def syntheticSources : SessionManager.MediaAnswers :=
  ⟨.ok "synthetic", .ok "synthetic", .ok "openh264"⟩

/-- What a failed offer leaves behind: whether media is recorded after it, and what is queued after
a retry that succeeds. -/
def retryAfterRefusal : Option (Bool × List SignalForward) :=
  match SessionManager.startMedia .windowed refusingTransport demoCodec syntheticSources
    attachedSession.manager with
  | .ok _ _ => none
  | .error _ m =>
    match SessionManager.startMedia .windowed mockTransport demoCodec syntheticSources m with
    | .ok _ m' => some (m.mediaStarted, m'.outboundSignals)
    | .error _ _ => none

/-- **A failed offer cannot be retried**: media is recorded after it, and the retry succeeds with
nothing queued. -/
theorem start_media_sticks :
    retryAfterRefusal = some (true, []) ∧
    ¬ ∀ (C : Crypto) (T : PeerTransport MockPeer) (J : Codec) (ans : SessionManager.MediaAnswers)
      (w : MediaSession MockPeer), Retryable C T J ans w := by
  have hsticks : retryAfterRefusal = some (true, []) := by decide +kernel
  refine ⟨hsticks, fun hclaim => ?_⟩
  have hretryable := hclaim .windowed refusingTransport demoCodec syntheticSources attachedSession
  unfold retryAfterRefusal at hsticks
  rcases hrun : SessionManager.startMedia .windowed refusingTransport demoCodec syntheticSources
    attachedSession.manager with ⟨u, m⟩ | ⟨e, m⟩
  · rw [hrun] at hsticks
    cases hsticks
  · rw [hrun] at hsticks
    have hnone := hretryable.unrecorded e m hrun
    dsimp only at hsticks
    split at hsticks
    · simp [SessionManager.mediaStarted, hnone] at hsticks
    · cases hsticks

end RemoteLink.Host
