import RemoteLink.Net.Mock
import RemoteLink.Viewer.MediaBuffers
import RemoteLink.Viewer.PhaseAlignment

set_option autoImplicit false

/-!
# What a live viewer keeps

The viewer session with its default decoder and playout sink, and the calls that drain it. A record
limit bounds the recordings of the session, and its queues are bounded; the decoder and the sink
keep all that they are given.

## Main definitions

* `LiveMedia`, `liveMediaSink` — the media buffers, as the sink of a session. `LiveMedia.past` is not
  in the source: it records what has happened to the buffers, and nothing reads it.
* `bufferSystem` — the sequences of calls on a session with a record limit.

## Main results

* `ViewerEvent.perform_media` — a session does nothing to its media but what the sink offers.
* `live_buffers_bounded` — sessions keep a bounded number of units exactly if the units left in the
  decoder and the sink are bounded.
* `live_buffers_grow` — no bound holds for all of them.
-/

namespace RemoteLink.Viewer

open Library Protocol Auth Net

/-! ## Media of a session -/

/-- A sink keeps what is known of the media. -/
structure MediaSink.KeepsAll {μ : Type} (S : MediaSink μ) (P : μ → Prop) : Prop where
  accept : ∀ m data, P m → P (S.accept m data).2
  restart : ∀ m, P m → P (S.restart m)
  flush : ∀ m, P m → P (S.flush m)

section

variable {π μ α : Type} {C : Crypto} {T : PeerTransport π} {S : MediaSink μ} {P : μ → Prop}

/-- Something is known of the media of a session. -/
def MediaHas (P : μ → Prop) (s : ViewerSession π μ) : Prop := P s.media

namespace MediaHas

theorem onTransport (f : π → Call π α) :
    Preserves (MediaHas P) (ViewerSession.onTransport f : ViewerM π μ α) := by
  intro s h
  unfold after ViewerSession.onTransport
  rcases s.transport with _ | a
  · exact h
  · dsimp only
    rcases (f a.peer).result with e | x
    · exact h
    · exact h

theorem askTransport (f : π → Except NetError α) :
    Preserves (MediaHas P) (ViewerSession.askTransport f : ViewerM π μ α) := by
  refine (Tracked.askTransport_keeps f).preserves fun s s' heq h => ?_
  rwa [show s' = s from heq]

theorem answerChallenge (c : DcIdentityChallenge) :
    Preserves (MediaHas P) (ViewerSession.answerChallenge C T c : ViewerM π μ Unit) := by
  unfold ViewerSession.answerChallenge
  refine Preserves.of_get.bind fun s => ?_
  rcases s.bindKey with _ | key
  · exact Preserves.of_throw _
  dsimp only
  rcases s.sessionId with _ | sid
  · exact Preserves.of_throw _
  dsimp only
  refine (askTransport _).bind fun fp => ?_
  rcases fp with _ | fpHost
  · exact Preserves.of_throw _
  dsimp only
  refine (askTransport _).bind fun fpViewer => ?_
  refine (onTransport _).bind fun _ => ?_
  exact Preserves.of_modify fun s hs => hs

theorem handleIdentityMessages (msgs : List Bytes) :
    Preserves (MediaHas P) (ViewerSession.handleIdentityMessages C T msgs : ViewerM π μ Unit) := by
  induction msgs with
  | nil => exact Preserves.of_pure ()
  | cons data rest ih =>
    refine Preserves.bind ?_ fun _ => ih
    unfold ViewerSession.handleIdentityMessage
    rcases DcIdentityMessage.parse data with e | parsed
    · exact Preserves.of_throw _
    dsimp only
    refine Preserves.bind (Preserves.of_modify fun s hs => hs) fun _ => ?_
    cases parsed with
    | challenge c => exact answerChallenge c
    | response r => exact Preserves.of_throw _

/-- The sink is given the received units, in order. -/
theorem foldl_handleTrack (tracks : List IncomingTrackData) (s : ViewerSession π μ) :
    (tracks.foldl (ViewerSession.handleTrack S) s).media =
      tracks.foldl (fun m data => (S.accept m data).2) s.media := by
  induction tracks generalizing s with
  | nil => rfl
  | cons data tracks ih => exact ih _

theorem drain (hS : S.KeepsAll P) : Preserves (MediaHas P)
    (ViewerSession.drainCallbackBuf C T S : ViewerM π μ Unit) := by
  have hfold : ∀ (tracks : List IncomingTrackData) (m : μ), P m →
      P (tracks.foldl (fun m data => (S.accept m data).2) m) := by
    intro tracks
    induction tracks with
    | nil => exact fun _ h => h
    | cons data tracks ih => exact fun m h => ih _ (hS.accept m data h)
  refine Preserves.of_get.bind fun s => ?_
  refine Preserves.bind (Preserves.of_modify fun s hs => ?_) fun _ => handleIdentityMessages _
  show P (s.takeEvents S).media
  rw [ViewerSession.takeEvents, foldl_handleTrack]
  exact hfold _ _ hs

theorem checkPresentSig (sig : Option String) :
    Preserves (MediaHas P) (ViewerSession.checkPresentSig C sig : ViewerM π μ Unit) := by
  unfold ViewerSession.checkPresentSig
  split
  · refine (Tracked.checkOfferSig_keeps _).preserves fun s s' heq h => ?_
    rwa [show s' = s from heq]
  · exact Preserves.of_pure ()

theorem acceptOffer (hS : S.KeepsAll P) (offer : SessionDescription) (sig : Option String) :
    Preserves (MediaHas P)
      (ViewerSession.acceptOfferWithSig C T S offer sig : ViewerM π μ SessionDescription) := by
  refine Preserves.bind (Preserves.of_modify fun s hs => hs) fun _ => ?_
  refine (checkPresentSig sig).bind fun _ => ?_
  unfold ViewerSession.answerOffer
  refine Preserves.of_get.bind fun s => ?_
  rcases s.transport with _ | a
  · exact Preserves.of_throw _
  dsimp only
  refine Preserves.bind (Preserves.of_modify fun s hs => hs) fun _ => ?_
  refine (onTransport _).bind fun _ => (askTransport _).bind fun fp => ?_
  refine Preserves.bind (Preserves.of_modify fun s hs => hs) fun _ => ?_
  exact (onTransport _).bind fun answer => (onTransport _).bind fun _ =>
    (drain hS).bind fun _ => Preserves.of_pure answer

theorem poll (hS : S.KeepsAll P) :
    Preserves (MediaHas P) (ViewerSession.poll C T S : ViewerM π μ Unit) := by
  refine Preserves.bind (fun s hs => ?_) fun _ => (drain hS).bind fun _ => ?_
  · unfold after ViewerSession.pollTransport
    rcases s.transport with _ | a
    · exact hs
    · exact onTransport _ s hs
  · exact Preserves.of_modify fun s hs => hs

theorem sendInput (msg : DataMessage) :
    Preserves (MediaHas P) (ViewerSession.sendInput T msg : ViewerM π μ Unit) := by
  refine Preserves.of_get.bind fun s => ?_
  rcases s.ensureCanSendInput with e | _
  · exact Preserves.of_throw _
  · exact onTransport _

theorem teardown {s : ViewerSession π μ} (h : MediaHas P s) :
    MediaHas P (s.teardownTransport T) := by
  unfold ViewerSession.teardownTransport MediaHas
  rcases s.transport with _ | a
  · exact h
  · exact h

end MediaHas

/-- **A session does nothing to its media but what the sink offers.** -/
theorem ViewerEvent.perform_media (hS : S.KeepsAll P) {s : ViewerSession π μ} (h : P s.media)
    (e : ViewerEvent π) : P (e.perform C T S s).media := by
  cases e with
  | setHostVerifyingKey key => exact h
  | setBindKey key => exact h
  | setRequireIdentityForInput require => exact h
  | markSessionAuthorized => exact h
  | beginConnect req =>
    show P (after (ViewerSession.beginConnect T S req) s).media
    unfold after ViewerSession.beginConnect
    rcases connectStub req with e | stub
    · exact h
    · exact hS.restart _ (MediaHas.teardown h)
  | attachTransport p => exact MediaHas.teardown (T := T) h
  | acceptOffer offer sig => exact MediaHas.acceptOffer hS offer sig s h
  | addRemoteIce candidate =>
    exact ((MediaHas.onTransport _).bind fun _ => MediaHas.drain hS) s h
  | takePendingLocalIce => exact h
  | sendInput msg => exact MediaHas.sendInput msg s h
  | poll => exact MediaHas.poll hS s h
  | close => exact hS.flush _ (MediaHas.teardown (T := T) h)
  | callback cs =>
    simp only [ViewerEvent.perform]
    split_ifs
    · exact h
    · exact h

end

/-! ## The system -/

/-- The buffers of a live session, with what has happened to them, oldest first. -/
structure LiveMedia where
  buffers : MediaBuffers
  past : List MediaCall

/-- Something happens to the buffers. -/
def LiveMedia.call (m : LiveMedia) (c : MediaCall) : LiveMedia := ⟨m.buffers.call c, m.past ++ [c]⟩

/-- The buffers as the sink of a session. -/
def liveMediaSink : MediaSink LiveMedia where
  accept m data := ((m.buffers.handleTrack data).1, m.call (.handle data))
  restart m := m.call .restart
  flush m := m.call .flush

/-- An event of a session, or a call that drains it or sets how it plays. -/
inductive BufferEvent (π : Type) where
  | session (e : ViewerEvent π)
  | drainVideoFrames
  | drainAudio
  | pumpPlayout (max : Nat)
  | setAutoPlayout (enabled : Bool)

/-- The session after an event. -/
def BufferEvent.perform {π : Type} (C : Crypto) (T : PeerTransport π)
    (s : ViewerSession π LiveMedia) : BufferEvent π → ViewerSession π LiveMedia
  | .session e => e.perform C T liveMediaSink s
  | .drainVideoFrames => { s with media := s.media.call .drainVideoFrames }
  | .drainAudio => { s with media := s.media.call .drainAudio }
  | .pumpPlayout max => { s with media := s.media.call (.pumpPlayout max) }
  | .setAutoPlayout enabled => { s with media := s.media.call (.setAutoPlayout enabled) }

/-- All sequences of calls on a new session with a record limit. -/
def bufferSystem {π : Type} (C : Crypto) (T : PeerTransport π) (n : Nat) :
    System (ViewerSession π LiveMedia) (BufferEvent π) where
  init s := s = .new ⟨.new (some n), []⟩
  step s e := some (e.perform C T s)

/-- The buffers are those that their past leads to. -/
def Replayed (n : Nat) (m : LiveMedia) : Prop :=
  m.buffers = m.past.foldl MediaBuffers.call (.new (some n))

theorem Replayed.call {n : Nat} {m : LiveMedia} (h : Replayed n m) (c : MediaCall) :
    Replayed n (m.call c) := by
  show m.buffers.call c = (m.past ++ [c]).foldl MediaBuffers.call _
  rw [List.foldl_append, ← h]
  rfl

theorem Replayed.keepsAll (n : Nat) : liveMediaSink.KeepsAll (Replayed n) where
  accept _ data h := h.call (.handle data)
  restart _ h := h.call .restart
  flush _ h := h.call .flush

section

variable {π : Type} {C : Crypto} {T : PeerTransport π} {n : Nat}

/-- **The buffers of every reached session are those that their past leads to.** -/
theorem replayed_of_reachable {s : ViewerSession π LiveMedia}
    (h : (bufferSystem C T n).Reachable s) : Replayed n s.media := by
  refine h.invariant (fun s => Replayed n s.media) (fun s hs => ?_) fun s e s' hi _ hstep => ?_
  · obtain rfl : s = .new ⟨.new (some n), []⟩ := hs
    rfl
  · obtain rfl := Option.some.inj hstep
    cases e with
    | session e => exact e.perform_media (Replayed.keepsAll n) hi
    | drainVideoFrames => exact hi.call _
    | drainAudio => exact hi.call _
    | pumpPlayout max => exact hi.call _
    | setAutoPlayout enabled => exact hi.call _

/-- The units that were left in the decoder and the sink of a session: video units with data, and
audio packets that were played. -/
def leftBehind (n : Nat) (s : ViewerSession π LiveMedia) : Nat :=
  (MediaBuffers.new (some n)).grown s.media.past

/-- What a reached session keeps, and what was left in its decoder and its sink. -/
theorem live_buffers_account {s : ViewerSession π LiveMedia}
    (h : (bufferSystem C T n).Reachable s) :
    leftBehind n s ≤ s.media.buffers.retained ∧
      s.media.buffers.retained ≤ 2 * n + 96 + 2 * leftBehind n s := by
  have hreplayed : s.media.buffers = _ := replayed_of_reachable h
  rw [hreplayed]
  exact MediaBuffers.retained_bounds n s.media.past

/-- **What a live viewer keeps is bounded exactly if what is left in its decoder and its sink is.**
Over any set of reached sessions with a record limit, the units that a session keeps have a bound
if and only if the video units with data and the packets played have one; without any of these
nothing exceeds the limits of the recordings and the queues. -/
theorem live_buffers_bounded (C : Crypto) (T : PeerTransport π) (n : Nat)
    (reached : ViewerSession π LiveMedia → Prop)
    (hreached : ∀ s, reached s → (bufferSystem C T n).Reachable s) :
    ((∃ bound, ∀ s, reached s → s.media.buffers.retained ≤ bound) ↔
      ∃ bound, ∀ s, reached s → leftBehind n s ≤ bound) ∧
    ∀ s, reached s → leftBehind n s = 0 → s.media.buffers.retained ≤ 2 * n + 96 := by
  refine ⟨⟨?_, ?_⟩, ?_⟩
  · rintro ⟨bound, hbound⟩
    refine ⟨bound, fun s hs => ?_⟩
    exact (live_buffers_account (hreached s hs)).1.trans (hbound s hs)
  · rintro ⟨bound, hbound⟩
    refine ⟨2 * n + 96 + 2 * bound, fun s hs => ?_⟩
    have hle := (live_buffers_account (hreached s hs)).2
    have hleft := hbound s hs
    omega
  · intro s hs hnone
    have hle := (live_buffers_account (hreached s hs)).2
    rwa [hnone] at hle

end

/-- Sessions that have left ten units behind at most. -/
theorem live_buffers_bounded_ten :
    ∃ bound, ∀ s, (bufferSystem .windowed mockTransport 3).Reachable s ∧ leftBehind 3 s ≤ 10 →
      s.media.buffers.retained ≤ bound :=
  (live_buffers_bounded .windowed mockTransport 3
    (fun s => (bufferSystem .windowed mockTransport 3).Reachable s ∧ leftBehind 3 s ≤ 10)
    fun _ h => h.1).1.mpr ⟨10, fun _ h => h.2⟩

/-! ### Floods -/

section

variable {π : Type} {C : Crypto} {T : PeerTransport π}

/-- A media unit that is called back waits behind those before it, and nothing else changes. -/
theorem deliver_tracks (buf : EventBuf) (tracks : List IncomingTrackData) :
    buf.deliver (tracks.map .track) = { buf with tracks := buf.tracks ++ tracks } := by
  induction tracks generalizing buf with
  | nil => exact congrArg (fun t => { buf with tracks := t }) (List.append_nil _).symm
  | cons data tracks ih =>
    refine (ih _).trans ?_
    exact congrArg (fun t => { buf with tracks := t }) (List.append_assoc _ _ _)

/-- Taking in units leaves at least so many in the decoder and the sink. -/
theorem hoard_foldl {n : Nat} {m : LiveMedia} (h : MediaBuffers.Capped n m.buffers)
    {data : IncomingTrackData} (hgrowth : ∀ b : MediaBuffers, 1 ≤ b.growth (.handle data))
    (k : Nat) :
    m.buffers.hoard + k ≤ ((List.replicate k data).foldl
      (fun m data => (liveMediaSink.accept m data).2) m).buffers.hoard := by
  induction k generalizing m with
  | zero => exact Nat.le_refl _
  | succ k ih =>
    obtain ⟨hcapped, hge, -⟩ := h.call (.handle data)
    have hrest := @ih (m.call (.handle data)) hcapped
    have hone := hgrowth m.buffers
    rw [List.replicate_succ, List.foldl_cons]
    refine le_trans ?_ hrest
    show _ ≤ (m.buffers.call (.handle data)).hoard + k
    omega

/-- **A session that polls takes in all that waits.** -/
theorem poll_hoard {s : ViewerSession π LiveMedia} {a : Attachment π} (ha : s.transport = some a)
    (hpoll : T.poll a.peer = ⟨.ok (), a.peer, []⟩) {n : Nat}
    (h : MediaBuffers.Capped n s.media.buffers) {data : IncomingTrackData}
    (hgrowth : ∀ b : MediaBuffers, 1 ≤ b.growth (.handle data)) {k : Nat}
    (htracks : s.callbacks.tracks = List.replicate k data) (hdata : s.callbacks.data = []) :
    k ≤ ((ViewerEvent.poll : ViewerEvent π).perform C T liveMediaSink s).media.buffers.hoard := by
  have hpolled : ViewerSession.pollTransport T s =
      .ok () { s with transport := some (a.report []) } := by
    unfold ViewerSession.pollTransport
    rw [ha]
    show ViewerSession.onTransport T.poll s = _
    unfold ViewerSession.onTransport
    rw [ha]
    dsimp only
    rw [hpoll]
    rfl
  show k ≤ (after (ViewerSession.pollTransport T >>= fun _ =>
    ViewerSession.drainCallbackBuf C T liveMediaSink >>= fun _ =>
      modify ViewerSession.syncBindStatus) s).media.buffers.hoard
  rw [after, bind_of_ok hpolled]
  have hdrained : ViewerSession.drainCallbackBuf C T liveMediaSink
      { s with transport := some (a.report []) } =
      .ok () (ViewerSession.takeEvents liveMediaSink
        { s with transport := some (a.report []) }) := by
    show ViewerSession.handleIdentityMessages C T
      ((s.callbacks.data.filter fun m => m.label = identityChannelLabel).map DataMessage.data) _ = _
    rw [hdata]
    rfl
  rw [bind_of_ok hdrained, modify_ok]
  show k ≤ (ViewerSession.takeEvents liveMediaSink
    { s with transport := some (a.report []) }).media.buffers.hoard
  rw [ViewerSession.takeEvents, MediaHas.foldl_handleTrack]
  show k ≤ (s.callbacks.tracks.foldl (fun m data => (liveMediaSink.accept m data).2)
    s.media).buffers.hoard
  rw [htracks]
  exact (Nat.le_add_left _ _).trans (hoard_foldl h hgrowth k)

end

/-- A video unit with a byte of data. -/
def floodUnit : IncomingTrackData := .video ⟨0, none, true, .annexB, [7]⟩

/-- **No bound holds for all live viewers**, whatever the record limit: a session that is sent
enough video units keeps more than it. -/
theorem live_buffers_grow : ¬∃ bound : Nat → Nat, ∀ n s,
    (bufferSystem .windowed mockTransport n).Reachable s →
      s.media.buffers.retained ≤ bound n := by
  rintro ⟨bound, hbound⟩
  have hattached : (bufferSystem .windowed mockTransport 0).Reachable
      ((ViewerSession.new ⟨.new (some 0), []⟩).attachTransport mockTransport localPeer) :=
    .step (e := .session (.attachTransport localPeer)) (.init rfl) trivial rfl
  have hcalled : (bufferSystem .windowed mockTransport 0).Reachable
      (((ViewerSession.new ⟨.new (some 0), []⟩).attachTransport mockTransport localPeer).called
        ((List.replicate (bound 0 + 1) floodUnit).map .track)) :=
    .step (e := .session (.callback ((List.replicate (bound 0 + 1) floodUnit).map .track)))
      hattached trivial rfl
  have hpolled := System.ReachableVia.step (e := .session .poll) hcalled trivial rfl
  have hle := hbound 0 _ hpolled
  have htracks : (((ViewerSession.new ⟨.new (some 0), []⟩).attachTransport mockTransport
      localPeer).called ((List.replicate (bound 0 + 1) floodUnit).map .track) :
        ViewerSession MockPeer LiveMedia).callbacks =
      { EventBuf.empty with tracks := [] ++ List.replicate (bound 0 + 1) floodUnit } :=
    deliver_tracks .empty _
  have hhoard := @poll_hoard MockPeer .windowed mockTransport
    (((ViewerSession.new ⟨.new (some 0), []⟩).attachTransport mockTransport localPeer).called
        ((List.replicate (bound 0 + 1) floodUnit).map .track)) _ rfl (by rfl) 0
    (MediaBuffers.capped_new 0) floodUnit (fun _ => Nat.le_refl 1) (bound 0 + 1)
    (by rw [htracks]; rfl) (by rw [htracks]; rfl)
  have hretained : ∀ m : MediaBuffers, m.hoard ≤ m.retained := by
    intro m
    unfold MediaBuffers.hoard MediaBuffers.retained
    omega
  exact absurd ((hhoard.trans (hretained _)).trans hle) (by omega)

end RemoteLink.Viewer
