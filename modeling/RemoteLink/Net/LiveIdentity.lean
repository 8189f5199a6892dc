import RemoteLink.Library.Trace
import RemoteLink.Net.Live

set_option autoImplicit false

/-!
# Identity before data on the live transport

A Hello is checked against the fingerprint of the remote description when a poll handles it.
Media and data are handed on as they come, so that they are identified only when the peer sends its
Hello first and the session does not poll again after a Hello that did not match.

## Main definitions

* `Identified` — media and data, and the connected state, come after a Hello that matches the
  remote description, and media and data after no Hello that did not.
* `Ready` — the frames that wait may be handled.
* `KeepsIdentity` — the condition on the steps of a run.

## Main results

* `Kept.handleBatch` — a batch that may be handled.
* `not_identified_of_not_ready` — any other batch.
* `live_identity_first` — identity before data in every run that keeps to the condition.
-/

namespace RemoteLink.Net

open Library Protocol

variable {N : LiveNet} {p : LivePeer}

/-! ## Identified entries -/

/-- The fingerprint of a remote description. -/
def remoteFingerprintOf (N : LiveNet) (remote : Option SessionDescription) :
    Option DtlsFingerprint :=
  remote.bind fun desc => (LiveSdp.fingerprintOf N desc.sdp).toOption

/-- A Hello carries the fingerprint of a remote description. -/
def Matches (N : LiveNet) (hex : String) (remote : Option SessionDescription) : Prop :=
  ∃ fp, remoteFingerprintOf N remote = some fp ∧ DtlsFingerprint.sha256 hex = .ok fp

/-- A Hello that was handled carries the fingerprint of a remote description. -/
def Greets (N : LiveNet) (before : List Handled) (remote : Option SessionDescription) : Prop :=
  ∃ g ∈ before, ∃ hex, g.seen = .hello hex ∧ Matches N hex remote

/-- A Hello that was handled did not carry the fingerprint of the remote description of its time. -/
def Rejects (N : LiveNet) (before : List Handled) : Prop :=
  ∃ g ∈ before, ∃ hex, g.seen = .hello hex ∧ ¬Matches N hex g.remote

/-- Whether an entry hands on media or data. -/
def Seen.isPayload : Seen → Bool
  | .callback (.track _) | .callback (.data _) => true
  | _ => false

/-- Whether an entry reports the connected state. -/
def Seen.isConnected : Seen → Bool
  | .callback (.connectionState .connected) => true
  | _ => false

/-- Media and data, and the connected state, come after a Hello that matches the remote description;
media and data come after no Hello that did not match. -/
structure Identified (N : LiveNet) (before : List Handled) (h : Handled) : Prop where
  greeted : h.seen.isPayload = true ∨ h.seen.isConnected = true → Greets N before h.remote
  notRejected : h.seen.isPayload = true → ¬Rejects N before

/-- An entry that is neither. -/
theorem identified_of_quiet {before : List Handled} {h : Handled} (hp : h.seen.isPayload = false)
    (hc : h.seen.isConnected = false) : Identified N before h := by
  refine ⟨fun hor => ?_, fun hpay => ?_⟩
  · rcases hor with hpay | hcon
    · rw [hp] at hpay
      cases hpay
    · rw [hc] at hcon
      cases hcon
  · rw [hp] at hpay
    cases hpay

theorem Greets.append {t u : List Handled} {remote : Option SessionDescription}
    (h : Greets N t remote) : Greets N (t ++ u) remote := by
  obtain ⟨g, hg, hhello⟩ := h
  exact ⟨g, List.mem_append_left u hg, hhello⟩

theorem Rejects.append {t u : List Handled} (h : Rejects N t) : Rejects N (t ++ u) := by
  obtain ⟨g, hg, hhello⟩ := h
  exact ⟨g, List.mem_append_left u hg, hhello⟩

/-- A callback is no Hello. -/
theorem rejects_call {t : List Handled} {c : PeerCallback} {remote : Option SessionDescription}
    (h : Rejects N (t ++ [⟨.callback c, remote⟩])) : Rejects N t := by
  obtain ⟨g, hg, hex, hseen, hne⟩ := h
  rcases List.mem_append.mp hg with hg | hg
  · exact ⟨g, hg, hex, hseen, hne⟩
  · obtain rfl := List.mem_singleton.mp hg
    cases hseen

/-- A Hello that matches rejects nothing. -/
theorem rejects_hello {t : List Handled} {hex : String} {remote : Option SessionDescription}
    (hm : Matches N hex remote) (h : Rejects N (t ++ [⟨.hello hex, remote⟩])) : Rejects N t := by
  obtain ⟨g, hg, hex', hseen, hne⟩ := h
  rcases List.mem_append.mp hg with hg | hg
  · exact ⟨g, hg, hex', hseen, hne⟩
  · obtain rfl := List.mem_singleton.mp hg
    obtain rfl := Seen.hello.inj hseen
    exact absurd hm hne

/-! ## The condition -/

/-- Whether a frame carries media or data. -/
def WireMsg.isPayload : WireMsg → Bool
  | .video _ | .audio _ | .data _ => true
  | .peerClose | .hello _ => false

/-- Whether a Hello is accepted. -/
def accepts (expected : Option DtlsFingerprint) (hex : String) : Bool :=
  match DtlsFingerprint.sha256 hex with
  | .error _ => false
  | .ok fp => expected.all fun e => decide (e = fp)

/-- Whether a batch goes on after a frame. -/
def goesOn (expected : Option DtlsFingerprint) : WireMsg → Bool
  | .peerClose => false
  | .hello hex => accepts expected hex
  | _ => true

/-- The frames that wait for a poll. -/
def LivePeer.waiting (p : LivePeer) : List WireMsg :=
  if p.isClosed then [] else (p.inbound.map Inbound.queue).getD []

/-- The frames may be handled: as long as no Hello has matched the remote description, the first of
them carries neither media nor data; once a Hello has not matched, none of them does up to the next
close or Hello that does not match. -/
structure Ready (N : LiveNet) (p : LivePeer) (msgs : List WireMsg) : Prop where
  greeted : ¬Greets N p.trace p.remoteDesc → ∀ m ∈ msgs.head?, m.isPayload = false
  rejected : Rejects N p.trace →
    ∀ m ∈ msgs.takeWhile (goesOn p.expectedRemoteFp), m.isPayload = false

/-- The condition: a poll finds frames that may be handled, a connected peer restarts its candidates
only after a Hello that matches the remote description, and no remote description fails at its
listen address after its fingerprint, a new one, has been taken over. -/
def KeepsIdentity (N : LiveNet) (p : LivePeer) : LiveEvent → Prop
  | .poll => Ready N p p.waiting
  | .restartIce => p.isClosed = false → p.state = .connected → p.listenAddr ≠ none →
      Greets N p.trace p.remoteDesc
  | .setRemoteDescription desc _ => p.isClosed = false → ∀ live fp e,
      LiveSdp.parse N desc.sdp = .ok live → live.sha256 = .ok fp → live.listenAddr N = .error e →
      p.expectedRemoteFp = some fp
  | _ => True

/-! ## The invariant -/

/-- The expected fingerprint is that of the remote description, a stream is attached only with one,
the connected state has been reported, and every entry of the trace is identified. -/
structure Kept (N : LiveNet) (p : LivePeer) : Prop where
  expected : p.expectedRemoteFp = remoteFingerprintOf N p.remoteDesc
  described : p.remoteDesc ≠ none → p.expectedRemoteFp ≠ none
  attached : p.inbound ≠ none → p.remoteDesc ≠ none
  reported : p.state = .connected → ∃ h ∈ p.trace, h.seen.isConnected = true
  identified : Justified (Identified N) p.trace

namespace Kept

variable {p' : LivePeer}

theorem new (role : PeerRole) (bind : String) (advertiseHost : Option String)
    (localFp : DtlsFingerprint) (ufrag pwd : String) :
    Kept N (.new role bind advertiseHost localFp ufrag pwd) where
  expected := rfl
  described h := absurd rfl h
  attached h := absurd rfl h
  reported h := by cases h
  identified := .nil

/-- Changes elsewhere. -/
theorem congr (h : Kept N p) (he : p'.expectedRemoteFp = p.expectedRemoteFp)
    (hr : p'.remoteDesc = p.remoteDesc) (hi : p'.inbound ≠ none → p.remoteDesc ≠ none)
    (hs : p'.state = p.state) (ht : p'.trace = p.trace) : Kept N p' where
  expected := by rw [he, hr, h.expected]
  described hne := by
    rw [he]
    exact h.described (hr ▸ hne)
  attached hne := by
    rw [hr]
    exact hi hne
  reported hc := by
    rw [ht]
    exact h.reported (hs ▸ hc)
  identified := by
    rw [ht]
    exact h.identified

/-- One more entry. -/
theorem note (h : Kept N p) {x : Seen} (hx : Identified N p.trace ⟨x, p.remoteDesc⟩) :
    Kept N (p.note x) where
  expected := h.expected
  described := h.described
  attached := h.attached
  reported hc := by
    obtain ⟨g, hg, hcon⟩ := h.reported hc
    exact ⟨g, List.mem_append_left _ hg, hcon⟩
  identified := justified_concat.mpr ⟨h.identified, hx⟩

/-- Another state, reported. -/
theorem emitState (h : Kept N p) {state : ConnectionState}
    (hs : state = .connected → Greets N p.trace p.remoteDesc) : Kept N (p.emitState state) where
  expected := h.expected
  described := h.described
  attached := h.attached
  reported hc := by
    refine ⟨_, List.mem_append_right _ (List.mem_singleton.mpr rfl), ?_⟩
    obtain rfl : state = .connected := hc
    rfl
  identified := by
    refine justified_concat.mpr ⟨h.identified, fun hor => ?_, fun hpay => by cases hpay⟩
    rcases hor with hpay | hcon
    · cases hpay
    · refine hs ?_
      cases state with
      | connected => rfl
      | _ => cases hcon

theorem leaveNew (h : Kept N p) : Kept N p.leaveNew := by
  unfold LivePeer.leaveNew
  split_ifs
  · exact h.emitState (by simp)
  · exact h

theorem disconnect (h : Kept N p) : Kept N p.disconnect := by
  unfold LivePeer.disconnect
  split_ifs
  · exact h.emitState (by simp)
  · exact h

theorem emitLocalHostCandidate (h : Kept N p) (addr : SocketAddr) :
    Kept N (p.emitLocalHostCandidate addr) :=
  h.note (identified_of_quiet rfl rfl)

theorem reportCandidate (h : Kept N p) : Kept N p.reportCandidate := by
  unfold LivePeer.reportCandidate
  rcases p.listenAddr with _ | addr
  · exact h
  · exact h.emitLocalHostCandidate addr

/-! ### Establishing the stream -/

/-- A kept peer with a remote description. -/
def Described (N : LiveNet) (p : LivePeer) : Prop := Kept N p ∧ p.remoteDesc ≠ none

/-- **A stream is attached to a peer with a remote description.** -/
theorem attachStream (io : LiveIo) : Preserves (Described N) (LivePeer.attachStream io) := by
  unfold LivePeer.attachStream
  refine (Preserves.of_except _).bind fun _ => (Preserves.of_except _).bind fun _ => ?_
  refine Preserves.of_get.bind fun p => (Preserves.of_except _).bind fun hello => ?_
  refine (Preserves.of_except _).bind fun _ => (Preserves.of_except _).bind fun _ => ?_
  refine Preserves.of_modify fun q ⟨h, hr⟩ => ⟨?_, hr⟩
  exact h.congr rfl rfl (fun _ => hr) rfl rfl

theorem finishAccept (io : LiveIo) : Preserves (Described N) (LivePeer.finishAccept io) := by
  unfold LivePeer.finishAccept
  refine Preserves.of_get.bind fun p => ?_
  split_ifs
  · rcases io.accept with _ | e | _ | _
    · refine Preserves.bind (Preserves.of_modify fun q ⟨h, hr⟩ => ⟨?_, hr⟩) fun _ => attachStream io
      exact h.congr rfl rfl h.attached rfl rfl
    · exact Preserves.of_throw _
    · exact Preserves.of_throw _
    · exact Preserves.of_throw _
  · exact Preserves.of_throw _

theorem dialRemote (io : LiveIo) : Preserves (Described N) (LivePeer.dialRemote io) := by
  unfold LivePeer.dialRemote
  refine Preserves.of_get.bind fun p => ?_
  rcases p.remoteListen with _ | addr
  · exact Preserves.of_throw _
  · exact (Preserves.of_except _).bind fun _ => attachStream io

theorem tryEstablish (io : LiveIo) : Preserves (Kept N) (LivePeer.tryEstablish io) := by
  intro p h
  unfold LivePeer.tryEstablish
  rw [after_get_bind]
  split_ifs with hskip
  · exact h
  · have hr : p.remoteDesc ≠ none := by
      intro hnone
      exact hskip (.inr (.inr (.inl (by simp [hnone]))))
    rcases p.role with _ | _
    · exact (finishAccept io p ⟨h, hr⟩).1
    · exact (dialRemote io p ⟨h, hr⟩).1

/-! ### Descriptions and candidates -/

theorem ensureOpen : Preserves (Kept N) LivePeer.ensureOpen := by
  intro p h
  unfold after LivePeer.ensureOpen
  split_ifs
  · exact h
  · exact h

theorem spawnAccept (io : LiveIo) : Preserves (Kept N) (LivePeer.spawnAccept io) := by
  unfold LivePeer.spawnAccept
  refine Preserves.of_get.bind fun p => ?_
  split_ifs
  · exact Preserves.of_pure ()
  · refine (Preserves.of_except _).bind fun _ => Preserves.of_modify fun q h => ?_
    exact h.congr rfl rfl h.attached rfl rfl

theorem bindListener (io : LiveIo) : Preserves (Kept N) (LivePeer.bindListener io) := by
  unfold LivePeer.bindListener
  refine Preserves.of_get.bind fun p => ?_
  rcases p.listenAddr with _ | addr
  · refine (Preserves.of_except _).bind fun _ => (Preserves.of_except _).bind fun addr => ?_
    refine Preserves.bind (Preserves.of_modify fun q h => ?_) fun _ => ?_
    · exact h.congr rfl rfl h.attached rfl rfl
    · split_ifs
      · exact (spawnAccept io).bind fun _ => Preserves.of_pure addr
      · exact Preserves.of_pure addr
  · exact Preserves.of_pure addr

theorem createOffer (io : LiveIo) : Preserves (Kept N) (LivePeer.createOffer N io) := by
  unfold LivePeer.createOffer
  refine ensureOpen.bind fun _ => Preserves.of_get.bind fun p => ?_
  split_ifs
  · exact Preserves.of_throw _
  · exact (bindListener io).bind fun addr => Preserves.of_except _

theorem createAnswer (io : LiveIo) : Preserves (Kept N) (LivePeer.createAnswer N io) := by
  unfold LivePeer.createAnswer
  refine ensureOpen.bind fun _ => Preserves.of_get.bind fun p => ?_
  split_ifs
  · exact Preserves.of_throw _
  · exact Preserves.of_throw _
  · refine Preserves.bind (Preserves.of_modify fun q h => ?_) fun _ => Preserves.of_except _
    exact h.congr rfl rfl h.attached rfl rfl

theorem setLocalDescription (desc : SessionDescription) (io : LiveIo) :
    Preserves (Kept N) (LivePeer.setLocalDescription N desc io) := by
  unfold LivePeer.setLocalDescription
  refine ensureOpen.bind fun _ => (Preserves.of_except _).bind fun _ => ?_
  refine (Preserves.of_except _).bind fun _ => ?_
  refine Preserves.bind (Preserves.of_modify fun q h => ?_) fun _ => tryEstablish io
  have hset : Kept N { q with localDesc := some desc } := h.congr rfl rfl h.attached rfl rfl
  exact hset.leaveNew.reportCandidate

theorem addIceCandidate (candidate : IceCandidate) (io : LiveIo) :
    Preserves (Kept N) (LivePeer.addIceCandidate N candidate io) := by
  unfold LivePeer.addIceCandidate
  refine ensureOpen.bind fun _ => ?_
  split_ifs
  · exact Preserves.of_throw _
  · refine Preserves.bind (Preserves.of_modify fun q h => ?_) fun _ => tryEstablish io
    exact h.congr rfl rfl h.attached rfl rfl

theorem takeOver_ok {live : LiveSdp} {fp : DtlsFingerprint} {addr : Option SocketAddr}
    (hfp : live.sha256 = .ok fp) (haddr : live.listenAddr N = .ok addr) (p : LivePeer) :
    LivePeer.takeOver N live p =
      .ok () { p with expectedRemoteFp := some fp, remoteListen := addr.or p.remoteListen } := by
  unfold LivePeer.takeOver
  rw [hfp, haddr]
  rfl

/-- Taking over a remote description: it fails and changes nothing, or fails at its listen address
with the fingerprint taken over, or takes over both. -/
theorem applyRemoteSdp_cases (desc : SessionDescription) (p : LivePeer) :
    (∃ e, LivePeer.applyRemoteSdp N desc p = .error e p) ∨
    (∃ live fp e, LiveSdp.parse N desc.sdp = .ok live ∧ live.sha256 = .ok fp ∧
      live.listenAddr N = .error e ∧
      LivePeer.applyRemoteSdp N desc p = .error e { p with expectedRemoteFp := some fp }) ∨
    ∃ fp remoteListen, LiveSdp.fingerprintOf N desc.sdp = .ok fp ∧
      LivePeer.applyRemoteSdp N desc p =
        .ok () { p with expectedRemoteFp := some fp, remoteListen } := by
  unfold LivePeer.applyRemoteSdp LiveSdp.fingerprintOf
  rcases hparse : LiveSdp.parse N desc.sdp with e | live
  · exact .inl ⟨e, rfl⟩
  rw [ofExcept_ok_bind]
  rcases hfp : live.sha256 with e | fp
  · refine .inl ⟨e, ?_⟩
    unfold LivePeer.takeOver
    rw [hfp]
    rfl
  rcases haddr : live.listenAddr N with e | addr
  · refine .inr (.inl ⟨live, fp, e, rfl, hfp, haddr, ?_⟩)
    unfold LivePeer.takeOver
    rw [hfp, haddr]
    rfl
  · exact .inr (.inr ⟨fp, addr.or p.remoteListen, hfp, takeOver_ok hfp haddr p⟩)

/-- **A remote description is taken over whole**, or leaves the fingerprint as it is. -/
theorem setRemoteDescription {desc : SessionDescription} {io : LiveIo} (h : Kept N p)
    (hc : KeepsIdentity N p (.setRemoteDescription desc io)) :
    Kept N (after (LivePeer.setRemoteDescription N desc io) p) := by
  unfold LivePeer.setRemoteDescription
  by_cases hclosed : p.isClosed = true
  · have hopen : LivePeer.ensureOpen p = .error .closed p := if_pos hclosed
    rw [after_bind, hopen]
    exact h
  have hopen : LivePeer.ensureOpen p = .ok () p := if_neg hclosed
  rw [after_bind, hopen]
  rcases LivePeer.checkNotEmpty desc with e | _
  · exact h
  rcases applyRemoteSdp_cases desc p with ⟨e, heq⟩ | ⟨live, fp, e, hparse, hfp, haddr, heq⟩ |
    ⟨fp, remoteListen, hfp, heq⟩
  · show Kept N (after (LivePeer.applyRemoteSdp N desc >>= fun _ => _) p)
    rw [after_bind, heq]
    exact h
  · show Kept N (after (LivePeer.applyRemoteSdp N desc >>= fun _ => _) p)
    rw [after_bind, heq]
    have hsame : p.expectedRemoteFp = some fp :=
      hc (by simpa using hclosed) live fp e hparse hfp haddr
    exact h.congr hsame.symm rfl h.attached rfl rfl
  · show Kept N (after (LivePeer.applyRemoteSdp N desc >>= fun _ => _) p)
    rw [after_bind, heq]
    have hset : Kept N { p with
        expectedRemoteFp := some fp, remoteListen, remoteDesc := some desc } := by
      refine ⟨?_, fun _ => by simp, fun _ => by simp, h.reported, h.identified⟩
      show some fp = remoteFingerprintOf N (some desc)
      rw [remoteFingerprintOf, Option.bind_some, hfp]
      rfl
    exact tryEstablish io _ hset.leaveNew

/-- A restart of the candidates. -/
theorem restartIce (h : Kept N p) (hc : KeepsIdentity N p .restartIce) :
    Kept N (after LivePeer.restartIce p) := by
  unfold LivePeer.restartIce
  by_cases hclosed : p.isClosed = true
  · have hopen : LivePeer.ensureOpen p = .error .closed p := if_pos hclosed
    rw [after_bind, hopen]
    exact h
  have hopen : LivePeer.ensureOpen p = .ok () p := if_neg hclosed
  rw [after_bind, hopen]
  show Kept N p.restarted
  unfold LivePeer.restarted
  rcases haddr : p.listenAddr with _ | addr
  · exact h
  dsimp only
  split_ifs with hstate
  · have hgreets := hc (by simpa using hclosed) hstate (by simp [haddr])
    have hagain : Kept N ((p.emitState .connecting).emitLocalHostCandidate addr) :=
      (h.emitState (by simp)).emitLocalHostCandidate addr
    refine hagain.emitState fun _ => ?_
    show Greets N ((p.trace ++ [_]) ++ [_]) p.remoteDesc
    exact hgreets.append.append
  · exact h.emitLocalHostCandidate addr

/-! ### Traffic -/

theorem sendFrame (kind : UInt8) (body : Bytes) (io : LiveIo) :
    Preserves (Kept N) (LivePeer.sendFrame kind body io) := by
  unfold LivePeer.sendFrame
  refine ensureOpen.bind fun _ => Preserves.of_get.bind fun p => ?_
  split_ifs
  · exact Preserves.of_throw _
  · exact Preserves.of_throw _
  · refine Preserves.bind (Preserves.of_modify fun q h => ?_) fun _ => Preserves.of_except _
    exact h.congr rfl rfl h.attached rfl rfl

theorem send (m : Sent) (io : LiveIo) : Preserves (Kept N) (LivePeer.send m io) := by
  unfold LivePeer.send
  cases m with
  | video n => exact sendFrame kindVideo (encodeVideo n) io
  | audio a => exact sendFrame kindAudio (encodeAudio a) io
  | data m => exact (Preserves.of_except _).bind fun body => sendFrame kindData body io

/-- The receiving side makes progress of its own. -/
theorem onInbound (h : Kept N p) (f : Inbound → Inbound) : Kept N (p.onInbound f) := by
  refine h.congr rfl rfl (fun hi => h.attached ?_) rfl rfl
  intro hnone
  exact hi (by simp [LivePeer.onInbound, hnone])

theorem close (h : Kept N p) : Kept N p.close := by
  unfold LivePeer.close
  split_ifs
  · exact h
  · have hshut : Kept N { p with
        closed := true, writer := none, inbound := none, acceptRx := false } :=
      h.congr rfl rfl (fun hi => absurd rfl hi) rfl rfl
    exact hshut.emitState (by simp)

end Kept

/-! ## Batches -/

/-- A Hello is refused, or accepted with its fingerprint. -/
theorem onHello_cases (hex : String) (p : LivePeer) :
    (accepts p.expectedRemoteFp hex = false ∧
      ∃ e, LivePeer.onHello hex p = .error e (p.note (.hello hex))) ∨
    ∃ fp, accepts p.expectedRemoteFp hex = true ∧ DtlsFingerprint.sha256 hex = .ok fp ∧
      LivePeer.onHello hex p = .ok () ((p.note (.hello hex)).connect fp) := by
  unfold LivePeer.onHello accepts
  rcases hfp : DtlsFingerprint.sha256 hex with e | fp
  · exact .inl ⟨rfl, e, rfl⟩
  have hexpected : (p.note (.hello hex)).expectedRemoteFp = p.expectedRemoteFp := rfl
  dsimp only
  rw [hexpected]
  rcases p.expectedRemoteFp with _ | e
  · exact .inr ⟨fp, rfl, rfl, rfl⟩
  by_cases he : e = fp
  · refine .inr ⟨fp, by simpa using he, rfl, ?_⟩
    rw [Option.filter_some_neg (by simpa using he)]
  · rw [Option.filter_some_pos (by simpa using he)]
    exact .inl ⟨by simpa using he, _, rfl⟩

/-- An accepted Hello matches the remote description. -/
theorem Kept.matches_of_accepts (h : Kept N p) (hr : p.remoteDesc ≠ none) {hex : String}
    (hacc : accepts p.expectedRemoteFp hex = true) : Matches N hex p.remoteDesc := by
  obtain ⟨e, he⟩ := Option.ne_none_iff_exists'.mp (h.described hr)
  unfold accepts at hacc
  rcases hfp : DtlsFingerprint.sha256 hex with err | fp
  · rw [hfp] at hacc
    cases hacc
  · rw [hfp, he] at hacc
    obtain rfl : e = fp := by simpa using hacc
    exact ⟨e, by rw [← h.expected, he], hfp⟩

/-- An accepted Hello connects the peer. -/
theorem Kept.connect (h : Kept N p) (hg : Greets N p.trace p.remoteDesc) (fp : DtlsFingerprint) :
    Kept N (p.connect fp) := by
  have hset : Kept N { p with remoteFp := some fp } := h.congr rfl rfl h.attached rfl rfl
  unfold LivePeer.connect
  dsimp only
  split_ifs
  · exact hset.emitState fun _ => hg
  · exact hset

/-- The state and the reports aside, connecting changes nothing. -/
theorem connect_trace (fp : DtlsFingerprint) (p : LivePeer) :
    (p.connect fp).trace = p.trace ∨
      (p.connect fp).trace = p.trace ++ [⟨.callback (.connectionState .connected), p.remoteDesc⟩] := by
  unfold LivePeer.connect
  dsimp only
  split_ifs
  · exact .inr rfl
  · exact .inl rfl

theorem connect_remoteDesc (fp : DtlsFingerprint) (p : LivePeer) :
    (p.connect fp).remoteDesc = p.remoteDesc := by
  unfold LivePeer.connect
  dsimp only
  split_ifs <;> rfl

theorem connect_expected (fp : DtlsFingerprint) (p : LivePeer) :
    (p.connect fp).expectedRemoteFp = p.expectedRemoteFp := by
  unfold LivePeer.connect
  dsimp only
  split_ifs <;> rfl

/-- A frame with media or data is handed on. -/
theorem handleBatch_payload {m : WireMsg} (hm : m.isPayload = true) (rest : List WireMsg)
    (p : LivePeer) : ∃ c, (Seen.callback c).isPayload = true ∧
      after (LivePeer.handleBatch (m :: rest)) p = after (LivePeer.handleBatch rest) (p.call c) := by
  cases m with
  | video v => exact ⟨.track (.video v), rfl, rfl⟩
  | audio a => exact ⟨.track (.audio a), rfl, rfl⟩
  | data d => exact ⟨.data d, rfl, rfl⟩
  | peerClose => cases hm
  | hello hex => cases hm

theorem goesOn_payload {m : WireMsg} (hm : m.isPayload = true) (expected : Option DtlsFingerprint) :
    goesOn expected m = true := by
  cases m with
  | peerClose => cases hm
  | hello hex => cases hm
  | _ => rfl

namespace Ready

variable {m : WireMsg} {rest : List WireMsg}

theorem nil : Ready N p [] where
  greeted _ _ hm := by cases hm
  rejected _ _ hm := by cases hm

/-- The first frame carries media or data. -/
theorem payload (h : Ready N p (m :: rest)) (hm : m.isPayload = true) :
    Greets N p.trace p.remoteDesc ∧ ¬Rejects N p.trace := by
  constructor
  · by_contra hg
    have hnot := h.greeted hg m rfl
    rw [hm] at hnot
    cases hnot
  · intro hrej
    have hgo := goesOn_payload hm p.expectedRemoteFp
    have hnot := h.rejected hrej m (by simp [List.takeWhile_cons_of_pos hgo])
    rw [hm] at hnot
    cases hnot

/-- The frames after one that the batch goes on after. -/
theorem next (h : Ready N p (m :: rest)) (hgo : goesOn p.expectedRemoteFp m = true) {p' : LivePeer}
    (he : p'.expectedRemoteFp = p.expectedRemoteFp) (hg : Greets N p'.trace p'.remoteDesc)
    (hrej : Rejects N p'.trace → Rejects N p.trace) : Ready N p' rest := by
  refine ⟨fun hnot => absurd hg hnot, fun hr m' hm' => h.rejected (hrej hr) m' ?_⟩
  rw [List.takeWhile_cons_of_pos hgo]
  rw [he] at hm'
  exact List.mem_cons_of_mem m hm'

end Ready

namespace Kept

/-- Handing on a frame that may be handled. -/
theorem deliver {m : WireMsg} {rest : List WireMsg} (h : Kept N p) (hready : Ready N p (m :: rest))
    (hm : m.isPayload = true) (c : PeerCallback) :
    Kept N (p.call c) ∧ Ready N (p.call c) rest := by
  obtain ⟨hg, hrej⟩ := hready.payload hm
  refine ⟨h.note ⟨fun _ => hg, fun _ => hrej⟩, ?_⟩
  exact hready.next (goesOn_payload hm _) rfl hg.append rejects_call

/-- **A batch that may be handled** keeps every entry identified.

**Proof sketch.** By induction on the batch. A frame with media or data may be handled only after a
Hello that matched and none that did not; a Hello that is accepted matches the remote description,
and from then on every frame may be handled; a Hello that is refused ends the batch. -/
theorem handleBatch {msgs : List WireMsg} (h : Kept N p) (hr : p.remoteDesc ≠ none)
    (hready : Ready N p msgs) : Kept N (after (LivePeer.handleBatch msgs) p) := by
  induction msgs generalizing p with
  | nil => exact h
  | cons m rest ih =>
    by_cases hm : m.isPayload = true
    · obtain ⟨c, -, heq⟩ := handleBatch_payload hm rest p
      obtain ⟨hk, hnext⟩ := h.deliver hready hm c
      rw [heq]
      exact ih hk hr hnext
    cases m with
    | peerClose => exact h.disconnect
    | hello hex =>
      have hnote : Kept N (p.note (.hello hex)) := h.note (identified_of_quiet rfl rfl)
      unfold LivePeer.handleBatch
      rw [after_bind]
      rcases onHello_cases hex p with ⟨-, e, heq⟩ | ⟨fp, hacc, -, heq⟩
      · rw [heq]
        exact hnote
      · rw [heq]
        have hmatch := h.matches_of_accepts hr hacc
        have hg : Greets N (p.note (.hello hex)).trace p.remoteDesc :=
          ⟨⟨.hello hex, p.remoteDesc⟩, List.mem_append_right _ (List.mem_singleton.mpr rfl), hex, rfl,
            hmatch⟩
        refine ih (hnote.connect hg fp) (by rwa [connect_remoteDesc]) ?_
        refine hready.next hacc (connect_expected fp _) ?_ fun hrej => ?_
        · rw [connect_remoteDesc]
          rcases connect_trace fp (p.note (.hello hex)) with ht | ht
          · rw [ht]
            exact hg
          · rw [ht]
            exact hg.append
        · rcases connect_trace fp (p.note (.hello hex)) with ht | ht
          · rw [ht] at hrej
            exact rejects_hello hmatch hrej
          · rw [ht] at hrej
            exact rejects_hello hmatch (rejects_call hrej)
    | _ => exact absurd rfl hm

end Kept

/-! ### Other batches -/

/-- The trace starts with `t`. -/
def Extends (t : List Handled) (p : LivePeer) : Prop := t <+: p.trace

theorem extends_emitState {t : List Handled} (h : Extends t p) (state : ConnectionState) :
    Extends t (p.emitState state) :=
  h.trans (List.prefix_append _ _)

theorem extends_disconnect {t : List Handled} (h : Extends t p) : Extends t p.disconnect := by
  unfold LivePeer.disconnect
  split_ifs
  · exact extends_emitState h _
  · exact h

theorem extends_connect {t : List Handled} (h : Extends t p) (fp : DtlsFingerprint) :
    Extends t (p.connect fp) := by
  unfold Extends
  rcases connect_trace fp p with ht | ht
  · rw [ht]
    exact h
  · rw [ht]
    exact h.trans (List.prefix_append _ _)

/-- A batch only adds to the trace. -/
theorem handleBatch_extends (t : List Handled) (msgs : List WireMsg) :
    Preserves (Extends t) (LivePeer.handleBatch msgs) := by
  induction msgs with
  | nil => exact Preserves.of_pure true
  | cons m rest ih =>
    intro p h
    by_cases hm : m.isPayload = true
    · obtain ⟨c, -, heq⟩ := handleBatch_payload hm rest p
      rw [heq]
      exact ih _ (h.trans (List.prefix_append _ _))
    cases m with
    | peerClose => exact extends_disconnect h
    | hello hex =>
      have hnote : Extends t (p.note (.hello hex)) := h.trans (List.prefix_append _ _)
      unfold LivePeer.handleBatch
      rw [after_bind]
      rcases onHello_cases hex p with ⟨-, e, heq⟩ | ⟨fp, -, -, heq⟩
      · rw [heq]
        exact hnote
      · rw [heq]
        exact ih _ (extends_connect hnote fp)
    | _ => exact absurd rfl hm

/-- A frame with media or data is handled before a Hello that matches or after one that does not. -/
theorem not_identified_of_payload {m : WireMsg} (hm : m.isPayload = true) (rest : List WireMsg)
    (h : ¬Greets N p.trace p.remoteDesc ∨ Rejects N p.trace) :
    ¬Justified (Identified N) (after (LivePeer.handleBatch (m :: rest)) p).trace := by
  intro hj
  obtain ⟨c, hc, heq⟩ := handleBatch_payload hm rest p
  rw [heq] at hj
  have hlast : Identified N p.trace ⟨.callback c, p.remoteDesc⟩ :=
    (hj.of_prefix (handleBatch_extends _ rest (p.call c) (List.prefix_refl _))).last
  rcases h with hg | hrej
  · exact hg (hlast.greeted (.inl hc))
  · exact hlast.notRejected hc hrej

/-- After a Hello that did not match, a frame with media or data is reached. -/
theorem not_identified_of_rejected {msgs : List WireMsg} (hrej : Rejects N p.trace) {m : WireMsg}
    (hm : m ∈ msgs.takeWhile (goesOn p.expectedRemoteFp)) (hpay : m.isPayload = true) :
    ¬Justified (Identified N) (after (LivePeer.handleBatch msgs) p).trace := by
  induction msgs generalizing p with
  | nil => cases hm
  | cons first rest ih =>
    by_cases hfirst : first.isPayload = true
    · exact not_identified_of_payload hfirst rest (.inr hrej)
    by_cases hgo : goesOn p.expectedRemoteFp first = true
    · rw [List.takeWhile_cons_of_pos hgo] at hm
      have hrest : m ∈ rest.takeWhile (goesOn p.expectedRemoteFp) := by
        rcases List.mem_cons.mp hm with rfl | hm
        · exact absurd hpay hfirst
        · exact hm
      cases first with
      | peerClose => cases hgo
      | hello hex =>
        unfold LivePeer.handleBatch
        rw [after_bind]
        rcases onHello_cases hex p with ⟨hno, -⟩ | ⟨fp, -, -, heq⟩
        · rw [show goesOn p.expectedRemoteFp (.hello hex) = false from hno] at hgo
          cases hgo
        · rw [heq]
          refine ih ?_ (by rwa [connect_expected])
          rcases connect_trace fp (p.note (.hello hex)) with ht | ht
          · rw [ht]
            exact hrej.append
          · rw [ht]
            exact hrej.append.append
      | _ => exact absurd rfl hfirst
    · rw [List.takeWhile_cons_of_neg hgo] at hm
      cases hm

/-- **A batch that may not be handled** is handled all the same. -/
theorem not_identified_of_not_ready {msgs : List WireMsg} (h : ¬Ready N p msgs) :
    ¬Justified (Identified N) (after (LivePeer.handleBatch msgs) p).trace := by
  intro hj
  refine h ⟨fun hg m hm => ?_, fun hrej m hm => ?_⟩
  · by_contra hpay
    obtain ⟨rest, rfl⟩ : ∃ rest, msgs = m :: rest := by
      cases msgs with
      | nil => cases hm
      | cons first rest =>
        obtain rfl := Option.some.inj hm
        exact ⟨rest, rfl⟩
    exact not_identified_of_payload (by simpa using hpay) rest (.inl hg) hj
  · by_contra hpay
    exact not_identified_of_rejected hrej hm (by simpa using hpay) hj

/-! ## Polls -/

/-- A poll handles what waits, and then may notice that the reader is gone. -/
theorem after_pollBatch (msgs : List WireMsg) (gone : Bool) (p : LivePeer) :
    after (LivePeer.pollBatch msgs gone) p = after (LivePeer.handleBatch msgs) p ∨
      after (LivePeer.pollBatch msgs gone) p = (after (LivePeer.handleBatch msgs) p).disconnect := by
  unfold LivePeer.pollBatch
  rw [after_bind]
  rcases hres : LivePeer.handleBatch msgs p with ⟨whole, p'⟩ | ⟨e, p'⟩
  · rw [after_ok hres]
    dsimp only
    split_ifs
    · exact .inr rfl
    · exact .inl rfl
  · exact .inl (after_error hres).symm

/-- **A poll of frames that may be handled.** -/
theorem Kept.poll (h : Kept N p) (hready : Ready N p p.waiting) :
    Kept N (after LivePeer.poll p) := by
  unfold LivePeer.waiting at hready
  unfold after LivePeer.poll
  split_ifs with hclosed
  · exact h
  rw [if_neg hclosed] at hready
  rcases hi : p.inbound with _ | i
  · exact h
  have hr : p.remoteDesc ≠ none := h.attached (by simp [hi])
  have hemptied : Kept N { p with inbound := some { i with queue := [] } } :=
    h.congr rfl rfl (fun _ => hr) rfl rfl
  have hqueue : Ready N { p with inbound := some { i with queue := [] } } i.queue := by
    rw [hi] at hready
    exact ⟨hready.greeted, hready.rejected⟩
  have hbatch := hemptied.handleBatch hr hqueue
  show Kept N (after (LivePeer.pollBatch i.queue (!i.reading)) _)
  rcases after_pollBatch i.queue (!i.reading) { p with inbound := some { i with queue := [] } } with
    heq | heq
  · rw [heq]
    exact hbatch
  · rw [heq]
    exact hbatch.disconnect

/-- **Every event that meets the condition** keeps every entry identified. -/
theorem Kept.perform (h : Kept N p) {e : LiveEvent} (hc : KeepsIdentity N p e) :
    Kept N (e.perform N p) := by
  cases e with
  | createOffer io => exact createOffer io p h
  | createAnswer io => exact createAnswer io p h
  | setLocalDescription desc io => exact setLocalDescription desc io p h
  | setRemoteDescription desc io => exact h.setRemoteDescription hc
  | addIceCandidate candidate io => exact addIceCandidate candidate io p h
  | restartIce => exact h.restartIce hc
  | send m io => exact send m io p h
  | poll => exact h.poll hc
  | close => exact h.close
  | arrive chunk => exact h.onInbound _
  | hangUp => exact h.onInbound _
  | read => exact h.onInbound _

/-- A poll of other frames. -/
theorem poll_not_identified (h : ¬Ready N p p.waiting) :
    ¬Justified (Identified N) (after LivePeer.poll p).trace := by
  unfold LivePeer.waiting at h
  unfold after LivePeer.poll
  split_ifs at h ⊢ with hclosed
  · exact absurd Ready.nil h
  rcases hi : p.inbound with _ | i
  · rw [hi] at h
    exact absurd Ready.nil h
  rw [hi] at h
  have hqueue : ¬Ready N { p with inbound := some { i with queue := [] } } i.queue :=
    fun hr => h ⟨hr.greeted, hr.rejected⟩
  have hbatch := not_identified_of_not_ready hqueue
  intro hj
  have hj : Justified (Identified N)
      (after (LivePeer.pollBatch i.queue (!i.reading)) _).trace := hj
  rcases after_pollBatch i.queue (!i.reading) { p with inbound := some { i with queue := [] } } with
    heq | heq
  · rw [heq] at hj
    exact hbatch hj
  · rw [heq] at hj
    exact hbatch (hj.of_prefix (extends_disconnect (List.prefix_refl _)))

/-- A restart of the candidates by a connected peer that was not greeted. -/
theorem restartIce_not_identified (h : ¬KeepsIdentity N p .restartIce) :
    ¬Justified (Identified N) (after LivePeer.restartIce p).trace := by
  intro hj
  refine h fun hopen hstate haddr => ?_
  obtain ⟨addr, haddr⟩ := Option.ne_none_iff_exists'.mp haddr
  have hafter : after LivePeer.restartIce p = p.restarted := by
    have hok : LivePeer.ensureOpen p = .ok () p := if_neg (by simp [hopen])
    unfold LivePeer.restartIce
    rw [after_bind, hok]
    rfl
  have htrace : p.restarted.trace = ((p.trace ++
      [⟨.callback (.connectionState .connecting), p.remoteDesc⟩]) ++
      [⟨.callback (.iceCandidate (p.hostCandidate addr)), p.remoteDesc⟩]) ++
      [⟨.callback (.connectionState .connected), p.remoteDesc⟩] := by
    unfold LivePeer.restarted
    rw [haddr]
    dsimp only
    rw [if_pos hstate]
    rfl
  rw [hafter, htrace] at hj
  obtain ⟨g, hg, hex, hseen, hmatch⟩ := hj.last.greeted (.inr rfl)
  rcases List.mem_append.mp hg with hg | hg
  · rcases List.mem_append.mp hg with hg | hg
    · exact ⟨g, hg, hex, hseen, hmatch⟩
    · obtain rfl := List.mem_singleton.mp hg
      cases hseen
  · obtain rfl := List.mem_singleton.mp hg
    cases hseen

/-! ## Runs -/

/-- **Identity before data**: in every run that keeps to the condition, media and data are handed on
only after a Hello that matches the remote description and after none that does not, and the
connected state is reached only by reporting it, after a Hello that matches. Any other poll, and any
other restart of the candidates, breaks this at once. -/
theorem live_identity_first (N : LiveNet) :
    (∀ p, (liveSystem N).ReachableVia (KeepsIdentity N) p →
      Justified (Identified N) p.trace ∧
      (p.state = .connected → ∃ h ∈ p.trace, h.seen.isConnected = true)) ∧
    ∀ p e, e = .poll ∨ e = .restartIce → ¬KeepsIdentity N p e →
      ¬Justified (Identified N) (e.perform N p).trace := by
  refine ⟨fun p h => ?_, fun p e he hc => ?_⟩
  · have hkept : Kept N p := by
      refine h.invariant (Kept N) (fun q hq => ?_) fun q e q' hk hc hstep => ?_
      · obtain ⟨role, bind, advertiseHost, localFp, ufrag, pwd, rfl⟩ := hq
        exact Kept.new role bind advertiseHost localFp ufrag pwd
      · obtain rfl := Option.some.inj hstep
        exact hk.perform hc
    exact ⟨hkept.identified, hkept.reported⟩
  · rcases he with rfl | rfl
    · exact poll_not_identified hc
    · exact restartIce_not_identified hc

/-! ### Concrete runs -/

/-- The description of a host, as it is sent and as it is read. -/
def demoText : String :=
  "\x7b\"type\":\"remotelink-live\",\"v\":1,\"role\":\"offerer\",\"listen\":\"127.0.0.1:9\",
    \"fingerprint\":\"AAAAAAAAAAAAAAAAAAAAAAAAAAAAAAAAAAAAAAAAAAAAAAAAAAAAAAAAAAAAAAAA\",
    \"ufrag\":\"ab\",\"pwd\":\"cd\"\x7d"

def demoSdp : LiveSdp where
  sdpTypeLabel := "remotelink-live"
  v := 1
  role := "offerer"
  listen := some "127.0.0.1:9"
  fingerprint := "AAAAAAAAAAAAAAAAAAAAAAAAAAAAAAAAAAAAAAAAAAAAAAAAAAAAAAAAAAAAAAAA"
  ufrag := "ab"
  pwd := "cd"

/-- A library and a resolver that know this description and its address. -/
def demoNet : LiveNet where
  fromJson _ := .ok demoSdp
  toJson _ := .ok demoText
  resolve _ := .ok [⟨"127.0.0.1", 9⟩]
  parseAddr _ := none

/-- Every call of the operating system succeeds. -/
def goodIo : LiveIo :=
  ⟨.ok (), .ok ⟨"127.0.0.1", 9⟩, none, .ok (), .stream, .ok (), .ok (), .ok (), none⟩

/-- A viewer before its connection. -/
def demoViewer : LivePeer :=
  .new .answerer "127.0.0.1:0" none ⟨"sha-256", String.ofList (List.replicate 64 'B')⟩ "ef" "gh"

/-- The viewer dials the host. -/
def dialRun : List LiveEvent :=
  [.setRemoteDescription ⟨.offer, demoText⟩ goodIo, .setLocalDescription ⟨.answer, demoText⟩ goodIo]

/-- The Hello of the host, and an empty data message. -/
def helloFrame : Bytes := frame kindControl (ctrlHello :: List.replicate 32 170 ++ [roleByte .offerer])

def dataFrame : Bytes := frame kindData [0, 0, 0]

def Seen.isHello : Seen → Bool
  | .hello _ => true
  | .callback _ => false

/-- An executable condition: no Hello yet, and neither media nor data first. -/
def keepsIdentity (p : LivePeer) : LiveEvent → Bool
  | .poll => p.waiting.head?.all (fun m => !m.isPayload) && p.trace.all fun h => !h.seen.isHello
  | .restartIce => false
  | _ => true

theorem keepsIdentity_of (p : LivePeer) (e : LiveEvent) (h : keepsIdentity p e = true) :
    KeepsIdentity demoNet p e := by
  cases e with
  | poll =>
    obtain ⟨hhead, hno⟩ := Bool.and_eq_true_iff.mp h
    refine ⟨fun _ m hm => ?_, ?_⟩
    · have hhead := (Option.all_eq_true _ _).mp hhead m hm
      simpa using hhead
    · rintro ⟨g, hg, hex, hseen, -⟩
      have hnot := List.all_eq_true.mp hno g hg
      rw [hseen] at hnot
      cases hnot
  | restartIce => cases h
  | setRemoteDescription desc io =>
    -- every address resolves
    intro _ live fp e _ _ haddr
    rcases hl : live.listen with _ | s
    · simp [LiveSdp.listenAddr, hl] at haddr
    · simp [LiveSdp.listenAddr, hl, demoNet] at haddr
  | _ => trivial

/-- What the viewer has dialled may greet it and then send data, or send data at once. -/
theorem dialRun_continues :
    (((liveSystem demoNet).restrict keepsIdentity).runFrom demoViewer dialRun).any (fun p =>
      (((liveSystem demoNet).restrict keepsIdentity).runFrom p
        [.arrive (helloFrame ++ dataFrame), .read, .read, .poll]).any
          (fun q => q.trace.any fun h => h.seen.isPayload) &&
      ((liveSystem demoNet).runFrom p [.arrive dataFrame, .read, .poll]).any
        (fun q => (q.trace.any fun h => h.seen.isPayload) &&
          q.trace.all fun h => !h.seen.isHello)) = true := by
  decide +kernel

/-- The viewer receives a data message after the Hello of the host. -/
theorem live_identity_first_greeted : ∃ p,
    (liveSystem demoNet).ReachableVia (KeepsIdentity demoNet) p ∧
    (∃ h ∈ p.trace, h.seen.isPayload = true) ∧ Justified (Identified demoNet) p.trace := by
  obtain ⟨p, hp, htests⟩ := (Option.any_eq_true _ _).mp dialRun_continues
  obtain ⟨q, hq, hpay⟩ := (Option.any_eq_true _ _).mp (Bool.and_eq_true_iff.mp htests).1
  have hinit : ((liveSystem demoNet).restrict keepsIdentity).Reachable demoViewer :=
    .init ⟨_, _, _, _, _, _, rfl⟩
  have hdialled := System.reachable_of_runFrom hinit hp
  have hreach := System.reachableVia_of_restrict keepsIdentity_of
    (System.reachable_of_runFrom hdialled hq)
  exact ⟨q, hreach, List.any_eq_true.mp hpay, ((live_identity_first demoNet).1 q hreach).1⟩

/-- **A data message before any Hello** is handed on. -/
theorem live_identity_first_fails :
    ¬∀ p, (liveSystem demoNet).Reachable p → Justified (Identified demoNet) p.trace := by
  intro hclaim
  obtain ⟨p, hp, htests⟩ := (Option.any_eq_true _ _).mp dialRun_continues
  obtain ⟨q, hq, htest⟩ := (Option.any_eq_true _ _).mp (Bool.and_eq_true_iff.mp htests).2
  obtain ⟨hpay, hno⟩ := Bool.and_eq_true_iff.mp htest
  obtain ⟨h, hmem, hpay⟩ := List.any_eq_true.mp hpay
  obtain ⟨before, after, htrace⟩ := List.append_of_mem hmem
  have hinit : ((liveSystem demoNet).restrict keepsIdentity).Reachable demoViewer :=
    .init ⟨_, _, _, _, _, _, rfl⟩
  have hdialled : (liveSystem demoNet).Reachable p :=
    (System.reachableVia_of_restrict keepsIdentity_of
      (System.reachable_of_runFrom hinit hp)).reachable
  have hident := hclaim q (System.reachable_of_runFrom hdialled hq) before h after htrace
  obtain ⟨g, hg, hex, hseen, -⟩ := hident.greeted (.inl hpay)
  have hnot := List.all_eq_true.mp hno g (by
    rw [htrace]
    exact List.mem_append_left _ hg)
  rw [hseen] at hnot
  cases hnot

end RemoteLink.Net
