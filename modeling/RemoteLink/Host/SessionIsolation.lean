import Mathlib.Data.List.Forall2
import RemoteLink.Host.LiveOtp

set_option autoImplicit false

/-!
# What one session leaves to the next

The manager of a host serves one session after another on the transport it owns. Signals go out in
a queue of the manager, which an attach clears; the candidates and the data that the transport
hands over wait in a sink before that, which an attach does not clear. What waits there goes to the
session that is attached next.

## Main definitions

* `Recorded`, `PeerTransport.recorded` — a transport with a record of the offers and the callbacks
  it has made.
* `Flow` — what a step of the manager does with what the transport has produced.
* `isolationSystem` — runs of the manager, with what has been drained and taken since the last
  attach.
* `Isolated` — everything drained or taken since the last attach was produced since then.
* `attachesClean` — nothing waits in the sink when a session is attached.

## Main results

* `apply_flow` — the steps within a session neither invent nor reorder anything.
* `session_isolated` — sessions are isolated, while every attach finds the sink empty.
* `session_isolated_fails` — a candidate of one session goes out as a signal of the next, and its
  data is taken by the next.
-/

namespace RemoteLink.Host

open Library Protocol Auth Net Platform

/-! ## Transports with a record -/

/-- Something that a transport has produced. -/
inductive Produced where
  | offer (d : SessionDescription)
  | callback (c : PeerCallback)

/-- A transport with a record of what it has produced, oldest first. -/
structure Recorded (π : Type) where
  peer : π
  produced : List Produced

/-- The callbacks in a record. -/
def callbacksOf (ps : List Produced) : List PeerCallback :=
  ps.filterMap fun
    | .callback c => some c
    | .offer _ => none

/-- The offers in a record. -/
def offersOf (ps : List Produced) : List SessionDescription :=
  ps.filterMap fun
    | .offer d => some d
    | .callback _ => none

/-- The candidates among callbacks. -/
def iceOf (cs : List PeerCallback) : List IceCandidate :=
  cs.filterMap fun
    | .iceCandidate c => some c
    | _ => none

/-- A call whose callbacks are recorded. -/
def recording {π α : Type} (l : Recorded π) (c : Call π α) : Call (Recorded π) α :=
  ⟨c.result, ⟨c.peer, l.produced ++ c.callbacks.map .callback⟩, c.callbacks⟩

/-- The transport that records what it produces. -/
def recorded {π : Type} (T : PeerTransport π) : PeerTransport (Recorded π) where
  connectionState l := T.connectionState l.peer
  createOffer l :=
    let c := T.createOffer l.peer
    ⟨c.result, ⟨c.peer, l.produced ++ c.result.toOption.toList.map .offer ++
      c.callbacks.map .callback⟩, c.callbacks⟩
  createAnswer l := recording l (T.createAnswer l.peer)
  setLocalDescription l d := recording l (T.setLocalDescription l.peer d)
  setRemoteDescription l d := recording l (T.setRemoteDescription l.peer d)
  addIceCandidate l c := recording l (T.addIceCandidate l.peer c)
  localFingerprint l := T.localFingerprint l.peer
  remoteFingerprint l := T.remoteFingerprint l.peer
  sendVideoNalu l n := recording l (T.sendVideoNalu l.peer n)
  sendAudio l p := recording l (T.sendAudio l.peer p)
  sendData l m := recording l (T.sendData l.peer m)
  poll l := recording l (T.poll l.peer)
  waitReady l t := recording l (T.waitReady l.peer t)
  close l := recording l (T.close l.peer)

section Records

variable (ps qs : List Produced) (cs ds : List PeerCallback)

@[simp] theorem callbacksOf_append : callbacksOf (ps ++ qs) = callbacksOf ps ++ callbacksOf qs :=
  List.filterMap_append

@[simp] theorem offersOf_append : offersOf (ps ++ qs) = offersOf ps ++ offersOf qs :=
  List.filterMap_append

@[simp] theorem iceOf_append : iceOf (cs ++ ds) = iceOf cs ++ iceOf ds :=
  List.filterMap_append

@[simp] theorem dataOf_append : dataOf (cs ++ ds) = dataOf cs ++ dataOf ds :=
  List.filterMap_append

@[simp] theorem callbacksOf_callbacks : callbacksOf (cs.map .callback) = cs := by
  induction cs with
  | nil => rfl
  | cons c cs ih => simp [callbacksOf]

@[simp] theorem offersOf_callbacks : offersOf (cs.map .callback) = [] := by
  simp [offersOf]

@[simp] theorem callbacksOf_offers (offers : List SessionDescription) :
    callbacksOf (offers.map .offer) = [] := by
  simp [callbacksOf]

@[simp] theorem offersOf_offers (offers : List SessionDescription) :
    offersOf (offers.map .offer) = offers := by
  induction offers with
  | nil => rfl
  | cons d ds ih => simp [offersOf]

/-- The candidates of callbacks land in the sink. -/
theorem deliver_ice (cb : AgentPeerCallbacks) : (cb.deliver cs).ice = cb.ice ++ iceOf cs := by
  induction cs generalizing cb with
  | nil => simp [AgentPeerCallbacks.deliver, iceOf]
  | cons c cs ih =>
    have hcons : cb.deliver (c :: cs) = (cb.receive c).deliver cs := rfl
    rw [hcons, ih]
    cases c <;> simp [AgentPeerCallbacks.receive, iceOf]

end Records

/-! ## What signals carry -/

/-- A signal that carries the candidate. -/
def CarriesCandidate (J : Codec) (s : SignalForward) (c : IceCandidate) : Prop :=
  s.payload = J.encodeIce c

/-- A signal that carries the offer. -/
def CarriesOffer (J : Codec) (s : SignalForward) (d : SessionDescription) : Prop :=
  ∃ sig, s.payload = J.encodeSdp ⟨d.sdp, sig⟩

/-- The signals of a kind. -/
def ofKind (kind : String) (signals : List SignalForward) : List SignalForward :=
  signals.filter fun s => s.kind = kind

/-- The signals carry some of the candidates and some of the offers, each once and in order. -/
structure Carried (J : Codec) (signals : List SignalForward) (candidates : List IceCandidate)
    (offers : List SessionDescription) : Prop where
  candidates : List.SublistForall₂ (CarriesCandidate J) (ofKind SignalKind.iceCandidate signals)
    candidates
  offers : List.SublistForall₂ (CarriesOffer J) (ofKind SignalKind.sessionOffer signals) offers
  kinds : ∀ s ∈ signals, s.kind = SignalKind.iceCandidate ∨ s.kind = SignalKind.sessionOffer

section Carried

variable {α β : Type} {R : α → β → Prop} {J : Codec}

theorem sublistForall₂_append {l₁ l₂ : List α} {r₁ r₂ : List β}
    (h₁ : List.SublistForall₂ R l₁ r₁) (h₂ : List.SublistForall₂ R l₂ r₂) :
    List.SublistForall₂ R (l₁ ++ l₂) (r₁ ++ r₂) := by
  rw [List.sublistForall₂_iff] at h₁ h₂ ⊢
  obtain ⟨s₁, hall₁, hsub₁⟩ := h₁
  obtain ⟨s₂, hall₂, hsub₂⟩ := h₂
  exact ⟨s₁ ++ s₂, List.rel_append hall₁ hall₂, hsub₁.append hsub₂⟩

theorem sublistForall₂_of_append_left {l₁ l₂ : List α} {r : List β}
    (h : List.SublistForall₂ R (l₁ ++ l₂) r) : List.SublistForall₂ R l₁ r := by
  induction l₁ generalizing r with
  | nil => exact .nil
  | cons a l₁ ih =>
    rw [List.cons_append] at h
    generalize hl : a :: (l₁ ++ l₂) = l at h
    induction h with
    | nil => cases hl
    | cons hab htail =>
      obtain ⟨rfl, rfl⟩ := List.cons.inj hl
      exact .cons hab (ih htail)
    | cons_right _ ihr => exact .cons_right (ihr hl)

theorem Carried.nil (candidates : List IceCandidate) (offers : List SessionDescription) :
    Carried J [] candidates offers :=
  ⟨.nil, .nil, by simp⟩

theorem Carried.append {s₁ s₂ : List SignalForward} {c₁ c₂ : List IceCandidate}
    {o₁ o₂ : List SessionDescription} (h₁ : Carried J s₁ c₁ o₁) (h₂ : Carried J s₂ c₂ o₂) :
    Carried J (s₁ ++ s₂) (c₁ ++ c₂) (o₁ ++ o₂) where
  candidates := by
    rw [ofKind, List.filter_append]
    exact sublistForall₂_append h₁.candidates h₂.candidates
  offers := by
    rw [ofKind, List.filter_append]
    exact sublistForall₂_append h₁.offers h₂.offers
  kinds := by
    intro s hs
    rcases List.mem_append.mp hs with hs | hs
    · exact h₁.kinds s hs
    · exact h₂.kinds s hs

/-- The first of the signals carry no more than all of them. -/
theorem Carried.of_append_left {s₁ s₂ : List SignalForward} {c : List IceCandidate}
    {o : List SessionDescription} (h : Carried J (s₁ ++ s₂) c o) : Carried J s₁ c o where
  candidates := by
    have hcandidates := h.candidates
    rw [ofKind, List.filter_append] at hcandidates
    exact sublistForall₂_of_append_left hcandidates
  offers := by
    have hoffers := h.offers
    rw [ofKind, List.filter_append] at hoffers
    exact sublistForall₂_of_append_left hoffers
  kinds s hs := h.kinds s (List.mem_append_left _ hs)

/-- More candidates. -/
theorem Carried.mono_candidates {s : List SignalForward} {c : List IceCandidate}
    {o : List SessionDescription} (h : Carried J s c o) (more : List IceCandidate) :
    Carried J s (c ++ more) o where
  candidates := by
    have happend := sublistForall₂_append h.candidates (.nil (l := more))
    rwa [List.append_nil] at happend
  offers := h.offers
  kinds := h.kinds

/-- Candidates that are turned into signals. -/
theorem Carried.of_candidates (sid : String) (cs : List IceCandidate) :
    Carried J (cs.map fun c => ⟨sid, SignalKind.iceCandidate, J.encodeIce c, .agent⟩) cs [] := by
  induction cs with
  | nil => exact .nil _ _
  | cons c cs ih =>
    have hhead : Carried J [⟨sid, SignalKind.iceCandidate, J.encodeIce c, .agent⟩] [c] [] := by
      refine ⟨?_, .nil, by simp⟩
      exact .cons rfl .nil
    exact hhead.append ih

/-- An offer that is turned into a signal. -/
theorem Carried.of_offer (sid : String) (d : SessionDescription) (sig : Option String) :
    Carried J [⟨sid, SignalKind.sessionOffer, J.encodeSdp ⟨d.sdp, sig⟩, .agent⟩] [] [d] := by
  refine ⟨.nil, ?_, by simp⟩
  exact .cons ⟨sig, rfl⟩ .nil

end Carried

/-! ## The flow through a manager -/

/-- A step that leaves nothing out and makes nothing up: the transport has produced `new`, the
candidates `moved` have left the sink, and the signals `added` carry them. -/
structure Flow {π : Type} (J : Codec) (m m' : SessionManager (Recorded π)) (new : List Produced)
    (moved : List IceCandidate) (added : List SignalForward) : Prop where
  produced : m'.peer.produced = m.peer.produced ++ new
  ice : m.cb.ice ++ iceOf (callbacksOf new) = moved ++ m'.cb.ice
  data : m'.cb.data = m.cb.data ++ dataOf (callbacksOf new)
  outbound : m'.outboundSignals = m.outboundSignals ++ added
  carried : Carried J added moved (offersOf new)

/-- A step with some flow. -/
def Flows {π : Type} (J : Codec) (m m' : SessionManager (Recorded π)) : Prop :=
  ∃ new moved added, Flow J m m' new moved added

/-- What of a manager the flow concerns. -/
def flowOf {π : Type} (m : SessionManager (Recorded π)) :=
  (m.peer.produced, m.cb.ice, m.cb.data, m.outboundSignals)

section Flow

variable {π : Type} {C : Crypto} {T : PeerTransport π} {J : Codec}
  {m m' m'' : SessionManager (Recorded π)}

/-- Nothing flows where nothing changes. -/
theorem Flows.of_eq (h : flowOf m' = flowOf m) : Flows J m m' := by
  simp only [flowOf, Prod.mk.injEq] at h
  obtain ⟨hproduced, hice, hdata, houtbound⟩ := h
  refine ⟨[], [], [], ⟨?_, ?_, ?_, ?_, .nil _ _⟩⟩
  · simp [hproduced]
  · simp [hice, callbacksOf, iceOf]
  · simp [hdata, callbacksOf, dataOf]
  · simp [houtbound]

/-- Flows compose. -/
theorem Flow.trans {new new' : List Produced} {moved moved' : List IceCandidate}
    {added added' : List SignalForward} (h : Flow J m m' new moved added)
    (h' : Flow J m' m'' new' moved' added') :
    Flow J m m'' (new ++ new') (moved ++ moved') (added ++ added') where
  produced := by rw [h'.produced, h.produced, List.append_assoc]
  ice := by
    rw [callbacksOf_append, iceOf_append, ← List.append_assoc, h.ice, List.append_assoc, h'.ice,
      List.append_assoc]
  data := by rw [h'.data, h.data, callbacksOf_append, dataOf_append, List.append_assoc]
  outbound := by rw [h'.outbound, h.outbound, List.append_assoc]
  carried := by
    rw [offersOf_append]
    exact h.carried.append h'.carried

theorem Flows.trans (h : Flows J m m') (h' : Flows J m' m'') : Flows J m m'' := by
  obtain ⟨new, moved, added, h⟩ := h
  obtain ⟨new', moved', added', h'⟩ := h'
  exact ⟨_, _, _, h.trans h'⟩

theorem Flows.refl (m : SessionManager (Recorded π)) : Flows J m m := .of_eq rfl

/-- A program that does not touch the flow. -/
theorem leads_of_keeps {α : Type} {p : SessionM (Recorded π) α} (h : Keeps flowOf p) :
    Leads (Flows J) p :=
  fun m => .of_eq (h m)

theorem leads_bind {α β : Type} {p : SessionM (Recorded π) α} {k : α → SessionM (Recorded π) β}
    (hp : Leads (Flows J) p) (hk : ∀ a, Leads (Flows J) (k a)) : Leads (Flows J) (p >>= k) :=
  Leads.bind (fun _ _ _ h h' => h.trans h') hp hk

/-- A change of the transport with callbacks. -/
theorem flow_deliver (peer : π) (cs : List PeerCallback) :
    Flow J m { m with peer := ⟨peer, m.peer.produced ++ cs.map .callback⟩, cb := m.cb.deliver cs }
      (cs.map .callback) [] [] where
  produced := rfl
  ice := by simp [deliver_ice]
  data := by simp [deliver_data]
  outbound := by simp
  carried := .nil _ _

/-- A call whose callbacks are recorded. -/
theorem leads_onPeer {α : Type} {f : Recorded π → Call (Recorded π) α} {g : π → Call π α}
    (hf : ∀ l, f l = recording l (g l.peer)) :
    Leads (Flows J) (SessionManager.onPeer f : SessionM (Recorded π) α) := by
  intro m
  have hflow : Flows J m { m with
      peer := (f m.peer).peer, cb := m.cb.deliver (f m.peer).callbacks } := by
    rw [hf]
    exact ⟨_, _, _, flow_deliver _ _⟩
  unfold after SessionManager.onPeer
  dsimp only
  rcases (f m.peer).result with e | a <;> exact hflow

/-- Queueing the candidates that wait. -/
theorem flow_queuePendingIce (sid : String) (m : SessionManager (Recorded π)) :
    Flow J m (SessionManager.queuePendingIce J sid m) [] m.cb.ice
      (m.cb.ice.map fun c => ⟨sid, SignalKind.iceCandidate, J.encodeIce c, .agent⟩) where
  produced := by simp [SessionManager.queuePendingIce]
  ice := by simp [SessionManager.queuePendingIce, callbacksOf, iceOf]
  data := by simp [SessionManager.queuePendingIce, callbacksOf, dataOf]
  outbound := rfl
  carried := .of_candidates sid m.cb.ice

theorem leads_queuePendingIce (sid : String) :
    Leads (Flows J) (modify (SessionManager.queuePendingIce J sid) : SessionM (Recorded π) PUnit) :=
  fun m => ⟨_, _, _, flow_queuePendingIce sid m⟩

/-- An offer that has been made goes out as a signal, with the candidates that wait. -/
theorem Flow.offered {new : List Produced} {d : SessionDescription} (h : Flow J m m' new [] [])
    (hnew : offersOf new = [d]) (sid : String) (sig : Option String) :
    Flows J m (SessionManager.queuePendingIce J sid { m' with outboundSignals :=
      m'.outboundSignals ++ [⟨sid, SignalKind.sessionOffer, J.encodeSdp ⟨d.sdp, sig⟩, .agent⟩] }) := by
  refine ⟨new, m'.cb.ice,
    ⟨sid, SignalKind.sessionOffer, J.encodeSdp ⟨d.sdp, sig⟩, .agent⟩ ::
      m'.cb.ice.map fun c => ⟨sid, SignalKind.iceCandidate, J.encodeIce c, .agent⟩, ?_⟩
  refine ⟨h.produced, ?_, h.data, ?_, ?_⟩
  · simpa [SessionManager.queuePendingIce] using h.ice
  · simp [SessionManager.queuePendingIce, h.outbound]
  · rw [hnew]
    exact (Carried.of_offer sid d sig).append (.of_candidates sid m'.cb.ice)

/-- Making an offer. -/
theorem flow_createOffer {d : SessionDescription}
    (h : SessionManager.onPeer (recorded T).createOffer m = .ok d m') :
    ∃ new, offersOf new = [d] ∧ Flow J m m' new [] [] := by
  obtain ⟨hres, rfl⟩ := onPeer_ok.mp h
  have hres : (T.createOffer m.peer.peer).result = .ok d := hres
  refine ⟨[.offer d] ++ (T.createOffer m.peer.peer).callbacks.map .callback, ?_, ?_⟩
  · simp [offersOf]
  · constructor
    · simp [recorded, hres, Except.toOption]
    · simp [recorded, deliver_ice, callbacksOf]
    · simp [recorded, deliver_data, callbacksOf]
    · simp
    · exact .nil _ _

/-- An offer that could not be made. -/
theorem flows_createOffer_error {e : SessionError}
    (h : SessionManager.onPeer (recorded T).createOffer m = .error e m') : Flows J m m' := by
  unfold SessionManager.onPeer at h
  rcases hres : (T.createOffer m.peer.peer).result with e' | d
  · have hrec : ((recorded T).createOffer m.peer).result = .error e' := hres
    simp only [hrec, EStateM.Result.error.injEq] at h
    have hpeer : ((recorded T).createOffer m.peer).peer = ⟨(T.createOffer m.peer.peer).peer,
        m.peer.produced ++ (T.createOffer m.peer.peer).callbacks.map .callback⟩ := by
      simp [recorded, hres, Except.toOption]
    rw [← h.2, hpeer]
    exact ⟨_, _, _, flow_deliver _ _⟩
  · have hrec : ((recorded T).createOffer m.peer).result = .ok d := hres
    simp [hrec] at h

theorem flow_setLocal {d : SessionDescription}
    (h : SessionManager.onPeer (fun peer => (recorded T).setLocalDescription peer d) m = .ok () m') :
    ∃ cs : List PeerCallback, Flow J m m' (cs.map .callback) [] [] := by
  obtain ⟨-, rfl⟩ := onPeer_ok.mp h
  exact ⟨_, flow_deliver _ _⟩

/-- Signing changes nothing. -/
theorem after_fingerprintSig (sid : String) (m : SessionManager (Recorded π)) :
    after (SessionManager.fingerprintSig C (recorded T) sid) m = m := by
  unfold after SessionManager.fingerprintSig
  rcases m.deviceSigningKey with _ | key
  · rfl
  · dsimp only
    rcases (recorded T).localFingerprint m.peer with e | fp <;> rfl

/-- **The offer of a session**: what goes out is the offer that the transport has just made, and
candidates that have waited. -/
theorem leads_createLocalOffer (sid : String) :
    Leads (Flows J) (SessionManager.createLocalOfferAndQueue C (recorded T) J sid) := by
  intro m
  unfold SessionManager.createLocalOfferAndQueue
  rw [after_bind]
  rcases hoffer : SessionManager.onPeer (recorded T).createOffer m with ⟨d, m₁⟩ | ⟨e, m₁⟩
  · obtain ⟨new, hnew, hmade⟩ := flow_createOffer (J := J) hoffer
    dsimp only
    rw [after_bind]
    rcases hlocal : SessionManager.onPeer (fun peer => (recorded T).setLocalDescription peer d) m₁
      with ⟨u, m₂⟩ | ⟨e, m₂⟩
    · obtain ⟨cs, hset⟩ := flow_setLocal (J := J) hlocal
      have hmade := hmade.trans hset
      have hnew : offersOf (new ++ cs.map .callback) = [d] := by simp [hnew]
      dsimp only
      rw [after_bind]
      have hsame := after_fingerprintSig (C := C) (T := T) sid m₂
      rcases hsig : SessionManager.fingerprintSig C (recorded T) sid m₂ with ⟨sig, m₃⟩ | ⟨e, m₃⟩
      · rw [after_ok hsig] at hsame
        subst hsame
        exact hmade.offered hnew sid sig
      · rw [after_error hsig] at hsame
        subst hsame
        exact ⟨_, _, _, hmade⟩
    · have hset : Flows J m₁ (after (SessionManager.onPeer fun peer =>
          (recorded T).setLocalDescription peer d) m₁) :=
        leads_onPeer (g := fun peer => T.setLocalDescription peer d) (fun _ => rfl) m₁
      rw [after_error hlocal] at hset
      exact .trans ⟨_, _, _, hmade⟩ hset
  · exact flows_createOffer_error hoffer

/-! ### The methods of the manager -/

theorem leads_pure {α : Type} (a : α) : Leads (Flows J) (pure a : SessionM (Recorded π) α) :=
  leads_of_keeps (.of_pure a)

theorem leads_throw {α : Type} (e : SessionError) :
    Leads (Flows J) (throw e : SessionM (Recorded π) α) :=
  leads_of_keeps (.of_throw e)

theorem leads_get : Leads (Flows J) (get : SessionM (Recorded π) (SessionManager (Recorded π))) :=
  leads_of_keeps .of_get

theorem leads_update {g : SessionManager (Recorded π) → SessionManager (Recorded π)}
    (hg : ∀ m, Flows J m (g m)) : Leads (Flows J) (modify g : SessionM (Recorded π) PUnit) :=
  hg

/-- An update of the fields that the flow does not concern. -/
theorem leads_modify {g : SessionManager (Recorded π) → SessionManager (Recorded π)}
    (hg : ∀ m, flowOf (g m) = flowOf m) : Leads (Flows J) (modify g : SessionM (Recorded π) PUnit) :=
  leads_of_keeps (.of_modify hg)

theorem leads_startMedia (ans : SessionManager.MediaAnswers) :
    Leads (Flows J) (SessionManager.startMedia C (recorded T) J ans) := by
  unfold SessionManager.startMedia
  refine leads_bind leads_get fun m => ?_
  cases m.sessionId with
  | none => exact leads_throw _
  | some sid =>
    dsimp only
    split
    · exact leads_pure _
    · rcases SessionManager.openMedia ans with e | plane
      · exact leads_throw _
      · refine leads_bind (leads_modify fun _ => rfl) fun _ => ?_
        split
        · exact leads_createLocalOffer sid
        · exact leads_queuePendingIce sid

theorem leads_pumpAudio (ans : SessionManager.CaptureAnswers) (slot : Nat) (is : List Nat)
    (sent : Nat) : Leads (Flows J) (SessionManager.pumpAudio (recorded T) ans slot is sent) := by
  induction is generalizing sent with
  | nil => exact leads_pure _
  | cons i is ih =>
    unfold SessionManager.pumpAudio
    rcases ans.audioFrame slot i with e | _ | frame
    · exact leads_throw _
    · exact ih sent
    · dsimp only
      rcases ans.encodeAudio frame with e | packet
      · exact leads_throw _
      · refine leads_bind (leads_modify fun _ => rfl) fun _ => leads_bind ?_ fun _ => ih _
        exact leads_onPeer (g := fun peer => T.sendAudio peer packet) fun _ => rfl

theorem leads_pumpVideo (ans : SessionManager.CaptureAnswers) (slot : Nat) :
    Leads (Flows J) (SessionManager.pumpVideo (recorded T) ans slot) := by
  unfold SessionManager.pumpVideo
  rcases SessionManager.nextVideo ans slot (List.range 8) with e | _ | frame
  · exact leads_throw _
  · exact leads_pure _
  · refine leads_bind leads_get fun m => ?_
    rcases m.media with _ | media
    · exact leads_throw _
    · dsimp only
      rcases ans.encodeVideo frame (media.videoFramesSent % 30 = 0) with e | nalu
      · exact leads_throw _
      · refine leads_bind (leads_modify fun _ => rfl) fun _ => leads_bind ?_ fun _ => leads_pure _
        exact leads_onPeer (g := fun peer => T.sendVideoNalu peer nalu) fun _ => rfl

theorem leads_pumpSlots (ans : SessionManager.CaptureAnswers) (slots : List Nat)
    (stats : PumpStats) :
    Leads (Flows J) (SessionManager.pumpSlots (recorded T) ans slots stats) := by
  induction slots generalizing stats with
  | nil => exact leads_pure _
  | cons slot slots ih =>
    exact leads_bind (leads_pumpAudio ans slot _ _) fun _ =>
      leads_bind (leads_pumpVideo ans slot) fun _ => ih _

theorem leads_pumpMedia (ans : SessionManager.CaptureAnswers) (n : Nat) :
    Leads (Flows J) (SessionManager.pumpMedia (recorded T) ans n) := by
  unfold SessionManager.pumpMedia
  refine leads_bind leads_get fun m => ?_
  split_ifs
  · exact leads_throw _
  · exact leads_pure _
  · refine leads_bind (leads_pumpSlots ans _ _) fun _ => leads_bind ?_ fun _ => leads_pure _
    exact fun m => ⟨_, _, _, flow_deliver _ _⟩

theorem leads_applyDescription (ty : SdpType) (payload : String) :
    Leads (Flows J) (SessionManager.applyDescription (recorded T) J ty payload) := by
  unfold SessionManager.applyDescription
  rcases SessionManager.parseSdpPayload J payload with e | sdp
  · exact leads_throw _
  · refine leads_bind ?_ fun _ => leads_update fun m => ?_
    · exact leads_onPeer (g := fun peer => T.setRemoteDescription peer ⟨ty, sdp.sdp⟩) fun _ => rfl
    · split
      · exact ⟨_, _, _, flow_queuePendingIce _ m⟩
      · exact .refl m

/-- The manager after a signal, if applying it does not panic. -/
theorem flows_applySignal {kind payload : String}
    {res : EStateM.Result SessionError (SessionManager (Recorded π)) Unit}
    (h : m.applySignal (recorded T) J kind payload = some res) : Flows J m (finalState res) := by
  unfold SessionManager.applySignal at h
  split_ifs at h with hoffer hanswer hice
  · obtain rfl := Option.some.inj h
    exact leads_applyDescription .offer payload m
  · obtain rfl := Option.some.inj h
    exact leads_applyDescription .answer payload m
  · rw [Option.map_eq_some_iff] at h
    obtain ⟨e | candidate, -, rfl⟩ := h
    · exact .refl m
    · exact leads_onPeer (g := fun peer => T.addIceCandidate peer candidate) (fun _ => rfl) m
  · obtain rfl := Option.some.inj h
    exact .refl m

theorem leads_startIdentityChallenge (nonce : Bytes) :
    Leads (Flows J) (SessionManager.startIdentityChallenge (recorded T) nonce) := by
  unfold SessionManager.startIdentityChallenge
  refine leads_bind leads_get fun m => ?_
  split_ifs
  · exact leads_throw _
  · exact leads_throw _
  · exact leads_throw _
  · refine leads_bind ?_ fun _ => leads_modify fun _ => rfl
    exact leads_onPeer (g := fun peer => T.sendData peer _) fun _ => rfl
  · exact leads_throw _

/-! ### Data that arrives -/

theorem offInbound_flow : OffInbound (flowOf (π := π)) :=
  ⟨fun _ _ _ _ => rfl, fun _ _ _ _ _ _ _ => rfl⟩

/-- What a poll takes from the sink. -/
def takenBy (T : PeerTransport π) (m : SessionManager (Recorded π)) : List DataMessage :=
  match SessionManager.onPeer (recorded T).poll m with
  | .ok _ m => m.cb.data
  | .error _ _ => []

/-- **A poll**: the transport flows, and then everything that waits is taken. -/
theorem pollInbound_flow (ans : Nat → InjectAnswers) (m : SessionManager (Recorded π)) :
    ∃ m', Flows J m m' ∧
      flowOf (after (SessionManager.pollInbound C (recorded T) J ans) m) =
        flowOf { m' with cb.data := m'.cb.data.drop (takenBy T m).length } ∧
      m'.cb.data.take (takenBy T m).length = takenBy T m := by
  have hpoll : Flows J m (after (SessionManager.onPeer (recorded T).poll) m) :=
    leads_onPeer (g := T.poll) (fun _ => rfl) m
  unfold SessionManager.pollInbound takenBy
  rw [after_bind]
  rcases hres : SessionManager.onPeer (recorded T).poll m with ⟨u, m'⟩ | ⟨e, m'⟩
  · rw [after_ok hres] at hpoll
    refine ⟨m', hpoll, ?_, by simp⟩
    dsimp only
    rw [after_bind]
    refine (keeps_handleInbound offInbound_flow C (recorded T) J ans _ 0 _ _).trans ?_
    simp [flowOf]
  · rw [after_error hres] at hpoll
    exact ⟨m', hpoll, by simp, by simp⟩

end Flow

/-! ## Runs of a manager -/

/-- A manager with what has been produced before the last attach, and the signals drained and the
messages taken since. -/
structure IsolationWorld (π : Type) where
  manager : SessionManager (Recorded π)
  since : Nat
  drained : List SignalForward
  taken : List DataMessage

/-- What has been produced since the last attach. -/
def IsolationWorld.fresh {π : Type} (w : IsolationWorld π) : List Produced :=
  w.manager.peer.produced.drop w.since

/-- A change of the transport by itself is recorded too. -/
def recordedOp {π : Type} (m : SessionManager (Recorded π)) :
    ManagerOp (Recorded π) → ManagerOp (Recorded π)
  | .transport peer cs => .transport ⟨peer.peer, m.peer.produced ++ cs.map .callback⟩ cs
  | op => op

section

variable {π : Type} (C : Crypto) (T : PeerTransport π) (J : Codec)

/-- One operation of the manager. -/
def isolationStep (w : IsolationWorld π) (op : ManagerOp (Recorded π)) :
    Option (IsolationWorld π) :=
  ((recordedOp w.manager op).apply C (recorded T) J w.manager).map fun m =>
    match op with
    | .attach .. => ⟨m, m.peer.produced.length, [], []⟩
    | .takeOutboundSignals =>
      { w with manager := m, drained := w.drained ++ w.manager.takeOutboundSignals.1 }
    | .pollInbound _ => { w with manager := m, taken := w.taken ++ takenBy T w.manager }
    | _ => { w with manager := m }

/-- The runs of a manager on a transport that has produced nothing yet. -/
def isolationSystem : System (IsolationWorld π) (ManagerOp (Recorded π)) where
  init w := ∃ peer videoKind audioKind now,
    w = ⟨.withPeer ⟨peer, []⟩ videoKind audioKind now, 0, [], []⟩
  step := isolationStep C T J

/-- **Isolation of sessions**: the signals drained since the last attach carry candidates and
offers that were produced since then, each once and in order, and the messages taken are the first
ones that came since then. -/
def Isolated (J : Codec) (w : IsolationWorld π) : Prop :=
  Carried J w.drained (iceOf (callbacksOf w.fresh)) (offersOf w.fresh) ∧
    w.taken <+: dataOf (callbacksOf w.fresh)

/-- When a session is attached, nothing waits in the sink. -/
def attachesClean (w : IsolationWorld π) : ManagerOp (Recorded π) → Bool
  | .attach .. => w.manager.cb.ice.isEmpty && w.manager.cb.data.isEmpty
  | _ => true

/-- The candidates that have left the sink, those that wait, and the data, all produced since the
last attach. -/
structure Separate (J : Codec) (w : IsolationWorld π) : Prop where
  since : w.since ≤ w.manager.peer.produced.length
  signals : ∃ moved, iceOf (callbacksOf w.fresh) = moved ++ w.manager.cb.ice ∧
    Carried J (w.drained ++ w.manager.outboundSignals) moved (offersOf w.fresh)
  data : dataOf (callbacksOf w.fresh) = w.taken ++ w.manager.cb.data

end

section

variable {π : Type} {C : Crypto} {T : PeerTransport π} {J : Codec} {w w' : IsolationWorld π}
  {m : SessionManager (Recorded π)}

/-- **A step that flows** keeps sessions separate. -/
theorem Separate.flow (hw : Separate J w) (h : Flows J w.manager m) :
    Separate J { w with manager := m } := by
  obtain ⟨new, moved, added, hflow⟩ := h
  obtain ⟨out, hice, hcarried⟩ := hw.signals
  have hfresh : IsolationWorld.fresh { w with manager := m } = w.fresh ++ new := by
    simp only [IsolationWorld.fresh, hflow.produced]
    exact List.drop_append_of_le_length hw.since
  refine ⟨?_, ⟨out ++ moved, ?_, ?_⟩, ?_⟩
  · rw [hflow.produced, List.length_append]
    exact Nat.le_add_right_of_le hw.since
  · rw [hfresh, callbacksOf_append, iceOf_append, hice, List.append_assoc, hflow.ice,
      List.append_assoc]
  · rw [hfresh, offersOf_append, hflow.outbound, ← List.append_assoc]
    exact hcarried.append hflow.carried
  · rw [hfresh, callbacksOf_append, dataOf_append, hw.data, hflow.data, List.append_assoc]

theorem Separate.detach (hw : Separate J w) : Separate J { w with manager := w.manager.detach } := by
  obtain ⟨out, hice, hcarried⟩ := hw.signals
  refine ⟨hw.since, ⟨out, hice, ?_⟩, hw.data⟩
  have hcleared : w.manager.detach.outboundSignals = [] := rfl
  rw [hcleared, List.append_nil]
  exact hcarried.of_append_left

/-- An attach that finds the sink empty starts afresh. -/
theorem Separate.attach (hice : w.manager.cb.ice = []) (hdata : w.manager.cb.data = [])
    (sid : String) (native : Except InjectError Unit) (now : Instant) :
    Separate J ⟨w.manager.attach sid native now, w.manager.peer.produced.length, [], []⟩ := by
  have hfresh : IsolationWorld.fresh ⟨w.manager.attach sid native now,
      w.manager.peer.produced.length, [], []⟩ = [] := List.drop_length
  refine ⟨le_rfl, ⟨[], ?_, ?_⟩, ?_⟩
  · rw [hfresh]
    exact hice.symm
  · exact .nil _ _
  · rw [hfresh]
    exact hdata.symm

/-- Draining moves the queue to what has been drained. -/
theorem Separate.drain (hw : Separate J w) :
    Separate J { w with
      manager := w.manager.takeOutboundSignals.2
      drained := w.drained ++ w.manager.takeOutboundSignals.1 } := by
  obtain ⟨out, hice, hcarried⟩ := hw.signals
  refine ⟨hw.since, ⟨out, hice, ?_⟩, hw.data⟩
  have hcleared : w.manager.takeOutboundSignals.2.outboundSignals = [] := rfl
  rw [hcleared, List.append_nil]
  exact hcarried

/-- A poll moves what waits to what has been taken. -/
theorem Separate.poll (hw : Separate J w) (ans : Nat → InjectAnswers) :
    Separate J { w with
      manager := after (SessionManager.pollInbound C (recorded T) J ans) w.manager
      taken := w.taken ++ takenBy T w.manager } := by
  obtain ⟨m', hflow, hafter, htaken⟩ :=
    pollInbound_flow (C := C) (T := T) (J := J) ans w.manager
  have hm' := hw.flow hflow
  simp only [flowOf, Prod.mk.injEq] at hafter
  obtain ⟨hproduced, hice, hdata, houtbound⟩ := hafter
  have hfresh : IsolationWorld.fresh { w with
      manager := after (SessionManager.pollInbound C (recorded T) J ans) w.manager
      taken := w.taken ++ takenBy T w.manager } =
        IsolationWorld.fresh { w with manager := m' } := by
    simp only [IsolationWorld.fresh, hproduced]
  obtain ⟨out, hout, hcarried⟩ := hm'.signals
  refine ⟨?_, ⟨out, ?_, ?_⟩, ?_⟩
  · rw [hproduced]
    exact hm'.since
  · rw [hfresh, hout, hice]
  · rw [hfresh, houtbound]
    exact hcarried
  · rw [hfresh, hm'.data, hdata, List.append_assoc]
    conv_lhs => rw [← List.take_append_drop (takenBy T w.manager).length m'.cb.data, htaken]

/-- **Within a session everything flows**: an operation other than an attach, a detach, a drain
and a poll neither invents nor reorders signals, candidates and data. -/
theorem apply_flow {op : ManagerOp (Recorded π)} {m' : SessionManager (Recorded π)}
    (h : (recordedOp m op).apply C (recorded T) J m = some m')
    (hattach : ∀ sid native now, op ≠ .attach sid native now) (hdetach : op ≠ .detach)
    (hdrain : op ≠ .takeOutboundSignals) (hpoll : ∀ ans, op ≠ .pollInbound ans) :
    Flows J m m' := by
  cases op <;> simp only [recordedOp, ManagerOp.apply, Option.some.injEq] at h
  case attach sid native now => exact absurd rfl (hattach sid native now)
  case detach => exact absurd rfl hdetach
  case takeOutboundSignals => exact absurd rfl hdrain
  case pollInbound ans => exact absurd rfl (hpoll ans)
  case authorizeModeA record code pepper now =>
    subst h
    unfold SessionManager.authorizeModeA
    rcases Auth.authorizeModeA C record code pepper now with ⟨e | k, record'⟩ <;>
      exact .of_eq rfl
  case authorizeModeB secret challenge fpHost fpViewer mac =>
    subst h
    unfold SessionManager.authorizeModeB after
    dsimp only
    split
    · exact .of_eq rfl
    · split <;> exact .of_eq rfl
  case authorizeUnattendedSecret secret =>
    subst h
    unfold SessionManager.authorizeUnattendedSecret after
    dsimp only
    split <;> exact .of_eq rfl
  case startIdentityChallenge nonce => exact h ▸ leads_startIdentityChallenge nonce m
  case processInputMessage ans msg =>
    exact .of_eq (h ▸ keeps_processInput offInbound_flow J ans msg m)
  case startMedia ans => exact h ▸ leads_startMedia ans m
  case pumpMedia ans n => exact h ▸ leads_pumpMedia ans n m
  case applySignal kind payload =>
    rw [Option.map_eq_some_iff] at h
    obtain ⟨res, hres, rfl⟩ := h
    exact flows_applySignal hres
  case createLocalOfferAndQueue sid => exact h ▸ leads_createLocalOffer sid m
  case waitReady t =>
    exact h ▸ leads_onPeer (g := fun peer => T.waitReady peer t) (fun _ => rfl) m
  case shutdown =>
    have hshut : Leads (Flows J) (SessionManager.shutdown (recorded T)) :=
      leads_bind (leads_modify fun _ => rfl) fun _ => leads_onPeer (g := T.close) fun _ => rfl
    exact h ▸ hshut m
  case setInjectorConfig config native now =>
    subst h
    unfold SessionManager.setInjectorConfig
    rcases openInjector config native now with e | injector <;> exact .of_eq rfl
  case transport peer callbacks => exact h ▸ ⟨_, _, _, flow_deliver peer.peer callbacks⟩
  all_goals exact .of_eq (by rw [← h]; rfl)

/-- **The step lemma**: sessions stay separate, if every attach finds the sink empty. -/
theorem Separate.step (hw : Separate J w) {op : ManagerOp (Recorded π)}
    (hclean : attachesClean w op = true) (h : (isolationSystem C T J).step w op = some w') :
    Separate J w' := by
  obtain ⟨m, hm, rfl⟩ := Option.map_eq_some_iff.mp h
  cases op
  case attach sid native now =>
    obtain rfl := Option.some.inj hm
    simp only [attachesClean, Bool.and_eq_true, List.isEmpty_iff] at hclean
    exact .attach hclean.1 hclean.2 sid native now
  case detach =>
    obtain rfl := Option.some.inj hm
    exact hw.detach
  case takeOutboundSignals =>
    obtain rfl := Option.some.inj hm
    exact hw.drain
  case pollInbound ans =>
    obtain rfl := Option.some.inj hm
    exact hw.poll ans
  all_goals exact hw.flow (apply_flow hm (by simp) (by simp) (by simp) (by simp))

theorem isolationSystem_separate
    (h : (isolationSystem C T J).ReachableVia (fun w op => attachesClean w op = true) w) :
    Separate J w := by
  refine h.invariant (Separate J) ?_ fun _ _ _ hw hclean hstep => hw.step hclean hstep
  rintro w ⟨peer, vk, ak, now, rfl⟩
  refine ⟨le_rfl, ⟨[], rfl, .nil _ _⟩, rfl⟩

/-- **Sessions are isolated, while every attach finds the sink empty**: in every run in which no
candidate and no message waits when a session is attached, whatever is drained or taken since the
last attach was produced since then. -/
theorem session_isolated
    (h : (isolationSystem C T J).ReachableVia (fun w op => attachesClean w op = true) w) :
    Isolated J w := by
  have hw := isolationSystem_separate h
  obtain ⟨out, hice, hcarried⟩ := hw.signals
  refine ⟨?_, ?_⟩
  · rw [hice]
    exact hcarried.of_append_left.mono_candidates _
  · rw [hw.data]
    exact List.prefix_append _ _

end

/-! ## Concrete runs -/

/-- Attach a session, start its media and drain its signals. -/
def demoSessionOps (sid : String) : List (ManagerOp (Recorded MockPeer)) :=
  [.attach sid (.ok ()) 0, .startMedia ⟨.ok "synthetic", .ok "synthetic", .ok "openh264"⟩,
    .takeOutboundSignals]

/-- A manager on the given transport, before its first session. -/
def demoIsolationWorld (peer : MockPeer) : IsolationWorld MockPeer :=
  ⟨.withPeer ⟨peer, []⟩ .synthetic .synthetic 0, 0, [], []⟩

/-- A fresh transport: the offer of the session and its candidate go out. -/
theorem session_isolated_freshRun :
    ∃ w : IsolationWorld MockPeer, w.drained.length = 2 ∧ Isolated demoCodec w := by
  have hrun : ((((isolationSystem .windowed mockTransport demoCodec).restrict
      attachesClean).runFrom (demoIsolationWorld (.new "host" (demoFingerprint 'A')))
        (demoSessionOps "a")).any fun w => decide (w.drained.length = 2)) = true := by
    decide +kernel
  obtain ⟨w, hw, hdrained⟩ := (Option.any_eq_true _ _).mp hrun
  have hinit : ((isolationSystem .windowed mockTransport demoCodec).restrict
      attachesClean).Reachable (demoIsolationWorld (.new "host" (demoFingerprint 'A'))) :=
    .init ⟨_, _, _, _, rfl⟩
  exact ⟨w, of_decide_eq_true hdrained, session_isolated (System.reachableVia_of_restrict
    (fun _ _ h => h) (System.reachable_of_runFrom hinit hw))⟩

/-- The transport hands over a candidate and a message of session `a`, which is then detached. -/
def demoLeftoverOps : List (ManagerOp (Recorded MockPeer)) :=
  [.attach "a" (.ok ()) 0,
    .transport ⟨demoPeer, []⟩ [.iceCandidate demoPeer.hostCandidate, .data demoInput], .detach]

/-- **What waits in the sink goes to the next session**: its queue carries a candidate and it takes
a message, although its transport has produced nothing since its attach. -/
theorem session_isolated_fails :
    ¬ ∀ w, (isolationSystem .windowed mockTransport demoCodec).Reachable w →
      Isolated demoCodec w := by
  intro hclaim
  have hrun : (((isolationSystem .windowed mockTransport demoCodec).runFrom
      (demoIsolationWorld demoPeer) (demoLeftoverOps ++ demoSessionOps "b" ++
        [.pollInbound fun _ => ⟨0, .ok ()⟩])).any fun w =>
          decide (w.fresh.length = 0 ∧ w.drained.length = 1 ∧ w.taken.length = 1)) = true := by
    decide +kernel
  obtain ⟨w, hw, hcheck⟩ := (Option.any_eq_true _ _).mp hrun
  obtain ⟨hfresh, -, htaken⟩ := of_decide_eq_true hcheck
  have hinit : (isolationSystem .windowed mockTransport demoCodec).Reachable
      (demoIsolationWorld demoPeer) := .init ⟨_, _, _, _, rfl⟩
  have hreach := System.reachable_of_runFrom hinit hw
  have hprefix := (hclaim w hreach).2.length_le
  rw [List.length_eq_zero_iff.mp hfresh, htaken] at hprefix
  exact absurd hprefix (by decide)

end RemoteLink.Host
