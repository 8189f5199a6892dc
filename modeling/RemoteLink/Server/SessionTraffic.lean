import RemoteLink.Server.SessionCases
import RemoteLink.Server.WsInvariant

set_option autoImplicit false

/-!
# Who receives what from the registry

Every message the registry puts on a channel is accounted for: it is announced to the host of a
new session, told to a party of a session that is accepted, rejected or closed, relayed from one
party to the other, a notice to a replaced connection, or the reply of a connection handler.

## Main definitions

* `RegistryInner.Sends` — what is sent between two registries.
* `RegistryEvent.emits` — the messages an event puts on channels.
* `Delivery` — the reasons for which an event puts a message on a channel.

## Main results

* `RegistryEvent.perform_sends` — every message of an event has such a reason.
* `wsSystem_replies` — a handler's reply is never a media message.
* `relay_isolated` — media messages travel between the two parties of their active session.
-/

namespace RemoteLink.Server

open RemoteLink.Library RemoteLink.Protocol

namespace RegistryInner

/-! ## Messages sent between two registries -/

/-- `g'` has sent what `g` had, and then only messages that satisfy `P`. -/
def Sends (P : ConnId → SignalMessage → Prop) (g g' : RegistryInner) : Prop :=
  ∃ new, g'.sent = g.sent ++ new ∧ ∀ c m, (c, m) ∈ new → P c m

namespace Sends

variable {P Q : ConnId → SignalMessage → Prop} {g g' g'' : RegistryInner}

theorem of_eq (h : g'.sent = g.sent) : Sends P g g' :=
  ⟨[], by rw [h, List.append_nil], by simp⟩

theorem of_push {c : ConnId} {m : SignalMessage} (hP : P c m) : Sends P g (g.push c m) := by
  refine ⟨_, g.push_sent c m, fun c' m' hmem => ?_⟩
  split_ifs at hmem
  · obtain ⟨rfl, rfl⟩ := Prod.mk.inj (List.mem_singleton.mp hmem)
    exact hP
  · cases hmem

theorem trans (h : Sends P g g') (h' : Sends P g' g'') : Sends P g g'' := by
  obtain ⟨new, hs, hP⟩ := h
  obtain ⟨new', hs', hP'⟩ := h'
  refine ⟨new ++ new', by rw [hs', hs, List.append_assoc], fun c m hmem => ?_⟩
  rcases List.mem_append.mp hmem with hmem | hmem
  · exact hP c m hmem
  · exact hP' c m hmem

/-- One more message. -/
theorem push (h : Sends P g g') {c : ConnId} {m : SignalMessage} (hP : P c m) :
    Sends P g (g'.push c m) :=
  h.trans (of_push hP)

/-- What is sent does not depend on the other maps. -/
theorem congr (h : Sends P g g') (hs : g''.sent = g'.sent) : Sends P g g'' :=
  h.trans (of_eq hs)

theorem mono (h : Sends P g g') (hPQ : ∀ c m, P c m → Q c m) : Sends Q g g' := by
  obtain ⟨new, hs, hP⟩ := h
  exact ⟨new, hs, fun c m hmem => hPQ c m (hP c m hmem)⟩

end Sends

/-! ## Closing -/

/-- A `session_end` of a session stored in `g`, to one of its parties. -/
def Ends (g : RegistryInner) (c : ConnId) (m : SignalMessage) : Prop :=
  ∃ sid s reason, g.sessions.lookup sid = some s ∧ s.party c ∧
    m = .sessionEnd sid s.nextSignalSeq reason

/-- Closing a session tells its parties. -/
theorem close_sends (g : RegistryInner) (sid reason : String) :
    g.Sends g.Ends (g.closeSessionLocked sid reason) := by
  unfold closeSessionLocked
  rcases hs : g.sessions.lookup sid with _ | s
  · exact .of_eq rfl
  · dsimp only
    split_ifs
    · exact .of_eq rfl
    · refine Sends.push (Sends.push (.of_eq rfl) ?_) ?_
      · exact ⟨sid, s, reason, hs, .inl rfl, rfl⟩
      · exact ⟨sid, s, reason, hs, .inr rfl, rfl⟩

theorem closeAll_sends (g : RegistryInner) (sids : List String) (reason : String) :
    g.Sends g.Ends (g.closeAll sids reason) := by
  induction sids generalizing g with
  | nil => exact .of_eq rfl
  | cons sid sids ih =>
    refine (g.close_sends sid reason).trans ((ih _).mono ?_)
    -- a session that is still stored after the first close was stored before
    rintro c m ⟨sid', s, reason', hs, hparty, rfl⟩
    rw [sessions_close] at hs
    split_ifs at hs
    exact ⟨sid', s, reason', hs, hparty, rfl⟩

theorem reap_sends (g : RegistryInner) (now : Time) :
    g.Sends g.Ends (g.reapExpired now).2 :=
  g.closeAll_sends _ _

/-- Evicting a connection tells it, and nobody else. -/
theorem evict_sends {P : ConnId → SignalMessage → Prop} (g : RegistryInner) (old conn : ConnId)
    (publicId : String)
    (hP : P old (.error "connection_replaced" "host reconnected on another socket")) :
    g.Sends P (g.evict old conn publicId) := by
  have hpush : g.Sends P ({ g with
      sessions := g.sessions.mapVals fun _ s => s.transfer old conn publicId }.push old
        (.error "connection_replaced" "host reconnected on another socket")) :=
    .push (.of_eq rfl) hP
  exact hpush.congr rfl

end RegistryInner

/-! ## Reasons for a message -/

namespace RegistryEvent

/-- The messages that an event puts on channels. -/
def emits (ttls : Ttls) (g : RegistryInner) (e : RegistryEvent) :
    List (ConnId × SignalMessage) :=
  (e.perform ttls g).2.sent.drop g.sent.length

end RegistryEvent

/-- Why an event puts a message on the channel of a connection. -/
inductive Delivery (ttls : Ttls) (g : RegistryInner) :
    RegistryEvent → ConnId → SignalMessage → Prop
  | reply (c m) : Delivery ttls g (.sendTo c m) c m
  | replaced (conn identity c) : Delivery ttls g (.bindPeer conn identity) c
      (.error "connection_replaced" "host reconnected on another socket")
  | closed (e c m) (h : g.Ends c m) : Delivery ttls g e c m
  | announced (req now seq s)
      (hs : (g.createPendingSession ttls.pending req now).2.sessions.lookup req.sessionId = some s) :
      Delivery ttls g (.createPendingSession req now) s.hostConn
        (RegistryInner.incomingMessage req seq)
  | accepted (conn sid seq now s) (hs : g.sessions.lookup sid = some s) :
      Delivery ttls g (.acceptSession conn sid seq now) s.viewerConn (.sessionAccept sid seq)
  | rejected (conn sid seq reason now s) (hs : g.sessions.lookup sid = some s) :
      Delivery ttls g (.rejectSession conn sid seq reason now) s.viewerConn
        (.sessionReject sid seq reason)
  | hungUp (conn sid seq reason now s) (hs : g.sessions.lookup sid = some s)
      (hparty : s.party conn) :
      Delivery ttls g (.endSession conn sid seq reason now) (s.otherParty conn)
        (.sessionEnd sid seq reason)
  | relayed (from_ msg now sid seq s) (hkey : RegistryInner.relayKey? msg = some (sid, seq))
      (hs : g.sessions.lookup sid = some s) (hlive : sid ∉ g.expired now)
      (hactive : s.state = .active) (hparty : s.party from_)
      (hrole : RegistryInner.relayRoleError msg (decide (s.hostConn = from_)) = none) :
      Delivery ttls g (.relayMediaSignal from_ msg now) (s.otherParty from_) msg

namespace RegistryEvent

open RegistryInner

variable {ttls : Ttls} {g : RegistryInner}

/-- What is closed by the way is a reason for every event. -/
theorem ends_delivery (e : RegistryEvent) : ∀ c m, g.Ends c m → Delivery ttls g e c m :=
  fun c m h => .closed e c m h

/-- **Every message that an event puts on a channel has a reason.**

**Proof sketch.** By cases on the event. An event that reads the clock first reaps, which ends
sessions of their parties; what it does then is one of the cases of its operation, and each case
sends at most one message. -/
theorem perform_sends (e : RegistryEvent) :
    g.Sends (Delivery ttls g e) (e.perform ttls g).2 := by
  have hreap : ∀ now e, g.Sends (Delivery ttls g e) (g.reapExpired now).2 := fun now e =>
    (g.reap_sends now).mono (ends_delivery e)
  cases e with
  | registerConn => exact .of_eq rfl
  | dropReceiver conn => exact .of_eq rfl
  | sendTo conn msg => exact .of_push (.reply conn msg)
  | bindPeer conn identity =>
    obtain ⟨role, devicePublicId, deviceId, anonymous⟩ := identity
    rcases role with _ | _
    · rcases devicePublicId with _ | publicId
      · exact .of_eq rfl
      · have hpub : g.Sends (Delivery ttls g (.bindPeer conn ⟨.host, some publicId, deviceId,
            anonymous⟩)) (g.publishHost conn publicId) := by
          unfold publishHost
          dsimp only
          rcases g.hostByPublicId.lookup publicId with _ | old
          · exact .of_eq rfl
          · dsimp only
            split_ifs
            · exact .of_eq rfl
            · exact .trans (.of_eq rfl) (evict_sends _ old conn publicId (.replaced _ _ old))
        exact hpub.congr rfl
    · exact .of_eq rfl
  | unregisterConn conn =>
    exact .trans (.of_eq rfl) ((closeAll_sends _ _ "peer_disconnected").mono
      fun c m h => .closed _ c m h)
  | reapExpired now => exact hreap now _
  | createPendingSession req now =>
    rcases g.create_cases now ttls.pending req with ⟨e, -, heq⟩ |
      ⟨hostConn, incoming, next, -, -, -, -, -, heq⟩
    · exact (hreap now _).congr (congrArg (fun r => r.2.sent) heq)
    · rcases (g.reapExpired now).2.insertPending_cases req
        (pendingSession ttls.pending req hostConn next now) incoming with ⟨-, hok⟩ | ⟨-, herr⟩
      · refine (hreap now _).trans ⟨[(hostConn, incomingMessage req incoming)],
          congrArg (fun r => r.2.sent) (heq.trans hok), fun c m hmem => ?_⟩
        obtain ⟨rfl, rfl⟩ := Prod.mk.inj (List.mem_singleton.mp hmem)
        refine .announced req now incoming (pendingSession ttls.pending req c next now) ?_
        rw [heq, hok]
        exact AList.lookup_insert _
      · exact (hreap now _).congr (congrArg (fun r => r.2.sent) (heq.trans herr))
  | acceptSession conn sid seq now =>
    rcases g.accept_cases now ttls.active conn sid seq with ⟨code, text, heq⟩ | ⟨s, hs, -, -, -, heq⟩
    · exact (hreap now _).congr (congrArg (fun r => r.2.sent) heq)
    · show g.Sends _ (g.acceptSession ttls.active conn sid seq now).2
      rw [heq]
      refine .push ?_ (.accepted conn sid seq now s (lookup_of_reap hs).1)
      exact (hreap now _).congr rfl
  | rejectSession conn sid seq reason now =>
    rcases g.reject_cases now conn sid seq reason with ⟨code, text, heq⟩ | ⟨s, hs, -, -, -, heq⟩
    · exact (hreap now _).congr (congrArg (fun r => r.2.sent) heq)
    · show g.Sends _ (g.rejectSession conn sid seq reason now).2
      rw [heq]
      refine .push ?_ (.rejected conn sid seq reason now s (lookup_of_reap hs).1)
      exact (hreap now _).congr rfl
  | endSession conn sid seq reason now =>
    rcases g.end_cases now conn sid seq reason with ⟨code, text, heq⟩ | ⟨s, -, -, heq⟩ |
      ⟨s, hs, hparty, -, -, heq⟩
    · exact (hreap now _).congr (congrArg (fun r => r.2.sent) heq)
    · exact (hreap now _).congr (congrArg (fun r => r.2.sent) heq)
    · show g.Sends _ (g.endSession conn sid seq reason now).2
      rw [heq]
      refine .push ?_ (.hungUp conn sid seq reason now s (lookup_of_reap hs).1 hparty)
      exact (hreap now _).congr rfl
  | forceDisconnect sid reason now =>
    rcases g.force_cases now sid reason with heq | ⟨s, -, -, heq⟩ | ⟨s, hs, -, heq⟩
    · exact (hreap now _).congr (congrArg (fun r => r.2.sent) heq)
    · exact (hreap now _).congr (congrArg (fun r => r.2.sent) heq)
    · refine .congr ((hreap now _).trans ((close_sends _ sid reason).mono ?_))
        (congrArg (fun r => r.2.sent) heq)
      rintro c m ⟨sid', s', reason', hs', hparty, rfl⟩
      exact .closed _ _ _ ⟨sid', s', reason', (lookup_of_reap hs').1, hparty, rfl⟩
  | relayMediaSignal conn msg now =>
    rcases g.relay_cases now conn msg with ⟨-, code, text, heq⟩ | ⟨sid, seq, hkey, hcases⟩
    · exact .of_eq (congrArg (fun r => r.2.sent) heq)
    rcases hcases with ⟨code, text, heq⟩ | ⟨s, -, -, -, -, -, heq⟩ |
      ⟨s, hs, hparty, hactive, -, hrole, heq⟩
    · exact (hreap now _).congr (congrArg (fun r => r.2.sent) heq)
    · exact (hreap now _).congr (congrArg (fun r => r.2.sent) heq)
    · rcases (g.reapExpired now).2.forward_cases conn sid seq s msg with ⟨-, hok⟩ | ⟨-, text, herr⟩
      · refine (hreap now _).trans ⟨[(s.otherParty conn, msg)],
          congrArg (fun r => r.2.sent) (heq.trans hok), fun c m hmem => ?_⟩
        obtain ⟨rfl, rfl⟩ := Prod.mk.inj (List.mem_singleton.mp hmem)
        exact .relayed conn m now sid seq s hkey (lookup_of_reap hs).1 (lookup_of_reap hs).2
          hactive hparty hrole
      · exact (hreap now _).congr (congrArg (fun r => r.2.sent) (heq.trans herr))

/-- A refusal is not a media message. -/
theorem perform_error_plain {e : RegistryEvent} {err : SignalMessage}
    (h : (e.perform ttls g).1 = .error err) : relayKey? err = none := by
  have herror : ∀ {r : Except SignalMessage Unit × RegistryInner} {code text : String}
      {g' : RegistryInner}, r = (.error (.error code text), g') → r.1 = .error err →
      relayKey? err = none := by
    rintro r code text g' rfl hr
    obtain rfl := Except.error.inj hr
    rfl
  have hok : ∀ {r : Except SignalMessage Unit × RegistryInner} {g' : RegistryInner},
      r = (.ok (), g') → r.1 = .error err → relayKey? err = none := by
    rintro r g' rfl hr
    cases hr
  cases e with
  | registerConn => cases h
  | dropReceiver conn => cases h
  | sendTo conn msg => cases h
  | bindPeer conn identity => cases h
  | unregisterConn conn => cases h
  | reapExpired now => cases h
  | forceDisconnect sid reason now => cases h
  | createPendingSession req now =>
    rcases g.create_cases now ttls.pending req with ⟨e, hplain, heq⟩ |
      ⟨hostConn, incoming, next, -, -, -, -, -, heq⟩
    · rw [perform, heq] at h
      obtain rfl := Except.error.inj h
      rcases hplain with ⟨code, text, rfl⟩ | rfl
      · rfl
      · rfl
    · rcases (g.reapExpired now).2.insertPending_cases req
        (pendingSession ttls.pending req hostConn next now) incoming with ⟨-, hins⟩ | ⟨-, hins⟩
      · exact hok (heq.trans hins) h
      · exact herror (heq.trans hins) h
  | acceptSession conn sid seq now =>
    rcases g.accept_cases now ttls.active conn sid seq with ⟨code, text, heq⟩ |
      ⟨s, -, -, -, -, heq⟩
    · exact herror heq h
    · exact hok heq h
  | rejectSession conn sid seq reason now =>
    rcases g.reject_cases now conn sid seq reason with ⟨code, text, heq⟩ | ⟨s, -, -, -, -, heq⟩
    · exact herror heq h
    · exact hok heq h
  | endSession conn sid seq reason now =>
    rcases g.end_cases now conn sid seq reason with ⟨code, text, heq⟩ | ⟨s, -, -, heq⟩ |
      ⟨s, -, -, -, -, heq⟩
    · exact herror heq h
    · exact hok heq h
    · exact hok heq h
  | relayMediaSignal conn msg now =>
    rcases g.relay_cases now conn msg with ⟨-, code, text, heq⟩ | ⟨sid, seq, -, hcases⟩
    · exact herror heq h
    rcases hcases with ⟨code, text, heq⟩ | ⟨s, -, -, -, -, -, heq⟩ | ⟨s, -, -, -, -, -, heq⟩
    · exact herror heq h
    · exact hok heq h
    · rcases (g.reapExpired now).2.forward_cases conn sid seq s msg with ⟨-, hfwd⟩ |
        ⟨-, text, hfwd⟩
      · exact hok (heq.trans hfwd) h
      · exact herror (heq.trans hfwd) h

end RegistryEvent

/-! ## Replies of the connection handlers -/

/-- A handler about to reply does not reply with a media message. -/
def Stage.PlainReply : Stage → Prop
  | .replying msg _ => RegistryInner.relayKey? msg = none
  | _ => True

/-- No handler is about to reply with a media message. -/
def PlainReplies (w : WsWorld) : Prop :=
  ∀ c t, w.tasks.lookup c = some t → t.stage.PlainReply

namespace PlainReplies

variable {cfg : ServerConfig} {w w' : WsWorld}

theorem goto (h : PlainReplies w) (conn : ConnId) (identity : Option PeerIdentity) {stage : Stage}
    (hstage : stage.PlainReply) (htasks : w'.tasks = w.tasks) :
    PlainReplies (w'.goto conn identity stage) := by
  intro c t ht
  simp only [WsWorld.goto, htasks, HashMap.lookup_insert_if] at ht
  split_ifs at ht
  · obtain rfl := Option.some.inj ht
    exact hstage
  · exact h c t ht

theorem finish (h : PlainReplies w) (conn : ConnId) (identity : Option PeerIdentity)
    {result : Except SignalMessage Unit}
    (hresult : ∀ e, result = .error e → RegistryInner.relayKey? e = none)
    (htasks : w'.tasks = w.tasks) : PlainReplies (w'.finish conn identity result) := by
  refine h.goto conn identity ?_ htasks
  rcases result with e | u
  · exact hresult e rfl
  · trivial

/-- A frame that is answered with an error message. -/
theorem refuse (h : PlainReplies w) (conn : ConnId) (identity : Option PeerIdentity)
    (code text : String) : PlainReplies (w.finish conn identity (.error (.error code text))) := by
  refine h.finish conn identity (fun e he => ?_) rfl
  obtain rfl := Except.error.inj he
  rfl

/-- A frame that is answered with the result of a registry method. -/
theorem perform (h : PlainReplies w) (ttls : Ttls) (e : RegistryEvent) (conn : ConnId)
    (identity : Option PeerIdentity) :
    PlainReplies ({ w with registry := (e.perform ttls w.registry).2 }.finish conn identity
      (e.perform ttls w.registry).1) :=
  h.finish conn identity (fun _ he => RegistryEvent.perform_error_plain he) rfl

theorem checkIntent_error {identity : PeerIdentity} {intent : Intent} {ans : Answers}
    {e : SignalMessage} (h : checkIntent identity intent ans = .error e) :
    RegistryInner.relayKey? e = none := by
  unfold checkIntent at h
  split_ifs at h
  · exact Except.error.inj h ▸ rfl
  · exact Except.error.inj h ▸ rfl
  · exact Except.error.inj h ▸ rfl
  · rcases hlimit : ans.ipLimit with _ | text
    · simp only [hlimit] at h
      rcases hdev : ans.device with u | (_ | d)
      · simp only [hdev] at h
        exact Except.error.inj h ▸ rfl
      · simp only [hdev] at h
        exact Except.error.inj h ▸ rfl
      · simp only [hdev] at h
        split_ifs at h
        · exact Except.error.inj h ▸ rfl
        · rcases hblk : ans.blocked with u | (_ | _)
          · simp only [hblk] at h
            exact Except.error.inj h ▸ rfl
          · simp [hblk] at h
          · simp only [hblk] at h
            exact Except.error.inj h ▸ rfl
    · simp only [hlimit] at h
      exact Except.error.inj h ▸ rfl

theorem otpGate_plain (w : WsWorld) (intent : Intent) (device : Device) (now : Time) :
    (otpGate w intent device now).PlainReply := by
  unfold otpGate
  rcases prefilterCode intent.prefilter with _ | code
  · dsimp only
    split_ifs
    · rfl
    · trivial
    · trivial
  · dsimp only
    split_ifs
    · trivial
    · trivial
    · trivial

theorem handleText (h : PlainReplies w) (conn : ConnId) (identity : PeerIdentity)
    (decoded : Except String SignalMessage) (ans : Answers) :
    PlainReplies (handleText cfg w conn identity decoded ans) := by
  rcases decoded with e | msg
  · exact h.refuse conn _ _ _
  have hperf := fun e => h.perform cfg.ttls e conn (some identity)
  have hserver := h.refuse conn (some identity) "protocol_error"
    "message type is server→client only"
  have hrelay := hperf (.relayMediaSignal conn msg ans.now)
  cases msg with
  | hello role version auth => exact h.refuse conn _ _ _
  | helloOk serverTime flags => exact hserver
  | sessionIncoming sid seq info mode pre => exact hserver
  | error code message => exact hserver
  | sessionOffer sid seq sdp sig => exact hrelay
  | sessionAnswer sid seq sdp => exact hrelay
  | iceCandidate sid seq candidate => exact hrelay
  | mediaRestart sid seq => exact hrelay
  | renegotiate sid seq => exact hrelay
  | authChallenge sid seq payload => exact hrelay
  | authResponse sid seq payload => exact hrelay
  | stats sid seq payload => exact hrelay
  | sessionEnd sid seq reason => exact hperf (.endSession conn sid seq reason ans.now)
  | sessionReject sid seq reason =>
    simp only [RemoteLink.Server.handleText]
    split_ifs
    · exact h.refuse conn _ _ _
    · exact hperf (.rejectSession conn sid seq reason ans.now)
  | sessionAccept sid seq =>
    simp only [RemoteLink.Server.handleText]
    split_ifs
    · exact h.refuse conn _ _ _
    · have hacc := hperf (.acceptSession conn sid seq ans.now)
      simp only [RegistryEvent.perform] at hacc
      rcases hres : w.registry.acceptSession cfg.ttls.active conn sid seq ans.now with
        ⟨e | u, registry⟩
      · simpa only [hres] using hacc
      · exact h.goto conn _ trivial rfl
  | sessionIntent sid seq host mode prefilter =>
    simp only [RemoteLink.Server.handleText]
    rcases hchk : checkIntent identity ⟨sid, seq, host, mode, prefilter⟩ ans with e | device
    · refine h.finish conn _ (fun e' he' => ?_) rfl
      exact Except.error.inj he' ▸ checkIntent_error hchk
    · exact h.goto conn _ (otpGate_plain w _ device ans.now) rfl

theorem proceed (h : PlainReplies w) {conn : ConnId} {t : ConnTask} {ans : Answers}
    (hs : proceed cfg w conn t ans = some w') : PlainReplies w' := by
  obtain ⟨identity, stage⟩ := t
  cases stage with
  | awaitHello => simp [RemoteLink.Server.proceed] at hs
  | ready => simp [RemoteLink.Server.proceed] at hs
  | greeting =>
    obtain rfl := Option.some.inj hs
    refine h.goto conn identity ?_ rfl
    split_ifs
    · trivial
    · rfl
  | prefiltering intent device code now =>
    obtain rfl := Option.some.inj hs
    simp only [RemoteLink.Server.prefilterStep]
    split_ifs
    · exact h.goto conn identity trivial rfl
    · exact h.goto conn identity rfl rfl
  | creating intent device checked =>
    rcases identity with _ | identity
    · simp [RemoteLink.Server.proceed] at hs
    · obtain rfl := Option.some.inj hs
      unfold RemoteLink.Server.createStep
      rcases ans.hostLimit with _ | e
      · dsimp only
        have hperf := h.perform cfg.ttls (.createPendingSession ⟨conn, intent.sessionId,
          intent.hostPublicId, device, intent.mode, intent.signalSeq, defaultViewerInfo identity⟩
          ans.now) conn (some identity)
        simp only [RegistryEvent.perform] at hperf
        rcases hres : w.registry.createPendingSession cfg.ttls.pending ⟨conn, intent.sessionId,
          intent.hostPublicId, device, intent.mode, intent.signalSeq, defaultViewerInfo identity⟩
          ans.now with ⟨e | u, registry⟩
        · simpa only [hres] using hperf
        · exact h.goto conn _ trivial rfl
      · exact h.refuse conn _ _ _
  | consuming sid checked =>
    rcases identity with _ | identity
    · simp [RemoteLink.Server.proceed] at hs
    · obtain rfl := Option.some.inj hs
      unfold RemoteLink.Server.consumeStep
      rcases identity.deviceId with _ | deviceId
      · exact h.goto conn _ trivial rfl
      · exact h.goto conn _ trivial rfl
  | replying msg andClose =>
    obtain rfl := Option.some.inj hs
    refine h.goto conn identity ?_ rfl
    split_ifs
    · trivial
    · trivial
  | closing =>
    obtain rfl := Option.some.inj hs
    intro c t ht
    dsimp only at ht
    rw [HashMap.lookup_erase_if] at ht
    split_ifs at ht
    exact h c t ht

theorem resolveDeviceToken_error {ans : Answers} {e : SignalMessage}
    (h : resolveDeviceToken ans = .error e) : RegistryInner.relayKey? e = none := by
  unfold resolveDeviceToken at h
  rcases hcred : ans.credential with u | (_ | ⟨device, expires⟩)
  · simp only [hcred] at h
    exact Except.error.inj h ▸ rfl
  · simp only [hcred] at h
    exact Except.error.inj h ▸ rfl
  · simp only [hcred] at h
    split_ifs at h
    exact Except.error.inj h ▸ rfl

theorem authenticate_error {role : Role} {auth : HelloAuth} {ans : Answers} {e : SignalMessage}
    (h : authenticate role auth ans = .error e) : RegistryInner.relayKey? e = none := by
  unfold authenticate at h
  rcases role with _ | _
  · dsimp only at h
    split_ifs at h
    · exact Except.error.inj h ▸ rfl
    · rcases hdev : resolveDeviceToken ans with e' | device
      · simp only [hdev] at h
        exact Except.error.inj h ▸ resolveDeviceToken_error hdev
      · simp only [hdev] at h
        split_ifs at h
        exact Except.error.inj h ▸ rfl
  · dsimp only at h
    split_ifs at h
    rcases hdev : resolveDeviceToken ans with e' | device
    · simp only [hdev] at h
      exact Except.error.inj h ▸ rfl
    · simp only [hdev] at h
      split_ifs at h
      exact Except.error.inj h ▸ rfl

theorem expectHello_error {frame : Frame} {ans : Answers} {e : SignalMessage}
    (h : expectHello frame ans = .error e) : RegistryInner.relayKey? e = none := by
  unfold expectHello at h
  split at h
  · exact Except.error.inj h ▸ rfl
  · exact Except.error.inj h ▸ rfl
  · exact Except.error.inj h ▸ rfl
  · exact Except.error.inj h ▸ rfl
  · split_ifs at h
    · exact Except.error.inj h ▸ rfl
    · rcases hlimit : ans.ipLimit with _ | lock
      · simp only [hlimit] at h
        exact authenticate_error h
      · simp only [hlimit] at h
        exact Except.error.inj h ▸ rfl
  · exact Except.error.inj h ▸ rfl

theorem handleFrame (h : PlainReplies w) {conn : ConnId} {t : ConnTask} {frame : Frame}
    {ans : Answers} (hs : handleFrame cfg w conn t frame ans = some w') : PlainReplies w' := by
  obtain ⟨identity, stage⟩ := t
  cases stage with
  | awaitHello =>
    simp only [RemoteLink.Server.handleFrame] at hs
    obtain rfl := Option.some.inj hs
    rcases hhello : expectHello frame ans with e | id
    · exact h.goto conn none (expectHello_error hhello) rfl
    · exact h.goto conn (some id) trivial rfl
  | ready =>
    rcases identity with _ | identity
    · simp [RemoteLink.Server.handleFrame] at hs
    · simp only [RemoteLink.Server.handleFrame] at hs
      obtain rfl := Option.some.inj hs
      cases frame with
      | text decoded => exact h.handleText conn identity decoded ans
      | binary => exact h.refuse conn _ _ _
      | pingPong => exact h
      | close => exact h.goto conn _ trivial rfl
  | greeting => simp [RemoteLink.Server.handleFrame] at hs
  | prefiltering intent device code now => simp [RemoteLink.Server.handleFrame] at hs
  | creating intent device checked => simp [RemoteLink.Server.handleFrame] at hs
  | consuming sid checked => simp [RemoteLink.Server.handleFrame] at hs
  | replying msg andClose => simp [RemoteLink.Server.handleFrame] at hs
  | closing => simp [RemoteLink.Server.handleFrame] at hs

/-- Every step of the route keeps its replies plain. -/
theorem step {e : WsEvent} (h : PlainReplies w) (hs : wsStep cfg w e = some w') :
    PlainReplies w' := by
  cases e with
  | connect =>
    obtain rfl := Option.some.inj hs
    exact h.goto _ none trivial rfl
  | frame conn frame ans =>
    simp only [wsStep] at hs
    split_ifs at hs
    obtain ⟨t, -, hs⟩ := Option.bind_eq_some_iff.mp hs
    exact h.handleFrame hs
  | proceed conn ans =>
    obtain ⟨t, -, hs⟩ := Option.bind_eq_some_iff.mp hs
    exact h.proceed hs
  | dropReceiver conn =>
    obtain rfl := Option.some.inj hs
    exact h
  | mintOtp host hash ttlSecs now =>
    simp only [wsStep] at hs
    split_ifs at hs
    obtain rfl := Option.some.inj hs
    exact h
  | reapExpired now =>
    obtain rfl := Option.some.inj hs
    exact h
  | forceDisconnect sid reason now =>
    obtain rfl := Option.some.inj hs
    exact h

end PlainReplies

/-- **The replies of the connection handlers are never media messages.** -/
theorem wsSystem_replies {cfg : ServerConfig} {w : WsWorld} (h : (wsSystem cfg).Reachable w) :
    PlainReplies w :=
  h.invariant PlainReplies (fun w hw c t ht => by
      obtain rfl : w = .empty := hw
      simp [WsWorld.empty] at ht)
    fun _ _ _ hi _ hs => hi.step hs

/-! ## Isolation -/

/-- What the registry promises about a message it puts on the channel of `c`, in a step from `g`
to `g'`. A media message is relayed, as it is, from the party of an active session to the other
one, offers from the host and answers from the viewer; a message of a session goes to a party of
that session. -/
structure Isolated (g g' : RegistryInner) (e : RegistryEvent) (c : ConnId) (m : SignalMessage) :
    Prop where
  media : ∀ sid seq, RegistryInner.relayKey? m = some (sid, seq) → ∃ from_ now s,
    e = .relayMediaSignal from_ m now ∧ g.sessions.lookup sid = some s ∧ s.state = .active ∧
    now < s.expiresAt ∧ from_ ≠ c ∧
    (from_ = s.hostConn ∧ c = s.viewerConn ∨ from_ = s.viewerConn ∧ c = s.hostConn) ∧
    (∀ sdp sig, m = .sessionOffer sid seq sdp sig → from_ = s.hostConn) ∧
    (∀ sdp, m = .sessionAnswer sid seq sdp → from_ = s.viewerConn)
  party : ∀ sid, m.sessionId? = some sid → ∃ s,
    (g.sessions.lookup sid = some s ∨ g'.sessions.lookup sid = some s) ∧ s.party c

namespace Delivery

variable {ttls : Ttls} {phase : HashMap ConnId Phase} {g : RegistryInner} {e : RegistryEvent}
  {c : ConnId} {m : SignalMessage}

/-- The two parties of a session are different connections. -/
theorem parties_ne (h : Coherent phase g) {sid : String} {s : Session}
    (hs : g.sessions.lookup sid = some s) : s.hostConn ≠ s.viewerConn := by
  intro heq
  have hhost := h.hosts _ _ (h.published sid s hs)
  rw [heq, h.viewer sid s hs] at hhost
  cases hhost

/-- A message is sent over the session it names. -/
theorem relayKey_sessionId {m : SignalMessage} {sid : String} {seq : UInt64}
    (h : RegistryInner.relayKey? m = some (sid, seq)) : m.sessionId? = some sid := by
  cases m <;> simp_all [RegistryInner.relayKey?, SignalMessage.sessionId?]

/-- A session that a relay finds has not expired by the clock reading of the relay. -/
theorem not_expired (h : Coherent phase g) {sid : String} {s : Session} {now : Time}
    (hs : g.sessions.lookup sid = some s) (hlive : sid ∉ g.expired now) : now < s.expiresAt := by
  by_contra hle
  exact hlive (RegistryInner.mem_expired.mpr ⟨s, hs, h.live sid s hs, Int.not_lt.mp hle⟩)

/-- The two ends of a relayed message are the two parties of the session. -/
theorem relay_ends {s : Session} {from_ : ConnId} (h : s.party from_) :
    from_ = s.hostConn ∧ s.otherParty from_ = s.viewerConn ∨
      from_ = s.viewerConn ∧ s.otherParty from_ = s.hostConn := by
  unfold Session.otherParty
  split_ifs with hhost
  · exact .inl ⟨hhost.symm, rfl⟩
  · exact .inr ⟨(h.resolve_left hhost).symm, rfl⟩

/-- The role gate: an offer that passes is the host's, an answer that passes the viewer's. -/
theorem relay_role {s : Session} {from_ : ConnId} {m : SignalMessage} (hparty : s.party from_)
    (h : RegistryInner.relayRoleError m (decide (s.hostConn = from_)) = none) {sid : String}
    {seq : UInt64} : (∀ sdp sig, m = .sessionOffer sid seq sdp sig → from_ = s.hostConn) ∧
      ∀ sdp, m = .sessionAnswer sid seq sdp → from_ = s.viewerConn := by
  constructor
  · rintro sdp sig rfl
    by_contra hne
    simp [RegistryInner.relayRoleError, Ne.symm hne] at h
  · rintro sdp rfl
    by_contra hne
    have hhost : s.hostConn = from_ := hparty.resolve_right (Ne.symm hne)
    simp [RegistryInner.relayRoleError, hhost] at h

/-- **Whatever the reason, the message stays within its session**, unless it is the reply that a
handler asked for. -/
theorem isolated (h : Delivery ttls g e c m) (hcoh : Coherent phase g) :
    e = .sendTo c m ∨ Isolated g (e.perform ttls g).2 e c m := by
  cases h with
  | reply => exact .inl rfl
  | replaced conn identity =>
    refine .inr ⟨fun sid seq hkey => ?_, fun sid hsid => ?_⟩
    · cases hkey
    · cases hsid
  | closed _ _ _ hends =>
    obtain ⟨sid, s, reason, hs, hparty, rfl⟩ := hends
    refine .inr ⟨fun sid seq hkey => ?_, fun sid' hsid => ?_⟩
    · cases hkey
    · obtain rfl := Option.some.inj hsid
      exact ⟨s, .inl hs, hparty⟩
  | announced req now seq s hs =>
    refine .inr ⟨fun sid seq hkey => ?_, fun sid' hsid => ?_⟩
    · cases hkey
    · obtain rfl := Option.some.inj hsid
      exact ⟨s, .inr hs, .inl rfl⟩
  | accepted conn sid seq now s hs =>
    refine .inr ⟨fun sid seq hkey => ?_, fun sid' hsid => ?_⟩
    · cases hkey
    · obtain rfl := Option.some.inj hsid
      exact ⟨s, .inl hs, .inr rfl⟩
  | rejected conn sid seq reason now s hs =>
    refine .inr ⟨fun sid seq hkey => ?_, fun sid' hsid => ?_⟩
    · cases hkey
    · obtain rfl := Option.some.inj hsid
      exact ⟨s, .inl hs, .inr rfl⟩
  | hungUp conn sid seq reason now s hs hparty =>
    refine .inr ⟨fun sid seq hkey => ?_, fun sid' hsid => ?_⟩
    · cases hkey
    · obtain rfl := Option.some.inj hsid
      exact ⟨s, .inl hs, s.otherParty_party conn⟩
  | relayed from_ _ now sid seq s hkey hs hlive hactive hparty hrole =>
    refine .inr ⟨fun sid' seq' hkey' => ?_, fun sid' hsid => ?_⟩
    · obtain ⟨rfl, rfl⟩ := Prod.mk.inj (Option.some.inj (hkey.symm.trans hkey'))
      have hends := relay_ends hparty
      have hne := parties_ne hcoh hs
      refine ⟨from_, now, s, rfl, hs, hactive, not_expired hcoh hs hlive, ?_, hends,
        relay_role hparty hrole⟩
      rcases hends with ⟨hfrom, hto⟩ | ⟨hfrom, hto⟩
      · rw [hto, hfrom]
        exact hne
      · rw [hto, hfrom]
        exact hne.symm
    · obtain rfl := Option.some.inj ((relayKey_sessionId hkey).symm.trans hsid)
      exact ⟨s, .inl hs, s.otherParty_party from_⟩

end Delivery

/-- **Media messages stay between the two parties of their active session.** In every reachable
registry, whatever an event puts on a channel is appended to what was sent before, and each of
these messages is isolated: if it is a media message it is the unchanged message of a relay, from
one party of its active and unexpired session to the other, an offer from the host and an answer
from the viewer; if it belongs to a session it goes to a party of that session. The one exception
is the reply a connection handler sends to its own connection, and that is never a media message.

**Proof sketch.** Every message has a reason (`perform_sends`), and every reason keeps it within
its session (`Delivery.isolated`), where the coherence of the maps keeps the parties apart. The
replies are `wsSystem_replies`. -/
theorem relay_isolated :
    (∀ ttls w, (registrySystem ttls).Reachable w → ∀ e w',
      (registrySystem ttls).step w e = some w' →
      w'.inner.sent = w.inner.sent ++ e.emits ttls w.inner ∧
      ∀ c m, (c, m) ∈ e.emits ttls w.inner →
        e = .sendTo c m ∨ Isolated w.inner w'.inner e c m) ∧
    ∀ cfg v, (wsSystem cfg).Reachable v → PlainReplies v := by
  refine ⟨fun ttls w hw e w' hstep => ?_, fun cfg v hv => wsSystem_replies hv⟩
  have hw' : w'.inner = (e.perform ttls w.inner).2 := by
    simp only [registrySystem] at hstep
    split_ifs at hstep
    exact (congrArg RegistryWorld.inner (Option.some.inj hstep)).symm
  obtain ⟨new, hsent, hreason⟩ := @RegistryEvent.perform_sends ttls w.inner e
  have hemits : e.emits ttls w.inner = new := by
    rw [RegistryEvent.emits, hsent, List.drop_left]
  rw [hemits, hw']
  exact ⟨hsent, fun c m hm => (hreason c m hm).isolated (registry_coherent hw)⟩

/-- The host's offer reaches the viewer of its session. -/
theorem relay_isolated_offer : ∃ w,
    (registrySystem .default).runFrom ⟨.empty, ∅⟩ acceptedRun = some w ∧
    let offer := RegistryEvent.relayMediaSignal 1 (.sessionOffer "sess-1" 3 "v=0" "") (2 * second)
    (2, .sessionOffer "sess-1" 3 "v=0" "") ∈ offer.emits .default w.inner ∧
    Isolated w.inner (offer.perform .default w.inner).2 offer 2
      (.sessionOffer "sess-1" 3 "v=0" "") := by
  have hw : (registrySystem .default).runFrom ⟨.empty, ∅⟩ acceptedRun = some _ := rfl
  refine ⟨_, hw, List.mem_singleton.mpr rfl, ?_⟩
  have hisolated := (relay_isolated.1 .default _ (System.reachable_of_runFrom (.init rfl) hw)
    (.relayMediaSignal 1 (.sessionOffer "sess-1" 3 "v=0" "") (2 * second)) _ rfl).2 2 _
    (List.mem_singleton.mpr rfl)
  exact hisolated.resolve_left (by simp)

end RemoteLink.Server
