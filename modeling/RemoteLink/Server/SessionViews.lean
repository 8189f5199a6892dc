import RemoteLink.Server.SessionCases
import RemoteLink.Server.SessionTraffic

set_option autoImplicit false

/-!
# What the peers know of the sessions

Neither peer of a session asks the server about it. A peer knows of a session what the server has
told it and what its own calls have returned, and it acts on that. Whatever is called, expires, is
closed or disconnected, in any order, a connection that the server can still reach knows of its
sessions what the registry holds. The one exception is a host that has reconnected: the session it
has taken over was announced to its old connection.

## Main definitions

* `RegistryInner.knows` — what a connection should know of a session.
* `Views` — what the connections have been told.
* `viewSystem` — the registry's methods with what each of them tells.

## Main results

* `Agree.step` — every method keeps the views in agreement with the registry.
* `views_agree` — no reachable peer believes in a session that is not there, and none misses a
  state of a session that was announced to it.
-/

namespace RemoteLink.Server

open RemoteLink.Library RemoteLink.Protocol

/-! ## Views -/

/-- What a connection should know of a session: its state, if the connection is a party. -/
def RegistryInner.knows (g : RegistryInner) (c : ConnId) (sid : String) : Option SessionState :=
  (g.sessions.lookup sid).bind fun s =>
    if s.hostConn = c ∨ s.viewerConn = c then some s.state else none

/-- What each connection has been told of each session, and to which connection a session was last
announced. -/
structure Views where
  view : ConnId → String → Option SessionState
  home : String → Option ConnId

namespace Views

/-- Nobody has been told anything. -/
def empty : Views := ⟨fun _ _ => none, fun _ => none⟩

/-- A connection learns of a state of a session. -/
def set (v : Views) (c : ConnId) (sid : String) (state : Option SessionState) : Views :=
  { v with view := fun c' sid' => if c' = c ∧ sid' = sid then state else v.view c' sid' }

/-- A message arrives. -/
def hear (v : Views) (delivery : ConnId × SignalMessage) : Views :=
  match delivery.2 with
  | .sessionIncoming sid .. =>
    { v.set delivery.1 sid (some .pending) with
      home := fun sid' => if sid' = sid then some delivery.1 else v.home sid' }
  | .sessionAccept sid _ => v.set delivery.1 sid (some .active)
  | .sessionReject sid .. | .sessionEnd sid .. => v.set delivery.1 sid none
  | _ => v

/-- Messages arrive one after another. -/
def hearAll (v : Views) (deliveries : List (ConnId × SignalMessage)) : Views :=
  deliveries.foldl hear v

/-- The caller of a method learns what it has returned. -/
def learn (v : Views) (e : RegistryEvent) (result : Except SignalMessage Unit) : Views :=
  match result, e with
  | .error _, _ => v
  | .ok (), .createPendingSession req _ => v.set req.viewerConn req.sessionId (some .pending)
  | .ok (), .acceptSession conn sid _ _ => v.set conn sid (some .active)
  | .ok (), .rejectSession conn sid _ _ _ => v.set conn sid none
  | .ok (), .endSession conn sid _ _ _ => v.set conn sid none
  | .ok (), _ => v

@[simp] theorem hearAll_nil (v : Views) : v.hearAll [] = v := rfl

@[simp] theorem set_home (v : Views) (c : ConnId) (sid : String) (state : Option SessionState) :
    (v.set c sid state).home = v.home := rfl

theorem set_view (v : Views) (c c' : ConnId) (sid sid' : String) (state : Option SessionState) :
    (v.set c sid state).view c' sid' = if c' = c ∧ sid' = sid then state else v.view c' sid' := rfl

@[simp] theorem learn_error (v : Views) (e : RegistryEvent) (m : SignalMessage) :
    v.learn e (.error m) = v := rfl

/-- The views after a message was put on a channel: it is lost if the connection is not there. -/
def tell (v : Views) (g : RegistryInner) (c : ConnId) (m : SignalMessage) : Views :=
  if g.reaches c then v.hear (c, m) else v

section Tell

variable {v : Views} {g : RegistryInner} {c : ConnId} {m : SignalMessage} {sid : String}
  {state : Option SessionState}

theorem tell_view (h : v.hear (c, m) = v.set c sid state) (c' : ConnId) (sid' : String) :
    (v.tell g c m).view c' sid' =
      if g.reaches c = true ∧ c' = c ∧ sid' = sid then state else v.view c' sid' := by
  unfold tell
  by_cases hr : g.reaches c = true
  · rw [if_pos hr, h, set_view]
    simp only [hr, true_and]
  · rw [if_neg hr, if_neg (fun hand => hr hand.1)]

theorem tell_home (h : v.hear (c, m) = v.set c sid state) : (v.tell g c m).home = v.home := by
  unfold tell
  split_ifs
  · rw [h, set_home]
  · rfl

end Tell

/-- A relayed message says nothing of the state of its session. -/
theorem hear_relayed (v : Views) (c : ConnId) {m : SignalMessage} {key : String × UInt64}
    (h : RegistryInner.relayKey? m = some key) : v.hear (c, m) = v := by
  cases m <;> first | rfl | cases h

end Views

/-- The views `v` have become `v'` by what was sent between the registries `g` and `g'`. -/
def Heard (g : RegistryInner) (v : Views) (g' : RegistryInner) (v' : Views) : Prop :=
  ∃ new, g'.sent = g.sent ++ new ∧ v' = v.hearAll new

namespace Heard

variable {g g' g'' : RegistryInner} {v v' v'' : Views}

/-- Nothing was sent. -/
theorem of_eq (h : g'.sent = g.sent) : Heard g v g' v :=
  ⟨[], by rw [h, List.append_nil], rfl⟩

theorem trans (h : Heard g v g' v') (h' : Heard g' v' g'' v'') : Heard g v g'' v'' := by
  obtain ⟨new, hnew, rfl⟩ := h
  obtain ⟨new', hnew', rfl⟩ := h'
  refine ⟨new ++ new', by rw [hnew', hnew, List.append_assoc], ?_⟩
  exact (List.foldl_append ..).symm

/-- The part of the registry besides the sent messages does not matter. -/
theorem congr (h : Heard g v g' v') (hs : g''.sent = g'.sent) : Heard g v g'' v' := by
  obtain ⟨new, hnew, hv⟩ := h
  exact ⟨new, hs.trans hnew, hv⟩

/-- A message is put on a channel. -/
theorem push (g : RegistryInner) (v : Views) (c : ConnId) (m : SignalMessage) :
    Heard g v (g.push c m) (v.tell g c m) := by
  refine ⟨_, g.push_sent c m, ?_⟩
  unfold Views.tell
  split_ifs
  · rfl
  · rfl

/-- The views are what the new messages make of them. -/
theorem eq_hearAll (h : Heard g v g' v') : v' = v.hearAll (g'.sent.drop g.sent.length) := by
  obtain ⟨new, hnew, rfl⟩ := h
  rw [hnew, List.drop_left]

end Heard

@[simp] theorem RegistryInner.push_reaches (g : RegistryInner) (c c' : ConnId)
    (m : SignalMessage) : (g.push c m).reaches c' = g.reaches c' := by
  rw [RegistryInner.reaches, RegistryInner.push_conns, ← RegistryInner.reaches]

/-- The parties of a session are known connections. -/
theorem Coherent.party_lt {phase : HashMap ConnId Phase} {g : RegistryInner}
    (h : Coherent phase g) {sid : String} {s : Session} {c : ConnId}
    (hs : g.sessions.lookup sid = some s) (hc : s.party c) : c < g.nextConnId := by
  rcases hc with rfl | rfl
  · exact h.fresh _ (by rw [h.hosts _ _ (h.published sid s hs)]; rfl)
  · exact h.fresh _ (by rw [h.viewer sid s hs]; rfl)

/-! ## Agreement -/

/-- The views agree with the registry: a connection that can be reached knows what it should, save
for a session that its host took over from an older connection. -/
structure Agree (phase : HashMap ConnId Phase) (g : RegistryInner) (v : Views) : Prop where
  agree : ∀ c sid, g.reaches c = true → v.view c sid = g.knows c sid ∨
    v.view c sid = none ∧ ∃ s, g.sessions.lookup sid = some s ∧ s.hostConn = c ∧
      v.home sid ≠ some c
  known : ∀ c, (g.conns.lookup c).isSome → c < g.nextConnId
  unheard : ∀ c sid, g.nextConnId ≤ c → v.view c sid = none
  announced : ∀ sid c, v.home sid = some c →
    phase.lookup c = some (.bound .host) ∨ phase.lookup c = some .gone

namespace Agree

variable {phase : HashMap ConnId Phase} {g g' : RegistryInner} {v v' : Views}

theorem empty : Agree ∅ .empty .empty where
  agree _ _ h := by cases h
  known c h := by simp [RegistryInner.empty] at h
  unheard _ _ _ := rfl
  announced _ _ h := by cases h

/-- A connection that can be reached is a known one. -/
theorem lt_of_reaches (h : Agree phase g v) {c : ConnId} (hc : g.reaches c = true) :
    c < g.nextConnId := by
  refine h.known c ?_
  unfold RegistryInner.reaches at hc
  rcases hl : g.conns.lookup c with _ | tx
  · rw [hl] at hc
    cases hc
  · rfl

/-- A connection has heard nothing of a session of which it is no party. -/
theorem view_none (h : Agree phase g v) {c : ConnId} {sid : String} (hc : g.reaches c = true)
    (hparty : ∀ s, g.sessions.lookup sid = some s → ¬s.party c) : v.view c sid = none := by
  rcases h.agree c sid hc with hview | ⟨hview, -⟩
  · rw [hview, RegistryInner.knows]
    rcases hs : g.sessions.lookup sid with _ | s
    · rfl
    · exact if_neg (hparty s hs)
  · exact hview

/-- Agreement reads only the sessions and which connections can be reached. -/
theorem congr (h : Agree phase g v) (hs : g'.sessions = g.sessions)
    (hreach : ∀ c, g'.reaches c = true → g.reaches c = true)
    (hc : ∀ c, (g'.conns.lookup c).isSome → (g.conns.lookup c).isSome)
    (hn : g'.nextConnId = g.nextConnId) : Agree phase g' v where
  agree c sid hc' := by
    rw [RegistryInner.knows, hs]
    exact h.agree c sid (hreach c hc')
  known c hc' := by
    rw [hn]
    exact h.known c (hc c hc')
  unheard c sid hle := h.unheard c sid (hn ▸ hle)
  announced := h.announced

theorem push (h : Agree phase g v) (c : ConnId) (m : SignalMessage) : Agree phase (g.push c m) v :=
  h.congr (by simp) (by simp) (by simp) (by simp)

/-- Writing the record of one session, when the parties are told. -/
theorem write (h : Agree phase g v) {sid : String} (hconns : g'.conns = g.conns)
    (hnext : g'.nextConnId = g.nextConnId)
    (hother : ∀ k, k ≠ sid → g'.sessions.lookup k = g.sessions.lookup k)
    (hview : ∀ c k, k ≠ sid → v'.view c k = v.view c k)
    (hhome : ∀ k, k ≠ sid → v'.home k = v.home k)
    (hat : ∀ c, g.reaches c = true → v'.view c sid = g'.knows c sid ∨
      v'.view c sid = none ∧ ∃ s, g'.sessions.lookup sid = some s ∧ s.hostConn = c ∧
        v'.home sid ≠ some c)
    (hunheard : ∀ c, g.nextConnId ≤ c → v'.view c sid = none)
    (hannounced : ∀ c, v'.home sid = some c →
      phase.lookup c = some (.bound .host) ∨ phase.lookup c = some .gone) : Agree phase g' v' where
  agree c k hc := by
    have hreach : g.reaches c = true := by
      rwa [RegistryInner.reaches, hconns] at hc
    by_cases hk : k = sid
    · subst hk
      exact hat c hreach
    · rw [hview c k hk, hhome k hk, RegistryInner.knows, hother k hk]
      exact h.agree c k hreach
  known c := by
    rw [hconns, hnext]
    exact h.known c
  unheard c k hle := by
    rw [hnext] at hle
    by_cases hk : k = sid
    · subst hk
      exact hunheard c hle
    · rw [hview c k hk]
      exact h.unheard c k hle
  announced k c hk := by
    by_cases hks : k = sid
    · subst hks
      exact hannounced c hk
    · rw [hhome k hks] at hk
      exact h.announced k c hk

/-- Removing a session, when the parties that can be reached are told. -/
theorem remove (h : Agree phase g v) {sid : String} {s : Session}
    (hs : g.sessions.lookup sid = some s) (hconns : g'.conns = g.conns)
    (hnext : g'.nextConnId = g.nextConnId)
    (hsessions : ∀ k, g'.sessions.lookup k = if k = sid then none else g.sessions.lookup k)
    (hhome : v'.home = v.home) (hother : ∀ c k, k ≠ sid → v'.view c k = v.view c k)
    (hmono : ∀ c, v'.view c sid = v.view c sid ∨ v'.view c sid = none)
    (htold : ∀ c, g.reaches c = true → s.party c → v'.view c sid = none) : Agree phase g' v' := by
  refine h.write hconns hnext (fun k hk => by rw [hsessions, if_neg hk]) hother
    (fun k _ => by rw [hhome]) (fun c hc => .inl ?_) (fun c hle => ?_) (fun c hc => ?_)
  · have hgone : g'.knows c sid = none := by
      rw [RegistryInner.knows, hsessions, if_pos rfl]
      rfl
    rw [hgone]
    by_cases hparty : s.party c
    · exact htold c hc hparty
    · rcases hmono c with hsame | hnone
      · rw [hsame]
        refine h.view_none hc fun t ht => ?_
        rw [hs] at ht
        obtain rfl := Option.some.inj ht
        exact hparty
      · exact hnone
  · rcases hmono c with hsame | hnone
    · exact hsame.trans (h.unheard c sid hle)
    · exact hnone
  · exact h.announced sid c (by rwa [hhome] at hc)

/-- Updating a session without changing its parties, when those that can be reached are told. -/
theorem update (h : Agree phase g v) (hcoh : Coherent phase g) {sid : String} {s s' : Session}
    (hs : g.sessions.lookup sid = some s) (hhost : s'.hostConn = s.hostConn)
    (hviewer : s'.viewerConn = s.viewerConn) (hconns : g'.conns = g.conns)
    (hnext : g'.nextConnId = g.nextConnId)
    (hsessions : ∀ k, g'.sessions.lookup k = if k = sid then some s' else g.sessions.lookup k)
    (hhome : v'.home = v.home) (hother : ∀ c k, k ≠ sid → v'.view c k = v.view c k)
    (htold : ∀ c, g.reaches c = true → s.party c → v'.view c sid = some s'.state)
    (hmono : ∀ c, v'.view c sid = v.view c sid ∨ s.party c) : Agree phase g' v' := by
  refine h.write hconns hnext (fun k hk => by rw [hsessions, if_neg hk]) hother
    (fun k _ => by rw [hhome]) (fun c hc => .inl ?_) (fun c hle => ?_)
    (fun c hc => h.announced sid c (by rwa [hhome] at hc))
  · have hknows : g'.knows c sid =
        if s.hostConn = c ∨ s.viewerConn = c then some s'.state else none := by
      simp only [RegistryInner.knows, hsessions, if_true, Option.bind_some, hhost, hviewer]
    rw [hknows]
    split_ifs with hparty
    · exact htold c hc hparty
    · rw [(hmono c).resolve_right hparty]
      refine h.view_none hc fun t ht => ?_
      rw [hs] at ht
      obtain rfl := Option.some.inj ht
      exact hparty
  · rcases hmono c with hsame | hparty
    · exact hsame.trans (h.unheard c sid hle)
    · exact absurd (hcoh.party_lt hs hparty) (Nat.not_lt.mpr hle)

/-! ## Closing and reaping -/

/-- Closing a session tells both parties. -/
theorem close (h : Agree phase g v) (hlive : ∀ k t, g.sessions.lookup k = some t → t.state ≠ .closed)
    (sid reason : String) : ∃ v', Heard g v (g.closeSessionLocked sid reason) v' ∧
      Agree phase (g.closeSessionLocked sid reason) v' := by
  rcases hs : g.sessions.lookup sid with _ | s
  · have hsame : g.closeSessionLocked sid reason = g := by
      rw [RegistryInner.closeSessionLocked, hs]
    rw [hsame]
    exact ⟨v, .of_eq rfl, h⟩
  · let g₁ : RegistryInner := { g with
      sessions := g.sessions.erase sid, hostBusy := g.hostBusy.erase s.hostPublicId }
    let m := SignalMessage.sessionEnd sid s.nextSignalSeq reason
    have hclose : g.closeSessionLocked sid reason = (g₁.push s.hostConn m).push s.viewerConn m := by
      rw [RegistryInner.closeSessionLocked, hs]
      exact if_neg (hlive sid s hs)
    rw [hclose]
    let v₁ := v.tell g₁ s.hostConn m
    let v₂ := v₁.tell (g₁.push s.hostConn m) s.viewerConn m
    have hheard₁ : Heard g v (g₁.push s.hostConn m) v₁ := Heard.push g₁ v s.hostConn m
    refine ⟨v₂, hheard₁.trans (Heard.push _ v₁ s.viewerConn m), ?_⟩
    have hreach : ∀ c, g₁.reaches c = g.reaches c := fun _ => rfl
    have htell : ∀ (u : Views) c, u.hear (c, m) = u.set c sid none := fun _ _ => rfl
    have hview : ∀ c k, v₂.view c k =
        if g.reaches s.viewerConn = true ∧ c = s.viewerConn ∧ k = sid then none
        else if g.reaches s.hostConn = true ∧ c = s.hostConn ∧ k = sid then none
        else v.view c k := by
      intro c k
      rw [Views.tell_view (htell v₁ _), RegistryInner.push_reaches, Views.tell_view (htell v _),
        hreach, hreach]
    have hhome : v₂.home = v.home :=
      (Views.tell_home (htell v₁ _)).trans (Views.tell_home (htell v _))
    refine h.remove hs ?_ ?_ ?_ hhome (fun c k hk => ?_) (fun c => ?_) (fun c hc hparty => ?_)
    · simp [g₁]
    · simp [g₁]
    · intro k
      rw [RegistryInner.push_sessions, RegistryInner.push_sessions]
      exact HashMap.lookup_erase_if k sid g.sessions
    · rw [hview, if_neg (fun h => hk h.2.2), if_neg (fun h => hk h.2.2)]
    · rw [hview]
      split_ifs
      · exact .inr rfl
      · exact .inr rfl
      · exact .inl rfl
    · rw [hview]
      rcases hparty with rfl | rfl
      · simp [hc]
      · simp [hc]

/-- Closing several sessions. -/
theorem closeAll (h : Agree phase g v)
    (hlive : ∀ k t, g.sessions.lookup k = some t → t.state ≠ .closed) (sids : List String)
    (reason : String) : ∃ v', Heard g v (g.closeAll sids reason) v' ∧
      Agree phase (g.closeAll sids reason) v' := by
  induction sids generalizing g v with
  | nil => exact ⟨v, .of_eq rfl, h⟩
  | cons sid sids ih =>
    obtain ⟨v₁, hheard₁, h₁⟩ := h.close hlive sid reason
    have hlive₁ : ∀ k t, (g.closeSessionLocked sid reason).sessions.lookup k = some t →
        t.state ≠ .closed := by
      intro k t ht
      rw [RegistryInner.sessions_close] at ht
      split_ifs at ht
      exact hlive k t ht
    obtain ⟨v₂, hheard₂, h₂⟩ := ih h₁ hlive₁
    exact ⟨v₂, hheard₁.trans hheard₂, h₂⟩

/-- Reaping tells the parties of the sessions that have expired. -/
theorem reap (h : Agree phase g v) (hcoh : Coherent phase g) (now : Time) :
    ∃ v', Heard g v (g.reapExpired now).2 v' ∧ Agree phase (g.reapExpired now).2 v' :=
  h.closeAll hcoh.live _ _

/-! ## Session operations -/

section Operations

variable {e : RegistryEvent} (ttls : Ttls)

/-- What an event must keep: the views, after what it sends and what its caller learns, agree with
the registry after it. -/
def Kept (phase : HashMap ConnId Phase) (g : RegistryInner) (v : Views) (ttls : Ttls)
    (e : RegistryEvent) : Prop :=
  ∃ v', Heard g v (e.perform ttls g).2 v' ∧
    Agree phase (e.perform ttls g).2 (v'.learn e (e.perform ttls g).1)

/-- An event that refuses after reaping. -/
theorem Kept.refused (h : Agree phase g v) (hcoh : Coherent phase g) {now : Time}
    {m : SignalMessage} (he : e.perform ttls g = (.error m, (g.reapExpired now).2)) :
    Kept phase g v ttls e := by
  obtain ⟨v₁, hheard, h₁⟩ := h.reap hcoh now
  refine ⟨v₁, ?_, ?_⟩
  · rw [he]
    exact hheard
  · rw [he]
    exact h₁

/-- **Create**: the host is told of the new session and the viewer learns of it. -/
theorem createPendingSession (h : Agree phase g v) (hcoh : Coherent phase g)
    {req : CreatePendingSession} (hviewer : phase.lookup req.viewerConn = some (.bound .viewer))
    (now : Time) : Kept phase g v ttls (.createPendingSession req now) := by
  rcases g.create_cases now ttls.pending req with ⟨m, -, heq⟩ | hcreate
  · exact .refused ttls h hcoh heq
  obtain ⟨hostConn, incomingSeq, nextSeq, hsid, -, hhost, -, -, heq⟩ := hcreate
  obtain ⟨v₁, hheard, h₁⟩ := h.reap hcoh now
  have hcoh₁ := hcoh.reap now
  let g₁ := (g.reapExpired now).2
  let s := RegistryInner.pendingSession ttls.pending req hostConn nextSeq now
  have hperform : (RegistryEvent.createPendingSession req now).perform ttls g =
      g₁.insertPending req s incomingSeq := heq
  unfold Kept
  rw [hperform]
  rcases g₁.insertPending_cases req s incomingSeq with ⟨hreach, hins⟩ | ⟨-, hins⟩
  · rw [hins]
    let v₂ := v₁.hear (hostConn, RegistryInner.incomingMessage req incomingSeq)
    have hview : ∀ c k, (v₂.set req.viewerConn req.sessionId (some .pending)).view c k =
        if k = req.sessionId ∧ (c = hostConn ∨ c = req.viewerConn) then some .pending
        else v₁.view c k := by
      intro c k
      have hv₂ : v₂.view c k =
          if c = hostConn ∧ k = req.sessionId then some .pending else v₁.view c k := rfl
      rw [Views.set_view, hv₂]
      by_cases hk : k = req.sessionId
      · by_cases hviewer : c = req.viewerConn
        · simp [hk, hviewer]
        · simp [hk, hviewer]
      · simp [hk]
    refine ⟨v₂, hheard.trans ⟨_, rfl, rfl⟩, ?_⟩
    refine h₁.write rfl rfl (fun k hk => ?_) (fun c k hk => ?_) (fun k hk => if_neg hk)
      (fun c hc => .inl ?_) (fun c hle => ?_) (fun c hc => ?_)
    · exact AList.lookup_insert_ne hk
    · exact (hview c k).trans (if_neg fun hand => hk hand.1)
    · -- both parties know of the new session, and nobody else had heard of it
      refine (hview c _).trans ?_
      have hknows : RegistryInner.knows { g₁ with
          hostBusy := g₁.hostBusy.insert req.hostPublicId req.sessionId
          sessions := g₁.sessions.insert req.sessionId s
          sent := g₁.sent ++ [(s.hostConn, RegistryInner.incomingMessage req incomingSeq)] } c req.sessionId =
          if hostConn = c ∨ req.viewerConn = c then some .pending else none := by
        simp only [RegistryInner.knows, AList.lookup_insert, Option.bind_some]
        rfl
      rw [hknows]
      by_cases hparty : hostConn = c ∨ req.viewerConn = c
      · rw [if_pos hparty, if_pos ⟨rfl, hparty.imp Eq.symm Eq.symm⟩]
      · rw [if_neg hparty, if_neg (fun hand => hparty (hand.2.imp Eq.symm Eq.symm))]
        refine h₁.view_none hc fun t ht => ?_
        rw [hsid] at ht
        cases ht
    · refine (hview c _).trans ((if_neg ?_).trans (h₁.unheard c _ hle))
      rintro ⟨-, rfl | rfl⟩
      · exact absurd (h₁.lt_of_reaches hreach) (Nat.not_lt.mpr hle)
      · exact absurd (hcoh₁.fresh _ (by rw [hviewer]; rfl)) (Nat.not_lt.mpr hle)
    · have hc' : hostConn = c := by
        have hhome : v₂.home req.sessionId = some hostConn := if_pos rfl
        exact Option.some.inj (hhome.symm.trans hc)
      exact .inl (hc' ▸ hcoh.hosts _ _ hhost)
  · -- the host could not be told, and the session is taken back
    rw [hins]
    refine ⟨v₁, hheard.trans (.of_eq rfl), ?_⟩
    refine h₁.write rfl rfl (fun k hk => ?_) (fun _ _ _ => rfl) (fun _ _ => rfl)
      (fun c hc => .inl ?_) (fun c hle => h₁.unheard c req.sessionId hle)
      (fun c hc => h₁.announced _ c hc)
    · exact (AList.lookup_erase_ne hk).trans (AList.lookup_insert_ne hk)
    · have hgone : RegistryInner.knows { g₁ with
          hostBusy := (g₁.hostBusy.insert req.hostPublicId req.sessionId).erase s.hostPublicId
          sessions := (g₁.sessions.insert req.sessionId s).erase req.sessionId } c
          req.sessionId = none := by
        simp only [RegistryInner.knows, AList.lookup_erase, Option.bind_none]
      rw [hgone]
      refine h₁.view_none hc fun t ht => ?_
      rw [hsid] at ht
      cases ht

/-- **Accept**: the viewer is told that the session is active, and the host learns it. -/
theorem acceptSession (h : Agree phase g v) (hcoh : Coherent phase g) (conn : ConnId) (sid : String)
    (seq : UInt64) (now : Time) : Kept phase g v ttls (.acceptSession conn sid seq now) := by
  rcases g.accept_cases now ttls.active conn sid seq with ⟨code, text, heq⟩ | ⟨s, hs, rfl, -, -, heq⟩
  · exact .refused ttls h hcoh heq
  obtain ⟨v₁, hheard, h₁⟩ := h.reap hcoh now
  let g₁ := (g.reapExpired now).2
  let s' := s.accepted ttls.active seq now
  let g₂ : RegistryInner := { g₁ with sessions := g₁.sessions.insert sid s' }
  let m := SignalMessage.sessionAccept sid seq
  have hperform : (RegistryEvent.acceptSession s.hostConn sid seq now).perform ttls g =
      (.ok (), g₂.push s.viewerConn m) := heq
  let v₂ := v₁.tell g₂ s.viewerConn m
  have htell : v₁.hear (s.viewerConn, m) = v₁.set s.viewerConn sid (some .active) := rfl
  have hview : ∀ c k, (v₂.set s.hostConn sid (some .active)).view c k =
      if c = s.hostConn ∧ k = sid then some .active
      else if g₁.reaches s.viewerConn = true ∧ c = s.viewerConn ∧ k = sid then some .active
      else v₁.view c k := by
    intro c k
    rw [Views.set_view, Views.tell_view htell]
    rfl
  unfold Kept
  rw [hperform]
  refine ⟨v₂, (hheard.congr rfl).trans (Heard.push g₂ v₁ s.viewerConn m), ?_⟩
  change Agree phase (g₂.push s.viewerConn m) (v₂.set s.hostConn sid (some .active))
  have hhost : s'.hostConn = s.hostConn := rfl
  have hviewer : s'.viewerConn = s.viewerConn := rfl
  refine h₁.update (hcoh.reap now) hs hhost hviewer (by simp [g₂, g₁]) (by simp [g₂, g₁])
    (fun k => ?_) ?_ (fun c k hk => ?_) (fun c hc hparty => ?_) (fun c => ?_)
  · rw [RegistryInner.push_sessions]
    exact HashMap.lookup_insert_if k sid s' g₁.sessions
  · exact (Views.set_home ..).trans (Views.tell_home htell)
  · rw [hview, if_neg (fun hand => hk hand.2), if_neg (fun hand => hk hand.2.2)]
  · rw [hview]
    rcases hparty with rfl | rfl
    · exact if_pos ⟨rfl, rfl⟩
    · split_ifs with _ hno
      · rfl
      · rfl
      · exact absurd ⟨hc, rfl, rfl⟩ hno
  · rw [hview]
    split_ifs with hhost hviewer
    · exact .inr (.inl hhost.1.symm)
    · exact .inr (.inr hviewer.2.1.symm)
    · exact .inl rfl

/-- Taking a session back on the word of one party and telling the other. -/
theorem drop (h : Agree phase g v) (conn c₀ : ConnId) (m : SignalMessage) {sid : String}
    {s : Session} (hs : g.sessions.lookup sid = some s)
    (hparties : ∀ c, s.party c → c = conn ∨ c = c₀)
    (hm : ∀ u : Views, u.hear (c₀, m) = u.set c₀ sid none) :
    ∃ v', Heard g v (RegistryInner.push { g with
        hostBusy := g.hostBusy.erase s.hostPublicId, sessions := g.sessions.erase sid } c₀ m) v' ∧
      Agree phase (RegistryInner.push { g with
        hostBusy := g.hostBusy.erase s.hostPublicId, sessions := g.sessions.erase sid } c₀ m)
        (v'.set conn sid none) := by
  let g₁ : RegistryInner := { g with
    hostBusy := g.hostBusy.erase s.hostPublicId, sessions := g.sessions.erase sid }
  have hview : ∀ c k, ((v.tell g₁ c₀ m).set conn sid none).view c k =
      if c = conn ∧ k = sid then none
      else if g.reaches c₀ = true ∧ c = c₀ ∧ k = sid then none else v.view c k := by
    intro c k
    rw [Views.set_view, Views.tell_view (hm v)]
    rfl
  refine ⟨v.tell g₁ c₀ m, (Heard.of_eq rfl).trans (Heard.push g₁ v c₀ m), ?_⟩
  refine h.remove hs (by simp) (by simp) (fun k => ?_) ?_ (fun c k hk => ?_) (fun c => ?_)
    (fun c hc hparty => ?_)
  · rw [RegistryInner.push_sessions]
    exact HashMap.lookup_erase_if k sid g.sessions
  · exact (Views.set_home ..).trans (Views.tell_home (hm v))
  · rw [hview, if_neg (fun hand => hk hand.2), if_neg (fun hand => hk hand.2.2)]
  · rw [hview]
    split_ifs
    · exact .inr rfl
    · exact .inr rfl
    · exact .inl rfl
  · rw [hview]
    rcases hparties c hparty with rfl | rfl
    · exact if_pos ⟨rfl, rfl⟩
    · simp [hc]

/-- **Reject**: the viewer is told, and the host learns it. -/
theorem rejectSession (h : Agree phase g v) (hcoh : Coherent phase g) (conn : ConnId) (sid : String)
    (seq : UInt64) (reason : RejectReason) (now : Time) :
    Kept phase g v ttls (.rejectSession conn sid seq reason now) := by
  rcases g.reject_cases now conn sid seq reason with ⟨code, text, heq⟩ | ⟨s, hs, rfl, -, -, heq⟩
  · exact .refused ttls h hcoh heq
  obtain ⟨v₁, hheard, h₁⟩ := h.reap hcoh now
  obtain ⟨v₂, hheard₂, h₂⟩ := h₁.drop s.hostConn s.viewerConn
    (.sessionReject sid seq reason) hs (fun c hc => hc.imp Eq.symm Eq.symm) fun _ => rfl
  unfold Kept
  simp only [RegistryEvent.perform, heq]
  exact ⟨v₂, hheard.trans hheard₂, h₂⟩

/-- **End**: the other party is told, and the one that ends the session learns it. -/
theorem endSession (h : Agree phase g v) (hcoh : Coherent phase g) (conn : ConnId) (sid : String)
    (seq : UInt64) (reason : String) (now : Time) :
    Kept phase g v ttls (.endSession conn sid seq reason now) := by
  rcases g.end_cases now conn sid seq reason with
    ⟨code, text, heq⟩ | ⟨s, hs, hclosed, -⟩ | ⟨s, hs, hparty, -, -, heq⟩
  · exact .refused ttls h hcoh heq
  · exact absurd hclosed ((hcoh.reap now).live sid s hs)
  obtain ⟨v₁, hheard, h₁⟩ := h.reap hcoh now
  have hparties : ∀ c, s.party c → c = conn ∨ c = s.otherParty conn := by
    intro c hc
    unfold Session.otherParty
    split_ifs with hhost
    · exact hc.imp (fun h => h.symm.trans hhost) Eq.symm
    · have hconn : s.viewerConn = conn := hparty.resolve_left hhost
      exact hc.symm.imp (fun h => h.symm.trans hconn) Eq.symm
  obtain ⟨v₂, hheard₂, h₂⟩ := h₁.drop conn (s.otherParty conn)
    (.sessionEnd sid seq reason) hs hparties fun _ => rfl
  unfold Kept
  simp only [RegistryEvent.perform, heq]
  exact ⟨v₂, hheard.trans hheard₂, h₂⟩

/-- **Forced disconnect**: both parties are told. -/
theorem forceDisconnect (h : Agree phase g v) (hcoh : Coherent phase g) (sid reason : String)
    (now : Time) : Kept phase g v ttls (.forceDisconnect sid reason now) := by
  obtain ⟨v₁, hheard, h₁⟩ := h.reap hcoh now
  unfold Kept
  rcases g.force_cases now sid reason with heq | ⟨s, hs, hclosed, -⟩ | ⟨s, -, -, heq⟩
  · simp only [RegistryEvent.perform, heq]
    exact ⟨v₁, hheard, h₁⟩
  · exact absurd hclosed ((hcoh.reap now).live sid s hs)
  · simp only [RegistryEvent.perform, heq]
    obtain ⟨v₂, hheard₂, h₂⟩ := h₁.close (hcoh.reap now).live sid reason
    exact ⟨v₂, hheard.trans hheard₂, h₂⟩

/-- Advancing the sequence number of a session changes no state. -/
theorem relayed (h : Agree phase g v) {sid : String} {s : Session}
    (hs : g.sessions.lookup sid = some s) (seq : UInt64) (new : List (ConnId × SignalMessage)) :
    Agree phase { g with
      sessions := g.sessions.insert sid (s.relayed seq), sent := g.sent ++ new } v := by
  refine h.write rfl rfl (fun k hk => AList.lookup_insert_ne hk) (fun _ _ _ => rfl) (fun _ _ => rfl)
    (fun c hc => ?_) (fun c hle => h.unheard c sid hle) (fun c hc => h.announced _ c hc)
  have hknows : RegistryInner.knows { g with
      sessions := g.sessions.insert sid (s.relayed seq), sent := g.sent ++ new } c sid =
      g.knows c sid := by
    simp only [RegistryInner.knows, AList.lookup_insert, hs, Option.bind_some]
    rfl
  rw [hknows]
  refine (h.agree c sid hc).imp_right fun ⟨hview, t, ht, hhost, hhome⟩ => ?_
  rw [hs] at ht
  obtain rfl := Option.some.inj ht
  exact ⟨hview, _, AList.lookup_insert _, hhost, hhome⟩

/-- **Relay**: what is relayed says nothing of the state of a session. -/
theorem relayMediaSignal (h : Agree phase g v) (hcoh : Coherent phase g) (from_ : ConnId)
    (msg : SignalMessage) (now : Time) :
    Kept phase g v ttls (.relayMediaSignal from_ msg now) := by
  rcases g.relay_cases now from_ msg with ⟨-, code, text, heq⟩ | ⟨sid, seq, hkey, hrelay⟩
  · unfold Kept
    simp only [RegistryEvent.perform, heq]
    exact ⟨v, .of_eq rfl, h⟩
  obtain ⟨v₁, hheard, h₁⟩ := h.reap hcoh now
  rcases hrelay with ⟨code, text, heq⟩ | ⟨s, -, -, -, -, -, heq⟩ | ⟨s, hs, -, -, -, -, heq⟩
  · exact .refused ttls h hcoh heq
  · unfold Kept
    simp only [RegistryEvent.perform, heq]
    exact ⟨v₁, hheard, h₁⟩
  · unfold Kept
    rcases (g.reapExpired now).2.forward_cases from_ sid seq s msg with ⟨-, hf⟩ | ⟨-, text, hf⟩
    · simp only [RegistryEvent.perform, heq, hf]
      refine ⟨v₁, hheard.trans ⟨_, rfl, ?_⟩, h₁.relayed hs seq _⟩
      exact (v₁.hear_relayed _ hkey).symm
    · simp only [RegistryEvent.perform, heq, hf, Views.learn_error]
      refine ⟨v₁, hheard.trans (.of_eq rfl), ?_⟩
      have hsame := h₁.relayed hs seq []
      simpa using hsame

end Operations

/-! ## Connections -/

/-- A new connection has not been told anything. -/
theorem registerConn (h : Agree phase g v) (hcoh : Coherent phase g) :
    Agree (phase.insert g.nextConnId .registered) g.registerConn.2 v where
  agree c sid hc := by
    by_cases hnew : c = g.nextConnId
    · subst hnew
      refine .inl ((h.unheard _ sid le_rfl).trans ?_)
      simp only [RegistryInner.knows, RegistryInner.registerConn]
      rcases hs : g.sessions.lookup sid with _ | s
      · rfl
      · have hno : ¬s.party g.nextConnId := fun hp => absurd (hcoh.party_lt hs hp) (lt_irrefl _)
        exact (if_neg hno).symm
    · have hreach : g.reaches c = true := by
        simpa only [RegistryInner.reaches, RegistryInner.registerConn,
          AList.lookup_insert_ne hnew] using hc
      exact h.agree c sid hreach
  known c hc := by
    simp only [RegistryInner.registerConn, HashMap.lookup_insert_if] at hc ⊢
    split_ifs at hc with hnew
    · exact hnew ▸ Nat.lt_succ_self _
    · exact Nat.lt_succ_of_lt (h.known c hc)
  unheard c sid hle := h.unheard c sid (Nat.le_of_succ_le hle)
  announced sid c hc := by
    have hold := h.announced sid c hc
    have hne : c ≠ g.nextConnId := by
      rintro rfl
      have hknown : (phase.lookup g.nextConnId).isSome := by
        rcases hold with hp | hp
        · rw [hp]; rfl
        · rw [hp]; rfl
      exact absurd (hcoh.fresh _ hknown) (lt_irrefl _)
    rwa [AList.lookup_insert_ne hne]

/-- Fewer connections can be reached. -/
theorem dropReceiver (h : Agree phase g v) (conn : ConnId) : Agree phase (g.dropReceiver conn) v := by
  refine h.congr rfl (fun c hc => ?_) (fun c hc => ?_) rfl
  · simp only [RegistryInner.reaches, RegistryInner.dropReceiver, HashMap.lookup_mapVals] at hc ⊢
    rcases hl : g.conns.lookup c with _ | tx
    · rw [hl] at hc
      cases hc
    · simp only [hl, Option.map_some] at hc
      split_ifs at hc
      · cases hc
      · exact hc
  · simpa [RegistryInner.dropReceiver] using hc

/-- The phases of the connections to which a session was announced. -/
theorem rephase (h : Agree phase g v) {phase' : HashMap ConnId Phase}
    (hphase : ∀ c, phase.lookup c = some (.bound .host) ∨ phase.lookup c = some .gone →
      phase'.lookup c = some (.bound .host) ∨ phase'.lookup c = some .gone) : Agree phase' g v where
  agree := h.agree
  known := h.known
  unheard := h.unheard
  announced sid c hc := hphase c (h.announced sid c hc)

/-- **Reconnect**: the host's new connection takes over its session without being told. -/
theorem publishHost (h : Agree phase g v) (hcoh : Coherent phase g) {conn : ConnId}
    (hreg : phase.lookup conn = some .registered) (publicId : String) :
    ∃ v', Heard g v (g.publishHost conn publicId) v' ∧ Agree phase (g.publishHost conn publicId) v' := by
  unfold RegistryInner.publishHost
  dsimp only
  rcases hold : g.hostByPublicId.lookup publicId with _ | old
  · exact ⟨v, .of_eq rfl, h.congr rfl (fun _ h => h) (fun _ h => h) rfl⟩
  dsimp only
  split_ifs with hsame
  · exact ⟨v, .of_eq rfl, h.congr rfl (fun _ h => h) (fun _ h => h) rfl⟩
  let g₁ : RegistryInner := { g with
    hostByPublicId := g.hostByPublicId.insert publicId conn
    sessions := g.sessions.mapVals fun _ s => s.transfer old conn publicId }
  let m := SignalMessage.error "connection_replaced" "host reconnected on another socket"
  have hheard : Heard g v (g₁.push old m) (v.tell g₁ old m) :=
    (Heard.of_eq rfl).trans (Heard.push g₁ v old m)
  have hquiet : v.tell g₁ old m = v := by
    unfold Views.tell
    split_ifs
    · rfl
    · rfl
  rw [hquiet] at hheard
  refine ⟨v, hheard.congr rfl, ?_⟩
  have hreach : ∀ c, (({ g with
      hostByPublicId := g.hostByPublicId.insert publicId conn } : RegistryInner).evict old conn
        publicId).reaches c = true → c ≠ old ∧ g.reaches c = true := by
    intro c hc
    simp only [RegistryInner.reaches, RegistryInner.evict_conns, HashMap.lookup_erase_if] at hc
    split_ifs at hc with hne
    · cases hc
    · exact ⟨hne, hc⟩
  have hbound : ∀ c, phase.lookup c = some (.bound .host) ∨ phase.lookup c = some .gone → c ≠ conn := by
    rintro c hc rfl
    rw [hreg] at hc
    rcases hc with hc | hc
    · cases hc
    · cases hc
  refine ⟨fun c sid hc => ?_, fun c hc => ?_, ?_, h.announced⟩
  · obtain ⟨hne, hold⟩ := hreach c hc
    rw [RegistryInner.knows, RegistryInner.evict_sessions, HashMap.lookup_mapVals]
    have hagree := h.agree c sid hold
    rw [RegistryInner.knows] at hagree
    rcases hs : g.sessions.lookup sid with _ | s
    · rw [hs] at hagree
      exact .inl (hagree.elim id fun ⟨hview, _⟩ => hview)
    simp only [hs, Option.some.injEq, Option.bind_some, exists_eq_left'] at hagree
    simp only [Option.map_some, Option.bind_some, Option.some.injEq, exists_eq_left']
    have hhost : s.hostConn ≠ conn := hbound _ (.inl (hcoh.hosts _ _ (hcoh.published sid s hs)))
    have hviewer : s.viewerConn ≠ conn := by
      intro heq
      have hv := hcoh.viewer sid s hs
      rw [heq, hreg] at hv
      cases hv
    by_cases hmoved : s.hostConn = old ∧ s.hostPublicId = publicId
    · have htransfer : (s.transfer old conn publicId).hostConn = conn := if_pos hmoved
      by_cases hconn : c = conn
      · -- the new connection has not heard of the session that it takes over
        subst hconn
        refine .inr ⟨?_, htransfer, fun hhome => hbound _ (h.announced sid c hhome) rfl⟩
        refine h.view_none hold fun t ht => ?_
        rw [hs] at ht
        obtain rfl := Option.some.inj ht
        rintro (hp | hp)
        · exact hhost hp
        · exact hviewer hp
      · refine .inl ?_
        have hnot : ¬s.hostConn = c := fun heq => hne (heq.symm.trans hmoved.1)
        have hview := hagree.resolve_right fun hand => hnot hand.2.1
        rw [hview, htransfer]
        simp only [hnot, Ne.symm hconn, false_or]
        rfl
    · have htransfer : s.transfer old conn publicId = s := by
        unfold Session.transfer
        rw [if_neg hmoved]
      rw [htransfer]
      exact hagree
  · rw [RegistryInner.evict_nextConnId]
    refine h.known c ?_
    rw [RegistryInner.evict_conns, HashMap.lookup_erase_if] at hc
    split_ifs at hc
    · cases hc
    · exact hc
  · intro c sid hle
    rw [RegistryInner.evict_nextConnId] at hle
    exact h.unheard c sid hle

/-- Binding an identity. -/
theorem bindPeer (h : Agree phase g v) (hcoh : Coherent phase g) {conn : ConnId}
    (hreg : phase.lookup conn = some .registered) (identity : PeerIdentity) :
    ∃ v', Heard g v (g.bindPeer conn identity) v' ∧
      Agree (phase.insert conn (.bound identity.role)) (g.bindPeer conn identity) v' := by
  -- a connection that was told of a session is not the one that binds now
  have hphase : ∀ c, phase.lookup c = some (.bound .host) ∨ phase.lookup c = some .gone →
      (phase.insert conn (.bound identity.role)).lookup c = some (.bound .host) ∨
        (phase.insert conn (.bound identity.role)).lookup c = some .gone := by
    intro c hc
    have hne : c ≠ conn := by
      rintro rfl
      rw [hreg] at hc
      rcases hc with hc | hc
      · cases hc
      · cases hc
    rwa [AList.lookup_insert_ne hne]
  have hpublish : ∃ g' v', Heard g v g' v' ∧ Agree phase g' v' ∧
      g.bindPeer conn identity = { g' with peers := g'.peers.insert conn identity } := by
    unfold RegistryInner.bindPeer
    rcases identity.role with _ | _
    · rcases identity.devicePublicId with _ | publicId
      · exact ⟨g, v, .of_eq rfl, h, rfl⟩
      · obtain ⟨v', hheard, hagree⟩ := h.publishHost hcoh hreg publicId
        exact ⟨_, v', hheard, hagree, rfl⟩
    · exact ⟨g, v, .of_eq rfl, h, rfl⟩
  obtain ⟨g', v', hheard, hagree, heq⟩ := hpublish
  rw [heq]
  exact ⟨v', hheard.congr rfl,
    (hagree.rephase hphase).congr rfl (fun _ h => h) (fun _ h => h) rfl⟩

/-- Dropping a connection closes its sessions, which tells the other parties. -/
theorem unregisterConn (h : Agree phase g v) (hcoh : Coherent phase g) (conn : ConnId) :
    ∃ v', Heard g v (g.unregisterConn conn) v' ∧
      Agree (phase.insert conn .gone) (g.unregisterConn conn) v' := by
  have hphase : ∀ c, phase.lookup c = some (.bound .host) ∨ phase.lookup c = some .gone →
      (phase.insert conn Phase.gone).lookup c = some (.bound .host) ∨
        (phase.insert conn Phase.gone).lookup c = some .gone := by
    intro c hc
    rw [HashMap.lookup_insert_if]
    split_ifs
    · exact .inr rfl
    · exact hc
  unfold RegistryInner.unregisterConn
  dsimp only
  generalize (HashMap.keysWhere (fun _ cid => decide (cid = conn)) g.hostByPublicId) = hostIds
  generalize (HashMap.keysWhere
    (fun _ s => decide (s.hostConn = conn ∨ s.viewerConn = conn)) g.sessions) = affected
  let g₁ : RegistryInner := { g with
    conns := g.conns.erase conn, peers := g.peers.erase conn
    hostByPublicId := g.hostByPublicId.eraseAll hostIds }
  have hsub : ∀ c tx, (g.conns.erase conn).lookup c = some tx → g.conns.lookup c = some tx := by
    intro c tx hc
    rw [HashMap.lookup_erase_if] at hc
    split_ifs at hc
    exact hc
  have h₁ : Agree phase g₁ v := by
    refine h.congr rfl (fun c hc => ?_) (fun c hc => ?_) rfl
    · rw [RegistryInner.reaches] at hc ⊢
      rcases htx : (g.conns.erase conn).lookup c with _ | tx
      · simp only [g₁, htx] at hc
        cases hc
      · simp only [g₁, htx] at hc
        rw [hsub c tx htx]
        exact hc
    · obtain ⟨tx, htx⟩ := Option.isSome_iff_exists.mp hc
      rw [hsub c tx htx]
      rfl
  obtain ⟨v', hheard, hagree⟩ := h₁.closeAll hcoh.live affected "peer_disconnected"
  exact ⟨v', (Heard.of_eq rfl).trans hheard, hagree.rephase hphase⟩

end Agree

/-! ## The system -/

/-- The registry with what its connections have been told. -/
structure ViewWorld where
  registry : RegistryWorld
  views : Views

/-- Whether the messages of an event are the replies that a handler asks for; these repeat to the
caller what it has learned from the result. -/
def RegistryEvent.isReply : RegistryEvent → Bool
  | sendTo _ _ => true
  | _ => false

/-- The registry's methods, with what each of them tells. -/
def viewSystem (ttls : Ttls) : System ViewWorld RegistryEvent where
  init w := w = ⟨⟨.empty, ∅⟩, .empty⟩
  step w e :=
    ((registrySystem ttls).step w.registry e).map fun r =>
      let new := if e.isReply then [] else r.inner.sent.drop w.registry.inner.sent.length
      ⟨r, (w.views.hearAll new).learn e (e.perform ttls w.registry.inner).1⟩

/-- **The step lemma**: every method keeps the views in agreement with the registry. -/
theorem Agree.step {ttls : Ttls} {w w' : ViewWorld} {e : RegistryEvent}
    (h : Agree w.registry.phase w.registry.inner w.views)
    (hcoh : Coherent w.registry.phase w.registry.inner)
    (hstep : (viewSystem ttls).step w e = some w') :
    Agree w'.registry.phase w'.registry.inner w'.views := by
  obtain ⟨r, hr, rfl⟩ := Option.map_eq_some_iff.mp hstep
  simp only [registrySystem] at hr
  split_ifs at hr with hall
  obtain rfl := Option.some.inj hr
  have hkept : ∀ {v' : Views}, e.isReply = false →
      Heard w.registry.inner w.views (e.perform ttls w.registry.inner).2 v' →
      w.views.hearAll (if e.isReply then []
        else (e.perform ttls w.registry.inner).2.sent.drop w.registry.inner.sent.length) = v' := by
    intro v' hno hheard
    rw [hno]
    exact hheard.eq_hearAll.symm
  dsimp only
  cases e with
  | registerConn =>
    rw [hkept rfl (.of_eq rfl)]
    exact h.registerConn hcoh
  | dropReceiver conn =>
    rw [hkept rfl (.of_eq rfl)]
    exact h.dropReceiver conn
  | bindPeer conn identity =>
    obtain ⟨v', hheard, hagree⟩ := h.bindPeer hcoh (of_decide_eq_true hall) identity
    rw [hkept rfl hheard]
    exact hagree
  | sendTo conn msg => exact h.push conn msg
  | createPendingSession req now =>
    obtain ⟨v', hheard, hagree⟩ :=
      h.createPendingSession ttls hcoh (of_decide_eq_true hall) now
    rw [hkept rfl hheard]
    exact hagree
  | acceptSession conn sid seq now =>
    obtain ⟨v', hheard, hagree⟩ := h.acceptSession ttls hcoh conn sid seq now
    rw [hkept rfl hheard]
    exact hagree
  | rejectSession conn sid seq reason now =>
    obtain ⟨v', hheard, hagree⟩ := h.rejectSession ttls hcoh conn sid seq reason now
    rw [hkept rfl hheard]
    exact hagree
  | endSession conn sid seq reason now =>
    obtain ⟨v', hheard, hagree⟩ := h.endSession ttls hcoh conn sid seq reason now
    rw [hkept rfl hheard]
    exact hagree
  | relayMediaSignal conn msg now =>
    obtain ⟨v', hheard, hagree⟩ := h.relayMediaSignal ttls hcoh conn msg now
    rw [hkept rfl hheard]
    exact hagree
  | reapExpired now =>
    obtain ⟨v', hheard, hagree⟩ := h.reap hcoh now
    rw [hkept rfl hheard]
    exact hagree
  | forceDisconnect sid reason now =>
    obtain ⟨v', hheard, hagree⟩ := h.forceDisconnect ttls hcoh sid reason now
    rw [hkept rfl hheard]
    exact hagree
  | unregisterConn conn =>
    obtain ⟨v', hheard, hagree⟩ := h.unregisterConn hcoh conn
    rw [hkept rfl hheard]
    exact hagree

/-- The registry of a reachable state is a reachable registry. -/
theorem viewSystem_registry {ttls : Ttls} {w : ViewWorld} (h : (viewSystem ttls).Reachable w) :
    (registrySystem ttls).Reachable w.registry := by
  induction h with
  | init hw =>
    obtain rfl := hw
    exact .init rfl
  | step hreach _ hstep ih =>
    obtain ⟨r, hr, rfl⟩ := Option.map_eq_some_iff.mp hstep
    exact .step ih trivial hr

/-- The views agree with the registry in every reachable state. -/
theorem viewSystem_agree {ttls : Ttls} {w : ViewWorld} (h : (viewSystem ttls).Reachable w) :
    Agree w.registry.phase w.registry.inner w.views := by
  induction h with
  | init hw =>
    obtain rfl := hw
    exact .empty
  | step hreach _ hstep ih =>
    exact ih.step (registry_coherent (viewSystem_registry hreach)) hstep

/-! ## What the peers believe -/

/-- **No ghosts and no gaps**, in every reachable state: what a connection that can be reached has
been told of a session is so, and it is a party of that session; the viewer of a session has been
told its state, and so has its host, if the session was announced to its present connection. -/
theorem views_agree {ttls : Ttls} {w : ViewWorld} (h : (viewSystem ttls).Reachable w) :
    (∀ c sid state, w.registry.inner.reaches c = true → w.views.view c sid = some state →
      ∃ s, w.registry.inner.sessions.lookup sid = some s ∧ s.party c ∧ s.state = state) ∧
    (∀ sid s, w.registry.inner.sessions.lookup sid = some s →
      w.registry.inner.reaches s.viewerConn = true →
        w.views.view s.viewerConn sid = some s.state) ∧
    (∀ sid s, w.registry.inner.sessions.lookup sid = some s →
      w.views.home sid = some s.hostConn → w.registry.inner.reaches s.hostConn = true →
        w.views.view s.hostConn sid = some s.state) := by
  have hagree := viewSystem_agree h
  have hcoh := registry_coherent (viewSystem_registry h)
  refine ⟨fun c sid state hc hview => ?_, fun sid s hs hc => ?_, fun sid s hs hhome hc => ?_⟩
  · rcases hagree.agree c sid hc with hsame | ⟨hnone, -⟩
    · rw [hview, RegistryInner.knows] at hsame
      obtain ⟨s, hs, hstate⟩ := Option.bind_eq_some_iff.mp hsame.symm
      split_ifs at hstate with hparty
      exact ⟨s, hs, hparty, Option.some.inj hstate⟩
    · rw [hview] at hnone
      cases hnone
  · rcases hagree.agree _ sid hc with hsame | ⟨-, t, ht, hhost, -⟩
    · rw [hsame, RegistryInner.knows, hs]
      exact if_pos (.inr rfl)
    · rw [hs] at ht
      obtain rfl := Option.some.inj ht
      exact absurd hhost (Delivery.parties_ne hcoh hs)
  · rcases hagree.agree _ sid hc with hsame | ⟨-, t, -, -, hmoved⟩
    · rw [hsame, RegistryInner.knows, hs]
      exact if_pos (.inl rfl)
    · exact absurd hhome hmoved

/-- After `acceptedRun` both peers believe in the active session, and it is there. -/
theorem views_agree_acceptedRun : ∃ w,
    (viewSystem .default).runFrom ⟨⟨.empty, ∅⟩, .empty⟩ acceptedRun = some w ∧
    w.views.view 1 "sess-1" = some .active ∧ w.views.view 2 "sess-1" = some .active ∧
    ∃ s, w.registry.inner.sessions.lookup "sess-1" = some s ∧ s.party 2 ∧ s.state = .active := by
  have hw : (viewSystem .default).runFrom ⟨⟨.empty, ∅⟩, .empty⟩ acceptedRun = some _ := rfl
  have hagree := views_agree (System.reachable_of_runFrom (.init rfl) hw)
  exact ⟨_, hw, rfl, rfl, hagree.1 2 "sess-1" .active rfl rfl⟩

end RemoteLink.Server
