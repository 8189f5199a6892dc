import RemoteLink.Library.Runs
import RemoteLink.Server.Session

set_option autoImplicit false

/-!
# The single-session lock is exact

The registry as a system whose events are its methods, called by connections that each follow
the WebSocket handler: register, at most one `bind_peer`, sessions created by bound viewers, and
one unregister. Expiry, operator disconnects and all clock readings are arbitrary.

## Main definitions

* `Phase` — how far a connection has come in the handler.
* `RegistryEvent`, `registrySystem` — the interleavings of the registry's methods.
* `Coherent` — the relation among the registry's maps that every method restores.

## Main results

* `Coherent.step` — every enabled event keeps the maps coherent.
* `registry_coherent` — the maps are coherent in every reachable state.
* `host_lock_exact` — the busy lock is exact, live sessions are attached to live peers, and an
  expired session is not advanced.
-/

namespace RemoteLink.Server

open RemoteLink.Library RemoteLink.Protocol

/-! ## The system -/

/-- How far a connection has come in the WebSocket handler. -/
inductive Phase where
  | registered
  | bound (role : Role)
  | gone
  deriving Repr, DecidableEq

/-- A call of a registry method. -/
inductive RegistryEvent where
  | registerConn
  | dropReceiver (conn : ConnId)
  | bindPeer (conn : ConnId) (identity : PeerIdentity)
  | sendTo (conn : ConnId) (msg : SignalMessage)
  | createPendingSession (req : CreatePendingSession) (now : Time)
  | acceptSession (conn : ConnId) (sessionId : String) (signalSeq : UInt64) (now : Time)
  | rejectSession (conn : ConnId) (sessionId : String) (signalSeq : UInt64)
      (reason : RejectReason) (now : Time)
  | endSession (conn : ConnId) (sessionId : String) (signalSeq : UInt64) (reason : String)
      (now : Time)
  | relayMediaSignal (conn : ConnId) (msg : SignalMessage) (now : Time)
  | reapExpired (now : Time)
  | forceDisconnect (sessionId reason : String) (now : Time)
  | unregisterConn (conn : ConnId)

/-- The lifetimes a registry gives its sessions (`SessionRegistry::with_ttls`). -/
structure Ttls where
  pending : Int
  active : Int

/-- The registry of `SessionRegistry::new`. -/
def Ttls.default : Ttls := ⟨pendingSessionTtl, activeSessionTtl⟩

/-- The registry together with the phase of every connection. -/
structure RegistryWorld where
  inner : RegistryInner
  phase : HashMap ConnId Phase

namespace RegistryEvent

/-- What the handler's discipline asks of an event. -/
def allowed (phase : HashMap ConnId Phase) : RegistryEvent → Bool
  | bindPeer conn _ => decide (phase.lookup conn = some .registered)
  | createPendingSession req _ => decide (phase.lookup req.viewerConn = some (.bound .viewer))
  | unregisterConn conn =>
    decide (phase.lookup conn ≠ none ∧ phase.lookup conn ≠ some .gone)
  | _ => true

/-- The reply of the method to its caller, and the registry afterwards. -/
def perform (ttls : Ttls) (g : RegistryInner) :
    RegistryEvent → Except SignalMessage Unit × RegistryInner
  | registerConn => (.ok (), g.registerConn.2)
  | dropReceiver conn => (.ok (), g.dropReceiver conn)
  | bindPeer conn identity => (.ok (), g.bindPeer conn identity)
  | sendTo conn msg => (.ok (), (g.sendTo conn msg).2)
  | createPendingSession req now => g.createPendingSession ttls.pending req now
  | acceptSession conn sid seq now => g.acceptSession ttls.active conn sid seq now
  | rejectSession conn sid seq reason now => g.rejectSession conn sid seq reason now
  | endSession conn sid seq reason now => g.endSession conn sid seq reason now
  | relayMediaSignal conn msg now => g.relayMediaSignal conn msg now
  | reapExpired now => (.ok (), (g.reapExpired now).2)
  | forceDisconnect sid reason now => (.ok (), (g.forceDisconnect sid reason now).2)
  | unregisterConn conn => (.ok (), g.unregisterConn conn)

/-- The phases after an event. -/
def advance (g : RegistryInner) (phase : HashMap ConnId Phase) :
    RegistryEvent → HashMap ConnId Phase
  | registerConn => phase.insert g.nextConnId .registered
  | bindPeer conn identity => phase.insert conn (.bound identity.role)
  | unregisterConn conn => phase.insert conn .gone
  | _ => phase

/-- The clock reading of an event that reads the clock. -/
def clock : RegistryEvent → Option Time
  | createPendingSession _ now | acceptSession _ _ _ now | rejectSession _ _ _ _ now
  | endSession _ _ _ _ now | reapExpired now | forceDisconnect _ _ now => some now
  | relayMediaSignal _ msg now => (RegistryInner.relayKey? msg).map fun _ => now
  | registerConn | dropReceiver _ | bindPeer _ _ | sendTo _ _ | unregisterConn _ => none

/-- The session that an accept, reject, end or relay is about. -/
def target : RegistryEvent → Option String
  | acceptSession _ sid _ _ | rejectSession _ sid _ _ _ | endSession _ sid _ _ _ => some sid
  | relayMediaSignal _ msg _ => (RegistryInner.relayKey? msg).map Prod.fst
  | _ => none

end RegistryEvent

/-- All interleavings of the registry's methods under the handler's discipline. -/
def registrySystem (ttls : Ttls) : System RegistryWorld RegistryEvent where
  init w := w = ⟨.empty, ∅⟩
  step w e :=
    if e.allowed w.phase then some ⟨(e.perform ttls w.inner).2, e.advance w.inner w.phase⟩
    else none

/-! ## The invariant -/

/-- The relation among the maps: sessions are live, the busy map is the inverse of the sessions'
hosts, each session is attached to its host's published connection and to a bound viewer, and
the phases agree with the connections. -/
structure Coherent (phase : HashMap ConnId Phase) (g : RegistryInner) : Prop where
  live : ∀ sid s, g.sessions.lookup sid = some s → s.state ≠ .closed
  busy : ∀ h sid, g.hostBusy.lookup h = some sid ↔
    ∃ s, g.sessions.lookup sid = some s ∧ s.hostPublicId = h
  published : ∀ sid s, g.sessions.lookup sid = some s →
    g.hostByPublicId.lookup s.hostPublicId = some s.hostConn
  viewer : ∀ sid s, g.sessions.lookup sid = some s →
    phase.lookup s.viewerConn = some (.bound .viewer)
  hosts : ∀ h c, g.hostByPublicId.lookup h = some c → phase.lookup c = some (.bound .host)
  connected : ∀ c, phase.lookup c = some .registered ∨ phase.lookup c = some (.bound .viewer) →
    (g.conns.lookup c).isSome
  fresh : ∀ c, (phase.lookup c).isSome → c < g.nextConnId

namespace Coherent

variable {phase : HashMap ConnId Phase} {g g' : RegistryInner}

theorem empty : Coherent ∅ .empty := by
  constructor <;> simp [RegistryInner.empty]

/-- Coherence reads only five of the maps. -/
theorem congr (h : Coherent phase g) (hs : g'.sessions = g.sessions)
    (hb : g'.hostBusy = g.hostBusy) (hh : g'.hostByPublicId = g.hostByPublicId)
    (hc : ∀ c, (g.conns.lookup c).isSome → (g'.conns.lookup c).isSome)
    (hn : g'.nextConnId = g.nextConnId) : Coherent phase g' where
  live := by rw [hs]; exact h.live
  busy := by rw [hs, hb]; exact h.busy
  published := by rw [hs, hh]; exact h.published
  viewer := by rw [hs]; exact h.viewer
  hosts := by rw [hh]; exact h.hosts
  connected c hp := hc c (h.connected c hp)
  fresh := by rw [hn]; exact h.fresh

theorem push (h : Coherent phase g) (c : ConnId) (m : SignalMessage) :
    Coherent phase (g.push c m) :=
  h.congr (by simp) (by simp) (by simp) (by simp) (by simp)

/-- A stored session is the one its host is busy with. -/
theorem busy_of_lookup (h : Coherent phase g) {sid : String} {s : Session}
    (hs : g.sessions.lookup sid = some s) : g.hostBusy.lookup s.hostPublicId = some sid :=
  (h.busy _ _).mpr ⟨s, hs, rfl⟩

/-- Two sessions of one host are the same session. -/
theorem unique (h : Coherent phase g) {sid sid' : String} {s s' : Session}
    (hs : g.sessions.lookup sid = some s) (hs' : g.sessions.lookup sid' = some s')
    (heq : s.hostPublicId = s'.hostPublicId) : sid = sid' := by
  have h1 := h.busy_of_lookup hs
  rw [heq, h.busy_of_lookup hs'] at h1
  exact (Option.some.inj h1).symm

/-! ## What each kind of write preserves -/

/-- Removing a session together with its host's busy entry. -/
theorem erase (h : Coherent phase g) {sid : String} {s : Session}
    (hs : g.sessions.lookup sid = some s) :
    Coherent phase { g with
      sessions := g.sessions.erase sid, hostBusy := g.hostBusy.erase s.hostPublicId } := by
  have hsub : ∀ k t, (g.sessions.erase sid).lookup k = some t →
      k ≠ sid ∧ g.sessions.lookup k = some t := by
    intro k t hk
    rw [HashMap.lookup_erase_if] at hk
    split_ifs at hk with hne
    exact ⟨hne, hk⟩
  refine ⟨fun k t hk => h.live k t (hsub k t hk).2, fun hid k => ?_,
    fun k t hk => h.published k t (hsub k t hk).2, fun k t hk => h.viewer k t (hsub k t hk).2,
    h.hosts, h.connected, h.fresh⟩
  rw [HashMap.lookup_erase_if]
  constructor
  · intro hb
    split_ifs at hb with hne
    obtain ⟨t, ht, hth⟩ := (h.busy hid k).mp hb
    refine ⟨t, ?_, hth⟩
    have hk : k ≠ sid := by
      rintro rfl
      rw [hs] at ht
      exact hne (Option.some.inj ht ▸ hth.symm)
    simpa [AList.lookup_erase_ne hk] using ht
  · rintro ⟨t, ht, hth⟩
    obtain ⟨hk, ht⟩ := hsub k t ht
    have hne : hid ≠ s.hostPublicId := by
      rintro rfl
      exact hk (h.unique ht hs hth)
    rw [if_neg hne]
    exact (h.busy hid k).mpr ⟨t, ht, hth⟩

/-- Updating a stored session without moving it to another host, socket or viewer. -/
theorem update (h : Coherent phase g) {sid : String} {s s' : Session}
    (hs : g.sessions.lookup sid = some s) (hlive : s'.state ≠ .closed)
    (hhost : s'.hostPublicId = s.hostPublicId) (hconn : s'.hostConn = s.hostConn)
    (hviewer : s'.viewerConn = s.viewerConn) :
    Coherent phase { g with sessions := g.sessions.insert sid s' } := by
  -- every session of the new map has a counterpart with the same host, socket and viewer
  have hold : ∀ k t, (g.sessions.insert sid s').lookup k = some t →
      t.state ≠ .closed ∧ ∃ t₀, g.sessions.lookup k = some t₀ ∧
        t.hostPublicId = t₀.hostPublicId ∧ t.hostConn = t₀.hostConn ∧
        t.viewerConn = t₀.viewerConn := by
    intro k t hk
    rw [HashMap.lookup_insert_if] at hk
    split_ifs at hk with hks
    · obtain rfl := Option.some.inj hk
      subst hks
      exact ⟨hlive, s, hs, hhost, hconn, hviewer⟩
    · exact ⟨h.live k t hk, t, hk, rfl, rfl, rfl⟩
  refine ⟨fun k t hk => (hold k t hk).1, fun hid k => ?_, fun k t hk => ?_, fun k t hk => ?_,
    h.hosts, h.connected, h.fresh⟩
  · rw [h.busy hid k]
    constructor
    · rintro ⟨t, ht, hth⟩
      by_cases hks : k = sid
      · subst hks
        rw [hs] at ht
        obtain rfl := Option.some.inj ht
        exact ⟨s', AList.lookup_insert _, hhost.trans hth⟩
      · exact ⟨t, (AList.lookup_insert_ne hks).trans ht, hth⟩
    · rintro ⟨t, ht, hth⟩
      obtain ⟨-, t₀, ht₀, hhost₀, -⟩ := hold k t ht
      exact ⟨t₀, ht₀, hhost₀ ▸ hth⟩
  · obtain ⟨-, t₀, ht₀, hhost₀, hconn₀, -⟩ := hold k t hk
    rw [hhost₀, hconn₀]
    exact h.published k t₀ ht₀
  · obtain ⟨-, t₀, ht₀, -, -, hviewer₀⟩ := hold k t hk
    rw [hviewer₀]
    exact h.viewer k t₀ ht₀

/-- Adding a live session for a published host that is not busy. -/
theorem insert (h : Coherent phase g) {sid : String} {s : Session}
    (hsid : g.sessions.lookup sid = none) (hfree : g.hostBusy.lookup s.hostPublicId = none)
    (hlive : s.state ≠ .closed) (hpub : g.hostByPublicId.lookup s.hostPublicId = some s.hostConn)
    (hviewer : phase.lookup s.viewerConn = some (.bound .viewer)) :
    Coherent phase { g with
      hostBusy := g.hostBusy.insert s.hostPublicId sid
      sessions := g.sessions.insert sid s } := by
  have hcases : ∀ k t, (g.sessions.insert sid s).lookup k = some t →
      t = s ∨ g.sessions.lookup k = some t := by
    intro k t hk
    rw [HashMap.lookup_insert_if] at hk
    split_ifs at hk with hks
    · exact .inl (Option.some.inj hk).symm
    · exact .inr hk
  refine ⟨fun k t hk => ?_, fun hid k => ?_, fun k t hk => ?_, fun k t hk => ?_, h.hosts,
    h.connected, h.fresh⟩
  · rcases hcases k t hk with rfl | hk
    · exact hlive
    · exact h.live k t hk
  · rw [HashMap.lookup_insert_if]
    constructor
    · intro hb
      split_ifs at hb with hhid
      · obtain rfl := Option.some.inj hb
        exact ⟨s, AList.lookup_insert _, hhid.symm⟩
      · obtain ⟨t, ht, hth⟩ := (h.busy hid k).mp hb
        have hks : k ≠ sid := by
          rintro rfl
          rw [hsid] at ht
          cases ht
        exact ⟨t, (AList.lookup_insert_ne hks).trans ht, hth⟩
    · rintro ⟨t, ht, hth⟩
      rw [HashMap.lookup_insert_if] at ht
      split_ifs at ht with hks
      · obtain rfl := Option.some.inj ht
        rw [if_pos hth.symm, hks]
      · have hb := h.busy_of_lookup ht
        rw [if_neg]
        · exact hth ▸ hb
        · rintro rfl
          rw [hth, hfree] at hb
          cases hb
  · rcases hcases k t hk with rfl | hk
    · exact hpub
    · exact h.published k t hk
  · rcases hcases k t hk with rfl | hk
    · exact hviewer
    · exact h.viewer k t hk

theorem close (h : Coherent phase g) (sid reason : String) :
    Coherent phase (g.closeSessionLocked sid reason) := by
  unfold RegistryInner.closeSessionLocked
  rcases hs : g.sessions.lookup sid with _ | s
  · exact h
  · dsimp only
    split_ifs
    · exact h.erase hs
    · exact ((h.erase hs).push _ _).push _ _

theorem closeAll (h : Coherent phase g) (sids : List String) (reason : String) :
    Coherent phase (g.closeAll sids reason) := by
  induction sids generalizing g with
  | nil => exact h
  | cons sid sids ih => exact ih (h.close sid reason)

theorem reap (h : Coherent phase g) (now : Time) : Coherent phase (g.reapExpired now).2 :=
  h.closeAll _ _

/-! ## Connection events -/

theorem registerConn (h : Coherent phase g) :
    Coherent (phase.insert g.nextConnId .registered) g.registerConn.2 := by
  have hnew : phase.lookup g.nextConnId = none := by
    by_contra hne
    exact absurd (h.fresh _ (Option.isSome_iff_ne_none.mpr hne)) (lt_irrefl _)
  -- a connection that already has a phase keeps it
  have hold : ∀ c p, phase.lookup c = some p →
      (phase.insert g.nextConnId Phase.registered).lookup c = some p := by
    intro c p hp
    have hne : c ≠ g.nextConnId := by
      rintro rfl
      rw [hnew] at hp
      cases hp
    exact (AList.lookup_insert_ne hne).trans hp
  refine ⟨h.live, h.busy, h.published, fun k t hk => hold _ _ (h.viewer k t hk),
    fun hid c hc => hold _ _ (h.hosts hid c hc), fun c hp => ?_, fun c hp => ?_⟩
  · simp only [RegistryInner.registerConn, HashMap.lookup_insert_if] at hp ⊢
    split_ifs at hp ⊢ with hc
    · rfl
    · exact h.connected c hp
  · simp only [RegistryInner.registerConn, HashMap.lookup_insert_if] at hp ⊢
    split_ifs at hp with hc
    · exact hc ▸ Nat.lt_succ_self _
    · exact Nat.lt_succ_of_lt (h.fresh c hp)

theorem dropReceiver (h : Coherent phase g) (conn : ConnId) :
    Coherent phase (g.dropReceiver conn) :=
  h.congr rfl rfl rfl (by simp [RegistryInner.dropReceiver]) rfl

/-- Binding changes the phase of a connection that was registered and not yet bound. -/
theorem bindPhase (h : Coherent phase g) {conn : ConnId}
    (hreg : phase.lookup conn = some .registered) (role : Role) :
    Coherent (phase.insert conn (.bound role)) g := by
  have hold : ∀ c r, phase.lookup c = some (.bound r) →
      (phase.insert conn (Phase.bound role)).lookup c = some (.bound r) := by
    intro c r hp
    have hne : c ≠ conn := by
      rintro rfl
      rw [hreg] at hp
      cases hp
    exact (AList.lookup_insert_ne hne).trans hp
  refine ⟨h.live, h.busy, h.published, fun k t hk => hold _ _ (h.viewer k t hk),
    fun hid c hc => hold _ _ (h.hosts hid c hc), fun c hp => ?_, fun c hp => ?_⟩
  · rw [HashMap.lookup_insert_if] at hp
    split_ifs at hp with hc
    · exact hc ▸ h.connected conn (.inl hreg)
    · exact h.connected c hp
  · rw [HashMap.lookup_insert_if] at hp
    split_ifs at hp with hc
    · exact hc ▸ h.fresh conn (by simp [hreg])
    · exact h.fresh c hp

/-- **Reconnect transfer**: publishing a new connection for a host moves the host's session to
it, and evicting the old connection leaves no session behind. -/
theorem publishHost (h : Coherent phase g) {conn : ConnId} (publicId : String)
    (hconn : phase.lookup conn = some (.bound .host)) :
    Coherent phase (g.publishHost conn publicId) := by
  have hhosts : ∀ hid c, (g.hostByPublicId.insert publicId conn).lookup hid = some c →
      phase.lookup c = some (.bound .host) := by
    intro hid c hc
    rw [HashMap.lookup_insert_if] at hc
    split_ifs at hc with hhid
    · exact Option.some.inj hc ▸ hconn
    · exact h.hosts hid c hc
  have hother : ∀ k t, g.sessions.lookup k = some t → t.hostPublicId ≠ publicId →
      (g.hostByPublicId.insert publicId conn).lookup t.hostPublicId = some t.hostConn :=
    fun k t hk hne => (AList.lookup_insert_ne hne).trans (h.published k t hk)
  unfold RegistryInner.publishHost
  rcases hold : g.hostByPublicId.lookup publicId with _ | old
  · -- nothing was published, so the host has no session
    refine ⟨h.live, h.busy, fun k t hk => hother k t hk ?_, h.viewer, hhosts, h.connected, h.fresh⟩
    rintro rfl
    have := h.published k t hk
    rw [hold] at this
    cases this
  · dsimp only
    split_ifs with hsame
    · -- the same connection is published again
      refine ⟨h.live, h.busy, fun k t hk => ?_, h.viewer, hhosts, h.connected, h.fresh⟩
      by_cases hid : t.hostPublicId = publicId
      · have hp := h.published k t hk
        rw [hid, hold] at hp
        rw [hid, ← Option.some.inj hp, hsame]
        exact AList.lookup_insert _
      · exact hother k t hk hid
    · -- the sessions of the evicted connection move to the new one
      have hpub : ∀ k t₀, g.sessions.lookup k = some t₀ →
          (g.hostByPublicId.insert publicId conn).lookup t₀.hostPublicId =
            some (t₀.transfer old conn publicId).hostConn := by
        intro k t₀ ht₀
        by_cases hid : t₀.hostPublicId = publicId
        · have hp := h.published k t₀ ht₀
          rw [hid, hold] at hp
          have hc : t₀.hostConn = old := (Option.some.inj hp).symm
          rw [Session.transfer, if_pos ⟨hc, hid⟩, hid]
          exact AList.lookup_insert _
        · rw [Session.transfer, if_neg fun hand => hid hand.2]
          exact hother k t₀ ht₀ hid
      constructor
      all_goals simp only [RegistryInner.evict_sessions, RegistryInner.evict_hostBusy,
        RegistryInner.evict_hostByPublicId, RegistryInner.evict_conns,
        RegistryInner.evict_nextConnId, HashMap.lookup_mapVals, Option.map_eq_some_iff]
      · rintro k t ⟨t₀, ht₀, rfl⟩
        exact h.live k t₀ ht₀
      · intro hid k
        rw [h.busy hid k]
        constructor
        · rintro ⟨t₀, ht₀, hhid⟩
          exact ⟨_, ⟨t₀, ht₀, rfl⟩, hhid⟩
        · rintro ⟨t, ⟨t₀, ht₀, rfl⟩, hhid⟩
          exact ⟨t₀, ht₀, hhid⟩
      · rintro k t ⟨t₀, ht₀, rfl⟩
        exact hpub k t₀ ht₀
      · rintro k t ⟨t₀, ht₀, rfl⟩
        exact h.viewer k t₀ ht₀
      · exact hhosts
      · -- only a host connection is evicted
        intro c hp
        have hne : c ≠ old := by
          rintro rfl
          rw [h.hosts _ _ hold] at hp
          rcases hp with hp | hp <;> cases hp
        rw [AList.lookup_erase_ne hne]
        exact h.connected c hp
      · exact h.fresh

theorem bindPeer (h : Coherent phase g) {conn : ConnId} (identity : PeerIdentity)
    (hreg : phase.lookup conn = some .registered) :
    Coherent (phase.insert conn (.bound identity.role)) (g.bindPeer conn identity) := by
  have hb := h.bindPhase hreg identity.role
  obtain ⟨role, devicePublicId, deviceId, anonymous⟩ := identity
  unfold RegistryInner.bindPeer
  rcases role with _ | _
  · rcases devicePublicId with _ | publicId
    · exact hb.congr rfl rfl rfl (fun _ hc => hc) rfl
    · exact (hb.publishHost publicId (AList.lookup_insert _)).congr rfl rfl rfl
        (fun _ hc => hc) rfl
  · exact hb.congr rfl rfl rfl (fun _ hc => hc) rfl

/-- Withdrawing a connection from the maps once no session refers to it. -/
theorem withdraw (h : Coherent phase g) {conn : ConnId}
    (hconn : (phase.lookup conn).isSome)
    (hfree : ∀ sid s, g.sessions.lookup sid = some s →
      s.hostConn ≠ conn ∧ s.viewerConn ≠ conn) :
    Coherent (phase.insert conn .gone) { g with
      conns := g.conns.erase conn
      peers := g.peers.erase conn
      hostByPublicId := g.hostByPublicId.eraseAll
        (g.hostByPublicId.keysWhere fun _ cid => decide (cid = conn)) } := by
  have hhost : ∀ hid c, (g.hostByPublicId.eraseAll (g.hostByPublicId.keysWhere
      fun _ cid => decide (cid = conn))).lookup hid = some c ↔
      g.hostByPublicId.lookup hid = some c ∧ c ≠ conn := by
    intro hid c
    rw [HashMap.lookup_eraseAll]
    constructor
    · intro hc
      split_ifs at hc with hmem
      exact ⟨hc, fun heq => hmem (HashMap.mem_keysWhere.mpr ⟨c, hc, by simpa using heq⟩)⟩
    · rintro ⟨hc, hne⟩
      rw [if_neg]
      · exact hc
      · rw [HashMap.mem_keysWhere]
        rintro ⟨v, hv, hvc⟩
        rw [hc] at hv
        exact hne (Option.some.inj hv ▸ of_decide_eq_true hvc)
  have hphase : ∀ c p, c ≠ conn → phase.lookup c = some p →
      (phase.insert conn Phase.gone).lookup c = some p :=
    fun c p hne hp => (AList.lookup_insert_ne hne).trans hp
  refine ⟨h.live, h.busy, fun k t hk => (hhost _ _).mpr ⟨h.published k t hk, (hfree k t hk).1⟩,
    fun k t hk => hphase _ _ (hfree k t hk).2 (h.viewer k t hk), fun hid c hc => ?_,
    fun c hp => ?_, fun c hp => ?_⟩
  · obtain ⟨hc, hne⟩ := (hhost hid c).mp hc
    exact hphase c _ hne (h.hosts hid c hc)
  · rw [HashMap.lookup_insert_if] at hp
    split_ifs at hp with hc
    · rcases hp with hp | hp <;> cases hp
    · rw [AList.lookup_erase_ne hc]
      exact h.connected c hp
  · rw [HashMap.lookup_insert_if] at hp
    split_ifs at hp with hc
    · exact hc ▸ h.fresh conn hconn
    · exact h.fresh c hp

theorem unregisterConn (h : Coherent phase g) {conn : ConnId}
    (hconn : (phase.lookup conn).isSome) :
    Coherent (phase.insert conn .gone) (g.unregisterConn conn) := by
  set affected := g.sessions.keysWhere fun _ s =>
    decide (s.hostConn = conn ∨ s.viewerConn = conn) with haff
  have hclosed := h.closeAll affected "peer_disconnected"
  have hfree : ∀ sid s,
      (g.closeAll affected "peer_disconnected").sessions.lookup sid = some s →
      s.hostConn ≠ conn ∧ s.viewerConn ≠ conn := by
    intro sid s hs
    rw [RegistryInner.sessions_closeAll] at hs
    split_ifs at hs with hmem
    rw [haff, HashMap.mem_keysWhere] at hmem
    rw [← not_or]
    exact fun hor => hmem ⟨s, hs, decide_eq_true hor⟩
  have hwith := hclosed.withdraw hconn hfree
  -- the source withdraws first and closes afterwards
  obtain ⟨hc, hh, -, hn⟩ := g.closeAll_frame affected "peer_disconnected"
  set g₁ : RegistryInner := { g with
    conns := g.conns.erase conn
    peers := g.peers.erase conn
    hostByPublicId := g.hostByPublicId.eraseAll
      (g.hostByPublicId.keysWhere fun _ cid => decide (cid = conn)) } with hg₁
  have hun : g.unregisterConn conn = g₁.closeAll affected "peer_disconnected" := rfl
  obtain ⟨hc', hh', -, hn'⟩ := g₁.closeAll_frame affected "peer_disconnected"
  have hsb : (g₁.closeAll affected "peer_disconnected").sessions =
        (g.closeAll affected "peer_disconnected").sessions ∧
      (g₁.closeAll affected "peer_disconnected").hostBusy =
        (g.closeAll affected "peer_disconnected").hostBusy :=
    RegistryInner.closeAll_congr (show g₁.sessions = g.sessions from rfl)
      (show g₁.hostBusy = g.hostBusy from rfl) affected "peer_disconnected"
  rw [hun]
  refine hwith.congr hsb.1 hsb.2 ?_ (fun c hi => ?_) ?_
  · rw [hh', hh]
  · rw [hc']
    rw [hc] at hi
    exact hi
  · rw [hn']
    exact hn.symm

/-! ## Session events -/

theorem trySend (h : Coherent phase g) (c : ConnId) (m : SignalMessage) :
    Coherent phase (g.trySend c m).2 :=
  h.push c m

/-- Storing a pending session keeps the maps coherent, delivered or rolled back. -/
theorem insertPending (h : Coherent phase g) {req : CreatePendingSession} {s : Session}
    (seq : UInt64) (hsid : g.sessions.lookup req.sessionId = none)
    (hfree : g.hostBusy.lookup s.hostPublicId = none) (hhost : s.hostPublicId = req.hostPublicId)
    (hlive : s.state ≠ .closed) (hpub : g.hostByPublicId.lookup s.hostPublicId = some s.hostConn)
    (hviewer : phase.lookup s.viewerConn = some (.bound .viewer)) :
    Coherent phase (g.insertPending req s seq).2 := by
  have hins := (h.insert hsid hfree hlive hpub hviewer).trySend s.hostConn
    (RegistryInner.incomingMessage req seq)
  rw [hhost] at hins
  unfold RegistryInner.insertPending
  dsimp only
  split_ifs
  · exact hins
  · rcases hs : AList.lookup req.sessionId (RegistryInner.sessions _) with _ | t
    · exact hins
    · exact hins.erase hs

theorem createPendingSession (h : Coherent phase g) (ttl : Int) {req : CreatePendingSession}
    (now : Time) (hviewer : phase.lookup req.viewerConn = some (.bound .viewer)) :
    Coherent phase (g.createPendingSession ttl req now).2 := by
  have hr := h.reap now
  unfold RegistryInner.createPendingSession
  dsimp only
  split_ifs with hsid hbusy
  · exact hr
  · exact hr
  · rcases hhost : (g.reapExpired now).2.hostByPublicId.lookup req.hostPublicId with _ | hostConn
    · exact hr
    · rcases checkedSucc req.signalSeq with _ | incoming
      · exact hr
      · dsimp only
        rcases checkedSucc incoming with _ | next
        · exact hr
        · exact hr.insertPending incoming (Option.not_isSome_iff_eq_none.mp hsid)
            (Option.not_isSome_iff_eq_none.mp hbusy) rfl (fun hc => nomatch hc) hhost hviewer

theorem acceptSession (h : Coherent phase g) (ttl : Int) (conn : ConnId) (sid : String)
    (seq : UInt64) (now : Time) :
    Coherent phase (g.acceptSession ttl conn sid seq now).2 := by
  have hr := h.reap now
  unfold RegistryInner.acceptSession
  dsimp only
  rcases hp : (g.reapExpired now).2.hostPending conn sid seq with e | s
  · exact hr
  · have hs := (RegistryInner.hostPending_ok hp).1
    refine Coherent.push (hr.update hs ?_ ?_ ?_ ?_) _ _
    · intro hc
      cases hc
    · rfl
    · rfl
    · rfl

theorem rejectSession (h : Coherent phase g) (conn : ConnId) (sid : String) (seq : UInt64)
    (reason : RejectReason) (now : Time) :
    Coherent phase (g.rejectSession conn sid seq reason now).2 := by
  have hr := h.reap now
  unfold RegistryInner.rejectSession
  dsimp only
  rcases hp : (g.reapExpired now).2.hostPending conn sid seq with e | s
  · exact hr
  · exact (hr.erase (RegistryInner.hostPending_ok hp).1).push _ _

theorem endSession (h : Coherent phase g) (conn : ConnId) (sid : String) (seq : UInt64)
    (reason : String) (now : Time) :
    Coherent phase (g.endSession conn sid seq reason now).2 := by
  have hr := h.reap now
  unfold RegistryInner.endSession
  dsimp only
  rcases hs : (g.reapExpired now).2.sessions.lookup sid with _ | s
  · exact hr
  · dsimp only
    split_ifs
    · exact hr
    · exact hr
    · exact hr
    · exact (hr.erase hs).push _ _
    · exact (hr.erase hs).push _ _

theorem forceDisconnect (h : Coherent phase g) (sid reason : String) (now : Time) :
    Coherent phase (g.forceDisconnect sid reason now).2 := by
  have hr := h.reap now
  unfold RegistryInner.forceDisconnect
  dsimp only
  rcases hs : (g.reapExpired now).2.sessions.lookup sid with _ | s
  · exact hr
  · dsimp only
    split_ifs with hc
    · exact absurd hc (hr.live sid s hs)
    · exact hr.close sid reason

theorem forward (h : Coherent phase g) {sid : String} {s : Session}
    (hs : g.sessions.lookup sid = some s) (from_ : ConnId) (seq : UInt64) (msg : SignalMessage) :
    Coherent phase (g.forward from_ sid seq s msg).2 := by
  have hu : Coherent phase { g with
      sessions := g.sessions.insert sid { s with nextSignalSeq := saturatingSucc seq } } :=
    h.update hs (h.live sid s hs) rfl rfl rfl
  unfold RegistryInner.forward
  generalize (if s.hostConn = from_ then s.viewerConn else s.hostConn) = peer
  dsimp only
  split_ifs
  · exact hu.trySend peer msg
  · exact hu.trySend peer msg
  · exact hu

theorem relayMediaSignal (h : Coherent phase g) (from_ : ConnId) (msg : SignalMessage)
    (now : Time) : Coherent phase (g.relayMediaSignal from_ msg now).2 := by
  have hr := h.reap now
  unfold RegistryInner.relayMediaSignal
  rcases RegistryInner.relayKey? msg with _ | ⟨sid, seq⟩
  · exact h
  · dsimp only
    rcases hs : (g.reapExpired now).2.sessions.lookup sid with _ | s
    · exact hr
    · dsimp only
      split_ifs
      · exact hr
      · exact hr
      · exact hr
      · exact hr
      · rcases RegistryInner.relayRoleError msg (decide (s.hostConn = from_)) with _ | e
        · exact hr.forward hs from_ seq msg
        · exact hr

/-- **The step lemma**: every event the handler's discipline allows keeps the maps coherent. -/
theorem step {ttls : Ttls} {w w' : RegistryWorld} {e : RegistryEvent}
    (h : Coherent w.phase w.inner) (hstep : (registrySystem ttls).step w e = some w') :
    Coherent w'.phase w'.inner := by
  simp only [registrySystem] at hstep
  split_ifs at hstep with hall
  obtain rfl := Option.some.inj hstep
  cases e with
  | registerConn => exact h.registerConn
  | dropReceiver conn => exact h.dropReceiver conn
  | bindPeer conn identity => exact h.bindPeer identity (of_decide_eq_true hall)
  | sendTo conn msg => exact h.trySend conn msg
  | createPendingSession req now =>
    exact h.createPendingSession ttls.pending now (of_decide_eq_true hall)
  | acceptSession conn sid seq now => exact h.acceptSession ttls.active conn sid seq now
  | rejectSession conn sid seq reason now => exact h.rejectSession conn sid seq reason now
  | endSession conn sid seq reason now => exact h.endSession conn sid seq reason now
  | relayMediaSignal conn msg now => exact h.relayMediaSignal conn msg now
  | reapExpired now => exact h.reap now
  | forceDisconnect sid reason now => exact h.forceDisconnect sid reason now
  | unregisterConn conn =>
    exact h.unregisterConn (Option.isSome_iff_ne_none.mpr (of_decide_eq_true hall).1)

end Coherent

/-- **The maps are coherent in every reachable state.** -/
theorem registry_coherent {ttls : Ttls} {w : RegistryWorld}
    (h : (registrySystem ttls).Reachable w) : Coherent w.phase w.inner :=
  h.invariant (fun w => Coherent w.phase w.inner)
    (fun w hw => by obtain rfl : w = ⟨.empty, ∅⟩ := hw; exact Coherent.empty)
    fun _ _ _ hi _ hs => hi.step hs

/-! ## Expired sessions -/

namespace RegistryEvent

/-- An event that reads the clock starts from the reaped registry: a session whose expiry has
passed is gone for everything the event does. -/
theorem perform_reaped {ttls : Ttls} {g : RegistryInner} {e : RegistryEvent} {now : Time}
    {sid : String} (hclock : e.clock = some now) (htarget : e.target = some sid)
    (hgone : sid ∈ g.expired now) :
    e.perform ttls g =
      (.error (.error "not_found" "unknown session_id"), (g.reapExpired now).2) := by
  have hnone : (g.reapExpired now).2.sessions.lookup sid = none := by
    rw [RegistryInner.sessions_reap, if_pos hgone]
  cases e with
  | acceptSession conn sid' seq now' =>
    obtain rfl := Option.some.inj hclock
    obtain rfl := Option.some.inj htarget
    simp only [perform, RegistryInner.acceptSession, RegistryInner.hostPending, hnone]
  | rejectSession conn sid' seq reason now' =>
    obtain rfl := Option.some.inj hclock
    obtain rfl := Option.some.inj htarget
    simp only [perform, RegistryInner.rejectSession, RegistryInner.hostPending, hnone]
  | endSession conn sid' seq reason now' =>
    obtain rfl := Option.some.inj hclock
    obtain rfl := Option.some.inj htarget
    simp only [perform, RegistryInner.endSession, hnone]
  | relayMediaSignal conn msg now' =>
    obtain ⟨⟨sid', seq⟩, hkey, rfl⟩ := Option.map_eq_some_iff.mp htarget
    rw [clock, hkey] at hclock
    obtain rfl := Option.some.inj hclock
    simp only [perform, RegistryInner.relayMediaSignal, hkey, hnone]
  | registerConn => cases htarget
  | dropReceiver conn => cases htarget
  | bindPeer conn identity => cases htarget
  | sendTo conn msg => cases htarget
  | createPendingSession req now' => cases htarget
  | reapExpired now' => cases htarget
  | forceDisconnect sid' reason now' => cases htarget
  | unregisterConn conn => cases htarget

/-- **Where a session comes from**: a session stored after an event is the fresh session of a
create, or it was stored before. In the second case it had not expired by the clock reading of
the event, and an event without a clock reading leaves its state, its sequence number and its
expiry alone.

**Proof sketch.** By cases on the event. A clocked event works on the reaped registry, where
`lookup_of_reap` leads every stored session back to an unexpired one; the remaining writes
erase sessions or overwrite a stored one. -/
theorem session_origin {ttls : Ttls} {g : RegistryInner} {e : RegistryEvent} {sid : String}
    {x' : Session} (h : (e.perform ttls g).2.sessions.lookup sid = some x') :
    (∃ req now hostConn seq, e = .createPendingSession req now ∧ req.sessionId = sid ∧
      x' = RegistryInner.pendingSession ttls.pending req hostConn seq now) ∨
    ∃ x, g.sessions.lookup sid = some x ∧ (∀ now, e.clock = some now → sid ∉ g.expired now) ∧
      (e.clock = none → x'.state = x.state ∧ x'.nextSignalSeq = x.nextSignalSeq ∧
        x'.expiresAt = x.expiresAt) := by
  -- the case of a session that is still stored in the reaped registry
  have hreaped : ∀ {now : Time} {x : Session}, e.clock = some now →
      (g.reapExpired now).2.sessions.lookup sid = some x →
      ∃ x, g.sessions.lookup sid = some x ∧ (∀ now, e.clock = some now → sid ∉ g.expired now) ∧
      (e.clock = none → x'.state = x.state ∧ x'.nextSignalSeq = x.nextSignalSeq ∧
        x'.expiresAt = x.expiresAt) := by
    intro now x hclock hx
    obtain ⟨hx, hne⟩ := RegistryInner.lookup_of_reap hx
    refine ⟨x, hx, fun now' hnow' => ?_, fun hnone => ?_⟩
    · rw [hclock] at hnow'
      exact Option.some.inj hnow' ▸ hne
    · rw [hclock] at hnone
      cases hnone
  -- the case of an event that neither reads the clock nor touches the session
  have hsame : e.clock = none → g.sessions.lookup sid = some x' →
      ∃ x, g.sessions.lookup sid = some x ∧ (∀ now, e.clock = some now → sid ∉ g.expired now) ∧
      (e.clock = none → x'.state = x.state ∧ x'.nextSignalSeq = x.nextSignalSeq ∧
        x'.expiresAt = x.expiresAt) := by
    intro hclock hx
    refine ⟨x', hx, fun now hnow => ?_, fun _ => ⟨rfl, rfl, rfl⟩⟩
    rw [hclock] at hnow
    cases hnow
  cases e with
  | registerConn => exact .inr (hsame rfl h)
  | dropReceiver conn => exact .inr (hsame rfl h)
  | sendTo conn msg => exact .inr (hsame rfl (by simpa [perform, RegistryInner.sendTo] using h))
  | bindPeer conn identity =>
    obtain ⟨x, old, publicId, hx, hx'⟩ := RegistryInner.lookup_of_bindPeer h
    refine .inr ⟨x, hx, fun now hnow => ?_, fun _ => ?_⟩
    · cases hnow
    · rcases hx' with rfl | rfl
      · exact ⟨rfl, rfl, rfl⟩
      · exact ⟨rfl, rfl, rfl⟩
  | unregisterConn conn =>
    simp only [perform, RegistryInner.unregisterConn, RegistryInner.sessions_closeAll] at h
    split_ifs at h
    exact .inr (hsame rfl h)
  | reapExpired now => exact .inr (hreaped rfl h)
  | createPendingSession req now =>
    rcases RegistryInner.lookup_of_create h with ⟨hostConn, seq, hsid, hx'⟩ | hx
    · exact .inl ⟨req, now, hostConn, seq, rfl, hsid, hx'⟩
    · exact .inr (hreaped rfl hx)
  | acceptSession conn sid' seq now =>
    obtain ⟨x, hx, -⟩ := RegistryInner.lookup_of_accept h
    exact .inr (hreaped rfl hx)
  | rejectSession conn sid' seq reason now =>
    exact .inr (hreaped rfl (RegistryInner.lookup_of_reject h))
  | endSession conn sid' seq reason now =>
    exact .inr (hreaped rfl (RegistryInner.lookup_of_end h))
  | forceDisconnect sid' reason now =>
    exact .inr (hreaped rfl (RegistryInner.lookup_of_forceDisconnect h))
  | relayMediaSignal conn msg now =>
    rcases hkey : RegistryInner.relayKey? msg with _ | key
    · simp only [perform, RegistryInner.relayMediaSignal, hkey] at h
      exact .inr (hsame (by simp [clock, hkey]) h)
    · obtain ⟨x, hx, -⟩ := RegistryInner.lookup_of_relay hkey h
      exact .inr (hreaped (by simp [clock, hkey]) hx)

/-- A pending session stored after an event is the fresh session of a create, or it was pending
before, for the same host. -/
theorem pending_origin {ttls : Ttls} {g : RegistryInner} {e : RegistryEvent} {sid : String}
    {x' : Session} (h : (e.perform ttls g).2.sessions.lookup sid = some x')
    (hp : x'.state = .pending) :
    (∃ req now hostConn seq, e = .createPendingSession req now ∧ req.sessionId = sid ∧
      x' = RegistryInner.pendingSession ttls.pending req hostConn seq now) ∨
    ∃ x, g.sessions.lookup sid = some x ∧ x.state = .pending ∧
      x.hostPublicId = x'.hostPublicId := by
  have hsame : g.sessions.lookup sid = some x' → ∃ x, g.sessions.lookup sid = some x ∧
      x.state = .pending ∧ x.hostPublicId = x'.hostPublicId := fun hx => ⟨x', hx, hp, rfl⟩
  have hreaped : ∀ {now : Time}, (g.reapExpired now).2.sessions.lookup sid = some x' →
      ∃ x, g.sessions.lookup sid = some x ∧ x.state = .pending ∧
        x.hostPublicId = x'.hostPublicId := fun hx => hsame (RegistryInner.lookup_of_reap hx).1
  cases e with
  | registerConn => exact .inr (hsame h)
  | dropReceiver conn => exact .inr (hsame h)
  | sendTo conn msg => exact .inr (hsame (by simpa [perform, RegistryInner.sendTo] using h))
  | bindPeer conn identity =>
    obtain ⟨x, old, publicId, hx, rfl | rfl⟩ := RegistryInner.lookup_of_bindPeer h
    · exact .inr (hsame hx)
    · exact .inr ⟨x, hx, hp, rfl⟩
  | unregisterConn conn =>
    simp only [perform, RegistryInner.unregisterConn, RegistryInner.sessions_closeAll] at h
    split_ifs at h
    exact .inr (hsame h)
  | reapExpired now => exact .inr (hreaped h)
  | createPendingSession req now =>
    rcases RegistryInner.lookup_of_create h with ⟨hostConn, seq, hsid, hx'⟩ | hx
    · exact .inl ⟨req, now, hostConn, seq, rfl, hsid, hx'⟩
    · exact .inr (hreaped hx)
  | acceptSession conn sid' seq now =>
    obtain ⟨x, hx, heq⟩ := RegistryInner.lookup_of_accept h
    exact .inr (hreaped (heq hp ▸ hx))
  | rejectSession conn sid' seq reason now =>
    exact .inr (hreaped (RegistryInner.lookup_of_reject h))
  | endSession conn sid' seq reason now => exact .inr (hreaped (RegistryInner.lookup_of_end h))
  | forceDisconnect sid' reason now =>
    exact .inr (hreaped (RegistryInner.lookup_of_forceDisconnect h))
  | relayMediaSignal conn msg now =>
    rcases hkey : RegistryInner.relayKey? msg with _ | key
    · simp only [perform, RegistryInner.relayMediaSignal, hkey] at h
      exact .inr (hsame h)
    · obtain ⟨x, hx, heq⟩ := RegistryInner.lookup_of_relay hkey h
      exact .inr (hreaped (heq hp ▸ hx))

/-- Whether an event opens, binds or closes a connection. -/
def isConnection : RegistryEvent → Bool
  | registerConn | bindPeer _ _ | unregisterConn _ => true
  | _ => false

/-- The other events leave presence alone. -/
theorem perform_hostByPublicId {ttls : Ttls} {g : RegistryInner} {e : RegistryEvent}
    (h : e.isConnection = false) :
    (e.perform ttls g).2.hostByPublicId = g.hostByPublicId := by
  cases e with
  | registerConn => cases h
  | bindPeer conn identity => cases h
  | unregisterConn conn => cases h
  | dropReceiver conn => rfl
  | sendTo conn msg => exact g.push_hostByPublicId conn msg
  | createPendingSession req now => exact g.create_hostByPublicId now _ req
  | acceptSession conn sid seq now => exact g.accept_hostByPublicId now _ conn sid seq
  | rejectSession conn sid seq reason now => exact g.reject_hostByPublicId now conn sid seq reason
  | endSession conn sid seq reason now => exact g.end_hostByPublicId now conn sid seq reason
  | relayMediaSignal conn msg now => exact g.relay_hostByPublicId now conn msg
  | reapExpired now => exact g.reap_hostByPublicId now
  | forceDisconnect sid reason now => exact g.forceDisconnect_hostByPublicId now sid reason

/-- The other events leave the phases alone. -/
theorem advance_eq {g : RegistryInner} {phase : HashMap ConnId Phase} {e : RegistryEvent}
    (h : e.isConnection = false) : e.advance g phase = phase := by
  cases e <;> first | rfl | cases h

end RegistryEvent

/-! ## The single-session lock -/

/-- **The single-session lock is exact.** In every reachable state a host is busy with a session
exactly when that session is stored, not closed and of that host; every live session is attached
to the published connection of its host and to a registered viewer connection. An event that
reads the clock after a session's expiry answers an accept, reject, end or relay of it with
`not_found`, does nothing but reap, and leaves nothing stored under the session's id except the
fresh session of a create; an event that does not read the clock changes no session's state,
sequence number or expiry.

**Proof sketch.** The first two parts are fields of `Coherent`, the invariant of
`registry_coherent`. The last two are `perform_reaped` and `session_origin`. -/
theorem host_lock_exact {ttls : Ttls} {w : RegistryWorld}
    (h : (registrySystem ttls).Reachable w) :
    (∀ host sid, w.inner.hostBusy.lookup host = some sid ↔
      ∃ s, w.inner.sessions.lookup sid = some s ∧ s.state ≠ .closed ∧ s.hostPublicId = host) ∧
    (∀ sid s, w.inner.sessions.lookup sid = some s → s.state ≠ .closed →
      w.inner.hostByPublicId.lookup s.hostPublicId = some s.hostConn ∧
      (w.inner.conns.lookup s.viewerConn).isSome) ∧
    (∀ e w' now sid s, (registrySystem ttls).step w e = some w' → e.clock = some now →
      w.inner.sessions.lookup sid = some s → s.expiresAt ≤ now →
      (e.target = some sid → e.perform ttls w.inner =
        (.error (.error "not_found" "unknown session_id"), (w.inner.reapExpired now).2)) ∧
      ∀ s', w'.inner.sessions.lookup sid = some s' →
        ∃ req now hostConn seq, e = .createPendingSession req now ∧ req.sessionId = sid ∧
          s' = RegistryInner.pendingSession ttls.pending req hostConn seq now) ∧
    (∀ e w' sid s s', (registrySystem ttls).step w e = some w' → e.clock = none →
      w.inner.sessions.lookup sid = some s → w'.inner.sessions.lookup sid = some s' →
      s'.state = s.state ∧ s'.nextSignalSeq = s.nextSignalSeq ∧ s'.expiresAt = s.expiresAt) := by
  have hcoh := registry_coherent h
  have hstep : ∀ {e w'}, (registrySystem ttls).step w e = some w' →
      w'.inner = (e.perform ttls w.inner).2 := by
    intro e w' hs
    simp only [registrySystem] at hs
    split_ifs at hs
    exact (congrArg RegistryWorld.inner (Option.some.inj hs)).symm
  refine ⟨fun host sid => ?_, fun sid s hs _ => ⟨hcoh.published sid s hs, ?_⟩,
    fun e w' now sid s he hclock hs hexp => ⟨fun htarget => ?_, fun s' hs' => ?_⟩,
    fun e w' sid s s' he hclock hs hs' => ?_⟩
  · rw [hcoh.busy host sid]
    constructor
    · rintro ⟨s, hs, hhost⟩
      exact ⟨s, hs, hcoh.live sid s hs, hhost⟩
    · rintro ⟨s, hs, -, hhost⟩
      exact ⟨s, hs, hhost⟩
  · exact hcoh.connected _ (.inr (hcoh.viewer sid s hs))
  · exact RegistryEvent.perform_reaped hclock htarget
      (RegistryInner.mem_expired.mpr ⟨s, hs, hcoh.live sid s hs, hexp⟩)
  · rw [hstep he] at hs'
    rcases RegistryEvent.session_origin hs' with hfresh | ⟨x, hx, hne, -⟩
    · exact hfresh
    · exact absurd (RegistryInner.mem_expired.mpr ⟨s, hs, hcoh.live sid s hs, hexp⟩)
        (hne now hclock)
  · rw [hstep he] at hs'
    rcases RegistryEvent.session_origin hs' with ⟨req, now, -, -, rfl, -⟩ | ⟨x, hx, -, hkeep⟩
    · cases hclock
    · rw [hs] at hx
      exact Option.some.inj hx ▸ hkeep hclock

/-- A host and an anonymous viewer connect, the viewer asks for a session and the host accepts
it one second later. -/
def acceptedRun : List RegistryEvent :=
  [.registerConn, .bindPeer 1 ⟨.host, some "host-1", some 7, false⟩,
    .registerConn, .bindPeer 2 ⟨.viewer, none, none, true⟩,
    .createPendingSession ⟨2, "sess-1", "host-1", ⟨7, "host-1", .active⟩, .otp, 0, .null⟩ 0,
    .acceptSession 1 "sess-1" 2 second]

/-- After `acceptedRun` the host is busy with the accepted session, and the lock is exact. -/
theorem host_lock_exact_acceptedRun : ∃ w,
    (registrySystem .default).runFrom ⟨.empty, ∅⟩ acceptedRun = some w ∧
    w.inner.hostBusy.lookup "host-1" = some "sess-1" ∧
    ∃ s, w.inner.sessions.lookup "sess-1" = some s ∧ s.state ≠ .closed ∧
      s.hostPublicId = "host-1" := by
  refine ⟨_, rfl, rfl, ?_⟩
  exact ((host_lock_exact (System.reachable_of_runFrom (.init rfl)
    (show (registrySystem .default).runFrom ⟨.empty, ∅⟩ acceptedRun = some _ from rfl))).1
    "host-1" "sess-1").mp rfl

end RemoteLink.Server
