import RemoteLink.Server.SessionCases
import RemoteLink.Server.SessionInvariant

set_option autoImplicit false

/-!
# A host that reconnects takes its sessions along

When a host binds on a new connection, its sessions move there and the old connection is evicted.
The task behind the old connection may still read frames, and it unregisters at some later time.
From the bind on, the old connection is out: no later event lets it refer to a session again.

## Main definitions

* `RegistryEvent.sender` — the connection that a session operation comes from.
* `Retired` — a connection that was bound, is no longer published and cannot be published again.

## Main results

* `published_once` — a connection is published for at most one host.
* `Retired.step` — a retired connection stays retired.
* `Retired.unregister`, `Retired.refused` — what is left for it to do.
* `reconnect_transfers` — the sessions of a reconnecting host, and the old connection afterwards.
-/

namespace RemoteLink.Server

open RemoteLink.Library RemoteLink.Protocol

/-! ## Presence -/

/-- A connection is published for at most one host. -/
def PublishedOnce (g : RegistryInner) : Prop :=
  ∀ h h' c, g.hostByPublicId.lookup h = some c → g.hostByPublicId.lookup h' = some c → h = h'

/-- **A connection is published for at most one host**: it binds once, and publishes one host when
it does. -/
theorem published_once {ttls : Ttls} {w : RegistryWorld}
    (h : (registrySystem ttls).Reachable w) : PublishedOnce w.inner := by
  induction h with
  | init hw =>
    obtain rfl := hw
    intro h h' c hc
    simp [RegistryInner.empty] at hc
  | @step w w' e hreach _ hstep ih =>
    have hcoh := registry_coherent hreach
    simp only [registrySystem] at hstep
    split_ifs at hstep with hall
    obtain rfl := Option.some.inj hstep
    intro h h' c hc hc'
    dsimp only at hc hc'
    by_cases hconn : e.isConnection = true
    · cases e with
      | registerConn => exact ih h h' c hc hc'
      | unregisterConn conn =>
        exact ih h h' c (RegistryInner.lookup_hostByPublicId_unregister hc).2
          (RegistryInner.lookup_hostByPublicId_unregister hc').2
      | bindPeer conn identity =>
        -- the connection that binds was not published before
        have hreg : w.phase.lookup conn = some .registered := of_decide_eq_true hall
        have hnew : ∀ host, w.inner.hostByPublicId.lookup host ≠ some conn := by
          intro host hpub
          rw [hcoh.hosts host conn hpub] at hreg
          cases hreg
        rcases RegistryInner.lookup_hostByPublicId_bindPeer hc with ⟨rfl, -, hpid⟩ | hold
        · rcases RegistryInner.lookup_hostByPublicId_bindPeer hc' with ⟨-, -, hpid'⟩ | hold'
          · exact Option.some.inj (hpid.symm.trans hpid')
          · exact absurd hold' (hnew h')
        · rcases RegistryInner.lookup_hostByPublicId_bindPeer hc' with ⟨rfl, -, -⟩ | hold'
          · exact absurd hold (hnew h)
          · exact ih h h' c hold hold'
      | dropReceiver conn => cases hconn
      | sendTo conn msg => cases hconn
      | createPendingSession req now => cases hconn
      | acceptSession conn sid seq now => cases hconn
      | rejectSession conn sid seq reason now => cases hconn
      | endSession conn sid seq reason now => cases hconn
      | relayMediaSignal conn msg now => cases hconn
      | reapExpired now => cases hconn
      | forceDisconnect sid reason now => cases hconn
    · rw [RegistryEvent.perform_hostByPublicId (Bool.not_eq_true _ ▸ hconn)] at hc hc'
      exact ih h h' c hc hc'

/-! ## Retired connections -/

/-- A connection that was bound as a host or is gone, and is not published for any host. -/
structure Retired (w : RegistryWorld) (old : ConnId) : Prop where
  phase : w.phase.lookup old = some (.bound .host) ∨ w.phase.lookup old = some .gone
  unpublished : ∀ host, w.inner.hostByPublicId.lookup host ≠ some old

namespace Retired

variable {ttls : Ttls} {w w' : RegistryWorld} {old : ConnId}

/-- **A retired connection stays retired**: only a connection that has not bound yet can be
published. -/
theorem step {e : RegistryEvent} (h : Retired w old) (hcoh : Coherent w.phase w.inner)
    (hstep : (registrySystem ttls).step w e = some w') : Retired w' old := by
  simp only [registrySystem] at hstep
  split_ifs at hstep with hall
  obtain rfl := Option.some.inj hstep
  have hknown : (w.phase.lookup old).isSome = true := by
    rcases h.phase with hp | hp
    · rw [hp]; rfl
    · rw [hp]; rfl
  by_cases hconn : e.isConnection = true
  · cases e with
    | registerConn =>
      have hne : old ≠ w.inner.nextConnId := Nat.ne_of_lt (hcoh.fresh old hknown)
      refine ⟨?_, h.unpublished⟩
      simpa only [RegistryEvent.advance, AList.lookup_insert_ne hne] using h.phase
    | unregisterConn conn =>
      refine ⟨?_, fun host hpub =>
        h.unpublished host (RegistryInner.lookup_hostByPublicId_unregister hpub).2⟩
      simp only [RegistryEvent.advance, HashMap.lookup_insert_if]
      split_ifs
      · exact .inr rfl
      · exact h.phase
    | bindPeer conn identity =>
      have hreg : w.phase.lookup conn = some .registered := of_decide_eq_true hall
      have hne : old ≠ conn := by
        rintro rfl
        rcases h.phase with hp | hp
        · rw [hp] at hreg
          cases hreg
        · rw [hp] at hreg
          cases hreg
      refine ⟨?_, fun host hpub => ?_⟩
      · simpa only [RegistryEvent.advance, AList.lookup_insert_ne hne] using h.phase
      · rcases RegistryInner.lookup_hostByPublicId_bindPeer hpub with ⟨heq, -, -⟩ | hold
        · exact hne heq
        · exact h.unpublished host hold
    | dropReceiver conn => cases hconn
    | sendTo conn msg => cases hconn
    | createPendingSession req now => cases hconn
    | acceptSession conn sid seq now => cases hconn
    | rejectSession conn sid seq reason now => cases hconn
    | endSession conn sid seq reason now => cases hconn
    | relayMediaSignal conn msg now => cases hconn
    | reapExpired now => cases hconn
    | forceDisconnect sid reason now => cases hconn
  · have hother : e.isConnection = false := Bool.not_eq_true _ ▸ hconn
    refine ⟨?_, fun host hpub => ?_⟩
    · simpa only [RegistryEvent.advance_eq hother] using h.phase
    · rw [RegistryEvent.perform_hostByPublicId hother] at hpub
      exact h.unpublished host hpub

/-- No session refers to a retired connection. -/
theorem not_party (h : Retired w old) (hcoh : Coherent w.phase w.inner) {sid : String}
    {s : Session} (hs : w.inner.sessions.lookup sid = some s) : ¬s.party old := by
  rintro (rfl | rfl)
  · exact h.unpublished _ (hcoh.published sid s hs)
  · have hviewer := hcoh.viewer sid s hs
    rcases h.phase with hp | hp
    · rw [hp] at hviewer
      cases hviewer
    · rw [hp] at hviewer
      cases hviewer

/-- **The late cleanup of a retired connection closes nothing and withdraws nobody.** -/
theorem unregister (h : Retired w old) (hcoh : Coherent w.phase w.inner) :
    (w.inner.unregisterConn old).sessions = w.inner.sessions ∧
    (w.inner.unregisterConn old).hostBusy = w.inner.hostBusy ∧
    (w.inner.unregisterConn old).hostByPublicId = w.inner.hostByPublicId := by
  have hids : w.inner.hostByPublicId.keysWhere (fun _ cid => decide (cid = old)) = [] := by
    refine List.eq_nil_iff_forall_not_mem.mpr fun host hmem => ?_
    obtain ⟨c, hc, heq⟩ := HashMap.mem_keysWhere.mp hmem
    obtain rfl := of_decide_eq_true heq
    exact h.unpublished host hc
  have haffected : w.inner.sessions.keysWhere
      (fun _ s => decide (s.hostConn = old ∨ s.viewerConn = old)) = [] := by
    refine List.eq_nil_iff_forall_not_mem.mpr fun sid hmem => ?_
    obtain ⟨s, hs, hp⟩ := HashMap.mem_keysWhere.mp hmem
    have hparty : s.hostConn = old ∨ s.viewerConn = old := of_decide_eq_true hp
    exact h.not_party hcoh hs hparty
  unfold RegistryInner.unregisterConn
  dsimp only
  rw [hids, haffected]
  exact ⟨rfl, rfl, rfl⟩

end Retired

/-! ## Operations from a retired connection -/

/-- The connection that a session operation comes from. -/
def RegistryEvent.sender : RegistryEvent → Option ConnId
  | .acceptSession conn .. | .rejectSession conn .. | .endSession conn ..
  | .relayMediaSignal conn .. => some conn
  | _ => none

/-- **Every accept, reject, relay or end from a retired connection is refused**, and does nothing
but reap. -/
theorem Retired.refused {ttls : Ttls} {w : RegistryWorld} {old : ConnId} (h : Retired w old)
    (hcoh : Coherent w.phase w.inner) {e : RegistryEvent} (he : e.sender = some old) :
    ∃ code text, (e.perform ttls w.inner).1 = .error (.error code text) ∧
      ((e.perform ttls w.inner).2 = w.inner ∨
        ∃ now, e.clock = some now ∧ (e.perform ttls w.inner).2 = (w.inner.reapExpired now).2) := by
  have hparty : ∀ {now sid s}, (w.inner.reapExpired now).2.sessions.lookup sid = some s →
      ¬s.party old := fun hs => h.not_party hcoh (RegistryInner.lookup_of_reap hs).1
  cases e with
  | acceptSession conn sid seq now =>
    obtain rfl := Option.some.inj he
    rcases w.inner.accept_cases now ttls.active conn sid seq with ⟨code, text, heq⟩ |
      ⟨s, hs, hconn, -⟩
    · exact ⟨code, text, congrArg Prod.fst heq, .inr ⟨now, rfl, congrArg Prod.snd heq⟩⟩
    · exact absurd (.inl hconn) (hparty hs)
  | rejectSession conn sid seq reason now =>
    obtain rfl := Option.some.inj he
    rcases w.inner.reject_cases now conn sid seq reason with ⟨code, text, heq⟩ | ⟨s, hs, hconn, -⟩
    · exact ⟨code, text, congrArg Prod.fst heq, .inr ⟨now, rfl, congrArg Prod.snd heq⟩⟩
    · exact absurd (.inl hconn) (hparty hs)
  | endSession conn sid seq reason now =>
    obtain rfl := Option.some.inj he
    rcases w.inner.end_cases now conn sid seq reason with ⟨code, text, heq⟩ | ⟨s, hs, hclosed, -⟩ |
      ⟨s, hs, hp, -⟩
    · exact ⟨code, text, congrArg Prod.fst heq, .inr ⟨now, rfl, congrArg Prod.snd heq⟩⟩
    · exact absurd hclosed (hcoh.live sid s (RegistryInner.lookup_of_reap hs).1)
    · exact absurd hp (hparty hs)
  | relayMediaSignal conn msg now =>
    obtain rfl := Option.some.inj he
    rcases w.inner.relay_cases now conn msg with ⟨-, code, text, heq⟩ | ⟨sid, seq, hkey, hcases⟩
    · exact ⟨code, text, congrArg Prod.fst heq, .inl (congrArg Prod.snd heq)⟩
    have hclock : (RegistryEvent.relayMediaSignal conn msg now).clock = some now := by
      simp only [RegistryEvent.clock, hkey, Option.map_some]
    rcases hcases with ⟨code, text, heq⟩ | ⟨s, hs, hp, -⟩ | ⟨s, hs, hp, -⟩
    · exact ⟨code, text, congrArg Prod.fst heq, .inr ⟨now, hclock, congrArg Prod.snd heq⟩⟩
    · exact absurd hp (hparty hs)
    · exact absurd hp (hparty hs)
  | registerConn => cases he
  | dropReceiver conn => cases he
  | bindPeer conn identity => cases he
  | sendTo conn msg => cases he
  | createPendingSession req now => cases he
  | reapExpired now => cases he
  | forceDisconnect sid reason now => cases he
  | unregisterConn conn => cases he

/-! ## The reconnect -/

section Reconnect

variable {ttls : Ttls} {w w₁ : RegistryWorld} {conn old : ConnId} {identity : PeerIdentity}
  {publicId : String}

/-- Binding over a published connection publishes the new one and evicts the old one. -/
theorem bindPeer_evicts {g : RegistryInner} (hrole : identity.role = .host)
    (hpid : identity.devicePublicId = some publicId)
    (hold : g.hostByPublicId.lookup publicId = some old) (hne : old ≠ conn) :
    (g.bindPeer conn identity).sessions =
      g.sessions.mapVals (fun _ s => s.transfer old conn publicId) ∧
    (g.bindPeer conn identity).hostByPublicId = g.hostByPublicId.insert publicId conn := by
  obtain ⟨role, devicePublicId, deviceId, anonymous⟩ := identity
  obtain rfl : role = .host := hrole
  obtain rfl : devicePublicId = some publicId := hpid
  have hpub : g.publishHost conn publicId = { g with
      hostByPublicId := g.hostByPublicId.insert publicId conn }.evict old conn publicId := by
    unfold RegistryInner.publishHost
    simp only [hold, if_neg hne]
  unfold RegistryInner.bindPeer
  simp only [hpub, RegistryInner.evict_sessions, RegistryInner.evict_hostByPublicId, and_self]

/-- The evicted connection is retired. -/
theorem Retired.of_bind (h : (registrySystem ttls).Reachable w) (hrole : identity.role = .host)
    (hpid : identity.devicePublicId = some publicId)
    (hold : w.inner.hostByPublicId.lookup publicId = some old) (hne : old ≠ conn)
    (hbind : (registrySystem ttls).step w (.bindPeer conn identity) = some w₁) :
    Retired w₁ old := by
  have honce := published_once h
  have hcoh := registry_coherent h
  simp only [registrySystem] at hbind
  split_ifs at hbind
  obtain rfl := Option.some.inj hbind
  refine ⟨.inl ?_, fun host hpub => ?_⟩
  · simp only [RegistryEvent.advance, AList.lookup_insert_ne hne]
    exact hcoh.hosts publicId old hold
  · simp only [RegistryEvent.perform, (bindPeer_evicts hrole hpid hold hne).2,
      HashMap.lookup_insert_if] at hpub
    split_ifs at hpub with hhost
    · exact hne (Option.some.inj hpub).symm
    · exact hhost (honce host publicId old hpub hold)

/-- A retired connection is retired in every later state of a run. -/
theorem Retired.run {es : List RegistryEvent} {w₂ : RegistryWorld}
    (h : (registrySystem ttls).Reachable w) (hret : Retired w old)
    (hrun : (registrySystem ttls).runFrom w es = some w₂) : Retired w₂ old := by
  induction es generalizing w with
  | nil => exact Option.some.inj hrun ▸ hret
  | cons e es ih =>
    rw [System.runFrom_cons, Option.bind_eq_some_iff] at hrun
    obtain ⟨w', hstep, hrun⟩ := hrun
    exact ih (.step h trivial hstep) (hret.step (registry_coherent h) hstep) hrun

/-- **A host that reconnects takes its sessions along.** Let a host bind on a new connection while
an old one is published for it. Then every session of the host is still there and now refers to
the new connection, and no session refers to the old one. After any further events, whatever their
order, no session refers to the old connection; unregistering it leaves sessions, busy locks and
presence exactly as they are; and every accept, reject, relay or end from it is answered with an
error and does nothing but reap.

**Proof sketch.** The bind retires the old connection (`Retired.of_bind`): it was published for
this host only. A retired connection stays retired (`Retired.run`), and the maps are coherent, so
no session refers to it. -/
theorem reconnect_transfers (h : (registrySystem ttls).Reachable w)
    (hrole : identity.role = .host) (hpid : identity.devicePublicId = some publicId)
    (hold : w.inner.hostByPublicId.lookup publicId = some old) (hne : old ≠ conn)
    (hbind : (registrySystem ttls).step w (.bindPeer conn identity) = some w₁) :
    (∀ sid s, w.inner.sessions.lookup sid = some s → s.hostPublicId = publicId →
      w₁.inner.sessions.lookup sid = some { s with hostConn := conn }) ∧
    (∀ sid s, w₁.inner.sessions.lookup sid = some s → s.hostPublicId = publicId →
      s.hostConn = conn) ∧
    ∀ es w₂, (registrySystem ttls).runFrom w₁ es = some w₂ →
      (∀ sid s, w₂.inner.sessions.lookup sid = some s → s.hostConn ≠ old ∧ s.viewerConn ≠ old) ∧
      ((w₂.inner.unregisterConn old).sessions = w₂.inner.sessions ∧
        (w₂.inner.unregisterConn old).hostBusy = w₂.inner.hostBusy ∧
        (w₂.inner.unregisterConn old).hostByPublicId = w₂.inner.hostByPublicId) ∧
      ∀ e : RegistryEvent, e.sender = some old →
        ∃ code text, (e.perform ttls w₂.inner).1 = .error (.error code text) ∧
          ((e.perform ttls w₂.inner).2 = w₂.inner ∨
            ∃ now, e.clock = some now ∧
              (e.perform ttls w₂.inner).2 = (w₂.inner.reapExpired now).2) := by
  have hreach₁ : (registrySystem ttls).Reachable w₁ := .step h trivial hbind
  have hpub₁ : w₁.inner.hostByPublicId.lookup publicId = some conn := by
    simp only [registrySystem] at hbind
    split_ifs at hbind
    obtain rfl := Option.some.inj hbind
    simp only [RegistryEvent.perform, (bindPeer_evicts hrole hpid hold hne).2,
      AList.lookup_insert]
  refine ⟨fun sid s hs hhost => ?_, fun sid s hs hhost => ?_, fun es w₂ hrun => ?_⟩
  · have hconn : s.hostConn = old := by
      have hpub := (registry_coherent h).published sid s hs
      rw [hhost, hold] at hpub
      exact (Option.some.inj hpub).symm
    simp only [registrySystem] at hbind
    split_ifs at hbind
    obtain rfl := Option.some.inj hbind
    simp only [RegistryEvent.perform, (bindPeer_evicts hrole hpid hold hne).1,
      HashMap.lookup_mapVals, hs, Option.map_some, Session.transfer, if_pos (And.intro hconn hhost)]
  · have hpub := (registry_coherent hreach₁).published sid s hs
    rw [hhost, hpub₁] at hpub
    exact (Option.some.inj hpub).symm
  · have hret := (Retired.of_bind h hrole hpid hold hne hbind).run hreach₁ hrun
    have hcoh := registry_coherent (System.reachable_of_runFrom hreach₁ hrun)
    refine ⟨fun sid s hs => ?_, hret.unregister hcoh, fun e he => hret.refused hcoh he⟩
    have hparty := hret.not_party hcoh hs
    exact ⟨fun hhost => hparty (.inl hhost), fun hviewer => hparty (.inr hviewer)⟩

end Reconnect

/-- The host of an accepted session reconnects, and then the old socket is cleaned up. -/
theorem reconnect_transfers_acceptedRun : ∃ w w₁,
    (registrySystem .default).runFrom ⟨.empty, ∅⟩ (acceptedRun ++ [.registerConn]) = some w ∧
    (registrySystem .default).step w (.bindPeer 3 ⟨.host, some "host-1", some 7, false⟩) =
      some w₁ ∧
    (∃ s, w₁.inner.sessions.lookup "sess-1" = some s ∧ s.hostConn = 3) ∧
    (w₁.inner.unregisterConn 1).sessions = w₁.inner.sessions := by
  have hw : (registrySystem .default).runFrom ⟨.empty, ∅⟩ (acceptedRun ++ [.registerConn]) =
      some _ := rfl
  have htransfer := reconnect_transfers (System.reachable_of_runFrom (.init rfl) hw)
    (show (PeerIdentity.mk .host (some "host-1") (some 7) false).role = .host from rfl) rfl
    (show _ = some 1 from rfl) (show 1 ≠ 3 by decide) rfl
  refine ⟨_, _, hw, rfl, ⟨_, rfl, ?_⟩, (htransfer.2.2 [] _ rfl).2.1.1⟩
  exact htransfer.2.1 "sess-1" _ rfl rfl

end RemoteLink.Server
