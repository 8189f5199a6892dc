import RemoteLink.Server.SessionCases
import RemoteLink.Server.SessionInvariant

set_option autoImplicit false

/-!
# What a failed session operation leaves behind

The session operations check and write in alternating steps. A create undoes its writes when the
host cannot be reached; the other operations refuse before they write. Only a relay writes first:
it advances the session's sequence number and finds out afterwards that nobody listens.

## Main definitions

* `RegistryEvent.isOperation` — the five operations that answer their caller.
* `RegistryEvent.reaped` — the sessions that an event removes because they have expired.
* `RegistryInner.Untouched` — two registries agree on sessions and busy locks, up to removed
  sessions.
* `RegistryInner.losesSignal` — a relay that passes every check and reaches nobody.

## Main results

* `RegistryInner.Untouched.of_reap` — reaping removes expired sessions and their locks only.
* `RegistryInner.create_error`, `RegistryInner.relay_error` — what a failed create and a failed
  relay leave.
* `registry_error_atomic` — a failed operation changes nothing, exactly unless it loses a signal.
-/

namespace RemoteLink.Server

open RemoteLink.Library RemoteLink.Protocol

namespace RegistryInner

/-! ## Agreement up to removed sessions -/

/-- `g'` has the sessions and the busy locks of `g`, except for the sessions of `removed` and
the locks they held. -/
structure Untouched (removed : List String) (g g' : RegistryInner) : Prop where
  sessions : ∀ sid, g'.sessions.lookup sid =
    if sid ∈ removed then none else g.sessions.lookup sid
  busy : ∀ host, g'.hostBusy.lookup host =
    (g.hostBusy.lookup host).filter fun sid => decide (sid ∉ removed)

namespace Untouched

variable {g g' g'' : RegistryInner} {removed : List String}

theorem refl (g : RegistryInner) : Untouched [] g g := by
  refine ⟨fun sid => by simp, fun host => ?_⟩
  rcases g.hostBusy.lookup host with _ | sid
  · rfl
  · simp [Option.filter]

/-- A registry that agrees with the result of a removal is such a result too. -/
theorem congr (h : Untouched removed g g')
    (hs : ∀ sid, g''.sessions.lookup sid = g'.sessions.lookup sid)
    (hb : ∀ host, g''.hostBusy.lookup host = g'.hostBusy.lookup host) :
    Untouched removed g g'' :=
  ⟨fun sid => (hs sid).trans (h.sessions sid), fun host => (hb host).trans (h.busy host)⟩

/-- **Reaping removes the expired sessions and the locks they held**, nothing else.

**Proof sketch.** The registry is coherent before and after, so on both sides a host is busy with
a session exactly when that session is stored and of that host. -/
theorem of_reap {phase : HashMap ConnId Phase} (h : Coherent phase g) (now : Time) :
    Untouched (g.expired now) g (g.reapExpired now).2 := by
  refine ⟨g.sessions_reap now, fun host => Option.ext fun sid => ?_⟩
  rw [Option.filter_eq_some_iff, h.busy host sid, (h.reap now).busy host sid]
  constructor
  · rintro ⟨s, hs, hhost⟩
    obtain ⟨hs, hne⟩ := lookup_of_reap hs
    exact ⟨⟨s, hs, hhost⟩, by simpa using hne⟩
  · rintro ⟨⟨s, hs, hhost⟩, hne⟩
    refine ⟨s, ?_, hhost⟩
    rw [sessions_reap, if_neg (by simpa using hne)]
    exact hs

end Untouched

/-! ## The failing branches -/

section Errors

variable {g : RegistryInner} {now : Time} {e : SignalMessage}

/-- The rollback of a create takes back both of its writes. -/
theorem insertPending_error {req : CreatePendingSession} {s : Session} {seq : UInt64}
    (hsid : g.sessions.lookup req.sessionId = none)
    (hfree : g.hostBusy.lookup req.hostPublicId = none) (hhost : s.hostPublicId = req.hostPublicId)
    (h : (g.insertPending req s seq).1 = .error e) :
    (∀ sid, (g.insertPending req s seq).2.sessions.lookup sid = g.sessions.lookup sid) ∧
    ∀ host, (g.insertPending req s seq).2.hostBusy.lookup host = g.hostBusy.lookup host := by
  rcases g.insertPending_cases req s seq with ⟨-, hok⟩ | ⟨-, herr⟩
  · rw [hok] at h
    cases h
  · rw [herr]
    refine ⟨fun sid => ?_, fun host => ?_⟩
    · dsimp only
      rw [HashMap.lookup_erase_if, HashMap.lookup_insert_if]
      split_ifs with hk
      · exact hk ▸ hsid.symm
      · rfl
    · dsimp only
      rw [hhost, HashMap.lookup_erase_if, HashMap.lookup_insert_if]
      split_ifs with hk
      · exact hk ▸ hfree.symm
      · rfl

/-- **A create that fails leaves the sessions and the locks of the reaped registry.** -/
theorem create_error {ttl : Int} {req : CreatePendingSession}
    (h : (g.createPendingSession ttl req now).1 = .error e) :
    (∀ sid, (g.createPendingSession ttl req now).2.sessions.lookup sid =
      (g.reapExpired now).2.sessions.lookup sid) ∧
    ∀ host, (g.createPendingSession ttl req now).2.hostBusy.lookup host =
      (g.reapExpired now).2.hostBusy.lookup host := by
  rcases g.create_cases now ttl req with ⟨e', -, herr⟩ |
    ⟨hostConn, incoming, next, hsid, hbusy, -, -, -, heq⟩
  · rw [herr]
    exact ⟨fun _ => rfl, fun _ => rfl⟩
  · rw [heq] at h ⊢
    exact insertPending_error hsid hbusy rfl h

/-- An accept that fails has only reaped. -/
theorem accept_error {ttl : Int} {conn : ConnId} {sid : String} {seq : UInt64}
    (h : (g.acceptSession ttl conn sid seq now).1 = .error e) :
    (g.acceptSession ttl conn sid seq now).2 = (g.reapExpired now).2 := by
  rcases g.accept_cases now ttl conn sid seq with ⟨code, text, herr⟩ | ⟨s, -, -, -, -, hok⟩
  · rw [herr]
  · rw [hok] at h
    cases h

/-- A reject that fails has only reaped. -/
theorem reject_error {conn : ConnId} {sid : String} {seq : UInt64} {reason : RejectReason}
    (h : (g.rejectSession conn sid seq reason now).1 = .error e) :
    (g.rejectSession conn sid seq reason now).2 = (g.reapExpired now).2 := by
  rcases g.reject_cases now conn sid seq reason with ⟨code, text, herr⟩ | ⟨s, -, -, -, -, hok⟩
  · rw [herr]
  · rw [hok] at h
    cases h

/-- An end that fails has only reaped. -/
theorem end_error {conn : ConnId} {sid : String} {seq : UInt64} {reason : String}
    (h : (g.endSession conn sid seq reason now).1 = .error e) :
    (g.endSession conn sid seq reason now).2 = (g.reapExpired now).2 := by
  rcases g.end_cases now conn sid seq reason with ⟨code, text, herr⟩ | ⟨s, -, -, hok⟩ |
    ⟨s, -, -, -, -, hok⟩
  · rw [herr]
  · rw [hok] at h
    cases h
  · rw [hok] at h
    cases h

/-! ## The relay -/

/-- A relay from `from_` that passes every check of the relay while the other party cannot be
reached, and whose sequence number is not the last one of its range repeated. -/
def losesSignal (g : RegistryInner) (from_ : ConnId) (msg : SignalMessage) (now : Time) : Prop :=
  ∃ sid seq s, relayKey? msg = some (sid, seq) ∧ g.sessions.lookup sid = some s ∧
    sid ∉ g.expired now ∧ s.party from_ ∧ s.state = .active ∧ ¬seq < s.nextSignalSeq ∧
    relayRoleError msg (decide (s.hostConn = from_)) = none ∧
    g.reaches (s.otherParty from_) = false ∧ saturatingSucc seq ≠ s.nextSignalSeq

@[simp] theorem reap_reaches (c : ConnId) : (g.reapExpired now).2.reaches c = g.reaches c := by
  unfold reaches
  rw [(g.reap_frame now).1]

/-- **A relay that loses its signal fails, and has advanced the session's sequence number.** -/
theorem relay_loses {from_ : ConnId} {msg : SignalMessage} (h : g.losesSignal from_ msg now) :
    ∃ sid s s', g.sessions.lookup sid = some s ∧ sid ∉ g.expired now ∧
      (g.relayMediaSignal from_ msg now).2.sessions.lookup sid = some s' ∧
      s'.nextSignalSeq ≠ s.nextSignalSeq := by
  obtain ⟨sid, seq, s, hkey, hs, hne, hparty, hactive, hseq, hrole, hreach, hnext⟩ := h
  have hreaped : (g.reapExpired now).2.sessions.lookup sid = some s := by
    rw [sessions_reap, if_neg hne, hs]
  refine ⟨sid, s, s.relayed seq, hs, hne, ?_, hnext⟩
  rw [relay_checked hkey hreaped hparty hactive hseq hrole]
  rcases (g.reapExpired now).2.forward_cases from_ sid seq s msg with ⟨hok, -⟩ | ⟨-, text, herr⟩
  · rw [reap_reaches, hreach] at hok
    cases hok
  · rw [herr]
    exact AList.lookup_insert _

/-- A relay that fails without losing a signal has reaped at most. -/
theorem relay_error {from_ : ConnId} {msg : SignalMessage}
    (h : (g.relayMediaSignal from_ msg now).1 = .error e) (hkeep : ¬g.losesSignal from_ msg now) :
    (relayKey? msg = none ∧ (g.relayMediaSignal from_ msg now).2 = g) ∨
    ((relayKey? msg).isSome = true ∧
      (∀ sid, (g.relayMediaSignal from_ msg now).2.sessions.lookup sid =
        (g.reapExpired now).2.sessions.lookup sid) ∧
      (g.relayMediaSignal from_ msg now).2.hostBusy = (g.reapExpired now).2.hostBusy) := by
  rcases g.relay_cases now from_ msg with ⟨hkey, code, text, herr⟩ | ⟨sid, seq, hkey, hcases⟩
  · exact .inl ⟨hkey, by rw [herr]⟩
  refine .inr ⟨by rw [hkey]; rfl, ?_⟩
  rcases hcases with ⟨code, text, herr⟩ | ⟨s, -, -, -, -, -, hok⟩ |
    ⟨s, hs, hparty, hactive, hseq, hrole, heq⟩
  · rw [herr]
    exact ⟨fun _ => rfl, rfl⟩
  · rw [hok] at h
    cases h
  · rw [heq] at h ⊢
    rcases (g.reapExpired now).2.forward_cases from_ sid seq s msg with ⟨-, hok⟩ | ⟨hreach, text, herr⟩
    · rw [hok] at h
      cases h
    · -- only the repeated last number leaves the session as it was
      rw [reap_reaches] at hreach
      have hnext : saturatingSucc seq = s.nextSignalSeq := by
        by_contra hne
        exact hkeep ⟨sid, seq, s, hkey, (lookup_of_reap hs).1, (lookup_of_reap hs).2, hparty,
          hactive, hseq, hrole, hreach, hne⟩
      have hsame : s.relayed seq = s := by
        unfold Session.relayed
        rw [hnext]
      rw [herr]
      refine ⟨fun k => ?_, rfl⟩
      dsimp only
      rw [hsame, HashMap.lookup_insert_if]
      split_ifs with hk
      · exact hk ▸ hs.symm
      · rfl

end Errors

end RegistryInner

/-! ## Failed operations -/

namespace RegistryEvent

/-- The operations that answer their caller with an error when they refuse. -/
def isOperation : RegistryEvent → Bool
  | createPendingSession .. | acceptSession .. | rejectSession .. | endSession ..
  | relayMediaSignal .. => true
  | _ => false

/-- The sessions that an event removes because they have expired by its clock reading. -/
def reaped (g : RegistryInner) (e : RegistryEvent) : List String :=
  match e.clock with
  | some now => g.expired now
  | none => []

/-- A relay that passes every check and reaches nobody. -/
def losesSignal (g : RegistryInner) : RegistryEvent → Prop
  | relayMediaSignal conn msg now => g.losesSignal conn msg now
  | _ => False

/-- A relay of a message of a session reaps. -/
theorem reaped_relay {g : RegistryInner} {conn : ConnId} {msg : SignalMessage} {now : Time}
    (hkey : (RegistryInner.relayKey? msg).isSome = true) :
    (relayMediaSignal conn msg now).reaped g = g.expired now := by
  obtain ⟨key, hkey⟩ := Option.isSome_iff_exists.mp hkey
  simp only [reaped, clock, hkey, Option.map_some]

end RegistryEvent

/-- **A failed operation changes nothing, exactly unless it loses a signal.** In every reachable
registry, an operation that answers with an error leaves the sessions, with their sequence
numbers, and the busy locks as they were, apart from the sessions that had expired and their
locks, if and only if it is not a relay that passed every check before it found the other party
unreachable.

**Proof sketch.** Create, accept, reject and end leave the reaped registry, by `create_error` and
its siblings; for the relay this is `relay_error` in the one direction and `relay_loses` in the
other. -/
theorem registry_error_atomic {ttls : Ttls} {w : RegistryWorld}
    (h : (registrySystem ttls).Reachable w) {e : RegistryEvent} (hop : e.isOperation = true)
    {err : SignalMessage} (herr : (e.perform ttls w.inner).1 = .error err) :
    RegistryInner.Untouched (e.reaped w.inner) w.inner (e.perform ttls w.inner).2 ↔
      ¬e.losesSignal w.inner := by
  have hreap := RegistryInner.Untouched.of_reap (registry_coherent h)
  cases e with
  | createPendingSession req now =>
    have hcreate := RegistryInner.create_error herr
    exact ⟨fun _ hloses => hloses, fun _ => (hreap now).congr hcreate.1 hcreate.2⟩
  | acceptSession conn sid seq now =>
    have hsame := RegistryInner.accept_error herr
    exact ⟨fun _ hloses => hloses, fun _ => hsame ▸ hreap now⟩
  | rejectSession conn sid seq reason now =>
    have hsame := RegistryInner.reject_error herr
    exact ⟨fun _ hloses => hloses, fun _ => hsame ▸ hreap now⟩
  | endSession conn sid seq reason now =>
    have hsame := RegistryInner.end_error herr
    exact ⟨fun _ hloses => hloses, fun _ => hsame ▸ hreap now⟩
  | relayMediaSignal conn msg now =>
    constructor
    · rintro huntouched hloses
      obtain ⟨sid, s, s', hs, hne, hs', hnext⟩ := RegistryInner.relay_loses hloses
      obtain ⟨_, seq, _, hkey, _⟩ := hloses
      have hsame : some s' = _ := hs'.symm.trans (huntouched.sessions sid)
      rw [RegistryEvent.reaped_relay (by rw [hkey]; rfl), if_neg hne, hs] at hsame
      exact hnext (congrArg Session.nextSignalSeq (Option.some.inj hsame))
    · intro hkeep
      rcases RegistryInner.relay_error herr hkeep with ⟨hkey, hg⟩ | ⟨hkey, hs, hb⟩
      · have hnone : (RegistryEvent.relayMediaSignal conn msg now).reaped w.inner = [] := by
          simp only [RegistryEvent.reaped, RegistryEvent.clock, hkey, Option.map_none]
        have hsame : (RegistryEvent.perform ttls w.inner (.relayMediaSignal conn msg now)).2 =
            w.inner := hg
        rw [hnone, hsame]
        exact .refl _
      · rw [RegistryEvent.reaped_relay hkey]
        exact (hreap now).congr hs fun host => congrArg (fun m => AList.lookup host m) hb
  | registerConn => cases hop
  | dropReceiver conn => cases hop
  | bindPeer conn identity => cases hop
  | sendTo conn msg => cases hop
  | reapExpired now => cases hop
  | forceDisconnect sid reason now => cases hop
  | unregisterConn conn => cases hop

/-! ## A relay to a peer whose connection task has stopped -/

/-- The viewer of an accepted session stops taking messages before its connection is unregistered,
and the host offers. -/
def lostOffer : RegistryEvent :=
  .relayMediaSignal 1 (.sessionOffer "sess-1" 3 "v=0" "") (2 * second)

/-- The registry right before `lostOffer`, as a replayed run. -/
def lostOfferRun : List RegistryEvent := acceptedRun ++ [.dropReceiver 2]

/-- A refused accept of a session that is already active changes nothing. -/
theorem registry_error_atomic_acceptedRun : ∃ w,
    (registrySystem .default).runFrom ⟨.empty, ∅⟩ acceptedRun = some w ∧
    RegistryInner.Untouched [] w.inner
      ((RegistryEvent.acceptSession 1 "sess-1" 3 (2 * second)).perform .default w.inner).2 := by
  refine ⟨_, rfl, ?_⟩
  have hw : (registrySystem .default).runFrom ⟨.empty, ∅⟩ acceptedRun = some _ := rfl
  exact (registry_error_atomic (System.reachable_of_runFrom (.init rfl) hw)
    (show (RegistryEvent.acceptSession 1 "sess-1" 3 (2 * second)).isOperation = true from rfl)
    rfl).mpr fun h => h

/-- **A relay that finds its peer offline consumes a sequence number**: the host's offer fails with
`peer_offline`, and the session no longer expects the number of the offer. -/
theorem registry_error_atomic_fails :
    ¬∀ w, (registrySystem .default).Reachable w → ∀ e : RegistryEvent, e.isOperation = true →
      ∀ err, (e.perform .default w.inner).1 = .error err →
        RegistryInner.Untouched (e.reaped w.inner) w.inner (e.perform .default w.inner).2 := by
  intro hclaim
  have hw : (registrySystem .default).runFrom ⟨.empty, ∅⟩ lostOfferRun = some _ := rfl
  have huntouched := hclaim _ (System.reachable_of_runFrom (.init rfl) hw) lostOffer rfl _ rfl
  have hsame := congrArg (Option.map Session.nextSignalSeq) (huntouched.sessions "sess-1")
  revert hsame
  decide

end RemoteLink.Server
