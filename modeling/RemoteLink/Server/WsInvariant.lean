import RemoteLink.Server.Ws

set_option autoImplicit false

/-!
# The route drives the registry by its discipline

Every run of the WebSocket route calls the registry in the way `registrySystem` allows, so what
holds of the registry's reachable states holds behind the route.

## Main definitions

* `Stage.Fits` — what a stage says about the identity and the device of its task.
* `Wired` — the tasks, the registry's presence map and the OTP index agree.

## Main results

* `Wired.step` — every step of the route keeps this.
* `wsSystem_wired`, `wsSystem_registry` — the route refines the registry's system.
-/

namespace RemoteLink.Server

open RemoteLink.Library RemoteLink.Protocol RemoteLink.Auth

/-! ## The invariant -/

/-- The registry's view of a task. -/
def ConnTask.phase (t : ConnTask) : Phase :=
  match t.identity with
  | none => .registered
  | some identity => .bound identity.role

/-- A task that waits for its `hello` has no identity, and an intent under way belongs to a viewer
and names the device of its host. -/
def Stage.Fits (cfg : ServerConfig) (identity : Option PeerIdentity) : Stage → Prop
  | .awaitHello => identity = none
  | .prefiltering intent device _ _ | .creating intent device _ =>
    (∃ id, identity = some id ∧ id.role = .viewer) ∧
      device.id = cfg.deviceId intent.hostPublicId
  | _ => True

/-- The registry is reached by allowed events, the tasks fit their phases, a published connection
is the task of a host with that host's device, and the OTP rows are indexed. -/
structure Wired (cfg : ServerConfig) (w : WsWorld) : Prop where
  phases : ∃ phase, (registrySystem cfg.ttls).Reachable ⟨w.registry, phase⟩ ∧
    ∀ conn t, w.tasks.lookup conn = some t → phase.lookup conn = some t.phase
  tasks : ∀ conn t, w.tasks.lookup conn = some t → t.stage.Fits cfg t.identity
  published : ∀ host conn, w.registry.hostByPublicId.lookup host = some conn →
    ∃ t identity, w.tasks.lookup conn = some t ∧ t.identity = some identity ∧
      identity.deviceId = some (cfg.deviceId host)
  indexed : w.otp.WellIndexed

namespace Wired

variable {cfg : ServerConfig} {w w' : WsWorld}

theorem empty : Wired cfg .empty where
  phases := ⟨∅, .init rfl, fun conn t ht => by simp [WsWorld.empty] at ht⟩
  tasks conn t ht := by simp [WsWorld.empty] at ht
  published host conn hc := by simp [WsWorld.empty, RegistryInner.empty] at hc
  indexed := .empty

/-- The registry behind the route is coherent. -/
theorem coherent (h : Wired cfg w) : ∃ phase, Coherent phase w.registry ∧
    ∀ conn t, w.tasks.lookup conn = some t → phase.lookup conn = some t.phase := by
  obtain ⟨phase, hreach, hphase⟩ := h.phases
  exact ⟨phase, registry_coherent hreach, hphase⟩

/-- Only the stages of tasks change. -/
def Restaged (cfg : ServerConfig) (w w' : WsWorld) : Prop :=
  ∀ c, w'.tasks.lookup c = w.tasks.lookup c ∨ ∃ t stage, w.tasks.lookup c = some t ∧
    w'.tasks.lookup c = some ⟨t.identity, stage⟩ ∧ stage.Fits cfg t.identity

theorem Restaged.goto {conn : ConnId} {t : ConnTask} (ht : w.tasks.lookup conn = some t)
    (stage : Stage) (hfits : stage.Fits cfg t.identity)
    (hw' : w'.tasks = w.tasks.insert conn ⟨t.identity, stage⟩) : Restaged cfg w w' := by
  intro c
  rw [hw', HashMap.lookup_insert_if]
  split_ifs with hc
  · exact .inr ⟨t, stage, hc ▸ ht, rfl, hfits⟩
  · exact .inl rfl

/-- A task after a restaging step has the identity it had before. -/
theorem Restaged.origin (hr : Restaged cfg w w') {c : ConnId} {t' : ConnTask}
    (ht' : w'.tasks.lookup c = some t') : ∃ t, w.tasks.lookup c = some t ∧
      t'.identity = t.identity ∧ (t'.stage.Fits cfg t'.identity ∨ t' = t) := by
  rcases hr c with heq | ⟨t, stage, ht, hnew, hfits⟩
  · exact ⟨t', heq ▸ ht', rfl, .inr rfl⟩
  · rw [ht'] at hnew
    obtain rfl := Option.some.inj hnew
    exact ⟨t, ht, rfl, .inl hfits⟩

/-- A step that only moves tasks to other stages keeps the wiring. -/
theorem restage (h : Wired cfg w) (hr : Restaged cfg w w') (hreg : w'.registry = w.registry)
    (hotp : w'.otp.WellIndexed) : Wired cfg w' := by
  obtain ⟨phase, hreach, hphase⟩ := h.phases
  refine ⟨⟨phase, hreg ▸ hreach, fun c t' ht' => ?_⟩, fun c t' ht' => ?_,
    fun host c hc => ?_, hotp⟩
  · obtain ⟨t, ht, hid, -⟩ := hr.origin ht'
    rw [hphase c t ht, ConnTask.phase, ConnTask.phase, hid]
  · obtain ⟨t, ht, hid, hfits | rfl⟩ := hr.origin ht'
    · exact hfits
    · exact h.tasks c _ ht
  · obtain ⟨t, identity, ht, hid, hdev⟩ := h.published host c (hreg ▸ hc)
    rcases hr c with heq | ⟨t₀, stage, ht₀, hnew, -⟩
    · exact ⟨t, identity, heq.trans ht, hid, hdev⟩
    · rw [ht] at ht₀
      obtain rfl := Option.some.inj ht₀
      exact ⟨_, identity, hnew, hid, hdev⟩

/-- A registry method that neither opens, binds nor closes a connection keeps the wiring. -/
theorem perform (h : Wired cfg w) (e : RegistryEvent) (he : e.isConnection = false)
    (hall : ∀ phase : HashMap ConnId Phase,
      (∀ c t, w.tasks.lookup c = some t → phase.lookup c = some t.phase) → e.allowed phase = true) :
    Wired cfg { w with registry := (e.perform cfg.ttls w.registry).2 } := by
  obtain ⟨phase, hreach, hphase⟩ := h.phases
  refine ⟨⟨phase, ?_, hphase⟩, h.tasks, fun host c hc => h.published host c ?_, h.indexed⟩
  · have hstep : (registrySystem cfg.ttls).step ⟨w.registry, phase⟩ e =
        some ⟨(e.perform cfg.ttls w.registry).2, phase⟩ := by
      simp only [registrySystem, hall phase hphase, if_true, RegistryEvent.advance_eq he]
    exact .step hreach trivial hstep
  · rw [← RegistryEvent.perform_hostByPublicId he]
    exact hc

/-- A registry method followed by a change of stages. -/
theorem performRestage (h : Wired cfg w) (e : RegistryEvent) (he : e.isConnection = false)
    (hall : ∀ phase : HashMap ConnId Phase,
      (∀ c t, w.tasks.lookup c = some t → phase.lookup c = some t.phase) → e.allowed phase = true)
    (hr : Restaged cfg w w') (hreg : w'.registry = (e.perform cfg.ttls w.registry).2)
    (hotp : w'.otp.WellIndexed) : Wired cfg w' :=
  (h.perform e he hall).restage hr hreg hotp

/-! ## Connections -/

theorem connect (h : Wired cfg w) {conn : ConnId} {registry : RegistryInner}
    (hreg : w.registry.registerConn = (conn, registry)) :
    Wired cfg ({ w with registry }.goto conn none .awaitHello) := by
  obtain ⟨rfl, rfl⟩ := Prod.mk.inj hreg
  obtain ⟨phase, hreach, hphase⟩ := h.phases
  have hcoh := registry_coherent hreach
  have hfresh : ∀ c t, w.tasks.lookup c = some t → c ≠ w.registry.nextConnId := by
    rintro c t ht rfl
    have := hcoh.fresh w.registry.nextConnId (by rw [hphase _ t ht]; rfl)
    exact absurd this (Nat.lt_irrefl _)
  have hstep : (registrySystem cfg.ttls).step ⟨w.registry, phase⟩ .registerConn =
      some ⟨w.registry.registerConn.2, phase.insert w.registry.nextConnId .registered⟩ := rfl
  refine ⟨⟨_, .step hreach trivial hstep, fun c t ht => ?_⟩, fun c t ht => ?_,
    fun host c hc => ?_, h.indexed⟩
  · simp only [WsWorld.goto, HashMap.lookup_insert_if] at ht ⊢
    split_ifs at ht ⊢ with hc
    · obtain rfl := Option.some.inj ht
      rfl
    · exact hphase c t ht
  · simp only [WsWorld.goto, HashMap.lookup_insert_if] at ht
    split_ifs at ht with hc
    · obtain rfl := Option.some.inj ht
      rfl
    · exact h.tasks c t ht
  · obtain ⟨t, identity, ht, hid, hdev⟩ := h.published host c hc
    exact ⟨t, identity, (AList.lookup_insert_ne (hfresh c t ht)).trans ht, hid, hdev⟩

/-- The connection a bound host publishes is its own, under the device of its public id. -/
theorem bindPeer (h : Wired cfg w) {conn : ConnId} {t : ConnTask} {identity : PeerIdentity}
    (ht : w.tasks.lookup conn = some t) (hnone : t.identity = none)
    (hdev : ∀ publicId, identity.role = .host → identity.devicePublicId = some publicId →
      identity.deviceId = some (cfg.deviceId publicId)) :
    Wired cfg ({ w with registry := w.registry.bindPeer conn identity }.goto conn
      (some identity) .greeting) := by
  obtain ⟨phase, hreach, hphase⟩ := h.phases
  have hreg : phase.lookup conn = some .registered := by
    rw [hphase conn t ht, ConnTask.phase, hnone]
  have hstep : (registrySystem cfg.ttls).step ⟨w.registry, phase⟩ (.bindPeer conn identity) =
      some ⟨w.registry.bindPeer conn identity, phase.insert conn (.bound identity.role)⟩ := by
    simp only [registrySystem, RegistryEvent.allowed, hreg, decide_true, if_true,
      RegistryEvent.perform, RegistryEvent.advance]
  refine ⟨⟨_, .step hreach trivial hstep, fun c t' ht' => ?_⟩, fun c t' ht' => ?_,
    fun host c hc => ?_, h.indexed⟩
  · simp only [WsWorld.goto, HashMap.lookup_insert_if] at ht' ⊢
    split_ifs at ht' ⊢ with hc
    · obtain rfl := Option.some.inj ht'
      rfl
    · exact hphase c t' ht'
  · simp only [WsWorld.goto, HashMap.lookup_insert_if] at ht'
    split_ifs at ht' with hc
    · obtain rfl := Option.some.inj ht'
      trivial
    · exact h.tasks c t' ht'
  · rcases RegistryInner.lookup_hostByPublicId_bindPeer hc with ⟨rfl, hrole, hpid⟩ | hold
    · exact ⟨⟨some identity, .greeting⟩, identity, AList.lookup_insert _, rfl,
        hdev host hrole hpid⟩
    · obtain ⟨t', identity', ht', hid', hdev'⟩ := h.published host c hold
      have hne : c ≠ conn := by
        rintro rfl
        rw [ht] at ht'
        obtain rfl := Option.some.inj ht'
        rw [hnone] at hid'
        cases hid'
      exact ⟨t', identity', (AList.lookup_insert_ne hne).trans ht', hid', hdev'⟩

theorem unregister (h : Wired cfg w) {conn : ConnId} {t : ConnTask}
    (ht : w.tasks.lookup conn = some t) :
    Wired cfg { w with
      registry := w.registry.unregisterConn conn, tasks := w.tasks.erase conn } := by
  obtain ⟨phase, hreach, hphase⟩ := h.phases
  have hp : phase.lookup conn ≠ none ∧ phase.lookup conn ≠ some .gone := by
    rw [hphase conn t ht, ConnTask.phase]
    rcases t.identity with _ | identity
    · simp
    · simp
  have hstep : (registrySystem cfg.ttls).step ⟨w.registry, phase⟩ (.unregisterConn conn) =
      some ⟨w.registry.unregisterConn conn, phase.insert conn .gone⟩ := by
    simp only [registrySystem, RegistryEvent.allowed, decide_eq_true hp, if_true,
      RegistryEvent.perform, RegistryEvent.advance]
  have hkeep : ∀ c t', (w.tasks.erase conn).lookup c = some t' →
      c ≠ conn ∧ w.tasks.lookup c = some t' := by
    intro c t' ht'
    rw [HashMap.lookup_erase_if] at ht'
    split_ifs at ht' with hc
    exact ⟨hc, ht'⟩
  refine ⟨⟨_, .step hreach trivial hstep, fun c t' ht' => ?_⟩,
    fun c t' ht' => h.tasks c t' (hkeep c t' ht').2, fun host c hc => ?_, h.indexed⟩
  · obtain ⟨hc, ht'⟩ := hkeep c t' ht'
    exact (AList.lookup_insert_ne hc).trans (hphase c t' ht')
  · obtain ⟨hne, hold⟩ := RegistryInner.lookup_hostByPublicId_unregister hc
    obtain ⟨t', identity, ht', hid, hdev⟩ := h.published host c hold
    exact ⟨t', identity, (AList.lookup_erase_ne hne).trans ht', hid, hdev⟩

/-! ## Frames -/

theorem finish (h : Wired cfg w) {conn : ConnId} {t : ConnTask}
    (ht : w.tasks.lookup conn = some t) (result : Except SignalMessage Unit) :
    Wired cfg (w.finish conn t.identity result) := by
  refine h.restage (Restaged.goto ht _ ?_ rfl) rfl h.indexed
  rcases result with e | u
  · trivial
  · trivial

/-- A registry method of a frame, with its result sent back. -/
theorem performFinish (h : Wired cfg w) (e : RegistryEvent) (he : e.isConnection = false)
    (hall : ∀ phase, e.allowed phase = true) {conn : ConnId} {t : ConnTask}
    (ht : w.tasks.lookup conn = some t) (result : Except SignalMessage Unit) :
    Wired cfg ({ w with registry := (e.perform cfg.ttls w.registry).2 }.finish conn t.identity
      result) :=
  (h.perform e he fun phase _ => hall phase).finish ht result

/-- The device that passed the checks of an intent is the one of the intent's host. -/
theorem checkIntent_ok {identity : PeerIdentity} {intent : Intent} {ans : Answers}
    {device : Device} (h : checkIntent identity intent ans = .ok device) :
    identity.role = .viewer ∧ ans.device = .ok (some device) := by
  unfold checkIntent at h
  split_ifs at h with hrole hsid hhost
  rcases hlimit : ans.ipLimit with _ | e
  · rcases hdev : ans.device with u | (_ | d)
    · simp [hlimit, hdev] at h
    · simp [hlimit, hdev] at h
    · simp only [hlimit, hdev] at h
      split_ifs at h
      rcases hblk : ans.blocked with u | (_ | _)
      · simp [hblk] at h
      · simp only [hblk] at h
        exact ⟨not_not.mp hrole, by rw [Except.ok.inj h]⟩
      · simp [hblk] at h
  · simp [hlimit] at h

theorem otpGate_fits {w : WsWorld} {intent : Intent} {device : Device} {now : Time}
    {identity : PeerIdentity} (hrole : identity.role = .viewer)
    (hdev : device.id = cfg.deviceId intent.hostPublicId) :
    (otpGate w intent device now).Fits cfg (some identity) := by
  have hfit : (∃ id, some identity = some id ∧ id.role = .viewer) ∧
      device.id = cfg.deviceId intent.hostPublicId := ⟨⟨identity, rfl, hrole⟩, hdev⟩
  unfold otpGate
  rcases prefilterCode intent.prefilter with _ | code
  · dsimp only
    split_ifs
    · trivial
    · exact hfit
    · exact hfit
  · dsimp only
    split_ifs
    · exact hfit
    · exact hfit
    · exact hfit

theorem handleText (h : Wired cfg w) {conn : ConnId} {t : ConnTask} {identity : PeerIdentity}
    (ht : w.tasks.lookup conn = some t) (hid : t.identity = some identity)
    {decoded : Except String SignalMessage} {ans : Answers}
    (hans : ans.consistent cfg (frameHost (.text decoded)) = true) :
    Wired cfg (handleText cfg w conn identity decoded ans) := by
  have hfin : ∀ result, Wired cfg (w.finish conn (some identity) result) :=
    fun result => hid ▸ h.finish ht result
  have hperf : ∀ (e : RegistryEvent), e.isConnection = false → (∀ phase, e.allowed phase = true) →
      ∀ result, Wired cfg ({ w with registry := (e.perform cfg.ttls w.registry).2 }.finish conn
        (some identity) result) :=
    fun e he hall result => hid ▸ h.performFinish e he hall ht result
  rcases decoded with e | msg
  · exact hfin (.error (.error "protocol_error" s!"invalid message: {e}"))
  have hserver := hfin
    (.error (.error "protocol_error" "message type is server→client only"))
  have hrelay := hperf (.relayMediaSignal conn msg ans.now) rfl (fun _ => rfl)
  cases msg with
  | hello role version auth =>
    exact hfin (.error (.error "protocol_error" "hello already completed for this connection"))
  | helloOk serverTime flags => exact hserver
  | sessionIncoming sid seq info mode pre => exact hserver
  | error code message => exact hserver
  | sessionOffer sid seq sdp sig => exact hrelay _
  | sessionAnswer sid seq sdp => exact hrelay _
  | iceCandidate sid seq candidate => exact hrelay _
  | mediaRestart sid seq => exact hrelay _
  | renegotiate sid seq => exact hrelay _
  | authChallenge sid seq payload => exact hrelay _
  | authResponse sid seq payload => exact hrelay _
  | stats sid seq payload => exact hrelay _
  | sessionEnd sid seq reason =>
    exact hperf (.endSession conn sid seq reason ans.now) rfl (fun _ => rfl) _
  | sessionReject sid seq reason =>
    simp only [RemoteLink.Server.handleText]
    split_ifs
    · exact hfin _
    · exact hperf (.rejectSession conn sid seq reason ans.now) rfl (fun _ => rfl) _
  | sessionAccept sid seq =>
    simp only [RemoteLink.Server.handleText]
    split_ifs
    · exact hfin _
    · rcases hacc : w.registry.acceptSession cfg.ttls.active conn sid seq ans.now with
        ⟨e | u, registry⟩
      · have := hperf (.acceptSession conn sid seq ans.now) rfl (fun _ => rfl) (.error e)
        simpa only [RegistryEvent.perform, hacc] using this
      · refine h.performRestage (.acceptSession conn sid seq ans.now) rfl (fun _ _ => rfl)
          (Restaged.goto ht (.consuming sid (w.checkedOf sid)) trivial ?_) ?_ h.indexed
        · rw [hid]
          rfl
        · simp only [RegistryEvent.perform, hacc]
          rfl
  | sessionIntent sid seq host mode prefilter =>
    simp only [RemoteLink.Server.handleText]
    rcases hchk : checkIntent identity ⟨sid, seq, host, mode, prefilter⟩ ans with e | device
    · exact hfin _
    · obtain ⟨hrole, hdev⟩ := checkIntent_ok hchk
      have hcons : device.id = cfg.deviceId host := by
        simp only [Answers.consistent, hdev, frameHost, Bool.and_eq_true] at hans
        exact (of_decide_eq_true hans.1).2
      refine h.restage (Restaged.goto ht
        (otpGate w ⟨sid, seq, host, mode, prefilter⟩ device ans.now) ?_ ?_) rfl h.indexed
      · rw [hid]
        exact otpGate_fits hrole hcons
      · rw [hid]
        rfl

/-! ## Later lock sections -/

theorem prefilterStep (h : Wired cfg w) {conn : ConnId} {t : ConnTask} {intent : Intent}
    {device : Device} {code : String} {now : Time} (ht : w.tasks.lookup conn = some t)
    (hstage : t.stage = .prefiltering intent device code now) :
    Wired cfg (prefilterStep cfg w conn t.identity intent device code now) := by
  have hotp := h.indexed.prefilterBind cfg.crypto device.id code cfg.otpPepper intent.sessionId now
  have hfit := h.tasks conn t ht
  rw [hstage] at hfit
  simp only [RemoteLink.Server.prefilterStep]
  split_ifs
  · refine h.restage (Restaged.goto ht _ ?_ rfl) rfl hotp
    exact hfit
  · refine h.restage (Restaged.goto ht _ ?_ rfl) rfl hotp
    trivial

theorem createStep (h : Wired cfg w) {conn : ConnId} {t : ConnTask} {identity : PeerIdentity}
    {intent : Intent} {device : Device} {checked : Option Checked} {ans : Answers}
    (ht : w.tasks.lookup conn = some t) (hid : t.identity = some identity)
    (hstage : t.stage = .creating intent device checked) :
    Wired cfg (createStep cfg w conn identity intent device checked ans) := by
  have hfit := h.tasks conn t ht
  rw [hstage] at hfit
  obtain ⟨⟨id, hid', hrole⟩, -⟩ := hfit
  obtain rfl : id = identity := Option.some.inj (hid'.symm.trans hid)
  unfold RemoteLink.Server.createStep
  rcases ans.hostLimit with _ | e
  · dsimp only
    set req : CreatePendingSession := ⟨conn, intent.sessionId, intent.hostPublicId, device,
      intent.mode, intent.signalSeq, defaultViewerInfo id⟩ with hreq
    have hall : ∀ phase : HashMap ConnId Phase,
        (∀ c t, w.tasks.lookup c = some t → phase.lookup c = some t.phase) →
        (RegistryEvent.createPendingSession req ans.now).allowed phase = true := by
      intro phase hphase
      simp only [RegistryEvent.allowed, decide_eq_true_eq]
      rw [hphase conn t ht, ConnTask.phase, hid]
      exact congrArg (fun r => some (Phase.bound r)) hrole
    have hperf := h.perform (.createPendingSession req ans.now) rfl hall
    rcases hres : w.registry.createPendingSession cfg.ttls.pending req ans.now with
      ⟨e | u, registry⟩
    · simp only [RegistryEvent.perform, hres] at hperf
      exact hid ▸ hperf.finish ht _
    · simp only [RegistryEvent.perform, hres] at hperf
      refine hperf.restage (Restaged.goto ht .ready trivial ?_) rfl h.indexed
      rw [hid]
      rfl
  · exact hid ▸ h.finish ht _

theorem consumeStep (h : Wired cfg w) {conn : ConnId} {t : ConnTask} {identity : PeerIdentity}
    {sid : String} {now : Time} (ht : w.tasks.lookup conn = some t)
    (hid : t.identity = some identity) : Wired cfg (consumeStep w conn identity sid now) := by
  unfold RemoteLink.Server.consumeStep
  rcases identity.deviceId with _ | deviceId
  · exact hid ▸ h.finish ht _
  · refine h.restage (Restaged.goto ht .ready trivial ?_) rfl
      (h.indexed.consumeForSession deviceId sid now)
    rw [hid]
    rfl

theorem proceed (h : Wired cfg w) {conn : ConnId} {t : ConnTask} {ans : Answers}
    (ht : w.tasks.lookup conn = some t) (hs : proceed cfg w conn t ans = some w') :
    Wired cfg w' := by
  obtain ⟨identity, stage⟩ := t
  cases stage with
  | awaitHello => simp [RemoteLink.Server.proceed] at hs
  | ready => simp [RemoteLink.Server.proceed] at hs
  | greeting =>
    obtain rfl := Option.some.inj hs
    refine (h.perform (.sendTo conn _) rfl fun _ _ => rfl).restage
      (Restaged.goto ht _ ?_ rfl) rfl h.indexed
    dsimp only
    split_ifs
    · trivial
    · trivial
  | prefiltering intent device code now =>
    obtain rfl := Option.some.inj hs
    exact h.prefilterStep ht rfl
  | creating intent device checked =>
    rcases identity with _ | identity
    · simp [RemoteLink.Server.proceed] at hs
    · obtain rfl := Option.some.inj hs
      exact h.createStep ht rfl rfl
  | consuming sid checked =>
    rcases identity with _ | identity
    · simp [RemoteLink.Server.proceed] at hs
    · obtain rfl := Option.some.inj hs
      exact h.consumeStep ht rfl
  | replying msg andClose =>
    obtain rfl := Option.some.inj hs
    refine (h.perform (.sendTo conn msg) rfl fun _ _ => rfl).restage
      (Restaged.goto ht _ ?_ rfl) rfl h.indexed
    dsimp only
    split_ifs
    · trivial
    · trivial
  | closing =>
    obtain rfl := Option.some.inj hs
    exact h.unregister ht

/-- The identity behind a host's `hello` carries the primary key of its public id. -/
theorem authenticate_device {role : Role} {auth : HelloAuth} {ans : Answers} {host : String}
    {identity : PeerIdentity} (hans : ans.consistent cfg host = true)
    (hid : authenticate role auth ans = .ok identity) (publicId : String)
    (hrole : identity.role = .host) (hpid : identity.devicePublicId = some publicId) :
    identity.deviceId = some (cfg.deviceId publicId) := by
  unfold authenticate at hid
  rcases role with _ | _
  · dsimp only at hid
    split_ifs at hid
    rcases hdev : resolveDeviceToken ans with e | device
    · simp [hdev] at hid
    · simp only [hdev] at hid
      split_ifs at hid
      obtain rfl := Except.ok.inj hid
      obtain rfl := Option.some.inj hpid
      have hcred : ∃ expires, ans.credential = .ok (some (device, expires)) := by
        unfold resolveDeviceToken at hdev
        rcases hc : ans.credential with u | (_ | ⟨d, expires⟩)
        · simp [hc] at hdev
        · simp [hc] at hdev
        · simp only [hc] at hdev
          split_ifs at hdev
          exact ⟨expires, by rw [Except.ok.inj hdev]⟩
      obtain ⟨expires, hcred⟩ := hcred
      simp only [Answers.consistent, hcred, Bool.and_eq_true] at hans
      exact congrArg some (of_decide_eq_true hans.2)
  · -- a viewer's identity has the viewer role
    dsimp only at hid
    have hviewer : identity.role = .viewer := by
      split_ifs at hid
      · rw [← Except.ok.inj hid]
      · rw [← Except.ok.inj hid]
      · rcases hdev : resolveDeviceToken ans with e | device
        · simp [hdev] at hid
        · simp only [hdev] at hid
          split_ifs at hid
          rw [← Except.ok.inj hid]
    rw [hviewer] at hrole
    cases hrole

theorem handleFrame (h : Wired cfg w) {conn : ConnId} {t : ConnTask} {frame : Frame}
    {ans : Answers} (hans : ans.consistent cfg (frameHost frame) = true)
    (ht : w.tasks.lookup conn = some t) (hs : handleFrame cfg w conn t frame ans = some w') :
    Wired cfg w' := by
  obtain ⟨identity, stage⟩ := t
  cases stage with
  | awaitHello =>
    have hnone : identity = none := h.tasks conn _ ht
    subst hnone
    simp only [RemoteLink.Server.handleFrame] at hs
    obtain rfl := Option.some.inj hs
    rcases hhello : expectHello frame ans with e | id
    · exact h.restage (Restaged.goto ht (.replying e true) trivial rfl) rfl h.indexed
    · refine h.bindPeer ht rfl fun publicId => ?_
      -- only a text `hello` yields an identity
      have hauth : ∃ role auth, authenticate role auth ans = .ok id := by
        unfold expectHello at hhello
        split at hhello
        · cases hhello
        · cases hhello
        · cases hhello
        · cases hhello
        · rename_i role version auth
          split_ifs at hhello
          rcases hlimit : ans.ipLimit with _ | lock
          · simp only [hlimit] at hhello
            exact ⟨role, auth, hhello⟩
          · simp [hlimit] at hhello
        · cases hhello
      obtain ⟨role, auth, hauth⟩ := hauth
      exact authenticate_device hans hauth publicId
  | ready =>
    rcases identity with _ | identity
    · simp [RemoteLink.Server.handleFrame] at hs
    · simp only [RemoteLink.Server.handleFrame] at hs
      obtain rfl := Option.some.inj hs
      cases frame with
      | text decoded => exact h.handleText ht rfl hans
      | binary =>
        exact h.finish ht
          (.error (.error "protocol_error" "binary frames are not supported"))
      | pingPong => exact h
      | close => exact h.restage (Restaged.goto ht .closing trivial rfl) rfl h.indexed
  | greeting => simp [RemoteLink.Server.handleFrame] at hs
  | prefiltering intent device code now => simp [RemoteLink.Server.handleFrame] at hs
  | creating intent device checked => simp [RemoteLink.Server.handleFrame] at hs
  | consuming sid checked => simp [RemoteLink.Server.handleFrame] at hs
  | replying msg andClose => simp [RemoteLink.Server.handleFrame] at hs
  | closing => simp [RemoteLink.Server.handleFrame] at hs

/-- **The step lemma**: every step of the route keeps the wiring. -/
theorem step {e : WsEvent} (h : Wired cfg w) (hs : wsStep cfg w e = some w') : Wired cfg w' := by
  cases e with
  | connect =>
    obtain rfl := Option.some.inj hs
    exact h.connect rfl
  | frame conn frame ans =>
    simp only [wsStep] at hs
    split_ifs at hs with hans
    obtain ⟨t, ht, hs⟩ := Option.bind_eq_some_iff.mp hs
    exact h.handleFrame hans ht hs
  | proceed conn ans =>
    obtain ⟨t, ht, hs⟩ := Option.bind_eq_some_iff.mp hs
    exact h.proceed ht hs
  | dropReceiver conn =>
    obtain rfl := Option.some.inj hs
    exact h.perform (.dropReceiver conn) rfl fun _ _ => rfl
  | mintOtp host hash ttlSecs now =>
    simp only [wsStep] at hs
    split_ifs at hs
    obtain rfl := Option.some.inj hs
    exact h.restage (fun _ => .inl rfl) rfl (h.indexed.storeHash host hash _ now)
  | reapExpired now =>
    obtain rfl := Option.some.inj hs
    exact h.perform (.reapExpired now) rfl fun _ _ => rfl
  | forceDisconnect sid reason now =>
    obtain rfl := Option.some.inj hs
    exact h.perform (.forceDisconnect sid reason now) rfl fun _ _ => rfl

end Wired

/-- **The route keeps its wiring in every run.** -/
theorem wsSystem_wired {cfg : ServerConfig} {w : WsWorld} (h : (wsSystem cfg).Reachable w) :
    Wired cfg w :=
  h.invariant (Wired cfg) (fun w hw => by obtain rfl : w = .empty := hw; exact .empty)
    fun _ _ _ hi _ hs => hi.step hs

/-- **Refinement**: the registry behind the route is reached by a run of the registry's methods
that follows the handler's discipline. -/
theorem wsSystem_registry {cfg : ServerConfig} {w : WsWorld} (h : (wsSystem cfg).Reachable w) :
    ∃ phase, (registrySystem cfg.ttls).Reachable ⟨w.registry, phase⟩ := by
  obtain ⟨phase, hreach, -⟩ := (wsSystem_wired h).phases
  exact ⟨phase, hreach⟩

end RemoteLink.Server
