import RemoteLink.Host.ServiceLoop

set_option autoImplicit false

/-!
# The session indicator

The tray shows which session controls the host. The service tells it when a session begins, when
media is live and when the session ends. Some of the errors that end a session are passed on without
a word to the tray, and an agent may pump media before the service has marked the session active.

## Main definitions

* `SessionIndicator`, `SessionChrome`, `HostSessionUx` — the flags and what is shown for them.
* `ChromeWorld`, `chromeMachine` — the tray during the runs of the service, with the session that
  is served and whether media of it has been sent.
* `TellsTray` — the answers on which no error leaves the tray bound, and no media is early.

## Main results

* `session_chrome` — in a run of such answers, the chrome is active for the session whose media is
  sent, and inactive whenever the host waits for a session.
* `session_chrome_missing` — an agent that is early, and errors without a word to the tray.
-/

namespace RemoteLink.Host

open Library Protocol Auth Net Platform Signaling

/-! ## The indicator -/

/-- Connection visibility flags, owned by the service. -/
structure SessionIndicator where
  connected : Bool
  active : Bool
  sessionId : Option String
  viewerLabel : Option String
  deriving Repr, DecidableEq

namespace SessionIndicator

/-- A fresh indicator. -/
def new : SessionIndicator := ⟨false, false, none, none⟩

/-- A live session is bound and marked active. -/
def isActive (ind : SessionIndicator) : Bool :=
  ind.active && ind.connected && ind.sessionId.isSome

/-- A session is bound. -/
def isConnected (ind : SessionIndicator) : Bool := ind.connected && ind.sessionId.isSome

/-- Bind a session; the id of the one that is bound already otherwise. -/
def beginSession (ind : SessionIndicator) (sid : String) (viewerLabel : Option String) :
    Except String Unit × SessionIndicator :=
  if ind.isConnected then (.error (ind.sessionId.getD "unknown"), ind)
  else (.ok (), ⟨true, false, some sid, viewerLabel⟩)

/-- Mark the bound session active. -/
def markActive (ind : SessionIndicator) : SessionIndicator :=
  if ind.connected && ind.sessionId.isSome then { ind with active := true } else ind

/-- The end of a session. -/
def endSession (_ : SessionIndicator) : SessionIndicator := .new

/-- The local kill switch. -/
def applyKill (ind : SessionIndicator) : SessionIndicator := ind.endSession

end SessionIndicator

/-- What the tray shows. -/
inductive SessionChrome where
  | inactive
  | active (sessionId : String) (label : Option String)
  deriving Repr, DecidableEq

/-- What is shown for an indicator. -/
def SessionChrome.fromIndicator (ind : SessionIndicator) : SessionChrome :=
  if ind.isActive then
    match ind.sessionId with
    | some sid => .active sid ind.viewerLabel
    | none => .inactive
  else .inactive

/-- The coordinator of the service. -/
structure HostSessionUx where
  indicator : SessionIndicator
  deriving Repr, DecidableEq

namespace HostSessionUx

/-- An idle coordinator. -/
def new : HostSessionUx := ⟨.new⟩

/-- What is shown. -/
def chrome (ux : HostSessionUx) : SessionChrome := .fromIndicator ux.indicator

/-- What a call of the tray does. A session that cannot be bound is ignored. -/
def tell (ux : HostSessionUx) : TrayCall → HostSessionUx
  | .setIdentity _ | .setOtp _ => ux
  | .beginSession sid => ⟨(ux.indicator.beginSession sid none).2⟩
  | .markSessionActive => ⟨ux.indicator.markActive⟩
  | .endSession => ⟨ux.indicator.endSession⟩
  | .applyKill => ⟨ux.indicator.applyKill⟩

variable {ux : HostSessionUx} {sid : String} {label : Option String}

/-- Nothing is shown while no session is bound. -/
theorem chrome_of_not_connected (h : ux.indicator.isConnected = false) : ux.chrome = .inactive := by
  unfold SessionIndicator.isConnected at h
  unfold chrome SessionChrome.fromIndicator SessionIndicator.isActive
  rw [Bool.and_assoc, h, Bool.and_false]
  rfl

/-- A session that is shown stays shown when it is marked. -/
theorem chrome_mark (h : ux.chrome = .active sid label) :
    (ux.tell .markSessionActive).chrome = .active sid label := by
  obtain ⟨⟨connected, active, sessionId, viewerLabel⟩⟩ := ux
  cases connected <;> cases active <;> cases sessionId <;> first | exact h | cases h

/-- A session is bound while none is. -/
theorem tell_begin (h : ux.indicator.isConnected = false) :
    (ux.tell (.beginSession sid)).indicator = ⟨true, false, some sid, none⟩ := by
  simp [tell, SessionIndicator.beginSession, h]

end HostSessionUx

/-! ## The tray during the service -/

/-- The tray, the session that has been accepted and not ended, whether the tray has been told that
it is live, and whether a media packet of it has been sent. -/
structure ChromeWorld where
  ux : HostSessionUx
  serving : Option String
  marked : Bool
  sent : Bool
  deriving Repr, DecidableEq

/-- What the surroundings answer, and whether an operation that pumps media, here or on the agent,
sends a packet. -/
structure ChromeAnswers where
  answers : (o : HostAction) → HostAnswer o
  sends : Bool

/-- The operations in which media may be sent: the host pumps, or the agent does after a request. -/
def pumps : HostAction → Bool
  | .pumpMedia _ => true
  | .agentRequest msg => mayPump msg
  | _ => false

namespace ChromeWorld

/-- Nothing is served. -/
def new : ChromeWorld := ⟨.new, none, false, false⟩

/-- What an operation changes. A session ends with a message to the server, with the shutdown of its
manager, with the detach of the agent, and with the connection; when the host waits for the next
one it is over as well. -/
def after (w : ChromeWorld) (sends : Bool) : (o : HostAction) → HostAnswer o → ChromeWorld
  | .tray told, _ =>
    { w with ux := w.ux.tell told, marked := w.marked || decide (told = .markSessionActive) }
  | .send (.sessionAccept sid _), .ok () =>
    { w with serving := some sid, marked := false, sent := false }
  | .send (.sessionEnd ..), _ | .shutdown, _ | .close, _ | .waitingForIncoming, _
  | .agentRequest (.detachSession ..), _ => { w with serving := none }
  | o, _ => { w with sent := w.sent || (pumps o && sends) }

/-- The chrome is active for exactly the session that is served. -/
def Chromed (w : ChromeWorld) : Prop :=
  ∀ sid, w.serving = some sid → ∃ label, w.ux.chrome = .active sid label

/-- **The chrome is active for the session whose media has been sent.** -/
def Shown (w : ChromeWorld) : Prop := w.sent = true → w.Chromed

/-- No session is bound. -/
def Unbound (w : ChromeWorld) : Prop := w.ux.indicator.isConnected = false

/-- A session has been accepted, and the tray has not been told. -/
def Accepted (sid : String) (w : ChromeWorld) : Prop :=
  w.serving = some sid ∧ w.marked = false ∧ w.sent = false ∧ w.Unbound

/-- A session is bound, and its media has not started. -/
def Bound (sid : String) (w : ChromeWorld) : Prop :=
  w.serving = some sid ∧ w.marked = false ∧ w.sent = false ∧
    w.ux.indicator = ⟨true, false, some sid, none⟩

/-- A session is shown. -/
def Live (sid : String) (w : ChromeWorld) : Prop :=
  w.serving = some sid ∧ w.ux.indicator = ⟨true, true, some sid, none⟩

/-- The session has ended. -/
def Over (w : ChromeWorld) : Prop := w.serving = none

end ChromeWorld

open ChromeWorld

/-- The service with the tray. -/
def chromeMachine :
    Machine HostCall (fun c => HostAnswer c.action) ChromeWorld ChromeAnswers Empty :=
  announced ⟨fun o e w => some (e.answers o, w.after e.sends o (e.answers o)), fun i _ => nomatch i⟩

/-- The operations after whose failure the tray is not told: all of a session on the agent that its
handler does not give up by itself, and some of a session in this process. -/
def untold (cfg : WsHostConfig) (o : HostAction) : Bool :=
  cfg.agentControl ||
    match o with
    | .createOfferer | .startMedia | .takeOutboundSignals | .pumpMedia _ | .localFingerprint => true
    | _ => false

/-- The service that goes on after a text has no session bound. -/
def Idled (cfg : WsHostConfig) (text : String) (w : ChromeWorld) : Prop :=
  cfg.aftermath text = .waits ∨ cfg.aftermath text = .reconnects → w.Unbound

/-- **The answers on which the tray is told**: while a session is bound, no caller gives up without
telling the tray in such a way that the service goes on; the tray that has ended a session makes the
host exit, or no session is bound; and the agent sends no media before the session is marked. -/
structure TellsTray (cfg : WsHostConfig) (c : HostCall) (e : ChromeAnswers) (w : ChromeWorld) :
    Prop where
  failure : ∀ text, c.givesUp (e.answers c.action) = some text → untold cfg c.action = true →
    Idled cfg text w
  tray : c.action = .takeExit → e.answers .takeExit = false → cfg.isMulti = true → w.Unbound
  early : ∀ msg, c.action = .agentRequest msg → mayPump msg = true → e.sends = true →
    w.marked = true

/-- What must hold when an operation is due. -/
def due (w : ChromeWorld) : HostAction → Prop
  | .waitingForIncoming => w.Unbound
  | .pumpMedia _ => w.Chromed
  | .agentRequest msg => mayPump msg = true → w.marked = true → w.Chromed
  | .tray (.beginSession _) | .tray .endSession | .tray .applyKill => w.sent = true → w.Over
  | _ => True

/-- The contract of the indicator. -/
def mandatoryChrome (cfg : WsHostConfig) : Contract HostCall ChromeWorld ChromeAnswers where
  assume := TellsTray cfg
  require c w := due w c.action

section

variable {cfg : WsHostConfig} {X : HostText} {w w' : ChromeWorld} {sid text : String}
  {e : ChromeAnswers} {c : HostCall} {a : HostAnswer c.action} {α : Type}

theorem chromeMachine_stable (P : ChromeWorld → Prop) : chromeMachine.Stable P :=
  fun i => nomatch i

/-- A step has the answer of the surroundings, and its effect. -/
theorem chromeMachine_act (h : chromeMachine.act c e w = some (a, w')) :
    a = e.answers c.action ∧ w' = w.after e.sends c.action a := by
  obtain ⟨rfl, rfl⟩ := Prod.mk.inj (Option.some.inj h)
  exact ⟨rfl, rfl⟩

/-- **The step lemma**: what must hold of an operation keeps the chrome active for the session whose
media is sent. -/
theorem ChromeWorld.Shown.after {o : HostAction} {sends : Bool} (h : w.Shown) (hdue : due w o)
    (hearly : ∀ msg, o = .agentRequest msg → mayPump msg = true → sends = true → w.marked = true)
    (a : HostAnswer o) : (w.after sends o a).Shown := by
  have hover : Shown { w with serving := none } := fun _ _ hserving => nomatch hserving
  have hmedia : Shown { w with sent := w.sent || (pumps o && sends) } := by
    intro hsent
    rcases Bool.or_eq_true_iff.mp hsent with hsent | hboth
    · exact h hsent
    obtain ⟨hpumps, hsends⟩ := Bool.and_eq_true_iff.mp hboth
    cases o with
    | pumpMedia videoFrames => exact hdue
    | agentRequest msg => exact hdue hpumps (hearly msg rfl hpumps hsends)
    | _ => cases hpumps
  cases o with
  | tray told =>
    intro hsent
    have hended : (w.sent = true → w.Over) → Chromed { w with ux := w.ux.tell told } := by
      intro hnone sid hserving
      rw [show w.serving = none from hnone hsent] at hserving
      cases hserving
    cases told with
    | setIdentity publicId => exact h hsent
    | setOtp code => exact h hsent
    | beginSession sid => exact hended hdue
    | endSession => exact hended hdue
    | applyKill => exact hended hdue
    | markSessionActive =>
      intro sid hserving
      obtain ⟨label, hlabel⟩ := h hsent sid hserving
      exact ⟨label, HostSessionUx.chrome_mark hlabel⟩
  | send msg =>
    cases msg with
    | sessionAccept sid seq =>
      rcases a with err | u
      · exact hmedia
      · intro hsent
        cases hsent
    | sessionEnd sid seq reason => exact hover
    | _ => exact hmedia
  | agentRequest msg =>
    cases msg with
    | detachSession sid reason => exact hover
    | _ => exact hmedia
  | shutdown => exact hover
  | close => exact hover
  | waitingForIncoming => exact hover
  | _ => exact hmedia

/-! ## Parts of a session -/

/-- What conducts a session, and pumping, changes at most whether media has been sent. -/
theorem ChromeWorld.after_conducts {o : HostAction}
    (ho : conducts o = true ∨ opensInput o = true ∨ ∃ k, o = .pumpMedia k) (sends : Bool)
    (a : HostAnswer o) : w.after sends o a = { w with sent := w.sent || (pumps o && sends) } := by
  rcases ho with ho | ho | ⟨k, rfl⟩
  · cases o with
    | send msg => cases msg <;> first | rfl | cases ho
    | agentRequest msg => cases msg <;> first | rfl | cases ho
    | _ => first | rfl | cases ho
  · cases o <;> first | rfl | cases ho
  · rfl

/-- Before its media starts, a session is conducted without media. -/
theorem ChromeWorld.Bound.conducts (h : Bound sid w) (hassume : TellsTray cfg c e w)
    (hc : conducts c.action = true) (a : HostAnswer c.action) :
    Bound sid (w.after e.sends c.action a) := by
  obtain ⟨hserving, hmarked, hsent, hind⟩ := h
  have hquiet : (w.sent || (pumps c.action && e.sends)) = false := by
    rw [hsent, Bool.false_or, Bool.and_eq_false_iff]
    by_contra hboth
    obtain ⟨hpumps, hsends⟩ := not_or.mp hboth
    obtain ⟨o, g⟩ := c
    cases o with
    | agentRequest msg =>
      have hearly := hassume.early msg rfl (Bool.not_eq_false _ ▸ hpumps)
        (Bool.not_eq_false _ ▸ hsends)
      rw [hmarked] at hearly
      cases hearly
    | pumpMedia videoFrames => cases hc
    | _ => exact hpumps rfl
  rw [ChromeWorld.after_conducts (.inl hc)]
  exact ⟨hserving, hmarked, hquiet, hind⟩

theorem ChromeWorld.Live.conducts (h : Live sid w) {o : HostAction}
    (ho : Host.conducts o = true ∨ opensInput o = true ∨ ∃ k, o = .pumpMedia k) (sends : Bool)
    (a : HostAnswer o) : Live sid (w.after sends o a) := by
  rw [ChromeWorld.after_conducts ho]
  exact h

/-- A session that is shown is the one that is served. -/
theorem ChromeWorld.Live.chromed (h : Live sid w) : w.Chromed := by
  obtain ⟨hserving, hind⟩ := h
  intro sid' hserving'
  obtain rfl := Option.some.inj (hserving.symm.trans hserving')
  refine ⟨none, ?_⟩
  unfold HostSessionUx.chrome
  rw [hind]
  rfl

/-- What conducts a session may be due while its media has not started. -/
theorem ChromeWorld.Bound.due (h : Bound sid w) {o : HostAction} (ho : Host.conducts o = true) :
    due w o := by
  cases o with
  | agentRequest msg =>
    intro _ hmarked
    rw [h.2.1] at hmarked
    cases hmarked
  | _ => trivial

theorem ChromeWorld.Live.due (h : Live sid w) {o : HostAction}
    (ho : Host.conducts o = true ∨ opensInput o = true ∨ ∃ k, o = .pumpMedia k) : due w o := by
  rcases ho with ho | ho | ⟨k, rfl⟩
  · cases o with
    | agentRequest msg => exact fun _ _ => h.chromed
    | _ => trivial
  · cases o <;> trivial
  · exact h.chromed

/-- A session that is bound is kept bound by what conducts it; its errors leave it bound. -/
theorem bound_spec {p : HostM α}
    (hp : Within (fun o => conducts o = true) (fun _ => False) p.run) :
    Spec chromeMachine (mandatoryChrome cfg) (Bound sid) p (fun _ => Bound sid)
      (fun _ => Bound sid) := by
  refine hp.spec (chromeMachine_stable _) (fun _ => chromeMachine_stable _)
    (fun c w hc hw => hw.due hc) ?_ (fun _ _ _ hfalse => hfalse.elim)
    fun _ _ _ _ _ _ hfalse => hfalse.elim
  intro c w e a w' hc hw hassume hact
  obtain ⟨rfl, rfl⟩ := chromeMachine_act hact
  have hw' := hw.conducts hassume hc (e.answers c.action)
  exact ⟨hw', fun _ _ => hw'⟩

/-- A text that an untold operation announces is one after which no session is bound. -/
theorem TellsTray.idled (text : String) (hassume : TellsTray cfg c e w)
    (huntold : untold cfg c.action = true)
    (htext : c.givesUp (e.answers c.action) = some text)
    (hux : w'.ux = w.ux) : Idled cfg text w' := by
  intro haftermath
  have hunbound := hassume.failure text htext huntold haftermath
  unfold Unbound at hunbound ⊢
  rwa [hux]

/-- On the agent no error is told to the tray. -/
theorem agent_spec {P : ChromeWorld → Prop} (hagent : cfg.agentControl = true)
    (hdue : ∀ {w o}, P w → conducts o = true → due w o)
    (hkeep : ∀ {c e w}, P w → TellsTray cfg c e w → conducts c.action = true →
      ∀ a, P (w.after e.sends c.action a)) {p : HostM α}
    (hp : Within (fun o => conducts o = true) (fun _ => False) p.run) :
    Spec chromeMachine (mandatoryChrome cfg) P p (fun _ => P) (Idled cfg) := by
  refine hp.spec (chromeMachine_stable _) (fun _ => chromeMachine_stable _)
    (fun c w hc hw => hdue hw hc) ?_ (fun _ _ _ hfalse => hfalse.elim)
    fun _ _ _ _ _ _ hfalse => hfalse.elim
  intro c w e a w' hc hw hassume hact
  obtain ⟨rfl, rfl⟩ := chromeMachine_act hact
  refine ⟨hkeep hw hassume hc _, fun t ht => hassume.idled t (by simp [untold, hagent]) ht ?_⟩
  rw [ChromeWorld.after_conducts (.inl hc)]

/-- One operation of a session that is bound, on which its caller gives up without telling the
tray. -/
theorem bound_use {o : HostAction} (ho : conducts o = true) (huntold : untold cfg o = true)
    (f : HostAnswer o → Except String α) :
    Spec chromeMachine (mandatoryChrome cfg) (Bound sid) (use o f) (fun _ => Bound sid)
      (Idled cfg) := by
  refine .use (chromeMachine_stable _) (fun _ => chromeMachine_stable _)
    (fun _ => chromeMachine_stable _) (fun w hw => hw.due ho) ?_
  intro w e a w' hw hassume hact
  obtain ⟨rfl, rfl⟩ := chromeMachine_act hact
  rcases hf : f (e.answers o) with t | b
  · refine hassume.idled t huntold ?_ ?_
    · show Routine.errorOf (f (e.answers o)) = some t
      rw [hf]
      rfl
    · dsimp only
      rw [ChromeWorld.after_conducts (.inl ho)]
  · exact hw.conducts hassume ho _

/-- One operation of a session that is bound. -/
theorem bound_call {o : HostAction} (ho : conducts o = true) {E : String → ChromeWorld → Prop} :
    Spec chromeMachine (mandatoryChrome cfg) (Bound sid) (call o) (fun _ => Bound sid) E := by
  refine .call (chromeMachine_stable _) (fun _ => chromeMachine_stable _)
    (fun w hw => hw.due ho) ?_
  intro w e a w' hw hassume hact
  obtain ⟨rfl, rfl⟩ := chromeMachine_act hact
  exact hw.conducts hassume ho _

/-- One operation of a session that is shown. -/
theorem live_call {o : HostAction}
    (ho : conducts o = true ∨ opensInput o = true ∨ ∃ k, o = .pumpMedia k)
    {E : String → ChromeWorld → Prop} :
    Spec chromeMachine (mandatoryChrome cfg) (Live sid) (call o) (fun _ => Live sid) E := by
  refine .call (chromeMachine_stable _) (fun _ => chromeMachine_stable _)
    (fun w hw => hw.due ho) ?_
  intro w e a w' hw _ hact
  obtain ⟨rfl, rfl⟩ := chromeMachine_act hact
  exact hw.conducts ho _ _

/-- Telling the tray. -/
theorem tellTray_spec {P Q : ChromeWorld → Prop} {told : TrayCall} (htray : cfg.tray = true)
    (hdue : ∀ w, P w → due w (.tray told))
    (hkeep : ∀ w, P w → Q { w with
      ux := w.ux.tell told, marked := w.marked || decide (told = .markSessionActive) })
    {E : String → ChromeWorld → Prop} :
    Spec chromeMachine (mandatoryChrome cfg) P (tellTray cfg told) (fun _ => Q) E := by
  unfold tellTray
  rw [if_pos htray]
  refine .call (chromeMachine_stable _) (fun _ => chromeMachine_stable _) hdue ?_
  intro w e a w' hw _ hact
  obtain ⟨rfl, rfl⟩ := chromeMachine_act hact
  exact hkeep w hw

/-! ## Sessions in this process -/

/-- A session that has been accepted is bound. -/
theorem tellBegin_spec (htray : cfg.tray = true) {E : String → ChromeWorld → Prop} :
    Spec chromeMachine (mandatoryChrome cfg) (Accepted sid) (tellTray cfg (.beginSession sid))
      (fun _ => Bound sid) E := by
  refine tellTray_spec htray ?_ ?_
  · rintro w ⟨-, -, hsent, -⟩ hsent'
    rw [hsent] at hsent'
    cases hsent'
  · rintro w ⟨hserving, hmarked, hsent, hunbound⟩
    refine ⟨hserving, ?_, hsent, HostSessionUx.tell_begin hunbound⟩
    simp [hmarked]

/-- A session that is bound is shown once it is marked. -/
theorem tellMark_spec (htray : cfg.tray = true) {E : String → ChromeWorld → Prop} :
    Spec chromeMachine (mandatoryChrome cfg) (Bound sid) (tellTray cfg .markSessionActive)
      (fun _ => Live sid) E := by
  have hdue : ∀ w, Bound sid w → due w (.tray .markSessionActive) := fun _ _ => trivial
  refine tellTray_spec htray hdue ?_
  rintro w ⟨hserving, -, -, hind⟩
  refine ⟨hserving, ?_⟩
  show w.ux.indicator.markActive = _
  rw [hind]
  rfl

/-- **The end of a session without media, or of one that is over, leaves no session bound.** -/
theorem tellEnd_spec {P : ChromeWorld → Prop} {told : TrayCall} (htray : cfg.tray = true)
    (htold : told = .endSession ∨ told = .applyKill)
    (hP : ∀ w, P w → w.sent = true → w.Over) {E : String → ChromeWorld → Prop} :
    Spec chromeMachine (mandatoryChrome cfg) P (tellTray cfg told) (fun _ => Unbound) E := by
  rcases htold with rfl | rfl
  · exact tellTray_spec htray hP fun _ _ => rfl
  · exact tellTray_spec htray hP fun _ _ => rfl

theorem Bound.quiet (w : ChromeWorld) (h : Bound sid w) (hsent : w.sent = true) : w.Over := by
  rw [h.2.2.1] at hsent
  cases hsent

/-- An operation that ends the session. -/
theorem end_call {P : ChromeWorld → Prop} (o : HostAction)
    (ho : ∀ (w : ChromeWorld) sends a, w.after sends o a = { w with serving := none })
    (hdue : ∀ w, due w o) {E : String → ChromeWorld → Prop} :
    Spec chromeMachine (mandatoryChrome cfg) P (call o) (fun _ => Over) E := by
  refine .call (chromeMachine_stable _) (fun _ => chromeMachine_stable _) (fun w _ => hdue w) ?_
  intro w e a w' _ _ hact
  obtain ⟨rfl, rfl⟩ := chromeMachine_act hact
  rw [ho]
  rfl

/-- Giving up while no session is bound. -/
theorem giveUp_unbound {Φ : α → ChromeWorld → Prop} :
    Spec chromeMachine (mandatoryChrome cfg) Unbound (giveUp text) Φ (Idled cfg) := by
  refine .use (chromeMachine_stable _) (fun _ => chromeMachine_stable _)
    (fun _ => chromeMachine_stable _) (fun _ _ => trivial) ?_
  intro w e a w' hw _ hact
  obtain ⟨-, rfl⟩ := chromeMachine_act hact
  exact fun _ => hw

/-- **An error that is told to the tray** leaves no session bound. -/
theorem tellTrayOnError_spec (htray : cfg.tray = true) {told : String → TrayCall}
    (htold : ∀ t, told t = .endSession ∨ told t = .applyKill) {p : HostM α}
    (hp : Spec chromeMachine (mandatoryChrome cfg) (Bound sid) p (fun _ => Bound sid)
      (fun _ => Bound sid)) :
    Spec chromeMachine (mandatoryChrome cfg) (Bound sid) (tellTrayOnError cfg told p)
      (fun _ => Bound sid) (Idled cfg) := by
  refine .bind (.attempt hp (fun _ => chromeMachine_stable _) fun _ => chromeMachine_stable _)
    (fun _ => chromeMachine_stable _) fun r => ?_
  rcases r with t | a
  · refine .bind (tellEnd_spec htray (htold t) Bound.quiet) (fun _ => chromeMachine_stable _)
      fun _ => ?_
    exact .throw (chromeMachine_stable _) fun w hw _ => hw
  · exact .pure (chromeMachine_stable _) fun _ hw => hw

theorem startMediaOrMock_bound :
    Spec chromeMachine (mandatoryChrome cfg) (Bound sid) (startMediaOrMock cfg)
      (fun _ => Bound sid) (Idled cfg) := by
  have hstart : untold cfg .startMedia = true := by simp [untold]
  unfold startMediaOrMock
  split_ifs
  · refine .bind (bound_call rfl) (fun _ => chromeMachine_stable _) fun started => ?_
    split
    · exact .pure (chromeMachine_stable _) fun _ hw => hw
    · refine .bind (bound_call rfl) (fun _ => chromeMachine_stable _) fun _ => ?_
      exact bound_use rfl hstart _
  · exact bound_use rfl hstart _

/-- **A session in this process up to its transport** is shown at the end. -/
theorem openSessionLocal_chrome (htray : cfg.tray = true) (n : Nat) :
    Spec chromeMachine (mandatoryChrome cfg) (Accepted sid) (openSessionLocal cfg X n sid)
      (fun _ => Live sid) (Idled cfg) := by
  have hstable := fun (P : Unit → ChromeWorld → Prop) u => chromeMachine_stable (P u)
  have hlost : ∀ t, chromeMachine.Stable (Idled cfg t) := fun _ => chromeMachine_stable _
  refine .bind (tellBegin_spec htray) hlost fun _ => ?_
  refine .bind (bound_use rfl (by simp [untold]) _) hlost fun _ => ?_
  refine .bind (bound_call rfl) hlost fun _ => .bind (bound_call rfl) hlost fun _ => ?_
  refine .bind startMediaOrMock_bound hlost fun _ => ?_
  refine .bind (bound_use rfl (by simp [untold]) _) hlost fun ⟨offer, pending⟩ => ?_
  refine .bind (tellTrayOnError_spec htray (fun t => ?_)
    (bound_spec (relayOfferAnswerIceLocal_within (fun _ h => h) n _ _))) hlost fun _ => ?_
  · split_ifs
    · exact .inr rfl
    · exact .inl rfl
  refine .bind (tellTrayOnError_spec htray (fun _ => .inl rfl)
    (bound_spec (.use (A := fun o => conducts o = true) rfl _))) hlost fun _ => ?_
  exact tellMark_spec htray

theorem receiveLive_chrome (r : Except SignalingError SignalMessage) :
    Spec chromeMachine (mandatoryChrome cfg) (Live sid) (receiveLive X r) (fun _ => Live sid)
      (Idled cfg) := by
  unfold receiveLive
  split
  · exact .pure (chromeMachine_stable _) fun _ hw => hw
  · refine .bind (live_call (.inl rfl)) (fun _ => chromeMachine_stable _) fun _ => ?_
    exact .pure (chromeMachine_stable _) fun _ hw => hw
  · exact .pure (chromeMachine_stable _) fun _ hw => hw
  · exact .pure (chromeMachine_stable _) fun _ hw => hw
  · exact .pure (chromeMachine_stable _) fun _ hw => hw

theorem trayEndsSession_chrome (htray : cfg.tray = true) :
    Spec chromeMachine (mandatoryChrome cfg) (Live sid) (trayEndsSession cfg) (fun _ => Live sid)
      (Idled cfg) := by
  unfold trayEndsSession
  rw [if_pos htray]
  exact live_call (.inl rfl)

/-- **Live media** is shown. -/
theorem pumpLiveLocal_chrome (htray : cfg.tray = true) (n : Nat) (totals : PumpStats) :
    Spec chromeMachine (mandatoryChrome cfg) (Live sid) (pumpLiveLocal cfg X n totals)
      (fun _ => Live sid) (Idled cfg) := by
  have hlost : ∀ t, chromeMachine.Stable (Idled cfg t) := fun _ => chromeMachine_stable _
  have hpure : ∀ r : PumpStats × String, Spec chromeMachine (mandatoryChrome cfg) (Live sid)
      (pure r) (fun _ => Live sid) (Idled cfg) :=
    fun r => .pure (chromeMachine_stable _) fun _ hw => hw
  induction n generalizing totals with
  | zero => exact .halt
  | succ n ih =>
    refine .bind (trayEndsSession_chrome htray) hlost fun ends => ?_
    split
    · exact hpure _
    refine .bind (live_call (.inl rfl)) hlost fun state => ?_
    split
    · exact hpure _
    refine .bind (live_call (.inl rfl)) hlost fun received => ?_
    refine .bind (receiveLive_chrome _) hlost fun reason => ?_
    split
    · exact hpure _
    refine .bind (live_call (.inl rfl)) hlost fun _ => ?_
    refine .bind (live_call (.inr (.inr ⟨1, rfl⟩))) hlost fun pumped => ?_
    split
    · split
      · exact hpure _
      · exact ih _
    · split
      · exact ih _
      · exact hpure _

/-- One operation of a session that is shown, on which its caller gives up without telling the
tray. -/
theorem live_use (o : HostAction) (hdue : ∀ w, Live sid w → due w o)
    (hkeep : ∀ (w : ChromeWorld) sends a, Live sid w →
      Live sid (w.after sends o a) ∧ (w.after sends o a).ux = w.ux)
    (huntold : untold cfg o = true) (f : HostAnswer o → Except String α) :
    Spec chromeMachine (mandatoryChrome cfg) (Live sid) (use o f) (fun _ => Live sid)
      (Idled cfg) := by
  refine .use (chromeMachine_stable _) (fun _ => chromeMachine_stable _)
    (fun _ => chromeMachine_stable _) hdue ?_
  intro w e a w' hw hassume hact
  obtain ⟨rfl, rfl⟩ := chromeMachine_act hact
  rcases hf : f (e.answers o) with t | b
  · refine hassume.idled t huntold ?_ (hkeep w _ _ hw).2
    show Routine.errorOf (f (e.answers o)) = some t
    rw [hf]
    rfl
  · exact (hkeep w _ _ hw).1

theorem driveLocalMedia_chrome (htray : cfg.tray = true) (n : Nat) :
    Spec chromeMachine (mandatoryChrome cfg) (Live sid) (driveLocalMedia cfg X n)
      (fun _ => Live sid) (Idled cfg) := by
  unfold driveLocalMedia
  split_ifs
  · refine .bind (live_use (.pumpMedia _) (fun w hw => hw.chromed) (fun w _ _ hw => ⟨hw, rfl⟩)
      (by simp [untold]) _) (fun _ => chromeMachine_stable _) fun _ => ?_
    exact .pure (chromeMachine_stable _) fun _ hw => hw
  · exact pumpLiveLocal_chrome htray n _

theorem awaitBind_chrome (k : Nat) :
    Spec chromeMachine (mandatoryChrome cfg) (Live sid) (awaitBind k) (fun _ => Live sid)
      (Idled cfg) := by
  induction k with
  | zero => exact .pure (chromeMachine_stable _) fun _ hw => hw
  | succ k ih =>
    refine .bind (live_call (.inl rfl)) (fun _ => chromeMachine_stable _) fun _ => ?_
    refine .bind (live_call (.inl rfl)) (fun _ => chromeMachine_stable _) fun bound => ?_
    split
    · exact .pure (chromeMachine_stable _) fun _ hw => hw
    · exact ih

theorem authorizeOrOpen_chrome (mode : SessionMode) :
    Spec chromeMachine (mandatoryChrome cfg) (Live sid) (authorizeOrOpen mode)
      (fun _ => Live sid) (Idled cfg) := by
  refine .bind (live_call (.inl rfl)) (fun _ => chromeMachine_stable _) fun auth => ?_
  split
  · exact awaitBind_chrome 40
  · refine .bind (live_call (.inr (.inl rfl))) (fun _ => chromeMachine_stable _) fun _ => ?_
    exact live_call (.inr (.inl rfl))

/-- The end of a session at the server. -/
theorem endWssSession_chrome {P : ChromeWorld → Prop} (hP : ∀ w sends a, P w →
    P (w.after sends .takeSeq a)) (reason : String) {E : String → ChromeWorld → Prop}
    (hE : ∀ t, chromeMachine.Stable (E t)) :
    Spec chromeMachine (mandatoryChrome cfg) P (endWssSession sid reason) (fun _ => Over) E := by
  refine .bind (Ψ := fun _ => P) ?_ hE fun seq => ?_
  · refine .call (chromeMachine_stable _) (fun _ => chromeMachine_stable _) (fun _ _ => trivial) ?_
    intro w e a w' hw _ hact
    obtain ⟨rfl, rfl⟩ := chromeMachine_act hact
    exact hP w _ _ hw
  · refine .bind (end_call (.send _) (fun _ _ _ => rfl) fun _ => trivial) hE fun _ => ?_
    exact .pure (chromeMachine_stable _) fun _ hw => hw

/-- **The end of a session in this process** leaves no session bound. -/
theorem concludeSessionLocal_chrome (htray : cfg.tray = true) (pump : PumpStats)
    (endReason : String) :
    Spec chromeMachine (mandatoryChrome cfg) (Live sid)
      (concludeSessionLocal cfg sid pump endReason) (fun _ => Unbound) (Idled cfg) := by
  have hlost : ∀ t, chromeMachine.Stable (Idled cfg t) := fun _ => chromeMachine_stable _
  have hshutdown : ∀ P : ChromeWorld → Prop, Spec chromeMachine (mandatoryChrome cfg) P
      (call .shutdown) (fun _ => Over) (Idled cfg) :=
    fun P => end_call .shutdown (fun _ _ _ => rfl) fun _ => trivial
  unfold concludeSessionLocal
  split_ifs
  · refine .bind (hshutdown _) hlost fun _ => ?_
    refine .bind (tellEnd_spec htray (.inl rfl) fun _ hw _ => hw) hlost fun _ => ?_
    exact giveUp_unbound
  · refine .bind (live_use .localFingerprint (fun _ _ => trivial) (fun w sends a hw => ?_)
      (by simp [untold]) _) hlost fun _ => ?_
    · have hsame : w.after sends .localFingerprint a = w := by
        simp [ChromeWorld.after, pumps]
      rw [hsame]
      exact ⟨hw, rfl⟩
    refine .bind (endWssSession_chrome (fun w sends a hw => hw.conducts (.inl rfl) sends a) _ hlost)
      hlost fun _ => ?_
    refine .bind (hshutdown _) hlost fun _ => ?_
    exact tellEnd_spec htray (.inl rfl) fun _ hw _ => hw

/-! ## Sessions on the agent -/

/-- Detaching the agent ends the session. -/
theorem detachAgent_chrome {P : ChromeWorld → Prop} (reason : String)
    {E : String → ChromeWorld → Prop} (hE : ∀ t, chromeMachine.Stable (E t)) :
    Spec chromeMachine (mandatoryChrome cfg) P (detachAgent sid reason) (fun _ => Over) E := by
  refine .bind (end_call (.agentRequest (.detachSession sid (some reason))) (fun _ _ _ => rfl) ?_)
    hE fun _ => ?_
  · rintro w hpump
    cases hpump
  · exact .pure (chromeMachine_stable _) fun _ hw => hw

/-- **Giving up a session on the agent** leaves no session bound. -/
theorem abandonAgent_chrome {P : ChromeWorld → Prop} (htray : cfg.tray = true)
    (reason text : String) {told : TrayCall} (htold : told = .endSession ∨ told = .applyKill)
    {Φ : α → ChromeWorld → Prop} :
    Spec chromeMachine (mandatoryChrome cfg) P (abandonAgent cfg sid reason text told) Φ
      (Idled cfg) := by
  have hlost : ∀ t, chromeMachine.Stable (Idled cfg t) := fun _ => chromeMachine_stable _
  refine .bind (detachAgent_chrome reason hlost) hlost fun _ => ?_
  exact .bind (tellEnd_spec htray htold fun _ hw _ => hw) hlost fun _ => giveUp_unbound

/-- A part of a session on the agent before its media is live, and after. -/
theorem boundAgent_spec (hagent : cfg.agentControl = true) {p : HostM α}
    (hp : Within (fun o => conducts o = true) (fun _ => False) p.run) :
    Spec chromeMachine (mandatoryChrome cfg) (Bound sid) p (fun _ => Bound sid) (Idled cfg) :=
  agent_spec hagent (fun hw ho => hw.due ho) (fun hw hassume hc => hw.conducts hassume hc) hp

theorem liveAgent_spec (hagent : cfg.agentControl = true) {p : HostM α}
    (hp : Within (fun o => conducts o = true) (fun _ => False) p.run) :
    Spec chromeMachine (mandatoryChrome cfg) (Live sid) p (fun _ => Live sid) (Idled cfg) :=
  agent_spec hagent (fun hw ho => hw.due (.inl ho)) (fun hw _ hc a => hw.conducts (.inl hc) _ a) hp

theorem trickleIceAgent_chrome (htray : cfg.tray = true) (hagent : cfg.agentControl = true)
    (n : Nat) (connected video : Bool) :
    Spec chromeMachine (mandatoryChrome cfg) (Bound sid)
      (trickleIceAgent cfg X sid n connected video) (fun _ => Bound sid) (Idled cfg) := by
  have hlost : ∀ t, chromeMachine.Stable (Idled cfg t) := fun _ => chromeMachine_stable _
  have hpure : ∀ r : Bool × Bool, Spec chromeMachine (mandatoryChrome cfg) (Bound sid)
      (pure r) (fun _ => Bound sid) (Idled cfg) :=
    fun r => .pure (chromeMachine_stable _) fun _ hw => hw
  induction n generalizing connected video with
  | zero => exact .halt
  | succ n ih =>
    refine .bind (bound_call rfl) hlost fun elapsed => ?_
    split
    · exact hpure _
    refine .bind (boundAgent_spec hagent (trayEndsSession_within fun _ => conducts_of_attends)) hlost
      fun ends => ?_
    split
    · exact abandonAgent_chrome htray _ _ (.inr rfl)
    refine .bind (bound_call rfl) hlost fun received => ?_
    refine .bind (boundAgent_spec hagent
      (relayReceivedIce_within (fun _ => conducts_of_attends) _)) hlost
      fun _ => ?_
    refine .bind (boundAgent_spec hagent (queryStats_within fun _ => conducts_of_attends)) hlost
      fun stats => ?_
    refine .bind (boundAgent_spec hagent
      (forwardAgentIceToWss_within (fun _ => conducts_of_attends) _)) hlost
      fun _ => ?_
    dsimp only
    split
    · exact hpure _
    · exact ih _ _

/-- **The media of a session on the agent** is shown at the end. -/
theorem driveAgentMedia_chrome (htray : cfg.tray = true) (hagent : cfg.agentControl = true)
    (n : Nat) (hostIce : List SignalForward) (early : List IceCandidate) :
    Spec chromeMachine (mandatoryChrome cfg) (Bound sid)
      (driveAgentMedia cfg X n sid hostIce early) (fun _ => Live sid) (Idled cfg) := by
  have hlost : ∀ t, chromeMachine.Stable (Idled cfg t) := fun _ => chromeMachine_stable _
  refine .bind (boundAgent_spec hagent (sendIce_within (fun _ => conducts_of_attends) _)) hlost
    fun _ => ?_
  refine .bind (boundAgent_spec hagent (earlyViewerIce_within (fun _ => conducts_of_attends) _)) hlost
    fun _ => ?_
  refine .bind (trickleIceAgent_chrome htray hagent n false false) hlost
    fun ⟨connected, video⟩ => ?_
  dsimp only
  split
  · exact abandonAgent_chrome htray _ _ (.inl rfl)
  refine .bind (tellMark_spec htray) hlost fun _ => ?_
  refine .bind (liveAgent_spec hagent (settledVideo_within (fun _ => conducts_of_attends) _)) hlost
    fun video => ?_
  split
  · exact abandonAgent_chrome htray _ _ (.inl rfl)
  split
  · exact liveAgent_spec hagent (driveAgentLive_within (fun _ h => h) (fun _ => False.elim) n)
  · exact .pure (chromeMachine_stable _) fun _ hw => hw

/-- **A session on the agent** is shown at the end of its media. -/
theorem runSessionAgent_chrome (htray : cfg.tray = true) (hagent : cfg.agentControl = true)
    (n : Nat) :
    Spec chromeMachine (mandatoryChrome cfg) (Accepted sid) (runSessionAgent cfg X n sid)
      (fun _ => Live sid) (Idled cfg) := by
  have hlost : ∀ t, chromeMachine.Stable (Idled cfg t) := fun _ => chromeMachine_stable _
  refine .bind (tellBegin_spec htray) hlost fun _ => ?_
  refine .bind (boundAgent_spec hagent
    (startSession_within (fun _ => conducts_of_attends) _ (startSequence_not_detach _ _))) hlost
    fun outbound => ?_
  refine .bind (boundAgent_spec hagent (orGiveUp_within (fun _ => conducts_of_attends) _)) hlost
    fun offer => ?_
  refine .bind (bound_call rfl) hlost fun seq => ?_
  refine .bind (boundAgent_spec hagent (.use (A := fun o => conducts o = true) rfl _)) hlost
    fun _ => ?_
  refine .bind (boundAgent_spec hagent (awaitAnswerAgent_within (fun _ h => h) n [])) hlost
    fun answered => ?_
  split
  · exact abandonAgent_chrome htray _ _ (.inl rfl)
  · exact driveAgentMedia_chrome htray hagent n _ _

/-! ## Runs of the service -/

/-- Actions that serve no session, and tell the tray of none. -/
def idles : HostAction → Bool
  | .enroll | .enableUnattended _ | .mintLocal | .postOtpHash .. | .connect | .close | .recv _
  | .takeExit | .agentConnect | .waitingForIncoming | .expired | .setNextSeq _ | .takeSeq
  | .send (.hello ..) | .tray (.setIdentity _) | .tray (.setOtp _) => true
  | _ => false

/-- While the host is idle no session becomes bound. -/
theorem ChromeWorld.Unbound.idles (h : w.Unbound) {o : HostAction} (ho : Host.idles o = true)
    (sends : Bool) (a : HostAnswer o) : (w.after sends o a).Unbound := by
  cases o with
  | tray told => cases told <;> first | exact h | cases ho
  | send msg => cases msg <;> first | exact h | cases ho
  | _ => first | exact h | cases ho

theorem idles_of_listens {o : HostAction} (ho : listens o = true) : idles o = true := by
  cases o <;> first | rfl | cases ho

theorem idles_of_connects {o : HostAction} (ho : connects o = true) : idles o = true := by
  cases o with
  | send msg => cases msg <;> first | rfl | cases ho
  | _ => first | rfl | cases ho

/-- An idle action may be due while no session is bound. -/
theorem ChromeWorld.Unbound.due (h : w.Unbound) {o : HostAction} (ho : Host.idles o = true) :
    due w o := by
  cases o with
  | waitingForIncoming => exact h
  | tray told => cases told <;> trivial
  | _ => trivial

/-- An idle action keeps all sessions unbound. -/
theorem idle_act (hw : w.Unbound) (hc : idles c.action = true)
    (hact : chromeMachine.act c e w = some (a, w')) : w'.Unbound := by
  obtain ⟨-, rfl⟩ := chromeMachine_act hact
  exact hw.idles hc _ _

/-- A part that is idle keeps all sessions unbound. -/
theorem idle_spec {A : HostAction → Prop} {p : HostM α} (hp : Within A (fun _ => False) p.run)
    (hA : ∀ o, A o → idles o = true)
    {assume : HostCall → ChromeAnswers → ChromeWorld → Prop} :
    Spec chromeMachine ⟨assume, fun c w => due w c.action⟩ Unbound p (fun _ => Unbound)
      fun _ => Unbound := by
  refine hp.spec (chromeMachine_stable _) (fun _ => chromeMachine_stable _) ?_ ?_
    (fun _ _ _ hfalse => hfalse.elim) fun _ _ _ _ _ _ hfalse => hfalse.elim
  · exact fun c w hc (hw : w.Unbound) => hw.due (hA _ hc)
  · intro c w e a w' hc hw _ hact
    exact ⟨idle_act hw (hA _ hc) hact, fun _ _ => idle_act hw (hA _ hc) hact⟩

/-- A session that is accepted. -/
theorem accept_chrome (n : Nat) :
    Spec chromeMachine (mandatoryChrome cfg) Unbound (acceptIncomingSession n)
      (fun r => Accepted r.1) (Idled cfg) := by
  have hdue : ∀ (c : HostCall) (w : ChromeWorld), listens c.action = true → w.Unbound →
      due w c.action := fun c w hc hw => hw.due (idles_of_listens hc)
  have hfail : ∀ t (w : ChromeWorld), w.Unbound → Idled cfg t w := fun t w hw _ => hw
  refine acceptIncomingSession_spec (chromeMachine_stable _) (fun _ => chromeMachine_stable _)
    hdue ?_ hfail (fun _ => chromeMachine_stable _) ?_ n
  · exact fun c w e a w' hc hw _ hact => idle_act hw (idles_of_listens hc) hact
  · intro sid mode seq
    refine .use (chromeMachine_stable _) (fun _ => chromeMachine_stable _)
      (fun _ => chromeMachine_stable _) (fun _ _ => trivial) ?_
    intro w e a w' hw _ hact
    obtain ⟨-, rfl⟩ := chromeMachine_act hact
    rcases a with err | u
    · exact fun _ => hw
    · exact ⟨rfl, rfl, rfl, hw⟩

/-- **A completed session leaves no session bound.** -/
theorem handleOneSession_chrome (htray : cfg.tray = true) (n : Nat) :
    Spec chromeMachine (mandatoryChrome cfg) Unbound (handleOneSession cfg X n)
      (fun _ => Unbound) (Idled cfg) := by
  have hlost : ∀ t, chromeMachine.Stable (Idled cfg t) := fun _ => chromeMachine_stable _
  unfold handleOneSession
  split_ifs with hagent
  · refine .bind (accept_chrome n) hlost fun ⟨sid, mode⟩ => ?_
    refine .bind (runSessionAgent_chrome htray hagent n) hlost fun reason => ?_
    refine .bind (detachAgent_chrome reason hlost) hlost fun _ => ?_
    refine .bind (endWssSession_chrome (fun w sends a hw => ?_) reason hlost) hlost fun _ => ?_
    · exact hw
    · exact tellEnd_spec htray (.inl rfl) fun _ hw _ => hw
  · refine .bind (accept_chrome n) hlost fun ⟨sid, mode⟩ => ?_
    refine .bind (Ψ := fun _ => Live sid) ?_ hlost fun ⟨pump, reason⟩ =>
      concludeSessionLocal_chrome htray pump reason
    refine .bind (openSessionLocal_chrome htray n) hlost fun _ => ?_
    dsimp only
    split
    · exact .bind (authorizeOrOpen_chrome mode) hlost fun _ => driveLocalMedia_chrome htray n
    · exact driveLocalMedia_chrome htray n

/-- The service respects the contract of the indicator. -/
theorem regime_chrome (htray : cfg.tray = true) :
    Regime cfg X chromeMachine (mandatoryChrome cfg) Unbound Unbound (Idled cfg) where
  cleanStable := chromeMachine_stable _
  doneStable := chromeMachine_stable _
  lostStable _ := chromeMachine_stable _
  leave c w _ := by
    obtain ⟨o, g⟩ := c
    cases o <;> trivial
  exits := takeExit_spec (chromeMachine_stable _) (fun _ _ hc hw => hw.due (idles_of_connects hc))
    fun _ _ _ _ _ hc hw _ hact => idle_act hw (idles_of_connects hc) hact
  session n := handleOneSession_chrome htray n
  remint enrolled := by
    unfold remintAfter
    split_ifs
    · refine Spec.ignoring (L := ⟨fun _ _ _ => True, fun c w => due w c.action⟩)
        (fun _ _ _ _ => trivial) (fun _ _ h => h) (chromeMachine_stable _) ?_
      refine idle_spec (maybeMintOtp_within (A := fun o => idles o = true) (fun o ho htold => ?_)
        cfg enrolled) fun _ h => h
      cases o with
      | tray told => cases told <;> first | rfl | cases htold
      | _ => first | rfl | cases ho
    · exact .pure (chromeMachine_stable _) fun _ hw => hw
  connect := connectHost_spec (chromeMachine_stable _)
    (fun _ _ hc hw => hw.due (idles_of_connects hc))
    fun _ _ _ _ _ hc hw _ hact => idle_act hw (idles_of_connects hc) hact
  waits t w ht hw := hw (.inl ht)
  asksTray t ht := by
    refine .call (chromeMachine_stable _) (fun _ => chromeMachine_stable _)
      (fun _ _ => trivial) ?_
    intro w e exits w' _ hassume hact hexits
    obtain ⟨rfl, rfl⟩ := chromeMachine_act hact
    refine hassume.tray rfl hexits ?_
    by_contra hmulti
    unfold WsHostConfig.aftermath at ht
    split_ifs at ht
  reconnects t ht := by
    refine .call (chromeMachine_stable _) (fun _ => chromeMachine_stable _)
      (fun _ _ => trivial) fun w e a w' hw _ hact => ?_
    exact idle_act (c := ⟨.close, fun _ => none⟩) (hw (.inr ht)) rfl hact

/-- **The indicator is mandatory**: in every run of the service with a tray in which the tray is
told, the chrome is active for exactly the session that is served once media of it has been sent,
and inactive whenever the host waits for a session.

**Proof sketch.** What must hold when an operation is due keeps the chrome active
(`ChromeWorld.Shown.after`); that it does hold follows the handlers: before it is marked a session
is bound without media, then it is shown, and the tray is told before the next one. -/
theorem session_chrome (htray : cfg.tray = true)
    {s : Prog HostCall (fun c => HostAnswer c.action) (Except String Nat) × ChromeWorld}
    (h : (chromeMachine.system (serviceRuns cfg X) (· = .new)).ReachableVia
      (mandatoryChrome cfg).Assumed s) :
    s.2.Shown ∧ (waiting s.1 = true → s.2.ux.chrome = .inactive) := by
  have hstart : Spec chromeMachine (mandatoryChrome cfg) (· = .new) (startHost cfg)
      (fun _ => Unbound) fun _ _ => True := by
    refine (idle_spec (startHost_within (A := fun o => idles o = true) (fun o ho htold => ?_) cfg)
      fun _ h => h).conseq ?_ (fun _ _ h => h) fun _ _ _ => trivial
    · cases o with
      | tray told => cases told <;> first | rfl | cases htold
      | _ => first | rfl | cases ho
    · rintro w rfl
      rfl
  have hsafe := (regime_chrome (X := X) htray).safe hstart
  refine ⟨?_, fun hs => ?_⟩
  · refine chromeMachine.invariant hsafe ?_ (chromeMachine_stable _) ?_ h
    · rintro w rfl hsent
      cases hsent
    · intro c e w a w' hw hdue hassume hact
      obtain ⟨rfl, rfl⟩ := chromeMachine_act hact
      exact hw.after hdue (fun msg hmsg => hassume.early msg hmsg) _
  · obtain ⟨c, k, hop, hc⟩ := waiting_iff.mp hs
    have hdue := chromeMachine.always hsafe h hop
    change due s.2 c.action at hdue
    rw [hc] at hdue
    exact HostSessionUx.chrome_of_not_connected hdue

end

/-! ## An agent that is early -/

/-- **The agent pumps in the round in which it reports that it is connected**, so before the service
can mark the session. -/
theorem heartbeat_pumps {π : Type} {C : Crypto} {T : PeerTransport π} {J : Codec}
    {ans : ServeAnswers π} {agent agent' : AgentSession π} {sid? : Option String}
    {reply : ControlMessage}
    (h : agent.handle C T J ans.agent (.queryStats sid?) = some (reply, agent'))
    (hconnected : statsConnected reply = true) (hmedia : agent'.state.mediaStarted = true)
    (wire : List ControlMessage) :
    pumpAfter T ans (.queryStats sid?) ⟨agent', wire⟩ =
      ⟨AgentSession.pumpMedia T ans.capture 3 { agent' with
        manager := after (SessionManager.waitReady T 200) agent'.manager }, wire⟩ := by
  have hpath : T.connectionState agent'.manager.peer = .connected := by
    -- only stats say that the transport is connected
    obtain ⟨stats, rfl⟩ : ∃ stats, reply = .statsPush stats := by
      cases reply <;> first | exact ⟨_, rfl⟩ | cases hconnected
    unfold AgentSession.handle at h
    dsimp only at h
    split_ifs at h with hpositive
    · unfold AgentSession.drive at h
      dsimp only at h
      split at h
      · obtain ⟨hstats, rfl⟩ := Prod.mk.inj (Option.some.inj h)
        obtain rfl := ControlMessage.statsPush.inj hstats
        have hstr := of_decide_eq_true hconnected
        rcases hstate : T.connectionState agent.manager.peer <;>
          simp [AgentSession.enrichStats, hstate, ConnectionState.asStr] at hstr
        rfl
      · rename_i hnone
        exact absurd (Prod.mk.inj (Option.some.inj h)).1 (hnone stats)
    · rw [(Prod.mk.inj (Option.some.inj h)).1] at hpositive
      exact absurd rfl hpositive
  unfold pumpAfter
  rw [if_pos ⟨rfl, hmedia, hpath⟩]

/-! ## Runs of the service -/

/-- A step on which no caller gives up, the tray is not asked to exit, and no media is early. -/
def toldStep (s : Prog HostCall (fun c => HostAnswer c.action) (Except String Nat) × ChromeWorld) :
    Event ChromeAnswers Empty → Bool
  | .act e =>
    match s.1 with
    | .op c _ => (c.givesUp (e.answers c.action)).isNone && (!e.sends || s.2.marked) &&
      match c.action with
      | .takeExit => false
      | _ => true
    | _ => true
  | .interfere _ => true

/-- On such a step the tray is told. -/
theorem tellsTray_of_toldStep (cfg : WsHostConfig)
    {s : Prog HostCall (fun c => HostAnswer c.action) (Except String Nat) × ChromeWorld}
    {e : Event ChromeAnswers Empty} (h : toldStep s e = true) :
    (mandatoryChrome cfg).Assumed s e := by
  obtain ⟨p, w⟩ := s
  rcases e with e | i
  · rcases p with a | ⟨⟨o, givesUp⟩, k⟩ | _
    · trivial
    · obtain ⟨hboth, hexit⟩ := Bool.and_eq_true_iff.mp h
      obtain ⟨hnone, hearly⟩ := Bool.and_eq_true_iff.mp hboth
      refine ⟨fun text htext => ?_, ?_, fun msg _ _ hsends => ?_⟩
      · rw [htext] at hnone
        cases hnone
      · rintro rfl
        cases hexit
      · rw [hsends] at hearly
        exact hearly
    · trivial
  · trivial

/-- A service with a tray, whose sessions send one frame from this process or from an agent. -/
def demoTrayService (agentControl : Bool) : WsHostConfig :=
  ⟨1, 0, true, false, agentControl, true, none, none⟩

/-- The service with a tray before its first step. -/
def demoTrayStart (agentControl : Bool) (n : Nat) :
    Prog HostCall (fun c => HostAnswer c.action) (Except String Nat) × ChromeWorld :=
  ((runWsHostService (demoTrayService agentControl) demoText n).run, .new)

/-- A step with what is received, and whether media is sent. -/
def demoStep (received : Except SignalingError SignalMessage) (sends : Bool) :
    Event ChromeAnswers Empty :=
  .act ⟨demoAnswers received false, sends⟩

/-- A number of steps without media or messages. -/
def demoSteps (n : Nat) : List (Event ChromeAnswers Empty) :=
  List.replicate n (demoStep (.error .closed) false)

/-- The hello is answered, a session is accepted, and the tray is told. -/
def demoBegun (sid : String) : List (Event ChromeAnswers Empty) :=
  demoStep (.ok (.helloOk "" .null)) false :: demoSteps 2 ++
    demoStep (.ok (.sessionIncoming sid 1 .null .otp .ok)) false :: demoSteps 4

/-- A session in this process, from the offerer to the mark. -/
def demoMarked (sid : String) : List (Event ChromeAnswers Empty) :=
  demoSteps 8 ++ demoStep (.ok (.sessionAnswer sid 3 "v=0")) false :: demoSteps 11

/-- A step in which no offerer can be created, and no media be pumped to the end. -/
def demoFailure (sends : Bool) : Event ChromeAnswers Empty :=
  .act ⟨fun
    | .createOfferer => .error .closed
    | .pumpMedia _ => .error (.transport .closed)
    | o => demoAnswers (.error .closed) false o, sends⟩

/-- A step of an agent that offers a session and reports that it is connected. -/
def demoAgentStep (sends : Bool) : Event ChromeAnswers Empty :=
  .act ⟨fun
    | .agentRequest (.startMedia ..) => .ok (.ack ⟨none, none⟩,
        [.signalForward ⟨"s", SignalKind.sessionOffer, "v=0", .agent⟩])
    | .agentRequest (.queryStats _) => .ok (.statsPush
        ⟨"s", none, none, none, some "connected", none, none, none⟩, [])
    | o => demoAnswers (.error .closed) false o, sends⟩

/-- A session in this process sends its frame. -/
def demoFrame : List (Event ChromeAnswers Empty) :=
  demoSteps 4 ++ demoBegun "s" ++ demoMarked "s" ++ [demoStep (.error .closed) true]

/-- An agent sends media after the query that finds it connected. -/
def demoEarly : List (Event ChromeAnswers Empty) :=
  demoSteps 5 ++ demoBegun "s" ++ List.replicate 6 (demoAgentStep false) ++
    demoStep (.ok (.sessionAnswer "s" 3 "v=0")) false :: List.replicate 4 (demoAgentStep false) ++
      [demoAgentStep true]

/-- The first session has no offerer, and the second one sends its frame. -/
def demoStale : List (Event ChromeAnswers Empty) :=
  demoSteps 4 ++ demoBegun "s" ++ [demoFailure false] ++ demoSteps 3 ++ demoBegun "t" ++
    demoMarked "t" ++ [demoStep (.error .closed) true]

/-- The frame of a session fails after a packet, and the service connects again. -/
def demoLeft : List (Event ChromeAnswers Empty) :=
  demoSteps 4 ++ demoBegun "s" ++ demoMarked "s" ++ [demoFailure true] ++ demoSteps 3 ++
    [demoStep (.ok (.helloOk "" .null)) false]

/-- The session whose frame is sent is shown. -/
theorem session_chrome_frame : ∃ s, (chromeMachine.system
      (serviceRuns (demoTrayService false) demoText) (· = .new)).ReachableVia
        (mandatoryChrome (demoTrayService false)).Assumed s ∧
    s.2.serving = some "s" ∧ s.2.sent = true ∧ ∃ label, s.2.ux.chrome = .active "s" label := by
  have hrun : (((chromeMachine.system (serviceRuns (demoTrayService false) demoText)
      (· = .new)).restrict toldStep).runFrom (demoTrayStart false 4) demoFrame).any
        (fun s => decide (s.2.serving = some "s") && s.2.sent) = true := by
    decide +kernel
  obtain ⟨s, hs, hafter⟩ := (Option.any_eq_true _ _).mp hrun
  obtain ⟨hserving, hsent⟩ := Bool.and_eq_true_iff.mp hafter
  have hinit : ((chromeMachine.system (serviceRuns (demoTrayService false) demoText)
      (· = .new)).restrict toldStep).Reachable (demoTrayStart false 4) :=
    .init ⟨⟨4, rfl⟩, rfl⟩
  have hvia := System.reachableVia_of_restrict
    (fun _ _ h => tellsTray_of_toldStep (demoTrayService false) h)
    (System.reachable_of_runFrom hinit hs)
  have hshown := (session_chrome rfl hvia).1
  exact ⟨s, hvia, of_decide_eq_true hserving, hsent,
    hshown hsent "s" (of_decide_eq_true hserving)⟩

/-- **The indicator is missing**: an agent sends media before its session is marked; a session that
has failed without a word to the tray is shown in place of the next one; and the host waits for a
session while the one that has failed is shown. -/
theorem session_chrome_missing :
    (¬∀ s, (chromeMachine.system (serviceRuns (demoTrayService true) demoText)
      (· = .new)).Reachable s → s.2.Shown) ∧
    (¬∀ s, (chromeMachine.system (serviceRuns (demoTrayService false) demoText)
      (· = .new)).Reachable s → s.2.Shown) ∧
    ¬∀ s, (chromeMachine.system (serviceRuns (demoTrayService false) demoText)
      (· = .new)).Reachable s → waiting s.1 = true → s.2.ux.chrome = .inactive := by
  have hinit : ∀ agentControl, (chromeMachine.system
      (serviceRuns (demoTrayService agentControl) demoText) (· = .new)).Reachable
        (demoTrayStart agentControl 4) :=
    fun agentControl => .init ⟨⟨4, rfl⟩, rfl⟩
  refine ⟨fun hclaim => ?_, fun hclaim => ?_, fun hclaim => ?_⟩
  · have hrun : ((chromeMachine.system (serviceRuns (demoTrayService true) demoText)
        (· = .new)).runFrom (demoTrayStart true 4) demoEarly).any (fun s =>
          decide (s.2 = ⟨⟨⟨true, false, some "s", none⟩⟩, some "s", false, true⟩)) = true := by
      decide +kernel
    obtain ⟨s, hs, hafter⟩ := (Option.any_eq_true _ _).mp hrun
    have hshown := hclaim s (System.reachable_of_runFrom (hinit true) hs)
    rw [of_decide_eq_true hafter] at hshown
    obtain ⟨label, hlabel⟩ := hshown rfl "s" rfl
    cases hlabel
  · have hrun : ((chromeMachine.system (serviceRuns (demoTrayService false) demoText)
        (· = .new)).runFrom (demoTrayStart false 4) demoStale).any (fun s =>
          decide (s.2 = ⟨⟨⟨true, true, some "s", none⟩⟩, some "t", true, true⟩)) = true := by
      decide +kernel
    obtain ⟨s, hs, hafter⟩ := (Option.any_eq_true _ _).mp hrun
    have hshown := hclaim s (System.reachable_of_runFrom (hinit false) hs)
    rw [of_decide_eq_true hafter] at hshown
    obtain ⟨label, hlabel⟩ := hshown rfl "t" rfl
    exact absurd (SessionChrome.active.inj hlabel).1 (by decide)
  · have hrun : ((chromeMachine.system (serviceRuns (demoTrayService false) demoText)
        (· = .new)).runFrom (demoTrayStart false 4) demoLeft).any (fun s =>
          waiting s.1 && decide (s.2.ux.chrome = .active "s" none)) = true := by
      decide +kernel
    obtain ⟨s, hs, hafter⟩ := (Option.any_eq_true _ _).mp hrun
    obtain ⟨hwaiting, hchrome⟩ := Bool.and_eq_true_iff.mp hafter
    have hinactive := hclaim s (System.reachable_of_runFrom (hinit false) hs) hwaiting
    rw [of_decide_eq_true hchrome] at hinactive
    cases hinactive

end RemoteLink.Host
