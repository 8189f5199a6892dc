import RemoteLink.Host.ServiceLoop
import RemoteLink.Net.Mock
import RemoteLink.Server.Otp

set_option autoImplicit false

/-!
# The code on display

The host shows one code at a time. The server consumes its row when the host accepts the session of
an intent that carried the code, and the host consumes its own window when it authorizes the session
over the data channel. A new code is opened when the service starts, and after a session that has
completed.

## Main definitions

* `CodeWorld` — the host's window and the server's rows.
* `Usable` — the code that was opened last is consumed on neither side.
* `codeMachine` — the runs of the service with its code, among the intents of viewers and the codes
  of other hosts.
* `KeepsCode` — the answers after which the service waits with a usable code.

## Main results

* `code_usable` — in a run of such answers, the code is usable whenever the host waits for a session.
* `code_used` — when a viewer with the code does not answer, the host waits with a consumed code.
-/

namespace RemoteLink.Host

open Library Protocol Auth Net Platform Signaling Server

/-! ## The code of a running service -/

/-- The host's policy, and the rows of the server. -/
structure CodeWorld where
  hub : LiveOtpHub
  store : OtpStore

/-- What the surroundings answer: the answers of operations that do not touch the code, the host's
random source and clock, the session's manager and the nonce of its challenge, the server's clock and
whether its registry takes an accept. -/
structure CodeAnswers (π : Type) where
  answer : (o : HostAction) → HostAnswer o
  rng : Nat → Fin 10
  salt : Bytes
  hostNow : Nat
  manager : SessionManager π
  nonce : Bytes
  serverNow : Time
  registered : Bool

/-- What happens at the server meanwhile: the prefilter of an intent, or a host publishes a hash or
accepts a session. -/
inductive OtpEvent where
  | prefilter (host : Int) (code : String) (pepper : Bytes) (sid : String) (now : Time)
  | storeHash (host : Int) (hash : OtpHash) (expiresAt now : Time)
  | consume (host : Int) (sid : String) (now : Time)

section

variable {π : Type} (C : Crypto) (T : PeerTransport π) (host : Int)

/-- An operation of the host: its answer, and the code after it. -/
def codeStep : (o : HostAction) → CodeAnswers π → CodeWorld → HostAnswer o × CodeWorld
  | .enableUnattended secret, _, w =>
    ((w.hub.enableUnattended secret).1, { w with hub := (w.hub.enableUnattended secret).2 })
  | .mintLocal, e, w =>
    ((w.hub.mintLocal C e.rng e.salt e.hostNow).1,
      { w with hub := (w.hub.mintLocal C e.rng e.salt e.hostNow).2 })
  | .authorize mode, e, w =>
    ((w.hub.authorizeSession C T e.nonce e.hostNow mode e.manager).1,
      { w with hub := (w.hub.authorizeSession C T e.nonce e.hostNow mode e.manager).2.1 })
  | .postOtpHash publicId accessToken hash ttlSecs, e, w =>
    match e.answer (.postOtpHash publicId accessToken hash ttlSecs) with
    | .ok () => (.ok (), { w with
        store := (w.store.storeHash host hash (e.serverNow + ttlSecs * second) e.serverNow).2 })
    | .error text => (.error text, w)
  | .send (.sessionAccept sid seq), e, w =>
    match e.answer (.send (.sessionAccept sid seq)) with
    | .ok () => (.ok (), if e.registered then
        { w with store := (w.store.consumeForSession host sid e.serverNow).2 } else w)
    | .error err => (.error err, w)
  | o, e, w => (e.answer o, w)

/-- What an event at the server changes. The rows of this host are written by its own service only,
apart from prefilters. -/
def otpStep (w : CodeWorld) : OtpEvent → Option CodeWorld
  | .prefilter other code pepper sid now =>
    some { w with store := (OtpStore.prefilterBind C w.store other code pepper sid now).2 }
  | .storeHash other hash expiresAt now =>
    if other = host then none
    else some { w with store := (w.store.storeHash other hash expiresAt now).2 }
  | .consume other sid now =>
    if other = host then none
    else some { w with store := (w.store.consumeForSession other sid now).2 }

/-- The service with its code, at a server with other hosts. -/
def codeMachine : Machine HostCall (fun c => HostAnswer c.action) CodeWorld (CodeAnswers π)
    OtpEvent :=
  announced ⟨fun o e w => some (codeStep C T host o e w), fun i w => otpStep C host w i⟩

/-- **The code that was opened last is consumed on neither side**: the host's window is open, and the
server has its hash in a row that is not consumed. -/
def Usable (w : CodeWorld) : Prop :=
  ∃ window, w.hub.policy.activeOtp = some window ∧ window.isConsumed = false ∧
    w.store.LiveRow host window.hash

/-- Codes are opened and published whenever the host tries to. -/
structure MintsCode (c : HostCall) (e : CodeAnswers π) (w : CodeWorld) : Prop where
  minted : c.action = .mintLocal → ∃ r, (w.hub.mintLocal C e.rng e.salt e.hostNow).1 = .ok r
  posted : ∀ publicId accessToken hash ttlSecs,
    c.action = .postOtpHash publicId accessToken hash ttlSecs →
      e.answer (.postOtpHash publicId accessToken hash ttlSecs) = .ok ()

/-- **The answers after which the service has a usable code when it waits**: codes are opened and
published, no caller gives up once the code is consumed if the service waits again after that, and
neither does the tray end a session then, unless the host exits. -/
structure KeepsCode (cfg : WsHostConfig) (c : HostCall) (e : CodeAnswers π) (w : CodeWorld) :
    Prop extends MintsCode C c e w where
  failure : ∀ text, c.givesUp (codeStep C T host c.action e w).1 = some text →
    cfg.aftermath text = .waits ∨ cfg.aftermath text = .reconnects →
      Usable host (codeStep C T host c.action e w).2
  tray : c.action = .takeExit → e.answer .takeExit = false → cfg.isMulti = true → Usable host w

/-- What holds while the host waits: the server's rows are in order, and the code is usable. -/
def CodeReady (w : CodeWorld) : Prop := w.store.WellIndexed ∧ Usable host w

/-- What holds after a session has failed with a text. -/
def CodeLost (cfg : WsHostConfig) (text : String) (w : CodeWorld) : Prop :=
  w.store.WellIndexed ∧
    (cfg.aftermath text = .waits ∨ cfg.aftermath text = .reconnects → Usable host w)

end

/-! ## What operations and events keep -/

/-- The operations that do not touch the code. -/
def leavesCode : HostAction → Bool
  | .enableUnattended _ | .mintLocal | .authorize _ | .postOtpHash .. | .send (.sessionAccept ..) =>
    false
  | _ => true

section

variable {π : Type} {C : Crypto} {T : PeerTransport π} {host : Int} {cfg : WsHostConfig}
  {X : HostText} {c : HostCall} {e : CodeAnswers π} {w w' : CodeWorld} {a : HostAnswer c.action}

/-- A step has the answer and the effect of its operation. -/
theorem codeMachine_act (h : (codeMachine C T host).act c e w = some (a, w')) :
    a = (codeStep C T host c.action e w).1 ∧ w' = (codeStep C T host c.action e w).2 := by
  have hstep : codeStep C T host c.action e w = (a, w') := Option.some.inj h
  rw [hstep]
  exact ⟨rfl, rfl⟩

theorem codeStep_leaves {o : HostAction} (ho : leavesCode o = true) :
    codeStep C T host o e w = (e.answer o, w) := by
  unfold codeStep
  split
  all_goals first | rfl | cases ho

/-- No operation puts the rows out of order. -/
theorem codeStep_wellIndexed (o : HostAction) (h : w.store.WellIndexed) :
    (codeStep C T host o e w).2.store.WellIndexed := by
  unfold codeStep
  split
  · exact h
  · exact h
  · exact h
  · split
    · exact h.storeHash _ _ _ _
    · exact h
  · split
    · dsimp only
      split_ifs
      · exact h.consumeForSession _ _ _
      · exact h
    · exact h
  · exact h

theorem wellIndexed_stable : (codeMachine C T host).Stable fun w => w.store.WellIndexed := by
  intro i w w' hw hi
  cases i with
  | prefilter other code pepper sid now =>
    obtain rfl := Option.some.inj hi
    exact hw.prefilterBind _ _ _ _ _ _
  | storeHash other hash expiresAt now =>
    obtain ⟨-, hi⟩ := Option.ite_none_left_eq_some.mp hi
    obtain rfl := Option.some.inj hi
    exact hw.storeHash _ _ _ _
  | consume other sid now =>
    obtain ⟨-, hi⟩ := Option.ite_none_left_eq_some.mp hi
    obtain rfl := Option.some.inj hi
    exact hw.consumeForSession _ _ _

/-- What happens at the server does not touch the host. -/
theorem otpStep_hub {i : OtpEvent} (h : (codeMachine C T host).interfere i w = some w') :
    w'.hub = w.hub := by
  cases i with
  | prefilter other code pepper sid now =>
    obtain rfl := Option.some.inj h
    rfl
  | storeHash other hash expiresAt now =>
    obtain ⟨-, h⟩ := Option.ite_none_left_eq_some.mp h
    obtain rfl := Option.some.inj h
    rfl
  | consume other sid now =>
    obtain ⟨-, h⟩ := Option.ite_none_left_eq_some.mp h
    obtain rfl := Option.some.inj h
    rfl

/-- What happens at the server leaves a usable code usable. -/
theorem codeReady_stable : (codeMachine C T host).Stable (CodeReady host) := by
  intro i w w' hw hi
  have hindexed : w'.store.WellIndexed := wellIndexed_stable i w w' hw.1 hi
  obtain ⟨hw, window, hwindow, hconsumed, hlive⟩ := hw
  refine ⟨hindexed, window, ?_⟩
  cases i with
  | prefilter other code pepper sid now =>
    obtain rfl := Option.some.inj hi
    exact ⟨hwindow, hconsumed, hlive.prefilterBind⟩
  | storeHash other hash expiresAt now =>
    obtain ⟨hne, hi⟩ := Option.ite_none_left_eq_some.mp hi
    obtain rfl := Option.some.inj hi
    exact ⟨hwindow, hconsumed, hlive.storeHash hw hne⟩
  | consume other sid now =>
    obtain ⟨hne, hi⟩ := Option.ite_none_left_eq_some.mp hi
    obtain rfl := Option.some.inj hi
    exact ⟨hwindow, hconsumed, hlive.consumeForSession hw hne⟩

theorem codeLost_stable (t : String) : (codeMachine C T host).Stable (CodeLost host cfg t) :=
  fun i w w' hw hi => ⟨wellIndexed_stable i w w' hw.1 hi,
    fun ht => (codeReady_stable i w w' ⟨hw.1, hw.2 ht⟩ hi).2⟩

/-! ## What the service keeps -/

/-- An operation that does not touch the code keeps a usable code. -/
theorem codeReady_leaves (hc : leavesCode c.action = true) (hw : CodeReady host w)
    (hact : (codeMachine C T host).act c e w = some (a, w')) : CodeReady host w' := by
  obtain ⟨-, rfl⟩ := codeMachine_act hact
  rw [codeStep_leaves hc]
  exact hw

/-- The actions of a session leave the rows in order, and errors leave the code usable where the
service waits again. -/
theorem handling_code {α : Type} {p : HostM α} (hp : Handling p) :
    Spec (codeMachine C T host) (waitingOnlyIf (KeepsCode C T host cfg) (CodeReady host))
      (fun w => w.store.WellIndexed) p (fun _ w => w.store.WellIndexed) (CodeLost host cfg) := by
  refine hp.spec wellIndexed_stable codeLost_stable ?_ ?_
  · intro c w e a w' _ hw hassume hact
    obtain ⟨rfl, rfl⟩ := codeMachine_act hact
    have hindexed := @codeStep_wellIndexed π C T host e w c.action hw
    exact ⟨hindexed, fun t ht => ⟨hindexed, hassume.failure t ht⟩⟩
  · intro c t w e a w' hc hw _ hact
    obtain ⟨-, rfl⟩ := codeMachine_act hact
    have hleaves : leavesCode c.action = true := by
      revert hc
      rcases c with ⟨o, g⟩
      cases o <;> first | exact fun _ => rfl | exact fun h => by cases h
    rw [codeStep_leaves hleaves]
    exact hw

/-- Accepting a session: the code is usable until then. -/
theorem accept_code (n : Nat) :
    Spec (codeMachine C T host) (waitingOnlyIf (KeepsCode C T host cfg) (CodeReady host))
      (CodeReady host) (acceptIncomingSession n) (fun _ w => w.store.WellIndexed)
      (CodeLost host cfg) := by
  refine acceptIncomingSession_spec codeReady_stable codeLost_stable (fun _ _ _ hw _ => hw) ?_
    (fun t w hw => ⟨hw.1, fun _ => hw.2⟩) (fun _ => wellIndexed_stable) ?_ n
  · intro c w e a w' hc hw _ hact
    refine codeReady_leaves ?_ hw hact
    revert hc
    rcases c with ⟨o, g⟩
    cases o <;> first | exact fun _ => rfl | exact fun h => by cases h
  · intro sid mode seq
    refine .use codeReady_stable (fun _ => wellIndexed_stable) codeLost_stable
      (fun _ _ hwait => by cases hwait) ?_
    intro w e a w' hw _ hact
    obtain ⟨rfl, rfl⟩ := codeMachine_act hact
    have hindexed := @codeStep_wellIndexed π C T host e w
      (.send (.sessionAccept sid seq)) hw.1
    simp only [codeStep] at hindexed ⊢
    rcases hsend : e.answer (.send (.sessionAccept sid seq)) with err | u
    · exact ⟨hw.1, fun _ => hw.2⟩
    · rw [hsend] at hindexed
      exact hindexed

/-- A session that completes leaves the rows in order. -/
theorem handleOneSession_code (n : Nat) :
    Spec (codeMachine C T host) (waitingOnlyIf (KeepsCode C T host cfg) (CodeReady host))
      (CodeReady host) (handleOneSession cfg X n) (fun _ w => w.store.WellIndexed)
      (CodeLost host cfg) := by
  unfold handleOneSession
  split_ifs
  · refine .bind (accept_code n) codeLost_stable fun ⟨sid, mode⟩ => ?_
    exact handling_code (Serving.handling (.bind (runSessionAgent_serving n) fun _ =>
      .bind (detachAgent_serving _) fun _ => .bind (endWssSession_serving _) fun _ =>
        tellTray_serving _))
  · refine .bind (accept_code n) codeLost_stable fun ⟨sid, mode⟩ => ?_
    exact handling_code (.bind (runSessionLocal_handling n mode) fun _ =>
      (concludeSessionLocal_serving _ _).handling)

/-- A code that has been opened is not consumed, and its hash is the one to publish. -/
theorem mintLocal_ok {hub : LiveOtpHub} {rng : Nat → Fin 10} {salt : Bytes} {now : Nat}
    {code : String} {hash : OtpHash} (h : (hub.mintLocal C rng salt now).1 = .ok (code, hash)) :
    ∃ window, (hub.mintLocal C rng salt now).2.policy.activeOtp = some window ∧
      window.isConsumed = false ∧ window.hash = hash := by
  unfold LiveOtpHub.mintLocal HostAuthService.mintOtp at h ⊢
  dsimp only at h ⊢
  rcases hmint : mintOtpRecord C hub.policy.config.otpDigits hub.policy.otpPepper
    (min (now + max hub.policy.config.otpTtlSecs 1) 18446744073709551615) rng salt
    with e | ⟨code', record⟩
  · simp [hmint] at h
  · simp only [hmint, Except.ok.injEq, Prod.mk.injEq] at h ⊢
    exact ⟨_, rfl, (mintOtpRecord_ok hmint).2, h.2⟩

/-- **A new code is usable** once it is opened and published. -/
theorem maybeMintOtp_code {assume : HostCall → CodeAnswers π → CodeWorld → Prop}
    {lost : String → CodeWorld → Prop} (hassume : ∀ c e w, assume c e w → MintsCode C c e w)
    (hlost : ∀ t, (codeMachine C T host).Stable (lost t)) (hmint : cfg.mintOtp = true)
    (enrolled : EnrolledHost) :
    Spec (codeMachine C T host) (waitingOnlyIf assume (CodeReady host))
      (fun w => w.store.WellIndexed) (maybeMintOtp cfg enrolled) (fun _ => CodeReady host) lost := by
  unfold maybeMintOtp
  rw [if_pos hmint]
  have hopened : ∀ hash : OtpHash, (codeMachine C T host).Stable fun w => w.store.WellIndexed ∧
      ∃ window, w.hub.policy.activeOtp = some window ∧ window.isConsumed = false ∧
        window.hash = hash := by
    rintro hash i w w' ⟨hw, hwindow⟩ hi
    refine ⟨wellIndexed_stable i w w' hw hi, ?_⟩
    rw [otpStep_hub hi]
    exact hwindow
  -- the hash that is published is the one of the window
  refine .bind (Ψ := fun r w => w.store.WellIndexed ∧ ∃ window,
    w.hub.policy.activeOtp = some window ∧ window.isConsumed = false ∧ window.hash = r.2) ?_
    hlost fun ⟨code, hash⟩ => ?_
  · refine .use wellIndexed_stable (fun r => ?_) hlost (fun _ _ hwait => by cases hwait) ?_
    · exact hopened r.2
    · intro w e a w' hw ha hact
      obtain ⟨rfl, rfl⟩ := codeMachine_act hact
      obtain ⟨⟨code, hash⟩, hr⟩ := (hassume _ _ _ ha).minted rfl
      dsimp only [codeStep, id]
      rw [hr]
      exact ⟨hw, mintLocal_ok hr⟩
  · refine .bind (Ψ := fun _ => CodeReady host) ?_ hlost fun _ => ?_
    · refine .use (hopened hash) (fun _ => codeReady_stable) hlost
        (fun _ _ hwait => by cases hwait) ?_
      intro w e a w' hw ha hact
      obtain ⟨rfl, rfl⟩ := codeMachine_act hact
      have hposted := (hassume _ _ _ ha).posted _ _ _ _ rfl
      obtain ⟨hindexed, window, hwindow, hconsumed, hhash⟩ := hw
      dsimp only [codeStep]
      rw [hposted]
      refine ⟨hindexed.storeHash _ _ _ _, window, hwindow, hconsumed, ?_⟩
      rw [hhash]
      exact OtpStore.liveRow_storeHash
    · unfold tellTray
      split_ifs
      · refine .call codeReady_stable (fun _ => codeReady_stable) (fun _ _ hwait => by cases hwait)
          fun w e a w' hw _ hact => ?_
        exact codeReady_leaves (c := ⟨.tray (.setOtp code), fun _ => none⟩) rfl hw hact
      · exact .pure codeReady_stable fun _ hw => hw

/-- The service keeps its code usable. -/
theorem upkeep_code (hlive : cfg.videoFrames = 0) (hmint : cfg.mintOtp = true) :
    Upkeep cfg X (codeMachine C T host) (KeepsCode C T host cfg) (CodeReady host)
      (fun w => w.store.WellIndexed) (CodeLost host cfg) where
  cleanStable := codeReady_stable
  doneStable := wellIndexed_stable
  lostStable := codeLost_stable
  session n := handleOneSession_code n
  remint enrolled := by
    unfold remintAfter
    rw [if_pos ⟨hlive, hmint⟩]
    refine Spec.ignoring (L := waitingOnlyIf (MintsCode C) (CodeReady host)) ?_ (fun _ _ h => h)
      codeReady_stable (maybeMintOtp_code (fun _ _ _ h => h) (fun _ => codeReady_stable) hmint
        enrolled)
    exact fun c e w h => ⟨h.minted, h.posted⟩
  connect c w e a w' hc hw _ hact := by
    refine codeReady_leaves ?_ hw hact
    revert hc
    rcases c with ⟨o, g⟩
    cases o with
    | send msg => cases msg <;> first | exact fun _ => rfl | exact fun h => by cases h
    | _ => first | exact fun _ => rfl | exact fun h => by cases h
  waits t w ht hw := ⟨hw.1, hw.2 (.inl ht)⟩
  asksTray t ht := by
    have hstable : ∀ exits : Bool,
        (codeMachine C T host).Stable fun w => exits = false → CodeReady host w :=
      fun exits i w w' hw hi hexits => codeReady_stable i w w' (hw hexits) hi
    refine .call (codeLost_stable t) hstable (fun _ _ hwait => by cases hwait) ?_
    intro w e exits w' hw hassume hact hexits
    obtain ⟨rfl, rfl⟩ := codeMachine_act hact
    refine ⟨hw.1, hassume.tray rfl hexits ?_⟩
    by_contra hmulti
    unfold WsHostConfig.aftermath at ht
    split_ifs at ht
  reconnects t ht := by
    refine .call (codeLost_stable t) (fun _ => codeReady_stable) (fun _ _ hwait => by cases hwait)
      fun w e a w' hw _ hact => ?_
    exact codeReady_leaves (c := ⟨.close, fun _ => none⟩) rfl ⟨hw.1, hw.2 (.inr ht)⟩ hact

/-- What precedes the first connection leaves the rows in order. -/
theorem starts_code {α : Type} {p : HostM α}
    (hp : Within (fun o => starts o = true) (fun _ => False) p.run) :
    Spec (codeMachine C T host) (waitingOnlyIf (KeepsCode C T host cfg) (CodeReady host))
      (fun w => w.store.WellIndexed) p (fun _ w => w.store.WellIndexed) fun _ _ => True := by
  refine Within.spec hp wellIndexed_stable (fun _ _ _ _ _ _ => trivial) ?_ ?_
    (fun _ _ _ hfalse => hfalse.elim) fun _ _ _ _ _ _ hfalse => hfalse.elim
  · intro c w hc _ hwait
    rw [hwait] at hc
    cases hc
  · intro c w e a w' _ hw _ hact
    obtain ⟨-, rfl⟩ := codeMachine_act hact
    exact ⟨codeStep_wellIndexed _ hw, fun _ _ => trivial⟩

/-- The service starts with a usable code. -/
theorem startHost_code (hmint : cfg.mintOtp = true) :
    Spec (codeMachine C T host) (waitingOnlyIf (KeepsCode C T host cfg) (CodeReady host))
      (fun w => w.store.WellIndexed) (startHost cfg) (fun _ => CodeReady host)
      fun _ _ => True := by
  have htrue : ∀ _ : String, (codeMachine C T host).Stable fun _ => True :=
    fun _ _ _ _ _ _ => trivial
  refine .bind (starts_code (.use (A := fun o => starts o = true) rfl _)) htrue fun enrolled => ?_
  refine .bind (starts_code (tellTray_within rfl)) htrue fun _ => ?_
  refine .bind (starts_code (enableConfigured_within (fun _ => rfl) cfg)) htrue fun _ => ?_
  refine .bind (maybeMintOtp_code (fun _ _ _ h => h.toMintsCode) htrue hmint enrolled) htrue
    fun _ => ?_
  refine .bind (Ψ := fun _ => CodeReady host) ?_ htrue fun _ => .pure codeReady_stable fun _ h => h
  refine Within.spec (connectAgent_within (A := fun o => o = .agentConnect) (B := fun _ => False)
    rfl cfg) codeReady_stable htrue ?_ ?_ (fun _ _ _ hfalse => hfalse.elim)
    fun _ _ _ _ _ _ hfalse => hfalse.elim
  · intro c w hc _ hwait
    rw [hwait] at hc
    cases hc
  · intro c w e a w' hc hw _ hact
    refine ⟨codeReady_leaves ?_ hw hact, fun _ _ => trivial⟩
    rw [hc]
    rfl

/-- A service before its first step, at a server whose rows are in order. -/
def codeStart (w : CodeWorld) : Prop := w.hub = .new ∧ w.store.WellIndexed

/-- **The code on display stays usable**: in every run in which codes are opened and published and no
session fails once its code is consumed, the code that was opened last is consumed neither at the
host nor at the server whenever the host waits for a session. -/
theorem code_usable (hlive : cfg.videoFrames = 0) (hmint : cfg.mintOtp = true)
    {s : Prog HostCall (fun c => HostAnswer c.action) (Except String Nat) × CodeWorld}
    (h : ((codeMachine C T host).system (serviceRuns cfg X) codeStart).ReachableVia
        (waitingOnlyIf (KeepsCode C T host cfg) (CodeReady host)).Assumed s)
    (hs : waiting s.1 = true) : Usable host s.2 := by
  have hstart := (@startHost_code π C T host cfg hmint).conseq
    (fun w (hw : codeStart w) => hw.2) (fun _ _ h => h) fun _ _ h => h
  exact ((upkeep_code hlive hmint).always hstart h hs).2

end

/-! ## Two runs -/

/-- A service without end, with live sessions and codes. -/
def demoLive : WsHostConfig := ⟨0, 0, true, true, false, false, none, none⟩

/-- Surroundings in which everything succeeds, with what is received and whether the time has
elapsed. -/
def demoCodeAnswers (received : Except SignalingError SignalMessage) (elapsed : Bool) :
    Event (CodeAnswers MockPeer) OtpEvent :=
  .act ⟨demoAnswers received elapsed, fun _ => ⟨0, by decide⟩, List.replicate 16 0, 0,
    demoManager.attach "s" (.ok ()) 0, List.replicate 32 0, 0, true⟩

/-- From the start to the offer of a session whose viewer has entered the code. -/
def demoCodeOffered : List (Event (CodeAnswers MockPeer) OtpEvent) :=
  List.replicate 3 (demoCodeAnswers (.error .closed) false) ++
    .interfere (.prefilter 7 "000000" defaultHostOtpPepper "s" 0) ::
    List.replicate 2 (demoCodeAnswers (.error .closed) false) ++
    demoCodeAnswers (.ok (.helloOk "" .null)) false ::
    List.replicate 2 (demoCodeAnswers (.error .closed) false) ++
    demoCodeAnswers (.ok (.sessionIncoming "s" 1 .null .otp .ok)) false ::
    List.replicate 10 (demoCodeAnswers (.error .closed) false)

/-- The viewer answers, is authorized, and hangs up; a new code is opened. -/
def demoCodeCompleted : List (Event (CodeAnswers MockPeer) OtpEvent) :=
  demoCodeOffered ++ demoCodeAnswers (.error .closed) false ::
    demoCodeAnswers (.ok (.sessionAnswer "s" 3 "v=0")) false ::
    List.replicate 12 (demoCodeAnswers (.error .closed) false) ++
    demoCodeAnswers (.ok (.sessionEnd "s" 4 "")) false ::
    List.replicate 7 (demoCodeAnswers (.error .closed) false)

/-- The service before its first step. -/
def demoCodeStart :
    Prog HostCall (fun c => HostAnswer c.action) (Except String Nat) × CodeWorld :=
  ((runWsHostService demoLive demoText 4).run, ⟨.new, .empty⟩)

/-- A step on which codes are opened and published. -/
def opensCodes (C : Crypto)
    (s : Prog HostCall (fun c => HostAnswer c.action) (Except String Nat) × CodeWorld) :
    Event (CodeAnswers MockPeer) OtpEvent → Bool
  | .act e =>
    match s.1 with
    | .op c _ =>
      match c.action with
      | .mintLocal => (s.2.hub.mintLocal C e.rng e.salt e.hostNow).1.toBool
      | .postOtpHash publicId accessToken hash ttlSecs =>
        (e.answer (.postOtpHash publicId accessToken hash ttlSecs)).toBool
      | _ => true
    | _ => true
  | .interfere _ => true

/-- A step on which no caller gives up and the tray is not asked. -/
def undisturbedStep (C : Crypto) (T : PeerTransport MockPeer) (host : Int)
    (s : Prog HostCall (fun c => HostAnswer c.action) (Except String Nat) × CodeWorld) :
    Event (CodeAnswers MockPeer) OtpEvent → Bool
  | .act e =>
    match s.1 with
    | .op c _ => (c.givesUp (codeStep C T host c.action e s.2).1).isNone &&
      match c.action with
      | .takeExit => false
      | _ => true
    | _ => true
  | .interfere _ => true

section

variable {C : Crypto} {T : PeerTransport MockPeer} {host : Int} {cfg : WsHostConfig}
  {s : Prog HostCall (fun c => HostAnswer c.action) (Except String Nat) × CodeWorld}
  {e : Event (CodeAnswers MockPeer) OtpEvent}

theorem mintsCode_of_opensCodes (h : opensCodes C s e = true) :
    (waitingOnlyIf (MintsCode C) (CodeReady host)).Assumed s e := by
  obtain ⟨p, w⟩ := s
  rcases e with e | i
  · rcases p with a | ⟨⟨o, givesUp⟩, k⟩ | _
    · trivial
    · constructor
      · rintro rfl
        exact exists_ok_of_toBool h
      · rintro publicId accessToken hash ttlSecs rfl
        obtain ⟨u, hu⟩ := exists_ok_of_toBool h
        exact hu
    · trivial
  · trivial

/-- Such steps keep the code usable. -/
theorem keepsCode_of_undisturbedStep
    (h : (opensCodes C s e && undisturbedStep C T host s e) = true) :
    (waitingOnlyIf (KeepsCode C T host cfg) (CodeReady host)).Assumed s e := by
  obtain ⟨hopens, hstep⟩ := Bool.and_eq_true_iff.mp h
  have hmints := @mintsCode_of_opensCodes C host s e hopens
  obtain ⟨p, w⟩ := s
  rcases e with e | i
  · rcases p with a | ⟨⟨o, givesUp⟩, k⟩ | _
    · trivial
    · obtain ⟨hnone, hkind⟩ := Bool.and_eq_true_iff.mp hstep
      refine ⟨hmints, fun text htext => ?_, ?_⟩
      · rw [htext] at hnone
        cases hnone
      · rintro rfl
        cases hkind
    · trivial
  · trivial

end

/-- A session uses up its code, and the host waits with a new one. -/
theorem code_usable_demo :
    ∃ s, waiting s.1 = true ∧ Usable 7 s.2 ∧
      (((codeMachine .transparent mockTransport 7).system (serviceRuns demoLive demoText)
        codeStart).restrict fun s e => opensCodes .transparent s e &&
          undisturbedStep .transparent mockTransport 7 s e).runFrom demoCodeStart
            demoCodeCompleted = some s := by
  have hrun : ∃ s, (((codeMachine .transparent mockTransport 7).system
      (serviceRuns demoLive demoText) codeStart).restrict fun s e =>
        opensCodes .transparent s e && undisturbedStep .transparent mockTransport 7 s e).runFrom
          demoCodeStart demoCodeCompleted = some s ∧ waiting s.1 = true := ⟨_, rfl, by decide⟩
  obtain ⟨s, hs, hwaiting⟩ := hrun
  have hinit : (((codeMachine .transparent mockTransport 7).system
      (serviceRuns demoLive demoText) codeStart).restrict fun s e =>
        opensCodes .transparent s e && undisturbedStep .transparent mockTransport 7 s e).Reachable
          demoCodeStart := .init ⟨⟨4, rfl⟩, rfl, .empty⟩
  have hvia : ((codeMachine .transparent mockTransport 7).system (serviceRuns demoLive demoText)
      codeStart).ReachableVia (waitingOnlyIf (KeepsCode .transparent mockTransport 7 demoLive)
        (CodeReady 7)).Assumed s :=
    System.reachableVia_of_restrict (fun _ _ h => keepsCode_of_undisturbedStep h)
      (System.reachable_of_runFrom hinit hs)
  exact ⟨s, hwaiting, code_usable rfl rfl hvia hwaiting, hs⟩

/-- **A code is used up**: codes are opened and published whenever the host tries to, but when a
viewer with the code does not answer, the host waits for the next session with the consumed code on
display. -/
theorem code_used :
    ¬∀ s, ((codeMachine .transparent mockTransport 7).system (serviceRuns demoLive demoText)
      codeStart).ReachableVia (waitingOnlyIf (MintsCode .transparent) (CodeReady 7)).Assumed s →
        waiting s.1 = true → Usable 7 s.2 := by
  intro h
  have hrun : ∃ s, (((codeMachine .transparent mockTransport 7).system
      (serviceRuns demoLive demoText) codeStart).restrict (opensCodes .transparent)).runFrom
        demoCodeStart (demoCodeOffered ++ [demoCodeAnswers (.error .closed) true]) = some s ∧
      waiting s.1 = true ∧
        (s.2.store.byId.entries.all fun row => row.2.consumedAt.isSome) = true :=
    ⟨_, rfl, by decide +kernel⟩
  obtain ⟨s, hs, hwaiting, hconsumed⟩ := hrun
  have hinit : (((codeMachine .transparent mockTransport 7).system
      (serviceRuns demoLive demoText) codeStart).restrict (opensCodes .transparent)).Reachable
        demoCodeStart := .init ⟨⟨4, rfl⟩, rfl, .empty⟩
  have hvia := System.reachableVia_of_restrict
    (fun _ _ h => @mintsCode_of_opensCodes .transparent 7 _ _ h) (System.reachable_of_runFrom hinit hs)
  obtain ⟨window, -, -, row, hrow, -, hlive, -⟩ := h s hvia hwaiting
  have hsome := List.all_eq_true.mp hconsumed _ (AList.mem_lookup_iff.mp hrow)
  rw [hlive] at hsome
  cases hsome

end RemoteLink.Host
