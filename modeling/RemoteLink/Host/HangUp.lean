import RemoteLink.Host.ServiceLoop

set_option autoImplicit false

/-!
# Hang-ups and requests

The host receives in several loops: while it waits for a session, while it negotiates one, and while
media is live. Each loop recognises some messages and passes over the rest. The wait takes requests
and the live loops take hang-ups; the loops of the negotiation, which have a deadline, take neither.

## Main definitions

* `Ledger`, `ledgerMachine` — what the host has received and not acted upon, during the runs of the
  service.
* `Ledger.Heeds` — what a hang-up and an open request allow the host to do.
* `Heard` — the messages that come in while the host listens for them.

## Main results

* `hang_up_heeded` — in a run of such messages the host works for no session that has ended, and
  receives nothing while a request is open.
* `hang_up_ignored` — the loops of the negotiation pass over a hang-up and a request.
-/

namespace RemoteLink.Host

open Library Protocol Auth Net Platform Signaling

/-! ## What the host has received -/

/-- Whether the host is connected, waits for a session or serves one. -/
inductive HostStage where
  | offline
  | waiting
  | serving (sid : String)
  deriving Repr, DecidableEq

/-- What the host has received: whether the session that is served has been ended by the server, and
the request that has not been answered. `timed` says whether the next receive belongs to a loop that
has just looked at its deadline. -/
structure Ledger where
  stage : HostStage
  timed : Bool
  ended : Bool
  incoming : Option String
  deriving Repr, DecidableEq

/-- The actions that apply a message to the session that is served, or pump its media, here or on
the agent. -/
def worksOn : HostAction → Bool
  | .applySignal .. | .pumpMedia _ | .pollInbound => true
  | .agentRequest msg => !wasDetach msg
  | _ => false

/-- The actions that receive a message. -/
def receives : HostAction → Bool
  | .recv _ => true
  | _ => false

/-- The message that an operation has received. -/
def received : (o : HostAction) → HostAnswer o → Option SignalMessage
  | .recv _, .ok msg => some msg
  | _, _ => none

namespace Ledger

/-- Nothing has been received. -/
def new : Ledger := ⟨.offline, false, false, none⟩

/-- A message comes in. -/
def receive (w : Ledger) : SignalMessage → Ledger
  | .sessionEnd sid _ _ => { w with ended := w.ended || decide (w.stage = .serving sid) }
  | .sessionIncoming sid .. => { w with incoming := some sid }
  | _ => w

/-- A request is answered with its own id. -/
def answer (w : Ledger) (sid : String) : Ledger :=
  { w with incoming := if w.incoming = some sid then none else w.incoming }

/-- What an operation changes. An answer counts once it has been sent, and a request ends with its
connection. -/
def after (w : Ledger) : (o : HostAction) → HostAnswer o → Ledger
  | .waitingForIncoming, _ => { w with stage := .waiting }
  | .expired, elapsed => { w with timed := !elapsed }
  | .recv _, .ok msg => { w.receive msg with timed := false }
  | .recv _, .error _ => { w with timed := false }
  | .send (.sessionAccept sid _), .ok () =>
    { w.answer sid with stage := .serving sid, ended := false }
  | .send (.sessionReject sid _ _), .ok () => w.answer sid
  | .connect, _ => { w with stage := .offline }
  | .close, _ => { w with stage := .offline, incoming := none }
  | _, _ => w

/-- **What may be due**: no work for a session that has ended, and no receive while a request is
open. -/
def Heeds (w : Ledger) (o : HostAction) : Prop :=
  (worksOn o = true → w.ended = false) ∧ (receives o = true → w.incoming = none)

/-- No request is open. -/
def Clear (w : Ledger) : Prop := w.incoming = none

/-- The host waits for a session, and no request is open. -/
def Waits (w : Ledger) : Prop := w.stage = .waiting ∧ w.incoming = none

/-- The host has received a request while it waited. -/
def Asked (sid : String) (w : Ledger) : Prop := w.stage = .waiting ∧ w.incoming = some sid

/-- A session is served, which may have ended. -/
def Held (sid : String) (w : Ledger) : Prop := w.stage = .serving sid ∧ w.incoming = none

/-- A session is served that has not ended. -/
def Engaged (sid : String) (w : Ledger) : Prop := w.Held sid ∧ w.ended = false

/-- A session is served that has not ended, and the deadline of its negotiation has not passed. -/
def Negotiates (sid : String) (w : Ledger) : Prop := w.Engaged sid ∧ w.timed = true

end Ledger

open Ledger

/-- The service with its ledger. -/
def ledgerMachine : Machine HostCall (fun c => HostAnswer c.action) Ledger
    ((o : HostAction) → HostAnswer o) Empty :=
  announced ⟨fun o e w => some (e o, w.after o (e o)), fun i _ => nomatch i⟩

/-- **The messages that come in while the host listens for them**: the session that is served is not
ended during its negotiation, a request comes in while the host waits, and an acceptance that cannot
be sent ends the connection. -/
structure Heard (cfg : WsHostConfig) (c : HostCall) (e : (o : HostAction) → HostAnswer o)
    (w : Ledger) : Prop where
  hangUp : ∀ sid seq reason, received c.action (e c.action) = some (.sessionEnd sid seq reason) →
    w.stage = .serving sid → w.timed = false
  request : ∀ sid seq info mode policy,
    received c.action (e c.action) = some (.sessionIncoming sid seq info mode policy) →
      w.stage = .waiting
  sent : ∀ sid seq text, c.action = .send (.sessionAccept sid seq) →
    c.givesUp (e c.action) = some text →
      cfg.aftermath text ≠ .waits ∧ cfg.aftermath text ≠ .asksTray

/-- The contract of the ledger. -/
def heeding (cfg : WsHostConfig) :
    Contract HostCall Ledger ((o : HostAction) → HostAnswer o) where
  assume := Heard cfg
  require c w := w.Heeds c.action

/-- A failure after which the service waits again leaves no request open. -/
def Cleared (cfg : WsHostConfig) (text : String) (w : Ledger) : Prop :=
  cfg.aftermath text = .waits ∨ cfg.aftermath text = .asksTray → w.Clear

/-- The actions that the ledger does not look at. -/
def steady : HostAction → Bool
  | .waitingForIncoming | .expired | .recv _ | .connect | .close | .send (.sessionAccept ..)
  | .send (.sessionReject ..) => false
  | _ => true

/-- The actions that the ledger does not look at, apart from the work for a session. -/
def rests (o : HostAction) : Bool := steady o && !worksOn o

section

variable {cfg : WsHostConfig} {X : HostText} {w w' : Ledger} {sid text : String}
  {e : (o : HostAction) → HostAnswer o} {c : HostCall} {a : HostAnswer c.action} {α : Type}

theorem ledgerMachine_stable (P : Ledger → Prop) : ledgerMachine.Stable P := fun i => nomatch i

/-- A step has the answer of the surroundings, and its effect. -/
theorem ledgerMachine_act (h : ledgerMachine.act c e w = some (a, w')) :
    a = e c.action ∧ w' = w.after c.action a := by
  obtain ⟨rfl, rfl⟩ := Prod.mk.inj (Option.some.inj h)
  exact ⟨rfl, rfl⟩

/-! ## Actions -/

theorem Ledger.after_steady {o : HostAction} (ho : steady o = true) (a : HostAnswer o) :
    w.after o a = w := by
  cases o with
  | send msg => cases msg <;> first | rfl | cases ho
  | _ => first | rfl | cases ho

theorem steady_of_attends {o : HostAction} (ho : attends o = true) : steady o = true := by
  cases o with
  | send msg => cases msg <;> first | rfl | cases ho
  | _ => first | rfl | cases ho

/-- What attends to a session receives nothing. -/
theorem Ledger.Heeds.of_attends {o : HostAction} (ho : attends o = true) (hw : w.ended = false) :
    w.Heeds o := by
  refine ⟨fun _ => hw, fun hreceives => ?_⟩
  cases o with
  | recv timeoutMs => cases ho
  | _ => cases hreceives

/-- A receive is due while no request is open. -/
theorem Ledger.Heeds.recv (hw : w.incoming = none) (timeoutMs : Nat) : w.Heeds (.recv timeoutMs) :=
  ⟨nofun, fun _ => hw⟩

/-- Media is pumped while the session goes on. -/
theorem Ledger.Heeds.pump (hw : w.ended = false) (videoFrames : Nat) :
    w.Heeds (.pumpMedia videoFrames) :=
  ⟨fun _ => hw, nofun⟩

/-- What does no work and receives nothing is always due. -/
theorem Ledger.Heeds.idle {o : HostAction} (hworks : worksOn o = false)
    (hreceives : receives o = false) : w.Heeds o := by
  refine ⟨fun h => ?_, fun h => ?_⟩
  · rw [hworks] at h
    cases h
  · rw [hreceives] at h
    cases h

theorem steady_of_rests {o : HostAction} (ho : rests o = true) : steady o = true :=
  (Bool.and_eq_true_iff.mp ho).1

theorem Ledger.Heeds.of_rests {o : HostAction} (ho : rests o = true) : w.Heeds o := by
  obtain ⟨hsteady, hworks⟩ := Bool.and_eq_true_iff.mp ho
  refine .idle (Bool.not_eq_true' _ ▸ hworks) ?_
  cases o <;> first | rfl | cases hsteady

/-- **Receiving**: while a session is served, only a hang-up ends it, and no request comes in. -/
theorem Ledger.Held.recv (h : w.Held sid) (hassume : Heard cfg c e w) {timeoutMs : Nat}
    (hc : c.action = .recv timeoutMs) :
    (w.after (.recv timeoutMs) (e (.recv timeoutMs))).Held sid ∧
      ((w.after (.recv timeoutMs) (e (.recv timeoutMs))).ended = true → w.ended = true ∨
        ∃ seq reason, e (.recv timeoutMs) = .ok (.sessionEnd sid seq reason)) := by
  have hreceived : ∀ msg, e (.recv timeoutMs) = .ok msg →
      received c.action (e c.action) = some msg := by
    intro msg hmsg
    rw [hc]
    show received (.recv timeoutMs) (e (.recv timeoutMs)) = _
    rw [hmsg]
    rfl
  obtain ⟨hstage, hnone⟩ := h
  rcases hanswer : e (.recv timeoutMs) with err | msg
  · exact ⟨⟨hstage, hnone⟩, .inl⟩
  cases msg with
  | sessionIncoming sid' seq info mode policy =>
    have hwaiting := hassume.request _ _ _ _ _ (hreceived _ hanswer)
    rw [hstage] at hwaiting
    cases hwaiting
  | sessionEnd sid' seq reason =>
    refine ⟨⟨hstage, hnone⟩, fun hended => ?_⟩
    rcases Bool.or_eq_true_iff.mp hended with hended | hserved
    · exact .inl hended
    · obtain rfl := HostStage.serving.inj (hstage.symm.trans (of_decide_eq_true hserved))
      exact .inr ⟨seq, reason, rfl⟩
  | _ => exact ⟨⟨hstage, hnone⟩, .inl⟩

/-- While a session is negotiated, no message ends it. -/
theorem Ledger.Negotiates.recv (h : w.Negotiates sid) (hassume : Heard cfg c e w) {timeoutMs : Nat}
    (hc : c.action = .recv timeoutMs) :
    (w.after (.recv timeoutMs) (e (.recv timeoutMs))).Engaged sid := by
  obtain ⟨⟨hheld, hlive⟩, htimed⟩ := h
  obtain ⟨hheld', hends⟩ := hheld.recv hassume hc
  refine ⟨hheld', ?_⟩
  by_contra hended
  rcases hends (Bool.not_eq_false _ ▸ hended) with hended' | ⟨seq, reason, hanswer⟩
  · rw [hlive] at hended'
    cases hended'
  · have hreceived : received c.action (e c.action) = some (.sessionEnd sid seq reason) := by
      rw [hc]
      show received (.recv timeoutMs) (e (.recv timeoutMs)) = _
      rw [hanswer]
      rfl
    have huntimed := hassume.hangUp _ _ _ hreceived hheld.1
    rw [htimed] at huntimed
    cases huntimed

/-! ## Parts of a session -/

/-- A part that the ledger does not look at keeps every property that lets its actions be due. -/
theorem steady_spec {A B : HostAction → Prop} {P : Ledger → Prop} {p : HostM α}
    {assume : HostCall → ((o : HostAction) → HostAnswer o) → Ledger → Prop}
    (hp : Within A B p.run) (hsteady : ∀ o, A o ∨ B o → steady o = true)
    (hdue : ∀ o w, A o ∨ B o → P w → w.Heeds o) :
    Spec ledgerMachine ⟨assume, fun c w => w.Heeds c.action⟩ P p (fun _ => P) fun _ => P := by
  have hkeep : ∀ (c : HostCall) (w : Ledger) e a w', A c.action ∨ B c.action → P w →
      ledgerMachine.act c e w = some (a, w') → P w' := by
    intro c w e a w' hc hw hact
    obtain ⟨-, rfl⟩ := ledgerMachine_act hact
    rwa [Ledger.after_steady (hsteady _ hc)]
  refine hp.spec (ledgerMachine_stable _) (fun _ => ledgerMachine_stable _)
    (fun c w hc hw => hdue _ w (.inl hc) hw) ?_ (fun c _ w hc hw => hdue _ w (.inr hc) hw)
    fun c _ w e a w' hc _ hw _ hact => hkeep c w e a w' (.inr hc) hw hact
  intro c w e a w' hc hw _ hact
  have hw' := hkeep c w e a w' (.inl hc) hw hact
  exact ⟨hw', fun _ _ => hw'⟩

/-- A part of a session between two receives. -/
theorem attends_spec {P : Ledger → Prop} (hP : ∀ w, P w → w.Engaged sid) {p : HostM α}
    (hp : Within (fun o => attends o = true) (fun _ => False) p.run) :
    Spec ledgerMachine (heeding cfg) P p (fun _ => P) fun _ => Clear := by
  refine (steady_spec hp (fun o ho => ?_) fun o w ho hw => ?_).conseq (fun _ h => h)
    (fun _ _ h => h) fun _ w hw => (hP w hw).1.2
  · exact steady_of_attends (ho.resolve_right id)
  · exact .of_attends (ho.resolve_right id) (hP w hw).2

/-- A part that does no work and receives nothing. -/
abbrev Resting (p : HostM α) : Prop :=
  Within (fun o => rests o = true) (fun _ => False) p.run

theorem rests_call {o : HostAction} (ho : rests o = true) : Resting (call o) :=
  Within.call (A := fun o => rests o = true) ho

theorem tellTray_rests (told : TrayCall) : Resting (tellTray cfg told) :=
  tellTray_within rfl

/-- A part that does no work and receives nothing keeps every property. -/
theorem resting_spec {P : Ledger → Prop} {p : HostM α}
    {assume : HostCall → ((o : HostAction) → HostAnswer o) → Ledger → Prop} (hp : Resting p) :
    Spec ledgerMachine ⟨assume, fun c w => w.Heeds c.action⟩ P p (fun _ => P) fun _ => P :=
  steady_spec hp (fun _ ho => steady_of_rests (ho.resolve_right id))
    fun _ _ ho _ => .of_rests (ho.resolve_right id)

/-- One operation between two receives. -/
theorem attends_call {P : Ledger → Prop} (hP : ∀ w, P w → w.Engaged sid) {o : HostAction}
    (ho : attends o = true) :
    Spec ledgerMachine (heeding cfg) P (call o) (fun _ => P) fun _ => Clear :=
  attends_spec hP (.call (A := fun o => attends o = true) ho)

/-- One operation between two receives, on which its caller may give up. -/
theorem attends_use {P : Ledger → Prop} (hP : ∀ w, P w → w.Engaged sid) {o : HostAction}
    (ho : attends o = true) (f : HostAnswer o → Except String α) :
    Spec ledgerMachine (heeding cfg) P (use o f) (fun _ => P) fun _ => Clear :=
  attends_spec hP (.use (A := fun o => attends o = true) ho f)

theorem engaged_pure {b : α} {E : String → Ledger → Prop} :
    Spec ledgerMachine (heeding cfg) (Engaged sid) (pure b) (fun _ => Engaged sid) E :=
  .pure (ledgerMachine_stable _) fun _ hw => hw

theorem engaged_clear (w : Ledger) (hw : w.Engaged sid) : w.Clear := hw.1.2

/-- Looking at the deadline. -/
theorem expired_engaged :
    Spec ledgerMachine (heeding cfg) (Engaged sid) expired
      (fun elapsed w => if elapsed then w.Engaged sid else w.Negotiates sid) fun _ => Clear := by
  refine .call (ledgerMachine_stable _) (fun _ => ledgerMachine_stable _)
    (fun _ _ => .idle rfl rfl) fun w e elapsed w' hw _ hact => ?_
  obtain ⟨-, rfl⟩ := ledgerMachine_act hact
  cases elapsed with
  | true => exact hw
  | false => exact ⟨hw, rfl⟩

/-- Looking at a deadline whose passing ends the session. -/
theorem expiredOrFail_engaged (text : String) :
    Spec ledgerMachine (heeding cfg) (Engaged sid)
      (use .expired fun (elapsed : Bool) => if elapsed then .error text else .ok ())
      (fun _ => Negotiates sid) fun _ => Clear := by
  refine .use (ledgerMachine_stable _) (fun _ => ledgerMachine_stable _)
    (fun _ => ledgerMachine_stable _) (fun _ _ => .idle rfl rfl) fun w e elapsed w' hw _ hact => ?_
  obtain ⟨-, rfl⟩ := ledgerMachine_act hact
  cases elapsed with
  | true => exact hw.1.2
  | false => exact ⟨hw, rfl⟩

/-- **A receive during the negotiation** leaves the session as it is. -/
theorem recv_negotiates {timeoutMs : Nat} {E : String → Ledger → Prop} :
    Spec ledgerMachine (heeding cfg) (Negotiates sid) (call (.recv timeoutMs))
      (fun _ => Engaged sid) E := by
  refine .call (ledgerMachine_stable _) (fun _ => ledgerMachine_stable _)
    (fun w hw => .recv hw.1.1.2 _) fun w e a w' hw hassume hact => ?_
  obtain ⟨rfl, rfl⟩ := ledgerMachine_act hact
  exact hw.recv hassume rfl

theorem recvAnswering_negotiates :
    Spec ledgerMachine (heeding cfg) (Negotiates sid) recvAnswering (fun _ => Engaged sid)
      fun _ => Clear := by
  refine .use (ledgerMachine_stable _) (fun _ => ledgerMachine_stable _)
    (fun _ => ledgerMachine_stable _) (fun w hw => .recv hw.1.1.2 _)
    fun w e a w' hw hassume hact => ?_
  obtain ⟨rfl, rfl⟩ := ledgerMachine_act hact
  have hengaged := hw.recv hassume rfl
  split
  · exact hengaged
  · exact hengaged.1.2

/-! ## Sessions in this process -/

/-- The loops of the negotiation in this process keep the session that is served. -/
theorem awaitAnswerLocal_engaged (n : Nat) :
    Spec ledgerMachine (heeding cfg) (Engaged sid) (awaitAnswerLocal X n) (fun _ => Engaged sid)
      fun _ => Clear := by
  have hclear : ∀ t : String, ledgerMachine.Stable Clear := fun _ => ledgerMachine_stable _
  induction n with
  | zero => exact .halt
  | succ n ih =>
    refine .bind (expiredOrFail_engaged _) hclear fun _ => ?_
    refine .bind recvAnswering_negotiates hclear fun msg => ?_
    split
    · exact attends_use (fun _ h => h) rfl _
    · exact .bind (attends_use (fun _ h => h) rfl _) hclear fun _ => ih
    · exact ih

theorem trickleIceLocal_engaged (n : Nat) :
    Spec ledgerMachine (heeding cfg) (Engaged sid) (trickleIceLocal cfg X sid n)
      (fun _ => Engaged sid) fun _ => Clear := by
  have hclear : ∀ t : String, ledgerMachine.Stable Clear := fun _ => ledgerMachine_stable _
  have hnegotiates : ∀ w, Negotiates sid w → w.Engaged sid := fun _ h => h.1
  induction n with
  | zero => exact .halt
  | succ n ih =>
    refine .bind expired_engaged hclear fun elapsed => ?_
    cases elapsed with
    | true => exact engaged_pure
    | false =>
      refine .bind (attends_spec hnegotiates (trayEndsSession_within fun _ h => h)) hclear
        fun ends => ?_
      split
      · refine (attends_spec hnegotiates (giveUp_within (fun _ h => h) _)).conseq (fun _ h => h)
          (fun _ _ h => h.1) fun _ _ h => h
      · refine .bind (attends_call hnegotiates rfl) hclear fun _ => ?_
        refine .bind (attends_call hnegotiates rfl) hclear fun signals => ?_
        refine .bind (attends_spec hnegotiates (sendIce_within (fun _ h => h) _)) hclear
          fun _ => ?_
        refine .bind recv_negotiates hclear fun received => ?_
        refine .bind (attends_spec (fun _ h => h) (applyReceivedIce_within (fun _ h => h) _))
          hclear fun _ => ?_
        refine .bind (attends_call (fun _ h => h) rfl) hclear fun state => ?_
        split
        · exact engaged_pure
        · exact ih

theorem relayOfferAnswerIceLocal_engaged (n : Nat) (offer : SdpPayload)
    (pending : List SignalForward) :
    Spec ledgerMachine (heeding cfg) (Engaged sid)
      (relayOfferAnswerIceLocal cfg X n sid offer pending) (fun _ => Engaged sid)
      fun _ => Clear := by
  have hclear : ∀ t : String, ledgerMachine.Stable Clear := fun _ => ledgerMachine_stable _
  have hengaged : ∀ w, Engaged sid w → w.Engaged sid := fun _ h => h
  refine .bind (attends_call hengaged rfl) hclear fun seq => ?_
  refine .bind (attends_use hengaged rfl _) hclear fun _ => ?_
  refine .bind (awaitAnswerLocal_engaged n) hclear fun _ => ?_
  refine .bind (attends_call hengaged rfl) hclear fun _ => ?_
  refine .bind (attends_call hengaged rfl) hclear fun signals => ?_
  refine .bind (attends_spec hengaged (sendIce_within (fun _ h => h) _)) hclear fun _ => ?_
  exact trickleIceLocal_engaged n

/-- An error that is told to the tray leaves the ledger as it is. -/
theorem tellTrayOnError_engaged (told : String → TrayCall) {p : HostM α}
    (hp : Spec ledgerMachine (heeding cfg) (Engaged sid) p (fun _ => Engaged sid) fun _ => Clear) :
    Spec ledgerMachine (heeding cfg) (Engaged sid) (tellTrayOnError cfg told p)
      (fun _ => Engaged sid) fun _ => Clear := by
  refine .bind (.attempt hp (fun _ => ledgerMachine_stable _) fun _ => ledgerMachine_stable _)
    (fun _ => ledgerMachine_stable _) fun r => ?_
  rcases r with t | a
  · refine .bind (resting_spec (tellTray_rests _)) (fun _ => ledgerMachine_stable _) fun _ => ?_
    exact .throw (ledgerMachine_stable _) fun _ hw => hw
  · exact engaged_pure

/-- **A session in this process**, up to its authorization. -/
theorem openSessionLocal_engaged (n : Nat) :
    Spec ledgerMachine (heeding cfg) (Engaged sid) (openSessionLocal cfg X n sid)
      (fun _ => Engaged sid) fun _ => Clear := by
  have hclear : ∀ t : String, ledgerMachine.Stable Clear := fun _ => ledgerMachine_stable _
  have hengaged : ∀ w, Engaged sid w → w.Engaged sid := fun _ h => h
  have htell : ∀ told, Spec ledgerMachine (heeding cfg) (Engaged sid) (tellTray cfg told)
      (fun _ => Engaged sid) fun _ => Clear := fun told =>
    (resting_spec (tellTray_rests told)).conseq (fun _ h => h) (fun _ _ h => h)
      fun _ => engaged_clear
  refine .bind (htell _) hclear fun _ => .bind (attends_use hengaged rfl _) hclear fun _ => ?_
  refine .bind (attends_call hengaged rfl) hclear fun _ => ?_
  refine .bind (attends_call hengaged rfl) hclear fun _ => ?_
  refine .bind (attends_spec hengaged (startMediaOrMock_within fun _ h => h)) hclear fun _ => ?_
  refine .bind (attends_use hengaged rfl _) hclear fun ⟨offer, pending⟩ => ?_
  refine .bind (tellTrayOnError_engaged _ (relayOfferAnswerIceLocal_engaged n _ _)) hclear
    fun _ => ?_
  refine .bind (tellTrayOnError_engaged _ (attends_use hengaged rfl _)) hclear fun _ => ?_
  exact htell _

/-- Media is pumped for the session that is served. -/
theorem pump_call (videoFrames : Nat) {E : String → Ledger → Prop} :
    Spec ledgerMachine (heeding cfg) (Engaged sid) (call (.pumpMedia videoFrames))
      (fun _ => Engaged sid) E := by
  refine .call (ledgerMachine_stable _) (fun _ => ledgerMachine_stable _)
    (fun w hw => .pump hw.2 _) fun w e a w' hw _ hact => ?_
  obtain ⟨-, rfl⟩ := ledgerMachine_act hact
  exact hw

/-- **A receive while media is live**: the session goes on unless the host has received its end. -/
theorem recv_live {timeoutMs : Nat} {E : String → Ledger → Prop} :
    Spec ledgerMachine (heeding cfg) (Engaged sid) (call (.recv timeoutMs))
      (fun r w => w.Held sid ∧ (w.ended = true →
        ∃ seq reason, r = .ok (.sessionEnd sid seq reason))) E := by
  refine .call (ledgerMachine_stable _) (fun _ => ledgerMachine_stable _)
    (fun w hw => .recv hw.1.2 _) fun w e a w' hw hassume hact => ?_
  obtain ⟨rfl, rfl⟩ := ledgerMachine_act hact
  obtain ⟨hheld, hends⟩ := hw.1.recv hassume rfl
  refine ⟨hheld, fun hended => (hends hended).resolve_left fun hended' => ?_⟩
  rw [hw.2] at hended'
  cases hended'

/-- After a message that does not end the session, the session goes on. -/
theorem engaged_of_live {r : Except SignalingError SignalMessage}
    (hr : ∀ seq reason, r ≠ .ok (.sessionEnd sid seq reason)) (w : Ledger)
    (hw : w.Held sid ∧ (w.ended = true → ∃ seq reason, r = .ok (.sessionEnd sid seq reason))) :
    w.Engaged sid := by
  refine ⟨hw.1, ?_⟩
  by_contra hended
  obtain ⟨seq, reason, hend⟩ := hw.2 (Bool.not_eq_false _ ▸ hended)
  exact hr seq reason hend

/-- What a part makes of a message: a reason to leave, or the session goes on. -/
def Continues (sid : String) (reason : Option String) (w : Ledger) : Prop :=
  w.Held sid ∧ (reason = none → w.Engaged sid)

theorem continues_pure {reason : Option String} {E : String → Ledger → Prop} :
    Spec ledgerMachine (heeding cfg) (Engaged sid) (pure reason) (Continues sid) E :=
  .pure (ledgerMachine_stable _) fun _ hw => ⟨hw.1, fun _ => hw⟩

/-- **A hang-up ends live media in this process.** -/
theorem receiveLive_live (r : Except SignalingError SignalMessage) :
    Spec ledgerMachine (heeding cfg)
      (fun w => w.Held sid ∧ (w.ended = true →
        ∃ seq reason, r = .ok (.sessionEnd sid seq reason)))
      (receiveLive X r) (Continues sid) fun _ => Clear := by
  have hlive := fun (hr : ∀ seq reason, r ≠ .ok (.sessionEnd sid seq reason))
      (p : HostM (Option String))
      (hp : Spec ledgerMachine (heeding cfg) (Engaged sid) p (Continues sid) fun _ => Clear) =>
    hp.conseq (engaged_of_live hr) (fun _ _ h => h) fun _ _ h => h
  unfold receiveLive
  split
  · exact .pure (ledgerMachine_stable _) fun w hw => ⟨hw.1, nofun⟩
  · refine hlive nofun _ (.bind (attends_call (fun _ h => h) rfl) (fun _ => ledgerMachine_stable _)
      fun _ => continues_pure)
  · rename_i msg hend _
    exact hlive (fun seq reason h => hend _ _ _ (Except.ok.inj h)) _ continues_pure
  · exact hlive nofun _ continues_pure
  · exact hlive nofun _ continues_pure

theorem clear_pure {P : Ledger → Prop} (hP : ∀ w, P w → w.Clear) {b : α}
    {E : String → Ledger → Prop} :
    Spec ledgerMachine (heeding cfg) P (pure b) (fun _ => Clear) E :=
  .pure (ledgerMachine_stable _) hP

theorem continues_clear (reason : Option String) (w : Ledger) (hw : Continues sid reason w) :
    w.Clear := hw.1.2

/-- Live media in this process leaves no request open. -/
theorem pumpLiveLocal_clear (n : Nat) (totals : PumpStats) :
    Spec ledgerMachine (heeding cfg) (Engaged sid) (pumpLiveLocal cfg X n totals)
      (fun _ => Clear) fun _ => Clear := by
  have hclear : ∀ t : String, ledgerMachine.Stable Clear := fun _ => ledgerMachine_stable _
  have hengaged : ∀ w, Engaged sid w → w.Engaged sid := fun _ h => h
  induction n generalizing totals with
  | zero => exact .halt
  | succ n ih =>
    refine .bind (attends_spec hengaged (trayEndsSession_within fun _ h => h)) hclear
      fun ends => ?_
    split
    · exact clear_pure engaged_clear
    refine .bind (attends_call hengaged rfl) hclear fun state => ?_
    split
    · exact clear_pure engaged_clear
    refine .bind recv_live hclear fun received => ?_
    refine .bind (receiveLive_live received) hclear fun reason => ?_
    split
    · exact clear_pure (continues_clear _)
    refine .bind (Ψ := fun _ => Engaged sid) ?_ hclear fun _ => ?_
    · exact (attends_call hengaged rfl).conseq (fun w hw => hw.2 rfl) (fun _ _ h => h)
        fun _ _ h => h
    refine .bind (pump_call 1) hclear fun pumped => ?_
    split
    · split
      · exact clear_pure engaged_clear
      · exact ih _
    · split
      · exact ih _
      · exact clear_pure engaged_clear

theorem driveLocalMedia_clear (n : Nat) :
    Spec ledgerMachine (heeding cfg) (Engaged sid) (driveLocalMedia cfg X n) (fun _ => Clear)
      fun _ => Clear := by
  unfold driveLocalMedia
  split_ifs
  · refine .bind (Ψ := fun _ => Engaged sid) ?_ (fun _ => ledgerMachine_stable _) fun _ =>
      clear_pure engaged_clear
    refine .use (ledgerMachine_stable _) (fun _ => ledgerMachine_stable _)
      (fun _ => ledgerMachine_stable _) (fun w hw => .pump hw.2 _) fun w e a w' hw _ hact => ?_
    obtain ⟨-, rfl⟩ := ledgerMachine_act hact
    split
    · exact hw
    · exact hw.1.2
  · exact pumpLiveLocal_clear n _

/-- The session is authorized, or input is opened all the same. -/
theorem authorizeOrOpen_engaged (mode : SessionMode) :
    Spec ledgerMachine (heeding cfg) (Engaged sid) (authorizeOrOpen mode) (fun _ => Engaged sid)
      fun _ => Clear := by
  have hopen : ∀ o, rests o = true → Spec ledgerMachine (heeding cfg) (Engaged sid) (call o)
      (fun _ => Engaged sid) fun _ => Clear := fun o ho =>
    (resting_spec (rests_call ho)).conseq (fun _ h => h) (fun _ _ h => h) fun _ => engaged_clear
  refine .bind (attends_call (fun _ h => h) rfl) (fun _ => ledgerMachine_stable _) fun auth => ?_
  split
  · exact attends_spec (fun _ h => h) (awaitBind_within (fun _ h => h) 40)
  · exact .bind (hopen _ rfl) (fun _ => ledgerMachine_stable _) fun _ => hopen _ rfl

/-- The end of a session in this process does no work for it. -/
theorem concludeSessionLocal_rests (pump : PumpStats) (endReason : String) :
    Resting (concludeSessionLocal cfg sid pump endReason) := by
  have hgiveUp : ∀ text, Resting (giveUp text : HostM Unit) := fun text =>
    Within.use (A := fun o => rests o = true) rfl _
  unfold concludeSessionLocal
  split_ifs
  · exact .bind (rests_call rfl) fun _ => .bind (tellTray_rests _) fun _ => hgiveUp _
  · refine .bind (Within.use (A := fun o => rests o = true) rfl _) fun _ => ?_
    refine .bind (.bind (rests_call rfl) fun _ => .bind (rests_call rfl) fun _ => .pure ())
      fun _ => ?_
    exact .bind (rests_call rfl) fun _ => tellTray_rests _

/-! ## Sessions on the agent -/

/-- Giving up a session on the agent does no work for it. -/
theorem detachAgent_rests (reason : String) : Resting (detachAgent sid reason) :=
  .bind (rests_call rfl) fun _ => .pure ()

theorem abandonAgent_clear {P : Ledger → Prop} (hP : ∀ w, P w → w.Clear) (reason : String)
    {told : TrayCall} {Φ : α → Ledger → Prop} :
    Spec ledgerMachine (heeding cfg) P (abandonAgent cfg sid reason text told) Φ
      fun _ => Clear := by
  have hclear : ∀ t : String, ledgerMachine.Stable Clear := fun _ => ledgerMachine_stable _
  refine .bind (Ψ := fun _ => Clear) ?_ hclear fun _ => ?_
  · exact (resting_spec (detachAgent_rests reason)).conseq hP (fun _ _ h => h) fun _ _ h => h
  refine .bind (resting_spec (tellTray_rests told)) hclear fun _ => ?_
  refine .use (ledgerMachine_stable _) (fun _ => ledgerMachine_stable _)
    (fun _ => ledgerMachine_stable _) (fun _ _ => .idle rfl rfl) fun w e a w' hw _ hact => ?_
  obtain ⟨-, rfl⟩ := ledgerMachine_act hact
  exact hw

/-- The loops of the negotiation on the agent keep the session that is served. -/
theorem awaitAnswerAgent_engaged (n : Nat) (early : List IceCandidate) :
    Spec ledgerMachine (heeding cfg) (Engaged sid) (awaitAnswerAgent X sid n early)
      (fun _ => Engaged sid) fun _ => Clear := by
  have hclear : ∀ t : String, ledgerMachine.Stable Clear := fun _ => ledgerMachine_stable _
  induction n generalizing early with
  | zero => exact .halt
  | succ n ih =>
    refine .bind expired_engaged hclear fun elapsed => ?_
    cases elapsed with
    | true => exact engaged_pure
    | false =>
      refine .bind recvAnswering_negotiates hclear fun msg => ?_
      split
      · refine .bind (attends_spec (fun _ h => h) ?_) hclear fun _ => engaged_pure
        exact .bind (.use (A := fun o => attends o = true) rfl _) fun _ => .pure _
      · exact ih _
      · exact ih _

theorem trickleIceAgent_engaged (n : Nat) (connected video : Bool) :
    Spec ledgerMachine (heeding cfg) (Engaged sid) (trickleIceAgent cfg X sid n connected video)
      (fun _ => Engaged sid) fun _ => Clear := by
  have hclear : ∀ t : String, ledgerMachine.Stable Clear := fun _ => ledgerMachine_stable _
  have hengaged : ∀ w, Engaged sid w → w.Engaged sid := fun _ h => h
  have hnegotiates : ∀ w, Negotiates sid w → w.Engaged sid := fun _ h => h.1
  induction n generalizing connected video with
  | zero => exact .halt
  | succ n ih =>
    refine .bind expired_engaged hclear fun elapsed => ?_
    cases elapsed with
    | true => exact engaged_pure
    | false =>
      refine .bind (attends_spec hnegotiates (trayEndsSession_within fun _ h => h)) hclear
        fun ends => ?_
      split
      · exact abandonAgent_clear (fun w hw => engaged_clear w hw.1) _
      refine .bind recv_negotiates hclear fun received => ?_
      refine .bind (attends_spec hengaged (relayReceivedIce_within (fun _ h => h) _)) hclear
        fun _ => ?_
      refine .bind (attends_spec hengaged (queryStats_within fun _ h => h)) hclear fun stats => ?_
      refine .bind (attends_spec hengaged (forwardAgentIceToWss_within (fun _ h => h) _)) hclear
        fun _ => ?_
      dsimp only
      split
      · exact engaged_pure
      · exact ih _ _

/-- **A hang-up ends live media on the agent.** -/
theorem receiveAgentLive_live (r : Except SignalingError SignalMessage) :
    Spec ledgerMachine (heeding cfg)
      (fun w => w.Held sid ∧ (w.ended = true →
        ∃ seq reason, r = .ok (.sessionEnd sid seq reason)))
      (receiveAgentLive X sid r) (Continues sid) fun _ => Clear := by
  have hlive := fun (hr : ∀ seq reason, r ≠ .ok (.sessionEnd sid seq reason))
      (p : HostM (Option String))
      (hp : Spec ledgerMachine (heeding cfg) (Engaged sid) p (Continues sid) fun _ => Clear) =>
    hp.conseq (engaged_of_live hr) (fun _ _ h => h) fun _ _ h => h
  unfold receiveAgentLive
  split
  · exact .pure (ledgerMachine_stable _) fun w hw => ⟨hw.1, nofun⟩
  · refine hlive nofun _ ?_
    refine (attends_spec (fun _ h => h)
      (liveViewerIce_within (fun _ h => h) (fun _ => False.elim) _)).conseq (fun _ h => h) ?_
        fun _ _ h => h
    exact fun _ w hw => ⟨hw.1, fun _ => hw⟩
  · rename_i msg hend _
    exact hlive (fun seq reason h => hend _ _ _ (Except.ok.inj h)) _ continues_pure
  · exact hlive nofun _ continues_pure
  · exact hlive nofun _ continues_pure

/-- Live media on the agent leaves no request open. -/
theorem driveAgentLive_clear (n : Nat) :
    Spec ledgerMachine (heeding cfg) (Engaged sid) (driveAgentLive cfg X sid n) (fun _ => Clear)
      fun _ => Clear := by
  have hclear : ∀ t : String, ledgerMachine.Stable Clear := fun _ => ledgerMachine_stable _
  induction n with
  | zero => exact .halt
  | succ n ih =>
    refine .bind (attends_spec (fun _ h => h) (trayEndsSession_within fun _ h => h)) hclear
      fun ends => ?_
    split
    · exact clear_pure engaged_clear
    refine .bind recv_live hclear fun received => ?_
    refine .bind (receiveAgentLive_live received) hclear fun reason => ?_
    split
    · exact clear_pure (continues_clear _)
    refine .bind (Ψ := fun _ => Engaged sid) ?_ hclear fun _ => ih
    exact (attends_call (fun _ h => h) rfl).conseq (fun w hw => hw.2 rfl) (fun _ _ h => h)
      fun _ _ h => h

theorem driveAgentMedia_clear (n : Nat) (hostIce : List SignalForward)
    (early : List IceCandidate) :
    Spec ledgerMachine (heeding cfg) (Engaged sid) (driveAgentMedia cfg X n sid hostIce early)
      (fun _ => Clear) fun _ => Clear := by
  have hclear : ∀ t : String, ledgerMachine.Stable Clear := fun _ => ledgerMachine_stable _
  have hengaged : ∀ w, Engaged sid w → w.Engaged sid := fun _ h => h
  refine .bind (attends_spec hengaged (sendIce_within (fun _ h => h) _)) hclear fun _ => ?_
  refine .bind (attends_spec hengaged (earlyViewerIce_within (fun _ h => h) _)) hclear
    fun _ => ?_
  refine .bind (trickleIceAgent_engaged n false false) hclear fun ⟨connected, video⟩ => ?_
  dsimp only
  split
  · exact abandonAgent_clear engaged_clear _
  refine .bind (Ψ := fun _ => Engaged sid) ?_ hclear fun _ => ?_
  · exact (resting_spec (tellTray_rests _)).conseq (fun _ h => h) (fun _ _ h => h)
      fun _ => engaged_clear
  refine .bind (attends_spec hengaged (settledVideo_within (fun _ h => h) _)) hclear
    fun video => ?_
  split
  · exact abandonAgent_clear engaged_clear _
  split
  · exact driveAgentLive_clear n
  · exact clear_pure engaged_clear

/-- **A session on the agent**, up to the end of its media. -/
theorem runSessionAgent_clear (n : Nat) :
    Spec ledgerMachine (heeding cfg) (Engaged sid) (runSessionAgent cfg X n sid)
      (fun _ => Clear) fun _ => Clear := by
  have hclear : ∀ t : String, ledgerMachine.Stable Clear := fun _ => ledgerMachine_stable _
  have hengaged : ∀ w, Engaged sid w → w.Engaged sid := fun _ h => h
  refine .bind (Ψ := fun _ => Engaged sid) ?_ hclear fun _ => ?_
  · exact (resting_spec (tellTray_rests _)).conseq (fun _ h => h) (fun _ _ h => h)
      fun _ => engaged_clear
  refine .bind (attends_spec hengaged
    (startSession_within (fun _ h => h) _ (startSequence_not_detach _ _))) hclear
      fun outbound => ?_
  refine .bind (attends_spec hengaged (orGiveUp_within (fun _ h => h) _)) hclear fun offer => ?_
  refine .bind (attends_call hengaged rfl) hclear fun seq => ?_
  refine .bind (attends_use hengaged rfl _) hclear fun _ => ?_
  refine .bind (awaitAnswerAgent_engaged n []) hclear fun answered => ?_
  split
  · exact abandonAgent_clear engaged_clear _
  · exact driveAgentMedia_clear n _ _

/-! ## The service -/

/-- What the host that waits makes of a message: it has a request, or waits on. -/
def Told : SignalMessage → Ledger → Prop
  | .sessionIncoming sid .. => Asked sid
  | _ => Waits

/-- A message that comes in while the host waits. -/
theorem Ledger.Waits.receive (h : w.Waits) (msg : SignalMessage) :
    Told msg { w.receive msg with timed := false } := by
  obtain ⟨hstage, hnone⟩ := h
  cases msg with
  | sessionIncoming sid seq info mode policy => exact ⟨hstage, rfl⟩
  | _ => exact ⟨hstage, hnone⟩

/-- Waiting for a session ends with the request that has come in. -/
theorem recvIncoming_asked (n : Nat) :
    Spec ledgerMachine (heeding cfg) Waits (recvIncoming n) (fun r => Asked r.1)
      fun _ => Clear := by
  induction n with
  | zero => exact .halt
  | succ n ih =>
    refine .bind (Ψ := fun _ => Waits) ?_ (fun _ => ledgerMachine_stable _) fun _ => ?_
    · refine .use (ledgerMachine_stable _) (fun _ => ledgerMachine_stable _)
        (fun _ => ledgerMachine_stable _) (fun _ _ => .idle rfl rfl) fun w e a w' hw _ hact => ?_
      obtain ⟨-, rfl⟩ := ledgerMachine_act hact
      split
      · exact hw
      · exact hw.2
    refine .bind (Ψ := Told) ?_ (fun _ => ledgerMachine_stable _) fun msg => ?_
    · refine .use (ledgerMachine_stable _) (fun _ => ledgerMachine_stable _)
        (fun _ => ledgerMachine_stable _) (fun w hw => .recv hw.2 _) fun w e a w' hw _ hact => ?_
      obtain ⟨-, rfl⟩ := ledgerMachine_act hact
      rcases a with err | msg
      · exact hw.2
      · exact hw.receive msg
    · cases msg with
      | sessionIncoming sid seq info mode policy =>
        exact .pure (ledgerMachine_stable _) fun _ hw => hw
      | _ => exact ih

/-- **A request that has come in is accepted** before the next receive. -/
theorem acceptIncomingSession_engaged (n : Nat) :
    Spec ledgerMachine (heeding cfg) Clear (acceptIncomingSession n) (fun r => Engaged r.1)
      (Cleared cfg) := by
  have hcleared : ∀ t, ledgerMachine.Stable (Cleared cfg t) := fun _ => ledgerMachine_stable _
  refine .bind (Ψ := fun _ => Waits) ?_ hcleared fun _ => ?_
  · refine .call (ledgerMachine_stable _) (fun _ => ledgerMachine_stable _)
      (fun _ _ => .idle rfl rfl) fun w e a w' hw _ hact => ?_
    obtain ⟨-, rfl⟩ := ledgerMachine_act hact
    exact ⟨rfl, hw⟩
  refine .bind ((recvIncoming_asked n).conseq (fun _ h => h) (fun _ _ h => h)
    fun _ _ hw _ => hw) hcleared fun ⟨sid, incomingSeq, mode⟩ => ?_
  have hrests : ∀ o, rests o = true → Spec ledgerMachine (heeding cfg) (Asked sid) (call o)
      (fun _ => Asked sid) (Cleared cfg) := by
    refine fun o ho => .call (ledgerMachine_stable _) (fun _ => ledgerMachine_stable _)
      (fun _ _ => .of_rests ho) fun w e a w' hw _ hact => ?_
    obtain ⟨-, rfl⟩ := ledgerMachine_act hact
    rwa [Ledger.after_steady (steady_of_rests ho)]
  refine .bind (hrests _ rfl) hcleared fun _ => .bind (hrests _ rfl) hcleared fun seq => ?_
  refine .bind (Ψ := fun _ => Engaged sid) ?_ hcleared fun _ =>
    .pure (ledgerMachine_stable _) fun _ hw => hw
  refine .use (ledgerMachine_stable _) (fun _ => ledgerMachine_stable _)
    (fun _ => ledgerMachine_stable _) (fun _ _ => .idle rfl rfl) fun w e a w' hw hassume hact => ?_
  obtain ⟨ha, rfl⟩ := ledgerMachine_act hact
  rcases a with err | u
  · intro haftermath
    have hsent := hassume.sent sid seq ("accept: " ++ err.display) rfl (by rw [← ha]; rfl)
    exact (haftermath.elim hsent.1 hsent.2).elim
  · exact ⟨⟨rfl, if_pos hw.2⟩, rfl⟩

/-- **A session leaves no request open.** -/
theorem handleOneSession_clear (n : Nat) :
    Spec ledgerMachine (heeding cfg) Clear (handleOneSession cfg X n) (fun _ => Clear)
      (Cleared cfg) := by
  have hcleared : ∀ t, ledgerMachine.Stable (Cleared cfg t) := fun _ => ledgerMachine_stable _
  have hlost : ∀ t (w : Ledger), w.Clear → Cleared cfg t w := fun _ _ hw _ => hw
  have hends : ∀ {p : HostM Unit}, Resting p → Spec ledgerMachine (heeding cfg) Clear p
      (fun _ => Clear) (Cleared cfg) := fun hp =>
    (resting_spec hp).conseq (fun _ h => h) (fun _ _ h => h) hlost
  unfold handleOneSession
  split_ifs
  · refine .bind (acceptIncomingSession_engaged n) hcleared fun ⟨sid, mode⟩ => ?_
    refine .bind ((runSessionAgent_clear n).conseq (fun _ h => h) (fun _ _ h => h) hlost) hcleared
      fun reason => ?_
    refine hends (.bind (detachAgent_rests reason) fun _ => ?_)
    refine .bind (.bind (rests_call rfl) fun _ => .bind (rests_call rfl) fun _ => .pure ())
      fun _ => tellTray_rests _
  · refine .bind (acceptIncomingSession_engaged n) hcleared fun ⟨sid, mode⟩ => ?_
    refine .bind (Ψ := fun _ => Clear) (Spec.conseq (F := fun _ => Clear) (Ψ := fun _ => Clear) ?_
      (fun _ h => h) (fun _ _ h => h) hlost) hcleared fun ⟨pump, reason⟩ =>
        hends (concludeSessionLocal_rests pump reason)
    have hclear : ∀ t : String, ledgerMachine.Stable Clear := fun _ => ledgerMachine_stable _
    refine .bind (openSessionLocal_engaged n) hclear fun _ => ?_
    dsimp only
    split
    · exact .bind (authorizeOrOpen_engaged mode) hclear fun _ => driveLocalMedia_clear n
    · exact driveLocalMedia_clear n

/-- Connecting leaves no request open. -/
theorem connectHost_clear (enrolled : EnrolledHost) :
    Spec ledgerMachine (heeding cfg) Clear (connectHost X enrolled) (fun _ => Clear)
      fun _ => Clear := by
  have hclear : ∀ t : String, ledgerMachine.Stable Clear := fun _ => ledgerMachine_stable _
  refine .bind (Ψ := fun _ w => w.stage = .offline ∧ w.Clear) ?_ hclear fun _ => ?_
  · refine .use (ledgerMachine_stable _) (fun _ => ledgerMachine_stable _) hclear
      (fun _ _ => .idle rfl rfl) fun w e a w' hw _ hact => ?_
    obtain ⟨-, rfl⟩ := ledgerMachine_act hact
    rcases a with err | u
    · exact hw
    · exact ⟨rfl, hw⟩
  refine .bind (Ψ := fun _ w => w.stage = .offline ∧ w.Clear) ?_ hclear fun _ => ?_
  · refine (resting_spec (.use (A := fun o => rests o = true) rfl _)).conseq (fun _ h => h)
      (fun _ _ h => h) fun _ _ hw => hw.2
  refine .use (ledgerMachine_stable _) (fun _ => ledgerMachine_stable _) hclear
    (fun w hw => .recv hw.2 _) fun w e a w' hw hassume hact => ?_
  obtain ⟨rfl, rfl⟩ := ledgerMachine_act hact
  have hafter : (w.after (.recv 10000) (e (.recv 10000))).Clear := by
    rcases hanswer : e (.recv 10000) with err | msg
    · exact hw.2
    cases msg with
    | sessionIncoming sid seq info mode policy =>
      have hwaiting := hassume.request sid seq info mode policy (by
        show received (.recv 10000) (e (.recv 10000)) = _
        rw [hanswer]
        rfl)
      rw [hw.1] at hwaiting
      cases hwaiting
    | _ => exact hw.2
  split
  · exact hafter
  · exact hafter

/-- The service respects the contract of the ledger. -/
theorem regime_heeding :
    Regime cfg X ledgerMachine (heeding cfg) Clear Clear (Cleared cfg) where
  cleanStable := ledgerMachine_stable _
  doneStable := ledgerMachine_stable _
  lostStable _ := ledgerMachine_stable _
  leave c w hc := by
    obtain ⟨o, g⟩ := c
    cases o <;> first | exact .idle rfl rfl | cases hc
  exits := by
    refine .call (ledgerMachine_stable _) (fun _ => ledgerMachine_stable _)
      (fun _ _ => .idle rfl rfl) fun w e exits w' hw _ hact => ?_
    obtain ⟨-, rfl⟩ := ledgerMachine_act hact
    exact hw
  session := handleOneSession_clear
  remint enrolled := by
    unfold remintAfter
    split_ifs
    · refine Spec.ignoring (L := ⟨fun _ _ _ => True, fun c w => w.Heeds c.action⟩)
        (fun _ _ _ _ => trivial) (fun _ _ h => h) (ledgerMachine_stable _) ?_
      refine resting_spec (maybeMintOtp_within (fun o ho _ => ?_) cfg enrolled)
      cases o <;> first | rfl | cases ho
    · exact .pure (ledgerMachine_stable _) fun _ hw => hw
  connect := connectHost_clear
  waits t w ht hw := hw (.inl ht)
  asksTray t ht := by
    refine .call (ledgerMachine_stable _) (fun _ => ledgerMachine_stable _)
      (fun _ _ => .idle rfl rfl) fun w e exits w' hw _ hact _ => ?_
    obtain ⟨-, rfl⟩ := ledgerMachine_act hact
    exact hw (.inr ht)
  reconnects t _ := by
    refine .call (ledgerMachine_stable _) (fun _ => ledgerMachine_stable _)
      (fun _ _ => .idle rfl rfl) fun w e a w' _ _ hact => ?_
    obtain ⟨-, rfl⟩ := ledgerMachine_act hact
    rfl

/-- **Hang-ups and requests are heeded**: in every run of the service in which the messages come in
while the host listens for them, no message is applied to a session that the server has ended and no
media is pumped for it, and nothing is received while a request has not been answered.

**Proof sketch.** While a session is negotiated no message ends it (`Ledger.Negotiates.recv`), and
while its media is live the loop that receives the end is left before any further work
(`receiveLive_live`, `receiveAgentLive_live`). A request comes in while the host waits, and is
accepted before the next receive. -/
theorem hang_up_heeded
    {s : Prog HostCall (fun c => HostAnswer c.action) (Except String Nat) × Ledger}
    (h : (ledgerMachine.system (serviceRuns cfg X) (· = .new)).ReachableVia (heeding cfg).Assumed s)
    {k : HostAnswer c.action → Prog HostCall (fun c => HostAnswer c.action) (Except String Nat)}
    (hs : s.1 = .op c k) :
    (worksOn c.action = true → s.2.ended = false) ∧
      (receives c.action = true → s.2.incoming = none) := by
  have hstart : Spec ledgerMachine (heeding cfg) (· = .new) (startHost cfg) (fun _ => Clear)
      fun _ _ => True := by
    refine (resting_spec (startHost_within (fun o ho _ => ?_) cfg)).conseq ?_ (fun _ _ h => h)
      fun _ _ _ => trivial
    · cases o <;> first | rfl | cases ho
    · rintro w rfl
      rfl
  exact ledgerMachine.always ((regime_heeding (X := X)).safe hstart) h hs

end

/-! ## Runs of the service -/

/-- An answer on which no caller gives up, and that brings a hang-up while media is live and a
request while the host waits. -/
def hears (c : HostCall) (e : (o : HostAction) → HostAnswer o) (w : Ledger) : Bool :=
  (c.givesUp (e c.action)).isNone &&
    match received c.action (e c.action) with
    | some (.sessionEnd ..) => !w.timed
    | some (.sessionIncoming ..) => decide (w.stage = .waiting)
    | _ => true

theorem heard_of_hears (cfg : WsHostConfig) {c : HostCall} {e : (o : HostAction) → HostAnswer o}
    {w : Ledger} (h : hears c e w = true) : Heard cfg c e w := by
  obtain ⟨hnone, hreceived⟩ := Bool.and_eq_true_iff.mp h
  refine ⟨fun sid seq reason hmsg _ => ?_, fun sid seq info mode policy hmsg => ?_,
    fun sid seq text _ htext => ?_⟩
  · rw [hmsg] at hreceived
    exact Bool.not_eq_true' _ ▸ hreceived
  · rw [hmsg] at hreceived
    exact of_decide_eq_true hreceived
  · rw [htext] at hnone
    cases hnone

/-- Whether an action that passes a test is due. -/
def isDue {α : Type} (test : HostAction → Bool) :
    Prog HostCall (fun c => HostAnswer c.action) α → Bool
  | .op c _ => test c.action
  | _ => false

theorem isDue_iff {α : Type} {test : HostAction → Bool}
    {p : Prog HostCall (fun c => HostAnswer c.action) α} :
    isDue test p = true ↔ ∃ (c : HostCall) (k : HostAnswer c.action → _), p = .op c k ∧
      test c.action = true := by
  constructor
  · intro h
    cases p with
    | op c k => exact ⟨c, k, rfl, h⟩
    | _ => cases h
  · rintro ⟨c, k, rfl, h⟩
    exact h

/-- A service without a tray, whose sessions are live in this process. -/
def demoLiveService : WsHostConfig := ⟨0, 0, true, false, false, false, none, none⟩

/-- The service before its first step. -/
def demoLedger : Prog HostCall (fun c => HostAnswer c.action) (Except String Nat) × Ledger :=
  ((runWsHostService demoLiveService demoText 6).run, .new)

/-- A step that brings a message. -/
def demoBrings (msg : SignalMessage) : Event ((o : HostAction) → HostAnswer o) Empty :=
  .act (demoAnswers (.ok msg) false)

/-- A number of steps; what is received among them says nothing. -/
def demoRoutine (n : Nat) : List (Event ((o : HostAction) → HostAnswer o) Empty) :=
  List.replicate n (demoBrings (.helloOk "" .null))

/-- The request for a session has been accepted, and the offer been sent. -/
def demoInvited : List (Event ((o : HostAction) → HostAnswer o) Empty) :=
  demoRoutine 6 ++ demoBrings (.sessionIncoming "s" 1 .null .otp .ok) :: demoRoutine 10

/-- The viewer answers. -/
def demoAnswered : List (Event ((o : HostAction) → HostAnswer o) Empty) :=
  demoRoutine 1 ++ [demoBrings (.sessionAnswer "s" 3 "v=0")]

/-- Media is pumped for a session that goes on. -/
theorem hang_up_heeded_live : ∃ s c k, (ledgerMachine.system
      (serviceRuns demoLiveService demoText) (· = .new)).ReachableVia
        (heeding demoLiveService).Assumed s ∧
    s.1 = .op c k ∧ s.2.stage = .serving "s" ∧ worksOn c.action = true ∧ s.2.ended = false := by
  have hrun : (((ledgerMachine.system (serviceRuns demoLiveService demoText)
      (· = .new)).restrict (passing hears)).runFrom demoLedger
        (demoInvited ++ demoAnswered ++ demoRoutine 15)).any
          (fun s => isDue worksOn s.1 && decide (s.2.stage = .serving "s")) = true := by
    decide +kernel
  have hinit : ((ledgerMachine.system (serviceRuns demoLiveService demoText)
      (· = .new)).restrict (passing hears)).Reachable demoLedger := .init ⟨⟨6, rfl⟩, rfl⟩
  obtain ⟨s, hs, hafter⟩ := (Option.any_eq_true _ _).mp hrun
  obtain ⟨hworking, hstage⟩ := Bool.and_eq_true_iff.mp hafter
  obtain ⟨c, k, hop, hworks⟩ := isDue_iff.mp hworking
  have hvia := System.reachableVia_of_restrict
    (fun _ _ => Contract.assumed_of_passing (K := heeding demoLiveService)
      fun _ _ _ => heard_of_hears demoLiveService)
    (System.reachable_of_runFrom hinit hs)
  exact ⟨s, c, k, hvia, hop, of_decide_eq_true hstage, hworks, (hang_up_heeded hvia hop).1 hworks⟩

/-- **Hang-ups and requests are ignored**: media is pumped for a session that the server has ended
while candidates were exchanged, and the host goes on to receive while a request that has come in
during the negotiation is open. -/
theorem hang_up_ignored :
    (¬∀ s c k,
      (ledgerMachine.system (serviceRuns demoLiveService demoText) (· = .new)).Reachable s →
      s.1 = .op c k → worksOn c.action = true → s.2.ended = false) ∧
    ¬∀ s c k,
      (ledgerMachine.system (serviceRuns demoLiveService demoText) (· = .new)).Reachable s →
      s.1 = .op c k → receives c.action = true → s.2.incoming = none := by
  have hinit : (ledgerMachine.system (serviceRuns demoLiveService demoText) (· = .new)).Reachable
      demoLedger := .init ⟨⟨6, rfl⟩, rfl⟩
  refine ⟨fun hclaim => ?_, fun hclaim => ?_⟩
  · have hrun : ((ledgerMachine.system (serviceRuns demoLiveService demoText) (· = .new)).runFrom
        demoLedger (demoInvited ++ demoAnswered ++ demoRoutine 6 ++
          demoBrings (.sessionEnd "s" 4 "bye") :: demoRoutine 8)).any
            (fun s => isDue worksOn s.1 && s.2.ended) = true := by
      decide +kernel
    obtain ⟨s, hs, hafter⟩ := (Option.any_eq_true _ _).mp hrun
    obtain ⟨hworking, hended⟩ := Bool.and_eq_true_iff.mp hafter
    obtain ⟨c, k, hop, hworks⟩ := isDue_iff.mp hworking
    have hlive := hclaim s c k (System.reachable_of_runFrom hinit hs) hop hworks
    rw [hended] at hlive
    cases hlive
  · have hrun : ((ledgerMachine.system (serviceRuns demoLiveService demoText) (· = .new)).runFrom
        demoLedger (demoInvited ++ demoRoutine 1 ++
          demoBrings (.sessionIncoming "t" 2 .null .otp .ok) :: demoRoutine 1)).any
            (fun s => isDue receives s.1 && decide (s.2.incoming = some "t")) = true := by
      decide +kernel
    obtain ⟨s, hs, hafter⟩ := (Option.any_eq_true _ _).mp hrun
    obtain ⟨hreceiving, hincoming⟩ := Bool.and_eq_true_iff.mp hafter
    obtain ⟨c, k, hop, hreceives⟩ := isDue_iff.mp hreceiving
    have hnone := hclaim s c k (System.reachable_of_runFrom hinit hs) hop hreceives
    rw [of_decide_eq_true hincoming] at hnone
    cases hnone

end RemoteLink.Host
