import RemoteLink.Host.ServiceLoop

set_option autoImplicit false

/-!
# Releasing sessions

A host that has accepted a session holds the server's lock for it until it ends the session or closes
the connection, and keeps its agent busy until it detaches it. Every way out of a session is paired
with what the service does after it.

## Main definitions

* `Obligations` — the sessions that are held, and those from which the agent is not detached.
* `releaseMachine` — the runs of the service with what it owes.
* `Orderly` — the answers after which the service waits owing nothing.

## Main results

* `session_released` — in a run of orderly answers, the host waits for a session only when it has
  released all the sessions it accepted.
* `session_kept` — when the viewer does not answer, it waits while it still holds the session.
-/

namespace RemoteLink.Host

open Library Protocol Auth Net Platform Signaling

/-- What the host owes: the sessions it has accepted on the open connection and not ended, and in
agent mode the accepted sessions from which the agent has not been detached. -/
structure Obligations where
  held : List String
  attached : List String
  deriving Repr, DecidableEq

namespace Obligations

/-- Nothing is owed. -/
def none : Obligations := ⟨[], []⟩

/-- What an operation changes. A message counts as sent when the send succeeds, and the agent as
detached when the request does. -/
def after (cfg : WsHostConfig) : (o : HostAction) → HostAnswer o → Obligations → Obligations
  | .send (.sessionAccept sid _), .ok (), w =>
    ⟨sid :: w.held, if cfg.agentControl then sid :: w.attached else w.attached⟩
  | .send (.sessionEnd sid _ _), .ok (), w => { w with held := w.held.filter (· ≠ sid) }
  | .close, (), w => { w with held := [] }
  | .agentRequest (.detachSession sid _), .ok _, w =>
    { w with attached := w.attached.filter (· ≠ sid) }
  | _, _, w => w

/-- At most these sessions are held, and the agent is at most attached to those. -/
def Owes (w : Obligations) (held attached : List String) : Prop :=
  w.held ⊆ held ∧ w.attached ⊆ attached

theorem owes_nil {w : Obligations} : w.Owes [] [] ↔ w.held = [] ∧ w.attached = [] := by
  simp [Owes]

end Obligations

/-- The service with what it owes; every operation may have any answer. -/
def releaseMachine (cfg : WsHostConfig) :
    Machine HostCall (fun c => HostAnswer c.action) Obligations
      ((o : HostAction) → HostAnswer o) Empty :=
  announced ⟨fun o answers w => some (answers o, w.after cfg o (answers o)), fun i _ => nomatch i⟩

/-- What must be owed no more when a session fails with a text, for the service to go on in order. -/
def Settled (cfg : WsHostConfig) (text : String) (w : Obligations) : Prop :=
  (cfg.aftermath text = .waits → w.held = [] ∧ w.attached = []) ∧
    (cfg.aftermath text = .reconnects → w.attached = [])

/-- **The answers after which the service is in order**: no caller gives up on an answer while
something is owed that the service does not settle afterwards; the tray that has ended a session
makes the host exit, or nothing is owed; and the end of a session reaches the server and the
agent. -/
structure Orderly (cfg : WsHostConfig) (c : HostCall) (answers : (o : HostAction) → HostAnswer o)
    (w : Obligations) : Prop where
  failure : ∀ text, c.givesUp (answers c.action) = some text → Settled cfg text w
  tray : c.action = .takeExit → answers .takeExit = false → cfg.isMulti = true →
    w.held = [] ∧ w.attached = []
  ended : ∀ sid seq reason, c.action = .send (.sessionEnd sid seq reason) →
    answers (.send (.sessionEnd sid seq reason)) = .ok ()
  detached : ∀ sid reason, c.action = .agentRequest (.detachSession sid reason) →
    ∃ r, answers (.agentRequest (.detachSession sid reason)) = .ok r

section

variable {cfg : WsHostConfig} {X : HostText} {w w' : Obligations} {sid : String}
  {answers : (o : HostAction) → HostAnswer o} {c : HostCall} {a : HostAnswer c.action}

theorem releaseMachine_stable (P : Obligations → Prop) : (releaseMachine cfg).Stable P :=
  fun i => nomatch i

/-- A step has the answer of the surroundings, and its effect. -/
theorem releaseMachine_act (h : (releaseMachine cfg).act c answers w = some (a, w')) :
    a = answers c.action ∧ w' = w.after cfg c.action a := by
  obtain ⟨rfl, rfl⟩ := Prod.mk.inj (Option.some.inj h)
  exact ⟨rfl, rfl⟩

/-- Only an accept adds to what is owed. -/
theorem Obligations.after_subset {o : HostAction}
    (ho : ∀ sid seq, o ≠ .send (.sessionAccept sid seq)) (a : HostAnswer o) :
    (w.after cfg o a).held ⊆ w.held ∧ (w.after cfg o a).attached ⊆ w.attached := by
  unfold Obligations.after
  split
  · exact absurd rfl (ho _ _)
  · exact ⟨List.filter_subset_self _, List.Subset.refl _⟩
  · exact ⟨List.nil_subset _, List.Subset.refl _⟩
  · exact ⟨List.Subset.refl _, List.filter_subset_self _⟩
  · exact ⟨List.Subset.refl _, List.Subset.refl _⟩

theorem Obligations.Owes.after {held attached : List String} {o : HostAction}
    (h : w.Owes held attached) (ho : ∀ sid seq, o ≠ .send (.sessionAccept sid seq))
    (a : HostAnswer o) : (w.after cfg o a).Owes held attached :=
  ⟨List.Subset.trans (after_subset ho a).1 h.1, List.Subset.trans (after_subset ho a).2 h.2⟩

/-- What is settled stays settled. -/
theorem Settled.after {text : String} {o : HostAction} (h : Settled cfg text w)
    (ho : ∀ sid seq, o ≠ .send (.sessionAccept sid seq)) (a : HostAnswer o) :
    Settled cfg text (w.after cfg o a) := by
  have hsubset := @Obligations.after_subset cfg w o ho a
  constructor
  · intro haftermath
    obtain ⟨hheld, hattached⟩ := h.1 haftermath
    exact ⟨List.subset_nil.mp (hheld ▸ hsubset.1), List.subset_nil.mp (hattached ▸ hsubset.2)⟩
  · intro haftermath
    exact List.subset_nil.mp (h.2 haftermath ▸ hsubset.2)

/-- Whether the property holds while the host waits. -/
abbrev Free (w : Obligations) : Prop := w.held = [] ∧ w.attached = []

theorem settled_of_free {text : String} (h : Free w) : Settled cfg text w :=
  ⟨fun _ => h, fun _ => h.2⟩

/-- The actions of a session keep what is owed within its bounds, and errors are settled. -/
theorem handling_release {α : Type} {p : HostM α} (hp : Handling p) (held attached : List String) :
    Spec (releaseMachine cfg) (waitingOnlyIf (Orderly cfg) Free)
      (fun w => w.Owes held attached) p (fun _ w => w.Owes held attached) (Settled cfg) := by
  have hserve : ∀ o, servesSession o = true ∨ opensInput o = true →
      ∀ sid seq, o ≠ .send (.sessionAccept sid seq) := by
    rintro o ho sid seq rfl
    obtain ho | ho := ho <;> cases ho
  have htell : ∀ o, tellsTray o = true → ∀ sid seq, o ≠ .send (.sessionAccept sid seq) := by
    rintro o ho sid seq rfl
    cases ho
  refine hp.spec (releaseMachine_stable _) (fun _ => releaseMachine_stable _) ?_ ?_
  · intro c w e a w' hc hw hassume hact
    obtain ⟨rfl, rfl⟩ := releaseMachine_act hact
    refine ⟨hw.after (hserve _ hc) _, fun t ht => ?_⟩
    exact (hassume.failure t ht).after (hserve _ hc) _
  · intro c t w e a w' hc hw _ hact
    obtain ⟨rfl, rfl⟩ := releaseMachine_act hact
    exact hw.after (htell _ hc) _

theorem serving_release {α : Type} {p : HostM α} (hp : Serving p) (held attached : List String) :
    Spec (releaseMachine cfg) (waitingOnlyIf (Orderly cfg) Free)
      (fun w => w.Owes held attached) p (fun _ w => w.Owes held attached) (Settled cfg) :=
  handling_release hp.handling held attached

/-- A session that is accepted is held; in agent mode the agent is attached to it. -/
theorem accept_release (n : Nat) :
    Spec (releaseMachine cfg) (waitingOnlyIf (Orderly cfg) Free) Free (acceptIncomingSession n)
      (fun r w => w.Owes [r.1] (if cfg.agentControl then [r.1] else [])) (Settled cfg) := by
  refine acceptIncomingSession_spec (releaseMachine_stable _) (fun _ => releaseMachine_stable _)
    (fun _ _ _ hw _ => hw) ?_ (fun _ _ => settled_of_free) (fun _ => releaseMachine_stable _) ?_ n
  · intro c w e a w' hc hw _ hact
    obtain ⟨rfl, rfl⟩ := releaseMachine_act hact
    refine Obligations.owes_nil.mp ((Obligations.owes_nil.mpr hw).after ?_ _)
    intro sid seq heq
    rw [heq] at hc
    cases hc
  · intro sid mode seq
    refine .use (releaseMachine_stable _) (fun _ => releaseMachine_stable _)
      (fun _ => releaseMachine_stable _) (fun _ _ hwait => by cases hwait) ?_
    intro w e a w' hw _ hact
    obtain ⟨-, rfl⟩ := releaseMachine_act hact
    rcases a with err | u
    · exact settled_of_free hw
    · obtain ⟨hheld, hattached⟩ := hw
      show Obligations.Owes ⟨sid :: w.held, _⟩ _ _
      rw [hheld, hattached]
      exact ⟨List.Subset.refl _, List.Subset.refl _⟩

/-- Ending a session at the server: it is not held any more. -/
theorem endWssSession_release (reason : String) (attached : List String) :
    Spec (releaseMachine cfg) (waitingOnlyIf (Orderly cfg) Free)
      (fun w => w.Owes [sid] attached) (endWssSession sid reason)
      (fun _ w => w.Owes [] attached) (Settled cfg) := by
  refine .bind (serving_release (call_serving rfl) [sid] attached)
    (fun _ => releaseMachine_stable _) fun seq => ?_
  refine .bind (Ψ := fun _ w => w.Owes [] attached) ?_ (fun _ => releaseMachine_stable _)
    fun _ => .pure (releaseMachine_stable _) fun _ hw => hw
  refine .call (releaseMachine_stable _) (fun _ => releaseMachine_stable _)
    (fun _ _ hwait => by cases hwait) ?_
  intro w e a w' hw hassume hact
  obtain ⟨rfl, rfl⟩ := releaseMachine_act hact
  rw [hassume.ended sid seq reason rfl]
  refine ⟨fun s hs => ?_, hw.2⟩
  obtain ⟨hmem, hne⟩ := List.mem_filter.mp hs
  exact absurd (List.mem_singleton.mp (hw.1 hmem)) (by simpa using hne)

/-- Detaching the agent: it is not attached any more. -/
theorem detachAgent_release (reason : String) (held : List String) :
    Spec (releaseMachine cfg) (waitingOnlyIf (Orderly cfg) Free)
      (fun w => w.Owes held [sid]) (detachAgent sid reason)
      (fun _ w => w.Owes held []) (Settled cfg) := by
  refine .bind (Ψ := fun _ w => w.Owes held []) ?_ (fun _ => releaseMachine_stable _)
    fun _ => .pure (releaseMachine_stable _) fun _ hw => hw
  refine .call (releaseMachine_stable _) (fun _ => releaseMachine_stable _)
    (fun _ _ hwait => by cases hwait) ?_
  intro w e a w' hw hassume hact
  obtain ⟨rfl, rfl⟩ := releaseMachine_act hact
  obtain ⟨r, hr⟩ := hassume.detached sid (some reason) rfl
  rw [hr]
  refine ⟨hw.1, fun s hs => ?_⟩
  obtain ⟨hmem, hne⟩ := List.mem_filter.mp hs
  exact absurd (List.mem_singleton.mp (hw.2 hmem)) (by simpa using hne)

/-- The end of a session in this process. -/
theorem concludeSessionLocal_release (pump : PumpStats) (endReason : String) :
    Spec (releaseMachine cfg) (waitingOnlyIf (Orderly cfg) Free) (fun w => w.Owes [sid] [])
      (concludeSessionLocal cfg sid pump endReason) (fun _ => Free) (Settled cfg) := by
  have hfree : ∀ {p : HostM Unit}, Serving p →
      Spec (releaseMachine cfg) (waitingOnlyIf (Orderly cfg) Free) (fun w => w.Owes [] []) p
        (fun _ => Free) (Settled cfg) := fun hp =>
    (serving_release hp [] []).conseq (fun _ h => h) (fun _ _ h => Obligations.owes_nil.mp h)
      fun _ _ h => h
  unfold concludeSessionLocal
  split_ifs
  · refine .bind (serving_release (call_serving rfl) [sid] []) (fun _ => releaseMachine_stable _)
      fun _ => ?_
    refine .bind (serving_release (tellTray_serving _) [sid] [])
      (fun _ => releaseMachine_stable _) fun _ => ?_
    refine giveUp_spec (releaseMachine_stable _) (fun _ => releaseMachine_stable _)
      (fun _ => releaseMachine_stable _) ?_
    intro w e a w' _ hassume hact
    obtain ⟨-, rfl⟩ := releaseMachine_act hact
    exact hassume.failure _ rfl
  · refine .bind (serving_release (use_serving rfl _) [sid] []) (fun _ => releaseMachine_stable _)
      fun _ => ?_
    refine .bind (endWssSession_release endReason []) (fun _ => releaseMachine_stable _)
      fun _ => ?_
    refine .bind (serving_release (call_serving rfl) [] []) (fun _ => releaseMachine_stable _)
      fun _ => ?_
    exact hfree (tellTray_serving _)

/-- **A session that completes is released.** -/
theorem handleOneSession_release (n : Nat) :
    Spec (releaseMachine cfg) (waitingOnlyIf (Orderly cfg) Free) Free (handleOneSession cfg X n)
      (fun _ => Free) (Settled cfg) := by
  unfold handleOneSession
  split_ifs with hagent
  · refine .bind (accept_release n) (fun _ => releaseMachine_stable _) fun ⟨sid, mode⟩ => ?_
    rw [if_pos hagent]
    refine .bind (serving_release (runSessionAgent_serving n) [sid] [sid])
      (fun _ => releaseMachine_stable _) fun reason => ?_
    refine .bind (detachAgent_release reason [sid]) (fun _ => releaseMachine_stable _) fun _ => ?_
    refine .bind (endWssSession_release reason []) (fun _ => releaseMachine_stable _) fun _ => ?_
    exact (serving_release (tellTray_serving _) [] []).conseq (fun _ h => h)
      (fun _ _ h => Obligations.owes_nil.mp h) fun _ _ h => h
  · refine .bind (accept_release n) (fun _ => releaseMachine_stable _) fun ⟨sid, mode⟩ => ?_
    rw [if_neg hagent]
    refine .bind (handling_release (runSessionLocal_handling n mode) [sid] [])
      (fun _ => releaseMachine_stable _) fun ⟨pump, reason⟩ => ?_
    exact concludeSessionLocal_release pump reason

/-! ## Runs -/

/-- Starting, and minting a new code, owes nothing. -/
theorem within_release {A : HostAction → Prop} {α : Type} {p : HostM α}
    (hp : Within A (fun _ => False) p.run)
    (hA : ∀ o, A o → o ≠ .waitingForIncoming ∧ ∀ sid seq, o ≠ .send (.sessionAccept sid seq))
    (assume : HostCall → ((o : HostAction) → HostAnswer o) → Obligations → Prop) :
    Spec (releaseMachine cfg) (waitingOnlyIf assume Free) Free p (fun _ => Free)
      fun _ => Free := by
  refine Within.spec hp (releaseMachine_stable _) (fun _ => releaseMachine_stable _) ?_ ?_
    (fun _ _ _ hfalse => hfalse.elim) fun _ _ _ _ _ _ hfalse => hfalse.elim
  · exact fun c w hc _ hwait => absurd hwait (hA _ hc).1
  · intro c w e a w' hc hw _ hact
    obtain ⟨rfl, rfl⟩ := releaseMachine_act hact
    have hfree := Obligations.owes_nil.mp
      (@Obligations.Owes.after cfg w [] [] c.action (Obligations.owes_nil.mpr hw) (hA _ hc).2
        (e c.action))
    exact ⟨hfree, fun _ _ => hfree⟩

/-- The service settles what it owes. -/
theorem upkeep_release :
    Upkeep cfg X (releaseMachine cfg) (Orderly cfg) Free Free (Settled cfg) where
  cleanStable := releaseMachine_stable _
  doneStable := releaseMachine_stable _
  lostStable _ := releaseMachine_stable _
  session n := handleOneSession_release n
  remint enrolled := by
    unfold remintAfter
    split_ifs
    · refine Spec.ignoring (L := waitingOnlyIf (fun _ _ _ => True) Free) (fun _ _ _ _ => trivial)
        (fun _ _ h => h) (releaseMachine_stable _) ?_
      refine within_release (maybeMintOtp_within (A := fun o => mints o = true) (fun _ h _ => h)
        cfg enrolled) (fun o ho => ?_) _
      constructor
      · rintro rfl
        cases ho
      · rintro sid seq rfl
        cases ho
    · exact .pure (releaseMachine_stable _) fun _ hw => hw
  connect c w e a w' hc hw _ hact := by
    obtain ⟨rfl, rfl⟩ := releaseMachine_act hact
    refine Obligations.owes_nil.mp ((Obligations.owes_nil.mpr hw).after ?_ _)
    intro sid seq heq
    rw [heq] at hc
    cases hc
  waits t w ht hw := hw.1 ht
  asksTray t ht := by
    refine .call (releaseMachine_stable _) (fun _ => releaseMachine_stable _)
      (fun _ _ hwait => by cases hwait) ?_
    intro w e exits w' _ hassume hact hexits
    obtain ⟨rfl, rfl⟩ := releaseMachine_act hact
    refine hassume.tray rfl hexits ?_
    by_contra hmulti
    unfold WsHostConfig.aftermath at ht
    split_ifs at ht
  reconnects t ht := by
    refine .call (releaseMachine_stable _) (fun _ => releaseMachine_stable _)
      (fun _ _ hwait => by cases hwait) ?_
    intro w e a w' hw _ hact
    obtain ⟨rfl, rfl⟩ := releaseMachine_act hact
    exact ⟨rfl, hw.2 ht⟩

/-- **Sessions are released**: in every run in which the service is in order, the host waits for a
session only when it has ended every session it has accepted, or closed its connection, and has
detached the agent from it. -/
theorem session_released
    {s : Prog HostCall (fun c => HostAnswer c.action) (Except String Nat) × Obligations}
    (h : ((releaseMachine cfg).system (serviceRuns cfg X) (· = .none)).ReachableVia
      (waitingOnlyIf (Orderly cfg) Free).Assumed s)
    (hs : waiting s.1 = true) : s.2.held = [] ∧ s.2.attached = [] := by
  refine upkeep_release.always ?_ h hs
  refine (within_release (startHost_within (A := fun o => starts o = true) (fun _ h _ => h) cfg)
    (fun o ho => ?_) _).conseq ?_ (fun _ _ h => h) fun _ _ _ => trivial
  · constructor
    · rintro rfl
      cases ho
    · rintro sid seq rfl
      cases ho
  · rintro w rfl
    exact ⟨rfl, rfl⟩

end

/-! ## Two runs -/

/-- A step on which no caller gives up, the tray is not asked, and messages to the server and the
agent arrive. -/
def smoothStep (s : Prog HostCall (fun c => HostAnswer c.action) (Except String Nat) × Obligations) :
    Event ((o : HostAction) → HostAnswer o) Empty → Bool
  | .act answers =>
    match s.1 with
    | .op c _ => (c.givesUp (answers c.action)).isNone &&
      match c.action with
      | .takeExit => false
      | .send msg => (answers (.send msg)).toBool
      | .agentRequest msg => (answers (.agentRequest msg)).toBool
      | _ => true
    | _ => true
  | .interfere _ => true

/-- Such a step is in order. -/
theorem orderly_of_smoothStep {cfg : WsHostConfig}
    {s : Prog HostCall (fun c => HostAnswer c.action) (Except String Nat) × Obligations}
    {e : Event ((o : HostAction) → HostAnswer o) Empty} (h : smoothStep s e = true) :
    (waitingOnlyIf (Orderly cfg) Free).Assumed s e := by
  obtain ⟨p, w⟩ := s
  rcases e with answers | i
  · rcases p with a | ⟨⟨o, givesUp⟩, k⟩ | _
    · trivial
    · obtain ⟨hnone, hkind⟩ := Bool.and_eq_true_iff.mp h
      refine ⟨fun text htext => ?_, ?_, ?_, ?_⟩
      · rw [htext] at hnone
        cases hnone
      · rintro rfl
        cases hkind
      · rintro sid seq reason rfl
        obtain ⟨u, hu⟩ := exists_ok_of_toBool hkind
        exact hu
      · rintro sid reason rfl
        exact exists_ok_of_toBool hkind
    · trivial
  · trivial

/-- A service without end, which sends one frame in each session. -/
def demoService : WsHostConfig := ⟨1, 0, true, false, false, false, none, none⟩

/-- The service before its first step. -/
def demoStart (n : Nat) :
    Prog HostCall (fun c => HostAnswer c.action) (Except String Nat) × Obligations :=
  ((runWsHostService demoService demoText n).run, .none)

/-- From the start to the accept of a session, and to its offer. -/
def demoOffered : List (Event ((o : HostAction) → HostAnswer o) Empty) :=
  List.replicate 3 (.act (demoAnswers (.error .closed) false)) ++
    .act (demoAnswers (.ok (.helloOk "" .null)) false) ::
    List.replicate 2 (.act (demoAnswers (.error .closed) false)) ++
    .act (demoAnswers (.ok (.sessionIncoming "s" 1 .null .otp .ok)) false) ::
    List.replicate 10 (.act (demoAnswers (.error .closed) false))

/-- The viewer answers, one frame is sent, and the session is ended. -/
def demoCompleted : List (Event ((o : HostAction) → HostAnswer o) Empty) :=
  demoOffered ++ .act (demoAnswers (.error .closed) false) ::
    .act (demoAnswers (.ok (.sessionAnswer "s" 3 "v=0")) false) ::
    List.replicate 14 (.act (demoAnswers (.error .closed) false))

/-- The viewer does not answer in time. -/
def demoSilent : List (Event ((o : HostAction) → HostAnswer o) Empty) :=
  demoOffered ++ [.act (demoAnswers (.error .closed) true)]

/-- A session that is completed is released. -/
theorem session_released_demo :
    ∃ s, waiting s.1 = true ∧ s.2.held = [] ∧ s.2.attached = [] ∧
      (((releaseMachine demoService).system (serviceRuns demoService demoText)
        (· = .none)).restrict smoothStep).runFrom (demoStart 4) demoCompleted =
          some s := by
  have hrun : ∃ s, (((releaseMachine demoService).system (serviceRuns demoService demoText)
      (· = .none)).restrict smoothStep).runFrom (demoStart 4) demoCompleted =
        some s ∧ waiting s.1 = true := ⟨_, rfl, by decide⟩
  obtain ⟨s, hs, hwaiting⟩ := hrun
  have hinit : (((releaseMachine demoService).system (serviceRuns demoService demoText)
      (· = .none)).restrict smoothStep).Reachable (demoStart 4) :=
    .init ⟨⟨4, rfl⟩, rfl⟩
  have hvia : ((releaseMachine demoService).system (serviceRuns demoService demoText)
      (· = .none)).ReachableVia (waitingOnlyIf (Orderly demoService) Free).Assumed s := by
    exact System.reachableVia_of_restrict (fun _ _ h => orderly_of_smoothStep h)
      (System.reachable_of_runFrom hinit hs)
  obtain ⟨hheld, hattached⟩ := session_released hvia hwaiting
  exact ⟨s, hwaiting, hheld, hattached, hs⟩

/-- **A session is kept**: when the viewer does not answer, the service waits for the next session
and still holds this one. -/
theorem session_kept :
    ¬∀ s, ((releaseMachine demoService).system (serviceRuns demoService demoText)
      (· = .none)).Reachable s → waiting s.1 = true → s.2.held = [] ∧ s.2.attached = [] := by
  intro h
  have hrun : ∃ s, ((releaseMachine demoService).system (serviceRuns demoService demoText)
      (· = .none)).runFrom (demoStart 4) demoSilent = some s ∧ waiting s.1 = true ∧
        s.2.held = ["s"] := ⟨_, rfl, by decide⟩
  obtain ⟨s, hs, hwaiting, hheld⟩ := hrun
  have hinit : ((releaseMachine demoService).system (serviceRuns demoService demoText)
      (· = .none)).Reachable (demoStart 4) := .init ⟨⟨4, rfl⟩, rfl⟩
  have hfree := (h s (System.reachable_of_runFrom hinit hs) hwaiting).1
  rw [hheld] at hfree
  cases hfree

end RemoteLink.Host
