import RemoteLink.Host.LiveOtp

set_option autoImplicit false

/-!
# The intake of data messages

A poll takes all messages that wait and hands them to their handlers one by one. The handler of
identity messages can fail, and its failure ends the poll: what was taken with the message and
stands behind it is gone.

## Main definitions

* `Intake` — a message that has been handed to its handler, with the outcome.
* `intakeRun`, `pollIntake` — the handling and the poll, with a record of what they handle.
* `Accepts` — the identity messages that the manager accepts.
* `LosesNothing` — every message is handled once and counted, or still waits.

## Main results

* `intakeRun_eq`, `pollIntake_eq` — the record changes nothing.
* `handled_iff` — when all messages of a batch are handled.
* `intake_loses_nothing_iff` — when a poll loses nothing.
-/

namespace RemoteLink.Host

open Library Net Auth
open Platform (InjectAnswers)
open Protocol (saturatingSucc)

variable {π : Type} {C : Crypto} {T : PeerTransport π} {J : Codec} {ans : ℕ → InjectAnswers}

/-! ## The record -/

/-- A message that has been handed to its handler, with the outcome if it is an input message. -/
structure Intake where
  msg : DataMessage
  outcome : Option InputProcessOutcome
  deriving Repr, DecidableEq

/-- Whether a message is on one of the two channels that the manager listens to. -/
def isForManager (msg : DataMessage) : Bool :=
  decide (msg.label = identityChannelLabel) || decide (msg.label = inputChannelLabel)

/-- A result of a run with a record. -/
abbrev IntakeRun (π : Type) :=
  List Intake × EStateM.Result SessionError (SessionManager π) InboundStats

/-- One more entry at the front of the record. -/
def IntakeRun.logged (entry : Intake) (r : IntakeRun π) : IntakeRun π := (entry :: r.1, r.2)

open SessionManager (handleIdentityData processInputMessage handleInbound pollInbound onPeer)

/-- The handling of messages, with a record of them. -/
def intakeRun (C : Crypto) (T : PeerTransport π) (J : Codec) (ans : ℕ → InjectAnswers) :
    List DataMessage → ℕ → InboundStats → SessionManager π → IntakeRun π
  | [], _, stats, m => ([], .ok stats m)
  | msg :: msgs, i, stats, m =>
    if msg.label = identityChannelLabel then
      match handleIdentityData C T msg.data m with
      | .error e m => ([⟨msg, none⟩], .error e m)
      | .ok () m => IntakeRun.logged ⟨msg, none⟩ (intakeRun C T J ans msgs (i + 1)
          { stats with identityMessages := stats.identityMessages + 1 } m)
    else if msg.label = inputChannelLabel then
      let r := processInputMessage J (ans i) msg m
      IntakeRun.logged ⟨msg, some r.1⟩ (intakeRun C T J ans msgs (i + 1)
        (SessionManager.InboundStats.count stats r.1) r.2)
    else intakeRun C T J ans msgs (i + 1) stats m

/-- Nothing counted. -/
def noStats : InboundStats := ⟨0, 0, 0, 0, 0⟩

/-- A poll with a record of what it handles. -/
def pollIntake (C : Crypto) (T : PeerTransport π) (J : Codec) (ans : ℕ → InjectAnswers)
    (m : SessionManager π) : IntakeRun π :=
  match onPeer T.poll m with
  | .error e m => ([], .error e m)
  | .ok () m => intakeRun C T J ans m.takeData.1 0 noStats m.takeData.2

/-- **The record changes nothing** about the handling. -/
theorem intakeRun_eq (msgs : List DataMessage) (i : ℕ) (stats : InboundStats)
    (m : SessionManager π) :
    (intakeRun C T J ans msgs i stats m).2 = handleInbound C T J ans msgs i stats m := by
  induction msgs generalizing i stats m with
  | nil => rfl
  | cons msg msgs ih =>
    rw [intakeRun, handleInbound]
    split_ifs with hidentity hinput
    · cases hres : handleIdentityData C T msg.data m with
      | error e m' => exact (bind_of_error hres _).symm
      | ok u m' =>
        rw [bind_of_ok hres]
        exact ih (i + 1) _ m'
    · exact ih (i + 1) _ _
    · exact ih (i + 1) _ _

/-- The record changes nothing about the poll. -/
theorem pollIntake_eq (m : SessionManager π) :
    (pollIntake C T J ans m).2 = pollInbound C T J ans m := by
  unfold pollIntake pollInbound
  cases hres : onPeer T.poll m with
  | error e m' => exact (bind_of_error hres _).symm
  | ok u m' =>
    rw [bind_of_ok hres]
    exact intakeRun_eq _ 0 noStats _

/-! ## What is promised -/

/-- The manager when the transport has been polled, before any message is taken. -/
def polled (T : PeerTransport π) (m : SessionManager π) : SessionManager π :=
  after (onPeer T.poll : SessionM π Unit) m

/-- The messages for the manager that wait after the transport has been polled. -/
def batch (T : PeerTransport π) (m : SessionManager π) : List DataMessage :=
  (polled T m).cb.data.filter isForManager

/-- What a manager has counted: refused, malformed and limited input, and the events it has
injected. -/
structure Tallies where
  refused : UInt64
  malformed : UInt64
  limited : UInt64
  injected : ℕ
  deriving Repr, DecidableEq

/-- Whether a step is an injection. -/
def GateEvent.isInjected : GateEvent π → Bool
  | .injected _ => true
  | _ => false

/-- What a manager has counted. -/
def tallies (m : SessionManager π) : Tallies :=
  ⟨m.rejectedInputCount, m.inputDecodeErrors, m.inputRateLimited,
    m.trace.countP GateEvent.isInjected⟩

/-- One outcome moves one counter. -/
def Tallies.count (t : Tallies) : InputProcessOutcome → Tallies
  | .injected => { t with injected := t.injected + 1 }
  | .rejectedGate | .injectError => { t with refused := saturatingSucc t.refused }
  | .decodeError => { t with malformed := saturatingSucc t.malformed }
  | .rateLimited => { t with limited := saturatingSucc t.limited }

/-- An entry of the record in the counters of the manager. -/
def Tallies.add (t : Tallies) (entry : Intake) : Tallies :=
  match entry.outcome with
  | none => t
  | some outcome => t.count outcome

/-- An entry of the record in the numbers that the poll reports. -/
def reportOf (stats : InboundStats) (entry : Intake) : InboundStats :=
  match entry.outcome with
  | none => { stats with identityMessages := stats.identityMessages + 1 }
  | some outcome => SessionManager.InboundStats.count stats outcome

/-- **A poll loses nothing**: of the messages that wait, each has been handled once, in order, or
still waits; each input message that has been handled has one outcome and is counted under it. -/
structure LosesNothing (C : Crypto) (T : PeerTransport π) (J : Codec) (ans : ℕ → InjectAnswers)
    (m : SessionManager π) : Prop where
  handled : (pollIntake C T J ans m).1.map Intake.msg ++
    (after (pollInbound C T J ans) m).cb.data.filter isForManager = batch T m
  outcome : ∀ entry ∈ (pollIntake C T J ans m).1,
    entry.msg.label = identityChannelLabel ∧ entry.outcome = none ∨
      entry.msg.label = inputChannelLabel ∧ entry.outcome ≠ none
  counted : tallies (after (pollInbound C T J ans) m) =
    (pollIntake C T J ans m).1.foldl Tallies.add (tallies (polled T m))
  reported : ∀ stats m', pollInbound C T J ans m = .ok stats m' →
    stats = (pollIntake C T J ans m).1.foldl reportOf noStats

/-- The identity messages that a manager accepts: responses to the challenge it has sent, with a tag
that verifies under its key. -/
def Accepts (C : Crypto) (T : PeerTransport π) (m : SessionManager π) (data : Bytes) : Prop :=
  ∃ r c key, DcIdentityMessage.parse data = .ok (.response r) ∧ m.pendingDcChallenge = some c ∧
    m.bindKey = some key ∧ History.Verified C T key m.identity.sessionId c r m.peer

/-- Messages of which all but the last contain at most one identity message, which is accepted. -/
def Harmless (C : Crypto) (T : PeerTransport π) (m : SessionManager π)
    (msgs : List DataMessage) : Prop :=
  identityOnly msgs.dropLast = [] ∨
    ∃ msg, identityOnly msgs.dropLast = [msg] ∧ Accepts C T m msg.data

/-! ## Identity messages -/

variable {m m' : SessionManager π} {data : Bytes} {msg : DataMessage} {msgs rest : List DataMessage}
  {c : DcIdentityChallenge} {r : DcIdentityResponse} {key : SessionBindKey}

/-- A response that verifies passes its check. -/
theorem verifyResponse_of_verified (hkey : m.bindKey = some key)
    (h : History.Verified C T key m.identity.sessionId c r m.peer) :
    ∃ m', SessionManager.verifyResponse C T c r m = .ok () m' ∧
      m'.pendingDcChallenge = m.pendingDcChallenge := by
  obtain ⟨fpHost, fpViewer, hlocal, hremote, hverify⟩ := h
  have hbind : completeDcBind C m.identity key c r fpHost.asSignMaterial fpViewer.asSignMaterial =
      .ok m.identity.markIdentityBound := completeDcBind_ok.mpr ⟨hverify, rfl⟩
  simp only [SessionManager.verifyResponse, hkey, hlocal, hremote, hbind]
  exact ⟨_, rfl, rfl⟩

/-- **An identity message that is accepted** is handled without an error, and no challenge is
pending after it. -/
theorem handleIdentityData_of_accepts (h : Accepts C T m data) :
    ∃ m', handleIdentityData C T data m = .ok () m' ∧ m'.pendingDcChallenge = none := by
  obtain ⟨r, c, key, hparse, hpending, hkey, hverified⟩ := h
  set asked := SessionManager.note { m with pendingDcChallenge := none } (.answered c r) with hasked
  have hstep : handleIdentityData C T data m = SessionManager.verifyResponse C T c r asked := by
    simp only [handleIdentityData, hparse, SessionManager.handleResponse, hpending, hasked]
  have hkey' : asked.bindKey = some key := hkey
  have hverified' : History.Verified C T key asked.identity.sessionId c r asked.peer := hverified
  obtain ⟨m', hres, hkept⟩ := verifyResponse_of_verified hkey' hverified'
  exact ⟨m', hstep.trans hres, hkept⟩

/-- **Any other identity message** is an error. -/
theorem handleIdentityData_of_not_accepts (h : ¬Accepts C T m data) :
    ∃ e m', handleIdentityData C T data m = .error e m' := by
  unfold handleIdentityData
  cases hparse : DcIdentityMessage.parse data with
  | error e => exact ⟨_, _, rfl⟩
  | ok message =>
    cases message with
    | challenge c => exact ⟨_, _, rfl⟩
    | response r =>
      simp only [SessionManager.handleResponse]
      cases hpending : m.pendingDcChallenge with
      | none => exact ⟨_, _, rfl⟩
      | some c =>
        obtain ⟨e, herror⟩ | ⟨key, hkey, hverified, -⟩ := verifyResponse_cases C T c r
          ({ m with pendingDcChallenge := none }.note (.answered c r))
        · exact ⟨e, _, herror⟩
        · exact absurd ⟨r, c, key, hparse, hpending, hkey, hverified⟩ h

/-- Without a pending challenge nothing is accepted. -/
theorem not_accepts_of_no_challenge (h : m.pendingDcChallenge = none) (data : Bytes) :
    ¬Accepts C T m data := by
  rintro ⟨r, c, key, -, hpending, -⟩
  rw [h] at hpending
  cases hpending

/-- What is accepted depends on the identity exchange only. -/
theorem accepts_congr (h : bindState m' = bindState m) :
    Accepts C T m' data ↔ Accepts C T m data := by
  simp only [bindState, Prod.mk.injEq] at h
  obtain ⟨hpeer, hkey, hidentity, hpending⟩ := h
  rw [Accepts, Accepts, hpeer, hkey, hidentity, hpending]

/-! ## Batches -/

theorem filter_manager_cons_of_pos (h : isForManager msg = true) :
    (msg :: msgs).filter isForManager = msg :: msgs.filter isForManager :=
  List.filter_cons_of_pos h

/-- A message in front of others is one of those that have a message behind them. -/
theorem identityOnly_dropLast_cons (msg : DataMessage) (msgs : List DataMessage) (h : msgs ≠ []) :
    identityOnly (msg :: msgs).dropLast =
      identityOnly [msg] ++ identityOnly msgs.dropLast := by
  rw [List.dropLast_cons_of_ne_nil h, ← identityOnly_append]
  rfl

/-- An input message in front of a batch does not matter. -/
theorem harmless_cons_of_input (h : msg.label ≠ identityChannelLabel) :
    Harmless C T m (msg :: msgs) ↔ Harmless C T m msgs := by
  by_cases hmsgs : msgs = []
  · subst hmsgs
    exact iff_of_true (Or.inl rfl) (Or.inl rfl)
  · have hnone : identityOnly [msg] = [] := identityOnly_eq_nil.mpr (by simpa using h)
    rw [Harmless, Harmless, identityOnly_dropLast_cons msg msgs hmsgs, hnone, List.nil_append]

/-- An identity message in front of others must be accepted, and must be the only one of those with
a message behind them. -/
theorem harmless_cons_of_identity (h : msg.label = identityChannelLabel) (hmsgs : msgs ≠ []) :
    Harmless C T m (msg :: msgs) ↔ Accepts C T m msg.data ∧ identityOnly msgs.dropLast = [] := by
  have hone : identityOnly [msg] = [msg] := by simp [identityOnly, h]
  rw [Harmless, identityOnly_dropLast_cons msg msgs hmsgs, hone, List.singleton_append]
  constructor
  · rintro (hnil | ⟨other, hlist, hother⟩)
    · cases hnil
    · obtain ⟨rfl, hrest⟩ := List.cons.inj hlist
      exact ⟨hother, hrest⟩
  · rintro ⟨haccepts, hrest⟩
    exact Or.inr ⟨msg, by rw [hrest], haccepts⟩

/-- After an accepted response only batches without further identity messages are harmless. -/
theorem harmless_of_no_challenge (h : m.pendingDcChallenge = none) :
    Harmless C T m msgs ↔ identityOnly msgs.dropLast = [] := by
  constructor
  · rintro (hnone | ⟨msg, -, haccepts⟩)
    · exact hnone
    · exact absurd haccepts (not_accepts_of_no_challenge h _)
  · exact Or.inl

theorem harmless_congr (h : bindState m' = bindState m) :
    Harmless C T m' msgs ↔ Harmless C T m msgs := by
  simp only [Harmless, accepts_congr h]

/-- **When all messages of a batch are handled.** -/
theorem handled_iff (msgs : List DataMessage) (i : ℕ) (stats : InboundStats)
    (m : SessionManager π) :
    (intakeRun C T J ans msgs i stats m).1.map Intake.msg = msgs.filter isForManager ↔
      Harmless C T m (msgs.filter isForManager) := by
  induction msgs generalizing i stats m with
  | nil => exact iff_of_true rfl (Or.inl rfl)
  | cons msg msgs ih =>
    rw [intakeRun]
    by_cases hidentity : msg.label = identityChannelLabel
    · have hkept : isForManager msg = true := by simp [isForManager, hidentity]
      rw [if_pos hidentity, filter_manager_cons_of_pos hkept]
      by_cases haccepts : Accepts C T m msg.data
      · obtain ⟨m', hres, hpending⟩ := handleIdentityData_of_accepts haccepts
        rw [hres]
        simp only [IntakeRun.logged, List.map_cons, List.cons.injEq, true_and]
        rw [ih, harmless_of_no_challenge hpending]
        by_cases hrest : msgs.filter isForManager = []
        · rw [hrest]
          exact iff_of_true rfl (Or.inl rfl)
        · rw [harmless_cons_of_identity hidentity hrest, and_iff_right haccepts]
      · obtain ⟨e, m', hres⟩ := handleIdentityData_of_not_accepts haccepts
        rw [hres]
        simp only [List.map_cons, List.map_nil, List.cons.injEq, true_and]
        by_cases hrest : msgs.filter isForManager = []
        · rw [hrest]
          exact iff_of_true rfl (Or.inl rfl)
        · rw [harmless_cons_of_identity hidentity hrest]
          exact iff_of_false (fun h => hrest h.symm) fun h => haccepts h.1
    · rw [if_neg hidentity]
      by_cases hinput : msg.label = inputChannelLabel
      · have hkept : isForManager msg = true := by simp [isForManager, hinput]
        rw [if_pos hinput, filter_manager_cons_of_pos hkept, harmless_cons_of_input hidentity]
        simp only [IntakeRun.logged, List.map_cons, List.cons.injEq, true_and]
        rw [ih, harmless_congr (bindState_input (ans i) msg)]
      · have hskipped : ¬isForManager msg = true := by simp [isForManager, hidentity, hinput]
        rw [if_neg hinput, List.filter_cons_of_neg hskipped]
        exact ih (i + 1) stats m

/-! ## Counters -/

/-- An identity message is not counted by the manager. -/
theorem tallies_identityData (data : Bytes) (m : SessionManager π) :
    tallies (after (handleIdentityData C T data : SessionM π Unit) m) = tallies m := by
  unfold after handleIdentityData
  cases DcIdentityMessage.parse data with
  | error e => rfl
  | ok message =>
    cases message with
    | challenge c => rfl
    | response r =>
      simp only [SessionManager.handleResponse]
      cases hpending : m.pendingDcChallenge with
      | none => rfl
      | some c =>
        obtain ⟨e, hres⟩ | ⟨key, -, -, hres⟩ := verifyResponse_cases C T c r
          (SessionManager.note { m with pendingDcChallenge := none } (.answered c r))
        · simp only [hres]
          rfl
        · simp only [hres]
          rfl

/-- **An input message moves the counter of its outcome** and no other. -/
theorem tallies_processInput (ans : InjectAnswers) (msg : DataMessage) (m : SessionManager π) :
    tallies (processInputMessage J ans msg m).2 =
      (tallies m).count (processInputMessage J ans msg m).1 := by
  unfold processInputMessage
  split
  · rfl
  · split
    · rfl
    · split
      · have hinjected : GateEvent.isInjected (π := π) (.injected ‹_›) = true := rfl
        simp only [tallies, Tallies.count, SessionManager.note, SessionManager.pushAcceptedInput]
        rw [List.countP_cons_of_pos hinjected]
      · rfl
      · rfl

/-- **Each entry of the record is counted once.** -/
theorem intakeRun_counted (msgs : List DataMessage) (i : ℕ) (stats : InboundStats)
    (m : SessionManager π) :
    tallies (finalState (intakeRun C T J ans msgs i stats m).2) =
      (intakeRun C T J ans msgs i stats m).1.foldl Tallies.add (tallies m) := by
  induction msgs generalizing i stats m with
  | nil => rfl
  | cons msg msgs ih =>
    rw [intakeRun]
    split_ifs with hidentity hinput
    · have hsame := tallies_identityData (C := C) (T := T) msg.data m
      cases hres : handleIdentityData C T msg.data m with
      | error e m' =>
        rw [after_error hres] at hsame
        exact hsame
      | ok u m' =>
        rw [after_ok hres] at hsame
        have hrun := ih (i + 1) { stats with identityMessages := stats.identityMessages + 1 } m'
        rw [hsame] at hrun
        exact hrun
    · have hrun := ih (i + 1)
        (SessionManager.InboundStats.count stats (processInputMessage J (ans i) msg m).1)
        (processInputMessage J (ans i) msg m).2
      rw [tallies_processInput] at hrun
      exact hrun
    · exact ih (i + 1) stats m

/-- Each entry of the record is in the numbers that the poll reports. -/
theorem intakeRun_reported {stats' : InboundStats} {m' : SessionManager π}
    (msgs : List DataMessage) (i : ℕ) (stats : InboundStats) (m : SessionManager π)
    (h : (intakeRun C T J ans msgs i stats m).2 = .ok stats' m') :
    stats' = (intakeRun C T J ans msgs i stats m).1.foldl reportOf stats := by
  induction msgs generalizing i stats m with
  | nil =>
    rw [intakeRun] at h
    exact (EStateM.Result.ok.inj h).1.symm
  | cons msg msgs ih =>
    rw [intakeRun] at h ⊢
    split_ifs at h ⊢ with hidentity hinput
    · cases hres : handleIdentityData C T msg.data m with
      | error e m₁ =>
        rw [hres] at h
        cases h
      | ok u m₁ =>
        rw [hres] at h
        exact ih (i + 1) _ m₁ h
    · exact ih (i + 1) _ _ h
    · exact ih (i + 1) stats m h

/-- Input messages have an outcome, identity messages have none. -/
theorem intakeRun_outcome (msgs : List DataMessage) (i : ℕ) (stats : InboundStats)
    (m : SessionManager π) : ∀ entry ∈ (intakeRun C T J ans msgs i stats m).1,
      entry.msg.label = identityChannelLabel ∧ entry.outcome = none ∨
        entry.msg.label = inputChannelLabel ∧ entry.outcome ≠ none := by
  induction msgs generalizing i stats m with
  | nil => exact fun entry hentry => absurd hentry List.not_mem_nil
  | cons msg msgs ih =>
    rw [intakeRun]
    split_ifs with hidentity hinput
    · have hhead : (⟨msg, none⟩ : Intake).msg.label = identityChannelLabel ∧
          (⟨msg, none⟩ : Intake).outcome = none := ⟨hidentity, rfl⟩
      cases hres : handleIdentityData C T msg.data m with
      | error e m' => exact List.forall_mem_singleton.mpr (Or.inl hhead)
      | ok u m' => exact List.forall_mem_cons.mpr ⟨Or.inl hhead, ih (i + 1) _ m'⟩
    · refine List.forall_mem_cons.mpr ⟨Or.inr ⟨hinput, ?_⟩, ih (i + 1) _ _⟩
      exact Option.some_ne_none _
    · exact ih (i + 1) stats m

/-- The handling of messages leaves the sink alone. -/
theorem intakeRun_cb (msgs : List DataMessage) (i : ℕ) (stats : InboundStats)
    (m : SessionManager π) :
    (finalState (intakeRun C T J ans msgs i stats m).2).cb = m.cb := by
  have hoff : OffInbound fun m : SessionManager π => m.cb := ⟨fun _ _ _ _ => rfl,
    fun _ _ _ _ _ _ _ => rfl⟩
  rw [intakeRun_eq]
  exact keeps_handleInbound hoff C T J ans msgs i stats m

/-! ## Polls -/

/-- A poll of the transport that fails takes nothing. -/
theorem losesNothing_of_poll_error {e : NetError} (h : (T.poll m.peer).result = .error e) :
    LosesNothing C T J ans m := by
  obtain ⟨m', hres⟩ : ∃ m', onPeer T.poll m = .error (.transport e) m' := by
    dsimp only [onPeer]
    rw [h]
    exact ⟨_, rfl⟩
  have hintake : pollIntake C T J ans m = ([], .error (.transport e) m') := by
    rw [pollIntake, hres]
  have hpoll : pollInbound C T J ans m = .error (.transport e) m' := by
    rw [← pollIntake_eq, hintake]
  have hpolled : polled T m = m' := after_error hres
  constructor
  · rw [hintake, after_error hpoll, batch, hpolled]
    rfl
  · rw [hintake]
    exact fun entry hentry => absurd hentry List.not_mem_nil
  · rw [hintake, after_error hpoll, hpolled]
    rfl
  · intro stats m₁ hok
    rw [hpoll] at hok
    cases hok

/-- **A poll takes all messages that wait**: it loses nothing when it handles all of them. -/
theorem losesNothing_iff_harmless (h : (T.poll m.peer).result = .ok ()) :
    LosesNothing C T J ans m ↔ Harmless C T (polled T m) (batch T m) := by
  have hok : onPeer T.poll m = .ok () { m with
      peer := (T.poll m.peer).peer
      cb := m.cb.deliver (T.poll m.peer).callbacks } := onPeer_ok.mpr ⟨h, rfl⟩
  have hres : onPeer T.poll m = .ok () (polled T m) := by rw [polled, after_ok hok, hok]
  set taken := (polled T m).takeData.2 with htaken
  have hintake : pollIntake C T J ans m =
      intakeRun C T J ans (polled T m).cb.data 0 noStats taken := by
    rw [pollIntake, hres]
    rfl
  have hpoll : pollInbound C T J ans m = (pollIntake C T J ans m).2 := (pollIntake_eq m).symm
  have hwaiting : (after (pollInbound C T J ans) m).cb.data = [] := by
    rw [after, hpoll, hintake, intakeRun_cb]
    rfl
  have hhandled : (pollIntake C T J ans m).1.map Intake.msg = batch T m ↔
      Harmless C T (polled T m) (batch T m) := by
    rw [hintake, batch, handled_iff]
    exact harmless_congr rfl
  rw [← hhandled]
  constructor
  · intro hnone
    have hall := hnone.handled
    rwa [hwaiting, List.filter_nil, List.append_nil] at hall
  · intro hall
    constructor
    · rwa [hwaiting, List.filter_nil, List.append_nil]
    · rw [hintake]
      exact intakeRun_outcome _ 0 noStats taken
    · rw [after, hpoll, hintake]
      exact intakeRun_counted _ 0 noStats taken
    · intro stats m' hok
      rw [hpoll, hintake] at hok
      rw [hintake]
      exact intakeRun_reported _ 0 noStats taken hok

/-- **When a poll loses nothing.** Either the transport cannot be polled and nothing is taken, or
among the messages with another one behind them there is no identity message except one that is
accepted. -/
theorem intake_loses_nothing_iff (C : Crypto) (T : PeerTransport π) (J : Codec)
    (ans : ℕ → InjectAnswers) (m : SessionManager π) :
    LosesNothing C T J ans m ↔
      (∃ e, (T.poll m.peer).result = .error e) ∨ Harmless C T (polled T m) (batch T m) := by
  cases hpoll : (T.poll m.peer).result with
  | error e => exact iff_of_true (losesNothing_of_poll_error hpoll) (Or.inl ⟨e, rfl⟩)
  | ok u =>
    rw [losesNothing_iff_harmless hpoll]
    simp

/-- A message without bytes on the identity channel. -/
def emptyIdentity : DataMessage := ⟨identityChannelLabel, [], false⟩

/-- A manager with an input message behind an empty identity message. -/
def burdened : SessionManager MockPeer :=
  { demoManager with cb.data := [emptyIdentity, demoInput] }

/-- **The input message behind an empty identity message is lost.** -/
theorem intake_drops_input :
    ¬∀ ans m, LosesNothing .windowed mockTransport demoCodec ans m := by
  intro h
  have hlost := (h (fun _ => ⟨0, .ok ()⟩) burdened).handled
  revert hlost
  decide

end RemoteLink.Host
