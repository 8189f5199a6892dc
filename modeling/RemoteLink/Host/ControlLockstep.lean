import RemoteLink.Host.BootSecret
import RemoteLink.Platform.Codec

set_option autoImplicit false

/-!
# Requests and rounds in lockstep

The service sends one command and reads its reply and the signals behind it up to the end mark; the
agent answers a command with one round. Both loops share one stream and agree on where a round ends
without any numbering, so a frame that is left over is taken for the answer to the next command.
The stream carries whole messages here: a frame that was encoded is read as its message.

## Main definitions

* `clientReceives` — what a request does with the next message.
* `controlLink` — runs of a client and a serving loop, with the calls that have returned and the
  rounds that have been answered.
* `Lockstep` — every call has returned the round of its command.

## Main results

* `control_lockstep` — as long as no call of the stream fails, both ends are in lockstep and the
  next request returns its round.
* `control_lockstep_fails` — after a read that timed out, a request returns the reply to the one
  before.
-/

namespace RemoteLink.Host

open Library Protocol Auth Net Platform

/-! ## The client -/

/-- What a request is doing. -/
inductive ClientState where
  | idle
  /-- The command has been sent. -/
  | awaiting (msg : ControlMessage)
  /-- The reply is there, and the messages behind it are being collected. -/
  | draining (msg reply : ControlMessage) (outbound : List ControlMessage)
  deriving DecidableEq

/-- The result of a request: the reply with the collected messages. -/
abbrev CallResult : Type := Except ControlLoopError (ControlMessage × List ControlMessage)

/-- Whether a message is the end mark. -/
def isDrainComplete : ControlMessage → Bool
  | .ack a => a.forMethod = some "drain_complete"
  | _ => false

/-- Whether a message may come between a reply and the end mark. -/
def isOutbound : ControlMessage → Bool
  | .signalForward _ | .statsPush _ | .localConfirmResult .. => true
  | _ => false

/-- What a request does with the next message: the state after it, and the call that returns. -/
def clientReceives (next : ControlMessage) :
    ClientState → ClientState × List (ControlMessage × CallResult)
  | .idle => (.idle, [])
  | .awaiting msg => (.draining msg next [], [])
  | .draining msg reply outbound =>
    if isDrainComplete next then (.idle, [(msg, .ok (reply, outbound))])
    else if isOutbound next then (.draining msg reply (outbound ++ [next]), [])
    else (.idle, [(msg, .error (.protocol
      s!"unexpected message while draining outbound: {next.methodName}"))])

/-- A request that fails while it waits. -/
def clientFails (detail : String) : ClientState → List (ControlMessage × CallResult)
  | .idle => []
  | .awaiting msg | .draining msg _ _ => [(msg, .error (.transport detail))]

/-! ## The two ends and their stream -/

/-- A client and a serving loop. -/
structure ControlLink (π : Type) where
  client : ClientState
  /-- Commands that have been sent and not been read, oldest first. -/
  toAgent : List ControlMessage
  /-- Messages that have been sent and not been read, oldest first. -/
  toService : List ControlMessage
  /-- The serving loop, until it gives the connection up. -/
  server : Option (Served π)
  /-- The rounds of the commands that have been read. -/
  rounds : List (ControlMessage × Round)
  /-- The calls that have returned. -/
  calls : List (ControlMessage × CallResult)
  /-- What the client has read. -/
  consumed : List ControlMessage

/-- The answers of the platform during a round; a write of the stream may break off. -/
structure RoundAnswers (π : Type) where
  agent : AgentAnswers
  capture : SessionManager.CaptureAnswers
  fresh : Except String (FreshPeer π)
  broken : Option (Nat × String)

/-- What happens on a link. -/
inductive LinkEvent (π : Type) where
  /-- The service calls `request`; the write may fail. -/
  | request (msg : ControlMessage) (broken : Option String)
  /-- The client reads the next message. -/
  | receive
  /-- A read of the client runs into its timeout. -/
  | receiveTimesOut (detail : String)
  /-- The serving loop reads the next command and answers it. -/
  | serve (ans : RoundAnswers π)
  /-- A read of the serving loop fails. -/
  | serverGivesUp
  /-- The transport of the agent changes by itself and makes callbacks. -/
  | transport (peer : π) (callbacks : List PeerCallback)

section

variable {π : Type} (C : Crypto) (T : PeerTransport π) (J : Codec) (S : SerdeJson)
  (expected : Option String)

/-- Why a message cannot be encoded. -/
def encodeFailure (msg : ControlMessage) : Option String :=
  match encodeControl S msg with
  | .ok _ => none
  | .error e => some ("codec: " ++ e.display)

/-- Why the `i`-th message on a connection cannot be sent, when the next `frames` of it are the ones
of a round. -/
def sendFailure (frames : List ControlMessage) (base : Nat) (broken : Option (Nat × String))
    (i : Nat) : Option String :=
  (frames[i - base]?.bind (encodeFailure S)).or
    (broken.bind fun b => if base + b.1 = i then some ("io: " ++ b.2) else none)

/-- The answers of a round on a stream that encodes its messages. -/
def RoundAnswers.toServe (ans : RoundAnswers π) (msg : ControlMessage) (s : Served π) :
    ServeAnswers π :=
  let plain : ServeAnswers π := ⟨ans.agent, fun _ => none, ans.capture, ans.fresh⟩
  let frames := (answerRound C T J expected plain msg s).elim [] fun r => r.1.frames
  { plain with send := sendFailure S frames s.wire.length ans.broken }

/-- The serving loop takes the next command: a round that fails, or a panic, ends the connection. -/
def serveNext (w : ControlLink π) (ans : RoundAnswers π) (s : Served π) (msg : ControlMessage)
    (rest : List ControlMessage) : ControlLink π :=
  let answers := ans.toServe C T J S expected msg s
  let answered := (answerRound C T J expected answers msg s).toList.map fun r => (msg, r.1)
  match serveMessage C T J expected answers msg s with
  | some (.ok () s') =>
    { w with
      toAgent := rest
      toService := w.toService ++ sentBetween s s'
      server := some s'
      rounds := w.rounds ++ answered }
  | some (.error _ s') =>
    { w with
      toAgent := rest
      toService := w.toService ++ sentBetween s s'
      server := none
      rounds := w.rounds ++ answered }
  | none => { w with toAgent := rest, server := none, rounds := w.rounds ++ answered }

/-- One step of a link. -/
def linkStep (w : ControlLink π) : LinkEvent π → Option (ControlLink π)
  | .request msg broken =>
    match w.client with
    | .idle =>
      match (encodeFailure S msg).or (broken.map ("io: " ++ ·)) with
      | some e => some { w with calls := w.calls ++ [(msg, .error (.transport e))] }
      | none => some { w with client := .awaiting msg, toAgent := w.toAgent ++ [msg] }
    | _ => none
  | .receive =>
    match w.client, w.toService with
    | .idle, _ => none
    | client, next :: rest =>
      let (client, returned) := clientReceives next client
      some { w with
        client := client
        toService := rest
        calls := w.calls ++ returned
        consumed := w.consumed ++ [next] }
    | client, [] =>
      if w.server.isNone then
        some { w with
          client := .idle
          calls := w.calls ++ clientFails "codec: frame header truncated" client }
      else none
  | .receiveTimesOut detail =>
    match w.client with
    | .idle => none
    | client =>
      some { w with client := .idle, calls := w.calls ++ clientFails ("codec: io: " ++ detail) client }
  | .serve ans =>
    match w.server, w.toAgent with
    | some s, msg :: rest => some (serveNext C T J S expected w ans s msg rest)
    | _, _ => none
  | .serverGivesUp => if w.server.isSome then some { w with server := none } else none
  | .transport peer callbacks =>
    w.server.map fun s =>
      let manager := { s.agent.manager with
        peer := peer, cb := s.agent.manager.cb.deliver callbacks }
      { w with server := some { s with agent.manager := manager } }

/-- The runs of a client and a serving loop, with any agent session. -/
def controlLink : System (ControlLink π) (LinkEvent π) where
  init w := ∃ agent, w = ⟨.idle, [], [], some ⟨agent, []⟩, [], [], []⟩
  step := linkStep C T J S expected

/-- No call of the stream fails in a round: its messages can be encoded, no write breaks off, the
agent does not panic, and a new agent session can be built. -/
def roundWorks (ans : RoundAnswers π) (s : Served π) (msg : ControlMessage) : Bool :=
  (answerRound C T J expected (ans.toServe C T J S expected msg s) msg s).any fun r =>
    r.1.frames.all (fun m => (encodeFailure S m).isNone) && ans.broken.isNone &&
      (newAgentSession ans.fresh).toBool

/-- No call of the stream fails. -/
def streamWorks (w : ControlLink π) : LinkEvent π → Bool
  | .request msg broken => (encodeFailure S msg).isNone && broken.isNone
  | .receive => true
  | .receiveTimesOut _ => false
  | .serve ans =>
    match w.server, w.toAgent with
    | some s, msg :: _ => roundWorks C T J S expected ans s msg
    | _, _ => true
  | .serverGivesUp => false
  | .transport .. => true

end

/-- What a call returns when it returns a round. -/
def returnedRound (r : ControlMessage × Round) : ControlMessage × CallResult :=
  (r.1, .ok (r.2.reply, r.2.signals))

/-- Both ends are in lockstep. -/
structure Lockstep {π : Type} (w : ControlLink π) : Prop where
  /-- The `i`-th call has returned the reply and the signals of the `i`-th round. -/
  calls : w.calls = (w.rounds.take w.calls.length).map returnedRound
  /-- At most one command is being answered or has been answered and not returned. -/
  ahead : w.calls.length ≤ w.rounds.length ∧ w.rounds.length ≤ w.calls.length + 1
  /-- What has been sent is what the client has read and what it will read, in order. -/
  stream : w.consumed ++ w.toService = w.rounds.flatMap fun r => r.2.frames
  /-- One end mark has been read for each call that has returned. -/
  marks : (w.consumed.filter isDrainComplete).length = w.calls.length

/-! ## Rounds on a stream that works -/

/-- What every round looks like: signals behind a reply that is not an end mark. -/
structure Round.WellFormed (r : Round) : Prop where
  reply : isDrainComplete r.reply = false
  signals : ∀ m ∈ r.signals, ∃ f, m = .signalForward f

section

variable {π : Type} {C : Crypto} {T : PeerTransport π} {J : Codec} {S : SerdeJson}
  {expected : Option String}

/-- No command is acknowledged with an end mark. -/
theorem handle_not_mark (state : AgentSessionState) (msg : ControlMessage) :
    isDrainComplete (state.handle msg).1 = false := by
  have hguard : ∀ sid e, state.requireSession sid = some e → isDrainComplete e = false := by
    intro sid e h
    unfold AgentSessionState.requireSession at h
    split at h
    · obtain rfl := Option.some.inj h
      rfl
    · split_ifs at h
      obtain rfl := Option.some.inj h
      rfl
  have hlive : ∀ sid e, state.requireLive sid = some e → isDrainComplete e = false := by
    intro sid e h
    obtain h | ⟨-, h⟩ := Option.or_eq_some_iff.mp h
    · exact hguard sid e h
    · unfold AgentSessionState.requireNotKilled at h
      split_ifs at h
      obtain rfl := Option.some.inj h
      rfl
  cases msg with
  | attachSession a =>
    simp only [AgentSessionState.handle]
    split <;> rfl
  | detachSession sid reason | shutdownSession sid reason | stopMedia sid =>
    simp only [AgentSessionState.handle]
    split
    · next e h => exact hguard _ e h
    · rfl
  | startMedia sid display | signalForward f =>
    simp only [AgentSessionState.handle]
    split
    · next e h => exact hlive _ e h
    · rfl
  | setPolicy p =>
    simp only [AgentSessionState.handle]
    split
    · next e h => exact hlive _ e h
    · split_ifs <;> rfl
  | showSessionChrome sid visible label =>
    simp only [AgentSessionState.handle]
    split
    · next e h => exact hguard _ e h
    · split_ifs <;> rfl
  | queryStats sid =>
    simp only [AgentSessionState.handle]
    split
    · next e h =>
      obtain ⟨cur, -, h⟩ := Option.bind_eq_some_iff.mp h
      exact hguard _ e h
    · split_ifs <;> rfl
  | killSwitch k =>
    simp only [AgentSessionState.handle]
    split
    · rfl
    · split_ifs <;> rfl
    · rfl
  | localConfirmResult | statsPush | ack | error => rfl

/-- **A round is well formed.** -/
theorem answerRound_wellFormed {ans : ServeAnswers π} {msg : ControlMessage} {s : Served π}
    {r : Round} {a : AgentSession π}
    (h : answerRound C T J expected ans msg s = some (r, a)) : r.WellFormed := by
  unfold answerRound at h
  rcases hgate : bootGate expected s.agent.state msg with _ | refusal
  · simp only [hgate, Option.map_eq_some_iff] at h
    obtain ⟨⟨reply, a'⟩, ha, hpair⟩ := h
    obtain ⟨rfl, rfl⟩ := Prod.mk.inj hpair
    refine ⟨?_, fun m hm => ?_⟩
    · show isDrainComplete reply = false
      unfold AgentSession.handle at ha
      dsimp only at ha
      have hstate := handle_not_mark s.agent.state msg
      split_ifs at ha
      · generalize (s.agent.state.handle msg).1 = positive at ha hstate
        cases msg with
        | startMedia sid display =>
          simp only [AgentSession.drive] at ha
          split at ha <;> cases ha
          · exact hstate
          · rfl
        | signalForward f =>
          simp only [AgentSession.drive] at ha
          split_ifs at ha
          · rw [Option.map_eq_some_iff] at ha
            obtain ⟨⟨u, m⟩ | ⟨e, m⟩, -, ha⟩ := ha <;> cases ha
            · exact hstate
            · rfl
          · cases ha
            exact hstate
        | queryStats sid =>
          cases positive <;> cases ha <;> first | rfl | exact hstate
        | _ =>
          cases ha
          exact hstate
      · cases ha
        exact hstate
    · obtain ⟨f, -, rfl⟩ := List.mem_map.mp hm
      exact ⟨f, rfl⟩
  · simp only [hgate, Option.some.injEq] at h
    obtain ⟨rfl, rfl⟩ := Prod.mk.inj h
    obtain ⟨text, sid, rfl⟩ := bootGate_refusal hgate
    exact ⟨rfl, by simp⟩

/-- Messages are sent when no send fails. -/
theorem sendAll_completes {ans : ServeAnswers π} (hsend : ∀ i, ans.send i = none)
    (msgs : List ControlMessage) (s : Served π) :
    sendAll ans msgs s = .ok () { s with wire := msgs.reverse ++ s.wire } := by
  induction msgs generalizing s with
  | nil => rfl
  | cons m msgs ih =>
    have hfirst : sendControl ans m s = .ok () { s with wire := m :: s.wire } := by
      unfold sendControl
      rw [hsend]
    show (sendControl ans m >>= fun _ => sendAll ans msgs) s = _
    rw [bind_of_ok hfirst, ih]
    simp

/-- The rest of a round completes when no send fails and a new agent session can be built. -/
theorem finishRound_completes {ans : ServeAnswers π} (hsend : ∀ i, ans.send i = none)
    {agent : AgentSession π} (hfresh : newAgentSession ans.fresh = .ok agent)
    (msg reply : ControlMessage) (s : Served π) :
    ∃ s', finishRound T ans msg reply s = .ok () s' := by
  have hcontrol : ∀ m (t : Served π),
      sendControl ans m t = .ok () { t with wire := m :: t.wire } := by
    intro m t
    unfold sendControl
    rw [hsend]
  unfold finishRound
  rw [bind_of_ok (hcontrol _ _), bind_of_ok (modify_ok _ _), bind_of_ok (modifyGet_ok _ _),
    bind_of_ok (sendAll_completes hsend _ _), bind_of_ok (hcontrol _ _),
    bind_of_ok (modify_ok _ _)]
  split_ifs
  · rw [hfresh]
    exact ⟨_, rfl⟩
  · exact ⟨_, rfl⟩

/-- **A round completes** when no send fails and a new agent session can be built. -/
theorem serveMessage_completes {ans : ServeAnswers π} {msg : ControlMessage} {s : Served π}
    {r : Round} {a agent : AgentSession π} (hsend : ∀ i, ans.send i = none)
    (hfresh : newAgentSession ans.fresh = .ok agent)
    (h : answerRound C T J expected ans msg s = some (r, a)) :
    ∃ s', serveMessage C T J expected ans msg s = some (.ok () s') := by
  rw [serveMessage_eq]
  unfold answerRound at h
  simp only [Served.state]
  rcases hgate : bootGate expected s.agent.state msg with _ | refusal
  · simp only [hgate, Option.map_eq_some_iff] at h
    obtain ⟨⟨reply, a'⟩, ha, -⟩ := h
    obtain ⟨s', hs'⟩ := finishRound_completes (T := T) hsend hfresh msg reply
      { s with agent := a' }
    exact ⟨s', by simp only [ha, Option.map_some, hs']⟩
  · exact ⟨_, congrArg some (sendAll_completes hsend _ s)⟩

/-- **A round on a stream that works**: the command is read, the round is on the stream, and the
serving loop goes on. -/
theorem serveNext_works {w : ControlLink π} {ans : RoundAnswers π} {s : Served π}
    {msg : ControlMessage} (hworks : roundWorks C T J S expected ans s msg = true)
    (rest : List ControlMessage) :
    ∃ r a s', answerRound C T J expected (ans.toServe C T J S expected msg s) msg s = some (r, a) ∧
      r.WellFormed ∧
      serveNext C T J S expected w ans s msg rest =
        { w with
          toAgent := rest
          toService := w.toService ++ r.frames
          server := some s'
          rounds := w.rounds ++ [(msg, r)] } := by
  obtain ⟨⟨r, a⟩, hanswer, hchecks⟩ := (Option.any_eq_true _ _).mp hworks
  simp only [Bool.and_eq_true, List.all_eq_true, Option.isNone_iff_eq_none] at hchecks
  obtain ⟨⟨hencode, hbroken⟩, hnew⟩ := hchecks
  have hplain : (answerRound C T J expected
      ⟨ans.agent, fun _ => none, ans.capture, ans.fresh⟩ msg s) = some (r, a) := hanswer
  have hsend : ∀ i, (ans.toServe C T J S expected msg s).send i = none := by
    intro i
    show sendFailure S _ _ _ i = none
    unfold sendFailure
    rw [hplain, hbroken, Option.bind_none, Option.or_none, Option.bind_eq_none_iff]
    exact fun m hm => hencode m (List.mem_of_getElem? hm)
  obtain ⟨agent, hagent⟩ : ∃ agent, newAgentSession ans.fresh = .ok agent := by
    rcases hresult : newAgentSession ans.fresh with e | agent
    · rw [hresult] at hnew
      cases hnew
    · exact ⟨agent, rfl⟩
  obtain ⟨s', hserve⟩ := serveMessage_completes hsend hagent hanswer
  obtain ⟨r', a', hanswer', hwire, -⟩ := serveMessage_ok hserve
  rw [hanswer] at hanswer'
  obtain ⟨rfl, -⟩ := Prod.mk.inj (Option.some.inj hanswer')
  refine ⟨r, a, s', hanswer, answerRound_wellFormed hanswer, ?_⟩
  unfold serveNext
  simp only [hserve, hanswer, sentBetween_append hwire]
  rfl

end

/-! ## Lockstep -/

/-- Where a link is: the rounds that have been returned, and how far the call in progress is. -/
def InStep {π : Type} (w : ControlLink π) : Prop :=
  ∃ old : List (ControlMessage × Round), w.calls = old.map returnedRound ∧
    (∀ r ∈ w.rounds, r.2.WellFormed) ∧ w.server.isSome = true ∧
    match w.client with
    | .idle => w.rounds = old ∧ w.toAgent = [] ∧ w.toService = [] ∧
        w.consumed = old.flatMap fun r => r.2.frames
    | .awaiting msg =>
      w.consumed = (old.flatMap fun r => r.2.frames) ∧
        ((w.rounds = old ∧ w.toAgent = [msg] ∧ w.toService = []) ∨
          ∃ r, w.rounds = old ++ [(msg, r)] ∧ w.toAgent = [] ∧ w.toService = r.frames)
    | .draining msg reply outbound =>
      ∃ r rest, w.rounds = old ++ [(msg, r)] ∧ w.toAgent = [] ∧ r.reply = reply ∧
        r.signals = outbound ++ rest ∧ w.toService = rest ++ [drainComplete] ∧
        w.consumed = (old.flatMap fun r => r.2.frames) ++ reply :: outbound

section

variable {π : Type} {C : Crypto} {T : PeerTransport π} {J : Codec} {S : SerdeJson}
  {expected : Option String} {w w' : ControlLink π}

/-- A signal is collected. -/
theorem clientReceives_signal {f : SignalForward} {msg reply : ControlMessage}
    {outbound : List ControlMessage} :
    clientReceives (.signalForward f) (.draining msg reply outbound) =
      (.draining msg reply (outbound ++ [.signalForward f]), []) := rfl

/-- The end mark returns the call. -/
theorem clientReceives_mark {msg reply : ControlMessage} {outbound : List ControlMessage} :
    clientReceives drainComplete (.draining msg reply outbound) =
      (.idle, [(msg, .ok (reply, outbound))]) := rfl

/-- **The step lemma**: a step in which no call of the stream fails keeps both ends in step. -/
theorem InStep.step (hw : InStep w) {e : LinkEvent π}
    (hworks : streamWorks C T J S expected w e = true)
    (h : (controlLink C T J S expected).step w e = some w') : InStep w' := by
  obtain ⟨old, hcalls, hformed, hserver, hclient⟩ := hw
  cases e with
  | request msg broken =>
    simp only [streamWorks, Bool.and_eq_true, Option.isNone_iff_eq_none] at hworks
    simp only [controlLink, linkStep, hworks.1, hworks.2, Option.map_none, Option.or_none] at h
    split at h
    · next hidle =>
      cases h
      rw [hidle] at hclient
      obtain ⟨hrounds, hto, hfrom, hread⟩ := hclient
      exact ⟨old, hcalls, hformed, hserver, hread, .inl ⟨hrounds, by simp [hto], hfrom⟩⟩
    · cases h
  | receive =>
    simp only [controlLink, linkStep] at h
    rcases hstate : w.client with _ | msg | ⟨msg, reply, outbound⟩
    · simp [hstate] at h
    · rw [hstate] at hclient h
      obtain ⟨hread, ⟨-, -, hempty⟩ | ⟨r, hrounds, hto, hfrom⟩⟩ := hclient
      · rw [hempty] at h
        obtain ⟨s, hs⟩ := Option.isSome_iff_exists.mp hserver
        simp [hs] at h
      · rw [hfrom] at h
        cases h
        refine ⟨old, by simpa [clientReceives] using hcalls, hformed, hserver, r, r.signals, hrounds,
          hto, rfl, rfl, rfl, ?_⟩
        simp [hread]
    · rw [hstate] at hclient h
      obtain ⟨r, rest, hrounds, hto, hreply, hsignals, hfrom, hread⟩ := hclient
      rcases rest with _ | ⟨next, rest⟩
      · -- the end mark
        rw [hfrom] at h
        cases h
        subst hreply
        rw [List.append_nil] at hsignals
        refine ⟨old ++ [(msg, r)], ?_, hformed, hserver, hrounds, hto, rfl, ?_⟩
        · simp [clientReceives_mark, hcalls, returnedRound, hsignals]
        · simp [hread, Round.frames, hsignals]
      · -- one more signal
        have hr := hformed (msg, r) (by simp [hrounds])
        obtain ⟨f, rfl⟩ := hr.signals next (by simp [hsignals])
        rw [hfrom] at h
        cases h
        refine ⟨old, by simpa [clientReceives_signal] using hcalls, hformed, hserver, r, rest,
          hrounds, hto, hreply, by simp [hsignals], rfl, by simp [hread]⟩
  | receiveTimesOut detail => cases hworks
  | serve ans =>
    simp only [controlLink, linkStep] at h
    split at h
    · next s msg rest hs hto =>
      simp only [streamWorks, hs, hto] at hworks
      obtain ⟨r, a, s', hanswer, hr, hnext⟩ := serveNext_works (w := w) hworks rest
      rw [hnext] at h
      cases h
      have hformed' : ∀ q ∈ w.rounds ++ [(msg, r)], q.2.WellFormed := by
        intro q hq
        obtain hq | hq := List.mem_append.mp hq
        · exact hformed q hq
        · obtain rfl := List.mem_singleton.mp hq
          exact hr
      refine ⟨old, hcalls, hformed', rfl, ?_⟩
      rcases hstate : w.client with _ | cmd | ⟨cmd, reply, outbound⟩
      · rw [hstate] at hclient
        rw [hclient.2.1] at hto
        cases hto
      · rw [hstate] at hclient
        obtain ⟨hread, ⟨hrounds, hcmd, hfrom⟩ | ⟨r', -, hcmd, -⟩⟩ := hclient
        · rw [hcmd] at hto
          obtain ⟨rfl, rfl⟩ := List.cons.inj hto
          exact ⟨hread, .inr ⟨r, by rw [hrounds], rfl, by simp [hfrom]⟩⟩
        · rw [hcmd] at hto
          cases hto
      · rw [hstate] at hclient
        obtain ⟨r', rest', -, hcmd, -⟩ := hclient
        rw [hcmd] at hto
        cases hto
    · cases h
  | serverGivesUp => cases hworks
  | transport peer callbacks =>
    simp only [controlLink, linkStep, Option.map_eq_some_iff] at h
    obtain ⟨s, -, rfl⟩ := h
    exact ⟨old, hcalls, hformed, rfl, hclient⟩

/-- Both ends are in step in every run in which no call of the stream fails. -/
theorem controlLink_inStep
    (h : (controlLink C T J S expected).ReachableVia
      (fun w e => streamWorks C T J S expected w e = true) w) : InStep w := by
  refine h.invariant InStep ?_ fun _ _ _ hw hworks hstep => hw.step hworks hstep
  rintro w ⟨agent, rfl⟩
  exact ⟨[], rfl, by simp, rfl, rfl, rfl, rfl, rfl⟩

/-- A round has one end mark. -/
theorem Round.WellFormed.marks {r : Round} (h : r.WellFormed) :
    (r.frames.filter isDrainComplete).length = 1 ∧
      ((r.reply :: r.signals).filter isDrainComplete) = [] := by
  have hsignals : ∀ m ∈ r.signals, isDrainComplete m = false := by
    intro m hm
    obtain ⟨f, rfl⟩ := h.signals m hm
    rfl
  have hnone : (r.reply :: r.signals).filter isDrainComplete = [] := by
    rw [List.filter_eq_nil_iff]
    intro m hm
    obtain rfl | hm := List.mem_cons.mp hm
    · simp [h.reply]
    · simp [hsignals m hm]
  refine ⟨?_, hnone⟩
  have hframes : r.frames = (r.reply :: r.signals) ++ [drainComplete] := rfl
  rw [hframes, List.filter_append, hnone]
  rfl

/-- Whole rounds have one end mark each. -/
theorem marks_flatMap {rs : List (ControlMessage × Round)} (h : ∀ r ∈ rs, r.2.WellFormed) :
    ((rs.flatMap fun r => r.2.frames).filter isDrainComplete).length = rs.length := by
  induction rs with
  | nil => rfl
  | cons r rs ih =>
    have hr := (h r (by simp)).marks.1
    have hrs := ih fun q hq => h q (by simp [hq])
    simp only [List.flatMap_cons, List.filter_append, List.length_append, hr, hrs,
      List.length_cons]
    omega

/-- **What being in step means** for what has been called, sent and read. -/
theorem InStep.lockstep (hw : InStep w) : Lockstep w := by
  obtain ⟨old, hcalls, hformed, -, hclient⟩ := hw
  have hlen : w.calls.length = old.length := by simp [hcalls]
  -- the rounds are those of the calls that have returned, and at most one more
  have hof : ∀ more : List (ControlMessage × Round), more.length ≤ 1 → w.rounds = old ++ more →
      w.consumed ++ w.toService = w.rounds.flatMap (fun r => r.2.frames) →
      (w.consumed.filter isDrainComplete).length = old.length → Lockstep w := by
    intro more hmore hrounds hstream hmarks
    refine ⟨?_, ?_, hstream, by rw [hmarks, hlen]⟩
    · rw [hlen, hrounds, List.take_left]
      exact hcalls
    · rw [hlen, hrounds, List.length_append]
      omega
  have hold : (∀ r ∈ old, r ∈ w.rounds) →
      ((old.flatMap fun r => r.2.frames).filter isDrainComplete).length = old.length :=
    fun hmem => marks_flatMap fun r hr => hformed r (hmem r hr)
  rcases hstate : w.client with _ | msg | ⟨msg, reply, outbound⟩
  · rw [hstate] at hclient
    obtain ⟨hrounds, -, hfrom, hread⟩ := hclient
    refine hof [] (by simp) (by simp [hrounds]) (by rw [hfrom, hread, hrounds, List.append_nil]) ?_
    rw [hread]
    exact hold fun r hr => hrounds ▸ hr
  · rw [hstate] at hclient
    obtain ⟨hread, ⟨hrounds, -, hfrom⟩ | ⟨r, hrounds, -, hfrom⟩⟩ := hclient
    · refine hof [] (by simp) (by simp [hrounds]) (by rw [hfrom, hread, hrounds, List.append_nil]) ?_
      rw [hread]
      exact hold fun r hr => hrounds ▸ hr
    · refine hof [(msg, r)] (by simp) hrounds ?_ ?_
      · rw [hfrom, hread, hrounds, List.flatMap_append]
        simp
      · rw [hread]
        exact hold fun r hr => by simp [hrounds, hr]
  · rw [hstate] at hclient
    obtain ⟨r, rest, hrounds, -, hreply, hsignals, hfrom, hread⟩ := hclient
    refine hof [(msg, r)] (by simp) hrounds ?_ ?_
    · rw [hfrom, hread, hrounds, List.flatMap_append]
      simp [Round.frames, hsignals, hreply]
    · -- the part of a round that has been read has no end mark
      have hr := (hformed (msg, r) (by simp [hrounds])).marks.2
      have hpart : (reply :: outbound).filter isDrainComplete = [] := by
        rw [hsignals, hreply, ← List.cons_append, List.filter_append] at hr
        exact (List.append_eq_nil_iff.mp hr).1
      rw [hread, List.filter_append, hpart, List.append_nil]
      exact hold fun r hr => by simp [hrounds, hr]

/-- The signals and the end mark of a round are read one by one, and the call returns.

**Proof sketch.** Induction on the signals that are left: each is collected, and the end mark
returns what has been collected. -/
theorem receive_rest {rest : List ControlMessage} (hrest : ∀ m ∈ rest, ∃ f, m = .signalForward f)
    {msg reply : ControlMessage} {outbound : List ControlMessage}
    (hclient : w.client = .draining msg reply outbound)
    (hfrom : w.toService = rest ++ [drainComplete]) :
    ∃ w', (controlLink C T J S expected).runFrom w
        (List.replicate (rest.length + 1) .receive) = some w' ∧
      w'.calls = w.calls ++ [(msg, .ok (reply, outbound ++ rest))] := by
  induction rest generalizing w outbound with
  | nil =>
    refine ⟨{ w with
      client := .idle
      toService := []
      calls := w.calls ++ [(msg, .ok (reply, outbound))]
      consumed := w.consumed ++ [drainComplete] }, ?_, by simp⟩
    simp [System.runFrom_cons, controlLink, linkStep, hclient, hfrom, clientReceives_mark]
  | cons next rest ih =>
    obtain ⟨f, rfl⟩ := hrest next (by simp)
    obtain ⟨w', hrun, hcalls⟩ := ih (w := { w with
        client := .draining msg reply (outbound ++ [.signalForward f])
        toService := rest ++ [drainComplete]
        consumed := w.consumed ++ [.signalForward f] })
      (fun m hm => hrest m (by simp [hm])) rfl rfl
    refine ⟨w', ?_, by simpa using hcalls⟩
    rw [List.length_cons, List.replicate_succ, System.runFrom_cons]
    have hstep : (controlLink C T J S expected).step w .receive = some { w with
        client := .draining msg reply (outbound ++ [.signalForward f])
        toService := rest ++ [drainComplete]
        consumed := w.consumed ++ [.signalForward f] } := by
      simp [controlLink, linkStep, hclient, hfrom, clientReceives_signal]
    rw [hstep]
    exact hrun

/-- **A request returns its round**: from a link in step, the command is sent, answered, and the
messages of the round are read. -/
theorem request_returns (hw : InStep w) (hidle : w.client = .idle) {s : Served π}
    (hs : w.server = some s) {msg : ControlMessage} {ans : RoundAnswers π}
    (hsent : encodeFailure S msg = none)
    (hworks : roundWorks C T J S expected ans s msg = true) :
    ∃ r a w', answerRound C T J expected (ans.toServe C T J S expected msg s) msg s =
        some (r, a) ∧
      (controlLink C T J S expected).runFrom w ([.request msg none, .serve ans] ++
        List.replicate r.frames.length .receive) = some w' ∧
      w'.calls = w.calls ++ [(msg, .ok (r.reply, r.signals))] := by
  obtain ⟨old, -, -, -, hclient⟩ := hw
  rw [hidle] at hclient
  obtain ⟨-, hto, hfrom, -⟩ := hclient
  obtain ⟨r, a, s', hanswer, hr, hnext⟩ := serveNext_works (w := { w with
    client := .awaiting msg, toAgent := [msg] }) hworks []
  have hrequest : (controlLink C T J S expected).step w (.request msg none) =
      some { w with client := .awaiting msg, toAgent := [msg] } := by
    simp [controlLink, linkStep, hidle, hsent, hto]
  have hserve : (controlLink C T J S expected).step
      { w with client := .awaiting msg, toAgent := [msg] } (.serve ans) =
        some { w with
          client := .awaiting msg
          toAgent := []
          toService := r.frames
          server := some s'
          rounds := w.rounds ++ [(msg, r)] } := by
    simp only [hs, hfrom, List.nil_append] at hnext
    simp only [controlLink, linkStep, hs, hfrom, hnext]
  have hreceive : (controlLink C T J S expected).step
      { w with
        client := .awaiting msg
        toAgent := []
        toService := r.frames
        server := some s'
        rounds := w.rounds ++ [(msg, r)] } .receive =
      some { w with
        client := .draining msg r.reply []
        toAgent := []
        toService := r.signals ++ [drainComplete]
        server := some s'
        rounds := w.rounds ++ [(msg, r)]
        consumed := w.consumed ++ [r.reply] } := by
    simp [controlLink, linkStep, Round.frames, clientReceives]
  obtain ⟨w', hrun, hcalls⟩ := receive_rest (C := C) (T := T) (J := J) (S := S)
    (w := { w with
      client := .draining msg r.reply []
      toAgent := []
      toService := r.signals ++ [drainComplete]
      server := some s'
      rounds := w.rounds ++ [(msg, r)]
      consumed := w.consumed ++ [r.reply] }) hr.signals rfl rfl
  refine ⟨r, a, w', hanswer, ?_, by simpa using hcalls⟩
  have hlength : r.frames.length = (r.signals.length + 1) + 1 := by simp [Round.frames]
  rw [hlength, List.replicate_succ, List.cons_append, List.cons_append, List.nil_append,
    System.runFrom_cons, hrequest, Option.bind_some, System.runFrom_cons, hserve, Option.bind_some,
    System.runFrom_cons, hreceive, Option.bind_some]
  exact hrun

/-- **Lockstep**: in every run in which no call of the stream fails, the `i`-th call returns the
reply of the `i`-th round with its signals, nothing is lost or read twice, and one end mark is read
for each call; and a request that finds the client idle returns. -/
theorem control_lockstep
    (h : (controlLink C T J S expected).ReachableVia
      (fun w e => streamWorks C T J S expected w e = true) w) :
    Lockstep w ∧
      ∀ s msg ans, w.client = .idle → w.server = some s → encodeFailure S msg = none →
        roundWorks C T J S expected ans s msg = true →
          ∃ r a w', answerRound C T J expected (ans.toServe C T J S expected msg s) msg s =
              some (r, a) ∧
            (controlLink C T J S expected).runFrom w ([.request msg none, .serve ans] ++
              List.replicate r.frames.length .receive) = some w' ∧
            w'.calls = w.calls ++ [(msg, .ok (r.reply, r.signals))] := by
  have hw := controlLink_inStep h
  exact ⟨hw.lockstep, fun s msg ans hidle hs hsent hworks =>
    request_returns hw hidle hs hsent hworks⟩

end

/-! ### Concrete runs -/

/-- A link with a fresh agent on the mock transport. -/
def demoLink : ControlLink MockPeer :=
  ⟨.idle, [], [], some ⟨.withManager (.withPeer demoPeer .synthetic .synthetic 0), []⟩, [], [], []⟩

/-- The answers of the platform in the runs below. -/
def demoRound : RoundAnswers MockPeer :=
  ⟨demoAgentAnswers, demoCapture, .ok ⟨demoPeer, .synthetic, .synthetic, 0⟩, none⟩

/-- A JSON library for messages without numbers. -/
def demoSerde : SerdeJson := demoJson drainComplete

/-- Attach to a session. -/
def demoAttachMessage : ControlMessage := .attachSession ⟨"a", none, ⟨true, false, []⟩, [], none⟩

/-- Media starts: the reply comes with the signals of the transport. -/
theorem control_lockstep_startMedia :
    ∃ w s r a w', (controlLink .windowed mockTransport demoCodec demoSerde none).ReachableVia
        (fun w e => streamWorks .windowed mockTransport demoCodec demoSerde none w e = true) w ∧
      w.server = some s ∧
      answerRound .windowed mockTransport demoCodec none
        (demoRound.toServe .windowed mockTransport demoCodec demoSerde none (.startMedia "a" none) s)
        (.startMedia "a" none) s = some (r, a) ∧
      (controlLink .windowed mockTransport demoCodec demoSerde none).runFrom w
        ([.request (.startMedia "a" none) none, .serve demoRound] ++
          List.replicate r.frames.length .receive) = some w' ∧
      w'.calls = w.calls ++ [(.startMedia "a" none, .ok (r.reply, r.signals))] := by
  have hrun : ((((controlLink .windowed mockTransport demoCodec demoSerde none).restrict
      (streamWorks .windowed mockTransport demoCodec demoSerde none)).runFrom demoLink
        [.request demoAttachMessage none, .serve demoRound, .receive, .receive]).any fun w =>
          decide (w.client = .idle) && w.server.any fun s =>
            roundWorks .windowed mockTransport demoCodec demoSerde none demoRound s
              (.startMedia "a" none)) = true := by
    decide +kernel
  obtain ⟨w, hw, hchecks⟩ := (Option.any_eq_true _ _).mp hrun
  obtain ⟨hidle, hserver⟩ := Bool.and_eq_true_iff.mp hchecks
  obtain ⟨s, hs, hworks⟩ := (Option.any_eq_true _ _).mp hserver
  have hinit : ((controlLink .windowed mockTransport demoCodec demoSerde none).restrict
      (streamWorks .windowed mockTransport demoCodec demoSerde none)).Reachable demoLink :=
    .init ⟨_, rfl⟩
  have hreach := System.reachableVia_of_restrict (fun _ _ h => h)
    (System.reachable_of_runFrom hinit hw)
  have hsent : encodeFailure demoSerde (.startMedia "a" none) = none := by
    decide +kernel
  obtain ⟨r, a, w', hanswer, hrun', hcalls⟩ := (control_lockstep hreach).2 s _ _
    (of_decide_eq_true hidle) hs hsent hworks
  exact ⟨w, s, r, a, w', hreach, hs, hanswer, hrun', hcalls⟩

/-- A read times out, the agent answers later, and the service asks for something else. -/
def demoTimeoutOps : List (LinkEvent MockPeer) :=
  [.request demoAttachMessage none, .receiveTimesOut "timed out", .serve demoRound,
    .request (.queryStats none) none, .serve demoRound, .receive, .receive]

/-- **A reply that comes too late is taken for the next one**: the query returns the
acknowledgement of the attach. -/
theorem control_lockstep_fails :
    ¬ ∀ w, (controlLink .windowed mockTransport demoCodec demoSerde none).Reachable w →
      Lockstep w := by
  intro hclaim
  have hrun : (((controlLink .windowed mockTransport demoCodec demoSerde none).runFrom demoLink
      demoTimeoutOps).any fun w =>
        decide (w.calls.length = 2 ∧
          w.calls[1]? = some (.queryStats none,
            .ok (AgentSessionState.ack "attach_session" (some "a"), [])) ∧
          (w.rounds[1]?.any fun r => !isAck r.2.reply) = true)) = true := by
    decide +kernel
  obtain ⟨w, hw, hcheck⟩ := (Option.any_eq_true _ _).mp hrun
  obtain ⟨hlength, hcall, hround⟩ := of_decide_eq_true hcheck
  obtain ⟨r, hr, hreply⟩ := (Option.any_eq_true _ _).mp hround
  have hinit : (controlLink .windowed mockTransport demoCodec demoSerde none).Reachable demoLink :=
    .init ⟨_, rfl⟩
  have hcalls := (hclaim w (System.reachable_of_runFrom hinit hw)).calls
  rw [hcalls, hlength, List.getElem?_map, List.getElem?_take_of_lt (by omega), hr] at hcall
  obtain ⟨hsame, -⟩ := Prod.mk.inj (Except.ok.inj (Prod.mk.inj (Option.some.inj hcall)).2)
  rw [hsame] at hreply
  cases hreply

end RemoteLink.Host
