import RemoteLink.Library.Batches
import RemoteLink.Net.LiveIdentity

set_option autoImplicit false

/-!
# Polls of the live transport

A thread reads frames while the session polls, so which frames wait at a poll depends on the
schedule. A poll that meets a close gives up what it has taken, but the thread reads on, and the
next poll hands on what was read meanwhile.

## Main definitions

* `messages` — the messages of a whole stream.
* `ScheduleEvent`, `LivePeer.follow` — a stream that arrives in parts while the reader and the
  session take turns.
* `ScheduleFree` — what is handed on does not depend on the schedule.

## Main results

* `follow_batches` — every message is in one batch of a poll, or waits, or is not read yet.
* `reader_ends` — the reader stops on every stream that ends.
* `live_schedule_free_iff` — when the schedule does not matter.
-/

namespace RemoteLink.Net

open Library Protocol

/-! ## The messages of a stream -/

/-- The bodies of the frames of a stream, up to its end or to the first invalid length. -/
def frameBodies : ℕ → Bytes → List Bytes
  | 0, _ => []
  | fuel + 1, stream =>
    match readFrame stream with
    | .frame body rest => body :: frameBodies fuel rest
    | .badLength | .short => []

/-- The messages of a stream; a body that is malformed has none. -/
def messages (stream : Bytes) : List WireMsg :=
  (frameBodies stream.length stream).filterMap readMsg

variable {stream coming body rest : Bytes}

/-- A frame takes its length and at least the byte for the kind. -/
theorem length_of_readFrame (h : readFrame stream = .frame body rest) :
    rest.length + 5 ≤ stream.length := by
  simp only [readFrame] at h
  split_ifs at h with hshort hlen htail
  obtain ⟨-, rfl⟩ := FrameRead.frame.inj h
  rw [List.length_drop]
  omega

/-- What arrives behind a frame stays behind it. -/
theorem readFrame_append (h : readFrame stream = .frame body rest) :
    readFrame (stream ++ coming) = .frame body (rest ++ coming) := by
  simp only [readFrame] at h
  split_ifs at h with hshort hlen htail
  obtain ⟨rfl, rfl⟩ := FrameRead.frame.inj h
  have htake : (stream ++ coming).take 4 = stream.take 4 :=
    List.take_append_of_le_length (by omega)
  have hbody : ((stream ++ coming).drop 4).take (ofBe (stream.take 4)) =
      (stream.drop 4).take (ofBe (stream.take 4)) := by
    rw [List.drop_append_of_le_length (by omega),
      List.take_append_of_le_length (by rw [List.length_drop]; omega)]
  have hrest : (stream ++ coming).drop (4 + ofBe (stream.take 4)) =
      stream.drop (4 + ofBe (stream.take 4)) ++ coming :=
    List.drop_append_of_le_length (by omega)
  simp only [readFrame]
  rw [htake, hbody, hrest, List.length_append, if_neg (by omega), if_neg hlen, if_neg (by omega)]

/-- An invalid length stays invalid. -/
theorem readFrame_append_of_bad (h : readFrame stream = .badLength) :
    readFrame (stream ++ coming) = .badLength := by
  simp only [readFrame] at h
  split_ifs at h with hshort hlen
  have htake : (stream ++ coming).take 4 = stream.take 4 :=
    List.take_append_of_le_length (by omega)
  simp only [readFrame]
  rw [htake, List.length_append, if_neg (by omega), if_pos hlen]

/-- The bodies do not depend on the fuel. -/
theorem frameBodies_fuel (fuel : ℕ) (stream : Bytes) (h : stream.length ≤ fuel) :
    frameBodies fuel stream = frameBodies stream.length stream := by
  induction fuel using Nat.strongRecOn generalizing stream with
  | ind fuel ih =>
    obtain _ | fuel := fuel
    · rw [Nat.le_zero.mp h]
    obtain hlen | ⟨n, hlen⟩ : stream.length = 0 ∨ ∃ n, stream.length = n + 1 := by
      cases stream.length with
      | zero => exact Or.inl rfl
      | succ n => exact Or.inr ⟨n, rfl⟩
    · obtain rfl := List.length_eq_zero_iff.mp hlen
      rfl
    · rw [hlen, frameBodies, frameBodies]
      cases hframe : readFrame stream with
      | frame body rest =>
        have hshorter := length_of_readFrame hframe
        simp only
        rw [ih fuel (Nat.lt_succ_self fuel) rest (by omega), ih n (by omega) rest (by omega)]
      | badLength => rfl
      | short => rfl

/-- The messages of a stream that starts with a frame. -/
theorem messages_of_frame (h : readFrame stream = .frame body rest) :
    messages stream = (readMsg body).toList ++ messages rest := by
  have hshorter := length_of_readFrame h
  obtain ⟨n, hlen⟩ : ∃ n, stream.length = n + 1 := ⟨stream.length - 1, by omega⟩
  rw [messages, hlen, frameBodies, h]
  simp only
  rw [frameBodies_fuel n rest (by omega), List.filterMap_cons, ← messages]
  cases readMsg body with
  | none => rfl
  | some m => rfl

/-- A stream that starts with no frame has no messages. -/
theorem messages_of_no_frame (h : ∀ body rest, readFrame stream ≠ .frame body rest) :
    messages stream = [] := by
  unfold messages
  cases stream.length with
  | zero => rfl
  | succ n =>
    rw [frameBodies]
    cases hframe : readFrame stream with
    | frame body rest => exact absurd hframe (h body rest)
    | badLength => rfl
    | short => rfl

/-! ## What a batch delivers -/

/-- The callback that a message is handed on with. -/
def WireMsg.callback : WireMsg → Option PeerCallback
  | .video v => some (.track (.video v))
  | .audio a => some (.track (.audio a))
  | .data d => some (.data d)
  | .peerClose | .hello _ => none

/-- The callback of an entry, if it hands on media or data. -/
def Handled.payload (h : Handled) : Option PeerCallback :=
  match h.seen with
  | .callback (.track t) => some (.track t)
  | .callback (.data d) => some (.data d)
  | _ => none

/-- The callbacks that have handed on media or data, in order. -/
def LivePeer.delivered (p : LivePeer) : List PeerCallback := p.trace.filterMap Handled.payload

theorem filterMap_single {α β : Type} (f : α → Option β) (a : α) :
    [a].filterMap f = (f a).toList := by
  cases h : f a with
  | none => simp [h]
  | some b => simp [h]

/-- From `p` to `q` the callbacks `cs` have handed on media or data, and the link is as it was. -/
structure Delivers (p q : LivePeer) (cs : List PeerCallback) : Prop where
  delivered : q.delivered = p.delivered ++ cs
  inbound : q.inbound = p.inbound
  expected : q.expectedRemoteFp = p.expectedRemoteFp
  opened : q.isClosed = p.isClosed

namespace Delivers

variable {p q r : LivePeer} {cs ds : List PeerCallback}

theorem refl (p : LivePeer) : Delivers p p [] := ⟨(List.append_nil _).symm, rfl, rfl, rfl⟩

theorem trans (h : Delivers p q cs) (h' : Delivers q r ds) : Delivers p r (cs ++ ds) where
  delivered := by rw [h'.delivered, h.delivered, List.append_assoc]
  inbound := h'.inbound.trans h.inbound
  expected := h'.expected.trans h.expected
  opened := h'.opened.trans h.opened

/-- One more entry. -/
theorem note (p : LivePeer) (x : Seen) :
    Delivers p (p.note x) (Handled.payload ⟨x, p.remoteDesc⟩).toList where
  delivered := by
    rw [LivePeer.delivered, LivePeer.note, List.filterMap_append, LivePeer.delivered,
      filterMap_single]
  inbound := rfl
  expected := rfl
  opened := rfl

/-- A state other than the closed one is reported. -/
theorem emitState {state : ConnectionState} (hp : p.state ≠ .closed) (hstate : state ≠ .closed) :
    Delivers p (p.emitState state) [] where
  delivered := by
    rw [List.append_nil, LivePeer.delivered, LivePeer.emitState, LivePeer.call, LivePeer.note,
      List.filterMap_append, filterMap_single]
    exact List.append_nil _
  inbound := rfl
  expected := rfl
  opened := by
    have hsame : (p.emitState state).isClosed = (p.closed || decide (state = .closed)) := rfl
    rw [hsame, LivePeer.isClosed, decide_eq_false hp, decide_eq_false hstate]

theorem disconnect (p : LivePeer) : Delivers p p.disconnect [] := by
  unfold LivePeer.disconnect
  split_ifs with hstate
  · refine emitState ?_ (by decide)
    rintro hclosed
    rw [hclosed] at hstate
    revert hstate
    decide
  · exact refl p

theorem connect (fp : DtlsFingerprint) (p : LivePeer) : Delivers p (p.connect fp) [] := by
  have hset : Delivers p { p with remoteFp := some fp } [] :=
    ⟨(List.append_nil _).symm, rfl, rfl, rfl⟩
  unfold LivePeer.connect
  dsimp only
  split_ifs with hstate
  · exact hset.trans (emitState hstate.2.1 (by decide))
  · exact hset

end Delivers

/-- A message that is handed on does not end a batch. -/
theorem goesOn_of_callback {m : WireMsg} (expected : Option DtlsFingerprint)
    (h : m.callback ≠ none) : goesOn expected m = true := by
  cases m with
  | peerClose => exact absurd rfl h
  | hello hex => exact absurd rfl h
  | _ => rfl

/-- **A batch** delivers its messages up to the first close or Hello that is refused. -/
theorem handleBatch_delivers (msgs : List WireMsg) (p : LivePeer) :
    Delivers p (after (LivePeer.handleBatch msgs) p)
      (harvest (goesOn p.expectedRemoteFp) WireMsg.callback msgs) := by
  have hand : ∀ (c : PeerCallback) (m : WireMsg) (rest : List WireMsg) (p : LivePeer),
      m.callback = some c → (∀ remote, Handled.payload ⟨.callback c, remote⟩ = some c) →
      after (LivePeer.handleBatch (m :: rest)) p =
        after (LivePeer.handleBatch rest) (p.call c) →
      Delivers (p.call c) (after (LivePeer.handleBatch rest) (p.call c))
        (harvest (goesOn (p.call c).expectedRemoteFp) WireMsg.callback rest) →
      Delivers p (after (LivePeer.handleBatch (m :: rest)) p)
        (harvest (goesOn p.expectedRemoteFp) WireMsg.callback (m :: rest)) := by
    intro c m rest p hc hpayload heq hrest
    have hgo : goesOn p.expectedRemoteFp m = true :=
      goesOn_of_callback _ (by rw [hc]; exact Option.some_ne_none c)
    have hcall := Delivers.note p (.callback c)
    rw [hpayload] at hcall
    rw [heq, harvest_cons_of_pos hgo, hc]
    exact hcall.trans hrest
  induction msgs generalizing p with
  | nil => exact .refl p
  | cons m rest ih =>
    cases m with
    | video v => exact hand (.track (.video v)) _ rest p rfl (fun _ => rfl) rfl (ih _)
    | audio a => exact hand (.track (.audio a)) _ rest p rfl (fun _ => rfl) rfl (ih _)
    | data d => exact hand (.data d) _ rest p rfl (fun _ => rfl) rfl (ih _)
    | peerClose =>
      rw [harvest_cons_of_neg (by simp [goesOn])]
      exact .disconnect p
    | hello hex =>
      have hnote : Delivers p (p.note (.hello hex)) [] := .note p (.hello hex)
      unfold LivePeer.handleBatch
      rw [after_bind]
      obtain ⟨hrefused, e, heq⟩ | ⟨fp, haccepted, -, heq⟩ := onHello_cases hex p
      · rw [heq, harvest_cons_of_neg (by simp [goesOn, hrefused])]
        exact hnote
      · rw [heq, harvest_cons_of_pos (by simp [goesOn, haccepted])]
        have hgreeted := hnote.trans (.connect fp (p.note (.hello hex)))
        have hrest := ih ((p.note (.hello hex)).connect fp)
        rw [hgreeted.expected] at hrest
        exact hgreeted.trans hrest

/-- **A poll** takes what waits as one batch. -/
theorem poll_delivers {p : LivePeer} {i : Inbound} (hinbound : p.inbound = some i)
    (hopen : p.isClosed = false) :
    Delivers { p with inbound := some { i with queue := [] } } (after LivePeer.poll p)
      (harvest (goesOn p.expectedRemoteFp) WireMsg.callback i.queue) := by
  have hbatch := handleBatch_delivers i.queue { p with inbound := some { i with queue := [] } }
  have hpoll : after LivePeer.poll p = after (LivePeer.pollBatch i.queue (!i.reading))
      { p with inbound := some { i with queue := [] } } := by
    unfold after LivePeer.poll
    rw [if_neg (by simp [hopen]), hinbound]
  rw [hpoll]
  obtain heq | heq := after_pollBatch i.queue (!i.reading)
    { p with inbound := some { i with queue := [] } }
  · rw [heq]
    exact hbatch
  · rw [heq]
    have hgone := hbatch.trans (.disconnect _)
    rwa [List.append_nil] at hgone

/-! ## Schedules -/

/-- Something that happens while a stream is received: a part of it arrives, it ends, the reader has
a turn, or the session polls. -/
inductive ScheduleEvent where
  | arrive (chunk : Bytes)
  | hangUp
  | read
  | poll
  deriving Repr, DecidableEq

/-- The event of the live system. -/
def ScheduleEvent.toLive : ScheduleEvent → LiveEvent
  | .arrive chunk => .arrive chunk
  | .hangUp => .hangUp
  | .read => .read
  | .poll => .poll

/-- A peer after the events of a schedule. -/
def LivePeer.follow (N : LiveNet) (p : LivePeer) (es : List ScheduleEvent) : LivePeer :=
  es.foldl (fun p e => e.toLive.perform N p) p

/-- The stream of a schedule: what arrives before it ends. -/
def streamOf : List ScheduleEvent → Bytes
  | [] => []
  | .arrive chunk :: es => chunk ++ streamOf es
  | .hangUp :: _ => []
  | .read :: es | .poll :: es => streamOf es

/-- Whether the reader has stopped. -/
def LivePeer.readerStopped (p : LivePeer) : Bool := p.inbound.any fun i => !i.reading

/-- The schedule of a single poll, after the whole stream has been read. -/
def singlePoll (stream : Bytes) : List ScheduleEvent :=
  .arrive stream :: .hangUp :: List.replicate (stream.length / 5 + 1) .read ++ [.poll]

/-- The messages before the first close of a stream. -/
def opening (stream : Bytes) : List WireMsg := (messages stream).takeWhile (· ≠ .peerClose)

/-- The messages from the first close of a stream on. -/
def behindClose (stream : Bytes) : List WireMsg := (messages stream).dropWhile (· ≠ .peerClose)

/-- **What is handed on does not depend on the schedule**: after the reader has stopped and the
session has polled it is what a single poll hands on, each well-formed frame before the first close
once and in order; and the reader stops when the stream ends. -/
structure ScheduleFree (N : LiveNet) (p : LivePeer) (stream : Bytes) : Prop where
  delivered : ∀ es, streamOf es = stream → (p.follow N es).readerStopped = true →
    (p.follow N (es ++ [.poll])).delivered = (p.follow N (singlePoll stream)).delivered
  single : (p.follow N (singlePoll stream)).delivered =
    p.delivered ++ (opening stream).filterMap WireMsg.callback
  ends : ∀ es, streamOf es = stream → .hangUp ∈ es → ∀ turns, stream.length / 5 < turns →
    (p.follow N (es ++ List.replicate turns .read)).readerStopped = true

variable {N : LiveNet} {p : LivePeer} {i : Inbound} {es : List ScheduleEvent}

theorem follow_cons (e : ScheduleEvent) (es : List ScheduleEvent) :
    p.follow N (e :: es) = (e.toLive.perform N p).follow N es := rfl

theorem follow_append (es es' : List ScheduleEvent) :
    p.follow N (es ++ es') = (p.follow N es).follow N es' := List.foldl_append

/-! ### The reader -/

/-- The bytes that the rest of a schedule brings. -/
def Inbound.toCome (i : Inbound) (es : List ScheduleEvent) : Bytes :=
  if i.ended then [] else streamOf es

/-- The messages that the reader has not emitted yet, when some more bytes come. -/
def Inbound.unread (i : Inbound) (coming : Bytes) : List WireMsg :=
  if i.reading then messages (i.arrived ++ coming) ++ [.peerClose] else []

/-- The receiving side after an event, without the polls. -/
def Inbound.step (i : Inbound) : ScheduleEvent → Inbound
  | .arrive chunk => i.arrive chunk
  | .hangUp => i.hangUp
  | .read => i.read
  | .poll => { i with queue := [] }

theorem toCome_nil (i : Inbound) : i.toCome [] = [] := by
  rw [Inbound.toCome, streamOf]
  exact ite_self _

/-- **A turn of the reader**: nothing to do, a frame, or the last one. -/
theorem read_cases (i : Inbound) :
    (i.read = i ∧ (i.reading = true → readFrame i.arrived = .short ∧ i.ended = false)) ∨
    (∃ body rest, i.reading = true ∧ readFrame i.arrived = .frame body rest ∧
      i.read = { i with queue := i.queue ++ (readMsg body).toList, arrived := rest }) ∨
    (i.reading = true ∧ i.read = i.stop ∧
      (readFrame i.arrived = .badLength ∨ readFrame i.arrived = .short ∧ i.ended = true)) := by
  unfold Inbound.read
  by_cases hreading : i.reading = true
  · rw [if_neg (by simpa using hreading)]
    cases hframe : readFrame i.arrived with
    | frame body rest => exact Or.inr (Or.inl ⟨body, rest, hreading, rfl, rfl⟩)
    | badLength => exact Or.inr (Or.inr ⟨hreading, rfl, Or.inl rfl⟩)
    | short =>
      by_cases hended : i.ended = true
      · exact Or.inr (Or.inr ⟨hreading, if_pos hended, Or.inr ⟨rfl, hended⟩⟩)
      · exact Or.inl ⟨if_neg hended, fun _ => ⟨rfl, by simpa using hended⟩⟩
  · rw [if_pos hreading]
    exact Or.inl ⟨rfl, fun h => absurd h hreading⟩

/-- A turn of the reader moves a message from the bytes to the queue. -/
theorem read_unread (i : Inbound) (es : List ScheduleEvent) :
    i.read.queue ++ i.read.unread (i.read.toCome es) = i.queue ++ i.unread (i.toCome es) := by
  obtain ⟨heq, -⟩ | ⟨body, rest, hreading, hframe, heq⟩ | ⟨hreading, heq, hlast⟩ := read_cases i
  · rw [heq]
  · have hsame : i.read.toCome es = i.toCome es := by
      rw [heq]
      rfl
    rw [hsame, heq]
    simp only [Inbound.unread, hreading, if_true]
    rw [messages_of_frame (readFrame_append hframe)]
    simp only [List.append_assoc]
  · have hnone : messages (i.arrived ++ i.toCome es) = [] := by
      refine messages_of_no_frame fun body rest hframe => ?_
      obtain hbad | ⟨hshort, hended⟩ := hlast
      · rw [readFrame_append_of_bad hbad] at hframe
        cases hframe
      · rw [Inbound.toCome, if_pos hended, List.append_nil, hshort] at hframe
        cases hframe
    rw [heq]
    simp [Inbound.stop, Inbound.unread, hreading, hnone]

/-- An event other than a poll loses no message. -/
theorem step_unread {e : ScheduleEvent} (he : e ≠ .poll) (i : Inbound) (es : List ScheduleEvent) :
    (i.step e).queue ++ (i.step e).unread ((i.step e).toCome es) =
      i.queue ++ i.unread (i.toCome (e :: es)) := by
  cases e with
  | arrive chunk =>
    by_cases hended : i.ended = true
    · simp only [Inbound.step, Inbound.arrive, Inbound.toCome, if_pos hended]
    · simp [Inbound.step, Inbound.arrive, Inbound.toCome, Inbound.unread, hended, streamOf]
  | hangUp => simp [Inbound.step, Inbound.hangUp, Inbound.toCome, Inbound.unread, streamOf]
  | read => exact read_unread i es
  | poll => exact absurd rfl he

/-- A stream that has ended has ended for good. -/
theorem ended_step (h : i.ended = true) (e : ScheduleEvent) : (i.step e).ended = true := by
  cases e with
  | arrive chunk => rwa [Inbound.step, Inbound.arrive, if_pos h]
  | hangUp => rfl
  | read =>
    obtain ⟨heq, -⟩ | ⟨body, rest, -, -, heq⟩ | ⟨-, heq, -⟩ := read_cases i
    · rwa [Inbound.step, heq]
    · rwa [Inbound.step, heq]
    · rwa [Inbound.step, heq]
  | poll => exact h

theorem ended_of_hangUp (h : .hangUp ∈ es ∨ i.ended = true) :
    (es.foldl Inbound.step i).ended = true := by
  induction es generalizing i with
  | nil => simpa using h
  | cons e es ih =>
    rw [List.foldl_cons]
    refine ih ?_
    obtain hmem | hended := h
    · obtain rfl | hlater := List.mem_cons.mp hmem
      · exact Or.inr rfl
      · exact Or.inl hlater
    · exact Or.inr (ended_step hended e)

/-- The reader takes bytes away. -/
theorem read_arrived_le (i : Inbound) : i.read.arrived.length ≤ i.arrived.length := by
  obtain ⟨heq, -⟩ | ⟨body, rest, -, hframe, heq⟩ | ⟨-, heq, -⟩ := read_cases i
  · rw [heq]
  · rw [heq]
    have hshorter := length_of_readFrame hframe
    simp only
    omega
  · rw [heq]
    exact Nat.le_refl _

/-- The bytes that wait are bytes of the stream. -/
theorem arrived_le (es : List ScheduleEvent) (i : Inbound) :
    (es.foldl Inbound.step i).arrived.length ≤ i.arrived.length + (i.toCome es).length := by
  induction es generalizing i with
  | nil => exact Nat.le_add_right _ _
  | cons e es ih =>
    rw [List.foldl_cons]
    refine (ih (i.step e)).trans ?_
    cases e with
    | arrive chunk =>
      by_cases hended : i.ended = true
      · simp [Inbound.step, Inbound.arrive, Inbound.toCome, hended]
      · simp [Inbound.step, Inbound.arrive, Inbound.toCome, hended, streamOf, Nat.add_assoc]
    | hangUp => simp [Inbound.step, Inbound.hangUp, Inbound.toCome]
    | read =>
      have hsame : (i.step .read).toCome es = i.toCome (.read :: es) := by
        have hkept : i.read.ended = i.ended := by
          obtain ⟨heq, -⟩ | ⟨body, rest, -, -, heq⟩ | ⟨-, heq, -⟩ := read_cases i
          · rw [heq]
          · rw [heq]
          · rw [heq]
            rfl
        rw [Inbound.toCome, Inbound.toCome, Inbound.step, hkept, streamOf]
      rw [hsame]
      exact Nat.add_le_add_right (read_arrived_le i) _
    | poll => exact Nat.le_refl _

/-- A turn of the reader on a stream that has ended takes a frame, or is its last. -/
theorem fewer_of_read {turns : ℕ} (hended : i.ended = true)
    (hfew : i.reading = true → i.arrived.length < 5 * (turns + 1))
    (hreads : i.read.reading = true) :
    i.read.arrived.length < 5 * turns := by
  obtain ⟨heq, hwaits⟩ | ⟨body, rest, hreading, hframe, heq⟩ | ⟨-, heq, -⟩ := read_cases i
  · rw [heq] at hreads
    rw [(hwaits hreads).2] at hended
    cases hended
  · have hshorter := length_of_readFrame hframe
    have hfew := hfew hreading
    rw [heq]
    simp only
    omega
  · rw [heq] at hreads
    cases hreads

/-- A reader that has no more bytes than its turns take has stopped. -/
theorem stopped_of_no_turn (hfew : i.reading = true → i.arrived.length < 5 * 0) :
    i.reading = false := by
  have hnot : ¬i.reading = true := fun h => Nat.not_lt_zero _ (hfew h)
  simpa using hnot

/-- The reader stops when it has had enough turns after the end of the stream. -/
theorem stops_after_turns (turns : ℕ) (i : Inbound) (hended : i.ended = true)
    (hfew : i.reading = true → i.arrived.length < 5 * turns) :
    ((List.replicate turns ScheduleEvent.read).foldl Inbound.step i).reading = false := by
  induction turns generalizing i with
  | zero => exact stopped_of_no_turn hfew
  | succ turns ih =>
    rw [List.replicate_succ, List.foldl_cons]
    exact ih (i.step .read) (ended_step hended .read) (fewer_of_read hended hfew)

/-! ### The session -/

/-- An event other than a poll is one of the receiving side. -/
theorem perform_onInbound {e : ScheduleEvent} (he : e ≠ .poll) (hinbound : p.inbound = some i) :
    e.toLive.perform N p = { p with inbound := some (i.step e) } := by
  cases e with
  | poll => exact absurd rfl he
  | _ =>
    simp only [ScheduleEvent.toLive, LiveEvent.perform, LivePeer.onInbound, hinbound]
    rfl

/-- **The batches of a schedule**: every message is in one batch of a poll, or waits, or is not read
yet; and the polls hand on what comes of their batches. -/
theorem follow_batches (es : List ScheduleEvent) (hinbound : p.inbound = some i)
    (hopen : p.isClosed = false) :
    ∃ batches : List (List WireMsg),
      (p.follow N es).inbound = some (es.foldl Inbound.step i) ∧
      (p.follow N es).isClosed = false ∧
      batches.flatten ++ (es.foldl Inbound.step i).queue ++
          (es.foldl Inbound.step i).unread [] = i.queue ++ i.unread (i.toCome es) ∧
      (p.follow N es).delivered = p.delivered ++
        batches.flatMap (harvest (goesOn p.expectedRemoteFp) WireMsg.callback) ∧
      (p.follow N es).expectedRemoteFp = p.expectedRemoteFp := by
  induction es generalizing p i with
  | nil =>
    refine ⟨[], hinbound, hopen, ?_, (List.append_nil _).symm, rfl⟩
    rw [toCome_nil]
    rfl
  | cons e es ih =>
    rw [follow_cons, List.foldl_cons]
    by_cases he : e = .poll
    · subst he
      have hpoll := poll_delivers hinbound hopen
      obtain ⟨batches, hin, hstays, hall, hdelivered, hexpected⟩ := ih
        (p := after LivePeer.poll p) (i := i.step .poll) hpoll.inbound (hpoll.opened.trans hopen)
      refine ⟨i.queue :: batches, hin, hstays, ?_, ?_, hexpected.trans hpoll.expected⟩
      · rw [List.flatten_cons, List.append_assoc, List.append_assoc, ← List.append_assoc
          batches.flatten, hall]
        rfl
      · refine hdelivered.trans ?_
        rw [hpoll.delivered, hpoll.expected, List.flatMap_cons, List.append_assoc]
        rfl
    · have hstep := perform_onInbound (N := N) he hinbound
      obtain ⟨batches, hin, hstays, hall, hdelivered, hexpected⟩ := ih
        (p := e.toLive.perform N p) (i := i.step e) (by rw [hstep]) (by rw [hstep]; exact hopen)
      refine ⟨batches, hin, hstays, ?_, ?_, ?_⟩
      · rw [hall, step_unread he]
      · rw [hdelivered, hstep]
        rfl
      · rw [hexpected, hstep]

/-- A schedule without polls is one of the receiving side. -/
theorem follow_of_no_poll (es : List ScheduleEvent) (hnone : .poll ∉ es)
    (hinbound : p.inbound = some i) :
    p.follow N es = { p with inbound := some (es.foldl Inbound.step i) } ∧
      (es.foldl Inbound.step i).queue ++ (es.foldl Inbound.step i).unread [] =
        i.queue ++ i.unread (i.toCome es) := by
  induction es generalizing p i with
  | nil =>
    refine ⟨?_, ?_⟩
    · rw [List.foldl_nil, ← hinbound]
      rfl
    · rw [toCome_nil]
      rfl
  | cons e es ih =>
    rw [List.mem_cons, not_or] at hnone
    obtain ⟨he, hnone⟩ := hnone
    have hstep := perform_onInbound (N := N) (Ne.symm he) hinbound
    have hin : (e.toLive.perform N p).inbound = some (i.step e) := by rw [hstep]
    obtain ⟨hfollow, hall⟩ := ih hnone hin
    refine ⟨?_, ?_⟩
    · rw [follow_cons, hfollow, hstep, List.foldl_cons]
    · rw [List.foldl_cons, hall, step_unread (Ne.symm he)]

/-- The stream of a new link. -/
theorem unread_fresh (stream : Bytes) :
    Inbound.fresh.unread stream = messages stream ++ [.peerClose] :=
  rfl

theorem unread_of_stopped (h : i.reading = false) (coming : Bytes) : i.unread coming = [] := by
  rw [Inbound.unread, h]
  rfl

theorem readerStopped_iff (hinbound : p.inbound = some i) :
    p.readerStopped = true ↔ i.reading = false := by
  rw [LivePeer.readerStopped, hinbound]
  simp

theorem streamOf_poll (es : List ScheduleEvent) : streamOf (es ++ [.poll]) = streamOf es := by
  induction es with
  | nil => rfl
  | cons e es ih =>
    cases e with
    | arrive chunk => exact congrArg (chunk ++ ·) ih
    | hangUp => rfl
    | read => exact ih
    | poll => exact ih

/-! ## Runs of a link -/

section

variable {turns : ℕ} (hinbound : p.inbound = some .fresh) (hopen : p.isClosed = false)

include hinbound hopen

/-- **The reader ends** on every stream that ends. -/
theorem reader_ends (es : List ScheduleEvent) (hstream : streamOf es = stream)
    (hends : .hangUp ∈ es) (hturns : stream.length / 5 < turns) :
    (p.follow N (es ++ List.replicate turns .read)).readerStopped = true := by
  obtain ⟨-, hin, -⟩ := follow_batches (N := N) (es ++ List.replicate turns .read) hinbound hopen
  rw [readerStopped_iff hin, List.foldl_append]
  refine stops_after_turns turns _ (ended_of_hangUp (Or.inl hends)) fun _ => ?_
  have hle : (es.foldl Inbound.step .fresh).arrived.length ≤ 0 + (streamOf es).length :=
    arrived_le es .fresh
  rw [hstream] at hle
  omega

/-- After the last poll every message has been in one batch. -/
theorem delivered_of_stopped (hstream : streamOf es = stream)
    (hstopped : (p.follow N es).readerStopped = true) :
    ∃ batches : List (List WireMsg), batches.flatten = messages stream ++ [.peerClose] ∧
      (p.follow N (es ++ [.poll])).delivered = p.delivered ++
        batches.flatMap (harvest (goesOn p.expectedRemoteFp) WireMsg.callback) := by
  obtain ⟨-, hin, -⟩ := follow_batches (N := N) es hinbound hopen
  rw [readerStopped_iff hin] at hstopped
  obtain ⟨batches, -, -, hall, hdelivered, -⟩ :=
    follow_batches (N := N) (es ++ [.poll]) hinbound hopen
  refine ⟨batches, ?_, hdelivered⟩
  have hlast : (es ++ [ScheduleEvent.poll]).foldl Inbound.step .fresh =
      { es.foldl Inbound.step .fresh with queue := [] } := List.foldl_concat ..
  rw [hlast, unread_of_stopped (by exact hstopped), List.append_nil, List.append_nil] at hall
  have hcome : Inbound.fresh.toCome (es ++ [.poll]) = stream := by
    rw [← hstream]
    exact streamOf_poll es
  rw [hall, hcome, unread_fresh]
  rfl

/-- A single poll takes all messages as one batch. -/
theorem delivered_singlePoll (stream : Bytes) :
    (p.follow N (singlePoll stream)).delivered = p.delivered ++
      harvest (goesOn p.expectedRemoteFp) WireMsg.callback
        (messages stream ++ [WireMsg.peerClose]) := by
  set turns := List.replicate (stream.length / 5 + 1) ScheduleEvent.read with hturns
  set es : List ScheduleEvent := .arrive stream :: .hangUp :: turns with hes
  have hnone : ScheduleEvent.poll ∉ es := by simp [hes, hturns, List.mem_replicate]
  obtain ⟨hfollow, hall⟩ := follow_of_no_poll (N := N) es hnone hinbound
  have hin : (p.follow N es).inbound = some (es.foldl Inbound.step .fresh) := by rw [hfollow]
  have hstopped : (es.foldl Inbound.step .fresh).reading = false := by
    have hends := reader_ends (N := N) hinbound hopen [.arrive stream, .hangUp]
      (List.append_nil stream) (by simp) (Nat.lt_succ_self (stream.length / 5))
    exact (readerStopped_iff hin).mp hends
  have hcome : Inbound.fresh.toCome es = stream := List.append_nil stream
  rw [unread_of_stopped hstopped, List.append_nil, hcome, unread_fresh] at hall
  have hpoll := poll_delivers hin (by rw [hfollow]; exact hopen)
  have hrun : p.follow N (singlePoll stream) = after LivePeer.poll (p.follow N es) :=
    follow_append es [.poll]
  rw [hrun, hpoll.delivered, hall, hfollow]
  rfl

end

/-- A poll after every turn of the reader. -/
def pollEachTurn (turns : ℕ) : List ScheduleEvent :=
  (List.replicate turns [.read, .poll]).flatten

/-- **A poll after every turn of the reader** hands on every frame, also behind a close.

**Proof sketch.** By induction on the turns: a turn leaves at most one message, and a batch of one
message loses nothing. -/
theorem delivered_pollEachTurn (turns : ℕ) (hinbound : p.inbound = some i)
    (hopen : p.isClosed = false) (hempty : i.queue = []) (hended : i.ended = true)
    (hfew : i.reading = true → i.arrived.length < 5 * turns) :
    ∃ j : Inbound, (p.follow N (pollEachTurn turns)).inbound = some j ∧ j.queue = [] ∧
      j.reading = false ∧ (p.follow N (pollEachTurn turns)).isClosed = false ∧
      (p.follow N (pollEachTurn turns)).delivered =
        p.delivered ++ (i.unread []).filterMap WireMsg.callback := by
  induction turns generalizing p i with
  | zero =>
    have hstopped := stopped_of_no_turn hfew
    refine ⟨i, hinbound, hempty, hstopped, hopen, ?_⟩
    rw [unread_of_stopped hstopped, List.filterMap_nil, List.append_nil]
    rfl
  | succ turns ih =>
    have hturn : p.follow N (pollEachTurn (turns + 1)) =
        (after LivePeer.poll { p with inbound := some i.read }).follow N (pollEachTurn turns) := by
      have hread := perform_onInbound (N := N) (e := .read) (by simp) hinbound
      rw [pollEachTurn, List.replicate_succ, List.flatten_cons, follow_append, follow_cons, hread]
      rfl
    have hpoll := poll_delivers (p := { p with inbound := some i.read }) rfl hopen
    have hone : i.read.queue.length ≤ 1 := by
      obtain ⟨heq, -⟩ | ⟨body, rest, -, -, heq⟩ | ⟨-, heq, -⟩ := read_cases i
      · rw [heq, hempty]
        exact Nat.zero_le 1
      · rw [heq]
        cases hmsg : readMsg body with
        | none => simp [hempty]
        | some m => simp [hempty]
      · rw [heq]
        simp [Inbound.stop, hempty]
    obtain ⟨j, hin, hqueue, hstopped, hstays, hdelivered⟩ := ih
      (p := after LivePeer.poll { p with inbound := some i.read })
      (i := { i.read with queue := [] }) hpoll.inbound (hpoll.opened.trans hopen) rfl
      (ended_step hended .read) (fewer_of_read hended hfew)
    rw [hturn]
    refine ⟨j, hin, hqueue, hstopped, hstays, ?_⟩
    have hunread := read_unread i []
    rw [toCome_nil, toCome_nil, hempty, List.nil_append] at hunread
    rw [hdelivered, hpoll.delivered, harvest_of_length_le_one (fun m => goesOn_of_callback _) hone,
      List.append_assoc, ← hunread, List.filterMap_append]
    rfl

/-- The schedule of a session: the whole stream arrives, and a poll follows every turn of the
reader. -/
def polledStream (stream : Bytes) : List ScheduleEvent :=
  .arrive stream :: .hangUp :: pollEachTurn (stream.length / 5 + 1)

/-- **With a poll after every turn** all messages are handed on. -/
theorem delivered_polledStream (N : LiveNet) (stream : Bytes)
    (hinbound : p.inbound = some .fresh) (hopen : p.isClosed = false) :
    (p.follow N (polledStream stream)).readerStopped = true ∧
      (p.follow N (polledStream stream ++ [.poll])).delivered =
        p.delivered ++ (messages stream ++ [WireMsg.peerClose]).filterMap WireMsg.callback := by
  set i : Inbound := ⟨[], stream, true, true⟩ with hi
  have hbegin : p.follow N [.arrive stream, .hangUp] = { p with inbound := some i } :=
    (follow_of_no_poll (N := N) [.arrive stream, .hangUp] (by simp) hinbound).1
  have hrun : p.follow N (polledStream stream) =
      ({ p with inbound := some i } : LivePeer).follow N
        (pollEachTurn (stream.length / 5 + 1)) := by
    rw [← hbegin]
    exact follow_append [.arrive stream, .hangUp] _
  obtain ⟨j, hin, hqueue, hstopped, hstays, hdelivered⟩ := delivered_pollEachTurn (N := N)
    (p := { p with inbound := some i }) (stream.length / 5 + 1) rfl hopen rfl rfl
    (fun _ => by rw [hi]; simp only; omega)
  rw [← hrun] at hin hstays hdelivered
  refine ⟨(readerStopped_iff hin).mpr hstopped, ?_⟩
  have hlast := poll_delivers hin hstays
  have hone : p.follow N (polledStream stream ++ [.poll]) =
      after LivePeer.poll (p.follow N (polledStream stream)) :=
    follow_append (polledStream stream) [.poll]
  have hunread : i.unread [] = messages stream ++ [.peerClose] := by
    rw [Inbound.unread, if_pos rfl, List.append_nil]
  rw [hone, hlast.delivered, hqueue, harvest_nil, List.append_nil, ← hunread]
  exact hdelivered

/-! ## When the schedule does not matter -/

/-- The messages up to the first close, when every Hello among them is accepted, are those that a
single batch goes on after. -/
theorem whole_batch {expected : Option DtlsFingerprint}
    (hgreets : ∀ hex, .hello hex ∈ opening stream → accepts expected hex = true) :
    (messages stream ++ [WireMsg.peerClose]).takeWhile (goesOn expected) = opening stream ∧
      (messages stream ++ [WireMsg.peerClose]).dropWhile (goesOn expected) =
        behindClose stream ++ [.peerClose] := by
  have hall : ∀ m ∈ opening stream, goesOn expected m = true := by
    intro m hm
    cases m with
    | hello hex => exact hgreets hex hm
    | peerClose =>
      have hclose := List.mem_takeWhile_imp hm
      simp at hclose
    | _ => rfl
  have hsplit : messages stream ++ [.peerClose] =
      opening stream ++ (behindClose stream ++ [.peerClose]) := by
    rw [← List.append_assoc, opening, behindClose, List.takeWhile_append_dropWhile]
  have hclose : ¬goesOn expected .peerClose = true := by simp [goesOn]
  obtain ⟨behind, hbehind⟩ : ∃ behind,
      behindClose stream ++ [.peerClose] = .peerClose :: behind := by
    cases hlist : behindClose stream with
    | nil => exact ⟨[], rfl⟩
    | cons m behind =>
      have hm := List.head?_dropWhile_not (fun m => decide (m ≠ .peerClose)) (messages stream)
      rw [← behindClose, hlist] at hm
      obtain rfl : m = .peerClose := by simpa using hm
      exact ⟨behind ++ [.peerClose], rfl⟩
  rw [hsplit, List.takeWhile_append_of_pos hall, List.dropWhile_append_of_pos hall, hbehind,
    List.takeWhile_cons_of_neg hclose, List.dropWhile_cons_of_neg hclose, List.append_nil]
  exact ⟨rfl, rfl⟩

/-- **When the schedule does not matter.** For a stream whose Hellos match, what is handed on is
independent of the polls exactly when no frame with media or data stands behind the first close. -/
theorem live_schedule_free_iff (N : LiveNet) (p : LivePeer) (stream : Bytes)
    (hinbound : p.inbound = some .fresh) (hopen : p.isClosed = false)
    (hgreets : ∀ hex, .hello hex ∈ opening stream → accepts p.expectedRemoteFp hex = true) :
    ScheduleFree N p stream ↔ ∀ m ∈ behindClose stream, m.callback = none := by
  obtain ⟨hopening, hbehind⟩ := whole_batch hgreets
  have hharvest : harvest (goesOn p.expectedRemoteFp) WireMsg.callback
      (messages stream ++ [WireMsg.peerClose]) = (opening stream).filterMap WireMsg.callback := by
    rw [harvest, hopening]
  have hsingle : (p.follow N (singlePoll stream)).delivered =
      p.delivered ++ (opening stream).filterMap WireMsg.callback := by
    rw [delivered_singlePoll hinbound hopen, hharvest]
  have hclosed : (∀ m ∈ behindClose stream, m.callback = none) ↔
      ∀ m ∈ behindClose stream ++ [.peerClose], m.callback = none := by
    rw [List.forall_mem_append, and_iff_left]
    exact List.forall_mem_singleton.mpr rfl
  rw [hclosed, ← hbehind]
  constructor
  · intro hfree
    -- the session polls after every turn of the reader
    obtain ⟨hstopped, hall⟩ := delivered_polledStream N stream hinbound hopen
    have hequal := hfree.delivered (polledStream stream) (List.append_nil stream) hstopped
    rw [hall, hsingle, ← hharvest] at hequal
    exact filterMap_eq_harvest_iff.mp (List.append_cancel_left hequal)
  · intro hnone
    refine ⟨fun es hstream hstopped => ?_, hsingle, fun es hstream hends turns hturns => ?_⟩
    · obtain ⟨batches, hbatches, hdelivered⟩ :=
        delivered_of_stopped hinbound hopen hstream hstopped
      rw [hdelivered, flatMap_harvest (by rwa [hbatches]), hbatches,
        delivered_singlePoll hinbound hopen]
    · exact reader_ends hinbound hopen es hstream hends hturns

/-! ### Concrete streams -/

/-- A viewer whose stream is established and expects the fingerprint of the description. -/
def linkedViewer : LivePeer :=
  { demoViewer with
    state := .connecting
    inbound := some .fresh
    expectedRemoteFp := (DtlsFingerprint.sha256 demoSdp.fingerprint).toOption }

/-- A frame that closes. -/
def closeFrame : Bytes := frame kindControl [ctrlClose]

/-- The schedule does not matter for a Hello and a data message. -/
theorem live_schedule_free_data : ScheduleFree demoNet linkedViewer (helloFrame ++ dataFrame) := by
  have hgoes : ∀ m ∈ opening (helloFrame ++ dataFrame),
      goesOn linkedViewer.expectedRemoteFp m = true := by decide +kernel
  refine (live_schedule_free_iff demoNet linkedViewer (helloFrame ++ dataFrame) rfl (by decide)
    fun hex hmem => hgoes _ hmem).mpr ?_
  have hnone : behindClose (helloFrame ++ dataFrame) = [] := by decide +kernel
  rw [hnone]
  exact fun m hm => absurd hm List.not_mem_nil

/-- A poll between the close and the data behind it. -/
def pollAtClose : List ScheduleEvent :=
  [.arrive (helloFrame ++ closeFrame ++ dataFrame), .hangUp, .read, .read, .poll, .read, .read]

/-- **A poll between a close and the data behind it** makes the next poll hand on the data. -/
theorem live_schedule_matters : ¬∀ p stream, p.inbound = some .fresh → p.isClosed = false →
    (∀ hex, .hello hex ∈ opening stream → accepts p.expectedRemoteFp hex = true) →
    ScheduleFree demoNet p stream := by
  intro h
  have hgoes : ∀ m ∈ opening (helloFrame ++ closeFrame ++ dataFrame),
      goesOn linkedViewer.expectedRemoteFp m = true := by decide +kernel
  have hfree := h linkedViewer (helloFrame ++ closeFrame ++ dataFrame) rfl (by decide)
    fun hex hmem => hgoes _ hmem
  have hequal := hfree.delivered pollAtClose (by decide +kernel) (by decide +kernel)
  have hdiffer : ¬(linkedViewer.follow demoNet (pollAtClose ++ [.poll])).delivered =
      (linkedViewer.follow demoNet
        (singlePoll (helloFrame ++ closeFrame ++ dataFrame))).delivered := by decide +kernel
  exact hdiffer hequal

end RemoteLink.Net
