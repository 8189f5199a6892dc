import RemoteLink.Server.SessionTraffic

set_option autoImplicit false

/-!
# The order of the sequence numbers of a session

Each session counts its messages: the registry takes a message only if its number is not below the
next one expected, and continues after it. The numbers it emits therefore grow, as long as there
is a next number to continue with: the increment saturates at the largest `u64`, and a session
that has taken the largest number takes it again.

## Main definitions

* `sessionLog` — the messages emitted for the latest session of an id.
* `Precedes`, `LogOrdered` — the order of its numbers.
* `TrafficWorld`, `trafficSystem` — the registry with the messages it emitted and the number it
  last accepted for each session.
* `RegistryEvent.saturates` — a message that makes its session take the largest number.

## Main results

* `LogOrdered.append` — one more message.
* `Numbered.send`, `Numbered.sendClosed`, `Numbered.start` — the writes that emit.
* `signal_seq_ordered` — numbers strictly increase in every run without a saturating message.
-/

namespace RemoteLink.Server

open RemoteLink.Library RemoteLink.Protocol

/-! ## The log of a session -/

/-- The number `u64::MAX`. -/
def maxSeq : UInt64 := 18446744073709551615

/-- Whether a message opens a session. -/
def isIncoming : SignalMessage → Bool
  | .sessionIncoming .. => true
  | _ => false

/-- Continue the log of the latest session under `sid` with an emitted message. -/
def logStep (sid : String) (log : List (ConnId × SignalMessage)) (x : ConnId × SignalMessage) :
    List (ConnId × SignalMessage) :=
  if x.2.sessionId? = some sid then if isIncoming x.2 then [x] else log ++ [x] else log

/-- The messages emitted for the latest session under `sid`, oldest first. A `session_incoming`
starts a new session. -/
def sessionLog (sid : String) (emitted : List (ConnId × SignalMessage)) :
    List (ConnId × SignalMessage) :=
  emitted.foldl (logStep sid) []

/-- `a` comes before `b`: its number is smaller, or both are the two copies of one `session_end`,
which goes to both parties. -/
def Precedes (a b : ConnId × SignalMessage) : Prop :=
  (∃ p q, a.2.signalSeq? = some p ∧ b.2.signalSeq? = some q ∧ p < q) ∨
  ∃ sid seq reason, a.2 = .sessionEnd sid seq reason ∧ b.2 = .sessionEnd sid seq reason ∧ a.1 ≠ b.1

/-- At every moment, the numbers of the latest session of every id strictly increase. -/
def LogOrdered (emitted : List (ConnId × SignalMessage)) : Prop :=
  ∀ past, past <+: emitted → ∀ sid, (sessionLog sid past).Pairwise Precedes

theorem sessionLog_concat (sid : String) (emitted : List (ConnId × SignalMessage))
    (x : ConnId × SignalMessage) :
    sessionLog sid (emitted ++ [x]) = logStep sid (sessionLog sid emitted) x := by
  simp only [sessionLog, List.foldl_append, List.foldl_cons, List.foldl_nil]

/-- A message of the session extends its log. -/
theorem sessionLog_concat_of {sid : String} {x : ConnId × SignalMessage}
    (hsid : x.2.sessionId? = some sid) (hinc : isIncoming x.2 = false)
    (emitted : List (ConnId × SignalMessage)) :
    sessionLog sid (emitted ++ [x]) = sessionLog sid emitted ++ [x] := by
  rw [sessionLog_concat, logStep, if_pos hsid, hinc]
  rfl

/-- **One more message keeps the order** if everything its session emitted before precedes it. -/
theorem LogOrdered.append {emitted : List (ConnId × SignalMessage)} (h : LogOrdered emitted)
    {x : ConnId × SignalMessage}
    (hx : ∀ sid, x.2.sessionId? = some sid → isIncoming x.2 = false →
      ∀ y ∈ sessionLog sid emitted, Precedes y x) :
    LogOrdered (emitted ++ [x]) := by
  intro past hpast sid
  rcases List.prefix_concat_iff.mp hpast with rfl | hpast
  · rw [sessionLog_concat]
    unfold logStep
    have hold := h emitted List.prefix_rfl sid
    split_ifs with hsid hinc
    · exact List.pairwise_singleton _ _
    · refine List.pairwise_append.mpr ⟨hold, List.pairwise_singleton _ _, fun y hy z hz => ?_⟩
      obtain rfl := List.mem_singleton.mp hz
      exact hx sid hsid (by simpa using hinc) y hy
    · exact hold
  · exact h past hpast sid

/-! ## Numbers that can still come -/

/-- Every session expects numbers above the ones emitted and accepted for it, and what was emitted
so far is ordered. -/
structure Numbered (sessions : HashMap String Session) (emitted : List (ConnId × SignalMessage))
    (last : HashMap String UInt64) : Prop where
  ordered : LogOrdered emitted
  below : ∀ sid s, sessions.lookup sid = some s → ∀ y ∈ sessionLog sid emitted,
    ∃ q, y.2.signalSeq? = some q ∧ q < s.nextSignalSeq
  accepted : ∀ sid s, sessions.lookup sid = some s → ∃ q, last.lookup sid = some q ∧
    q < s.nextSignalSeq

namespace Numbered

variable {sessions sessions' : HashMap String Session}
  {emitted : List (ConnId × SignalMessage)} {last last' : HashMap String UInt64}

theorem empty : Numbered ∅ [] ∅ := by
  refine ⟨fun past hpast sid => ?_, fun sid s hs => ?_, fun sid s hs => ?_⟩
  · rw [List.prefix_nil.mp hpast]
    exact List.Pairwise.nil
  · simp at hs
  · simp at hs

/-- Sessions may go, and may skip numbers. -/
theorem weaken (h : Numbered sessions emitted last)
    (hsess : ∀ k t, sessions'.lookup k = some t → ∃ t₀, sessions.lookup k = some t₀ ∧
      t₀.nextSignalSeq ≤ t.nextSignalSeq ∧ ∃ q, last'.lookup k = some q ∧ q < t.nextSignalSeq) :
    Numbered sessions' emitted last' := by
  refine ⟨h.ordered, fun sid s hs y hy => ?_, fun sid s hs => ?_⟩
  · obtain ⟨t₀, ht₀, hle, -⟩ := hsess sid s hs
    obtain ⟨q, hq, hlt⟩ := h.below sid t₀ ht₀ y hy
    exact ⟨q, hq, UInt64.lt_of_lt_of_le hlt hle⟩
  · obtain ⟨-, -, -, hlast⟩ := hsess sid s hs
    exact hlast

/-- Sessions may go. -/
theorem sub (h : Numbered sessions emitted last)
    (hsess : ∀ k t, sessions'.lookup k = some t → ∃ t₀, sessions.lookup k = some t₀ ∧
      t.nextSignalSeq = t₀.nextSignalSeq) : Numbered sessions' emitted last := by
  refine h.weaken fun k t ht => ?_
  obtain ⟨t₀, ht₀, heq⟩ := hsess k t ht
  refine ⟨t₀, ht₀, heq ▸ UInt64.le_refl _, ?_⟩
  rw [heq]
  exact h.accepted k t₀ ht₀

/-- A message of no session. -/
theorem skip (h : Numbered sessions emitted last) {x : ConnId × SignalMessage}
    (hx : x.2.sessionId? = none) : Numbered sessions (emitted ++ [x]) last := by
  have hlog : ∀ sid, sessionLog sid (emitted ++ [x]) = sessionLog sid emitted := by
    intro sid
    rw [sessionLog_concat, logStep, if_neg (by simp [hx])]
  refine ⟨h.ordered.append fun sid hsid => by simp [hx] at hsid, fun sid s hs y hy => ?_,
    h.accepted⟩
  rw [hlog] at hy
  exact h.below sid s hs y hy

/-- A message for a session that is closed by now. -/
theorem sendClosed (h : Numbered sessions emitted last) {x : ConnId × SignalMessage} {sid : String}
    (hsid : x.2.sessionId? = some sid) (hgone : sessions.lookup sid = none)
    (hprec : ∀ y ∈ sessionLog sid emitted, Precedes y x) :
    Numbered sessions (emitted ++ [x]) last := by
  refine ⟨h.ordered.append fun sid' hsid' _ => ?_, fun k s hs y hy => ?_, h.accepted⟩
  · obtain rfl := Option.some.inj (hsid.symm.trans hsid')
    exact hprec
  · have hne : sid ≠ k := by
      rintro rfl
      rw [hgone] at hs
      cases hs
    rw [sessionLog_concat, logStep, if_neg (by simpa [hsid] using hne)] at hy
    exact h.below k s hs y hy

/-- What a session emitted precedes a message whose number it does not refuse. -/
theorem precedes (h : Numbered sessions emitted last) {x : ConnId × SignalMessage} {sid : String}
    {s : Session} {q : UInt64} (hs : sessions.lookup sid = some s) (hq : ¬q < s.nextSignalSeq)
    (hseq : x.2.signalSeq? = some q) : ∀ y ∈ sessionLog sid emitted, Precedes y x := by
  intro y hy
  obtain ⟨p, hp, hlt⟩ := h.below sid s hs y hy
  exact .inl ⟨p, q, hp, hseq, UInt64.lt_of_lt_of_le hlt (UInt64.not_lt.mp hq)⟩

/-- A message of a session that goes on above its number. -/
theorem send (h : Numbered sessions emitted last) {x : ConnId × SignalMessage} {sid : String}
    {s s' : Session} {q : UInt64} (hs : sessions.lookup sid = some s)
    (hq : ¬q < s.nextSignalSeq) (hsid : x.2.sessionId? = some sid)
    (hseq : x.2.signalSeq? = some q) (hinc : isIncoming x.2 = false) (hnext : q < s'.nextSignalSeq) :
    Numbered (sessions.insert sid s') (emitted ++ [x]) (last.insert sid q) := by
  have hprec := h.precedes hs hq hseq
  refine ⟨h.ordered.append fun sid' hsid' _ => ?_, fun k t ht y hy => ?_, fun k t ht => ?_⟩
  · obtain rfl := Option.some.inj (hsid.symm.trans hsid')
    exact hprec
  · rw [HashMap.lookup_insert_if] at ht
    split_ifs at ht with hk
    · obtain rfl := Option.some.inj ht
      subst hk
      rw [sessionLog_concat_of hsid hinc] at hy
      rcases List.mem_append.mp hy with hy | hy
      · obtain ⟨p, hp, hlt⟩ := h.below k s hs y hy
        exact ⟨p, hp, UInt64.lt_trans (UInt64.lt_of_lt_of_le hlt (UInt64.not_lt.mp hq)) hnext⟩
      · obtain rfl := List.mem_singleton.mp hy
        exact ⟨q, hseq, hnext⟩
    · rw [sessionLog_concat, logStep, if_neg (by simpa [hsid] using Ne.symm hk)] at hy
      exact h.below k t ht y hy
  · rw [HashMap.lookup_insert_if] at ht ⊢
    split_ifs at ht ⊢ with hk
    · exact ⟨q, rfl, Option.some.inj ht ▸ hnext⟩
    · exact h.accepted k t ht

/-- A message of a session that goes on above its number, and that was not taken. -/
theorem sendLost (h : Numbered sessions emitted last) {sid : String} {s s' : Session} {q : UInt64}
    (hs : sessions.lookup sid = some s) (hq : ¬q < s.nextSignalSeq) (hnext : q < s'.nextSignalSeq) :
    Numbered (sessions.insert sid s') emitted (last.insert sid q) := by
  refine h.weaken fun k t ht => ?_
  rw [HashMap.lookup_insert_if] at ht ⊢
  split_ifs at ht ⊢ with hk
  · obtain rfl := Option.some.inj ht
    exact ⟨s, hk ▸ hs, UInt64.le_of_lt (UInt64.lt_of_le_of_lt (UInt64.not_lt.mp hq) hnext), q, rfl,
      hnext⟩
  · exact ⟨t, ht, UInt64.le_refl _, h.accepted k t ht⟩

/-- The message that opens a session. -/
theorem start (h : Numbered sessions emitted last) {x : ConnId × SignalMessage} {sid : String}
    {s : Session} {q : UInt64} (hsid : x.2.sessionId? = some sid) (hseq : x.2.signalSeq? = some q)
    (hinc : isIncoming x.2 = true) (hnext : q < s.nextSignalSeq) :
    Numbered (sessions.insert sid s) (emitted ++ [x]) (last.insert sid q) := by
  refine ⟨h.ordered.append fun _ _ hinc' => ?_, fun k t ht y hy => ?_, fun k t ht => ?_⟩
  · rw [hinc] at hinc'
    cases hinc'
  · rw [HashMap.lookup_insert_if] at ht
    rw [sessionLog_concat, logStep] at hy
    split_ifs at ht with hk
    · obtain rfl := Option.some.inj ht
      rw [if_pos (hk ▸ hsid), if_pos hinc] at hy
      obtain rfl := List.mem_singleton.mp hy
      exact ⟨q, hseq, hnext⟩
    · rw [if_neg (by simpa [hsid] using Ne.symm hk)] at hy
      exact h.below k t ht y hy
  · rw [HashMap.lookup_insert_if] at ht ⊢
    split_ifs at ht ⊢ with hk
    · exact ⟨q, rfl, Option.some.inj ht ▸ hnext⟩
    · exact h.accepted k t ht

end Numbered

/-! ## Increments -/

theorem lt_of_checkedSucc {q r : UInt64} (h : checkedSucc q = some r) : q < r := by
  unfold checkedSucc at h
  split_ifs at h with hmax
  obtain rfl := Option.some.inj h
  rw [UInt64.lt_iff_toNat_lt, UInt64.toNat_add]
  have hlt := q.toNat_lt
  have hne : q.toNat ≠ 18446744073709551615 := by
    intro heq
    exact hmax (UInt64.toNat_inj.mp heq)
  have hone : (1 : UInt64).toNat = 1 := rfl
  omega

/-- Below the largest number the saturating increment is an increment. -/
theorem lt_saturatingSucc {q : UInt64} (h : q ≠ maxSeq) : q < saturatingSucc q := by
  unfold saturatingSucc
  rcases hq : checkedSucc q with _ | r
  · unfold checkedSucc at hq
    split_ifs at hq with hmax
    exact absurd hmax h
  · exact lt_of_checkedSucc hq

/-! ## The writes of the registry -/

/-- From `g` to `g'` the registry keeps its numbers, whatever it emitted before. -/
def KeepsNumbers (g g' : RegistryInner) (last last' : HashMap String UInt64) : Prop :=
  ∀ emitted, Numbered g.sessions emitted last →
    ∃ new, g'.sent = g.sent ++ new ∧ Numbered g'.sessions (emitted ++ new) last'

namespace KeepsNumbers

variable {g g' g'' : RegistryInner} {last last' last'' : HashMap String UInt64}

/-- Writes that send nothing. -/
theorem silent (hsent : g'.sent = g.sent)
    (h : ∀ emitted, Numbered g.sessions emitted last → Numbered g'.sessions emitted last') :
    KeepsNumbers g g' last last' :=
  fun emitted hnum => ⟨[], by rw [hsent, List.append_nil], by simpa using h emitted hnum⟩

theorem refl (g : RegistryInner) : KeepsNumbers g g last last := silent rfl fun _ h => h

theorem trans (h : KeepsNumbers g g' last last') (h' : KeepsNumbers g' g'' last' last'') :
    KeepsNumbers g g'' last last'' := by
  intro emitted hnum
  obtain ⟨new, hsent, hnum⟩ := h emitted hnum
  obtain ⟨new', hsent', hnum⟩ := h' (emitted ++ new) hnum
  exact ⟨new ++ new', by rw [hsent', hsent, List.append_assoc], by rwa [← List.append_assoc]⟩

/-- Writes that end with a message, which may or may not be taken. -/
theorem push (hsent : g'.sent = g.sent) {c : ConnId} {m : SignalMessage}
    (hlost : ∀ emitted, Numbered g.sessions emitted last → Numbered g'.sessions emitted last')
    (htaken : ∀ emitted, Numbered g.sessions emitted last →
      Numbered g'.sessions (emitted ++ [(c, m)]) last') :
    KeepsNumbers g (g'.push c m) last last' := by
  intro emitted hnum
  refine ⟨_, by rw [g'.push_sent c m, hsent], ?_⟩
  rw [RegistryInner.push_sessions]
  split_ifs
  · exact htaken emitted hnum
  · simpa using hlost emitted hnum

/-- Removing sessions, or moving them to another connection. -/
theorem sub (hsent : g'.sent = g.sent)
    (hsess : ∀ k t, g'.sessions.lookup k = some t → ∃ t₀, g.sessions.lookup k = some t₀ ∧
      t.nextSignalSeq = t₀.nextSignalSeq) : KeepsNumbers g g' last last :=
  silent hsent fun _ h => h.sub hsess

end KeepsNumbers

/-- The two parties of every session are different connections. -/
def PartiesDiffer (sessions : HashMap String Session) : Prop :=
  ∀ sid s, sessions.lookup sid = some s → s.hostConn ≠ s.viewerConn

namespace RegistryInner

variable {g : RegistryInner} {last : HashMap String UInt64}

/-- **Closing a session emits its next number**, once to each party. -/
theorem close_keepsNumbers (hparties : PartiesDiffer g.sessions) (sid reason : String) :
    KeepsNumbers g (g.closeSessionLocked sid reason) last last := by
  unfold closeSessionLocked
  rcases hs : g.sessions.lookup sid with _ | s
  · exact .refl g
  · dsimp only
    have hsub : ∀ k t, (g.sessions.erase sid).lookup k = some t →
        ∃ t₀, g.sessions.lookup k = some t₀ ∧ t.nextSignalSeq = t₀.nextSignalSeq :=
      fun k t ht => ⟨t, lookup_of_erase ht, rfl⟩
    split_ifs
    · exact .sub rfl hsub
    · intro emitted hnum
      have hgone : (g.sessions.erase sid).lookup sid = none := AList.lookup_erase _ _
      have hprec : ∀ c, ∀ y ∈ sessionLog sid emitted,
          Precedes y (c, .sessionEnd sid s.nextSignalSeq reason) :=
        fun c => hnum.precedes hs (UInt64.lt_irrefl _) rfl
      have herased := hnum.sub hsub
      have hfirst : ∀ c, Numbered (g.sessions.erase sid)
          (emitted ++ [(c, .sessionEnd sid s.nextSignalSeq reason)]) last :=
        fun c => herased.sendClosed rfl hgone (hprec c)
      refine ⟨_, by rw [push_sent, push_sent, List.append_assoc], ?_⟩
      simp only [push_sessions]
      split_ifs
      · -- the second copy follows the first
        rw [← List.append_assoc]
        refine (hfirst _).sendClosed rfl hgone fun y hy => ?_
        rw [sessionLog_concat_of rfl rfl] at hy
        rcases List.mem_append.mp hy with hy | hy
        · exact hprec _ y hy
        · obtain rfl := List.mem_singleton.mp hy
          exact .inr ⟨sid, s.nextSignalSeq, reason, rfl, rfl, hparties sid s hs⟩
      · simpa using hfirst s.hostConn
      · simpa using hfirst s.viewerConn
      · simpa using herased

theorem closeAll_keepsNumbers (hparties : PartiesDiffer g.sessions) (sids : List String)
    (reason : String) : KeepsNumbers g (g.closeAll sids reason) last last := by
  induction sids generalizing g with
  | nil => exact .refl g
  | cons sid sids ih =>
    refine (close_keepsNumbers hparties sid reason).trans (ih fun k t ht => ?_)
    rw [sessions_close] at ht
    split_ifs at ht
    exact hparties k t ht

theorem reap_keepsNumbers (hparties : PartiesDiffer g.sessions) (now : Time) :
    KeepsNumbers g (g.reapExpired now).2 last last :=
  closeAll_keepsNumbers hparties _ _

end RegistryInner

/-! ## Messages that are accepted -/

namespace RegistryEvent

open RegistryInner

/-- Whether the relay's checks let a message of this session pass. -/
def relayPasses (g : RegistryInner) (from_ : ConnId) (msg : SignalMessage)
    (key : String × UInt64) : Bool :=
  (g.sessions.lookup key.1).any fun s =>
    decide (s.hostConn = from_ ∨ s.viewerConn = from_) && decide (s.state = .active) &&
      decide (¬key.2 < s.nextSignalSeq) &&
      (relayRoleError msg (decide (s.hostConn = from_))).isNone

/-- The session and the number of an accept or a relay that passes its checks. -/
def admits (g : RegistryInner) : RegistryEvent → Option (String × UInt64)
  | acceptSession conn sid seq now =>
    match (g.reapExpired now).2.hostPending conn sid seq with
    | .ok _ => some (sid, seq)
    | .error _ => none
  | relayMediaSignal conn msg now =>
    (relayKey? msg).filter (relayPasses (g.reapExpired now).2 conn msg)
  | _ => none

/-- An accept or a relay that passes its checks with the largest number. -/
def saturates (g : RegistryInner) (e : RegistryEvent) : Bool :=
  (e.admits g).any fun key => decide (key.2 = maxSeq)

/-- The session and the number that an event makes the last one accepted: that of an accept or a
relay that passes, and for a new session the number the server gave its `session_incoming`. -/
def accepts (ttls : Ttls) (g : RegistryInner) : RegistryEvent → Option (String × UInt64)
  | createPendingSession req now =>
    match (g.createPendingSession ttls.pending req now).1 with
    | .ok () => (checkedSucc req.signalSeq).map fun seq => (req.sessionId, seq)
    | .error _ => none
  | e => e.admits g

/-- The last accepted numbers after an event. -/
def noted (ttls : Ttls) (g : RegistryInner) (last : HashMap String UInt64) (e : RegistryEvent) :
    HashMap String UInt64 :=
  match e.accepts ttls g with
  | some (sid, seq) => last.insert sid seq
  | none => last

/-- The messages that count as emitted by the registry: all but the replies that the handlers send
to their own connections. -/
def recorded (ttls : Ttls) (g : RegistryInner) (e : RegistryEvent) :
    List (ConnId × SignalMessage) :=
  match e with
  | sendTo .. => []
  | _ => e.emits ttls g

/-- The session and the number that a message to the registry carries. -/
def carries : RegistryEvent → Option (String × UInt64)
  | createPendingSession req _ => some (req.sessionId, req.signalSeq)
  | acceptSession _ sid seq _ | rejectSession _ sid seq _ _ | endSession _ sid seq _ _ =>
    some (sid, seq)
  | relayMediaSignal _ msg _ => relayKey? msg
  | _ => none

/-- Without an accepted message the last accepted numbers stay. -/
theorem noted_of_none {ttls : Ttls} {g : RegistryInner} {last : HashMap String UInt64}
    {e : RegistryEvent} (h : e.accepts ttls g = none) : e.noted ttls g last = last := by
  rw [noted, h]

theorem noted_of_some {ttls : Ttls} {g : RegistryInner} {last : HashMap String UInt64}
    {e : RegistryEvent} {sid : String} {seq : UInt64} (h : e.accepts ttls g = some (sid, seq)) :
    e.noted ttls g last = last.insert sid seq := by
  rw [noted, h]

/-- The checks of a relay that passes. -/
theorem relayPasses_iff {g : RegistryInner} {from_ : ConnId} {msg : SignalMessage} {sid : String}
    {seq : UInt64} : relayPasses g from_ msg (sid, seq) = true ↔
      ∃ s, g.sessions.lookup sid = some s ∧ s.party from_ ∧ s.state = .active ∧
        ¬seq < s.nextSignalSeq ∧ relayRoleError msg (decide (s.hostConn = from_)) = none := by
  simp only [relayPasses, Option.any_eq_true, Bool.and_eq_true, decide_eq_true_eq,
    Option.isNone_iff_eq_none, and_assoc]
  rfl

/-- A media message carries the number it is relayed under, and opens no session. -/
theorem relayKey_seq {m : SignalMessage} {sid : String} {seq : UInt64}
    (h : relayKey? m = some (sid, seq)) :
    m.sessionId? = some sid ∧ m.signalSeq? = some seq ∧ isIncoming m = false := by
  cases m <;> simp_all [relayKey?, SignalMessage.sessionId?, SignalMessage.signalSeq?, isIncoming]

section Keeps

variable {ttls : Ttls} {g : RegistryInner} {last : HashMap String UInt64}

theorem bindPeer_keepsNumbers (conn : ConnId) (identity : PeerIdentity) :
    KeepsNumbers g (g.bindPeer conn identity) last last := by
  obtain ⟨role, devicePublicId, deviceId, anonymous⟩ := identity
  rcases role with _ | _
  · rcases devicePublicId with _ | publicId
    · exact .silent rfl fun _ h => h
    · have hpub : KeepsNumbers g (g.publishHost conn publicId) last last := by
        unfold publishHost
        dsimp only
        rcases g.hostByPublicId.lookup publicId with _ | old
        · exact .silent rfl fun _ h => h
        · dsimp only
          split_ifs
          · exact .silent rfl fun _ h => h
          · -- the sessions that move keep their numbers, and the notice is of no session
            have hmove : ∀ k t,
                (g.sessions.mapVals fun _ s => s.transfer old conn publicId).lookup k = some t →
                ∃ t₀, g.sessions.lookup k = some t₀ ∧ t.nextSignalSeq = t₀.nextSignalSeq := by
              intro k t ht
              rw [HashMap.lookup_mapVals, Option.map_eq_some_iff] at ht
              obtain ⟨t₀, ht₀, rfl⟩ := ht
              exact ⟨t₀, ht₀, rfl⟩
            have hpush : KeepsNumbers g ({ g with
                hostByPublicId := g.hostByPublicId.insert publicId conn
                sessions := g.sessions.mapVals fun _ s => s.transfer old conn publicId }.push old
                  (.error "connection_replaced" "host reconnected on another socket")) last last := by
              refine KeepsNumbers.push ?_ (fun _ h => ?_) fun _ h => ?_
              · rfl
              · exact h.sub hmove
              · exact (h.sub hmove).skip rfl
            exact hpush.trans (.silent rfl fun _ h => h)
      exact hpub.trans (.silent rfl fun _ h => h)
  · exact .silent rfl fun _ h => h

/-- **A create that succeeds opens a session above the number of its `session_incoming`.** -/
theorem create_keepsNumbers (hparties : PartiesDiffer g.sessions) (req : CreatePendingSession)
    (now : Time) : KeepsNumbers g (g.createPendingSession ttls.pending req now).2 last
      ((createPendingSession req now).noted ttls g last) := by
  have hreap : KeepsNumbers g (g.reapExpired now).2 last last := reap_keepsNumbers hparties now
  rcases g.create_cases now ttls.pending req with ⟨e, -, heq⟩ |
    ⟨hostConn, incoming, next, hsid, -, -, hincoming, hnext, heq⟩
  · rw [noted_of_none (by simp only [accepts, heq]), heq]
    exact hreap
  · rcases (g.reapExpired now).2.insertPending_cases req
      (pendingSession ttls.pending req hostConn next now) incoming with ⟨-, hins⟩ | ⟨-, hins⟩
    · have haccepts : (createPendingSession req now).accepts ttls g =
          some (req.sessionId, incoming) := by
        simp only [accepts, heq, hins, hincoming, Option.map_some]
      rw [noted_of_some haccepts, heq, hins]
      refine hreap.trans fun emitted hnum => ⟨_, rfl, ?_⟩
      exact hnum.start rfl rfl rfl (lt_of_checkedSucc hnext)
    · rw [noted_of_none (by simp only [accepts, heq, hins]), heq, hins]
      refine hreap.trans (.sub rfl fun k t ht => ⟨t, ?_, rfl⟩)
      dsimp only at ht
      rw [HashMap.lookup_erase_if, HashMap.lookup_insert_if] at ht
      split_ifs at ht
      exact ht

/-- **An accept that passes continues its session above its number**, unless that is the largest. -/
theorem accept_keepsNumbers (hparties : PartiesDiffer g.sessions) {conn : ConnId} {sid : String}
    {seq : UInt64} {now : Time} (hsat : (acceptSession conn sid seq now).saturates g = false) :
    KeepsNumbers g (g.acceptSession ttls.active conn sid seq now).2 last
      ((acceptSession conn sid seq now).noted ttls g last) := by
  have hreap : KeepsNumbers g (g.reapExpired now).2 last last := reap_keepsNumbers hparties now
  rcases hp : (g.reapExpired now).2.hostPending conn sid seq with e | s
  · rw [noted_of_none (by simp only [accepts, admits, hp])]
    unfold RegistryInner.acceptSession
    simp only [hp]
    exact hreap
  · have hadmits : (acceptSession conn sid seq now).admits g = some (sid, seq) := by
      simp only [admits, hp]
    have hmax : seq ≠ maxSeq := by
      simpa only [saturates, hadmits, Option.any_some, decide_eq_false_iff_not] using hsat
    obtain ⟨hs, -, -, hseq⟩ := hostPending_ok hp
    rw [noted_of_some (show (acceptSession conn sid seq now).accepts ttls g = _ from hadmits)]
    unfold RegistryInner.acceptSession
    simp only [hp]
    refine hreap.trans (.push ?_ (fun _ h => ?_) fun _ h => ?_)
    · rfl
    · exact h.sendLost hs hseq (lt_saturatingSucc hmax)
    · exact h.send hs hseq rfl rfl rfl (lt_saturatingSucc hmax)

/-- A session that is ended by a message with a number it does not refuse. -/
theorem finish_keepsNumbers {g' : RegistryInner} {sid : String} {s : Session}
    (hs : g.sessions.lookup sid = some s) {seq : UInt64} (hseq : ¬seq < s.nextSignalSeq)
    (hsent : g'.sent = g.sent) (hsessions : g'.sessions = g.sessions.erase sid) (c : ConnId)
    {m : SignalMessage} (hsid : m.sessionId? = some sid) (hm : m.signalSeq? = some seq) :
    KeepsNumbers g (g'.push c m) last last := by
  have hsub : ∀ k t, g'.sessions.lookup k = some t →
      ∃ t₀, g.sessions.lookup k = some t₀ ∧ t.nextSignalSeq = t₀.nextSignalSeq := by
    intro k t ht
    rw [hsessions] at ht
    exact ⟨t, lookup_of_erase ht, rfl⟩
  refine .push hsent (fun _ h => h.sub hsub) fun _ h => ?_
  have hgone : g'.sessions.lookup sid = none := by
    rw [hsessions, AList.lookup_erase]
  exact (h.sub hsub).sendClosed hsid hgone (h.precedes hs hseq hm)

theorem reject_keepsNumbers (hparties : PartiesDiffer g.sessions) (conn : ConnId) (sid : String)
    (seq : UInt64) (reason : RejectReason) (now : Time) :
    KeepsNumbers g (g.rejectSession conn sid seq reason now).2 last last := by
  have hreap : KeepsNumbers g (g.reapExpired now).2 last last := reap_keepsNumbers hparties now
  rcases g.reject_cases now conn sid seq reason with ⟨code, text, heq⟩ | ⟨s, hs, -, -, hseq, heq⟩
  · rw [heq]
    exact hreap
  · rw [heq]
    refine hreap.trans (finish_keepsNumbers hs hseq ?_ ?_ _ ?_ ?_)
    · rfl
    · rfl
    · rfl
    · rfl

theorem end_keepsNumbers (hparties : PartiesDiffer g.sessions) (conn : ConnId) (sid : String)
    (seq : UInt64) (reason : String) (now : Time) :
    KeepsNumbers g (g.endSession conn sid seq reason now).2 last last := by
  have hreap : KeepsNumbers g (g.reapExpired now).2 last last := reap_keepsNumbers hparties now
  rcases g.end_cases now conn sid seq reason with ⟨code, text, heq⟩ | ⟨s, -, -, heq⟩ |
    ⟨s, hs, -, -, hseq, heq⟩
  · rw [heq]
    exact hreap
  · rw [heq]
    exact hreap
  · rw [heq]
    refine hreap.trans (finish_keepsNumbers hs hseq ?_ ?_ _ ?_ ?_)
    · rfl
    · rfl
    · rfl
    · rfl

theorem force_keepsNumbers (hparties : PartiesDiffer g.sessions) (sid reason : String)
    (now : Time) : KeepsNumbers g (g.forceDisconnect sid reason now).2 last last := by
  have hreap : KeepsNumbers g (g.reapExpired now).2 last last := reap_keepsNumbers hparties now
  have hreaped : PartiesDiffer (g.reapExpired now).2.sessions :=
    fun k t ht => hparties k t (lookup_of_reap ht).1
  rcases g.force_cases now sid reason with heq | ⟨s, -, -, heq⟩ | ⟨s, -, -, heq⟩
  · rw [heq]
    exact hreap
  · rw [heq]
    exact hreap.trans (.sub rfl fun k t ht => ⟨t, lookup_of_erase ht, rfl⟩)
  · rw [heq]
    exact hreap.trans (close_keepsNumbers hreaped sid reason)

/-- **A relay that passes continues its session above its number**, unless that is the largest. -/
theorem relay_keepsNumbers (hparties : PartiesDiffer g.sessions) {conn : ConnId}
    {msg : SignalMessage} {now : Time}
    (hsat : (relayMediaSignal conn msg now).saturates g = false) :
    KeepsNumbers g (g.relayMediaSignal conn msg now).2 last
      ((relayMediaSignal conn msg now).noted ttls g last) := by
  have hreap : KeepsNumbers g (g.reapExpired now).2 last last := reap_keepsNumbers hparties now
  rcases g.relay_cases now conn msg with ⟨hkey, code, text, heq⟩ | ⟨sid, seq, hkey, hcases⟩
  · rw [noted_of_none (by simp only [accepts, admits, hkey, Option.filter_none]), heq]
    exact .refl g
  by_cases hpass : relayPasses (g.reapExpired now).2 conn msg (sid, seq) = true
  · have hadmits : (relayMediaSignal conn msg now).admits g = some (sid, seq) := by
      simp only [admits, hkey, Option.filter_some, hpass, if_true]
    have hmax : seq ≠ maxSeq := by
      simpa only [saturates, hadmits, Option.any_some, decide_eq_false_iff_not] using hsat
    obtain ⟨s, hs, hparty, hactive, hseq, hrole⟩ := relayPasses_iff.mp hpass
    obtain ⟨hsid, hm, hinc⟩ := relayKey_seq hkey
    rw [noted_of_some (show (relayMediaSignal conn msg now).accepts ttls g = _ from hadmits),
      relay_checked hkey hs hparty hactive hseq hrole]
    refine hreap.trans ?_
    rcases (g.reapExpired now).2.forward_cases conn sid seq s msg with ⟨-, hfwd⟩ | ⟨-, text, hfwd⟩
    · rw [hfwd]
      exact fun emitted h => ⟨_, rfl, h.send hs hseq hsid hm hinc (lt_saturatingSucc hmax)⟩
    · rw [hfwd]
      exact .silent rfl fun _ h => h.sendLost hs hseq (lt_saturatingSucc hmax)
  · have hadmits : (relayMediaSignal conn msg now).accepts ttls g = none := by
      simp only [accepts, admits, hkey, Option.filter_some, hpass, Bool.false_eq_true, if_false]
    rw [noted_of_none hadmits]
    rcases hcases with ⟨code, text, heq⟩ | ⟨s, -, -, -, -, -, heq⟩ |
      ⟨s, hs, hparty, hactive, hseq, hrole, -⟩
    · rw [heq]
      exact hreap
    · rw [heq]
      exact hreap
    · exact absurd (relayPasses_iff.mpr ⟨s, hs, hparty, hactive, hseq, hrole⟩) hpass

/-- **Every event keeps the numbers**, unless it makes its session take the largest one. -/
theorem perform_keepsNumbers (hparties : PartiesDiffer g.sessions) {e : RegistryEvent}
    (hsat : e.saturates g = false) (hreply : ∀ c m, e ≠ .sendTo c m) :
    KeepsNumbers g (e.perform ttls g).2 last (e.noted ttls g last) := by
  cases e with
  | registerConn => exact .silent rfl fun _ h => h
  | dropReceiver conn => exact .silent rfl fun _ h => h
  | sendTo conn msg => exact absurd rfl (hreply conn msg)
  | bindPeer conn identity => exact bindPeer_keepsNumbers conn identity
  | unregisterConn conn =>
    refine KeepsNumbers.trans ?_ (closeAll_keepsNumbers ?_ _ "peer_disconnected")
    · exact .silent rfl fun _ h => h
    · exact hparties
  | reapExpired now => exact reap_keepsNumbers hparties now
  | createPendingSession req now => exact create_keepsNumbers hparties req now
  | acceptSession conn sid seq now => exact accept_keepsNumbers hparties hsat
  | rejectSession conn sid seq reason now => exact reject_keepsNumbers hparties conn sid seq reason now
  | endSession conn sid seq reason now => exact end_keepsNumbers hparties conn sid seq reason now
  | forceDisconnect sid reason now => exact force_keepsNumbers hparties sid reason now
  | relayMediaSignal conn msg now => exact relay_keepsNumbers hparties hsat

/-- **A message whose number is below the next one does nothing but reap**; neither does an intent
for an id that is taken. -/
theorem perform_stale {e : RegistryEvent} {sid : String} {seq : UInt64} {now : Time} {s : Session}
    (hcarries : e.carries = some (sid, seq)) (hclock : e.clock = some now)
    (hs : (g.reapExpired now).2.sessions.lookup sid = some s) (hseq : seq < s.nextSignalSeq) :
    (e.perform ttls g).2 = (g.reapExpired now).2 := by
  have hfound : ∀ {t : Session}, (g.reapExpired now).2.sessions.lookup sid = some t →
      seq < t.nextSignalSeq := by
    intro t ht
    obtain rfl := Option.some.inj (hs.symm.trans ht)
    exact hseq
  cases e with
  | createPendingSession req now' =>
    obtain rfl := Option.some.inj hclock
    obtain ⟨rfl, rfl⟩ := Prod.mk.inj (Option.some.inj hcarries)
    rcases g.create_cases now' ttls.pending req with ⟨e, -, heq⟩ | ⟨_, _, _, hnone, -⟩
    · exact congrArg Prod.snd heq
    · rw [hnone] at hs
      cases hs
  | acceptSession conn sid' seq' now' =>
    obtain rfl := Option.some.inj hclock
    obtain ⟨rfl, rfl⟩ := Prod.mk.inj (Option.some.inj hcarries)
    rcases g.accept_cases now' ttls.active conn sid' seq' with ⟨code, text, heq⟩ |
      ⟨t, ht, -, -, hge, -⟩
    · exact congrArg Prod.snd heq
    · exact absurd (hfound ht) hge
  | rejectSession conn sid' seq' reason now' =>
    obtain rfl := Option.some.inj hclock
    obtain ⟨rfl, rfl⟩ := Prod.mk.inj (Option.some.inj hcarries)
    rcases g.reject_cases now' conn sid' seq' reason with ⟨code, text, heq⟩ |
      ⟨t, ht, -, -, hge, -⟩
    · exact congrArg Prod.snd heq
    · exact absurd (hfound ht) hge
  | endSession conn sid' seq' reason now' =>
    obtain rfl := Option.some.inj hclock
    obtain ⟨rfl, rfl⟩ := Prod.mk.inj (Option.some.inj hcarries)
    rcases g.end_cases now' conn sid' seq' reason with ⟨code, text, heq⟩ | ⟨t, -, -, heq⟩ |
      ⟨t, ht, -, -, hge, -⟩
    · exact congrArg Prod.snd heq
    · exact congrArg Prod.snd heq
    · exact absurd (hfound ht) hge
  | relayMediaSignal conn msg now' =>
    have hkey : relayKey? msg = some (sid, seq) := hcarries
    simp only [clock, hkey, Option.map_some] at hclock
    obtain rfl := Option.some.inj hclock
    rcases g.relay_cases now' conn msg with ⟨hnone, -⟩ | ⟨sid', seq', hkey', hcases⟩
    · rw [hkey] at hnone
      cases hnone
    obtain ⟨rfl, rfl⟩ := Prod.mk.inj (Option.some.inj (hkey.symm.trans hkey'))
    rcases hcases with ⟨code, text, heq⟩ | ⟨t, -, -, -, -, -, heq⟩ | ⟨t, ht, -, -, hge, -⟩
    · exact congrArg Prod.snd heq
    · exact congrArg Prod.snd heq
    · exact absurd (hfound ht) hge
  | registerConn => cases hcarries
  | dropReceiver conn => cases hcarries
  | bindPeer conn identity => cases hcarries
  | sendTo conn msg => cases hcarries
  | reapExpired now' => cases hcarries
  | forceDisconnect sid' reason now' => cases hcarries
  | unregisterConn conn => cases hcarries

end Keeps

end RegistryEvent

/-! ## The system -/

/-- The registry, what it emitted, and the number it last accepted for each session. The last two
only record history. -/
structure TrafficWorld where
  world : RegistryWorld
  emitted : List (ConnId × SignalMessage)
  last : HashMap String UInt64

/-- The runs of the registry, with their history. -/
def trafficSystem (ttls : Ttls) : System TrafficWorld RegistryEvent where
  init t := t = ⟨⟨.empty, ∅⟩, [], ∅⟩
  step t e := ((registrySystem ttls).step t.world e).map fun world =>
    ⟨world, t.emitted ++ e.recorded ttls t.world.inner, e.noted ttls t.world.inner t.last⟩

/-- The numbers of every session strictly increase, and a message of a live session that does not
come after the last one accepted does nothing but reap: it is not forwarded, and the session stays
as it is. -/
def NumbersIncrease (ttls : Ttls) (t : TrafficWorld) : Prop :=
  LogOrdered t.emitted ∧
  ∀ (e : RegistryEvent) sid seq q now s, e.carries = some (sid, seq) → e.clock = some now →
    t.world.inner.sessions.lookup sid = some s → now < s.expiresAt →
    t.last.lookup sid = some q → seq ≤ q →
    (e.perform ttls t.world.inner).2 = (t.world.inner.reapExpired now).2

/-! ## Runs -/

/-- A step of the system with history is a step of the registry. -/
theorem trafficSystem_step {ttls : Ttls} {t t' : TrafficWorld} {e : RegistryEvent}
    (h : (trafficSystem ttls).step t e = some t') :
    (registrySystem ttls).step t.world e = some t'.world ∧
    t'.world.inner = (e.perform ttls t.world.inner).2 ∧
    t'.emitted = t.emitted ++ e.recorded ttls t.world.inner ∧
    t'.last = e.noted ttls t.world.inner t.last := by
  obtain ⟨world, hworld, rfl⟩ := Option.map_eq_some_iff.mp h
  refine ⟨hworld, ?_, rfl, rfl⟩
  simp only [registrySystem] at hworld
  split_ifs at hworld
  exact (congrArg RegistryWorld.inner (Option.some.inj hworld)).symm

/-- The condition on a run: no message saturates. -/
def Unsaturated (t : TrafficWorld) (e : RegistryEvent) : Prop :=
  e.saturates t.world.inner = false

/-- **In a run without a saturating message all numbers can still come.** -/
theorem trafficSystem_numbered {ttls : Ttls} {t : TrafficWorld}
    (h : (trafficSystem ttls).ReachableVia Unsaturated t) :
    (registrySystem ttls).Reachable t.world ∧
      Numbered t.world.inner.sessions t.emitted t.last := by
  induction h with
  | init ht =>
    obtain rfl := ht
    exact ⟨.init rfl, .empty⟩
  | @step t t' e _ hunsat hstep ih =>
    obtain ⟨hreach, hnum⟩ := ih
    obtain ⟨hworld, hinner, hemitted, hlast⟩ := trafficSystem_step hstep
    refine ⟨.step hreach trivial hworld, ?_⟩
    have hparties : PartiesDiffer t.world.inner.sessions :=
      fun sid s hs => Delivery.parties_ne (registry_coherent hreach) hs
    rw [hinner, hemitted, hlast]
    by_cases hreply : ∃ c m, e = .sendTo c m
    · obtain ⟨c, m, rfl⟩ := hreply
      simpa [RegistryEvent.recorded, RegistryEvent.perform, RegistryInner.sendTo,
        RegistryEvent.noted, RegistryEvent.accepts, RegistryEvent.admits] using hnum
    · have hrec : e.recorded ttls t.world.inner = e.emits ttls t.world.inner := by
        cases e with
        | sendTo c m => exact absurd ⟨c, m, rfl⟩ hreply
        | _ => rfl
      obtain ⟨new, hsent, hnum'⟩ := RegistryEvent.perform_keepsNumbers hparties hunsat
        (fun c m heq => hreply ⟨c, m, heq⟩) t.emitted hnum
      rw [hrec, RegistryEvent.emits, hsent, List.drop_left]
      exact hnum'

/-- **The sequence numbers of a session strictly increase** in every run in which no accept and no
relay that passes its checks carries the largest `u64`: of the messages emitted for one session,
by its parties or by the server, each has a larger number than those before it, except that the
`session_end` of a close is emitted once to each party; and a message of a live session whose
number is not above the last one accepted does nothing but reap.

**Proof sketch.** The next number a session expects is above all it emitted and accepted
(`Numbered`). What a session emits is not below it, and continues above the emitted number, since
the increment does not saturate. -/
theorem signal_seq_ordered {ttls : Ttls} {t : TrafficWorld}
    (h : (trafficSystem ttls).ReachableVia Unsaturated t) : NumbersIncrease ttls t := by
  obtain ⟨hreach, hnum⟩ := trafficSystem_numbered h
  refine ⟨hnum.ordered, fun e sid seq q now s hcarries hclock hs hlive hlast hle => ?_⟩
  obtain ⟨q', hq', hlt⟩ := hnum.accepted sid s hs
  obtain rfl := Option.some.inj (hlast.symm.trans hq')
  have hreaped : (t.world.inner.reapExpired now).2.sessions.lookup sid = some s := by
    rw [RegistryInner.sessions_reap, if_neg, hs]
    intro hexp
    obtain ⟨s', hs', -, hle'⟩ := RegistryInner.mem_expired.mp hexp
    obtain rfl := Option.some.inj (hs.symm.trans hs')
    exact absurd hlive (Int.not_lt.mpr hle')
  exact RegistryEvent.perform_stale hcarries hclock hreaped (UInt64.lt_of_le_of_lt hle hlt)

/-- After `acceptedRun` and an offer the numbers are those of the incoming, the accept and the
offer, in order. -/
theorem signal_seq_ordered_offer : ∃ t,
    (trafficSystem .default).runFrom ⟨⟨.empty, ∅⟩, [], ∅⟩ (acceptedRun ++
      [.relayMediaSignal 1 (.sessionOffer "sess-1" 3 "v=0" "") (2 * second)]) = some t ∧
    (sessionLog "sess-1" t.emitted).map (fun x => x.2.signalSeq?) = [some 1, some 2, some 3] ∧
    (sessionLog "sess-1" t.emitted).Pairwise Precedes := by
  have hrun : ((trafficSystem .default).restrict
      fun t e => !e.saturates t.world.inner).runFrom ⟨⟨.empty, ∅⟩, [], ∅⟩ (acceptedRun ++
        [.relayMediaSignal 1 (.sessionOffer "sess-1" 3 "v=0" "") (2 * second)]) = some _ := rfl
  have hinit : ((trafficSystem .default).restrict
      fun t e => !e.saturates t.world.inner).Reachable ⟨⟨.empty, ∅⟩, [], ∅⟩ := .init rfl
  have hreach := System.reachableVia_of_restrict
    (fun t e h => show Unsaturated t e from (Bool.not_eq_true' _).mp h)
    (System.reachable_of_runFrom hinit hrun)
  exact ⟨_, rfl, rfl, (signal_seq_ordered hreach).1 _ List.prefix_rfl "sess-1"⟩

/-- **A session that accepts the largest number accepts it again**: the host accepts with
`u64::MAX`, and a media restart with the same number is forwarded to the viewer. -/
theorem signal_seq_ordered_fails :
    ¬∀ t, (trafficSystem .default).Reachable t → NumbersIncrease .default t := by
  intro hclaim
  have hrun : (trafficSystem .default).runFrom ⟨⟨.empty, ∅⟩, [], ∅⟩
      [.registerConn, .bindPeer 1 ⟨.host, some "host-1", some 7, false⟩,
        .registerConn, .bindPeer 2 ⟨.viewer, none, none, true⟩,
        .createPendingSession ⟨2, "sess-1", "host-1", ⟨7, "host-1", .active⟩, .otp, 0, .null⟩ 0,
        .acceptSession 1 "sess-1" maxSeq second,
        .relayMediaSignal 1 (.mediaRestart "sess-1" maxSeq) (2 * second)] = some _ := rfl
  have hordered := (hclaim _ (System.reachable_of_runFrom (.init rfl) hrun)).1 _ List.prefix_rfl
    "sess-1"
  -- the accept and the restart are the last two messages of the session
  have htail := (List.pairwise_cons.mp hordered).2
  rcases List.rel_of_pairwise_cons htail (List.mem_singleton.mpr rfl) with
    ⟨p, q, hp, hq, hlt⟩ | ⟨sid, seq, reason, haccept, -⟩
  · obtain rfl := Option.some.inj hp
    obtain rfl := Option.some.inj hq
    exact absurd hlt (UInt64.lt_irrefl _)
  · cases haccept

end RemoteLink.Server
