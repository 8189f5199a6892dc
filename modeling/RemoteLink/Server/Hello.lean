import RemoteLink.Server.AuthAttempts
import RemoteLink.Server.Ws

set_option autoImplicit false

/-!
# Failed hellos

A hello checks the lockout of its client address before it authenticates. An unauthorized hello is a
failure of the address, one that is admitted clears the count. The count is shared with the other
routes of the server, and hellos of one address may run side by side.

## Main definitions

* `helloFrame` — the first frame of a connection, up to its role and credentials.
* `HelloWorld`, `helloSystem` — the hellos of one address over the tracker of failures, with
  everything the other routes do to the tracker.
* `WithinWindow` — the failures and checks of the address follow each other within the failure
  window.

## Main results

* `expectHello_eq` — a hello is its frame, the lockout check and the authentication.
* `hello_locked_out` — once enough hellos have failed and none was admitted, the next one that comes
  before the lockout of the last failure ends is refused as rate limited.
* `hello_let_in` — one that comes after it is not refused, and neither is one after an anonymous
  viewer.
-/

namespace RemoteLink.Server

open RemoteLink.Library RemoteLink.Protocol
open RemoteLink.Platform (Instant)

/-! ## Hellos -/

/-- The role and credentials in the first frame of a connection. -/
def helloFrame : Frame → Except SignalMessage (Role × HelloAuth)
  | .close => .error (.error "protocol_error" "connection closed before hello")
  | .binary | .pingPong => .error (.error "protocol_error" "first message must be text hello")
  | .text (.error e) => .error (.error "protocol_error" s!"invalid hello: {e}")
  | .text (.ok (.hello role version auth)) =>
    if version = 0 ∨ protocolVersion < version then
      .error (.error "protocol_version"
        s!"unsupported protocol_version {version} (server max {protocolVersion})")
    else .ok (role, auth)
  | .text (.ok _) => .error (.error "protocol_error" "first message must be hello")

/-- A hello is its frame, the lockout check and the authentication. -/
theorem expectHello_eq (frame : Frame) (ans : Answers) :
    expectHello frame ans = match helloFrame frame with
      | .error e => .error e
      | .ok (role, auth) =>
        match ans.ipLimit with
        | some lock => .error (.error "rate_limited" lock)
        | none => authenticate role auth ans := by
  cases frame with
  | close | binary | pingPong => rfl
  | text decoded =>
    cases decoded with
    | error e => rfl
    | ok m =>
      cases m with
      | hello role version auth =>
        simp only [expectHello, helloFrame]
        by_cases hversion : version = 0 ∨ protocolVersion < version
        · simp only [if_pos hversion]
        · rcases ans.ipLimit with _ | lock
          · simp only [if_neg hversion]
          · simp only [if_neg hversion]
      | _ => rfl

/-- Where the hello of a connection stands: it has passed the lockout check, or it is over. -/
inductive HelloPhase where
  | idle
  | authenticating (role : Role) (auth : HelloAuth)
  | ended (result : Except SignalMessage PeerIdentity)

/-- Whether a hello has not arrived yet. -/
def HelloPhase.isIdle : HelloPhase → Bool
  | .idle => true
  | _ => false

/-- Whether a hello has passed the lockout check. -/
def HelloPhase.isAuthenticating : HelloPhase → Bool
  | .authenticating _ _ => true
  | _ => false

theorem HelloPhase.eq_idle {phase : HelloPhase} (h : phase.isIdle = true) : phase = .idle := by
  cases phase with
  | idle => rfl
  | authenticating _ _ | ended _ => cases h

/-- The tracker and the hellos of one address. The last two fields only record history: how many
hellos were unauthorized since the address was last admitted by any route, and since it was last
admitted with a token. -/
structure HelloWorld where
  attempts : AttemptWorld
  hellos : Nat → HelloPhase
  failed : Nat
  sinceToken : Nat

/-- A step of a hello, or an operation of another route on the tracker. -/
inductive HelloStep where
  | arrive (conn : Nat) (frame : Frame) (now : Instant)
  | finish (conn : Nat) (ans : Answers) (now : Instant)
  | elsewhere (op : AttemptOp)

/-- An unauthorized answer. -/
def isUnauthorized : SignalMessage → Bool
  | .error code _ => decide (code = "unauthorized")
  | _ => false

namespace HelloWorld

/-- The first half of a hello: the frame and the lockout check. -/
def arrive (w : HelloWorld) (ip : String) (conn : Nat) (frame : Frame) (now : Instant) :
    HelloWorld :=
  match helloFrame frame with
  | .error e => { w with hellos := Function.update w.hellos conn (.ended (.error e)) }
  | .ok (role, auth) =>
    let (verdict, tracker) := w.attempts.tracker.check (AuthAttemptTracker.keyIp ip) now
    { w with
      attempts := { w.attempts with tracker := tracker, clock := now }
      hellos := Function.update w.hellos conn (match verdict with
        | .error lock => .ended (.error (.error "rate_limited" lock.display))
        | .ok () => .authenticating role auth) }

/-- The second half: the authentication and what it does to the count. -/
def finish (w : HelloWorld) (ip : String) (conn : Nat) (role : Role) (auth : HelloAuth)
    (ans : Answers) (now : Instant) : HelloWorld :=
  let key := AuthAttemptTracker.keyIp ip
  let result := authenticate role auth ans
  let w := { w with hellos := Function.update w.hellos conn (.ended result) }
  match result with
  | .ok identity =>
    { w with
      attempts := ⟨w.attempts.tracker.recordSuccess key, w.attempts.clock,
        Function.update w.attempts.promises key 0, Function.update w.attempts.failures key []⟩
      failed := 0
      sinceToken := if identity.anonymous then w.sinceToken else 0 }
  | .error e =>
    if isUnauthorized e then
      { w with
        attempts := w.attempts.fail key now
        failed := w.failed + 1
        sinceToken := w.sinceToken + 1 }
    else w

end HelloWorld

/-- The hellos of an address and whatever the other routes do to the tracker. A success that another
route records for the address was one with a token. -/
def helloSystem (config : AuthAttemptConfig) (ip : String) : System HelloWorld HelloStep where
  init w := (attemptSystem config).init w.attempts ∧ (w.hellos = fun _ => .idle) ∧ w.failed = 0 ∧
    w.sinceToken = 0
  step w
    | .arrive conn frame now =>
      match w.hellos conn with
      | .idle => if w.attempts.clock ≤ now then some (w.arrive ip conn frame now) else none
      | _ => none
    | .finish conn ans now =>
      match w.hellos conn with
      | .authenticating role auth =>
        if w.attempts.clock ≤ now then some (w.finish ip conn role auth ans now) else none
      | _ => none
    | .elsewhere op =>
      ((attemptSystem config).step w.attempts op).map fun attempts => match op with
        | .recordSuccess key =>
          if key = AuthAttemptTracker.keyIp ip then ⟨attempts, w.hellos, 0, 0⟩
          else { w with attempts := attempts }
        | _ => { w with attempts := attempts }

/-- A use of a key comes within the failure window of its last failure. -/
def AttemptWorld.Recent (w : AttemptWorld) (key : String) (now : Instant) : Prop :=
  ∀ r, w.tracker.records.lookup key = some r →
    now - r.lastFailure ≤ w.tracker.config.failureWindow

/-- The uses of a key by an operation come within the failure window. -/
def RecentOp (key : String) (w : AttemptWorld) : AttemptOp → Prop
  | .check other now | .recordFailure other now => other = key → w.Recent key now
  | .recordSuccess _ => True

/-- **The failures and checks of an address come within the failure window** of the failure before,
whichever route makes them. -/
def WithinWindow (ip : String) (w : HelloWorld) : HelloStep → Prop
  | .arrive _ _ now | .finish _ _ now => w.attempts.Recent (AuthAttemptTracker.keyIp ip) now
  | .elsewhere op => RecentOp (AuthAttemptTracker.keyIp ip) w.attempts op

/-! ## The count of an address -/

/-- The latest failure of a key is answered as the one that it is since the last success, and still
counted; its lockout is in force until it ends. -/
structure CountedAs (config : AuthAttemptConfig) (w : AttemptWorld) (f : RecordedFailure) (k : Nat)
    (r : AttemptRecord) : Prop where
  answer : f.answer = config.answer k
  failures : r.failures = min k u32Max
  free : config.answer k = none → r.lockedUntil = none
  locked : ∀ d, config.answer k = some d → w.clock < f.time + d →
    r.lockedUntil = some (f.time + d)

/-- The tracker agrees with the failures of a key since its last success. -/
structure CountOk (config : AuthAttemptConfig) (key : String) (w : AttemptWorld) : Prop where
  config_eq : w.tracker.config = config
  fresh : w.failures key = [] → w.tracker.records.lookup key = none
  counted : ∀ f older, w.failures key = f :: older → ∃ r,
    w.tracker.records.lookup key = some r ∧ CountedAs config w f (older.length + 1) r

namespace CountOk

variable {config : AuthAttemptConfig} {key : String} {w w' : AttemptWorld} {now : Instant}

/-- What leaves the key alone keeps the agreement. -/
theorem frame (h : CountOk config key w) (hconfig : w'.tracker.config = w.tracker.config)
    (hfailures : w'.failures key = w.failures key)
    (hlookup : w'.tracker.records.lookup key = w.tracker.records.lookup key)
    (hclock : w.clock ≤ w'.clock) : CountOk config key w' where
  config_eq := hconfig.trans h.config_eq
  fresh hnone := by
    rw [hlookup]
    exact h.fresh (hfailures ▸ hnone)
  counted f older heq := by
    obtain ⟨r, hr, hcounted⟩ := h.counted f older (hfailures ▸ heq)
    refine ⟨r, hlookup.trans hr, { hcounted with locked := fun d hd hlt => ?_ }⟩
    exact hcounted.locked d hd (Nat.lt_of_le_of_lt hclock hlt)

/-- A check within the failure window takes at most a lockout that is over. -/
theorem check (h : CountOk config key w) (hnow : w.clock ≤ now) (hrecent : w.Recent key now) :
    CountOk config key { w with tracker := (w.tracker.check key now).2, clock := now } where
  config_eq := AuthAttemptTracker.check_config.trans h.config_eq
  fresh hnone := by
    have hlookup := h.fresh hnone
    show (w.tracker.check key now).2.records.lookup key = none
    unfold AuthAttemptTracker.check
    rw [hlookup]
    exact hlookup
  counted f older heq := by
    obtain ⟨r, hr, hcounted⟩ := h.counted f older heq
    obtain ⟨r₀, locked, hr₀, -, -, hsame⟩ | ⟨-, hover, -⟩ := w.tracker.check_cases key now
    · -- the key is locked, so nothing changes
      refine ⟨r, ?_, { hcounted with locked := fun d hd hlt => ?_ }⟩
      · show (w.tracker.check key now).2.records.lookup key = some r
        rw [hsame]
        exact hr
      · exact hcounted.locked d hd (Nat.lt_of_le_of_lt hnow hlt)
    · obtain ⟨l, hl, hr'⟩ := w.tracker.check_recent key now hr (hrecent r hr)
      refine ⟨_, hr', hcounted.answer, hcounted.failures, fun hnone => ?_, fun d hd hlt => ?_⟩
      · rcases hl with rfl | rfl
        · rfl
        · exact hcounted.free hnone
      · have hforce := hcounted.locked d hd (Nat.lt_of_le_of_lt hnow hlt)
        exact absurd hlt (Nat.not_lt_of_le (hover r _ hr hforce))

/-- A failure within the failure window is counted as one more than the last. -/
theorem counts (h : CountOk config key w) (hrecent : w.Recent key now) :
    w.tracker.recordFailure key now = (config.answer ((w.failures key).length + 1),
      { w.tracker with
        records := w.tracker.records.insert key ⟨min ((w.failures key).length + 1) u32Max, now,
          (config.answer ((w.failures key).length + 1)).map (now + ·)⟩ }) := by
  have hconfig := h.config_eq
  subst hconfig
  refine AuthAttemptTracker.recordFailure_answer ?_ ?_
  · unfold AuthAttemptTracker.failuresAfter
    rcases hfailures : w.failures key with _ | ⟨f, older⟩
    · unfold AuthAttemptTracker.quietReset
      rw [h.fresh hfailures]
      simp
    · obtain ⟨r, hr, hcounted⟩ := h.counted f older hfailures
      rw [AuthAttemptTracker.quietReset_of_recent hr (hrecent r hr), hcounted.failures,
        List.length_cons]
      omega
  · intro hbelow
    rcases hfailures : w.failures key with _ | ⟨f, older⟩
    · unfold AuthAttemptTracker.quietReset
      rw [h.fresh hfailures]
      simp
    · obtain ⟨r, hr, hcounted⟩ := h.counted f older hfailures
      rw [AuthAttemptTracker.quietReset_of_recent hr (hrecent r hr)]
      rw [hfailures, List.length_cons] at hbelow
      exact hcounted.free (if_neg (Nat.not_le_of_lt (Nat.lt_of_succ_lt hbelow)))

/-- A failure within the failure window keeps the agreement. -/
theorem fail (h : CountOk config key w) (hrecent : w.Recent key now) :
    CountOk config key (w.fail key now) := by
  have hhistory : (w.fail key now).failures key =
      ⟨now, (w.tracker.recordFailure key now).1, (w.tracker.recordFailure key now).2⟩ ::
        w.failures key := Function.update_self _ _ _
  have hrecord : (w.fail key now).tracker.records.lookup key =
      some ⟨min ((w.failures key).length + 1) u32Max, now,
        (config.answer ((w.failures key).length + 1)).map (now + ·)⟩ := by
    show (w.tracker.recordFailure key now).2.records.lookup key = _
    rw [h.counts hrecent]
    exact AList.lookup_insert _
  refine ⟨AuthAttemptTracker.recordFailure_config.trans h.config_eq, fun hnil => ?_,
    fun f older heq => ?_⟩
  · rw [hhistory] at hnil
    cases hnil
  · rw [hhistory] at heq
    obtain ⟨rfl, rfl⟩ := List.cons.inj heq
    refine ⟨_, hrecord, ?_, rfl, fun hnone => ?_, fun d hd _ => ?_⟩
    · rw [h.counts hrecent]
    · rw [hnone]
      rfl
    · rw [hd]
      rfl

/-- Before a key fails the tracker knows nothing of it. -/
theorem init (h : (attemptSystem config).init w) : CountOk config key w := by
  obtain ⟨htracker, -, hfailures⟩ := h
  refine ⟨by rw [htracker]; rfl, fun _ => ?_, fun f older heq => ?_⟩
  · rw [htracker]
    exact AList.lookup_empty key
  · rw [hfailures] at heq
    cases heq

/-- A success of the key clears both sides. -/
theorem recordSuccess (h : CountOk config key w) : CountOk config key
    ⟨w.tracker.recordSuccess key, w.clock, Function.update w.promises key 0,
      Function.update w.failures key []⟩ where
  config_eq := h.config_eq
  fresh _ := w.tracker.records.lookup_erase key
  counted f older heq := by
    dsimp only at heq
    rw [Function.update_self] at heq
    cases heq

/-- **The step lemma for the count**: every operation whose use of the key is within the failure
window keeps the agreement. -/
theorem step {op : AttemptOp} (h : CountOk config key w) (hrecent : RecentOp key w op)
    (hstep : (attemptSystem config).step w op = some w') : CountOk config key w' := by
  cases op with
  | check other now =>
    obtain ⟨hnow, hw⟩ := Option.ite_none_right_eq_some.mp hstep
    obtain rfl := Option.some.inj hw
    by_cases hother : key = other
    · subst hother
      exact h.check hnow (hrecent rfl)
    · exact h.frame AuthAttemptTracker.check_config rfl (AuthAttemptTracker.check_other hother) hnow
  | recordFailure other now =>
    obtain ⟨hnow, hw⟩ := Option.ite_none_right_eq_some.mp hstep
    obtain rfl := Option.some.inj hw
    by_cases hother : key = other
    · subst hother
      exact h.fail (hrecent rfl)
    · exact h.frame AuthAttemptTracker.recordFailure_config (Function.update_of_ne hother _ _)
        (AuthAttemptTracker.recordFailure_other hother) hnow
  | recordSuccess other =>
    obtain rfl := Option.some.inj hstep
    by_cases hother : key = other
    · subst hother
      exact h.recordSuccess
    · exact h.frame rfl (Function.update_of_ne hother _ _) (AList.lookup_erase_ne hother)
        (Nat.le_refl _)

/-- **A key is refused until the lockout of its last failure ends.** -/
theorem refuses (h : CountOk config key w) {f : RecordedFailure} {older : List RecordedFailure}
    (hfailures : w.failures key = f :: older) {d : Duration}
    (hanswer : config.answer (older.length + 1) = some d) (hnow : w.clock ≤ now)
    (hlt : now < f.time + d) : ∃ l, (w.tracker.check key now).1 = .error l := by
  obtain ⟨r, hr, hcounted⟩ := h.counted f older hfailures
  have hforce := hcounted.locked d hanswer (Nat.lt_of_le_of_lt hnow hlt)
  obtain ⟨r', locked, -, -, -, heq⟩ | ⟨-, hover, -⟩ := w.tracker.check_cases key now
  · rw [heq]
    exact ⟨_, rfl⟩
  · exact absurd hlt (Nat.not_lt_of_le (hover r _ hr hforce))

end CountOk

/-! ## The hellos of an address -/

/-- The tracker agrees with the failures of an address, and every unauthorized hello since the
address was last admitted is one of them. -/
structure HelloOk (config : AuthAttemptConfig) (ip : String) (w : HelloWorld) : Prop where
  count : CountOk config (AuthAttemptTracker.keyIp ip) w.attempts
  failed_le : w.failed ≤ (w.attempts.failures (AuthAttemptTracker.keyIp ip)).length

namespace HelloOk

variable {config : AuthAttemptConfig} {ip : String} {w w' : HelloWorld} {now : Instant}

/-- The first half of a hello keeps the agreement. -/
theorem arrive (h : HelloOk config ip w) (conn : Nat) (frame : Frame)
    (hnow : w.attempts.clock ≤ now)
    (hrecent : w.attempts.Recent (AuthAttemptTracker.keyIp ip) now) :
    HelloOk config ip (w.arrive ip conn frame now) := by
  unfold HelloWorld.arrive
  split
  · exact ⟨h.count, h.failed_le⟩
  · exact ⟨h.count.check hnow hrecent, h.failed_le⟩

/-- The second half of a hello keeps the agreement: a failure is counted on both sides, an admission
clears both. -/
theorem finish (h : HelloOk config ip w) (conn : Nat) (role : Role) (auth : HelloAuth)
    (ans : Answers) (hrecent : w.attempts.Recent (AuthAttemptTracker.keyIp ip) now) :
    HelloOk config ip (w.finish ip conn role auth ans now) := by
  unfold HelloWorld.finish
  dsimp only
  split
  · exact ⟨h.count.recordSuccess, Nat.zero_le _⟩
  · split_ifs
    · refine ⟨h.count.fail hrecent, ?_⟩
      have hhistory : ((w.attempts.fail (AuthAttemptTracker.keyIp ip) now).failures
          (AuthAttemptTracker.keyIp ip)).length =
          (w.attempts.failures (AuthAttemptTracker.keyIp ip)).length + 1 := by
        unfold AttemptWorld.fail
        dsimp only
        rw [Function.update_self, List.length_cons]
      exact hhistory ▸ Nat.succ_le_succ h.failed_le
    · exact ⟨h.count, h.failed_le⟩

/-- Another route keeps the agreement. -/
theorem elsewhere (h : HelloOk config ip w) {op : AttemptOp}
    (hrecent : RecentOp (AuthAttemptTracker.keyIp ip) w.attempts op)
    (hstep : (helloSystem config ip).step w (.elsewhere op) = some w') : HelloOk config ip w' := by
  obtain ⟨attempts, hattempts, rfl⟩ := Option.map_eq_some_iff.mp hstep
  have hcount := h.count.step hrecent hattempts
  cases op with
  | check other now =>
    obtain ⟨-, hw⟩ := Option.ite_none_right_eq_some.mp hattempts
    obtain rfl := Option.some.inj hw
    exact ⟨hcount, h.failed_le⟩
  | recordFailure other now =>
    obtain ⟨-, hw⟩ := Option.ite_none_right_eq_some.mp hattempts
    obtain rfl := Option.some.inj hw
    refine ⟨hcount, Nat.le_trans h.failed_le ?_⟩
    show _ ≤ (Function.update w.attempts.failures other _ (AuthAttemptTracker.keyIp ip)).length
    by_cases hother : AuthAttemptTracker.keyIp ip = other
    · rw [← hother, Function.update_self]
      exact Nat.le_succ _
    · rw [Function.update_of_ne hother]
  | recordSuccess other =>
    obtain rfl := Option.some.inj hattempts
    by_cases hother : other = AuthAttemptTracker.keyIp ip
    · simp only [if_pos hother]
      exact ⟨hcount, Nat.zero_le _⟩
    · simp only [if_neg hother]
      refine ⟨hcount, Nat.le_trans h.failed_le ?_⟩
      dsimp only
      rw [Function.update_of_ne (Ne.symm hother)]

/-- **The step lemma for the hellos of an address.** -/
theorem step {e : HelloStep} (h : HelloOk config ip w) (hwithin : WithinWindow ip w e)
    (hstep : (helloSystem config ip).step w e = some w') : HelloOk config ip w' := by
  cases e with
  | arrive conn frame now =>
    dsimp only [helloSystem] at hstep
    split at hstep
    · obtain ⟨hnow, hw⟩ := Option.ite_none_right_eq_some.mp hstep
      obtain rfl := Option.some.inj hw
      exact h.arrive conn frame hnow hwithin
    · cases hstep
  | finish conn ans now =>
    dsimp only [helloSystem] at hstep
    split at hstep
    · obtain ⟨-, hw⟩ := Option.ite_none_right_eq_some.mp hstep
      obtain rfl := Option.some.inj hw
      exact h.finish conn _ _ ans hwithin
    · cases hstep
  | elsewhere op => exact h.elsewhere hwithin hstep

/-- No hello has failed yet. -/
theorem init (h : (helloSystem config ip).init w) : HelloOk config ip w := by
  obtain ⟨hattempts, -, hfailed, -⟩ := h
  exact ⟨.init hattempts, by rw [hfailed]; exact Nat.zero_le _⟩

/-- The agreement holds along every run within the failure window. -/
theorem of_reachable (h : (helloSystem config ip).ReachableVia (WithinWindow ip) w) :
    HelloOk config ip w :=
  h.invariant (HelloOk config ip) (fun _ => .init) fun _ _ _ h hc hs => h.step hc hs

end HelloOk

/-- The first half of a hello is over unless the frame is well formed and the address is free. -/
theorem HelloWorld.arrive_hellos (w : HelloWorld) (ip : String) (conn : Nat) (frame : Frame)
    (now : Instant) : (w.arrive ip conn frame now).hellos conn = match helloFrame frame with
      | .error e => .ended (.error e)
      | .ok (role, auth) =>
        match (w.attempts.tracker.check (AuthAttemptTracker.keyIp ip) now).1 with
        | .error lock => .ended (.error (.error "rate_limited" lock.display))
        | .ok () => .authenticating role auth := by
  unfold HelloWorld.arrive
  rcases helloFrame frame with e | ⟨role, auth⟩
  · exact Function.update_self _ _ _
  · exact Function.update_self _ _ _

/-- The second half ends a hello with its authentication. -/
theorem HelloWorld.finish_hellos (w : HelloWorld) (ip : String) (conn : Nat) (role : Role)
    (auth : HelloAuth) (ans : Answers) (now : Instant) :
    (w.finish ip conn role auth ans now).hellos conn = .ended (authenticate role auth ans) := by
  unfold HelloWorld.finish
  dsimp only
  split
  · exact Function.update_self _ _ _
  · split_ifs
    · exact Function.update_self _ _ _
    · exact Function.update_self _ _ _

/-- The two halves of a hello are the checks on its frame: with the lockout that the first one
found, and the answers that the second one got. -/
theorem hello_eq_expectHello (w : HelloWorld) (ip : String) (conn : Nat) (frame : Frame)
    (ans : Answers) (now later : Instant) :
    let verdict := (w.attempts.tracker.check (AuthAttemptTracker.keyIp ip) now).1
    let found := { ans with
      ipLimit := match verdict with
        | .error lock => some lock.display
        | .ok () => none }
    match (w.arrive ip conn frame now).hellos conn with
      | .idle => False
      | .ended result => expectHello frame found = result
      | .authenticating role auth =>
        ((w.arrive ip conn frame now).finish ip conn role auth ans later).hellos conn =
          .ended (expectHello frame found) := by
  dsimp only
  rw [w.arrive_hellos, expectHello_eq]
  rcases helloFrame frame with e | ⟨role, auth⟩
  · rfl
  rcases (w.attempts.tracker.check (AuthAttemptTracker.keyIp ip) now).1 with lock | _
  · rfl
  · exact HelloWorld.finish_hellos _ ip conn role auth ans later

/-- **Hellos of an address are locked out.** In a run in which the failures and checks of an address
come within the failure window, once at least as many hellos as the threshold were unauthorized and
the address was not admitted in between, the last failure was answered with a lockout, no shorter
than that of the failed hellos, and a well-formed hello that comes before its end is refused as rate
limited. A hello that is not admitted never takes away from the count.

**Proof sketch.** `HelloOk` says that the record of the address counts its failures since the last
admission, among them the failed hellos, and is locked until the lockout of the last one ends; each
half of a hello and each operation of another route keeps it. -/
theorem hello_locked_out (config : AuthAttemptConfig) (ip : String) (w : HelloWorld)
    (hw : (helloSystem config ip).ReachableVia (WithinWindow ip) w) (hfailed : 0 < w.failed) :
    (config.maxFailuresBeforeLockout ≤ w.failed →
      ∃ f older d, w.attempts.failures (AuthAttemptTracker.keyIp ip) = f :: older ∧
        f.answer = some d ∧
        computeLockout config.baseLockout config.maxLockout
          (min w.failed u32Max - config.maxFailuresBeforeLockout) ≤ d ∧
        ∀ conn frame role auth now, w.hellos conn = .idle → helloFrame frame = .ok (role, auth) →
          w.attempts.clock ≤ now → now < f.time + d → ∃ w' lock,
            (helloSystem config ip).step w (.arrive conn frame now) = some w' ∧
              w'.hellos conn =
                .ended (.error (.error "rate_limited" (LockoutActive.display lock)))) ∧
    ∃ r, w.attempts.tracker.records.lookup (AuthAttemptTracker.keyIp ip) = some r ∧
      min w.failed u32Max ≤ r.failures := by
  obtain ⟨hcount, hle⟩ := HelloOk.of_reachable hw
  rcases hfailures : w.attempts.failures (AuthAttemptTracker.keyIp ip) with _ | ⟨f, older⟩
  · rw [hfailures] at hle
    exact absurd hfailed (Nat.not_lt_of_le hle)
  rw [hfailures, List.length_cons] at hle
  obtain ⟨r, hr, hcounted⟩ := hcount.counted f older hfailures
  refine ⟨fun hthreshold => ?_, r, hr, ?_⟩
  · have hanswer : config.answer (older.length + 1) =
        some (computeLockout config.baseLockout config.maxLockout
          (min (older.length + 1) u32Max - config.maxFailuresBeforeLockout)) :=
      if_pos (Nat.le_trans hthreshold hle)
    refine ⟨f, older, _, rfl, hcounted.answer.trans hanswer, computeLockout_mono _ _ (by omega), ?_⟩
    intro conn frame role auth now hidle hframe hnow hlt
    obtain ⟨lock, hlock⟩ := hcount.refuses hfailures hanswer hnow hlt
    refine ⟨w.arrive ip conn frame now, lock, ?_, ?_⟩
    · simp only [helloSystem, hidle, if_pos hnow]
    · rw [w.arrive_hellos, hframe]
      dsimp only
      rw [hlock]
  · rw [hcounted.failures]
    omega

/-! ## Runs under the default configuration -/

/-- Whether a step of the hellos of an address comes within the failure window. -/
def inWindow (ip : String) (w : HelloWorld) : HelloStep → Bool
  | .arrive _ _ now | .finish _ _ now =>
    (w.attempts.tracker.records.lookup (AuthAttemptTracker.keyIp ip)).all fun r =>
      decide (now - r.lastFailure ≤ w.attempts.tracker.config.failureWindow)
  | .elsewhere _ => false

theorem withinWindow_of_inWindow (ip : String) (w : HelloWorld) (e : HelloStep)
    (h : inWindow ip w e = true) : WithinWindow ip w e := by
  cases e with
  | arrive _ _ now | finish _ _ now =>
    intro r hr
    unfold inWindow at h
    rw [hr] at h
    exact of_decide_eq_true h
  | elsewhere op => cases h

/-- No hello has arrived yet. -/
def demoHellos : HelloWorld := ⟨demoAttemptWorld, fun _ => .idle, 0, 0⟩

theorem demoHellos_init : (helloSystem .default "::1").init demoHellos :=
  ⟨demoAttemptWorld_init, rfl, rfl, rfl⟩

/-- The hello of a viewer with some token. -/
def demoHello (token : String) : Frame := .text (.ok (.hello .viewer 1 ⟨token⟩))

/-- The answers for a token that nobody was given. -/
def unknownToken : Answers where
  now := 0
  serverTime := ""
  iceServers := .null
  ipLimit := none
  hostLimit := none
  viewerToken := false
  credential := .ok none
  device := .ok none
  blocked := .ok false

/-- Viewers arrive with some tokens, none of them valid. -/
def demoArrivals (tokens : List (Nat × String)) : List HelloStep :=
  tokens.flatMap fun (conn, token) =>
    [.arrive conn (demoHello token) 0, .finish conn unknownToken 0]

/-- Five viewers arrive with an invalid token. -/
def lockedOutRun : List HelloStep :=
  demoArrivals [(0, "x"), (1, "x"), (2, "x"), (3, "x"), (4, "x")]

/-- One viewer without a token arrives after the fourth. -/
def anonymousRun : List HelloStep :=
  demoArrivals [(0, "x"), (1, "x"), (2, "x"), (3, "x"), (4, ""), (5, "x")]

/-- The sixth viewer is refused while the lockout of the fifth lasts. -/
theorem hello_locked_out_lockedOutRun : ∃ w w' lock,
    (helloSystem .default "::1").ReachableVia (WithinWindow "::1") w ∧
      (helloSystem .default "::1").step w (.arrive 5 (demoHello "x") nanosPerSec) = some w' ∧
      w'.hellos 5 = .ended (.error (.error "rate_limited" (LockoutActive.display lock))) := by
  have hrun : (((helloSystem .default "::1").restrict (inWindow "::1")).runFrom demoHellos
      lockedOutRun).any (fun w => decide (w.failed = 5) && (decide (w.attempts.clock ≤ nanosPerSec)
        && ((w.attempts.failures demoAttemptKey).head?.all (fun f => decide (f.time = 0)) &&
          (w.hellos 5).isIdle))) = true := by
    decide +kernel
  obtain ⟨w, hw, hafter⟩ := (Option.any_eq_true _ _).mp hrun
  obtain ⟨hfailed, hafter⟩ := Bool.and_eq_true_iff.mp hafter
  obtain ⟨hclock, hafter⟩ := Bool.and_eq_true_iff.mp hafter
  obtain ⟨htime, hidle⟩ := Bool.and_eq_true_iff.mp hafter
  have hfive : w.failed = 5 := of_decide_eq_true hfailed
  have hinit : ((helloSystem .default "::1").restrict (inWindow "::1")).Reachable demoHellos :=
    .init demoHellos_init
  have hreach := System.reachableVia_of_restrict (withinWindow_of_inWindow "::1")
    (System.reachable_of_runFrom hinit hw)
  obtain ⟨hlocked, -⟩ := hello_locked_out .default "::1" w hreach (by rw [hfive]; decide)
  obtain ⟨f, older, d, hfailures, -, hlonger, hrefused⟩ := hlocked (by rw [hfive]; decide)
  rw [hfive] at hlonger
  have htwo : nanosPerSec < d := Nat.lt_of_lt_of_le (by decide) hlonger
  change ((w.attempts.failures (AuthAttemptTracker.keyIp "::1")).head?.all _) = true at htime
  rw [hfailures] at htime
  have hzero : f.time = 0 := of_decide_eq_true htime
  obtain ⟨w', lock, hstep, hover⟩ := hrefused 5 (demoHello "x") .viewer ⟨"x"⟩ nanosPerSec
    (HelloPhase.eq_idle hidle) rfl (of_decide_eq_true hclock) (by rw [hzero, Nat.zero_add]; exact htwo)
  exact ⟨w, w', lock, hreach, hstep, hover⟩

/-- **A hello is let in after enough failures**: two seconds after the fifth failure the lockout is
over; and a viewer without a token clears the count, so that five failures lock nobody out. -/
theorem hello_let_in :
    ¬(∀ w, (helloSystem .default "::1").ReachableVia (WithinWindow "::1") w →
      AuthAttemptConfig.default.maxFailuresBeforeLockout ≤ w.sinceToken →
        ∀ conn frame role auth now w', w.hellos conn = .idle →
          helloFrame frame = .ok (role, auth) → WithinWindow "::1" w (.arrive conn frame now) →
            (helloSystem .default "::1").step w (.arrive conn frame now) = some w' →
              ∃ lock, w'.hellos conn = .ended (.error (.error "rate_limited" lock))) ∧
    ∃ w, (helloSystem .default "::1").ReachableVia (WithinWindow "::1") w ∧
      AuthAttemptConfig.default.maxFailuresBeforeLockout ≤ w.sinceToken ∧
        (w.attempts.tracker.check demoAttemptKey 0).1 = .ok () := by
  have hinit : ((helloSystem .default "::1").restrict (inWindow "::1")).Reachable demoHellos :=
    .init demoHellos_init
  constructor
  · intro hclaim
    have hrun : (((helloSystem .default "::1").restrict (inWindow "::1")).runFrom demoHellos
        lockedOutRun).any (fun w => decide (5 ≤ w.sinceToken) && ((w.hellos 5).isIdle &&
          (inWindow "::1" w (.arrive 5 (demoHello "x") (2 * nanosPerSec)) &&
            ((helloSystem .default "::1").step w (.arrive 5 (demoHello "x") (2 * nanosPerSec))).any
              fun w' => (w'.hellos 5).isAuthenticating))) = true := by
      decide +kernel
    obtain ⟨w, hw, hafter⟩ := (Option.any_eq_true _ _).mp hrun
    obtain ⟨hfailed, hafter⟩ := Bool.and_eq_true_iff.mp hafter
    obtain ⟨hidle, hafter⟩ := Bool.and_eq_true_iff.mp hafter
    obtain ⟨hwithin, hafter⟩ := Bool.and_eq_true_iff.mp hafter
    obtain ⟨w', hstep, hpassed⟩ := (Option.any_eq_true _ _).mp hafter
    have hreach := System.reachableVia_of_restrict (withinWindow_of_inWindow "::1")
      (System.reachable_of_runFrom hinit hw)
    obtain ⟨lock, hover⟩ := hclaim w hreach (of_decide_eq_true hfailed) 5 (demoHello "x") .viewer
      ⟨"x"⟩ _ w' (HelloPhase.eq_idle hidle) rfl (withinWindow_of_inWindow _ _ _ hwithin) hstep
    rw [hover] at hpassed
    cases hpassed
  · have hrun : (((helloSystem .default "::1").restrict (inWindow "::1")).runFrom demoHellos
        anonymousRun).any (fun w => decide (5 ≤ w.sinceToken) &&
          (w.attempts.tracker.check demoAttemptKey 0).1.isOk) = true := by
      decide +kernel
    obtain ⟨w, hw, hafter⟩ := (Option.any_eq_true _ _).mp hrun
    obtain ⟨hfailed, hok⟩ := Bool.and_eq_true_iff.mp hafter
    refine ⟨w, System.reachableVia_of_restrict (withinWindow_of_inWindow "::1")
      (System.reachable_of_runFrom hinit hw), of_decide_eq_true hfailed, ?_⟩
    rcases hcheck : (w.attempts.tracker.check demoAttemptKey 0).1 with lock | _
    · rw [hcheck] at hok
      cases hok
    · rfl

end RemoteLink.Server
