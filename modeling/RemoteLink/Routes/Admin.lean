import RemoteLink.Routes.Refresh
import RemoteLink.Server.OtpConsumeOnce
import RemoteLink.Server.SessionAtomicity
import RemoteLink.Server.SessionNames

set_option autoImplicit false

/-!
# The operator routes

The operator ends a session by its id. A viewer chooses the id when it asks for the session, and the
route accepts any id that is not empty; the operator's request is trimmed and bounded before the
session is looked up. Audit records are left out.

## Main definitions

* `extractAdminToken`, `authorizeAdmin` — who the operator is.
* `forceDisconnect` — the handler.
* `Authorized` — a request of the operator that is let through.
* `Disconnects` — a request that ends one session and leaves the others alone.

## Main results

* `authorizeAdmin_ok_iff` — when the operator is let through.
* `forceDisconnect_step` — the handler takes a step of the route's system, or none.
* `operator_reaches_iff` — which sessions the operator can end.
-/

namespace RemoteLink.Routes

open RemoteLink.Library RemoteLink.Server
open RemoteLink.Platform (Instant)

/-! ## The operator's token -/

/-- The two headers that carry a token; `none` where a header is missing or not readable as text. -/
structure AdminHeaders where
  xAdminToken : Option String
  authorization : Option String
  deriving Repr, DecidableEq

/-- A text behind a label. -/
def stripLabel (label text : String) : Option String :=
  if Text.startsWith label.toList text.toList then
    some (String.ofList (text.toList.drop label.toList.length))
  else none

/-- A text that is not empty when it is trimmed. -/
def trimmed (text : String) : Option String :=
  some (Text.trim text) |>.filter fun t => !t.isEmpty

/-- The token of a request: the header of its own, or else the bearer token. -/
def extractAdminToken (headers : AdminHeaders) : Option String :=
  (headers.xAdminToken.bind trimmed).or <| headers.authorization.bind fun auth =>
    ((stripLabel "Bearer " auth).or (stripLabel "bearer " auth)).bind trimmed

/-- Compare byte by byte, without an early end for texts of one length. -/
def subtleEq (a b : Bytes) : Bool :=
  decide (a.length = b.length) &&
    decide ((a.zip b).foldl (fun diff xy => diff ||| (xy.1 ^^^ xy.2)) 0 = 0)

/-- The differences add up to nothing when there is none. -/
theorem foldl_diff_eq_zero {pairs : List (UInt8 × UInt8)} {diff : UInt8} :
    pairs.foldl (fun diff xy => diff ||| (xy.1 ^^^ xy.2)) diff = 0 ↔
      diff = 0 ∧ ∀ xy ∈ pairs, xy.1 = xy.2 := by
  induction pairs generalizing diff with
  | nil => simp
  | cons xy pairs ih =>
    rw [List.foldl_cons, ih, UInt8.or_eq_zero_iff, UInt8.xor_eq_zero_iff, List.forall_mem_cons,
      and_assoc]

/-- **The comparison is equality.** -/
theorem subtleEq_iff {a b : Bytes} : subtleEq a b = true ↔ a = b := by
  rw [subtleEq, Bool.and_eq_true, decide_eq_true_eq, decide_eq_true_eq, foldl_diff_eq_zero]
  constructor
  · rintro ⟨hlen, -, hall⟩
    refine List.ext_getElem hlen fun i hi hj => ?_
    have hpair : (a[i], b[i]) ∈ a.zip b := by
      refine List.mem_iff_getElem.mpr ⟨i, ?_, List.getElem_zip⟩
      rw [List.length_zip]
      omega
    exact hall _ hpair
  · rintro rfl
    refine ⟨rfl, rfl, fun xy hxy => ?_⟩
    obtain ⟨i, hi, heq⟩ := List.mem_iff_getElem.mp hxy
    rw [List.getElem_zip] at heq
    rw [← heq]

/-! ## The handler -/

/-- What the operator's routes use of a server. -/
structure AdminState (T : Type) where
  limiter : RateLimiter T
  attempts : AuthAttemptTracker
  adminToken : Option String
  registry : RegistryInner

/-- A token that the server is configured with; a short one disables the routes. -/
def adminTokenMinLen : Nat := 16

/-- Configure the token. -/
def withAdminToken {T : Type} (state : AdminState T) (token : String) : AdminState T :=
  { state with adminToken := if token.utf8ByteSize ≥ adminTokenMinLen then some token else none }

/-- A request to end a session: the decoded segment of its path, its headers and its address. -/
structure AdminRequest where
  sessionId : String
  headers : AdminHeaders
  ip : String
  deriving Repr, DecidableEq

/-- The clock readings of the handler: at the budget, at the lockout, at a failure, and at the
registry. -/
structure AdminTimes where
  budget : Instant
  lockout : Instant
  failure : Instant
  registry : Time

/-- The budget of an operator's address. -/
def adminBudget (ip : String) : String := "admin:" ++ ip

/-- The lockout of an operator's address. -/
def adminLockout (ip : String) : String := AuthAttemptTracker.keyIp ("admin:" ++ ip)

/-- The response to a request that ended a session. -/
structure ForceDisconnectResponse where
  sessionId : String
  status : String
  reason : String
  deriving Repr, DecidableEq

section

variable {T : Type}

/-- Count a failed authentication. -/
def recordAdminAuthFailure (times : AdminTimes) (ip : String) (state : AdminState T) :
    AdminState T :=
  { state with
    attempts := (state.attempts.recordFailure (adminLockout ip) times.failure).2 }

/-- Check the token of a request. -/
def checkToken (times : AdminTimes) (req : AdminRequest) (state : AdminState T) :
    Except AppError Unit × AdminState T :=
  let refused : Except AppError Unit × AdminState T :=
    (.error .unauthorized, recordAdminAuthFailure times req.ip state)
  match state.adminToken with
  | none => refused
  | some expected =>
    if expected.isEmpty then refused
    else match extractAdminToken req.headers with
      | some got =>
        if subtleEq (utf8 got) (utf8 expected) then
          (.ok (), { state with attempts := state.attempts.recordSuccess (adminLockout req.ip) })
        else refused
      | none => refused

/-- Let the operator through. -/
def authorizeAdmin (times : AdminTimes) (req : AdminRequest) (state : AdminState T) :
    Except AppError Unit × AdminState T :=
  match state.attempts.check (adminLockout req.ip) times.lockout with
  | (.error lock, attempts) =>
    (.error (.ofWait lock.display lock.retryAfter), { state with attempts })
  | (.ok (), attempts) => checkToken times req { state with attempts }

/-- End the session of a request that is let through. -/
def disconnectSession (now : Time) (sessionId : String) (state : AdminState T) :
    Except AppError ForceDisconnectResponse × AdminState T :=
  let sid := Text.trim sessionId
  if sid.isEmpty then (.error (.badRequest "session_id is required"), state)
  else if sid.utf8ByteSize > 128 then
    (.error (.badRequest "session_id must be at most 128 characters"), state)
  else
    match state.registry.forceDisconnect sid "security" now with
    | (true, registry) => (.ok ⟨sid, "disconnected", "security"⟩, { state with registry })
    | (false, registry) => (.error .notFound, { state with registry })

/-- End a session at the operator's request. -/
def forceDisconnect (times : AdminTimes) (req : AdminRequest) (state : AdminState T) :
    Except AppError ForceDisconnectResponse × AdminState T :=
  match state.limiter.check (adminBudget req.ip) times.budget with
  | (.error e, limiter) => (.error (.ofWait e.display e.retryAfter), { state with limiter })
  | (.ok (), limiter) =>
    match authorizeAdmin times req { state with limiter } with
    | (.error e, state) => (.error e, state)
    | (.ok (), state) => disconnectSession times.registry req.sessionId state

end

/-! ## Who is let through -/

/-- A request of the operator: its address has budget left and is not locked out, and it carries the
token that the server is configured with. -/
structure Authorized {T : Type} (times : AdminTimes) (req : AdminRequest) (state : AdminState T) :
    Prop where
  budget : (state.limiter.check (adminBudget req.ip) times.budget).1 = .ok ()
  notLocked : (state.attempts.check (adminLockout req.ip) times.lockout).1 = .ok ()
  token : ∃ token, state.adminToken = some token ∧ token ≠ "" ∧
    extractAdminToken req.headers = some token

section

variable {T : Type} {times : AdminTimes} {req : AdminRequest} {state : AdminState T}

theorem checkToken_ok_iff : (checkToken times req state).1 = .ok () ↔
    ∃ token, state.adminToken = some token ∧ token ≠ "" ∧
      extractAdminToken req.headers = some token := by
  unfold checkToken
  cases hexpected : state.adminToken with
  | none => simp
  | some expected =>
    dsimp only
    split_ifs with hempty
    · have hnothing : expected = "" := String.isEmpty_iff.mp hempty
      simp [hnothing]
    · have hsome : expected ≠ "" := fun h => hempty (String.isEmpty_iff.mpr h)
      cases hgot : extractAdminToken req.headers with
      | none => simp
      | some got =>
        have hsame : subtleEq (utf8 got) (utf8 expected) = true ↔ got = expected :=
          subtleEq_iff.trans ⟨utf8_injective, congrArg utf8⟩
        dsimp only
        split_ifs with hequal
        · obtain rfl := hsame.mp hequal
          exact iff_of_true rfl ⟨got, rfl, hsome, rfl⟩
        · refine iff_of_false (by simp) ?_
          rintro ⟨token, htoken, -, hgiven⟩
          obtain rfl := Option.some.inj htoken
          exact hequal (hsame.mpr (Option.some.inj hgiven))

/-- The operator's routes leave the registry to the last step. -/
theorem authorizeAdmin_registry : (authorizeAdmin times req state).2.registry = state.registry := by
  unfold authorizeAdmin
  cases state.attempts.check (adminLockout req.ip) times.lockout with
  | mk result attempts =>
    cases result with
    | error lock => rfl
    | ok u =>
      simp only [checkToken]
      split
      · rfl
      · split_ifs
        · rfl
        · split
          · split_ifs
            · rfl
            · rfl
          · rfl

/-- **When the operator is let through.** -/
theorem authorizeAdmin_ok_iff : (authorizeAdmin times req state).1 = .ok () ↔
    (state.attempts.check (adminLockout req.ip) times.lockout).1 = .ok () ∧
      ∃ token, state.adminToken = some token ∧ token ≠ "" ∧
        extractAdminToken req.headers = some token := by
  unfold authorizeAdmin
  cases state.attempts.check (adminLockout req.ip) times.lockout with
  | mk result attempts =>
    cases result with
    | error lock => simp
    | ok u => simp [checkToken_ok_iff]

/-- A request that is let through ends its session, if it can. -/
theorem forceDisconnect_of_authorized (h : Authorized times req state) :
    ∃ passed : AdminState T, passed.registry = state.registry ∧
      forceDisconnect times req state = disconnectSession times.registry req.sessionId passed := by
  unfold forceDisconnect
  cases hbudget : state.limiter.check (adminBudget req.ip) times.budget with
  | mk result limiter =>
    obtain rfl : result = .ok () := by rw [← h.budget, hbudget]
    have hok : (authorizeAdmin times req { state with limiter }).1 = .ok () :=
      authorizeAdmin_ok_iff.mpr ⟨h.notLocked, h.token⟩
    have hregistry : (authorizeAdmin times req { state with limiter }).2.registry =
        state.registry := authorizeAdmin_registry
    dsimp only
    cases hauth : authorizeAdmin times req { state with limiter } with
    | mk answer passed =>
      rw [hauth] at hok hregistry
      obtain rfl : answer = .ok () := hok
      exact ⟨passed, hregistry, rfl⟩

/-! ## What a request changes -/

/-- The registry after a request is as before, or as the registry's own method leaves it. -/
theorem disconnectSession_registry (now : Time) (sessionId : String) (state : AdminState T) :
    (disconnectSession now sessionId state).2.registry = state.registry ∨
      (disconnectSession now sessionId state).2.registry =
        (state.registry.forceDisconnect (Text.trim sessionId) "security" now).2 := by
  unfold disconnectSession
  dsimp only
  split_ifs
  · exact Or.inl rfl
  · exact Or.inl rfl
  · refine Or.inr ?_
    cases state.registry.forceDisconnect (Text.trim sessionId) "security" now with
    | mk closed registry =>
      cases closed with
      | true => rfl
      | false => rfl

theorem forceDisconnect_registry (times : AdminTimes) (req : AdminRequest) (state : AdminState T) :
    (forceDisconnect times req state).2.registry = state.registry ∨
    (forceDisconnect times req state).2.registry =
      (state.registry.forceDisconnect (Text.trim req.sessionId) "security" times.registry).2 := by
  unfold forceDisconnect
  cases state.limiter.check (adminBudget req.ip) times.budget with
  | mk result limiter =>
    cases result with
    | error e => exact Or.inl rfl
    | ok u =>
      dsimp only
      have hregistry : (authorizeAdmin times req { state with limiter }).2.registry =
          state.registry := authorizeAdmin_registry
      cases hauth : authorizeAdmin times req { state with limiter } with
      | mk answer passed =>
        rw [hauth] at hregistry
        cases answer with
        | error e => exact Or.inl hregistry
        | ok u =>
          dsimp only
          rw [← show passed.registry = state.registry from hregistry]
          exact disconnectSession_registry times.registry req.sessionId passed

/-- **A request of the operator is a step** of the system behind the WebSocket route, or changes
nothing there. -/
theorem forceDisconnect_step {cfg : ServerConfig} {w : WsWorld} (h : (wsSystem cfg).Reachable w)
    (hregistry : state.registry = w.registry) :
    (wsSystem cfg).Reachable
      { w with registry := (forceDisconnect times req state).2.registry } := by
  obtain hsame | hclosed := forceDisconnect_registry times req state
  · rw [hsame, hregistry]
    exact h
  · rw [hclosed, hregistry]
    have hstep : (wsSystem cfg).step w
        (.forceDisconnect (Text.trim req.sessionId) "security" times.registry) = some { w with
          registry := (w.registry.forceDisconnect (Text.trim req.sessionId) "security"
            times.registry).2 } := rfl
    exact .step h trivial hstep

/-- **A request ends one session**: it is answered with success, the session is gone and its host is
free, and nothing else has changed but for the sessions that had expired. -/
structure Disconnects (times : AdminTimes) (req : AdminRequest) (state : AdminState T)
    (sid : String) : Prop where
  answered : ∃ response, (forceDisconnect times req state).1 = .ok response
  closed : RegistryInner.Untouched (sid :: state.registry.expired times.registry) state.registry
    (forceDisconnect times req state).2.registry

end

section

variable {phase : HashMap ConnId Phase} {g : RegistryInner} {now : Time} {sid : String}
  {s : Session}

/-- A session that has not expired is still there when the others are reaped. -/
theorem lookup_reap_of_live (hs : g.sessions.lookup sid = some s) (hlive : now < s.expiresAt) :
    (g.reapExpired now).2.sessions.lookup sid = some s := by
  rw [RegistryInner.sessions_reap, if_neg, hs]
  rintro hexpired
  obtain ⟨s', hs', -, hle⟩ := RegistryInner.mem_expired.mp hexpired
  rw [hs] at hs'
  obtain rfl := Option.some.inj hs'
  exact absurd hlive (Int.not_lt.mpr hle)

/-- A session that has not expired stays when another one is ended. -/
theorem lookup_force_of_ne {other : String} (hs : g.sessions.lookup sid = some s)
    (hlive : now < s.expiresAt) (hne : sid ≠ other) (reason : String) :
    (g.forceDisconnect other reason now).2.sessions.lookup sid = some s := by
  have hfound := lookup_reap_of_live hs hlive
  obtain heq | ⟨s', -, -, heq⟩ | ⟨s', -, -, heq⟩ := g.force_cases now other reason
  · rw [heq]
    exact hfound
  · rw [heq]
    exact (AList.lookup_erase_ne hne).trans hfound
  · rw [heq]
    dsimp only
    rw [RegistryInner.sessions_close, if_neg hne, hfound]

/-- A session that has not expired is closed. -/
theorem force_of_live (h : Coherent phase g) (hs : g.sessions.lookup sid = some s)
    (hlive : now < s.expiresAt) (reason : String) :
    g.forceDisconnect sid reason now =
      (true, (g.reapExpired now).2.closeSessionLocked sid reason) := by
  have hstate : s.state ≠ .closed := h.live _ s hs
  unfold RegistryInner.forceDisconnect
  simp only [lookup_reap_of_live hs hlive, if_neg hstate]

/-- **Closing a session takes away that session and the lock of its host.** -/
theorem untouched_close (h : Coherent phase g) (now : Time) (sid reason : String) :
    RegistryInner.Untouched (sid :: g.expired now) g
      ((g.reapExpired now).2.closeSessionLocked sid reason) := by
  have hreaped := RegistryInner.Untouched.of_reap h now
  have hafter := (h.reap now).close sid reason
  refine ⟨fun k => ?_, fun host => Option.ext fun k => ?_⟩
  · rw [RegistryInner.sessions_close, hreaped.sessions]
    by_cases hk : k = sid
    · simp [hk]
    · simp [hk]
  · rw [Option.filter_eq_some_iff, hafter.busy host k, h.busy host k]
    constructor
    · rintro ⟨x, hx, hhost⟩
      rw [RegistryInner.sessions_close] at hx
      split_ifs at hx with hk
      obtain ⟨hx, hexpired⟩ := RegistryInner.lookup_of_reap hx
      exact ⟨⟨x, hx, hhost⟩, by simpa [hk] using hexpired⟩
    · rintro ⟨⟨x, hx, hhost⟩, hremoved⟩
      obtain ⟨hk, hexpired⟩ : k ≠ sid ∧ k ∉ g.expired now := by simpa using hremoved
      refine ⟨x, ?_, hhost⟩
      rw [RegistryInner.sessions_close, if_neg hk, RegistryInner.sessions_reap, if_neg hexpired, hx]

end

/-! ## Which sessions the operator can end -/

/-- **Which sessions the operator can end.** In every state behind the WebSocket route a request
that names a live session ends that session and no other exactly when the id of the session has no
white space at its ends and at most 128 bytes. -/
theorem operator_reaches_iff {T : Type} {cfg : ServerConfig} {w : WsWorld}
    (hreach : (wsSystem cfg).Reachable w) {state : AdminState T}
    (hregistry : state.registry = w.registry) {times : AdminTimes} {req : AdminRequest}
    (hauth : Authorized times req state) {s : Session}
    (hlive : w.registry.sessions.lookup req.sessionId = some s)
    (hunexpired : times.registry < s.expiresAt) :
    Disconnects times req state req.sessionId ↔
      Text.trim req.sessionId = req.sessionId ∧ req.sessionId.utf8ByteSize ≤ 128 := by
  obtain ⟨phase, hcoherent, -⟩ := (wsSystem_wired hreach).coherent
  have hnamed : req.sessionId ≠ "" :=
    (wsSystem_named hreach).sessions _ (Option.isSome_iff_exists.mpr ⟨s, hlive⟩)
  rw [← hregistry] at hcoherent hlive
  obtain ⟨passed, hpassed, hrun⟩ := forceDisconnect_of_authorized hauth
  constructor
  · rintro ⟨⟨response, hok⟩, hclosed⟩
    have hgone : (forceDisconnect times req state).2.registry.sessions.lookup req.sessionId =
        none := by
      rw [hclosed.sessions, if_pos List.mem_cons_self]
    rw [hrun] at hok hgone
    unfold disconnectSession at hok hgone
    dsimp only at hok hgone
    split_ifs at hok hgone with hempty hlong
    have htrim : Text.trim req.sessionId = req.sessionId := by
      by_contra hne
      -- the request ends another session, if any, and this one stays
      have hkept := lookup_force_of_ne hlive hunexpired (Ne.symm hne) "security"
      rw [← hpassed] at hkept
      cases hforce : passed.registry.forceDisconnect (Text.trim req.sessionId) "security"
          times.registry with
      | mk closed registry =>
        rw [hforce] at hkept hgone
        cases closed with
        | true => exact Option.some_ne_none s (hkept.symm.trans hgone)
        | false => exact Option.some_ne_none s (hkept.symm.trans hgone)
    rw [htrim] at hlong
    exact ⟨htrim, Nat.not_lt.mp hlong⟩
  · rintro ⟨htrim, hshort⟩
    have hempty : ¬req.sessionId.isEmpty = true := fun h => hnamed (String.isEmpty_iff.mp h)
    have hforce := force_of_live hcoherent hlive hunexpired "security"
    have hdone : disconnectSession times.registry req.sessionId passed =
        (.ok ⟨req.sessionId, "disconnected", "security"⟩, { passed with
          registry := (state.registry.reapExpired times.registry).2.closeSessionLocked
            req.sessionId "security" }) := by
      unfold disconnectSession
      simp only [htrim, if_neg hempty, if_neg (Nat.not_lt.mpr hshort), hpassed, hforce]
    refine ⟨?_, ?_⟩
    · rw [hrun, hdone]
      exact ⟨_, rfl⟩
    · rw [hrun, hdone]
      exact untouched_close hcoherent times.registry req.sessionId "security"

/-! ### Concrete requests -/

/-- A token that is long enough. -/
def demoAdminToken : String := "secret-admin-token!"

/-- A server with a registry and this token, before any request of the operator. -/
def demoAdmin (registry : RegistryInner) : AdminState Nat :=
  withAdminToken ⟨.new demoLimits, .new .default, none, registry⟩ demoAdminToken

/-- A request of the operator with the token, in the second after the epoch. -/
def operatorRequest (sessionId : String) : AdminRequest :=
  ⟨sessionId, ⟨none, some ("Bearer " ++ demoAdminToken)⟩, "203.0.113.9"⟩

def demoTimes : AdminTimes := ⟨0, 0, 0, second⟩

theorem extract_demoAdminToken :
    extractAdminToken ⟨none, some ("Bearer " ++ demoAdminToken)⟩ = some demoAdminToken := by
  decide +kernel

theorem authorized_demo (registry : RegistryInner) (sessionId : String) :
    Authorized demoTimes (operatorRequest sessionId) (demoAdmin registry) where
  budget := RateLimiter.check_new (by rfl) (by rfl)
  notLocked := by rfl
  token := ⟨demoAdminToken, by rfl, by decide, extract_demoAdminToken⟩

/-- Whether a session of this id is stored and has not expired at the request. -/
def isLive (w : WsWorld) (sid : String) : Bool :=
  (w.registry.sessions.lookup sid).any fun s => decide (demoTimes.registry < s.expiresAt)

/-- A viewer asks for a session with a plain id, which the operator can end. -/
theorem operator_reaches_plain : ∃ w, (wsSystem demoConfig).Reachable w ∧
    Disconnects demoTimes (operatorRequest "a") (demoAdmin w.registry) "a" := by
  have htest : ((wsSystem demoConfig).runFrom .empty (demoPrologue ++ demoIntent 2 "a")).any
      (fun w => isLive w "a") = true := by decide +kernel
  obtain ⟨w, hw, hlive⟩ := (Option.any_eq_true _ _).mp htest
  obtain ⟨s, hs, hunexpired⟩ := (Option.any_eq_true _ _).mp hlive
  have hreach : (wsSystem demoConfig).Reachable w := System.reachable_of_runFrom (.init rfl) hw
  exact ⟨w, hreach, (operator_reaches_iff hreach rfl (authorized_demo w.registry "a") hs
    (of_decide_eq_true hunexpired)).mpr ⟨by decide +kernel, by decide +kernel⟩⟩

/-- **The operator cannot end a session whose id begins with a blank**: no session is found. -/
theorem operator_misses_blank : ¬∀ (w : WsWorld) (state : AdminState Nat) (times : AdminTimes)
    (req : AdminRequest) (s : Session), (wsSystem demoConfig).Reachable w →
    state.registry = w.registry → Authorized times req state →
    w.registry.sessions.lookup req.sessionId = some s → times.registry < s.expiresAt →
    Disconnects times req state req.sessionId := by
  intro h
  have htest : ((wsSystem demoConfig).runFrom .empty (demoPrologue ++ demoIntent 2 " a")).any
      (fun w => isLive w " a" &&
        !(forceDisconnect demoTimes (operatorRequest " a") (demoAdmin w.registry)).1.isOk) =
      true := by decide +kernel
  obtain ⟨w, hw, htests⟩ := (Option.any_eq_true _ _).mp htest
  obtain ⟨hlive, hrefused⟩ := Bool.and_eq_true_iff.mp htests
  obtain ⟨s, hs, hunexpired⟩ := (Option.any_eq_true _ _).mp hlive
  obtain ⟨response, hok⟩ := (h w (demoAdmin w.registry) demoTimes (operatorRequest " a") s
    (System.reachable_of_runFrom (.init rfl) hw) rfl (authorized_demo w.registry " a") hs
    (of_decide_eq_true hunexpired)).answered
  rw [hok] at hrefused
  cases hrefused

end RemoteLink.Routes
