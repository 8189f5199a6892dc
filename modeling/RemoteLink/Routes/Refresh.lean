import RemoteLink.Auth.DeviceId
import RemoteLink.Routes.Devices
import RemoteLink.Server.RateLimit

set_option autoImplicit false

/-!
# Refresh requests under load

A token refresh is charged to two budgets, one of the client's address and one of the device that it
names, and then checked for three lockouts before its token is looked up. Requests of many clients
interleave between these steps.

## Main definitions

* `ipBudget`, `deviceBudget`, `lockoutKeys`, `failureKeys` — what a request is charged to.
* `RefreshPhase`, `RefreshWorld`, `refreshSystem` — the steps of the handler, and all requests.
* `OthersSendGarbage` — requests from other addresses carry tokens that nobody was given.

## Main results

* `refresh_not_locked_out` — then the owner is refused only when the budget of its device is
  exhausted, and garbage is charged to its sender and to that budget.
* `refresh_starved` — sixty requests from elsewhere exhaust it.
-/

namespace RemoteLink.Routes

open RemoteLink.Library RemoteLink.Repo RemoteLink.Auth
open RemoteLink.Platform (Instant)
open RemoteLink.Server (Time second nanosPerSec Duration RateLimitConfig RateLimitExceeded
  RateLimiter AuthAttemptConfig AuthAttemptTracker LockoutActive)

/-! ## The handler -/

/-- A refresh request whose path was read. -/
structure RefreshRequest where
  publicId : DevicePublicId
  ip : String
  refreshToken : String

/-- The budget of a client's address. -/
def ipBudget (ip : String) : String := "refresh:ip:" ++ ip

/-- The budget of a device, which everybody shares who names it. -/
def deviceBudget (publicId : DevicePublicId) : String := "refresh:device:" ++ publicId.asStr

/-- The lockouts that a request is checked for. -/
def lockoutKeys (req : RefreshRequest) : List String :=
  [AuthAttemptTracker.keyIp req.ip, AuthAttemptTracker.keyDeviceIp req.publicId.asStr req.ip,
    AuthAttemptTracker.keyDevice req.publicId.asStr]

/-- What a failure counts against. -/
def failureKeys (req : RefreshRequest) : AuthFailureScope → List String
  | .ipOnly => [AuthAttemptTracker.keyIp req.ip,
      AuthAttemptTracker.keyDeviceIp req.publicId.asStr req.ip]
  | .credentialBound => [AuthAttemptTracker.keyIp req.ip,
      AuthAttemptTracker.keyDevice req.publicId.asStr,
      AuthAttemptTracker.keyDeviceIp req.publicId.asStr req.ip]

/-- What a success clears. -/
def successKeys (req : RefreshRequest) : List String :=
  [AuthAttemptTracker.keyIp req.ip, AuthAttemptTracker.keyDevice req.publicId.asStr,
    AuthAttemptTracker.keyDeviceIp req.publicId.asStr req.ip]

/-- The refusal with a time to wait. -/
def AppError.ofWait (message : String) (retryAfter : Server.Duration) : AppError :=
  .rateLimited message (max retryAfter.asSecs 1)

/-- Where a refresh request stands. While keys are checked, charged or cleared it holds those that
are left. -/
inductive RefreshPhase where
  | idle
  | limitingIp (req : RefreshRequest)
  | limitingDevice (req : RefreshRequest)
  | checking (req : RefreshRequest) (keys : List String)
  | finding (req : RefreshRequest)
  | rotating (req : RefreshRequest) (device : Device)
  | recording (req : RefreshRequest) (keys : List String)
  | clearing (req : RefreshRequest) (keys : List String) (issued : IssuedTokens)
  | returned (result : Except AppError IssuedTokens)

/-- The limiter, the tracker and the requests. -/
structure RefreshWorld (T : Type) where
  limiter : RateLimiter T
  tracker : AuthAttemptTracker
  requests : Nat → RefreshPhase

/-- A step of a request: it arrives, it uses the limiter or the tracker once, or the repository
answers. -/
inductive RefreshStep where
  | arrive (request : Nat) (rawId ip refreshToken : String)
  | proceed (request : Nat) (now : Instant)
  | found (request : Nat) (answer : Except RepoError (Option (Device × DeviceCredential)))
      (now : Time)
  | rotated (request : Nat) (answer : Except RepoError Unit) (bodies : String × String) (now : Time)

/-- The request that takes a step. -/
def RefreshStep.request : RefreshStep → Nat
  | arrive request _ _ _ | proceed request _ | found request _ _ | rotated request _ _ _ => request

/-- A request arrives. -/
def arrivePhase (rawId ip refreshToken : String) : RefreshPhase :=
  match DevicePublicId.parse rawId with
  | .error e =>
    .returned (.error (.badRequest s!"invalid device id: invalid device public ID: {e}"))
  | .ok publicId => .limitingIp ⟨publicId, ip, refreshToken⟩

/-- What a request does with the credential that was found. -/
def foundPhase (req : RefreshRequest) (now : Time) :
    Except RepoError (Option (Device × DeviceCredential)) → RefreshPhase
  | .error e => .returned (.error (.ofRepo e))
  | .ok none => .recording req (failureKeys req RefreshDenied.unknownRefresh.scope)
  | .ok (some (device, cred)) =>
    match refreshDenied req.publicId.asStr device cred now with
    | some denied => .recording req (failureKeys req denied.scope)
    | none => .rotating req device

/-- What a request does after the rotation. -/
def rotatedPhase (req : RefreshRequest) (issued : IssuedTokens) :
    Except RepoError Unit → RefreshPhase
  | .ok () => .clearing req (successKeys req) issued
  | .error .staleCredential => .recording req (failureKeys req RefreshDenied.staleCredential.scope)
  | .error e => .returned (.error (.ofRepo e))

/-- What a request does after a charge to a budget. -/
def limitPhase (next : RefreshPhase) : Except RateLimitExceeded Unit → RefreshPhase
  | .error e => .returned (.error (.ofWait e.display e.retryAfter))
  | .ok () => next

/-- What a request does after a check for a lockout. -/
def lockoutPhase (next : RefreshPhase) : Except LockoutActive Unit → RefreshPhase
  | .error lock => .returned (.error (.ofWait lock.display lock.retryAfter))
  | .ok () => next

/-- What a request does after the checks for lockouts. -/
def bodyPhase (req : RefreshRequest) : RefreshPhase :=
  if req.refreshToken.isEmpty then .returned (.error (.badRequest "refresh_token is required"))
  else .finding req

namespace RefreshWorld

variable {T : Type} (w : RefreshWorld T) (request : Nat)

/-- A request moves on. -/
def advance (phase : RefreshPhase) : RefreshWorld T :=
  { w with requests := Function.update w.requests request phase }

@[simp] theorem advance_self (phase : RefreshPhase) :
    (w.advance request phase).requests request = phase :=
  Function.update_self _ _ _

theorem advance_other {other : Nat} (h : other ≠ request) (phase : RefreshPhase) :
    (w.advance request phase).requests other = w.requests other :=
  Function.update_of_ne h _ _

/-- Charge a budget. -/
def limit (key : String) (now : Instant) (next : RefreshPhase) : RefreshWorld T :=
  let (result, limiter) := w.limiter.check key now
  { w with limiter := limiter }.advance request (limitPhase next result)

/-- Check for a lockout. -/
def checkLockout (key : String) (now : Instant) (next : RefreshPhase) : RefreshWorld T :=
  let (result, tracker) := w.tracker.check key now
  { w with tracker := tracker }.advance request (lockoutPhase next result)

/-- One step of a request over the limiter and the tracker. -/
def proceed (now : Instant) : Option (RefreshWorld T) :=
  match w.requests request with
  | .limitingIp req => some (w.limit request (ipBudget req.ip) now (.limitingDevice req))
  | .limitingDevice req =>
    some (w.limit request (deviceBudget req.publicId) now (.checking req (lockoutKeys req)))
  | .checking req (key :: keys) => some (w.checkLockout request key now (.checking req keys))
  | .checking req [] => some (w.advance request (bodyPhase req))
  | .recording req (key :: keys) =>
    some ({ w with tracker := (w.tracker.recordFailure key now).2 }.advance request
      (.recording req keys))
  | .recording _ [] => some (w.advance request (.returned (.error .unauthorized)))
  | .clearing req (key :: keys) issued =>
    some ({ w with tracker := w.tracker.recordSuccess key }.advance request
      (.clearing req keys issued))
  | .clearing _ [] issued => some (w.advance request (.returned (.ok issued)))
  | _ => none

end RefreshWorld

/-- All interleavings of refresh requests at a server that has just started. -/
def refreshSystem {T : Type} (limits : RateLimitConfig T) (config : AuthAttemptConfig) :
    System (RefreshWorld T) RefreshStep where
  init w := w = ⟨.new limits, .new config, fun _ => .idle⟩
  step w
    | .arrive request rawId ip refreshToken =>
      match w.requests request with
      | .idle => some (w.advance request (arrivePhase rawId ip refreshToken))
      | _ => none
    | .proceed request now => w.proceed request now
    | .found request answer now =>
      match w.requests request with
      | .finding req => some (w.advance request (foundPhase req now answer))
      | _ => none
    | .rotated request answer bodies now =>
      match w.requests request with
      | .rotating req _ =>
        some (w.advance request (rotatedPhase req (mintTokens bodies now) answer))
      | _ => none

/-- **Others send garbage**: one request is the owner's, the only one from its address, and finds and
rotates the credential of its device; the tokens of all other requests are not found. -/
def OthersSendGarbage {T : Type} (owner : Nat) (ip : String) (w : RefreshWorld T) :
    RefreshStep → Prop
  | .arrive request _ sender _ => sender = ip ↔ request = owner
  | .proceed _ _ => True
  | .found request answer now =>
    if request = owner then ∃ req device cred, w.requests owner = .finding req ∧
      answer = .ok (some (device, cred)) ∧ refreshDenied req.publicId.asStr device cred now = none
    else answer = .ok none
  | .rotated request answer _ _ => request = owner → answer = .ok ()

/-! ## Keys -/

/-- A prefix tells texts apart. -/
theorem ne_of_toList_take {s t : String} (n : Nat) (h : s.toList.take n ≠ t.toList.take n) :
    s ≠ t := by
  rintro rfl
  exact h rfl

/-- The budgets of addresses and those of devices are apart. -/
theorem ipBudget_ne_deviceBudget (ip : String) (publicId : DevicePublicId) :
    ipBudget ip ≠ deviceBudget publicId := by
  refine ne_of_toList_take 9 ?_
  simp [ipBudget, deviceBudget]

theorem ipBudget_injective {ip ip' : String} (h : ipBudget ip = ipBudget ip') : ip = ip' := by
  simpa [ipBudget, String.ext_iff] using h

theorem keyIp_injective {ip ip' : String}
    (h : AuthAttemptTracker.keyIp ip = AuthAttemptTracker.keyIp ip') : ip = ip' := by
  simpa [AuthAttemptTracker.keyIp, String.ext_iff] using h

theorem keyIp_ne_keyDevice (ip publicId : String) :
    AuthAttemptTracker.keyIp ip ≠ AuthAttemptTracker.keyDevice publicId := by
  refine ne_of_toList_take 1 ?_
  simp [AuthAttemptTracker.keyIp, AuthAttemptTracker.keyDevice]

theorem keyIp_ne_keyDeviceIp (ip publicId ip' : String) :
    AuthAttemptTracker.keyIp ip ≠ AuthAttemptTracker.keyDeviceIp publicId ip' := by
  refine ne_of_toList_take 1 ?_
  simp [AuthAttemptTracker.keyIp, AuthAttemptTracker.keyDeviceIp]

theorem keyDevice_ne_keyDeviceIp (publicId publicId' ip : String) :
    AuthAttemptTracker.keyDevice publicId ≠ AuthAttemptTracker.keyDeviceIp publicId' ip := by
  refine ne_of_toList_take 7 ?_
  simp [AuthAttemptTracker.keyDevice, AuthAttemptTracker.keyDeviceIp]

/-- Public ids have one length, so the address can be read from the key. -/
theorem keyDeviceIp_injective {publicId publicId' : DevicePublicId} {ip ip' : String}
    (h : AuthAttemptTracker.keyDeviceIp publicId.asStr ip =
      AuthAttemptTracker.keyDeviceIp publicId'.asStr ip') : ip = ip' := by
  have hchars := congrArg String.toList h
  simp only [AuthAttemptTracker.keyDeviceIp, DevicePublicId.asStr, String.toList_append,
    String.toList_ofList, List.append_assoc] at hchars
  have hrest := List.append_cancel_left hchars
  obtain ⟨-, hip⟩ := List.append_inj hrest (publicId.length_eq.trans publicId'.length_eq.symm)
  exact String.toList_inj.mp (List.append_cancel_left hip)

/-- The keys that decide whether requests from an address are locked out: those with the address, and
those of the devices. -/
def Reserved (ip key : String) : Prop :=
  key = AuthAttemptTracker.keyIp ip ∨
    (∃ publicId : DevicePublicId, key = AuthAttemptTracker.keyDeviceIp publicId.asStr ip) ∨
      ∃ publicId : DevicePublicId, key = AuthAttemptTracker.keyDevice publicId.asStr

/-- The lockouts that a request is checked for are reserved for its address. -/
theorem reserved_of_mem_lockoutKeys {req : RefreshRequest} {key : String}
    (h : key ∈ lockoutKeys req) : Reserved req.ip key := by
  simp only [lockoutKeys, List.mem_cons, List.not_mem_nil, or_false] at h
  rcases h with rfl | rfl | rfl
  · exact .inl rfl
  · exact .inr (.inl ⟨_, rfl⟩)
  · exact .inr (.inr ⟨_, rfl⟩)

/-- **Garbage counts against no key that is reserved for another address.** -/
theorem not_reserved_of_mem_failureKeys {req : RefreshRequest} {ip key : String}
    (hip : req.ip ≠ ip) (h : key ∈ failureKeys req .ipOnly) : ¬Reserved ip key := by
  simp only [failureKeys, List.mem_cons, List.not_mem_nil, or_false] at h
  rcases h with rfl | rfl
  · rintro (hkey | ⟨publicId, hkey⟩ | ⟨publicId, hkey⟩)
    · exact hip (keyIp_injective hkey)
    · exact keyIp_ne_keyDeviceIp _ _ _ hkey
    · exact keyIp_ne_keyDevice _ _ hkey
  · rintro (hkey | ⟨publicId, hkey⟩ | ⟨publicId, hkey⟩)
    · exact keyIp_ne_keyDeviceIp _ _ _ hkey.symm
    · exact hip (keyDeviceIp_injective hkey)
    · exact keyDevice_ne_keyDeviceIp _ _ _ hkey.symm

/-! ## Requests keep apart -/

/-- Where a request may stand while others send garbage, whether it is the owner's (`own`) or not. -/
def PhaseOk (own : Prop) (ip : String) : RefreshPhase → Prop
  | .idle | .returned _ => True
  | .limitingIp req | .limitingDevice req | .finding req => req.ip = ip ↔ own
  | .checking req keys => (req.ip = ip ↔ own) ∧ keys ⊆ lockoutKeys req
  | .recording req keys => ¬own ∧ req.ip ≠ ip ∧ keys ⊆ failureKeys req .ipOnly
  | .rotating _ _ | .clearing _ _ _ => own

/-- Whether a request has not been charged to a budget yet. -/
def RefreshPhase.early : RefreshPhase → Bool
  | .idle | .limitingIp _ => true
  | _ => false

theorem PhaseOk.limitPhase {own : Prop} {ip : String} {next : RefreshPhase}
    (h : PhaseOk own ip next) (result : Except RateLimitExceeded Unit) :
    PhaseOk own ip (limitPhase next result) := by
  rcases result with e | _
  · trivial
  · exact h

theorem PhaseOk.lockoutPhase {own : Prop} {ip : String} {next : RefreshPhase}
    (h : PhaseOk own ip next) (result : Except LockoutActive Unit) :
    PhaseOk own ip (lockoutPhase next result) := by
  rcases result with lock | _
  · trivial
  · exact h

theorem PhaseOk.bodyPhase {own : Prop} {ip : String} {req : RefreshRequest}
    (h : req.ip = ip ↔ own) : PhaseOk own ip (bodyPhase req) := by
  unfold RemoteLink.Routes.bodyPhase
  split_ifs
  · trivial
  · exact h

theorem early_limitPhase {next : RefreshPhase} (h : next.early = false)
    (result : Except RateLimitExceeded Unit) : (limitPhase next result).early = false := by
  rcases result with e | _
  · rfl
  · exact h

theorem early_lockoutPhase {next : RefreshPhase} (h : next.early = false)
    (result : Except LockoutActive Unit) : (lockoutPhase next result).early = false := by
  rcases result with lock | _
  · rfl
  · exact h

theorem early_bodyPhase (req : RefreshRequest) : (bodyPhase req).early = false := by
  unfold bodyPhase
  split_ifs
  · rfl
  · rfl

/-- While others send garbage, no reserved key has failures, the owner's address has its full budget
until the owner's request is charged to it, and every request stands where it may. -/
structure RefreshOk {T : Type} (limits : RateLimitConfig T) (owner : Nat) (ip : String)
    (w : RefreshWorld T) : Prop where
  limits_eq : w.limiter.config = limits
  reserved : ∀ key, Reserved ip key → w.tracker.records.lookup key = none
  fresh : (w.requests owner).early = true → w.limiter.buckets.lookup (ipBudget ip) = none
  phases : ∀ request, PhaseOk (request = owner) ip (w.requests request)

/-- A key without failures is not locked out, and stays so. -/
theorem check_of_none {s : AuthAttemptTracker} {key : String} (now : Instant)
    (h : s.records.lookup key = none) : s.check key now = (.ok (), s) := by
  unfold AuthAttemptTracker.check
  rw [h]

namespace RefreshOk

variable {T : Type} {limits : RateLimitConfig T} {config : AuthAttemptConfig} {owner request : Nat}
  {ip key : String} {w w' : RefreshWorld T} {now : Instant}

/-- The server has just started. -/
theorem init (h : (refreshSystem limits config).init w) : RefreshOk limits owner ip w := by
  obtain rfl : w = ⟨.new limits, .new config, fun _ => .idle⟩ := h
  refine ⟨rfl, fun key _ => ?_, fun _ => ?_, fun _ => trivial⟩
  · exact AList.lookup_empty key
  · exact AList.lookup_empty _

/-- A request moves on without the limiter. -/
theorem move (h : RefreshOk limits owner ip w) {phase : RefreshPhase}
    {tracker : AuthAttemptTracker}
    (hreserved : ∀ key, Reserved ip key → tracker.records.lookup key = none)
    (hphase : PhaseOk (request = owner) ip phase)
    (hfresh : request = owner → phase.early = true →
      w.limiter.buckets.lookup (ipBudget ip) = none) :
    RefreshOk limits owner ip ({ w with tracker := tracker }.advance request phase) := by
  refine ⟨h.limits_eq, hreserved, fun hown => ?_, fun other => ?_⟩
  · by_cases hrequest : owner = request
    · subst hrequest
      rw [RefreshWorld.advance_self] at hown
      exact hfresh rfl hown
    · rw [RefreshWorld.advance_other _ _ hrequest] at hown
      exact h.fresh hown
  · by_cases hrequest : other = request
    · subst hrequest
      rw [RefreshWorld.advance_self]
      exact hphase
    · rw [RefreshWorld.advance_other _ _ hrequest]
      exact h.phases other

/-- **A charge to a budget** that is not the one of the owner's address, or that comes from the
owner, keeps requests apart. -/
theorem limit (h : RefreshOk limits owner ip w) {next : RefreshPhase}
    (hkey : request = owner ∨ ipBudget ip ≠ key)
    (hphase : PhaseOk (request = owner) ip next) (hnext : next.early = false) :
    RefreshOk limits owner ip (w.limit request key now next) := by
  unfold RefreshWorld.limit
  dsimp only
  refine ⟨RateLimiter.check_config.trans h.limits_eq, h.reserved, fun hown => ?_, fun other => ?_⟩
  · by_cases hrequest : owner = request
    · subst hrequest
      rw [RefreshWorld.advance_self, early_limitPhase hnext] at hown
      cases hown
    · rw [RefreshWorld.advance_other _ _ hrequest] at hown
      show (w.limiter.check key now).2.buckets.lookup (ipBudget ip) = none
      rw [RateLimiter.check_other (hkey.resolve_left (Ne.symm hrequest))]
      exact h.fresh hown
  · by_cases hrequest : other = request
    · subst hrequest
      rw [RefreshWorld.advance_self]
      exact hphase.limitPhase _
    · rw [RefreshWorld.advance_other _ _ hrequest]
      exact h.phases other

/-- A check for a lockout leaves the reserved keys without failures. -/
theorem reserved_check (h : RefreshOk limits owner ip w) {other : String}
    (hother : Reserved ip other) :
    (w.tracker.check key now).2.records.lookup other = none := by
  by_cases hkey : other = key
  · subst hkey
    rw [check_of_none now (h.reserved other hother)]
    exact h.reserved other hother
  · rw [AuthAttemptTracker.check_other hkey]
    exact h.reserved other hother

/-- **One step over the limiter and the tracker keeps requests apart.** -/
theorem proceed (h : RefreshOk limits owner ip w) (hstep : w.proceed request now = some w') :
    RefreshOk limits owner ip w' := by
  have hphase := h.phases request
  unfold RefreshWorld.proceed at hstep
  split at hstep
  · rename_i req heq
    rw [heq] at hphase
    obtain rfl := Option.some.inj hstep
    refine h.limit ?_ hphase rfl
    by_cases hown : request = owner
    · exact .inl hown
    · exact .inr fun hkey => hown (hphase.mp (ipBudget_injective hkey).symm)
  · rename_i req heq
    rw [heq] at hphase
    obtain rfl := Option.some.inj hstep
    exact h.limit (.inr (ipBudget_ne_deviceBudget _ _)) ⟨hphase, List.Subset.refl _⟩ rfl
  · rename_i req key keys heq
    rw [heq] at hphase
    obtain rfl := Option.some.inj hstep
    unfold RefreshWorld.checkLockout
    dsimp only
    have hnext : PhaseOk (request = owner) ip (.checking req keys) :=
      ⟨hphase.1, List.Subset.trans (List.subset_cons_self _ _) hphase.2⟩
    refine h.move (fun _ => h.reserved_check) (hnext.lockoutPhase _) fun _ hearly => ?_
    rw [early_lockoutPhase rfl] at hearly
    cases hearly
  · rename_i req heq
    rw [heq] at hphase
    obtain rfl := Option.some.inj hstep
    refine h.move h.reserved (.bodyPhase hphase.1) fun _ hearly => ?_
    rw [early_bodyPhase] at hearly
    cases hearly
  · rename_i req key keys heq
    rw [heq] at hphase
    obtain rfl := Option.some.inj hstep
    obtain ⟨hown, hip, hkeys⟩ := hphase
    refine h.move (fun other hother => ?_)
      ⟨hown, hip, List.Subset.trans (List.subset_cons_self _ _) hkeys⟩ fun _ hearly => nomatch hearly
    have hkey : other ≠ key := by
      rintro rfl
      exact not_reserved_of_mem_failureKeys hip (hkeys List.mem_cons_self) hother
    rw [AuthAttemptTracker.recordFailure_other hkey]
    exact h.reserved other hother
  · obtain rfl := Option.some.inj hstep
    exact h.move h.reserved trivial fun _ hearly => nomatch hearly
  · rename_i req key keys issued heq
    rw [heq] at hphase
    obtain rfl := Option.some.inj hstep
    refine h.move (fun other hother => ?_) hphase fun _ hearly => nomatch hearly
    show (w.tracker.records.erase key).lookup other = none
    by_cases hkey : other = key
    · rw [hkey]
      exact w.tracker.records.lookup_erase key
    · rw [AList.lookup_erase_ne hkey]
      exact h.reserved other hother
  · obtain rfl := Option.some.inj hstep
    exact h.move h.reserved trivial fun _ hearly => nomatch hearly
  · cases hstep

/-- **The step lemma**: every step keeps requests apart. -/
theorem step (h : RefreshOk limits owner ip w) {e : RefreshStep}
    (hgarbage : OthersSendGarbage owner ip w e)
    (hstep : (refreshSystem limits config).step w e = some w') : RefreshOk limits owner ip w' := by
  cases e with
  | arrive request rawId sender refreshToken =>
    dsimp only [refreshSystem] at hstep
    split at hstep
    · rename_i hidle
      obtain rfl := Option.some.inj hstep
      have hphase : PhaseOk (request = owner) ip (arrivePhase rawId sender refreshToken) := by
        unfold arrivePhase
        split
        · trivial
        · exact hgarbage
      refine h.move h.reserved hphase fun hown _ => h.fresh ?_
      rw [← hown, hidle]
      rfl
    · cases hstep
  | proceed request now => exact h.proceed hstep
  | found request answer now =>
    dsimp only [refreshSystem] at hstep
    split at hstep
    · rename_i req hfinding
      obtain rfl := Option.some.inj hstep
      have hphase := h.phases request
      rw [hfinding] at hphase
      by_cases hown : request = owner
      · obtain ⟨req', device, cred, hreq, rfl, hnone⟩ :=
          (if_pos hown).mp (show if request = owner then _ else _ from hgarbage)
        subst hown
        obtain rfl := RefreshPhase.finding.inj (hfinding.symm.trans hreq)
        have hnext : foundPhase req now (.ok (some (device, cred))) = .rotating req device := by
          unfold foundPhase
          simp only [hnone]
        have howns : PhaseOk (request = request) ip (.rotating req device) := rfl
        rw [hnext]
        exact h.move h.reserved howns fun _ hearly => nomatch hearly
      · obtain rfl := (if_neg hown).mp (show if request = owner then _ else _ from hgarbage)
        exact h.move h.reserved ⟨hown, fun hip => hown (hphase.mp hip), List.Subset.refl _⟩
          fun _ hearly => nomatch hearly
    · cases hstep
  | rotated request answer bodies now =>
    dsimp only [refreshSystem] at hstep
    split at hstep
    · rename_i req device hrotating
      obtain rfl := Option.some.inj hstep
      have hown := h.phases request
      rw [hrotating] at hown
      obtain rfl := hgarbage hown
      exact h.move h.reserved hown fun _ hearly => nomatch hearly
    · cases hstep

/-- Requests are apart along every run in which others send garbage. -/
theorem of_reachable
    (h : (refreshSystem limits config).ReachableVia (OthersSendGarbage owner ip) w) :
    RefreshOk limits owner ip w :=
  h.invariant (RefreshOk limits owner ip) (fun _ => .init) fun _ _ _ h hc hs => h.step hc hs

end RefreshOk

/-! ## Who is refused, and what is charged -/

section Charges

variable {T : Type} {limits : RateLimitConfig T} {config : AuthAttemptConfig} {owner : Nat}
  {ip : String} {w w' : RefreshWorld T} {e : RefreshStep}

/-- A step of one request leaves the others where they are. -/
theorem requests_other (hstep : (refreshSystem limits config).step w e = some w') {other : Nat}
    (hother : other ≠ e.request) : w'.requests other = w.requests other := by
  cases e with
  | arrive request _ _ _ | found request _ _ | rotated request _ _ _ =>
    dsimp only [refreshSystem] at hstep
    split at hstep
    · obtain rfl := Option.some.inj hstep
      exact w.advance_other request hother _
    · cases hstep
  | proceed request now =>
    have hstep : w.proceed request now = some w' := hstep
    unfold RefreshWorld.proceed at hstep
    split at hstep
    case h_9 => cases hstep
    all_goals
      obtain rfl := Option.some.inj hstep
      exact RefreshWorld.advance_other _ request hother _

/-- Whether a request was refused by a budget or a lockout. -/
def RefreshPhase.rateLimited : RefreshPhase → Bool
  | .returned (.error (.rateLimited _ _)) => true
  | _ => false

theorem rateLimited_bodyPhase (req : RefreshRequest) : (bodyPhase req).rateLimited = false := by
  unfold bodyPhase
  split_ifs
  · rfl
  · rfl

theorem rateLimited_arrivePhase (rawId ip refreshToken : String) :
    (arrivePhase rawId ip refreshToken).rateLimited = false := by
  unfold arrivePhase
  split
  · rfl
  · rfl

theorem rateLimited_ofRepo (error : RepoError) :
    (RefreshPhase.returned (.error (.ofRepo error))).rateLimited = false := by
  cases error <;> rfl

theorem rateLimited_foundPhase (req : RefreshRequest) (now : Time)
    (answer : Except RepoError (Option (Device × DeviceCredential))) :
    (foundPhase req now answer).rateLimited = false := by
  unfold foundPhase
  split
  · exact rateLimited_ofRepo _
  · rfl
  · split
    · rfl
    · rfl

theorem rateLimited_rotatedPhase (req : RefreshRequest) (issued : IssuedTokens)
    (answer : Except RepoError Unit) : (rotatedPhase req issued answer).rateLimited = false := by
  unfold rotatedPhase
  split
  · rfl
  · rfl
  · exact rateLimited_ofRepo _

/-- **The owner is refused only by the budget of its device.** -/
theorem RefreshOk.refused (h : RefreshOk limits owner ip w)
    (hcapacity : limits.enough limits.capacity = true)
    (hstep : (refreshSystem limits config).step w e = some w')
    (hbefore : (w.requests owner).rateLimited = false)
    (hafter : (w'.requests owner).rateLimited = true) :
    ∃ req now, e = .proceed owner now ∧ w.requests owner = .limitingDevice req ∧
      w.limiter.hasToken (deviceBudget req.publicId) now = false := by
  by_cases hown : owner = e.request
  swap
  · rw [requests_other hstep hown, hbefore] at hafter
    cases hafter
  cases e with
  | arrive request rawId sender refreshToken =>
    obtain rfl : owner = request := hown
    dsimp only [refreshSystem] at hstep
    split at hstep
    · obtain rfl := Option.some.inj hstep
      rw [RefreshWorld.advance_self, rateLimited_arrivePhase] at hafter
      cases hafter
    · cases hstep
  | found request answer now =>
    obtain rfl : owner = request := hown
    dsimp only [refreshSystem] at hstep
    split at hstep
    · obtain rfl := Option.some.inj hstep
      rw [RefreshWorld.advance_self, rateLimited_foundPhase] at hafter
      cases hafter
    · cases hstep
  | rotated request answer bodies now =>
    obtain rfl : owner = request := hown
    dsimp only [refreshSystem] at hstep
    split at hstep
    · obtain rfl := Option.some.inj hstep
      rw [RefreshWorld.advance_self, rateLimited_rotatedPhase] at hafter
      cases hafter
    · cases hstep
  | proceed request now =>
    obtain rfl : owner = request := hown
    have hstep : w.proceed owner now = some w' := hstep
    have hphase := h.phases owner
    unfold RefreshWorld.proceed at hstep
    split at hstep
    case h_9 => cases hstep
    case h_1 req heq =>
      -- the budget of the owner's address is full
      obtain rfl := Option.some.inj hstep
      rw [heq] at hphase
      have hfull := h.fresh (by rw [heq]; rfl)
      rw [← hphase.mpr rfl] at hfull
      have hok : (w.limiter.check (ipBudget req.ip) now).1 = .ok () :=
        RateLimiter.check_new (h.limits_eq ▸ hcapacity) hfull
      unfold RefreshWorld.limit at hafter
      dsimp only at hafter
      rw [RefreshWorld.advance_self, hok] at hafter
      cases hafter
    case h_2 req heq =>
      obtain rfl := Option.some.inj hstep
      refine ⟨req, now, rfl, heq, ?_⟩
      rcases hcheck : (w.limiter.check (deviceBudget req.publicId) now).1 with exceeded | _
      · exact RateLimiter.check_error hcheck
      · unfold RefreshWorld.limit at hafter
        dsimp only at hafter
        rw [RefreshWorld.advance_self, hcheck] at hafter
        cases hafter
    case h_3 req key keys heq =>
      -- no key of the owner has failures
      obtain rfl := Option.some.inj hstep
      rw [heq] at hphase
      have hreserved := reserved_of_mem_lockoutKeys (hphase.2 List.mem_cons_self)
      rw [hphase.1.mpr rfl] at hreserved
      have hok := check_of_none now (h.reserved key hreserved)
      unfold RefreshWorld.checkLockout at hafter
      rw [hok] at hafter
      dsimp only at hafter
      rw [RefreshWorld.advance_self] at hafter
      cases hafter
    case h_4 req heq =>
      obtain rfl := Option.some.inj hstep
      rw [RefreshWorld.advance_self, rateLimited_bodyPhase] at hafter
      cases hafter
    all_goals
      obtain rfl := Option.some.inj hstep
      rw [RefreshWorld.advance_self] at hafter
      cases hafter

/-- The request that a phase belongs to. -/
def RefreshPhase.req : RefreshPhase → Option RefreshRequest
  | .limitingIp req | .limitingDevice req | .checking req _ | .finding req | .rotating req _
  | .recording req _ | .clearing req _ _ => some req
  | .idle | .returned _ => none

/-- **Garbage is charged to its sender and to the device that it names.** -/
theorem RefreshOk.charged (h : RefreshOk limits owner ip w)
    (hstep : (refreshSystem limits config).step w e = some w') (hother : e.request ≠ owner) :
    (∀ key, w'.limiter.buckets.lookup key ≠ w.limiter.buckets.lookup key →
      ∃ req, (w.requests e.request).req = some req ∧
        (key = ipBudget req.ip ∨ key = deviceBudget req.publicId)) ∧
    ∀ key, w'.tracker.records.lookup key ≠ w.tracker.records.lookup key →
      ∃ req, (w.requests e.request).req = some req ∧
        (key = AuthAttemptTracker.keyIp req.ip ∨
          key = AuthAttemptTracker.keyDeviceIp req.publicId.asStr req.ip) := by
  cases e with
  | arrive request _ _ _ | found request _ _ | rotated request _ _ _ =>
    dsimp only [refreshSystem] at hstep
    split at hstep
    · obtain rfl := Option.some.inj hstep
      exact ⟨fun key hne => absurd rfl hne, fun key hne => absurd rfl hne⟩
    · cases hstep
  | proceed request now =>
    have hstep : w.proceed request now = some w' := hstep
    have hphase := h.phases request
    show (∀ key, _ → ∃ req, (w.requests request).req = some req ∧ _) ∧
      ∀ key, _ → ∃ req, (w.requests request).req = some req ∧ _
    unfold RefreshWorld.proceed at hstep
    split at hstep
    case h_9 => cases hstep
    case h_1 req heq =>
      obtain rfl := Option.some.inj hstep
      refine ⟨fun key hne => ⟨req, by rw [heq]; rfl, .inl ?_⟩, fun key hne => absurd rfl hne⟩
      by_contra hkey
      exact hne (RateLimiter.check_other hkey)
    case h_2 req heq =>
      obtain rfl := Option.some.inj hstep
      refine ⟨fun key hne => ⟨req, by rw [heq]; rfl, .inr ?_⟩, fun key hne => absurd rfl hne⟩
      by_contra hkey
      exact hne (RateLimiter.check_other hkey)
    case h_3 req checked keys heq =>
      obtain rfl := Option.some.inj hstep
      rw [heq] at hphase
      refine ⟨fun key hne => absurd rfl hne, fun key hne => ⟨req, by rw [heq]; rfl, ?_⟩⟩
      have hchecked : key = checked := by
        by_contra hkey
        exact hne (AuthAttemptTracker.check_other hkey)
      have hmem := hphase.2 List.mem_cons_self
      simp only [lockoutKeys, List.mem_cons, List.not_mem_nil, or_false] at hmem
      rw [hchecked] at hne ⊢
      rcases hmem with heq | heq | heq
      · exact .inl heq
      · exact .inr heq
      · -- nobody has failed under a device
        have hnone := h.reserved checked (.inr (.inr ⟨req.publicId, heq⟩))
        refine absurd ?_ hne
        show (w.tracker.check checked now).2.records.lookup checked = _
        rw [check_of_none now hnone]
    case h_5 req recorded keys heq =>
      obtain rfl := Option.some.inj hstep
      rw [heq] at hphase
      refine ⟨fun key hne => absurd rfl hne, fun key hne => ⟨req, by rw [heq]; rfl, ?_⟩⟩
      have hrecorded : key = recorded := by
        by_contra hkey
        exact hne (AuthAttemptTracker.recordFailure_other hkey)
      have hmem := hphase.2.2 List.mem_cons_self
      simp only [failureKeys, List.mem_cons, List.not_mem_nil, or_false] at hmem
      rw [hrecorded]
      exact hmem
    case h_7 req cleared keys issued heq =>
      rw [heq] at hphase
      exact absurd hphase hother
    all_goals
      obtain rfl := Option.some.inj hstep
      exact ⟨fun key hne => absurd rfl hne, fun key hne => absurd rfl hne⟩

end Charges

/-- **Garbage does not lock the owner out.** While requests from other addresses carry tokens that
nobody was given, the owner's request is refused by a budget or a lockout only when it is charged to
the budget of its device and that is exhausted; the others come from other addresses and are charged
to budgets and lockouts of their own address, and to the budget of the device that they name.

**Proof sketch.** Garbage fails under keys with the address of its sender, so the keys that the owner
is checked for have no failures (`RefreshOk`), and the budget of its address is full. -/
theorem refresh_not_locked_out {T : Type} (limits : RateLimitConfig T) (config : AuthAttemptConfig)
    (hcapacity : limits.enough limits.capacity = true) (owner : Nat) (ip : String)
    (w : RefreshWorld T)
    (hw : (refreshSystem limits config).ReachableVia (OthersSendGarbage owner ip) w)
    (e : RefreshStep) (w' : RefreshWorld T)
    (hstep : (refreshSystem limits config).step w e = some w') :
    ((w.requests owner).rateLimited = false → (w'.requests owner).rateLimited = true →
      ∃ req now, e = .proceed owner now ∧ w.requests owner = .limitingDevice req ∧
        w.limiter.hasToken (deviceBudget req.publicId) now = false) ∧
    (e.request ≠ owner →
      (∀ key, w'.limiter.buckets.lookup key ≠ w.limiter.buckets.lookup key →
        ∃ req, (w.requests e.request).req = some req ∧ req.ip ≠ ip ∧
          (key = ipBudget req.ip ∨ key = deviceBudget req.publicId)) ∧
      ∀ key, w'.tracker.records.lookup key ≠ w.tracker.records.lookup key →
        ∃ req, (w.requests e.request).req = some req ∧ req.ip ≠ ip ∧
          (key = AuthAttemptTracker.keyIp req.ip ∨
            key = AuthAttemptTracker.keyDeviceIp req.publicId.asStr req.ip)) := by
  have hok := RefreshOk.of_reachable hw
  refine ⟨hok.refused hcapacity hstep, fun hother => ?_⟩
  have helsewhere : ∀ req, (w.requests e.request).req = some req → req.ip ≠ ip := by
    intro req hreq hip
    have hphase := hok.phases e.request
    rcases heq : w.requests e.request with
      _ | r | r | ⟨r, _⟩ | r | ⟨r, _⟩ | ⟨r, _⟩ | ⟨r, _, _⟩ | _ <;>
      rw [heq] at hphase hreq <;> cases hreq
    · exact hother (hphase.mp hip)
    · exact hother (hphase.mp hip)
    · exact hother (hphase.1.mp hip)
    · exact hother (hphase.mp hip)
    · exact hother hphase
    · exact hphase.2.1 hip
    · exact hother hphase
  obtain ⟨hbuckets, hrecords⟩ := hok.charged hstep hother
  refine ⟨fun key hne => ?_, fun key hne => ?_⟩
  · obtain ⟨req, hreq, hkey⟩ := hbuckets key hne
    exact ⟨req, hreq, helsewhere req hreq, hkey⟩
  · obtain ⟨req, hreq, hkey⟩ := hrecords key hne
    exact ⟨req, hreq, helsewhere req hreq, hkey⟩

/-! ## An exhausted budget -/

/-- Whether a step is one of others that send garbage, or the owner's. -/
def garbageStep {T : Type} (owner : Nat) (ip : String) (_ : RefreshWorld T) : RefreshStep → Bool
  | .arrive request _ sender _ => decide (sender = ip ↔ request = owner)
  | .proceed _ _ => true
  | .found request answer _ => decide (request ≠ owner) && answer.toOption.any Option.isNone
  | .rotated request _ _ _ => decide (request ≠ owner)

theorem othersSendGarbage_of_garbageStep {T : Type} {owner : Nat} {ip : String}
    (w : RefreshWorld T) (e : RefreshStep) (h : garbageStep owner ip w e = true) :
    OthersSendGarbage owner ip w e := by
  cases e with
  | arrive request rawId sender refreshToken =>
    exact of_decide_eq_true (p := sender = ip ↔ request = owner) h
  | proceed request now => trivial
  | found request answer now =>
    obtain ⟨hother, hnone⟩ := Bool.and_eq_true_iff.mp h
    show if request = owner then _ else _
    rw [if_neg (of_decide_eq_true hother)]
    rcases answer with e | _ | found
    · cases hnone
    · rfl
    · cases hnone
  | rotated request answer bodies now => exact fun hown => absurd hown (of_decide_eq_true h)

/-- Sixty requests a minute, counted in billionths of a request. -/
def demoLimits : RateLimitConfig Nat where
  capacity := 60 * nanosPerSec
  enough tokens := decide (nanosPerSec ≤ tokens)
  spend tokens := tokens - nanosPerSec
  refill tokens elapsed := min (tokens + elapsed) (60 * nanosPerSec)
  wait tokens := max (nanosPerSec - tokens) (nanosPerSec / 1000)

/-- The server before any request. -/
def demoIdle : RefreshWorld Nat := ⟨.new demoLimits, .new .default, fun _ => .idle⟩

/-- A request names the owner's device and is charged to the budget of its address. -/
def demoRefresh (request : Nat) (ip refreshToken : String) : List RefreshStep :=
  [.arrive request "1234567897" ip refreshToken, .proceed request 0]

/-- Sixty requests with garbage pass both budgets, then the owner comes. -/
def starvingRun : List RefreshStep :=
  (List.range 60).flatMap (fun n =>
    demoRefresh (n + 1) "198.51.100.10" "rl_rt_garbage_attack" ++ [.proceed (n + 1) 0]) ++
  demoRefresh 0 "198.51.100.99" "rl_rt_owner"

/-- The owner is refused after sixty requests from elsewhere. -/
theorem starvingRun_refused : ∃ w w', (refreshSystem demoLimits .default).ReachableVia
      (OthersSendGarbage 0 "198.51.100.99") w ∧
    (refreshSystem demoLimits .default).step w (.proceed 0 0) = some w' ∧
      (w.requests 0).rateLimited = false ∧ (w'.requests 0).rateLimited = true := by
  have hrun : (((refreshSystem demoLimits .default).restrict
      (garbageStep 0 "198.51.100.99")).runFrom demoIdle starvingRun).any (fun w =>
        !(w.requests 0).rateLimited &&
          ((refreshSystem demoLimits .default).step w (.proceed 0 0)).any fun w' =>
            (w'.requests 0).rateLimited) = true := by
    decide +kernel
  obtain ⟨w, hw, hafter⟩ := (Option.any_eq_true _ _).mp hrun
  obtain ⟨hbefore, hafter⟩ := Bool.and_eq_true_iff.mp hafter
  obtain ⟨w', hstep, hrefused⟩ := (Option.any_eq_true _ _).mp hafter
  have hinit : ((refreshSystem demoLimits .default).restrict
      (garbageStep 0 "198.51.100.99")).Reachable demoIdle := .init rfl
  exact ⟨w, w', System.reachableVia_of_restrict othersSendGarbage_of_garbageStep
    (System.reachable_of_runFrom hinit hw), hstep, (Bool.not_eq_true' _).mp hbefore, hrefused⟩

/-- There the budget of the device is exhausted. -/
theorem refresh_not_locked_out_starvingRun : ∃ w, (refreshSystem demoLimits .default).ReachableVia
      (OthersSendGarbage 0 "198.51.100.99") w ∧
    ∃ req, w.requests 0 = .limitingDevice req ∧
      w.limiter.hasToken (deviceBudget req.publicId) 0 = false := by
  obtain ⟨w, w', hw, hstep, hbefore, hafter⟩ := starvingRun_refused
  obtain ⟨hrefused, -⟩ := refresh_not_locked_out demoLimits .default (by decide) 0 "198.51.100.99"
    w hw _ w' hstep
  obtain ⟨req, now, hproceed, hphase, hnone⟩ := hrefused hbefore hafter
  obtain ⟨-, rfl⟩ := RefreshStep.proceed.inj hproceed
  exact ⟨w, hw, req, hphase, hnone⟩

/-- **Garbage starves the owner**: sixty requests from elsewhere that name its device, and the owner
is refused. -/
theorem refresh_starved : ¬∀ w e w', (refreshSystem demoLimits .default).ReachableVia
      (OthersSendGarbage 0 "198.51.100.99") w →
    (refreshSystem demoLimits .default).step w e = some w' →
      (w.requests 0).rateLimited = false → (w'.requests 0).rateLimited = false := by
  intro hclaim
  obtain ⟨w, w', hw, hstep, hbefore, hafter⟩ := starvingRun_refused
  rw [hclaim w _ w' hw hstep hbefore] at hafter
  cases hafter

end RemoteLink.Routes
