import RemoteLink.Host.Session

set_option autoImplicit false

/-!
# The local policy of a host

The window of the one-time code, the secret of unattended access, and the decision on an incoming
session. The clock and the random source are parameters.

## Main definitions

* `HostAuthService` — the configuration, the secret and the active window.
* `HostAuthService.mintOtp`, `HostAuthService.authorizeSessionModeA` — open and consume a window.
* `HostAuthService.decideSessionAccept` — the gate before an accept.

## Main results

* `authorizeSessionModeA_ok` — what a passed authorization establishes: the window verified the
  code and is gone.
* `decideSessionAccept_allow` — what an allowed session has passed.
-/

namespace RemoteLink.Host

open Library Protocol Auth Net Platform

/-! ## Data -/

/-- The pepper of a host without a configured one. -/
def defaultHostOtpPepper : Bytes := utf8 "remotelink-otp-server-pepper-v1!"

/-- Default lifetime of a code in seconds. -/
def defaultHostOtpTtlSecs : Nat := 900

/-- Host-local configuration. -/
structure HostLocalConfig where
  unattendedEnabled : Bool
  confirmSessions : Bool
  otpDigits : Nat
  otpTtlSecs : Nat
  deriving Repr, DecidableEq

/-- The configuration of a fresh host. -/
def HostLocalConfig.default : HostLocalConfig :=
  ⟨false, false, otpDefaultDigits, defaultHostOtpTtlSecs⟩

/-- The active window of a code. -/
structure ActiveOtpWindow where
  record : OtpRecord
  hash : OtpHash
  expiresAtUnix : Nat
  deriving Repr, DecidableEq

/-- Whether a window is past its lifetime. -/
def ActiveOtpWindow.isExpired (w : ActiveOtpWindow) (nowUnix : Nat) : Bool :=
  w.record.isExpired nowUnix

/-- Whether the code of a window has been consumed on this host. -/
def ActiveOtpWindow.isConsumed (w : ActiveOtpWindow) : Bool := w.record.consumed

/-- Outcome of the local confirmation. -/
inductive ConfirmDecision where
  | autoAccept
  | accepted
  | denied
  | pending
  deriving Repr, DecidableEq

/-- Errors of the policy. -/
inductive PolicyError where
  | unattendedDisabled
  | unattendedSecretMissing
  | noActiveOtp
  | auth (detail : String)
  deriving Repr, DecidableEq

/-- The text of an error. -/
def PolicyError.display : PolicyError → String
  | unattendedDisabled => "unattended Mode B is disabled (set unattended_enabled)"
  | unattendedSecretMissing => "unattended enabled but host secret is not configured"
  | noActiveOtp => "no active OTP window"
  | auth detail => s!"auth: {detail}"

/-- Outcome of the gate before an accept. -/
inductive SessionAcceptDecision where
  | allow (bindKey : Option SessionBindKey)
  | needConfirm
  | needOtpCode
  | deny (reason : RejectReason)

/-- The policy service of a host. -/
structure HostAuthService where
  config : HostLocalConfig
  otpPepper : Bytes
  hostSecret : Option HostSecret
  activeOtp : Option ActiveOtpWindow
  /-- The last code in plain text, as the host shows it. -/
  lastOtpCode : Option String

namespace HostAuthService

/-- A service without secret and window. -/
def new (config : HostLocalConfig) (otpPepper : Bytes) : HostAuthService :=
  ⟨config, otpPepper, none, none, none⟩

/-! ## Settings -/

/-- Enable or disable unattended access. -/
def setUnattendedEnabled (s : HostAuthService) (enabled : Bool) : HostAuthService :=
  { s with config.unattendedEnabled := enabled }

/-- Require local confirmation, or not. -/
def setConfirmSessions (s : HostAuthService) (enabled : Bool) : HostAuthService :=
  { s with config.confirmSessions := enabled }

/-- Install the secret of unattended access. -/
def setHostSecret (s : HostAuthService) (secret : HostSecret) : HostAuthService :=
  { s with hostSecret := some secret }

/-! ## Decisions -/

/-- Whether the policy allows a mode. -/
def policyAllowsMode (s : HostAuthService) : SessionMode → Except PolicyError Unit
  | .otp | .password => .ok ()
  | .unattended =>
    if s.config.unattendedEnabled then
      if s.hostSecret.isSome then .ok () else .error .unattendedSecretMissing
    else .error .unattendedDisabled

/-- The local confirmation of a session. -/
def decideConfirm (s : HostAuthService) (userAccepted : Option Bool) : ConfirmDecision :=
  if ¬s.config.confirmSessions then .autoAccept
  else
    match userAccepted with
    | some true => .accepted
    | some false => .denied
    | none => .pending

/-- Mint a code: open a window and return the code. -/
def mintOtp (C : Crypto) (s : HostAuthService) (rng : Nat → Fin 10) (salt : Bytes) (now : Nat) :
    Except PolicyError String × HostAuthService :=
  -- the sum saturates in 64 bits
  let expires := min (now + max s.config.otpTtlSecs 1) 18446744073709551615
  match mintOtpRecord C s.config.otpDigits s.otpPepper expires rng salt with
  | .error e => (.error (.auth e.display), s)
  | .ok (code, record) =>
    (.ok code,
      { s with lastOtpCode := some code, activeOtp := some ⟨record, record.hash, expires⟩ })

/-- Verify and consume the active code; the window goes on success. -/
def consumeOtp (C : Crypto) (s : HostAuthService) (code : String) (nowUnix : Nat) :
    Except PolicyError SessionBindKey × HostAuthService :=
  match s.activeOtp with
  | none => (.error .noActiveOtp, s)
  | some window =>
    match Auth.authorizeModeA C window.record code s.otpPepper nowUnix with
    | (.error e, record) =>
      (.error (.auth e.display), { s with activeOtp := some { window with record := record } })
    | (.ok key, _) => (.ok key, { s with activeOtp := none })

/-- Mode A on a session manager, with the active window. -/
def authorizeSessionModeA {π : Type} (C : Crypto) (s : HostAuthService) (m : SessionManager π)
    (code : String) (nowUnix : Nat) :
    Except SessionError Unit × HostAuthService × SessionManager π :=
  match s.activeOtp with
  | none => (.error (.invalidState "no active OTP window"), s, m)
  | some window =>
    match m.authorizeModeA C window.record code s.otpPepper nowUnix with
    | (.error e, record, m) =>
      (.error e, { s with activeOtp := some { window with record := record } }, m)
    | (.ok (), _, m) => (.ok (), { s with activeOtp := none }, m)

/-- Mode B on a session manager, behind the policy. -/
def authorizeSessionModeB {π : Type} (C : Crypto) (s : HostAuthService) (challenge : AuthChallenge)
    (fingerprintHost fingerprintViewer mac : Bytes) : SessionM π Unit :=
  match s.policyAllowsMode .unattended with
  | .error e => throw (.invalidState e.display)
  | .ok () =>
    match s.hostSecret with
    | none => throw (.invalidState "host secret missing")
    | some secret =>
      SessionManager.authorizeModeB C secret challenge fingerprintHost fingerprintViewer mac

/-- The code a viewer has entered, if there is one. -/
def enteredCode (otpCode : Option String) : Option String :=
  (otpCode.map Text.trim).filter (· ≠ "")

/-- The gate of the host before it accepts a session. What the server says of its own check is
not looked at. -/
def decideSessionAccept (C : Crypto) (s : HostAuthService) (mode : SessionMode)
    (_otpPrefilter : OtpPrefilterStatus) (otpCode : Option String) (userAccepted : Option Bool)
    (nowUnix : Nat) : SessionAcceptDecision × HostAuthService :=
  match s.decideConfirm userAccepted with
  | .denied => (.deny .policy, s)
  | .pending => (.needConfirm, s)
  | .autoAccept | .accepted =>
    match mode with
    | .unattended =>
      match s.policyAllowsMode .unattended with
      | .ok () => (.allow none, s)
      | .error .unattendedDisabled | .error .unattendedSecretMissing => (.deny .policy, s)
      | .error _ => (.deny .auth, s)
    | .password => (.allow none, s)
    | .otp =>
      match enteredCode otpCode with
      | none =>
        match s.activeOtp with
        | none => (.deny .auth, s)
        | some w => if w.isExpired nowUnix then (.deny .auth, s) else (.needOtpCode, s)
      | some code =>
        match s.consumeOtp C code nowUnix with
        | (.ok key, s) => (.allow (some key), s)
        | (.error _, s) => (.deny .auth, s)

/-! ## What the decisions establish -/

section

variable {π : Type} {C : Crypto} {s : HostAuthService} {m : SessionManager π} {code : String}
  {now : Nat}

/-- Unattended access needs the switch and the secret. -/
theorem policyAllowsMode_unattended :
    s.policyAllowsMode .unattended = .ok () ↔
      s.config.unattendedEnabled = true ∧ s.hostSecret.isSome = true := by
  unfold policyAllowsMode
  split_ifs with henabled hsecret
  · simp [henabled, hsecret]
  · simp [hsecret]
  · simp [henabled]

/-- **A passed Mode A authorization**: a window stood open, its record verified the code, the
session got a key derived from the code, and the window is gone. -/
theorem authorizeSessionModeA_ok :
    (s.authorizeSessionModeA C m code now).1 = .ok () ↔
      ∃ window key, s.activeOtp = some window ∧
        window.record.verify C code s.otpPepper now = .ok () ∧
        SessionBindKey.fromModeAOtp C code = .ok key ∧
        s.authorizeSessionModeA C m code now =
          (.ok (), { s with activeOtp := none }, m.authorized key) := by
  constructor
  · intro h
    unfold authorizeSessionModeA SessionManager.authorizeModeA Auth.authorizeModeA
      OtpRecord.verifyAndConsume at h ⊢
    rcases hwindow : s.activeOtp with _ | window
    · simp [hwindow] at h
    simp only [hwindow] at h ⊢
    rcases hverify : window.record.verify C code s.otpPepper now with e | u
    · simp [hverify] at h
    rcases hkey : SessionBindKey.fromModeAOtp C code with e | key
    · simp [hverify, hkey] at h
    · exact ⟨window, key, rfl, hverify, rfl, by simp⟩
  · rintro ⟨window, key, -, -, -, heq⟩
    rw [heq]

/-- **An allowed session has passed the policy of its mode**: the switch and the secret for
unattended access, the code of an open window for a one-time code. -/
theorem decideSessionAccept_allow {mode : SessionMode} {status : OtpPrefilterStatus}
    {otpCode : Option String} {userAccepted : Option Bool} {key : Option SessionBindKey}
    (h : (s.decideSessionAccept C mode status otpCode userAccepted now).1 = .allow key) :
    match mode with
    | .unattended => s.config.unattendedEnabled = true ∧ s.hostSecret.isSome = true
    | .otp => ∃ code window, enteredCode otpCode = some code ∧ s.activeOtp = some window ∧
        window.record.verify C code s.otpPepper now = .ok ()
    | .password => True := by
  unfold decideSessionAccept at h
  split at h
  · cases h
  · cases h
  all_goals
    cases mode with
    | unattended =>
      dsimp only at h ⊢
      rcases hpolicy : s.policyAllowsMode .unattended with e | u
      · rw [hpolicy] at h
        cases e <;> cases h
      · exact policyAllowsMode_unattended.mp hpolicy
    | password => trivial
    | otp =>
      dsimp only at h ⊢
      rcases hcode : enteredCode otpCode with _ | code
      · simp only [hcode] at h
        split at h
        · cases h
        · split_ifs at h
      · simp only [hcode] at h
        unfold consumeOtp Auth.authorizeModeA OtpRecord.verifyAndConsume at h
        rcases hwindow : s.activeOtp with _ | window
        · simp [hwindow] at h
        simp only [hwindow] at h
        rcases hverify : window.record.verify C code s.otpPepper now with e | u
        · simp [hverify] at h
        · exact ⟨code, window, rfl, rfl, hverify⟩

end

end HostAuthService

end RemoteLink.Host
