import RemoteLink.Library.Text
import RemoteLink.Net.Transport
import RemoteLink.Auth.Identity
import RemoteLink.Protocol.Message

set_option autoImplicit false

/-!
# Connect requests of the viewer

The credentials that the connect form collects, their checks, the intent that is sent for them,
and the session id that the stub of the server mints.

## Main definitions

* `ConnectRequest` — the host id with the secret of one of the three modes.
* `ConnectRequest.validate`, `ConnectRequest.sessionIntentMessage` — the checks and the intent.
* `connectStub` — the stub session id of a request.
-/

namespace RemoteLink.Viewer

open Library Protocol

/-- Errors of the viewer. -/
inductive ViewerError where
  | invalidConnect (detail : String)
  | invalidState (expected actual : String)
  | transport (e : Net.NetError)
  | auth (e : Auth.AuthError)
  deriving Repr, DecidableEq

/-- The secret of a connect form. -/
inductive ConnectSecret where
  | password (secret : String)
  | otp (secret : String)
  | unattended (secret : String)
  deriving Repr, DecidableEq

namespace ConnectSecret

def asStr : ConnectSecret → String
  | password s | otp s | unattended s => s

/-- The session mode of a secret. -/
def mode : ConnectSecret → SessionMode
  | password _ => .password
  | otp _ => .otp
  | unattended _ => .unattended

end ConnectSecret

/-- The fields of the connect form. -/
structure ConnectRequest where
  hostPublicId : String
  secret : ConnectSecret
  viewerLabel : Option String
  deriving Repr, DecidableEq

namespace ConnectRequest

/-- The request with an OTP. -/
def otp (hostPublicId otp : String) : ConnectRequest := ⟨hostPublicId, .otp otp, none⟩

/-- The request with an unattended secret. -/
def unattended (hostPublicId secret : String) : ConnectRequest :=
  ⟨hostPublicId, .unattended secret, none⟩

/-- The host id and the secret must not be blank, and the secret must have a plausible length. -/
def validate (req : ConnectRequest) : Except ViewerError Unit :=
  if Text.trim req.hostPublicId = "" then .error (.invalidConnect "host public id is required")
  else if Text.trim req.secret.asStr = "" then
    .error (.invalidConnect "password, OTP, or unattended secret is required")
  else
    match req.secret with
    | .otp otp =>
      if otp.utf8ByteSize < 4 ∨ otp.utf8ByteSize > 16 then
        .error (.invalidConnect "OTP length must be between 4 and 16")
      else .ok ()
    | .unattended s =>
      if s.utf8ByteSize < 8 then .error (.invalidConnect "unattended secret looks too short")
      else .ok ()
    | .password _ => .ok ()

/-- What the server may check: the OTP itself, and only the length of the other secrets. -/
def prefilter (req : ConnectRequest) : Value :=
  match req.secret with
  | .password p => .object [("password_hint_len", .number (toString p.utf8ByteSize))]
  | .otp o => .object [("otp", .string o)]
  | .unattended s => .object [("unattended_hint_len", .number (toString s.utf8ByteSize))]

/-- The intent of a request. -/
def sessionIntentMessage (req : ConnectRequest) (sessionId : String) (signalSeq : UInt64) :
    Except ViewerError SignalMessage := do
  req.validate
  return .sessionIntent sessionId signalSeq req.hostPublicId req.secret.mode req.prefilter

end ConnectRequest

/-- At most 32 characters of an id, with a dash for all but ASCII letters and digits. -/
def sanitizeId (s : String) : String :=
  String.ofList ((s.toList.map fun c => if c.isAlphanum then c else '-').take 32)

/-- What the stub of the server answers. -/
structure ConnectStubResult where
  sessionId : String
  accepted : Bool
  deriving Repr, DecidableEq

/-- The stub of the server: check the request and mint a session id from the host id. -/
def connectStub (req : ConnectRequest) : Except ViewerError ConnectStubResult := do
  req.validate
  return ⟨"sess-stub-" ++ sanitizeId req.hostPublicId, true⟩

/-- A request that the stub accepts passed its checks, and its session id is fixed by the host. -/
theorem connectStub_ok {req : ConnectRequest} {stub : ConnectStubResult}
    (h : connectStub req = .ok stub) :
    req.validate = .ok () ∧ stub = ⟨"sess-stub-" ++ sanitizeId req.hostPublicId, true⟩ := by
  unfold connectStub at h
  rcases hv : req.validate with e | _
  · rw [hv] at h
    cases h
  · rw [hv] at h
    exact ⟨rfl, (Except.ok.inj h).symm⟩

end RemoteLink.Viewer
