import Mathlib.Logic.Function.Basic
import RemoteLink.Library.Runs
import RemoteLink.Repo.Memory

set_option autoImplicit false

/-!
# The device routes

Enrolment, token refresh and deletion of a device over the repository. A handler looks up, decides
and writes in separate calls of the repository, so requests interleave between them.

## Main definitions

* `AppError` — the errors of the routes.
* `refreshDenied`, `deleteCheck` — what the handlers decide between two repository calls.
* `Request`, `DevicesWorld` — where a request stands, and all of them over one repository.
* `devicesSystem` — all interleavings of the handlers' repository calls.
-/

namespace RemoteLink.Routes

open RemoteLink.Library RemoteLink.Repo
open RemoteLink.Server (Time second)

/-! ## Errors -/

/-- Application errors. -/
inductive AppError where
  | badRequest (reason : String)
  | unauthorized
  | notFound
  | conflict (reason : String)
  | forbidden (reason : String)
  | rateLimited (message : String) (retryAfterSecs : Nat)
  | internal (reason : String)
  deriving Repr, DecidableEq

/-- The text of an application error. -/
def AppError.display : AppError → String
  | badRequest reason => "bad request: " ++ reason
  | unauthorized => "unauthorized"
  | notFound => "not found"
  | conflict reason => "conflict: " ++ reason
  | forbidden reason => "forbidden: " ++ reason
  | rateLimited message _ => message
  | internal reason => "internal error: " ++ reason

/-- The code and HTTP status of an application error. -/
def AppError.codeAndStatus : AppError → String × Nat
  | badRequest _ => ("bad_request", 400)
  | unauthorized => ("unauthorized", 401)
  | notFound => ("not_found", 404)
  | conflict _ => ("conflict", 409)
  | forbidden _ => ("forbidden", 403)
  | rateLimited _ _ => ("rate_limited", 429)
  | internal _ => ("internal", 500)

/-- A repository error as an application error. -/
def AppError.ofRepo : RepoError → AppError
  | .notFound => .notFound
  | .conflict reason => .conflict reason
  | .staleCredential => .unauthorized
  | .internal reason => .internal reason

/-! ## Tokens -/

/-- Access token lifetime. -/
def accessTokenTtl : Time := 24 * 3600 * second

/-- Refresh token lifetime. -/
def refreshTokenTtl : Time := 30 * 24 * 3600 * second

/-- Tokens as they are returned to the client. -/
structure IssuedTokens where
  accessToken : String
  refreshToken : String
  expiresAt : Time
  deriving Repr, DecidableEq

/-- A token pair with random bodies. -/
def mintTokens (bodies : String × String) (now : Time) : IssuedTokens :=
  ⟨"rl_at_" ++ bodies.1, "rl_rt_" ++ bodies.2, now + accessTokenTtl⟩

/-- The credential that stores the hashes of issued tokens. -/
def newCredentialFromIssued (hashToken : String → String) (deviceId : Int) (issued : IssuedTokens)
    (now : Time) : NewCredential :=
  ⟨deviceId, hashToken issued.accessToken, hashToken issued.refreshToken, issued.expiresAt,
    now + refreshTokenTtl⟩

/-! ## Decisions -/

/-- How broadly an authentication failure counts. -/
inductive AuthFailureScope where
  | ipOnly
  | credentialBound
  deriving Repr, DecidableEq

/-- Why a refresh is unauthorized. -/
inductive RefreshDenied where
  | deviceMismatch
  | deviceInactive
  | refreshExpired
  | staleCredential
  | unknownRefresh
  deriving Repr, DecidableEq

/-- The audit reason of a denied refresh. -/
def RefreshDenied.reason : RefreshDenied → String
  | deviceMismatch => "device_mismatch"
  | deviceInactive => "device_inactive"
  | refreshExpired => "refresh_expired"
  | staleCredential => "stale_credential"
  | unknownRefresh => "unknown_refresh"

/-- How broadly a denied refresh counts. -/
def RefreshDenied.scope : RefreshDenied → AuthFailureScope
  | deviceMismatch => .ipOnly
  | deviceInactive => .credentialBound
  | refreshExpired => .credentialBound
  | staleCredential => .credentialBound
  | unknownRefresh => .ipOnly

/-- What a refresh checks of the credential it found, before it consumes it. -/
def refreshDenied (publicId : String) (device : Device) (cred : DeviceCredential) (now : Time) :
    Option RefreshDenied :=
  if device.publicId ≠ publicId then some .deviceMismatch
  else if device.status ≠ .active then some .deviceInactive
  else if cred.expiresAt < now then some .refreshExpired
  else none

/-- What a deletion checks of the credential it found: it is refused, there is nothing left to do,
or it goes on. -/
def deleteCheck (publicId : String) (device : Device) (cred : DeviceCredential) (now : Time) :
    Except AppError Bool :=
  if device.publicId ≠ publicId then .error .unauthorized
  else if cred.accessExpiresAt < now then .error .unauthorized
  else .ok (decide (device.status ≠ .deleted))

/-! ## Requests -/

/-- What a request has returned. -/
inductive Outcome where
  | registered (device : Device) (tokens : IssuedTokens)
  | refreshed (tokens : IssuedTokens)
  | deleted (publicId : String)
  | failed (e : AppError)

/-- Where a request stands between two repository calls. A registration holds the number of public
ids it may still try. -/
inductive Request where
  | idle
  | registering (displayName : Option String) (publicKey : Bytes) (protocolVersion : Int)
      (tries : Nat)
  | enrolled (device : Device)
  | refreshFound (publicId refreshToken : String) (device : Device) (cred : DeviceCredential)
  | deleteFound (publicId : String) (device : Device) (cred : DeviceCredential)
  | revoked (publicId : String) (device : Device) (now : Time)
  | returned (outcome : Outcome)

/-- What a refresh returns after its rotation. -/
def rotateReturn (issued : IssuedTokens) :
    Except RepoError (Device × DeviceCredential) → Request
  | .ok _ => .returned (.refreshed issued)
  | .error e => .returned (.failed (.ofRepo e))

/-- The repository and the requests. The last two fields only record history: the tokens that were
minted, and the refresh tokens whose refresh has returned a new pair. -/
structure DevicesWorld where
  repo : MemoryDeviceRepo
  requests : Nat → Request
  issued : List IssuedTokens
  redeemed : List String

/-- A repository call of a request, with the time it reads and what the file system answers. Body
and path are checked before the first call. -/
inductive DevicesStep where
  | register (request : Nat) (displayName : Option String) (publicKey : Bytes)
      (protocolVersion : Int)
  | create (request : Nat) (publicId : String) (now : Time) (disk : Disk)
  | issue (request : Nat) (bodies : String × String) (now : Time) (disk : Disk)
  | refresh (request : Nat) (publicId refreshToken : String)
  | rotate (request : Nat) (bodies : String × String) (now : Time) (disk : Disk)
  | delete (request : Nat) (publicId accessToken : String)
  | revoke (request : Nat) (now : Time) (disk : Disk)
  | softDelete (request : Nat) (disk : Disk)

namespace DevicesWorld

variable (hashToken : String → String) (w : DevicesWorld) (request : Nat)

/-- A request moves on. -/
def advance (phase : Request) : DevicesWorld :=
  { w with requests := Function.update w.requests request phase }

@[simp] theorem advance_self (phase : Request) : (w.advance request phase).requests request = phase :=
  Function.update_self _ _ _

theorem advance_other {other : Nat} (h : other ≠ request) (phase : Request) :
    (w.advance request phase).requests other = w.requests other :=
  Function.update_of_ne h _ _

/-- One try of a registration. -/
def tryCreate (displayName : Option String) (publicKey : Bytes) (protocolVersion : Int)
    (tries : Nat) (publicId : String) (now : Time) (disk : Disk) : DevicesWorld :=
  let call := MemoryDeviceRepo.finish (w.repo.createDeviceLocked
    ⟨publicId, displayName, publicKey, some protocolVersion⟩ now) disk
  { w with repo := call.2 }.advance request (match call.1, tries with
    | .ok device, _ => .enrolled device
    | .error (.conflict _), 0 =>
      .returned (.failed (.internal "failed to allocate unique public_id after retries"))
    | .error (.conflict _), tries + 1 => .registering displayName publicKey protocolVersion tries
    | .error e, _ => .returned (.failed (.ofRepo e)))

/-- The first tokens of an enrolled device. -/
def issueTokens (device : Device) (issued : IssuedTokens) (now : Time) (disk : Disk) :
    DevicesWorld :=
  let call := MemoryDeviceRepo.finish (w.repo.insertLocked
    (newCredentialFromIssued hashToken device.id issued now) now) disk
  { w with repo := call.2, issued := issued :: w.issued }.advance request (match call.1 with
    | .ok _ => .returned (.registered device issued)
    | .error e => .returned (.failed (.ofRepo e)))

/-- The lookup of a refresh token. -/
def findRefresh (publicId refreshToken : String) : DevicesWorld :=
  match w.repo.findByRefreshHash (hashToken refreshToken) with
  | .ok (some (device, cred)) =>
    w.advance request (.refreshFound publicId refreshToken device cred)
  | .ok none => w.advance request (.returned (.failed .unauthorized))
  | .error e => w.advance request (.returned (.failed (.ofRepo e)))

/-- The checks of a refresh and the rotation. -/
def rotateTokens (publicId refreshToken : String) (device : Device) (cred : DeviceCredential)
    (issued : IssuedTokens) (now : Time) (disk : Disk) : DevicesWorld :=
  match refreshDenied publicId device cred now with
  | some _ => w.advance request (.returned (.failed .unauthorized))
  | none =>
    let call := MemoryDeviceRepo.finish (w.repo.rotateRefreshLocked (hashToken refreshToken)
      (newCredentialFromIssued hashToken device.id issued now) now) disk
    { w with
      repo := call.2
      issued := issued :: w.issued
      redeemed := match call.1 with
        | .ok _ => refreshToken :: w.redeemed
        | .error _ => w.redeemed }.advance request (rotateReturn issued call.1)

/-- The lookup of an access token. -/
def findAccess (publicId accessToken : String) : DevicesWorld :=
  match w.repo.findByAccessHash (hashToken accessToken) with
  | .ok (some (device, cred)) => w.advance request (.deleteFound publicId device cred)
  | .ok none => w.advance request (.returned (.failed .unauthorized))
  | .error e => w.advance request (.returned (.failed (.ofRepo e)))

/-- The checks of a deletion and the revocation. -/
def revokeTokens (publicId : String) (device : Device) (cred : DeviceCredential) (now : Time)
    (disk : Disk) : DevicesWorld :=
  match deleteCheck publicId device cred now with
  | .error e => w.advance request (.returned (.failed e))
  | .ok false => w.advance request (.returned (.deleted publicId))
  | .ok true =>
    let call := MemoryDeviceRepo.finish (w.repo.revokeAllForDeviceLocked device.id now) disk
    { w with repo := call.2 }.advance request (match call.1 with
      | .ok () => .revoked publicId device now
      | .error e => .returned (.failed (.ofRepo e)))

/-- The end of a deletion. -/
def markDeleted (publicId : String) (now : Time) (disk : Disk) : DevicesWorld :=
  let call := MemoryDeviceRepo.finish (w.repo.softDeleteLocked publicId now) disk
  { w with repo := call.2 }.advance request (match call.1 with
    | .ok true => .returned (.deleted publicId)
    | .ok false => .returned (.failed .notFound)
    | .error e => .returned (.failed (.ofRepo e)))

/-- Tokens that were not minted before. -/
def Fresh (issued : IssuedTokens) : Prop :=
  ∀ old ∈ w.issued, old.accessToken ≠ issued.accessToken ∧ old.refreshToken ≠ issued.refreshToken

instance (issued : IssuedTokens) : Decidable (w.Fresh issued) :=
  inferInstanceAs (Decidable (∀ old ∈ w.issued, _ ∧ _))

end DevicesWorld

/-- All interleavings of the device routes' repository calls, from an empty repository. Minted tokens
are fresh. -/
def devicesSystem (hashToken : String → String) : System DevicesWorld DevicesStep where
  init w := w.repo.nextDeviceId = 0 ∧ w.repo.nextCredId = 0 ∧ w.repo.inner = .empty ∧
    (w.requests = fun _ => .idle) ∧ w.issued = [] ∧ w.redeemed = []
  step w
    | .register request displayName publicKey protocolVersion =>
      match w.requests request with
      | .idle => some (w.advance request (.registering displayName publicKey protocolVersion 4))
      | _ => none
    | .create request publicId now disk =>
      match w.requests request with
      | .registering displayName publicKey protocolVersion tries =>
        some (w.tryCreate request displayName publicKey protocolVersion tries publicId now disk)
      | _ => none
    | .issue request bodies now disk =>
      match w.requests request with
      | .enrolled device =>
        if w.Fresh (mintTokens bodies now) then
          some (w.issueTokens hashToken request device (mintTokens bodies now) now disk)
        else none
      | _ => none
    | .refresh request publicId refreshToken =>
      match w.requests request with
      | .idle => some (w.findRefresh hashToken request publicId refreshToken)
      | _ => none
    | .rotate request bodies now disk =>
      match w.requests request with
      | .refreshFound publicId refreshToken device cred =>
        if w.Fresh (mintTokens bodies now) then
          some (w.rotateTokens hashToken request publicId refreshToken device cred
            (mintTokens bodies now) now disk)
        else none
      | _ => none
    | .delete request publicId accessToken =>
      match w.requests request with
      | .idle => some (w.findAccess hashToken request publicId accessToken)
      | _ => none
    | .revoke request now disk =>
      match w.requests request with
      | .deleteFound publicId device cred =>
        some (w.revokeTokens request publicId device cred now disk)
      | _ => none
    | .softDelete request disk =>
      match w.requests request with
      | .revoked publicId _ now => some (w.markDeleted request publicId now disk)
      | _ => none

end RemoteLink.Routes
