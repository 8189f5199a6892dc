import Mathlib.Logic.Basic

set_option autoImplicit false

/-!
# Signaling messages

The messages exchanged over the signaling WebSocket. Session-scoped variants carry a
`signal_seq`, a `u64` that both peers and the server advance with the checked and saturating
additions of the source.

## Main definitions

* `Value` — a JSON value, with the accessors `Value.get` and `Value.asStr`.
* `SignalMessage` — the sixteen message types.
* `checkedSucc`, `saturatingSucc` — `u64::checked_add(1)` and `u64::saturating_add(1)`.
-/

namespace RemoteLink.Protocol

/-! ## JSON values -/

/-- A JSON value. A number is kept as the text it is written with. -/
inductive Value where
  | null
  | bool (b : Bool)
  | number (text : String)
  | string (s : String)
  | array (items : List Value)
  | object (fields : List (String × Value))
  deriving Inhabited

/-- The field `key` of an object, `none` for every other value. -/
def Value.get (v : Value) (key : String) : Option Value :=
  match v with
  | .object fields => (fields.find? fun f => f.1 == key).map Prod.snd
  | _ => none

/-- The text of a string value. -/
def Value.asStr : Value → Option String
  | .string s => some s
  | _ => none

/-! ## Message fields -/

/-- Role declared in `hello`. -/
inductive Role where
  | host
  | viewer
  deriving Repr, DecidableEq, Inhabited

/-- Authentication mode of a session. -/
inductive SessionMode where
  | otp
  | unattended
  | password
  deriving Repr, DecidableEq, Inhabited

/-- Result of the server's OTP prefilter as told to the host. -/
inductive OtpPrefilterStatus where
  | none
  | ok
  | skipped
  deriving Repr, DecidableEq, Inhabited

/-- Why a host rejects a session. -/
inductive RejectReason where
  | busy
  | auth
  | policy
  deriving Repr, DecidableEq, Inhabited

/-- Credentials in `hello`. -/
structure HelloAuth where
  deviceToken : String
  deriving Repr, DecidableEq, Inhabited

/-- A trickled ICE candidate. -/
structure IceCandidate where
  candidate : String
  sdpMid : Option String
  sdpMLineIndex : Option UInt16
  usernameFragment : Option String
  deriving Repr, DecidableEq, Inhabited

/-! ## Messages -/

/-- A signaling message. -/
inductive SignalMessage where
  | hello (role : Role) (protocolVersion : UInt32) (auth : HelloAuth)
  | helloOk (serverTime : String) (featureFlags : Value)
  | sessionIntent (sessionId : String) (signalSeq : UInt64) (hostPublicId : String)
      (mode : SessionMode) (prefilter : Value)
  | sessionIncoming (sessionId : String) (signalSeq : UInt64) (viewerInfo : Value)
      (mode : SessionMode) (otpPrefilter : OtpPrefilterStatus)
  | authChallenge (sessionId : String) (signalSeq : UInt64) (payload : Value)
  | authResponse (sessionId : String) (signalSeq : UInt64) (payload : Value)
  | sessionAccept (sessionId : String) (signalSeq : UInt64)
  | sessionReject (sessionId : String) (signalSeq : UInt64) (reason : RejectReason)
  | sessionOffer (sessionId : String) (signalSeq : UInt64) (sdp : String)
      (fingerprintSig : String)
  | sessionAnswer (sessionId : String) (signalSeq : UInt64) (sdp : String)
  | iceCandidate (sessionId : String) (signalSeq : UInt64) (candidate : IceCandidate)
  | mediaRestart (sessionId : String) (signalSeq : UInt64)
  | renegotiate (sessionId : String) (signalSeq : UInt64)
  | sessionEnd (sessionId : String) (signalSeq : UInt64) (reason : String)
  | stats (sessionId : String) (signalSeq : UInt64) (payload : Value)
  | error (code : String) (message : String)
  deriving Inhabited

namespace SignalMessage

/-- The session a message belongs to, if it is session-scoped. -/
def sessionId? : SignalMessage → Option String
  | sessionIntent sid .. | sessionIncoming sid .. | authChallenge sid .. | authResponse sid ..
  | sessionAccept sid .. | sessionReject sid .. | sessionOffer sid .. | sessionAnswer sid ..
  | iceCandidate sid .. | mediaRestart sid .. | renegotiate sid .. | sessionEnd sid ..
  | stats sid .. => some sid
  | hello .. | helloOk .. | error .. => none

/-- The sequence number of a session-scoped message. -/
def signalSeq? : SignalMessage → Option UInt64
  | sessionIntent _ seq .. | sessionIncoming _ seq .. | authChallenge _ seq ..
  | authResponse _ seq .. | sessionAccept _ seq | sessionReject _ seq .. | sessionOffer _ seq ..
  | sessionAnswer _ seq .. | iceCandidate _ seq .. | mediaRestart _ seq | renegotiate _ seq
  | sessionEnd _ seq .. | stats _ seq .. => some seq
  | hello .. | helloOk .. | error .. => none

end SignalMessage

/-! ## Sequence numbers -/

/-- `u64::checked_add(1)`. -/
def checkedSucc (n : UInt64) : Option UInt64 :=
  if n = UInt64.ofNat (UInt64.size - 1) then none else some (n + 1)

/-- `u64::saturating_add(1)`. -/
def saturatingSucc (n : UInt64) : UInt64 :=
  (checkedSucc n).getD n

end RemoteLink.Protocol
