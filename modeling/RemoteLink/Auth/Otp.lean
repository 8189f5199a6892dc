import RemoteLink.Library.HashMap
import RemoteLink.Library.Bytes

set_option autoImplicit false

/-!
# One-time passwords

Hashing, verification and single consumption of the ad-hoc codes of Mode A. The hash functions
are those of third-party crates, so they are fields of `Crypto`, a parameter of everything here.

## Main definitions

* `Crypto` — the primitives the code takes from its crypto crates.
* `AuthError` — the errors of the auth package with their texts.
* `verifyOtp` — check a code against a stored hash.
* `OtpRecord` — a window that is consumed by its first successful verification.

## Main results

* `OtpRecord.verify_ok` — what a passed verification establishes.
* `OtpRecord.verifyAndConsume_ok`, `OtpRecord.verify_consumed` — consumption is once.
-/

namespace RemoteLink.Auth

open Library

/-! ## Primitives -/

/-- The primitives of the hash, MAC and signature crates. `publicKey` derives a verifying key from
a signing key. -/
structure Crypto where
  sha256 : Bytes → Bytes
  hmacSha256 : (key message : Bytes) → Bytes
  publicKey : Bytes → Bytes
  sign : (signingKey message : Bytes) → Bytes
  verifySignature : (publicKey message signature : Bytes) → Bool

/-- Primitives that keep their whole input in the output, for evaluating the model. -/
def Crypto.transparent : Crypto where
  sha256 message := message
  hmacSha256 key message := key ++ message
  publicKey key := key
  sign key message := key ++ message
  verifySignature key message signature := decide (signature = key ++ message)

/-- The first `width` bytes of `data`, filled up with zeros. -/
def fit (width : Nat) (data : Bytes) : Bytes := (data ++ List.replicate width 0).take width

/-- A window of the message behind its 30-byte domain, masked with the key. -/
def windowTag (width : Nat) (key message : Bytes) : Bytes :=
  List.zipWith (· + ·) (fit width (message.drop 30)) (fit width key)

/-- Primitives whose tags and signatures have the lengths of the real ones, for evaluating the
model. -/
def Crypto.windowed : Crypto where
  sha256 := fit 32
  hmacSha256 := windowTag 32
  publicKey key := key
  sign := windowTag 64
  verifySignature key message signature := decide (signature = windowTag 64 key message)

/-- Errors of the auth package. -/
inductive AuthError where
  | invalidOtpFormat (detail : String)
  | otpVerify (detail : String)
  | challengeMacMismatch
  | fingerprintSigInvalid
  | identityBind (detail : String)
  | sessionNotAuthorized
  | inputNotAllowed (identityBound sessionAuthorized : Bool)
  | crypto (detail : String)
  deriving Repr, DecidableEq

/-- The text of an error. -/
def AuthError.display : AuthError → String
  | invalidOtpFormat detail => s!"invalid OTP format: {detail}"
  | otpVerify detail => s!"OTP verification failed: {detail}"
  | challengeMacMismatch => "challenge MAC verification failed"
  | fingerprintSigInvalid => "fingerprint signature verification failed"
  | identityBind detail => s!"identity bind failed: {detail}"
  | sessionNotAuthorized => "session not authorized"
  | inputNotAllowed identityBound sessionAuthorized =>
    s!"input not allowed: identity_bound={identityBound} session_authorized={sessionAuthorized}"
  | crypto detail => s!"crypto error: {detail}"

/-! ## Hashing -/

/-- Minimum number of digits of a code. -/
def otpMinDigits : Nat := 6

/-- Maximum number of digits of a code. -/
def otpMaxDigits : Nat := 8

/-- Default number of digits of a code. -/
def otpDefaultDigits : Nat := 6

/-- Length of the per-code salt in bytes. -/
def otpSaltLen : Nat := 16

/-- Domain separation prefix of code hashes. -/
def otpHashDomain : Bytes := utf8 "remotelink-otp-v1:"

/-- Stored digest and salt of a code. -/
structure OtpHash where
  digest : Bytes
  salt : Bytes
  keyed : Bool
  deriving Repr, DecidableEq

/-- Check the digit count and the digits of a code. -/
def validateOtpFormat (code : String) : Except AuthError Unit :=
  let len := code.utf8ByteSize
  if ¬(otpMinDigits ≤ len ∧ len ≤ otpMaxDigits) then
    .error (.invalidOtpFormat s!"length must be {otpMinDigits}..={otpMaxDigits}, got {len}")
  else if ¬code.toList.all Char.isDigit then
    .error (.invalidOtpFormat "OTP must be numeric digits only")
  else .ok ()

/-- Hash a code under a pepper with an explicit salt. -/
def hashOtpWithSalt (C : Crypto) (code : String) (pepper salt : Bytes) :
    Except AuthError OtpHash := do
  validateOtpFormat code
  if pepper.isEmpty then
    throw (.crypto "OTP pepper must be non-empty for keyed hashing")
  if salt.length ≠ otpSaltLen then
    throw (.crypto s!"OTP salt must be {otpSaltLen} bytes, got {salt.length}")
  return ⟨C.hmacSha256 pepper (otpHashDomain ++ salt ++ utf8 code), salt, true⟩

/-- Hash a code without pepper and salt. -/
def hashOtpUnkeyed (C : Crypto) (code : String) : Except AuthError OtpHash := do
  validateOtpFormat code
  return ⟨C.sha256 (otpHashDomain ++ utf8 code), List.replicate otpSaltLen 0, false⟩

/-- Verify a code against a stored hash. -/
def verifyOtp (C : Crypto) (code : String) (pepper : Bytes) (expected : OtpHash) :
    Except AuthError Unit := do
  let candidate ←
    if expected.keyed then hashOtpWithSalt C code pepper expected.salt else hashOtpUnkeyed C code
  if candidate.digest = expected.digest then return ()
  else throw (.otpVerify "code mismatch")

/-! ## Consume-once windows -/

/-- A code that can be verified until it expires and consumed once. -/
structure OtpRecord where
  hash : OtpHash
  expiresAtUnix : Nat
  consumed : Bool
  deriving Repr, DecidableEq

namespace OtpRecord

/-- A new unconsumed record. -/
def new (hash : OtpHash) (expiresAtUnix : Nat) : OtpRecord := ⟨hash, expiresAtUnix, false⟩

/-- Whether the record is expired at `nowUnix`. -/
def isExpired (r : OtpRecord) (nowUnix : Nat) : Bool := decide (r.expiresAtUnix ≤ nowUnix)

/-- Verify a code without consuming the record. -/
def verify (C : Crypto) (r : OtpRecord) (code : String) (pepper : Bytes) (nowUnix : Nat) :
    Except AuthError Unit :=
  if r.consumed then .error (.otpVerify "already consumed")
  else if r.isExpired nowUnix then .error (.otpVerify "expired")
  else verifyOtp C code pepper r.hash

/-- Verify a code and consume the record on success. -/
def verifyAndConsume (C : Crypto) (r : OtpRecord) (code : String) (pepper : Bytes)
    (nowUnix : Nat) : Except AuthError Unit × OtpRecord :=
  match r.verify C code pepper nowUnix with
  | .error e => (.error e, r)
  | .ok () => (.ok (), { r with consumed := true })

variable {C : Crypto} {r : OtpRecord} {code : String} {pepper : Bytes} {now : Nat}

/-- A record verifies only while it is unconsumed and unexpired, and only the right code. -/
theorem verify_ok : r.verify C code pepper now = .ok () ↔
    r.consumed = false ∧ r.isExpired now = false ∧ verifyOtp C code pepper r.hash = .ok () := by
  unfold verify
  split_ifs with hc he
  · simp [hc]
  · simp [he]
  · simp [hc, he]

/-- A consumed record verifies nothing. -/
theorem verify_consumed (h : r.consumed = true) (code : String) (pepper : Bytes) (now : Nat) :
    r.verify C code pepper now = .error (.otpVerify "already consumed") := by
  rw [verify, if_pos h]

/-- Success consumes the record. -/
theorem verifyAndConsume_ok (h : (r.verifyAndConsume C code pepper now).1 = .ok ()) :
    r.verify C code pepper now = .ok () ∧
      (r.verifyAndConsume C code pepper now).2 = { r with consumed := true } := by
  unfold verifyAndConsume at h ⊢
  rcases hv : r.verify C code pepper now with e | u
  · rw [hv] at h
    cases h
  · exact ⟨rfl, rfl⟩

end OtpRecord

/-! ## Minting -/

/-- The code with the given number of digits drawn from a random source. -/
def generateOtp (digits : Nat) (rng : Nat → Fin 10) : Except AuthError String :=
  if ¬(otpMinDigits ≤ digits ∧ digits ≤ otpMaxDigits) then
    .error (.invalidOtpFormat
      s!"digits must be {otpMinDigits}..={otpMaxDigits}, got {digits}")
  else .ok (String.ofList ((List.range digits).map fun i => Nat.digitChar (rng i)))

/-- Mint a code with its record under a pepper; the salt is random. -/
def mintOtpRecord (C : Crypto) (digits : Nat) (pepper : Bytes) (expiresAtUnix : Nat)
    (rng : Nat → Fin 10) (salt : Bytes) : Except AuthError (String × OtpRecord) := do
  let code ← generateOtp digits rng
  if pepper.isEmpty then
    throw (.crypto "OTP pepper must be non-empty for keyed hashing")
  let hash ← hashOtpWithSalt C code pepper salt
  return (code, .new hash expiresAtUnix)

/-- A minted record has the hash of its code, and is not consumed. -/
theorem mintOtpRecord_ok {C : Crypto} {digits : Nat} {pepper : Bytes} {expiresAtUnix : Nat}
    {rng : Nat → Fin 10} {salt : Bytes} {code : String} {record : OtpRecord}
    (h : mintOtpRecord C digits pepper expiresAtUnix rng salt = .ok (code, record)) :
    hashOtpWithSalt C code pepper salt = .ok record.hash ∧ record.consumed = false := by
  unfold mintOtpRecord at h
  rcases hcode : generateOtp digits rng with e | drawn
  · simp [hcode, bind, Except.bind] at h
  simp only [hcode, bind, Except.bind] at h
  rcases hhash : hashOtpWithSalt C drawn pepper salt with e | hash
  all_goals
    split_ifs at h
    all_goals simp [hhash, pure, Except.pure, OtpRecord.new] at h
  obtain ⟨rfl, rfl⟩ := h
  exact ⟨hhash, rfl⟩

end RemoteLink.Auth
