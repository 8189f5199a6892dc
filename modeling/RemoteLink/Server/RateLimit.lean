import RemoteLink.Server.AuthAttempts

set_option autoImplicit false

/-!
# Rate limits

Token buckets by key. A bucket starts full, every event takes a token, and tokens come back with
time. How tokens are counted is a parameter: the code counts them in floating point.

## Main definitions

* `RateLimitConfig` — a limit, with the arithmetic of its tokens.
* `RateLimiter.check` — try to take a token.

## Main results

* `RateLimiter.check_new` — the first event of a key is let through.
* `RateLimiter.check_other` — an event leaves the buckets of other keys alone.
-/

namespace RemoteLink.Server

open RemoteLink.Library
open RemoteLink.Platform (Instant)

/-- A limit over tokens of some type: a full bucket, whether there is a token left, what is left
without it, what a bucket holds after some time (the capacity at most), and how long to wait for
a token. -/
structure RateLimitConfig (T : Type) where
  capacity : T
  enough : T → Bool
  spend : T → T
  refill : T → Duration → T
  wait : T → Duration

/-- A key has exhausted its budget. -/
structure RateLimitExceeded where
  retryAfter : Duration
  deriving Repr, DecidableEq

/-- The text of an exhausted budget. -/
def RateLimitExceeded.display (e : RateLimitExceeded) : String :=
  s!"rate limit exceeded; retry after {max e.retryAfter.asSecs 1}s"

/-- The bucket of a key. -/
structure Bucket (T : Type) where
  tokens : T
  lastRefill : Instant

/-- A limiter behind its mutex. -/
structure RateLimiter (T : Type) where
  config : RateLimitConfig T
  buckets : HashMap String (Bucket T)

namespace RateLimiter

variable {T : Type}

/-- A limiter without buckets. -/
def new (config : RateLimitConfig T) : RateLimiter T := ⟨config, ∅⟩

/-- The bucket of a key as an event finds it: a full one where there is none, and with the tokens
that have come back. -/
def refilled (s : RateLimiter T) (key : String) (now : Instant) : Bucket T :=
  let bucket := (s.buckets.lookup key).getD ⟨s.config.capacity, now⟩
  if 0 < now - bucket.lastRefill then
    ⟨s.config.refill bucket.tokens (now - bucket.lastRefill), now⟩
  else bucket

/-- Try to take a token. -/
def check (s : RateLimiter T) (key : String) (now : Instant) :
    Except RateLimitExceeded Unit × RateLimiter T :=
  let bucket := s.refilled key now
  if s.config.enough bucket.tokens then
    (.ok (), { s with
      buckets := s.buckets.insert key { bucket with tokens := s.config.spend bucket.tokens } })
  else
    (.error ⟨s.config.wait bucket.tokens⟩, { s with buckets := s.buckets.insert key bucket })

/-- Whether an event of a key would be let through. -/
def hasToken (s : RateLimiter T) (key : String) (now : Instant) : Bool :=
  s.config.enough (s.refilled key now).tokens

variable {s : RateLimiter T} {key other : String} {now : Instant}

@[simp] theorem check_config : (s.check key now).2.config = s.config := by
  unfold check
  dsimp only
  split_ifs
  · rfl
  · rfl

/-- An event is refused when there is no token. -/
theorem check_error {e : RateLimitExceeded} (h : (s.check key now).1 = .error e) :
    s.hasToken key now = false := by
  unfold check at h
  dsimp only at h
  split_ifs at h with hhas
  exact Bool.eq_false_iff.mpr hhas

/-- **The first event of a key is let through.** -/
theorem check_new (hcapacity : s.config.enough s.config.capacity = true)
    (hnone : s.buckets.lookup key = none) : (s.check key now).1 = .ok () := by
  have hfull : s.refilled key now = ⟨s.config.capacity, now⟩ := by
    unfold refilled
    rw [hnone]
    simp
  unfold check
  rw [hfull]
  exact congrArg Prod.fst (if_pos hcapacity)

/-- An event leaves the buckets of other keys alone. -/
theorem check_other (h : other ≠ key) :
    (s.check key now).2.buckets.lookup other = s.buckets.lookup other := by
  unfold check
  dsimp only
  split_ifs
  · exact AList.lookup_insert_ne h
  · exact AList.lookup_insert_ne h

end RateLimiter

end RemoteLink.Server
