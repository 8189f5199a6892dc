import Mathlib.Data.Rat.Floor
import Mathlib.Tactic.Linarith
import RemoteLink.Server.RateLimit

set_option autoImplicit false

/-!
# Token buckets in exact arithmetic

The rate limiter with tokens counted in rational numbers. A bucket is refilled lazily, by the time
since its last refill, and never above its capacity; a clock that goes back refills nothing.

## Main definitions

* `exactConfig` — a capacity and a refill rate, with their arithmetic.
* `checkAll` — a sequence of checks, each with the highest clocks seen so far.
* `successes` — the checks of a key that succeed in a window of a clock.
* `allowance` — what a window can still let through, the potential of the bound.

## Main results

* `Held.after` — buckets hold between nothing and the capacity.
* `Held.check_allowance`, `Held.successes_le` — a success uses up one of the window's allowance.
* `outcomes_checkAll` — keys do not interfere.
* `Held.check_waited` — the time to wait after a refusal.
* `token_bucket_bound`, `token_bucket_wait` — all of it, and where it ends.
-/

namespace RemoteLink.Server

open RemoteLink.Library
open RemoteLink.Platform (Instant)

/-! ## Exact tokens -/

/-- A duration in seconds. -/
def secs (d : Duration) : ℚ := (d : ℕ) / 1000000000

/-- The nearest whole number, the even one of two. -/
def roundTiesEven (q : ℚ) : ℕ :=
  let n := ⌊q⌋₊
  if q - n < 1 / 2 then n
  else if 1 / 2 < q - n then n + 1
  else if n % 2 = 0 then n
  else n + 1

/-- A number of seconds as a duration, to the nearest nanosecond. -/
def fromSecs (s : ℚ) : Duration := roundTiesEven (s * 1000000000)

/-- A limit in exact arithmetic. -/
def exactConfig (capacity refillPerSec : ℚ) : RateLimitConfig ℚ where
  capacity
  enough tokens := decide (1 ≤ tokens)
  spend tokens := tokens - 1
  refill tokens elapsed := min (tokens + secs elapsed * refillPerSec) capacity
  wait tokens :=
    let need := 1 - tokens
    fromSecs (max (if 0 < refillPerSec then need / refillPerSec else 60) (1 / 1000))

@[simp] theorem secs_zero : secs 0 = 0 := by
  simp [secs]

theorem secs_nonneg (d : Duration) : 0 ≤ secs d := by
  unfold secs
  positivity

theorem secs_sub {a b : ℕ} (h : b ≤ a) : secs (a - b) = secs a - secs b := by
  unfold secs
  rw [Nat.cast_sub h]
  ring

theorem secs_le {a b : ℕ} (h : a ≤ b) : secs a ≤ secs b := by
  have hcast : (a : ℚ) ≤ b := Nat.cast_le.mpr h
  unfold secs
  linarith

/-- Rounding to the nearest number stays less than one below. -/
theorem lt_roundTiesEven_add_one {q : ℚ} : q < roundTiesEven q + 1 := by
  have hfloor : q < ⌊q⌋₊ + 1 := Nat.lt_floor_add_one q
  unfold roundTiesEven
  dsimp only
  split_ifs
  · exact hfloor
  · push_cast
    linarith
  · exact hfloor
  · push_cast
    linarith

/-! ## Sequences of checks -/

/-- A check with its outcome, the highest clock that its key has seen, and the highest that any
key has. -/
structure TokenCheck where
  key : String
  now : Instant
  highest : Instant
  seen : Instant
  result : Except RateLimitExceeded Unit

/-- The highest clocks of the keys after a check. -/
def clockAfter (highest : String → Instant) (key : String) (now : Instant) : String → Instant :=
  Function.update highest key (max (highest key) now)

section

variable {T : Type}

/-- Check one key after the other; `highest` are the highest clocks of the keys before, `seen` is
the highest of all. -/
def checkAll (s : RateLimiter T) (highest : String → Instant) (seen : Instant) :
    List (String × Instant) → List TokenCheck
  | [] => []
  | (key, now) :: calls =>
    ⟨key, now, max (highest key) now, max seen now, (s.check key now).1⟩ ::
      checkAll (s.check key now).2 (clockAfter highest key now) (max seen now) calls

/-- The limiter after the checks. -/
def limiterAfter (s : RateLimiter T) : List (String × Instant) → RateLimiter T
  | [] => s
  | (key, now) :: calls => limiterAfter (s.check key now).2 calls

/-- The highest clocks of the keys after the checks. -/
def clocksAfter (highest : String → Instant) : List (String × Instant) → String → Instant
  | [] => highest
  | (key, now) :: calls => clocksAfter (clockAfter highest key now) calls

end

/-- Whether a check of a key succeeds, in the window of the length `length` from `start`. -/
def TokenCheck.counts (clock : TokenCheck → Instant) (key : String) (start : Instant)
    (length : Duration) (c : TokenCheck) : Bool :=
  decide (c.key = key) && c.result.isOk && decide (start ≤ clock c) &&
    decide (clock c ≤ start + length)

/-- The successes of a key in the window of the length `length` from `start`, by some clock. -/
def successes (clock : TokenCheck → Instant) (log : List TokenCheck) (key : String)
    (start : Instant) (length : Duration) : ℕ :=
  (log.filter (TokenCheck.counts clock key start length)).length

/-- The outcomes of the checks of a key. -/
def outcomes (log : List TokenCheck) (key : String) : List (Except RateLimitExceeded Unit) :=
  (log.filter fun c => decide (c.key = key)).map TokenCheck.result

section

variable {T : Type} {s : RateLimiter T} {key : String} {calls : List (String × Instant)}

/-- Checks of other keys leave a bucket alone. -/
theorem limiterAfter_other (hcalls : ∀ call ∈ calls, call.1 ≠ key) :
    (limiterAfter s calls).buckets.lookup key = s.buckets.lookup key := by
  induction calls generalizing s with
  | nil => rfl
  | cons call calls ih =>
    unfold limiterAfter
    rw [ih fun c hc => hcalls c (List.mem_cons_of_mem _ hc)]
    exact RateLimiter.check_other (hcalls call List.mem_cons_self).symm

theorem clocksAfter_other {highest : String → Instant} (hcalls : ∀ call ∈ calls, call.1 ≠ key) :
    clocksAfter highest calls key = highest key := by
  induction calls generalizing highest with
  | nil => rfl
  | cons call calls ih =>
    unfold clocksAfter
    rw [ih fun c hc => hcalls c (List.mem_cons_of_mem _ hc)]
    exact Function.update_of_ne (hcalls call List.mem_cons_self).symm _ _

/-- A check sees the configuration and the bucket of its key only. -/
theorem check_congr {other : RateLimiter T} {now : Instant} (hconfig : s.config = other.config)
    (hbucket : s.buckets.lookup key = other.buckets.lookup key) :
    (s.check key now).1 = (other.check key now).1 ∧
      (s.check key now).2.buckets.lookup key = (other.check key now).2.buckets.lookup key := by
  have hrefilled : s.refilled key now = other.refilled key now := by
    unfold RateLimiter.refilled
    rw [hconfig, hbucket]
  unfold RateLimiter.check
  dsimp only
  rw [hrefilled, hconfig]
  split_ifs
  · exact ⟨rfl, by rw [AList.lookup_insert, AList.lookup_insert]⟩
  · exact ⟨rfl, by rw [AList.lookup_insert, AList.lookup_insert]⟩

/-- **The outcomes of a key are those of its own checks alone.** -/
theorem outcomes_checkAll {other : RateLimiter T} (hconfig : s.config = other.config)
    (hbucket : s.buckets.lookup key = other.buckets.lookup key)
    (highest highest' : String → Instant) (seen seen' : Instant) :
    outcomes (checkAll s highest seen calls) key =
      outcomes (checkAll other highest' seen' (calls.filter fun c => decide (c.1 = key))) key := by
  induction calls generalizing s other highest highest' seen seen' with
  | nil => rfl
  | cons call calls ih =>
    obtain ⟨called, now⟩ := call
    unfold outcomes at ih ⊢
    by_cases heq : called = key
    · subst heq
      obtain ⟨hresult, hafter⟩ := @check_congr T s called other now hconfig hbucket
      rw [List.filter_cons_of_pos (by simp), checkAll, checkAll,
        List.filter_cons_of_pos (by simp), List.filter_cons_of_pos (by simp), List.map_cons,
        List.map_cons, hresult]
      refine congrArg _ (ih ?_ hafter _ _ _ _)
      rw [RateLimiter.check_config, RateLimiter.check_config, hconfig]
    · rw [List.filter_cons_of_neg (by simp [heq]), checkAll,
        List.filter_cons_of_neg (by simp [heq])]
      refine ih ?_ ?_ _ _ _ _
      · rw [RateLimiter.check_config, hconfig]
      · rw [RateLimiter.check_other (Ne.symm heq), hbucket]

end

/-! ## What the buckets hold -/

/-- The buckets are refilled up to the highest clocks of their keys, and hold between nothing and
the capacity. -/
structure Held (C r : ℚ) (s : RateLimiter ℚ) (highest : String → Instant) : Prop where
  config : s.config = exactConfig C r
  untouched : ∀ key, s.buckets.lookup key = none → highest key = 0
  clock : ∀ key bucket, s.buckets.lookup key = some bucket → bucket.lastRefill = highest key
  nonneg : ∀ key bucket, s.buckets.lookup key = some bucket → 0 ≤ bucket.tokens
  le_capacity : ∀ key bucket, s.buckets.lookup key = some bucket → bucket.tokens ≤ C

section

variable {C r : ℚ} {s : RateLimiter ℚ} {highest : String → Instant} {key : String} {now : Instant}

theorem held_new : Held C r (.new (exactConfig C r)) fun _ => 0 where
  config := rfl
  untouched _ _ := rfl
  clock _ _ h := by cases h
  nonneg _ _ h := by cases h
  le_capacity _ _ h := by cases h

/-- A bucket is refilled up to the clock, unless that has gone back. -/
theorem Held.refilled_clock (h : Held C r s highest) :
    (s.refilled key now).lastRefill = max (highest key) now := by
  unfold RateLimiter.refilled
  cases hbucket : s.buckets.lookup key with
  | none =>
    rw [h.untouched key hbucket]
    simp
  | some bucket =>
    have hclock := h.clock key bucket hbucket
    by_cases hlater : 0 < now - bucket.lastRefill
    · have hle : highest key ≤ now := by
        rw [← hclock]
        exact (Nat.sub_pos_iff_lt.mp hlater).le
      rw [max_eq_right hle]
      exact congrArg Bucket.lastRefill (if_pos hlater)
    · have hle : now ≤ highest key := by
        rw [← hclock]
        exact Nat.sub_eq_zero_iff_le.mp (Nat.eq_zero_of_not_pos hlater)
      rw [max_eq_left hle, ← hclock]
      exact congrArg Bucket.lastRefill (if_neg hlater)

/-- A key without a bucket finds a full one. -/
theorem Held.refilled_none (h : Held C r s highest) (hnone : s.buckets.lookup key = none) :
    (s.refilled key now).tokens = C := by
  unfold RateLimiter.refilled
  rw [hnone, h.config]
  simp [exactConfig]

/-- A bucket is refilled by what the highest clock has gained, up to the capacity. -/
theorem Held.refilled_some (h : Held C r s highest) {bucket : Bucket ℚ}
    (hbucket : s.buckets.lookup key = some bucket) :
    (s.refilled key now).tokens =
      min (bucket.tokens + secs (max (highest key) now - highest key) * r) C := by
  have hclock := h.clock key bucket hbucket
  have hcapacity := h.le_capacity key bucket hbucket
  unfold RateLimiter.refilled
  rw [hbucket, h.config, Option.getD_some]
  dsimp only
  rw [hclock]
  by_cases hlater : 0 < now - highest key
  · have hle : highest key ≤ now := (Nat.sub_pos_iff_lt.mp hlater).le
    rw [max_eq_right hle, if_pos hlater]
    rfl
  · have hle : now ≤ highest key := Nat.sub_eq_zero_iff_le.mp (Nat.eq_zero_of_not_pos hlater)
    rw [max_eq_left hle, if_neg hlater, Nat.sub_self]
    simp [hcapacity]

theorem Held.refilled_le_capacity (h : Held C r s highest) :
    (s.refilled key now).tokens ≤ C := by
  cases hbucket : s.buckets.lookup key with
  | none => exact (h.refilled_none hbucket).le
  | some bucket =>
    rw [h.refilled_some hbucket]
    exact min_le_right _ _

theorem Held.refilled_nonneg (h : Held C r s highest) (hC : 0 ≤ C) (hr : 0 ≤ r) :
    0 ≤ (s.refilled key now).tokens := by
  cases hbucket : s.buckets.lookup key with
  | none =>
    rw [h.refilled_none hbucket]
    exact hC
  | some bucket =>
    rw [h.refilled_some hbucket]
    have hnonneg := h.nonneg key bucket hbucket
    have hgain := mul_nonneg (secs_nonneg (max (highest key) now - highest key)) hr
    exact le_min (add_nonneg hnonneg hgain) hC

/-- With a whole token a check succeeds and takes it. -/
theorem Held.check_ok (h : Held C r s highest) (hone : 1 ≤ (s.refilled key now).tokens) :
    s.check key now = (.ok (), { s with
      buckets := s.buckets.insert key
        ⟨(s.refilled key now).tokens - 1, max (highest key) now⟩ }) := by
  have henough : s.config.enough (s.refilled key now).tokens = true := by
    rw [h.config]
    exact decide_eq_true hone
  have hspend : s.config.spend (s.refilled key now).tokens = (s.refilled key now).tokens - 1 := by
    rw [h.config]
    rfl
  rw [← hspend, ← h.refilled_clock]
  exact if_pos henough

/-- Without one it is refused, and the bucket is still refilled. -/
theorem Held.check_refused (h : Held C r s highest) (hone : ¬ 1 ≤ (s.refilled key now).tokens) :
    s.check key now = (.error ⟨(exactConfig C r).wait (s.refilled key now).tokens⟩, { s with
      buckets := s.buckets.insert key ⟨(s.refilled key now).tokens, max (highest key) now⟩ }) := by
  have henough : ¬ s.config.enough (s.refilled key now).tokens = true := by
    rw [h.config]
    exact mt of_decide_eq_true hone
  rw [← h.refilled_clock, ← h.config]
  exact if_neg henough

/-- A check leaves the refilled bucket of its key, without a token where it succeeds. -/
theorem Held.check_lookup (h : Held C r s highest) :
    ∃ bucket : Bucket ℚ, (s.check key now).2.buckets.lookup key = some bucket ∧
      bucket.lastRefill = max (highest key) now ∧
      bucket.tokens + (if (s.check key now).1.isOk then 1 else 0) =
        (s.refilled key now).tokens ∧
      (0 ≤ (s.refilled key now).tokens → 0 ≤ bucket.tokens) := by
  by_cases hone : 1 ≤ (s.refilled key now).tokens
  · rw [h.check_ok hone]
    refine ⟨_, AList.lookup_insert _, rfl, ?_, ?_⟩
    · exact sub_add_cancel _ _
    · intro _
      exact sub_nonneg.mpr hone
  · rw [h.check_refused hone]
    refine ⟨_, AList.lookup_insert _, rfl, ?_, ?_⟩
    · exact add_zero _
    · intro hnonneg
      exact hnonneg

/-- **A check keeps what the buckets hold.** -/
theorem Held.check (h : Held C r s highest) (hC : 0 ≤ C) (hr : 0 ≤ r) :
    Held C r (s.check key now).2 (clockAfter highest key now) := by
  obtain ⟨held, hlookup, hclock, htokens, hnonneg⟩ := @Held.check_lookup C r s highest key now h
  have hle : held.tokens ≤ C := by
    have htaken : (0 : ℚ) ≤ if (s.check key now).1.isOk then 1 else 0 := by positivity
    have hrefilled := @Held.refilled_le_capacity C r s highest key now h
    linarith
  refine ⟨RateLimiter.check_config.trans h.config, ?_, ?_, ?_, ?_⟩
  · intro other hnone
    by_cases heq : other = key
    · rw [heq, hlookup] at hnone
      cases hnone
    · rw [RateLimiter.check_other heq] at hnone
      rw [clockAfter, Function.update_of_ne heq]
      exact h.untouched other hnone
  · intro other bucket hbucket
    by_cases heq : other = key
    · rw [heq, hlookup] at hbucket
      cases hbucket
      rw [heq, clockAfter, Function.update_self, hclock]
    · rw [RateLimiter.check_other heq] at hbucket
      rw [clockAfter, Function.update_of_ne heq]
      exact h.clock other bucket hbucket
  · intro other bucket hbucket
    by_cases heq : other = key
    · rw [heq, hlookup] at hbucket
      cases hbucket
      exact hnonneg (h.refilled_nonneg hC hr)
    · rw [RateLimiter.check_other heq] at hbucket
      exact h.nonneg other bucket hbucket
  · intro other bucket hbucket
    by_cases heq : other = key
    · rw [heq, hlookup] at hbucket
      cases hbucket
      exact hle
    · rw [RateLimiter.check_other heq] at hbucket
      exact h.le_capacity other bucket hbucket

/-- **Buckets hold between nothing and the capacity**, after any checks. -/
theorem Held.after (calls : List (String × Instant)) (h : Held C r s highest) (hC : 0 ≤ C)
    (hr : 0 ≤ r) : Held C r (limiterAfter s calls) (clocksAfter highest calls) := by
  induction calls generalizing s highest with
  | nil => exact h
  | cons call calls ih => exact ih (h.check hC hr)

/-! ## The successes of a window -/

/-- What a window can still let through: what a full bucket and its length allow, until the bucket
has been refilled in it, then what is left and can come back, and nothing after it. -/
def allowance (C r : ℚ) (start : Instant) (length : Duration) : Option (Bucket ℚ) → ℚ
  | none => C + r * secs length
  | some bucket =>
    if bucket.lastRefill < start then C + r * secs length
    else if bucket.lastRefill ≤ start + length then
      bucket.tokens + r * secs (start + length - bucket.lastRefill)
    else 0

theorem allowance_of_lt {bucket : Bucket ℚ} {start : Instant} {length : Duration}
    (hlt : bucket.lastRefill < start) :
    allowance C r start length (some bucket) = C + r * secs length :=
  if_pos hlt

theorem allowance_of_mem {bucket : Bucket ℚ} {start : Instant} {length : Duration}
    (hle : start ≤ bucket.lastRefill) (hend : bucket.lastRefill ≤ start + length) :
    allowance C r start length (some bucket) =
      bucket.tokens + r * secs (start + length - bucket.lastRefill) :=
  (if_neg (Nat.not_lt.mpr hle)).trans (if_pos hend)

theorem allowance_of_gt {bucket : Bucket ℚ} {start : Instant} {length : Duration}
    (hend : start + length < bucket.lastRefill) :
    allowance C r start length (some bucket) = 0 :=
  (if_neg (Nat.not_lt.mpr ((Nat.le_add_right _ _).trans hend.le))).trans
    (if_neg (Nat.not_le.mpr hend))

variable {start : Instant} {length : Duration}

/-- The allowance is never negative. -/
theorem Held.allowance_nonneg (h : Held C r s highest) (hC : 0 ≤ C) (hr : 0 ≤ r) :
    0 ≤ allowance C r start length (s.buckets.lookup key) := by
  have hfull : 0 ≤ C + r * secs length := add_nonneg hC (mul_nonneg hr (secs_nonneg _))
  cases hbucket : s.buckets.lookup key with
  | none => exact hfull
  | some bucket =>
    unfold allowance
    dsimp only
    split_ifs
    · exact hfull
    · exact add_nonneg (h.nonneg key bucket hbucket) (mul_nonneg hr (secs_nonneg _))
    · exact le_rfl

/-- The allowance is at most what a full bucket and the length of the window allow. -/
theorem Held.allowance_le (h : Held C r s highest) (hC : 0 ≤ C) (hr : 0 ≤ r) :
    allowance C r start length (s.buckets.lookup key) ≤ C + r * secs length := by
  have hfull : 0 ≤ C + r * secs length := add_nonneg hC (mul_nonneg hr (secs_nonneg _))
  cases hbucket : s.buckets.lookup key with
  | none => exact le_rfl
  | some bucket =>
    unfold allowance
    dsimp only
    split_ifs with hlt hmem
    · exact le_rfl
    · have htokens := h.le_capacity key bucket hbucket
      have hshort : start + length - bucket.lastRefill ≤ length := by
        have hsub : ∀ a b c : ℕ, ¬ c < a → a + b - c ≤ b := by omega
        exact hsub _ _ _ hlt
      have hgain := mul_le_mul_of_nonneg_left (secs_le hshort) hr
      linarith
    · exact hfull

/-- The refilled bucket of a check inside the window holds no more than the window allowed. -/
theorem Held.refilled_le_allowance (h : Held C r s highest) (hr : 0 ≤ r)
    (hstart : start ≤ max (highest key) now) (hend : max (highest key) now ≤ start + length) :
    (s.refilled key now).tokens + r * secs (start + length - max (highest key) now) ≤
      allowance C r start length (s.buckets.lookup key) := by
  have hcapacity := @Held.refilled_le_capacity C r s highest key now h
  have hsub : ∀ a b c : ℕ, a ≤ c → a + b - c ≤ b := by omega
  have hgain := mul_le_mul_of_nonneg_left (secs_le (hsub start length _ hstart)) hr
  have hfull : (s.refilled key now).tokens + r * secs (start + length - max (highest key) now) ≤
      C + r * secs length := add_le_add hcapacity hgain
  cases hbucket : s.buckets.lookup key with
  | none => exact hfull
  | some bucket =>
    have hclock := h.clock key bucket hbucket
    by_cases hlt : bucket.lastRefill < start
    · rw [allowance_of_lt hlt]
      exact hfull
    · have hle : bucket.lastRefill ≤ max (highest key) now := by
        rw [hclock]
        exact le_max_left _ _
      rw [allowance_of_mem (Nat.not_lt.mp hlt) (hle.trans hend), h.refilled_some hbucket, ← hclock]
      -- what the clock gains now it cannot gain later
      rw [← hclock] at hend
      have hparts : secs (max bucket.lastRefill now - bucket.lastRefill) +
          secs (start + length - max bucket.lastRefill now) =
          secs (start + length - bucket.lastRefill) := by
        rw [secs_sub (le_max_left _ _), secs_sub hend,
          secs_sub ((le_max_left _ _).trans hend)]
        ring
      have hmin := min_le_left
        (bucket.tokens + secs (max bucket.lastRefill now - bucket.lastRefill) * r) C
      rw [← hparts]
      linarith

/-- **A success uses up one of the window's allowance**, and a refusal adds nothing to it. -/
theorem Held.check_allowance (h : Held C r s highest) (hC : 0 ≤ C) (hr : 0 ≤ r) (seen : Instant) :
    (if TokenCheck.counts TokenCheck.highest key start length
        ⟨key, now, max (highest key) now, seen, (s.check key now).1⟩ then 1 else 0) +
      allowance C r start length ((s.check key now).2.buckets.lookup key) ≤
      allowance C r start length (s.buckets.lookup key) := by
  obtain ⟨held, hlookup, hclock, htokens, -⟩ := @Held.check_lookup C r s highest key now h
  rw [hlookup]
  by_cases hstart : start ≤ max (highest key) now
  · by_cases hend : max (highest key) now ≤ start + length
    · have hallowed := h.refilled_le_allowance hr hstart hend
      have hcounts : TokenCheck.counts TokenCheck.highest key start length
          ⟨key, now, max (highest key) now, seen, (s.check key now).1⟩ =
          (s.check key now).1.isOk := by
        simp [TokenCheck.counts, hstart, hend]
      rw [hcounts, allowance_of_mem (hclock ▸ hstart) (hclock ▸ hend), hclock]
      linarith
    · have hcounts : TokenCheck.counts TokenCheck.highest key start length
          ⟨key, now, max (highest key) now, seen, (s.check key now).1⟩ = false := by
        simp [TokenCheck.counts, hend]
      rw [hcounts, allowance_of_gt (hclock ▸ Nat.not_le.mp hend)]
      simpa using h.allowance_nonneg hC hr
  · have hcounts : TokenCheck.counts TokenCheck.highest key start length
        ⟨key, now, max (highest key) now, seen, (s.check key now).1⟩ = false := by
      simp [TokenCheck.counts, hstart]
    have hbefore : allowance C r start length (s.buckets.lookup key) = C + r * secs length := by
      cases hbucket : s.buckets.lookup key with
      | none => rfl
      | some bucket =>
        refine allowance_of_lt ?_
        rw [h.clock key bucket hbucket]
        exact (le_max_left _ _).trans_lt (Nat.not_le.mp hstart)
    rw [hcounts, allowance_of_lt (hclock ▸ Nat.not_le.mp hstart), hbefore]
    simp

/-- **The successes of a window are at most what it allows.** -/
theorem Held.successes_le (calls : List (String × Instant)) (seen : Instant)
    (h : Held C r s highest) (hC : 0 ≤ C) (hr : 0 ≤ r) :
    (successes TokenCheck.highest (checkAll s highest seen calls) key start length : ℚ) ≤
      allowance C r start length (s.buckets.lookup key) := by
  induction calls generalizing s highest seen with
  | nil =>
    simpa [successes, checkAll] using h.allowance_nonneg hC hr
  | cons call calls ih =>
    obtain ⟨other, now⟩ := call
    have hrest := ih (max seen now) (@Held.check C r s highest other now h hC hr)
    unfold successes at hrest ⊢
    unfold checkAll
    by_cases heq : other = key
    · subst heq
      have hone := @Held.check_allowance C r s highest other now start length h hC hr (max seen now)
      rw [List.filter_cons]
      split_ifs at hone ⊢ with hcounts
      · rw [List.length_cons]
        push_cast
        linarith
      · linarith
    · have hcounts : TokenCheck.counts TokenCheck.highest key start length
          ⟨other, now, max (highest other) now, max seen now, (s.check other now).1⟩ = false := by
        simp [TokenCheck.counts, heq]
      rw [List.filter_cons_of_neg (by simp [hcounts])]
      rwa [RateLimiter.check_other (Ne.symm heq)] at hrest

/-! ## Waiting after a refusal -/

/-- More than a duration, and a nanosecond, covers the number of seconds it was rounded from. -/
theorem le_secs_fromSecs (d : ℚ) : d ≤ secs (fromSecs d + 1) := by
  have hround := @lt_roundTiesEven_add_one (d * 1000000000)
  unfold secs fromSecs
  push_cast
  linarith

/-- **Waiting as long as a refusal says, and a nanosecond, brings a token back.** The time counts
from the highest clock of the key. -/
theorem Held.check_waited (h : Held C r s highest) (hC : 1 ≤ C) (hr : 0 < r) {later : Instant}
    {e : RateLimitExceeded} (herr : (s.check key now).1 = .error e)
    {others : List (String × Instant)} (hothers : ∀ call ∈ others, call.1 ≠ key)
    (hlater : max (highest key) now + e.retryAfter + 1 ≤ later) :
    ((limiterAfter (s.check key now).2 others).check key later).1 = .ok () := by
  have hC0 : 0 ≤ C := zero_le_one.trans hC
  have hone : ¬ 1 ≤ (s.refilled key now).tokens := by
    intro hone
    rw [h.check_ok hone] at herr
    cases herr
  have hwait : e.retryAfter = (exactConfig C r).wait (s.refilled key now).tokens := by
    rw [h.check_refused hone] at herr
    cases herr
    rfl
  have hthen : Held C r (limiterAfter (s.check key now).2 others)
      (clocksAfter (clockAfter highest key now) others) :=
    (h.check hC0 hr.le).after others hC0 hr.le
  have hclock : clocksAfter (clockAfter highest key now) others key = max (highest key) now := by
    rw [clocksAfter_other hothers]
    exact Function.update_self ..
  have hbucket : (limiterAfter (s.check key now).2 others).buckets.lookup key =
      some ⟨(s.refilled key now).tokens, max (highest key) now⟩ := by
    rw [limiterAfter_other hothers, h.check_refused hone]
    exact AList.lookup_insert _
  have hlong : 1 - (s.refilled key now).tokens ≤
      secs (max (max (highest key) now) later - max (highest key) now) * r := by
    have hneed : (1 - (s.refilled key now).tokens) / r ≤ secs (e.retryAfter + 1) := by
      rw [hwait]
      refine le_trans ?_ (le_secs_fromSecs _)
      rw [if_pos hr]
      exact le_max_left _ _
    have helapsed : secs (e.retryAfter + 1) ≤
        secs (max (max (highest key) now) later - max (highest key) now) := by
      refine secs_le ?_
      have hsub : ∀ a b c : ℕ, a + b + 1 ≤ c → b + 1 ≤ max a c - a := by omega
      exact hsub _ _ _ hlater
    exact (div_le_iff₀ hr).mp (hneed.trans helapsed)
  have hwhole : 1 ≤ ((limiterAfter (s.check key now).2 others).refilled key later).tokens := by
    rw [hthen.refilled_some hbucket, hclock]
    refine le_min ?_ hC
    linarith
  rw [hthen.check_ok hwhole]

end

/-- **The bound of a token bucket.** In a window of the highest clock that a key has seen it has at
most as many successes as a full bucket and the refill over the window allow; its outcomes are those
of its own checks alone; its bucket holds between nothing and the capacity; after a refusal, with
checks of other keys in between, its next check succeeds once the highest clock is passed by the
time to wait and a nanosecond. -/
theorem token_bucket_bound {C r : ℚ} (hC : 1 ≤ C) (hr : 0 < r) (calls : List (String × Instant))
    (key : String) :
    let log := checkAll (.new (exactConfig C r)) (fun _ => 0) 0 calls
    let limiter := limiterAfter (.new (exactConfig C r)) calls
    (∀ start length, (successes TokenCheck.highest log key start length : ℚ) ≤
      C + r * secs length) ∧
    outcomes log key = outcomes (checkAll (.new (exactConfig C r)) (fun _ => 0) 0
      (calls.filter fun c => decide (c.1 = key))) key ∧
    (∀ bucket, limiter.buckets.lookup key = some bucket →
      0 ≤ bucket.tokens ∧ bucket.tokens ≤ C) ∧
    ∀ now e others later, (limiter.check key now).1 = .error e →
      (∀ call ∈ others, call.1 ≠ key) →
      max (clocksAfter (fun _ => 0) calls key) now + e.retryAfter + 1 ≤ later →
      ((limiterAfter (limiter.check key now).2 others).check key later).1 = .ok () := by
  have hC0 : 0 ≤ C := zero_le_one.trans hC
  have hstart : Held C r (.new (exactConfig C r)) fun _ => 0 := held_new
  have hheld := hstart.after calls hC0 hr.le
  refine ⟨?_, ?_, ?_, ?_⟩
  · intro start length
    exact (hstart.successes_le calls 0 hC0 hr.le).trans (hstart.allowance_le hC0 hr.le)
  · exact outcomes_checkAll rfl rfl _ _ _ _
  · intro bucket hbucket
    exact ⟨hheld.nonneg key bucket hbucket, hheld.le_capacity key bucket hbucket⟩
  · intro now e others later herr hothers hlater
    exact hheld.check_waited hC hr herr hothers hlater

/-- A bucket of one token, with one more each second: it is taken at ten seconds, and a check at
five is refused for a second. -/
theorem token_bucket_bound_second :
    ((limiterAfter (limiterAfter (.new (exactConfig 1 1)) [("a", 10000000000), ("a", 5000000000)])
      [("b", 7000000000)]).check "a" 11000000001).1 = .ok () :=
  (token_bucket_bound (by norm_num) (by norm_num) [("a", 10000000000)] "a").2.2.2
    5000000000 ⟨1000000000⟩ [("b", 7000000000)] 11000000001 (by decide +kernel)
    (by decide) (by decide)

/-- **Waiting as long as a refusal says is not always enough**, neither by the clock of the refused
check, which may have gone back, nor by the highest clock of the key, since the time to wait is
rounded to nanoseconds; and by the highest clock of all keys a window may have more successes than
a full bucket and its length allow. -/
theorem token_bucket_wait :
    (¬ ∀ (C r : ℚ) (calls : List (String × Instant)) (key : String) (now later : Instant)
      (e : RateLimitExceeded), 1 ≤ C → 0 < r →
      ((limiterAfter (.new (exactConfig C r)) calls).check key now).1 = .error e →
      now + e.retryAfter ≤ later →
      (((limiterAfter (.new (exactConfig C r)) calls).check key now).2.check key later).1 =
        .ok ()) ∧
    (¬ ∀ (C r : ℚ) (calls : List (String × Instant)) (key : String) (now later : Instant)
      (e : RateLimitExceeded), 1 ≤ C → 0 < r →
      ((limiterAfter (.new (exactConfig C r)) calls).check key now).1 = .error e →
      max (clocksAfter (fun _ => 0) calls key) now + e.retryAfter ≤ later →
      (((limiterAfter (.new (exactConfig C r)) calls).check key now).2.check key later).1 =
        .ok ()) ∧
    ¬ ∀ (C r : ℚ) (calls : List (String × Instant)) (key : String) (start : Instant)
      (length : Duration), 1 ≤ C → 0 < r →
      (successes TokenCheck.seen (checkAll (.new (exactConfig C r)) (fun _ => 0) 0 calls) key start
        length : ℚ) ≤ C + r * secs length := by
  refine ⟨?_, ?_, ?_⟩
  · intro h
    have hok := h 1 1 [("a", 10000000000)] "a" 5000000000 6000000000 ⟨1000000000⟩ (by norm_num)
      (by norm_num) (by decide +kernel) (by decide)
    exact absurd hok (by decide +kernel)
  · intro h
    have hok := h 1 3 [("a", 0)] "a" 0 333333333 ⟨333333333⟩ (by norm_num) (by norm_num)
      (by decide +kernel) (by decide)
    exact absurd hok (by decide +kernel)
  · intro h
    have hle := h 1 1 [("b", 9000000000), ("a", 0), ("a", 1000000000), ("a", 2000000000)] "a"
      9000000000 0 (by norm_num) (by norm_num)
    exact absurd hle (by decide +kernel)

end RemoteLink.Server
