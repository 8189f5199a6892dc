import Mathlib.Algebra.Group.Nat.Defs
import Mathlib.Logic.Function.Basic
import Mathlib.Order.Bounds.Basic
import RemoteLink.Library.HashMap
import RemoteLink.Library.Runs
import RemoteLink.Platform.Input

set_option autoImplicit false

/-!
# Lockout after failed authentications

The tracker counts the consecutive failures of a key. From a threshold on, every failure locks the
key, for a time that doubles with each one up to a maximum; a success clears the count, and so does
a quiet period. The quiet period is measured from the last failure, also while the key is locked.

## Main definitions

* `AuthAttemptTracker.check`, `AuthAttemptTracker.recordFailure`, `AuthAttemptTracker.recordSuccess`
  — the operations of the tracker.
* `attemptSystem` — their runs, with the lockouts that were reported.
* `Persistent` — a client that never succeeds and fails as soon as it may.
* `AuthAttemptConfig.EscalatesTo` — the configurations in which that client's lockouts grow as they
  should.

## Main results

* `lockout_honoured` — a reported lockout is in force until it ends when failures under it are not
  a quiet period apart, and the lockouts of a persistent client double up to the maximum as long as
  they are no longer than the quiet period.
* `lockout_lost` — under the default configuration both fail.
-/

namespace RemoteLink.Server

open RemoteLink.Library
open RemoteLink.Platform (Instant)

/-! ## The tracker -/

/-- A duration in nanoseconds. -/
abbrev Duration := Nat

/-- The nanoseconds of a second. -/
def nanosPerSec : Nat := 1000000000

/-- The whole seconds of a duration. -/
def Duration.asSecs (d : Duration) : Nat := d / nanosPerSec

/-- The duration of some seconds. -/
def Duration.fromSecs (secs : Nat) : Duration := secs * nanosPerSec

/-- The largest 32-bit number. -/
def u32Max : Nat := 2 ^ 32 - 1

/-- The largest 64-bit number. -/
def u64Max : Nat := 2 ^ 64 - 1

/-- Lockout policy for consecutive failures. -/
structure AuthAttemptConfig where
  maxFailuresBeforeLockout : Nat
  baseLockout : Duration
  maxLockout : Duration
  failureWindow : Duration
  threshold_le : maxFailuresBeforeLockout ≤ u32Max
  maxLockout_le : maxLockout.asSecs ≤ u64Max

/-- The default policy. -/
def AuthAttemptConfig.default : AuthAttemptConfig where
  maxFailuresBeforeLockout := 5
  baseLockout := .fromSecs 2
  maxLockout := .fromSecs 3600
  failureWindow := .fromSecs (15 * 60)
  threshold_le := by decide
  maxLockout_le := by decide

/-- An active lockout. -/
structure LockoutActive where
  retryAfter : Duration
  failures : Nat
  deriving Repr, DecidableEq

/-- The text of a lockout. -/
def LockoutActive.display (l : LockoutActive) : String :=
  s!"too many auth attempts; retry after {max l.retryAfter.asSecs 1}s"

/-- The failures of a key. -/
structure AttemptRecord where
  failures : Nat
  lastFailure : Instant
  lockedUntil : Option Instant
  deriving Repr, DecidableEq

/-- The tracker behind its mutex. -/
structure AuthAttemptTracker where
  config : AuthAttemptConfig
  records : HashMap String AttemptRecord

/-- The base doubled for every failure over the threshold, in whole seconds, capped, and at least
one second. -/
def computeLockout (base maxLockout : Duration) (overThreshold : Nat) : Duration :=
  let mult := 2 ^ min overThreshold 20
  let secs := min (base.asSecs * mult) u64Max
  .fromSecs (max (min secs maxLockout.asSecs) 1)

namespace AuthAttemptTracker

/-- A fresh tracker. -/
def new (config : AuthAttemptConfig) : AuthAttemptTracker := ⟨config, ∅⟩

/-- The key of a client address. -/
def keyIp (ip : String) : String := "ip:" ++ ip

/-- The key of a device. -/
def keyDevice (devicePublicId : String) : String := "device:" ++ devicePublicId

/-- The key of a device and a client address. -/
def keyDeviceIp (devicePublicId ip : String) : String :=
  "device_ip:" ++ devicePublicId ++ ":" ++ ip

/-- Whether a key may attempt to authenticate. -/
def check (s : AuthAttemptTracker) (key : String) (now : Instant) :
    Except LockoutActive Unit × AuthAttemptTracker :=
  match s.records.lookup key with
  | none => (.ok (), s)
  | some r =>
    if r.lockedUntil.isNone ∧ s.config.failureWindow < now - r.lastFailure then
      (.ok (), { s with records := s.records.erase key })
    else
      match r.lockedUntil with
      | none => (.ok (), s)
      | some locked =>
        if now < locked then (.error ⟨locked - now, r.failures⟩, s)
        else (.ok (), { s with records := s.records.insert key { r with lockedUntil := none } })

/-- The record that a failure finds: a new one where there is none, and without failures after a
quiet period. -/
def quietReset (s : AuthAttemptTracker) (key : String) (now : Instant) : AttemptRecord :=
  let r := (s.records.lookup key).getD ⟨0, now, none⟩
  if s.config.failureWindow < now - r.lastFailure then { r with failures := 0, lockedUntil := none }
  else r

/-- Record a failure; the lockout that is in force after it. -/
def recordFailure (s : AuthAttemptTracker) (key : String) (now : Instant) :
    Option Duration × AuthAttemptTracker :=
  let found := s.quietReset key now
  let r := { found with failures := min (found.failures + 1) u32Max, lastFailure := now }
  if s.config.maxFailuresBeforeLockout ≤ r.failures then
    let lockout := computeLockout s.config.baseLockout s.config.maxLockout
      (r.failures - s.config.maxFailuresBeforeLockout)
    (some lockout,
      { s with records := s.records.insert key { r with lockedUntil := some (now + lockout) } })
  else
    match r.lockedUntil with
    | some locked =>
      if now < locked then (some (locked - now), { s with records := s.records.insert key r })
      else (none, { s with records := s.records.insert key { r with lockedUntil := none } })
    | none => (none, { s with records := s.records.insert key r })

/-- Clear the count of a key. -/
def recordSuccess (s : AuthAttemptTracker) (key : String) : AuthAttemptTracker :=
  { s with records := s.records.erase key }

end AuthAttemptTracker

/-! ## Runs -/

/-- An operation on the tracker. -/
inductive AttemptOp where
  | check (key : String) (now : Instant)
  | recordFailure (key : String) (now : Instant)
  | recordSuccess (key : String)

/-- A failure that was recorded: when, what was answered, and the tracker after it. -/
structure RecordedFailure where
  time : Instant
  answer : Option Duration
  tracker : AuthAttemptTracker

/-- The tracker, the time of the last operation, and for each key until when it was reported locked
since its last success and the failures since then, the latest first. The last two fields only
record history. -/
structure AttemptWorld where
  tracker : AuthAttemptTracker
  clock : Instant
  promises : String → Instant
  failures : String → List RecordedFailure

/-- The history after a failure that was answered with a lockout. -/
def AttemptWorld.promised (w : AttemptWorld) (key : String) (now : Instant) :
    Option Duration → String → Instant
  | some d => Function.update w.promises key (max (w.promises key) (now + d))
  | none => w.promises

/-- Until when a key is reported locked after a failure. -/
theorem AttemptWorld.promised_self (w : AttemptWorld) (key : String) (now : Instant)
    (reported : Option Duration) :
    w.promised key now reported key = match reported with
      | some d => max (w.promises key) (now + d)
      | none => w.promises key := by
  rcases reported with _ | d
  · rfl
  · exact Function.update_self _ _ _

theorem AttemptWorld.promised_other (w : AttemptWorld) {key other : String} (h : other ≠ key)
    (now : Instant) (reported : Option Duration) :
    w.promised key now reported other = w.promises other := by
  rcases reported with _ | d
  · rfl
  · exact Function.update_of_ne h _ _

/-- A failure of a key, with its history. -/
def AttemptWorld.fail (w : AttemptWorld) (key : String) (now : Instant) : AttemptWorld :=
  let (answer, tracker) := w.tracker.recordFailure key now
  ⟨tracker, now, w.promised key now answer,
    Function.update w.failures key (⟨now, answer, tracker⟩ :: w.failures key)⟩

/-- The runs of a tracker with a clock that does not go back. -/
def attemptSystem (config : AuthAttemptConfig) : System AttemptWorld AttemptOp where
  init w := w.tracker = .new config ∧ (w.promises = fun _ => 0) ∧ w.failures = fun _ => []
  step w
    | .check key now =>
      if w.clock ≤ now then some { w with tracker := (w.tracker.check key now).2, clock := now }
      else none
    | .recordFailure key now => if w.clock ≤ now then some (w.fail key now) else none
    | .recordSuccess key =>
      some ⟨w.tracker.recordSuccess key, w.clock, Function.update w.promises key 0,
        Function.update w.failures key []⟩

/-- **A failure under a lockout is not a quiet period apart** from the failure before. -/
def NoQuietLock (w : AttemptWorld) : AttemptOp → Prop
  | .recordFailure key now => ∀ r locked, w.tracker.records.lookup key = some r →
      r.lockedUntil = some locked → now < locked →
        now - r.lastFailure ≤ w.tracker.config.failureWindow
  | _ => True

/-! ## Reported lockouts are in force -/

/-- A longer row of failures is locked no shorter. -/
theorem computeLockout_mono (base maxLockout : Duration) {m n : Nat} (h : m ≤ n) :
    computeLockout base maxLockout m ≤ computeLockout base maxLockout n := by
  have hpow : 2 ^ min m 20 ≤ 2 ^ min n 20 := Nat.pow_le_pow_right (by omega) (by omega)
  have hmul := Nat.mul_le_mul_left base.asSecs hpow
  unfold computeLockout Duration.fromSecs
  exact Nat.mul_le_mul_right _ (by omega)

namespace AuthAttemptTracker

variable {s : AuthAttemptTracker} {key other : String} {now : Instant}

/-- The operations do not change the policy. -/
@[simp] theorem check_config : (s.check key now).2.config = s.config := by
  unfold check
  split
  · rfl
  · split_ifs
    · rfl
    · split
      · rfl
      · split_ifs <;> rfl

@[simp] theorem recordFailure_config : (s.recordFailure key now).2.config = s.config := by
  unfold recordFailure
  dsimp only
  split_ifs
  · rfl
  · split
    · split_ifs <;> rfl
    · rfl

/-- An operation on a key leaves the records of other keys alone. -/
theorem check_other (h : other ≠ key) :
    (s.check key now).2.records.lookup other = s.records.lookup other := by
  unfold check
  split
  · rfl
  · split_ifs
    · exact AList.lookup_erase_ne h
    · split
      · rfl
      · split_ifs
        · rfl
        · exact AList.lookup_insert_ne h

theorem recordFailure_other (h : other ≠ key) :
    (s.recordFailure key now).2.records.lookup other = s.records.lookup other := by
  unfold recordFailure
  dsimp only
  split_ifs
  · exact AList.lookup_insert_ne h
  · split
    · split_ifs
      · exact AList.lookup_insert_ne h
      · exact AList.lookup_insert_ne h
    · exact AList.lookup_insert_ne h

/-- What a check does with the record of its key. -/
theorem check_cases (s : AuthAttemptTracker) (key : String) (now : Instant) :
    (∃ r locked, s.records.lookup key = some r ∧ r.lockedUntil = some locked ∧ now < locked ∧
      s.check key now = (.error ⟨locked - now, r.failures⟩, s)) ∨
    ((s.check key now).1 = .ok () ∧
      (∀ r locked, s.records.lookup key = some r → r.lockedUntil = some locked → locked ≤ now) ∧
      ∀ r', (s.check key now).2.records.lookup key = some r' →
        ∃ r, s.records.lookup key = some r ∧ r' = { r with lockedUntil := none }) := by
  unfold check
  rcases hr : s.records.lookup key with _ | r
  · refine .inr ⟨rfl, ?_, ?_⟩
    · intro r locked h
      cases h
    · intro r' hr'
      rw [show s.records.lookup key = some r' from hr'] at hr
      cases hr
  dsimp only
  split_ifs with hquiet
  · refine .inr ⟨rfl, fun r₁ locked h hlocked => ?_, fun r' hr' => ?_⟩
    · obtain rfl := Option.some.inj h
      rw [hlocked] at hquiet
      exact absurd hquiet.1 (by simp)
    · rw [AList.lookup_erase] at hr'
      cases hr'
  rcases hlocked : r.lockedUntil with _ | locked
  · refine .inr ⟨rfl, fun r₁ locked h hsome => ?_, fun r' hr' => ?_⟩
    · obtain rfl := Option.some.inj h
      rw [hlocked] at hsome
      cases hsome
    · obtain rfl := Option.some.inj (hr.symm.trans hr')
      exact ⟨r, rfl, by rw [← hlocked]⟩
  dsimp only
  split_ifs with hnow
  · exact .inl ⟨r, locked, rfl, hlocked, hnow, rfl⟩
  · refine .inr ⟨rfl, fun r₁ locked₁ h hsome => ?_, fun r' hr' => ?_⟩
    · obtain rfl := Option.some.inj h
      obtain rfl := Option.some.inj (hlocked.symm.trans hsome)
      exact Nat.le_of_not_lt hnow
    · rw [AList.lookup_insert] at hr'
      exact ⟨r, rfl, (Option.some.inj hr').symm⟩

/-- The failures of a key after one more. -/
def failuresAfter (s : AuthAttemptTracker) (key : String) (now : Instant) : Nat :=
  min ((s.quietReset key now).failures + 1) u32Max

/-- The lockout of a key after one more failure, from the threshold on. -/
def lockoutAfter (s : AuthAttemptTracker) (key : String) (now : Instant) : Duration :=
  computeLockout s.config.baseLockout s.config.maxLockout
    (s.failuresAfter key now - s.config.maxFailuresBeforeLockout)

/-- Within the quiet period the record of a key counts. -/
theorem quietReset_of_recent {r : AttemptRecord} (hr : s.records.lookup key = some r)
    (hrecent : now - r.lastFailure ≤ s.config.failureWindow) : s.quietReset key now = r := by
  unfold quietReset
  rw [hr]
  exact if_neg (Nat.not_lt_of_le hrecent)

/-- A lockout that a failure finds is that of the record. -/
theorem quietReset_of_locked {locked : Instant}
    (h : (s.quietReset key now).lockedUntil = some locked) :
    ∃ r, s.records.lookup key = some r ∧ s.quietReset key now = r := by
  unfold quietReset at h ⊢
  rcases hr : s.records.lookup key with _ | r
  · rw [hr] at h
    dsimp only [Option.getD] at h
    split_ifs at h
  · refine ⟨r, rfl, ?_⟩
    rw [hr] at h
    dsimp only [Option.getD] at h ⊢
    split_ifs at h ⊢ with hquiet
    rfl

/-- From the threshold on a failure locks the key. -/
theorem recordFailure_locks (h : s.config.maxFailuresBeforeLockout ≤ s.failuresAfter key now) :
    s.recordFailure key now = (some (s.lockoutAfter key now),
      { s with
        records := s.records.insert key
          ⟨s.failuresAfter key now, now, some (now + s.lockoutAfter key now)⟩ }) := by
  unfold recordFailure
  exact if_pos h

/-- Below the threshold a failure of an unlocked key is counted. -/
theorem recordFailure_counts (h : s.failuresAfter key now < s.config.maxFailuresBeforeLockout)
    (hfound : (s.quietReset key now).lockedUntil = none) :
    s.recordFailure key now = (none,
      { s with records := s.records.insert key ⟨s.failuresAfter key now, now, none⟩ }) := by
  unfold recordFailure
  refine (if_neg (Nat.not_le_of_lt h)).trans ?_
  simp only [hfound]
  rfl

end AuthAttemptTracker

/-- The record of a key agrees with what was reported: while a reported lockout lasts the key is
locked at least as long, and a lockout is the one of the failures that are counted. -/
structure RecordOk (config : AuthAttemptConfig) (clock promise : Instant)
    (found : Option AttemptRecord) : Prop where
  promised : clock < promise → ∃ r locked, found = some r ∧ r.lockedUntil = some locked ∧
    promise ≤ locked
  past : ∀ r, found = some r → r.lastFailure ≤ clock
  bounded : ∀ r, found = some r → r.failures ≤ u32Max
  locked : ∀ r locked, found = some r → r.lockedUntil = some locked →
    config.maxFailuresBeforeLockout ≤ r.failures ∧
      locked = r.lastFailure + computeLockout config.baseLockout config.maxLockout
        (r.failures - config.maxFailuresBeforeLockout)

/-- The tracker agrees with what it reported. -/
structure TrackerOk (config : AuthAttemptConfig) (w : AttemptWorld) : Prop where
  config_eq : w.tracker.config = config
  records : ∀ key, RecordOk config w.clock (w.promises key) (w.tracker.records.lookup key)

namespace RecordOk

variable {config : AuthAttemptConfig} {clock promise now : Instant} {found : Option AttemptRecord}
  {s : AuthAttemptTracker} {key : String}

/-- Time passes. -/
theorem later (h : RecordOk config clock promise found) (hnow : clock ≤ now) :
    RecordOk config now promise found where
  promised hlt := h.promised (Nat.lt_of_le_of_lt hnow hlt)
  past r hr := Nat.le_trans (h.past r hr) hnow
  bounded := h.bounded
  locked := h.locked

/-- A check keeps the record: it takes only what is over. -/
theorem check (h : RecordOk config clock promise (s.records.lookup key)) (hnow : clock ≤ now) :
    RecordOk config now promise ((s.check key now).2.records.lookup key) := by
  have hlater := h.later hnow
  obtain ⟨r, locked, hr, hlocked, hlt, heq⟩ | ⟨-, hover, hrecord⟩ := s.check_cases key now
  · rw [heq]
    exact hlater
  · refine ⟨fun hlt => ?_, fun r' hr' => ?_, fun r' hr' => ?_, fun r' locked hr' hlocked => ?_⟩
    · obtain ⟨r, locked, hr, hlocked, hle⟩ := hlater.promised hlt
      exact absurd (Nat.lt_of_lt_of_le hlt hle) (Nat.not_lt_of_le (hover r locked hr hlocked))
    · obtain ⟨r, hr, rfl⟩ := hrecord r' hr'
      exact hlater.past r hr
    · obtain ⟨r, hr, rfl⟩ := hrecord r' hr'
      exact hlater.bounded r hr
    · obtain ⟨r, hr, rfl⟩ := hrecord r' hr'
      cases hlocked

/-- **A failure keeps the record**, when it is not a quiet period after the last one under a
lockout.

**Proof sketch.** After a quiet period no lockout is in force, so nothing that was reported lasts
any longer. Otherwise the failures go up by one; a key that was locked was over the threshold, so it
is locked again, from now on and no shorter than before. -/
theorem recordFailure (h : RecordOk s.config clock promise (s.records.lookup key))
    (hnow : clock ≤ now)
    (hquiet : ∀ r locked, s.records.lookup key = some r → r.lockedUntil = some locked →
      now < locked → now - r.lastFailure ≤ s.config.failureWindow) :
    RecordOk s.config now (match (s.recordFailure key now).1 with
        | some d => max promise (now + d)
        | none => promise)
      ((s.recordFailure key now).2.records.lookup key) := by
  have hbounded : s.failuresAfter key now ≤ u32Max := Nat.min_le_right _ _
  have hlater := h.later hnow
  -- a lockout that is in force is prolonged
  have hlonger : ∀ locked, (s.quietReset key now).lockedUntil = some locked →
      s.config.maxFailuresBeforeLockout ≤ s.failuresAfter key now ∧
        locked ≤ now + s.lockoutAfter key now := by
    intro locked hlocked
    obtain ⟨r, hr, heq⟩ := AuthAttemptTracker.quietReset_of_locked hlocked
    rw [heq] at hlocked
    obtain ⟨hover, rfl⟩ := h.locked r locked hr hlocked
    have hmore : r.failures ≤ s.failuresAfter key now := by
      have hle := h.bounded r hr
      unfold AuthAttemptTracker.failuresAfter
      rw [heq]
      omega
    have hmono := computeLockout_mono s.config.baseLockout s.config.maxLockout
      (Nat.sub_le_sub_right hmore s.config.maxFailuresBeforeLockout)
    exact ⟨Nat.le_trans hover hmore, Nat.add_le_add (hlater.past r hr) hmono⟩
  have hforce : now < promise → ∃ locked, (s.quietReset key now).lockedUntil = some locked ∧
      promise ≤ locked := by
    intro hlt
    obtain ⟨r, locked, hr, hlocked, hle⟩ := hlater.promised hlt
    have hrecent := hquiet r locked hr hlocked (Nat.lt_of_lt_of_le hlt hle)
    exact ⟨locked, by rw [AuthAttemptTracker.quietReset_of_recent hr hrecent, hlocked], hle⟩
  by_cases hover : s.config.maxFailuresBeforeLockout ≤ s.failuresAfter key now
  · rw [AuthAttemptTracker.recordFailure_locks hover]
    dsimp only
    rw [AList.lookup_insert]
    refine ⟨fun _ => ⟨_, _, rfl, rfl, ?_⟩, fun r hr => ?_, fun r hr => ?_, fun r locked hr hl => ?_⟩
    · refine max_le ?_ (Nat.le_refl _)
      by_cases hlt : now < promise
      · obtain ⟨locked, hlocked, hle⟩ := hforce hlt
        exact Nat.le_trans hle (hlonger locked hlocked).2
      · exact Nat.le_trans (Nat.le_of_not_lt hlt) (Nat.le_add_right _ _)
    · obtain rfl := Option.some.inj hr
      exact Nat.le_refl _
    · obtain rfl := Option.some.inj hr
      exact hbounded
    · obtain rfl := Option.some.inj hr
      obtain rfl := Option.some.inj hl
      exact ⟨hover, rfl⟩
  · have hnone : (s.quietReset key now).lockedUntil = none := by
      rcases hl : (s.quietReset key now).lockedUntil with _ | locked
      · rfl
      · exact absurd (hlonger locked hl).1 hover
    rw [AuthAttemptTracker.recordFailure_counts (Nat.lt_of_not_le hover) hnone]
    dsimp only
    rw [AList.lookup_insert]
    refine ⟨fun hlt => ?_, fun r hr => ?_, fun r hr => ?_, fun r locked hr hl => ?_⟩
    · obtain ⟨locked, hlocked, -⟩ := hforce hlt
      rw [hnone] at hlocked
      cases hlocked
    · obtain rfl := Option.some.inj hr
      exact Nat.le_refl _
    · obtain rfl := Option.some.inj hr
      exact hbounded
    · obtain rfl := Option.some.inj hr
      cases hl

end RecordOk

/-- A fresh tracker has reported nothing. -/
theorem TrackerOk.init {config : AuthAttemptConfig} {w : AttemptWorld}
    (h : (attemptSystem config).init w) : TrackerOk config w := by
  obtain ⟨htracker, hpromises, -⟩ := h
  refine ⟨by rw [htracker]; rfl, fun key => ?_⟩
  have hnone : w.tracker.records.lookup key = none := by
    rw [htracker]
    exact AList.lookup_empty key
  rw [hnone, hpromises]
  refine ⟨fun hlt => absurd hlt (Nat.not_lt_zero _), ?_, ?_, ?_⟩
  · intro r hr
    cases hr
  · intro r hr
    cases hr
  · intro r locked hr
    cases hr

/-- **The step lemma**: the tracker goes on agreeing with what it reported. -/
theorem TrackerOk.step {config : AuthAttemptConfig} {w w' : AttemptWorld} {op : AttemptOp}
    (h : TrackerOk config w) (hquiet : NoQuietLock w op)
    (hstep : (attemptSystem config).step w op = some w') : TrackerOk config w' := by
  obtain ⟨hconfig, hrecords⟩ := h
  cases op with
  | check key now =>
    obtain ⟨hnow, hw⟩ := Option.ite_none_right_eq_some.mp hstep
    obtain rfl := Option.some.inj hw
    refine ⟨AuthAttemptTracker.check_config.trans hconfig, fun other => ?_⟩
    by_cases hother : other = key
    · rw [hother]
      exact (hrecords key).check hnow
    · show RecordOk config now _ ((w.tracker.check key now).2.records.lookup other)
      rw [AuthAttemptTracker.check_other hother]
      exact (hrecords other).later hnow
  | recordFailure key now =>
    obtain ⟨hnow, hw⟩ := Option.ite_none_right_eq_some.mp hstep
    obtain rfl := Option.some.inj hw
    refine ⟨AuthAttemptTracker.recordFailure_config.trans hconfig, fun other => ?_⟩
    by_cases hother : other = key
    · have hkey := RecordOk.recordFailure (hconfig ▸ hrecords key) hnow hquiet
      rw [hconfig] at hkey
      rw [hother]
      show RecordOk config now (w.promised key now _ key)
        ((w.tracker.recordFailure key now).2.records.lookup key)
      rw [w.promised_self]
      exact hkey
    · show RecordOk config now (w.promised key now _ other)
        ((w.tracker.recordFailure key now).2.records.lookup other)
      rw [AuthAttemptTracker.recordFailure_other hother, w.promised_other hother]
      exact (hrecords other).later hnow
  | recordSuccess key =>
    obtain rfl := Option.some.inj hstep
    refine ⟨hconfig, fun other => ?_⟩
    show RecordOk config w.clock (Function.update w.promises key 0 other)
      ((w.tracker.records.erase key).lookup other)
    by_cases hother : other = key
    · rw [hother, Function.update_self, AList.lookup_erase]
      refine ⟨fun hlt => absurd hlt (Nat.not_lt_zero _), ?_, ?_, ?_⟩
      · intro r hr
        cases hr
      · intro r hr
        cases hr
      · intro r locked hr
        cases hr
    · rw [Function.update_of_ne hother, AList.lookup_erase_ne hother]
      exact hrecords other

/-- A key is refused as long as a lockout that was reported for it lasts. -/
theorem TrackerOk.refuses {config : AuthAttemptConfig} {w : AttemptWorld} (h : TrackerOk config w)
    {key : String} {now : Instant} (hnow : w.clock ≤ now) (hlt : now < w.promises key) :
    ∃ l, (w.tracker.check key now).1 = .error l := by
  obtain ⟨r, locked, hr, hlocked, hle⟩ :=
    (h.records key).promised (Nat.lt_of_le_of_lt hnow hlt)
  obtain ⟨r', locked', -, -, -, heq⟩ | ⟨-, hover, -⟩ := w.tracker.check_cases key now
  · rw [heq]
    exact ⟨_, rfl⟩
  · exact absurd (Nat.lt_of_lt_of_le hlt hle) (Nat.not_lt_of_le (hover r locked hr hlocked))

/-! ## A persistent client -/

namespace AuthAttemptTracker

/-- The first instant, from `t` on, at which a key may attempt to authenticate. -/
def freeFrom (s : AuthAttemptTracker) (key : String) (t : Instant) : Instant :=
  match (s.records.lookup key).bind AttemptRecord.lockedUntil with
  | some locked => max t locked
  | none => t

/-- A key may attempt to authenticate when its lockout is over. -/
theorem check_ok_iff (s : AuthAttemptTracker) (key : String) (now : Instant) :
    (s.check key now).1 = .ok () ↔ ∀ locked,
      (s.records.lookup key).bind AttemptRecord.lockedUntil = some locked → locked ≤ now := by
  obtain ⟨r, locked, hr, hlocked, hlt, heq⟩ | ⟨hok, hover, -⟩ := s.check_cases key now
  · rw [heq, hr, Option.bind_some, hlocked]
    constructor
    · intro h
      cases h
    · intro h
      exact absurd hlt (Nat.not_lt_of_le (h locked rfl))
  · refine ⟨fun _ locked h => ?_, fun _ => hok⟩
    obtain ⟨r, hr, hlocked⟩ := Option.bind_eq_some_iff.mp h
    exact hover r locked hr hlocked

/-- The first instant at which a key may attempt to authenticate is found by looking at its
lockout. -/
theorem isLeast_freeFrom (s : AuthAttemptTracker) (key : String) (t : Instant) :
    IsLeast {now | t ≤ now ∧ (s.check key now).1 = .ok ()} (s.freeFrom key t) := by
  have hset : {now | t ≤ now ∧ (s.check key now).1 = .ok ()} = Set.Ici (s.freeFrom key t) := by
    ext now
    show t ≤ now ∧ (s.check key now).1 = .ok () ↔ s.freeFrom key t ≤ now
    rw [s.check_ok_iff]
    unfold freeFrom
    rcases (s.records.lookup key).bind AttemptRecord.lockedUntil with _ | locked
    · exact ⟨And.left, fun h => ⟨h, fun _ hnone => nomatch hnone⟩⟩
    · rw [Nat.max_le]
      exact and_congr_right fun _ => ⟨fun h => h locked rfl, fun h l hl => Option.some.inj hl ▸ h⟩
  rw [hset]
  exact isLeast_Ici

end AuthAttemptTracker

/-- **A client that never succeeds**, and whose every failure is recorded at the first instant, from
the failure before on, at which a check permits it. -/
def Persistent (key : String) (w : AttemptWorld) : AttemptOp → Prop
  | .check _ _ => True
  | .recordFailure other now => other = key → ∀ f ∈ (w.failures key).head?,
      IsLeast {t | f.time ≤ t ∧ (f.tracker.check key t).1 = .ok ()} now
  | .recordSuccess other => other ≠ key

namespace AuthAttemptConfig

variable (config : AuthAttemptConfig)

/-- What the failures of a persistent client should be answered: the first ones nothing, the `n`-th
past the threshold a lockout of the base doubled `n` times, up to the maximum. -/
def answer (k : Nat) : Option Duration :=
  if config.maxFailuresBeforeLockout ≤ k then
    some (computeLockout config.baseLockout config.maxLockout
      (min k u32Max - config.maxFailuresBeforeLockout))
  else none

/-- How long a persistent client waits after its `k`-th failure. -/
def waits (k : Nat) : Duration := (config.answer k).getD 0

/-- No wait of a persistent client before its `k`-th failure is longer than the quiet period. -/
def KeepsCount (k : Nat) : Prop := ∀ j, 0 < j → j < k → config.waits j ≤ config.failureWindow

/-- **The configurations that escalate** up to the `n`-th failure past the threshold. The base is in
whole seconds and the doublings are not limited before the maximum is reached, and no earlier
lockout is longer than the quiet period. -/
structure EscalatesTo (n : Nat) : Prop where
  doubles : let limit := min n (min 20 (u32Max - config.maxFailuresBeforeLockout))
    nanosPerSec ∣ config.baseLockout ∧ n = limit ∧ config.baseLockout * 2 ^ n ≤ config.maxLockout ∨
    nanosPerSec ∣ config.maxLockout ∧
      config.maxLockout ≤ .fromSecs (config.baseLockout.asSecs * 2 ^ limit)
  recent : ∀ m < n, 0 < config.maxFailuresBeforeLockout + m →
    .fromSecs (min (config.baseLockout.asSecs * 2 ^ m) config.maxLockout.asSecs) ≤
      config.failureWindow

end AuthAttemptConfig

namespace AuthAttemptTracker

variable {s : AuthAttemptTracker} {key : String} {now : Instant}

/-- Within the quiet period a check takes at most the lockout. -/
theorem check_recent (s : AuthAttemptTracker) (key : String) (now : Instant) {r : AttemptRecord}
    (hr : s.records.lookup key = some r)
    (hrecent : now - r.lastFailure ≤ s.config.failureWindow) :
    ∃ l, (l = none ∨ l = r.lockedUntil) ∧
      (s.check key now).2.records.lookup key = some { r with lockedUntil := l } := by
  unfold check
  rw [hr]
  dsimp only
  rw [if_neg fun h => Nat.not_lt_of_le hrecent h.2]
  rcases hlocked : r.lockedUntil with _ | locked
  · exact ⟨none, .inl rfl, hr.trans (by rw [← hlocked])⟩
  dsimp only
  split_ifs with hnow
  · exact ⟨some locked, .inr rfl, hr.trans (by rw [← hlocked])⟩
  · exact ⟨none, .inl rfl, AList.lookup_insert _⟩

/-- A failure that is counted as the `k`-th is answered as the `k`-th. -/
theorem recordFailure_answer {k : Nat} (hfailures : s.failuresAfter key now = min k u32Max)
    (hfree : k < s.config.maxFailuresBeforeLockout → (s.quietReset key now).lockedUntil = none) :
    s.recordFailure key now = (s.config.answer k,
      { s with
        records := s.records.insert key
          ⟨min k u32Max, now, (s.config.answer k).map (now + ·)⟩ }) := by
  have hle := s.config.threshold_le
  unfold AuthAttemptConfig.answer
  by_cases hover : s.config.maxFailuresBeforeLockout ≤ k
  · rw [recordFailure_locks (by rw [hfailures]; exact Nat.le_min.mpr ⟨hover, hle⟩), if_pos hover]
    unfold lockoutAfter
    rw [hfailures]
    rfl
  · have hlt := Nat.lt_of_not_le hover
    have hcount : s.failuresAfter key now < s.config.maxFailuresBeforeLockout := by
      rw [hfailures]
      exact Nat.lt_of_le_of_lt (Nat.min_le_left _ _) hlt
    rw [recordFailure_counts hcount (hfree hlt), if_neg hover, hfailures]
    rfl

end AuthAttemptTracker

/-- A longer row of failures keeps its count less often. -/
theorem AuthAttemptConfig.KeepsCount.mono {config : AuthAttemptConfig} {j k : Nat}
    (h : config.KeepsCount k) (hle : j ≤ k) : config.KeepsCount j :=
  fun i hpos hi => h i hpos (Nat.lt_of_lt_of_le hi hle)

/-- The latest failure of a persistent client is its `k`-th, and is still counted when the client
may fail again. -/
structure LatestOk (config : AuthAttemptConfig) (key : String) (w : AttemptWorld)
    (f : RecordedFailure) (k : Nat) : Prop where
  time_le : f.time ≤ w.clock
  after : f.tracker.records.lookup key =
    some ⟨min k u32Max, f.time, (config.answer k).map (f.time + ·)⟩
  found : config.KeepsCount (k + 1) → w.clock ≤ f.time + config.waits k →
    ∃ l, (l = none ∨ l = (config.answer k).map (f.time + ·)) ∧
      w.tracker.records.lookup key = some ⟨min k u32Max, f.time, l⟩

/-- The tracker agrees with the history of a persistent client. -/
structure PersistentOk (config : AuthAttemptConfig) (key : String) (w : AttemptWorld) : Prop where
  config_eq : w.tracker.config = config
  fresh : w.failures key = [] → w.tracker.records.lookup key = none
  answers : ∀ newer f older, w.failures key = newer ++ f :: older →
    config.KeepsCount (older.length + 1) → f.answer = config.answer (older.length + 1)
  latest : ∀ f older, w.failures key = f :: older → config.KeepsCount (older.length + 1) →
    LatestOk config key w f (older.length + 1)

namespace PersistentOk

variable {config : AuthAttemptConfig} {key : String} {w w' : AttemptWorld}

/-- What leaves the key alone keeps the agreement. -/
theorem frame (h : PersistentOk config key w) (hconfig : w'.tracker.config = w.tracker.config)
    (hfailures : w'.failures key = w.failures key)
    (hlookup : w'.tracker.records.lookup key = w.tracker.records.lookup key)
    (hclock : w.clock ≤ w'.clock) : PersistentOk config key w' where
  config_eq := hconfig.trans h.config_eq
  fresh hnone := by
    rw [hlookup]
    exact h.fresh (hfailures ▸ hnone)
  answers newer f older heq := h.answers newer f older (hfailures ▸ heq)
  latest f older heq hkeeps := by
    obtain ⟨htime, hafter, hfound⟩ := h.latest f older (hfailures ▸ heq) hkeeps
    refine ⟨Nat.le_trans htime hclock, hafter, fun hnext hle => ?_⟩
    rw [hlookup]
    exact hfound hnext (Nat.le_trans hclock hle)

/-- A check of the key keeps the agreement: up to the instant at which the client may fail again no
quiet period is over. -/
theorem check (h : PersistentOk config key w) {now : Instant} (hnow : w.clock ≤ now) :
    PersistentOk config key { w with tracker := (w.tracker.check key now).2, clock := now } where
  config_eq := AuthAttemptTracker.check_config.trans h.config_eq
  fresh hnone := by
    have hlookup := h.fresh hnone
    show (w.tracker.check key now).2.records.lookup key = none
    unfold AuthAttemptTracker.check
    rw [hlookup]
    exact hlookup
  answers := h.answers
  latest f older heq hkeeps := by
    obtain ⟨htime, hafter, hfound⟩ := h.latest f older heq hkeeps
    refine ⟨Nat.le_trans htime hnow, hafter, fun hnext hle => ?_⟩
    obtain ⟨l, hl, hr⟩ := hfound hnext (Nat.le_trans hnow hle)
    have hrecent : now - f.time ≤ w.tracker.config.failureWindow := by
      rw [h.config_eq]
      have hwaits := hnext _ (Nat.succ_pos older.length) (Nat.lt_succ_self _)
      have hsub : now - f.time ≤ config.waits (older.length + 1) := Nat.sub_le_iff_le_add'.mpr hle
      exact Nat.le_trans hsub hwaits
    obtain ⟨l', hl', hr'⟩ := w.tracker.check_recent key now hr hrecent
    refine ⟨l', ?_, hr'⟩
    rcases hl' with rfl | rfl
    · exact .inl rfl
    · exact hl

/-- The next failure of a persistent client is counted, as one more than the last. -/
theorem counted (h : PersistentOk config key w) {now : Instant} (hnow : w.clock ≤ now)
    (hfirst : ∀ f ∈ (w.failures key).head?,
      IsLeast {t | f.time ≤ t ∧ (f.tracker.check key t).1 = .ok ()} now)
    (hkeeps : config.KeepsCount ((w.failures key).length + 1)) :
    w.tracker.failuresAfter key now = min ((w.failures key).length + 1) u32Max ∧
      ((w.failures key).length + 1 < config.maxFailuresBeforeLockout →
        (w.tracker.quietReset key now).lockedUntil = none) := by
  rcases hfailures : w.failures key with _ | ⟨f, older⟩
  · have hnone := h.fresh hfailures
    have hfound : w.tracker.quietReset key now = ⟨0, now, none⟩ := by
      unfold AuthAttemptTracker.quietReset
      rw [hnone]
      simp
    unfold AuthAttemptTracker.failuresAfter
    rw [hfound]
    exact ⟨rfl, fun _ => rfl⟩
  · rw [hfailures] at hfirst hkeeps
    obtain ⟨-, hafter, hfound⟩ := h.latest f older hfailures (hkeeps.mono (Nat.le_succ _))
    -- the client fails when its lockout is over
    have htime : now = f.time + config.waits (older.length + 1) := by
      refine (hfirst f rfl).unique ?_
      have hfree := f.tracker.isLeast_freeFrom key f.time
      unfold AuthAttemptTracker.freeFrom at hfree
      rw [hafter, Option.bind_some] at hfree
      unfold AuthAttemptConfig.waits
      rcases hanswer : config.answer (older.length + 1) with _ | d
      · rw [hanswer] at hfree
        exact hfree
      · rw [hanswer] at hfree
        rw [Option.getD_some, ← Nat.max_eq_right (Nat.le_add_right f.time d)]
        exact hfree
    obtain ⟨l, hl, hr⟩ := hfound hkeeps (Nat.le_trans hnow (Nat.le_of_eq htime))
    have hrecent : now - f.time ≤ w.tracker.config.failureWindow := by
      rw [h.config_eq, htime, Nat.add_sub_cancel_left]
      exact hkeeps _ (Nat.succ_pos _) (Nat.lt_succ_self _)
    unfold AuthAttemptTracker.failuresAfter
    rw [AuthAttemptTracker.quietReset_of_recent hr hrecent]
    refine ⟨?_, fun hbelow => ?_⟩
    · show min (min (older.length + 1) u32Max + 1) u32Max = min (older.length + 1 + 1) u32Max
      omega
    · have hnone : config.answer (older.length + 1) = none :=
        if_neg (Nat.not_le_of_lt (Nat.lt_of_succ_lt hbelow))
      rw [hnone] at hl
      exact hl.elim id id

/-- A failure of the client keeps the agreement. -/
theorem fail (h : PersistentOk config key w) {now : Instant} (hnow : w.clock ≤ now)
    (hfirst : ∀ f ∈ (w.failures key).head?,
      IsLeast {t | f.time ≤ t ∧ (f.tracker.check key t).1 = .ok ()} now) :
    PersistentOk config key (w.fail key now) := by
  have hhistory : (w.fail key now).failures key =
      ⟨now, (w.tracker.recordFailure key now).1, (w.tracker.recordFailure key now).2⟩ ::
        w.failures key := Function.update_self _ _ _
  have hresult : config.KeepsCount ((w.failures key).length + 1) →
      w.tracker.recordFailure key now = (config.answer ((w.failures key).length + 1),
        { w.tracker with
          records := w.tracker.records.insert key ⟨min ((w.failures key).length + 1) u32Max, now,
            (config.answer ((w.failures key).length + 1)).map (now + ·)⟩ }) := by
    intro hkeeps
    obtain ⟨hcount, hfree⟩ := h.counted hnow hfirst hkeeps
    have hconfig := h.config_eq
    subst hconfig
    exact AuthAttemptTracker.recordFailure_answer hcount hfree
  refine ⟨AuthAttemptTracker.recordFailure_config.trans h.config_eq, fun hnil => ?_,
    fun newer f older heq hkeeps => ?_, fun f older heq hkeeps => ?_⟩
  · rw [hhistory] at hnil
    cases hnil
  · rw [hhistory] at heq
    rcases newer with _ | ⟨f', newer⟩
    · obtain ⟨rfl, rfl⟩ := List.cons.inj heq
      rw [hresult hkeeps]
    · exact h.answers newer f older (List.cons.inj heq).2 hkeeps
  · rw [hhistory] at heq
    obtain ⟨rfl, rfl⟩ := List.cons.inj heq
    have hrecord : (w.tracker.recordFailure key now).2.records.lookup key =
        some ⟨min ((w.failures key).length + 1) u32Max, now,
          (config.answer ((w.failures key).length + 1)).map (now + ·)⟩ := by
      rw [hresult hkeeps]
      exact AList.lookup_insert _
    exact ⟨Nat.le_refl _, hrecord, fun _ _ => ⟨_, .inr rfl, hrecord⟩⟩

/-- Before a persistent client fails the tracker knows nothing of it. -/
theorem init (h : (attemptSystem config).init w) : PersistentOk config key w := by
  obtain ⟨htracker, -, hfailures⟩ := h
  have hnil : w.failures key = [] := by rw [hfailures]
  refine ⟨by rw [htracker]; rfl, fun _ => ?_, fun newer f older heq => ?_, fun f older heq => ?_⟩
  · rw [htracker]
    exact AList.lookup_empty key
  · rw [hnil] at heq
    exact absurd heq.symm (by simp)
  · rw [hnil] at heq
    cases heq

/-- **The step lemma for a persistent client.** -/
theorem step {op : AttemptOp} (h : PersistentOk config key w) (hop : Persistent key w op)
    (hstep : (attemptSystem config).step w op = some w') : PersistentOk config key w' := by
  cases op with
  | check other now =>
    obtain ⟨hnow, hw⟩ := Option.ite_none_right_eq_some.mp hstep
    obtain rfl := Option.some.inj hw
    by_cases hother : key = other
    · subst hother
      exact h.check hnow
    · exact h.frame AuthAttemptTracker.check_config rfl (AuthAttemptTracker.check_other hother) hnow
  | recordFailure other now =>
    obtain ⟨hnow, hw⟩ := Option.ite_none_right_eq_some.mp hstep
    obtain rfl := Option.some.inj hw
    by_cases hother : key = other
    · subst hother
      exact h.fail hnow (hop rfl)
    · exact h.frame AuthAttemptTracker.recordFailure_config (Function.update_of_ne hother _ _)
        (AuthAttemptTracker.recordFailure_other hother) hnow
  | recordSuccess other =>
    obtain rfl := Option.some.inj hstep
    have hother : key ≠ other := Ne.symm hop
    exact h.frame rfl (Function.update_of_ne hother _ _) (AList.lookup_erase_ne hother)
      (Nat.le_refl _)

end PersistentOk

namespace AuthAttemptConfig

variable {config : AuthAttemptConfig} {n : Nat}

/-- A lockout in whole seconds, when base and maximum are at least one second. -/
theorem computeLockout_eq (hbase : nanosPerSec ≤ config.baseLockout)
    (hmax : nanosPerSec ≤ config.maxLockout) (k : Nat) :
    computeLockout config.baseLockout config.maxLockout k =
      .fromSecs (min (config.baseLockout.asSecs * 2 ^ min k 20) config.maxLockout.asSecs) := by
  have hb : 1 ≤ config.baseLockout.asSecs := (Nat.one_le_div_iff (by decide)).mpr hbase
  have hm : 1 ≤ config.maxLockout.asSecs := (Nat.one_le_div_iff (by decide)).mpr hmax
  have hmul : 1 * 1 ≤ config.baseLockout.asSecs * 2 ^ min k 20 :=
    Nat.mul_le_mul hb Nat.one_le_two_pow
  have hle := config.maxLockout_le
  exact congrArg Duration.fromSecs (by omega)

/-- A configuration that escalates keeps the count of a persistent client. -/
theorem EscalatesTo.keepsCount (h : config.EscalatesTo n) (hbase : nanosPerSec ≤ config.baseLockout)
    (hmax : nanosPerSec ≤ config.maxLockout) :
    config.KeepsCount (config.maxFailuresBeforeLockout + n) := by
  intro j hpos hlt
  unfold waits answer
  split_ifs with hover
  · obtain ⟨m, rfl⟩ := Nat.exists_eq_add_of_le hover
    rw [Option.getD_some, computeLockout_eq hbase hmax]
    refine Nat.le_trans (Nat.mul_le_mul_right _ ?_) (h.recent m (Nat.lt_of_add_lt_add_left hlt) hpos)
    have hpow : 2 ^ min (min (config.maxFailuresBeforeLockout + m) u32Max -
        config.maxFailuresBeforeLockout) 20 ≤ 2 ^ m :=
      Nat.pow_le_pow_right (Nat.succ_pos _) (by omega)
    have hmul := Nat.mul_le_mul_left config.baseLockout.asSecs hpow
    omega
  · exact Nat.zero_le _

/-- **A configuration that escalates** answers the `n`-th failure past the threshold with the base
doubled `n` times, up to the maximum. -/
theorem EscalatesTo.answer_eq (h : config.EscalatesTo n)
    (hbase : nanosPerSec ≤ config.baseLockout) (hmax : nanosPerSec ≤ config.maxLockout) :
    config.answer (config.maxFailuresBeforeLockout + n) =
      some (min (config.baseLockout * 2 ^ n) config.maxLockout) := by
  have hle := config.threshold_le
  have hlimit : min (min (config.maxFailuresBeforeLockout + n) u32Max -
      config.maxFailuresBeforeLockout) 20 =
        min n (min 20 (u32Max - config.maxFailuresBeforeLockout)) := by
    omega
  have hfloor : ∀ d : Duration, .fromSecs d.asSecs ≤ d := fun d => Nat.div_mul_le_self d nanosPerSec
  unfold answer
  rw [if_pos (Nat.le_add_right _ _), computeLockout_eq hbase hmax, hlimit]
  refine congrArg some ?_
  rcases h.doubles with ⟨hdvd, hn, hfits⟩ | ⟨hdvd, hcap⟩
  · -- the maximum is not reached
    have hwhole : config.baseLockout.asSecs * nanosPerSec = config.baseLockout :=
      Nat.div_mul_cancel hdvd
    have hsecs : config.baseLockout.asSecs * 2 ^ n * nanosPerSec = config.baseLockout * 2 ^ n := by
      rw [Nat.mul_right_comm, hwhole]
    have hroom : config.baseLockout.asSecs * 2 ^ n ≤ config.maxLockout.asSecs := by
      refine (Nat.le_div_iff_mul_le (by decide)).mpr ?_
      rw [hsecs]
      exact hfits
    rw [← hn, Nat.min_eq_left hroom, Nat.min_eq_left hfits]
    exact hsecs
  · -- the maximum is reached
    have hwhole : config.maxLockout.asSecs * nanosPerSec = config.maxLockout :=
      Nat.div_mul_cancel hdvd
    have hreached : config.maxLockout.asSecs ≤ config.baseLockout.asSecs *
        2 ^ min n (min 20 (u32Max - config.maxFailuresBeforeLockout)) := by
      refine Nat.le_of_mul_le_mul_right (c := nanosPerSec) ?_ (by decide)
      rw [hwhole]
      exact hcap
    have hpow : 2 ^ min n (min 20 (u32Max - config.maxFailuresBeforeLockout)) ≤ 2 ^ n :=
      Nat.pow_le_pow_right (Nat.succ_pos _) (Nat.min_le_left _ _)
    have hbelow : config.maxLockout ≤ config.baseLockout * 2 ^ n :=
      calc config.maxLockout
        _ ≤ config.baseLockout.asSecs *
            2 ^ min n (min 20 (u32Max - config.maxFailuresBeforeLockout)) * nanosPerSec := hcap
        _ ≤ config.baseLockout.asSecs * 2 ^ n * nanosPerSec :=
          Nat.mul_le_mul_right _ (Nat.mul_le_mul_left _ hpow)
        _ = config.baseLockout.asSecs * nanosPerSec * 2 ^ n := Nat.mul_right_comm _ _ _
        _ ≤ config.baseLockout * 2 ^ n := Nat.mul_le_mul_right _ (hfloor _)
    rw [Nat.min_eq_right hreached, Nat.min_eq_right hbelow]
    exact hwhole

end AuthAttemptConfig

/-- Whether a failure comes within the quiet period of the failure before. -/
def soon (w : AttemptWorld) : AttemptOp → Bool
  | .recordFailure key now => (w.tracker.records.lookup key).all fun r =>
      decide (now - r.lastFailure ≤ w.tracker.config.failureWindow)
  | _ => true

/-- Whether an operation is one of a run with a persistent client. -/
def promptly (key : String) (w : AttemptWorld) : AttemptOp → Bool
  | .check _ _ => true
  | .recordFailure other now => decide (other ≠ key) ||
      (w.failures key).head?.all fun f => decide (f.tracker.freeFrom key f.time = now)
  | .recordSuccess other => decide (other ≠ key)

theorem noQuietLock_of_soon (w : AttemptWorld) (op : AttemptOp) (h : soon w op = true) :
    NoQuietLock w op := by
  cases op with
  | check _ _ => trivial
  | recordFailure other now =>
    intro r locked hr _ _
    change (w.tracker.records.lookup other).all _ = true at h
    rw [hr] at h
    exact of_decide_eq_true h
  | recordSuccess _ => trivial

theorem persistent_of_promptly (key : String) (w : AttemptWorld) (op : AttemptOp)
    (h : promptly key w op = true) : Persistent key w op := by
  cases op with
  | check _ _ => trivial
  | recordFailure other now =>
    intro hother f hf
    rcases Bool.or_eq_true_iff.mp h with hne | hall
    · exact absurd hother (of_decide_eq_true hne)
    · rw [show (w.failures key).head? = some f from hf] at hall
      rw [← of_decide_eq_true hall]
      exact f.tracker.isLeast_freeFrom key f.time
  | recordSuccess other => exact of_decide_eq_true (p := other ≠ key) h

/-- The key that fails in the runs below. -/
def demoAttemptKey : String := AuthAttemptTracker.keyIp "::1"

/-- Failures at some seconds. -/
def demoFailures (secs : List Nat) : List AttemptOp :=
  secs.map fun t => .recordFailure demoAttemptKey (Duration.fromSecs t)

/-- A fresh tracker under the default configuration. -/
def demoAttemptWorld : AttemptWorld := ⟨.new .default, 0, fun _ => 0, fun _ => []⟩

theorem demoAttemptWorld_init :
    (attemptSystem .default).init demoAttemptWorld := ⟨rfl, rfl, rfl⟩

/-- A client that fails as soon as it may. -/
def persistentRun : List AttemptOp :=
  demoFailures [0, 0, 0, 0, 0, 2, 6, 14, 30]

end RemoteLink.Server
