import Mathlib.Algebra.Order.Field.Rat
import Mathlib.Data.Nat.Cast.Order.Field
import Mathlib.Tactic.Linarith
import Mathlib.Tactic.NormNum
import Mathlib.Tactic.Ring
import RemoteLink.Library.Duration

set_option autoImplicit false

/-!
# RTP clocks

The RTP timestamp of an instant is the number of whole ticks since the epoch of the session, in 32
bits. Video ticks 90000 times a second and audio 48000 times, from the same epoch.

## Main definitions

* `RtpEpoch.hostMonoToRtp` — the timestamp of an instant.
* `tickCount` — the whole ticks that it is computed from.
* `SerialLe` — the order of timestamps that wrap.

## Main results

* `hostMonoToRtpTs_eq` — the product does not saturate, and the timestamp is the tick count in 32
  bits.
* `rtp_timestamps` — timestamps measure time, in its order, and the two clocks agree.
-/

namespace RemoteLink.Media

open Library

/-! ## The clocks -/

/-- Ticks of the video clock in a second. -/
def videoClockHz : UInt32 := 90000

/-- Ticks of the audio clock in a second. -/
def audioClockHz : UInt32 := 48000

/-- The stream that a clock is for. -/
inductive RtpClockRate where
  | video
  | audio
  deriving Repr, DecidableEq

def RtpClockRate.hz : RtpClockRate → UInt32
  | .video => videoClockHz
  | .audio => audioClockHz

/-- The largest number of 128 bits. -/
def maxU128 : ℕ := 340282366920938463463374607431768211455

/-- The timestamp of an instant: a product that saturates at 128 bits is divided, and the low 32
bits of the quotient are kept. -/
def hostMonoToRtpTs (hostMono t0 : Duration) (clockRateHz : UInt32) : UInt32 :=
  let elapsed := hostMono.saturatingSub t0
  let ticks := min (elapsed.nanos * clockRateHz.toNat) maxU128 / 1000000000
  .ofNat ticks

/-- The epoch of a session: when its media started. -/
structure RtpEpoch where
  t0 : Duration

namespace RtpEpoch

/-- The timestamp of an instant. -/
def hostMonoToRtp (e : RtpEpoch) (hostMono : Duration) (rate : RtpClockRate) : UInt32 :=
  hostMonoToRtpTs hostMono e.t0 rate.hz

def videoTs (e : RtpEpoch) (hostMono : Duration) : UInt32 := e.hostMonoToRtp hostMono .video

def audioTs (e : RtpEpoch) (hostMono : Duration) : UInt32 := e.hostMonoToRtp hostMono .audio

end RtpEpoch

/-! ## Ticks -/

/-- The exact number of ticks in some nanoseconds. -/
def exactTicks (nanos hz : ℕ) : ℚ := nanos * hz / 1000000000

/-- The whole ticks of a clock from the epoch to an instant. -/
def tickCount (e : RtpEpoch) (rate : RtpClockRate) (t : Duration) : ℕ :=
  (t.nanos - e.t0.nanos) * rate.hz.toNat / 1000000000

/-- The order of timestamps that wrap: `b` is at most half of their range after `a`. -/
def SerialLe (a b : UInt32) : Prop := (b - a).toNat < 2147483648

/-- **No product saturates**: the nanoseconds of every duration, times any rate, have 128 bits. -/
theorem product_le (d : Duration) (rate : UInt32) : d.nanos * rate.toNat ≤ maxU128 := by
  calc d.nanos * rate.toNat
    _ ≤ 18446744073709551615999999999 * 4294967295 :=
      Nat.mul_le_mul d.le_max (Nat.le_of_lt_succ rate.toNat_lt)
    _ ≤ maxU128 := by decide

/-- **The timestamp is the tick count, in 32 bits.** -/
theorem hostMonoToRtp_eq (e : RtpEpoch) (rate : RtpClockRate) (t : Duration) :
    e.hostMonoToRtp t rate = .ofNat (tickCount e rate t) := by
  unfold RtpEpoch.hostMonoToRtp hostMonoToRtpTs tickCount
  dsimp only
  rw [min_eq_left (product_le _ _), Duration.nanos_saturatingSub]

/-- Whole ticks are less than a tick short of the exact ones. -/
theorem floor_ticks (nanos hz : ℕ) :
    ((nanos * hz / 1000000000 : ℕ) : ℚ) ≤ exactTicks nanos hz ∧
      exactTicks nanos hz < ((nanos * hz / 1000000000 : ℕ) : ℚ) + 1 := by
  have hdiv := Nat.div_add_mod (nanos * hz) 1000000000
  have hmod := Nat.mod_lt (nanos * hz) (show 0 < 1000000000 by decide)
  have hlow : (nanos * hz / 1000000000) * 1000000000 ≤ nanos * hz := by omega
  have hhigh : nanos * hz < (nanos * hz / 1000000000 + 1) * 1000000000 := by omega
  unfold exactTicks
  constructor
  · rw [le_div_iff₀ (by norm_num)]
    exact_mod_cast hlow
  · rw [div_lt_iff₀ (by norm_num)]
    exact_mod_cast hhigh

/-- The exact ticks between two instants. -/
theorem exactTicks_sub {a b : ℕ} (h : a ≤ b) (hz : ℕ) :
    exactTicks (b - a) hz = exactTicks b hz - exactTicks a hz := by
  unfold exactTicks
  rw [Nat.cast_sub h]
  ring

section

variable {e : RtpEpoch} {rate : RtpClockRate} {t₁ t₂ : Duration}

theorem tickCount_mono (h : t₁ ≤ t₂) : tickCount e rate t₁ ≤ tickCount e rate t₂ := by
  rw [Duration.le_iff] at h
  exact Nat.div_le_div_right (Nat.mul_le_mul_right _ (Nat.sub_le_sub_right h _))

/-- **Tick counts differ by the exact ticks between the instants, to less than a tick.** -/
theorem tickCount_sub (h₁ : e.t0 ≤ t₁) (h : t₁ ≤ t₂) :
    |((tickCount e rate t₂ - tickCount e rate t₁ : ℕ) : ℚ) -
      exactTicks (t₂.nanos - t₁.nanos) rate.hz.toNat| < 1 := by
  rw [Duration.le_iff] at h h₁
  have hsplit : t₂.nanos - t₁.nanos = (t₂.nanos - e.t0.nanos) - (t₁.nanos - e.t0.nanos) := by omega
  rw [hsplit, exactTicks_sub (by omega), Nat.cast_sub (tickCount_mono h)]
  obtain ⟨hlow₁, hhigh₁⟩ := floor_ticks (t₁.nanos - e.t0.nanos) rate.hz.toNat
  obtain ⟨hlow₂, hhigh₂⟩ := floor_ticks (t₂.nanos - e.t0.nanos) rate.hz.toNat
  unfold tickCount
  rw [abs_lt]
  constructor <;> linarith

/-- Timestamps differ as the tick counts do, in 32 bits. -/
theorem timestamp_sub (h : t₁ ≤ t₂) :
    e.hostMonoToRtp t₂ rate - e.hostMonoToRtp t₁ rate =
      .ofNat (tickCount e rate t₂ - tickCount e rate t₁) := by
  rw [hostMonoToRtp_eq, hostMonoToRtp_eq, UInt32.ofNat_sub (tickCount_mono h)]

theorem toNat_ofNat_u32 {n : ℕ} (h : n < 4294967296) : (UInt32.ofNat n).toNat = n := by
  rw [UInt32.toNat_ofNat']
  exact Nat.mod_eq_of_lt h

/-- **Less than half of their range apart, timestamps are in the order of time**, and instants with
the other order have the same timestamp. -/
theorem serialLe_of_lt (h : t₁ ≤ t₂)
    (hapart : tickCount e rate t₂ - tickCount e rate t₁ < 2147483648) :
    SerialLe (e.hostMonoToRtp t₁ rate) (e.hostMonoToRtp t₂ rate) ∧
      (SerialLe (e.hostMonoToRtp t₂ rate) (e.hostMonoToRtp t₁ rate) →
        tickCount e rate t₁ = tickCount e rate t₂) := by
  have hle : tickCount e rate t₁ ≤ tickCount e rate t₂ := tickCount_mono h
  have hsub : (e.hostMonoToRtp t₂ rate - e.hostMonoToRtp t₁ rate).toNat =
      tickCount e rate t₂ - tickCount e rate t₁ := by
    rw [timestamp_sub h, toNat_ofNat_u32 (by omega)]
  refine ⟨by unfold SerialLe; omega, fun hback => ?_⟩
  unfold SerialLe at hback
  have hneg : (e.hostMonoToRtp t₁ rate - e.hostMonoToRtp t₂ rate).toNat =
      (4294967296 - (e.hostMonoToRtp t₂ rate - e.hostMonoToRtp t₁ rate).toNat) % 4294967296 := by
    rw [← UInt32.neg_sub, UInt32.toNat_neg]
  omega

/-- The seconds that ticks of a clock stand for. -/
def tickSeconds (count hz : ℕ) : ℚ := count / hz

/-- **A tick count denotes its instant to less than a tick of its clock.** -/
theorem tickSeconds_bounds (e : RtpEpoch) (rate : RtpClockRate) (t : Duration) :
    tickSeconds (tickCount e rate t) rate.hz.toNat ≤
        ((t.nanos - e.t0.nanos : ℕ) : ℚ) / 1000000000 ∧
      ((t.nanos - e.t0.nanos : ℕ) : ℚ) / 1000000000 <
        tickSeconds (tickCount e rate t) rate.hz.toNat + 1 / rate.hz.toNat := by
  have hpos : (0 : ℚ) < rate.hz.toNat := by
    cases rate with
    | video => exact Nat.cast_pos.mpr (by decide)
    | audio => exact Nat.cast_pos.mpr (by decide)
  obtain ⟨hlow, hhigh⟩ := floor_ticks (t.nanos - e.t0.nanos) rate.hz.toNat
  unfold tickSeconds tickCount
  unfold exactTicks at hlow hhigh
  constructor
  · rw [div_le_iff₀ hpos]
    linarith
  · rw [← add_div, lt_div_iff₀ hpos]
    linarith

end

/-- **What the timestamps of a clock say about two instants.** -/
structure RtpTimed (e : RtpEpoch) (rate : RtpClockRate) (t₁ t₂ : Duration) : Prop where
  /-- The product of the mapping does not saturate. -/
  unsaturated : ∀ t : Duration, (t.saturatingSub e.t0).nanos * rate.hz.toNat ≤ maxU128
  /-- The timestamps differ, modulo `2 ^ 32`, by a number of ticks that is less than one off, and
  while that is less than `2 ^ 31` they are in the order of time: backwards only if equal. -/
  differ : ∃ apart : ℕ,
    e.hostMonoToRtp t₂ rate - e.hostMonoToRtp t₁ rate = .ofNat apart ∧
      |(apart : ℚ) - exactTicks (t₂.nanos - t₁.nanos) rate.hz.toNat| < 1 ∧
      (apart < 2147483648 →
        SerialLe (e.hostMonoToRtp t₁ rate) (e.hostMonoToRtp t₂ rate) ∧
          (SerialLe (e.hostMonoToRtp t₂ rate) (e.hostMonoToRtp t₁ rate) →
            e.hostMonoToRtp t₁ rate = e.hostMonoToRtp t₂ rate))

/-- **Video and audio timestamps of an instant** denote it to less than a tick of each clock. -/
structure SameInstant (e : RtpEpoch) (t : Duration) : Prop where
  counts : ∃ video audio : ℕ, e.videoTs t = .ofNat video ∧ e.audioTs t = .ofNat audio ∧
    (tickSeconds video 90000 ≤ ((t.nanos - e.t0.nanos : ℕ) : ℚ) / 1000000000 ∧
      ((t.nanos - e.t0.nanos : ℕ) : ℚ) / 1000000000 < tickSeconds video 90000 + 1 / 90000) ∧
    (tickSeconds audio 48000 ≤ ((t.nanos - e.t0.nanos : ℕ) : ℚ) / 1000000000 ∧
      ((t.nanos - e.t0.nanos : ℕ) : ℚ) / 1000000000 < tickSeconds audio 48000 + 1 / 48000) ∧
    tickSeconds video 90000 - tickSeconds audio 48000 < 1 / 48000 ∧
    tickSeconds audio 48000 - tickSeconds video 90000 < 1 / 90000

/-- **Timestamps measure time**, from any epoch: they differ by the ticks that have passed, to less
than a tick, wrap in the order of time, and the two clocks agree. -/
theorem rtp_timestamps {e : RtpEpoch} {t₁ t₂ : Duration} (h₁ : e.t0 ≤ t₁) (h : t₁ ≤ t₂) :
    (∀ rate, RtpTimed e rate t₁ t₂) ∧ SameInstant e t₁ := by
  have hvideo := tickSeconds_bounds e .video t₁
  have haudio := tickSeconds_bounds e .audio t₁
  rw [show RtpClockRate.video.hz.toNat = 90000 from rfl, Nat.cast_ofNat] at hvideo
  rw [show RtpClockRate.audio.hz.toNat = 48000 from rfl, Nat.cast_ofNat] at haudio
  refine ⟨fun rate => ⟨fun t => product_le _ _, ?_⟩, ⟨_, _, hostMonoToRtp_eq e .video t₁,
    hostMonoToRtp_eq e .audio t₁, hvideo, haudio, ?_, ?_⟩⟩
  · refine ⟨_, timestamp_sub h, tickCount_sub h₁ h, fun hapart => ?_⟩
    obtain ⟨hforward, hback⟩ := serialLe_of_lt h hapart
    refine ⟨hforward, fun hle => ?_⟩
    rw [hostMonoToRtp_eq, hostMonoToRtp_eq, hback hle]
  · linarith [hvideo.1, haudio.2]
  · linarith [hvideo.2, haudio.1]

/-- Two instants on both sides of the wrap of the video clock. -/
theorem rtp_timestamps_wrap :
    (∀ rate, RtpTimed ⟨.zero⟩ rate (.fromSecs 47721) (.fromSecs 47722)) ∧
      SameInstant ⟨.zero⟩ (.fromSecs 47721) :=
  rtp_timestamps (by decide) (by decide)

end RemoteLink.Media
