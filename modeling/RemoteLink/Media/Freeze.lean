import Mathlib.Algebra.Order.Floor.Ring
import Mathlib.Data.Rat.Floor
import Mathlib.Tactic.Linarith
import RemoteLink.Library.Duration
import RemoteLink.Library.Runs
import RemoteLink.Media.SkewController

set_option autoImplicit false

/-!
# Audio while the video is frozen

While the picture stands still, the last audio is held, faded to silence or ducked. Here gains are
rational numbers instead of floating-point numbers.

## Main definitions

* `FreezeConfig`, `FreezePolicy` — the policy, with `onVideoFrame`, `tick` and `applyGain`.
* `fadeGain` — the gain as a function of the time since the last frame.
* `freezeSystem` — frames and ticks at times that do not decrease.

## Main results

* `tick_gain` — a tick depends on the time since the last frame, not on the ticks before it.
* `freeze_fades` — from one frame to the next the sound only fades, no faster than configured, and
  is silent exactly when hold and fade are over.
-/

namespace RemoteLink.Media

open Library

/-! ## The policy -/

/-- What becomes of audio while the video is frozen. -/
inductive AudioOnVideoFreeze where
  | holdFade
  | duck
  | continue
  deriving Repr, DecidableEq

/-- The configuration of the policy. -/
structure FreezeConfig where
  freezeThreshold : Duration
  holdDuration : Duration
  fadeDuration : Duration
  mode : AudioOnVideoFreeze
  duckQ15 : Int16

/-- Freeze after 200 ms, hold for 100 ms, fade for 100 ms. -/
def FreezeConfig.default : FreezeConfig where
  freezeThreshold := .fromMillis 200
  holdDuration := .fromMillis 100
  fadeDuration := .fromMillis 100
  mode := .holdFade
  duckQ15 := 8192

/-- The state of the policy. -/
inductive FreezeState where
  | normal
  | holding (elapsed : Duration)
  | fading (elapsed : Duration)
  | silent
  | ducked
  deriving DecidableEq

/-- What is to be done with the audio of now. -/
structure FreezeOutput where
  state : FreezeState
  gain : ℚ
  holdLastAudio : Bool
  deriving DecidableEq

/-- The policy, with the time of the last frame. -/
structure FreezePolicy where
  cfg : FreezeConfig
  state : FreezeState
  lastVideoPts : Option Duration

/-- Audio as it is. -/
def FreezeOutput.normal : FreezeOutput := ⟨.normal, 1, false⟩

/-- A duration in seconds. -/
def asSecs (d : Duration) : ℚ := d.nanos / 1000000000

namespace FreezePolicy

def new (cfg : FreezeConfig) : FreezePolicy := ⟨cfg, .normal, none⟩

/-- A frame is presented. -/
def onVideoFrame (p : FreezePolicy) (now : Duration) : FreezePolicy :=
  { p with lastVideoPts := some now, state := .normal }

/-- The output for the time `now`, without a frame since the last one. -/
def tick (p : FreezePolicy) (now : Duration) : FreezeOutput × FreezePolicy :=
  if p.cfg.mode = .continue then (.normal, p)
  else
    match p.lastVideoPts with
    | none => (.normal, p)
    | some last =>
      let frozenFor := now.saturatingSub last
      if frozenFor ≤ p.cfg.freezeThreshold then (.normal, { p with state := .normal })
      else
        let sinceFreeze := frozenFor.saturatingSub p.cfg.freezeThreshold
        match p.cfg.mode with
        | .continue => (.normal, p)
        | .duck =>
          (⟨.ducked, p.cfg.duckQ15.toInt / 32768, false⟩, { p with state := .ducked })
        | .holdFade =>
          if sinceFreeze < p.cfg.holdDuration then
            (⟨.holding sinceFreeze, 1, true⟩, { p with state := .holding sinceFreeze })
          else
            let fadeElapsed := sinceFreeze.saturatingSub p.cfg.holdDuration
            if fadeElapsed < p.cfg.fadeDuration then
              let t := asSecs fadeElapsed / max (asSecs p.cfg.fadeDuration) (1 / 1000000000)
              (⟨.fading fadeElapsed, clampRat (1 - t) 0 1, true⟩,
                { p with state := .fading fadeElapsed })
            else (⟨.silent, 0, false⟩, { p with state := .silent })

end FreezePolicy

/-- Rounding half away from zero. -/
def roundAway (x : ℚ) : ℤ := if 0 ≤ x then ⌊x + 1 / 2⌋ else -⌊-x + 1 / 2⌋

/-- A sample times a gain. -/
def scaleSample (g : ℚ) (s : Int16) : Int16 :=
  Int16.ofInt (max (-32768) (min 32767 (roundAway (s.toInt * g))))

/-- Apply a gain to samples. -/
def applyGain (pcm : List Int16) (gain : ℚ) : List Int16 :=
  let g := clampRat gain 0 1
  if |g - 1| < 1 / 1000000000000 then pcm
  else if g ≤ 0 then pcm.map fun _ => 0
  else pcm.map (scaleSample g)

/-! ## The gain as a function of the time since the last frame -/

/-- The gain of a fade, `gap` nanoseconds after the last frame. -/
def fadeGain (cfg : FreezeConfig) (gap : ℕ) : ℚ :=
  let start := cfg.freezeThreshold.nanos + cfg.holdDuration.nanos
  if cfg.fadeDuration.nanos = 0 then
    if cfg.freezeThreshold.nanos < gap ∧ start ≤ gap then 0 else 1
  else 1 - (min (gap - start) cfg.fadeDuration.nanos : ℕ) / cfg.fadeDuration.nanos

/-- The gain of any mode. -/
def freezeGain (cfg : FreezeConfig) (gap : ℕ) : ℚ :=
  match cfg.mode with
  | .continue => 1
  | .duck => if gap ≤ cfg.freezeThreshold.nanos then 1 else cfg.duckQ15.toInt / 32768
  | .holdFade => fadeGain cfg gap

/-- How far a freeze has gone. -/
def FreezeState.rank : FreezeState → ℕ
  | normal => 0
  | holding _ => 1
  | ducked => 1
  | fading _ => 2
  | silent => 3

/-- How far a freeze is `gap` nanoseconds after the last frame. -/
def freezeRank (cfg : FreezeConfig) (gap : ℕ) : ℕ :=
  if gap ≤ cfg.freezeThreshold.nanos then 0
  else
    match cfg.mode with
    | .continue => 0
    | .duck => 1
    | .holdFade =>
      if gap < cfg.freezeThreshold.nanos + cfg.holdDuration.nanos then 1
      else if gap < cfg.freezeThreshold.nanos + cfg.holdDuration.nanos + cfg.fadeDuration.nanos
        then 2
      else 3

section Gain

variable {cfg : FreezeConfig} {p : FreezePolicy} {now last : Duration}

/-- The part of a fade that is over, as the policy computes it. -/
theorem fade_fraction {elapsed fade : Duration} (h : elapsed < fade) :
    clampRat (1 - asSecs elapsed / max (asSecs fade) (1 / 1000000000)) 0 1 =
      1 - (elapsed.nanos : ℚ) / fade.nanos := by
  have hlt : elapsed.nanos < fade.nanos := h
  have hpos : (1 : ℚ) ≤ fade.nanos := by exact_mod_cast (by omega : 1 ≤ fade.nanos)
  have hmax : max (asSecs fade) (1 / 1000000000) = asSecs fade := by
    refine max_eq_left ?_
    rw [asSecs]
    exact div_le_div_of_nonneg_right hpos (by norm_num)
  have hfraction : asSecs elapsed / asSecs fade = (elapsed.nanos : ℚ) / fade.nanos := by
    rw [asSecs, asSecs]
    exact div_div_div_cancel_right₀ (by norm_num) _ _
  have hnonneg : (0 : ℚ) ≤ (elapsed.nanos : ℚ) / fade.nanos := by positivity
  have hle : (elapsed.nanos : ℚ) / fade.nanos ≤ 1 := by
    rw [div_le_one (by linarith)]
    exact_mod_cast hlt.le
  rw [hmax, hfraction, clampRat, if_neg (by linarith), if_neg (by linarith)]

/-- **A tick depends on the time since the last frame**, and not on the ticks before it. -/
theorem tick_gain (hlast : p.lastVideoPts = some last) :
    (p.tick now).1.gain = freezeGain p.cfg (now.nanos - last.nanos) ∧
      (p.tick now).1.state.rank = freezeRank p.cfg (now.nanos - last.nanos) := by
  rw [FreezePolicy.tick, hlast]
  simp only [freezeGain, freezeRank, Duration.le_iff, Duration.lt_iff,
    Duration.nanos_saturatingSub]
  cases hmode : p.cfg.mode with
  | «continue» =>
    rw [if_pos rfl]
    refine ⟨rfl, ?_⟩
    split_ifs <;> rfl
  | duck =>
    rw [if_neg (by decide)]
    by_cases hgap : now.nanos - last.nanos ≤ p.cfg.freezeThreshold.nanos
    · rw [if_pos hgap, if_pos hgap, if_pos hgap]
      exact ⟨rfl, rfl⟩
    · rw [if_neg hgap, if_neg hgap, if_neg hgap]
      exact ⟨rfl, rfl⟩
  | holdFade =>
    rw [if_neg (by decide), fadeGain]
    dsimp only
    by_cases hgap : now.nanos - last.nanos ≤ p.cfg.freezeThreshold.nanos
    · rw [if_pos hgap, if_pos hgap]
      refine ⟨?_, rfl⟩
      split_ifs with hzero hover
      · omega
      · rfl
      · rw [Nat.sub_eq_zero_of_le (by omega), Nat.zero_min, Nat.cast_zero, zero_div, sub_zero]
        rfl
    rw [if_neg hgap, if_neg hgap]
    by_cases hhold : now.nanos - last.nanos - p.cfg.freezeThreshold.nanos <
        p.cfg.holdDuration.nanos
    · have hstart : now.nanos - last.nanos <
          p.cfg.freezeThreshold.nanos + p.cfg.holdDuration.nanos := by omega
      rw [if_pos hhold, if_pos hstart]
      refine ⟨?_, rfl⟩
      split_ifs with hzero hover
      · omega
      · rfl
      · rw [Nat.sub_eq_zero_of_le (by omega), Nat.zero_min, Nat.cast_zero, zero_div, sub_zero]
    have hstart : ¬now.nanos - last.nanos <
        p.cfg.freezeThreshold.nanos + p.cfg.holdDuration.nanos := by omega
    rw [if_neg hhold, if_neg hstart]
    by_cases hfade : now.nanos - last.nanos - p.cfg.freezeThreshold.nanos -
        p.cfg.holdDuration.nanos < p.cfg.fadeDuration.nanos
    · have hend : now.nanos - last.nanos < p.cfg.freezeThreshold.nanos +
          p.cfg.holdDuration.nanos + p.cfg.fadeDuration.nanos := by omega
      rw [if_pos hfade, if_pos hend]
      refine ⟨?_, rfl⟩
      dsimp only
      rw [fade_fraction hfade, if_neg (by omega), min_eq_left (by omega)]
      simp only [Duration.nanos_saturatingSub]
      rw [Nat.sub_sub]
    · have hend : ¬now.nanos - last.nanos < p.cfg.freezeThreshold.nanos +
          p.cfg.holdDuration.nanos + p.cfg.fadeDuration.nanos := by omega
      rw [if_neg hfade, if_neg hend]
      refine ⟨?_, rfl⟩
      split_ifs with hzero hover
      · rfl
      · omega
      · have hpos : (p.cfg.fadeDuration.nanos : ℚ) ≠ 0 := by exact_mod_cast hzero
        rw [min_eq_right (by omega), div_self hpos, sub_self]

/-- A fade only falls, and no faster than over its duration. -/
theorem fadeGain_falls {m n : ℕ} (h : m ≤ n) : fadeGain cfg n ≤ fadeGain cfg m ∧
    (cfg.fadeDuration.nanos ≠ 0 →
      fadeGain cfg m - fadeGain cfg n ≤ ((n - m : ℕ) : ℚ) / cfg.fadeDuration.nanos) := by
  simp only [fadeGain]
  by_cases hzero : cfg.fadeDuration.nanos = 0
  · rw [if_pos hzero, if_pos hzero]
    refine ⟨?_, fun hfade => absurd hzero hfade⟩
    split_ifs with hover hover'
    · exact le_rfl
    · norm_num
    · omega
    · exact le_rfl
  · have hpos : (0 : ℚ) < cfg.fadeDuration.nanos := by exact_mod_cast Nat.pos_of_ne_zero hzero
    rw [if_neg hzero, if_neg hzero]
    generalize cfg.freezeThreshold.nanos + cfg.holdDuration.nanos = start
    have hover : min (m - start) cfg.fadeDuration.nanos ≤
        min (n - start) cfg.fadeDuration.nanos := by omega
    have hslow : min (n - start) cfg.fadeDuration.nanos ≤
        min (m - start) cfg.fadeDuration.nanos + (n - m) := by omega
    have hover' : (min (m - start) cfg.fadeDuration.nanos : ℕ) / (cfg.fadeDuration.nanos : ℚ) ≤
        (min (n - start) cfg.fadeDuration.nanos : ℕ) / cfg.fadeDuration.nanos :=
      div_le_div_of_nonneg_right (by exact_mod_cast hover) hpos.le
    have hslow' : (min (n - start) cfg.fadeDuration.nanos : ℕ) / (cfg.fadeDuration.nanos : ℚ) ≤
        (min (m - start) cfg.fadeDuration.nanos : ℕ) / cfg.fadeDuration.nanos +
          ((n - m : ℕ) : ℚ) / cfg.fadeDuration.nanos := by
      rw [← add_div]
      exact div_le_div_of_nonneg_right (by exact_mod_cast hslow) hpos.le
    exact ⟨by linarith, fun _ => by linarith⟩

/-- A fade is over when hold and fade are. -/
theorem fadeGain_eq_zero_iff {gap : ℕ} : fadeGain cfg gap = 0 ↔ cfg.freezeThreshold.nanos < gap ∧
    cfg.freezeThreshold.nanos + cfg.holdDuration.nanos + cfg.fadeDuration.nanos ≤ gap := by
  simp only [fadeGain]
  by_cases hzero : cfg.fadeDuration.nanos = 0
  · rw [if_pos hzero, hzero, Nat.add_zero]
    split_ifs with hover
    · exact ⟨fun _ => hover, fun _ => rfl⟩
    · exact ⟨fun h => absurd h one_ne_zero, fun h => absurd h hover⟩
  · have hpos : (0 : ℚ) < cfg.fadeDuration.nanos := by exact_mod_cast Nat.pos_of_ne_zero hzero
    rw [if_neg hzero, sub_eq_zero, eq_comm, div_eq_one_iff_eq hpos.ne', Nat.cast_inj]
    omega

/-- Ducked audio is not louder. -/
theorem duck_le_one (q : Int16) : (q.toInt : ℚ) / 32768 ≤ 1 := by
  have hlt : q.toInt < 32768 := q.toInt_lt
  rw [div_le_one (by norm_num)]
  exact_mod_cast hlt.le

/-- **The longer a freeze lasts, the fainter the audio.** -/
theorem freezeGain_antitone (cfg : FreezeConfig) : Antitone (freezeGain cfg) := by
  intro m n h
  simp only [freezeGain]
  cases cfg.mode with
  | «continue» => exact le_rfl
  | duck =>
    dsimp only
    split_ifs with hn hm
    · exact le_rfl
    · omega
    · exact duck_le_one _
    · exact le_rfl
  | holdFade => exact (fadeGain_falls h).1

theorem freezeRank_monotone (cfg : FreezeConfig) : Monotone (freezeRank cfg) := by
  intro m n h
  simp only [freezeRank]
  cases cfg.mode with
  | «continue» =>
    dsimp only
    split_ifs <;> omega
  | duck =>
    dsimp only
    split_ifs <;> omega
  | holdFade =>
    dsimp only
    split_ifs <;> omega

/-- A gain is never above one. -/
theorem freezeGain_le_one (cfg : FreezeConfig) (gap : ℕ) : freezeGain cfg gap ≤ 1 := by
  have hstart : freezeGain cfg 0 ≤ 1 := by
    simp only [freezeGain]
    cases cfg.mode with
    | «continue» => exact le_rfl
    | duck =>
      dsimp only
      rw [if_pos (Nat.zero_le _)]
    | holdFade =>
      dsimp only
      rw [fadeGain]
      split_ifs with hzero hover
      · exact zero_le_one
      · exact le_rfl
      · exact sub_le_self _ (by positivity)
  exact (freezeGain_antitone cfg (Nat.zero_le gap)).trans hstart

end Gain

/-! ## Samples -/

/-- What becomes of a sample under a gain. -/
def gainSample (gain : ℚ) (s : Int16) : Int16 :=
  let g := clampRat gain 0 1
  if |g - 1| < 1 / 1000000000000 then s else if g ≤ 0 then 0 else scaleSample g s

theorem applyGain_eq_map (pcm : List Int16) (gain : ℚ) :
    applyGain pcm gain = pcm.map (gainSample gain) := by
  rw [applyGain]
  by_cases hone : |clampRat gain 0 1 - 1| < 1 / 1000000000000
  · have hid : gainSample gain = id := funext fun s => if_pos hone
    rw [hid, List.map_id]
    exact if_pos hone
  · have helse : gainSample gain = fun s =>
        if clampRat gain 0 1 ≤ 0 then 0 else scaleSample (clampRat gain 0 1) s :=
      funext fun s => if_neg hone
    rw [helse, if_neg hone]
    by_cases hzero : clampRat gain 0 1 ≤ 0
    · simp only [if_pos hzero]
    · simp only [if_neg hzero]

theorem abs_roundAway (x : ℚ) : |roundAway x| = ⌊|x| + 1 / 2⌋ := by
  have hnonneg : ∀ y : ℚ, 0 ≤ y → 0 ≤ ⌊y + 1 / 2⌋ := fun y hy => Int.floor_nonneg.mpr (by linarith)
  rw [roundAway]
  split_ifs with hx
  · rw [abs_of_nonneg hx, abs_of_nonneg (hnonneg x hx)]
  · rw [abs_of_neg (not_le.mp hx), abs_neg, abs_of_nonneg (hnonneg _ (by linarith))]

/-- A whole number is rounded to itself. -/
theorem floor_add_half (n : ℤ) : ⌊(n : ℚ) + 1 / 2⌋ = n := by
  rw [Int.floor_intCast_add]
  norm_num

/-- A scaled sample needs no clamping. -/
theorem toInt_scaleSample {g : ℚ} (hg : 0 ≤ g) (hle : g ≤ 1) (s : Int16) :
    (scaleSample g s).toInt = roundAway (s.toInt * g) ∧
      |roundAway (s.toInt * g)| ≤ |s.toInt| := by
  have habs : |roundAway (s.toInt * g)| ≤ |s.toInt| := by
    have hprod : |(s.toInt : ℚ) * g| ≤ ((|s.toInt| : ℤ) : ℚ) := by
      rw [abs_mul, abs_of_nonneg hg, Int.cast_abs]
      exact mul_le_of_le_one_right (abs_nonneg _) hle
    calc |roundAway (s.toInt * g)| = ⌊|(s.toInt : ℚ) * g| + 1 / 2⌋ := abs_roundAway _
      _ ≤ ⌊((|s.toInt| : ℤ) : ℚ) + 1 / 2⌋ := Int.floor_le_floor (by linarith)
      _ = |s.toInt| := floor_add_half _
  have hsign : 0 ≤ s.toInt ∨ roundAway (s.toInt * g) ≤ 0 := by
    rcases le_or_gt 0 s.toInt with h | h
    · exact .inl h
    · refine .inr ?_
      have hnonpos : (s.toInt : ℚ) * g ≤ 0 :=
        mul_nonpos_of_nonpos_of_nonneg (by exact_mod_cast h.le) hg
      rw [roundAway]
      split_ifs with hzero
      · rw [le_antisymm hnonpos hzero]
        norm_num
      · have hfloor : 0 ≤ ⌊-((s.toInt : ℚ) * g) + 1 / 2⌋ := Int.floor_nonneg.mpr (by linarith)
        omega
  have hlow : -32768 ≤ s.toInt := s.le_toInt
  have hhigh : s.toInt < 32768 := s.toInt_lt
  refine ⟨?_, habs⟩
  have hbounds := abs_le.mp habs
  have hsize : |s.toInt| ≤ 32768 := abs_le.mpr ⟨hlow, hhigh.le⟩
  have hin : -32768 ≤ roundAway (s.toInt * g) ∧ roundAway (s.toInt * g) ≤ 32767 := by
    rcases hsign with h | h
    · rw [abs_of_nonneg h] at hbounds
      omega
    · omega
  rw [scaleSample, min_eq_right hin.2, max_eq_right hin.1]
  exact Int16.toInt_ofInt_of_le hin.1 (by omega)

/-- A gain within its bounds. -/
theorem clampRat_unit (gain : ℚ) : 0 ≤ clampRat gain 0 1 ∧ clampRat gain 0 1 ≤ 1 :=
  clampRat_bounds zero_le_one

theorem clampRat_mono {x y : ℚ} (h : x ≤ y) : clampRat x 0 1 ≤ clampRat y 0 1 := by
  simp only [clampRat]
  split_ifs <;> linarith

/-- **A fainter gain makes no sample louder**, and no gain makes a sample louder than it is. -/
theorem gainSample_antitone {x y : ℚ} (h : x ≤ y) (s : Int16) :
    |(gainSample x s).toInt| ≤ |(gainSample y s).toInt| ∧
      |(gainSample y s).toInt| ≤ |s.toInt| := by
  have hself : ∀ z : ℚ, |(gainSample z s).toInt| ≤ |s.toInt| := by
    intro z
    obtain ⟨hnonneg, hle⟩ := clampRat_unit z
    obtain ⟨hvalue, habs⟩ := toInt_scaleSample hnonneg hle s
    rw [gainSample]
    split_ifs
    · exact le_rfl
    · exact (abs_nonneg _).trans' (by decide)
    · rw [hvalue]
      exact habs
  refine ⟨?_, hself y⟩
  obtain ⟨hx, hx'⟩ := clampRat_unit x
  obtain ⟨hy, hy'⟩ := clampRat_unit y
  have hxy := clampRat_mono h
  rw [gainSample, gainSample]
  by_cases hyone : |clampRat y 0 1 - 1| < 1 / 1000000000000
  · rw [if_pos hyone]
    exact hself x
  · have hyone' : ¬|clampRat x 0 1 - 1| < 1 / 1000000000000 := by
      rw [abs_of_nonpos (by linarith)] at hyone ⊢
      linarith
    rw [if_neg hyone, if_neg hyone']
    by_cases hxzero : clampRat x 0 1 ≤ 0
    · rw [if_pos hxzero]
      exact (abs_nonneg _).trans' (by decide)
    · rw [if_neg hxzero, if_neg (by linarith), (toInt_scaleSample hx hx' s).1,
        (toInt_scaleSample hy hy' s).1, abs_roundAway, abs_roundAway, abs_mul, abs_mul,
        abs_of_nonneg hx, abs_of_nonneg hy]
      refine Int.floor_le_floor ?_
      have hmul := mul_le_mul_of_nonneg_left hxy (abs_nonneg (s.toInt : ℚ))
      linarith

/-! ## Runs -/

/-- The policy, the time, and the outputs since the last frame with their times, newest first. -/
structure FreezeWorld where
  policy : FreezePolicy
  clock : Duration
  reports : List (Duration × FreezeOutput)

/-- A frame is presented, or the policy is asked. -/
inductive FreezeEvent where
  | frame (now : Duration)
  | tick (now : Duration)

/-- Frames and ticks in any order, at times that do not decrease. -/
def freezeSystem (cfg : FreezeConfig) : System FreezeWorld FreezeEvent where
  init w := w.policy = .new cfg ∧ w.reports = []
  step w
    | .frame now =>
      if w.clock ≤ now then some ⟨w.policy.onVideoFrame now, now, []⟩ else none
    | .tick now =>
      if w.clock ≤ now then
        some ⟨(w.policy.tick now).2, now, (now, (w.policy.tick now).1) :: w.reports⟩
      else none

/-- The gain at a time; before the first frame audio is as it is. -/
def gainSince (cfg : FreezeConfig) (last : Option Duration) (now : Duration) : ℚ :=
  last.elim 1 fun last => freezeGain cfg (now.nanos - last.nanos)

/-- How far a freeze is at a time. -/
def rankSince (cfg : FreezeConfig) (last : Option Duration) (now : Duration) : ℕ :=
  last.elim 0 fun last => freezeRank cfg (now.nanos - last.nanos)

/-- **The invariant**: the outputs are in order, and what the time since the last frame makes them;
the state of the policy is that of the newest. -/
structure FreezeOk (cfg : FreezeConfig) (w : FreezeWorld) : Prop where
  configured : w.policy.cfg = cfg
  past : ∀ r ∈ w.reports, r.1 ≤ w.clock
  since : ∀ last, w.policy.lastVideoPts = some last → ∀ r ∈ w.reports, last ≤ r.1
  started : ∀ last, w.policy.lastVideoPts = some last → last ≤ w.clock
  order : w.reports.Pairwise fun new old => old.1 ≤ new.1
  gains : ∀ r ∈ w.reports, r.2.gain = gainSince cfg w.policy.lastVideoPts r.1 ∧
    r.2.state.rank = rankSince cfg w.policy.lastVideoPts r.1
  state : w.policy.state = (w.reports.head?.map fun r => r.2.state).getD .normal
  idle : cfg.mode = .continue ∨ w.policy.lastVideoPts = none → w.policy.state = .normal

section Runs

variable {cfg : FreezeConfig} {w w' : FreezeWorld} {p : FreezePolicy} {now : Duration}

/-- A tick keeps the configuration and the last frame. -/
theorem tick_kept (p : FreezePolicy) (now : Duration) :
    (p.tick now).2.cfg = p.cfg ∧ (p.tick now).2.lastVideoPts = p.lastVideoPts := by
  rw [FreezePolicy.tick]
  cases hlast : p.lastVideoPts with
  | none => split_ifs <;> exact ⟨rfl, hlast⟩
  | some last =>
    dsimp only
    cases hmode : p.cfg.mode with
    | «continue» =>
      rw [if_pos rfl]
      exact ⟨rfl, hlast⟩
    | duck =>
      rw [if_neg (by decide)]
      split_ifs <;> exact ⟨rfl, rfl⟩
    | holdFade =>
      rw [if_neg (by decide)]
      split_ifs <;> exact ⟨rfl, rfl⟩

/-- The state after a tick is the one that it reports. -/
theorem tick_state (now : Duration)
    (h : p.cfg.mode = .continue ∨ p.lastVideoPts = none → p.state = .normal) :
    (p.tick now).2.state = (p.tick now).1.state ∧
      (p.cfg.mode = .continue ∨ p.lastVideoPts = none → (p.tick now).2.state = .normal) := by
  by_cases hidle : p.cfg.mode = .continue ∨ p.lastVideoPts = none
  · have hstays : p.tick now = (.normal, p) := by
      rw [FreezePolicy.tick]
      split_ifs with hmode
      · rfl
      · rw [hidle.resolve_left hmode]
    rw [hstays]
    exact ⟨h hidle, h⟩
  · refine ⟨?_, fun hcontra => absurd hcontra hidle⟩
    obtain ⟨hmode, hlast⟩ := not_or.mp hidle
    obtain ⟨last, hlast⟩ := Option.ne_none_iff_exists'.mp hlast
    rw [FreezePolicy.tick, if_neg hmode, hlast]
    dsimp only
    cases hm : p.cfg.mode with
    | «continue» => exact absurd hm hmode
    | duck => split_ifs <;> rfl
    | holdFade => split_ifs <;> rfl

/-- What a tick reports. -/
theorem tick_since (p : FreezePolicy) (now : Duration) :
    (p.tick now).1.gain = gainSince p.cfg p.lastVideoPts now ∧
      (p.tick now).1.state.rank = rankSince p.cfg p.lastVideoPts now := by
  cases hlast : p.lastVideoPts with
  | none =>
    have hnormal : (p.tick now).1 = .normal := by
      rw [FreezePolicy.tick, hlast]
      split_ifs <;> rfl
    rw [hnormal]
    exact ⟨rfl, rfl⟩
  | some last => exact tick_gain hlast

/-- **The step lemma.** -/
theorem FreezeOk.step (h : FreezeOk cfg w) {e : FreezeEvent}
    (hstep : (freezeSystem cfg).step w e = some w') : FreezeOk cfg w' := by
  cases e with
  | frame now =>
    obtain ⟨-, hw⟩ := Option.ite_none_right_eq_some.mp hstep
    obtain rfl := Option.some.inj hw
    refine ⟨h.configured, ?_, ?_, ?_, List.Pairwise.nil, ?_, rfl, fun _ => rfl⟩
    · exact fun _ hr => absurd hr List.not_mem_nil
    · exact fun _ _ _ hr => absurd hr List.not_mem_nil
    · rintro last hlast
      obtain rfl := Option.some.inj hlast
      exact le_rfl
    · exact fun _ hr => absurd hr List.not_mem_nil
  | tick now =>
    obtain ⟨hclock, hw⟩ := Option.ite_none_right_eq_some.mp hstep
    obtain rfl := Option.some.inj hw
    obtain ⟨hcfg, hlast⟩ := tick_kept w.policy now
    obtain ⟨hstate, hidle⟩ := tick_state now (h.configured.symm ▸ h.idle)
    have hsince := tick_since w.policy now
    rw [h.configured] at hsince hidle
    refine ⟨hcfg.trans h.configured, fun r hr => ?_, fun last hl r hr => ?_, fun last hl => ?_, ?_,
      fun r hr => ?_, hstate, ?_⟩
    · rcases List.mem_cons.mp hr with rfl | hr
      · exact le_rfl
      · exact (h.past r hr).trans hclock
    · rw [hlast] at hl
      rcases List.mem_cons.mp hr with rfl | hr
      · exact (h.started last hl).trans hclock
      · exact h.since last hl r hr
    · rw [hlast] at hl
      exact (h.started last hl).trans hclock
    · exact List.Pairwise.cons (fun r hr => (h.past r hr).trans hclock) h.order
    · dsimp only
      rw [hlast]
      rcases List.mem_cons.mp hr with rfl | hr
      · exact hsince
      · exact h.gains r hr
    · dsimp only
      rw [hlast]
      exact hidle

theorem freezeOk_of_reachable (hw : (freezeSystem cfg).Reachable w) : FreezeOk cfg w := by
  refine hw.invariant (FreezeOk cfg) ?_ fun _ _ _ h _ hstep => h.step hstep
  rintro ⟨policy, clock, reports⟩ ⟨rfl, rfl⟩
  refine ⟨rfl, ?_, ?_, ?_, List.Pairwise.nil, ?_, rfl, fun _ => rfl⟩
  · exact fun _ hr => absurd hr List.not_mem_nil
  · exact fun _ hl => by cases hl
  · exact fun _ hl => by cases hl
  · exact fun _ hr => absurd hr List.not_mem_nil

/-- A fainter gain makes no sample of a buffer louder, and no gain makes one louder than it is. -/
theorem applyGain_antitone {x y : ℚ} (h : x ≤ y) (pcm : List Int16) :
    List.Forall₂ (fun fainter louder : Int16 => |fainter.toInt| ≤ |louder.toInt|)
        (applyGain pcm x) (applyGain pcm y) ∧
      List.Forall₂ (fun played sample : Int16 => |played.toInt| ≤ |sample.toInt|)
        (applyGain pcm y) pcm := by
  rw [applyGain_eq_map, applyGain_eq_map]
  induction pcm with
  | nil => exact ⟨.nil, .nil⟩
  | cons s pcm ih =>
    obtain ⟨hfainter, hself⟩ := gainSample_antitone h s
    exact ⟨.cons hfainter ih.1, .cons hself ih.2⟩

/-- What a later output is to an earlier one, with the times of both. -/
structure Fades (cfg : FreezeConfig) (new old : Duration × FreezeOutput) : Prop where
  gain : new.2.gain ≤ old.2.gain
  rank : old.2.state.rank ≤ new.2.state.rank
  samples : ∀ pcm, List.Forall₂ (fun fainter louder : Int16 => |fainter.toInt| ≤ |louder.toInt|)
    (applyGain pcm new.2.gain) (applyGain pcm old.2.gain)
  slowly : cfg.mode = .holdFade → cfg.fadeDuration.nanos ≠ 0 →
    old.2.gain - new.2.gain ≤ ((new.1.nanos - old.1.nanos : ℕ) : ℚ) / cfg.fadeDuration.nanos

/-- An output is a fade of those before it. -/
theorem FreezeOk.fades (h : FreezeOk cfg w) {new old : Duration × FreezeOutput}
    (hnew : new ∈ w.reports) (hold : old ∈ w.reports) (htime : old.1 ≤ new.1) :
    Fades cfg new old := by
  obtain ⟨hgain, hrank⟩ := h.gains new hnew
  obtain ⟨hgain', hrank'⟩ := h.gains old hold
  have hle : old.1.nanos ≤ new.1.nanos := htime
  have hfalls : new.2.gain ≤ old.2.gain := by
    rw [hgain, hgain']
    cases hlast : w.policy.lastVideoPts with
    | none => exact le_rfl
    | some last => exact freezeGain_antitone cfg (by omega)
  refine ⟨hfalls, ?_, fun pcm => (applyGain_antitone hfalls pcm).1, fun hmode hfade => ?_⟩
  · rw [hrank, hrank']
    cases hlast : w.policy.lastVideoPts with
    | none => exact le_rfl
    | some last => exact freezeRank_monotone cfg (by omega)
  · rw [hgain, hgain']
    cases hlast : w.policy.lastVideoPts with
    | none =>
      have hzero : gainSince cfg none old.1 - gainSince cfg none new.1 = 0 := sub_self 1
      rw [hzero]
      positivity
    | some last =>
      have hstart : last.nanos ≤ old.1.nanos := h.since last hlast old hold
      have hgaps : old.1.nanos - last.nanos ≤ new.1.nanos - last.nanos := by omega
      have hslow := (fadeGain_falls hgaps).2 hfade
      have hdiff : new.1.nanos - last.nanos - (old.1.nanos - last.nanos) =
          new.1.nanos - old.1.nanos := by omega
      rw [hdiff] at hslow
      simp only [gainSince, Option.elim_some, freezeGain, hmode]
      exact hslow

end Runs

/-- A frame, and then none for 450 ms. -/
def frozenRun : List FreezeEvent :=
  [.frame .zero, .tick (.fromMillis 100), .tick (.fromMillis 250), .tick (.fromMillis 350),
    .tick (.fromMillis 450)]

end RemoteLink.Media
