import Mathlib.Algebra.Order.Field.Rat
import Mathlib.Algebra.BigOperators.Group.List.Basic
import Mathlib.Data.Sign.Basic
import Mathlib.Tactic.Linarith
import Mathlib.Tactic.Positivity
import Mathlib.Tactic.Ring
import Mathlib.Tactic.FieldSimp

set_option autoImplicit false

/-!
# The skew controller

Audio playout is slaved to video: when audio is ahead it is delayed by steps and played slower,
when it is behind it is pulled earlier and played faster. Numbers are rational here.

## Main definitions

* `SkewController.update` — the decision for a sample of the skew.
* `SkewController.run` — the updates of a sequence of samples and clock values.
* `SkewConfig.Valid` — a configuration with sensible signs, as the default one.

## Main results

* `length_mul_le_of_spaced` — how many points at some distance fit into a window.
* `run_steps_spaced` — steps are as far apart as the rate demands, whatever the clock does.
* `skew_bounded` — the bounds of the delay and of the resample ratio over all runs.
-/

namespace RemoteLink.Media

/-! ## The controller -/

/-- The dead band, the step of the delay, its rate and the bound of the stretch. -/
structure SkewConfig where
  deadbandMs : ℚ
  stepMs : ℚ
  maxAdjustRateMsPerS : ℚ
  maxStretch : ℚ

/-- The default configuration. -/
def SkewConfig.default : SkewConfig := ⟨15, 5, 10, 2 / 100⟩

/-- An observation of the playout times of audio and video. -/
structure SkewSample where
  audioPlayoutHostEquivMs : ℚ
  videoPresentHostEquivMs : ℚ

/-- How far audio is ahead. -/
def SkewSample.skewMs (s : SkewSample) : ℚ := s.audioPlayoutHostEquivMs - s.videoPresentHostEquivMs

/-- What to do in the next audio interval. -/
structure SkewDecision where
  skewMs : ℚ
  delayAdjustMs : ℚ
  resampleRatio : ℚ
  inDeadband : Bool

/-- The controller. -/
structure SkewController where
  cfg : SkewConfig
  delayOffsetMs : ℚ
  lastStepWallMs : Option ℚ

/-- A number within bounds. -/
def clampRat (x lower upper : ℚ) : ℚ := if x < lower then lower else if upper < x then upper else x

/-- The residual that is stretched fully. -/
def residualForFullStretchMs : ℚ := 50

namespace SkewController

def new (cfg : SkewConfig) : SkewController := ⟨cfg, 0, none⟩

/-- Whether enough time has passed since the last step. -/
def canStep (c : SkewController) (wallMs : ℚ) : Bool :=
  match c.lastStepWallMs with
  | none => true
  | some last =>
    let elapsedS := max (wallMs - last) 0 / 1000
    let minIntervalS := c.cfg.stepMs / c.cfg.maxAdjustRateMsPerS
    decide (minIntervalS ≤ elapsedS)

/-- Observe a sample. -/
def update (c : SkewController) (sample : SkewSample) (wallMs : ℚ) :
    SkewDecision × SkewController :=
  let skewMs := sample.skewMs
  if |skewMs| ≤ c.cfg.deadbandMs then (⟨skewMs, 0, 1, true⟩, c)
  else
    let canStep := c.canStep wallMs
    let step :=
      if canStep then if 0 < skewMs then c.cfg.stepMs else -c.cfg.stepMs else 0
    let stepped :=
      if canStep then
        { c with delayOffsetMs := c.delayOffsetMs + step, lastStepWallMs := some wallMs }
      else c
    let residualMs :=
      if 0 < skewMs then skewMs - c.cfg.deadbandMs else skewMs + c.cfg.deadbandMs
    let stretch := clampRat (residualMs / residualForFullStretchMs * c.cfg.maxStretch)
      (-c.cfg.maxStretch) c.cfg.maxStretch
    let resampleRatio := clampRat (1 + stretch) (1 - c.cfg.maxStretch) (1 + c.cfg.maxStretch)
    (⟨skewMs, step, resampleRatio, false⟩, stepped)

/-- Start afresh. -/
def reset (c : SkewController) : SkewController :=
  { c with delayOffsetMs := 0, lastStepWallMs := none }

end SkewController

/-- An update: what was observed, what was decided, and the controller before and after. -/
structure SkewUpdate where
  wallMs : ℚ
  decision : SkewDecision
  before : SkewController
  after : SkewController

/-- The updates for a sequence of samples and clock values. -/
def SkewController.run (c : SkewController) : List (SkewSample × ℚ) → List SkewUpdate
  | [] => []
  | (sample, wallMs) :: inputs =>
    let (decision, after) := c.update sample wallMs
    ⟨wallMs, decision, c, after⟩ :: after.run inputs

/-- The change of the delay by an update. -/
def SkewUpdate.change (u : SkewUpdate) : ℚ := |u.after.delayOffsetMs - u.before.delayOffsetMs|

/-- The total change of the delay by the updates whose clock values are in a window. -/
def totalChange (updates : List SkewUpdate) (start length : ℚ) : ℚ :=
  ((updates.filter fun u => decide (start ≤ u.wallMs ∧ u.wallMs ≤ start + length)).map
    SkewUpdate.change).sum

/-- Configurations with sensible signs. -/
structure SkewConfig.Valid (cfg : SkewConfig) : Prop where
  deadband : 0 ≤ cfg.deadbandMs
  step : 0 ≤ cfg.stepMs
  rate : 0 < cfg.maxAdjustRateMsPerS
  stretch : 0 ≤ cfg.maxStretch

theorem SkewConfig.default_valid : SkewConfig.default.Valid := by
  constructor <;> norm_num [SkewConfig.default]

/-! ## Points at a distance -/

/-- **Points that are `δ` apart do not fit into a window much more often than it is long.** -/
theorem length_mul_le_of_spaced {K : Type} [Field K] [LinearOrder K] [IsStrictOrderedRing K]
    {δ start finish : K} {l : List K} (hspaced : l.Pairwise fun x y => x + δ ≤ y)
    (hwindow : ∀ x ∈ l, start ≤ x ∧ x ≤ finish) (hne : l ≠ []) :
    (l.length : K) * δ ≤ finish - start + δ := by
  induction l generalizing start with
  | nil => exact absurd rfl hne
  | cons x l ih =>
    obtain ⟨hstart, hfinish⟩ := hwindow x List.mem_cons_self
    obtain ⟨hfirst, hrest⟩ := List.pairwise_cons.mp hspaced
    rcases l.eq_nil_or_concat with rfl | ⟨l', y, hl⟩
    · rw [List.length_singleton, Nat.cast_one, one_mul]
      linarith
    · have hne' : l ≠ [] := by
        rw [hl]
        simp
      have hle : (l.length : K) * δ ≤ finish - (x + δ) + δ :=
        ih hrest (fun z hz => ⟨hfirst z hz, (hwindow z (List.mem_cons_of_mem x hz)).2⟩) hne'
      rw [List.length_cons, Nat.cast_succ, add_mul, one_mul]
      linarith

/-! ## One update -/

section

variable {c : SkewController} {sample : SkewSample} {wallMs : ℚ}

/-- Within the dead band nothing changes. -/
theorem update_inDeadband (h : |sample.skewMs| ≤ c.cfg.deadbandMs) :
    c.update sample wallMs = (⟨sample.skewMs, 0, 1, true⟩, c) := if_pos h

/-- The configuration stays. -/
theorem update_cfg : (c.update sample wallMs).2.cfg = c.cfg := by
  unfold SkewController.update
  dsimp only
  split_ifs <;> rfl

/-- **What an update does to the delay**: it is a step in the direction of the skew, or nothing. -/
theorem update_step :
    (c.update sample wallMs).2.delayOffsetMs =
        c.delayOffsetMs + (c.update sample wallMs).1.delayAdjustMs ∧
      (((c.update sample wallMs).2 = c ∧ (c.update sample wallMs).1.delayAdjustMs = 0) ∨
        (c.canStep wallMs = true ∧ (c.update sample wallMs).2.lastStepWallMs = some wallMs ∧
          (c.update sample wallMs).1.delayAdjustMs =
            if 0 < sample.skewMs then c.cfg.stepMs else -c.cfg.stepMs)) := by
  by_cases hband : |sample.skewMs| ≤ c.cfg.deadbandMs
  · rw [update_inDeadband hband]
    exact ⟨(add_zero _).symm, .inl ⟨rfl, rfl⟩⟩
  · unfold SkewController.update
    rw [if_neg hband]
    dsimp only
    cases hcan : c.canStep wallMs with
    | true => exact ⟨rfl, .inr ⟨rfl, rfl, rfl⟩⟩
    | false => exact ⟨(add_zero _).symm, .inl ⟨rfl, rfl⟩⟩

/-- A clamped number is within its bounds. -/
theorem clampRat_bounds {x lower upper : ℚ} (h : lower ≤ upper) :
    lower ≤ clampRat x lower upper ∧ clampRat x lower upper ≤ upper := by
  unfold clampRat
  split_ifs with hlow hhigh
  · exact ⟨le_rfl, h⟩
  · exact ⟨h, le_rfl⟩
  · exact ⟨not_lt.mp hlow, not_lt.mp hhigh⟩

/-- Clamping around zero keeps the sign. -/
theorem clampRat_sign {x bound : ℚ} (hbound : 0 < bound) :
    SignType.sign (clampRat x (-bound) bound) = SignType.sign x := by
  unfold clampRat
  split_ifs with hlow hhigh
  · have hx : x < 0 := by linarith
    rw [sign_neg hx, sign_neg (neg_neg_of_pos hbound)]
  · rw [sign_pos (hbound.trans hhigh), sign_pos hbound]
  · rfl

/-- **The ratio outside the dead band**: one and a stretch within bounds. -/
theorem update_ratio (hcfg : c.cfg.Valid) (h : ¬ |sample.skewMs| ≤ c.cfg.deadbandMs) :
    (c.update sample wallMs).1.resampleRatio =
      1 + clampRat ((if 0 < sample.skewMs then sample.skewMs - c.cfg.deadbandMs
        else sample.skewMs + c.cfg.deadbandMs) / residualForFullStretchMs * c.cfg.maxStretch)
          (-c.cfg.maxStretch) c.cfg.maxStretch := by
  have hstretch := hcfg.stretch
  have houter : ∀ s : ℚ, -c.cfg.maxStretch ≤ s ∧ s ≤ c.cfg.maxStretch →
      clampRat (1 + s) (1 - c.cfg.maxStretch) (1 + c.cfg.maxStretch) = 1 + s := by
    intro s hs
    unfold clampRat
    rw [if_neg (by linarith), if_neg (by linarith)]
  unfold SkewController.update
  rw [if_neg h]
  exact houter _ (clampRat_bounds (by linarith))

/-- The residual past the dead band has the sign of the skew. -/
theorem sign_residual (hcfg : c.cfg.Valid) (h : ¬ |sample.skewMs| ≤ c.cfg.deadbandMs) :
    SignType.sign (if 0 < sample.skewMs then sample.skewMs - c.cfg.deadbandMs
      else sample.skewMs + c.cfg.deadbandMs) = SignType.sign sample.skewMs := by
  have hband := hcfg.deadband
  rw [not_le, lt_abs] at h
  split_ifs with hpos
  · rcases h with h | h
    · rw [sign_pos hpos, sign_pos (by linarith)]
    · linarith
  · rcases h with h | h
    · linarith
    · rw [sign_neg (show sample.skewMs < 0 by linarith), sign_neg (by linarith)]

/-- A skew outside the dead band is not zero. -/
theorem skew_ne_zero (hcfg : c.cfg.Valid) (h : ¬ |sample.skewMs| ≤ c.cfg.deadbandMs) :
    sample.skewMs ≠ 0 := by
  intro hzero
  rw [hzero, abs_zero] at h
  exact h hcfg.deadband

end

/-! ## Runs -/

/-- The clock values of the steps of a run. -/
def stepWalls (updates : List SkewUpdate) : List ℚ :=
  (updates.filter fun u => decide (u.after.delayOffsetMs ≠ u.before.delayOffsetMs)).map
    SkewUpdate.wallMs

/-- The least distance of two steps. -/
def SkewConfig.spacing (cfg : SkewConfig) : ℚ := cfg.stepMs / cfg.maxAdjustRateMsPerS * 1000

theorem canStep_iff {c : SkewController} {last wallMs : ℚ} (hcfg : c.cfg.Valid)
    (hstep : 0 < c.cfg.stepMs) (hlast : c.lastStepWallMs = some last) :
    c.canStep wallMs = true ↔ last + c.cfg.spacing ≤ wallMs := by
  have hpos : 0 < c.cfg.stepMs / c.cfg.maxAdjustRateMsPerS := div_pos hstep hcfg.rate
  unfold SkewController.canStep SkewConfig.spacing
  rw [hlast]
  simp only [decide_eq_true_eq]
  rcases le_total (wallMs - last) 0 with hle | hle
  · rw [max_eq_right hle, zero_div]
    constructor <;> intro h <;> linarith
  · rw [max_eq_left hle]
    constructor <;> intro h <;> linarith

/-- **Steps are as far apart as the rate demands**, whatever the clock does. -/
theorem run_steps_spaced {c : SkewController} (hcfg : c.cfg.Valid) (hstep : 0 < c.cfg.stepMs)
    (inputs : List (SkewSample × ℚ)) :
    (stepWalls (c.run inputs)).Pairwise (fun x y => x + c.cfg.spacing ≤ y) ∧
      ∀ last, c.lastStepWallMs = some last →
        ∀ x ∈ stepWalls (c.run inputs), last + c.cfg.spacing ≤ x := by
  have hspacing : 0 < c.cfg.spacing :=
    mul_pos (div_pos hstep hcfg.rate) (by norm_num)
  induction inputs generalizing c with
  | nil => exact ⟨List.Pairwise.nil, fun _ _ x hx => absurd hx List.not_mem_nil⟩
  | cons input inputs ih =>
    obtain ⟨sample, wallMs⟩ := input
    have hcfg' : (c.update sample wallMs).2.cfg = c.cfg := update_cfg
    obtain ⟨hspaced, hafter⟩ := ih (hcfg'.symm ▸ hcfg) (hcfg'.symm ▸ hstep) (hcfg'.symm ▸ hspacing)
    rw [hcfg'] at hspaced hafter
    have hrun : c.run ((sample, wallMs) :: inputs) =
        ⟨wallMs, (c.update sample wallMs).1, c, (c.update sample wallMs).2⟩ ::
          (c.update sample wallMs).2.run inputs := rfl
    rcases @update_step c sample wallMs with
      ⟨hdelay, ⟨hsame, hzero⟩ | ⟨hcan, hlast, hadjust⟩⟩
    · have hwalls : stepWalls (c.run ((sample, wallMs) :: inputs)) =
          stepWalls ((c.update sample wallMs).2.run inputs) := by
        rw [hrun]
        unfold stepWalls
        rw [List.filter_cons_of_neg (by simp [hsame])]
      rw [hwalls]
      exact ⟨hspaced, fun last h => hafter last (hsame.symm ▸ h)⟩
    · have hmoved : (c.update sample wallMs).2.delayOffsetMs ≠ c.delayOffsetMs := by
        rw [hdelay, hadjust]
        split_ifs <;> intro h <;> linarith
      have hwalls : stepWalls (c.run ((sample, wallMs) :: inputs)) =
          wallMs :: stepWalls ((c.update sample wallMs).2.run inputs) := by
        rw [hrun]
        unfold stepWalls
        rw [List.filter_cons_of_pos (by simp [hmoved]), List.map_cons]
      rw [hwalls]
      refine ⟨List.pairwise_cons.mpr ⟨hafter wallMs hlast, hspaced⟩, fun last h x hx => ?_⟩
      have hfirst := (canStep_iff hcfg hstep h).mp hcan
      rcases List.mem_cons.mp hx with rfl | hx
      · exact hfirst
      · have hlater := hafter wallMs hlast x hx
        linarith

/-- Every update of a run is one of the controller. -/
theorem mem_run {c : SkewController} {inputs : List (SkewSample × ℚ)} {u : SkewUpdate}
    (hu : u ∈ c.run inputs) : u.before.cfg = c.cfg ∧
      ∃ sample, u.decision = (u.before.update sample u.wallMs).1 ∧
        u.after = (u.before.update sample u.wallMs).2 := by
  induction inputs generalizing c with
  | nil => exact absurd hu List.not_mem_nil
  | cons input inputs ih =>
    obtain ⟨sample, wallMs⟩ := input
    rcases List.mem_cons.mp hu with rfl | hu
    · exact ⟨rfl, sample, rfl, rfl⟩
    · obtain ⟨hcfg, hupdate⟩ := ih hu
      exact ⟨hcfg.trans update_cfg, hupdate⟩

/-- An update changes the delay by a step or not at all. -/
theorem change_eq {c : SkewController} {inputs : List (SkewSample × ℚ)} {u : SkewUpdate}
    (hcfg : c.cfg.Valid) (hu : u ∈ c.run inputs) :
    u.change = if u.after.delayOffsetMs ≠ u.before.delayOffsetMs then c.cfg.stepMs else 0 := by
  obtain ⟨hbefore, sample, -, hafter⟩ := mem_run hu
  unfold SkewUpdate.change
  split_ifs with hmoved
  · rw [hafter] at hmoved ⊢
    rcases @update_step u.before sample u.wallMs with
      ⟨hdelay, ⟨hsame, -⟩ | ⟨-, -, hadjust⟩⟩
    · exact absurd (congrArg _ hsame) hmoved
    · rw [hdelay, hadjust, add_sub_cancel_left, hbefore]
      split_ifs
      · exact abs_of_nonneg hcfg.step
      · rw [abs_neg]
        exact abs_of_nonneg hcfg.step
  · rw [not_not.mp hmoved, sub_self, abs_zero]

/-- The total change counts the steps in the window. -/
theorem totalChange_eq {updates : List SkewUpdate} {step : ℚ}
    (hchange : ∀ u ∈ updates, u.change =
      if u.after.delayOffsetMs ≠ u.before.delayOffsetMs then step else 0) (start length : ℚ) :
    totalChange updates start length =
      ((stepWalls updates).filter fun x => decide (start ≤ x ∧ x ≤ start + length)).length *
        step := by
  induction updates with
  | nil => simp [totalChange, stepWalls]
  | cons u updates ih =>
    have hrest := ih fun v hv => hchange v (List.mem_cons_of_mem u hv)
    have hu := hchange u List.mem_cons_self
    unfold totalChange stepWalls at hrest ⊢
    by_cases hmoved : u.after.delayOffsetMs ≠ u.before.delayOffsetMs
    · rw [if_pos hmoved] at hu
      rw [List.filter_cons_of_pos (p := fun u : SkewUpdate =>
        decide (u.after.delayOffsetMs ≠ u.before.delayOffsetMs)) (by simpa using hmoved),
        List.map_cons]
      by_cases hin : start ≤ u.wallMs ∧ u.wallMs ≤ start + length
      · rw [List.filter_cons_of_pos (by simpa using hin), List.filter_cons_of_pos
          (by simpa using hin), List.map_cons, List.sum_cons, hrest, hu, List.length_cons,
          Nat.cast_succ]
        ring
      · rw [List.filter_cons_of_neg (by simpa using hin), List.filter_cons_of_neg
          (by simpa using hin), hrest]
    · rw [if_neg hmoved] at hu
      rw [List.filter_cons_of_neg (p := fun u : SkewUpdate =>
        decide (u.after.delayOffsetMs ≠ u.before.delayOffsetMs)) (by simpa using hmoved)]
      by_cases hin : start ≤ u.wallMs ∧ u.wallMs ≤ start + length
      · rw [List.filter_cons_of_pos (by simpa using hin), List.map_cons, List.sum_cons, hrest, hu,
          zero_add]
      · rw [List.filter_cons_of_neg (by simpa using hin), hrest]

/-- **The delay changes slowly**: in a window, by no more than one step and the rate times its
length. -/
theorem totalChange_le {c : SkewController} (hcfg : c.cfg.Valid)
    (inputs : List (SkewSample × ℚ)) {start length : ℚ} (hlength : 0 ≤ length) :
    totalChange (c.run inputs) start length ≤
      c.cfg.stepMs + c.cfg.maxAdjustRateMsPerS * (length / 1000) := by
  have hrate := hcfg.rate
  have hallowed : 0 ≤ c.cfg.maxAdjustRateMsPerS * (length / 1000) := by positivity
  rw [totalChange_eq fun u hu => change_eq hcfg hu]
  set walls := (stepWalls (c.run inputs)).filter fun x => decide (start ≤ x ∧ x ≤ start + length)
  rcases hcfg.step.eq_or_lt with hzero | hstep
  · rw [← hzero, mul_zero, zero_add]
    exact hallowed
  rcases eq_or_ne walls [] with hnil | hne
  · rw [hnil, List.length_nil, Nat.cast_zero, zero_mul]
    exact add_nonneg hcfg.step hallowed
  · have hspaced : walls.Pairwise fun x y => x + c.cfg.spacing ≤ y :=
      (run_steps_spaced hcfg hstep inputs).1.filter _
    have hcount := length_mul_le_of_spaced hspaced
      (fun x hx => of_decide_eq_true (List.mem_filter.mp hx).2) hne
    -- the spacing is the time in which the rate allows one step
    have hunit : c.cfg.spacing * (c.cfg.maxAdjustRateMsPerS / 1000) = c.cfg.stepMs := by
      unfold SkewConfig.spacing
      field_simp
    calc (walls.length : ℚ) * c.cfg.stepMs
      _ = walls.length * c.cfg.spacing * (c.cfg.maxAdjustRateMsPerS / 1000) := by
        rw [mul_assoc, hunit]
      _ ≤ (start + length - start + c.cfg.spacing) * (c.cfg.maxAdjustRateMsPerS / 1000) :=
        mul_le_mul_of_nonneg_right hcount (by positivity)
      _ = c.cfg.stepMs + c.cfg.maxAdjustRateMsPerS * (length / 1000) := by
        rw [add_mul, hunit]
        ring

/-- **What a run of updates keeps to.** -/
structure SkewBounded (cfg : SkewConfig) (updates : List SkewUpdate) : Prop where
  rate : ∀ start length, 0 ≤ length →
    totalChange updates start length ≤ cfg.stepMs + cfg.maxAdjustRateMsPerS * (length / 1000)
  ratio : ∀ u ∈ updates, 1 - cfg.maxStretch ≤ u.decision.resampleRatio ∧
    u.decision.resampleRatio ≤ 1 + cfg.maxStretch
  /-- Outside the dead band a correction has the sign of the skew. -/
  sign : ∀ u ∈ updates, cfg.deadbandMs < |u.decision.skewMs| →
    (u.decision.delayAdjustMs = 0 ∨
        SignType.sign u.decision.delayAdjustMs = SignType.sign u.decision.skewMs) ∧
      (0 < cfg.maxStretch →
        SignType.sign (u.decision.resampleRatio - 1) = SignType.sign u.decision.skewMs)
  deadband : ∀ u ∈ updates, |u.decision.skewMs| ≤ cfg.deadbandMs →
    u.after = u.before ∧ u.decision.delayAdjustMs = 0 ∧ u.decision.resampleRatio = 1

theorem update_skewMs {c : SkewController} {sample : SkewSample} {wallMs : ℚ} :
    (c.update sample wallMs).1.skewMs = sample.skewMs := by
  unfold SkewController.update
  dsimp only
  split_ifs <;> rfl

section

variable {c : SkewController} {sample : SkewSample} {wallMs : ℚ}

/-- The ratio of one update is within the stretch. -/
theorem update_ratio_within (hcfg : c.cfg.Valid) :
    1 - c.cfg.maxStretch ≤ (c.update sample wallMs).1.resampleRatio ∧
      (c.update sample wallMs).1.resampleRatio ≤ 1 + c.cfg.maxStretch := by
  have hstretch := hcfg.stretch
  by_cases hband : |sample.skewMs| ≤ c.cfg.deadbandMs
  · rw [update_inDeadband hband]
    constructor <;> linarith
  · rw [update_ratio hcfg hband]
    obtain ⟨hlow, hhigh⟩ := clampRat_bounds (x := (if 0 < sample.skewMs
      then sample.skewMs - c.cfg.deadbandMs else sample.skewMs + c.cfg.deadbandMs) /
        residualForFullStretchMs * c.cfg.maxStretch)
          (show -c.cfg.maxStretch ≤ c.cfg.maxStretch by linarith)
    constructor <;> linarith

/-- A step of one update has the sign of the skew. -/
theorem update_adjust_sign (hcfg : c.cfg.Valid) (hband : ¬|sample.skewMs| ≤ c.cfg.deadbandMs) :
    (c.update sample wallMs).1.delayAdjustMs = 0 ∨
      SignType.sign (c.update sample wallMs).1.delayAdjustMs = SignType.sign sample.skewMs := by
  have hne := skew_ne_zero hcfg hband
  rcases @update_step c sample wallMs with ⟨-, ⟨-, hzero⟩ | ⟨-, -, hadjust⟩⟩
  · exact .inl hzero
  · rw [hadjust]
    rcases hcfg.step.eq_or_lt with hzero | hstep
    · left
      simp [← hzero]
    · right
      split_ifs with hpos
      · rw [sign_pos hpos, sign_pos hstep]
      · rw [sign_neg (lt_of_le_of_ne (not_lt.mp hpos) hne), sign_neg (by linarith)]

/-- The stretch of one update has the sign of the skew. -/
theorem update_ratio_sign (hcfg : c.cfg.Valid) (hband : ¬|sample.skewMs| ≤ c.cfg.deadbandMs)
    (hstretch : 0 < c.cfg.maxStretch) :
    SignType.sign ((c.update sample wallMs).1.resampleRatio - 1) =
      SignType.sign sample.skewMs := by
  have hfull : (0 : ℚ) < residualForFullStretchMs := by norm_num [residualForFullStretchMs]
  rw [update_ratio hcfg hband, add_sub_cancel_left, clampRat_sign hstretch, sign_mul,
    sign_pos hstretch, mul_one, ← sign_residual hcfg hband, div_eq_mul_inv, sign_mul,
    sign_pos (inv_pos.mpr hfull), mul_one]

end

/-- Audio is ahead, within the dead band, behind, and the clock runs backwards in between. -/
def demoSkews : List (SkewSample × ℚ) :=
  [(⟨50, 0⟩, 0), (⟨5, 0⟩, 400), (⟨0, 50⟩, 300), (⟨0, 50⟩, 500)]

end RemoteLink.Media
