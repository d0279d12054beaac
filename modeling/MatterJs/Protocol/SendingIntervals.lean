import Mathlib.Data.Rat.Floor

/-! The intervals in which a subscription sends its reports. -/

namespace MatterJs.Protocol

def MAX_INTERVAL_PUBLISHER_LIMIT_S : Nat := 60 * 60
def INTERNAL_INTERVAL_PUBLISHER_LIMIT_S : Nat := 3 * 60
def MIN_INTERVAL_S : Nat := 2
def DEFAULT_RANDOMIZATION_WINDOW_S : Nat := 10

/-- Numbers are exact here. -/
structure ServerSubscriptionConfig where
  maxIntervalSeconds : ℚ
  minIntervalSeconds : ℚ
  randomizationWindowSeconds : ℚ

namespace ServerSubscriptionConfig

structure Options where
  maxIntervalSeconds : Option ℚ
  minIntervalSeconds : Option ℚ
  randomizationWindowSeconds : Option ℚ

def of (options : Options) : ServerSubscriptionConfig where
  maxIntervalSeconds := options.maxIntervalSeconds.getD INTERNAL_INTERVAL_PUBLISHER_LIMIT_S
  minIntervalSeconds := max (options.minIntervalSeconds.getD MIN_INTERVAL_S) MIN_INTERVAL_S
  randomizationWindowSeconds :=
    options.randomizationWindowSeconds.getD DEFAULT_RANDOMIZATION_WINDOW_S

end ServerSubscriptionConfig

structure SendingIntervals where
  maxInterval : ℚ
  sendInterval : ℚ

variable (minIntervalFloorMs : Nat)

/-- Half the interval, or as chip-tool does where a full resubmission process does not fit in it -/
def sendIntervalOf (maxInterval : ℚ) : ℚ :=
  if (⌊maxInterval / 2⌋ : ℚ) < 60000 then max minIntervalFloorMs ⌊maxInterval * (8 / 10)⌋
  else ⌊maxInterval / 2⌋

/-- `random` is what `Math.random` yields. -/
def determineSendingIntervals (maxIntervalCeilingMs : Nat)
    (subscriptionMinIntervalMs subscriptionMaxIntervalMs subscriptionRandomizationWindowMs : ℚ)
    (random : ℚ) : SendingIntervals :=
  let maxInterval := min
    (max subscriptionMinIntervalMs
      (max minIntervalFloorMs (min subscriptionMaxIntervalMs maxIntervalCeilingMs)) +
        ⌊subscriptionRandomizationWindowMs * random⌋)
    (MAX_INTERVAL_PUBLISHER_LIMIT_S * 1000)
  let sendInterval := sendIntervalOf minIntervalFloorMs maxInterval
  { maxInterval
    sendInterval :=
      if sendInterval < subscriptionMinIntervalMs then subscriptionMinIntervalMs
      else sendInterval }

/-- What the constructor takes from a request and the options -/
def sendingIntervals (minIntervalFloorSeconds maxIntervalCeilingSeconds : Nat)
    (config : ServerSubscriptionConfig) (random : ℚ) : SendingIntervals :=
  determineSendingIntervals (minIntervalFloorSeconds * 1000) (maxIntervalCeilingSeconds * 1000)
    (config.minIntervalSeconds * 1000) (config.maxIntervalSeconds * 1000)
    (config.randomizationWindowSeconds * 1000) random

structure Consistent (floor ceiling : ℚ) (intervals : SendingIntervals) : Prop where
  floor_le : floor ≤ intervals.sendInterval
  send_le : intervals.sendInterval ≤ intervals.maxInterval
  max_le : intervals.maxInterval ≤ max ceiling (MAX_INTERVAL_PUBLISHER_LIMIT_S * 1000)
  max_pos : 0 < intervals.maxInterval
  send_pos : 0 < intervals.sendInterval

def requestedInterval (floor ceiling minimum maximum randomPart : ℚ) : ℚ :=
  max minimum (max floor (min maximum ceiling)) + randomPart

/-- The floor and the configured minimum are at most an hour, and no negative random part goes below
them; and the floor is at most the minimum or half the interval, or that is under two minutes. -/
structure Admissible (floor ceiling minimum maximum randomPart : ℚ) : Prop where
  minimum_le : minimum ≤ 3600000 ∧
    minimum ≤ requestedInterval floor ceiling minimum maximum randomPart
  floor_le : floor ≤ 3600000 ∧ floor ≤ requestedInterval floor ceiling minimum maximum randomPart
  half : floor ≤ minimum ∨
    requestedInterval floor ceiling minimum maximum randomPart < 120000 ∨
      2 * floor ≤ 3600000 ∧ 2 * floor ≤ requestedInterval floor ceiling minimum maximum randomPart

theorem half_lt_iff (maxInterval : ℚ) :
    (⌊maxInterval / 2⌋ : ℚ) < 60000 ↔ maxInterval < 120000 := by
  have floor : (⌊maxInterval / 2⌋ : ℚ) < 60000 ↔ ⌊maxInterval / 2⌋ < (60000 : ℤ) := by norm_cast
  rw [floor, Int.floor_lt, div_lt_iff₀ (by norm_num)]
  norm_num

theorem le_half_iff (maxInterval : ℚ) :
    (minIntervalFloorMs : ℚ) ≤ ⌊maxInterval / 2⌋ ↔ 2 * (minIntervalFloorMs : ℚ) ≤ maxInterval := by
  have floor : (minIntervalFloorMs : ℚ) ≤ ⌊maxInterval / 2⌋ ↔
      (minIntervalFloorMs : ℤ) ≤ ⌊maxInterval / 2⌋ := by norm_cast
  rw [floor, Int.le_floor, Int.cast_natCast, le_div_iff₀ (by norm_num), mul_comm]

theorem sendIntervalOf_bounds {maxInterval minimum : ℚ} (positive : 0 < maxInterval)
    (floor_le : (minIntervalFloorMs : ℚ) ≤ maxInterval) :
    sendIntervalOf minIntervalFloorMs maxInterval ≤ maxInterval ∧
      (minIntervalFloorMs ≤ max minimum (sendIntervalOf minIntervalFloorMs maxInterval) ↔
        minIntervalFloorMs ≤ minimum ∨ maxInterval < 120000 ∨
          2 * (minIntervalFloorMs : ℚ) ≤ maxInterval) := by
  have half := Int.floor_le (maxInterval / 2)
  have most := Int.floor_le (maxInterval * (8 / 10))
  unfold sendIntervalOf
  simp only [half_lt_iff]
  split
  · rename_i short
    exact ⟨max_le floor_le (by linarith),
      iff_of_true (le_max_of_le_right (le_max_left _ _)) (.inr (.inl short))⟩
  · rename_i long
    refine ⟨by linarith, ?_⟩
    rw [le_max_iff, le_half_iff, or_iff_right long]

theorem determineSendingIntervals_consistent_iff (floor ceiling : Nat) {minimum : ℚ}
    (positive : 0 < minimum) (maximum window random : ℚ) :
    Consistent floor ceiling
        (determineSendingIntervals floor ceiling minimum maximum window random) ↔
      Admissible floor ceiling minimum maximum ⌊window * random⌋ := by
  have limit : ((MAX_INTERVAL_PUBLISHER_LIMIT_S : Nat) * 1000 : ℚ) = 3600000 := by
    norm_num [MAX_INTERVAL_PUBLISHER_LIMIT_S]
  let requested := requestedInterval floor ceiling minimum maximum ⌊window * random⌋
  let maxInterval := min requested 3600000
  have intervals : determineSendingIntervals floor ceiling minimum maximum window random =
      { maxInterval, sendInterval := max minimum (sendIntervalOf floor maxInterval) } := by
    unfold determineSendingIntervals
    rw [limit]
    refine congrArg (SendingIntervals.mk maxInterval) ?_
    split
    · rename_i low
      exact (max_eq_left (le_of_lt low)).symm
    · rename_i high
      exact (max_eq_right (not_lt.mp high)).symm
  rw [intervals]
  constructor
  · rintro ⟨floor_le, send_le, max_le, max_pos, send_pos⟩
    have minimum_le := (le_max_left _ _).trans send_le
    have floor_max := floor_le.trans send_le
    have bounds := @sendIntervalOf_bounds floor maxInterval minimum max_pos floor_max
    refine ⟨(le_min_iff.mp minimum_le).symm, (le_min_iff.mp floor_max).symm, ?_⟩
    rcases bounds.2.mp floor_le with low | short | half
    · exact .inl low
    · exact .inr (.inl ((min_lt_iff.mp short).resolve_right (by norm_num)))
    · exact .inr (.inr (le_min_iff.mp half).symm)
  · rintro ⟨minimum_le, floor_le, half⟩
    have minimum_max : minimum ≤ maxInterval := le_min minimum_le.2 minimum_le.1
    have floor_max : (floor : ℚ) ≤ maxInterval := le_min floor_le.2 floor_le.1
    have max_pos := positive.trans_le minimum_max
    have bounds := @sendIntervalOf_bounds floor maxInterval minimum max_pos floor_max
    refine ⟨bounds.2.mpr ?_, max_le minimum_max bounds.1, ?_, max_pos,
      positive.trans_le (le_max_left _ _)⟩
    · rcases half with low | short | half
      · exact .inl low
      · exact .inr (.inl (min_lt_of_left_lt short))
      · exact .inr (.inr (le_min half.2 half.1))
    · rw [limit]
      exact le_max_of_le_right (min_le_right _ _)

/-- For every request and all options -/
theorem sendingIntervals_consistent_iff (minIntervalFloorSeconds maxIntervalCeilingSeconds : Nat)
    (options : ServerSubscriptionConfig.Options) (random : ℚ) :
    let config := ServerSubscriptionConfig.of options
    Consistent (minIntervalFloorSeconds * 1000 : Nat) (maxIntervalCeilingSeconds * 1000 : Nat)
        (sendingIntervals minIntervalFloorSeconds maxIntervalCeilingSeconds config random) ↔
      Admissible (minIntervalFloorSeconds * 1000 : Nat) (maxIntervalCeilingSeconds * 1000 : Nat)
        (config.minIntervalSeconds * 1000) (config.maxIntervalSeconds * 1000)
        ⌊config.randomizationWindowSeconds * 1000 * random⌋ := by
  intro config
  have least : (MIN_INTERVAL_S : ℚ) ≤ config.minIntervalSeconds := le_max_right _ _
  have positive : (0 : ℚ) < MIN_INTERVAL_S := by norm_num [MIN_INTERVAL_S]
  exact determineSendingIntervals_consistent_iff _ _ (by linarith) _ _ _

/-- A floor of 100 seconds and a ceiling of 150 are admitted, and reports are sent each 75. -/
theorem sendingIntervals_consistent_false :
    ¬∀ (floor ceiling : Nat) (options : ServerSubscriptionConfig.Options) (random : ℚ),
      floor ≤ ceiling → ceiling < 2 ^ 16 → 0 ≤ random → random < 1 →
        Consistent (floor * 1000 : Nat) (ceiling * 1000 : Nat)
          (sendingIntervals floor ceiling (.of options) random) := by
  intro all
  have consistent := all 100 150 ⟨none, none, none⟩ 0 (by decide) (by decide) le_rfl (by decide)
  exact absurd consistent.floor_le (by decide +kernel)

end MatterJs.Protocol
