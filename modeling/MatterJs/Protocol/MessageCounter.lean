import Mathlib.Algebra.Order.Ring.Int
import MatterJs.Protocol.MessageReceptionState

/-! Outgoing message counters, and what `getIncrementedCounter` promises about
rollovers. -/

namespace MatterJs.Protocol

open General

/-- Default number of messages before a rollover callback is called. -/
def rolloverInfoDifference : Int := 1000

structure MessageCounter where
  messageCounter : Int
  /-- Whether the counter was constructed with a callback. -/
  aboutToRolloverCallback : Bool
  rolloverInfoDifference : Int
  deriving DecidableEq

/-- What one call of `getIncrementedCounter` does. -/
structure CounterCall where
  outcome : Except MatterError Int
  calledBack : Bool
  counter : MessageCounter

namespace MessageCounter

def new (random : BitVec 32) (aboutToRolloverCallback : Bool)
    (infoDifference : Int := Protocol.rolloverInfoDifference) : MessageCounter where
  messageCounter := Bitwise32.unsignedShiftRight random.toNat 4 + 1
  aboutToRolloverCallback := aboutToRolloverCallback
  rolloverInfoDifference := infoDifference

variable (counter : MessageCounter)

def getIncrementedCounter : CounterCall :=
  let incremented :=
    { counter with messageCounter := counter.messageCounter + 1 }
  if maxCounterValue32Bit < incremented.messageCounter then
    if incremented.aboutToRolloverCallback then
      { outcome := .ok 0
        calledBack := false
        counter := { incremented with messageCounter := 0 } }
    else
      { outcome := .error (.internalError "Message counter rollover not allowed.")
        calledBack := false
        counter := incremented }
  else
    { outcome := .ok incremented.messageCounter
      calledBack := incremented.aboutToRolloverCallback &&
        incremented.messageCounter == maxCounterValue32Bit - incremented.rolloverInfoDifference
      counter := incremented }

def afterCalls (counter : MessageCounter) : Nat → MessageCounter
  | 0 => counter
  | calls + 1 => (counter.afterCalls calls).getIncrementedCounter.counter

/-- The call made after `earlier` others. -/
def call (earlier : Nat) : CounterCall :=
  (counter.afterCalls earlier).getIncrementedCounter

/-- A counter that must not roll over never returns a value twice, throws in
every call after the maximum was used, and has called back before that. -/
structure RolloverForbidden (counter : MessageCounter) (calls : Nat) : Prop where
  neverTwice : ∀ first second value, first < second → second < calls →
    (counter.call first).outcome = .ok value → (counter.call second).outcome ≠ .ok value
  throwsAfterMaximum : ∀ first second, first < second → second < calls →
    (counter.call first).outcome = .ok maxCounterValue32Bit →
      ∃ error, (counter.call second).outcome = .error error
  callsBackBefore : ∀ last < calls,
    (counter.call last).outcome = .ok maxCounterValue32Bit →
      ∃ earlier < last, (counter.call earlier).calledBack = true

/-- A counter that may roll over never throws and continues from 0. -/
structure RolloverAllowed (counter : MessageCounter) (calls : Nat) : Prop where
  neverThrows : ∀ earlier < calls, ∃ value, (counter.call earlier).outcome = .ok value
  continuesFromZero : ∀ earlier, earlier + 1 < calls →
    (counter.call earlier).outcome = .ok maxCounterValue32Bit →
      (counter.call (earlier + 1)).outcome = .ok 0

/-- A callback means that rollover is forbidden. -/
def KeepsPromise (calls : Nat) : Prop :=
  if counter.aboutToRolloverCallback then counter.RolloverForbidden calls
  else counter.RolloverAllowed calls

/-! ## Calls up to the maximum -/

theorem afterCalls_eq {calls : Nat} (within : counter.messageCounter + calls ≤ maxCounterValue32Bit) :
    counter.afterCalls calls =
      { counter with messageCounter := counter.messageCounter + calls } := by
  induction calls with
  | zero => simp [afterCalls]
  | succ calls induction =>
    have noRollover :
        ¬maxCounterValue32Bit < counter.messageCounter + calls + 1 := by omega
    rw [afterCalls, induction (by omega)]
    simp only [getIncrementedCounter, if_neg noRollover]
    push_cast
    rw [Int.add_assoc]

theorem call_of_within (earlier : Nat)
    (within : counter.messageCounter + earlier < maxCounterValue32Bit) :
    (counter.call earlier).outcome = .ok (counter.messageCounter + earlier + 1) ∧
      (counter.call earlier).calledBack =
        (counter.aboutToRolloverCallback && counter.messageCounter + earlier + 1 ==
          maxCounterValue32Bit - counter.rolloverInfoDifference) := by
  have noRollover :
      ¬maxCounterValue32Bit < counter.messageCounter + earlier + 1 := by omega
  rw [call, afterCalls_eq counter within.le]
  simp [getIncrementedCounter, noRollover]

theorem call_of_rollover (earlier : Nat)
    (atMaximum : counter.messageCounter + earlier = maxCounterValue32Bit) :
    (counter.call earlier).outcome =
      if counter.aboutToRolloverCallback then .ok 0
      else .error (.internalError "Message counter rollover not allowed.") := by
  have rollover : maxCounterValue32Bit < counter.messageCounter + earlier + 1 := by omega
  rw [call, afterCalls_eq counter atMaximum.le]
  cases callback : counter.aboutToRolloverCallback <;>
    simp [getIncrementedCounter, rollover]

theorem keepsPromise_of_within {calls : Nat} (informsFirst : 0 < counter.rolloverInfoDifference)
    (startsBefore : counter.messageCounter + counter.rolloverInfoDifference < maxCounterValue32Bit)
    (within : counter.messageCounter + calls ≤ maxCounterValue32Bit) :
    counter.KeepsPromise calls := by
  have outcome {earlier : Nat} (called : earlier < calls) :
      (counter.call earlier).outcome = .ok (counter.messageCounter + earlier + 1) :=
    (counter.call_of_within earlier (by omega)).1
  unfold KeepsPromise
  cases callback : counter.aboutToRolloverCallback with
  | false =>
    refine ⟨fun earlier called => ⟨_, outcome called⟩, ?_⟩
    intro earlier called atMaximum
    rw [outcome (Nat.lt_of_succ_lt called)] at atMaximum
    have value := Except.ok.inj atMaximum
    omega
  | true =>
    constructor
    · intro first second value ordered called firstValue secondValue
      rw [outcome (ordered.trans called)] at firstValue
      rw [outcome called] at secondValue
      have equal := (Except.ok.inj firstValue).trans (Except.ok.inj secondValue).symm
      omega
    · intro first second ordered called atMaximum
      rw [outcome (ordered.trans called)] at atMaximum
      have value := Except.ok.inj atMaximum
      omega
    · intro last called atMaximum
      rw [outcome called] at atMaximum
      have value := Except.ok.inj atMaximum
      let informing := (maxCounterValue32Bit - counter.rolloverInfoDifference -
        counter.messageCounter - 1).toNat
      have position : counter.messageCounter + informing + 1 =
          maxCounterValue32Bit - counter.rolloverInfoDifference := by
        omega
      refine ⟨informing, by omega, ?_⟩
      rw [(counter.call_of_within informing (by omega)).2, callback, position]
      simp

theorem not_keepsPromise_of_rollover {calls : Nat}
    (startsWithin : counter.messageCounter < maxCounterValue32Bit)
    (rollsOver : maxCounterValue32Bit < counter.messageCounter + calls) :
    ¬counter.KeepsPromise calls := by
  let last := (maxCounterValue32Bit - counter.messageCounter - 1).toNat
  have lastPosition : counter.messageCounter + last + 1 = maxCounterValue32Bit := by
    omega
  have lastOutcome := (counter.call_of_within last (by omega)).1
  rw [lastPosition] at lastOutcome
  have nextOutcome := counter.call_of_rollover (last + 1) (by push_cast; omega)
  intro keepsPromise
  unfold KeepsPromise at keepsPromise
  cases callback : counter.aboutToRolloverCallback with
  | false =>
    rw [callback] at keepsPromise nextOutcome
    rcases keepsPromise.neverThrows (last + 1) (by omega) with ⟨value, returned⟩
    rw [nextOutcome] at returned
    cases returned
  | true =>
    rw [callback] at keepsPromise nextOutcome
    rcases keepsPromise.throwsAfterMaximum last (last + 1) (by omega) (by omega)
      lastOutcome with ⟨error, thrown⟩
    rw [nextOutcome] at thrown
    cases thrown

theorem new_messageCounter_le (random : BitVec 32) (callback : Bool) :
    (new random callback).messageCounter ≤ 2 ^ 28 := by
  have shift : Bitwise32.shiftAmount 4 = 4 := by decide
  simp only [new, Bitwise32.unsignedShiftRight, shift, BitVec.toNat_ushiftRight]
  omega

/-- A new counter keeps its promise exactly as long as it does not roll over. -/
theorem new_keepsPromise_iff (random : BitVec 32) (callback : Bool) (calls : Nat) :
    (new random callback).KeepsPromise calls ↔
      (new random callback).messageCounter + calls ≤ maxCounterValue32Bit := by
  have bound := new_messageCounter_le random callback
  have startsBefore : (new random callback).messageCounter +
      (new random callback).rolloverInfoDifference < maxCounterValue32Bit := by
    simp only [new, Protocol.rolloverInfoDifference, maxCounterValue32Bit] at bound ⊢
    omega
  constructor
  · intro keepsPromise
    by_contra rollsOver
    refine not_keepsPromise_of_rollover _ ?_ (Int.not_le.mp rollsOver) keepsPromise
    simp only [new, Protocol.rolloverInfoDifference] at startsBefore ⊢
    omega
  · intro within
    have informsFirst : 0 < Protocol.rolloverInfoDifference := by decide
    exact keepsPromise_of_within _ informsFirst startsBefore within

/-- The counter of a secure session starts over at 0 once it used the maximum. -/
theorem new_reuses_afterRollover :
    ¬(new 0 true).KeepsPromise maxCounterValue32Bit.toNat := by
  apply not_keepsPromise_of_rollover
  · decide
  · decide

end MessageCounter

end MatterJs.Protocol
