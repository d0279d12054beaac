import MatterJs.Protocol.ReplayWindow

/-! Replay protection of counters that roll over: one call of
`updateMessageCounter` in terms of its difference, and what becomes of one
counter on the ring while the maximum moves on. -/

namespace MatterJs.Protocol.MessageReceptionState

open Execution General Bitwise32

/-- The number of values a counter has before it starts over. -/
def ringSize : Int := maxCounterValue32Bit + 1

/-- The steps from one counter up to another, over the top if need be. -/
def ringDistance (lower upper : Int) : Int :=
  (upper - lower) % ringSize

variable {kind : MessageReceptionKind}

/-- A call of `updateMessageCounter`: an error leaves the state as it was. -/
def afterMessage (state : MessageReceptionState kind) (messageCounter : Int) :
    MessageReceptionState kind :=
  (accept state messageCounter).getD state

/-- The state after some calls on a newly constructed one. -/
def reached (kind : MessageReceptionKind) (initial : Option Int)
    (messageCounters : List Int) : MessageReceptionState kind :=
  run afterMessage (new initial) messageCounters

/-- The next call with this counter throws a `DuplicateMessageError`. -/
def IsDuplicate (state : MessageReceptionState kind) (messageCounter : Int) : Prop :=
  ∃ message, state.updateMessageCounter messageCounter = .error (.duplicateMessageError message)

/-! ## One call in terms of its difference -/

section Call

variable {state next : MessageReceptionState kind} {messageCounter maximum : Int}

theorem inRange_of_accept (accepts : accept state messageCounter = some next) :
    InRange messageCounter := by
  by_contra outside
  have invalid : messageCounter < 0 ∨ maxCounterValue32Bit < messageCounter := by
    rw [InRange] at outside
    omega
  rw [accept, updateMessageCounter, if_pos invalid] at accepts
  cases accepts

theorem accept_none_of_isDuplicate (duplicate : IsDuplicate state messageCounter) :
    accept state messageCounter = none := by
  rcases duplicate with ⟨message, refuses⟩
  rw [accept, refuses]
  rfl

/-- The bits a call leaves: a counter behind the maximum marks its own, and one
ahead of it moves the old ones and marks the previous maximum. -/
inductive Moved (state : MessageReceptionState kind) (messageCounter maximum : Int)
    (next : MessageReceptionState kind) : Prop where
  | behind (negative : state.calculateDiff messageCounter < 0)
      (inWindow : -32 ≤ state.calculateDiff messageCounter)
      (sameMaximum : next.maximumMessageCounter = some maximum)
      (bits : ∀ index, testBit next.messageCounterBitmap index =
        (testBit state.messageCounterBitmap index ||
          decide (index = (-state.calculateDiff messageCounter - 1).toNat)))
  | nowhere (zero : state.calculateDiff messageCounter = 0)
      (sameMaximum : next.maximumMessageCounter = some maximum)
      (bits : ∀ index, testBit next.messageCounterBitmap index =
        testBit state.messageCounterBitmap index)
  | ahead (positive : 0 < state.calculateDiff messageCounter)
      (newMaximum : next.maximumMessageCounter = some messageCounter)
      (bits : state.calculateDiff messageCounter ≤ 32 →
        ∀ index, testBit next.messageCounterBitmap index =
          ((decide (index < 32) &&
              !decide (index < shiftAmount (state.calculateDiff messageCounter)) &&
              testBit state.messageCounterBitmap
                (index - shiftAmount (state.calculateDiff messageCounter))) ||
            decide (index = (state.calculateDiff messageCounter - 1).toNat)))

theorem isDuplicate_of_known (hasMaximum : state.maximumMessageCounter = some maximum)
    (inRange : InRange messageCounter)
    (isKnown : messageCounter = maximum ∨
      state.calculateDiff messageCounter < 0 ∧
        (state.calculateDiff messageCounter < -32 ∨
          testBit state.messageCounterBitmap
            (-state.calculateDiff messageCounter - 1).toNat = true)) :
    IsDuplicate state messageCounter := by
  have valid := updateMessageCounter_of_inRange inRange
  rw [IsDuplicate, updateMessageCounter, if_neg valid, hasMaximum]
  by_cases equal : messageCounter = maximum
  · exact ⟨_, if_pos equal⟩
  · rcases isKnown with isMaximum | ⟨negative, farOrMarked⟩
    · exact absurd isMaximum equal
    · by_cases far : state.calculateDiff messageCounter < -32
      · exact ⟨_, (if_neg equal).trans ((if_pos negative).trans (if_pos far))⟩
      · have marked : testBit state.messageCounterBitmap
            (-state.calculateDiff messageCounter - 1).toNat = true := by
          rcases farOrMarked with isFar | marked
          · exact absurd isFar far
          · exact marked
        have isMarked := isCounterKnownInBitmap_eq state negative (Int.not_lt.mp far)
        rw [marked] at isMarked
        refine ⟨"Message counter is within the message counter window and duplicate.",
          (if_neg equal).trans ((if_pos negative).trans ((if_neg far).trans ?_))⟩
        rw [isMarked]

theorem updateMessageCounterAndBitmap_moved
    (hasMaximum : state.maximumMessageCounter = some maximum)
    (notFar : -32 ≤ state.calculateDiff messageCounter) :
    ∃ next, state.updateMessageCounterAndBitmap messageCounter
        (state.calculateDiff messageCounter) = .ok next ∧
      Moved state messageCounter maximum next := by
  have notRolledBack : ¬state.calculateDiff messageCounter < -msgCounterWindowSize :=
    Int.not_lt.mpr notFar
  rw [updateMessageCounterAndBitmap, hasMaximum]
  rcases lt_trichotomy (state.calculateDiff messageCounter) 0 with negative | zero | positive
  · rcases calculateMessageCounterBitmap_behind state.messageCounterBitmap negative notFar
      with ⟨bitmap, computed, bits⟩
    refine ⟨⟨some maximum, bitmap⟩, ?_, .behind negative notFar rfl bits⟩
    simp [computed, not_lt.mpr negative.le, notRolledBack]
  · have computed : calculateMessageCounterBitmap state.messageCounterBitmap 0 =
        .ok (unsignedShiftRight state.messageCounterBitmap 0) := rfl
    refine ⟨⟨some maximum, unsignedShiftRight state.messageCounterBitmap 0⟩, ?_,
      .nowhere zero rfl (testBit_unsignedShiftRight_zero _)⟩
    have stays : ¬((0 : Int) < 0 ∨ (0 : Int) < -msgCounterWindowSize) := by decide
    simp only [zero, computed, stays, if_false]
  · by_cases inWindow : state.calculateDiff messageCounter ≤ 32
    · rcases calculateMessageCounterBitmap_ahead state.messageCounterBitmap _ positive
        inWindow with ⟨bitmap, computed, bits⟩
      refine ⟨⟨some messageCounter, bitmap⟩, ?_, .ahead positive rfl (fun _ => bits)⟩
      simp [computed, positive]
    · rcases calculateMessageCounterBitmap_far state.messageCounterBitmap
        (Int.not_le.mp inWindow) with ⟨bitmap, computed, bits⟩
      refine ⟨⟨some messageCounter, bitmap⟩, ?_,
        .ahead positive rfl (fun inside => absurd inside inWindow)⟩
      simp [computed, positive]

theorem moved_of_accept (hasMaximum : state.maximumMessageCounter = some maximum)
    (accepts : accept state messageCounter = some next) :
    messageCounter ≠ maximum ∧ Moved state messageCounter maximum next := by
  have inRange := inRange_of_accept accepts
  have valid := updateMessageCounter_of_inRange inRange
  have notDuplicate : ¬IsDuplicate state messageCounter := by
    intro duplicate
    rw [accept_none_of_isDuplicate duplicate] at accepts
    cases accepts
  have unknown := mt (isDuplicate_of_known hasMaximum inRange) notDuplicate
  push Not at unknown
  rcases unknown with ⟨different, unmarked⟩
  have notFar : -32 ≤ state.calculateDiff messageCounter := by
    omega
  rcases updateMessageCounterAndBitmap_moved hasMaximum notFar with
    ⟨moved, updates, isMoved⟩
  have computes : state.updateMessageCounter messageCounter = .ok moved := by
    rw [updateMessageCounter, if_neg valid, hasMaximum]
    refine (if_neg different).trans ?_
    by_cases negative : state.calculateDiff messageCounter < 0
    · have isUnmarked := isCounterKnownInBitmap_eq state negative notFar
      rw [Bool.eq_false_iff.mpr (unmarked negative).2] at isUnmarked
      refine (if_pos negative).trans ((if_neg (Int.not_lt.mpr notFar)).trans ?_)
      rw [isUnmarked, updates]
    · exact (if_neg negative).trans updates
  rw [accept, computes] at accepts
  cases accepts
  exact ⟨different, isMoved⟩

end Call

/-! ## The maximum -/

def MaximumInRange (state : MessageReceptionState kind) : Prop :=
  ∀ maximum ∈ state.maximumMessageCounter, InRange maximum

theorem afterMessage_of_accept {state next : MessageReceptionState kind}
    {messageCounter : Int} (accepts : accept state messageCounter = some next) :
    afterMessage state messageCounter = next := by
  rw [afterMessage, accepts, Option.getD_some]

theorem afterMessage_of_refuse {state : MessageReceptionState kind} {messageCounter : Int}
    (refuses : accept state messageCounter = none) :
    afterMessage state messageCounter = state := by
  rw [afterMessage, refuses, Option.getD_none]

theorem maximum_of_accept_first {state next : MessageReceptionState kind}
    {messageCounter : Int} (noMaximum : state.maximumMessageCounter = none)
    (accepts : accept state messageCounter = some next) :
    next.maximumMessageCounter = some messageCounter := by
  have valid := updateMessageCounter_of_inRange (inRange_of_accept accepts)
  rw [accept, updateMessageCounter, if_neg valid, updateMessageCounterAndBitmap,
    noMaximum] at accepts
  cases accepts
  rfl

theorem maximumInRange_afterMessage (state : MessageReceptionState kind)
    (messageCounter : Int) (inRange : MaximumInRange state) :
    MaximumInRange (afterMessage state messageCounter) := by
  cases accepts : accept state messageCounter with
  | none => rwa [afterMessage_of_refuse accepts]
  | some next =>
    rw [afterMessage_of_accept accepts]
    have counterInRange := inRange_of_accept accepts
    intro newMaximum isMaximum
    cases hasMaximum : state.maximumMessageCounter with
    | none =>
      rw [maximum_of_accept_first hasMaximum accepts] at isMaximum
      cases isMaximum
      exact counterInRange
    | some maximum =>
      cases (moved_of_accept hasMaximum accepts).2 with
      | behind _ _ sameMaximum _ =>
        rw [sameMaximum] at isMaximum
        cases isMaximum
        exact inRange _ hasMaximum
      | nowhere _ sameMaximum _ =>
        rw [sameMaximum] at isMaximum
        cases isMaximum
        exact inRange _ hasMaximum
      | ahead _ maximumMoved _ =>
        rw [maximumMoved] at isMaximum
        cases isMaximum
        exact counterInRange

theorem maximumInRange_reached (kind : MessageReceptionKind) {initial : Option Int}
    (initialInRange : ∀ maximum ∈ initial, InRange maximum) (messageCounters : List Int) :
    MaximumInRange (reached kind initial messageCounters) := by
  apply run_invariant afterMessage MaximumInRange maximumInRange_afterMessage
  cases initial with
  | none =>
    intro maximum isMaximum
    cases isMaximum
  | some maximum => exact initialInRange

/-! ## One counter on the ring -/

/-- The state knows `counter`: it is the maximum, or marked, or behind the
window. -/
structure Recalls (state : MessageReceptionState kind) (counter maximum : Int) : Prop where
  hasMaximum : state.maximumMessageCounter = some maximum
  maximumInRange : InRange maximum
  counterInRange : InRange counter
  marked : counter ≠ maximum → ringDistance counter maximum ≤ 32 →
    testBit state.messageCounterBitmap (ringDistance counter maximum - 1).toNat = true

section Ring

variable {counter maximum other : Int}

theorem ringDistance_self (counter : Int) : ringDistance counter counter = 0 := by
  rw [ringDistance, Int.sub_self, Int.zero_emod]

theorem ringDistance_nonneg (lower upper : Int) : 0 ≤ ringDistance lower upper :=
  Int.emod_nonneg _ (by decide)

theorem ringDistance_pos (counterInRange : InRange counter)
    (maximumInRange : InRange maximum) (different : counter ≠ maximum) :
    0 < ringDistance counter maximum := by
  rw [InRange, maxCounterValue32Bit] at counterInRange maximumInRange
  rw [ringDistance, ringSize, maxCounterValue32Bit]
  omega

theorem ringDistance_add (notAround : ringDistance counter maximum +
      ringDistance maximum other < ringSize) :
    ringDistance counter other =
      ringDistance counter maximum + ringDistance maximum other := by
  simp only [ringDistance, ringSize, maxCounterValue32Bit] at notAround ⊢
  omega

structure OnRing (maximum messageCounter diff : Int) : Prop where
  behind : diff < 0 → diff = -ringDistance messageCounter maximum
  ahead : 0 < diff → diff = ringDistance maximum messageCounter
  moves : diff ≠ 0

variable (maximumInRange : InRange maximum)

include maximumInRange

theorem diffEncryptedWithRollover_onRing
    (counterInRange : InRange counter) (different : counter ≠ maximum) :
    OnRing maximum counter (diffEncryptedWithRollover maximum counter) := by
  rw [InRange, maxCounterValue32Bit] at counterInRange maximumInRange
  constructor
  all_goals
    rw [diffEncryptedWithRollover, maxCounterIncrease2Pow31, maxCounterValue32Bit]
    try rw [ringDistance, ringSize, maxCounterValue32Bit]
    grind

theorem diffEncryptedWithRollover_of_near
    (counterInRange : InRange counter) (different : counter ≠ maximum)
    (near : ringDistance counter maximum < 2 ^ 31 - 1) :
    diffEncryptedWithRollover maximum counter = -ringDistance counter maximum := by
  rw [InRange, maxCounterValue32Bit] at counterInRange maximumInRange
  rw [ringDistance, ringSize, maxCounterValue32Bit] at near ⊢
  rw [diffEncryptedWithRollover, maxCounterIncrease2Pow31, maxCounterValue32Bit]
  grind

/-- No counter is taken to lie ahead by more than half of the ring. -/
theorem diffEncryptedWithRollover_lt (counterInRange : InRange counter) :
    diffEncryptedWithRollover maximum counter < 2 ^ 31 := by
  rw [InRange, maxCounterValue32Bit] at counterInRange maximumInRange
  rw [diffEncryptedWithRollover, maxCounterIncrease2Pow31, maxCounterValue32Bit]
  grind

theorem diffUnencryptedWithRollover_onRing
    (counterInRange : InRange counter) (different : counter ≠ maximum)
    (notFarBelow : maximum - 32 ≤ counter) :
    OnRing maximum counter (diffUnencryptedWithRollover maximum counter) := by
  rw [InRange, maxCounterValue32Bit] at counterInRange maximumInRange
  constructor
  all_goals
    rw [diffUnencryptedWithRollover, msgCounterWindowSize, maxCounterValue32Bit]
    try rw [ringDistance, ringSize, maxCounterValue32Bit]
    grind

/-- What may lie ahead does not reach around to the window. -/
theorem diffUnencryptedWithRollover_lt
    (counterInRange : InRange counter) (notFarBelow : maximum - 32 ≤ counter) :
    diffUnencryptedWithRollover maximum counter < ringSize - 32 := by
  rw [InRange, maxCounterValue32Bit] at counterInRange maximumInRange
  rw [diffUnencryptedWithRollover, msgCounterWindowSize, ringSize, maxCounterValue32Bit]
  grind

theorem diffUnencryptedWithRollover_of_near
    (counterInRange : InRange counter) (different : counter ≠ maximum)
    (near : ringDistance counter maximum ≤ 32) :
    diffUnencryptedWithRollover maximum counter = -ringDistance counter maximum := by
  rw [InRange, maxCounterValue32Bit] at counterInRange maximumInRange
  rw [ringDistance, ringSize, maxCounterValue32Bit] at near ⊢
  rw [diffUnencryptedWithRollover, msgCounterWindowSize, maxCounterValue32Bit]
  grind

end Ring

section Recalls

variable {state next : MessageReceptionState kind} {counter maximum other : Int}

theorem recalls_of_accept_first (noMaximum : state.maximumMessageCounter = none)
    (accepts : accept state counter = some next) : Recalls next counter counter where
  hasMaximum := maximum_of_accept_first noMaximum accepts
  maximumInRange := inRange_of_accept accepts
  counterInRange := inRange_of_accept accepts
  marked different := absurd rfl different

theorem recalls_of_accept (hasMaximum : state.maximumMessageCounter = some maximum)
    (maximumInRange : InRange maximum)
    (onRing : OnRing maximum counter (state.calculateDiff counter))
    (accepts : accept state counter = some next) :
    Recalls next counter counter ∨
      ringDistance counter maximum ≤ 32 ∧ Recalls next counter maximum := by
  cases (moved_of_accept hasMaximum accepts).2 with
  | behind negative inWindow sameMaximum bits =>
    have distance := onRing.behind negative
    refine .inr ⟨by omega, sameMaximum, maximumInRange, inRange_of_accept accepts, ?_⟩
    rw [bits, distance]
    simp
  | nowhere zero _ _ => exact absurd zero onRing.moves
  | ahead _ newMaximum _ =>
    exact .inl ⟨newMaximum, inRange_of_accept accepts, inRange_of_accept accepts,
      fun different => absurd rfl different⟩

variable (recalls : Recalls state counter maximum)

include recalls

theorem Recalls.stays (sameMaximum : next.maximumMessageCounter = some maximum)
    (moreBits : ∀ index, testBit state.messageCounterBitmap index = true →
      testBit next.messageCounterBitmap index = true) :
    Recalls next counter maximum where
  hasMaximum := sameMaximum
  maximumInRange := recalls.maximumInRange
  counterInRange := recalls.counterInRange
  marked different near := moreBits _ (recalls.marked different near)

theorem Recalls.ahead
    (otherInRange : InRange other) (newMaximum : next.maximumMessageCounter = some other)
    (positive : 0 < ringDistance maximum other)
    (bits : ringDistance maximum other ≤ 32 →
      ∀ index, testBit next.messageCounterBitmap index =
        ((decide (index < 32) &&
            !decide (index < shiftAmount (ringDistance maximum other)) &&
            testBit state.messageCounterBitmap
              (index - shiftAmount (ringDistance maximum other))) ||
          decide (index = (ringDistance maximum other - 1).toNat)))
    (notAround : ringDistance counter maximum + ringDistance maximum other < ringSize) :
    Recalls next counter other where
  hasMaximum := newMaximum
  maximumInRange := otherInRange
  counterInRange := recalls.counterInRange
  marked := by
    intro _ near
    have nonnegative := ringDistance_nonneg counter maximum
    rw [ringDistance_add notAround] at near ⊢
    rw [bits (by omega)]
    by_cases wasMaximum : counter = maximum
    · rw [wasMaximum, ringDistance_self]
      simp
    · have marked := recalls.marked wasMaximum (by omega)
      have behind := ringDistance_pos recalls.counterInRange recalls.maximumInRange wasMaximum
      rw [shiftAmount_eq positive.le (by omega)]
      have position : (ringDistance counter maximum + ringDistance maximum other - 1).toNat -
          (ringDistance maximum other).toNat = (ringDistance counter maximum - 1).toNat := by
        omega
      rw [position, marked]
      simp only [Bool.and_true, Bool.or_eq_true, Bool.and_eq_true, Bool.not_eq_true',
        decide_eq_true_eq, decide_eq_false_iff_not]
      omega

theorem Recalls.accept (onRing : OnRing maximum other (state.calculateDiff other))
    (notAround : 0 < state.calculateDiff other →
      ringDistance counter maximum + ringDistance maximum other < ringSize)
    (accepts : accept state other = some next) :
    Recalls next counter maximum ∨
      0 < state.calculateDiff other ∧ Recalls next counter other := by
  cases (moved_of_accept recalls.hasMaximum accepts).2 with
  | behind _ _ sameMaximum bits =>
    refine .inl (recalls.stays sameMaximum ?_)
    intro index marked
    rw [bits, marked, Bool.true_or]
  | nowhere _ sameMaximum bits =>
    refine .inl (recalls.stays sameMaximum ?_)
    intro index marked
    rw [bits, marked]
  | ahead positive newMaximum bits =>
    have distance := onRing.ahead positive
    rw [distance] at bits
    exact .inr ⟨positive, recalls.ahead (inRange_of_accept accepts) newMaximum
      (distance ▸ positive) bits (notAround positive)⟩

theorem Recalls.isDuplicate
    (behind : counter ≠ maximum → state.calculateDiff counter = -ringDistance counter maximum) :
    IsDuplicate state counter := by
  apply isDuplicate_of_known recalls.hasMaximum recalls.counterInRange
  by_cases isMaximum : counter = maximum
  · exact .inl isMaximum
  · have positive := ringDistance_pos recalls.counterInRange recalls.maximumInRange isMaximum
    rw [behind isMaximum, Int.neg_neg]
    refine .inr ⟨by omega, ?_⟩
    by_cases near : ringDistance counter maximum ≤ 32
    · exact .inr (recalls.marked isMaximum near)
    · exact .inl (by omega)

end Recalls

/-! ## Encrypted messages: half of the ring -/

section Encrypted

/-- How far a call moved the maximum forward. -/
def forwardJump (before after : MessageReceptionState .encryptedWithRollover) : Int :=
  match before.maximumMessageCounter, after.maximumMessageCounter with
  | some maximum, some next => ringDistance maximum next
  | _, _ => 0

/-- The forward jumps of the maximum during some calls, taken together. -/
def forwardJumps (state : MessageReceptionState .encryptedWithRollover) : List Int → Int
  | [] => 0
  | messageCounter :: later =>
    forwardJump state (afterMessage state messageCounter) +
      forwardJumps (afterMessage state messageCounter) later

def distanceBehind (state : MessageReceptionState .encryptedWithRollover)
    (messageCounter : Int) : Int :=
  state.maximumMessageCounter.elim 0 (ringDistance messageCounter)

variable {state next : MessageReceptionState .encryptedWithRollover}
  {counter maximum other : Int}

theorem forwardJumps_nonneg (state : MessageReceptionState .encryptedWithRollover)
    (messageCounters : List Int) : 0 ≤ forwardJumps state messageCounters := by
  induction messageCounters generalizing state with
  | nil => exact le_rfl
  | cons messageCounter later induction =>
    have laterJumps := induction (afterMessage state messageCounter)
    have thisJump : 0 ≤ forwardJump state (afterMessage state messageCounter) := by
      rw [forwardJump]
      split
      · exact ringDistance_nonneg _ _
      · exact le_rfl
    rw [forwardJumps]
    omega

theorem onRing_of_encrypted (hasMaximum : state.maximumMessageCounter = some maximum)
    (maximumInRange : InRange maximum) (accepts : accept state other = some next) :
    OnRing maximum other (state.calculateDiff other) := by
  rw [calculateDiff, hasMaximum]
  exact diffEncryptedWithRollover_onRing maximumInRange (inRange_of_accept accepts)
    (moved_of_accept hasMaximum accepts).1

theorem Recalls.isDuplicate_after {counter maximum : Int}
    (recalls : Recalls state counter maximum) {later : List Int}
    (near : ringDistance counter maximum + forwardJumps state later < 2 ^ 31 - 1) :
    IsDuplicate (run afterMessage state later) counter := by
  induction later generalizing state maximum with
  | nil =>
    apply recalls.isDuplicate
    intro different
    rw [calculateDiff, recalls.hasMaximum]
    exact diffEncryptedWithRollover_of_near recalls.maximumInRange recalls.counterInRange
      different (by simpa [forwardJumps] using near)
  | cons other later induction =>
    rw [run_cons]
    rw [forwardJumps] at near
    cases accepts : MessageReceptionState.accept state other with
    | none =>
      rw [afterMessage_of_refuse accepts] at near ⊢
      have stays : forwardJump state state = 0 := by
        rw [forwardJump, recalls.hasMaximum]
        exact ringDistance_self maximum
      rw [stays, Int.zero_add] at near
      exact induction recalls near
    | some next =>
      rw [afterMessage_of_accept accepts] at near ⊢
      have onRing := onRing_of_encrypted recalls.hasMaximum recalls.maximumInRange accepts
      have laterJumps := forwardJumps_nonneg next later
      have thisJump : 0 ≤ forwardJump state next := by
        have jumps := forwardJumps_nonneg state [other]
        rwa [forwardJumps, forwardJumps, Int.add_zero, afterMessage_of_accept accepts] at jumps
      have notAround : 0 < state.calculateDiff other →
          ringDistance counter maximum + ringDistance maximum other < ringSize := by
        intro positive
        have half : state.calculateDiff other < 2 ^ 31 := by
          rw [calculateDiff, recalls.hasMaximum]
          exact diffEncryptedWithRollover_lt recalls.maximumInRange (inRange_of_accept accepts)
        rw [onRing.ahead positive] at half
        rw [ringSize, maxCounterValue32Bit]
        omega
      rcases recalls.accept onRing notAround accepts with kept | ⟨positive, moved⟩
      · have stays : forwardJump state next = 0 := by
          rw [forwardJump, recalls.hasMaximum, kept.hasMaximum]
          exact ringDistance_self maximum
        exact induction kept (by omega)
      · have jump : forwardJump state next = ringDistance maximum other := by
          rw [forwardJump, recalls.hasMaximum, moved.hasMaximum]
        apply induction moved
        rw [ringDistance_add (notAround positive)]
        omega

/-- An accepted counter is not accepted again as long as its distance behind
the maximum, and all later forward jumps of the maximum, stay below half of the
ring. -/
theorem encrypted_rejectsReplay {initial : Option Int}
    (initialInRange : ∀ maximum ∈ initial, InRange maximum) (earlier later : List Int)
    (accepts : accept (reached .encryptedWithRollover initial earlier) counter = some next)
    (near : distanceBehind next counter + forwardJumps next later < 2 ^ 31 - 1) :
    accept (run afterMessage next later) counter = none := by
  have maximumInRange := maximumInRange_reached .encryptedWithRollover initialInRange earlier
  have recalled : ∃ maximum, Recalls next counter maximum := by
    cases hasMaximum : (reached .encryptedWithRollover initial earlier).maximumMessageCounter with
    | none => exact ⟨counter, recalls_of_accept_first hasMaximum accepts⟩
    | some maximum =>
      have inRange := maximumInRange maximum hasMaximum
      rcases recalls_of_accept hasMaximum inRange
        (onRing_of_encrypted hasMaximum inRange accepts) accepts with newest | ⟨_, behind⟩
      · exact ⟨counter, newest⟩
      · exact ⟨maximum, behind⟩
  rcases recalled with ⟨maximum, recalls⟩
  apply accept_none_of_isDuplicate
  apply recalls.isDuplicate_after
  rwa [distanceBehind, recalls.hasMaximum] at near

/-- The counter at the top of the range, after the maximum went over it. -/
theorem encrypted_rejectsReplay_overTop :
    accept (run afterMessage
      (@new .encryptedWithRollover (some maxCounterValue32Bit)) [0, 2 ^ 30])
        maxCounterValue32Bit = none :=
  @encrypted_rejectsReplay _ maxCounterValue32Bit none (by simp) [] [0, 2 ^ 30]
    (by decide) (by decide)

end Encrypted

/-! ## Unencrypted messages: the window -/

section Unencrypted

variable {state next : MessageReceptionState .unencryptedWithRollover}
  {counter maximum other : Int}

/-- The call takes a counter far below the maximum for one that rolled over: its
difference is one step short. -/
def RollsOver (state : MessageReceptionState .unencryptedWithRollover)
    (messageCounter : Int) : Prop :=
  InRange messageCounter ∧
    ∃ maximum ∈ state.maximumMessageCounter, messageCounter - maximum < -msgCounterWindowSize

/-- If the call is accepted, its counter is one of the 31 that follow `counter`
on the ring. -/
def AcceptsInWindow (counter : Int)
    (state : MessageReceptionState .unencryptedWithRollover) (messageCounter : Int) : Prop :=
  (accept state messageCounter).isSome →
    1 ≤ ringDistance counter messageCounter ∧ ringDistance counter messageCounter ≤ 31

instance (state : MessageReceptionState .unencryptedWithRollover) (messageCounter : Int) :
    Decidable (RollsOver state messageCounter) :=
  inferInstanceAs (Decidable (_ ∧ ∃ maximum ∈ state.maximumMessageCounter, _))

instance (counter : Int) (state : MessageReceptionState .unencryptedWithRollover)
    (messageCounter : Int) : Decidable (AcceptsInWindow counter state messageCounter) :=
  inferInstanceAs (Decidable (_ → _))

theorem notFarBelow_of_noRollover (hasMaximum : state.maximumMessageCounter = some maximum)
    (inRange : InRange other) (noRollover : ¬RollsOver state other) :
    maximum - 32 ≤ other := by
  by_contra farBelow
  refine noRollover ⟨inRange, maximum, hasMaximum, ?_⟩
  rw [msgCounterWindowSize]
  omega

theorem onRing_of_unencrypted (hasMaximum : state.maximumMessageCounter = some maximum)
    (maximumInRange : InRange maximum) (accepts : accept state other = some next)
    (noRollover : ¬RollsOver state other) :
    OnRing maximum other (state.calculateDiff other) := by
  have inRange := inRange_of_accept accepts
  have notFarBelow := notFarBelow_of_noRollover hasMaximum inRange noRollover
  rw [calculateDiff, hasMaximum]
  exact diffUnencryptedWithRollover_onRing maximumInRange inRange
    (moved_of_accept hasMaximum accepts).1 notFarBelow

theorem Recalls.isDuplicate_within {maximum : Int} (recalls : Recalls state counter maximum)
    (near : ringDistance counter maximum ≤ 32) {later : List Int}
    (within : Along afterMessage (AcceptsInWindow counter) state later)
    (noRollover : Along afterMessage (fun state other => ¬RollsOver state other) state later) :
    IsDuplicate (run afterMessage state later) counter := by
  induction later generalizing state maximum with
  | nil =>
    apply recalls.isDuplicate
    intro different
    rw [calculateDiff, recalls.hasMaximum]
    exact diffUnencryptedWithRollover_of_near recalls.maximumInRange
      recalls.counterInRange different near
  | cons other later induction =>
    rcases within with ⟨otherWithin, laterWithin⟩
    rcases noRollover with ⟨otherStays, laterStay⟩
    rw [run_cons]
    cases accepts : MessageReceptionState.accept state other with
    | none =>
      rw [afterMessage_of_refuse accepts] at laterWithin laterStay ⊢
      exact induction recalls near laterWithin laterStay
    | some next =>
      rw [afterMessage_of_accept accepts] at laterWithin laterStay ⊢
      have onRing := onRing_of_unencrypted recalls.hasMaximum recalls.maximumInRange
        accepts otherStays
      have otherNear := (otherWithin (by rw [accepts]; rfl)).2
      have notAround : 0 < state.calculateDiff other →
          ringDistance counter maximum + ringDistance maximum other < ringSize := by
        intro positive
        have inRange := inRange_of_accept accepts
        have short : state.calculateDiff other < ringSize - 32 := by
          rw [calculateDiff, recalls.hasMaximum]
          exact diffUnencryptedWithRollover_lt recalls.maximumInRange inRange
            (notFarBelow_of_noRollover recalls.hasMaximum inRange otherStays)
        rw [onRing.ahead positive] at short
        omega
      rcases recalls.accept onRing notAround accepts with kept | ⟨_, moved⟩
      · exact induction kept near laterWithin laterStay
      · exact induction moved (by omega) laterWithin laterStay

/-- An accepted counter is refused as a duplicate at once, and after every run
that only accepts the 31 counters after it, if neither its own call nor a later
one rolls over. -/
theorem unencrypted_rejectsReplay {initial : Option Int}
    (initialInRange : ∀ maximum ∈ initial, InRange maximum) (earlier later : List Int)
    (accepts : accept (reached .unencryptedWithRollover initial earlier) counter = some next)
    (within : Along afterMessage (AcceptsInWindow counter) next later)
    (noRollover : Along afterMessage (fun state other => ¬RollsOver state other)
      (reached .unencryptedWithRollover initial earlier) (counter :: later)) :
    IsDuplicate (run afterMessage next later) counter := by
  rcases noRollover with ⟨counterStays, laterStay⟩
  rw [afterMessage_of_accept accepts] at laterStay
  have maximumInRange := maximumInRange_reached .unencryptedWithRollover initialInRange earlier
  cases hasMaximum : (reached .unencryptedWithRollover initial earlier).maximumMessageCounter with
  | none =>
    have newest := recalls_of_accept_first hasMaximum accepts
    exact newest.isDuplicate_within (by rw [ringDistance_self]; decide) within laterStay
  | some maximum =>
    have inRange := maximumInRange maximum hasMaximum
    rcases recalls_of_accept hasMaximum inRange
      (onRing_of_unencrypted hasMaximum inRange accepts counterStays) accepts with
      newest | ⟨near, behind⟩
    · exact newest.isDuplicate_within (by rw [ringDistance_self]; decide) within laterStay
    · exact behind.isDuplicate_within near within laterStay

theorem unencrypted_rejectsReplay_twoCalls :
    IsDuplicate (run afterMessage (afterMessage
      (reached .unencryptedWithRollover none [10]) 20) [21, 51]) 20 :=
  @unencrypted_rejectsReplay _ 20 none (by simp) [10] [21, 51] (by decide) (by decide) (by decide)

/-- From the top of the range to zero the difference is zero, so nothing is
noted, and the counter is accepted again. -/
theorem unencrypted_acceptsReplay_overTop :
    (accept (reached .unencryptedWithRollover none [maxCounterValue32Bit]) 0).isSome ∧
      (accept (afterMessage
        (reached .unencryptedWithRollover none [maxCounterValue32Bit]) 0) 0).isSome := by
  decide

end Unencrypted

end MatterJs.Protocol.MessageReceptionState
