import Mathlib.Data.Int.ConditionallyCompleteOrder
import Mathlib.Data.List.Induction
import Mathlib.Order.ConditionallyCompleteLattice.Basic
import MatterJs.Foundation.ReplayFilter
import MatterJs.Protocol.MessageReceptionState

/-! Replay protection of encrypted sessions: what the maximum and the bitmap
know about the counters received, and how the sliding window is refined. -/

namespace MatterJs.Protocol.MessageReceptionState

open Execution ReplayFilter Bitwise32 History

def InRange (messageCounter : Int) : Prop :=
  0 ≤ messageCounter ∧ messageCounter ≤ maxCounterValue32Bit

instance (messageCounter : Int) : Decidable (InRange messageCounter) :=
  inferInstanceAs (Decidable (_ ∧ _))

/-- `updateMessageCounter` without its error. -/
def accept {kind : MessageReceptionKind} (state : MessageReceptionState kind)
    (messageCounter : Int) : Option (MessageReceptionState kind) :=
  (state.updateMessageCounter messageCounter).toOption

/-! ## The bitmap after one counter -/

theorem calculateMessageCounterBitmap_behind (bitmap : Int) {diff : Int}
    (negative : diff < 0) (inWindow : -32 ≤ diff) :
    ∃ next, calculateMessageCounterBitmap bitmap diff = .ok next ∧
      ∀ index, testBit next index =
        (testBit bitmap index || decide (index = (-diff - 1).toNat)) := by
  have notTooLarge : ¬diff < -msgCounterWindowSize := by
    unfold msgCounterWindowSize
    omega
  refine ⟨_, (if_pos negative).trans (if_neg notTooLarge), ?_⟩
  intro index
  have position : shiftAmount (-diff - 1) = (-diff - 1).toNat :=
    shiftAmount_eq (by omega) (by omega)
  rw [testBit_unsignedShiftRight_zero, testBit_or, testBit_mask, position]

theorem calculateMessageCounterBitmap_ahead (bitmap diff : Int)
    (positive : 0 < diff) (inWindow : diff ≤ 32) :
    ∃ next, calculateMessageCounterBitmap bitmap diff = .ok next ∧
      ∀ index, testBit next index =
        ((decide (index < 32) && !decide (index < shiftAmount diff) &&
            testBit bitmap (index - shiftAmount diff)) ||
          decide (index = (diff - 1).toNat)) := by
  have notNegative : ¬diff < 0 := by omega
  have withinSize : diff ≤ msgCounterWindowSize := inWindow
  refine ⟨_, (if_neg notNegative).trans ((if_pos positive).trans (if_pos withinSize)), ?_⟩
  intro index
  have position : shiftAmount (diff - 1) = (diff - 1).toNat :=
    shiftAmount_eq (by omega) (by omega)
  rw [testBit_unsignedShiftRight_zero, testBit_or,
    testBit_unsignedShiftRight_zero, testBit_shiftLeft,
    testBit_mask, position]

theorem calculateMessageCounterBitmap_far (bitmap : Int) {diff : Int} (far : 32 < diff) :
    ∃ next, calculateMessageCounterBitmap bitmap diff = .ok next ∧
      ∀ index, testBit next index = false := by
  have notNegative : ¬diff < 0 := by omega
  have positive : 0 < diff := by omega
  have beyondSize : ¬diff ≤ msgCounterWindowSize := by
    unfold msgCounterWindowSize
    omega
  refine ⟨_, (if_neg notNegative).trans ((if_pos positive).trans (if_neg beyondSize)), ?_⟩
  intro index
  rw [testBit_unsignedShiftRight_zero]
  simp [testBit, low]

theorem isCounterKnownInBitmap_eq {kind : MessageReceptionKind}
    (state : MessageReceptionState kind) {diff : Int}
    (negative : diff < 0) (inWindow : -32 ≤ diff) :
    state.isCounterKnownInBitmap diff =
      .ok (testBit state.messageCounterBitmap (-diff - 1).toNat) := by
  have valid : ¬(diff < -msgCounterWindowSize ∨ 0 ≤ diff) := by
    unfold msgCounterWindowSize
    omega
  have position : shiftAmount (-diff - 1) = (-diff - 1).toNat :=
    shiftAmount_eq (by omega) (by omega)
  rw [isCounterKnownInBitmap, if_neg valid, ← position]
  cases marked : testBit state.messageCounterBitmap
      (shiftAmount (-diff - 1)) with
  | false =>
    have isZero := (and_mask_eq_zero_iff _ _).mpr marked
    simp [isZero]
  | true =>
    have notZero : Bitwise32.and state.messageCounterBitmap
        (shiftLeft 1 (-diff - 1)) ≠ 0 := by
      intro isZero
      rw [(and_mask_eq_zero_iff _ _).mp isZero] at marked
      cases marked
    simpa using notZero

/-- The counters the state takes for received: the maximum, everything behind
the window, and what the bitmap marks. -/
def known (state : MessageReceptionState .encryptedWithoutRollover) : Set Int :=
  {counter | ∃ maximum, state.maximumMessageCounter = some maximum ∧
    (counter = maximum ∨ counter < maximum - 32 ∨
      counter < maximum ∧ testBit state.messageCounterBitmap
        (maximum - counter - 1).toNat = true)}

theorem mem_known_iff {state : MessageReceptionState .encryptedWithoutRollover}
    {maximum : Int} (hasMaximum : state.maximumMessageCounter = some maximum)
    (counter : Int) :
    counter ∈ known state ↔
      counter = maximum ∨ counter < maximum - 32 ∨
        counter < maximum ∧ testBit state.messageCounterBitmap
          (maximum - counter - 1).toNat = true := by
  simp [known, hasMaximum]

theorem not_mem_known_of_none {state : MessageReceptionState .encryptedWithoutRollover}
    (noMaximum : state.maximumMessageCounter = none) (counter : Int) :
    counter ∉ known state := by
  simp [known, noMaximum]

/-- A jump exactly as long as the window, while the bitmap still marks a counter
that this jump should push out. -/
def StaleJump (state : MessageReceptionState .encryptedWithoutRollover)
    (messageCounter : Int) : Prop :=
  state.maximumMessageCounter = some (messageCounter - 32) ∧ InRange messageCounter ∧
    ∃ index < 31, testBit state.messageCounterBitmap index = true

instance (state : MessageReceptionState .encryptedWithoutRollover)
    (messageCounter : Int) : Decidable (StaleJump state messageCounter) :=
  inferInstanceAs (Decidable (_ ∧ _ ∧ _))

/-! ## One call of `updateMessageCounter` -/

section WithoutRollover

variable {state next : MessageReceptionState .encryptedWithoutRollover}
  {messageCounter maximum : Int}

theorem accept_of_not_inRange (outside : ¬InRange messageCounter) :
    accept state messageCounter = none := by
  have invalid : messageCounter < 0 ∨ maxCounterValue32Bit < messageCounter := by
    unfold InRange at outside
    omega
  simp [accept, updateMessageCounter, invalid, Except.toOption]

theorem updateMessageCounter_of_inRange (inRange : InRange messageCounter) :
    ¬(messageCounter < 0 ∨ maxCounterValue32Bit < messageCounter) := by
  unfold InRange at inRange
  omega

theorem accept_of_none (noMaximum : state.maximumMessageCounter = none)
    (inRange : InRange messageCounter) :
    accept state messageCounter = some (initializeCounter messageCounter) := by
  have valid := updateMessageCounter_of_inRange inRange
  simp [accept, updateMessageCounter, if_neg valid, noMaximum, updateMessageCounterAndBitmap,
    Except.toOption]

theorem accept_of_mem_known (isKnown : messageCounter ∈ known state) :
    accept state messageCounter = none := by
  by_cases inRange : InRange messageCounter
  · have valid := updateMessageCounter_of_inRange inRange
    rcases isKnown with ⟨maximum, hasMaximum, isKnown⟩
    simp only [accept, updateMessageCounter, if_neg valid, hasMaximum, calculateDiff]
    rcases isKnown with equal | behind | ⟨below, marked⟩
    · rw [if_pos equal]
      rfl
    · have different : messageCounter ≠ maximum := by omega
      have negative : messageCounter - maximum < 0 := by omega
      have tooFar : messageCounter - maximum < -msgCounterWindowSize := by
        unfold msgCounterWindowSize
        omega
      rw [if_neg different, if_pos negative, if_pos tooFar]
      rfl
    · have different : messageCounter ≠ maximum := by omega
      have negative : messageCounter - maximum < 0 := by omega
      rw [if_neg different, if_pos negative]
      by_cases tooFar : messageCounter - maximum < -msgCounterWindowSize
      · rw [if_pos tooFar]
        rfl
      · have inWindow : -32 ≤ messageCounter - maximum := by
          unfold msgCounterWindowSize at tooFar
          omega
        have position : (-(messageCounter - maximum) - 1).toNat =
            (maximum - messageCounter - 1).toNat := by omega
        rw [if_neg tooFar, isCounterKnownInBitmap_eq state negative inWindow, position, marked]
        rfl
  · exact accept_of_not_inRange inRange

theorem accept_behind (hasMaximum : state.maximumMessageCounter = some maximum)
    (inRange : InRange messageCounter) (unknown : messageCounter ∉ known state)
    (below : messageCounter < maximum) :
    ∃ next, accept state messageCounter = some next ∧
      next.maximumMessageCounter = some maximum ∧
      ∀ index, testBit next.messageCounterBitmap index =
        (testBit state.messageCounterBitmap index ||
          decide (index = (maximum - messageCounter - 1).toNat)) := by
  rw [mem_known_iff hasMaximum] at unknown
  push Not at unknown
  rcases unknown with ⟨different, notBehind, unmarked⟩
  have valid := updateMessageCounter_of_inRange inRange
  have negative : messageCounter - maximum < 0 := by omega
  have inWindow : -32 ≤ messageCounter - maximum := by omega
  have notTooFar : ¬messageCounter - maximum < -msgCounterWindowSize := by
    unfold msgCounterWindowSize
    omega
  have position : (-(messageCounter - maximum) - 1).toNat =
      (maximum - messageCounter - 1).toNat := by omega
  rcases calculateMessageCounterBitmap_behind state.messageCounterBitmap negative
    inWindow with ⟨bitmap, computed, bits⟩
  rw [position] at bits
  refine ⟨{ maximumMessageCounter := some maximum, messageCounterBitmap := bitmap }, ?_, rfl, bits⟩
  have notMarked : testBit state.messageCounterBitmap
      (maximum - messageCounter - 1).toNat = false := by
    simpa using unmarked below
  have notAhead : ¬(0 < messageCounter - maximum ∨
      messageCounter - maximum < -msgCounterWindowSize) := by omega
  simp only [accept, updateMessageCounter, if_neg valid, hasMaximum,
    if_neg different, calculateDiff, if_pos negative, if_neg notTooFar,
    isCounterKnownInBitmap_eq state negative inWindow, position, notMarked,
    updateMessageCounterAndBitmap, computed, if_neg notAhead, Except.toOption]

theorem accept_ahead (hasMaximum : state.maximumMessageCounter = some maximum)
    (inRange : InRange messageCounter) (above : maximum < messageCounter) :
    ∃ bitmap, calculateMessageCounterBitmap state.messageCounterBitmap
        (messageCounter - maximum) = .ok bitmap ∧
      accept state messageCounter = some {
        maximumMessageCounter := some messageCounter
        messageCounterBitmap := bitmap } := by
  have valid := updateMessageCounter_of_inRange inRange
  have different : messageCounter ≠ maximum := by omega
  have notNegative : ¬messageCounter - maximum < 0 := by omega
  have positive : 0 < messageCounter - maximum := by omega
  have computes : ∃ bitmap, calculateMessageCounterBitmap
      state.messageCounterBitmap (messageCounter - maximum) = .ok bitmap := by
    by_cases inWindow : messageCounter - maximum ≤ 32
    · rcases calculateMessageCounterBitmap_ahead state.messageCounterBitmap _ positive
        inWindow with ⟨bitmap, computed, _⟩
      exact ⟨bitmap, computed⟩
    · rcases calculateMessageCounterBitmap_far state.messageCounterBitmap
        (Int.not_le.mp inWindow) with ⟨bitmap, computed, _⟩
      exact ⟨bitmap, computed⟩
  rcases computes with ⟨bitmap, computed⟩
  refine ⟨bitmap, computed, ?_⟩
  simp only [accept, updateMessageCounter, if_neg valid, hasMaximum,
    if_neg different, calculateDiff, if_neg notNegative,
    updateMessageCounterAndBitmap, computed, positive, true_or, if_true,
    Except.toOption]

theorem accept_eq_none_iff :
    accept state messageCounter = none ↔
      ¬InRange messageCounter ∨ messageCounter ∈ known state := by
  constructor
  · intro refused
    by_contra accepted
    push Not at accepted
    rcases accepted with ⟨inRange, unknown⟩
    cases hasMaximum : state.maximumMessageCounter with
    | none => simp [accept_of_none hasMaximum inRange] at refused
    | some maximum =>
      have different : messageCounter ≠ maximum := fun equal =>
        unknown ((mem_known_iff hasMaximum _).mpr (.inl equal))
      rcases lt_or_gt_of_ne different with below | above
      · rcases accept_behind hasMaximum inRange unknown below with ⟨next, accepts, _⟩
        simp [accepts] at refused
      · rcases accept_ahead hasMaximum inRange above with ⟨bitmap, _, accepts⟩
        simp [accepts] at refused
  · intro refusedOrKnown
    rcases refusedOrKnown with outside | isKnown
    · exact accept_of_not_inRange outside
    · exact accept_of_mem_known isKnown

/-! ## The window one call leaves behind -/

theorem known_initializeCounter (messageCounter : Int) :
    known (initializeCounter messageCounter) = Set.Iic messageCounter := by
  ext other
  have allMarked (index : Nat) (inWord : index < 32) :
      testBit 0xffffffff index = true := by
    revert index
    decide
  rw [mem_known_iff rfl, Set.mem_Iic]
  constructor
  · intro isKnown
    omega
  · intro below
    by_cases inWindow : messageCounter - 32 ≤ other ∧ other < messageCounter
    · exact .inr (.inr ⟨inWindow.2, allMarked _ (by omega)⟩)
    · omega

theorem marked_ahead (hasMaximum : state.maximumMessageCounter = some maximum)
    (inRange : InRange messageCounter) (above : maximum < messageCounter)
    {bitmap : Int} (computed : calculateMessageCounterBitmap
      state.messageCounterBitmap (messageCounter - maximum) = .ok bitmap)
    {other : Int} (inWindow : messageCounter - 32 ≤ other)
    (below : other < messageCounter) :
    (other ∈ known state → testBit bitmap (messageCounter - other - 1).toNat = true) ∧
      (¬StaleJump state messageCounter → testBit bitmap
        (messageCounter - other - 1).toNat = true → other ∈ known state) := by
  rw [mem_known_iff hasMaximum]
  rcases lt_trichotomy (messageCounter - maximum) 32 with short | exact | far
  · -- the old bits move by the length of the jump
    rcases calculateMessageCounterBitmap_ahead state.messageCounterBitmap
      (messageCounter - maximum) (by omega) (by omega) with ⟨next, computedNext, bits⟩
    cases computed.symm.trans computedNext
    rw [bits, shiftAmount_eq (by omega) short]
    simp only [Bool.or_eq_true, Bool.and_eq_true, Bool.not_eq_true',
      decide_eq_true_eq, decide_eq_false_iff_not]
    constructor
    · intro isKnown
      rcases isKnown with equal | behind | ⟨belowMaximum, marked⟩
      · omega
      · omega
      · have position : (messageCounter - other - 1).toNat -
            (messageCounter - maximum).toNat = (maximum - other - 1).toNat := by
          omega
        rw [position]
        exact .inl ⟨⟨by omega, by omega⟩, marked⟩
    · intro _ isMarked
      rcases isMarked with ⟨⟨_, notShifted⟩, marked⟩ | previous
      · have position : (messageCounter - other - 1).toNat -
            (messageCounter - maximum).toNat = (maximum - other - 1).toNat := by
          omega
        rw [position] at marked
        exact .inr (.inr ⟨by omega, marked⟩)
      · omega
  · -- the shift amount wraps around, so the old bits stay where they are
    rcases calculateMessageCounterBitmap_ahead state.messageCounterBitmap
      (messageCounter - maximum) (by omega) (by omega) with ⟨next, computedNext, bits⟩
    cases computed.symm.trans computedNext
    have noShift : shiftAmount 32 = 0 := by decide
    rw [bits, exact]
    simp only [Bool.or_eq_true, Bool.and_eq_true, decide_eq_true_eq]
    constructor
    · intro isKnown
      omega
    · intro notStale isMarked
      rcases isMarked with ⟨_, marked⟩ | previous
      · by_cases lowBit : (messageCounter - other - 1).toNat < 31
        · exact absurd ⟨by rw [hasMaximum]; congr; omega, inRange, _, lowBit, marked⟩ notStale
        · omega
      · omega
  · -- nothing known before is left in the window
    rcases calculateMessageCounterBitmap_far state.messageCounterBitmap far
      with ⟨next, computedNext, bits⟩
    cases computed.symm.trans computedNext
    rw [bits]
    constructor
    · intro isKnown
      omega
    · intro _ impossible
      cases impossible

theorem not_refused_of_accept (accepts : accept state messageCounter = some next) :
    InRange messageCounter ∧ messageCounter ∉ known state := by
  have notRefused : ¬(¬InRange messageCounter ∨ messageCounter ∈ known state) := by
    rw [← accept_eq_none_iff, accepts]
    simp
  push Not at notRefused
  exact notRefused

theorem known_of_accept (hasMaximum : state.maximumMessageCounter = some maximum)
    (accepts : accept state messageCounter = some next) :
    receive 32 (known state) messageCounter ⊆ known next ∧
      (¬StaleJump state messageCounter →
        known next ⊆ receive 32 (known state) messageCounter) := by
  rcases not_refused_of_accept accepts with ⟨inRange, unknown⟩
  have different : messageCounter ≠ maximum := fun equal =>
    unknown ((mem_known_iff hasMaximum _).mpr (.inl equal))
  rcases lt_or_gt_of_ne different with below | above
  · rcases accept_behind hasMaximum inRange unknown below
      with ⟨computed, acceptsComputed, nextMaximum, bits⟩
    cases accepts.symm.trans acceptsComputed
    have sameWindow : known next = receive 32 (known state) messageCounter := by
      ext other
      simp only [mem_known_iff nextMaximum, receive, mem_known_iff hasMaximum]
      grind
    exact ⟨sameWindow.ge, fun _ => sameWindow.le⟩
  · rcases accept_ahead hasMaximum inRange above with ⟨bitmap, computed, acceptsComputed⟩
    cases Option.some.inj (acceptsComputed.symm.trans accepts)
    have atMostMaximum {other : Int} (isKnown : other ∈ known state) :
        other ≤ maximum := by
      rw [mem_known_iff hasMaximum] at isKnown
      omega
    constructor
    · intro other isReceived
      rcases isReceived with isKnown | equal | behind
      · have belowCounter := atMostMaximum isKnown
        by_cases inWindow : messageCounter - 32 ≤ other
        · exact ⟨_, rfl, .inr (.inr ⟨by omega, (marked_ahead hasMaximum inRange above
            computed inWindow (by omega)).1 isKnown⟩)⟩
        · exact ⟨_, rfl, .inr (.inl (by omega))⟩
      · exact ⟨_, rfl, .inl equal⟩
      · exact ⟨_, rfl, .inr (.inl behind)⟩
    · intro notStale other isKnown
      rw [mem_known_iff rfl] at isKnown
      rcases isKnown with equal | behind | ⟨belowCounter, marked⟩
      · exact .inr (.inl equal)
      · exact .inr (.inr behind)
      · by_cases inWindow : messageCounter - 32 ≤ other
        · exact .inl ((marked_ahead hasMaximum inRange above computed inWindow
            belowCounter).2 notStale marked)
        · exact .inr (.inr (by omega))

theorem maximum_of_accept (hasMaximum : state.maximumMessageCounter = some maximum)
    (accepts : accept state messageCounter = some next) :
    next.maximumMessageCounter = some (max maximum messageCounter) := by
  rcases not_refused_of_accept accepts with ⟨inRange, unknown⟩
  have different : messageCounter ≠ maximum := fun equal =>
    unknown ((mem_known_iff hasMaximum _).mpr (.inl equal))
  rcases lt_or_gt_of_ne different with below | above
  · rcases accept_behind hasMaximum inRange unknown below
      with ⟨computed, acceptsComputed, nextMaximum, _⟩
    cases Option.some.inj (acceptsComputed.symm.trans accepts)
    rw [nextMaximum, max_eq_left below.le]
  · rcases accept_ahead hasMaximum inRange above with ⟨bitmap, _, acceptsComputed⟩
    cases Option.some.inj (acceptsComputed.symm.trans accepts)
    rw [max_eq_right (le_of_lt above)]

theorem receive_subset_known (accepts : accept state messageCounter = some next) :
    receive 32 (known state) messageCounter ⊆ known next := by
  cases hasMaximum : state.maximumMessageCounter with
  | none =>
    have inRange := (not_refused_of_accept accepts).1
    cases Option.some.inj ((accept_of_none hasMaximum inRange).symm.trans accepts)
    rw [known_initializeCounter]
    intro other isReceived
    rcases isReceived with isKnown | equal | behind
    · exact absurd isKnown (not_mem_known_of_none hasMaximum other)
    · exact equal.le
    · have below : other ≤ messageCounter := by omega
      exact below
  | some maximum => exact (known_of_accept hasMaximum accepts).1

end WithoutRollover

theorem accept_remembers :
    Remembers (@accept .encryptedWithoutRollover) where
  refusesAccepted accepts :=
    accept_eq_none_iff.mpr (.inr (receive_subset_known accepts (.inr (.inl rfl))))
  keepsRefusing accepts refused := by
    rw [accept_eq_none_iff] at refused ⊢
    rcases refused with outside | isKnown
    · exact .inl outside
    · exact .inr (receive_subset_known accepts (.inl isKnown))

/-- The calls `updateMessageCounter` in order, on a newly constructed state. -/
def received (initial : Option Int) (messageCounters : List Int) :
    History (MessageReceptionState .encryptedWithoutRollover) Int :=
  run (offer accept) (start (new initial)) messageCounters

/-- No counter is accepted twice, and the initial maximum is never accepted. -/
theorem received_replaySafe (initial : Option Int) (messageCounters : List Int) :
    (received initial messageCounters).accepted.Nodup ∧
      ∀ maximum, initial = some maximum →
        maximum ∉ (received initial messageCounters).accepted := by
  refine ⟨(accept_remembers.run_neverTwice _ _).nodup, ?_⟩
  intro maximum isInitial
  subst isInitial
  apply accept_remembers.run_not_mem_accepted
  exact accept_eq_none_iff.mpr (.inr ((mem_known_iff rfl _).mpr (.inl rfl)))

/-! ## What the window loses -/

/-- A counter above the initial maximum that lies in the window and was never
accepted is accepted by the next call. -/
def LosesNothing (initialMaximum : Int)
    (history : History (MessageReceptionState .encryptedWithoutRollover) Int) : Prop :=
  ∀ maximum messageCounter,
    history.state.maximumMessageCounter = some maximum →
    initialMaximum < messageCounter → maximum - 32 ≤ messageCounter →
    messageCounter ≤ maximum → messageCounter ∉ history.accepted →
    (accept history.state messageCounter).isSome

/-- The maximum of a run that started at `initialMaximum`. -/
structure MaximumOf (initialMaximum : Int)
    (history : History (MessageReceptionState .encryptedWithoutRollover) Int)
    (maximum : Int) : Prop where
  isMaximum : history.state.maximumMessageCounter = some maximum
  initial_le : initialMaximum ≤ maximum
  accepted_le : ∀ messageCounter ∈ history.accepted, messageCounter ≤ maximum
  origin : maximum = initialMaximum ∨ maximum ∈ history.accepted
  accepted_inRange : ∀ messageCounter ∈ history.accepted, InRange messageCounter

theorem received_maximum (initialMaximum : Int) (messageCounters : List Int) :
    ∃ maximum, MaximumOf initialMaximum
      (received (some initialMaximum) messageCounters) maximum := by
  apply run_invariant (offer accept)
    (fun history => ∃ maximum, MaximumOf initialMaximum history maximum)
  · intro history messageCounter hasMaximum
    rcases hasMaximum with ⟨maximum, holds⟩
    cases accepts : accept history.state messageCounter with
    | none => exact ⟨maximum, by rwa [offer_of_refuse accepts]⟩
    | some next =>
      rw [offer_of_accept accepts]
      have inRange := (not_refused_of_accept accepts).1
      refine ⟨max maximum messageCounter, maximum_of_accept holds.isMaximum accepts,
        holds.initial_le.trans (le_max_left _ _), ?_, ?_, ?_⟩
      · intro other member
        rcases List.mem_append.mp member with member | member
        · exact (holds.accepted_le other member).trans (le_max_left _ _)
        · exact (List.mem_singleton.mp member).le.trans (le_max_right _ _)
      · rcases max_choice maximum messageCounter with left | right
        · rw [left]
          exact holds.origin.imp_right (List.mem_append_left _)
        · exact .inr (List.mem_append_right _ (by simp [right]))
      · intro other member
        rcases List.mem_append.mp member with member | member
        · exact holds.accepted_inRange other member
        · exact List.mem_singleton.mp member ▸ inRange
  · exact ⟨initialMaximum, rfl, le_rfl, by simp [start], .inl rfl, by simp [start]⟩

theorem received_known_eq (initialMaximum : Int) {messageCounters : List Int}
    (noStaleJump : Along (offer accept)
      (fun history messageCounter => ¬StaleJump history.state messageCounter)
      (start (new (some initialMaximum))) messageCounters) :
    known (received (some initialMaximum) messageCounters).state =
      knownAfter 32 (Set.Iic initialMaximum)
        (received (some initialMaximum) messageCounters).accepted := by
  have hasMaximum := Along.and_invariant
    (fun history : History (MessageReceptionState
      .encryptedWithoutRollover) Int =>
        ∃ maximum, history.state.maximumMessageCounter = some maximum)
    (by
      intro history messageCounter hasMaximum
      rcases hasMaximum with ⟨maximum, isMaximum⟩
      cases accepts : accept history.state messageCounter with
      | none => exact ⟨maximum, by rwa [offer_of_refuse accepts]⟩
      | some next =>
        rw [offer_of_accept accepts]
        exact ⟨_, maximum_of_accept isMaximum accepts⟩)
    ⟨initialMaximum, rfl⟩ noStaleJump
  rw [← known_initializeCounter]
  refine run_known_eq known (fun state messageCounter =>
    (∃ maximum, state.maximumMessageCounter = some maximum) ∧
      ¬StaleJump state messageCounter) ?_ _ hasMaximum
  intro state messageCounter next condition accepts
  rcases condition with ⟨⟨maximum, isMaximum⟩, notStale⟩
  have window := known_of_accept isMaximum accepts
  exact Set.Subset.antisymm (window.2 notStale) window.1

theorem not_losesNothing_of_staleJump {initialMaximum messageCounter : Int}
    {messageCounters : List Int}
    (stale : StaleJump (received (some initialMaximum) messageCounters).state messageCounter) :
    ¬LosesNothing initialMaximum
      (received (some initialMaximum) (messageCounters ++ [messageCounter])) := by
  rcases received_maximum initialMaximum messageCounters with ⟨maximum, holds⟩
  rcases stale with ⟨isMaximum, inRange, index, lowBit, marked⟩
  have maximumEqual : messageCounter - 32 = maximum :=
    Option.some.inj (isMaximum.symm.trans holds.isMaximum)
  rcases accept_ahead isMaximum inRange (by omega) with ⟨bitmap, computed, accepts⟩
  let next : MessageReceptionState .encryptedWithoutRollover :=
    { maximumMessageCounter := some messageCounter, messageCounterBitmap := bitmap }
  have lastOffer : received (some initialMaximum) (messageCounters ++ [messageCounter]) =
      { state := next, accepted :=
          (received (some initialMaximum) messageCounters).accepted ++
            [messageCounter] } := by
    rw [received, run_append]
    exact offer_of_accept accepts
  let lost := messageCounter - 1 - index
  have lostIsKnown : lost ∈ known next := by
    have jump : messageCounter - (messageCounter - 32) = 32 := by omega
    have position : (messageCounter - lost - 1).toNat = index := by
      omega
    have noShift : shiftAmount 32 = 0 := by decide
    rcases calculateMessageCounterBitmap_ahead
      (received (some initialMaximum) messageCounters).state.messageCounterBitmap
      32 (by omega) le_rfl with ⟨shifted, computedShifted, bits⟩
    rw [jump, computedShifted] at computed
    have sameBitmap : shifted = next.messageCounterBitmap := Except.ok.inj computed
    refine (mem_known_iff rfl lost).mpr (.inr (.inr ⟨by omega, ?_⟩))
    rw [position, ← sameBitmap, bits, noShift]
    have inWord : index < 32 := by omega
    simp [marked, inWord]
  have lostNotAccepted : lost ∉ (received (some initialMaximum)
      messageCounters).accepted ++ [messageCounter] := by
    intro member
    rcases List.mem_append.mp member with member | member
    · have bound := holds.accepted_le lost member
      omega
    · rw [List.mem_singleton] at member
      omega
  intro losesNothing
  rw [lastOffer] at losesNothing
  have aboveInitial := holds.initial_le
  have accepted := losesNothing messageCounter lost rfl (by omega) (by omega)
    (by omega) lostNotAccepted
  rw [accept_of_mem_known lostIsKnown] at accepted
  cases accepted

theorem losesNothing_of_noStaleJump {initialMaximum : Int}
    (inRange : InRange initialMaximum) {messageCounters : List Int}
    (noStaleJump : Along (offer accept)
      (fun history messageCounter => ¬StaleJump history.state messageCounter)
      (start (new (some initialMaximum))) messageCounters) :
    LosesNothing initialMaximum (received (some initialMaximum) messageCounters) := by
  intro maximum messageCounter isMaximum aboveInitial inWindow below notAccepted
  rcases received_maximum initialMaximum messageCounters with ⟨highest, holds⟩
  have sameMaximum : highest = maximum :=
    Option.some.inj (holds.isMaximum.symm.trans isMaximum)
  subst sameMaximum
  have maximumInRange : InRange highest := by
    rcases holds.origin with equal | member
    · exact equal ▸ inRange
    · exact holds.accepted_inRange highest member
  have counterInRange : InRange messageCounter :=
    ⟨by have := inRange.1; omega, below.trans maximumInRange.2⟩
  rw [Option.isSome_iff_ne_none]
  intro refused
  rcases accept_eq_none_iff.mp refused with outside | isKnown
  · exact outside counterInRange
  · rw [received_known_eq initialMaximum noStaleJump] at isKnown
    rcases isKnown with belowInitial | accepted | ⟨newer, newerAccepted, pushedOut⟩
    · exact absurd aboveInitial (not_lt_of_ge belowInitial)
    · exact notAccepted accepted
    · have newerBound := holds.accepted_le newer newerAccepted
      omega

/-- The window loses nothing in any state of a run exactly when no call of the
run is a stale jump. -/
theorem received_losesNothing_iff {initialMaximum : Int}
    (inRange : InRange initialMaximum) (messageCounters : List Int) :
    (∀ earlier, earlier <+: messageCounters →
      LosesNothing initialMaximum (received (some initialMaximum) earlier)) ↔
    Along (History.offer accept)
      (fun history messageCounter => ¬StaleJump history.state messageCounter)
      (History.start (new (some initialMaximum))) messageCounters := by
  constructor
  · intro losesNothing
    rw [along_iff_forall_cut]
    intro earlier messageCounter later split stale
    have cut : earlier ++ [messageCounter] <+: messageCounters :=
      ⟨later, by rw [split, List.append_assoc]; rfl⟩
    exact not_losesNothing_of_staleJump stale (losesNothing _ cut)
  · intro noStaleJump earlier cut
    rcases cut with ⟨later, split⟩
    rw [← split, along_append] at noStaleJump
    exact losesNothing_of_noStaleJump inRange noStaleJump.1

/-- The second call jumps ahead by 33, over the whole window. -/
theorem received_losesNothing_threeCalls :
    LosesNothing 3 (received (some 3) [5, 38, 40]) := by
  have inRange : InRange 3 := by decide
  apply (received_losesNothing_iff inRange [5, 38, 40]).mpr ?_ _ (List.prefix_refl _)
  decide

/-- After a jump from 0 to 32 the counter 5 is refused, though it is new. -/
theorem received_not_losesNothing :
    InRange 0 ∧ ¬LosesNothing 0 (received (some 0) [32]) := by
  refine ⟨by decide, fun losesNothing => ?_⟩
  have accepted := losesNothing 32 5 (by decide) (by decide) (by decide) (by decide) (by decide)
  exact absurd accepted (by decide)

/-- A counter that is not so old that the window has passed it, and no jump of exactly its size -/
def Near (history : History (MessageReceptionState .encryptedWithoutRollover) Int)
    (messageCounter : Int) : Prop :=
  InRange messageCounter ∧ ∀ maximum ∈ history.state.maximumMessageCounter,
    maximum - 32 ≤ messageCounter ∧ messageCounter ≠ maximum + 32

instance (history : History (MessageReceptionState .encryptedWithoutRollover) Int)
    (messageCounter : Int) : Decidable (Near history messageCounter) :=
  inferInstanceAs (Decidable (_ ∧ _))

/-- What arrives near the newest counter is accepted the first time, and only then. -/
theorem received_exactlyOnce {initialMaximum : Int} {messageCounters : List Int}
    (near : Along (offer accept) Near (start (new (some initialMaximum))) messageCounters) :
    (received (some initialMaximum) messageCounters).accepted.Nodup ∧
      ∀ messageCounter, messageCounter ∈ (received (some initialMaximum) messageCounters).accepted ↔
        messageCounter ∈ messageCounters ∧ initialMaximum < messageCounter := by
  refine ⟨(accept_remembers.run_neverTwice _ _).nodup, ?_⟩
  have noStaleJump : Along (offer accept)
      (fun history messageCounter => ¬StaleJump history.state messageCounter)
      (start (new (some initialMaximum))) messageCounters := by
    refine near.of_invariant (fun _ => True) trivial fun history messageCounter near _ =>
      ⟨trivial, ?_⟩
    intro stale
    have := near.2 _ stale.1
    omega
  induction messageCounters using List.reverseRecOn with
  | nil => simp [received, start]
  | append_singleton earlier offered induction =>
    rw [along_append] at near noStaleJump
    have induction := induction near.1 noStaleJump.1
    rcases received_maximum initialMaximum earlier with ⟨maximum, holds⟩
    have close := near.2.1.2 maximum holds.isMaximum
    have step : received (some initialMaximum) (earlier ++ [offered]) =
        (received (some initialMaximum) earlier).offer accept offered := run_append ..
    have known := received_known_eq initialMaximum noStaleJump.1
    intro messageCounter
    rw [step, List.mem_append, List.mem_singleton, or_and_right, ← induction]
    cases accepts : accept (received (some initialMaximum) earlier).state offered with
    | some next =>
      have unknown := (not_refused_of_accept accepts).2
      rw [known] at unknown
      have above : initialMaximum < offered := lt_of_not_ge fun below => unknown (.inl below)
      rw [offer_of_accept accepts, List.mem_append, List.mem_singleton]
      exact or_congr_right ⟨fun same => ⟨same, same ▸ above⟩, And.left⟩
    | none =>
      rw [offer_of_refuse accepts]
      refine (or_iff_left_of_imp ?_).symm
      rintro ⟨rfl, above⟩
      have isKnown := (accept_eq_none_iff.mp accepts).resolve_left (not_not_intro near.2.1.1)
      rw [known] at isKnown
      rcases isKnown with belowInitial | accepted | ⟨newer, newerAccepted, pushedOut⟩
      · exact absurd above (not_lt_of_ge belowInitial)
      · exact accepted
      · have := holds.accepted_le newer newerAccepted
        omega

theorem received_exactlyOnce_reordered :
    (received (some 3) [5, 4, 5, 36, 6, 4]).accepted.Nodup ∧
      ((6 : Int) ∈ (received (some 3) [5, 4, 5, 36, 6, 4]).accepted ↔
        (6 : Int) ∈ [5, 4, 5, 36, 6, 4] ∧ (3 : Int) < 6) :=
  (received_exactlyOnce (by decide)).imp id (· 6)

end MatterJs.Protocol.MessageReceptionState
