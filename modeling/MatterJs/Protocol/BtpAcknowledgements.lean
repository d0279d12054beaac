import MatterJs.Protocol.BtpWindow

/-! Which acknowledgements a session takes, and which of them are for packets that are out. -/

namespace MatterJs.Protocol

open General SerialNumbers Execution

namespace SendWindow

variable {window : SendWindow} {size : UInt8} {ackNumber : Nat}

/-- Where the check of an acknowledgement comes to what is right. `between` is how many
numbers come between the last acknowledged one and this one. -/
def JudgesRight (window : SendWindow) (size : UInt8) (ackNumber : Nat) : Prop :=
  let between := distance 256 window.prevIncomingAckNumber ackNumber
  let out := window.unacknowledged.length
  if window.sequenceNumber < ackNumber then
    -- refused
    (out : Int) ≤ between
  else if window.prevIncomingAckNumber < ackNumber ∨
      (window.prevIncomingAckNumber = 255 ∧ ackNumber ≠ 255) then
    -- refused when it is for the whole window
    between + 1 < size.toNat ↔ between < out
  else
    -- repeated or older, and taken when there is a window
    (0 < size.toNat ∨ (ackNumber : Int) + 1 < window.prevIncomingAckNumber) ↔ between < out

theorem Consistent.mem_iff (consistent : window.Consistent) (isByte : ackNumber < 256) :
    (ackNumber : Int) ∈ window.unacknowledged ↔
      distance 256 window.prevIncomingAckNumber ackNumber < window.unacknowledged.length := by
  have members := @mem_successors_iff 256 window.prevIncomingAckNumber ackNumber
    window.unacknowledged.length (Int.natCast_nonneg _) (by omega)
  rwa [← consistent.numbers] at members

theorem accepts_iff (window : SendWindow) (size : UInt8) (ackNumber : Nat)
    (prev_le : window.prevIncomingAckNumber ≤ 255) :
    window.accepts size ackNumber = true ↔
      (ackNumber : Int) ≤ window.sequenceNumber ∧
        (if window.prevIncomingAckNumber ≤ ackNumber then
          ackNumber - window.prevIncomingAckNumber
        else if window.prevIncomingAckNumber = 255 then (ackNumber : Int) + 1
        else ackNumber - window.prevIncomingAckNumber + 1) < size.toNat := by
  have check := @exceedsWindowSize_iff size _ ackNumber prev_le (by omega)
  rw [accepts, Bool.not_eq_true', Bool.or_eq_false_iff, decide_eq_false_iff_not, Int.not_lt,
    ← Bool.not_eq_true, check, Int.not_le]

theorem Consistent.accepts_iff_mem_iff (consistent : window.Consistent) (isByte : ackNumber < 256) :
    (window.accepts size ackNumber = true ↔ (ackNumber : Int) ∈ window.unacknowledged) ↔
      window.JudgesRight size ackNumber := by
  rw [consistent.mem_iff isByte, accepts_iff window size ackNumber consistent.prev_le, JudgesRight]
  have prev_ge := consistent.prev_ge
  by_cases above : window.sequenceNumber < ackNumber
  · rw [if_pos above]
    omega
  rw [if_neg above, and_iff_right (by omega)]
  by_cases after : window.prevIncomingAckNumber < ackNumber ∨
      (window.prevIncomingAckNumber = 255 ∧ ackNumber ≠ 255)
  · have apart : (if window.prevIncomingAckNumber ≤ ackNumber then
          ackNumber - window.prevIncomingAckNumber
        else if window.prevIncomingAckNumber = 255 then (ackNumber : Int) + 1
        else ackNumber - window.prevIncomingAckNumber + 1) =
        distance 256 window.prevIncomingAckNumber ackNumber + 1 := by
      rw [distance]
      split_ifs <;> omega
    rw [if_pos after, apart]
  · have old : (if window.prevIncomingAckNumber ≤ ackNumber then
          ackNumber - window.prevIncomingAckNumber
        else if window.prevIncomingAckNumber = 255 then (ackNumber : Int) + 1
        else ackNumber - window.prevIncomingAckNumber + 1) < size.toNat ↔
        0 < size.toNat ∨ (ackNumber : Int) + 1 < window.prevIncomingAckNumber := by
      split_ifs <;> omega
    rw [if_neg after, old]

end SendWindow

namespace BtpSessionHandler

variable {parameters : BtpParameters} {session : BtpSessionHandler}

/-- A packet in order, with an acknowledgement, whose segment fits what has come in of its
message. -/
structure WellFormed (parameters : BtpParameters) (session : BtpSessionHandler) (data : Bytes)
    (packet : DecodedBtpPacket) (ackNumber : Nat) : Prop where
  active : session.isActive = true
  checked : session.checkIncomingPacket parameters data = .ok packet
  isAck : packet.payload.ackNumber = some ackNumber
  segmentFits : ∃ assembly, session.assembly.receive packet = .ok assembly

theorem WellFormed.isActive_iff {data : Bytes} {packet : DecodedBtpPacket} {ackNumber : Nat}
    (wellFormed : WellFormed parameters session data packet ackNumber) :
    (session.step parameters (.handleIncomingBleData data)).isActive = true ↔
      session.window.accepts parameters.clientWindowSize ackNumber = true := by
  rcases wellFormed.segmentFits with ⟨assembly, receives⟩
  rw [step]
  rcases handleIncomingBleData_cases wellFormed.active wellFormed.checked with
    ⟨error, refused, after⟩ | ⟨taken, acked, ⟨assembly, _, after⟩ | ⟨error, _, fails, _⟩⟩
  · rw [after]
    refine iff_of_false (fun active => by cases active) fun accepted => ?_
    have acked : (session.receiveSequenceNumber packet).receiveAckNumber parameters packet =
        .ok _ :=
      receiveAckNumber_eq_ok_iff.mpr (.inr ⟨ackNumber, wellFormed.isAck, accepted, rfl⟩)
    rw [acked] at refused
    cases refused
  · rcases receiveAckNumber_eq_ok_iff.mp acked with ⟨none, _⟩ | ⟨other, isAck, accepted, same⟩
    · rw [wellFormed.isAck] at none
      cases none
    · cases Option.some.inj (wellFormed.isAck.symm.trans isAck)
      rw [after, same]
      exact iff_of_true wellFormed.active accepted
  · rw [receives] at fails
    cases fails

/-- A well-formed packet is taken when it acknowledges a packet that is out, and closes the
session otherwise. -/
def TreatsAckRight (parameters : BtpParameters) (session : BtpSessionHandler) :
    BtpEvent → Prop
  | .handleIncomingBleData data =>
    ∀ packet ackNumber, WellFormed parameters session data packet ackNumber →
      ((session.step parameters (.handleIncomingBleData data)).isActive = true ↔
        (ackNumber : Int) ∈ session.window.unacknowledged)
  | _ => True

def AckJudgedRight (parameters : BtpParameters) (session : BtpSessionHandler) :
    BtpEvent → Prop
  | .handleIncomingBleData data =>
    ∀ packet ackNumber, WellFormed parameters session data packet ackNumber →
      session.window.JudgesRight parameters.clientWindowSize ackNumber
  | _ => True

def TakesRoom (parameters : BtpParameters) (session : BtpSessionHandler) (event : BtpEvent) :
    Prop :=
  ∀ head message, session.atLoopHead parameters event = some head →
    head.queuedOutgoingMatterMessages.head? = some message → head.HasRoom parameters message

theorem treatsAckRight_iff {event : BtpEvent}
    (consistent : session.isActive = true → session.window.Consistent) :
    session.TreatsAckRight parameters event ↔ session.AckJudgedRight parameters event := by
  cases event with
  | handleIncomingBleData data =>
    refine forall₃_congr fun packet ackNumber wellFormed => ?_
    have isByte := BtpCodec.ackNumber_lt_of_decode
      (checkIncomingPacket_eq_ok_iff.mp wellFormed.checked).decoded wellFormed.isAck
    rw [wellFormed.isActive_iff, (consistent wellFormed.active).accepts_iff_mem_iff isByte]
  | _ => exact Iff.rfl

theorem consistent_step {event : BtpEvent} (waits : session.LoopWaits)
    (consistent : session.isActive = true → session.window.Consistent)
    (room : session.TakesRoom parameters event)
    (treated : session.TreatsAckRight parameters event)
    (active : (session.step parameters event).isActive = true) :
    (session.step parameters event).window.Consistent := by
  have wasActive : session.isActive = true := by
    cases before : session.isActive with
    | true => rfl
    | false =>
      rw [step_of_inactive before] at active
      cases active
  have consistent := consistent wasActive
  rcases step_sending parameters session event with
    ⟨head, reached, same⟩ | ⟨ackNumber, takes, window, loop⟩ | ⟨sends, window, loop⟩ |
    ⟨data, isSend, full, same⟩ | ⟨isEndingSegment, isWritten, pending, isFull, same⟩ |
    ⟨isFailure, same⟩ | ⟨isQuiet, window, loop⟩
  case looped =>
    have atHead := waits.atHead reached
    rw [← atHead.window] at consistent
    rw [same]
    cases queue : head.queuedOutgoingMatterMessages with
    | nil =>
      rw [sendSegment_of_empty queue]
      exact consistent
    | cons message later =>
      rcases sendSegment_of_room queue
        (room head message reached (by rw [queue]; rfl)) with ⟨data, _, sent⟩
      rw [sent]
      exact consistent.sent
  case acknowledged =>
    cases event with
    | handleIncomingBleData data =>
      rcases takes with ⟨_, packet, checked, isAck, accepted⟩
      rw [window]
      refine consistent.acknowledge ((treated packet ackNumber ?_).mp active)
      refine ⟨wasActive, checked, isAck, ?_⟩
      rcases handleIncomingBleData_cases wasActive checked with
        ⟨_, _, after⟩ | ⟨taken, _, ⟨assembly, receives, _⟩ | ⟨_, _, _, after⟩⟩
      · rw [step, after] at active
        cases active
      · exact ⟨assembly, receives⟩
      · rw [step, after] at active
        cases active
    | _ => exact takes.elim
  case ackSent =>
    rw [window]
    exact consistent.sent
  case queued =>
    rw [same]
    exact consistent
  case ended =>
    rw [same]
    exact consistent
  case failed =>
    rw [same]
    exact consistent
  case quiet =>
    rw [window]
    exact consistent

/-- In every run from a new session whose segments all have room for a part of their message,
every well-formed packet is treated as its acknowledgement deserves exactly when the numbers of
every such packet are in one of the cases the check is right in. -/
theorem treatsAckRight_run_iff (parameters : BtpParameters) {events : List BtpEvent}
    (room : Along (step parameters) (TakesRoom parameters) (start parameters.role) events) :
    Along (step parameters) (TreatsAckRight parameters) (start parameters.role) events ↔
      Along (step parameters) (AckJudgedRight parameters) (start parameters.role) events := by
  let Invariant (session : BtpSessionHandler) : Prop :=
    session.LoopWaits ∧ (session.isActive = true → session.window.Consistent)
  have same : Along (step parameters) (fun session event =>
        session.TakesRoom parameters event ∧ session.TreatsAckRight parameters event)
        (start parameters.role) events ↔
      Along (step parameters) (fun session event =>
        session.TakesRoom parameters event ∧ session.AckJudgedRight parameters event)
        (start parameters.role) events := by
    refine along_iff_along Invariant ⟨start_loopWaits _, fun _ => start_consistent _⟩ ?_ ?_
    · rintro session event ⟨room, judged⟩ ⟨waits, consistent⟩
      exact ⟨waits.step event, consistent_step waits consistent room
        ((treatsAckRight_iff consistent).mpr judged)⟩
    · rintro session event ⟨waits, consistent⟩
      rw [treatsAckRight_iff consistent]
  rwa [along_and_iff, along_and_iff, and_iff_right room, and_iff_right room] at same

/-- Two messages fill the window, and the acknowledgement that comes in is for both. -/
def ackOfAll : List BtpEvent :=
  [.sendMatterMessage [1], .segmentWritten, .sendMatterMessage [2], .segmentWritten,
    .handleIncomingBleData [8, 1, 1]]

theorem ackOfAll_takesRoom :
    Along (step twoPackets) (TakesRoom twoPackets) (start .central) ackOfAll := by
  refine ⟨?_, ?_, ?_, ?_, ?_, trivial⟩
  all_goals intro head message reached queue
  -- the head of the loop is reached with a message
  case refine_1 | refine_3 =>
    cases reached
    cases queue
    decide
  -- it is reached with none
  case refine_2 =>
    cases reached
    cases queue
  case refine_4 | refine_5 => cases reached

theorem treatsAckRight_run_iff_ackOfAll :
    Along (step twoPackets) (TreatsAckRight twoPackets) (start .central) ackOfAll ↔
      Along (step twoPackets) (AckJudgedRight twoPackets) (start .central) ackOfAll :=
  treatsAckRight_run_iff twoPackets ackOfAll_takesRoom

theorem ackOfAll_closes :
    ¬Along (step twoPackets) (TreatsAckRight twoPackets) (start .central) ackOfAll := by
  intro treated
  have last := treated.2.2.2.2.1
  let session := run (step twoPackets) (start .central) (ackOfAll.take 4)
  let packet : DecodedBtpPacket :=
    { header := ⟨false, false, true, false, false, false⟩
      payload := ⟨some 1, 1, none, []⟩ }
  have decoded : BtpCodec.decodeBtpPacket [8, 1, 1] = .ok packet := rfl
  have nothingYet : session.assembly = ⟨none, none, []⟩ := by decide
  have wellFormed : WellFormed twoPackets session [8, 1, 1] packet 1 := by
    refine ⟨by decide, checkIncomingPacket_eq_ok_iff.mpr ?_, rfl, ⟨none, none, []⟩, ?_⟩
    · exact ⟨⟨by decide, decoded, ⟨rfl, rfl⟩, fun _ => rfl⟩, by decide⟩
    · rw [nothingYet]
      rfl
  have taken := (last packet 1 wellFormed).mpr (by decide)
  exact absurd taken (by decide)

end BtpSessionHandler

end MatterJs.Protocol
