import MatterJs.Foundation.Execution
import MatterJs.Protocol.BtpSessionHandler

/-! The send window of a session: how many packets are unacknowledged at a time, and which
acknowledgements are taken. -/

namespace MatterJs.Protocol

open General SerialNumbers Execution

namespace SendWindow

variable {window : SendWindow} {size : UInt8}

/-- The numbers still out are those that follow the last acknowledged one, and the number
taken last is the last of them. -/
structure Consistent (window : SendWindow) : Prop where
  prev_ge : -1 ≤ window.prevIncomingAckNumber
  prev_le : window.prevIncomingAckNumber ≤ 255
  current : window.sequenceNumber =
    if window.unacknowledged.length = 0 then window.prevIncomingAckNumber
    else (window.prevIncomingAckNumber + window.unacknowledged.length) % 256
  numbers : window.unacknowledged =
    successors 256 window.prevIncomingAckNumber window.unacknowledged.length

/-- What the check of two numbers comes to: without a wrap between them it counts from one to
the other, with one only from 255. -/
theorem exceedsWindowSize_iff {prevIncomingAckNumber currentSequenceNumber : Int}
    (prev_le : prevIncomingAckNumber ≤ 255) (current_ge : -1 ≤ currentSequenceNumber) :
    exceedsWindowSize size prevIncomingAckNumber currentSequenceNumber = true ↔
      (size.toNat : Int) ≤
        if prevIncomingAckNumber ≤ currentSequenceNumber then
          currentSequenceNumber - prevIncomingAckNumber
        else if prevIncomingAckNumber = 255 then currentSequenceNumber + 1
        else currentSequenceNumber - prevIncomingAckNumber + 1 := by
  rw [exceedsWindowSize, decide_eq_true_iff]
  simp only [maximumSequenceNumber]
  by_cases before : prevIncomingAckNumber ≤ currentSequenceNumber
  · rw [if_pos before]
    omega
  · rw [Int.tmod_eq_emod_of_nonneg (by omega)]
    split <;> omega

theorem Consistent.sent (consistent : window.Consistent) :
    window.numberTaken.sent.Consistent := by
  rcases consistent with ⟨prev_ge, prev_le, current, numbers⟩
  have next : getNextSequenceNumber window.sequenceNumber =
      (window.prevIncomingAckNumber + (window.unacknowledged.length + 1)) % 256 := by
    rw [getNextSequenceNumber, maximumSequenceNumber, current]
    split <;> split <;> omega
  have length : window.numberTaken.sent.unacknowledged.length =
      window.unacknowledged.length + 1 := List.length_append
  refine ⟨prev_ge, prev_le, ?_, ?_⟩
  · rw [length]
    exact_mod_cast next
  · rw [length, successors_succ]
    exact congrArg₂ (· ++ [·]) numbers next

theorem Consistent.acknowledge (consistent : window.Consistent) {ackNumber : Nat}
    (member : (ackNumber : Int) ∈ window.unacknowledged) :
    (window.acknowledge ackNumber).Consistent := by
  rcases consistent with ⟨prev_ge, prev_le, current, numbers⟩
  rw [numbers] at member
  have bounds := bounds_of_mem_successors (by decide) member
  rcases dropThrough_successors bounds.1 bounds.2 member with ⟨left, total, dropped⟩
  have behind : (window.acknowledge ackNumber).unacknowledged =
      successors 256 ackNumber left := by
    rw [SendWindow.acknowledge, ← dropped, ← numbers]
  have length : (window.acknowledge ackNumber).unacknowledged.length = left := by
    rw [behind, length_successors]
  rw [distance] at total
  refine ⟨by show -1 ≤ (ackNumber : Int); omega, by show (ackNumber : Int) ≤ 255; omega, ?_, ?_⟩
  · rw [length]
    show window.sequenceNumber = if left = 0 then (ackNumber : Int) else (ackNumber + left) % 256
    rw [current]
    split <;> split <;> omega
  · rw [length, behind]
    rfl

/-- The window is full, but the numbers have wrapped since the last acknowledgement, and the
check counts from before it. -/
def HiddenFull (window : SendWindow) (size : UInt8) : Prop :=
  window.sequenceNumber < window.prevIncomingAckNumber ∧ window.prevIncomingAckNumber ≠ 255 ∧
    (size.toNat : Int) ≤ window.sequenceNumber - window.prevIncomingAckNumber + 256

/-- What the check lets through is a place in the window, unless a wrap hides that there is
none. -/
theorem Consistent.length_lt_iff (consistent : window.Consistent)
    (within : window.unacknowledged.length ≤ size.toNat) (notFull : ¬window.isFull size = true) :
    window.unacknowledged.length < size.toNat ↔ ¬window.HiddenFull size := by
  rcases consistent with ⟨prev_ge, prev_le, current, -⟩
  have small := size.toNat_lt
  have current_ge : -1 ≤ window.sequenceNumber := by
    rw [current]
    split <;> omega
  rw [isFull, exceedsWindowSize_iff prev_le current_ge] at notFull
  rw [HiddenFull]
  split at current
  · rw [if_pos (by omega)] at notFull
    omega
  · split at notFull
    · omega
    · split at notFull <;> omega

end SendWindow

namespace BtpSessionHandler

/-! ## The number of unacknowledged packets -/

variable {parameters : BtpParameters} {session : BtpSessionHandler}

/-- What an incoming packet acknowledges is unacknowledged. -/
def ValidAck (session : BtpSessionHandler) : BtpEvent → Prop
  | .handleIncomingBleData data =>
    ∀ packet, BtpCodec.decodeBtpPacket data = .ok packet →
      ∀ ackNumber, packet.payload.ackNumber = some ackNumber →
        (ackNumber : Int) ∈ session.window.unacknowledged
  | _ => True

def SendsSegment (parameters : BtpParameters) (session : BtpSessionHandler)
    (event : BtpEvent) : Prop :=
  ∃ head message, session.atLoopHead parameters event = some head ∧
    head.queuedOutgoingMatterMessages.head? = some message ∧ head.HasRoom parameters message

/-- A packet without a segment is only sent while there is a place in the window, and a segment
only while no wrap hides that there is none. -/
def KeepsWindow (parameters : BtpParameters) (session : BtpSessionHandler)
    (event : BtpEvent) : Prop :=
  (session.SendsAck event →
    session.window.unacknowledged.length < parameters.clientWindowSize.toNat) ∧
  (session.SendsSegment parameters event → ¬session.window.HiddenFull parameters.clientWindowSize)

def WithinWindow (parameters : BtpParameters) (session : BtpSessionHandler) : Prop :=
  session.window.unacknowledged.length ≤ parameters.clientWindowSize.toNat

instance : Decidable (WithinWindow parameters session) := inferInstanceAs (Decidable (_ ≤ _))

theorem keepsWindow_of_noHead {event : BtpEvent}
    (noHead : session.atLoopHead parameters event = none) :
    session.KeepsWindow parameters event ↔ (session.SendsAck event →
      session.window.unacknowledged.length < parameters.clientWindowSize.toNat) := by
  refine and_iff_left ?_
  rintro ⟨head, _, reached, _⟩
  rw [noHead] at reached
  cases reached

theorem keepsWindow_of_head {event : BtpEvent} {head : BtpSessionHandler}
    (reached : session.atLoopHead parameters event = some head) :
    session.KeepsWindow parameters event ↔
      ((∃ message, head.queuedOutgoingMatterMessages.head? = some message ∧
          head.HasRoom parameters message) →
        ¬session.window.HiddenFull parameters.clientWindowSize) := by
  rw [KeepsWindow, and_iff_right fun sends => ?_]
  · constructor
    · rintro keeps ⟨message, queue, room⟩
      exact keeps ⟨head, message, reached, queue, room⟩
    · rintro keeps ⟨other, message, otherReached, queue, room⟩
      cases Option.some.inj (reached.symm.trans otherReached)
      exact keeps ⟨message, queue, room⟩
  · rw [sends.noHead] at reached
    cases reached

theorem withinWindow_step_iff {event : BtpEvent} (waits : session.LoopWaits)
    (numbered : session.window.Consistent ∨ session.Stalled)
    (within : WithinWindow parameters session) :
    WithinWindow parameters (session.step parameters event) ↔
      session.KeepsWindow parameters event := by
  have unchanged {next : BtpSessionHandler}
      (fewer : next.window.unacknowledged.length ≤ session.window.unacknowledged.length) :
      WithinWindow parameters next := fewer.trans within
  rcases step_sending parameters session event with
    ⟨head, reached, same⟩ | ⟨ackNumber, takes, window, _⟩ | ⟨sends, window, _⟩ |
    ⟨data, isSend, full, same⟩ | ⟨isEndingSegment, isWritten, pending, isFull, same⟩ |
    ⟨isFailure, same⟩ | ⟨isQuiet, window, _⟩
  case looped =>
    have atHead := waits.atHead reached
    have consistent := numbered.resolve_right fun stalled => by
      rw [stalled.noHead] at reached
      cases reached
    rw [keepsWindow_of_head reached, same]
    cases queue : head.queuedOutgoingMatterMessages with
    | nil =>
      rw [sendSegment_of_empty queue]
      refine iff_of_true (unchanged (by rw [← atHead.window])) ?_
      rintro ⟨_, none, _⟩
      cases none
    | cons message later =>
      by_cases room : head.HasRoom parameters message
      · rcases sendSegment_of_room queue room with ⟨data, _, sent⟩
        have length : (head.sendSegment parameters).window.unacknowledged.length =
            session.window.unacknowledged.length + 1 := by
          rw [sent, ← atHead.window]
          exact List.length_append
        rw [WithinWindow, length, Nat.succ_le_iff, consistent.length_lt_iff within atHead.notFull]
        exact ⟨fun visible _ => visible, fun keeps => keeps ⟨message, rfl, room⟩⟩
      · rw [sendSegment_of_noRoom queue room]
        refine iff_of_true (unchanged (by rw [← atHead.window]; exact Nat.le_refl _)) ?_
        rintro ⟨other, isHead, otherRoom⟩
        cases isHead
        exact absurd otherRoom room
  case acknowledged =>
    rw [keepsWindow_of_noHead takes.noHead]
    refine iff_of_true (unchanged ?_) fun sends => absurd sends takes.noAck
    rw [window]
    exact length_dropThrough_le _ _
  case ackSent =>
    rw [keepsWindow_of_noHead sends.noHead, WithinWindow, window]
    have length : session.window.numberTaken.sent.unacknowledged.length =
        session.window.unacknowledged.length + 1 := List.length_append
    rw [length]
    exact ⟨fun within _ => within, fun keeps => keeps sends⟩
  case quiet =>
    rw [keepsWindow_of_noHead isQuiet.noHead]
    exact iff_of_true (unchanged (by rw [window])) fun sends => absurd sends isQuiet.noAck
  case queued =>
    subst isSend
    rw [keepsWindow_of_noHead (noHead_of_waits full), same]
    exact iff_of_true within nofun
  case ended =>
    subst isWritten
    rw [keepsWindow_of_noHead (noHead_of_isFull isFull), same]
    exact iff_of_true within nofun
  case failed =>
    subst isFailure
    rw [keepsWindow_of_noHead rfl]
    exact iff_of_true within nofun

/-- The numbers stay in order, until a segment that cannot be encoded takes one. -/
theorem numbered_step {event : BtpEvent} (waits : session.LoopWaits)
    (valid : session.ValidAck event) (numbered : session.window.Consistent ∨ session.Stalled) :
    (session.step parameters event).window.Consistent ∨
      (session.step parameters event).Stalled := by
  rcases step_sending parameters session event with
    ⟨head, reached, same⟩ | ⟨ackNumber, takes, window, loop⟩ | ⟨sends, window, loop⟩ |
    ⟨data, isSend, full, same⟩ | ⟨isEndingSegment, isWritten, pending, isFull, same⟩ |
    ⟨isFailure, same⟩ | ⟨isQuiet, window, loop⟩
  case looped =>
    have atHead := waits.atHead reached
    have consistent := numbered.resolve_right fun stalled => by
      rw [stalled.noHead] at reached
      cases reached
    rw [same]
    cases queue : head.queuedOutgoingMatterMessages with
    | nil =>
      rw [sendSegment_of_empty queue]
      exact .inl (by rw [← atHead.window] at consistent; exact consistent)
    | cons message later =>
      by_cases room : head.HasRoom parameters message
      · rcases sendSegment_of_room queue room with ⟨data, _, sent⟩
        rw [sent]
        exact .inl (by rw [← atHead.window] at consistent; exact consistent.sent)
      · rw [sendSegment_of_noRoom queue room]
        exact .inr ⟨atHead.sending, atHead.notPending⟩
  case acknowledged =>
    rcases numbered with consistent | stalled
    · rw [window]
      refine .inl (consistent.acknowledge ?_)
      cases event with
      | handleIncomingBleData data =>
        rcases takes with ⟨_, packet, checked, isAck, _⟩
        exact valid packet (checkIncomingPacket_eq_ok_iff.mp checked).decoded ackNumber isAck
      | _ => exact takes.elim
    · exact .inr ⟨loop.sendInProgress.trans stalled.1, loop.pendingSegment.trans stalled.2⟩
  case ackSent =>
    rcases numbered with consistent | stalled
    · rw [window]
      exact .inl consistent.sent
    · exact .inr ⟨loop.sendInProgress.trans stalled.1, loop.pendingSegment.trans stalled.2⟩
  case queued =>
    rw [same]
    exact numbered
  case ended =>
    rw [same]
    refine .inl (numbered.resolve_right fun stalled => ?_)
    cases pending.symm.trans stalled.2
  case failed =>
    rw [same]
    exact numbered.imp_right fun stalled => ⟨stalled.1, rfl⟩
  case quiet =>
    rw [window]
    exact numbered.imp_right fun stalled =>
      ⟨loop.sendInProgress.trans stalled.1, loop.pendingSegment.trans stalled.2⟩

/-- From any state whose numbers are in order, with every acknowledgement that comes in for an
unacknowledged packet: there are never more unacknowledged packets than the window has places
exactly when no packet without a segment is sent while it is full, and no segment while a wrap
hides that it is. -/
theorem withinWindow_run_iff (parameters : BtpParameters) {session : BtpSessionHandler}
    (waits : session.LoopWaits) (consistent : session.window.Consistent)
    (within : WithinWindow parameters session) {events : List BtpEvent}
    (valid : Along (step parameters) ValidAck session events) :
    (∀ earlier, earlier <+: events →
        WithinWindow parameters (run (step parameters) session earlier)) ↔
      Along (step parameters) (KeepsWindow parameters) session events := by
  let Invariant (session : BtpSessionHandler) : Prop :=
    session.LoopWaits ∧ (session.window.Consistent ∨ session.Stalled) ∧
      WithinWindow parameters session
  have same : Along (step parameters) (fun session event => session.ValidAck event ∧
        WithinWindow parameters (session.step parameters event)) session events ↔
      Along (step parameters) (fun session event => session.ValidAck event ∧
        session.KeepsWindow parameters event) session events := by
    refine along_iff_along Invariant ⟨waits, .inl consistent, within⟩ ?_ ?_
    · rintro session event ⟨valid, keeps⟩ ⟨waits, numbered, within⟩
      exact ⟨waits.step event, numbered_step waits valid numbered,
        (withinWindow_step_iff waits numbered within).mpr keeps⟩
    · rintro session event ⟨waits, numbered, within⟩
      rw [withinWindow_step_iff waits numbered within]
  rw [along_and_iff, along_and_iff, and_iff_right valid, and_iff_right valid] at same
  exact (along_after_iff within).symm.trans same

theorem start_consistent (role : BtpRole) : (start role).window.Consistent := by
  cases role with
  | central => exact ⟨by decide, by decide, rfl, rfl⟩
  | peripheral => exact ⟨by decide, by decide, rfl, rfl⟩

def twoPackets : BtpParameters where
  role := .central
  fragmentSize := 20
  clientWindowSize := 2

/-- Two messages fill the window, and the packet that comes in then is acknowledged. -/
def ackWhenFull : List BtpEvent :=
  [.sendMatterMessage [1], .segmentWritten, .sendMatterMessage [2], .segmentWritten,
    .handleIncomingBleData [5, 1, 1, 0, 9], .sendAckTimeout]

theorem withinWindow_run_iff_ackWhenFull :
    (∀ earlier, earlier <+: ackWhenFull.take 4 →
        WithinWindow twoPackets (run (step twoPackets) (start .central) earlier)) ↔
      Along (step twoPackets) (KeepsWindow twoPackets) (start .central) (ackWhenFull.take 4) :=
  withinWindow_run_iff twoPackets (start_loopWaits .central) (start_consistent .central)
    (by decide) ⟨trivial, trivial, trivial, trivial, trivial⟩

theorem ackWhenFull_exceedsWindow :
    Along (step twoPackets) ValidAck (start .central) ackWhenFull ∧
      ¬∀ earlier, earlier <+: ackWhenFull →
        WithinWindow twoPackets (run (step twoPackets) (start .central) earlier) := by
  constructor
  · refine ⟨trivial, trivial, trivial, trivial, ?_, trivial, trivial⟩
    intro packet decoded ackNumber isAck
    cases decoded
    cases isAck
  · intro within
    exact absurd (within ackWhenFull List.prefix_rfl) (by decide)

end BtpSessionHandler

end MatterJs.Protocol
