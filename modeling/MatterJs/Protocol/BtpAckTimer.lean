import MatterJs.Protocol.BtpDelivery

/-! What a session has received and not acknowledged yet, and when its timer makes up for it. -/

namespace MatterJs.Protocol

open General Execution

/-- A session with the numbers of the packets it has received since its last acknowledgement -/
structure ReceivingSession where
  session : BtpSessionHandler
  unacknowledged : List Nat

namespace ReceivingSession

open BtpSessionHandler

/-- The central has received the handshake response as the packet 0. -/
def start (role : BtpRole) : ReceivingSession where
  session := BtpSessionHandler.start role
  unacknowledged :=
    match role with
    | .peripheral => []
    | .central => [0]

def received (parameters : BtpParameters) (session : BtpSessionHandler) : BtpEvent → List Nat
  | .handleIncomingBleData data =>
    if session.isActive then
      match session.checkIncomingPacket parameters data with
      | .ok packet => [packet.payload.sequenceNumber]
      | .error _ => []
    else []
  | _ => []

def carriesAck (data : Bytes) : Bool :=
  match BtpCodec.decodeBtpPacket data with
  | .ok packet => packet.payload.ackNumber.isSome
  | .error _ => false

def step (parameters : BtpParameters) (state : ReceivingSession) (event : BtpEvent) :
    ReceivingSession :=
  let after := state.session.step parameters event
  { session := after
    unacknowledged :=
      if (after.written.drop state.session.written.length).any carriesAck then []
      else state.unacknowledged ++ received parameters state.session event }

def AcknowledgesReceived (parameters : BtpParameters) (state : ReceivingSession) :
    BtpEvent → Prop
  | .sendAckTimeout => state.session.sendAckTimer = true →
      ∀ last, state.unacknowledged.getLast? = some last →
        ∃ data packet,
          (state.session.step parameters .sendAckTimeout).written =
            state.session.written ++ [data] ∧
          BtpCodec.decodeBtpPacket data = .ok packet ∧ packet.payload.ackNumber = some last
  | _ => True

/-- When the timer fires, the number received last is above the one acknowledged last. -/
def NotWrapped (state : ReceivingSession) : BtpEvent → Prop
  | .sendAckTimeout => state.session.sendAckTimer = true → state.unacknowledged ≠ [] →
      state.session.prevAckedSequenceNumber < state.session.prevIncomingSequenceNumber
  | _ => True

structure Numbered (state : ReceivingSession) : Prop where
  incoming_lt : state.session.prevIncomingSequenceNumber < 256
  sequence_ge : -1 ≤ state.session.window.sequenceNumber
  sequence_le : state.session.window.sequenceNumber ≤ 255
  last : ∀ last, state.unacknowledged.getLast? = some last →
    last = state.session.prevIncomingSequenceNumber

variable {parameters : BtpParameters} {session : BtpSessionHandler} {state : ReceivingSession}

/-! ## The numbers -/

theorem prevIncoming_sendSegment : (session.sendSegment parameters).prevIncomingSequenceNumber =
    session.prevIncomingSequenceNumber := by
  cases queue : session.queuedOutgoingMatterMessages with
  | nil => rw [sendSegment_of_empty queue]
  | cons message later =>
    by_cases room : session.HasRoom parameters message
    · rcases sendSegment_of_room queue room with ⟨data, _, sent⟩
      rw [sent]
      rfl
    · rw [sendSegment_of_noRoom queue room]
      rfl

theorem sequenceNumber_sendSegment :
    (session.sendSegment parameters).window.sequenceNumber = session.window.sequenceNumber ∨
      (session.sendSegment parameters).window.sequenceNumber =
        getNextSequenceNumber session.window.sequenceNumber := by
  cases queue : session.queuedOutgoingMatterMessages with
  | nil => exact .inl (by rw [sendSegment_of_empty queue])
  | cons message later =>
    by_cases room : session.HasRoom parameters message
    · rcases sendSegment_of_room queue room with ⟨data, _, sent⟩
      exact .inr (by rw [sent]; rfl)
    · exact .inr (by rw [sendSegment_of_noRoom queue room]; rfl)

theorem atLoopHead_keeps {event : BtpEvent} {head : BtpSessionHandler}
    (reached : session.atLoopHead parameters event = some head) :
    head.window = session.window ∧
      head.prevIncomingSequenceNumber = session.prevIncomingSequenceNumber := by
  cases event with
  | sendMatterMessage data =>
    rcases Option.ite_none_right_eq_some.mp reached with ⟨_, same⟩
    cases same
    exact ⟨rfl, rfl⟩
  | segmentWritten =>
    rw [atLoopHead] at reached
    split at reached
    · rcases Option.ite_none_left_eq_some.mp reached with ⟨_, same⟩
      cases same
      exact ⟨rfl, rfl⟩
    · cases reached
  | _ => cases reached

theorem sequenceNumber_step (event : BtpEvent) :
    (session.step parameters event).window.sequenceNumber = session.window.sequenceNumber ∨
      (session.step parameters event).window.sequenceNumber =
        getNextSequenceNumber session.window.sequenceNumber := by
  rcases step_sending parameters session event with
    ⟨head, reached, same⟩ | ⟨_, _, window, _⟩ | ⟨_, window, _⟩ | ⟨_, _, _, same⟩ |
    ⟨_, _, _, _, same⟩ | ⟨_, same⟩ | ⟨_, window, _⟩
  case looped =>
    rw [same, ← (atLoopHead_keeps reached).1]
    exact sequenceNumber_sendSegment
  case acknowledged => exact .inl (by rw [window]; rfl)
  case ackSent => exact .inr (by rw [window]; rfl)
  case queued => exact .inl (by rw [same]; rfl)
  case ended => exact .inl (by rw [same]; rfl)
  case failed => exact .inl (by rw [same])
  case quiet => exact .inl (by rw [window])

theorem prevIncoming_step (event : BtpEvent) :
    (session.step parameters event).prevIncomingSequenceNumber =
      (received parameters session event).getLastD session.prevIncomingSequenceNumber := by
  cases event with
  | handleIncomingBleData data =>
    rw [BtpSessionHandler.step, received]
    cases active : session.isActive with
    | false => rw [handleIncomingBleData_of_inactive active]; rfl
    | true =>
      cases checked : session.checkIncomingPacket parameters data with
      | error error => rw [handleIncomingBleData_of_unchecked active checked]; rfl
      | ok packet =>
        rcases handleIncomingBleData_cases active checked with
          ⟨_, _, after⟩ | ⟨taken, acked, outcome⟩
        · rw [after]
          rfl
        · have same : taken.prevIncomingSequenceNumber = packet.payload.sequenceNumber := by
            rcases receiveAckNumber_eq_ok_iff.mp acked with ⟨_, rfl⟩ | ⟨_, _, _, rfl⟩
            · rfl
            · rfl
          rcases outcome with ⟨_, _, after⟩ | ⟨_, _, _, after⟩
          · rw [after]
            exact same
          · rw [after]
            exact same
  | sendMatterMessage data =>
    have kept : (session.step parameters (.sendMatterMessage data)).prevIncomingSequenceNumber =
        session.prevIncomingSequenceNumber := by
      rw [BtpSessionHandler.step, sendMatterMessage]
      split_ifs
      · rfl
      · rfl
      · simp only [processSendQueue]
        split_ifs
        · rfl
        · rfl
        · rfl
        · exact prevIncoming_sendSegment
    exact kept
  | segmentWritten =>
    have kept : (session.step parameters .segmentWritten).prevIncomingSequenceNumber =
        session.prevIncomingSequenceNumber := by
      rw [BtpSessionHandler.step, BtpSessionHandler.segmentWritten]
      split
      · rfl
      · dsimp only
        split
        · rfl
        · exact prevIncoming_sendSegment
    exact kept
  | sendAckTimeout =>
    rcases @step_sendAckTimeout_cases session parameters with ⟨_, after⟩ | ⟨_, _, _, after⟩
    · rw [after]
      rfl
    · rw [after]
      rfl
  | segmentWriteFailed => rfl
  | ackWritten =>
    rw [BtpSessionHandler.step]
    split
    · rfl
    · rfl
  | ackWriteFailed => rfl
  | ackReceiveTimeout =>
    rw [BtpSessionHandler.step, btpAckTimeoutTriggered]
    split_ifs
    · rfl
    · rfl
    · rfl
  | idleTimeout =>
    rw [BtpSessionHandler.step]
    split
    · rfl
    · rfl
  | close => rfl

theorem received_lt {event : BtpEvent} {number : Nat}
    (member : number ∈ received parameters session event) : number < 256 := by
  cases event with
  | handleIncomingBleData data =>
    rw [received] at member
    split at member
    · split at member
      · rename_i packet checked
        rw [List.mem_singleton.mp member, (checkIncomingPacket_eq_ok_iff.mp checked).inOrder]
        exact Nat.mod_lt _ (by decide)
      · cases member
    · cases member
  | _ => cases member

theorem start_numbered (role : BtpRole) : (start role).Numbered := by
  cases role with
  | central => exact ⟨by decide, by decide, by decide, fun last isLast => by cases isLast; rfl⟩
  | peripheral => exact ⟨by decide, by decide, by decide, nofun⟩

theorem Numbered.step (numbered : state.Numbered) (event : BtpEvent) :
    (state.step parameters event).Numbered := by
  have incoming := @prevIncoming_step parameters state.session event
  have small := @received_lt parameters state.session event
  have lower := numbered.sequence_ge
  have upper := numbered.sequence_le
  refine ⟨?_, ?_, ?_, ?_⟩
  · show (state.session.step parameters event).prevIncomingSequenceNumber < 256
    rw [incoming, List.getLastD_eq_getLast?]
    cases isReceived : (received parameters state.session event).getLast? with
    | none => exact numbered.incoming_lt
    | some number => exact small (List.mem_of_getLast? isReceived)
  · show -1 ≤ (state.session.step parameters event).window.sequenceNumber
    rcases @sequenceNumber_step parameters state.session event with same | next
    · rw [same]
      exact lower
    · rw [next, getNextSequenceNumber]
      split <;> omega
  · show (state.session.step parameters event).window.sequenceNumber ≤ 255
    rcases @sequenceNumber_step parameters state.session event with same | next
    · rw [same]
      exact upper
    · rw [next, getNextSequenceNumber, maximumSequenceNumber]
      split <;> omega
  · intro last isLast
    show last = (state.session.step parameters event).prevIncomingSequenceNumber
    rw [incoming, List.getLastD_eq_getLast?]
    simp only [ReceivingSession.step] at isLast
    split at isLast
    · cases isLast
    · rw [List.getLast?_append] at isLast
      cases isReceived : (received parameters state.session event).getLast? with
      | none =>
        rw [isReceived] at isLast
        exact numbered.last last isLast
      | some number =>
        rw [isReceived] at isLast
        exact (Option.some.inj isLast).symm

theorem acknowledgesReceived_iff (numbered : state.Numbered) (event : BtpEvent) :
    state.AcknowledgesReceived parameters event ↔ state.NotWrapped event := by
  cases event with
  | sendAckTimeout =>
    refine forall_congr' fun running => ?_
    rcases @step_sendAckTimeout_cases state.session parameters with
      ⟨noAck, after⟩ | ⟨data, sends, encoded, after⟩
    · rw [after]
      have notAbove : ¬state.session.prevAckedSequenceNumber <
          state.session.prevIncomingSequenceNumber := fun above => noAck ⟨running, above⟩
      constructor
      · intro acknowledges nonempty
        rcases acknowledges _ (List.getLast?_eq_some_getLast nonempty) with ⟨data, _, written, _⟩
        exact absurd (congrArg List.length written) (by simp)
      · intro above last isLast
        have nonempty : state.unacknowledged ≠ [] := by
          intro empty
          rw [empty] at isLast
          cases isLast
        exact absurd (above nonempty) notAbove
    · refine iff_of_true (fun last isLast => ?_) fun _ => sends.2
      have lower := numbered.sequence_ge
      have inRange : 0 ≤ getNextSequenceNumber state.session.window.sequenceNumber ∧
          getNextSequenceNumber state.session.window.sequenceNumber < 256 := by
        rw [getNextSequenceNumber, maximumSequenceNumber]
        split <;> omega
      have carries := @carries_ackPacket parameters _ numbered.incoming_lt _ inRange.1 inRange.2
        data encoded
      refine ⟨data, _, by rw [after], carries.decoded, ?_⟩
      rw [numbered.last last isLast]
      rfl
  | _ => exact Iff.rfl

/-- In every run from a new session, the timer makes up for all that was received exactly when it
never fires with a number received last that is not above the one acknowledged last. -/
theorem acknowledgesReceived_run_iff (parameters : BtpParameters) (events : List BtpEvent) :
    Along (step parameters) (AcknowledgesReceived parameters) (start parameters.role) events ↔
      Along (step parameters) NotWrapped (start parameters.role) events :=
  along_iff_along Numbered (start_numbered parameters.role)
    (fun _ event _ numbered => numbered.step event)
    fun _ event numbered => acknowledgesReceived_iff numbered event

def wholeMessage (number : Nat) : BtpEvent :=
  .handleIncomingBleData [5, number.toUInt8, 1, 0, 7]

/-- All numbers are received and acknowledged, and then the first one again. -/
def wrappedRun : List BtpEvent :=
  (List.range 256).map wholeMessage ++ [.sendAckTimeout, wholeMessage 0]

def peripheral : BtpParameters where
  role := .peripheral
  fragmentSize := 20
  clientWindowSize := 5

theorem run_wrappedRun :
    let state := run (step peripheral) (start .peripheral) wrappedRun
    (state.session.sendAckTimer, state.unacknowledged, state.session.prevAckedSequenceNumber,
      state.session.prevIncomingSequenceNumber) = (true, [0], 255, 0) := by
  decide +kernel

/-- The timer fires with the packet 0 received behind the packet 255, and nothing is sent. -/
theorem acknowledgesReceived_run_false :
    ¬∀ (parameters : BtpParameters) (events : List BtpEvent),
      Along (step parameters) (AcknowledgesReceived parameters) (start parameters.role) events := by
  intro all
  have along := all peripheral (wrappedRun ++ [.sendAckTimeout])
  rw [along_append] at along
  have numbered := run_invariant (step peripheral) Numbered
    (fun _ event numbered => numbered.step event) (start_numbered .peripheral) wrappedRun
  have notWrapped := (acknowledgesReceived_iff numbered .sendAckTimeout).mp along.2.1
  have final := run_wrappedRun
  simp only [Prod.mk.injEq] at final
  have above := notWrapped final.1 (by rw [final.2.1]; nofun)
  rw [final.2.2.1, final.2.2.2] at above
  exact absurd above (by decide)

end ReceivingSession

end MatterJs.Protocol
