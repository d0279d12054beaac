import MatterJs.Protocol.BtpWindow

/-! The queue of outgoing messages: when it is left waiting although the window is open. -/

namespace MatterJs.Protocol.BtpSessionHandler

open General Execution

variable {parameters : BtpParameters} {session : BtpSessionHandler}

def NoStall (parameters : BtpParameters) (session : BtpSessionHandler) : Prop :=
  session.pendingSegment = none → session.queuedOutgoingMatterMessages ≠ [] →
    session.window.isFull parameters.clientWindowSize = true

def Waiting (session : BtpSessionHandler) : Prop :=
  session.pendingSegment = none ∧ session.queuedOutgoingMatterMessages ≠ []

/-- No step opens the window before a waiting message, and the loop is not left before its
end while the window is open. -/
def KeepsSending (parameters : BtpParameters) (session : BtpSessionHandler)
    (event : BtpEvent) : Prop :=
  (∀ ackNumber, session.TakesAck parameters ackNumber event → session.Waiting →
    (session.window.acknowledge ackNumber).isFull parameters.clientWindowSize = true) ∧
  (session.SendsAck event → session.Waiting →
    session.window.numberTaken.isFull parameters.clientWindowSize = true) ∧
  (event = .segmentWriteFailed → session.queuedOutgoingMatterMessages ≠ [] →
    session.window.isFull parameters.clientWindowSize = true) ∧
  (∀ head message, session.atLoopHead parameters event = some head →
    head.queuedOutgoingMatterMessages.head? = some message →
    ¬head.HasRoom parameters message →
    session.window.numberTaken.isFull parameters.clientWindowSize = true)

theorem TakesAck.unique {event : BtpEvent} {ackNumber other : Nat}
    (takes : session.TakesAck parameters ackNumber event)
    (takesOther : session.TakesAck parameters other event) : ackNumber = other := by
  cases event with
  | handleIncomingBleData data =>
    rcases takes with ⟨_, packet, checked, isAck, _⟩
    rcases takesOther with ⟨_, otherPacket, otherChecked, otherAck, _⟩
    cases Except.ok.inj (checked.symm.trans otherChecked)
    exact Option.some.inj (isAck.symm.trans otherAck)
  | _ => exact takes.elim

theorem keepsSending_of_noHead {event : BtpEvent}
    (noHead : session.atLoopHead parameters event = none) :
    session.KeepsSending parameters event ↔
      (∀ ackNumber, session.TakesAck parameters ackNumber event → session.Waiting →
        (session.window.acknowledge ackNumber).isFull parameters.clientWindowSize = true) ∧
      (session.SendsAck event → session.Waiting →
        session.window.numberTaken.isFull parameters.clientWindowSize = true) ∧
      (event = .segmentWriteFailed → session.queuedOutgoingMatterMessages ≠ [] →
        session.window.isFull parameters.clientWindowSize = true) := by
  rw [KeepsSending]
  refine and_congr_right fun _ => and_congr_right fun _ => and_iff_left ?_
  intro head _ reached
  rw [noHead] at reached
  cases reached

theorem keepsSending_of_head {event : BtpEvent} {head : BtpSessionHandler}
    (reached : session.atLoopHead parameters event = some head) :
    session.KeepsSending parameters event ↔
      ∀ message, head.queuedOutgoingMatterMessages.head? = some message →
        ¬head.HasRoom parameters message →
        session.window.numberTaken.isFull parameters.clientWindowSize = true := by
  constructor
  · intro keeps message
    exact keeps.2.2.2 head message reached
  · intro keeps
    refine ⟨fun _ takes => ?_, fun sends => ?_, fun isFailure => ?_, fun other message isHead => ?_⟩
    · rw [takes.noHead] at reached
      cases reached
    · rw [sends.noHead] at reached
      cases reached
    · rw [isFailure] at reached
      cases reached
    · cases Option.some.inj (reached.symm.trans isHead)
      exact keeps message

theorem noStall_step_iff {event : BtpEvent} (waits : session.LoopWaits)
    (noStall : session.NoStall parameters) :
    (session.step parameters event).NoStall parameters ↔
      session.KeepsSending parameters event := by
  rcases step_sending parameters session event with
    ⟨head, reached, same⟩ | ⟨ackNumber, takes, window, loop⟩ | ⟨sends, window, loop⟩ |
    ⟨data, isSend, full, same⟩ | ⟨isEndingSegment, isWritten, pending, isFull, same⟩ |
    ⟨isFailure, same⟩ | ⟨isQuiet, window, loop⟩
  case looped =>
    have atHead := waits.atHead reached
    rw [keepsSending_of_head reached, same]
    cases queue : head.queuedOutgoingMatterMessages with
    | nil =>
      rw [sendSegment_of_empty queue]
      exact iff_of_true (fun _ notEmpty => absurd queue notEmpty) nofun
    | cons message later =>
      by_cases room : head.HasRoom parameters message
      · rcases sendSegment_of_room queue room with ⟨data, _, sent⟩
        rw [sent]
        refine iff_of_true nofun ?_
        rintro other isHead noRoom
        cases isHead
        exact absurd room noRoom
      · rw [sendSegment_of_noRoom queue room, ← atHead.window]
        constructor
        · rintro noStall other _ _
          exact noStall atHead.notPending (List.cons_ne_nil _ _)
        · intro keeps _ _
          exact keeps message rfl room
  case acknowledged =>
    rw [keepsSending_of_noHead takes.noHead, NoStall, window, loop.queue, loop.pendingSegment]
    constructor
    · refine fun noStall => ⟨fun other takesOther waiting => ?_, fun sends => ?_,
      fun isFailure => ?_⟩
      · rw [← takes.unique takesOther]
        exact noStall waiting.1 waiting.2
      · exact absurd sends takes.noAck
      · rw [isFailure] at takes
        exact takes.elim
    · intro keeps notPending notEmpty
      exact keeps.1 ackNumber takes ⟨notPending, notEmpty⟩
  case ackSent =>
    rw [keepsSending_of_noHead sends.noHead, NoStall, window, loop.queue, loop.pendingSegment]
    constructor
    · refine fun noStall => ⟨fun _ takes => ?_, fun _ waiting => ?_, fun isFailure => ?_⟩
      · exact absurd sends takes.noAck
      · exact noStall waiting.1 waiting.2
      · rw [isFailure] at sends
        exact sends.elim
    · intro keeps notPending notEmpty
      exact keeps.2.1 sends ⟨notPending, notEmpty⟩
  case queued =>
    subst isSend
    rw [keepsSending_of_noHead (noHead_of_waits full), same]
    refine iff_of_true (fun notPending _ => ?_) ⟨fun _ => nofun, nofun, nofun⟩
    exact full.elim (fun sending => noStall notPending (waits.queued sending)) id
  case ended =>
    subst isWritten
    rw [keepsSending_of_noHead (noHead_of_isFull isFull), same]
    exact iff_of_true (fun _ _ => isFull) ⟨fun _ => nofun, nofun, nofun⟩
  case failed =>
    subst isFailure
    rw [keepsSending_of_noHead rfl]
    exact ⟨fun noStall => ⟨fun _ => nofun, nofun, fun _ => noStall rfl⟩,
      fun keeps _ => keeps.2.2 rfl⟩
  case quiet =>
    rw [keepsSending_of_noHead isQuiet.noHead, NoStall, window, loop.queue, loop.pendingSegment]
    refine iff_of_true noStall ⟨fun _ takes => ?_, fun sends => ?_, fun isFailure => ?_⟩
    · exact absurd takes (isQuiet.noTake _)
    · exact absurd sends isQuiet.noAck
    · exact absurd isFailure isQuiet.notFailed

/-- In every run from a new session, no message is ever left waiting before an open window
exactly when every step keeps sending. -/
theorem noStall_run_iff (parameters : BtpParameters) (events : List BtpEvent) :
    (∀ earlier, earlier <+: events →
        (run (step parameters) (start parameters.role) earlier).NoStall parameters) ↔
      Along (step parameters) (KeepsSending parameters) (start parameters.role) events := by
  have initially : (start parameters.role).NoStall parameters :=
    fun _ notEmpty => absurd rfl notEmpty
  rw [← along_after_iff initially]
  refine along_iff_along (fun session => session.LoopWaits ∧ session.NoStall parameters)
    ⟨start_loopWaits _, initially⟩ ?_ ?_
  · rintro session event keeps ⟨waits, noStall⟩
    exact ⟨waits.step event, (noStall_step_iff waits noStall).mpr keeps⟩
  · rintro session event ⟨waits, noStall⟩
    exact noStall_step_iff waits noStall

/-- Three messages for two places, and then the first packet is acknowledged. -/
def ackFreesWindow : List BtpEvent :=
  [.sendMatterMessage [1], .segmentWritten, .sendMatterMessage [2], .segmentWritten,
    .sendMatterMessage [3], .handleIncomingBleData [8, 0, 1]]

theorem ackFreesWindow_stalls :
    ¬∀ earlier, earlier <+: ackFreesWindow →
      (run (step twoPackets) (start .central) earlier).NoStall twoPackets := by
  intro noStall
  have last := noStall ackFreesWindow List.prefix_rfl
  exact absurd (last (by decide) (by decide)) (by decide)

end MatterJs.Protocol.BtpSessionHandler
