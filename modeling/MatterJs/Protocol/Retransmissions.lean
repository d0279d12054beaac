import MatterJs.Foundation.Execution
import MatterJs.Protocol.Acknowledgements

/-! How often an exchange hands a message to the channel: at most a fixed number
of times, and not again once its acknowledgement is processed. -/

namespace MatterJs.Protocol

open General SecureMessageType

/-- The call is for a message that is to be acknowledged, and `send` waits for
the acknowledgement. -/
def SendCall.isReliable (useMRP : Bool) (call : SendCall) : Bool :=
  useMRP &&
    call.requiresAck.getD (useMRP && call.messageType != standaloneAck) &&
    !call.disableMrpLogic

def Suspended.startsTimer (useMRP : Bool) : Suspended → Bool
  | .messageCounter call => call.isReliable useMRP
  | .channel _ ackPromise => ackPromise.isSome
  | .ack _ _ => false
  | .resubmission _ _ => true

/-- A call of `send` that a user makes, and not the exchange for an
acknowledgement. -/
def Suspended.isUserSend : Suspended → Bool
  | .messageCounter call => call.messageType != standaloneAck
  | .channel call _ => call.messageType != standaloneAck
  | .ack call _ => call.messageType != standaloneAck
  | .resubmission _ _ => false

theorem filter_eraseIdx_of_not {Value : Type} {keep : Value → Bool} {values : List Value}
    {position : Nat} {value : Value} (found : values[position]? = some value)
    (notKept : keep value = false) :
    (values.eraseIdx position).filter keep = values.filter keep := by
  induction values generalizing position with
  | nil => rfl
  | cons head values induction =>
    cases position with
    | zero =>
      cases found
      simp [notKept]
    | succ position =>
      rw [List.eraseIdx_cons_succ, List.filter_cons, List.filter_cons, induction found]

theorem filter_eraseIdx_of_only {Value : Type} {keep : Value → Bool} {values : List Value}
    {position : Nat} {value other : Value} (found : values[position]? = some value)
    (kept : keep value = true) (only : values.filter keep = [other]) :
    other = value ∧ (values.eraseIdx position).filter keep = [] := by
  induction values generalizing position with
  | nil => cases found
  | cons head values induction =>
    cases position with
    | zero =>
      cases found
      rw [List.filter_cons_of_pos kept] at only
      exact ⟨(List.cons.inj only).1.symm, (List.cons.inj only).2⟩
    | succ position =>
      have member : value ∈ values.filter keep :=
        List.mem_filter.mpr ⟨List.mem_of_getElem? found, kept⟩
      cases headKept : keep head with
      | true =>
        rw [List.filter_cons_of_pos headKept] at only
        rw [(List.cons.inj only).2] at member
        cases member
      | false =>
        rw [List.filter_cons_of_neg (by simp [headKept])] at only
        rw [List.eraseIdx_cons_succ, List.filter_cons_of_neg (by simp [headKept])]
        exact induction found only

namespace MessageExchange

variable (exchange : MessageExchange)

def sentIds : List Nat :=
  exchange.sent.map (·.packetHeader.messageId)

def timesSent (messageId : Nat) : Nat :=
  exchange.sentIds.count messageId

/-- The calls that go on to start a retransmission timer. -/
def pending : List Suspended :=
  exchange.suspended.filter (·.startsTimer exchange.useMRP)

def timerMessages : List Message :=
  exchange.retransmissionTimers.map (·.message)

def Runs (index : Nat) : Prop :=
  ∃ timer ∈ exchange.retransmissionTimers[index]?, timer.running = true

/-- An operation that hands nothing over, and at most stops timers. -/
structure Calm (before after : MessageExchange) : Prop where
  useMRP : after.useMRP = before.useMRP
  sent : after.sent = before.sent
  waiting : after.sentMessageToAck = before.sentMessageToAck
  counter : after.retransmissionCounter = before.retransmissionCounter
  current : after.retransmissionTimer = before.retransmissionTimer
  messages : after.timerMessages = before.timerMessages
  runs : ∀ {index}, after.Runs index → before.Runs index
  pending : after.pending = before.pending

namespace Calm

theorem refl (exchange : MessageExchange) : Calm exchange exchange :=
  ⟨rfl, rfl, rfl, rfl, rfl, rfl, id, rfl⟩

theorem trans {first second third : MessageExchange} (firstCalm : Calm first second)
    (secondCalm : Calm second third) : Calm first third where
  useMRP := secondCalm.useMRP.trans firstCalm.useMRP
  sent := secondCalm.sent.trans firstCalm.sent
  waiting := secondCalm.waiting.trans firstCalm.waiting
  counter := secondCalm.counter.trans firstCalm.counter
  current := secondCalm.current.trans firstCalm.current
  messages := secondCalm.messages.trans firstCalm.messages
  runs := fun runs => firstCalm.runs (secondCalm.runs runs)
  pending := secondCalm.pending.trans firstCalm.pending

/-- An operation on other fields. -/
theorem of_same {before after : MessageExchange} (useMRP : after.useMRP = before.useMRP)
    (sent : after.sent = before.sent)
    (waiting : after.sentMessageToAck = before.sentMessageToAck)
    (counter : after.retransmissionCounter = before.retransmissionCounter)
    (current : after.retransmissionTimer = before.retransmissionTimer)
    (timers : after.retransmissionTimers = before.retransmissionTimers)
    (suspended : after.suspended = before.suspended) : Calm before after where
  useMRP := useMRP
  sent := sent
  waiting := waiting
  counter := counter
  current := current
  messages := by rw [timerMessages, timers, timerMessages]
  runs := by
    intro index runs
    rwa [Runs, timers] at runs
  pending := by rw [MessageExchange.pending, suspended, useMRP, MessageExchange.pending]

end Calm

variable (exchange : MessageExchange)

/-! ## Operations that hand nothing over -/

theorem runs_of_modify {timers : List RetransmissionTimer} {stopped index : Nat}
    {timer : RetransmissionTimer}
    (isTimer : timer ∈ (timers.modify stopped ({ · with running := false }))[index]?)
    (isRunning : timer.running = true) :
    stopped ≠ index ∧ timer ∈ timers[index]? := by
  rw [List.getElem?_modify] at isTimer
  cases found : timers[index]? with
  | none =>
    rw [found] at isTimer
    cases isTimer
  | some before =>
    rw [found] at isTimer
    by_cases same : stopped = index
    · simp only [same, Option.map_eq_map, Option.map_some, Option.mem_def,
        Option.some.injEq] at isTimer
      rw [← isTimer] at isRunning
      cases isRunning
    · simp only [same] at isTimer
      exact ⟨same, isTimer⟩

theorem calm_stopTimer (stopped : Nat) :
    Calm exchange
      { exchange with
        retransmissionTimers :=
          exchange.retransmissionTimers.modify stopped ({ · with running := false }) } where
  useMRP := rfl
  sent := rfl
  waiting := rfl
  counter := rfl
  current := rfl
  messages := map_message_modify _ _ false
  runs := by
    rintro index ⟨timer, isTimer, isRunning⟩
    exact ⟨timer, (runs_of_modify isTimer isRunning).2, isRunning⟩
  pending := rfl

theorem calm_stopRetransmissionTimer : Calm exchange exchange.stopRetransmissionTimer := by
  unfold stopRetransmissionTimer
  split
  · exact calm_stopTimer exchange _
  · exact .refl exchange

theorem calm_stopCloseTimer : Calm exchange exchange.stopCloseTimer := by
  unfold stopCloseTimer
  split
  · exact .of_same rfl rfl rfl rfl rfl rfl rfl
  · exact .refl exchange

theorem calm_closeNow : Calm exchange exchange.closeNow := by
  have closing : Calm exchange { exchange with isClosing := true } :=
    .of_same rfl rfl rfl rfl rfl rfl rfl
  have stopped := (closing.trans (calm_stopRetransmissionTimer _)).trans (calm_stopCloseTimer _)
  exact stopped.trans (.of_same rfl rfl rfl rfl rfl rfl rfl)

theorem calm_afterSend (after : AfterSend) : Calm exchange (exchange.afterSend after) := by
  cases after with
  | nothing => exact .refl exchange
  | close => exact calm_closeNow exchange
  | startCloseTimer => exact .of_same rfl rfl rfl rfl rfl rfl rfl

theorem calm_finish (call : SendCall) (outcome : Except MatterError Unit) :
    Calm exchange (exchange.finish call outcome) := by
  have logged : Calm exchange
      { exchange with finished := exchange.finished ++ [(call, outcome)] } :=
    .of_same rfl rfl rfl rfl rfl rfl rfl
  exact logged.trans (calm_afterSend _ call.after)

theorem calm_suspend {call : Suspended} (starts : call.startsTimer exchange.useMRP = false) :
    Calm exchange { exchange with suspended := exchange.suspended ++ [call] } where
  useMRP := rfl
  sent := rfl
  waiting := rfl
  counter := rfl
  current := rfl
  messages := rfl
  runs := id
  pending := by simp [MessageExchange.pending, starts]

theorem calm_removeSuspended {position : Nat} {call : Suspended}
    (found : exchange.suspended[position]? = some call)
    (starts : call.startsTimer exchange.useMRP = false) :
    Calm exchange { exchange with suspended := exchange.suspended.eraseIdx position } where
  useMRP := rfl
  sent := rfl
  waiting := rfl
  counter := rfl
  current := rfl
  messages := rfl
  runs := id
  pending := filter_eraseIdx_of_not found starts

theorem awaitMessageCounter_suspends (messageType : Nat) (payload : Bytes)
    (requiresAck : Option Bool) (options : ExchangeSendOptions) (after : AfterSend) :
    ∃ call : SendCall, call.messageType = messageType ∧ call.requiresAck = requiresAck ∧
      Calm { exchange with suspended := exchange.suspended ++ [.messageCounter call] }
        (exchange.awaitMessageCounter messageType payload requiresAck options after) := by
  unfold awaitMessageCounter
  split
  · exact ⟨_, rfl, rfl, .of_same rfl rfl rfl rfl rfl rfl rfl⟩
  · exact ⟨_, rfl, rfl, .refl _⟩

theorem send_shape (messageType : Nat) (payload : Bytes) (options : ExchangeSendOptions)
    (after : AfterSend) :
    Calm exchange (exchange.send messageType payload options after).1 ∨
      ∃ call : SendCall, call.messageType = messageType ∧
        (messageType = standaloneAck → call.requiresAck ≠ some true) ∧
        (messageType ≠ standaloneAck → exchange.sentMessageToAck = none) ∧
        Calm { exchange with suspended := exchange.suspended ++ [.messageCounter call] }
          (exchange.send messageType payload options after).1 := by
  unfold send
  dsimp only
  generalize (if options.requiresAck = some true ∧ exchange.useMRP = false then some false
    else options.requiresAck) = requiresAck
  split
  · exact .inl (.refl exchange)
  split
  · exact .inl (calm_afterSend exchange after)
  split
  · exact .inl (.refl exchange)
  rename_i noAckOfAck
  split
  · exact .inl (.refl exchange)
  rename_i notBlocked
  rcases exchange.awaitMessageCounter_suspends messageType payload requiresAck options after with
    ⟨call, sameType, sameAsk, waits⟩
  refine .inr ⟨call, sameType, ?_, ?_, waits⟩
  · intro isAck asks
    exact noAckOfAck ⟨isAck, sameAsk ▸ asks⟩
  · intro notAck
    by_contra blocked
    exact notBlocked ⟨Option.isSome_iff_ne_none.mpr blocked, notAck⟩

theorem isReliable_of_standaloneAck (useMRP : Bool) {call : SendCall}
    (isAck : call.messageType = standaloneAck)
    (asksNone : call.requiresAck ≠ some true) : call.isReliable useMRP = false := by
  unfold SendCall.isReliable
  rw [isAck]
  rcases asked : call.requiresAck with _ | asks
  · simp
  · cases asks with
    | false => simp
    | true => exact absurd asked asksNone

variable (message : Message)

theorem calm_sendStandaloneAck (after : AfterSend) :
    Calm exchange (exchange.sendStandaloneAckForMessage message after).1 := by
  unfold sendStandaloneAckForMessage
  split
  · exact calm_afterSend exchange after
  · rcases exchange.send_shape standaloneAck []
      { ExchangeSendOptions.default with
        includeAcknowledgeMessageId := some message.packetHeader.messageId } after with
      calm | ⟨call, isAck, asksNone, _, waits⟩
    · exact calm
    · have starts : Suspended.startsTimer exchange.useMRP (.messageCounter call) = false :=
        isReliable_of_standaloneAck _ isAck (asksNone rfl)
      exact (calm_suspend exchange starts).trans waits

theorem calm_onReceivedMessageAckTimer :
    Calm exchange exchange.onReceivedMessageAckTimer := by
  have stops : Calm exchange { exchange with receivedMessageAckTimer := false } :=
    .of_same rfl rfl rfl rfl rfl rfl rfl
  unfold onReceivedMessageAckTimer
  split
  · dsimp only
    split
    · have forgets : Calm exchange
          { exchange with receivedMessageAckTimer := false, receivedMessageToAck := none } :=
        .of_same rfl rfl rfl rfl rfl rfl rfl
      exact forgets.trans (calm_sendStandaloneAck _ _ _)
    · exact stops
  · exact .refl exchange

theorem calm_giveUp : Calm exchange exchange.giveUp := by
  have rejects : Calm exchange exchange.rejectSentMessage := by
    unfold rejectSentMessage
    split
    · exact .of_same rfl rfl rfl rfl rfl rfl rfl
    · exact .refl exchange
  unfold giveUp
  dsimp only
  split
  · exact rejects.trans (calm_closeNow _)
  · exact rejects

theorem calm_onCloseTimer (index : Nat) : Calm exchange (exchange.onCloseTimer index) := by
  unfold onCloseTimer
  split
  · have stops : Calm exchange
        { exchange with closeTimers := exchange.closeTimers.modify index fun _ => false } :=
      .of_same rfl rfl rfl rfl rfl rfl rfl
    exact stops.trans (calm_closeNow _)
  · exact .refl exchange

theorem calm_flushAck (messageToAck : Message) (after : AfterSend) :
    Calm exchange (exchange.flushAck messageToAck after) := by
  have forgets : Calm exchange
      { exchange with receivedMessageAckTimer := false, receivedMessageToAck := none } :=
    .of_same rfl rfl rfl rfl rfl rfl rfl
  have flushed := forgets.trans (calm_sendStandaloneAck _ messageToAck after)
  unfold flushAck
  dsimp only
  split
  · rename_i next _ sends
    rwa [show next = _ from (congrArg Prod.fst sends).symm]
  · rename_i next _ sends
    rw [show next = _ from (congrArg Prod.fst sends).symm]
    exact flushed.trans (calm_afterSend _ after)

theorem calm_destroy : Calm exchange exchange.destroy := by
  unfold destroy
  split
  · exact calm_flushAck exchange _ _
  · exact calm_closeNow exchange

theorem calm_close (force : Bool) : Calm exchange (exchange.close force) := by
  have closing : Calm exchange { exchange with isClosing := true } :=
    .of_same rfl rfl rfl rfl rfl rfl rfl
  unfold close
  split
  · split
    · exact (calm_stopCloseTimer exchange).trans (calm_closeNow _)
    · exact .refl exchange
  · dsimp only
    split
    · exact closing.trans (calm_flushAck _ _ _)
    · split
      · exact closing.trans (calm_closeNow _)
      · exact closing.trans (.of_same rfl rfl rfl rfl rfl rfl rfl)

theorem calm_nextMessage : Calm exchange exchange.nextMessage := by
  unfold nextMessage
  split
  · exact .of_same rfl rfl rfl rfl rfl rfl rfl
  · exact .refl exchange

theorem calm_onAckSettled (call : SendCall) (outcome : Except MatterError Message) :
    Calm exchange (exchange.onAckSettled call outcome) := by
  cases outcome with
  | error error => exact calm_finish exchange call (.error error)
  | ok response =>
    have forgets : Calm exchange
        { exchange with sentMessageAckSuccess := none, sentMessageAckFailure := none } :=
      .of_same rfl rfl rfl rfl rfl rfl rfl
    unfold onAckSettled
    dsimp only
    split
    · exact forgets.trans (calm_finish _ _ _)
    · exact forgets.trans (calm_finish _ _ _)

theorem calm_writeMessage : Calm exchange (exchange.writeMessage message).1 := by
  unfold writeMessage
  split
  · exact .of_same rfl rfl rfl rfl rfl rfl rfl
  · exact .refl exchange

theorem calm_enqueue : Calm exchange (exchange.enqueue message).1 := by
  unfold enqueue
  split
  · split
    · have stops : Calm exchange { exchange with receivedMessageAckTimer := false } :=
        .of_same rfl rfl rfl rfl rfl rfl rfl
      exact stops.trans (calm_sendStandaloneAck _ _ _)
    · have holds : Calm exchange
          { exchange with receivedMessageToAck := some message, receivedMessageAckTimer := true } :=
        .of_same rfl rfl rfl rfl rfl rfl rfl
      exact holds.trans (calm_writeMessage _ message)
  · exact calm_writeMessage exchange message

/-! ## The reliable message in progress -/

/-- What the exchange is doing about a reliable message: waiting for its
acknowledgement with at most the current timer, or in one of the calls that go on
to start that timer, and then no timer runs. The counter is behind the number of
transmissions by one. -/
inductive Activity (exchange : MessageExchange) : Prop
  | resting (none : exchange.pending = [])
      (running : ∀ {index}, exchange.Runs index → exchange.retransmissionTimer = some index ∧
        ∃ message ∈ exchange.sentMessageToAck,
          exchange.timerMessages[index]? = some message ∧
          exchange.timesSent message.packetHeader.messageId = exchange.retransmissionCounter + 1)
  | numbering (call : SendCall) (only : exchange.pending = [.messageCounter call])
      (ofUser : call.messageType ≠ standaloneAck)
      (stopped : ∀ {index}, ¬exchange.Runs index)
      (waiting : exchange.sentMessageToAck = none)
  | sending (call : SendCall) (ackPromise index : Nat) (message : Message)
      (only : exchange.pending = [.channel call (some ackPromise)])
      (ofUser : call.messageType ≠ standaloneAck)
      (stopped : ∀ {index}, ¬exchange.Runs index)
      (waiting : exchange.sentMessageToAck = some message)
      (current : exchange.retransmissionTimer = some index)
      (timer : exchange.timerMessages[index]? = some message)
      (once : exchange.timesSent message.packetHeader.messageId = 1)
  | resending (message : Message) (expectedProcessingTimeMs : Option Nat)
      (only : exchange.pending = [.resubmission message expectedProcessingTimeMs])
      (stopped : ∀ {index}, ¬exchange.Runs index)
      (waiting : exchange.sentMessageToAck = some message)
      (times : exchange.timesSent message.packetHeader.messageId =
        exchange.retransmissionCounter + 1)

/-- What holds between all steps, when the exchange has processed the
acknowledgements of `acked`. -/
structure KeepsAcked (acked : List Nat) (exchange : MessageExchange) : Prop where
  activity : Activity exchange
  limited : ∀ messageId, exchange.timesSent messageId ≤ mrpMaxTransmissions
  waiting : ∀ message ∈ exchange.sentMessageToAck,
    message.packetHeader.messageId ∉ acked ∧ message.packetHeader.messageId ∈ exchange.sentIds
  acked : ∀ messageId ∈ acked, messageId ∈ exchange.sentIds

theorem Calm.sentIds {before after : MessageExchange} (calm : Calm before after) :
    after.sentIds = before.sentIds := by
  rw [MessageExchange.sentIds, calm.sent, MessageExchange.sentIds]

theorem Calm.timesSent {before after : MessageExchange} (calm : Calm before after)
    (messageId : Nat) : after.timesSent messageId = before.timesSent messageId := by
  rw [MessageExchange.timesSent, calm.sentIds, MessageExchange.timesSent]

theorem Calm.activity {before after : MessageExchange} (calm : Calm before after)
    (activity : Activity before) : Activity after := by
  cases activity with
  | resting none running =>
    refine .resting (calm.pending.trans none) ?_
    intro index runs
    rcases running (calm.runs runs) with ⟨current, message, waits, timer, times⟩
    refine ⟨calm.current.trans current, message, ?_, ?_, ?_⟩
    · rwa [calm.waiting]
    · rwa [calm.messages]
    · rwa [calm.timesSent, calm.counter]
  | numbering call only ofUser stopped waiting =>
    exact .numbering call (calm.pending.trans only) ofUser (fun runs => stopped (calm.runs runs))
      (calm.waiting.trans waiting)
  | sending call ackPromise index message only ofUser stopped waiting current timer once =>
    exact .sending call ackPromise index message (calm.pending.trans only) ofUser
      (fun runs => stopped (calm.runs runs)) (calm.waiting.trans waiting)
      (calm.current.trans current) (by rwa [calm.messages]) (by rwa [calm.timesSent])
  | resending message expectedProcessingTimeMs only stopped waiting times =>
    exact .resending message expectedProcessingTimeMs (calm.pending.trans only)
      (fun runs => stopped (calm.runs runs)) (calm.waiting.trans waiting)
      (by rwa [calm.timesSent, calm.counter])

theorem Calm.keepsAcked {acked : List Nat} {before after : MessageExchange}
    (calm : Calm before after) (keeps : KeepsAcked acked before) : KeepsAcked acked after where
  activity := calm.activity keeps.activity
  limited := by
    intro messageId
    rw [calm.timesSent]
    exact keeps.limited messageId
  waiting := by
    rw [calm.waiting, calm.sentIds]
    exact keeps.waiting
  acked := by
    rw [calm.sentIds]
    exact keeps.acked

structure HandsOverNoneOf (acked : List Nat) (before after : MessageExchange) : Prop where
  keeps : KeepsAcked acked after
  unchanged : ∀ messageId ∈ acked, after.timesSent messageId = before.timesSent messageId

theorem Calm.handsOverNoneOf {acked : List Nat} {before after : MessageExchange}
    (calm : Calm before after) (keeps : KeepsAcked acked before) :
    HandsOverNoneOf acked before after :=
  ⟨calm.keepsAcked keeps, fun messageId _ => calm.timesSent messageId⟩

variable {exchange} {acked : List Nat}

theorem HandsOverNoneOf.trans_calm {before between after : MessageExchange}
    (handsOver : HandsOverNoneOf acked before between) (calm : Calm between after) :
    HandsOverNoneOf acked before after :=
  ⟨calm.keepsAcked handsOver.keeps, fun messageId isAcked =>
    (calm.timesSent messageId).trans (handsOver.unchanged messageId isAcked)⟩

theorem Activity.pending_of_mem (activity : Activity exchange) {call : Suspended}
    (member : call ∈ exchange.pending) : exchange.pending = [call] := by
  cases activity with
  | resting none running =>
    rw [none] at member
    cases member
  | numbering _ only _ _ _ =>
    rw [only, List.mem_singleton] at member
    rw [only, member]
  | sending _ _ _ _ only _ _ _ _ _ _ =>
    rw [only, List.mem_singleton] at member
    rw [only, member]
  | resending _ _ only _ _ _ =>
    rw [only, List.mem_singleton] at member
    rw [only, member]

theorem Activity.stopped_of_pending (activity : Activity exchange)
    (busy : exchange.pending ≠ []) {index : Nat} : ¬exchange.Runs index := by
  cases activity with
  | resting none running => exact absurd none busy
  | numbering _ _ _ stopped _ => exact stopped
  | sending _ _ _ _ _ _ stopped _ _ _ _ => exact stopped
  | resending _ _ _ stopped _ _ => exact stopped

theorem Activity.stopped_of_none (activity : Activity exchange)
    (noneWaits : exchange.sentMessageToAck = none) {index : Nat} : ¬exchange.Runs index := by
  cases activity with
  | resting none running =>
    intro runs
    rcases running runs with ⟨_, message, waits, _⟩
    cases noneWaits.symm.trans waits
  | numbering _ _ _ stopped _ => exact stopped
  | sending _ _ _ _ _ _ stopped _ _ _ _ => exact stopped
  | resending _ _ _ stopped _ _ => exact stopped

/-! ## Messages handed over -/

theorem runs_of_append {timers : List RetransmissionTimer} {created timer : RetransmissionTimer}
    {index : Nat} (isTimer : timer ∈ (timers ++ [created])[index]?) :
    timer ∈ timers[index]? ∨ index = timers.length ∧ timer = created := by
  rw [List.getElem?_append] at isTimer
  split at isTimer
  · exact .inl isTimer
  · rename_i outside
    rw [List.getElem?_singleton] at isTimer
    split at isTimer
    · rename_i first
      exact .inr ⟨by omega, (Option.some.inj isTimer).symm⟩
    · cases isTimer

theorem message_of_append (timers : List RetransmissionTimer) (created : RetransmissionTimer) :
    ((timers ++ [created]).map (·.message))[timers.length]? = some created.message := by
  simp

theorem timesSent_of_sent {before after : MessageExchange} {message : Message}
    (sent : after.sent = before.sent ++ [message]) (messageId : Nat) :
    after.timesSent messageId =
      before.timesSent messageId +
        if message.packetHeader.messageId = messageId then 1 else 0 := by
  rw [timesSent, sentIds, sent, List.map_append, List.count_append, List.map_singleton,
    List.count_singleton]
  simp [timesSent, sentIds]

theorem KeepsAcked.handOver {before after : MessageExchange} {message : Message}
    (keeps : KeepsAcked acked before) (sent : after.sent = before.sent ++ [message])
    (notAcked : message.packetHeader.messageId ∉ acked)
    (room : before.timesSent message.packetHeader.messageId < mrpMaxTransmissions)
    (activity : Activity after)
    (waiting : ∀ {other}, other ∈ after.sentMessageToAck →
      other ∈ before.sentMessageToAck ∨ other = message) :
    HandsOverNoneOf acked before after := by
  have sentIds : after.sentIds = before.sentIds ++ [message.packetHeader.messageId] := by
    rw [MessageExchange.sentIds, sent, List.map_append]
    rfl
  refine ⟨⟨activity, ?_, ?_, ?_⟩, ?_⟩
  · intro messageId
    rw [timesSent_of_sent sent]
    split
    · rename_i same
      rw [← same]
      exact room
    · exact keeps.limited messageId
  · intro other waits
    rw [sentIds]
    rcases waiting waits with waited | isMessage
    · exact ⟨(keeps.waiting other waited).1, List.mem_append_left _ (keeps.waiting other waited).2⟩
    · rw [isMessage]
      exact ⟨notAcked, List.mem_append_right _ (List.mem_singleton_self _)⟩
  · intro messageId isAcked
    rw [sentIds]
    exact List.mem_append_left _ (keeps.acked messageId isAcked)
  · intro messageId isAcked
    have other : message.packetHeader.messageId ≠ messageId := fun same => notAcked (same ▸ isAcked)
    rw [timesSent_of_sent sent, if_neg other, Nat.add_zero]

theorem timesSent_of_fresh {messageId : Nat} (fresh : messageId ∉ exchange.sentIds) :
    exchange.timesSent messageId = 0 :=
  List.count_eq_zero.mpr fresh

theorem KeepsAcked.handOver_fresh (keeps : KeepsAcked acked exchange) {message : Message}
    (fresh : message.packetHeader.messageId ∉ exchange.sentIds) :
    HandsOverNoneOf acked exchange { exchange with sent := exchange.sent ++ [message] } := by
  let after := { exchange with sent := exchange.sent ++ [message] }
  have same {waiting : Message} (waits : waiting ∈ exchange.sentMessageToAck) :
      after.timesSent waiting.packetHeader.messageId =
        exchange.timesSent waiting.packetHeader.messageId := by
    have other : message.packetHeader.messageId ≠ waiting.packetHeader.messageId := fun same =>
      fresh (same ▸ (keeps.waiting waiting waits).2)
    rw [timesSent_of_sent rfl, if_neg other, Nat.add_zero]
  apply keeps.handOver rfl (fun isAcked => fresh (keeps.acked _ isAcked))
  · rw [timesSent_of_fresh fresh]
    decide
  · cases keeps.activity with
    | resting none running =>
      refine .resting none ?_
      intro index runs
      rcases running runs with ⟨current, waiting, waits, timer, times⟩
      exact ⟨current, waiting, waits, timer, (same waits).trans times⟩
    | numbering call only ofUser stopped waiting =>
      exact .numbering call only ofUser stopped waiting
    | sending call ackPromise index waiting only ofUser stopped waits current timer once =>
      exact .sending call ackPromise index waiting only ofUser stopped waits current timer
        ((same waits).trans once)
    | resending waiting expectedProcessingTimeMs only stopped waits times =>
      exact .resending waiting expectedProcessingTimeMs only stopped waits
        ((same waits).trans times)
  · intro other waits
    exact .inl waits

theorem Activity.pending_of_found (activity : Activity exchange) {position : Nat}
    {call : Suspended} (found : exchange.suspended[position]? = some call)
    (starts : call.startsTimer exchange.useMRP = true) :
    exchange.pending = [call] ∧
      (exchange.suspended.eraseIdx position).filter (·.startsTimer exchange.useMRP) = [] := by
  have member : call ∈ exchange.pending :=
    List.mem_filter.mpr ⟨List.mem_of_getElem? found, starts⟩
  have only := activity.pending_of_mem member
  exact ⟨only, (filter_eraseIdx_of_only found starts only).2⟩

theorem KeepsAcked.removeSuspended (keeps : KeepsAcked acked exchange) {position : Nat}
    {call : Suspended} (found : exchange.suspended[position]? = some call) :
    HandsOverNoneOf acked exchange
      { exchange with suspended := exchange.suspended.eraseIdx position } := by
  cases starts : call.startsTimer exchange.useMRP with
  | false => exact (calm_removeSuspended exchange found starts).handsOverNoneOf keeps
  | true =>
    rcases keeps.activity.pending_of_found found starts with ⟨only, noneLeft⟩
    have busy : exchange.pending ≠ [] := by simp [only]
    refine ⟨⟨.resting noneLeft ?_, keeps.limited, keeps.waiting, keeps.acked⟩, fun _ _ => rfl⟩
    intro index runs
    exact absurd runs (keeps.activity.stopped_of_pending busy)

theorem transmit_of_reliable {call : SendCall} (reliable : call.isReliable exchange.useMRP = true)
    (messageId : Nat) :
    exchange.transmit call messageId =
      { exchange with
        sentMessageToAck := some (exchange.messageOf call messageId)
        retransmissionTimers := exchange.retransmissionTimers ++
          [{ message := exchange.messageOf call messageId
             expectedProcessingTimeMs := some call.expectedProcessingTimeMs
             running := false }]
        retransmissionTimer := some exchange.retransmissionTimers.length
        ackPromises := exchange.ackPromises + 1
        sentMessageAckSuccess := some exchange.ackPromises
        sentMessageAckFailure := some exchange.ackPromises
        sent := exchange.sent ++ [exchange.messageOf call messageId]
        suspended := exchange.suspended ++ [.channel call (some exchange.ackPromises)] } :=
  if_pos reliable

theorem transmit_of_unreliable {call : SendCall}
    (unreliable : call.isReliable exchange.useMRP = false) (messageId : Nat) :
    exchange.transmit call messageId =
      { exchange with
        sent := exchange.sent ++ [exchange.messageOf call messageId]
        suspended := exchange.suspended ++ [.channel call none] } :=
  if_neg (ne_true_of_eq_false unreliable)

theorem KeepsAcked.transmit_unreliable (keeps : KeepsAcked acked exchange) {call : SendCall}
    (unreliable : call.isReliable exchange.useMRP = false) {messageId : Nat}
    (fresh : messageId ∉ exchange.sentIds) :
    HandsOverNoneOf acked exchange (exchange.transmit call messageId) := by
  rw [transmit_of_unreliable unreliable]
  have isFresh : (exchange.messageOf call messageId).packetHeader.messageId ∉
      exchange.sentIds := fresh
  exact (keeps.handOver_fresh isFresh).trans_calm (calm_suspend _ rfl)

theorem KeepsAcked.transmit_reliable (keeps : KeepsAcked acked exchange) {call : SendCall}
    (noneLeft : exchange.pending = []) (noneWaits : exchange.sentMessageToAck = none)
    (ofUser : call.messageType ≠ standaloneAck)
    (reliable : call.isReliable exchange.useMRP = true) {messageId : Nat}
    (fresh : messageId ∉ exchange.sentIds) :
    HandsOverNoneOf acked exchange (exchange.transmit call messageId) := by
  have notSent : exchange.timesSent messageId = 0 := timesSent_of_fresh fresh
  have sent : (exchange.transmit call messageId).sent =
      exchange.sent ++ [exchange.messageOf call messageId] := by
    rw [transmit_of_reliable reliable]
  have once : (exchange.transmit call messageId).timesSent messageId = 1 := by
    rw [timesSent_of_sent sent, notSent, Nat.zero_add]
    exact if_pos rfl
  have room : exchange.timesSent messageId < mrpMaxTransmissions := by
    rw [notSent]
    decide
  apply keeps.handOver sent (fun isAcked => fresh (keeps.acked _ isAcked)) room
  · rw [transmit_of_reliable reliable] at once ⊢
    refine .sending call exchange.ackPromises exchange.retransmissionTimers.length
      (exchange.messageOf call messageId) ?_ ofUser ?_ rfl rfl (message_of_append _ _) once
    · rw [pending, List.filter_append]
      exact congrArg (· ++ _) noneLeft
    · rintro index ⟨timer, isTimer, isRunning⟩
      rcases runs_of_append isTimer with earlier | ⟨_, isCreated⟩
      · exact keeps.activity.stopped_of_none noneWaits ⟨timer, earlier, isRunning⟩
      · rw [isCreated] at isRunning
        cases isRunning
  · intro other waits
    rw [transmit_of_reliable reliable] at waits
    exact .inr (Option.some.inj waits).symm

theorem runs_of_start {timers : List RetransmissionTimer} {started index : Nat}
    {timer : RetransmissionTimer}
    (isTimer : timer ∈ (timers.modify started ({ · with running := true }))[index]?) :
    started = index ∨ timer ∈ timers[index]? := by
  rw [List.getElem?_modify] at isTimer
  by_cases same : started = index
  · exact .inl same
  · simp only [same, if_false, Option.map_eq_map, Option.map_id_fun'] at isTimer
    exact .inr isTimer

theorem KeepsAcked.startTimer (keeps : KeepsAcked acked exchange)
    (noneLeft : exchange.pending = []) (stopped : ∀ {index}, ¬exchange.Runs index)
    {call : SendCall} {ackPromise index : Nat} {message : Message}
    (waits : exchange.sentMessageToAck = some message)
    (current : exchange.retransmissionTimer = some index)
    (timer : exchange.timerMessages[index]? = some message)
    (once : exchange.timesSent message.packetHeader.messageId = 1) :
    HandsOverNoneOf acked exchange (exchange.awaitAck call (some ackPromise)) := by
  let started : MessageExchange :=
    { exchange with
      retransmissionCounter := 0
      retransmissionTimers :=
        exchange.retransmissionTimers.modify index ({ · with running := true }) }
  have starts : exchange.awaitAck call (some ackPromise) =
      { started with suspended := started.suspended ++ [.ack call ackPromise] } := by
    simp [awaitAck, startRetransmissionTimer, current, started]
  have messages : started.timerMessages = exchange.timerMessages := map_message_modify _ _ true
  have keepsStarted : KeepsAcked acked started := by
    refine ⟨.resting noneLeft ?_, keeps.limited, keeps.waiting, keeps.acked⟩
    rintro other ⟨running, isRunning, runs⟩
    rcases runs_of_start isRunning with isCurrent | earlier
    · rw [← isCurrent]
      exact ⟨current, message, waits, messages ▸ timer, once⟩
    · exact absurd ⟨running, earlier, runs⟩ stopped
  have startsNone : Suspended.startsTimer started.useMRP (.ack call ackPromise) = false := rfl
  have handsOver : HandsOverNoneOf acked exchange started := ⟨keepsStarted, fun _ _ => rfl⟩
  rw [starts]
  exact handsOver.trans_calm (calm_suspend started startsNone)

theorem KeepsAcked.createTimer (keeps : KeepsAcked acked exchange)
    (noneLeft : exchange.pending = []) (stopped : ∀ {index}, ¬exchange.Runs index)
    {timer : RetransmissionTimer} (waits : exchange.sentMessageToAck = some timer.message)
    (times : exchange.timesSent timer.message.packetHeader.messageId =
      exchange.retransmissionCounter + 1) :
    HandsOverNoneOf acked exchange (exchange.setRetransmissionTimer timer) := by
  refine ⟨⟨.resting noneLeft ?_, keeps.limited, keeps.waiting, keeps.acked⟩, fun _ _ => rfl⟩
  rintro index ⟨running, isRunning, runs⟩
  rcases runs_of_append isRunning with earlier | ⟨isLast, _⟩
  · exact absurd ⟨running, earlier, runs⟩ stopped
  · rw [isLast]
    exact ⟨rfl, timer.message, waits, message_of_append _ _, times⟩

theorem HandsOverNoneOf.trans {before between after : MessageExchange}
    (first : HandsOverNoneOf acked before between)
    (second : HandsOverNoneOf acked between after) : HandsOverNoneOf acked before after :=
  ⟨second.keeps, fun messageId isAcked =>
    (second.unchanged messageId isAcked).trans (first.unchanged messageId isAcked)⟩

theorem KeepsAcked.resume (keeps : KeepsAcked acked exchange) (position : Nat)
    {resumption : Resumption}
    (fresh : ∀ {messageId}, resumption = .messageCounter (.ok messageId) →
      messageId ∉ exchange.sentIds) :
    HandsOverNoneOf acked exchange (exchange.resume position resumption) := by
  unfold MessageExchange.resume
  split
  · rename_i call messageId found
    have removed := keeps.removeSuspended found
    have isFresh := fresh rfl
    apply removed.trans
    cases reliable : call.isReliable exchange.useMRP with
    | false => exact removed.keeps.transmit_unreliable reliable isFresh
    | true =>
      rcases keeps.activity.pending_of_found found reliable with ⟨only, noneLeft⟩
      cases keeps.activity with
      | resting none _ => cases only.symm.trans none
      | numbering _ isCall ofUser _ noneWaits =>
        cases only.symm.trans isCall
        exact removed.keeps.transmit_reliable noneLeft noneWaits ofUser reliable isFresh
      | sending _ _ _ _ isCall => cases only.symm.trans isCall
      | resending _ _ isCall => cases only.symm.trans isCall
  · rename_i call error found
    exact (keeps.removeSuspended found).trans_calm (calm_finish _ _ _)
  · rename_i call ackPromise found
    have removed := keeps.removeSuspended found
    cases ackPromise with
    | none => exact removed.trans_calm (calm_finish _ _ _)
    | some ackPromise =>
      apply removed.trans
      rcases keeps.activity.pending_of_found found rfl with ⟨only, noneLeft⟩
      cases keeps.activity with
      | resting none _ => cases only.symm.trans none
      | numbering _ isCall => cases only.symm.trans isCall
      | sending _ _ index message isCall _ stopped waits current timer once =>
        exact removed.keeps.startTimer noneLeft stopped waits current timer once
      | resending _ _ isCall => cases only.symm.trans isCall
  · rename_i call ackPromise outcome _ found
    exact (keeps.removeSuspended found).trans_calm (calm_finish _ _ _)
  · rename_i call ackPromise found
    split
    · exact (keeps.removeSuspended found).trans_calm (calm_onAckSettled _ _ _)
    · exact (Calm.refl exchange).handsOverNoneOf keeps
  · rename_i message expectedProcessingTimeMs found
    exact (keeps.removeSuspended found).trans_calm (calm_closeNow _)
  · rename_i message expectedProcessingTimeMs outcome _ found
    have removed := keeps.removeSuspended found
    apply removed.trans
    rcases keeps.activity.pending_of_found found rfl with ⟨only, noneLeft⟩
    cases keeps.activity with
    | resting none _ => cases only.symm.trans none
    | numbering _ isCall => cases only.symm.trans isCall
    | sending _ _ _ _ isCall => cases only.symm.trans isCall
    | resending _ _ isCall stopped waits times =>
      cases only.symm.trans isCall
      exact removed.keeps.createTimer noneLeft stopped waits times
  · exact (Calm.refl exchange).handsOverNoneOf keeps

/-! ## Timers firing, calls of users and acknowledgements -/

theorem KeepsAcked.retransmitMessage (keeps : KeepsAcked acked exchange)
    (noneLeft : exchange.pending = []) (stopped : ∀ {index}, ¬exchange.Runs index)
    {message : Message} (waits : exchange.sentMessageToAck = some message)
    (times : exchange.timesSent message.packetHeader.messageId = exchange.retransmissionCounter + 1)
    (expectedProcessingTimeMs : Option Nat) (finalWaitTime : Int) :
    HandsOverNoneOf acked exchange
      (exchange.retransmitMessage message expectedProcessingTimeMs finalWaitTime) := by
  have counted (counter : Nat) :
      HandsOverNoneOf acked exchange { exchange with retransmissionCounter := counter } := by
    refine ⟨⟨.resting noneLeft ?_, keeps.limited, keeps.waiting, keeps.acked⟩, fun _ _ => rfl⟩
    intro index runs
    exact absurd runs stopped
  unfold MessageExchange.retransmitMessage
  dsimp only
  split
  · split
    · have waiting := counted (exchange.retransmissionCounter + 1 - 1)
      exact waiting.trans (waiting.keeps.createTimer noneLeft stopped waits times)
    · exact (counted (exchange.retransmissionCounter + 1)).trans_calm (calm_giveUp _)
  · rename_i room
    have again : exchange.timesSent message.packetHeader.messageId < mrpMaxTransmissions := by
      omega
    apply keeps.handOver rfl (keeps.waiting message waits).1 again
    · refine .resending message expectedProcessingTimeMs ?_ stopped waits ?_
      · rw [pending, List.filter_append]
        exact congrArg (· ++ _) noneLeft
      · rw [timesSent_of_sent rfl, times]
        exact congrArg _ (if_pos rfl)
    · intro other isWaiting
      exact .inl isWaiting

theorem KeepsAcked.onRetransmissionTimer (keeps : KeepsAcked acked exchange) (index : Nat)
    (finalWaitTime : Int) :
    HandsOverNoneOf acked exchange (exchange.onRetransmissionTimer index finalWaitTime) := by
  unfold MessageExchange.onRetransmissionTimer
  split
  · rename_i timer found
    split
    · rename_i isRunning
      have runs : exchange.Runs index := ⟨timer, found, isRunning⟩
      have stops := calm_stopTimer exchange index
      cases keeps.activity with
      | resting none running =>
        rcases running runs with ⟨_, message, waits, isMessage, times⟩
        have sameMessage : message = timer.message := by
          rw [timerMessages, List.getElem?_map, found] at isMessage
          exact (Option.some.inj isMessage).symm
        rw [sameMessage] at waits times
        have stopped {other : Nat} : ¬MessageExchange.Runs { exchange with
            retransmissionTimers := exchange.retransmissionTimers.modify index
              ({ · with running := false }) } other := by
          rintro ⟨second, isSecond, secondRuns⟩
          rcases runs_of_modify isSecond secondRuns with ⟨differs, earlier⟩
          have current := (running runs).1.symm.trans (running ⟨second, earlier, secondRuns⟩).1
          exact differs (Option.some.inj current)
        have handsOver := (stops.keepsAcked keeps).retransmitMessage none stopped waits times
          timer.expectedProcessingTimeMs finalWaitTime
        exact (stops.handsOverNoneOf keeps).trans handsOver
      | numbering _ _ _ stopped _ => exact absurd runs stopped
      | sending _ _ _ _ _ _ stopped _ _ _ _ => exact absurd runs stopped
      | resending _ _ _ stopped _ _ => exact absurd runs stopped
    · exact (Calm.refl exchange).handsOverNoneOf keeps
  · exact (Calm.refl exchange).handsOverNoneOf keeps

theorem Activity.pending_of_returned (activity : Activity exchange)
    (noneWaits : exchange.sentMessageToAck = none)
    (returned : ∀ call ∈ exchange.suspended, call.isUserSend = false) :
    exchange.pending = [] := by
  have suspended {call : Suspended} (only : exchange.pending = [call]) :
      call ∈ exchange.suspended := by
    have member : call ∈ exchange.pending := by simp [only]
    exact (List.mem_filter.mp member).1
  cases activity with
  | resting none _ => exact none
  | numbering call only ofUser _ _ =>
    have notUser := returned _ (suspended only)
    simp [Suspended.isUserSend, ofUser] at notUser
  | sending call ackPromise _ _ only ofUser _ _ _ _ _ =>
    have notUser := returned _ (suspended only)
    simp [Suspended.isUserSend, ofUser] at notUser
  | resending _ _ _ _ waits _ => cases noneWaits.symm.trans waits

theorem KeepsAcked.send (keeps : KeepsAcked acked exchange) (messageType : Nat) (payload : Bytes)
    (options : ExchangeSendOptions)
    (returned : messageType = standaloneAck ∨
      ∀ call ∈ exchange.suspended, call.isUserSend = false) :
    HandsOverNoneOf acked exchange
      (exchange.send messageType payload options .nothing).1 := by
  rcases exchange.send_shape messageType payload options .nothing with
    calm | ⟨call, sameType, asksNone, noneWaits, waits⟩
  · exact calm.handsOverNoneOf keeps
  · cases starts : Suspended.startsTimer exchange.useMRP (.messageCounter call) with
    | false => exact ((calm_suspend exchange starts).trans waits).handsOverNoneOf keeps
    | true =>
      have ofUser : messageType ≠ standaloneAck := by
        intro isAck
        have unreliable := isReliable_of_standaloneAck exchange.useMRP
          (sameType.trans isAck) (asksNone isAck)
        cases unreliable.symm.trans starts
      have noneWaiting := noneWaits ofUser
      have noneLeft := keeps.activity.pending_of_returned noneWaiting (returned.resolve_left ofUser)
      have only : (exchange.suspended ++ [Suspended.messageCounter call]).filter
          (·.startsTimer exchange.useMRP) = [.messageCounter call] := by
        rw [List.filter_append, List.filter_singleton, starts]
        exact congrArg (· ++ _) noneLeft
      have keepsNumbering : KeepsAcked acked
          { exchange with suspended := exchange.suspended ++ [.messageCounter call] } :=
        ⟨.numbering call only (sameType ▸ ofUser)
          (keeps.activity.stopped_of_none noneWaiting) noneWaiting,
          keeps.limited, keeps.waiting, keeps.acked⟩
      exact ⟨waits.keepsAcked keepsNumbering, fun messageId _ => waits.timesSent messageId⟩

theorem Activity.stopped_of_stop (activity : Activity exchange) {index : Nat} :
    ¬exchange.stopRetransmissionTimer.Runs index := by
  intro runs
  have runsBefore := (calm_stopRetransmissionTimer exchange).runs runs
  cases activity with
  | resting _ running =>
    have current := (running runsBefore).1
    simp only [stopRetransmissionTimer, current] at runs
    rcases runs with ⟨timer, isTimer, isRunning⟩
    exact (runs_of_modify isTimer isRunning).1 rfl
  | numbering _ _ _ stopped _ => exact stopped runsBefore
  | sending _ _ _ _ _ _ stopped _ _ _ _ => exact stopped runsBefore
  | resending _ _ _ stopped _ _ => exact stopped runsBefore

theorem KeepsAcked.acceptAck (keeps : KeepsAcked acked exchange)
    (noneLeft : exchange.pending = []) {sent : Message}
    (waits : exchange.sentMessageToAck = some sent) (message : Message) :
    KeepsAcked (sent.packetHeader.messageId :: acked) (exchange.acceptAck message) := by
  have stops := calm_stopRetransmissionTimer exchange
  have keepsStopped := stops.keepsAcked keeps
  have accepted : KeepsAcked (sent.packetHeader.messageId :: acked)
      { exchange.stopRetransmissionTimer with
        retransmissionCounter := 0, sentMessageToAck := none } := by
    refine ⟨.resting (stops.pending.trans noneLeft) ?_, keepsStopped.limited, ?_, ?_⟩
    · intro index runs
      exact absurd runs keeps.activity.stopped_of_stop
    · intro other waits
      exact absurd waits (Option.not_mem_none other)
    · rintro messageId isAcked
      rcases List.mem_cons.mp isAcked with isSent | earlier
      · rw [isSent]
        exact (keepsStopped.waiting sent (stops.waiting.trans waits)).2
      · exact keepsStopped.acked messageId earlier
  have settles : Calm
      { exchange.stopRetransmissionTimer with
        retransmissionCounter := 0, sentMessageToAck := none }
      (exchange.acceptAck message) := by
    unfold MessageExchange.acceptAck
    dsimp only
    split
    · exact .of_same rfl rfl rfl rfl rfl rfl rfl
    · exact .of_same rfl rfl rfl rfl rfl rfl rfl
  exact settles.keepsAcked accepted

theorem timesSent_acceptAck (messageId : Nat) :
    (exchange.acceptAck message).timesSent messageId = exchange.timesSent messageId := by
  have stopped := (calm_stopRetransmissionTimer exchange).timesSent messageId
  unfold MessageExchange.acceptAck
  dsimp only
  split
  · exact stopped
  · exact stopped

/-- The message that waits for its acknowledgement, where a received message is
this acknowledgement and the exchange takes it. -/
def processesAck (exchange : MessageExchange) (message : Message) (duplicate : Bool) :
    Option Nat :=
  if duplicate = true ∨ ForeignProtocol exchange message ∧ ¬IsStandaloneAck message ∨
      AckedByWaiting exchange message then none
  else
    (exchange.sentMessageToAck.map (·.packetHeader.messageId)).filter
      fun messageId => message.payloadHeader.ackedMessageId = some messageId

theorem calm_handleAck {message : Message} (other : ∀ sent ∈ exchange.sentMessageToAck,
      message.payloadHeader.ackedMessageId ≠ some sent.packetHeader.messageId)
    {next : MessageExchange} {closes : Bool}
    (handles : exchange.handleAck message = .ok (next, closes)) : Calm exchange next := by
  unfold handleAck at handles
  split at handles
  · cases handles
    exact .refl exchange
  · cases handles
  · rename_i sent ackedMessageId waits isAcked
    rw [if_pos fun same => other sent waits (isAcked.trans (congrArg some same))] at handles
    split at handles
    · cases handles
      exact .refl exchange
    · cases handles

theorem calm_onFreshMessage {message : Message} (other : ∀ sent ∈ exchange.sentMessageToAck,
      message.payloadHeader.ackedMessageId ≠ some sent.packetHeader.messageId) :
    Calm exchange (exchange.onFreshMessage message).1 := by
  unfold onFreshMessage
  split
  · exact .refl exchange
  · rename_i next handles
    exact calm_handleAck other handles
  · rename_i next handles
    have calm := calm_handleAck other handles
    split
    · exact calm
    · exact calm.trans (calm_enqueue next message)

/-- Behind the acknowledgement the message is handled as any other. -/
theorem calm_onFreshMessage_of_ack {message sent : Message}
    (waits : exchange.sentMessageToAck = some sent)
    (acks : message.payloadHeader.ackedMessageId = some sent.packetHeader.messageId) :
    Calm (exchange.acceptAck message) (exchange.onFreshMessage message).1 := by
  have closes := calm_closeNow (exchange.acceptAck message)
  unfold onFreshMessage handleAck
  rw [waits, acks]
  dsimp only
  rw [if_neg (not_not.mpr rfl)]
  split
  · rename_i handled
    split at handled
    · cases handled
    · cases handled
  · rename_i handled
    split at handled
    · cases handled
      exact closes
    · cases handled
  · rename_i next handled
    split at handled
    · cases handled
    · cases handled
      split
      · exact .refl _
      · exact calm_enqueue _ message

theorem calm_onMessageReceived_refused {message : Message} {duplicate : Bool}
    (refused : duplicate = true ∨ ForeignProtocol exchange message ∧ ¬IsStandaloneAck message) :
    Calm exchange (exchange.onMessageReceived message duplicate).1 := by
  rcases adjust_other exchange message with ⟨_, _, sameProtocol, sameType⟩
  unfold onMessageReceived
  dsimp only
  rw [sameProtocol, sameType]
  split
  · exact .refl exchange
  · rename_i notForeign
    split
    · split
      · exact calm_sendStandaloneAck exchange _ _
      · exact .refl exchange
    · rename_i isNew
      rcases refused with isDuplicate | ⟨foreign, inStream⟩
      · exact absurd isDuplicate isNew
      · exact absurd ⟨foreign, by simpa [IsStandaloneAck] using inStream⟩ notForeign

theorem KeepsAcked.onMessageReceived (keeps : KeepsAcked acked exchange) {message : Message}
    {duplicate : Bool} (notAgain : duplicate = false → ¬AckedByWaiting exchange message)
    (timely : (exchange.processesAck message duplicate).isSome = true → exchange.pending = []) :
    KeepsAcked ((exchange.processesAck message duplicate).toList ++ acked)
        (exchange.onMessageReceived message duplicate).1 ∧
      ∀ messageId, (exchange.onMessageReceived message duplicate).1.timesSent messageId =
        exchange.timesSent messageId := by
  by_cases refused : duplicate = true ∨ ForeignProtocol exchange message ∧ ¬IsStandaloneAck message
  · have calm := calm_onMessageReceived_refused refused
    have none : exchange.processesAck message duplicate = none := by
      rw [processesAck, if_pos (refused.imp_right .inl)]
    rw [none]
    exact ⟨calm.keepsAcked keeps, calm.timesSent⟩
  · rcases not_or.mp refused with ⟨isNew, accepted⟩
    have notDuplicate : duplicate = false := by simpa using isNew
    cases notDuplicate
    have notAcked := notAgain rfl
    have isAccepted : ¬ForeignProtocol exchange message ∨ IsStandaloneAck message :=
      not_or_of_imp (not_and_not_right.mp accepted)
    have sameAck := (adjust_other exchange message).2.1
    have processes : exchange.processesAck message false =
        (exchange.sentMessageToAck.map (·.packetHeader.messageId)).filter
          fun messageId => message.payloadHeader.ackedMessageId = some messageId := by
      rw [processesAck, if_neg]
      rintro (isDuplicate | foreign | again)
      · cases isDuplicate
      · exact accepted foreign
      · exact notAcked again
    rcases onMessageReceived_fresh exchange message isAccepted with ⟨again, _⟩ | ⟨_, received⟩
    · exact absurd again notAcked
    rw [received]
    by_cases acks : ∃ sent ∈ exchange.sentMessageToAck,
        message.payloadHeader.ackedMessageId = some sent.packetHeader.messageId
    · rcases acks with ⟨sent, waits, acks⟩
      have isAck : exchange.processesAck message false = some sent.packetHeader.messageId := by
        rw [processes, waits, acks]
        simp
      rw [isAck] at timely ⊢
      have noneLeft := timely rfl
      have calm := calm_onFreshMessage_of_ack waits (sameAck.trans acks)
      refine ⟨calm.keepsAcked (keeps.acceptAck noneLeft waits _), fun messageId => ?_⟩
      rw [calm.timesSent, timesSent_acceptAck]
    · have other : ∀ sent ∈ exchange.sentMessageToAck,
          (exchange.adjust message).payloadHeader.ackedMessageId ≠
            some sent.packetHeader.messageId := by
        rintro sent waits isAck
        exact acks ⟨sent, waits, sameAck.symm.trans isAck⟩
      have none : exchange.processesAck message false = none := by
        rw [processes, Option.filter_eq_none_iff]
        rintro messageId isWaiting isAck
        rcases Option.map_eq_some_iff.mp isWaiting with ⟨sent, waits, isId⟩
        rw [← isId] at isAck
        exact acks ⟨sent, waits, by simpa using isAck⟩
      have calm := calm_onFreshMessage other
      rw [none]
      exact ⟨calm.keepsAcked keeps, calm.timesSent⟩

/-- The message counter that a call of `send` is resumed with. -/
def Action.messageId : Action → Option Nat
  | .resume _ (.messageCounter (.ok messageId)) => some messageId
  | _ => none

/-- A call of `send` for another message than an acknowledgement. -/
def Action.isUserSend : Action → Bool
  | .send messageType _ _ => messageType != standaloneAck
  | _ => false

theorem KeepsAcked.act (keeps : KeepsAcked acked exchange) {action : Action}
    (returned : action.isUserSend = true → ∀ call ∈ exchange.suspended, call.isUserSend = false)
    (fresh : ∀ messageId ∈ action.messageId, messageId ∉ exchange.sentIds) :
    HandsOverNoneOf acked exchange (exchange.act action) := by
  cases action with
  | send messageType payload options =>
    apply keeps.send
    by_cases isAck : messageType = standaloneAck
    · exact .inl isAck
    · exact .inr (returned (by simpa [Action.isUserSend] using isAck))
  | resume position resumption =>
    apply keeps.resume
    intro messageId isCounter
    exact fresh messageId (by rw [isCounter]; rfl)
  | receivedMessageAckTimer => exact (calm_onReceivedMessageAckTimer exchange).handsOverNoneOf keeps
  | retransmissionTimer index finalWaitTime =>
    exact keeps.onRetransmissionTimer index finalWaitTime
  | closeTimer index => exact (calm_onCloseTimer exchange index).handsOverNoneOf keeps
  | close force => exact (calm_close exchange force).handsOverNoneOf keeps
  | destroy => exact (calm_destroy exchange).handsOverNoneOf keeps
  | nextMessage => exact (calm_nextMessage exchange).handsOverNoneOf keeps
  | readTimeout =>
    have reads : Calm exchange (exchange.act .readTimeout) :=
      .of_same rfl rfl rfl rfl rfl rfl rfl
    exact reads.handsOverNoneOf keeps

theorem keepsAcked_new (sessionId : Nat) (channelIsReliable isInitiator : Bool)
    (peerSessionId : Nat) (nodeId peerNodeId : Option Nat) (exchangeId : Nat)
    (protocolId : Int) :
    KeepsAcked [] (new sessionId channelIsReliable isInitiator peerSessionId nodeId peerNodeId
      exchangeId protocolId) := by
  refine ⟨.resting rfl ?_, fun _ => Nat.zero_le _, ?_, ?_⟩
  · rintro index ⟨timer, isTimer, _⟩
    cases isTimer
  · intro message waits
    exact absurd waits (Option.not_mem_none message)
  · intro messageId isAcked
    exact absurd isAcked List.not_mem_nil

end MessageExchange

open MessageExchange

/-- One exchange, and the messages whose acknowledgement it has processed. -/
structure Retransmissions where
  exchange : MessageExchange
  acked : List Nat

inductive RetransmissionEvent where
  | receive (message : Message) (duplicate : Bool)
  | act (action : MessageExchange.Action)

namespace Retransmissions

def start (exchange : MessageExchange) : Retransmissions where
  exchange := exchange
  acked := []

variable (state : Retransmissions)

def step : RetransmissionEvent → Retransmissions
  | .receive message duplicate =>
    { exchange := (state.exchange.onMessageReceived message duplicate).1
      acked := (state.exchange.processesAck message duplicate).toList ++ state.acked }
  | .act action => { state with exchange := state.exchange.act action }

/-- What the surroundings promise. Users call `send` when their last call has
returned, the session gives out every message counter once, and what the waiting
message acknowledges was received before, so that it comes as a duplicate. -/
def Expected : RetransmissionEvent → Prop
  | .receive message duplicate =>
    duplicate = false → ¬AckedByWaiting state.exchange message
  | .act action =>
    (action.isUserSend = true → ∀ call ∈ state.exchange.suspended, call.isUserSend = false) ∧
    ∀ messageId ∈ action.messageId, messageId ∉ state.exchange.sentIds

/-- No acknowledgement is processed while a channel still has the message to
send: the first time, or once more. -/
def Timely : RetransmissionEvent → Prop
  | .receive message duplicate =>
    (state.exchange.processesAck message duplicate).isSome = true → state.exchange.pending = []
  | .act _ => True

/-- A step hands no message over whose acknowledgement was processed before, and
no message more often than allowed. -/
def NotSentAgain (event : RetransmissionEvent) : Prop :=
  (∀ messageId ∈ state.acked,
    (state.step event).exchange.timesSent messageId = state.exchange.timesSent messageId) ∧
  ∀ message ∈ (state.step event).exchange.sent,
    (state.step event).exchange.timesSent message.packetHeader.messageId ≤ mrpMaxTransmissions

instance (state : Retransmissions) : ∀ event, Decidable (state.Expected event)
  | .receive _ _ => inferInstanceAs (Decidable (_ → ¬_))
  | .act _ => inferInstanceAs (Decidable (_ ∧ _))

instance (state : Retransmissions) : ∀ event, Decidable (state.Timely event)
  | .receive _ _ => inferInstanceAs (Decidable (_ → _ = _))
  | .act _ => .isTrue trivial

instance (state : Retransmissions) (event : RetransmissionEvent) :
    Decidable (state.NotSentAgain event) :=
  inferInstanceAs (Decidable (_ ∧ _))

theorem step_keepsAcked {state : Retransmissions} {event : RetransmissionEvent}
    (expected : state.Expected event) (timely : state.Timely event)
    (keeps : KeepsAcked state.acked state.exchange) :
    KeepsAcked (state.step event).acked (state.step event).exchange ∧
      state.NotSentAgain event := by
  cases event with
  | receive message duplicate =>
    rcases keeps.onMessageReceived expected timely with ⟨after, unchanged⟩
    exact ⟨after, fun messageId _ => unchanged messageId, fun message _ => after.limited _⟩
  | act action =>
    rcases keeps.act expected.1 expected.2 with ⟨after, unchanged⟩
    exact ⟨after, unchanged, fun message _ => after.limited _⟩

/-- In any interleaving where acknowledgements find no channel send under way, an
acknowledged message is not sent again, and none is sent more often than allowed. -/
theorem notSentAgain_along (sessionId : Nat) (channelIsReliable isInitiator : Bool)
    (peerSessionId : Nat) (nodeId peerNodeId : Option Nat) (exchangeId : Nat)
    (protocolId : Int) {events : List RetransmissionEvent}
    (expected : Execution.Along step Expected
      (.start (.new sessionId channelIsReliable isInitiator peerSessionId nodeId peerNodeId
        exchangeId protocolId)) events)
    (timely : Execution.Along step Timely
      (.start (.new sessionId channelIsReliable isInitiator peerSessionId nodeId peerNodeId
        exchangeId protocolId)) events) :
    Execution.Along step NotSentAgain
      (.start (.new sessionId channelIsReliable isInitiator peerSessionId nodeId peerNodeId
        exchangeId protocolId)) events := by
  have both := Execution.along_and_iff.mpr ⟨expected, timely⟩
  refine both.of_invariant (fun state => KeepsAcked state.acked state.exchange) ?_ ?_
  · exact keepsAcked_new sessionId channelIsReliable isInitiator peerSessionId nodeId peerNodeId
      exchangeId protocolId
  · rintro state event ⟨isExpected, isTimely⟩ keeps
    exact step_keepsAcked isExpected isTimely keeps

/-- A standalone acknowledgement from the other side. -/
def ackOf (messageId acked : Nat) : Message where
  packetHeader :=
    { sessionId := 5, sessionType := .unicast, hasPrivacyEnhancements := false
      isControlMessage := false, hasMessageExtensions := false, messageId
      sourceNodeId := none, destNodeId := none, destGroupId := none }
  payloadHeader :=
    { exchangeId := 1, protocolId := secureChannelProtocolId
      messageType := standaloneAck, isInitiatorMessage := false
      requiresAck := false, ackedMessageId := some acked, hasSecuredExtension := false }
  securityExtension := none
  payload := []

/-- A message is retransmitted once and acknowledged, and the next one is sent. -/
theorem notSentAgain_along_twoMessages :
    Execution.Along step NotSentAgain (.start (.new 5 false true 5 none none 1 1))
      [.act (.send 2 [] .default), .act (.resume 0 (.messageCounter (.ok 7))),
        .act (.resume 0 (.channel .sent)), .act (.retransmissionTimer 0 0),
        .act (.resume 1 (.channel .sent)), .receive (ackOf 100 7) false,
        .act (.resume 0 .ack), .act (.send 2 [] .default),
        .act (.resume 0 (.messageCounter (.ok 8))), .act (.retransmissionTimer 1 0)] := by
  apply notSentAgain_along
  · decide +kernel
  · decide +kernel

/-- The acknowledgement arrives before the channel is done with the message. Then
the timer starts all the same, and the message is sent again. -/
theorem notSentAgain_earlyAck_false :
    ¬∀ (sessionId : Nat) (channelIsReliable isInitiator : Bool) (peerSessionId : Nat)
      (nodeId peerNodeId : Option Nat) (exchangeId : Nat) (protocolId : Int)
      (events : List RetransmissionEvent),
      Execution.Along step Expected
          (.start (.new sessionId channelIsReliable isInitiator peerSessionId nodeId peerNodeId
            exchangeId protocolId)) events →
        Execution.Along step NotSentAgain
          (.start (.new sessionId channelIsReliable isInitiator peerSessionId nodeId peerNodeId
            exchangeId protocolId)) events := by
  intro all
  have along := all 5 false true 5 none none 1 1
    [.act (.send 2 [] .default), .act (.resume 0 (.messageCounter (.ok 7))),
      .receive (ackOf 100 7) false, .act (.resume 0 (.channel .sent)),
      .act (.retransmissionTimer 0 0)] (by decide +kernel)
  exact absurd along (by decide +kernel)

end Retransmissions

end MatterJs.Protocol
