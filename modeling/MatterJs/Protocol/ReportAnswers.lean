import MatterJs.Protocol.ReportTermination

/-! The answers of the peer to the messages of a report, and which of them stop it. -/

namespace MatterJs.Protocol

open General MatterJs.Types Iteration

inductive MessageType where
  | StatusResponse
  | ReportData
  deriving DecidableEq

namespace MessageType

def code : MessageType → Nat
  | .StatusResponse => 0x01
  | .ReportData => 0x05

end MessageType

def TlvStatusResponse : TlvSchema := TlvObject
  (.cons "status" (TlvField 0 none) TlvEnum
  (.cons "interactionModelRevision" (TlvField 0xff none) (.numeric TlvUInt8) .nil))

def successStatus : Option TlvValue := some (.number 0)

namespace InteractionMessenger

structure Message where
  messageType : Nat
  payload : Bytes

inductive Failure where
  | receivedStatusResponseError (logHint : Option String) (status : Option TlvValue)
  | unexpectedMessageError (receivedMessage : Message)
  | matterError (error : MatterError)

/-- What an exchange does with each message that is sent, in their order -/
structure Exchange where
  send (index messageType : Nat) (payload : Bytes) (expectAckOnly disableMrpLogic : Bool) :
    Except Failure Unit
  nextMessage (index : Nat) (timeoutMs : Option Nat) : Except Failure Message

def decodeStatus (payload : Bytes) : Except MatterError (Option TlvValue) := do
  let response ← TlvStatusResponse.decode payload
  response.property "status"

def throwIfErrorStatusMessage (message : Message) (logHint : Option String) :
    Except Failure Unit :=
  if message.messageType = MessageType.StatusResponse.code then
    match decodeStatus message.payload with
    | .error error => .error (.matterError error)
    | .ok status =>
      if InteractionServerMessenger.strictEquals status successStatus then .ok ()
      else .error (.receivedStatusResponseError logHint status)
  else
    .ok ()

variable (exchange : Exchange) (waitForAck : Bool)

def nextMessage (index : Nat) (expectedMessageType : MessageType) (timeoutMs : Option Nat)
    (expectedMessageInfo : String) : Except Failure Message := do
  let message ← exchange.nextMessage index timeoutMs
  -- What is thrown here is logged, and not thrown again.
  tryCatch (throwIfErrorStatusMessage message (some expectedMessageInfo)) fun _ => .ok ()
  if message.messageType ≠ expectedMessageType.code then
    throw (.matterError (.unexpectedDataError
      s!"Received unexpected message for {expectedMessageInfo} type: {message.messageType}, expected: {expectedMessageType.code}"))
  return message

def waitForSuccess (index : Nat) (expectedMessageInfo : String) (timeoutMs : Option Nat) :
    Except Failure Unit := do
  let _ ← nextMessage exchange index .StatusResponse timeoutMs s!"Success-{expectedMessageInfo}"

end InteractionMessenger

namespace InteractionServerMessenger

open InteractionMessenger

/-- The last message may suppress the response. -/
def Expects (message : SentMessage) : Prop :=
  message.dataReport.base.suppressResponse ≠ some true

section Answers

variable (exchange : Exchange) (waitForAck : Bool)

def responseTimeoutMs : Option Nat :=
  if waitForAck then none else some 500

/-- What `sendDataReportMessage` does with the message that it has encoded -/
def deliver (index : Nat) (message : SentMessage) : Except Failure Unit :=
  if message.dataReport.base.suppressResponse = some true then
    match exchange.send index MessageType.ReportData.code message.encodedMessage true
        (!waitForAck) with
    | .error (.unexpectedMessageError receivedMessage) =>
      throwIfErrorStatusMessage receivedMessage none
    | result => result
  else do
    exchange.send index MessageType.ReportData.code message.encodedMessage false (!waitForAck)
    waitForSuccess exchange index "DataReport" (responseTimeoutMs waitForAck)

/-- What was sent, and how sending ended, if it did -/
structure Transcript where
  sent : List SentMessage
  result : Option (Except Failure Unit)

def answeredLast (reporting : Reporting) (state : SendState) : Transcript :=
  match sendDataReportMessage reporting.maxPayloadSize state.dataReport with
  | .ok message =>
    { sent := state.sent ++ [message]
      result := some (deliver exchange waitForAck state.sent.length message) }
  | .error error => { sent := state.sent, result := some (.error (.matterError error)) }

/-- A round sends one message at most, and what it does behind that message does not fail. -/
def answeredRound (reporting : Reporting) (state : SendState) : Round SendState Transcript :=
  match iteration reporting state with
  | .ok (.yield after) =>
    match after.sent[state.sent.length]? with
    | none => .next after
    | some message =>
      match deliver exchange waitForAck state.sent.length message with
      | .ok () => .next after
      | .error failure => .ended { sent := after.sent, result := some (.error failure) }
  | .ok (.done state) => .ended (answeredLast exchange waitForAck reporting state)
  | .error error => .ended { sent := state.sent, result := some (.error (.matterError error)) }

/-- What can be seen of a run, under way and at its end -/
inductive Observed (reporting : Reporting) (payload : List EventOrAttributeDataPayload) :
    Transcript → Prop where
  | underway {state : SendState}
      (reaches : Reaches (answeredRound exchange waitForAck reporting) (start reporting payload)
        state) : Observed reporting payload { sent := state.sent, result := none }
  | ended {state : SendState} {transcript : Transcript}
      (reaches : Reaches (answeredRound exchange waitForAck reporting) (start reporting payload)
        state)
      (ends : answeredRound exchange waitForAck reporting state = .ended transcript) :
      Observed reporting payload transcript

def answer (index : Nat) (message : SentMessage) : Except Failure InteractionMessenger.Message := do
  exchange.send index MessageType.ReportData.code message.encodedMessage false (!waitForAck)
  exchange.nextMessage index (responseTimeoutMs waitForAck)

structure IsSuccess (message : InteractionMessenger.Message) : Prop where
  isStatus : message.messageType = MessageType.StatusResponse.code
  success : decodeStatus message.payload = .ok successStatus

/-- Every message is followed by another one, and the last one by the end of the call, only when it
was answered by success. -/
structure StopsAtErrorStatus (transcript : Transcript) : Prop where
  nextAfterSuccess : ∀ index message next, transcript.sent[index]? = some message →
    transcript.sent[index + 1]? = some next →
    ∃ received, answer exchange waitForAck index message = .ok received ∧ IsSuccess received
  completesAfterSuccess : transcript.result = some (.ok ()) →
    ∀ index message, transcript.sent[index]? = some message → Expects message →
      ∃ received, answer exchange waitForAck index message = .ok received ∧ IsSuccess received
  throwsOtherwise : ∀ index message received, transcript.sent[index]? = some message →
    Expects message → answer exchange waitForAck index message = .ok received →
    ¬IsSuccess received →
    index + 1 = transcript.sent.length ∧ ∃ failure, transcript.result = some (.error failure)

def OnlySuccess (transcript : Transcript) : Prop :=
  ∀ index message received, transcript.sent[index]? = some message → Expects message →
    answer exchange waitForAck index message = .ok received →
    received.messageType = MessageType.StatusResponse.code →
    decodeStatus received.payload = .ok successStatus

end Answers

variable {exchange : Exchange} {waitForAck : Bool} {reporting : Reporting}
  {state after : SendState} {message : SentMessage} {index : Nat}

theorem nextMessage_eq_ok_iff {expectedMessageType : MessageType} {timeoutMs : Option Nat}
    {expectedMessageInfo : String} {received : InteractionMessenger.Message} :
    nextMessage exchange index expectedMessageType timeoutMs expectedMessageInfo = .ok received ↔
      exchange.nextMessage index timeoutMs = .ok received ∧
        received.messageType = expectedMessageType.code := by
  have logged (message : InteractionMessenger.Message) : tryCatch (throwIfErrorStatusMessage message
      (some expectedMessageInfo)) (fun _ => Except.ok ()) = (.ok () : Except Failure Unit) := by
    cases throwIfErrorStatusMessage message (some expectedMessageInfo) with
    | error failure => rfl
    | ok done => rfl
  rw [nextMessage]
  simp only [logged, bind_eq_ok_iff]
  constructor
  · rintro ⟨message, gives, _, _, rest⟩
    by_cases isExpected : message.messageType = expectedMessageType.code
    · rw [if_neg (not_not_intro isExpected)] at rest
      cases rest
      exact ⟨gives, isExpected⟩
    · rw [if_pos isExpected] at rest
      cases rest
  · rintro ⟨gives, isExpected⟩
    refine ⟨received, gives, (), trivial, ?_⟩
    rw [if_neg (not_not_intro isExpected)]
    rfl

theorem deliver_eq_ok_iff (expects : Expects message) :
    deliver exchange waitForAck index message = .ok () ↔
      ∃ received, answer exchange waitForAck index message = .ok received ∧
        received.messageType = MessageType.StatusResponse.code := by
  rw [deliver, if_neg expects]
  simp only [waitForSuccess, answer, bind_eq_ok_iff, nextMessage_eq_ok_iff]
  constructor
  · rintro ⟨done, sends, received, ⟨gives, isStatus⟩, _⟩
    exact ⟨received, ⟨done, sends, gives⟩, isStatus⟩
  · rintro ⟨received, ⟨done, sends, gives⟩, isStatus⟩
    exact ⟨done, sends, received, ⟨gives, isStatus⟩, rfl⟩

/-! ## One round -/

/-- A state that has sent one message more at most, and which was not the last -/
structure SentBetween (state after : SendState) : Prop where
  more : after.dataReport.moreChunkedMessages = state.dataReport.moreChunkedMessages
  sent : after.sent = state.sent ∨ ∃ message, after.sent = state.sent ++ [message] ∧
    (state.dataReport.moreChunkedMessages = some true →
      message.dataReport.base.suppressResponse = some false)

theorem SentBetween.of_afterSending
    (sends : sendDataReportMessage reporting.maxPayloadSize state.dataReport = .ok message)
    (more : after.dataReport.moreChunkedMessages = state.dataReport.moreChunkedMessages)
    (sent : after.sent = state.sent ++ [message]) : SentBetween state after := by
  refine ⟨more, .inr ⟨message, sent, ?_⟩⟩
  intro hasMore
  rw [(sendDataReportMessage_eq_ok_iff.mp sends).1]
  exact if_pos hasMore

theorem AttributeStep.sentBetween {attributeToSend : QueuedAttributeReport}
    (step : AttributeStep reporting state attributeToSend after) : SentBetween state after := by
  cases step with
  | fits room => exact ⟨rfl, .inl rfl⟩
  | chunked tooBig chunkable placed =>
    rcases placeChunks_eq_ok placed with
      ⟨_, _, _, _, _, _, ⟨_, isPostponed⟩ | ⟨_, _, isChunked, added⟩⟩
    · cases isPostponed
    · cases isChunked
      rcases addChunks_eq_ok added with
        ⟨_, _, _, _, _, _, ⟨_, rfl⟩ | ⟨_, _, _, _, _, _, _, _, _, _, rfl⟩⟩
      · exact ⟨rfl, .inl rfl⟩
      · exact ⟨rfl, .inl rfl⟩
  | sentBefore tooBig placed needed sends small =>
    rcases waiting_fields placed with ⟨_, _, _, sameReport, _, _, sameSent⟩
    rw [sameReport] at sends
    have more := congrArg DataReport.moreChunkedMessages sameReport
    exact .of_afterSending sends more (congrArg (· ++ _) sameSent)
  | putBack tooBig placed needed sends oversized =>
    rcases waiting_fields placed with ⟨_, _, _, sameReport, _, _, sameSent⟩
    rw [sameReport] at sends
    have more := congrArg DataReport.moreChunkedMessages sameReport
    exact .of_afterSending sends more (congrArg (· ++ _) sameSent)
  | waits tooBig placed notNeeded =>
    rcases waiting_fields placed with ⟨_, _, _, sameReport, _, _, sameSent⟩
    exact ⟨congrArg DataReport.moreChunkedMessages sameReport, .inl sameSent⟩

theorem QueueStep.sentBetween (step : QueueStep reporting state after) :
    SentBetween state after := by
  cases step with
  | attributeReport isFirst step => exact ⟨step.sentBetween.more, step.sentBetween.sent⟩
  | eventReport noAttributes isFirst sends =>
    rcases sendEvent_cases sends with ⟨rfl, _⟩ | ⟨message, isSent, rfl⟩
    · exact ⟨rfl, .inl rfl⟩
    · exact .of_afterSending isSent rfl rfl
  | idle => exact ⟨rfl, .inl rfl⟩

theorem RoundStep.sentBetween (step : RoundStep reporting state after) :
    SentBetween state after := by
  cases step with
  | receivedAll reads nothingLeft => exact ⟨rfl, .inl rfl⟩
  | processed begins step =>
    cases begins with
    | queueFirst nothingRead => exact step.sentBetween
    | received reads gives receives =>
      rw [receive_fields receives] at step
      exact ⟨step.sentBetween.more, step.sentBetween.sent⟩

/-- The last round sends nothing. -/
theorem sent_of_done (iterates : iteration reporting state = .ok (.done after)) :
    after.sent = state.sent := by
  rcases bind_eq_ok_iff.mp iterates with ⟨reads, decided, iterates⟩
  have processed {current : SendState}
      (processes : processQueues reporting current = .ok (.done after)) :
      after.sent = current.sent := by
    rw [processQueues] at processes
    split at processes
    · rcases bind_eq_ok_iff.mp processes with ⟨next, _, processes⟩
      cases processes
    · rcases bind_eq_ok_iff.mp processes with ⟨next, _, processes⟩
      cases processes
    · split at processes
      · cases processes
        rfl
      · cases processes
  cases reads with
  | false => exact processed iterates
  | true =>
    cases left : state.payload with
    | nil =>
      simp only [if_true, left] at iterates
      rw [receivedAll] at iterates
      split at iterates
      · cases iterates
        rfl
      · cases iterates
    | cons value payload =>
      simp only [left] at iterates
      rcases bind_eq_ok_iff.mp iterates with ⟨current, receives, iterates⟩
      rw [processed iterates, receive_fields receives]

/-! ## The run -/

/-- Every message before the last one expects a response, and one came. -/
structure Accepted (exchange : Exchange) (waitForAck : Bool) (state : SendState) : Prop where
  more : state.dataReport.moreChunkedMessages = some true
  sent : ∀ index message, state.sent[index]? = some message →
    Expects message ∧ deliver exchange waitForAck index message = .ok ()

theorem getElem?_concat {α : Type} {list : List α} {last found : α} {index : Nat}
    (finds : (list ++ [last])[index]? = some found) :
    list[index]? = some found ∨ index = list.length ∧ found = last := by
  rcases Nat.lt_or_ge index list.length with inside | outside
  · rw [List.getElem?_append_left inside] at finds
    exact .inl finds
  · rw [List.getElem?_append_right outside] at finds
    rcases List.getElem?_eq_some_iff.mp finds with ⟨first, isLast⟩
    have isFirst : index - list.length = 0 := Nat.lt_one_iff.mp first
    exact .inr ⟨Nat.le_antisymm (Nat.sub_eq_zero_iff_le.mp isFirst) outside, by
      simpa using isLast.symm⟩

theorem answeredRound_cases (accepted : Accepted exchange waitForAck state) :
    (∃ after, answeredRound exchange waitForAck reporting state = .next after ∧
      Accepted exchange waitForAck after) ∨
    (∃ failure, answeredRound exchange waitForAck reporting state =
      .ended { sent := state.sent, result := some (.error failure) }) ∨
    ∃ message, answeredRound exchange waitForAck reporting state = .ended
      { sent := state.sent ++ [message]
        result := some (deliver exchange waitForAck state.sent.length message) } := by
  unfold answeredRound
  cases iterates : iteration reporting state with
  | error error => exact .inr (.inl ⟨_, rfl⟩)
  | ok step =>
    cases step with
    | done after =>
      have same := sent_of_done iterates
      simp only [answeredLast]
      cases sendDataReportMessage reporting.maxPayloadSize after.dataReport with
      | error error => exact .inr (.inl ⟨_, by rw [same]⟩)
      | ok message => exact .inr (.inr ⟨message, by rw [same]⟩)
    | yield after =>
      rcases (iteration_step iterates).sentBetween with
        ⟨more, same | ⟨message, isSent, suppresses⟩⟩
      · have nothing : after.sent[state.sent.length]? = none := by
          rw [same]
          exact List.getElem?_eq_none (Nat.le_refl _)
        simp only [nothing]
        exact .inl ⟨after, rfl, more.trans accepted.more, same ▸ accepted.sent⟩
      · have isMessage : after.sent[state.sent.length]? = some message := by
          rw [isSent]
          exact List.getElem?_concat_length
        simp only [isMessage]
        cases delivers : deliver exchange waitForAck state.sent.length message with
        | error failure => exact .inr (.inr ⟨message, by rw [isSent, delivers]⟩)
        | ok done =>
          refine .inl ⟨after, rfl, more.trans accepted.more, ?_⟩
          intro index found finds
          rw [isSent] at finds
          rcases getElem?_concat finds with earlier | ⟨rfl, rfl⟩
          · exact accepted.sent index found earlier
          · refine ⟨?_, delivers⟩
            rw [Expects, suppresses accepted.more]
            nofun

theorem accepted_of_reaches {payload : List EventOrAttributeDataPayload}
    (reaches : Reaches (answeredRound exchange waitForAck reporting) (start reporting payload)
      state) : Accepted exchange waitForAck state := by
  have initially : Accepted exchange waitForAck (start reporting payload) := by
    refine ⟨rfl, ?_⟩
    intro index message finds
    cases List.getElem?_nil.symm.trans finds
  refine reaches.invariant (Accepted exchange waitForAck) ?_ initially
  intro state after accepted goesOn
  rcases @answeredRound_cases _ _ reporting _ accepted with
    ⟨next, isNext, accepts⟩ | ⟨failure, ends⟩ | ⟨message, ends⟩
  · rw [goesOn] at isNext
    cases isNext
    exact accepts
  · rw [goesOn] at ends
    cases ends
  · rw [goesOn] at ends
    cases ends

/-- What is seen of a run, beside a state under way -/
theorem observed_cases {payload : List EventOrAttributeDataPayload} {transcript : Transcript}
    (observed : Observed exchange waitForAck reporting payload transcript) :
    ∃ state, Observed exchange waitForAck reporting payload { sent := state.sent, result := none } ∧
      Accepted exchange waitForAck state ∧
      (transcript = { sent := state.sent, result := none } ∨
        (∃ failure, transcript = { sent := state.sent, result := some (.error failure) }) ∨
        ∃ message, transcript =
          { sent := state.sent ++ [message]
            result := some (deliver exchange waitForAck state.sent.length message) }) := by
  cases observed with
  | underway reaches =>
    exact ⟨_, .underway reaches, accepted_of_reaches reaches, .inl rfl⟩
  | @ended state transcript reaches ends =>
    have accepted := accepted_of_reaches reaches
    refine ⟨state, .underway reaches, accepted, .inr ?_⟩
    rcases @answeredRound_cases _ _ reporting _ accepted with
      ⟨next, isNext, _⟩ | ⟨failure, isEnd⟩ | ⟨message, isEnd⟩
    · cases isNext.symm.trans ends
    · cases isEnd.symm.trans ends
      exact .inl ⟨failure, rfl⟩
    · cases isEnd.symm.trans ends
      exact .inr ⟨message, rfl⟩

theorem stopsAtErrorStatus_of_onlySuccess {payload : List EventOrAttributeDataPayload}
    {transcript : Transcript}
    (observed : Observed exchange waitForAck reporting payload transcript)
    (onlySuccess : OnlySuccess exchange waitForAck transcript) :
    StopsAtErrorStatus exchange waitForAck transcript := by
  have success {index : Nat} {message : SentMessage}
      (finds : transcript.sent[index]? = some message) (expects : Expects message)
      (delivers : deliver exchange waitForAck index message = .ok ()) :
      ∃ received, answer exchange waitForAck index message = .ok received ∧
        IsSuccess received := by
    rcases (deliver_eq_ok_iff expects).mp delivers with ⟨received, answers, isStatus⟩
    exact ⟨received, answers, isStatus,
      onlySuccess index message received finds expects answers isStatus⟩
  -- Whatever is answered by something else was not accepted.
  have refused {index : Nat} {message : SentMessage}
      {received : InteractionMessenger.Message}
      (finds : transcript.sent[index]? = some message) (expects : Expects message)
      (answers : answer exchange waitForAck index message = .ok received)
      (noSuccess : ¬IsSuccess received) : deliver exchange waitForAck index message ≠ .ok () := by
    intro delivers
    rcases success finds expects delivers with ⟨found, isFound, isSuccess⟩
    cases answers.symm.trans isFound
    exact noSuccess isSuccess
  rcases observed_cases observed with ⟨state, underway, accepted, isSeen⟩
  have unfinished (same : transcript.sent = state.sent)
      (notOk : transcript.result ≠ some (.ok ())) :
      StopsAtErrorStatus exchange waitForAck transcript := by
    refine ⟨?_, fun isOk => absurd isOk notOk, ?_⟩
    · intro index message next finds _
      rcases accepted.sent index message (same ▸ finds) with ⟨expects, delivers⟩
      exact success finds expects delivers
    · intro index message received finds expects answers noSuccess
      exact absurd (accepted.sent index message (same ▸ finds)).2
        (refused finds expects answers noSuccess)
  rcases isSeen with rfl | ⟨failure, rfl⟩ | ⟨last, rfl⟩
  · exact unfinished rfl nofun
  · exact unfinished rfl nofun
  · refine ⟨?_, ?_, ?_⟩
    · intro index message next finds hasNext
      rcases getElem?_concat finds with earlier | ⟨rfl, rfl⟩
      · exact success finds (accepted.sent index message earlier).1
          (accepted.sent index message earlier).2
      · have outside := (List.getElem?_eq_some_iff.mp hasNext).1
        rw [List.length_append] at outside
        exact absurd outside (Nat.lt_irrefl _)
    · intro completes index message finds expects
      rcases getElem?_concat finds with earlier | ⟨rfl, rfl⟩
      · exact success finds expects (accepted.sent index message earlier).2
      · exact success finds expects (Option.some.inj completes)
    · intro index message received finds expects answers noSuccess
      have notAccepted := refused finds expects answers noSuccess
      rcases getElem?_concat finds with earlier | ⟨rfl, rfl⟩
      · exact absurd (accepted.sent index message earlier).2 notAccepted
      · refine ⟨by rw [List.length_append, List.length_singleton], ?_⟩
        cases delivers : deliver exchange waitForAck state.sent.length message with
        | error failure => exact ⟨failure, rfl⟩
        | ok done => exact absurd delivers notAccepted

/-- A report is stopped by an error status if and only if there is none. -/
theorem stopsAtErrorStatus_iff (reporting : Reporting) (exchange : Exchange) (waitForAck : Bool)
    (payload : List EventOrAttributeDataPayload) :
    (∀ transcript, Observed exchange waitForAck reporting payload transcript →
      StopsAtErrorStatus exchange waitForAck transcript) ↔
    ∀ transcript, Observed exchange waitForAck reporting payload transcript →
      OnlySuccess exchange waitForAck transcript := by
  constructor
  · intro stops transcript observed index message received finds expects answers isStatus
    by_contra noSuccess
    have throws {seen : Transcript} (observed : Observed exchange waitForAck reporting payload seen)
        (finds : seen.sent[index]? = some message) :
        ∃ failure, seen.result = some (.error failure) :=
      ((stops seen observed).throwsOtherwise index message received finds expects answers
        fun isSuccess => noSuccess isSuccess.success).2
    rcases observed_cases observed with ⟨state, underway, accepted, isSeen⟩
    have notYet : state.sent[index]? ≠ some message := by
      intro earlier
      rcases throws underway earlier with ⟨failure, hasFailed⟩
      cases hasFailed
    rcases isSeen with rfl | ⟨failure, rfl⟩ | ⟨last, rfl⟩
    · exact notYet finds
    · exact notYet finds
    · rcases getElem?_concat finds with earlier | ⟨rfl, rfl⟩
      · exact notYet earlier
      · rcases throws observed finds with ⟨failure, hasFailed⟩
        have delivers := (deliver_eq_ok_iff expects).mpr ⟨received, answers, isStatus⟩
        cases (Option.some.inj hasFailed).symm.trans delivers
  · intro onlySuccess transcript observed
    exact stopsAtErrorStatus_of_onlySuccess observed (onlySuccess transcript observed)

/-- Every message is answered by the status response of a failure. -/
def failingExchange : Exchange where
  send _ _ _ _ _ := .ok ()
  nextMessage _ _ := .ok
    { messageType := MessageType.StatusResponse.code, payload := [21, 36, 0, 1, 36, 255, 11, 24] }

def twoReports : List EventOrAttributeDataPayload :=
  [.attributeReport (bytesReport 700), .attributeReport (bytesReport 700)]

theorem run_twoReports :
    (run (answeredRound failingExchange true readReporting) 5
      (start readReporting twoReports)).map (fun transcript => transcript.sent.length) =
        some 2 := by
  decide +kernel

/-- The second message of a read follows the first one, which the peer has refused. -/
theorem stopsAtErrorStatus_false :
    ¬∀ (reporting : Reporting) (exchange : Exchange) (waitForAck : Bool)
      (payload : List EventOrAttributeDataPayload) (transcript : Transcript),
      Observed exchange waitForAck reporting payload transcript →
        StopsAtErrorStatus exchange waitForAck transcript := by
  intro all
  rcases Option.map_eq_some_iff.mp run_twoReports with ⟨transcript, runs, two⟩
  rcases Reaches.initial.ended_of_run runs with ⟨last, reaches, ends⟩
  have stops := all readReporting failingExchange true twoReports transcript (.ended reaches ends)
  have first : 0 < transcript.sent.length := by rw [two]; decide
  have second : 1 < transcript.sent.length := by rw [two]; decide
  rcases stops.nextAfterSuccess 0 _ _ (List.getElem?_eq_getElem first)
    (List.getElem?_eq_getElem second) with ⟨received, answers, isSuccess⟩
  cases answers
  have refused : (decodeStatus [21, 36, 0, 1, 36, 255, 11, 24]).map (strictEquals · successStatus) =
      .ok false := by
    decide +kernel
  rw [isSuccess.success] at refused
  exact absurd refused (by decide)

end InteractionServerMessenger

end MatterJs.Protocol
