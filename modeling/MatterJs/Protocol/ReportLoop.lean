import MatterJs.Protocol.InteractionMessenger
import MatterJs.Types.SchemaElements

/-! What the steps of the sending loop can do, said once for each of them. -/

namespace MatterJs.Protocol.InteractionServerMessenger

open General MatterJs.Types Iteration

variable {reporting : Reporting}

section Steps

variable {state after : SendState} {attributeToSend : QueuedAttributeReport}

theorem sendDataReportMessage_eq_ok_iff {maxPayloadSize : Nat} {dataReport : DataReport}
    {message : SentMessage} :
    sendDataReportMessage maxPayloadSize dataReport = .ok message ↔
      message.dataReport = dataReport.toSend ∧
        dataReport.toSend.encode = .ok message.encodedMessage ∧
        message.encodedMessage.length ≤ maxPayloadSize := by
  rcases message with ⟨report, bytes⟩
  rw [sendDataReportMessage, bind_eq_ok_iff]
  constructor
  · rintro ⟨encoded, encodes, rest⟩
    by_cases tooLong : encoded.length > maxPayloadSize
    · rw [if_pos tooLong] at rest
      cases rest
    · rw [if_neg tooLong] at rest
      cases rest
      exact ⟨rfl, encodes, Nat.le_of_not_lt tooLong⟩
  · rintro ⟨isReport, encodes, fits⟩
    subst isReport
    refine ⟨bytes, encodes, ?_⟩
    rw [if_neg (Nat.not_lt.mpr fits)]
    rfl

def afterSending (reporting : Reporting) (state : SendState) (message : SentMessage) :
    SendState :=
  { state with
    sent := state.sent ++ [message]
    dataReport := state.dataReport.withoutReports
    messageSize := reporting.emptyDataReportBytes.length
    processQueueFirst := true }

theorem sendAndResetReport_eq_ok_iff :
    sendAndResetReport reporting state = .ok after ↔
      ∃ message, sendDataReportMessage reporting.maxPayloadSize state.dataReport = .ok message ∧
        after = afterSending reporting state message := by
  rw [sendAndResetReport, bind_eq_ok_iff]
  constructor
  · rintro ⟨message, sends, rest⟩
    cases rest
    exact ⟨message, sends, rfl⟩
  · rintro ⟨message, sends, rfl⟩
    exact ⟨message, sends, rfl⟩

/-! ## Chunks -/

def reportSize (options : TlvEncodingOptions) (report : AttributeReportPayload) :
    Except MatterError Nat := do
  let encoded ← encodeAttributePayload report options
  AnySchema.getEncodedByteLength encoded

/-- The bytes the value of a report adds to a list. -/
def dataSize (options : TlvEncodingOptions) (report : AttributeReportPayload) :
    Except MatterError Nat := do
  let encoded ← encodeAttributePayloadData report options
  AnySchema.getEncodedByteLength encoded

variable {options : TlvEncodingOptions} {available : Int} {waiting : SendState}
  {sendOutTheMessage : Bool}

theorem encodeAttribute_eq_ok {needSendNext : Bool} {report : AttributeReportPayload}
    {queued : QueuedAttributeReport}
    (encodes : encodeAttribute options needSendNext report = .ok queued) :
    queued.attributeReport = report ∧ queued.needSendNext = needSendNext ∧
      encodeAttributePayload report options = .ok queued.encoded ∧
      AnySchema.getEncodedByteLength queued.encoded = .ok queued.encodedSize := by
  rcases bind_eq_ok_iff.mp encodes with ⟨encoded, isEncoded, encodes⟩
  rcases bind_eq_ok_iff.mp encodes with ⟨encodedSize, isSize, encodes⟩
  cases encodes
  exact ⟨rfl, rfl, isEncoded, isSize⟩

theorem foldrM_encodeAttribute {chunks : List AttributeReportPayload}
    {queue result : List QueuedAttributeReport} :
    chunks.foldrM (fun chunk queue => do
        let queued ← encodeAttribute options true chunk
        return queued :: queue) queue = .ok result ↔
      ∃ pieces, List.Forall₂ (fun chunk piece => encodeAttribute options true chunk = .ok piece)
        chunks pieces ∧ result = pieces ++ queue := by
  induction chunks generalizing result with
  | nil =>
    constructor
    · intro run
      cases run
      exact ⟨[], .nil, rfl⟩
    · rintro ⟨pieces, encodes, rfl⟩
      cases encodes
      rfl
  | cons chunk chunks induction =>
    rw [List.foldrM_cons, bind_eq_ok_iff]
    constructor
    · rintro ⟨others, run, rest⟩
      rcases induction.mp run with ⟨pieces, encodes, rfl⟩
      rcases bind_eq_ok_iff.mp rest with ⟨piece, encodesFirst, rest⟩
      cases rest
      exact ⟨piece :: pieces, .cons encodesFirst encodes, rfl⟩
    · rintro ⟨pieces, encodes, rfl⟩
      cases encodes with
      | @cons _ piece _ pieces encodesFirst encodes =>
        refine ⟨pieces ++ queue, induction.mpr ⟨pieces, encodes, rfl⟩, ?_⟩
        rw [encodesFirst]
        rfl

theorem addChunks_eq_ok {initialChunk : AttributeReportPayload}
    {chunks : List AttributeReportPayload}
    (added : addChunks options state available initialChunk chunks = .ok after) :
    ∃ taken rest size, chunks = taken ++ rest ∧
      Totals.total (dataSize options) taken = .ok size ∧ (0 ≤ available → size ≤ available) ∧
      ((rest = [] ∧ after = { state with messageSize := state.messageSize + size }) ∨
        ∃ next others nextSize pieces encoded, rest = next :: others ∧
          dataSize options next = .ok nextSize ∧ available < size + nextSize ∧
          List.Forall₂ (fun chunk piece => encodeAttribute options true chunk = .ok piece)
            rest pieces ∧
          encodeAttributePayload (taken.foldl pushPayload initialChunk) options = .ok encoded ∧
          after = { state with
            messageSize := state.messageSize + size
            attributeReportsToSend := pieces ++ state.attributeReportsToSend
            dataReport := state.dataReport.pushAttribute encoded }) := by
  induction chunks generalizing state available initialChunk with
  | nil =>
    cases added
    exact ⟨[], [], 0, rfl, rfl, id, .inl ⟨rfl, rfl⟩⟩
  | cons next chunks induction =>
    rw [addChunks] at added
    rcases bind_eq_ok_iff.mp added with ⟨encodedData, encodesData, added⟩
    rcases bind_eq_ok_iff.mp added with ⟨nextSize, isSize, added⟩
    have nextCosts : dataSize options next = .ok nextSize :=
      bind_eq_ok_iff.mpr ⟨encodedData, encodesData, isSize⟩
    by_cases tooBig : nextSize > available
    · rw [if_pos tooBig] at added
      rcases bind_eq_ok_iff.mp added with ⟨queue, requeued, added⟩
      rcases bind_eq_ok_iff.mp added with ⟨encoded, encodes, added⟩
      rcases foldrM_encodeAttribute.mp requeued with ⟨pieces, encodesPieces, rfl⟩
      cases added
      refine ⟨[], next :: chunks, 0, rfl, rfl, id, .inr ?_⟩
      exact ⟨next, chunks, nextSize, pieces, encoded, rfl, nextCosts, by omega, encodesPieces,
        encodes, rfl⟩
    · rw [if_neg tooBig] at added
      rcases induction added with ⟨taken, rest, size, rfl, costs, fits, ending⟩
      refine ⟨next :: taken, rest, nextSize + size, rfl, Totals.total_cons nextCosts costs, ?_, ?_⟩
      · intro _
        omega
      · rcases ending with ⟨rfl, rfl⟩ |
          ⟨next', others, size', pieces, encoded, rfl, costs', tooBig', encodesPieces, encodes, rfl⟩
        · exact .inl ⟨rfl, by simp [Nat.add_assoc]⟩
        · refine .inr ⟨next', others, size', pieces, encoded, rfl, costs', ?_, encodesPieces,
            encodes, by simp [Nat.add_assoc]⟩
          omega

theorem placeChunks_eq_ok {placement : Placement}
    (placed : placeChunks reporting state attributeToSend available = .ok placement) :
    ∃ emptyChunk first chunks size,
      chunkAttributePayload attributeToSend.attributeReport = .ok (emptyChunk :: first :: chunks) ∧
      reportSize (reporting.options attributeToSend.attributeReport.hasFabricSensitiveData)
        (pushPayload emptyChunk first) = .ok size ∧
      ((available ≤ size ∧ placement = .postponed state attributeToSend.needSendNext) ∨
        size < available ∧ ∃ after, placement = .chunked after ∧
          addChunks (reporting.options attributeToSend.attributeReport.hasFabricSensitiveData)
            { state with messageSize := state.messageSize + size } (available - size)
            (pushPayload emptyChunk first) chunks = .ok after) := by
  rw [placeChunks] at placed
  rcases bind_eq_ok_iff.mp placed with ⟨all, chunked, placed⟩
  match all with
  | emptyChunk :: first :: chunks =>
    rcases bind_eq_ok_iff.mp placed with ⟨encoded, encodes, placed⟩
    rcases bind_eq_ok_iff.mp placed with ⟨size, isSize, placed⟩
    refine ⟨emptyChunk, first, chunks, size, chunked,
      bind_eq_ok_iff.mpr ⟨encoded, encodes, isSize⟩, ?_⟩
    by_cases fits : available > size
    · rw [if_pos fits] at placed
      rcases bind_eq_ok_iff.mp placed with ⟨after, added, placed⟩
      cases placed
      exact .inr ⟨fits, after, rfl, added⟩
    · rw [if_neg fits] at placed
      cases placed
      exact .inl ⟨by omega, rfl⟩

/-! ## One attribute report -/

theorem placeBigAttribute_postponed
    (placed : placeBigAttribute reporting state attributeToSend available =
      .ok (.postponed waiting sendOutTheMessage)) :
    sendOutTheMessage = attributeToSend.needSendNext ∧
      ((waiting = state ∧ (state.allDataReceived || attributeToSend.needSendNext) = true) ∨
        waiting = { state with processQueueFirst := false }) := by
  rw [placeBigAttribute] at placed
  split at placed
  · rename_i chunkable
    rw [Bool.and_eq_true] at chunkable
    rcases placeChunks_eq_ok placed with ⟨_, _, _, _, _, _, ⟨_, isPostponed⟩ | ⟨_, _, isChunked, _⟩⟩
    · cases isPostponed
      exact ⟨rfl, .inl ⟨rfl, chunkable.1⟩⟩
    · cases isChunked
  · split at placed
    · rename_i next
      cases placed
      exact ⟨next.symm, .inl ⟨rfl, by rw [next, Bool.or_true]⟩⟩
    · rename_i notNext
      cases placed
      exact ⟨(Bool.eq_false_iff.mpr notNext).symm, .inr rfl⟩

theorem waiting_fields (placed : placeBigAttribute reporting state attributeToSend available =
      .ok (.postponed waiting sendOutTheMessage)) :
    waiting.payload = state.payload ∧ waiting.allDataReceived = state.allDataReceived ∧
      waiting.messageSize = state.messageSize ∧ waiting.dataReport = state.dataReport ∧
      waiting.attributeReportsToSend = state.attributeReportsToSend ∧
      waiting.eventReportsToSend = state.eventReportsToSend ∧ waiting.sent = state.sent := by
  rcases (placeBigAttribute_postponed placed).2 with ⟨rfl, _⟩ | rfl
  · exact ⟨rfl, rfl, rfl, rfl, rfl, rfl, rfl⟩
  · exact ⟨rfl, rfl, rfl, rfl, rfl, rfl, rfl⟩

inductive AttributeStep (reporting : Reporting) (state : SendState)
    (attributeToSend : QueuedAttributeReport) : SendState → Prop where
  | fits (room : attributeToSend.encodedSize ≤ availableBytes reporting state) :
      AttributeStep reporting state attributeToSend (addAttribute state attributeToSend)
  | chunked {after : SendState}
      (tooBig : availableBytes reporting state < attributeToSend.encodedSize)
      (chunkable : canAttributePayloadBeChunked attributeToSend.attributeReport = true)
      (placed : placeChunks reporting state attributeToSend (availableBytes reporting state) =
        .ok (.chunked after)) :
      AttributeStep reporting state attributeToSend after
  | sentBefore {waiting : SendState} {sendOutTheMessage : Bool} {message : SentMessage}
      (tooBig : availableBytes reporting state < attributeToSend.encodedSize)
      (placed : placeBigAttribute reporting state attributeToSend
        (availableBytes reporting state) = .ok (.postponed waiting sendOutTheMessage))
      (needed : needsSending reporting waiting sendOutTheMessage = true)
      (sends : sendDataReportMessage reporting.maxPayloadSize waiting.dataReport = .ok message)
      (small : ¬IsOversized reporting attributeToSend) :
      AttributeStep reporting state attributeToSend
        (addAttribute (afterSending reporting waiting message) attributeToSend)
  | putBack {waiting : SendState} {sendOutTheMessage : Bool} {message : SentMessage}
      (tooBig : availableBytes reporting state < attributeToSend.encodedSize)
      (placed : placeBigAttribute reporting state attributeToSend
        (availableBytes reporting state) = .ok (.postponed waiting sendOutTheMessage))
      (needed : needsSending reporting waiting sendOutTheMessage = true)
      (sends : sendDataReportMessage reporting.maxPayloadSize waiting.dataReport = .ok message)
      (oversized : IsOversized reporting attributeToSend) :
      AttributeStep reporting state attributeToSend
        { afterSending reporting waiting message with
          attributeReportsToSend := attributeToSend :: waiting.attributeReportsToSend }
  | waits {waiting : SendState} {sendOutTheMessage : Bool}
      (tooBig : availableBytes reporting state < attributeToSend.encodedSize)
      (placed : placeBigAttribute reporting state attributeToSend
        (availableBytes reporting state) = .ok (.postponed waiting sendOutTheMessage))
      (notNeeded : needsSending reporting waiting sendOutTheMessage = false) :
      AttributeStep reporting state attributeToSend
        { waiting with
          attributeReportsToSend := waiting.attributeReportsToSend ++ [attributeToSend] }

theorem placeBigAttribute_chunked
    (placed : placeBigAttribute reporting state attributeToSend available = .ok (.chunked after)) :
    canAttributePayloadBeChunked attributeToSend.attributeReport = true ∧
      placeChunks reporting state attributeToSend available = .ok (.chunked after) := by
  rw [placeBigAttribute] at placed
  split at placed
  · rename_i chunkable
    rw [Bool.and_eq_true] at chunkable
    exact ⟨chunkable.2, placed⟩
  · split at placed
    · cases placed
    · cases placed

theorem sendAttribute_step (sends : sendAttribute reporting state attributeToSend = .ok after) :
    AttributeStep reporting state attributeToSend after := by
  rw [sendAttribute] at sends
  by_cases tooBig : attributeToSend.encodedSize > availableBytes reporting state
  · rw [if_pos tooBig] at sends
    rcases bind_eq_ok_iff.mp sends with ⟨placement, placed, sends⟩
    cases placement with
    | chunked chunkedState =>
      cases sends
      rcases placeBigAttribute_chunked placed with ⟨chunkable, chunks⟩
      exact .chunked tooBig chunkable chunks
    | postponed waiting sendOutTheMessage =>
      cases needed : needsSending reporting waiting sendOutTheMessage with
      | true =>
        simp only [needed] at sends
        rcases bind_eq_ok_iff.mp sends with ⟨emptied, sent, sends⟩
        rcases sendAndResetReport_eq_ok_iff.mp sent with ⟨message, isSent, rfl⟩
        by_cases oversized : IsOversized reporting attributeToSend
        · rw [if_pos oversized] at sends
          cases sends
          exact .putBack tooBig placed needed isSent oversized
        · rw [if_neg oversized] at sends
          cases sends
          exact .sentBefore tooBig placed needed isSent oversized
      | false =>
        simp only [needed] at sends
        cases sends
        exact .waits tooBig placed needed
  · rw [if_neg tooBig] at sends
    cases sends
    exact .fits (Int.not_lt.mp tooBig)

theorem sendAttribute_putBack {message : SentMessage}
    (tooBig : availableBytes reporting state < attributeToSend.encodedSize)
    (placed : placeBigAttribute reporting state attributeToSend (availableBytes reporting state) =
      .ok (.postponed waiting sendOutTheMessage))
    (needed : needsSending reporting waiting sendOutTheMessage = true)
    (sends : sendDataReportMessage reporting.maxPayloadSize waiting.dataReport = .ok message)
    (oversized : IsOversized reporting attributeToSend) :
    sendAttribute reporting state attributeToSend = .ok
      { afterSending reporting waiting message with
        attributeReportsToSend := attributeToSend :: waiting.attributeReportsToSend } := by
  rw [sendAttribute, if_pos tooBig]
  refine bind_eq_ok_iff.mpr ⟨_, placed, ?_⟩
  simp only [needed]
  refine bind_eq_ok_iff.mpr ⟨_, sendAndResetReport_eq_ok_iff.mpr ⟨message, sends, rfl⟩, ?_⟩
  rw [if_pos oversized]
  rfl

/-! ## One round -/

theorem sendEvent_cases {eventToSend : QueuedEventReport}
    (sends : sendEvent reporting state eventToSend = .ok after) :
    (after = addEvent state eventToSend ∧
      state.messageSize + 3 + (if state.dataReport.attributeReports.isSome then 3 else 0) +
        eventToSend.encodedSize ≤ reporting.maxPayloadSize) ∨
    ∃ message, sendDataReportMessage reporting.maxPayloadSize state.dataReport = .ok message ∧
      after = addEvent (afterSending reporting state message) eventToSend := by
  rw [sendEvent] at sends
  by_cases tooBig : state.messageSize + 3 +
      (if state.dataReport.attributeReports.isSome then 3 else 0) +
      eventToSend.encodedSize > reporting.maxPayloadSize
  · rw [if_pos tooBig] at sends
    rcases bind_eq_ok_iff.mp sends with ⟨emptied, sent, sends⟩
    rcases sendAndResetReport_eq_ok_iff.mp sent with ⟨message, isSent, rfl⟩
    cases sends
    exact .inr ⟨message, isSent, rfl⟩
  · rw [if_neg tooBig] at sends
    cases sends
    exact .inl ⟨rfl, Nat.le_of_not_lt tooBig⟩

/-- The state a round works on: as it was, or with a report that was read. -/
inductive Begins (reporting : Reporting) (state : SendState) : SendState → Prop where
  | queueFirst (nothingRead : readsNewData state = .ok false) : Begins reporting state state
  | received {value : EventOrAttributeDataPayload} {payload : List EventOrAttributeDataPayload}
      {current : SendState} (reads : readsNewData state = .ok true)
      (gives : state.payload = value :: payload)
      (receives : receive reporting { state with payload } value = .ok current) :
      Begins reporting state current

inductive QueueStep (reporting : Reporting) (state : SendState) : SendState → Prop where
  | attributeReport {attributeToSend : QueuedAttributeReport} {queue : List QueuedAttributeReport}
      {after : SendState} (first : state.attributeReportsToSend = attributeToSend :: queue)
      (step : AttributeStep reporting { state with attributeReportsToSend := queue }
        attributeToSend after) : QueueStep reporting state after
  | eventReport {eventToSend : QueuedEventReport} {queue : List QueuedEventReport}
      {after : SendState}
      (noAttributes : state.attributeReportsToSend = [])
      (first : state.eventReportsToSend = eventToSend :: queue)
      (sends : sendEvent reporting { state with eventReportsToSend := queue } eventToSend =
        .ok after) : QueueStep reporting state after
  | idle (noAttributes : state.attributeReportsToSend = [])
      (noEvents : state.eventReportsToSend = [])
      (notAll : state.allDataReceived = false) : QueueStep reporting state state

inductive RoundStep (reporting : Reporting) (state : SendState) : SendState → Prop where
  | receivedAll (reads : readsNewData state = .ok true) (nothingLeft : state.payload = []) :
      RoundStep reporting state
        { state with
          allDataReceived := true
          attributeReportsToSend :=
            state.attributeReportsToSend.map QueuedAttributeReport.flag }
  | processed {current after : SendState} (begins : Begins reporting state current)
      (step : QueueStep reporting current after) : RoundStep reporting state after

theorem processQueues_step (processes : processQueues reporting state = .ok (.yield after)) :
    QueueStep reporting state after := by
  rw [processQueues] at processes
  split at processes
  · rename_i attributeToSend queue _ first
    rcases bind_eq_ok_iff.mp processes with ⟨next, sends, processes⟩
    cases processes
    exact .attributeReport first (sendAttribute_step sends)
  · rename_i eventToSend queue noAttributes first
    rcases bind_eq_ok_iff.mp processes with ⟨next, sends, processes⟩
    cases processes
    exact .eventReport noAttributes first sends
  · rename_i noAttributes noEvents
    split at processes
    · cases processes
    · rename_i notAll
      cases processes
      exact .idle noAttributes noEvents (Bool.eq_false_iff.mpr notAll)

theorem iteration_step (iterates : iteration reporting state = .ok (.yield after)) :
    RoundStep reporting state after := by
  rw [iteration] at iterates
  rcases bind_eq_ok_iff.mp iterates with ⟨reads, decided, iterates⟩
  cases reads with
  | true =>
    cases left : state.payload with
    | nil =>
      simp only [if_true, left] at iterates
      rw [receivedAll] at iterates
      split at iterates
      · cases iterates
      · cases iterates
        exact .receivedAll decided left
    | cons value payload =>
      simp only [left] at iterates
      rcases bind_eq_ok_iff.mp iterates with ⟨current, receives, iterates⟩
      exact .processed (.received decided left receives) (processQueues_step iterates)
  | false =>
    exact .processed (.queueFirst decided) (processQueues_step iterates)

theorem round_step (goesOn : round reporting state = .next after) :
    RoundStep reporting state after := by
  rw [round] at goesOn
  split at goesOn
  · rename_i iterates
    cases goesOn
    exact iteration_step iterates
  · cases goesOn
  · cases goesOn

end Steps

end MatterJs.Protocol.InteractionServerMessenger
