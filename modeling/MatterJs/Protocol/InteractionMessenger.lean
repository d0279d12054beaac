import MatterJs.Foundation.Iteration
import MatterJs.Protocol.AttributeDataEncoder

/-! Sending the reports of a payload: the loop that packs them into messages. A message
that is sent is answered by the peer. -/

namespace MatterJs.Protocol

open General MatterJs.Types Iteration

structure BaseDataReport where
  subscriptionId : Option Nat
  suppressResponse : Option Bool
  interactionModelRevision : Nat

structure DataReport where
  base : BaseDataReport
  attributeReports : Option (List TlvStream)
  eventReports : Option (List TlvStream)
  moreChunkedMessages : Option Bool

namespace DataReport

variable (report : DataReport)

def toValue : TlvValue :=
  .object (numberProperty "subscriptionId" report.base.subscriptionId ++
    property "suppressResponse" (report.base.suppressResponse.map .boolean) ++
    [("interactionModelRevision", .number report.base.interactionModelRevision)] ++
    property "attributeReports"
      (report.attributeReports.map fun reports => .array (reports.map .stream)) ++
    property "eventReports" (report.eventReports.map fun reports => .array (reports.map .stream)) ++
    property "moreChunkedMessages" (report.moreChunkedMessages.map .boolean))

def encode (report : DataReport) : Except MatterError Bytes :=
  TlvDataReportForSend.encode report.toValue

/-- No response is suppressed before the last message. -/
def toSend : DataReport :=
  { report with
    base := { report.base with
      suppressResponse :=
        if report.moreChunkedMessages = some true then some false
        else report.base.suppressResponse } }

def pushAttribute (encoded : TlvStream) : DataReport :=
  { report with attributeReports := some (report.attributeReports.getD [] ++ [encoded]) }

def pushEvent (encoded : TlvStream) : DataReport :=
  { report with eventReports := some (report.eventReports.getD [] ++ [encoded]) }

def withoutReports : DataReport :=
  { report with attributeReports := none, eventReports := none }

theorem withoutReports_of_none {report : DataReport} (noAttributes : report.attributeReports = none)
    (noEvents : report.eventReports = none) : report.withoutReports = report := by
  rcases report with ⟨base, attributes, events, more⟩
  cases noAttributes
  cases noEvents
  rfl

def empty (base : BaseDataReport) : DataReport where
  base := base
  attributeReports := none
  eventReports := none
  moreChunkedMessages := some true

end DataReport

structure SentMessage where
  dataReport : DataReport
  encodedMessage : Bytes

/-- An attribute report that waits to be sent. When it is to be sent next, no new data is
read before. -/
structure QueuedAttributeReport where
  attributeReport : AttributeReportPayload
  encoded : TlvStream
  encodedSize : Nat
  needSendNext : Bool

structure QueuedEventReport where
  eventReport : EventReportPayload
  encoded : TlvStream
  encodedSize : Nat

def QueuedAttributeReport.flag (queued : QueuedAttributeReport) : QueuedAttributeReport :=
  { queued with needSendNext := true }

def DATA_REPORT_MAX_QUEUED_ATTRIBUTE_MESSAGES : Nat := 20
def DATA_REPORT_MIN_AVAILABLE_BYTES_BEFORE_SENDING : Int := 40

namespace InteractionServerMessenger

/-- What does not change while a payload is sent. -/
structure Reporting where
  maxPayloadSize : Nat
  forFabricFilteredRead : Bool
  base : BaseDataReport
  emptyDataReportBytes : Bytes

structure SendState where
  /-- What the iterator has not given yet. -/
  payload : List EventOrAttributeDataPayload
  dataReport : DataReport
  allDataReceived : Bool
  processQueueFirst : Bool
  messageSize : Nat
  attributeReportsToSend : List QueuedAttributeReport
  eventReportsToSend : List QueuedEventReport
  sent : List SentMessage

/-- How sending ended, after which messages. -/
structure Outcome where
  sent : List SentMessage
  result : Except MatterError Unit

def sendDataReportMessage (maxPayloadSize : Nat) (dataReport : DataReport) :
    Except MatterError SentMessage := do
  let dataReportToSend := dataReport.toSend
  let encodedMessage ← dataReportToSend.encode
  if encodedMessage.length > maxPayloadSize then
    throw (.matterFlowError
      s!"DataReport with {encodedMessage.length}bytes is too long to fit in a single chunk ({maxPayloadSize}bytes), This should not happen!")
  return { dataReport := dataReportToSend, encodedMessage }

section Loop

variable (reporting : Reporting)

def Reporting.options (hasFabricSensitiveData : Bool) : TlvEncodingOptions where
  forWriteInteraction := false
  allowMissingFieldsForNonFabricFilteredRead :=
    !reporting.forFabricFilteredRead && hasFabricSensitiveData

variable (state : SendState) (attributeToSend : QueuedAttributeReport)

def sendAndResetReport : Except MatterError SendState := do
  let message ← sendDataReportMessage reporting.maxPayloadSize state.dataReport
  return { state with
    sent := state.sent ++ [message]
    dataReport := state.dataReport.withoutReports
    messageSize := reporting.emptyDataReportBytes.length
    processQueueFirst := true }

def readsNewData : Except MatterError Bool :=
  if state.allDataReceived then
    .ok false
  else if state.attributeReportsToSend.isEmpty && state.eventReportsToSend.isEmpty then
    .ok true
  else if state.attributeReportsToSend.length ≤ DATA_REPORT_MAX_QUEUED_ATTRIBUTE_MESSAGES ∧
      state.processQueueFirst = false then
    match state.attributeReportsToSend with
    | [] => .error (.typeError "Cannot read properties of undefined (reading needSendNext)")
    | first :: _ => .ok !first.needSendNext
  else
    .ok false

/-- Equality of the language, in which two objects are never the same. -/
def strictEquals (first second : Option TlvValue) : Bool :=
  match first, second with
  | none, none | some .null, some .null => true
  | some (.number first), some (.number second) => first = second
  | some (.boolean first), some (.boolean second) => first = second
  | some (.string first), some (.string second) => first = second
  | _, _ => false

def sameCluster (first second : AttributeReportPayload) : Bool :=
  match first.attributeData, second.attributeData with
  | some first, some second =>
    strictEquals (first.path.lookup "nodeId") (second.path.lookup "nodeId") &&
    strictEquals (first.path.lookup "endpointId") (second.path.lookup "endpointId") &&
    strictEquals (first.path.lookup "clusterId") (second.path.lookup "clusterId")
  | _, _ => false

def encodeAttribute (options : TlvEncodingOptions) (needSendNext : Bool)
    (attributeReport : AttributeReportPayload) : Except MatterError QueuedAttributeReport := do
  let encoded ← encodeAttributePayload attributeReport options
  let encodedSize ← AnySchema.getEncodedByteLength encoded
  return { attributeReport, encoded, encodedSize, needSendNext }

def encodeEvent (eventReport : EventReportPayload) : Except MatterError QueuedEventReport := do
  let encoded ← encodeEventPayload eventReport
    (reporting.options eventReport.hasFabricSensitiveData)
  let encodedSize ← AnySchema.getEncodedByteLength encoded
  return { eventReport, encoded, encodedSize }

/-- The queue with a report that was read. One of the cluster of the first report goes to
the front, because the others are too big for the current message. With any other one
the queue needs to go out first. -/
def enqueue (queue : List QueuedAttributeReport) (queued : QueuedAttributeReport) :
    List QueuedAttributeReport :=
  match queue with
  | [] => [queued]
  | first :: _ =>
    if sameCluster first.attributeReport queued.attributeReport then queued :: queue
    else queue.map QueuedAttributeReport.flag ++ [queued]

/-- A report the iterator gave is encoded and added to its queue. -/
def receive (value : EventOrAttributeDataPayload) : Except MatterError SendState :=
  match value with
  | .attributeReport report => do
    let queued ← encodeAttribute (reporting.options report.hasFabricSensitiveData) false report
    return { state with
      attributeReportsToSend := enqueue state.attributeReportsToSend queued }
  | .eventReport report => do
    let queued ← encodeEvent reporting report
    return { state with eventReportsToSend := state.eventReportsToSend ++ [queued] }

/-! ## Attributes -/

/-- The list of the initial chunk with the element of another chunk behind the others. -/
def pushPayload (initialChunk chunk : AttributeReportPayload) : AttributeReportPayload :=
  match initialChunk.attributeData, chunk.attributeData with
  | some { schema, path, payload := .array elements, dataVersion }, some { payload, .. } =>
    { initialChunk with
      attributeData :=
        some { schema, path, payload := .array (elements ++ [payload]), dataVersion } }
  | _, _ => initialChunk

/-- How much more than the first element fits into the message. The first chunk that does
not match anymore and those behind it go back to the queue. -/
def addChunks (options : TlvEncodingOptions) (state : SendState) (availableBytes : Int)
    (initialChunk : AttributeReportPayload) :
    List AttributeReportPayload → Except MatterError SendState
  | [] => .ok state
  | nextChunk :: chunks => do
    let encodedChunkData ← encodeAttributePayloadData nextChunk options
    let encodedChunkDataSize ← AnySchema.getEncodedByteLength encodedChunkData
    if encodedChunkDataSize > availableBytes then
      let attributeReportsToSend ← (nextChunk :: chunks).foldrM
        (fun chunk queue => do
          let queued ← encodeAttribute options true chunk
          return queued :: queue)
        state.attributeReportsToSend
      let encoded ← encodeAttributePayload initialChunk options
      return { state with
        attributeReportsToSend
        dataReport := state.dataReport.pushAttribute encoded }
    else
      addChunks options
        { state with messageSize := state.messageSize + encodedChunkDataSize }
        (availableBytes - encodedChunkDataSize) (pushPayload initialChunk nextChunk) chunks

/-- What becomes of a report that is too big for the current message. -/
inductive Placement where
  | chunked (state : SendState)
  | postponed (state : SendState) (sendOutTheMessage : Bool)

/-- A list is chunked, if at least its first element fits into the message. -/
def placeChunks (availableBytes : Int) : Except MatterError Placement := do
  let attributeReport := attributeToSend.attributeReport
  let options := reporting.options attributeReport.hasFabricSensitiveData
  match ← chunkAttributePayload attributeReport with
  | initialChunk :: firstDataChunk :: chunks =>
    let initialChunk := pushPayload initialChunk firstDataChunk
    let encodedInitialChunk ← encodeAttributePayload initialChunk options
    let encodedInitialChunkSize ← AnySchema.getEncodedByteLength encodedInitialChunk
    if availableBytes > encodedInitialChunkSize then
      let state ← addChunks options
        { state with messageSize := state.messageSize + encodedInitialChunkSize }
        (availableBytes - encodedInitialChunkSize) initialChunk chunks
      return .chunked state
    else
      return .postponed state attributeToSend.needSendNext
  | _ =>
    throw (.internalError "Chunked attribute payload is unexpected. This should not happen!")

/-- A report that is not chunked waits, and until it needs to be sent the message is
filled up. -/
def placeBigAttribute (availableBytes : Int) : Except MatterError Placement :=
  if (state.allDataReceived || attributeToSend.needSendNext) &&
      canAttributePayloadBeChunked attributeToSend.attributeReport then
    placeChunks reporting state attributeToSend availableBytes
  else if attributeToSend.needSendNext then
    .ok (.postponed state true)
  else
    .ok (.postponed { state with processQueueFirst := false } false)

/-- The bytes left in the message, behind those for the array of attribute reports. -/
def availableBytes : Int :=
  reporting.maxPayloadSize - state.messageSize - 3

/-- The message is full, or a report needs to be sent, or too many wait. -/
def needsSending (sendOutTheMessage : Bool) : Bool :=
  sendOutTheMessage ||
    availableBytes reporting state < DATA_REPORT_MIN_AVAILABLE_BYTES_BEFORE_SENDING ||
    state.attributeReportsToSend.head?.any QueuedAttributeReport.needSendNext ||
    state.attributeReportsToSend.length ≥ DATA_REPORT_MAX_QUEUED_ATTRIBUTE_MESSAGES

/-- The report is too big for any message, so that it needs to be chunked. -/
def IsOversized : Prop :=
  attributeToSend.encodedSize >
    (reporting.maxPayloadSize : Int) - reporting.emptyDataReportBytes.length - 3

instance (attributeToSend : QueuedAttributeReport) :
    Decidable (IsOversized reporting attributeToSend) :=
  inferInstanceAs (Decidable (_ > _))

def addAttribute : SendState :=
  { state with
    messageSize := state.messageSize + attributeToSend.encodedSize
    dataReport := state.dataReport.pushAttribute attributeToSend.encoded }

/-- The attribute report was taken off the queue of `state`. -/
def sendAttribute : Except MatterError SendState :=
  if attributeToSend.encodedSize > availableBytes reporting state then do
    match ← placeBigAttribute reporting state attributeToSend (availableBytes reporting state) with
    | .chunked state => return state
    | .postponed state sendOutTheMessage =>
      if needsSending reporting state sendOutTheMessage then
        let state ← sendAndResetReport reporting state
        if IsOversized reporting attributeToSend then
          return { state with
            attributeReportsToSend := attributeToSend :: state.attributeReportsToSend }
        else
          return addAttribute state attributeToSend
      else
        return { state with
          attributeReportsToSend := state.attributeReportsToSend ++ [attributeToSend] }
  else
    .ok (addAttribute state attributeToSend)

def addEvent (eventToSend : QueuedEventReport) : SendState :=
  { state with
    messageSize := state.messageSize + eventToSend.encodedSize
    dataReport := state.dataReport.pushEvent eventToSend.encoded }

/-- The event report was taken off the queue of `state`. -/
def sendEvent (eventToSend : QueuedEventReport) : Except MatterError SendState :=
  if state.messageSize + 3 + (if state.dataReport.attributeReports.isSome then 3 else 0) +
      eventToSend.encodedSize > reporting.maxPayloadSize then do
    let state ← sendAndResetReport reporting state
    return addEvent state eventToSend
  else
    .ok (addEvent state eventToSend)

/-- The last message has no others behind it. -/
def finished : SendState :=
  { state with dataReport := { state.dataReport with moreChunkedMessages := none } }

def processQueues : Except MatterError (ForInStep SendState) :=
  match state.attributeReportsToSend, state.eventReportsToSend with
  | attributeToSend :: attributeReportsToSend, _ => do
    let state ← sendAttribute reporting { state with attributeReportsToSend } attributeToSend
    return .yield state
  | [], eventToSend :: eventReportsToSend => do
    let state ← sendEvent reporting { state with eventReportsToSend } eventToSend
    return .yield state
  | [], [] =>
    if state.allDataReceived then .ok (.done (finished state)) else .ok (.yield state)

/-- The iterator has given all data. Only the queue needs to be sent now. -/
def receivedAll : ForInStep SendState :=
  let state := { state with allDataReceived := true }
  if state.attributeReportsToSend.isEmpty && state.eventReportsToSend.isEmpty then
    .done (finished state)
  else
    .yield { state with
      attributeReportsToSend := state.attributeReportsToSend.map QueuedAttributeReport.flag }

/-- One round of the loop. -/
def iteration : Except MatterError (ForInStep SendState) := do
  if ← readsNewData state then
    match state.payload with
    | [] => return receivedAll state
    | value :: payload =>
      let state ← receive reporting { state with payload } value
      processQueues reporting state
  else
    processQueues reporting state

def sendLast : Outcome :=
  match sendDataReportMessage reporting.maxPayloadSize state.dataReport with
  | .ok message => { sent := state.sent ++ [message], result := .ok () }
  | .error failure => { sent := state.sent, result := .error failure }

def round : Round SendState Outcome :=
  match iteration reporting state with
  | .ok (.yield state) => .next state
  | .ok (.done state) => .ended (sendLast reporting state)
  | .error failure => .ended { sent := state.sent, result := .error failure }

def start (payload : List EventOrAttributeDataPayload) : SendState where
  payload := payload
  dataReport := DataReport.empty reporting.base
  allDataReceived := false
  processQueueFirst := true
  messageSize := reporting.emptyDataReportBytes.length
  attributeReportsToSend := []
  eventReportsToSend := []
  sent := []

end Loop

/-- What sending a payload comes to within `fuel` rounds of the loop. Without a payload one
message is sent. -/
def sendDataReport (maxPayloadSize : Nat) (base : BaseDataReport) (forFabricFilteredRead : Bool)
    (payload : Option (List EventOrAttributeDataPayload)) (fuel : Nat) : Option Outcome :=
  match payload with
  | none =>
    match sendDataReportMessage maxPayloadSize
        { DataReport.empty base with moreChunkedMessages := none } with
    | .ok message => some { sent := [message], result := .ok () }
    | .error failure => some { sent := [], result := .error failure }
  | some payload =>
    match (DataReport.empty base).encode with
    | .ok emptyDataReportBytes =>
      let reporting : Reporting :=
        { maxPayloadSize, forFabricFilteredRead, base, emptyDataReportBytes }
      run (round reporting) fuel (start reporting payload)
    | .error failure => some { sent := [], result := .error failure }

end InteractionServerMessenger

end MatterJs.Protocol
