import MatterJs.Foundation.Iteration
import MatterJs.Protocol.InteractionEndpointStructure
import MatterJs.Protocol.InvokeResponseMessage

/-! `handleInvokeRequest`: the checks of a request, the commands it invokes, and the messages
their responses are sent in. -/

namespace MatterJs.Protocol

open General MatterJs.Types Iteration AnySchema

def MAX_UDP_MESSAGE_SIZE : Nat := 1280 - 48

structure InvokeExchange extends RequestExchange where
  maxPayloadSize : Nat
  /-- No channel takes more. -/
  withinChannel : maxPayloadSize ≤ MAX_UDP_MESSAGE_SIZE

structure CommandServer where
  responseId : Nat
  requiresTimedInteraction : Bool
  deriving DecidableEq

/-- The fields a command is invoked with are left to what it results in. -/
structure CommandData where
  commandPath : RequestPath
  commandRef : Option Nat
  deriving DecidableEq

structure InvokeRequest where
  invokeRequests : List CommandData
  timedRequest : Bool
  deriving DecidableEq

structure InvokeResult where
  code : StatusCode
  clusterCode : Option Nat
  responseId : Nat
  response : TlvStream

inductive InvokeError where
  | statusResponse (code : StatusCode) (clusterCode : Option Nat) (isValidationError : Bool)
  | other (failure : MatterError)

/-- What the commands result in, each by the place of its path in the request and its place
among the commands of the path. -/
abbrev InvokeResults := (request command : Nat) → Except InvokeError InvokeResult

structure InvokeServer where
  model : MatterModel
  endpointStructure : InteractionEndpointStructure Unit CommandServer
  maxPathsPerInvoke : Nat

/-! ## The checks -/

def validateCommandPath (path : RequestPath) : Except MatterError Unit :=
  if path.clusterId.isNone ∨ path.elementId.isNone then
    .error (.statusResponseError "Illegal write request with wildcard cluster or attribute ID"
      .invalidAction)
  else .ok ()

def commandPathText (path : ElementPathId) : String :=
  s!"{path.endpointId}/{path.clusterId}/{path.elementId}"

def validateBatch (pathsUsed : List ElementPathId) (commandRefsUsed : List Nat) :
    List CommandData → Except MatterError Unit
  | [] => .ok ()
  | { commandPath, commandRef } :: requests =>
    match commandPath.concrete with
    | none =>
      .error (.statusResponseError "Illegal wildcard path in batch invoke" .invalidAction)
    | some path =>
      if path ∈ pathsUsed then
        .error (.statusResponseError
          s!"Duplicate command path ({commandPathText path}) in batch invoke" .invalidAction)
      else match commandRef with
      | none =>
        .error (.statusResponseError
          s!"Command reference missing in batch invoke of {commandPathText path}"
          .invalidAction)
      | some commandRef =>
        if commandRef ∈ commandRefsUsed then
          .error (.statusResponseError
            s!"Duplicate command reference {commandRef} in invoke of {commandPathText path}"
            .invalidAction)
        else validateBatch (path :: pathsUsed) (commandRef :: commandRefsUsed) requests

namespace InvokeServer

variable (server : InvokeServer) (exchange : InvokeExchange)

def validateInvokeRequest (request : InvokeRequest) : Except MatterError Unit :=
  let timed := exchange.receivedWithinTimedInteraction
  if exchange.timedInteraction = some .expired then
    .error (.statusResponseError "Timed request window expired. Decline invoke request." .timeout)
  else if request.timedRequest ≠ exchange.timedInteraction.isSome then
    .error (.statusResponseError
      s!"timedRequest flag of invoke interaction ({request.timedRequest}) mismatch with expected timed interaction ({timed})."
      .timedRequestMismatch)
  else if timed ∧ exchange.sessionType ≠ .unicast then
    .error (.statusResponseError
      "Invoke requests are only allowed on unicast sessions when a timed interaction is running."
      .invalidAction)
  else if request.invokeRequests.length > server.maxPathsPerInvoke then
    .error (.statusResponseError
      s!"Only {server.maxPathsPerInvoke} invoke requests are supported in one message. This message contains {request.invokeRequests.length}"
      .invalidAction)
  else do
    request.invokeRequests.forM fun data => validateCommandPath data.commandPath
    if request.invokeRequests.length > 1 then validateBatch [] [] request.invokeRequests
    else .ok ()

/-! ## The commands -/

def responseOf (path : ElementPathId) (commandRef : Option Nat) (result : InvokeResult) :
    InvokeResponseData :=
  if result.response.length = 0 then
    .status path result.code result.clusterCode commandRef
  else .command { path with elementId := result.responseId } result.response commandRef

/-- A command's response, or the error that ends the handler. A command of a wildcard path
that is not invoked has neither. -/
def commandOutcome (isConcretePath : Bool) (commandRef : Option Nat) (path : ElementPathId)
    (command : CommandServer) (result : Except InvokeError InvokeResult) :
    Option (Except MatterError InvokeResponseData) :=
  let refuse (status : StatusCode) : Option (Except MatterError InvokeResponseData) :=
    if isConcretePath then some (.ok (.status path status none commandRef)) else none
  if ¬server.endpointStructure.hasEndpoint path.endpointId then refuse .unsupportedEndpoint
  else if command.requiresTimedInteraction ∧ ¬exchange.receivedWithinTimedInteraction then
    refuse .needsTimedInteraction
  else if server.model.isFabricScopedCommand path.clusterId path.elementId ∧
      ¬exchange.hasFabric then
    refuse .unsupportedAccess
  else match result with
  | .ok result => some (.ok (responseOf path commandRef result))
  | .error (.statusResponse code clusterCode isValidationError) =>
    let code := if isValidationError ∧ code = .invalidAction then .invalidCommand else code
    some (.ok (responseOf path commandRef
      { code, clusterCode, responseId := command.responseId, response := [] }))
  | .error (.other failure) => some (.error failure)

def pathOutcomes (data : CommandData) (results : Nat → Except InvokeError InvokeResult) :
    List (Except MatterError InvokeResponseData) :=
  match server.endpointStructure.getCommands data.commandPath, data.commandPath.concrete with
  | .error failure, _ => [.error failure]
  | .ok [], none => []
  | .ok [], some path =>
    match server.endpointStructure.validateConcreteCommandPath path with
    | some (.statusResponseError _ code) => [.ok (.status path code none data.commandRef)]
    | some failure => [.error failure]
    | none => [.error (.internalError
        "validateConcreteCommandPath should throw StatusResponseError but did not.")]
  | .ok commands, _ =>
    commands.zipIdx.filterMap fun ((path, command), index) =>
      server.commandOutcome exchange data.commandPath.isConcrete data.commandRef path command
        (results index)

/-- What the loops over the paths and their commands come to, one after the other. -/
def outcomes (request : InvokeRequest) (results : InvokeResults) :
    List (Except MatterError InvokeResponseData) :=
  request.invokeRequests.zipIdx.flatMap fun (data, index) =>
    server.pathOutcomes exchange data (results index)

end InvokeServer

/-! ## The responses -/

structure SentInvokeResponse where
  message : InvokeResponseMessage
  bytes : Bytes
  deriving DecidableEq

/-- The variables of the handler. -/
structure InvokeState where
  invokeResponses : List TlvStream
  messageSize : Nat
  invokeResultsProcessed : Nat
  sent : List SentInvokeResponse
  deriving DecidableEq

abbrev InvokeEnd := InvokeState × Except MatterError Unit

/-- What does not change while the responses are processed. -/
structure InvokeHandling where
  exchange : InvokeExchange
  /-- `invokeRequests.length` -/
  requestCount : Nat
  emptyInvokeResponseBytes : Bytes

namespace InvokeState

variable (handling : InvokeHandling)

def push (state : InvokeState) (encoded : TlvStream) : InvokeState :=
  { state with invokeResponses := state.invokeResponses ++ [encoded] }

/-- Sends what there is to send. -/
def flush (lastMessageProcessed : Bool) (state : InvokeState) : InvokeEnd :=
  if state.invokeResponses.length > 0 then
    let message : InvokeResponseMessage :=
      { invokeResponses := state.invokeResponses
        moreChunkedMessages := if lastMessageProcessed then none else some true }
    match message.encode with
    | .ok bytes =>
      ({ state with
         sent := state.sent ++ [{ message, bytes }]
         invokeResponses := []
         messageSize := handling.emptyInvokeResponseBytes.length }, .ok ())
    | .error failure => (state, .error failure)
  else (state, .ok ())

def measure (response : InvokeResponseData) : Except MatterError (TlvStream × Nat) := do
  let encoded ← response.encodeTlv
  let invokeResponseBytes ← getEncodedByteLength encoded
  return (encoded, invokeResponseBytes)

/-- One call, and whether it calls itself again with the same response. -/
def processResponseResult (response : InvokeResponseData) (state : InvokeState) :
    Round InvokeState InvokeEnd :=
  let state := { state with invokeResultsProcessed := state.invokeResultsProcessed + 1 }
  if handling.exchange.sessionType = .group then .ended (state, .ok ())
  else match measure response with
  | .error failure => .ended (state, .error failure)
  | .ok (encoded, invokeResponseBytes) =>
    let fits := state.messageSize + invokeResponseBytes ≤ handling.exchange.maxPayloadSize
    if ¬fits ∨ state.invokeResultsProcessed = handling.requestCount then
      if fits then .ended ((state.push encoded).flush handling true)
      else match state.flush handling false with
      | (state, .error failure) => .ended (state, .error failure)
      | (state, .ok ()) =>
        .next { state with invokeResultsProcessed := state.invokeResultsProcessed - 1 }
    else
      .ended ({ state.push encoded with
        messageSize := state.messageSize + invokeResponseBytes }, .ok ())

/-- The responses in their order, with calls up to the depth of `fuel`. -/
def processAll (fuel : Nat) :
    List (Except MatterError InvokeResponseData) → InvokeState → Option InvokeEnd
  | [], state => some (state, .ok ())
  | .error failure :: _, state => some (state, .error failure)
  | .ok response :: outcomes, state =>
    match Iteration.run (processResponseResult handling response) fuel state with
    | some (state, .ok ()) => processAll fuel outcomes state
    | some (state, .error failure) => some (state, .error failure)
    | none => none

end InvokeState

namespace InvokeServer

/-- The handler with the messages it sends, `none` when `fuel` is not enough. -/
def handleInvokeRequest (server : InvokeServer) (exchange : InvokeExchange)
    (request : InvokeRequest) (results : InvokeResults) (fuel : Nat) :
    Option (List SentInvokeResponse × Except MatterError Unit) :=
  let requestCount := request.invokeRequests.length
  let empty : InvokeResponseMessage :=
    { invokeResponses := [], moreChunkedMessages := some (requestCount > 1) }
  match server.validateInvokeRequest exchange request, empty.encode with
  | .error failure, _ | .ok (), .error failure => some ([], .error failure)
  | .ok (), .ok emptyInvokeResponseBytes =>
    let initial : InvokeState :=
      { invokeResponses := []
        messageSize := emptyInvokeResponseBytes.length
        invokeResultsProcessed := 0
        sent := [] }
    (InvokeState.processAll { exchange, requestCount, emptyInvokeResponseBytes } fuel
      (server.outcomes exchange request results) initial).map fun (state, result) =>
        (state.sent, result)

end InvokeServer

end MatterJs.Protocol
