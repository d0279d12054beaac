import MatterJs.Foundation.Execution
import MatterJs.Protocol.InteractionEndpointStructure

/-! `handleWriteRequest`: the writes a request asks for, and the statuses that answer them. -/

namespace MatterJs.Protocol

open General MatterJs.Types Execution

/-- `listIndex` is there without a number where a list is added to. -/
structure AttributeDataPath where
  enableTagCompression : Bool
  nodeId : Option Nat
  endpointId : Option Nat
  clusterId : Option Nat
  attributeId : Option Nat
  listIndex : Option (Option Nat)
  wildcardPathFlags : Option WildcardPathFlags
  deriving DecidableEq

namespace AttributeDataPath

def toRequestPath (path : AttributeDataPath) : RequestPath where
  endpointId := path.endpointId
  clusterId := path.clusterId
  elementId := path.attributeId

def ofConcrete (path : ElementPathId) : AttributeDataPath where
  enableTagCompression := false
  nodeId := none
  endpointId := some path.endpointId
  clusterId := some path.clusterId
  attributeId := some path.elementId
  listIndex := none
  wildcardPathFlags := none

end AttributeDataPath

structure AttributeData where
  path : AttributeDataPath
  dataVersion : Option Nat
  deriving DecidableEq

structure WriteRequest where
  writeRequests : List AttributeData
  timedRequest : Bool
  suppressResponse : Bool
  moreChunkedMessages : Bool
  deriving DecidableEq

structure WrittenAttribute where
  /-- The server is neither an `AttributeServer` nor a `FabricScopedAttributeServer`. -/
  isFixed : Bool
  isFabricScoped : Bool
  isWritable : Bool
  requiresTimedInteraction : Bool
  /-- `schema instanceof ArraySchema` -/
  isList : Bool
  deriving DecidableEq

inductive WriteError where
  | statusResponse (code : StatusCode) (clusterCode : Option Nat)
  | other
  deriving DecidableEq

/-- `StatusResponseError.is(error, StatusCode.UnsupportedAccess)` -/
def WriteError.isUnsupportedAccess : WriteError → Bool
  | .statusResponse .unsupportedAccess _ => true
  | _ => false

/-- What decoding a value, with the read of a list that is added to, and writing it come to. -/
structure WriteAttempt where
  decoding : Option WriteError
  writing : Option WriteError
  deriving DecidableEq

structure WriteEnvironment where
  /-- The data version of the cluster when its turn comes, if it has one. -/
  dataVersion : (request : Nat) → Option Nat
  /-- By the place among the attributes of the path, too. -/
  attempt : (request place : Nat) → WriteAttempt

structure WriteServer where
  model : MatterModel
  endpointStructure : InteractionEndpointStructure WrittenAttribute Unit

/-! ## The paths of a request -/

/-- What a path with tag compression takes from the last one without. -/
structure LastPath where
  nodeId : Option Nat
  endpointId : Nat
  clusterId : Nat
  attributeId : Nat
  dataVersion : Option Nat
  deriving DecidableEq

/-- `expandPathsInAttributeData`, with wildcard paths accepted -/
def expandPathsInAttributeData (lastPath : Option LastPath) :
    List AttributeData → Except MatterError (List AttributeData)
  | [] => .ok []
  | data :: writes =>
    let path := data.path
    if path.enableTagCompression then
      match lastPath with
      | none =>
        .error (.unexpectedDataError "Tag compression enabled, but no previous path")
      | some last => do
        let expanded : AttributeData :=
          { path :=
              { path with
                nodeId := path.nodeId <|> last.nodeId
                endpointId := path.endpointId <|> last.endpointId
                clusterId := path.clusterId <|> last.clusterId
                attributeId := path.attributeId <|> last.attributeId }
            dataVersion := data.dataVersion <|> last.dataVersion }
        let others ← expandPathsInAttributeData lastPath writes
        return expanded :: others
    else do
      let lastPath := match path.toRequestPath.concrete with
        | some { endpointId, clusterId, elementId } =>
          some
            { nodeId := path.nodeId
              endpointId, clusterId
              attributeId := elementId
              dataVersion := data.dataVersion }
        | none => lastPath
      let others ← expandPathsInAttributeData lastPath writes
      return data :: others

def validateWriteAttributesPath (path : AttributeDataPath) : Except MatterError Unit :=
  if path.clusterId.isNone ∨ path.attributeId.isNone then
    .error (.statusResponseError "Illegal write request with wildcard cluster or attribute ID"
      .invalidAction)
  else .ok ()

/-- An element of the request with the writable attributes its path stands for. -/
structure ResolvedWrite where
  data : AttributeData
  attributes : List (ElementPathId × WrittenAttribute)

namespace WriteServer

variable (server : WriteServer) (exchange : RequestExchange)

def validateWriteRequest (request : WriteRequest) : Except MatterError Unit :=
  let timed := exchange.receivedWithinTimedInteraction
  if request.moreChunkedMessages ∧ request.suppressResponse then
    .error (.statusResponseError
      "MoreChunkedMessages and SuppressResponse cannot be used together in write messages"
      .invalidAction)
  else if timed ∧ request.moreChunkedMessages then
    .error (.statusResponseError
      "Write Request action that is part of a Timed Write Interaction SHALL NOT be chunked."
      .invalidAction)
  else if exchange.timedInteraction = some .expired then
    .error (.statusResponseError "Timed request window expired. Decline write request." .timeout)
  else if request.timedRequest ≠ exchange.timedInteraction.isSome then
    .error (.statusResponseError
      s!"timedRequest flag of write interaction ({request.timedRequest}) mismatch with expected timed interaction ({timed})."
      .timedRequestMismatch)
  else if timed ∧ exchange.sessionType ≠ .unicast then
    .error (.statusResponseError
      "Write requests are only allowed on unicast sessions when a timed interaction is running."
      .invalidAction)
  else if exchange.sessionType = .group ∧ ¬request.suppressResponse then
    .error (.statusResponseError
      "Write requests are only allowed as group casts when suppressResponse=true."
      .invalidAction)
  else .ok ()

def resolveWrite (data : AttributeData) : Except MatterError ResolvedWrite := do
  validateWriteAttributesPath data.path
  let attributes ← server.endpointStructure.getAttributes server.model (·.isWritable)
    data.path.toRequestPath data.path.wildcardPathFlags true
  return { data, attributes }

/-- The writes of a request that is not declined. Which attributes there are does not change
from one to the next. -/
def resolveWrites (request : WriteRequest) : Except MatterError (List ResolvedWrite) := do
  validateWriteRequest exchange request
  let writeData ← expandPathsInAttributeData none request.writeRequests
  writeData.mapM server.resolveWrite

end WriteServer

/-! ## The statuses -/

structure WriteStatus where
  path : AttributeDataPath
  statusCode : StatusCode
  clusterStatusCode : Option Nat
  /-- Whether the write was executed without error, which is not part of the response. -/
  executed : Bool
  deriving DecidableEq

/-- The variables of the handler. -/
structure WriteState where
  writeResults : List WriteStatus
  /-- The lists that were written, for their delayed change events. -/
  attributeListWrites : List ElementPathId
  clusterDataVersionInfo : OrderedMap (Option Nat × Nat × Nat) Nat
  inaccessiblePaths : List ElementPathId

namespace ResolvedWrite

variable (write : ResolvedWrite)

def concrete : Option ElementPathId := write.data.path.toRequestPath.concrete

def isSingle : Bool := write.attributes.length = 1 && write.concrete.isSome

end ResolvedWrite

namespace WriteState

variable (server : WriteServer) (exchange : RequestExchange) (environment : WriteEnvironment)

variable (state : WriteState) (path : ElementPathId)

def refuse (path : AttributeDataPath) (statusCode : StatusCode) : WriteState :=
  { state with
    writeResults := state.writeResults ++
      [{ path, statusCode, clusterStatusCode := none, executed := false }] }

/-- How a write fails once the path is known to be accessible. -/
def attemptError (server : WrittenAttribute) (attempt : WriteAttempt) : Option WriteError :=
  attempt.decoding.or
    (if server.requiresTimedInteraction ∧ ¬exchange.receivedWithinTimedInteraction then
      some (.statusResponse .needsTimedInteraction none)
    else attempt.writing)

def errorStatus : WriteError → WriteStatus
  | .statusResponse code clusterCode =>
    { path := .ofConcrete path, statusCode := code, clusterStatusCode := clusterCode,
      executed := false }
  | .other =>
    { path := .ofConcrete path, statusCode := .constraintError, clusterStatusCode := none,
      executed := false }

/-- The status behind the block that catches errors. -/
def successStatus (executed : Bool) : WriteStatus where
  path := .ofConcrete path
  statusCode := .success
  clusterStatusCode := none
  executed := executed

/-- What is done about an error. With several attributes it is ignored, and the code goes on
to the status of a success. -/
def catchError (isSingle : Bool) (path : ElementPathId) (error : WriteError)
    (state : WriteState) : WriteState :=
  { state with
    inaccessiblePaths :=
      if error.isUnsupportedAccess then state.inaccessiblePaths.insert path
      else state.inaccessiblePaths
    writeResults := state.writeResults ++
      [if isSingle then errorStatus path error else successStatus path false] }

structure AttributeWrite where
  path : ElementPathId
  server : WrittenAttribute
  attempt : WriteAttempt

def writeAttribute (isSingle : Bool) (state : WriteState) (write : AttributeWrite) : WriteState :=
  if write.server.isFixed then
    state.catchError isSingle write.path (.statusResponse .unsupportedWrite none)
  else if write.path ∈ state.inaccessiblePaths then state
  else match attemptError exchange write.server write.attempt with
  | some error => state.catchError isSingle write.path error
  | none =>
    { state with
      attributeListWrites :=
        if write.server.isList then state.attributeListWrites.insert write.path
        else state.attributeListWrites
      writeResults := state.writeResults ++ [successStatus write.path true] }

def checkDataVersion (index : Nat) (write : ResolvedWrite) (path : ElementPathId) :
    Option StatusCode × WriteState :=
  match write.data.dataVersion with
  | none => (none, state)
  | some dataVersion =>
    let clusterKey := (write.data.path.nodeId, path.endpointId, path.clusterId)
    match (state.clusterDataVersionInfo.get clusterKey).or (environment.dataVersion index) with
    | none => (none, state)
    | some currentDataVersion =>
      if dataVersion ≠ currentDataVersion then (some .dataVersionMismatch, state)
      else
        (none, { state with
          clusterDataVersionInfo :=
            state.clusterDataVersionInfo.set clusterKey currentDataVersion })

def checkSingle (index : Nat) (write : ResolvedWrite) : Option StatusCode × WriteState :=
  match write.attributes, write.concrete with
  | [(_, server)], some path =>
    if server.requiresTimedInteraction ∧ ¬exchange.receivedWithinTimedInteraction then
      (some .needsTimedInteraction, state)
    else if server.isFabricScoped ∧ ¬exchange.hasFabric then (some .unsupportedAccess, state)
    else checkDataVersion environment state index write path
  | _, _ => (none, state)

def attributeWrites (index : Nat) (write : ResolvedWrite) : List AttributeWrite :=
  write.attributes.zipIdx.map fun ((path, server), place) =>
    { path, server, attempt := environment.attempt index place }

/-- The status of a concrete path that stands for no writable attribute. -/
def unwritableStatus : StatusCode :=
  match server.endpointStructure.validateConcreteAttributePath path with
  | some (.statusResponseError _ code) => code
  | _ => .unsupportedWrite

def step : ResolvedWrite × Nat → WriteState
  | (write, index) =>
    if write.attributes.isEmpty then
      match write.concrete with
      | some path => state.refuse write.data.path (unwritableStatus server path)
      | none => state
    else
      match checkSingle exchange environment state index write with
      | (some statusCode, state) => state.refuse write.data.path statusCode
      | (none, state) =>
        run (writeAttribute exchange write.isSingle) state (attributeWrites environment index write)

def initial : WriteState where
  writeResults := []
  attributeListWrites := []
  clusterDataVersionInfo := .empty
  inaccessiblePaths := []

end WriteState

namespace WriteServer

def handleWriteRequest (server : WriteServer) (exchange : RequestExchange)
    (environment : WriteEnvironment) (request : WriteRequest) :
    Except MatterError (List WriteStatus) := do
  let writes ← server.resolveWrites exchange request
  return (run (WriteState.step server exchange environment) .initial writes.zipIdx).writeResults

end WriteServer

end MatterJs.Protocol
