import MatterJs.Types.TlvSchema

/-! The schemas of the reports, of the responses to commands, and of the messages that carry
them. -/

namespace MatterJs.Types

open General

def TlvObject (fields : TlvFields) : TlvSchema :=
  .object fields .struct false

def TlvTaggedList (fields : TlvFields) : TlvSchema :=
  .object fields .list false

def TlvArray (elementSchema : TlvSchema) : TlvSchema :=
  .array elementSchema 0 65535

def identifierSchema (schema : TlvNumericSchema) : TlvSchema :=
  .wrapper (.numeric schema) id id

def TlvNodeId : TlvSchema := identifierSchema TlvUInt64
def TlvEndpointNumber : TlvSchema := identifierSchema TlvUInt16
def TlvClusterId : TlvSchema := identifierSchema TlvUInt32
def TlvAttributeId : TlvSchema := identifierSchema TlvUInt32
def TlvEventId : TlvSchema := identifierSchema TlvUInt32
def TlvEventNumber : TlvSchema := identifierSchema TlvUInt64

def TlvEnum : TlvSchema := .numeric TlvUInt32
def TlvPosixMs : TlvSchema := .numeric TlvUInt64
def TlvSysTimeMS : TlvSchema := .numeric TlvUInt64

namespace BitmapSchema

abbrev BitFlags := List (String × Nat)

def truthy : Option TlvValue → Bool
  | none | some .null => false
  | some (.boolean value) => value
  | some (.number value) => value ≠ 0
  | some (.string text) => !text.isEmpty
  | some (.bytes _) | some (.array _) | some (.object _) | some (.stream _) => true

def encode (bitSchemas : BitFlags) (value : TlvValue) : TlvValue :=
  let isSet (name : String) : Bool :=
    match value with
    | .object properties => truthy (properties.lookup name)
    | _ => false
  .number (bitSchemas.foldl
    (fun result flag => if isSet flag.1 then result ||| 1 <<< flag.2 else result) 0 : Nat)

def decode (bitSchemas : BitFlags) (value : TlvValue) : TlvValue :=
  match value with
  | .number bitmap =>
    .object (bitSchemas.map fun flag =>
      (flag.1, .boolean ((TlvCodec.truncate bitmap).toNat.testBit flag.2)))
  | value => value

end BitmapSchema

def TlvBitmap (underlyingSchema : TlvNumericSchema) (bitSchemas : BitmapSchema.BitFlags) :
    TlvSchema :=
  .wrapper (.numeric underlyingSchema) (BitmapSchema.encode bitSchemas)
    (BitmapSchema.decode bitSchemas)

def WildcardPathFlagsBitmap : BitmapSchema.BitFlags :=
  [("skipRootNode", 0), ("skipGlobalAttributes", 1), ("skipAttributeList", 2),
    ("reserved1", 3), ("skipCommandLists", 4), ("skipCustomElements", 5),
    ("skipFixedAttributes", 6), ("skipChangesOmittedAttributes", 7),
    ("skipDiagnosticsClusters", 8)]

def TlvAttributePath : TlvSchema := TlvTaggedList
  (.cons "enableTagCompression" (TlvOptionalField 0) .boolean
  (.cons "nodeId" (TlvOptionalField 1) TlvNodeId
  (.cons "endpointId" (TlvOptionalField 2) TlvEndpointNumber
  (.cons "clusterId" (TlvOptionalField 3) TlvClusterId
  (.cons "attributeId" (TlvOptionalField 4) TlvAttributeId
  (.cons "listIndex" (TlvOptionalField 5) (.nullable (.numeric TlvUInt16))
  (.cons "wildcardPathFlags" (TlvOptionalField 6)
    (TlvBitmap TlvUInt32 WildcardPathFlagsBitmap) .nil)))))))

def TlvStatus : TlvSchema := TlvObject
  (.cons "status" (TlvOptionalField 0) TlvEnum
  (.cons "clusterStatus" (TlvOptionalField 1) TlvEnum .nil))

def TlvAttributeStatus : TlvSchema := TlvObject
  (.cons "path" (TlvField 0 none) TlvAttributePath
  (.cons "status" (TlvField 1 none) TlvStatus .nil))

def TlvAttributeReportData : TlvSchema := TlvObject
  (.cons "dataVersion" (TlvOptionalField 0) (.numeric TlvUInt32)
  (.cons "path" (TlvField 1 none) TlvAttributePath
  (.cons "data" (TlvField 2 none) .any .nil)))

def TlvAttributeReport : TlvSchema := TlvObject
  (.cons "attributeStatus" (TlvOptionalField 0) TlvAttributeStatus
  (.cons "attributeData" (TlvOptionalField 1) TlvAttributeReportData .nil))

def TlvEventPath : TlvSchema := TlvTaggedList
  (.cons "nodeId" (TlvOptionalField 0) TlvNodeId
  (.cons "endpointId" (TlvOptionalField 1) TlvEndpointNumber
  (.cons "clusterId" (TlvOptionalField 2) TlvClusterId
  (.cons "eventId" (TlvOptionalField 3) TlvEventId
  (.cons "isUrgent" (TlvOptionalField 4) .boolean .nil)))))

def TlvEventStatus : TlvSchema := TlvObject
  (.cons "path" (TlvField 0 none) TlvEventPath
  (.cons "status" (TlvField 1 none) TlvStatus .nil))

def TlvEventData : TlvSchema := TlvObject
  (.cons "path" (TlvField 0 none) TlvEventPath
  (.cons "eventNumber" (TlvField 1 none) TlvEventNumber
  (.cons "priority" (TlvField 2 none) TlvEnum
  (.cons "epochTimestamp" (TlvOptionalField 3) TlvPosixMs
  (.cons "systemTimestamp" (TlvOptionalField 4) TlvSysTimeMS
  (.cons "deltaEpochTimestamp" (TlvOptionalField 5) TlvPosixMs
  (.cons "deltaSystemTimestamp" (TlvOptionalField 6) TlvSysTimeMS
  (.cons "data" (TlvOptionalField 7) .any .nil))))))))

def TlvEventReport : TlvSchema := TlvObject
  (.cons "eventStatus" (TlvOptionalField 0) TlvEventStatus
  (.cons "eventData" (TlvOptionalField 1) TlvEventData .nil))

def TlvDataReportForSend : TlvSchema := TlvObject
  (.cons "subscriptionId" (TlvOptionalField 0) (.numeric TlvUInt32)
  (.cons "attributeReports" (TlvOptionalField 1) (TlvArray .any)
  (.cons "eventReports" (TlvOptionalField 2) (TlvArray .any)
  (.cons "moreChunkedMessages" (TlvOptionalField 3) .boolean
  (.cons "suppressResponse" (TlvOptionalField 4) .boolean
  (.cons "interactionModelRevision" (TlvField 0xff none) (.numeric TlvUInt8) .nil))))))

def TlvCommandId : TlvSchema := identifierSchema TlvUInt32

def TlvCommandPath : TlvSchema := TlvTaggedList
  (.cons "endpointId" (TlvOptionalField 0) TlvEndpointNumber
  (.cons "clusterId" (TlvField 1 none) TlvClusterId
  (.cons "commandId" (TlvField 2 none) TlvCommandId .nil)))

def TlvCommandData : TlvSchema := TlvObject
  (.cons "commandPath" (TlvField 0 none) TlvCommandPath
  (.cons "commandFields" (TlvOptionalField 1) .any
  (.cons "commandRef" (TlvOptionalField 2) (.numeric TlvUInt16) .nil)))

def TlvCommandStatus : TlvSchema := TlvObject
  (.cons "commandPath" (TlvField 0 none) TlvCommandPath
  (.cons "status" (TlvField 1 none) TlvStatus
  (.cons "commandRef" (TlvOptionalField 2) (.numeric TlvUInt16) .nil)))

def TlvInvokeResponseData : TlvSchema := TlvObject
  (.cons "command" (TlvOptionalField 0) TlvCommandData
  (.cons "status" (TlvOptionalField 1) TlvCommandStatus .nil))

def TlvInvokeResponseForSend : TlvSchema := TlvObject
  (.cons "suppressResponse" (TlvField 0 none) .boolean
  (.cons "invokeResponses" (TlvField 1 none) (TlvArray .any)
  (.cons "moreChunkedMessages" (TlvOptionalField 2) .boolean
  (.cons "interactionModelRevision" (TlvField 0xff none) (.numeric TlvUInt8) .nil))))

end MatterJs.Types
