import MatterJs.Types.ReportSchemas

/-! The reports of a payload, with their values not yet encoded, and how lists are
taken apart. -/

namespace MatterJs.Protocol

open General MatterJs.Types

/-- The data of an attribute, with its schema and the value of the language. -/
structure AttributeDataPayload where
  schema : TlvSchema
  path : ObjectSchema.Properties
  payload : TlvValue
  dataVersion : Option Nat

structure AttributeReportPayload where
  hasFabricSensitiveData : Bool
  attributeData : Option AttributeDataPayload
  attributeStatus : Option TlvValue

structure EventDataPayload where
  schema : TlvSchema
  path : ObjectSchema.Properties
  payload : TlvValue
  eventNumber : Nat
  priority : Nat
  epochTimestamp : Option Nat
  systemTimestamp : Option Nat
  deltaEpochTimestamp : Option Nat
  deltaSystemTimestamp : Option Nat

structure EventReportPayload where
  hasFabricSensitiveData : Bool
  eventData : Option EventDataPayload
  eventStatus : Option TlvValue

inductive EventOrAttributeDataPayload where
  | attributeReport (report : AttributeReportPayload)
  | eventReport (report : EventReportPayload)

def property (name : String) (value : Option TlvValue) : ObjectSchema.Properties :=
  value.toList.map fun value => (name, value)

def numberProperty (name : String) (value : Option Nat) : ObjectSchema.Properties :=
  property name (value.map fun value => .number value)

variable (attributePayload : AttributeReportPayload)

def encodeAttributePayloadData (options : TlvEncodingOptions) : Except MatterError TlvStream :=
  match attributePayload.attributeData with
  | none =>
    .error (.matterFlowError "Cannot encode Attribute Payload data with just a attributeStatus")
  | some { schema, payload, .. } => schema.encodeTlvInternal options payload none

def encodeAttributePayload (options : TlvEncodingOptions) : Except MatterError TlvStream :=
  match attributePayload.attributeData with
  | none =>
    TlvAttributeReport.encodeTlvInternal .none
      (.object (property "attributeStatus" attributePayload.attributeStatus)) none
  | some { path, schema, payload, dataVersion } => do
    let data ← schema.encodeTlvInternal options payload none
    TlvAttributeReport.encodeTlvInternal .none
      (.object [("attributeData", .object ([("path", .object path), ("data", .stream data)] ++
        numberProperty "dataVersion" dataVersion))]) none

def encodeEventPayload (eventPayload : EventReportPayload) (options : TlvEncodingOptions) :
    Except MatterError TlvStream :=
  match eventPayload.eventData with
  | none =>
    TlvEventReport.encodeTlvInternal .none
      (.object (property "eventStatus" eventPayload.eventStatus)) none
  | some eventData => do
    let data ← eventData.schema.encodeTlvInternal options eventData.payload none
    TlvEventReport.encodeTlvInternal .none
      (.object [("eventData", .object
        ([("path", .object eventData.path), ("data", .stream data),
          ("priority", .number eventData.priority)] ++
        numberProperty "systemTimestamp" eventData.systemTimestamp ++
        numberProperty "deltaSystemTimestamp" eventData.deltaSystemTimestamp ++
        numberProperty "deltaEpochTimestamp" eventData.deltaEpochTimestamp ++
        numberProperty "epochTimestamp" eventData.epochTimestamp ++
        [("eventNumber", .number eventData.eventNumber)]))]) none

def canAttributePayloadBeChunked : Bool :=
  match attributePayload.attributeData with
  | some { schema := .array _ _ _, payload := .array elements, path, .. } =>
    !elements.isEmpty && (path.lookup "listIndex").isNone
  | _ => false

/-- The report that replaces the list by the empty one, then one report for each element
that appends it. -/
def chunkAttributePayload : Except MatterError (List AttributeReportPayload) :=
  let hasFabricSensitiveData := attributePayload.hasFabricSensitiveData
  match attributePayload.attributeData with
  | none =>
    .error (.matterFlowError "Cannot chunk an AttributePayload with just a attributeStatus")
  | some { schema, path, dataVersion, payload } =>
    match schema, payload with
    | .array elementSchema minLength maxLength, .array elements =>
      .ok ({ hasFabricSensitiveData
             attributeData := some
               { schema := .array elementSchema minLength maxLength
                 path := path.filter fun entry => entry.1 ≠ "listIndex"
                 payload := .array []
                 dataVersion }
             attributeStatus := none } ::
        elements.map fun element =>
          { hasFabricSensitiveData
            attributeData := some
              { schema := elementSchema
                path := OrderedMap.setEntries "listIndex" .null path
                payload := element
                dataVersion }
            attributeStatus := none })
    | _, _ =>
      .error (.matterFlowError
        "Cannot chunk an AttributePayload with attributeData that is not an array")

end MatterJs.Protocol
