import MatterJs.Protocol.AttributeDataEncoder
import MatterJs.Protocol.ServerSubscription
import MatterJs.Types.ContainerElements
import MatterJs.Types.SchemaValidation

/-! The responses to commands, the message that carries them, and the bytes it takes. -/

namespace MatterJs.Protocol

open General MatterJs.Types Totals TlvByteArrayWriter AnySchema ObjectSchema

inductive InvokeResponseData where
  | status (commandPath : ElementPathId) (statusCode : StatusCode) (clusterStatus : Option Nat)
      (commandRef : Option Nat)
  | command (commandPath : ElementPathId) (commandFields : TlvStream) (commandRef : Option Nat)

namespace InvokeResponseData

def pathValue (path : ElementPathId) : TlvValue :=
  .object [("endpointId", .number path.endpointId), ("clusterId", .number path.clusterId),
    ("commandId", .number path.elementId)]

def toValue : InvokeResponseData → TlvValue
  | .status commandPath statusCode clusterStatus commandRef =>
    .object [("status", .object ([("commandPath", pathValue commandPath),
      ("status", .object (("status", .number statusCode.toNat) ::
        numberProperty "clusterStatus" clusterStatus))] ++
      numberProperty "commandRef" commandRef))]
  | .command commandPath commandFields commandRef =>
    .object [("command", .object ([("commandPath", pathValue commandPath),
      ("commandFields", .stream commandFields)] ++ numberProperty "commandRef" commandRef))]

def encodeTlv (response : InvokeResponseData) : Except MatterError TlvStream :=
  TlvInvokeResponseData.encodeTlvInternal .none response.toValue none

end InvokeResponseData

def INTERACTION_MODEL_REVISION : Nat := 12

structure InvokeResponseMessage where
  invokeResponses : List TlvStream
  moreChunkedMessages : Option Bool
  deriving DecidableEq

namespace InvokeResponseMessage

/-- `suppressResponse` is deprecated but must be present. -/
def toValue (message : InvokeResponseMessage) : TlvValue :=
  .object ([("suppressResponse", .boolean false),
    ("invokeResponses", .array (message.invokeResponses.map .stream))] ++
    property "moreChunkedMessages" (message.moreChunkedMessages.map .boolean) ++
    [("interactionModelRevision", .number INTERACTION_MODEL_REVISION)])

def encode (message : InvokeResponseMessage) : Except MatterError Bytes :=
  TlvInvokeResponseForSend.encode message.toValue

variable {message : InvokeResponseMessage} {size : Nat}

theorem lookup_toValue :
    message.toValue.property "suppressResponse" = .ok (some (.boolean false)) ∧
      message.toValue.property "invokeResponses" =
        .ok (some (.array (message.invokeResponses.map .stream))) ∧
      message.toValue.property "moreChunkedMessages" =
        .ok (message.moreChunkedMessages.map .boolean) ∧
      message.toValue.property "interactionModelRevision" =
        .ok (some (.number INTERACTION_MODEL_REVISION)) := by
  rcases message with ⟨responses, _ | more⟩ <;>
    simp [toValue, TlvValue.property, property, List.lookup_cons]

theorem encodeTlvInternal_toValue :
    TlvInvokeResponseForSend.encodeTlvInternal .none message.toValue none = (do
      let responses ← streamsArray 1 message.invokeResponses
      return containerElement none .struct ::
        ((flagElement 0 false :: (responses ++
          (message.moreChunkedMessages.toList.map (flagElement 2) ++
          [unsignedElement 0xff INTERACTION_MODEL_REVISION]))) ++ [endElement])) := by
  rcases @lookup_toValue message with ⟨suppressResponse, responses, more, revision⟩
  rw [TlvInvokeResponseForSend, TlvSchema.encodeTlvInternal_struct]
  simp only [TlvFields.entryEncoders, List.mapM_cons]
  rw [encodeEntryToTlv_present rfl suppressResponse, encodeEntryToTlv_present rfl responses,
    encodeEntryToTlv_optional more, encodeEntryToTlv_present rfl revision]
  rw [elim_flag]
  simp only [TlvField]
  rw [encodeTlvInternal_streams]
  cases streamsArray 1 message.invokeResponses with
  | error failure => rfl
  | ok responses =>
    rfl

def ownSize : Nat := 10

theorem encodeInternal_iff :
    (∃ bytes, TlvInvokeResponseForSend.encodeInternal message.toValue = .ok bytes ∧
      bytes.length = size) ↔
    ∃ contents, total (total bytesTaken) message.invokeResponses = .ok contents ∧
      ownSize + flagSize message.moreChunkedMessages + contents = size := by
  have startTotal := bytesWritten_container .struct
  have flagTotal := bytesWritten_flag 0 false
  have revisionTotal : total bytesWritten [unsignedElement 0xff INTERACTION_MODEL_REVISION] =
      .ok 3 := rfl
  have endTotal : total bytesWritten [endElement] = .ok 1 :=
    total_singleton.trans (bytesWritten_container .endOfContainer)
  rw [TlvSchema.encodeInternal_iff, encodeTlvInternal_toValue]
  constructor
  · rintro ⟨elements, encodes, written⟩
    rcases bind_eq_ok_iff.mp encodes with ⟨responses, encodesResponses, encodes⟩
    cases encodes
    rcases total_cons_iff.mp written with ⟨start, _, isStart, body, rfl⟩
    rcases total_append_iff.mp body with ⟨_, ending, fields, isEnd, rfl⟩
    rcases total_cons_iff.mp fields with ⟨flag, _, isFlag, others, rfl⟩
    rcases total_append_iff.mp others with ⟨responsesSize, _, isResponses, flags, rfl⟩
    rcases total_append_iff.mp flags with ⟨more, revision, isMore, isRevision, rfl⟩
    rw [startTotal, Except.ok.injEq] at isStart
    rw [endTotal, Except.ok.injEq] at isEnd
    rw [flagTotal, Except.ok.injEq] at isFlag
    rw [total_flag, Except.ok.injEq] at isMore
    rw [revisionTotal, Except.ok.injEq] at isRevision
    rcases streamsArray_iff.mp ⟨_, encodesResponses, isResponses⟩ with
      ⟨contents, isContents, isSum⟩
    refine ⟨contents, isContents, ?_⟩
    rw [ownSize]
    omega
  · rintro ⟨contents, isContents, rfl⟩
    rcases (@streamsArray_iff _ 1 _).mpr ⟨contents, isContents, rfl⟩ with
      ⟨responses, encodesResponses, responsesWritten⟩
    rw [encodesResponses]
    refine ⟨_, rfl, ?_⟩
    have fields := total_cons flagTotal (total_append responsesWritten
      (total_append (total_flag 2 message.moreChunkedMessages) revisionTotal))
    rw [total_cons startTotal (total_append fields endTotal), ownSize]
    congr 1
    omega

theorem validate_toValue_iff : TlvInvokeResponseForSend.validate message.toValue = .ok () ↔
    message.invokeResponses.length ≤ 65535 := by
  rcases @lookup_toValue message with ⟨suppressResponse, responses, more, revision⟩
  have flag (value : Option Bool) :
      ObjectSchema.Accepts (TlvOptionalField 2) (fun data => TlvSchema.boolean.validate data)
        (value.map .boolean) := by
    cases value <;> rfl
  have array : ObjectSchema.Accepts (TlvField 1 none) (fun data => (TlvArray .any).validate data)
      (some (.array (message.invokeResponses.map .stream))) ↔
      message.invokeResponses.length ≤ 65535 := by
    simp [ObjectSchema.Accepts, TlvField, TlvArray, TlvSchema.validate,
      ArraySchema.validate_eq_ok_iff]
  rw [TlvInvokeResponseForSend, TlvObject, TlvSchema.validate, TlvFields.validate_eq_ok_iff]
  simp only [TlvFields.entries, List.forall_mem_cons, ObjectSchema.validateField_eq_ok_iff,
    suppressResponse, responses, more, revision, Except.ok.injEq, exists_eq_left', flag]
  constructor
  · rintro ⟨_, few, _⟩
    exact array.mp few
  · intro few
    exact ⟨rfl, array.mpr few, trivial, rfl, (by simp)⟩

theorem encode_iff : (∃ bytes, message.encode = .ok bytes ∧ bytes.length = size) ↔
    message.invokeResponses.length ≤ 65535 ∧
    ∃ contents, total (total bytesTaken) message.invokeResponses = .ok contents ∧
      ownSize + flagSize message.moreChunkedMessages + contents = size := by
  rw [← encodeInternal_iff]
  simp only [encode, TlvSchema.encode, bind_eq_ok_iff]
  constructor
  · rintro ⟨bytes, ⟨_, valid, encodes⟩, isSize⟩
    exact ⟨validate_toValue_iff.mp valid, bytes, encodes, isSize⟩
  · rintro ⟨few, bytes, encodes, isSize⟩
    exact ⟨bytes, ⟨(), validate_toValue_iff.mpr few, encodes⟩, isSize⟩

end InvokeResponseMessage

end MatterJs.Protocol
