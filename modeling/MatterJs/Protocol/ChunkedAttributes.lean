import Mathlib.Data.List.Sort
import MatterJs.Foundation.Grouping
import MatterJs.Protocol.AttributeDataDecoder
import MatterJs.Protocol.AttributeDataEncoder
import MatterJs.Types.TlvArray

/-! Lists that are reported in pieces, and put together again among other reports. -/

namespace MatterJs.Protocol

open General MatterJs.Types AttributeDataPath AttributeReportData

def WildcardPathFlags.ofProperties (properties : ObjectSchema.Properties) :
    WildcardPathFlags :=
  let isSet (name : String) : Bool := BitmapSchema.truthy (properties.lookup name)
  { skipRootNode := isSet "skipRootNode"
    skipGlobalAttributes := isSet "skipGlobalAttributes"
    skipAttributeList := isSet "skipAttributeList"
    skipCommandLists := isSet "skipCommandLists"
    skipCustomElements := isSet "skipCustomElements"
    skipFixedAttributes := isSet "skipFixedAttributes"
    skipChangesOmittedAttributes := isSet "skipChangesOmittedAttributes"
    skipDiagnosticsClusters := isSet "skipDiagnosticsClusters" }

namespace AttributeDataPath

def numberOf : Option TlvValue → Option Nat
  | some (.number value) => some value.num.toNat
  | _ => none

def listIndexOf : Option TlvValue → Option (Option Nat)
  | some (.number value) => some (some value.num.toNat)
  | some .null => some none
  | _ => none

/-- The path that the properties of a `TlvAttributePath` are -/
def ofProperties (properties : ObjectSchema.Properties) : AttributeDataPath where
  enableTagCompression := BitmapSchema.truthy (properties.lookup "enableTagCompression")
  nodeId := numberOf (properties.lookup "nodeId")
  endpointId := numberOf (properties.lookup "endpointId")
  clusterId := numberOf (properties.lookup "clusterId")
  attributeId := numberOf (properties.lookup "attributeId")
  listIndex := listIndexOf (properties.lookup "listIndex")
  wildcardPathFlags := (properties.lookup "wildcardPathFlags").map fun flags =>
    WildcardPathFlags.ofProperties flags.properties

/-- The parts of a path that make up the key of its group -/
def mapId (path : AttributeDataPath) :
    Option Nat × Option Nat × Option Nat × Option Nat :=
  (path.nodeId, path.endpointId, path.clusterId, path.attributeId)

end AttributeDataPath

/-- What a receiver is given of a report: its path and its version as they are, and the
value in elements. -/
def AttributeReportPayload.received (options : TlvEncodingOptions)
    (report : AttributeReportPayload) : Except MatterError (AttributeReportData TlvStream) := do
  match report.attributeData with
  | none =>
    throw (.matterFlowError "Cannot encode Attribute Payload data with just a attributeStatus")
  | some attributeData =>
    let data ← encodeAttributePayloadData report options
    return { path := ofProperties attributeData.path
             dataVersion := attributeData.dataVersion
             data }

/-- Normalizes (e.g. prepare data for array un-chunking and resolve Tag compression if used)
the attribute details. -/
def normalizeAttributeData (data : List (AttributeReportData TlvStream))
    (acceptWildcardPaths : Bool) :
    Except MatterError (List (List (AttributeReportData TlvStream))) := do
  let expandedData ← AttributeReportData.expandPathsInAttributeData data acceptWildcardPaths
  return (OrderedMap.group (fun value => value.path.mapId) expandedData).values

/-- A list may have places that are undefined. -/
inductive DecodedAttribute where
  | list (elements : List (Option TlvValue))
  | value (value : TlvValue)

def DecodedAttribute.toList : DecodedAttribute → Option (List (Option TlvValue))
  | .list elements => some elements
  | .value _ => none

def AttributeReportData.toChunk (value : AttributeReportData TlvStream) : ArrayChunkData where
  listIndex := value.path.listIndex
  element := value.data

def decodeListAttributeValueWithSchema (schema : TlvSchema)
    (values : List (AttributeReportData TlvStream))
    (currentValue : Option (List (Option TlvValue))) :
    Except MatterError (List (Option TlvValue)) :=
  match schema with
  | .array elementSchema minLength maxLength =>
    ArraySchema.decodeFromChunkedArray elementSchema minLength maxLength
      (values.map toChunk) currentValue
  | _ =>
    .error (.unexpectedDataError "Attribute is not a list but multiple values were returned.")

def sortByDataVersion (values : List (AttributeReportData TlvStream)) :
    List (AttributeReportData TlvStream) :=
  values.insertionSort fun value other => other.dataVersion.getD 0 ≤ value.dataVersion.getD 0

def decodeAttributeValueWithSchema (schema : TlvSchema)
    (values : List (AttributeReportData TlvStream)) (defaultValue : Option DecodedAttribute) :
    Except MatterError (Option DecodedAttribute) :=
  match values with
  -- No values, so use default value if available
  | [] => .ok defaultValue
  | first :: others =>
    match schema with
    | .array _ _ _ => do
      let elements ← decodeListAttributeValueWithSchema schema (first :: others)
        (defaultValue.bind DecodedAttribute.toList)
      return some (.list elements)
    | schema => do
      if others.isEmpty && first.path.listIndex.isNone then
        -- The value was returned as one Tlv value, so decode it normally
        let value ← schema.decodeTlv first.data
        return some (.value value)
      if (first :: others).any fun value => value.path.listIndex.isSome then
        throw (.unexpectedDataError "Attribute is not a list but we got actions with list entries")
      match (sortByDataVersion (first :: others)).head? with
      | none => return defaultValue
      | some bestDataVersionValue =>
        let value ← schema.decodeTlv bestDataVersionValue.data
        return some (.value value)

/-! ## Pieces as they are received -/

/-- Without tag compression, and with an endpoint, a cluster and an attribute -/
def AttributeDataPath.IsFull (path : AttributeDataPath) : Prop :=
  path.enableTagCompression = false ∧ path.endpointId.isSome ∧ path.clusterId.isSome ∧
    path.attributeId.isSome

namespace AttributeReportData

theorem expandPaths_of_full {data : List (AttributeReportData TlvStream)}
    (full : ∀ value ∈ data, value.path.IsFull) (acceptWildcardPaths : Bool)
    (lastPath : Option LastPath) : expandPaths acceptWildcardPaths lastPath data = .ok data := by
  induction data generalizing lastPath with
  | nil => rfl
  | cons value data induction =>
    rw [List.forall_mem_cons] at full
    rcases full with ⟨⟨uncompressed, hasEndpoint, hasCluster, hasAttribute⟩, full⟩
    rcases Option.isSome_iff_exists.mp hasEndpoint with ⟨endpointId, isEndpoint⟩
    rcases Option.isSome_iff_exists.mp hasCluster with ⟨clusterId, isCluster⟩
    rcases Option.isSome_iff_exists.mp hasAttribute with ⟨attributeId, isAttribute⟩
    simp only [expandPaths, uncompressed, isEndpoint, isCluster, isAttribute, induction full]
    rfl

end AttributeReportData

def receivedPieces (path : ObjectSchema.Properties) (dataVersion : Option Nat)
    (streams : List TlvStream) : List (AttributeReportData TlvStream) :=
  { path := ofProperties (path.filter fun entry => entry.1 ≠ "listIndex")
    dataVersion
    data := ArraySchema.emptyStream } ::
    streams.map fun data =>
      { path := ofProperties (OrderedMap.setEntries "listIndex" .null path)
        dataVersion
        data }

namespace AttributeDataPath

theorem ofProperties_filter (path : ObjectSchema.Properties) :
    ofProperties (path.filter fun entry => entry.1 ≠ "listIndex") =
      { ofProperties path with listIndex := none } := by
  have kept {name : String} (different : name ≠ "listIndex") :=
    OrderedMap.lookup_filter_of_ne different path
  simp only [ofProperties, OrderedMap.lookup_filter_self, listIndexOf,
    kept (by decide : "enableTagCompression" ≠ "listIndex"),
    kept (by decide : "nodeId" ≠ "listIndex"), kept (by decide : "endpointId" ≠ "listIndex"),
    kept (by decide : "clusterId" ≠ "listIndex"), kept (by decide : "attributeId" ≠ "listIndex"),
    kept (by decide : "wildcardPathFlags" ≠ "listIndex")]

theorem ofProperties_setEntries (path : ObjectSchema.Properties) :
    ofProperties (OrderedMap.setEntries "listIndex" .null path) =
      { ofProperties path with listIndex := some none } := by
  have kept {name : String} (different : name ≠ "listIndex") :=
    OrderedMap.lookup_setEntries_of_ne TlvValue.null path different
  simp [ofProperties, OrderedMap.lookup_setEntries_self, listIndexOf,
    kept (by decide : "enableTagCompression" ≠ "listIndex"),
    kept (by decide : "nodeId" ≠ "listIndex"), kept (by decide : "endpointId" ≠ "listIndex"),
    kept (by decide : "clusterId" ≠ "listIndex"), kept (by decide : "attributeId" ≠ "listIndex"),
    kept (by decide : "wildcardPathFlags" ≠ "listIndex")]

end AttributeDataPath

theorem map_toChunk_receivedPieces (path : ObjectSchema.Properties) (dataVersion : Option Nat)
    (streams : List TlvStream) :
    (receivedPieces path dataVersion streams).map toChunk =
      ArraySchema.chunksOf streams := by
  rw [receivedPieces, ofProperties_filter, ofProperties_setEntries, List.map_cons, List.map_map]
  rfl

section Lists

variable {elementSchema : TlvSchema} {minLength maxLength : Nat}
  {path : ObjectSchema.Properties} {dataVersion : Option Nat} {elements : List TlvValue}
  {options : TlvEncodingOptions} {report : AttributeReportPayload}

theorem mapM_received_eq_ok {pieces : List AttributeReportPayload}
    {received : List (AttributeReportData TlvStream)}
    (isList : report.attributeData = some
      { schema := .array elementSchema minLength maxLength, path, payload := .array elements,
        dataVersion })
    (chunked : chunkAttributePayload report = .ok pieces)
    (run : pieces.mapM (AttributeReportPayload.received options) = .ok received) :
    ∃ streams, List.Forall₂ (fun element stream =>
      elementSchema.encodeTlv element options = .ok stream) elements streams ∧
      received = receivedPieces path dataVersion streams := by
  rw [chunkAttributePayload, isList] at chunked
  cases chunked
  rw [mapM_eq_ok_iff] at run
  cases run with
  | @cons _ first _ others firstReceived othersReceived =>
    cases firstReceived
    rw [List.forall₂_map_left_iff] at othersReceived
    have streams : ∃ streams, List.Forall₂ (fun element stream =>
        elementSchema.encodeTlv element options = .ok stream) elements streams ∧
        others = streams.map fun data =>
          { path := ofProperties
              (OrderedMap.setEntries "listIndex" .null path)
            dataVersion
            data } := by
      clear isList
      induction othersReceived with
      | nil => exact ⟨[], .nil, rfl⟩
      | cons head _ induction =>
        rcases bind_eq_ok_iff.mp head with ⟨stream, encodes, same⟩
        cases same
        rcases induction with ⟨streams, written, rfl⟩
        exact ⟨stream :: streams, .cons encodes written, rfl⟩
    rcases streams with ⟨streams, written, rfl⟩
    exact ⟨streams, written, rfl⟩

/-- Completed, the reports of one attribute are the pieces, in their order. All other reports
are reports of other attributes. -/
def Carries (acceptWildcardPaths : Bool)
    (key : Option Nat × Option Nat × Option Nat × Option Nat)
    (data received : List (AttributeReportData TlvStream)) : Prop :=
  ∃ expanded,
    AttributeReportData.expandPathsInAttributeData data acceptWildcardPaths = .ok expanded ∧
      (expanded.filter fun value => value.path.mapId = key).map AttributeReportData.toChunk =
        received.map AttributeReportData.toChunk

theorem carries_of_interleaved {acceptWildcardPaths : Bool}
    {received others data : List (AttributeReportData TlvStream)}
    {key : Option Nat × Option Nat × Option Nat × Option Nat}
    (interleaved : Interleaved received others data)
    (full : ∀ value ∈ received, value.path.IsFull ∧ value.path.mapId = key)
    (different : ∀ value ∈ others, value.path.IsFull ∧ value.path.mapId ≠ key) :
    Carries acceptWildcardPaths key data received := by
  have allFull : ∀ value ∈ data, value.path.IsFull :=
    interleaved.forall_mem (fun value member => (full value member).1)
      fun value member => (different value member).1
  refine ⟨data, expandPaths_of_full allFull acceptWildcardPaths none, ?_⟩
  rw [interleaved.filter_eq]
  · exact fun value member => decide_eq_true (full value member).2
  · exact fun value member => decide_eq_false (different value member).2

theorem full_receivedPieces {streams : List TlvStream} (full : (ofProperties path).IsFull) :
    ∀ value ∈ receivedPieces path dataVersion streams, value.path.IsFull ∧
      value.path.mapId = (ofProperties path).mapId := by
  rw [receivedPieces, ofProperties_filter,
    ofProperties_setEntries, List.forall_mem_cons, List.forall_mem_map]
  exact ⟨⟨full, rfl⟩, fun _ _ => ⟨full, rfl⟩⟩

theorem normalizeAttributeData_of_carries {acceptWildcardPaths : Bool}
    {data received : List (AttributeReportData TlvStream)}
    {key : Option Nat × Option Nat × Option Nat × Option Nat}
    (carries : Carries acceptWildcardPaths key data received) (notEmpty : received ≠ []) :
    ∃ groups group, normalizeAttributeData data acceptWildcardPaths = .ok groups ∧
      group ∈ groups ∧ group.map toChunk = received.map toChunk ∧
      (∀ value ∈ group, value.path.mapId = key) ∧
      ∀ other ∈ groups, ∀ value ∈ other, value.path.mapId = key → other = group := by
  rcases carries with ⟨expanded, completed, sameChunks⟩
  have groupNotEmpty : (expanded.filter fun value => value.path.mapId = key) ≠ [] := by
    intro empty
    rw [empty] at sameChunks
    exact notEmpty (List.map_eq_nil_iff.mp sameChunks.symm)
  refine ⟨_, _, ?_, (OrderedMap.mem_values_group_iff (fun value => value.path.mapId) expanded
    _).mpr ⟨key, rfl, groupNotEmpty⟩, sameChunks, ?_, ?_⟩
  · rw [normalizeAttributeData, completed]
    rfl
  · intro value member
    exact of_decide_eq_true (List.mem_filter.mp member).2
  · intro other isGroup value member isKey
    rcases (OrderedMap.mem_values_group_iff _ expanded other).mp isGroup with
      ⟨otherKey, rfl, _⟩
    have sameKey : value.path.mapId = otherKey :=
      of_decide_eq_true (List.mem_filter.mp member).2
    rw [← isKey, sameKey]

theorem decodeAttributeValueWithSchema_eq_ok_iff
    {group : List (AttributeReportData TlvStream)} {streams : List TlvStream}
    (sameChunks : group.map toChunk = ArraySchema.chunksOf streams)
    {defaultValue : Option DecodedAttribute} {result : List (Option TlvValue)} :
    decodeAttributeValueWithSchema (.array elementSchema minLength maxLength) group
        defaultValue = .ok (some (.list result)) ↔
      ∃ decoded, List.Forall₂ (fun stream value =>
        elementSchema.decodeTlv stream = .ok value) streams decoded ∧
        result = decoded.map some := by
  cases group with
  | nil => cases sameChunks
  | cons first others =>
    rw [← @ArraySchema.decodeFromChunkedArray_eq_ok_iff elementSchema minLength maxLength
      streams (defaultValue.bind DecodedAttribute.toList), ← sameChunks,
      decodeAttributeValueWithSchema, bind_eq_ok_iff]
    constructor
    · rintro ⟨elements, run, same⟩
      cases same
      exact run
    · exact fun run => ⟨result, run, rfl⟩

theorem decode_pieces_iff {pieces : List AttributeReportPayload}
    {received group : List (AttributeReportData TlvStream)}
    (isList : report.attributeData = some
      { schema := .array elementSchema minLength maxLength, path, payload := .array elements,
        dataVersion })
    (chunked : chunkAttributePayload report = .ok pieces)
    (run : pieces.mapM (AttributeReportPayload.received options) = .ok received)
    (sameChunks : group.map toChunk =
      received.map toChunk) (defaultValue : Option DecodedAttribute) :
    (∃ decoded, decodeAttributeValueWithSchema (.array elementSchema minLength maxLength) group
        defaultValue = .ok (some (.list (decoded.map some))) ∧
      List.Forall₂ TlvValue.Same elements decoded) ↔
      ∀ element ∈ elements, elementSchema.ComesBack options element := by
  rcases mapM_received_eq_ok isList chunked run with ⟨streams, written, rfl⟩
  rw [map_toChunk_receivedPieces] at sameChunks
  rw [← ArraySchema.comesBack_iff written]
  constructor
  · rintro ⟨decoded, decodes, same⟩
    rcases (decodeAttributeValueWithSchema_eq_ok_iff sameChunks).mp decodes with
      ⟨values, reads, sameDecoded⟩
    rw [List.map_inj_right fun _ _ equal => Option.some.inj equal] at sameDecoded
    subst sameDecoded
    exact ⟨decoded, reads, same⟩
  · rintro ⟨decoded, reads, same⟩
    exact ⟨decoded, (decodeAttributeValueWithSchema_eq_ok_iff sameChunks).mpr
      ⟨decoded, reads, rfl⟩, same⟩

end Lists

/-- A list comes back from its chunks exactly when each of its elements comes back by itself
from what its schema writes. So does it from the pieces of its report, in their order among
any reports of other attributes. The elements of structured schemas come back. -/
theorem chunkedList_comesBack_iff (elementSchema : TlvSchema) (minLength maxLength : Nat)
    (elements : List TlvValue) (options : TlvEncodingOptions) :
    (∀ currentValue,
      ArraySchema.Reassembles elementSchema minLength maxLength options currentValue elements ↔
        ∀ element ∈ elements, elementSchema.ComesBack options element) ∧
    (∀ report path dataVersion pieces received acceptWildcardPaths key data,
      report.attributeData = some
        { schema := .array elementSchema minLength maxLength, path,
          payload := .array elements, dataVersion } →
      chunkAttributePayload report = .ok pieces →
      pieces.mapM (AttributeReportPayload.received options) = .ok received →
      (Carries acceptWildcardPaths key data received →
        ∃ groups group, normalizeAttributeData data acceptWildcardPaths = .ok groups ∧
          group ∈ groups ∧ (∀ value ∈ group, value.path.mapId = key) ∧
          (∀ other ∈ groups, ∀ value ∈ other, value.path.mapId = key → other = group) ∧
          ∀ defaultValue, (∃ decoded,
            decodeAttributeValueWithSchema (.array elementSchema minLength maxLength) group
              defaultValue = .ok (some (.list (decoded.map some))) ∧
            List.Forall₂ TlvValue.Same elements decoded) ↔
              ∀ element ∈ elements, elementSchema.ComesBack options element) ∧
      ∀ others, (AttributeDataPath.ofProperties path).IsFull →
        (∀ value ∈ others, value.path.IsFull ∧
          value.path.mapId ≠ (AttributeDataPath.ofProperties path).mapId) →
        Interleaved received others data →
        Carries acceptWildcardPaths (AttributeDataPath.ofProperties path).mapId data received) ∧
    (elementSchema.Structured →
      (∀ element ∈ elements, elementSchema.validate element = .ok () ∧
        elementSchema.Exact element) →
      ∀ element ∈ elements, elementSchema.ComesBack .none element) := by
  refine ⟨fun _ => ArraySchema.reassembles_iff, ?_, ?_⟩
  · intro report path dataVersion pieces received acceptWildcardPaths key data isList chunked run
    rcases mapM_received_eq_ok isList chunked run with ⟨streams, _, isReceived⟩
    constructor
    · intro carries
      have notEmpty : received ≠ [] := by
        rw [isReceived]
        exact List.cons_ne_nil _ _
      rcases normalizeAttributeData_of_carries carries notEmpty with
        ⟨groups, group, normalized, isGroup, sameChunks, keyed, only⟩
      exact ⟨groups, group, normalized, isGroup, keyed, only,
        decode_pieces_iff isList chunked run sameChunks⟩
    · intro others full different interleaved
      apply carries_of_interleaved interleaved _ different
      rw [isReceived]
      exact full_receivedPieces full
  · intro structured accepted element member
    exact structured.comesBack (accepted element member).1 (accepted element member).2

def descriptorPath (attributeId : Nat) : ObjectSchema.Properties :=
  [("endpointId", .number 1), ("clusterId", .number 29), ("attributeId", .number attributeId)]

/-- A list of two numbers -/
def partsReport : AttributeReportPayload where
  hasFabricSensitiveData := false
  attributeData := some
    { schema := .array (.numeric TlvUInt16) 0 65535
      path := descriptorPath 3
      payload := .array [.number 1, .number 2]
      dataVersion := some 7 }
  attributeStatus := none

def numberStream (value : Rat) : TlvStream :=
  [{ tag := none, typeLength := .unsignedInt .oneByte, value := some (.number value) }]

/-- The two numbers are appended, with another attribute reported between them. -/
def mixedReports : List (AttributeReportData TlvStream) :=
  match receivedPieces (descriptorPath 3) (some 7) [numberStream 1, numberStream 2] with
  | whole :: pieces =>
    whole :: { path := ofProperties (descriptorPath 4), dataVersion := none,
               data := numberStream 9 } :: pieces
  | [] => []

theorem mixedReports_comeBack :
    ∃ groups group, normalizeAttributeData mixedReports false = .ok groups ∧ group ∈ groups ∧
      ∃ decoded, decodeAttributeValueWithSchema (.array (.numeric TlvUInt16) 0 65535) group
        none = .ok (some (.list (decoded.map some))) ∧
        List.Forall₂ TlvValue.Same [.number 1, .number 2] decoded := by
  have comesBack := chunkedList_comesBack_iff (.numeric TlvUInt16) 0 65535
    [.number 1, .number 2] .none
  have whole := comesBack.2.1 partsReport (descriptorPath 3) (some 7) _
    (receivedPieces (descriptorPath 3) (some 7) [numberStream 1, numberStream 2]) false
    (AttributeDataPath.ofProperties (descriptorPath 3)).mapId mixedReports rfl rfl rfl
  have carries := whole.2
    [{ path := AttributeDataPath.ofProperties (descriptorPath 4), dataVersion := none,
       data := numberStream 9 }] ⟨rfl, rfl, rfl, rfl⟩
    (List.forall_mem_singleton.mpr ⟨⟨rfl, rfl, rfl, rfl⟩, by decide⟩)
    (.left (.right (.left (.left .nil))))
  rcases whole.1 carries with ⟨groups, group, normalized, isGroup, _, _, decodes⟩
  refine ⟨groups, group, normalized, isGroup, (decodes none).mpr ?_⟩
  apply comesBack.2.2 .uint16
  have isExact (number : Rat) (integer : number.den = 1) :
      (TlvSchema.numeric TlvUInt16).Exact (.number number) := by
    rintro other same
    cases same
    exact integer
  exact List.forall_mem_cons.mpr ⟨⟨rfl, isExact 1 rfl⟩,
    List.forall_mem_singleton.mpr ⟨rfl, isExact 2 rfl⟩⟩

/-- An empty byte string is accepted where null is allowed, and comes back as null. -/
theorem emptyBytes_not_reassembled :
    ¬∀ (elementSchema : TlvSchema) (elements : List TlvValue),
      (TlvSchema.array elementSchema 0 65535).validate (.array elements) = .ok () →
      ArraySchema.Reassembles elementSchema 0 65535 .none none elements := by
  intro all
  rcases all (.nullable (.string TlvByteString)) [.bytes []] rfl with
    ⟨chunks, decoded, encodes, decodes, same⟩
  cases encodes
  have isNull : decoded.map some = [some TlvValue.null] := (Except.ok.inj decodes).symm
  cases same with
  | cons sameValue _ =>
    cases Option.some.inj (List.cons.inj isNull).1
    cases sameValue

end MatterJs.Protocol
