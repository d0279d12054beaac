import MatterJs.Protocol.WriteRequest

/-! The attribute data that are received with a report, with their paths completed. -/

namespace MatterJs.Protocol

open General

universe u

/-- `TlvAttributeReportData` and `TlvAttributeData`; `Data` is what stands for the value. -/
structure AttributeReportData (Data : Type u) where
  path : AttributeDataPath
  dataVersion : Option Nat
  data : Data
  deriving DecidableEq

namespace AttributeReportData

variable {Data : Type u}

/-- What `expandPathsInAttributeData` fills in where tags are left out -/
def expandPath (lastPath : LastPath) (value : AttributeReportData Data) :
    AttributeReportData Data :=
  { value with
    path := { value.path with
      nodeId := value.path.nodeId <|> lastPath.nodeId
      endpointId := value.path.endpointId <|> lastPath.endpointId
      clusterId := value.path.clusterId <|> lastPath.clusterId
      attributeId := value.path.attributeId <|> lastPath.attributeId }
    dataVersion := value.dataVersion <|> lastPath.dataVersion }

/-- The loop of `expandPathsInAttributeData` -/
def expandPaths (acceptWildcardPaths : Bool) (lastPath : Option LastPath) :
    List (AttributeReportData Data) → Except MatterError (List (AttributeReportData Data))
  | [] => .ok []
  | value :: data =>
    if value.path.enableTagCompression then
      match lastPath with
      | none =>
        .error (.unexpectedDataError "Tag compression enabled, but no previous path")
      | some lastPath =>
        (expandPaths acceptWildcardPaths (some lastPath) data).map (expandPath lastPath value :: ·)
    else
      match value.path.endpointId, value.path.clusterId, value.path.attributeId with
      | some endpointId, some clusterId, some attributeId =>
        let fullPath : LastPath :=
          { nodeId := value.path.nodeId
            endpointId
            clusterId
            attributeId
            dataVersion := value.dataVersion }
        (expandPaths acceptWildcardPaths (some fullPath) data).map (value :: ·)
      | _, _, _ =>
        if acceptWildcardPaths then
          (expandPaths acceptWildcardPaths lastPath data).map (value :: ·)
        else
          .error (.unexpectedDataError "Tag compression disabled, but path is incomplete")

def expandPathsInAttributeData (data : List (AttributeReportData Data))
    (acceptWildcardPaths : Bool) : Except MatterError (List (AttributeReportData Data)) :=
  expandPaths acceptWildcardPaths none data

end AttributeReportData

end MatterJs.Protocol
