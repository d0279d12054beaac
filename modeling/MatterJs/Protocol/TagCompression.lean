import Mathlib.Data.List.Sort
import MatterJs.Protocol.AttributeDataDecoder

/-! Tag compression: reports leave out what the last full path says already. -/

namespace MatterJs.Protocol

open General

universe u v

/-- The same parts of a path are kept here as where paths are expanded. -/
abbrev FullAttributePath : Type := LastPath

/-- `TlvAttributeStatus` -/
structure AttributeStatusReport (Status : Type v) where
  path : AttributeDataPath
  status : Status

/-- A report of an attribute, whose value is `Data` -/
structure AttributeReport (Data : Type u) (Status : Type v) where
  hasFabricSensitiveData : Bool
  attributeData : Option (AttributeReportData Data)
  attributeStatus : Option (AttributeStatusReport Status)

namespace AttributeReport

variable {Data : Type u} {Status : Type v}

def path (report : AttributeReport Data Status) : Option AttributeDataPath :=
  (report.attributeData.map (·.path)).or (report.attributeStatus.map (·.path))

def comparePart (part1 part2 : Option Nat) : Option Int :=
  match part1, part2 with
  | some part1, some part2 =>
    if part1 ≠ part2 then some (if part1 < part2 then -1 else 1) else none
  | _, _ => none

def sortAttributeDataByPath (data1 data2 : AttributeReport Data Status) : Int :=
  let part (select : AttributeDataPath → Option Nat) : Option Int :=
    comparePart (data1.path.bind select) (data2.path.bind select)
  (part (·.nodeId)).getD <| (part (·.endpointId)).getD <| (part (·.clusterId)).getD <|
    (part (·.attributeId)).getD 0

/-- `data.sort`, which is stable -/
def sort (data : List (AttributeReport Data Status)) : List (AttributeReport Data Status) :=
  data.insertionSort fun data1 data2 => sortAttributeDataByPath data1 data2 ≤ 0

end AttributeReport

/-! ## Compressing -/

def compressPath (path : AttributeDataPath) (dataVersion : Option Nat)
    (lastFullPath : Option FullAttributePath) : AttributeDataPath × Option FullAttributePath :=
  match path.endpointId, path.clusterId, path.attributeId with
  | some endpointId, some clusterId, some attributeId =>
    let newFullPath : AttributeDataPath × Option FullAttributePath :=
      ({ path with enableTagCompression := false },
        some { nodeId := path.nodeId, endpointId, clusterId, attributeId, dataVersion })
    match lastFullPath with
    | none => newFullPath
    | some lastFullPath =>
      if dataVersion ≠ none ∧ dataVersion ≠ lastFullPath.dataVersion then newFullPath
      else
        let sameEndpoint := endpointId = lastFullPath.endpointId
        let sameNode := path.nodeId = lastFullPath.nodeId ∧ path.nodeId ≠ none
        -- Nothing was compressed, so we use this as new full path
        if ¬sameEndpoint ∧ ¬sameNode then newFullPath
        else
          ({ path with
            enableTagCompression := true
            endpointId := if sameEndpoint then none else path.endpointId
            nodeId := if sameNode then none else path.nodeId },
            some lastFullPath)
  -- Should never happen but typing likes it better that way
  | _, _, _ => (path, lastFullPath)

section

variable {Data : Type u} {Status : Type v}

variable (lastFullPath : Option FullAttributePath)

def compressData (attributeData : AttributeReportData Data) :
    AttributeReportData Data × Option FullAttributePath :=
  let compressed := compressPath attributeData.path attributeData.dataVersion lastFullPath
  ({ attributeData with
    path := compressed.1
    dataVersion :=
      if compressed.1.enableTagCompression then none else attributeData.dataVersion },
    compressed.2)

def compressStatus (attributeStatus : AttributeStatusReport Status) :
    AttributeStatusReport Status × Option FullAttributePath :=
  let compressed := compressPath attributeStatus.path none lastFullPath
  ({ attributeStatus with path := compressed.1 }, compressed.2)

def compressReport (report : AttributeReport Data Status) :
    AttributeReport Data Status × Option FullAttributePath :=
  let data := report.attributeData.map (compressData lastFullPath)
  let afterData := (data.map Prod.snd).getD lastFullPath
  let status := report.attributeStatus.map (compressStatus afterData)
  ({ report with
    attributeData := data.map Prod.fst
    attributeStatus := status.map Prod.fst },
    (status.map Prod.snd).getD afterData)

def compressReports (lastFullPath : Option FullAttributePath) :
    List (AttributeReport Data Status) → List (AttributeReport Data Status)
  | [] => []
  | report :: reports =>
    let compressed := compressReport lastFullPath report
    compressed.1 :: compressReports compressed.2 reports

def compressAttributeDataReportTags (data : List (AttributeReport Data Status)) :
    List (AttributeReport Data Status) :=
  compressReports none (AttributeReport.sort data)

end

/-! ## What is left of a path -/

namespace AttributeDataPath

structure IsComplete (path : AttributeDataPath) : Prop where
  endpointId : path.endpointId.isSome
  clusterId : path.clusterId.isSome
  attributeId : path.attributeId.isSome

def IsFullPath (path : AttributeDataPath) (dataVersion : Option Nat)
    (full : FullAttributePath) : Prop :=
  path.nodeId = full.nodeId ∧ path.endpointId = some full.endpointId ∧
    path.clusterId = some full.clusterId ∧ path.attributeId = some full.attributeId ∧
    dataVersion = full.dataVersion

end AttributeDataPath

theorem compressPath_cases {path : AttributeDataPath} (complete : path.IsComplete)
    (dataVersion : Option Nat) (lastFullPath : Option FullAttributePath) :
    (∃ full, path.IsFullPath dataVersion full ∧
      compressPath path dataVersion lastFullPath =
        ({ path with enableTagCompression := false }, some full)) ∨
    (∃ full, lastFullPath = some full ∧
      (dataVersion = none ∨ dataVersion = full.dataVersion) ∧
      compressPath path dataVersion lastFullPath =
        ({ path with
          enableTagCompression := true
          endpointId := if path.endpointId = some full.endpointId then none else path.endpointId
          nodeId := if path.nodeId = full.nodeId ∧ path.nodeId ≠ none then none
            else path.nodeId }, some full)) := by
  rcases path with ⟨tag, nodeId, endpointId, clusterId, attributeId, listIndex, flags⟩
  rcases complete with ⟨hasEndpoint, hasCluster, hasAttribute⟩
  rcases Option.isSome_iff_exists.mp hasEndpoint with ⟨endpointNumber, rfl⟩
  rcases Option.isSome_iff_exists.mp hasCluster with ⟨_, rfl⟩
  rcases Option.isSome_iff_exists.mp hasAttribute with ⟨_, rfl⟩
  cases lastFullPath with
  | none => exact .inl ⟨_, ⟨rfl, rfl, rfl, rfl, rfl⟩, rfl⟩
  | some full =>
    simp only [compressPath]
    by_cases newVersion : dataVersion ≠ none ∧ dataVersion ≠ full.dataVersion
    · rw [if_pos newVersion]
      exact .inl ⟨_, ⟨rfl, rfl, rfl, rfl, rfl⟩, rfl⟩
    · rw [if_neg newVersion]
      by_cases nothing : ¬endpointNumber = full.endpointId ∧ ¬(nodeId = full.nodeId ∧ nodeId ≠ none)
      · rw [if_pos nothing]
        exact .inl ⟨_, ⟨rfl, rfl, rfl, rfl, rfl⟩, rfl⟩
      · rw [if_neg nothing]
        refine .inr ⟨full, rfl, ?_, ?_⟩
        · by_cases given : dataVersion = none
          · exact .inl given
          · exact .inr (by_contra fun different => newVersion ⟨given, different⟩)
        · simp

section

variable {Data : Type u} {Status : Type v}

namespace AttributeReportData

def withTagCompression (enableTagCompression : Bool) (value : AttributeReportData Data) :
    AttributeReportData Data :=
  { value with path := { value.path with enableTagCompression } }

theorem orElse_of_isSome {part : Option Nat} (isSome : part.isSome) (other : Option Nat) :
    (part <|> other) = part := by
  rcases Option.isSome_iff_exists.mp isSome with ⟨_, rfl⟩
  rfl

theorem compressData_cases {value : AttributeReportData Data} (complete : value.path.IsComplete)
    (hasVersion : value.dataVersion.isSome) (lastFullPath : Option FullAttributePath) :
    (∃ full, value.path.IsFullPath value.dataVersion full ∧
      compressData lastFullPath value = (value.withTagCompression false, some full)) ∨
    (∃ full, lastFullPath = some full ∧ full.dataVersion.isSome ∧
      (compressData lastFullPath value).2 = some full ∧
      (compressData lastFullPath value).1.path.enableTagCompression = true ∧
      ((full.nodeId.isSome ↔ value.path.nodeId.isSome) →
        expandPath full (compressData lastFullPath value).1 = value.withTagCompression true)) := by
  rcases compressPath_cases complete value.dataVersion lastFullPath with
    ⟨full, isFull, compresses⟩ | ⟨full, isLast, sameVersion, compresses⟩
  · refine .inl ⟨full, isFull, ?_⟩
    rw [compressData, compresses]
    rfl
  · have version : value.dataVersion = full.dataVersion := by
      rcases sameVersion with none | same
      · rw [none] at hasVersion
        cases hasVersion
      · exact same
    rw [compressData, compresses]
    refine .inr ⟨full, isLast, version ▸ hasVersion, rfl, rfl, ?_⟩
    intro sameNodes
    have nodeId : ((if value.path.nodeId = full.nodeId ∧ value.path.nodeId ≠ none then none
        else value.path.nodeId) <|> full.nodeId) = value.path.nodeId := by
      by_cases same : value.path.nodeId = full.nodeId ∧ value.path.nodeId ≠ none
      · rw [if_pos same, same.1]
        rfl
      · rw [if_neg same]
        cases given : value.path.nodeId with
        | some nodeId => rfl
        | none =>
          rw [given] at sameNodes
          simpa using sameNodes
    have endpointId : ((if value.path.endpointId = some full.endpointId then none
        else value.path.endpointId) <|> some full.endpointId) = value.path.endpointId := by
      by_cases same : value.path.endpointId = some full.endpointId
      · rw [if_pos same, same]
        rfl
      · rw [if_neg same]
        exact orElse_of_isSome complete.endpointId _
    rw [expandPath]
    rw [nodeId, endpointId, orElse_of_isSome complete.clusterId,
      orElse_of_isSome complete.attributeId, ← version]
    rfl

end AttributeReportData

theorem compressStatus_cases {attributeStatus : AttributeStatusReport Status}
    (complete : attributeStatus.path.IsComplete) (lastFullPath : Option FullAttributePath) :
    (compressStatus lastFullPath attributeStatus).2 = lastFullPath ∨
      ∃ full, (compressStatus lastFullPath attributeStatus).2 = some full ∧
        full.nodeId = attributeStatus.path.nodeId ∧ full.dataVersion = none := by
  rw [compressStatus]
  rcases compressPath_cases complete none lastFullPath with
    ⟨full, isFull, compresses⟩ | ⟨full, isLast, _, compresses⟩
  · rw [compresses]
    exact .inr ⟨full, rfl, isFull.1.symm, isFull.2.2.2.2.symm⟩
  · rw [compresses]
    exact .inl isLast.symm

/-! ## Expanding what was compressed -/

namespace AttributeReport

open AttributeReportData

def attributeDataOf (reports : List (AttributeReport Data Status)) :
    List (AttributeReportData Data) :=
  reports.filterMap (·.attributeData)

def paths (report : AttributeReport Data Status) : List AttributeDataPath :=
  report.attributeData.toList.map (·.path) ++ report.attributeStatus.toList.map (·.path)

/-- Paths are complete and have a node id when `withNode` says so, and data have a version. -/
structure IsComplete (withNode : Bool) (report : AttributeReport Data Status) : Prop where
  paths : ∀ path ∈ report.paths, path.IsComplete ∧ path.nodeId.isSome = withNode
  versions : ∀ value ∈ report.attributeData, value.dataVersion.isSome

structure Known (withNode : Bool) (lastFullPath lastPath : Option FullAttributePath) : Prop where
  lastPath : ∀ full ∈ lastFullPath, full.dataVersion.isSome → lastPath = some full
  nodeId : ∀ full ∈ lastFullPath, full.nodeId.isSome = withNode

variable {withNode : Bool} {lastFullPath lastPath : Option FullAttributePath}

theorem expandPaths_of_isFullPath (acceptWildcardPaths : Bool) {value : AttributeReportData Data}
    {full : FullAttributePath} (isFull : value.path.IsFullPath value.dataVersion full)
    (notCompressed : value.path.enableTagCompression = false)
    (data : List (AttributeReportData Data)) :
    expandPaths acceptWildcardPaths lastPath (value :: data) =
      (expandPaths acceptWildcardPaths (some full) data).map (value :: ·) := by
  rcases isFull with ⟨nodeId, endpointId, clusterId, attributeId, dataVersion⟩
  simp [expandPaths, notCompressed, endpointId, clusterId, attributeId, nodeId, dataVersion]

theorem Known.data (known : Known withNode lastFullPath lastPath)
    {value : AttributeReportData Data} (complete : value.path.IsComplete)
    (node : value.path.nodeId.isSome = withNode) (hasVersion : value.dataVersion.isSome) :
    ∃ nextPath expanded, Known withNode (compressData lastFullPath value).2 nextPath ∧
      expanded.withTagCompression false = value.withTagCompression false ∧
      expanded.path.enableTagCompression =
        (compressData lastFullPath value).1.path.enableTagCompression ∧
      ∀ acceptWildcardPaths data,
        expandPaths acceptWildcardPaths lastPath ((compressData lastFullPath value).1 :: data) =
          (expandPaths acceptWildcardPaths nextPath data).map (expanded :: ·) := by
  rcases compressData_cases complete hasVersion lastFullPath with
    ⟨full, isFull, compresses⟩ | ⟨full, isLast, fullVersion, keepsLast, compressed, expands⟩
  · rw [compresses]
    refine ⟨some full, value.withTagCompression false, ⟨?_, ?_⟩, rfl, rfl, ?_⟩
    · rintro _ ⟨⟩ _
      rfl
    · rintro _ ⟨⟩
      rw [← isFull.1]
      exact node
    · intro acceptWildcardPaths data
      have keptFull : (value.withTagCompression false).path.IsFullPath
          (value.withTagCompression false).dataVersion full := isFull
      exact expandPaths_of_isFullPath acceptWildcardPaths keptFull rfl data
  · have isKnown := known.lastPath full isLast fullVersion
    have expanded := expands (by rw [known.nodeId full isLast, node])
    refine ⟨some full, value.withTagCompression true, ⟨?_, ?_⟩, rfl, compressed.symm, ?_⟩
    · rw [keepsLast]
      rintro _ ⟨⟩ _
      rfl
    · rw [keepsLast, ← isLast]
      exact known.nodeId
    · intro acceptWildcardPaths data
      simp [expandPaths, compressed, isKnown, expanded]

theorem Known.status (known : Known withNode lastFullPath lastPath)
    {attributeStatus : AttributeStatusReport Status} (complete : attributeStatus.path.IsComplete)
    (node : attributeStatus.path.nodeId.isSome = withNode) :
    Known withNode (compressStatus lastFullPath attributeStatus).2 lastPath := by
  rcases compressStatus_cases complete lastFullPath with
    same | ⟨full, isFull, sameNode, noVersion⟩
  · rwa [same]
  · rw [isFull]
    constructor
    · rintro _ ⟨⟩ hasVersion
      rw [noVersion] at hasVersion
      cases hasVersion
    · rintro _ ⟨⟩
      rw [sameNode]
      exact node

def pathAfterStatus (report : AttributeReport Data Status)
    (lastFullPath : Option FullAttributePath) : Option FullAttributePath :=
  ((report.attributeStatus.map (compressStatus lastFullPath)).map Prod.snd).getD lastFullPath

theorem Known.afterStatus (known : Known withNode lastFullPath lastPath)
    {report : AttributeReport Data Status} (complete : report.IsComplete withNode) :
    Known withNode (report.pathAfterStatus lastFullPath) lastPath := by
  unfold pathAfterStatus
  cases isStatus : report.attributeStatus with
  | none => exact known
  | some attributeStatus =>
    have isPath : attributeStatus.path ∈ report.paths := by
      rw [AttributeReport.paths, isStatus]
      simp
    have completeStatus := complete.paths attributeStatus.path isPath
    exact known.status completeStatus.1 completeStatus.2

theorem attributeDataOf_of_none {report : AttributeReport Data Status}
    (noData : report.attributeData = none) (reports : List (AttributeReport Data Status)) :
    attributeDataOf (report :: reports) = attributeDataOf reports := by
  rw [attributeDataOf, List.filterMap_cons, noData]
  rfl

theorem attributeDataOf_of_some {report : AttributeReport Data Status}
    {value : AttributeReportData Data} (isData : report.attributeData = some value)
    (reports : List (AttributeReport Data Status)) :
    attributeDataOf (report :: reports) = value :: attributeDataOf reports := by
  rw [attributeDataOf, List.filterMap_cons, isData]
  rfl

theorem expandPaths_compressReports (acceptWildcardPaths : Bool)
    {reports : List (AttributeReport Data Status)}
    (complete : ∀ report ∈ reports, report.IsComplete withNode)
    (known : Known withNode lastFullPath lastPath) :
    ∃ expanded, expandPaths acceptWildcardPaths lastPath
        (attributeDataOf (compressReports lastFullPath reports)) = .ok expanded ∧
      expanded.map (withTagCompression false) =
        (attributeDataOf reports).map (withTagCompression false) ∧
      expanded.map (·.path.enableTagCompression) =
        (attributeDataOf (compressReports lastFullPath reports)).map
          (·.path.enableTagCompression) := by
  induction reports generalizing lastFullPath lastPath with
  | nil => exact ⟨[], rfl, rfl, rfl⟩
  | cons report reports induction =>
    rw [List.forall_mem_cons] at complete
    rcases complete with ⟨completeReport, completeRest⟩
    cases isData : report.attributeData with
    | none =>
      have compresses : attributeDataOf (compressReports lastFullPath (report :: reports)) =
          attributeDataOf (compressReports (report.pathAfterStatus lastFullPath) reports) := by
        rw [compressReports, compressReport, isData]
        exact attributeDataOf_of_none rfl _
      rw [attributeDataOf_of_none isData, compresses]
      exact induction completeRest (known.afterStatus completeReport)
    | some value =>
      have isPath : value.path ∈ report.paths := by
        rw [AttributeReport.paths, isData]
        simp
      have completeData := completeReport.paths value.path isPath
      have hasVersion := completeReport.versions value isData
      rcases known.data completeData.1 completeData.2 hasVersion with
        ⟨nextPath, first, knownNext, sameFirst, sameTag, expandsFirst⟩
      rcases induction completeRest (knownNext.afterStatus completeReport) with
        ⟨expanded, expandsRest, sameRest, sameTags⟩
      have compresses : attributeDataOf (compressReports lastFullPath (report :: reports)) =
          (compressData lastFullPath value).1 :: attributeDataOf (compressReports
            (report.pathAfterStatus (compressData lastFullPath value).2) reports) := by
        rw [compressReports, compressReport, isData]
        exact attributeDataOf_of_some rfl _
      rw [attributeDataOf_of_some isData, compresses]
      refine ⟨first :: expanded, ?_, ?_, ?_⟩
      · rw [expandsFirst, expandsRest]
        rfl
      · rw [List.map_cons, List.map_cons, sameFirst, sameRest]
      · rw [List.map_cons, List.map_cons, sameTag, sameTags]

theorem sort_perm (reports : List (AttributeReport Data Status)) : (sort reports).Perm reports :=
  List.perm_insertionSort ..

/-- The sorted reports come back, each with the flag that compressing gave it. -/
theorem expandPaths_compressAttributeDataReportTags {withNode : Bool}
    {reports : List (AttributeReport Data Status)}
    (complete : ∀ report ∈ reports, report.IsComplete withNode) (acceptWildcardPaths : Bool) :
    (sort reports).Perm reports ∧
      ∃ expanded, AttributeReportData.expandPathsInAttributeData
          (attributeDataOf (compressAttributeDataReportTags reports)) acceptWildcardPaths =
            .ok expanded ∧
        expanded.map (withTagCompression false) =
          (attributeDataOf (sort reports)).map (withTagCompression false) ∧
        expanded.map (·.path.enableTagCompression) =
          (attributeDataOf (compressAttributeDataReportTags reports)).map
            (·.path.enableTagCompression) := by
  have known : Known withNode none none := ⟨fun _ => nofun, fun _ => nofun⟩
  refine ⟨sort_perm reports, expandPaths_compressReports acceptWildcardPaths ?_ known⟩
  intro report member
  exact complete report ((sort_perm reports).mem_iff.mp member)

def twoReports : List (AttributeReport Nat Unit) :=
  let report (attributeId value : Nat) : AttributeReport Nat Unit :=
    { hasFabricSensitiveData := false
      attributeData := some
        { path := .ofConcrete ⟨1, 6, attributeId⟩
          dataVersion := some 5
          data := value }
      attributeStatus := none }
  [report 1 20, report 0 10]

theorem isComplete_twoReports : ∀ report ∈ twoReports, report.IsComplete false := by
  intro report member
  have isReport : ∃ attributeId value, report.attributeData = some
      { path := .ofConcrete ⟨1, 6, attributeId⟩, dataVersion := some 5, data := value } ∧
      report.attributeStatus = none := by
    rcases List.mem_cons.mp member with rfl | last
    · exact ⟨1, 20, rfl, rfl⟩
    · rw [List.mem_singleton.mp last]
      exact ⟨0, 10, rfl, rfl⟩
  rcases isReport with ⟨attributeId, value, isData, noStatus⟩
  constructor
  · rw [paths, isData, noStatus]
    simp only [Option.toList_some, Option.toList_none, List.map_cons, List.map_nil,
      List.append_nil, List.forall_mem_singleton]
    exact ⟨⟨rfl, rfl, rfl⟩, rfl⟩
  · rw [isData]
    rintro _ ⟨⟩
    rfl

theorem expandPaths_compressAttributeDataReportTags_two : ∃ expanded,
    AttributeReportData.expandPathsInAttributeData
        (attributeDataOf (compressAttributeDataReportTags twoReports)) false = .ok expanded ∧
      expanded.map (·.data) = [10, 20] := by
  rcases (expandPaths_compressAttributeDataReportTags isComplete_twoReports false).2 with
    ⟨expanded, expands, same, _⟩
  refine ⟨expanded, expands, ?_⟩
  have sameData := congrArg (List.map (·.data)) same
  rw [List.map_map, List.map_map] at sameData
  exact sameData.trans (by decide +kernel)

/-- The flag of the second report stays. -/
theorem twoReports_not_same :
    ¬∀ (withNode : Bool) (reports : List (AttributeReport Nat Unit)),
      (∀ report ∈ reports, report.IsComplete withNode) →
        AttributeReportData.expandPathsInAttributeData
          (attributeDataOf (compressAttributeDataReportTags reports)) false =
            .ok (attributeDataOf (sort reports)) := by
  intro all
  have same := all false twoReports isComplete_twoReports
  exact absurd same (by decide +kernel)

end AttributeReport

end

end MatterJs.Protocol
