import MatterJs.Protocol.AccessControl

/-! The privileges granted are the ones the entries name. -/

namespace MatterJs.Protocol.AccessControl

open General MatterJs.Types NodeId

def implied : AccessLevel → List AccessLevel
  | .administer => [.administer, .manage, .operate, .proxyView, .view]
  | .manage => [.manage, .operate, .view]
  | .operate => [.operate, .view]
  | .proxyView => [.proxyView, .view]
  | .view => [.view]

/-- The same with `proxyView` implied by nothing else. -/
def impliedWithoutProxy : AccessLevel → List AccessLevel
  | .administer => [.administer, .manage, .operate, .view]
  | .manage => [.manage, .operate, .view]
  | .operate => [.operate, .view]
  | .proxyView => [.proxyView, .view]
  | .view => [.view]

/-- The subject of an entry is the session's peer, or a tag with the identifier of one of
the session's tags and a version not above that tag's. -/
def Names (subject : Nat) (session : CaseSession) : Prop :=
  subject = session.peerNodeId ∨
    ∃ tag ∈ session.caseAuthenticatedTags, ∃ aclTag,
      fromCaseAuthenticatedTag aclTag = .ok subject ∧
        CaseAuthenticatedTag.getIdentifyValue aclTag = CaseAuthenticatedTag.getIdentifyValue tag ∧
        CaseAuthenticatedTag.getVersion aclTag ≤ CaseAuthenticatedTag.getVersion tag

/-- Every part that the target has fits the location. -/
def AclTarget.Covers (target : AclTarget) (endpoint : AclEndpointContext) (clusterId : Nat) :
    Prop :=
  (target.cluster = none ∨ target.cluster = some clusterId) ∧
    (target.endpoint = none ∨ target.endpoint = some endpoint.id) ∧
    ∀ deviceType, target.deviceType = some deviceType → deviceType ∈ endpoint.deviceTypes

/-- The entry is one of the session's fabric for CASE sessions, and its subjects and
targets are empty or contain one that fits. -/
structure AclEntry.Applies (entry : AclEntry) (session : CaseSession)
    (endpoint : AclEndpointContext) (clusterId : Nat) : Prop where
  ownFabric : entry.fabricIndex = session.fabric.fabricIndex
  authMode : entry.authMode = .case
  subject : entry.subjects.getD [] = [] ∨ ∃ subject ∈ entry.subjects.getD [], Names subject session
  target : entry.targets.getD [] = [] ∨
    ∃ target ∈ entry.targets.getD [], target.Covers endpoint clusterId

/-- The union over the entries that apply of what their privileges imply. -/
def Granted (implied : AccessLevel → List AccessLevel) (aclList : List AclEntry)
    (session : CaseSession) (endpoint : AclEndpointContext) (clusterId : Nat)
    (privilege : AccessLevel) : Prop :=
  ∃ entry ∈ aclList, entry.Applies session endpoint clusterId ∧ privilege ∈ implied entry.privilege

def Decides (check : Except MatterError Bool) (Property : Prop) : Prop :=
  ∃ passes, check = .ok passes ∧ (passes = true ↔ Property)

section Checks

variable {First Second : Prop}

theorem Decides.iff {check : Except MatterError Bool} (decides : Decides check First)
    (same : First ↔ Second) : Decides check Second := by
  rcases decides with ⟨passes, isPasses, isFirst⟩
  exact ⟨passes, isPasses, isFirst.trans same⟩

theorem decides_false {Property : Prop} (fails : ¬Property) :
    Decides (.ok false) Property :=
  ⟨false, rfl, iff_of_false Bool.false_ne_true fails⟩

theorem decides_true {Property : Prop} (holds : Property) : Decides (.ok true) Property :=
  ⟨true, rfl, iff_of_true rfl holds⟩

theorem Decides.or {first second : Except MatterError Bool} (decidesFirst : Decides first First)
    (decidesSecond : Decides second Second) :
    Decides (do
        if ← first then return true
        second) (First ∨ Second) := by
  rcases decidesFirst with ⟨passes, rfl, isFirst⟩
  cases passes with
  | true => exact decides_true (.inl (isFirst.mp rfl))
  | false =>
    have notFirst : ¬First := fun holds => Bool.false_ne_true (isFirst.mpr holds)
    exact decidesSecond.iff (by simp [notFirst])

theorem Decides.and {first second : Except MatterError Bool}
    (decidesFirst : Decides first First) (decidesSecond : Decides second Second) :
    Decides (do
        if !(← first) then return false
        second) (First ∧ Second) := by
  rcases decidesFirst with ⟨passes, rfl, isFirst⟩
  cases passes with
  | true => exact decidesSecond.iff (by simp [isFirst.mp rfl])
  | false => exact decides_false fun both => Bool.false_ne_true (isFirst.mpr both.1)

end Checks

namespace AccessControlManager

/-! ## Subjects and targets -/

theorem decides_subjectMatches_operational {aclSubject nodeId : Nat}
    (operational : isOperationalNodeId nodeId) :
    Decides (subjectMatches aclSubject nodeId) (aclSubject = nodeId) := by
  rw [subjectMatches]
  by_cases same : aclSubject = nodeId
  · rw [if_pos same]
    exact decides_true same
  · have noTag := not_isCaseAuthenticatedTag_of_operational operational
    rw [if_neg same, noTag, if_pos (by simp)]
    exact decides_false same

theorem decides_subjectMatches_tag {aclSubject tag nodeId : Nat}
    (isSubject : CaseSubject aclSubject) (valid : CaseAuthenticatedTag.Valid tag)
    (isNodeId : fromCaseAuthenticatedTag tag = .ok nodeId) :
    Decides (subjectMatches aclSubject nodeId)
      (∃ aclTag, fromCaseAuthenticatedTag aclTag = .ok aclSubject ∧
        CaseAuthenticatedTag.getIdentifyValue aclTag = CaseAuthenticatedTag.getIdentifyValue tag ∧
        CaseAuthenticatedTag.getVersion aclTag ≤ CaseAuthenticatedTag.getVersion tag) := by
  have isTag := (isCaseAuthenticatedTag_fromCaseAuthenticatedTag isNodeId).1
  rw [subjectMatches]
  by_cases same : aclSubject = nodeId
  · rw [if_pos same]
    exact decides_true ⟨tag, by rw [same, isNodeId], rfl, Nat.le_refl _⟩
  · rw [if_neg same]
    rcases isSubject with operational | ⟨aclTag, aclValid, isAclSubject⟩
    · have noTag := not_isCaseAuthenticatedTag_of_operational operational
      rw [noTag]
      apply decides_false
      rintro ⟨aclTag, isAclSubject, -⟩
      rw [(isCaseAuthenticatedTag_fromCaseAuthenticatedTag isAclSubject).1] at noTag
      cases noTag
    · have aclIsTag :=
        (isCaseAuthenticatedTag_fromCaseAuthenticatedTag isAclSubject).1
      rw [aclIsTag, isTag, extract_fromCaseAuthenticatedTag aclValid isAclSubject,
        extract_fromCaseAuthenticatedTag valid isNodeId]
      refine ⟨_, rfl, ?_⟩
      rw [Bool.and_eq_true, decide_eq_true_iff, decide_eq_true_iff]
      constructor
      · intro fits
        exact ⟨aclTag, isAclSubject, fits⟩
      · rintro ⟨other, isOther, fits⟩
        rw [fromCaseAuthenticatedTag_injective isAclSubject isOther]
        exact fits

theorem decides_matchIsdSubjects {aclSubject : Nat} {isdSubjects : List Nat} (Fits : Nat → Prop)
    (each : ∀ isdSubject ∈ isdSubjects,
      Decides (subjectMatches aclSubject isdSubject) (Fits isdSubject)) :
    Decides (matchIsdSubjects aclSubject isdSubjects)
      (∃ isdSubject ∈ isdSubjects, Fits isdSubject) := by
  induction isdSubjects with
  | nil => exact decides_false (by simp)
  | cons isdSubject isdSubjects induction =>
    rw [List.forall_mem_cons] at each
    exact (each.1.or (induction each.2)).iff (by simp)

theorem decides_matchSubjects {isdSubjects aclSubjects : List Nat} (Fits : Nat → Prop)
    (each : ∀ aclSubject ∈ aclSubjects,
      Decides (matchIsdSubjects aclSubject isdSubjects) (Fits aclSubject)) :
    Decides (matchSubjects isdSubjects aclSubjects)
      (∃ aclSubject ∈ aclSubjects, Fits aclSubject) := by
  induction aclSubjects with
  | nil => exact decides_false (by simp)
  | cons aclSubject aclSubjects induction =>
    rw [List.forall_mem_cons] at each
    exact (each.1.or (induction each.2)).iff (by simp)

theorem decides_matchTargets {endpoint : AclEndpointContext} {clusterId : Nat}
    {targets : List AclTarget} (wellFormed : ∀ target ∈ targets, target.WellFormed) :
    Decides (matchTargets endpoint clusterId targets)
      (∃ target ∈ targets, target.Covers endpoint clusterId) := by
  induction targets with
  | nil => exact decides_false (by simp)
  | cons target targets induction =>
    rw [List.forall_mem_cons] at wellFormed
    have skip : ¬target.Covers endpoint clusterId →
        Decides (matchTargets endpoint clusterId targets)
          (∃ other ∈ target :: targets, other.Covers endpoint clusterId) := by
      intro notCovers
      exact (induction wellFormed.2).iff (by simp [notCovers])
    rw [matchTargets, if_neg wellFormed.1.1, if_neg wellFormed.1.2]
    by_cases otherCluster : target.cluster ≠ none ∧ target.cluster ≠ some clusterId
    · rw [if_pos otherCluster]
      exact skip fun covers => covers.1.elim otherCluster.1 otherCluster.2
    by_cases otherEndpoint : target.endpoint ≠ none ∧ target.endpoint ≠ some endpoint.id
    · rw [if_neg otherCluster, if_pos otherEndpoint]
      exact skip fun covers => covers.2.1.elim otherEndpoint.1 otherEndpoint.2
    rw [if_neg otherCluster, if_neg otherEndpoint]
    by_cases otherDevice :
        (target.deviceType.any fun deviceType => deviceType ∉ endpoint.deviceTypes) = true
    · rw [if_pos otherDevice]
      rw [Option.any_eq_true] at otherDevice
      rcases otherDevice with ⟨deviceType, isType, notThere⟩
      exact skip fun covers =>
        (of_decide_eq_true notThere) (covers.2.2 deviceType isType)
    · rw [if_neg otherDevice]
      apply decides_true
      refine ⟨target, List.mem_cons_self, ?_, ?_, ?_⟩
      · by_cases absent : target.cluster = none
        · exact .inl absent
        · exact .inr (Classical.not_not.mp fun other => otherCluster ⟨absent, other⟩)
      · by_cases absent : target.endpoint = none
        · exact .inl absent
        · exact .inr (Classical.not_not.mp fun other => otherEndpoint ⟨absent, other⟩)
      · intro deviceType isType
        by_contra notThere
        apply otherDevice
        rw [isType, Option.any_some, decide_eq_true_iff]
        exact notThere

/-! ## The subjects of a session -/

theorem exists_mapM_fromCaseAuthenticatedTag {tags : List Nat}
    (valid : ∀ tag ∈ tags, CaseAuthenticatedTag.Valid tag) :
    ∃ nodeIds, tags.mapM fromCaseAuthenticatedTag = .ok nodeIds ∧
      ∀ nodeId, nodeId ∈ nodeIds ↔
        ∃ tag ∈ tags, fromCaseAuthenticatedTag tag = .ok nodeId := by
  induction tags with
  | nil => exact ⟨[], rfl, by simp⟩
  | cons tag tags induction =>
    rw [List.forall_mem_cons] at valid
    rcases exists_fromCaseAuthenticatedTag valid.1 with ⟨nodeId, isNodeId⟩
    rcases induction valid.2 with ⟨nodeIds, isNodeIds, members⟩
    refine ⟨nodeId :: nodeIds, ?_, ?_⟩
    · rw [List.mapM_cons, isNodeId, isNodeIds]
      rfl
    · intro other
      rw [List.mem_cons, members, List.exists_mem_cons_iff, isNodeId, Except.ok.injEq, eq_comm]

def caseDescriptor (session : CaseSession) (nodeIds : List Nat) :
    IncomingSubjectDescriptor where
  isCommissioning := false
  authMode := .case
  subjects := session.peerNodeId :: nodeIds
  fabricIndex := session.fabric.fabricIndex

theorem getIsdFromMessage_case (session : CaseSession) :
    ∃ nodeIds, getIsdFromMessage session.session = .ok (caseDescriptor session nodeIds) ∧
      ∀ nodeId, nodeId ∈ nodeIds ↔ ∃ tag ∈ session.caseAuthenticatedTags,
        fromCaseAuthenticatedTag tag = .ok nodeId := by
  rcases exists_mapM_fromCaseAuthenticatedTag session.validTags with ⟨nodeIds, isIds, members⟩
  have notPase : ¬session.session.isPase = true := by
    rw [SecureSession.isPase, decide_eq_true_iff]
    intro unspecified
    have operational := session.operational
    rw [show session.peerNodeId = unspecifiedNodeId from unspecified] at operational
    exact absurd operational (by decide)
  refine ⟨nodeIds, ?_, members⟩
  rw [getIsdFromMessage, if_neg notPase,
    show session.session.caseAuthenticatedTags.mapM _ = _ from isIds]
  rfl

theorem decides_names {aclSubject : Nat} {session : CaseSession} {nodeIds : List Nat}
    (isSubject : CaseSubject aclSubject)
    (members : ∀ nodeId, nodeId ∈ nodeIds ↔ ∃ tag ∈ session.caseAuthenticatedTags,
      fromCaseAuthenticatedTag tag = .ok nodeId) :
    Decides (matchIsdSubjects aclSubject (session.peerNodeId :: nodeIds))
      (Names aclSubject session) := by
  have ofTags := @decides_matchIsdSubjects aclSubject nodeIds
    (fun nodeId => ∃ tag ∈ session.caseAuthenticatedTags,
      fromCaseAuthenticatedTag tag = .ok nodeId ∧ ∃ aclTag,
        fromCaseAuthenticatedTag aclTag = .ok aclSubject ∧
          CaseAuthenticatedTag.getIdentifyValue aclTag = CaseAuthenticatedTag.getIdentifyValue tag ∧
          CaseAuthenticatedTag.getVersion aclTag ≤ CaseAuthenticatedTag.getVersion tag)
  refine ((decides_subjectMatches_operational session.operational).or (ofTags ?_)).iff ?_
  · intro nodeId member
    rcases (members nodeId).mp member with ⟨tag, isTag, isNodeId⟩
    refine (decides_subjectMatches_tag isSubject (session.validTags tag isTag) isNodeId).iff ?_
    constructor
    · intro fits
      exact ⟨tag, isTag, isNodeId, fits⟩
    · rintro ⟨other, -, isOther, fits⟩
      rw [fromCaseAuthenticatedTag_injective isNodeId isOther]
      exact fits
  · rw [Names]
    apply or_congr_right
    constructor
    · rintro ⟨nodeId, -, tag, isTag, -, fits⟩
      exact ⟨tag, isTag, fits⟩
    · rintro ⟨tag, isTag, fits⟩
      rcases exists_fromCaseAuthenticatedTag (session.validTags tag isTag) with
        ⟨nodeId, isNodeId⟩
      exact ⟨nodeId, (members nodeId).mpr ⟨tag, isTag, isNodeId⟩, tag, isTag, isNodeId, fits⟩

/-! ## One entry -/

theorem decides_checkSubjects {entry : AclEntry} {subjectDesc : IncomingSubjectDescriptor}
    {session : CaseSession} (wellFormed : entry.WellFormed) (isCase : entry.authMode = .case)
    (each : ∀ aclSubject, CaseSubject aclSubject →
      Decides (matchIsdSubjects aclSubject subjectDesc.subjects) (Names aclSubject session)) :
    Decides (checkSubjects entry subjectDesc)
      (entry.subjects.getD [] = [] ∨
        ∃ subject ∈ entry.subjects.getD [], Names subject session) := by
  have subjects := wellFormed.subjects isCase
  have mayBeEmpty : ¬(entry.authMode ≠ .case ∧ entry.authMode ≠ .group) :=
    fun neither => neither.1 isCase
  rw [checkSubjects]
  cases isSubjects : entry.subjects with
  | none =>
    rw [if_neg mayBeEmpty]
    exact decides_true (.inl rfl)
  | some aclSubjects =>
    rw [isSubjects] at subjects
    cases aclSubjects with
    | nil =>
      rw [if_neg mayBeEmpty]
      exact decides_true (.inl rfl)
    | cons aclSubject aclSubjects =>
      have matched := @decides_matchSubjects subjectDesc.subjects _
        (fun subject => Names subject session)
        (fun subject member => each subject (subjects subject member))
      exact matched.iff (by simp)

theorem decides_checkTargets {entry : AclEntry} (wellFormed : entry.WellFormed)
    (endpoint : AclEndpointContext) (clusterId : Nat) :
    Decides (checkTargets entry endpoint clusterId)
      (entry.targets.getD [] = [] ∨
        ∃ target ∈ entry.targets.getD [], target.Covers endpoint clusterId) := by
  have targets := wellFormed.targets
  rw [checkTargets]
  cases isTargets : entry.targets with
  | none => exact decides_true (.inl rfl)
  | some aclTargets =>
    rw [isTargets] at targets
    cases aclTargets with
    | nil => exact decides_true (.inl rfl)
    | cons target aclTargets => exact (decides_matchTargets targets).iff (by simp)

theorem decides_checkEntry {manager : AccessControlManager} {acl : List AclEntry}
    {subjectDesc : IncomingSubjectDescriptor} {session : CaseSession}
    (isCase : subjectDesc.authMode = .case)
    (isFabric : subjectDesc.fabricIndex = session.fabric.fabricIndex)
    (each : ∀ aclSubject, CaseSubject aclSubject →
      Decides (matchIsdSubjects aclSubject subjectDesc.subjects) (Names aclSubject session))
    {entry : AclEntry} (wellFormed : entry.WellFormed) (endpoint : AclEndpointContext)
    (clusterId : Nat) :
    Decides (manager.checkEntry acl subjectDesc endpoint clusterId entry)
      (entry.Applies session endpoint clusterId ∧
        manager.extensionEntryAccessCheck acl entry subjectDesc endpoint clusterId) := by
  rw [checkEntry, isFabric, isCase]
  by_cases otherFabric : entry.fabricIndex = noFabric ∨
      entry.fabricIndex ≠ session.fabric.fabricIndex
  · rw [if_pos otherFabric]
    apply decides_false
    rintro ⟨applies, -⟩
    rcases otherFabric with none | other
    · exact session.isFabric (applies.ownFabric.symm.trans none)
    · exact other applies.ownFabric
  rw [if_neg otherFabric]
  rw [not_or, not_not] at otherFabric
  by_cases otherMode : entry.authMode ≠ .case
  · rw [if_pos otherMode]
    exact decides_false fun both => otherMode both.1.authMode
  rw [if_neg otherMode]
  rw [not_not] at otherMode
  have extension : Decides
      (.ok (manager.extensionEntryAccessCheck acl entry subjectDesc endpoint clusterId))
      (manager.extensionEntryAccessCheck acl entry subjectDesc endpoint clusterId) :=
    ⟨_, rfl, Iff.rfl⟩
  have checks := (decides_checkSubjects wellFormed otherMode each).and
    ((decides_checkTargets wellFormed endpoint clusterId).and extension)
  refine checks.iff ?_
  constructor
  · rintro ⟨subject, target, accepts⟩
    exact ⟨⟨otherFabric.2, otherMode, subject, target⟩, accepts⟩
  · rintro ⟨applies, accepts⟩
    exact ⟨applies.subject, applies.target, accepts⟩

/-! ## All entries -/

theorem mem_addPrivilege {granted : List AccessLevel} {added privilege : AccessLevel} :
    privilege ∈ addPrivilege granted added ↔ privilege ∈ granted ∨ privilege = added := by
  rw [addPrivilege]
  by_cases present : added ∈ granted
  · rw [if_pos present]
    constructor
    · exact .inl
    · rintro (member | rfl)
      · exact member
      · exact present
  · rw [if_neg present]
    simp

theorem mem_addGrantedPrivilege {granted : List AccessLevel} {added privilege : AccessLevel} :
    privilege ∈ addGrantedPrivilege granted added ↔
      privilege ∈ granted ∨ privilege ∈ implied added := by
  cases added <;>
    simp [addGrantedPrivilege, subsumedPrivileges, implied, mem_addPrivilege, or_assoc]

theorem mem_implied_administer (privilege : AccessLevel) :
    privilege ∈ implied .administer := by
  cases privilege <;> decide

theorem grantFrom_eq_ok {check : AclEntry → Except MatterError Bool} (Passes : AclEntry → Prop)
    {entries : List AclEntry} {granted : List AccessLevel}
    (each : ∀ entry ∈ entries, Decides (check entry) (Passes entry))
    (complete : .administer ∈ granted → ∀ privilege, privilege ∈ granted) :
    ∃ all, grantFrom check granted entries = .ok all ∧
      ∀ privilege, privilege ∈ all ↔ privilege ∈ granted ∨
        ∃ entry ∈ entries, Passes entry ∧ privilege ∈ implied entry.privilege := by
  induction entries generalizing granted with
  | nil => exact ⟨granted, rfl, by simp⟩
  | cons entry entries induction =>
    rw [List.forall_mem_cons] at each
    rw [grantFrom]
    by_cases highest : .administer ∈ granted
    · rw [if_pos highest]
      exact ⟨granted, rfl, fun privilege =>
        iff_of_true (complete highest privilege) (.inl (complete highest privilege))⟩
    · rw [if_neg highest]
      rcases each.1 with ⟨passes, isPasses, meaning⟩
      rw [isPasses]
      cases passes with
      | false =>
        have fails : ¬Passes entry := fun holds => Bool.false_ne_true (meaning.mpr holds)
        rcases induction each.2 complete with ⟨all, isAll, members⟩
        refine ⟨all, isAll, fun privilege => (members privilege).trans ?_⟩
        simp [fails]
      | true =>
        have holds : Passes entry := meaning.mp rfl
        have stillComplete : .administer ∈ addGrantedPrivilege granted entry.privilege →
            ∀ privilege, privilege ∈ addGrantedPrivilege granted entry.privilege := by
          intro isHighest privilege
          rw [mem_addGrantedPrivilege] at isHighest ⊢
          rcases isHighest with earlier | now
          · exact absurd earlier highest
          · right
            have isAdminister : entry.privilege = .administer := by
              revert now
              cases entry.privilege <;> decide
            rw [isAdminister]
            exact mem_implied_administer privilege
        rcases induction each.2 stillComplete with ⟨all, isAll, members⟩
        refine ⟨all, isAll, fun privilege => (members privilege).trans ?_⟩
        rw [mem_addGrantedPrivilege, or_assoc]
        simp [holds]

theorem getGrantedPrivileges_eq_ok {manager : AccessControlManager} {session : SecureSession}
    {subjectDesc : IncomingSubjectDescriptor} {endpoint : AclEndpointContext} {clusterId : Nat}
    {granted : List AccessLevel} (isDesc : getIsdFromMessage session = .ok subjectDesc)
    (notGroup : subjectDesc.authMode ≠ .group)
    (isGranted : grantFrom
      (manager.checkEntry (manager.aclFor session) subjectDesc endpoint clusterId)
      (initialPrivileges subjectDesc) (manager.aclFor session) = .ok granted) :
    manager.getGrantedPrivileges session endpoint clusterId = .ok granted := by
  rw [getGrantedPrivileges, isDesc]
  change (do
    let grantedPrivileges ← grantFrom
      (manager.checkEntry (manager.aclFor session) subjectDesc endpoint clusterId)
      (initialPrivileges subjectDesc) (manager.aclFor session)
    if subjectDesc.authMode = AuthMode.group ∧ AccessLevel.administer ∈ grantedPrivileges then
      .error (MatterError.matterFlowError
        "ACL error: should never grant Administer privilege to a Group")
    else return grantedPrivileges) = _
  rw [isGranted]
  exact if_neg fun both => notGroup both.1

theorem getGrantedPrivileges_case {manager : AccessControlManager}
    (wellFormed : ∀ entry ∈ manager.aclList, entry.WellFormed) (session : CaseSession)
    (endpoint : AclEndpointContext) (clusterId : Nat) :
    ∃ subjectDesc granted, getIsdFromMessage session.session = .ok subjectDesc ∧
      manager.getGrantedPrivileges session.session endpoint clusterId = .ok granted ∧
      ∀ privilege, privilege ∈ granted ↔
        ∃ entry ∈ manager.aclList, (entry.Applies session endpoint clusterId ∧
          manager.extensionEntryAccessCheck (manager.aclFor session.session) entry subjectDesc
            endpoint clusterId) ∧ privilege ∈ implied entry.privilege := by
  rcases getIsdFromMessage_case session with ⟨nodeIds, isDesc, members⟩
  have own : ∀ entry, entry ∈ manager.aclFor session.session ↔
      entry ∈ manager.aclList ∧ entry.fabricIndex = session.fabric.fabricIndex := by
    intro entry
    rw [show manager.aclFor session.session =
      manager.getAccessControlEntriesForFabric session.fabric from rfl,
      getAccessControlEntriesForFabric, List.mem_filter, decide_eq_true_iff]
  have each : ∀ aclSubject, CaseSubject aclSubject →
      Decides (matchIsdSubjects aclSubject (caseDescriptor session nodeIds).subjects)
        (Names aclSubject session) :=
    fun aclSubject isSubject => decides_names isSubject members
  have nothingYet : AccessLevel.administer ∈ ([] : List AccessLevel) →
      ∀ privilege, privilege ∈ ([] : List AccessLevel) := nofun
  have loop := grantFrom_eq_ok _
    (fun entry member => @decides_checkEntry manager (manager.aclFor session.session)
      (caseDescriptor session nodeIds) session rfl rfl each entry
      (wellFormed entry ((own entry).mp member).1) endpoint clusterId) nothingYet
  rcases loop with ⟨granted, isGranted, grants⟩
  have notGroup : (caseDescriptor session nodeIds).authMode ≠ .group := by
    intro isGroup
    cases isGroup
  refine ⟨_, granted, isDesc, getGrantedPrivileges_eq_ok isDesc notGroup isGranted, ?_⟩
  intro privilege
  rw [grants]
  constructor
  · rintro (never | ⟨entry, member, passes, isImplied⟩)
    · cases never
    · exact ⟨entry, ((own entry).mp member).1, passes, isImplied⟩
  · rintro ⟨entry, member, passes, isImplied⟩
    exact .inr ⟨entry, (own entry).mpr ⟨member, passes.1.ownFabric⟩, passes, isImplied⟩

theorem getGrantedPrivileges_pase (manager : AccessControlManager) {session : SecureSession}
    (isPase : session.isPase) (endpoint : AclEndpointContext) (clusterId : Nat) :
    ∃ granted, manager.getGrantedPrivileges session endpoint clusterId = .ok granted ∧
      ∀ privilege, privilege ∈ granted := by
  have highest : .administer ∈ addGrantedPrivilege [] .administer := by decide
  have ends : ∀ check entries,
      grantFrom check (addGrantedPrivilege [] .administer) entries =
        .ok (addGrantedPrivilege [] .administer) := by
    intro check entries
    cases entries with
    | nil => rfl
    | cons entry entries => rw [grantFrom, if_pos highest]
  have notGroup : AuthMode.pase ≠ AuthMode.group := by decide
  have isDesc : getIsdFromMessage session = .ok
      { isCommissioning := true
        authMode := .pase
        subjects := [0]
        fabricIndex := session.fabric.elim noFabric Fabric.fabricIndex } := by
    rw [getIsdFromMessage, if_pos isPase]
  refine ⟨addGrantedPrivilege [] .administer, ?_, ?_⟩
  · exact getGrantedPrivileges_eq_ok isDesc notGroup (ends _ _)
  · intro privilege
    rw [mem_addGrantedPrivilege]
    exact .inr (mem_implied_administer privilege)

end AccessControlManager

open AccessControlManager

/-! ## The whole list -/

theorem granted_congr {implied : AccessLevel → List AccessLevel}
    {aclList other : List AclEntry} {session : CaseSession}
    (sameOwn : ∀ entry, entry.fabricIndex = session.fabric.fabricIndex →
      (entry ∈ aclList ↔ entry ∈ other)) (endpoint : AclEndpointContext) (clusterId : Nat)
    (privilege : AccessLevel) :
    Granted implied aclList session endpoint clusterId privilege ↔
      Granted implied other session endpoint clusterId privilege := by
  constructor
  · rintro ⟨entry, member, applies, isImplied⟩
    exact ⟨entry, (sameOwn entry applies.ownFabric).mp member, applies, isImplied⟩
  · rintro ⟨entry, member, applies, isImplied⟩
    exact ⟨entry, (sameOwn entry applies.ownFabric).mpr member, applies, isImplied⟩

theorem getGrantedPrivileges_new {aclList : List AclEntry}
    (wellFormed : ∀ entry ∈ aclList, entry.WellFormed) (session : CaseSession)
    (endpoint : AclEndpointContext) (clusterId : Nat) :
    ∃ granted,
      (new aclList).getGrantedPrivileges session.session endpoint clusterId = .ok granted ∧
        ∀ privilege, privilege ∈ granted ↔
          Granted implied aclList session endpoint clusterId privilege := by
  rcases @getGrantedPrivileges_case (new aclList) wellFormed session endpoint clusterId with
    ⟨_, granted, -, isGranted, members⟩
  refine ⟨granted, isGranted, fun privilege => (members privilege).trans ?_⟩
  simp [Granted, new]

/-- The session of the same peer and fabric, with every tag there in a version not below -/
structure Upgrades (session newer : CaseSession) : Prop where
  sameFabric : newer.fabric.fabricIndex = session.fabric.fabricIndex
  samePeer : newer.peerNodeId = session.peerNodeId
  tags : ∀ tag ∈ session.caseAuthenticatedTags, ∃ other ∈ newer.caseAuthenticatedTags,
    CaseAuthenticatedTag.getIdentifyValue tag = CaseAuthenticatedTag.getIdentifyValue other ∧
      CaseAuthenticatedTag.getVersion tag ≤ CaseAuthenticatedTag.getVersion other

theorem Upgrades.names {session newer : CaseSession} (upgrades : Upgrades session newer)
    {subject : Nat} (names : Names subject session) : Names subject newer := by
  rcases names with isPeer | ⟨tag, member, aclTag, isSubject, sameIdentifier, version⟩
  · exact .inl (isPeer.trans upgrades.samePeer.symm)
  · rcases upgrades.tags tag member with ⟨other, otherMember, otherIdentifier, otherVersion⟩
    exact .inr ⟨other, otherMember, aclTag, isSubject, sameIdentifier.trans otherIdentifier,
      version.trans otherVersion⟩

/-- Without an extension check, a CASE session is granted the union of what the entries that
apply to it imply, the same for every list with the same entries of its fabric; a PASE
session is granted everything. -/
theorem grantedPrivileges_spec (aclList : List AclEntry)
    (wellFormed : ∀ entry ∈ aclList, entry.WellFormed) (endpoint : AclEndpointContext)
    (clusterId : Nat) :
    (∀ session : CaseSession, ∃ granted,
      (new aclList).getGrantedPrivileges session.session endpoint clusterId = .ok granted ∧
        (∀ privilege, privilege ∈ granted ↔
          Granted implied aclList session endpoint clusterId privilege) ∧
        ∀ other : List AclEntry, (∀ entry ∈ other, entry.WellFormed) →
          (∀ entry, entry.fabricIndex = session.fabric.fabricIndex →
            (entry ∈ other ↔ entry ∈ aclList)) →
          ∃ same, (new other).getGrantedPrivileges session.session endpoint clusterId =
              .ok same ∧ ∀ privilege, privilege ∈ same ↔ privilege ∈ granted) ∧
      ∀ session : SecureSession, session.isPase → ∃ granted,
        (new aclList).getGrantedPrivileges session endpoint clusterId = .ok granted ∧
          ∀ privilege, privilege ∈ granted := by
  constructor
  · intro session
    rcases getGrantedPrivileges_new wellFormed session endpoint clusterId with
      ⟨granted, isGranted, members⟩
    refine ⟨granted, isGranted, members, ?_⟩
    intro other otherWellFormed sameOwn
    rcases getGrantedPrivileges_new otherWellFormed session endpoint clusterId with
      ⟨same, isSame, sameMembers⟩
    refine ⟨same, isSame, fun privilege => ?_⟩
    rw [members, sameMembers]
    exact granted_congr sameOwn endpoint clusterId privilege
  · intro session isPase
    exact getGrantedPrivileges_pase (new aclList) isPase endpoint clusterId

/-! ## An administrator -/

/-- The entry that commissioning leaves behind: its node administers everything. -/
def administratorEntry : AclEntry where
  fabricIndex := 1
  privilege := .administer
  authMode := .case
  subjects := some [9]
  targets := none

theorem wellFormed_administratorEntry : administratorEntry.WellFormed where
  authMode := .inl rfl
  subjects := by
    intro _ subject member
    rw [List.mem_singleton.mp member]
    exact .inl (by decide)
  privilege := by
    intro isGroup
    cases isGroup
  targets := by
    intro target member
    cases member

def administratorSession : CaseSession where
  fabric :=
    { fabricIndex := 1
      fabricId := 7
      nodeId := 5
      rootNodeId := 9
      rootPublicKey := []
      rootVendorId := 0xfff1
      rootCert := []
      identityProtectionKey := []
      intermediateCACert := none
      operationalCert := []
      label := "" }
  peerNodeId := 9
  caseAuthenticatedTags := []
  isFabric := by decide
  operational := by decide
  validTags := by decide

/-- The administrator at the access control cluster, and a PASE session. -/
theorem grantedPrivileges_spec_administrator :
    (∃ granted, (new [administratorEntry]).getGrantedPrivileges administratorSession.session
        ⟨0, [22]⟩ 31 = .ok granted ∧ .manage ∈ granted) ∧
      ∃ granted, (new [administratorEntry]).getGrantedPrivileges
        ⟨none, NodeId.unspecifiedNodeId, []⟩ ⟨0, [22]⟩ 31 = .ok granted ∧
          .administer ∈ granted := by
  have wellFormed : ∀ entry ∈ [administratorEntry], entry.WellFormed := by
    intro entry member
    rw [List.mem_singleton.mp member]
    exact wellFormed_administratorEntry
  have spec := grantedPrivileges_spec [administratorEntry] wellFormed ⟨0, [22]⟩ 31
  rcases spec.1 administratorSession with ⟨granted, isGranted, members, -⟩
  rcases spec.2 ⟨none, NodeId.unspecifiedNodeId, []⟩ (by decide) with ⟨all, isAll, everything⟩
  refine ⟨⟨granted, isGranted, (members .manage).mpr ?_⟩, all, isAll, everything .administer⟩
  refine ⟨administratorEntry, List.mem_singleton_self _, ⟨rfl, rfl, ?_, .inl rfl⟩, by decide⟩
  exact .inr ⟨9, List.mem_singleton_self _, .inl rfl⟩

/-- `Administer` grants `ProxyView` too. -/
theorem administer_grants_proxyView :
    ¬∀ (aclList : List AclEntry), (∀ entry ∈ aclList, entry.WellFormed) →
      ∀ (session : CaseSession) (endpoint : AclEndpointContext) (clusterId : Nat),
        ∃ granted,
          (new aclList).getGrantedPrivileges session.session endpoint clusterId = .ok granted ∧
            ∀ privilege, privilege ∈ granted ↔
              Granted impliedWithoutProxy aclList session endpoint clusterId privilege := by
  intro always
  have wellFormed : ∀ entry ∈ [administratorEntry], entry.WellFormed := by
    intro entry member
    rw [List.mem_singleton.mp member]
    exact wellFormed_administratorEntry
  rcases always [administratorEntry] wellFormed administratorSession ⟨0, [22]⟩ 31 with
    ⟨granted, isGranted, members⟩
  have isAll : (new [administratorEntry]).getGrantedPrivileges administratorSession.session
      ⟨0, [22]⟩ 31 = .ok [.administer, .manage, .operate, .proxyView, .view] := by
    decide +kernel
  rw [isAll, Except.ok.injEq] at isGranted
  have proxyView : AccessLevel.proxyView ∈ granted := by
    rw [← isGranted]
    decide
  rcases (members .proxyView).mp proxyView with ⟨entry, member, -, isImplied⟩
  rw [List.mem_singleton.mp member] at isImplied
  exact absurd isImplied (by decide)

end MatterJs.Protocol.AccessControl
