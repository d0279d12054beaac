import MatterJs.Protocol.Fabric
import MatterJs.Types.NodeId

/-! The access control manager: which privileges the access control list grants to a
session at an endpoint and cluster. -/

namespace MatterJs.Protocol.AccessControl

open General MatterJs.Types

inductive AccessLevel where
  | view
  | proxyView
  | operate
  | manage
  | administer
  deriving DecidableEq

/-- `AccessControlEntryAuthMode`, and `none` for no authentication. -/
inductive AuthMode where
  | none
  | pase
  | case
  | group
  deriving DecidableEq

structure AclTarget where
  cluster : Option Nat
  endpoint : Option Nat
  deviceType : Option Nat
  deriving DecidableEq

structure AclEntry where
  fabricIndex : Nat
  privilege : AccessLevel
  authMode : AuthMode
  subjects : Option (List Nat)
  targets : Option (List AclTarget)
  deriving DecidableEq

structure AclEndpointContext where
  id : Nat
  deviceTypes : List Nat
  deriving DecidableEq

def noFabric : Nat := 0

def implicitDefaultPaseAclEntry : AclEntry where
  fabricIndex := noFabric
  privilege := .administer
  authMode := .pase
  subjects := some []
  targets := some []

structure IncomingSubjectDescriptor where
  isCommissioning : Bool
  authMode : AuthMode
  subjects : List Nat
  fabricIndex : Nat
  deriving DecidableEq

structure SecureSession where
  fabric : Option Fabric
  peerNodeId : Nat
  caseAuthenticatedTags : List Nat
  deriving DecidableEq

def SecureSession.isPase (session : SecureSession) : Bool :=
  session.peerNodeId = NodeId.unspecifiedNodeId

abbrev ExtensionEntryAccessCheck :=
  List AclEntry → AclEntry → IncomingSubjectDescriptor → AclEndpointContext → Nat → Bool

structure AccessControlManager where
  aclList : List AclEntry
  extensionEntryAccessCheck : ExtensionEntryAccessCheck

namespace AccessControlManager

def new (aclList : List AclEntry) : AccessControlManager where
  aclList := aclList
  extensionEntryAccessCheck := fun _ _ _ _ _ => true

variable (manager : AccessControlManager) (session : SecureSession)

def getAccessControlEntriesForFabric (fabric : Fabric) : List AclEntry :=
  manager.aclList.filter fun entry => entry.fabricIndex = fabric.fabricIndex

def subjectMatches (aclSubject isdSubject : Nat) : Except MatterError Bool :=
  if aclSubject = isdSubject then .ok true
  else if !NodeId.isCaseAuthenticatedTag aclSubject ||
      !NodeId.isCaseAuthenticatedTag isdSubject then .ok false
  else do
    let aclSubjectCat ← NodeId.extractAsCaseAuthenticatedTag aclSubject
    let isdSubjectCat ← NodeId.extractAsCaseAuthenticatedTag isdSubject
    return CaseAuthenticatedTag.getIdentifyValue aclSubjectCat =
        CaseAuthenticatedTag.getIdentifyValue isdSubjectCat &&
      CaseAuthenticatedTag.getVersion aclSubjectCat ≤ CaseAuthenticatedTag.getVersion isdSubjectCat

/-- `Set.add` -/
def addPrivilege (grantedPrivileges : List AccessLevel) (privilege : AccessLevel) :
    List AccessLevel :=
  if privilege ∈ grantedPrivileges then grantedPrivileges
  else grantedPrivileges ++ [privilege]

/-- The privileges that `#addGrantedPrivilege` adds behind the granted one. -/
def subsumedPrivileges : AccessLevel → List AccessLevel
  | .proxyView => [.view]
  | .operate => [.view]
  | .manage => [.operate, .view]
  | .administer => [.manage, .operate, .proxyView, .view]
  | .view => []

def addGrantedPrivilege (grantedPrivileges : List AccessLevel) (privilege : AccessLevel) :
    List AccessLevel :=
  (subsumedPrivileges privilege).foldl addPrivilege (addPrivilege grantedPrivileges privilege)

/-- The inner loop over the session's subjects. -/
def matchIsdSubjects (aclSubject : Nat) : List Nat → Except MatterError Bool
  | [] => .ok false
  | isdSubject :: isdSubjects => do
    if ← subjectMatches aclSubject isdSubject then return true
    matchIsdSubjects aclSubject isdSubjects

/-- `subjectLoop`, over the entry's subjects. -/
def matchSubjects (isdSubjects : List Nat) : List Nat → Except MatterError Bool
  | [] => .ok false
  | aclSubject :: aclSubjects => do
    if ← matchIsdSubjects aclSubject isdSubjects then return true
    matchSubjects isdSubjects aclSubjects

/-- The loop over the entry's targets. -/
def matchTargets (endpoint : AclEndpointContext) (clusterId : Nat) :
    List AclTarget → Except MatterError Bool
  | [] => .ok false
  | target :: targets =>
    if target.cluster = none ∧ target.endpoint = none ∧ target.deviceType = none then
      .error (.matterFlowError "ACL error: target cannot be empty")
    else if target.endpoint ≠ none ∧ target.deviceType ≠ none then
      .error (.matterFlowError "ACL error: target cannot specify both endpoint and device type")
    else if target.cluster ≠ none ∧ target.cluster ≠ some clusterId then
      matchTargets endpoint clusterId targets
    else if target.endpoint ≠ none ∧ target.endpoint ≠ some endpoint.id then
      matchTargets endpoint clusterId targets
    else if target.deviceType.any fun deviceType => deviceType ∉ endpoint.deviceTypes then
      matchTargets endpoint clusterId targets
    else .ok true

def checkSubjects (entry : AclEntry) (subjectDesc : IncomingSubjectDescriptor) :
    Except MatterError Bool :=
  match entry.subjects with
  | none | some [] =>
    if entry.authMode ≠ .case ∧ entry.authMode ≠ .group then
      .error (.matterFlowError "ACL error: only CASE and Group auth can have empty subjects")
    else .ok true
  | some subjects => matchSubjects subjectDesc.subjects subjects

def checkTargets (entry : AclEntry) (endpoint : AclEndpointContext) (clusterId : Nat) :
    Except MatterError Bool :=
  match entry.targets with
  | none | some [] => .ok true
  | some targets => matchTargets endpoint clusterId targets

def checkEntry (acl : List AclEntry) (subjectDesc : IncomingSubjectDescriptor)
    (endpoint : AclEndpointContext) (clusterId : Nat) (entry : AclEntry) :
    Except MatterError Bool :=
  if entry.fabricIndex = noFabric ∨ entry.fabricIndex ≠ subjectDesc.fabricIndex then .ok false
  else if entry.authMode ≠ subjectDesc.authMode then .ok false
  else do
    if !(← checkSubjects entry subjectDesc) then return false
    if !(← checkTargets entry endpoint clusterId) then return false
    return manager.extensionEntryAccessCheck acl entry subjectDesc endpoint clusterId

/-- The loop over the entries, which ends early with the highest privilege. -/
def grantFrom (check : AclEntry → Except MatterError Bool) :
    List AccessLevel → List AclEntry → Except MatterError (List AccessLevel)
  | grantedPrivileges, [] => .ok grantedPrivileges
  | grantedPrivileges, entry :: entries =>
    if .administer ∈ grantedPrivileges then .ok grantedPrivileges
    else do
      if ← check entry then
        grantFrom check (addGrantedPrivilege grantedPrivileges entry.privilege) entries
      else grantFrom check grantedPrivileges entries

def getIsdFromMessage : Except MatterError IncomingSubjectDescriptor :=
  if session.isPase then
    .ok {
      isCommissioning := true
      authMode := .pase
      subjects := [0]
      fabricIndex := session.fabric.elim noFabric Fabric.fabricIndex }
  else do
    let tags ← session.caseAuthenticatedTags.mapM NodeId.fromCaseAuthenticatedTag
    match session.fabric with
    | none => .error (.matterFlowError "ACL error: fabric is undefined")
    | some fabric =>
      return {
        isCommissioning := false
        authMode := .case
        subjects := session.peerNodeId :: tags
        fabricIndex := fabric.fabricIndex }

/-- The entries that `getGrantedPrivileges` goes through. -/
def aclFor : List AclEntry :=
  match session.fabric with
  | some fabric => manager.getAccessControlEntriesForFabric fabric
  | none => [implicitDefaultPaseAclEntry]

/-- The commissioner has the highest privilege before any entry is looked at. -/
def initialPrivileges (subjectDesc : IncomingSubjectDescriptor) : List AccessLevel :=
  if subjectDesc.authMode = .pase ∧ subjectDesc.isCommissioning then
    addGrantedPrivilege [] .administer
  else []

def getGrantedPrivileges (endpoint : AclEndpointContext) (clusterId : Nat) :
    Except MatterError (List AccessLevel) := do
  let subjectDesc ← getIsdFromMessage session
  let acl := manager.aclFor session
  let grantedPrivileges ← grantFrom (manager.checkEntry acl subjectDesc endpoint clusterId)
    (initialPrivileges subjectDesc) acl
  if subjectDesc.authMode = .group ∧ .administer ∈ grantedPrivileges then
    .error (.matterFlowError "ACL error: should never grant Administer privilege to a Group")
  else return grantedPrivileges

end AccessControlManager

/-- Targets name something, and not both an endpoint and a device type. -/
def AclTarget.WellFormed (target : AclTarget) : Prop :=
  ¬(target.cluster = none ∧ target.endpoint = none ∧ target.deviceType = none) ∧
    ¬(target.endpoint ≠ none ∧ target.deviceType ≠ none)

instance : DecidablePred AclTarget.WellFormed := fun _ => inferInstanceAs (Decidable (_ ∧ _))

/-- A subject of an entry for CASE sessions: an operational node or a tag. -/
def CaseSubject (subject : Nat) : Prop :=
  NodeId.isOperationalNodeId subject ∨
    ∃ tag, CaseAuthenticatedTag.Valid tag ∧ NodeId.fromCaseAuthenticatedTag tag = .ok subject

structure AclEntry.WellFormed (entry : AclEntry) : Prop where
  authMode : entry.authMode = .case ∨ entry.authMode = .group
  subjects : entry.authMode = .case → ∀ subject ∈ entry.subjects.getD [], CaseSubject subject
  privilege : entry.authMode = .group → entry.privilege ≠ .administer
  targets : ∀ target ∈ entry.targets.getD [], target.WellFormed

/-- A CASE session: it belongs to a fabric, its peer is an operational node. -/
structure CaseSession where
  fabric : Fabric
  peerNodeId : Nat
  caseAuthenticatedTags : List Nat
  isFabric : fabric.fabricIndex ≠ noFabric
  operational : NodeId.isOperationalNodeId peerNodeId
  validTags : ∀ tag ∈ caseAuthenticatedTags, CaseAuthenticatedTag.Valid tag

def CaseSession.session (session : CaseSession) : SecureSession where
  fabric := some session.fabric
  peerNodeId := session.peerNodeId
  caseAuthenticatedTags := session.caseAuthenticatedTags

def paseSession (fabric : Option Fabric) : SecureSession where
  fabric := fabric
  peerNodeId := NodeId.unspecifiedNodeId
  caseAuthenticatedTags := []

end MatterJs.Protocol.AccessControl
