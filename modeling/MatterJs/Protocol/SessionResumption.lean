import Mathlib.Data.List.MinMax
import MatterJs.Protocol.ResumptionRecords
import MatterJs.Protocol.SessionIdAllocation

/-! The CASE server resumes a session: what it changes on the way, and what is left of it
when a step fails. -/

namespace MatterJs.Protocol.SessionResumption

open General SessionIds

/-- The operations of `Crypto` that a resumption uses, each of which may throw -/
structure Crypto where
  hkdf : (secret salt info : Bytes) → (length : Nat) → Option Bytes
  encrypt : (key data nonce : Bytes) → Option Bytes
  decrypt : (key data nonce : Bytes) → Option Bytes

def cryptoSymmetricKeyLength : Nat := 16

/-- `Bytes.fromString` of an ASCII text -/
def bytesFromString (text : String) : Bytes :=
  text.toList.map fun char => UInt8.ofNat char.toNat

def kdfsr1KeyInfo : Bytes := bytesFromString "Sigma1_Resume"
def kdfsr2KeyInfo : Bytes := bytesFromString "Sigma2_Resume"
def resume1MicNonce : Bytes := bytesFromString "NCASE_SigmaS1"
def resume2MicNonce : Bytes := bytesFromString "NCASE_SigmaS2"
def sessionResumptionKeysInfo : Bytes := bytesFromString "SessionResumptionKeys"

/-! ## Sessions and records -/

/-- What a secure session object holds beside its id -/
structure SessionContents where
  fabric : Fabric
  peerNodeId : Nat
  peerSessionId : Nat
  decryptKey : Bytes
  encryptKey : Bytes
  attestationKey : Bytes
  isInitiator : Bool
  caseAuthenticatedTags : List Nat
  closingAfterExchangeFinished : Bool := false
  sendCloseMessageWhenClosing : Bool := true
  deriving DecidableEq

structure ManagerState where
  ids : SessionIds.SessionManager
  contents : Nat → Option SessionContents
  resumptionRecords : OrderedMap PeerAddress ResumptionRecord
  storedRecords : List ResumptionStorageRecord

inductive EvictionEnd where
  | ended
  /-- It fails while its subscriptions are closed, and the session stays. -/
  | failedOpen
  /-- It fails after the session was taken out. -/
  | failedDeleted
  deriving DecidableEq

namespace ManagerState

def sessions (state : ManagerState) : List SessionIds.SecureSession :=
  state.ids.sessions.entries

variable (state : ManagerState)

def newReference : Nat :=
  (state.sessions.map SecureSession.reference).foldr max 0 + 1

/-- `getNextAvailableSessionId`, with the end of the session that it may have to evict -/
def getNextAvailableSessionId (state : ManagerState) (evictionEnd : EvictionEnd) :
    Option Nat × ManagerState :=
  match state.ids.getNextAvailableSessionId with
  | (.returned id, ids) => (some id, { state with ids })
  | (.thrown _, ids) => (none, { state with ids })
  | (.evicting oldest, ids) =>
    match evictionEnd with
    | .failedOpen => (none, { state with ids })
    | .failedDeleted =>
      (none, { state with ids := { ids with sessions := ids.sessions.delete oldest } })
    | .ended =>
      let (id, ids) := ({ ids with sessions := ids.sessions.delete oldest } :
        SessionIds.SessionManager).reuseId oldest
      (some id, { state with ids })

/-- The constructor of `SecureSession` and the rest of `createSecureSession` -/
def addSession (session : SessionIds.SecureSession) (contents : SessionContents) : ManagerState :=
  { state with
    ids := { state.ids with sessions := state.ids.sessions.add session }
    contents := Function.update state.contents session.reference (some contents) }

/-- `destroy` of a session as it is called here. Its second parameter is `true` unless given,
so the session is only marked for the end of its exchange. -/
def destroy (reference : Nat) : ManagerState :=
  { state with
    contents := Function.update state.contents reference
      ((state.contents reference).map fun contents =>
        { contents with
          sendCloseMessageWhenClosing := false
          closingAfterExchangeFinished := true }) }

def findResumptionRecordById (resumptionId : Bytes) : Option (PeerAddress × ResumptionRecord) :=
  state.resumptionRecords.entries.find? fun entry => entry.2.resumptionId = resumptionId

def setResumptionId (entry : PeerAddress × ResumptionRecord) (resumptionId : Bytes) :
    ManagerState :=
  { state with
    resumptionRecords := state.resumptionRecords.set entry.1 { entry.2 with resumptionId } }

def setResumptionRecord (record : ResumptionRecord) : ManagerState :=
  { state with
    resumptionRecords :=
      state.resumptionRecords.set (record.fabric.addressOf record.peerNodeId) record }

def storeResumptionRecords : ManagerState :=
  { state with
    storedRecords := state.resumptionRecords.entries.map ResumptionRecords.storeRecord }

end ManagerState

/-! ## The handshake -/

structure CaseSigma1 where
  initiatorRandom : Bytes
  initiatorSessionId : Nat
  resumptionId : Option Bytes
  initiatorResumeMic : Option Bytes
  deriving DecidableEq

structure CaseSigma2Resume where
  resumptionId : Bytes
  resumeMic : Bytes
  responderSessionId : Nat
  deriving DecidableEq

/-- What the steps of a handshake come to outside of the server -/
structure Surroundings where
  crypto : Crypto
  /-- `Crypto.getRandomData(16)` -/
  resumptionId : Bytes
  evictionEnd : EvictionEnd
  sendSigma2Resume : CaseSigma2Resume → Bool
  /-- The peer reports success. -/
  waitForSuccess : Bool
  close : Bool
  storageSet : Bool

inductive ResumptionStep where
  | deriveResumeKey
  | checkResumeMic
  | getNextAvailableSessionId
  | createSecureSession
  | deriveSigma2Key
  | encryptResumeMic
  | sendSigma2Resume
  | waitForSuccess
  | close
  | saveResumptionRecord
  deriving DecidableEq

namespace ResumptionStep

/-- The peer's success report has not been received when the step throws. -/
def BeforeSuccess : ResumptionStep → Prop
  | close | saveResumptionRecord => False
  | _ => True

end ResumptionStep

inductive Outcome where
  /-- No record is selected: the full handshake, or the error for half a resumption -/
  | notResumed
  | threw (step : ResumptionStep)
  | resumed
  deriving DecidableEq

section Handshake

variable (surroundings : Surroundings)

/-- The keys of the session, or nothing where the key derivation throws -/
def sessionContents (record : ResumptionRecord) (peerSessionId : Nat) (salt : Bytes) :
    Option SessionContents :=
  (surroundings.crypto.hkdf record.sharedSecret salt sessionResumptionKeysInfo
      (cryptoSymmetricKeyLength * 3)).map fun keys =>
    { fabric := record.fabric
      peerNodeId := record.peerNodeId
      peerSessionId
      decryptKey := keys.take 16
      encryptKey := (keys.drop 16).take 16
      attestationKey := (keys.drop 32).take 16
      isInitiator := false
      caseAuthenticatedTags := record.caseAuthenticatedTags.getD [] }

variable (state : ManagerState) (sigma1 : CaseSigma1)

/-- The steps behind the message that offers the resumption -/
def finish (entry : PeerAddress × ResumptionRecord) : ManagerState × Outcome :=
  let state := state.setResumptionId entry surroundings.resumptionId
  if surroundings.waitForSuccess then
    if surroundings.close then
      let state := state.setResumptionRecord
        { entry.2 with resumptionId := surroundings.resumptionId }
      if surroundings.storageSet then (state.storeResumptionRecords, .resumed)
      else (state, .threw .saveResumptionRecord)
    else (state, .threw .close)
  else (state, .threw .waitForSuccess)

def respond (entry : PeerAddress × ResumptionRecord) (session : SessionIds.SecureSession) :
    ManagerState × Outcome :=
  match surroundings.crypto.hkdf entry.2.sharedSecret
      (sigma1.initiatorRandom ++ surroundings.resumptionId) kdfsr2KeyInfo
      cryptoSymmetricKeyLength with
  | none => (state, .threw .deriveSigma2Key)
  | some resumeKey =>
    match surroundings.crypto.encrypt resumeKey [] resume2MicNonce with
    | none => (state, .threw .encryptResumeMic)
    | some resumeMic =>
      if surroundings.sendSigma2Resume
          { resumptionId := surroundings.resumptionId
            resumeMic
            responderSessionId := session.id } then
        finish surroundings state entry
      else (state.destroy session.reference, .threw .sendSigma2Resume)

def resume (peerResumptionId peerResumeMic : Bytes) (entry : PeerAddress × ResumptionRecord) :
    ManagerState × Outcome :=
  let reference := state.newReference
  let salt := sigma1.initiatorRandom ++ peerResumptionId
  match surroundings.crypto.hkdf entry.2.sharedSecret salt kdfsr1KeyInfo
      cryptoSymmetricKeyLength with
  | none => (state, .threw .deriveResumeKey)
  | some peerResumeKey =>
    match surroundings.crypto.decrypt peerResumeKey peerResumeMic resume1MicNonce with
    | none => (state, .threw .checkResumeMic)
    | some _ =>
      match state.getNextAvailableSessionId surroundings.evictionEnd with
      | (none, state) => (state, .threw .getNextAvailableSessionId)
      | (some id, state) =>
        match sessionContents surroundings entry.2 sigma1.initiatorSessionId salt with
        | none => (state, .threw .createSecureSession)
        | some contents =>
          respond surroundings (state.addSession ⟨reference, id⟩ contents) sigma1 entry
            ⟨reference, id⟩

def selected : Option (Bytes × Bytes × (PeerAddress × ResumptionRecord)) :=
  match sigma1.resumptionId, sigma1.initiatorResumeMic with
  | some resumptionId, some resumeMic =>
    (state.findResumptionRecordById resumptionId).map fun entry =>
      (resumptionId, resumeMic, entry)
  | _, _ => none

/-- `handleSigma1` behind the receipt of the message -/
def handleSigma1 : ManagerState × Outcome :=
  match selected state sigma1 with
  | none => (state, .notResumed)
  | some (resumptionId, resumeMic, entry) =>
    resume surroundings state sigma1 resumptionId resumeMic entry

end Handshake

/-! ## What a failure leaves -/

structure LeavesNothing (before after : ManagerState) (resumptionId : Bytes)
    (entry : PeerAddress × ResumptionRecord) : Prop where
  sameRecord : after.findResumptionRecordById resumptionId = some entry
  noSession : ∀ session ∈ after.sessions, session ∈ before.sessions

/-- A handshake that throws before the peer's success report changes nothing. -/
def FailsCleanly (surroundings : Surroundings) (state : ManagerState) (sigma1 : CaseSigma1) :
    Prop :=
  ∀ resumptionId resumeMic entry step,
    selected state sigma1 = some (resumptionId, resumeMic, entry) →
      (handleSigma1 surroundings state sigma1).2 = .threw step → step.BeforeSuccess →
        LeavesNothing state (handleSigma1 surroundings state sigma1).1 resumptionId entry

section Conditions

variable (surroundings : Surroundings) (state : ManagerState) (sigma1 : CaseSigma1)

/-- Nothing throws as far as the creation of the session: the MIC is right, there is a session
id, and the session keys can be derived. -/
structure CreatesSession (resumptionId resumeMic : Bytes) (record : ResumptionRecord) : Prop where
  micIsRight : ∃ peerResumeKey, surroundings.crypto.hkdf record.sharedSecret
      (sigma1.initiatorRandom ++ resumptionId) kdfsr1KeyInfo cryptoSymmetricKeyLength =
        some peerResumeKey ∧
    (surroundings.crypto.decrypt peerResumeKey resumeMic resume1MicNonce).isSome
  hasId : (state.getNextAvailableSessionId surroundings.evictionEnd).1.isSome
  hasKeys : (surroundings.crypto.hkdf record.sharedSecret
    (sigma1.initiatorRandom ++ resumptionId) sessionResumptionKeysInfo
    (cryptoSymmetricKeyLength * 3)).isSome

/-- Nothing throws from there on until the peer reports success. -/
def ReceivesSuccess (record : ResumptionRecord) (sessionId : Nat) : Prop :=
  (∃ resumeKey resumeMic,
    surroundings.crypto.hkdf record.sharedSecret
      (sigma1.initiatorRandom ++ surroundings.resumptionId) kdfsr2KeyInfo
      cryptoSymmetricKeyLength = some resumeKey ∧
    surroundings.crypto.encrypt resumeKey [] resume2MicNonce = some resumeMic ∧
    surroundings.sendSigma2Resume
      { resumptionId := surroundings.resumptionId
        resumeMic
        responderSessionId := sessionId } = true) ∧
  surroundings.waitForSuccess = true

/-- The handshake with the selected record, if any, throws before its session is created, or
not before the peer reports success. -/
def FailsEarlyOrLate : Prop :=
  ∀ resumptionId resumeMic entry,
    selected state sigma1 = some (resumptionId, resumeMic, entry) →
      CreatesSession surroundings state sigma1 resumptionId resumeMic entry.2 →
        ∃ sessionId, (state.getNextAvailableSessionId surroundings.evictionEnd).1 = some sessionId ∧
          ReceivesSuccess surroundings sigma1 entry.2 sessionId

end Conditions

namespace ManagerState

theorem ne_newReference {state : ManagerState} {session : SessionIds.SecureSession}
    (member : session ∈ state.sessions) : session.reference ≠ state.newReference := by
  have bounded : session.reference ≤ (state.sessions.map SecureSession.reference).foldr max 0 :=
    List.le_max_of_le' 0 (List.mem_map_of_mem member) le_rfl
  rw [newReference]
  omega

theorem entries_getNextAvailableSessionId (manager : SessionIds.SessionManager) :
    manager.getNextAvailableSessionId.2.sessions.entries = manager.sessions.entries := by
  have swept := SessionIds.SessionManager.swept_sweep 0xffff manager
  rw [SessionIds.SessionManager.getNextAvailableSessionId]
  generalize SessionIds.SessionManager.sweep 0xffff manager = outcome at swept ⊢
  rcases outcome with ⟨found, after⟩
  cases found with
  | some id => exact swept.entries
  | none =>
    cases oldest : after.findOldestInactiveSession with
    | ok session =>
      simp only [oldest]
      exact swept.entries
    | error error =>
      simp only [oldest]
      exact swept.entries

theorem getNextAvailableSessionId_keeps (state : ManagerState) (evictionEnd : EvictionEnd) :
    (∀ session ∈ (state.getNextAvailableSessionId evictionEnd).2.sessions,
        session ∈ state.sessions) ∧
      (state.getNextAvailableSessionId evictionEnd).2.resumptionRecords =
        state.resumptionRecords := by
  have entries := entries_getNextAvailableSessionId state.ids
  rw [getNextAvailableSessionId]
  generalize state.ids.getNextAvailableSessionId = outcome at entries ⊢
  rcases outcome with ⟨result, ids⟩
  have fewer : ∀ oldest, ∀ session ∈ (ids.sessions.delete oldest).entries,
      session ∈ state.sessions := by
    intro oldest session member
    rw [sessions, ← entries]
    exact (BasicSet.mem_delete.mp member).1
  have same : ∀ session ∈ ids.sessions.entries, session ∈ state.sessions := by
    intro session member
    rwa [sessions, ← entries]
  cases result with
  | returned id => exact ⟨same, rfl⟩
  | thrown error => exact ⟨same, rfl⟩
  | evicting oldest =>
    cases evictionEnd with
    | ended => exact ⟨fewer oldest, rfl⟩
    | failedOpen => exact ⟨same, rfl⟩
    | failedDeleted => exact ⟨fewer oldest, rfl⟩

end ManagerState

/-! ## The steps around the creation -/

section Proofs

variable {surroundings : Surroundings} {state : ManagerState} {sigma1 : CaseSigma1}
  {resumptionId resumeMic : Bytes} {entry : PeerAddress × ResumptionRecord}

theorem LeavesNothing.of_keeps {after : ManagerState}
    (found : state.findResumptionRecordById resumptionId = some entry)
    (keeps : (∀ session ∈ after.sessions, session ∈ state.sessions) ∧
      after.resumptionRecords = state.resumptionRecords) :
    LeavesNothing state after resumptionId entry where
  sameRecord := by
    rw [ManagerState.findResumptionRecordById, keeps.2]
    exact found
  noSession := keeps.1

theorem resume_of_not_createsSession
    (found : state.findResumptionRecordById resumptionId = some entry)
    (fails : ¬CreatesSession surroundings state sigma1 resumptionId resumeMic entry.2) :
    LeavesNothing state (resume surroundings state sigma1 resumptionId resumeMic entry).1
      resumptionId entry := by
  have unchanged : LeavesNothing state state resumptionId entry :=
    .of_keeps found ⟨fun _ member => member, rfl⟩
  have keeps := state.getNextAvailableSessionId_keeps surroundings.evictionEnd
  rw [resume]
  cases derived : surroundings.crypto.hkdf entry.2.sharedSecret
      (sigma1.initiatorRandom ++ resumptionId) kdfsr1KeyInfo cryptoSymmetricKeyLength with
  | none => exact unchanged
  | some peerResumeKey =>
    cases checked : surroundings.crypto.decrypt peerResumeKey resumeMic resume1MicNonce with
    | none =>
      simp only [checked]
      exact unchanged
    | some plain =>
      cases next : state.getNextAvailableSessionId surroundings.evictionEnd with
      | mk id after =>
        rw [next] at keeps
        simp only [checked]
        cases id with
        | none => exact .of_keeps found keeps
        | some id =>
          cases keys : surroundings.crypto.hkdf entry.2.sharedSecret
              (sigma1.initiatorRandom ++ resumptionId) sessionResumptionKeysInfo
              (cryptoSymmetricKeyLength * 3) with
          | none =>
            simp only [sessionContents, keys]
            exact .of_keeps found keeps
          | some keys' =>
            refine absurd ⟨⟨peerResumeKey, derived, ?_⟩, ?_, ?_⟩ fails
            · rw [checked]
              rfl
            · rw [next]
              rfl
            · rw [keys]
              rfl

theorem resume_of_createsSession
    (creates : CreatesSession surroundings state sigma1 resumptionId resumeMic entry.2) :
    ∃ id between, (state.getNextAvailableSessionId surroundings.evictionEnd).1 = some id ∧
      ⟨state.newReference, id⟩ ∈ between.sessions ∧
      resume surroundings state sigma1 resumptionId resumeMic entry =
        respond surroundings between sigma1 entry ⟨state.newReference, id⟩ := by
  rcases creates.micIsRight with ⟨peerResumeKey, derived, checked⟩
  rcases Option.isSome_iff_exists.mp checked with ⟨plain, isPlain⟩
  rcases Option.isSome_iff_exists.mp creates.hasId with ⟨id, isId⟩
  rcases Option.isSome_iff_exists.mp creates.hasKeys with ⟨keys, isKeys⟩
  cases next : state.getNextAvailableSessionId surroundings.evictionEnd with
  | mk found after =>
    rw [next] at isId
    subst isId
    have hasContents : ∃ contents, sessionContents surroundings entry.2
        sigma1.initiatorSessionId (sigma1.initiatorRandom ++ resumptionId) = some contents := by
      rw [sessionContents, isKeys]
      exact ⟨_, rfl⟩
    rcases hasContents with ⟨contents, isContents⟩
    refine ⟨id, after.addSession ⟨state.newReference, id⟩ contents, rfl,
      BasicSet.mem_add.mpr (.inr rfl), ?_⟩
    simp [resume, derived, isPlain, next, isContents]

theorem respond_cases {session : SessionIds.SecureSession} (isThere : session ∈ state.sessions) :
    (ReceivesSuccess surroundings sigma1 entry.2 session.id ∧
      ∀ step, (respond surroundings state sigma1 entry session).2 = .threw step →
        ¬step.BeforeSuccess) ∨
    (¬ReceivesSuccess surroundings sigma1 entry.2 session.id ∧
      (∃ step, (respond surroundings state sigma1 entry session).2 = .threw step ∧
        step.BeforeSuccess) ∧
      session ∈ (respond surroundings state sigma1 entry session).1.sessions) := by
  rw [respond]
  cases derived : surroundings.crypto.hkdf entry.2.sharedSecret
      (sigma1.initiatorRandom ++ surroundings.resumptionId) kdfsr2KeyInfo
      cryptoSymmetricKeyLength with
  | none =>
    refine .inr ⟨?_, ⟨_, rfl, trivial⟩, isThere⟩
    rintro ⟨⟨resumeKey, _, isKey, _⟩, _⟩
    rw [derived] at isKey
    cases isKey
  | some resumeKey =>
    cases encrypted : surroundings.crypto.encrypt resumeKey [] resume2MicNonce with
    | none =>
      simp only [encrypted]
      refine .inr ⟨?_, ⟨_, rfl, trivial⟩, isThere⟩
      rintro ⟨⟨other, mic, isKey, isMic, _⟩, _⟩
      rw [derived] at isKey
      rw [← Option.some.inj isKey, encrypted] at isMic
      cases isMic
    | some mic =>
      simp only [encrypted]
      by_cases sends : surroundings.sendSigma2Resume
          { resumptionId := surroundings.resumptionId
            resumeMic := mic
            responderSessionId := session.id } = true
      · rw [if_pos sends, finish]
        by_cases success : surroundings.waitForSuccess = true
        · rw [if_pos success]
          refine .inl ⟨⟨⟨resumeKey, mic, derived, encrypted, sends⟩, success⟩, ?_⟩
          intro step thrown
          cases closes : surroundings.close with
          | false =>
            rw [closes] at thrown
            cases thrown
            exact id
          | true =>
            rw [closes] at thrown
            cases stores : surroundings.storageSet with
            | false =>
              rw [stores] at thrown
              cases thrown
              exact id
            | true =>
              rw [stores] at thrown
              cases thrown
        · rw [if_neg success]
          exact .inr ⟨fun received => success received.2, ⟨_, rfl, trivial⟩, isThere⟩
      · rw [if_neg sends]
        refine .inr ⟨?_, ⟨_, rfl, trivial⟩, isThere⟩
        rintro ⟨⟨other, otherMic, isKey, isMic, sent⟩, _⟩
        rw [derived] at isKey
        rw [← Option.some.inj isKey, encrypted] at isMic
        rw [← Option.some.inj isMic] at sent
        exact sends sent

theorem handleSigma1_of_selected
    (isSelected : selected state sigma1 = some (resumptionId, resumeMic, entry)) :
    handleSigma1 surroundings state sigma1 =
      resume surroundings state sigma1 resumptionId resumeMic entry := by
  rw [handleSigma1, isSelected]

theorem find_of_selected
    (isSelected : selected state sigma1 = some (resumptionId, resumeMic, entry)) :
    state.findResumptionRecordById resumptionId = some entry := by
  rw [selected] at isSelected
  cases isId : sigma1.resumptionId with
  | none =>
    rw [isId] at isSelected
    cases isSelected
  | some id =>
    cases isMic : sigma1.initiatorResumeMic with
    | none =>
      rw [isId, isMic] at isSelected
      cases isSelected
    | some mic =>
      rw [isId, isMic] at isSelected
      rcases Option.map_eq_some_iff.mp isSelected with ⟨found, isFound, same⟩
      cases same
      exact isFound

end Proofs

/-- A failed resumption changes nothing exactly when it fails before the session is created or
after the peer's success report. -/
theorem failsCleanly_iff (surroundings : Surroundings) (state : ManagerState)
    (sigma1 : CaseSigma1) :
    FailsCleanly surroundings state sigma1 ↔ FailsEarlyOrLate surroundings state sigma1 := by
  constructor
  · intro clean resumptionId resumeMic entry isSelected creates
    rcases resume_of_createsSession creates with ⟨id, between, isId, isThere, continues⟩
    refine ⟨id, isId, ?_⟩
    rcases @respond_cases surroundings between sigma1 entry _ isThere with
      ⟨received, _⟩ | ⟨_, ⟨step, thrown, before⟩, stays⟩
    · exact received
    · have handled : handleSigma1 surroundings state sigma1 =
          respond surroundings between sigma1 entry ⟨state.newReference, id⟩ := by
        rw [handleSigma1_of_selected isSelected, continues]
      rw [← handled] at thrown stays
      have left := clean resumptionId resumeMic entry step isSelected thrown before
      have old := left.noSession _ stays
      exact absurd rfl (ManagerState.ne_newReference old)
  · intro earlyOrLate resumptionId resumeMic entry step isSelected thrown before
    rw [handleSigma1_of_selected isSelected] at thrown ⊢
    by_cases creates : CreatesSession surroundings state sigma1 resumptionId resumeMic entry.2
    · rcases earlyOrLate resumptionId resumeMic entry isSelected creates with
        ⟨sessionId, isSessionId, received⟩
      rcases resume_of_createsSession creates with ⟨id, between, isId, isThere, continues⟩
      rw [isId, Option.some.injEq] at isSessionId
      subst isSessionId
      rw [continues] at thrown
      rcases @respond_cases surroundings between sigma1 entry _ isThere with
        ⟨_, late⟩ | ⟨notReceived, _⟩
      · exact absurd before (late step thrown)
      · exact absurd received notReceived
    · exact resume_of_not_createsSession (find_of_selected isSelected) creates

/-- Nothing throws but the wait for the peer's report. -/
def silentPeer : Surroundings where
  crypto :=
    { hkdf := fun _ _ _ length => some (List.replicate length 0)
      encrypt := fun _ data _ => some (data ++ List.replicate 16 0)
      decrypt := fun _ data _ => some (data.take (data.length - 16)) }
  resumptionId := [8]
  evictionEnd := .ended
  sendSigma2Resume := fun _ => true
  waitForSuccess := false
  close := true
  storageSet := true

def heldEntry : PeerAddress × ResumptionRecord :=
  (⟨2, 9⟩,
    { sharedSecret := [1]
      resumptionId := [7]
      fabric := ResumptionRecords.fabricOf 2 7 [4, 2]
      peerNodeId := 9
      sessionParameters := StoredSessionParameters.restore
        ⟨none, none, none, none, none, none, none, none, none⟩
      caseAuthenticatedTags := none })

def oneRecord : ManagerState where
  ids := .new 1
  contents := fun _ => none
  resumptionRecords := OrderedMap.empty.set heldEntry.1 heldEntry.2
  storedRecords := []

def offer : CaseSigma1 where
  initiatorRandom := [3]
  initiatorSessionId := 5
  resumptionId := some [7]
  initiatorResumeMic := some (List.replicate 16 0)

/-- The record is left with the id that the peer was told last, and the session stays. -/
theorem failsCleanly_silentPeer_false : ¬FailsCleanly silentPeer oneRecord offer := by
  intro clean
  have left := clean [7] (List.replicate 16 0) heldEntry .waitForSuccess (by decide +kernel)
    (by decide +kernel) trivial
  exact absurd left.sameRecord (by decide +kernel)

end MatterJs.Protocol.SessionResumption
