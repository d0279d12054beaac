import MatterJs.Protocol.CaseHandshakes

/-! When a removed fabric keeps no access: no session and no resumption record, in memory or
stored. -/

namespace MatterJs.Protocol.CaseHandshakes

open General Execution

namespace Managers

def Executing (managers : Managers) (currentSessionId : Option Nat) (session : SecureSession) :
    Prop :=
  some session.id = currentSessionId ∧ managers.closingAfterExchangeFinished session = true

structure NoAccess (managers : Managers) (fabric : FabricObject) (currentSessionId : Option Nat) :
    Prop where
  sessions : ∀ session ∈ managers.sessions, session.fabric = fabric →
    managers.Executing currentSessionId session
  records : ∀ record ∈ managers.resumptionRecords.values, record.fabric ≠ fabric
  stored : ∀ stored ∈ managers.storedRecords, stored.fabric ≠ fabric

def Listed (managers : Managers) (fabric : FabricObject) : Prop :=
  match managers.removals fabric with
  | .destroying _ _ | .completed _ => True
  | _ => False

def Deleted (managers : Managers) (fabric : FabricObject) : Prop :=
  match managers.deletions fabric with
  | .notStarted | .construction => False
  | _ => True

end Managers

/-- The removal has completed, with the deletion of the records, and no handshake with the
fabric is in flight. -/
structure Over (state : State) (fabric : FabricObject) (currentSessionId : Option Nat) :
    Prop where
  removal : state.managers.removals fabric = .completed currentSessionId
  deletion : state.managers.deletions fabric = .completed
  ended : ∀ handshake, .chosen handshake ∈ state.handshakes.values → handshake.fabric ≠ fabric

def RemovedKeepNoAccess (state : State) : Prop :=
  ∀ fabric currentSessionId, Over state fabric currentSessionId →
    state.managers.NoAccess fabric currentSessionId

/-- What a handshake does next comes in time. A session of its fabric is created before the
removal lists the sessions, is registered before it is destroyed, and is not left for an
exchange to end before they are listed; a record is saved before those of the fabric are
deleted. -/
def Handshake.Timely (managers : Managers) (handshake : Handshake) : Prop :=
  match handshake.stage with
  | .deriveSessionKeys => ¬managers.Listed handshake.fabric
  | .createSession session => session ∈ managers.sessions
  | .destroySession session => session ∉ managers.sessions ∨ managers.Listed session.fabric
  | .constructionToSave => ¬managers.Deleted (handshake.record managers.nextReference).fabric
  | _ => True

def Timely (state : State) : Event → Prop
  | .proceeds exchange _ =>
    ∀ handshake, state.handshakes.get exchange = some (.chosen handshake) →
      handshake.Timely state.managers
  | _ => True

namespace Managers

def Covers (managers : Managers) (session : SecureSession) : Removal → Prop
  | .destroying currentSessionId sessions =>
    session ∈ sessions ∨ managers.Executing currentSessionId session
  | .completed currentSessionId => managers.Executing currentSessionId session
  | .failed => True
  | _ => session ∈ managers.fabricSessions session.fabric

structure Guarded (managers : Managers) : Prop where
  covered : ∀ session ∈ managers.sessions,
    managers.Covers session (managers.removals session.fabric)
  ofFabric : ∀ fabric, ∀ session ∈ managers.fabricSessions fabric, session.fabric = fabric
  listed : ∀ fabric currentSessionId sessions,
    managers.removals fabric = .destroying currentSessionId sessions →
      ∀ session ∈ sessions, session.fabric = fabric
  keyed : ∀ address record, managers.resumptionRecords.get address = some record →
    record.address = address
  records : ∀ address record, managers.resumptionRecords.get address = some record →
    ¬managers.Deleted record.fabric
  stored : ∀ stored ∈ managers.storedRecords,
    managers.deletions stored.fabric ≠ .storageSet ∧ managers.deletions stored.fabric ≠ .completed

variable {managers : Managers}

variable {session other : SecureSession} {removal : Removal} {fabric : FabricObject}
  {record : ResumptionRecord} {address : PeerAddress}

theorem covers_of_not_listed (notListed : ¬managers.Listed session.fabric)
    (onFabric : session ∈ managers.fabricSessions session.fabric) :
    managers.Covers session (managers.removals session.fabric) := by
  rw [Listed] at notListed
  cases phase : managers.removals session.fabric with
  | destroying currentSessionId sessions => exact absurd trivial (by rwa [phase] at notListed)
  | completed currentSessionId => exact absurd trivial (by rwa [phase] at notListed)
  | failed => trivial
  | notStarted => exact onFabric
  | construction currentSessionId => exact onFabric
  | persistFabrics currentSessionId deleted => exact onFabric
  | callbacks currentSessionId => exact onFabric

theorem Covers.mono {after : Managers} (covers : managers.Covers session removal)
    (onFabric : session ∈ managers.fabricSessions session.fabric →
      session ∈ after.fabricSessions session.fabric)
    (marked : managers.closingAfterExchangeFinished session = true →
      after.closingAfterExchangeFinished session = true) :
    after.Covers session removal := by
  have executing : ∀ currentSessionId, managers.Executing currentSessionId session →
      after.Executing currentSessionId session :=
    fun _ executing => ⟨executing.1, marked executing.2⟩
  cases removal with
  | destroying currentSessionId sessions => exact covers.imp_right (executing _)
  | completed currentSessionId => exact executing _ covers
  | failed => trivial
  | notStarted => exact onFabric covers
  | construction currentSessionId => exact onFabric covers
  | persistFabrics currentSessionId deleted => exact onFabric covers
  | callbacks currentSessionId => exact onFabric covers

theorem mem_update_fabricSessions {fabricSessions : FabricObject → List SecureSession}
    {other : FabricObject} {sessions : List SecureSession}
    (member : session ∈ Function.update fabricSessions fabric sessions other) :
    (other = fabric ∧ session ∈ sessions) ∨ session ∈ fabricSessions other := by
  by_cases same : other = fabric
  · rw [same, Function.update_self] at member
    exact .inl ⟨same, member⟩
  · rw [Function.update_of_ne same] at member
    exact .inr member

theorem fabricSessions_addSession (session : SecureSession) (fabric : FabricObject) :
    (managers.addSession session).fabricSessions fabric =
      Function.update managers.fabricSessions session.fabric
        ((managers.fabricSessions session.fabric).insert session) fabric := rfl

theorem fabricSessions_removeFromFabric (session : SecureSession) (fabric : FabricObject) :
    (managers.removeFromFabric session).fabricSessions fabric =
      Function.update managers.fabricSessions session.fabric
        ((managers.fabricSessions session.fabric).filter (· ≠ session)) fabric := rfl

theorem closing_destroy (session other : SecureSession) :
    (managers.destroy session true).closingAfterExchangeFinished other =
      Function.update managers.closingAfterExchangeFinished session true other := rfl

theorem Guarded.addSession (guarded : managers.Guarded) {session : SecureSession}
    (notListed : ¬managers.Listed session.fabric) : (managers.addSession session).Guarded :=
  { guarded with
    covered := by
      have onFabric : session ∈ (managers.addSession session).fabricSessions session.fabric := by
        rw [fabricSessions_addSession, Function.update_self]
        exact List.mem_insert_self
      have stays : ∀ other ∈ managers.fabricSessions other.fabric,
          other ∈ (managers.addSession session).fabricSessions other.fabric := by
        intro other member
        rw [fabricSessions_addSession]
        by_cases same : other.fabric = session.fabric
        · rw [same, Function.update_self]
          rw [same] at member
          exact List.mem_insert_of_mem member
        · rwa [Function.update_of_ne same]
      intro other member
      rcases List.mem_insert_iff.mp member with rfl | isThere
      · exact covers_of_not_listed notListed onFabric
      · exact (guarded.covered other isThere).mono (stays other) id
    ofFabric := by
      intro fabric other member
      rcases mem_update_fabricSessions member with ⟨rfl, inserted⟩ | isThere
      · rcases List.mem_insert_iff.mp inserted with rfl | isThere
        · rfl
        · exact guarded.ofFabric _ other isThere
      · exact guarded.ofFabric fabric other isThere }

theorem registerSession_eq_self (isThere : session ∈ managers.sessions) :
    managers.registerSession session = managers := by
  rw [registerSession, List.insert_of_mem isThere]

theorem mem_removeFromFabric (different : other ≠ session)
    (member : other ∈ managers.fabricSessions other.fabric) :
    other ∈ (managers.removeFromFabric session).fabricSessions other.fabric := by
  rw [fabricSessions_removeFromFabric]
  by_cases same : other.fabric = session.fabric
  · rw [same, Function.update_self]
    rw [same] at member
    exact List.mem_filter.mpr ⟨member, decide_eq_true different⟩
  · rwa [Function.update_of_ne same]

theorem ofFabric_removeFromFabric (guarded : managers.Guarded) (session : SecureSession)
    (member : other ∈ (managers.removeFromFabric session).fabricSessions fabric) :
    other.fabric = fabric := by
  rcases mem_update_fabricSessions member with ⟨rfl, left⟩ | isThere
  · exact guarded.ofFabric _ other (List.mem_filter.mp left).1
  · exact guarded.ofFabric fabric other isThere

theorem covers_destroy (guarded : managers.Guarded) (closeAfterExchangeFinished : Bool)
    (different : other ≠ session) (isThere : other ∈ managers.sessions) :
    (managers.destroy session closeAfterExchangeFinished).Covers other
      (managers.removals other.fabric) := by
  apply (guarded.covered other isThere).mono
  · intro member
    cases closeAfterExchangeFinished <;> exact mem_removeFromFabric different member
  · intro marked
    cases closeAfterExchangeFinished with
    | false => exact marked
    | true =>
      rwa [closing_destroy, Function.update_of_ne different]

theorem mem_sessions_destroy {closeAfterExchangeFinished : Bool}
    (member : other ∈ (managers.destroy session closeAfterExchangeFinished).sessions) :
    other ∈ managers.sessions ∧ (other = session → closeAfterExchangeFinished = true) := by
  cases closeAfterExchangeFinished with
  | true => exact ⟨member, fun _ => rfl⟩
  | false =>
    rcases List.mem_filter.mp member with ⟨isThere, different⟩
    exact ⟨isThere, fun same => absurd same (of_decide_eq_true different)⟩

theorem Guarded.destroy (guarded : managers.Guarded) {session : SecureSession}
    {closeAfterExchangeFinished : Bool}
    (marked : closeAfterExchangeFinished = true →
      session ∉ managers.sessions ∨ managers.Listed session.fabric) :
    (managers.destroy session closeAfterExchangeFinished).Guarded where
  covered := by
    intro other member
    have removals : (managers.destroy session closeAfterExchangeFinished).removals =
        managers.removals := by cases closeAfterExchangeFinished <;> rfl
    rcases mem_sessions_destroy member with ⟨isThere, isMarked⟩
    rw [removals]
    by_cases same : other = session
    · subst same
      rcases marked (isMarked rfl) with absent | listed
      · exact absurd isThere absent
      · have covers := guarded.covered other isThere
        have isClosing :
            (managers.destroy other true).closingAfterExchangeFinished other = true := by
          rw [closing_destroy, Function.update_self]
        rw [isMarked rfl]
        rw [Listed] at listed
        cases phase : managers.removals other.fabric with
        | destroying currentSessionId sessions =>
          rw [phase] at covers
          exact covers.imp_right fun executing => ⟨executing.1, isClosing⟩
        | completed currentSessionId =>
          rw [phase] at covers
          exact ⟨covers.1, isClosing⟩
        | failed => trivial
        | notStarted => exact absurd listed (by rw [phase]; exact id)
        | construction currentSessionId => exact absurd listed (by rw [phase]; exact id)
        | persistFabrics currentSessionId deleted => exact absurd listed (by rw [phase]; exact id)
        | callbacks currentSessionId => exact absurd listed (by rw [phase]; exact id)
    · exact covers_destroy guarded closeAfterExchangeFinished same isThere
  ofFabric := by
    intro fabric other member
    cases closeAfterExchangeFinished <;> exact ofFabric_removeFromFabric guarded session member
  listed := by
    cases closeAfterExchangeFinished <;> exact guarded.listed
  keyed := by
    cases closeAfterExchangeFinished <;> exact guarded.keyed
  records := by
    cases closeAfterExchangeFinished <;> exact guarded.records
  stored := by
    cases closeAfterExchangeFinished <;> exact guarded.stored

theorem Guarded.setResumptionRecord (guarded : managers.Guarded)
    (notDeleted : ¬managers.Deleted record.fabric) :
    (managers.setResumptionRecord record).Guarded :=
  { guarded with
    keyed := by
      intro address other found
      change (managers.resumptionRecords.set record.address record).get address = _ at found
      rw [OrderedMap.get_set] at found
      by_cases same : address = record.address
      · rw [if_pos same] at found
        rw [← Option.some.inj found, same]
      · rw [if_neg same] at found
        exact guarded.keyed address other found
    records := by
      intro address other found
      change (managers.resumptionRecords.set record.address record).get address = _ at found
      rw [OrderedMap.get_set] at found
      by_cases same : address = record.address
      · rw [if_pos same] at found
        rw [← Option.some.inj found]
        exact notDeleted
      · rw [if_neg same] at found
        exact guarded.records address other found }

theorem fabric_of_stored {stored : StoredRecord}
    (member : stored ∈ managers.storeResumptionRecords.storedRecords) :
    ∃ address record, managers.resumptionRecords.get address = some record ∧
      record.fabric = stored.fabric := by
  rcases List.mem_map.mp member with ⟨record, isRecord, rfl⟩
  rcases (OrderedMap.mem_values_iff _ _).mp isRecord with ⟨address, found⟩
  exact ⟨address, record, found, rfl⟩

theorem Guarded.storeResumptionRecords (guarded : managers.Guarded) :
    managers.storeResumptionRecords.Guarded :=
  { guarded with
    stored := by
      intro stored member
      rcases fabric_of_stored member with ⟨address, record, found, same⟩
      have notDeleted := guarded.records address record found
      rw [same, Deleted] at notDeleted
      constructor
      · intro phase
        rw [show managers.deletions stored.fabric = .storageSet from phase] at notDeleted
        exact notDeleted trivial
      · intro phase
        rw [show managers.deletions stored.fabric = .completed from phase] at notDeleted
        exact notDeleted trivial }

theorem get_foldl_delete (fabricIndex : Nat) (addresses : List PeerAddress)
    (records : OrderedMap PeerAddress ResumptionRecord)
    (found : (addresses.foldl (fun records address =>
      if address.fabricIndex = fabricIndex then records.delete address else records)
      records).get address = some record) :
    records.get address = some record ∧
      (address ∈ addresses → address.fabricIndex ≠ fabricIndex) := by
  induction addresses generalizing records with
  | nil => exact ⟨found, nofun⟩
  | cons first addresses induction =>
    rcases induction _ found with ⟨later, other⟩
    dsimp only at later
    by_cases matched : first.fabricIndex = fabricIndex
    · rw [if_pos matched] at later
      by_cases same : address = first
      · rw [same, OrderedMap.get_delete_self] at later
        cases later
      · rw [OrderedMap.get_delete_of_ne _ same] at later
        exact ⟨later, fun member => other (List.mem_of_ne_of_mem same member)⟩
    · rw [if_neg matched] at later
      refine ⟨later, fun member => ?_⟩
      rcases List.mem_cons.mp member with rfl | isLater
      · exact matched
      · exact other isLater

/-- What is left is under other indices. -/
theorem get_deleteResumptionRecords
    (found : (managers.deleteResumptionRecords fabric).resumptionRecords.get address =
      some record) :
    managers.resumptionRecords.get address = some record ∧
      address.fabricIndex ≠ fabric.fabricIndex := by
  rcases get_foldl_delete fabric.fabricIndex managers.resumptionRecords.keys
    managers.resumptionRecords found with ⟨isThere, other⟩
  exact ⟨isThere, other ((OrderedMap.mem_keys_iff _ _).mpr ⟨record, isThere⟩)⟩

theorem Guarded.deleteResumptionRecords (guarded : managers.Guarded) (fabric : FabricObject) :
    (managers.deleteResumptionRecords fabric).Guarded :=
  { guarded with
    keyed := fun address record found =>
      guarded.keyed address record (get_deleteResumptionRecords found).1
    records := fun address record found =>
      guarded.records address record (get_deleteResumptionRecords found).1 }

theorem Guarded.ne_of_deleted (guarded : managers.Guarded)
    (found : (managers.deleteResumptionRecords fabric).resumptionRecords.get address =
      some record) :
    record.fabric ≠ fabric := by
  rcases get_deleteResumptionRecords found with ⟨isThere, otherIndex⟩
  rintro rfl
  apply otherIndex
  rw [← guarded.keyed address record isThere]
  rfl

/-! ## The phases of a removal -/

theorem deletions_setDeletion (fabric other : FabricObject) (deletion : Deletion) :
    (managers.setDeletion fabric deletion).deletions other =
      Function.update managers.deletions fabric deletion other := rfl

theorem removals_setRemoval (fabric other : FabricObject) (removal : Removal) :
    (managers.setRemoval fabric removal).removals other =
      Function.update managers.removals fabric removal other := rfl

variable (guarded : managers.Guarded)

include guarded

theorem Guarded.setRemoval (covered : ∀ session ∈ managers.sessions, session.fabric = fabric →
      managers.Covers session removal)
    (listed : ∀ currentSessionId sessions, removal = .destroying currentSessionId sessions →
      ∀ session ∈ sessions, session.fabric = fabric) :
    (managers.setRemoval fabric removal).Guarded :=
  { guarded with
    covered := by
      intro session member
      rw [removals_setRemoval]
      by_cases same : session.fabric = fabric
      · rw [same, Function.update_self]
        exact (covered session member same).mono id id
      · rw [Function.update_of_ne same]
        exact (guarded.covered session member).mono id id
    listed := by
      intro other currentSessionId sessions phase
      rw [removals_setRemoval] at phase
      by_cases same : other = fabric
      · rw [same, Function.update_self] at phase
        rw [same]
        exact listed currentSessionId sessions phase
      · rw [Function.update_of_ne same] at phase
        exact guarded.listed other currentSessionId sessions phase }

theorem Guarded.setDeletion {deletion : Deletion}
    (records : ∀ address record, managers.resumptionRecords.get address = some record →
      record.fabric = fabric → deletion = .construction)
    (stored : ∀ stored ∈ managers.storedRecords, stored.fabric = fabric →
      deletion ≠ .storageSet ∧ deletion ≠ .completed) :
    (managers.setDeletion fabric deletion).Guarded :=
  { guarded with
    records := by
      intro address record found
      rw [Deleted, deletions_setDeletion]
      by_cases same : record.fabric = fabric
      · rw [same, Function.update_self, records address record found same]
        exact id
      · rw [Function.update_of_ne same]
        exact guarded.records address record found
    stored := by
      intro other member
      rw [deletions_setDeletion]
      by_cases same : other.fabric = fabric
      · rw [same, Function.update_self]
        exact stored other member same
      · rw [Function.update_of_ne same]
        exact guarded.stored other member }

theorem Guarded.covers_of_removal (phase : managers.removals fabric = removal) :
    ∀ session ∈ managers.sessions, session.fabric = fabric → managers.Covers session removal := by
  intro session member same
  have covers := guarded.covered session member
  rwa [same, phase] at covers

theorem Guarded.fail (fabric : FabricObject) :
    (managers.setRemoval fabric .failed).Guarded :=
  guarded.setRemoval (fun _ _ _ => trivial) nofun

theorem Guarded.remove (fabric : FabricObject)
    (currentSessionId : Option Nat) : (managers.remove fabric currentSessionId).Guarded := by
  rw [Managers.remove]
  split
  · rename_i phase
    have covers := guarded.covers_of_removal phase
    split
    · exact guarded.setRemoval covers fun _ _ phase => by cases phase
    · exact guarded
  · exact guarded

theorem Guarded.failRemoval (fabric : FabricObject) :
    (managers.failRemoval fabric).Guarded := by
  rw [Managers.failRemoval]
  split
  · exact guarded
  · exact guarded
  · exact guarded.fail fabric

theorem Guarded.destroyListed {currentSessionId : Option Nat} {sessions : List SecureSession}
    (phase : managers.removals fabric = .destroying currentSessionId (session :: sessions)) :
    ((managers.destroy session (some session.id = currentSessionId)).setRemoval fabric
      (.destroying currentSessionId sessions)).Guarded := by
  have ofFabric := guarded.listed fabric currentSessionId _ phase
  have isListed : managers.Listed session.fabric := by
    rw [ofFabric session List.mem_cons_self, Listed, phase]
    trivial
  have destroyed : (managers.destroy session (some session.id = currentSessionId)).Guarded :=
    guarded.destroy fun _ => .inr isListed
  apply destroyed.setRemoval
  · intro other member same
    have covers := destroyed.covered other member
    have removals : (managers.destroy session
        (decide (some session.id = currentSessionId))).removals = managers.removals := by
      cases decide (some session.id = currentSessionId) <;> rfl
    rw [removals, same, phase] at covers
    rcases covers with isThere | executing
    · rcases List.mem_cons.mp isThere with isSession | later
      · have current := (mem_sessions_destroy member).2 isSession
        refine .inr ⟨?_, ?_⟩
        · rw [isSession]
          exact of_decide_eq_true current
        · rw [current, isSession, closing_destroy, Function.update_self]
      · exact .inl later
    · exact .inr executing
  · intro _ _ isPhase other member
    cases isPhase
    exact ofFabric other (List.mem_cons_of_mem _ member)

theorem Guarded.proceedRemoval (fabric : FabricObject) :
    (managers.proceedRemoval fabric).Guarded := by
  rw [Managers.proceedRemoval]
  cases phase : managers.removals fabric with
  | construction currentSessionId =>
    have covers := guarded.covers_of_removal phase
    dsimp only
    split
    · rename_i deleted fabrics isDeleted isRemoved
      have changed : ({ managers with fabrics } : Managers).Guarded := { guarded with }
      exact changed.setRemoval covers nofun
    · exact guarded.fail fabric
  | persistFabrics currentSessionId deleted =>
    have covers := guarded.covers_of_removal phase
    have reported : (managers.setDeletion deleted .construction).Guarded :=
      guarded.setDeletion (fun _ _ _ _ => rfl) fun _ _ _ =>
        ⟨nofun, nofun⟩
    exact reported.setRemoval covers nofun
  | callbacks currentSessionId =>
    apply guarded.setRemoval
    · intro session member same
      have onFabric := guarded.covers_of_removal phase session member same
      rw [← same]
      exact .inl onFabric
    · intro _ _ isPhase session member
      cases isPhase
      exact guarded.ofFabric fabric session member
  | destroying currentSessionId sessions =>
    cases sessions with
    | cons session sessions => exact guarded.destroyListed phase
    | nil =>
      apply guarded.setRemoval
      · intro session member same
        have covers := guarded.covers_of_removal phase session member same
        exact covers.resolve_left List.not_mem_nil
      · intro _ _ isPhase
        cases isPhase
  | notStarted => exact guarded
  | completed currentSessionId => exact guarded
  | failed => exact guarded

theorem Guarded.proceedDeletion (fabric : FabricObject) :
    (managers.proceedDeletion fabric).Guarded := by
  rw [Managers.proceedDeletion]
  cases phase : managers.deletions fabric with
  | construction =>
    apply (guarded.deleteResumptionRecords fabric).setDeletion
    · intro address record found same
      exact absurd same (guarded.ne_of_deleted found)
    · intro _ _ _
      exact ⟨nofun, nofun⟩
  | constructionToStore =>
    have gone : ∀ address record, managers.resumptionRecords.get address = some record →
        record.fabric ≠ fabric := by
      intro address record found same
      have notDeleted := guarded.records address record found
      rw [same, Deleted, phase] at notDeleted
      exact notDeleted trivial
    apply guarded.storeResumptionRecords.setDeletion
    · intro address record found same
      exact absurd same (gone address record found)
    · intro stored member same
      rcases fabric_of_stored member with ⟨address, record, found, ofRecord⟩
      exact absurd (ofRecord.trans same) (gone address record found)
  | storageSet =>
    apply guarded.setDeletion
    · intro address record found same
      have notDeleted := guarded.records address record found
      rw [same, Deleted, phase] at notDeleted
      exact absurd trivial notDeleted
    · intro stored member same
      have without := guarded.stored stored member
      rw [same] at without
      exact absurd phase without.1
  | notStarted => exact guarded
  | completed => exact guarded
  | failed => exact guarded

theorem Guarded.failDeletion (fabric : FabricObject) :
    (managers.failDeletion fabric).Guarded := by
  rw [Managers.failDeletion]
  split
  · rename_i phase
    apply guarded.setDeletion
    · intro address record found same
      have notDeleted := guarded.records address record found
      rw [same, Deleted, phase] at notDeleted
      exact absurd trivial notDeleted
    · intro _ _ _
      exact ⟨nofun, nofun⟩
  · exact guarded

theorem Guarded.evict (session : SecureSession) :
    (managers.destroy session false).Guarded :=
  guarded.destroy fun marked => by cases marked

theorem Guarded.endExchange (session : SecureSession) :
    (managers.endExchange session).Guarded := by
  rw [Managers.endExchange]
  split
  · exact guarded.evict session
  · exact guarded

theorem Guarded.addFabric (fabric : FabricObject) :
    (managers.addFabric fabric).Guarded := by
  rw [Managers.addFabric]
  split
  · exact { guarded with }
  · exact guarded

theorem Guarded.setResumptionId (record : ResumptionRecord)
    (resumptionId : Nat) : (managers.setResumptionId record resumptionId).Guarded :=
  { guarded with }

theorem Guarded.takeReference : managers.takeReference.Guarded :=
  { guarded with }

end Managers

/-! ## The handshakes -/

open Managers

variable {managers : Managers}

theorem Managers.Guarded.proceed (guarded : managers.Guarded) {handshake : Handshake}
    (timely : handshake.Timely managers) (yielded : Nat) :
    (handshake.proceed managers yielded).1.Guarded := by
  rw [Handshake.Timely] at timely
  rw [Handshake.proceed]
  cases stage : handshake.stage with
  | deriveSessionKeys =>
    rw [stage] at timely
    exact guarded.takeReference.addSession timely
  | createSession session =>
    rw [stage] at timely
    dsimp only
    rwa [registerSession_eq_self timely]
  | sendSigma2Resume session =>
    cases handshake.resumed with
    | none => exact guarded
    | some record => exact guarded.setResumptionId record _
  | destroySession session =>
    rw [stage] at timely
    dsimp only
    exact guarded.destroy fun _ => timely
  | constructionToSave =>
    rw [stage] at timely
    rw [Handshake.save]
    rw [Handshake.record] at timely
    cases resumed : handshake.resumed with
    | some record =>
      rw [resumed] at timely
      exact guarded.setResumptionRecord timely
    | none =>
      rw [resumed] at timely
      have renamed := guarded.takeReference.setResumptionId
        (handshake.record managers.nextReference) handshake.resumptionId
      apply renamed.setResumptionRecord
      rwa [Handshake.record, resumed]
  | constructionToStore => exact guarded.storeResumptionRecords
  | deriveSigma2Key => exact guarded
  | deriveResumeKey => exact guarded
  | getNextAvailableSessionId => exact guarded
  | sendSigma2 => exact guarded
  | readSigma3 => exact guarded
  | deriveSigma3Key => exact guarded
  | construction => exact guarded
  | createSecureSession session => exact guarded
  | deriveResumeMicKey session => exact guarded
  | waitForSuccess => exact guarded
  | sendSuccess => exact guarded
  | close => exact guarded
  | storageSet => exact guarded

@[simp] theorem managers_setHandshake (state : State) (exchange : Nat)
    (handshake : Option Handshake) :
    (state.setHandshake exchange handshake).managers = state.managers := by
  cases handshake <;> rfl

theorem guarded_step (state : State) (event : Event) (timely : Timely state event)
    (guarded : state.managers.Guarded) : (step state event).managers.Guarded := by
  cases event with
  | started exchange =>
    rw [step]
    split <;> exact guarded
  | sigma1 exchange message resumptionId =>
    rw [step]
    split
    · rwa [managers_setHandshake]
    · exact guarded
  | proceeds exchange yielded =>
    rw [step]
    split
    · rename_i handshake isThere
      rw [managers_setHandshake]
      exact guarded.proceed (timely handshake isThere) yielded
    · exact guarded
  | throws exchange =>
    rw [step]
    split
    · rwa [managers_setHandshake]
    · rwa [managers_setHandshake]
    · exact guarded
  | removed fabric currentSessionId => exact guarded.remove fabric currentSessionId
  | removalProceeds fabric => exact guarded.proceedRemoval fabric
  | removalThrows fabric => exact guarded.failRemoval fabric
  | deletionProceeds fabric => exact guarded.proceedDeletion fabric
  | deletionThrows fabric => exact guarded.failDeletion fabric
  | evicted session => exact guarded.evict session
  | exchangeEnded session => exact guarded.endExchange session
  | fabricAdded fabric => exact guarded.addFabric fabric

theorem Managers.Guarded.removedKeepNoAccess {state : State} (guarded : state.managers.Guarded) :
    RemovedKeepNoAccess state := by
  intro fabric currentSessionId ended
  refine ⟨guarded.covers_of_removal ended.removal, ?_, ?_⟩
  · intro record member same
    rcases (OrderedMap.mem_values_iff _ _).mp member with ⟨address, found⟩
    have notDeleted := guarded.records address record found
    rw [same, Deleted, ended.deletion] at notDeleted
    exact notDeleted trivial
  · intro stored member same
    have without := guarded.stored stored member
    rw [same] at without
    exact without.2 ended.deletion

/-- The managers with sessions and records of any fabrics, before the first handshake and the
first removal -/
def State.initial (fabrics : FabricManager) (sessions : List SecureSession)
    (records : List ResumptionRecord) (resumptionIds : Nat → Nat) (nextReference : Nat) :
    State where
  managers := Managers.storeResumptionRecords
    { fabrics
      fabricSessions := fun fabric => sessions.filter (·.fabric = fabric)
      sessions
      closingAfterExchangeFinished := fun _ => false
      resumptionRecords := records.foldl (fun map record => map.set record.address record) {}
      resumptionIds
      storedRecords := []
      nextReference
      removals := fun _ => .notStarted
      deletions := fun _ => .notStarted }
  handshakes := {}

theorem guarded_initial (fabrics : FabricManager) (sessions : List SecureSession)
    (records : List ResumptionRecord) (resumptionIds : Nat → Nat) (nextReference : Nat) :
    (State.initial fabrics sessions records resumptionIds nextReference).managers.Guarded := by
  apply Guarded.storeResumptionRecords
  constructor
  · intro session member
    exact List.mem_filter.mpr ⟨member, decide_eq_true rfl⟩
  · intro fabric session member
    exact of_decide_eq_true (List.mem_filter.mp member).2
  · intro fabric currentSessionId sessions phase
    cases phase
  · intro address record found
    rw [OrderedMap.get_foldl_set] at found
    cases last : records.reverse.find? fun record => record.address = address with
    | none =>
      rw [last] at found
      cases found
    | some other =>
      rw [last] at found
      cases found
      have same := List.find?_some last
      exact of_decide_eq_true same
  · intro address record _
    exact id
  · intro stored member
    cases member

/-- In every run in which each handshake goes on in time, a removed fabric keeps no access in
any state. -/
theorem removedKeepNoAccess_of_timely (fabrics : FabricManager) (sessions : List SecureSession)
    (records : List ResumptionRecord) (resumptionIds : Nat → Nat) (nextReference : Nat)
    {events : List Event}
    (timely : Along step Timely
      (State.initial fabrics sessions records resumptionIds nextReference) events) :
    ∀ earlier, earlier <+: events → RemovedKeepNoAccess
      (run step (State.initial fabrics sessions records resumptionIds nextReference) earlier) := by
  rintro earlier ⟨later, rfl⟩
  have soFar := ((along_append _ earlier later).mp timely).1
  have guarded := run_invariant_along (fun state => state.managers.Guarded) guarded_step
    (guarded_initial fabrics sessions records resumptionIds nextReference) soFar
  exact guarded.removedKeepNoAccess

/-! ## One fabric and one handshake -/

theorem timely_proceeds {state : State} {exchange yielded : Nat} {handshake : Handshake}
    (isThere : state.handshakes.get exchange = some (.chosen handshake))
    (timely : handshake.Timely state.managers) : Timely state (.proceeds exchange yielded) := by
  intro other isOther
  rw [isThere] at isOther
  cases isOther
  exact timely

def onlyFabric : FabricObject where
  reference := 0
  config :=
    { fabricIndex := 1
      fabricId := 7
      nodeId := 5
      rootNodeId := 1
      rootPublicKey := [4, 1]
      rootVendorId := 0xfff1
      rootCert := []
      identityProtectionKey := []
      intermediateCACert := none
      operationalCert := []
      label := "" }

def onlyFabricAdded : State :=
  .initial (((FabricManager.new [] none).setFabric onlyFabric).installCallbacks onlyFabric)
    [] [] (fun _ => 0) 0

/-- A full handshake with the fabric up to its first await behind the choice -/
def choosesFabric : List Event :=
  [.started 0, .sigma1 0 ⟨none, false, fun fabric => fabric = onlyFabric⟩ 8]

/-- The rest of it, with session 3 for node 9 -/
def completes : List Event :=
  [.proceeds 0 0, .proceeds 0 3, .proceeds 0 0, .proceeds 0 0, .proceeds 0 9, .proceeds 0 0,
    .proceeds 0 0, .proceeds 0 0, .proceeds 0 0, .proceeds 0 0, .proceeds 0 0, .proceeds 0 0,
    .proceeds 0 0, .proceeds 0 0]

/-- The removal, with the end of at most one session -/
def removesFabric : List Event :=
  [.removed onlyFabric none, .removalProceeds onlyFabric, .removalProceeds onlyFabric,
    .removalProceeds onlyFabric, .removalProceeds onlyFabric, .removalProceeds onlyFabric,
    .deletionProceeds onlyFabric, .deletionProceeds onlyFabric, .deletionProceeds onlyFabric]

/-- A handshake that is complete before the removal starts goes on in time. -/
theorem timely_completes_removes :
    Along step Timely onlyFabricAdded (choosesFabric ++ completes ++ removesFabric) :=
  ⟨trivial, trivial, timely_proceeds rfl trivial, timely_proceeds rfl trivial,
    timely_proceeds rfl trivial, timely_proceeds rfl trivial, timely_proceeds rfl trivial,
    timely_proceeds rfl trivial, timely_proceeds rfl id, timely_proceeds rfl List.mem_cons_self,
    timely_proceeds rfl trivial, timely_proceeds rfl trivial, timely_proceeds rfl trivial,
    timely_proceeds rfl id, timely_proceeds rfl trivial, timely_proceeds rfl trivial,
    trivial, trivial, trivial, trivial, trivial, trivial, trivial, trivial, trivial, trivial⟩

/-- Its session is gone with the fabric. -/
theorem removedKeepNoAccess_of_timely_completes :
    (run step onlyFabricAdded (choosesFabric ++ completes)).managers.sessions ≠ [] ∧
      RemovedKeepNoAccess
        (run step onlyFabricAdded (choosesFabric ++ completes ++ removesFabric)) :=
  ⟨by decide +kernel,
    removedKeepNoAccess_of_timely _ _ _ _ _ timely_completes_removes _ (List.prefix_refl _)⟩

/-- A handshake that chose the fabric before the removal leaves a session behind it. -/
theorem removedKeepNoAccess_late_false :
    ¬RemovedKeepNoAccess
      (run step onlyFabricAdded (choosesFabric ++ removesFabric ++ completes)) := by
  intro keep
  have ended : Over (run step onlyFabricAdded (choosesFabric ++ removesFabric ++ completes))
      onlyFabric none := by
    refine ⟨by decide +kernel, by decide +kernel, ?_⟩
    intro handshake member
    cases member
  have noAccess := (keep onlyFabric none ended).stored
  exact absurd rfl (noAccess ⟨onlyFabric, 9, 8⟩ (by decide +kernel))

end MatterJs.Protocol.CaseHandshakes
