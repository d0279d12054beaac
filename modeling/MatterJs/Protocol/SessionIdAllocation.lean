import MatterJs.Protocol.SessionIds

/-! When the ids handed out are valid and unused. -/

namespace MatterJs.Protocol.SessionIds

open General

/-- What holds between the events: valid ids, one session for each, all of them found by
the manager's index, and none for an id that an eviction is about to hand out again. -/
structure Orderly (state : State) : Prop where
  counter : InRange state.manager.nextSessionId
  valid : ∀ session ∈ state.manager.sessions.entries, InRange session.id
  distinct : ∀ session ∈ state.manager.sessions.entries,
    ∀ other ∈ state.manager.sessions.entries, session.id = other.id → session = other
  indexed : state.manager.sessions.Indexed
  evictedValid : ∀ evicted ∈ state.evictions, InRange evicted.id
  evictedAlone : ∀ evicted ∈ state.evictions,
    ∀ session ∈ state.manager.sessions.entries, session.id = evicted.id → session = evicted

namespace SessionManager

theorem advance_inRange (nextSessionId : Nat) : InRange (advance nextSessionId) := by
  have bound : (nextSessionId + 1) &&& 0xffff ≤ 0xffff := Nat.and_le_right
  rw [advance, InRange]
  by_cases wrapped : (nextSessionId + 1) &&& 0xffff = 0
  · rw [if_pos wrapped]
    omega
  · rw [if_neg wrapped]
    omega

/-- What a sweep changes: the counter, and the index that its lookups build. -/
structure Swept (before after : SessionManager) : Prop where
  entries : after.sessions.entries = before.sessions.entries
  counter : InRange before.nextSessionId → InRange after.nextSessionId
  indexed : before.sessions.Indexed → after.sessions.Indexed

theorem Swept.trans {before between after : SessionManager} (first : Swept before between)
    (second : Swept between after) : Swept before after where
  entries := second.entries.trans first.entries
  counter := fun inRange => second.counter (first.counter inRange)
  indexed := fun indexed => second.indexed (first.indexed indexed)

theorem swept_lookup (manager : SessionManager) (id : Nat) :
    Swept manager
      (({ manager with nextSessionId := advance id } : SessionManager).getSession id).2 where
  entries := rfl
  counter := fun _ => advance_inRange id
  indexed := fun indexed => indexed.get id

theorem sweep_succ (rounds : Nat) (manager : SessionManager) :
    sweep (rounds + 1) manager =
      let between := (({ manager with
        nextSessionId := advance manager.nextSessionId } : SessionManager).getSession
          manager.nextSessionId).2
      if (manager.sessions.get manager.nextSessionId).1 = none then
        (some manager.nextSessionId, between)
      else sweep rounds between := by
  rw [sweep]
  dsimp only [SessionManager.getSession]
  cases (manager.sessions.get manager.nextSessionId).1 with
  | none => rfl
  | some session => rfl

theorem swept_sweep (rounds : Nat) (manager : SessionManager) :
    Swept manager (sweep rounds manager).2 := by
  induction rounds generalizing manager with
  | zero => exact ⟨rfl, id, id⟩
  | succ rounds induction =>
    have first := swept_lookup manager manager.nextSessionId
    rw [sweep_succ]
    by_cases found : (manager.sessions.get manager.nextSessionId).1 = none
    · rw [if_pos found]
      exact first
    · rw [if_neg found]
      exact first.trans (induction _)

theorem unused_of_sweep {rounds : Nat} {manager : SessionManager} {id : Nat}
    (indexed : manager.sessions.Indexed) (counter : InRange manager.nextSessionId)
    (returns : (sweep rounds manager).1 = some id) :
    InRange id ∧ ∀ session ∈ manager.sessions.entries, session.id ≠ id := by
  induction rounds generalizing manager with
  | zero => cases returns
  | succ rounds induction =>
    have first := swept_lookup manager manager.nextSessionId
    rw [sweep_succ] at returns
    by_cases found : (manager.sessions.get manager.nextSessionId).1 = none
    · rw [if_pos found, Option.some.injEq] at returns
      rw [← returns]
      exact ⟨counter, indexed.ne_of_get_eq_none found⟩
    · rw [if_neg found] at returns
      have later := induction (first.indexed indexed) (first.counter counter) returns
      rwa [first.entries] at later

theorem entries_ne_nil_of_sweep {rounds : Nat} {manager : SessionManager}
    (fails : (sweep (rounds + 1) manager).1 = none) : manager.sessions.entries ≠ [] := by
  rw [sweep_succ] at fails
  by_cases found : (manager.sessions.get manager.nextSessionId).1 = none
  · rw [if_pos found] at fails
    cases fails
  · rcases Option.ne_none_iff_exists'.mp found with ⟨session, isSession⟩
    have member := (manager.sessions.sound_fieldIndex _ _ isSession).1
    exact List.ne_nil_of_mem member

theorem oldestSession_mem {activeTimestamp : SecureSession → Nat} {oldest : Option SecureSession}
    {sessions : List SecureSession} {found : SecureSession}
    (isFound : oldestSession activeTimestamp oldest sessions = some found) :
    oldest = some found ∨ found ∈ sessions := by
  induction sessions generalizing oldest with
  | nil =>
    left
    cases oldest <;> exact isFound
  | cons session sessions induction =>
    have among : oldestSession activeTimestamp (some session) sessions = some found →
        found ∈ session :: sessions := by
      intro fromSession
      rcases induction fromSession with isSession | later
      · rw [Option.some.inj isSession]
        exact List.mem_cons_self
      · exact List.mem_cons_of_mem _ later
    cases oldest with
    | none => exact .inr (among isFound)
    | some old =>
      rw [oldestSession] at isFound
      by_cases older : activeTimestamp session < activeTimestamp old
      · rw [if_pos older] at isFound
        exact .inr (among isFound)
      · rw [if_neg older] at isFound
        rcases induction isFound with isOld | later
        · exact .inl isOld
        · exact .inr (List.mem_cons_of_mem _ later)

theorem isSome_oldestSession (activeTimestamp : SecureSession → Nat) (oldest : SecureSession)
    (sessions : List SecureSession) :
    (oldestSession activeTimestamp (some oldest) sessions).isSome := by
  induction sessions generalizing oldest with
  | nil => rfl
  | cons session sessions induction =>
    rw [oldestSession]
    by_cases older : activeTimestamp session < activeTimestamp oldest
    · rw [if_pos older]
      exact induction session
    · rw [if_neg older]
      exact induction oldest

theorem findOldestInactiveSession_eq_ok {manager : SessionManager}
    (some_session : manager.sessions.entries ≠ []) :
    ∃ oldest ∈ manager.sessions.entries,
      manager.findOldestInactiveSession = .ok oldest := by
  rw [findOldestInactiveSession]
  rcases List.exists_cons_of_ne_nil some_session with ⟨first, rest, isEntries⟩
  have isSome := isSome_oldestSession manager.activeTimestamp first rest
  rcases Option.isSome_iff_exists.mp isSome with ⟨oldest, isOldest⟩
  have found : oldestSession manager.activeTimestamp none manager.sessions.entries =
      some oldest := by
    rw [isEntries]
    exact isOldest
  rcases oldestSession_mem found with impossible | member
  · cases impossible
  · exact ⟨oldest, member, by rw [found]⟩

theorem getNextAvailableSessionId_cases {manager : SessionManager}
    (indexed : manager.sessions.Indexed) (counter : InRange manager.nextSessionId) :
    Swept manager manager.getNextAvailableSessionId.2 ∧
      ((∃ id, manager.getNextAvailableSessionId.1 = .returned id ∧ InRange id ∧
          ∀ session ∈ manager.sessions.entries, session.id ≠ id) ∨
        ∃ oldest ∈ manager.sessions.entries,
          manager.getNextAvailableSessionId.1 = .evicting oldest) := by
  have swept := swept_sweep 0xffff manager
  have unused := @unused_of_sweep 0xffff manager
  have taken := @entries_ne_nil_of_sweep 0xfffe manager
  rw [getNextAvailableSessionId]
  generalize sweep 0xffff manager = outcome at swept unused taken ⊢
  rcases outcome with ⟨found, after⟩
  cases found with
  | some id => exact ⟨swept, .inl ⟨id, rfl, unused indexed counter rfl⟩⟩
  | none =>
    have some_session := taken rfl
    rw [← swept.entries] at some_session
    rcases findOldestInactiveSession_eq_ok some_session with ⟨oldest, member, isOldest⟩
    rw [swept.entries] at member
    simp only [isOldest]
    exact ⟨swept, .inr ⟨oldest, member, rfl⟩⟩

end SessionManager

/-! ## Every event keeps the order -/

section Steps

variable {state : State}

theorem orderly_new {randomUInt16 : Nat} (inRange : InRange randomUInt16) :
    Orderly (.new randomUInt16) where
  counter := inRange
  valid := by
    intro session member
    cases member
  distinct := by
    intro session member
    cases member
  indexed := BasicSet.indexed_new
  evictedValid := by
    intro evicted member
    cases member
  evictedAlone := by
    intro evicted member
    cases member

section

variable (orderly : Orderly state)

include orderly

theorem Orderly.add {session : SecureSession}
    (ownId : OwnId state session) (activeTimestamp : SecureSession → Nat) :
    Orderly { state with
      manager := { state.manager with
        sessions := state.manager.sessions.add session
        activeTimestamp } } where
  counter := orderly.counter
  valid := by
    intro other member
    rcases BasicSet.mem_add.mp member with earlier | rfl
    · exact orderly.valid other earlier
    · rcases ownId with present | new
      · exact orderly.valid other present
      · exact new.1
  distinct := by
    intro first isFirst second isSecond same
    rcases BasicSet.mem_add.mp isFirst with earlier | rfl <;>
      rcases BasicSet.mem_add.mp isSecond with alsoEarlier | rfl
    · exact orderly.distinct first earlier second alsoEarlier same
    · rcases ownId with present | new
      · exact orderly.distinct first earlier second present same
      · exact absurd same (new.2.1 first earlier)
    · rcases ownId with present | new
      · exact orderly.distinct first present second alsoEarlier same
      · exact absurd same.symm (new.2.1 second alsoEarlier)
    · rfl
  indexed := orderly.indexed.add session
  evictedValid := orderly.evictedValid
  evictedAlone := by
    intro evicted isEvicted other member same
    rcases BasicSet.mem_add.mp member with earlier | rfl
    · exact orderly.evictedAlone evicted isEvicted other earlier same
    · rcases ownId with present | new
      · exact orderly.evictedAlone evicted isEvicted other present same
      · exact absurd same.symm (new.2.2 evicted isEvicted)

theorem Orderly.delete (session : SecureSession) :
    Orderly { state with
      manager := { state.manager with
        sessions := state.manager.sessions.delete session } } where
  counter := orderly.counter
  valid := fun other member => orderly.valid other (BasicSet.mem_delete.mp member).1
  distinct := fun first isFirst second isSecond =>
    orderly.distinct first (BasicSet.mem_delete.mp isFirst).1 second
      (BasicSet.mem_delete.mp isSecond).1
  indexed := by
    by_cases present : session ∈ state.manager.sessions.entries
    · apply orderly.indexed.delete
      intro other member same
      exact orderly.distinct other member session present same
    · rw [BasicSet.delete, if_neg present]
      exact orderly.indexed
  evictedValid := orderly.evictedValid
  evictedAlone := fun evicted isEvicted other member =>
    orderly.evictedAlone evicted isEvicted other (BasicSet.mem_delete.mp member).1

theorem Orderly.swept {manager : SessionManager}
    (swept : SessionManager.Swept state.manager manager) {evictions : List SecureSession}
    (ofSessions : ∀ evicted ∈ evictions,
      evicted ∈ state.manager.sessions.entries ∨ evicted ∈ state.evictions) :
    Orderly { manager, evictions } where
  counter := swept.counter orderly.counter
  valid := by
    intro session member
    rw [show manager.sessions.entries = _ from swept.entries] at member
    exact orderly.valid session member
  distinct := by
    rw [swept.entries]
    exact orderly.distinct
  indexed := swept.indexed orderly.indexed
  evictedValid := by
    intro evicted isEvicted
    rcases ofSessions evicted isEvicted with present | earlier
    · exact orderly.valid evicted present
    · exact orderly.evictedValid evicted earlier
  evictedAlone := by
    intro evicted isEvicted session member same
    rw [show manager.sessions.entries = _ from swept.entries] at member
    rcases ofSessions evicted isEvicted with present | earlier
    · exact orderly.distinct session member evicted present same
    · exact orderly.evictedAlone evicted earlier session member same

theorem Orderly.evictions {nextSessionId : Nat}
    (inRange : InRange nextSessionId) (session : SecureSession) :
    Orderly {
      manager := { state.manager with nextSessionId }
      evictions := state.evictions.erase session } where
  counter := inRange
  valid := orderly.valid
  distinct := orderly.distinct
  indexed := orderly.indexed
  evictedValid := fun evicted member =>
    orderly.evictedValid evicted (List.mem_of_mem_erase member)
  evictedAlone := fun evicted member =>
    orderly.evictedAlone evicted (List.mem_of_mem_erase member)

theorem step_getNextAvailableSessionId :
    Orderly (next state .getNextAvailableSessionId) ∧
      KeepsPromise state .getNextAvailableSessionId := by
  have cases := SessionManager.getNextAvailableSessionId_cases orderly.indexed orderly.counter
  rw [KeepsPromise, next, step]
  generalize state.manager.getNextAvailableSessionId = outcome at cases ⊢
  rcases outcome with ⟨outcome, manager⟩
  rcases cases with ⟨swept, ⟨id, rfl, inRange, unused⟩ | ⟨oldest, member, rfl⟩⟩
  · refine ⟨orderly.swept swept fun evicted => .inr, inRange, ?_, swept.counter orderly.counter⟩
    rwa [Unused, swept.entries]
  · refine ⟨orderly.swept swept ?_, swept.counter orderly.counter⟩
    intro evicted isEvicted
    rcases List.mem_cons.mp isEvicted with rfl | earlier
    · exact .inl member
    · exact .inr earlier

theorem step_ended {session : SecureSession} (notLast : session.id ≠ 0xffff) :
    Orderly (next state (.ended session)) ∧ KeepsPromise state (.ended session) := by
  rw [KeepsPromise, next, step]
  by_cases waits : session ∈ state.evictions ∧ session ∉ state.manager.sessions.entries
  · rw [if_pos waits]
    have valid := orderly.evictedValid session waits.1
    have counter : InRange (session.id + 1) := by
      rw [InRange] at valid ⊢
      omega
    refine ⟨orderly.evictions counter session, valid, ?_, counter⟩
    intro other member same
    rw [orderly.evictedAlone session waits.1 other member same] at member
    exact waits.2 member
  · rw [if_neg waits]
    exact ⟨orderly, trivial⟩

end

theorem step_keeps (event : Event) (orderly : Orderly state)
    (undisturbed : Undisturbed state event) :
    Orderly (next state event) ∧ KeepsPromise state event := by
  cases event with
  | created session now => exact ⟨orderly.add undisturbed _, trivial⟩
  | registered session => exact ⟨orderly.add undisturbed _, trivial⟩
  | active session now =>
    exact ⟨⟨orderly.counter, orderly.valid, orderly.distinct, orderly.indexed,
      orderly.evictedValid, orderly.evictedAlone⟩, trivial⟩
  | deleted session => exact ⟨orderly.delete session, trivial⟩
  | getNextAvailableSessionId => exact step_getNextAvailableSessionId orderly
  | ended session => exact step_ended orderly undisturbed
  | endFailed session => exact ⟨orderly.evictions orderly.counter session, trivial⟩

end Steps

/-- From a counter other than 0, every call returns an id that is valid and unused as long
as every session is created under an id of its own and none of id 65535 is evicted. -/
theorem sessionIds_validAndUnused {randomUInt16 : Nat} (uint16 : randomUInt16 ≤ 0xffff)
    (notZero : randomUInt16 ≠ 0) {events : List Event}
    (undisturbed : Execution.Along next Undisturbed (.new randomUInt16) events) :
    Execution.Along next KeepsPromise (.new randomUInt16) events := by
  have orderly : Orderly (.new randomUInt16) :=
    orderly_new ⟨Nat.one_le_iff_ne_zero.mpr notZero, uint16⟩
  exact undisturbed.of_invariant Orderly orderly
    (fun state event undisturbed orderly => step_keeps event orderly undisturbed)

/-- Two sessions and a message, and three calls. -/
theorem sessionIds_validAndUnused_example :
    Execution.Along next KeepsPromise (.new 65535)
      [.getNextAvailableSessionId, .created ⟨1, 65535⟩ 7, .registered ⟨1, 65535⟩,
        .getNextAvailableSessionId, .active ⟨1, 65535⟩ 9, .created ⟨2, 1⟩ 8,
        .deleted ⟨1, 65535⟩, .getNextAvailableSessionId] := by
  apply sessionIds_validAndUnused (by decide) (by decide)
  decide +kernel

/-- The first call returns 0 when the random value is 0. -/
theorem sessionIds_startAtZero :
    ¬∀ randomUInt16 ≤ 0xffff, ∀ events : List Event,
      Execution.Along next KeepsPromise (.new randomUInt16) events := by
  intro always
  have first := (always 0 (by decide) [.getNextAvailableSessionId]).1
  exact absurd first (by decide +kernel)

end MatterJs.Protocol.SessionIds
