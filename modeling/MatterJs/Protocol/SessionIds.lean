import MatterJs.Foundation.Execution
import MatterJs.General.BasicSet
import MatterJs.General.MatterError

/-! How the session manager hands out session ids: the counter, the sweep over the ids in
use and the eviction of the oldest session when all of them are. -/

namespace MatterJs.Protocol.SessionIds

open General

/-- A session object. Two objects may have one id; `reference` tells them apart. -/
structure SecureSession where
  reference : Nat
  id : Nat
  deriving DecidableEq

/-- The manager's sessions, with the `activeTimestamp` each object has. -/
structure SessionManager where
  sessions : BasicSet SecureSession.id
  activeTimestamp : SecureSession → Nat
  nextSessionId : Nat

namespace SessionManager

/-- The manager with the random value `nextSessionId` starts from. -/
def new (randomUInt16 : Nat) : SessionManager where
  sessions := BasicSet.new SecureSession.id
  activeTimestamp := fun _ => 0
  nextSessionId := randomUInt16

variable (manager : SessionManager)

def getSession (sessionId : Nat) : Option SecureSession × SessionManager :=
  let (found, sessions) := manager.sessions.get sessionId
  (found, { manager with sessions })

/-- The loop of `findOldestInactiveSession`. -/
def oldestSession (activeTimestamp : SecureSession → Nat) :
    Option SecureSession → List SecureSession → Option SecureSession
  | oldest, [] => oldest
  | none, session :: sessions => oldestSession activeTimestamp (some session) sessions
  | some oldest, session :: sessions =>
    if activeTimestamp session < activeTimestamp oldest then
      oldestSession activeTimestamp (some session) sessions
    else oldestSession activeTimestamp (some oldest) sessions

def findOldestInactiveSession : Except MatterError SecureSession :=
  match oldestSession manager.activeTimestamp none manager.sessions.entries with
  | some oldest => .ok oldest
  | none => .error (.matterFlowError
      "No session found to close and all session ids are taken.")

/-- The counter after `id`, without 0. -/
def advance (nextSessionId : Nat) : Nat :=
  let next := (nextSessionId + 1) &&& 0xffff
  if next = 0 then next + 1 else next

/-- Rounds of the sweep until an id is not in use. -/
def sweep : Nat → SessionManager → Option Nat × SessionManager
  | 0, manager => (none, manager)
  | rounds + 1, manager =>
    let id := manager.nextSessionId
    let (session, manager) :=
      ({ manager with nextSessionId := advance id } : SessionManager).getSession id
    match session with
    | none => (some id, manager)
    | some _ => sweep rounds manager

/-- What a call comes to before its first wait: it returns, throws, or waits for the end
of the session it evicts. -/
inductive Outcome where
  | returned (id : Nat)
  | evicting (oldest : SecureSession)
  | thrown (error : MatterError)
  deriving DecidableEq

/-- `getNextAvailableSessionId` up to `await oldestSession.end`. -/
def getNextAvailableSessionId : Outcome × SessionManager :=
  match sweep 0xffff manager with
  | (some id, manager) => (.returned id, manager)
  | (none, manager) =>
    match manager.findOldestInactiveSession with
    | .ok oldest => (.evicting oldest, manager)
    | .error error => (.thrown error, manager)

/-- `getNextAvailableSessionId` behind `await oldestSession.end`. -/
def reuseId (oldest : SecureSession) : Nat × SessionManager :=
  (oldest.id, { manager with nextSessionId := oldest.id + 1 })

end SessionManager

/-- The manager and the sessions whose end a call waits for, one for each such call. -/
structure State where
  manager : SessionManager
  evictions : List SecureSession

def State.new (randomUInt16 : Nat) : State where
  manager := .new randomUInt16
  evictions := []

inductive Event where
  /-- The constructor of the session adds it to the manager's sessions. -/
  | created (session : SecureSession) (now : Nat)
  /-- The end of `createSecureSession` adds it again. -/
  | registered (session : SecureSession)
  /-- A message was received in the session. -/
  | active (session : SecureSession) (now : Nat)
  /-- `SecureSession.destroy` takes it out, also where it is called by `end`. -/
  | deleted (session : SecureSession)
  | getNextAvailableSessionId
  /-- The session that a call waits for, by now deleted, has ended. -/
  | ended (session : SecureSession)
  /-- The end of the session that a call waits for has failed, and with it the call. -/
  | endFailed (session : SecureSession)
  deriving DecidableEq

variable (state : State)

/-- The state after the event, and what a call of `getNextAvailableSessionId` comes to with
it. -/
def step : Event → State × Option SessionManager.Outcome
  | .created session now =>
    ({ state with
      manager := { state.manager with
        sessions := state.manager.sessions.add session
        activeTimestamp := Function.update state.manager.activeTimestamp session now } },
      none)
  | .registered session =>
    ({ state with
      manager := { state.manager with sessions := state.manager.sessions.add session } },
      none)
  | .active session now =>
    ({ state with
      manager := { state.manager with
        activeTimestamp := Function.update state.manager.activeTimestamp session now } },
      none)
  | .deleted session =>
    ({ state with
      manager := { state.manager with sessions := state.manager.sessions.delete session } },
      none)
  | .getNextAvailableSessionId =>
    match state.manager.getNextAvailableSessionId with
    | (.evicting oldest, manager) =>
      ({ manager, evictions := oldest :: state.evictions }, some (.evicting oldest))
    | (outcome, manager) => ({ state with manager }, some outcome)
  | .ended session =>
    if session ∈ state.evictions ∧ session ∉ state.manager.sessions.entries then
      let (id, manager) := state.manager.reuseId session
      ({ manager, evictions := state.evictions.erase session }, some (.returned id))
    else (state, none)
  | .endFailed session => ({ state with evictions := state.evictions.erase session }, none)

def next (event : Event) : State := (step state event).1

def InRange (id : Nat) : Prop := 1 ≤ id ∧ id ≤ 0xffff

instance : DecidablePred InRange := fun _ => inferInstanceAs (Decidable (_ ∧ _))

def Unused (id : Nat) : Prop :=
  ∀ session ∈ state.manager.sessions.entries, session.id ≠ id

instance (state : State) (id : Nat) : Decidable (Unused state id) :=
  inferInstanceAs (Decidable (∀ session ∈ state.manager.sessions.entries, session.id ≠ id))

/-- What a call promises of the state it leaves: it never throws, the id it returns is
valid and unused, and the counter is valid for the next call. -/
def Fulfilled (after : State) : Option SessionManager.Outcome → Prop
  | none => True
  | some (.thrown _) => False
  | some (.evicting _) => InRange after.manager.nextSessionId
  | some (.returned id) =>
    InRange id ∧ Unused after id ∧ InRange after.manager.nextSessionId

instance (after : State) : ∀ outcome, Decidable (Fulfilled after outcome)
  | none => isTrue trivial
  | some (.thrown _) => isFalse id
  | some (.evicting _) => inferInstanceAs (Decidable (InRange _))
  | some (.returned _) => inferInstanceAs (Decidable (_ ∧ _ ∧ _))

def KeepsPromise (event : Event) : Prop :=
  Fulfilled (next state event) (step state event).2

instance (state : State) (event : Event) : Decidable (KeepsPromise state event) :=
  inferInstanceAs (Decidable (Fulfilled _ _))

/-- Sessions get an id that is valid and neither in use nor being freed by an eviction. -/
def OwnId (session : SecureSession) : Prop :=
  session ∈ state.manager.sessions.entries ∨
    (InRange session.id ∧ Unused state session.id ∧
      ∀ evicted ∈ state.evictions, evicted.id ≠ session.id)

/-- New sessions have an id of their own, and the evicted ones an id other than the last. -/
def Undisturbed : Event → Prop
  | .created session _ => OwnId state session
  | .registered session => OwnId state session
  | .ended session => session.id ≠ 0xffff
  | _ => True

instance (state : State) (session : SecureSession) : Decidable (OwnId state session) :=
  inferInstanceAs (Decidable (_ ∨ _))

instance (state : State) : ∀ event, Decidable (Undisturbed state event)
  | .created session _ => inferInstanceAs (Decidable (OwnId state session))
  | .registered session => inferInstanceAs (Decidable (OwnId state session))
  | .ended session => inferInstanceAs (Decidable (session.id ≠ 0xffff))
  | .active _ _ | .deleted _ | .getNextAvailableSessionId | .endFailed _ =>
    inferInstanceAs (Decidable True)

end MatterJs.Protocol.SessionIds
