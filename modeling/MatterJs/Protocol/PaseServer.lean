import MatterJs.Foundation.Execution

/-! The PASE server: pairing requests, each on an exchange of its own, and the timer that
keeps others out while one of them is at work. -/

namespace MatterJs.Protocol

open Execution

/-- What `handlePairingRequest` waits for, in order -/
inductive PairingStage where
  | readPbkdfParamRequest
  | getNextAvailableSessionId
  | sendPbkdfParamResponse
  | readPasePake1
  | computeSecretAndVerifiers
  | sendPasePake2
  | readPasePake3
  | createSecureSession
  | sendSuccess
  | close
  deriving DecidableEq

def PairingStage.next : PairingStage → Option PairingStage
  | readPbkdfParamRequest => some getNextAvailableSessionId
  | getNextAvailableSessionId => some sendPbkdfParamResponse
  | sendPbkdfParamResponse => some readPasePake1
  | readPasePake1 => some computeSecretAndVerifiers
  | computeSecretAndVerifiers => some sendPasePake2
  | sendPasePake2 => some readPasePake3
  | readPasePake3 => some createSecureSession
  | createSecureSession => some sendSuccess
  | sendSuccess => some close
  | close => none

/-- Where the request on an exchange is. -/
inductive PairingPhase where
  | idle
  /-- past the guard; whether its timer has expired since -/
  | pairing (stage : PairingStage) (timedOut : Bool)
  /-- The guard has thrown, and the error is still to be handled. -/
  | rejected
  /-- A later step has thrown, and the error is still to be handled. -/
  | failed
  | over
  deriving DecidableEq

structure PaseServer where
  /-- The exchange of the request that started the timer, while it runs. -/
  pairingTimer : Option Nat
  pairingErrors : Nat
  /-- The exchanges that led to the PASE sessions that are open. -/
  paseSessions : List Nat
  phases : Nat → PairingPhase
  /-- `MaximumPasePairingErrorsReachedError` has been thrown. -/
  tooManyErrors : Bool

namespace PaseServer

def PASE_COMMISSIONING_MAX_ERRORS : Nat := 20

def new (paseSessions : List Nat) : PaseServer where
  pairingTimer := none
  pairingErrors := 0
  paseSessions := paseSessions
  phases := fun _ => .idle
  tooManyErrors := false

inductive Event where
  /-- `onNewExchange` -/
  | request (exchange : Nat)
  /-- What the request waits for has come. -/
  | proceed (exchange : Nat)
  /-- The step that the request waits for throws. -/
  | fail (exchange : Nat)
  /-- `onNewExchange` handles the error. -/
  | catchError (exchange : Nat)
  | timerExpires
  | sessionCloses (exchange : Nat)
  deriving DecidableEq

variable (server : PaseServer) (exchange : Nat)

def setPhase (phase : PairingPhase) : PaseServer :=
  { server with phases := Function.update server.phases exchange phase }

/-- `handlePairingRequest` up to the first step that it waits for. -/
def request : PaseServer :=
  if server.paseSessions ≠ [] ∨ server.pairingTimer ≠ none then
    server.setPhase exchange .rejected
  else
    { server.setPhase exchange (.pairing .readPbkdfParamRequest false) with
      pairingTimer := some exchange }

def proceed (stage : PairingStage) (timedOut : Bool) : PaseServer :=
  match stage.next with
  | some next =>
    { server.setPhase exchange (.pairing next timedOut) with
      paseSessions :=
        if stage = .createSecureSession then exchange :: server.paseSessions
        else server.paseSessions }
  | none => { server.setPhase exchange .over with pairingTimer := none }

/-- The part of `cancelPairing` before it sends the error and closes the exchange. -/
def cancelPairing : PaseServer :=
  { server with pairingTimer := none }

def catchError : PaseServer :=
  { (server.setPhase exchange .over).cancelPairing with
    pairingErrors := server.pairingErrors + 1
    tooManyErrors := server.tooManyErrors ||
      server.pairingErrors + 1 ≥ PASE_COMMISSIONING_MAX_ERRORS }

/-- The timer cancels the pairing of the request that started it, whose steps go on until
one of them finds the exchange closed. -/
def timerExpires : PaseServer :=
  match server.phases exchange with
  | .pairing stage _ => (server.setPhase exchange (.pairing stage true)).cancelPairing
  | _ => server.cancelPairing

def step : Event → PaseServer
  | .request exchange =>
    if server.phases exchange = .idle then server.request exchange else server
  | .proceed exchange =>
    match server.phases exchange with
    | .pairing stage timedOut => server.proceed exchange stage timedOut
    | _ => server
  | .fail exchange =>
    match server.phases exchange with
    | .pairing _ _ => server.setPhase exchange .failed
    | _ => server
  | .catchError exchange =>
    if server.phases exchange = .rejected ∨ server.phases exchange = .failed then
      server.catchError exchange
    else server
  | .timerExpires =>
    match server.pairingTimer with
    | some exchange => server.timerExpires exchange
    | none => server
  | .sessionCloses exchange =>
    { server with paseSessions := server.paseSessions.erase exchange }

/-- The request has passed the guard and neither succeeded nor failed since. -/
def PastGuard : Prop :=
  ∃ stage timedOut, server.phases exchange = .pairing stage timedOut

/-- The request goes on although its timer has expired. -/
def TimedOut : Prop :=
  ∃ stage, server.phases exchange = .pairing stage true

/-- At every moment one handshake at most is past the guard, and handling the error of a
rejected request leaves the timer. -/
def OnePairing (sessions : List Nat) (events : List Event) : Prop :=
  (∀ earlier, earlier <+: events → ∀ exchange other,
    (run step (new sessions) earlier).PastGuard exchange →
    (run step (new sessions) earlier).PastGuard other → exchange = other) ∧
  ∀ earlier exchange later, events = earlier ++ .catchError exchange :: later →
    (run step (new sessions) earlier).phases exchange = .rejected →
    (run step (new sessions) (earlier ++ [.catchError exchange])).pairingTimer =
      (run step (new sessions) earlier).pairingTimer

/-- No request comes while one that has timed out goes on, and no error is handled while the
timer of another request runs. -/
def Undisturbed : Event → Prop
  | .request _ => server.pairingTimer = none → ∀ other, ¬ server.TimedOut other
  | .catchError exchange => server.pairingTimer = none ∨ server.pairingTimer = some exchange
  | _ => True

/-- The timer belongs to a request that is past the guard or has just failed, every request
past the guard has it or has timed out, and one that has timed out is alone. -/
structure Guarded (server : PaseServer) : Prop where
  owner : ∀ exchange, server.pairingTimer = some exchange →
    (∃ stage, server.phases exchange = .pairing stage false) ∨ server.phases exchange = .failed
  held : ∀ exchange stage, server.phases exchange = .pairing stage false →
    server.pairingTimer = some exchange
  alone : ∀ exchange, server.TimedOut exchange → ∀ other, server.PastGuard other → other = exchange

theorem PastGuard.cases {server : PaseServer} {exchange : Nat} (past : server.PastGuard exchange) :
    server.TimedOut exchange ∨ ∃ stage, server.phases exchange = .pairing stage false := by
  rcases past with ⟨stage, timedOut, isPairing⟩
  cases timedOut with
  | true => exact .inl ⟨stage, isPairing⟩
  | false => exact .inr ⟨stage, isPairing⟩

theorem TimedOut.pastGuard {server : PaseServer} {exchange : Nat}
    (timedOut : server.TimedOut exchange) : server.PastGuard exchange := by
  rcases timedOut with ⟨stage, isPairing⟩
  exact ⟨stage, true, isPairing⟩

theorem Guarded.eq_of_pastGuard {server : PaseServer} (guarded : server.Guarded)
    {exchange other : Nat} (past : server.PastGuard exchange) (otherPast : server.PastGuard other) :
    exchange = other := by
  rcases otherPast.cases with timedOut | ⟨stage, isPairing⟩
  · exact guarded.alone other timedOut exchange past
  · rcases past.cases with timedOut | ⟨stage', isPairing'⟩
    · exact (guarded.alone exchange timedOut other otherPast).symm
    · have timer := guarded.held other stage isPairing
      rw [guarded.held exchange stage' isPairing'] at timer
      exact Option.some.inj timer

theorem guarded_new (sessions : List Nat) : (new sessions).Guarded where
  owner := nofun
  held := nofun
  alone := by
    intro exchange timedOut
    rcases timedOut with ⟨stage, isPairing⟩
    cases isPairing

/-! ## What the events keep -/

theorem phases_setPhase (other : Nat) (phase : PairingPhase) :
    (server.setPhase exchange phase).phases other =
      if other = exchange then phase else server.phases other :=
  Function.update_apply ..

section Steps

variable {server : PaseServer} {exchange : Nat}

variable (guarded : server.Guarded)

include guarded

theorem Guarded.setPhase {phase : PairingPhase}
    {timer : Option Nat} (owner : ∀ other, timer = some other → server.pairingTimer = some other ∧
      (other = exchange → (∃ stage, phase = .pairing stage false) ∨ phase = .failed))
    (held : ∀ other stage, other ≠ exchange →
      server.phases other = .pairing stage false → timer = some other)
    (same : ∀ stage timedOut, phase = .pairing stage timedOut →
      (∃ before, server.phases exchange = .pairing before timedOut) ∧
        (timedOut = false → timer = some exchange)) :
    Guarded { server.setPhase exchange phase with pairingTimer := timer } := by
  have past : ∀ other timedOut, (∃ stage,
      (server.setPhase exchange phase).phases other = .pairing stage timedOut) →
      ∃ stage, server.phases other = .pairing stage timedOut := by
    intro other timedOut isPast
    rcases isPast with ⟨stage, isPairing⟩
    rw [phases_setPhase] at isPairing
    by_cases isExchange : other = exchange
    · rw [if_pos isExchange] at isPairing
      rw [isExchange]
      exact (same stage timedOut isPairing).1
    · rw [if_neg isExchange] at isPairing
      exact ⟨stage, isPairing⟩
  constructor
  · intro other isOwner
    have before := owner other isOwner
    rw [phases_setPhase]
    by_cases isExchange : other = exchange
    · rw [if_pos isExchange]
      exact before.2 isExchange
    · rw [if_neg isExchange]
      exact guarded.owner other before.1
  · intro other stage isPairing
    rw [phases_setPhase] at isPairing
    by_cases isExchange : other = exchange
    · rw [if_pos isExchange] at isPairing
      rw [isExchange]
      exact (same stage false isPairing).2 rfl
    · rw [if_neg isExchange] at isPairing
      exact held other stage isExchange isPairing
  · intro timedOut isTimedOut other isPast
    rcases isPast with ⟨stage, flag, isPairing⟩
    rcases past other flag ⟨stage, isPairing⟩ with ⟨before, wasPairing⟩
    exact guarded.alone timedOut (past timedOut true isTimedOut) other ⟨before, flag, wasPairing⟩

theorem Guarded.ne_timer
    (notPast : ¬ server.PastGuard exchange) (notFailed : server.phases exchange ≠ .failed) :
    server.pairingTimer ≠ some exchange := by
  intro isOwner
  rcases guarded.owner exchange isOwner with ⟨stage, isPairing⟩ | failed
  · exact notPast ⟨stage, false, isPairing⟩
  · exact notFailed failed

theorem Guarded.request (idle : server.phases exchange = .idle)
    (undisturbed : server.Undisturbed (.request exchange)) : (server.request exchange).Guarded := by
  rw [PaseServer.request]
  split
  · have notOwner : server.pairingTimer ≠ some exchange :=
      guarded.ne_timer (by
        rintro ⟨stage, timedOut, isPairing⟩; rw [idle] at isPairing; cases isPairing)
        (by rw [idle]; exact nofun)
    apply guarded.setPhase
    · intro other isOwner
      refine ⟨isOwner, ?_⟩
      rintro rfl
      exact absurd isOwner notOwner
    · intro other stage _ isPairing
      exact guarded.held other stage isPairing
    · exact nofun
  · rename_i passes
    have free : server.pairingTimer = none := by
      by_contra running
      exact passes (.inr running)
    have nobody : ∀ other, ¬ server.PastGuard other := by
      intro other isPast
      rcases isPast.cases with timedOut | ⟨stage, isPairing⟩
      · exact undisturbed free other timedOut
      · have isOwner := guarded.held other stage isPairing
        rw [free] at isOwner
        cases isOwner
    have onlyNew : ∀ other stage timedOut, (server.setPhase exchange
        (.pairing .readPbkdfParamRequest false)).phases other = .pairing stage timedOut →
        other = exchange ∧ timedOut = false := by
      intro other stage timedOut isPairing
      rw [phases_setPhase] at isPairing
      by_cases isExchange : other = exchange
      · rw [if_pos isExchange] at isPairing
        injection isPairing with _ flag
        exact ⟨isExchange, flag.symm⟩
      · rw [if_neg isExchange] at isPairing
        exact absurd ⟨stage, timedOut, isPairing⟩ (nobody other)
    constructor
    · intro other isOwner
      left
      cases isOwner
      exact ⟨.readPbkdfParamRequest, by simp [phases_setPhase]⟩
    · intro other stage isPairing
      rw [(onlyNew other stage false isPairing).1]
    · intro timedOut isTimedOut
      rcases isTimedOut with ⟨stage, isPairing⟩
      cases (onlyNew timedOut stage true isPairing).2

theorem Guarded.proceed {stage : PairingStage} {timedOut : Bool}
    (isPairing : server.phases exchange = .pairing stage timedOut) :
    (server.proceed exchange stage timedOut).Guarded := by
  rw [PaseServer.proceed]
  cases stage.next with
  | some next =>
    have kept : Guarded { server.setPhase exchange (.pairing next timedOut) with
        pairingTimer := server.pairingTimer } := guarded.setPhase
      (by
        intro other isOwner
        refine ⟨isOwner, ?_⟩
        rintro rfl
        rcases guarded.owner other isOwner with ⟨before, fresh⟩ | failed
        · rw [isPairing] at fresh
          injection fresh with _ flag
          rw [flag]
          exact .inl ⟨next, rfl⟩
        · rw [isPairing] at failed
          cases failed)
      (fun other before _ wasPairing => guarded.held other before wasPairing)
      (by
        rintro _ _ ⟨⟩
        refine ⟨⟨stage, isPairing⟩, ?_⟩
        rintro rfl
        exact guarded.held exchange stage isPairing)
    exact ⟨kept.owner, kept.held, kept.alone⟩
  | none =>
    apply guarded.setPhase
    · exact nofun
    · intro other before different wasPairing
      exact absurd (guarded.eq_of_pastGuard ⟨before, false, wasPairing⟩
        ⟨stage, timedOut, isPairing⟩) different
    · exact nofun

theorem Guarded.fail : (server.setPhase exchange .failed).Guarded := by
  apply guarded.setPhase
  · intro other isOwner
    exact ⟨isOwner, fun _ => .inr rfl⟩
  · intro other stage _ isPairing
    exact guarded.held other stage isPairing
  · exact nofun

theorem Guarded.catchError (undisturbed : server.Undisturbed (.catchError exchange)) :
    (server.catchError exchange).Guarded := by
  have kept : Guarded { server.setPhase exchange .over with pairingTimer := none } :=
    guarded.setPhase
    nofun
    (by
      intro other stage different isPairing
      have isOwner := guarded.held other stage isPairing
      rcases undisturbed with free | own
      · rw [free] at isOwner
        cases isOwner
      · rw [own] at isOwner
        exact absurd (Option.some.inj isOwner).symm different)
    nofun
  exact ⟨kept.owner, kept.held, kept.alone⟩

theorem Guarded.timerExpires
    (isOwner : server.pairingTimer = some exchange) : (server.timerExpires exchange).Guarded := by
  have others : ∀ other stage, other ≠ exchange →
      server.phases other ≠ .pairing stage false := by
    intro other stage different isPairing
    have otherOwner := guarded.held other stage isPairing
    rw [isOwner] at otherOwner
    exact different (Option.some.inj otherOwner).symm
  rw [PaseServer.timerExpires]
  split
  · rename_i stage timedOut isPairing
    have past : ∀ other, (server.setPhase exchange (.pairing stage true)).PastGuard other →
        server.PastGuard other := by
      intro other isPast
      rcases isPast with ⟨before, flag, wasPairing⟩
      rw [phases_setPhase] at wasPairing
      by_cases isExchange : other = exchange
      · rw [isExchange]
        exact ⟨stage, timedOut, isPairing⟩
      · rw [if_neg isExchange] at wasPairing
        exact ⟨before, flag, wasPairing⟩
    constructor
    · exact nofun
    · intro other before wasPairing
      change (server.setPhase exchange (.pairing stage true)).phases other = _ at wasPairing
      rw [phases_setPhase] at wasPairing
      by_cases isExchange : other = exchange
      · rw [if_pos isExchange] at wasPairing
        cases wasPairing
      · rw [if_neg isExchange] at wasPairing
        exact absurd wasPairing (others other before isExchange)
    · intro expired isTimedOut other isPast
      exact guarded.eq_of_pastGuard (past other isPast) (past expired isTimedOut.pastGuard)
  · rename_i notPairing
    constructor
    · exact nofun
    · intro other stage isPairing
      by_cases isExchange : other = exchange
      · rw [isExchange] at isPairing
        exact absurd isPairing (notPairing stage false)
      · exact absurd isPairing (others other stage isExchange)
    · exact guarded.alone

end Steps

theorem Guarded.step {server : PaseServer} {event : Event} (undisturbed : server.Undisturbed event)
    (guarded : server.Guarded) : (server.step event).Guarded := by
  cases event with
  | request exchange =>
    rw [PaseServer.step]
    split
    · rename_i idle
      exact guarded.request idle undisturbed
    · exact guarded
  | proceed exchange =>
    rw [PaseServer.step]
    split
    · rename_i isPairing
      exact guarded.proceed isPairing
    · exact guarded
  | fail exchange =>
    rw [PaseServer.step]
    split
    · exact guarded.fail
    · exact guarded
  | catchError exchange =>
    rw [PaseServer.step]
    split
    · exact guarded.catchError undisturbed
    · exact guarded
  | timerExpires =>
    rw [PaseServer.step]
    split
    · rename_i isOwner
      exact guarded.timerExpires isOwner
    · exact guarded
  | sessionCloses exchange => exact ⟨guarded.owner, guarded.held, guarded.alone⟩

theorem Guarded.pairingTimer_catchError {server : PaseServer} {exchange : Nat}
    (guarded : server.Guarded) (undisturbed : server.Undisturbed (.catchError exchange))
    (rejected : server.phases exchange = .rejected) :
    (server.step (.catchError exchange)).pairingTimer = server.pairingTimer := by
  have notOwner : server.pairingTimer ≠ some exchange :=
    guarded.ne_timer
      (by rintro ⟨stage, timedOut, isPairing⟩; rw [rejected] at isPairing; cases isPairing)
      (by rw [rejected]; exact nofun)
  have free : server.pairingTimer = none := undisturbed.resolve_right notOwner
  rw [PaseServer.step, if_pos (.inl rejected), free]
  rfl

/-- Where no request comes while one that has timed out goes on, and no error is handled
while the timer of another request runs, one handshake at a time is past the guard, and a
rejected request leaves its timer. -/
theorem onePairing_of_along {sessions : List Nat} {events : List Event}
    (undisturbed : Along step Undisturbed (new sessions) events) : OnePairing sessions events := by
  have guarded : ∀ cut, Along step Undisturbed (new sessions) cut →
      (run step (new sessions) cut).Guarded := by
    intro cut along
    exact run_invariant_along Guarded (fun _ _ => Guarded.step) (guarded_new sessions) along
  constructor
  · rintro earlier ⟨later, rfl⟩ exchange other past otherPast
    rw [along_append] at undisturbed
    exact (guarded earlier undisturbed.1).eq_of_pastGuard past otherPast
  · intro earlier exchange later split rejected
    rw [split, along_append] at undisturbed
    rw [run_append]
    exact (guarded earlier undisturbed.1).pairingTimer_catchError undisturbed.2.1 rejected

/-- One request that fails and another behind it. -/
theorem onePairing_failed :
    OnePairing [] [.request 1, .proceed 1, .fail 1, .catchError 1, .request 2] := by
  apply onePairing_of_along
  refine ⟨?_, trivial, trivial, .inr rfl, ?_, trivial⟩
  · rintro - other ⟨stage, isPairing⟩
    cases isPairing
  · rintro - other ⟨stage, isPairing⟩
    by_cases isFirst : other = 1
    · rw [isFirst] at isPairing
      cases isPairing
    · have idle : (run step (new [])
          [.request 1, .proceed 1, .fail 1, .catchError 1]).phases other = .idle := by
        simp [run, step, request, proceed, catchError, setPhase, cancelPairing, new,
          PairingStage.next, Function.update_of_ne isFirst]
      exact PairingPhase.noConfusion (idle.symm.trans isPairing)

/-- A rejected request stops the timer of the handshake that it was rejected for, and the
next request passes the guard beside that handshake. -/
theorem onePairing_rejected_false :
    ¬ OnePairing [] [.request 1, .request 2, .catchError 2, .request 3] := by
  intro one
  have same := one.1 _ List.prefix_rfl 1 3 ⟨.readPbkdfParamRequest, false, rfl⟩
    ⟨.readPbkdfParamRequest, false, rfl⟩
  cases same

end PaseServer

end MatterJs.Protocol
