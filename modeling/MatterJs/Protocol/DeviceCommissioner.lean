import MatterJs.Foundation.Execution

/-! Arming the fail-safe: the commands and the PASE sessions that arm it, and the context that
the commissioner holds. -/

namespace MatterJs.Protocol

open Execution

/-- The fields of `ArmFailSafeRequest` -/
structure ArmFailSafeRequest where
  breadcrumb : Nat
  expiryLengthSeconds : Nat
  deriving DecidableEq

structure ArmingSession where
  isPase : Bool
  fabricIndex : Option Nat
  deriving DecidableEq

inductive CommissioningReply where
  | ok
  | busyWithOtherAdmin (debugText : String)
  | noFailSafe (debugText : String)
  | invalidAuthentication (debugText : String)
  deriving DecidableEq

inductive ContextPhase where
  | unused
  | constructing (breadcrumb : Nat)
  /-- Its timer runs. -/
  | armed
  /-- Its timers are stopped, and it still has them. -/
  | disarmed
  /-- It has given up its timers and is not closed yet. -/
  | released
  | closed
  deriving DecidableEq

structure CommissionerContext where
  phase : ContextPhase
  associatedFabric : Option Nat
  deriving DecidableEq

structure DeviceCommissioner where
  /-- The contexts in the order of their construction. -/
  contexts : Nat → CommissionerContext
  constructed : Nat
  failsafeContext : Option Nat
  windowOpen : Bool
  breadcrumb : Nat
  /-- The replies to the commands, the latest first. -/
  replies : List CommissioningReply

namespace DeviceCommissioner

def new : DeviceCommissioner where
  contexts := fun _ => ⟨.unused, none⟩
  constructed := 0
  failsafeContext := none
  windowOpen := false
  breadcrumb := 0
  replies := []

inductive Event where
  | armFailSafe (session : ArmingSession) (request : ArmFailSafeRequest)
  /-- `#handleAddedPaseSessions` -/
  | sessionAdded (session : ArmingSession)
  /-- The construction of a context has come to its end. -/
  | construction (context : Nat)
  | constructionFails (context : Nat) (message : String)
  | timerExpires (context : Nat)
  | addFabric (fabricIndex : Nat)
  | commissioningComplete (session : ArmingSession)
  /-- The context gives up its stopped timers. -/
  | release (context : Nat)
  /-- The context has been closed. -/
  | destroyed (context : Nat)
  | window (isOpen : Bool)
  deriving DecidableEq

variable (commissioner : DeviceCommissioner) (context : Nat) (session : ArmingSession)

def isFailsafeArmed : Bool :=
  commissioner.failsafeContext.isSome

def reply (commissioner : DeviceCommissioner) (reply : CommissioningReply) : DeviceCommissioner :=
  { commissioner with replies := reply :: commissioner.replies }

def setPhase (phase : ContextPhase) : DeviceCommissioner :=
  { commissioner with
    contexts := Function.update commissioner.contexts context
      { commissioner.contexts context with phase } }

def indexText : Option Nat → String
  | some fabricIndex => toString fabricIndex
  | none => "undefined"

/-- The success of arming, which sets the breadcrumb where the fail-safe is armed. -/
def succeed (breadcrumb : Nat) : DeviceCommissioner :=
  { commissioner.reply .ok with
    breadcrumb := if commissioner.isFailsafeArmed then breadcrumb else commissioner.breadcrumb }

/-- `FailsafeContext.extend`, with `reArm` of its timer -/
def extend (request : ArmFailSafeRequest) : DeviceCommissioner :=
  match (commissioner.contexts context).phase with
  | .armed =>
    if (commissioner.contexts context).associatedFabric ≠ session.fabricIndex then
      commissioner.reply (.busyWithOtherAdmin
        ("FailSafe already armed (index=" ++
          indexText (commissioner.contexts context).associatedFabric ++
          ") with different fabric (index=" ++ indexText session.fabricIndex ++ ")."))
    else if request.expiryLengthSeconds = 0 then
      (commissioner.setPhase context .disarmed).reply .ok
    else commissioner.succeed request.breadcrumb
  | .disarmed => commissioner.reply (.busyWithOtherAdmin "FailSafe already expired.")
  | _ => commissioner.succeed request.breadcrumb

def beginConstruction (breadcrumb : Nat) : DeviceCommissioner :=
  { commissioner with
    contexts := Function.update commissioner.contexts commissioner.constructed
      ⟨.constructing breadcrumb, session.fabricIndex⟩
    constructed := commissioner.constructed + 1 }

/-- The command comes over CASE while a commissioning window is open and nothing is armed. -/
def refusesCase : Bool :=
  !commissioner.isFailsafeArmed && commissioner.windowOpen && !session.isPase

/-- `#armFailSafe`, up to the construction of a new context where it needs one -/
def armFailSafe (request : ArmFailSafeRequest) : DeviceCommissioner :=
  if commissioner.refusesCase session then
    commissioner.reply (.busyWithOtherAdmin
      "Failed to arm failsafe using CASE while commissioning window is opened.")
  else
    match commissioner.failsafeContext with
    | some context => commissioner.extend context session request
    | none =>
      if request.expiryLengthSeconds = 0 then commissioner.reply .ok
      else commissioner.beginConstruction session request.breadcrumb

/-- `beginTimed`, once the context has been constructed and its timer started -/
def beginTimed (breadcrumb : Nat) : DeviceCommissioner :=
  ({ commissioner.setPhase context .armed with
    failsafeContext := some context } : DeviceCommissioner).succeed breadcrumb

def addFabric (fabricIndex : Nat) : DeviceCommissioner :=
  match commissioner.failsafeContext with
  | some context =>
    { commissioner with
      contexts := Function.update commissioner.contexts context
        { commissioner.contexts context with associatedFabric := some fabricIndex } }
  | none => commissioner

/-- `commissioningComplete`, up to the end of the timers -/
def commissioningComplete : DeviceCommissioner :=
  if session.isPase then
    commissioner.reply (.invalidAuthentication "Command not executed over CASE session.")
  else
    match commissioner.failsafeContext with
    | none => commissioner.reply (.noFailSafe "FailSafe not armed.")
    | some context =>
      if session.fabricIndex ≠ (commissioner.contexts context).associatedFabric then
        commissioner.reply (.invalidAuthentication
          ("Associated fabric " ++ indexText session.fabricIndex ++
            " does not match the one from the failsafe context " ++
            indexText (commissioner.contexts context).associatedFabric ++ "."))
      else
        match (commissioner.contexts context).phase with
        | .armed => commissioner.setPhase context .disarmed
        | _ => commissioner

def step : Event → DeviceCommissioner
  | .armFailSafe session request => commissioner.armFailSafe session request
  | .sessionAdded session =>
    if session.isPase = false ∨ session.fabricIndex ≠ none then commissioner
    else commissioner.armFailSafe session ⟨commissioner.breadcrumb, 60⟩
  | .construction context =>
    match (commissioner.contexts context).phase with
    | .constructing breadcrumb => commissioner.beginTimed context breadcrumb
    | _ => commissioner
  | .constructionFails context message =>
    match (commissioner.contexts context).phase with
    | .constructing _ =>
      (commissioner.setPhase context .closed).reply (.busyWithOtherAdmin message)
    | _ => commissioner
  | .timerExpires context =>
    if (commissioner.contexts context).phase = .armed then
      commissioner.setPhase context .disarmed
    else commissioner
  | .addFabric fabricIndex => commissioner.addFabric fabricIndex
  | .commissioningComplete session => commissioner.commissioningComplete session
  | .release context =>
    if (commissioner.contexts context).phase = .disarmed then
      commissioner.setPhase context .released
    else commissioner
  | .destroyed context =>
    if (commissioner.contexts context).phase = .released then
      { commissioner.setPhase context .closed with failsafeContext := none, breadcrumb := 0 }
    else commissioner
  | .window isOpen => { commissioner with windowOpen := isOpen }

def Armed : Prop :=
  (commissioner.contexts context).phase = .armed

def Constructing : Prop :=
  ∃ breadcrumb, (commissioner.contexts context).phase = .constructing breadcrumb

/-- Constructed and not closed -/
def Installed : Prop :=
  (commissioner.contexts context).phase ∈ ([.armed, .disarmed, .released] : List ContextPhase)

/-- A context whose timer runs is the only one, and the commissioner's. -/
def OneLive : Prop :=
  ∀ context, commissioner.Armed context →
    (∀ other, commissioner.Armed other → other = context) ∧
      commissioner.failsafeContext = some context

/-- Nothing arms the unarmed fail-safe while the context of another arming is constructed. -/
def Unhurried : Event → Prop
  | .armFailSafe _ _ | .sessionAdded _ =>
    commissioner.failsafeContext = none → ∀ context, ¬ commissioner.Constructing context
  | _ => True

/-- The commissioner's context is the one that is installed, and one is constructed only
while there is none. -/
structure Exclusive (commissioner : DeviceCommissioner) : Prop where
  fresh : ∀ context, commissioner.constructed ≤ context →
    (commissioner.contexts context).phase = .unused
  current : ∀ context, commissioner.Installed context ↔ commissioner.failsafeContext = some context
  constructing : ∀ context, commissioner.Constructing context →
    commissioner.failsafeContext = none ∧ ∀ other, commissioner.Constructing other → other = context

theorem Exclusive.oneLive {commissioner : DeviceCommissioner}
    (exclusive : commissioner.Exclusive) : commissioner.OneLive := by
  intro context isArmed
  have installed : ∀ other, commissioner.Armed other →
    commissioner.failsafeContext = some other := by
    intro other otherArmed
    apply (exclusive.current other).mp
    rw [Installed, show (commissioner.contexts other).phase = .armed from otherArmed]
    decide
  refine ⟨?_, installed context isArmed⟩
  intro other otherArmed
  have same := installed other otherArmed
  rw [installed context isArmed] at same
  exact (Option.some.inj same).symm

theorem exclusive_new : new.Exclusive where
  fresh := fun _ _ => rfl
  current := by
    intro context
    refine iff_of_false ?_ nofun
    intro installed
    simp [Installed, new] at installed
  constructing := by
    rintro context ⟨breadcrumb, isConstructing⟩
    cases isConstructing

/-! ## What the events keep -/

section Steps

variable {commissioner after : DeviceCommissioner} {context : Nat}

theorem phase_setPhase (commissioner : DeviceCommissioner) (context other : Nat)
    (phase : ContextPhase) :
    ((commissioner.setPhase context phase).contexts other).phase =
      if other = context then phase else (commissioner.contexts other).phase := by
  change (Function.update commissioner.contexts context _ other).phase = _
  rw [Function.update_apply]
  split
  · rfl
  · rfl

theorem phase_beginConstruction (commissioner : DeviceCommissioner) (session : ArmingSession)
    (breadcrumb other : Nat) :
    ((commissioner.beginConstruction session breadcrumb).contexts other).phase =
      if other = commissioner.constructed then .constructing breadcrumb
      else (commissioner.contexts other).phase := by
  change (Function.update commissioner.contexts commissioner.constructed _ other).phase = _
  rw [Function.update_apply]
  split
  · rfl
  · rfl

theorem installed_of_phase {phase : ContextPhase}
    (isPhase : (commissioner.contexts context).phase = phase)
    (still : phase ∈ ([.armed, .disarmed, .released] : List ContextPhase)) :
    commissioner.Installed context := by
  rw [Installed, isPhase]
  exact still

variable (exclusive : commissioner.Exclusive)

include exclusive

theorem Exclusive.of_same
    (phases : ∀ other, (after.contexts other).phase = (commissioner.contexts other).phase)
    (constructed : after.constructed = commissioner.constructed)
    (current : after.failsafeContext = commissioner.failsafeContext) : after.Exclusive where
  fresh := by
    intro other new
    rw [phases]
    exact exclusive.fresh other (constructed ▸ new)
  current := by
    intro other
    rw [Installed, phases, current]
    exact exclusive.current other
  constructing := by
    intro other isConstructing
    rw [Constructing, phases] at isConstructing
    rw [current]
    refine ⟨(exclusive.constructing other isConstructing).1, ?_⟩
    intro third isThird
    rw [Constructing, phases] at isThird
    exact (exclusive.constructing other isConstructing).2 third isThird

theorem Exclusive.setPhase (installed : commissioner.Installed context) {phase : ContextPhase}
    (still : phase ∈ ([.armed, .disarmed, .released] : List ContextPhase)) :
    (commissioner.setPhase context phase).Exclusive where
  fresh := by
    intro other new
    rw [phase_setPhase]
    split
    · rename_i isContext
      rw [isContext] at new
      rw [Installed, exclusive.fresh context new] at installed
      simp at installed
    · exact exclusive.fresh other new
  current := by
    intro other
    rw [Installed, phase_setPhase]
    split
    · rename_i isContext
      rw [isContext]
      exact iff_of_true still ((exclusive.current context).mp installed)
    · exact exclusive.current other
  constructing := by
    have isOther : ∀ other, (commissioner.setPhase context phase).Constructing other →
        commissioner.Constructing other := by
      rintro other ⟨breadcrumb, isConstructing⟩
      rw [phase_setPhase] at isConstructing
      split at isConstructing
      · rw [isConstructing] at still
        simp at still
      · exact ⟨breadcrumb, isConstructing⟩
    intro other isConstructing
    have before := exclusive.constructing other (isOther other isConstructing)
    exact ⟨before.1, fun third isThird => before.2 third (isOther third isThird)⟩

theorem Exclusive.close
    (alone : commissioner.failsafeContext = none ∨ commissioner.failsafeContext = some context)
    (known : (commissioner.contexts context).phase ≠ .unused) :
    Exclusive { commissioner.setPhase context .closed with failsafeContext := none } where
  fresh := by
    intro other new
    rw [phase_setPhase]
    split
    · rename_i isContext
      rw [isContext] at new
      exact absurd (exclusive.fresh context new) known
    · exact exclusive.fresh other new
  current := by
    intro other
    refine iff_of_false ?_ nofun
    intro installed
    change ((commissioner.setPhase context .closed).contexts other).phase ∈ _ at installed
    rw [phase_setPhase] at installed
    split at installed
    · simp at installed
    · rename_i isOther
      have isCurrent := (exclusive.current other).mp installed
      rcases alone with none | own
      · rw [none] at isCurrent
        cases isCurrent
      · rw [own] at isCurrent
        exact isOther (Option.some.inj isCurrent).symm
  constructing := by
    have isOther : ∀ other, (commissioner.setPhase context .closed).Constructing other →
        commissioner.Constructing other := by
      rintro other ⟨breadcrumb, isConstructing⟩
      rw [phase_setPhase] at isConstructing
      split at isConstructing
      · cases isConstructing
      · exact ⟨breadcrumb, isConstructing⟩
    intro other isConstructing
    have before := exclusive.constructing other (isOther other isConstructing)
    exact ⟨rfl, fun third isThird => before.2 third (isOther third isThird)⟩

theorem Exclusive.beginConstruction
    (session : ArmingSession) (breadcrumb : Nat) (none : commissioner.failsafeContext = none)
    (unhurried : ∀ other, ¬ commissioner.Constructing other) :
    (commissioner.beginConstruction session breadcrumb).Exclusive where
  fresh := by
    intro other new
    have isNew : commissioner.constructed + 1 ≤ other := new
    rw [phase_beginConstruction, if_neg (by omega)]
    exact exclusive.fresh other (by omega)
  current := by
    intro other
    rw [Installed, phase_beginConstruction]
    split
    · refine iff_of_false (by simp) ?_
      rw [show (commissioner.beginConstruction session breadcrumb).failsafeContext = _ from none]
      exact nofun
    · exact exclusive.current other
  constructing := by
    have isNew : ∀ other, (commissioner.beginConstruction session breadcrumb).Constructing other →
        other = commissioner.constructed := by
      rintro other ⟨own, isConstructing⟩
      rw [phase_beginConstruction] at isConstructing
      split at isConstructing
      · assumption
      · exact absurd ⟨own, isConstructing⟩ (unhurried other)
    intro other isConstructing
    refine ⟨none, ?_⟩
    intro third isThird
    rw [isNew other isConstructing, isNew third isThird]

theorem Exclusive.beginTimed {breadcrumb : Nat}
    (isConstructing : (commissioner.contexts context).phase = .constructing breadcrumb) :
    (commissioner.beginTimed context breadcrumb).Exclusive := by
  have alone := exclusive.constructing context ⟨breadcrumb, isConstructing⟩
  have nobody : ∀ other, ¬ commissioner.Installed other := by
    intro other installed
    have isCurrent := (exclusive.current other).mp installed
    rw [alone.1] at isCurrent
    cases isCurrent
  constructor
  · intro other new
    change ((commissioner.setPhase context .armed).contexts other).phase = .unused
    rw [phase_setPhase]
    split
    · rename_i isContext
      rw [isContext] at new
      have unused := exclusive.fresh context new
      rw [isConstructing] at unused
      cases unused
    · exact exclusive.fresh other new
  · intro other
    change ((commissioner.setPhase context .armed).contexts other).phase ∈ _ ↔
      some context = some other
    rw [phase_setPhase]
    split
    · rename_i isContext
      exact iff_of_true (by decide) (congrArg some isContext.symm)
    · rename_i isOther
      refine iff_of_false (nobody other) ?_
      intro same
      exact isOther (Option.some.inj same).symm
  · rintro other ⟨own, isOther⟩
    change ((commissioner.setPhase context .armed).contexts other).phase = _ at isOther
    rw [phase_setPhase] at isOther
    split at isOther
    · cases isOther
    · rename_i different
      exact absurd (alone.2 other ⟨own, isOther⟩) different

theorem Exclusive.extend (session : ArmingSession)
    (request : ArmFailSafeRequest) : (commissioner.extend context session request).Exclusive := by
  rw [DeviceCommissioner.extend]
  split
  · rename_i isArmed
    split
    · exact exclusive.of_same (fun _ => rfl) rfl rfl
    · split
      · have disarmed : (commissioner.setPhase context .disarmed).Exclusive :=
          exclusive.setPhase (installed_of_phase isArmed (by decide)) (by decide)
        exact disarmed.of_same (fun _ => rfl) rfl rfl
      · exact exclusive.of_same (fun _ => rfl) rfl rfl
  · exact exclusive.of_same (fun _ => rfl) rfl rfl
  · exact exclusive.of_same (fun _ => rfl) rfl rfl

theorem Exclusive.armFailSafe (session : ArmingSession)
    (request : ArmFailSafeRequest) (unhurried : commissioner.failsafeContext = none →
      ∀ other, ¬ commissioner.Constructing other) :
    (commissioner.armFailSafe session request).Exclusive := by
  rw [DeviceCommissioner.armFailSafe]
  split
  · exact exclusive.of_same (fun _ => rfl) rfl rfl
  · split
    · exact exclusive.extend session request
    · rename_i none
      split
      · exact exclusive.of_same (fun _ => rfl) rfl rfl
      · exact exclusive.beginConstruction session request.breadcrumb none (unhurried none)

theorem Exclusive.addFabric (fabricIndex : Nat) :
    (commissioner.addFabric fabricIndex).Exclusive := by
  rw [DeviceCommissioner.addFabric]
  split
  · rename_i current isCurrent
    apply exclusive.of_same
    · intro other
      by_cases isContext : other = current
      · rw [isContext]
        simp
      · simp [Function.update_of_ne isContext]
    · rfl
    · rfl
  · exact exclusive

theorem Exclusive.commissioningComplete
    (session : ArmingSession) : (commissioner.commissioningComplete session).Exclusive := by
  rw [DeviceCommissioner.commissioningComplete]
  split
  · exact exclusive.of_same (fun _ => rfl) rfl rfl
  · split
    · exact exclusive.of_same (fun _ => rfl) rfl rfl
    · split
      · exact exclusive.of_same (fun _ => rfl) rfl rfl
      · split
        · rename_i isArmed
          exact exclusive.setPhase (installed_of_phase isArmed (by decide)) (by decide)
        · exact exclusive

end Steps

theorem Exclusive.step {commissioner : DeviceCommissioner} {event : Event}
    (unhurried : commissioner.Unhurried event) (exclusive : commissioner.Exclusive) :
    (commissioner.step event).Exclusive := by
  cases event with
  | armFailSafe session request => exact exclusive.armFailSafe session request unhurried
  | sessionAdded session =>
    rw [DeviceCommissioner.step]
    split
    · exact exclusive
    · exact exclusive.armFailSafe session _ unhurried
  | construction context =>
    rw [DeviceCommissioner.step]
    split
    · rename_i isConstructing
      exact exclusive.beginTimed isConstructing
    · exact exclusive
  | constructionFails context message =>
    rw [DeviceCommissioner.step]
    split
    · rename_i breadcrumb isConstructing
      have none := (exclusive.constructing context ⟨breadcrumb, isConstructing⟩).1
      have closed := exclusive.close (.inl none) (by rw [isConstructing]; exact nofun)
      exact closed.of_same (fun _ => rfl) rfl none
    · exact exclusive
  | timerExpires context =>
    rw [DeviceCommissioner.step]
    split
    · rename_i isArmed
      exact exclusive.setPhase (installed_of_phase isArmed (by decide)) (by decide)
    · exact exclusive
  | addFabric fabricIndex => exact exclusive.addFabric fabricIndex
  | commissioningComplete session => exact exclusive.commissioningComplete session
  | release context =>
    rw [DeviceCommissioner.step]
    split
    · rename_i isDisarmed
      exact exclusive.setPhase (installed_of_phase isDisarmed (by decide)) (by decide)
    · exact exclusive
  | destroyed context =>
    rw [DeviceCommissioner.step]
    split
    · rename_i isReleased
      have own := (exclusive.current context).mp (installed_of_phase isReleased (by decide))
      have closed := exclusive.close (.inr own) (by rw [isReleased]; exact nofun)
      exact closed.of_same (fun _ => rfl) rfl rfl
    · exact exclusive
  | window isOpen => exact exclusive.of_same (fun _ => rfl) rfl rfl

/-- Where nothing arms the unarmed fail-safe while the context of another arming is
constructed, a context whose timer runs is at every moment the only one, and the
commissioner's. -/
theorem oneLive_of_along {events : List Event} (unhurried : Along step Unhurried new events) :
    ∀ earlier, earlier <+: events → (run step new earlier).OneLive := by
  rintro earlier ⟨later, rfl⟩
  rw [along_append] at unhurried
  exact (run_invariant_along Exclusive (fun _ _ => Exclusive.step) exclusive_new
    unhurried.1).oneLive

/-- A context that is armed and extended, before it expires. -/
theorem oneLive_extended :
    (run step new [.sessionAdded ⟨true, none⟩, .construction 0,
      .armFailSafe ⟨true, none⟩ ⟨1, 120⟩]).OneLive := by
  apply @oneLive_of_along [.sessionAdded ⟨true, none⟩, .construction 0,
    .armFailSafe ⟨true, none⟩ ⟨1, 120⟩, .timerExpires 0]
  · refine ⟨?_, trivial, ?_, trivial, trivial⟩
    · rintro - context ⟨breadcrumb, isConstructing⟩
      cases isConstructing
    · intro none
      cases none
  · exact ⟨[.timerExpires 0], rfl⟩

/-- Two PASE sessions whose arming overlaps: the timers of two contexts run. -/
theorem oneLive_overlapping_false :
    ¬ ∀ earlier, earlier <+: [.sessionAdded ⟨true, none⟩, .sessionAdded ⟨true, none⟩,
      .construction 0, .construction 1] → (run step new earlier).OneLive := by
  intro one
  have live := one _ List.prefix_rfl 0 (by rfl)
  cases live.2

end DeviceCommissioner

end MatterJs.Protocol
