import Mathlib.Data.List.Basic
import Mathlib.Order.Basic

/-! The callbacks that a fabric runs when it is removed, and its sessions that it destroys
then. -/

namespace MatterJs.Protocol.RemoveCallbacks

/-- One entry of `#removeCallbacks`. A function that is registered again is another entry. -/
structure Registration (Callback : Type*) where
  callback : Callback
  /-- Later entries have higher numbers. -/
  order : Nat
  deriving DecidableEq

structure Awaited (Callback World : Type*) where
  world : World
  /-- The arguments of `deleteRemoveCallback` meanwhile. -/
  deregistered : List Callback
  throws : Bool

structure Surroundings (Callback Session World : Type*) where
  call : Callback → World → Awaited Callback World
  sessions : World → List Session
  sessionId : Session → Nat
  /-- `session.destroy(false, closeAfterExchangeFinished)`, and whether it throws -/
  destroy : Session → Bool → World → World × Bool

inductive Happening (Callback : Type*) where
  | invoked (registration : Registration Callback)
  | deregistered (registration : Registration Callback)
  deriving DecidableEq

variable {Callback Session World : Type*} [DecidableEq Callback]

def registered (callback : Callback) (registration : Registration Callback) : Bool :=
  registration.callback = callback

def deleteRemoveCallback (callbacks : List (Registration Callback)) (callback : Callback) :
    List (Registration Callback) := callbacks.eraseP (registered callback)

def deleteRemoveCallbacks (callbacks : List (Registration Callback))
    (deregistered : List Callback) : List (Registration Callback) :=
  deregistered.foldl deleteRemoveCallback callbacks

/-- What the deregistrations take out of the array. -/
def deletions (callbacks : List (Registration Callback)) :
    List Callback → List (Happening Callback)
  | [] => []
  | callback :: deregistered =>
    (callbacks.find? (registered callback)).toList.map .deregistered ++
      deletions (deleteRemoveCallback callbacks callback) deregistered

structure Outcome (Callback World : Type*) where
  happenings : List (Happening Callback)
  world : World
  throws : Bool

def Outcome.after (outcome : Outcome Callback World) (earlier : List (Happening Callback)) :
    Outcome Callback World :=
  { outcome with happenings := earlier ++ outcome.happenings }

theorem length_deleteRemoveCallbacks_le (callbacks : List (Registration Callback))
    (deregistered : List Callback) :
    (deleteRemoveCallbacks callbacks deregistered).length ≤ callbacks.length := by
  induction deregistered generalizing callbacks with
  | nil => exact Nat.le_refl _
  | cons callback deregistered induction =>
    exact Nat.le_trans (induction _) List.length_eraseP_le

/-- The loop over the live array, from a position on -/
def runCallbacks (surroundings : Surroundings Callback Session World)
    (callbacks : List (Registration Callback)) (position : Nat) (world : World) :
    Outcome Callback World :=
  if inside : position < callbacks.length then
    let registration := callbacks[position]
    let awaited := surroundings.call registration.callback world
    let happenings := .invoked registration :: deletions callbacks awaited.deregistered
    if awaited.throws then ⟨happenings, awaited.world, true⟩
    else
      (runCallbacks surroundings (deleteRemoveCallbacks callbacks awaited.deregistered)
        (position + 1) awaited.world).after happenings
  else ⟨[], world, false⟩
termination_by callbacks.length - position
decreasing_by
  have shorter := length_deleteRemoveCallbacks_le callbacks
    (surroundings.call callbacks[position].callback world).deregistered
  omega

/-- The sessions whose destruction has come to its end, in their order -/
def destroySessions (surroundings : Surroundings Callback Session World)
    (currentSessionId : Option Nat) : List Session → World → List Session
  | [], _ => []
  | session :: sessions, world =>
    let destroyed := surroundings.destroy session
      (some (surroundings.sessionId session) = currentSessionId) world
    if destroyed.2 then []
    else session :: destroySessions surroundings currentSessionId sessions destroyed.1

structure Removal (Callback Session World : Type*) where
  happenings : List (Happening Callback)
  /-- The state when the loop over the callbacks ends. -/
  world : World
  destroyed : List Session

def registrations (callbacks : List Callback) : List (Registration Callback) :=
  callbacks.zipIdx.map fun entry => ⟨entry.1, entry.2⟩

def remove (surroundings : Surroundings Callback Session World)
    (callbacks : List (Registration Callback)) (currentSessionId : Option Nat) (world : World) :
    Removal Callback Session World :=
  let outcome := runCallbacks surroundings callbacks 0 world
  { happenings := outcome.happenings
    world := outcome.world
    destroyed :=
      if outcome.throws then []
      else destroySessions surroundings currentSessionId (surroundings.sessions outcome.world)
        outcome.world }

/-- A callback is deregistered while only earlier ones have been invoked. -/
def DeregisteredInTime (registration : Registration Callback) :
    List (Happening Callback) → Prop
  | [] => False
  | .invoked other :: happenings =>
    other.order < registration.order ∧ DeregisteredInTime registration happenings
  | .deregistered other :: happenings =>
    other = registration ∨ DeregisteredInTime registration happenings

def RunsOnce (registration : Registration Callback) (happenings : List (Happening Callback)) :
    Prop :=
  happenings.count (.invoked registration) = 1 ∨ DeregisteredInTime registration happenings

/-- Every callback runs once that is not deregistered before its turn, and then every session
is destroyed. -/
def RemovesCompletely (surroundings : Surroundings Callback Session World)
    (callbacks : List (Registration Callback)) (removal : Removal Callback Session World) : Prop :=
  (∀ registration ∈ callbacks, RunsOnce registration removal.happenings) ∧
    removal.destroyed = surroundings.sessions removal.world

def NoneThrows (surroundings : Surroundings Callback Session World)
    (currentSessionId : Option Nat) : List Session → World → Prop
  | [], _ => True
  | session :: sessions, world =>
    let destroyed := surroundings.destroy session
      (some (surroundings.sessionId session) = currentSessionId) world
    destroyed.2 = false ∧ NoneThrows surroundings currentSessionId sessions destroyed.1

/-- From a position on, a callback that deregisters itself or an earlier one leaves none
registered behind it. One that throws leaves none either, and no session. The destruction of
the sessions does not throw. -/
def Undisturbed (surroundings : Surroundings Callback Session World)
    (currentSessionId : Option Nat) (callbacks : List (Registration Callback)) (position : Nat)
    (world : World) : Prop :=
  if inside : position < callbacks.length then
    let registration := callbacks[position]
    let awaited := surroundings.call registration.callback world
    let remaining := deleteRemoveCallbacks callbacks awaited.deregistered
    let isLast := ∀ other ∈ remaining, other.order ≤ registration.order
    (remaining.take (position + 1) = callbacks.take (position + 1) ∨ isLast) ∧
      if awaited.throws then isLast ∧ surroundings.sessions awaited.world = []
      else Undisturbed surroundings currentSessionId remaining (position + 1) awaited.world
  else NoneThrows surroundings currentSessionId (surroundings.sessions world) world
termination_by callbacks.length - position
decreasing_by
  have shorter := length_deleteRemoveCallbacks_le callbacks
    (surroundings.call callbacks[position].callback world).deregistered
  omega

omit [DecidableEq Callback] in
theorem destroySessions_eq_iff (surroundings : Surroundings Callback Session World)
    (currentSessionId : Option Nat) (sessions : List Session) (world : World) :
    destroySessions surroundings currentSessionId sessions world = sessions ↔
      NoneThrows surroundings currentSessionId sessions world := by
  induction sessions generalizing world with
  | nil => exact iff_of_true rfl trivial
  | cons session sessions induction =>
    rw [destroySessions, NoneThrows]
    cases throws : (surroundings.destroy session
      (some (surroundings.sessionId session) = currentSessionId) world).2 with
    | true => simp
    | false => simp [induction]

/-! ## Deregistering -/

theorem deleteRemoveCallbacks_sublist (callbacks : List (Registration Callback))
    (deregistered : List Callback) :
    (deleteRemoveCallbacks callbacks deregistered).Sublist callbacks := by
  induction deregistered generalizing callbacks with
  | nil => exact .refl _
  | cons callback deregistered induction =>
    exact (induction _).trans List.eraseP_sublist

variable {callbacks remaining : List (Registration Callback)}
  {surroundings : Surroundings Callback Session World} {position : Nat} {world : World}
  {registration : Registration Callback}

theorem mem_deleteRemoveCallback_iff (nodup : callbacks.Nodup) (callback : Callback)
    (registration : Registration Callback) :
    registration ∈ deleteRemoveCallback callbacks callback ↔ registration ∈ callbacks ∧
      callbacks.find? (registered callback) ≠ some registration := by
  induction callbacks with
  | nil => simp [deleteRemoveCallback]
  | cons first callbacks induction =>
    rw [List.nodup_cons] at nodup
    unfold deleteRemoveCallback at induction ⊢
    cases isFirst : registered callback first with
    | true =>
      rw [List.eraseP_cons_of_pos isFirst, List.find?_cons_of_pos isFirst, List.mem_cons]
      constructor
      · intro member
        refine ⟨.inr member, fun same => nodup.1 ?_⟩
        rw [Option.some.inj same]
        exact member
      · rintro ⟨same | member, other⟩
        · exact absurd (congrArg some same.symm) other
        · exact member
    | false =>
      have isOther : ¬registered callback first = true := by simp [isFirst]
      rw [List.eraseP_cons_of_neg isOther, List.find?_cons_of_neg isOther, List.mem_cons,
        List.mem_cons, induction nodup.2]
      constructor
      · rintro (same | ⟨member, notFound⟩)
        · refine ⟨.inl same, fun found => nodup.1 ?_⟩
          rw [← same]
          exact List.mem_of_find?_eq_some found
        · exact ⟨.inr member, notFound⟩
      · rintro ⟨same | member, notFound⟩
        · exact .inl same
        · exact .inr ⟨member, notFound⟩

theorem invoked_notMem_deletions (callbacks : List (Registration Callback))
    (deregistered : List Callback) (registration : Registration Callback) :
    .invoked registration ∉ deletions callbacks deregistered := by
  induction deregistered generalizing callbacks with
  | nil => exact List.not_mem_nil
  | cons callback deregistered induction => simp [deletions, induction]

theorem deregistered_mem_deletions_iff (nodup : callbacks.Nodup) (deregistered : List Callback)
    (registration : Registration Callback) :
    .deregistered registration ∈ deletions callbacks deregistered ↔
      registration ∈ callbacks ∧
        registration ∉ deleteRemoveCallbacks callbacks deregistered := by
  induction deregistered generalizing callbacks with
  | nil => simp [deletions, deleteRemoveCallbacks]
  | cons callback deregistered induction =>
    have first : Happening.deregistered registration ∈
        (callbacks.find? (registered callback)).toList.map Happening.deregistered ↔
        callbacks.find? (registered callback) = some registration := by
      simp
    have later : (deleteRemoveCallback callbacks callback).Nodup :=
      nodup.sublist List.eraseP_sublist
    have isGone : callbacks.find? (registered callback) = some registration →
        registration ∉ deleteRemoveCallbacks callbacks (callback :: deregistered) := by
      intro found member
      have stays := (deleteRemoveCallbacks_sublist _ deregistered).subset member
      exact ((mem_deleteRemoveCallback_iff nodup callback registration).mp stays).2 found
    rw [deletions, List.mem_append, first, induction later, mem_deleteRemoveCallback_iff nodup]
    constructor
    · rintro (found | ⟨⟨member, _⟩, gone⟩)
      · exact ⟨List.mem_of_find?_eq_some found, isGone found⟩
      · exact ⟨member, gone⟩
    · rintro ⟨member, gone⟩
      by_cases found : callbacks.find? (registered callback) = some registration
      · exact .inl found
      · exact .inr ⟨⟨member, found⟩, gone⟩

omit [DecidableEq Callback] in
theorem deregisteredInTime_append {earlier : List (Happening Callback)}
    (noInvocation : ∀ registration, .invoked registration ∉ earlier)
    (later : List (Happening Callback)) (registration : Registration Callback) :
    DeregisteredInTime registration (earlier ++ later) ↔
      .deregistered registration ∈ earlier ∨ DeregisteredInTime registration later := by
  induction earlier with
  | nil => simp
  | cons happening earlier induction =>
    have others := induction fun other member =>
      noInvocation other (List.mem_cons_of_mem _ member)
    cases happening with
    | invoked other => exact absurd (List.mem_cons_self ..) (noInvocation other)
    | deregistered other =>
      rw [List.cons_append, DeregisteredInTime, others, List.mem_cons,
        Happening.deregistered.injEq, or_assoc, eq_comm]

def Ordered (callbacks : List (Registration Callback)) : Prop :=
  callbacks.Pairwise fun earlier later => earlier.order < later.order

omit [DecidableEq Callback] in
theorem Ordered.nodup (ordered : Ordered callbacks) : callbacks.Nodup := by
  apply List.Pairwise.imp _ ordered
  intro earlier later less same
  exact Nat.lt_irrefl _ (same ▸ less)

omit [DecidableEq Callback] in
theorem ordered_registrations (callbacks : List Callback) : Ordered (registrations callbacks) := by
  have orders : (callbacks.zipIdx.map Prod.snd).Pairwise (· < ·) := by
    rw [List.zipIdx_map_snd]
    exact List.pairwise_lt_range'
  rw [List.pairwise_map] at orders
  exact List.pairwise_map.mpr orders

theorem runCallbacks_nil (outside : callbacks.length ≤ position) (world : World) :
    runCallbacks surroundings callbacks position world = ⟨[], world, false⟩ := by
  rw [runCallbacks, dif_neg (Nat.not_lt.mpr outside)]

theorem runCallbacks_of_throws (inside : position < callbacks.length)
    (throws : (surroundings.call callbacks[position].callback world).throws = true) :
    runCallbacks surroundings callbacks position world =
      ⟨.invoked callbacks[position] ::
        deletions callbacks (surroundings.call callbacks[position].callback world).deregistered,
        (surroundings.call callbacks[position].callback world).world, true⟩ := by
  rw [runCallbacks, dif_pos inside]
  exact if_pos throws

theorem runCallbacks_of_completes (inside : position < callbacks.length)
    (completes : (surroundings.call callbacks[position].callback world).throws = false) :
    runCallbacks surroundings callbacks position world =
      (runCallbacks surroundings
        (deleteRemoveCallbacks callbacks
          (surroundings.call callbacks[position].callback world).deregistered) (position + 1)
        (surroundings.call callbacks[position].callback world).world).after
        (.invoked callbacks[position] :: deletions callbacks
          (surroundings.call callbacks[position].callback world).deregistered) := by
  rw [runCallbacks, dif_pos inside]
  exact if_neg (by rw [completes]; exact Bool.false_ne_true)

omit [DecidableEq Callback] in
/-- The array around a position, before and after some deregistrations -/
theorem exists_remaining (ordered : Ordered callbacks) (fewer : remaining.Sublist callbacks)
    (inside : position < callbacks.length) :
    ∃ low high, remaining = low ++ high ∧ low.Sublist (callbacks.take (position + 1)) ∧
      high.Sublist (callbacks.drop (position + 1)) ∧
      (∀ other ∈ callbacks.take (position + 1), other.order ≤ callbacks[position].order) ∧
      ∀ other ∈ callbacks.drop (position + 1), callbacks[position].order < other.order := by
  rw [← List.take_append_drop (position + 1) callbacks] at fewer
  rcases List.sublist_append_iff.mp fewer with ⟨low, high, split, lowFewer, highFewer⟩
  refine ⟨low, high, split, lowFewer, highFewer, ?_, ?_⟩
  · intro other member
    rcases List.mem_take_iff_getElem.mp member with ⟨index, bound, rfl⟩
    rcases Nat.lt_or_eq_of_le (by omega : index ≤ position) with less | rfl
    · exact Nat.le_of_lt (List.pairwise_iff_getElem.mp ordered _ _ _ _ less)
    · exact Nat.le_refl _
  · intro other member
    rcases List.mem_drop_iff_getElem.mp member with ⟨index, bound, rfl⟩
    exact List.pairwise_iff_getElem.mp ordered _ _ _ _ (by omega)

theorem invoked_mem_drop (ordered : Ordered callbacks) (invoked : .invoked registration ∈
      (runCallbacks surroundings callbacks position world).happenings) :
    registration ∈ callbacks.drop position := by
  induction callbacks, position, world using runCallbacks.induct surroundings with
  | case1 callbacks position world inside current awaited throws =>
    rw [runCallbacks_of_throws inside throws, List.mem_cons] at invoked
    rcases invoked with same | deleted
    · rw [Happening.invoked.inj same, List.drop_eq_getElem_cons inside]
      exact List.mem_cons_self ..
    · exact absurd deleted (invoked_notMem_deletions _ _ _)
  | case2 callbacks position world inside current awaited completes induction =>
    have fewer := deleteRemoveCallbacks_sublist callbacks awaited.deregistered
    rw [runCallbacks_of_completes inside (Bool.eq_false_iff.mpr completes)] at invoked
    rw [List.drop_eq_getElem_cons inside, List.mem_cons]
    rcases List.mem_append.mp invoked with now | later
    · rcases List.mem_cons.mp now with same | deleted
      · exact .inl (Happening.invoked.inj same)
      · exact absurd deleted (invoked_notMem_deletions _ _ _)
    · refine .inr ?_
      have member := induction (ordered.sublist fewer) later
      exact (fewer.drop (position + 1)).subset member
  | case3 callbacks position world outside =>
    rw [runCallbacks_nil (Nat.not_lt.mp outside)] at invoked
    exact absurd invoked List.not_mem_nil

/-! ## Each turn of the loop -/

theorem runsOnce_current {deleted later : List (Happening Callback)}
    (noInvocation : ∀ other, .invoked other ∉ deleted) (notLater : .invoked registration ∉ later) :
    RunsOnce registration (.invoked registration :: deleted ++ later) := by
  refine .inl ?_
  rw [List.cons_append, List.count_cons_self, List.count_append,
    List.count_eq_zero.mpr (noInvocation _), List.count_eq_zero.mpr notLater]

theorem runsOnce_behind {other : Registration Callback} (behind : registration.order < other.order)
    {deleted : List (Happening Callback)} (noInvocation : ∀ other, .invoked other ∉ deleted)
    (later : List (Happening Callback)) :
    RunsOnce other (.invoked registration :: deleted ++ later) ↔
      .deregistered other ∈ deleted ∨ RunsOnce other later := by
  have different : Happening.invoked registration ≠ .invoked other := by
    intro same
    rw [Happening.invoked.inj same] at behind
    exact Nat.lt_irrefl _ behind
  unfold RunsOnce
  rw [List.cons_append, List.count_cons_of_ne different, List.count_append,
    List.count_eq_zero.mpr (noInvocation _), Nat.zero_add, DeregisteredInTime,
    deregisteredInTime_append noInvocation, and_iff_right behind]
  exact or_left_comm

theorem not_runsOnce_skipped {low high : List (Registration Callback)}
    {skipped : Registration Callback} (ordered : Ordered (low ++ skipped :: high))
    (before : low.length < position) (world : World) :
    ¬RunsOnce skipped
      (runCallbacks surroundings (low ++ skipped :: high) position world).happenings := by
  have drop : (low ++ skipped :: high).drop position = high.drop (position - low.length - 1) := by
    rw [List.drop_append, List.drop_eq_nil_of_le (Nat.le_of_lt before), List.nil_append]
    obtain ⟨rest, isRest⟩ := Nat.exists_eq_add_of_lt before
    rw [show position - low.length = rest + 1 by omega, List.drop_succ_cons, Nat.add_sub_cancel]
  have later : ∀ other ∈ (low ++ skipped :: high).drop position, skipped.order < other.order := by
    intro other member
    rw [drop] at member
    have tail := (List.pairwise_append.mp ordered).2.1
    exact (List.pairwise_cons.mp tail).1 other (List.mem_of_mem_drop member)
  rintro (once | inTime)
  · have invoked := List.count_pos_iff.mp (Nat.lt_of_lt_of_eq Nat.zero_lt_one once.symm)
    exact Nat.lt_irrefl _ (later skipped (invoked_mem_drop ordered invoked))
  · by_cases inside : position < (low ++ skipped :: high).length
    · have next := later _ (by
        rw [List.drop_eq_getElem_cons inside]
        exact List.mem_cons_self ..)
      have first : ∃ happenings, (runCallbacks surroundings (low ++ skipped :: high) position
          world).happenings =
          .invoked (low ++ skipped :: high)[position] :: happenings := by
        cases throws : (surroundings.call (low ++ skipped :: high)[position].callback
          world).throws with
        | true => exact ⟨_, by rw [runCallbacks_of_throws inside throws]⟩
        | false =>
          exact ⟨_, by
            rw [runCallbacks_of_completes inside throws]
            rfl⟩
      rcases first with ⟨happenings, isFirst⟩
      rw [isFirst] at inTime
      exact Nat.lt_asymm next inTime.1
    · rw [runCallbacks_nil (Nat.not_lt.mp inside)] at inTime
      exact inTime

def Outcome.destroyed (surroundings : Surroundings Callback Session World)
    (currentSessionId : Option Nat) (outcome : Outcome Callback World) : List Session :=
  if outcome.throws then []
  else destroySessions surroundings currentSessionId (surroundings.sessions outcome.world)
    outcome.world

def CompletesFrom (surroundings : Surroundings Callback Session World)
    (currentSessionId : Option Nat) (pending : List (Registration Callback))
    (outcome : Outcome Callback World) : Prop :=
  (∀ registration ∈ pending, RunsOnce registration outcome.happenings) ∧
    outcome.destroyed surroundings currentSessionId = surroundings.sessions outcome.world

/-- What is left to do after a turn, where no entry behind it slips -/
theorem pending_iff (ordered : Ordered callbacks) (fewer : remaining.Sublist callbacks)
    (inside : position < callbacks.length)
    (stay : remaining.take (position + 1) = callbacks.take (position + 1) ∨
      ∀ other ∈ remaining, other.order ≤ callbacks[position].order)
    (Runs : Registration Callback → Prop) :
    (∀ other ∈ callbacks.drop (position + 1), other ∉ remaining ∨ Runs other) ↔
      ∀ other ∈ remaining.drop (position + 1), Runs other := by
  rcases exists_remaining ordered fewer inside with
    ⟨low, high, split, lowFewer, highFewer, notLater, later⟩
  have length := lowFewer.length_le
  rw [List.length_take, Nat.min_eq_left inside] at length
  have dropHigh : remaining.drop (position + 1) = high := by
    rw [split, List.drop_append, List.drop_eq_nil_of_le length, List.nil_append]
    cases high with
    | nil => exact List.drop_nil
    | cons first high =>
      have behind := later first (highFewer.subset (List.mem_cons_self ..))
      rcases stay with same | isLast
      · have full : low.length = position + 1 := by
          by_contra shorter
          have firstTaken : first ∈ remaining.take (position + 1) := by
            rw [split, List.take_append, List.mem_append]
            refine .inr ?_
            obtain ⟨more, isMore⟩ := Nat.exists_eq_add_of_lt (Nat.lt_of_le_of_ne length shorter)
            rw [show position + 1 - low.length = more + 1 by omega]
            exact List.mem_cons_self ..
          rw [same] at firstTaken
          exact absurd behind (Nat.not_lt.mpr (notLater first firstTaken))
        rw [full, Nat.sub_self, List.drop_zero]
      · refine absurd behind (Nat.not_lt.mpr (isLast first ?_))
        rw [split]
        exact List.mem_append_right _ (List.mem_cons_self ..)
  rw [dropHigh]
  constructor
  · intro all other member
    refine (all other (highFewer.subset member)).resolve_left fun gone => gone ?_
    rw [split]
    exact List.mem_append_right _ member
  · intro all other member
    by_cases stays : other ∈ remaining
    · rw [split, List.mem_append] at stays
      refine .inr (all other (stays.resolve_left fun isLow => ?_))
      exact Nat.not_lt.mpr (notLater other (lowFewer.subset isLow)) (later other member)
    · exact .inl stays

theorem stay_of_pending (ordered : Ordered callbacks) (fewer : remaining.Sublist callbacks)
    (inside : position < callbacks.length) (world : World)
    (pending : ∀ other ∈ callbacks.drop (position + 1),
      other ∉ remaining ∨
      RunsOnce other (runCallbacks surroundings remaining (position + 1) world).happenings) :
    remaining.take (position + 1) = callbacks.take (position + 1) ∨
      ∀ other ∈ remaining, other.order ≤ callbacks[position].order := by
  rcases exists_remaining ordered fewer inside with
    ⟨low, high, rfl, lowFewer, highFewer, notLater, later⟩
  cases high with
  | nil =>
    refine .inr fun other member => notLater other (lowFewer.subset ?_)
    rwa [List.append_nil] at member
  | cons first high =>
    refine .inl ?_
    have length := lowFewer.length_le
    rw [List.length_take, Nat.min_eq_left inside] at length
    have full : low.length = position + 1 := by
      by_contra shorter
      apply not_runsOnce_skipped (ordered.sublist fewer) (Nat.lt_of_le_of_ne length shorter) world
      refine (pending first (highFewer.subset (List.mem_cons_self ..))).resolve_left ?_
      exact fun gone => gone (List.mem_append_right _ (List.mem_cons_self ..))
    have same : low = callbacks.take (position + 1) := by
      apply lowFewer.eq_of_length
      rw [full, List.length_take, Nat.min_eq_left inside]
    rw [List.take_append_of_le_length (Nat.le_of_eq full.symm), ← full, List.take_length, full]
    exact same

theorem undisturbed_of_throws {currentSessionId : Option Nat} (inside : position < callbacks.length)
    (throws : (surroundings.call callbacks[position].callback world).throws = true) :
    Undisturbed surroundings currentSessionId callbacks position world ↔
      (∀ other ∈ deleteRemoveCallbacks callbacks
          (surroundings.call callbacks[position].callback world).deregistered,
        other.order ≤ callbacks[position].order) ∧
      surroundings.sessions (surroundings.call callbacks[position].callback world).world = [] := by
  rw [Undisturbed, dif_pos inside]
  simp only [throws]
  exact ⟨And.right, fun all => ⟨.inr all.1, all⟩⟩

theorem undisturbed_of_completes {currentSessionId : Option Nat}
    (inside : position < callbacks.length)
    (completes : (surroundings.call callbacks[position].callback world).throws = false) :
    Undisturbed surroundings currentSessionId callbacks position world ↔
      ((deleteRemoveCallbacks callbacks
          (surroundings.call callbacks[position].callback world).deregistered).take
            (position + 1) = callbacks.take (position + 1) ∨
        ∀ other ∈ deleteRemoveCallbacks callbacks
            (surroundings.call callbacks[position].callback world).deregistered,
          other.order ≤ callbacks[position].order) ∧
      Undisturbed surroundings currentSessionId
        (deleteRemoveCallbacks callbacks
          (surroundings.call callbacks[position].callback world).deregistered) (position + 1)
        (surroundings.call callbacks[position].callback world).world := by
  rw [Undisturbed, dif_pos inside]
  simp [completes]

theorem completesFrom_iff (surroundings : Surroundings Callback Session World)
    (currentSessionId : Option Nat) (ordered : Ordered callbacks) (position : Nat) (world : World) :
    CompletesFrom surroundings currentSessionId (callbacks.drop position)
        (runCallbacks surroundings callbacks position world) ↔
      Undisturbed surroundings currentSessionId callbacks position world := by
  induction callbacks, position, world using runCallbacks.induct surroundings with
  | case1 callbacks position world inside current awaited throws =>
    have fewer := deleteRemoveCallbacks_sublist callbacks awaited.deregistered
    rcases exists_remaining ordered (List.Sublist.refl _) inside with
      ⟨_, _, _, _, _, notLater, later⟩
    have noInvocation := invoked_notMem_deletions callbacks awaited.deregistered
    have currentRuns := @runsOnce_current _ _ current _ [] noInvocation List.not_mem_nil
    have othersRun : (∀ other ∈ callbacks.drop (position + 1), RunsOnce other
        (.invoked current :: deletions callbacks awaited.deregistered ++ [])) ↔
        ∀ other ∈ deleteRemoveCallbacks callbacks awaited.deregistered,
          other.order ≤ current.order := by
      constructor
      · intro all other member
        by_contra behind
        have isBehind : other ∈ callbacks.drop (position + 1) := by
          have whole := fewer.subset member
          rw [← List.take_append_drop (position + 1) callbacks, List.mem_append] at whole
          exact whole.resolve_left fun isLow => behind (notLater other isLow)
        have runs := all other isBehind
        rw [runsOnce_behind (later other isBehind) noInvocation,
          deregistered_mem_deletions_iff ordered.nodup] at runs
        rcases runs with ⟨_, gone⟩ | once | inTime
        · exact gone member
        · exact absurd once Nat.zero_ne_one
        · exact inTime
      · intro isLast other isBehind
        rw [runsOnce_behind (later other isBehind) noInvocation,
          deregistered_mem_deletions_iff ordered.nodup]
        refine .inl ⟨List.mem_of_mem_drop isBehind, fun member => ?_⟩
        exact Nat.not_lt.mpr (isLast other member) (later other isBehind)
    rw [List.append_nil] at currentRuns othersRun
    rw [undisturbed_of_throws inside throws, runCallbacks_of_throws inside throws,
      CompletesFrom, List.drop_eq_getElem_cons inside, List.forall_mem_cons]
    exact and_congr ((and_iff_right currentRuns).trans othersRun) eq_comm
  | case2 callbacks position world inside current awaited completes induction =>
    have fewer := deleteRemoveCallbacks_sublist callbacks awaited.deregistered
    rcases exists_remaining ordered fewer inside with ⟨_, _, _, _, _, _, later⟩
    have noInvocation := invoked_notMem_deletions callbacks awaited.deregistered
    have notAgain : Happening.invoked current ∉ (runCallbacks surroundings
        (deleteRemoveCallbacks callbacks awaited.deregistered) (position + 1)
        awaited.world).happenings := by
      intro again
      have member := invoked_mem_drop (ordered.sublist fewer) again
      exact Nat.lt_irrefl _ (later current ((fewer.drop (position + 1)).subset member))
    have othersRun : (∀ other ∈ callbacks.drop (position + 1), RunsOnce other
        (.invoked current :: deletions callbacks awaited.deregistered ++
          (runCallbacks surroundings
            (deleteRemoveCallbacks callbacks awaited.deregistered) (position + 1)
            awaited.world).happenings)) ↔
        ∀ other ∈ callbacks.drop (position + 1),
          other ∉ deleteRemoveCallbacks callbacks awaited.deregistered ∨
            RunsOnce other (runCallbacks surroundings
              (deleteRemoveCallbacks callbacks awaited.deregistered) (position + 1)
              awaited.world).happenings := by
      refine forall₂_congr fun other isBehind => ?_
      rw [runsOnce_behind (later other isBehind) noInvocation,
        deregistered_mem_deletions_iff ordered.nodup,
        and_iff_right (List.mem_of_mem_drop isBehind)]
    rw [undisturbed_of_completes inside (Bool.eq_false_iff.mpr completes),
      runCallbacks_of_completes inside (Bool.eq_false_iff.mpr completes),
      CompletesFrom, List.drop_eq_getElem_cons inside, List.forall_mem_cons,
      ← induction (ordered.sublist fewer)]
    constructor
    · rintro ⟨⟨_, others⟩, destroyed⟩
      have pending := othersRun.mp others
      have stay := stay_of_pending ordered fewer inside awaited.world pending
      exact ⟨stay, (pending_iff ordered fewer inside stay _).mp pending, destroyed⟩
    · rintro ⟨stay, pending, destroyed⟩
      refine ⟨⟨runsOnce_current noInvocation notAgain, othersRun.mpr ?_⟩, destroyed⟩
      exact (pending_iff ordered fewer inside stay _).mpr pending
  | case3 callbacks position world outside =>
    rw [Undisturbed, dif_neg outside, runCallbacks_nil (Nat.not_lt.mp outside),
      List.drop_eq_nil_of_le (Nat.not_lt.mp outside)]
    exact (and_iff_right (List.forall_mem_nil _)).trans
      (destroySessions_eq_iff surroundings currentSessionId _ world)

theorem removesCompletely_iff (surroundings : Surroundings Callback Session World)
    (callbacks : List Callback) (currentSessionId : Option Nat) (world : World) :
    RemovesCompletely surroundings (registrations callbacks)
        (remove surroundings (registrations callbacks) currentSessionId world) ↔
      Undisturbed surroundings currentSessionId (registrations callbacks) 0 world :=
  completesFrom_iff surroundings currentSessionId (ordered_registrations callbacks) 0 world

/-- A callback that deregisters itself, as that of a commissioning window does, and another
one behind it -/
def selfDeregistering : Surroundings Bool Nat Unit where
  call := fun callback _ => ⟨(), if callback then [true] else [], false⟩
  sessions := fun _ => []
  sessionId := id
  destroy := fun _ _ world => (world, false)

theorem removesCompletely_false :
    ¬RemovesCompletely selfDeregistering (registrations [true, false])
      (remove selfDeregistering (registrations [true, false]) none ()) := by
  intro complete
  have undisturbed := (completesFrom_iff selfDeregistering none
    (ordered_registrations [true, false]) 0 ()).mp complete
  rw [undisturbed_of_completes (by decide) rfl] at undisturbed
  exact absurd undisturbed.1 (by decide)

end MatterJs.Protocol.RemoveCallbacks
