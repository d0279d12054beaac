import Mathlib.Data.Finset.Basic
import MatterJs.Foundation.Execution
import MatterJs.Foundation.OrderedMap

/-! Endpoint numbers: how the store factory of a node assigns and keeps them, over
deactivation, erasure and restarts. -/

namespace MatterJs.Node

open Execution

/-- The ids from the node down to an endpoint; the node itself has the empty path. -/
abbrev EndpointPath : Type := List String

/-- How `assignNumber` ends. -/
inductive Assignment where
  | assigned (number : Nat)
  | identityConflict (message : String)
  /-- The number is refused by the endpoint. -/
  | illegalNumber (message : String)
  | exhausted (message : String)
  /-- The search goes on for ever. -/
  | endless
  deriving DecidableEq

structure EndpointStoreFactory where
  allocatedNumbers : Finset Nat
  preAllocatedNumbers : Finset Nat
  nextNumber : Nat
  defaultNextNumber : Nat
  /-- The stores in memory, each with its number if it has one. -/
  stores : OrderedMap EndpointPath (Option Nat)
  numbersToPersist : List EndpointPath
  /-- What the storage holds. -/
  storedNumbers : OrderedMap EndpointPath Nat
  storedNextNumber : Option Nat
  /-- The endpoints that have been assigned a number and not been deactivated or erased since. -/
  active : List (EndpointPath × Nat)

namespace EndpointStoreFactory

def firstNumber (stored : Nat) : Nat :=
  if stored % 0xffff = 0 then 1 else stored % 0xffff

def construct (defaultNextNumber : Nat) (preAllocatedNumbers : Finset Nat)
    (storedNumbers : OrderedMap EndpointPath Nat) (storedNextNumber : Option Nat)
    (active : List (EndpointPath × Nat)) : EndpointStoreFactory where
  allocatedNumbers := ∅
  preAllocatedNumbers := preAllocatedNumbers ∪ storedNumbers.values.toFinset
  nextNumber := firstNumber (storedNextNumber.getD defaultNextNumber)
  defaultNextNumber := defaultNextNumber
  stores := storedNumbers.mapValues some
  numbersToPersist := []
  storedNumbers := storedNumbers
  storedNextNumber := storedNextNumber
  active := active

inductive Event where
  | assignNumber (endpoint : EndpointPath) (number : Option Nat)
  | deactivateStoreForEndpoint (endpoint : EndpointPath) (number : Nat)
  | eraseStoreForEndpoint (endpoint : EndpointPath) (number : Nat)
  /-- The worker persists the number of an endpoint. -/
  | saveNumber (endpoint : EndpointPath)
  /-- The worker persists the next number. -/
  | saveNextNumber
  | erase
  /-- The node ends and starts again over what has been persisted. -/
  | restart
  deriving DecidableEq

inductive Search where
  | found (number : Nat)
  | exhausted
  | endless
  deriving DecidableEq

def search (isFree : Nat → Bool) (startNumber : Nat) : Nat → Nat → Search
  | 0, _ => .endless
  | rounds + 1, nextNumber =>
    if isFree nextNumber then .found nextNumber
    else if (nextNumber + 1) % 0xffff = startNumber then .exhausted
    else search isFree startNumber rounds ((nextNumber + 1) % 0xffff)

variable (factory : EndpointStoreFactory) (endpoint : EndpointPath) (number : Nat)

def isFree : Bool :=
  1 ≤ number && number ∉ factory.allocatedNumbers && number ∉ factory.preAllocatedNumbers

/-- Of `0x10000` rounds one comes back to a number that the loop has seen. -/
def searchNumber : Search :=
  search factory.isFree factory.nextNumber 0x10000 factory.nextNumber

def storeNumber : Option Nat :=
  ((factory.stores.get endpoint).getD none).filter (· ≠ 0)

def knownNumber : Option Nat :=
  (factory.storeNumber endpoint).filter (· ∉ factory.allocatedNumbers)

def storeForEndpoint : EndpointStoreFactory :=
  if factory.stores.has endpoint then factory
  else { factory with stores := factory.stores.set endpoint none }

def activate : EndpointStoreFactory :=
  { factory with active := (endpoint, number) :: factory.active }

def reserve : EndpointStoreFactory :=
  { factory.activate endpoint number with
    allocatedNumbers := insert number factory.allocatedNumbers
    stores := factory.stores.set endpoint (some number)
    numbersToPersist := factory.numbersToPersist ++ [endpoint] }

/-- `assignNumber` of an endpoint that has a number -/
def reserveNumber : Assignment × EndpointStoreFactory :=
  if number ∈ factory.allocatedNumbers then
    if (factory.stores.get endpoint).getD none ≠ some number then
      (.identityConflict ("Endpoint " ++ endpoint.getLastD "" ++ " number " ++ toString number ++
        " is allocated to another endpoint"), factory.storeForEndpoint endpoint)
    else (.assigned number, factory.activate endpoint number)
  else (.assigned number, factory.reserve endpoint number)

/-- `assignNumber` of an endpoint that has none -/
def allocateNumber : Assignment × EndpointStoreFactory :=
  match factory.knownNumber endpoint with
  | some number =>
    (.assigned number,
      { factory.activate endpoint number with
        preAllocatedNumbers := factory.preAllocatedNumbers.erase number
        allocatedNumbers := insert number factory.allocatedNumbers })
  | none =>
    match factory.searchNumber with
    | .found number =>
      if number > 0xffff then
        (.illegalNumber ("Endpoint number " ++ toString number ++
          " is greater than the maximum of 65535"),
          { factory.storeForEndpoint endpoint with nextNumber := number + 1 })
      else
        (.assigned number, { factory.reserve endpoint number with nextNumber := number + 1 })
    | .exhausted =>
      (.exhausted "Cannot add additional endpoints because endpoint numbers are exhausted",
        factory.storeForEndpoint endpoint)
    | .endless => (.endless, factory.storeForEndpoint endpoint)

def assignNumber : Option Nat → Assignment × EndpointStoreFactory
  | some number => factory.reserveNumber endpoint number
  | none => factory.allocateNumber endpoint

/-- The node alone has the number zero, and numbers are 16 bits wide. -/
def IsEndpoint : Option Nat → Prop
  | some number => (number = 0 ↔ endpoint = []) ∧ number ≤ 0xffff
  | none => endpoint ≠ []

instance (endpoint : EndpointPath) (number : Option Nat) : Decidable (IsEndpoint endpoint number) :=
  match number with
  | some _ => inferInstanceAs (Decidable (_ ∧ _))
  | none => inferInstanceAs (Decidable (_ ≠ _))

/-! ## The other operations -/

def deactivate : EndpointStoreFactory :=
  { factory with active := factory.active.filter (· ≠ (endpoint, number)) }

def deactivateStoreForEndpoint : EndpointStoreFactory :=
  if number ∉ factory.allocatedNumbers then factory.deactivate endpoint number
  else
    { factory.deactivate endpoint number with
      allocatedNumbers := factory.allocatedNumbers.erase number
      preAllocatedNumbers := insert number factory.preAllocatedNumbers }

def eraseBelow {Value : Type} (endpoint : EndpointPath) (map : OrderedMap EndpointPath Value) :
    OrderedMap EndpointPath Value where
  entries := map.entries.filter fun entry => !endpoint.isPrefixOf entry.1
  nodupKeys := (List.filter_sublist.map _).nodup map.nodupKeys

def eraseStoreForEndpoint : EndpointStoreFactory :=
  if factory.stores.has endpoint then
    { factory.deactivate endpoint number with
      stores := eraseBelow endpoint factory.stores
      storedNumbers := eraseBelow endpoint factory.storedNumbers
      allocatedNumbers := factory.allocatedNumbers.erase number
      preAllocatedNumbers := factory.preAllocatedNumbers.erase number }
  else factory

/-- `saveNumber` of the endpoint's store -/
def saveNumber : EndpointStoreFactory :=
  { factory.storeForEndpoint endpoint with
    numbersToPersist := factory.numbersToPersist.erase endpoint
    storedNumbers :=
      match (factory.stores.get endpoint).getD none with
      | some number => factory.storedNumbers.set endpoint number
      | none => factory.storedNumbers.delete endpoint }

/-- `erase` keeps the numbers that are set aside. -/
def erase : EndpointStoreFactory :=
  construct factory.defaultNextNumber factory.preAllocatedNumbers ∅ none factory.active

def restart : EndpointStoreFactory :=
  construct factory.defaultNextNumber ∅ factory.storedNumbers factory.storedNextNumber []

def step : Event → EndpointStoreFactory
  | .assignNumber endpoint number =>
    if IsEndpoint endpoint number then (factory.assignNumber endpoint number).2 else factory
  | .deactivateStoreForEndpoint endpoint number =>
    if number = 0 then factory else factory.deactivateStoreForEndpoint endpoint number
  | .eraseStoreForEndpoint endpoint number =>
    if endpoint = [] then factory else factory.eraseStoreForEndpoint endpoint number
  | .saveNumber endpoint =>
    if endpoint ∈ factory.numbersToPersist then factory.saveNumber endpoint else factory
  | .saveNextNumber => { factory with storedNextNumber := some factory.nextNumber }
  | .erase => factory.erase
  | .restart => factory.restart

/-- No two endpoints are active under one number. -/
def Unique : Prop :=
  ∀ endpoint other number, (endpoint, number) ∈ factory.active →
    (other, number) ∈ factory.active → endpoint = other

/-- An assignment ends with a number, a conflict or because the numbers are exhausted; a
number from the counter lies in the range; and a stored number that is not active is kept. -/
structure Promised (factory : EndpointStoreFactory) (endpoint : EndpointPath)
    (number : Option Nat) : Prop where
  ends : (factory.assignNumber endpoint number).1 ≠ .endless ∧
    ∀ message, (factory.assignNumber endpoint number).1 ≠ .illegalNumber message
  inRange : number = none → factory.knownNumber endpoint = none →
    ∀ assigned, (factory.assignNumber endpoint none).1 = .assigned assigned →
      1 ≤ assigned ∧ assigned ≤ 0xfffe
  stable : number = none → ∀ stored, factory.storeNumber endpoint = some stored →
    (∀ other, (other, stored) ∉ factory.active) →
      (factory.assignNumber endpoint none).1 = .assigned stored

def KeepsPromise : Event → Prop
  | .assignNumber endpoint number => IsEndpoint endpoint number → factory.Promised endpoint number
  | _ => True

def OwnNumber : Prop :=
  ∀ other, (other, number) ∈ factory.active → other = endpoint

/-- An endpoint does not claim its stored number while that is active at another one, the
counter is not used once it has run past its range, no number is released that is active at
another endpoint, and nothing is active when all is erased. -/
def Careful : Event → Prop
  | .assignNumber endpoint (some number) =>
    (factory.stores.get endpoint).getD none = some number → factory.OwnNumber endpoint number
  | .assignNumber endpoint none =>
    factory.knownNumber endpoint = none → factory.nextNumber < 0xffff
  | .deactivateStoreForEndpoint endpoint number | .eraseStoreForEndpoint endpoint number =>
    factory.OwnNumber endpoint number
  | .erase => factory.active = []
  | _ => True

theorem search_ne_endless {free : Nat → Bool} {startNumber : Nat} (inRange : startNumber < 0xffff)
    {rounds seen : Nat} (enough : 0xffff ≤ seen + rounds) (more : seen < 0xffff) :
    search free startNumber rounds ((startNumber + seen) % 0xffff) ≠ .endless := by
  induction rounds generalizing seen with
  | zero => omega
  | succ rounds induction =>
    have next : ((startNumber + seen) % 0xffff + 1) % 0xffff =
        (startNumber + (seen + 1)) % 0xffff := by omega
    rw [search]
    split
    · exact nofun
    · split
      · exact nofun
      · rename_i notBack
        rw [next] at notBack ⊢
        exact induction (by omega) (by omega)

theorem free_of_search {free : Nat → Bool} {startNumber rounds nextNumber number : Nat}
    (inRange : nextNumber < 0xffff)
    (found : search free startNumber rounds nextNumber = .found number) :
    free number = true ∧ number < 0xffff := by
  induction rounds generalizing nextNumber with
  | zero => cases found
  | succ rounds induction =>
    rw [search] at found
    split at found
    · rename_i isFree
      cases found
      exact ⟨isFree, inRange⟩
    · split at found
      · cases found
      · exact induction (Nat.mod_lt _ (by omega)) found

theorem searchNumber_ne_endless {factory : EndpointStoreFactory}
    (inRange : factory.nextNumber < 0xffff) : factory.searchNumber ≠ .endless := by
  have ends : search factory.isFree factory.nextNumber 0x10000
      ((factory.nextNumber + 0) % 0xffff) ≠ .endless :=
    search_ne_endless inRange (by omega) (by omega)
  rwa [Nat.add_zero, Nat.mod_eq_of_lt inRange] at ends

theorem isFree_iff {factory : EndpointStoreFactory} {number : Nat} :
    factory.isFree number = true ↔ 1 ≤ number ∧ number ∉ factory.allocatedNumbers ∧
      number ∉ factory.preAllocatedNumbers := by
  simp [isFree, and_assoc]

theorem free_of_searchNumber {factory : EndpointStoreFactory} {number : Nat}
    (inRange : factory.nextNumber < 0xffff) (found : factory.searchNumber = .found number) :
    1 ≤ number ∧ number ≤ 0xfffe ∧ number ∉ factory.allocatedNumbers := by
  have isFree := free_of_search inRange found
  have parts := isFree_iff.mp isFree.1
  exact ⟨parts.1, by omega, parts.2.1⟩

/-! ## What the operations keep -/

/-- The allocated numbers are those that are active, each at one endpoint. -/
structure Accounted (factory : EndpointStoreFactory) : Prop where
  allocated : ∀ number, number ∈ factory.allocatedNumbers ↔
    ∃ endpoint, (endpoint, number) ∈ factory.active
  unique : factory.Unique

section Steps

variable {factory after : EndpointStoreFactory} {endpoint : EndpointPath} {number : Nat}

theorem not_allocated_of_knownNumber (known : factory.knownNumber endpoint = some number) :
    number ∉ factory.allocatedNumbers :=
  of_decide_eq_true (Option.filter_eq_some_iff.mp known).2

variable (accounted : factory.Accounted)

include accounted

theorem Accounted.of_same (allocated : after.allocatedNumbers = factory.allocatedNumbers)
    (active : after.active = factory.active) : after.Accounted where
  allocated := by
    rw [allocated, active]
    exact accounted.allocated
  unique := by
    rw [Unique, active]
    exact accounted.unique

theorem Accounted.activate (own : factory.OwnNumber endpoint number)
    (allocated : after.allocatedNumbers = insert number factory.allocatedNumbers)
    (active : after.active = (endpoint, number) :: factory.active) : after.Accounted where
  allocated := by
    intro other
    rw [allocated, active, Finset.mem_insert, accounted.allocated]
    constructor
    · intro among
      rcases among with rfl | ⟨holder, member⟩
      · exact ⟨endpoint, List.mem_cons_self ..⟩
      · exact ⟨holder, List.mem_cons_of_mem _ member⟩
    · intro among
      rcases among with ⟨holder, member⟩
      rcases List.mem_cons.mp member with same | member
      · exact .inl (Prod.mk.inj same).2
      · exact .inr ⟨holder, member⟩
  unique := by
    rw [Unique, active]
    intro first second shared isFirst isSecond
    rcases List.mem_cons.mp isFirst with same | isFirst
    · rcases List.mem_cons.mp isSecond with alsoSame | isSecond
      · exact (Prod.mk.inj same).1.trans (Prod.mk.inj alsoSame).1.symm
      · rw [(Prod.mk.inj same).2] at isSecond
        exact (Prod.mk.inj same).1.trans (own second isSecond).symm
    · rcases List.mem_cons.mp isSecond with same | isSecond
      · rw [(Prod.mk.inj same).2] at isFirst
        exact (own first isFirst).trans (Prod.mk.inj same).1.symm
      · exact accounted.unique first second shared isFirst isSecond

theorem Accounted.own_of_not_allocated
    (free : number ∉ factory.allocatedNumbers) : factory.OwnNumber endpoint number := by
  intro other member
  exact absurd ((accounted.allocated number).mpr ⟨other, member⟩) free

theorem Accounted.release (own : factory.OwnNumber endpoint number)
    (allocated : after.allocatedNumbers = factory.allocatedNumbers.erase number)
    (active : after.active = factory.active.filter (· ≠ (endpoint, number))) :
    after.Accounted where
  allocated := by
    intro other
    rw [allocated, active, Finset.mem_erase, accounted.allocated]
    constructor
    · rintro ⟨different, holder, member⟩
      refine ⟨holder, List.mem_filter.mpr ⟨member, decide_eq_true ?_⟩⟩
      intro same
      exact different (Prod.mk.inj same).2
    · rintro ⟨holder, member⟩
      have parts := List.mem_filter.mp member
      refine ⟨?_, holder, parts.1⟩
      rintro rfl
      have isOwn := own holder parts.1
      rw [isOwn] at parts
      exact of_decide_eq_true parts.2 rfl
  unique := by
    rw [Unique, active]
    intro first second shared isFirst isSecond
    exact accounted.unique first second shared (List.mem_filter.mp isFirst).1
      (List.mem_filter.mp isSecond).1

theorem Accounted.reserveNumber (careful : (factory.stores.get endpoint).getD none = some number →
      factory.OwnNumber endpoint number) :
    (factory.reserveNumber endpoint number).2.Accounted := by
  rw [EndpointStoreFactory.reserveNumber]
  split
  · rename_i allocated
    split
    · rw [storeForEndpoint]
      split
      · exact accounted
      · exact accounted.of_same rfl rfl
    · rename_i isStored
      apply accounted.activate (careful (not_not.mp isStored))
      · exact (Finset.insert_eq_of_mem allocated).symm
      · rfl
  · rename_i free
    exact accounted.activate (accounted.own_of_not_allocated free) rfl rfl

theorem Accounted.storeForEndpoint :
    (factory.storeForEndpoint endpoint).Accounted := by
  rw [EndpointStoreFactory.storeForEndpoint]
  split
  · exact accounted
  · exact accounted.of_same rfl rfl

theorem Accounted.allocateNumber
    (careful : factory.knownNumber endpoint = none → factory.nextNumber < 0xffff) :
    (factory.allocateNumber endpoint).2.Accounted := by
  rw [EndpointStoreFactory.allocateNumber]
  split
  · rename_i number known
    have own : factory.OwnNumber endpoint number :=
      accounted.own_of_not_allocated (not_allocated_of_knownNumber known)
    exact accounted.activate own rfl rfl
  · rename_i unknown
    split
    · rename_i number found
      split
      · exact accounted.storeForEndpoint.of_same rfl rfl
      · have free := free_of_searchNumber (careful unknown) found
        have own : factory.OwnNumber endpoint number := accounted.own_of_not_allocated free.2.2
        exact accounted.activate own rfl rfl
    · exact accounted.storeForEndpoint
    · exact accounted.storeForEndpoint

end Steps

theorem accounted_construct (defaultNextNumber : Nat) (preAllocatedNumbers : Finset Nat)
    (storedNumbers : OrderedMap EndpointPath Nat) (storedNextNumber : Option Nat) :
    (construct defaultNextNumber preAllocatedNumbers storedNumbers storedNextNumber []).Accounted where
  allocated := by
    intro number
    refine iff_of_false (Finset.notMem_empty number) ?_
    rintro ⟨endpoint, member⟩
    cases member
  unique := by
    intro endpoint other number member
    cases member

theorem Accounted.step {factory : EndpointStoreFactory} {event : Event}
    (careful : factory.Careful event) (accounted : factory.Accounted) :
    (factory.step event).Accounted := by
  cases event with
  | assignNumber endpoint number =>
    rw [EndpointStoreFactory.step]
    split
    · cases number with
      | none => exact accounted.allocateNumber careful
      | some number => exact accounted.reserveNumber careful
    · exact accounted
  | deactivateStoreForEndpoint endpoint number =>
    rw [EndpointStoreFactory.step]
    split
    · exact accounted
    · rw [EndpointStoreFactory.deactivateStoreForEndpoint]
      split
      · rename_i free
        exact accounted.release careful (Finset.erase_eq_of_notMem free).symm rfl
      · exact accounted.release careful rfl rfl
  | eraseStoreForEndpoint endpoint number =>
    rw [EndpointStoreFactory.step]
    split
    · exact accounted
    · rw [EndpointStoreFactory.eraseStoreForEndpoint]
      split
      · exact accounted.release careful rfl rfl
      · exact accounted
  | saveNumber endpoint =>
    rw [EndpointStoreFactory.step]
    split
    · exact accounted.storeForEndpoint.of_same rfl rfl
    · exact accounted
  | saveNextNumber => exact accounted.of_same rfl rfl
  | erase =>
    rw [EndpointStoreFactory.step, EndpointStoreFactory.erase,
      show factory.active = [] from careful]
    exact accounted_construct ..
  | restart => exact accounted_construct ..

theorem storeNumber_eq_of_free {factory : EndpointStoreFactory} (accounted : factory.Accounted)
    {endpoint : EndpointPath} {stored : Nat}
    (isStored : factory.storeNumber endpoint = some stored)
    (nowhere : ∀ other, (other, stored) ∉ factory.active) :
    factory.knownNumber endpoint = some stored := by
  rw [knownNumber, isStored]
  apply Option.filter_some_pos
  rw [decide_eq_true_eq, accounted.allocated]
  rintro ⟨other, member⟩
  exact nowhere other member

theorem promised_of_careful {factory : EndpointStoreFactory} (accounted : factory.Accounted)
    {endpoint : EndpointPath} {number : Option Nat}
    (careful : factory.Careful (.assignNumber endpoint number)) :
    factory.Promised endpoint number where
  ends := by
    cases number with
    | some number =>
      change (factory.reserveNumber endpoint number).1 ≠ _ ∧
        ∀ message, (factory.reserveNumber endpoint number).1 ≠ _
      rw [reserveNumber]
      split
      · split
        · exact ⟨(by simp), (by simp)⟩
        · exact ⟨(by simp), (by simp)⟩
      · exact ⟨(by simp), (by simp)⟩
    | none =>
      change (factory.allocateNumber endpoint).1 ≠ _ ∧
        ∀ message, (factory.allocateNumber endpoint).1 ≠ _
      rw [allocateNumber]
      split
      · exact ⟨(by simp), (by simp)⟩
      · rename_i unknown
        split
        · rename_i number found
          have free := free_of_searchNumber (careful unknown) found
          rw [if_neg (by omega)]
          exact ⟨(by simp), (by simp)⟩
        · exact ⟨(by simp), (by simp)⟩
        · rename_i endless
          exact absurd endless (searchNumber_ne_endless (careful unknown))
  inRange := by
    rintro rfl unknown assigned isAssigned
    change (factory.allocateNumber endpoint).1 = _ at isAssigned
    rw [allocateNumber, unknown] at isAssigned
    dsimp only at isAssigned
    split at isAssigned
    · rename_i number found
      have free := free_of_searchNumber (careful unknown) found
      split at isAssigned
      · cases isAssigned
      · cases isAssigned
        exact ⟨free.1, free.2.1⟩
    · cases isAssigned
    · cases isAssigned
  stable := by
    rintro rfl stored isStored nowhere
    change (factory.allocateNumber endpoint).1 = _
    rw [allocateNumber, storeNumber_eq_of_free accounted isStored nowhere]

def new (defaultNextNumber : Nat) : EndpointStoreFactory :=
  construct defaultNextNumber ∅ ∅ none []

end EndpointStoreFactory

end MatterJs.Node
