import MatterJs.Foundation.Execution
import MatterJs.Foundation.OrderedMap
import MatterJs.Protocol.MdnsRecords

/-! A new fabric list for a port: the expiry of the instances that are gone runs beside the
registration of the new records generator. -/

namespace MatterJs.Protocol.Mdns

open General Execution

inductive AnnouncementType where
  | commissionable
  | operative
  deriving DecidableEq

/-- The key `${port}-${type}`, by its two parts. -/
abbrev TypePortKey : Type := Nat × AnnouncementType

abbrev RecordsGenerator : Type := Option IpMac → List DnsRecord

/-- The options of `expireAnnouncements` -/
structure ExpireOptions where
  announcedNetPort : Option Nat
  type : Option AnnouncementType
  forInstance : Option (List Char)
  deriving DecidableEq

def ExpireOptions.concerns (options : ExpireOptions) (key : TypePortKey) : Bool :=
  match options.announcedNetPort with
  | none => true
  | some announcedNetPort =>
    key.1 = announcedNetPort && options.type.all fun type => key = (announcedNetPort, type)

inductive ExpiryStage where
  | getRecords
  | announce (key : TypePortKey) (later : List TypePortKey)
  | sleep (later : List TypePortKey)
  | done
  deriving DecidableEq

structure Expiry where
  options : ExpireOptions
  netInterface : String
  stage : ExpiryStage
  deriving DecidableEq

/-- A `setFabrics` under way: the tables of the server, the expiries it has started and
whether its generator has been registered. -/
structure SettingFabrics where
  recordsGenerator : OrderedMap TypePortKey RecordsGenerator
  /-- The cache of the records: of which keys an interface has some. -/
  records : OrderedMap String (List TypePortKey)
  expiries : List Expiry
  key : TypePortKey
  generator : RecordsGenerator
  registered : Bool

namespace SettingFabrics

inductive Event where
  /-- The records of the interface have been read from the cache or generated. -/
  | recordsRead (expiry : Nat)
  | announced (expiry : Nat)
  | slept (expiry : Nat)
  /-- Reading or sending throws. -/
  | fails (expiry : Nat)
  /-- The cache gives up an entry: it has expired, or an expiry or the registration clears it. -/
  | deleteEntry (netInterface : String)
  /-- `setRecordsGenerator` has cleared the cache. -/
  | register
  deriving DecidableEq

variable (state : SettingFabrics)

def setStage (index : Nat) (expiry : Expiry) (stage : ExpiryStage) : SettingFabrics :=
  { state with expiries := state.expiries.set index { expiry with stage } }

/-- The loop over the records that the expiry concerns -/
def nextStage : List TypePortKey → ExpiryStage
  | [] => .done
  | key :: later => .announce key later

def recordsRead (index : Nat) (expiry : Expiry) : SettingFabrics :=
  let keys := (state.records.get expiry.netInterface).getD state.recordsGenerator.keys
  { state.setStage index expiry (nextStage (keys.filter expiry.options.concerns)) with
    records := state.records.set expiry.netInterface keys }

def step : Event → SettingFabrics
  | .recordsRead index =>
    match state.expiries[index]? with
    | some ⟨options, netInterface, .getRecords⟩ =>
      state.recordsRead index ⟨options, netInterface, .getRecords⟩
    | _ => state
  | .announced index =>
    match state.expiries[index]? with
    | some ⟨options, netInterface, .announce key later⟩ =>
      { state.setStage index ⟨options, netInterface, .announce key later⟩ (.sleep later) with
        recordsGenerator := state.recordsGenerator.delete key }
    | _ => state
  | .slept index =>
    match state.expiries[index]? with
    | some ⟨options, netInterface, .sleep later⟩ =>
      state.setStage index ⟨options, netInterface, .sleep later⟩ (nextStage later)
    | _ => state
  | .fails index =>
    match state.expiries[index]? with
    | some ⟨options, netInterface, .getRecords⟩ =>
      state.setStage index ⟨options, netInterface, .getRecords⟩ .done
    | some ⟨options, netInterface, .announce key later⟩ =>
      state.setStage index ⟨options, netInterface, .announce key later⟩ .done
    | _ => state
  | .deleteEntry netInterface => { state with records := state.records.delete netInterface }
  | .register =>
    if state.registered then state
    else
      { state with
        records := ∅
        recordsGenerator := state.recordsGenerator.set state.key state.generator
        registered := true }

/-- The generator is registered, and every expiry has come to its end. -/
def Settled : Prop :=
  state.registered = true ∧ ∀ expiry ∈ state.expiries, expiry.stage = .done

instance (state : SettingFabrics) : Decidable state.Settled :=
  inferInstanceAs (Decidable (_ ∧ _))

end SettingFabrics

/-- The tables that `setFabrics` finds -/
structure MdnsBroadcaster where
  activeOperationalAnnouncements : OrderedMap Nat (List (Nat × List Char))
  recordsGenerator : OrderedMap TypePortKey RecordsGenerator
  records : OrderedMap String (List TypePortKey)
  /-- The interfaces whose records have been in the cache. -/
  knownKeys : List String
  enableIpv4 : Bool

namespace MdnsBroadcaster

def removedInstances (broadcaster : MdnsBroadcaster) (announcedNetPort : Nat)
    (fabrics : List AnnouncedFabric) : List (List Char) :=
  (((broadcaster.activeOperationalAnnouncements.get announcedNetPort).getD []).filter fun active =>
    active.1 ∉ fabrics.map AnnouncedFabric.fabricIndex).map Prod.snd

/-- `setFabrics` up to the end of the registration's clearing of the cache: the expiry of
every removed instance waits for the records of every interface. -/
def setFabrics (broadcaster : MdnsBroadcaster) (announcedNetPort : Nat)
    (fabrics : List AnnouncedFabric) (data : OperationalInstanceData) : SettingFabrics where
  recordsGenerator := broadcaster.recordsGenerator
  records := broadcaster.records
  expiries := (broadcaster.removedInstances announcedNetPort fabrics).flatMap fun forInstance =>
    broadcaster.knownKeys.map fun netInterface =>
      ⟨⟨some announcedNetPort, some .operative, some forInstance⟩, netInterface, .getRecords⟩
  key := (announcedNetPort, .operative)
  generator := operationalRecords broadcaster.enableIpv4 announcedNetPort data fabrics
  registered := false

end MdnsBroadcaster

namespace SettingFabrics

variable (state : SettingFabrics)

/-- The port has an operative generator, which generates records for exactly the fabrics. -/
def Announces (announcedNetPort : Nat) (data : OperationalInstanceData)
    (fabrics : List AnnouncedFabric) : Prop :=
  ∃ generator, state.recordsGenerator.get (announcedNetPort, .operative) = some generator ∧
    GeneratesFor announcedNetPort data fabrics generator

def Deletes (index : Nat) : Prop :=
  ∃ options netInterface key later,
    state.expiries[index]? = some ⟨options, netInterface, .announce key later⟩

/-- No expiry deletes a generator once the new one is registered. -/
def Early : Event → Prop
  | .announced index => state.Deletes index → state.registered = false
  | _ => True

/-! ## What becomes of the generator -/

def ExpiryStage.keys : ExpiryStage → List TypePortKey
  | .announce key later => key :: later
  | .sleep later => later
  | _ => []

structure ConcernsOnly (key : TypePortKey) (expiry : Expiry) : Prop where
  options : ∀ other, expiry.options.concerns other = true → other = key
  stage : ∀ other ∈ ExpiryStage.keys expiry.stage, other = key

def Concerned : Prop :=
  ∀ expiry ∈ state.expiries, ConcernsOnly state.key expiry

theorem mem_keys_nextStage {key : TypePortKey} {keys : List TypePortKey}
    (member : key ∈ ExpiryStage.keys (nextStage keys)) : key ∈ keys := by
  cases keys with
  | nil => exact member
  | cons first later => exact member

theorem Concerned.setStage {state : SettingFabrics} (concerned : state.Concerned) {index : Nat}
    {expiry : Expiry} (found : state.expiries[index]? = some expiry) {stage : ExpiryStage}
    (only : ∀ key ∈ ExpiryStage.keys stage, key = state.key) :
    (state.setStage index expiry stage).Concerned := by
  intro other member
  rcases List.mem_or_eq_of_mem_set member with old | new
  · exact concerned other old
  · rw [new]
    exact ⟨(concerned expiry (List.mem_of_getElem? found)).options, only⟩

theorem Concerned.step {state : SettingFabrics} (concerned : state.Concerned) (event : Event) :
    (state.step event).Concerned := by
  cases event with
  | recordsRead index =>
    rw [SettingFabrics.step]
    split
    · rename_i options netInterface found
      have only := concerned _ (List.mem_of_getElem? found)
      apply concerned.setStage found
      intro key member
      have isKey := mem_keys_nextStage member
      exact only.options key (List.mem_filter.mp isKey).2
    · exact concerned
  | announced index =>
    rw [SettingFabrics.step]
    split
    · rename_i options netInterface key later found
      have only := concerned _ (List.mem_of_getElem? found)
      apply concerned.setStage found
      intro other member
      exact only.stage other (List.mem_cons_of_mem _ member)
    · exact concerned
  | slept index =>
    rw [SettingFabrics.step]
    split
    · rename_i options netInterface later found
      have only := concerned _ (List.mem_of_getElem? found)
      apply concerned.setStage found
      intro other member
      exact only.stage other (mem_keys_nextStage member)
    · exact concerned
  | fails index =>
    rw [SettingFabrics.step]
    split
    · rename_i found
      exact concerned.setStage found nofun
    · rename_i found
      exact concerned.setStage found nofun
    · exact concerned
  | deleteEntry netInterface => exact concerned
  | register =>
    rw [SettingFabrics.step]
    split
    · exact concerned
    · exact concerned

/-- Once registered, the generator is there. -/
def Kept : Prop :=
  state.registered = true → state.recordsGenerator.get state.key = some state.generator

theorem kept_step_iff (event : Event) (concerned : state.Concerned) :
    (state.step event).Kept ↔ state.Kept ∧ state.Early event := by
  cases event with
  | recordsRead index =>
    rw [step]
    split
    · exact (and_iff_left trivial).symm
    · exact (and_iff_left trivial).symm
  | announced index =>
    rw [step]
    split
    · rename_i options netInterface key later found
      have isKey : key = state.key :=
        (concerned _ (List.mem_of_getElem? found)).stage key (List.mem_cons_self ..)
      have deletes : state.Deletes index := ⟨options, netInterface, key, later, found⟩
      constructor
      · intro kept
        have notRegistered : state.registered = false := by
          rw [Bool.eq_false_iff]
          intro registered
          have gone := kept registered
          change (state.recordsGenerator.delete key).get state.key = _ at gone
          rw [isKey, OrderedMap.get_delete_self] at gone
          cases gone
        refine ⟨?_, fun _ => notRegistered⟩
        intro registered
        rw [notRegistered] at registered
        cases registered
      · rintro ⟨-, early⟩ registered
        have notRegistered : state.registered = false := early deletes
        rw [show state.registered = true from registered] at notRegistered
        cases notRegistered
    · rename_i notDeleting
      refine (and_iff_left ?_).symm
      rintro ⟨options, netInterface, key, later, found⟩
      exact absurd found (notDeleting options netInterface key later)
  | slept index =>
    rw [step]
    split
    · exact (and_iff_left trivial).symm
    · exact (and_iff_left trivial).symm
  | fails index =>
    rw [step]
    split
    · exact (and_iff_left trivial).symm
    · exact (and_iff_left trivial).symm
    · exact (and_iff_left trivial).symm
  | deleteEntry netInterface => exact (and_iff_left trivial).symm
  | register =>
    rw [step]
    split
    · exact (and_iff_left trivial).symm
    · rename_i notRegistered
      refine iff_of_true ?_ ⟨fun registered => absurd registered notRegistered, trivial⟩
      intro _
      exact OrderedMap.get_set_self ..

/-- Once registered, no other generator is there. -/
def OnlyNew : Prop :=
  state.registered = true →
    ∀ generator, state.recordsGenerator.get state.key = some generator → generator = state.generator

theorem OnlyNew.step {state : SettingFabrics} (only : state.OnlyNew) (event : Event) :
    (state.step event).OnlyNew := by
  cases event with
  | deleteEntry netInterface => exact only
  | announced index =>
    rw [SettingFabrics.step]
    split
    · rename_i options netInterface key later found
      intro registered generator isThere
      change (state.recordsGenerator.delete key).get state.key = _ at isThere
      by_cases isKey : state.key = key
      · rw [isKey, OrderedMap.get_delete_self] at isThere
        cases isThere
      · rw [OrderedMap.get_delete_of_ne _ isKey] at isThere
        exact only registered generator isThere
    · exact only
  | register =>
    rw [SettingFabrics.step]
    split
    · exact only
    · intro _ generator isThere
      rw [OrderedMap.get_set_self] at isThere
      exact (Option.some.inj isThere).symm
  | recordsRead index | slept index | fails index =>
    rw [SettingFabrics.step]
    split
    all_goals exact only

theorem unchanging_step (event : Event) :
    (state.step event).key = state.key ∧ (state.step event).generator = state.generator := by
  cases event with
  | deleteEntry netInterface => exact ⟨rfl, rfl⟩
  | _ =>
    rw [step]
    split
    all_goals exact ⟨rfl, rfl⟩

end SettingFabrics

namespace MdnsBroadcaster

variable (broadcaster : MdnsBroadcaster) (announcedNetPort : Nat) (fabrics : List AnnouncedFabric)
  (data : OperationalInstanceData)

theorem concerned_setFabrics :
    (broadcaster.setFabrics announcedNetPort fabrics data).Concerned := by
  intro expiry member
  rcases List.mem_flatMap.mp member with ⟨forInstance, _, member⟩
  rcases List.mem_map.mp member with ⟨netInterface, _, rfl⟩
  refine ⟨?_, nofun⟩
  intro key concerns
  simp only [ExpireOptions.concerns, Option.all_some, Bool.and_eq_true, decide_eq_true_eq]
    at concerns
  exact concerns.2

/-- Whatever the interleaving, once `setFabrics` has settled the port's generator announces
exactly the new fabrics if and only if no expiry has deleted a generator after it was
registered. -/
theorem announces_iff_early (events : List SettingFabrics.Event) (settled : (run SettingFabrics.step
      (broadcaster.setFabrics announcedNetPort fabrics data) events).Settled) :
    (run SettingFabrics.step (broadcaster.setFabrics announcedNetPort fabrics data)
        events).Announces announcedNetPort data fabrics ↔
      Along SettingFabrics.step SettingFabrics.Early
        (broadcaster.setFabrics announcedNetPort fabrics data) events := by
  have kept := run_iff_along_of_invariant SettingFabrics.Concerned
    (fun state event concerned => concerned.step event) SettingFabrics.kept_step_iff
    (broadcaster.concerned_setFabrics announcedNetPort fabrics data) events
  have initially : (broadcaster.setFabrics announcedNetPort fabrics data).Kept := nofun
  have only : (run SettingFabrics.step (broadcaster.setFabrics announcedNetPort fabrics data)
      events).OnlyNew :=
    run_invariant SettingFabrics.step _ (fun state event only => only.step event) nofun events
  have key : (run SettingFabrics.step (broadcaster.setFabrics announcedNetPort fabrics data)
      events).key = (announcedNetPort, .operative) :=
    run_invariant SettingFabrics.step (fun state => state.key = (announcedNetPort, .operative))
      (fun state event before => (state.unchanging_step event).1.trans before) rfl events
  have generator : (run SettingFabrics.step
      (broadcaster.setFabrics announcedNetPort fabrics data) events).generator =
      operationalRecords broadcaster.enableIpv4 announcedNetPort data fabrics :=
    run_invariant SettingFabrics.step
      (fun state => state.generator =
        operationalRecords broadcaster.enableIpv4 announcedNetPort data fabrics)
      (fun state event before => (state.unchanging_step event).2.trans before) rfl events
  rw [and_iff_right initially] at kept
  rw [← kept]
  constructor
  · rintro ⟨found, isThere, -⟩ -
    rw [← key] at isThere
    rw [isThere, only settled.1 found isThere]
  · intro isKept
    refine ⟨_, ?_, generatesFor_operationalRecords broadcaster.enableIpv4 announcedNetPort data
      fabrics⟩
    rw [← key, ← generator]
    exact isKept settled.1

/-- A port with two fabrics whose records one interface has in the cache. -/
def twoFabrics : MdnsBroadcaster where
  activeOperationalAnnouncements := OrderedMap.empty.set 5540 [(1, ['a']), (2, ['b'])]
  recordsGenerator := OrderedMap.empty.set (5540, .operative) fun _ => []
  records := OrderedMap.empty.set "eth0" [(5540, .operative)]
  knownKeys := ["eth0"]
  enableIpv4 := false

/-- The expiry of the second fabric is over before the new generator is registered. -/
theorem announces_expiredFirst :
    (run SettingFabrics.step (twoFabrics.setFabrics 5540 [⟨1, [], 0⟩] {})
      [.recordsRead 0, .announced 0, .slept 0, .register]).Announces 5540 {} [⟨1, [], 0⟩] := by
  apply (twoFabrics.announces_iff_early 5540 [⟨1, [], 0⟩] {} _ (by decide)).mpr
  exact ⟨trivial, fun _ => rfl, trivial, trivial, trivial⟩

/-- Its expiry deletes the generator that announces the first. -/
theorem announces_expiredLast_false :
    (run SettingFabrics.step (twoFabrics.setFabrics 5540 [⟨1, [], 0⟩] {})
      [.register, .recordsRead 0, .announced 0, .slept 0]).Settled ∧
    ¬ (run SettingFabrics.step (twoFabrics.setFabrics 5540 [⟨1, [], 0⟩] {})
      [.register, .recordsRead 0, .announced 0, .slept 0]).Announces 5540 {} [⟨1, [], 0⟩] := by
  refine ⟨by decide, ?_⟩
  rintro ⟨generator, isThere, -⟩
  cases isThere

end MdnsBroadcaster

end MatterJs.Protocol.Mdns
