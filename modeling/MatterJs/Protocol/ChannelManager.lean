import MatterJs.Foundation.OrderedMap
import MatterJs.Protocol.Fabric

/-! The channels to the peers of a node, and how they are closed: each channel takes itself
out of the manager while the manager goes through its channels. -/

namespace MatterJs.Protocol

open General

/-- A message channel. `reference` tells the objects apart. -/
structure MessageChannel where
  reference : Nat
  sessionId : Nat
  deriving DecidableEq

/-- The manager, and which channel objects are closed. The close callback of a channel removes
it from under the address, or the session, that it is registered for. -/
structure ChannelManager where
  channels : OrderedMap PeerAddress (List MessageChannel)
  /-- The channels of sessions without a fabric, by the session object. -/
  paseChannels : OrderedMap Nat MessageChannel
  closed : List Nat

namespace ChannelManager

def channelsOf (manager : ChannelManager) (address : PeerAddress) : List MessageChannel :=
  (manager.channels.get address).getD []

def markClosed (manager : ChannelManager) (channel : MessageChannel) : ChannelManager :=
  { manager with closed := manager.closed ++ [channel.reference] }

/-- `splice` on the array of an address -/
def splice (manager : ChannelManager) (address : PeerAddress) (index : Nat) : ChannelManager :=
  { manager with
    channels := manager.channels.set address ((manager.channelsOf address).eraseIdx index) }

theorem channelsOf_markClosed (manager : ChannelManager) (channel : MessageChannel)
    (address : PeerAddress) :
    (manager.markClosed channel).channelsOf address = manager.channelsOf address := rfl

theorem channelsOf_splice (manager : ChannelManager) (address other : PeerAddress) (index : Nat) :
    (manager.splice address index).channelsOf other =
      if other = address then (manager.channelsOf address).eraseIdx index
      else manager.channelsOf other := by
  rw [channelsOf, splice, OrderedMap.get_set]
  split
  · rfl
  · rfl

/-- `MessageChannel.close` for a channel of an address. Its callback is `removeChannel`, which
takes out the first channel with the session's id and closes that one. -/
def closeChannel (manager : ChannelManager) (address : PeerAddress) (channel : MessageChannel) :
    ChannelManager :=
  if channel.reference ∈ manager.closed then manager
  else
    match _found : (manager.channelsOf address).findIdx? (·.sessionId = channel.sessionId) with
    | none => manager.markClosed channel
    | some index =>
      match (manager.channelsOf address)[index]? with
      | none => manager.markClosed channel
      | some entry => ((manager.markClosed channel).splice address index).closeChannel address entry
termination_by (manager.channelsOf address).length
decreasing_by
  have inside := (List.findIdx?_eq_some_iff_getElem.mp _found).1
  rw [channelsOf_splice, if_pos rfl, channelsOf_markClosed, List.length_eraseIdx_of_lt inside]
  omega

def removeChannel (manager : ChannelManager) (address : PeerAddress) (sessionId : Nat) :
    ChannelManager :=
  match (manager.channelsOf address).findIdx? (·.sessionId = sessionId) with
  | none => manager
  | some index =>
    match (manager.channelsOf address)[index]? with
    | none => manager
    | some entry => (manager.splice address index).closeChannel address entry

theorem length_closeChannel_le (manager : ChannelManager) (address : PeerAddress)
    (channel : MessageChannel) :
    ((manager.closeChannel address channel).channelsOf address).length ≤
      (manager.channelsOf address).length := by
  fun_induction closeChannel manager address channel with
  | case1 manager channel isClosed => exact Nat.le_refl _
  | case2 manager channel isOpen notFound => exact Nat.le_refl _
  | case3 manager channel isOpen index found outside => exact Nat.le_refl _
  | case4 manager channel isOpen index found entry inside induction =>
    refine Nat.le_trans induction ?_
    rw [channelsOf_splice, if_pos rfl]
    exact List.length_eraseIdx_le _ _

def closeChannels (manager : ChannelManager) (address : PeerAddress) (position : Nat) :
    ChannelManager :=
  if inside : position < (manager.channelsOf address).length then
    (manager.closeChannel address
      ((manager.channelsOf address).get ⟨position, inside⟩)).closeChannels
      address (position + 1)
  else manager
termination_by (manager.channelsOf address).length - position
decreasing_by
  have shorter := length_closeChannel_le manager address
    ((manager.channelsOf address).get ⟨position, inside⟩)
  omega

def removeAllNodeChannels (manager : ChannelManager) (address : PeerAddress) : ChannelManager :=
  manager.closeChannels address 0

/-- Close a channel of a session without a fabric, which deletes itself. -/
def closePaseChannel (manager : ChannelManager) (entry : Nat × MessageChannel) : ChannelManager :=
  if entry.2.reference ∈ manager.closed then manager
  else
    { manager.markClosed entry.2 with paseChannels := manager.paseChannels.delete entry.1 }

/-- A loop over a live map sees every entry, also when entries delete themselves. -/
def close (manager : ChannelManager) : ChannelManager :=
  let manager := manager.paseChannels.entries.foldl closePaseChannel manager
  let manager := { manager with paseChannels := {} }
  let manager := manager.channels.keys.foldl removeAllNodeChannels manager
  { manager with channels := {} }

/-! ## What closing one channel does -/

variable {manager : ChannelManager} {address : PeerAddress}

variable {channel : MessageChannel} {position : Nat}

theorem closeChannel_of_open (isOpen : channel.reference ∉ manager.closed) :
    manager.closeChannel address channel =
      (manager.markClosed channel).removeChannel address channel.sessionId := by
  rw [closeChannel, if_neg isOpen, removeChannel, channelsOf_markClosed]
  split
  · rename_i notFound
    rw [notFound]
  · rename_i index found
    rw [found]

theorem closeChannel_of_closed (isClosed : channel.reference ∈ manager.closed) :
    manager.closeChannel address channel = manager := by
  rw [closeChannel, if_pos isClosed]

theorem closed_subset_closeChannel (manager : ChannelManager) (address : PeerAddress)
    (channel : MessageChannel) :
    manager.closed ⊆ (manager.closeChannel address channel).closed := by
  fun_induction closeChannel manager address channel with
  | case1 manager channel isClosed => exact List.Subset.refl _
  | case2 manager channel isOpen notFound => exact List.subset_append_left _ _
  | case3 manager channel isOpen index found outside =>
    exact List.subset_append_left _ _
  | case4 manager channel isOpen index found entry inside induction =>
    exact List.Subset.trans (List.subset_append_left _ _) induction

theorem closed_closeChannel (manager : ChannelManager) (address : PeerAddress)
    (channel : MessageChannel) :
    channel.reference ∈ (manager.closeChannel address channel).closed := by
  have marked : channel.reference ∈ (manager.markClosed channel).closed :=
    List.mem_append_right _ (List.mem_singleton_self _)
  by_cases isClosed : channel.reference ∈ manager.closed
  · rwa [closeChannel_of_closed isClosed]
  · rw [closeChannel_of_open isClosed, removeChannel]
    split
    · exact marked
    · split
      · exact marked
      · exact closed_subset_closeChannel _ _ _ marked

theorem channelsOf_closeChannel_of_ne (manager : ChannelManager) {address other : PeerAddress}
    (differs : other ≠ address) (channel : MessageChannel) :
    (manager.closeChannel address channel).channelsOf other = manager.channelsOf other := by
  fun_induction closeChannel manager address channel with
  | case1 manager channel isClosed => rfl
  | case2 manager channel isOpen notFound => rfl
  | case3 manager channel isOpen index found outside => rfl
  | case4 manager channel isOpen index found entry inside induction =>
    rw [induction, channelsOf_splice, if_neg differs]
    rfl

theorem channelsOf_closeChannel
    (ownSessions : ((manager.channelsOf address).map (·.sessionId)).Nodup)
    (isChannel : (manager.channelsOf address)[position]? = some channel)
    (isOpen : channel.reference ∉ manager.closed) :
    (manager.closeChannel address channel).channelsOf address =
      (manager.channelsOf address).eraseIdx position := by
  have first : (manager.channelsOf address).findIdx? (·.sessionId = channel.sessionId) =
      some position := by
    rcases List.getElem?_eq_some_iff.mp isChannel with ⟨inside, isElement⟩
    refine List.findIdx?_eq_some_iff_getElem.mpr ⟨inside, by simp [isElement], ?_⟩
    intro earlier before
    have differs := List.pairwise_iff_getElem.mp ownSessions earlier position
      (by rw [List.length_map]; omega) (by rwa [List.length_map]) before
    simpa [isElement] using differs
  have marked : channel.reference ∈ ((manager.markClosed channel).splice address position).closed :=
    List.mem_append_right _ (List.mem_singleton_self _)
  rw [closeChannel_of_open isOpen, removeChannel, channelsOf_markClosed, first]
  dsimp only
  rw [isChannel]
  dsimp only
  rw [closeChannel_of_closed marked, channelsOf_splice, if_pos rfl, channelsOf_markClosed]

/-! ## Going through the channels of an address -/

theorem closeChannels_of_inside
    (isChannel : (manager.channelsOf address)[position]? = some channel) :
    manager.closeChannels address position =
      (manager.closeChannel address channel).closeChannels address (position + 1) := by
  rcases List.getElem?_eq_some_iff.mp isChannel with ⟨inside, isElement⟩
  rw [closeChannels, dif_pos inside, List.get_eq_getElem, isElement]

theorem closeChannels_of_outside (outside : (manager.channelsOf address).length ≤ position) :
    manager.closeChannels address position = manager := by
  rw [closeChannels, dif_neg (Nat.not_lt.mpr outside)]

theorem length_closeChannels (manager : ChannelManager) (address : PeerAddress) (position : Nat)
    (ownSessions : ((manager.channelsOf address).map (·.sessionId)).Nodup)
    (inside : position ≤ (manager.channelsOf address).length) :
    position ≤ ((manager.closeChannels address position).channelsOf address).length := by
  fun_induction closeChannels manager address position with
  | case1 manager position isInside induction =>
    have isChannel : (manager.channelsOf address)[position]? =
        some ((manager.channelsOf address).get ⟨position, isInside⟩) :=
      List.getElem?_eq_getElem isInside
    generalize (manager.channelsOf address).get ⟨position, isInside⟩ = channel at *
    by_cases isClosed : channel.reference ∈ manager.closed
    · rw [closeChannel_of_closed isClosed] at induction ⊢
      exact Nat.le_of_succ_le (induction ownSessions isInside)
    · have left := channelsOf_closeChannel ownSessions isChannel isClosed
      have length : (((manager.closeChannel address channel).channelsOf address)).length + 1 =
          (manager.channelsOf address).length := by
        rw [left, List.length_eraseIdx_of_lt isInside]
        omega
      have leftSessions : (((manager.closeChannel address channel).channelsOf address).map
          (·.sessionId)).Nodup := by
        rw [left]
        exact ownSessions.sublist ((List.eraseIdx_sublist _ _).map _)
      by_cases last :
          position + 1 ≤ ((manager.closeChannel address channel).channelsOf address).length
      · exact Nat.le_of_succ_le (induction leftSessions last)
      · rw [closeChannels_of_outside (by omega)]
        omega
  | case2 manager position isOutside => exact inside

theorem closed_subset_closeChannels (manager : ChannelManager) (address : PeerAddress)
    (position : Nat) : manager.closed ⊆ (manager.closeChannels address position).closed := by
  fun_induction closeChannels manager address position with
  | case1 manager position isInside induction =>
    exact List.Subset.trans (closed_subset_closeChannel _ _ _) induction
  | case2 manager position isOutside => exact List.Subset.refl _

theorem channelsOf_closeChannels_of_ne (manager : ChannelManager) {address other : PeerAddress}
    (differs : other ≠ address) (position : Nat) :
    (manager.closeChannels address position).channelsOf other = manager.channelsOf other := by
  fun_induction closeChannels manager address position with
  | case1 manager position isInside induction =>
    rw [induction, channelsOf_closeChannel_of_ne _ differs]
  | case2 manager position isOutside => rfl

theorem closed_of_single (single : manager.channelsOf address = [channel]) :
    channel.reference ∈ (manager.removeAllNodeChannels address).closed := by
  have isChannel : (manager.channelsOf address)[0]? = some channel := by rw [single]; rfl
  rw [removeAllNodeChannels, closeChannels_of_inside isChannel]
  exact closed_subset_closeChannels _ _ _ (closed_closeChannel _ _ _)

theorem channelsOf_of_single (single : manager.channelsOf address = [channel])
    (isOpen : channel.reference ∉ manager.closed) :
    (manager.removeAllNodeChannels address).channelsOf address = [] := by
  have isChannel : (manager.channelsOf address)[0]? = some channel := by rw [single]; rfl
  have ownSessions : ((manager.channelsOf address).map (·.sessionId)).Nodup := by
    rw [single]
    exact List.nodup_singleton _
  have left := channelsOf_closeChannel ownSessions isChannel isOpen
  rw [single] at left
  rw [removeAllNodeChannels, closeChannels_of_inside isChannel,
    closeChannels_of_outside (by rw [left]; exact Nat.zero_le _), left]
  rfl

/-! ## What is asked of the manager -/

def Closes (before after : ChannelManager) (address : PeerAddress) : Prop :=
  (∀ channel ∈ before.channelsOf address, channel.reference ∈ after.closed) ∧
    after.channelsOf address = []

def ClosesAll (manager : ChannelManager) : Prop :=
  ∀ address, Closes manager (manager.removeAllNodeChannels address) address ∧
    Closes manager manager.close address

def AtMostOneOpen (manager : ChannelManager) (address : PeerAddress) : Prop :=
  (manager.channelsOf address).length ≤ 1 ∧
    ∀ channel ∈ manager.channelsOf address, channel.reference ∉ manager.closed

theorem eq_nil_or_single_of_short {channels : List MessageChannel} (short : channels.length ≤ 1) :
    channels = [] ∨ ∃ channel, channels = [channel] := by
  cases channels with
  | nil => exact .inl rfl
  | cons channel rest =>
    cases rest with
    | nil => exact .inr ⟨channel, rfl⟩
    | cons second rest => simp at short

theorem removeAllNodeChannels_of_nil (none : manager.channelsOf address = []) :
    manager.removeAllNodeChannels address = manager := by
  rw [removeAllNodeChannels, closeChannels_of_outside (by rw [none]; exact Nat.le_refl 0)]

theorem closes_of_atMostOneOpen (one : manager.AtMostOneOpen address) :
    Closes manager (manager.removeAllNodeChannels address) address := by
  rcases one with ⟨short, allOpen⟩
  rcases eq_nil_or_single_of_short short with none | ⟨channel, single⟩
  · rw [removeAllNodeChannels_of_nil none]
    exact ⟨by rw [none]; exact nofun, none⟩
  · rw [single, List.forall_mem_singleton] at allOpen
    refine ⟨?_, channelsOf_of_single single allOpen⟩
    rw [single, List.forall_mem_singleton]
    exact closed_of_single single

theorem atMostOneOpen_of_closes
    (ownSessions : ((manager.channelsOf address).map (·.sessionId)).Nodup)
    (closes : Closes manager (manager.removeAllNodeChannels address) address) :
    manager.AtMostOneOpen address := by
  have noneLeft := closes.2
  rcases isChannels : manager.channelsOf address with _ | ⟨first, others⟩
  · exact ⟨by rw [isChannels]; exact Nat.zero_le 1, by rw [isChannels]; exact nofun⟩
  have isFirst : (manager.channelsOf address)[0]? = some first := by rw [isChannels]; rfl
  rw [removeAllNodeChannels, closeChannels_of_inside isFirst] at noneLeft
  have after (sessions : (((manager.closeChannel address first).channelsOf address).map
      (·.sessionId)).Nodup) : ((manager.closeChannel address first).channelsOf address) = [] := by
    by_contra some
    have stays := length_closeChannels _ address (0 + 1) sessions (List.length_pos_of_ne_nil some)
    rw [noneLeft] at stays
    cases stays
  by_cases isClosed : first.reference ∈ manager.closed
  · rw [closeChannel_of_closed isClosed] at after
    cases isChannels.symm.trans (after ownSessions)
  · have left := channelsOf_closeChannel ownSessions isFirst isClosed
    rw [isChannels, List.eraseIdx_cons_zero] at left
    rw [left] at after
    rw [isChannels, List.map_cons, List.nodup_cons] at ownSessions
    have single := after ownSessions.2
    rw [AtMostOneOpen, isChannels, single, List.forall_mem_singleton]
    exact ⟨Nat.le_refl 1, isClosed⟩

/-! ## Closing the manager -/

theorem channelsOf_close (manager : ChannelManager) (address : PeerAddress) :
    manager.close.channelsOf address = [] := rfl

theorem closed_subset_foldl (addresses : List PeerAddress) (manager : ChannelManager) :
    manager.closed ⊆ (addresses.foldl removeAllNodeChannels manager).closed := by
  induction addresses generalizing manager with
  | nil => exact List.Subset.refl _
  | cons head addresses induction =>
    exact List.Subset.trans (closed_subset_closeChannels _ _ _) (induction _)

theorem closed_foldl_of_single {addresses : List PeerAddress} {manager : ChannelManager}
    {address : PeerAddress} (single : manager.channelsOf address = [channel])
    (member : address ∈ addresses) :
    channel.reference ∈ (addresses.foldl removeAllNodeChannels manager).closed := by
  induction addresses generalizing manager with
  | nil => cases member
  | cons head addresses induction =>
    rw [List.foldl_cons]
    by_cases same : address = head
    · rw [← same]
      exact closed_subset_foldl _ _ (closed_of_single single)
    · have stays : (manager.removeAllNodeChannels head).channelsOf address = [channel] :=
        (channelsOf_closeChannels_of_ne manager same 0).trans single
      exact induction stays ((List.mem_cons.mp member).resolve_left same)

theorem channels_foldl_closePaseChannel (entries : List (Nat × MessageChannel))
    (manager : ChannelManager) :
    (entries.foldl closePaseChannel manager).channels = manager.channels := by
  induction entries generalizing manager with
  | nil => rfl
  | cons entry entries induction =>
    rw [List.foldl_cons, induction, closePaseChannel]
    split
    · rfl
    · rfl

theorem closes_close_of_short (short : (manager.channelsOf address).length ≤ 1) :
    Closes manager manager.close address := by
  refine ⟨?_, channelsOf_close manager address⟩
  rcases eq_nil_or_single_of_short short with none | ⟨channel, single⟩
  · rw [none]
    exact nofun
  · rw [single, List.forall_mem_singleton]
    let withoutPase : ChannelManager :=
      { manager.paseChannels.entries.foldl closePaseChannel manager with paseChannels := {} }
    have sameChannels : withoutPase.channels = manager.channels :=
      channels_foldl_closePaseChannel manager.paseChannels.entries manager
    have stillSingle : withoutPase.channelsOf address = [channel] := by
      rw [channelsOf, sameChannels]
      exact single
    have member : address ∈ withoutPase.channels.keys := by
      rw [sameChannels, OrderedMap.mem_keys_iff]
      cases found : manager.channels.get address with
      | none =>
        rw [channelsOf, found] at single
        cases single
      | some channels => exact ⟨channels, rfl⟩
    exact closed_foldl_of_single stillSingle member

/-- With at most one channel for each address, and none closed already, the manager closes all
channels and keeps none. Otherwise it does not, unless channels share a session. -/
theorem closesAll_iff_atMostOneOpen (manager : ChannelManager) :
    ((∀ address, manager.AtMostOneOpen address) → manager.ClosesAll) ∧
      ((∀ address, ((manager.channelsOf address).map (·.sessionId)).Nodup) →
        manager.ClosesAll → ∀ address, manager.AtMostOneOpen address) := by
  constructor
  · intro one address
    exact ⟨closes_of_atMostOneOpen (one address), closes_close_of_short (one address).1⟩
  · intro ownSessions closes address
    exact atMostOneOpen_of_closes (ownSessions address) (closes address).1

def twoSessions : ChannelManager where
  channels := ({} : OrderedMap PeerAddress (List MessageChannel)).set ⟨1, 7⟩ [⟨0, 100⟩, ⟨1, 101⟩]
  paseChannels := {}
  closed := []

/-- The first channel takes itself out of the array, so that the loop skips the second. -/
theorem twoSessions_not_closesAll : ¬∀ manager : ChannelManager, manager.ClosesAll := by
  intro all
  have one := atMostOneOpen_of_closes (by decide) (all twoSessions ⟨1, 7⟩).1
  exact absurd one.1 (by decide)

end ChannelManager

end MatterJs.Protocol
