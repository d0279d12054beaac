import Mathlib.Data.List.Nodup
import MatterJs.Foundation.Execution
import MatterJs.General.DataReadQueue

/-! Where the items of a queue go: each is returned by one read, in the order of the pushes,
until a read times out. -/

namespace MatterJs.General

open Execution DataReadQueue

universe u

inductive QueueEvent (Data : Type u) where
  | push (data : Data)
  | read
  /-- The timer of the pending read fires. -/
  | readTimeout
  | close

structure QueuedItems (Data : Type u) where
  queue : DataReadQueue Data
  pushed : List Data

namespace QueuedItems

variable {Data : Type u}

def start : QueuedItems Data where
  queue := .new
  pushed := []

/-- A call that throws changes nothing. -/
def step (items : QueuedItems Data) : QueueEvent Data → QueuedItems Data
  | .push data =>
    match items.queue.push data with
    | .ok queue => { queue, pushed := items.pushed ++ [data] }
    | .error _ => items
  | .read =>
    match items.queue.read with
    | .ok queue => { items with queue }
    | .error _ => items
  | .readTimeout => { items with queue := items.queue.readTimeout }
  | .close => { items with queue := items.queue.close }

/-- What reads returned: a promise that was rejected is not resolved any more. -/
def returned (items : QueuedItems Data) : List (Nat × Data) :=
  items.queue.resolved.filter fun entry => entry.1 ∉ items.queue.rejected

/-- Every item was returned by a read of its own or is still queued, in the order of the
pushes. -/
def EachOnce (items : QueuedItems Data) : Prop :=
  items.pushed = items.returned.map Prod.snd ++ items.queue.queue ∧
    (items.returned.map Prod.fst).Nodup

def ReadsEachOnce (items : QueuedItems Data) (event : QueueEvent Data) : Prop :=
  (items.step event).EachOnce ∧
    match event with
    | .read => items.queue.closed = false → ∃ queue, items.queue.read = .ok queue
    | _ => True

/-- A read is called when no earlier one still waits. -/
def OneAtATime (items : QueuedItems Data) : QueueEvent Data → Prop
  | .read => ∀ read ∈ items.queue.pendingRead, read ∈ items.queue.rejected
  | _ => True

/-- An open queue is neither pushed to nor read when the read it still holds as pending has
timed out. -/
def NoneTimedOut (items : QueuedItems Data) : QueueEvent Data → Prop
  | .push _ | .read =>
    items.queue.closed = true ∨ ∀ read ∈ items.queue.pendingRead, read ∉ items.queue.rejected
  | _ => True

instance (items : QueuedItems Data) : ∀ event, Decidable (items.OneAtATime event)
  | .read => inferInstanceAs (Decidable (∀ read ∈ items.queue.pendingRead, _ ∈ _))
  | .push _ | .readTimeout | .close => .isTrue trivial

instance (items : QueuedItems Data) : ∀ event, Decidable (items.NoneTimedOut event)
  | .push _ | .read =>
    inferInstanceAs (Decidable (_ ∨ ∀ read ∈ items.queue.pendingRead, _ ∉ _))
  | .readTimeout | .close => .isTrue trivial

/-! ## Before a read times out -/

/-- Reads are numbered in the order of the calls, and a promise is settled once. -/
structure SettledOnce (items : QueuedItems Data) : Prop where
  written : items.queue.written = items.pushed
  resolved_lt : ∀ entry ∈ items.queue.resolved, entry.1 < items.queue.reads
  rejected_lt : ∀ read ∈ items.queue.rejected, read < items.queue.reads
  pending_lt : ∀ read ∈ items.queue.pendingRead, read < items.queue.reads
  pending_unresolved : ∀ read ∈ items.queue.pendingRead,
    ∀ entry ∈ items.queue.resolved, entry.1 ≠ read
  unrejected : ∀ entry ∈ items.queue.resolved, entry.1 ∉ items.queue.rejected
  nodup : (items.queue.resolved.map Prod.fst).Nodup

variable {items : QueuedItems Data}

theorem settledOnce_start : (start : QueuedItems Data).SettledOnce :=
  ⟨rfl, nofun, nofun, nofun, nofun, nofun, List.nodup_nil⟩

theorem push_of_open {queue : DataReadQueue Data} (isOpen : queue.closed = false) (data : Data) :
    (∃ read next, queue.pendingRead = some read ∧ queue.push data = .ok next ∧
      next.queue = queue.queue ∧ next.pendingRead = none ∧ next.reads = queue.reads ∧
      next.rejected = queue.rejected ∧ next.resolved = queue.resolved ++ [(read, data)]) ∨
    (∃ next, queue.pendingRead = none ∧ queue.push data = .ok next ∧
      next.pendingRead = none ∧ next.reads = queue.reads ∧
      next.rejected = queue.rejected ∧ next.resolved = queue.resolved) := by
  unfold push
  rw [isOpen, if_neg Bool.false_ne_true]
  split
  · rename_i read pending
    exact .inl ⟨read, _, pending, rfl, rfl, rfl, rfl, rfl, rfl⟩
  · rename_i none
    exact .inr ⟨_, none, rfl, rfl, rfl, rfl, rfl⟩

theorem push_of_closed {queue : DataReadQueue Data} (isClosed : queue.closed = true)
    (data : Data) : ∃ error, queue.push data = .error error :=
  write_of_closed isClosed data

theorem read_of_closed {queue : DataReadQueue Data} (isClosed : queue.closed = true) :
    ∃ error, queue.read = .error error := by
  unfold DataReadQueue.read
  rw [if_pos isClosed]
  exact ⟨_, rfl⟩

theorem read_of_open {queue : DataReadQueue Data} (isOpen : queue.closed = false) :
    (∃ data next, queue.pendingRead = none ∧ queue.read = .ok next ∧ next.pendingRead = none ∧
      next.reads = queue.reads + 1 ∧ next.rejected = queue.rejected ∧
      next.resolved = queue.resolved ++ [(queue.reads, data)]) ∨
    (∃ next, queue.pendingRead = none ∧ queue.read = .ok next ∧
      next.pendingRead = some queue.reads ∧ next.reads = queue.reads + 1 ∧
      next.rejected = queue.rejected ∧ next.resolved = queue.resolved) ∨
    (queue.pendingRead ≠ none ∧ ∃ error, queue.read = .error error) := by
  unfold DataReadQueue.read
  rw [isOpen, if_neg Bool.false_ne_true]
  split
  · rename_i data rest queued
    have none : queue.pendingRead = none := by
      apply Option.not_isSome_iff_eq_none.mp
      intro pending
      rw [queue.empty_of_pendingRead pending] at queued
      cases queued
    exact .inl ⟨data, _, none, rfl, rfl, rfl, rfl, rfl⟩
  · split
    · rename_i pending
      exact .inr (.inr ⟨by rw [pending]; exact nofun, _, rfl⟩)
    · rename_i none
      exact .inr (.inl ⟨_, none, rfl, rfl, rfl, rfl, rfl⟩)

section

variable (settled : items.SettledOnce)

include settled

theorem SettledOnce.returned_eq :
    items.returned = items.queue.resolved := by
  apply List.filter_eq_self.mpr
  intro entry member
  simpa using settled.unrejected entry member

theorem SettledOnce.eachOnce : items.EachOnce := by
  rw [EachOnce, settled.returned_eq]
  exact ⟨settled.written.symm, settled.nodup⟩

theorem SettledOnce.resolve {next : QueuedItems Data} {read : Nat}
    {data : Data} (isNew : ∀ entry ∈ items.queue.resolved, entry.1 ≠ read)
    (notRejected : read ∉ items.queue.rejected)
    (written : next.queue.written = next.pushed)
    (reads : items.queue.reads ≤ next.queue.reads ∧ read < next.queue.reads)
    (none : next.queue.pendingRead = none) (rejected : next.queue.rejected = items.queue.rejected)
    (resolved : next.queue.resolved = items.queue.resolved ++ [(read, data)]) :
    next.SettledOnce := by
  refine ⟨written, ?_, ?_, ?_, ?_, ?_, ?_⟩
  · rw [resolved, List.forall_mem_append, List.forall_mem_singleton]
    exact ⟨fun entry member => Nat.lt_of_lt_of_le (settled.resolved_lt entry member) reads.1,
      reads.2⟩
  · rw [rejected]
    exact fun other member => Nat.lt_of_lt_of_le (settled.rejected_lt other member) reads.1
  · rw [none]
    exact nofun
  · rw [none]
    exact nofun
  · rw [resolved, rejected, List.forall_mem_append, List.forall_mem_singleton]
    exact ⟨settled.unrejected, notRejected⟩
  · rw [resolved, List.map_append, List.nodup_append_comm]
    refine List.nodup_cons.mpr ⟨?_, settled.nodup⟩
    intro member
    rcases List.mem_map.mp member with ⟨entry, isEntry, same⟩
    exact isNew entry isEntry same

theorem SettledOnce.wait {next : QueuedItems Data}
    (written : next.queue.written = next.pushed) (reads : items.queue.reads ≤ next.queue.reads)
    (pending : ∀ read ∈ next.queue.pendingRead, read = items.queue.reads ∧ read < next.queue.reads)
    (rejected : next.queue.rejected = items.queue.rejected)
    (resolved : next.queue.resolved = items.queue.resolved) : next.SettledOnce := by
  refine ⟨written, ?_, ?_, fun read isPending => (pending read isPending).2, ?_, ?_, ?_⟩
  · rw [resolved]
    exact fun entry member => Nat.lt_of_lt_of_le (settled.resolved_lt entry member) reads
  · rw [rejected]
    exact fun read member => Nat.lt_of_lt_of_le (settled.rejected_lt read member) reads
  · rw [resolved]
    intro read isPending entry member
    rw [(pending read isPending).1]
    exact Nat.ne_of_lt (settled.resolved_lt entry member)
  · rw [resolved, rejected]
    exact settled.unrejected
  · rw [resolved]
    exact settled.nodup

theorem SettledOnce.reject {next : QueuedItems Data} {read : Nat}
    (pending : items.queue.pendingRead = some read)
    (written : next.queue.written = next.pushed) (reads : next.queue.reads = items.queue.reads)
    (stays : next.queue.pendingRead = items.queue.pendingRead)
    (rejected : next.queue.rejected = items.queue.rejected ++ [read])
    (resolved : next.queue.resolved = items.queue.resolved) : next.SettledOnce := by
  refine ⟨written, ?_, ?_, ?_, ?_, ?_, ?_⟩
  · rw [resolved, reads]
    exact settled.resolved_lt
  · rw [rejected, reads, List.forall_mem_append, List.forall_mem_singleton]
    exact ⟨settled.rejected_lt, settled.pending_lt read pending⟩
  · rw [stays, reads]
    exact settled.pending_lt
  · rw [stays, resolved]
    exact settled.pending_unresolved
  · rw [resolved, rejected]
    intro entry member isRejected
    rcases List.mem_append.mp isRejected with earlier | last
    · exact settled.unrejected entry member earlier
    · exact settled.pending_unresolved read pending entry member (List.mem_singleton.mp last)
  · rw [resolved]
    exact settled.nodup

theorem SettledOnce.push {data : Data}
    (noneTimedOut : items.NoneTimedOut (.push data)) : (items.step (.push data)).SettledOnce := by
  rw [step]
  cases closed : items.queue.closed with
  | true =>
    rcases push_of_closed closed data with ⟨error, fails⟩
    rw [fails]
    exact settled
  | false =>
    rcases write_of_open closed data with ⟨written, isWritten, appended⟩
    rw [write] at isWritten
    have allWritten : written.written = items.pushed ++ [data] := by
      rw [appended, settled.written]
    rw [isWritten]
    rcases push_of_open closed data with
      ⟨read, next, pending, pushes, _, none, reads, rejected, resolved⟩ |
      ⟨next, _, pushes, none, reads, rejected, resolved⟩
    · cases isWritten.symm.trans pushes
      have live := (noneTimedOut.resolve_left (by rw [closed]; decide)) read pending
      exact settled.resolve (settled.pending_unresolved read pending) live allWritten
        ⟨Nat.le_of_eq reads.symm, by rw [reads]; exact settled.pending_lt read pending⟩ none
        rejected resolved
    · cases isWritten.symm.trans pushes
      exact settled.wait allWritten (Nat.le_of_eq reads.symm) (by rw [none]; simp) rejected resolved

theorem SettledOnce.read : (items.step .read).SettledOnce := by
  rw [step]
  cases closed : items.queue.closed with
  | true =>
    rcases read_of_closed closed with ⟨error, fails⟩
    rw [fails]
    exact settled
  | false =>
    rcases read_of_open closed with
      ⟨data, next, _, reads, none, numbered, rejected, resolved⟩ |
      ⟨next, _, reads, waits, numbered, rejected, resolved⟩ | ⟨_, error, fails⟩
    · have written := (written_read reads).trans settled.written
      rw [reads]
      refine settled.resolve (fun entry member => Nat.ne_of_lt (settled.resolved_lt entry member))
        (fun member => Nat.lt_irrefl _ (settled.rejected_lt _ member)) written ?_ none rejected
        resolved
      rw [numbered]
      exact ⟨Nat.le_succ _, Nat.lt_succ_self _⟩
    · have written := (written_read reads).trans settled.written
      rw [reads]
      refine settled.wait written ?_ ?_ rejected resolved
      · rw [numbered]
        exact Nat.le_succ _
      · rw [waits, numbered]
        rintro read ⟨⟩
        exact ⟨rfl, Nat.lt_succ_self _⟩
    · rw [fails]
      exact settled

theorem SettledOnce.readTimeout :
    (items.step .readTimeout).SettledOnce := by
  have written : items.queue.readTimeout.written = items.pushed :=
    items.queue.written_readTimeout.trans settled.written
  rw [step]
  unfold DataReadQueue.readTimeout at written ⊢
  split at written
  · rename_i pending
    exact settled.reject pending written rfl rfl rfl rfl
  · exact settled

theorem SettledOnce.close : (items.step .close).SettledOnce := by
  have written : items.queue.close.written = items.pushed :=
    items.queue.written_close.trans settled.written
  rw [step]
  unfold DataReadQueue.close at written ⊢
  split
  · exact settled
  · rename_i isOpen
    rw [if_neg isOpen] at written
    split at written
    · rename_i pending
      exact settled.reject pending written rfl rfl rfl rfl
    · exact ⟨settled.written, settled.resolved_lt, settled.rejected_lt, settled.pending_lt,
        settled.pending_unresolved, settled.unrejected, settled.nodup⟩

theorem SettledOnce.step {event : QueueEvent Data}
    (noneTimedOut : items.NoneTimedOut event) : (items.step event).SettledOnce := by
  cases event with
  | push data => exact settled.push noneTimedOut
  | read => exact settled.read
  | readTimeout => exact settled.readTimeout
  | close => exact settled.close

end

/-! ## Once a read timed out -/

theorem not_eachOnce_push {data : Data} {read : Nat} (settled : items.SettledOnce)
    (isOpen : items.queue.closed = false) (pending : items.queue.pendingRead = some read)
    (timedOut : read ∈ items.queue.rejected) : ¬(items.step (.push data)).EachOnce := by
  have before := congrArg List.length settled.eachOnce.1
  rw [settled.returned_eq] at before
  rcases push_of_open isOpen data with
    ⟨_, next, isPending, pushes, queued, _, _, rejected, resolved⟩ | ⟨_, none, _⟩
  · cases pending.symm.trans isPending
    rw [QueuedItems.step, pushes]
    rintro ⟨after, _⟩
    have kept : QueuedItems.returned ⟨next, items.pushed ++ [data]⟩ =
        items.queue.resolved := by
      rw [returned, resolved, rejected]
      simpa [timedOut] using settled.unrejected
    rw [kept, queued] at after
    have lengths := congrArg List.length after
    simp only [List.length_append, List.length_singleton] at before lengths
    omega
  · rw [pending] at none
    cases none

theorem read_of_pending {queue : DataReadQueue Data} (isOpen : queue.closed = false)
    (pending : queue.pendingRead ≠ none) : ∃ error, queue.read = .error error := by
  rcases read_of_open isOpen with ⟨_, _, none, _⟩ | ⟨_, none, _⟩ | ⟨_, fails⟩
  · exact absurd none pending
  · exact absurd none pending
  · exact fails

theorem SettledOnce.readsEachOnce_iff (settled : items.SettledOnce) {event : QueueEvent Data}
    (oneAtATime : items.OneAtATime event) :
    items.ReadsEachOnce event ↔ items.NoneTimedOut event := by
  constructor
  · rintro ⟨eachOnce, readable⟩
    cases event with
    | push data =>
      apply or_iff_not_imp_left.mpr
      intro isOpen read pending timedOut
      exact not_eachOnce_push settled (Bool.eq_false_iff.mpr isOpen) pending timedOut eachOnce
    | read =>
      apply or_iff_not_imp_left.mpr
      intro isOpen read pending _
      have closed := Bool.eq_false_iff.mpr isOpen
      rcases readable closed with ⟨queue, reads⟩
      rcases read_of_pending closed (by rw [pending]; exact nofun) with ⟨error, fails⟩
      rw [reads] at fails
      cases fails
    | readTimeout => trivial
    | close => trivial
  · intro noneTimedOut
    refine ⟨(settled.step noneTimedOut).eachOnce, ?_⟩
    cases event with
    | read =>
      intro isOpen
      have live := noneTimedOut.resolve_left (by rw [isOpen]; decide)
      rcases read_of_open isOpen with
        ⟨_, next, _, reads, _⟩ | ⟨next, _, reads, _⟩ | ⟨pending, _⟩
      · exact ⟨next, reads⟩
      · exact ⟨next, reads⟩
      · rcases Option.ne_none_iff_exists'.mp pending with ⟨read, isPending⟩
        exact absurd (oneAtATime read isPending) (live read isPending)
    | push data => trivial
    | readTimeout => trivial
    | close => trivial

/-- Reads return each item once exactly while no open queue is used with a read that timed
out as its pending one. -/
theorem readsEachOnce_iff_noneTimedOut {events : List (QueueEvent Data)}
    (oneAtATime : Along step OneAtATime start events) :
    Along step ReadsEachOnce start events ↔ Along step NoneTimedOut start events := by
  have same : Along step (fun items event => items.OneAtATime event ∧ items.ReadsEachOnce event)
      (start : QueuedItems Data) events ↔
      Along step (fun items event => items.OneAtATime event ∧ items.NoneTimedOut event)
        start events := by
    apply along_iff_along SettledOnce settledOnce_start
    · rintro items event ⟨_, noneTimedOut⟩ settled
      exact settled.step noneTimedOut
    · intro items event settled
      exact and_congr_right settled.readsEachOnce_iff
  rw [along_and_iff, along_and_iff] at same
  exact (and_congr_right_iff.mp same) oneAtATime

/-- One read waits, the next takes what was queued. -/
theorem readsEachOnce_iff_noneTimedOut_reads :
    Along step ReadsEachOnce (start : QueuedItems Nat) [.read, .push 1, .push 2, .read] :=
  (readsEachOnce_iff_noneTimedOut (by decide)).mpr (by decide)

/-- The item pushed after a read timed out reaches no read. -/
theorem timedOutRead_not_eachOnce :
    ¬∀ events : List (QueueEvent Nat), Along step OneAtATime start events →
      Along step ReadsEachOnce start events := by
  intro all
  have along := all [.read, .readTimeout, .push 1] (by decide)
  exact absurd along.2.2.1.1.1 (by decide)

end QueuedItems

end MatterJs.General
