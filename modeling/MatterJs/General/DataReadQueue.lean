import MatterJs.General.MatterError

/-! Promise-based blocking queue. A read either takes the oldest item or waits
for the next one. -/

namespace MatterJs.General

universe u

structure DataReadQueue (Data : Type u) where
  queue : List Data
  /-- The read that waits for data. Reads are numbered in the order of calls. -/
  pendingRead : Option Nat
  closed : Bool
  reads : Nat
  /-- The data the promises of reads were resolved with, oldest first. -/
  resolved : List (Nat × Data)
  /-- The reads whose promise was rejected while they waited. -/
  rejected : List Nat
  /-- A read only waits when there is nothing to take. -/
  empty_of_pendingRead : pendingRead.isSome → queue = []

namespace DataReadQueue

variable {Data : Type u}

def new : DataReadQueue Data where
  queue := []
  pendingRead := none
  closed := false
  reads := 0
  resolved := []
  rejected := []
  empty_of_pendingRead := nofun

variable (queue : DataReadQueue Data)

def push (data : Data) : Except MatterError (DataReadQueue Data) :=
  if queue.closed then
    .error (.endOfStreamError "Unexpected end of stream")
  else
    match queue.pendingRead with
    | some read =>
      .ok { queue with
            pendingRead := none
            resolved := queue.resolved ++ [(read, data)]
            empty_of_pendingRead := nofun }
    | none =>
      .ok { queue with
            queue := queue.queue ++ [data]
            pendingRead := none
            empty_of_pendingRead := nofun }

def write (data : Data) : Except MatterError (DataReadQueue Data) :=
  queue.push data

def read (queue : DataReadQueue Data) : Except MatterError (DataReadQueue Data) :=
  if queue.closed then
    .error (.endOfStreamError "Unexpected end of stream")
  else
    match queue.queue with
    | data :: rest =>
      .ok { queue with
            queue := rest
            pendingRead := none
            reads := queue.reads + 1
            resolved := queue.resolved ++ [(queue.reads, data)]
            empty_of_pendingRead := nofun }
    | [] =>
      match queue.pendingRead with
      | some _ => .error (.matterFlowError "Only one pending read is supported")
      | none =>
        .ok { queue with
              queue := []
              pendingRead := some queue.reads
              reads := queue.reads + 1
              empty_of_pendingRead := fun _ => rfl }

def readTimeout : DataReadQueue Data :=
  match queue.pendingRead with
  | some read => { queue with rejected := queue.rejected ++ [read] }
  | none => queue

def close : DataReadQueue Data :=
  if queue.closed then queue
  else
    match queue.pendingRead with
    | some read => { queue with closed := true, rejected := queue.rejected ++ [read] }
    | none => { queue with closed := true }

/-- Everything written so far, oldest first. -/
def written : List Data :=
  queue.resolved.map Prod.snd ++ queue.queue

@[simp] theorem written_close : queue.close.written = queue.written := by
  unfold close
  split
  · rfl
  · split <;> rfl

@[simp] theorem written_readTimeout : queue.readTimeout.written = queue.written := by
  unfold readTimeout
  split <;> rfl

theorem write_of_open {queue : DataReadQueue Data} (isOpen : queue.closed = false) (data : Data) :
    ∃ next, queue.write data = .ok next ∧ next.written = queue.written ++ [data] := by
  cases pending : queue.pendingRead with
  | some read =>
    have nothingQueued := queue.empty_of_pendingRead (by simp [pending])
    simp [write, push, isOpen, pending, written, nothingQueued]
  | none => simp [write, push, isOpen, pending, written]

theorem write_of_closed {queue : DataReadQueue Data} (isClosed : queue.closed = true)
    (data : Data) : ∃ error, queue.write data = .error error := by
  simp [write, push, isClosed]

theorem written_read {queue next : DataReadQueue Data} (reads : queue.read = .ok next) :
    next.written = queue.written := by
  cases closed : queue.closed with
  | true => simp [read, closed] at reads
  | false =>
    cases queued : queue.queue with
    | cons data rest =>
      simp only [read, closed, queued] at reads
      cases reads
      simp [written, queued]
    | nil =>
      cases pending : queue.pendingRead with
      | some waiting => simp [read, closed, queued, pending] at reads
      | none =>
        simp only [read, closed, queued, pending] at reads
        cases reads
        simp [written, queued]

end DataReadQueue

end MatterJs.General
