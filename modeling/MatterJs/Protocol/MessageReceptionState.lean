import MatterJs.Foundation.Bitwise32
import MatterJs.General.MatterError

/-! Reception state of one sender and key: the highest message counter seen and
a bitmap over the counters just below it. -/

namespace MatterJs.Protocol

open General

def maxCounterValue32Bit : Int := 0xfffffffe

/-- 2^31, used for duplicate detection in some cases. -/
def maxCounterIncrease2Pow31 : Int := 2 ^ 31

/-- Maximum number of previously processed message counters to accept from a
given node and key. -/
def msgCounterWindowSize : Int := 32

/-- The concrete reception state classes. They only differ in `calculateDiff`. -/
inductive MessageReceptionKind where
  | encryptedWithoutRollover
  | encryptedWithRollover
  | unencryptedWithRollover
  deriving DecidableEq

structure MessageReceptionState (kind : MessageReceptionKind) where
  maximumMessageCounter : Option Int
  messageCounterBitmap : Int
  deriving DecidableEq

namespace MessageReceptionState

variable {kind : MessageReceptionKind}

variable (state : MessageReceptionState kind) (messageCounter : Int)

def initializeCounter : MessageReceptionState kind where
  maximumMessageCounter := some messageCounter
  messageCounterBitmap := 0xffffffff

/-- The constructor: without a counter the first message initializes the state. -/
def new : Option Int → MessageReceptionState kind
  | none => { maximumMessageCounter := none, messageCounterBitmap := 0xffffffff }
  | some messageCounter => initializeCounter messageCounter

def diffEncryptedWithRollover (maximum messageCounter : Int) : Int :=
  let diff := messageCounter - maximum
  if 0 < diff then
    if diff < maxCounterIncrease2Pow31 then diff
    else diff - maxCounterValue32Bit - 1
  else if diff < 0 then
    if -maxCounterIncrease2Pow31 ≤ diff then diff
    else diff + maxCounterValue32Bit + 1
  else 0

def diffUnencryptedWithRollover (maximum messageCounter : Int) : Int :=
  let diff := messageCounter - maximum
  if 0 < diff then
    if -diff + maxCounterValue32Bit < msgCounterWindowSize then
      diff - maxCounterValue32Bit - 1
    else diff
  else if diff < 0 then
    if diff < -msgCounterWindowSize then maxCounterValue32Bit + diff
    else diff
  else 0

/-- Negative when the counter is taken to lie behind the current maximum,
positive when it is taken to lie ahead of it. -/
def calculateDiff : Int :=
  match state.maximumMessageCounter with
  | none => 0
  | some maximum =>
    match kind with
    | .encryptedWithoutRollover => messageCounter - maximum
    | .encryptedWithRollover => diffEncryptedWithRollover maximum messageCounter
    | .unencryptedWithRollover => diffUnencryptedWithRollover maximum messageCounter

def calculateMessageCounterBitmap (messageCounterBitmap diff : Int) :
    Except MatterError Int :=
  if diff < 0 then
    if diff < -msgCounterWindowSize then
      .error (.internalError s!"Message counter difference too large: {diff}")
    else
      -- set the corresponding bit
      let bit := Bitwise32.shiftLeft 1 (-diff - 1)
      .ok (Bitwise32.unsignedShiftRight (Bitwise32.or messageCounterBitmap bit) 0)
  else if 0 < diff then
    if diff ≤ msgCounterWindowSize then
      -- shift the bitmap and set the bit for the previous maximum
      let bit := Bitwise32.shiftLeft 1 (diff - 1)
      let shifted := Bitwise32.unsignedShiftRight (Bitwise32.shiftLeft messageCounterBitmap diff) 0
      .ok (Bitwise32.unsignedShiftRight (Bitwise32.or shifted bit) 0)
    else
      .ok (Bitwise32.unsignedShiftRight 0 0)
  else
    .ok (Bitwise32.unsignedShiftRight messageCounterBitmap 0)

def updateMessageCounterAndBitmap (diff : Int) : Except MatterError (MessageReceptionState kind) :=
  match state.maximumMessageCounter with
  | none => .ok (initializeCounter messageCounter)
  | some maximum =>
    match calculateMessageCounterBitmap state.messageCounterBitmap diff with
    | .error error => .error error
    | .ok bitmap => .ok {
        maximumMessageCounter :=
          if 0 < diff ∨ diff < -msgCounterWindowSize then some messageCounter
          else some maximum
        messageCounterBitmap := bitmap }

def isCounterKnownInBitmap (diff : Int) : Except MatterError Bool :=
  if diff < -msgCounterWindowSize ∨ 0 ≤ diff then
    .error (.internalError s!"Invalid Message counter difference for check: {diff}")
  else
    let bit := Bitwise32.shiftLeft 1 (-diff - 1)
    .ok (Bitwise32.and state.messageCounterBitmap bit != 0)

/-- The state after a new counter, or the error a refused one throws. Every
error leaves the state as it was. -/
def updateMessageCounter : Except MatterError (MessageReceptionState kind) :=
  if messageCounter < 0 ∨ maxCounterValue32Bit < messageCounter then
    .error (.internalError s!"Invalid message counter value: {messageCounter}")
  else
    match state.maximumMessageCounter with
    | none => state.updateMessageCounterAndBitmap messageCounter 0
    | some maximum =>
      if messageCounter = maximum then
        .error (.duplicateMessageError "Message counter equals the maximum message counter.")
      else
        let diff := state.calculateDiff messageCounter
        if diff < 0 then
          if diff < -msgCounterWindowSize then
            .error (.duplicateMessageError "Message counter is considered duplicate.")
          else
            match state.isCounterKnownInBitmap diff with
            | .error error => .error error
            | .ok true => .error (.duplicateMessageError
                "Message counter is within the message counter window and duplicate.")
            | .ok false => state.updateMessageCounterAndBitmap messageCounter diff
        else
          state.updateMessageCounterAndBitmap messageCounter diff

end MessageReceptionState

end MatterJs.Protocol
