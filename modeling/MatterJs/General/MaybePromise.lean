import Mathlib.Logic.Basic

/-! `MaybePromise`: values that are there, or promised, or produced by a function, and the
chaining of handlers to them, at once where the value is there. -/

namespace MatterJs.General

universe u

/-- A promise, by what becomes of it -/
inductive Settlement (Value : Type u) where
  | fulfilled (value : Value)
  | rejected (error : Value)
  | pending
  deriving DecidableEq

/-- What a call comes to -/
inductive Completion (Value : Type u) where
  | returned (value : Value)
  | promised (settlement : Settlement Value)
  | thrown (error : Value)
  deriving DecidableEq

inductive HandlerCall (Value : Type u) where
  | resolve (input : Value)
  | reject (error : Value)
  deriving DecidableEq

abbrev Handler (Value : Type u) : Type u := Value → Completion Value

inductive Producer (Value : Type u) where
  | value (value : Value)
  | promise (settlement : Settlement Value)
  | function (completion : Completion Value)
  deriving DecidableEq

/-- The handlers that were called, and what that led to -/
structure Chained (Value : Type u) where
  calls : List (HandlerCall Value)
  completion : Completion Value
  deriving DecidableEq

variable {Value : Type u}

namespace Completion

/-- How a promise ends that is resolved with the completion, or rejected with its error -/
def settlement : Completion Value → Settlement Value
  | returned value => .fulfilled value
  | promised settlement => settlement
  | thrown error => .rejected error

end Completion

/-- `then` of a promise -/
def Settlement.chain (settlement : Settlement Value) (resolve reject : Option (Handler Value)) :
    Chained Value :=
  match settlement, resolve, reject with
  | .fulfilled value, some resolve, _ =>
    ⟨[.resolve value], .promised (resolve value).settlement⟩
  | .rejected error, _, some reject => ⟨[.reject error], .promised (reject error).settlement⟩
  | settlement, _, _ => ⟨[], .promised settlement⟩

namespace Producer

def produce : Producer Value → Completion Value
  | .value given => .returned given
  | .promise settlement => .promised settlement
  | .function completion => completion

end Producer

namespace MaybePromise

variable (undefined : Value)

/-- The `catch` block of `then`. A promise calls its handlers later, so none has been called. -/
def handleThrown (calls : List (HandlerCall Value)) (reject : Option (Handler Value))
    (error : Value) : Chained Value :=
  match reject with
  | some reject => ⟨calls ++ [.reject error], reject error⟩
  | none => ⟨calls, .thrown error⟩

def resolveAtOnce (handler : Handler Value) (value : Value) (reject : Option (Handler Value)) :
    Chained Value :=
  match handler value with
  | .thrown error => handleThrown [.resolve value] reject error
  | completion => ⟨[.resolve value], completion⟩

/-- `MaybePromise.then` -/
def chain (producer : Producer Value) (resolve reject : Option (Handler Value)) :
    Chained Value :=
  match producer.produce with
  | .promised settlement => settlement.chain resolve reject
  | .thrown error => handleThrown [] reject error
  | .returned value =>
    match resolve with
    | none => ⟨[], .returned undefined⟩
    | some handler => resolveAtOnce handler value reject

/-- `MaybePromise.catch` -/
def chainCatch (producer : Producer Value) (onrejected : Option (Handler Value)) :
    Chained Value :=
  chain undefined producer none onrejected

end MaybePromise

/-! ## The native chain -/

/-- `Promise.resolve().then(producer).then(resolve, reject)` -/
def nativeChain (producer : Producer Value) (resolve reject : Option (Handler Value)) :
    Chained Value :=
  producer.produce.settlement.chain resolve reject

/-- The same calls, and the same value or error in the end -/
structure Chained.Agrees (chained native : Chained Value) : Prop where
  calls : chained.calls = native.calls
  completion : chained.completion.settlement = native.completion.settlement

namespace MaybePromise

variable {undefined : Value}

/-- A value that is there and passed on is `undefined`, and `reject` is absent where `resolve`
throws for it. -/
def AgreesAtOnce (undefined : Value) (producer : Producer Value)
    (resolve reject : Option (Handler Value)) : Prop :=
  ∀ value, producer.produce = .returned value →
    (resolve = none → value = undefined) ∧
    ∀ handler error, resolve = some handler → handler value = .thrown error → reject = none

theorem agrees_promised (settlement : Settlement Value) (resolve reject : Option (Handler Value)) :
    (settlement.chain resolve reject).Agrees
      ((Completion.promised settlement).settlement.chain resolve reject) :=
  ⟨rfl, rfl⟩

theorem agrees_thrown (error : Value) (resolve reject : Option (Handler Value)) :
    (handleThrown [] reject error).Agrees
      ((Completion.thrown error).settlement.chain resolve reject) := by
  cases reject with
  | none => exact ⟨rfl, rfl⟩
  | some reject => exact ⟨rfl, rfl⟩

theorem resolveAtOnce_agrees_iff (handler : Handler Value) (value : Value)
    (reject : Option (Handler Value)) :
    (resolveAtOnce handler value reject).Agrees
      ((Completion.returned value).settlement.chain (some handler) reject) ↔
      ∀ error, handler value = .thrown error → reject = none := by
  change Chained.Agrees _ ⟨[.resolve value], .promised (handler value).settlement⟩ ↔ _
  rw [resolveAtOnce]
  cases handler value with
  | returned output => exact iff_of_true ⟨rfl, rfl⟩ nofun
  | promised settlement => exact iff_of_true ⟨rfl, rfl⟩ nofun
  | thrown error =>
    cases reject with
    | none => exact iff_of_true ⟨rfl, rfl⟩ fun _ _ => rfl
    | some reject =>
      constructor
      · intro agrees
        nomatch agrees.calls
      · intro absent
        nomatch absent error rfl

theorem chain_agrees_iff (undefined : Value) (producer : Producer Value)
    (resolve reject : Option (Handler Value)) :
    (chain undefined producer resolve reject).Agrees (nativeChain producer resolve reject) ↔
      AgreesAtOnce undefined producer resolve reject := by
  rw [chain, nativeChain, AgreesAtOnce]
  cases producer.produce with
  | promised settlement =>
    exact iff_of_true (agrees_promised settlement resolve reject) nofun
  | thrown error => exact iff_of_true (agrees_thrown error resolve reject) nofun
  | returned value =>
    simp only [Completion.returned.injEq, forall_eq']
    cases resolve with
    | none =>
      constructor
      · intro agrees
        exact ⟨fun _ => (Settlement.fulfilled.inj agrees.completion).symm, nofun⟩
      · intro condition
        rw [← condition.1 rfl]
        exact ⟨rfl, rfl⟩
    | some handler =>
      rw [resolveAtOnce_agrees_iff]
      refine ⟨fun absent => ⟨nofun, fun other error same => ?_⟩, fun condition error =>
        condition.2 handler error rfl⟩
      cases same
      exact absent error

/-- `then` agrees with the native chain unless it loses a value that is passed on, or hands an
error of `resolve` to `reject`; `catch` agrees unless it loses a value. -/
theorem agrees_native_iff (undefined : Value) (producer : Producer Value)
    (resolve reject : Option (Handler Value)) :
    ((chain undefined producer resolve reject).Agrees (nativeChain producer resolve reject) ↔
      AgreesAtOnce undefined producer resolve reject) ∧
    ((chainCatch undefined producer reject).Agrees (nativeChain producer none reject) ↔
      ∀ value, producer.produce = .returned value → value = undefined) := by
  refine ⟨chain_agrees_iff undefined producer resolve reject, ?_⟩
  rw [chainCatch, chain_agrees_iff, AgreesAtOnce]
  simp

/-- `catch` of 5 is `undefined`. -/
theorem agrees_native_false :
    ¬ ∀ (producer : Producer (Option Nat)) (resolve reject : Option (Handler (Option Nat))),
      (chain none producer resolve reject).Agrees (nativeChain producer resolve reject) ∧
      (chainCatch none producer reject).Agrees (nativeChain producer none reject) := by
  intro agrees
  have lost : Settlement.fulfilled none = .fulfilled (some 5) :=
    (agrees (.value (some 5)) none none).2.completion
  cases lost

end MaybePromise

end MatterJs.General
