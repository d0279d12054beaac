import Mathlib.Data.List.Forall2

namespace MatterJs.General

/-! The errors the modelled code throws, each with its message and, when it has one,
the name of the field. `rangeError`, `typeError` and `error` are the language's own. -/

/-- `Status` -/
inductive StatusCode where
  | success
  | failure
  | invalidSubscription
  | unsupportedAccess
  | unsupportedEndpoint
  | invalidAction
  | unsupportedCommand
  | invalidCommand
  | unsupportedAttribute
  | constraintError
  | unsupportedWrite
  | resourceExhausted
  | notFound
  | unreportableAttribute
  | invalidDataType
  | unsupportedRead
  | dataVersionMismatch
  | timeout
  | unsupportedNode
  | busy
  | accessRestricted
  | unsupportedCluster
  | noUpstreamSubscription
  | needsTimedInteraction
  | unsupportedEvent
  | pathsExhausted
  | timedRequestMismatch
  | failsafeRequired
  | invalidInState
  | noCommandResponse
  | termsAndConditionsChanged
  | maintenanceRequired
  deriving DecidableEq

def StatusCode.toNat : StatusCode → Nat
  | .success => 0
  | .failure => 1
  | .invalidSubscription => 125
  | .unsupportedAccess => 126
  | .unsupportedEndpoint => 127
  | .invalidAction => 128
  | .unsupportedCommand => 129
  | .invalidCommand => 133
  | .unsupportedAttribute => 134
  | .constraintError => 135
  | .unsupportedWrite => 136
  | .resourceExhausted => 137
  | .notFound => 139
  | .unreportableAttribute => 140
  | .invalidDataType => 141
  | .unsupportedRead => 143
  | .dataVersionMismatch => 146
  | .timeout => 148
  | .unsupportedNode => 155
  | .busy => 156
  | .accessRestricted => 157
  | .unsupportedCluster => 195
  | .noUpstreamSubscription => 197
  | .needsTimedInteraction => 198
  | .unsupportedEvent => 199
  | .pathsExhausted => 200
  | .timedRequestMismatch => 201
  | .failsafeRequired => 202
  | .invalidInState => 203
  | .noCommandResponse => 204
  | .termsAndConditionsChanged => 205
  | .maintenanceRequired => 206

inductive MatterError where
  | internalError (message : String)
  | duplicateMessageError (message : String)
  | matterFlowError (message : String)
  | notImplementedError (message : String)
  | unexpectedDataError (message : String)
  | endOfStreamError (message : String)
  | retransmissionLimitReachedError (message : String)
  | unexpectedMessageError (message : String)
  | channelNotConnectedError (message : String)
  | identityConflictError (message : String)
  | implementationError (message : String)
  | fabricNotFoundError (message : String)
  | fabricTableFullError (message : String)
  | matterFabricConflictError (message : String)
  | matterFabricInvalidAdminSubjectError
  | publicKeyError (message : String)
  | certificateError (message : String)
  | cryptoVerifyError (message : String)
  | noAssociatedFabricError (message : String)
  | fabricScopeError (message : String)
  | statusResponseError (message : String) (code : StatusCode)
  | validationDatatypeMismatchError (message : String) (fieldName : Option String)
  | validationMandatoryFieldMissingError (message : String) (fieldName : Option String)
  | validationOutOfBoundsError (message : String) (fieldName : Option String)
  | transactionFlowError (message : String)
  | transactionDeadlockError (message : String)
  | synchronousTransactionConflictError (message : String)
  | finalizationError (message : String)
  | btpProtocolError (message : String)
  | btpFlowError (message : String)
  | rangeError (message : String)
  | typeError (message : String)
  | error (message : String)
  deriving DecidableEq

/-- What a run of two steps that did not fail did. -/
theorem bind_eq_ok_iff {Failure α β : Type} {first : Except Failure α}
    {next : α → Except Failure β} {result : β} :
    first >>= next = .ok result ↔ ∃ value, first = .ok value ∧ next value = .ok result := by
  cases first with
  | error failure => simp [bind, Except.bind]
  | ok value => simp [bind, Except.bind]

theorem mapM_eq_ok_iff {α β : Type} {convert : α → Except MatterError β} {inputs : List α}
    {outputs : List β} :
    inputs.mapM convert = .ok outputs ↔
      List.Forall₂ (fun input output => convert input = .ok output) inputs outputs := by
  induction inputs generalizing outputs with
  | nil =>
    rw [List.forall₂_nil_left_iff]
    exact ⟨fun run => (Except.ok.inj run).symm, fun empty => congrArg Except.ok empty.symm⟩
  | cons input inputs induction =>
    rw [List.mapM_cons, List.forall₂_cons_left_iff]
    simp only [← induction]
    cases convert input with
    | error failure => simp [bind, Except.bind]
    | ok output =>
      cases inputs.mapM convert with
      | error failure => simp [bind, Except.bind]
      | ok others => simp [bind, Except.bind, pure, Except.pure, eq_comm]

end MatterJs.General
