/-
This file defines the canonical 14-state order state machine.
-/

import BreezeTrading.Contracts.Models

namespace BreezeTrading

/-- An exception, as its text. -/
structure Raised where
  text : String
  deriving DecidableEq, Repr

namespace OrderStateMachine

/-- The states each state may move to. -/
def validTransitions : OrderState → List OrderState
  | .created => [.validating, .rejected, .failedSafe]
  | .validating => [.approved, .riskRejected, .failedSafe]
  | .riskRejected => []
  | .approved =>
      [.submitting, .acknowledged, .open, .filled, .submissionUnknown, .cancelled, .failedSafe]
  | .submitting =>
      [.acknowledged, .open, .filled, .partiallyFilled, .rejected, .submissionUnknown,
        .failedSafe]
  | .submissionUnknown =>
      [.acknowledged, .open, .filled, .partiallyFilled, .rejected, .cancelled, .failedSafe]
  | .acknowledged =>
      [.open, .partiallyFilled, .filled, .cancelled, .rejected, .expired, .failedSafe]
  | .open => [.partiallyFilled, .filled, .cancelled, .expired, .failedSafe]
  | .partiallyFilled => [.partiallyFilled, .filled, .cancelled, .expired, .failedSafe]
  | .filled => []
  | .cancelled => []
  | .rejected => []
  | .expired => []
  | .failedSafe => []

def canTransition (fromState toState : OrderState) : Bool :=
  decide (toState ∈ validTransitions fromState)

/-- The text of `InvalidOrderStateTransitionError`. -/
def invalidTransition (fromState toState : OrderState) (reason : String) : Raised :=
  let text := "Invalid order state transition from OrderState." ++ fromState.value ++
    " to OrderState." ++ toState.value
  ⟨if reason = "" then text else text ++ ": " ++ reason⟩

def validateTransition (fromState toState : OrderState) (reason : String) : Except Raised Unit :=
  if canTransition fromState toState then .ok ()
  else .error (invalidTransition fromState toState reason)

/-- No order leaves a state without transitions. -/
def terminal (state : OrderState) : Bool := (validTransitions state).isEmpty

end OrderStateMachine

end BreezeTrading
