/-
This file proves which outcomes of a broker call are recorded as a rejection, through the ledger
of the guarded write, the response of the adapter and the order of the OMS. Every exception but a
timeout is one, also when the request was sent, or the order was placed and only the ledger
failed.
-/

import BreezeTrading.BrokerGateway.Adapters
import BreezeTrading.Oms.Record

namespace BreezeTrading.BrokerGateway

open Async

namespace Definitive

/-! ### Behaviours of the broker call -/

/-- What the broker call does: the broker places the order, definitively refuses it, or gives no
answer, in which case the request was sent or not. -/
inductive Behaviour where
  | accepts (brokerOrderId : Option String)
  | refuses (error : BrokerError)
  | fails (sent : Bool) (error : BrokerError)

namespace Behaviour

/-- The broker definitively refused the order. -/
def refused : Behaviour → Bool
  | .refuses _ => true
  | _ => false

/-- The order may exist at the broker. -/
def mayExist : Behaviour → Bool
  | .accepts _ => true
  | .refuses _ => false
  | .fails sent _ => sent

/-- The call returned the order. -/
def accepted : Behaviour → Bool
  | .accepts _ => true
  | _ => false

end Behaviour

/-- Exceptions of the ledger database, by the name of their class and their text. -/
structure LedgerFailures where
  markAcknowledged : Option (String × String)
  markUnknown : Option (String × String)
  markRejected : Option (String × String)

/-- The adapter an order is placed with; the Breeze adapter with its ledger. -/
inductive Venue where
  | kite (adapter : ZerodhaKiteAdapter)
  | breeze (adapter : IciciBreezeAdapter) (rows : String → Option BrokerWriteRequest)
      (failures : LedgerFailures)

/-! ### Placement -/

/-- What a statement of the ledger decides. -/
def failing : Option (String × String) → GuardAnswer
  | none => .ok
  | some (name, message) => .raises (.other name message)

/-- The acknowledgement of an order the broker placed. -/
def acknowledgement (requestId : String) (brokerOrderId : Option String) :
    BrokerOrderAcknowledgement where
  requestId := requestId
  clientReference := requestId
  brokerOrderId := brokerOrderId
  status := .acknowledged
  message := some "Order placed successfully with broker"
  acknowledgedAt := 0

/-- What is decided about the operations of a guarded write while the session is active. -/
def guardChoice (behaviour : Behaviour) (failures : LedgerFailures) : GuardOp → GuardAnswer
  | .getStatus => .session .active
  | .now => .time 0
  | .outcome requestId =>
    match behaviour with
    | .accepts brokerOrderId => .acknowledges (acknowledgement requestId brokerOrderId)
    | .refuses error => .raises error
    | .fails _ error => .raises error
  | .markAcknowledged _ _ _ => failing failures.markAcknowledged
  | .markUnknown _ _ => failing failures.markUnknown
  | .markRejected _ _ => failing failures.markRejected
  | _ => .ok

def guardAnswer (behaviour : Behaviour) (failures : LedgerFailures) (world : Guard)
    (op : GuardOp) : Except BrokerError (GuardReply op) × Guard :=
  (world.answer op (guardChoice behaviour failures op)).getD
    (.error (.other "" "not answered"), world)

def kiteAnswer (behaviour : Behaviour) (_ : Unit) :
    (op : KiteOp) → Except BrokerError (KiteReply op) × Unit
  | .placeOrder _ =>
    match behaviour with
    | .accepts brokerOrderId => (.ok (brokerOrderId.getD "None"), ())
    | .refuses error => (.error error, ())
    | .fails _ error => (.error error, ())

/-- What the adapter returns or raises, and the state of the request in its ledger. -/
def Venue.place (behaviour : Behaviour) (request : BrokerOrderRequest) :
    Venue → Except BrokerError BrokerOrderResponse × Option BrokerWriteStatus
  | .kite adapter => (((adapter.placeOrder request).eval (kiteAnswer behaviour) ()).1, none)
  | .breeze adapter rows failures =>
    let (result, ledger) := (adapter.placeOrder request 0).eval (guardAnswer behaviour failures)
      (.opened rows)
    (result, (ledger.rows request.clientOrderId).map BrokerWriteRequest.state)

/-- What is decided about the operations of the pipeline when the adapter has answered. -/
def pipelineChoice (result : Except BrokerError BrokerOrderResponse) : PipelineOp → PipelineAnswer
  | .placeOrder _ _ =>
    match result with
    | .ok response => .response response
    | .error error => .raises error.message
  | _ => .ok

def pipelineAnswer (result : Except BrokerError BrokerOrderResponse) (world : Pipeline)
    (op : PipelineOp) : Except Raised (PipelineReply op) × Pipeline :=
  (world.answer op (pipelineChoice result op)).getD (.error ⟨"not answered"⟩, world)

/-- Handle the envelopes of the queue, one after the other. -/
def handled (service : ExecutionService) (result : Except BrokerError BrokerOrderResponse)
    (world : Pipeline) : Pipeline :=
  world.queue.foldl (fun world envelope =>
    ((handle service envelope).eval (pipelineAnswer result) world).2) world

/-- What is recorded of a placement. -/
structure Recorded where
  result : Except BrokerError BrokerOrderResponse
  ledger : Option BrokerWriteStatus
  order : Option BrokerOrder

/-- Route a reserved order to the broker, and handle what is published about it. -/
def record (service : ExecutionService) (world : Pipeline) (order : BrokerOrder)
    (request : BrokerOrderRequest) (venue : Venue) (behaviour : Behaviour) : Recorded :=
  let (result, ledger) := venue.place behaviour request
  let submitted := ((service.submitReserved order).eval (pipelineAnswer result)
    { world with queue := [] }).2
  ⟨result, ledger, (handled service result submitted).oms.getOrderByClientId order.clientOrderId⟩

/-! ### What is claimed and what is needed -/

/-- Some layer records a rejection. -/
def Recorded.Rejected (recorded : Recorded) : Prop :=
  (∃ response, recorded.result = .ok response ∧ response.status = "REJECTED") ∨
    recorded.ledger = some .rejected ∨
    ∃ order, recorded.order = some order ∧ order.status = .rejected

/-- A rejection is recorded only when the broker refused; an order that may exist stays in the
reconcile set, as unknown unless the broker returned it. -/
structure Definite (behaviour : Behaviour) (recorded : Recorded) : Prop where
  rejected : recorded.Rejected → behaviour.refused = true
  pending : behaviour.mayExist = true → ∃ order, recorded.order = some order ∧
    ExecutionService.reconcilable order = true ∧
    (behaviour.accepted = false → order.status = .submissionUnknown)

/-- The broker is called: the adapter accepts the request, and the ledger does not hold it as
submitted. -/
def Venue.Calls (request : BrokerOrderRequest) : Venue → Prop
  | .kite adapter => adapter.isActive = true ∧
      ¬ (ZerodhaKiteAdapter.kiteOrderType request.orderType = "SL" ∧ request.triggerPrice = none)
  | .breeze adapter rows _ => adapter.testing = false ∧
      IciciBreezeAdapter.readable request = true ∧
      ∀ row, rows request.clientOrderId = some row →
        row.state = .received ∧ row.requestHash = adapter.sha256 (adapter.payload request)

/-- The broker refused the order; or it returned it, and the ledger recorded that; or the call
timed out, and the ledger recorded that. -/
def Venue.Handles : Venue → Behaviour → Prop
  | _, .refuses _ => True
  | .kite _, .accepts _ => True
  | .kite _, .fails _ (.timeout _) => True
  | .breeze _ _ failures, .accepts _ => failures.markAcknowledged = none
  | .breeze _ _ failures, .fails _ (.timeout _) => failures.markUnknown = none
  | _, .fails _ _ => False

section

variable {behaviour : Behaviour} {failures : LedgerFailures} {world : Guard}

/-! ### The guarded write -/

/-- The state of a request in the ledger. -/
def stateOf (world : Guard) (requestId : String) : Option BrokerWriteStatus :=
  (world.rows requestId).map BrokerWriteRequest.state

variable {requestId : String} {caller : Nat}

theorem stateOf_updateRow {update : BrokerWriteRequest → BrokerWriteRequest} :
    stateOf (world.updateRow requestId update) requestId =
      (world.rows requestId).map fun row => (update row).state := by
  unfold stateOf Guard.updateRow Guard.setRow
  simp only [if_true, Option.map_map]
  rfl

theorem answer_outcome_accepts {brokerOrderId : Option String} :
    guardAnswer (.accepts brokerOrderId) failures world (.outcome requestId) =
      (.ok (acknowledgement requestId brokerOrderId), world) := rfl

/-- The request is in the ledger as submitting. -/
def Submitting (requestId : String) (world : Guard) : Prop :=
  ∃ row, world.rows requestId = some row ∧ row.state = .submitting

theorem eval_executeGuardedWrite {sha256 : String → String} {request : GuardedWrite} (fresh : ∀ row,
      world.rows request.requestId = some row → row.state = .received ∧ row.requestHash = sha256
      request.payload) : ∃ next, Submitting request.requestId next ∧
      (ExecutionGuard.executeGuardedWrite sha256 request caller).eval
        (guardAnswer behaviour failures) world =
      (ExecutionGuard.submit request caller).eval (guardAnswer behaviour failures) next := by
  have active : guardAnswer behaviour failures world .getStatus = (.ok .active, world) := rfl
  have marks (world : Guard) : guardAnswer behaviour failures world
      (.markSubmitting request.requestId) = (.ok (), world.updateRow request.requestId fun row =>
        { row with state := .submitting }) := rfl
  have marked {world : Guard} {row : BrokerWriteRequest}
      (found : world.rows request.requestId = some row) :
      Submitting request.requestId (world.updateRow request.requestId fun row =>
        { row with state := .submitting }) := by
    refine ⟨{ row with state := .submitting }, ?_, rfl⟩
    unfold Guard.updateRow Guard.setRow
    simp [found]
  have read : guardAnswer behaviour failures world (.select request.requestId) =
      (.ok (world.rows request.requestId), world) := rfl
  unfold ExecutionGuard.executeGuardedWrite
  rw [Coroutine.eval_perform_bind, active]
  simp only [ne_eq, not_true_eq_false, if_false]
  rw [Coroutine.eval_bind]
  unfold ExecutionGuard.recordIntent
  rw [Coroutine.eval_perform_bind, read]
  cases found : world.rows request.requestId with
  | none =>
    have inserted : guardAnswer behaviour failures world (.insert request.requestId
        ⟨request.accountId, request.clientReference, sha256 request.payload, request.action,
          .received, none, none, none⟩) = (.ok (), world.setRow request.requestId (some
        ⟨request.accountId, request.clientReference, sha256 request.payload, request.action,
          .received, none, none, none⟩)) := by
      simp only [guardAnswer, guardChoice, Guard.answer, found]
      rfl
    simp only
    unfold ExecutionGuard.recordIntent.insertIntent
    rw [Coroutine.eval_perform_bind, inserted]
    simp only [Coroutine.pure_eq_done, Coroutine.eval_done]
    exact ⟨_, marked (if_pos rfl), rfl⟩
  | some row =>
    obtain ⟨received, hashed⟩ := fresh row found
    simp only [ne_eq, hashed, not_true_eq_false, if_false, received, Coroutine.pure_eq_done,
      Coroutine.eval_done]
    exact ⟨_, marked found, rfl⟩

theorem answer_markRejected {reason : String} :
    guardAnswer behaviour failures world (.markRejected requestId reason) =
      match failures.markRejected with
      | none => (.ok (), world.updateRow requestId fun row =>
          { row with state := .rejected, errorMessage := some reason })
      | some (name, message) => (.error (.other name message), world) := by
  simp only [guardAnswer, guardChoice, Guard.answer]
  cases failures.markRejected <;> rfl

theorem answer_markUnknown {message : String} :
    guardAnswer behaviour failures world (.markUnknown requestId message) =
      match failures.markUnknown with
      | none => (.ok (), world.updateRow requestId fun row =>
          { row with state := .submissionUnknown, errorMessage := some message })
      | some (name, message) => (.error (.other name message), world) := by
  simp only [guardAnswer, guardChoice, Guard.answer]
  cases failures.markUnknown <;> rfl

theorem answer_markAcknowledged {brokerOrderId : Option String} {result : AcknowledgedResult} :
    guardAnswer behaviour failures world (.markAcknowledged requestId brokerOrderId result) =
      match failures.markAcknowledged with
      | none => (.ok (), world.updateRow requestId fun row =>
          { row with
            state := .acknowledged
            brokerOrderId := brokerOrderId
            result := some result })
      | some (name, message) => (.error (.other name message), world) := by
  simp only [guardAnswer, guardChoice, Guard.answer]
  cases failures.markAcknowledged <;> rfl

theorem eval_recordFailure_unknown {request : GuardedWrite}
    (submitting : Submitting request.requestId world) (recorded : failures.markUnknown = none)
    (text : String) :
    ∃ message next, (ExecutionGuard.recordFailure request (.timeout text)).eval
        (guardAnswer behaviour failures) world = (.error (.submissionUnknown message), next) ∧
      stateOf next request.requestId = some .submissionUnknown := by
  obtain ⟨row, found, -⟩ := submitting
  unfold ExecutionGuard.recordFailure
  rw [Coroutine.eval_perform_bind, answer_markUnknown, recorded]
  refine ⟨_, _, rfl, ?_⟩
  rw [stateOf_updateRow, found]
  rfl

/-- The error of a write ends as a rejection: it is recorded as one, or the adapter reports it
as one. -/
def Rejecting (requestId : String) (raised : BrokerError) (world : Guard) : Prop :=
  stateOf world requestId = some .rejected ∨ ∃ name message, raised = .other name message

theorem eval_recordFailure_rejects {request : GuardedWrite}
    (submitting : Submitting request.requestId world) {error : BrokerError}
    (lost : (∀ message, error ≠ .timeout message) ∨ failures.markUnknown ≠ none) :
    ∃ raised next, (ExecutionGuard.recordFailure request error).eval
        (guardAnswer behaviour failures) world = (.error raised, next) ∧
      Rejecting request.requestId raised next := by
  obtain ⟨row, found, -⟩ := submitting
  have rejects (reason : String) (raises : BrokerError) :
      ∃ raised next, (do
          ExecutionGuard.ask (.markRejected request.requestId reason)
          (.raised raises : GuardTask BrokerOrderAcknowledgement)).eval
            (guardAnswer behaviour failures) world = (.error raised, next) ∧
        Rejecting request.requestId raised next := by
    rw [Coroutine.eval_perform_bind, answer_markRejected]
    cases failures.markRejected with
    | none =>
      refine ⟨_, _, rfl, Or.inl ?_⟩
      rw [stateOf_updateRow, found]
      rfl
    | some failure => exact ⟨_, _, rfl, Or.inr ⟨_, _, rfl⟩⟩
  cases error with
  | timeout message =>
    cases failing : failures.markUnknown with
    | none => exact absurd failing (lost.resolve_left fun never => never message rfl)
    | some failure =>
      unfold ExecutionGuard.recordFailure
      rw [Coroutine.eval_perform_bind, answer_markUnknown, failing]
      exact ⟨_, _, rfl, Or.inr ⟨_, _, rfl⟩⟩
  | _ => exact rejects _ _

/-- A submission goes on with what its call comes to. -/
theorem eval_submit (request : GuardedWrite) (submitting : Submitting request.requestId world)
    {outcome : Except BrokerError BrokerOrderAcknowledgement} (comes : ∀ world,
      guardAnswer behaviour failures world (.outcome request.requestId) = (outcome, world)) :
    ∃ invoked, Submitting request.requestId invoked ∧
      (ExecutionGuard.submit request caller).eval (guardAnswer behaviour failures) world =
        match outcome with
        | .error error =>
          (ExecutionGuard.recordFailure request error).eval (guardAnswer behaviour failures) invoked
        | .ok ack => match failures.markAcknowledged with
          | none => (.ok ack, invoked.updateRow request.requestId fun row =>
              { row with
                state := .acknowledged
                brokerOrderId := ack.brokerOrderId
                result := some ⟨ack.brokerOrderId, ack.clientReference, ack.status, ack.message,
                  ack.acknowledgedAt⟩ })
          | some (name, message) =>
            (ExecutionGuard.recordFailure request (.other name message)).eval
              (guardAnswer behaviour failures) invoked := by
  have invokes : guardAnswer behaviour failures world (.invoke request.requestId caller) =
      (.ok (), { world with
        invocations := (request.requestId, caller) :: world.invocations }) := rfl
  refine ⟨{ world with invocations := (request.requestId, caller) :: world.invocations },
    submitting, ?_⟩
  unfold ExecutionGuard.submit
  rw [Coroutine.eval_catching, Coroutine.eval_perform_bind, invokes]
  simp only
  rw [Coroutine.eval_perform_bind, comes]
  cases outcome with
  | error error => rfl
  | ok ack =>
    simp only
    rw [Coroutine.eval_perform_bind, answer_markAcknowledged]
    cases failures.markAcknowledged <;> rfl

/-! ### The response of the adapter -/

/-- A response to a placement: placed, rejected or unknown, and without a fill. -/
structure Placing (response : BrokerOrderResponse) : Prop where
  status : response.status = "PLACED" ∨ response.status = "REJECTED" ∨
    response.status = "UNKNOWN"
  unfilled : response.filledQuantity = 0

/-- What a placement comes to: its response, and the state of the request in the ledger. -/
def Comes (venue : Venue) (behaviour : Behaviour) (request : BrokerOrderRequest)
    (final : BrokerOrderResponse → Option BrokerWriteStatus → Prop) : Prop :=
  ∃ response ledger, venue.place behaviour request = (.ok response, ledger) ∧
    Placing response ∧ final response ledger

/-- An order that is returned and recorded is placed. -/
def Accepted (response : BrokerOrderResponse) (ledger : Option BrokerWriteStatus) : Prop :=
  response.status = "PLACED" ∧ ledger ≠ some .rejected

/-- A timeout that is recorded is unknown. -/
def Unknown (response : BrokerOrderResponse) (ledger : Option BrokerWriteStatus) : Prop :=
  response.status = "UNKNOWN" ∧ ledger ≠ some .rejected

/-- Everything else is recorded as a rejection. -/
def Refused (response : BrokerOrderResponse) (ledger : Option BrokerWriteStatus) : Prop :=
  response.status = "REJECTED" ∨ ledger = some .rejected

theorem placing_success (brokerOrderId : Option String) (clientOrderId : String)
    (message : Option String) : Placing (success brokerOrderId clientOrderId message) :=
  ⟨Or.inl rfl, rfl⟩

theorem placing_rejected (clientOrderId message : String) :
    Placing (failure clientOrderId "REJECTED" message) := ⟨Or.inr (Or.inl rfl), rfl⟩

theorem placing_unknown (clientOrderId message : String) :
    Placing (failure clientOrderId "UNKNOWN" message) := ⟨Or.inr (Or.inr rfl), rfl⟩

end

section

variable {adapter : IciciBreezeAdapter} {rows : String → Option BrokerWriteRequest}
  {failures : LedgerFailures} {request : BrokerOrderRequest} {behaviour : Behaviour}

theorem place_breeze (behaviour : Behaviour)
    (calls : (Venue.breeze adapter rows failures).Calls request) :
    ∃ world, Submitting request.clientOrderId world ∧
      (Venue.breeze adapter rows failures).place behaviour request =
        match (ExecutionGuard.submit (adapter.guardedWrite request) 0).eval
            (guardAnswer behaviour failures) world with
        | (.ok ack, after) => (.ok (IciciBreezeAdapter.acknowledged request ack),
            stateOf after request.clientOrderId)
        | (.error error, after) => (.ok (IciciBreezeAdapter.failed request error),
            stateOf after request.clientOrderId) := by
  obtain ⟨untested, readable, fresh⟩ := calls
  obtain ⟨world, submitting, evaluated⟩ : ∃ next,
      Submitting (adapter.guardedWrite request).requestId next ∧
      (ExecutionGuard.executeGuardedWrite adapter.sha256 (adapter.guardedWrite request) 0).eval
        (guardAnswer behaviour failures) (.opened rows) =
      (ExecutionGuard.submit (adapter.guardedWrite request) 0).eval
        (guardAnswer behaviour failures) next :=
    eval_executeGuardedWrite fresh
  refine ⟨world, submitting, ?_⟩
  unfold Venue.place IciciBreezeAdapter.placeOrder
  simp only [untested, readable, Bool.false_eq_true, reduceCtorEq, if_false]
  rw [Coroutine.eval_catching, Coroutine.eval_bind, evaluated]
  rcases (ExecutionGuard.submit (adapter.guardedWrite request) 0).eval
    (guardAnswer behaviour failures) world with ⟨error | ack, after⟩ <;> rfl

theorem placing_failed (error : BrokerError) :
    Placing (IciciBreezeAdapter.failed request error) := by
  cases error with
  | submissionUnknown message => exact placing_unknown _ _
  | _ => exact placing_rejected _ _

section

variable (calls : (Venue.breeze adapter rows failures).Calls request)

include calls

theorem comes_refused (ends : ∀ world, Submitting request.clientOrderId world → ∃ raised next,
      (ExecutionGuard.submit (adapter.guardedWrite request) 0).eval (guardAnswer behaviour failures)
      world = (.error raised, next) ∧ Rejecting request.clientOrderId raised next) :
    Comes (.breeze adapter rows failures) behaviour request Refused := by
  obtain ⟨world, submitting, placed⟩ := place_breeze behaviour calls
  obtain ⟨raised, next, failed, rejecting⟩ := ends world submitting
  rw [failed] at placed
  refine ⟨_, _, placed, placing_failed raised, ?_⟩
  rcases rejecting with recorded | ⟨name, message, rfl⟩
  · exact Or.inr recorded
  · exact Or.inl rfl

theorem comes_refused_of_error {error : BrokerError} (raises : ∀ world, guardAnswer behaviour
      failures world (.outcome request.clientOrderId) = (.error error, world))
    (lost : (∀ message, error ≠ .timeout message) ∨ failures.markUnknown ≠ none) :
    Comes (.breeze adapter rows failures) behaviour request Refused := by
  refine comes_refused calls fun world submitting => ?_
  obtain ⟨invoked, still, evaluated⟩ :=
    eval_submit (adapter.guardedWrite request) submitting raises
  rw [evaluated]
  exact eval_recordFailure_rejects still lost

theorem comes_unknown_of_timeout {text : String} (raises : ∀ world, guardAnswer behaviour failures
      world (.outcome request.clientOrderId) = (.error (.timeout text), world))
    (recorded : failures.markUnknown = none) :
    Comes (.breeze adapter rows failures) behaviour request Unknown := by
  obtain ⟨world, submitting, placed⟩ := place_breeze behaviour calls
  obtain ⟨invoked, still, evaluated⟩ :=
    eval_submit (adapter.guardedWrite request) submitting raises
  obtain ⟨message, next, failed, unknown⟩ := eval_recordFailure_unknown still recorded text
  dsimp only at evaluated
  rw [evaluated, failed] at placed
  refine ⟨_, _, placed, placing_unknown _ _, rfl, fun rejected => ?_⟩
  cases unknown.symm.trans rejected

theorem comes_accepted (brokerOrderId : Option String) (recorded : failures.markAcknowledged = none)
    : Comes (.breeze adapter rows failures) (.accepts brokerOrderId) request Accepted := by
  obtain ⟨world, submitting, placed⟩ := place_breeze (.accepts brokerOrderId) calls
  obtain ⟨invoked, ⟨row, found, -⟩, evaluated⟩ :=
    eval_submit (adapter.guardedWrite request) submitting fun _ => answer_outcome_accepts
  rw [recorded] at evaluated
  rw [evaluated] at placed
  refine ⟨_, _, placed, ⟨Or.inl rfl, rfl⟩, rfl, fun rejected => ?_⟩
  have acknowledged := stateOf_updateRow.symm.trans rejected
  rw [found] at acknowledged
  cases acknowledged

theorem comes_refused_of_accepts (brokerOrderId : Option String)
    (failing : failures.markAcknowledged ≠ none) :
    Comes (.breeze adapter rows failures) (.accepts brokerOrderId) request Refused := by
  refine comes_refused calls fun world submitting => ?_
  obtain ⟨invoked, still, evaluated⟩ :=
    eval_submit (adapter.guardedWrite request) submitting fun _ => answer_outcome_accepts
  obtain ⟨⟨name, message⟩, fails⟩ := Option.ne_none_iff_exists'.mp failing
  rw [fails] at evaluated
  rw [evaluated]
  exact eval_recordFailure_rejects still (Or.inl nofun)

end

theorem place_kite {adapter : ZerodhaKiteAdapter} (behaviour : Behaviour)
    (calls : (Venue.kite adapter).Calls request) :
    (Venue.kite adapter).place behaviour request =
      (.ok (match (kiteAnswer behaviour () (.placeOrder (adapter.params request))).1 with
        | .ok orderId => success (some orderId) request.clientOrderId
            (some "Order placed successfully with Kite")
        | .error error => ZerodhaKiteAdapter.failed request error), none) := by
  obtain ⟨active, complete⟩ := calls
  unfold Venue.place ZerodhaKiteAdapter.placeOrder
  simp only [active, complete, reduceCtorEq, if_false]
  rw [Coroutine.eval_catching, Coroutine.eval_perform_bind]
  rcases kiteAnswer behaviour () (.placeOrder (adapter.params request)) with ⟨error | orderId, _⟩
  · rfl
  · rfl

/-- A placement whose call is handled: it is placed when the broker returned the order, and
unknown when the call timed out. -/
theorem comes_of_handles {venue : Venue} (calls : venue.Calls request)
    (handles : venue.Handles behaviour) (unrefused : behaviour.refused = false) :
    Comes venue behaviour request (if behaviour.accepted then Accepted else Unknown) := by
  cases behaviour with
  | refuses error => cases unrefused
  | accepts brokerOrderId =>
    cases venue with
    | kite adapter =>
      exact ⟨_, _, place_kite _ calls, placing_success _ _ _, rfl, nofun⟩
    | breeze adapter rows failures => exact comes_accepted calls brokerOrderId handles
  | fails sent error =>
    cases error with
    | timeout text =>
      cases venue with
      | kite adapter =>
        exact ⟨_, _, place_kite _ calls, placing_unknown _ _, rfl, nofun⟩
      | breeze adapter rows failures =>
        exact comes_unknown_of_timeout calls (fun _ => rfl) handles
    | _ => cases venue <;> exact handles.elim

theorem comes_of_not_handles {venue : Venue} (calls : venue.Calls request)
    (unhandled : ¬ venue.Handles behaviour) (unrefused : behaviour.refused = false) :
    Comes venue behaviour request Refused := by
  cases behaviour with
  | refuses error => cases unrefused
  | accepts brokerOrderId =>
    cases venue with
    | kite adapter => exact absurd True.intro unhandled
    | breeze adapter rows failures => exact comes_refused_of_accepts calls brokerOrderId unhandled
  | fails sent error =>
    cases venue with
    | kite adapter =>
      cases error with
      | timeout text => exact absurd True.intro unhandled
      | _ => exact ⟨_, _, place_kite _ calls, placing_rejected _ _, Or.inl rfl⟩
    | breeze adapter rows failures =>
      refine comes_refused_of_error calls (fun _ => rfl) ?_
      cases error with
      | timeout text => exact Or.inr unhandled
      | _ => exact Or.inl nofun

end

section

variable {service : ExecutionService} {world : Pipeline} {order : BrokerOrder}
  {request : BrokerOrderRequest} {response : BrokerOrderResponse}

/-! ### The order of the OMS -/

/-- The event that is published about a placement. -/
def placementEvent (order : BrokerOrder) (response : BrokerOrderResponse) : BrokerOrderEvent where
  clientOrderId := order.clientOrderId
  brokerOrderId := response.brokerOrderId
  status := ExecutionService.normalizeBrokerStatus response.status
  filledQuantity := response.filledQuantity
  averagePrice := response.averagePrice
  message := response.message

theorem normalized_placing (placing : Placing response) :
    ExecutionService.normalizeBrokerStatus response.status = response.status ∧
      response.status ≠ "FILLED" := by
  rcases placing.status with placed | rejected | unknown
  · rw [placed]
    decide +kernel
  · rw [rejected]
    decide +kernel
  · rw [unknown]
    decide +kernel

theorem eval_submitReserved (built : service.buildBrokerRequest order = some request)
    (placing : Placing response) :
    ((service.submitReserved order).eval (pipelineAnswer (.ok response)) world).2 = { world with
        placed := world.placed ++ [request]
        queue := world.queue ++ [.brokerOrderEvent (placementEvent order response)] } := by
  obtain ⟨normalized, unfilled⟩ := normalized_placing placing
  have places : pipelineAnswer (.ok response) world (.placeOrder request order.tradingMode) =
      (.ok response, { world with placed := world.placed ++ [request] }) := rfl
  have publishes (world : Pipeline) (envelope : Envelope) :
      pipelineAnswer (.ok response) world (.publish envelope) =
        (.ok (), { world with queue := world.queue ++ [envelope] }) := rfl
  unfold ExecutionService.submitReserved ExecutionService.submitOrder
  rw [built]
  rw [Coroutine.eval_catching, Coroutine.eval_perform_bind, places]
  simp only
  rw [Coroutine.eval_perform_bind, publishes]
  simp only [normalized, unfilled, false_and, if_false]
  simp only [placementEvent, normalized]
  rfl

/-- Everything the handler of broker order events awaits is a statement of the OMS database. -/
def Commits : PipelineOp → Prop
  | .placeOrder _ _ => False
  | _ => True

theorem within_handleBrokerOrderEvent (payload : BrokerOrderEvent) :
    (OmsService.handleBrokerOrderEvent payload).Within Commits := by
  have perform {op : PipelineOp} (commits : Commits op) : (BreezeTrading.perform op).Within Commits :=
    Coroutine.within_perform commits
  have validated (checked : Except Raised Unit) {next : Unit → Task Unit}
      (saves : (next ()).Within Commits) : (raising checked >>= next).Within Commits :=
    (Coroutine.within_ofExcept checked).bind fun _ => saves
  unfold OmsService.handleBrokerOrderEvent
  generalize upper payload.status = brokerStatus
  refine (perform (by trivial)).bind fun found => ?_
  cases found with
  | none => trivial
  | some order =>
    simp only
    split
    · exact validated _ (perform (by trivial))
    · trivial

theorem eval_handled (payload : BrokerOrderEvent) (world : Pipeline)
    (result : Except BrokerError BrokerOrderResponse) :
    ((handle service (.brokerOrderEvent payload)).eval (pipelineAnswer result) world).2 =
      Record.Command.run world (.brokerOrderEvent payload) := by
  have same (world : Pipeline) (op : PipelineOp) (commits : Commits op) :
      pipelineAnswer result world op = Pipeline.sequential world op := by
    cases op <;> first | rfl | exact absurd commits id
  exact congrArg Prod.snd ((within_handleBrokerOrderEvent payload).eval_congr same world)

theorem handled_eq {world : Pipeline} {result : Except BrokerError BrokerOrderResponse}
    {payload : BrokerOrderEvent} (queue : world.queue = [.brokerOrderEvent payload]) :
    handled service result world = Record.Command.run world (.brokerOrderEvent payload) := by
  unfold handled
  rw [queue]
  exact eval_handled payload world result

/-- The state a placement leaves its order in. -/
def placedState (response : BrokerOrderResponse) : OrderState :=
  if response.status = "REJECTED" then .rejected
  else if response.status = "UNKNOWN" then .submissionUnknown
  else .open

theorem placementEvent_status (placing : Placing response) :
    (placementEvent order response).status = response.status := by
  rw [placementEvent]
  simp only
  exact (normalized_placing placing).1

theorem stateAfter_placement (placing : Placing response) (submitting : order.status = .submitting) :
    Record.stateAfter order (placementEvent order response) = placedState response ∧
      Record.written order (placementEvent order response) = true := by
  have moves : Record.stateAfter order (placementEvent order response) = placedState response := by
    have unfilled : (placementEvent order response).filledQuantity = 0 := placing.unfilled
    unfold Record.stateAfter placedState
    rw [placementEvent_status placing, unfilled, submitting]
    rcases placing.status with placed | rejected | unknown
    · rw [placed]
      decide +kernel
    · rw [rejected]
      decide +kernel
    · rw [unknown]
      decide +kernel
  refine ⟨moves, ?_⟩
  unfold Record.written
  rw [moves, submitting]
  unfold placedState
  split
  · rfl
  · split <;> rfl

variable {venue : Venue}

theorem record_order (found : world.oms.getOrderByClientId order.clientOrderId = some order)
    (submitting : order.status = .submitting)
    (built : service.buildBrokerRequest order = some request) {behaviour : Behaviour}
    {ledger : Option BrokerWriteStatus}
    (placed : venue.place behaviour request = (.ok response, ledger)) (placing : Placing response) :
    record service world order request venue behaviour =
      ⟨.ok response, ledger, some (OmsService.reconciledOrder order (placementEvent order response)
        (placedState response))⟩ := by
  obtain ⟨moves, written⟩ := stateAfter_placement placing submitting
  have submits (world : Pipeline) :
      ((service.submitReserved order).eval (pipelineAnswer (.ok response)) world).2 = _ :=
    eval_submitReserved built placing
  have named : (placementEvent order response).clientOrderId = order.clientOrderId := rfl
  unfold record
  rw [placed]
  simp only
  rw [submits, handled_eq rfl, Record.record_brokerOrderEvent]
  show Recorded.mk (.ok response) ledger ((world.oms.getOrderByClientId order.clientOrderId).map _) =
    _
  rw [found, Option.map_some, if_pos ⟨named, written⟩, moves]

theorem reconcilable_placed (live : order.tradingMode = .live) {state : OrderState}
    (open_ : state = .open ∨ state = .submissionUnknown) (event : BrokerOrderEvent) :
    ExecutionService.reconcilable (OmsService.reconciledOrder order event state) = true := by
  refine decide_eq_true ⟨live, Or.inl ?_⟩
  rcases open_ with rfl | rfl
  · show OrderState.open ∈ ExecutionService.pendingStates
    decide
  · show OrderState.submissionUnknown ∈ ExecutionService.pendingStates
    decide

section

variable (found : world.oms.getOrderByClientId order.clientOrderId = some order)
  (submitting : order.status = .submitting)

include found submitting

theorem handles_of_definite {behaviour : Behaviour}
    (built : service.buildBrokerRequest order = some request) (calls : venue.Calls request)
    (refused : behaviour.refused = false)
    (definite : Definite behaviour (record service world order request venue behaviour)) :
    venue.Handles behaviour := by
  by_contra unhandled
  obtain ⟨response, ledger, placed, placing, rejects⟩ :=
    comes_of_not_handles calls unhandled refused
  rw [record_order found submitting built placed placing] at definite
  have unrejected : behaviour.refused = true := definite.rejected <| by
    rcases rejects with reported | recorded
    · exact Or.inl ⟨response, rfl, reported⟩
    · exact Or.inr (Or.inl recorded)
  rw [refused] at unrejected
  cases unrejected

theorem definite_of_handles {behaviour : Behaviour} (live : order.tradingMode = .live)
    (built : service.buildBrokerRequest order = some request) (calls : venue.Calls request)
    (refused : behaviour.refused = false) (handles : venue.Handles behaviour) :
    Definite behaviour (record service world order request venue behaviour) := by
  obtain ⟨response, ledger, placed, placing, final⟩ := comes_of_handles calls handles refused
  rw [record_order found submitting built placed placing]
  have unrejected : response.status ≠ "REJECTED" ∧ ledger ≠ some .rejected ∧
      (placedState response = .open ∨ placedState response = .submissionUnknown) ∧
      (behaviour.accepted = false → placedState response = .submissionUnknown) := by
    unfold placedState
    cases accepted : behaviour.accepted with
    | true =>
      rw [accepted] at final
      obtain ⟨status, kept⟩ : Accepted response ledger := final
      rw [status]
      exact ⟨by decide, kept, by decide, nofun⟩
    | false =>
      rw [accepted] at final
      obtain ⟨status, kept⟩ : Unknown response ledger := final
      rw [status]
      exact ⟨by decide, kept, by decide, fun _ => by decide⟩
  obtain ⟨reported, recorded, states, unknown⟩ := unrejected
  refine ⟨?_, fun _ => ⟨_, rfl, reconcilable_placed live states _, unknown⟩⟩
  rintro (⟨other, same, status⟩ | same | ⟨other, same, status⟩)
  · cases same
    exact absurd status reported
  · exact absurd same recorded
  · cases same
    have state : placedState response = .rejected := status
    rw [state] at states
    exact absurd states (by decide)

end

end

end Definitive

open Definitive in
/-- For every reserved LIVE order that is placed through either adapter, and every behaviour of
the broker call and of the ledger, a rejection is recorded only when the broker refused and an
order that may exist stays in the reconcile set exactly when the broker refused, or returned the
order and the ledger recorded that, or the call timed out and the ledger recorded that. -/
theorem placeOrder_definite_iff (service : ExecutionService) (world : Pipeline)
    (order : BrokerOrder) (request : BrokerOrderRequest) (venue : Venue) (behaviour : Behaviour)
    (found : world.oms.getOrderByClientId order.clientOrderId = some order)
    (submitting : order.status = .submitting) (live : order.tradingMode = .live)
    (built : service.buildBrokerRequest order = some request) (calls : venue.Calls request) :
    Definite behaviour (record service world order request venue behaviour) ↔
      venue.Handles behaviour := by
  cases refused : behaviour.refused with
  | true =>
    cases behaviour with
    | refuses error =>
      exact iff_of_true ⟨fun _ => rfl, nofun⟩ (by cases venue <;> exact True.intro)
    | accepts | fails => cases refused
  | false =>
    exact ⟨handles_of_definite found submitting built calls refused,
      definite_of_handles found submitting live built calls refused⟩

namespace Definitive

/-! ### One order through Kite -/

def kiteService : ExecutionService := ⟨"kite", true, true, true⟩

def kiteVenue : Venue := .kite ⟨"NRML", true⟩

/-- An order that is reserved for submission. -/
def reservedOrder : BrokerOrder where
  orderId := "order-1"
  intentId := "intent-1"
  clientOrderId := "CL-1"
  brokerOrderId := none
  instrumentId := "INST-NIFTY-2026-01-29-25000-CE"
  symbol := "NIFTY26JAN25000CE"
  side := .buy
  orderType := .limit
  quantity := 75
  filledQuantity := 0
  remainingQuantity := 75
  price := 120
  triggerPrice := none
  averagePrice := 0
  status := .submitting
  statusMessage := none
  tradingMode := .live
  reduceOnly := false
  createdAt := 0

def reservedRequest : BrokerOrderRequest where
  clientOrderId := "CL-1"
  stockCode := "NIFTY26JAN25000CE"
  exchangeCode := "NFO"
  action := "buy"
  orderType := "limit"
  quantity := 75
  price := 120
  triggerPrice := none
  strikePrice := none
  right := none
  expiryDate := none
  userRemark := some "CL-1"

def reservedWorld : Pipeline :=
  { Pipeline.initial with
    oms := ⟨[reservedOrder], List.nodup_singleton _, List.nodup_singleton _⟩ }

theorem reserved_found :
    reservedWorld.oms.getOrderByClientId reservedOrder.clientOrderId = some reservedOrder := by
  decide +kernel

theorem reserved_built : kiteService.buildBrokerRequest reservedOrder = some reservedRequest := by
  decide +kernel

theorem reserved_calls : kiteVenue.Calls reservedRequest := ⟨rfl, fun both => by
  have limit : ZerodhaKiteAdapter.kiteOrderType "limit" ≠ "SL" := by decide +kernel
  exact limit both.1⟩

end Definitive

open Definitive in
/-- A read timeout of the HTTP client after the order was sent is recorded as a rejection. -/
theorem placeOrder_rejects_sent :
    ¬ ∀ (service : ExecutionService) (world : Pipeline) (order : BrokerOrder)
      (request : BrokerOrderRequest) (venue : Venue) (behaviour : Behaviour),
      world.oms.getOrderByClientId order.clientOrderId = some order →
      order.status = .submitting → order.tradingMode = .live →
      service.buildBrokerRequest order = some request → venue.Calls request →
      Definite behaviour (record service world order request venue behaviour) := by
  intro always
  have definite := always kiteService reservedWorld reservedOrder reservedRequest kiteVenue
    (.fails true (.other "ReadTimeout" "Read timed out.")) reserved_found rfl rfl reserved_built
    reserved_calls
  exact handles_of_definite reserved_found rfl reserved_built reserved_calls rfl definite

open Definitive in
/-- A call that times out in the adapter is recorded as unknown. -/
theorem placeOrder_definite_timeout :
    Definite (.fails true (.timeout "timed out")) (record kiteService reservedWorld reservedOrder
      reservedRequest kiteVenue (.fails true (.timeout "timed out"))) :=
  (placeOrder_definite_iff kiteService reservedWorld reservedOrder reservedRequest kiteVenue
    (.fails true (.timeout "timed out")) reserved_found rfl rfl reserved_built
    reserved_calls).mpr True.intro

end BreezeTrading.BrokerGateway
