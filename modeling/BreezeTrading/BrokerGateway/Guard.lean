/-
This file defines the execution guard of the broker gateway and its ledger of broker writes as a
system: any number of guarded writes over one ledger, each statement of which commits on its own.
The world remembers which call began which write.
-/

import BreezeTrading.Contracts.Models
import BreezeTrading.Lib.Coroutine

namespace BreezeTrading.BrokerGateway

open Async

/-! ### Enumerations and errors -/

inductive BrokerWriteAction where
  | place
  | modify
  | cancel
  | squareOff
  deriving DecidableEq, Repr

def BrokerWriteAction.value : BrokerWriteAction → String
  | .place => "PLACE"
  | .modify => "MODIFY"
  | .cancel => "CANCEL"
  | .squareOff => "SQUARE_OFF"

inductive BrokerWriteStatus where
  | received
  | submitting
  | acknowledged
  | submissionUnknown
  | rejected
  | failedSafe
  deriving DecidableEq, Repr

def BrokerWriteStatus.value : BrokerWriteStatus → String
  | .received => "RECEIVED"
  | .submitting => "SUBMITTING"
  | .acknowledged => "ACKNOWLEDGED"
  | .submissionUnknown => "SUBMISSION_UNKNOWN"
  | .rejected => "REJECTED"
  | .failedSafe => "FAILED_SAFE"

inductive SessionStatus where
  | unconfigured
  | needsSession
  | activating
  | active
  | degraded
  | expired
  | invalid
  | disconnected
  deriving DecidableEq, Repr

def SessionStatus.value : SessionStatus → String
  | .unconfigured => "UNCONFIGURED"
  | .needsSession => "NEEDS_SESSION"
  | .activating => "ACTIVATING"
  | .active => "ACTIVE"
  | .degraded => "DEGRADED"
  | .expired => "EXPIRED"
  | .invalid => "INVALID"
  | .disconnected => "DISCONNECTED"

/-- An exception: those the guard and the adapters tell apart, or any other under the name of
its class. A timeout is a `BrokerTimeoutError` or a `TimeoutError`. -/
inductive BrokerError where
  | sessionExpired (message : String)
  | validation (message : String)
  | submissionUnknown (message : String)
  | base (message : String)
  | orderRejected (message : String)
  | timeout (message : String)
  | other (name message : String)
  deriving DecidableEq, Repr

/-- `str(exc)`. -/
def BrokerError.message : BrokerError → String
  | .sessionExpired message => message
  | .validation message => message
  | .submissionUnknown message => message
  | .base message => message
  | .orderRejected message => message
  | .timeout message => message
  | .other _ message => message

/-! ### The ledger -/

structure BrokerOrderAcknowledgement where
  requestId : String
  clientReference : String
  brokerOrderId : Option String
  status : BrokerWriteStatus
  message : Option String
  acknowledgedAt : Int
  deriving DecidableEq, Repr

/-- What `result_json` keeps of an acknowledgement. -/
structure AcknowledgedResult where
  brokerOrderId : Option String
  clientReference : String
  status : BrokerWriteStatus
  message : Option String
  acknowledgedAt : Int
  deriving DecidableEq, Repr

/-- A row of `broker_write_requests`. -/
structure BrokerWriteRequest where
  accountId : String
  clientReference : String
  requestHash : String
  action : BrokerWriteAction
  state : BrokerWriteStatus
  brokerOrderId : Option String
  result : Option AcknowledgedResult
  errorMessage : Option String
  deriving DecidableEq, Repr

/-- The acknowledgement an acknowledged row replays. -/
def BrokerWriteRequest.acknowledgement (row : BrokerWriteRequest) (requestId : String)
    (now : Int) : BrokerOrderAcknowledgement where
  requestId := requestId
  clientReference := row.clientReference
  brokerOrderId := row.brokerOrderId
  status := .acknowledged
  message := match row.result with
    | some result => result.message
    | none => some "Order acknowledged (cached replay)"
  acknowledgedAt := (row.result.map AcknowledgedResult.acknowledgedAt).getD now

/-- A broker write, with its payload as sorted JSON. -/
structure GuardedWrite where
  requestId : String
  accountId : String
  clientReference : String
  action : BrokerWriteAction
  payload : String
  deriving DecidableEq, Repr

/-- What a call was answered. -/
structure Given where
  requestId : String
  caller : Nat
  outcome : Except BrokerError BrokerOrderAcknowledgement

/-! ### Operations -/

inductive GuardOp where
  | getStatus
  | now
  -- ledger
  | select (requestId : String)
  | insert (requestId : String) (row : BrokerWriteRequest)
  | markSubmitting (requestId : String)
  | markAcknowledged (requestId : String) (brokerOrderId : Option String)
      (result : AcknowledgedResult)
  | markUnknown (requestId errorMessage : String)
  | markRejected (requestId rejectionReason : String)
  -- the broker write
  | invoke (requestId : String) (caller : Nat)
  | outcome (requestId : String)
  -- the caller
  | arrive
  | respond (given : Given)

@[reducible] def GuardReply : GuardOp → Type
  | .getStatus => SessionStatus
  | .now => Int
  | .select _ => Option BrokerWriteRequest
  | .outcome _ => BrokerOrderAcknowledgement
  | .arrive => Nat
  | _ => Unit

abbrev GuardTask (Result : Type) := Coroutine GuardOp GuardReply BrokerError Result

namespace ExecutionGuard

/-- Await one operation of the guard. -/
abbrev ask (op : GuardOp) : GuardTask (GuardReply op) := Coroutine.perform op

/-- Reserve a request, or return the acknowledgement it was completed with. -/
def recordIntent (requestHash : String) (request : GuardedWrite) :
    GuardTask (Bool × Option BrokerOrderAcknowledgement) := do
  let requestId := request.requestId
  let row ← ask (.select requestId)
  match row with
  | some row =>
    if row.requestHash ≠ requestHash then
      .raised (.validation ("Idempotency key collision: request_id '" ++ requestId ++
        "' already exists with differing payload hash."))
    else
      match row.state with
      | .acknowledged => do
        let now ← ask .now
        return (false, some (row.acknowledgement requestId now))
      | .submissionUnknown =>
        .raised (.submissionUnknown ("Request '" ++ requestId ++
          "' previously ended in SUBMISSION_UNKNOWN: " ++ row.errorMessage.getD "None" ++
          ". Reconciliation required before retry."))
      | .submitting =>
        .raised (.base ("Request '" ++ requestId ++
          "' is currently in-flight to broker. Cannot retry."))
      | .rejected =>
        .raised (.orderRejected ("Request '" ++ requestId ++ "' was rejected by broker: " ++
          row.errorMessage.getD "None"))
      | .received => return (true, none)
      | .failedSafe => insertIntent
  | none => insertIntent
where
  insertIntent : GuardTask (Bool × Option BrokerOrderAcknowledgement) := do
    ask (.insert request.requestId
      { accountId := request.accountId
        clientReference := request.clientReference
        requestHash := requestHash
        action := request.action
        state := .received
        brokerOrderId := none
        result := none
        errorMessage := none })
    return (true, none)

/-- Record an error of the broker write, or of recording its acknowledgement: a timeout leaves
the outcome unknown, and every other error counts as a rejection. -/
def recordFailure (request : GuardedWrite) : BrokerError → GuardTask BrokerOrderAcknowledgement
  | .timeout message => do
    ask (.markUnknown request.requestId
      ("Transport timeout during " ++ request.action.value ++ ": " ++ message))
    .raised (.submissionUnknown
      ("Broker order submission outcome is unknown due to timeout for request " ++
        request.requestId ++ ". Blind retries are prohibited; reconciliation with broker " ++
        "order book required."))
  | .orderRejected message => do
    ask (.markRejected request.requestId message)
    .raised (.orderRejected message)
  | error => do
    ask (.markRejected request.requestId error.message)
    .raised error

/-- Invoke the broker write and record its outcome. -/
def submit (request : GuardedWrite) (caller : Nat) : GuardTask BrokerOrderAcknowledgement :=
  Coroutine.catching
    (do
      ask (.invoke request.requestId caller)
      let ack ← ask (.outcome request.requestId)
      ask (.markAcknowledged request.requestId ack.brokerOrderId
        { brokerOrderId := ack.brokerOrderId
          clientReference := ack.clientReference
          status := ack.status
          message := ack.message
          acknowledgedAt := ack.acknowledgedAt })
      return ack)
    (recordFailure request)

/-- Execute a broker write behind the session check and the reservation in the ledger.
`requestHash` is the digest of the payload. -/
def executeGuardedWrite (requestHash : String → String) (request : GuardedWrite)
    (caller : Nat) : GuardTask BrokerOrderAcknowledgement := do
  let status ← ask .getStatus
  if status ≠ .active then
    .raised (.sessionExpired ("Cannot execute " ++ request.action.value ++
      " write: broker session is " ++ status.value ++ ". An active daily session is required."))
  else do
    let (isNew, cachedAck) ← recordIntent (requestHash request.payload) request
    match isNew, cachedAck with
    | false, some ack => return ack
    | _, _ => do
      ask (.markSubmitting request.requestId)
      submit request caller

/-- One call, from its arrival to its answer. -/
def serve (requestHash : String → String) (request : GuardedWrite) : GuardTask Unit := do
  let caller ← ask .arrive
  let outcome : Except BrokerError BrokerOrderAcknowledgement ← Coroutine.catching
    (do
      let ack ← executeGuardedWrite requestHash request caller
      return .ok ack)
    fun error => return .error error
  ask (.respond ⟨request.requestId, caller, outcome⟩)

end ExecutionGuard

/-! ### The system -/

/-- The guard: its ledger, the calls that arrived and those that invoked their write, and the
answers they were given. -/
structure Guard where
  rows : String → Option BrokerWriteRequest
  arrivals : Nat
  invocations : List (String × Nat)
  answers : List Given

inductive GuardAnswer where
  | ok
  | raises (error : BrokerError)
  | session (status : SessionStatus)
  | time (now : Int)
  | acknowledges (ack : BrokerOrderAcknowledgement)

inductive GuardStart where
  | write (request : GuardedWrite)

namespace Guard

/-- A ledger before any call arrived. -/
def opened (rows : String → Option BrokerWriteRequest) : Guard := ⟨rows, 0, [], []⟩

def setRow (world : Guard) (requestId : String) (row : Option BrokerWriteRequest) : Guard :=
  { world with rows := fun other => if other = requestId then row else world.rows other }

/-- Update the row of a request, if there is one. -/
def updateRow (world : Guard) (requestId : String)
    (update : BrokerWriteRequest → BrokerWriteRequest) : Guard :=
  world.setRow requestId ((world.rows requestId).map update)

/-- How often the write of a request was invoked. -/
def invoked (world : Guard) (requestId : String) : Nat :=
  (world.invocations.map Prod.fst).count requestId

/-- A statement that is atomic: it commits, or fails without a trace. -/
def statement {Value : Type} (world : Guard) (value : Value) (next : Guard) :
    GuardAnswer → Option (Except BrokerError Value × Guard)
  | .ok => some (.ok value, next)
  | .raises error => some (.error error, world)
  | _ => none

/-- A reply from outside the ledger, or an error. -/
def reply {Value : Type} (world : Guard) (value : Option Value) :
    GuardAnswer → Option (Except BrokerError Value × Guard)
  | .raises error => some (.error error, world)
  | _ => value.map fun value => (.ok value, world)

def answer (world : Guard) (op : GuardOp) (choice : GuardAnswer) :
    Option (Except BrokerError (GuardReply op) × Guard) :=
  match op with
  | .getStatus =>
      world.reply (match choice with | .session status => some status | _ => none) choice
  | .now => world.reply (match choice with | .time now => some now | _ => none) choice
  | .select requestId => statement world (world.rows requestId) world choice
  | .insert requestId row =>
      match world.rows requestId with
      | none => statement world () (world.setRow requestId (some row)) choice
      | some _ => some (.error (.other "IntegrityError"
          "UNIQUE constraint failed: broker_write_requests.request_id"), world)
  | .markSubmitting requestId =>
      statement world ()
        (world.updateRow requestId fun row => { row with state := .submitting }) choice
  | .markAcknowledged requestId brokerOrderId result =>
      statement world () (world.updateRow requestId fun row =>
        { row with
          state := .acknowledged
          brokerOrderId := brokerOrderId
          result := some result }) choice
  | .markUnknown requestId errorMessage =>
      statement world () (world.updateRow requestId fun row =>
        { row with state := .submissionUnknown, errorMessage := some errorMessage }) choice
  | .markRejected requestId rejectionReason =>
      statement world () (world.updateRow requestId fun row =>
        { row with state := .rejected, errorMessage := some rejectionReason }) choice
  | .invoke requestId caller =>
      some (.ok (), { world with invocations := (requestId, caller) :: world.invocations })
  | .outcome _ =>
      world.reply (match choice with | .acknowledges ack => some ack | _ => none) choice
  | .arrive => some (.ok world.arrivals, { world with arrivals := world.arrivals + 1 })
  | .respond given =>
      some (.ok (), { world with answers := world.answers ++ [given] })

def start (requestHash : String → String) (world : Guard) :
    GuardStart → Option (GuardTask Unit × Guard)
  | .write request => some (ExecutionGuard.serve requestHash request, world)

/-- A restart keeps the ledger. -/
def system (requestHash : String → String) :
    System GuardOp GuardReply BrokerError Guard GuardAnswer GuardStart Empty where
  answer := answer
  start := start requestHash
  disturb _ cause := nomatch cause
  restart := id

def idle (world : Guard) : Config GuardOp GuardReply BrokerError Guard := ⟨world, []⟩

end Guard

end BreezeTrading.BrokerGateway
