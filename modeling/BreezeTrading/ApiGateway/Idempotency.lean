/-
This file defines the idempotency engine of the gateway as a system: the claim of a key, a SELECT
followed by an upsert, the completion and the release, by any number of concurrent requests over
one table. The command itself may complete or fail, also after it has taken effect.
-/

import BreezeTrading.Contracts.Models
import BreezeTrading.Lib.Coroutine

namespace BreezeTrading

open Async

/-! ### Requests, records and responses -/

/-- A mutating request, with its body as sorted JSON. -/
structure CommandRequest where
  idempotencyKey : Option String
  userId : String
  method : String
  path : String
  body : String
  ttlSeconds : Int

inductive RecordStatus where
  | inProgress
  | completed
  deriving DecidableEq, Repr

/-- A row of `idempotency_records`. -/
structure IdempotencyRecord where
  userId : String
  requestPath : String
  requestHash : String
  status : RecordStatus
  responseCode : Option Int
  responseHeaders : Option String
  responseBody : Option String
  createdAt : Int
  expiresAt : Int
  deriving DecidableEq, Repr

/-- An HTTP response. -/
structure CommandResponse where
  statusCode : Int
  content : Option String
  headers : List (String × String)
  deriving DecidableEq, Repr

/-- An `HTTPException`, or any other exception. -/
inductive CommandError where
  | http (statusCode : Int) (detail : String)
  | raised (text : String)
  deriving DecidableEq, Repr

/-- What `claim_or_get` returns. -/
inductive ClaimStatus where
  | claimed
  | completed (responseCode : Option Int) (responseBody : Option String)
  | inProgress
  | mismatch

/-- What a request was answered, and whether its command had completed when it arrived. -/
structure Answered where
  key : Option String
  late : Bool
  outcome : Except CommandError CommandResponse

/-! ### Operations -/

inductive GatewayOp where
  | now
  | select (key : String)
  | deleteExpired (key : String)
  | claim (key : String) (record : IdempotencyRecord)
  | complete (key : String) (responseCode : Int) (responseHeaders responseBody : String)
  | release (key : String)
  | cleanup (now : Int)
  | publishMismatch (key userId path : String)
  | execute (key : Option String)
  | encode (result : String)
  | arrive (key : Option String)
  | respond (answered : Answered)

@[reducible] def GatewayReply : GatewayOp → Type
  | .now => Int
  | .select _ => Option IdempotencyRecord
  | .execute _ => String
  | .encode _ => String
  | .arrive _ => Bool
  | _ => Unit

abbrev GatewayTask (Result : Type) := Coroutine GatewayOp GatewayReply CommandError Result

namespace Idempotency

/-- Await one operation of the gateway. -/
abbrev ask (op : GatewayOp) : GatewayTask (GatewayReply op) := Coroutine.perform op

/-- Raise an `HTTPException`. -/
def refuse {Result : Type} (statusCode : Int) (detail : String) : GatewayTask Result :=
  .raised (.http statusCode detail)

/-- Fingerprint of a request, over the digest function. -/
def computeRequestHash (sha256 : String → String) (request : CommandRequest) : String :=
  sha256 (request.userId ++ ":" ++ upper request.method ++ ":" ++ request.path ++ ":" ++
    request.body)

def keyCharacter (character : Char) : Bool :=
  ('a' ≤ character ∧ character ≤ 'z') ∨ ('A' ≤ character ∧ character ≤ 'Z') ∨
    ('0' ≤ character ∧ character ≤ '9') ∨ character = '_' ∨ character = '-' ∨ character = '.'

/-- `^[a-zA-Z0-9_\-\.]{1,128}$`, where `$` also matches before a last line feed. -/
def validKey (key : String) : Bool :=
  let matched (characters : List Char) : Bool :=
    characters.all keyCharacter ∧ 1 ≤ characters.length ∧ characters.length ≤ 128
  matched key.toList ∨ (key.toList.getLast? = some '\n' ∧ matched key.toList.dropLast)

/-- Claim a key: the upsert overwrites whatever it finds. -/
def claim (key userId requestPath requestHash : String) (now ttlSeconds : Int) :
    GatewayTask ClaimStatus :=
  Coroutine.catching
    (do
      ask (.claim key
        { userId := userId
          requestPath := requestPath
          requestHash := requestHash
          status := .inProgress
          responseCode := none
          responseHeaders := none
          responseBody := none
          createdAt := now
          expiresAt := now + ttlSeconds })
      return .claimed)
    fun _ => return .inProgress

/-- Claim an idempotency key or retrieve the completed response. -/
def claimOrGet (key userId requestPath requestHash : String) (ttlSeconds : Int) :
    GatewayTask ClaimStatus := do
  let now ← ask .now
  let row ← ask (.select key)
  match row with
  | some row =>
    if row.expiresAt < now then do
      -- an error here is logged, and the key is claimed all the same
      Coroutine.catching (ask (.deleteExpired key)) fun _ => return
      claim key userId requestPath requestHash now ttlSeconds
    else if row.requestHash ≠ requestHash then return .mismatch
    else
      match row.status with
      | .completed => return .completed row.responseCode row.responseBody
      | .inProgress => return .inProgress
  | none => claim key userId requestPath requestHash now ttlSeconds

/-- The stored response, replayed. -/
def replay (key : String) (responseCode : Option Int) (responseBody : Option String) :
    CommandResponse where
  statusCode := match responseCode with
    | some code => if code = 0 then 200 else code
    | none => 200
  content := responseBody
  headers := [("X-Idempotency-Replay", "true"), ("Idempotency-Key", key)]

def inProgressDetail : String :=
  "Request with this Idempotency-Key is currently in progress. Please retry shortly."

/-- Execute a claimed command and persist its response; an error releases the claim. -/
def executeClaimed (key : String) : GatewayTask CommandResponse :=
  Coroutine.catching
    (do
      let result ← ask (.execute (some key))
      let body ← ask (.encode result)
      ask (.complete key 200 "\x7b\"Content-Type\": \"application/json\"\x7d" body)
      return { statusCode := 200, content := some body, headers := [("Idempotency-Key", key)] })
    fun error => do
      ask (.release key)
      .raised error

/-- Execute a mutating command idempotently or return the cached response. -/
def executeIdempotentCommand (sha256 : String → String) (request : CommandRequest) :
    GatewayTask CommandResponse :=
  match orText request.idempotencyKey none with
  | none => do
    let result ← ask (.execute none)
    let body ← ask (.encode result)
    return { statusCode := 200, content := some body, headers := [] }
  | some key =>
    if validKey key then do
      let status ← claimOrGet key request.userId request.path
        (computeRequestHash sha256 request) request.ttlSeconds
      match status with
      | .completed responseCode responseBody => return replay key responseCode responseBody
      | .inProgress => refuse 409 inProgressDetail
      | .mismatch => do
        Coroutine.catching (ask (.publishMismatch key request.userId request.path)) fun _ => return
        refuse 422 "Idempotency-Key was previously used with different request parameters."
      | .claimed => executeClaimed key
    else
      refuse 400 ("Invalid Idempotency-Key format. Must be 1-128 alphanumeric characters, " ++
        "dashes, underscores, or periods.")

/-- Delete expired idempotency records. -/
def cleanupExpired : GatewayTask Unit := do
  let now ← ask .now
  ask (.cleanup now)

/-- One request, from its arrival to its answer. -/
def serve (sha256 : String → String) (request : CommandRequest) : GatewayTask Unit := do
  let key := orText request.idempotencyKey none
  let late ← ask (.arrive key)
  let outcome : Except CommandError CommandResponse ← Coroutine.catching
    (do
      let response ← executeIdempotentCommand sha256 request
      return .ok response)
    fun error => return .error error
  ask (.respond ⟨key, late, outcome⟩)

end Idempotency

/-! ### The system -/

/-- The gateway: its table, the clock, the key of every command that completed its effect, and
the answers it gave. -/
structure Gateway where
  records : String → Option IdempotencyRecord
  clock : Int
  effects : List (Option String)
  answers : List Answered

inductive GatewayAnswer where
  | ok
  | raises (text : String)
  | completes (result : String)
  | failsAfterEffect (text : String)
  | encoded (body : String)

inductive GatewayStart where
  | request (request : CommandRequest)
  | cleanup

inductive GatewayDisturbance where
  | tick (seconds : Nat)

namespace Gateway

def initial : Gateway := ⟨fun _ => none, 0, [], []⟩

def setRecord (world : Gateway) (key : String) (record : Option IdempotencyRecord) : Gateway :=
  { world with records := fun other => if other = key then record else world.records other }

/-- The table without the records that expired before a point in time. -/
def dropExpired (world : Gateway) (now : Int) : Gateway :=
  { world with
    records := fun key => (world.records key).filter (fun record => ¬ record.expiresAt < now) }

/-- How often the command of a key completed its effect. -/
def completions (world : Gateway) (key : String) : Nat := world.effects.count (some key)

/-- A statement that is atomic: it commits, or fails without a trace. -/
def statement {Value : Type} (world : Gateway) (value : Value) (next : Gateway) :
    GatewayAnswer → Option (Except CommandError Value × Gateway)
  | .ok => some (.ok value, next)
  | .raises text => some (.error (.raised text), world)
  | _ => none

def answer (world : Gateway) (op : GatewayOp) (choice : GatewayAnswer) :
    Option (Except CommandError (GatewayReply op) × Gateway) :=
  match op with
  | .now => statement world world.clock world choice
  | .select key => statement world (world.records key) world choice
  | .deleteExpired key => statement world () (world.setRecord key none) choice
  | .claim key record => statement world () (world.setRecord key (some record)) choice
  | .complete key responseCode responseHeaders responseBody =>
      statement world () (world.setRecord key ((world.records key).map fun record =>
        { record with
          status := .completed
          responseCode := some responseCode
          responseHeaders := some responseHeaders
          responseBody := some responseBody })) choice
  | .release key => statement world () (world.setRecord key none) choice
  | .cleanup now => statement world () (world.dropExpired now) choice
  | .publishMismatch _ _ _ => statement world () world choice
  | .execute key =>
      match choice with
      | .completes result => some (.ok result, { world with effects := key :: world.effects })
      | .failsAfterEffect text =>
          some (.error (.raised text), { world with effects := key :: world.effects })
      | .raises text => some (.error (.raised text), world)
      | _ => none
  | .encode _ =>
      match choice with
      | .encoded body => some (.ok body, world)
      | .raises text => some (.error (.raised text), world)
      | _ => none
  | .arrive key => statement world (decide (key ∈ world.effects)) world choice
  | .respond answered =>
      statement world () { world with answers := world.answers ++ [answered] } choice

def start (sha256 : String → String) (world : Gateway) :
    GatewayStart → Option (GatewayTask Unit × Gateway)
  | .request request => some (Idempotency.serve sha256 request, world)
  | .cleanup => some (Idempotency.cleanupExpired, world)

def disturb (world : Gateway) : GatewayDisturbance → Option Gateway
  | .tick seconds => some { world with clock := world.clock + seconds }

/-- A restart keeps the table. -/
def system (sha256 : String → String) :
    System GatewayOp GatewayReply CommandError Gateway GatewayAnswer GatewayStart
      GatewayDisturbance where
  answer := answer
  start := start sha256
  disturb := disturb
  restart := id

def idle (world : Gateway) : Config GatewayOp GatewayReply CommandError Gateway := ⟨world, []⟩

end Gateway

end BreezeTrading
