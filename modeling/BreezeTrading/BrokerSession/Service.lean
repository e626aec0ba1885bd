/-
This file defines the broker session service: the activation of a session for one of two brokers
and the status it reports. Credentials are kept in memory, sessions are rows of a table, and the
adapters say whether they are active. Operations run one after another, with time, changes of the
adapters and restarts between them.
-/

import BreezeTrading.Contracts.Models
import BreezeTrading.Lib.Keyed

namespace BreezeTrading

open Stored

namespace BrokerSession

/-! ### Brokers, sessions and reports -/

inductive SessionBroker where
  | breeze
  | kite
  deriving DecidableEq, Repr

namespace SessionBroker

def other : SessionBroker → SessionBroker
  | .breeze => .kite
  | .kite => .breeze

/-- The account the status of a broker is read from. -/
def primaryAccount : SessionBroker → String
  | .kite => "ZERODHA_PRIMARY"
  | .breeze => "ICICI_PRIMARY"

/-- `broker.title()`. -/
def title : SessionBroker → String
  | .kite => "Kite"
  | .breeze => "Breeze"

end SessionBroker

/-- The credentials kept in memory for a broker. -/
structure BrokerCredentials where
  apiKey : String
  secretKey : String
  sessionToken : String
  deriving DecidableEq, Repr

inductive SessionRowStatus where
  | active
  | expired
  deriving DecidableEq, Repr

/-- A row of `session_history`, with the broker of its metadata. -/
structure SessionRow where
  sessionId : String
  accountId : String
  sessionTokenMasked : String
  status : SessionRowStatus
  loginTime : Int
  expiresAt : Int
  broker : SessionBroker
  deriving DecidableEq, Repr

/-- What a caller passes to `activate_session`. -/
structure ActivationRequest where
  apiKey : String
  secretKey : String
  sessionToken : String
  accountId : String := "ICICI_PRIMARY"
  accessToken : Option String := none
  brokerBackend : Option SessionBroker := none

/-- What the database, the event bus and the broker answer during an activation, and whether the
adapter is active afterwards. -/
structure ActivationOutcome where
  savesSession : Except String Unit
  recordsHealth : Except String Unit
  publishes : Except String Unit
  authenticates : Except String Bool
  adapterActive : Bool
  recordsFailure : Except String Unit

/-- What the database answers during a status request. -/
structure StatusOutcome where
  reads : Except String Unit
  expires : Except String Unit

/-- The broker is asked, as long as nothing before it fails. -/
def ActivationOutcome.asksBroker (outcome : ActivationOutcome) : Prop :=
  outcome.savesSession = .ok () ∧ outcome.recordsHealth = .ok () ∧ outcome.publishes = .ok ()

instance (outcome : ActivationOutcome) : Decidable outcome.asksBroker :=
  inferInstanceAs (Decidable (_ ∧ _ ∧ _))

/-- The database works. -/
def StatusOutcome.works : StatusOutcome := ⟨.ok (), .ok ()⟩

inductive ActivationStatus where
  | connected
  | authenticationFailed
  deriving DecidableEq, Repr

/-- What `activate_session` returns. -/
structure ActivationResult where
  sessionId : String
  status : ActivationStatus
  accountId : String
  expiresAt : Int
  broker : SessionBroker
  message : Option String
  deriving DecidableEq, Repr

inductive SessionStatus where
  | disconnected
  | expired
  | connected
  deriving DecidableEq, Repr

/-- What `get_session_status` returns. -/
structure SessionReport where
  status : SessionStatus
  sessionId : Option String
  accountId : Option String
  expiresAt : Option Int
  tokenMasked : Option String
  broker : Option SessionBroker
  message : Option String
  deriving DecidableEq, Repr

/-- How the activation of a broker and an account ended, and when its session expires. -/
structure SessionActivation where
  broker : SessionBroker
  accountId : String
  authenticated : Bool
  expiresAt : Int
  deriving DecidableEq, Repr

/-- The memory of the service, its table, the adapters, the clock, and the activations, the latest
first. -/
structure SessionWorld where
  executionBroker : SessionBroker
  credentialsByBroker : SessionBroker → Option BrokerCredentials
  activeApiKey : Option String
  activeSecretKey : Option String
  activeToken : Option String
  sessions : Keyed SessionRow.sessionId
  adapterActive : SessionBroker → Bool
  clock : Int
  activations : List SessionActivation

/-! ### Requests -/

namespace ActivationRequest

/-- The broker that is asked for, or the one the account id points to. -/
def broker (request : ActivationRequest) : SessionBroker :=
  match request.brokerBackend with
  | some broker => broker
  | none => if (upper request.accountId).startsWith "ZERODHA" then .kite else .breeze

/-- `account_id or self._account_for_broker(broker)`. -/
def account (request : ActivationRequest) : String :=
  if request.accountId = "" then request.broker.primaryAccount else request.accountId

/-- `access_token or session_token`. -/
def runtimeToken (request : ActivationRequest) : String :=
  (orText request.accessToken none).getD request.sessionToken

def credentials (request : ActivationRequest) : BrokerCredentials where
  apiKey := request.apiKey
  secretKey := request.secretKey
  sessionToken := request.runtimeToken

end ActivationRequest

/-- Mask a token for persistence. -/
def maskedToken (token : String) : String :=
  if token.toList.length > 8 then
    String.ofList (token.toList.take 4) ++ "..." ++
      String.ofList (token.toList.drop (token.toList.length - 4))
  else "***"

/-- The 24 hours after which a session expires, in microseconds. -/
def sessionLifetime : Int := 24 * 3600 * 1000000

namespace SessionWorld

/-- A service without sessions. -/
def initial (executionBroker : SessionBroker) (clock : Int) : SessionWorld where
  executionBroker := executionBroker
  credentialsByBroker _ := none
  activeApiKey := none
  activeSecretKey := none
  activeToken := none
  sessions := .empty
  adapterActive _ := false
  clock := clock
  activations := []

/-! ### The repository -/

/-- `ORDER BY login_time DESC LIMIT 1`. -/
def latestLogin : List SessionRow → Option SessionRow
  | [] => none
  | row :: rest =>
      match latestLogin rest with
      | some later => if row.loginTime < later.loginTime then some later else some row
      | none => some row

def getActiveSession (world : SessionWorld) (accountId : String) : Option SessionRow :=
  latestLogin (world.sessions.rows.filter fun row =>
    row.status = .active ∧ row.accountId = accountId)

/-- `UPDATE session_history SET status = 'EXPIRED' WHERE session_id = ?`. -/
def expireSession (world : SessionWorld) (sessionId : String) : SessionWorld :=
  { world with
    sessions := world.sessions.update (fun row => row.sessionId = sessionId)
      (fun row => { row with status := .expired }) fun _ => rfl }

/-! ### The service -/

/-- Retain credentials in memory, independently for each broker; the fields without a broker
mirror the execution broker. -/
def retain (world : SessionWorld) (broker : SessionBroker) (credentials : BrokerCredentials) :
    SessionWorld :=
  { world with
    credentialsByBroker := Function.update world.credentialsByBroker broker (some credentials)
    activeApiKey :=
      if broker = world.executionBroker then some credentials.apiKey else world.activeApiKey
    activeSecretKey :=
      if broker = world.executionBroker then some credentials.secretKey else world.activeSecretKey
    activeToken :=
      if broker = world.executionBroker then some credentials.sessionToken
      else world.activeToken }

def activationRow (world : SessionWorld) (sessionId : String) (request : ActivationRequest) :
    SessionRow where
  sessionId := sessionId
  accountId := request.account
  sessionTokenMasked := maskedToken request.runtimeToken
  status := .active
  loginTime := world.clock
  expiresAt := world.clock + sessionLifetime
  broker := request.broker

/-- Activate one broker session: the credentials and an active row are stored before the broker is
asked to authenticate. -/
def activateSession (world : SessionWorld) (sessionId : String) (request : ActivationRequest)
    (outcome : ActivationOutcome) : Except String ActivationResult × SessionWorld :=
  let retained := world.retain request.broker request.credentials
  match outcome.savesSession, retained.sessions.insert (world.activationRow sessionId request) with
  | .error text, _ => (.error text, retained)
  | .ok (), none => (.error "UNIQUE constraint failed: session_history.session_id", retained)
  | .ok (), some rows =>
    let saved := { retained with sessions := rows }
    match outcome.recordsHealth, outcome.publishes with
    | .error text, _ => (.error text, saved)
    | .ok (), .error text => (.error text, saved)
    | .ok (), .ok () =>
      let asked := { saved with
        adapterActive := Function.update saved.adapterActive request.broker
          outcome.adapterActive }
      let result (status : ActivationStatus) (message : Option String) : ActivationResult :=
        { sessionId := sessionId
          status := status
          accountId := request.account
          expiresAt := world.clock + sessionLifetime
          broker := request.broker
          message := message }
      match outcome.authenticates, outcome.recordsFailure with
      | .ok true, _ => (.ok (result .connected none), asked)
      | _, .error text => (.error text, asked)
      | .ok false, .ok () =>
          (.ok (result .authenticationFailed (some ("Authentication rejected by " ++
            request.broker.title ++ ": Session key is expired or invalid."))), asked)
      | .error text, .ok () =>
          (.ok (result .authenticationFailed (some ("Authentication rejected by " ++
            request.broker.title ++ ": " ++ if text = "" then
              "Session key is expired or invalid." else text))), asked)

/-- Return status for one broker. An expired session is marked, and its credentials dropped. -/
def getSessionStatus (world : SessionWorld) (broker : SessionBroker) (outcome : StatusOutcome) :
    Except String SessionReport × SessionWorld :=
  match outcome.reads with
  | .error text => (.error text, world)
  | .ok () =>
    match world.getActiveSession broker.primaryAccount, world.credentialsByBroker broker with
    | some active, some _ =>
      if world.clock ≥ active.expiresAt then
        match outcome.expires with
        | .error text => (.error text, world)
        | .ok () =>
          let expired := world.expireSession active.sessionId
          (.ok
            { status := .expired
              sessionId := none
              accountId := none
              expiresAt := some active.expiresAt
              tokenMasked := none
              broker := none
              message := some "Broker session has expired" },
            { expired with
              credentialsByBroker := Function.update expired.credentialsByBroker broker none
              activeToken :=
                if broker = expired.executionBroker then none else expired.activeToken })
      else
        let report (status : SessionStatus) (message : Option String) : SessionReport :=
          { status := status
            sessionId := some active.sessionId
            accountId := some active.accountId
            expiresAt := some active.expiresAt
            tokenMasked := some active.sessionTokenMasked
            broker := some broker
            message := message }
        if world.adapterActive broker = false then
          (.ok (report .expired (some ("The " ++ broker.title ++
            " session is no longer active. Please reconnect with today's token."))), world)
        else (.ok (report .connected none), world)
    | _, _ =>
      (.ok
        { status := .disconnected
          sessionId := none
          accountId := none
          expiresAt := none
          tokenMasked := none
          broker := none
          message := some "No active broker session" }, world)

/-! ### The machine -/

/-- The activation authenticated the broker. -/
def connected : Except String ActivationResult → Bool
  | .ok result => result.status = .connected
  | .error _ => false

end SessionWorld

/-- What happens to the service: its two operations, and what happens between them. -/
inductive SessionOp where
  | activate (sessionId : String) (request : ActivationRequest) (outcome : ActivationOutcome)
  | status (broker : Option SessionBroker) (outcome : StatusOutcome)
  | tick (elapsed : Nat)
  | adapter (broker : SessionBroker) (active : Bool)
  | restart

namespace SessionWorld

/-- One step: an activation is noted with how it ended, and a restart keeps the table. -/
def step (world : SessionWorld) : SessionOp → SessionWorld
  | .activate sessionId request outcome =>
      let (result, next) := world.activateSession sessionId request outcome
      { next with
        activations :=
          ⟨request.broker, request.account, connected result, world.clock + sessionLifetime⟩ ::
            next.activations }
  | .status broker outcome =>
      (world.getSessionStatus (broker.getD world.executionBroker) outcome).2
  | .tick elapsed => { world with clock := world.clock + elapsed }
  | .adapter broker active =>
      { world with adapterActive := Function.update world.adapterActive broker active }
  | .restart =>
      { world with
        credentialsByBroker := fun _ => none
        activeApiKey := none
        activeSecretKey := none
        activeToken := none
        adapterActive := fun _ => false }

end SessionWorld

end BrokerSession

end BreezeTrading
