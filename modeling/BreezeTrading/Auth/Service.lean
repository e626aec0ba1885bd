/-
This file defines the auth service over its database: logins, refresh tokens, logouts and
WebSocket tickets, by any number of concurrent requests. A statement is atomic; between two of
them any other request may run. The world remembers who consumed a credential, and what a logout
withdrew.
-/

import BreezeTrading.Lib.Coroutine
import BreezeTrading.Lib.Keyed

namespace BreezeTrading

open Async Stored

/-! ### Users, tokens and tickets -/

/-- Server-owned identity roles. -/
inductive UserRole where
  | admin
  | operator
  | trader
  | readOnly
  deriving DecidableEq, Repr

/-- `UserRole(value)`. -/
def UserRole.parse : String → Option UserRole
  | "ADMIN" => some .admin
  | "OPERATOR" => some .operator
  | "TRADER" => some .trader
  | "READ_ONLY" => some .readOnly
  | _ => none

/-- Authenticated user context identity. -/
structure UserPrincipal where
  userId : String
  username : String
  role : UserRole
  isActive : Bool
  deriving DecidableEq, Repr

/-- A row of `users`. -/
structure UserRow where
  userId : String
  username : String
  passwordHash : String
  salt : String
  role : String
  isActive : Bool
  deriving DecidableEq, Repr

/-- A row of `refresh_tokens`. -/
structure RefreshTokenRow where
  tokenId : String
  userId : String
  tokenHash : String
  expiresAt : Int
  revokedAt : Option Int
  createdAt : Int
  deriving DecidableEq, Repr

/-- A row of `ws_tickets`. -/
structure WsTicketRow where
  ticketId : String
  ticketHash : String
  userId : String
  role : String
  expiresAt : Int
  usedAt : Option Int
  createdAt : Int
  deriving DecidableEq, Repr

inductive CredentialKind where
  | refreshToken
  | wsTicket
  deriving DecidableEq, Repr

/-- A request that found a credential usable: the row it read, the time it compared the expiry
with, and the number of the reading. -/
structure Presentation where
  kind : CredentialKind
  credentialId : String
  presentedAt : Int
  number : Nat
  deriving DecidableEq, Repr

def Presentation.credential (presentation : Presentation) : CredentialKind × String :=
  (presentation.kind, presentation.credentialId)

/-- The settings the service reads. -/
structure AuthSettings where
  accessTokenExpireMinutes : Int
  refreshTokenExpireDays : Int
  wsTicketExpireSeconds : Int
  isDevelopment : Bool

/-- The digests and the text functions the service computes with: `hash_token`, `verify_password`,
and `username.strip().lower()`. -/
structure AuthPrimitives where
  hashToken : String → String
  verifyPassword : String → String → String → Bool
  normalised : String → String

/-- Points in time and durations count microseconds. -/
def seconds (count : Int) : Int := count * 1000000

/-! ### Operations -/

/-- The initial frame of a WebSocket. -/
inductive AuthFrame where
  | ticket (ticket : String)
  | token (token : String)
  | other

inductive AuthOp where
  | utcNow
  | generateOpaqueToken (nbytes : Nat)
  | generateId
  | createAccessToken (principal : UserPrincipal) (expiresDelta : Int)
  | verifyAccessToken (token : String)
  | selectUserByUsername (username : String)
  | selectUserById (userId : String)
  | insertRefreshToken (row : RefreshTokenRow)
  | selectActiveRefreshToken (tokenHash : String) (now : Int)
  | revokeRefreshToken (tokenHash : String) (now : Int) (rotating : Option Presentation)
  | insertWsTicket (row : WsTicketRow)
  | selectWsTicket (ticketHash : String)
  | markWsTicketUsed (ticketId : String) (now : Int) (presentation : Presentation)
  | publishAudit (eventType : String)
  | honour (presentation : Presentation)
  | accept
  | receiveAuthFrame
  | register (user : UserPrincipal)
  | reject

@[reducible] def AuthReply : AuthOp → Type
  | .utcNow => Int
  | .generateOpaqueToken _ => String
  | .generateId => String
  | .createAccessToken _ _ => String
  | .verifyAccessToken _ => UserPrincipal
  | .selectUserByUsername _ => Option UserRow
  | .selectUserById _ => Option UserRow
  | .selectActiveRefreshToken _ _ => Option (RefreshTokenRow × Nat)
  | .revokeRefreshToken _ _ _ => Nat
  | .selectWsTicket _ => Option (WsTicketRow × Nat)
  | .receiveAuthFrame => AuthFrame
  | _ => Unit

abbrev AuthTask (Result : Type) := Coroutine AuthOp AuthReply String Result

namespace Auth

/-- Await one operation of the service. -/
abbrev ask (op : AuthOp) : AuthTask (AuthReply op) := Coroutine.perform op

/-! ### The repository -/

def storeRefreshToken (tokenId userId tokenHash : String) (expiresAt : Int) : AuthTask Unit := do
  let now ← ask .utcNow
  ask (.insertRefreshToken
    { tokenId := tokenId
      userId := userId
      tokenHash := tokenHash
      expiresAt := expiresAt
      revokedAt := none
      createdAt := now })

/-- The first active row with the hash, and the presentation that found it. -/
def getActiveRefreshToken (tokenHash : String) :
    AuthTask (Option (RefreshTokenRow × Presentation)) := do
  let now ← ask .utcNow
  let row ← ask (.selectActiveRefreshToken tokenHash now)
  match row with
  | none => return none
  | some (row, number) =>
    return some (row,
      { kind := .refreshToken
        credentialId := row.tokenId
        presentedAt := now
        number := number })

/-- Revoke what is active under the hash. A rotation says which presentation it acts for; the
statement does not depend on it. -/
def revokeRefreshToken (tokenHash : String) (rotating : Option Presentation) : AuthTask Bool := do
  let now ← ask .utcNow
  let rowcount ← ask (.revokeRefreshToken tokenHash now rotating)
  return decide (rowcount > 0)

def storeWsTicket (ticketId ticketHash userId role : String) (expiresAt : Int) :
    AuthTask Unit := do
  let now ← ask .utcNow
  ask (.insertWsTicket
    { ticketId := ticketId
      ticketHash := ticketHash
      userId := userId
      role := role
      expiresAt := expiresAt
      usedAt := none
      createdAt := now })

/-- Claim and mark a single-use WebSocket ticket: the row is read by its hash, checked, and
updated by its id. -/
def consumeWsTicket (ticketHash : String) : AuthTask (Option (WsTicketRow × Presentation)) := do
  let now ← ask .utcNow
  let row ← ask (.selectWsTicket ticketHash)
  match row with
  | none => return none
  | some (row, number) =>
    if row.usedAt ≠ none ∨ row.expiresAt ≤ now then return none
    else do
      let presentation : Presentation :=
        { kind := .wsTicket
          credentialId := row.ticketId
          presentedAt := now
          number := number }
      ask (.markWsTicketUsed row.ticketId now presentation)
      return some (row, presentation)

/-! ### The service -/

/-- Publish an audit event; a failure is logged. -/
def auditAuthEvent (eventType : String) : AuthTask Unit :=
  Coroutine.catching (ask (.publishAudit eventType)) fun _ => return

/-- A user row as a principal; an unknown role is an error. -/
def principalOf (user : UserRow) : AuthTask UserPrincipal :=
  match UserRole.parse user.role with
  | some role =>
    return { userId := user.userId, username := user.username, role := role,
             isActive := user.isActive }
  | none => .raised ("'" ++ user.role ++ "' is not a valid UserRole")

/-- A user, an access token, a refresh token, and the seconds until the access token expires. -/
structure IssuedSession where
  principal : UserPrincipal
  accessToken : String
  refreshToken : String
  expiresIn : Int

variable (primitives : AuthPrimitives) (settings : AuthSettings)

/-- Issue an access token and a stored refresh token. -/
def issueTokens (principal : UserPrincipal) : AuthTask (String × String) := do
  let access ← ask (.createAccessToken principal (seconds (60 * settings.accessTokenExpireMinutes)))
  let rawRefresh ← ask (.generateOpaqueToken 32)
  let now ← ask .utcNow
  let tokenId ← ask .generateId
  storeRefreshToken tokenId principal.userId (primitives.hashToken rawRefresh)
    (now + seconds (86400 * settings.refreshTokenExpireDays))
  return (access, rawRefresh)

/-- Authenticate user credentials. -/
def authenticate (username password : String) : AuthTask (Option IssuedSession) := do
  let user ← ask (.selectUserByUsername (primitives.normalised username))
  match user with
  | none => do
    auditAuthEvent "USER_LOGIN_FAILURE"
    return none
  | some user =>
    if ¬ user.isActive then do
      auditAuthEvent "USER_LOGIN_FAILURE"
      return none
    else if ¬ primitives.verifyPassword password user.passwordHash user.salt then do
      auditAuthEvent "USER_LOGIN_FAILURE"
      return none
    else do
      let principal ← principalOf user
      let (access, refresh) ← issueTokens primitives settings principal
      auditAuthEvent "USER_LOGIN_SUCCESS"
      return some
        { principal := principal
          accessToken := access
          refreshToken := refresh
          expiresIn := 60 * settings.accessTokenExpireMinutes }

/-- Rotate a refresh token: revoke the old token and issue a fresh pair. How many rows the
revocation changed is not looked at. -/
def refreshTokens (rawRefreshToken : String) : AuthTask (Option IssuedSession) := do
  let tokenHash := primitives.hashToken rawRefreshToken
  let active ← getActiveRefreshToken tokenHash
  match active with
  | none => return none
  | some (row, presentation) => do
    let _ ← revokeRefreshToken tokenHash (some presentation)
    let user ← ask (.selectUserById row.userId)
    match user with
    | none => return none
    | some user =>
      if ¬ user.isActive then return none
      else do
        let principal ← principalOf user
        let (access, refresh) ← issueTokens primitives settings principal
        auditAuthEvent "TOKEN_REFRESHED"
        -- the session is handed out: nothing of the source runs here
        ask (.honour presentation)
        return some
          { principal := principal
            accessToken := access
            refreshToken := refresh
            expiresIn := 60 * settings.accessTokenExpireMinutes }

/-- Revoke an active refresh token on logout. -/
def logout (rawRefreshToken : String) : AuthTask Bool := do
  let revoked ← revokeRefreshToken (primitives.hashToken rawRefreshToken) none
  if revoked then do
    auditAuthEvent "USER_LOGOUT"
    return revoked
  else return revoked

/-- The stored text of a role. -/
def roleValue : UserRole → String
  | .admin => "ADMIN"
  | .operator => "OPERATOR"
  | .trader => "TRADER"
  | .readOnly => "READ_ONLY"

/-- Generate a short-lived single-use ticket for WebSocket authentication. -/
def createWsTicket (user : UserPrincipal) : AuthTask (String × Int) := do
  let opaqueToken ← ask (.generateOpaqueToken 24)
  let rawTicket := "wst_" ++ opaqueToken
  let now ← ask .utcNow
  let ticketId ← ask .generateId
  storeWsTicket ticketId (primitives.hashToken rawTicket) user.userId (roleValue user.role)
    (now + seconds settings.wsTicketExpireSeconds)
  auditAuthEvent "WS_TICKET_ISSUED"
  return (rawTicket, settings.wsTicketExpireSeconds)

/-- Validate and claim a single-use ticket for a WebSocket handshake. -/
def validateAndConsumeWsTicket (rawTicket : String) : AuthTask (Option UserPrincipal) := do
  let ticket ← consumeWsTicket (primitives.hashToken rawTicket)
  match ticket with
  | none => do
    auditAuthEvent "WS_AUTHENTICATION_FAILURE"
    return none
  | some (row, presentation) => do
    let user ← ask (.selectUserById row.userId)
    match user with
    | none => return none
    | some user =>
      if ¬ user.isActive then return none
      else do
        let principal ← principalOf user
        auditAuthEvent "WS_AUTHENTICATION_SUCCESS"
        -- the connection counts as authenticated: nothing of the source runs here
        ask (.honour presentation)
        return some principal

/-! ### The WebSocket endpoint -/

/-- The identity an unauthenticated connection gets in development. -/
def developmentViewer : UserPrincipal where
  userId := "dev-viewer"
  username := "dev_user"
  role := .readOnly
  isActive := true

/-- Authenticate by the ticket of the query, if one is supplied. -/
def authenticateByQuery : Option String → AuthTask (Option UserPrincipal)
  | some ticket =>
    if ticket = "" then return none else validateAndConsumeWsTicket primitives ticket
  | none => return none

/-- Authenticate by the initial frame; any error leaves the connection without a user. -/
def authenticateByFrame : AuthTask (Option UserPrincipal) :=
  Coroutine.catching
    (do
      let frame ← ask .receiveAuthFrame
      match frame with
      | .ticket ticket => validateAndConsumeWsTicket primitives ticket
      | .token token => do
        let user ← ask (.verifyAccessToken token)
        return some user
      | .other => return none)
    fun _ => return none

/-- Step 2 of the handshake: without a user from the query, the initial frame decides. -/
def authenticateUnless : Option UserPrincipal → AuthTask (Option UserPrincipal)
  | some user => return some user
  | none => authenticateByFrame primitives

/-- Step 3 of the handshake: register the connection, or reject it. -/
def registerOrReject (ticket : Option String) : Option UserPrincipal → AuthTask Unit
  | some user => ask (.register user)
  | none =>
    if ticket = none ∧ settings.isDevelopment then ask (.register developmentViewer)
    else Coroutine.catching (ask .reject) fun _ => return

/-- The WebSocket endpoint up to the registration of the connection. -/
def websocketLiveEndpoint (ticket : Option String) : AuthTask Unit := do
  let queried ← authenticateByQuery primitives ticket
  ask .accept
  let user ← authenticateUnless primitives queried
  registerOrReject settings ticket user

end Auth

/-! ### The system -/

/-- The database of the service, the clock, the number of readings that found a row, the
presentations that consumed a credential and those that were honoured, and the tokens that a
logout withdrew. -/
structure AuthWorld where
  users : List UserRow
  refreshTokens : Keyed RefreshTokenRow.tokenId
  wsTickets : Keyed WsTicketRow.ticketId
  clock : Int
  readings : Nat
  consumed : List Presentation
  honoured : List Presentation
  loggedOut : List String

inductive AuthAnswer where
  | ok
  | raises (text : String)
  | text (value : String)
  | principal (user : UserPrincipal)
  | frame (frame : AuthFrame)

inductive AuthStart where
  | login (username password : String)
  | refresh (refreshToken : String)
  | logout (refreshToken : String)
  | wsTicket (user : UserPrincipal)
  | webSocket (ticket : Option String)

inductive AuthDisturbance where
  | tick (elapsed : Nat)
  | users (users : List UserRow)

namespace AuthWorld

/-- A database without tokens and tickets. -/
def initial (users : List UserRow) (clock : Int) : AuthWorld where
  users := users
  refreshTokens := .empty
  wsTickets := .empty
  clock := clock
  readings := 0
  consumed := []
  honoured := []
  loggedOut := []

/-- A statement that is atomic: it commits, or fails without a trace. -/
def statement {Value : Type} (world : AuthWorld) (value : Value) (next : AuthWorld) :
    AuthAnswer → Option (Except String Value × AuthWorld)
  | .ok => some (.ok value, next)
  | .raises text => some (.error text, world)
  | _ => none

/-- A text the environment chooses. -/
def choosing (world : AuthWorld) : AuthAnswer → Option (Except String String × AuthWorld)
  | .text value => some (.ok value, world)
  | .raises text => some (.error text, world)
  | _ => none

/-- The user of a row must exist. -/
def hasUser (world : AuthWorld) (userId : String) : Bool :=
  world.users.any fun user => user.userId = userId

/-- `token_hash = ? AND revoked_at IS NULL`. -/
def revocable (tokenHash : String) (row : RefreshTokenRow) : Bool :=
  row.tokenHash = tokenHash ∧ row.revokedAt = none

/-- A constraint decides whether a row is inserted. -/
def inserting (world : AuthWorld) (known : Bool) (next : Option AuthWorld) :
    AuthAnswer → Option (Except String Unit × AuthWorld)
  | .ok => match known, next with
    | true, some next => some (.ok (), next)
    | true, none => some (.error "UNIQUE constraint failed", world)
    | false, _ => some (.error "FOREIGN KEY constraint failed", world)
  | .raises text => some (.error text, world)
  | _ => none

/-- The rows that are active under a hash are revoked; a logout notes them as withdrawn, a
rotation notes the presentation it acts for as consumed. -/
def revoke (world : AuthWorld) (tokenHash : String) (now : Int)
    (rotating : Option Presentation) : AuthWorld :=
  { world with
    refreshTokens := world.refreshTokens.update (revocable tokenHash)
      (fun row => { row with revokedAt := some now }) fun _ => rfl
    consumed := match rotating with
      | some presentation => presentation :: world.consumed
      | none => world.consumed
    loggedOut := match rotating with
      | some _ => world.loggedOut
      | none => (world.refreshTokens.rows.filter (revocable tokenHash)).map
          RefreshTokenRow.tokenId ++ world.loggedOut }

/-- The row with the id is marked as used, whatever it says, and the presentation is noted as
consumed. -/
def markUsed (world : AuthWorld) (ticketId : String) (now : Int) (presentation : Presentation) :
    AuthWorld :=
  { world with
    wsTickets := world.wsTickets.update (fun row => row.ticketId = ticketId)
      (fun row => { row with usedAt := some now }) fun _ => rfl
    consumed := presentation :: world.consumed }

def answer (world : AuthWorld) (op : AuthOp) (choice : AuthAnswer) :
    Option (Except String (AuthReply op) × AuthWorld) :=
  match op with
  | .utcNow => statement world world.clock world choice
  | .generateOpaqueToken _ => choosing world choice
  | .generateId => choosing world choice
  | .createAccessToken _ _ => choosing world choice
  | .verifyAccessToken _ =>
      match choice with
      | .principal user => some (.ok user, world)
      | .raises text => some (.error text, world)
      | _ => none
  | .selectUserByUsername username =>
      statement world (world.users.find? fun user => decide (user.username = username)) world choice
  | .selectUserById userId =>
      statement world (world.users.find? fun user => decide (user.userId = userId)) world choice
  | .insertRefreshToken row =>
      inserting world (world.hasUser row.userId) ((world.refreshTokens.insert row).map
        fun rows => { world with refreshTokens := rows }) choice
  | .selectActiveRefreshToken tokenHash now =>
      statement world
        ((world.refreshTokens.rows.find? fun row =>
          decide (revocable tokenHash row ∧ row.expiresAt > now)).map (·, world.readings))
        { world with readings := world.readings + 1 } choice
  | .revokeRefreshToken tokenHash now rotating =>
      statement world (world.refreshTokens.rows.countP (revocable tokenHash))
        (world.revoke tokenHash now rotating) choice
  | .insertWsTicket row =>
      inserting world (world.hasUser row.userId) ((world.wsTickets.insert row).map
        fun rows => { world with wsTickets := rows }) choice
  | .selectWsTicket ticketHash =>
      statement world
        ((world.wsTickets.rows.find? fun row => decide (row.ticketHash = ticketHash)).map
          (·, world.readings))
        { world with readings := world.readings + 1 } choice
  | .markWsTicketUsed ticketId now presentation =>
      statement world () (world.markUsed ticketId now presentation) choice
  | .publishAudit _ => statement world () world choice
  | .honour presentation =>
      statement world () { world with honoured := presentation :: world.honoured } choice
  | .accept => statement world () world choice
  | .receiveAuthFrame =>
      match choice with
      | .frame frame => some (.ok frame, world)
      | .raises text => some (.error text, world)
      | _ => none
  | .register _ => statement world () world choice
  | .reject => statement world () world choice

def start (primitives : AuthPrimitives) (settings : AuthSettings) (world : AuthWorld) :
    AuthStart → Option (AuthTask Unit × AuthWorld)
  | .login username password =>
      some (do let _ ← Auth.authenticate primitives settings username password; return, world)
  | .refresh refreshToken =>
      some (do let _ ← Auth.refreshTokens primitives settings refreshToken; return, world)
  | .logout refreshToken =>
      some (do let _ ← Auth.logout primitives refreshToken; return, world)
  | .wsTicket user =>
      some (do let _ ← Auth.createWsTicket primitives settings user; return, world)
  | .webSocket ticket => some (Auth.websocketLiveEndpoint primitives settings ticket, world)

def disturb (world : AuthWorld) : AuthDisturbance → Option AuthWorld
  | .tick elapsed => some { world with clock := world.clock + elapsed }
  | .users users => some { world with users := users }

/-- A restart keeps the database. -/
def system (primitives : AuthPrimitives) (settings : AuthSettings) :
    System AuthOp AuthReply String AuthWorld AuthAnswer AuthStart AuthDisturbance where
  answer := answer
  start := start primitives settings
  disturb := disturb
  restart := id

end AuthWorld

end BreezeTrading
