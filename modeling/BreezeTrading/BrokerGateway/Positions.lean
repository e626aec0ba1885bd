/-
This file defines how the broker gateway reads the positions of the broker: the reply
of the Kite client, the envelope of the Breeze client and its validation, and the
rows either adapter makes of them. Beside the read it says which rows the broker
really reported, if any, and proves when the two agree.
-/

import BreezeTrading.BrokerGateway.Adapters
import BreezeTrading.Lib.Fallible
import BreezeTrading.Risk.Service
import Mathlib.Data.List.Infix

namespace BreezeTrading.BrokerGateway

/-! ### Values -/

/-- What a broker client returns: the values of a JSON document. -/
inductive PyValue where
  | none
  | bool (value : Bool)
  | int (value : Int)
  | float (value : ℚ)
  | text (value : String)
  | list (values : List PyValue)
  | dict (entries : List (String × PyValue))

namespace PyValue

/-- `bool(value)`. -/
def truthy : PyValue → Bool
  | none => false
  | bool value => value
  | int value => decide (value ≠ 0)
  | float value => decide (value ≠ 0)
  | text value => decide (value ≠ "")
  | list values => !values.isEmpty
  | dict entries => !entries.isEmpty

/-- `first or second`. -/
def or (first second : PyValue) : PyValue := if first.truthy then first else second

/-- What a loop over the value runs through. -/
def iterate : PyValue → Except BrokerError (List PyValue)
  | list values => return values
  | dict entries => return entries.map fun entry => text entry.1
  | text value => return value.toList.map fun character => text character.toString
  | _ => throw (.other "TypeError" "object is not iterable")

/-- A row, which is read by its keys. -/
def row : PyValue → Except BrokerError (List (String × PyValue))
  | dict entries => return entries
  | _ => throw (.other "AttributeError" "object has no attribute 'get'")

end PyValue

/-- `entries.get(key, default)`. -/
def get (entries : List (String × PyValue)) (key : String) (default : PyValue) : PyValue :=
  (entries.lookup key).getD default

/-- The conversions of the language that the adapters apply to what they are given. -/
structure Builtins where
  int : PyValue → Except BrokerError Int
  float : PyValue → Except BrokerError ℚ
  str : PyValue → String
  decimal : String → Except BrokerError ℚ
  strip : String → String
  strptime : String → String → Option String
  fromisoformat : String → Option String

/-! ### Kite -/

namespace ZerodhaKiteAdapter

/-- The position of a row; its last price and profit are read too. -/
def positionOfRow (builtins : Builtins) (value : PyValue) :
    Except BrokerError BrokerPositionResponse := do
  let entries ← value.row
  let quantity ← builtins.int ((get entries "quantity" .none).or (.int 0))
  let averagePrice ← builtins.float ((get entries "average_price" .none).or (.int 0))
  let _ ← builtins.float ((get entries "last_price" .none).or (.int 0))
  let _ ← builtins.float ((get entries "pnl" .none).or (.int 0))
  return {
    stockCode := builtins.str (get entries "tradingsymbol" (.text ""))
    quantity
    averagePrice
    strikePrice := none
    right := none
    expiryDate := none }

/-- The net positions of a reply. -/
def netRows : PyValue → PyValue
  | .dict entries => get entries "net" (.list [])
  | _ => .list []

/-- The positions, with what the client answered or raised. -/
def getPositions (adapter : ZerodhaKiteAdapter) (builtins : Builtins)
    (positions : Except BrokerError PyValue) : Except BrokerError (List BrokerPositionResponse) :=
  if adapter.isActive = false then return []
  else do
    let data ← positions
    let rows ← (netRows data).iterate
    rows.mapM (positionOfRow builtins)

end ZerodhaKiteAdapter

/-! ### Breeze -/

namespace BreezeResponseValidator

/-- `term in text`. -/
def mentions (terms : List String) (text : String) : Bool :=
  terms.any fun term => decide (term.toList <:+: text.toList)

/-- The error a failing envelope is translated to, by its code and its message. -/
def errorOf (statusCode : Option Int) (msg : String) : BrokerError :=
  let msgLower := lower msg
  if mentions ["session", "token expired", "key expired", "invalid session"] msgLower then
    .sessionExpired msg
  else if mentions ["auth", "unauthorized", "invalid appkey", "invalid secretkey", "api key"]
      msgLower then
    .other "BrokerAuthenticationError" msg
  else if statusCode = some 429 ∨ mentions ["rate limit", "request limit", "limit exceeded",
      "exceeded", "too many requests", "throttle"] msgLower = true then
    .other "BrokerRateLimitError" msg
  else if mentions ["rejected", "rms", "margin", "funds insufficient", "circuit"] msgLower then
    .orderRejected msg
  else if mentions ["already executed", "cannot modify", "cannot cancel", "terminal"] msgLower then
    .other "BrokerOrderStateConflictError" msg
  else if mentions ["unavailable", "down", "maintenance", "server error", "503"] msgLower then
    .other "BrokerUnavailableError" msg
  else if mentions ["validation", "invalid parameter", "strike", "contract"] msgLower then
    .validation msg
  else .other "BrokerUnknownError" msg

/-- Validate a response envelope and extract its payload. -/
def validateAndExtract (builtins : Builtins) (operation : String) :
    PyValue → Except BrokerError PyValue
  | .none => throw (.other "BrokerProtocolError" ("Breeze SDK returned None for " ++ operation))
  | .dict entries =>
    let status := get entries "Status" .none
    let errorMsg :=
      ((get entries "Error" .none).or (get entries "error" .none)).or (get entries "message" .none)
    let successPayload := get entries "Success" .none
    let statusCode :=
      match status with
      | .none => none
      | _ => (builtins.int status).toOption
    if (statusCode.any fun code => decide (400 ≤ code)) ||
        (errorMsg.truthy && !successPayload.truthy) then
      throw (errorOf statusCode (builtins.str (errorMsg.or (.text
        ("Breeze " ++ operation ++ " failed with status " ++ builtins.str status)))))
    else
      match successPayload with
      | .none => return .dict entries
      | _ => return successPayload
  | raw => return raw

end BreezeResponseValidator

namespace BreezeTradingAdapter

/-- What the Breeze client is asked for a position read: a permit of the rate limiter, the status
of its session, whether it has an SDK, and the portfolio positions. -/
structure PortfolioReads where
  acquireRead : Except BrokerError Unit
  status : SessionStatus
  hasSdk : Bool
  portfolioPositions : Except BrokerError PyValue

/-- The expiry of a row, in the formats the broker writes dates in. -/
def parseOptionalExpiry (builtins : Builtins) (value : PyValue) : Option String :=
  if (match value with | .none => true | .text text => decide (text = "") | _ => false) then none
  else
    let text := builtins.strip (builtins.str value)
    let candidates := [takeText 10 text, takeText 11 text].flatMap fun candidate =>
      ["%Y-%m-%d", "%d-%b-%Y", "%d-%b-%y"].map fun format => builtins.strptime candidate format
    (candidates.findSome? id).or (builtins.fromisoformat (text.replace "Z" "+00:00"))
where
  /-- `text[:length]`. -/
  takeText (length : Nat) (text : String) : String := String.ofList (text.toList.take length)

/-- `Decimal(str(first or second or "0"))`. -/
def amount (builtins : Builtins) (first second : PyValue) : Except BrokerError ℚ :=
  builtins.decimal (builtins.str ((first.or second).or (.text "0")))

/-- The position of a row; its traded quantities and profits are read too. -/
def positionOfRow (builtins : Builtins) (value : PyValue) :
    Except BrokerError BrokerPositionResponse := do
  let entries ← value.row
  let quantity ← builtins.int (get entries "quantity" (.int 0))
  let _ ← builtins.int (get entries "buy_quantity" (.int 0))
  let _ ← builtins.int (get entries "sell_quantity" (.int 0))
  let averagePrice ←
    amount builtins (get entries "average_price" .none) (get entries "buy_price" .none)
  let _ ← amount builtins (get entries "ltp" .none) (get entries "current_price" .none)
  let _ ← amount builtins (get entries "realized_profit" .none) .none
  let _ ← amount builtins (get entries "unrealized_profit" .none) .none
  let rightRaw := lower (builtins.str (get entries "right" (.text "")))
  let strikePrice ←
    if (get entries "strike_price" .none).truthy then
      (builtins.decimal (builtins.str (get entries "strike_price" .none))).map some
    else pure none
  return {
    stockCode := builtins.str (get entries "stock_code" (.text ""))
    quantity
    averagePrice
    strikePrice
    right :=
      if BreezeResponseValidator.mentions ["call"] rightRaw then some "call"
      else if BreezeResponseValidator.mentions ["put"] rightRaw then some "put"
      else none
    expiryDate := parseOptionalExpiry builtins
      ((get entries "expiry_date" .none).or (get entries "expiry" .none)) }

/-- The broker's way of saying that it holds nothing. -/
def reportsNoPositions : BrokerError → Bool
  | .other "BrokerUnknownError" message =>
    BreezeResponseValidator.mentions ["no positions available"] (lower message)
  | _ => false

/-- The rows of a validated payload. -/
def rowsOf : PyValue → List PyValue
  | .list rows => rows
  | _ => []

/-- Fetch the portfolio positions from Breeze. -/
def getPositions (builtins : Builtins) (reads : PortfolioReads) :
    Except BrokerError (List BrokerPositionResponse) := do
  reads.acquireRead
  if ¬(reads.status = .active ∧ reads.hasSdk = true) then
    throw (.sessionExpired ("Broker session is not active (current status: " ++
      reads.status.value ++ "). Please generate and activate a daily session token."))
  else do
    let raw ← reads.portfolioPositions
    match BreezeResponseValidator.validateAndExtract builtins "get_positions" raw with
    | .error error => if reportsNoPositions error then return [] else throw error
    | .ok data => (rowsOf data).mapM (positionOfRow builtins)

end BreezeTradingAdapter

/-- The positions of the Breeze adapter; keys of the test harness have none. -/
def IciciBreezeAdapter.getPositions (adapter : IciciBreezeAdapter) (builtins : Builtins)
    (reads : BreezeTradingAdapter.PortfolioReads) :
    Except BrokerError (List BrokerPositionResponse) :=
  if adapter.testing then return []
  else BreezeTradingAdapter.getPositions builtins reads

/-! ### The gateway -/

inductive BrokerBackend where
  | breeze
  | kite
  deriving DecidableEq, Repr

/-- The gateway at a position read: its adapters, the broker configured for LIVE execution, and
what each client answers or raises. -/
structure BrokerGatewayService where
  brokerBackend : BrokerBackend
  kiteAdapter : ZerodhaKiteAdapter
  breezeAdapter : IciciBreezeAdapter
  builtins : Builtins
  kitePositions : Except BrokerError PyValue
  breezeReads : BreezeTradingAdapter.PortfolioReads
  paperPositions : List BrokerPositionResponse

namespace BrokerGatewayService

/-- The positions of the LIVE execution adapter, or of the paper adapter. -/
def getPositions (gateway : BrokerGatewayService) (mode : TradingMode) :
    Except BrokerError (List BrokerPositionResponse) :=
  if mode = .live then
    match gateway.brokerBackend with
    | .kite => gateway.kiteAdapter.getPositions gateway.builtins gateway.kitePositions
    | .breeze => gateway.breezeAdapter.getPositions gateway.builtins gateway.breezeReads
  else return gateway.paperPositions

end BrokerGatewayService

/-! ### What the broker reported

The rows the broker reported, when it was asked and answered with a list of its positions or with
the message that it has none. -/

namespace ZerodhaKiteAdapter

def reported (adapter : ZerodhaKiteAdapter) :
    Except BrokerError PyValue → Option (List PyValue)
  | .ok (.dict entries) =>
    if adapter.isActive then
      match entries.lookup "net" with
      | some (.list rows) => some rows
      | _ => none
    else none
  | _ => none

end ZerodhaKiteAdapter

namespace BreezeTradingAdapter

def reported (builtins : Builtins) (reads : PortfolioReads) : Option (List PyValue) :=
  match reads.acquireRead, reads.portfolioPositions with
  | .ok _, .ok raw =>
    if reads.status = .active ∧ reads.hasSdk = true then
      match BreezeResponseValidator.validateAndExtract builtins "get_positions" raw with
      | .ok (.list rows) => some rows
      | .ok _ => none
      | .error error => if reportsNoPositions error then some [] else none
    else none
  | _, _ => none

end BreezeTradingAdapter

namespace BrokerGatewayService

def reported (gateway : BrokerGatewayService) : Option (List PyValue) :=
  match gateway.brokerBackend with
  | .kite => gateway.kiteAdapter.reported gateway.kitePositions
  | .breeze =>
    if gateway.breezeAdapter.testing then none
    else BreezeTradingAdapter.reported gateway.builtins gateway.breezeReads

end BrokerGatewayService

/-! ### When a read shows what was reported -/

/-- A Kite reply carries net positions: a value a loop can fail on or run through, not the
absence of one. -/
def ListsNet : PyValue → Prop
  | .dict entries => ∃ net, entries.lookup "net" = some net ∧ net ≠ .text "" ∧ net ≠ .dict []
  | _ => False

/-- The adapter of the configured broker has a session of its own to ask with, and what the
client answers without an error has the shape of positions. -/
def Readable (gateway : BrokerGatewayService) : Prop :=
  match gateway.brokerBackend with
  | .kite => gateway.kiteAdapter.isActive = true ∧
      ∀ reply, gateway.kitePositions = .ok reply → ListsNet reply
  | .breeze => gateway.breezeAdapter.testing = false ∧
      (gateway.breezeReads.acquireRead = .ok () → gateway.breezeReads.status = .active →
        gateway.breezeReads.hasSdk = true → ∀ reply payload,
        gateway.breezeReads.portfolioPositions = .ok reply →
        BreezeResponseValidator.validateAndExtract gateway.builtins "get_positions" reply =
          .ok payload → ∃ rows, payload = .list rows)

open Fallible

section

variable {read : PyValue → Except BrokerError BrokerPositionResponse} {rows : List PyValue}
  {positions : List BrokerPositionResponse}

theorem length_of_mapM (all : rows.mapM read = .ok positions) :
    rows.length = positions.length := by
  induction rows generalizing positions with
  | nil =>
    rw [List.mapM_nil] at all
    cases all
    rfl
  | cons value rest inductionHypothesis =>
    rw [List.mapM_cons] at all
    obtain ⟨position, _, all⟩ := ok_of_bind all
    obtain ⟨others, remaining, all⟩ := ok_of_bind all
    cases all
    rw [List.length_cons, List.length_cons, inductionHypothesis remaining]

theorem read_of_mapM {value : PyValue} (all : (value :: rows).mapM read = .ok positions) :
    ∃ position, read value = .ok position := by
  rw [List.mapM_cons] at all
  obtain ⟨position, first, _⟩ := ok_of_bind all
  exact ⟨position, first⟩

end

variable {gateway : BrokerGatewayService}

/-- What a loop over the value runs through is the value itself, when a position can be read of
each of it and it is not an empty text or dictionary. -/
theorem ZerodhaKiteAdapter.list_of_iterate {builtins : Builtins} {net : PyValue}
    {rows : List PyValue} {positions : List BrokerPositionResponse}
    (text : net ≠ .text "") (dict : net ≠ .dict []) (iterated : net.iterate = .ok rows)
    (all : rows.mapM (positionOfRow builtins) = .ok positions) : net = .list rows := by
  cases net with
  | list values =>
    cases iterated
    rfl
  | dict entries =>
    cases entries with
    | nil => exact absurd rfl dict
    | cons entry rest =>
      cases iterated
      obtain ⟨position, unread⟩ := read_of_mapM all
      exact nomatch unread
  | text value =>
    cases characters : value.toList with
    | nil => exact absurd (by rw [String.toList_eq_nil_iff.mp characters]) text
    | cons character rest =>
      rw [PyValue.iterate, characters] at iterated
      cases iterated
      obtain ⟨position, unread⟩ := read_of_mapM all
      exact nomatch unread
  | none | bool | int | float => exact nomatch iterated

theorem Readable.reported (readable : Readable gateway) {positions : List BrokerPositionResponse}
    (returned : gateway.getPositions .live = .ok positions) :
    ∃ rows, gateway.reported = some rows ∧ rows.length = positions.length := by
  unfold Readable at readable
  unfold BrokerGatewayService.getPositions at returned
  unfold BrokerGatewayService.reported
  rw [if_pos rfl] at returned
  cases backend : gateway.brokerBackend with
  | kite =>
    simp only [backend] at readable returned ⊢
    obtain ⟨active, lists⟩ := readable
    rw [ZerodhaKiteAdapter.getPositions, if_neg (by simp [active])] at returned
    obtain ⟨data, answered, returned⟩ := ok_of_bind returned
    obtain ⟨rows, iterated, all⟩ := ok_of_bind returned
    have listsNet := lists data answered
    cases data with
    | dict entries =>
      obtain ⟨net, found, text, dict⟩ := listsNet
      rw [ZerodhaKiteAdapter.netRows, get, found, Option.getD_some] at iterated
      obtain rfl := ZerodhaKiteAdapter.list_of_iterate text dict iterated all
      exact ⟨rows, by simp [ZerodhaKiteAdapter.reported, answered, active, found],
        length_of_mapM all⟩
    | _ => exact listsNet.elim
  | breeze =>
    simp only [backend] at readable returned ⊢
    obtain ⟨real, shaped⟩ := readable
    rw [IciciBreezeAdapter.getPositions, if_neg (by simp [real])] at returned
    obtain ⟨permit, permitted, returned⟩ := ok_of_bind returned
    by_cases active : gateway.breezeReads.status = .active ∧ gateway.breezeReads.hasSdk = true
    swap
    · rw [if_pos active] at returned
      exact nomatch returned
    rw [if_neg (not_not.mpr active)] at returned
    obtain ⟨raw, answered, returned⟩ := ok_of_bind returned
    rw [real, if_neg Bool.false_ne_true, BreezeTradingAdapter.reported, permitted, answered]
    simp only [active, and_self, if_true]
    cases extracted :
        BreezeResponseValidator.validateAndExtract gateway.builtins "get_positions" raw with
    | ok payload =>
      obtain ⟨rows, rfl⟩ := shaped permitted active.1 active.2 raw payload answered extracted
      rw [extracted] at returned
      exact ⟨rows, rfl, length_of_mapM returned⟩
    | error error =>
      simp only [extracted] at returned ⊢
      by_cases none : BreezeTradingAdapter.reportsNoPositions error = true
      · rw [if_pos none] at returned ⊢
        cases returned
        exact ⟨[], rfl, rfl⟩
      · rw [if_neg none] at returned
        exact nomatch returned

theorem ZerodhaKiteAdapter.empty_of_unlisted {adapter : ZerodhaKiteAdapter} {builtins : Builtins}
    {positions : Except BrokerError PyValue} {reply : PyValue} (active : adapter.isActive = true)
    (answered : positions = .ok reply) (unlisted : ¬ListsNet reply) :
    adapter.getPositions builtins positions = .ok [] ∧ adapter.reported positions = none := by
  rw [getPositions, if_neg (by simp [active]), answered]
  cases reply with
  | dict entries =>
    simp only [ListsNet, netRows, get, reported, active, if_true, bind, Except.bind]
      at unlisted ⊢
    cases found : entries.lookup "net" with
    | none => exact ⟨rfl, rfl⟩
    | some net =>
      rcases Classical.em (net = .text "") with rfl | text
      · exact ⟨rfl, rfl⟩
      rcases Classical.em (net = .dict []) with rfl | dict
      · exact ⟨rfl, rfl⟩
      exact absurd ⟨net, found, text, dict⟩ unlisted
  | _ => exact ⟨rfl, rfl⟩

theorem empty_of_not_readable (unreadable : ¬Readable gateway) :
    gateway.getPositions .live = .ok [] ∧ gateway.reported = none := by
  unfold Readable at unreadable
  unfold BrokerGatewayService.getPositions BrokerGatewayService.reported
  rw [if_pos rfl]
  cases backend : gateway.brokerBackend with
  | kite =>
    simp only [backend] at unreadable ⊢
    by_cases active : gateway.kiteAdapter.isActive = true
    swap
    · have offline : gateway.kiteAdapter.isActive = false := Bool.not_eq_true _ ▸ active
      refine ⟨by rw [ZerodhaKiteAdapter.getPositions, if_pos offline]; rfl, ?_⟩
      unfold ZerodhaKiteAdapter.reported
      split
      · rw [if_neg active]
      · rfl
    obtain ⟨reply, answered, unlisted⟩ : ∃ reply, gateway.kitePositions = .ok reply ∧
        ¬ListsNet reply := by
      simpa only [active, true_and, not_forall, exists_prop] using unreadable
    exact ZerodhaKiteAdapter.empty_of_unlisted active answered unlisted
  | breeze =>
    simp only [backend] at unreadable ⊢
    by_cases testing : gateway.breezeAdapter.testing = true
    · exact ⟨by rw [IciciBreezeAdapter.getPositions, if_pos testing]; rfl, if_pos testing⟩
    have real : gateway.breezeAdapter.testing = false := Bool.not_eq_true _ ▸ testing
    simp only [real, true_and, not_forall, exists_prop] at unreadable
    obtain ⟨permitted, active, hasSdk, raw, payload, answered, extracted, unshaped⟩ := unreadable
    rw [IciciBreezeAdapter.getPositions, if_neg testing, if_neg testing,
      BreezeTradingAdapter.getPositions, BreezeTradingAdapter.reported, permitted, answered]
    simp only [active, hasSdk, and_self, not_true_eq_false, if_false, if_true, bind, Except.bind,
      extracted]
    cases payload with
    | list rows => exact absurd ⟨rows, rfl⟩ unshaped
    | _ => exact ⟨rfl, rfl⟩

end BreezeTrading.BrokerGateway
