/-
This file defines the data of the Strategy D paper monitor: the frozen signal and the
underlying lifecycle it is followed through, the quotes of its option contract, and the
row in which the monitor tracks the parallel paper position. A row has two ends that
are kept apart: the underlying lifecycle resolves, and the paper position is closed.
-/

import BreezeTrading.Strategy.Sizing
import BreezeTrading.Strategy.Trades

namespace BreezeTrading

namespace PaperMonitor

/-! ### Signals and their underlying lifecycle -/

/-- The frozen signal, with what the monitor reads of it. Its id is the digest of its identity. -/
structure PaperSignal where
  signalId : String
  direction : TradeDirection
  optionType : String
  timestamp : Int
  breakoutLevelName : String
  entryPrice : ℚ
  initialStop : ℚ
  riskPoints : ℚ
  deriving DecidableEq

/-- Why the replay of an underlying lifecycle ended. `dataEnd` is no exit: the candles ended
first. -/
inductive RunnerExit where
  | dataEnd
  | atrHardStop
  | breakevenStop
  | breakevenStop1mAmbiguous
  | breakevenStop5mAmbiguous
  | nextPivot (name : String)
  | ema9CloseCross
  | sessionForceExit
  deriving DecidableEq, Repr

/-- What the replay of an underlying lifecycle comes to over the candles so far. -/
structure Lifecycle where
  exitTime : Int
  runnerExitReason : RunnerExit
  runnerExitPrice : ℚ
  realizedR : ℚ
  scaleOutTime : Option Int
  scaleOutPrice : Option ℚ
  finalStop : ℚ
  deriving DecidableEq

def Lifecycle.resolved (lifecycle : Lifecycle) : Bool :=
  decide (lifecycle.runnerExitReason ≠ .dataEnd)

/-! ### Quotes -/

/-- The providers of real candles and quotes. -/
def realSources : List String := ["BREEZE", "KITE", "LIVE"]

/-- The latest quote of the market data service. A timestamp without a zone counts as none. -/
structure LiveQuote where
  timestamp : Option Int
  source : String
  bestBid : ℚ
  bestAsk : ℚ
  lastPrice : ℚ
  deriving DecidableEq

/-- One side of a strike of the option chain. -/
structure ChainLeg where
  instrumentId : String
  bid : ℚ
  ask : ℚ
  ltp : ℚ
  deriving DecidableEq

structure ChainStrike where
  call : Option ChainLeg
  put : Option ChainLeg
  deriving DecidableEq

/-- The option chain, with the time it was captured at. -/
structure PaperChain where
  source : String
  capturedAt : Option Int
  strikes : List ChainStrike
  deriving DecidableEq

/-- The contract a paper position is held in. -/
structure PaperContract where
  instrumentId : String
  optionType : OptionType
  lotSize : Int
  askPrice : ℚ
  bidPrice : ℚ
  ltp : ℚ
  deriving DecidableEq

/-- The quote a contract was resolved to. -/
structure PaperQuote where
  valid : Bool
  reason : Option String
  quoteTimestamp : Option Int
  source : String
  bid : ℚ
  ask : ℚ
  ltp : ℚ
  deriving DecidableEq

/-- There is no quote, for a reason. -/
def PaperQuote.unavailable (reason : String) : PaperQuote :=
  ⟨false, some reason, none, "", 0, 0, 0⟩

/-- `_get_chain`: a chain that fails, or does not come from a provider, is unavailable. -/
def getChain : Except Raised PaperChain → PaperChain
  | .error _ => ⟨"UNAVAILABLE", none, []⟩
  | .ok chain =>
      if chain.source.toUpper ∈ realSources then chain else { chain with source := "UNAVAILABLE" }

/-- The age of something at a time. -/
def ageAt (now timestamp : Int) : Int := max 0 (now - timestamp)

/-- The quote is executable: real, at most half a minute old, and not crossed. -/
def executable (source : String) (age : Option Int) (bid ask : ℚ) : Bool :=
  decide (source ∈ realSources) && age.any (fun age => decide (age ≤ 30000000)) &&
    decide (0 < bid) && decide (bid ≤ ask)

/-- The latest quote of the market data service, where it is executable. -/
def liveQuote (latest : Option LiveQuote) (now : Int) : Option PaperQuote :=
  latest.bind fun quote =>
    if executable quote.source.toUpper (quote.timestamp.map (ageAt now)) quote.bestBid
        quote.bestAsk then
      some ⟨true, none, quote.timestamp, quote.source.toUpper, quote.bestBid, quote.bestAsk,
        quote.lastPrice⟩
    else none

/-- The legs of a chain on the side of an option. -/
def legsOf (chain : PaperChain) (optionType : OptionType) : List ChainLeg :=
  chain.strikes.filterMap fun strike => if optionType = .call then strike.call else strike.put

def chainQuote (chain : PaperChain) (contract : PaperContract) (now : Int) : PaperQuote :=
  match (legsOf chain contract.optionType).find? fun leg =>
      decide (leg.instrumentId = contract.instrumentId) with
  | none => .unavailable "SELECTED_CONTRACT_NOT_IN_CHAIN"
  | some leg =>
      let quoteTime := chain.capturedAt.getD now
      let valid := executable chain.source.toUpper (some (ageAt now quoteTime)) leg.bid leg.ask
      ⟨valid, if valid then none else some "INVALID_OR_STALE_QUOTE", some quoteTime,
        chain.source.toUpper, leg.bid, leg.ask, leg.ltp⟩

/-- `_quote_for_contract`: the latest quote, or else the one of the chain. A row without a
contract has no quote. -/
def quoteForContract (latest : Except Raised (Option LiveQuote))
    (chain : Except Raised PaperChain) (contract : Option PaperContract) (now : Int) :
    Except Raised PaperQuote :=
  match contract with
  | none => .ok (.unavailable "MISSING_INSTRUMENT_ID")
  | some contract =>
      if contract.instrumentId = "" then .ok (.unavailable "MISSING_INSTRUMENT_ID")
      else match latest with
        | .error error => .error error
        | .ok latest =>
            .ok ((liveQuote latest now).getD (chainQuote (getChain chain) contract now))

/-! ### Rows -/

/-- What has become of the paper position of a row. -/
inductive PaperStatus where
  | opened
  | skipped
  | exitQuotePending
  | closed
  | incompleteT1Quote
  | incompleteExitQuote
  deriving DecidableEq, Repr

/-- What has become of the partial exit of a row. -/
inductive PartialStatus where
  | notReached
  | t1QuotePending
  | oneLotNoPartial
  | incompleteT1Quote
  | filled
  deriving DecidableEq, Repr

/-- The charges of a paper position. -/
structure PaperSettlement where
  paperExitTime : Int
  exitUnderlyingTime : Int
  exitFill : ℚ
  grossPnl : ℚ
  transactionCosts : ℚ
  netPnl : ℚ
  underlyingRealizedR : ℚ
  underlyingExitReason : RunnerExit
  deriving DecidableEq

/-- A tracked signal with its paper position. `enteredAs` is the paper status the row was captured
with; nothing reads it. -/
structure PaperRow where
  signal : PaperSignal
  entryObservedAt : Int
  signalToObservation : Int
  contract : Option PaperContract
  selectorRejectionReason : Option String
  entryRawAsk : Option ℚ
  entryExecutablePrice : Option ℚ
  lots : Int
  quantity : Int
  initialQuantity : Int
  remainingQuantity : Int
  enteredAs : PaperStatus
  status : PaperStatus
  rejectionReason : Option String
  partialStatus : PartialStatus := .notReached
  partialQuantity : Int := 0
  partialFill : Option ℚ := none
  partialTime : Option Int := none
  realizedGross : ℚ := 0
  sellLegs : List (ℚ × Int) := []
  unrealizedPnl : Option ℚ := none
  settlement : Option PaperSettlement := none
  currentUnderlyingStop : ℚ
  currentR : ℚ := 0
  lifecycleState : TradeLifecycleState := .openInitialRisk
  ema9 : Option ℚ := none
  lastQuote : Option PaperQuote := none
  scaleOutTime : Option Int := none
  scaleOutPrice : Option ℚ := none
  underlyingExitReason : Option RunnerExit := none
  underlyingExitTime : Option Int := none
  underlyingExitPrice : Option ℚ := none
  underlyingRealizedR : Option ℚ := none
  deriving DecidableEq

/-- The underlying lifecycle of the row has resolved. -/
def PaperRow.resolved (row : PaperRow) : Bool := row.underlyingExitReason.isSome

/-- The row stands for an open paper position: it suppresses a new signal. -/
def PaperRow.blocks (row : PaperRow) : Bool :=
  decide (row.status = .opened ∨ row.status = .exitQuotePending)

/-! ### Costs -/

/-- Exit about half the position while preserving whole exchange lots. -/
def scaleOutLots (totalLots : Int) : Int := if 2 ≤ totalLots then totalLots / 2 else 0

/-- What the monitor is configured with. -/
structure MonitorConfig where
  costs : PaperCosts
  sizing : SizingLimits
  deriving DecidableEq

/-- The transaction costs of a paper position. -/
def paperCosts (costs : PaperCosts) (entryPrice : ℚ) (entryQuantity : Int)
    (sellLegs : List (ℚ × Int)) : ℚ :=
  if entryQuantity ≤ 0 then 0
  else
    let buyTurnover := entryPrice * entryQuantity
    let sellTurnover := (sellLegs.map fun leg => leg.1 * (leg.2 : ℚ)).sum
    let turnover := buyTurnover + sellTurnover
    let brokerage := roundTo 2 ((1 + sellLegs.length : ℚ) * costs.brokeragePerOrder)
    let exchange := roundTo 2 (turnover * costs.exchangeChargeRate)
    let stt := roundTo 2 (sellTurnover * costs.sttSellRate)
    let sebi := roundTo 2 (turnover * costs.sebiChargeRate)
    let stamp := roundTo 2 (buyTurnover * costs.stampBuyRate)
    let gst := roundTo 2 ((brokerage + exchange + sebi) * costs.gstRate)
    roundTo 2 (brokerage + exchange + stt + sebi + stamp + gst)

end PaperMonitor

end BreezeTrading
