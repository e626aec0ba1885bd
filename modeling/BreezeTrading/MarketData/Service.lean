/-
This file models the service of the live quotes: the cache of the latest ones, which is written
under the id and under the symbol of an instrument, what is published of a quote, and the health of
the feed that guards live entries.
-/

import BreezeTrading.MarketData.CandleBuilder
import BreezeTrading.Strategy.RiskGates

namespace BreezeTrading

/-! ### The cache -/

structure MarketDataService where
  quotes : String → Option MarketQuote
  lastTickTime : Option Int
  candleBuilder1m : String → CandleBuilder.Feed
  candleBuilder5m : String → CandleBuilder.Feed

/-- What is published: `MARKET_QUOTE` and `MARKET_CANDLE`. -/
inductive MarketEvent where
  | quote (payload : MarketQuote)
  | candle (payload : CandleBuilder.CompletedCandle)
  deriving DecidableEq

namespace MarketDataService

def empty : MarketDataService where
  quotes := fun _ => none
  lastTickTime := none
  candleBuilder1m := fun _ => CandleBuilder.Feed.empty
  candleBuilder5m := fun _ => CandleBuilder.Feed.empty

def oneMinute : CandleBuilder := ⟨1, by decide⟩

def fiveMinutes : CandleBuilder := ⟨5, by decide⟩

def updateQuote (service : MarketDataService) (quote : MarketQuote) : MarketDataService :=
  { service with
    quotes := Function.update (Function.update service.quotes quote.instrumentId (some quote))
      quote.symbol (some quote)
    lastTickTime := some quote.timestamp }

def buildCandle (builder : CandleBuilder) (feeds : String → CandleBuilder.Feed)
    (quote : MarketQuote) : (String → CandleBuilder.Feed) × Option CandleBuilder.CompletedCandle :=
  (PerKey.keyedStep MarketQuote.instrumentId builder.feedStep feeds quote,
    PerKey.keyedEmit MarketQuote.instrumentId builder.feedEmit feeds quote)

/-- `ingest_quote`: what it leaves, and what it publishes. -/
def ingestQuote (service : MarketDataService) (quote : MarketQuote) :
    MarketDataService × List MarketEvent :=
  let updated := service.updateQuote quote
  let c1 := buildCandle oneMinute updated.candleBuilder1m quote
  let c5 := buildCandle fiveMinutes updated.candleBuilder5m quote
  ({ updated with candleBuilder1m := c1.1, candleBuilder5m := c5.1 },
    .quote quote :: (c1.2.toList ++ c5.2.toList).map .candle)

def getLatestQuote (service : MarketDataService) (symbolOrId : String) : Option MarketQuote :=
  service.quotes symbolOrId

/-! ### Health -/

/-- The sources of quotes from a market. -/
def realProviders : List String := ["BREEZE", "KITE", "LIVE"]

/-- Three digits of a number below a thousand. -/
def threeDigits (number : Nat) : String :=
  toString (number / 100) ++ toString (number / 10 % 10) ++ toString (number % 10)

/-- A number of seconds with three decimals. -/
def seconds3 (seconds : ℚ) : String :=
  let thousandths := roundHalfEven (seconds * 1000)
  (if seconds < 0 then "-" else "") ++ toString (thousandths.natAbs / 1000) ++ "." ++
    threeDigits (thousandths.natAbs % 1000) ++ "s"

def reportedSource (quote : MarketQuote) : String :=
  (if quote.source = "" then "UNKNOWN" else quote.source).toUpper

/-- The age of a quote in seconds, negative where it is of the future. -/
def rawAgeSeconds (now : Int) (quote : MarketQuote) : ℚ := (now - quote.timestamp : ℚ) / 1000000

def ageSeconds (now : Int) (quote : MarketQuote) : ℚ := max 0 (rawAgeSeconds now quote)

/-- What is wrong with the quote of an instrument. -/
def quoteReasons (now : Int) (maxAgeSeconds : ℚ) (instrumentId : String) (quote : MarketQuote) :
    List String :=
  (if reportedSource quote ∉ realProviders then
    ["NON_REAL_QUOTE:" ++ instrumentId ++ ":" ++ reportedSource quote] else []) ++
  (if quote.lastPrice ≤ 0 then ["INVALID_QUOTE_PRICE:" ++ instrumentId] else []) ++
  (if rawAgeSeconds now quote < -1 then
    ["FUTURE_EXCHANGE_TIMESTAMP:" ++ instrumentId ++ ":" ++ seconds3 (rawAgeSeconds now quote)]
    else []) ++
  if maxAgeSeconds < ageSeconds now quote then
    ["STALE_EXCHANGE_QUOTE:" ++ instrumentId ++ ":" ++ seconds3 (ageSeconds now quote)] else []

/-- What is wrong with the feed of an instrument. -/
def instrumentReasons (service : MarketDataService) (now : Int) (maxAgeSeconds : ℚ)
    (instrumentId : String) : List String :=
  (service.getLatestQuote instrumentId).elim ["MISSING_QUOTE:" ++ instrumentId]
    (quoteReasons now maxAgeSeconds instrumentId)

structure QuoteReport where
  instrumentId : String
  source : String
  exchangeTimestamp : Int
  ageSeconds : ℚ
  lastPrice : ℚ
  deriving DecidableEq

def quoteReport (now : Int) (instrumentId : String) (quote : MarketQuote) : QuoteReport where
  instrumentId
  source := reportedSource quote
  exchangeTimestamp := quote.timestamp
  ageSeconds := roundTo 3 (MarketDataService.ageSeconds now quote)
  lastPrice := quote.lastPrice

structure ExecutionFeedHealth where
  healthy : Bool
  status : String
  brokerActive : Bool
  maxAgeSeconds : ℚ
  quotes : List QuoteReport
  reasons : List String
  checkedAt : Int
  deriving DecidableEq

/-- `get_execution_feed_health`: a feed is healthy that nothing is wrong with. -/
def getExecutionFeedHealth (service : MarketDataService) (brokerActive : Bool)
    (instrumentIds : List String) (maxAgeSeconds : ℚ) (now : Int) : ExecutionFeedHealth :=
  let reasons := (if brokerActive then [] else ["BROKER_SESSION_INACTIVE"]) ++
    instrumentIds.flatMap (service.instrumentReasons now maxAgeSeconds)
  { healthy := decide (reasons = [])
    status := if reasons = [] then "LIVE" else "BLOCKED"
    brokerActive
    maxAgeSeconds
    quotes := instrumentIds.filterMap fun instrumentId =>
      (service.getLatestQuote instrumentId).map (quoteReport now instrumentId)
    reasons
    checkedAt := now }

/-! ### Arrivals -/

/-- How a quote comes to the cache: as a seed, or from a feed. -/
inductive Arrival where
  | seeded (quote : MarketQuote)
  | ingested (quote : MarketQuote)
  deriving DecidableEq

def Arrival.quote : Arrival → MarketQuote
  | .seeded quote => quote
  | .ingested quote => quote

def receive (service : MarketDataService) : Arrival → MarketDataService
  | .seeded quote => service.updateQuote quote
  | .ingested quote => (service.ingestQuote quote).1

def after (arrivals : List Arrival) : MarketDataService := arrivals.foldl receive empty

end MarketDataService

end BreezeTrading
