/-
This file models the builder of candles from live quotes. For each instrument it keeps the bar in
progress and the last quote it accepted. A quote that is not newer is dropped; one of another source
starts a bar of its own; one of a later bar completes the bar in progress.
-/

import BreezeTrading.Lib.PerKey
import BreezeTrading.Strategy.Models
import Mathlib.Algebra.Order.Ring.Rat

namespace BreezeTrading

/-- A live quote, as far as it is read here. Times are microseconds in UTC. -/
structure MarketQuote where
  source : String
  instrumentId : String
  symbol : String
  lastPrice : ℚ
  volume : Int
  openInterest : Int
  timestamp : Int
  deriving DecidableEq

/-- The builder for bars of some minutes. -/
structure CandleBuilder where
  intervalMinutes : Nat
  positive : 0 < intervalMinutes

namespace CandleBuilder

/-- A bar in progress. -/
structure Bar where
  startTime : Int
  openPrice : ℚ
  high : ℚ
  low : ℚ
  close : ℚ
  volume : Int
  openInterest : Int
  source : String
  deriving DecidableEq

/-- A bar that is completed. -/
structure CompletedCandle extends Bar where
  instrumentId : String
  interval : String
  endTime : Int
  deriving DecidableEq

/-- What is kept of an instrument: `_current_candles` and `_last_quotes`. -/
structure Feed where
  current : Option Bar
  previous : Option MarketQuote

def Feed.empty : Feed := ⟨none, none⟩

/-- `_get_bar_start`: the minute of the hour, down to a multiple of the interval. -/
def barStart (builder : CandleBuilder) (moment : Int) : Int :=
  moment - moment % 3600000000 +
    moment % 3600000000 / 60000000 / builder.intervalMinutes * builder.intervalMinutes * 60000000

/-- A quote is newer than the last one. -/
def accepts (previous : Option MarketQuote) (quote : MarketQuote) : Bool :=
  previous.all fun last => decide (last.timestamp < quote.timestamp)

/-- What a quote adds to the volume of the day, on one feed and one day. -/
def volumeDelta (previous : Option MarketQuote) (quote : MarketQuote) : Int :=
  previous.elim 0 fun last =>
    if last.source = quote.source ∧ istDay last.timestamp = istDay quote.timestamp then
      max 0 (quote.volume - last.volume)
    else 0

/-- The bar of a first quote. -/
def Bar.ofQuote (start delta : Int) (quote : MarketQuote) : Bar where
  startTime := start
  openPrice := quote.lastPrice
  high := quote.lastPrice
  low := quote.lastPrice
  close := quote.lastPrice
  volume := delta
  openInterest := quote.openInterest
  source := quote.source

/-- A bar with one more quote. -/
def Bar.add (bar : Bar) (delta : Int) (quote : MarketQuote) : Bar :=
  { bar with
    high := max bar.high quote.lastPrice
    low := min bar.low quote.lastPrice
    close := quote.lastPrice
    volume := bar.volume + delta
    openInterest := quote.openInterest }

def complete (builder : CandleBuilder) (instrumentId : String) (bar : Bar) : CompletedCandle where
  toBar := bar
  instrumentId
  interval := toString builder.intervalMinutes ++ "m"
  endTime := bar.startTime + builder.intervalMinutes * 60000000

/-- The bar in progress, where it is of the source of a quote. -/
def active (current : Option Bar) (quote : MarketQuote) : Option Bar :=
  current.filter fun bar => decide (bar.source = quote.source)

/-- The bar in progress after a quote that adds to the volume. -/
def nextBar (builder : CandleBuilder) (current : Option Bar) (delta : Int) (quote : MarketQuote) :
    Bar :=
  ((active current quote).filter fun bar =>
    decide (bar.startTime = builder.barStart quote.timestamp)).elim
      (Bar.ofQuote (builder.barStart quote.timestamp) delta quote) fun bar => bar.add delta quote

/-- The candle that a quote of a later bar completes. -/
def completedBy (builder : CandleBuilder) (current : Option Bar) (quote : MarketQuote) :
    Option CompletedCandle :=
  ((active current quote).filter fun bar =>
    decide (bar.startTime ≠ builder.barStart quote.timestamp)).map
      (builder.complete quote.instrumentId)

/-- `process_quote`, for the instrument of the quote: what it leaves, and the candle it returns. -/
def processQuote (builder : CandleBuilder) (feed : Feed) (quote : MarketQuote) :
    Feed × Option CompletedCandle :=
  if accepts feed.previous quote then
    (⟨some (builder.nextBar feed.current (volumeDelta feed.previous quote) quote), some quote⟩,
      builder.completedBy feed.current quote)
  else (feed, none)

def feedStep (builder : CandleBuilder) (feed : Feed) (quote : MarketQuote) : Feed :=
  (builder.processQuote feed quote).1

def feedEmit (builder : CandleBuilder) (feed : Feed) (quote : MarketQuote) :
    Option CompletedCandle :=
  (builder.processQuote feed quote).2

/-- The feeds of all instruments after quotes. -/
def run (builder : CandleBuilder) (quotes : List MarketQuote) : String → Feed :=
  quotes.foldl (PerKey.keyedStep MarketQuote.instrumentId builder.feedStep) fun _ => Feed.empty

/-- The candles that quotes complete, in their order. -/
def emitted (builder : CandleBuilder) (quotes : List MarketQuote) : List CompletedCandle :=
  Run.outputs (PerKey.keyedStep MarketQuote.instrumentId builder.feedStep)
    (PerKey.keyedEmit MarketQuote.instrumentId builder.feedEmit) (fun _ => Feed.empty) quotes

end CandleBuilder

end BreezeTrading
