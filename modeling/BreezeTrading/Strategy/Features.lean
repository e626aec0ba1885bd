/-
This file models the candles the strategies read, with what is checked of them, and the features
that the strategies compute from closes.
-/

import BreezeTrading.Strategy.ReplayExecution

namespace BreezeTrading

/-- A candle as the market data services keep it. -/
structure MarketCandle extends InstrumentCandle where
  interval : String
  volume : Int
  source : String
  deriving DecidableEq

/-- The sources of real market data. -/
def realSources : List String := ["BREEZE", "KITE", "LIVE"]

/-- A completed five-minute bar of a real source. -/
def MarketCandle.isReal5m (candle : MarketCandle) : Bool :=
  decide (candle.interval = "5m" ∧ candle.source ∈ realSources)

/-- `items[-count:]`. -/
def lastItems {Item : Type} (count : Nat) (items : List Item) : List Item :=
  if count = 0 then items else items.drop (items.length - count)

theorem lastItems_sublist {Item : Type} (count : Nat) (items : List Item) :
    (lastItems count items).Sublist items := by
  unfold lastItems
  split_ifs
  · exact List.Sublist.refl items
  · exact List.drop_sublist _ items

theorem lastItems_length_le {Item : Type} {count : Nat} (positive : 0 < count)
    (items : List Item) : (lastItems count items).length ≤ count := by
  unfold lastItems
  rw [if_neg positive.ne', List.length_drop]
  omega

theorem lastItems_map {Item Image : Type} (image : Item → Image) (count : Nat)
    (items : List Item) : lastItems count (items.map image) = (lastItems count items).map image := by
  unfold lastItems
  split_ifs
  · rfl
  · rw [List.length_map, List.map_drop]

namespace FeatureEngine

def mean (numbers : List ℚ) : ℚ := numbers.sum / numbers.length

/-- The exponential moving average of closes: it starts from the mean of the first ones. -/
def calculateEma (closes : List ℚ) (period : Nat) : ℚ :=
  if closes = [] then 0
  else if closes.length < period then mean closes
  else
    let k : ℚ := 2 / (period + 1)
    roundTo 2 ((closes.drop period).foldl (fun ema price => price * k + ema * (1 - k))
      ((closes.take period).sum / period))

end FeatureEngine

end BreezeTrading
