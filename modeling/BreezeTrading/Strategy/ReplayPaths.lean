/-
This file puts ticks behind one-minute candles. A minute is its ticks, and its candle keeps their
first, highest, lowest and last; the minutes of a bar in the order of their starts are a path.
A candle touches a level exactly when one of its ticks does, so that what a resolver makes of
the candles can be compared with what happens on every path they may come from.
-/

import BreezeTrading.Lib.TickPath
import BreezeTrading.Strategy.ReplayIntrabar

namespace BreezeTrading.ReplayIntrabar

open TickPath

/-! ### Minutes -/

structure TickMinute where
  startTime : Int
  endTime : Int
  first : ℚ
  rest : List ℚ
  deriving DecidableEq

namespace TickMinute

def ticks (minute : TickMinute) : List ℚ := minute.first :: minute.rest

def candle (minute : TickMinute) : Candle where
  startTime := minute.startTime
  endTime := minute.endTime
  openPrice := minute.first
  high := minute.rest.foldl max minute.first
  low := minute.rest.foldl min minute.first
  close := minute.rest.getLastD minute.first

end TickMinute

/-- The minutes in the order of their starts. -/
def sortMinutes (minutes : List TickMinute) : List TickMinute :=
  minutes.insertionSort fun first second => first.startTime ≤ second.startTime

/-- The ticks of the minutes, in order. -/
def path (minutes : List TickMinute) : List ℚ := minutes.flatMap TickMinute.ticks

theorem sortByStart_map_candle (minutes : List TickMinute) :
    sortByStart (minutes.map TickMinute.candle) = (sortMinutes minutes).map TickMinute.candle := by
  exact (List.map_insertionSort _ _ TickMinute.candle minutes fun _ _ _ _ => Iff.rfl).symm

/-! ### Levels -/

section Levels

variable (direction : TradeDirection) (level : ℚ)

/-- A tick is at a stop or beyond it. -/
def AtStop (tick : ℚ) : Prop := hitsStop direction tick level = true

/-- A tick is at a favorable level or beyond it. -/
def AtLevel (tick : ℚ) : Prop := reachesLevel direction tick level = true

instance : DecidablePred (AtStop direction level) :=
  fun tick => inferInstanceAs (Decidable (hitsStop direction tick level = true))

instance : DecidablePred (AtLevel direction level) :=
  fun tick => inferInstanceAs (Decidable (reachesLevel direction tick level = true))

theorem le_foldl_max_iff (bound first : ℚ) (rest : List ℚ) :
    bound ≤ rest.foldl max first ↔ bound ≤ first ∨ ∃ tick ∈ rest, bound ≤ tick := by
  induction rest generalizing first with
  | nil => simp
  | cons tick rest inductionHypothesis =>
    rw [List.foldl_cons, inductionHypothesis, le_max_iff, or_assoc]
    simp only [List.mem_cons, exists_eq_or_imp]

theorem foldl_min_le_iff (bound first : ℚ) (rest : List ℚ) :
    rest.foldl min first ≤ bound ↔ first ≤ bound ∨ ∃ tick ∈ rest, tick ≤ bound := by
  induction rest generalizing first with
  | nil => simp
  | cons tick rest inductionHypothesis =>
    rw [List.foldl_cons, inductionHypothesis, min_le_iff, or_assoc]
    simp only [List.mem_cons, exists_eq_or_imp]

theorem stopHit_candle_iff (minute : TickMinute) :
    stopHit direction minute.candle level = true ↔ Touched (AtStop direction level) minute.ticks := by
  unfold TickMinute.ticks
  rw [touched_cons]
  cases direction
  · simpa [stopHit, hitsStop, AtStop, Touched, TickMinute.candle] using
      foldl_min_le_iff level minute.first minute.rest
  · simpa [stopHit, hitsStop, AtStop, Touched, TickMinute.candle] using
      le_foldl_max_iff level minute.first minute.rest

theorem levelHit_candle_iff (minute : TickMinute) :
    levelHit direction minute.candle level = true ↔
      Touched (AtLevel direction level) minute.ticks := by
  unfold TickMinute.ticks
  rw [touched_cons]
  cases direction
  · simpa [levelHit, reachesLevel, AtLevel, Touched, TickMinute.candle] using
      le_foldl_max_iff level minute.first minute.rest
  · simpa [levelHit, reachesLevel, AtLevel, Touched, TickMinute.candle] using
      foldl_min_le_iff level minute.first minute.rest

end Levels

/-- The second level is strictly on the favorable side of the first. -/
def Above (direction : TradeDirection) (first second : ℚ) : Prop :=
  if direction = .bullish then first < second else second < first

instance (direction : TradeDirection) (first second : ℚ) :
    Decidable (Above direction first second) :=
  inferInstanceAs (Decidable (if direction = .bullish then first < second else second < first))

theorem Above.trans {direction : TradeDirection} {first second third : ℚ}
    (above : Above direction first second) (beyond : Above direction second third) :
    Above direction first third := by
  cases direction
  · exact lt_trans (show first < second from above) beyond
  · exact lt_trans (show third < second from beyond) above

theorem not_atLevel_of_atStop {direction : TradeDirection} {stop level : ℚ}
    (above : Above direction stop level) (tick : ℚ) (atStop : AtStop direction stop tick) :
    ¬AtLevel direction level tick := by
  cases direction
  · have below : tick ≤ stop := of_decide_eq_true atStop
    exact fun reached => absurd (above.trans_le (of_decide_eq_true reached)) (not_lt.mpr below)
  · have below : stop ≤ tick := of_decide_eq_true atStop
    exact fun reached => absurd ((of_decide_eq_true reached : tick ≤ level).trans_lt above)
      (not_lt.mpr below)

section Path

variable {direction : TradeDirection} {level : ℚ} {minutes earlier later : List TickMinute}

@[simp] theorem path_append : path (earlier ++ later) = path earlier ++ path later :=
  List.flatMap_append

@[simp] theorem path_cons (minute : TickMinute) :
    path (minute :: later) = minute.ticks ++ path later := List.flatMap_cons

theorem touched_stop_path_iff :
    Touched (AtStop direction level) (path minutes) ↔
      ∃ minute ∈ minutes, stopHit direction minute.candle level = true := by
  unfold path
  rw [touched_flatMap]
  simp only [stopHit_candle_iff]

theorem touched_level_path_iff :
    Touched (AtLevel direction level) (path minutes) ↔
      ∃ minute ∈ minutes, levelHit direction minute.candle level = true := by
  unfold path
  rw [touched_flatMap]
  simp only [levelHit_candle_iff]

end Path

end BreezeTrading.ReplayIntrabar
