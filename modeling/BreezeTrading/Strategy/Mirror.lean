/-
This file proves that management is symmetric: along every run of updates, the decisions on a
trade and on its mirror image are mirror images. The run needs that prices reflect to prices,
and an update keeps that of the trade. Where it fails, or the constant is an odd number of
hundredths, there are runs that do not reflect.
-/

import BreezeTrading.Strategy.Reflection

namespace BreezeTrading

namespace PositionManager

/-! ### What reflects -/

/-- A stop level and its mirror image are a hundredth at least. -/
def Clear (center level : ℚ) : Prop := 1 / 100 ≤ level ∧ level ≤ center - 1 / 100

theorem Clear.between {center level : ℚ} (clear : Clear center level) : Between center level :=
  ⟨by linarith [clear.1], by linarith [clear.2]⟩

theorem Clear.tighterStop {center first second : ℚ} (direction : TradeDirection)
    (left : Clear center first) (right : Clear center second) :
    Clear center (tighterStop direction first second) := by
  cases direction
  · exact ⟨le_max_of_le_left left.1, max_le left.2 right.2⟩
  · exact ⟨le_min left.1 right.1, min_le_of_left_le left.2⟩

theorem Clear.round {center level : ℚ} (even : EvenCents center) (clear : Clear center level) :
    Clear center (roundTo 2 level) := by
  have cent : roundTo 2 (1 / 100) = 1 / 100 := by decide +kernel
  constructor
  · calc (1 / 100 : ℚ) = roundTo 2 (1 / 100) := cent.symm
      _ ≤ roundTo 2 level := roundTo_mono 2 clear.1
  · calc roundTo 2 level ≤ roundTo 2 (center - 1 / 100) := roundTo_mono 2 clear.2
      _ = center - roundTo 2 (1 / 100) := roundTo_reflect even _
      _ = center - 1 / 100 := by rw [cent]

theorem Clear.tightened {center stop : ℚ} (even : EvenCents center) (direction : TradeDirection)
    {levels : List ℚ} (set : Clear center stop) (clear : ∀ level ∈ levels, Clear center level) :
    Clear center (tightened direction stop levels) := by
  have tightest : Clear center (levels.foldl (BreezeTrading.tighterStop direction) stop) := by
    induction levels generalizing stop with
    | nil => exact set
    | cons level rest inductionHypothesis =>
      exact inductionHypothesis (set.tighterStop direction (clear level List.mem_cons_self))
        fun other member => clear other (List.mem_cons_of_mem _ member)
  unfold BreezeTrading.tightened
  split
  · exact set
  · exact tightest.round even

/-- The levels the stop of Strategy A may be at: where it is, where it was set, and where
breakeven and the first target put it. -/
def stopLevels (manager : PositionManager) (trade : ManagedTrade) : List ℚ :=
  [trade.currentTrailingStop,
    levelAbove trade.direction (underlyingEntry trade) manager.breakevenBufferPoints,
    levelAbove trade.direction (underlyingEntry trade) (1 / 2 * underlyingRisk trade)]

/-- The prices of a trade reflect to prices, and so do the levels of the stop of Strategy A. -/
structure Reflectable (center : ℚ) (manager : PositionManager) (trade : ManagedTrade) : Prop where
  entry : EntryBetween center trade
  closes : ClosesBetween center trade
  levels : trade.strategy = .trendPullback →
    ∀ level ∈ stopLevels manager trade, Clear center level

/-- The prices an update of a strategy reads reflect to prices. -/
structure PricesBetween (center : ℚ) (strategy : StrategyName) (features : MarketFeatures) :
    Prop where
  futures : strategy = .trendPullback → Between center features.futuresPrice
  spot : strategy ≠ .trendPullback → Between center features.spotPrice
  closed : ∀ price ∈ features.closed5mPrice, Between center price

section Kept

variable {center : ℚ} {manager : PositionManager} {trade : ManagedTrade}

/-- What a trade was entered with. -/
def terms (trade : ManagedTrade) : StrategyName × TradeDirection × ℚ × Option ℚ × ℚ :=
  (trade.strategy, trade.direction, trade.entrySpotPrice, trade.underlyingR, trade.initialRPoints)

def closes (trade : ManagedTrade) : Option ℚ × Option ℚ :=
  (trade.highestCloseSinceEntry, trade.lowestCloseSinceEntry)

section

variable (manager : PositionManager) (trade : ManagedTrade)

theorem manageTargets_terms (price entryPrice initialR : ℚ) :
    let managed := (manageTargets manager trade price entryPrice initialR).1
    terms managed = terms trade ∧ closes managed = closes trade ∧
      managed.underlyingEntryPrice = trade.underlyingEntryPrice := by
  unfold manageTargets reachT1
  dsimp only
  split_ifs
  · exact ⟨rfl, rfl, rfl⟩
  · exact ⟨rfl, rfl, rfl⟩
  · exact ⟨rfl, rfl, rfl⟩
  · exact ⟨rfl, rfl, rfl⟩
  · exact ⟨rfl, rfl, rfl⟩

theorem protectBreakeven_terms (entryPrice : ℚ) :
    let stopped := protectBreakeven manager trade entryPrice
    terms stopped = terms trade ∧ closes stopped = closes trade ∧
      stopped.underlyingEntryPrice = trade.underlyingEntryPrice := by
  unfold protectBreakeven
  split_ifs
  · exact ⟨rfl, rfl, rfl⟩
  · exact ⟨rfl, rfl, rfl⟩
  · exact ⟨rfl, rfl, rfl⟩
  · exact ⟨rfl, rfl, rfl⟩

theorem updateStrategyAPosition_terms (price : ℚ) (optionPrice : Option ℚ) (asOf : Option Int) :
    let updated := (updateStrategyAPosition manager trade price optionPrice asOf).1
    terms updated = terms trade ∧ closes updated = closes trade ∧
      (updated.underlyingEntryPrice = trade.underlyingEntryPrice ∨
        updated.underlyingEntryPrice = some (underlyingEntry trade)) := by
  have stops := protectBreakeven_terms manager
    (trackedUnderlying trade price (optionPrice.getD 0)) (underlyingEntry trade)
  have targets := manageTargets_terms manager
    (protectedUnderlying manager trade price (optionPrice.getD 0)) price (underlyingEntry trade)
    (underlyingRisk trade)
  rw [updateStrategyAPosition_trade]
  split
  · exact ⟨rfl, rfl, .inl rfl⟩
  split
  · exact ⟨rfl, rfl, .inr rfl⟩
  dsimp only
  split
  · exact ⟨stops.1, stops.2.1, .inr stops.2.2⟩
  · exact ⟨targets.1.trans stops.1, targets.2.1.trans stops.2.1, .inr (targets.2.2.trans stops.2.2)⟩

end

theorem tightenByHealth_trade (trade : ManagedTrade) (features : MarketFeatures) (closed : ℚ) :
    ∃ stop, tightenByHealth trade features closed = { trade with currentTrailingStop := stop } := by
  unfold tightenByHealth
  split_ifs
  · exact ⟨_, rfl⟩
  · exact ⟨_, rfl⟩
  · exact ⟨_, rfl⟩

theorem trailLadder_trade (manager : PositionManager) (trade : ManagedTrade)
    (features : MarketFeatures) :
    ∃ state stop, trailLadder manager trade features =
      { trade with state := state, currentTrailingStop := stop } := by
  unfold trailLadder
  split_ifs
  · exact ⟨_, _, rfl⟩
  · exact ⟨_, _, rfl⟩
  · exact ⟨_, _, rfl⟩
  · exact ⟨_, _, rfl⟩

theorem manageBar_trade (manager : PositionManager) (trade : ManagedTrade)
    (features : MarketFeatures) (closed : ℚ) :
    ∃ score state stop, (manageBar manager trade features closed).1 =
      { trade with reversalScore := score, state := state, currentTrailingStop := stop } := by
  obtain ⟨tightened, isTightened⟩ :=
    tightenByHealth_trade (scored manager trade features) features closed
  obtain ⟨state, stop, isTrailed⟩ := trailLadder_trade manager
    (tightenByHealth (scored manager trade features) features closed) features
  unfold manageBar
  dsimp only
  split_ifs
  · exact ⟨_, _, _, rfl⟩
  · exact ⟨_, _, _, rfl⟩
  · refine ⟨calculateReversalScore manager trade features, state, stop, isTrailed.trans ?_⟩
    rw [isTightened]
    rfl

theorem closes_countClose (trade : ManagedTrade) (features : MarketFeatures) (optionPrice : ℚ)
    (closed : Option ℚ) :
    closes (countClose (trackR (trackSpot trade features optionPrice) features) features closed) =
      closes (countClose trade features closed) := by
  cases closed with
  | none => rfl
  | some price => rfl

theorem checkStops_terms (manager : PositionManager) (trade : ManagedTrade) (given : Update) :
    let checked := (checkStops manager
      (trackSpot trade given.features (given.optionPrice.getD 0)) given.features
      (given.optionPrice.getD 0) given.now given.asOf).1
    terms checked = terms trade ∧ checked.underlyingEntryPrice = trade.underlyingEntryPrice ∧
      closes checked = closes (countClose trade given.features (newBar trade given.features)) := by
  obtain ⟨boxCloses, isChecked⟩ := checkStops_trade manager
    (trackSpot trade given.features (given.optionPrice.getD 0)) given.features
    (given.optionPrice.getD 0) given.now given.asOf
  have same : newBar (trackSpot trade given.features (given.optionPrice.getD 0)) given.features =
      newBar trade given.features := rfl
  have counts := closes_countClose trade given.features (given.optionPrice.getD 0)
    (newBar trade given.features)
  rw [isChecked, same]
  refine ⟨?_, ?_, counts⟩
  · cases newBar trade given.features with
    | none => rfl
    | some closed => rfl
  · cases newBar trade given.features with
    | none => rfl
    | some closed => rfl

/-- An update of the other strategies keeps what the trade was entered with, and counts the close
of a new bar at most. -/
theorem update_terms_of_other (manager : PositionManager) {trade : ManagedTrade} (given : Update)
    (other : trade.strategy ≠ .trendPullback) :
    let updated := update manager trade given
    terms updated = terms trade ∧ updated.underlyingEntryPrice = trade.underlyingEntryPrice ∧
      (closes updated = closes trade ∨
        closes updated =
          closes (countClose trade given.features (newBar trade given.features))) := by
  have checks := checkStops_terms manager trade given
  rw [update_trade manager given other]
  rcases managed : managedBar manager trade given with _ | ⟨checked, closed⟩
  · dsimp only
    split
    · exact ⟨rfl, rfl, .inl rfl⟩
    · exact ⟨checks.1, checks.2.1, .inr checks.2.2⟩
  · rw [← managedBar_some managed] at checks
    obtain ⟨score, state, stop, isManaged⟩ := manageBar_trade manager checked given.features closed
    dsimp only
    rw [isManaged]
    exact ⟨checks.1, checks.2.1, .inr checks.2.2⟩

theorem closed_of_newBar {features : MarketFeatures} {closed : ℚ}
    (isNew : newBar trade features = some closed) : features.closed5mPrice = some closed := by
  unfold newBar at isNew
  cases known : features.closed5mTime with
  | none => simp [known] at isNew
  | some closedTime =>
    cases price : features.closed5mPrice with
    | none => simp [known, price] at isNew
    | some reported =>
      simp only [known, price, Option.bind_eq_bind, Option.bind_some, Option.bind_eq_some_iff]
        at isNew
      obtain ⟨_, _, same⟩ := isNew
      exact same

theorem ClosesBetween.countClose (closes : ClosesBetween center trade)
    (entry : EntryBetween center trade) (features : MarketFeatures)
    (prices : ∀ price ∈ features.closed5mPrice, Between center price) :
    ClosesBetween center (countClose trade features (newBar trade features)) := by
  cases isNew : newBar trade features with
  | none => exact closes
  | some closed =>
    have between : Between center closed := prices closed (closed_of_newBar isNew)
    constructor
    · intro price isHighest
      obtain rfl := Option.mem_some_iff.mp isHighest
      exact (Between.orPrice closes.highest entry.spot).max between
    · intro price isLowest
      obtain rfl := Option.mem_some_iff.mp isLowest
      exact (Between.orPrice closes.lowest entry.spot).min between

theorem ClosesBetween.of_closes {other : ManagedTrade} (between : ClosesBetween center trade)
    (same : closes other = closes trade) : ClosesBetween center other := by
  obtain ⟨highest, lowest⟩ := Prod.mk.injEq _ _ _ _ ▸ same
  exact ⟨highest ▸ between.highest, lowest ▸ between.lowest⟩

theorem eq_of_mem_underlyingLevels {price optionPrice level : ℚ} {asOf : Option Int}
    (member : level ∈ underlyingLevels manager trade price optionPrice asOf) :
    level = levelAbove trade.direction (underlyingEntry trade) manager.breakevenBufferPoints ∨
      level =
        levelAbove trade.direction (underlyingEntry trade) (1 / 2 * underlyingRisk trade) := by
  have breakeven : ∀ {level : ℚ}, level ∈ breakevenLevels manager
      (trackedUnderlying trade price optionPrice) (underlyingEntry trade) →
      level = levelAbove trade.direction (underlyingEntry trade) manager.breakevenBufferPoints := by
    intro level member
    unfold breakevenLevels at member
    split at member
    · exact List.mem_singleton.mp member
    · cases member
  have locked : ∀ {level : ℚ}, level ∈ lockLevels manager
      (trackedUnderlying trade price optionPrice) (underlyingEntry trade) (underlyingRisk trade) →
      level =
        levelAbove trade.direction (underlyingEntry trade) (1 / 2 * underlyingRisk trade) := by
    intro level member
    unfold lockLevels at member
    split at member
    · exact List.mem_singleton.mp member
    · cases member
  unfold underlyingLevels at member
  dsimp only at member
  split at member
  · cases member
  split at member
  · exact .inl (breakeven member)
  · rcases List.mem_append.mp member with first | second
    · exact .inl (breakeven first)
    · exact .inr (locked second)

theorem stopLevels_update (even : EvenCents center) (reflectable : Reflectable center manager trade)
    (pullback : trade.strategy = .trendPullback) {given : Update} :
    ∀ level ∈ stopLevels manager (update manager trade given), Clear center level := by
  have levels := reflectable.levels pullback
  simp only [stopLevels, List.forall_mem_cons, List.not_mem_nil, false_imp_iff, implies_true,
    and_true] at levels ⊢
  obtain ⟨set, breakeven, locked⟩ := levels
  have kept := updateStrategyAPosition_terms manager trade given.features.futuresPrice
    given.optionPrice given.asOf
  have isUpdate : update manager trade given = (updateStrategyAPosition manager trade
      given.features.futuresPrice given.optionPrice given.asOf).1 := by
    unfold update updatePosition
    rw [if_pos pullback]
  have stop := updateStrategyAPosition_stop manager trade given.features.futuresPrice
    given.optionPrice given.asOf set.between.1
  rw [← isUpdate] at kept stop
  obtain ⟨sameTerms, -, underlying⟩ := kept
  simp only [terms, Prod.mk.injEq] at sameTerms
  obtain ⟨-, direction, spot, risk, points⟩ := sameTerms
  have entryKept : underlyingEntry (update manager trade given) = underlyingEntry trade := by
    rcases underlying with same | noted
    · unfold underlyingEntry
      rw [same, spot]
    · have positive : underlyingEntry trade ≠ 0 :=
        (Between.orPrice reflectable.entry.underlying reflectable.entry.spot).1.ne'
      rw [show underlyingEntry (update manager trade given) = orPrice
        (update manager trade given).underlyingEntryPrice
        (update manager trade given).entrySpotPrice from rfl, noted]
      exact if_neg positive
  have riskKept : underlyingRisk (update manager trade given) = underlyingRisk trade := by
    unfold underlyingRisk
    rw [risk, points]
  rw [entryKept, riskKept, direction, stop]
  refine ⟨set.tightened even trade.direction ?_, breakeven, locked⟩
  intro level member
  rcases eq_of_mem_underlyingLevels member with rfl | rfl
  · exact breakeven
  · exact locked

theorem EntryBetween.of_terms {other : ManagedTrade} (entry : EntryBetween center trade)
    (same : terms other = terms trade)
    (underlying : other.underlyingEntryPrice = trade.underlyingEntryPrice ∨
      other.underlyingEntryPrice = some (underlyingEntry trade)) : EntryBetween center other := by
  simp only [terms, Prod.mk.injEq] at same
  constructor
  · rw [same.2.2.1]
    exact entry.spot
  · intro price known
    rcases underlying with kept | noted
    · exact entry.underlying price (kept ▸ known)
    · rw [noted] at known
      obtain rfl := Option.mem_some_iff.mp known
      exact Between.orPrice entry.underlying entry.spot

theorem Reflectable.update (even : EvenCents center)
    (reflectable : Reflectable center manager trade) (given : Update)
    (prices : PricesBetween center trade.strategy given.features) :
    Reflectable center manager (update manager trade given) := by
  by_cases pullback : trade.strategy = .trendPullback
  · have kept := updateStrategyAPosition_terms manager trade given.features.futuresPrice
      given.optionPrice given.asOf
    have isUpdate : PositionManager.update manager trade given = (updateStrategyAPosition manager
        trade given.features.futuresPrice given.optionPrice given.asOf).1 := by
      unfold PositionManager.update updatePosition
      rw [if_pos pullback]
    rw [← isUpdate] at kept
    obtain ⟨sameTerms, sameCloses, underlying⟩ := kept
    exact ⟨reflectable.entry.of_terms sameTerms underlying, reflectable.closes.of_closes sameCloses,
      fun _ => stopLevels_update even reflectable pullback⟩
  · obtain ⟨sameTerms, underlying, counted⟩ := update_terms_of_other manager given pullback
    refine ⟨reflectable.entry.of_terms sameTerms (.inl underlying), ?_, ?_⟩
    · rcases counted with sameCloses | sameCloses
      · exact reflectable.closes.of_closes sameCloses
      · exact (reflectable.closes.countClose reflectable.entry given.features
          prices.closed).of_closes sameCloses
    · intro isPullback
      simp only [terms, Prod.mk.injEq] at sameTerms
      exact absurd (sameTerms.1 ▸ isPullback) pullback

theorem update_strategy (manager : PositionManager) (trade : ManagedTrade) (given : Update) :
    (update manager trade given).strategy = trade.strategy := by
  by_cases pullback : trade.strategy = .trendPullback
  · have kept := (updateStrategyAPosition_terms manager trade given.features.futuresPrice
      given.optionPrice given.asOf).1
    unfold update updatePosition
    rw [if_pos pullback]
    exact congrArg Prod.fst kept
  · exact congrArg Prod.fst (update_terms_of_other manager given pullback).1

end Kept

/-! ### Runs -/

/-- An update with the mirror image of its features. -/
def reflectUpdate (center : ℚ) (given : Update) : Update :=
  { given with features := reflectFeatures center given.features }

/-- A trade and another one are updated, the other with the mirror image of the features. -/
def updateBoth (center : ℚ) (manager : PositionManager) (trades : ManagedTrade × ManagedTrade)
    (given : Update) : ManagedTrade × ManagedTrade :=
  (update manager trades.1 given, update manager trades.2 (reflectUpdate center given))

/-- The decision on a trade and the decision on the other one, which the same update with reflected
features takes, are mirror images. -/
def DecidesAlike (center : ℚ) (manager : PositionManager) (trades : ManagedTrade × ManagedTrade)
    (given : Update) : Prop :=
  Mirrors center
    (updatePosition manager trades.1 given.features given.optionPrice given.now given.asOf)
    (updatePosition manager trades.2 (reflectFeatures center given.features) given.optionPrice
      given.now given.asOf)

instance (center : ℚ) (manager : PositionManager) (trades : ManagedTrade × ManagedTrade)
    (given : Update) : Decidable (DecidesAlike center manager trades given) :=
  inferInstanceAs (Decidable (_ ∧ _))

theorem updatePosition_reflect {center : ℚ} {manager : PositionManager} {trade : ManagedTrade}
    (equal : manager.bullDerivativesThreshold = manager.bearDerivativesThreshold)
    (even : EvenCents center) (reflectable : Reflectable center manager trade) {given : Update}
    (prices : PricesBetween center trade.strategy given.features) :
    DecidesAlike center manager (trade, reflectTrade center trade) given := by
  unfold DecidesAlike
  by_cases pullback : trade.strategy = .trendPullback
  · unfold updatePosition
    rw [if_pos pullback, if_pos (show (reflectTrade center trade).strategy = _ from pullback)]
    have set := reflectable.levels pullback trade.currentTrailingStop List.mem_cons_self
    exact updateStrategyAPosition_reflect center manager trade even reflectable.entry set.between
      (prices.futures pullback) given.optionPrice given.asOf
  · exact updatePosition_reflect_of_other center manager trade given.features equal even pullback
      reflectable.closes (prices.spot pullback) given.optionPrice given.now given.asOf

/-- A new bar whose prices are all the same. -/
def flatBar (price : ℚ) : Update where
  features :=
    { timestamp := 360000000
      spotPrice := price
      futuresPrice := price
      futuresVwap := price
      closed5mPrice := some price
      closed5mTime := some 300000000
      ema95m := price
      ema205m := price }
  optionPrice := some 100
  now := 0
  asOf := none

theorem pricesBetween_flatBar {center price : ℚ} (between : Between center price)
    (strategy : StrategyName) : PricesBetween center strategy (flatBar price).features := by
  refine ⟨fun _ => between, fun _ => between, fun closed known => ?_⟩
  obtain rfl := Option.mem_some_iff.mp known
  exact between

/-- A trade with a risk of five hundredths: its lock is half a hundredth off the grid. -/
def tightTrade : ManagedTrade :=
  .entered "trade" .paper .srMomentumBreakout .bullish 65 65 0 (10005 / 100) 100 100 75

/-- A trade above the constant. -/
def highTrade : ManagedTrade :=
  .entered "trade" .paper .srMomentumBreakout .bullish 65 65 0 120 100 110 75

/-- A trade of Strategy A so close to the constant that its lock rounds to it. -/
def closeTrade : ManagedTrade :=
  .entered "trade" .paper .trendPullback .bullish 65 65 0 (99993 / 1000) 100 (99989 / 1000) 75

end PositionManager

end BreezeTrading
