/-
This file follows the stop of a trade through its updates. Every update leaves the stop that
stands, or tightens it to some levels and rounds the result to two decimals; the levels are
read off the rules of the source. Since rounding keeps the order of prices, it proves exactly
when an update moves the stop against the trader.
-/

import BreezeTrading.Lib.Run
import BreezeTrading.Strategy.PositionManager
import BreezeTrading.Strategy.Rounding

namespace BreezeTrading

/-! ### Stops by direction -/

/-- The second stop protects at least as much as the first. -/
def Protects (direction : TradeDirection) (first second : ℚ) : Prop :=
  if direction = .bullish then first ≤ second else second ≤ first

instance (direction : TradeDirection) (first second : ℚ) :
    Decidable (Protects direction first second) :=
  inferInstanceAs (Decidable (if direction = .bullish then first ≤ second else second ≤ first))

section Direction

variable {direction : TradeDirection} {first second third : ℚ}

theorem Protects.refl (direction : TradeDirection) (stop : ℚ) : Protects direction stop stop := by
  cases direction <;> exact le_refl stop

theorem protects_tighterStop_iff :
    Protects direction first (tighterStop direction second third) ↔
      Protects direction first second ∨ Protects direction first third := by
  cases direction
  · exact le_max_iff
  · exact min_le_iff

theorem roundTo_tighterStop (digits : Nat) :
    roundTo digits (tighterStop direction first second) =
      tighterStop direction (roundTo digits first) (roundTo digits second) := by
  cases direction
  · exact (roundTo_mono digits).map_max
  · exact (roundTo_mono digits).map_min

theorem protects_foldl_iff (levels : List ℚ) :
    Protects direction first (levels.foldl (tighterStop direction) second) ↔
      Protects direction first second ∨ ∃ level ∈ levels, Protects direction first level := by
  induction levels generalizing second with
  | nil => simp
  | cons level rest inductionHypothesis =>
    rw [List.foldl_cons, inductionHypothesis, protects_tighterStop_iff, or_assoc]
    simp only [List.mem_cons, exists_eq_or_imp]

theorem roundTo_foldl (digits : Nat) (levels : List ℚ) :
    roundTo digits (levels.foldl (tighterStop direction) first) =
      (levels.map (roundTo digits)).foldl (tighterStop direction) (roundTo digits first) := by
  induction levels generalizing first with
  | nil => rfl
  | cons level rest inductionHypothesis =>
    rw [List.foldl_cons, inductionHypothesis, roundTo_tighterStop, List.map_cons, List.foldl_cons]

theorem tighterStop_of_protects (protects : Protects direction first second) :
    tighterStop direction first second = second := by
  cases direction
  · exact max_eq_right protects
  · exact min_eq_right protects

theorem tighterStop_comm :
    tighterStop direction first second = tighterStop direction second first := by
  cases direction
  · exact max_comm first second
  · exact min_comm first second

end Direction

/-! ### Tightening -/

/-- A stop that is tightened to some levels is rounded to two decimals. -/
def tightened (direction : TradeDirection) (stop : ℚ) (levels : List ℚ) : ℚ :=
  if levels = [] then stop else roundTo 2 (levels.foldl (tighterStop direction) stop)

section Tightened

variable (direction : TradeDirection) (stop : ℚ)

@[simp] theorem tightened_nil : tightened direction stop [] = stop := rfl

theorem tightened_cons (level : ℚ) (rest : List ℚ) :
    tightened direction stop (level :: rest) =
      roundTo 2 ((level :: rest).foldl (tighterStop direction) stop) :=
  if_neg (List.cons_ne_nil level rest)

theorem tightened_append (first second : List ℚ) :
    tightened direction (tightened direction stop first) second =
      tightened direction stop (first ++ second) := by
  cases second with
  | nil => rw [List.append_nil, tightened_nil]
  | cons level rest =>
    cases first with
    | nil => rfl
    | cons other others =>
      rw [tightened_cons, tightened_cons, List.cons_append, tightened_cons, roundTo_foldl,
        roundTo_roundTo, ← roundTo_foldl, ← List.foldl_append, List.cons_append]

theorem tightened_foldl (first : List ℚ) {second : List ℚ} (some : second ≠ []) :
    tightened direction (first.foldl (tighterStop direction) stop) second =
      tightened direction stop (first ++ second) := by
  obtain ⟨level, rest, rfl⟩ := List.exists_cons_of_ne_nil some
  unfold tightened
  rw [if_neg (List.cons_ne_nil level rest), if_neg (by simp), List.foldl_append]

/-- Tightening moves a stop against the trader exactly when rounding does, and no level it is
tightened to makes up for it. -/
theorem protects_tightened_iff (levels : List ℚ) :
    Protects direction stop (tightened direction stop levels) ↔
      levels = [] ∨ Protects direction stop (roundTo 2 stop) ∨
        ∃ level ∈ levels, Protects direction stop (roundTo 2 level) := by
  cases levels with
  | nil => exact iff_of_true (Protects.refl direction stop) (.inl rfl)
  | cons level rest =>
    rw [tightened_cons, roundTo_foldl, protects_foldl_iff]
    simp only [List.mem_map, exists_exists_and_eq_and, reduceCtorEq, false_or]

end Tightened

/-! ### The levels of an update -/

namespace PositionManager

section Levels

variable (manager : PositionManager) (trade : ManagedTrade) (features : MarketFeatures)

/-- The level an activated trade of Strategy A is tightened to. -/
def breakevenLevels (entryPrice : ℚ) : List ℚ :=
  if manager.trailingActivationR ≤ trade.peakR then
    [levelAbove trade.direction entryPrice manager.breakevenBufferPoints]
  else []

/-- The level a trade of Strategy A is tightened to when it reaches its first target. -/
def lockLevels (entryPrice initialR : ℚ) : List ℚ :=
  if manager.t1R ≤ trade.peakR ∧ trade.t1Reached = false then
    [levelAbove trade.direction entryPrice (1 / 2 * initialR)]
  else []

/-- The futures price is not managed: it is invalid, or the trade squares off, or its premium fell
too far. -/
def Unmanaged (price optionPrice : ℚ) (asOf : Option Int) : Prop :=
  (price ≤ 0 ∨ underlyingEntry trade ≤ 0 ∨ underlyingRisk trade ≤ 0) ∨
    asOf.any (isStrategyAForceExitTime manager) = true ∨
    0 < optionPrice ∧ optionPrice ≤ trade.optionHardStopPrice

instance (price optionPrice : ℚ) (asOf : Option Int) :
    Decidable (Unmanaged manager trade price optionPrice asOf) :=
  inferInstanceAs (Decidable (_ ∨ _))

/-- A trade of Strategy A with the values of the futures price. -/
def trackedUnderlying (price optionPrice : ℚ) : ManagedTrade :=
  trackUnderlying trade price optionPrice (underlyingEntry trade) (underlyingRisk trade)

/-- A trade of Strategy A after its stop was protected. -/
def protectedUnderlying (price optionPrice : ℚ) : ManagedTrade :=
  protectBreakeven manager (trackedUnderlying trade price optionPrice) (underlyingEntry trade)

/-- The levels an update tightens the stop of Strategy A to. -/
def underlyingLevels (price optionPrice : ℚ) (asOf : Option Int) : List ℚ :=
  if Unmanaged manager trade price optionPrice asOf then []
  else
    let tracked := trackedUnderlying trade price optionPrice
    let breakeven := breakevenLevels manager tracked (underlyingEntry trade)
    if hitsStop trade.direction price
        (tightened trade.direction trade.currentTrailingStop breakeven) = true then breakeven
    else breakeven ++ lockLevels manager tracked (underlyingEntry trade) (underlyingRisk trade)

/-- The levels a health score tightens a stop to. -/
def healthLevels (closed : ℚ) : List ℚ :=
  if trade.reversalScore = 2 then [closeStop trade features closed]
  else if trade.reversalScore = 3 ∧ 1 ≤ trade.currentR then
    protectiveCandidates trade features closed
  else []

/-- The levels the trailing ladder tightens a stop to. -/
def ladderLevels : List ℚ :=
  if 2 ≤ trade.peakR then
    runnerLevels trade features ++ (protectiveSwing trade features).toList
  else if 3 / 2 ≤ trade.peakR then
    [levelAbove trade.direction trade.entrySpotPrice (1 / 2 * trade.initialRPoints)]
  else if 1 ≤ trade.peakR then
    [levelAbove trade.direction trade.entrySpotPrice manager.breakevenBufferPoints]
  else []

/-- The health of a trade speaks for closing it. -/
def Unhealthy : Prop :=
  4 ≤ trade.reversalScore ∨ 3 ≤ trade.reversalScore ∧ trade.currentR < 1

instance : Decidable (Unhealthy trade) := inferInstanceAs (Decidable (_ ∨ _))

/-- The levels a new bar tightens a stop to. -/
def barLevels (closed : ℚ) : List ℚ :=
  let scoredTrade := scored manager trade features
  if Unhealthy scoredTrade then []
  else healthLevels scoredTrade features closed ++ ladderLevels manager scoredTrade features

end Levels

/-- An update of a trade. -/
structure Update where
  features : MarketFeatures
  optionPrice : Option ℚ
  now : Int
  asOf : Option Int

/-- The trade as an update leaves it. -/
def update (manager : PositionManager) (trade : ManagedTrade) (given : Update) : ManagedTrade :=
  (updatePosition manager trade given.features given.optionPrice given.now given.asOf).1

/-- The trade an update manages the new bar of, and the close of the bar: the trade has a risk,
nothing it is checked for closes it, and the bar is new. -/
def managedBar (manager : PositionManager) (trade : ManagedTrade) (given : Update) :
    Option (ManagedTrade × ℚ) :=
  let optionPrice := given.optionPrice.getD 0
  let priced := trackSpot trade given.features optionPrice
  if trade.initialRPoints ≤ 0 then none
  else
    match checkStops manager priced given.features optionPrice given.now given.asOf with
    | (_, some _) => none
    | (checked, none) => (newBar trade given.features).map fun closed => (checked, closed)

/-- The levels an update tightens a stop to. -/
def levels (manager : PositionManager) (trade : ManagedTrade) (given : Update) : List ℚ :=
  if trade.strategy = .trendPullback then
    underlyingLevels manager trade given.features.futuresPrice (given.optionPrice.getD 0) given.asOf
  else
    match managedBar manager trade given with
    | some (checked, closed) => barLevels manager checked given.features closed
    | none => []

/-! ### What an update does to the stop -/

section Stop

variable (manager : PositionManager) (trade : ManagedTrade) (features : MarketFeatures)

variable (price entryPrice : ℚ)

theorem protectBreakeven_stop (set : 0 < trade.currentTrailingStop) :
    (protectBreakeven manager trade entryPrice).currentTrailingStop =
      tightened trade.direction trade.currentTrailingStop
        (breakevenLevels manager trade entryPrice) := by
  unfold protectBreakeven breakevenLevels
  rw [if_neg (not_le.mpr set)]
  split
  · rfl
  · rfl

theorem protectBreakeven_keeps :
    (protectBreakeven manager trade entryPrice).direction = trade.direction ∧
      (protectBreakeven manager trade entryPrice).peakR = trade.peakR ∧
      (protectBreakeven manager trade entryPrice).t1Reached = trade.t1Reached := by
  unfold protectBreakeven
  dsimp only
  split
  · exact ⟨rfl, rfl, rfl⟩
  · exact ⟨rfl, rfl, rfl⟩

theorem reachT1_stop (initialR : ℚ) :
    (reachT1 trade price entryPrice initialR).1.currentTrailingStop =
      tightened trade.direction trade.currentTrailingStop
        [levelAbove trade.direction entryPrice (1 / 2 * initialR)] := by
  unfold reachT1
  dsimp only
  split
  · rfl
  · rfl

theorem manageTargets_stop (initialR : ℚ) :
    (manageTargets manager trade price entryPrice initialR).1.currentTrailingStop =
      tightened trade.direction trade.currentTrailingStop
        (lockLevels manager trade entryPrice initialR) := by
  unfold manageTargets lockLevels
  split
  · exact reachT1_stop trade price entryPrice initialR
  · split
    · rfl
    · split
      · rfl
      · rfl

theorem underlyingStopReason_eq_none_iff : underlyingStopReason manager trade price = none ↔
      ¬hitsStop trade.direction price trade.currentTrailingStop = true := by
  unfold underlyingStopReason
  split_ifs <;> simp_all

/-- What an update of Strategy A makes of a trade it does not manage, of one whose stop is hit, and
of one whose targets it manages. -/
theorem updateStrategyAPosition_trade (optionPrice : Option ℚ) (asOf : Option Int) :
    (updateStrategyAPosition manager trade price optionPrice asOf).1 =
      if price ≤ 0 ∨ underlyingEntry trade ≤ 0 ∨ underlyingRisk trade ≤ 0 then trade
      else if Unmanaged manager trade price (optionPrice.getD 0) asOf then
        trackedUnderlying trade price (optionPrice.getD 0)
      else
        let stopped := protectedUnderlying manager trade price (optionPrice.getD 0)
        if hitsStop trade.direction price stopped.currentTrailingStop = true then stopped
        else
          (manageTargets manager stopped price (underlyingEntry trade)
            (underlyingRisk trade)).1 := by
  unfold updateStrategyAPosition
  dsimp only
  by_cases invalid : price ≤ 0 ∨ underlyingEntry trade ≤ 0 ∨ underlyingRisk trade ≤ 0
  · rw [if_pos invalid, if_pos invalid]
  rw [if_neg invalid, if_neg invalid]
  by_cases squareOff : asOf.any (isStrategyAForceExitTime manager) = true
  · have unmanaged : Unmanaged manager trade price (optionPrice.getD 0) asOf :=
      .inr (.inl squareOff)
    rw [if_pos squareOff, if_pos unmanaged]
    rfl
  rw [if_neg squareOff]
  by_cases emergency : 0 < optionPrice.getD 0 ∧ optionPrice.getD 0 ≤ trade.optionHardStopPrice
  · have unmanaged : Unmanaged manager trade price (optionPrice.getD 0) asOf :=
      .inr (.inr emergency)
    rw [if_pos (show 0 < optionPrice.getD 0 ∧ _ from emergency), if_pos unmanaged]
    rfl
  have managed : ¬Unmanaged manager trade price (optionPrice.getD 0) asOf :=
    not_or.mpr ⟨invalid, not_or.mpr ⟨squareOff, emergency⟩⟩
  rw [if_neg (show ¬(0 < optionPrice.getD 0 ∧ _) from emergency), if_neg managed]
  have direction : (protectedUnderlying manager trade price (optionPrice.getD 0)).direction =
      trade.direction :=
    (protectBreakeven_keeps manager _ (underlyingEntry trade)).1
  split
  · rename_i reason hit
    have isHit : hitsStop trade.direction price (protectedUnderlying manager trade price
        (optionPrice.getD 0)).currentTrailingStop = true := by
      by_contra notHit
      have none := (underlyingStopReason_eq_none_iff manager (protectedUnderlying manager trade
        price (optionPrice.getD 0)) price).mpr (by rw [direction]; exact notHit)
      exact absurd (hit.symm.trans none) (by simp)
    rw [if_pos isHit]
    rfl
  · rename_i notHit
    have spared := (underlyingStopReason_eq_none_iff manager (protectedUnderlying manager trade
      price (optionPrice.getD 0)) price).mp notHit
    rw [direction] at spared
    rw [if_neg (show ¬hitsStop trade.direction price _ = true from spared)]
    rfl

theorem updateStrategyAPosition_stop (optionPrice : Option ℚ) (asOf : Option Int)
    (set : 0 < trade.currentTrailingStop) :
    (updateStrategyAPosition manager trade price optionPrice asOf).1.currentTrailingStop =
      tightened trade.direction trade.currentTrailingStop
        (underlyingLevels manager trade price (optionPrice.getD 0) asOf) := by
  rw [updateStrategyAPosition_trade]
  unfold underlyingLevels
  dsimp only
  by_cases unmanaged : Unmanaged manager trade price (optionPrice.getD 0) asOf
  · rw [if_pos unmanaged, if_pos unmanaged]
    split
    · rfl
    · rfl
  have valid : ¬(price ≤ 0 ∨ underlyingEntry trade ≤ 0 ∨ underlyingRisk trade ≤ 0) :=
    fun invalid => unmanaged (.inl invalid)
  have stop : (protectedUnderlying manager trade price (optionPrice.getD 0)).currentTrailingStop =
      tightened trade.direction trade.currentTrailingStop
        (breakevenLevels manager (trackedUnderlying trade price (optionPrice.getD 0))
          (underlyingEntry trade)) :=
    protectBreakeven_stop manager _ (underlyingEntry trade) set
  have keeps : (protectedUnderlying manager trade price (optionPrice.getD 0)).direction =
      trade.direction ∧ _ ∧ _ :=
    protectBreakeven_keeps manager (trackedUnderlying trade price (optionPrice.getD 0))
      (underlyingEntry trade)
  obtain ⟨direction, peakR, t1Reached⟩ := keeps
  rw [if_neg valid, if_neg unmanaged, if_neg unmanaged, stop]
  by_cases hit : hitsStop trade.direction price
      (tightened trade.direction trade.currentTrailingStop
        (breakevenLevels manager (trackedUnderlying trade price (optionPrice.getD 0))
          (underlyingEntry trade))) = true
  · rw [if_pos hit, if_pos hit]
    exact stop
  · have locks : lockLevels manager (protectedUnderlying manager trade price (optionPrice.getD 0))
        (underlyingEntry trade) (underlyingRisk trade) =
        lockLevels manager (trackedUnderlying trade price (optionPrice.getD 0))
          (underlyingEntry trade) (underlyingRisk trade) := by
      unfold lockLevels
      rw [direction, protectedUnderlying, peakR, t1Reached]
      rfl
    rw [if_neg hit, if_neg hit, manageTargets_stop, stop, locks, direction]
    exact tightened_append trade.direction trade.currentTrailingStop _ _

theorem ladderLevels_ne_nil (inProfit : 1 ≤ trade.peakR) :
    ladderLevels manager trade features ≠ [] := by
  unfold ladderLevels
  split
  · exact List.append_ne_nil_of_left_ne_nil (List.cons_ne_nil _ _) _
  · split
    · exact List.cons_ne_nil _ _
    · exact List.cons_ne_nil _ _

theorem trailLadder_stop :
    (trailLadder manager trade features).currentTrailingStop =
      tightened trade.direction trade.currentTrailingStop
        (ladderLevels manager trade features) := by
  unfold trailLadder ladderLevels
  dsimp only
  split
  · have tighter : Protects trade.direction trade.currentTrailingStop
        ((runnerLevels trade features).foldl (tighterStop trade.direction)
          trade.currentTrailingStop) :=
      (protects_foldl_iff _).mpr (.inl (Protects.refl _ _))
    unfold runnerStop
    rw [tighterStop_of_protects ((protects_foldl_iff _).mpr (.inl (Protects.refl _ _)))]
    cases protectiveSwing trade features with
    | none =>
      rw [List.foldl_append]
      dsimp only [List.foldl_cons, List.foldl_nil, Option.getD_none, Option.toList_none]
      rw [tighterStop_comm, tighterStop_of_protects tighter, List.append_nil]
      rfl
    | some swing => rfl
  · split
    · rfl
    · split
      · rfl
      · rfl

theorem manageBar_stop (closed : ℚ) (peaked : trade.currentR ≤ trade.peakR) :
    (manageBar manager trade features closed).1.currentTrailingStop =
      tightened trade.direction trade.currentTrailingStop
        (barLevels manager trade features closed) := by
  unfold manageBar barLevels
  by_cases critical : 4 ≤ (scored manager trade features).reversalScore
  · have unhealthy : Unhealthy (scored manager trade features) := .inl critical
    rw [if_pos critical, if_pos unhealthy]
    rfl
  by_cases early : 3 ≤ (scored manager trade features).reversalScore ∧
      (scored manager trade features).currentR < 1
  · have unhealthy : Unhealthy (scored manager trade features) := .inr early
    rw [if_neg critical, if_pos early, if_pos unhealthy]
    rfl
  have healthy : ¬Unhealthy (scored manager trade features) := not_or.mpr ⟨critical, early⟩
  rw [if_neg critical, if_neg early, if_neg healthy, trailLadder_stop]
  unfold healthLevels
  by_cases two : (scored manager trade features).reversalScore = 2
  · rw [if_pos two, tightenByHealth, if_pos two]
    exact tightened_append trade.direction trade.currentTrailingStop
      [closeStop (scored manager trade features) features closed] _
  by_cases three : (scored manager trade features).reversalScore = 3 ∧
      1 ≤ (scored manager trade features).currentR
  · rw [if_neg two, if_pos three, tightenByHealth, if_neg two, if_pos three]
    exact tightened_foldl trade.direction trade.currentTrailingStop _
      (ladderLevels_ne_nil manager (scored manager trade features) features (three.2.trans peaked))
  · rw [if_neg two, if_neg three, tightenByHealth, if_neg two, if_neg three]
    rfl

theorem falseBreakout_trade (closed : Option ℚ) :
    ∃ closes, (falseBreakout manager trade features closed).1 =
      { trade with consecutiveInsideBoxCloses := closes } := by
  unfold falseBreakout
  dsimp only
  repeat' split
  all_goals exact ⟨_, rfl⟩

theorem checkStops_trade (optionPrice : ℚ) (now : Int) (asOf : Option Int) :
    ∃ closes, (checkStops manager trade features optionPrice now asOf).1 =
      { countClose (trackR trade features) features (newBar trade features) with
        consecutiveInsideBoxCloses := closes } := by
  obtain ⟨closes, boxed⟩ := falseBreakout_trade manager
    (countClose (trackR trade features) features (newBar trade features)) features
    (newBar trade features)
  unfold checkStops
  dsimp only
  split
  · exact ⟨_, rfl⟩
  · split
    · rename_i exits
      rw [exits] at boxed
      exact ⟨closes, boxed⟩
    · rename_i stays
      rw [stays] at boxed
      exact ⟨closes, boxed⟩

theorem checkStops_keeps (optionPrice : ℚ) (now : Int) (asOf : Option Int) :
    let checked := (checkStops manager trade features optionPrice now asOf).1
    checked.strategy = trade.strategy ∧ checked.direction = trade.direction ∧
      checked.currentTrailingStop = trade.currentTrailingStop ∧ checked.state = trade.state ∧
      trade.peakR ≤ checked.peakR ∧ checked.currentR ≤ checked.peakR := by
  obtain ⟨closes, isChecked⟩ := checkStops_trade manager trade features optionPrice now asOf
  rw [isChecked]
  cases newBar trade features with
  | none | some => exact ⟨rfl, rfl, rfl, rfl, le_max_left _ _, le_max_right _ _⟩

end Stop

theorem update_trade (manager : PositionManager) {trade : ManagedTrade} (given : Update)
    (other : trade.strategy ≠ .trendPullback) :
    update manager trade given =
      match managedBar manager trade given with
      | some (checked, closed) => (manageBar manager checked given.features closed).1
      | none =>
          let priced := trackSpot trade given.features (given.optionPrice.getD 0)
          if trade.initialRPoints ≤ 0 then priced
          else (checkStops manager priced given.features (given.optionPrice.getD 0) given.now
            given.asOf).1 := by
  unfold update updatePosition managedBar
  rw [if_neg other]
  by_cases noRisk : trade.initialRPoints ≤ 0
  · rw [if_pos noRisk, if_pos noRisk, if_pos noRisk]
  rw [if_neg noRisk, if_neg noRisk, if_neg noRisk]
  rcases checkStops manager (trackSpot trade given.features (given.optionPrice.getD 0))
    given.features (given.optionPrice.getD 0) given.now given.asOf with ⟨checked, _ | reason⟩
  · cases newBar trade given.features with
    | none => rfl
    | some closed => rfl
  · rfl

theorem managedBar_some {manager : PositionManager} {trade checked : ManagedTrade}
    {given : Update} {closed : ℚ}
    (managed : managedBar manager trade given = some (checked, closed)) :
    checked = (checkStops manager (trackSpot trade given.features (given.optionPrice.getD 0))
      given.features (given.optionPrice.getD 0) given.now given.asOf).1 := by
  unfold managedBar at managed
  dsimp only at managed
  split at managed
  · cases managed
  · split at managed
    · cases managed
    · rename_i stays
      rw [stays]
      simp only [Option.map_eq_some_iff, Prod.mk.injEq] at managed
      obtain ⟨_, _, same, _⟩ := managed
      exact same.symm

/-- The stop of a trade is set; that of Strategy A is set while it is positive. -/
def Armed (trade : ManagedTrade) : Prop :=
  trade.strategy = .trendPullback → 0 < trade.currentTrailingStop

theorem update_stop (manager : PositionManager) {trade : ManagedTrade} (given : Update)
    (armed : Armed trade) :
    (update manager trade given).currentTrailingStop =
      tightened trade.direction trade.currentTrailingStop (levels manager trade given) := by
  unfold levels
  by_cases pullback : trade.strategy = .trendPullback
  · rw [if_pos pullback]
    unfold update updatePosition
    rw [if_pos pullback]
    exact updateStrategyAPosition_stop manager trade given.features.futuresPrice given.optionPrice
      given.asOf (armed pullback)
  rw [if_neg pullback, update_trade manager given pullback]
  have keeps := checkStops_keeps manager (trackSpot trade given.features (given.optionPrice.getD 0))
    given.features (given.optionPrice.getD 0) given.now given.asOf
  obtain ⟨-, direction, stop, -, -, peaked⟩ := keeps
  rcases managed : managedBar manager trade given with _ | ⟨checked, closed⟩
  · dsimp only
    split
    · rfl
    · exact stop
  · rw [← managedBar_some managed] at direction stop peaked
    rw [manageBar_stop manager checked given.features closed peaked, direction, stop]
    rfl

instance (trade : ManagedTrade) : Decidable (Armed trade) :=
  inferInstanceAs (Decidable (_ → _))

/-! ### Runs -/

/-- An update does not move a stop that is set against the trader. -/
def KeepsProtection (manager : PositionManager) (trade : ManagedTrade) (given : Update) : Prop :=
  Armed trade →
    Protects trade.direction trade.currentTrailingStop
      (update manager trade given).currentTrailingStop

/-- The update tightens the stop to no level, or rounding does not loosen the stop, or one of the
levels it is tightened to protects as much as the stop once it is rounded. -/
def RoundsInFavor (manager : PositionManager) (trade : ManagedTrade) (given : Update) : Prop :=
  Armed trade →
    levels manager trade given = [] ∨
      Protects trade.direction trade.currentTrailingStop (roundTo 2 trade.currentTrailingStop) ∨
      ∃ level ∈ levels manager trade given,
        Protects trade.direction trade.currentTrailingStop (roundTo 2 level)

instance (manager : PositionManager) (trade : ManagedTrade) (given : Update) :
    Decidable (KeepsProtection manager trade given) :=
  inferInstanceAs (Decidable (_ → _))

theorem keepsProtection_iff_roundsInFavor (manager : PositionManager) (trade : ManagedTrade)
    (given : Update) :
    KeepsProtection manager trade given ↔ RoundsInFavor manager trade given := by
  refine imp_congr_right fun armed => ?_
  rw [update_stop manager given armed]
  exact protects_tightened_iff trade.direction trade.currentTrailingStop _

/-- No update of a run moves a stop that is set against the trader exactly when every update
rounds in favor of the trader. -/
theorem stop_keeps_protection_iff (manager : PositionManager) (start : ManagedTrade)
    (updates : List Update) :
    Run.Along (update manager) (KeepsProtection manager) start updates ↔
      Run.Along (update manager) (RoundsInFavor manager) start updates :=
  Run.along_congr (keepsProtection_iff_roundsInFavor manager) start updates

/-- A breakout whose stop is finer than two decimals. -/
def fineStop : ManagedTrade :=
  .entered "trade" .paper .volatilityBreakout .bullish 65 65 0 24000 100 (23900 + 4 / 1000) 75

/-- A new bar with two signs of adverse health, the averages of the prices. -/
def slightlyAdverse : Update where
  features :=
    { timestamp := 360000000
      spotPrice := 23950
      closed5mPrice := some 23950
      closed5mTime := some 300000000
      ema95m := 23960
      ema205m := 23960
      atr5m := 400 }
  optionPrice := some 90
  now := 0
  asOf := none

/-- The bar rounds the stop down, against the trader. -/
theorem fine_stop_is_loosened :
    ¬∀ (manager : PositionManager) (start : ManagedTrade) (updates : List Update),
      Run.Along (update manager) (KeepsProtection manager) start updates := by
  intro keeps
  have first : KeepsProtection (.defaults toString) fineStop slightlyAdverse :=
    (keeps (.defaults toString) fineStop [slightlyAdverse]).1
  exact absurd first (by decide +kernel)

end PositionManager

end BreezeTrading
