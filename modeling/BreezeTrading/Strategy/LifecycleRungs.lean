/-
This file follows the lifecycle state of a trade through its updates. The states that trail a
trade are rungs: the trade is active, protected at breakeven, locked in profit, or a runner.
It proves exactly when an update reports an earlier rung than the one before, and that the
strategies with a trailing ladder never do once the peak of a trade accounts for its rung.
-/

import BreezeTrading.Strategy.TrailingStop

namespace BreezeTrading.PositionManager

/-! ### Rungs -/

/-- How far a lifecycle state is along the rungs. -/
def rung : TradeLifecycleState → Nat
  | .protectedBreakeven => 1
  | .profitLocked => 2
  | .runnerMode => 3
  | _ => 0

theorem rung_le_runnerMode (state : TradeLifecycleState) : rung state ≤ rung .runnerMode := by
  cases state <;> decide

theorem rung_le_profitLocked_iff (state : TradeLifecycleState) :
    rung state ≤ rung .profitLocked ↔ rung state ≤ 1 ∨ state = .profitLocked := by
  cases state <;> decide

/-- The rung of the trailing ladder that a peak has reached. -/
def ladderRung (peakR : ℚ) : Nat :=
  if 2 ≤ peakR then 3 else if 3 / 2 ≤ peakR then 2 else if 1 ≤ peakR then 1 else 0

/-! ### Strategy A -/

section StrategyA

variable (manager : PositionManager) (trade : ManagedTrade) (price optionPrice : ℚ)

/-- The price leaves the protected stop alone. -/
def Spared : Prop :=
  ¬hitsStop trade.direction price
    (protectedUnderlying manager trade price optionPrice).currentTrailingStop = true

/-- The first target is reached by this price. -/
def ReachesTarget : Prop :=
  manager.t1R ≤ (trackedUnderlying trade price optionPrice).peakR ∧ trade.t1Reached = false

/-- The partial exit is decided and not filled. -/
def PartialDue : Prop :=
  trade.t1ExitPending = true ∧ trade.partialExitFilledQuantity < trade.t1ExitQuantity

instance : Decidable (Spared manager trade price optionPrice) :=
  inferInstanceAs (Decidable (¬_))

instance : Decidable (ReachesTarget manager trade price optionPrice) :=
  inferInstanceAs (Decidable (_ ∧ _))

instance : Decidable (PartialDue trade) := inferInstanceAs (Decidable (_ ∧ _))

/-- An update of Strategy A holds the rung of its trade. Past breakeven it does so when it manages
nothing, when the first target locks a profit that was locked, when the trade is a runner by
its peak and nothing is hit or due, and when the peak has not activated the trailing stop. -/
def HoldsUnderlyingRung (asOf : Option Int) : Prop :=
  rung trade.state ≤ 1 ∨ Unmanaged manager trade price optionPrice asOf ∨
    (Spared manager trade price optionPrice ∧ ReachesTarget manager trade price optionPrice ∧
      trade.state = .profitLocked) ∨
    (Spared manager trade price optionPrice ∧ ¬ReachesTarget manager trade price optionPrice ∧
      ¬PartialDue trade ∧
      manager.runnerTargetReferenceR ≤ (trackedUnderlying trade price optionPrice).peakR) ∨
    (¬(Spared manager trade price optionPrice ∧ ReachesTarget manager trade price optionPrice) ∧
      (trackedUnderlying trade price optionPrice).peakR < manager.trailingActivationR)

theorem protectedUnderlying_state :
    (protectedUnderlying manager trade price optionPrice).state =
      if manager.trailingActivationR ≤ (trackedUnderlying trade price optionPrice).peakR then
        .protectedBreakeven
      else trade.state := by
  unfold protectedUnderlying protectBreakeven
  dsimp only
  split
  · rfl
  · rfl

theorem protectedUnderlying_partialDue :
    PartialDue (protectedUnderlying manager trade price optionPrice) ↔ PartialDue trade := by
  unfold protectedUnderlying protectBreakeven
  dsimp only
  split
  · exact Iff.rfl
  · exact Iff.rfl

theorem reachT1_state (stopped : ManagedTrade) (entryPrice initialR : ℚ) :
    (reachT1 stopped price entryPrice initialR).1.state = .profitLocked := by
  unfold reachT1
  dsimp only
  split
  · rfl
  · rfl

theorem manageTargets_state (stopped : ManagedTrade) (entryPrice initialR : ℚ) :
    (manageTargets manager stopped price entryPrice initialR).1.state =
      if manager.t1R ≤ stopped.peakR ∧ stopped.t1Reached = false then .profitLocked
      else if PartialDue stopped then stopped.state
      else if manager.runnerTargetReferenceR ≤ stopped.peakR then .runnerMode
      else stopped.state := by
  unfold manageTargets
  split
  · exact reachT1_state price stopped entryPrice initialR
  · by_cases due : PartialDue stopped
    · rw [if_pos due, if_pos (show stopped.t1ExitPending = true ∧ _ from due)]
    · rw [if_neg due, if_neg (show ¬(stopped.t1ExitPending = true ∧ _) from due)]
      split
      · rfl
      · rfl

theorem updateStrategyAPosition_state (currentOptionPrice : Option ℚ) (asOf : Option Int) :
    (updateStrategyAPosition manager trade price currentOptionPrice asOf).1.state =
      if Unmanaged manager trade price (currentOptionPrice.getD 0) asOf then trade.state
      else
        let protectedState :=
          (protectedUnderlying manager trade price (currentOptionPrice.getD 0)).state
        if Spared manager trade price (currentOptionPrice.getD 0) then
          if ReachesTarget manager trade price (currentOptionPrice.getD 0) then .profitLocked
          else if PartialDue trade then protectedState
          else if manager.runnerTargetReferenceR ≤
              (trackedUnderlying trade price (currentOptionPrice.getD 0)).peakR then .runnerMode
          else protectedState
        else protectedState := by
  rw [updateStrategyAPosition_trade]
  by_cases unmanaged : Unmanaged manager trade price (currentOptionPrice.getD 0) asOf
  · rw [if_pos unmanaged, if_pos unmanaged]
    split
    · rfl
    · rfl
  have valid : ¬(price ≤ 0 ∨ underlyingEntry trade ≤ 0 ∨ underlyingRisk trade ≤ 0) :=
    fun invalid => unmanaged (.inl invalid)
  rw [if_neg valid, if_neg unmanaged, if_neg unmanaged]
  by_cases spared : Spared manager trade price (currentOptionPrice.getD 0)
  · have keeps := protectBreakeven_keeps manager
      (trackedUnderlying trade price (currentOptionPrice.getD 0)) (underlyingEntry trade)
    obtain ⟨-, peakR, t1Reached⟩ := keeps
    have due := protectedUnderlying_partialDue manager trade price (currentOptionPrice.getD 0)
    rw [if_pos spared, if_neg (show ¬hitsStop trade.direction price _ = true from spared),
      manageTargets_state]
    unfold protectedUnderlying at due ⊢
    rw [peakR, t1Reached]
    simp only [due]
    rfl
  · rw [if_neg spared, if_pos (show hitsStop trade.direction price _ = true from not_not.mp spared)]

theorem protectedUnderlying_rung_iff :
    rung trade.state ≤ rung (protectedUnderlying manager trade price optionPrice).state ↔
      rung trade.state ≤ 1 ∨
        (trackedUnderlying trade price optionPrice).peakR < manager.trailingActivationR := by
  rw [protectedUnderlying_state]
  split
  · rename_i activated
    exact (or_iff_left (not_lt.mpr activated)).symm
  · rename_i waits
    exact iff_of_true le_rfl (.inr (not_le.mp waits))

theorem updateStrategyAPosition_rung_iff (currentOptionPrice : Option ℚ) (asOf : Option Int) :
    rung trade.state ≤
        rung (updateStrategyAPosition manager trade price currentOptionPrice asOf).1.state ↔
      HoldsUnderlyingRung manager trade price (currentOptionPrice.getD 0) asOf := by
  have guarded := protectedUnderlying_rung_iff manager trade price (currentOptionPrice.getD 0)
  rw [updateStrategyAPosition_state]
  unfold HoldsUnderlyingRung
  by_cases unmanaged : Unmanaged manager trade price (currentOptionPrice.getD 0) asOf
  · simp [unmanaged]
  by_cases spared : Spared manager trade price (currentOptionPrice.getD 0)
  · by_cases target : ReachesTarget manager trade price (currentOptionPrice.getD 0)
    · simp only [unmanaged, spared, target, if_true, if_false]
      simpa using rung_le_profitLocked_iff trade.state
    · by_cases due : PartialDue trade
      · simpa [unmanaged, spared, target, due] using guarded
      · by_cases runner : manager.runnerTargetReferenceR ≤
            (trackedUnderlying trade price (currentOptionPrice.getD 0)).peakR
        · simp only [unmanaged, spared, target, due, runner, if_true, if_false]
          simpa using rung_le_runnerMode trade.state
        · simpa [unmanaged, spared, target, due, runner] using guarded
  · simpa [unmanaged, spared] using guarded

end StrategyA

/-! ### The other strategies -/

section Ladder

variable (manager : PositionManager) (trade : ManagedTrade) (features : MarketFeatures)

theorem trailLadder_rung :
    rung (trailLadder manager trade features).state =
      if 1 ≤ trade.peakR then ladderRung trade.peakR else rung trade.state := by
  unfold trailLadder ladderRung
  split_ifs <;> first | rfl | (exfalso; linarith)

theorem tightenByHealth_keeps (closed : ℚ) :
    (tightenByHealth trade features closed).strategy = trade.strategy ∧
      (tightenByHealth trade features closed).peakR = trade.peakR ∧
      (tightenByHealth trade features closed).state = trade.state := by
  unfold tightenByHealth
  split
  · exact ⟨rfl, rfl, rfl⟩
  · split
    · exact ⟨rfl, rfl, rfl⟩
    · exact ⟨rfl, rfl, rfl⟩

theorem manageBar_rung (closed : ℚ) :
    rung (manageBar manager trade features closed).1.state =
      if Unhealthy (scored manager trade features) ∨ trade.peakR < 1 then rung trade.state
      else ladderRung trade.peakR := by
  unfold manageBar
  by_cases critical : 4 ≤ (scored manager trade features).reversalScore
  · rw [if_pos critical, if_pos (.inl (.inl critical))]
    rfl
  by_cases early : 3 ≤ (scored manager trade features).reversalScore ∧
      (scored manager trade features).currentR < 1
  · rw [if_neg critical, if_pos early, if_pos (.inl (.inr early))]
    rfl
  have healthy : ¬Unhealthy (scored manager trade features) := not_or.mpr ⟨critical, early⟩
  have keeps := tightenByHealth_keeps (scored manager trade features) features closed
  have peakR : (scored manager trade features).peakR = trade.peakR := rfl
  rw [if_neg critical, if_neg early, trailLadder_rung, keeps.2.1, keeps.2.2, peakR]
  by_cases inProfit : 1 ≤ trade.peakR
  · rw [if_pos inProfit, if_neg (not_or.mpr ⟨healthy, not_lt.mpr inProfit⟩)]
  · rw [if_neg inProfit, if_pos (.inr (not_le.mp inProfit))]
    rfl

/-- An update of a strategy with a ladder holds the rung of its trade: it manages no bar, or the
trade is unhealthy, or the ladder sets no rung, or the peak has reached the rung. -/
def HoldsLadderRung (given : Update) : Prop :=
  ∀ managed ∈ managedBar manager trade given,
    Unhealthy (scored manager managed.1 given.features) ∨ managed.1.peakR < 1 ∨
      rung trade.state ≤ ladderRung managed.1.peakR

theorem update_rung_iff_of_ladder (given : Update) (other : trade.strategy ≠ .trendPullback) :
    rung trade.state ≤ rung (update manager trade given).state ↔
      HoldsLadderRung manager trade given := by
  have keeps := checkStops_keeps manager (trackSpot trade given.features (given.optionPrice.getD 0))
    given.features (given.optionPrice.getD 0) given.now given.asOf
  obtain ⟨-, -, -, state, -, -⟩ := keeps
  unfold HoldsLadderRung
  rw [update_trade manager given other]
  rcases managed : managedBar manager trade given with _ | ⟨checked, closed⟩
  · refine iff_of_true ?_ (by simp)
    dsimp only
    split
    · exact le_rfl
    · rw [state]
      exact le_rfl
  · rw [← managedBar_some managed] at state
    have same : rung checked.state = rung trade.state := congrArg rung state
    rw [manageBar_rung, same]
    simp only [Option.mem_def, Option.some.injEq, forall_eq']
    split
    · rename_i stays
      exact iff_of_true le_rfl (stays.imp_right .inl)
    · rename_i climbs
      obtain ⟨healthy, inProfit⟩ := not_or.mp climbs
      simp only [healthy, inProfit, false_or]

end Ladder

/-! ### Runs -/

section Run

variable (manager : PositionManager)

def ReportsNoEarlierRung (trade : ManagedTrade) (given : Update) : Prop :=
  rung trade.state ≤ rung (update manager trade given).state

instance (trade : ManagedTrade) (given : Update) :
    Decidable (ReportsNoEarlierRung manager trade given) :=
  inferInstanceAs (Decidable (_ ≤ _))

def HoldsRung (trade : ManagedTrade) (given : Update) : Prop :=
  if trade.strategy = .trendPullback then
    HoldsUnderlyingRung manager trade given.features.futuresPrice (given.optionPrice.getD 0)
      given.asOf
  else HoldsLadderRung manager trade given

theorem reportsNoEarlierRung_iff_holdsRung (trade : ManagedTrade) (given : Update) :
    ReportsNoEarlierRung manager trade given ↔ HoldsRung manager trade given := by
  unfold ReportsNoEarlierRung HoldsRung
  by_cases pullback : trade.strategy = .trendPullback
  · rw [if_pos pullback, update, updatePosition, if_pos pullback]
    exact updateStrategyAPosition_rung_iff manager trade given.features.futuresPrice
      given.optionPrice given.asOf
  · rw [if_neg pullback]
    exact update_rung_iff_of_ladder manager trade given pullback

/-- No update of a run reports an earlier rung exactly when every update holds the rung. -/
theorem lifecycle_climbs_iff (start : ManagedTrade) (updates : List Update) :
    Run.Along (update manager) (ReportsNoEarlierRung manager) start updates ↔
      Run.Along (update manager) (HoldsRung manager) start updates :=
  Run.along_congr (reportsNoEarlierRung_iff_holdsRung manager) start updates

/-- One lot of 65, whose first target is 150 points above the entry. -/
def oneLot : ManagedTrade :=
  .entered "trade" .paper .trendPullback .bullish 65 65 0 24000 100 23900 75

/-- The futures price moves. -/
def futuresAt (price : ℚ) : Update where
  features := { timestamp := 0, spotPrice := price, futuresPrice := price }
  optionPrice := some 120
  now := 0
  asOf := none

/-- The trade locks its profit at the first target, and is protected at breakeven on the next
price. -/
theorem locked_trade_regresses :
    ¬∀ (manager : PositionManager) (start : ManagedTrade) (updates : List Update),
      Run.Along (update manager) (ReportsNoEarlierRung manager) start updates := by
  intro climbs
  have second : ReportsNoEarlierRung (.defaults toString)
      (update (.defaults toString) oneLot (futuresAt 24160)) (futuresAt 24170) :=
    (climbs (.defaults toString) oneLot [futuresAt 24160, futuresAt 24170]).2.1
  exact absurd second (by decide +kernel)

end Run

end BreezeTrading.PositionManager
