/-
This file proves when an evaluation without a price of the underlying leaves a trade alone. For
Strategy A the position manager answers that the risk is invalid, which the service takes for the
reason of an exit. Strategy B falls back to the last spot price, which may set a new best R or lie
beyond a stop tightened since.
-/

import BreezeTrading.Strategy.ExitPrecedence
import Mathlib.Data.List.TakeWhile

namespace BreezeTrading.LiveExit

/-! ### What the handling of orders leaves alone -/

/-- The values of a trade that management compares prices with. -/
structure Levels where
  strategy : StrategyName
  direction : TradeDirection
  entrySpotPrice : ℚ
  underlyingEntryPrice : Option ℚ
  initialRPoints : ℚ
  underlyingR : Option ℚ
  currentSpotPrice : ℚ
  currentTrailingStop : ℚ
  peakR : ℚ
  optionHardStopPrice : ℚ

def levels (trade : ManagedTrade) : Levels where
  strategy := trade.strategy
  direction := trade.direction
  entrySpotPrice := trade.entrySpotPrice
  underlyingEntryPrice := trade.underlyingEntryPrice
  initialRPoints := trade.initialRPoints
  underlyingR := trade.underlyingR
  currentSpotPrice := trade.currentSpotPrice
  currentTrailingStop := trade.currentTrailingStop
  peakR := trade.peakR
  optionHardStopPrice := trade.optionHardStopPrice

section Orders

variable (desk : ExitDesk) (input : ExitInput) (trade : ManagedTrade)

theorem levels_recordProtectiveStopFailure (protection : ProtectionConfig) (unknown : Bool) :
    levels (recordProtectiveStopFailure trade protection unknown).1 = levels trade := by
  unfold recordProtectiveStopFailure
  dsimp only
  split
  · rfl
  · rfl

theorem levels_stateUnknown : levels (stateUnknown desk input).trade = levels desk.trade :=
  levels_recordProtectiveStopFailure desk.trade input.protection true

theorem levels_applyProtectiveProgress (order : SellOrder) :
    levels (applyProtectiveProgress trade order) = levels trade := by
  unfold applyProtectiveProgress
  dsimp only
  split
  · split
    · rfl
    · rfl
  · rfl

theorem levels_placeProtectiveStop :
    levels (placeProtectiveStop desk input).1.trade = levels desk.trade := by
  unfold placeProtectiveStop
  dsimp only
  split
  · rfl
  · rfl

theorem levels_reconcileProtectiveStop (protective : SellOrder) :
    levels (reconcileProtectiveStop desk input protective).1.trade = levels desk.trade := by
  have progressed := levels_applyProtectiveProgress desk.trade protective
  have failed := levels_recordProtectiveStopFailure
    (clearProtectiveStop (applyProtectiveProgress desk.trade protective)) input.protection false
  unfold reconcileProtectiveStop
  dsimp only
  split
  · exact progressed
  split
  · split
    · exact progressed
    split
    · exact failed.trans progressed
    · exact (levels_placeProtectiveStop _ input).trans (failed.trans progressed)
  · split
    · exact progressed
    · exact progressed

theorem levels_syncLiveProtectiveStop :
    levels (syncLiveProtectiveStop desk input).1.trade = levels desk.trade := by
  unfold syncLiveProtectiveStop
  dsimp only
  split
  · rfl
  split
  · rfl
  split
  · split
    · rfl
    · rfl
  split
  · exact levels_placeProtectiveStop desk input
  split
  · exact levels_stateUnknown desk input
  · exact levels_reconcileProtectiveStop desk input _

theorem levels_cancelStanding (orderId : String) :
    levels (cancelStanding desk input orderId).trade = levels desk.trade := by
  unfold cancelStanding
  split
  · exact levels_stateUnknown desk input
  split
  · rfl
  split
  · exact levels_stateUnknown desk input
  · unfold requestCancel
    dsimp only
    split
    · exact levels_stateUnknown _ input
    · rfl

theorem levels_cancelLiveProtectiveStopForExit :
    levels (cancelLiveProtectiveStopForExit desk input).1.trade = levels desk.trade := by
  have synced := levels_syncLiveProtectiveStop desk input
  unfold cancelLiveProtectiveStopForExit
  split
  · rfl
  dsimp only
  split
  · exact synced
  split
  · exact synced
  split
  · split
    · exact synced
    split
    · exact (levels_stateUnknown _ input).trans synced
    · exact (levels_cancelStanding _ input _).trans synced
  · exact (levels_cancelStanding _ input _).trans synced

theorem levels_submitLiveFinalExit (reason : String) :
    levels (submitLiveFinalExit desk input reason).trade = levels desk.trade := by
  have cancelled := levels_cancelLiveProtectiveStopForExit desk input
  unfold submitLiveFinalExit
  split
  · rfl
  split
  · rfl
  dsimp only
  split
  · exact cancelled
  split
  · exact cancelled
  · exact cancelled

theorem levels_submitStrategyBExit (reason : String) :
    levels (submitStrategyBExit desk input reason).trade = levels desk.trade := by
  have cancelled := levels_cancelLiveProtectiveStopForExit desk input
  unfold submitStrategyBExit
  split
  · rfl
  dsimp only
  split
  · exact cancelled
  split
  · exact cancelled
  · exact cancelled

theorem levels_carryOutExitA (reason : String) :
    levels (carryOutExitA desk input reason).trade = levels desk.trade := by
  unfold carryOutExitA
  split
  · rfl
  split
  · exact levels_submitLiveFinalExit desk input reason
  · unfold closeAtBid
    split
    · rfl
    · rfl

theorem levels_applyLiveT1OrderProgress (order : SellOrder) (now : Int) :
    levels (applyLiveT1OrderProgress trade order now) = levels trade := by
  unfold applyLiveT1OrderProgress
  dsimp only
  split
  · rfl
  split
  · rfl
  · rfl

theorem levels_syncLiveT1PartialExit :
    levels (syncLiveT1PartialExit desk input).1.trade = levels desk.trade := by
  unfold syncLiveT1PartialExit
  split
  · rfl
  split
  · rfl
  rename_i order _
  have progressed := levels_applyLiveT1OrderProgress desk.trade order input.now
  dsimp only
  split
  · exact progressed
  split
  · exact (levels_syncLiveProtectiveStop _ input).trans progressed
  · exact progressed

theorem levels_syncExitOrder :
    levels (syncExitOrder desk input).1.trade = levels desk.trade := by
  have progressed (order : SellOrder) :
      levels (applyExitOrderProgress desk.trade order) = levels desk.trade := by
    unfold applyExitOrderProgress
    dsimp only
    split
    · rfl
    split
    · rfl
    · rfl
  unfold syncExitOrder
  split
  · rfl
  split
  · rfl
  dsimp only
  split
  · exact progressed _
  split
  · exact progressed _
  · exact progressed _

theorem levels_reconcile : levels (reconcile desk input).1.trade = levels desk.trade := by
  have stopped : levels (reconcileStop desk input).1.trade = levels desk.trade := by
    unfold reconcileStop
    split
    · exact levels_syncLiveProtectiveStop desk input
    · rfl
  have reduced : levels (reconcilePartial (reconcileStop desk input).1 input).1.trade =
      levels (reconcileStop desk input).1.trade := by
    unfold reconcilePartial
    split
    · exact levels_syncLiveT1PartialExit _ input
    · rfl
  rw [reconcile_eq]
  split
  · exact stopped
  split
  · exact reduced.trans stopped
  · exact (levels_syncExitOrder _ input).trans (reduced.trans stopped)

end Orders

/-! ### What an evaluation decides -/

/-- An exit that needs no price of the underlying: the emergency stop of the option, or the
square-off of the session. -/
def NeedsNoUnderlying (reason : String) : Prop :=
  isOptionEmergencyStop (some reason) = true ∨ reason = "SESSION_FORCE_SQUARE_OFF_1515" ∨
    reason = "SESSION_FORCE_SQUARE_OFF_1520"

/-- Strategy B is managed only with a price of the option. -/
def unmanaged (trade : ManagedTrade) (quote : ExitQuote) : Prop :=
  trade.strategy = .volatilityBreakout ∧ (quote.status ≠ "VALID" ∨ optionPrice quote ≤ 0)

instance (trade : ManagedTrade) (quote : ExitQuote) : Decidable (unmanaged trade quote) :=
  inferInstanceAs (Decidable (_ ∧ _))

/-- The reasons of the position manager that end a trade: all but those of the first target. -/
def endsTrade (event : String) : Bool :=
  decide (event ≠ "T1_PARTIAL_EXIT" ∧ event ≠ "T1_REACHED_NO_PARTIAL_ONE_LOT")

/-- The exit that an evaluation of Strategy A or B decides: what the position manager answers beside
the first target, of a trade whose orders are reconciled and whose exit is not decided yet. -/
def decidedExit (desk : ExitDesk) (input : EvaluationInput) : Option String :=
  let trade := (reconciled desk input).1.trade
  if (reconciled desk input).2 = false ∨ trade.pendingExitReason.isSome = true ∨
      unmanaged trade input.quote then none
  else (managerUpdate trade (usable desk input).toExitInput).2.filter endsTrade

/-- An evaluation decides no exit that needs the underlying, and leaves the stop and the best R of
the trade; unless an exit is decided, or was before, it leaves the state and the pending exit as the
reconciliation of the orders left them. -/
structure LeavesAlone (desk : ExitDesk) (input : EvaluationInput) : Prop where
  exits : ∀ reason ∈ decidedExit desk input, NeedsNoUnderlying reason
  stop : (evaluateActiveTrade desk input).trade.currentTrailingStop =
    desk.trade.currentTrailingStop
  peak : (evaluateActiveTrade desk input).trade.peakR = desk.trade.peakR
  undecided : decidedExit desk input = none →
    (reconciled desk input).1.trade.pendingExitReason = none →
    (evaluateActiveTrade desk input).trade.state = (reconciled desk input).1.trade.state ∧
      (evaluateActiveTrade desk input).trade.pendingExitReason = none

section Evaluation

variable {desk : ExitDesk} {input : EvaluationInput}

theorem usable_futuresPrice :
    (usable desk input).features.futuresPrice = input.features.futuresPrice := by
  show (usableFeatures desk.trade input.features).futuresPrice = input.features.futuresPrice
  unfold usableFeatures
  split
  · rfl
  · rfl

theorem levels_reconciled : levels (reconciled desk input).1.trade = levels desk.trade :=
  levels_reconcile desk (usable desk input).toExitInput

theorem leavesAlone_of_not_ready (waits : (reconciled desk input).2 = false) :
    LeavesAlone desk input := by
  have undecided : decidedExit desk input = none := if_pos (.inl waits)
  have after : evaluateActiveTrade desk input = (reconciled desk input).1 := by
    rw [evaluateActiveTrade_eq, if_neg (Bool.eq_false_iff.mp waits)]
  refine ⟨?_, ?_, ?_, fun _ pending => ?_⟩
  · rw [undecided]
    exact fun _ => nofun
  · rw [after]
    exact congrArg Levels.currentTrailingStop levels_reconciled
  · rw [after]
    exact congrArg Levels.peakR levels_reconciled
  · rw [after]
    exact ⟨rfl, pending⟩

theorem decidedExit_of_managed (ready : (reconciled desk input).2 = true)
    (pending : (reconciled desk input).1.trade.pendingExitReason = none)
    (managed : ¬unmanaged (reconciled desk input).1.trade input.quote) :
    decidedExit desk input =
      (managerUpdate (reconciled desk input).1.trade (usable desk input).toExitInput).2.filter
        endsTrade := by
  refine if_neg (not_or.mpr ⟨?_, not_or.mpr ⟨?_, managed⟩⟩)
  · rw [ready]
    exact nofun
  · rw [pending]
    exact nofun

theorem filter_of_ends {event : Option String}
    (ends : ∀ reason ∈ event, PositionManager.EndsTrade reason) :
    event.filter endsTrade = event := by
  cases event with
  | none => rfl
  | some reason => exact Option.filter_some_pos (decide_eq_true (ends reason rfl).ne_target)

/-! ### Strategy A -/

variable {given : ExitInput} {first second : ManagedTrade}

theorem managerUpdate_of_no_futures {trade : ManagedTrade}
    (strategy : trade.strategy = .trendPullback) (absent : given.features.futuresPrice = 0) :
    managerUpdate trade given = (trade, some "INVALID_INITIAL_UNDERLYING_R") := by
  unfold managerUpdate PositionManager.updatePosition
  rw [if_pos strategy]
  unfold PositionManager.updateStrategyAPosition
  rw [if_pos (.inl absent.le)]

theorem invalid_needs_underlying : ¬NeedsNoUnderlying "INVALID_INITIAL_UNDERLYING_R" := by
  unfold NeedsNoUnderlying
  decide +kernel

/-- Without a price of the futures a trade of Strategy A is left alone only where it is not managed:
its orders wait, or its exit was decided before. -/
theorem leavesAlone_strategyA_iff (strategy : desk.trade.strategy = .trendPullback)
    (absent : input.features.futuresPrice = 0) :
    LeavesAlone desk input ↔ (reconciled desk input).2 = false ∨
      (reconciled desk input).1.trade.pendingExitReason.isSome = true := by
  have kept : (reconciled desk input).1.trade.strategy = .trendPullback :=
    (congrArg Levels.strategy levels_reconciled).trans strategy
  have noFutures : (usable desk input).toExitInput.features.futuresPrice = 0 :=
    usable_futuresPrice.trans absent
  cases ready : (reconciled desk input).2 with
  | false => exact iff_of_true (leavesAlone_of_not_ready ready) (.inl rfl)
  | true =>
    cases pending : (reconciled desk input).1.trade.pendingExitReason with
    | some reason =>
      have undecided : decidedExit desk input = none := if_pos (.inr (.inl (pending ▸ rfl)))
      have after : evaluateActiveTrade desk input =
          carryOutExitA (reconciled desk input).1 (usable desk input).toExitInput reason := by
        rw [evaluateActiveTrade_eq, if_pos ready]
        unfold evaluateByStrategy
        rw [kept]
        unfold evaluateStrategyA
        rw [pending]
      have same : levels (evaluateActiveTrade desk input).trade = levels desk.trade := by
        rw [after]
        exact (levels_carryOutExitA _ _ reason).trans levels_reconciled
      refine iff_of_true ⟨?_, ?_, ?_, ?_⟩ (.inr rfl)
      · rw [undecided]
        exact fun _ => nofun
      · exact congrArg Levels.currentTrailingStop same
      · exact congrArg Levels.peakR same
      · rw [pending]
        exact fun _ => nofun
    | none =>
      have managed : ¬unmanaged (reconciled desk input).1.trade input.quote := by
        unfold unmanaged
        rw [kept]
        exact fun both => nomatch both.1
      have decided : decidedExit desk input = some "INVALID_INITIAL_UNDERLYING_R" := by
        rw [decidedExit_of_managed ready pending managed,
          managerUpdate_of_no_futures kept noFutures]
        rfl
      refine iff_of_false (fun alone => ?_) (by simp)
      exact invalid_needs_underlying (alone.exits _ decided)

/-! ### Strategy B -/

theorem isOptionEmergencyStop_append (head rest : String) (spaced : ' ' ∈ head.toList) :
    isOptionEmergencyStop (some (head ++ rest)) = isOptionEmergencyStop (some head) := by
  have cut : ((head ++ rest).toList.takeWhile fun character => decide (character ≠ ' ')) =
      head.toList.takeWhile fun character => decide (character ≠ ' ') := by
    rw [String.toList_append, List.takeWhile_append, if_neg]
    intro whole
    have all := List.takeWhile_eq_self_iff.mp
      ((List.takeWhile_prefix _).eq_of_length whole)
    exact absurd (all ' ' spaced) (by decide)
  unfold isOptionEmergencyStop
  simp only [Option.getD_some, cut]

/-- The premium of an option is at the hard stop or below. -/
def premiumFallen (trade : ManagedTrade) (premium : ℚ) : Prop :=
  0 < premium ∧ premium ≤ trade.optionHardStopPrice

/-- A spot price is at the stop or beyond. -/
def spotHitsStop (trade : ManagedTrade) (spot : ℚ) : Prop :=
  0 < spot ∧ hitsStop trade.direction spot trade.currentTrailingStop = true

/-- The stops and the square-off end a trade, and need the underlying exactly when the stop is hit
and the premium holds. -/
theorem stopOrSquareOff_cases (manager : PositionManager) (trade : ManagedTrade)
    (features : MarketFeatures) (premium : ℚ) (now : Int) (asOf : Option Int) :
    (∀ reason ∈ PositionManager.stopOrSquareOff manager trade features premium now asOf,
      PositionManager.EndsTrade reason) ∧
    ((∀ reason ∈ PositionManager.stopOrSquareOff manager trade features premium now asOf,
      NeedsNoUnderlying reason) ↔
        premiumFallen trade premium ∨ ¬spotHitsStop trade features.spotPrice) := by
  unfold PositionManager.stopOrSquareOff
  simp only [String.append_assoc]
  split
  · rename_i fallen
    have emergency (rest : String) : NeedsNoUnderlying ("OPTION_HARD_STOP_HIT (LTP " ++ rest) :=
      .inl ((isOptionEmergencyStop_append _ rest (by decide)).trans (by decide +kernel))
    refine ⟨?_, iff_of_true ?_ (.inl fallen)⟩
    · rintro reason ⟨⟩
      exact PositionManager.EndsTrade.append ⟨'O', _, rfl, by decide⟩ _
    · rintro reason ⟨⟩
      exact emergency _
  rename_i holds
  split
  · rename_i hit
    have structural (rest : String) :
        ¬NeedsNoUnderlying ("STRUCTURAL_SPOT_STOP_BREACHED (Spot " ++ rest) := by
      have starts :
          ("STRUCTURAL_SPOT_STOP_BREACHED (Spot " ++ rest).toList.take 2 = ['S', 'T'] := by
        rw [String.toList_append]
        rfl
      rintro (emergency | same | same)
      · rw [isOptionEmergencyStop_append _ rest (by decide)] at emergency
        exact absurd emergency (by decide +kernel)
      · rw [same] at starts
        exact absurd starts (by decide)
      · rw [same] at starts
        exact absurd starts (by decide)
    refine ⟨?_, iff_of_false (fun needs => structural _ (needs _ rfl)) ?_⟩
    · rintro reason ⟨⟩
      exact PositionManager.EndsTrade.append ⟨'S', _, rfl, by decide⟩ _
    · exact not_or.mpr ⟨holds, not_not.mpr hit⟩
  rename_i clear
  split
  · refine ⟨?_, iff_of_true ?_ (.inr clear)⟩
    · rintro reason ⟨⟩
      exact ⟨'S', _, rfl, by decide⟩
    · rintro reason ⟨⟩
      exact .inr (.inr rfl)
  · exact ⟨fun _ => nofun, iff_of_true (fun _ => nofun) (.inr clear)⟩

def spotR (trade : ManagedTrade) (spot : ℚ) : ℚ :=
  roundTo 2 (favorablePoints trade.direction trade.entrySpotPrice spot / trade.initialRPoints)

/-- A trade that follows a spot price. -/
def followed (trade : ManagedTrade) (given : ExitInput) : ManagedTrade :=
  PositionManager.trackR
    (PositionManager.trackSpot trade given.features (toldPremium given.quote)) given.features

theorem managerUpdate_of_no_bar {trade : ManagedTrade}
    (strategy : trade.strategy = .volatilityBreakout) (risk : 0 < trade.initialRPoints)
    (noBar : given.features.closed5mTime = none) :
    managerUpdate trade given = (followed trade given,
      PositionManager.stopOrSquareOff given.manager (followed trade given) given.features
        (toldPremium given.quote) given.now (some given.features.timestamp)) := by
  have notA : trade.strategy ≠ .trendPullback := by
    rw [strategy]
    decide
  have told : (if 0 < optionPrice given.quote then some (roundTo 2 (optionPrice given.quote))
      else none).getD 0 = toldPremium given.quote := by
    unfold toldPremium
    split
    · rfl
    · rfl
  have bar (moved : ManagedTrade) : PositionManager.newBar moved given.features = none := by
    unfold PositionManager.newBar
    rw [noBar]
    rfl
  have checks : PositionManager.checkStops given.manager
      (PositionManager.trackSpot trade given.features (toldPremium given.quote)) given.features
      (toldPremium given.quote) given.now (some given.features.timestamp) =
      (followed trade given, PositionManager.stopOrSquareOff given.manager (followed trade given)
        given.features (toldPremium given.quote) given.now (some given.features.timestamp)) := by
    unfold PositionManager.checkStops
    rw [bar]
    rfl
  unfold managerUpdate PositionManager.updatePosition
  rw [if_neg notA]
  rw [told, if_neg (not_le.mpr risk), bar, checks]
  cases PositionManager.stopOrSquareOff given.manager (followed trade given) given.features
    (toldPremium given.quote) given.now (some given.features.timestamp) with
  | none => rfl
  | some reason => rfl

theorem followed_peakR (trade : ManagedTrade) (given : ExitInput) :
    (followed trade given).peakR = max trade.peakR (spotR trade given.features.spotPrice) := rfl

section

variable (same : levels first = levels second)

include same

theorem spotR_congr (spot : ℚ) : spotR first spot = spotR second spot := by
  unfold spotR
  rw [show first.direction = second.direction from congrArg Levels.direction same,
    show first.entrySpotPrice = second.entrySpotPrice from congrArg Levels.entrySpotPrice same,
    show first.initialRPoints = second.initialRPoints from congrArg Levels.initialRPoints same]

theorem spotHitsStop_congr (spot : ℚ) : spotHitsStop first spot ↔ spotHitsStop second spot := by
  unfold spotHitsStop
  rw [show first.direction = second.direction from congrArg Levels.direction same,
    show first.currentTrailingStop = second.currentTrailingStop from
      congrArg Levels.currentTrailingStop same]

theorem premiumFallen_congr (premium : ℚ) :
    premiumFallen first premium ↔ premiumFallen second premium := by
  unfold premiumFallen
  rw [show first.optionHardStopPrice = second.optionHardStopPrice from
    congrArg Levels.optionHardStopPrice same]

end

theorem levels_evaluateStrategyB {stand : ExitDesk}
    (strategy : stand.trade.strategy = .volatilityBreakout) (risk : 0 < stand.trade.initialRPoints)
    (noBar : given.features.closed5mTime = none)
    (managed : ¬(given.quote.status ≠ "VALID" ∨ optionPrice given.quote ≤ 0)) :
    levels (evaluateStrategyB stand given).trade = levels (followed stand.trade given) ∧
      ((managerUpdate stand.trade given).2 = none → stand.trade.pendingExitReason = none →
        (evaluateStrategyB stand given).trade.state = stand.trade.state ∧
          (evaluateStrategyB stand given).trade.pendingExitReason = none) := by
  have update := managerUpdate_of_no_bar strategy risk noBar
  have ends := (stopOrSquareOff_cases given.manager (followed stand.trade given) given.features
    (toldPremium given.quote) given.now (some given.features.timestamp)).1
  unfold evaluateStrategyB
  rw [if_neg managed, update]
  generalize PositionManager.stopOrSquareOff given.manager (followed stand.trade given)
    given.features (toldPremium given.quote) given.now (some given.features.timestamp) = event
    at ends
  have notPartial : event ≠ some "T1_PARTIAL_EXIT" := fun same => (ends _ same).ne_target.1 rfl
  have notOneLot : event ≠ some "T1_REACHED_NO_PARTIAL_ONE_LOT" :=
    fun same => (ends _ same).ne_target.2 rfl
  rw [if_neg notPartial, if_neg notOneLot]
  constructor
  · split
    · rfl
    split
    · exact levels_submitStrategyBExit _ given _
    · rfl
  · rintro rfl pending
    have undecided : (followed stand.trade given).pendingExitReason = none := pending
    rw [undecided]
    exact ⟨rfl, pending⟩

/-- Without a spot price a trade of Strategy B is left alone unless its last spot price sets a new
best R, or is beyond the stop while the premium holds and no exit is decided. -/
theorem leavesAlone_strategyB_iff (strategy : desk.trade.strategy = .volatilityBreakout)
    (risk : 0 < desk.trade.initialRPoints) (absent : input.features.spotPrice = 0) :
    LeavesAlone desk input ↔ (reconciled desk input).2 = false ∨
      (input.quote.status ≠ "VALID" ∨ optionPrice input.quote ≤ 0) ∨
      (spotR desk.trade desk.trade.currentSpotPrice ≤ desk.trade.peakR ∧
        ((reconciled desk input).1.trade.pendingExitReason.isSome = true ∨
          premiumFallen desk.trade (toldPremium input.quote) ∨
          ¬spotHitsStop desk.trade desk.trade.currentSpotPrice)) := by
  have same : levels (reconciled desk input).1.trade = levels desk.trade := levels_reconciled
  have kept : (reconciled desk input).1.trade.strategy = .volatilityBreakout :=
    (congrArg Levels.strategy same).trans strategy
  have keptRisk : 0 < (reconciled desk input).1.trade.initialRPoints :=
    risk.trans_eq (congrArg Levels.initialRPoints same).symm
  have repaired : usableFeatures desk.trade input.features =
      { input.features with
        spotPrice := desk.trade.currentSpotPrice
        closed5mTime := none
        closed5mPrice := none } := if_pos absent.le
  have noBar : (usable desk input).toExitInput.features.closed5mTime = none :=
    congrArg MarketFeatures.closed5mTime repaired
  have spot : (usable desk input).toExitInput.features.spotPrice = desk.trade.currentSpotPrice :=
    congrArg MarketFeatures.spotPrice repaired
  cases ready : (reconciled desk input).2 with
  | false => exact iff_of_true (leavesAlone_of_not_ready ready) (.inl rfl)
  | true =>
    have after : evaluateActiveTrade desk input =
        evaluateStrategyB (reconciled desk input).1 (usable desk input).toExitInput := by
      rw [evaluateActiveTrade_eq, if_pos ready]
      unfold evaluateByStrategy
      rw [kept]
    by_cases unpriced : input.quote.status ≠ "VALID" ∨ optionPrice input.quote ≤ 0
    · have undecided : decidedExit desk input = none := if_pos (.inr (.inr ⟨kept, unpriced⟩))
      have still : evaluateActiveTrade desk input = (reconciled desk input).1 :=
        after.trans (if_pos unpriced)
      refine iff_of_true ⟨?_, ?_, ?_, fun _ pending => ?_⟩ (.inr (.inl unpriced))
      · rw [undecided]
        exact fun _ => nofun
      · rw [still]
        exact congrArg Levels.currentTrailingStop same
      · rw [still]
        exact congrArg Levels.peakR same
      · rw [still]
        exact ⟨rfl, pending⟩
    obtain ⟨follows, rests⟩ := @levels_evaluateStrategyB (usable desk input).toExitInput
      (reconciled desk input).1 kept keptRisk noBar unpriced
    have update := @managerUpdate_of_no_bar (usable desk input).toExitInput
      (reconciled desk input).1.trade kept keptRisk noBar
    have managed : ¬unmanaged (reconciled desk input).1.trade input.quote :=
      fun both => unpriced both.2
    have hits : spotHitsStop (followed (reconciled desk input).1.trade
        (usable desk input).toExitInput) (usable desk input).features.spotPrice ↔
        spotHitsStop desk.trade desk.trade.currentSpotPrice := by
      rw [← spotHitsStop_congr same, ← spot]
      rfl
    have fallen : premiumFallen (followed (reconciled desk input).1.trade
        (usable desk input).toExitInput) (toldPremium input.quote) ↔
        premiumFallen desk.trade (toldPremium input.quote) := premiumFallen_congr same _
    obtain ⟨ends, needs⟩ := stopOrSquareOff_cases (usable desk input).manager
      (followed (reconciled desk input).1.trade (usable desk input).toExitInput)
      (usable desk input).features (toldPremium input.quote) (usable desk input).now
      (some (usable desk input).features.timestamp)
    rw [hits, fallen] at needs
    have stop : (evaluateActiveTrade desk input).trade.currentTrailingStop =
        desk.trade.currentTrailingStop := by
      rw [after]
      exact (congrArg Levels.currentTrailingStop follows).trans
        (congrArg Levels.currentTrailingStop same)
    have peak : (evaluateActiveTrade desk input).trade.peakR =
        max desk.trade.peakR (spotR desk.trade desk.trade.currentSpotPrice) := by
      rw [after]
      refine (congrArg Levels.peakR follows).trans ((followed_peakR _ _).trans ?_)
      rw [spot, spotR_congr same]
      exact congrArg (max · _) (congrArg Levels.peakR same)
    have decided : (reconciled desk input).1.trade.pendingExitReason = none →
        decidedExit desk input = (managerUpdate (reconciled desk input).1.trade
          (usable desk input).toExitInput).2 := by
      intro pending
      rw [decidedExit_of_managed ready pending managed, update]
      exact filter_of_ends ends
    constructor
    · intro alone
      refine .inr (.inr ⟨max_eq_left_iff.mp (peak.symm.trans alone.peak), ?_⟩)
      cases pending : (reconciled desk input).1.trade.pendingExitReason with
      | some reason => exact .inl rfl
      | none =>
        have exits := alone.exits
        rw [decided pending, update] at exits
        exact .inr (needs.mp exits)
    · rintro (waits | priced | ⟨noPeak, calm⟩)
      · cases waits
      · exact absurd priced unpriced
      refine ⟨?_, stop, peak.trans (max_eq_left noPeak), ?_⟩
      · cases pending : (reconciled desk input).1.trade.pendingExitReason with
        | some reason =>
          rw [show decidedExit desk input = none from if_pos (.inr (.inl (pending ▸ rfl)))]
          exact fun _ => nofun
        | none =>
          rw [pending] at calm
          rw [decided pending, update]
          exact needs.mpr (calm.resolve_left nofun)
      · intro undecided pending
        rw [after]
        exact rests ((decided pending).symm.trans undecided) pending

end Evaluation

/-- When a position without a price of its underlying is left alone. One of Strategy A: it is not
managed, because its orders wait or its exit was decided before. One of Strategy B: its orders wait,
its option has no price, or its last spot price sets no new best R and, unless an exit was decided
before or the premium fell to the hard stop, is not beyond the stop. -/
theorem missing_underlying_leaves_alone_iff (desk : ExitDesk) (input : EvaluationInput) :
    (desk.trade.strategy = .trendPullback → 0 < PositionManager.underlyingEntry desk.trade →
      0 < PositionManager.underlyingRisk desk.trade → input.features.futuresPrice = 0 →
      (LeavesAlone desk input ↔ (reconciled desk input).2 = false ∨
        (reconciled desk input).1.trade.pendingExitReason.isSome = true)) ∧
    (desk.trade.strategy = .volatilityBreakout → 0 < desk.trade.entrySpotPrice →
      0 < desk.trade.initialRPoints → input.features.spotPrice = 0 →
      (LeavesAlone desk input ↔ (reconciled desk input).2 = false ∨
        (input.quote.status ≠ "VALID" ∨ optionPrice input.quote ≤ 0) ∨
        (spotR desk.trade desk.trade.currentSpotPrice ≤ desk.trade.peakR ∧
          ((reconciled desk input).1.trade.pendingExitReason.isSome = true ∨
            premiumFallen desk.trade (toldPremium input.quote) ∨
            ¬spotHitsStop desk.trade desk.trade.currentSpotPrice)))) :=
  ⟨fun strategy _ _ absent => leavesAlone_strategyA_iff strategy absent,
    fun strategy _ risk absent => leavesAlone_strategyB_iff strategy risk absent⟩

/-- Two lots that are simulated, entered at 24000 with a stop of 23900. -/
def simulatedLots (strategy : StrategyName) : ManagedTrade :=
  ManagedTrade.entered "trade" .paper strategy .bullish 130 65 0 24000 100 23900 75

/-- An evaluation at 11:00 with a valid quote and no price of the underlying. -/
def withoutUnderlying : EvaluationInput where
  now := 19800000000
  features := { timestamp := 19800000000, spotPrice := 0, futuresPrice := 0 }
  quote := ⟨"VALID", 90, 91⟩
  manager := .defaults fun _ => ""
  costs := .standard
  protection := ⟨10, 2, 5000000, 3⟩
  orderId := "exit"
  placedStatus := .open
  brokerOrderId := some "broker-exit"
  gateway := some .success

/-- Missing futures close a good position of Strategy A, and a missing spot price closes one of
Strategy B whose stop was tightened beyond its last spot price. -/
theorem missing_underlying_closes_positions :
    (¬∀ (desk : ExitDesk) (input : EvaluationInput), desk.trade.strategy = .trendPullback →
      0 < PositionManager.underlyingEntry desk.trade →
      0 < PositionManager.underlyingRisk desk.trade → input.features.futuresPrice = 0 →
      LeavesAlone desk input) ∧
    (evaluateActiveTrade ⟨simulatedLots .trendPullback, []⟩ withoutUnderlying).trade.exitReason =
      some "INVALID_INITIAL_UNDERLYING_R" ∧
    ¬∀ (desk : ExitDesk) (input : EvaluationInput), desk.trade.strategy = .volatilityBreakout →
      0 < desk.trade.entrySpotPrice → 0 < desk.trade.initialRPoints →
      input.features.spotPrice = 0 → LeavesAlone desk input := by
  refine ⟨fun always => ?_, by decide +kernel, fun always => ?_⟩
  · have alone := always ⟨simulatedLots .trendPullback, []⟩ withoutUnderlying rfl
      (by decide +kernel) (by decide +kernel) rfl
    have decided : decidedExit ⟨simulatedLots .trendPullback, []⟩ withoutUnderlying =
        some "INVALID_INITIAL_UNDERLYING_R" := by decide +kernel
    exact invalid_needs_underlying (alone.exits _ decided)
  · have alone := always
      ⟨{ simulatedLots .volatilityBreakout with
          currentTrailingStop := 24050, currentSpotPrice := 24040, peakR := 1 }, []⟩
      withoutUnderlying rfl (by decide +kernel) (by decide +kernel) rfl
    have decided : decidedExit
        ⟨{ simulatedLots .volatilityBreakout with
          currentTrailingStop := 24050, currentSpotPrice := 24040, peakR := 1 }, []⟩
        withoutUnderlying = some "STRUCTURAL_SPOT_STOP_BREACHED (Spot  <= SL )" := by
      decide +kernel
    have needs := alone.exits _ decided
    unfold NeedsNoUnderlying at needs
    exact absurd needs (by decide +kernel)

end BreezeTrading.LiveExit
