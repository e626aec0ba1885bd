/-
This file proves the discipline of the boxes of Strategy B over all calls. A box comes from one
contiguous window of its session that lies after the last reset; it is in force only while nothing
has rejected, broken, expired or interrupted it; and a signal breaks it out within its limits. As
long as the session of the calls never goes back, every bar is evaluated once.
-/

import BreezeTrading.Lib.Run
import BreezeTrading.Strategy.VolatilityBreakout

namespace BreezeTrading

/-- The call dropped the box, if there was one. -/
def BreakoutReason.clears : BreakoutReason → Bool
  | .invalidData | .outsideWindow | .missingBars | .boxExpired | .structuralExpansion
  | .overextended | .insufficientData | .scoreLow | .riskTooHigh | .qualified => true
  | .alreadyEvaluated | .noWindow | .suspiciousExpansion | .noCompression | .boxTooLarge
  | .boxLocked | .withinBoundaries | .alreadyConsumed => false

/-- The call looked for a box and found none. -/
def BreakoutReason.searches : BreakoutReason → Bool
  | .noWindow | .suspiciousExpansion | .noCompression | .boxTooLarge => true
  | .invalidData | .outsideWindow | .alreadyEvaluated | .missingBars | .boxExpired | .boxLocked
  | .structuralExpansion | .withinBoundaries | .overextended | .insufficientData | .scoreLow
  | .riskTooHigh | .alreadyConsumed | .qualified => false

/-- The call was over before its bar was evaluated. -/
def BreakoutReason.precedes : BreakoutReason → Bool
  | .invalidData | .outsideWindow | .alreadyEvaluated => true
  | .missingBars | .boxExpired | .noWindow | .suspiciousExpansion | .noCompression | .boxTooLarge
  | .boxLocked | .structuralExpansion | .withinBoundaries | .overextended | .insufficientData
  | .scoreLow | .riskTooHigh | .alreadyConsumed | .qualified => false

theorem BreakoutReason.precedes_of_searches (reason : BreakoutReason)
    (searches : reason.searches = true) : reason.precedes = false := by
  cases reason <;> simp_all [BreakoutReason.searches, BreakoutReason.precedes]

namespace VolatilityBreakoutStrategy

/-! ### What a call can do -/

section Call

variable (config : VolatilityBreakoutConfig) (strategy : VolatilityBreakoutStrategy)
  (call : BreakoutCall) (trigger : MarketCandle)

/-- The data of the call are valid, and the trigger is its last bar. -/
structure ValidCall : Prop where
  last : call.bars.getLast? = some trigger
  valid : validData call.features call.bars trigger = true

/-- The bar ended after the last one that was evaluated in its session. -/
def NewBar : Prop := ∀ last ∈ (opened config strategy call trigger).lastBar, last < trigger.endTime

/-- The close of the bar is beyond the trigger price of a direction. -/
def Beyond (settings : BreakoutSettings) (box : CompressionBox) (trigger : MarketCandle) :
    TradeDirection → Prop
  | .bullish => triggerPrice settings box .bullish < trigger.close
  | .bearish => trigger.close < triggerPrice settings box .bearish

/-- The bars since the lock leave none out, and are not too many. -/
structure Follows (box : CompressionBox) : Prop where
  contiguous : followsAnchor box.createdBarTime (activeBars call.bars box) = true
  young : ((activeBars call.bars box).length : Int) ≤ box.maxBars

/-- The close breaks the box out within the limits of extension and risk. -/
structure Breaks (box : CompressionBox) (direction : TradeDirection) : Prop where
  outside : Beyond (settings config call.overrides) box trigger direction
  extension : extension box trigger direction ≤
    (settings config call.overrides).maxExt * box.atrAtLock + 1 / 1000000000
  risk : 0 < riskPoints box trigger direction ∧
    riskPoints box trigger direction ≤ 6 / 5 * box.atrAtLock + 1 / 1000000000

/-- The window that a box is locked on. -/
structure Locks (window : List MarketCandle) : Prop where
  latest : window = lastItems config.lookbackBars
    (call.bars.filter ((marked config strategy call trigger).eligible (istDay trigger.endTime)))
  enough : config.lookbackBars ≤ window.length
  contiguous : contiguous window = true

/-- What a call can do. -/
inductive Decided : VolatilityBreakoutStrategy × BreakoutDecision → Prop
  | invalid : Decided (strategy.reset call.features.timestamp, finish .invalidData none)
  | outside (trigger : MarketCandle) (valid : ValidCall call trigger) :
      Decided ((opened config strategy call trigger).reset trigger.endTime,
        finish .outsideWindow none)
  | repeated (trigger : MarketCandle) (valid : ValidCall call trigger) :
      Decided (opened config strategy call trigger, finish .alreadyEvaluated none)
  | searched (trigger : MarketCandle) (valid : ValidCall call trigger)
      (new : NewBar config strategy call trigger)
      (free : (opened config strategy call trigger).lockedBox = none)
      (reason : BreakoutReason) (searches : reason.searches = true) :
      Decided (marked config strategy call trigger, finish reason none)
  | locked (trigger : MarketCandle) (valid : ValidCall call trigger)
      (new : NewBar config strategy call trigger)
      (free : (opened config strategy call trigger).lockedBox = none)
      (window : List MarketCandle) (locks : Locks config strategy call trigger window) :
      Decided ({ marked config strategy call trigger with
          lockedBox := some (boxOf (settings config call.overrides) call.features trigger window) },
        finish .boxLocked none)
  | dropped (trigger : MarketCandle) (valid : ValidCall call trigger)
      (new : NewBar config strategy call trigger) (reason : BreakoutReason)
      (clears : reason.clears = true) (evaluated : reason.precedes = false) :
      Decided ((marked config strategy call trigger).reset trigger.endTime, finish reason none)
  | waited (trigger : MarketCandle) (valid : ValidCall call trigger)
      (new : NewBar config strategy call trigger) (box : CompressionBox)
      (boxed : (opened config strategy call trigger).lockedBox = some box)
      (follows : Follows call box)
      (within : ∀ direction, ¬Beyond (settings config call.overrides) box trigger direction) :
      Decided ({ marked config strategy call trigger with lockedBox := some (aged call.bars box) },
        finish .withinBoundaries none)
  | turnedAway (trigger : MarketCandle) (valid : ValidCall call trigger)
      (new : NewBar config strategy call trigger) (box : CompressionBox)
      (boxed : (opened config strategy call trigger).lockedBox = some box)
      (follows : Follows call box) (direction : TradeDirection)
      (known : strategy.consumed = some (signalKey box trigger direction)) :
      Decided ({ marked config strategy call trigger with lockedBox := some (aged call.bars box) },
        finish .alreadyConsumed none)
  | signalled (trigger : MarketCandle) (valid : ValidCall call trigger)
      (new : NewBar config strategy call trigger) (box : CompressionBox)
      (boxed : (opened config strategy call trigger).lockedBox = some box)
      (follows : Follows call box) (direction : TradeDirection)
      (breaks : Breaks config call trigger box direction) :
      Decided ({ marked config strategy call trigger with
          consumed := some (signalKey box trigger direction) }.reset trigger.endTime,
        finish .qualified (some (signalOf (settings config call.overrides) call.features box
          trigger direction)))

variable {config strategy call trigger}

@[simp] theorem opened_consumed : (opened config strategy call trigger).consumed =
    strategy.consumed := by
  unfold opened checkSettings openSession reset
  split_ifs <;> rfl

@[simp] theorem opened_session : (opened config strategy call trigger).session =
    some (istDay trigger.endTime) := by
  unfold opened checkSettings openSession reset
  split_ifs with same
  · exact same
  · exact same
  · rfl
  · rfl

theorem opened_lastBar : (opened config strategy call trigger).lastBar =
    if strategy.session = some (istDay trigger.endTime) then strategy.lastBar else none := by
  unfold opened checkSettings openSession reset
  split_ifs <;> rfl

theorem opened_lockedBox {box : CompressionBox}
    (boxed : (opened config strategy call trigger).lockedBox = some box) :
    strategy.lockedBox = some box ∧ strategy.session = some (istDay trigger.endTime) ∧
      (∀ known ∈ strategy.fingerprint, known = settings config call.overrides) ∧
      (opened config strategy call trigger).after = strategy.after := by
  unfold opened checkSettings openSession reset at boxed ⊢
  split_ifs at boxed ⊢ with same known
  refine ⟨boxed, same, fun fingerprint isKnown => ?_, rfl⟩
  rw [isKnown] at known
  simpa using known

section Breakout

variable (settings : BreakoutSettings) (features : BreakoutFeatures)
  (strategy : VolatilityBreakoutStrategy) (box : CompressionBox) (trigger : MarketCandle)

theorem evaluateBreakout_cases (direction : TradeDirection) :
    (∃ reason, BreakoutReason.clears reason = true ∧ reason.precedes = false ∧
        evaluateBreakout settings features strategy box trigger direction =
          (strategy.reset trigger.endTime, finish reason none)) ∨
      (strategy.consumed = some (signalKey box trigger direction) ∧
        evaluateBreakout settings features strategy box trigger direction =
          (strategy, finish .alreadyConsumed none)) ∨
      (VolatilityBreakoutStrategy.extension box trigger direction ≤
          settings.maxExt * box.atrAtLock + 1 / 1000000000 ∧
        (0 < riskPoints box trigger direction ∧
          riskPoints box trigger direction ≤ 6 / 5 * box.atrAtLock + 1 / 1000000000) ∧
        evaluateBreakout settings features strategy box trigger direction =
          ({ strategy with consumed := some (signalKey box trigger direction) }.reset
              trigger.endTime,
            finish .qualified (some (signalOf settings features box trigger direction)))) := by
  unfold evaluateBreakout
  dsimp only
  split_ifs with overextended insufficient low risk consumed
  · exact .inl ⟨_, rfl, rfl, rfl⟩
  · exact .inl ⟨_, rfl, rfl, rfl⟩
  · exact .inl ⟨_, rfl, rfl, rfl⟩
  · exact .inr (.inl ⟨consumed, rfl⟩)
  · exact .inr (.inr ⟨not_lt.mp overextended, risk, rfl⟩)
  · exact .inl ⟨_, rfl, rfl, rfl⟩

theorem evaluateBox_cases :
    evaluateBox settings features strategy box trigger =
        (strategy.reset trigger.endTime, finish .structuralExpansion none) ∨
      (∃ direction, Beyond settings box trigger direction ∧
        evaluateBox settings features strategy box trigger =
          evaluateBreakout settings features strategy box trigger direction) ∨
      ((∀ direction, ¬Beyond settings box trigger direction) ∧
        evaluateBox settings features strategy box trigger =
          (strategy, finish .withinBoundaries none)) := by
  unfold evaluateBox
  split_ifs with expands above below
  · exact .inl rfl
  · exact .inr (.inl ⟨.bullish, above, rfl⟩)
  · exact .inr (.inl ⟨.bearish, below, rfl⟩)
  · refine .inr (.inr ⟨fun direction => ?_, rfl⟩)
    cases direction
    · exact above
    · exact below

end Breakout

section

variable (valid : ValidCall call trigger) (new : NewBar config strategy call trigger)

include valid new

theorem manageBox_decided {box : CompressionBox}
    (boxed : (opened config strategy call trigger).lockedBox = some box) :
    Decided config strategy call (manageBox (settings config call.overrides) call.features
      (marked config strategy call trigger) call.bars trigger box) := by
  unfold manageBox
  by_cases missing : followsAnchor box.createdBarTime (activeBars call.bars box) = false
  · rw [if_pos missing]
    exact .dropped trigger valid new .missingBars rfl rfl
  by_cases expired : (aged call.bars box).maxBars < (aged call.bars box).barsActive
  · rw [if_neg missing, if_pos expired]
    exact .dropped trigger valid new .boxExpired rfl rfl
  rw [if_neg missing, if_neg expired]
  have follows : Follows call box := ⟨by simpa using missing, not_lt.mp expired⟩
  have known : ∀ direction, (marked config strategy call trigger).consumed =
      some (signalKey box trigger direction) → strategy.consumed =
      some (signalKey box trigger direction) := fun direction isKnown => by
    rw [← opened_consumed]
    exact isKnown
  have broken : ∀ direction, Beyond (settings config call.overrides) box trigger direction →
      Decided config strategy call (evaluateBreakout (settings config call.overrides) call.features
        { marked config strategy call trigger with lockedBox := some (aged call.bars box) }
        (aged call.bars box) trigger direction) := by
    intro direction beyond
    rcases evaluateBreakout_cases (settings config call.overrides) call.features
        { marked config strategy call trigger with lockedBox := some (aged call.bars box) }
        (aged call.bars box) trigger direction with
      ⟨reason, clears, evaluated, ran⟩ | ⟨consumed, ran⟩ | ⟨extension, risk, ran⟩
    · rw [ran]
      exact .dropped trigger valid new reason clears evaluated
    · rw [ran]
      exact .turnedAway trigger valid new box boxed follows direction (known direction consumed)
    · rw [ran]
      exact .signalled trigger valid new box boxed follows direction ⟨beyond, extension, risk⟩
  rcases evaluateBox_cases (settings config call.overrides) call.features
      { marked config strategy call trigger with lockedBox := some (aged call.bars box) }
      (aged call.bars box) trigger with
    ran | ⟨direction, beyond, ran⟩ | ⟨within, ran⟩
  · rw [ran]
    exact .dropped trigger valid new .structuralExpansion rfl rfl
  · rw [ran]
    exact broken direction beyond
  · rw [ran]
    exact .waited trigger valid new box boxed follows within

theorem searchBox_decided (free : (opened config strategy call trigger).lockedBox = none) :
    Decided config strategy call (searchBox (settings config call.overrides) call.features
      (marked config strategy call trigger) call.bars trigger (istDay trigger.endTime)) := by
  unfold searchBox
  dsimp only
  split_ifs with short
  · exact .searched trigger valid new free .noWindow rfl
  · exact .searched trigger valid new free .suspiciousExpansion rfl
  · rw [not_or, not_lt, Bool.not_eq_false] at short
    exact .locked trigger valid new free _ ⟨rfl, short.1, short.2⟩
  · exact .searched trigger valid new free .boxTooLarge rfl
  · exact .searched trigger valid new free .noCompression rfl

end

theorem decision_decided (config : VolatilityBreakoutConfig)
    (strategy : VolatilityBreakoutStrategy) (call : BreakoutCall) :
    Decided config strategy call (decision config strategy call) := by
  unfold decision
  cases last : call.bars.getLast? with
  | none => exact .invalid
  | some trigger =>
    dsimp only
    split_ifs with isValid
    · have valid : ValidCall call trigger := ⟨last, isValid⟩
      unfold evaluateBar
      dsimp only
      split
      · exact .outside trigger valid
      split
      · exact .repeated trigger valid
      · rename_i known
        have new : NewBar config strategy call trigger := by
          intro last isLast
          rw [isLast] at known
          simpa using known
        cases boxed : (marked config strategy call trigger).lockedBox with
        | none => exact searchBox_decided valid new boxed
        | some box => exact manageBox_decided valid new boxed
    · exact .invalid

end Call

/-! ### Boxes -/

section Box

variable {config : VolatilityBreakoutConfig} {calls : List BreakoutCall}
  {strategy : VolatilityBreakoutStrategy} {call : BreakoutCall} {box : CompressionBox}

/-- The high and the low of a box are those of the bars of a window. -/
structure Spans (window : List MarketCandle) (box : CompressionBox) : Prop where
  high : IsGreatest {price | ∃ bar ∈ window, bar.high = price} box.boxHigh
  low : IsLeast {price | ∃ bar ∈ window, bar.low = price} box.boxLow

/-- A box is the high and the low of as many contiguous bars of a call as the strategy looks back,
all of the session, and all ending after the last reset. -/
def BoxLaw (config : VolatilityBreakoutConfig) (calls : List BreakoutCall)
    (strategy : VolatilityBreakoutStrategy) (box : CompressionBox) : Prop :=
  ∃ call ∈ calls, ∃ window : List MarketCandle, window.Sublist call.bars ∧
    window.length = config.lookbackBars ∧ contiguous window = true ∧
    (∀ bar ∈ window, strategy.session = some (istDay bar.startTime)) ∧
    (∀ bar ∈ window, ∀ after ∈ strategy.after, after < bar.endTime) ∧ Spans window box

theorem boxOf_spans (settings : BreakoutSettings) (features : BreakoutFeatures)
    (trigger : MarketCandle) {window : List MarketCandle} (nonempty : window ≠ []) :
    Spans window (boxOf settings features trigger window) := by
  have highest : IsGreatest {price | ∃ bar ∈ window, bar.high = price} (highest window) := by
    unfold VolatilityBreakoutStrategy.highest
    obtain ⟨greatest, isGreatest⟩ := Option.isSome_iff_exists.mp
      (List.isSome_max?_of_ne_nil (mt List.map_eq_nil_iff.mp nonempty :
        (window.map fun bar => bar.high) ≠ []))
    rw [isGreatest]
    obtain ⟨member, bounds⟩ := List.max?_eq_some_iff.mp isGreatest
    refine ⟨List.mem_map.mp member, ?_⟩
    rintro price ⟨bar, inWindow, rfl⟩
    exact bounds _ (List.mem_map_of_mem inWindow)
  have lowest : IsLeast {price | ∃ bar ∈ window, bar.low = price} (lowest window) := by
    unfold VolatilityBreakoutStrategy.lowest
    obtain ⟨least, isLeast⟩ := Option.isSome_iff_exists.mp
      (List.isSome_min?_of_ne_nil (mt List.map_eq_nil_iff.mp nonempty :
        (window.map fun bar => bar.low) ≠ []))
    rw [isLeast]
    obtain ⟨member, bounds⟩ := List.min?_eq_some_iff.mp isLeast
    refine ⟨List.mem_map.mp member, ?_⟩
    rintro price ⟨bar, inWindow, rfl⟩
    exact bounds _ (List.mem_map_of_mem inWindow)
  exact ⟨highest, lowest⟩

theorem Locks.boxLaw {trigger : MarketCandle} {window : List MarketCandle}
    (locks : Locks config strategy call trigger window) (lookback : 0 < config.lookbackBars)
    (member : call ∈ calls) :
    let box := boxOf (settings config call.overrides) call.features trigger window
    BoxLaw config calls { marked config strategy call trigger with lockedBox := some box } box := by
  have counted : window.length = config.lookbackBars := by
    refine le_antisymm ?_ locks.enough
    rw [locks.latest]
    exact lastItems_length_le lookback _
  have sub : window.Sublist (call.bars.filter
      ((marked config strategy call trigger).eligible (istDay trigger.endTime))) := by
    rw [locks.latest]
    exact lastItems_sublist _ _
  have eligible : ∀ bar ∈ window, istDay bar.startTime = istDay trigger.endTime ∧
      ∀ after ∈ (marked config strategy call trigger).after, after < bar.endTime := by
    intro bar inWindow
    have passes := (List.mem_filter.mp (sub.mem inWindow)).2
    unfold VolatilityBreakoutStrategy.eligible at passes
    rw [Bool.and_eq_true, decide_eq_true_eq] at passes
    refine ⟨passes.1, fun after isAfter => ?_⟩
    have later := passes.2
    rw [isAfter] at later
    simpa using later
  have session : (marked config strategy call trigger).session = some (istDay trigger.endTime) :=
    opened_session
  refine ⟨call, member, window, sub.trans List.filter_sublist, counted, locks.contiguous,
    fun bar inWindow => ?_, fun bar inWindow => (eligible bar inWindow).2, boxOf_spans _ _ _ ?_⟩
  · rw [(eligible bar inWindow).1]
    exact session
  · exact List.ne_nil_of_length_pos (counted ▸ lookback)

/-- The box in force obeys the law, and was locked by an evaluated bar. -/
def Boxed (config : VolatilityBreakoutConfig) (calls : List BreakoutCall)
    (strategy : VolatilityBreakoutStrategy) : Prop :=
  ∀ box ∈ strategy.lockedBox, BoxLaw config calls strategy box ∧
    ∃ last ∈ strategy.lastBar, box.createdBarTime ≤ last

section

variable (boxed : Boxed config calls strategy)

include boxed

theorem Boxed.created_lt {trigger : MarketCandle} (new : NewBar config strategy call trigger)
    (inForce : (opened config strategy call trigger).lockedBox = some box) :
    box.createdBarTime < trigger.endTime := by
  obtain ⟨before, session, -, -⟩ := opened_lockedBox inForce
  obtain ⟨-, last, isLast, le⟩ := boxed box before
  refine le.trans_lt (new last ?_)
  rw [opened_lastBar, if_pos session]
  exact isLast

theorem Boxed.opened (trigger : MarketCandle) :
    Boxed config calls (opened config strategy call trigger) := by
  intro box inForce
  obtain ⟨before, session, -, after⟩ := opened_lockedBox inForce
  obtain ⟨⟨locking, member, window, sub, counted, chained, sessions, resets, spans⟩, last, isLast,
    le⟩ := boxed box before
  refine ⟨⟨locking, member, window, sub, counted, chained, ?_, ?_, spans⟩, last, ?_, le⟩
  · rw [opened_session, ← session]
    exact sessions
  · rw [after]
    exact resets
  · rw [opened_lastBar, if_pos session]
    exact isLast

theorem Boxed.aged {trigger : MarketCandle} (new : NewBar config strategy call trigger) (inForce :
      (VolatilityBreakoutStrategy.opened config strategy call trigger).lockedBox = some box) :
    Boxed config calls { marked config strategy call trigger with
      lockedBox := some (aged call.bars box) } := by
  intro other isAged
  obtain rfl := Option.mem_some_iff.mp isAged
  obtain ⟨⟨locking, member, window, sub, counted, chained, sessions, resets, spans⟩, -⟩ :=
    boxed.opened trigger box inForce
  exact ⟨⟨locking, member, window, sub, counted, chained, sessions, resets, spans.1, spans.2⟩,
    trigger.endTime, rfl, (boxed.created_lt new inForce).le⟩

theorem Boxed.step (lookback : 0 < config.lookbackBars) (member : call ∈ calls) :
    Boxed config calls (step config strategy call) := by
  have decided := decision_decided config strategy call
  unfold VolatilityBreakoutStrategy.step
  generalize decision config strategy call = outcome at decided ⊢
  cases decided with
  | invalid | outside => exact fun box none => by cases none
  | repeated trigger valid => exact boxed.opened trigger
  | searched trigger valid new free reason searches =>
    intro box inForce
    have isSome : (VolatilityBreakoutStrategy.opened config strategy call trigger).lockedBox =
        some box := inForce
    rw [free] at isSome
    cases isSome
  | locked trigger valid new free window locks =>
    intro box inForce
    obtain rfl := Option.mem_some_iff.mp inForce
    exact ⟨locks.boxLaw lookback member, trigger.endTime, rfl, le_rfl⟩
  | dropped trigger valid new reason clears evaluated => exact fun box none => by cases none
  | waited trigger valid new box inForce follows within => exact boxed.aged new inForce
  | turnedAway trigger valid new box inForce follows direction known =>
    exact boxed.aged new inForce
  | signalled trigger valid new box inForce follows direction breaks =>
    exact fun box none => by cases none

end

end Box

/-! ### Calls -/

section Calls

variable (config : VolatilityBreakoutConfig) (strategy : VolatilityBreakoutStrategy)
  (call : BreakoutCall)

/-- A signal breaks a box out on a completed bar, after the lock and within the limits. -/
structure BreaksOut (box : CompressionBox) (trigger : MarketCandle) (signal : BreakoutSignal) :
    Prop where
  onBar : signal.timestamp = trigger.endTime ∧ signal.spotReferencePrice = trigger.close
  ofBox : signal.boxHigh = box.boxHigh ∧ signal.boxLow = box.boxLow ∧
    signal.atrAtLock = box.atrAtLock ∧ signal.boxCreatedTime = box.createdBarTime
  later : box.createdBarTime < trigger.endTime
  follows : Follows call box
  above : signal.direction = .bullish →
    roundTo 2 (box.boxHigh + (settings config call.overrides).bufAtr * box.atrAtLock) <
        trigger.close ∧
      trigger.close - box.boxHigh ≤
        (settings config call.overrides).maxExt * box.atrAtLock + 1 / 1000000000
  below : signal.direction = .bearish →
    trigger.close <
        roundTo 2 (box.boxLow - (settings config call.overrides).bufAtr * box.atrAtLock) ∧
      box.boxLow - trigger.close ≤
        (settings config call.overrides).maxExt * box.atrAtLock + 1 / 1000000000
  risk : 0 < signal.rPoints ∧ signal.rPoints ≤ 6 / 5 * box.atrAtLock + 1 / 1000000000

/-- A box stays in force only by a call of its session and its settings, on a bar that was
evaluated already or that follows the lock, without breaking out unless its signal was consumed
already. -/
structure Keeps (reason : BreakoutReason) (box : CompressionBox) : Prop where
  opens : ∃ trigger, ValidCall call trigger ∧ strategy.session = some (istDay trigger.endTime)
  settings : ∀ known ∈ strategy.fingerprint, known = settings config call.overrides
  same : ∃ old ∈ strategy.lockedBox,
    (reason = .alreadyEvaluated ∧ box = old) ∨
      (box = aged call.bars old ∧ Follows call old ∧
        (reason = .alreadyConsumed ∨ reason = .withinBoundaries ∧
          ∀ trigger ∈ call.bars.getLast?, ∀ direction,
            ¬Beyond (VolatilityBreakoutStrategy.settings config call.overrides) old trigger
              direction))

/-- The box was locked by the call, on its last bar. -/
def LockedNow (reason : BreakoutReason) (box : CompressionBox) : Prop :=
  reason = .boxLocked ∧ box.barsActive = 0 ∧
    ∃ trigger, ValidCall call trigger ∧ box.createdBarTime = trigger.endTime

/-- What a call gives, and does to the box in force. -/
structure CallLaw (outcome : VolatilityBreakoutStrategy × BreakoutDecision) : Prop where
  signals : ∀ signal ∈ outcome.2.signal, outcome.2.reason = .qualified ∧
    ∃ box ∈ strategy.lockedBox, ∃ trigger, ValidCall call trigger ∧
      BreaksOut config call box trigger signal
  clears : outcome.2.reason.clears = true → outcome.1.lockedBox = none
  keeps : ∀ box ∈ outcome.1.lockedBox,
    LockedNow call outcome.2.reason box ∨ Keeps config strategy call outcome.2.reason box

variable {config strategy call} {calls : List BreakoutCall}

theorem Breaks.breaksOut {box : CompressionBox} {trigger : MarketCandle}
    {direction : TradeDirection} (breaks : Breaks config call trigger box direction)
    (later : box.createdBarTime < trigger.endTime) (follows : Follows call box) :
    BreaksOut config call box trigger
      (signalOf (settings config call.overrides) call.features box trigger direction) where
  onBar := ⟨rfl, rfl⟩
  ofBox := ⟨rfl, rfl, rfl, rfl⟩
  later
  follows
  above := by
    rintro rfl
    have extends_ := breaks.extension
    unfold VolatilityBreakoutStrategy.extension sign edge at extends_
    rw [if_pos rfl, if_pos rfl, one_mul] at extends_
    exact ⟨breaks.outside, extends_⟩
  below := by
    rintro rfl
    have extends_ := breaks.extension
    unfold VolatilityBreakoutStrategy.extension sign edge at extends_
    rw [if_neg (by decide), if_neg (by decide), neg_one_mul, neg_sub] at extends_
    exact ⟨breaks.outside, extends_⟩
  risk := breaks.risk

theorem Boxed.callLaw (boxed : Boxed config calls strategy) (call : BreakoutCall) :
    CallLaw config strategy call (decision config strategy call) := by
  have decided := decision_decided config strategy call
  generalize decision config strategy call = outcome at decided ⊢
  cases decided with
  | invalid | outside | dropped => exact ⟨by simp [finish], fun _ => rfl, by simp [reset]⟩
  | repeated trigger valid =>
    refine ⟨by simp [finish], by simp [finish, BreakoutReason.clears], fun box inForce => .inr ?_⟩
    obtain ⟨before, session, settings, -⟩ := opened_lockedBox inForce
    exact ⟨⟨trigger, valid, session⟩, settings, box, before, .inl ⟨rfl, rfl⟩⟩
  | searched trigger valid new free reason searches =>
    refine ⟨by simp [finish], fun _ => free, fun box inForce => ?_⟩
    have isSome : (VolatilityBreakoutStrategy.opened config strategy call trigger).lockedBox =
        some box := inForce
    rw [free] at isSome
    cases isSome
  | locked trigger valid new free window locks =>
    refine ⟨by simp [finish], by simp [finish, BreakoutReason.clears], fun box inForce => .inl ?_⟩
    obtain rfl := Option.mem_some_iff.mp inForce
    exact ⟨rfl, rfl, trigger, valid, rfl⟩
  | waited trigger valid new old inForce follows within =>
    refine ⟨by simp [finish], by simp [finish, BreakoutReason.clears], fun box isAged => .inr ?_⟩
    obtain rfl := Option.mem_some_iff.mp isAged
    obtain ⟨before, session, settings, -⟩ := opened_lockedBox inForce
    refine ⟨⟨trigger, valid, session⟩, settings, old, before,
      .inr ⟨rfl, follows, .inr ⟨rfl, fun last isLast => ?_⟩⟩⟩
    obtain rfl : trigger = last := Option.some_inj.mp (valid.last.symm.trans isLast)
    exact within
  | turnedAway trigger valid new old inForce follows direction known =>
    refine ⟨by simp [finish], by simp [finish, BreakoutReason.clears], fun box isAged => .inr ?_⟩
    obtain rfl := Option.mem_some_iff.mp isAged
    obtain ⟨before, session, settings, -⟩ := opened_lockedBox inForce
    exact ⟨⟨trigger, valid, session⟩, settings, old, before, .inr ⟨rfl, follows, .inl rfl⟩⟩
  | signalled trigger valid new box inForce follows direction breaks =>
    refine ⟨fun signal isSignal => ?_, fun _ => rfl, by simp [reset]⟩
    obtain rfl := Option.mem_some_iff.mp isSignal
    exact ⟨rfl, box, (opened_lockedBox inForce).1, trigger, valid,
      breaks.breaksOut (boxed.created_lt new inForce) follows⟩

end Calls

/-! ### Sessions -/

section Sessions

variable {config : VolatilityBreakoutConfig} {strategy : VolatilityBreakoutStrategy}
  {call : BreakoutCall} {trigger : MarketCandle} {time : Int}

/-- The session of a call is not before the session of the strategy. -/
def SessionForward (strategy : VolatilityBreakoutStrategy) (call : BreakoutCall) : Prop :=
  ∀ trigger, ValidCall call trigger → ∀ session ∈ strategy.session,
    session ≤ istDay trigger.endTime

/-- A time is of an earlier session, or not after the last bar. -/
def Past (strategy : VolatilityBreakoutStrategy) (time : Int) : Prop :=
  ∃ session ∈ strategy.session, istDay time < session ∨
    istDay time = session ∧ ∃ last ∈ strategy.lastBar, time ≤ last

section

variable (past : Past strategy time) (forward : SessionForward strategy call)
  (valid : ValidCall call trigger)

include past forward valid

theorem Past.opened : Past (opened config strategy call trigger) time := by
  obtain ⟨session, known, earlier | ⟨sameDay, last, isLast, le⟩⟩ := past
  · exact ⟨_, opened_session, .inl (earlier.trans_le (forward trigger valid session known))⟩
  · refine ⟨_, opened_session, ?_⟩
    rcases (forward trigger valid session known).lt_or_eq with newer | same
    · exact .inl (sameDay.trans_lt newer)
    · rw [opened_lastBar, if_pos (known.trans (congrArg some same))]
      exact .inr ⟨sameDay.trans same, last, isLast, le⟩

theorem Past.lt_new (new : NewBar config strategy call trigger) : time < trigger.endTime := by
  have pastOpened : Past (VolatilityBreakoutStrategy.opened config strategy call trigger) time :=
    past.opened forward valid
  obtain ⟨session, known, earlier | ⟨sameDay, last, isLast, le⟩⟩ := pastOpened
  all_goals
    rw [opened_session] at known
    obtain rfl := Option.some_inj.mp known
  · by_contra notBefore
    exact absurd (istDay_mono (not_lt.mp notBefore)) (not_le.mpr earlier)
  · exact le.trans_lt (new last isLast)

end

theorem past_marked {time : Int} (le : time ≤ trigger.endTime) :
    Past (marked config strategy call trigger) time := by
  refine ⟨_, opened_session, ?_⟩
  rcases (istDay_mono le).lt_or_eq with earlier | sameDay
  · exact .inl earlier
  · exact .inr ⟨sameDay, trigger.endTime, rfl, le⟩

theorem Past.step (past : Past strategy time) (forward : SessionForward strategy call) :
    Past (step config strategy call) time := by
  have decided := decision_decided config strategy call
  have later : ∀ trigger, ValidCall call trigger → NewBar config strategy call trigger →
      Past (marked config strategy call trigger) time := fun trigger valid new =>
    past_marked (past.lt_new forward valid new).le
  unfold VolatilityBreakoutStrategy.step
  generalize decision config strategy call = outcome at decided ⊢
  cases decided with
  | invalid => exact past
  | outside trigger valid => exact past.opened forward valid
  | repeated trigger valid => exact past.opened forward valid
  | searched trigger valid new => exact later trigger valid new
  | locked trigger valid new => exact later trigger valid new
  | dropped trigger valid new => exact later trigger valid new
  | waited trigger valid new => exact later trigger valid new
  | turnedAway trigger valid new => exact later trigger valid new
  | signalled trigger valid new => exact later trigger valid new

/-- The time is past, and the box in force was locked after it. -/
def Behind (strategy : VolatilityBreakoutStrategy) (time : Int) : Prop :=
  Past strategy time ∧ ∀ box ∈ strategy.lockedBox, time < box.createdBarTime

theorem Behind.step (behind : Behind strategy time) (forward : SessionForward strategy call) :
    Behind (step config strategy call) time := by
  refine ⟨behind.1.step forward, ?_⟩
  have decided := decision_decided config strategy call
  have kept : ∀ trigger, ∀ box ∈ (opened config strategy call trigger).lockedBox,
      time < box.createdBarTime := fun trigger box inForce =>
    behind.2 box (opened_lockedBox inForce).1
  unfold VolatilityBreakoutStrategy.step
  generalize decision config strategy call = outcome at decided ⊢
  cases decided with
  | repeated trigger valid => exact kept trigger
  | searched trigger valid new free => exact kept trigger
  | locked trigger valid new free window locks =>
    intro box inForce
    obtain rfl := Option.mem_some_iff.mp inForce
    exact behind.1.lt_new forward valid new
  | waited trigger valid new old inForce =>
    intro box isAged
    obtain rfl := Option.mem_some_iff.mp isAged
    exact kept trigger old inForce
  | turnedAway trigger valid new old inForce =>
    intro box isAged
    obtain rfl := Option.mem_some_iff.mp isAged
    exact kept trigger old inForce
  | _ => exact fun box none => by cases none

/-! ### Bars and signals -/

/-- The end of the bar that a call evaluates past the check. -/
def usedBar (config : VolatilityBreakoutConfig) (strategy : VolatilityBreakoutStrategy)
    (call : BreakoutCall) : Option Int :=
  if (decision config strategy call).2.reason.precedes = true then none
  else call.bars.getLast?.map fun bar => bar.endTime

theorem usedBar_new {used : Int} (isUsed : used ∈ usedBar config strategy call) :
    ∃ trigger, ValidCall call trigger ∧ NewBar config strategy call trigger ∧
      used = trigger.endTime ∧ Past (step config strategy call) used := by
  have decided := decision_decided config strategy call
  unfold usedBar at isUsed
  unfold VolatilityBreakoutStrategy.step
  have ends : ∀ trigger, ValidCall call trigger →
      (call.bars.getLast?.map fun bar => bar.endTime) = some used → used = trigger.endTime := by
    intro trigger valid isLast
    rw [valid.last] at isLast
    exact (Option.some_inj.mp isLast).symm
  have late : ∀ trigger, used = trigger.endTime →
      Past (marked config strategy call trigger) used := fun trigger same =>
    past_marked same.le
  generalize decision config strategy call = outcome at decided isUsed ⊢
  cases decided with
  | invalid => cases isUsed
  | outside trigger valid => cases isUsed
  | repeated trigger valid => cases isUsed
  | searched trigger valid new free reason searches =>
    rw [if_neg (by simp [finish, reason.precedes_of_searches searches])] at isUsed
    exact ⟨trigger, valid, new, ends trigger valid isUsed, late _ (ends _ valid isUsed)⟩
  | locked trigger valid new free window locks =>
    exact ⟨trigger, valid, new, ends trigger valid isUsed, late _ (ends _ valid isUsed)⟩
  | dropped trigger valid new reason clears evaluated =>
    rw [if_neg (by simp [finish, evaluated])] at isUsed
    exact ⟨trigger, valid, new, ends trigger valid isUsed, late _ (ends _ valid isUsed)⟩
  | waited trigger valid new old inForce =>
    exact ⟨trigger, valid, new, ends trigger valid isUsed, late _ (ends _ valid isUsed)⟩
  | turnedAway trigger valid new old inForce =>
    exact ⟨trigger, valid, new, ends trigger valid isUsed, late _ (ends _ valid isUsed)⟩
  | signalled trigger valid new old inForce =>
    exact ⟨trigger, valid, new, ends trigger valid isUsed, late _ (ends _ valid isUsed)⟩

/-! ### Keys -/

theorem pairwise_startTime {bars : List MarketCandle}
    (increasing : (bars.zip bars.tail).all (fun pair =>
      decide (pair.1.startTime < pair.2.startTime)) = true) :
    bars.Pairwise fun first second => first.startTime < second.startTime := by
  refine List.isChain_iff_pairwise.mp ?_
  induction bars with
  | nil => exact .nil
  | cons first rest inductionHypothesis =>
    cases rest with
    | nil => exact .singleton first
    | cons second others =>
      simp only [List.tail_cons, List.zip_cons_cons, List.all_cons, Bool.and_eq_true,
        decide_eq_true_eq] at increasing
      exact .cons_cons increasing.1 (inductionHypothesis increasing.2)

theorem Follows.created_add_le {box : CompressionBox} (follows : Follows call box)
    (valid : ValidCall call trigger) (later : box.createdBarTime < trigger.endTime) :
    box.createdBarTime + 290000000 ≤ trigger.endTime := by
  have isValid := valid.valid
  unfold validData at isValid
  simp only [Bool.and_eq_true] at isValid
  obtain ⟨⟨⟨-, bars⟩, increasing⟩, -⟩ := isValid
  have isLast : trigger ∈ call.bars := List.mem_of_mem_getLast? valid.last
  have length := List.all_eq_true.mp bars trigger isLast
  unfold validBar fiveMinutesApart at length
  simp only [Bool.and_eq_true, decide_eq_true_eq, abs_le] at length
  have active : trigger ∈ activeBars call.bars box :=
    List.mem_filter.mpr ⟨isLast, decide_eq_true later⟩
  have sorted : (activeBars call.bars box).Pairwise fun first second =>
      first.startTime < second.startTime := (pairwise_startTime increasing).filter _
  have chained := follows.contiguous
  unfold followsAnchor at chained
  cases bars : activeBars call.bars box with
  | nil => simp [bars] at active
  | cons first rest =>
    rw [bars] at active sorted chained
    simp only [List.head?_cons, Option.all_some, Bool.and_eq_true, decide_eq_true_eq,
      abs_le] at chained
    have firstStart : first.startTime ≤ trigger.startTime := by
      rcases List.mem_cons.mp active with rfl | inRest
      · exact le_rfl
      · exact (List.rel_of_pairwise_cons sorted inRest).le
    omega

/-- The key of the last signal is behind the strategy. -/
def Consumed (strategy : VolatilityBreakoutStrategy) : Prop :=
  ∀ key ∈ strategy.consumed, ∃ time, key.triggered = time / 1000000 ∧ Behind strategy time

theorem Consumed.step (consumed : Consumed strategy) (forward : SessionForward strategy call) :
    Consumed (step config strategy call) := by
  have decided := decision_decided config strategy call
  have stays : ∀ time, Behind strategy time →
      Behind (VolatilityBreakoutStrategy.step config strategy call) time :=
    fun time behind => behind.step forward
  have kept : ∀ key ∈ strategy.consumed, ∃ time, key.triggered = time / 1000000 ∧
      Behind (VolatilityBreakoutStrategy.step config strategy call) time := by
    intro key known
    obtain ⟨time, same, behind⟩ := consumed key known
    exact ⟨time, same, stays time behind⟩
  unfold VolatilityBreakoutStrategy.step Consumed at *
  generalize decision config strategy call = outcome at decided kept ⊢
  cases decided with
  | invalid => exact kept
  | signalled trigger valid new old inForce follows direction breaks =>
    intro key isKey
    obtain rfl := Option.mem_some_iff.mp isKey
    exact ⟨trigger.endTime, rfl, past_marked le_rfl, by simp [reset]⟩
  | _ => exact fun key known => kept key (by simpa [marked, reset] using known)

theorem Consumed.reason_ne (consumed : Consumed strategy) {calls : List BreakoutCall}
    (boxed : Boxed config calls strategy) :
    (decision config strategy call).2.reason ≠ .alreadyConsumed := by
  have decided := decision_decided config strategy call
  generalize decision config strategy call = outcome at decided ⊢
  cases decided with
  | searched trigger valid new free reason searches =>
    rintro rfl
    cases searches
  | dropped trigger valid new reason clears evaluated =>
    rintro rfl
    cases clears
  | turnedAway trigger valid new old inForce follows direction known =>
    obtain ⟨time, same, -, boxes⟩ := consumed _ known
    have seconds : trigger.endTime / 1000000 = time / 1000000 := same
    have before := boxes old (opened_lockedBox inForce).1
    have apart := follows.created_add_le valid (boxed.created_lt new inForce)
    omega
  | _ => simp [finish]

end Sessions

/-! ### Runs -/

section Runs

variable (config : VolatilityBreakoutConfig) (calls : List BreakoutCall)

/-- The ends of the bars that a run evaluates past the check. -/
def usedBars : List Int := Run.outputs (step config) (usedBar config) initial calls

def signals : List BreakoutSignal := Run.outputs (step config) (evaluate config) initial calls

variable {config calls}

theorem boxed_initial : Boxed config calls initial := fun box none => by cases none

theorem consumed_initial : Consumed initial := fun key none => by cases none

theorem boxed_along (lookback : 0 < config.lookbackBars) :
    Boxed config calls (calls.foldl (step config) initial) ∧
      Run.Along (step config) (fun before call =>
        CallLaw config before call (decision config before call)) initial calls := by
  have members : Run.Along (step config) (fun _ call => call ∈ calls) initial calls :=
    Run.along_of_mem (fun call member _ => member) initial
  have keeps : ∀ strategy call, Boxed config calls strategy → call ∈ calls →
      Boxed config calls (step config strategy call) := fun strategy call boxed member =>
    boxed.step lookback member
  exact ⟨members.holds_final keeps boxed_initial,
    members.of_invariant keeps (fun strategy call boxed _ => boxed.callLaw call) boxed_initial⟩

theorem usedBars_increasing (forward : Run.Along (step config) SessionForward initial calls) :
    (usedBars config calls).Pairwise (· < ·) := by
  have keeps : ∀ strategy call used, SessionForward strategy call → Past strategy used →
      Past (step config strategy call) used := fun strategy call used isForward past =>
    past.step isForward
  refine forward.pairwise_outputs keeps ?_ ?_
  · intro strategy call used isForward past later isUsed
    obtain ⟨trigger, valid, new, rfl, -⟩ := usedBar_new isUsed
    exact past.lt_new isForward valid new
  · intro strategy call isForward used isUsed
    obtain ⟨trigger, valid, new, same, past⟩ := usedBar_new isUsed
    exact past

theorem evaluate_behind {strategy : VolatilityBreakoutStrategy} {call : BreakoutCall}
    {signal : BreakoutSignal} (gives : signal ∈ evaluate config strategy call) :
    (∃ box ∈ strategy.lockedBox, signal.boxCreatedTime = box.createdBarTime) ∧
      Behind (step config strategy call) signal.timestamp := by
  have decided := decision_decided config strategy call
  unfold evaluate at gives
  unfold step
  generalize decision config strategy call = outcome at decided gives ⊢
  cases decided with
  | signalled trigger valid new box inForce follows direction breaks =>
    obtain rfl := Option.mem_some_iff.mp gives
    refine ⟨⟨box, (opened_lockedBox inForce).1, rfl⟩, past_marked le_rfl, ?_⟩
    simp [reset]
  | _ => cases gives

/-- As long as sessions never go back, the box of a signal was locked after every earlier
signal. -/
theorem signals_increasing (forward : Run.Along (step config) SessionForward initial calls) :
    (signals config calls).Pairwise fun first second =>
      first.timestamp < second.boxCreatedTime := by
  have keeps : ∀ strategy call (signal : BreakoutSignal), SessionForward strategy call →
      Behind strategy signal.timestamp → Behind (step config strategy call) signal.timestamp :=
    fun strategy call signal isForward behind => behind.step isForward
  refine forward.pairwise_outputs keeps ?_ ?_
  · intro strategy call signal isForward behind later gives
    obtain ⟨⟨box, inForce, created⟩, -⟩ := evaluate_behind gives
    rw [created]
    exact behind.2 box inForce
  · exact fun strategy call isForward signal gives => (evaluate_behind gives).2

theorem none_turnedAway (lookback : 0 < config.lookbackBars)
    (forward : Run.Along (step config) SessionForward initial calls) :
    Run.Along (step config) (fun before call =>
      (decision config before call).2.reason ≠ .alreadyConsumed) initial calls := by
  have members : Run.Along (step config) (fun _ call => call ∈ calls) initial calls :=
    Run.along_of_mem (fun call member _ => member) initial
  have keeps : ∀ strategy call, Boxed config calls strategy ∧ Consumed strategy →
      call ∈ calls ∧ SessionForward strategy call →
      Boxed config calls (step config strategy call) ∧ Consumed (step config strategy call) :=
    fun strategy call held admitted =>
      ⟨held.1.step lookback admitted.1, held.2.step admitted.2⟩
  exact (members.and forward).of_invariant keeps
    (fun strategy call held _ => held.2.reason_ne held.1) ⟨boxed_initial, consumed_initial⟩

/-! ### The discipline -/

/-- Over all calls the box in force is the high and the low of a contiguous window of its session
after the last reset, every signal breaks a box out within its limits, and a box stays in force
only while nothing rejects, breaks, expires or interrupts it. As long as sessions never go back,
every bar is evaluated at most once, and every box gives at most one signal. -/
theorem box_discipline (lookback : 0 < config.lookbackBars) :
    (∀ box ∈ (calls.foldl (step config) initial).lockedBox,
      BoxLaw config calls (calls.foldl (step config) initial) box) ∧
    Run.Along (step config) (fun before call =>
      CallLaw config before call (decision config before call)) initial calls ∧
    (Run.Along (step config) SessionForward initial calls →
      (usedBars config calls).Pairwise (· < ·) ∧
      (signals config calls).Pairwise (fun first second =>
        first.timestamp < second.boxCreatedTime) ∧
      Run.Along (step config) (fun before call =>
        (decision config before call).2.reason ≠ .alreadyConsumed) initial calls) := by
  have law : Boxed config calls (calls.foldl (step config) initial) ∧
      Run.Along (step config) (fun before call =>
        CallLaw config before call (decision config before call)) initial calls :=
    boxed_along lookback
  obtain ⟨boxed, along⟩ := law
  exact ⟨fun box inForce => (boxed box inForce).1, along, fun forward =>
    ⟨usedBars_increasing forward, signals_increasing forward, none_turnedAway lookback forward⟩⟩

end Runs

/-- A bar of the session that starts at 9:30, by its number. -/
def sessionBar (index : Nat) (openPrice high low close : ℚ) : MarketCandle where
  startTime := 14400000000 + 300000000 * index
  endTime := 14700000000 + 300000000 * index
  openPrice
  high
  low
  close
  instrumentId := "NIFTY"
  interval := "5m"
  volume := 0
  source := "BREEZE"

/-- Eight compressed bars. -/
def compressedBars : List MarketCandle :=
  (List.range 8).map fun index => sessionBar index 100 103 97 100

/-- The features of compressed bars. -/
def compressedFeatures (timestamp : Int) (atr : ℚ) : BreakoutFeatures where
  timestamp
  spotPrice := 100
  futuresPrice := 110
  futuresVwap := 105
  atr5m := atr
  breakoutDataReady := true
  bbWidthPercentile := 20
  rvol5m := 0
  bullishOiWall := false
  bearishOiWall := false

/-- The call on the bars that are locked. -/
def lockCall (atr : ℚ) (overrides : ThresholdOverrides) : BreakoutCall :=
  ⟨compressedFeatures 16800000000 atr, compressedBars, overrides⟩

/-- The call on the bar after them, which closes at a price. -/
def breakCall (atr close : ℚ) (overrides : ThresholdOverrides) : BreakoutCall :=
  ⟨compressedFeatures 17100000000 atr, compressedBars ++ [sessionBar 8 102 close 101 close],
    overrides⟩

/-- The call a day later. -/
def tomorrow (call : BreakoutCall) : BreakoutCall :=
  { call with
    features := { call.features with timestamp := call.features.timestamp + 86400000000 }
    bars := call.bars.map fun bar =>
      { bar with startTime := bar.startTime + 86400000000, endTime := bar.endTime + 86400000000 } }

/-- A box that is locked and broken out of on the next bar. -/
def breakoutCalls : List BreakoutCall := [lockCall 5 .standard, breakCall 5 104 .standard]

theorem breakoutCalls_forward :
    Run.Along (step .standard) SessionForward initial breakoutCalls := by
  have session : (step .standard initial (lockCall 5 .standard)).session = some 0 := by
    decide +kernel
  have last : (breakCall 5 104 .standard).bars.getLast? =
      some (sessionBar 8 102 104 101 104) := by decide +kernel
  have first : SessionForward initial (lockCall 5 .standard) :=
    fun trigger valid session none => by cases none
  refine ⟨first, fun trigger valid known isKnown => ?_, trivial⟩
  obtain rfl : sessionBar 8 102 104 101 104 = trigger :=
    Option.some_inj.mp (last.symm.trans valid.last)
  obtain rfl : 0 = known := Option.some_inj.mp (session.symm.trans isKnown)
  decide +kernel

theorem box_discipline_breakout :
    (signals .standard breakoutCalls).length = 1 ∧
      (∀ box ∈ (breakoutCalls.foldl (step .standard) initial).lockedBox,
        BoxLaw .standard breakoutCalls (breakoutCalls.foldl (step .standard) initial) box) ∧
      Run.Along (step .standard) (fun before call =>
        CallLaw .standard before call (decision .standard before call)) initial breakoutCalls ∧
      (usedBars .standard breakoutCalls).Pairwise (· < ·) := by
  have discipline := @box_discipline .standard breakoutCalls (by decide)
  exact ⟨by decide +kernel, discipline.1, discipline.2.1, (discipline.2.2 breakoutCalls_forward).1⟩

/-- The overrides that let a close extend further. -/
def wideOverrides : ThresholdOverrides :=
  { ThresholdOverrides.standard with stratBMaxExtensionAtr := some (19 / 20) }

/-- The overrides that bypass the entry window. -/
def bypassOverrides : ThresholdOverrides :=
  { ThresholdOverrides.standard with bypassEntryWindow := true }

/-- A range just short of five points. -/
def shortAtr : ℚ := 5 - 4 / 10000000000

/-- A close breaks out short of the buffer where the trigger price is rounded down; the limits of
extension and risk are exceeded within their tolerance; a bar is used again when the session goes
back to its day; and a box outlives a change of the bypass. -/
theorem box_discipline_is_loose :
    (∃ signal ∈ evaluate .standard (step .standard initial (lockCall (127 / 25) .standard))
        (breakCall (127 / 25) (25813 / 250) .standard),
      signal.direction = .bullish ∧
        signal.spotReferencePrice < signal.boxHigh + 1 / 20 * signal.atrAtLock) ∧
    (∃ signal ∈ evaluate .standard (step .standard initial (lockCall shortAtr wideOverrides))
        (breakCall shortAtr (431 / 4) wideOverrides),
      19 / 20 * signal.atrAtLock < signal.spotReferencePrice - signal.boxHigh ∧
        6 / 5 * signal.atrAtLock < signal.rPoints) ∧
    ¬(usedBars .standard
      [lockCall 5 .standard, tomorrow (lockCall 5 .standard), lockCall 5 .standard]).Nodup ∧
    (step .standard (step .standard initial (lockCall 5 .standard))
      (breakCall 5 103 bypassOverrides)).lockedBox.isSome = true := by
  refine ⟨?_, ?_, ?_, ?_⟩
  · decide +kernel
  · decide +kernel
  · decide +kernel
  · decide +kernel

end VolatilityBreakoutStrategy

end BreezeTrading
