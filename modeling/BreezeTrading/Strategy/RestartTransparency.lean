/-
This file proves when a restart of Strategy A or Strategy B goes unnoticed. Strategy B stores
everything its decisions read. What Strategy A stores leaves out the confirmation of its last
setup: its decisions are the original ones exactly as long as no evaluation searches the confirmed
bar again.
-/

import BreezeTrading.Strategy.SetupExpiry
import BreezeTrading.Strategy.VolatilityBreakout

namespace BreezeTrading

/-! ### Decisions -/

/-- What an evaluation notes as its last event. -/
inductive PullbackEvent where
  | staleFuturesData
  | incompleteFuturesData
  | rolloverReset
  | duplicateIgnored
  | forcedExit
  | activePosition
  | expired
  | invalidated
  | triggered
  | maximumChaseExceeded
  | entrySessionClosed
  | setupSessionClosed
  | setupCreated (direction : StrategyDirection)
  | noValidSetup
  deriving DecidableEq, Repr

/-- The event an evaluation notes, if it notes one, and the signal it gives. -/
structure PullbackDecision where
  event : Option PullbackEvent
  signal : Option PullbackSignal
  deriving DecidableEq

namespace TrendPullbackStrategy

/-- A setup that waits expires, is invalidated, or may trigger. -/
def setupEvent (config : PullbackConfig) (setup : StrategySetup) (feature : FuturesFeature) :
    Option PullbackEvent :=
  if setup.setupExpiryBarIndex < feature.barIndex then some .expired
  else if invalidated setup feature then some .invalidated
  else
    (triggeredAt setup feature).map fun entryPrice =>
      if chase setup entryPrice ≤ config.maximumChaseAtr * feature.atr14 + 1 / 1000000000 then
        if entryAllowed config feature.candleTimestamp then .triggered else .entrySessionClosed
      else .maximumChaseExceeded

/-- A search finds a setup, or none, or is out of its session. -/
def searchEvent (config : PullbackConfig) (strategy : TrendPullbackStrategy)
    (feature : FuturesFeature) : PullbackEvent :=
  if entryAllowed config feature.candleTimestamp then
    (searchSetup strategy feature).elim .noValidSetup fun found => .setupCreated found.1
  else .setupSessionClosed

/-- The event of a bar that is evaluated: a cooldown and a setup without a trigger note none. -/
def barEvent (config : PullbackConfig) (strategy : TrendPullbackStrategy)
    (feature : FuturesFeature) : Option PullbackEvent :=
  if forcedExit config feature.candleTimestamp = true ∧ strategy.snapshot ≠ .flat then
    some .forcedExit
  else
    match strategy.snapshot with
    | .entered _ _ => some .activePosition
    | .setup setup | .armed setup => setupEvent config setup feature
    | .cooldown cooldownUntil =>
        if feature.candleTimestamp < cooldownUntil then none
        else some (searchEvent config strategy feature)
    | .flat => some (searchEvent config strategy feature)

def featureEvent (config : PullbackConfig) (strategy : TrendPullbackStrategy)
    (feature : FuturesFeature) : Option PullbackEvent :=
  if strategy.activeContractId.any fun contractId => decide (contractId ≠ feature.contractId) then
    some .rolloverReset
  else if strategy.lastProcessedCandle = some feature.candleTimestamp then some .duplicateIgnored
  else barEvent config strategy feature

/-- The event of a call whose features cannot be built. -/
def rejectedData (call : PullbackCall) : PullbackEvent :=
  if featuresForInput call.futures call.asOf = .error "STALE_FUTURES_DATA" then .staleFuturesData
  else .incompleteFuturesData

def decisionOf (config : PullbackTunables) (strategy : TrendPullbackStrategy)
    (call : PullbackCall) : PullbackDecision where
  event := (callFeature config call).elim (some (rejectedData call))
    (featureEvent (sessionOf config call) strategy)
  signal := (evaluateCall config strategy call).2

/-- The decisions of a sequence of calls. -/
def decisions (config : PullbackTunables) (strategy : TrendPullbackStrategy)
    (calls : List PullbackCall) : List PullbackDecision :=
  Run.outputs (stepCall config) (fun strategy call => some (decisionOf config strategy call))
    strategy calls

/-! ### What a restart forgets -/

/-- The strategy without the confirmation of its last setup. -/
def forgetful (strategy : TrendPullbackStrategy) : TrendPullbackStrategy :=
  { strategy with setupConfirmationKey := none }

theorem restoreState_exportState (strategy : TrendPullbackStrategy) :
    restoreState (exportState strategy) = forgetful strategy := rfl

/-- The confirmation a bar would give is the one that is remembered. -/
def repeats (strategy : TrendPullbackStrategy) (bar : FuturesFeature) : Bool :=
  (searchSetup (forgetful strategy) bar).any fun found =>
    decide (strategy.setupConfirmationKey = some (found.1, bar.candleTimestamp))

section Search

variable {strategy : TrendPullbackStrategy} {bar : FuturesFeature}

theorem searchSetup_forgetful :
    searchSetup (forgetful strategy) bar =
      ((bar.qualified .call).map fun setup => (StrategyDirection.call, setup)).or
        ((bar.qualified .put).map fun setup => (StrategyDirection.put, setup)) := by
  unfold searchSetup forgetful
  simp only [reduceCtorEq, if_false, List.findSome?_cons, List.findSome?_nil]
  cases bar.qualified .call <;> cases bar.qualified .put <;> rfl

theorem searchSetup_of_not_repeats (unrepeated : repeats strategy bar = false) :
    searchSetup strategy bar = searchSetup (forgetful strategy) bar := by
  unfold repeats at unrepeated
  rw [searchSetup_forgetful] at unrepeated ⊢
  unfold searchSetup
  cases isCall : bar.qualified .call with
  | some setup =>
    rw [isCall] at unrepeated
    have other := of_decide_eq_false unrepeated
    simp [isCall, other]
  | none =>
    cases isPut : bar.qualified .put with
    | some setup =>
      rw [isCall, isPut] at unrepeated
      have other := of_decide_eq_false unrepeated
      simp [isCall, isPut, other]
    | none => simp [isCall, isPut]

theorem searchSetup_of_repeats (repeated : repeats strategy bar = true) :
    (searchSetup strategy bar).map Prod.fst ≠ (searchSetup (forgetful strategy) bar).map Prod.fst :=
    by
  unfold repeats at repeated
  rw [searchSetup_forgetful] at repeated ⊢
  unfold searchSetup
  cases isCall : bar.qualified .call with
  | some setup =>
    rw [isCall] at repeated
    have same := of_decide_eq_true repeated
    cases isPut : bar.qualified .put <;> simp [isPut, same]
  | none =>
    cases isPut : bar.qualified .put with
    | some setup =>
      rw [isCall, isPut] at repeated
      have same := of_decide_eq_true repeated
      simp [isCall, same]
    | none =>
      rw [isCall, isPut] at repeated
      cases repeated

end Search

/-! ### Evaluations -/

section Evaluation

variable {config : PullbackConfig} {strategy : TrendPullbackStrategy} {bar : FuturesFeature}

theorem searchEvent_forgetful
    (unrepeated : entryAllowed config bar.candleTimestamp = true → repeats strategy bar = false) :
    searchEvent config (forgetful strategy) bar = searchEvent config strategy bar := by
  unfold searchEvent
  split
  · rename_i allowed
    rw [searchSetup_of_not_repeats (unrepeated allowed)]
  · rfl

theorem searchEvent_of_repeats (allowed : entryAllowed config bar.candleTimestamp = true)
    (repeated : repeats strategy bar = true) :
    searchEvent config (forgetful strategy) bar ≠ searchEvent config strategy bar := by
  have differ := searchSetup_of_repeats repeated
  unfold searchEvent
  intro same
  apply differ
  cases original : searchSetup strategy bar <;>
    cases restored : searchSetup (forgetful strategy) bar <;>
    rw [original, restored] at same <;>
    simp_all

theorem evaluateFlat_forgetful
    (unrepeated : entryAllowed config bar.candleTimestamp = true → repeats strategy bar = false) :
    evaluateFlat config (forgetful strategy) bar =
      if (entryAllowed config bar.candleTimestamp && (searchSetup strategy bar).isSome) = true then
        evaluateFlat config strategy bar
      else forgetful (evaluateFlat config strategy bar) := by
  unfold evaluateFlat
  by_cases allowed : entryAllowed config bar.candleTimestamp = true
  · rw [if_pos allowed, if_pos allowed, ← searchSetup_of_not_repeats (unrepeated allowed), allowed]
    cases searchSetup strategy bar <;> rfl
  · rw [if_neg allowed, if_neg allowed, Bool.eq_false_iff.mpr allowed]
    rfl

theorem evaluateSetup_forgetful (setup : StrategySetup) :
    evaluateSetup config (forgetful strategy) setup bar =
      (forgetful (evaluateSetup config strategy setup bar).1,
        (evaluateSetup config strategy setup bar).2) := by
  unfold evaluateSetup
  split
  · rfl
  cases triggeredAt setup bar with
  | none => rfl
  | some entryPrice =>
    dsimp only
    split_ifs <;> rfl

/-- The machine looks for a setup on a bar, within its session. -/
def looks (config : PullbackConfig) (strategy : TrendPullbackStrategy) (bar : FuturesFeature) :
    Bool :=
  searches config strategy bar && entryAllowed config bar.candleTimestamp

theorem searches_forgetful :
    searches config (forgetful strategy) bar = searches config strategy bar := rfl

theorem barEvent_of_searches (searching : searches config strategy bar = true) :
    barEvent config strategy bar = some (searchEvent config strategy bar) := by
  unfold searches at searching
  unfold barEvent
  cases shown : strategy.snapshot with
  | flat => simp
  | setup setup | armed setup | entered setup entryTimestamp =>
    rw [shown] at searching
    cases searching
  | cooldown cooldownUntil =>
    simp only [shown, Bool.and_eq_true, Bool.not_eq_true', decide_eq_true_eq] at searching
    simp [searching.1, not_lt.mpr searching.2]

theorem barEvent_of_not_searches (settled : searches config strategy bar = false) :
    barEvent config (forgetful strategy) bar = barEvent config strategy bar := by
  unfold searches at settled
  unfold barEvent forgetful
  cases shown : strategy.snapshot with
  | flat =>
    rw [shown] at settled
    cases settled
  | setup setup | armed setup | entered setup entryTimestamp => rfl
  | cooldown cooldownUntil =>
    simp only [shown, Bool.and_eq_false_iff, Bool.not_eq_false', decide_eq_false_iff_not, not_le]
      at settled
    rcases settled with forced | waiting
    · simp [forced]
    · simp [waiting]

theorem evaluateBar_of_not_searches (settled : searches config strategy bar = false) :
    evaluateBar config (forgetful strategy) bar =
      (forgetful (evaluateBar config strategy bar).1, (evaluateBar config strategy bar).2) := by
  unfold searches at settled
  unfold evaluateBar
  cases shown : strategy.snapshot with
  | flat =>
    rw [shown] at settled
    cases settled
  | entered setup entryTimestamp =>
    simp only [forgetful, shown]
    split
    · rfl
    · simp only [shown]
  | setup setup | armed setup =>
    have same := @evaluateSetup_forgetful config strategy bar setup
    simp only [forgetful, shown] at same ⊢
    split
    · rfl
    · exact same
  | cooldown cooldownUntil =>
    simp only [shown, Bool.and_eq_false_iff, Bool.not_eq_false', decide_eq_false_iff_not, not_le]
      at settled
    rcases settled with forced | waiting
    · simp [forgetful, shown, forced]
    · simp only [forgetful, shown, waiting, if_true]
      split
      · rfl
      · simp only [shown]

theorem evaluateBar_of_searches (searching : searches config strategy bar = true) :
    evaluateBar config strategy bar =
      (evaluateFlat config { strategy with snapshot := .flat } bar, none) := by
  unfold searches at searching
  unfold evaluateBar
  cases shown : strategy.snapshot with
  | flat =>
    have same : { strategy with snapshot := .flat } = strategy := by rw [← shown]
    simp [same]
  | setup setup | armed setup | entered setup entryTimestamp =>
    rw [shown] at searching
    cases searching
  | cooldown cooldownUntil =>
    simp only [shown, Bool.and_eq_true, Bool.not_eq_true', decide_eq_true_eq] at searching
    simp [searching.1, not_lt.mpr searching.2]

theorem barEvent_forgetful
    (unrepeated : (looks config strategy bar && repeats strategy bar) = false) :
    barEvent config (forgetful strategy) bar = barEvent config strategy bar := by
  cases searching : searches config strategy bar with
  | false => exact barEvent_of_not_searches searching
  | true =>
    rw [barEvent_of_searches searching,
      barEvent_of_searches (searches_forgetful.trans searching)]
    refine congrArg some (searchEvent_forgetful fun allowed => ?_)
    simpa [looks, searching, allowed] using unrepeated

theorem barEvent_of_repeats
    (repeated : (looks config strategy bar && repeats strategy bar) = true) :
    barEvent config (forgetful strategy) bar ≠ barEvent config strategy bar := by
  obtain ⟨looking, isRepeated⟩ := Bool.and_eq_true_iff.mp repeated
  obtain ⟨searching, allowed⟩ := Bool.and_eq_true_iff.mp looking
  rw [barEvent_of_searches searching, barEvent_of_searches (searches_forgetful.trans searching)]
  exact fun same => searchEvent_of_repeats allowed isRepeated (Option.some.inj same)

theorem evaluateBar_forgetful
    (unrepeated : (looks config strategy bar && repeats strategy bar) = false) :
    evaluateBar config (forgetful strategy) bar =
      (if (looks config strategy bar && (searchSetup strategy bar).isSome) = true then
          (evaluateBar config strategy bar).1
        else forgetful (evaluateBar config strategy bar).1,
        (evaluateBar config strategy bar).2) := by
  unfold looks at unrepeated ⊢
  cases searching : searches config strategy bar with
  | false => exact evaluateBar_of_not_searches searching
  | true =>
    rw [evaluateBar_of_searches searching,
      evaluateBar_of_searches (searches_forgetful.trans searching)]
    have other : entryAllowed config bar.candleTimestamp = true → repeats strategy bar = false :=
      fun allowed => by simpa [searching, allowed] using unrepeated
    have fromFlat := @evaluateFlat_forgetful config { strategy with snapshot := .flat } bar other
    exact congrArg (·, none) fromFlat

/-- A bar that is processed is searched with the remembered confirmation first in the way. -/
def repeatsOn (config : PullbackConfig) (strategy : TrendPullbackStrategy)
    (bar : FuturesFeature) : Bool :=
  processes strategy bar && (looks config strategy bar && repeats strategy bar)

theorem featureEvent_of_processes (isNew : processes strategy bar = true) :
    featureEvent config strategy bar = barEvent config strategy bar := by
  obtain ⟨sameContract, notLast⟩ := Bool.and_eq_true_iff.mp isNew
  unfold featureEvent
  rw [if_neg, if_neg (of_decide_eq_true notLast)]
  cases active : strategy.activeContractId with
  | none => exact Bool.false_ne_true
  | some contractId =>
    rw [active, Option.all_some] at sameContract
    simp [of_decide_eq_true sameContract]

/-- The bar is of another contract than the active one. -/
def rollsOver (strategy : TrendPullbackStrategy) (bar : FuturesFeature) : Prop :=
  (strategy.activeContractId.any fun contractId => decide (contractId ≠ bar.contractId)) = true

theorem evaluate_of_rollover (rollover : rollsOver strategy bar) :
    featureEvent config strategy bar = some .rolloverReset ∧
      evaluate config strategy (some bar) =
        ({ snapshot := .flat
           lastProcessedCandle := some bar.candleTimestamp
           activeContractId := some bar.contractId
           setupConfirmationKey := none }, none) :=
  ⟨if_pos rollover, if_pos rollover⟩

theorem evaluate_of_duplicate (rollover : ¬rollsOver strategy bar)
    (duplicate : strategy.lastProcessedCandle = some bar.candleTimestamp) :
    featureEvent config strategy bar = some .duplicateIgnored ∧
      evaluate config strategy (some bar) =
        ({ strategy with activeContractId := some bar.contractId }, none) :=
  ⟨(if_neg rollover).trans (if_pos duplicate), (if_neg rollover).trans (if_pos duplicate)⟩

theorem evaluate_of_settled (settled : processes strategy bar = false) :
    featureEvent config (forgetful strategy) bar = featureEvent config strategy bar ∧
      evaluate config (forgetful strategy) (some bar) =
        (forgetful (evaluate config strategy (some bar)).1,
          (evaluate config strategy (some bar)).2) := by
  by_cases rollover : rollsOver strategy bar
  · obtain ⟨event, result⟩ := @evaluate_of_rollover config strategy bar rollover
    obtain ⟨restoredEvent, restoredResult⟩ :=
      @evaluate_of_rollover config (forgetful strategy) bar rollover
    rw [event, result, restoredEvent, restoredResult]
    exact ⟨rfl, rfl⟩
  by_cases duplicate : strategy.lastProcessedCandle = some bar.candleTimestamp
  · obtain ⟨event, result⟩ := @evaluate_of_duplicate config strategy bar rollover duplicate
    obtain ⟨restoredEvent, restoredResult⟩ :=
      @evaluate_of_duplicate config (forgetful strategy) bar rollover duplicate
    rw [event, result, restoredEvent, restoredResult]
    exact ⟨rfl, rfl⟩
  have isNew : processes strategy bar = true := by
    unfold processes
    rw [decide_eq_true duplicate, Bool.and_true]
    cases active : strategy.activeContractId with
    | none => rfl
    | some contractId => simpa [rollsOver, active] using rollover
  exact absurd isNew (settled ▸ Bool.false_ne_true)

theorem featureEvent_of_repeatsOn (repeated : repeatsOn config strategy bar = true) :
    featureEvent config (forgetful strategy) bar ≠ featureEvent config strategy bar := by
  obtain ⟨isNew, isRepeated⟩ := Bool.and_eq_true_iff.mp repeated
  have restoredNew : processes (forgetful strategy) bar = true := isNew
  rw [featureEvent_of_processes isNew, featureEvent_of_processes restoredNew]
  exact barEvent_of_repeats isRepeated

/-- An evaluation that does not meet the remembered confirmation decides the same without it, and
remembers it again where it finds a setup. -/
theorem evaluate_forgetful (unrepeated : repeatsOn config strategy bar = false) :
    featureEvent config (forgetful strategy) bar = featureEvent config strategy bar ∧
      evaluate config (forgetful strategy) (some bar) =
        (if findsSetup config strategy bar = true then (evaluate config strategy (some bar)).1
          else forgetful (evaluate config strategy (some bar)).1,
          (evaluate config strategy (some bar)).2) := by
  unfold repeatsOn at unrepeated
  cases isNew : processes strategy bar with
  | false =>
    have noSetup : findsSetup config strategy bar = false := by simp [findsSetup, isNew]
    rw [if_neg (noSetup ▸ Bool.false_ne_true)]
    exact evaluate_of_settled isNew
  | true =>
    rw [isNew, Bool.true_and] at unrepeated
    have restoredNew : processes (forgetful strategy) bar = true := isNew
    have finds : findsSetup config strategy bar =
        (looks config (noted strategy bar) bar &&
          (searchSetup (noted strategy bar) bar).isSome) := by
      unfold findsSetup
      rw [isNew, Bool.true_and]
      rfl
    rw [featureEvent_of_processes isNew, featureEvent_of_processes restoredNew,
      evaluate_of_processes isNew, evaluate_of_processes restoredNew, finds]
    exact ⟨barEvent_forgetful unrepeated, @evaluateBar_forgetful config (noted strategy bar) bar
      unrepeated⟩

end Evaluation

/-! ### Runs -/

section Runs

variable (config : PullbackTunables)

/-- A call searches its bar with the remembered confirmation first in the way. -/
def repeatsAt (strategy : TrendPullbackStrategy) (call : PullbackCall) : Bool :=
  (callFeature config call).any (repeatsOn (sessionOf config call) strategy)

def findsAt (strategy : TrendPullbackStrategy) (call : PullbackCall) : Bool :=
  (callFeature config call).any (findsSetup (sessionOf config call) strategy)

/-- Until a new setup is found, no call of a run searches the confirmed bar again. -/
def Unrepeated : TrendPullbackStrategy → List PullbackCall → Prop
  | _, [] => True
  | strategy, call :: rest =>
      repeatsAt config strategy call = false ∧
        (findsAt config strategy call = false → Unrepeated (stepCall config strategy call) rest)

variable {config} {strategy : TrendPullbackStrategy} {call : PullbackCall}

theorem decisions_cons (strategy : TrendPullbackStrategy) (call : PullbackCall)
    (rest : List PullbackCall) :
    decisions config strategy (call :: rest) =
      decisionOf config strategy call :: decisions config (stepCall config strategy call) rest :=
  rfl

theorem decisionOf_of_repeatsAt (repeated : repeatsAt config strategy call = true) :
    decisionOf config (forgetful strategy) call ≠ decisionOf config strategy call := by
  unfold repeatsAt at repeated
  intro same
  have sameEvent := congrArg PullbackDecision.event same
  unfold decisionOf at sameEvent
  cases isBar : callFeature config call with
  | none =>
    rw [isBar] at repeated
    cases repeated
  | some bar =>
    rw [isBar, Option.any_some] at repeated
    rw [isBar] at sameEvent
    exact featureEvent_of_repeatsOn repeated sameEvent

/-- A call that does not meet the confirmation decides the same, and leaves the same state where it
finds a setup. -/
theorem call_forgetful (unrepeated : repeatsAt config strategy call = false) :
    decisionOf config (forgetful strategy) call = decisionOf config strategy call ∧
      stepCall config (forgetful strategy) call =
        if findsAt config strategy call = true then stepCall config strategy call
        else forgetful (stepCall config strategy call) := by
  unfold repeatsAt at unrepeated
  unfold decisionOf findsAt stepCall evaluateCall
  cases isBar : callFeature config call with
  | none => exact ⟨rfl, rfl⟩
  | some bar =>
    rw [isBar, Option.any_some] at unrepeated
    obtain ⟨sameEvent, sameState⟩ := evaluate_forgetful unrepeated
    simp only [sameState, Option.elim_some, sameEvent, Option.any_some, and_self]

theorem decisions_forgetful (strategy : TrendPullbackStrategy) (calls : List PullbackCall) :
    decisions config (forgetful strategy) calls = decisions config strategy calls ↔
      Unrepeated config strategy calls := by
  induction calls generalizing strategy with
  | nil => exact iff_of_true rfl trivial
  | cons call rest inductionHypothesis =>
    rw [decisions_cons, decisions_cons, List.cons.injEq]
    cases repeated : repeatsAt config strategy call with
    | true =>
      refine iff_of_false (fun same => decisionOf_of_repeatsAt repeated same.1) fun unrepeated => ?_
      exact Bool.false_ne_true (unrepeated.1.symm.trans repeated)
    | false =>
      obtain ⟨sameDecision, later⟩ := call_forgetful repeated
      unfold Unrepeated
      rw [later, and_iff_right sameDecision, and_iff_right repeated]
      cases findsAt config strategy call with
      | true => simp
      | false => simp [inductionHypothesis]

end Runs

end TrendPullbackStrategy

namespace VolatilityBreakoutStrategy

/-- The decisions of a sequence of calls. -/
def decisions (config : VolatilityBreakoutConfig) (strategy : VolatilityBreakoutStrategy)
    (calls : List BreakoutCall) : List BreakoutDecision :=
  Run.outputs (step config) (fun strategy call => some (decision config strategy call).2)
    strategy calls

end VolatilityBreakoutStrategy

open TrendPullbackStrategy in
/-- A restart of Strategy B changes no later decision; one of Strategy A changes none exactly where
the confirmed bar is not searched again. -/
theorem restart_transparent (config : PullbackTunables) (pullback : TrendPullbackStrategy)
    (calls : List PullbackCall) (breakoutConfig : VolatilityBreakoutConfig)
    (breakout : VolatilityBreakoutStrategy) (breakoutCalls : List BreakoutCall) :
    (decisions config (restoreState (exportState pullback)) calls =
        decisions config pullback calls ↔ Unrepeated config pullback calls) ∧
      VolatilityBreakoutStrategy.decisions breakoutConfig
          (.restoreState breakout.exportState) breakoutCalls =
        VolatilityBreakoutStrategy.decisions breakoutConfig breakout breakoutCalls := by
  refine ⟨?_, ?_⟩
  · rw [restoreState_exportState]
    exact decisions_forgetful pullback calls
  · rw [VolatilityBreakoutStrategy.restoreState_exportState]

namespace TrendPullbackStrategy

/-- The bar after the setup closes below its stop. -/
def breachingBar : MarketCandle := quarterBar 17 106 107 95 96

/-- A setup is made, and is invalidated by the next bar. -/
def breachedCalls : List PullbackCall := [callOn risingBars, callOn (risingBars ++ [breachingBar])]

/-- A minute later the last bar is missing, and is there again with a bar that reaches the trigger
of the setup. -/
def flappingCalls : List PullbackCall :=
  [⟨risingBars, some (breachingBar.endTime + 60000000), false⟩,
    callOn (risingBars ++ [breachingBar, quarterBar 18 106 108 105 107])]

/-- The machine that was restarted makes the invalidated setup again, and gives its signal. -/
theorem restart_repeats_setup :
    Run.outputs (stepCall .standard) signalTime
        (breachedCalls.foldl (stepCall .standard) initial) flappingCalls = [] ∧
      Run.outputs (stepCall .standard) signalTime
          (restoreState (exportState (breachedCalls.foldl (stepCall .standard) initial)))
          flappingCalls = [(quarterBar 18 106 108 105 107).endTime] ∧
      ¬∀ (config : PullbackTunables) (before later : List PullbackCall),
        decisions config
            (restoreState (exportState (before.foldl (stepCall config) initial))) later =
          decisions config (before.foldl (stepCall config) initial) later := by
  refine ⟨by decide +kernel, by decide +kernel, fun always => ?_⟩
  exact absurd (always .standard breachedCalls flappingCalls) (by decide +kernel)

end TrendPullbackStrategy

end BreezeTrading
