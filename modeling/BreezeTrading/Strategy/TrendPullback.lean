/-
This file defines the state machine of Strategy A: its snapshot, in which no state carries the
data of another, the transitions the service asks for, and the evaluation of one completed bar.
The setup that qualifies in either direction is a parameter. It proves which states give a signal.
-/

import BreezeTrading.Strategy.Models
import Mathlib.Algebra.Order.Ring.Rat
import Mathlib.Algebra.Order.Group.Abs

namespace BreezeTrading

inductive StrategyDirection where
  | call
  | put
  deriving DecidableEq, Repr

/-- A qualified setup, with the fields the state machine reads. -/
structure StrategySetup where
  direction : StrategyDirection
  setupTimestamp : Int
  triggerPrice : ℚ
  structuralStop : ℚ
  setupExpiryTimestamp : Int
  setupExpiryBarIndex : Nat
  deriving DecidableEq

/-- The lifecycle state, with the data it carries. -/
inductive StrategyStateSnapshot where
  | flat
  | setup (setup : StrategySetup)
  | armed (setup : StrategySetup)
  | entered (setup : StrategySetup) (entryTimestamp : Int)
  | cooldown (cooldownUntil : Int)
  deriving DecidableEq

/-- The session of Strategy A in minutes of the day, and how far an entry may chase its trigger. -/
structure PullbackConfig where
  entrySessionStart : Int
  entrySessionEnd : Int
  forcedExitTime : Int
  maximumChaseAtr : ℚ
  deriving DecidableEq

/-- The features of the latest completed bar, and the setup that qualifies on it by direction. -/
structure FuturesFeature where
  contractId : String
  candleTimestamp : Int
  barIndex : Nat
  openPrice : ℚ
  high : ℚ
  low : ℚ
  close : ℚ
  atr14 : ℚ
  qualified : StrategyDirection → Option StrategySetup

/-- A triggered entry. -/
structure PullbackSignal where
  direction : StrategyDirection
  contractId : String
  timestamp : Int
  entryPrice : ℚ
  rPoints : ℚ
  deriving DecidableEq

/-- The evaluator, with what it keeps between bars. -/
structure TrendPullbackStrategy where
  snapshot : StrategyStateSnapshot
  lastProcessedCandle : Option Int
  activeContractId : Option String
  setupConfirmationKey : Option (StrategyDirection × Int)
  deriving DecidableEq

/-- What is stored of the evaluator. -/
structure PullbackRuntime where
  snapshot : StrategyStateSnapshot
  lastProcessedCandle : Option Int
  activeContractId : Option String
  deriving DecidableEq

namespace StrategyStateSnapshot

/-- A setup waits for its trigger. -/
def waits : StrategyStateSnapshot → Bool
  | .setup _ | .armed _ => true
  | .flat | .entered _ _ | .cooldown _ => false

/-- A setup waits that was not armed yet. -/
def isSetup : StrategyStateSnapshot → Bool
  | .setup _ => true
  | .flat | .armed _ | .entered _ _ | .cooldown _ => false

end StrategyStateSnapshot

namespace TrendPullbackStrategy

/-! ### Transitions -/

def initial : TrendPullbackStrategy := ⟨.flat, none, none, none⟩

/-- `reset`, of the gates. -/
def reset (_ : TrendPullbackStrategy) : TrendPullbackStrategy := initial

/-- Ten minutes after a point in time. -/
def cooldownEnd (at_ : Int) : Int := at_ + 600000000

def onExit (strategy : TrendPullbackStrategy) (at_ : Int) : TrendPullbackStrategy :=
  { strategy with snapshot := .cooldown (cooldownEnd at_) }

/-- Confirm the entry of an armed setup, within the validity of the setup. -/
def confirmEntry (strategy : TrendPullbackStrategy) (at_ : Int) : Option TrendPullbackStrategy :=
  match strategy.snapshot with
  | .armed setup =>
      if setup.setupTimestamp ≤ at_ ∧ at_ ≤ setup.setupExpiryTimestamp then
        some { strategy with snapshot := .entered setup at_ }
      else none
  | _ => none

/-- Consume a triggered attempt without leaving a phantom entry. -/
def onExecutionRejected (strategy : TrendPullbackStrategy) (at_ : Int) : TrendPullbackStrategy :=
  match strategy.snapshot with
  | .setup _ | .armed _ | .entered _ _ =>
      { strategy with snapshot := .cooldown (cooldownEnd at_), setupConfirmationKey := none }
  | .flat | .cooldown _ => strategy

def exportState (strategy : TrendPullbackStrategy) : PullbackRuntime :=
  ⟨strategy.snapshot, strategy.lastProcessedCandle, strategy.activeContractId⟩

/-- `restore_state`, of a new evaluator: the confirmation of the last setup is not stored. -/
def restoreState (runtime : PullbackRuntime) : TrendPullbackStrategy :=
  ⟨runtime.snapshot, runtime.lastProcessedCandle, runtime.activeContractId, none⟩

/-! ### Evaluation -/

/-- The minutes of the day of a point in time, in IST. -/
def timeMinutes (moment : Int) : Int := (moment + 19800000000) / 60000000 % 1440

def entryAllowed (config : PullbackConfig) (moment : Int) : Bool :=
  decide (config.entrySessionStart ≤ timeMinutes moment ∧
    timeMinutes moment ≤ config.entrySessionEnd)

def forcedExit (config : PullbackConfig) (moment : Int) : Bool :=
  decide (config.forcedExitTime ≤ timeMinutes moment)

/-- The close of a bar breaches the structural stop of a setup. -/
def invalidated (setup : StrategySetup) (feature : FuturesFeature) : Bool :=
  match setup.direction with
  | .call => decide (feature.close ≤ setup.structuralStop)
  | .put => decide (setup.structuralStop ≤ feature.close)

/-- The price a bar enters a setup at, when it triggers it: its open if that is beyond the
trigger. -/
def triggeredAt (setup : StrategySetup) (feature : FuturesFeature) : Option ℚ :=
  match setup.direction with
  | .call =>
      if setup.triggerPrice ≤ feature.openPrice then some feature.openPrice
      else if setup.triggerPrice ≤ feature.high then some setup.triggerPrice
      else none
  | .put =>
      if feature.openPrice ≤ setup.triggerPrice then some feature.openPrice
      else if feature.low ≤ setup.triggerPrice then some setup.triggerPrice
      else none

/-- How far an entry is beyond its trigger. -/
def chase (setup : StrategySetup) (entryPrice : ℚ) : ℚ :=
  match setup.direction with
  | .call => entryPrice - setup.triggerPrice
  | .put => setup.triggerPrice - entryPrice

/-- A setup waits for its trigger: it expires, is invalidated, or is armed and may trigger. -/
def evaluateSetup (config : PullbackConfig) (strategy : TrendPullbackStrategy)
    (setup : StrategySetup) (feature : FuturesFeature) :
    TrendPullbackStrategy × Option PullbackSignal :=
  if setup.setupExpiryBarIndex < feature.barIndex ∨ invalidated setup feature = true then
    ({ strategy with snapshot := .flat }, none)
  else
    let armed := { strategy with snapshot := .armed setup }
    match triggeredAt setup feature with
    | none => (armed, none)
    | some entryPrice =>
        if chase setup entryPrice ≤ config.maximumChaseAtr * feature.atr14 + 1 / 1000000000 then
          if entryAllowed config feature.candleTimestamp then
            (armed, some
              { direction := setup.direction
                contractId := feature.contractId
                timestamp := feature.candleTimestamp
                entryPrice
                rPoints := |entryPrice - setup.structuralStop| })
          else (armed, none)
        else ({ strategy with snapshot := .flat }, none)

/-- The first direction that qualifies, unless it is the confirmation of the last setup. -/
def searchSetup (strategy : TrendPullbackStrategy) (feature : FuturesFeature) :
    Option (StrategyDirection × StrategySetup) :=
  [StrategyDirection.call, .put].findSome? fun direction =>
    if strategy.setupConfirmationKey = some (direction, feature.candleTimestamp) then none
    else (feature.qualified direction).map fun setup => (direction, setup)

/-- A flat strategy looks for a setup within the session. -/
def evaluateFlat (config : PullbackConfig) (strategy : TrendPullbackStrategy)
    (feature : FuturesFeature) : TrendPullbackStrategy :=
  if entryAllowed config feature.candleTimestamp then
    match searchSetup strategy feature with
    | some (direction, setup) =>
        { strategy with
          snapshot := .setup setup
          setupConfirmationKey := some (direction, feature.candleTimestamp) }
    | none => strategy
  else strategy

/-- The evaluation of a bar that is neither of a new contract nor processed already. -/
def evaluateBar (config : PullbackConfig) (strategy : TrendPullbackStrategy)
    (feature : FuturesFeature) : TrendPullbackStrategy × Option PullbackSignal :=
  if forcedExit config feature.candleTimestamp = true ∧ strategy.snapshot ≠ .flat then
    ({ strategy with snapshot := .flat }, none)
  else
    match strategy.snapshot with
    | .entered _ _ => (strategy, none)
    | .setup setup | .armed setup => evaluateSetup config strategy setup feature
    | .cooldown cooldownUntil =>
        if feature.candleTimestamp < cooldownUntil then (strategy, none)
        else (evaluateFlat config { strategy with snapshot := .flat } feature, none)
    | .flat => (evaluateFlat config strategy feature, none)

/-- Evaluate the latest completed bar, if its features could be built. -/
def evaluate (config : PullbackConfig) (strategy : TrendPullbackStrategy)
    (feature : Option FuturesFeature) : TrendPullbackStrategy × Option PullbackSignal :=
  match feature with
  | none => (strategy, none)
  | some feature =>
      if strategy.activeContractId.any fun contractId => decide (contractId ≠ feature.contractId)
      then
        -- a rollover drops whatever state the strategy is in
        ({ snapshot := .flat
           lastProcessedCandle := some feature.candleTimestamp
           activeContractId := some feature.contractId
           setupConfirmationKey := none }, none)
      else if strategy.lastProcessedCandle = some feature.candleTimestamp then
        ({ strategy with activeContractId := some feature.contractId }, none)
      else
        evaluateBar config
          { strategy with
            activeContractId := some feature.contractId
            lastProcessedCandle := some feature.candleTimestamp } feature

/-! ### What an evaluation can do -/

/-- The bar is one of the active contract that was not processed yet. -/
def processes (strategy : TrendPullbackStrategy) (bar : FuturesFeature) : Bool :=
  (strategy.activeContractId.all fun contractId => decide (contractId = bar.contractId)) &&
    decide (strategy.lastProcessedCandle ≠ some bar.candleTimestamp)

/-- The strategy looks for a setup on the bar: it is flat, or the bar ends its cooldown. -/
def searches (config : PullbackConfig) (strategy : TrendPullbackStrategy)
    (bar : FuturesFeature) : Bool :=
  match strategy.snapshot with
  | .flat => true
  | .cooldown cooldownUntil =>
      !forcedExit config bar.candleTimestamp && decide (cooldownUntil ≤ bar.candleTimestamp)
  | .setup _ | .armed _ | .entered _ _ => false

def findsSetup (config : PullbackConfig) (strategy : TrendPullbackStrategy)
    (bar : FuturesFeature) : Bool :=
  processes strategy bar && searches config strategy bar &&
    entryAllowed config bar.candleTimestamp && (searchSetup strategy bar).isSome

/-- The bar reaches the trigger of a setup that is armed already. -/
def triggersArmed (strategy : TrendPullbackStrategy) (bar : FuturesFeature) : Bool :=
  processes strategy bar &&
    match strategy.snapshot with
    | .armed setup => (triggeredAt setup bar).isSome
    | .flat | .setup _ | .entered _ _ | .cooldown _ => false

variable {config : PullbackConfig} {strategy : TrendPullbackStrategy}

section

variable (config : PullbackConfig) (strategy : TrendPullbackStrategy)

theorem evaluate_cases (bar : FuturesFeature) :
    (processes strategy bar = true ∧ evaluate config strategy (some bar) = evaluateBar config
        { strategy with
          activeContractId := some bar.contractId
          lastProcessedCandle := some bar.candleTimestamp } bar) ∨
    ((evaluate config strategy (some bar)).2 = none ∧
      ((evaluate config strategy (some bar)).1.snapshot = .flat ∨
        (evaluate config strategy (some bar)).1.snapshot = strategy.snapshot)) := by
  unfold evaluate
  simp only
  split
  · exact .inr ⟨rfl, .inl rfl⟩
  rename_i sameContract
  split
  · exact .inr ⟨rfl, .inr rfl⟩
  rename_i new
  refine .inl ⟨?_, rfl⟩
  unfold processes
  rw [Bool.and_eq_true, decide_eq_true_eq]
  refine ⟨?_, new⟩
  cases active : strategy.activeContractId with
  | none => rfl
  | some contractId => simpa [active] using sameContract

theorem evaluateFlat_cases (bar : FuturesFeature) :
    (evaluateFlat config strategy bar).snapshot = strategy.snapshot ∨
      (entryAllowed config bar.candleTimestamp = true ∧
        (searchSetup strategy bar).isSome = true) := by
  unfold evaluateFlat
  split
  · rename_i allowed
    cases found : searchSetup strategy bar with
    | none => exact .inl rfl
    | some pair => exact .inr ⟨allowed, rfl⟩
  · exact .inl rfl

theorem evaluateSetup_cases (setup : StrategySetup) (bar : FuturesFeature) :
    ((evaluateSetup config strategy setup bar).1.snapshot = .flat ∧
      (evaluateSetup config strategy setup bar).2 = none) ∨
    ((evaluateSetup config strategy setup bar).1.snapshot = .armed setup ∧
      ((evaluateSetup config strategy setup bar).2.isSome = true →
        (triggeredAt setup bar).isSome = true)) := by
  unfold evaluateSetup
  split
  · exact .inl ⟨rfl, rfl⟩
  cases triggered : triggeredAt setup bar with
  | none => exact .inr ⟨rfl, nofun⟩
  | some entryPrice =>
    simp only
    split
    · split <;> exact .inr ⟨rfl, fun _ => rfl⟩
    · exact .inl ⟨rfl, rfl⟩

/-- The evaluation of a bar leaves a state in which no setup waits and gives no signal, evaluates
the setup that waits, or looks for one. -/
theorem evaluateBar_cases (bar : FuturesFeature) :
    ((evaluateBar config strategy bar).1.snapshot.waits = false ∧
      (evaluateBar config strategy bar).2 = none) ∨
    (∃ setup, (strategy.snapshot = .setup setup ∨ strategy.snapshot = .armed setup) ∧
      evaluateBar config strategy bar = evaluateSetup config strategy setup bar) ∨
    ((evaluateBar config strategy bar).2 = none ∧ searches config strategy bar = true ∧
      entryAllowed config bar.candleTimestamp = true ∧
      (searchSetup strategy bar).isSome = true) := by
  unfold evaluateBar
  split
  · exact .inl ⟨rfl, rfl⟩
  rename_i notForced
  cases shown : strategy.snapshot with
  | flat =>
    simp only
    rcases evaluateFlat_cases config strategy bar with same | found
    · left
      rw [same, shown]
      exact ⟨rfl, trivial⟩
    · exact .inr (.inr ⟨trivial, by simp [searches, shown], found⟩)
  | setup setup => exact .inr (.inl ⟨setup, .inl rfl, rfl⟩)
  | armed setup => exact .inr (.inl ⟨setup, .inr rfl, rfl⟩)
  | entered setup entryTimestamp =>
    simp only
    rw [shown]
    exact .inl ⟨rfl, trivial⟩
  | cooldown cooldownUntil =>
    simp only
    split
    · simp only
      rw [shown]
      exact .inl ⟨rfl, trivial⟩
    · rename_i elapsed
      rcases evaluateFlat_cases config { strategy with snapshot := .flat } bar with same | found
      · rw [same]
        exact .inl ⟨rfl, rfl⟩
      · have early : forcedExit config bar.candleTimestamp = false := by
          simpa [shown] using notForced
        refine .inr (.inr ⟨rfl, ?_, found⟩)
        simp [searches, shown, early, Int.not_lt.mp elapsed]

end

/-- A setup that waits after an evaluation waited before it, and was armed before it or is armed
by it, unless it was found on the bar. -/
theorem waits_of_evaluate {bar : FuturesFeature}
    (waits : (evaluate config strategy (some bar)).1.snapshot.waits = true) :
    findsSetup config strategy bar = true ∨ (strategy.snapshot.waits = true ∧
      ((evaluate config strategy (some bar)).1.snapshot.isSetup = true →
        strategy.snapshot.isSetup = true)) := by
  rcases evaluate_cases config strategy bar with ⟨processed, evaluated⟩ | ⟨_, flat | same⟩
  · rw [evaluated] at waits ⊢
    rcases evaluateBar_cases config _ bar with ⟨idle, _⟩ | ⟨setup, before, isSetup⟩ | found
    · rw [idle] at waits
      cases waits
    · right
      have waited : strategy.snapshot.waits = true := by
        rcases before with shown | shown <;> simp only at shown <;> rw [shown] <;> rfl
      rw [isSetup] at waits ⊢
      refine ⟨waited, ?_⟩
      rcases evaluateSetup_cases config _ setup bar with ⟨flat, _⟩ | ⟨armed, _⟩
      · rw [flat]
        exact nofun
      · rw [armed]
        exact nofun
    · obtain ⟨_, isSearch, allowed, isFound⟩ := found
      left
      unfold findsSetup
      rw [processed, allowed]
      simp only [Bool.true_and, Bool.and_eq_true]
      exact ⟨⟨isSearch, trivial⟩, isFound⟩
  · rw [flat] at waits
    cases waits
  · rw [same] at waits ⊢
    exact .inr ⟨waits, id⟩

/-- A signal comes from a setup that waits, and reaches its trigger if it was armed before; it is
armed afterwards. -/
theorem waits_of_signal {feature : Option FuturesFeature} {signal : PullbackSignal}
    (signalled : (evaluate config strategy feature).2 = some signal) :
    strategy.snapshot.waits = true ∧
      (evaluate config strategy feature).1.snapshot.isSetup = false ∧
      (strategy.snapshot.isSetup = true ∨ ∃ bar ∈ feature, triggersArmed strategy bar = true) := by
  cases feature with
  | none => cases signalled
  | some bar =>
    rcases evaluate_cases config strategy bar with ⟨processed, evaluated⟩ | ⟨silent, _⟩
    · rw [evaluated] at signalled ⊢
      rcases evaluateBar_cases config _ bar with
        ⟨_, silent⟩ | ⟨setup, before, isSetup⟩ | ⟨silent, _⟩
      · rw [silent] at signalled
        cases signalled
      · rw [isSetup] at signalled ⊢
        rcases evaluateSetup_cases config _ setup bar with ⟨_, silent⟩ | ⟨armed, triggers⟩
        · rw [silent] at signalled
          cases signalled
        · have triggered := triggers (by rw [signalled]; rfl)
          rw [armed]
          rcases before with shown | shown <;> simp only at shown
          · rw [shown]
            exact ⟨rfl, rfl, .inl rfl⟩
          · refine ⟨by rw [shown]; rfl, rfl, .inr ⟨bar, rfl, ?_⟩⟩
            unfold triggersArmed
            rw [processed, shown]
            exact triggered
      · rw [silent] at signalled
        cases signalled
    · rw [silent] at signalled
      cases signalled

end TrendPullbackStrategy

end BreezeTrading
