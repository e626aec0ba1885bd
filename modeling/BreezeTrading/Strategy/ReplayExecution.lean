/-
This file defines the executor of the chronological replay: its state, the gates before an entry,
and its operations, which any caller may call in any order. The lifecycle replayer and the
strategy registry are parameters: whatever they answer or raise, the executor goes on.
-/

import BreezeTrading.Lib.Tally
import BreezeTrading.Strategy.RiskGates
import Mathlib.Data.Finset.Insert

namespace BreezeTrading

open Stored

/-! ### Records -/

inductive LifecycleStatus where
  | pending
  | resolved
  | ambiguous
  | unresolved
  | adverseBeforeEntry
  deriving DecidableEq, Repr

def LifecycleStatus.value : LifecycleStatus → String
  | .pending => "PENDING"
  | .resolved => "RESOLVED"
  | .ambiguous => "AMBIGUOUS"
  | .unresolved => "UNRESOLVED"
  | .adverseBeforeEntry => "ADVERSE_BEFORE_ENTRY"

/-- A bar of prices. -/
structure Candle where
  startTime : Int
  endTime : Int
  openPrice : ℚ
  high : ℚ
  low : ℚ
  close : ℚ
  deriving DecidableEq

/-- A bar of an instrument. -/
structure InstrumentCandle extends Candle where
  instrumentId : String
  deriving DecidableEq

/-- A replayed signal with its lifecycle and the estimate of its execution. -/
structure ReplayManifestRecord where
  replaySignalId : String
  strategyId : String
  direction : OptionType
  lifecycleStatus : LifecycleStatus := .pending
  exitTimestamp : Option Int := none
  exitReason : Option String := none
  realizedR : Option ℚ := none
  simulatedGrossPnl : Option ℚ := none
  simulatedNetPnl : Option ℚ := none
  deriving DecidableEq

/-- The record of a confirmed entry. -/
def recordEntry (signal : StrategySignal) : ReplayManifestRecord where
  replaySignalId := signal.signalId
  strategyId := signal.strategy.value
  direction := match signal.direction with
    | .bullish => .call
    | .bearish => .put

/-- What the lifecycle replayer writes into a record. -/
structure LifecycleResult where
  status : LifecycleStatus
  exitTimestamp : Option Int
  exitReason : Option String
  realizedR : Option ℚ

/-- `set_lifecycle_result`, if the replayer calls it. -/
def ReplayManifestRecord.setLifecycleResult (record : ReplayManifestRecord) :
    Option LifecycleResult → ReplayManifestRecord
  | none => record
  | some result =>
      { record with
        lifecycleStatus := result.status
        exitTimestamp := result.exitTimestamp
        exitReason := result.exitReason
        realizedR := result.realizedR }

/-- An active position: its record and what the replayer keeps to advance it. -/
structure HistoricalManagedReplayPosition (Cursor : Type) where
  record : ReplayManifestRecord
  cursor : Cursor

/-- The size decided for an entry. -/
structure ReplaySizingDecision where
  status : String
  lots : Option Int
  quantity : Option Int
  deriving DecidableEq

/-- The lifecycle replayer and the strategy registry, over the state they keep. What they
raise may come after they have written. -/
structure Collaborators (World Cursor : Type) where
  startRecord : World → ReplayManifestRecord →
    Except Raised (Option Cursor) × Option LifecycleResult × World
  advanceRecord : World → HistoricalManagedReplayPosition Cursor → Candle → List Candle →
    Except Raised Bool × Option LifecycleResult × Cursor × World
  finalizeRecord : World → HistoricalManagedReplayPosition Cursor →
    Except Raised Unit × Option LifecycleResult × World
  confirmEntry : World → StrategySignal → Candle → Except Raised Unit × World
  notifyExit : World → StrategyName → TradeDirection → Int → Except Raised Unit × World

/-! ### State -/

structure RejectedOpportunity where
  timestamp : Int
  status : String
  strategy : Option String
  signalId : Option String
  details : List (String × Detail)
  deriving DecidableEq

structure DailyLossTriggerEvent where
  timestamp : Int
  status : String
  realizedRTotal : ℚ
  realizedNetPnlTotal : Option ℚ
  details : List (String × Detail)
  deriving DecidableEq

structure ChronologicalExecutionState (Cursor : Type) where
  activePositions : List (HistoricalManagedReplayPosition Cursor) := []
  dailyEntries : Nat := 0
  dailyEntriesByStrategy : Tally String := .empty
  failedEntriesByStrategy : Tally String := .empty
  completedPositions : Nat := 0
  realizedRTotal : ℚ := 0
  realizedNetPnlTotal : ℚ := 0
  realizedNetPnlComplete : Bool := true
  executionEconomicsAppliedSignalIds : Finset String := ∅
  entryEvaluationSuppressedCycles : Nat := 0
  entryGateBlockCounts : Tally String := .empty
  lastLossExitTime : Option Int := none
  lossCooldownUntil : Option Int := none
  chronologyIndeterminate : Bool := false
  chronologyBlockReason : Option String := none
  positionsOpenAtSessionEnd : Nat := 0
  rejectedOpportunities : List RejectedOpportunity := []
  dailyLossTriggerEvents : List DailyLossTriggerEvent := []
  dailyLossTriggerStatuses : Finset String := ∅

structure ChronologicalReplayExecutor (World Cursor : Type) where
  riskConfig : RiskConfig
  world : World
  state : ChronologicalExecutionState Cursor := {}

namespace ChronologicalReplayExecutor

variable {World Cursor : Type}

/-! ### Gates -/

/-- The net profit and loss, when every resolved trade had one. -/
def knownNetPnl (state : ChronologicalExecutionState Cursor) : Option ℚ :=
  if state.realizedNetPnlComplete then some state.realizedNetPnlTotal else none

/-- The four limits, in the order they are reported. -/
def gateDecisions (executor : ChronologicalReplayExecutor World Cursor) (now : Int) :
    List RiskGateDecision :=
  [checkPositionCapacity executor.riskConfig executor.state.activePositions.length,
    checkLossCooldown executor.riskConfig now executor.state.lastLossExitTime,
    checkDailyLossLimits executor.riskConfig executor.state.realizedRTotal
      (knownNetPnl executor.state) (some executor.riskConfig.accountEquity),
    checkDailyTradeLimit executor.riskConfig executor.state.dailyEntries none]

/-- Note the first time a daily loss limit is reached. -/
def noteDailyLoss (executor : ChronologicalReplayExecutor World Cursor) (now : Int)
    (decision : RiskGateDecision) : ChronologicalReplayExecutor World Cursor :=
  if !decision.allowed ∧ decision.status ∉ executor.state.dailyLossTriggerStatuses then
    { executor with
      state :=
        { executor.state with
          dailyLossTriggerStatuses :=
            insert decision.status executor.state.dailyLossTriggerStatuses
          dailyLossTriggerEvents := executor.state.dailyLossTriggerEvents ++
            [{ timestamp := now
               status := decision.status
               realizedRTotal := roundTo 4 executor.state.realizedRTotal
               realizedNetPnlTotal := (knownNetPnl executor.state).map (roundTo 2)
               details := decision.details }] } }
  else executor

def globalEntryGate (executor : ChronologicalReplayExecutor World Cursor) (now : Int) :
    RiskGateDecision × ChronologicalReplayExecutor World Cursor :=
  if executor.state.chronologyIndeterminate then
    ({ allowed := false
       status := "CHRONOLOGY_INDETERMINATE"
       details :=
         [("reason", executor.state.chronologyBlockReason.elim .missing .text)] }, executor)
  else
    let noted := executor.noteDailyLoss now
      (checkDailyLossLimits executor.riskConfig executor.state.realizedRTotal
        (knownNetPnl executor.state) (some executor.riskConfig.accountEquity))
    (((executor.gateDecisions now).find? fun decision => !decision.allowed).getD
      { allowed := true }, noted)

def strategyEntryGate (executor : ChronologicalReplayExecutor World Cursor)
    (signal : StrategySignal) : RiskGateDecision :=
  checkStrategyTradeLimits executor.riskConfig
    (executor.state.dailyEntriesByStrategy.get signal.strategy.value)
    (executor.state.failedEntriesByStrategy.get signal.strategy.value)

/-! ### Lifecycles -/

/-- Once exposure cannot be known, entries are blocked for the session. -/
def markIndeterminate (executor : ChronologicalReplayExecutor World Cursor)
    (record : ReplayManifestRecord) : ChronologicalReplayExecutor World Cursor :=
  { executor with
    state :=
      { executor.state with
        chronologyIndeterminate := true
        chronologyBlockReason := some (record.replaySignalId ++ ":" ++
          record.lifecycleStatus.value ++ ":" ++ (orText record.exitReason (some "UNKNOWN")).getD "") } }

def recordDirection (record : ReplayManifestRecord) : TradeDirection :=
  match record.direction with
  | .call => .bullish
  | .put => .bearish

/-- A record resolved: count it, tell its strategy and add its realized multiple. -/
def completeRecord (collaborators : Collaborators World Cursor)
    (executor : ChronologicalReplayExecutor World Cursor) (record : ReplayManifestRecord)
    (barEnd : Int) : Except Raised Unit × ChronologicalReplayExecutor World Cursor :=
  let counted : ChronologicalReplayExecutor World Cursor :=
    { executor with
      state := { executor.state with
        completedPositions := executor.state.completedPositions + 1 } }
  match StrategyName.ofValue record.strategyId with
  | none => (.error ⟨"'" ++ record.strategyId ++ "' is not a valid StrategyName"⟩, counted)
  | some strategy =>
      match collaborators.notifyExit counted.world strategy (recordDirection record)
          (record.exitTimestamp.getD barEnd) with
      | (.error raised, world) => (.error raised, { counted with world := world })
      | (.ok (), world) =>
          (.ok (),
            { counted with
              world := world
              state := { counted.state with
                realizedRTotal := counted.state.realizedRTotal + record.realizedR.getD 0 } })

/-- What becomes known when a position is no longer active. -/
def settleRecord (collaborators : Collaborators World Cursor)
    (executor : ChronologicalReplayExecutor World Cursor) (record : ReplayManifestRecord)
    (barEnd : Int) : Except Raised Unit × ChronologicalReplayExecutor World Cursor :=
  match record.lifecycleStatus with
  | .resolved => completeRecord collaborators executor record barEnd
  | .ambiguous | .unresolved => (.ok (), executor.markIndeterminate record)
  | .pending | .adverseBeforeEntry => (.ok (), executor)

def setActive (executor : ChronologicalReplayExecutor World Cursor)
    (positions : List (HistoricalManagedReplayPosition Cursor)) :
    ChronologicalReplayExecutor World Cursor :=
  { executor with state := { executor.state with activePositions := positions } }

/-- The loop over the active positions: those managed before, as the replayer left them,
those of them that survive, and the records closed so far. -/
def manageFrom (collaborators : Collaborators World Cursor) (bar : Candle)
    (running : List Candle) (executor : ChronologicalReplayExecutor World Cursor)
    (managed survivors : List (HistoricalManagedReplayPosition Cursor))
    (closed : List ReplayManifestRecord) :
    List (HistoricalManagedReplayPosition Cursor) →
      Except Raised (List ReplayManifestRecord) × ChronologicalReplayExecutor World Cursor
  | [] => (.ok closed, executor.setActive survivors)
  | position :: rest =>
      match collaborators.advanceRecord executor.world position bar running with
      | (answer, result, cursor, world) =>
          let advanced : HistoricalManagedReplayPosition Cursor :=
            ⟨position.record.setLifecycleResult result, cursor⟩
          let executor := { executor with world := world }
          match answer with
          | .error raised => (.error raised, executor.setActive (managed ++ advanced :: rest))
          | .ok true =>
              manageFrom collaborators bar running executor (managed ++ [advanced])
                (survivors ++ [advanced]) closed rest
          | .ok false =>
              match settleRecord collaborators executor advanced.record bar.endTime with
              | (.error raised, executor) =>
                  (.error raised, executor.setActive (managed ++ advanced :: rest))
              | (.ok (), executor) =>
                  manageFrom collaborators bar running executor (managed ++ [advanced]) survivors
                    (closed ++ [advanced.record]) rest

/-- Manage the positions that were open before a bar. -/
def manageCompletedBar (collaborators : Collaborators World Cursor)
    (executor : ChronologicalReplayExecutor World Cursor) (bar : Candle)
    (running : List Candle) :
    Except Raised (List ReplayManifestRecord) × ChronologicalReplayExecutor World Cursor :=
  manageFrom collaborators bar running executor [] [] [] executor.state.activePositions

/-- An entry is counted for the day and for its strategy. -/
def countEntry (executor : ChronologicalReplayExecutor World Cursor) (strategyId : String) :
    ChronologicalReplayExecutor World Cursor :=
  { executor with
    state :=
      { executor.state with
        dailyEntries := executor.state.dailyEntries + 1
        dailyEntriesByStrategy := executor.state.dailyEntriesByStrategy.increment strategyId } }

/-- What `start_record` answered about a confirmed entry: the position it starts, or, without
one, an entry that never filled, that resolved at once or whose exposure is unknown. -/
def placeRecord (collaborators : Collaborators World Cursor)
    (executor : ChronologicalReplayExecutor World Cursor) (record : ReplayManifestRecord)
    (barEnd : Int) : Except Raised (Option Cursor) →
      Except Raised ReplayManifestRecord × ChronologicalReplayExecutor World Cursor
  | .error raised => (.error raised, executor)
  | .ok (some cursor) =>
      (.ok record,
        (executor.setActive (executor.state.activePositions ++ [⟨record, cursor⟩])).countEntry
          record.strategyId)
  | .ok none =>
      match settleRecord collaborators
          (if record.lifecycleStatus = .resolved then executor.countEntry record.strategyId
          else executor) record barEnd with
      | (.error raised, executor) => (.error raised, executor)
      | (.ok (), executor) => (.ok record, executor)

/-- Confirm a signal and make it active. -/
def acceptSignal (collaborators : Collaborators World Cursor)
    (executor : ChronologicalReplayExecutor World Cursor) (signal : StrategySignal)
    (bar : Candle) (sizing : ReplaySizingDecision) :
    Except Raised ReplayManifestRecord × ChronologicalReplayExecutor World Cursor :=
  match executor.globalEntryGate bar.endTime with
  | (globalGate, executor) =>
      if !globalGate.allowed then
        (.error ⟨"chronological replay entry blocked: " ++ globalGate.status⟩, executor)
      else if !(executor.strategyEntryGate signal).allowed then
        (.error ⟨"chronological replay strategy entry blocked: " ++
          (executor.strategyEntryGate signal).status⟩, executor)
      else if sizing.status ≠ "APPLIED" ∨ sizing.lots.getD 0 = 0 ∨ sizing.quantity.getD 0 = 0 then
        (.error ⟨"chronological replay cannot accept a sizing-rejected signal"⟩, executor)
      else
        match collaborators.confirmEntry executor.world signal bar with
        | (.error raised, world) => (.error raised, { executor with world := world })
        | (.ok (), world) =>
            match collaborators.startRecord world (recordEntry signal) with
            | (answer, result, world) =>
                placeRecord collaborators { executor with world := world }
                  ((recordEntry signal).setLifecycleResult result) bar.endTime answer

/-! ### Economics -/

/-- The loss that starts a cooldown: a negative gross profit and loss, or a negative realized
multiple when there is none. -/
def grossLoss (record : ReplayManifestRecord) : Bool :=
  match record.simulatedGrossPnl with
  | some pnl => decide (pnl < 0)
  | none => record.realizedR.any fun realized => decide (realized < 0)

/-- The loss that counts as a failure of the strategy. -/
def netLoss (record : ReplayManifestRecord) : Bool :=
  match record.simulatedNetPnl with
  | some pnl => decide (pnl < 0)
  | none => record.realizedR.any fun realized => decide (realized < 0)

def lossExitTime (record : ReplayManifestRecord) : Option Int :=
  if grossLoss record then record.exitTimestamp else none

/-- Add the execution of a resolved record, once for each signal. -/
def applyExecutionEconomics (executor : ChronologicalReplayExecutor World Cursor)
    (record : ReplayManifestRecord) : ChronologicalReplayExecutor World Cursor :=
  if record.lifecycleStatus ≠ .resolved then executor
  else if record.replaySignalId ∈ executor.state.executionEconomicsAppliedSignalIds then executor
  else
    let state := executor.state
    { executor with
      state :=
        { state with
          executionEconomicsAppliedSignalIds :=
            insert record.replaySignalId state.executionEconomicsAppliedSignalIds
          realizedNetPnlComplete := state.realizedNetPnlComplete && record.simulatedNetPnl.isSome
          realizedNetPnlTotal := state.realizedNetPnlTotal + record.simulatedNetPnl.getD 0
          lastLossExitTime := (lossExitTime record).or state.lastLossExitTime
          lossCooldownUntil :=
            ((lossExitTime record).map (cooldownEnd executor.riskConfig)).or
              state.lossCooldownUntil
          failedEntriesByStrategy :=
            if netLoss record then state.failedEntriesByStrategy.increment record.strategyId
            else state.failedEntriesByStrategy } }

/-! ### The end of a session -/

/-- The loop over the positions left open: what it raises leaves them active. -/
def finalizeFrom (collaborators : Collaborators World Cursor)
    (executor : ChronologicalReplayExecutor World Cursor)
    (finalized : List (HistoricalManagedReplayPosition Cursor)) :
    List (HistoricalManagedReplayPosition Cursor) →
      Except Raised Unit × ChronologicalReplayExecutor World Cursor
  | [] => (.ok (), executor.setActive [])
  | position :: rest =>
      match collaborators.finalizeRecord executor.world position with
      | (answer, result, world) =>
          let closed : HistoricalManagedReplayPosition Cursor :=
            ⟨position.record.setLifecycleResult result, position.cursor⟩
          let executor := { executor with world := world }
          match answer with
          | .error raised => (.error raised, executor.setActive (finalized ++ closed :: rest))
          | .ok () =>
              let executor :=
                if closed.record.lifecycleStatus = .ambiguous ∨
                    closed.record.lifecycleStatus = .unresolved then
                  executor.markIndeterminate closed.record
                else executor
              finalizeFrom collaborators executor (finalized ++ [closed]) rest

def finalizeSession (collaborators : Collaborators World Cursor)
    (executor : ChronologicalReplayExecutor World Cursor) :
    Except Raised Unit × ChronologicalReplayExecutor World Cursor :=
  finalizeFrom collaborators
    { executor with
      state := { executor.state with
        positionsOpenAtSessionEnd := executor.state.activePositions.length } }
    [] executor.state.activePositions

/-! ### Reports -/

def recordRejection (executor : ChronologicalReplayExecutor World Cursor)
    (rejection : RejectedOpportunity) : ChronologicalReplayExecutor World Cursor :=
  { executor with
    state := { executor.state with
      rejectedOpportunities := executor.state.rejectedOpportunities ++ [rejection] } }

def noteEntryEvaluationSuppressed (executor : ChronologicalReplayExecutor World Cursor)
    (status : Option String) : ChronologicalReplayExecutor World Cursor :=
  { executor with
    state :=
      { executor.state with
        entryEvaluationSuppressedCycles := executor.state.entryEvaluationSuppressedCycles + 1
        entryGateBlockCounts :=
          match orText status none with
          | some status => executor.state.entryGateBlockCounts.increment status
          | none => executor.state.entryGateBlockCounts } }

/-! ### Runs -/

/-- A call of the executor, or work of the replay outside it. -/
inductive Call (World : Type) where
  | manageCompletedBar (bar : Candle) (running : List Candle)
  | globalEntryGate (now : Int)
  | acceptSignal (signal : StrategySignal) (bar : Candle) (sizing : ReplaySizingDecision)
  | applyExecutionEconomics (record : ReplayManifestRecord)
  | finalizeSession
  | recordRejection (rejection : RejectedOpportunity)
  | noteEntryEvaluationSuppressed (status : Option String)
  | elsewhere (world : World)

variable (collaborators : Collaborators World Cursor)

/-- The executor after a call, whether it returned or raised. -/
def step (executor : ChronologicalReplayExecutor World Cursor) :
    Call World → ChronologicalReplayExecutor World Cursor
  | .manageCompletedBar bar running => (executor.manageCompletedBar collaborators bar running).2
  | .globalEntryGate now => (executor.globalEntryGate now).2
  | .acceptSignal signal bar sizing => (executor.acceptSignal collaborators signal bar sizing).2
  | .applyExecutionEconomics record => executor.applyExecutionEconomics record
  | .finalizeSession => (executor.finalizeSession collaborators).2
  | .recordRejection rejection => executor.recordRejection rejection
  | .noteEntryEvaluationSuppressed status => executor.noteEntryEvaluationSuppressed status
  | .elsewhere world => { executor with world := world }

/-- The executor after a sequence of calls. -/
def run (executor : ChronologicalReplayExecutor World Cursor) (calls : List (Call World)) :
    ChronologicalReplayExecutor World Cursor :=
  calls.foldl (step collaborators) executor

end ChronologicalReplayExecutor

end BreezeTrading
