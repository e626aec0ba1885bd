/-
This file defines what the strategy service is written over: what it keeps in memory, and the
operations its coroutines await, each with its reply. A stretch of code between two awaits is one
step. A configuration is an object: an operation holds on to the one it read, which a later change
may or may not change.
-/

import BreezeTrading.Lib.Coroutine
import BreezeTrading.Oms.Repository
import BreezeTrading.Strategy.Trades

namespace BreezeTrading

open Async

/-! ### Memory -/

/-- What the strategy service keeps in memory: the configuration objects it was given, which of
them is its configuration, the open trades as last read, and the exit of the last loss. -/
structure Memory where
  objects : Nat → AutoTradingConfig
  current : Nat
  activeTradesCache : List ActiveTrade
  lastLossExitTime : Option Int

namespace Memory

/-- The configuration of the service. -/
def config (memory : Memory) : AutoTradingConfig := memory.objects memory.current

/-- Change the configuration in place. -/
def modifyConfig (memory : Memory) (change : AutoTradingConfig → AutoTradingConfig) : Memory :=
  { memory with
    objects := fun object =>
      if object = memory.current then change memory.config else memory.objects object }

/-- Take another object for the configuration. -/
def replaceConfig (memory : Memory) (config : AutoTradingConfig) : Memory :=
  { memory with
    objects := fun object => if object = memory.current + 1 then config else memory.objects object
    current := memory.current + 1 }

@[simp] theorem config_modifyConfig (memory : Memory)
    (change : AutoTradingConfig → AutoTradingConfig) :
    (memory.modifyConfig change).config = change memory.config := if_pos rfl

@[simp] theorem config_replaceConfig (memory : Memory) (config : AutoTradingConfig) :
    (memory.replaceConfig config).config = config := if_pos rfl

end Memory

/-- The configuration a caller asks for: one it posts as a whole, or the present one in another
mode, disarmed. -/
inductive ConfigChange where
  | posted (config : AutoTradingConfig)
  | switched (mode : AutoTradingMode)

/-- The configuration a change asks for, over the present one. -/
def ConfigChange.resolve (current : AutoTradingConfig) : ConfigChange → AutoTradingConfig
  | .posted config => config
  | .switched mode => { current with mode := mode, systemArmed := false }

/-! ### What is answered from outside -/

/-- What gathering the features leaves known of the market. -/
structure MarketView where
  executionFeedHealthy : Bool
  strategyBSignalDataFresh : Bool
  hasFuturesCandles : Bool
  hasStrategyECandles : Bool
  dataReady : Bool
  breakoutDataReady : Bool
  activeCandidateTrade : Bool
  executionSignal : Bool
  bypassEntryWindow : Bool
  strategyAWindow : Bool
  strategyBWindow : Bool
  strategyEWindow : Bool
  spotPrice : ℚ
  futuresPrice : ℚ
  atr5m : ℚ
  deriving DecidableEq

/-- A signal the strategies evaluated, with what an entry takes from it. -/
structure EntrySignal extends StrategySignal where
  optionType : OptionType
  underlyingEntry : ℚ
  rPoints : ℚ
  deriving DecidableEq

/-- The contract selected for a signal, sized, and whether the server may send live orders. -/
structure SelectedContract where
  symbol : String
  instrumentId : String
  expiry : String
  strike : ℚ
  askPrice : ℚ
  lastPrice : ℚ
  lots : Int
  quantity : Int
  liveOrdersEnabled : Bool
  deriving DecidableEq

/-- The quote of the contract of a trade. -/
structure OptionQuote where
  status : String
  bid : Option ℚ
  deriving DecidableEq, Repr

/-- The quote can be sold at. -/
def OptionQuote.usable (quote : OptionQuote) : Bool :=
  decide (quote.status = "VALID") && quote.bid.any fun bid => decide (0 < bid)

/-- What a row of the execution ledger stands for. -/
inductive LedgerKind where
  | entry
  | fill
  | partialExit
  | finalExit
  deriving DecidableEq, Repr

/-- A row of the execution ledger. -/
structure LedgerEntry where
  tradeId : String
  kind : LedgerKind
  side : OrderSide
  executablePrice : ℚ
  quantity : Int
  reason : Option String
  deriving DecidableEq, Repr

/-- The order the service asks the order service for. The id of the intent is generated there. -/
structure IntentRequest where
  correlationId : String
  instrumentId : String
  symbol : String
  side : OrderSide
  orderType : OrderType
  quantity : Int
  price : ℚ
  triggerPrice : Option ℚ := none
  tradingMode : TradingMode := .live
  reduceOnly : Bool := false
  deriving DecidableEq, Repr

/-- One thing the management of a trade does: it sets tracked values, saves the trade, awaits
something without an effect here, sends an order to sell, records a fill of the broker or a
partial exit, or escalates a failure of the protective stop. -/
inductive ManagementStep where
  | track (tracking : Tracking)
  | save
  | elsewhere
  | sell (orderType : OrderType) (quantity : Int) (price : ℚ) (triggerPrice : Option ℚ)
  | record (isPartialExit : Bool) (price : ℚ) (quantity : Int) (reason : Option String)
  | escalate
  deriving DecidableEq

/-- How the management of a trade ends: the trade is kept, with or without leave to go on, or it
is closed, and saved once more or not. -/
inductive ManagementEnd where
  | kept (mayContinue : Bool)
  | closed (futuresPrice price : ℚ) (reason : Option String) (savedAgain : Bool)
  deriving DecidableEq

/-- What the management of a trade does in one evaluation. -/
structure ManagementPlan where
  steps : List ManagementStep
  ending : ManagementEnd
  deriving DecidableEq

/-! ### Arming -/

/-- A request to arm: the mode in which it was made, and what the preflight answered. -/
structure ArmRequest where
  mode : AutoTradingMode
  readiness : Option String
  deriving DecidableEq, Repr

/-- What a request to arm or to disarm comes to at once: it is carried out, or, made in the live
mode, must wait for the preflight. -/
inductive ArmStart where
  | carriedOut (object : Nat)
  | preflight
  deriving DecidableEq, Repr

/-- What a switch of the mode comes to at once: the new configuration is in force, or the armed
system is disarmed first. -/
inductive SwitchStart where
  | applied (object : Nat)
  | disarming (object : Nat)
  deriving DecidableEq, Repr

/-- What the entry gate of a cycle sees: the memory, and the object to save if the system was
disarmed because its feed is not healthy. -/
structure GateView where
  memory : Memory
  disarmed : Option Nat

/-! ### Operations -/

/-- Who reads the open trades: the evaluation that manages them, the search for an entry, a manual
exit of one of them, or somebody who only looks. -/
inductive TradeReader where
  | management
  | entry
  | exit (tradeId : String)
  | looking
  deriving DecidableEq, Repr

/-- What a trade is saved for: a new trade of a signal or of an operator, the reference of its
entry order, its management, or its close. -/
inductive SavePurpose where
  | entry
  | forcedEntry
  | reference
  | managed
  | closing
  deriving DecidableEq, Repr

/-- The operations of the strategy service. -/
inductive StrategyOp where
  -- market, clock, and everything awaited without an effect here
  | utcNow
  | gatherFeatures
  | evaluateStrategies
  | selectContract
  | resolveOptionQuote (tradeId : String)
  | planManagement (tradeId : String)
  | getLivePreflight
  | elsewhere
  | logEntry (trade : ActiveTrade)
  | logClose (trade : ActiveTrade)
  -- databases
  | getActiveTrades (reader : TradeReader)
  | listTrades (limit : Nat)
  | saveTrade (trade : ActiveTrade) (purpose : SavePurpose)
  | recordExecution (entry : LedgerEntry)
  | getOrder (orderId : String)
  | createOrderIntent (intent : IntentRequest)
  | insertConfigRow (object : Nat)
  | writeConfigFile (object : Nat)
  -- memory
  | readMemory
  | acquireEvaluationLock
  | releaseEvaluationLock
  | cacheActiveTrades (trades : List ActiveTrade)
  | passEntryGate (trades : List ActiveTrade) (executionFeedHealthy : Bool)
  | appendActiveTrade (trade : ActiveTrade)
  | closeInMemory (trade : ActiveTrade) (futuresPrice price : ℚ) (reason : Option String)
  | closeUnfilledInMemory (trade : ActiveTrade) (status : String)
  | requestArm (armed : Bool)
  | armSystem (request : ArmRequest)
  | beginSwitch (mode : AutoTradingMode) (activeTrades : List ActiveTrade)
  | applyConfig (change : ConfigChange)
  | setAutoTrade (enabled : Bool)
  | setKillSwitch (active : Bool)
  | killSwitchReturned (active : Bool) (call : Nat)
  | escalateStopFailure
  -- the extent of a piece of work
  | beginForceEntry
  | endForceEntry
  | endEntry (tradeId : String)
  | putDown (tradeIds : List String)

/-- The reply to each operation. -/
@[reducible] def StrategyReply : StrategyOp → Type
  | .utcNow => Int
  | .gatherFeatures => MarketView
  | .evaluateStrategies => Option EntrySignal
  | .selectContract => Option SelectedContract
  | .resolveOptionQuote _ => OptionQuote
  | .planManagement _ => ManagementPlan
  | .getLivePreflight => String
  | .elsewhere => Unit
  | .logEntry _ => Unit
  | .logClose _ => Unit
  | .getActiveTrades _ => List ActiveTrade
  | .listTrades _ => List ActiveTrade
  | .saveTrade _ _ => Unit
  | .recordExecution _ => Unit
  | .getOrder _ => Option BrokerOrder
  | .createOrderIntent _ => String
  | .insertConfigRow _ => Unit
  | .writeConfigFile _ => Unit
  | .readMemory => Memory
  | .acquireEvaluationLock => Unit
  | .releaseEvaluationLock => Unit
  | .cacheActiveTrades _ => Unit
  | .passEntryGate _ _ => GateView
  | .appendActiveTrade _ => Unit
  | .closeInMemory _ _ _ _ => Int × PaperCosts
  | .closeUnfilledInMemory _ _ => Int
  | .requestArm _ => ArmStart
  | .armSystem _ => Nat
  | .beginSwitch _ _ => SwitchStart
  | .applyConfig _ => Nat
  | .setAutoTrade _ => Nat
  | .setKillSwitch _ => Nat × Nat
  | .killSwitchReturned _ _ => Unit
  | .escalateStopFailure => Option Nat
  | .beginForceEntry => Unit
  | .endForceEntry => Unit
  | .endEntry _ => Unit
  | .putDown _ => Unit

/-- A coroutine of the strategy service. -/
abbrev StrategyTask (Result : Type) := Coroutine StrategyOp StrategyReply Raised Result

/-- Await one operation of the strategy service. -/
abbrev suspend (op : StrategyOp) : StrategyTask (StrategyReply op) := Coroutine.perform op

/-- Await an operation under a condition. -/
def suspendIf (condition : Prop) [Decidable condition] (op : StrategyOp) : StrategyTask Unit :=
  if condition then (suspend op).bind fun _ => return () else return ()

/-- Run a task and then, whether it finished or raised, an operation: `try ... finally`. -/
def finallyDo {Result : Type} (task : StrategyTask Result) (op : StrategyOp) :
    StrategyTask Result := do
  let result ← task.catching fun error => do
    let _ ← suspend op
    throw error
  let _ ← suspend op
  return result

section Extent

open Async.Coroutine

variable {kind : StrategyOp → Prop}

theorem stays_suspendIf (condition : Prop) [Decidable condition] {op : StrategyOp}
    (fits : kind op) : (suspendIf condition op).Stays kind fun _ => True := by
  unfold suspendIf
  split
  · exact Stays.perform_bind fits fun _ => trivial
  · trivial

theorem stays_finallyDo {Result : Type} {middle : Result → Prop} {task : StrategyTask Result}
    {op : StrategyOp} (stays : task.Stays kind middle) (fits : kind op) :
    (finallyDo task op).Stays kind middle := by
  have handled : ∀ error, ((suspend op).bind fun _ => .raised error :
      StrategyTask Result).Stays kind middle :=
    fun error => Stays.perform_bind fits fun _ => trivial
  exact (stays.catching handled).bind fun result kept => Stays.perform_bind fits fun _ => kept

end Extent

end BreezeTrading
