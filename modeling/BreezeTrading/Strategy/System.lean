/-
This file defines the strategy service as a system: its databases, its memory and the evaluation
lock, over which cycles, forced entries, manual exits, operations on the configuration and the
status run concurrently. Kept beside them: how far the cycle has come, which trades are in hand,
and what happened so far.
-/

import BreezeTrading.Strategy.Service

namespace BreezeTrading

open Async

/-! ### The world -/

/-- How far the cycle that holds the evaluation lock has come: it manages the open trades, it
seeks an entry over the trades that were stored, it passed the kill switch with them, or it
stored an entry. -/
inductive CycleStage where
  | started
  | managing
  | seeking (stored : List ActiveTrade)
  | entering (stored : List ActiveTrade)
  | entered
  deriving DecidableEq

/-- What bears on the authority over live orders. Only a change of the flag from false to true
counts as arming. -/
inductive AuthorityEvent where
  | armed (request : ArmRequest)
  | armedByConfiguration
  | disarmed
  | modeChanged
  | killSwitchActivated
  | autoDisarmed
  | restarted
  deriving DecidableEq, Repr

/-- An entry: the trade, and what was in force when it was stored. -/
structure EntryRecord where
  trade : ActiveTrade
  stored : List ActiveTrade
  config : AutoTradingConfig
  engaged : Bool

/-- An order to buy, and whether the kill switch was engaged when it was created. -/
structure BuyRecord where
  intent : IntentRequest
  engaged : Bool
  deriving DecidableEq, Repr

/-- A trade as it was saved, and whether it was saved by its close. -/
structure SaveRecord where
  trade : ActiveTrade
  closing : Bool
  deriving DecidableEq

/-- The state of the strategy service. The latest of the `authority` events comes first. -/
structure StrategyWorld where
  trades : List ActiveTrade
  ledger : List LedgerEntry
  orders : List (String × IntentRequest)
  configRow : Option AutoTradingConfig
  configFile : Option AutoTradingConfig
  keepsFile : Bool
  memory : Memory
  stage : Option CycleStage
  forcing : Nat
  held : List String
  dispatching : List String
  engaged : Bool
  killReleases : Nat
  authority : List AuthorityEvent
  entries : List EntryRecord
  buys : List BuyRecord
  modeChanges : List (List ActiveTrade)
  saves : List SaveRecord

/-- What the environment decides about one operation. -/
inductive StrategyAnswer where
  | ok
  | raises (text : String)
  | raisesAfter (text : String)
  | time (now : Int)
  | market (view : MarketView)
  | signal (signal : Option EntrySignal)
  | contract (contract : Option SelectedContract)
  | quote (quote : OptionQuote)
  | plan (plan : ManagementPlan)
  | readiness (readiness : String)
  | order (order : Option BrokerOrder)
  | generated (orderId : String)

namespace StrategyWorld

/-! ### What the operations leave -/

def config (world : StrategyWorld) : AutoTradingConfig := world.memory.config

/-- The open trades are read: who reads them to save them later has them in hand. -/
def afterRead (world : StrategyWorld) : TradeReader → StrategyWorld
  | .management =>
      { world with
        stage := some .managing
        held := (getActiveTrades world.trades).map ActiveTrade.tradeId ++ world.held }
  | .entry => { world with stage := some (.seeking world.trades) }
  | .exit tradeId =>
      if tradeId ∈ (getActiveTrades world.trades).map ActiveTrade.tradeId then
        { world with held := tradeId :: world.held }
      else world
  | .looking => world

/-- A trade is saved. A new trade is in the hands of the task that entered it. -/
def savedTrade (world : StrategyWorld) (trade : ActiveTrade) (purpose : SavePurpose) :
    StrategyWorld :=
  let saved :=
    { world with
      trades := putTrade world.trades trade
      saves := world.saves ++ [⟨trade, decide (purpose = .closing)⟩] }
  let record : EntryRecord := ⟨trade, world.trades, world.config, world.engaged⟩
  match purpose with
  | .entry =>
      { saved with
        stage := some .entered
        held := trade.tradeId :: world.held
        dispatching := trade.tradeId :: world.dispatching
        entries := world.entries ++ [record] }
  | .forcedEntry =>
      { saved with
        held := trade.tradeId :: world.held
        dispatching := trade.tradeId :: world.dispatching
        entries := world.entries ++ [record] }
  | .reference | .managed | .closing => saved

/-- An order is created under an id. -/
def createdOrder (world : StrategyWorld) (orderId : String) (intent : IntentRequest) :
    StrategyWorld :=
  { world with
    orders := world.orders ++ [(orderId, intent)]
    buys := if intent.side = .buy then world.buys ++ [⟨intent, world.engaged⟩] else world.buys }

/-- The flag of the system is set. -/
def setArmed (world : StrategyWorld) (armed : Bool) (event : AuthorityEvent) : StrategyWorld :=
  { world with
    memory := world.memory.modifyConfig fun config => { config with systemArmed := armed }
    authority :=
      if armed = true ∧ world.config.systemArmed = true then world.authority
      else event :: world.authority }

/-- What a new configuration means for the authority over live orders. -/
def authorityEvents (old new : AutoTradingConfig) : List AuthorityEvent :=
  (if new.systemArmed = true ∧ old.systemArmed = false then [.armedByConfiguration] else []) ++
    (if new.systemArmed = false ∧ old.systemArmed = true then [.disarmed] else []) ++
    (if new.killSwitch = true ∧ old.killSwitch = false then [.killSwitchActivated] else []) ++
    (if new.mode ≠ old.mode then [.modeChanged] else [])

/-- Another configuration is in force. -/
def configured (world : StrategyWorld) (new : AutoTradingConfig) : StrategyWorld :=
  { world with
    memory := world.memory.replaceConfig new
    authority := authorityEvents world.config new ++ world.authority
    modeChanges :=
      if new.mode ≠ world.config.mode then world.modeChanges ++ [getActiveTrades world.trades]
      else world.modeChanges }

/-- The synchronous part of `update_config`: the refusals, then the assignment. -/
def applyConfig (world : StrategyWorld) (change : ConfigChange) : Except Raised StrategyWorld :=
  let new := change.resolve world.config
  if world.memory.activeTradesCache ≠ [] ∧ new.mode ≠ world.config.mode then
    .error ⟨"Cannot switch trading mode while positions are active."⟩
  else if new.mode = .live ∧ world.config.mode ≠ .live ∧
      (world.config.systemArmed = true ∨ new.systemArmed = true) then
    .error ⟨"System must be DISARMED before switching strategy mode to LIVE."⟩
  else .ok (world.configured new)

/-- The synchronous part of `set_execution_mode`, once the open trades are read. -/
def beginSwitch (world : StrategyWorld) (mode : AutoTradingMode)
    (activeTrades : List ActiveTrade) : Except Raised SwitchStart × StrategyWorld :=
  if activeTrades ≠ [] ∧ mode ≠ world.config.mode then
    (.error ⟨"Cannot switch trading mode while positions are active."⟩, world)
  else if world.config.systemArmed then
    (.ok (.disarming world.memory.current), world.setArmed false .disarmed)
  else
    match world.applyConfig (.switched mode) with
    | .ok next => (.ok (.applied next.memory.current), next)
    | .error error => (.error error, world)

/-- The flags the kill switch sets. -/
def setKillSwitch (world : StrategyWorld) (active : Bool) : StrategyWorld :=
  if active then
    { world with
      memory := world.memory.modifyConfig fun config =>
        { config with killSwitch := true, autoTradeEnabled := false, systemArmed := false }
      authority := .killSwitchActivated :: world.authority }
  else
    { world with
      memory := world.memory.modifyConfig fun config => { config with killSwitch := false }
      engaged := false
      killReleases := world.killReleases + 1 }

/-- The entry gate of a cycle: the cache is renewed, an armed system whose feed is not healthy is
disarmed, and otherwise the kill switch is passed or not. -/
def passEntryGate (world : StrategyWorld) (trades : List ActiveTrade) (feedHealthy : Bool) :
    GateView × StrategyWorld :=
  let memory := { world.memory with activeTradesCache := trades }
  let cached := { world with memory := memory }
  if world.config.mode = .live ∧ world.config.systemArmed = true ∧ feedHealthy = false then
    (⟨memory, some memory.current⟩, cached.setArmed false .autoDisarmed)
  else if world.config.killSwitch then (⟨memory, none⟩, { cached with stage := some .managing })
  else
    (⟨memory, none⟩,
      match world.stage with
      | some (.seeking stored) => { cached with stage := some (.entering stored) }
      | _ => cached)

/-- A trade is closed in memory: it leaves the cache, and a loss is remembered. -/
def closedInMemory (world : StrategyWorld) (closed : ActiveTrade) : StrategyWorld :=
  { world with
    memory :=
      { world.memory with
        activeTradesCache := world.memory.activeTradesCache.filter fun trade =>
          decide (trade.tradeId ≠ closed.tradeId)
        lastLossExitTime :=
          if closed.settlement.any fun settlement => decide (settlement.grossPnl < 0) then
            closed.exitTime
          else world.memory.lastLossExitTime } }

/-- The configuration a start loads: the file is canonical where there is one, and no start is
armed. -/
def loadedConfig (world : StrategyWorld) : AutoTradingConfig :=
  match world.configFile, world.configRow with
  | some config, _ => { config with systemArmed := false }
  | none, some config => { config with systemArmed := false }
  | none, none => {}

/-- `initialize` after a stop or a crash: nothing runs before it has ended. -/
def restarted (world : StrategyWorld) : StrategyWorld :=
  { world with
    configRow := some world.loadedConfig
    configFile := if world.keepsFile then some world.loadedConfig else world.configFile
    memory :=
      { objects := fun _ => world.loadedConfig
        current := 0
        activeTradesCache := getActiveTrades world.trades
        lastLossExitTime := none }
    stage := none
    forcing := 0
    held := []
    dispatching := []
    authority := .restarted :: world.authority }

/-- The first start: nothing has happened of what is recorded beside the stored trades. -/
def firstStart (stored : StrategyWorld) : StrategyWorld :=
  { stored.restarted with
    ledger := []
    orders := []
    engaged := false
    killReleases := 0
    entries := []
    buys := []
    modeChanges := []
    saves := [] }

/-! ### Answers -/

/-- A statement or a request that succeeds or fails. -/
def committing {Value : Type} (world : StrategyWorld) (value : Value) (next : StrategyWorld) :
    StrategyAnswer → Option (Except Raised Value × StrategyWorld)
  | .ok => some (.ok value, next)
  | .raises text => some (.error ⟨text⟩, world)
  | _ => none

/-- A step in memory: its outcome is determined. -/
def always {Outcome : Type} (outcome : Outcome) : StrategyAnswer → Option Outcome
  | .ok => some outcome
  | _ => none

/-- A question to the outside: it answers what the environment selects, or fails. -/
def asking {Value : Type} (world : StrategyWorld) (select : StrategyAnswer → Option Value)
    (choice : StrategyAnswer) : Option (Except Raised Value × StrategyWorld) :=
  match choice with
  | .raises text => some (.error ⟨text⟩, world)
  | choice => (select choice).map fun value => (.ok value, world)

/-- An order is created, refused, or created although the request fails. -/
def ordering (world : StrategyWorld) (intent : IntentRequest) :
    StrategyAnswer → Option (Except Raised String × StrategyWorld)
  | .generated orderId =>
      if orderId ∈ world.orders.map Prod.fst then none
      else some (.ok orderId, world.createdOrder orderId intent)
  | .raisesAfter orderId =>
      if orderId ∈ world.orders.map Prod.fst then none
      else some (.error ⟨"order intent failed"⟩, world.createdOrder orderId intent)
  | .raises text => some (.error ⟨text⟩, world)
  | _ => none

/-- The answer to each operation. -/
def answer (world : StrategyWorld) (op : StrategyOp) (choice : StrategyAnswer) :
    Option (Except Raised (StrategyReply op) × StrategyWorld) :=
  match op with
  | .utcNow => asking world (fun | .time now => some now | _ => none) choice
  | .gatherFeatures => asking world (fun | .market view => some view | _ => none) choice
  | .evaluateStrategies => asking world (fun | .signal signal => some signal | _ => none) choice
  | .selectContract => asking world (fun | .contract contract => some contract | _ => none) choice
  | .resolveOptionQuote _ => asking world (fun | .quote quote => some quote | _ => none) choice
  | .planManagement _ => asking world (fun | .plan plan => some plan | _ => none) choice
  | .getLivePreflight =>
      asking world (fun | .readiness readiness => some readiness | _ => none) choice
  | .elsewhere | .logEntry _ | .logClose _ => committing world () world choice
  | .getActiveTrades reader =>
      committing world (getActiveTrades world.trades) (world.afterRead reader) choice
  | .listTrades limit => committing world (listTrades limit world.trades) world choice
  | .saveTrade trade purpose => committing world () (world.savedTrade trade purpose) choice
  -- a failure to record an execution is logged, never raised
  | .recordExecution entry =>
      match choice with
      | .ok => some (.ok (), { world with ledger := world.ledger ++ [entry] })
      | .raises _ => some (.ok (), world)
      | _ => none
  | .getOrder _ => asking world (fun | .order order => some order | _ => none) choice
  | .createOrderIntent intent => world.ordering intent choice
  | .insertConfigRow object =>
      committing world () { world with configRow := some (world.memory.objects object) } choice
  | .writeConfigFile object =>
      committing world ()
        (if world.keepsFile then
          { world with
            configFile := some { world.memory.objects object with systemArmed := false } }
        else world) choice
  | .readMemory => always (.ok world.memory, world) choice
  | .acquireEvaluationLock =>
      if world.stage = none then always (.ok (), { world with stage := some .started }) choice
      else none
  | .releaseEvaluationLock => always (.ok (), { world with stage := none }) choice
  | .cacheActiveTrades trades =>
      always (.ok (), { world with memory := { world.memory with activeTradesCache := trades } })
        choice
  | .passEntryGate trades feedHealthy =>
      always (.ok (world.passEntryGate trades feedHealthy).1,
        (world.passEntryGate trades feedHealthy).2) choice
  | .appendActiveTrade trade =>
      always (.ok (),
        { world with
          memory :=
            { world.memory with
              activeTradesCache := world.memory.activeTradesCache ++ [trade] } }) choice
  | .closeInMemory trade futuresPrice price reason =>
      match choice with
      | .time now =>
          some (.ok (now, world.config.costs), world.closedInMemory
            (trade.closeAt world.config.costs futuresPrice price reason now))
      | _ => none
  | .closeUnfilledInMemory trade status =>
      match choice with
      | .time now => some (.ok now, world.closedInMemory (trade.closeUnfilled status now))
      | _ => none
  | .requestArm armed =>
      if armed = true ∧ world.config.mode = .live then
        always (.ok .preflight, world) choice
      else
        always (.ok (.carriedOut world.memory.current),
          world.setArmed armed
            (if armed then .armed ⟨world.config.mode, none⟩ else .disarmed)) choice
  | .armSystem request =>
      always (.ok world.memory.current, world.setArmed true (.armed request)) choice
  | .beginSwitch mode activeTrades => always (world.beginSwitch mode activeTrades) choice
  | .applyConfig change =>
      match world.applyConfig change with
      | .ok next => always (.ok next.memory.current, next) choice
      | .error error => always (.error error, world) choice
  | .setAutoTrade enabled =>
      always (.ok world.memory.current,
        { world with
          memory := world.memory.modifyConfig fun config =>
            { config with autoTradeEnabled := enabled } }) choice
  | .setKillSwitch active =>
      always (.ok (world.memory.current, (world.setKillSwitch active).killReleases),
        world.setKillSwitch active) choice
  | .killSwitchReturned active call =>
      always (.ok (),
        if active = true ∧ call = world.killReleases then { world with engaged := true }
        else world) choice
  | .escalateStopFailure =>
      if world.config.systemArmed then
        always (.ok (some world.memory.current), world.setArmed false .autoDisarmed) choice
      else always (.ok none, world) choice
  | .beginForceEntry => always (.ok (), { world with forcing := world.forcing + 1 }) choice
  | .endForceEntry => always (.ok (), { world with forcing := world.forcing - 1 }) choice
  | .endEntry tradeId =>
      always (.ok (),
        { world with
          held := world.held.erase tradeId
          dispatching := world.dispatching.erase tradeId }) choice
  | .putDown tradeIds => always (.ok (), { world with held := world.held.diff tradeIds }) choice

/-! ### What an operation may do -/

/-- An operation that only reads or asks leaves the world alone. -/
def IsReading : StrategyOp → Prop
  | .utcNow | .gatherFeatures | .evaluateStrategies | .selectContract | .resolveOptionQuote _ => True
  | .planManagement _ | .getLivePreflight | .elsewhere | .listTrades _ | .getOrder _ => True
  | .logEntry _ | .logClose _ | .readMemory => True
  | _ => False

variable {world next : StrategyWorld} {choice : StrategyAnswer}

theorem asking_leaves {Value : Type} {select : StrategyAnswer → Option Value}
    {reply : Except Raised Value} (answered : asking world select choice = some (reply, next)) :
    next = world := by
  unfold asking at answered
  split at answered
  · simp only [Option.some.injEq, Prod.mk.injEq] at answered
    exact answered.2.symm
  · obtain ⟨value, _, same⟩ := Option.map_eq_some_iff.mp answered
    simp only [Prod.mk.injEq] at same
    exact same.2.symm

theorem committing_cases {Value : Type} {target : StrategyWorld} {value : Value}
    {reply : Except Raised Value}
    (answered : committing world value target choice = some (reply, next)) :
    (reply = .ok value ∧ next = target) ∨ ((∃ error, reply = .error error) ∧ next = world) := by
  cases choice <;> simp only [committing, Option.some.injEq, Prod.mk.injEq, reduceCtorEq] at answered
  · exact Or.inl ⟨answered.1.symm, answered.2.symm⟩
  · exact Or.inr ⟨⟨_, answered.1.symm⟩, answered.2.symm⟩

theorem always_cases {Outcome : Type} {outcome result : Outcome}
    (answered : always outcome choice = some result) : result = outcome := by
  cases choice <;> simp only [always, Option.some.injEq, reduceCtorEq] at answered
  exact answered.symm

theorem always_next {Outcome : Type} {outcome result : Outcome × StrategyWorld}
    (answered : always outcome choice = some result) : result.2 = outcome.2 :=
  congrArg Prod.snd (always_cases answered)

theorem ordering_cases {intent : IntentRequest} {reply : Except Raised String}
    (answered : world.ordering intent choice = some (reply, next)) :
    (∃ orderId, orderId ∉ world.orders.map Prod.fst ∧ next = world.createdOrder orderId intent ∧
        ∀ value, reply = .ok value → value = orderId) ∨
      ((∃ error, reply = .error error) ∧ next = world) := by
  cases choice with
  | generated orderId =>
    simp only [ordering] at answered
    split at answered
    · cases answered
    · rename_i fresh
      obtain ⟨rfl, rfl⟩ := answered
      exact Or.inl ⟨orderId, fresh, rfl, fun value same => (Except.ok.inj same).symm⟩
  | raisesAfter orderId =>
    simp only [ordering] at answered
    split at answered
    · cases answered
    · rename_i fresh
      obtain ⟨rfl, rfl⟩ := answered
      exact Or.inl ⟨orderId, fresh, rfl, fun value same => by cases same⟩
  | raises text =>
    simp only [ordering, Option.some.injEq, Prod.mk.injEq] at answered
    exact Or.inr ⟨⟨_, answered.1.symm⟩, answered.2.symm⟩
  | _ => simp only [ordering, reduceCtorEq] at answered

theorem answer_of_isReading {op : StrategyOp} {reply : Except Raised (StrategyReply op)}
    (reading : IsReading op) (answered : world.answer op choice = some (reply, next)) :
    next = world := by
  cases op with
  | utcNow | gatherFeatures | evaluateStrategies | selectContract | resolveOptionQuote tradeId
  | planManagement tradeId | getLivePreflight | getOrder orderId => exact asking_leaves answered
  | elsewhere | listTrades limit | logEntry trade | logClose trade =>
    rcases committing_cases answered with ⟨_, same⟩ | ⟨_, same⟩
    · exact same
    · exact same
  | readMemory => exact (Prod.mk.inj (always_cases answered)).2
  | _ => exact reading.elim

theorem recordExecution_cases {entry : LedgerEntry} {reply : Except Raised Unit}
    (answered : world.answer (.recordExecution entry) choice = some (reply, next)) :
    reply = .ok () ∧ (next = { world with ledger := world.ledger ++ [entry] } ∨ next = world) := by
  cases choice <;> simp only [answer, Option.some.injEq, Prod.mk.injEq, reduceCtorEq] at answered
  · exact ⟨answered.1.symm, Or.inl answered.2.symm⟩
  · exact ⟨answered.1.symm, Or.inr answered.2.symm⟩

theorem closeInMemory_cases {trade : ActiveTrade} {futuresPrice price : ℚ} {reason : Option String}
    {reply : Except Raised (Int × PaperCosts)} (answered : world.answer (.closeInMemory trade
      futuresPrice price reason) choice = some (reply, next)) :
    ∃ now, reply = .ok (now, world.config.costs) ∧
      next = world.closedInMemory
        (trade.closeAt world.config.costs futuresPrice price reason now) := by
  cases choice <;> simp only [answer, Option.some.injEq, Prod.mk.injEq, reduceCtorEq] at answered
  exact ⟨_, answered.1.symm, answered.2.symm⟩

theorem closeUnfilledInMemory_cases {trade : ActiveTrade} {status : String}
    {reply : Except Raised Int}
    (answered : world.answer (.closeUnfilledInMemory trade status) choice = some (reply, next)) :
    ∃ now, reply = .ok now ∧ next = world.closedInMemory (trade.closeUnfilled status now) := by
  cases choice <;> simp only [answer, Option.some.injEq, Prod.mk.injEq, reduceCtorEq] at answered
  exact ⟨_, answered.1.symm, answered.2.symm⟩

/-- An operation that may change the configuration in force. -/
def IsConfigOp : StrategyOp → Prop
  | .passEntryGate _ _ | .requestArm _ | .armSystem _ | .beginSwitch _ _ | .applyConfig _ => True
  | .setAutoTrade _ | .setKillSwitch _ | .escalateStopFailure => True
  | _ => False

section

variable (world : StrategyWorld)

@[simp] theorem config_savedTrade (trade : ActiveTrade) (purpose : SavePurpose) :
    (world.savedTrade trade purpose).config = world.config := by
  cases purpose <;> rfl

@[simp] theorem config_afterRead (reader : TradeReader) :
    (world.afterRead reader).config = world.config := by
  cases reader with
  | exit tradeId =>
    simp only [afterRead]
    split <;> rfl
  | _ => rfl

end

end StrategyWorld

/-! ### The system -/

/-- What may start, at any time. -/
inductive StrategyStart where
  | evaluateCycle
  | forceEntry (strategy : StrategyName) (direction : TradeDirection)
      (optionType : Option OptionType)
  | manualExit (tradeId reason : String)
  | getStatus
  | updateConfig (config : AutoTradingConfig)
  | setExecutionMode (mode : AutoTradingMode)
  | arm (armed : Bool)
  | setAutoTrade (enabled : Bool)
  | toggleKillSwitch (active : Bool)
  deriving DecidableEq

/-- The task that starts; what it returns is not looked at. -/
def StrategyStart.task : StrategyStart → StrategyTask Unit
  | .evaluateCycle => do
      let _ ← StrategyService.evaluateCycle
  | .forceEntry strategy direction optionType => do
      let _ ← StrategyService.forceEntry strategy direction optionType
  | .manualExit tradeId reason => StrategyService.manualExitTrade tradeId reason
  | .getStatus => StrategyService.getStatus
  | .updateConfig config => StrategyService.updateConfig (.posted config)
  | .setExecutionMode mode => StrategyService.setExecutionMode mode
  | .arm armed => StrategyService.armStrategySystem armed
  | .setAutoTrade enabled => StrategyService.setAutoTrade enabled
  | .toggleKillSwitch active => StrategyService.toggleKillSwitch active

/-- The task neither evaluates, nor enters, nor exits a trade. -/
def StrategyStart.isControl : StrategyStart → Prop
  | .evaluateCycle | .forceEntry _ _ _ | .manualExit _ _ => False
  | _ => True

theorem StrategyStart.within_isControl {kind : StrategyStart} (control : kind.isControl) :
    kind.task.Within StrategyService.IsControl := by
  cases kind with
  | getStatus => exact StrategyService.stays_getStatus.within
  | updateConfig config => exact (StrategyService.stays_updateConfig (.posted config)).within
  | setExecutionMode mode => exact (StrategyService.stays_setExecutionMode mode).within
  | arm armed => exact (StrategyService.stays_armStrategySystem armed).within
  | setAutoTrade enabled => exact (StrategyService.stays_setAutoTrade enabled).within
  | toggleKillSwitch active => exact (StrategyService.stays_toggleKillSwitch active).within
  | evaluateCycle | forceEntry | manualExit => exact control.elim

/-- The strategy service. -/
def strategySystem :
    System StrategyOp StrategyReply Raised StrategyWorld StrategyAnswer StrategyStart Empty where
  answer := StrategyWorld.answer
  start world kind := some (kind.task, world)
  disturb _ cause := cause.elim
  restart := StrategyWorld.restarted

/-! ### A market to run in -/

/-- What is stored before the first start: a configuration and trades. -/
def storedWorld (config : AutoTradingConfig) (trades : List ActiveTrade) : StrategyWorld where
  trades := trades
  ledger := []
  orders := []
  configRow := some config
  configFile := none
  keepsFile := false
  memory := ⟨fun _ => {}, 0, [], none⟩
  stage := none
  forcing := 0
  held := []
  dispatching := []
  engaged := false
  killReleases := 0
  authority := []
  entries := []
  buys := []
  modeChanges := []
  saves := []

def openMarket : MarketView where
  executionFeedHealthy := true
  strategyBSignalDataFresh := true
  hasFuturesCandles := true
  hasStrategyECandles := true
  dataReady := true
  breakoutDataReady := true
  activeCandidateTrade := false
  executionSignal := false
  bypassEntryWindow := false
  strategyAWindow := true
  strategyBWindow := true
  strategyEWindow := true
  spotPrice := 25000
  futuresPrice := 25040
  atr5m := 20

def callContract : SelectedContract where
  symbol := "NIFTY-25000-CE"
  instrumentId := "INST-NIFTY-25000-CE"
  expiry := "2026-01-01"
  strike := 25000
  askPrice := 100
  lastPrice := 99
  lots := 1
  quantity := 75
  liveOrdersEnabled := true

/-- A signal to buy it. -/
def callSignal : EntrySignal where
  signalId := "SIG-1"
  strategy := .volatilityBreakout
  direction := .bullish
  optionType := .call
  underlyingEntry := 25000
  rPoints := 20

/-- A cycle enters a trade: it starts, manages nothing, passes its gates and finds a signal. -/
def enteringCycle (task : Nat) : List (Event StrategyAnswer StrategyStart Empty) :=
  [.start .evaluateCycle, .resume task .ok, .resume task (.time 0),
    .resume task (.market openMarket), .resume task .ok, .resume task .ok, .resume task .ok,
    .resume task .ok, .resume task .ok, .resume task .ok, .resume task .ok,
    .resume task (.signal (some callSignal)), .resume task .ok, .resume task .ok,
    .resume task .ok, .resume task (.contract (some callContract)), .resume task .ok,
    .resume task .ok, .resume task .ok]

/-- An operator forces an entry, up to the save of its trade. -/
def forcedEntryAt (task : Nat) (now : Int) : List (Event StrategyAnswer StrategyStart Empty) :=
  [.start (.forceEntry .volatilityBreakout .bullish none), .resume task .ok,
    .resume task (.time now), .resume task (.market openMarket),
    .resume task (.contract (some callContract)), .resume task .ok, .resume task .ok]

end BreezeTrading
