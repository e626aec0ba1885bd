/-
This file models how the evaluation cycle holds Strategy A to one trade at a time. The state
machine lives in memory and its export in a table, the trades in another, written one after
another; the cycle may be cut at any write. It proves when a new trade waits for the one before,
and for the cooldown.
-/

import BreezeTrading.Lib.Run
import BreezeTrading.Strategy.Service
import BreezeTrading.Strategy.TrendPullback

namespace BreezeTrading.PullbackExclusivity

open StrategyService TrendPullbackStrategy

/-! ### State -/

/-- The trades of Strategy A that are not closed. -/
def unclosed (trades : List ActiveTrade) : List ActiveTrade :=
  tradesOf .trendPullback (trades.filter ActiveTrade.isOpen)

/-- A trade of Strategy A as it was created, with the trades of the strategy that were not closed
before it, and the ends of the cooldowns that had begun. -/
structure Creation where
  trade : ActiveTrade
  unclosed : List ActiveTrade
  cooldowns : List Int
  deriving DecidableEq

/-- Strategy A in memory and as it is stored, the table of trades, the clock, whether the service
came up, and what was noted of cooldowns and created trades. -/
structure Desk where
  strategy : TrendPullbackStrategy
  runtime : PullbackRuntime
  trades : List ActiveTrade
  clock : Int
  running : Bool
  cooldowns : List Int
  created : List Creation

def fresh : Desk := ⟨initial, exportState initial, [], 0, true, [], []⟩

/-- Time passes. -/
def Desk.advance (desk : Desk) (elapsed : Nat) : Desk :=
  { desk with clock := desk.clock + elapsed }

/-! ### Writes -/

/-- A write of a cycle, to memory or to a table, or the failure of one. -/
inductive Effect where
  | reset
  | onExit (moment : Int)
  | onExecutionRejected (moment : Int)
  | confirmEntry (moment : Int)
  | saveRuntime
  | saveTrade (trade : ActiveTrade)
  | createTrade (trade : ActiveTrade)
  | fail

/-- A write, unless it fails. -/
def Desk.apply (desk : Desk) : Effect → Option Desk
  | .reset => some { desk with strategy := desk.strategy.reset }
  | .onExit moment =>
      some { desk with
        strategy := desk.strategy.onExit moment
        cooldowns := TrendPullbackStrategy.cooldownEnd moment :: desk.cooldowns }
  | .onExecutionRejected moment =>
      some { desk with
        strategy := desk.strategy.onExecutionRejected moment
        cooldowns := TrendPullbackStrategy.cooldownEnd moment :: desk.cooldowns }
  | .confirmEntry moment =>
      (desk.strategy.confirmEntry moment).map fun strategy => { desk with strategy }
  | .saveRuntime => some { desk with runtime := exportState desk.strategy }
  | .saveTrade trade => some { desk with trades := putTrade desk.trades trade }
  | .createTrade trade =>
      some { desk with
        trades := putTrade desk.trades trade
        created := desk.created ++ [⟨trade, unclosed desk.trades, desk.cooldowns⟩] }
  | .fail => none

/-- The writes in their order, until one fails. -/
def perform : Desk → List Effect → Except Desk Desk
  | desk, [] => .ok desk
  | desk, effect :: rest =>
      match desk.apply effect with
      | some next => perform next rest
      | none => .error desk

/-- What is left of the writes, failed or not. -/
def settled : Except Desk Desk → Desk
  | .ok desk | .error desk => desk

/-- The writes of which the first few are done before one fails. -/
def interrupted (cut : Option Nat) (effects : List Effect) : List Effect :=
  match cut with
  | none => effects
  | some count => effects.take count ++ [.fail]

/-! ### Management -/

/-- What the broker says of the order of a live entry. -/
inductive EntryOutcome where
  | waiting
  | unfilled (status : String) (moment : Int)
  | filled (tracking : Tracking) (moment : Int)

/-- How a position is left. -/
structure Exit where
  costs : PaperCosts
  futuresPrice : ℚ
  price : ℚ
  reason : Option String
  moment : Int

/-- What management does of a trade: the values it stores on the way, and its exit. -/
structure TradePlan where
  entryOutcome : EntryOutcome := .waiting
  tracked : List Tracking := []
  exit : Option Exit := none

section

variable (trade : ActiveTrade) (plan : TradePlan)

/-- A write that only Strategy A has. -/
def ofStrategyA (effect : Effect) : List Effect :=
  if trade.strategy = .trendPullback then [effect] else []

def closeTrade (exit : Exit) : List Effect :=
  ofStrategyA trade (.onExit exit.moment) ++
    [.saveRuntime, .saveTrade
      (trade.closeAt exit.costs exit.futuresPrice exit.price exit.reason exit.moment)]

def trackTrade : List Effect :=
  plan.tracked.map fun tracking => .saveTrade (trade.track tracking)

/-- The management of a position. -/
def managePosition : List Effect :=
  trackTrade trade plan ++ (plan.exit.toList.flatMap (closeTrade trade))

def evaluateActiveTrade : List Effect :=
  if trade.state = .entryPending then
    match trade.entryOrderId with
    | none => []
    | some _ =>
        match plan.entryOutcome with
        | .waiting => trackTrade trade plan
        | .unfilled status moment =>
            ofStrategyA trade (.onExecutionRejected moment) ++
              [.saveRuntime, .saveTrade (trade.closeUnfilled status moment)]
        | .filled tracking moment =>
            .saveTrade (trade.track tracking) ::
              (ofStrategyA trade (.confirmEntry moment) ++ ofStrategyA trade .saveRuntime ++
                managePosition (trade.track tracking) plan)
  else managePosition trade plan

end

/-! ### The input of a cycle -/

/-- A signal of another strategy. -/
structure OtherSignal where
  signal : EntrySignal
  other : signal.strategy ≠ .trendPullback

/-- What a cycle meets: the time since the step before, the configuration and the market, what
becomes of each trade, the latest completed bar of Strategy A, the signal of another strategy, the
contract that was selected and sized, if any, and the writes that fail. -/
structure CycleInput where
  elapsed : Nat
  config : AutoTradingConfig
  pullback : PullbackConfig
  market : MarketView
  lastLossExitTime : Option Int
  plans : String → TradePlan
  strategyASignalDataFresh : Bool
  bar : Option FuturesFeature
  signalId : String
  otherSignal : Option OtherSignal
  contract : Option SelectedContract
  orderId : String
  managementCut : Option Nat
  entryCut : Option Nat

/-! ### The cycle -/

section

variable (desk : Desk) (input : CycleInput)

/-- The management of the trades that were active when the cycle began. -/
def manageTrades : Except Desk Desk :=
  perform desk (interrupted input.managementCut
    ((getActiveTrades desk.trades).flatMap fun trade =>
      evaluateActiveTrade trade (input.plans trade.tradeId)))

def memory : Memory where
  objects := fun _ => input.config
  current := 0
  activeTradesCache := getActiveTrades desk.trades
  lastLossExitTime := input.lastLossExitTime

def todayTrades : List ActiveTrade := tradesOfDay desk.clock (listTrades 1000 desk.trades)

/-- The gates a cycle passes before it evaluates the strategies. -/
def gates : Option String :=
  if input.config.mode = .live ∧ input.config.systemArmed = true ∧
      input.market.executionFeedHealthy = false then
    some "LIVE_RUNTIME_HEALTH_AUTO_DISARMED"
  else
    entryGate (memory desk input) desk.clock input.market <|>
      dayGate input.config desk.clock (todayTrades desk)

/-- Strategy A is evaluated, and on fresh data. -/
def evaluatesStrategyA : Bool :=
  input.config.tunables.trendPullbackEnabled && input.market.executionFeedHealthy &&
    input.strategyASignalDataFresh

/-- What the trigger of a setup asks to enter. -/
def entrySignal (signal : PullbackSignal) : EntrySignal where
  signalId := input.signalId
  strategy := .trendPullback
  direction := if signal.direction = .call then .bullish else .bearish
  optionType := if signal.direction = .call then .call else .put
  underlyingEntry := signal.entryPrice
  rPoints := signal.rPoints

/-- The writes once a trade is stored: the order of a live trade is noted on it, and Strategy A
confirms a simulated one. -/
def afterCreation (trade : ActiveTrade) (confirmation : List Effect) : List Effect :=
  if trade.mode = .live then [.saveTrade { trade with entryOrderId := some input.orderId }]
  else confirmation

/-- The entry on a signal of Strategy A: a rejection on the way to the order ends the attempt. -/
def pullbackEntry (signal : PullbackSignal) : List Effect :=
  match signalGate (memory desk input) .trendPullback (todayTrades desk) with
  | some _ => []
  | none =>
    match input.contract.filter fun contract => decide (1 ≤ contract.lots) with
    | none => [.onExecutionRejected signal.timestamp, .saveRuntime]
    | some contract =>
      let entry := entrySignal input signal
      let executionMode := executionModeForStrategy input.config entry.strategy entry.optionType
      match liveOrderGate input.config executionMode contract with
      | some _ => []
      | none =>
        let trade := signalTrade input.config.costs executionMode entry contract desk.clock
        .createTrade trade ::
          afterCreation input trade [.confirmEntry signal.timestamp, .saveRuntime]

/-- The entry on a signal of another strategy. -/
def otherEntry : List Effect :=
  match input.otherSignal with
  | none => []
  | some ⟨signal, _⟩ =>
    match signalGate (memory desk input) signal.strategy (todayTrades desk) with
    | some _ => []
    | none =>
      match input.contract.filter fun contract => decide (1 ≤ contract.lots) with
      | none => []
      | some contract =>
        let executionMode :=
          executionModeForStrategy input.config signal.strategy signal.optionType
        match liveOrderGate input.config executionMode contract with
        | some _ => []
        | none =>
          let trade := signalTrade input.config.costs executionMode signal contract desk.clock
          .saveTrade trade :: afterCreation input trade []

def evaluation : TrendPullbackStrategy × Option PullbackSignal :=
  evaluate input.pullback desk.strategy input.bar

/-- Strategy A is evaluated, or reset when its data is stale, and a signal is entered. -/
def seekSignal : Except Desk Desk :=
  if evaluatesStrategyA input then
    let evaluated := { desk with strategy := (evaluation desk input).1 }
    perform evaluated (interrupted input.entryCut (.saveRuntime ::
      match (evaluation desk input).2 with
      | some signal => pullbackEntry evaluated input signal
      | none => otherEntry evaluated input))
  else
    perform desk (interrupted input.entryCut
      ((if input.config.tunables.trendPullbackEnabled then [.reset, .saveRuntime] else []) ++
        otherEntry desk input))

/-- The search of a cycle for an entry: a gate that refuses resets Strategy A. -/
def seekEntry : Except Desk Desk :=
  match gates desk input with
  | some _ => perform desk (interrupted input.entryCut [.reset, .saveRuntime])
  | none => seekSignal desk input

/-- `evaluate_cycle`: what a failed write leaves is left. -/
def evaluateCycle : Desk :=
  match manageTrades (desk.advance input.elapsed) input with
  | .error failed => failed
  | .ok managed => settled (seekEntry managed input)

end

/-! ### The system -/

/-- `update_config`: the strategy is exported into a new evaluator, which is stored. -/
def updateConfig (desk : Desk) (cut : Option Nat) : Desk :=
  settled (perform { desk with strategy := restoreState (exportState desk.strategy) }
    (interrupted cut [.saveRuntime]))

/-- `manual_exit_trade`, of an active trade. -/
def manualExitTrade (desk : Desk) (trade : ActiveTrade) (plan : TradePlan) (cut : Option Nat) :
    Desk :=
  if trade ∈ getActiveTrades desk.trades then
    settled (perform desk (interrupted cut (managePosition trade plan)))
  else desk

/-- The repair of a stored state that its trades contradict. -/
def repair (desk : Desk) : List Effect :=
  match desk.runtime.snapshot, unclosed desk.trades with
  | .entered _ _, [] => [.onExecutionRejected desk.clock, .saveRuntime]
  | .armed _, first :: rest =>
      [.confirmEntry (rest.foldl (fun earliest trade => min earliest trade.entryTime)
        first.entryTime), .saveRuntime]
  | _, _ => []

/-- The stored state in a new evaluator. -/
def restored (desk : Desk) : Desk :=
  { desk with strategy := restoreState desk.runtime, running := true }

/-- The service does not come up when a write of its start fails. -/
def comeUp : Except Desk Desk → Desk
  | .ok started => started
  | .error failed => { failed with running := false }

/-- `initialize`. -/
def restart (desk : Desk) : Desk := comeUp (perform (restored desk) (repair desk))

/-- What happens, one after another: the evaluation lock keeps cycles apart. -/
inductive Op where
  | cycle (input : CycleInput)
  | manualExit (trade : ActiveTrade) (plan : TradePlan) (cut : Option Nat)
  | updateConfig (cut : Option Nat)
  | restart (elapsed : Nat)

def step (desk : Desk) : Op → Desk
  | .cycle input => if desk.running then evaluateCycle desk input else desk
  | .manualExit trade plan cut =>
      if desk.running then manualExitTrade desk trade plan cut else desk
  | .updateConfig cut => if desk.running then updateConfig desk cut else desk
  | .restart elapsed => restart (desk.advance elapsed)

/-! ### The property and its condition -/

/-- Every trade of Strategy A was created with no earlier one unclosed and no cooldown running. -/
def Exclusive (desk : Desk) : Prop :=
  ∀ creation ∈ desk.created, creation.unclosed = [] ∧
    ∀ ending ∈ creation.cooldowns, ending ≤ creation.trade.entryTime

/-- Strategy A must not enter: one of its trades is not closed, or a cooldown has not ended. -/
def Held (desk : Desk) : Prop :=
  unclosed desk.trades ≠ [] ∨ ∃ ending ∈ desk.cooldowns, desk.clock < ending

/-- What the evaluation of Strategy A must meet in the state it is made in: no setup is found while
the strategy is held, and none that was armed before triggers while a trade is not closed. -/
@[mk_iff]
structure Respects (desk : Desk) (input : CycleInput) : Prop where
  found : ∀ bar ∈ input.bar, findsSetup input.pullback desk.strategy bar = true → ¬Held desk
  armed : ∀ bar ∈ input.bar, triggersArmed desk.strategy bar = true → unclosed desk.trades = []

/-- What a restart must meet: no setup is brought back while the strategy is held, unless the
repair takes it for the setup of the trade that is not closed. -/
def Restorable (desk : Desk) : Prop :=
  desk.runtime.snapshot.waits = true →
    desk.runtime.snapshot.isSetup = true ∨ unclosed desk.trades = [] → ¬Held desk

/-- The condition on a step. -/
def Admitted (desk : Desk) : Op → Prop
  | .cycle input =>
      ∀ managed ∈ (manageTrades (desk.advance input.elapsed) input).toOption,
        gates managed input = none → evaluatesStrategyA input = true → Respects managed input
  | .restart elapsed => Restorable (desk.advance elapsed)
  | .manualExit _ _ _ | .updateConfig _ => True

/-! ### The invariant -/

/-- A setup waits only after the cooldowns, and is armed before a trade is created. -/
structure Sound (desk : Desk) : Prop where
  exclusive : Exclusive desk
  waits : desk.strategy.snapshot.waits = true → ∀ ending ∈ desk.cooldowns, ending ≤ desk.clock
  setup : desk.strategy.snapshot.isSetup = true → unclosed desk.trades = []

theorem unclosed_eq_nil {trades : List ActiveTrade} :
    unclosed trades = [] ↔
      ∀ trade ∈ trades, trade.state ≠ .closed → trade.strategy ≠ .trendPullback := by
  unfold unclosed tradesOf
  rw [List.filter_filter, List.filter_eq_nil_iff]
  simp only [Bool.and_eq_true, decide_eq_true_eq, ActiveTrade.isOpen_iff, not_and, ne_eq]
  exact forall₂_congr fun trade _ => ⟨fun apart isOpen same => apart same isOpen,
    fun apart same isOpen => apart isOpen same⟩

theorem unclosed_putTrade {trades : List ActiveTrade} {trade : ActiveTrade}
    (closed : unclosed trades = [])
    (foreign : trade.strategy ≠ .trendPullback ∨ trade.state = .closed) :
    unclosed (putTrade trades trade) = [] := by
  rw [unclosed_eq_nil] at closed ⊢
  intro row member isOpen
  rcases mem_putTrade.mp member with ⟨before, _⟩ | rfl
  · exact closed row before isOpen
  · exact foreign.resolve_right isOpen

/-- The writes that keep the invariant where they are made. -/
def Allowed (desk : Desk) : Effect → Prop
  | .saveTrade trade => desk.strategy.snapshot.isSetup = true →
      trade.strategy ≠ .trendPullback ∨ trade.state = .closed
  | .createTrade trade => desk.strategy.snapshot.isSetup = false ∧ unclosed desk.trades = [] ∧
      ∀ ending ∈ desk.cooldowns, ending ≤ trade.entryTime
  | _ => True

/-- Every write is allowed where it is made. -/
def AllAllowed : Desk → List Effect → Prop
  | _, [] => True
  | desk, effect :: rest =>
      Allowed desk effect ∧ ∀ next, desk.apply effect = some next → AllAllowed next rest

section

variable {desk next : Desk} {effect : Effect} {effects : List Effect}

theorem waits_onExecutionRejected (strategy : TrendPullbackStrategy) (moment : Int) :
    (strategy.onExecutionRejected moment).snapshot.waits = false := by
  unfold onExecutionRejected
  cases shown : strategy.snapshot <;> simp [shown, StrategyStateSnapshot.waits]

theorem waits_of_confirmEntry {strategy confirmed : TrendPullbackStrategy} {moment : Int}
    (isConfirmed : strategy.confirmEntry moment = some confirmed) :
    confirmed.snapshot.waits = false := by
  unfold TrendPullbackStrategy.confirmEntry at isConfirmed
  split at isConfirmed
  · split at isConfirmed
    · cases isConfirmed
      rfl
    · cases isConfirmed
  · cases isConfirmed

theorem waits_of_isSetup {snapshot : StrategyStateSnapshot} (isSetup : snapshot.isSetup = true) :
    snapshot.waits = true := by
  cases snapshot <;> first | rfl | cases isSetup

section

variable (written : desk.apply effect = some next)

include written

theorem waits_of_apply : next.strategy = desk.strategy ∨ next.strategy.snapshot.waits = false := by
  cases effect with
  | reset | onExit =>
    cases written
    exact .inr rfl
  | onExecutionRejected moment =>
    cases written
    exact .inr (waits_onExecutionRejected desk.strategy moment)
  | confirmEntry moment =>
    obtain ⟨strategy, confirmed, rfl⟩ := Option.map_eq_some_iff.mp written
    exact .inr (waits_of_confirmEntry confirmed)
  | saveRuntime | saveTrade | createTrade =>
    cases written
    exact .inl rfl
  | fail => cases written

theorem cooldowns_of_apply (waits : next.strategy.snapshot.waits = true) :
    next.cooldowns = desk.cooldowns ∧ next.clock = desk.clock := by
  cases effect with
  | onExit moment =>
    cases written
    cases waits
  | onExecutionRejected moment =>
    cases written
    rw [waits_onExecutionRejected] at waits
    cases waits
  | confirmEntry moment =>
    obtain ⟨_, _, rfl⟩ := Option.map_eq_some_iff.mp written
    exact ⟨rfl, rfl⟩
  | reset | saveRuntime | saveTrade trade | createTrade trade =>
    cases written
    exact ⟨rfl, rfl⟩
  | fail => cases written

theorem books_of_apply : (next.trades = desk.trades ∧ next.created = desk.created) ∨
      (∃ trade, effect = .saveTrade trade ∧ next.trades = putTrade desk.trades trade ∧
        next.created = desk.created) ∨
      ∃ trade, effect = .createTrade trade ∧
        next.created = desk.created ++ [⟨trade, unclosed desk.trades, desk.cooldowns⟩] := by
  cases effect with
  | confirmEntry moment =>
    obtain ⟨_, _, rfl⟩ := Option.map_eq_some_iff.mp written
    exact .inl ⟨rfl, rfl⟩
  | saveTrade trade =>
    cases written
    exact .inr (.inl ⟨trade, rfl, rfl, rfl⟩)
  | createTrade trade =>
    cases written
    exact .inr (.inr ⟨trade, rfl, rfl⟩)
  | reset | onExit moment | onExecutionRejected moment | saveRuntime =>
    cases written
    exact .inl ⟨rfl, rfl⟩
  | fail => cases written

end

theorem Sound.apply (sound : Sound desk) (allowed : Allowed desk effect)
    (written : desk.apply effect = some next) : Sound next := by
  have waited : next.strategy.snapshot.waits = true → next.strategy = desk.strategy :=
    fun waits => (waits_of_apply written).resolve_right (by simp [waits])
  refine ⟨?_, fun waits => ?_, fun isSetup => ?_⟩
  · intro creation member
    rcases books_of_apply written with ⟨_, same⟩ | ⟨_, _, _, same⟩ | ⟨trade, rfl, added⟩
    · exact sound.exclusive creation (same ▸ member)
    · exact sound.exclusive creation (same ▸ member)
    · rw [added, List.mem_append, List.mem_singleton] at member
      rcases member with before | rfl
      · exact sound.exclusive creation before
      · exact allowed.2
  · obtain ⟨cooldowns, clock⟩ := cooldowns_of_apply written waits
    rw [cooldowns, clock]
    exact sound.waits (waited waits ▸ waits)
  · have before : desk.strategy.snapshot.isSetup = true :=
      waited (waits_of_isSetup isSetup) ▸ isSetup
    rcases books_of_apply written with ⟨same, _⟩ | ⟨trade, rfl, same, _⟩ | ⟨trade, rfl, _⟩
    · exact same ▸ sound.setup before
    · exact same ▸ unclosed_putTrade (sound.setup before) (allowed before)
    · rw [allowed.1] at before
      cases before

theorem Sound.perform (sound : Sound desk) (allowed : AllAllowed desk effects) :
    Sound (settled (perform desk effects)) := by
  induction effects generalizing desk with
  | nil => exact sound
  | cons effect rest inductionHypothesis =>
    unfold PullbackExclusivity.perform
    cases written : desk.apply effect with
    | none => exact sound
    | some next =>
      exact inductionHypothesis (sound.apply allowed.1 written) (allowed.2 next written)

theorem AllAllowed.interrupted (allowed : AllAllowed desk effects) (cut : Option Nat) :
    AllAllowed desk (interrupted cut effects) := by
  cases cut with
  | none => exact allowed
  | some count =>
    induction effects generalizing desk count with
    | nil => cases count <;> exact ⟨trivial, fun _ failed => nomatch failed⟩
    | cons effect rest inductionHypothesis =>
      cases count with
      | zero => exact ⟨trivial, fun _ failed => nomatch failed⟩
      | succ count =>
        exact ⟨allowed.1, fun next written =>
          inductionHypothesis (allowed.2 next written) count⟩

/-- The writes of a trade: they create none, and every row they store is one of its strategy. -/
def Effect.Of (trade : ActiveTrade) : Effect → Prop
  | .saveTrade row => row.strategy = trade.strategy
  | .createTrade _ => False
  | _ => True

theorem allAllowed_of (desk : Desk) (ofTrade : ∀ effect ∈ effects, ∃ trade, effect.Of trade ∧
    (desk.strategy.snapshot.isSetup = true → trade.strategy ≠ .trendPullback)) :
    AllAllowed desk effects := by
  induction effects generalizing desk with
  | nil => trivial
  | cons effect rest inductionHypothesis =>
    refine ⟨?_, fun next written => inductionHypothesis next fun other member => ?_⟩
    · obtain ⟨trade, isOf, foreign⟩ := ofTrade effect List.mem_cons_self
      cases effect with
      | saveTrade row => exact fun isSetup => .inl (isOf ▸ foreign isSetup)
      | createTrade _ => exact isOf.elim
      | _ => trivial
    · obtain ⟨trade, isOf, foreign⟩ := ofTrade other (List.mem_cons_of_mem _ member)
      refine ⟨trade, isOf, fun isSetup => foreign ?_⟩
      rcases waits_of_apply written with same | idle
      · exact same ▸ isSetup
      · rw [waits_of_isSetup isSetup] at idle
        cases idle

end

/-! ### Management -/

section

variable {trade : ActiveTrade} {effect : Effect}

theorem of_ofStrategyA {write : Effect} (member : effect ∈ ofStrategyA trade write)
    (isOf : write.Of trade) : effect.Of trade := by
  unfold ofStrategyA at member
  split at member
  · exact List.mem_singleton.mp member ▸ isOf
  · exact absurd member List.not_mem_nil

theorem of_closeTrade {exit : Exit} (member : effect ∈ closeTrade trade exit) :
    effect.Of trade := by
  rcases List.mem_append.mp member with onExit | stored
  · exact of_ofStrategyA onExit trivial
  · rcases List.mem_cons.mp stored with rfl | closed
    · trivial
    · rw [List.mem_singleton.mp closed]
      rfl

theorem of_trackTrade {plan : TradePlan} (member : effect ∈ trackTrade trade plan) :
    effect.Of trade := by
  obtain ⟨tracking, _, rfl⟩ := List.mem_map.mp member
  rfl

theorem of_managePosition {plan : TradePlan} (member : effect ∈ managePosition trade plan) :
    effect.Of trade := by
  rcases List.mem_append.mp member with tracked | left
  · exact of_trackTrade tracked
  · obtain ⟨exit, _, closing⟩ := List.mem_flatMap.mp left
    exact of_closeTrade closing

theorem of_evaluateActiveTrade {plan : TradePlan}
    (member : effect ∈ evaluateActiveTrade trade plan) : effect.Of trade := by
  unfold evaluateActiveTrade at member
  split at member
  · split at member
    · exact absurd member List.not_mem_nil
    split at member
    · exact of_trackTrade member
    · rcases List.mem_append.mp member with rejected | stored
      · exact of_ofStrategyA rejected trivial
      · rcases List.mem_cons.mp stored with rfl | closed
        · trivial
        · rw [List.mem_singleton.mp closed]
          rfl
    · rename_i tracking moment _
      rcases List.mem_cons.mp member with rfl | later
      · rfl
      rcases List.mem_append.mp later with confirmed | managed
      · rcases List.mem_append.mp confirmed with entered | stored
        · exact of_ofStrategyA entered trivial
        · exact of_ofStrategyA stored trivial
      · -- the tracked trade is of the same strategy
        have isOf := of_managePosition managed
        cases effect with
        | saveTrade row => exact isOf
        | createTrade _ => exact isOf
        | _ => trivial
  · exact of_managePosition member

end

section

variable {desk : Desk} {input : CycleInput}

theorem Sound.foreign (sound : Sound desk) (active : trade ∈ getActiveTrades desk.trades)
    (isSetup : desk.strategy.snapshot.isSetup = true) : trade.strategy ≠ .trendPullback :=
  have ⟨member, isOpen⟩ := mem_getActiveTrades.mp active
  unclosed_eq_nil.mp (sound.setup isSetup) trade member isOpen

theorem Sound.manageTrades (sound : Sound desk) (input : CycleInput) :
    Sound (settled (manageTrades desk input)) := by
  refine sound.perform (AllAllowed.interrupted (allAllowed_of desk fun effect member => ?_) _)
  obtain ⟨trade, active, written⟩ := List.mem_flatMap.mp member
  exact ⟨trade, of_evaluateActiveTrade written, sound.foreign active⟩

/-! ### Entry -/

theorem Sound.evaluated (sound : Sound desk) (respects : Respects desk input) :
    Sound { desk with strategy := (evaluation desk input).1 } := by
  have waited : (evaluation desk input).1.snapshot.waits = true → ¬Held desk ∨
      (desk.strategy.snapshot.waits = true ∧
        ((evaluation desk input).1.snapshot.isSetup = true →
          desk.strategy.snapshot.isSetup = true)) := by
    unfold evaluation
    cases shown : input.bar with
    | none => exact fun waits => .inr ⟨waits, id⟩
    | some bar =>
      intro waits
      exact (waits_of_evaluate waits).imp_left (respects.found bar shown)
  refine ⟨sound.exclusive, fun waits => ?_, fun isSetup => ?_⟩
  · rcases waited waits with free | ⟨before, _⟩
    · intro ending member
      by_contra running
      exact free (.inr ⟨ending, member, Int.not_le.mp running⟩)
    · exact sound.waits before
  · rcases waited (waits_of_isSetup isSetup) with free | ⟨_, before⟩
    · by_contra isOpen
      exact free (.inl isOpen)
    · exact sound.setup (before isSetup)

theorem Sound.allowsEntry {signal : PullbackSignal} (sound : Sound desk)
    (respects : Respects desk input)
    (signalled : (evaluation desk input).2 = some signal) :
    AllAllowed { desk with strategy := (evaluation desk input).1 } (.saveRuntime :: pullbackEntry
        { desk with strategy := (evaluation desk input).1 } input signal) := by
  obtain ⟨waited, notSetup, origin⟩ := waits_of_signal signalled
  have free : unclosed desk.trades = [] := by
    rcases origin with isSetup | ⟨bar, isBar, triggered⟩
    · exact sound.setup isSetup
    · exact respects.armed bar isBar triggered
  refine ⟨trivial, fun next written => ?_⟩
  cases written
  unfold pullbackEntry
  split
  · trivial
  split
  · exact ⟨trivial, fun _ _ => ⟨trivial, fun _ _ => trivial⟩⟩
  simp only
  split
  · trivial
  refine ⟨⟨notSetup, free, sound.waits waited⟩, fun next written => ?_⟩
  cases written
  unfold afterCreation
  split
  · refine ⟨fun isSetup => ?_, fun _ _ => trivial⟩
    rw [show (evaluation desk input).1.snapshot.isSetup = false from notSetup]
      at isSetup
    cases isSetup
  · exact ⟨trivial, fun _ _ => ⟨trivial, fun _ _ => trivial⟩⟩

theorem of_otherEntry {effect : Effect} (member : effect ∈ otherEntry desk input) :
    ∃ trade, effect.Of trade ∧ trade.strategy ≠ .trendPullback := by
  unfold otherEntry at member
  split at member
  · exact absurd member List.not_mem_nil
  rename_i signal other _
  split at member
  · exact absurd member List.not_mem_nil
  split at member
  · exact absurd member List.not_mem_nil
  simp only at member
  split at member
  · exact absurd member List.not_mem_nil
  rename_i contract _ _ _
  refine ⟨signalTrade input.config.costs
    (executionModeForStrategy input.config signal.strategy signal.optionType) signal contract
    desk.clock, ?_, other⟩
  rcases List.mem_cons.mp member with rfl | later
  · rfl
  · unfold afterCreation at later
    split at later
    · rw [List.mem_singleton.mp later]
      rfl
    · exact absurd later List.not_mem_nil

theorem allAllowed_otherEntry (later : Desk) : AllAllowed later (otherEntry desk input) :=
  allAllowed_of later fun _ member =>
    have ⟨trade, isOf, other⟩ := of_otherEntry member
    ⟨trade, isOf, fun _ => other⟩

theorem allAllowed_saveRuntime (later : Desk) : AllAllowed later [.saveRuntime] :=
  ⟨trivial, fun _ _ => trivial⟩

theorem allAllowed_reset (later : Desk) : AllAllowed later [.reset, .saveRuntime] :=
  ⟨trivial, fun next _ => allAllowed_saveRuntime next⟩

theorem Sound.seekEntry (sound : Sound desk) (respects : gates desk input = none →
    evaluatesStrategyA input = true → Respects desk input) :
    Sound (settled (seekEntry desk input)) := by
  unfold PullbackExclusivity.seekEntry
  split
  · exact sound.perform ((allAllowed_reset desk).interrupted _)
  rename_i passed
  unfold seekSignal
  split
  · rename_i evaluates
    have kept := respects passed evaluates
    refine (sound.evaluated kept).perform (AllAllowed.interrupted ?_ _)
    split
    · rename_i signal signalled
      exact sound.allowsEntry kept signalled
    · exact ⟨trivial, fun next _ => allAllowed_otherEntry next⟩
  · refine sound.perform (AllAllowed.interrupted ?_ _)
    split
    · exact ⟨trivial, fun _ _ => ⟨trivial, fun next _ => allAllowed_otherEntry next⟩⟩
    · exact allAllowed_otherEntry desk

end

/-! ### Steps -/

section

variable {desk : Desk}

theorem Sound.advance (sound : Sound desk) (elapsed : Nat) : Sound (desk.advance elapsed) where
  exclusive := sound.exclusive
  waits waits ending member := by
    have ended := sound.waits waits ending member
    show ending ≤ desk.clock + elapsed
    omega
  setup := sound.setup

theorem Sound.evaluateCycle {input : CycleInput} (sound : Sound desk)
    (admitted : Admitted desk (.cycle input)) : Sound (evaluateCycle desk input) := by
  have advanced := (sound.advance input.elapsed).manageTrades input
  unfold PullbackExclusivity.evaluateCycle
  cases outcome : PullbackExclusivity.manageTrades (desk.advance input.elapsed) input with
  | error failed =>
    rw [outcome] at advanced
    exact advanced
  | ok managed =>
    rw [outcome] at advanced
    exact Sound.seekEntry advanced (admitted managed (by rw [outcome]; rfl))

theorem Sound.manualExitTrade (sound : Sound desk) (trade : ActiveTrade) (plan : TradePlan)
    (cut : Option Nat) : Sound (manualExitTrade desk trade plan cut) := by
  unfold PullbackExclusivity.manualExitTrade
  split
  · rename_i active
    exact sound.perform (AllAllowed.interrupted (allAllowed_of desk fun effect member =>
      ⟨trade, of_managePosition member, sound.foreign active⟩) _)
  · exact sound

theorem Sound.updateConfig (sound : Sound desk) (cut : Option Nat) :
    Sound (updateConfig desk cut) := by
  have restored : Sound { desk with strategy := restoreState (exportState desk.strategy) } :=
    ⟨sound.exclusive, sound.waits, sound.setup⟩
  exact restored.perform ((allAllowed_saveRuntime _).interrupted cut)

theorem sound_restored (exclusive : Exclusive desk)
    (free : desk.runtime.snapshot.waits = true → ¬Held desk) :
    Sound (restored desk) where
  exclusive := exclusive
  waits waits ending member := by
    by_contra running
    exact free waits (.inr ⟨ending, member, Int.not_le.mp running⟩)
  setup isSetup := by
    by_contra isOpen
    exact free (waits_of_isSetup isSetup) (.inl isOpen)

/-- What the system keeps: the property, and the invariant while the service is up. -/
def Keeps (desk : Desk) : Prop := Exclusive desk ∧ (desk.running = true → Sound desk)

theorem keeps_comeUp {result : Except Desk Desk} (sound : Sound (settled result)) :
    Keeps (comeUp result) := by
  cases result with
  | ok started => exact ⟨sound.exclusive, fun _ => sound⟩
  | error failed => exact ⟨sound.exclusive, nofun⟩

theorem keeps_confirmed (desk : Desk) (exclusive : Exclusive desk) (moment : Int) :
    Keeps (comeUp (perform desk [.confirmEntry moment, .saveRuntime])) := by
  unfold perform
  cases written : desk.apply (.confirmEntry moment) with
  | none => exact ⟨exclusive, nofun⟩
  | some next =>
    have entered : next.strategy.snapshot.waits = false ∧ next.created = desk.created := by
      obtain ⟨strategy, confirmed, rfl⟩ := Option.map_eq_some_iff.mp written
      exact ⟨waits_of_confirmEntry confirmed, rfl⟩
    have sound : Sound next :=
      ⟨fun creation member => exclusive creation (entered.2 ▸ member),
        fun waits => absurd waits (by simp [entered.1]),
        fun isSetup => absurd (waits_of_isSetup isSetup) (by simp [entered.1])⟩
    exact keeps_comeUp (sound.perform (allAllowed_saveRuntime next))

theorem keeps_restart (exclusive : Exclusive desk) (restorable : Restorable desk) :
    Keeps (restart desk) := by
  have started : (desk.runtime.snapshot.waits = true → ¬Held desk) →
      AllAllowed (restored desk) (repair desk) → Keeps (restart desk) := fun free allowed =>
    keeps_comeUp ((sound_restored exclusive free).perform allowed)
  cases shown : desk.runtime.snapshot with
  | flat | cooldown =>
    exact started (by simp [shown, StrategyStateSnapshot.waits])
      (by simp [repair, shown, AllAllowed])
  | entered setup entryTimestamp =>
    refine started (by simp [shown, StrategyStateSnapshot.waits]) ?_
    unfold repair
    rw [shown]
    cases unclosed desk.trades with
    | nil => exact ⟨trivial, fun next _ => allAllowed_saveRuntime next⟩
    | cons first rest => trivial
  | setup setup =>
    exact started (fun waits => restorable waits (.inl (by rw [shown]; rfl)))
      (by simp [repair, shown, AllAllowed])
  | armed setup =>
    cases isOpen : unclosed desk.trades with
    | nil =>
      exact started (fun waits => restorable waits (.inr isOpen))
        (by simp [repair, shown, isOpen, AllAllowed])
    | cons first rest =>
      unfold restart repair
      rw [shown, isOpen]
      exact keeps_confirmed (restored desk) exclusive _

theorem Keeps.step {op : Op} (keeps : Keeps desk) (admitted : Admitted desk op) :
    Keeps (step desk op) := by
  have whileUp : ∀ {next : Desk}, (Sound desk → Sound next) →
      Keeps (if desk.running then next else desk) := by
    intro next goes
    split
    · rename_i running
      have sound := goes (keeps.2 running)
      exact ⟨sound.exclusive, fun _ => sound⟩
    · exact keeps
  cases op with
  | cycle input => exact whileUp fun sound => sound.evaluateCycle admitted
  | manualExit trade plan cut => exact whileUp fun sound => sound.manualExitTrade trade plan cut
  | updateConfig cut => exact whileUp fun sound => sound.updateConfig cut
  | restart elapsed =>
    have exclusive : Exclusive (desk.advance elapsed) := keeps.1
    exact keeps_restart exclusive admitted

theorem keeps_fresh : Keeps fresh :=
  ⟨fun _ member => absurd member List.not_mem_nil,
    fun _ => ⟨fun _ member => absurd member List.not_mem_nil, nofun, nofun⟩⟩

end

/-- In a run from a fresh desk whose steps meet their condition, every trade of Strategy A is
created with the trades before it closed and the cooldowns before it over. -/
theorem evaluateCycle_exclusive (ops : List Op) (admitted : Run.Along step Admitted fresh ops) :
    Run.Along step (fun desk op => Exclusive (step desk op)) fresh ops := by
  have keeps : ∀ desk op, Keeps desk → Admitted desk op → Keeps (step desk op) :=
    fun _ _ kept isAdmitted => kept.step isAdmitted
  exact admitted.of_invariant keeps
    (fun desk op kept isAdmitted => (keeps desk op kept isAdmitted).1) keeps_fresh

/-! ### Runs -/

instance (desk : Desk) : Decidable (Exclusive desk) :=
  inferInstanceAs (Decidable (∀ creation ∈ desk.created, creation.unclosed = [] ∧
    ∀ ending ∈ creation.cooldowns, ending ≤ creation.trade.entryTime))

instance (desk : Desk) : Decidable (Held desk) :=
  inferInstanceAs (Decidable
    (unclosed desk.trades ≠ [] ∨ ∃ ending ∈ desk.cooldowns, desk.clock < ending))

instance (desk : Desk) (input : CycleInput) : Decidable (Respects desk input) :=
  decidable_of_iff' _ (respects_iff desk input)

instance (desk : Desk) : Decidable (Restorable desk) :=
  inferInstanceAs (Decidable (desk.runtime.snapshot.waits = true →
    desk.runtime.snapshot.isSetup = true ∨ unclosed desk.trades = [] → ¬Held desk))

instance (desk : Desk) (op : Op) : Decidable (Admitted desk op) :=
  match op with
  | .cycle input =>
      inferInstanceAs (Decidable (∀ managed ∈
        (manageTrades (desk.advance input.elapsed) input).toOption,
          gates managed input = none → evaluatesStrategyA input = true → Respects managed input))
  | .restart elapsed => inferInstanceAs (Decidable (Restorable (desk.advance elapsed)))
  | .manualExit _ _ _ | .updateConfig _ => inferInstanceAs (Decidable True)

/-- A second, in microseconds. -/
def seconds (count : Nat) : Nat := count * 1000000

/-- Ten o'clock, as the time since midnight in UTC. -/
def tenOClock : Nat := seconds 16200

/-- The settings of the strategy when nothing is set. -/
def standardPullback : PullbackConfig := ⟨585, 885, 915, 1 / 4⟩

/-- A bar on which a call setup qualifies, to be triggered above its high. -/
def qualifyingBar (index : Nat) (high : ℚ) : FuturesFeature where
  contractId := "NIFTY-JAN"
  candleTimestamp := (tenOClock + index * seconds 900 : Nat)
  barIndex := index
  openPrice := 24000
  high := high
  low := 23995
  close := 24005
  atr14 := 20
  qualified direction :=
    if direction = .call then
      some
        { direction := .call
          setupTimestamp := (tenOClock + index * seconds 900 : Nat)
          triggerPrice := high + 10
          structuralStop := 23980
          setupExpiryTimestamp := (tenOClock + (index + 2) * seconds 900 : Nat)
          setupExpiryBarIndex := index + 2 }
    else none

/-- A market in which nothing blocks an entry. -/
def openMarket : MarketView where
  executionFeedHealthy := true
  strategyBSignalDataFresh := true
  hasFuturesCandles := true
  hasStrategyECandles := true
  dataReady := true
  breakoutDataReady := true
  activeCandidateTrade := false
  executionSignal := false
  bypassEntryWindow := false
  strategyAWindow := true
  strategyBWindow := true
  strategyEWindow := true
  spotPrice := 24000
  futuresPrice := 24010
  atr5m := 20

/-- A cycle some time after the step before, with a bar to evaluate. -/
def cycleAfter (elapsed : Nat) (bar : FuturesFeature) : CycleInput where
  elapsed := elapsed
  config := {}
  pullback := standardPullback
  market := openMarket
  lastLossExitTime := none
  plans _ := {}
  strategyASignalDataFresh := true
  bar := some bar
  signalId := "A-1"
  otherSignal := none
  contract := some ⟨"NIFTY25JAN24000CE", "I-1", "2025-01-30", 24000, 100, 100, 1, 75, false⟩
  orderId := "ORD-1"
  managementCut := none
  entryCut := none

/-- Every position is sold at a profit. -/
def soldAt (moment : Nat) : String → TradePlan :=
  fun _ => { exit := some ⟨.standard, 24040, 120, some "TARGET", moment⟩ }

/-- A setup is found at ten and triggers a quarter of an hour later. -/
def opened (config : AutoTradingConfig) : List Op :=
  [.cycle { cycleAfter tenOClock (qualifyingBar 0 24010) with config },
    .cycle { cycleAfter (seconds 900) (qualifyingBar 1 24030) with config }]

/-- The trade is sold, the kill switch drops the cooldown, which ends before the next setup is
found; the service is restarted, and the setup triggers. -/
def oneAfterAnother : List Op :=
  opened {} ++
    [.cycle { cycleAfter (seconds 300) (qualifyingBar 1 24030) with
        plans := soldAt (tenOClock + seconds 1200) },
      .cycle { cycleAfter (seconds 300) (qualifyingBar 1 24030) with
        config := { killSwitch := true } },
      .cycle (cycleAfter (seconds 300) (qualifyingBar 2 24010)),
      .restart (seconds 60),
      .cycle (cycleAfter (seconds 840) (qualifyingBar 3 24030))]

theorem evaluateCycle_exclusive_oneAfterAnother :
    (oneAfterAnother.foldl step fresh).created.map (fun creation => creation.trade.entryTime) =
        [17100000000, 18900000000] ∧
      Run.Along step (fun desk op => Exclusive (step desk op)) fresh oneAfterAnother :=
  ⟨by decide +kernel, evaluateCycle_exclusive oneAfterAnother (by decide +kernel)⟩

/-- The trade is sold, and eight minutes later the bars of Strategy A are late for one cycle. -/
def droppedCooldown : List Op :=
  opened {} ++
    [.cycle { cycleAfter (seconds 420) (qualifyingBar 1 24030) with
        plans := soldAt (tenOClock + seconds 1320) },
      .cycle { cycleAfter (seconds 420) (qualifyingBar 1 24030) with
        strategyASignalDataFresh := false },
      .cycle (cycleAfter (seconds 30) (qualifyingBar 1 24030)),
      .cycle (cycleAfter (seconds 35) (qualifyingBar 2 24050))]

/-- Two positions may be open at once. -/
def twoPositions : AutoTradingConfig := { risk := .twoPositions }

/-- The bars of Strategy A are late for one cycle while its trade is open. -/
def droppedEntry : List Op :=
  opened twoPositions ++
    [.cycle { cycleAfter (seconds 420) (qualifyingBar 1 24030) with
        config := twoPositions
        strategyASignalDataFresh := false },
      .cycle { cycleAfter (seconds 450) (qualifyingBar 1 24030) with config := twoPositions },
      .cycle { cycleAfter (seconds 35) (qualifyingBar 2 24050) with config := twoPositions }]

/-- A reset drops the cooldown after an exit, and the entry of an open trade: a trade is created
two minutes before the cooldown ends, and a second one beside the first. -/
theorem evaluateCycle_reset_drops_hold :
    ¬Exclusive (droppedCooldown.foldl step fresh) ∧
      ¬Exclusive (droppedEntry.foldl step fresh) := by
  decide +kernel

end BreezeTrading.PullbackExclusivity
