/-
This file says of every operation of the strategy service which parts of the world it may change,
and what the operations on the configuration do. An invariant about some parts is then shown for
the operations that touch them, and kept by all others.
-/

import BreezeTrading.Strategy.System

namespace BreezeTrading

open Async

namespace StrategyOp

def movesStage : StrategyOp → Prop
  | .acquireEvaluationLock | .releaseEvaluationLock | .passEntryGate _ _ => True
  | .getActiveTrades reader => reader = .management ∨ reader = .entry
  | .saveTrade _ purpose => purpose = .entry
  | _ => False

def movesForcing : StrategyOp → Prop
  | .beginForceEntry | .endForceEntry => True
  | _ => False

def saves : StrategyOp → Prop
  | .saveTrade _ _ => True
  | _ => False

def enters : StrategyOp → Prop
  | .saveTrade _ purpose => purpose = .entry ∨ purpose = .forcedEntry
  | _ => False

def movesDispatch : StrategyOp → Prop
  | .saveTrade _ purpose => purpose = .entry ∨ purpose = .forcedEntry
  | .endEntry _ => True
  | _ => False

def movesHeld : StrategyOp → Prop
  | .saveTrade _ purpose => purpose = .entry ∨ purpose = .forcedEntry
  | .endEntry _ | .putDown _ => True
  | .getActiveTrades reader => reader ≠ .entry ∧ reader ≠ .looking
  | _ => False

def orders : StrategyOp → Prop
  | .createOrderIntent _ => True
  | _ => False

def buys : StrategyOp → Prop
  | .createOrderIntent intent => intent.side = .buy
  | _ => False

def records : StrategyOp → Prop
  | .recordExecution _ => True
  | _ => False

def storesConfig : StrategyOp → Prop
  | .insertConfigRow _ | .writeConfigFile _ => True
  | _ => False

def movesSwitch : StrategyOp → Prop
  | .setKillSwitch _ | .killSwitchReturned _ _ => True
  | _ => False

def changesMode : StrategyOp → Prop
  | .applyConfig _ | .beginSwitch _ _ => True
  | _ => False

def caches : StrategyOp → Prop
  | .cacheActiveTrades _ | .passEntryGate _ _ | .appendActiveTrade _ => True
  | .closeInMemory _ _ _ _ | .closeUnfilledInMemory _ _ => True
  | _ => False

end StrategyOp

/-- What a step leaves alone. -/
structure Frame (op : StrategyOp) (world next : StrategyWorld) : Prop where
  config : ¬StrategyWorld.IsConfigOp op → next.config = world.config
  authority : ¬StrategyWorld.IsConfigOp op → next.authority = world.authority
  stage : ¬op.movesStage → next.stage = world.stage
  forcing : ¬op.movesForcing → next.forcing = world.forcing
  trades : ¬op.saves → next.trades = world.trades
  saves : ¬op.saves → next.saves = world.saves
  entries : ¬op.enters → next.entries = world.entries
  dispatching : ¬op.movesDispatch → next.dispatching = world.dispatching
  held : ¬op.movesHeld → next.held = world.held
  orders : ¬op.orders → next.orders = world.orders
  buys : ¬op.buys → next.buys = world.buys
  ledger : ¬op.records → next.ledger = world.ledger
  loaded : ¬op.storesConfig → next.loadedConfig = world.loadedConfig
  engaged : ¬op.movesSwitch → next.engaged = world.engaged
  modeChanges : ¬op.changesMode → next.modeChanges = world.modeChanges
  cache : ¬op.caches → next.memory.activeTradesCache = world.memory.activeTradesCache

namespace Frame

variable {world next : StrategyWorld}

theorem refl (op : StrategyOp) (world : StrategyWorld) : Frame op world world := by
  constructor <;> exact fun _ => rfl

theorem of_config (op : StrategyOp) (configures : StrategyWorld.IsConfigOp op)
    (memory : Memory) (cache : memory.activeTradesCache = world.memory.activeTradesCache)
    (authority : List AuthorityEvent) :
    Frame op world { world with memory := memory, authority := authority } where
  config other := absurd configures other
  authority other := absurd configures other
  stage _ := rfl
  forcing _ := rfl
  trades _ := rfl
  saves _ := rfl
  entries _ := rfl
  dispatching _ := rfl
  held _ := rfl
  orders _ := rfl
  buys _ := rfl
  ledger _ := rfl
  loaded _ := rfl
  engaged _ := rfl
  modeChanges _ := rfl
  cache _ := cache

theorem of_afterRead (world : StrategyWorld) (reader : TradeReader) :
    Frame (.getActiveTrades reader) world (world.afterRead reader) := by
  cases reader with
  | management | entry | looking =>
    constructor <;> intro untouched <;>
      first | rfl | exact absurd (by simp [StrategyOp.movesStage, StrategyOp.movesHeld]) untouched
  | exit tradeId =>
    unfold StrategyWorld.afterRead
    dsimp only
    split
    · constructor <;> intro untouched <;>
        first | rfl | exact absurd (by simp [StrategyOp.movesHeld]) untouched
    · exact refl _ _

theorem of_savedTrade (world : StrategyWorld) (trade : ActiveTrade) (purpose : SavePurpose) :
    Frame (.saveTrade trade purpose) world (world.savedTrade trade purpose) := by
  cases purpose <;> constructor <;> intro untouched <;>
    first
      | rfl
      | exact absurd (by simp [StrategyOp.movesStage, StrategyOp.saves, StrategyOp.enters,
          StrategyOp.movesDispatch, StrategyOp.movesHeld]) untouched

theorem of_createdOrder (world : StrategyWorld) (orderId : String) (intent : IntentRequest) :
    Frame (.createOrderIntent intent) world (world.createdOrder orderId intent) := by
  constructor <;> intro untouched
  case orders => exact absurd trivial untouched
  case buys => exact if_neg untouched
  all_goals rfl

section

variable {op : StrategyOp} (configures : StrategyWorld.IsConfigOp op)

include configures

theorem of_setArmed (armed : Bool) (event : AuthorityEvent) :
    Frame op world (world.setArmed armed event) :=
  of_config op configures
    (world.memory.modifyConfig fun config => { config with systemArmed := armed }) rfl _

theorem of_configured (changes : op.changesMode) (new : AutoTradingConfig) :
    Frame op world (world.configured new) := by
  constructor <;> intro untouched
  case config | authority => exact absurd configures untouched
  case modeChanges => exact absurd changes untouched
  all_goals rfl

theorem of_applyConfig (changes : op.changesMode) {change : ConfigChange}
    (applied : world.applyConfig change = .ok next) : Frame op world next := by
  unfold StrategyWorld.applyConfig at applied
  dsimp only at applied
  split at applied
  · cases applied
  · split at applied
    · cases applied
    · cases applied
      exact of_configured configures changes _

end

theorem of_passEntryGate (world : StrategyWorld) (trades : List ActiveTrade) (feedHealthy : Bool) :
    Frame (.passEntryGate trades feedHealthy) world (world.passEntryGate trades feedHealthy).2 := by
  unfold StrategyWorld.passEntryGate
  split
  · constructor <;> intro untouched <;> first | rfl | exact absurd trivial untouched
  · split
    · constructor <;> intro untouched <;> first | rfl | exact absurd trivial untouched
    · split
      · constructor <;> intro untouched <;> first | rfl | exact absurd trivial untouched
      · constructor <;> intro untouched <;> first | rfl | exact absurd trivial untouched

theorem of_setKillSwitch (world : StrategyWorld) (active : Bool) :
    Frame (.setKillSwitch active) world (world.setKillSwitch active) := by
  cases active <;> constructor <;> intro untouched <;>
    first | rfl | exact absurd trivial untouched

end Frame

/-- The change of the configuration an operation asks for: a switch of the mode does once it found
no open trade, or nothing to change, and the system disarmed. -/
def StrategyWorld.asks (world : StrategyWorld) : StrategyOp → ConfigChange → Prop
  | .applyConfig asked, change => change = asked
  | .beginSwitch mode activeTrades, change => change = .switched mode ∧
      (activeTrades = [] ∨ mode = world.config.mode) ∧ world.config.systemArmed = false
  | _, _ => False

namespace StrategyWorld

variable {world next : StrategyWorld} {op : StrategyOp} {choice : StrategyAnswer}

/-- What an operation on the configuration does. -/
inductive Configures (world : StrategyWorld) : StrategyOp → StrategyWorld → Prop
  | gate (trades : List ActiveTrade) (feedHealthy : Bool) :
      Configures world (.passEntryGate trades feedHealthy)
        (world.passEntryGate trades feedHealthy).2
  | refused (op : StrategyOp) : Configures world op world
  | disarmed (op : StrategyOp) (event : AuthorityEvent) :
      Configures world op (world.setArmed false event)
  | requested (simulated : world.config.mode ≠ .live) :
      Configures world (.requestArm true)
        (world.setArmed true (.armed ⟨world.config.mode, none⟩))
  | armed (request : ArmRequest) :
      Configures world (.armSystem request) (world.setArmed true (.armed request))
  | applied {op : StrategyOp} {change : ConfigChange} {next : StrategyWorld}
      (asked : world.asks op change) (applied : world.applyConfig change = .ok next) :
      Configures world op next
  | autoTrade (enabled : Bool) :
      Configures world (.setAutoTrade enabled)
        { world with
          memory := world.memory.modifyConfig fun config =>
            { config with autoTradeEnabled := enabled } }
  | killSwitch (active : Bool) :
      Configures world (.setKillSwitch active) (world.setKillSwitch active)

theorem configures_of_answer {reply : Except Raised (StrategyReply op)}
    (configures : IsConfigOp op) (answered : world.answer op choice = some (reply, next)) :
    world.Configures op next := by
  cases op with
  | passEntryGate trades feedHealthy =>
    obtain rfl := always_next answered
    exact .gate trades feedHealthy
  | requestArm armed =>
    simp only [answer] at answered
    split at answered
    · obtain rfl := always_next answered
      exact .refused _
    · rename_i atOnce
      obtain rfl := always_next answered
      cases armed with
      | true => exact .requested fun live => atOnce ⟨rfl, live⟩
      | false => exact .disarmed _ _
  | armSystem request =>
    obtain rfl := always_next answered
    exact .armed request
  | beginSwitch mode activeTrades =>
    have result := always_cases answered
    unfold beginSwitch at result
    split at result
    · obtain ⟨_, rfl⟩ := Prod.mk.inj result
      exact .refused _
    · rename_i notActive
      split at result
      · obtain ⟨_, rfl⟩ := Prod.mk.inj result
        exact .disarmed _ _
      · rename_i disarmed
        cases applied : world.applyConfig (.switched mode) with
        | ok configured =>
          rw [applied] at result
          obtain ⟨_, rfl⟩ := Prod.mk.inj result
          rw [not_and_or, not_not, not_not] at notActive
          exact .applied ⟨rfl, notActive, Bool.not_eq_true _ ▸ disarmed⟩ applied
        | error error =>
          rw [applied] at result
          obtain ⟨_, rfl⟩ := Prod.mk.inj result
          exact .refused _
  | applyConfig change =>
    simp only [answer] at answered
    cases applied : world.applyConfig change with
    | ok configured =>
      rw [applied] at answered
      obtain rfl := always_next answered
      exact .applied rfl applied
    | error error =>
      rw [applied] at answered
      obtain rfl := always_next answered
      exact .refused _
  | setAutoTrade enabled =>
    obtain rfl := always_next answered
    exact .autoTrade enabled
  | setKillSwitch active =>
    obtain rfl := always_next answered
    exact .killSwitch active
  | escalateStopFailure =>
    simp only [answer] at answered
    split at answered
    · obtain rfl := always_next answered
      exact .disarmed _ _
    · obtain rfl := always_next answered
      exact .refused _
  | _ => exact configures.elim

theorem changesMode_of_asks {change : ConfigChange} (asked : world.asks op change) :
    op.changesMode := by
  cases op with
  | applyConfig | beginSwitch => trivial
  | _ => exact asked.elim

end StrategyWorld

theorem Frame.of_configures {world next : StrategyWorld} {op : StrategyOp}
    (isConfig : StrategyWorld.IsConfigOp op) (configures : world.Configures op next) :
    Frame op world next := by
  cases configures with
  | gate trades feedHealthy => exact of_passEntryGate world trades feedHealthy
  | refused => exact refl _ _
  | disarmed | requested | armed => exact of_setArmed isConfig _ _
  | applied asked applied =>
    exact of_applyConfig isConfig (StrategyWorld.changesMode_of_asks asked) applied
  | autoTrade enabled =>
    exact of_config _ isConfig
      (world.memory.modifyConfig fun config => { config with autoTradeEnabled := enabled }) rfl _
  | killSwitch active => exact of_setKillSwitch world active

theorem StrategyWorld.answer_frame {world next : StrategyWorld} {op : StrategyOp}
    {choice : StrategyAnswer} {reply : Except Raised (StrategyReply op)}
    (answered : world.answer op choice = some (reply, next)) : Frame op world next := by
  by_cases reading : IsReading op
  · rw [answer_of_isReading reading answered]
    exact Frame.refl op world
  · cases op with
    | getActiveTrades reader =>
      rcases committing_cases answered with ⟨_, rfl⟩ | ⟨_, rfl⟩
      · exact Frame.of_afterRead world reader
      · exact Frame.refl _ _
    | saveTrade trade purpose =>
      rcases committing_cases answered with ⟨_, rfl⟩ | ⟨_, rfl⟩
      · exact Frame.of_savedTrade world trade purpose
      · exact Frame.refl _ _
    | recordExecution entry =>
      obtain ⟨_, rfl | rfl⟩ := recordExecution_cases answered
      · constructor <;> intro untouched <;> first | rfl | exact absurd trivial untouched
      · exact Frame.refl _ _
    | createOrderIntent intent =>
      rcases ordering_cases answered with ⟨orderId, _, rfl, _⟩ | ⟨_, rfl⟩
      · exact Frame.of_createdOrder world orderId intent
      · exact Frame.refl _ _
    | insertConfigRow object =>
      rcases committing_cases answered with ⟨_, rfl⟩ | ⟨_, rfl⟩
      · constructor <;> intro untouched <;> first | rfl | exact absurd trivial untouched
      · exact Frame.refl _ _
    | writeConfigFile object =>
      rcases committing_cases answered with ⟨_, rfl⟩ | ⟨_, rfl⟩
      · split
        · constructor <;> intro untouched <;> first | rfl | exact absurd trivial untouched
        · exact Frame.refl _ _
      · exact Frame.refl _ _
    | closeInMemory trade futuresPrice price reason =>
      obtain ⟨now, _, rfl⟩ := closeInMemory_cases answered
      constructor <;> intro untouched <;> first | rfl | exact absurd trivial untouched
    | closeUnfilledInMemory trade status =>
      obtain ⟨now, _, rfl⟩ := closeUnfilledInMemory_cases answered
      constructor <;> intro untouched <;> first | rfl | exact absurd trivial untouched
    | acquireEvaluationLock =>
      simp only [answer] at answered
      split at answered
      · obtain rfl := always_next answered
        constructor <;> intro untouched <;> first | rfl | exact absurd trivial untouched
      · cases answered
    | killSwitchReturned active call =>
      obtain rfl := always_next answered
      split
      · constructor <;> intro untouched <;> first | rfl | exact absurd trivial untouched
      · exact Frame.refl _ _
    | releaseEvaluationLock | cacheActiveTrades trades | appendActiveTrade trade
    | beginForceEntry | endForceEntry | endEntry tradeId | putDown tradeIds =>
      obtain rfl := always_next answered
      constructor <;> intro untouched <;> first | rfl | exact absurd trivial untouched
    | _ =>
      first
      | exact absurd trivial reading
      | exact Frame.of_configures trivial (configures_of_answer trivial answered)

/-! ### The terms of the configuration -/

/-- Two configurations that differ at most in what is switched on. -/
structure SameTerms (old new : AutoTradingConfig) : Prop where
  mode : new.mode = old.mode
  risk : new.risk = old.risk
  costs : new.costs = old.costs
  tunables : new.tunables = old.tunables

theorem SameTerms.refl (config : AutoTradingConfig) : SameTerms config config :=
  ⟨rfl, rfl, rfl, rfl⟩

namespace StrategyWorld

variable {world next : StrategyWorld}

theorem applyConfig_cases {change : ConfigChange} (applied : world.applyConfig change = .ok next) :
    next = world.configured (change.resolve world.config) ∧
      (world.memory.activeTradesCache ≠ [] →
        (change.resolve world.config).mode = world.config.mode) := by
  unfold applyConfig at applied
  dsimp only at applied
  split at applied
  · cases applied
  · rename_i notActive
    split at applied
    · cases applied
    · refine ⟨(Except.ok.inj applied).symm, fun active => ?_⟩
      by_contra changed
      exact notActive ⟨active, changed⟩

theorem sameTerms_setArmed (world : StrategyWorld) (armed : Bool) (event : AuthorityEvent) :
    SameTerms world.config (world.setArmed armed event).config := by
  have same : (world.setArmed armed event).config = { world.config with systemArmed := armed } :=
    Memory.config_modifyConfig _ _
  rw [same]
  exact ⟨rfl, rfl, rfl, rfl⟩

theorem sameTerms_passEntryGate (world : StrategyWorld) (trades : List ActiveTrade)
    (feedHealthy : Bool) :
    SameTerms world.config (world.passEntryGate trades feedHealthy).2.config := by
  unfold passEntryGate
  split
  · exact sameTerms_setArmed { world with memory := { world.memory with activeTradesCache := trades } }
      false .autoDisarmed
  · split
    · exact SameTerms.refl _
    · split <;> exact SameTerms.refl _

/-- Every operation keeps the terms of the configuration, but for a change that is asked for and
applied. -/
theorem answer_terms {op : StrategyOp} {choice : StrategyAnswer}
    {reply : Except Raised (StrategyReply op)}
    (answered : world.answer op choice = some (reply, next)) :
    (SameTerms world.config next.config ∧ next.modeChanges = world.modeChanges) ∨
      ∃ change, world.asks op change ∧ world.applyConfig change = .ok next := by
  by_cases isConfig : IsConfigOp op
  · cases configures_of_answer isConfig answered with
    | gate trades feedHealthy =>
      exact Or.inl ⟨sameTerms_passEntryGate world trades feedHealthy,
        (answer_frame answered).modeChanges id⟩
    | refused => exact Or.inl ⟨SameTerms.refl _, rfl⟩
    | disarmed | requested | armed => exact Or.inl ⟨sameTerms_setArmed _ _ _, rfl⟩
    | applied asked applied => exact Or.inr ⟨_, asked, applied⟩
    | autoTrade enabled =>
      refine Or.inl ⟨?_, rfl⟩
      change SameTerms world.config (world.memory.modifyConfig _).config
      rw [Memory.config_modifyConfig]
      exact ⟨rfl, rfl, rfl, rfl⟩
    | killSwitch active =>
      refine Or.inl ⟨?_, (answer_frame answered).modeChanges id⟩
      cases active <;>
      · change SameTerms world.config (world.memory.modifyConfig _).config
        rw [Memory.config_modifyConfig]
        exact ⟨rfl, rfl, rfl, rfl⟩
  · have frame := answer_frame answered
    refine Or.inl ⟨?_, frame.modeChanges fun changes => isConfig ?_⟩
    · rw [frame.config isConfig]
      exact SameTerms.refl _
    · cases op with
      | applyConfig | beginSwitch => trivial
      | _ => exact changes.elim

end StrategyWorld

theorem StrategyWorld.passEntryGate_cases {world : StrategyWorld} {stored : List ActiveTrade}
    (seeking : world.stage = some (.seeking stored)) (trades : List ActiveTrade)
    (feedHealthy : Bool) :
    let view := (world.passEntryGate trades feedHealthy).1
    let next := (world.passEntryGate trades feedHealthy).2
    (view.disarmed ≠ none ∧ next.stage = some (.seeking stored)) ∨
      (view.memory.config.killSwitch = true ∧ next.stage = some .managing) ∨
      (world.config.killSwitch = false ∧ view.memory.config = world.config ∧
        view.memory.activeTradesCache = trades ∧ next.config = world.config ∧
        next.memory.activeTradesCache = trades ∧ next.stage = some (.entering stored)) := by
  unfold passEntryGate
  split
  · exact Or.inl ⟨Option.some_ne_none _, seeking⟩
  · cases on : world.config.killSwitch with
    | true =>
      rw [if_pos rfl]
      exact Or.inr (Or.inl ⟨on, rfl⟩)
    | false =>
      rw [if_neg Bool.false_ne_true, seeking]
      exact Or.inr (Or.inr ⟨rfl, rfl, rfl, rfl, rfl, rfl⟩)

/-! ### Books -/

/-- The orders of a later world go on from those of an earlier one, and its trades are those of the
earlier one with the saves since. -/
structure Grows (first last : StrategyWorld) : Prop where
  orders : first.orders <+: last.orders
  trades : ∃ saves, last.saves = first.saves ++ saves ∧
    last.trades = saves.foldl (fun trades save => putTrade trades save.trade) first.trades

theorem Grows.refl (world : StrategyWorld) : Grows world world :=
  ⟨List.prefix_rfl, [], (List.append_nil _).symm, rfl⟩

theorem Grows.trans {first second third : StrategyWorld} (left : Grows first second)
    (right : Grows second third) : Grows first third where
  orders := left.orders.trans right.orders
  trades := by
    obtain ⟨early, saved, same⟩ := left.trades
    obtain ⟨late, savedToo, sameToo⟩ := right.trades
    exact ⟨early ++ late, by rw [savedToo, saved, List.append_assoc],
      by rw [sameToo, same, List.foldl_append]⟩

theorem grows_answer {world next : StrategyWorld} {op : StrategyOp} {choice : StrategyAnswer}
    {reply : Except Raised (StrategyReply op)}
    (answered : world.answer op choice = some (reply, next)) : Grows world next := by
  have frame := StrategyWorld.answer_frame answered
  cases op with
  | saveTrade trade purpose =>
    rcases StrategyWorld.committing_cases answered with ⟨_, rfl⟩ | ⟨_, rfl⟩
    · refine ⟨frame.orders id ▸ List.prefix_rfl, [⟨trade, decide (purpose = .closing)⟩], ?_⟩
      cases purpose <;> exact ⟨rfl, rfl⟩
    · exact Grows.refl _
  | createOrderIntent intent =>
    rcases StrategyWorld.ordering_cases answered with ⟨orderId, _, rfl, _⟩ | ⟨_, rfl⟩
    · exact { Grows.refl world with orders := List.prefix_append _ _ }
    · exact Grows.refl _
  | _ =>
    exact ⟨frame.orders id ▸ List.prefix_rfl, [], (frame.saves id).trans (List.append_nil _).symm,
      frame.trades id⟩

end BreezeTrading
