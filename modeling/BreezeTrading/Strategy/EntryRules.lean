/-
This file walks once through the tasks that may enter a trade, the evaluation cycle and the forced
entry, for whatever discipline of credits. `EntryRules` lists what a discipline must show of each
operation, and the walk turns these rules into the ownership of the whole tasks.
-/

import BreezeTrading.Lib.Ownership
import BreezeTrading.Strategy.Frame

namespace BreezeTrading

open Async Async.Coroutine StrategyService

/-! ### Phases -/

/-- The two ways a trade is entered: for a signal of a cycle, or forced by an operator. -/
inductive EntryPath where
  | cycle
  | forced
  deriving DecidableEq

/-- What a new trade is saved for. -/
def EntryPath.purpose : EntryPath → SavePurpose
  | .cycle => .entry
  | .forced => .forcedEntry

/-- How far a task that may enter a trade has come: a cycle manages the open trades and then seeks
an entry over those that remain; on either path a trade may be entered, its order created, and the
trade stored with the id of the order. -/
inductive Phase where
  | started
  | managing (active : List ActiveTrade)
  | managed (active : List ActiveTrade)
  | seeking (remaining : List ActiveTrade)
  | entering (path : EntryPath)
  | entered (path : EntryPath) (trade : ActiveTrade)
  | ordered (path : EntryPath) (trade : ActiveTrade) (orderId : String)
  | completed (path : EntryPath) (trade : ActiveTrade)
  | failed (path : EntryPath) (trade : ActiveTrade)
  | finished (path : EntryPath)

/-- The phases in which a task may end, with nothing in hand. -/
inductive Phase.MayEnd : Phase → EntryPath → Prop
  | started : MayEnd .started .cycle
  | managed : MayEnd (.managed []) .cycle
  | seeking (remaining : List ActiveTrade) : MayEnd (.seeking remaining) .cycle
  | entering (path : EntryPath) : MayEnd (.entering path) path
  | finished (path : EntryPath) : MayEnd (.finished path) path

/-- An operation that neither reads nor writes a trade or the memory. -/
def IsIncidental : StrategyOp → Prop
  | .utcNow | .gatherFeatures | .evaluateStrategies | .selectContract | .elsewhere => True
  | .insertConfigRow _ => True
  | _ => False

/-- An operation between the two times a new trade is saved, other than the creation of its
order. -/
def IsDispatch (trade : ActiveTrade) : StrategyOp → Prop
  | .logEntry logged => logged = trade
  | .appendActiveTrade appended => appended = trade
  | .recordExecution entry => entry.tradeId = trade.tradeId ∧ entry.kind = .entry
  | _ => False

/-- An operation that moves a cycle or a forced entry on, or enters a trade or buys. -/
def MovesEntry (op : StrategyOp) : Prop := op.movesStage ∨ op.movesForcing ∨ op.enters ∨ op.buys

/-- The operations that move no entry: what management, the control of the service and the awaits
of a dispatch consist of. -/
theorem not_movesEntry_of_isManagement {trade : ActiveTrade} (op : StrategyOp)
    (managed : IsManagement trade op) : ¬MovesEntry op := by
  cases op with
  | saveTrade saved purpose =>
    rintro (entry | forcing | entry | buys)
    · rcases managed.2 with rfl | rfl <;> cases entry
    · exact forcing
    · rcases managed.2 with rfl | rfl <;> rcases entry with same | same <;> cases same
    · exact buys
  | createOrderIntent intent =>
    have sells : intent.side = .sell := managed
    rintro (stage | forcing | entry | buys)
    · exact stage
    · exact forcing
    · exact entry
    · exact absurd (sells.symm.trans buys) (by decide)
  | _ => first | rintro (moves | moves | moves | moves) <;> exact moves | exact managed.elim

theorem not_movesEntry_of_isControl {op : StrategyOp} (control : IsControl op) :
    ¬MovesEntry op := by
  cases op with
  | getActiveTrades reader =>
    obtain rfl : reader = .looking := control
    rintro ((same | same) | moves | moves | moves)
    · cases same
    · cases same
    · exact moves
    · exact moves
    · exact moves
  | _ => first | rintro (moves | moves | moves | moves) <;> exact moves | exact control.elim

theorem not_movesEntry_of_isIncidental {op : StrategyOp} (incidental : IsIncidental op) :
    ¬MovesEntry op := by
  cases op with
  | _ => first | rintro (moves | moves | moves | moves) <;> exact moves | exact incidental.elim

theorem not_movesEntry_of_isDispatch {trade : ActiveTrade} {op : StrategyOp}
    (dispatch : IsDispatch trade op) : ¬MovesEntry op := by
  cases op with
  | _ => first | rintro (moves | moves | moves | moves) <;> exact moves | exact dispatch.elim

theorem within_manualExitTrade_not_movesEntry (tradeId reason : String) :
    (manualExitTrade tradeId reason).Within (¬MovesEntry ·) := by
  refine within_manualExitTrade ?_ ?_ (fun _ => ?_) fun _ => not_movesEntry_of_isManagement
  · rintro ((same | same) | moves | moves | moves)
    · cases same
    · cases same
    · exact moves
    · exact moves
    · exact moves
  · rintro (moves | moves | moves | moves) <;> exact moves
  · rintro (moves | moves | moves | moves) <;> exact moves

/-- What was read on the way to an entry, and that it passed every gate of its path. -/
inductive EntryEvidence (knows gated : Memory → Prop) (lists : List ActiveTrade → Prop) :
    EntryPath → ActiveTrade → Prop
  | signal {now : Int} {market : MarketView} {signal : EntrySignal} {contract : SelectedContract}
      {gateMemory dayMemory signalMemory modeMemory memory : Memory} {listed : List ActiveTrade}
      (gateRead : gated gateMemory) (entry : entryGate gateMemory now market = none)
      (listing : lists listed) (dayRead : knows dayMemory)
      (day : dayGate dayMemory.config now (tradesOfDay now listed) = none)
      (signalRead : knows signalMemory)
      (limits : signalGate signalMemory signal.strategy (tradesOfDay now listed) = none)
      (modeRead : knows modeMemory) (read : knows memory) :
      EntryEvidence knows gated lists .cycle
        (signalTrade memory.config.costs
          (executionModeForStrategy modeMemory.config signal.strategy signal.optionType) signal
          contract now)
  | forced {now : Int} {market : MarketView} {strategy : StrategyName}
      {direction : TradeDirection} {optionType : OptionType} {contract : SelectedContract}
      {memory : Memory} (read : knows memory) :
      EntryEvidence knows gated lists .forced
        (forcedTrade memory.config.costs
          (executionModeForStrategy memory.config strategy optionType) strategy direction
          optionType contract now market)

theorem killSwitch_of_entryGate {memory : Memory} {now : Int} {market : MarketView}
    (passed : entryGate memory now market = none) : memory.config.killSwitch = false := by
  cases on : memory.config.killSwitch with
  | false => rfl
  | true => simp [entryGate, on] at passed

section

variable {knows : Memory → Prop} {gated : Memory → Prop} {lists : List ActiveTrade → Prop}
  {path : EntryPath} {trade : ActiveTrade} (evidence : EntryEvidence knows gated lists path trade)

include evidence

theorem EntryEvidence.mode : ∃ memory, knows memory ∧ trade.mode = memory.config.mode := by
  cases evidence with
  | @signal _ _ signal _ _ _ _ modeMemory =>
    exact ⟨modeMemory, by assumption,
      executionModeForStrategy_eq modeMemory.config signal.strategy signal.optionType⟩
  | @forced _ _ strategy _ optionType _ memory read =>
    exact ⟨memory, read, executionModeForStrategy_eq memory.config strategy optionType⟩

theorem EntryEvidence.isOpen : trade.state ≠ .closed := by
  have opens : ∀ mode : AutoTradingMode, (if mode = .live then TradeLifecycleState.entryPending
      else .openInitialRisk) ≠ .closed := by
    intro mode
    split <;> decide
  cases evidence with
  | signal | forced => exact opens _

theorem EntryEvidence.pending (live : trade.mode = .live) :
    trade.state = .entryPending ∧ trade.entryOrderId = none := by
  cases evidence with
  | signal | forced => exact ⟨if_pos live, rfl⟩

end

/-! ### Rules -/

/-- What a discipline must show of the operations of a task that may enter a trade: what the task
owns in each phase, what a memory and a listing that it reads then tell, and what each operation
exchanges. -/
structure EntryRules {Credit : Type} [AddCommMonoid Credit]
    (condition : Condition StrategyOp StrategyWorld StrategyAnswer StrategyStart Empty)
    (discipline : Discipline StrategyWorld Credit) where
  owns : Phase → Credit → Prop
  knows : Credit → Memory → Prop
  gated : Credit → Memory → Prop
  lists : Credit → List ActiveTrade → Prop
  incidental : ∀ {op credit} seen, IsIncidental op →
    Answers strategySystem condition discipline op credit seen fun _ left _ => left = credit
  mayEnd : ∀ {phase path credit}, owns phase credit → phase.MayEnd path →
    owns (.finished path) credit
  acquire : ∀ seen, Answers strategySystem condition discipline .acquireEvaluationLock 0 seen
    fun reply left _ => ∀ done, reply = .ok done → owns .started left
  readManaged : ∀ {credit} seen, owns .started credit →
    Answers strategySystem condition discipline (.getActiveTrades .management) credit seen
      fun reply left _ => match reply with
        | .ok active => owns (.managing active) left
        | .error _ => owns (.finished .cycle) left
  manage : ∀ {credit active} seen, owns (.managing active) credit →
    Owns strategySystem condition discipline (do
      let _ ← suspend (.cacheActiveTrades active)
      evaluateActiveTrades active) credit seen fun _ left _ => owns (.managed active) left
  putDown : ∀ {credit active} seen, owns (.managed active) credit →
    Answers strategySystem condition discipline (.putDown (active.map ActiveTrade.tradeId)) credit
      seen fun _ left _ => owns (.managed []) left
  readRemaining : ∀ {credit} seen, owns (.managed []) credit →
    Answers strategySystem condition discipline (.getActiveTrades .entry) credit seen
      fun reply left _ => match reply with
        | .ok remaining => owns (.seeking remaining) left
        | .error _ => owns (.finished .cycle) left
  gate : ∀ {credit remaining} feedHealthy seen, owns (.seeking remaining) credit →
    Answers strategySystem condition discipline (.passEntryGate remaining feedHealthy) credit seen
      fun reply left _ => owns (.finished .cycle) left ∧ ∀ view, reply = .ok view →
        view.disarmed = none → view.memory.config.killSwitch = false →
          owns (.entering .cycle) left ∧ gated left view.memory
  list : ∀ {credit} seen, owns (.entering .cycle) credit →
    Answers strategySystem condition discipline (.listTrades 1000) credit seen
      fun reply left _ => left = credit ∧ ∀ listed, reply = .ok listed → lists credit listed
  read : ∀ {credit path} seen, owns (.entering path) credit →
    Answers strategySystem condition discipline .readMemory credit seen
      fun reply left _ => left = credit ∧ ∀ memory, reply = .ok memory → knows credit memory
  enter : ∀ {credit path trade} seen, owns (.entering path) credit →
    EntryEvidence (knows credit) (gated credit) (lists credit) path trade →
    Answers strategySystem condition discipline (.saveTrade trade path.purpose) credit seen
      fun reply left _ => match reply with
        | .ok _ => owns (.entered path trade) left
        | .error _ => owns (.finished path) left
  dispatch : ∀ {credit path trade op} seen, owns (.entered path trade) credit →
    IsDispatch trade op →
    Answers strategySystem condition discipline op credit seen fun reply left _ => match reply with
      | .ok _ => owns (.entered path trade) left
      | .error _ => owns (.failed path trade) left
  order : ∀ {credit path trade intent} seen, owns (.entered path trade) credit →
    trade.mode = .live → intent.side = .buy → intent.correlationId = trade.tradeId →
    Answers strategySystem condition discipline (.createOrderIntent intent) credit seen
      fun reply left _ => match reply with
        | .ok orderId => owns (.ordered path trade orderId) left
        | .error _ => owns (.failed path trade) left
  refer : ∀ {credit path trade orderId} seen, owns (.ordered path trade orderId) credit →
    Answers strategySystem condition discipline
      (.saveTrade { trade with entryOrderId := some orderId, state := .entryPending } .reference)
      credit seen fun reply left _ => match reply with
        | .ok _ => owns (.completed path trade) left
        | .error _ => owns (.failed path trade) left
  simulated : ∀ {credit path trade}, owns (.entered path trade) credit → trade.mode ≠ .live →
    owns (.completed path trade) credit
  endEntry : ∀ {credit path trade} seen,
    owns (.completed path trade) credit ∨ owns (.failed path trade) credit →
    Answers strategySystem condition discipline (.endEntry trade.tradeId) credit seen
      fun _ left _ => owns (.finished path) left
  release : ∀ {credit} seen, owns (.finished .cycle) credit →
    Answers strategySystem condition discipline .releaseEvaluationLock credit seen
      fun _ _ _ => True
  beginForced : ∀ seen, Answers strategySystem condition discipline .beginForceEntry 0 seen
    fun reply left _ => ∀ done, reply = .ok done → owns (.entering .forced) left
  endForced : ∀ {credit} seen, owns (.finished .forced) credit →
    Answers strategySystem condition discipline .endForceEntry credit seen fun _ _ _ => True

/-! ### The walk -/

section Walk

variable {Credit : Type} [AddCommMonoid Credit]
  {condition : Condition StrategyOp StrategyWorld StrategyAnswer StrategyStart Empty}
  {discipline : Discipline StrategyWorld Credit} {First Second : Type} {credit : Credit}
  {seen : StrategyWorld}

theorem answers_committing {op : StrategyOp} {value : StrategyWorld → StrategyReply op}
    {target : StrategyWorld → StrategyWorld}
    {post : Except Raised (StrategyReply op) → Credit → StrategyWorld → Prop}
    (succeeds : ∀ world rest choice, discipline.holds world (credit + rest) →
      condition.answer world op choice = true → ∃ left, discipline.later world (target world) ∧
        discipline.holds (target world) (left + rest) ∧ post (.ok (value world)) left (target world))
    (fails : ∀ world error, discipline.later world world ∧ post (.error error) credit world)
    (commits : ∀ (world : StrategyWorld) choice, world.answer op choice =
      StrategyWorld.committing world (value world) (target world) choice := by intros; rfl) :
    Answers strategySystem condition discipline op credit seen post := by
  intro world rest choice reply next _ owned met answered
  rcases StrategyWorld.committing_cases ((commits world choice).symm.trans answered) with
    ⟨rfl, rfl⟩ | ⟨⟨error, rfl⟩, rfl⟩
  · exact succeeds world rest choice owned met
  · exact ⟨credit, (fails _ error).1, owned, (fails _ error).2⟩

theorem owns_suspendIf {choice : Prop} [Decidable choice] {op : StrategyOp}
    {post : Except Raised Unit → Credit → StrategyWorld → Prop}
    (taken : choice → Answers strategySystem condition discipline op credit seen
      fun reply left world => match reply with
        | .ok _ => post (.ok ()) left world
        | .error error => post (.error error) left world)
    (skipped : ¬choice → post (.ok ()) credit seen) :
    Owns strategySystem condition discipline (suspendIf choice op) credit seen post := by
  unfold suspendIf
  split
  · rename_i holds
    refine Owns.await (taken holds) fun reply left world _ final => ?_
    cases reply with
    | ok value => exact final
    | error error => exact final
  · rename_i fails
    exact skipped fails

theorem owns_finallyDo {task : StrategyTask First} {op : StrategyOp}
    {post : Credit → StrategyWorld → Prop}
    (owns : Owns strategySystem condition discipline task credit seen fun _ left world =>
      Answers strategySystem condition discipline op left world fun _ last next => post last next) :
    Owns strategySystem condition discipline (finallyDo task op) credit seen
      fun _ left world => post left world := by
  refine Owns.bind (Owns.catching (Owns.weaken owns fun result left world _ answers => ?_))
  cases result with
  | ok value | error error =>
    refine Owns.await answers fun reply last final _ ended => ?_
    cases reply with
    | ok value => exact ended
    | error error => exact ended

theorem owns_managing (kind : StrategyOp → Prop) {active : List ActiveTrade}
    (quiet : ∀ op world, kind op →
      Answers strategySystem condition discipline op credit world fun _ left _ => left = credit)
    (caches : kind (.cacheActiveTrades active))
    (manages : ∀ trade ∈ active, (evaluateActiveTrade trade).Within kind) :
    Owns strategySystem condition discipline (do
      let _ ← suspend (.cacheActiveTrades active)
      evaluateActiveTrades active) credit seen (leaving credit) := by
  have within : (do
      let _ ← suspend (.cacheActiveTrades active)
      evaluateActiveTrades active : StrategyTask Unit).Within kind :=
    (within_perform caches).bind fun _ => within_evaluateActiveTrades manages
  exact Owns.of_within seen (fun op next _ fits => quiet op next fits) within

namespace EntryRules

variable (rules : EntryRules condition discipline) {path : EntryPath} {trade : ActiveTrade}

/-- What is owned after a part of the dispatch of an entry. -/
def after (path : EntryPath) (trade : ActiveTrade) (phase : Phase) (result : Except Raised First)
    (left : Credit) (_ : StrategyWorld) : Prop :=
  match result with
  | .ok _ => rules.owns phase left
  | .error _ => rules.owns (.failed path trade) left

/-- What is owned when a dispatch has ended. -/
def ended (path : EntryPath) (trade : ActiveTrade) (_ : Except Raised Second) (left : Credit)
    (_ : StrategyWorld) : Prop :=
  rules.owns (.completed path trade) left ∨ rules.owns (.failed path trade) left

variable {rules}

variable {phase : Phase} {op : StrategyOp}

theorem owns_then {first : StrategyTask First} {next : First → StrategyTask Second} (owns : Owns
      strategySystem condition discipline first credit seen (rules.after path trade phase))
    (continues : ∀ value left world, rules.owns phase left → Owns strategySystem condition
      discipline (next value) left world (rules.ended path trade)) :
    Owns strategySystem condition discipline (first >>= next) credit seen
      (rules.ended path trade) := by
  refine Owns.call owns fun result left world _ kept => ?_
  cases result with
  | ok value => exact continues value left world kept
  | error error => exact Or.inr kept

theorem owns_dispatch (owned : rules.owns (.entered path trade) credit) (kind : IsDispatch trade op)
    : Owns strategySystem condition discipline (suspend op) credit seen
      (rules.after path trade (.entered path trade)) := by
  refine Owns.perform_last (Answers.weaken (rules.dispatch seen owned kind)
    fun reply left world _ kept => ?_)
  cases reply with
  | ok value => exact kept
  | error error => exact kept

theorem owns_dispatchIf {choice : Prop} [Decidable choice]
    (owned : rules.owns (.entered path trade) credit) (kind : IsDispatch trade op) :
    Owns strategySystem condition discipline (suspendIf choice op) credit seen
      (rules.after path trade (.entered path trade)) := by
  refine owns_suspendIf (fun _ => ?_) fun _ => owned
  refine Answers.weaken (rules.dispatch seen owned kind) fun reply left world _ kept => ?_
  cases reply with
  | ok value => exact kept
  | error error => exact kept

theorem owns_recordSimulatedEntry (owned : rules.owns (.entered path trade) credit) :
    Owns strategySystem condition discipline (recordSimulatedEntry trade) credit seen
      (rules.after path trade (.entered path trade)) :=
  owns_dispatchIf owned ⟨rfl, rfl⟩

variable (contract : SelectedContract)

theorem owns_submitEntryOrder (owned : rules.owns (.entered path trade) credit) :
    Owns strategySystem condition discipline (submitEntryOrder trade contract) credit seen
      (rules.after path trade (.completed path trade)) := by
  unfold submitEntryOrder
  split
  · rename_i simulated
    exact rules.simulated owned simulated
  · rename_i live
    refine Owns.await (rules.order seen owned (not_not.mp live) rfl rfl)
      fun reply left world _ ordered => ?_
    cases reply with
    | error error => exact ordered
    | ok orderId =>
      refine Owns.await (rules.refer world ordered) fun reply left world _ completed => ?_
      cases reply with
      | ok | error => exact completed

theorem owns_submitted (owned : rules.owns (.entered path trade) credit) :
    Owns strategySystem condition discipline (do
      submitEntryOrder trade contract
      let _ ← suspend .elsewhere : StrategyTask Unit) credit seen (rules.ended path trade) := by
  refine owns_then (owns_submitEntryOrder contract owned) fun _ left world completed => ?_
  refine Owns.await (rules.incidental world trivial) fun reply last final _ same => ?_
  cases reply with
  | ok | error => exact same ▸ Or.inl completed

theorem owns_entry {dispatched : StrategyTask Unit} (owned : rules.owns (.entering path) credit)
    (evidence : EntryEvidence (rules.knows credit) (rules.gated credit) (rules.lists credit) path
      trade)
    (dispatches : ∀ left world, rules.owns (.entered path trade) left →
      Owns strategySystem condition discipline dispatched left world (rules.ended path trade)) :
    Owns strategySystem condition discipline (do
      let _ ← suspend (.saveTrade trade path.purpose)
      finallyDo dispatched (.endEntry trade.tradeId) : StrategyTask Unit) credit seen
        fun _ left _ => rules.owns (.finished path) left := by
  refine Owns.await (rules.enter seen owned evidence) fun reply left world _ entered => ?_
  cases reply with
  | error error => exact entered
  | ok saved =>
    exact owns_finallyDo (Owns.weaken (dispatches left world entered)
      fun result last final _ ended => rules.endEntry final ended)

theorem owns_enterTrade (owned : rules.owns (.entering .cycle) credit) (evidence : EntryEvidence
      (rules.knows credit) (rules.gated credit) (rules.lists credit) .cycle trade) :
    Owns strategySystem condition discipline (enterTrade trade contract) credit seen
      fun _ left _ => rules.owns (.finished .cycle) left := by
  refine owns_entry owned evidence fun left world entered => ?_
  refine owns_then (owns_dispatchIf entered rfl) fun _ left world entered => ?_
  refine owns_then (owns_recordSimulatedEntry entered) fun _ left world entered => ?_
  refine owns_then (owns_dispatchIf entered rfl) fun _ left world entered => ?_
  refine owns_then (owns_dispatch entered rfl) fun _ left world entered => ?_
  exact owns_then (owns_dispatch entered rfl) fun _ left world entered =>
    owns_submitted contract entered

theorem owns_enterForcedTrade (owned : rules.owns (.entering .forced) credit) (evidence :
      EntryEvidence (rules.knows credit) (rules.gated credit) (rules.lists credit) .forced trade) :
    Owns strategySystem condition discipline (enterForcedTrade trade contract) credit seen
      fun _ left _ => rules.owns (.finished .forced) left := by
  refine owns_entry owned evidence fun left world entered => ?_
  refine owns_then (owns_dispatch entered rfl) fun _ left world entered => ?_
  refine owns_then (owns_recordSimulatedEntry entered) fun _ left world entered => ?_
  exact owns_then (owns_dispatch entered rfl) fun _ left world entered =>
    owns_submitted contract entered

/-- What is owned when a task is done but for what it does at last. -/
def finished (rules : EntryRules condition discipline) (path : EntryPath)
    (_ : Except Raised Second) (left : Credit) (_ : StrategyWorld) : Prop :=
  rules.owns (.finished path) left

theorem owns_incidental {next : StrategyReply op → StrategyTask Second}
    (owned : rules.owns phase credit) (mayEnd : phase.MayEnd path) (kind : IsIncidental op)
    (continues : ∀ value world, Owns strategySystem condition discipline (next value) credit world
      (rules.finished path)) :
    Owns strategySystem condition discipline (suspend op >>= next) credit seen
      (rules.finished path) := by
  refine Owns.await (rules.incidental seen kind) ?_
  rintro reply left world _ rfl
  cases reply with
  | ok value => exact continues value world
  | error error => exact rules.mayEnd owned mayEnd

theorem owns_refuse (owned : rules.owns phase credit) (mayEnd : phase.MayEnd path) {status : String}
    : Owns strategySystem condition discipline (refuse status) credit seen (rules.finished path) :=
  owns_incidental owned mayEnd trivial fun _ _ => rules.mayEnd owned mayEnd

theorem owns_readMemory {next : Memory → StrategyTask Second}
    (owned : rules.owns (.entering path) credit)
    (continues : ∀ memory world, rules.knows credit memory →
      Owns strategySystem condition discipline (next memory) credit world (rules.finished path)) :
    Owns strategySystem condition discipline (suspend .readMemory >>= next) credit seen
      (rules.finished path) := by
  refine Owns.await (rules.read seen owned) ?_
  rintro reply left world _ ⟨rfl, knows⟩
  cases reply with
  | ok memory => exact continues memory world (knows memory rfl)
  | error error => exact rules.mayEnd owned (.entering _)

/-! ### The evaluation cycle -/

theorem owns_seekEntry {now : Int} {market : MarketView} {gateMemory : Memory}
    (owned : rules.owns (.entering .cycle) credit) (gateRead : rules.gated credit gateMemory)
    (entry : entryGate gateMemory now market = none) :
    Owns strategySystem condition discipline (seekEntry now) credit seen
      (rules.finished .cycle) := by
  have done : rules.owns (.finished .cycle) credit := rules.mayEnd owned (.entering _)
  refine Owns.await (rules.list seen owned) ?_
  rintro reply left world _ ⟨rfl, lists⟩
  cases reply with
  | error error => exact done
  | ok listed =>
    refine owns_readMemory owned fun dayMemory world dayRead => ?_
    dsimp only
    split
    · exact owns_refuse owned (.entering _)
    · rename_i day
      refine owns_incidental owned (.entering _) trivial fun signal world => ?_
      cases signal with
      | none => exact done
      | some signal =>
        refine owns_readMemory owned fun signalMemory world signalRead => ?_
        split
        · exact done
        · rename_i limits
          refine owns_incidental owned (.entering _) trivial fun _ world => ?_
          refine owns_readMemory owned fun modeMemory world modeRead => ?_
          refine owns_incidental owned (.entering _) trivial fun contract world => ?_
          cases contract with
          | none => exact owns_refuse owned (.entering _)
          | some contract =>
            refine owns_incidental owned (.entering _) trivial fun _ world => ?_
            refine owns_readMemory owned fun memory world read => ?_
            split
            · exact owns_refuse owned (.entering _)
            · unfold dispatchSignal
              split
              · exact owns_refuse owned (.entering _)
              · refine Owns.call (owns_enterTrade contract owned
                  (.signal gateRead entry (lists listed rfl) dayRead day signalRead limits
                    modeRead read)) fun result left last _ ended => ?_
                cases result with
                | ok value => exact ended
                | error error => exact ended

theorem owns_saveDisarmed (rules : EntryRules condition discipline) {object : Nat} :
    Owns strategySystem condition discipline (saveAutoConfig object false) credit seen
      (leaving credit) := by
  have saves : IsIncidental (.insertConfigRow object) := trivial
  refine Owns.await (rules.incidental seen saves) fun reply left world _ same => ?_
  cases reply with
  | ok saved => exact same
  | error error => exact same

theorem owns_managed {active : List ActiveTrade} (owned : rules.owns (.managing active) credit) :
    Owns strategySystem condition discipline (finallyDo (do
      let _ ← suspend (.cacheActiveTrades active)
      evaluateActiveTrades active) (.putDown (active.map ActiveTrade.tradeId))) credit seen
        fun _ left _ => rules.owns (.managed []) left :=
  owns_finallyDo (Owns.weaken (rules.manage seen owned) fun _ _ world _ managed =>
    rules.putDown world managed)

theorem owns_evaluateCycleLocked (owned : rules.owns .started credit) :
    Owns strategySystem condition discipline evaluateCycleLocked credit seen
      (rules.finished .cycle) := by
  refine owns_incidental owned .started trivial fun now world => ?_
  refine owns_incidental owned .started trivial fun market world => ?_
  refine Owns.await (rules.readManaged world owned) fun reply left world _ read => ?_
  cases reply with
  | error error => exact read
  | ok active =>
    refine Owns.call (owns_managed read) fun result left world _ managed => ?_
    cases result with
    | error error => exact rules.mayEnd managed .managed
    | ok done =>
      refine Owns.await (rules.readRemaining world managed)
        fun reply left world _ read => ?_
      cases reply with
      | error error => exact read
      | ok remaining =>
        refine Owns.await (rules.gate market.executionFeedHealthy world read) ?_
        rintro reply left world _ ⟨done, passes⟩
        cases reply with
        | error error => exact done
        | ok view =>
          dsimp only
          split
          · refine Owns.call (owns_saveDisarmed rules) ?_
            rintro result left world _ rfl
            cases result with
            | ok saved => exact owns_incidental done (.finished _) trivial fun _ world => done
            | error error => exact done
          · rename_i notDisarmed
            split
            · exact owns_refuse done (.finished _)
            · rename_i entry
              obtain ⟨owned, gateRead⟩ := passes view rfl notDisarmed (killSwitch_of_entryGate entry)
              exact owns_seekEntry owned gateRead entry

theorem owns_evaluateCycle (rules : EntryRules condition discipline) :
    Owns strategySystem condition discipline evaluateCycle 0 seen fun _ _ _ => True := by
  refine Owns.await (rules.acquire seen) fun reply left world _ started => ?_
  cases reply with
  | error error => trivial
  | ok done =>
    refine owns_finallyDo (Owns.weaken (owns_evaluateCycleLocked (started done rfl))
      fun _ left world _ done => ?_)
    exact rules.release world done

/-! ### The forced entry -/

theorem owns_forceAllowedEntry {strategy : StrategyName} {direction : TradeDirection}
    {optionType : OptionType} (owned : rules.owns (.entering .forced) credit) :
    Owns strategySystem condition discipline (forceAllowedEntry strategy direction optionType)
      credit seen (rules.finished .forced) := by
  have done : rules.owns (.finished .forced) credit := rules.mayEnd owned (.entering _)
  refine owns_incidental owned (.entering _) trivial fun now world => ?_
  refine owns_incidental owned (.entering _) trivial fun market world => ?_
  split
  · exact done
  · split
    · exact done
    · refine owns_incidental owned (.entering _) trivial fun contract world => ?_
      cases contract with
      | none => exact owns_refuse owned (.entering _)
      | some contract =>
        refine owns_readMemory owned fun memory world read => ?_
        split
        · exact done
        · unfold dispatchForced
          dsimp only
          split
          · exact owns_refuse owned (.entering _)
          · refine Owns.call (owns_enterForcedTrade contract owned (.forced read))
              fun result left last _ ended => ?_
            cases result with
            | ok value => exact ended
            | error error => exact ended

theorem owns_forceEntry (rules : EntryRules condition discipline) {strategy : StrategyName}
    {direction : TradeDirection} {optionType : Option OptionType} :
    Owns strategySystem condition discipline (forceEntry strategy direction optionType) 0 seen
      fun _ _ _ => True := by
  unfold forceEntry
  split
  · refine Owns.await (rules.beginForced seen) fun reply left world _ begun => ?_
    cases reply with
    | error error => trivial
    | ok done =>
      refine owns_finallyDo (Owns.weaken (owns_forceAllowedEntry
        (begun done rfl)) fun _ left world _ done => ?_)
      exact rules.endForced world done
  · trivial

/-- A discipline with rules is sound when manual exits and the operations on the configuration own
nothing, and a restart leaves nothing owned. -/
theorem sound (rules : EntryRules condition discipline)
    (exits : ∀ world tradeId reason, condition.start world (.manualExit tradeId reason) = true →
      Owns strategySystem condition discipline (manualExitTrade tradeId reason) 0 world
        fun _ _ _ => True)
    (controls : ∀ op world, IsControl op →
      Answers strategySystem condition discipline op 0 world fun _ left _ => left = 0)
    (restarts : ∀ world total, discipline.holds world total → condition.restart world = true →
      discipline.holds world.restarted 0) :
    Sound strategySystem condition discipline where
  start world total kind task next held met started := by
    cases started
    refine ⟨discipline.refl world, 0, (zero_add total).symm ▸ held, ?_⟩
    have ignored : ∀ {task : StrategyTask String}, Owns strategySystem condition discipline task 0
        world (fun _ _ _ => True) → Owns strategySystem condition discipline
          (do let _ ← task : StrategyTask Unit) 0 world fun _ _ _ => True := by
      intro task owns
      refine Owns.call owns fun result left last _ _ => ?_
      cases result with
      | ok value => trivial
      | error error => trivial
    have controlled : ∀ {task : StrategyTask Unit}, task.Within IsControl →
        Owns strategySystem condition discipline task 0 world fun _ _ _ => True := fun within =>
      Owns.weaken (Owns.of_within world (fun op next _ control => controls op next control) within)
        fun _ _ _ _ _ => trivial
    cases kind with
    | evaluateCycle => exact ignored (owns_evaluateCycle rules)
    | forceEntry strategy direction optionType =>
      exact ignored (owns_forceEntry rules)
    | manualExit tradeId reason => exact exits world tradeId reason met
    | getStatus | updateConfig config | setExecutionMode mode | arm armed | setAutoTrade enabled
    | toggleKillSwitch active =>
      refine controlled (StrategyStart.within_isControl ?_)
      trivial
  disturb _ _ cause := cause.elim
  restart := restarts

end EntryRules

end Walk

end BreezeTrading
