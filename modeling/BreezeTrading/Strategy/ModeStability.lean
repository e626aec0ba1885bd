/-
This file proves when the trading mode is stable while positions are active: no open trade is
stored when the mode changes, and every trade is entered in the mode in force. Entries own the
mode they will enter in, copies of a trade its mode. The check of a change reads a cache, so a
change while the cache is behind, or an entry or a copy is in hand, breaks this.
-/

import BreezeTrading.Strategy.EntryRules
import Mathlib.Algebra.Group.Prod

namespace BreezeTrading

open Async Async.Coroutine StrategyService StrategyWorld

/-! ### The property -/

/-- The trading mode is stable while positions are active. -/
structure ModeStable (world : StrategyWorld) : Prop where
  changes : ∀ active ∈ world.modeChanges, active = []
  entered : ∀ record ∈ world.entries, record.trade.mode = record.config.mode
  stable : world.modeChanges ≠ [] →
    ∀ trade ∈ getActiveTrades world.trades, trade.mode = world.config.mode

/-- A cycle at this stage seeks an entry or dispatches one. -/
def CycleStage.inEntry : CycleStage → Bool
  | .seeking _ | .entering _ | .entered => true
  | .started | .managing => false

namespace StrategyWorld

/-- No entry is under way, no copy of a trade in hand, and an empty cache means that no open trade
is stored. -/
structure Settled (world : StrategyWorld) : Prop where
  stage : ∀ stage, world.stage = some stage → stage.inEntry = false
  forcing : world.forcing = 0
  held : world.held = []
  cache : world.memory.activeTradesCache = [] → getActiveTrades world.trades = []

def settled (world : StrategyWorld) : Bool :=
  !world.stage.any CycleStage.inEntry && decide (world.forcing = 0) && world.held.isEmpty &&
    (!world.memory.activeTradesCache.isEmpty || (getActiveTrades world.trades).isEmpty)

theorem settled_iff {world : StrategyWorld} : world.settled = true ↔ world.Settled := by
  unfold settled
  rw [Bool.and_eq_true, Bool.and_eq_true, Bool.and_eq_true, Bool.not_eq_true',
    decide_eq_true_eq, Option.any_eq_false, List.isEmpty_iff, Bool.or_eq_true,
    Bool.not_eq_true', List.isEmpty_iff, List.isEmpty_eq_false_iff]
  constructor
  · rintro ⟨⟨⟨stage, forcing⟩, held⟩, cache⟩
    refine ⟨fun reached same => by simpa using stage reached same, forcing, held, fun empty => ?_⟩
    exact cache.resolve_left (not_not.mpr empty)
  · rintro ⟨stage, forcing, held, cache⟩
    refine ⟨⟨⟨fun reached same => by simpa using stage reached same, forcing⟩, held⟩, ?_⟩
    by_cases empty : world.memory.activeTradesCache = []
    · exact Or.inr (cache empty)
    · exact Or.inl empty

/-- A change of the mode that would take effect does so in a settled service. -/
def modeSettled (world : StrategyWorld) : StrategyOp → Bool
  | .applyConfig change => decide ((change.resolve world.config).mode = world.config.mode) ||
      world.settled
  | .beginSwitch mode activeTrades => decide (mode = world.config.mode) ||
      !activeTrades.isEmpty || world.config.systemArmed || world.settled
  | _ => true

end StrategyWorld

/-- The mode changes only in a settled service, and a start loads the mode in force. -/
def changesSettled :
    Condition StrategyOp StrategyWorld StrategyAnswer StrategyStart Empty where
  answer world op _ := world.modeSettled op
  restart world := decide (world.loadedConfig.mode = world.config.mode)

/-! ### The discipline -/

/-- What a cycle owns: its stage, and from the search for an entry on the mode in force. -/
abbrev ModeToken := CycleStage × Option AutoTradingMode

/-- What tasks own of the mode: a cycle its token, a forced entry the mode in force, and the holder
of a copy of a trade the mode of the copy. -/
abbrev ModeCredit := Multiset ModeToken × Multiset AutoTradingMode × Multiset AutoTradingMode

def StrategyWorld.modeToken (world : StrategyWorld) : Option ModeToken :=
  world.stage.map fun stage => (stage, if stage.inEntry then some world.config.mode else none)

structure ModeOwned (world : StrategyWorld) (credit : ModeCredit) : Prop where
  token : credit.1 = unique world.modeToken
  forcing : credit.2.1 = Multiset.replicate world.forcing world.config.mode
  copies : world.modeChanges ≠ [] → ∀ mode ∈ credit.2.2, mode = world.config.mode
  held : credit.2.2.card ≤ world.held.length
  modes : ModeStable world

def modeDiscipline : Discipline StrategyWorld ModeCredit where
  later _ _ := True
  refl _ := trivial
  trans _ _ := trivial
  holds := ModeOwned

/-! ### Operations that touch no mode in use -/

section Quiet

variable {world next : StrategyWorld} {op : StrategyOp} {choice : StrategyAnswer}
  {reply : Except Raised (StrategyReply op)}

theorem mode_answer (settles : world.modeSettled op = true)
    (answered : world.answer op choice = some (reply, next)) :
    (next.config.mode = world.config.mode ∧ next.modeChanges = world.modeChanges) ∨
      (world.Settled ∧ getActiveTrades world.trades = [] ∧
        next.modeChanges = world.modeChanges ++ [[]]) := by
  rcases answer_terms answered with ⟨same, changes⟩ | ⟨change, asks, applied⟩
  · exact Or.inl ⟨same.mode, changes⟩
  · obtain ⟨rfl, active⟩ := applyConfig_cases applied
    have config : (world.configured (change.resolve world.config)).config =
        change.resolve world.config := Memory.config_replaceConfig _ _
    by_cases same : (change.resolve world.config).mode = world.config.mode
    · refine Or.inl ⟨?_, if_neg (not_not.mpr same)⟩
      rw [config]
      exact same
    · have settled : world.Settled := by
        rw [← settled_iff]
        cases op with
        | applyConfig asked =>
          obtain rfl : change = asked := asks
          simpa only [modeSettled, same, decide_false, Bool.false_or] using settles
        | beginSwitch mode activeTrades =>
          obtain ⟨rfl, unlisted, disarmed⟩ := asks
          have changes : mode ≠ world.config.mode := same
          obtain rfl := unlisted.resolve_right changes
          simpa only [modeSettled, changes, decide_false, List.isEmpty_nil, Bool.not_true, disarmed,
            Bool.false_or] using settles
        | _ => exact asks.elim
      have empty : world.memory.activeTradesCache = [] := by
        by_contra listed
        exact same (active listed)
      have none := settled.cache empty
      refine Or.inr ⟨settled, none, ?_⟩
      show (if _ then world.modeChanges ++ [getActiveTrades world.trades] else _) = _
      rw [if_pos same, none]

/-- An operation that moves no entry, stores no trade and takes none in hand. -/
structure KeepsModes (op : StrategyOp) : Prop where
  stage : ¬op.movesStage
  forcing : ¬op.movesForcing
  saves : ¬op.saves
  held : ¬op.movesHeld

theorem KeepsModes.enters (keeps : KeepsModes op) : ¬op.enters := by
  cases op with
  | saveTrade trade purpose => exact absurd trivial keeps.saves
  | _ => exact id

theorem modeToken_of_same (stage : next.stage = world.stage)
    (mode : next.config.mode = world.config.mode) : next.modeToken = world.modeToken := by
  rw [StrategyWorld.modeToken, StrategyWorld.modeToken, stage, mode]

theorem modeToken_of_settled (settled : world.Settled) (stage : next.stage = world.stage) :
    next.modeToken = world.modeToken := by
  rw [StrategyWorld.modeToken, StrategyWorld.modeToken, stage]
  cases reached : world.stage with
  | none => rfl
  | some stage =>
    rw [Option.map_some, Option.map_some, settled.stage stage reached]
    rfl

theorem ModeOwned.answer {credit : ModeCredit} (owned : ModeOwned world credit)
    (keeps : KeepsModes op) (settles : world.modeSettled op = true)
    (answered : world.answer op choice = some (reply, next)) : ModeOwned next credit := by
  have frame := answer_frame answered
  have stage := frame.stage keeps.stage
  have forcing := frame.forcing keeps.forcing
  have trades := frame.trades keeps.saves
  have held := frame.held keeps.held
  have entries := frame.entries keeps.enters
  rcases mode_answer settles answered with ⟨mode, changes⟩ | ⟨settled, none, changes⟩
  · refine ⟨?_, ?_, ?_, ?_, ?_, ?_, ?_⟩
    · rw [modeToken_of_same stage mode]
      exact owned.token
    · rw [forcing, mode]
      exact owned.forcing
    · rw [changes, mode]
      exact owned.copies
    · rw [held]
      exact owned.held
    · rw [changes]
      exact owned.modes.changes
    · rw [entries]
      exact owned.modes.entered
    · rw [changes, trades, mode]
      exact owned.modes.stable
  · have noCopies : credit.2.2 = 0 := by
      have few := owned.held
      rw [settled.held] at few
      exact Multiset.card_eq_zero.mp (Nat.le_zero.mp few)
    refine ⟨?_, ?_, fun _ mode member => ?_, ?_, ?_, ?_, fun _ trade member => ?_⟩
    · rw [modeToken_of_settled settled stage]
      exact owned.token
    · rw [owned.forcing, forcing, settled.forcing]
      rfl
    · rw [noCopies] at member
      exact absurd member (Multiset.notMem_zero mode)
    · rw [noCopies]
      exact Nat.zero_le _
    · rw [changes]
      intro active member
      rcases List.mem_append.mp member with before | latest
      · exact owned.modes.changes active before
      · exact List.mem_singleton.mp latest
    · rw [entries]
      exact owned.modes.entered
    · rw [trades, none] at member
      exact absurd member List.not_mem_nil

abbrev AnswersMode := Answers strategySystem changesSettled modeDiscipline

theorem modes_quiet {op : StrategyOp} (keeps : KeepsModes op) {credit : ModeCredit}
    {seen : StrategyWorld} :
    AnswersMode op credit seen (leaving credit) :=
  fun _ _ _ _ _ _ owned settles answered =>
    ⟨credit, trivial, owned.answer keeps settles answered, rfl⟩

end Quiet

/-! ### Stages -/

section Stages

variable {world next : StrategyWorld}

namespace ModeOwned

variable {copies : Multiset AutoTradingMode} {rest : ModeCredit}

theorem at_token {token : ModeToken} {forced : Multiset AutoTradingMode}
    (owned : ModeOwned world (({token}, forced, copies) + rest)) :
    world.modeToken = some token ∧ rest.1 = 0 := eq_of_unique owned.token

theorem at_stage {stage : CycleStage} {mode : Option AutoTradingMode}
    {forced : Multiset AutoTradingMode}
    (owned : ModeOwned world (({(stage, mode)}, forced, copies) + rest)) :
    world.stage = some stage ∧ mode = if stage.inEntry then some world.config.mode else none := by
  obtain ⟨reached, found, same⟩ := Option.map_eq_some_iff.mp owned.at_token.1
  cases same
  exact ⟨found, rfl⟩

theorem at_forced {mode : AutoTradingMode} {tokens : Multiset ModeToken}
    (owned : ModeOwned world ((tokens, {mode}, copies) + rest)) : mode = world.config.mode := by
  have forcing : {mode} + rest.2.1 = Multiset.replicate world.forcing world.config.mode :=
    owned.forcing
  have member : mode ∈ Multiset.replicate world.forcing world.config.mode := by
    rw [← forcing]
    exact Multiset.mem_add.mpr (Or.inl (Multiset.mem_singleton_self mode))
  exact Multiset.eq_of_mem_replicate member

theorem moveTo {token : ModeToken} (owned : ModeOwned world (({token}, 0, 0) + rest))
    (reached : CycleStage) (moved : next.stage = some reached)
    (mode : next.config.mode = world.config.mode) (changes : next.modeChanges = world.modeChanges)
    (forcing : next.forcing = world.forcing)
    (held : copies.card + world.held.length ≤ next.held.length)
    (inForce : world.modeChanges ≠ [] → ∀ mode ∈ copies, mode = world.config.mode)
    (modes : ModeStable next) :
    ModeOwned next (({(reached, if reached.inEntry then some world.config.mode else none)}, 0,
      copies) + rest) := by
  refine ⟨?_, ?_, fun changed mode' member => ?_, ?_, modes⟩
  · have none : rest.1 = 0 := owned.at_token.2
    rw [StrategyWorld.modeToken, moved, mode]
    show _ + rest.1 = _
    rw [none]
    exact add_zero _
  · rw [forcing, mode]
    exact owned.forcing
  · rw [changes] at changed
    rw [mode]
    rcases Multiset.mem_add.mp member with taken | other
    · exact inForce changed mode' taken
    · refine owned.copies changed mode' ?_
      exact Multiset.mem_add.mpr (Or.inr other)
  · have others : (0 + rest.2.2).card ≤ world.held.length := owned.held
    rw [zero_add] at others
    show (copies + rest.2.2).card ≤ _
    rw [Multiset.card_add]
    omega

end ModeOwned

variable (seen : StrategyWorld)

theorem modes_acquire : AnswersMode .acquireEvaluationLock 0 seen
      fun reply left _ => ∀ done, reply = .ok done → left = ({(.started, none)}, 0, 0) := by
  intro world rest choice reply next _ owned _ answered
  rw [zero_add] at owned
  simp only [strategySystem, answer] at answered
  split at answered
  · rename_i free
    obtain rfl := always_next answered
    have noOther : rest.1 = 0 := by
      rw [owned.token, StrategyWorld.modeToken, free, Option.map_none, unique_none]
    refine ⟨({(.started, none)}, 0, 0), trivial, ⟨?_, ?_, ?_, ?_, owned.modes.changes,
      owned.modes.entered, owned.modes.stable⟩, fun _ _ => rfl⟩
    · show {(CycleStage.started, none)} + rest.1 = _
      rw [noOther]
      exact add_zero _
    · exact (zero_add rest.2.1).trans owned.forcing
    · show _ → ∀ mode ∈ 0 + rest.2.2, _
      rw [zero_add]
      exact owned.copies
    · show (0 + rest.2.2).card ≤ _
      rw [zero_add]
      exact owned.held
  · cases answered

theorem modes_release {token : ModeToken} : AnswersMode .releaseEvaluationLock ({token}, 0, 0) seen
      fun _ _ _ => True := by
  intro world rest choice reply next _ owned _ answered
  have noOther : rest.1 = 0 := (ModeOwned.at_token owned).2
  obtain rfl := always_next answered
  refine ⟨0, trivial, ?_, trivial⟩
  rw [zero_add]
  refine ⟨noOther, ?_, ?_, ?_, owned.modes.changes, owned.modes.entered, owned.modes.stable⟩
  · exact (zero_add rest.2.1).symm.trans owned.forcing
  · have copies : _ → ∀ mode ∈ 0 + rest.2.2, _ := owned.copies
    rw [zero_add] at copies
    exact copies
  · have held : (0 + rest.2.2).card ≤ world.held.length := owned.held
    rw [zero_add] at held
    exact held

theorem modes_readManaged : AnswersMode (.getActiveTrades .management)
      ({(.started, none)}, 0, 0) seen fun reply left _ => match reply with
        | .ok active =>
            left = ({(.managing, none)}, 0, (active.map ActiveTrade.mode : Multiset AutoTradingMode))
        | .error _ => left = ({(.started, none)}, 0, 0) := by
  refine answers_committing (fun world rest _ owned _ => ?_) fun _ _ => ⟨trivial, rfl⟩
  refine ⟨_, trivial, owned.moveTo .managing rfl rfl rfl rfl ?_ (fun changed mode member => ?_)
    ⟨owned.modes.changes, owned.modes.entered, owned.modes.stable⟩, rfl⟩
  · simp [afterRead]
  · obtain ⟨trade, listed, rfl⟩ := List.mem_map.mp (Multiset.mem_coe.mp member)
    exact owned.modes.stable changed trade listed

theorem modes_readRemaining : AnswersMode (.getActiveTrades .entry)
      ({(.managing, none)}, 0, 0) seen fun reply left _ => match reply with
        | .ok _ => ∃ stored mode, left = ({(.seeking stored, some mode)}, 0, 0)
        | .error _ => left = ({(.managing, none)}, 0, 0) := by
  refine answers_committing (fun world rest _ owned _ => ?_) fun _ _ => ⟨trivial, rfl⟩
  refine ⟨_, trivial, owned.moveTo (.seeking world.trades) rfl rfl rfl rfl ?_
    (fun _ mode member => absurd member (Multiset.notMem_zero mode))
    ⟨owned.modes.changes, owned.modes.entered, owned.modes.stable⟩, world.trades, _, rfl⟩
  exact (Nat.zero_add _).le

theorem modes_gate {stored remaining : List ActiveTrade} {mode : Option AutoTradingMode}
    {feedHealthy : Bool} {seen : StrategyWorld} :
    AnswersMode (.passEntryGate remaining feedHealthy) ({(.seeking stored, mode)}, 0, 0) seen
      fun reply left _ => (∃ token, left = ({token}, 0, 0)) ∧ ∀ view, reply = .ok view →
        view.disarmed = none → view.memory.config.killSwitch = false →
          ∃ mode, left = ({(.entering stored, some mode)}, 0, 0) := by
  intro world rest choice reply next _ owned _ answered
  change world.answer (.passEntryGate remaining feedHealthy) choice = _ at answered
  have frame := answer_frame answered
  obtain ⟨rfl, rfl⟩ := Prod.mk.inj (always_cases answered)
  have sameMode := (sameTerms_passEntryGate world remaining feedHealthy).mode
  have sameChanges := frame.modeChanges id
  have modes : ModeStable (world.passEntryGate remaining feedHealthy).2 := by
    refine ⟨?_, ?_, ?_⟩
    · rw [sameChanges]
      exact owned.modes.changes
    · rw [frame.entries id]
      exact owned.modes.entered
    · rw [sameChanges, frame.trades id, sameMode]
      exact owned.modes.stable
  have reaches : ∀ reached, (world.passEntryGate remaining feedHealthy).2.stage = some reached →
      ModeOwned (world.passEntryGate remaining feedHealthy).2
        (({(reached, if reached.inEntry then some world.config.mode else none)}, 0, 0) + rest) := by
    intro reached moved
    refine owned.moveTo reached moved sameMode sameChanges (frame.forcing id) ?_
      (fun _ mode member => absurd member (Multiset.notMem_zero mode)) modes
    rw [frame.held id]
    exact (Nat.zero_add _).le
  have seeking := (ModeOwned.at_stage owned).1
  rcases passEntryGate_cases seeking remaining feedHealthy with
    ⟨disarmed, stage⟩ | ⟨on, stage⟩ | ⟨_, _, _, _, _, stage⟩
  · refine ⟨_, trivial, reaches _ stage, ⟨_, rfl⟩, fun view same none _ => ?_⟩
    cases same
    exact absurd none disarmed
  · refine ⟨_, trivial, reaches _ stage, ⟨_, rfl⟩, fun view same _ off => ?_⟩
    cases same
    rw [on] at off
    cases off
  · exact ⟨_, trivial, reaches _ stage, ⟨_, rfl⟩, fun _ _ _ _ => ⟨_, rfl⟩⟩

end Stages

/-! ### Copies in hand -/

section Copies

variable {world : StrategyWorld} {credit : ModeCredit} {trade : ActiveTrade}

/-- What is stored of a trade in the mode in force, or before any change of it, keeps the modes
stable. -/
theorem stable_putTrade (stable : world.modeChanges ≠ [] →
      ∀ trade ∈ getActiveTrades world.trades, trade.mode = world.config.mode)
    (inForce : world.modeChanges ≠ [] → trade.mode = world.config.mode) :
    world.modeChanges ≠ [] →
      ∀ other ∈ getActiveTrades (putTrade world.trades trade), other.mode = world.config.mode := by
  intro changed other member
  obtain ⟨stored, isOpen⟩ := mem_getActiveTrades.mp member
  rcases mem_putTrade.mp stored with ⟨before, _⟩ | rfl
  · exact stable changed other (mem_getActiveTrades.mpr ⟨before, isOpen⟩)
  · exact inForce changed

theorem modes_save {purpose : SavePurpose} (copy : trade.mode ∈ credit.2.2)
    (notEntry : purpose ≠ .entry ∧ purpose ≠ .forcedEntry) (seen : StrategyWorld) :
    AnswersMode (.saveTrade trade purpose) credit seen (leaving credit) := by
  refine answers_committing (fun world rest _ owned _ => ?_) fun _ _ => ⟨trivial, rfl⟩
  have inForce : world.modeChanges ≠ [] → trade.mode = world.config.mode := fun changed =>
    owned.copies changed trade.mode (Multiset.mem_add.mpr (Or.inl copy))
  refine ⟨credit, trivial, ?_, rfl⟩
  have stable := stable_putTrade owned.modes.stable inForce
  cases purpose with
  | entry => exact absurd rfl notEntry.1
  | forcedEntry => exact absurd rfl notEntry.2
  | reference | managed | closing =>
    exact ⟨owned.token, owned.forcing, owned.copies, owned.held, owned.modes.changes,
      owned.modes.entered, stable⟩

theorem modes_managed {op : StrategyOp} (copy : trade.mode ∈ credit.2.2)
    (managed : IsManagement trade op) (seen : StrategyWorld) :
    AnswersMode op credit seen (leaving credit) := by
  cases op with
  | saveTrade saved purpose =>
    refine modes_save (managed.1.mode ▸ copy) ?_ seen
    rcases managed.2 with rfl | rfl
    · exact ⟨nofun, nofun⟩
    · exact ⟨nofun, nofun⟩
  | _ => first | exact modes_quiet ⟨id, id, id, id⟩ | exact managed.elim

theorem length_sub_le_length_diff (held tradeIds : List String) :
    held.length - tradeIds.length ≤ (held.diff tradeIds).length := by
  induction tradeIds generalizing held with
  | nil => exact Nat.sub_le _ _
  | cons tradeId rest inductionHypothesis =>
    have others := inductionHypothesis (held.erase tradeId)
    have erased : held.length - 1 ≤ (held.erase tradeId).length := by
      rw [List.length_erase]
      split <;> omega
    rw [List.diff_cons, List.length_cons]
    omega

theorem modes_putDown {tokens : Multiset ModeToken} {forced copies : Multiset AutoTradingMode}
    {tradeIds : List String} (count : tradeIds.length = copies.card) {seen : StrategyWorld} :
    AnswersMode (.putDown tradeIds) (tokens, forced, copies)
      seen fun _ left _ => left = (tokens, forced, 0) := by
  intro world rest choice reply next _ owned _ answered
  obtain rfl := always_next answered
  have held : (copies + rest.2.2).card ≤ world.held.length := owned.held
  rw [Multiset.card_add] at held
  refine ⟨(tokens, forced, 0), trivial, ⟨owned.token, owned.forcing, fun changed mode member => ?_,
    ?_, owned.modes.changes, owned.modes.entered, owned.modes.stable⟩, rfl⟩
  · refine owned.copies changed mode (Multiset.mem_add.mpr (Or.inr ?_))
    exact (Multiset.mem_add.mp member).resolve_left (Multiset.notMem_zero mode)
  · show (0 + rest.2.2).card ≤ (world.held.diff tradeIds).length
    have enough := length_sub_le_length_diff world.held tradeIds
    rw [zero_add]
    omega

theorem modes_endEntry {tokens : Multiset ModeToken} {forced : Multiset AutoTradingMode}
    {mode : AutoTradingMode} {tradeId : String} {seen : StrategyWorld} :
    AnswersMode (.endEntry tradeId)
      (tokens, forced, {mode}) seen fun _ left _ => left = (tokens, forced, 0) := by
  intro world rest choice reply next _ owned _ answered
  obtain rfl := always_next answered
  have held : ({mode} + rest.2.2).card ≤ world.held.length := owned.held
  rw [Multiset.card_add, Multiset.card_singleton] at held
  refine ⟨(tokens, forced, 0), trivial, ⟨owned.token, owned.forcing, fun changed mode member => ?_,
    ?_, owned.modes.changes, owned.modes.entered, owned.modes.stable⟩, rfl⟩
  · refine owned.copies changed mode (Multiset.mem_add.mpr (Or.inr ?_))
    exact (Multiset.mem_add.mp member).resolve_left (Multiset.notMem_zero mode)
  · show (0 + rest.2.2).card ≤ (world.held.erase tradeId).length
    rw [zero_add, List.length_erase]
    split <;> omega

theorem modes_readExit {tradeId : String} {seen : StrategyWorld} :
    AnswersMode (.getActiveTrades (.exit tradeId)) 0 seen
      fun reply left _ => ∀ active target, reply = .ok active →
        active.find? (fun trade => decide (trade.tradeId = tradeId)) = some target →
          left = (0, 0, {target.mode}) := by
  intro world rest choice reply next _ owned _ answered
  rw [zero_add] at owned
  rcases committing_cases answered with ⟨rfl, rfl⟩ | ⟨⟨error, rfl⟩, rfl⟩
  · cases found : (getActiveTrades world.trades).find? fun trade =>
        decide (trade.tradeId = tradeId) with
    | none =>
      have absent : tradeId ∉ (getActiveTrades world.trades).map ActiveTrade.tradeId := by
        intro member
        obtain ⟨trade, listed, same⟩ := List.mem_map.mp member
        exact absurd (decide_eq_true same) (List.find?_eq_none.mp found trade listed)
      refine ⟨0, trivial, ?_, fun active target same targeted => ?_⟩
      · rw [zero_add, afterRead, if_neg absent]
        exact owned
      · cases same
        rw [found] at targeted
        cases targeted
    | some target =>
      have listed := List.mem_of_find?_eq_some found
      have present : tradeId ∈ (getActiveTrades world.trades).map ActiveTrade.tradeId := by
        have same := List.find?_some found
        exact List.mem_map.mpr ⟨target, listed, of_decide_eq_true same⟩
      refine ⟨(0, 0, {target.mode}), trivial, ?_, fun active other same targeted => ?_⟩
      · rw [afterRead, if_pos present]
        refine ⟨?_, ?_, fun changed mode member => ?_, ?_, owned.modes.changes,
          owned.modes.entered, owned.modes.stable⟩
        · exact (zero_add rest.1).trans owned.token
        · exact (zero_add rest.2.1).trans owned.forcing
        · rcases Multiset.mem_add.mp member with taken | other
          · rw [Multiset.mem_singleton.mp taken]
            exact owned.modes.stable changed target listed
          · exact owned.copies changed mode other
        · have held := owned.held
          show ({target.mode} + rest.2.2).card ≤ (tradeId :: world.held).length
          rw [Multiset.card_add, Multiset.card_singleton, List.length_cons]
          omega
      · cases same
        rw [found] at targeted
        rw [Option.some.inj targeted]
  · refine ⟨0, trivial, (zero_add rest).symm ▸ owned, fun active target same => ?_⟩
    cases same

end Copies

/-! ### Entries -/

section Entries

variable {mode : AutoTradingMode} {trade : ActiveTrade}

theorem modeStable_savedTrade {world : StrategyWorld} {purpose : SavePurpose}
    (modes : ModeStable world) (inForce : trade.mode = world.config.mode)
    (enters : purpose = .entry ∨ purpose = .forcedEntry) :
    ModeStable (world.savedTrade trade purpose) := by
  have recorded : (world.savedTrade trade purpose).entries =
      world.entries ++ [⟨trade, world.trades, world.config, world.engaged⟩] := by
    rcases enters with rfl | rfl
    · rfl
    · rfl
  have stored : (world.savedTrade trade purpose).trades = putTrade world.trades trade := by
    rcases enters with rfl | rfl
    · rfl
    · rfl
  have changes : (world.savedTrade trade purpose).modeChanges = world.modeChanges := by
    rcases enters with rfl | rfl
    · rfl
    · rfl
  refine ⟨?_, fun record member => ?_, ?_⟩
  · rw [changes]
    exact modes.changes
  · rw [recorded] at member
    rcases Stored.mem_concat.mp member with before | rfl
    · exact modes.entered record before
    · exact inForce
  · rw [changes, stored, config_savedTrade]
    exact stable_putTrade modes.stable fun _ => inForce

theorem modes_enterSignal {stored : List ActiveTrade} (same : trade.mode = mode)
    {seen : StrategyWorld} :
    AnswersMode (.saveTrade trade .entry)
      ({(.entering stored, some mode)}, 0, 0) seen fun reply left _ => match reply with
        | .ok _ => left = ({(.entered, some mode)}, 0, {mode})
        | .error _ => left = ({(.entering stored, some mode)}, 0, 0) := by
  refine answers_committing (fun world rest _ owned _ => ?_) fun _ _ => ⟨trivial, rfl⟩
  have inForce : mode = world.config.mode := Option.some.inj (ModeOwned.at_stage owned).2
  have modes := modeStable_savedTrade owned.modes (same.trans inForce) (Or.inl rfl)
  have held : Multiset.card {mode} + world.held.length ≤
      (world.savedTrade trade .entry).held.length := by
    rw [Multiset.card_singleton, Nat.add_comm]
    exact le_refl _
  have sameMode : (world.savedTrade trade .entry).config.mode = world.config.mode := by
    rw [config_savedTrade]
  have moved := ModeOwned.moveTo owned .entered rfl sameMode rfl rfl held
    (fun _ other member => (Multiset.mem_singleton.mp member).trans inForce) modes
  refine ⟨({(CycleStage.entered, some mode)}, 0, {mode}), trivial, ?_, rfl⟩
  rw [inForce] at moved ⊢
  exact moved

theorem modes_enterForced (same : trade.mode = mode) {seen : StrategyWorld} :
    AnswersMode (.saveTrade trade .forcedEntry)
      (0, {mode}, 0) seen fun reply left _ => match reply with
        | .ok _ => left = (0, {mode}, {mode})
        | .error _ => left = (0, {mode}, 0) := by
  refine answers_committing (fun world rest _ owned _ => ?_) fun _ _ => ⟨trivial, rfl⟩
  have inForce : mode = world.config.mode := ModeOwned.at_forced owned
  have modes := modeStable_savedTrade owned.modes (same.trans inForce) (Or.inr rfl)
  have held : (0 + rest.2.2).card ≤ world.held.length := owned.held
  rw [zero_add] at held
  refine ⟨(0, {mode}, {mode}), trivial, ⟨owned.token, owned.forcing,
    fun changed other member => ?_, ?_, modes⟩, rfl⟩
  · rcases Multiset.mem_add.mp member with taken | before
    · exact (Multiset.mem_singleton.mp taken).trans inForce
    · exact owned.copies changed other (Multiset.mem_add.mpr (Or.inr before))
  · show ({mode} + rest.2.2).card ≤ (trade.tradeId :: world.held).length
    rw [Multiset.card_add, Multiset.card_singleton, List.length_cons]
    omega

variable (seen : StrategyWorld)

theorem modes_beginForced : AnswersMode .beginForceEntry 0 seen
      fun _ left _ => ∃ mode, left = (0, {mode}, 0) := by
  intro world rest choice reply next _ owned _ answered
  rw [zero_add] at owned
  obtain rfl := always_next answered
  refine ⟨(0, {world.config.mode}, 0), trivial, ⟨?_, ?_, ?_, ?_, owned.modes.changes,
    owned.modes.entered, owned.modes.stable⟩, _, rfl⟩
  · exact (zero_add rest.1).trans owned.token
  · show {world.config.mode} + rest.2.1 =
      Multiset.replicate (world.forcing + 1) world.config.mode
    rw [owned.forcing, Multiset.replicate_succ]
    exact Multiset.singleton_add _ _
  · show _ → ∀ mode ∈ 0 + rest.2.2, _
    rw [zero_add]
    exact owned.copies
  · show (0 + rest.2.2).card ≤ _
    rw [zero_add]
    exact owned.held

theorem modes_endForced : AnswersMode .endForceEntry (0, {mode}, 0) seen
      fun _ _ _ => True := by
  intro world rest choice reply next _ owned _ answered
  have inForce : mode = world.config.mode := ModeOwned.at_forced owned
  obtain rfl := always_next answered
  have forcing : {mode} + rest.2.1 = Multiset.replicate world.forcing world.config.mode :=
    owned.forcing
  refine ⟨0, trivial, ?_, trivial⟩
  rw [zero_add]
  refine ⟨(zero_add rest.1).symm.trans owned.token, ?_, ?_, ?_, owned.modes.changes,
    owned.modes.entered, owned.modes.stable⟩
  · show rest.2.1 = Multiset.replicate (world.forcing - 1) world.config.mode
    cases count : world.forcing with
    | zero =>
      rw [count, Multiset.replicate_zero, Multiset.singleton_add] at forcing
      exact absurd forcing Multiset.cons_ne_zero
    | succ others =>
      rw [count, Multiset.replicate_succ, inForce, Multiset.singleton_add] at forcing
      exact (Multiset.cons_inj_right _).mp forcing
  · have copies : _ → ∀ mode ∈ 0 + rest.2.2, _ := owned.copies
    rw [zero_add] at copies
    exact copies
  · have held : (0 + rest.2.2).card ≤ world.held.length := owned.held
    rw [zero_add] at held
    exact held

/-- What a memory tells a task that owns the mode it will enter in. -/
def modeKnows (credit : ModeCredit) (memory : Memory) : Prop :=
  ∃ mode, ((∃ stored, credit = ({(.entering stored, some mode)}, 0, 0)) ∨
    credit = (0, {mode}, 0)) ∧ memory.config.mode = mode

theorem modes_readSignal {stored : List ActiveTrade} : AnswersMode .readMemory
      ({(.entering stored, some mode)}, 0, 0) seen
      fun reply left _ => left = ({(.entering stored, some mode)}, 0, 0) ∧
        ∀ memory, reply = .ok memory → modeKnows ({(.entering stored, some mode)}, 0, 0) memory := by
  intro world rest choice reply next _ owned _ answered
  have inForce : mode = world.config.mode := Option.some.inj (ModeOwned.at_stage owned).2
  obtain ⟨rfl, rfl⟩ := Prod.mk.inj (always_cases answered)
  refine ⟨_, trivial, owned, rfl, fun memory same => ?_⟩
  cases same
  exact ⟨mode, Or.inl ⟨stored, rfl⟩, inForce.symm⟩

theorem modes_readForced : AnswersMode .readMemory (0, {mode}, 0) seen
      fun reply left _ => left = (0, {mode}, 0) ∧
        ∀ memory, reply = .ok memory → modeKnows (0, {mode}, 0) memory := by
  intro world rest choice reply next _ owned _ answered
  have inForce : mode = world.config.mode := ModeOwned.at_forced owned
  obtain ⟨rfl, rfl⟩ := Prod.mk.inj (always_cases answered)
  refine ⟨_, trivial, owned, rfl, fun memory same => ?_⟩
  cases same
  exact ⟨mode, Or.inr rfl, inForce.symm⟩

end Entries

/-! ### Every task -/

/-- What a task owns while its entry is dispatched: beside what it entered by, the copy. -/
def modeDispatched : EntryPath → AutoTradingMode → ModeCredit
  | .cycle, mode => ({(.entered, some mode)}, 0, {mode})
  | .forced, mode => (0, {mode}, {mode})

/-- What a task owns in each phase. -/
def modeOwns : Phase → ModeCredit → Prop
  | .started, credit => credit = ({(.started, none)}, 0, 0)
  | .managing active, credit | .managed active, credit =>
      credit = ({(.managing, none)}, 0, (active.map ActiveTrade.mode : Multiset AutoTradingMode))
  | .seeking _, credit => ∃ stored mode, credit = ({(.seeking stored, some mode)}, 0, 0)
  | .entering .cycle, credit => ∃ stored mode, credit = ({(.entering stored, some mode)}, 0, 0)
  | .entering .forced, credit | .finished .forced, credit => ∃ mode, credit = (0, {mode}, 0)
  | .entered path trade, credit | .ordered path trade _, credit | .completed path trade, credit
  | .failed path trade, credit => credit = modeDispatched path trade.mode
  | .finished .cycle, credit => ∃ token, credit = ({token}, 0, 0)

theorem keepsModes_of_isIncidental {op : StrategyOp} (incidental : IsIncidental op) :
    KeepsModes op := by
  cases op with
  | _ => first | exact ⟨id, id, id, id⟩ | exact incidental.elim

theorem keepsModes_of_isDispatch {trade : ActiveTrade} (op : StrategyOp)
    (dispatch : IsDispatch trade op) : KeepsModes op := by
  cases op with
  | _ => first | exact ⟨id, id, id, id⟩ | exact dispatch.elim

theorem keepsModes_of_isControl {op : StrategyOp} (control : IsControl op) : KeepsModes op := by
  cases op with
  | getActiveTrades reader =>
    obtain rfl : reader = .looking := control
    refine ⟨?_, id, id, fun moves => moves.2 rfl⟩
    rintro (same | same) <;> cases same
  | _ => first | exact ⟨id, id, id, id⟩ | exact control.elim

theorem modeDispatched_cases (path : EntryPath) (mode : AutoTradingMode) :
    ∃ tokens forced, modeDispatched path mode = (tokens, forced, {mode}) ∧
      modeOwns (.finished path) (tokens, forced, 0) := by
  cases path with
  | cycle | forced => exact ⟨_, _, rfl, _, rfl⟩

theorem mode_of_evidence {mode : AutoTradingMode} {credit : ModeCredit} {path : EntryPath}
    {trade : ActiveTrade} {gated : Memory → Prop} {lists : List ActiveTrade → Prop}
    (evidence : EntryEvidence (modeKnows credit) gated lists path trade)
    (owned : (∃ stored, credit = ({(.entering stored, some mode)}, 0, 0)) ∨
      credit = (0, {mode}, 0)) : trade.mode = mode := by
  obtain ⟨memory, ⟨other, owns, inMemory⟩, same⟩ := evidence.mode
  rw [same, inMemory]
  rcases owned with ⟨stored, rfl⟩ | rfl
  · rcases owns with ⟨_, sameCredit⟩ | sameCredit
    · have tokens := Multiset.singleton_inj.mp (Prod.mk.inj sameCredit).1
      exact (Option.some.inj (Prod.mk.inj tokens).2).symm
    · exact absurd (Prod.mk.inj sameCredit).1 (Multiset.singleton_ne_zero _)
  · rcases owns with ⟨_, sameCredit⟩ | sameCredit
    · exact absurd (Prod.mk.inj sameCredit).1.symm (Multiset.singleton_ne_zero _)
    · exact (Multiset.singleton_inj.mp (Prod.mk.inj (Prod.mk.inj sameCredit).2).1).symm

def modeRules : EntryRules changesSettled modeDiscipline where
  owns := modeOwns
  knows := modeKnows
  gated _ _ := True
  lists _ _ := True
  incidental seen kind := modes_quiet (keepsModes_of_isIncidental kind)
  mayEnd := by
    intro phase path credit owned mayEnd
    cases mayEnd with
    | started | managed => exact ⟨_, owned⟩
    | seeking remaining =>
      obtain ⟨stored, mode, owned⟩ := owned
      exact ⟨_, owned⟩
    | entering path =>
      cases path with
      | cycle =>
        obtain ⟨stored, mode, owned⟩ := owned
        exact ⟨_, owned⟩
      | forced => exact owned
    | finished path => exact owned
  acquire := modes_acquire
  readManaged := by
    rintro _ seen rfl
    refine Answers.weaken (modes_readManaged seen) fun reply left world _ read => ?_
    cases reply with
    | ok active => exact read
    | error error => exact ⟨_, read⟩
  manage := by
    rintro credit active seen owned
    have caches : KeepsModes (.cacheActiveTrades active) := ⟨id, id, id, id⟩
    refine Owns.weaken (owns_managing
      (fun op => KeepsModes op ∨ ∃ trade ∈ active, IsManagement trade op)
      (fun op world fits => ?_) (Or.inl caches)
      fun trade member => (within_evaluateActiveTrade trade).mono
        fun op managed => Or.inr ⟨trade, member, managed⟩)
      fun result left world _ same => ?_
    · rcases fits with keeps | ⟨trade, member, managed⟩
      · exact modes_quiet keeps
      · refine modes_managed ?_ managed world
        rw [owned]
        exact Multiset.mem_coe.mpr (List.mem_map_of_mem member)
    · exact same ▸ owned
  putDown := by
    rintro credit active seen rfl
    have count : (active.map ActiveTrade.tradeId).length =
        (active.map ActiveTrade.mode : Multiset AutoTradingMode).card := by simp
    exact modes_putDown count
  readRemaining := by
    rintro _ seen rfl
    refine Answers.weaken (modes_readRemaining seen) fun reply left world _ read => ?_
    cases reply with
    | ok remaining => exact read
    | error error => exact ⟨_, read⟩
  gate := by
    rintro credit remaining feedHealthy seen ⟨stored, mode, rfl⟩
    refine Answers.weaken modes_gate fun reply left world _ passed => ?_
    refine ⟨passed.1, fun view same notDisarmed off => ⟨⟨stored, ?_⟩, trivial⟩⟩
    exact passed.2 view same notDisarmed off
  list seen _ := Answers.weaken (modes_quiet ⟨id, id, id, id⟩)
    fun _ _ _ _ same => ⟨same, fun _ _ => trivial⟩
  read := by
    rintro credit path seen owned
    cases path with
    | cycle =>
      obtain ⟨stored, mode, rfl⟩ := owned
      exact modes_readSignal seen
    | forced =>
      obtain ⟨mode, rfl⟩ := owned
      exact modes_readForced seen
  enter := by
    rintro credit path trade seen owned evidence
    cases path with
    | cycle =>
      obtain ⟨stored, mode, rfl⟩ := owned
      obtain rfl := mode_of_evidence evidence (Or.inl ⟨stored, rfl⟩)
      refine Answers.weaken (modes_enterSignal rfl) fun reply left world _ entered => ?_
      cases reply with
      | ok saved => exact entered
      | error error => exact ⟨_, entered⟩
    | forced =>
      obtain ⟨mode, rfl⟩ := owned
      obtain rfl := mode_of_evidence evidence (Or.inr rfl)
      refine Answers.weaken (modes_enterForced rfl) fun reply left world _ entered => ?_
      cases reply with
      | ok saved => exact entered
      | error error => exact ⟨_, entered⟩
  dispatch := by
    rintro credit path trade op seen owned kind
    refine Answers.weaken (modes_quiet (keepsModes_of_isDispatch op kind)) ?_
    rintro reply left world _ rfl
    cases reply with
    | ok value => exact owned
    | error error => exact owned
  order := by
    rintro credit path trade intent seen owned _ _ _
    refine Answers.weaken (modes_quiet ⟨id, id, id, id⟩) ?_
    rintro reply left world _ rfl
    cases reply with
    | ok orderId => exact owned
    | error error => exact owned
  refer := by
    rintro credit path trade orderId seen owned
    have copy : ({ trade with entryOrderId := some orderId, state := .entryPending } :
        ActiveTrade).mode ∈ credit.2.2 := by
      obtain ⟨tokens, forced, same, _⟩ := modeDispatched_cases path trade.mode
      rw [show credit = _ from owned, same]
      exact Multiset.mem_singleton_self _
    have notEntry : SavePurpose.reference ≠ .entry ∧ SavePurpose.reference ≠ .forcedEntry :=
      ⟨nofun, nofun⟩
    refine Answers.weaken (modes_save copy notEntry seen) ?_
    rintro reply left world _ rfl
    cases reply with
    | ok saved => exact owned
    | error error => exact owned
  simulated owned _ := owned
  endEntry := by
    rintro credit path trade seen owned
    obtain ⟨tokens, forced, same, finished⟩ := modeDispatched_cases path trade.mode
    obtain rfl : credit = (tokens, forced, {trade.mode}) := (owned.elim id id : _ = _).trans same
    exact Answers.weaken modes_endEntry fun _ left _ _ same => same ▸ finished
  release := by
    rintro credit seen ⟨token, rfl⟩
    exact modes_release seen
  beginForced seen := Answers.weaken (modes_beginForced seen) fun _ _ _ _ begun _ _ => begun
  endForced := by
    rintro credit seen ⟨mode, rfl⟩
    exact modes_endForced seen

theorem modes_manualExitTrade (tradeId reason : String) {seen : StrategyWorld} :
    Owns strategySystem changesSettled modeDiscipline (manualExitTrade tradeId reason) 0 seen
      fun _ _ _ => True := by
  refine Owns.await modes_readExit fun reply left world _ read => ?_
  cases reply with
  | error error => trivial
  | ok active =>
    dsimp only
    split
    · refine Owns.weaken (Owns.of_within world (fun op next _ keeps => modes_quiet keeps)
        ((within_perform ⟨id, id, id, id⟩).bind fun _ => trivial)) fun _ _ _ _ _ => trivial
    · rename_i target found
      obtain rfl := read active target rfl found
      refine owns_finallyDo (Owns.weaken (Owns.of_within world
        (fun op next _ managed => modes_managed (Multiset.mem_singleton_self _) managed next)
        (within_exitTrade target reason)) ?_)
      rintro result last final _ rfl
      exact Answers.weaken (modes_putDown rfl) fun _ _ _ _ _ => trivial

theorem modes_sound : Sound strategySystem changesSettled modeDiscipline := by
  refine modeRules.sound (fun world tradeId reason _ => modes_manualExitTrade tradeId reason)
    (fun op world control => modes_quiet (keepsModes_of_isControl control))
    fun world total owned restarts => ?_
  have same : world.loadedConfig.mode = world.config.mode := of_decide_eq_true restarts
  refine ⟨rfl, rfl, fun _ mode member => absurd member (Multiset.notMem_zero mode), le_refl 0,
    owned.modes.changes, owned.modes.entered, fun changed trade member => ?_⟩
  exact (owned.modes.stable changed trade member).trans same.symm

/-! ### Every run -/

/-- From the first start on, the mode is stable while positions are active, as long as it changes
only in a settled service. -/
theorem mode_stable (stored : StrategyWorld)
    {last : Config StrategyOp StrategyReply Raised StrategyWorld}
    (reaches : strategySystem.Reaches changesSettled ⟨stored.firstStart, []⟩ last) :
    ModeStable last.world := by
  have first : ModeOwned stored.firstStart 0 :=
    ⟨rfl, rfl, fun changed => absurd rfl changed, le_refl 0,
      fun _ member => absurd member List.not_mem_nil,
      fun _ member => absurd member List.not_mem_nil, fun changed => absurd rfl changed⟩
  obtain ⟨credits, owned, _⟩ := (owned_idle first).reaches modes_sound reaches
  exact owned.modes

/-- What a run that ends shows of the modes: how often it changed, and of each entry the mode of the
trade and the mode in force. -/
def modesShown (config : Config StrategyOp StrategyReply Raised StrategyWorld) :
    Nat × List (AutoTradingMode × AutoTradingMode) :=
  (config.world.modeChanges.length,
    config.world.entries.map fun record => (record.trade.mode, record.config.mode))

/-- The mode is switched, and then a cycle enters a trade in the new mode. -/
theorem mode_stable_switched :
    ∃ last, strategySystem.Reaches changesSettled ⟨(storedWorld {} []).firstStart, []⟩ last ∧
      modesShown last = (1, [(.shadowOnly, .shadowOnly)]) ∧ ModeStable last.world := by
  have runs : (strategySystem.run changesSettled ⟨(storedWorld {} []).firstStart, []⟩
      ([.start (.setExecutionMode .shadowOnly), .resume 0 .ok, .resume 0 .ok] ++
        enteringCycle 1)).map modesShown = some (1, [(.shadowOnly, .shadowOnly)]) := by
    decide +kernel
  obtain ⟨last, reaches, shown⟩ := System.reaches_of_map runs
  exact ⟨last, reaches, shown, mode_stable _ reaches⟩

/-- The mode is switched while the trade of a forced entry is about to be stored, so the trade is
stored in the mode before. -/
theorem mode_switched_during_entry :
    ∃ last, strategySystem.Reaches Condition.unrestricted
      ⟨(storedWorld {} []).firstStart, []⟩ last ∧ ¬ModeStable last.world := by
  have runs : (strategySystem.run Condition.unrestricted ⟨(storedWorld {} []).firstStart, []⟩
      ((forcedEntryAt 0 0).dropLast ++ [.start (.setExecutionMode .shadowOnly), .resume 1 .ok,
        .resume 1 .ok, .resume 0 .ok])).map modesShown = some (1, [(.paper, .shadowOnly)]) := by
    decide +kernel
  obtain ⟨last, reaches, shown⟩ := System.reaches_of_map runs
  refine ⟨last, reaches, fun stable => ?_⟩
  have entries : last.world.entries.map (fun record => (record.trade.mode, record.config.mode)) =
      [(.paper, .shadowOnly)] := congrArg Prod.snd shown
  have member : (AutoTradingMode.paper, AutoTradingMode.shadowOnly) ∈ last.world.entries.map
      fun record => (record.trade.mode, record.config.mode) := by
    rw [entries]
    exact List.mem_singleton_self _
  obtain ⟨record, recorded, same⟩ := List.mem_map.mp member
  obtain ⟨entered, inForce⟩ := Prod.mk.inj same
  have modes := stable.entered record recorded
  rw [entered, inForce] at modes
  cases modes

end BreezeTrading
