/-
This file proves the limits of the chronological replay. Whatever the lifecycle
replayer and the registry answer or raise, and in whatever order the operations
are called, the counters stay within the limits of the configuration, no entry
is accepted once the chronology is indeterminate, and the economics of a signal
are those of the first resolved record applied for it.
-/

import BreezeTrading.Lib.Distinct
import BreezeTrading.Strategy.ReplayExecution
import Mathlib.Algebra.BigOperators.Group.List.Lemmas

namespace BreezeTrading

open Stored

namespace ChronologicalReplayExecutor

variable {World Cursor : Type}

/-! ### What most calls leave alone -/

/-- The fields the economics of the records are added to. -/
def economics (state : ChronologicalExecutionState Cursor) :
    Finset String × ℚ × Bool × Tally String × Option Int × Option Int :=
  (state.executionEconomicsAppliedSignalIds, state.realizedNetPnlTotal,
    state.realizedNetPnlComplete, state.failedEntriesByStrategy, state.lastLossExitTime,
    state.lossCooldownUntil)

/-- Neither the counted entries nor the economics change, and an indeterminate chronology
stays indeterminate. -/
structure Keeps (before after : ChronologicalReplayExecutor World Cursor) : Prop where
  riskConfig : after.riskConfig = before.riskConfig
  dailyEntries : after.state.dailyEntries = before.state.dailyEntries
  byStrategy : after.state.dailyEntriesByStrategy = before.state.dailyEntriesByStrategy
  economics : economics after.state = economics before.state
  indeterminate : before.state.chronologyIndeterminate = true →
    after.state.chronologyIndeterminate = true

namespace Keeps

variable {first second third : ChronologicalReplayExecutor World Cursor}

theorem rfl : Keeps first first := ⟨Eq.refl _, Eq.refl _, Eq.refl _, Eq.refl _, id⟩

theorem trans (one : Keeps first second) (two : Keeps second third) : Keeps first third where
  riskConfig := two.riskConfig.trans one.riskConfig
  dailyEntries := two.dailyEntries.trans one.dailyEntries
  byStrategy := two.byStrategy.trans one.byStrategy
  economics := two.economics.trans one.economics
  indeterminate marked := two.indeterminate (one.indeterminate marked)

theorem setActive (kept : Keeps first second)
    (positions : List (HistoricalManagedReplayPosition Cursor)) :
    Keeps first (second.setActive positions) :=
  ⟨kept.riskConfig, kept.dailyEntries, kept.byStrategy, kept.economics, kept.indeterminate⟩

theorem world (kept : Keeps first second) (world : World) :
    Keeps first { second with world := world } :=
  ⟨kept.riskConfig, kept.dailyEntries, kept.byStrategy, kept.economics, kept.indeterminate⟩

theorem markIndeterminate (kept : Keeps first second) (record : ReplayManifestRecord) :
    Keeps first (second.markIndeterminate record) :=
  ⟨kept.riskConfig, kept.dailyEntries, kept.byStrategy, kept.economics, fun _ => Eq.refl true⟩

end Keeps

/-- Nor do the active positions. -/
structure Leaves (before after : ChronologicalReplayExecutor World Cursor) : Prop
    extends Keeps before after where
  activePositions : after.state.activePositions = before.state.activePositions

theorem Leaves.rfl {executor : ChronologicalReplayExecutor World Cursor} :
    Leaves executor executor := ⟨Keeps.rfl, Eq.refl _⟩

/-! ### One call -/

section

variable (executor : ChronologicalReplayExecutor World Cursor) (now : Int)

theorem noteDailyLoss_leaves (decision : RiskGateDecision) :
    Leaves executor (executor.noteDailyLoss now decision) := by
  unfold noteDailyLoss
  split
  · exact ⟨⟨rfl, rfl, rfl, rfl, id⟩, rfl⟩
  · exact Leaves.rfl

theorem globalEntryGate_leaves : Leaves executor (executor.globalEntryGate now).2 := by
  unfold globalEntryGate
  split
  · exact Leaves.rfl
  · exact noteDailyLoss_leaves executor now _

/-- The gate lets an entry through only below the limits, after the cooldown and in a known
chronology. -/
theorem globalEntryGate_allowed (allowed : (executor.globalEntryGate now).1.allowed = true) :
    executor.state.chronologyIndeterminate = false ∧
      executor.state.activePositions.length < executor.riskConfig.maxConcurrentPositions ∧
      (∀ last ∈ executor.state.lastLossExitTime, cooldownEnd executor.riskConfig last ≤ now) ∧
      executor.state.dailyEntries < executor.riskConfig.maxTradesPerDay := by
  unfold globalEntryGate at allowed
  split at allowed
  · cases allowed
  · rename_i known
    have every : ∀ decision ∈ executor.gateDecisions now, decision.allowed = true := by
      cases found : (executor.gateDecisions now).find? fun decision => !decision.allowed with
      | none =>
        intro decision member
        simpa using List.find?_eq_none.mp found decision member
      | some blocked =>
        have refused := List.find?_some found
        rw [found, Option.getD_some] at allowed
        rw [allowed] at refused
        cases refused
    simp only [gateDecisions, List.forall_mem_cons, checkPositionCapacity_allowed,
      checkLossCooldown_allowed, checkDailyTradeLimit_allowed] at every
    exact ⟨by simpa using known, every.1, every.2.1, every.2.2.2.1⟩

end

section

variable (collaborators : Collaborators World Cursor)

section

variable (executor : ChronologicalReplayExecutor World Cursor) (record : ReplayManifestRecord)
  (barEnd : Int)

theorem completeRecord_leaves :
    Leaves executor (completeRecord collaborators executor record barEnd).2 := by
  simp only [completeRecord]
  split
  · exact ⟨⟨rfl, rfl, rfl, rfl, id⟩, rfl⟩
  · split
    · exact ⟨⟨rfl, rfl, rfl, rfl, id⟩, rfl⟩
    · exact ⟨⟨rfl, rfl, rfl, rfl, id⟩, rfl⟩

theorem settleRecord_leaves :
    Leaves executor (settleRecord collaborators executor record barEnd).2 := by
  unfold settleRecord
  split
  · exact completeRecord_leaves collaborators executor record barEnd
  · exact ⟨Keeps.rfl.markIndeterminate record, rfl⟩
  · exact ⟨Keeps.rfl.markIndeterminate record, rfl⟩
  · exact Leaves.rfl
  · exact Leaves.rfl

end

/-- The loop over the active positions, by induction on those not yet managed: it ends with
at most as many positions as there were. -/
theorem manageFrom_keeps (bar : Candle) (running : List Candle)
    (positions : List (HistoricalManagedReplayPosition Cursor)) :
    ∀ (executor : ChronologicalReplayExecutor World Cursor)
      (managed survivors : List (HistoricalManagedReplayPosition Cursor))
      (closed : List ReplayManifestRecord), survivors.length ≤ managed.length →
      Keeps executor
          (manageFrom collaborators bar running executor managed survivors closed positions).2 ∧
        (manageFrom collaborators bar running executor managed survivors closed
          positions).2.state.activePositions.length ≤ managed.length + positions.length := by
  induction positions with
  | nil =>
    intro executor managed survivors closed fewer
    exact ⟨Keeps.rfl.setActive survivors, by simpa [manageFrom, setActive] using fewer⟩
  | cons position rest inductionHypothesis =>
    intro executor managed survivors closed fewer
    rcases advanced : collaborators.advanceRecord executor.world position bar running with
      ⟨answer, result, cursor, world⟩
    have moved : Keeps executor { executor with world := world } := Keeps.rfl.world world
    simp only [manageFrom, advanced]
    cases answer with
    | error raised => exact ⟨moved.setActive _, by simp [setActive]⟩
    | ok active =>
      cases active with
      | true =>
        have later := inductionHypothesis { executor with world := world }
          (managed ++ [⟨position.record.setLifecycleResult result, cursor⟩])
          (survivors ++ [⟨position.record.setLifecycleResult result, cursor⟩]) closed
          (by simpa using fewer)
        refine ⟨moved.trans later.1, later.2.trans (le_of_eq ?_)⟩
        simp only [List.length_append, List.length_cons, List.length_nil]
        omega
      | false =>
        have settled := settleRecord_leaves collaborators { executor with world := world }
          (position.record.setLifecycleResult result) bar.endTime
        rcases settling : settleRecord collaborators { executor with world := world }
          (position.record.setLifecycleResult result) bar.endTime with ⟨raised | _, after⟩
        · rw [settling] at settled
          exact ⟨(moved.trans settled.toKeeps).setActive _, by simp [setActive]⟩
        · rw [settling] at settled
          have later := inductionHypothesis after
            (managed ++ [⟨position.record.setLifecycleResult result, cursor⟩]) survivors
            (closed ++ [position.record.setLifecycleResult result])
            (by simp only [List.length_append]; omega)
          refine ⟨(moved.trans settled.toKeeps).trans later.1, later.2.trans (le_of_eq ?_)⟩
          simp only [List.length_append, List.length_cons, List.length_nil]
          omega

theorem manageCompletedBar_keeps (executor : ChronologicalReplayExecutor World Cursor)
    (bar : Candle) (running : List Candle) :
    Keeps executor (executor.manageCompletedBar collaborators bar running).2 ∧
      (executor.manageCompletedBar collaborators bar running).2.state.activePositions.length ≤
        executor.state.activePositions.length := by
  have managed := manageFrom_keeps collaborators bar running executor.state.activePositions
    executor [] [] [] le_rfl
  rw [List.length_nil, Nat.zero_add] at managed
  exact managed

theorem finalizeFrom_keeps (positions : List (HistoricalManagedReplayPosition Cursor)) :
    ∀ (executor : ChronologicalReplayExecutor World Cursor)
      (finalized : List (HistoricalManagedReplayPosition Cursor)),
      Keeps executor (finalizeFrom collaborators executor finalized positions).2 ∧
        (finalizeFrom collaborators executor finalized positions).2.state.activePositions.length ≤
          finalized.length + positions.length := by
  induction positions with
  | nil => exact fun executor finalized => ⟨Keeps.rfl.setActive [], Nat.zero_le _⟩
  | cons position rest inductionHypothesis =>
    intro executor finalized
    rcases closing : collaborators.finalizeRecord executor.world position with
      ⟨answer, result, world⟩
    have moved : Keeps executor { executor with world := world } := Keeps.rfl.world world
    simp only [finalizeFrom, closing]
    cases answer with
    | error raised => exact ⟨moved.setActive _, by simp [setActive]⟩
    | ok _ =>
      have marked : Keeps executor
          (if (position.record.setLifecycleResult result).lifecycleStatus = .ambiguous ∨
              (position.record.setLifecycleResult result).lifecycleStatus = .unresolved then
            markIndeterminate { executor with world := world }
              (position.record.setLifecycleResult result)
          else { executor with world := world }) := by
        split
        · exact moved.markIndeterminate _
        · exact moved
      refine ⟨marked.trans (inductionHypothesis _ _).1,
        (inductionHypothesis _ _).2.trans (le_of_eq ?_)⟩
      simp only [List.length_append, List.length_cons, List.length_nil]
      omega

theorem finalizeSession_keeps (executor : ChronologicalReplayExecutor World Cursor) :
    Keeps executor (executor.finalizeSession collaborators).2 ∧
      (executor.finalizeSession collaborators).2.state.activePositions.length ≤
        executor.state.activePositions.length := by
  have ended := finalizeFrom_keeps collaborators executor.state.activePositions
    { executor with
      state := { executor.state with
        positionsOpenAtSessionEnd := executor.state.activePositions.length } } []
  have counted : Keeps executor
      { executor with
        state := { executor.state with
          positionsOpenAtSessionEnd := executor.state.activePositions.length } } :=
    ⟨rfl, rfl, rfl, rfl, id⟩
  rw [List.length_nil, Nat.zero_add] at ended
  exact ⟨counted.trans ended.1, ended.2⟩

end

/-! ### Accepting a signal -/

/-- Every gate lets the signal through. -/
structure Admits (executor : ChronologicalReplayExecutor World Cursor) (signal : StrategySignal)
    (now : Int) : Prop where
  known : executor.state.chronologyIndeterminate = false
  capacity : executor.state.activePositions.length < executor.riskConfig.maxConcurrentPositions
  cooldown : ∀ last ∈ executor.state.lastLossExitTime,
    cooldownEnd executor.riskConfig last ≤ now
  dailyTrades : executor.state.dailyEntries < executor.riskConfig.maxTradesPerDay
  strategyTrades : executor.state.dailyEntriesByStrategy.get signal.strategy.value <
    executor.riskConfig.maxTradesPerStrategyPerDay

/-- One more entry of a strategy is counted. -/
structure Counts (strategyId : String) (before after : ChronologicalReplayExecutor World Cursor) :
    Prop where
  riskConfig : after.riskConfig = before.riskConfig
  dailyEntries : after.state.dailyEntries = before.state.dailyEntries + 1
  byStrategy : after.state.dailyEntriesByStrategy =
    before.state.dailyEntriesByStrategy.increment strategyId
  economics : economics after.state = economics before.state
  indeterminate : before.state.chronologyIndeterminate = true →
    after.state.chronologyIndeterminate = true

theorem Keeps.counts {strategyId : String}
    {first second third : ChronologicalReplayExecutor World Cursor} (one : Keeps first second)
    (two : Counts strategyId second third) : Counts strategyId first third where
  riskConfig := two.riskConfig.trans one.riskConfig
  dailyEntries := by rw [two.dailyEntries, one.dailyEntries]
  byStrategy := by rw [two.byStrategy, one.byStrategy]
  economics := two.economics.trans one.economics
  indeterminate marked := two.indeterminate (one.indeterminate marked)

theorem Counts.keeps {strategyId : String}
    {first second third : ChronologicalReplayExecutor World Cursor}
    (one : Counts strategyId first second) (two : Keeps second third) :
    Counts strategyId first third where
  riskConfig := two.riskConfig.trans one.riskConfig
  dailyEntries := two.dailyEntries.trans one.dailyEntries
  byStrategy := two.byStrategy.trans one.byStrategy
  economics := two.economics.trans one.economics
  indeterminate marked := two.indeterminate (one.indeterminate marked)

theorem countEntry_counts (executor : ChronologicalReplayExecutor World Cursor)
    (strategyId : String) : Counts strategyId executor (executor.countEntry strategyId) :=
  ⟨rfl, rfl, rfl, rfl, id⟩

theorem strategyId_setLifecycleResult (record : ReplayManifestRecord)
    (result : Option LifecycleResult) :
    (record.setLifecycleResult result).strategyId = record.strategyId := by
  cases result <;> rfl

section

variable (collaborators : Collaborators World Cursor)
  (executor : ChronologicalReplayExecutor World Cursor)

theorem placeRecord_cases (record : ReplayManifestRecord) (barEnd : Int)
    (answer : Except Raised (Option Cursor)) :
    (Keeps executor (placeRecord collaborators executor record barEnd answer).2 ∨
        Counts record.strategyId executor
          (placeRecord collaborators executor record barEnd answer).2) ∧
      (placeRecord collaborators executor record barEnd answer).2.state.activePositions.length ≤
        executor.state.activePositions.length + 1 := by
  rcases answer with raised | (_ | cursor)
  · exact ⟨Or.inl Keeps.rfl, Nat.le_succ _⟩
  · simp only [placeRecord]
    have counted : (Keeps executor (if record.lifecycleStatus = .resolved then
            executor.countEntry record.strategyId else executor) ∨
          Counts record.strategyId executor (if record.lifecycleStatus = .resolved then
            executor.countEntry record.strategyId else executor)) ∧
        (if record.lifecycleStatus = .resolved then executor.countEntry record.strategyId
          else executor).state.activePositions = executor.state.activePositions := by
      split
      · exact ⟨Or.inr (countEntry_counts executor record.strategyId), rfl⟩
      · exact ⟨Or.inl Keeps.rfl, rfl⟩
    generalize (if record.lifecycleStatus = .resolved then executor.countEntry record.strategyId
      else executor) = middle at counted
    have settled := settleRecord_leaves collaborators middle record barEnd
    rcases settling : settleRecord collaborators middle record barEnd with ⟨raised | _, final⟩
    all_goals
      rw [settling] at settled
      refine ⟨counted.1.imp (·.trans settled.toKeeps) (·.keeps settled.toKeeps), ?_⟩
      rw [settled.activePositions, counted.2]
      exact Nat.le_succ _
  · refine ⟨Or.inr ?_, by simp [placeRecord, countEntry, setActive]⟩
    exact (Keeps.rfl.setActive _).counts (countEntry_counts _ record.strategyId)

/-- How far a call of `accept_signal` gets: it raises and nothing is counted, or the gates
admit the signal and it adds at most one position and counts at most one entry of its
strategy. -/
theorem acceptSignal_cases (signal : StrategySignal) (bar : Candle) (sizing : ReplaySizingDecision)
    : ((∃ raised, (executor.acceptSignal collaborators signal bar sizing).1 = .error raised) ∧
        Keeps executor (executor.acceptSignal collaborators signal bar sizing).2 ∧
        (executor.acceptSignal collaborators signal bar sizing).2.state.activePositions =
          executor.state.activePositions) ∨
      (executor.Admits signal bar.endTime ∧
        (Keeps executor (executor.acceptSignal collaborators signal bar sizing).2 ∨
          Counts signal.strategy.value executor
            (executor.acceptSignal collaborators signal bar sizing).2) ∧
        (executor.acceptSignal collaborators signal bar sizing).2.state.activePositions.length ≤
          executor.state.activePositions.length + 1) := by
  obtain ⟨gateKeeps, gateActive⟩ := globalEntryGate_leaves executor bar.endTime
  have gateAllows := globalEntryGate_allowed executor bar.endTime
  rcases gating : executor.globalEntryGate bar.endTime with ⟨globalGate, gated⟩
  rw [gating] at gateKeeps gateActive gateAllows
  simp only [acceptSignal, gating]
  split
  · exact Or.inl ⟨⟨_, rfl⟩, gateKeeps, gateActive⟩
  rename_i allowed
  split
  · exact Or.inl ⟨⟨_, rfl⟩, gateKeeps, gateActive⟩
  rename_i strategyAllowed
  split
  · exact Or.inl ⟨⟨_, rfl⟩, gateKeeps, gateActive⟩
  split
  · exact Or.inl ⟨⟨_, rfl⟩, gateKeeps.world _, gateActive⟩
  rename_i world _
  obtain ⟨known, capacity, cooldown, dailyTrades⟩ := gateAllows (by simpa using allowed)
  have strategyTrades := (checkStrategyTradeLimits_allowed _ _ _).mp
    (by simpa using strategyAllowed : (gated.strategyEntryGate signal).allowed = true)
  rw [gateKeeps.riskConfig, gateKeeps.byStrategy] at strategyTrades
  refine Or.inr ⟨⟨known, capacity, cooldown, dailyTrades, strategyTrades.1⟩, ?_⟩
  -- The entry is confirmed: what follows may still raise, before or after it is counted.
  obtain ⟨placed, bounded⟩ := placeRecord_cases collaborators
    { gated with world := (collaborators.startRecord world (recordEntry signal)).2.2 }
    ((recordEntry signal).setLifecycleResult
      (collaborators.startRecord world (recordEntry signal)).2.1) bar.endTime
    (collaborators.startRecord world (recordEntry signal)).1
  rw [strategyId_setLifecycleResult] at placed
  have moved : Keeps executor
      { gated with world := (collaborators.startRecord world (recordEntry signal)).2.2 } :=
    gateKeeps.world _
  refine ⟨placed.imp moved.trans moved.counts, bounded.trans (le_of_eq ?_)⟩
  rw [← gateActive]

end

/-! ### The limits -/

/-- Every counter is within its limit, and the entries of the day are those of its
strategies. -/
structure WithinLimits (executor : ChronologicalReplayExecutor World Cursor) : Prop where
  activePositions :
    executor.state.activePositions.length ≤ executor.riskConfig.maxConcurrentPositions
  dailyEntries : executor.state.dailyEntries ≤ executor.riskConfig.maxTradesPerDay
  byStrategy : ∀ strategyId, executor.state.dailyEntriesByStrategy.get strategyId ≤
    executor.riskConfig.maxTradesPerStrategyPerDay
  total : executor.state.dailyEntries = executor.state.dailyEntriesByStrategy.total

variable {before after executor : ChronologicalReplayExecutor World Cursor}
  {records : List ReplayManifestRecord}

theorem Keeps.withinLimits (kept : Keeps before after)
    (fewer : after.state.activePositions.length ≤ before.riskConfig.maxConcurrentPositions)
    (within : WithinLimits before) : WithinLimits after where
  activePositions := by rw [kept.riskConfig]; exact fewer
  dailyEntries := by rw [kept.riskConfig, kept.dailyEntries]; exact within.dailyEntries
  byStrategy strategyId := by
    rw [kept.riskConfig, kept.byStrategy]
    exact within.byStrategy strategyId
  total := by rw [kept.dailyEntries, kept.byStrategy]; exact within.total

theorem Counts.withinLimits {signal : StrategySignal} {now : Int}
    (counted : Counts signal.strategy.value before after) (admits : before.Admits signal now)
    (fewer : after.state.activePositions.length ≤ before.riskConfig.maxConcurrentPositions)
    (within : WithinLimits before) : WithinLimits after where
  activePositions := by rw [counted.riskConfig]; exact fewer
  dailyEntries := by rw [counted.riskConfig, counted.dailyEntries]; exact admits.dailyTrades
  byStrategy strategyId := by
    rw [counted.riskConfig, counted.byStrategy, Tally.get_increment]
    split
    · rename_i same
      rw [← same]
      exact admits.strategyTrades
    · exact within.byStrategy strategyId
  total := by
    rw [counted.dailyEntries, counted.byStrategy, Tally.total_increment, within.total]

theorem applyExecutionEconomics_frame (executor : ChronologicalReplayExecutor World Cursor)
    (record : ReplayManifestRecord) :
    (executor.applyExecutionEconomics record).riskConfig = executor.riskConfig ∧
      (executor.applyExecutionEconomics record).state.activePositions =
        executor.state.activePositions ∧
      (executor.applyExecutionEconomics record).state.dailyEntries =
        executor.state.dailyEntries ∧
      (executor.applyExecutionEconomics record).state.dailyEntriesByStrategy =
        executor.state.dailyEntriesByStrategy ∧
      (executor.applyExecutionEconomics record).state.chronologyIndeterminate =
        executor.state.chronologyIndeterminate := by
  unfold applyExecutionEconomics
  split
  · exact ⟨rfl, rfl, rfl, rfl, rfl⟩
  · split <;> exact ⟨rfl, rfl, rfl, rfl, rfl⟩

variable (collaborators : Collaborators World Cursor)

/-- The record whose economics a call asks to apply. -/
def resolvedRecord : Call World → Option ReplayManifestRecord
  | .applyExecutionEconomics record =>
      if record.lifecycleStatus = .resolved then some record else none
  | _ => none

/-- What a call does: it applies economics, or it stays within the positions and counts nothing
or an entry that every gate admits. -/
theorem step_cases (executor : ChronologicalReplayExecutor World Cursor) (call : Call World) :
    (∃ record, call = .applyExecutionEconomics record) ∨ resolvedRecord call = none ∧
      (executor.state.activePositions.length ≤ executor.riskConfig.maxConcurrentPositions →
        (step collaborators executor call).state.activePositions.length ≤
          executor.riskConfig.maxConcurrentPositions) ∧
      (Keeps executor (step collaborators executor call) ∨
        ∃ signal now, executor.Admits signal now ∧
          Counts signal.strategy.value executor (step collaborators executor call)) := by
  cases call with
  | applyExecutionEconomics record => exact Or.inl ⟨record, rfl⟩
  | manageCompletedBar bar running =>
    obtain ⟨kept, fewer⟩ := manageCompletedBar_keeps collaborators executor bar running
    exact Or.inr ⟨rfl, fewer.trans, Or.inl kept⟩
  | globalEntryGate now =>
    obtain ⟨kept, same⟩ := globalEntryGate_leaves executor now
    exact Or.inr ⟨rfl, (congrArg List.length same).le.trans, Or.inl kept⟩
  | acceptSignal signal bar sizing =>
    rcases acceptSignal_cases collaborators executor signal bar sizing with
      ⟨-, kept, same⟩ | ⟨admits, placed, fewer⟩
    · exact Or.inr ⟨rfl, (congrArg List.length same).le.trans, Or.inl kept⟩
    · exact Or.inr ⟨rfl, fun _ => fewer.trans admits.capacity,
        placed.imp_right fun counted => ⟨signal, bar.endTime, admits, counted⟩⟩
  | finalizeSession =>
    obtain ⟨kept, fewer⟩ := finalizeSession_keeps collaborators executor
    exact Or.inr ⟨rfl, fewer.trans, Or.inl kept⟩
  | recordRejection | noteEntryEvaluationSuppressed | elsewhere =>
    exact Or.inr ⟨rfl, id, Or.inl ⟨rfl, rfl, rfl, rfl, id⟩⟩

theorem step_withinLimits (within : WithinLimits executor) (call : Call World) :
    WithinLimits (step collaborators executor call) := by
  rcases step_cases collaborators executor call with
    ⟨record, rfl⟩ | ⟨-, bounded, kept | ⟨signal, now, admits, counted⟩⟩
  · obtain ⟨risk, active, entries, byStrategy, -⟩ := applyExecutionEconomics_frame executor record
    constructor
    · rw [step, risk, active]
      exact within.activePositions
    · rw [step, risk, entries]
      exact within.dailyEntries
    · intro strategyId
      rw [step, risk, byStrategy]
      exact within.byStrategy strategyId
    · rw [step, entries, byStrategy]
      exact within.total
  · exact kept.withinLimits (bounded within.activePositions) within
  · exact counted.withinLimits admits (bounded within.activePositions) within

theorem run_withinLimits (within : WithinLimits executor) (calls : List (Call World)) :
    WithinLimits (run collaborators executor calls) := by
  induction calls generalizing executor with
  | nil => exact within
  | cons call rest inductionHypothesis =>
    exact inductionHypothesis (step_withinLimits collaborators within call)

/-! ### An indeterminate chronology -/

section

variable (marked : executor.state.chronologyIndeterminate = true)

include marked

theorem step_indeterminate (call : Call World) :
    (step collaborators executor call).state.chronologyIndeterminate = true := by
  rcases step_cases collaborators executor call with
    ⟨record, rfl⟩ | ⟨-, -, kept | ⟨signal, now, -, counted⟩⟩
  · rw [step, (applyExecutionEconomics_frame executor record).2.2.2.2]
    exact marked
  · exact kept.indeterminate marked
  · exact counted.indeterminate marked

theorem run_indeterminate (calls : List (Call World)) :
    (run collaborators executor calls).state.chronologyIndeterminate = true := by
  induction calls generalizing executor with
  | nil => exact marked
  | cons call rest inductionHypothesis =>
    exact inductionHypothesis (step_indeterminate collaborators marked call)

theorem acceptSignal_refused (signal : StrategySignal) (bar : Candle)
    (sizing : ReplaySizingDecision) :
    ∃ raised, (executor.acceptSignal collaborators signal bar sizing).1 = .error raised := by
  rcases acceptSignal_cases collaborators executor signal bar sizing with
    ⟨refused, -⟩ | ⟨admits, -⟩
  · exact refused
  · rw [admits.known] at marked
    cases marked

end

/-! ### The economics of a signal -/

/-- The first resolved record applied for each signal, in the order they were applied. -/
def appliedRecords (calls : List (Call World)) : List ReplayManifestRecord :=
  acceptAll ReplayManifestRecord.replaySignalId [] (calls.filterMap resolvedRecord)

structure Booked (executor : ChronologicalReplayExecutor World Cursor)
    (records : List ReplayManifestRecord) : Prop where
  signalIds : executor.state.executionEconomicsAppliedSignalIds =
    (records.map ReplayManifestRecord.replaySignalId).toFinset
  netPnl : executor.state.realizedNetPnlTotal =
    (records.map fun record => record.simulatedNetPnl.getD 0).sum
  complete : executor.state.realizedNetPnlComplete =
    records.all fun record => record.simulatedNetPnl.isSome
  failures : ∀ strategyId, executor.state.failedEntriesByStrategy.get strategyId =
    records.countP fun record => netLoss record && decide (record.strategyId = strategyId)
  lastLoss : executor.state.lastLossExitTime = (records.filterMap lossExitTime).getLast?
  cooldown : executor.state.lossCooldownUntil =
    executor.state.lastLossExitTime.map (cooldownEnd executor.riskConfig)

theorem Booked.of_economics (booked : Booked before records)
    (risk : after.riskConfig = before.riskConfig)
    (same : economics after.state = economics before.state) : Booked after records := by
  simp only [economics, Prod.mk.injEq] at same
  obtain ⟨signalIds, netPnl, complete, failures, lastLoss, cooldown⟩ := same
  constructor
  · rw [signalIds, booked.signalIds]
  · rw [netPnl, booked.netPnl]
  · rw [complete, booked.complete]
  · intro strategyId
    rw [failures, booked.failures]
  · rw [lastLoss, booked.lastLoss]
  · rw [cooldown, lastLoss, risk, booked.cooldown]

theorem getLast?_append_or {Item : Type} (items : List Item) (last : Option Item) :
    (items ++ last.toList).getLast? = last.or items.getLast? := by
  cases last <;> simp

theorem Booked.applyExecutionEconomics (booked : Booked executor records)
    (record : ReplayManifestRecord) : Booked (executor.applyExecutionEconomics record)
      (if record.lifecycleStatus = .resolved then
        accept ReplayManifestRecord.replaySignalId records record
      else records) := by
  by_cases resolved : record.lifecycleStatus = .resolved
  · have known : record.replaySignalId ∈ executor.state.executionEconomicsAppliedSignalIds ↔
        record.replaySignalId ∈ records.map ReplayManifestRecord.replaySignalId := by
      rw [booked.signalIds, List.mem_toFinset]
    rw [if_pos resolved, accept, ChronologicalReplayExecutor.applyExecutionEconomics,
      if_neg (not_not.mpr resolved)]
    by_cases before : record.replaySignalId ∈ records.map ReplayManifestRecord.replaySignalId
    · rw [if_pos before, if_pos (known.mpr before)]
      exact booked
    · rw [if_neg before, if_neg fun applied => before (known.mp applied)]
      constructor
      · ext signalId
        simp [booked.signalIds, or_comm]
      · simp [booked.netPnl]
      · simp [booked.complete]
      · intro strategyId
        rw [List.countP_append, ← booked.failures strategyId]
        by_cases lost : netLoss record
        · by_cases named : record.strategyId = strategyId <;> simp [lost, named]
        · simp [lost]
      · dsimp only
        rw [List.filterMap_append, booked.lastLoss, ← getLast?_append_or]
        cases loss : lossExitTime record <;> simp [loss]
      · dsimp only
        rw [booked.cooldown]
        cases lossExitTime record <;> simp
  · rw [if_neg resolved, ChronologicalReplayExecutor.applyExecutionEconomics, if_pos resolved]
    exact booked

theorem step_booked (booked : Booked executor records) (call : Call World) :
    Booked (step collaborators executor call) (acceptAll ReplayManifestRecord.replaySignalId records
        ([call].filterMap resolvedRecord)) := by
  rcases step_cases collaborators executor call with
    ⟨record, rfl⟩ | ⟨unresolved, -, kept | ⟨signal, now, -, counted⟩⟩
  · have applied := booked.applyExecutionEconomics record
    rw [step]
    by_cases resolved : record.lifecycleStatus = .resolved
    · simpa [resolvedRecord, resolved, acceptAll] using applied
    · simpa [resolvedRecord, resolved, acceptAll] using applied
  · rw [List.filterMap_cons_none unresolved]
    exact booked.of_economics kept.riskConfig kept.economics
  · rw [List.filterMap_cons_none unresolved]
    exact booked.of_economics counted.riskConfig counted.economics

/-- The executor as it is built for a session. -/
def start (riskConfig : RiskConfig) (world : World) : ChronologicalReplayExecutor World Cursor :=
  { riskConfig := riskConfig, world := world }

theorem start_booked (riskConfig : RiskConfig) (world : World) :
    Booked (start riskConfig world : ChronologicalReplayExecutor World Cursor) [] :=
  ⟨rfl, rfl, rfl, fun _ => rfl, rfl, rfl⟩

theorem run_booked (riskConfig : RiskConfig) (world : World) (calls : List (Call World)) :
    Booked (run collaborators (start riskConfig world) calls) (appliedRecords calls) := by
  induction calls using List.reverseRecOn with
  | nil => exact start_booked riskConfig world
  | append_singleton calls call inductionHypothesis =>
    have stepped := step_booked collaborators inductionHypothesis call
    rw [appliedRecords, List.filterMap_append, acceptAll, List.foldl_append, run, List.foldl_append]
    exact stepped

/-- Over every run the counters stay within the limits, no entry is accepted once the
chronology is indeterminate, and the economics of each signal are added once. -/
theorem run_keeps_limits (riskConfig : RiskConfig) (world : World) (calls : List (Call World)) :
    WithinLimits (run collaborators (start riskConfig world) calls) ∧
      ((run collaborators (start riskConfig world) calls).state.chronologyIndeterminate = true →
        ∀ (later : List (Call World)) signal bar sizing, ∃ raised, (acceptSignal collaborators
            (run collaborators (start riskConfig world) (calls ++ later)) signal bar sizing).1 =
              .error raised) ∧
      ((appliedRecords calls).map ReplayManifestRecord.replaySignalId).Nodup ∧
      (run collaborators (start riskConfig world) calls).state.realizedNetPnlTotal =
        ((appliedRecords calls).map fun record => record.simulatedNetPnl.getD 0).sum ∧
      ∀ strategyId, (run collaborators (start riskConfig world)
          calls).state.failedEntriesByStrategy.get strategyId =
        (appliedRecords calls).countP fun record =>
          netLoss record && decide (record.strategyId = strategyId) := by
  have booked := run_booked collaborators riskConfig world calls
  have begun : WithinLimits (start riskConfig world : ChronologicalReplayExecutor World Cursor) :=
    ⟨Nat.zero_le _, Nat.zero_le _, fun _ => Nat.zero_le _, rfl⟩
  refine ⟨run_withinLimits collaborators begun calls, ?_,
    nodup_acceptAll (by simp) _, booked.netPnl, booked.failures⟩
  intro marked later signal bar sizing
  refine acceptSignal_refused collaborators ?_ signal bar sizing
  rw [run, List.foldl_append]
  exact run_indeterminate collaborators marked later

end ChronologicalReplayExecutor

end BreezeTrading
