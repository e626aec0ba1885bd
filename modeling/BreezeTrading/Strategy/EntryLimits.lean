/-
This file proves when the entry limits hold of the trades stored at the moment a new trade is
saved. The gates speak of what a cycle read, many awaits before; that is what is stored as long as
nobody saves a trade in between or replaces the cache by an older one, and the listing is long
enough.
-/

import BreezeTrading.Strategy.EntryRules

namespace BreezeTrading

open Async Async.Coroutine StrategyService

/-! ### The limits -/

/-- The entry limits over the stored trades, for a trade that is about to be stored. -/
structure WithinLimits (risk : RiskConfig) (stored : List ActiveTrade) (trade : ActiveTrade) :
    Prop where
  capacity : (getActiveTrades stored).length < risk.maxConcurrentPositions
  daily : (tradesOfDay trade.entryTime stored).length < risk.maxTradesPerDay
  strategy : (tradesOf trade.strategy (tradesOfDay trade.entryTime stored)).length <
    risk.maxTradesPerStrategyPerDay
  failures : (failuresOf trade.strategy (tradesOfDay trade.entryTime stored)).length <
    risk.maxFailedTradesPerStrategy
  realized : -risk.maxDailyLossR < totalR (tradesOfDay trade.entryTime stored)
  netPnl : -dailyLossAmount risk (some risk.accountEquity) <
    totalPnl (tradesOfDay trade.entryTime stored)
  cooldown : ∀ exit ∈ lossExits (tradesOfDay trade.entryTime stored),
    cooldownEnd risk exit ≤ trade.entryTime
  scalp : trade.strategy = .pivotVwapScalp →
    ∀ other ∈ getActiveTrades stored, other.strategy ≠ .pivotVwapScalp

/-- Every trade was entered within the limits in force. -/
def EntryLimitsHold (world : StrategyWorld) : Prop :=
  ∀ record ∈ world.entries, WithinLimits record.config.risk record.stored record.trade

/-! ### What the gates let through -/

section Gates

variable {memory : Memory} {now : Int} {market : MarketView} {strategy : StrategyName}
  {todayTrades : List ActiveTrade}

theorem capacity_of_entryGate (passed : entryGate memory now market = none) :
    memory.activeTradesCache.length < memory.config.risk.maxConcurrentPositions := by
  rw [← checkPositionCapacity_allowed]
  by_contra refused
  rw [Bool.not_eq_true] at refused
  unfold entryGate at passed
  dsimp only at passed
  rw [refused] at passed
  split at passed
  · cases passed
  · split at passed
    · cases passed
    · cases passed

theorem limits_of_dayGate (passed : dayGate memory.config now todayTrades = none) :
    (-memory.config.risk.maxDailyLossR < totalR todayTrades ∧
        -dailyLossAmount memory.config.risk (some memory.config.risk.accountEquity) <
          totalPnl todayTrades) ∧
      (∀ exit ∈ lossExits todayTrades, cooldownEnd memory.config.risk exit ≤ now) ∧
      todayTrades.length < memory.config.risk.maxTradesPerDay := by
  unfold dayGate at passed
  dsimp only at passed
  split at passed
  · cases passed
  · rename_i loss
    split at passed
    · cases passed
    · rename_i cooldown
      split at passed
      · cases passed
      · rename_i daily
        rw [Bool.not_eq_true', Bool.not_eq_false] at loss cooldown daily
        rw [checkDailyLossLimits_allowed] at loss
        rw [checkLossCooldown_allowed] at cooldown
        rw [checkDailyTradeLimit_allowed] at daily
        refine ⟨⟨loss.1, loss.2 _ rfl⟩, fun exit member => ?_, daily⟩
        obtain ⟨latest, found⟩ := Option.isSome_iff_exists.mp
          (List.isSome_max?_of_mem member)
        have late := cooldown latest found
        have before : exit ≤ latest := (List.max?_le_iff found).mp le_rfl exit member
        unfold cooldownEnd at late ⊢
        omega

/-- The gates of a signal let through one position of Strategy E, and a strategy within its
limits. -/
theorem limits_of_signalGate (passed : signalGate memory strategy todayTrades = none) :
    (strategy = .pivotVwapScalp →
        ∀ trade ∈ memory.activeTradesCache, trade.strategy ≠ .pivotVwapScalp) ∧
      (tradesOf strategy todayTrades).length <
        memory.config.risk.maxTradesPerStrategyPerDay ∧
      (failuresOf strategy todayTrades).length <
        memory.config.risk.maxFailedTradesPerStrategy := by
  unfold signalGate at passed
  dsimp only at passed
  split at passed
  · cases passed
  · rename_i scalp
    split at passed
    · cases passed
    · rename_i limits
      rw [Bool.not_eq_true', Bool.not_eq_false, checkStrategyTradeLimits_allowed] at limits
      refine ⟨?_, limits⟩
      rintro rfl trade member same
      refine scalp ?_
      rw [Bool.and_eq_true, List.any_eq_true]
      exact ⟨decide_eq_true rfl, trade, member, decide_eq_true same⟩

end Gates

/-! ### The listing of a day -/

section Listing

variable {first second : List ActiveTrade}

section

variable (same : first.Perm second)

include same

theorem perm_tradesOf (strategy : StrategyName) :
    (tradesOf strategy first).Perm (tradesOf strategy second) := same.filter _

theorem perm_failuresOf (strategy : StrategyName) :
    (failuresOf strategy first).Perm (failuresOf strategy second) :=
  (perm_tradesOf same strategy).filter _

theorem perm_lossExits : (lossExits first).Perm (lossExits second) :=
  (same.filter _).filterMap _

theorem totalR_of_perm : totalR first = totalR second :=
  (same.map _).sum_eq

theorem totalPnl_of_perm : totalPnl first = totalPnl second :=
  (same.map _).sum_eq

end

theorem perm_tradesOfDay_listTrades {moment : Int} {limit : Nat} {stored : List ActiveTrade}
    (shows : (tradesOfDay moment (listTrades limit stored)).length =
      (tradesOfDay moment stored).length) :
    (tradesOfDay moment (listTrades limit stored)).Perm (tradesOfDay moment stored) := by
  unfold tradesOfDay listTrades at shows ⊢
  have sorted := (List.perm_insertionSort
    (fun first second : ActiveTrade => second.entryTime ≤ first.entryTime) stored).filter
      fun trade => decide (istDay trade.entryTime = istDay moment)
  have shown := (List.take_sublist limit (stored.insertionSort
    fun first second : ActiveTrade => second.entryTime ≤ first.entryTime)).filter
      fun trade => decide (istDay trade.entryTime = istDay moment)
  rw [shown.eq_of_length (shows.trans sorted.length_eq.symm)]
  exact sorted

end Listing

/-- The gates of a cycle let a trade through only within the limits over what they were evaluated
on. -/
theorem withinLimits_of_gates {risk : RiskConfig} {stored todayTrades : List ActiveTrade}
    {trade : ActiveTrade} {market : MarketView} {gateMemory dayMemory signalMemory : Memory}
    (gateRisk : gateMemory.config.risk = risk) (dayRisk : dayMemory.config.risk = risk)
    (signalRisk : signalMemory.config.risk = risk)
    (cached : gateMemory.activeTradesCache = getActiveTrades stored)
    (day : todayTrades.Perm (tradesOfDay trade.entryTime stored))
    (scalps : (∃ other ∈ getActiveTrades stored, other.strategy = .pivotVwapScalp) →
      ∃ other ∈ signalMemory.activeTradesCache, other.strategy = .pivotVwapScalp)
    (entryPassed : entryGate gateMemory trade.entryTime market = none)
    (dayPassed : dayGate dayMemory.config trade.entryTime todayTrades = none)
    (signalPassed : signalGate signalMemory trade.strategy todayTrades = none) :
    WithinLimits risk stored trade := by
  have capacity := capacity_of_entryGate entryPassed
  obtain ⟨⟨realized, netPnl⟩, cooldown, daily⟩ := limits_of_dayGate dayPassed
  obtain ⟨scalp, strategy, failures⟩ := limits_of_signalGate signalPassed
  rw [gateRisk, cached] at capacity
  rw [dayRisk] at realized netPnl daily
  rw [dayRisk] at cooldown
  rw [signalRisk] at strategy failures
  refine ⟨capacity, ?_, ?_, ?_, ?_, ?_, ?_, ?_⟩
  · exact day.length_eq ▸ daily
  · exact (perm_tradesOf day trade.strategy).length_eq ▸ strategy
  · exact (perm_failuresOf day trade.strategy).length_eq ▸ failures
  · exact totalR_of_perm day ▸ realized
  · exact totalPnl_of_perm day ▸ netPnl
  · exact fun exit member => cooldown exit ((perm_lossExits day).mem_iff.mpr member)
  · intro scalping other member same
    obtain ⟨cachedScalp, cachedMember, cachedSame⟩ := scalps ⟨other, member, same⟩
    exact scalp scalping cachedScalp cachedMember cachedSame

/-! ### The condition -/

/-- The trades a cycle read, over which it seeks an entry. -/
def CycleStage.sought : CycleStage → Option (List ActiveTrade)
  | .seeking stored | .entering stored => some stored
  | .started | .managing | .entered => none

/-- Some trade is one of Strategy E. -/
def hasScalp (trades : List ActiveTrade) : Bool :=
  trades.any fun trade => decide (trade.strategy = .pivotVwapScalp)

theorem hasScalp_iff {trades : List ActiveTrade} :
    hasScalp trades = true ↔ ∃ trade ∈ trades, trade.strategy = .pivotVwapScalp := by
  unfold hasScalp
  simp only [List.any_eq_true, decide_eq_true_eq]

namespace StrategyWorld

/-- The trades over which the present cycle seeks an entry. -/
def sought (world : StrategyWorld) : Option (List ActiveTrade) :=
  world.stage.bind CycleStage.sought

/-- While a cycle seeks an entry nobody else saves a trade, drops an open trade of Strategy E from
the cache or posts other limits; its listing shows the whole day; and no entry is forced. -/
def entryUndisturbed (world : StrategyWorld) : StrategyOp → Bool
  | .beginForceEntry => false
  | .saveTrade trade .entry => world.sought.all fun stored =>
      decide ((tradesOfDay trade.entryTime (listTrades 1000 stored)).length =
        (tradesOfDay trade.entryTime stored).length)
  | .saveTrade _ _ => world.sought.isNone
  | .cacheActiveTrades trades => world.sought.all fun stored =>
      !hasScalp (getActiveTrades stored) || hasScalp trades
  | .closeInMemory closing _ _ _ | .closeUnfilledInMemory closing _ =>
      world.sought.isNone || !hasScalp (world.memory.activeTradesCache.filter fun trade =>
        decide (trade.tradeId = closing.tradeId))
  | .applyConfig (.posted new) => world.sought.isNone || decide (new.risk = world.config.risk)
  | _ => true

end StrategyWorld

open StrategyWorld

def entriesUndisturbed :
    Condition StrategyOp StrategyWorld StrategyAnswer StrategyStart Empty where
  answer world op _ := world.entryUndisturbed op

/-! ### The discipline -/

/-- What the task of the present cycle owns: the stage, and the limits it seeks an entry under. -/
abbrev LimitsToken := CycleStage × Option RiskConfig

def StrategyWorld.limitsToken (world : StrategyWorld) : Option LimitsToken :=
  world.stage.map fun stage => (stage, stage.sought.map fun _ => world.config.risk)

/-- While a cycle seeks an entry, what it read is what is stored, and once past its gate the cache
shows an open trade of Strategy E where there is one. -/
structure LimitsOwned (world : StrategyWorld) (credit : Multiset LimitsToken) : Prop where
  token : credit = unique world.limitsToken
  read : ∀ stored, world.sought = some stored → world.trades = stored
  scalps : ∀ stored, world.stage = some (.entering stored) →
    hasScalp (getActiveTrades stored) = true → hasScalp world.memory.activeTradesCache = true
  entries : EntryLimitsHold world

def limitsDiscipline : Discipline StrategyWorld (Multiset LimitsToken) where
  later _ _ := True
  refl _ := trivial
  trans _ _ := trivial
  holds := LimitsOwned

section Quiet

variable {world next : StrategyWorld} {op : StrategyOp} {choice : StrategyAnswer}
  {reply : Except Raised (StrategyReply op)}

variable {stored : List ActiveTrade}

theorem risk_answer (undisturbed : world.entryUndisturbed op = true)
    (answered : world.answer op choice = some (reply, next)) (seeks : world.sought = some stored) :
    next.config.risk = world.config.risk := by
  rcases answer_terms answered with ⟨same, _⟩ | ⟨change, asks, applied⟩
  · exact same.risk
  · obtain ⟨rfl, _⟩ := applyConfig_cases applied
    have same : (world.configured (change.resolve world.config)).config =
        change.resolve world.config := Memory.config_replaceConfig _ _
    rw [same]
    cases change with
    | switched mode => rfl
    | posted new =>
      change new.risk = world.config.risk
      cases op with
      | applyConfig asked =>
        obtain rfl : ConfigChange.posted new = asked := asks
        simpa only [entryUndisturbed, seeks, Option.isNone_some, Bool.false_or,
          decide_eq_true_eq] using undisturbed
      | beginSwitch mode active => cases asks.1
      | _ => exact asks.elim

theorem trades_answer (undisturbed : world.entryUndisturbed op = true) (noEntry : ¬op.enters)
    (answered : world.answer op choice = some (reply, next)) (seeks : world.sought = some stored) :
    next.trades = world.trades := by
  by_cases saves : op.saves
  · cases op with
    | saveTrade trade purpose =>
      cases purpose with
      | entry => exact absurd (Or.inl rfl) noEntry
      | forcedEntry => exact absurd (Or.inr rfl) noEntry
      | reference | managed | closing =>
        simp only [entryUndisturbed, seeks, Option.isNone_some] at undisturbed
        cases undisturbed
    | _ => exact saves.elim
  · exact (answer_frame answered).trades saves

theorem hasScalp_closedInMemory {closed : ActiveTrade}
    (others : hasScalp (world.memory.activeTradesCache.filter fun trade =>
      decide (trade.tradeId = closed.tradeId)) = false)
    (scalp : hasScalp world.memory.activeTradesCache = true) :
    hasScalp (world.closedInMemory closed).memory.activeTradesCache = true := by
  rw [hasScalp_iff] at scalp ⊢
  obtain ⟨trade, member, same⟩ := scalp
  refine ⟨trade, List.mem_filter.mpr ⟨member, decide_eq_true fun sameId => ?_⟩, same⟩
  have dropped : hasScalp (world.memory.activeTradesCache.filter fun trade =>
      decide (trade.tradeId = closed.tradeId)) = true :=
    hasScalp_iff.mpr ⟨trade, List.mem_filter.mpr ⟨member, decide_eq_true sameId⟩, same⟩
  rw [others] at dropped
  cases dropped

theorem scalp_answer (undisturbed : world.entryUndisturbed op = true) (noStage : ¬op.movesStage)
    (answered : world.answer op choice = some (reply, next))
    (entering : world.stage = some (.entering stored))
    (listed : hasScalp (getActiveTrades stored) = true)
    (scalp : hasScalp world.memory.activeTradesCache = true) :
    hasScalp next.memory.activeTradesCache = true := by
  have seeks : world.sought = some stored := by rw [sought, entering]; rfl
  by_cases caches : op.caches
  · cases op with
    | cacheActiveTrades trades =>
      obtain rfl := always_next answered
      simpa only [entryUndisturbed, seeks, Option.all_some, listed, Bool.not_true,
        Bool.false_or] using undisturbed
    | appendActiveTrade trade =>
      obtain rfl := always_next answered
      rw [hasScalp_iff] at scalp ⊢
      obtain ⟨other, member, same⟩ := scalp
      exact ⟨other, List.mem_append_left _ member, same⟩
    | closeInMemory closing futuresPrice price reason =>
      obtain ⟨now, _, rfl⟩ := closeInMemory_cases answered
      simp only [entryUndisturbed, seeks, Option.isNone_some, Bool.false_or,
        Bool.not_eq_true'] at undisturbed
      exact hasScalp_closedInMemory undisturbed scalp
    | closeUnfilledInMemory closing status =>
      obtain ⟨now, _, rfl⟩ := closeUnfilledInMemory_cases answered
      simp only [entryUndisturbed, seeks, Option.isNone_some, Bool.false_or,
        Bool.not_eq_true'] at undisturbed
      exact hasScalp_closedInMemory undisturbed scalp
    | passEntryGate => exact absurd trivial noStage
    | _ => exact caches.elim
  · rw [(answer_frame answered).cache caches]
    exact scalp

end Quiet

theorem sought_of_stage {world next : StrategyWorld} (stage : next.stage = world.stage) :
    next.sought = world.sought := by
  rw [sought, sought, stage]

theorem limitsToken_of_same {world next : StrategyWorld} (stage : next.stage = world.stage)
    (risk : ∀ stored, world.sought = some stored → next.config.risk = world.config.risk) :
    next.limitsToken = world.limitsToken := by
  unfold StrategyWorld.limitsToken
  rw [stage]
  cases reached : world.stage with
  | none => rfl
  | some stage =>
    cases seeks : stage.sought with
    | none => rw [Option.map_some, Option.map_some, seeks, Option.map_none, Option.map_none]
    | some stored =>
      have same := risk stored (by rw [sought, reached, Option.bind_some, seeks])
      rw [Option.map_some, Option.map_some, seeks, Option.map_some, Option.map_some, same]

namespace LimitsOwned

variable {world next : StrategyWorld} {credit : Multiset LimitsToken}

theorem answer {op : StrategyOp} {choice : StrategyAnswer}
    {reply : Except Raised (StrategyReply op)} (owned : LimitsOwned world credit)
    (noStage : ¬op.movesStage) (noEntry : ¬op.enters)
    (undisturbed : world.entryUndisturbed op = true)
    (answered : world.answer op choice = some (reply, next)) : LimitsOwned next credit := by
  have frame := answer_frame answered
  have stage := frame.stage noStage
  refine ⟨?_, fun stored seeks => ?_, fun stored entering listed => ?_, ?_⟩
  · rw [limitsToken_of_same stage fun stored => risk_answer undisturbed answered]
    exact owned.token
  · rw [sought_of_stage stage] at seeks
    rw [trades_answer undisturbed noEntry answered seeks]
    exact owned.read stored seeks
  · rw [stage] at entering
    exact scalp_answer undisturbed noStage answered entering listed
      (owned.scalps stored entering listed)
  · intro record member
    rw [frame.entries noEntry] at member
    exact owned.entries record member

variable {rest : Multiset LimitsToken}

theorem at_token {token : LimitsToken} (owned : LimitsOwned world ({token} + rest)) :
    world.limitsToken = some token ∧ rest = 0 := eq_of_unique owned.token

theorem at_stage {stage : CycleStage} {risk : Option RiskConfig}
    (owned : LimitsOwned world ({(stage, risk)} + rest)) :
    world.stage = some stage ∧ risk = stage.sought.map fun _ => world.config.risk := by
  obtain ⟨reached, found, same⟩ := Option.map_eq_some_iff.mp owned.at_token.1
  cases same
  exact ⟨found, rfl⟩

theorem moveTo {token : LimitsToken} (owned : LimitsOwned world ({token} + rest))
    (reached : CycleStage) (moved : next.stage = some reached)
    (read : ∀ stored, reached.sought = some stored → next.trades = stored) (scalps : ∀ stored,
      reached = .entering stored → hasScalp (getActiveTrades stored) = true → hasScalp
      next.memory.activeTradesCache = true) (entries : EntryLimitsHold next) :
    LimitsOwned next ({(reached, reached.sought.map fun _ => next.config.risk)} + rest) := by
  refine ⟨?_, fun stored seeks => ?_, fun stored entering => ?_, entries⟩
  · rw [StrategyWorld.limitsToken, moved, owned.at_token.2]
    exact add_zero _
  · refine read stored ?_
    rw [sought, moved] at seeks
    exact seeks
  · rw [moved] at entering
    exact scalps stored (Option.some.inj entering)

end LimitsOwned

/-- What a task owns in each phase. -/
def limitsOwns : Phase → Multiset LimitsToken → Prop
  | .started, credit => credit = {(.started, none)}
  | .managing _, credit | .managed _, credit => credit = {(.managing, none)}
  | .seeking remaining, credit => ∃ stored risk,
      credit = {(.seeking stored, some risk)} ∧ remaining = getActiveTrades stored
  | .entering .cycle, credit => ∃ stored risk, credit = {(.entering stored, some risk)}
  | .entered .cycle _, credit | .ordered .cycle _ _, credit => credit = {(.entered, none)}
  | .completed .cycle _, credit | .failed .cycle _, credit => credit = {(.entered, none)}
  | .finished .cycle, credit => ∃ token, credit = {token}
  | _, _ => False

section Rules

variable {credit : Multiset LimitsToken}

abbrev AnswersLimits := Answers strategySystem entriesUndisturbed limitsDiscipline

theorem limits_quiet {op : StrategyOp} (noStage : ¬op.movesStage) (noEntry : ¬op.enters)
    {credit : Multiset LimitsToken} {seen : StrategyWorld} :
    AnswersLimits op credit seen (leaving credit) :=
  fun _ _ _ _ _ _ owned undisturbed answered =>
    ⟨credit, trivial, owned.answer noStage noEntry undisturbed answered, rfl⟩

variable (seen : StrategyWorld)

theorem limits_acquire : AnswersLimits .acquireEvaluationLock 0 seen
      fun reply left _ => ∀ done, reply = .ok done → left = {(.started, none)} := by
  intro world rest choice reply next _ owned _ answered
  rw [zero_add] at owned
  simp only [strategySystem, answer] at answered
  split at answered
  · rename_i free
    obtain rfl := always_next answered
    have noOther : rest = 0 := by
      rw [owned.token, StrategyWorld.limitsToken, free, Option.map_none, unique_none]
    subst noOther
    refine ⟨{(.started, none)}, trivial, ⟨rfl, fun stored seeks => ?_, fun stored entering => ?_,
      owned.entries⟩, fun _ _ => rfl⟩
    · cases seeks
    · cases entering
  · cases answered

theorem limits_release {token : LimitsToken} : AnswersLimits .releaseEvaluationLock {token} seen
      fun _ _ _ => True := by
  intro world rest choice reply next _ owned _ answered
  have noOther := (LimitsOwned.at_token owned).2
  subst noOther
  obtain rfl := always_next answered
  refine ⟨0, trivial, ⟨rfl, fun stored seeks => ?_, fun stored entering => ?_, owned.entries⟩,
    trivial⟩
  · cases seeks
  · cases entering

theorem limits_readManaged : AnswersLimits (.getActiveTrades .management)
      {(.started, none)} seen fun reply left _ => match reply with
        | .ok _ => left = {(.managing, none)}
        | .error _ => left = {(.started, none)} := by
  refine answers_committing (fun world rest _ owned _ => ?_) fun _ _ => ⟨trivial, rfl⟩
  refine ⟨{(.managing, none)}, trivial, ?_, rfl⟩
  exact owned.moveTo .managing rfl (fun _ seeks => by cases seeks)
    (fun _ entering => by cases entering) owned.entries

theorem limits_readRemaining : AnswersLimits (.getActiveTrades .entry)
      {(.managing, none)} seen fun reply left _ => match reply with
        | .ok remaining => ∃ stored risk, left = {(.seeking stored, some risk)} ∧
            remaining = getActiveTrades stored
        | .error _ => left = {(.managing, none)} := by
  refine answers_committing (fun world rest _ owned _ => ?_) fun _ _ => ⟨trivial, rfl⟩
  refine ⟨_, trivial, owned.moveTo (.seeking world.trades) rfl
    (fun _ seeks => Option.some.inj seeks) (fun _ entering => by cases entering) owned.entries,
    world.trades, _, rfl, rfl⟩

/-- What a memory tells a cycle past its gate, of which the token says what it read. -/
def limitsKnows (credit : Multiset LimitsToken) (memory : Memory) : Prop :=
  ∃ stored risk, credit = {(.entering stored, some risk)} ∧ memory.config.risk = risk ∧
    (hasScalp (getActiveTrades stored) = true → hasScalp memory.activeTradesCache = true)

/-- What the memory at the gate tells: its cache is what was read. -/
def limitsGated (credit : Multiset LimitsToken) (memory : Memory) : Prop :=
  ∃ stored risk, credit = {(.entering stored, some risk)} ∧ memory.config.risk = risk ∧
    memory.activeTradesCache = getActiveTrades stored

/-- What a listing shows. -/
def limitsLists (credit : Multiset LimitsToken) (listed : List ActiveTrade) : Prop :=
  ∃ stored risk, credit = {(.entering stored, some risk)} ∧ listed = listTrades 1000 stored

variable {stored : List ActiveTrade} {risk : RiskConfig}

theorem limits_gate {risk : Option RiskConfig} {feedHealthy : Bool} {seen : StrategyWorld} :
    AnswersLimits
      (.passEntryGate (getActiveTrades stored) feedHealthy) {(.seeking stored, risk)} seen
      fun reply left _ => (∃ token, left = {token}) ∧ ∀ view, reply = .ok view →
        view.disarmed = none → view.memory.config.killSwitch = false →
          (∃ stored risk, left = {(.entering stored, some risk)}) ∧ limitsGated left view.memory := by
  intro world rest choice reply next _ owned _ answered
  change world.answer (.passEntryGate (getActiveTrades stored) feedHealthy) choice = _ at answered
  have frame := answer_frame answered
  obtain ⟨rfl, rfl⟩ := Prod.mk.inj (always_cases answered)
  have seeking := (LimitsOwned.at_stage owned).1
  have read : world.trades = stored := owned.read stored (by rw [sought, seeking]; rfl)
  have entries : EntryLimitsHold
      (world.passEntryGate (getActiveTrades stored) feedHealthy).2 := by
    intro record member
    rw [frame.entries id] at member
    exact owned.entries record member
  have sameTrades := (frame.trades id).trans read
  rcases passEntryGate_cases seeking (getActiveTrades stored) feedHealthy with
    ⟨disarmed, stage⟩ | ⟨on, stage⟩ | ⟨off, sameConfig, cached, nextConfig, nextCache, stage⟩
  · refine ⟨_, trivial, owned.moveTo (.seeking stored) stage
      (fun other seeks => sameTrades.trans (Option.some.inj seeks))
      (fun _ entering => by cases entering) entries, ⟨_, rfl⟩, fun view same none _ => ?_⟩
    cases same
    exact absurd none disarmed
  · refine ⟨_, trivial, owned.moveTo .managing stage (fun _ seeks => by cases seeks)
      (fun _ entering => by cases entering) entries, ⟨_, rfl⟩, fun view same _ off => ?_⟩
    cases same
    rw [on] at off
    cases off
  · refine ⟨_, trivial, owned.moveTo (.entering stored) stage
      (fun other seeks => sameTrades.trans (Option.some.inj seeks)) (fun other same listed => ?_)
      entries, ⟨_, rfl⟩, fun view same _ _ => ?_⟩
    · obtain rfl := CycleStage.entering.inj same
      rw [nextCache]
      exact listed
    · cases same
      refine ⟨⟨_, _, rfl⟩, stored, _, rfl, ?_, cached⟩
      rw [sameConfig, nextConfig]

theorem limits_read : AnswersLimits .readMemory {(.entering stored, some risk)} seen
      fun reply left _ => left = {(.entering stored, some risk)} ∧ ∀ memory, reply = .ok memory →
        limitsKnows {(.entering stored, some risk)} memory := by
  intro world rest choice reply next _ owned _ answered
  obtain ⟨rfl, rfl⟩ := Prod.mk.inj (always_cases answered)
  obtain ⟨entering, sameRisk⟩ := LimitsOwned.at_stage owned
  refine ⟨_, trivial, owned, rfl, fun memory same => ?_⟩
  cases same
  exact ⟨stored, risk, rfl, (Option.some.inj sameRisk).symm, owned.scalps stored entering⟩

theorem limits_list : AnswersLimits (.listTrades 1000) {(.entering stored, some risk)} seen
      fun reply left _ => left = {(.entering stored, some risk)} ∧ ∀ listed, reply = .ok listed →
        limitsLists {(.entering stored, some risk)} listed := by
  intro world rest choice reply next _ owned _ answered
  have entering := (LimitsOwned.at_stage owned).1
  have read : world.trades = stored := owned.read stored (by rw [sought, entering]; rfl)
  rcases committing_cases answered with ⟨rfl, rfl⟩ | ⟨⟨error, rfl⟩, rfl⟩
  · refine ⟨_, trivial, owned, rfl, fun listed same => ?_⟩
    cases same
    exact ⟨stored, risk, rfl, by rw [read]⟩
  · refine ⟨_, trivial, owned, rfl, fun listed same => ?_⟩
    cases same

theorem token_inj {other : List ActiveTrade} {otherRisk : RiskConfig} (same : ({(.entering stored,
      some risk)} : Multiset LimitsToken) = {(.entering other, some otherRisk)}) :
    stored = other ∧ risk = otherRisk := by
  obtain ⟨stages, risks⟩ := Prod.mk.inj (Multiset.singleton_inj.mp same)
  exact ⟨CycleStage.entering.inj stages, Option.some.inj risks⟩

section

variable {trade : ActiveTrade} (evidence : EntryEvidence (limitsKnows {(.entering stored, some
    risk)}) (limitsGated {(.entering stored, some risk)}) (limitsLists {(.entering stored, some
    risk)}) .cycle trade)

include evidence

theorem withinLimits_of_evidence (shows : (tradesOfDay trade.entryTime (listTrades 1000
      stored)).length = (tradesOfDay trade.entryTime stored).length) :
    WithinLimits risk stored trade := by
  cases evidence with
  | signal gateRead entry listing dayRead day signalRead limits _ _ =>
    obtain ⟨_, _, sameGate, gateRisk, cached⟩ := gateRead
    obtain ⟨_, _, sameListing, rfl⟩ := listing
    obtain ⟨_, _, sameDay, dayRisk, _⟩ := dayRead
    obtain ⟨_, _, sameSignal, signalRisk, scalps⟩ := signalRead
    obtain ⟨rfl, rfl⟩ := token_inj sameGate
    obtain ⟨rfl, rfl⟩ := token_inj sameListing
    obtain ⟨rfl, rfl⟩ := token_inj sameDay
    obtain ⟨rfl, rfl⟩ := token_inj sameSignal
    refine withinLimits_of_gates gateRisk dayRisk signalRisk cached
      (perm_tradesOfDay_listTrades shows) (fun scalp => ?_) entry day limits
    rw [← hasScalp_iff] at scalp ⊢
    exact scalps scalp

theorem limits_enter {seen : StrategyWorld} : AnswersLimits (.saveTrade trade .entry)
      {(.entering stored, some risk)} seen fun reply left _ => match reply with
        | .ok _ => left = {(.entered, none)}
        | .error _ => left = {(.entering stored, some risk)} := by
  refine answers_committing (fun world rest _ owned undisturbed => ?_) fun _ _ => ⟨trivial, rfl⟩
  obtain ⟨entering, sameRisk⟩ := LimitsOwned.at_stage owned
  have seeks : world.sought = some stored := by rw [sought, entering]; rfl
  have shows : (tradesOfDay trade.entryTime (listTrades 1000 stored)).length =
      (tradesOfDay trade.entryTime stored).length := by
    simpa only [entriesUndisturbed, entryUndisturbed, seeks, Option.all_some,
      decide_eq_true_eq] using undisturbed
  have entries : EntryLimitsHold (world.savedTrade trade .entry) := by
    intro record member
    rcases Stored.mem_concat.mp member with before | rfl
    · exact owned.entries record before
    · have limits := withinLimits_of_evidence evidence shows
      rw [Option.some.inj sameRisk, ← owned.read stored seeks] at limits
      exact limits
  have moved : LimitsOwned (world.savedTrade trade .entry) ({(.entered, none)} + rest) :=
    owned.moveTo .entered rfl (fun _ seeks => by cases seeks) (fun _ entering => by cases entering)
      entries
  exact ⟨({(CycleStage.entered, none)} : Multiset LimitsToken), trivial, moved, rfl⟩

end

end Rules

/-! ### Every task -/

def limitsRules : EntryRules entriesUndisturbed limitsDiscipline where
  owns := limitsOwns
  knows := limitsKnows
  gated := limitsGated
  lists := limitsLists
  incidental seen kind :=
    have quiet := not_movesEntry_of_isIncidental kind
    limits_quiet (fun moves => quiet (Or.inl moves))
      (fun enters => quiet (Or.inr (Or.inr (Or.inl enters))))
  mayEnd := by
    intro phase path credit owned mayEnd
    cases mayEnd with
    | started | managed => exact ⟨_, owned⟩
    | seeking remaining =>
      obtain ⟨stored, risk, owned, _⟩ := owned
      exact ⟨_, owned⟩
    | entering path =>
      cases path with
      | cycle =>
        obtain ⟨stored, risk, owned⟩ := owned
        exact ⟨_, owned⟩
      | forced => exact owned.elim
    | finished path => exact owned
  acquire := limits_acquire
  readManaged := by
    rintro _ seen rfl
    refine Answers.weaken (limits_readManaged seen) fun reply left world _ read => ?_
    cases reply with
    | ok active => exact read
    | error error => exact ⟨_, read⟩
  manage := by
    intro credit active seen owned
    have caches : ¬MovesEntry (.cacheActiveTrades active) := by
      rintro (moves | moves | moves | moves) <;> exact moves
    refine Owns.weaken (owns_managing (¬MovesEntry ·) (fun op world quiet => limits_quiet
      (fun moves => quiet (Or.inl moves)) (fun enters => quiet (Or.inr (Or.inr (Or.inl enters)))))
      caches fun trade _ => (within_evaluateActiveTrade trade).mono not_movesEntry_of_isManagement)
      fun result left world _ same => ?_
    exact same ▸ owned
  putDown := by
    intro credit active seen owned
    exact Answers.weaken (limits_quiet id id) fun _ left _ _ same => same ▸ owned
  readRemaining := by
    rintro _ seen rfl
    refine Answers.weaken (limits_readRemaining seen) fun reply left world _ read => ?_
    cases reply with
    | ok remaining => exact read
    | error error => exact ⟨_, read⟩
  gate := by
    rintro credit remaining feedHealthy seen ⟨stored, risk, rfl, rfl⟩
    exact limits_gate
  list := by
    rintro credit seen ⟨stored, risk, rfl⟩
    exact limits_list seen
  read := by
    rintro credit path seen owned
    cases path with
    | cycle =>
      obtain ⟨stored, risk, rfl⟩ := owned
      exact limits_read seen
    | forced => exact owned.elim
  enter := by
    rintro credit path trade seen owned evidence
    cases path with
    | cycle =>
      obtain ⟨stored, risk, rfl⟩ := owned
      refine Answers.weaken (limits_enter evidence) fun reply left world _ entered => ?_
      cases reply with
      | ok saved => exact entered
      | error error => exact ⟨_, entered⟩
    | forced => exact owned.elim
  dispatch := by
    rintro credit path trade op seen owned kind
    have quiet := not_movesEntry_of_isDispatch kind
    cases path with
    | cycle =>
      refine Answers.weaken (limits_quiet (fun moves => quiet (Or.inl moves))
        (fun enters => quiet (Or.inr (Or.inr (Or.inl enters))))) ?_
      rintro reply left world _ rfl
      cases reply <;> exact owned
    | forced => exact owned.elim
  order := by
    rintro credit path trade intent seen owned _ _ _
    cases path with
    | cycle =>
      refine Answers.weaken (limits_quiet id id) ?_
      rintro reply left world _ rfl
      cases reply <;> exact owned
    | forced => exact owned.elim
  refer := by
    rintro credit path trade orderId seen owned
    cases path with
    | cycle =>
      refine Answers.weaken (limits_quiet (fun moves => by cases moves) (fun enters => by
        rcases enters with same | same <;> cases same)) ?_
      rintro reply left world _ rfl
      cases reply <;> exact owned
    | forced => exact owned.elim
  simulated := by
    rintro credit path trade owned _
    cases path with
    | cycle => exact owned
    | forced => exact owned
  endEntry := by
    rintro credit path trade seen owned
    cases path with
    | cycle =>
      refine Answers.weaken (limits_quiet id id) ?_
      rintro reply left world _ rfl
      exact owned.elim (fun owned => ⟨_, owned⟩) fun owned => ⟨_, owned⟩
    | forced => exact owned.elim False.elim False.elim
  release := by
    rintro credit seen ⟨token, rfl⟩
    exact limits_release seen
  beginForced _ _ _ _ _ _ _ _ allowed := absurd allowed Bool.false_ne_true
  endForced _ owned := owned.elim

theorem limits_sound : Sound strategySystem entriesUndisturbed limitsDiscipline := by
  have quiet : ∀ op world, ¬MovesEntry op → AnswersLimits op 0 world (leaving 0) := fun op world quiet =>
    limits_quiet (fun moves => quiet (Or.inl moves))
      (fun enters => quiet (Or.inr (Or.inr (Or.inl enters))))
  refine limitsRules.sound (fun world tradeId reason _ => ?_)
    (fun op world control => quiet op world (not_movesEntry_of_isControl control))
    fun world total owned _ => ?_
  · exact Owns.weaken (Owns.of_within world (fun op next _ => quiet op next)
      (within_manualExitTrade_not_movesEntry tradeId reason)) fun _ _ _ _ _ => trivial
  · refine ⟨rfl, fun stored seeks => ?_, fun stored entering => ?_, owned.entries⟩
    · cases seeks
    · cases entering

/-! ### Every run -/

/-- From the first start on, every trade is entered within the limits over what is then stored, as
long as no entry is forced and none is disturbed while a cycle seeks it. -/
theorem entries_within_limits (stored : StrategyWorld)
    {last : Config StrategyOp StrategyReply Raised StrategyWorld}
    (reaches : strategySystem.Reaches entriesUndisturbed ⟨stored.firstStart, []⟩ last) :
    EntryLimitsHold last.world := by
  have first : LimitsOwned stored.firstStart 0 := by
    refine ⟨rfl, fun _ seeks => ?_, fun _ entering => ?_, fun _ member => ?_⟩
    · cases seeks
    · cases entering
    · exact absurd member List.not_mem_nil
  obtain ⟨credits, owned, _⟩ := (owned_idle first).reaches limits_sound reaches
  exact owned.entries

/-- What a run that ends shows of the positions at each entry. -/
def capacityShown (config : Config StrategyOp StrategyReply Raised StrategyWorld) :
    List (Nat × Nat) :=
  config.world.entries.map fun record =>
    ((getActiveTrades record.stored).length, record.config.risk.maxConcurrentPositions)

/-- A run in which a trade is entered within the limits. -/
theorem entries_within_limits_cycle :
    ∃ last, strategySystem.Reaches entriesUndisturbed
      ⟨(storedWorld {} []).firstStart, []⟩ last ∧ capacityShown last = [(0, 1)] ∧
        EntryLimitsHold last.world := by
  have runs : (strategySystem.run entriesUndisturbed ⟨(storedWorld {} []).firstStart, []⟩
      (enteringCycle 0)).map capacityShown = some [(0, 1)] := by
    decide +kernel
  obtain ⟨last, reaches, shown⟩ := System.reaches_of_map runs
  exact ⟨last, reaches, shown, entries_within_limits _ reaches⟩

/-- An operator forces a second entry while the one position that is allowed is open. -/
theorem forced_entry_over_capacity :
    ∃ last, strategySystem.Reaches Condition.unrestricted
      ⟨(storedWorld {} []).firstStart, []⟩ last ∧ ¬EntryLimitsHold last.world := by
  have runs : (strategySystem.run Condition.unrestricted ⟨(storedWorld {} []).firstStart, []⟩
      (forcedEntryAt 0 0 ++ forcedEntryAt 1 1000000)).map capacityShown = some [(0, 1), (1, 1)] := by
    decide +kernel
  obtain ⟨last, reaches, shown⟩ := System.reaches_of_map runs
  refine ⟨last, reaches, fun holds => ?_⟩
  have member : (1, 1) ∈ capacityShown last := by
    rw [shown]
    exact List.mem_cons_of_mem _ (List.mem_singleton_self _)
  obtain ⟨record, recorded, same⟩ := List.mem_map.mp member
  obtain ⟨active, most⟩ := Prod.mk.inj same
  have capacity := (holds record recorded).capacity
  rw [active, most] at capacity
  exact absurd capacity (lt_irrefl 1)

end BreezeTrading
