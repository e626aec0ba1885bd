/-
This file proves when the strategy kill switch holds: from the return of the call that engages it
until its release, the configuration keeps it, no trade is entered and nothing is bought. What
breaks this is an entry already past its gates when the switch is engaged, a configuration that
clears it, and a forced entry, which does not ask for it.
-/

import BreezeTrading.Strategy.EntryRules
import Mathlib.Algebra.Group.Prod

namespace BreezeTrading

open Async Async.Coroutine StrategyService

/-! ### The property -/

/-- While the kill switch is engaged the configuration keeps it, and no trade was entered and no
order to buy created. -/
structure KillSwitchHolds (world : StrategyWorld) : Prop where
  stays : world.engaged = true → world.config.killSwitch = true
  entries : ∀ record ∈ world.entries, record.engaged = false
  buys : ∀ record ∈ world.buys, record.engaged = false

/-- A cycle at this stage is past the kill switch. -/
def CycleStage.isPastSwitch : CycleStage → Bool
  | .entering _ | .entered => true
  | .started | .managing | .seeking _ => false

namespace StrategyWorld

/-- The switch is on, in memory and in what a start loads, and no entry is past it. -/
structure Halted (world : StrategyWorld) : Prop where
  inMemory : world.config.killSwitch = true
  stored : world.loadedConfig.killSwitch = true
  stage : ∀ stage, world.stage = some stage → stage.isPastSwitch = false
  forcing : world.forcing = 0

/-- The switch is on, in memory and in what a start loads, and no entry is past it. -/
def halted (world : StrategyWorld) : Bool :=
  world.config.killSwitch && world.loadedConfig.killSwitch &&
    !world.stage.any CycleStage.isPastSwitch && decide (world.forcing = 0)

theorem halted_iff {world : StrategyWorld} : world.halted = true ↔ world.Halted := by
  unfold halted
  rw [Bool.and_eq_true, Bool.and_eq_true, Bool.and_eq_true, Bool.not_eq_true',
    decide_eq_true_eq, Option.any_eq_false]
  constructor
  · rintro ⟨⟨⟨inMemory, stored⟩, stage⟩, forcing⟩
    exact ⟨inMemory, stored, fun reached same => by simpa using stage reached same, forcing⟩
  · rintro ⟨inMemory, stored, stage, forcing⟩
    exact ⟨⟨⟨inMemory, stored⟩, fun reached same => by simpa using stage reached same⟩, forcing⟩

end StrategyWorld

/-- The call that engages the switch returns in a halted service; while the switch is engaged no
configuration that is posted or stored clears it, and no entry is forced. -/
def switchRespected (world : StrategyWorld) : StrategyOp → Bool
  | .killSwitchReturned active call =>
      !(active && decide (call = world.killReleases)) || world.halted
  | .applyConfig (.posted new) => !world.engaged || new.killSwitch
  | .insertConfigRow object =>
      !world.engaged || world.configFile.isSome || (world.memory.objects object).killSwitch
  | .writeConfigFile object =>
      !world.engaged || !world.keepsFile || (world.memory.objects object).killSwitch
  | .beginForceEntry => !world.engaged
  | _ => true

def killSwitchRespected :
    Condition StrategyOp StrategyWorld StrategyAnswer StrategyStart Empty where
  answer world op _ := switchRespected world op

/-! ### The discipline -/

/-- A task owns the stage of its cycle, or a forced entry. While the switch is engaged the service
is halted. -/
structure SwitchOwned (world : StrategyWorld) (credit : Multiset CycleStage × Nat) : Prop where
  stage : credit.1 = unique world.stage
  forcing : credit.2 = world.forcing
  engaged : world.engaged = true → world.Halted
  entries : ∀ record ∈ world.entries, record.engaged = false
  buys : ∀ record ∈ world.buys, record.engaged = false

def switchDiscipline : Discipline StrategyWorld (Multiset CycleStage × Nat) where
  later _ _ := True
  refl _ := trivial
  trans _ _ := trivial
  holds := SwitchOwned

namespace StrategyWorld

variable {world next : StrategyWorld} {credit : Multiset CycleStage × Nat}

theorem Halted.of_same (halted : world.Halted) (config : next.config.killSwitch = true)
    (loaded : next.loadedConfig.killSwitch = true)
    (stage : next.stage = world.stage) (forcing : next.forcing = world.forcing) : next.Halted where
  inMemory := config
  stored := loaded
  stage reached same := halted.stage reached (stage ▸ same)
  forcing := forcing ▸ halted.forcing

theorem killSwitch_applyConfig {change : ConfigChange}
    (keeps : (change.resolve world.config).killSwitch = true)
    (applied : world.applyConfig change = .ok next) : next.config.killSwitch = true := by
  unfold applyConfig at applied
  dsimp only at applied
  split at applied
  · cases applied
  · split at applied
    · cases applied
    · cases applied
      have same : (world.configured (change.resolve world.config)).config =
          change.resolve world.config := Memory.config_replaceConfig _ _
      rw [same]
      exact keeps

theorem killSwitch_setArmed (on : world.config.killSwitch = true) (armed : Bool)
    (event : AuthorityEvent) : (world.setArmed armed event).config.killSwitch = true := by
  have same : (world.setArmed armed event).config = { world.config with systemArmed := armed } :=
    Memory.config_modifyConfig _ _
  rw [same]
  exact on

theorem killSwitch_passEntryGate (on : world.config.killSwitch = true)
    (trades : List ActiveTrade) (feedHealthy : Bool) :
    (world.passEntryGate trades feedHealthy).2.config.killSwitch = true := by
  unfold passEntryGate
  split
  · have cached : ({ world with
        memory := { world.memory with activeTradesCache := trades } } :
          StrategyWorld).config.killSwitch = true := on
    exact killSwitch_setArmed cached _ _
  · exact on

variable {op : StrategyOp} {choice : StrategyAnswer}

/-- While the switch is on, no operation on the configuration clears it but its release and a
configuration that is posted without it. -/
theorem killSwitch_answer {reply : Except Raised (StrategyReply op)}
    (on : world.config.killSwitch = true)
    (kept : ∀ new, op = .applyConfig (.posted new) → new.killSwitch = true)
    (answered : world.answer op choice = some (reply, next)) :
    next.config.killSwitch = true ∨ next.engaged = false := by
  by_cases configures : IsConfigOp op
  · cases configures_of_answer configures answered with
    | gate trades feedHealthy => exact Or.inl (killSwitch_passEntryGate on trades feedHealthy)
    | refused => exact Or.inl on
    | disarmed | requested | armed => exact Or.inl (killSwitch_setArmed on _ _)
    | @applied _ change _ asked applied =>
      refine Or.inl (killSwitch_applyConfig ?_ applied)
      cases change with
      | posted new =>
        cases op with
        | applyConfig => exact kept new (congrArg _ asked.symm)
        | beginSwitch => cases asked.1
        | _ => exact asked.elim
      | switched mode => exact on
    | autoTrade enabled =>
      refine Or.inl ?_
      change (world.memory.modifyConfig _).config.killSwitch = true
      rw [Memory.config_modifyConfig]
      exact on
    | killSwitch active =>
      cases active with
      | true =>
        refine Or.inl ?_
        change (world.memory.modifyConfig _).config.killSwitch = true
        rw [Memory.config_modifyConfig]
      | false => exact Or.inr rfl
  · rw [(answer_frame answered).config configures]
    exact Or.inl on

theorem loaded_answer {reply : Except Raised (StrategyReply op)} (engaged : world.engaged = true)
    (on : world.loadedConfig.killSwitch = true) (respected : switchRespected world op = true)
    (answered : world.answer op choice = some (reply, next)) :
    next.loadedConfig.killSwitch = true := by
  by_cases stores : op.storesConfig
  · cases op with
    | insertConfigRow object =>
      rcases committing_cases answered with ⟨_, rfl⟩ | ⟨_, rfl⟩
      · cases file : world.configFile with
        | some config =>
          simp only [loadedConfig, file] at on ⊢
          exact on
        | none =>
          simp only [switchRespected, engaged, file, Bool.not_true, Option.isSome_none,
            Bool.false_or] at respected
          exact respected
      · exact on
    | writeConfigFile object =>
      rcases committing_cases answered with ⟨_, rfl⟩ | ⟨_, rfl⟩
      · split
        · rename_i keeps
          simp only [switchRespected, engaged, keeps, Bool.not_true, Bool.false_or] at respected
          exact respected
        · exact on
      · exact on
    | _ => exact stores.elim
  · rw [(answer_frame answered).loaded stores]
    exact on

theorem engaged_answer {reply : Except Raised (StrategyReply op)}
    (respected : switchRespected world op = true)
    (answered : world.answer op choice = some (reply, next)) (engaged : next.engaged = true) :
    world.engaged = true ∨ world.Halted ∧ next = { world with engaged := true } := by
  by_cases moves : op.movesSwitch
  · cases op with
    | setKillSwitch active =>
      obtain rfl := always_next answered
      cases active with
      | true => exact Or.inl engaged
      | false => cases engaged
    | killSwitchReturned active call =>
      obtain rfl := always_next answered
      split at engaged
      · rename_i engages
        obtain ⟨rfl, latest⟩ := engages
        rw [if_pos ⟨rfl, latest⟩]
        simp only [switchRespected, latest, decide_true, Bool.and_self, Bool.not_true,
          Bool.false_or] at respected
        exact Or.inr ⟨halted_iff.mp respected, rfl⟩
      · exact Or.inl engaged
    | _ => exact moves.elim
  · rw [(answer_frame answered).engaged moves] at engaged
    exact Or.inl engaged

end StrategyWorld

open StrategyWorld

namespace SwitchOwned

variable {world next : StrategyWorld} {credit : Multiset CycleStage × Nat}

theorem answer {op : StrategyOp} {choice : StrategyAnswer}
    {reply : Except Raised (StrategyReply op)} (owned : SwitchOwned world credit)
    (quiet : ¬MovesEntry op) (respected : switchRespected world op = true)
    (answered : world.answer op choice = some (reply, next)) : SwitchOwned next credit := by
  have frame := answer_frame answered
  simp only [MovesEntry, not_or] at quiet
  obtain ⟨noStage, noForcing, noEntry, noBuy⟩ := quiet
  refine ⟨?_, ?_, fun engaged => ?_, ?_, ?_⟩
  · rw [frame.stage noStage]
    exact owned.stage
  · rw [frame.forcing noForcing]
    exact owned.forcing
  · rcases engaged_answer respected answered engaged with before | ⟨halted, rfl⟩
    · have halted := owned.engaged before
      have kept : ∀ new, op = .applyConfig (.posted new) → new.killSwitch = true := by
        rintro new rfl
        simpa only [switchRespected, before, Bool.not_true, Bool.false_or] using respected
      rcases killSwitch_answer halted.inMemory kept answered with on | released
      · exact halted.of_same on (loaded_answer before halted.stored respected answered)
          (frame.stage noStage) (frame.forcing noForcing)
      · rw [released] at engaged
        cases engaged
    · exact halted.of_same halted.inMemory halted.stored rfl rfl
  · rw [frame.entries noEntry]
    exact owned.entries
  · rw [frame.buys noBuy]
    exact owned.buys

theorem at_stage {stage : CycleStage} {rest : Multiset CycleStage × Nat}
    (owned : SwitchOwned world (({stage}, 0) + rest)) :
    world.stage = some stage ∧ rest.1 = 0 ∧ rest.2 = world.forcing :=
  ⟨(eq_of_unique owned.stage).1, (eq_of_unique owned.stage).2,
    (Nat.zero_add rest.2).symm.trans owned.forcing⟩

theorem moveTo {op : StrategyOp} {stage reached : CycleStage}
    {rest : Multiset CycleStage × Nat} (owned : SwitchOwned world (({stage}, 0) + rest))
    (frame : Frame op world next) (noForcing : ¬op.movesForcing) (noSwitch : ¬op.movesSwitch)
    (storesNothing : ¬op.storesConfig) (moved : next.stage = some reached)
    (on : world.config.killSwitch = true → next.config.killSwitch = true)
    (before : world.engaged = true → reached.isPastSwitch = false)
    (entries : ∀ record ∈ next.entries, record.engaged = false)
    (buys : ∀ record ∈ next.buys, record.engaged = false) :
    SwitchOwned next (({reached}, 0) + rest) := by
  obtain ⟨_, noOther, forcing⟩ := owned.at_stage
  refine ⟨?_, ?_, fun engaged => ?_, entries, buys⟩
  · rw [moved]
    exact congrArg ({reached} + ·) noOther
  · rw [frame.forcing noForcing]
    exact (Nat.zero_add rest.2).trans forcing
  · rw [frame.engaged noSwitch] at engaged
    have halted := owned.engaged engaged
    refine ⟨on halted.inMemory, ?_, fun other same => ?_, ?_⟩
    · rw [frame.loaded storesNothing]
      exact halted.stored
    · rw [moved] at same
      exact Option.some.inj same ▸ before engaged
    · rw [frame.forcing noForcing]
      exact halted.forcing

end SwitchOwned

/-! ### The operations of an entry -/

/-- A task past the switch: its cycle is, or it forces an entry. -/
def PastSwitch (credit : Multiset CycleStage × Nat) : Prop :=
  (∃ stage : CycleStage, credit = ({stage}, 0) ∧ stage.isPastSwitch = true) ∨ credit = (0, 1)

theorem SwitchOwned.not_engaged {world : StrategyWorld} {credit rest : Multiset CycleStage × Nat}
    (owned : SwitchOwned world (credit + rest)) (past : PastSwitch credit) :
    world.engaged = false := by
  by_contra engaged
  have halted := owned.engaged (Bool.not_eq_false _ ▸ engaged)
  rcases past with ⟨stage, rfl, isPast⟩ | rfl
  · rw [halted.stage stage owned.at_stage.1] at isPast
    cases isPast
  · have forcing : 1 + rest.2 = world.forcing := owned.forcing
    have none := halted.forcing
    omega

/-- What a task owns in each phase. -/
def switchOwns : Phase → Multiset CycleStage × Nat → Prop
  | .started, credit => credit = ({.started}, 0)
  | .managing _, credit | .managed _, credit => credit = ({.managing}, 0)
  | .seeking _, credit => ∃ stored, credit = ({.seeking stored}, 0)
  | .entering .cycle, credit => ∃ stored, credit = ({.entering stored}, 0)
  | .entered .cycle _, credit | .ordered .cycle _ _, credit => credit = ({.entered}, 0)
  | .completed .cycle _, credit | .failed .cycle _, credit => credit = ({.entered}, 0)
  | .finished .cycle, credit => ∃ stage, credit = ({stage}, 0)
  | .entering .forced, credit | .entered .forced _, credit => credit = (0, 1)
  | .ordered .forced _ _, credit | .completed .forced _, credit => credit = (0, 1)
  | .failed .forced _, credit | .finished .forced, credit => credit = (0, 1)

section Rules

variable {credit : Multiset CycleStage × Nat} {path : EntryPath} {trade : ActiveTrade}

abbrev AnswersSwitch := Answers strategySystem killSwitchRespected switchDiscipline

theorem answers_quiet {op : StrategyOp} (quiet : ¬MovesEntry op)
    {credit : Multiset CycleStage × Nat} {seen : StrategyWorld} :
    AnswersSwitch op credit seen (leaving credit) :=
  fun _ _ _ _ _ _ owned respected answered =>
    ⟨credit, trivial, owned.answer quiet respected answered, rfl⟩

variable (seen : StrategyWorld)

theorem answers_acquire : AnswersSwitch .acquireEvaluationLock 0 seen
      fun reply left _ => ∀ done, reply = .ok done → left = ({.started}, 0) := by
  intro world rest choice reply next _ owned _ answered
  rw [zero_add] at owned
  simp only [strategySystem, answer] at answered
  split at answered
  · rename_i free
    obtain rfl := always_next answered
    have noOther : rest.1 = 0 := owned.stage.trans (by rw [free, unique_none])
    refine ⟨({.started}, 0), trivial, ⟨?_, ?_, fun engaged => ?_, owned.entries, owned.buys⟩,
      fun _ _ => rfl⟩
    · exact congrArg ({.started} + ·) noOther
    · exact (Nat.zero_add rest.2).trans owned.forcing
    · have halted := owned.engaged engaged
      exact ⟨halted.inMemory, halted.stored, fun stage same => Option.some.inj same ▸ rfl,
        halted.forcing⟩
  · cases answered

theorem answers_release {stage : CycleStage} : AnswersSwitch .releaseEvaluationLock
      ({stage}, 0) seen fun _ _ _ => True := by
  intro world rest choice reply next _ owned _ answered
  obtain ⟨_, noOther, forcing⟩ := SwitchOwned.at_stage owned
  obtain rfl := always_next answered
  refine ⟨0, trivial, ?_, trivial⟩
  rw [zero_add]
  refine ⟨noOther, forcing, fun engaged => ?_, owned.entries, owned.buys⟩
  have halted := owned.engaged engaged
  exact ⟨halted.inMemory, halted.stored, fun _ same => absurd same (Option.some_ne_none _).symm,
    halted.forcing⟩

theorem answers_read {reader : TradeReader} {stage : CycleStage}
    (reached : List ActiveTrade → CycleStage) {seen : StrategyWorld}
    (moves : ∀ world : StrategyWorld, (world.afterRead reader).stage = some (reached world.trades))
    (before : ∀ stored, (reached stored).isPastSwitch = false) :
    AnswersSwitch (.getActiveTrades reader) ({stage}, 0) seen fun reply left _ => match reply with
        | .ok _ => ∃ stored, left = ({reached stored}, 0)
        | .error _ => left = ({stage}, 0) := by
  intro world rest choice reply next _ owned _ answered
  change world.answer (.getActiveTrades reader) choice = _ at answered
  have frame := answer_frame answered
  rcases committing_cases answered with ⟨rfl, rfl⟩ | ⟨⟨error, rfl⟩, rfl⟩
  · refine ⟨({reached world.trades}, 0), trivial, ?_, world.trades, rfl⟩
    refine owned.moveTo frame id id id (moves world) ?_ (fun _ => before _) ?_ ?_
    · rw [config_afterRead]
      exact id
    · rw [frame.entries id]
      exact owned.entries
    · rw [frame.buys id]
      exact owned.buys
  · exact ⟨_, trivial, owned, rfl⟩

theorem answers_gate {stored remaining : List ActiveTrade} {feedHealthy : Bool}
    {seen : StrategyWorld} :
    AnswersSwitch (.passEntryGate remaining feedHealthy) ({.seeking stored}, 0) seen
      fun reply left _ => (∃ stage, left = ({stage}, 0)) ∧ ∀ view, reply = .ok view →
        view.disarmed = none → view.memory.config.killSwitch = false →
          left = ({.entering stored}, 0) := by
  intro world rest choice reply next _ owned _ answered
  change world.answer (.passEntryGate remaining feedHealthy) choice = _ at answered
  have frame := answer_frame answered
  obtain ⟨rfl, rfl⟩ := Prod.mk.inj (always_cases answered)
  have reaches : ∀ reached : CycleStage,
      (world.passEntryGate remaining feedHealthy).2.stage = some reached →
      (world.engaged = true → reached.isPastSwitch = false) →
      SwitchOwned (world.passEntryGate remaining feedHealthy).2 (({reached}, 0) + rest) := by
    intro reached moved before
    refine owned.moveTo frame id id id moved
      (fun on => killSwitch_passEntryGate on remaining feedHealthy) before ?_ ?_
    · rw [frame.entries id]
      exact owned.entries
    · rw [frame.buys id]
      exact owned.buys
  have seeking := (SwitchOwned.at_stage owned).1
  rcases passEntryGate_cases seeking remaining feedHealthy with
    ⟨disarmed, stage⟩ | ⟨on, stage⟩ | ⟨off, _, _, _, _, stage⟩
  · refine ⟨_, trivial, reaches _ stage fun _ => rfl, ⟨_, rfl⟩, fun view same none _ => ?_⟩
    cases same
    exact absurd none disarmed
  · refine ⟨_, trivial, reaches _ stage fun _ => rfl, ⟨_, rfl⟩, fun view same _ off => ?_⟩
    cases same
    rw [on] at off
    cases off
  · refine ⟨_, trivial, reaches _ stage fun engaged => ?_, ⟨_, rfl⟩, fun _ _ _ _ => rfl⟩
    have on := (owned.engaged engaged).inMemory
    rw [off] at on
    cases on

theorem answers_enter {purpose : SavePurpose} {left : Multiset CycleStage × Nat}
    (past : PastSwitch credit) (enters : purpose = .entry ∨ purpose = .forcedEntry)
    (moves : ∀ (world : StrategyWorld) (rest : Multiset CycleStage × Nat),
      SwitchOwned world (credit + rest) → world.engaged = false →
        (left + rest).1 = unique (world.savedTrade trade purpose).stage ∧
          (left + rest).2 = world.forcing) {seen : StrategyWorld} :
    AnswersSwitch (.saveTrade trade purpose) credit
      seen fun reply last _ => match reply with
        | .ok _ => last = left
        | .error _ => last = credit := by
  intro world rest choice reply next _ owned _ answered
  change world.answer (.saveTrade trade purpose) choice = _ at answered
  have notEngaged := owned.not_engaged past
  have frame := answer_frame answered
  rcases committing_cases answered with ⟨rfl, rfl⟩ | ⟨⟨error, rfl⟩, rfl⟩
  · obtain ⟨stage, forcing⟩ := moves world rest owned notEngaged
    refine ⟨left, trivial, ⟨stage, ?_, fun engaged => ?_, ?_, ?_⟩, rfl⟩
    · rw [frame.forcing id]
      exact forcing
    · rw [frame.engaged id, notEngaged] at engaged
      cases engaged
    · have recorded : (world.savedTrade trade purpose).entries =
          world.entries ++ [⟨trade, world.trades, world.config, world.engaged⟩] := by
        rcases enters with rfl | rfl
        · rfl
        · rfl
      rw [recorded]
      intro record member
      rcases Stored.mem_concat.mp member with before | rfl
      · exact owned.entries record before
      · exact notEngaged
    · rw [frame.buys id]
      exact owned.buys
  · exact ⟨credit, trivial, owned, rfl⟩

theorem answers_order {intent : IntentRequest} (past : PastSwitch credit) {seen : StrategyWorld} :
    AnswersSwitch (.createOrderIntent intent) credit seen (leaving credit) := by
  intro world rest choice reply next _ owned _ answered
  have notEngaged := owned.not_engaged past
  rcases ordering_cases answered with ⟨orderId, _, rfl, _⟩ | ⟨_, rfl⟩
  · refine ⟨credit, trivial, ⟨owned.stage, owned.forcing, fun engaged => ?_, owned.entries, ?_⟩,
      rfl⟩
    · rw [show (world.createdOrder orderId intent).engaged = world.engaged from rfl,
        notEngaged] at engaged
      cases engaged
    · intro record member
      simp only [createdOrder] at member
      split at member
      · rcases Stored.mem_concat.mp member with before | rfl
        · exact owned.buys record before
        · exact notEngaged
      · exact owned.buys record member
  · exact ⟨credit, trivial, owned, rfl⟩

theorem answers_beginForced : AnswersSwitch .beginForceEntry 0 seen (leaving (0, 1)) := by
  intro world rest choice reply next _ owned respected answered
  rw [zero_add] at owned
  obtain rfl := always_next answered
  refine ⟨(0, 1), trivial, ⟨?_, ?_, fun engaged => ?_, owned.entries, owned.buys⟩, rfl⟩
  · exact (zero_add rest.1).trans owned.stage
  · exact (Nat.add_comm 1 rest.2).trans (congrArg (· + 1) owned.forcing)
  · have notEngaged : world.engaged = false := by
      simpa only [killSwitchRespected, switchRespected, Bool.not_eq_true'] using respected
    rw [show ({ world with forcing := world.forcing + 1 } : StrategyWorld).engaged = world.engaged
      from rfl, notEngaged] at engaged
    cases engaged

theorem answers_endForced : AnswersSwitch .endForceEntry (0, 1) seen
      fun _ _ _ => True := by
  intro world rest choice reply next _ owned _ answered
  obtain rfl := always_next answered
  have forcing : 1 + rest.2 = world.forcing := owned.forcing
  refine ⟨0, trivial, ?_, trivial⟩
  rw [zero_add]
  refine ⟨(zero_add rest.1).symm.trans owned.stage, ?_, fun engaged => ?_, owned.entries,
    owned.buys⟩
  · exact (Nat.add_sub_cancel_left 1 rest.2).symm.trans (congrArg (· - 1) forcing)
  · have halted := owned.engaged engaged
    have noneForced := halted.forcing
    omega

end Rules

/-! ### Every task -/

theorem pastSwitch_of_entered {path : EntryPath} {trade : ActiveTrade}
    {credit : Multiset CycleStage × Nat} (owned : switchOwns (.entered path trade) credit) :
    PastSwitch credit := by
  cases path with
  | cycle => exact Or.inl ⟨.entered, owned, rfl⟩
  | forced => exact Or.inr owned

/-- The rules of an entry: a task past the switch moves, enters and buys only while the switch is
not engaged. -/
def switchRules : EntryRules killSwitchRespected switchDiscipline where
  owns := switchOwns
  knows _ _ := True
  gated _ _ := True
  lists _ _ := True
  incidental seen kind := answers_quiet (not_movesEntry_of_isIncidental kind)
  mayEnd := by
    intro phase path credit owned mayEnd
    cases mayEnd with
    | started | managed => exact ⟨_, owned⟩
    | seeking remaining =>
      obtain ⟨stored, owned⟩ := owned
      exact ⟨_, owned⟩
    | entering path =>
      cases path with
      | cycle =>
        obtain ⟨stored, owned⟩ := owned
        exact ⟨_, owned⟩
      | forced => exact owned
    | finished path => exact owned
  acquire := answers_acquire
  readManaged := by
    rintro _ seen rfl
    refine Answers.weaken (answers_read (fun _ => .managing) (fun _ => rfl)
      fun _ => rfl) fun reply left world _ read => ?_
    cases reply with
    | ok active =>
      obtain ⟨_, owned⟩ := read
      exact owned
    | error error => exact ⟨_, read⟩
  manage := by
    rintro credit active seen owned
    have caches : ¬MovesEntry (.cacheActiveTrades active) := by
      rintro (moves | moves | moves | moves) <;> exact moves
    refine Owns.weaken (owns_managing (¬MovesEntry ·) (fun op world quiet => answers_quiet quiet)
      caches fun trade _ => (within_evaluateActiveTrade trade).mono not_movesEntry_of_isManagement)
      fun result left world _ same => ?_
    exact same ▸ owned
  putDown := by
    rintro credit active seen owned
    have quiet : ¬MovesEntry (.putDown (active.map ActiveTrade.tradeId)) := by
      rintro (moves | moves | moves | moves) <;> exact moves
    exact Answers.weaken (answers_quiet quiet) fun _ left _ _ same => same ▸ owned
  readRemaining := by
    rintro _ seen rfl
    refine Answers.weaken (answers_read .seeking
      (fun _ => rfl) fun _ => rfl) fun reply left world _ read => ?_
    cases reply with
    | ok remaining => exact read
    | error error => exact ⟨_, read⟩
  gate := by
    rintro credit remaining feedHealthy seen ⟨stored, rfl⟩
    refine Answers.weaken answers_gate fun reply left world _ passed => ?_
    refine ⟨passed.1, fun view same notDisarmed off => ⟨⟨stored, ?_⟩, trivial⟩⟩
    exact passed.2 view same notDisarmed off
  list seen _ := Answers.weaken (answers_quiet (by
    rintro (moves | moves | moves | moves) <;> exact moves))
    fun _ _ _ _ same => ⟨same, fun _ _ => trivial⟩
  read seen _ := Answers.weaken (answers_quiet (by
    rintro (moves | moves | moves | moves) <;> exact moves))
    fun _ _ _ _ same => ⟨same, fun _ _ => trivial⟩
  enter := by
    rintro credit path trade seen owned _
    cases path with
    | cycle =>
      obtain ⟨stored, rfl⟩ := owned
      have past : PastSwitch ({.entering stored}, 0) := Or.inl ⟨_, rfl, rfl⟩
      have moves : ∀ (world : StrategyWorld) (rest : Multiset CycleStage × Nat),
          SwitchOwned world (({.entering stored}, 0) + rest) → world.engaged = false →
            (({CycleStage.entered}, 0) + rest).1 = unique (world.savedTrade trade .entry).stage ∧
              (({CycleStage.entered}, 0) + rest).2 = world.forcing := by
        intro world rest owned _
        obtain ⟨_, noOther, forcing⟩ := owned.at_stage
        exact ⟨congrArg ({CycleStage.entered} + ·) noOther, (Nat.zero_add rest.2).trans forcing⟩
      refine Answers.weaken (answers_enter past (Or.inl rfl) moves)
        fun reply left world _ entered => ?_
      cases reply with
      | ok saved => exact entered
      | error error => exact ⟨_, entered⟩
    | forced =>
      have past : PastSwitch credit := Or.inr owned
      have moves : ∀ (world : StrategyWorld) (rest : Multiset CycleStage × Nat),
          SwitchOwned world (credit + rest) → world.engaged = false →
            (credit + rest).1 = unique (world.savedTrade trade .forcedEntry).stage ∧
              (credit + rest).2 = world.forcing :=
        fun world rest owned _ => ⟨owned.stage, owned.forcing⟩
      refine Answers.weaken (answers_enter past (Or.inr rfl) moves)
        fun reply left world _ entered => ?_
      cases reply with
      | ok saved => exact entered ▸ owned
      | error error => exact entered ▸ owned
  dispatch := by
    rintro credit path trade op seen owned kind
    refine Answers.weaken (answers_quiet (not_movesEntry_of_isDispatch kind))
      fun reply left world _ same => ?_
    cases reply with
    | ok value => exact same ▸ owned
    | error error =>
      subst same
      cases path with
      | cycle => exact owned
      | forced => exact owned
  order := by
    rintro credit path trade intent seen owned _ _ _
    refine Answers.weaken (answers_order (pastSwitch_of_entered owned)) ?_
    rintro reply left world _ rfl
    cases path with
    | cycle => cases reply <;> exact owned
    | forced => cases reply <;> exact owned
  refer := by
    rintro credit path trade orderId seen owned
    have quiet : ¬MovesEntry (.saveTrade
        { trade with entryOrderId := some orderId, state := .entryPending } .reference) := by
      rintro (moves | moves | moves | moves)
      · cases moves
      · exact moves
      · rcases moves with same | same <;> cases same
      · exact moves
    refine Answers.weaken (answers_quiet quiet) ?_
    rintro reply left world _ rfl
    cases path with
    | cycle => cases reply <;> exact owned
    | forced => cases reply <;> exact owned
  simulated := by
    rintro credit path trade owned _
    cases path with
    | cycle => exact owned
    | forced => exact owned
  endEntry := by
    rintro credit path trade seen owned
    have quiet : ¬MovesEntry (.endEntry trade.tradeId) := by
      rintro (moves | moves | moves | moves) <;> exact moves
    refine Answers.weaken (answers_quiet quiet) ?_
    rintro reply left world _ rfl
    cases path with
    | cycle => exact owned.elim (fun owned => ⟨_, owned⟩) fun owned => ⟨_, owned⟩
    | forced => exact owned.elim id id
  release := by
    rintro credit seen ⟨stage, rfl⟩
    exact answers_release seen
  beginForced seen := Answers.weaken (answers_beginForced seen) fun _ _ _ _ same _ _ => same
  endForced := by
    rintro credit seen rfl
    exact answers_endForced seen

theorem SwitchOwned.restarted {world : StrategyWorld} {total : Multiset CycleStage × Nat}
    (owned : SwitchOwned world total) : SwitchOwned world.restarted 0 := by
  refine ⟨rfl, rfl, fun engaged => ?_, owned.entries, owned.buys⟩
  have stored := (owned.engaged engaged).stored
  refine ⟨stored, ?_, fun stage same => absurd same (Option.some_ne_none stage).symm, rfl⟩
  cases keeps : world.keepsFile with
  | true =>
    simp only [StrategyWorld.restarted, keeps, if_true, loadedConfig]
    exact stored
  | false =>
    cases file : world.configFile with
    | some config =>
      simp only [loadedConfig, file] at stored
      simp only [StrategyWorld.restarted, keeps, Bool.false_eq_true, if_false, loadedConfig, file]
      exact stored
    | none =>
      simp only [StrategyWorld.restarted, keeps, Bool.false_eq_true, if_false, file]
      exact stored

theorem switch_sound : Sound strategySystem killSwitchRespected switchDiscipline := by
  refine switchRules.sound (fun world tradeId reason _ => ?_)
    (fun op world control => answers_quiet (not_movesEntry_of_isControl control))
    fun world total owned _ => SwitchOwned.restarted owned
  exact Owns.weaken (Owns.of_within world (fun op next _ quiet => answers_quiet quiet)
    (within_manualExitTrade_not_movesEntry tradeId reason)) fun _ _ _ _ _ => trivial

/-! ### Every run -/

/-- From the first start on, the kill switch holds while it is engaged, as long as the call that
engages it returns in a halted service, no configuration that is posted or stored clears it, and
no entry is forced against it. -/
theorem kill_switch_holds (stored : StrategyWorld)
    {last : Config StrategyOp StrategyReply Raised StrategyWorld}
    (reaches : strategySystem.Reaches killSwitchRespected ⟨stored.firstStart, []⟩ last) :
    KillSwitchHolds last.world := by
  have first : SwitchOwned stored.firstStart 0 :=
    ⟨rfl, rfl, fun engaged => absurd engaged Bool.false_ne_true,
      fun _ member => absurd member List.not_mem_nil,
      fun _ member => absurd member List.not_mem_nil⟩
  obtain ⟨credits, owned, _⟩ := (owned_idle first).reaches switch_sound reaches
  exact ⟨fun engaged => (owned.engaged engaged).inMemory, owned.entries, owned.buys⟩

/-- What a run that ends shows of the kill switch. -/
def switchShown (config : Config StrategyOp StrategyReply Raised StrategyWorld) :
    Bool × Bool × List Bool × Nat :=
  (config.world.engaged, config.world.config.killSwitch,
    config.world.entries.map EntryRecord.engaged, config.world.trades.length)

/-- The kill switch is engaged, and the call returns. -/
def engageSwitch : List (Event StrategyAnswer StrategyStart Empty) :=
  [.start (.toggleKillSwitch true), .resume 0 .ok, .resume 0 .ok, .resume 0 .ok, .resume 0 .ok,
    .resume 0 .ok]

/-- A cycle after that ends at its gate, and the switch holds. -/
theorem kill_switch_holds_engaged :
    ∃ last, strategySystem.Reaches killSwitchRespected ⟨(storedWorld {} []).firstStart, []⟩ last ∧
      last.world.engaged = true ∧ KillSwitchHolds last.world := by
  have runs : (strategySystem.run killSwitchRespected ⟨(storedWorld {} []).firstStart, []⟩
      (engageSwitch ++ [.start .evaluateCycle, .resume 1 .ok, .resume 1 (.time 0),
        .resume 1 (.market openMarket), .resume 1 .ok, .resume 1 .ok, .resume 1 .ok, .resume 1 .ok,
        .resume 1 .ok, .resume 1 .ok, .resume 1 .ok])).map switchShown =
          some (true, true, [], 0) := by
    decide +kernel
  obtain ⟨last, reaches, shown⟩ := System.reaches_of_map runs
  have engaged : last.world.engaged = true := congrArg Prod.fst shown
  exact ⟨last, reaches, engaged, kill_switch_holds _ reaches⟩

/-- An operator forces an entry although the call that engaged the kill switch has returned: the
trade is created. -/
theorem forced_entry_passes_switch :
    ∃ last, strategySystem.Reaches Condition.unrestricted
      ⟨(storedWorld {} []).firstStart, []⟩ last ∧ ¬KillSwitchHolds last.world := by
  have runs : (strategySystem.run Condition.unrestricted ⟨(storedWorld {} []).firstStart, []⟩
      (engageSwitch ++ forcedEntryAt 1 0)).map switchShown = some (true, true, [true], 1) := by
    decide +kernel
  obtain ⟨last, reaches, shown⟩ := System.reaches_of_map runs
  refine ⟨last, reaches, fun holds => ?_⟩
  have engaged : last.world.entries.map EntryRecord.engaged = [true] :=
    congrArg (fun shown => shown.2.2.1) shown
  have member : true ∈ last.world.entries.map EntryRecord.engaged := by
    rw [engaged]
    exact List.mem_singleton_self true
  obtain ⟨record, recorded, same⟩ := List.mem_map.mp member
  rw [holds.entries record recorded] at same
  cases same

end BreezeTrading
