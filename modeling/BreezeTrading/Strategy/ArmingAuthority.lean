/-
This file proves when an armed live system was armed by a request whose preflight
was ready. Every operation keeps the invariant that the latest event bearing on the
authority over live orders is such an arming; the one exception is a configuration
that is posted with the flag set, which arms a live system without any preflight.
-/

import BreezeTrading.Strategy.Frame

namespace BreezeTrading

open Async Async.Coroutine

/-! ### What arms the system -/

/-- An operation arms after a preflight only for a request made in the live mode whose preflight
answered that it is ready. -/
def ArmsWhenReady : StrategyOp → Prop
  | .armSystem request => request.mode = .live ∧ request.readiness = some "READY_FOR_LIVE"
  | _ => True

namespace StrategyService

theorem armsWhenReady_of_isControl (op : StrategyOp) (control : IsControl op) :
    ArmsWhenReady op := by
  cases op with
  | armSystem request => exact control
  | _ => trivial

theorem stays_refuse (status : String) : (refuse status).Stays ArmsWhenReady fun _ => True :=
  Stays.perform_bind trivial fun _ => trivial

variable (trade : ActiveTrade) (contract : SelectedContract)

theorem stays_submitEntryOrder :
    (submitEntryOrder trade contract).Stays ArmsWhenReady fun _ => True := by
  unfold submitEntryOrder
  split
  · trivial
  · exact Stays.perform_bind trivial fun _ => Stays.perform_bind trivial fun _ => trivial

theorem stays_enterTrade : (enterTrade trade contract).Stays ArmsWhenReady fun _ => True := by
  refine Stays.perform_bind trivial fun _ => stays_finallyDo ?_ trivial
  refine (stays_suspendIf _ trivial).bind fun _ _ => (stays_suspendIf _ trivial).bind
    fun _ _ => (stays_suspendIf _ trivial).bind fun _ _ => Stays.perform_bind trivial
      fun _ => Stays.perform_bind trivial fun _ => ?_
  exact (stays_submitEntryOrder trade contract).bind fun _ _ => Stays.perform_bind trivial
    fun _ => trivial

theorem stays_enterForcedTrade :
    (enterForcedTrade trade contract).Stays ArmsWhenReady fun _ => True := by
  refine Stays.perform_bind trivial fun _ => stays_finallyDo ?_ trivial
  refine Stays.perform_bind trivial fun _ => (stays_suspendIf _ trivial).bind
    fun _ _ => Stays.perform_bind trivial fun _ => ?_
  exact (stays_submitEntryOrder trade contract).bind fun _ _ => Stays.perform_bind trivial
    fun _ => trivial

theorem stays_dispatchSignal (now : Int) (signal : EntrySignal) (contract : SelectedContract)
    (executionMode : AutoTradingMode) (config : AutoTradingConfig) :
    (dispatchSignal now signal contract executionMode config).Stays ArmsWhenReady
      fun _ => True := by
  unfold dispatchSignal
  split
  · exact stays_refuse _
  · exact (stays_enterTrade _ contract).bind fun _ _ => trivial

theorem stays_dispatchForced (strategy : StrategyName) (direction : TradeDirection)
    (optionType : OptionType) (now : Int) (market : MarketView) (contract : SelectedContract)
    (config : AutoTradingConfig) :
    (dispatchForced strategy direction optionType now market contract config).Stays ArmsWhenReady
      fun _ => True := by
  unfold dispatchForced
  dsimp only
  split
  · exact stays_refuse _
  · exact (stays_enterForcedTrade _ contract).bind fun _ _ => trivial

theorem stays_executeSignal (now : Int) (signal : EntrySignal) :
    (executeSignal now signal).Stays ArmsWhenReady fun _ => True := by
  refine Stays.perform_bind trivial fun _ => Stays.perform_bind trivial fun memory =>
    Stays.perform_bind trivial fun contract => ?_
  cases contract with
  | none => exact stays_refuse _
  | some contract =>
    refine Stays.perform_bind trivial fun _ => Stays.perform_bind trivial fun memory => ?_
    split
    · exact stays_refuse _
    · exact stays_dispatchSignal now signal contract _ _

theorem stays_seekEntry (now : Int) : (seekEntry now).Stays ArmsWhenReady fun _ => True := by
  refine Stays.perform_bind trivial fun listed => Stays.perform_bind trivial fun memory => ?_
  dsimp only
  split
  · exact stays_refuse _
  · refine Stays.perform_bind trivial fun signal => ?_
    cases signal with
    | none => trivial
    | some signal =>
      refine Stays.perform_bind trivial fun memory => ?_
      split
      · trivial
      · exact stays_executeSignal now signal

theorem armsWhenReady_of_isManagement {trade : ActiveTrade} (op : StrategyOp)
    (managed : IsManagement trade op) : ArmsWhenReady op := by
  cases op <;> trivial

theorem stays_evaluateCycle : evaluateCycle.Stays ArmsWhenReady fun _ => True := by
  refine Stays.perform_bind trivial fun _ => stays_finallyDo ?_ trivial
  refine Stays.perform_bind trivial fun now => Stays.perform_bind trivial fun market =>
    Stays.perform_bind trivial fun active => ?_
  have manages : (do
      let _ ← suspend (.cacheActiveTrades active)
      evaluateActiveTrades active : StrategyTask Unit).Stays ArmsWhenReady fun _ => True :=
    Stays.perform_bind trivial fun _ =>
      (within_evaluateActiveTrades fun trade _ =>
        (within_evaluateActiveTrade trade).mono armsWhenReady_of_isManagement).stays
  have released : ArmsWhenReady (.putDown (active.map ActiveTrade.tradeId)) := trivial
  refine (stays_finallyDo manages released).bind fun _ _ => Stays.perform_bind trivial
    fun remaining => Stays.perform_bind trivial fun gate => ?_
  split
  · refine Stays.bind ((stays_saveAutoConfig _ false).mono armsWhenReady_of_isControl fun _ => id)
      fun _ _ => ?_
    exact Stays.perform_bind trivial fun _ => trivial
  · split
    · exact stays_refuse _
    · exact stays_seekEntry now

theorem stays_forceEntry (strategy : StrategyName) (direction : TradeDirection)
    (optionType : Option OptionType) :
    (forceEntry strategy direction optionType).Stays ArmsWhenReady fun _ => True := by
  unfold forceEntry
  split
  · have ended : ArmsWhenReady .endForceEntry := trivial
    refine Stays.perform_bind trivial fun _ => stays_finallyDo ?_ ended
    refine Stays.perform_bind trivial fun now => Stays.perform_bind trivial fun market => ?_
    split
    · trivial
    · split
      · trivial
      · refine Stays.perform_bind trivial fun contract => ?_
        cases contract with
        | none => exact stays_refuse _
        | some contract =>
          refine Stays.perform_bind trivial fun memory => ?_
          split
          · trivial
          · exact stays_dispatchForced strategy direction _ now market contract _
  · trivial

theorem within_manualExitTrade_armsWhenReady (tradeId reason : String) :
    (manualExitTrade tradeId reason).Within ArmsWhenReady :=
  within_manualExitTrade trivial trivial (fun _ => trivial) fun _ => armsWhenReady_of_isManagement

end StrategyService

theorem StrategyStart.within_armsWhenReady (kind : StrategyStart) :
    kind.task.Within ArmsWhenReady := by
  cases kind with
  | evaluateCycle => exact StrategyService.stays_evaluateCycle.within.bind fun _ => trivial
  | forceEntry strategy direction optionType =>
    exact (StrategyService.stays_forceEntry strategy direction optionType).within.bind
      fun _ => trivial
  | manualExit tradeId reason =>
    exact StrategyService.within_manualExitTrade_armsWhenReady tradeId reason
  | getStatus | updateConfig config | setExecutionMode mode | arm armed | setAutoTrade enabled
  | toggleKillSwitch active =>
    refine Within.mono StrategyService.armsWhenReady_of_isControl
      (StrategyStart.within_isControl ?_)
    trivial

/-! ### The authority of an armed live system -/

/-- An armed live system was armed by a request made in the live mode whose preflight answered
that it is ready, and nothing that bears on that authority happened since. -/
def ArmingAuthorized (world : StrategyWorld) : Prop :=
  world.config.mode = .live → world.config.systemArmed = true →
    ∃ request, world.authority.head? = some (.armed request) ∧ request.mode = .live ∧
      request.readiness = some "READY_FOR_LIVE"

/-- A posted configuration that leaves a live system armed found it armed, and does not turn the
kill switch on. -/
def armsNothing (world : StrategyWorld) : StrategyOp → Bool
  | .applyConfig (.posted new) =>
      decide (new.mode = .live → new.systemArmed = true →
        world.config.systemArmed = true ∧ (new.killSwitch = true → world.config.killSwitch = true))
  | _ => true

/-- No posted configuration arms a live system. -/
def noArmingByConfiguration :
    Condition StrategyOp StrategyWorld StrategyAnswer StrategyStart Empty where
  answer world op _ := armsNothing world op

namespace StrategyWorld

variable {world next : StrategyWorld}

theorem authorized_of_disarmed (disarmed : world.config.systemArmed = false) :
    ArmingAuthorized world := by
  intro _ armed
  rw [disarmed] at armed
  cases armed

theorem authorized_of_same (held : ArmingAuthorized world) (config : next.config = world.config)
    (authority : next.authority = world.authority) : ArmingAuthorized next := by
  unfold ArmingAuthorized
  rw [config, authority]
  exact held

@[simp] theorem config_setArmed (world : StrategyWorld) (armed : Bool) (event : AuthorityEvent) :
    (world.setArmed armed event).config = { world.config with systemArmed := armed } :=
  Memory.config_modifyConfig _ _

@[simp] theorem config_configured (world : StrategyWorld) (new : AutoTradingConfig) :
    (world.configured new).config = new := Memory.config_replaceConfig _ _

theorem authorized_setArmed_false (event : AuthorityEvent) :
    ArmingAuthorized (world.setArmed false event) :=
  authorized_of_disarmed (by rw [config_setArmed])

section

variable (held : ArmingAuthorized world)

include held

/-- Arming keeps the authority of a system that is armed already, and otherwise has that of the
request. -/
theorem authorized_setArmed_true {request : ArmRequest} (ready : world.config.mode = .live →
      request.mode = .live ∧ request.readiness = some "READY_FOR_LIVE") :
    ArmingAuthorized (world.setArmed true (.armed request)) := by
  intro live _
  rw [config_setArmed] at live
  by_cases armed : world.config.systemArmed = true
  · have kept : (world.setArmed true (.armed request)).authority = world.authority := by
      simp [setArmed, armed]
    rw [kept]
    exact held live armed
  · have latest : (world.setArmed true (.armed request)).authority =
        .armed request :: world.authority := by
      simp [setArmed, armed]
    exact ⟨request, by rw [latest, List.head?_cons], ready live⟩

theorem authorized_configured {new : AutoTradingConfig} (keeps : new.mode = .live → new.systemArmed
      = true → world.config.systemArmed = true ∧ world.config.mode = .live ∧ (new.killSwitch = true
      → world.config.killSwitch = true)) : ArmingAuthorized (world.configured new) := by
  intro live armed
  rw [config_configured] at live armed
  obtain ⟨wasArmed, wasLive, sameSwitch⟩ := keeps live armed
  have kept : (world.configured new).authority = world.authority := by
    have noSwitch : ¬(new.killSwitch = true ∧ world.config.killSwitch = false) := by
      rintro ⟨on, off⟩
      rw [sameSwitch on] at off
      cases off
    simp [configured, authorityEvents, armed, wasArmed, live, wasLive, noSwitch]
  rw [kept]
  exact held wasLive wasArmed

/-- An update that is applied to another mode than the live one is refused when it would leave a
live system armed. -/
theorem authorized_applyConfig {change : ConfigChange} (keeps : (change.resolve world.config).mode =
      .live → (change.resolve world.config).systemArmed = true → world.config.systemArmed = true ∧
      ((change.resolve world.config).killSwitch = true → world.config.killSwitch = true))
    (applied : world.applyConfig change = .ok next) : ArmingAuthorized next := by
  unfold applyConfig at applied
  dsimp only at applied
  split at applied
  · cases applied
  · split at applied
    · cases applied
    · rename_i notRefused
      cases applied
      refine authorized_configured held fun live armed => ?_
      obtain ⟨wasArmed, sameSwitch⟩ := keeps live armed
      refine ⟨wasArmed, ?_, sameSwitch⟩
      by_contra other
      exact notRefused ⟨live, other, Or.inl wasArmed⟩

theorem authorized_switched {mode : AutoTradingMode}
    (applied : world.applyConfig (.switched mode) = .ok next) : ArmingAuthorized next :=
  authorized_applyConfig held (fun _ armed => by simp [ConfigChange.resolve] at armed) applied

theorem authorized_passEntryGate (trades : List ActiveTrade) (feedHealthy : Bool) :
    ArmingAuthorized (world.passEntryGate trades feedHealthy).2 := by
  unfold passEntryGate
  split
  · exact authorized_setArmed_false _
  · split
    · exact held
    · split
      · exact held
      · exact held

theorem authorized_setKillSwitch (active : Bool) :
    ArmingAuthorized (world.setKillSwitch active) := by
  cases active with
  | true =>
    refine authorized_of_disarmed ?_
    simp only [setKillSwitch, if_true]
    show (world.memory.modifyConfig _).config.systemArmed = false
    rw [Memory.config_modifyConfig]
  | false =>
    intro live armed
    have same : (world.setKillSwitch false).config = { world.config with killSwitch := false } :=
      Memory.config_modifyConfig _ _
    rw [same] at live armed
    exact held live armed

theorem authorized_answer {op : StrategyOp} {choice : StrategyAnswer}
    {reply : Except Raised (StrategyReply op)} (ready : ArmsWhenReady op)
    (posted : armsNothing world op = true) (answered : world.answer op choice = some (reply, next))
    : ArmingAuthorized next := by
  by_cases configures : IsConfigOp op
  · cases configures_of_answer configures answered with
    | gate trades feedHealthy => exact authorized_passEntryGate held trades feedHealthy
    | refused => exact held
    | disarmed => exact authorized_setArmed_false _
    | requested simulated => exact authorized_setArmed_true held fun live => absurd live simulated
    | armed request => exact authorized_setArmed_true held fun _ => ready
    | @applied _ change _ asked applied =>
      cases change with
      | posted new =>
        cases op with
        | applyConfig =>
          obtain rfl : ConfigChange.posted new = _ := asked
          have keeps : new.mode = .live → new.systemArmed = true → world.config.systemArmed = true ∧
              (new.killSwitch = true → world.config.killSwitch = true) := of_decide_eq_true posted
          refine authorized_applyConfig held ?_ applied
          exact keeps
        | beginSwitch => cases asked.1
        | _ => exact asked.elim
      | switched mode => exact authorized_switched held applied
    | autoTrade enabled =>
      intro live armed
      change (world.memory.modifyConfig _).config.mode = .live at live
      change (world.memory.modifyConfig _).config.systemArmed = true at armed
      rw [Memory.config_modifyConfig] at live armed
      exact held live armed
    | killSwitch active => exact authorized_setKillSwitch held active
  · have frame := answer_frame answered
    exact authorized_of_same held (frame.config configures) (frame.authority configures)

end

theorem authorized_restarted (world : StrategyWorld) : ArmingAuthorized world.restarted := by
  refine authorized_of_disarmed ?_
  show world.loadedConfig.systemArmed = false
  unfold loadedConfig
  split <;> rfl

end StrategyWorld

/-! ### Every run -/

/-- From any start on, an armed live system was armed by a request made in the live mode whose
preflight was ready, and its authority was not revoked since, as long as no posted configuration
arms a live system. -/
theorem armed_live_authorized (stored : StrategyWorld)
    {last : Config StrategyOp StrategyReply Raised StrategyWorld}
    (reaches : strategySystem.Reaches noArmingByConfiguration ⟨stored.restarted, []⟩ last) :
    ArmingAuthorized last.world := by
  have answers : ∀ world op choice reply next, ArmingAuthorized world → ArmsWhenReady op →
      noArmingByConfiguration.answer world op choice = true →
      strategySystem.answer world op choice = some (reply, next) → ArmingAuthorized next :=
    fun world op choice reply next held ready met answered =>
      StrategyWorld.authorized_answer held ready met answered
  refine (System.Reaches.invariant answers ?_ (fun _ cause => cause.elim) ?_
    (StrategyWorld.authorized_restarted stored) (fun task member => absurd member List.not_mem_nil)
    reaches).1
  · intro world kind task next held _ started
    cases started
    exact ⟨held, kind.within_armsWhenReady⟩
  · intro world _ _
    exact StrategyWorld.authorized_restarted world

/-- What is stored before the first start: no trades, and a configuration in the live mode. -/
def storedLive : StrategyWorld where
  trades := []
  ledger := []
  orders := []
  configRow := some { mode := .live }
  configFile := none
  keepsFile := false
  memory := ⟨fun _ => {}, 0, [], none⟩
  stage := none
  forcing := 0
  held := []
  dispatching := []
  engaged := false
  killReleases := 0
  authority := []
  entries := []
  buys := []
  modeChanges := []
  saves := []

/-- What a run that ends shows of the authority over live orders. -/
def authorityShown (config : Config StrategyOp StrategyReply Raised StrategyWorld) :
    AutoTradingMode × Bool × Option AuthorityEvent :=
  (config.world.config.mode, config.world.config.systemArmed, config.world.authority.head?)

/-- A request to arm is made in the live mode, and its preflight answers that it is ready. -/
def readyRequest : List (Event StrategyAnswer StrategyStart Empty) :=
  [.start (.arm true), .resume 0 .ok, .resume 0 (.readiness "READY_FOR_LIVE"), .resume 0 .ok]

/-- A run in which a ready request arms the live system. -/
theorem armed_live_authorized_readyRequest :
    ∃ last, strategySystem.Reaches noArmingByConfiguration ⟨storedLive.restarted, []⟩ last ∧
      last.world.config.mode = .live ∧ last.world.config.systemArmed = true ∧
      ArmingAuthorized last.world := by
  have runs : (strategySystem.run noArmingByConfiguration ⟨storedLive.restarted, []⟩
      readyRequest).map authorityShown =
        some (.live, true, some (.armed ⟨.live, some "READY_FOR_LIVE"⟩)) := by
    decide +kernel
  obtain ⟨last, reaches, shown⟩ := System.reaches_of_map runs
  obtain ⟨live, armed, _⟩ : last.world.config.mode = .live ∧
      last.world.config.systemArmed = true ∧ _ := by
    simpa only [authorityShown, Prod.mk.injEq] using shown
  exact ⟨last, reaches, live, armed, armed_live_authorized storedLive reaches⟩

/-- A configuration posted with the flag set arms a live system that was never armed by a
request, without any preflight. -/
theorem posted_configuration_arms :
    ∃ last, strategySystem.Reaches Condition.unrestricted ⟨storedLive.restarted, []⟩ last ∧
      ¬ArmingAuthorized last.world := by
  have runs : (strategySystem.run Condition.unrestricted ⟨storedLive.restarted, []⟩
      [.start (.updateConfig { mode := .live, systemArmed := true }), .resume 0 .ok]).map
        authorityShown = some (.live, true, some .armedByConfiguration) := by
    decide +kernel
  obtain ⟨last, reaches, shown⟩ := System.reaches_of_map runs
  refine ⟨last, reaches, fun authorized => ?_⟩
  obtain ⟨live, armed, latest⟩ : last.world.config.mode = .live ∧
      last.world.config.systemArmed = true ∧
        last.world.authority.head? = some .armedByConfiguration := by
    simpa only [authorityShown, Prod.mk.injEq] using shown
  obtain ⟨request, head, _⟩ := authorized live armed
  rw [latest] at head
  cases head

end BreezeTrading
