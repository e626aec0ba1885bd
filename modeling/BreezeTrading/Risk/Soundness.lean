/-
This file proves what an approval rests on. One evaluation asks every dependency
at most once, so it is a function of what they answer: whatever the environment
answers, an approval that is recorded for a LIVE intent has passed every check
with those answers, and a dependency that is missing or raises leads to a
refusal or to no decision at all.
-/

import BreezeTrading.Risk.Service

namespace BreezeTrading

open Async RiskService

/-- What the environment answers during one evaluation. -/
structure RiskEnvironment where
  systemMode : Except RiskError SystemMode
  existing : Except RiskError (Option Decision)
  saves : Except RiskError Unit
  positions : Except RiskError (List BrokerPositionResponse)
  funds : Except RiskError BrokerFunds
  position : String → Except RiskError (Option Position)
  session : Except RiskError SessionStatus
  feedHealth : Except RiskError FeedHealth
  gate : String → Except RiskError (Bool × String)
  duplicate : Except RiskError Bool
  publishes : Except RiskError Unit

namespace RiskEnvironment

/-- The answer to an operation; the state is the table of decisions. -/
def answer (environment : RiskEnvironment) (decisions : List Decision) (op : RiskOp) :
    Except RiskError (RiskReply op) × List Decision :=
  match op with
  | .getSystemMode => (environment.systemMode, decisions)
  | .getDecisionByIntent _ => (environment.existing, decisions)
  | .saveDecision _ decision =>
      match environment.saves with
      | .ok _ => (.ok (), decisions ++ [decision])
      | .error error => (.error error, decisions)
  | .getBrokerPositions => (environment.positions, decisions)
  | .getFunds => (environment.funds, decisions)
  | .getPosition instrumentId => (environment.position instrumentId, decisions)
  | .getSessionStatus => (environment.session, decisions)
  | .getExecutionFeedHealth => (environment.feedHealth, decisions)
  | .validateLiveOrder accountId => (environment.gate accountId, decisions)
  | .throttle _ => (environment.duplicate, decisions)
  | .publish _ => (environment.publishes, decisions)

end RiskEnvironment

namespace Soundness

/-! ### What an approval rests on -/

/-- A LIVE reduce-only SELL covered by the long quantity the broker reports of its contract. -/
structure CoveredExit (service : RiskService) (environment : RiskEnvironment)
    (intent : OrderIntent) : Prop where
  sell : intent.side = .sell
  reduceOnly : intent.reduceOnly = true
  gateway : service.brokerGateway ≠ none
  held : ∃ positions inContract, environment.positions = .ok positions ∧
    contractOf service intent = some inContract ∧
    intent.quantity ≤ longQuantity (positions.filter inContract)

/-- A LIVE BUY under a valid gate, a connected session, a healthy feed and an open mode, within
the limits on price, notional, positions and margin. -/
structure PermittedEntry (service : RiskService) (environment : RiskEnvironment)
    (intent : OrderIntent) : Prop where
  buy : intent.side = .buy
  gate : ∃ reason, environment.gate service.liveAccountId = .ok (true, reason)
  session : service.brokerSessionService = true ∧
    ∃ session, environment.session = .ok session ∧ session.connected = true
  feed : service.marketDataService = true ∧
    ∃ health, environment.feedHealth = .ok health ∧ health.healthy = true
  mode : environment.systemMode = .ok .normal
  gateway : service.brokerGateway ≠ none
  notional : intent.price * intent.quantity ≤ service.liveMaxOrderNotional
  positions : ∃ positions, environment.positions = .ok positions ∧
    ((openPositions positions).length : Int) < service.liveMaxOpenPositions
  margin : ∃ funds, environment.funds = .ok funds ∧
    intent.price * intent.quantity ≤ funds.availableMargin

/-- What every approved LIVE intent has. -/
structure WithinLimits (service : RiskService) (intent : OrderIntent) : Prop where
  positive : 0 < intent.quantity
  bounded : intent.quantity ≤ service.maxOrderQty
  limited : intent.orderType ≠ .market
  price : 1 / 20 < intent.price
  stop : intent.orderType = .stopLimit → ∃ trigger, intent.triggerPrice = some trigger ∧
    (intent.side = .sell → intent.price ≤ trigger) ∧
    (intent.side = .buy → trigger ≤ intent.price)

/-- An operation that is answered without an error. -/
def Answered (environment : RiskEnvironment) (op : RiskOp) : Prop :=
  ∀ decisions, ∃ reply, (environment.answer decisions op).1 = .ok reply

/-- Operations that only read. -/
def Reads : RiskOp → Prop
  | .saveDecision _ _ => False
  | _ => True

/-! ### Checks that verify -/

section

variable {environment : RiskEnvironment} {decisions : List Decision}

/-- A check passes: it ends without a refusal. -/
def Passes (environment : RiskEnvironment) (decisions : List Decision) (check : Check) : Prop :=
  (check.eval environment.answer decisions).1 = .ok none

/-- A check records nothing, and passes only when all it asks is answered. -/
structure Verifies (environment : RiskEnvironment) (check : Check) : Prop where
  quiet : ∀ decisions, (check.eval environment.answer decisions).2 = decisions
  answered : ∀ decisions, Passes environment decisions check →
    ∀ op ∈ check.trace environment.answer decisions, Answered environment op

variable {op : RiskOp} {systemMode : SystemMode} {decision : Decision} {more : List Decision}

theorem answer_reads (reads : Reads op) :
    environment.answer decisions op = ((environment.answer [] op).1, decisions) := by
  cases op <;> first | rfl | exact absurd reads id

theorem answered_of_reads (reads : Reads op) {reply : RiskReply op}
    (answered : (environment.answer [] op).1 = .ok reply) : Answered environment op :=
  fun decisions => ⟨reply, by rw [answer_reads reads, answered]⟩

@[simp] theorem passes_pass : Passes environment decisions pass := rfl

@[simp] theorem not_passes_refuse {rule reason : String} :
    ¬ Passes environment decisions (refuse rule reason) := nofun

@[simp] theorem passes_ite {condition : Prop} [Decidable condition] {first second : Check} :
    Passes environment decisions (if condition then first else second) ↔
      (condition → Passes environment decisions first) ∧
        (¬ condition → Passes environment decisions second) := by
  split <;> simp [*]

theorem passes_inquire (reads : Reads op) {next : RiskReply op → Check} :
    Passes environment decisions (inquire op >>= next) ↔
      ∃ reply, (environment.answer [] op).1 = .ok reply ∧
        Passes environment decisions (next reply) := by
  unfold Passes
  rw [Coroutine.eval_perform_bind, answer_reads reads]
  cases (environment.answer [] op).1 with
  | error error => simp
  | ok reply => simp

theorem verifies_pass : Verifies environment pass := ⟨fun _ => rfl, fun _ _ _ => nofun⟩

theorem verifies_refuse {rule reason : String} : Verifies environment (refuse rule reason) :=
  ⟨fun _ => rfl, fun _ passed => absurd passed not_passes_refuse⟩

theorem Verifies.ite {condition : Prop} [Decidable condition] {first second : Check}
    (yes : condition → Verifies environment first)
    (no : ¬ condition → Verifies environment second) :
    Verifies environment (if condition then first else second) := by
  split
  · exact yes ‹_›
  · exact no ‹_›

theorem Verifies.inquire (reads : Reads op) {next : RiskReply op → Check}
    (rest : ∀ reply, Verifies environment (next reply)) :
    Verifies environment (inquire op >>= next) := by
  constructor
  · intro decisions
    rw [Coroutine.eval_perform_bind, answer_reads reads]
    cases (environment.answer [] op).1 with
    | error error => rfl
    | ok reply => exact (rest reply).quiet decisions
  · intro decisions passed asked member
    obtain ⟨reply, answered, passedRest⟩ := (passes_inquire reads).mp passed
    rw [Coroutine.trace_perform_bind, answer_reads reads, answered] at member
    rcases List.mem_cons.mp member with rfl | later
    · exact answered_of_reads reads answered
    · exact (rest reply).answered decisions passedRest asked later

/-- Read, and keep an error as a value. -/
def asked (op : RiskOp) : RiskTask (Except RiskError (RiskReply op)) :=
  Coroutine.catching (do return .ok (← inquire op)) fun error => return .error error

theorem eval_asked (reads : Reads op) : (asked op).eval environment.answer decisions =
      (.ok (environment.answer [] op).1, decisions) := by
  unfold asked
  rw [Coroutine.eval_catching, Coroutine.eval_perform_bind, answer_reads reads]
  cases (environment.answer [] op).1 <;> rfl

theorem trace_asked (reads : Reads op) : (asked op).trace environment.answer decisions = [op] := by
  unfold asked
  rw [Coroutine.trace_catching, Coroutine.trace_perform_bind, Coroutine.eval_perform_bind,
    answer_reads reads]
  cases (environment.answer [] op).1 <;> rfl

section

variable (op : RiskOp) (reads : Reads op) {next : Except RiskError (RiskReply op) → Check}
  (refuses : ∀ error, ∃ rule reason, next (.error error) = refuse rule reason)

include reads refuses

theorem passes_asked : Passes environment decisions (asked op >>= next) ↔
      ∃ reply, (environment.answer [] op).1 = .ok reply ∧
        Passes environment decisions (next (.ok reply)) := by
  have unfolded : Passes environment decisions (asked op >>= next) ↔
      Passes environment decisions (next (environment.answer [] op).1) := by
    unfold Passes
    rw [Coroutine.eval_bind, eval_asked reads]
  rw [unfolded]
  cases (environment.answer [] op).1 with
  | error error =>
    obtain ⟨rule, reason, refused⟩ := refuses error
    simp [refused]
  | ok reply => simp

theorem Verifies.asked (rest : ∀ reply, Verifies environment (next (.ok reply))) :
    Verifies environment (asked op >>= next) := by
  constructor
  · intro decisions
    rw [Coroutine.eval_bind, eval_asked reads]
    show ((next (environment.answer [] op).1).eval environment.answer decisions).2 = decisions
    cases (environment.answer [] op).1 with
    | error error =>
      obtain ⟨rule, reason, refused⟩ := refuses error
      rw [refused]
      exact verifies_refuse.quiet decisions
    | ok reply => exact (rest reply).quiet decisions
  · intro decisions passed awaited member
    obtain ⟨reply, answered, passedRest⟩ := (passes_asked op reads refuses).mp passed
    rw [Coroutine.trace_bind, trace_asked reads, eval_asked reads, answered] at member
    rcases List.mem_cons.mp member with rfl | later
    · exact answered_of_reads reads answered
    · exact (rest _).answered decisions passedRest awaited later

end

theorem verifies_firstRefusal {list : List Check}
    (each : ∀ check ∈ list, Verifies environment check) :
    Verifies environment (firstRefusal list) ∧
      ∀ decisions, Passes environment decisions (firstRefusal list) ↔
        ∀ check ∈ list, Passes environment decisions check := by
  induction list with
  | nil => exact ⟨verifies_pass, fun _ => iff_of_true passes_pass nofun⟩
  | cons check rest inductionHypothesis =>
    have verifies := each check List.mem_cons_self
    obtain ⟨restVerifies, restPasses⟩ := inductionHypothesis fun other inRest =>
      each other (List.mem_cons_of_mem _ inRest)
    have quiet (decisions : List Decision) : check.eval environment.answer decisions =
        ((check.eval environment.answer decisions).1, decisions) :=
      Prod.ext rfl (verifies.quiet decisions)
    have passes (decisions : List Decision) :
        Passes environment decisions (firstRefusal (check :: rest)) ↔
          Passes environment decisions check ∧
            Passes environment decisions (firstRefusal rest) := by
      unfold Passes
      rw [firstRefusal, Coroutine.eval_bind, quiet]
      rcases (check.eval environment.answer decisions).1 with error | refusal | refusal
      · simp
      · simp
      · simp [Coroutine.pure_eq_done]
    refine ⟨⟨fun decisions => ?_, fun decisions passed op member => ?_⟩, fun decisions => ?_⟩
    · rw [firstRefusal, Coroutine.eval_bind, quiet]
      rcases (check.eval environment.answer decisions).1 with error | refusal | refusal
      · rfl
      · exact restVerifies.quiet decisions
      · rfl
    · obtain ⟨passed, passedRest⟩ := (passes decisions).mp passed
      rw [firstRefusal, Coroutine.trace_bind, quiet, passed] at member
      rcases List.mem_append.mp member with first | later
      · exact verifies.answered decisions passed op first
      · exact restVerifies.answered decisions passedRest op later
    · rw [passes, restPasses, List.forall_mem_cons]

/-! ### The checks -/

variable {service : RiskService} {intent : OrderIntent}

theorem brokerPositions_eq : brokerPositions = asked .getBrokerPositions := rfl

theorem verifies_checkReduceOnlySide : Verifies environment (checkReduceOnlySide intent) :=
  .ite (fun _ => verifies_refuse) fun _ => verifies_pass

theorem verifies_checkNakedSell : Verifies environment (checkNakedSell intent) :=
  .ite (fun _ => verifies_refuse) fun _ => verifies_pass

theorem verifies_checkHeld {heldQuantity : Int} :
    Verifies environment (checkHeld intent heldQuantity) :=
  .ite (fun _ => verifies_refuse) fun _ => verifies_pass

theorem verifies_checkReduceOnlyPosition :
    Verifies environment (checkReduceOnlyPosition service intent) := by
  refine .ite (fun _ => verifies_pass) fun _ => .ite (fun _ => ?_) fun _ => ?_
  · refine .ite (fun _ => verifies_refuse) fun _ => ?_
    refine Verifies.asked .getBrokerPositions trivial (fun _ => ⟨_, _, rfl⟩) ?_
    intro positions
    simp only
    cases service.brokerHeldQuantity intent positions with
    | none => exact verifies_refuse
    | some heldQuantity => exact verifies_checkHeld
  · exact .ite (fun _ => verifies_refuse) fun _ =>
      .inquire (by trivial) fun _ => verifies_checkHeld

theorem verifies_checkSession : Verifies environment (checkSession service intent) := by
  refine .ite (fun _ => verifies_pass) fun _ => .ite (fun _ => verifies_refuse) fun _ => ?_
  exact .inquire (by trivial) fun _ => .ite (fun _ => verifies_pass) fun _ => verifies_refuse

theorem verifies_checkFeed : Verifies environment (checkFeed service intent) := by
  refine .ite (fun _ => verifies_pass) fun _ => .ite (fun _ => verifies_refuse) fun _ => ?_
  exact .inquire (by trivial) fun _ => .ite (fun _ => verifies_pass) fun _ => verifies_refuse

theorem verifies_checkGate : Verifies environment (checkGate service intent) := by
  refine .ite (fun _ => verifies_pass) fun _ => ?_
  exact .inquire (by trivial) fun _ => .ite (fun _ => verifies_pass) fun _ => verifies_refuse

theorem verifies_checkMode : Verifies environment (checkMode systemMode intent) := by
  unfold checkMode
  cases blockingRule systemMode with
  | none => exact verifies_pass
  | some rule => exact .ite (fun _ => verifies_pass) fun _ => verifies_refuse

theorem verifies_checkQuantity : Verifies environment (checkQuantity service intent) :=
  .ite (fun _ => verifies_refuse) fun _ => verifies_pass

theorem verifies_checkOrderType : Verifies environment (checkOrderType intent) :=
  .ite (fun _ => verifies_refuse) fun _ => verifies_pass

theorem verifies_checkStopLimit : Verifies environment (checkStopLimit intent) := by
  refine .ite (fun _ => ?_) fun _ => verifies_pass
  exact .ite (fun _ => verifies_refuse) fun _ =>
    .ite (fun _ => verifies_refuse) fun _ => verifies_pass

theorem verifies_checkPrice : Verifies environment (checkPrice service intent) :=
  .ite (fun _ => verifies_refuse) fun _ => verifies_pass

theorem verifies_checkOpenPositions : Verifies environment (checkOpenPositions service) :=
  Verifies.asked .getBrokerPositions trivial (fun _ => ⟨_, _, rfl⟩) fun _ =>
    .ite (fun _ => verifies_refuse) fun _ => verifies_pass

theorem verifies_checkFunds : Verifies environment (checkFunds service intent) :=
  Verifies.asked .getFunds trivial (fun _ => ⟨_, _, rfl⟩) fun _ =>
    .ite (fun _ => verifies_refuse) fun _ => verifies_pass

theorem verifies_exposure :
    Verifies environment (firstRefusal [checkOpenPositions service, checkFunds service intent]) ∧
      ∀ decisions, Passes environment decisions
          (firstRefusal [checkOpenPositions service, checkFunds service intent]) ↔
        ∀ check ∈ [checkOpenPositions service, checkFunds service intent],
          Passes environment decisions check := by
  refine verifies_firstRefusal fun check member => ?_
  rcases List.mem_pair.mp member with rfl | rfl
  · exact verifies_checkOpenPositions
  · exact verifies_checkFunds

theorem verifies_checkExposure : Verifies environment (checkExposure service intent) := by
  refine .ite (fun _ => ?_) fun _ => verifies_pass
  exact .ite (fun _ => verifies_refuse) fun _ =>
    .ite (fun _ => verifies_refuse) fun _ => verifies_exposure.1

theorem verifies_checkDuplicate : Verifies environment (checkDuplicate service intent) :=
  .inquire (by trivial) fun _ => .ite (fun _ => verifies_refuse) fun _ => verifies_pass

theorem verifies_checks :
    ∀ check ∈ service.checks intent systemMode, Verifies environment check := by
  simp only [checks, List.forall_mem_cons, List.not_mem_nil, false_implies, implies_true, and_true]
  exact ⟨verifies_checkReduceOnlySide, verifies_checkNakedSell, verifies_checkReduceOnlyPosition,
    verifies_checkSession, verifies_checkFeed, verifies_checkGate, verifies_checkMode,
    verifies_checkQuantity, verifies_checkOrderType, verifies_checkStopLimit, verifies_checkPrice,
    verifies_checkExposure, verifies_checkDuplicate⟩

/-! ### What a passed check has established -/

theorem passes_checkHeld {heldQuantity : Int}
    (passed : Passes environment decisions (checkHeld intent heldQuantity)) :
    intent.quantity ≤ heldQuantity := by
  simp only [checkHeld, passes_ite, not_passes_refuse, imp_false] at passed
  omega

theorem coveredExit_of_passes (live : intent.tradingMode = .live)
    (exits : isReduceOnlyExit intent = true)
    (passed : Passes environment decisions (checkReduceOnlyPosition service intent)) :
    CoveredExit service environment intent := by
  obtain ⟨reduceOnly, sell⟩ : intent.reduceOnly = true ∧ intent.side = .sell := by
    simpa [isReduceOnlyExit] using exits
  simp only [checkReduceOnlyPosition, exits, live, passes_ite, unverified, not_passes_refuse,
    imp_false, brokerPositions_eq, reduceCtorEq, true_implies, false_implies, true_and,
    and_true, not_true_eq_false, not_false_eq_true] at passed
  obtain ⟨gateway, verified⟩ := passed
  obtain ⟨positions, reported, passed⟩ :=
    (passes_asked .getBrokerPositions trivial (fun _ => ⟨_, _, rfl⟩)).mp (verified gateway)
  refine ⟨sell, reduceOnly, gateway, positions, ?_⟩
  cases contract : contractOf service intent with
  | none =>
    have unresolved : service.brokerHeldQuantity intent positions = none := by
      rw [brokerHeldQuantity, contract, Option.map_none]
    simp only [unresolved, not_passes_refuse] at passed
  | some inContract =>
    have resolved : service.brokerHeldQuantity intent positions =
        some (longQuantity (positions.filter inContract)) := by
      rw [brokerHeldQuantity, contract, Option.map_some]
    simp only [resolved] at passed
    exact ⟨inContract, reported, rfl, passes_checkHeld passed⟩

theorem buy_of_passes (live : intent.tradingMode = .live) (enters : isReduceOnlyExit intent = false)
    (passed : Passes environment decisions (checkNakedSell intent)) : intent.side = .buy := by
  simp only [checkNakedSell, live, enters, passes_ite, not_passes_refuse, true_and, and_true,
    imp_false] at passed
  cases side : intent.side with
  | buy => rfl
  | sell => exact absurd side passed.1

section

variable (enters : isLiveEntry intent = true)

include enters

theorem session_of_passes (passed : Passes environment decisions (checkSession service intent)) :
    service.brokerSessionService = true ∧
      ∃ session, environment.session = .ok session ∧ session.connected = true := by
  simp only [checkSession, enters, passes_ite, not_passes_refuse, imp_false, reduceCtorEq,
    false_implies, not_false_eq_true, true_implies, true_and, Bool.not_eq_false] at passed
  obtain ⟨present, verified⟩ := passed
  obtain ⟨session, answered, passed⟩ := (passes_inquire (by trivial)).mp (verified present)
  simp only [passes_ite, passes_pass, not_passes_refuse, imp_false, not_not] at passed
  exact ⟨present, session, answered, passed.2⟩

theorem feed_of_passes (passed : Passes environment decisions (checkFeed service intent)) :
    service.marketDataService = true ∧
      ∃ health, environment.feedHealth = .ok health ∧ health.healthy = true := by
  simp only [checkFeed, enters, passes_ite, not_passes_refuse, imp_false, reduceCtorEq,
    false_implies, not_false_eq_true, true_implies, true_and, Bool.not_eq_false] at passed
  obtain ⟨present, verified⟩ := passed
  obtain ⟨health, answered, passed⟩ := (passes_inquire (by trivial)).mp (verified present)
  simp only [passes_ite, passes_pass, not_passes_refuse, imp_false, not_not] at passed
  exact ⟨present, health, answered, passed.2⟩

theorem gate_of_passes (passed : Passes environment decisions (checkGate service intent)) :
    ∃ reason, environment.gate service.liveAccountId = .ok (true, reason) := by
  simp only [checkGate, enters, passes_ite, reduceCtorEq, false_implies, not_false_eq_true,
    true_implies, true_and] at passed
  obtain ⟨⟨authorized, reason⟩, answered, passed⟩ := (passes_inquire (by trivial)).mp passed
  simp only [passes_ite, passes_pass, not_passes_refuse, imp_false, not_not] at passed
  obtain rfl : authorized = true := passed.2
  exact ⟨reason, answered⟩

end

theorem mode_of_passes (enters : isReduceOnlyExit intent = false)
    (passed : Passes environment decisions (checkMode systemMode intent)) :
    systemMode = .normal := by
  cases systemMode with
  | normal => rfl
  | entryBlocked | exitOnly | halted =>
    simp [checkMode, blockingRule, enters] at passed

theorem exposure_of_passes (live : intent.tradingMode = .live)
    (enters : isReduceOnlyExit intent = false) (buy : intent.side = .buy)
    (passed : Passes environment decisions (checkExposure service intent)) :
    service.brokerGateway ≠ none ∧
      intent.price * intent.quantity ≤ service.liveMaxOrderNotional ∧
      (∃ positions, environment.positions = .ok positions ∧
        ((openPositions positions).length : Int) < service.liveMaxOpenPositions) ∧
      ∃ funds, environment.funds = .ok funds ∧
        intent.price * intent.quantity ≤ funds.availableMargin := by
  simp only [checkExposure, live, enters, buy, passes_ite, not_passes_refuse, imp_false,
    and_self, true_implies, not_true_eq_false, false_implies, and_true] at passed
  obtain ⟨gateway, verified⟩ := passed
  obtain ⟨notional, passed⟩ := verified gateway
  have both := (verifies_exposure.2 decisions).mp (passed notional)
  have openPassed := both _ List.mem_cons_self
  have fundsPassed := both _ (List.mem_cons_of_mem _ List.mem_cons_self)
  refine ⟨gateway, not_lt.mp notional, ?_, ?_⟩
  · obtain ⟨positions, answered, passed⟩ :=
      (passes_asked .getBrokerPositions trivial fun _ => ⟨_, _, rfl⟩).mp openPassed
    simp only [passes_ite, passes_pass, not_passes_refuse, imp_false, not_le] at passed
    exact ⟨positions, answered, passed.1⟩
  · obtain ⟨funds, answered, passed⟩ :=
      (passes_asked .getFunds trivial fun _ => ⟨_, _, rfl⟩).mp fundsPassed
    simp only [passes_ite, passes_pass, not_passes_refuse, imp_false, not_lt] at passed
    exact ⟨funds, answered, passed.1⟩

theorem stop_of_passes (passed : Passes environment decisions (checkStopLimit intent))
    (stopLimit : intent.orderType = .stopLimit) :
    ∃ trigger, intent.triggerPrice = some trigger ∧
      (intent.side = .sell → intent.price ≤ trigger) ∧
      (intent.side = .buy → trigger ≤ intent.price) := by
  simp only [checkStopLimit, stopLimit, passes_ite, passes_pass, not_passes_refuse, imp_false,
    true_implies, not_true_eq_false, and_true, not_or, not_and, not_lt, implies_true] at passed
  obtain ⟨positive, sides⟩ := passed
  cases triggered : intent.triggerPrice with
  | none =>
    rw [triggered] at positive
    exact absurd (by norm_num) positive
  | some trigger =>
    rw [triggered] at positive sides
    exact ⟨trigger, rfl, sides positive⟩

theorem withinLimits_of_passes (live : intent.tradingMode = .live)
    (quantity : Passes environment decisions (checkQuantity service intent))
    (orderType : Passes environment decisions (checkOrderType intent))
    (stopLimit : Passes environment decisions (checkStopLimit intent))
    (price : Passes environment decisions (checkPrice service intent)) :
    WithinLimits service intent := by
  simp only [checkQuantity, passes_ite, passes_pass, not_passes_refuse, imp_false, not_or,
    not_le, not_lt, implies_true, and_true] at quantity
  simp only [checkOrderType, passes_ite, passes_pass, not_passes_refuse, imp_false, live,
    true_and, implies_true, and_true] at orderType
  simp only [checkPrice, passes_ite, passes_pass, not_passes_refuse, imp_false, not_le,
    implies_true, and_true] at price
  exact ⟨quantity.1, quantity.2, orderType, price, stop_of_passes stopLimit⟩

/-! ### Evaluation -/

/-- What a dependency of the evaluation is asked: everything but to record and to publish. -/
def Depends : RiskOp → Prop
  | .saveDecision _ _ => False
  | .publish _ => False
  | _ => True

theorem checks_quiet (systemMode : SystemMode) :
    (firstRefusal (service.checks intent systemMode)).eval environment.answer decisions =
      (((firstRefusal (service.checks intent systemMode)).eval environment.answer decisions).1,
        decisions) :=
  Prod.ext rfl ((verifies_firstRefusal verifies_checks).1.quiet decisions)

theorem recordAndPublish_records :
    ((recordAndPublish intent decision).eval environment.answer decisions).2 =
      match environment.saves with
      | .ok _ => decisions ++ [decision]
      | .error _ => decisions := by
  rw [recordAndPublish, Coroutine.eval_perform_bind]
  simp only [RiskEnvironment.answer]
  cases environment.saves with
  | error error => rfl
  | ok saved =>
    show ((inquire (.publish decision) >>= fun _ => pure decision : RiskTask Decision).eval
      environment.answer (decisions ++ [decision])).2 = decisions ++ [decision]
    rw [Coroutine.eval_perform_bind, answer_reads (by trivial)]
    cases (environment.answer [] (.publish decision)).1 <;> rfl

section

variable (recorded : ((service.evaluateIntent intent).eval environment.answer decisions).2 =
    decisions ++ more) (added : decision ∈ more)

include recorded added

theorem evaluateIntent_records : ∃ systemMode refusal, environment.systemMode = .ok systemMode ∧
      ((firstRefusal (service.checks intent systemMode)).eval environment.answer decisions).1 =
        .ok refusal ∧
      decision = decisionOf intent systemMode refusal := by
  have unrecorded : decisions ≠ decisions ++ more := by
    intro same
    obtain rfl := List.self_eq_append_right.mp same
    cases added
  have read : environment.answer decisions .getSystemMode = (environment.systemMode, decisions) :=
    rfl
  rw [evaluateIntent, Coroutine.eval_perform_bind, read] at recorded
  cases mode : environment.systemMode with
  | error error =>
    rw [mode] at recorded
    exact absurd recorded unrecorded
  | ok systemMode =>
    rw [mode] at recorded
    simp only at recorded
    rw [Coroutine.eval_bind, checks_quiet] at recorded
    cases checked : ((firstRefusal (service.checks intent systemMode)).eval environment.answer
        decisions).1 with
    | error error =>
      rw [checked] at recorded
      exact absurd recorded unrecorded
    | ok refusal =>
      rw [checked] at recorded
      refine ⟨systemMode, refusal, rfl, checked, ?_⟩
      have saved : ((recordAndPublish intent (decisionOf intent systemMode refusal)).eval
          environment.answer decisions).2 = decisions ++ more := recorded
      rw [recordAndPublish_records] at saved
      split at saved
      · obtain rfl := List.append_cancel_left saved
        exact List.mem_singleton.mp added
      · exact absurd saved unrecorded

theorem passes_of_approved (approved : decision.approved = true) :
    ∃ systemMode, environment.systemMode = .ok systemMode ∧
      Passes environment decisions (firstRefusal (service.checks intent systemMode)) := by
  obtain ⟨systemMode, refusal, mode, checked, rfl⟩ := evaluateIntent_records recorded added
  cases refusal with
  | some refusal => cases approved
  | none => exact ⟨systemMode, mode, checked⟩

theorem answered_of_approved (approved : decision.approved = true) :
    ∀ op ∈ (service.evaluateIntent intent).trace environment.answer decisions, Depends op →
      Answered environment op := by
  obtain ⟨systemMode, mode, passed⟩ := passes_of_approved recorded added approved
  have read : environment.answer decisions .getSystemMode = (.ok systemMode, decisions) :=
    Prod.ext mode rfl
  intro op member depends
  rw [evaluateIntent, Coroutine.trace_perform_bind, read] at member
  rcases List.mem_cons.mp member with rfl | later
  · exact fun decisions => ⟨systemMode, mode⟩
  simp only at later
  rw [Coroutine.trace_bind, checks_quiet, passed] at later
  rcases List.mem_append.mp later with checking | recording
  · exact (verifies_firstRefusal verifies_checks).1.answered decisions passed op checking
  · have within : (recordAndPublish intent (decisionOf intent systemMode none)).Within
        fun op => ¬ Depends op :=
      (Coroutine.within_perform (by exact not_false)).bind fun _ =>
        (Coroutine.within_perform (by exact not_false)).bind fun _ => True.intro
    exact absurd depends (within.of_mem_trace recording)

end

theorem rests_of_passes (live : intent.tradingMode = .live)
    (mode : environment.systemMode = .ok systemMode)
    (passed : Passes environment decisions (firstRefusal (service.checks intent systemMode))) :
    WithinLimits service intent ∧
      (CoveredExit service environment intent ∨ PermittedEntry service environment intent) := by
  have each := ((verifies_firstRefusal verifies_checks).2 decisions).mp passed
  simp only [checks, List.forall_mem_cons, List.not_mem_nil, false_implies, implies_true,
    and_true] at each
  obtain ⟨-, nakedSell, reduceOnlyPosition, session, feed, gate, open', quantity, orderType,
    stopLimit, price, exposure, -⟩ := each
  refine ⟨withinLimits_of_passes live quantity orderType stopLimit price, ?_⟩
  cases exits : isReduceOnlyExit intent with
  | true => exact .inl (coveredExit_of_passes live exits reduceOnlyPosition)
  | false =>
    have enters : isLiveEntry intent = true := by simp [isLiveEntry, live, exits]
    have buy := buy_of_passes live exits nakedSell
    obtain ⟨gateway, notional, positions, margin⟩ := exposure_of_passes live exits buy exposure
    obtain rfl := mode_of_passes exits open'
    exact .inr ⟨buy, gate_of_passes enters gate, session_of_passes enters session,
      feed_of_passes enters feed, mode, gateway, notional, positions, margin⟩

theorem portfolioService_of_passes (paper : intent.tradingMode ≠ .live)
    (exits : isReduceOnlyExit intent = true)
    (passed : Passes environment decisions (checkReduceOnlyPosition service intent)) :
    service.portfolioService = true := by
  simp only [checkReduceOnlyPosition, exits, paper, passes_ite, unverified, not_passes_refuse,
    imp_false, reduceCtorEq, false_implies, true_implies, true_and, not_false_eq_true,
    Bool.not_eq_false] at passed
  exact passed.1

end

end Soundness

open Soundness

namespace Soundness

def exampleService : RiskService :=
  { maxOrderQty := 100
    liveAccountId := "account"
    portfolioService := true
    brokerGateway := some "breeze"
    brokerSessionService := true
    marketDataService := true
    liveMaxOrderNotional := 50000
    liveMaxOpenPositions := 2
    text := fun _ => "price"
    money := fun _ => "amount" }

def exampleEnvironment : RiskEnvironment :=
  { systemMode := .ok .normal
    existing := .ok none
    saves := .ok ()
    positions := .ok []
    funds := .ok ⟨20000, 20000, 0⟩
    position := fun _ => .ok none
    session := .ok ⟨true, some "CONNECTED"⟩
    feedHealth := .ok ⟨true, []⟩
    gate := fun _ => .ok (true, "LIVE authorization valid")
    duplicate := .ok false
    publishes := .ok () }

def exampleIntent : OrderIntent :=
  { intentId := "I1"
    correlationId := "C1"
    strategyInstanceId := none
    instrumentId := "INST-NIFTY-2026-01-29-25000-CE"
    symbol := "NIFTY"
    side := .buy
    orderType := .limit
    quantity := 75
    price := 120
    triggerPrice := none
    tradingMode := .live
    reduceOnly := false
    createdAt := 0 }

end Soundness

end BreezeTrading
