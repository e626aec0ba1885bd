/-
This file defines the runs of the risk service: evaluations of order intents that interleave at
their awaits, and between them the fills of what was approved. Each evaluation reads what the
broker reports at that moment. A domain says which intents a run evaluates and what a fill does.
-/

import BreezeTrading.Risk.Service
import BreezeTrading.Lib.Ownership

namespace BreezeTrading

open Async RiskService

/-! ### The world -/

/-- An approved intent, with the quantity that is not yet filled. -/
structure ApprovedOrder where
  intent : OrderIntent
  left : Int
  deriving DecidableEq, Repr

/-- What evaluations read and write, with the intents being evaluated and the approved ones. The
margin is the one the broker last reported. -/
structure Exposure where
  mode : SystemMode
  decisions : List Decision
  positions : List BrokerPositionResponse
  margin : Option ℚ
  evaluating : List OrderIntent
  approved : List ApprovedOrder

namespace Exposure

/-- Nothing is being evaluated, and nothing is approved. -/
def opening (mode : SystemMode) (decisions : List Decision)
    (positions : List BrokerPositionResponse) : Exposure :=
  ⟨mode, decisions, positions, none, [], []⟩

/-- A decision is recorded; an approval stands until it is filled or closed. -/
def record (world : Exposure) (intent : OrderIntent) (decision : Decision) : Exposure :=
  { world with
    decisions := world.decisions ++ [decision]
    approved :=
      if decision.approved then world.approved ++ [⟨intent, intent.quantity⟩]
      else world.approved }

/-- The approved order at an index is filled by a quantity. -/
def fill (world : Exposure) (index : Nat) (order : ApprovedOrder) (quantity : Int)
    (positions : List BrokerPositionResponse) : Exposure :=
  { world with
    approved := world.approved.set index { order with left := order.left - quantity }
    positions := positions }

end Exposure

/-! ### Operations -/

/-- An operation of the evaluation of an intent, or the end of that evaluation. -/
inductive ExposureOp where
  | risk (intent : OrderIntent) (op : RiskOp)
  | finish (intent : OrderIntent)

@[reducible] def ExposureReply : ExposureOp → Type
  | .risk _ op => RiskReply op
  | .finish _ => Unit

/-- What the environment decides about one operation. -/
inductive ExposureAnswer where
  | ok
  | raises (name : String)
  | funds (funds : BrokerFunds)
  | position (position : Option Position)
  | session (status : SessionStatus)
  | feedHealth (health : FeedHealth)
  | authorization (authorized : Bool) (reason : String)
  | duplicate (seen : Bool)

namespace Exposure

/-- The answer to an operation of an evaluation. -/
def answerRisk (world : Exposure) (op : RiskOp) (choice : ExposureAnswer) :
    Option (Except RiskError (RiskReply op) × Exposure) :=
  match choice with
  | .raises name => some (.error ⟨name⟩, world)
  | choice =>
    match op, choice with
    | .getSystemMode, .ok => some (.ok world.mode, world)
    | .getDecisionByIntent intentId, .ok =>
        some (.ok (world.decisions.reverse.find? fun decision =>
          decide (decision.intentId = intentId)), world)
    | .saveDecision intent decision, .ok => some (.ok (), world.record intent decision)
    | .getBrokerPositions, .ok => some (.ok world.positions, world)
    | .getFunds, .funds funds =>
        some (.ok funds, { world with margin := some funds.availableMargin })
    | .getPosition _, .position position => some (.ok position, world)
    | .getSessionStatus, .session status => some (.ok status, world)
    | .getExecutionFeedHealth, .feedHealth health => some (.ok health, world)
    | .validateLiveOrder _, .authorization authorized reason =>
        some (.ok (authorized, reason), world)
    | .throttle _, .duplicate seen => some (.ok seen, world)
    | .publish _, .ok => some (.ok (), world)
    | _, _ => none

def answer (world : Exposure) (op : ExposureOp) (choice : ExposureAnswer) :
    Option (Except RiskError (ExposureReply op) × Exposure) :=
  match op with
  | .risk _ op => world.answerRisk op choice
  | .finish intent =>
      some (.ok (), { world with evaluating := world.evaluating.erase intent })

end Exposure

/-! ### The system -/

/-- Which intents are evaluated, and how the positions of the broker may change: by a fill of an
approved intent, and otherwise. -/
structure ExposureDomain where
  admits : OrderIntent → Bool
  fills : OrderIntent → Int → List BrokerPositionResponse → List BrokerPositionResponse → Bool
  books : List BrokerPositionResponse → List BrokerPositionResponse → Bool

/-- An evaluation that is called, or started by an order intent on the bus. -/
inductive ExposureStart where
  | evaluate (intent : OrderIntent)
  | deliver (intent : OrderIntent)

/-- The steps of the environment: the mode is set, an approved order is filled, cancelled,
rejected or expires, and the positions change by something else. -/
inductive ExposureDisturbance where
  | setMode (mode : SystemMode)
  | fill (index : Nat) (quantity : Int) (positions : List BrokerPositionResponse)
  | close (index : Nat)
  | book (positions : List BrokerPositionResponse)

/-- The part of an evaluation that the service runs; its decision is not awaited. -/
def ExposureStart.body (service : RiskService) : ExposureStart → RiskTask Unit
  | .evaluate intent => evaluateIntent service intent >>= fun _ => Coroutine.done ()
  | .deliver intent => handleOrderIntentEvent service intent

def ExposureStart.intent : ExposureStart → OrderIntent
  | .evaluate intent => intent
  | .deliver intent => intent

/-- The operations of one evaluation, under the name of its intent. -/
def ofEvaluation {Result : Type} (intent : OrderIntent) (task : RiskTask Result) :
    Coroutine ExposureOp ExposureReply RiskError Result :=
  task.embed (ExposureOp.risk intent) (fun _ reply => reply) id id

/-- An evaluation, up to its end: an error of it is logged. -/
def evaluation (service : RiskService) (kind : ExposureStart) :
    Coroutine ExposureOp ExposureReply RiskError Unit :=
  (ofEvaluation kind.intent (kind.body service)).catching (fun _ => .done ()) >>= fun _ =>
    Coroutine.perform (ExposureOp.finish kind.intent)

namespace Exposure

def start (service : RiskService) (domain : ExposureDomain) (world : Exposure)
    (kind : ExposureStart) :
    Option (Coroutine ExposureOp ExposureReply RiskError Unit × Exposure) :=
  if domain.admits kind.intent then
    some (evaluation service kind, { world with evaluating := kind.intent :: world.evaluating })
  else none

def disturb (domain : ExposureDomain) (world : Exposure) :
    ExposureDisturbance → Option Exposure
  | .setMode mode => some { world with mode := mode }
  | .fill index quantity positions =>
      match world.approved[index]? with
      | some order =>
        if 0 < quantity ∧ quantity ≤ order.left ∧
            domain.fills order.intent quantity world.positions positions then
          some (world.fill index order quantity positions)
        else none
      | none => none
  | .close index => some { world with approved := world.approved.eraseIdx index }
  | .book positions =>
      if domain.books world.positions positions then some { world with positions := positions }
      else none

/-- What is being evaluated is lost. -/
def restart (world : Exposure) : Exposure := { world with evaluating := [] }

end Exposure

/-- Evaluations of the intents of a domain, over the exposure. -/
def exposureSystem (service : RiskService) (domain : ExposureDomain) :
    System ExposureOp ExposureReply RiskError Exposure ExposureAnswer ExposureStart
      ExposureDisturbance where
  answer := Exposure.answer
  start := Exposure.start service domain
  disturb := Exposure.disturb domain
  restart := Exposure.restart

/-- A condition on the runs of evaluations. -/
abbrev ExposureCondition :=
  Condition ExposureOp Exposure ExposureAnswer ExposureStart ExposureDisturbance

/-- Without a condition. -/
abbrev anyExposure : ExposureCondition := Condition.unrestricted

/-! ### Sums over the approved orders -/

namespace Exposure

section Sums

variable {Number : Type} [AddCommGroup Number] (weight : ApprovedOrder → Number)
  {orders : List ApprovedOrder} {index : Nat} {order : ApprovedOrder}

theorem sum_set (found : orders[index]? = some order) (renewed : ApprovedOrder) :
    ((orders.set index renewed).map weight).sum =
      (orders.map weight).sum - weight order + weight renewed := by
  obtain ⟨bound, rfl⟩ := List.getElem?_eq_some_iff.mp found
  have bound' : index < (orders.map weight).length := by rwa [List.length_map]
  rw [List.map_set, List.sum_set', dif_pos bound', List.getElem_map, sub_eq_add_neg, add_assoc]

theorem sum_eraseIdx (found : orders[index]? = some order) :
    ((orders.eraseIdx index).map weight).sum = (orders.map weight).sum - weight order := by
  obtain ⟨bound, rfl⟩ := List.getElem?_eq_some_iff.mp found
  have bound' : index < (orders.map weight).length := by rwa [List.length_map]
  rw [← List.CommMonoid.add_sum_eraseIdx bound', List.getElem_map, List.eraseIdx_map,
    add_sub_cancel_left]

end Sums

theorem erase_evaluating {evaluating : List OrderIntent} {intent : OrderIntent}
    {rest : Multiset OrderIntent} (all : (evaluating : Multiset OrderIntent) = {intent} + rest) :
    ((evaluating.erase intent : List OrderIntent) : Multiset OrderIntent) = rest := by
  rw [← Multiset.coe_erase, all, Multiset.singleton_add, Multiset.erase_cons_head]

end Exposure

/-! ### One evaluation within a run -/

namespace Exposure

/-- The system an evaluation sees of a run: it starts nothing and is not disturbed. -/
def riskPart :
    System RiskOp RiskReply RiskError Exposure ExposureAnswer ExposureStart ExposureDisturbance
    where
  answer := answerRisk
  start _ _ := none
  disturb _ _ := none
  restart world := world

/-- The condition of a run, on the operations of one evaluation. -/
def riskCondition (condition : ExposureCondition) (intent : OrderIntent) :
    Condition RiskOp Exposure ExposureAnswer ExposureStart ExposureDisturbance where
  answer world op choice := condition.answer world (.risk intent op) choice

/-- Operations that change nothing and report nothing of the account. -/
def Plain : RiskOp → Prop
  | .saveDecision _ _ => False
  | .getBrokerPositions => False
  | .getFunds => False
  | _ => True

variable {world next : Exposure} {choice : ExposureAnswer}

theorem answerRisk_plain {op : RiskOp} {reply : Except RiskError (RiskReply op)} (plain : Plain op)
    (answered : world.answerRisk op choice = some (reply, next)) : next = world := by
  cases op with
  | saveDecision | getBrokerPositions | getFunds => exact absurd plain id
  | _ =>
    cases choice <;> first
      | exact (congrArg Prod.snd (Option.some.inj answered)).symm
      | exact nomatch answered

theorem answerRisk_positions {reply : Except RiskError (List BrokerPositionResponse)}
    (answered : world.answerRisk .getBrokerPositions choice = some (reply, next)) :
    next = world ∧ ((choice = .ok ∧ reply = .ok world.positions) ∨
      ∃ error, reply = .error error) := by
  cases choice with
  | ok =>
    cases answered
    exact ⟨rfl, .inl ⟨rfl, rfl⟩⟩
  | raises name =>
    cases answered
    exact ⟨rfl, .inr ⟨_, rfl⟩⟩
  | _ => cases answered

theorem answerRisk_funds {reply : Except RiskError BrokerFunds}
    (answered : world.answerRisk .getFunds choice = some (reply, next)) :
    (next = world ∧ ∃ error, reply = .error error) ∨
      ∃ funds, choice = .funds funds ∧ reply = .ok funds ∧
        next = { world with margin := some funds.availableMargin } := by
  cases choice with
  | funds funds =>
    cases answered
    exact .inr ⟨funds, rfl, rfl, rfl⟩
  | raises name =>
    cases answered
    exact .inl ⟨rfl, _, rfl⟩
  | _ => cases answered

theorem answerRisk_save {intent : OrderIntent} {decision : Decision} {reply : Except RiskError Unit}
    (answered : world.answerRisk (.saveDecision intent decision) choice = some (reply, next)) :
    next = world.record intent decision ∨ next = world := by
  cases choice with
  | ok => exact .inl (congrArg Prod.snd (Option.some.inj answered)).symm
  | raises name => exact .inr (congrArg Prod.snd (Option.some.inj answered)).symm
  | _ => cases answered

/-! ### The checks that read nothing of the account -/

/-- What the checks ask of health, authorization and repetition. -/
def Consults : RiskOp → Prop
  | .getSessionStatus | .getExecutionFeedHealth | .validateLiveOrder _ | .throttle _ => True
  | _ => False

theorem plain_of_consults : ∀ op, Consults op → Plain op := by
  intro op consults
  cases op <;> first | exact consults | trivial

section Within

variable {service : RiskService} {intent : OrderIntent} {kind : RiskOp → Prop}

theorem within_pass : pass.Within kind := True.intro

theorem within_refuse (rule reason : String) : (refuse rule reason).Within kind := True.intro

theorem within_ite {condition : Prop} [Decidable condition] {first second : Check}
    (yes : condition → first.Within kind) (no : ¬ condition → second.Within kind) :
    (if condition then first else second).Within kind := by
  split
  · exact yes ‹_›
  · exact no ‹_›

theorem within_checkReduceOnlySide : (checkReduceOnlySide intent).Within Consults :=
  within_ite (fun _ => within_refuse _ _) fun _ => within_pass

theorem within_checkNakedSell : (checkNakedSell intent).Within Consults :=
  within_ite (fun _ => within_refuse _ _) fun _ => within_pass

theorem within_checkSession : (checkSession service intent).Within Consults := by
  refine within_ite (fun _ => within_pass) fun _ => within_ite (fun _ => within_refuse _ _)
    fun _ => (Coroutine.within_perform (by trivial)).bind fun session => ?_
  exact within_ite (fun _ => within_pass) fun _ => within_refuse _ _

theorem within_checkFeed : (checkFeed service intent).Within Consults := by
  refine within_ite (fun _ => within_pass) fun _ => within_ite (fun _ => within_refuse _ _)
    fun _ => (Coroutine.within_perform (by trivial)).bind fun health => ?_
  exact within_ite (fun _ => within_pass) fun _ => within_refuse _ _

theorem within_checkGate : (checkGate service intent).Within Consults := by
  refine within_ite (fun _ => within_pass) fun _ =>
    (Coroutine.within_perform (by trivial)).bind fun verdict => ?_
  exact within_ite (fun _ => within_pass) fun _ => within_refuse _ _

theorem within_checkMode {systemMode : SystemMode} :
    (checkMode systemMode intent).Within Consults := by
  unfold checkMode
  split
  · exact within_ite (fun _ => within_pass) fun _ => within_refuse _ _
  · exact within_pass

theorem within_checkQuantity : (checkQuantity service intent).Within Consults :=
  within_ite (fun _ => within_refuse _ _) fun _ => within_pass

theorem within_checkOrderType : (checkOrderType intent).Within Consults :=
  within_ite (fun _ => within_refuse _ _) fun _ => within_pass

theorem within_checkStopLimit : (checkStopLimit intent).Within Consults := by
  refine within_ite (fun _ => ?_) fun _ => within_pass
  exact within_ite (fun _ => within_refuse _ _) fun _ =>
    within_ite (fun _ => within_refuse _ _) fun _ => within_pass

theorem within_checkPrice : (checkPrice service intent).Within Consults :=
  within_ite (fun _ => within_refuse _ _) fun _ => within_pass

theorem within_checkDuplicate : (checkDuplicate service intent).Within Consults := by
  refine (Coroutine.within_perform (by trivial)).bind fun duplicate => ?_
  exact within_ite (fun _ => within_refuse _ _) fun _ => within_pass

theorem within_firstRefusal {list : List Check}
    (each : ∀ check ∈ list, check.Within kind) : (firstRefusal list).Within kind := by
  induction list with
  | nil => exact within_pass
  | cons check rest inductionHypothesis =>
    refine (each check List.mem_cons_self).bind fun refusal => ?_
    cases refusal with
    | some refusal => exact True.intro
    | none =>
      exact inductionHypothesis fun other inRest => each other (List.mem_cons_of_mem _ inRest)

end Within

theorem firstRefusal_append (first second : List Check) :
    firstRefusal (first ++ second) = firstRefusal first >>= fun refusal =>
      match refusal with
      | some refusal => return some refusal
      | none => firstRefusal second := by
  induction first with
  | nil => rfl
  | cons check rest inductionHypothesis =>
    rw [List.cons_append, firstRefusal, firstRefusal, Coroutine.bind_assoc]
    refine congrArg (check >>= ·) (funext fun refusal => ?_)
    cases refusal with
    | some refusal => rfl
    | none => exact inductionHypothesis

/-! ### The rules of an evaluation -/

/-- A check keeps to the stages of its intent, and grants the intent unless it refuses it. -/
abbrev Decides {Credit : Type} [AddCommMonoid Credit] (condition : ExposureCondition)
    (discipline : Discipline Exposure Credit) (intent : OrderIntent)
    (stages granted : Credit → Prop) (check : Check) (credit : Credit) (seen : Exposure) : Prop :=
  Owns riskPart (riskCondition condition intent) discipline check credit seen
    fun result left _ => stages left ∧ (result = .ok none → granted left)

section Rules

variable {Credit : Type} [AddCommMonoid Credit] {condition : ExposureCondition}
  {discipline : Discipline Exposure Credit} {service : RiskService} {intent : OrderIntent}
  {stages granted : Credit → Prop} {credit : Credit} {seen : Exposure}

theorem owns_plain {Result : Type} {task : RiskTask Result} (within : task.Within Plain)
    {seen : Exposure} :
    Owns riskPart (riskCondition condition intent) discipline task credit seen
      (leaving credit) := by
  refine Owns.of_within seen (fun op last _ plain => ?_) within
  intro world rest choice reply next late held met answered
  obtain rfl := answerRisk_plain plain answered
  exact ⟨credit, discipline.refl _, held, rfl⟩

theorem Decides.before {reached : Credit → Prop} {check : Check} {rest : List Check}
    (decides : Decides condition discipline intent stages reached check credit seen)
    (others : ∀ left world, stages left → reached left →
      Decides condition discipline intent stages granted (firstRefusal rest) left world) :
    Decides condition discipline intent stages granted (firstRefusal (check :: rest)) credit
      seen := by
  refine Owns.call decides ?_
  rintro (error | refusal | refusal) left world - ⟨leftStaged, leftReached⟩
  · exact ⟨leftStaged, nofun⟩
  · exact others left world leftStaged (leftReached rfl)
  · exact ⟨leftStaged, nofun⟩

theorem decides_firstRefusal {before after : List Check} {check : Check}
    (consultsBefore : ∀ check ∈ before, check.Within Consults)
    (consultsAfter : ∀ check ∈ after, check.Within Consults) (staged : stages credit)
    (decides : ∀ seen, Decides condition discipline intent stages granted check credit seen)
    (seen : Exposure) :
    Decides condition discipline intent stages granted (firstRefusal (before ++ check :: after))
      credit seen := by
  have plain {list : List Check} (consults : ∀ check ∈ list, check.Within Consults) :=
    (within_firstRefusal consults).mono plain_of_consults
  rw [firstRefusal_append]
  refine Owns.call (owns_plain (plain consultsBefore)) ?_
  rintro (error | refusal | refusal) left world - rfl
  · exact ⟨staged, nofun⟩
  · refine (decides world).before fun kept later keptStaged keptGranted =>
      (owns_plain (plain consultsAfter)).weaken ?_
    rintro result last final - rfl
    exact ⟨keptStaged, fun _ => keptGranted⟩
  · exact ⟨staged, nofun⟩

theorem owns_evaluateIntent (staged : stages credit)
    (decides : ∀ systemMode seen, Decides condition discipline intent stages granted
      (firstRefusal (service.checks intent systemMode)) credit seen)
    (saves : ∀ decision left seen, stages left → (decision.approved = true → granted left) →
      Answers riskPart (riskCondition condition intent) discipline
        (.saveDecision intent decision) left seen fun _ left _ => stages left)
    (seen : Exposure) :
    Owns riskPart (riskCondition condition intent) discipline (evaluateIntent service intent)
      credit seen fun _ left _ => stages left := by
  refine Owns.call (owns_plain (Coroutine.within_perform (by trivial))) ?_
  rintro result left world - rfl
  cases result with
  | error error => exact staged
  | ok systemMode =>
    refine Owns.call (decides systemMode world) ?_
    rintro result left world - ⟨leftStaged, leftGranted⟩
    cases result with
    | error error => exact leftStaged
    | ok refusal =>
      refine Owns.await (saves (decisionOf intent systemMode refusal) left world leftStaged
        fun approved => ?_) ?_
      · cases refusal with
        | some refusal => cases approved
        | none => exact leftGranted rfl
      · intro reply kept next _ keptStaged
        cases reply with
        | error error => exact keptStaged
        | ok saved =>
          have within : (inquire (.publish (decisionOf intent systemMode refusal)) >>= fun _ =>
              (return decisionOf intent systemMode refusal : RiskTask Decision)).Within Plain :=
            (Coroutine.within_perform (by trivial)).bind fun _ => True.intro
          refine (owns_plain within).weaken ?_
          rintro result last final - rfl
          exact keptStaged

theorem owns_evaluation {kind : ExposureStart} (staged : stages credit)
    (evaluates : ∀ seen, Owns riskPart (riskCondition condition kind.intent) discipline
      (evaluateIntent service kind.intent) credit seen fun _ left _ => stages left)
    {domain : ExposureDomain}
    (finishes : ∀ left seen, stages left →
      Answers (exposureSystem service domain) condition discipline (.finish kind.intent) left seen
        fun _ _ _ => True)
    {seen : Exposure} :
    Owns (exposureSystem service domain) condition discipline (evaluation service kind) credit
      seen fun _ _ _ => True := by
  have body : Owns riskPart (riskCondition condition kind.intent) discipline (kind.body service)
      credit seen fun _ left _ => stages left := by
    cases kind with
    | evaluate intent =>
      refine Owns.call (evaluates seen) fun result left next _ leftStaged => ?_
      cases result <;> exact leftStaged
    | deliver intent =>
      refine Owns.call (owns_plain (Coroutine.within_perform (by trivial))) ?_
      rintro result left world - rfl
      rcases result with error | existing | decision
      · exact staged
      · refine Owns.call (evaluates world) fun result left next _ leftStaged => ?_
        cases result <;> exact leftStaged
      · refine (owns_plain (Coroutine.within_perform (by trivial))).weaken ?_
        rintro result last final - rfl
        exact staged
  have embedded : Owns (exposureSystem service domain) condition discipline
      (ofEvaluation kind.intent (kind.body service)) credit seen fun _ left _ => stages left := by
    show Owns (exposureSystem service domain) condition discipline
      ((kind.body service).embed (ExposureOp.risk kind.intent) (fun _ reply => reply) id id)
      credit seen fun _ left _ => stages left
    have conditions : ∀ (world : Exposure) (op : RiskOp) (choice : ExposureAnswer),
        condition.answer world (.risk kind.intent op) choice = true →
        (riskCondition condition kind.intent).answer world op choice = true :=
      fun world op choice met => met
    refine Owns.embed ?_ conditions (body.weaken ?_)
    · intro world op choice reply next answered
      rw [show riskPart.answer world op choice = some (reply, next) from answered]
      cases reply <;> rfl
    · intro result left next _ leftStaged
      cases result <;> exact leftStaged
  refine Owns.bind (Owns.catching (embedded.weaken ?_))
  intro result left next _ leftStaged
  cases result with
  | error | ok => exact Owns.perform_last (finishes left next leftStaged)

end Rules

end Exposure

end BreezeTrading
