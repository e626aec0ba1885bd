/-
This file proves when approved exits stay within the long position. An exit is checked against the
quantity the broker holds at that moment, which says nothing of the exits approved before and not
yet filled. Where it is read while no other exit stands, or covers them all, the exits never
exceed it.
-/

import BreezeTrading.Risk.Exposure
import BreezeTrading.Risk.Soundness
import Mathlib.Algebra.BigOperators.Group.Multiset.Basic
import Mathlib.Algebra.Order.BigOperators.Group.Multiset

namespace BreezeTrading

open Async RiskService

namespace Oversold

/-! ### Exits of one instrument -/

/-- The long quantity the broker holds of the contract of an intent. -/
def held (service : RiskService) (one : OrderIntent) (positions : List BrokerPositionResponse) :
    Int :=
  (service.brokerHeldQuantity one positions).getD 0

/-- The LIVE reduce-only SELL intents on the instrument of one of them. A fill sells from the
position; what else happens to the position does not reduce it. -/
def exitsOf (service : RiskService) (one : OrderIntent) : ExposureDomain where
  admits intent := decide (intent.tradingMode = .live ∧ isReduceOnlyExit intent = true ∧
    intent.instrumentId = one.instrumentId ∧ intent.symbol = one.symbol)
  fills _ quantity before after := decide (held service one after = held service one before - quantity)
  books before after := decide (held service one before ≤ held service one after)

/-- What is still to be filled of an approved exit. -/
def unfilled (order : ApprovedOrder) : Int := max 0 order.left

/-- The quantity of the approved exits that is not yet filled. -/
def outstanding (world : Exposure) : Int := (world.approved.map unfilled).sum

/-- The quantity of an exit. -/
def asked (intent : OrderIntent) : Int := max 0 intent.quantity

/-- The quantity of the exits being evaluated. -/
def underEvaluation (world : Exposure) : Int := (world.evaluating.map asked).sum

/-- When the positions are read for an exit, it is the only exit that is approved and unfilled or
being evaluated, or the long quantity covers all of them. -/
def coveredReads (service : RiskService) (one : OrderIntent) : ExposureCondition where
  answer world op choice :=
    match op, choice with
    | .risk intent .getBrokerPositions, .ok =>
        decide (outstanding world + underEvaluation world ≤ held service one world.positions ∨
          (outstanding world = 0 ∧ world.evaluating = [intent]))
    | _, _ => true

/-! ### The invariant -/

/-- The quantity of some exits. -/
def total (intents : Multiset OrderIntent) : Int := (intents.map asked).sum

theorem total_add (first second : Multiset OrderIntent) :
    total (first + second) = total first + total second := by
  rw [total, Multiset.map_add, Multiset.sum_add]
  rfl

@[simp] theorem total_singleton (intent : OrderIntent) : total {intent} = asked intent :=
  Multiset.sum_singleton _

@[simp] theorem total_zero : total 0 = 0 := rfl

theorem asked_nonneg (intent : OrderIntent) : 0 ≤ asked intent := le_max_left _ _

theorem total_nonneg (intents : Multiset OrderIntent) : 0 ≤ total intents := by
  refine Multiset.sum_nonneg fun quantity member => ?_
  obtain ⟨intent, -, rfl⟩ := Multiset.mem_map.mp member
  exact asked_nonneg intent

theorem underEvaluation_eq (world : Exposure) :
    underEvaluation world = total (world.evaluating : Multiset OrderIntent) := by
  rfl

theorem held_nonneg (service : RiskService) (one : OrderIntent)
    (positions : List BrokerPositionResponse) : 0 ≤ held service one positions := by
  have long (positions : List BrokerPositionResponse) : 0 ≤ longQuantity positions := by
    refine List.sum_nonneg fun quantity member => ?_
    obtain ⟨position, -, rfl⟩ := List.mem_map.mp member
    exact le_max_left _ _
  unfold held brokerHeldQuantity
  cases contractOf service one with
  | none => exact le_refl 0
  | some inContract => exact long _

/-- The exits a task evaluates: those not verified, and those whose quantity was verified. -/
abbrev Credit := Multiset OrderIntent × Multiset OrderIntent

/-- Every exit being evaluated is owned by a task; the verified ones are covered with the
approved ones. -/
structure Covered (service : RiskService) (one : OrderIntent) (world : Exposure)
    (credit : Credit) : Prop where
  evaluating : (world.evaluating : Multiset OrderIntent) = credit.1 + credit.2
  covered : outstanding world + total credit.2 ≤ held service one world.positions

/-- Verified exits and approved exits share the position. -/
def discipline (service : RiskService) (one : OrderIntent) : Discipline Exposure Credit where
  later _ _ := True
  refl _ := True.intro
  trans _ _ := True.intro
  holds := Covered service one

/-- An exit that is not verified. -/
def unverified (intent : OrderIntent) : Credit := ({intent}, 0)

/-- An exit that is verified. -/
def verified (intent : OrderIntent) : Credit := (0, {intent})

/-- The credit of the evaluation of an exit. -/
def Stage (intent : OrderIntent) (credit : Credit) : Prop :=
  credit = unverified intent ∨ credit = verified intent

section

variable {service : RiskService} {one intent : OrderIntent} {world : Exposure} {rest : Credit}

theorem Covered.release (covered : Covered service one world (verified intent + rest)) :
    Covered service one world (unverified intent + rest) := by
  have weight := covered.covered
  rw [verified, Prod.snd_add, total_add, total_singleton] at weight
  refine ⟨?_, ?_⟩
  · rw [covered.evaluating]
    show 0 + rest.1 + ({intent} + rest.2) = {intent} + rest.1 + (0 + rest.2)
    rw [zero_add, zero_add, add_left_comm, add_assoc]
  · rw [unverified, Prod.snd_add, total_add, total_zero]
    have nonneg := asked_nonneg intent
    omega

variable {credit : Credit} {seen : Exposure}

theorem Covered.unverified (stage : Stage intent credit)
    (covered : Covered service one world (credit + rest)) :
    Covered service one world (unverified intent + rest) := by
  rcases stage with rfl | rfl
  · exact covered
  · exact covered.release

theorem Covered.verify (covered : Covered service one world (Oversold.unverified intent + rest))
    (condition : outstanding world + underEvaluation world ≤ held service one world.positions ∨
      (outstanding world = 0 ∧ world.evaluating = [intent]))
    (alone : asked intent ≤ held service one world.positions) :
    Covered service one world (verified intent + rest) := by
  have evaluating : (world.evaluating : Multiset OrderIntent) = {intent} + (rest.1 + rest.2) := by
    rw [covered.evaluating]
    show {intent} + rest.1 + (0 + rest.2) = {intent} + (rest.1 + rest.2)
    rw [zero_add, add_assoc]
  refine ⟨?_, ?_⟩
  · rw [evaluating]
    show {intent} + (rest.1 + rest.2) = 0 + rest.1 + ({intent} + rest.2)
    rw [zero_add, add_left_comm]
  · show outstanding world + total ({intent} + rest.2) ≤ _
    rw [total_add, total_singleton]
    rcases condition with together | ⟨nothing, only⟩
    · rw [underEvaluation_eq, evaluating, total_add, total_add, total_singleton] at together
      have nonneg := total_nonneg rest.1
      omega
    · have none : total (rest.1 + rest.2) = 0 := by
        rw [only, Multiset.coe_singleton] at evaluating
        rw [left_eq_add.mp evaluating, total_zero]
      have nonneg := total_nonneg rest.1
      rw [total_add] at none
      omega

theorem Covered.approve (covered : Covered service one world (verified intent + rest))
    (decision : Decision) :
    Covered service one (world.record intent decision) (Oversold.unverified intent + rest) := by
  have released := covered.release
  refine ⟨released.evaluating, ?_⟩
  cases approved : decision.approved with
  | false =>
    have same : outstanding (world.record intent decision) = outstanding world := by
      simp [outstanding, Exposure.record, approved]
    rw [same]
    exact released.covered
  | true =>
    have more : outstanding (world.record intent decision) = outstanding world + asked intent := by
      simp [outstanding, Exposure.record, approved, unfilled, asked]
    have weight := covered.covered
    rw [verified, Prod.snd_add, total_add, total_singleton] at weight
    rw [more, Oversold.unverified, Prod.snd_add, zero_add]
    show outstanding world + asked intent + total rest.2 ≤ held service one world.positions
    omega

theorem covered_opening (mode : SystemMode) (decisions : List Decision)
    (positions : List BrokerPositionResponse) :
    Covered service one (.opening mode decisions positions) 0 :=
  ⟨rfl, held_nonneg service one positions⟩

/-! ### One evaluation -/

theorem answers_positions (admitted : (exitsOf service one).admits intent = true) :
    Answers Exposure.riskPart (Exposure.riskCondition (coveredReads service one) intent)
      (discipline service one) .getBrokerPositions (unverified intent) seen
      fun reply left _ => Stage intent left ∧ ∀ positions, reply = .ok positions →
        asked intent ≤ (service.brokerHeldQuantity intent positions).getD 0 →
        left = verified intent := by
  intro world rest choice reply next _ covered met answered
  have same : service.brokerHeldQuantity intent = service.brokerHeldQuantity one := by
    have alike := of_decide_eq_true admitted
    unfold brokerHeldQuantity contractOf
    rw [alike.2.2.1, alike.2.2.2]
  obtain ⟨rfl, ⟨rfl, rfl⟩ | ⟨error, rfl⟩⟩ := Exposure.answerRisk_positions answered
  · by_cases alone : asked intent ≤ held service one next.positions
    · exact ⟨verified intent, True.intro, covered.verify (of_decide_eq_true met) alone, .inr rfl,
        fun _ _ _ => rfl⟩
    · refine ⟨unverified intent, True.intro, covered, .inl rfl, fun positions replied within => ?_⟩
      cases replied
      rw [same] at within
      exact absurd within alone
  · exact ⟨unverified intent, True.intro, covered, .inl rfl, nofun⟩

/-- The exit of an evaluation is verified. -/
def Verified (intent : OrderIntent) (credit : Credit) : Prop := credit = verified intent

theorem asked_le_of_passes {heldQuantity : Int} (passes : ¬ (heldQuantity ≤ 0 ∨
    heldQuantity < intent.quantity)) : asked intent ≤ heldQuantity := by
  rw [asked]
  omega

section

variable (admitted : (exitsOf service one).admits intent = true)

include admitted

theorem owns_brokerPositions {seen : Exposure} :
    Owns Exposure.riskPart (Exposure.riskCondition (coveredReads service one) intent)
      (discipline service one) brokerPositions (unverified intent) seen
      fun result left _ => ∃ reported, result = .ok reported ∧ Stage intent left ∧
        ∀ positions, reported = .ok positions →
          asked intent ≤ (service.brokerHeldQuantity intent positions).getD 0 →
          left = verified intent := by
  refine Owns.catching (Owns.await (answers_positions admitted) ?_)
  rintro (error | positions) left next - ⟨stage, verifies⟩
  · exact ⟨_, rfl, stage, by simp⟩
  · refine ⟨_, rfl, stage, fun reported same => ?_⟩
    cases same
    exact verifies positions rfl

theorem decides_checkReduceOnlyPosition (seen : Exposure) :
    Exposure.Decides (coveredReads service one) (discipline service one) intent (Stage intent)
      (Verified intent) (checkReduceOnlyPosition service intent) (unverified intent) seen := by
  have exit := of_decide_eq_true admitted
  have refused : Stage intent (unverified intent) := .inl rfl
  unfold checkReduceOnlyPosition
  rw [if_neg (by rw [exit.2.1]; decide), if_pos exit.1]
  split
  · exact ⟨refused, by simp⟩
  · refine Owns.call (owns_brokerPositions admitted) ?_
    rintro _ left next - ⟨reported, rfl, stage, verifies⟩
    cases reported with
    | error error => exact ⟨stage, by simp⟩
    | ok positions =>
      simp only
      cases quantity : service.brokerHeldQuantity intent positions with
      | none => exact ⟨stage, by simp⟩
      | some heldQuantity =>
        simp only
        unfold checkHeld
        by_cases refuses : heldQuantity ≤ 0 ∨ heldQuantity < intent.quantity
        · rw [if_pos refuses]
          exact ⟨stage, by simp⟩
        · rw [if_neg refuses]
          refine ⟨stage, fun _ => verifies positions rfl ?_⟩
          rw [quantity]
          exact asked_le_of_passes refuses

theorem decides_checks (systemMode : SystemMode) (seen : Exposure) :
    Exposure.Decides (coveredReads service one) (discipline service one) intent (Stage intent)
      (Verified intent) (firstRefusal (service.checks intent systemMode)) (unverified intent)
      seen := by
  have exit := of_decide_eq_true admitted
  have noExposure : (checkExposure service intent).Within Exposure.Consults := by
    unfold checkExposure
    rw [if_neg fun entry => absurd exit.2.1 (by rw [entry.2.2]; decide)]
    exact Exposure.within_pass
  have groups : service.checks intent systemMode =
      [checkReduceOnlySide intent, checkNakedSell intent] ++ checkReduceOnlyPosition service intent ::
        [checkSession service intent, checkFeed service intent, checkGate service intent,
          checkMode systemMode intent, checkQuantity service intent, checkOrderType intent,
          checkStopLimit intent, checkPrice service intent, checkExposure service intent,
          checkDuplicate service intent] := rfl
  rw [groups]
  refine Exposure.decides_firstRefusal ?_ ?_ (.inl rfl) (decides_checkReduceOnlyPosition admitted)
    seen
  · simp only [List.forall_mem_cons, List.not_mem_nil, false_implies, implies_true, and_true]
    exact ⟨Exposure.within_checkReduceOnlySide, Exposure.within_checkNakedSell⟩
  · simp only [List.forall_mem_cons, List.not_mem_nil, false_implies, implies_true, and_true]
    exact ⟨Exposure.within_checkSession, Exposure.within_checkFeed, Exposure.within_checkGate,
      Exposure.within_checkMode, Exposure.within_checkQuantity, Exposure.within_checkOrderType,
      Exposure.within_checkStopLimit, Exposure.within_checkPrice, noExposure,
      Exposure.within_checkDuplicate⟩

end

theorem answers_save {decision : Decision} (stage : Stage intent credit)
    (grants : decision.approved = true → Verified intent credit) :
    Answers Exposure.riskPart (Exposure.riskCondition (coveredReads service one) intent)
      (discipline service one) (.saveDecision intent decision) credit seen
      fun _ left _ => Stage intent left := by
  intro world rest choice reply next _ covered _ answered
  rcases Exposure.answerRisk_save answered with rfl | rfl
  · by_cases approved : decision.approved = true
    · obtain rfl := grants approved
      exact ⟨unverified intent, True.intro, covered.approve decision, .inl rfl⟩
    · refine ⟨credit, True.intro, ⟨covered.evaluating, ?_⟩, stage⟩
      have same : outstanding (world.record intent decision) = outstanding world := by
        simp [outstanding, Exposure.record, approved]
      rw [same]
      exact covered.covered
  · exact ⟨credit, True.intro, covered, stage⟩

theorem answers_finish {domain : ExposureDomain} (stage : Stage intent credit) :
    Answers (exposureSystem service domain) (coveredReads service one) (discipline service one)
      (.finish intent) credit seen fun _ _ _ => True := by
  intro world rest choice reply next _ covered _ answered
  cases answered
  have released := covered.unverified stage
  refine ⟨0, True.intro, ⟨?_, ?_⟩, True.intro⟩
  · rw [zero_add]
    refine Exposure.erase_evaluating (released.evaluating.trans ?_)
    show {intent} + rest.1 + (0 + rest.2) = {intent} + (rest.1 + rest.2)
    rw [zero_add, add_assoc]
  · exact released.covered

theorem owns_evaluation {kind : ExposureStart}
    (admitted : (exitsOf service one).admits kind.intent = true) :
    Owns (exposureSystem service (exitsOf service one)) (coveredReads service one)
      (discipline service one) (evaluation service kind) (unverified kind.intent) seen
      fun _ _ _ => True := by
  have staged : Stage kind.intent (unverified kind.intent) := .inl rfl
  have evaluates := Exposure.owns_evaluateIntent staged (decides_checks admitted)
    fun decision left seen stage grants => answers_save stage grants
  exact Exposure.owns_evaluation staged evaluates
    (fun left seen stage => answers_finish stage)

/-! ### The run -/

theorem sound (service : RiskService) (one : OrderIntent) :
    Sound (exposureSystem service (exitsOf service one)) (coveredReads service one)
      (discipline service one) where
  start := by
    intro world total kind task next covered _ started
    simp only [exposureSystem, Exposure.start] at started
    split at started
    · rename_i admitted
      cases started
      refine ⟨True.intro, unverified kind.intent, ⟨?_, ?_⟩, owns_evaluation admitted⟩
      · show ((kind.intent :: world.evaluating : List OrderIntent) : Multiset OrderIntent) =
          {kind.intent} + total.1 + (0 + total.2)
        rw [← Multiset.cons_coe, covered.evaluating, zero_add, add_assoc, Multiset.singleton_add]
      · show outstanding world + Oversold.total (0 + total.2) ≤ held service one world.positions
        rw [zero_add]
        exact covered.covered
    · cases started
  disturb := by
    intro world total cause next covered _ disturbed
    refine ⟨True.intro, ?_⟩
    have bound := covered.covered
    cases cause with
    | setMode mode =>
      cases disturbed
      exact ⟨covered.evaluating, bound⟩
    | fill index quantity positions =>
      simp only [exposureSystem, Exposure.disturb] at disturbed
      split at disturbed
      · rename_i order found
        split at disturbed
        · rename_i fits
          cases disturbed
          refine ⟨covered.evaluating, ?_⟩
          have sold := of_decide_eq_true fits.2.2
          have filled : outstanding (world.fill index order quantity positions) =
              outstanding world - quantity := by
            rw [outstanding, Exposure.fill, Exposure.sum_set unfilled found]
            simp only [outstanding, unfilled]
            omega
          show outstanding (world.fill index order quantity positions) + Oversold.total total.2 ≤
            held service one positions
          omega
        · cases disturbed
      · cases disturbed
    | close index =>
      cases disturbed
      refine ⟨covered.evaluating, ?_⟩
      have closed : (((world.approved.eraseIdx index).map unfilled).sum : Int) ≤
          outstanding world := by
        cases found : world.approved[index]? with
        | none =>
          rw [List.eraseIdx_of_length_le (List.getElem?_eq_none_iff.mp found)]
          exact le_refl _
        | some order =>
          rw [Exposure.sum_eraseIdx unfilled found]
          simp only [outstanding, unfilled]
          omega
      show ((world.approved.eraseIdx index).map unfilled).sum + Oversold.total total.2 ≤
        held service one world.positions
      omega
    | book positions =>
      simp only [exposureSystem, Exposure.disturb] at disturbed
      split at disturbed
      · rename_i grows
        cases disturbed
        have more := of_decide_eq_true grows
        refine ⟨covered.evaluating, ?_⟩
        show outstanding world + Oversold.total total.2 ≤ held service one positions
        omega
      · cases disturbed
  restart := by
    intro world total covered _
    refine ⟨rfl, ?_⟩
    have bound := covered.covered
    have nonneg := total_nonneg total.2
    show outstanding world + 0 ≤ held service one world.positions
    omega

end

namespace Example

/-- An exit of the 75 contracts held, at a price. -/
def exit (intentId : String) (price : ℚ) : OrderIntent :=
  { Soundness.exampleIntent with
    intentId := intentId
    side := .sell
    reduceOnly := true
    price := price }

/-- The broker holds 75 contracts. -/
def positions : List BrokerPositionResponse :=
  [⟨"NIFTY", 75, 100, some 25000, some "CE", some "2026-01-29"⟩]

/-- One evaluation that every check passes. -/
def approval (task : Nat) (intent : OrderIntent) :
    List (Event ExposureAnswer ExposureStart ExposureDisturbance) :=
  [.start (.evaluate intent), .resume task .ok, .resume task .ok, .resume task (.duplicate false),
    .resume task .ok, .resume task .ok, .resume task .ok]

/-- Two exits of the whole position, one after the other. -/
def twoExits : List (Event ExposureAnswer ExposureStart ExposureDisturbance) :=
  approval 0 (exit "I1" 120) ++ approval 1 (exit "I2" 121)

def system : System ExposureOp ExposureReply RiskError Exposure ExposureAnswer ExposureStart
    ExposureDisturbance :=
  exposureSystem Soundness.exampleService (exitsOf Soundness.exampleService (exit "I1" 120))

def initial : Config ExposureOp ExposureReply RiskError Exposure :=
  ⟨.opening .normal [] positions, []⟩

end Example

end Oversold

open Oversold in
/-- In every run in which the positions are read for an exit only while no other exit stands, or
while they cover all of them, the approved exits that are not yet filled never exceed the long
quantity the broker holds. -/
theorem evaluateIntent_covers_exits (service : RiskService) (one : OrderIntent)
    (mode : SystemMode) (decisions : List Decision) (positions : List BrokerPositionResponse)
    (config : Config ExposureOp ExposureReply RiskError Exposure)
    (reaches : (exposureSystem service (exitsOf service one)).Reaches (coveredReads service one)
      ⟨.opening mode decisions positions, []⟩ config) :
    outstanding config.world ≤ held service one config.world.positions := by
  have opened : Owned (exposureSystem service (exitsOf service one)) (coveredReads service one)
      (discipline service one) ⟨.opening mode decisions positions, []⟩ :=
    owned_idle (covered_opening mode decisions positions)
  obtain ⟨credits, covered, -⟩ := opened.reaches (sound service one) reaches
  have bound := covered.covered
  have nonneg := total_nonneg credits.sum.2
  omega

open Oversold Oversold.Example in
/-- Two exits of the whole position, evaluated one after the other, are both approved. -/
theorem evaluateIntent_oversells :
    ¬ ∀ (service : RiskService) (one : OrderIntent) (mode : SystemMode)
      (decisions : List Decision) (positions : List BrokerPositionResponse)
      (config : Config ExposureOp ExposureReply RiskError Exposure),
      (exposureSystem service (exitsOf service one)).Reaches anyExposure
        ⟨.opening mode decisions positions, []⟩ config →
      outstanding config.world ≤ held service one config.world.positions := by
  intro bound
  have runs : (system.run anyExposure initial twoExits).map (fun config =>
      (outstanding config.world,
        held Soundness.exampleService (exit "I1" 120) config.world.positions)) =
      some (150, 75) := by decide +kernel
  obtain ⟨config, reaches, quantities⟩ := System.reaches_of_map runs
  have within := bound Soundness.exampleService (exit "I1" 120) .normal [] Example.positions config
    reaches
  rw [(Prod.mk.inj quantities).1, (Prod.mk.inj quantities).2] at within
  exact absurd within (by decide)

open Oversold Oversold.Example in
/-- One exit of the whole position is approved within it. -/
theorem evaluateIntent_covers_exits_one :
    ∃ config, (exposureSystem Soundness.exampleService
        (exitsOf Soundness.exampleService (exit "I1" 120))).Reaches
        (coveredReads Soundness.exampleService (exit "I1" 120))
        ⟨.opening .normal [] Example.positions, []⟩ config ∧
      outstanding config.world = 75 ∧
      outstanding config.world ≤
        held Soundness.exampleService (exit "I1" 120) config.world.positions := by
  have runs : (system.run (coveredReads Soundness.exampleService (exit "I1" 120)) initial
      (approval 0 (exit "I1" 120))).map (fun config => outstanding config.world) = some 75 := by
    decide +kernel
  obtain ⟨config, reaches, quantity⟩ := System.reaches_of_map runs
  exact ⟨config, reaches, quantity, evaluateIntent_covers_exits Soundness.exampleService
    (exit "I1" 120) .normal [] Example.positions config reaches⟩

end BreezeTrading
