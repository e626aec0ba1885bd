/-
This file proves when approved entries stay within the position cap and the margin. Both are
compared with what the broker shows at that moment, which counts no entry that is approved and not
yet filled. Where they are read while no other entry stands, or cover them all, the bounds hold in
every run.
-/

import BreezeTrading.Risk.Exposure
import BreezeTrading.Risk.Soundness
import Mathlib.Algebra.BigOperators.Group.Multiset.Basic
import Mathlib.Algebra.Order.BigOperators.Group.Multiset
import Mathlib.Data.Finset.Card

namespace BreezeTrading

open Async RiskService

/-- How the contract of an intent and that of a position are identified. -/
structure ContractNames (Contract : Type) where
  ofIntent : OrderIntent → Contract
  ofPosition : BrokerPositionResponse → Contract

namespace PositionCap

/-! ### Entries -/

section

variable {Contract : Type} [DecidableEq Contract] (names : ContractNames Contract)

/-- The contracts with a positive position. -/
def openContracts (positions : List BrokerPositionResponse) : Finset Contract :=
  ((openPositions positions).map names.ofPosition).toFinset

/-- The contracts of some intents. -/
def contractsOf (intents : Multiset OrderIntent) : Finset Contract :=
  (intents.map names.ofIntent).toFinset

/-- The approved entries that are not yet filled. -/
def standing (world : Exposure) : List OrderIntent :=
  (world.approved.filter fun order => decide (0 < order.left)).map ApprovedOrder.intent

/-- The contracts with a positive position and those with an approved entry not yet filled. -/
def exposed (world : Exposure) : Finset Contract :=
  openContracts names world.positions ∪ contractsOf names (standing world)

/-- The LIVE BUY intents. A fill opens a position at most in the contract of its intent; what
else happens to the positions opens none. -/
def entriesOf : ExposureDomain where
  admits intent := decide (intent.tradingMode = .live ∧ intent.side = .buy)
  fills intent _ before after :=
    decide (openContracts names after ⊆ insert (names.ofIntent intent) (openContracts names before))
  books before after := decide (openContracts names after ⊆ openContracts names before)

end

/-- The notional of what is still to be filled of an approved entry. -/
def unfilledValue (order : ApprovedOrder) : ℚ := max 0 (order.intent.price * order.left)

/-- The notional of the approved entries that is not yet filled. -/
def outstandingValue (world : Exposure) : ℚ := (world.approved.map unfilledValue).sum

/-- The notional of an entry. -/
def value (intent : OrderIntent) : ℚ := max 0 (orderNotional intent)

/-- The notional of some entries. -/
def worth (intents : Multiset OrderIntent) : ℚ := (intents.map value).sum

/-- When the positions are read for an entry, it is the only entry that is approved and unfilled
or being evaluated, or all their contracts are within the cap; when the funds are read for it, it
is the only one and the margin is not negative, or the margin covers all of them. -/
def coveredReads {Contract : Type} [DecidableEq Contract] (service : RiskService)
    (names : ContractNames Contract) : ExposureCondition where
  answer world op choice :=
    match op, choice with
    | .risk intent .getBrokerPositions, .ok =>
        decide (((exposed names world ∪ contractsOf names world.evaluating).card : Int) ≤
            service.liveMaxOpenPositions ∨
          (standing world = [] ∧ world.evaluating = [intent]))
    | .risk intent .getFunds, .funds funds =>
        decide (outstandingValue world + worth world.evaluating ≤ funds.availableMargin ∨
          (outstandingValue world = 0 ∧ world.evaluating = [intent] ∧
            0 ≤ funds.availableMargin))
    | _, _ => true

/-! ### The invariant -/

section

variable {Contract : Type} [DecidableEq Contract] (names : ContractNames Contract)

theorem contractsOf_add (first second : Multiset OrderIntent) :
    contractsOf names (first + second) = contractsOf names first ∪ contractsOf names second := by
  rw [contractsOf, Multiset.map_add, Multiset.toFinset_add]
  rfl

@[simp] theorem contractsOf_singleton (intent : OrderIntent) :
    contractsOf names {intent} = {names.ofIntent intent} := by
  rw [contractsOf, Multiset.map_singleton, Multiset.toFinset_singleton]

@[simp] theorem contractsOf_zero : contractsOf names 0 = ∅ := rfl

end

theorem value_nonneg (intent : OrderIntent) : 0 ≤ value intent := le_max_left _ _

theorem worth_add (first second : Multiset OrderIntent) :
    worth (first + second) = worth first + worth second := by
  rw [worth, Multiset.map_add, Multiset.sum_add]
  rfl

@[simp] theorem worth_singleton (intent : OrderIntent) : worth {intent} = value intent :=
  Multiset.sum_singleton _

@[simp] theorem worth_zero : worth 0 = 0 := rfl

theorem worth_nonneg (intents : Multiset OrderIntent) : 0 ≤ worth intents := by
  refine Multiset.sum_nonneg fun amount member => ?_
  obtain ⟨intent, -, rfl⟩ := Multiset.mem_map.mp member
  exact value_nonneg intent

/-- The entries a task evaluates: those that hold nothing, those that hold a place under the cap,
and those that hold a place and their margin. -/
abbrev Credit := Multiset OrderIntent × Multiset OrderIntent × Multiset OrderIntent

/-- The entries that hold a place. -/
def placed (credit : Credit) : Multiset OrderIntent := credit.2.1 + credit.2.2

/-- Every entry being evaluated is owned by a task; the places are within the cap, and the
margins within the margin last reported. -/
structure Bounded {Contract : Type} [DecidableEq Contract] (service : RiskService)
    (names : ContractNames Contract) (world : Exposure) (credit : Credit) : Prop where
  evaluating : (world.evaluating : Multiset OrderIntent) = credit.1 + placed credit
  places : ((exposed names world ∪ contractsOf names (placed credit)).card : Int) ≤
    service.liveMaxOpenPositions
  margins : ∀ margin, world.margin = some margin →
    outstandingValue world + worth credit.2.2 ≤ margin

/-- Entries that hold a place and entries that are approved share the cap and the margin. -/
def discipline {Contract : Type} [DecidableEq Contract] (service : RiskService)
    (names : ContractNames Contract) : Discipline Exposure Credit where
  later _ _ := True
  refl _ := True.intro
  trans _ _ := True.intro
  holds := Bounded service names

/-- An entry that holds nothing. -/
def entered (intent : OrderIntent) : Credit := ({intent}, 0, 0)

/-- An entry that holds a place. -/
def slotted (intent : OrderIntent) : Credit := (0, {intent}, 0)

/-- An entry that holds a place and its margin. -/
def funded (intent : OrderIntent) : Credit := (0, 0, {intent})

/-- The credit of the evaluation of an entry. -/
def Stage (intent : OrderIntent) (credit : Credit) : Prop :=
  credit = entered intent ∨ credit = slotted intent ∨ credit = funded intent

section

variable {Contract : Type} [DecidableEq Contract] {service : RiskService}
  {names : ContractNames Contract} {intent : OrderIntent} {world : Exposure} {rest : Credit}

theorem Bounded.lower {more less : Credit} (bounded : Bounded service names world more)
    (same : less.1 + placed less = more.1 + placed more) (fewer : placed less ≤ placed more)
    (cheaper : less.2.2 ≤ more.2.2) : Bounded service names world less := by
  refine ⟨bounded.evaluating.trans same.symm, ?_, fun margin reported => ?_⟩
  · obtain ⟨given, split⟩ := Multiset.le_iff_exists_add.mp fewer
    have subset : exposed names world ∪ contractsOf names (placed less) ⊆
        exposed names world ∪ contractsOf names (placed more) := by
      rw [split, contractsOf_add]
      exact Finset.union_subset_union_right Finset.subset_union_left
    have card := Finset.card_le_card subset
    have bound := bounded.places
    omega
  · obtain ⟨given, split⟩ := Multiset.le_iff_exists_add.mp cheaper
    have bound := bounded.margins margin reported
    rw [split, worth_add] at bound
    have nonneg := worth_nonneg given
    linarith

variable {credit : Credit} {quantity : Int}

theorem Bounded.release (stage : Stage intent credit)
    (bounded : Bounded service names world (credit + rest)) :
    Bounded service names world (entered intent + rest) := by
  rcases stage with rfl | rfl | rfl
  · exact bounded
  · refine bounded.lower ?_ ?_ (le_refl _)
    · show {intent} + rest.1 + (0 + rest.2.1 + (0 + rest.2.2)) =
        0 + rest.1 + ({intent} + rest.2.1 + (0 + rest.2.2))
      simp only [zero_add, add_assoc, add_left_comm]
    · show 0 + rest.2.1 + (0 + rest.2.2) ≤ {intent} + rest.2.1 + (0 + rest.2.2)
      gcongr
      exact Multiset.zero_le _
  · refine bounded.lower ?_ ?_ ?_
    · show {intent} + rest.1 + (0 + rest.2.1 + (0 + rest.2.2)) =
        0 + rest.1 + (0 + rest.2.1 + ({intent} + rest.2.2))
      simp only [zero_add, add_assoc, add_left_comm]
    · show 0 + rest.2.1 + (0 + rest.2.2) ≤ 0 + rest.2.1 + ({intent} + rest.2.2)
      gcongr
      exact Multiset.zero_le _
    · show 0 + rest.2.2 ≤ {intent} + rest.2.2
      gcongr
      exact Multiset.zero_le _

theorem Bounded.alone {first second third : Multiset OrderIntent}
    (bounded : Bounded service names world ((first, second, third) + rest))
    (token : first + (second + third) = {intent}) (only : world.evaluating = [intent]) :
    placed rest = 0 := by
  have all : (world.evaluating : Multiset OrderIntent) =
      {intent} + (rest.1 + (rest.2.1 + rest.2.2)) := by
    rw [bounded.evaluating, ← token]
    show first + rest.1 + (second + rest.2.1 + (third + rest.2.2)) = _
    simp only [add_assoc, add_left_comm]
  rw [only, Multiset.coe_singleton] at all
  have none : (rest.1 + (rest.2.1 + rest.2.2)).card = 0 := by
    rw [left_eq_add.mp all, Multiset.card_zero]
  rw [Multiset.card_add] at none
  exact Multiset.card_eq_zero.mp (Nat.eq_zero_of_add_eq_zero_left none)

theorem card_openContracts_le (positions : List BrokerPositionResponse) :
    (openContracts names positions).card ≤ (openPositions positions).length := by
  refine (List.toFinset_card_le _).trans ?_
  rw [List.length_map]

theorem Bounded.slot (bounded : Bounded service names world (entered intent + rest))
    (condition : ((exposed names world ∪ contractsOf names world.evaluating).card : Int) ≤
        service.liveMaxOpenPositions ∨
      (standing world = [] ∧ world.evaluating = [intent]))
    (below : ((openPositions world.positions).length : Int) < service.liveMaxOpenPositions) :
    Bounded service names world (slotted intent + rest) := by
  have placedAll : placed (slotted intent + rest) = {intent} + placed rest := by
    show {intent} + rest.2.1 + (0 + rest.2.2) = {intent} + (rest.2.1 + rest.2.2)
    rw [zero_add, add_assoc]
  have evaluating : (world.evaluating : Multiset OrderIntent) =
      rest.1 + placed (slotted intent + rest) := by
    rw [bounded.evaluating, placedAll]
    show {intent} + rest.1 + (0 + rest.2.1 + (0 + rest.2.2)) =
      rest.1 + ({intent} + (rest.2.1 + rest.2.2))
    simp only [zero_add, add_assoc, add_left_comm]
  refine ⟨?_, ?_, ?_⟩
  · rw [evaluating]
    show rest.1 + _ = 0 + rest.1 + _
    rw [zero_add]
  · rcases condition with together | ⟨nothing, only⟩
    · have subset : exposed names world ∪ contractsOf names (placed (slotted intent + rest)) ⊆
          exposed names world ∪ contractsOf names world.evaluating := by
        rw [evaluating, contractsOf_add]
        exact Finset.union_subset_union_right Finset.subset_union_right
      have card := Finset.card_le_card subset
      omega
    · have others : placed rest = 0 := bounded.alone (by rw [add_zero, add_zero]) only
      rw [placedAll, others, add_zero, contractsOf_singleton, exposed, nothing,
        Multiset.coe_nil, contractsOf_zero, Finset.union_empty]
      have union := Finset.card_union_le (openContracts names world.positions)
        {names.ofIntent intent}
      have rows : (openContracts names world.positions).card ≤
          (openPositions world.positions).length := card_openContracts_le world.positions
      rw [Finset.card_singleton] at union
      omega
  · exact bounded.margins

/-- The margin is reported to an entry that holds a place: what is approved stays within it, and
so does the entry, if the margin covers it alone. -/
theorem Bounded.fund (bounded : Bounded service names world (slotted intent + rest)) {margin : ℚ}
    (condition : outstandingValue world + worth world.evaluating ≤ margin ∨
      (outstandingValue world = 0 ∧ world.evaluating = [intent] ∧ 0 ≤ margin)) :
    Bounded service names { world with margin := some margin } (slotted intent + rest) ∧
      (orderNotional intent ≤ margin →
        Bounded service names { world with margin := some margin } (funded intent + rest)) := by
  have evaluating : worth world.evaluating =
      value intent + (worth rest.1 + (worth rest.2.1 + worth rest.2.2)) := by
    rw [bounded.evaluating]
    show worth (0 + rest.1 + ({intent} + rest.2.1 + (0 + rest.2.2))) = _
    rw [worth_add, worth_add, worth_add, worth_add, worth_add, worth_zero, worth_singleton]
    ring
  have first := worth_nonneg rest.1
  have second := worth_nonneg rest.2.1
  have own := value_nonneg intent
  have others : outstandingValue world + worth rest.2.2 ≤ margin ∧
      (orderNotional intent ≤ margin →
        outstandingValue world + (value intent + worth rest.2.2) ≤ margin) := by
    rcases condition with together | ⟨nothing, only, positive⟩
    · rw [evaluating] at together
      exact ⟨by linarith, fun _ => by linarith⟩
    · have none : rest.2.2 = 0 := by
        have empty : (placed rest).card = 0 := by
          rw [bounded.alone (by rw [add_zero, zero_add]) only, Multiset.card_zero]
        rw [placed, Multiset.card_add] at empty
        exact Multiset.card_eq_zero.mp (Nat.eq_zero_of_add_eq_zero_left empty)
      rw [nothing, none, worth_zero, zero_add, zero_add, add_zero]
      exact ⟨positive, fun covers => max_le positive covers⟩
  refine ⟨⟨bounded.evaluating, bounded.places, ?_⟩, fun covers => ⟨?_, ?_, ?_⟩⟩
  · intro reported same
    cases same
    show outstandingValue world + worth (0 + rest.2.2) ≤ margin
    rw [zero_add]
    exact others.1
  · refine bounded.evaluating.trans ?_
    show 0 + rest.1 + ({intent} + rest.2.1 + (0 + rest.2.2)) =
      0 + rest.1 + (0 + rest.2.1 + ({intent} + rest.2.2))
    simp only [zero_add, add_assoc, add_left_comm]
  · have same : placed (funded intent + rest) = placed (slotted intent + rest) := by
      show 0 + rest.2.1 + ({intent} + rest.2.2) = {intent} + rest.2.1 + (0 + rest.2.2)
      simp only [zero_add, add_assoc, add_left_comm]
    rw [same]
    exact bounded.places
  · intro reported same
    cases same
    show outstandingValue world + worth ({intent} + rest.2.2) ≤ margin
    rw [worth_add, worth_singleton]
    exact others.2 covers

theorem Bounded.approve (bounded : Bounded service names world (funded intent + rest))
    (decision : Decision) :
    Bounded service names (world.record intent decision) (entered intent + rest) := by
  have released := bounded.release (.inr (.inr rfl))
  cases approved : decision.approved with
  | false =>
    have same : (world.record intent decision).approved = world.approved := by
      simp [Exposure.record, approved]
    have sameExposed : exposed names (world.record intent decision) = exposed names world := by
      rw [exposed, exposed, standing, standing, same]
      rfl
    refine ⟨released.evaluating, ?_, ?_⟩
    · rw [sameExposed]
      exact released.places
    · rw [outstandingValue, same]
      exact released.margins
  | true =>
    have more : (world.record intent decision).approved =
        world.approved ++ [⟨intent, intent.quantity⟩] := by
      simp [Exposure.record, approved]
    have placesNow : exposed names (world.record intent decision) ∪
        contractsOf names (placed (entered intent + rest)) ⊆
        exposed names world ∪ contractsOf names (placed (funded intent + rest)) := by
      have before : placed (entered intent + rest) = placed rest := by
        show 0 + rest.2.1 + (0 + rest.2.2) = rest.2.1 + rest.2.2
        rw [zero_add, zero_add]
      have after : placed (funded intent + rest) = {intent} + placed rest := by
        show 0 + rest.2.1 + ({intent} + rest.2.2) = {intent} + (rest.2.1 + rest.2.2)
        rw [zero_add, add_left_comm]
      have grown : contractsOf names (standing (world.record intent decision)) ⊆
          contractsOf names (standing world) ∪ {names.ofIntent intent} := by
        intro contract member
        simp only [contractsOf, standing, more, List.filter_append, List.map_append,
          Multiset.map_coe, Multiset.mem_toFinset, Multiset.mem_coe,
          List.mem_append, Finset.mem_union, Finset.mem_singleton] at member ⊢
        rcases member with before | added
        · exact .inl before
        · refine .inr ?_
          obtain ⟨other, inNew, rfl⟩ := List.mem_map.mp added
          obtain ⟨order, inFiltered, rfl⟩ := List.mem_map.mp inNew
          rw [List.mem_singleton.mp (List.mem_filter.mp inFiltered).1]
      rw [before, after, contractsOf_add, contractsOf_singleton]
      intro contract member
      simp only [exposed, Finset.mem_union] at member ⊢
      rcases member with (open' | stands) | places
      · exact .inl (.inl open')
      · rcases Finset.mem_union.mp (grown stands) with before | added
        · exact .inl (.inr before)
        · exact .inr (.inl added)
      · exact .inr (.inr places)
    refine ⟨released.evaluating, ?_, ?_⟩
    · have card := Finset.card_le_card placesNow
      have bound := bounded.places
      omega
    · intro margin reported
      have bound := bounded.margins margin reported
      have amount : outstandingValue (world.record intent decision) =
          outstandingValue world + value intent := by
        rw [outstandingValue, more, List.map_append, List.sum_append, List.map_singleton,
          List.sum_singleton]
        rfl
      rw [amount]
      show outstandingValue world + value intent + worth (0 + rest.2.2) ≤ margin
      have owned : worth (funded intent + rest).2.2 = value intent + worth rest.2.2 := by
        show worth ({intent} + rest.2.2) = _
        rw [worth_add, worth_singleton]
      rw [owned] at bound
      rw [zero_add, add_assoc]
      exact bound

theorem bounded_opening (mode : SystemMode) (decisions : List Decision)
    {positions : List BrokerPositionResponse}
    (within : ((openContracts names positions).card : Int) ≤ service.liveMaxOpenPositions) :
    Bounded service names (.opening mode decisions positions) 0 := by
  refine ⟨rfl, ?_, fun margin reported => nomatch reported⟩
  have same : exposed names (.opening mode decisions positions) ∪ contractsOf names (placed 0) =
      openContracts names positions := by
    show openContracts names positions ∪ ∅ ∪ ∅ = openContracts names positions
    rw [Finset.union_empty, Finset.union_empty]
  rw [same]
  exact within

/-! ### One evaluation -/

variable (seen : Exposure)

theorem answers_positions :
    Answers Exposure.riskPart (Exposure.riskCondition (coveredReads service names) intent)
      (discipline service names) .getBrokerPositions (entered intent) seen
      fun reply left _ => Stage intent left ∧ ∀ positions, reply = .ok positions →
        ((openPositions positions).length : Int) < service.liveMaxOpenPositions →
        left = slotted intent := by
  intro world rest choice reply next _ bounded met answered
  obtain ⟨rfl, ⟨rfl, rfl⟩ | ⟨error, rfl⟩⟩ := Exposure.answerRisk_positions answered
  · by_cases below : ((openPositions next.positions).length : Int) < service.liveMaxOpenPositions
    · exact ⟨slotted intent, True.intro, bounded.slot (of_decide_eq_true met) below,
        .inr (.inl rfl), fun _ _ _ => rfl⟩
    · refine ⟨entered intent, True.intro, bounded, .inl rfl, fun positions replied within => ?_⟩
      cases replied
      exact absurd within below
  · exact ⟨entered intent, True.intro, bounded, .inl rfl, nofun⟩

theorem answers_funds :
    Answers Exposure.riskPart (Exposure.riskCondition (coveredReads service names) intent)
      (discipline service names) .getFunds (slotted intent) seen
      fun reply left _ => Stage intent left ∧ ∀ funds, reply = .ok funds →
        orderNotional intent ≤ funds.availableMargin → left = funded intent := by
  intro world rest choice reply next _ bounded met answered
  rcases Exposure.answerRisk_funds answered with ⟨rfl, error, rfl⟩ | ⟨funds, rfl, rfl, rfl⟩
  · exact ⟨slotted intent, True.intro, bounded, .inr (.inl rfl), nofun⟩
  · obtain ⟨keeps, funds'⟩ := bounded.fund (of_decide_eq_true met)
    by_cases covers : orderNotional intent ≤ funds.availableMargin
    · exact ⟨funded intent, True.intro, funds' covers, .inr (.inr rfl), fun _ _ _ => rfl⟩
    · refine ⟨slotted intent, True.intro, keeps, .inr (.inl rfl), fun read replied within => ?_⟩
      cases replied
      exact absurd within covers

/-- The entry of an evaluation holds its place and its margin. -/
def Funded (intent : OrderIntent) (credit : Credit) : Prop := credit = funded intent

theorem decides_checkOpenPositions :
    Exposure.Decides (coveredReads service names) (discipline service names) intent (Stage intent)
      (· = slotted intent) (checkOpenPositions service) (entered intent) seen := by
  refine Owns.bind (Owns.catching (Owns.await (answers_positions seen) ?_))
  rintro (error | positions) left next - ⟨stage, gets⟩
  · exact ⟨stage, nofun⟩
  · show Owns _ _ _ (if service.liveMaxOpenPositions ≤ (openPositions positions).length then _
      else pass) left next _
    by_cases full : service.liveMaxOpenPositions ≤ (openPositions positions).length
    · rw [if_pos full]
      exact ⟨stage, nofun⟩
    · rw [if_neg full]
      exact ⟨stage, fun _ => gets positions rfl (not_le.mp full)⟩

theorem decides_checkFunds :
    Exposure.Decides (coveredReads service names) (discipline service names) intent (Stage intent)
      (Funded intent) (checkFunds service intent) (slotted intent) seen := by
  refine Owns.bind (Owns.catching (Owns.await (answers_funds seen) ?_))
  rintro (error | funds) left next - ⟨stage, gets⟩
  · exact ⟨stage, nofun⟩
  · show Owns _ _ _ (if funds.availableMargin < orderNotional intent then _ else pass) left next _
    by_cases short : funds.availableMargin < orderNotional intent
    · rw [if_pos short]
      exact ⟨stage, nofun⟩
    · rw [if_neg short]
      exact ⟨stage, fun _ => gets funds rfl (not_lt.mp short)⟩

theorem isReduceOnlyExit_of_buy (buys : intent.side = .buy) : isReduceOnlyExit intent = false := by
  rw [isReduceOnlyExit, buys]
  exact Bool.and_false _

section

variable (admitted : (entriesOf names).admits intent = true)

include admitted

theorem decides_checkExposure (seen : Exposure) :
    Exposure.Decides (coveredReads service names) (discipline service names) intent (Stage intent)
      (Funded intent) (checkExposure service intent) (entered intent) seen := by
  have entry := of_decide_eq_true admitted
  have stage : Stage intent (entered intent) := .inl rfl
  unfold checkExposure
  rw [if_pos ⟨entry.1, entry.2, isReduceOnlyExit_of_buy entry.2⟩]
  split
  · exact ⟨stage, by simp⟩
  · split
    · exact ⟨stage, by simp⟩
    · refine (decides_checkOpenPositions seen).before fun left next _ placed => ?_
      obtain rfl := placed
      exact (decides_checkFunds next).before fun kept _ keptStage holds => ⟨keptStage, fun _ => holds⟩

theorem decides_checks (systemMode : SystemMode) (seen : Exposure) :
    Exposure.Decides (coveredReads service names) (discipline service names) intent (Stage intent)
      (Funded intent) (firstRefusal (service.checks intent systemMode)) (entered intent) seen := by
  have noPosition : (checkReduceOnlyPosition service intent).Within Exposure.Consults := by
    unfold checkReduceOnlyPosition
    rw [if_pos (isReduceOnlyExit_of_buy (of_decide_eq_true admitted).2)]
    exact Exposure.within_pass
  have groups : service.checks intent systemMode =
      [checkReduceOnlySide intent, checkNakedSell intent, checkReduceOnlyPosition service intent,
        checkSession service intent, checkFeed service intent, checkGate service intent,
        checkMode systemMode intent, checkQuantity service intent, checkOrderType intent,
        checkStopLimit intent, checkPrice service intent] ++
        checkExposure service intent :: [checkDuplicate service intent] := rfl
  rw [groups]
  refine Exposure.decides_firstRefusal ?_ ?_ (.inl rfl) (decides_checkExposure admitted) seen
  · simp only [List.forall_mem_cons, List.not_mem_nil, false_implies, implies_true, and_true]
    exact ⟨Exposure.within_checkReduceOnlySide, Exposure.within_checkNakedSell, noPosition,
      Exposure.within_checkSession, Exposure.within_checkFeed, Exposure.within_checkGate,
      Exposure.within_checkMode, Exposure.within_checkQuantity, Exposure.within_checkOrderType,
      Exposure.within_checkStopLimit, Exposure.within_checkPrice⟩
  · simp only [List.forall_mem_cons, List.not_mem_nil, false_implies, implies_true, and_true]
    exact Exposure.within_checkDuplicate

end

theorem answers_save {decision : Decision} {seen : Exposure} (stage : Stage intent credit)
    (grants : decision.approved = true → Funded intent credit) :
    Answers Exposure.riskPart (Exposure.riskCondition (coveredReads service names) intent)
      (discipline service names) (.saveDecision intent decision) credit seen
      fun _ left _ => Stage intent left := by
  intro world rest choice reply next _ bounded _ answered
  rcases Exposure.answerRisk_save answered with rfl | rfl
  · by_cases approved : decision.approved = true
    · obtain rfl := grants approved
      exact ⟨entered intent, True.intro, bounded.approve decision, .inl rfl⟩
    · have same : (world.record intent decision).approved = world.approved := by
        simp [Exposure.record, approved]
      refine ⟨credit, True.intro, ⟨bounded.evaluating, ?_, ?_⟩, stage⟩
      · rw [exposed, standing, same]
        exact bounded.places
      · rw [outstandingValue, same]
        exact bounded.margins
  · exact ⟨credit, True.intro, bounded, stage⟩

theorem answers_finish {domain : ExposureDomain} (stage : Stage intent credit) :
    Answers (exposureSystem service domain) (coveredReads service names)
      (discipline service names) (.finish intent) credit seen fun _ _ _ => True := by
  intro world rest choice reply next _ bounded _ answered
  cases answered
  have released := bounded.release stage
  have others : placed (entered intent + rest) = placed (0 + rest) := rfl
  refine ⟨0, True.intro, ⟨?_, ?_, ?_⟩, True.intro⟩
  · refine Exposure.erase_evaluating (released.evaluating.trans ?_)
    show {intent} + rest.1 + placed (0 + rest) = {intent} + (0 + rest.1 + placed (0 + rest))
    rw [zero_add, zero_add, add_assoc]
  · rw [← others]
    exact released.places
  · exact released.margins

theorem owns_evaluation {kind : ExposureStart}
    (admitted : (entriesOf names).admits kind.intent = true) {seen : Exposure} :
    Owns (exposureSystem service (entriesOf names)) (coveredReads service names)
      (discipline service names) (evaluation service kind) (entered kind.intent) seen
      fun _ _ _ => True := by
  have staged : Stage kind.intent (entered kind.intent) := .inl rfl
  have evaluates := Exposure.owns_evaluateIntent staged (@decides_checks _ _ service _ _ admitted)
    fun decision left seen stage grants => answers_save stage grants
  exact Exposure.owns_evaluation staged evaluates
    (fun left seen stage => answers_finish seen stage)

/-! ### The run -/

theorem Bounded.shrink {next : Exposure} (bounded : Bounded service names world credit)
    (evaluating : next.evaluating = world.evaluating) (margin : next.margin = world.margin)
    (fewer : exposed names next ⊆ exposed names world)
    (cheaper : outstandingValue next ≤ outstandingValue world) :
    Bounded service names next credit := by
  refine ⟨evaluating ▸ bounded.evaluating, ?_, fun amount reported => ?_⟩
  · have subset : exposed names next ∪ contractsOf names (placed credit) ⊆
        exposed names world ∪ contractsOf names (placed credit) :=
      Finset.union_subset_union_left fewer
    have card := Finset.card_le_card subset
    have bound := bounded.places
    omega
  · have bound := bounded.margins amount (margin ▸ reported)
    linarith

theorem standing_set_subset {index : Nat} {order : ApprovedOrder} {orders : List ApprovedOrder}
    (found : orders[index]? = some order) (stands : 0 < order.left) :
    contractsOf names ((((orders.set index { order with left := order.left - quantity }).filter
        fun order => decide (0 < order.left)).map ApprovedOrder.intent : List OrderIntent)) ⊆
      contractsOf names (((orders.filter fun order => decide (0 < order.left)).map
        ApprovedOrder.intent : List OrderIntent)) := by
  intro contract member
  simp only [contractsOf, Multiset.map_coe, Multiset.mem_toFinset, Multiset.mem_coe,
    List.mem_map, List.mem_filter] at member ⊢
  obtain ⟨intent, ⟨other, ⟨inSet, left⟩, rfl⟩, rfl⟩ := member
  rcases List.mem_or_eq_of_mem_set inSet with before | rfl
  · exact ⟨other.intent, ⟨other, ⟨before, left⟩, rfl⟩, rfl⟩
  · exact ⟨order.intent, ⟨order, ⟨List.mem_of_getElem? found, decide_eq_true stands⟩, rfl⟩, rfl⟩

theorem unfilledValue_fill_le {order : ApprovedOrder} (positive : 0 < quantity)
    (fits : quantity ≤ order.left) :
    unfilledValue { order with left := order.left - quantity } ≤ unfilledValue order := by
  have left : (0 : ℚ) ≤ ((order.left - quantity : Int) : ℚ) := by
    exact_mod_cast sub_nonneg.mpr fits
  have less : ((order.left - quantity : Int) : ℚ) ≤ (order.left : ℚ) := by
    exact_mod_cast (by omega : order.left - quantity ≤ order.left)
  refine max_le (le_max_left _ _) ?_
  rcases le_total 0 order.intent.price with costs | costs
  · exact (mul_le_mul_of_nonneg_left less costs).trans (le_max_right _ _)
  · exact (mul_nonpos_of_nonpos_of_nonneg costs left).trans (le_max_left _ _)

theorem Bounded.fill {index : Nat} {order : ApprovedOrder} {positions : List BrokerPositionResponse}
    (bounded : Bounded service names world credit) (found : world.approved[index]? = some order)
    (positive : 0 < quantity) (fits : quantity ≤ order.left) (opens : openContracts names positions
      ⊆ insert (names.ofIntent order.intent) (openContracts names world.positions)) :
    Bounded service names (world.fill index order quantity positions) credit := by
  have stands : 0 < order.left := by omega
  refine bounded.shrink rfl rfl ?_ ?_
  · refine Finset.union_subset (opens.trans ?_) ?_
    · refine Finset.insert_subset (Finset.mem_union_right _ ?_) Finset.subset_union_left
      simp only [contractsOf, standing, Multiset.map_coe, Multiset.mem_toFinset,
        Multiset.mem_coe, List.mem_map, List.mem_filter]
      exact ⟨order.intent, ⟨order, ⟨List.mem_of_getElem? found, decide_eq_true stands⟩, rfl⟩, rfl⟩
    · exact (standing_set_subset found stands).trans Finset.subset_union_right
  · rw [outstandingValue, Exposure.fill, Exposure.sum_set unfilledValue found]
    have less := unfilledValue_fill_le positive fits
    show outstandingValue world - _ + _ ≤ outstandingValue world
    linarith

theorem Bounded.close (bounded : Bounded service names world credit) (index : Nat) :
    Bounded service names { world with approved := world.approved.eraseIdx index } credit := by
  refine bounded.shrink rfl rfl ?_ ?_
  · refine Finset.union_subset_union_right ?_
    intro contract member
    simp only [contractsOf, standing, Multiset.map_coe, Multiset.mem_toFinset, Multiset.mem_coe,
      List.mem_map, List.mem_filter] at member ⊢
    obtain ⟨intent, ⟨order, ⟨kept, left⟩, rfl⟩, rfl⟩ := member
    exact ⟨order.intent, ⟨order, ⟨List.mem_of_mem_eraseIdx kept, left⟩, rfl⟩, rfl⟩
  · cases found : world.approved[index]? with
    | none =>
      rw [List.eraseIdx_of_length_le (List.getElem?_eq_none_iff.mp found)]
    | some order =>
      rw [outstandingValue, Exposure.sum_eraseIdx unfilledValue found]
      have nonneg : 0 ≤ unfilledValue order := le_max_left _ _
      show outstandingValue world - _ ≤ outstandingValue world
      linarith

theorem sound {Contract : Type} [DecidableEq Contract] (service : RiskService)
    (names : ContractNames Contract) :
    Sound (exposureSystem service (entriesOf names)) (coveredReads service names)
      (discipline service names) where
  start := by
    intro world total kind task next bounded _ started
    simp only [exposureSystem, Exposure.start] at started
    split at started
    · rename_i admitted
      cases started
      have others : placed (entered kind.intent + total) = placed total := by
        show 0 + total.2.1 + (0 + total.2.2) = total.2.1 + total.2.2
        rw [zero_add, zero_add]
      refine ⟨True.intro, entered kind.intent, ⟨?_, ?_, ?_⟩, owns_evaluation admitted⟩
      · rw [others]
        show ((kind.intent :: world.evaluating : List OrderIntent) : Multiset OrderIntent) =
          {kind.intent} + total.1 + placed total
        rw [← Multiset.cons_coe, bounded.evaluating, add_assoc, Multiset.singleton_add]
      · rw [others]
        exact bounded.places
      · show ∀ margin, world.margin = some margin →
          outstandingValue world + worth (0 + total.2.2) ≤ margin
        rw [zero_add]
        exact bounded.margins
    · cases started
  disturb := by
    intro world total cause next bounded _ disturbed
    refine ⟨True.intro, ?_⟩
    cases cause with
    | setMode mode =>
      cases disturbed
      exact ⟨bounded.evaluating, bounded.places, bounded.margins⟩
    | fill index quantity positions =>
      simp only [exposureSystem, Exposure.disturb] at disturbed
      split at disturbed
      · rename_i order found
        split at disturbed
        · rename_i fits
          cases disturbed
          exact bounded.fill found fits.1 fits.2.1 (of_decide_eq_true fits.2.2)
        · cases disturbed
      · cases disturbed
    | close index =>
      cases disturbed
      exact bounded.close index
    | book positions =>
      simp only [exposureSystem, Exposure.disturb] at disturbed
      split at disturbed
      · rename_i shrinks
        cases disturbed
        exact bounded.shrink rfl rfl
          (Finset.union_subset_union_left (of_decide_eq_true shrinks)) (le_refl _)
      · cases disturbed
  restart := by
    intro world total bounded _
    refine ⟨rfl, ?_, fun margin reported => ?_⟩
    · have subset : exposed names world ∪ contractsOf names (placed 0) ⊆
          exposed names world ∪ contractsOf names (placed total) :=
        Finset.union_subset_union_right (Finset.empty_subset _)
      have card := Finset.card_le_card subset
      have bound := bounded.places
      show ((exposed names world ∪ contractsOf names (placed 0)).card : Int) ≤ _
      omega
    · have bound := bounded.margins margin reported
      have nonneg := worth_nonneg total.2.2
      show outstandingValue world + 0 ≤ margin
      linarith

end

namespace Example

/-- Option contracts by underlying, expiry, strike and right. -/
def optionNames : ContractNames (String × String × ℚ × String) where
  ofIntent intent :=
    (canonicalOptionIdentity intent.instrumentId).getD (upper intent.symbol, "", 0, "")
  ofPosition position :=
    (upper position.stockCode, String.ofList ((position.expiryDate.getD "").toList.take 10),
      position.strikePrice.getD 0,
      if upper (position.right.getD "") ∈ ["CE", "CALL"] then "CE" else "PE")

/-- At most one open position. -/
def service : RiskService := { Soundness.exampleService with liveMaxOpenPositions := 1 }

/-- An entry of 75 contracts at 120. -/
def entry (intentId instrumentId : String) : OrderIntent :=
  { Soundness.exampleIntent with
    intentId := intentId
    instrumentId := instrumentId }

/-- One evaluation that every check passes, with a margin of 20000 reported. -/
def approval (task : Nat) (intent : OrderIntent) :
    List (Event ExposureAnswer ExposureStart ExposureDisturbance) :=
  [.start (.evaluate intent), .resume task .ok, .resume task (.session ⟨true, some "CONNECTED"⟩),
    .resume task (.feedHealth ⟨true, []⟩),
    .resume task (.authorization true "LIVE authorization valid"), .resume task .ok,
    .resume task (.funds ⟨20000, 20000, 0⟩), .resume task (.duplicate false), .resume task .ok,
    .resume task .ok, .resume task .ok]

def call : OrderIntent := entry "I1" "INST-NIFTY-2026-01-29-25000-CE"

def put : OrderIntent := entry "I2" "INST-NIFTY-2026-01-29-25000-PE"

/-- Entries of two contracts, one after the other, before either is filled. -/
def twoEntries : List (Event ExposureAnswer ExposureStart ExposureDisturbance) :=
  approval 0 call ++ approval 1 put

def system : System ExposureOp ExposureReply RiskError Exposure ExposureAnswer ExposureStart
    ExposureDisturbance :=
  exposureSystem service (entriesOf optionNames)

def initial : Config ExposureOp ExposureReply RiskError Exposure :=
  ⟨.opening .normal [] [], []⟩

end Example

end PositionCap

open PositionCap in
/-- In every run that starts within the cap, and in which positions and funds are read for an
entry only while no other entry stands, or while the cap and the margin cover all of them, the
contracts with a position or an approved entry stay within the cap, and the unfilled notional of
the approved entries within the margin last reported. -/
theorem evaluateIntent_bounds_exposure {Contract : Type} [DecidableEq Contract]
    (service : RiskService) (names : ContractNames Contract) (mode : SystemMode)
    (decisions : List Decision) (positions : List BrokerPositionResponse)
    (within : ((openContracts names positions).card : Int) ≤ service.liveMaxOpenPositions)
    (config : Config ExposureOp ExposureReply RiskError Exposure)
    (reaches : (exposureSystem service (entriesOf names)).Reaches (coveredReads service names)
      ⟨.opening mode decisions positions, []⟩ config) :
    ((exposed names config.world).card : Int) ≤ service.liveMaxOpenPositions ∧
      ∀ margin, config.world.margin = some margin → outstandingValue config.world ≤ margin := by
  have opened : Owned (exposureSystem service (entriesOf names)) (coveredReads service names)
      (discipline service names) ⟨.opening mode decisions positions, []⟩ :=
    owned_idle (bounded_opening mode decisions within)
  obtain ⟨credits, bounded, -⟩ := opened.reaches (sound service names) reaches
  refine ⟨?_, fun margin reported => ?_⟩
  · have subset : exposed names config.world ⊆
        exposed names config.world ∪ contractsOf names (placed credits.sum) :=
      Finset.subset_union_left
    have card := Finset.card_le_card subset
    have bound := bounded.places
    omega
  · have bound := bounded.margins margin reported
    have nonneg := worth_nonneg credits.sum.2.2
    linarith

open PositionCap PositionCap.Example in
/-- Entries of two contracts are both approved under a cap of one. -/
theorem evaluateIntent_exceeds_cap :
    ¬ ∀ (service : RiskService) (mode : SystemMode) (decisions : List Decision)
      (positions : List BrokerPositionResponse)
      (config : Config ExposureOp ExposureReply RiskError Exposure),
      ((openContracts optionNames positions).card : Int) ≤ service.liveMaxOpenPositions →
      (exposureSystem service (entriesOf optionNames)).Reaches anyExposure
        ⟨.opening mode decisions positions, []⟩ config →
      ((exposed optionNames config.world).card : Int) ≤ service.liveMaxOpenPositions ∧
        ∀ margin, config.world.margin = some margin → outstandingValue config.world ≤ margin := by
  intro bound
  have runs : (system.run anyExposure initial twoEntries).map (fun config =>
      (exposed optionNames config.world).card) = some 2 := by decide +kernel
  obtain ⟨config, reaches, contracts⟩ := System.reaches_of_map runs
  have within := (bound Example.service .normal [] [] config (by decide +kernel)
    reaches).1
  rw [contracts] at within
  exact absurd within (by decide)

open PositionCap PositionCap.Example in
/-- One entry is approved within the cap and the margin. -/
theorem evaluateIntent_bounds_exposure_one :
    ∃ config, (exposureSystem Example.service (entriesOf optionNames)).Reaches
        (coveredReads Example.service optionNames) ⟨.opening .normal [] [], []⟩ config ∧
      outstandingValue config.world = 9000 ∧
      ((exposed optionNames config.world).card : Int) ≤ 1 := by
  have runs : (system.run (coveredReads Example.service optionNames) initial
      (approval 0 call)).map (fun config => outstandingValue config.world) = some 9000 := by
    decide +kernel
  obtain ⟨config, reaches, amount⟩ := System.reaches_of_map runs
  exact ⟨config, reaches, amount, (evaluateIntent_bounds_exposure Example.service optionNames
    .normal [] [] (by decide +kernel) config reaches).1⟩

end BreezeTrading
