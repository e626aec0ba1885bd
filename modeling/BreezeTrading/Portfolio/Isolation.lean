/-
This file proves when the trading modes are isolated in the portfolio. Positions are keyed by the
instrument, so a history in several modes gives the position of one mode alone exactly when no
execution and no instrument is shared between modes and what is held outside PAPER is flat.
-/

import BreezeTrading.Portfolio.Accounting
import Mathlib.Data.List.Perm.Subperm

namespace BreezeTrading

open Stored

namespace PortfolioTables

/-! ### Positions as the deliveries of one instrument leave them -/

/-- The deliveries that are booked: the first of each execution. -/
def booked (deliveries : List Delivery) : List Delivery :=
  acceptAll (fun delivery => delivery.execution.executionId) [] deliveries

def deliveriesOn (instrumentId : String) (deliveries : List Delivery) : List Delivery :=
  deliveries.filter fun delivery => decide (delivery.execution.instrumentId = instrumentId)

def inMode (mode : TradingMode) (deliveries : List Delivery) : List Delivery :=
  deliveries.filter fun delivery => decide (delivery.tradingMode = mode)

/-- The position that bookings leave, one after another. -/
def positionOf (deliveries : List Delivery) : Option Position :=
  deliveries.foldl (fun row delivery => some (bookedPosition row delivery.execution
    delivery.tradingMode delivery.currentPrice)) none

theorem positionOf_append (deliveries : List Delivery) (last : Delivery) :
    positionOf (deliveries ++ [last]) =
      some (bookedPosition (positionOf deliveries) last.execution last.tradingMode
        last.currentPrice) := by
  rw [positionOf, List.foldl_append]
  rfl

theorem deliveriesOn_append (instrumentId : String) (first second : List Delivery) :
    deliveriesOn instrumentId (first ++ second) =
      deliveriesOn instrumentId first ++ deliveriesOn instrumentId second :=
  List.filter_append first second

/-- The tables hold the bookings: their executions, and for each instrument the position they
leave. -/
structure Holds (tables : PortfolioTables) (bookings : List Delivery) : Prop where
  executions : tables.executions = bookings.map Delivery.execution
  positions : ∀ instrumentId,
    tables.getPosition instrumentId = positionOf (deliveriesOn instrumentId bookings)

theorem Holds.apply {tables : PortfolioTables} {bookings : List Delivery}
    (holds : Holds tables bookings) (delivery : Delivery) :
    Holds (tables.applyExecutionAtomic delivery.execution delivery.tradingMode
        delivery.currentPrice).2
      (accept (fun delivery => delivery.execution.executionId) bookings delivery) := by
  have known : delivery.execution.executionId ∈ tables.executions.map Execution.executionId ↔
      delivery.execution.executionId ∈
        bookings.map fun delivery => delivery.execution.executionId := by
    rw [holds.executions, List.map_map]
    rfl
  unfold applyExecutionAtomic accept
  by_cases seen : delivery.execution.executionId ∈ tables.executions.map Execution.executionId
  · rw [if_pos (known.mp seen), dif_pos seen]
    split <;> exact holds
  · rw [if_neg fun inside => seen (known.mpr inside), dif_neg seen]
    constructor
    · change tables.executions ++ [delivery.execution] = _
      rw [holds.executions, List.map_append]
      rfl
    · intro instrumentId
      rw [getPosition_book, bookedPosition_instrumentId, deliveriesOn_append]
      by_cases same : delivery.execution.instrumentId = instrumentId
      · subst same
        rw [if_pos rfl, show deliveriesOn delivery.execution.instrumentId [delivery] = [delivery]
          by simp [deliveriesOn], positionOf_append, holds.positions]
      · rw [if_neg same, show deliveriesOn instrumentId [delivery] = [] by
          simp [deliveriesOn, same], List.append_nil, holds.positions]

theorem holds_applyAll (deliveries : List Delivery) :
    Holds (empty.applyAll deliveries) (booked deliveries) := by
  induction deliveries using List.reverseRecOn with
  | nil => exact ⟨rfl, fun _ => rfl⟩
  | append_singleton deliveries last inductionHypothesis =>
    rw [applyAll, List.foldl_append, booked, acceptAll_append]
    exact inductionHypothesis.apply last

theorem getPosition_applyAll (deliveries : List Delivery) (instrumentId : String) :
    (empty.applyAll deliveries).getPosition instrumentId =
      positionOf (deliveriesOn instrumentId (booked deliveries)) :=
  (holds_applyAll deliveries).positions instrumentId

/-! ### What a position tells about its deliveries -/

variable {deliveries : List Delivery} {delivery : Delivery} {mode : TradingMode}

theorem positionOf_eq_none : positionOf deliveries = none ↔ deliveries = [] := by
  induction deliveries using List.reverseRecOn with
  | nil => simp [positionOf]
  | append_singleton deliveries last _ => simp [positionOf_append]

theorem positionOf_tradingMode (deliveries : List Delivery) :
    (positionOf deliveries).map Position.tradingMode =
      deliveries.getLast?.map Delivery.tradingMode := by
  induction deliveries using List.reverseRecOn with
  | nil => rfl
  | append_singleton deliveries last _ =>
    rw [positionOf_append, List.getLast?_concat]
    rfl

def totals (deliveries : List Delivery) : Traded := Traded.of (deliveries.map Delivery.execution)

theorem positionOf_derived {position : Position} (found : positionOf deliveries = some position) :
    Derived position (deliveries.map Delivery.execution) := by
  induction deliveries using List.reverseRecOn generalizing position with
  | nil => cases found
  | append_singleton deliveries last inductionHypothesis =>
    rw [positionOf_append] at found
    cases found
    rw [List.map_append]
    refine derived_bookedPosition (fun position before => (inductionHypothesis before).traded)
      (fun missing => ?_) _ _ _
    rw [positionOf_eq_none.mp missing, List.map_nil]

/-- The quantity a reader of the positions takes to be held. -/
def heldQuantity (tables : PortfolioTables) (instrumentId : String) : Int :=
  (tables.getPosition instrumentId).elim 0 Position.quantity

theorem heldQuantity_applyAll (deliveries : List Delivery) (instrumentId : String) :
    heldQuantity (empty.applyAll deliveries) instrumentId =
      (totals (deliveriesOn instrumentId (booked deliveries))).netQuantity := by
  rw [heldQuantity, getPosition_applyAll]
  cases found : positionOf (deliveriesOn instrumentId (booked deliveries)) with
  | none =>
    rw [positionOf_eq_none.mp found]
    rfl
  | some position => exact (positionOf_derived found).quantity

/-! ### Isolation -/

def attributed (mode : TradingMode) (tables : PortfolioTables) (instrumentId : String) :
    Option Position :=
  (tables.getPosition instrumentId).filter fun position => decide (position.tradingMode = mode)

/-- What is attributed to a mode, and what the reduce-only check reads for PAPER, is as if only
the deliveries of that mode had been applied. -/
structure Isolated (deliveries : List Delivery) : Prop where
  positions : ∀ mode instrumentId,
    attributed mode (empty.applyAll deliveries) instrumentId =
      attributed mode (empty.applyAll (inMode mode deliveries)) instrumentId
  held : ∀ instrumentId,
    heldQuantity (empty.applyAll deliveries) instrumentId =
      heldQuantity (empty.applyAll (inMode .paper deliveries)) instrumentId

/-- No execution is delivered in two modes, no instrument is booked in two modes, and what is
booked outside PAPER is flat. -/
structure Separate (deliveries : List Delivery) : Prop where
  byExecution : ∀ first ∈ deliveries, ∀ second ∈ deliveries,
    first.execution.executionId = second.execution.executionId →
    first.tradingMode = second.tradingMode
  byInstrument : ∀ first ∈ booked deliveries, ∀ second ∈ booked deliveries,
    first.execution.instrumentId = second.execution.instrumentId →
    first.tradingMode = second.tradingMode
  flat : ∀ instrumentId,
    (totals ((deliveriesOn instrumentId (booked deliveries)).filter fun delivery =>
      decide (delivery.tradingMode ≠ .paper))).netQuantity = 0

theorem mem_deliveriesOn {instrumentId : String} : delivery ∈ deliveriesOn instrumentId deliveries ↔
      delivery ∈ deliveries ∧ delivery.execution.instrumentId = instrumentId := by
  simp [deliveriesOn]

theorem mem_inMode :
    delivery ∈ inMode mode deliveries ↔ delivery ∈ deliveries ∧ delivery.tradingMode = mode := by
  simp [inMode]

theorem mem_of_mem_booked (inside : delivery ∈ booked deliveries) : delivery ∈ deliveries :=
  (mem_acceptAll inside).resolve_left List.not_mem_nil

theorem mem_booked_inMode (inside : delivery ∈ booked deliveries) :
    delivery ∈ booked (inMode delivery.tradingMode deliveries) :=
  mem_acceptAll_filter (by simp) inside

theorem attributed_of_oneMode (one : ∀ delivery ∈ deliveries, delivery.tradingMode = mode)
    (other : TradingMode) :
    (positionOf deliveries).filter (fun position => decide (position.tradingMode = other)) =
      if mode = other then positionOf deliveries else none := by
  have last := positionOf_tradingMode deliveries
  cases found : positionOf deliveries with
  | none => simp
  | some position =>
    rw [found, Option.map_some] at last
    obtain ⟨booking, ending, named⟩ := Option.map_eq_some_iff.mp last.symm
    have same : position.tradingMode = mode :=
      named.symm.trans (one booking (List.mem_of_getLast? ending))
    by_cases equal : mode = other <;> simp [same, equal]

theorem netQuantity_split (deliveries : List Delivery) :
    (totals deliveries).netQuantity = (totals (inMode .paper deliveries)).netQuantity +
      (totals (deliveries.filter fun delivery =>
        decide (delivery.tradingMode ≠ .paper))).netQuantity := by
  induction deliveries with
  | nil => rfl
  | cons delivery rest inductionHypothesis =>
    by_cases paper : delivery.tradingMode = .paper
    · rw [inMode, List.filter_cons_of_pos (by simpa using paper),
        List.filter_cons_of_neg (by simpa using paper)]
      simp only [totals, Traded.of, Traded.netQuantity, List.map_cons, List.sum_cons, inMode]
        at inductionHypothesis ⊢
      omega
    · rw [inMode, List.filter_cons_of_neg (by simpa using paper),
        List.filter_cons_of_pos (by simpa using paper)]
      simp only [totals, Traded.of, Traded.netQuantity, List.map_cons, List.sum_cons, inMode]
        at inductionHypothesis ⊢
      omega

theorem isolated_of_separate (separate : Separate deliveries) : Isolated deliveries := by
  have commutes : ∀ mode, booked (inMode mode deliveries) = inMode mode (booked deliveries) := by
    intro mode
    refine acceptAll_filter _ fun first inFirst second inSecond same => ?_
    rw [separate.byExecution first inFirst second inSecond same]
  have swap : ∀ mode instrumentId, deliveriesOn instrumentId (inMode mode (booked deliveries)) =
      inMode mode (deliveriesOn instrumentId (booked deliveries)) := by
    intro mode instrumentId
    simp only [deliveriesOn, inMode, List.filter_filter, Bool.and_comm]
  constructor
  · intro mode instrumentId
    rw [attributed, attributed, getPosition_applyAll, getPosition_applyAll, commutes, swap]
    rcases found : deliveriesOn instrumentId (booked deliveries) with _ | ⟨head, rest⟩
    · rfl
    have one : ∀ delivery ∈ head :: rest, delivery.tradingMode = head.tradingMode := by
      intro delivery member
      rw [← found] at member
      have first := mem_deliveriesOn.mp member
      have second := mem_deliveriesOn.mp
        (show head ∈ deliveriesOn instrumentId (booked deliveries) by simp [found])
      exact separate.byInstrument delivery first.1 head second.1 (first.2.trans second.2.symm)
    rw [attributed_of_oneMode one]
    by_cases same : head.tradingMode = mode
    · have all : inMode mode (head :: rest) = head :: rest :=
        List.filter_eq_self.mpr fun delivery member => by simp [one delivery member, same]
      rw [all, attributed_of_oneMode one]
    · have nothing : inMode mode (head :: rest) = [] :=
        List.filter_eq_nil_iff.mpr fun delivery member => by simp [one delivery member, same]
      rw [nothing, if_neg same]
      rfl
  · intro instrumentId
    rw [heldQuantity_applyAll, heldQuantity_applyAll, commutes, swap, netQuantity_split,
      separate.flat, add_zero]

/-! ### Where isolation fails -/

theorem Isolated.byInstrument (isolated : Isolated deliveries)
    (inside : delivery ∈ booked deliveries) :
    ∃ position, positionOf (deliveriesOn delivery.execution.instrumentId (booked deliveries)) =
      some position ∧ position.tradingMode = delivery.tradingMode := by
  have oneMode : ∀ other ∈ deliveriesOn delivery.execution.instrumentId
      (booked (inMode delivery.tradingMode deliveries)),
      other.tradingMode = delivery.tradingMode := fun other member =>
    (mem_inMode.mp (mem_of_mem_booked (mem_deliveriesOn.mp member).1)).2
  have same := isolated.positions delivery.tradingMode delivery.execution.instrumentId
  rw [attributed, attributed, getPosition_applyAll, getPosition_applyAll,
    attributed_of_oneMode oneMode, if_pos rfl] at same
  have alone : positionOf (deliveriesOn delivery.execution.instrumentId
      (booked (inMode delivery.tradingMode deliveries))) ≠ none := fun missing =>
    List.ne_nil_of_mem (mem_deliveriesOn.mpr ⟨mem_booked_inMode inside, rfl⟩)
      (positionOf_eq_none.mp missing)
  rw [← same] at alone
  obtain ⟨position, kept⟩ := Option.ne_none_iff_exists'.mp alone
  obtain ⟨found, named⟩ := Option.filter_eq_some_iff.mp kept
  exact ⟨position, found, by simpa using named⟩

theorem traded_of_totals {position : Position} (found : positionOf deliveries = some position) :
    position.traded = totals deliveries :=
  (positionOf_derived found).traded

theorem totals_quantity (deliveries : List Delivery) :
    (totals deliveries).buyQuantity + (totals deliveries).sellQuantity =
      (deliveries.map fun delivery => delivery.execution.quantity).sum := by
  induction deliveries with
  | nil => rfl
  | cons delivery rest inductionHypothesis =>
    simp only [totals, Traded.of, List.map_cons, List.sum_cons] at inductionHypothesis ⊢
    split <;> omega

theorem sum_lt_of_extra {fewer more : List Delivery} {extra : Delivery}
    (positive : ∀ delivery ∈ more, 0 < delivery.execution.quantity) (unique : fewer.Nodup)
    (subset : fewer ⊆ more) (inside : extra ∈ more) (outside : extra ∉ fewer) :
    (fewer.map fun delivery => delivery.execution.quantity).sum <
      (more.map fun delivery => delivery.execution.quantity).sum := by
  have together : (extra :: fewer).Subperm more :=
    List.subperm_of_subset (List.nodup_cons.mpr ⟨outside, unique⟩)
      (List.cons_subset.mpr ⟨inside, subset⟩)
  obtain ⟨chosen, perm, sublist⟩ := together
  have bounded : (chosen.map fun delivery => delivery.execution.quantity).sum ≤
      (more.map fun delivery => delivery.execution.quantity).sum := by
    refine (sublist.map _).sum_le_sum fun quantity member => ?_
    obtain ⟨delivery, delivered, rfl⟩ := List.mem_map.mp member
    exact le_of_lt (positive delivery delivered)
  have split := (perm.map fun delivery => delivery.execution.quantity).sum_eq
  rw [List.map_cons, List.sum_cons] at split
  have gain := positive extra inside
  omega

theorem Isolated.byExecution (isolated : Isolated deliveries)
    (positive : ∀ delivery ∈ deliveries, 0 < delivery.execution.quantity) (byInstrument : ∀ first ∈
      booked deliveries, ∀ second ∈ booked deliveries, first.execution.instrumentId =
      second.execution.instrumentId → first.tradingMode = second.tradingMode) {extra : Delivery}
    (inside : extra ∈ booked (inMode mode deliveries)) : extra ∈ booked deliveries := by
  by_contra outside
  have named : extra.tradingMode = mode := (mem_inMode.mp (mem_of_mem_booked inside)).2
  have oneMode : ∀ delivery ∈ deliveriesOn extra.execution.instrumentId
      (booked (inMode mode deliveries)), delivery.tradingMode = mode := fun delivery member =>
    (mem_inMode.mp (mem_of_mem_booked (mem_deliveriesOn.mp member).1)).2
  have same := isolated.positions mode extra.execution.instrumentId
  rw [attributed, attributed, getPosition_applyAll, getPosition_applyAll,
    attributed_of_oneMode oneMode, if_pos rfl] at same
  obtain ⟨position, alone⟩ : ∃ position, positionOf (deliveriesOn extra.execution.instrumentId
      (booked (inMode mode deliveries))) = some position :=
    Option.ne_none_iff_exists'.mp fun missing =>
      List.ne_nil_of_mem (mem_deliveriesOn.mpr ⟨inside, rfl⟩) (positionOf_eq_none.mp missing)
  rw [alone] at same
  obtain ⟨found, kept⟩ := Option.filter_eq_some_iff.mp same
  -- the last booking on the instrument has the mode, so all of them have it
  have ending := positionOf_tradingMode
    (deliveriesOn extra.execution.instrumentId (booked deliveries))
  rw [found, Option.map_some] at ending
  obtain ⟨last, lastEnding, lastMode⟩ := Option.map_eq_some_iff.mp ending.symm
  have lastInside := mem_deliveriesOn.mp (List.mem_of_getLast? lastEnding)
  have subset : deliveriesOn extra.execution.instrumentId (booked deliveries) ⊆
      deliveriesOn extra.execution.instrumentId (booked (inMode mode deliveries)) := by
    intro delivery member
    obtain ⟨bookedOn, onInstrument⟩ := mem_deliveriesOn.mp member
    have modeToo : delivery.tradingMode = mode := by
      rw [byInstrument delivery bookedOn last lastInside.1
        (onInstrument.trans lastInside.2.symm), lastMode]
      simpa using kept
    refine mem_deliveriesOn.mpr ⟨?_, onInstrument⟩
    rw [← modeToo]
    exact mem_booked_inMode bookedOn
  have unique : (deliveriesOn extra.execution.instrumentId (booked deliveries)).Nodup :=
    (List.Nodup.of_map _ (nodup_acceptAll (by simp) deliveries)).filter _
  have less := sum_lt_of_extra
    (fun delivery member => positive delivery (mem_inMode.mp
      (mem_of_mem_booked (mem_deliveriesOn.mp member).1)).1)
    unique subset (mem_deliveriesOn.mpr ⟨inside, rfl⟩)
    (fun member => outside (mem_deliveriesOn.mp member).1)
  rw [← totals_quantity, ← totals_quantity, ← traded_of_totals found,
    ← traded_of_totals alone] at less
  exact absurd less (lt_irrefl _)

theorem separate_of_isolated (positive : ∀ delivery ∈ deliveries, 0 < delivery.execution.quantity)
    (isolated : Isolated deliveries) : Separate deliveries := by
  have byInstrument : ∀ first ∈ booked deliveries, ∀ second ∈ booked deliveries,
      first.execution.instrumentId = second.execution.instrumentId →
      first.tradingMode = second.tradingMode := by
    intro first inFirst second inSecond same
    obtain ⟨position, found, firstMode⟩ := isolated.byInstrument inFirst
    obtain ⟨other, foundToo, secondMode⟩ := isolated.byInstrument inSecond
    rw [same, foundToo] at found
    rw [← firstMode, ← secondMode, Option.some.inj found]
  -- the booking of an execution has the mode of each of its deliveries
  have bookingMode : ∀ delivery ∈ deliveries, ∃ booking ∈ booked deliveries,
      booking.execution.executionId = delivery.execution.executionId ∧
        booking.tradingMode = delivery.tradingMode := by
    intro delivery delivered
    obtain ⟨alone, aloneBooked, sameId⟩ := List.mem_map.mp
      (key_mem_acceptAll (fun delivery : Delivery => delivery.execution.executionId) []
        (mem_inMode.mpr ⟨delivered, rfl⟩ : delivery ∈ inMode delivery.tradingMode deliveries))
    exact ⟨alone, isolated.byExecution positive byInstrument aloneBooked, sameId,
      (mem_inMode.mp (mem_of_mem_booked aloneBooked)).2⟩
  have uniqueIds : ((booked deliveries).map fun delivery =>
      delivery.execution.executionId).Nodup := nodup_acceptAll (by simp) deliveries
  have byExecution : ∀ first ∈ deliveries, ∀ second ∈ deliveries,
      first.execution.executionId = second.execution.executionId →
      first.tradingMode = second.tradingMode := by
    intro first inFirst second inSecond same
    obtain ⟨one, oneBooked, oneId, oneMode⟩ := bookingMode first inFirst
    obtain ⟨two, twoBooked, twoId, twoMode⟩ := bookingMode second inSecond
    have equal : one = two := List.inj_on_of_nodup_map uniqueIds oneBooked twoBooked
      (oneId.trans (same.trans twoId.symm))
    rw [← oneMode, ← twoMode, equal]
  refine ⟨byExecution, byInstrument, fun instrumentId => ?_⟩
  have held := isolated.held instrumentId
  have commutes : booked (inMode .paper deliveries) = inMode .paper (booked deliveries) :=
    acceptAll_filter _ fun first inFirst second inSecond same => by
      rw [byExecution first inFirst second inSecond same]
  rw [heldQuantity_applyAll, heldQuantity_applyAll, netQuantity_split, commutes] at held
  have swap : deliveriesOn instrumentId (inMode .paper (booked deliveries)) =
      inMode .paper (deliveriesOn instrumentId (booked deliveries)) := by
    simp only [deliveriesOn, inMode, List.filter_filter, Bool.and_comm]
  rw [swap] at held
  omega

/-- After any deliveries the trading modes are isolated exactly when no execution and no
instrument is shared between modes and what is booked outside PAPER is flat. -/
theorem applyExecutionAtomic_isolates_iff (deliveries : List Delivery)
    (positive : ∀ delivery ∈ deliveries, 0 < delivery.execution.quantity) :
    Isolated deliveries ↔ Separate deliveries :=
  ⟨separate_of_isolated positive, isolated_of_separate⟩

/-- A delivery of one side of a trade in an instrument. -/
def traded (executionId instrumentId : String) (mode : TradingMode) (side : OrderSide)
    (quantity : Int) : Delivery where
  execution :=
    { executionId := executionId
      orderId := "order-" ++ executionId
      brokerExecutionId := none
      instrumentId := instrumentId
      symbol := "NIFTY"
      side := side
      quantity := quantity
      price := 100 }
  tradingMode := mode
  currentPrice := 100

/-- A PAPER position in one contract beside a LIVE round trip in another. -/
def twoContracts : List Delivery :=
  [traded "1" "CALL" .paper .buy 75, traded "2" "PUT" .live .buy 25,
    traded "3" "PUT" .live .sell 25]

/-- The same contract bought in both modes. -/
def oneContract : List Delivery :=
  [traded "1" "CALL" .paper .buy 75, traded "2" "CALL" .live .buy 25]

end PortfolioTables

open PortfolioTables

/-- Two contracts, each in its own mode, are isolated. -/
theorem applyExecutionAtomic_isolates_twoContracts : Isolated twoContracts := by
  refine (applyExecutionAtomic_isolates_iff twoContracts (by decide)).mpr
    ⟨by decide, by decide, fun instrumentId => ?_⟩
  by_cases call : instrumentId = "CALL"
  · subst call
    decide
  by_cases put : instrumentId = "PUT"
  · subst put
    decide
  have none : deliveriesOn instrumentId (booked twoContracts) = [] :=
    List.filter_eq_nil_iff.mpr fun delivery member => by
      have named : delivery.execution.instrumentId = "CALL" ∨
          delivery.execution.instrumentId = "PUT" := by
        revert delivery
        decide
      rcases named with same | same <;> simp [same, Ne.symm call, Ne.symm put]
  rw [none]
  rfl

/-- One contract traded in both modes is not: the LIVE position counts the PAPER purchase. -/
theorem applyExecutionAtomic_mixes_modes :
    ¬ ∀ deliveries : List Delivery, (∀ delivery ∈ deliveries, 0 < delivery.execution.quantity) →
      Isolated deliveries := by
  intro isolated
  have same := (isolated oneContract (by decide)).positions .live "CALL"
  have mixed : (attributed .live (empty.applyAll oneContract) "CALL").map Position.quantity =
      some 100 := by decide +kernel
  have alone : (attributed .live (empty.applyAll (inMode .live oneContract)) "CALL").map
      Position.quantity = some 25 := by decide +kernel
  rw [same, alone] at mixed
  exact absurd (Option.some.inj mixed) (by decide)

end BreezeTrading
