/-
This file follows the partial exit of Strategy A through any order of management calls and
confirmed fills. The decision and the fill are separate operations on fields they share, so
both are first read as operations on what a trade holds: reaching the first target, and
selling what is due. It proves that every such run conserves the quantity of the trade.
-/

import BreezeTrading.Lib.Run
import BreezeTrading.Strategy.PositionManager

namespace BreezeTrading.PartialExit

open PositionManager

/-! ### Holdings -/

/-- What a trade holds, and what its first target left due. -/
structure Holding where
  quantity : Int
  initialQuantity : Option Int
  lotSize : Int
  filled : Int
  reached : Bool
  due : Int
  remaining : Option Int

def holding (trade : ManagedTrade) : Holding where
  quantity := trade.quantity
  initialQuantity := trade.initialQuantity
  lotSize := trade.lotSize
  filled := trade.partialExitFilledQuantity
  reached := trade.t1Reached
  due := trade.t1ExitQuantity
  remaining := trade.remainingQuantity

namespace Holding

variable (held : Holding)

def original : Int := orQuantity held.initialQuantity held.quantity

def halfLots : Int := (max 1 (held.original.fdiv held.lotSize)).fdiv 2

/-- The first target is reached: half of the lots are due, unless there is one lot. -/
def reach : Holding :=
  if held.halfLots < 1 then { held with reached := true, remaining := some held.original }
  else
    { held with
      reached := true
      due := held.halfLots * held.lotSize
      remaining := some (held.original - held.filled) }

/-- What is due is sold. -/
def sell : Holding :=
  { held with
    filled := held.due
    remaining := some (held.original - held.due)
    quantity := held.original - held.due }

end Holding

/-! ### The operations on holdings -/

section Operations

variable (manager : PositionManager) (trade : ManagedTrade)

theorem holding_trackUnderlying (price optionPrice entryPrice initialR : ℚ) :
    holding (trackUnderlying trade price optionPrice entryPrice initialR) = holding trade := rfl

theorem holding_protectBreakeven (entryPrice : ℚ) :
    holding (protectBreakeven manager trade entryPrice) = holding trade := by
  unfold protectBreakeven
  dsimp only
  split <;> rfl

theorem holding_reachT1 (price entryPrice initialR : ℚ) :
    holding (reachT1 trade price entryPrice initialR).1 = (holding trade).reach := by
  unfold reachT1 Holding.reach
  dsimp only
  split
  · rename_i oneLot
    rw [if_pos (show (holding trade).halfLots < 1 from oneLot)]
    rfl
  · rename_i lots
    rw [if_neg (show ¬(holding trade).halfLots < 1 from lots)]
    rfl

theorem holding_manageTargets (price entryPrice initialR : ℚ) :
    holding (manageTargets manager trade price entryPrice initialR).1 = holding trade ∨
      (holding trade).reached = false ∧
        holding (manageTargets manager trade price entryPrice initialR).1 =
          (holding trade).reach := by
  unfold manageTargets
  split
  · rename_i first
    exact .inr ⟨first.2, holding_reachT1 trade price entryPrice initialR⟩
  · split
    · exact .inl rfl
    · split <;> exact .inl rfl

theorem holding_updateStrategyAPosition (price : ℚ) (optionPrice : Option ℚ) (asOf : Option Int) :
    holding (updateStrategyAPosition manager trade price optionPrice asOf).1 = holding trade ∨
      (holding trade).reached = false ∧
        holding (updateStrategyAPosition manager trade price optionPrice asOf).1 =
          (holding trade).reach := by
  unfold updateStrategyAPosition
  dsimp only
  split
  · exact .inl rfl
  split
  · exact .inl rfl
  split
  · exact .inl rfl
  split
  · exact .inl (holding_protectBreakeven manager _ _)
  · have kept := (holding_protectBreakeven manager
      (trackUnderlying trade price (optionPrice.getD 0) (underlyingEntry trade)
        (underlyingRisk trade)) (underlyingEntry trade)).trans
      (holding_trackUnderlying trade price (optionPrice.getD 0) (underlyingEntry trade)
        (underlyingRisk trade))
    have targets := holding_manageTargets manager
      (protectBreakeven manager
        (trackUnderlying trade price (optionPrice.getD 0) (underlyingEntry trade)
          (underlyingRisk trade)) (underlyingEntry trade))
      price (underlyingEntry trade) (underlyingRisk trade)
    rwa [kept] at targets

theorem applyT1PartialFill_cases (rawBid executablePrice slippagePoints : ℚ) (filledAt : Int) :
    (applyT1PartialFill trade rawBid executablePrice slippagePoints filledAt).2 = trade ∨
      0 < (holding trade).due ∧ (holding trade).filled ≤ 0 ∧
        holding (applyT1PartialFill trade rawBid executablePrice slippagePoints filledAt).2 =
          (holding trade).sell := by
  unfold applyT1PartialFill
  dsimp only
  split
  · exact .inl rfl
  rename_i wholeLots
  split
  · exact .inl rfl
  split
  · exact .inl rfl
  split
  · exact .inl rfl
  rename_i unsold
  obtain ⟨due, -⟩ := not_or.mp wholeLots
  exact .inr ⟨not_le.mp due, not_lt.mp unsold, rfl⟩

theorem applyT1PartialFill_error {rawBid executablePrice slippagePoints : ℚ} {filledAt : Int}
    {message : String}
    (raises : (applyT1PartialFill trade rawBid executablePrice slippagePoints filledAt).1 =
      .error message) :
    (applyT1PartialFill trade rawBid executablePrice slippagePoints filledAt).2 = trade := by
  unfold applyT1PartialFill at raises ⊢
  dsimp only at raises ⊢
  split
  · rfl
  split
  · rfl
  split
  · rfl
  split
  · rfl
  rename_i wholeLots fits valid unsold
  rw [if_neg wholeLots, if_neg fits, if_neg valid, if_neg unsold] at raises
  cases raises

end Operations

/-! ### Runs -/

/-- A call to the position manager. -/
inductive Call where
  | update (price : ℚ) (optionPrice : Option ℚ) (asOf : Option Int)
  | fill (rawBid executablePrice slippagePoints : ℚ) (filledAt : Int)

/-- The error a call raises, if any, and the trade as it leaves it. -/
def answer (manager : PositionManager) (trade : ManagedTrade) :
    Call → Except String Unit × ManagedTrade
  | .update price optionPrice asOf =>
      (.ok (), (updateStrategyAPosition manager trade price optionPrice asOf).1)
  | .fill rawBid executablePrice slippagePoints filledAt =>
      applyT1PartialFill trade rawBid executablePrice slippagePoints filledAt

/-- A trade, and how many fills were applied to it. -/
structure Book where
  trade : ManagedTrade
  applied : Nat

/-- A fill that changes the trade is applied. -/
def applies (manager : PositionManager) (trade : ManagedTrade) : Call → Bool
  | .update _ _ _ => false
  | .fill rawBid executablePrice slippagePoints filledAt =>
      decide ((answer manager trade
        (.fill rawBid executablePrice slippagePoints filledAt)).2 ≠ trade)

def step (manager : PositionManager) (book : Book) (call : Call) : Book :=
  ⟨(answer manager book.trade call).2,
    book.applied + if applies manager book.trade call then 1 else 0⟩

/-! ### Conservation -/

/-- A trade whose whole quantity is held, in whole lots, with nothing due. -/
structure Fresh (start : ManagedTrade) : Prop where
  lotSize : 0 < start.lotSize
  positive : 0 < start.quantity
  wholeLots : start.lotSize ∣ start.quantity
  original : orQuantity start.initialQuantity start.quantity = start.quantity
  unsold : start.partialExitFilledQuantity = 0
  nothingDue : start.t1ExitQuantity = 0
  remaining : ∀ quantity ∈ start.remainingQuantity, quantity = start.quantity

/-- The quantities of a trade account for what it started with. -/
structure Conserved (start : ManagedTrade) (book : Book) : Prop where
  sum : book.trade.quantity + book.trade.partialExitFilledQuantity = start.quantity
  remaining : 0 < book.trade.partialExitFilledQuantity →
    book.trade.remainingQuantity = some book.trade.quantity
  lotSize : book.trade.lotSize = start.lotSize
  quantityInLots : start.lotSize ∣ book.trade.quantity
  filledInLots : start.lotSize ∣ book.trade.partialExitFilledQuantity
  remainingInLots : ∀ quantity ∈ book.trade.remainingQuantity, start.lotSize ∣ quantity
  once : book.applied ≤ 1
  half : 2 * book.trade.partialExitFilledQuantity ≤ start.quantity

/-- What a trade of some lots holds after some number of fills: nothing is sold yet, or half of
the lots are. -/
inductive Phase (lotSize lots : Int) (initialQuantity : Option Int) : Holding → Nat → Prop
  | unsold (reached : Bool) (remaining : Option Int) (due : Int)
      (whole : ∀ quantity ∈ remaining, quantity = lots * lotSize)
      (decided : due = 0 ∨ reached = true ∧ due = lots / 2 * lotSize) :
      Phase lotSize lots initialQuantity
        ⟨lots * lotSize, initialQuantity, lotSize, 0, reached, due, remaining⟩ 0
  | sold (positive : 0 < lots / 2 * lotSize) :
      Phase lotSize lots initialQuantity
        ⟨lots * lotSize - lots / 2 * lotSize, initialQuantity, lotSize, lots / 2 * lotSize, true,
          lots / 2 * lotSize, some (lots * lotSize - lots / 2 * lotSize)⟩ 1

section Phase

variable {lotSize lots : Int} {initialQuantity : Option Int} {held : Holding} {applied : Nat}

theorem halfLots_of_original (held : Holding) (positiveLot : 0 < lotSize) (positiveLots : 1 ≤ lots)
    (ofLot : held.lotSize = lotSize) (original : held.original = lots * lotSize) :
    held.halfLots = lots / 2 := by
  unfold Holding.halfLots
  rw [ofLot, original, Int.fdiv_eq_ediv_of_nonneg _ positiveLot.le,
    Int.mul_ediv_cancel _ positiveLot.ne', max_eq_right positiveLots,
    Int.fdiv_eq_ediv_of_nonneg _ (by decide)]

theorem Phase.reach (positiveLot : 0 < lotSize) (positiveLots : 1 ≤ lots)
    (original : orQuantity initialQuantity (lots * lotSize) = lots * lotSize)
    (phase : Phase lotSize lots initialQuantity held applied) (first : held.reached = false) :
    Phase lotSize lots initialQuantity held.reach applied := by
  cases phase with
  | sold => cases first
  | unsold reached remaining due whole decided =>
    have noneDue : due = 0 := by
      rcases decided with none | ⟨isReached, -⟩
      · exact none
      · rw [show reached = false from first] at isReached
        cases isReached
    have half := halfLots_of_original
      ⟨lots * lotSize, initialQuantity, lotSize, 0, reached, due, remaining⟩
      positiveLot positiveLots rfl original
    unfold Holding.reach
    rw [half]
    split
    · exact .unsold true _ due (by rintro _ ⟨⟩; exact original) (.inl noneDue)
    · exact .unsold true _ _
        (by rintro _ ⟨⟩; exact (Int.sub_zero _).trans original) (.inr ⟨rfl, rfl⟩)

theorem Phase.sell (original : orQuantity initialQuantity (lots * lotSize) = lots * lotSize)
    (phase : Phase lotSize lots initialQuantity held applied) (due : 0 < held.due)
    (unsold : held.filled ≤ 0) :
    applied = 0 ∧ Phase lotSize lots initialQuantity held.sell 1 := by
  cases phase with
  | sold positive => exact absurd unsold (not_le.mpr positive)
  | unsold reached remaining quantity whole decided =>
    rcases decided with none | ⟨isReached, half⟩
    · exact absurd none due.ne'
    · subst half isReached
      refine ⟨rfl, ?_⟩
      unfold Holding.sell Holding.original
      rw [original]
      exact .sold due

end Phase

section Run

variable {manager : PositionManager} {start : ManagedTrade} {lots : Int}

theorem phase_step (fresh : Fresh start) (inLots : start.quantity = lots * start.lotSize)
    {book : Book} (call : Call)
    (phase : Phase start.lotSize lots start.initialQuantity (holding book.trade) book.applied) :
    Phase start.lotSize lots start.initialQuantity (holding (step manager book call).trade)
      (step manager book call).applied := by
  have original := fresh.original
  rw [inLots] at original
  cases call with
  | update price optionPrice asOf =>
    have positiveLots : 1 ≤ lots := by
      have positive := fresh.positive
      rw [inLots] at positive
      exact Int.pos_of_mul_pos_left positive fresh.lotSize
    rcases holding_updateStrategyAPosition manager book.trade price optionPrice asOf with
      kept | ⟨first, reached⟩
    · simpa [step, answer, applies, kept] using phase
    · simpa [step, answer, applies, reached] using
        phase.reach fresh.lotSize positiveLots original first
  | fill rawBid executablePrice slippagePoints filledAt =>
    rcases applyT1PartialFill_cases book.trade rawBid executablePrice slippagePoints filledAt with
      kept | ⟨due, unsold, sold⟩
    · simpa [step, answer, applies, kept] using phase
    · obtain ⟨zero, after⟩ := phase.sell original due unsold
      have changed : (applyT1PartialFill book.trade rawBid executablePrice slippagePoints
          filledAt).2 ≠ book.trade := by
        intro same
        rw [same] at sold
        have filled : (holding book.trade).filled = (holding book.trade).due :=
          congrArg Holding.filled sold
        omega
      simpa [step, answer, applies, changed, sold, zero] using after

theorem conserved_of_phase (fresh : Fresh start) (inLots : start.quantity = lots * start.lotSize)
    {book : Book}
    (phase : Phase start.lotSize lots start.initialQuantity (holding book.trade) book.applied) :
    Conserved start book := by
  generalize holds : holding book.trade = held at phase
  generalize count : book.applied = applied at phase
  have quantity : book.trade.quantity = held.quantity := congrArg Holding.quantity holds
  have filled : book.trade.partialExitFilledQuantity = held.filled :=
    congrArg Holding.filled holds
  have lotSize : book.trade.lotSize = held.lotSize := congrArg Holding.lotSize holds
  have remaining : book.trade.remainingQuantity = held.remaining :=
    congrArg Holding.remaining holds
  cases phase with
  | unsold reached rest due whole decided =>
    dsimp only at quantity filled lotSize remaining
    refine ⟨?_, ?_, lotSize, ?_, ?_, ?_, by omega, ?_⟩
    · rw [quantity, filled, inLots, add_zero]
    · intro some
      omega
    · rw [quantity]
      exact Dvd.intro_left lots rfl
    · rw [filled]
      exact dvd_zero _
    · intro number isRemaining
      rw [remaining] at isRemaining
      rw [whole number isRemaining]
      exact Dvd.intro_left lots rfl
    · have positive := fresh.positive
      omega
  | sold positive =>
    have halves : 2 * (lots / 2) ≤ lots := by omega
    have dividesRest : start.lotSize ∣ lots * start.lotSize - lots / 2 * start.lotSize :=
      dvd_sub (Dvd.intro_left lots rfl) (Dvd.intro_left (lots / 2) rfl)
    refine ⟨?_, ?_, lotSize, ?_, ?_, ?_, by omega, ?_⟩
    · rw [quantity, filled, inLots, sub_add_cancel]
    · intro _
      rw [remaining, quantity]
    · rwa [quantity]
    · rw [filled]
      exact Dvd.intro_left (lots / 2) rfl
    · intro number isRemaining
      rw [remaining] at isRemaining
      cases isRemaining
      exact dividesRest
    · rw [filled, inLots, ← mul_assoc]
      exact mul_le_mul_of_nonneg_right halves fresh.lotSize.le

end Run

/-- Through every order of updates and fills, the quantities of a trade account for what it started
with, and a call that raises leaves the trade as it was. -/
theorem partial_exit_conserves_quantity (manager : PositionManager) (start : ManagedTrade)
    (calls : List Call) (fresh : Fresh start) :
    Run.Along (step manager)
      (fun book call => Conserved start book ∧ Conserved start (step manager book call) ∧
        ∀ message, (answer manager book.trade call).1 = .error message →
          (step manager book call).trade = book.trade)
      ⟨start, 0⟩ calls := by
  obtain ⟨lots, inLots⟩ := fresh.wholeLots
  rw [mul_comm] at inLots
  have begins : Phase start.lotSize lots start.initialQuantity (holding start) 0 := by
    have held : holding start = ⟨lots * start.lotSize, start.initialQuantity, start.lotSize, 0,
        start.t1Reached, 0, start.remainingQuantity⟩ := by
      simp only [holding, ← inLots, fresh.unsold, fresh.nothingDue]
    rw [held]
    exact .unsold _ _ 0 (fun quantity isRemaining => (fresh.remaining quantity isRemaining).trans
      inLots) (.inl rfl)
  have keeps : ∀ (book : Book) (call : Call),
      Phase start.lotSize lots start.initialQuantity (holding book.trade) book.applied → True →
      Phase start.lotSize lots start.initialQuantity (holding (step manager book call).trade)
        (step manager book call).applied :=
    fun book call phase _ => phase_step fresh inLots call phase
  refine Run.Along.of_invariant keeps ?_ begins
    (Run.along_of_forall (fun _ _ => trivial) _ _)
  intro book call phase _
  refine ⟨conserved_of_phase fresh inLots phase,
    conserved_of_phase fresh inLots (phase_step fresh inLots call phase), ?_⟩
  intro message raises
  cases call with
  | update price optionPrice asOf => cases raises
  | fill rawBid executablePrice slippagePoints filledAt =>
    exact applyT1PartialFill_error book.trade raises

/-- Three lots of 65, whose first target is 150 points above the entry. -/
def threeLots : ManagedTrade :=
  .entered "trade" .paper .trendPullback .bullish 195 65 0 24000 100 23900 75

/-- A fill too early, the first target, a fill of it, and a fill again. -/
def targetThenFills : List Call :=
  [.fill 120 119 1 0, .update 24160 (some 140) none, .fill 140 139 1 0, .fill 140 139 1 0]

theorem partial_exit_conserves_three_lots :
    Run.Along (step (.defaults toString)) (fun book call => Conserved threeLots book ∧
        Conserved threeLots (step (.defaults toString) book call) ∧
        ∀ message, (answer (.defaults toString) book.trade call).1 = .error message →
          (step (.defaults toString) book call).trade = book.trade)
      ⟨threeLots, 0⟩ targetThenFills :=
  partial_exit_conserves_quantity (.defaults toString) threeLots targetThenFills
    ⟨by decide, by decide, by decide, by decide, by decide, by decide, by decide⟩

end BreezeTrading.PartialExit
