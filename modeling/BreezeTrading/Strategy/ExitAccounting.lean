/-
This file follows the accounting of the orders that close a position. An order is polled any
number of times, and replaced when it ends. The quantity of the exits is the sum of the last
fills, their proceeds the sum of the last proceeds up to the revisions the service ignores, and a
poll counts once.
-/

import BreezeTrading.Lib.Run
import BreezeTrading.Strategy.LiveExit

namespace BreezeTrading.LiveExit

/-! ### One poll -/

/-- The quantity an order has sold, as the service reads it. -/
def soldQuantity (order : SellOrder) : Int := max 0 (min order.filledQuantity order.quantity)

/-- What the service ignores of a revision of the average price alone. -/
def ignored : ℚ := 1 / 1000000000

/-- The fill of a poll is accounted. -/
def account (trade : ManagedTrade) (order : SellOrder) : ManagedTrade :=
  { trade with
    exitFilledQuantity := min trade.quantity
      (trade.exitFilledQuantity + (soldQuantity order - trade.exitOrderAccountedFilledQuantity))
    exitProceeds := trade.exitProceeds +
      (order.averagePrice * soldQuantity order - trade.exitOrderAccountedProceeds)
    exitOrderAccountedFilledQuantity := soldQuantity order
    exitOrderAccountedProceeds := order.averagePrice * soldQuantity order }

theorem applyExitOrderProgress_of_less {trade : ManagedTrade} {order : SellOrder}
    (less : soldQuantity order < trade.exitOrderAccountedFilledQuantity) :
    applyExitOrderProgress trade order = trade := if_pos less

theorem applyExitOrderProgress_of_le {trade : ManagedTrade} {order : SellOrder}
    (le : trade.exitOrderAccountedFilledQuantity ≤ soldQuantity order) :
    applyExitOrderProgress trade order =
      if soldQuantity order = trade.exitOrderAccountedFilledQuantity ∧
          |order.averagePrice * soldQuantity order - trade.exitOrderAccountedProceeds| ≤ ignored then
        trade
      else account trade order := by
  have polled : applyExitOrderProgress trade order =
      if soldQuantity order - trade.exitOrderAccountedFilledQuantity ≠ 0 ∨
          1 / 1000000000 <
            order.averagePrice * soldQuantity order - trade.exitOrderAccountedProceeds ∨
          order.averagePrice * soldQuantity order - trade.exitOrderAccountedProceeds <
            -(1 / 1000000000) then account trade order
      else trade := if_neg (not_lt.mpr le)
  have revised : (soldQuantity order = trade.exitOrderAccountedFilledQuantity ∧
      |order.averagePrice * soldQuantity order - trade.exitOrderAccountedProceeds| ≤ ignored) ↔
      ¬(soldQuantity order - trade.exitOrderAccountedFilledQuantity ≠ 0 ∨
        1 / 1000000000 <
          order.averagePrice * soldQuantity order - trade.exitOrderAccountedProceeds ∨
        order.averagePrice * soldQuantity order - trade.exitOrderAccountedProceeds <
          -(1 / 1000000000)) := by
    unfold ignored
    rw [abs_le, not_or, not_or, not_not, not_lt, not_lt, sub_eq_zero, and_comm (a := _ ≤ _)]
  rw [polled, ite_congr (propext revised) (fun _ => rfl) (fun _ => rfl), ite_not]

theorem applyExitOrderProgress_again (trade : ManagedTrade) (order : SellOrder) :
    applyExitOrderProgress (applyExitOrderProgress trade order) order =
      applyExitOrderProgress trade order := by
  rcases lt_or_ge (soldQuantity order) trade.exitOrderAccountedFilledQuantity with less | le
  · rw [applyExitOrderProgress_of_less less, applyExitOrderProgress_of_less less]
  · rw [applyExitOrderProgress_of_le le]
    split
    · rename_i same
      rw [applyExitOrderProgress_of_le le, if_pos same]
    · have again : (account trade order).exitOrderAccountedFilledQuantity ≤ soldQuantity order :=
        le_rfl
      rw [applyExitOrderProgress_of_le again, if_pos]
      refine ⟨rfl, ?_⟩
      show |order.averagePrice * soldQuantity order - order.averagePrice * soldQuantity order| ≤ _
      rw [sub_self, abs_zero]
      norm_num [ignored]

/-! ### Runs over orders -/

/-- The trade, the last fill and average price of each order that ended, and those of the order
that is polled. -/
structure ExitLedger where
  trade : ManagedTrade
  ended : List (Int × ℚ)
  current : Int × ℚ

/-- An exit order is polled, or its successor takes its place. -/
inductive ExitStep where
  | poll (order : SellOrder)
  | replace

namespace ExitLedger

/-- The proceeds of a fill at an average price. -/
def proceeds (fill : Int × ℚ) : ℚ := fill.2 * fill.1

def endedQuantity (ledger : ExitLedger) : Int := (ledger.ended.map Prod.fst).sum

def endedProceeds (ledger : ExitLedger) : ℚ := (ledger.ended.map proceeds).sum

def step (ledger : ExitLedger) : ExitStep → ExitLedger
  | .poll order =>
      { ledger with
        trade := applyExitOrderProgress ledger.trade order
        current := (soldQuantity order, order.averagePrice) }
  | .replace =>
      ⟨resetExitOrderProgress ledger.trade, ledger.current :: ledger.ended, (0, 0)⟩

/-- The fill of an order does not decrease, and all fills stay within the quantity. -/
def Admitted (ledger : ExitLedger) : ExitStep → Prop
  | .poll order => ledger.current.1 ≤ soldQuantity order ∧
      ledger.endedQuantity + soldQuantity order ≤ ledger.trade.quantity
  | .replace => True

instance (ledger : ExitLedger) : ∀ given, Decidable (Admitted ledger given)
  | .poll _ => inferInstanceAs (Decidable (_ ∧ _))
  | .replace => inferInstanceAs (Decidable True)

/-- The exits of the trade are the fills of its orders, and their proceeds those of the fills, up
to what the service ignores of each order. -/
structure Accounted (ledger : ExitLedger) : Prop where
  quantity : ledger.trade.exitFilledQuantity = ledger.current.1 + ledger.endedQuantity
  proceeds : |ledger.trade.exitProceeds -
    (ExitLedger.proceeds ledger.current + ledger.endedProceeds)| ≤
      (ledger.ended.length + 1) * ignored

/-- The progress that was accounted is that of the current order. -/
structure Sound (ledger : ExitLedger) : Prop where
  accounted : ledger.trade.exitOrderAccountedFilledQuantity = ledger.current.1
  quantity : ledger.trade.exitFilledQuantity = ledger.current.1 + ledger.endedQuantity
  current : |ledger.trade.exitOrderAccountedProceeds - ExitLedger.proceeds ledger.current| ≤
    ignored
  ended : |ledger.trade.exitProceeds - ledger.trade.exitOrderAccountedProceeds -
    ledger.endedProceeds| ≤ ledger.ended.length * ignored

theorem Sound.accounts {ledger : ExitLedger} (sound : Sound ledger) : Accounted ledger := by
  refine ⟨sound.quantity, ?_⟩
  have apart : ledger.trade.exitProceeds -
      (ExitLedger.proceeds ledger.current + ledger.endedProceeds) =
      (ledger.trade.exitProceeds - ledger.trade.exitOrderAccountedProceeds - ledger.endedProceeds) +
      (ledger.trade.exitOrderAccountedProceeds - ExitLedger.proceeds ledger.current) := by ring
  rw [apart]
  calc _ ≤ _ := abs_add_le _ _
    _ ≤ ledger.ended.length * ignored + ignored := add_le_add sound.ended sound.current
    _ = (ledger.ended.length + 1) * ignored := by ring

theorem Sound.poll {ledger : ExitLedger} (sound : Sound ledger) {order : SellOrder}
    (grows : ledger.current.1 ≤ soldQuantity order)
    (fits : ledger.endedQuantity + soldQuantity order ≤ ledger.trade.quantity) :
    Sound (ledger.step (.poll order)) := by
  have le : ledger.trade.exitOrderAccountedFilledQuantity ≤ soldQuantity order :=
    sound.accounted.trans_le grows
  show Sound { ledger with
    trade := applyExitOrderProgress ledger.trade order
    current := (soldQuantity order, order.averagePrice) }
  rw [applyExitOrderProgress_of_le le]
  split
  · rename_i same
    obtain ⟨fill, revision⟩ := same
    refine ⟨fill.symm, ?_, ?_, sound.ended⟩
    · show ledger.trade.exitFilledQuantity = soldQuantity order + ledger.endedQuantity
      rw [fill, sound.accounted]
      exact sound.quantity
    · rw [abs_sub_comm]
      exact revision
  · have sum : ledger.trade.exitFilledQuantity +
        (soldQuantity order - ledger.trade.exitOrderAccountedFilledQuantity) =
        soldQuantity order + ledger.endedQuantity := by
      rw [sound.accounted, sound.quantity]
      ring
    refine ⟨rfl, ?_, ?_, ?_⟩
    · show min ledger.trade.quantity _ = soldQuantity order + ledger.endedQuantity
      rw [sum]
      exact min_eq_right (by omega)
    · show |order.averagePrice * soldQuantity order - order.averagePrice * soldQuantity order| ≤ _
      rw [sub_self, abs_zero]
      norm_num [ignored]
    · have moved : ledger.trade.exitProceeds + (order.averagePrice * soldQuantity order -
          ledger.trade.exitOrderAccountedProceeds) - order.averagePrice * soldQuantity order =
          ledger.trade.exitProceeds - ledger.trade.exitOrderAccountedProceeds := by ring
      show |ledger.trade.exitProceeds + (order.averagePrice * soldQuantity order -
        ledger.trade.exitOrderAccountedProceeds) - order.averagePrice * soldQuantity order -
        ledger.endedProceeds| ≤ _
      rw [moved]
      exact sound.ended

theorem Sound.replace {ledger : ExitLedger} (sound : Sound ledger) :
    Sound (ledger.step .replace) := by
  refine ⟨rfl, ?_, ?_, ?_⟩
  · show ledger.trade.exitFilledQuantity = 0 + (ledger.current.1 + ledger.endedQuantity)
    rw [zero_add]
    exact sound.quantity
  · show |(0 : ℚ) - 0 * ((0 : Int) : ℚ)| ≤ ignored
    norm_num [ignored]
  · show |ledger.trade.exitProceeds - 0 -
      (ExitLedger.proceeds ledger.current + ledger.endedProceeds)| ≤
        ((ledger.ended.length + 1 : Nat) : ℚ) * ignored
    rw [sub_zero, Nat.cast_add, Nat.cast_one]
    exact sound.accounts.proceeds

/-- A trade nothing was sold of. -/
def Fresh (trade : ManagedTrade) : Prop :=
  trade.exitFilledQuantity = 0 ∧ trade.exitProceeds = 0 ∧
    trade.exitOrderAccountedFilledQuantity = 0 ∧ trade.exitOrderAccountedProceeds = 0

instance (trade : ManagedTrade) : Decidable (Fresh trade) := inferInstanceAs (Decidable (_ ∧ _))

theorem Sound.of_fresh {trade : ManagedTrade} (fresh : Fresh trade) : Sound ⟨trade, [], (0, 0)⟩ := by
  obtain ⟨filled, proceeds, accounted, accountedProceeds⟩ := fresh
  refine ⟨accounted, filled, ?_, ?_⟩
  · rw [accountedProceeds]
    show |(0 : ℚ) - 0 * ((0 : Int) : ℚ)| ≤ ignored
    norm_num [ignored]
  · rw [accountedProceeds, proceeds]
    show |(0 : ℚ) - 0 - 0| ≤ ((0 : Nat) : ℚ) * ignored
    norm_num

/-- A poll that was accounted changes nothing when it is repeated, and neither does one that reports
less than the fill so far. -/
def CountsOnce (ledger : ExitLedger) (given : ExitStep) : Prop :=
  (∀ order, given = .poll order →
      applyExitOrderProgress (ledger.step given).trade order = (ledger.step given).trade) ∧
    ∀ order, soldQuantity order < (ledger.step given).current.1 →
      applyExitOrderProgress (ledger.step given).trade order = (ledger.step given).trade

/-- Over all orders of a trade and all polls of each, the exits are the sum of the last fills, and
their proceeds those of the last fills up to what the service ignores of each order. -/
theorem exit_progress_counts_once (trade : ManagedTrade) (steps : List ExitStep)
    (fresh : Fresh trade) (admitted : Run.Along step Admitted ⟨trade, [], (0, 0)⟩ steps) :
    Run.Along step (fun ledger given => Accounted (ledger.step given) ∧ CountsOnce ledger given)
      ⟨trade, [], (0, 0)⟩ steps := by
  have keeps : ∀ (ledger : ExitLedger) (given : ExitStep), Sound ledger →
      Admitted ledger given → Sound (ledger.step given) := by
    intro ledger given sound isAdmitted
    cases given with
    | poll order => exact sound.poll isAdmitted.1 isAdmitted.2
    | replace => exact sound.replace
  refine Run.Along.of_invariant keeps ?_ (Sound.of_fresh fresh) admitted
  intro ledger given sound isAdmitted
  have after := keeps ledger given sound isAdmitted
  refine ⟨after.accounts, ?_, fun order less =>
    applyExitOrderProgress_of_less (after.accounted ▸ less)⟩
  rintro order rfl
  exact applyExitOrderProgress_again ledger.trade order

/-- One lot of 65 that is open. -/
def openLot : ManagedTrade :=
  .entered "trade" .live .trendPullback .bullish 65 65 0 24000 100 23900 75

/-- A report of an exit order for one lot. -/
def reported (filledQuantity : Int) (averagePrice : ℚ) : SellOrder where
  orderId := "exit"
  kind := .final
  quantity := 65
  price := averagePrice
  status := .partiallyFilled
  filledQuantity
  averagePrice

/-- An order that fills twenty, and its successor that fills the rest. -/
def twoOrders : List ExitStep :=
  [.poll (reported 10 90), .poll (reported 20 91), .replace, .poll (reported 45 89)]

theorem exit_progress_counts_once_two_orders :
    Run.Along step (fun ledger given => Accounted (ledger.step given) ∧ CountsOnce ledger given)
      ⟨openLot, [], (0, 0)⟩ twoOrders :=
  exit_progress_counts_once openLot twoOrders (by decide +kernel) (by decide +kernel)

/-- A revision of the average price by a trillionth is ignored. -/
theorem small_revision_is_ignored :
    ¬∀ (trade : ManagedTrade) (steps : List ExitStep), Fresh trade →
      Run.Along step Admitted ⟨trade, [], (0, 0)⟩ steps →
      Run.Along step (fun ledger given =>
          (ledger.step given).trade.exitFilledQuantity =
            (ledger.step given).current.1 + (ledger.step given).endedQuantity ∧
          (ledger.step given).trade.exitProceeds =
            proceeds (ledger.step given).current + (ledger.step given).endedProceeds ∧
          CountsOnce ledger given)
        ⟨trade, [], (0, 0)⟩ steps := by
  intro counts
  have along := counts openLot
    [.poll (reported 1 100), .poll (reported 1 (100 + 1 / 1000000000000))] (by decide +kernel)
    (by decide +kernel)
  exact absurd along.2.1.2.1 (by decide +kernel)

end ExitLedger

end BreezeTrading.LiveExit
