/-
This file says when the books of the paper broker are right. Positions are always the net of the
trades. The margin left follows the trades as long as no sell brings more than the margin in use.
A filled order stays filled unless it is cancelled, or a resting order gets its id.
-/

import BreezeTrading.BrokerGateway.PaperAdapter
import BreezeTrading.Lib.Netting
import BreezeTrading.Lib.Run
import Mathlib.Tactic.Linarith
import Mathlib.Tactic.Ring

namespace BreezeTrading.BrokerGateway

open Stored

/-! ### Sides -/

section Sides

/-- The letters of the side of a buy. -/
def IsSideLetter (letter : Char) : Prop := letter = 'B' ∨ letter = 'U' ∨ letter = 'Y'

theorem toNat_toUpper (character : Char) : character.toUpper.toNat =
    if 97 ≤ character.toNat ∧ character.toNat ≤ 122 then character.toNat - 32
    else character.toNat := by
  unfold Char.toUpper
  by_cases isLower : 'a'.val ≤ character.val ∧ character.val ≤ 'z'.val
  · have bounds : 97 ≤ character.toNat ∧ character.toNat ≤ 122 := isLower
    rw [dif_pos isLower, if_pos bounds]
    show (character.val + ('A'.val - 'a'.val)).toNat = _
    rw [UInt32.toNat_add]
    show (character.toNat + 4294967264) % 4294967296 = _
    omega
  · have bounds : ¬(97 ≤ character.toNat ∧ character.toNat ≤ 122) := isLower
    rw [dif_neg isLower, if_neg bounds]

theorem toNat_toLower (character : Char) : character.toLower.toNat =
    if 65 ≤ character.toNat ∧ character.toNat ≤ 90 then character.toNat + 32
    else character.toNat := by
  unfold Char.toLower
  by_cases isUpper : character.val ≥ 'A'.val ∧ character.val ≤ 'Z'.val
  · have bounds : 65 ≤ character.toNat ∧ character.toNat ≤ 90 := isUpper
    rw [dif_pos isUpper, if_pos bounds]
    show (character.val + ('a'.val - 'A'.val)).toNat = _
    show (character.toNat + 32) % 4294967296 = _
    omega
  · have bounds : ¬(65 ≤ character.toNat ∧ character.toNat ≤ 90) := isUpper
    rw [dif_neg isUpper, if_neg bounds]

theorem toUpper_eq_iff {letter : Char} (isLetter : IsSideLetter letter) (character : Char) :
    character.toUpper = letter ↔ character.toLower = letter.toLower := by
  rw [← Char.toNat_inj, ← Char.toNat_inj, toNat_toUpper, toNat_toLower, toNat_toLower]
  have range : 65 ≤ letter.toNat ∧ letter.toNat ≤ 90 := by
    rcases isLetter with rfl | rfl | rfl <;> decide
  split_ifs <;> omega
/-- The characters with an uppercase of their own. -/
def specialCharacters : List Char := ['ı', 'ſ', 'ß', 'ﬀ', 'ﬁ', 'ﬂ', 'ﬃ', 'ﬄ', 'ﬅ', 'ﬆ']

theorem upperChar_eq {character : Char} (plain : character ∉ specialCharacters) :
    upperChar character = [character.toUpper] := by
  simp only [specialCharacters, List.mem_cons, List.not_mem_nil, or_false, not_or] at plain
  simp [upperChar, plain]

theorem upperChar_append_eq {letter : Char} (isLetter : IsSideLetter letter) (character : Char)
    (rest others : List Char) : upperChar character ++ rest = letter :: others ↔
      character.toLower = letter.toLower ∧ rest = others := by
  by_cases special : character ∈ specialCharacters
  · simp only [specialCharacters, List.mem_cons, List.not_mem_nil, or_false] at special
    rcases special with rfl | rfl | rfl | rfl | rfl | rfl | rfl | rfl | rfl | rfl <;>
      rcases isLetter with rfl | rfl | rfl <;> simp [upperChar]
  · rw [upperChar_eq special, List.singleton_append, List.cons.injEq, toUpper_eq_iff isLetter]

theorem upperChar_ne_nil (character : Char) : upperChar character ≠ [] := by
  unfold upperChar
  split_ifs <;> simp

theorem flatMap_upperChar_eq {letters : List Char}
    (areLetters : ∀ letter ∈ letters, IsSideLetter letter) (text : List Char) :
    text.flatMap upperChar = letters ↔ text.map Char.toLower = letters.map Char.toLower := by
  induction text generalizing letters with
  | nil => cases letters <;> simp
  | cons character rest inductionHypothesis =>
    cases letters with
    | nil => simp [upperChar_ne_nil]
    | cons letter others =>
      rw [List.flatMap_cons, upperChar_append_eq (areLetters letter List.mem_cons_self),
        inductionHypothesis fun other member => areLetters other (List.mem_cons_of_mem _ member),
        List.map_cons, List.map_cons, List.cons.injEq]

theorem upper_eq_buy_iff (action : String) : upper action = "BUY" ↔ lower action = "buy" := by
  have areLetters : ∀ letter ∈ ['B', 'U', 'Y'], IsSideLetter letter := by
    simp [IsSideLetter]
  have sameLetters := flatMap_upperChar_eq areLetters action.toList
  rw [upper, lower, ← String.toList_inj, ← String.toList_inj]
  simp only [String.toList_ofList]
  exact sameLetters

end Sides

/-! ### What the books say -/

/-- An order that is known to be filled. -/
def IsFilled (broker : PaperBrokerAdapter) (brokerOrderId : String) : Prop :=
  (broker.orders.get brokerOrderId).map PaperOrder.status = some .filled

instance (broker : PaperBrokerAdapter) (brokerOrderId : String) :
    Decidable (IsFilled broker brokerOrderId) :=
  inferInstanceAs (Decidable (_ = _))

/-- The quantity held of a symbol. -/
def quantityOf (broker : PaperBrokerAdapter) (symbol : String) : Int :=
  ((broker.positions.get symbol).map PaperPosition.quantity).getD 0

namespace PaperTrade

def isBuy (trade : PaperTrade) : Bool := decide (trade.action = "BUY")

def value (trade : PaperTrade) : ℚ := trade.price * trade.quantity

def signedQuantity (trade : PaperTrade) : Int :=
  if trade.isBuy then trade.quantity else -trade.quantity

/-- What all filled buys cost. -/
def boughtValue (trades : List PaperTrade) : ℚ :=
  ((trades.filter isBuy).map value).sum

/-- What all filled sells brought. -/
def soldValue (trades : List PaperTrade) : ℚ :=
  ((trades.filter fun trade => !trade.isBuy).map value).sum

/-- What was bought of a symbol less what was sold. -/
def netQuantity (trades : List PaperTrade) (symbol : String) : Int :=
  Netting.net stockCode signedQuantity trades symbol

end PaperTrade

/-- The margin left, the positions, and the margin that a flat book restores. -/
structure BooksBalance (broker : PaperBrokerAdapter) : Prop where
  margin : broker.getFunds.availableMargin = broker.initialCash -
    PaperTrade.boughtValue broker.trades + PaperTrade.soldValue broker.trades
  positions : ∀ symbol, quantityOf broker symbol = PaperTrade.netQuantity broker.trades symbol
  restored : ∀ priceOf : String → ℚ,
    (∀ trade ∈ broker.trades, trade.price = priceOf trade.stockCode) →
      (∀ symbol, quantityOf broker symbol = 0) →
        broker.getFunds.availableMargin = broker.initialCash

/-- No order leaves its fill. -/
def KeepsFills (broker after : PaperBrokerAdapter) : Prop :=
  ∀ brokerOrderId, IsFilled broker brokerOrderId → IsFilled after brokerOrderId

theorem keepsFills_self (broker : PaperBrokerAdapter) : KeepsFills broker broker :=
  fun _ wasFilled => wasFilled

/-- The books balance in every state of a run, and no order leaves its fill. -/
structure Bookkeeping (initialCash : ℚ) (operations : List PaperOperation) : Prop where
  start : BooksBalance (PaperBrokerAdapter.start initialCash)
  kept : Run.Along PaperBrokerAdapter.step (fun broker operation =>
    BooksBalance (broker.step operation)) (PaperBrokerAdapter.start initialCash) operations
  filledStays : Run.Along PaperBrokerAdapter.step (fun broker operation =>
    KeepsFills broker (broker.step operation)) (PaperBrokerAdapter.start initialCash) operations

/-- A placement that neither rests under the id of a filled order, nor sells for more than the
margin in use, nor, by a negative value, uses more margin than there is. -/
structure SoundPlacement (broker : PaperBrokerAdapter) (brokerOrderId : String)
    (request : BrokerOrderRequest) : Prop where
  rests : PaperBrokerAdapter.isStopOrder request = true → 0 < request.triggerPrice.getD 0 →
    ¬IsFilled broker brokerOrderId
  sells : PaperBrokerAdapter.isStopOrder request = false →
    PaperBrokerAdapter.isBuy request = false →
      broker.cost request ≤ broker.usedMargin ∧
        broker.usedMargin - broker.cost request ≤ broker.totalCash

/-- A step that does not cancel a filled order, or a sound placement. -/
def SoundStep (broker : PaperBrokerAdapter) : PaperOperation → Prop
  | .setMockMarketPrice _ _ => True
  | .placeOrder brokerOrderId request => SoundPlacement broker brokerOrderId request
  | .modifyOrder _ _ _ => True
  | .cancelOrder brokerOrderId => ¬IsFilled broker brokerOrderId

/-! ### Values -/

section Values

variable {broker : PaperBrokerAdapter} {request : BrokerOrderRequest}

theorem boughtValue_sub_soldValue (trades : List PaperTrade) :
    PaperTrade.boughtValue trades - PaperTrade.soldValue trades =
      (trades.map fun trade => trade.price * (trade.signedQuantity : ℚ)).sum := by
  unfold PaperTrade.boughtValue PaperTrade.soldValue
  induction trades with
  | nil => simp
  | cons trade rest inductionHypothesis =>
    rw [List.map_cons, List.sum_cons, ← inductionHypothesis]
    cases bought : trade.isBuy with
    | true =>
      have signed : trade.signedQuantity = trade.quantity := if_pos bought
      rw [List.filter_cons_of_pos bought, List.filter_cons_of_neg (by simpa using bought),
        List.map_cons, List.sum_cons, signed, PaperTrade.value]
      ring
    | false =>
      have signed : trade.signedQuantity = -trade.quantity := if_neg (by simpa using bought)
      rw [List.filter_cons_of_neg (by simpa using bought),
        List.filter_cons_of_pos (by simpa using bought), List.map_cons, List.sum_cons, signed,
        PaperTrade.value]
      push_cast
      ring

theorem tradeOf_isBuy (brokerOrderId : String) :
    (broker.tradeOf brokerOrderId request).isBuy = PaperBrokerAdapter.isBuy request :=
  decide_eq_decide.mpr (upper_eq_buy_iff request.action)

theorem tradeOf_signedQuantity (brokerOrderId : String) :
    (broker.tradeOf brokerOrderId request).signedQuantity =
      PaperBrokerAdapter.quantitySigned request := by
  unfold PaperTrade.signedQuantity PaperBrokerAdapter.quantitySigned
  rw [tradeOf_isBuy]
  rfl

theorem value_fill (brokerOrderId : String) :
    PaperTrade.boughtValue (broker.fill brokerOrderId request).1.trades -
        PaperTrade.soldValue (broker.fill brokerOrderId request).1.trades =
      PaperTrade.boughtValue broker.trades - PaperTrade.soldValue broker.trades +
        if PaperBrokerAdapter.isBuy request then broker.cost request else -broker.cost request := by
  have trades : (broker.fill brokerOrderId request).1.trades =
      broker.trades ++ [broker.tradeOf brokerOrderId request] := rfl
  rw [boughtValue_sub_soldValue, boughtValue_sub_soldValue, trades, List.map_append,
    List.sum_append, List.map_singleton, List.sum_singleton, tradeOf_signedQuantity]
  congr 1
  unfold PaperBrokerAdapter.quantitySigned PaperBrokerAdapter.cost
  split
  · rfl
  · push_cast
    exact mul_neg _ _

theorem cut_off_iff {total used : ℚ} (funds : 0 ≤ total) :
    max 0 (total - max 0 used) = total - used ↔ 0 ≤ used ∧ used ≤ total := by
  constructor
  · intro same
    have left : 0 ≤ total - used := same ▸ le_max_left 0 _
    refine ⟨?_, sub_nonneg.mp left⟩
    by_contra negative
    rw [max_eq_left (not_le.mp negative).le, sub_zero, max_eq_right funds] at same
    linarith
  · rintro ⟨nonneg, covered⟩
    rw [max_eq_right nonneg, max_eq_right (sub_nonneg.mpr covered)]

end Values

/-! ### The invariant -/

/-- What sound steps keep: the margin in use is what was bought less what was sold. -/
structure PaperBooks (broker : PaperBrokerAdapter) : Prop where
  funds : 0 ≤ broker.totalCash
  cash : broker.totalCash = broker.initialCash
  margin : broker.usedMargin =
    PaperTrade.boughtValue broker.trades - PaperTrade.soldValue broker.trades
  covered : broker.usedMargin ≤ broker.totalCash
  positions : ∀ symbol, quantityOf broker symbol = PaperTrade.netQuantity broker.trades symbol

section Steps

variable {broker : PaperBrokerAdapter} {request : BrokerOrderRequest} {brokerOrderId : String}

theorem PaperBooks.start {initialCash : ℚ} (funds : 0 ≤ initialCash) :
    PaperBooks (PaperBrokerAdapter.start initialCash) where
  funds := funds
  cash := rfl
  margin := (sub_self 0).symm
  covered := funds
  positions _ := rfl

theorem value_eq_zero_of_flat {trades : List PaperTrade} (priceOf : String → ℚ)
    (samePrices : ∀ trade ∈ trades, trade.price = priceOf trade.stockCode)
    (flat : ∀ symbol, PaperTrade.netQuantity trades symbol = 0) :
    PaperTrade.boughtValue trades - PaperTrade.soldValue trades = 0 := by
  have weighted : (trades.map fun trade => trade.price * (trade.signedQuantity : ℚ)) =
      trades.map fun trade => priceOf trade.stockCode * (trade.signedQuantity : ℚ) :=
    List.map_congr_left fun trade member => by rw [samePrices trade member]
  rw [boughtValue_sub_soldValue, weighted]
  exact Netting.sum_weighted_eq_zero priceOf flat

theorem PaperBooks.booksBalance (books : PaperBooks broker) : BooksBalance broker := by
  obtain ⟨-, cash, margin, covered, positions⟩ := books
  have left : broker.getFunds.availableMargin = broker.initialCash - broker.usedMargin := by
    rw [← cash]
    exact max_eq_right (sub_nonneg.mpr covered)
  refine ⟨?_, positions, fun priceOf samePrices flat => ?_⟩
  · rw [left, margin]
    ring
  · have nothing := value_eq_zero_of_flat priceOf samePrices fun symbol =>
      (positions symbol).symm.trans (flat symbol)
    rw [left, margin, nothing, sub_zero]

theorem booksBalance_start_iff {initialCash : ℚ} :
    BooksBalance (PaperBrokerAdapter.start initialCash) ↔ 0 ≤ initialCash := by
  refine ⟨fun balance => ?_, fun funds => (PaperBooks.start funds).booksBalance⟩
  have margin : max 0 (initialCash - 0) = initialCash - 0 + 0 := balance.margin
  rw [sub_zero, add_zero] at margin
  exact max_eq_right_iff.mp margin

/-! ### Fills -/

theorem quantityOf_fill (brokerOrderId : String) (symbol : String) :
    quantityOf (broker.fill brokerOrderId request).1 symbol = quantityOf broker symbol +
      if symbol = request.stockCode then PaperBrokerAdapter.quantitySigned request else 0 := by
  have found : (broker.fill brokerOrderId request).1.positions.get symbol =
      if request.stockCode = symbol then some (broker.positionAfter request)
      else broker.positions.get symbol := Dictionary.get_set _ _ _ _
  unfold quantityOf
  rw [found]
  by_cases own : symbol = request.stockCode
  · subst own
    cases held : broker.positions.get request.stockCode <;>
      simp [PaperBrokerAdapter.positionAfter, held, PaperPosition.empty]
  · rw [if_neg (Ne.symm own), if_neg own, add_zero]

theorem positions_fill (positions : ∀ symbol,
    quantityOf broker symbol = PaperTrade.netQuantity broker.trades symbol) (symbol : String) :
    quantityOf (broker.fill brokerOrderId request).1 symbol =
      PaperTrade.netQuantity (broker.fill brokerOrderId request).1.trades symbol := by
  rw [quantityOf_fill, positions symbol, ← tradeOf_signedQuantity brokerOrderId]
  exact (Netting.net_concat PaperTrade.stockCode PaperTrade.signedQuantity broker.trades
    (broker.tradeOf brokerOrderId request) symbol).symm

section

variable (books : PaperBooks broker)

include books

theorem PaperBooks.fill (moves : broker.marginAfter request = broker.usedMargin + if
      PaperBrokerAdapter.isBuy request then broker.cost request else -broker.cost request)
    (covered : broker.marginAfter request ≤ broker.totalCash) :
    PaperBooks (broker.fill brokerOrderId request).1 where
  funds := books.funds
  cash := books.cash
  margin := by
    rw [value_fill, ← books.margin]
    exact moves
  covered := covered
  positions := positions_fill books.positions

theorem PaperBooks.fill_buy (bought : PaperBrokerAdapter.isBuy request = true)
    (affordable : broker.cost request ≤ broker.totalCash - broker.usedMargin) :
    PaperBooks (broker.fill brokerOrderId request).1 := by
  have after : broker.marginAfter request = broker.usedMargin + broker.cost request :=
    if_pos bought
  refine books.fill ?_ ?_
  · rw [after, if_pos bought]
  · rw [after]
    linarith

theorem PaperBooks.fill_sell (notBought : ¬PaperBrokerAdapter.isBuy request = true)
    (inUse : broker.cost request ≤ broker.usedMargin)
    (covered : broker.usedMargin - broker.cost request ≤ broker.totalCash) :
    PaperBooks (broker.fill brokerOrderId request).1 := by
  have after : broker.marginAfter request = broker.usedMargin - broker.cost request :=
    (if_neg notBought).trans (max_eq_right (sub_nonneg.mpr inUse))
  refine books.fill ?_ ?_
  · rw [after, if_neg notBought]
    exact sub_eq_add_neg _ _
  · rw [after]
    exact covered

theorem PaperBooks.fill_sell_iff (notBought : ¬PaperBrokerAdapter.isBuy request = true) :
    BooksBalance (broker.fill brokerOrderId request).1 ↔
      broker.cost request ≤ broker.usedMargin ∧
        broker.usedMargin - broker.cost request ≤ broker.totalCash := by
  refine ⟨fun balance => ?_, fun both => (books.fill_sell notBought both.1 both.2).booksBalance⟩
  have after : broker.marginAfter request = max 0 (broker.usedMargin - broker.cost request) :=
    if_neg notBought
  have available : (broker.fill brokerOrderId request).1.getFunds.availableMargin =
      max 0 (broker.totalCash - broker.marginAfter request) := rfl
  have margin := balance.margin
  rw [available, after, sub_add, value_fill, ← books.margin, if_neg notBought,
    ← sub_eq_add_neg] at margin
  obtain ⟨nonneg, covered⟩ :=
    (cut_off_iff books.funds).mp (margin.trans (congrArg (· - _) books.cash.symm))
  exact ⟨sub_nonneg.mp nonneg, covered⟩

end

/-! ### Orders -/

theorem isFilled_set_iff {order : PaperOrder} (other : String) :
    IsFilled { broker with orders := broker.orders.set brokerOrderId order } other ↔
      if brokerOrderId = other then order.status = .filled else IsFilled broker other := by
  unfold IsFilled
  rw [Dictionary.get_set]
  split
  · exact Option.some_inj
  · exact Iff.rfl

theorem keepsFills_set_iff {order : PaperOrder} (unfilled : order.status ≠ .filled) :
    KeepsFills broker { broker with orders := broker.orders.set brokerOrderId order } ↔
      ¬IsFilled broker brokerOrderId := by
  constructor
  · intro keeps wasFilled
    have isFilled := (isFilled_set_iff brokerOrderId).mp (keeps brokerOrderId wasFilled)
    rw [if_pos rfl] at isFilled
    exact unfilled isFilled
  · intro notFilled other wasFilled
    refine (isFilled_set_iff other).mpr ?_
    rw [if_neg]
    · exact wasFilled
    · rintro rfl
      exact notFilled wasFilled

theorem keepsFills_fill : KeepsFills broker (broker.fill brokerOrderId request).1 := by
  intro other wasFilled
  refine (isFilled_set_iff other).mpr ?_
  split
  · rfl
  · exact wasFilled

theorem PaperBooks.with_orders (books : PaperBooks broker) (orders : Dictionary String PaperOrder) :
    PaperBooks { broker with orders } :=
  ⟨books.funds, books.cash, books.margin, books.covered, books.positions⟩

/-! ### Steps -/

theorem placeOrder_cases (broker : PaperBrokerAdapter) (brokerOrderId : String)
    (request : BrokerOrderRequest) :
    PaperBrokerAdapter.isStopOrder request = true ∧ 0 < request.triggerPrice.getD 0 ∧
        (broker.placeOrder brokerOrderId request).1 = (broker.rest brokerOrderId request).1 ∨
      (PaperBrokerAdapter.isStopOrder request = true ∧ ¬0 < request.triggerPrice.getD 0 ∨
          PaperBrokerAdapter.isStopOrder request = false ∧
            PaperBrokerAdapter.isBuy request = true) ∧
        (broker.placeOrder brokerOrderId request).1 = broker ∨
      PaperBrokerAdapter.isStopOrder request = false ∧
        (PaperBrokerAdapter.isBuy request = true →
          broker.cost request ≤ broker.totalCash - broker.usedMargin) ∧
        (broker.placeOrder brokerOrderId request).1 = (broker.fill brokerOrderId request).1 := by
  unfold PaperBrokerAdapter.placeOrder
  cases stop : PaperBrokerAdapter.isStopOrder request with
  | true =>
    by_cases positive : 0 < request.triggerPrice.getD 0
    · rw [if_pos positive]
      exact .inl ⟨rfl, positive, rfl⟩
    · rw [if_neg positive]
      exact .inr (.inl ⟨.inl ⟨rfl, positive⟩, rfl⟩)
  | false =>
    by_cases refused : PaperBrokerAdapter.isBuy request = true ∧
        broker.totalCash - broker.usedMargin < broker.cost request
    · rw [if_pos refused]
      exact .inr (.inl ⟨.inr ⟨rfl, refused.1⟩, rfl⟩)
    · rw [if_neg refused]
      exact .inr (.inr ⟨rfl, fun bought => not_lt.mp fun less => refused ⟨bought, less⟩, rfl⟩)

section

variable (books : PaperBooks broker)

include books

theorem PaperBooks.placeOrder (brokerOrderId : String) (request : BrokerOrderRequest) :
    (SoundPlacement broker brokerOrderId request ↔
      BooksBalance (broker.placeOrder brokerOrderId request).1 ∧
        KeepsFills broker (broker.placeOrder brokerOrderId request).1) ∧
    (SoundPlacement broker brokerOrderId request →
      PaperBooks (broker.placeOrder brokerOrderId request).1) := by
  rcases placeOrder_cases broker brokerOrderId request with
    ⟨stop, positive, after⟩ | ⟨harmless, after⟩ | ⟨noStop, affordable, after⟩
  · have rests : PaperBooks (broker.rest brokerOrderId request).1 := books.with_orders _
    have keeps : KeepsFills broker (broker.rest brokerOrderId request).1 ↔
        ¬IsFilled broker brokerOrderId := keepsFills_set_iff PaperOrderStatus.noConfusion
    have noSell : PaperBrokerAdapter.isStopOrder request ≠ false := by simp [stop]
    rw [after, keeps]
    exact ⟨⟨fun sound => ⟨rests.booksBalance, sound.rests stop positive⟩,
      fun both => ⟨fun _ _ => both.2, fun isFalse => absurd isFalse noSell⟩⟩, fun _ => rests⟩
  · have sound : SoundPlacement broker brokerOrderId request := by
      rcases harmless with ⟨stop, notPositive⟩ | ⟨noStop, bought⟩
      · exact ⟨fun _ positive => absurd positive notPositive,
          fun noStop => by simp [stop] at noStop⟩
      · exact ⟨fun stop => by simp [noStop] at stop, fun _ sold => by simp [bought] at sold⟩
    rw [after]
    exact ⟨iff_of_true sound ⟨books.booksBalance, keepsFills_self _⟩, fun _ => books⟩
  · have noRest : PaperBrokerAdapter.isStopOrder request ≠ true := by simp [noStop]
    rw [after]
    cases bought : PaperBrokerAdapter.isBuy request with
    | true =>
      have filled : PaperBooks (broker.fill brokerOrderId request).1 :=
        books.fill_buy bought (affordable bought)
      refine ⟨iff_of_true ⟨fun isTrue => absurd isTrue noRest, fun _ sold => ?_⟩
        ⟨filled.booksBalance, keepsFills_fill⟩, fun _ => filled⟩
      simp [bought] at sold
    | false =>
      have notBought : PaperBrokerAdapter.isBuy request ≠ true := by simp [bought]
      rw [books.fill_sell_iff notBought]
      exact ⟨⟨fun sound => ⟨sound.sells noStop bought, keepsFills_fill⟩,
          fun both => ⟨fun isTrue => absurd isTrue noRest, fun _ _ => both.1⟩⟩,
        fun sound => books.fill_sell notBought (sound.sells noStop bought).1
          (sound.sells noStop bought).2⟩

theorem PaperBooks.cancelOrder (brokerOrderId : String) :
    PaperBooks (broker.cancelOrder brokerOrderId).1 ∧
      (KeepsFills broker (broker.cancelOrder brokerOrderId).1 ↔
        ¬IsFilled broker brokerOrderId) := by
  unfold PaperBrokerAdapter.cancelOrder
  cases held : broker.orders.get brokerOrderId with
  | none =>
    have notFilled : ¬IsFilled broker brokerOrderId := by simp [IsFilled, held]
    exact ⟨books, iff_of_true (keepsFills_self _) notFilled⟩
  | some order =>
    exact ⟨books.with_orders _, keepsFills_set_iff PaperOrderStatus.noConfusion⟩

theorem PaperBooks.modifyOrder (brokerOrderId : String) (quantity : Option Int) (price : Option ℚ) :
    PaperBooks (broker.modifyOrder brokerOrderId quantity price).1 ∧
      KeepsFills broker (broker.modifyOrder brokerOrderId quantity price).1 := by
  unfold PaperBrokerAdapter.modifyOrder
  cases held : broker.orders.get brokerOrderId with
  | none => exact ⟨books, keepsFills_self _⟩
  | some order =>
    by_cases filled : order.status = .filled
    · simp only [if_pos filled]
      exact ⟨books, keepsFills_self _⟩
    · have notFilled : ¬IsFilled broker brokerOrderId := by simp [IsFilled, held, filled]
      simp only [if_neg filled]
      refine ⟨books.with_orders _, (keepsFills_set_iff ?_).mpr notFilled⟩
      exact filled

theorem PaperBooks.step {operation : PaperOperation} (sound : SoundStep broker operation) :
    PaperBooks (broker.step operation) := by
  cases operation with
  | setMockMarketPrice symbol price =>
    exact ⟨books.funds, books.cash, books.margin, books.covered, books.positions⟩
  | placeOrder brokerOrderId request =>
    exact (books.placeOrder brokerOrderId request).2 sound
  | modifyOrder brokerOrderId quantity price =>
    exact (books.modifyOrder brokerOrderId quantity price).1
  | cancelOrder brokerOrderId => exact (books.cancelOrder brokerOrderId).1

theorem PaperBooks.sound_iff (operation : PaperOperation) : SoundStep broker operation ↔
      BooksBalance (broker.step operation) ∧ KeepsFills broker (broker.step operation) := by
  cases operation with
  | setMockMarketPrice symbol price =>
    have after : PaperBooks (broker.step (.setMockMarketPrice symbol price)) := books.step trivial
    exact iff_of_true trivial ⟨after.booksBalance, keepsFills_self _⟩
  | placeOrder brokerOrderId request =>
    exact (books.placeOrder brokerOrderId request).1
  | modifyOrder brokerOrderId quantity price =>
    obtain ⟨after, keeps⟩ := books.modifyOrder brokerOrderId quantity price
    exact iff_of_true trivial ⟨after.booksBalance, keeps⟩
  | cancelOrder brokerOrderId =>
    obtain ⟨after, keeps⟩ := books.cancelOrder brokerOrderId
    exact ⟨fun notFilled => ⟨after.booksBalance, keeps.mpr notFilled⟩,
      fun both => keeps.mp both.2⟩

end

end Steps

/-! ### Runs -/

/-- The books are right along a run exactly if the funds are not negative and all steps sound. -/
theorem bookkeeping_iff (initialCash : ℚ) (operations : List PaperOperation) :
    Bookkeeping initialCash operations ↔ 0 ≤ initialCash ∧
      Run.Along PaperBrokerAdapter.step SoundStep (PaperBrokerAdapter.start initialCash)
        operations := by
  constructor
  · rintro ⟨start, kept, filledStays⟩
    have funds := booksBalance_start_iff.mp start
    refine ⟨funds, (kept.and filledStays).of_invariant
      (fun broker operation books both => books.step ((books.sound_iff operation).mpr both))
      (fun broker operation books both => (books.sound_iff operation).mpr both)
      (PaperBooks.start funds)⟩
  · rintro ⟨funds, sound⟩
    have right : ∀ broker operation, PaperBooks broker → SoundStep broker operation →
        BooksBalance (broker.step operation) ∧ KeepsFills broker (broker.step operation) :=
      fun broker operation books isSound => (books.sound_iff operation).mp isSound
    refine ⟨booksBalance_start_iff.mpr funds, ?_, ?_⟩
    · exact sound.of_invariant (fun _ _ books isSound => books.step isSound)
        (fun broker operation books isSound => (right broker operation books isSound).1)
        (PaperBooks.start funds)
    · exact sound.of_invariant (fun _ _ books isSound => books.step isSound)
        (fun broker operation books isSound => (right broker operation books isSound).2)
        (PaperBooks.start funds)

/-- An order for ten at a limit of a hundred. -/
def limitOrder (action : String) : BrokerOrderRequest where
  clientOrderId := "C1"
  stockCode := "NIFTY24800CE"
  exchangeCode := "NFO"
  action
  orderType := "limit"
  quantity := 10
  price := 100
  triggerPrice := none
  strikePrice := none
  right := none
  expiryDate := none
  userRemark := none

/-- A filled order that is cancelled, and a round trip that starts with the sell. -/
theorem cancelled_fill_and_short_round_trip :
    ¬Bookkeeping 500000 [.placeOrder "PAPER-1" (limitOrder "buy"), .cancelOrder "PAPER-1"] ∧
    ¬Bookkeeping 500000 [.placeOrder "PAPER-1" (limitOrder "sell"),
      .placeOrder "PAPER-2" (limitOrder "buy")] := by
  constructor
  · intro books
    have cancelled := books.filledStays.2.1 "PAPER-1"
    revert cancelled
    decide +kernel
  · intro books
    have margin := books.kept.2.1.margin
    revert margin
    decide +kernel

end BreezeTrading.BrokerGateway
