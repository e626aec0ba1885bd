/-
This file compares the two ways a position is marked to the market. A booking takes the exact
averages of the fills; the handler of quotes takes the stored values, rounded to two decimals.
Both store the same at every price exactly when the position is flat, or nothing was lost in its
rounding.
-/

import BreezeTrading.Portfolio.Isolation
import BreezeTrading.Strategy.Rounding
import Mathlib.Algebra.Order.Archimedean.Basic

namespace BreezeTrading

open Stored

/-! ### The handler of market quotes -/

namespace PortfolioTables

/-- `INSERT OR REPLACE INTO positions`. -/
def savePosition (tables : PortfolioTables) (position : Position) : PortfolioTables where
  executions := tables.executions
  positions := (tables.positions.filter fun row =>
    decide (row.instrumentId ≠ position.instrumentId)) ++ [position]
  byExecutionId := tables.byExecutionId
  byInstrumentId := Stored.nodup_map_replaced tables.byInstrumentId position

theorem getPosition_savePosition (tables : PortfolioTables) (position : Position)
    (instrumentId : String) :
    (tables.savePosition position).getPosition instrumentId =
      if position.instrumentId = instrumentId then some position
      else tables.getPosition instrumentId := by
  unfold getPosition savePosition
  rw [List.find?_append]
  by_cases same : position.instrumentId = instrumentId
  · subst same
    have others : ((tables.positions.filter fun row =>
        decide (row.instrumentId ≠ position.instrumentId)).find? fun row =>
          decide (row.instrumentId = position.instrumentId)) = none := by
      simp
    rw [others]
    simp
  · have kept : ((tables.positions.filter fun row =>
        decide (row.instrumentId ≠ position.instrumentId)).find? fun row =>
          decide (row.instrumentId = instrumentId)) =
        tables.positions.find? fun row => decide (row.instrumentId = instrumentId) := by
      rw [List.find?_filter]
      congr 1
      funext row
      by_cases other : row.instrumentId = instrumentId
      · simp [other, Ne.symm same]
      · simp [other]
    rw [kept]
    simp [same]

end PortfolioTables

namespace PortfolioService

/-- What a quote makes of a position. -/
def markedPosition (position : Position) (lastPrice : ℚ) : Position :=
  let unrealized := (lastPrice - position.averagePrice) * position.quantity
  { position with
    currentPrice := lastPrice
    unrealizedPnl := round2 unrealized
    totalPnl := round2 (position.realizedPnl + unrealized) }

/-- Update the unrealized profit and loss when a market tick arrives for a held position. -/
def handleMarketQuote (tables : PortfolioTables) (instrumentId : String) (lastPrice : ℚ) :
    PortfolioTables :=
  match tables.getPosition instrumentId with
  | none => tables
  | some position =>
    if position.quantity = 0 then tables
    else tables.savePosition (markedPosition position lastPrice)

end PortfolioService

namespace PortfolioTables

open PortfolioService

/-! ### Runs of trades and quotes -/

/-- What the portfolio is told. -/
inductive Event where
  | trade (delivery : Delivery)
  | quote (instrumentId : String) (lastPrice : ℚ)

def Event.apply (tables : PortfolioTables) : Event → PortfolioTables
  | .trade delivery => (tables.applyExecutionAtomic delivery.execution delivery.tradingMode
      delivery.currentPrice).2
  | .quote instrumentId lastPrice => handleMarketQuote tables instrumentId lastPrice

/-- The portfolio after the events, one after another. -/
def run (events : List Event) : PortfolioTables := events.foldl Event.apply empty

/-- The trade among the events. -/
def Event.delivery : Event → Option Delivery
  | .trade delivery => some delivery
  | .quote _ _ => none

/-- The trades among the events. -/
def trades (events : List Event) : List Delivery := events.filterMap Event.delivery

/-- The same trades, all of them at one price of the market. -/
def atMark (mark : ℚ) (deliveries : List Delivery) : List Delivery :=
  deliveries.map fun delivery => { delivery with currentPrice := mark }

/-- What is stored of an instrument: the unrealized and the total profit and loss. -/
def marks (tables : PortfolioTables) (instrumentId : String) : Option (ℚ × ℚ) :=
  (tables.getPosition instrumentId).map fun position =>
    (position.unrealizedPnl, position.totalPnl)

/-- A quote leads to what the trades would have led to at its price. -/
def Agrees (events : List Event) (instrumentId : String) (mark : ℚ) : Prop :=
  marks (handleMarketQuote (run events) instrumentId mark) instrumentId =
    marks (empty.applyAll (atMark mark (trades events))) instrumentId

/-- A whole number of hundredths. -/
def InPaise (number : ℚ) : Prop := ∃ paise : Int, number = paise / 100

/-- Nothing is lost in rounding: the position is flat, or its average price and its realized
profit and loss have two decimals. -/
def Exact (traded : Traded) : Prop :=
  traded.netQuantity = 0 ∨ InPaise traded.averagePrice ∧ InPaise traded.realizedPnl

/-! ### What quotes leave alone -/

/-- A position is derived from the executions of its instrument, but for its mark. -/
structure Priced (position : Position) (executions : List Execution) : Prop where
  traded : position.traded = Traded.of executions
  quantity : position.quantity = (Traded.of executions).netQuantity
  averagePrice : position.averagePrice = round2 (Traded.of executions).averagePrice
  realizedPnl : position.realizedPnl = round2 (Traded.of executions).realizedPnl
  flat : (Traded.of executions).netQuantity = 0 →
    position.unrealizedPnl = 0 ∧ position.totalPnl = round2 (Traded.of executions).realizedPnl

/-- An instrument has a position exactly when it has an execution, and it is priced by those. -/
def Marked (tables : PortfolioTables) (instrumentId : String) : Prop :=
  match tables.getPosition instrumentId with
  | none => executionsOn instrumentId tables.executions = []
  | some position =>
      executionsOn instrumentId tables.executions ≠ [] ∧
        Priced position (executionsOn instrumentId tables.executions)

theorem round2_zero : round2 0 = 0 := by decide +kernel

theorem Derived.priced {position : Position} {executions : List Execution}
    (derived : Derived position executions) : Priced position executions where
  traded := derived.traded
  quantity := derived.quantity
  averagePrice := derived.averagePrice
  realizedPnl := derived.realizedPnl
  flat flat := by
    obtain ⟨mark, unrealized, total⟩ := derived.unrealizedPnl
    have none : (Traded.of executions).unrealizedPnl mark = 0 := if_neg (not_not.mpr flat)
    rw [none, round2_zero] at unrealized
    rw [none, add_zero] at total
    exact ⟨unrealized, total⟩

theorem Priced.markedPosition {position : Position} {executions : List Execution}
    (priced : Priced position executions) (held : position.quantity ≠ 0) (lastPrice : ℚ) :
    Priced (markedPosition position lastPrice) executions where
  traded := priced.traded
  quantity := priced.quantity
  averagePrice := priced.averagePrice
  realizedPnl := priced.realizedPnl
  flat flat := absurd (priced.quantity.trans flat) held

theorem getPosition_handleMarketQuote (tables : PortfolioTables) (quoted : String)
    (lastPrice : ℚ) (instrumentId : String) :
    (handleMarketQuote tables quoted lastPrice).getPosition instrumentId =
      if quoted = instrumentId then (tables.getPosition instrumentId).map fun position =>
        if position.quantity = 0 then position else PortfolioService.markedPosition position lastPrice
      else tables.getPosition instrumentId := by
  unfold handleMarketQuote
  cases found : tables.getPosition quoted with
  | none =>
    simp only
    split
    · rename_i same
      subst same
      simp [found]
    · rfl
  | some position =>
    have named : position.instrumentId = quoted := (mem_of_find? found).2
    have kept : (PortfolioService.markedPosition position lastPrice).instrumentId = quoted := named
    by_cases same : quoted = instrumentId
    · subst same
      by_cases flat : position.quantity = 0
      · simp [flat, found]
      · simp [flat, found, getPosition_savePosition, kept]
    · by_cases flat : position.quantity = 0
      · simp [flat, same]
      · simp [flat, same, getPosition_savePosition, kept]

theorem executions_handleMarketQuote (tables : PortfolioTables) (quoted : String) (lastPrice : ℚ) :
    (handleMarketQuote tables quoted lastPrice).executions = tables.executions := by
  unfold handleMarketQuote
  split
  · rfl
  · split <;> rfl

theorem marked_quote {tables : PortfolioTables} (quoted : String) (lastPrice : ℚ)
    (before : ∀ instrumentId, Marked tables instrumentId) (instrumentId : String) :
    Marked (handleMarketQuote tables quoted lastPrice) instrumentId := by
  have known := before instrumentId
  unfold Marked at known ⊢
  rw [getPosition_handleMarketQuote, executions_handleMarketQuote]
  cases found : tables.getPosition instrumentId with
  | none =>
    rw [found] at known
    simpa using known
  | some position =>
    rw [found] at known
    obtain ⟨filled, priced⟩ := known
    by_cases same : quoted = instrumentId
    · by_cases flat : position.quantity = 0
      · simpa [same, flat] using ⟨filled, priced⟩
      · simpa [same, flat] using ⟨filled, priced.markedPosition flat lastPrice⟩
    · simpa [same] using ⟨filled, priced⟩

/-- In every run of trades and quotes, all positions are priced, and the executions on record are
the distinct ones traded. -/
theorem marked_run (events : List Event) :
    (∀ instrumentId, Marked (run events) instrumentId) ∧
      (run events).executions = (empty.applyAll (trades events)).executions := by
  induction events using List.reverseRecOn with
  | nil => exact ⟨fun _ => rfl, rfl⟩
  | append_singleton events last inductionHypothesis =>
    obtain ⟨marked, recorded⟩ := inductionHypothesis
    have ran : run (events ++ [last]) = last.apply (run events) := by
      simp [run, List.foldl_append]
    rw [ran]
    cases last with
    | trade delivery =>
      have traded : trades (events ++ [.trade delivery]) = trades events ++ [delivery] := by
        simp [trades, Event.delivery]
      refine ⟨kept_apply (fun _ _ priced => priced.traded) (fun _ _ derived => derived.priced) delivery
        marked, ?_⟩
      rw [traded, applyAll, List.foldl_append]
      simp only [Event.apply, List.foldl_cons, List.foldl_nil]
      rw [executions_applyExecutionAtomic, executions_applyExecutionAtomic, recorded]
      rfl
    | quote instrumentId lastPrice =>
      have traded : trades (events ++ [.quote instrumentId lastPrice]) = trades events := by
        simp [trades, Event.delivery]
      refine ⟨marked_quote instrumentId lastPrice marked, ?_⟩
      rw [traded, ← recorded]
      exact executions_handleMarketQuote _ _ _

/-! ### What either way stores -/

/-- What a booking at a price stores. -/
def bookedMarks (traded : Traded) (mark : ℚ) : ℚ × ℚ :=
  (round2 (traded.unrealizedPnl mark), round2 (traded.realizedPnl + traded.unrealizedPnl mark))

/-- What a quote stores of a position that is not flat. -/
def quotedMarks (traded : Traded) (mark : ℚ) : ℚ × ℚ :=
  let unrealized := (mark - round2 traded.averagePrice) * traded.netQuantity
  (round2 unrealized, round2 (round2 traded.realizedPnl + unrealized))

theorem marks_bookedPosition {deliveries : List Delivery} {position : Position} {mark : ℚ}
    (found : positionOf (atMark mark deliveries) = some position) :
    (position.unrealizedPnl, position.totalPnl) = bookedMarks position.traded mark := by
  rcases deliveries.eq_nil_or_concat with rfl | ⟨earlier, last, rfl⟩
  · cases found
  · rw [atMark, List.concat_eq_append, List.map_append, List.map_singleton,
      positionOf_append] at found
    cases found
    rfl

theorem execution_atMark (mark : ℚ) (deliveries : List Delivery) :
    (atMark mark deliveries).map Delivery.execution = deliveries.map Delivery.execution := by
  rw [atMark, List.map_map]
  rfl

theorem booked_append (deliveries : List Delivery) (last : Delivery) :
    booked (deliveries ++ [last]) =
      accept (fun delivery => delivery.execution.executionId) (booked deliveries) last := by
  rw [booked, acceptAll_append]
  rfl

theorem booked_atMark (mark : ℚ) (instrumentId : String) (deliveries : List Delivery) :
    deliveriesOn instrumentId (booked (atMark mark deliveries)) =
      atMark mark (deliveriesOn instrumentId (booked deliveries)) := by
  have books : booked (atMark mark deliveries) = atMark mark (booked deliveries) := by
    induction deliveries using List.reverseRecOn with
    | nil => rfl
    | append_singleton deliveries last inductionHypothesis =>
      have split : atMark mark (deliveries ++ [last]) =
          atMark mark deliveries ++ [{ last with currentPrice := mark }] := by
        rw [atMark, List.map_append]
        rfl
      rw [split, booked_append, booked_append, inductionHypothesis]
      unfold accept
      have keys : (atMark mark (booked deliveries)).map (fun delivery =>
          delivery.execution.executionId) =
            (booked deliveries).map fun delivery => delivery.execution.executionId := by
        rw [atMark, List.map_map]
        rfl
      rw [keys]
      split
      · rfl
      · rw [atMark, atMark, List.map_append]
        rfl
  rw [books, deliveriesOn, atMark, List.filter_map]
  rfl

theorem marks_atMark (deliveries : List Delivery) (instrumentId : String) (mark : ℚ) :
    marks (empty.applyAll (atMark mark deliveries)) instrumentId =
      if fillsOf deliveries instrumentId = [] then none
      else some (bookedMarks (Traded.of (fillsOf deliveries instrumentId)) mark) := by
  have same : fillsOf (atMark mark deliveries) instrumentId = fillsOf deliveries instrumentId := by
    rw [fillsOf, execution_atMark, fillsOf]
  unfold marks
  cases found : (empty.applyAll (atMark mark deliveries)).getPosition instrumentId with
  | none =>
    have unfilled := fillsOf_eq_nil found
    rw [same] at unfilled
    rw [if_pos unfilled]
    rfl
  | some position =>
    obtain ⟨filled, derived⟩ := derived_applyAll found
    rw [same] at filled derived
    rw [getPosition_applyAll, booked_atMark] at found
    rw [if_neg filled, Option.map_some, marks_bookedPosition found, derived.traded]

theorem marks_quote (events : List Event) (instrumentId : String) (mark : ℚ) :
    marks (handleMarketQuote (run events) instrumentId mark) instrumentId =
      if fillsOf (trades events) instrumentId = [] then none
      else if (Traded.of (fillsOf (trades events) instrumentId)).netQuantity = 0 then
        some (bookedMarks (Traded.of (fillsOf (trades events) instrumentId)) mark)
      else some (quotedMarks (Traded.of (fillsOf (trades events) instrumentId)) mark) := by
  obtain ⟨marked, recorded⟩ := marked_run events
  have known := marked instrumentId
  unfold Marked at known
  rw [recorded, executionsOn_applyAll] at known
  unfold marks
  rw [getPosition_handleMarketQuote, if_pos rfl]
  cases found : (run events).getPosition instrumentId with
  | none =>
    rw [found] at known
    rw [if_pos known]
    rfl
  | some position =>
    rw [found] at known
    obtain ⟨filled, priced⟩ := known
    rw [if_neg filled, Option.map_some, Option.map_some]
    by_cases flat : (Traded.of (fillsOf (trades events) instrumentId)).netQuantity = 0
    · obtain ⟨unrealized, total⟩ := priced.flat flat
      have none : (Traded.of (fillsOf (trades events) instrumentId)).unrealizedPnl mark = 0 :=
        if_neg (not_not.mpr flat)
      rw [if_pos flat, if_pos (priced.quantity.trans flat), unrealized, total, bookedMarks, none,
        round2_zero, add_zero]
    · rw [if_neg flat, if_neg fun zero => flat (priced.quantity.symm.trans zero)]
      simp only [PortfolioService.markedPosition, quotedMarks, priced.averagePrice,
        priced.quantity, priced.realizedPnl]

/-! ### What rounding loses -/

theorem abs_sub_round2_le (number : ℚ) : |number - round2 number| ≤ 1 / 200 := by
  have near : |number * 100 - roundHalfEven (number * 100)| ≤ 1 / 2 :=
    (nearest_roundHalfEven (number * 100)).elim le_of_lt fun tie => tie.1.le
  unfold round2
  rw [abs_le] at near ⊢
  constructor <;> linarith only [near.1, near.2]

theorem round2_eq_self_iff (number : ℚ) : round2 number = number ↔ InPaise number := by
  constructor
  · intro same
    exact ⟨_, same.symm⟩
  · rintro ⟨paise, rfl⟩
    unfold round2
    rw [div_mul_cancel₀ _ (by norm_num), roundHalfEven_intCast]

theorem eq_zero_of_round2_shift (offset : ℚ) {scale shift : ℚ} (scaled : scale ≠ 0)
    (hidden : ∀ mark, 0 < mark →
      round2 (offset + (mark + shift) * scale) = round2 (offset + mark * scale)) :
    shift = 0 := by
  -- the shift can be repeated in the direction in which the price grows
  have repeated (times : Nat) : round2 (offset + (1 + times * |shift|) * scale) =
      round2 (offset + 1 * scale) := by
    induction times with
    | zero => simp
    | succ times inductionHypothesis =>
      rw [← inductionHypothesis]
      rcases le_or_gt 0 shift with up | down
      · rw [abs_of_nonneg up]
        have next := hidden (1 + times * shift) (by positivity)
        rw [← next]
        push_cast
        ring_nf
      · have size : 0 < |shift| := abs_pos.mpr down.ne
        have next := hidden (1 + (times + 1 : Nat) * |shift|) (by positivity)
        rw [← next, abs_of_neg down]
        push_cast
        ring_nf
  by_contra nonzero
  have size : 0 < |shift * scale| := abs_pos.mpr (mul_ne_zero nonzero scaled)
  obtain ⟨times, many⟩ := exists_nat_gt (1 / 100 / |shift * scale|)
  rw [div_lt_iff₀ size] at many
  have start := abs_sub_round2_le (offset + 1 * scale)
  have far := abs_sub_round2_le (offset + (1 + times * |shift|) * scale)
  rw [repeated times] at far
  have apart : |times * |shift| * scale| ≤ 1 / 100 := by
    have difference : times * |shift| * scale =
        (offset + (1 + times * |shift|) * scale - round2 (offset + 1 * scale)) -
          (offset + 1 * scale - round2 (offset + 1 * scale)) := by ring
    rw [difference]
    linarith only [abs_sub (offset + (1 + times * |shift|) * scale - round2 (offset + 1 * scale))
      (offset + 1 * scale - round2 (offset + 1 * scale)), start, far]
  have product : |times * |shift| * scale| = times * |shift * scale| := by
    rw [abs_mul, abs_mul, abs_abs, Nat.abs_cast, abs_mul, mul_assoc]
  linarith only [apart, product, many]

theorem inPaise_of_agrees {traded : Traded} (held : traded.netQuantity ≠ 0)
    (agrees : ∀ mark, 0 < mark → quotedMarks traded mark = bookedMarks traded mark) :
    InPaise traded.averagePrice ∧ InPaise traded.realizedPnl := by
  have scaled : (traded.netQuantity : ℚ) ≠ 0 := Int.cast_ne_zero.mpr held
  have unrealized (mark : ℚ) : traded.unrealizedPnl mark =
      (mark - traded.averagePrice) * traded.netQuantity := if_pos held
  have average : round2 traded.averagePrice = traded.averagePrice := by
    have none : traded.averagePrice - round2 traded.averagePrice = 0 := by
      refine eq_zero_of_round2_shift (-traded.averagePrice * traded.netQuantity) scaled
        fun mark positive => ?_
      have same := congrArg Prod.fst (agrees mark positive)
      simp only [quotedMarks, bookedMarks, unrealized] at same
      convert same using 2 <;> ring
    linarith only [none]
  refine ⟨(round2_eq_self_iff _).mp average, (round2_eq_self_iff _).mp ?_⟩
  have none : (round2 traded.realizedPnl - traded.realizedPnl) / traded.netQuantity = 0 := by
    refine eq_zero_of_round2_shift
      (traded.realizedPnl - traded.averagePrice * traded.netQuantity) scaled
      fun mark positive => ?_
    have same := congrArg Prod.snd (agrees mark positive)
    simp only [quotedMarks, bookedMarks, unrealized, average] at same
    convert same using 2
    · field_simp
      ring
    · ring
  rcases div_eq_zero_iff.mp none with zero | zero
  · linarith only [zero]
  · exact absurd zero scaled

theorem quotedMarks_eq {traded : Traded} (held : traded.netQuantity ≠ 0)
    (average : InPaise traded.averagePrice) (realized : InPaise traded.realizedPnl) (mark : ℚ) :
    quotedMarks traded mark = bookedMarks traded mark := by
  have unrealized : traded.unrealizedPnl mark =
      (mark - traded.averagePrice) * traded.netQuantity := if_pos held
  simp only [quotedMarks, bookedMarks, unrealized, (round2_eq_self_iff _).mpr average,
    (round2_eq_self_iff _).mpr realized]

end PortfolioTables

open PortfolioTables

/-- After any run of trades and quotes, a quote stores at every price what the trades would have
stored at it exactly when the position is flat, or its average price and its realized profit and
loss have two decimals. -/
theorem handleMarketQuote_agrees_iff (events : List Event) (instrumentId : String) :
    (∀ mark, Agrees events instrumentId mark) ↔
      Exact (Traded.of (fillsOf (trades events) instrumentId)) := by
  unfold Agrees Exact
  simp only [marks_quote, marks_atMark]
  by_cases unfilled : fillsOf (trades events) instrumentId = []
  · rw [unfilled]
    exact iff_of_true (fun _ => rfl) (.inl rfl)
  · by_cases flat : (Traded.of (fillsOf (trades events) instrumentId)).netQuantity = 0
    · simp [unfilled, flat]
    · simp only [if_neg unfilled, flat, if_false, Option.some.injEq, false_or]
      constructor
      · exact fun agrees => inPaise_of_agrees flat fun mark _ => agrees mark
      · rintro ⟨average, realized⟩ mark
        exact quotedMarks_eq flat average realized mark

namespace PortfolioTables

/-- Three lots of one unit bought at two prices. -/
def thirds : List Event :=
  [.trade (delivered "first" .buy 1 100 100), .trade (delivered "second" .buy 2 101 101)]

end PortfolioTables

/-- The average of three units is stored with two decimals, and a quote loses one hundredth. -/
theorem handleMarketQuote_disagrees :
    ¬ ∀ (events : List Event) (instrumentId : String) (mark : ℚ),
      Agrees events instrumentId mark := by
  intro agrees
  have stored := agrees thirds "INST-NIFTY-2026-01-29-25000-CE" 110
  rw [Agrees, marks_quote, marks_atMark] at stored
  revert stored
  decide +kernel

end BreezeTrading
