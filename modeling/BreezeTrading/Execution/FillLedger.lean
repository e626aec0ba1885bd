/-
This file reads the pipeline as ledgers of increments, one for each order: executions are what is
recorded, trade events on the bus what waits, and the execution id is the key. It says what each
change of the pipeline does to what an order will hold once the bus is drained.
-/

import BreezeTrading.Lib.Cumulative
import BreezeTrading.Pipeline.System

namespace BreezeTrading

open Cumulative

/-! ### Execution ids -/

theorem append_cons_inj {separator : Char} {first second tail rest : List Char}
    (tailFree : separator ∉ tail) (restFree : separator ∉ rest)
    (same : first ++ separator :: tail = second ++ separator :: rest) :
    first = second ∧ tail = rest := by
  rcases List.append_eq_append_iff.mp same with ⟨between, rfl, split⟩ | ⟨between, rfl, split⟩
  · cases between with
    | nil => simpa using split
    | cons head between =>
      obtain ⟨-, rfl⟩ := List.cons.inj split
      exact absurd (List.mem_append_right _ List.mem_cons_self) tailFree
  · cases between with
    | nil => simpa using split.symm
    | cons head between =>
      obtain ⟨-, rfl⟩ := List.cons.inj split
      exact absurd (List.mem_append_right _ List.mem_cons_self) restFree

theorem dash_not_mem_repr (number : Nat) : '-' ∉ (Nat.repr number).toList := by
  intro member
  rw [Nat.toList_repr] at member
  have digit := Nat.isDigit_of_mem_toDigits (by decide) (by decide) member
  revert digit
  decide

theorem fillExecutionId_inj {first second : String} {counter other : Int}
    (positive : 0 < counter) (otherPositive : 0 < other)
    (same : ExecutionService.fillExecutionId first counter =
      ExecutionService.fillExecutionId second other) : first = second ∧ counter = other := by
  obtain ⟨number, rfl⟩ := Int.eq_ofNat_of_zero_le positive.le
  obtain ⟨number', rfl⟩ := Int.eq_ofNat_of_zero_le otherPositive.le
  have lists := congrArg String.toList same
  have text : ∀ n : Nat, toString (n : Int) = Nat.repr n := fun n => rfl
  simp only [ExecutionService.fillExecutionId, text, String.toList_append,
    List.append_assoc] at lists
  obtain ⟨ids, digits⟩ := append_cons_inj (dash_not_mem_repr number)
    (dash_not_mem_repr number') (List.append_cancel_left lists)
  have numbers := congrArg (fun chars => Nat.ofDigitChars 10 chars 0) digits
  simp only [Nat.toList_repr, Nat.ofDigitChars_ten_toDigits] at numbers
  exact ⟨String.toList_inj.mp ids, congrArg Int.ofNat numbers⟩

namespace Fills

/-! ### The ledger of an order -/

/-- The increment an execution records. -/
def deltaOfExecution (execution : Execution) : Delta String :=
  ⟨execution.executionId, execution.quantity⟩

/-- The increment a trade event carries. -/
def deltaOf (event : BrokerTradeEvent) : Delta String :=
  ⟨event.executionId.getD "", event.quantity⟩

/-- The trade event in an envelope, when it is one of the order. -/
def tradeOf (orderId : String) : Envelope → Option BrokerTradeEvent
  | .brokerTradeEvent event => if event.orderId = orderId then some event else none
  | _ => none

/-- What the portfolio holds for an order. -/
def recorded (world : Pipeline) (orderId : String) : List (Delta String) :=
  (world.portfolio.executionsOf orderId).map deltaOfExecution

/-- What waits on the bus for an order. -/
def waiting (envelopes : List Envelope) (orderId : String) : List (Delta String) :=
  (envelopes.filterMap (tradeOf orderId)).map deltaOf

/-- What the portfolio will hold for an order once the bus is drained. -/
def fills (world : Pipeline) (orderId : String) : List (Delta String) :=
  deliver (recorded world orderId) (waiting world.pending orderId)

theorem total_recorded (world : Pipeline) (orderId : String) :
    total (recorded world orderId) = world.portfolio.getExecutedQuantityForOrder orderId := by
  unfold total recorded PortfolioTables.getExecutedQuantityForOrder
  rw [List.map_map]
  rfl

theorem waiting_append (first second : List Envelope) (orderId : String) :
    waiting (first ++ second) orderId = waiting first orderId ++ waiting second orderId := by
  unfold waiting
  rw [List.filterMap_append, List.map_append]

variable {envelope : Envelope} {orderId : String} {world : Pipeline}

theorem waiting_other (other : tradeOf orderId envelope = none) (rest : List Envelope) :
    waiting (envelope :: rest) orderId = waiting rest orderId := by
  unfold waiting
  rw [List.filterMap_cons_none other]

theorem waiting_trade {event : BrokerTradeEvent} (same : event.orderId = orderId)
    (rest : List Envelope) : waiting (.brokerTradeEvent event :: rest) orderId =
      deltaOf event :: waiting rest orderId := by
  have found : tradeOf orderId (.brokerTradeEvent event) = some event := if_pos same
  unfold waiting
  rw [List.filterMap_cons_some found, List.map_cons]

theorem tradeOf_eq_none
    (other : ∀ event, envelope = .brokerTradeEvent event → event.orderId ≠ orderId) :
    tradeOf orderId envelope = none := by
  cases envelope with
  | brokerTradeEvent event => exact if_neg (other event rfl)
  | _ => rfl

theorem recorded_prefix_fills (world : Pipeline) (orderId : String) :
    recorded world orderId <+: fills world orderId :=
  prefix_deliver _ _

/-! ### Fills of the execution service -/

structure Posted (event : BrokerTradeEvent) : Prop where
  positive : 0 < event.quantity
  reached : 0 < event.cumulativeFilledQuantity
  named : event.executionId =
    some (ExecutionService.fillExecutionId event.orderId event.cumulativeFilledQuantity)

/-- An execution booked from such an event. -/
def Booked (execution : Execution) : Prop :=
  0 < execution.quantity ∧ ∃ counter, 0 < counter ∧
    execution.executionId = ExecutionService.fillExecutionId execution.orderId counter

theorem orderId_of_booked {executions : List Execution}
    (booked : ∀ execution ∈ executions, Booked execution) {payload : BrokerTradeEvent}
    {executionId : String} (posted : Posted payload)
    (idOf : payload.executionId = some executionId) :
    ∀ other ∈ executions, other.executionId = executionId → other.orderId = payload.orderId := by
  intro other member same
  obtain ⟨-, counter, positive, named⟩ := booked other member
  have known := posted.named
  rw [idOf, ← same, named] at known
  exact (fillExecutionId_inj positive posted.reached (Option.some.inj known)).1

theorem executionId_of_posted {payload : BrokerTradeEvent} (posted : Posted payload) :
    PortfolioService.executionId payload = pure (ExecutionService.fillExecutionId
      payload.orderId payload.cumulativeFilledQuantity) := by
  have present : ExecutionService.fillExecutionId payload.orderId
      payload.cumulativeFilledQuantity ≠ "" := by
    intro empty
    have letters := congrArg String.toList empty
    unfold ExecutionService.fillExecutionId at letters
    rw [String.append_assoc, String.append_assoc, String.toList_append] at letters
    exact absurd letters (by simp)
  unfold PortfolioService.executionId
  rw [posted.named, orText, if_neg present]
  simp only
  rw [if_neg present]

/-! ### Changes of the pipeline -/

theorem fills_publish_other (other : tradeOf orderId envelope = none) :
    fills { world with queue := world.queue ++ [envelope] } orderId = fills world orderId := by
  have pending : ({ world with queue := world.queue ++ [envelope] } : Pipeline).pending =
      world.pending ++ [envelope] := (List.append_assoc _ _ _).symm
  have none_ : waiting [envelope] orderId = [] := waiting_other other []
  unfold fills
  rw [pending, waiting_append, none_, List.append_nil]
  rfl

theorem fills_publish_trade (world : Pipeline) (event : BrokerTradeEvent) :
    fills { world with queue := world.queue ++ [.brokerTradeEvent event] } event.orderId =
      record (fills world event.orderId) (deltaOf event) := by
  have pending : ({ world with queue := world.queue ++ [.brokerTradeEvent event] } :
      Pipeline).pending = world.pending ++ [.brokerTradeEvent event] :=
    (List.append_assoc _ _ _).symm
  have one : waiting [.brokerTradeEvent event] event.orderId = [deltaOf event] :=
    waiting_trade rfl []
  unfold fills
  rw [pending, waiting_append, one, deliver_concat]
  rfl

theorem fills_dispatch {rest : List Envelope} (idle : world.inHand = none)
    (queued : world.queue = envelope :: rest) (orderId : String) :
    fills { world with queue := rest, inHand := some envelope } orderId =
      fills world orderId := by
  have pending : ({ world with queue := rest, inHand := some envelope } : Pipeline).pending =
      world.pending := by
    unfold Pipeline.pending
    rw [idle, queued]
    rfl
  unfold fills
  rw [pending]
  rfl

theorem fills_taskDone (held : world.inHand = some envelope) (done : ∀ event, envelope =
      .brokerTradeEvent event → event.orderId = orderId → (deltaOf event).key ∈ keys (recorded world
      orderId)) : fills { world with inHand := none } orderId = fills world orderId := by
  have pending : world.pending = envelope :: world.queue := by
    unfold Pipeline.pending
    rw [held]
    rfl
  have next : ({ world with inHand := none } : Pipeline).pending = world.queue := rfl
  have recordedSame : recorded { world with inHand := none } orderId =
      recorded world orderId := rfl
  unfold fills
  rw [pending, next, recordedSame]
  by_cases trade : ∃ event, envelope = .brokerTradeEvent event ∧ event.orderId = orderId
  · obtain ⟨event, rfl, same⟩ := trade
    rw [waiting_trade same, deliver_of_known (done event rfl same)]
  · have other : tradeOf orderId envelope = none :=
      tradeOf_eq_none fun event equal same => trade ⟨event, equal, same⟩
    rw [waiting_other other]

theorem executionsOf_applied (world : Pipeline) (execution : Execution)
    (tradingMode : TradingMode) (currentPrice : ℚ) (orderId : String) :
    (world.appliedExecution execution tradingMode currentPrice).2.portfolio.executionsOf orderId =
      if execution.executionId ∈ world.portfolio.executions.map Execution.executionId then
        world.portfolio.executionsOf orderId
      else world.portfolio.executionsOf orderId ++
        if execution.orderId = orderId then [execution] else [] := by
  unfold PortfolioTables.executionsOf
  show ((world.portfolio.applyExecutionAtomic execution tradingMode
    currentPrice).2.executions.filter _) = _
  rw [world.portfolio.executions_applyExecutionAtomic execution tradingMode currentPrice]
  split
  · rfl
  · rw [List.filter_append]
    by_cases own : execution.orderId = orderId
    · simp [own]
    · simp [own]

theorem mem_executions_iff {execution : Execution} (named : ∀ other ∈ world.portfolio.executions,
      other.executionId = execution.executionId → other.orderId = execution.orderId) :
    execution.executionId ∈ world.portfolio.executions.map Execution.executionId ↔
      (deltaOfExecution execution).key ∈ keys (recorded world execution.orderId) := by
  unfold keys recorded PortfolioTables.executionsOf
  rw [List.map_map]
  constructor
  · intro member
    obtain ⟨other, inside, same⟩ := List.mem_map.mp member
    exact List.mem_map.mpr ⟨other, List.mem_filter.mpr
      ⟨inside, decide_eq_true (named other inside same)⟩, same⟩
  · intro member
    obtain ⟨other, inside, same⟩ := List.mem_map.mp member
    exact List.mem_map.mpr ⟨other, (List.mem_filter.mp inside).1, same⟩

theorem recorded_applied (execution : Execution) (tradingMode : TradingMode) (currentPrice : ℚ)
    (named : ∀ other ∈ world.portfolio.executions, other.executionId = execution.executionId →
      other.orderId = execution.orderId) (orderId : String) :
    recorded (world.appliedExecution execution tradingMode currentPrice).2 orderId =
      if execution.orderId = orderId then
        record (recorded world orderId) (deltaOfExecution execution)
      else recorded world orderId := by
  have known := mem_executions_iff named
  unfold recorded
  rw [executionsOf_applied]
  by_cases same : execution.orderId = orderId
  · rw [if_pos same, if_pos same]
    rw [same] at known
    by_cases member : execution.executionId ∈
        world.portfolio.executions.map Execution.executionId
    · rw [if_pos member]
      exact (record_of_known (known.mp member)).symm
    · rw [if_neg member, List.map_append]
      exact (record_of_unknown fun inside => member (known.mpr inside)).symm
  · rw [if_neg same, if_neg same, List.append_nil, ite_self]

theorem fills_applied {event : BrokerTradeEvent} {executionId : String} (tradingMode : TradingMode)
    (currentPrice : ℚ) (held : world.inHand = some (.brokerTradeEvent event))
    (idOf : event.executionId = some executionId) (named : ∀ other ∈ world.portfolio.executions,
      other.executionId = executionId → other.orderId = event.orderId) (orderId : String) :
    fills (world.appliedExecution (PortfolioService.executionOf event executionId) tradingMode
      currentPrice).2 orderId = fills world orderId := by
  have pending : world.pending = .brokerTradeEvent event :: world.queue := by
    unfold Pipeline.pending
    rw [held]
    rfl
  have delta : deltaOfExecution (PortfolioService.executionOf event executionId) =
      deltaOf event := by
    unfold deltaOfExecution deltaOf
    rw [idOf]
    rfl
  have same : ((world.appliedExecution (PortfolioService.executionOf event executionId)
      tradingMode currentPrice).2).pending = world.pending := rfl
  have order : (PortfolioService.executionOf event executionId).orderId = event.orderId := rfl
  unfold fills
  rw [same, recorded_applied _ _ _ named, order, delta, pending]
  by_cases own : event.orderId = orderId
  · rw [waiting_trade own, if_pos own, deliver_record]
  · rw [if_neg own]

end Fills

end BreezeTrading
