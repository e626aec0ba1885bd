/-
This file defines the order table of the OMS database: its rows, the two unique
columns SQLite enforces on them, the reads, and the one write, an upsert that
keeps the columns the statement does not set.
-/

import BreezeTrading.Lib.Table
import BreezeTrading.Oms.StateMachine
import Mathlib.Data.List.Sort

namespace BreezeTrading

open Stored

/-- The table `broker_orders`: `order_id` is its primary key, `client_order_id` is unique. -/
structure OrderTable where
  rows : List BrokerOrder
  byOrderId : (rows.map BrokerOrder.orderId).Nodup
  byClientOrderId : (rows.map BrokerOrder.clientOrderId).Nodup

namespace OrderTable

def empty : OrderTable := ⟨[], List.nodup_nil, List.nodup_nil⟩

/-! ### Reads -/

def getOrderById (table : OrderTable) (orderId : String) : Option BrokerOrder :=
  table.rows.find? fun row => decide (row.orderId = orderId)

def getOrderByClientId (table : OrderTable) (clientOrderId : String) : Option BrokerOrder :=
  table.rows.find? fun row => decide (row.clientOrderId = clientOrderId)

/-- `ORDER BY created_at DESC LIMIT limit`. -/
def listOrders (table : OrderTable) (limit : Nat) : List BrokerOrder :=
  (table.rows.insertionSort fun first second => second.createdAt ≤ first.createdAt).take limit

variable {table saved : OrderTable} {orderId clientOrderId : String} {order old : BrokerOrder}
  {toState : OrderState}

theorem mem_of_getOrderById (found : table.getOrderById orderId = some order) :
    order ∈ table.rows ∧ order.orderId = orderId :=
  mem_of_find? found

theorem mem_of_getOrderByClientId (found : table.getOrderByClientId clientOrderId = some order) :
    order ∈ table.rows ∧ order.clientOrderId = clientOrderId :=
  mem_of_find? found

theorem mem_of_mem_listOrders {limit : Nat} (listed : order ∈ table.listOrders limit) :
    order ∈ table.rows :=
  (List.mem_insertionSort _).mp (List.mem_of_mem_take listed)

theorem getOrderById_of_mem (member : order ∈ table.rows) :
    table.getOrderById order.orderId = some order :=
  find?_eq_some_of_mem table.byOrderId member rfl

theorem getOrderByClientId_of_mem (member : order ∈ table.rows) :
    table.getOrderByClientId order.clientOrderId = some order :=
  find?_eq_some_of_mem table.byClientOrderId member rfl

theorem eq_of_clientOrderId {first second : BrokerOrder} (inFirst : first ∈ table.rows)
    (inSecond : second ∈ table.rows) (same : first.clientOrderId = second.clientOrderId) :
    first = second :=
  eq_of_mem table.byClientOrderId inFirst inSecond same

theorem eq_of_orderId {first second : BrokerOrder} (inFirst : first ∈ table.rows)
    (inSecond : second ∈ table.rows) (same : first.orderId = second.orderId) : first = second :=
  eq_of_mem table.byOrderId inFirst inSecond same

/-! ### The write -/

/-- The columns `ON CONFLICT(order_id) DO UPDATE` sets; every other column keeps its value. -/
def updated (old order : BrokerOrder) : BrokerOrder :=
  { old with
    brokerOrderId := order.brokerOrderId
    filledQuantity := order.filledQuantity
    remainingQuantity := order.remainingQuantity
    triggerPrice := order.triggerPrice
    averagePrice := order.averagePrice
    status := order.status
    statusMessage := order.statusMessage
    reduceOnly := order.reduceOnly }

/-- `save_broker_order_with_transition`: the row is written with the state moved to. A new row
whose client id is taken violates the unique index. -/
def saveBrokerOrderWithTransition (table : OrderTable) (order : BrokerOrder)
    (toState : OrderState) : Except Raised OrderTable :=
  let row := { order with status := toState }
  if fresh : (∃ old ∈ table.rows, old.orderId = row.orderId) ∨
      row.clientOrderId ∉ table.rows.map BrokerOrder.clientOrderId then
    .ok
      { rows := upsertRows BrokerOrder.orderId updated row table.rows
        byOrderId := nodup_key_upsertRows (fun _ => rfl) table.byOrderId
        byClientOrderId := nodup_upsertRows (fun _ => rfl) table.byClientOrderId fresh }
  else .error ⟨"UNIQUE constraint failed: broker_orders.client_order_id"⟩

/-- The row a write leaves. -/
def written (table : OrderTable) (order : BrokerOrder) (toState : OrderState) : BrokerOrder :=
  merged BrokerOrder.orderId updated { order with status := toState } table.rows

theorem mem_saveBrokerOrderWithTransition
    (stored : table.saveBrokerOrderWithTransition order toState = .ok saved) (other : BrokerOrder) :
    other ∈ saved.rows ↔ other = table.written order toState ∨
      (other ∈ table.rows ∧ other.orderId ≠ order.orderId) := by
  unfold saveBrokerOrderWithTransition at stored
  simp only at stored
  split at stored
  · cases stored
    exact mem_upsertRows table.byOrderId other
  · cases stored

theorem written_of_mem (toState : OrderState) (member : old ∈ table.rows)
    (same : old.orderId = order.orderId) :
    table.written order toState = updated old { order with status := toState } := by
  have found := find?_eq_some_of_mem table.byOrderId member same
  rw [written, merged, found]

section

variable (stored : table.saveBrokerOrderWithTransition order toState = .ok saved)

include stored

theorem mem_save_of_mem (member : old ∈ table.rows) (same : old.orderId = order.orderId)
    (other : BrokerOrder) :
    other ∈ saved.rows ↔ other = updated old { order with status := toState } ∨
      (other ∈ table.rows ∧ other.orderId ≠ old.orderId) := by
  rw [mem_saveBrokerOrderWithTransition stored, written_of_mem toState member same, same]

theorem mem_save_of_fresh (fresh : ∀ row ∈ table.rows, row.orderId ≠ order.orderId)
    (other : BrokerOrder) :
    other ∈ saved.rows ↔ other = { order with status := toState } ∨ other ∈ table.rows := by
  have missing : table.rows.find? (fun old => decide (old.orderId = order.orderId)) = none := by
    refine List.find?_eq_none.mpr fun row member => ?_
    rw [decide_eq_true_eq]
    exact fresh row member
  rw [mem_saveBrokerOrderWithTransition stored, written, merged, missing]
  exact or_congr_right ⟨And.left, fun member => ⟨member, fresh other member⟩⟩

theorem nodup_save {Column : Type} {column : BrokerOrder → Column}
    (keeps : ∀ old row, column (updated old row) = column old)
    (unique : (table.rows.map column).Nodup) (fresh : (∃ old ∈ table.rows, old.orderId =
      order.orderId) ∨ column { order with status := toState } ∉ table.rows.map column) :
    (saved.rows.map column).Nodup := by
  unfold saveBrokerOrderWithTransition at stored
  simp only at stored
  split at stored
  · cases stored
    exact nodup_upsertRows (fun old => keeps old _) unique fresh
  · cases stored

end

theorem saveBrokerOrderWithTransition_of_mem (toState : OrderState) (member : old ∈ table.rows)
    (same : old.orderId = order.orderId) :
    ∃ saved, table.saveBrokerOrderWithTransition order toState = .ok saved := by
  unfold saveBrokerOrderWithTransition
  rw [dif_pos (Or.inl ⟨old, member, same⟩)]
  exact ⟨_, rfl⟩

@[simp] theorem written_status (table : OrderTable) (order : BrokerOrder) (toState : OrderState) :
    (table.written order toState).status = toState := by
  unfold written merged
  split <;> rfl

@[simp] theorem written_orderId (table : OrderTable) (order : BrokerOrder)
    (toState : OrderState) : (table.written order toState).orderId = order.orderId := by
  unfold written merged
  split
  · rename_i old found
    exact (mem_of_find? found).2
  · rfl

/-! ### Identity and status -/

/-- The table has a row of this order id and client id. -/
def Knows (table : OrderTable) (orderId clientOrderId : String) : Prop :=
  ∃ row ∈ table.rows, row.orderId = orderId ∧ row.clientOrderId = clientOrderId

/-- The status on record for a client id. -/
def statusOf (table : OrderTable) (clientOrderId : String) : Option OrderState :=
  (table.getOrderByClientId clientOrderId).map BrokerOrder.status

theorem knows_of_mem (member : order ∈ table.rows) :
    table.Knows order.orderId order.clientOrderId :=
  ⟨order, member, rfl, rfl⟩

theorem statusOf_of_mem (member : order ∈ table.rows) :
    table.statusOf order.clientOrderId = some order.status := by
  rw [statusOf, getOrderByClientId_of_mem member]
  rfl

theorem Knows.clientOrderId_eq {first second : String} (left : table.Knows orderId first)
    (right : table.Knows orderId second) : first = second := by
  obtain ⟨row, member, named, rfl⟩ := left
  obtain ⟨row', member', named', rfl⟩ := right
  rw [eq_of_orderId member member' (named.trans named'.symm)]

theorem Knows.orderId_eq {first second : String} (left : table.Knows first clientOrderId)
    (right : table.Knows second clientOrderId) : first = second := by
  obtain ⟨row, member, rfl, named⟩ := left
  obtain ⟨row', member', rfl, named'⟩ := right
  rw [eq_of_clientOrderId member member' (named.trans named'.symm)]

/-- An order whose ids do not contradict the table: it is known there, or new. -/
def Agrees (table : OrderTable) (order : BrokerOrder) : Prop :=
  ∀ row ∈ table.rows, row.orderId = order.orderId → row.clientOrderId = order.clientOrderId

theorem Knows.agrees (known : table.Knows order.orderId order.clientOrderId) : table.Agrees order :=
  fun _ member same => Knows.clientOrderId_eq ⟨_, member, same, rfl⟩ known

theorem written_clientOrderId (toState : OrderState) (agrees : table.Agrees order) :
    (table.written order toState).clientOrderId = order.clientOrderId := by
  unfold written merged
  split
  · rename_i old found
    obtain ⟨member, same⟩ := mem_of_find? found
    exact agrees old member same
  · rfl

section

variable (stored : table.saveBrokerOrderWithTransition order toState = .ok saved)

include stored

theorem Knows.save (known : table.Knows orderId clientOrderId) :
    saved.Knows orderId clientOrderId := by
  obtain ⟨row, member, rfl, rfl⟩ := known
  by_cases same : row.orderId = order.orderId
  · refine ⟨table.written order toState,
      (mem_saveBrokerOrderWithTransition stored _).mpr (Or.inl rfl), ?_, ?_⟩
    · rw [written_orderId, same]
    · rw [written_of_mem toState member same]
      rfl
  · exact ⟨row, (mem_saveBrokerOrderWithTransition stored row).mpr (Or.inr ⟨member, same⟩),
      rfl, rfl⟩

theorem statusOf_save (agrees : table.Agrees order) (clientOrderId : String) :
    saved.statusOf clientOrderId =
      if order.clientOrderId = clientOrderId then some toState
      else table.statusOf clientOrderId := by
  have inside := (mem_saveBrokerOrderWithTransition stored (table.written order toState)).mpr
    (Or.inl rfl)
  split
  · rename_i same
    rw [← same, ← written_clientOrderId toState agrees, statusOf_of_mem inside, written_status]
  · rename_i different
    cases found : table.getOrderByClientId clientOrderId with
    | some row =>
      obtain ⟨member, rfl⟩ := mem_of_getOrderByClientId found
      have other : row.orderId ≠ order.orderId := fun same =>
        different (agrees row member same).symm
      rw [statusOf_of_mem member, statusOf_of_mem
        ((mem_saveBrokerOrderWithTransition stored row).mpr (Or.inr ⟨member, other⟩))]
    | none =>
      have missing : saved.getOrderByClientId clientOrderId = none := by
        refine List.find?_eq_none.mpr fun row member => ?_
        rw [decide_eq_true_eq]
        rcases (mem_saveBrokerOrderWithTransition stored row).mp member with rfl | ⟨old, -⟩
        · rw [written_clientOrderId toState agrees]
          exact different
        · exact ne_of_find?_none found row old
      rw [statusOf, statusOf, found, missing]

theorem getOrderByClientId_save (member : old ∈ table.rows) (same : old.orderId = order.orderId)
    (clientOrderId : String) : saved.getOrderByClientId clientOrderId =
      if old.clientOrderId = clientOrderId then
        some (updated old { order with status := toState })
      else table.getOrderByClientId clientOrderId := by
  have stays := written_of_mem toState member same
  split
  · rename_i named
    have inside := (mem_saveBrokerOrderWithTransition stored _).mpr (Or.inl stays.symm)
    rw [← named]
    exact getOrderByClientId_of_mem inside
  · rename_i different
    cases found : table.getOrderByClientId clientOrderId with
    | some row =>
      obtain ⟨inRows, rfl⟩ := mem_of_getOrderByClientId found
      have other : row.orderId ≠ order.orderId := fun equal =>
        different (congrArg _ (eq_of_orderId member inRows (same.trans equal.symm)))
      exact getOrderByClientId_of_mem
        ((mem_saveBrokerOrderWithTransition stored row).mpr (Or.inr ⟨inRows, other⟩))
    | none =>
      refine List.find?_eq_none.mpr fun row inSaved => ?_
      rw [decide_eq_true_eq]
      rcases (mem_saveBrokerOrderWithTransition stored row).mp inSaved with rfl | ⟨kept, -⟩
      · rw [stays]
        exact different
      · exact ne_of_find?_none found row kept

theorem getOrderByClientId_insert (fresh : table.getOrderById order.orderId = none) :
    { order with status := toState } ∈ saved.rows := by
  refine (mem_saveBrokerOrderWithTransition stored _).mpr (Or.inl ?_)
  rw [written, merged, show table.rows.find? (fun old => decide (old.orderId = order.orderId)) =
    none from fresh]

end

end OrderTable

end BreezeTrading
