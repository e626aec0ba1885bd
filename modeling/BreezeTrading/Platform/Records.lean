/-
This file proves what no run of the platform undoes, whatever fails, interleaves or crashes: what
is recorded stays recorded, and the portfolio is what deliveries of executions leave.
-/

import BreezeTrading.Platform.Steps
import BreezeTrading.Portfolio.Accounting

namespace BreezeTrading

open Async

namespace Records

open Platform PortfolioTables

/-- What a later world has of the records of an earlier one. An order differs at most in the
columns that an update sets. -/
structure Keeps (first last : Platform) : Prop where
  intents : first.pipeline.intents <+: last.pipeline.intents
  orders : ∀ row ∈ first.pipeline.oms.rows,
    ∃ update, OrderTable.updated row update ∈ last.pipeline.oms.rows
  portfolio : ∃ deliveries, last.pipeline.portfolio = first.pipeline.portfolio.applyAll deliveries
  decisions : first.decisions <+: last.decisions
  outbox : ∀ store, (first.outbox store).map OutboxRow.envelope <+:
    (last.outbox store).map OutboxRow.envelope
  placements : first.placements <+: last.placements

theorem Keeps.refl (world : Platform) : Keeps world world where
  intents := List.prefix_rfl
  orders row member := ⟨row, member⟩
  portfolio := ⟨[], rfl⟩
  decisions := List.prefix_rfl
  outbox _ := List.prefix_rfl
  placements := List.prefix_rfl

theorem Keeps.trans {first second third : Platform} (left : Keeps first second)
    (right : Keeps second third) : Keeps first third where
  intents := left.intents.trans right.intents
  orders row member := by
    obtain ⟨update, inSecond⟩ := left.orders row member
    obtain ⟨further, inThird⟩ := right.orders _ inSecond
    exact ⟨further, inThird⟩
  portfolio := by
    obtain ⟨early, same⟩ := left.portfolio
    obtain ⟨late, sameToo⟩ := right.portfolio
    exact ⟨early ++ late, by rw [sameToo, same, applyAll, applyAll, applyAll, List.foldl_append]⟩
  decisions := left.decisions.trans right.decisions
  outbox store := (left.outbox store).trans (right.outbox store)
  placements := left.placements.trans right.placements

/-! ### Steps -/

section Steps

variable {world next : Platform}

theorem keeps_of_eq {moved : Pipeline} (oms : moved.oms = world.pipeline.oms)
    (intents : moved.intents = world.pipeline.intents)
    (portfolio : moved.portfolio = world.pipeline.portfolio) :
    Keeps world { world with pipeline := moved } :=
  { Keeps.refl world with
    intents := intents ▸ List.prefix_rfl
    orders := fun row member => ⟨row, oms ▸ member⟩
    portfolio := ⟨[], portfolio⟩ }

theorem keeps_addOutboxEvent (world : Platform) (store : Store) (row : OutboxRow) :
    Keeps world (world.addOutboxEvent store row) :=
  { Keeps.refl world with
    outbox := fun other => by
      show _ <+: (if other = store then _ else _ : List OutboxRow).map OutboxRow.envelope
      split_ifs
      · rw [List.map_append]
        exact List.prefix_append _ _
      · exact List.prefix_rfl }

theorem keeps_saveBrokerOrder {table : OrderTable} {order : BrokerOrder} {toState : OrderState}
    (stored : world.pipeline.oms.saveBrokerOrderWithTransition order toState = .ok table) :
    Keeps world { world with pipeline := { world.pipeline with oms := table } } :=
  { Keeps.refl world with
    orders := fun row member => by
      by_cases same : row.orderId = order.orderId
      · exact ⟨_, (OrderTable.mem_save_of_mem stored member same _).mpr (.inl rfl)⟩
      · exact ⟨row, (OrderTable.mem_saveBrokerOrderWithTransition stored row).mpr
          (.inr ⟨member, same⟩)⟩ }

theorem keeps_answerPipeline {op : PipelineOp} {choice : PipelineAnswer}
    {reply : Except Raised (PipelineReply op)}
    (answered : world.answerPipeline op choice = some (reply, next)) : Keeps world next := by
  have asks {Value : Type} {select : PipelineAnswer → Option Value} {learn : Value → Pipeline}
      {reply : Except Raised Value} {moved : Pipeline}
      (told : ∀ value, Pipeline.Told world.pipeline (learn value))
      (there : Pipeline.asking world.pipeline select learn choice = some (reply, moved)) :
      Keeps world { world with pipeline := moved } := by
    rcases Pipeline.asking_eq_some there with ⟨rfl, -⟩ | ⟨value, -, -, rfl⟩
    · exact Keeps.refl world
    · exact keeps_of_eq (told value).oms (told value).intents (told value).portfolio
  obtain ⟨-, moved, there, leaves⟩ := answerPipeline_eq_some answered
  cases op with
  | saveOrderIntent intent =>
    rcases answerPipeline_saveOrderIntent answered with ⟨rfl, -⟩ | ⟨-, -, rfl⟩
    · exact Keeps.refl _
    · exact { keeps_addOutboxEvent world .oms ⟨.orderIntent intent, intent.createdAt, false⟩ with
        intents := List.prefix_append _ _ }
  | saveBrokerOrderWithTransition =>
    rcases answerPipeline_saveBrokerOrder answered with ⟨rfl, -⟩ | ⟨table, stored, -, rfl⟩
    · exact Keeps.refl _
    · exact keeps_saveBrokerOrder stored
  | placeOrder =>
    obtain rfl := answerPipeline_placeOrder answered
    exact { Keeps.refl world with placements := List.prefix_append _ _ }
  | applyExecutionAtomic execution tradingMode currentPrice =>
    subst leaves
    rcases Pipeline.committing_eq_some there with pair | ⟨rfl, -⟩
    · obtain ⟨-, rfl⟩ := Prod.mk.inj pair
      exact { Keeps.refl world with portfolio := ⟨[⟨execution, tradingMode, currentPrice⟩], rfl⟩ }
    · exact Keeps.refl world
  | publish | taskDone | addProcessedExecution | sleep =>
    subst leaves
    obtain ⟨rfl, -⟩ := Pipeline.always_eq_some there
    exact keeps_of_eq rfl rfl rfl
  | getOrder | getOrderById | getOrderByClientId | listOrders | getExecutedQuantityForOrder
  | listPositions | savePnlSnapshot =>
    subst leaves
    obtain ⟨rfl, -⟩ := Pipeline.reading_eq_some there
    exact Keeps.refl world
  | getSessionStatus | getExecutionFeedHealth | validateLiveOrder | getLatestQuote | generateId =>
    subst leaves
    exact asks (fun _ => Pipeline.told_refl _) there
  | getOrderStatus =>
    subst leaves
    exact asks (fun value => Pipeline.told_learnStatus _ _ value) there
  | findOrderByClientId =>
    subst leaves
    exact asks (fun value => Pipeline.told_learnRecovery _ _ value) there
  | getTrades =>
    subst leaves
    exact asks (fun value => Pipeline.told_learnTrades _ value) there

theorem keeps_answerRisk {op : RiskOp} {choice : PlatformAnswer}
    {reply : Except Raised (RiskReply op)}
    (answered : world.answerRisk op choice = some (reply, next)) : Keeps world next := by
  cases op with
  | saveDecision intent decision =>
    rcases answerRisk_saveDecision answered with ⟨rfl, -⟩ | ⟨rfl, -⟩
    · exact Keeps.refl _
    · exact { keeps_addOutboxEvent world .risk ⟨.riskDecision decision.payload, 0, false⟩ with
        decisions := List.prefix_append _ _ }
  | publish =>
    rcases answerRisk_publish answered with ⟨rfl, -⟩ | ⟨rfl, -⟩
    · exact Keeps.refl _
    · exact keeps_of_eq rfl rfl rfl
  | _ =>
    obtain rfl := answerRisk_asks (by trivial) answered
    exact Keeps.refl _

theorem keeps_markOutboxEventPublished (world : Platform) (store : Store) (index : Nat) :
    Keeps world (world.markOutboxEventPublished store index) := by
  have same (rows : List OutboxRow) :
      (rows.modify index fun row => { row with published := true }).map OutboxRow.envelope =
        rows.map OutboxRow.envelope := by
    refine List.ext_getElem? fun place => ?_
    rw [List.getElem?_map, List.getElem?_map, List.getElem?_modify]
    cases rows[place]? with
    | none => rfl
    | some row => exact congrArg some (by split_ifs <;> rfl)
  refine { Keeps.refl world with outbox := fun other => ?_ }
  show _ <+: (if other = store then _ else _ : List OutboxRow).map OutboxRow.envelope
  split_ifs
  · exact same _ ▸ List.prefix_rfl
  · exact List.prefix_rfl

theorem keeps_answer {op : PlatformOp} {choice : PlatformAnswer}
    {reply : Except Raised (PlatformReply op)}
    (answered : world.answer op choice = some (reply, next)) : Keeps world next := by
  cases op with
  | pipeline op =>
    cases choice with
    | pipeline choice => exact keeps_answerPipeline answered
    | _ => cases answered
  | risk op => exact keeps_answerRisk answered
  | finish job epoch =>
    cases answered
    exact { Keeps.refl world with }
  | markOutboxPublished store index =>
    cases choice with
    | ok =>
      cases answered
      exact keeps_markOutboxEventPublished world store index
    | raises text =>
      cases answered
      exact Keeps.refl _
    | _ => cases answered
  | getOutboxEventsToPublish | setSystemMode | recordKillSwitch | publishAudit =>
    cases choice with
    | ok | raises =>
      cases answered
      exact { Keeps.refl world with }
    | _ => cases answered

theorem keeps_start {services : Services} {kind : PlatformStart} {task : PlatformTask Unit}
    (started : Platform.start services world kind = some (task, next)) : Keeps world next := by
  cases kind with
  | dispatch | reconcile =>
    simp only [Platform.start] at started
    split at started
    all_goals
      cases started
    all_goals
      exact { Keeps.refl world with }
  | _ =>
    cases started
    exact { Keeps.refl world with }

/-- What is recorded stays recorded in every run, also where its steps fail. -/
theorem keeps_of_reaches {services : Services} {first last}
    (reaches : (Platform.system services).Reaches anyPlatform first last) :
    Keeps first.world last.world :=
  System.Reaches.related .refl .trans keeps_answer keeps_start
    (fun disturbed => by
      obtain ⟨broker, rfl⟩ := eq_of_disturb disturbed
      exact keeps_of_eq rfl rfl rfl)
    (fun _ => { Keeps.refl _ with }) reaches

end Steps

end Records

open Records PortfolioTables in
/-- In every run of the platform no record is lost, and from its first start on every instrument has
a position exactly when it has an execution, and it is derived from those. -/
theorem platform_keeps_records (services : Services) :
    (∀ first last, (Platform.system services).Reaches anyPlatform first last →
      Keeps first.world last.world) ∧
    ∀ last, (Platform.system services).Reaches anyPlatform ⟨.initial, []⟩ last →
      ∀ instrumentId, Accounted last.world.pipeline.portfolio instrumentId := by
  refine ⟨fun first last => keeps_of_reaches, fun last reaches => ?_⟩
  obtain ⟨deliveries, same⟩ := (keeps_of_reaches reaches).portfolio
  rw [same]
  exact accounted_applyAll deliveries accounted_empty

end BreezeTrading
