/-
This file models the account analytics of the replay: how the result of a record is split over its
entry and its exits, and the equity curve of all of them. It proves that the split conserves the
economics of the record, and that the curve ends at the ending equity.
-/

import BreezeTrading.Strategy.ReplayExecution
import BreezeTrading.Strategy.Rounding
import Mathlib.Algebra.Group.Subgroup.ZPowers.Basic
import Mathlib.Algebra.Group.Submonoid.BigOperators
import Mathlib.Algebra.Order.BigOperators.Group.List
import Mathlib.Data.List.Sort

namespace BreezeTrading.ReplayAnalytics

/-! ### Records -/

/-- An exit leg of the provenance, as far as it can be read. -/
structure RawExitLeg where
  quantity : Int
  timestamp : Option Int
  executablePrice : Option ℚ
  reason : Option String
  deriving DecidableEq

/-- The breakdown of the costs; a component may be missing. -/
structure CostBreakdown where
  (brokerage exchangeCharges stt gst sebiCharges stampDuty : Option ℚ)
  deriving DecidableEq

/-- A record of the manifest. Its exit legs may be missing, and each of them malformed. -/
structure AnalyticsRecord extends ReplayManifestRecord where
  sizingStatus : String
  replayQuantity : Option Int
  simulatedEntryTimestamp : Int
  simulatedEntryFillPrice : Option ℚ
  exitLegs : Option (List (Option RawExitLeg))
  costBreakdown : CostBreakdown
  deriving DecidableEq

def AnalyticsRecord.quantity (record : AnalyticsRecord) : Int := record.replayQuantity.getD 0

structure ExitLeg where
  quantity : Int
  timestamp : Int
  reason : String
  executablePrice : ℚ
  deriving DecidableEq

/-- A reason, unless there is none. -/
def reasonOr (reason : Option String) (other : String) : String :=
  if reason.getD "" = "" then other else reason.getD ""

/-- A leg, if it is valid. -/
def readLeg (record : AnalyticsRecord) (raw : Option RawExitLeg) : Option ExitLeg := do
  let leg ← raw
  let timestamp ← leg.timestamp
  let executablePrice ← leg.executablePrice
  if leg.quantity ≤ 0 ∨ timestamp < record.simulatedEntryTimestamp then none
  else some ⟨leg.quantity, timestamp, reasonOr leg.reason "EXIT", executablePrice⟩

/-- `_execution_exit_legs`: the legs in their order, if all of them are valid and make up the
quantity. -/
def executionExitLegs (record : AnalyticsRecord) : List ExitLeg :=
  match record.exitLegs.bind fun raw => raw.mapM (readLeg record) with
  | none => []
  | some legs =>
      let ordered := legs.insertionSort fun first second => first.timestamp ≤ second.timestamp
      if record.quantity ≤ 0 ∨ (ordered.map ExitLeg.quantity).sum ≠ record.quantity then []
      else ordered

/-! ### Allocations -/

/-- The loop over the weights: the last positive one gets what remains. -/
def allocateFrom (total totalWeight : ℚ) : ℚ → List ℚ → List ℚ
  | _, [] => []
  | remaining, weight :: rest =>
      if 0 < weight then
        if rest.any fun other => decide (0 < other) then
          let allocation := roundTo 2 (total * weight / totalWeight)
          allocation ::
            allocateFrom total totalWeight (roundTo 2 (remaining - allocation)) rest
        else roundTo 2 remaining :: rest.map fun _ => 0
      else 0 :: allocateFrom total totalWeight remaining rest

def allocateRoundedTotal (total : ℚ) (weights : List ℚ) : List ℚ :=
  if weights.any fun weight => decide (0 < weight) then
    allocateFrom total (weights.filter fun weight => decide (0 < weight)).sum (roundTo 2 total)
      weights
  else
    match weights with
    | [] => []
    | _ :: rest => roundTo 2 total :: rest.map fun _ => 0

/-- The last value takes what is missing of the total. -/
def settleLast (total : ℚ) (values : List ℚ) : List ℚ :=
  match values.getLast? with
  | none => []
  | some last => values.dropLast ++ [roundTo 2 (last + total - values.sum)]

/-- `_execution_cost_allocations`: the costs of the entry and of each exit. -/
def executionCostAllocations (record : AnalyticsRecord) (legs : List ExitLeg) (gross net : ℚ)
    (entryFill : ℚ) : Option (List ℚ) := do
  let breakdown := record.costBreakdown
  let turnovers :=
    entryFill * record.quantity :: legs.map fun leg => leg.executablePrice * leg.quantity
  let brokerage := allocateRoundedTotal (← breakdown.brokerage) (turnovers.map fun _ => 1)
  let exchange := allocateRoundedTotal (← breakdown.exchangeCharges) turnovers
  let sebi := allocateRoundedTotal (← breakdown.sebiCharges) turnovers
  let stt := allocateRoundedTotal (← breakdown.stt) (0 :: turnovers.tail)
  let stampDuty ← breakdown.stampDuty
  let orders := List.range turnovers.length
  let gst := allocateRoundedTotal (← breakdown.gst) (orders.map fun index =>
    brokerage.getD index 0 + exchange.getD index 0 + sebi.getD index 0)
  return settleLast (roundTo 2 (gross - net)) (orders.map fun index =>
    roundTo 2 (brokerage.getD index 0 + exchange.getD index 0 + stt.getD index 0 +
      gst.getD index 0 + sebi.getD index 0 + if index = 0 then roundTo 2 stampDuty else 0))

/-! ### Events -/

structure PnlEvent where
  timestamp : Int
  event : String
  quantity : Int
  grossPnl : Option ℚ
  allocatedTransactionCosts : Option ℚ
  netPnl : ℚ
  realizedRDelta : ℚ
  reason : String
  deriving DecidableEq

/-- The event of a leg, with its share of the gross result and of the costs. -/
def exitEvent (event : String) (realizedR : ℚ) (exit : ExitLeg × ℚ × ℚ) : PnlEvent :=
  ⟨exit.1.timestamp, event, exit.1.quantity, some exit.2.1, some exit.2.2,
    roundTo 2 (exit.2.1 - exit.2.2), realizedR, exit.1.reason⟩

/-- The events of the legs, of which the last one closes the trade. -/
def exitEvents (realizedR : ℚ) (exits : List (ExitLeg × ℚ × ℚ)) : List PnlEvent :=
  match exits.getLast? with
  | none => []
  | some last =>
      exits.dropLast.map (exitEvent "PARTIAL_EXIT" 0) ++ [exitEvent "TRADE_EXIT" realizedR last]

def executionPnlEvents (record : AnalyticsRecord) (sessionEnd : Int) : List PnlEvent :=
  let legs := executionExitLegs record
  let realizedR := record.realizedR.getD 0
  match record.simulatedNetPnl, record.simulatedGrossPnl, record.simulatedEntryFillPrice, legs with
  | none, _, _, _ => []
  | some net, some gross, some entryFill, _ :: _ =>
      let grossValues := settleLast gross (legs.map fun leg =>
        roundTo 2 ((leg.executablePrice - entryFill) * leg.quantity))
      let orderCosts := (executionCostAllocations record legs gross net entryFill).getD
        (0 :: allocateRoundedTotal (roundTo 2 (gross - net)) (legs.map fun leg => leg.quantity))
      let entryCost := orderCosts.headD 0
      let entry :=
        if entryCost = 0 then []
        else
          [⟨record.simulatedEntryTimestamp, "ENTRY_COST", record.quantity, some 0, some entryCost,
            roundTo 2 (-entryCost), 0, "ENTRY_TRANSACTION_COSTS"⟩]
      entry ++ exitEvents realizedR (legs.zip (grossValues.zip orderCosts.tail))
  | some net, gross, _, _ =>
      [⟨record.exitTimestamp.getD sessionEnd, "TRADE_EXIT", record.quantity, gross,
        gross.map fun gross => roundTo 2 (gross - net), net, realizedR,
        reasonOr record.exitReason "FINAL_EXIT"⟩]

/-! ### Portfolio metrics -/

structure EquityPoint where
  timestamp : Int
  equity : ℚ
  cumulativeNetPnl : ℚ
  cumulativeR : ℚ
  event : String
  deriving DecidableEq

structure PortfolioMetrics where
  pnlComplete : Bool
  endingEquity : Option ℚ
  equityCurve : List EquityPoint

/-- The points of the curve after those of the events before. -/
def equityPoints (startingEquity : ℚ) : ℚ → ℚ → List PnlEvent → List EquityPoint
  | _, _, [] => []
  | pnl, r, event :: rest =>
      let pnl := pnl + event.netPnl
      let r := r + event.realizedRDelta
      ⟨event.timestamp, roundTo 2 (startingEquity + pnl), roundTo 2 pnl, roundTo 4 r,
        event.event⟩ :: equityPoints startingEquity pnl r rest

/-- The records that were sized and have resolved, by their ends, their entries and their ids. -/
def resolvedRecords (records : List AnalyticsRecord) (sessionEnd : Int) : List AnalyticsRecord :=
  let resolved := records.filter fun record =>
    record.sizingStatus = "APPLIED" ∧ 0 < record.quantity ∧
      record.lifecycleStatus = .resolved ∧ record.realizedR.isSome
  resolved.insertionSort fun first second =>
    let firstEnd := first.exitTimestamp.getD sessionEnd
    let secondEnd := second.exitTimestamp.getD sessionEnd
    firstEnd < secondEnd ∨ firstEnd = secondEnd ∧
      (first.simulatedEntryTimestamp < second.simulatedEntryTimestamp ∨
        first.simulatedEntryTimestamp = second.simulatedEntryTimestamp ∧
          first.replaySignalId ≤ second.replaySignalId)

/-- The events of all records, by their times, the ids of the signals and their kinds. -/
def chronologicalEvents (resolved : List AnalyticsRecord) (sessionEnd : Int) : List PnlEvent :=
  let events := resolved.flatMap fun record =>
    (executionPnlEvents record sessionEnd).map fun event => (record.replaySignalId, event)
  (events.insertionSort fun first second =>
    first.2.timestamp < second.2.timestamp ∨ first.2.timestamp = second.2.timestamp ∧
      (first.1 < second.1 ∨ first.1 = second.1 ∧ first.2.event ≤ second.2.event)).map Prod.snd

/-- `build_portfolio_metrics`, up to the equity curve. -/
def buildPortfolioMetrics (records : List AnalyticsRecord) (startingEquity : ℚ)
    (sessionStart sessionEnd : Int) : PortfolioMetrics :=
  let accepted := records.filter fun record =>
    record.sizingStatus = "APPLIED" ∧ 0 < record.quantity
  let resolved := resolvedRecords records sessionEnd
  let pnlComplete := decide (resolved.length = accepted.length) && resolved.all fun record =>
    record.simulatedNetPnl.isSome && record.simulatedGrossPnl.isSome
  let netTotal := roundTo 2 (resolved.filterMap fun record => record.simulatedNetPnl).sum
  { pnlComplete
    endingEquity := if pnlComplete then some (roundTo 2 (startingEquity + netTotal)) else none
    equityCurve := ⟨sessionStart, roundTo 2 startingEquity, 0, 0, "SESSION_START"⟩ ::
      equityPoints startingEquity 0 0
        (if pnlComplete then chronologicalEvents resolved sessionEnd else []) }

/-! ### Whole paise -/

theorem roundTo_mem_zmultiples (digits : Nat) (number : ℚ) :
    roundTo digits number ∈ AddSubgroup.zmultiples (1 / 10 ^ digits : ℚ) :=
  AddSubgroup.mem_zmultiples_iff.mpr ⟨roundHalfEven (number * 10 ^ digits), by
    rw [roundTo, zsmul_eq_mul]
    ring⟩

theorem roundTo_of_mem_zmultiples {digits : Nat} {number : ℚ}
    (whole : number ∈ AddSubgroup.zmultiples (1 / 10 ^ digits : ℚ)) :
    roundTo digits number = number := by
  obtain ⟨count, rfl⟩ := AddSubgroup.mem_zmultiples_iff.mp whole
  have scale : (10 : ℚ) ^ digits ≠ 0 := by positivity
  have scaled : count • (1 / 10 ^ digits : ℚ) * 10 ^ digits = (count : ℚ) := by
    rw [zsmul_eq_mul, mul_assoc, one_div_mul_cancel scale, mul_one]
  rw [roundTo, scaled, roundHalfEven_intCast, zsmul_eq_mul]
  ring

/-- The amounts in whole paise. -/
def paise : AddSubgroup ℚ := AddSubgroup.zmultiples (1 / 100)

theorem zmultiples_eq_paise : AddSubgroup.zmultiples (1 / 10 ^ 2 : ℚ) = paise := by
  rw [paise]
  norm_num

theorem roundTo_mem (number : ℚ) : roundTo 2 number ∈ paise :=
  zmultiples_eq_paise ▸ roundTo_mem_zmultiples 2 number

theorem roundTo_of_mem {number : ℚ} (whole : number ∈ paise) : roundTo 2 number = number :=
  roundTo_of_mem_zmultiples (zmultiples_eq_paise ▸ whole)

variable {total : ℚ} {record : AnalyticsRecord}

theorem settleLast_concat {last : ℚ} {values : List ℚ} (whole : total ∈ paise)
    (wholes : ∀ value ∈ values, value ∈ paise) :
    settleLast total (values ++ [last]) = values ++ [total - values.sum] := by
  have missing : last + total - (values ++ [last]).sum = total - values.sum := by
    rw [List.sum_append, List.sum_singleton]
    ring
  rw [settleLast, List.getLast?_concat]
  dsimp only
  rw [List.dropLast_concat, missing, roundTo_of_mem (sub_mem whole (list_sum_mem wholes))]

/-- What is settled comes to the total, in whole paise. -/
theorem settleLast_settles (values : List ℚ) (whole : total ∈ paise)
    (wholes : ∀ value ∈ values, value ∈ paise) (filled : values ≠ []) :
    (settleLast total values).sum = total ∧ (settleLast total values).length = values.length ∧
      ∀ value ∈ settleLast total values, value ∈ paise := by
  obtain ⟨before, last, rfl⟩ := List.eq_nil_or_concat' values |>.resolve_left filled
  have earlier : ∀ value ∈ before, value ∈ paise := fun value member =>
    wholes value (List.mem_append_left _ member)
  rw [settleLast_concat whole earlier]
  refine ⟨?_, by simp, fun value member => ?_⟩
  · rw [List.sum_append, List.sum_singleton]
    ring
  · rcases Stored.mem_concat.mp member with inside | rfl
    · exact earlier value inside
    · exact sub_mem whole (list_sum_mem earlier)

theorem allocateFrom_settles {totalWeight remaining : ℚ} {weights : List ℚ}
    (whole : remaining ∈ paise) (positive : ∃ weight ∈ weights, 0 < weight) :
    let shares := allocateFrom total totalWeight remaining weights
    shares.sum = remaining ∧ shares.length = weights.length ∧ ∀ share ∈ shares, share ∈ paise := by
  induction weights generalizing remaining with
  | nil => simp at positive
  | cons weight rest inductionHypothesis =>
    dsimp only [allocateFrom]
    split_ifs with counts others
    · obtain ⟨sum, length, wholes⟩ := inductionHypothesis
        (roundTo_mem (remaining - roundTo 2 (total * weight / totalWeight)))
        (by simpa using others)
      refine ⟨?_, congrArg Nat.succ length, List.forall_mem_cons.mpr ⟨roundTo_mem _, wholes⟩⟩
      rw [List.sum_cons, sum, roundTo_of_mem (sub_mem whole (roundTo_mem _))]
      ring
    · refine ⟨?_, by simp, List.forall_mem_cons.mpr ⟨roundTo_mem _, ?_⟩⟩
      · rw [List.sum_cons, List.sum_map_zero, add_zero, roundTo_of_mem whole]
      · intro share member
        obtain ⟨_, -, rfl⟩ := List.mem_map.mp member
        exact zero_mem paise
    · obtain ⟨other, member, above⟩ := positive
      have later := (List.mem_cons.mp member).resolve_left fun same => counts (same ▸ above)
      obtain ⟨sum, length, wholes⟩ := inductionHypothesis whole ⟨other, later, above⟩
      exact ⟨by rw [List.sum_cons, sum, zero_add], congrArg Nat.succ length,
        List.forall_mem_cons.mpr ⟨zero_mem paise, wholes⟩⟩

theorem sum_executionExitLegs (valid : executionExitLegs record ≠ []) : 0 < record.quantity ∧
      ((executionExitLegs record).map ExitLeg.quantity).sum = record.quantity := by
  unfold executionExitLegs at valid ⊢
  generalize record.exitLegs.bind (fun raw => raw.mapM (readLeg record)) = parsed at *
  cases parsed with
  | none => exact absurd rfl valid
  | some legs =>
    dsimp only at valid ⊢
    split_ifs at valid ⊢ with invalid
    · exact absurd rfl valid
    · obtain ⟨positive, sum⟩ := not_or.mp invalid
      exact ⟨not_le.mp positive, not_not.mp sum⟩

/-- The costs of the entry and the exits come to the costs of the record. -/
theorem orderCosts_settle (gross net entryFill : ℚ) (valid : executionExitLegs record ≠ []) :
    let legs := executionExitLegs record
    let costs := (executionCostAllocations record legs gross net entryFill).getD
      (0 :: allocateRoundedTotal (roundTo 2 (gross - net)) (legs.map fun leg => leg.quantity))
    costs.sum = roundTo 2 (gross - net) ∧ costs.length = legs.length + 1 ∧
      ∀ cost ∈ costs, cost ∈ paise := by
  dsimp only
  obtain ⟨positive, quantities⟩ := sum_executionExitLegs valid
  generalize executionExitLegs record = legs at *
  cases allocated : executionCostAllocations record legs gross net entryFill with
  | some costs =>
    unfold executionCostAllocations at allocated
    simp only [Option.bind_eq_bind, Option.bind_eq_some_iff, Option.pure_def] at allocated
    obtain ⟨_, -, _, -, _, -, _, -, _, -, _, -, isCosts⟩ := allocated
    cases isCosts
    refine (settleLast_settles _ (roundTo_mem _) ?_ (by simp)).imp_right fun settled =>
      ⟨settled.1.trans (by simp), settled.2⟩
    intro cost member
    obtain ⟨index, -, rfl⟩ := List.mem_map.mp member
    exact roundTo_mem _
  | none =>
    have weights : ∃ weight ∈ legs.map fun leg => (leg.quantity : ℚ), 0 < weight := by
      by_contra nonpos
      simp only [List.mem_map, not_exists, not_and, forall_exists_index, and_imp,
        forall_apply_eq_imp_iff₂, not_lt] at nonpos
      have sum : (legs.map ExitLeg.quantity).sum ≤ (legs.map fun _ => (0 : Int)).sum :=
        List.sum_le_sum fun leg member => by exact_mod_cast nonpos leg member
      rw [List.sum_map_zero, quantities] at sum
      exact absurd sum (not_le.mpr positive)
    obtain ⟨sum, length, wholes⟩ := allocateFrom_settles (roundTo_mem (roundTo 2 (gross - net)))
      weights
    rw [Option.getD_none]
    unfold allocateRoundedTotal
    rw [if_pos (by simpa using weights)]
    exact ⟨by rw [List.sum_cons, zero_add, sum, roundTo_roundTo], by simp [length],
      List.forall_mem_cons.mpr ⟨zero_mem paise, wholes⟩⟩

/-! ### Conservation -/

/-- The events of a record come to its economics, and close it once. -/
structure Conserves (record : AnalyticsRecord) (net gross : ℚ) (events : List PnlEvent) :
    Prop where
  netPnl : (events.map PnlEvent.netPnl).sum = net
  grossPnl : (events.map fun event => event.grossPnl.getD 0).sum = gross
  realizedR : (events.map PnlEvent.realizedRDelta).sum = record.realizedR.getD 0
  quantity : ((events.filter fun event => event.event ≠ "ENTRY_COST").map
    PnlEvent.quantity).sum = record.quantity
  once : (events.countP fun event => event.event = "TRADE_EXIT") = 1

theorem conserves_exitEvents (exits : List (ExitLeg × ℚ × ℚ)) (filled : exits ≠ [])
    (wholes : ∀ exit ∈ exits, exit.2.1 ∈ paise ∧ exit.2.2 ∈ paise)
    (quantities : (exits.map fun exit => exit.1.quantity).sum = record.quantity) :
    Conserves record ((exits.map fun exit => exit.2.1).sum - (exits.map fun exit => exit.2.2).sum)
      (exits.map fun exit => exit.2.1).sum (exitEvents (record.realizedR.getD 0) exits) := by
  have share : ∀ exit ∈ exits, roundTo 2 (exit.2.1 - exit.2.2) = exit.2.1 - exit.2.2 :=
    fun exit member => roundTo_of_mem (sub_mem (wholes exit member).1 (wholes exit member).2)
  obtain ⟨before, last, rfl⟩ := List.eq_nil_or_concat' exits |>.resolve_left filled
  have net : ∀ exits : List (ExitLeg × ℚ × ℚ), (exits.map fun exit => exit.2.1 - exit.2.2).sum =
      (exits.map fun exit => exit.2.1).sum - (exits.map fun exit => exit.2.2).sum := by
    intro exits
    induction exits with
    | nil => simp
    | cons exit rest inductionHypothesis =>
      simp only [List.map_cons, List.sum_cons, inductionHypothesis]
      ring
  have shares : before.map (fun exit => roundTo 2 (exit.2.1 - exit.2.2)) =
      before.map fun exit => exit.2.1 - exit.2.2 :=
    List.map_congr_left fun exit member => share exit (List.mem_append_left _ member)
  rw [exitEvents, List.getLast?_concat]
  constructor
  · rw [← net]
    simp [exitEvent, Function.comp_def, shares, share last (by simp)]
  · simp [exitEvent, Function.comp_def]
  · simp [exitEvent, Function.comp_def]
  · rw [← quantities]
    simp [exitEvent, Function.comp_def, List.filter_map]
  · simp [exitEvent, Function.comp_def, List.countP_map]

/-- The costs of the entry come before the exits. -/
theorem conserves_withEntry {events : List PnlEvent} {net gross entryCost : ℚ}
    (whole : entryCost ∈ paise) (conserves : Conserves record net gross events) :
    Conserves record (net - entryCost) gross ((if entryCost = 0 then []
        else
          [⟨record.simulatedEntryTimestamp, "ENTRY_COST", record.quantity, some 0, some entryCost,
            roundTo 2 (-entryCost), 0, "ENTRY_TRANSACTION_COSTS"⟩]) ++ events) := by
  obtain ⟨netPnl, grossPnl, realizedR, quantity, once⟩ := conserves
  split_ifs with free
  · rw [free, sub_zero]
    exact ⟨netPnl, grossPnl, realizedR, quantity, once⟩
  · rw [roundTo_of_mem (neg_mem whole)]
    refine ⟨?_, by simpa using grossPnl, by simpa using realizedR, by simpa using quantity,
      by simpa using once⟩
    rw [List.singleton_append, List.map_cons, List.sum_cons, netPnl]
    ring

/-- The legs with their shares of what was realized and of the costs. -/
theorem conserves_legs {legs : List ExitLeg} {grossValues exitCosts : List ℚ} (filled : legs ≠ [])
    (grossLength : grossValues.length = legs.length) (costLength : exitCosts.length = legs.length)
    (grossWhole : ∀ value ∈ grossValues, value ∈ paise)
    (costWhole : ∀ cost ∈ exitCosts, cost ∈ paise)
    (quantities : (legs.map ExitLeg.quantity).sum = record.quantity) :
    Conserves record (grossValues.sum - exitCosts.sum) grossValues.sum
      (exitEvents (record.realizedR.getD 0) (legs.zip (grossValues.zip exitCosts))) := by
  have zipped : (grossValues.zip exitCosts).length = legs.length := by
    rw [List.length_zip, grossLength, costLength, min_self]
  have exits : (legs.zip (grossValues.zip exitCosts)).map Prod.fst = legs :=
    List.map_fst_zip zipped.ge
  have shares : (legs.zip (grossValues.zip exitCosts)).map Prod.snd = grossValues.zip exitCosts :=
    List.map_snd_zip zipped.le
  have grosses : (legs.zip (grossValues.zip exitCosts)).map (fun exit => exit.2.1) =
      grossValues :=
    List.map_map.symm.trans <| (congrArg (List.map Prod.fst) shares).trans <|
      List.map_fst_zip (grossLength.trans costLength.symm).le
  have costs : (legs.zip (grossValues.zip exitCosts)).map (fun exit => exit.2.2) = exitCosts :=
    List.map_map.symm.trans <| (congrArg (List.map Prod.snd) shares).trans <|
      List.map_snd_zip (grossLength.trans costLength.symm).ge
  have sold : ((legs.zip (grossValues.zip exitCosts)).map fun exit => exit.1.quantity).sum =
      record.quantity :=
    (congrArg List.sum <| List.map_map.symm.trans <|
      congrArg (List.map ExitLeg.quantity) exits).trans quantities
  have conserved := conserves_exitEvents _
    (fun empty => filled (exits.symm.trans (congrArg (List.map Prod.fst) empty)))
    (fun exit member =>
      have inside := List.of_mem_zip (List.of_mem_zip member).2
      ⟨grossWhole _ inside.1, costWhole _ inside.2⟩) sold
  rwa [grosses, costs] at conserved

theorem conserves_executionPnlEvents (sessionEnd : Int) {net gross : ℚ}
    (hasNet : record.simulatedNetPnl = some net) (hasGross : record.simulatedGrossPnl = some gross)
    (netWhole : net ∈ paise) (grossWhole : gross ∈ paise) :
    Conserves record net gross (executionPnlEvents record sessionEnd) := by
  have costs : roundTo 2 (gross - net) = gross - net := roundTo_of_mem (sub_mem grossWhole netWhole)
  unfold executionPnlEvents
  rw [hasNet, hasGross]
  dsimp only
  split
  · contradiction
  · rename_i entryFill leg rest isNet isGross isFill isLegs
    cases isNet
    cases isGross
    have valid : executionExitLegs record ≠ [] := isLegs ▸ List.cons_ne_nil _ _
    obtain ⟨-, quantities⟩ := sum_executionExitLegs valid
    obtain ⟨costSum, costLength, costWhole⟩ :=
      orderCosts_settle gross net entryFill valid
    generalize executionExitLegs record = legs at *
    generalize (executionCostAllocations record legs gross net entryFill).getD
      (0 :: allocateRoundedTotal (roundTo 2 (gross - net)) (legs.map fun leg => leg.quantity)) =
      orderCosts at *
    obtain ⟨grossSum, grossLength, grossWholes⟩ := settleLast_settles
      (legs.map fun leg => roundTo 2 ((leg.executablePrice - entryFill) * leg.quantity))
      grossWhole (by simp [roundTo_mem]) (by simpa using valid)
    cases orderCosts with
    | nil => simp at costLength
    | cons entryCost exitCosts =>
      obtain ⟨entryWhole, exitWhole⟩ := List.forall_mem_cons.mp costWhole
      have conserved := conserves_withEntry entryWhole (conserves_legs valid
        (grossLength.trans (List.length_map ..)) (Nat.succ.inj costLength) grossWholes exitWhole
        quantities)
      rw [grossSum, sub_sub, add_comm exitCosts.sum, ← List.sum_cons, costSum, costs,
        sub_sub_cancel] at conserved
      exact conserved
  · rename_i same _
    cases same
    exact ⟨by simp, by simp, by simp, by simp, by simp⟩

/-! ### The curve -/

theorem getLast_equityPoints (startingEquity r pnl : ℚ) (first : EquityPoint)
    (starts : first.equity = roundTo 2 (startingEquity + pnl)) (events : List PnlEvent) :
    ∃ last, (first :: equityPoints startingEquity pnl r events).getLast? = some last ∧
      last.equity = roundTo 2 (startingEquity + (pnl + (events.map PnlEvent.netPnl).sum)) := by
  induction events generalizing first pnl r with
  | nil => exact ⟨first, rfl, by simpa using starts⟩
  | cons event rest inductionHypothesis =>
    rw [equityPoints, List.getLast?_cons_cons, List.map_cons, List.sum_cons, ← add_assoc pnl]
    exact inductionHypothesis _ _ _ rfl

/-- The recorded results, in whole paise. -/
def InPaise (record : AnalyticsRecord) : Prop :=
  ∀ amount, amount ∈ record.simulatedNetPnl ∨ amount ∈ record.simulatedGrossPnl → amount ∈ paise

theorem sum_chronologicalEvents (resolved : List AnalyticsRecord) (sessionEnd : Int)
    (wholes : ∀ record ∈ resolved, InPaise record)
    (complete : ∀ record ∈ resolved,
      record.simulatedNetPnl.isSome ∧ record.simulatedGrossPnl.isSome) :
    ((chronologicalEvents resolved sessionEnd).map PnlEvent.netPnl).sum =
        (resolved.filterMap fun record => record.simulatedNetPnl).sum ∧
      (resolved.filterMap fun record => record.simulatedNetPnl).sum ∈ paise := by
  constructor
  · rw [chronologicalEvents, (((List.perm_insertionSort _ _).map _).map _).sum_eq]
    induction resolved with
    | nil => rfl
    | cons record rest inductionHypothesis =>
      obtain ⟨whole, others⟩ := List.forall_mem_cons.mp wholes
      obtain ⟨⟨hasNet, hasGross⟩, completes⟩ := List.forall_mem_cons.mp complete
      obtain ⟨net, isNet⟩ := Option.isSome_iff_exists.mp hasNet
      obtain ⟨gross, isGross⟩ := Option.isSome_iff_exists.mp hasGross
      have conserves := conserves_executionPnlEvents sessionEnd isNet isGross
        (whole net (.inl isNet)) (whole gross (.inr isGross))
      rw [List.flatMap_cons, List.map_append, List.map_append, List.sum_append,
        inductionHypothesis others completes, List.map_map, List.map_map,
        List.filterMap_cons_some (f := fun record : AnalyticsRecord => record.simulatedNetPnl)
          isNet, List.sum_cons]
      exact congrArg (· + _) conserves.netPnl
  · refine list_sum_mem fun amount member => ?_
    obtain ⟨record, inside, isNet⟩ := List.mem_filterMap.mp member
    exact wholes record inside amount (.inl isNet)

end BreezeTrading.ReplayAnalytics
