/-
This file models the headline risk figures of the replay: the drawdown in R and the longest streak
of losses, as the lifecycle report and the portfolio metrics report them. It proves that they are
those of the trades in the order of their exits, the drawdown rounded to four digits.
-/

import BreezeTrading.Lib.SinglePass
import BreezeTrading.Lib.StableSort
import BreezeTrading.Strategy.ReplayAnalytics
import Mathlib.Data.Prod.Lex
import Mathlib.Data.String.Basic

namespace BreezeTrading.ReplayAnalytics

open SinglePass

/-! ### Figures -/

/-- `_drawdown` of the analytics. -/
def drawdown (values : List ℚ) : ℚ := roundTo 4 (values.foldl Equity.add .start).worst

/-- `_max_drawdown_r` of the lifecycle report. -/
def maxDrawdownR (rs : List ℚ) : ℚ := roundTo 4 (rs.foldl Equity.add .start).worst

def maxConsecutiveLosses (rs : List ℚ) : Nat := (rs.foldl (Streak.next (· < 0)) ⟨0, 0⟩).best

structure Streaks where
  maxWins : Nat
  maxLosses : Nat
  currentWins : Nat
  currentLosses : Nat

def Streaks.next (streaks : Streaks) (value : ℚ) : Streaks :=
  if 0 < value then
    { streaks with
      currentWins := streaks.currentWins + 1
      currentLosses := 0
      maxWins := max streaks.maxWins (streaks.currentWins + 1) }
  else if value < 0 then
    { streaks with
      currentLosses := streaks.currentLosses + 1
      currentWins := 0
      maxLosses := max streaks.maxLosses (streaks.currentLosses + 1) }
  else { streaks with currentWins := 0, currentLosses := 0 }

/-- The most wins and the most losses in a row. -/
def streaks (values : List ℚ) : Nat × Nat :=
  let last := values.foldl Streaks.next ⟨0, 0, 0, 0⟩
  (last.maxWins, last.maxLosses)

/-! ### Reports -/

/-- By the exits, the entries and the ids. -/
def exitOrder (exitTime : AnalyticsRecord → Int) (first second : AnalyticsRecord) : Prop :=
  exitTime first < exitTime second ∨ exitTime first = exitTime second ∧
    (first.simulatedEntryTimestamp < second.simulatedEntryTimestamp ∨
      first.simulatedEntryTimestamp = second.simulatedEntryTimestamp ∧
        first.replaySignalId ≤ second.replaySignalId)

instance (exitTime : AnalyticsRecord → Int) : DecidableRel (exitOrder exitTime) :=
  fun _ _ => inferInstanceAs (Decidable (_ ∨ _))

def rValues (rows : List AnalyticsRecord) : List ℚ := rows.map fun row => row.realizedR.getD 0

/-- `_trade_rows`: the records that have resolved with an R. -/
def tradeRows (records : List AnalyticsRecord) : List AnalyticsRecord :=
  records.filter fun record => record.lifecycleStatus = .resolved ∧ record.realizedR.isSome

structure LifecycleRisk where
  maxDrawdownR : ℚ
  maxConsecutiveLosses : Nat

/-- The exit of a row, or its entry if there is none. -/
def exitOrEntry (row : AnalyticsRecord) : Int :=
  row.exitTimestamp.getD row.simulatedEntryTimestamp

/-- `_basic` of trade rows. -/
def basic (rows : List AnalyticsRecord) : LifecycleRisk :=
  let rs := rValues (rows.insertionSort (exitOrder exitOrEntry))
  ⟨maxDrawdownR rs, maxConsecutiveLosses rs⟩

structure PortfolioRisk where
  maxDrawdownR : Option ℚ
  maxConsecutiveWins : Nat
  maxConsecutiveLosses : Nat

def acceptedRecords (records : List AnalyticsRecord) : List AnalyticsRecord :=
  records.filter fun record => record.sizingStatus = "APPLIED" ∧ 0 < record.quantity

/-- `build_portfolio_metrics`: no figures unless all accepted records have resolved. -/
def portfolioRisk (records : List AnalyticsRecord) (sessionEnd : Int) : PortfolioRisk :=
  let resolved := resolvedRecords records sessionEnd
  if resolved.length = (acceptedRecords records).length then
    let longest := streaks (rValues resolved)
    ⟨some (drawdown (rValues resolved)), longest.1, longest.2⟩
  else ⟨none, 0, 0⟩

/-! ### Drops -/

variable {values : List ℚ}

/-- What the cumulative value loses from after `earlier` trades to after `later` ones. -/
def drops (values : List ℚ) : Set ℚ :=
  {drop | ∃ earlier later, earlier ≤ later ∧ later ≤ values.length ∧
    drop = (values.take earlier).sum - (values.take later).sum}

/-- A drawdown is the greatest drop, negated and rounded. -/
def IsDrawdown (values : List ℚ) (reported : ℚ) : Prop :=
  ∃ deepest, IsGreatest (drops values) deepest ∧ reported = roundTo 4 (-deepest)

theorem mem_drops_iff {drop : ℚ} : drop ∈ drops values ↔ -drop ∈ falls values := by
  rw [mem_falls_iff]
  simp only [drops, Set.mem_ofPred_eq, neg_eq_iff_eq_neg, neg_sub]

theorem isGreatest_drops (values : List ℚ) :
    IsGreatest (drops values) (-(values.foldl Equity.add .start).worst) := by
  obtain ⟨member, least⟩ := (describes_foldl values).worst
  constructor
  · rwa [mem_drops_iff, neg_neg]
  · intro drop isDrop
    exact le_neg_of_le_neg (least (mem_drops_iff.mp isDrop))

theorem isDrawdown (values : List ℚ) : IsDrawdown values (drawdown values) :=
  ⟨_, isGreatest_drops values, by rw [neg_neg, drawdown]⟩

theorem drawdown_nonpos (values : List ℚ) : drawdown values ≤ 0 := by
  have nonneg : 0 ≤ -(values.foldl Equity.add .start).worst :=
    (isGreatest_drops values).2 ⟨0, 0, le_rfl, Nat.zero_le _, by simp⟩
  calc drawdown values ≤ roundTo 4 0 := roundTo_mono 4 (neg_nonneg.mp nonneg)
    _ = 0 := by decide +kernel

/-- Sums of values of four digits have four digits. -/
theorem drawdown_exact (digits : ∀ value ∈ values, roundTo 4 value = value) :
    IsGreatest (drops values) (-drawdown values) := by
  have greatest := isGreatest_drops values
  obtain ⟨earlier, later, -, -, isDrop⟩ := greatest.1
  have whole : ∀ count, (values.take count).sum ∈ AddSubgroup.zmultiples (1 / 10 ^ 4 : ℚ) :=
    fun count => list_sum_mem fun value member =>
      digits value (List.mem_of_mem_take member) ▸ roundTo_mem_zmultiples 4 value
  have deepest : (values.foldl Equity.add .start).worst ∈ AddSubgroup.zmultiples (1 / 10 ^ 4 : ℚ) :=
    neg_mem_iff.mp (isDrop ▸ sub_mem (whole earlier) (whole later))
  rwa [drawdown, roundTo_of_mem_zmultiples deepest]

/-! ### Streaks -/

def Streaks.losses (streaks : Streaks) : Streak := ⟨streaks.maxLosses, streaks.currentLosses⟩

theorem Streaks.losses_next (streaks : Streaks) (value : ℚ) :
    (streaks.next value).losses = streaks.losses.next (· < 0) value := by
  unfold Streaks.next Streak.next
  split_ifs with wins loses
  · exact absurd loses wins.not_gt
  · rfl
  · rfl
  · rfl

/-- The portfolio metrics count losses as the lifecycle report does. -/
theorem streaks_losses (values : List ℚ) : (streaks values).2 = maxConsecutiveLosses values :=
  congrArg Streak.best (List.foldl_hom Streaks.losses fun streaks value =>
    (streaks.losses_next value).symm).symm

theorem isGreatest_maxConsecutiveLosses (values : List ℚ) :
    IsGreatest (runs (· < 0) values) (maxConsecutiveLosses values) :=
  (isGreatest_foldl (· < 0) values).1

/-! ### Exit order -/

/-- The figures are those of the trades in the order of their exits. -/
def Headline (exitTime : AnalyticsRecord → Int) (trades : List AnalyticsRecord)
    (reported : ℚ) (losses : Nat) : Prop :=
  ∃ ordered, ordered.Perm trades ∧
    ordered.Pairwise (fun first second => exitTime first ≤ exitTime second) ∧
    IsDrawdown (rValues ordered) reported ∧ IsGreatest (runs (· < 0) (rValues ordered)) losses

def exitKey (exitTime : AnalyticsRecord → Int) (record : AnalyticsRecord) : Int ×ₗ Int ×ₗ String :=
  toLex (exitTime record, toLex (record.simulatedEntryTimestamp, record.replaySignalId))

theorem exitOrder_iff (exitTime : AnalyticsRecord → Int) (first second : AnalyticsRecord) :
    exitOrder exitTime first second ↔ exitKey exitTime first ≤ exitKey exitTime second := by
  unfold exitKey
  rw [Prod.Lex.toLex_le_toLex, Prod.Lex.toLex_le_toLex]
  rfl

theorem headline (exitTime : AnalyticsRecord → Int) (trades : List AnalyticsRecord) :
    let rs := rValues (trades.insertionSort (exitOrder exitTime))
    Headline exitTime trades (drawdown rs) (maxConsecutiveLosses rs) := by
  have := StableSort.total_of_key (exitOrder_iff exitTime)
  have := StableSort.trans_of_key (exitOrder_iff exitTime)
  refine ⟨_, List.perm_insertionSort _ trades, ?_, isDrawdown _, isGreatest_maxConsecutiveLosses _⟩
  exact (List.pairwise_insertionSort (exitOrder exitTime) trades).imp fun ordered =>
    ordered.elim le_of_lt fun same => same.1.le

/-- Where as many records have resolved as were accepted, they are the accepted ones. -/
theorem resolvedRecords_of_complete {records : List AnalyticsRecord} {sessionEnd : Int}
    (complete : (resolvedRecords records sessionEnd).length = (acceptedRecords records).length) :
    resolvedRecords records sessionEnd = (acceptedRecords records).insertionSort
      (exitOrder fun record => record.exitTimestamp.getD sessionEnd) := by
  unfold resolvedRecords at complete ⊢
  rw [List.length_insertionSort] at complete
  refine congrArg (List.insertionSort (exitOrder _)) (List.Sublist.eq_of_length
    (List.monotone_filter_right records fun record kept => ?_) complete)
  simp only [decide_eq_true_eq] at kept ⊢
  exact ⟨kept.1, kept.2.1⟩

end BreezeTrading.ReplayAnalytics
