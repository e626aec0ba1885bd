/-
This file proves that the lifecycle of Strategy D is stable under more data: a closed position is
closed in the same way by every longer list of bars. It also proves what a result says of the
position: its value before rounding, and the runner within its excursions.
-/

import BreezeTrading.Strategy.Rounding
import BreezeTrading.Strategy.SrMomentumBreakout

namespace BreezeTrading.StrategyDPositionManager

open EarlyReturn

/-! ### What a candle does -/

section Candle

variable (config : StrategyDConfig) (signal : StrategyDSignal) (runner : StrategyDRunner)
  (ambiguous : String) (bar : Candle)

/-- The position after the excursions of a candle. -/
def tracked : StrategyDRunner := updateExcursions signal runner bar

/-- The position after a candle scaled out half of it. -/
def scaled : StrategyDRunner := scaleOut config signal (tracked signal runner bar) bar

/-- What a candle can do to a position. -/
inductive CandleStep : Except StrategyDLifecycleResult StrategyDRunner → Prop
  | stopped (reason : String) (hit : stopHit signal bar runner.stop = true) :
      CandleStep (.error (result config signal (tracked signal runner bar) bar
        (stopFill signal bar runner.stop) reason))
  | spanned (fresh : runner.scaleTime = none)
      (spans : stopHit signal bar signal.entryPrice = true) :
      CandleStep (.error (result config signal (scaled config signal runner bar) bar
        signal.entryPrice ambiguous))
  | pivotAfter (reason : String) (price : ℚ) (known : signal.nextPivotPrice = some price)
      (reached : targetHit signal bar price = true) :
      CandleStep (.error (result config signal (tracked signal runner bar) bar price reason))
  | pivotAtOnce (fresh : runner.scaleTime = none) (reason : String) (price : ℚ)
      (known : signal.nextPivotPrice = some price)
      (reached : targetHit signal bar price = true) :
      CandleStep (.error (result config signal (scaled config signal runner bar) bar price reason))
  | carried : CandleStep (.ok (tracked signal runner bar))
  | scaledOut (fresh : runner.scaleTime = none) :
      CandleStep (.ok (scaled config signal runner bar))

theorem pivotExit_eq (bar : Candle) :
    (∃ price, signal.nextPivotPrice = some price ∧ targetHit signal bar price = true ∧
        pivotExit config signal runner bar = .error (result config signal runner bar price
          ("NEXT_PIVOT_" ++ signal.nextPivotName.getD "None"))) ∨
      pivotExit config signal runner bar = .ok runner := by
  unfold pivotExit pivotHit
  cases known : signal.nextPivotPrice with
  | none => exact .inr rfl
  | some price =>
    cases reached : targetHit signal bar price with
    | true =>
      refine .inl ⟨price, rfl, reached, ?_⟩
      simp [reached]
    | false =>
      refine .inr ?_
      simp [reached]

theorem orderCandle_step :
    CandleStep config signal runner ambiguous bar
      (orderCandle config signal runner ambiguous bar) := by
  let step := CandleStep config signal runner ambiguous bar
  unfold orderCandle
  dsimp only
  split
  · rename_i unscaled
    have fresh : runner.scaleTime = none := unscaled
    split
    · rename_i hit
      exact .stopped "ATR_HARD_STOP" hit
    split
    · split
      · rename_i spans
        exact .spanned fresh spans
      · rcases pivotExit_eq config signal (scaled config signal runner bar) bar with
          ⟨price, known, reached, exits⟩ | stays
        · exact (congrArg step exits).mpr (.pivotAtOnce fresh _ price known reached)
        · exact (congrArg step stays).mpr (.scaledOut fresh)
    · exact .carried
  · split
    · rename_i hit
      exact .stopped "BREAKEVEN_STOP" hit
    · rcases pivotExit_eq config signal (tracked signal runner bar) bar with
        ⟨price, known, reached, exits⟩ | stays
      · exact (congrArg step exits).mpr (.pivotAfter _ price known reached)
      · exact (congrArg step stays).mpr .carried

end Candle

/-! ### The loops -/

section Loops

variable (config : StrategyDConfig) (signal : StrategyDSignal)
  {holds after : StrategyDRunner → Prop} {gives : StrategyDLifecycleResult → Prop}

/-- The candles that order the events inside a bar. -/
def orderedBy (minutes : List Candle) (bar : Candle) : List Candle :=
  if minutes = [] then [bar] else minutes

theorem orderEvents_eq_loop (runner : StrategyDRunner) (minutes : List Candle) (bar : Candle) :
    ∃ ambiguous, orderEvents config signal runner minutes bar =
      loop (fun state => orderCandle config signal state ambiguous) runner
        (orderedBy minutes bar) := by
  unfold orderEvents orderedBy
  split_ifs
  · exact ⟨"BREAKEVEN_STOP_5M_AMBIGUOUS", (loop_singleton _ runner bar).symm⟩
  · exact ⟨"BREAKEVEN_STOP_1M_AMBIGUOUS", rfl⟩

theorem orderEvents_outcome {minutes : List Candle} {bar : Candle}
    (candles : ∀ candle ∈ orderedBy minutes bar, ∀ ambiguous runner, holds runner →
      Outcome holds gives (orderCandle config signal runner ambiguous candle))
    {runner : StrategyDRunner} (held : holds runner) :
    Outcome holds gives (orderEvents config signal runner minutes bar) := by
  obtain ⟨ambiguous, isLoop⟩ := orderEvents_eq_loop config signal runner minutes bar
  rw [isLoop]
  exact loop_outcome (fun candle member state => candles candle member ambiguous state) held

theorem closeBar_eq (runner : StrategyDRunner) (bar : Candle) :
    let counted := { runner with closes := runner.closes ++ [bar.close] }
    (∃ reason, closeBar config signal runner bar =
        .error (result config signal counted bar bar.close reason)) ∨
      closeBar config signal runner bar = .ok counted := by
  unfold closeBar
  split_ifs
  · exact .inl ⟨_, rfl⟩
  · exact .inl ⟨_, rfl⟩
  · exact .inr rfl

theorem advanceBar_outcome {oneMinuteBars : List MarketCandle} {runner : StrategyDRunner}
    {bar : MarketCandle} (held : holds runner)
    (ordered : isPostEntry signal bar = true → Outcome after gives
      (orderEvents config signal { runner with lastBar := some bar.toCandle }
        (completeMinutes bar oneMinuteBars) bar.toCandle))
    (completed : ∀ state, after state →
      let counted := { state with closes := state.closes ++ [bar.close] }
      holds counted ∧
        ∀ reason, gives (result config signal counted bar.toCandle bar.close reason)) :
    Outcome holds gives (advanceBar config signal oneMinuteBars runner bar) := by
  unfold advanceBar
  split_ifs with reads
  · have events := ordered reads
    dsimp only
    generalize orderEvents config signal { runner with lastBar := some bar.toCandle }
      (completeMinutes bar oneMinuteBars) bar.toCandle = outcome at events ⊢
    cases outcome with
    | error closed => exact events
    | ok state =>
      rcases closeBar_eq config signal state bar.toCandle with ⟨reason, closes⟩ | stays
      · dsimp only
        rw [closes]
        exact (completed state events).2 reason
      · dsimp only
        rw [stays]
        exact (completed state events).1
  · exact held

end Loops

/-! ### Accounts -/

section Accounts

variable (config : StrategyDConfig) (signal : StrategyDSignal)

/-- What is realized, and what remains, of a position before and after it is scaled out. -/
def Accounted (runner : StrategyDRunner) : Prop :=
  if runner.scaleTime.isSome = true then
    runner.realizedComponent = config.scaleOutFraction * config.scaleOutR ∧
      runner.remainingFraction = 1 - config.scaleOutFraction
  else runner.realizedComponent = 0 ∧ runner.remainingFraction = 1

/-- The realized R is the R of the scale-out and of the runner, before both are rounded. -/
def RealizesRunner (result : StrategyDLifecycleResult) : Prop :=
  ∃ exact : ℚ, result.runnerR = roundTo 6 exact ∧
    result.realizedR = roundTo 6 (if result.scaleOutTime.isSome = true then
      config.scaleOutFraction * config.scaleOutR + (1 - config.scaleOutFraction) * exact
      else exact)

variable {config} {runner : StrategyDRunner}

section

variable (accounted : Accounted config runner)

include accounted

theorem Accounted.result (bar : Candle) (price : ℚ) (reason : String) :
    RealizesRunner config (result config signal runner bar price reason) := by
  refine ⟨r signal price, rfl, ?_⟩
  show roundTo 6 (runner.realizedComponent + runner.remainingFraction * r signal price) =
    roundTo 6 (if runner.scaleTime.isSome = true then _ else _)
  unfold Accounted at accounted
  split_ifs at accounted ⊢ with isScaled
  · rw [accounted.1, accounted.2]
  · rw [accounted.1, accounted.2, zero_add, one_mul]

theorem Accounted.orderCandle (ambiguous : String) (bar : Candle) :
    Outcome (Accounted config) (RealizesRunner config)
      (orderCandle config signal runner ambiguous bar) := by
  have trackedAccounted : Accounted config (tracked signal runner bar) := accounted
  have scaledAccounted : Accounted config (scaled config signal runner bar) := ⟨rfl, rfl⟩
  have step := orderCandle_step config signal runner ambiguous bar
  generalize StrategyDPositionManager.orderCandle config signal runner ambiguous bar = outcome
    at step ⊢
  cases step with
  | stopped reason hit => exact trackedAccounted.result signal bar _ reason
  | spanned fresh spans => exact scaledAccounted.result signal bar _ ambiguous
  | pivotAfter reason price known reached => exact trackedAccounted.result signal bar price reason
  | pivotAtOnce fresh reason price known reached =>
    exact scaledAccounted.result signal bar price reason
  | carried => exact trackedAccounted
  | scaledOut fresh => exact scaledAccounted

theorem Accounted.advanceBar (oneMinuteBars : List MarketCandle) (bar : MarketCandle) :
    Outcome (Accounted config) (RealizesRunner config)
      (advanceBar config signal oneMinuteBars runner bar) := by
  have opened : Accounted config { runner with lastBar := some bar.toCandle } := accounted
  have ordered : Outcome (Accounted config) (RealizesRunner config)
      (orderEvents config signal { runner with lastBar := some bar.toCandle }
        (completeMinutes bar oneMinuteBars) bar.toCandle) :=
    orderEvents_outcome config signal
      (fun candle _ ambiguous state held => held.orderCandle signal ambiguous candle) opened
  refine advanceBar_outcome config signal accounted (fun _ => ordered) fun state held => ?_
  have counted : Accounted config { state with closes := state.closes ++ [bar.close] } := held
  exact ⟨counted, fun reason => counted.result signal bar.toCandle bar.close reason⟩

end

end Accounts

/-! ### Excursions -/

section Excursions

variable {config : StrategyDConfig} {signal : StrategyDSignal}

/-- A signal with a risk, whose next pivot is not short of its entry. -/
structure SoundSignal (signal : StrategyDSignal) : Prop where
  risk : 0 < signal.riskPoints
  pivot : ∀ price ∈ signal.nextPivotPrice, 0 ≤ r signal price

/-- A price between the low and the high of a candle. -/
def InRange (candle : Candle) (price : ℚ) : Prop := candle.low ≤ price ∧ price ≤ candle.high

/-- The candles that order a bar open between their lows and highs, and one of them spans the
close of the bar. -/
structure Charted (minutes : List Candle) (bar : Candle) : Prop where
  opens : ∀ candle ∈ orderedBy minutes bar, InRange candle candle.openPrice
  closes : ∃ candle ∈ orderedBy minutes bar, InRange candle bar.close

theorem Charted.alone {bar : Candle} (opens : InRange bar bar.openPrice)
    (closes : InRange bar bar.close) : Charted [] bar := by
  refine ⟨fun candle member => ?_, bar, List.mem_cons_self, closes⟩
  obtain rfl := List.mem_singleton.mp member
  exact opens

instance (candle : Candle) (price : ℚ) : Decidable (InRange candle price) :=
  inferInstanceAs (Decidable (_ ∧ _))

/-- A price is within the excursions of a position. -/
def Within (signal : StrategyDSignal) (runner : StrategyDRunner) (price : ℚ) : Prop :=
  runner.maeR ≤ r signal price ∧ r signal price ≤ runner.mfeR

/-- The excursions of a position start from its entry. -/
def Started (runner : StrategyDRunner) : Prop := runner.maeR ≤ 0 ∧ 0 ≤ runner.mfeR

/-- The runner is closed within the excursions. -/
def ClosesWithin (result : StrategyDLifecycleResult) : Prop :=
  result.maeR ≤ result.runnerR ∧ result.runnerR ≤ result.mfeR

instance (result : StrategyDLifecycleResult) : Decidable (ClosesWithin result) :=
  inferInstanceAs (Decidable (_ ∧ _))

theorem Within.result {runner : StrategyDRunner} {price : ℚ} (within : Within signal runner price)
    (bar : Candle) (reason : String) :
    ClosesWithin (result config signal runner bar price reason) :=
  ⟨roundTo_mono 6 within.1, roundTo_mono 6 within.2⟩

theorem r_entry (signal : StrategyDSignal) : r signal signal.entryPrice = 0 := by
  unfold r favorablePoints
  split_ifs <;> simp

theorem r_between (risk : 0 < signal.riskPoints) {candle : Candle} {price : ℚ}
    (inRange : InRange candle price) :
    min (r signal candle.high) (r signal candle.low) ≤ r signal price ∧
      r signal price ≤ max (r signal candle.high) (r signal candle.low) := by
  have scales : ∀ {first second : ℚ}, first ≤ second →
      first / signal.riskPoints ≤ second / signal.riskPoints :=
    fun le => div_le_div_of_nonneg_right le risk.le
  unfold r favorablePoints
  split_ifs
  · exact ⟨min_le_of_right_le (scales (sub_le_sub_right inRange.1 _)),
      le_max_of_le_left (scales (sub_le_sub_right inRange.2 _))⟩
  · exact ⟨min_le_of_left_le (scales (sub_le_sub_left inRange.2 _)),
      le_max_of_le_right (scales (sub_le_sub_left inRange.1 _))⟩

variable {runner : StrategyDRunner} {candle : Candle} {price : ℚ}

theorem within_tracked (risk : 0 < signal.riskPoints) (inRange : InRange candle price) :
    Within signal (tracked signal runner candle) price :=
  ⟨min_le_of_right_le (r_between risk inRange).1, le_max_of_le_right (r_between risk inRange).2⟩

theorem Within.tracked (within : Within signal runner price) (candle : Candle) :
    Within signal (tracked signal runner candle) price :=
  ⟨min_le_of_left_le within.1, le_max_of_le_left within.2⟩

theorem Started.tracked (started : Started runner) (candle : Candle) :
    Started (tracked signal runner candle) :=
  ⟨min_le_of_left_le started.1, le_max_of_le_left started.2⟩

theorem Started.entry (started : Started runner) : Within signal runner signal.entryPrice := by
  unfold Within
  rw [r_entry]
  exact started

theorem stopFill_inRange (opens : InRange candle candle.openPrice) {stop : ℚ}
    (hit : stopHit signal candle stop = true) : InRange candle (stopFill signal candle stop) := by
  unfold stopFill gapsBeyond
  unfold stopHit ReplayIntrabar.stopHit hitsStop at hit
  split_ifs at hit ⊢ with isBullish gap gap
  · exact opens
  · exact ⟨of_decide_eq_true hit, (not_lt.mp (by simpa using gap)).trans opens.2⟩
  · exact opens
  · exact ⟨opens.1.trans (not_lt.mp (by simpa using gap)), of_decide_eq_true hit⟩

theorem within_of_targetHit (sound : SoundSignal signal) (started : Started runner)
    (known : signal.nextPivotPrice = some price) (opens : InRange candle candle.openPrice)
    (reached : targetHit signal candle price = true) :
    Within signal (tracked signal runner candle) price := by
  have favorable := sound.pivot price known
  have extreme : ∃ best, InRange candle best ∧ r signal price ≤ r signal best := by
    unfold targetHit ReplayIntrabar.levelHit ReplayIntrabar.reachesLevel at reached
    unfold r favorablePoints
    split_ifs at reached ⊢
    · exact ⟨candle.high, ⟨opens.1.trans opens.2, le_rfl⟩, div_le_div_of_nonneg_right
        (sub_le_sub_right (of_decide_eq_true reached) _) sound.risk.le⟩
    · exact ⟨candle.low, ⟨le_rfl, opens.1.trans opens.2⟩, div_le_div_of_nonneg_right
        (sub_le_sub_left (of_decide_eq_true reached) _) sound.risk.le⟩
  obtain ⟨best, inRange, le⟩ := extreme
  exact ⟨(started.tracked candle).1.trans favorable, le.trans (within_tracked sound.risk inRange).2⟩

theorem Started.orderCandle (sound : SoundSignal signal) (started : Started runner)
    (opens : InRange candle candle.openPrice) (ambiguous : String) :
    Outcome Started ClosesWithin (orderCandle config signal runner ambiguous candle) := by
  have later : Started (StrategyDPositionManager.tracked signal runner candle) :=
    started.tracked candle
  have laterScaled : Started (scaled config signal runner candle) := later
  have step := orderCandle_step config signal runner ambiguous candle
  generalize StrategyDPositionManager.orderCandle config signal runner ambiguous candle = outcome
    at step ⊢
  cases step with
  | stopped reason hit =>
    exact (within_tracked sound.risk (stopFill_inRange opens hit)).result candle reason
  | spanned fresh spans => exact laterScaled.entry.result candle ambiguous
  | pivotAfter reason price known reached =>
    exact (within_of_targetHit sound started known opens reached).result candle reason
  | pivotAtOnce fresh reason price known reached =>
    have within := within_of_targetHit sound started known opens reached
    have scaledWithin : Within signal (scaled config signal runner candle) price := within
    exact scaledWithin.result candle reason
  | carried => exact later
  | scaledOut fresh => exact laterScaled

theorem orderEvents_lastBar (config : StrategyDConfig) (signal : StrategyDSignal)
    (runner : StrategyDRunner) (minutes : List Candle) (bar : Candle) :
    Outcome (fun state => state.lastBar = runner.lastBar) (fun _ => True)
      (orderEvents config signal runner minutes bar) := by
  refine orderEvents_outcome config signal (fun candle _ ambiguous state kept => ?_) rfl
  have step := orderCandle_step config signal state ambiguous candle
  generalize StrategyDPositionManager.orderCandle config signal state ambiguous candle = outcome
    at step ⊢
  cases step with
  | carried => exact kept
  | scaledOut fresh => exact kept
  | _ => trivial

variable (config) in
theorem Charted.within_close {minutes : List Candle} {bar : Candle}
    (charted : Charted minutes bar) (risk : 0 < signal.riskPoints) (runner : StrategyDRunner) :
    Outcome (fun state => Within signal state bar.close) (fun _ => True)
      (orderEvents config signal runner minutes bar) := by
  obtain ⟨spanning, member, inRange⟩ := charted.closes
  obtain ⟨ambiguous, isLoop⟩ := orderEvents_eq_loop config signal runner minutes bar
  rw [isLoop]
  refine loop_reaches (fun candle _ state within => ?_) member (fun state => ?_) runner
  · have later : Within signal (StrategyDPositionManager.tracked signal state candle) bar.close :=
      within.tracked candle
    have step := orderCandle_step config signal state ambiguous candle
    generalize StrategyDPositionManager.orderCandle config signal state ambiguous candle = outcome
      at step ⊢
    cases step with
    | carried => exact later
    | scaledOut fresh => exact later
    | _ => trivial
  · have reached : Within signal (StrategyDPositionManager.tracked signal state spanning)
        bar.close := within_tracked risk inRange
    have step := orderCandle_step config signal state ambiguous spanning
    generalize StrategyDPositionManager.orderCandle config signal state ambiguous spanning =
      outcome at step ⊢
    cases step with
    | carried | scaledOut => exact reached
    | _ => trivial

/-- The excursions of a position span its entry and the close of the last bar that was read. -/
def Spanned (signal : StrategyDSignal) (runner : StrategyDRunner) : Prop :=
  Started runner ∧ ∀ bar ∈ runner.lastBar, Within signal runner bar.close

theorem Spanned.advanceBar (sound : SoundSignal signal) {oneMinuteBars : List MarketCandle}
    {bar : MarketCandle} (charted : Charted (completeMinutes bar oneMinuteBars) bar.toCandle)
    (spanned : Spanned signal runner) :
    Outcome (Spanned signal) ClosesWithin (advanceBar config signal oneMinuteBars runner bar) := by
  have opened : Started { runner with lastBar := some bar.toCandle } := spanned.1
  have tracks : Outcome Started ClosesWithin (orderEvents config signal
      { runner with lastBar := some bar.toCandle } (completeMinutes bar oneMinuteBars)
        bar.toCandle) :=
    orderEvents_outcome config signal (fun candle member ambiguous state started =>
      started.orderCandle sound (charted.opens candle member) ambiguous) opened
  have closes := charted.within_close config sound.risk
    { runner with lastBar := some bar.toCandle }
  have lasts := orderEvents_lastBar config signal { runner with lastBar := some bar.toCandle }
    (completeMinutes bar oneMinuteBars) bar.toCandle
  refine advanceBar_outcome config signal spanned
    (fun _ => ((tracks.and closes).and lasts).imp (fun _ held => held) fun _ gives => gives.1.1) ?_
  rintro state ⟨⟨started, within⟩, last⟩
  have counted : Within signal { state with closes := state.closes ++ [bar.close] } bar.close :=
    within
  refine ⟨⟨started, fun read isLast => ?_⟩,
    fun reason => counted.result bar.toCandle reason⟩
  rw [show ({ state with closes := state.closes ++ [bar.close] } : StrategyDRunner).lastBar =
    state.lastBar from rfl, last] at isLast
  obtain rfl := Option.mem_some_iff.mp isLast
  exact counted

end Excursions

/-! ### More data -/

section MoreData

variable (config : StrategyDConfig) (signal : StrategyDSignal)
  (history futureBars oneMinuteBars : List MarketCandle) {closed : StrategyDLifecycleResult}

theorem replay_append
    (replayed : replayUnderlyingLifecycle config signal history futureBars oneMinuteBars =
      .ok closed)
    (before : closed.runnerExitReason ≠ "DATA_END") (later : List MarketCandle) :
    replayUnderlyingLifecycle config signal history (futureBars ++ later) oneMinuteBars =
      .ok closed := by
  unfold replayUnderlyingLifecycle at replayed ⊢
  split at replayed
  · cases replayed
  rename_i nonempty
  rw [if_neg (List.append_ne_nil_of_left_ne_nil nonempty later)]
  split at replayed
  · rename_i returned
    rw [loop_append_of_error (advanceBar config signal oneMinuteBars) returned later]
    exact replayed
  · split at replayed
    · cases replayed
    · cases replayed
      exact absurd rfl before

theorem exists_replay (nonempty : futureBars ≠ [])
    (reads : ∀ bar ∈ futureBars, isPostEntry signal bar = true) :
    ∃ closed, replayUnderlyingLifecycle config signal history futureBars oneMinuteBars =
      .ok closed := by
  have follows : ∀ bar ∈ futureBars, ∀ state,
      Outcome (fun state => state.lastBar.isSome = true) (fun _ => True)
        (advanceBar config signal oneMinuteBars state bar) := by
    intro bar member state
    unfold advanceBar
    rw [if_pos (reads bar member)]
    have lasts := orderEvents_lastBar config signal { state with lastBar := some bar.toCandle }
      (completeMinutes bar oneMinuteBars) bar.toCandle
    dsimp only at lasts ⊢
    generalize orderEvents config signal { state with lastBar := some bar.toCandle }
      (completeMinutes bar oneMinuteBars) bar.toCandle = outcome at lasts ⊢
    cases outcome with
    | error closed => trivial
    | ok ordered =>
      have last : ordered.lastBar = some bar.toCandle := lasts
      rcases closeBar_eq config signal ordered bar.toCandle with ⟨reason, closes⟩ | stays
      · dsimp only
        rw [closes]
        trivial
      · dsimp only
        rw [stays]
        exact Option.isSome_iff_exists.mpr ⟨_, last⟩
  obtain ⟨first, rest, rfl⟩ := List.exists_cons_of_ne_nil nonempty
  have ends := loop_reaches (fun bar member state _ => follows bar member state)
    List.mem_cons_self (follows first List.mem_cons_self) (entered signal history)
  unfold replayUnderlyingLifecycle
  generalize loop (advanceBar config signal oneMinuteBars) (entered signal history)
    (first :: rest) = outcome at ends ⊢
  cases outcome with
  | error closed => exact ⟨closed, rfl⟩
  | ok runner =>
    obtain ⟨bar, last⟩ := Option.isSome_iff_exists.mp ends
    dsimp only
    rw [last]
    exact ⟨_, rfl⟩

theorem replay_gives {holds : StrategyDRunner → Prop} {gives : StrategyDLifecycleResult → Prop}
    (step : ∀ bar ∈ futureBars, ∀ runner, holds runner →
      Outcome holds gives (advanceBar config signal oneMinuteBars runner bar))
    (start : holds (entered signal history))
    (ends : ∀ runner, holds runner → ∀ bar ∈ runner.lastBar,
      gives (result config signal runner bar bar.close "DATA_END"))
    (replayed : replayUnderlyingLifecycle config signal history futureBars oneMinuteBars =
      .ok closed) : gives closed := by
  have outcomes := loop_outcome step start
  unfold replayUnderlyingLifecycle at replayed
  split at replayed
  · cases replayed
  generalize loop (advanceBar config signal oneMinuteBars) (entered signal history)
    futureBars = outcome at outcomes replayed
  cases outcome with
  | error result =>
    cases replayed
    exact outcomes
  | ok runner =>
    dsimp only at replayed
    split at replayed
    · cases replayed
    · rename_i bar last
      cases replayed
      exact ends runner outcomes bar last

theorem replay_realizesRunner
    (replayed : replayUnderlyingLifecycle config signal history futureBars oneMinuteBars =
      .ok closed) : RealizesRunner config closed := by
  have start : Accounted config (entered signal history) := ⟨rfl, rfl⟩
  exact replay_gives config signal history futureBars oneMinuteBars
    (fun bar _ runner accounted => accounted.advanceBar signal oneMinuteBars bar) start
    (fun runner accounted bar _ => accounted.result signal bar bar.close "DATA_END") replayed

theorem replay_closesWithin (sound : SoundSignal signal)
    (charted : ∀ bar ∈ futureBars, Charted (completeMinutes bar oneMinuteBars) bar.toCandle)
    (replayed : replayUnderlyingLifecycle config signal history futureBars oneMinuteBars =
      .ok closed) : ClosesWithin closed := by
  have start : Spanned signal (entered signal history) :=
    ⟨⟨le_refl (0 : ℚ), le_refl (0 : ℚ)⟩, fun bar none => by cases none⟩
  exact replay_gives config signal history futureBars oneMinuteBars
    (fun bar member runner spanned => spanned.advanceBar sound (charted bar member)) start
    (fun runner spanned bar last => (spanned.2 bar last).result bar "DATA_END") replayed

end MoreData

/-! ### Bar by bar -/

/-- What the replay of a session knows of Strategy D. -/
structure StrategyDReplayer where
  config : StrategyDConfig
  warmup : List MarketCandle
  session : List MarketCandle
  oneMinute : List MarketCandle

namespace StrategyDReplayer

variable (replayer : StrategyDReplayer) (signal : StrategyDSignal)

/-- The bars completed by the signal. -/
def history : List MarketCandle :=
  (replayer.warmup ++ replayer.session).filter fun bar => decide (bar.endTime ≤ signal.timestamp)

/-- The bars of the session after the signal. -/
def future : List MarketCandle :=
  replayer.session.filter fun bar => decide (signal.timestamp ≤ bar.startTime)

/-- The bars of the session after the signal that are completed by a time. -/
def futureThrough (moment : Int) : List MarketCandle :=
  replayer.session.filter fun bar =>
    decide (signal.timestamp ≤ bar.startTime ∧ bar.endTime ≤ moment)

/-- `_advance_strategy_d`: one completed bar of an active position. The lifecycle is replayed from
the entry on, and its result resolves the position unless the data ended. -/
def advanceStrategyD (trade : ManagedTrade) (bar : MarketCandle) :
    Except String (ManagedTrade × Option StrategyDLifecycleResult) :=
  if replayer.futureThrough signal bar.endTime = [] then .ok (trade, none)
  else
    match replayUnderlyingLifecycle replayer.config signal (replayer.history signal)
      (replayer.futureThrough signal bar.endTime) replayer.oneMinute with
    | .error message => .error message
    | .ok result =>
        let advanced :=
          { trade with
            currentTrailingStop := result.finalStop
            currentR := result.runnerR
            peakR := max trade.peakR result.mfeR }
        if result.runnerExitReason = "DATA_END" then .ok (advanced, none)
        else .ok (advanced, some result)

/-- A position is advanced by bars until one of them resolves it. -/
def advanceThrough : ManagedTrade → List MarketCandle →
    Except String (ManagedTrade × Option StrategyDLifecycleResult)
  | trade, [] => .ok (trade, none)
  | trade, bar :: rest =>
      match replayer.advanceStrategyD signal trade bar with
      | .ok (advanced, none) => advanceThrough advanced rest
      | resolved => resolved

/-- The replay of a record skips the bars that start before its entry bar ends, which is when the
signal was given. -/
def replayRecord (trade : ManagedTrade) :
    Except String (ManagedTrade × Option StrategyDLifecycleResult) :=
  replayer.advanceThrough signal trade (replayer.future signal)

/-- One run of the lifecycle over all bars after the signal. -/
def offline : Except String StrategyDLifecycleResult :=
  replayUnderlyingLifecycle replayer.config signal (replayer.history signal)
    (replayer.future signal) replayer.oneMinute

end StrategyDReplayer

theorem filter_prefix {bars : List MarketCandle}
    (ordered : bars.Pairwise fun first second => first.endTime ≤ second.endTime) (moment : Int) :
    bars.filter (fun bar => decide (bar.endTime ≤ moment)) <+: bars := by
  induction bars with
  | nil => exact List.prefix_refl []
  | cons bar rest inductionHypothesis =>
    rw [List.pairwise_cons] at ordered
    by_cases completed : bar.endTime ≤ moment
    · rw [List.filter_cons, if_pos (decide_eq_true completed)]
      exact (List.prefix_cons_inj bar).mpr (inductionHypothesis ordered.2)
    · have none : (bar :: rest).filter (fun later => decide (later.endTime ≤ moment)) = [] := by
        refine List.filter_eq_nil_iff.mpr fun later member inTime => completed ?_
        rcases List.mem_cons.mp member with rfl | inRest
        · exact of_decide_eq_true inTime
        · exact (ordered.1 later inRest).trans (of_decide_eq_true inTime)
      rw [none]
      exact List.nil_prefix

section BarByBar

variable {replayer : StrategyDReplayer} {signal : StrategyDSignal}

/-- The session is as the replay loads it: real bars of the day of the signal, in the order of
their ends. -/
structure Loaded (replayer : StrategyDReplayer) (signal : StrategyDSignal) : Prop where
  ordered : replayer.session.Pairwise fun first second => first.endTime ≤ second.endTime
  reads : ∀ bar ∈ replayer.session, isPostEntry signal bar = true

theorem futureThrough_eq (moment : Int) :
    replayer.futureThrough signal moment =
      (replayer.future signal).filter fun bar => decide (bar.endTime ≤ moment) := by
  unfold StrategyDReplayer.futureThrough StrategyDReplayer.future
  rw [List.filter_filter]
  congr 1
  funext bar
  rw [Bool.decide_and, Bool.and_comm]

/-- What a bar resolves, one run over all bars resolves alike; a bar that resolves nothing is not
the end of a run that closes the position. -/
theorem advanceStrategyD_eq (loaded : Loaded replayer signal) (trade : ManagedTrade)
    {bar : MarketCandle} (member : bar ∈ replayer.future signal) :
    (∃ advanced closed, replayer.advanceStrategyD signal trade bar = .ok (advanced, some closed) ∧
        replayer.offline signal = .ok closed ∧ closed.runnerExitReason ≠ "DATA_END") ∨
      ∃ advanced closed, replayer.advanceStrategyD signal trade bar = .ok (advanced, none) ∧
        replayUnderlyingLifecycle replayer.config signal (replayer.history signal)
          (replayer.futureThrough signal bar.endTime) replayer.oneMinute = .ok closed ∧
        closed.runnerExitReason = "DATA_END" := by
  have inTime : bar ∈ replayer.futureThrough signal bar.endTime := by
    rw [futureThrough_eq]
    exact List.mem_filter.mpr ⟨member, decide_eq_true le_rfl⟩
  have nonempty : replayer.futureThrough signal bar.endTime ≠ [] := List.ne_nil_of_mem inTime
  have reads : ∀ later ∈ replayer.futureThrough signal bar.endTime,
      isPostEntry signal later = true :=
    fun later isLater => loaded.reads later (List.mem_of_mem_filter isLater)
  obtain ⟨closed, replayed⟩ := exists_replay replayer.config signal (replayer.history signal)
    (replayer.futureThrough signal bar.endTime) replayer.oneMinute nonempty reads
  have ordered : (replayer.future signal).Pairwise fun first second =>
      first.endTime ≤ second.endTime := loaded.ordered.filter _
  obtain ⟨later, whole⟩ := filter_prefix ordered bar.endTime
  rw [← futureThrough_eq] at whole
  unfold StrategyDReplayer.advanceStrategyD
  rw [if_neg nonempty, replayed]
  dsimp only
  by_cases ended : closed.runnerExitReason = "DATA_END"
  · rw [if_pos ended]
    exact .inr ⟨_, closed, rfl, rfl, ended⟩
  · rw [if_neg ended]
    refine .inl ⟨_, closed, rfl, ?_, ended⟩
    unfold StrategyDReplayer.offline
    rw [← whole]
    exact replay_append replayer.config signal (replayer.history signal) _ replayer.oneMinute
      replayed ended later

/-- What a run over all bars leaves of a position: its result, unless the data ended. -/
def resolvedBy (result : StrategyDLifecycleResult) : Option StrategyDLifecycleResult :=
  if result.runnerExitReason = "DATA_END" then none else some result

/-- Advancing a position by bars after the signal resolves it with the result of one run over all
bars, or each of them ends a run that does not close it. -/
theorem advanceThrough_eq (loaded : Loaded replayer signal) (trade : ManagedTrade)
    {bars : List MarketCandle} (after : ∀ bar ∈ bars, bar ∈ replayer.future signal) :
    (∃ advanced closed, replayer.advanceThrough signal trade bars = .ok (advanced, some closed) ∧
        replayer.offline signal = .ok closed ∧ closed.runnerExitReason ≠ "DATA_END") ∨
      ∃ advanced, replayer.advanceThrough signal trade bars = .ok (advanced, none) ∧
        ∀ bar ∈ bars, ∃ closed,
          replayUnderlyingLifecycle replayer.config signal (replayer.history signal)
            (replayer.futureThrough signal bar.endTime) replayer.oneMinute = .ok closed ∧
          closed.runnerExitReason = "DATA_END" := by
  induction bars generalizing trade with
  | nil => exact .inr ⟨trade, rfl, by simp⟩
  | cons bar rest inductionHypothesis =>
    have later := fun other member => after other (List.mem_cons_of_mem bar member)
    unfold StrategyDReplayer.advanceThrough
    rcases advanceStrategyD_eq loaded trade (after bar List.mem_cons_self) with
      ⟨advanced, closed, resolves, offline, closes⟩ | ⟨advanced, closed, stays, replayed, ended⟩
    · rw [resolves]
      exact .inl ⟨advanced, closed, rfl, offline, closes⟩
    · rw [stays]
      rcases inductionHypothesis advanced later with resolved | ⟨final, unresolved, each⟩
      · exact .inl resolved
      · exact .inr ⟨final, unresolved, List.forall_mem_cons.mpr ⟨⟨closed, replayed, ended⟩, each⟩⟩

theorem replayRecord_eq_offline (loaded : Loaded replayer signal) (trade : ManagedTrade)
    (nonempty : replayer.future signal ≠ []) :
    ∃ closed advanced, replayer.offline signal = .ok closed ∧
      replayer.replayRecord signal trade = .ok (advanced, resolvedBy closed) := by
  rcases advanceThrough_eq loaded trade (fun bar member => member) with
    ⟨advanced, closed, resolved, offline, closes⟩ | ⟨advanced, unresolved, each⟩
  · refine ⟨closed, advanced, offline, ?_⟩
    rw [resolvedBy, if_neg closes]
    exact resolved
  · obtain ⟨before, last, whole⟩ := List.eq_nil_or_concat'  (replayer.future signal)
      |>.resolve_left nonempty
    have isLast : last ∈ replayer.future signal := by
      rw [whole]
      exact List.mem_concat_self
    have ordered : (replayer.future signal).Pairwise fun first second =>
        first.endTime ≤ second.endTime := loaded.ordered.filter _
    have all : replayer.futureThrough signal last.endTime = replayer.future signal := by
      rw [futureThrough_eq]
      refine List.filter_eq_self.mpr fun bar member => decide_eq_true ?_
      rw [whole] at ordered member
      rcases List.mem_append.mp member with inBefore | inLast
      · exact (List.pairwise_append.mp ordered).2.2 bar inBefore last List.mem_cons_self
      · rw [List.mem_singleton.mp inLast]
    obtain ⟨closed, replayed, ended⟩ := each last isLast
    rw [all] at replayed
    refine ⟨closed, advanced, replayed, ?_⟩
    rw [resolvedBy, if_pos ended]
    exact unresolved

end BarByBar

/-! ### Bars and minutes -/

def threePointSignal : StrategyDSignal where
  direction := .bullish
  timestamp := 0
  entryPrice := 100
  initialStop := 97
  riskPoints := 3
  nextPivotName := none
  nextPivotPrice := none

/-- A real five-minute bar that starts some minutes after the epoch. -/
def fiveMinuteBar (minute : Int) (openPrice high low close : ℚ) : MarketCandle where
  startTime := minute * 60000000
  endTime := (minute + 5) * 60000000
  openPrice := openPrice
  high := high
  low := low
  close := close
  instrumentId := "NIFTY"
  interval := "5m"
  volume := 0
  source := "BREEZE"

/-- A real minute whose prices are all the same. -/
def flatMinute (minute : Int) (price : ℚ) : MarketCandle where
  startTime := minute * 60000000
  endTime := (minute + 1) * 60000000
  openPrice := price
  high := price
  low := price
  close := price
  instrumentId := "NIFTY"
  interval := "1m"
  volume := 0
  source := "BREEZE"

/-! ### The lifecycle -/

/-- A closed position is closed alike by all longer data, and bar by bar as in one run over all
bars. Its realized R is that of the scale-out and of the runner before both are rounded, and where
the candles that order each bar are charted, the runner is closed within the excursions. -/
theorem lifecycle_stable (config : StrategyDConfig) (signal : StrategyDSignal) :
    (∀ (history futureBars oneMinuteBars : List MarketCandle) (closed : StrategyDLifecycleResult),
        replayUnderlyingLifecycle config signal history futureBars oneMinuteBars = .ok closed →
        (closed.runnerExitReason ≠ "DATA_END" → ∀ later : List MarketCandle,
          replayUnderlyingLifecycle config signal history (futureBars ++ later) oneMinuteBars =
            .ok closed) ∧
        RealizesRunner config closed ∧
        (SoundSignal signal →
          (∀ bar ∈ futureBars, Charted (completeMinutes bar oneMinuteBars) bar.toCandle) →
          ClosesWithin closed)) ∧
      ∀ (replayer : StrategyDReplayer) (trade : ManagedTrade), Loaded replayer signal →
        replayer.future signal ≠ [] →
        ∃ closed advanced, replayer.offline signal = .ok closed ∧
          replayer.replayRecord signal trade = .ok (advanced, resolvedBy closed) := by
  constructor
  · intro history futureBars oneMinuteBars closed replayed
    exact ⟨replay_append config signal history futureBars oneMinuteBars replayed,
      replay_realizesRunner config signal history futureBars oneMinuteBars replayed,
      fun sound charted =>
        replay_closesWithin config signal history futureBars oneMinuteBars sound charted replayed⟩
  · intro replayer trade loaded nonempty
    exact replayRecord_eq_offline loaded trade nonempty

/-- The bars of a session that scales out and then crosses its average. -/
def scaleOutSession : StrategyDReplayer where
  config := .standard
  warmup := []
  session := [fiveMinuteBar 0 101 105 (201 / 2) 104, fiveMinuteBar 5 104 106 103 104]
  oneMinute := []

/-- A position that is scaled out and closed by its average, offline and bar by bar. -/
theorem scale_out_stable :
    (∃ closed ∈ (replayUnderlyingLifecycle .standard threePointSignal []
        [fiveMinuteBar 0 101 105 (201 / 2) 104] []).toOption,
      replayUnderlyingLifecycle .standard threePointSignal []
          [fiveMinuteBar 0 101 105 (201 / 2) 104, fiveMinuteBar 5 104 106 103 104] [] =
        .ok closed ∧ RealizesRunner .standard closed ∧ ClosesWithin closed) ∧
      ∃ closed advanced, scaleOutSession.offline threePointSignal = .ok closed ∧
        scaleOutSession.replayRecord threePointSignal (.entered "trade" .paper .srMomentumBreakout
          .bullish 65 65 0 100 100 97 75) = .ok (advanced, resolvedBy closed) := by
  have reads : ∀ bar ∈ [fiveMinuteBar 0 101 105 (201 / 2) 104], isPostEntry threePointSignal bar =
      true := by decide +kernel
  obtain ⟨closed, replayed⟩ := exists_replay .standard threePointSignal []
    [fiveMinuteBar 0 101 105 (201 / 2) 104] [] (List.cons_ne_nil _ _) reads
  constructor
  · have ends : ∀ closed ∈ (replayUnderlyingLifecycle .standard threePointSignal []
        [fiveMinuteBar 0 101 105 (201 / 2) 104] []).toOption,
        closed.runnerExitReason ≠ "DATA_END" := by decide +kernel
    have member : closed ∈ (replayUnderlyingLifecycle .standard threePointSignal []
        [fiveMinuteBar 0 101 105 (201 / 2) 104] []).toOption := by
      rw [replayed]
      rfl
    have sound : SoundSignal threePointSignal :=
      ⟨by decide +kernel, fun price none => by cases none⟩
    have stable := (lifecycle_stable .standard threePointSignal).1 []
      [fiveMinuteBar 0 101 105 (201 / 2) 104] [] closed replayed
    refine ⟨closed, member, stable.1 (ends closed member) _, stable.2.1, stable.2.2 sound ?_⟩
    intro bar member
    obtain rfl := List.mem_singleton.mp member
    exact .alone (by decide +kernel) (by decide +kernel)
  · have loaded : Loaded scaleOutSession threePointSignal :=
      ⟨by decide +kernel, by decide +kernel⟩
    exact (lifecycle_stable .standard threePointSignal).2 scaleOutSession _ loaded
      (by decide +kernel)

/-- Rounded values do not add up exactly, and minutes that do not aggregate to their bar leave its
close out of the excursions. -/
theorem lifecycle_rounds_and_strays :
    (∃ closed ∈ (replayUnderlyingLifecycle .standard threePointSignal []
        [fiveMinuteBar 0 101 105 (201 / 2) 104] []).toOption,
      closed.scaleOutTime.isSome = true ∧ closed.realizedR ≠
        closed.scaleOutFraction * StrategyDConfig.standard.scaleOutR +
          (1 - closed.scaleOutFraction) * closed.runnerR) ∧
      ∃ closed ∈ (replayUnderlyingLifecycle .standard threePointSignal []
        [fiveMinuteBar 0 101 110 101 110] ((List.range 5).map fun minute =>
          flatMinute minute 101)).toOption, ¬ClosesWithin closed := by
  constructor
  · decide +kernel
  · decide +kernel

end BreezeTrading.StrategyDPositionManager
