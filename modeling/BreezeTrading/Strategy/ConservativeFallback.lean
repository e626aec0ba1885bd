/-
This file proves when the five-minute fallback of Strategy D is conservative. The minutes of a bar
give less than the bar only where a later candle opens beyond the stop in force and is filled at
its open. The condition that no such fill is worth less is exact.
-/

import BreezeTrading.Strategy.FiveMinuteFallback
import BreezeTrading.Strategy.ReplayFills

namespace BreezeTrading.StrategyDPositionManager

open EarlyReturn

/-! ### Conditions -/

section Conditions

variable (config : StrategyDConfig) (signal : StrategyDSignal)

/-- A part of the position is scaled out, not short of the entry. -/
structure SoundConfig : Prop where
  fraction : 0 ≤ config.scaleOutFraction
  remainder : config.scaleOutFraction ≤ 1
  multiple : 0 ≤ config.scaleOutR

/-- A sound signal whose stop is not beyond its entry. -/
structure ProtectedSignal : Prop extends SoundSignal signal where
  stop : r signal signal.initialStop ≤ 0

/-- The minutes of a bar, which open and close between their lows and highs. -/
structure Children (minutes : List Candle) (bar : Candle) : Prop extends Aggregates minutes bar where
  closesInRange : ∀ minute ∈ minutes, InRange minute minute.close

/-- The bar alone closes the position at a stop: at the one in force, or at the entry where it
scales out and spans the entry. -/
def TouchesStop (scaledOut : Bool) (bar : Candle) : Prop :=
  stopHit signal bar (stopOf signal scaledOut) = true ∨
    scaledOut = false ∧ targetHit signal bar (scalePrice config signal) = true ∧
      stopHit signal bar signal.entryPrice = true

instance (scaledOut : Bool) (bar : Candle) : Decidable (TouchesStop config signal scaledOut bar) :=
  inferInstanceAs (Decidable (_ ∨ _))

/-- What the position is then worth. -/
def floorOf (scaledOut : Bool) (bar : Candle) : ℚ :=
  if stopHit signal bar (stopOf signal scaledOut) = true then
    worth config signal scaledOut (stopFill signal bar (stopOf signal scaledOut))
  else worth config signal true signal.entryPrice

/-- No candle that finds the position open opens beyond the stop in force at a price that is
worth less than a floor. -/
def GapsAbove (floor : ℚ) : Bool → List Candle → Prop
  | _, [] => True
  | scaledOut, candle :: rest =>
      (gapsBeyond signal candle (stopOf signal scaledOut) = true →
        roundTo 6 floor ≤ roundTo 6 (worth config signal scaledOut candle.openPrice)) ∧
      ∀ next, phaseCandle config signal scaledOut candle = .ok next → GapsAbove floor next rest

variable (candlesOf : MarketCandle → List Candle)

/-- No candle of the bars does. -/
def BarsAbove (floor : ℚ) : Bool × List ℚ → List MarketCandle → Prop
  | _, [] => True
  | phase, bar :: rest =>
      (isPostEntry signal bar = true →
        GapsAbove config signal floor phase.1 (candlesOf bar)) ∧
      ∀ next, phaseBar config signal candlesOf phase bar = .ok next →
        BarsAbove floor next rest

/-- Once a bar alone closes the position at a stop, no candle that finds it open is filled for
less. -/
def Conservative : Bool × List ℚ → List MarketCandle → Prop
  | _, [] => True
  | phase, bar :: rest =>
      if isPostEntry signal bar = true ∧ TouchesStop config signal phase.1 bar.toCandle then
        BarsAbove config signal candlesOf (floorOf config signal phase.1 bar.toCandle) phase
          (bar :: rest)
      else ∀ next, phaseBar config signal candlesOf phase bar = .ok next → Conservative next rest

end Conditions

/-! ### Worth -/

section Worth

variable {config : StrategyDConfig} {signal : StrategyDSignal} {candle : Candle}

theorem worth_mono (sound : SoundConfig config) (scaledOut : Bool) {first second : ℚ}
    (le : r signal first ≤ r signal second) :
    worth config signal scaledOut first ≤ worth config signal scaledOut second := by
  unfold worth
  split_ifs
  · exact add_le_add_right
      (mul_le_mul_of_nonneg_left le (sub_nonneg.mpr sound.remainder)) _
  · exact le

theorem worth_entry : worth config signal true signal.entryPrice =
    config.scaleOutFraction * config.scaleOutR := by
  simp [worth, r_entry]

theorem worth_stop_le (sound : SoundConfig config) (safe : ProtectedSignal signal)
    (scaledOut : Bool) :
    worth config signal scaledOut (stopOf signal scaledOut) ≤
      worth config signal true signal.entryPrice := by
  cases scaledOut
  · rw [worth_entry]
    exact le_trans safe.stop (mul_nonneg sound.fraction sound.multiple)
  · exact le_rfl

theorem r_le_of_hitsStop (risk : 0 < signal.riskPoints) {price stop : ℚ}
    (hit : hitsStop signal.direction price stop = true) : r signal price ≤ r signal stop := by
  unfold hitsStop at hit
  unfold r favorablePoints
  split_ifs at hit ⊢
  · exact div_le_div_of_nonneg_right (sub_le_sub_right (of_decide_eq_true hit) _) risk.le
  · exact div_le_div_of_nonneg_right (sub_le_sub_left (of_decide_eq_true hit) _) risk.le

theorem hitsStop_of_gapsBeyond {stop : ℚ} (gap : gapsBeyond signal candle stop = true) :
    hitsStop signal.direction candle.openPrice stop = true := by
  unfold gapsBeyond at gap
  unfold hitsStop
  split_ifs at gap ⊢
  · exact decide_eq_true (of_decide_eq_true gap).le
  · exact decide_eq_true (of_decide_eq_true gap).le

theorem r_stopFill_le (risk : 0 < signal.riskPoints) (stop : ℚ) :
    r signal (stopFill signal candle stop) ≤ r signal stop := by
  unfold stopFill
  split_ifs with gap
  · exact r_le_of_hitsStop risk (hitsStop_of_gapsBeyond gap)
  · exact le_rfl

theorem ProtectedSignal.entry_hit (safe : ProtectedSignal signal)
    (hit : stopHit signal candle signal.initialStop = true) :
    stopHit signal candle signal.entryPrice = true := by
  have short := mul_nonpos_of_nonpos_of_nonneg safe.stop safe.risk.le
  unfold r favorablePoints at short
  unfold stopHit ReplayIntrabar.stopHit hitsStop at hit ⊢
  rw [div_mul_cancel₀ _ safe.risk.ne'] at short
  split_ifs at short hit ⊢
  · exact decide_eq_true ((of_decide_eq_true hit).trans (sub_nonpos.mp short))
  · exact decide_eq_true ((sub_nonpos.mp short).trans (of_decide_eq_true hit))

theorem r_close_nonneg (risk : 0 < signal.riskPoints)
    (missed : ¬stopHit signal candle signal.entryPrice = true)
    (inRange : InRange candle candle.close) : 0 ≤ r signal candle.close := by
  rw [← r_entry signal]
  unfold stopHit ReplayIntrabar.stopHit hitsStop at missed
  unfold r favorablePoints
  split_ifs at missed ⊢
  · exact div_le_div_of_nonneg_right
      (sub_le_sub_right ((not_le.mp (by simpa using missed)).le.trans inRange.1) _) risk.le
  · exact div_le_div_of_nonneg_right
      (sub_le_sub_left (inRange.2.trans (not_le.mp (by simpa using missed)).le) _) risk.le

end Worth

/-! ### Candles -/

section Candles

variable {config : StrategyDConfig} {signal : StrategyDSignal} {scaledOut next : Bool}
  {candle : Candle} {candles : List Candle}

/-- A candle that leaves the position open touches no stop, and scales it out exactly where it
reaches the scale-out. -/
theorem phaseCandle_ok (stays : phaseCandle config signal scaledOut candle = .ok next) :
    ¬stopHit signal candle (stopOf signal scaledOut) = true ∧
      ¬stopHit signal candle (stopOf signal next) = true ∧
      next = (scaledOut || targetHit signal candle (scalePrice config signal)) := by
  unfold phaseCandle at stays
  by_cases hit : stopHit signal candle (stopOf signal scaledOut) = true
  · rw [if_pos hit] at stays
    cases stays
  refine ⟨hit, ?_⟩
  split_ifs at stays with scales spans reaches
  · cases stays
    constructor
    · intro touches
      cases scaledOut
      · exact spans ⟨rfl, touches⟩
      · exact hit touches
    · rcases scales with isScaled | reached
      · rw [isScaled, Bool.true_or]
      · rw [reached, Bool.or_true]
  · cases stays
    rw [not_or, Bool.not_eq_true, Bool.not_eq_true] at scales
    rw [scales.1] at hit
    exact ⟨hit, by rw [scales.1, scales.2, Bool.or_false]⟩

theorem phaseCandle_error {total : ℚ}
    (closes : phaseCandle config signal scaledOut candle = .error total) :
    stopHit signal candle (stopOf signal scaledOut) = true ∧
        total = worth config signal scaledOut (stopFill signal candle (stopOf signal scaledOut)) ∨
      ¬stopHit signal candle (stopOf signal scaledOut) = true ∧
        (total = worth config signal true signal.entryPrice ∨
          ∃ price ∈ signal.nextPivotPrice, total = worth config signal true price) := by
  unfold phaseCandle at closes
  by_cases hit : stopHit signal candle (stopOf signal scaledOut) = true
  · rw [if_pos hit] at closes
    exact .inl ⟨hit, (Except.error.inj closes).symm⟩
  refine .inr ⟨hit, ?_⟩
  split_ifs at closes with scales spans reaches
  · exact .inl (Except.error.inj closes).symm
  · unfold pivotHit at reaches
    obtain ⟨price, known⟩ := Option.isSome_iff_exists.mp (Option.isSome_of_any reaches)
    refine .inr ⟨price, known, ?_⟩
    rw [← Except.error.inj closes, known]
    rfl

theorem stopHit_of_gapsBeyond (opens : InRange candle candle.openPrice) {stop : ℚ}
    (gap : gapsBeyond signal candle stop = true) : stopHit signal candle stop = true :=
  stopHit_of_opens opens (hitsStop_of_gapsBeyond gap)

section

variable {floor : ℚ} (sound : SoundConfig config) (safe : ProtectedSignal signal)
  (least : floor ≤ worth config signal true signal.entryPrice)

include sound safe least

theorem phaseCandle_floor (stops : stopHit signal candle (stopOf signal scaledOut) = true → floor ≤
      worth config signal scaledOut (stopOf signal scaledOut))
    (opens : InRange candle candle.openPrice) :
    Outcome (fun _ => gapsBeyond signal candle (stopOf signal scaledOut) = false)
      (fun total => roundTo 6 floor ≤ roundTo 6 total ↔
        (gapsBeyond signal candle (stopOf signal scaledOut) = true →
          roundTo 6 floor ≤ roundTo 6 (worth config signal scaledOut candle.openPrice)))
      (phaseCandle config signal scaledOut candle) := by
  have noGap : ¬stopHit signal candle (stopOf signal scaledOut) = true →
      gapsBeyond signal candle (stopOf signal scaledOut) = false := fun missed =>
    Bool.eq_false_iff.mpr fun gap => missed (stopHit_of_gapsBeyond opens gap)
  cases ran : phaseCandle config signal scaledOut candle with
  | ok next => exact noGap (phaseCandle_ok ran).1
  | error total =>
    rcases phaseCandle_error ran with ⟨hit, filled⟩ | ⟨missed, atEntry | ⟨price, known, atPivot⟩⟩
    · by_cases gap : gapsBeyond signal candle (stopOf signal scaledOut) = true
      · rw [stopFill, if_pos gap] at filled
        rw [filled]
        exact ⟨fun le _ => le, fun le => le gap⟩
      · rw [stopFill, if_neg gap] at filled
        rw [filled]
        exact iff_of_true (roundTo_mono 6 (stops hit)) fun isGap => absurd isGap gap
    · rw [atEntry]
      exact iff_of_true (roundTo_mono 6 least) fun gap => by simp [noGap missed] at gap
    · have favorable : worth config signal true signal.entryPrice ≤
          worth config signal true price := by
        refine worth_mono sound true ?_
        rw [r_entry]
        exact safe.pivot price known
      rw [atPivot]
      exact iff_of_true (roundTo_mono 6 (least.trans favorable)) fun gap => by
        simp [noGap missed] at gap

/-- A loop over candles closes the position for no less than a floor exactly when no candle that
finds it open is filled for less. -/
theorem candles_floor (stops : scaledOut = false → ∀ candle ∈ candles, stopHit signal candle
      signal.initialStop = true → floor ≤ worth config signal false signal.initialStop)
    (opens : ∀ candle ∈ candles, InRange candle candle.openPrice) :
    Outcome (fun _ => GapsAbove config signal floor scaledOut candles)
      (fun total => roundTo 6 floor ≤ roundTo 6 total ↔
        GapsAbove config signal floor scaledOut candles)
      (loop (phaseCandle config signal) scaledOut candles) := by
  induction candles generalizing scaledOut with
  | nil => trivial
  | cons head rest inductionHypothesis =>
    have headStops : stopHit signal head (stopOf signal scaledOut) = true →
        floor ≤ worth config signal scaledOut (stopOf signal scaledOut) := by
      cases scaledOut
      · exact stops rfl head List.mem_cons_self
      · exact fun _ => least
    have first := phaseCandle_floor sound safe least headStops (opens head List.mem_cons_self)
    rw [loop_cons]
    unfold GapsAbove
    cases ran : phaseCandle config signal scaledOut head with
    | error total =>
      rw [ran] at first
      simpa [Outcome] using first
    | ok next =>
      rw [ran] at first
      have noGap : gapsBeyond signal head (stopOf signal scaledOut) = false := first
      have laterStops : next = false → ∀ candle ∈ rest,
          stopHit signal candle signal.initialStop = true →
          floor ≤ worth config signal false signal.initialStop := by
        intro fresh candle member
        have grows := (phaseCandle_ok ran).2.2
        rw [fresh] at grows
        exact stops (Bool.or_eq_false_iff.mp grows.symm).1 candle (List.mem_cons_of_mem head member)
      have later := inductionHypothesis laterStops
        (fun candle member => opens candle (List.mem_cons_of_mem head member))
      simpa [Outcome, noGap] using later

end

/-- Candles that leave the position open touch none of the stops it has, and the last one leaves the
stop that is then in force. -/
theorem candles_ok (safe : ProtectedSignal signal)
    (stays : loop (phaseCandle config signal) scaledOut candles = .ok next) :
    (∀ candle ∈ candles, ¬stopHit signal candle (stopOf signal scaledOut) = true) ∧
      (∀ last ∈ candles.getLast?, ¬stopHit signal last (stopOf signal next) = true) ∧
      next = (scaledOut || candles.any fun candle =>
        targetHit signal candle (scalePrice config signal)) := by
  induction candles generalizing scaledOut with
  | nil =>
    cases stays
    simp
  | cons head rest inductionHypothesis =>
    rw [loop_cons] at stays
    cases ran : phaseCandle config signal scaledOut head with
    | error total =>
      rw [ran] at stays
      cases stays
    | ok after =>
      rw [ran] at stays
      obtain ⟨missed, missedAfter, grows⟩ := phaseCandle_ok ran
      obtain ⟨restMissed, lastMissed, growsOn⟩ := inductionHypothesis stays
      refine ⟨List.forall_mem_cons.mpr ⟨missed, fun candle member hit => ?_⟩, ?_, ?_⟩
      · -- The stop of a position that is scaled out is touched before the first stop is.
        refine restMissed candle member ?_
        cases after
        · obtain rfl : scaledOut = false := (Bool.or_eq_false_iff.mp grows.symm).1
          exact hit
        · cases scaledOut
          · exact safe.entry_hit hit
          · exact hit
      · intro last isLast
        cases rest with
        | nil =>
          obtain rfl : last = head := by simpa using isLast.symm
          cases stays
          exact missedAfter
        | cons second others =>
          exact lastMissed last isLast
      · rw [growsOn, grows, List.any_cons, Bool.or_assoc]

theorem candles_idle
    (missed : ∀ candle ∈ candles, ¬stopHit signal candle (stopOf signal false) = true)
    (short : ∀ candle ∈ candles, ¬targetHit signal candle (scalePrice config signal) = true) :
    loop (phaseCandle config signal) false candles = .ok false := by
  induction candles with
  | nil => rfl
  | cons head rest inductionHypothesis =>
    obtain ⟨headMissed, restMissed⟩ := List.forall_mem_cons.mp missed
    obtain ⟨headShort, restShort⟩ := List.forall_mem_cons.mp short
    have idle : phaseCandle config signal false head = .ok false := by
      unfold phaseCandle
      rw [if_neg headMissed, if_neg (by simpa using headShort)]
    rw [loop_cons, idle]
    exact inductionHypothesis restMissed restShort

theorem pivot_or_scale_first (config : StrategyDConfig) (signal : StrategyDSignal) :
    (∀ candle, pivotHit signal candle = true →
        targetHit signal candle (scalePrice config signal) = true) ∨
      ∀ candle, targetHit signal candle (scalePrice config signal) = true →
        pivotHit signal candle = true := by
  unfold pivotHit targetHit ReplayIntrabar.levelHit ReplayIntrabar.reachesLevel
  cases signal.nextPivotPrice with
  | none => exact .inl fun candle reaches => by simp at reaches
  | some price =>
    rcases le_total price (scalePrice config signal) with le | le
    · split_ifs
      · exact .inr fun candle reached => decide_eq_true (le.trans (of_decide_eq_true reached))
      · exact .inl fun candle reached => decide_eq_true ((of_decide_eq_true reached).trans le)
    · split_ifs
      · exact .inl fun candle reached => decide_eq_true (le.trans (of_decide_eq_true reached))
      · exact .inr fun candle reached => decide_eq_true ((of_decide_eq_true reached).trans le)

/-- Candles that touch no stop close the position at the pivot exactly when they reach both the
scale-out and the pivot, in whatever order. -/
theorem candles_untouched
    (untouched : ∀ candle ∈ candles, ∀ phase, ¬stopHit signal candle (stopOf signal phase) = true) :
    loop (phaseCandle config signal) scaledOut candles =
      let scales := scaledOut || candles.any fun candle =>
        targetHit signal candle (scalePrice config signal)
      if (scales && candles.any (pivotHit signal)) = true then
        .error (worth config signal true (signal.nextPivotPrice.getD 0))
      else .ok scales := by
  induction candles generalizing scaledOut with
  | nil => simp
  | cons head rest inductionHypothesis =>
    obtain ⟨headUntouched, restUntouched⟩ := List.forall_mem_cons.mp untouched
    have ran : phaseCandle config signal scaledOut head =
        if ((scaledOut || targetHit signal head (scalePrice config signal)) &&
          pivotHit signal head) = true then
          .error (worth config signal true (signal.nextPivotPrice.getD 0))
        else .ok (scaledOut || targetHit signal head (scalePrice config signal)) := by
      have entry : ¬(scaledOut = false ∧ stopHit signal head signal.entryPrice = true) :=
        fun spans => headUntouched true spans.2
      unfold phaseCandle
      rw [if_neg (headUntouched scaledOut), if_neg entry]
      cases scaledOut <;> cases targetHit signal head (scalePrice config signal) <;> simp
    rw [loop_cons, ran]
    rw [List.any_cons, List.any_cons, ← Bool.or_assoc]
    have restRuns := @inductionHypothesis
      (scaledOut || targetHit signal head (scalePrice config signal)) restUntouched
    cases scaled : scaledOut || targetHit signal head (scalePrice config signal)
    · rw [scaled] at restRuns
      have short : targetHit signal head (scalePrice config signal) = false :=
        (Bool.or_eq_false_iff.mp scaled).2
      -- A pivot that the head reaches too early is reached again by what scales out.
      have again : (rest.any fun candle =>
            targetHit signal candle (scalePrice config signal)) = true →
          pivotHit signal head = true → rest.any (pivotHit signal) = true := by
        intro reaches early
        rcases pivot_or_scale_first config signal with pivotLast | scaleLast
        · simp [pivotLast head early] at short
        · obtain ⟨candle, member, reached⟩ := List.any_eq_true.mp reaches
          exact List.any_eq_true.mpr ⟨candle, member, scaleLast candle reached⟩
      simp only [Bool.false_and, Bool.false_eq_true, if_false, restRuns, Bool.false_or]
      cases reaches : rest.any fun candle => targetHit signal candle (scalePrice config signal)
      · rfl
      · cases early : pivotHit signal head
        · rfl
        · simp [again reaches early]
    · rw [scaled] at restRuns
      cases pivots : pivotHit signal head
      · simpa using restRuns
      · simp

end Candles

/-! ### A bar and its minutes -/

section Bar

variable {config : StrategyDConfig} {signal : StrategyDSignal} {scaledOut : Bool}
  {minutes : List Candle} {bar : Candle}

section

variable (children : Children minutes bar)

include children

theorem Children.stopHit_iff {stop : ℚ} :
    stopHit signal bar stop = true ↔ ∃ minute ∈ minutes, stopHit signal minute stop = true :=
  Aggregates.stopHit_iff children.toAggregates

theorem Children.targetHit_eq (target : ℚ) :
    targetHit signal bar target = minutes.any fun minute => targetHit signal minute target := by
  rw [Bool.eq_iff_iff, List.any_eq_true]
  exact Aggregates.levelHit_iff children.toAggregates

theorem Children.pivotHit_eq : pivotHit signal bar = minutes.any (pivotHit signal) := by
  unfold pivotHit
  cases signal.nextPivotPrice with
  | none => simp
  | some price =>
    exact children.targetHit_eq price

theorem Children.loop_eq (safe : ProtectedSignal signal)
    (untouched : ¬TouchesStop config signal scaledOut bar) :
    loop (phaseCandle config signal) scaledOut [bar] =
      loop (phaseCandle config signal) scaledOut minutes := by
  obtain ⟨missed, spans⟩ := not_or.mp untouched
  by_cases reached : scaledOut = true ∨
      targetHit signal bar (scalePrice config signal) = true
  · have barUntouched : ∀ phase, ¬stopHit signal bar (stopOf signal phase) = true := by
      have entry : ¬stopHit signal bar signal.entryPrice = true := by
        cases scaledOut
        · exact fun hit => spans ⟨rfl, by simpa using reached, hit⟩
        · exact missed
      intro phase
      cases phase
      · exact fun hit => entry (safe.entry_hit hit)
      · exact entry
    have minutesUntouched : ∀ minute ∈ minutes, ∀ phase,
        ¬stopHit signal minute (stopOf signal phase) = true := fun minute member phase hit =>
      barUntouched phase (children.stopHit_iff.mpr ⟨minute, member, hit⟩)
    rw [candles_untouched minutesUntouched, ← children.targetHit_eq, ← children.pivotHit_eq,
      candles_untouched (by simpa using barUntouched)]
    simp
  · rw [not_or, Bool.not_eq_true] at reached
    obtain ⟨rfl, short⟩ := reached
    have minutesMissed : ∀ minute ∈ minutes,
        ¬stopHit signal minute (stopOf signal false) = true := fun minute member hit =>
      missed (children.stopHit_iff.mpr ⟨minute, member, hit⟩)
    have minutesShort : ∀ minute ∈ minutes,
        ¬targetHit signal minute (scalePrice config signal) = true := fun minute member hit => by
      rw [children.targetHit_eq] at short
      exact short (List.any_eq_true.mpr ⟨minute, member, hit⟩)
    rw [candles_idle minutesMissed minutesShort,
      candles_idle (by simpa using missed) (by simpa using short)]

end

theorem loop_of_touchesStop (touches : TouchesStop config signal scaledOut bar) :
    loop (phaseCandle config signal) scaledOut [bar] =
      .error (floorOf config signal scaledOut bar) := by
  rw [loop_singleton]
  unfold phaseCandle floorOf
  split_ifs with hit scales spans reaches
  · rfl
  · rfl
  · rcases touches with isHit | ⟨fresh, -, entry⟩
    · exact absurd isHit hit
    · exact absurd ⟨fresh, entry⟩ spans
  · rcases touches with isHit | ⟨fresh, -, entry⟩
    · exact absurd isHit hit
    · exact absurd ⟨fresh, entry⟩ spans
  · rcases touches with isHit | ⟨-, reached, -⟩
    · exact absurd isHit hit
    · exact absurd (.inr reached) scales

end Bar

/-! ### Runs -/

section Runs

variable {config : StrategyDConfig} {signal : StrategyDSignal} {phase : Bool × List ℚ}
  {oneMinuteBars : List MarketCandle} {bar : MarketCandle} {bars : List MarketCandle}

/-- The minutes of every bar that is read are complete. -/
def Complete (signal : StrategyDSignal) (oneMinuteBars bars : List MarketCandle) : Prop :=
  ∀ bar ∈ bars, isPostEntry signal bar = true →
    Children (completeMinutes bar oneMinuteBars) bar.toCandle

theorem candlesBy_nil (bar : MarketCandle) : candlesBy [] bar = [bar.toCandle] := rfl

theorem candlesBy_of_children (children : Children (completeMinutes bar oneMinuteBars) bar.toCandle) :
    candlesBy oneMinuteBars bar = completeMinutes bar oneMinuteBars := by
  obtain ⟨minute, member, -⟩ := children.highest.2
  unfold candlesBy orderedBy
  rw [if_neg (List.ne_nil_of_mem member)]

theorem completeMinutes_sorted (parent : MarketCandle) (oneMinuteBars : List MarketCandle) :
    ReplayIntrabar.sortByStart (completeMinutes parent oneMinuteBars) =
      completeMinutes parent oneMinuteBars := by
  unfold completeMinutes
  dsimp only
  split_ifs
  · unfold ReplayIntrabar.sortByStart
    exact (List.pairwise_insertionSort _ _).insertionSort_eq
  · rfl

theorem Children.last_close (children : Children (completeMinutes bar oneMinuteBars) bar.toCandle) :
    ∃ last ∈ (completeMinutes bar oneMinuteBars).getLast?, InRange last last.close ∧
      last.close = bar.close := by
  have closes := children.closes
  rw [completeMinutes_sorted] at closes
  obtain ⟨last, isLast, same⟩ := Option.map_eq_some_iff.mp closes
  exact ⟨last, isLast, children.closesInRange last (List.mem_of_mem_getLast? isLast), same⟩

/-- A bar that is read in minutes closes the position for no less than a floor exactly when no
minute of it is filled for less; a position that it leaves open is scaled out, and closes beyond
the entry. -/
theorem phaseBar_floor (sound : SoundConfig config) (safe : ProtectedSignal signal) {floor : ℚ}
    (least : floor ≤ worth config signal true signal.entryPrice)
    (children : Children (completeMinutes bar oneMinuteBars) bar.toCandle)
    (stops : phase.1 = false → stopHit signal bar.toCandle signal.initialStop = true →
      floor ≤ worth config signal false signal.initialStop)
    (settles : phase.1 = true ∨ TouchesStop config signal phase.1 bar.toCandle)
    (reads : isPostEntry signal bar = true) :
    Outcome (fun next => GapsAbove config signal floor phase.1 (candlesBy oneMinuteBars bar) ∧
        next.1 = true ∧ 0 ≤ r signal (next.2.getLastD 0))
      (fun total => roundTo 6 floor ≤ roundTo 6 total ↔
        GapsAbove config signal floor phase.1 (candlesBy oneMinuteBars bar))
      (phaseBar config signal (candlesBy oneMinuteBars) phase bar) := by
  unfold phaseBar
  rw [if_pos reads, candlesBy_of_children children]
  have minutesStop : phase.1 = false → ∀ minute ∈ completeMinutes bar oneMinuteBars,
      stopHit signal minute signal.initialStop = true →
      floor ≤ worth config signal false signal.initialStop := fun fresh minute member hit =>
    stops fresh (children.stopHit_iff.mpr ⟨minute, member, hit⟩)
  have ordered := candles_floor sound safe least minutesStop children.ordered
  cases ran : loop (phaseCandle config signal) phase.1 (completeMinutes bar oneMinuteBars) with
  | error total =>
    rw [ran] at ordered
    exact ordered
  | ok scaledOut =>
    rw [ran] at ordered
    have above : GapsAbove config signal floor phase.1 (completeMinutes bar oneMinuteBars) :=
      ordered
    obtain ⟨missed, lastMissed, grows⟩ := candles_ok safe ran
    obtain rfl : scaledOut = true := by
      rw [grows, ← children.targetHit_eq]
      rcases settles with isScaled | hit | ⟨-, reached, -⟩
      · rw [isScaled, Bool.true_or]
      · obtain ⟨minute, member, touches⟩ := children.stopHit_iff.mp hit
        exact absurd touches (missed minute member)
      · rw [reached, Bool.or_true]
    have favorable : 0 ≤ r signal bar.close := by
      obtain ⟨last, isLast, inRange, same⟩ := children.last_close
      rw [← same]
      exact r_close_nonneg safe.risk (lastMissed last isLast) inRange
    have closeWorth : floor ≤ worth config signal true bar.close := by
      refine least.trans (worth_mono sound true ?_)
      rw [r_entry]
      exact favorable
    unfold phaseClose
    dsimp only
    split_ifs
    · exact iff_of_true (roundTo_mono 6 closeWorth) above
    · exact iff_of_true (roundTo_mono 6 closeWorth) above
    · refine ⟨above, rfl, ?_⟩
      simpa using favorable

theorem phaseReplay_cons (candlesOf : MarketCandle → List Candle) :
    phaseReplay config signal candlesOf phase (bar :: bars) =
      match phaseBar config signal candlesOf phase bar with
      | .error total => total
      | .ok next => phaseReplay config signal candlesOf next bars := by
  unfold phaseReplay
  rw [loop_cons]
  cases phaseBar config signal candlesOf phase bar with
  | error total => rfl
  | ok next => rfl

/-- A position that is scaled out and was last seen beyond its entry is closed for no less than a
floor exactly when no candle is filled for less. -/
theorem scaled_floor (sound : SoundConfig config) (safe : ProtectedSignal signal) {floor : ℚ}
    (least : floor ≤ worth config signal true signal.entryPrice)
    (complete : Complete signal oneMinuteBars bars) (isScaled : phase.1 = true)
    (favorable : 0 ≤ r signal (phase.2.getLastD 0)) :
    roundTo 6 floor ≤ roundTo 6 (phaseReplay config signal (candlesBy oneMinuteBars) phase bars) ↔
      BarsAbove config signal (candlesBy oneMinuteBars) floor phase bars := by
  induction bars generalizing phase with
  | nil =>
    refine iff_of_true (roundTo_mono 6 (least.trans ?_)) trivial
    show _ ≤ worth config signal phase.1 (phase.2.getLastD 0)
    rw [isScaled]
    refine worth_mono sound true ?_
    rw [r_entry]
    exact favorable
  | cons bar rest inductionHypothesis =>
    have later : Complete signal oneMinuteBars rest := fun other member =>
      complete other (List.mem_cons_of_mem bar member)
    rw [phaseReplay_cons]
    unfold BarsAbove
    by_cases reads : isPostEntry signal bar = true
    · have first := phaseBar_floor sound safe least (complete bar List.mem_cons_self reads)
        (fun fresh => by simp [isScaled] at fresh) (.inl isScaled) reads
      cases ran : phaseBar config signal (candlesBy oneMinuteBars) phase bar with
      | error total =>
        rw [ran] at first
        simpa [reads, Outcome] using first
      | ok next =>
        rw [ran] at first
        obtain ⟨above, nextScaled, nextFavorable⟩ := first
        simpa [reads, above] using inductionHypothesis later nextScaled nextFavorable
    · have unread : phaseBar config signal (candlesBy oneMinuteBars) phase bar = .ok phase := by
        unfold phaseBar
        rw [if_neg reads]
      simpa [reads, unread] using inductionHypothesis later isScaled favorable

theorem phaseBar_eq (safe : ProtectedSignal signal) (children : isPostEntry signal bar = true →
      Children (completeMinutes bar oneMinuteBars) bar.toCandle)
    (untouched : ¬(isPostEntry signal bar = true ∧
      TouchesStop config signal phase.1 bar.toCandle)) :
    phaseBar config signal (candlesBy []) phase bar =
      phaseBar config signal (candlesBy oneMinuteBars) phase bar := by
  unfold phaseBar
  split_ifs with reads
  · rw [candlesBy_nil, candlesBy_of_children (children reads),
      (children reads).loop_eq safe fun touches => untouched ⟨reads, touches⟩]
  · rfl

theorem floorOf_le (sound : SoundConfig config) (safe : ProtectedSignal signal)
    (scaledOut : Bool) (bar : Candle) :
    floorOf config signal scaledOut bar ≤ worth config signal true signal.entryPrice ∧
      (stopHit signal bar (stopOf signal scaledOut) = true →
        floorOf config signal scaledOut bar ≤
          worth config signal scaledOut (stopOf signal scaledOut)) := by
  have filled : worth config signal scaledOut
      (stopFill signal bar (stopOf signal scaledOut)) ≤
      worth config signal scaledOut (stopOf signal scaledOut) :=
    worth_mono sound scaledOut (r_stopFill_le safe.risk _)
  unfold floorOf
  split_ifs with hit
  · exact ⟨filled.trans (worth_stop_le sound safe scaledOut), fun _ => filled⟩
  · exact ⟨le_rfl, fun isHit => absurd isHit hit⟩

/-- The total by bars is no more than the total by minutes exactly when the fallback is
conservative. -/
theorem phaseReplay_le_iff (sound : SoundConfig config) (safe : ProtectedSignal signal)
    (complete : Complete signal oneMinuteBars bars) :
    roundTo 6 (phaseReplay config signal (candlesBy []) phase bars) ≤
        roundTo 6 (phaseReplay config signal (candlesBy oneMinuteBars) phase bars) ↔
      Conservative config signal (candlesBy oneMinuteBars) phase bars := by
  induction bars generalizing phase with
  | nil => exact iff_of_true le_rfl trivial
  | cons bar rest inductionHypothesis =>
    have later : Complete signal oneMinuteBars rest := fun other member =>
      complete other (List.mem_cons_of_mem bar member)
    rw [phaseReplay_cons, phaseReplay_cons]
    unfold Conservative
    by_cases touches : isPostEntry signal bar = true ∧
        TouchesStop config signal phase.1 bar.toCandle
    · obtain ⟨least, stops⟩ := floorOf_le sound safe phase.1 bar.toCandle
      have coarse : phaseBar config signal (candlesBy []) phase bar =
          .error (floorOf config signal phase.1 bar.toCandle) := by
        unfold phaseBar
        rw [if_pos touches.1, candlesBy_nil, loop_of_touchesStop touches.2]
      have first := phaseBar_floor sound safe least (complete bar List.mem_cons_self touches.1)
        (fun fresh hit => by
          rw [fresh] at stops ⊢
          exact stops hit) (.inr touches.2) touches.1
      rw [if_pos touches, coarse]
      unfold BarsAbove
      cases ran : phaseBar config signal (candlesBy oneMinuteBars) phase bar with
      | error total =>
        rw [ran] at first
        simpa [touches.1, Outcome] using first
      | ok next =>
        rw [ran] at first
        obtain ⟨above, nextScaled, nextFavorable⟩ := first
        simpa [touches.1, above] using scaled_floor sound safe least later nextScaled nextFavorable
    · rw [if_neg touches, phaseBar_eq safe (complete bar List.mem_cons_self) touches]
      cases phaseBar config signal (candlesBy oneMinuteBars) phase bar with
      | error total => simp
      | ok next => simpa using inductionHypothesis later

end Runs

/-! ### The fallback -/

/-- The five-minute fallback realizes no more than the minutes exactly when no candle after a
stop of a bar finds the position open and is filled, beyond the stop in force, for less. -/
theorem fallback_conservative_iff {config : StrategyDConfig} {signal : StrategyDSignal}
    {history futureBars oneMinuteBars : List MarketCandle}
    {coarse fine : StrategyDLifecycleResult} (sound : SoundConfig config)
    (safe : ProtectedSignal signal) (complete : Complete signal oneMinuteBars futureBars)
    (byBars : replayUnderlyingLifecycle config signal history futureBars [] = .ok coarse)
    (byMinutes : replayUnderlyingLifecycle config signal history futureBars oneMinuteBars =
      .ok fine) :
    coarse.realizedR ≤ fine.realizedR ↔
      Conservative config signal (candlesBy oneMinuteBars) (enteredPhase history) futureBars := by
  rw [replay_realizes byBars, replay_realizes byMinutes]
  exact phaseReplay_le_iff sound safe complete

/-- A bar that falls through the stop at 97. -/
def fallingBars : List MarketCandle := [fiveMinuteBar 0 101 101 90 91]

/-- Its minutes: the second one opens at 92, beyond the stop. -/
def fallingMinutes : List MarketCandle :=
  [flatMinute 0 101, flatMinute 1 92, flatMinute 2 90, flatMinute 3 91, flatMinute 4 91]

theorem standard_sound : SoundConfig .standard :=
  ⟨by decide +kernel, by decide +kernel, by decide +kernel⟩

theorem threePointSignal_protected : ProtectedSignal threePointSignal where
  risk := by decide +kernel
  pivot := fun price none => by cases none
  stop := by decide +kernel

theorem falling_complete : Complete threePointSignal fallingMinutes fallingBars := by
  intro bar member _
  obtain rfl := List.mem_singleton.mp member
  constructor
  · constructor <;> decide +kernel
  · decide +kernel

theorem falling_replays :
    ∃ coarse fine,
      replayUnderlyingLifecycle .standard threePointSignal [] fallingBars [] = .ok coarse ∧
      replayUnderlyingLifecycle .standard threePointSignal [] fallingBars fallingMinutes =
        .ok fine ∧ coarse.realizedR = -1 ∧ fine.realizedR < -2 := by
  have reads : ∀ bar ∈ fallingBars, isPostEntry threePointSignal bar = true := by decide +kernel
  obtain ⟨coarse, byBars⟩ := exists_replay .standard threePointSignal [] fallingBars []
    (List.cons_ne_nil _ _) reads
  obtain ⟨fine, byMinutes⟩ := exists_replay .standard threePointSignal [] fallingBars
    fallingMinutes (List.cons_ne_nil _ _) reads
  have coarseLoss : ∀ closed ∈ (replayUnderlyingLifecycle .standard threePointSignal []
      fallingBars []).toOption, closed.realizedR = -1 := by decide +kernel
  have fineLoss : ∀ closed ∈ (replayUnderlyingLifecycle .standard threePointSignal []
      fallingBars fallingMinutes).toOption, closed.realizedR < -2 := by decide +kernel
  rw [byBars] at coarseLoss
  rw [byMinutes] at fineLoss
  exact ⟨coarse, fine, byBars, byMinutes, coarseLoss coarse rfl, fineLoss fine rfl⟩

theorem fallback_conservative_iff_falling :
    ∃ coarse fine : StrategyDLifecycleResult, coarse.realizedR ≤ fine.realizedR ↔
      Conservative .standard threePointSignal (candlesBy fallingMinutes) (enteredPhase [])
        fallingBars := by
  obtain ⟨coarse, fine, byBars, byMinutes, -, -⟩ := falling_replays
  exact ⟨coarse, fine, fallback_conservative_iff standard_sound threePointSignal_protected
    falling_complete byBars byMinutes⟩

/-- The fallback is not conservative where a minute inside a bar opens beyond the stop. -/
theorem fallback_not_conservative :
    ¬∀ (signal : StrategyDSignal) (history futureBars oneMinuteBars : List MarketCandle)
      (coarse fine : StrategyDLifecycleResult), ProtectedSignal signal →
      Complete signal oneMinuteBars futureBars →
      replayUnderlyingLifecycle .standard signal history futureBars [] = .ok coarse →
      replayUnderlyingLifecycle .standard signal history futureBars oneMinuteBars = .ok fine →
      coarse.realizedR ≤ fine.realizedR := by
  intro conservative
  obtain ⟨coarse, fine, byBars, byMinutes, loses, losesMore⟩ := falling_replays
  have le := conservative _ _ _ _ _ _ threePointSignal_protected falling_complete byBars byMinutes
  linarith

end BreezeTrading.StrategyDPositionManager
