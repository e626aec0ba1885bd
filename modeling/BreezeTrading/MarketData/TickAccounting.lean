/-
This file proves what becomes of the quotes that the builder of candles accepts. Bars start one
after the other, and their volumes add up to what the volume of the day gained. Each accepted
quote is in exactly one bar exactly where the source never changes: a quote of another source
drops the bar in progress.
-/

import BreezeTrading.Lib.Table
import BreezeTrading.MarketData.CandleBuilder
import Mathlib.Data.List.Chain
import Mathlib.Data.List.MinMax
import Mathlib.Tactic.Linarith

namespace BreezeTrading

namespace CandleBuilder

open PerKey Run

/-! ### Accepted quotes -/

/-- A quote that is accepted, with what it adds to the volume of its bar. -/
structure Tick where
  quote : MarketQuote
  volumeDelta : Int

/-- The quotes that are newer than the last one accepted before them. -/
def accepted : Option MarketQuote → List MarketQuote → List Tick
  | _, [] => []
  | previous, quote :: rest =>
      if accepts previous quote then
        ⟨quote, volumeDelta previous quote⟩ :: accepted (some quote) rest
      else accepted previous rest

theorem accepted_cons (previous : Option MarketQuote) (quote : MarketQuote)
    (rest : List MarketQuote) :
    accepted previous (quote :: rest) =
      if accepts previous quote then
        ⟨quote, volumeDelta previous quote⟩ :: accepted (some quote) rest
      else accepted previous rest := rfl

def ticksOf (instrumentId : String) (quotes : List MarketQuote) : List Tick :=
  accepted none (opsOf MarketQuote.instrumentId instrumentId quotes)

/-- A tick and the next one. -/
structure Linked (first second : Tick) : Prop where
  newer : first.quote.timestamp < second.quote.timestamp
  gain : second.volumeDelta = volumeDelta (some first.quote) second.quote

theorem accepted_linked (quotes : List MarketQuote) (first : Tick) :
    (first :: accepted (some first.quote) quotes).IsChain Linked := by
  induction quotes generalizing first with
  | nil => exact .singleton first
  | cons quote rest inductionHypothesis =>
    unfold accepted
    split
    · rename_i isNewer
      exact .cons_cons ⟨of_decide_eq_true isNewer, rfl⟩ (inductionHypothesis ⟨quote, _⟩)
    · exact inductionHypothesis first

theorem ticksOf_linked (instrumentId : String) (quotes : List MarketQuote) :
    (ticksOf instrumentId quotes).IsChain Linked := by
  unfold ticksOf
  cases opsOf MarketQuote.instrumentId instrumentId quotes with
  | nil => exact .nil
  | cons quote rest => exact accepted_linked rest ⟨quote, _⟩

/-! ### Bars of accepted quotes -/

section Ticks

variable (builder : CandleBuilder)

def tickStep (current : Option Bar) (tick : Tick) : Option Bar :=
  some (builder.nextBar current tick.volumeDelta tick.quote)

def tickEmit (current : Option Bar) (tick : Tick) : Option CompletedCandle :=
  builder.completedBy current tick.quote

/-- The candles that ticks complete. -/
def closed (ticks : List Tick) : List CompletedCandle :=
  outputs builder.tickStep builder.tickEmit none ticks

/-- The bar in progress after ticks. -/
def progress (ticks : List Tick) : Option Bar := ticks.foldl builder.tickStep none

/-- The bars of ticks: those completed, and the one in progress. -/
def bars (ticks : List Tick) : List Bar :=
  (builder.closed ticks).map CompletedCandle.toBar ++ (builder.progress ticks).toList

def startOf (tick : Tick) : Int := builder.barStart tick.quote.timestamp

variable {builder}

theorem processQuote_of_accepts {feed : Feed} {quote : MarketQuote}
    (isNewer : accepts feed.previous quote = true) :
    builder.processQuote feed quote =
      (⟨builder.tickStep feed.current ⟨quote, volumeDelta feed.previous quote⟩, some quote⟩,
        builder.tickEmit feed.current ⟨quote, volumeDelta feed.previous quote⟩) := if_pos isNewer

theorem processQuote_of_not_accepts {feed : Feed} {quote : MarketQuote}
    (isLate : ¬accepts feed.previous quote = true) :
    builder.processQuote feed quote = (feed, none) := if_neg isLate

section

variable (quotes : List MarketQuote)

theorem current_foldl_feedStep (feed : Feed) : (quotes.foldl builder.feedStep feed).current =
      (accepted feed.previous quotes).foldl builder.tickStep feed.current := by
  induction quotes generalizing feed with
  | nil => rfl
  | cons quote rest inductionHypothesis =>
    rw [List.foldl_cons, inductionHypothesis, accepted_cons, feedStep]
    by_cases isNewer : accepts feed.previous quote = true
    · rw [processQuote_of_accepts isNewer, if_pos isNewer]
      rfl
    · rw [processQuote_of_not_accepts isNewer, if_neg isNewer]

theorem outputs_feedStep (feed : Feed) : outputs builder.feedStep builder.feedEmit feed quotes =
      outputs builder.tickStep builder.tickEmit feed.current (accepted feed.previous quotes) := by
  induction quotes generalizing feed with
  | nil => rfl
  | cons quote rest inductionHypothesis =>
    rw [outputs, inductionHypothesis, accepted_cons, feedStep, feedEmit]
    by_cases isNewer : accepts feed.previous quote = true
    · rw [processQuote_of_accepts isNewer, if_pos isNewer]
      rfl
    · rw [processQuote_of_not_accepts isNewer, if_neg isNewer]
      rfl

theorem run_eq_progress (instrumentId : String) :
    (builder.run quotes instrumentId).current = builder.progress (ticksOf instrumentId quotes) := by
  rw [run, foldl_keyedStep, current_foldl_feedStep]
  rfl

theorem emitted_eq_closed (instrumentId : String) :
    (builder.emitted quotes).filter (fun candle => decide (candle.instrumentId = instrumentId)) =
      builder.closed (ticksOf instrumentId quotes) := by
  have labelled : ∀ feed quote, ∀ candle ∈ builder.feedEmit feed quote,
      candle.instrumentId = quote.instrumentId := by
    intro feed quote candle emits
    unfold feedEmit processQuote at emits
    split at emits
    · obtain ⟨bar, -, rfl⟩ := Option.map_eq_some_iff.mp emits
      rfl
    · cases emits
  rw [emitted, outputs_keyedStep labelled, outputs_feedStep]
  rfl

end

theorem closed_concat (ticks : List Tick) (tick : Tick) :
    builder.closed (ticks ++ [tick]) =
      builder.closed ticks ++ (builder.tickEmit (builder.progress ticks) tick).toList := by
  rw [closed, outputs_append, outputs_singleton]
  rfl

theorem progress_concat (ticks : List Tick) (tick : Tick) :
    builder.progress (ticks ++ [tick]) =
      some (builder.nextBar (builder.progress ticks) tick.volumeDelta tick.quote) := by
  rw [progress, List.foldl_append]
  rfl

/-! ### The order of bars -/

theorem barStart_bounds (builder : CandleBuilder) (moment : Int) :
    moment - moment % 3600000000 ≤ builder.barStart moment ∧ builder.barStart moment ≤ moment := by
  have nonneg : 0 ≤ moment % 3600000000 / 60000000 :=
    Int.ediv_nonneg (Int.emod_nonneg _ (by decide)) (by decide)
  have minutes : moment % 3600000000 / 60000000 / builder.intervalMinutes *
      builder.intervalMinutes ≤ moment % 3600000000 / 60000000 :=
    Int.ediv_mul_le _ (Int.natCast_ne_zero.mpr builder.positive.ne')
  have product : 0 ≤ moment % 3600000000 / 60000000 / builder.intervalMinutes *
      builder.intervalMinutes :=
    mul_nonneg (Int.ediv_nonneg nonneg (Int.natCast_nonneg _)) (Int.natCast_nonneg _)
  unfold barStart
  omega

theorem barStart_mono (builder : CandleBuilder) {first second : Int} (le : first ≤ second) :
    builder.barStart first ≤ builder.barStart second := by
  by_cases sameHour : first / 3600000000 = second / 3600000000
  · have minutes : first % 3600000000 / 60000000 ≤ second % 3600000000 / 60000000 := by omega
    have counted : first % 3600000000 / 60000000 / builder.intervalMinutes *
        builder.intervalMinutes ≤ second % 3600000000 / 60000000 / builder.intervalMinutes *
        builder.intervalMinutes :=
      mul_le_mul_of_nonneg_right
        (Int.ediv_le_ediv (Int.natCast_pos.mpr builder.positive) minutes) (Int.natCast_nonneg _)
    unfold barStart
    omega
  · have inFirst := (barStart_bounds builder first).2
    have inSecond := (barStart_bounds builder second).1
    omega

theorem startTime_nextBar (current : Option Bar) (delta : Int) (quote : MarketQuote) :
    (builder.nextBar current delta quote).startTime = builder.barStart quote.timestamp := by
  unfold nextBar
  cases same : (active current quote).filter fun bar =>
      decide (bar.startTime = builder.barStart quote.timestamp) with
  | none => rfl
  | some bar => exact of_decide_eq_true (Option.filter_eq_some_iff.mp same).2

theorem source_nextBar (current : Option Bar) (delta : Int) (quote : MarketQuote) :
    (builder.nextBar current delta quote).source = quote.source := by
  unfold nextBar
  cases same : (active current quote).filter fun bar =>
      decide (bar.startTime = builder.barStart quote.timestamp) with
  | none => rfl
  | some bar =>
    have isActive := (Option.filter_eq_some_iff.mp same).1
    exact of_decide_eq_true (Option.filter_eq_some_iff.mp isActive).2

variable {ticks : List Tick}

theorem mem_progress {bar : Bar} (isBar : bar ∈ builder.progress ticks) :
    ∃ last ∈ ticks.getLast?, bar.startTime = builder.startOf last ∧
      bar.source = last.quote.source := by
  cases ticks using List.reverseRecOn with
  | nil => cases isBar
  | append_singleton ticks tick =>
    rw [progress_concat] at isBar
    cases isBar
    exact ⟨tick, List.getLast?_concat, startTime_nextBar _ _ _, source_nextBar _ _ _⟩

theorem isSome_progress (nonempty : ticks ≠ []) :
    (builder.progress ticks).isSome = true := by
  cases ticks using List.reverseRecOn with
  | nil => exact absurd rfl nonempty
  | append_singleton ticks tick =>
    rw [progress_concat]
    rfl

theorem eq_nil_of_progress (nothing : builder.progress ticks = none) :
    ticks = [] := by
  by_contra nonempty
  have isBar := @isSome_progress builder ticks nonempty
  rw [nothing] at isBar
  cases isBar

theorem startTime_le {tick : Tick} (linked : (ticks ++ [tick]).IsChain Linked) {bar : Bar}
    (isBar : bar ∈ builder.progress ticks) : bar.startTime ≤ builder.startOf tick := by
  obtain ⟨last, isLast, starts, -⟩ := mem_progress isBar
  obtain ⟨-, -, isLinked⟩ := List.isChain_append.mp linked
  rw [starts]
  exact barStart_mono builder (isLinked last isLast tick rfl).newer.le

variable {current : Option Bar}

theorem mem_tickEmit {tick : Tick} {candle : CompletedCandle} :
    candle ∈ builder.tickEmit current tick ↔
      ∃ bar ∈ current, bar.source = tick.quote.source ∧ bar.startTime ≠ builder.startOf tick ∧
        builder.complete tick.quote.instrumentId bar = candle := by
  unfold tickEmit completedBy active
  rw [Option.mem_def, Option.map_eq_some_iff]
  simp only [Option.filter_eq_some_iff, decide_eq_true_eq, and_assoc]
  rfl

/-! ### What a tick does to the bar in progress -/

section Steps

variable {bar : Bar} {tick : Tick}

theorem step_same (sameSource : bar.source = tick.quote.source)
    (sameBar : bar.startTime = builder.startOf tick) :
    builder.tickStep (some bar) tick = some (bar.add tick.volumeDelta tick.quote) ∧
      builder.tickEmit (some bar) tick = none := by
  unfold startOf at sameBar
  unfold tickStep tickEmit nextBar completedBy active
  simp [Option.filter_some, sameSource, sameBar]

theorem step_later (sameSource : bar.source = tick.quote.source)
    (otherBar : bar.startTime ≠ builder.startOf tick) :
    builder.tickStep (some bar) tick =
        some (Bar.ofQuote (builder.startOf tick) tick.volumeDelta tick.quote) ∧
      builder.tickEmit (some bar) tick = some (builder.complete tick.quote.instrumentId bar) := by
  unfold startOf at *
  unfold tickStep tickEmit nextBar completedBy active
  simp [Option.filter_some, sameSource, otherBar]

theorem step_other (otherSource : bar.source ≠ tick.quote.source) :
    builder.tickStep (some bar) tick =
        some (Bar.ofQuote (builder.startOf tick) tick.volumeDelta tick.quote) ∧
      builder.tickEmit (some bar) tick = none := by
  unfold startOf tickStep tickEmit nextBar completedBy active
  simp [Option.filter_some, otherSource]

end Steps

theorem closed_before_progress (linked : ticks.IsChain Linked)
    {candle : CompletedCandle} (isCandle : candle ∈ builder.closed ticks) {bar : Bar}
    (isBar : bar ∈ builder.progress ticks) : candle.startTime < bar.startTime := by
  induction ticks using List.reverseRecOn generalizing candle bar with
  | nil => cases isCandle
  | append_singleton ticks tick inductionHypothesis =>
    have linkedBefore := (List.isChain_append.mp linked).1
    rw [progress_concat] at isBar
    cases isBar
    rw [startTime_nextBar]
    rw [closed_concat, List.mem_append, Option.mem_toList] at isCandle
    rcases isCandle with isEarlier | emits
    · have nonempty : ticks ≠ [] := fun empty => by
        subst empty
        cases isEarlier
      obtain ⟨before, isBefore⟩ := Option.isSome_iff_exists.mp (isSome_progress nonempty)
      exact (inductionHypothesis linkedBefore isEarlier isBefore).trans_le
        (startTime_le linked isBefore)
    · obtain ⟨before, isBefore, -, otherStart, rfl⟩ := mem_tickEmit.mp emits
      exact lt_of_le_of_ne (startTime_le linked isBefore) otherStart

theorem closed_pairwise (linked : ticks.IsChain Linked) :
    (builder.closed ticks).Pairwise fun first second => first.startTime < second.startTime := by
  induction ticks using List.reverseRecOn with
  | nil => exact .nil
  | append_singleton ticks tick inductionHypothesis =>
    have linkedBefore := (List.isChain_append.mp linked).1
    rw [closed_concat]
    refine List.pairwise_append.mpr ⟨inductionHypothesis linkedBefore, ?_, ?_⟩
    · cases builder.tickEmit (builder.progress ticks) tick with
      | none => exact .nil
      | some candle => exact List.pairwise_singleton _ candle
    · intro earlier isEarlier later isLater
      obtain ⟨bar, isBar, -, -, rfl⟩ := mem_tickEmit.mp (Option.mem_toList.mp isLater)
      exact closed_before_progress linkedBefore isEarlier isBar

/-! ### Prices -/

structure Bar.Ordered (bar : Bar) : Prop where
  openAbove : bar.low ≤ bar.openPrice
  openBelow : bar.openPrice ≤ bar.high
  closeAbove : bar.low ≤ bar.close
  closeBelow : bar.close ≤ bar.high

theorem ordered_nextBar (ordered : ∀ bar ∈ current, bar.Ordered) (delta : Int) (quote : MarketQuote)
    : (builder.nextBar current delta quote).Ordered := by
  unfold nextBar
  cases same : (active current quote).filter fun bar =>
      decide (bar.startTime = builder.barStart quote.timestamp) with
  | none => exact ⟨le_rfl, le_rfl, le_rfl, le_rfl⟩
  | some bar =>
    have isActive := (Option.filter_eq_some_iff.mp same).1
    have before := ordered bar (Option.filter_eq_some_iff.mp isActive).1
    exact ⟨(min_le_left _ _).trans before.openAbove, before.openBelow.trans (le_max_left _ _),
      min_le_right _ _, le_max_right _ _⟩

theorem ordered_bars {ticks : List Tick} : ∀ bar ∈ builder.bars ticks, bar.Ordered := by
  induction ticks using List.reverseRecOn with
  | nil => exact fun bar member => by cases member
  | append_singleton ticks tick inductionHypothesis =>
    have progressOrdered : ∀ bar ∈ builder.progress ticks, bar.Ordered := fun bar isBar =>
      inductionHypothesis bar (List.mem_append_right _ (Option.mem_toList.mpr isBar))
    intro bar member
    rw [bars, closed_concat, progress_concat, List.map_append, List.mem_append,
      List.mem_append] at member
    rcases member with (isEarlier | isNew) | isProgress
    · exact inductionHypothesis bar (List.mem_append_left _ isEarlier)
    · obtain ⟨candle, emits, rfl⟩ := List.mem_map.mp isNew
      obtain ⟨before, isBefore, -, -, rfl⟩ := mem_tickEmit.mp (Option.mem_toList.mp emits)
      exact progressOrdered before isBefore
    · obtain rfl := List.mem_singleton.mp isProgress
      exact ordered_nextBar progressOrdered _ _

/-! ### Volume -/

/-- A tick of the same source and day as the one before, with no less volume of the day. -/
structure Steady (first second : Tick) : Prop where
  source : first.quote.source = second.quote.source
  day : istDay first.quote.timestamp = istDay second.quote.timestamp
  volume : first.quote.volume ≤ second.quote.volume

def progressVolume (current : Option Bar) : Int := current.elim 0 fun bar => bar.volume

theorem volume_tickStep {tick : Tick} (sameSource : ∀ bar ∈ current, bar.source = tick.quote.source)
    : ((builder.tickEmit current tick).toList.map fun candle => candle.volume).sum +
        progressVolume (builder.tickStep current tick) =
      progressVolume current + tick.volumeDelta := by
  cases current with
  | none => rfl
  | some bar =>
    by_cases sameBar : bar.startTime = builder.startOf tick
    · obtain ⟨step, emits⟩ := step_same (sameSource bar rfl) sameBar
      rw [step, emits]
      exact zero_add _
    · obtain ⟨step, emits⟩ := step_later (sameSource bar rfl) sameBar
      rw [step, emits]
      exact congrArg (· + tick.volumeDelta) (List.sum_singleton)

theorem source_tickStep (current : Option Bar) (tick : Tick) :
    ∀ bar ∈ builder.tickStep current tick, bar.source = tick.quote.source := by
  intro bar isBar
  cases isBar
  exact source_nextBar _ _ _

theorem volume_steady (first : Tick) (ticks : List Tick)
    (sameSource : ∀ bar ∈ current, bar.source = first.quote.source)
    (linked : (first :: ticks).IsChain Linked) (steady : (first :: ticks).IsChain Steady) :
    ((outputs builder.tickStep builder.tickEmit current ticks).map
        fun candle => candle.volume).sum + progressVolume (ticks.foldl builder.tickStep current) =
      progressVolume current +
        (((first :: ticks).getLast (List.cons_ne_nil _ _)).quote.volume - first.quote.volume) := by
  induction ticks generalizing first current with
  | nil => simp [outputs]
  | cons tick rest inductionHypothesis =>
    obtain ⟨isLinked, linkedRest⟩ := List.isChain_cons_cons.mp linked
    obtain ⟨isSteady, steadyRest⟩ := List.isChain_cons_cons.mp steady
    have later := inductionHypothesis tick (@source_tickStep builder current tick) linkedRest
      steadyRest
    have here := @volume_tickStep builder current tick fun bar isBar =>
      (sameSource bar isBar).trans isSteady.source
    have gain : tick.volumeDelta = tick.quote.volume - first.quote.volume := by
      rw [isLinked.gain, volumeDelta, Option.elim_some, if_pos ⟨isSteady.source, isSteady.day⟩]
      exact max_eq_right (sub_nonneg.mpr isSteady.volume)
    rw [outputs, List.map_append, List.sum_append, List.foldl_cons, List.getLast_cons_cons]
    linarith

/-! ### Bars as folds -/

/-- A bar is made of ticks: their first, highest, lowest and last price, and what they add. -/
structure Bar.IsFoldOf (bar : Bar) (ticks : List Tick) : Prop where
  opens : (ticks.head?.map fun tick => tick.quote.lastPrice) = some bar.openPrice
  highest : (ticks.map fun tick => tick.quote.lastPrice).max? = some bar.high
  lowest : (ticks.map fun tick => tick.quote.lastPrice).min? = some bar.low
  closes : (ticks.getLast?.map fun tick => tick.quote.lastPrice) = some bar.close
  adds : (ticks.map Tick.volumeDelta).sum = bar.volume
  openInterest : (ticks.getLast?.map fun tick => tick.quote.openInterest) = some bar.openInterest

theorem max?_concat {values : List ℚ} {best : ℚ} (isBest : values.max? = some best) (value : ℚ) :
    (values ++ [value]).max? = some (max best value) := by
  cases values with
  | nil => cases isBest
  | cons first rest =>
    cases isBest
    rw [List.cons_append, List.max?_cons', List.foldl_append]
    rfl

theorem min?_concat {values : List ℚ} {least : ℚ} (isLeast : values.min? = some least)
    (value : ℚ) : (values ++ [value]).min? = some (min least value) := by
  cases values with
  | nil => cases isLeast
  | cons first rest =>
    cases isLeast
    rw [List.cons_append, List.min?_cons', List.foldl_append]
    rfl

theorem isFoldOf_ofQuote (start : Int) (tick : Tick) :
    (Bar.ofQuote start tick.volumeDelta tick.quote).IsFoldOf [tick] :=
  ⟨rfl, rfl, rfl, rfl, List.sum_singleton, rfl⟩

theorem isFoldOf_add {bar : Bar} (fold : bar.IsFoldOf ticks) (tick : Tick) :
    (bar.add tick.volumeDelta tick.quote).IsFoldOf (ticks ++ [tick]) where
  opens := by
    rw [List.head?_append]
    cases first : ticks.head? with
    | none =>
      have opens := fold.opens
      rw [first] at opens
      cases opens
    | some head =>
      have opens := fold.opens
      rw [first] at opens
      exact opens
  highest := by
    rw [List.map_append]
    exact max?_concat fold.highest _
  lowest := by
    rw [List.map_append]
    exact min?_concat fold.lowest _
  closes := by
    rw [List.getLast?_concat]
    rfl
  adds := by
    rw [List.map_append, List.sum_append, fold.adds]
    exact congrArg (bar.volume + ·) List.sum_singleton
  openInterest := by
    rw [List.getLast?_concat]
    rfl

/-! ### Which bar a tick is in -/

variable (builder) in
/-- A tick is of the source and of the time of a bar. -/
def holds (bar : Bar) (tick : Tick) : Bool :=
  decide (tick.quote.source = bar.source ∧ builder.startOf tick = bar.startTime)

variable {ticks : List Tick} {tick : Tick} {bar : Bar}

section

variable (inProgress : builder.progress ticks = some bar)

include inProgress

theorem bars_of_progress :
    builder.bars ticks = (builder.closed ticks).map CompletedCandle.toBar ++ [bar] := by
  rw [bars, inProgress]
  rfl

theorem bars_concat_same (sameSource : bar.source = tick.quote.source)
    (sameBar : bar.startTime = builder.startOf tick) :
    builder.bars (ticks ++ [tick]) = (builder.closed ticks).map CompletedCandle.toBar ++
      [bar.add tick.volumeDelta tick.quote] := by
  obtain ⟨step, emits⟩ := step_same sameSource sameBar
  rw [bars, closed_concat, progress_concat, inProgress, emits, Option.toList_none, List.append_nil]
  exact congrArg (_ ++ Option.toList ·) step

theorem bars_concat_later (sameSource : bar.source = tick.quote.source)
    (otherBar : bar.startTime ≠ builder.startOf tick) :
    builder.bars (ticks ++ [tick]) = builder.bars ticks ++
      [Bar.ofQuote (builder.startOf tick) tick.volumeDelta tick.quote] := by
  obtain ⟨step, emits⟩ := step_later sameSource otherBar
  rw [bars, closed_concat, progress_concat, bars_of_progress inProgress, inProgress, emits,
    Option.toList_some, List.map_append]
  exact congrArg (_ ++ Option.toList ·) step

theorem bars_concat_other (otherSource : bar.source ≠ tick.quote.source) :
    builder.bars (ticks ++ [tick]) = (builder.closed ticks).map CompletedCandle.toBar ++
      [Bar.ofQuote (builder.startOf tick) tick.volumeDelta tick.quote] := by
  obtain ⟨step, emits⟩ := step_other otherSource
  rw [bars, closed_concat, progress_concat, inProgress, emits, Option.toList_none, List.append_nil]
  exact congrArg (_ ++ Option.toList ·) step

end

theorem holds_add (delta : Int) (quote : MarketQuote) :
    builder.holds (bar.add delta quote) = builder.holds bar := rfl

theorem bars_pairwise (linked : ticks.IsChain Linked) :
    (builder.bars ticks).Pairwise fun first second => first.startTime < second.startTime := by
  refine List.pairwise_append.mpr ⟨List.pairwise_map.mpr (closed_pairwise linked), ?_, ?_⟩
  · cases builder.progress ticks with
    | none => exact .nil
    | some bar => exact List.pairwise_singleton _ bar
  · intro earlier isEarlier bar isBar
    obtain ⟨candle, isCandle, rfl⟩ := List.mem_map.mp isEarlier
    exact closed_before_progress linked isCandle (Option.mem_toList.mp isBar)

theorem startOf_le (linked : ticks.IsChain Linked) (inProgress : builder.progress ticks = some bar)
    (member : tick ∈ ticks) : builder.startOf tick ≤ bar.startTime := by
  induction ticks using List.reverseRecOn generalizing bar with
  | nil => cases member
  | append_singleton ticks later inductionHypothesis =>
    rw [progress_concat] at inProgress
    cases inProgress
    rw [startTime_nextBar]
    rcases Stored.mem_concat.mp member with isEarlier | rfl
    · obtain ⟨before, isBefore⟩ := Option.isSome_iff_exists.mp
        (@isSome_progress builder ticks (List.ne_nil_of_mem isEarlier))
      exact (inductionHypothesis (List.isChain_append.mp linked).1 isBefore isEarlier).trans
        (startTime_le linked isBefore)
    · exact le_rfl

theorem once_iff (linked : ticks.IsChain Linked) (tick : Tick) :
    ((builder.bars ticks).filter fun bar => builder.holds bar tick).length = 1 ↔
      ∃ bar ∈ builder.bars ticks, builder.holds bar tick = true := by
  have sorted := (@bars_pairwise builder ticks linked).filter fun bar =>
    builder.holds bar tick
  have holding : ∀ bar ∈ (builder.bars ticks).filter fun bar => builder.holds bar tick,
      bar.startTime = builder.startOf tick := fun bar member =>
    (of_decide_eq_true (List.mem_filter.mp member).2).2.symm
  constructor
  · intro once
    obtain ⟨bar, isOnly⟩ := List.length_eq_one_iff.mp once
    exact ⟨bar, List.mem_filter.mp (isOnly ▸ List.mem_singleton_self bar)⟩
  · rintro ⟨bar, member, holds⟩
    have isKept : bar ∈ (builder.bars ticks).filter fun bar => builder.holds bar tick :=
      List.mem_filter.mpr ⟨member, holds⟩
    revert sorted holding isKept
    cases (builder.bars ticks).filter fun bar => builder.holds bar tick with
    | nil => exact fun _ _ isKept => by cases isKept
    | cons first rest =>
      intro sorted holding _
      cases rest with
      | nil => rfl
      | cons second others =>
        have less := (List.pairwise_cons.mp sorted).1 second List.mem_cons_self
        rw [holding first List.mem_cons_self,
          holding second (List.mem_cons_of_mem _ List.mem_cons_self)] at less
        exact absurd less (lt_irrefl _)

/-- The next tick is of the same source. -/
def SameSource (first second : Tick) : Prop := first.quote.source = second.quote.source

/-- Each tick is in a bar, and each bar is made of the ticks that are in it. -/
structure Accounted (builder : CandleBuilder) (ticks : List Tick) : Prop where
  fold : ∀ bar ∈ builder.bars ticks, bar.IsFoldOf (ticks.filter (builder.holds bar))
  held : ∀ tick ∈ ticks, ∃ bar ∈ builder.bars ticks, builder.holds bar tick = true

theorem filter_concat_of_ne (otherBar : bar.startTime ≠ builder.startOf tick) :
    (ticks ++ [tick]).filter (builder.holds bar) = ticks.filter (builder.holds bar) := by
  have dropped : [tick].filter (builder.holds bar) = [] :=
    List.filter_eq_nil_iff.mpr fun other isTick holds => otherBar (by
      rw [← List.mem_singleton.mp isTick, (of_decide_eq_true holds).2])
  rw [List.filter_append, dropped, List.append_nil]

theorem filter_concat_of_holds (holds : builder.holds bar tick = true) :
    (ticks ++ [tick]).filter (builder.holds bar) = ticks.filter (builder.holds bar) ++ [tick] := by
  rw [List.filter_append, List.filter_cons_of_pos holds]
  rfl

section

variable (linked : (ticks ++ [tick]).IsChain Linked) (accounted : Accounted builder ticks)
  (inProgress : builder.progress ticks = some bar) (sameSource : bar.source = tick.quote.source)

include linked accounted inProgress sameSource

theorem accounted_concat_same (sameBar : bar.startTime = builder.startOf tick) :
    Accounted builder (ticks ++ [tick]) := by
  have before := bars_of_progress inProgress
  have after := bars_concat_same inProgress sameSource sameBar
  have holds : builder.holds bar tick = true := decide_eq_true ⟨sameSource.symm, sameBar.symm⟩
  constructor
  · intro other member
    rw [after] at member
    rcases Stored.mem_concat.mp member with isClosed | rfl
    · obtain ⟨candle, isCandle, rfl⟩ := List.mem_map.mp isClosed
      have less := closed_before_progress (List.isChain_append.mp linked).1 isCandle inProgress
      rw [filter_concat_of_ne (less.trans_eq sameBar).ne]
      exact accounted.fold _ (before ▸ List.mem_append_left _ isClosed)
    · rw [holds_add, filter_concat_of_holds holds]
      exact isFoldOf_add
        (accounted.fold bar (before ▸ List.mem_concat_self)) tick
  · intro other member
    rw [after]
    rcases Stored.mem_concat.mp member with isEarlier | rfl
    · obtain ⟨holder, isBar, isHeld⟩ := accounted.held other isEarlier
      rw [before] at isBar
      rcases Stored.mem_concat.mp isBar with isClosed | rfl
      · exact ⟨holder, List.mem_append_left _ isClosed, isHeld⟩
      · exact ⟨_, List.mem_concat_self, isHeld⟩
    · exact ⟨_, List.mem_concat_self, holds⟩

theorem accounted_concat_later (otherBar : bar.startTime ≠ builder.startOf tick) :
    Accounted builder (ticks ++ [tick]) := by
  have linkedBefore := (List.isChain_append.mp linked).1
  have after := bars_concat_later inProgress sameSource otherBar
  have isLater := lt_of_le_of_ne (startTime_le linked inProgress) otherBar
  have holds : builder.holds (Bar.ofQuote (builder.startOf tick) tick.volumeDelta tick.quote) tick =
      true := decide_eq_true ⟨rfl, rfl⟩
  constructor
  · intro other member
    rw [after] at member
    rcases Stored.mem_concat.mp member with isBar | rfl
    · -- the tick is after all bars that there are
      have less : other.startTime < builder.startOf tick := by
        rw [bars_of_progress inProgress] at isBar
        rcases Stored.mem_concat.mp isBar with isClosed | rfl
        · obtain ⟨candle, isCandle, rfl⟩ := List.mem_map.mp isClosed
          exact (closed_before_progress linkedBefore isCandle inProgress).trans isLater
        · exact isLater
      rw [filter_concat_of_ne less.ne]
      exact accounted.fold other isBar
    · have noEarlier : ticks.filter (builder.holds
          (Bar.ofQuote (builder.startOf tick) tick.volumeDelta tick.quote)) = [] := by
        refine List.filter_eq_nil_iff.mpr fun earlier isEarlier isHeld => ?_
        have le := startOf_le linkedBefore inProgress isEarlier
        rw [(of_decide_eq_true isHeld).2] at le
        exact absurd le (not_le.mpr isLater)
      rw [filter_concat_of_holds holds, noEarlier]
      exact isFoldOf_ofQuote _ tick
  · intro other member
    rw [after]
    rcases Stored.mem_concat.mp member with isEarlier | rfl
    · obtain ⟨holder, isBar, isHeld⟩ := accounted.held other isEarlier
      exact ⟨holder, List.mem_append_left _ isBar, isHeld⟩
    · exact ⟨_, List.mem_concat_self, holds⟩

end

theorem accounted_singleton (tick : Tick) : Accounted builder [tick] := by
  have onlyBar : builder.bars [tick] =
      [Bar.ofQuote (builder.startOf tick) tick.volumeDelta tick.quote] := rfl
  have holds : builder.holds (Bar.ofQuote (builder.startOf tick) tick.volumeDelta tick.quote) tick =
      true := decide_eq_true ⟨rfl, rfl⟩
  constructor
  · intro bar member
    rw [onlyBar] at member
    obtain rfl := List.mem_singleton.mp member
    rw [List.filter_cons_of_pos holds]
    exact isFoldOf_ofQuote _ tick
  · intro other member
    rw [onlyBar, List.mem_singleton.mp member]
    exact ⟨_, List.mem_cons_self, holds⟩

theorem accounted_of_sameSource (linked : ticks.IsChain Linked)
    (same : ticks.IsChain SameSource) : Accounted builder ticks := by
  induction ticks using List.reverseRecOn with
  | nil =>
    refine ⟨fun bar member => ?_, fun tick member => ?_⟩ <;> cases member
  | append_singleton ticks tick inductionHypothesis =>
    have linkedBefore := (List.isChain_append.mp linked).1
    obtain ⟨sameBefore, -, sameLast⟩ := List.isChain_append.mp same
    have accounted := inductionHypothesis linkedBefore sameBefore
    cases inProgress : builder.progress ticks with
    | none =>
      obtain rfl := eq_nil_of_progress inProgress
      exact accounted_singleton tick
    | some bar =>
      obtain ⟨last, isLast, -, source⟩ := mem_progress inProgress
      have sameSource := source.trans (sameLast last isLast tick rfl)
      by_cases sameBar : bar.startTime = builder.startOf tick
      · exact accounted_concat_same linked accounted inProgress sameSource sameBar
      · exact accounted_concat_later linked accounted inProgress sameSource sameBar

theorem exists_unheld (linked : ticks.IsChain Linked) (changes : ¬ticks.IsChain SameSource) :
    ∃ tick ∈ ticks, ∀ bar ∈ builder.bars ticks, ¬builder.holds bar tick = true := by
  induction ticks using List.reverseRecOn with
  | nil => exact absurd .nil changes
  | append_singleton ticks tick inductionHypothesis =>
    have linkedBefore := (List.isChain_append.mp linked).1
    cases inProgress : builder.progress ticks with
    | none =>
      obtain rfl := eq_nil_of_progress inProgress
      exact absurd (.singleton tick) changes
    | some bar =>
      obtain ⟨last, isLast, starts, source⟩ := mem_progress inProgress
      have before := bars_of_progress inProgress
      by_cases sameSource : bar.source = tick.quote.source
      · -- the change is before this tick
        have changesBefore : ¬ticks.IsChain SameSource := by
          refine fun same => changes (List.isChain_append.mpr
            ⟨same, .singleton tick, fun other isOther next isNext => ?_⟩)
          obtain rfl := Option.some.inj (isLast.symm.trans isOther)
          cases isNext
          exact source.symm.trans sameSource
        obtain ⟨lost, isLost, unheld⟩ := inductionHypothesis linkedBefore changesBefore
        refine ⟨lost, List.mem_append_left _ isLost, fun other member isHeld => ?_⟩
        by_cases sameBar : bar.startTime = builder.startOf tick
        · rw [bars_concat_same inProgress sameSource sameBar] at member
          rcases Stored.mem_concat.mp member with isClosed | rfl
          · exact unheld other (before ▸ List.mem_append_left _ isClosed) isHeld
          · exact unheld bar (before ▸ List.mem_concat_self) isHeld
        · rw [bars_concat_later inProgress sameSource sameBar] at member
          rcases Stored.mem_concat.mp member with isBar | rfl
          · exact unheld other isBar isHeld
          · have le := startOf_le linkedBefore inProgress isLost
            rw [(of_decide_eq_true isHeld).2] at le
            exact absurd (le_antisymm (startTime_le linked inProgress) le) sameBar
      · -- the tick drops the bar of the last one
        refine ⟨last, List.mem_append_left _ (List.mem_of_getLast? isLast),
          fun other member isHeld => ?_⟩
        obtain ⟨heldSource, heldStart⟩ := of_decide_eq_true isHeld
        rw [bars_concat_other inProgress sameSource] at member
        rcases Stored.mem_concat.mp member with isClosed | rfl
        · obtain ⟨candle, isCandle, rfl⟩ := List.mem_map.mp isClosed
          have less := closed_before_progress linkedBefore isCandle inProgress
          rw [starts, heldStart] at less
          exact absurd less (lt_irrefl _)
        · exact sameSource (source.trans heldSource)

end Ticks

/-! ### The law of the builder -/

/-- The bars of an instrument: the candles that were returned, and the bar in progress. -/
def barsOf (builder : CandleBuilder) (quotes : List MarketQuote) (instrumentId : String) :
    List Bar :=
  ((builder.emitted quotes).filter fun candle =>
      decide (candle.instrumentId = instrumentId)).map CompletedCandle.toBar ++
    (builder.run quotes instrumentId).current.toList

/-- What candle building owes to the quotes: candles with prices in order that start one after the
other, each accepted quote in exactly one bar that is the fold of its quotes, and volumes that add
up to the gain of the day. -/
structure BuilderLaw (builder : CandleBuilder) (quotes : List MarketQuote) : Prop where
  ordered : ∀ candle ∈ builder.emitted quotes, candle.Ordered
  increasing : ∀ instrumentId, ((builder.emitted quotes).filter fun candle =>
    decide (candle.instrumentId = instrumentId)).Pairwise fun first second =>
      first.startTime < second.startTime
  fold : ∀ instrumentId, ∀ bar ∈ builder.barsOf quotes instrumentId,
    bar.IsFoldOf ((ticksOf instrumentId quotes).filter (builder.holds bar))
  once : ∀ instrumentId, ∀ tick ∈ ticksOf instrumentId quotes,
    ((builder.barsOf quotes instrumentId).filter fun bar => builder.holds bar tick).length = 1
  /-- the bars after a tick, less what they were with it -/
  volume : ∀ instrumentId before first after,
    ticksOf instrumentId quotes = before ++ first :: after → (first :: after).IsChain Steady →
      ((builder.barsOf quotes instrumentId).map Bar.volume).sum =
        ((builder.bars (before ++ [first])).map Bar.volume).sum +
          (((first :: after).getLast (List.cons_ne_nil _ _)).quote.volume - first.quote.volume)

variable {builder : CandleBuilder} {quotes : List MarketQuote}

theorem barsOf_eq_bars (instrumentId : String) :
    builder.barsOf quotes instrumentId = builder.bars (ticksOf instrumentId quotes) := by
  rw [barsOf, emitted_eq_closed, run_eq_progress]
  rfl

theorem volume_bars (ticks : List Tick) :
    ((builder.bars ticks).map Bar.volume).sum =
      ((builder.closed ticks).map fun candle => candle.volume).sum +
        progressVolume (builder.progress ticks) := by
  rw [bars, List.map_append, List.sum_append, List.map_map]
  refine congrArg _ ?_
  cases builder.progress ticks with
  | none => rfl
  | some bar => exact List.sum_singleton

theorem volume_bars_steady {before after : List Tick} {first : Tick}
    (linked : (before ++ first :: after).IsChain Linked)
    (steady : (first :: after).IsChain Steady) :
    ((builder.bars (before ++ first :: after)).map Bar.volume).sum =
      ((builder.bars (before ++ [first])).map Bar.volume).sum +
        (((first :: after).getLast (List.cons_ne_nil _ _)).quote.volume - first.quote.volume) := by
  have sameSource : ∀ bar ∈ builder.progress (before ++ [first]),
      bar.source = first.quote.source := by
    rw [progress_concat]
    exact source_tickStep _ first
  have gain := @volume_steady builder _ first after sameSource
    (List.isChain_append.mp linked).2.1 steady
  have split : before ++ first :: after = before ++ [first] ++ after := by
    rw [List.append_assoc, List.singleton_append]
  have closedAll : builder.closed (before ++ [first] ++ after) =
      builder.closed (before ++ [first]) ++ outputs builder.tickStep builder.tickEmit
        (builder.progress (before ++ [first])) after := outputs_append _ _ _
  have progressAll : builder.progress (before ++ [first] ++ after) =
      after.foldl builder.tickStep (builder.progress (before ++ [first])) := List.foldl_append
  rw [volume_bars, volume_bars, split, closedAll, progressAll, List.map_append, List.sum_append]
  linarith

/-- Candle building keeps its law exactly where no instrument's accepted quotes change their
source. -/
theorem builder_law_iff (builder : CandleBuilder) (quotes : List MarketQuote) :
    builder.BuilderLaw quotes ↔
      ∀ instrumentId, (ticksOf instrumentId quotes).IsChain SameSource := by
  constructor
  · intro law instrumentId
    by_contra changes
    have linked := ticksOf_linked instrumentId quotes
    obtain ⟨tick, member, unheld⟩ := @exists_unheld builder _ linked changes
    have once := law.once instrumentId tick member
    rw [barsOf_eq_bars, once_iff linked] at once
    obtain ⟨bar, isBar, isHeld⟩ := once
    exact unheld bar isBar isHeld
  · intro same
    have linked := fun instrumentId => ticksOf_linked instrumentId quotes
    have accounted := fun instrumentId =>
      @accounted_of_sameSource builder _ (linked instrumentId) (same instrumentId)
    constructor
    · intro candle emits
      have own : candle ∈ (builder.emitted quotes).filter fun other =>
          decide (other.instrumentId = candle.instrumentId) :=
        List.mem_filter.mpr ⟨emits, decide_eq_true rfl⟩
      rw [emitted_eq_closed] at own
      exact ordered_bars _ (List.mem_append_left _ (List.mem_map_of_mem own))
    · intro instrumentId
      rw [emitted_eq_closed]
      exact closed_pairwise (linked instrumentId)
    · intro instrumentId bar isBar
      rw [barsOf_eq_bars] at isBar
      exact (accounted instrumentId).fold bar isBar
    · intro instrumentId tick member
      rw [barsOf_eq_bars, once_iff (linked instrumentId)]
      exact (accounted instrumentId).held tick member
    · intro instrumentId before first after split steady
      have chain := linked instrumentId
      rw [split] at chain
      rw [barsOf_eq_bars, split]
      exact volume_bars_steady chain steady

def indexQuote (source : String) (lastPrice : ℚ) (volume timestamp : Int) : MarketQuote where
  source
  instrumentId := "INST-NIFTY-INDEX"
  symbol := "NIFTY 50"
  lastPrice
  volume
  openInterest := 0
  timestamp

/-- The finished bar of one source is lost where the next quote is of the other one. -/
theorem source_change_loses_bar : ¬∀ (builder : CandleBuilder) (quotes : List MarketQuote),
    builder.BuilderLaw quotes := by
  intro law
  -- 09:15:10 and 09:15:50 from the one, and 09:16:05 from the other
  have once := (law ⟨1, by decide⟩ [indexQuote "BREEZE" 25400 1000 1790221510000000,
      indexQuote "BREEZE" 25410 1200 1790221550000000,
      indexQuote "KITE" 25420 1300 1790221565000000]).once "INST-NIFTY-INDEX"
    ⟨indexQuote "BREEZE" 25400 1000 1790221510000000, 0⟩ (List.mem_cons_self)
  exact absurd once (by decide +kernel)

end CandleBuilder

end BreezeTrading
