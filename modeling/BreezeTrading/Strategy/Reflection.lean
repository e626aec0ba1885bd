/-
This file reflects all prices about a constant and compares the rules of management with those for
the mirror image of a trade. Rounding to two decimals reflects about an even number of hundredths,
and a missing price only where no price reflects to one.
-/

import BreezeTrading.Strategy.ReplayStopTarget
import BreezeTrading.Strategy.TrailingStop

namespace BreezeTrading

open ReplayIntrabar (opposite hitsStop_reflect)

/-! ### Prices by direction -/

section Direction

variable (direction : TradeDirection) (center : ℚ)

theorem favorablePoints_reflect (entry price : ℚ) :
    favorablePoints (opposite direction) (center - entry) (center - price) =
      favorablePoints direction entry price := by
  cases direction
  · exact sub_sub_sub_cancel_left entry price center
  · exact sub_sub_sub_cancel_left price entry center

theorem levelAbove_reflect (price points : ℚ) :
    levelAbove (opposite direction) (center - price) points =
      center - levelAbove direction price points := by
  cases direction
  · exact sub_sub center price points
  · exact sub_add center price points

theorem tighterStop_reflect (first second : ℚ) :
    tighterStop (opposite direction) (center - first) (center - second) =
      center - tighterStop direction first second := by
  cases direction
  · exact (antitone_const_tsub (c := center)).map_max.symm
  · exact (antitone_const_tsub (c := center)).map_min.symm

theorem foldl_tighterStop_reflect (levels : List ℚ) (stop : ℚ) :
    (levels.map (center - ·)).foldl (tighterStop (opposite direction)) (center - stop) =
      center - levels.foldl (tighterStop direction) stop := by
  induction levels generalizing stop with
  | nil => rfl
  | cons level rest inductionHypothesis =>
    rw [List.map_cons, List.foldl_cons, List.foldl_cons, tighterStop_reflect, inductionHypothesis]

end Direction

/-! ### Rounding -/

theorem Nearest.reflect {number : ℚ} {integer : Int} (nearest : Nearest number integer)
    (half : Int) : Nearest (2 * half - number) (2 * half - integer) := by
  have distance : |(2 * half - number : ℚ) - ((2 * half - integer : Int) : ℚ)| =
      |number - integer| := by
    rw [abs_sub_comm number]
    congr 1
    push_cast
    ring
  unfold Nearest
  rw [distance]
  rcases nearest with near | ⟨tie, even⟩
  · exact .inl near
  · exact .inr ⟨tie, by omega⟩

theorem roundHalfEven_reflect (half : Int) (number : ℚ) :
    roundHalfEven (2 * half - number) = 2 * half - roundHalfEven number :=
  (roundHalfEven_eq_iff _ _).mpr ((nearest_roundHalfEven number).reflect half)

/-- A price is an even number of hundredths. -/
def EvenCents (center : ℚ) : Prop := ∃ half : Int, center = half / 50

theorem roundTo_reflect {center : ℚ} (even : EvenCents center) (price : ℚ) :
    roundTo 2 (center - price) = center - roundTo 2 price := by
  obtain ⟨half, rfl⟩ := even
  have scaled : ((half : ℚ) / 50 - price) * 10 ^ 2 = 2 * half - price * 10 ^ 2 := by ring
  unfold roundTo
  rw [scaled, roundHalfEven_reflect]
  push_cast
  ring

/-! ### Reflection -/

/-- What a label says of one direction it says of the other. -/
def oppositeLabel (label : String) : String :=
  if label = "BULLISH" then "BEARISH" else if label = "BEARISH" then "BULLISH" else label

/-- The buildup of the futures on the other side: what opens positions still opens them. -/
def oppositeBuildup (buildup : String) : String :=
  if buildup = "LONG_BUILDUP" then "SHORT_BUILDUP"
  else if buildup = "SHORT_BUILDUP" then "LONG_BUILDUP"
  else if buildup = "LONG_UNWINDING" then "SHORT_COVERING"
  else if buildup = "SHORT_COVERING" then "LONG_UNWINDING"
  else buildup

def oppositeOption : OptionType → OptionType
  | .call => .put
  | .put => .call

/-- All prices of the underlying are reflected, and what belongs to one direction is swapped with
what belongs to the other. -/
@[simps]
def reflectFeatures (center : ℚ) (features : MarketFeatures) : MarketFeatures :=
  { features with
    spotPrice := center - features.spotPrice
    futuresPrice := center - features.futuresPrice
    futuresVwap := center - features.futuresVwap
    closed5mPrice := features.closed5mPrice.map (center - ·)
    plusDi5m := features.minusDi5m
    minusDi5m := features.plusDi5m
    swingLow5m := features.swingHigh5m.map (center - ·)
    swingHigh5m := features.swingLow5m.map (center - ·)
    ema95m := center - features.ema95m
    ema205m := center - features.ema205m
    rsi5m := 100 - features.rsi5m
    supertrendDirection := oppositeLabel features.supertrendDirection
    futuresBuildup := oppositeBuildup features.futuresBuildup
    bullDerivativesScore := features.bearDerivativesScore
    bearDerivativesScore := features.bullDerivativesScore
    breakoutBullDerivativesScore := features.breakoutBearDerivativesScore
    breakoutBearDerivativesScore := features.breakoutBullDerivativesScore }

/-- The mirror image of a trade: what is kept of the option, of the quantities and of the orders
stays as it is. -/
@[simps]
def reflectTrade (center : ℚ) (trade : ManagedTrade) : ManagedTrade :=
  { trade with
    direction := opposite trade.direction
    optionType := oppositeOption trade.optionType
    entrySpotPrice := center - trade.entrySpotPrice
    currentSpotPrice := center - trade.currentSpotPrice
    underlyingEntryPrice := trade.underlyingEntryPrice.map (center - ·)
    underlyingCurrentPrice := trade.underlyingCurrentPrice.map (center - ·)
    underlyingExitPrice := trade.underlyingExitPrice.map (center - ·)
    t1DecisionUnderlyingPrice := trade.t1DecisionUnderlyingPrice.map (center - ·)
    initialStructuralStop := center - trade.initialStructuralStop
    currentTrailingStop := center - trade.currentTrailingStop
    strategyTargetPrice := trade.strategyTargetPrice.map (center - ·)
    pullbackSwingLow := trade.pullbackSwingHigh.map (center - ·)
    pullbackSwingHigh := trade.pullbackSwingLow.map (center - ·)
    boxHigh := trade.boxLow.map (center - ·)
    boxLow := trade.boxHigh.map (center - ·)
    highestCloseSinceEntry := trade.lowestCloseSinceEntry.map (center - ·)
    lowestCloseSinceEntry := trade.highestCloseSinceEntry.map (center - ·) }

/-- The category of a reason is what stands before its first blank. -/
def exitCategory (reason : String) : String :=
  String.ofList (reason.toList.takeWhile fun character => character ≠ ' ')

/-- What an update decides of the mirror image of a trade is the mirror image of what it decides of
the trade. -/
def Mirrors (center : ℚ) (result image : ManagedTrade × Option String) : Prop :=
  image.1 = reflectTrade center result.1 ∧ image.2.map exitCategory = result.2.map exitCategory

/-- A price and its mirror image are positive. -/
def Between (center price : ℚ) : Prop := 0 < price ∧ price < center

instance (center price : ℚ) : Decidable (Between center price) :=
  inferInstanceAs (Decidable (_ ∧ _))

theorem Between.reflect {center price : ℚ} (between : Between center price) :
    Between center (center - price) :=
  ⟨sub_pos.mpr between.2, sub_lt_self center between.1⟩

theorem Between.max {center first second : ℚ} (left : Between center first)
    (right : Between center second) : Between center (max first second) :=
  ⟨lt_max_of_lt_left left.1, max_lt left.2 right.2⟩

theorem Between.min {center first second : ℚ} (left : Between center first)
    (right : Between center second) : Between center (min first second) :=
  ⟨lt_min left.1 right.1, min_lt_of_left_lt left.2⟩

theorem orPrice_reflect {center : ℚ} {price : Option ℚ}
    (between : ∀ known ∈ price, Between center known) (other : ℚ) :
    orPrice (price.map (center - ·)) (center - other) = center - orPrice price other := by
  cases price with
  | none => rfl
  | some known =>
    obtain ⟨positive, below⟩ := between known rfl
    have set : known ≠ 0 := positive.ne'
    have imageSet : center - known ≠ 0 := (sub_pos.mpr below).ne'
    simp [orPrice, orNumber, set, imageSet]

theorem Between.orPrice {center : ℚ} {price : Option ℚ} {other : ℚ}
    (between : ∀ known ∈ price, Between center known) (otherBetween : Between center other) :
    Between center (BreezeTrading.orPrice price other) := by
  cases price with
  | none => exact otherBetween
  | some known =>
    have set : known ≠ 0 := (between known rfl).1.ne'
    have same : BreezeTrading.orPrice (some known) other = known := if_neg set
    rw [same]
    exact between known rfl

/-! ### Categories -/

/-- A reason of a category: something follows it after a blank. -/
def Labeled (category reason : String) : Prop :=
  ∃ rest, reason.toList = category.toList ++ ' ' :: rest

theorem Labeled.append {category reason : String} (labeled : Labeled category reason)
    (rest : String) : Labeled category (reason ++ rest) := by
  obtain ⟨later, starts⟩ := labeled
  refine ⟨later ++ rest.toList, ?_⟩
  rw [String.toList_append, starts, List.append_assoc, List.cons_append]

theorem Labeled.exitCategory_eq {category reason : String} (labeled : Labeled category reason)
    (word : ' ' ∉ category.toList) : exitCategory reason = category := by
  obtain ⟨rest, starts⟩ := labeled
  have whole : ∀ character ∈ category.toList, decide (character ≠ ' ') = true := by
    intro character member
    exact decide_eq_true fun blank => word (blank ▸ member)
  unfold exitCategory
  rw [starts, List.takeWhile_append_of_pos whole, List.takeWhile_cons_of_neg (by simp),
    List.append_nil, String.ofList_toList]

theorem Labeled.same {category first second : String} (left : Labeled category first)
    (right : Labeled category second) (word : ' ' ∉ category.toList) :
    (some first).map exitCategory = (some second).map exitCategory := by
  rw [Option.map_some, Option.map_some, left.exitCategory_eq word, right.exitCategory_eq word]

namespace PositionManager

/-! ### The score of the health -/

section Score

variable (center : ℚ) (manager : PositionManager) (trade : ManagedTrade)
  (features : MarketFeatures)

theorem oppositeLabel_eq_iff (label : String) :
    (oppositeLabel label = "BULLISH" ↔ label = "BEARISH") ∧
      (oppositeLabel label = "BEARISH" ↔ label = "BULLISH") := by
  unfold oppositeLabel
  split_ifs with bullish bearish
  · subst bullish
    decide
  · subst bearish
    decide
  · exact ⟨iff_of_false bullish bearish, iff_of_false bearish bullish⟩

theorem oppositeBuildup_mem_iff (buildup : String) :
    (oppositeBuildup buildup ∈ ["LONG_BUILDUP", "SHORT_COVERING"] ↔
        buildup ∈ ["SHORT_BUILDUP", "LONG_UNWINDING"]) ∧
      (oppositeBuildup buildup ∈ ["SHORT_BUILDUP", "LONG_UNWINDING"] ↔
        buildup ∈ ["LONG_BUILDUP", "SHORT_COVERING"]) := by
  unfold oppositeBuildup
  split_ifs with first second third fourth
  · subst first
    decide
  · subst second
    decide
  · subst third
    decide
  · subst fourth
    decide
  · simp [first, second, third, fourth]

theorem any_reflect {level : Option ℚ} {beyond image : ℚ → Bool}
    (same : ∀ price, image (center - price) = beyond price) :
    (level.map (center - ·)).any image = level.any beyond := by
  cases level with
  | none => rfl
  | some price => exact same price

section

variable (equal : manager.bullDerivativesThreshold = manager.bearDerivativesThreshold)

include equal

theorem bullishFactors_reflect (spot : ℚ) :
    bullishFactors manager (reflectTrade center trade) (reflectFeatures center features)
        (center - spot) =
      bearishFactors manager trade features spot := by
  have momentum : 52 < 100 - features.rsi5m ↔ features.rsi5m < 48 := by
    constructor <;> intro low <;> linarith
  have label := (oppositeLabel_eq_iff features.supertrendDirection).1
  have buildup := (oppositeBuildup_mem_iff features.futuresBuildup).1
  unfold bullishFactors bearishFactors
  rw [equal]
  simp only [List.cons.injEq, decide_eq_decide, and_true]
  refine ⟨sub_lt_sub_iff_left center, sub_lt_sub_iff_left center, sub_lt_sub_iff_left center,
    momentum, Iff.rfl, label, Iff.rfl, ?_⟩
  rw [reflectTrade_strategy]
  split
  · exact decide_eq_decide.mpr buildup
  · exact any_reflect center fun low => decide_eq_decide.mpr (sub_lt_sub_iff_left center)

theorem bearishFactors_reflect (spot : ℚ) :
    bearishFactors manager (reflectTrade center trade) (reflectFeatures center features)
        (center - spot) =
      bullishFactors manager trade features spot := by
  have momentum : 100 - features.rsi5m < 48 ↔ 52 < features.rsi5m := by
    constructor <;> intro high <;> linarith
  have label := (oppositeLabel_eq_iff features.supertrendDirection).2
  have buildup := (oppositeBuildup_mem_iff features.futuresBuildup).2
  unfold bullishFactors bearishFactors
  rw [equal]
  simp only [List.cons.injEq, decide_eq_decide, and_true]
  refine ⟨sub_lt_sub_iff_left center, sub_lt_sub_iff_left center, sub_lt_sub_iff_left center,
    momentum, Iff.rfl, label, Iff.rfl, ?_⟩
  rw [reflectTrade_strategy]
  split
  · exact decide_eq_decide.mpr buildup
  · exact any_reflect center fun high => decide_eq_decide.mpr (sub_lt_sub_iff_left center)

theorem calculateReversalScore_reflect :
    calculateReversalScore manager (reflectTrade center trade) (reflectFeatures center features) =
      calculateReversalScore manager trade features := by
  unfold calculateReversalScore
  rw [reflectFeatures_closed5mPrice, reflectTrade_direction]
  cases features.closed5mPrice with
  | none => rfl
  | some spot =>
    dsimp only [Option.map_some]
    rw [bullishFactors_reflect center manager trade features equal,
      bearishFactors_reflect center manager trade features equal]
    cases trade.direction with
    | bullish => rfl
    | bearish => rfl

end

end Score

/-! ### The checks -/

section Checks

variable (center : ℚ) (manager : PositionManager) (trade : ManagedTrade)
  (features : MarketFeatures)

theorem newBar_reflect :
    newBar (reflectTrade center trade) (reflectFeatures center features) =
      (newBar trade features).map (center - ·) := by
  unfold newBar
  simp only [reflectTrade, reflectFeatures]
  cases features.closed5mTime with
  | none => rfl
  | some closedTime =>
    cases features.closed5mPrice with
    | none => rfl
    | some closed =>
      simp only [Option.map_some, Option.bind_eq_bind, Option.bind_some]
      rw [Option.map_bind]
      rfl

theorem trackSpot_reflect (optionPrice : ℚ) :
    trackSpot (reflectTrade center trade) (reflectFeatures center features) optionPrice =
      reflectTrade center (trackSpot trade features optionPrice) := rfl

theorem trackR_reflect :
    trackR (reflectTrade center trade) (reflectFeatures center features) =
      reflectTrade center (trackR trade features) := by
  have points : favorablePoints (reflectTrade center trade).direction
      (reflectTrade center trade).entrySpotPrice (reflectFeatures center features).spotPrice =
      favorablePoints trade.direction trade.entrySpotPrice features.spotPrice :=
    favorablePoints_reflect trade.direction center trade.entrySpotPrice features.spotPrice
  unfold trackR
  rw [points]
  rfl

theorem countClose_reflect (highest : ∀ price ∈ trade.highestCloseSinceEntry, Between center price)
    (lowest : ∀ price ∈ trade.lowestCloseSinceEntry, Between center price) (closed : Option ℚ) :
    countClose (reflectTrade center trade) (reflectFeatures center features)
        (closed.map (center - ·)) =
      reflectTrade center (countClose trade features closed) := by
  cases closed with
  | none => rfl
  | some price =>
    have above : max (orPrice (trade.lowestCloseSinceEntry.map (center - ·))
        (center - trade.entrySpotPrice)) (center - price) =
        center - min (orPrice trade.lowestCloseSinceEntry trade.entrySpotPrice) price := by
      rw [orPrice_reflect lowest]
      exact tighterStop_reflect .bearish center _ _
    have below : min (orPrice (trade.highestCloseSinceEntry.map (center - ·))
        (center - trade.entrySpotPrice)) (center - price) =
        center - max (orPrice trade.highestCloseSinceEntry trade.entrySpotPrice) price := by
      rw [orPrice_reflect highest]
      exact tighterStop_reflect .bullish center _ _
    simp only [countClose, reflectTrade, reflectFeatures, Option.map_some, above, below]

theorem labeled_thesis (spot relation level bracket : String) :
    Labeled "IMMEDIATE_THESIS_INVALIDATION"
      ("IMMEDIATE_THESIS_INVALIDATION (Spot " ++ spot ++ relation ++ level ++ bracket) :=
  (((Labeled.append ⟨_, rfl⟩ spot).append relation).append level).append bracket

theorem labeled_falseBreakout (spot relation edge margin points bracket : String) :
    Labeled "FALSE_BREAKOUT_EXIT"
      ("FALSE_BREAKOUT_EXIT (Spot " ++ spot ++ relation ++ edge ++ margin ++ points ++ bracket) :=
  (((((Labeled.append ⟨_, rfl⟩ spot).append relation).append edge).append margin).append
    points).append bracket

theorem labeled_insideBox (relation edge bracket : String) :
    Labeled "FALSE_BREAKOUT_EXIT"
      ("FALSE_BREAKOUT_EXIT (2 consecutive closes inside box " ++ relation ++ edge ++ bracket) :=
  ((Labeled.append ⟨_, rfl⟩ relation).append edge).append bracket

theorem labeled_spotStop (spot relation stop bracket : String) :
    Labeled "STRUCTURAL_SPOT_STOP_BREACHED"
      ("STRUCTURAL_SPOT_STOP_BREACHED (Spot " ++ spot ++ relation ++ stop ++ bracket) :=
  (((Labeled.append ⟨_, rfl⟩ spot).append relation).append stop).append bracket

theorem thesisInvalidation_reflect (closed : Option ℚ) :
    (thesisInvalidation manager (reflectTrade center trade) (reflectFeatures center features)
        (closed.map (center - ·))).map exitCategory =
      (thesisInvalidation manager trade features closed).map exitCategory := by
  unfold thesisInvalidation
  rw [reflectTrade_direction, reflectTrade_pullbackSwingLow, reflectTrade_pullbackSwingHigh]
  cases closed with
  | none => rfl
  | some price =>
    cases trade.direction with
    | bullish =>
      cases trade.pullbackSwingLow with
      | none => rfl
      | some swing =>
        simp only [Option.map_some, opposite, sub_lt_sub_iff_left]
        split
        · exact (labeled_thesis _ _ _ _).same (labeled_thesis _ _ _ _) (by decide)
        · rfl
    | bearish =>
      cases trade.pullbackSwingHigh with
      | none => rfl
      | some swing =>
        simp only [Option.map_some, opposite, sub_lt_sub_iff_left]
        split
        · exact (labeled_thesis _ _ _ _).same (labeled_thesis _ _ _ _) (by decide)
        · rfl

theorem insideBox_reflect (price edge : ℚ) :
    insideBox (reflectTrade center trade) (center - price) (center - edge) =
      insideBox trade price edge := by
  unfold insideBox
  rw [reflectTrade_direction]
  cases trade.direction <;>
    simp only [opposite, reduceCtorEq, if_true, if_false, sub_lt_sub_iff_left]

theorem falseBreakout_reflect (closed : Option ℚ) :
    Mirrors center (falseBreakout manager trade features closed)
      (falseBreakout manager (reflectTrade center trade) (reflectFeatures center features)
        (closed.map (center - ·))) := by
  have box : (if (reflectTrade center trade).direction = .bullish then
      (reflectTrade center trade).boxHigh else (reflectTrade center trade).boxLow) =
      (if trade.direction = .bullish then trade.boxHigh else trade.boxLow).map (center - ·) := by
    rw [reflectTrade_direction]
    cases trade.direction with
    | bullish => rfl
    | bearish => rfl
  unfold falseBreakout
  rw [box]
  cases closed with
  | none => exact ⟨rfl, rfl⟩
  | some price =>
    cases (if trade.direction = .bullish then trade.boxHigh else trade.boxLow) with
    | none => exact ⟨rfl, rfl⟩
    | some edge =>
      dsimp only [Option.map_some]
      rw [reflectTrade_direction, levelAbove_reflect, insideBox_reflect, insideBox_reflect,
        reflectTrade_atrAtLock, reflectFeatures_atr5m, reflectTrade_consecutiveInsideBoxCloses,
        reflectTrade_strategy]
      split
      · exact ⟨rfl, rfl⟩
      split
      · exact ⟨rfl, (labeled_falseBreakout _ _ _ _ _ _).same (labeled_falseBreakout _ _ _ _ _ _)
          (by decide)⟩
      split
      · split
        · exact ⟨rfl, (labeled_insideBox _ _ _).same (labeled_insideBox _ _ _) (by decide)⟩
        · exact ⟨rfl, rfl⟩
      · exact ⟨rfl, rfl⟩

/-- The stops of a trade and the square-off meet its mirror image, where the spot price reflects to
a price. -/
theorem stopOrSquareOff_reflect (between : Between center features.spotPrice) (optionPrice : ℚ)
    (now : Int) (asOf : Option Int) :
    (stopOrSquareOff manager (reflectTrade center trade) (reflectFeatures center features)
        optionPrice now asOf).map exitCategory =
      (stopOrSquareOff manager trade features optionPrice now asOf).map exitCategory := by
  have hits : hitsStop (reflectTrade center trade).direction
      (reflectFeatures center features).spotPrice (reflectTrade center trade).currentTrailingStop =
      hitsStop trade.direction features.spotPrice trade.currentTrailingStop :=
    hitsStop_reflect trade.direction center features.spotPrice trade.currentTrailingStop
  have valid : 0 < (reflectFeatures center features).spotPrice := sub_pos.mpr between.2
  unfold stopOrSquareOff
  simp only [hits, valid, between.1, true_and]
  rw [reflectTrade_optionHardStopPrice]
  split
  · rfl
  split
  · exact (labeled_spotStop _ _ _ _).same (labeled_spotStop _ _ _ _) (by decide)
  · rfl

/-- The closes of a trade reflect to prices. -/
structure ClosesBetween : Prop where
  highest : ∀ price ∈ trade.highestCloseSinceEntry, Between center price
  lowest : ∀ price ∈ trade.lowestCloseSinceEntry, Between center price

theorem checkStops_reflect (closes : ClosesBetween center trade)
    (between : Between center features.spotPrice) (optionPrice : ℚ) (now : Int)
    (asOf : Option Int) :
    Mirrors center (checkStops manager trade features optionPrice now asOf)
      (checkStops manager (reflectTrade center trade) (reflectFeatures center features) optionPrice
        now asOf) := by
  unfold checkStops
  dsimp only
  rw [newBar_reflect, trackR_reflect,
    countClose_reflect center (trackR trade features) features closes.highest closes.lowest]
  generalize countClose (trackR trade features) features (newBar trade features) = counted
  have thesis := thesisInvalidation_reflect center manager counted features (newBar trade features)
  have boxed := falseBreakout_reflect center manager counted features (newBar trade features)
  generalize thesisInvalidation manager counted features (newBar trade features) = invalidated
    at thesis ⊢
  generalize thesisInvalidation manager (reflectTrade center counted)
    (reflectFeatures center features) ((newBar trade features).map (center - ·)) = imageInvalidated
    at thesis ⊢
  cases invalidated with
  | some reason =>
    cases imageInvalidated with
    | none => cases thesis
    | some image => exact ⟨rfl, thesis⟩
  | none =>
    cases imageInvalidated with
    | some image => cases thesis
    | none =>
      generalize falseBreakout manager counted features (newBar trade features) = outcome
        at boxed ⊢
      generalize falseBreakout manager (reflectTrade center counted)
        (reflectFeatures center features) ((newBar trade features).map (center - ·)) = imageOutcome
        at boxed ⊢
      obtain ⟨left, reason⟩ := outcome
      obtain ⟨imageLeft, image⟩ := imageOutcome
      obtain ⟨same, category⟩ := boxed
      subst same
      cases reason with
      | some reason =>
        cases image with
        | none => cases category
        | some image => exact ⟨rfl, category⟩
      | none =>
        cases image with
        | some image => cases category
        | none => exact ⟨rfl, stopOrSquareOff_reflect center manager left features between
            optionPrice now asOf⟩

end Checks

/-! ### A new bar -/

section Bar

variable (center : ℚ) (manager : PositionManager) (trade : ManagedTrade)
  (features : MarketFeatures)

theorem averageLevel_reflect :
    levelAbove (opposite trade.direction) (reflectFeatures center features).ema95m
        (-(1 / 4 * (reflectFeatures center features).atr5m)) =
      center - levelAbove trade.direction features.ema95m (-(1 / 4 * features.atr5m)) :=
  levelAbove_reflect trade.direction center features.ema95m (-(1 / 4 * features.atr5m))

theorem closeStop_reflect (closed : ℚ) :
    closeStop (reflectTrade center trade) (reflectFeatures center features) (center - closed) =
      center - closeStop trade features closed := by
  have close : levelAbove (opposite trade.direction) (center - closed)
      (-(15 / 100 * (reflectFeatures center features).atr5m)) =
      center - levelAbove trade.direction closed (-(15 / 100 * features.atr5m)) :=
    levelAbove_reflect trade.direction center closed (-(15 / 100 * features.atr5m))
  have against : (if opposite trade.direction = .bullish then TradeDirection.bearish
      else .bullish) = opposite (if trade.direction = .bullish then .bearish else .bullish) := by
    cases trade.direction with
    | bullish => rfl
    | bearish => rfl
  unfold closeStop
  rw [reflectTrade_direction, averageLevel_reflect, close, against]
  exact tighterStop_reflect _ center _ _

theorem roundTo_tighterStop_reflect {center : ℚ} (even : EvenCents center)
    (direction : TradeDirection) (first second : ℚ) :
    roundTo 2 (tighterStop (opposite direction) (center - first) (center - second)) =
      center - roundTo 2 (tighterStop direction first second) := by
  rw [tighterStop_reflect, roundTo_reflect even]

theorem tightenToClose_reflect (even : EvenCents center) (closed : ℚ) :
    tightenToClose (reflectTrade center trade) (reflectFeatures center features) (center - closed) =
      reflectTrade center (tightenToClose trade features closed) := by
  have stop : roundTo 2 (tighterStop (reflectTrade center trade).direction
      (reflectTrade center trade).currentTrailingStop (closeStop (reflectTrade center trade)
        (reflectFeatures center features) (center - closed))) =
      center - roundTo 2 (tighterStop trade.direction trade.currentTrailingStop
        (closeStop trade features closed)) := by
    rw [closeStop_reflect]
    exact roundTo_tighterStop_reflect even trade.direction _ _
  unfold tightenToClose
  rw [stop]
  rfl

theorem protectiveSwing_reflect :
    protectiveSwing (reflectTrade center trade) (reflectFeatures center features) =
      (protectiveSwing trade features).map (center - ·) := by
  unfold protectiveSwing
  rw [reflectTrade_direction]
  cases trade.direction with
  | bullish => rfl
  | bearish => rfl

theorem protectiveCandidates_reflect (closed : ℚ) :
    protectiveCandidates (reflectTrade center trade) (reflectFeatures center features)
        (center - closed) =
      (protectiveCandidates trade features closed).map (center - ·) := by
  have side : (fun candidate : ℚ => if opposite trade.direction = .bullish then
      decide (candidate < center - closed) else decide (center - closed < candidate)) ∘
      (center - ·) = fun candidate => if trade.direction = .bullish then
        decide (candidate < closed) else decide (closed < candidate) := by
    funext candidate
    cases trade.direction <;> simp [opposite]
  unfold protectiveCandidates
  rw [reflectTrade_direction, averageLevel_reflect, protectiveSwing_reflect, Option.toList_map,
    ← List.map_cons, List.filter_map, side]

theorem tightenInProfit_reflect (closed : ℚ) :
    tightenInProfit (reflectTrade center trade) (reflectFeatures center features)
        (center - closed) =
      reflectTrade center (tightenInProfit trade features closed) := by
  have stop := foldl_tighterStop_reflect trade.direction center
    (protectiveCandidates trade features closed) trade.currentTrailingStop
  unfold tightenInProfit
  rw [protectiveCandidates_reflect, reflectTrade_direction,
    reflectTrade_currentTrailingStop, stop]
  rfl

theorem tightenByHealth_reflect (even : EvenCents center) (closed : ℚ) :
    tightenByHealth (reflectTrade center trade) (reflectFeatures center features)
        (center - closed) =
      reflectTrade center (tightenByHealth trade features closed) := by
  unfold tightenByHealth
  rw [tightenToClose_reflect center trade features even, tightenInProfit_reflect,
    reflectTrade_reversalScore, reflectTrade_currentR]
  split
  · rfl
  · split
    · rfl
    · rfl

/-- The closes since the entry of a trade are known. -/
def Followed : Prop :=
  trade.highestCloseSinceEntry.isSome = true ∧ trade.lowestCloseSinceEntry.isSome = true

theorem runnerLevels_reflect (followed : Followed trade) :
    runnerLevels (reflectTrade center trade) (reflectFeatures center features) =
      (runnerLevels trade features).map (center - ·) := by
  have best : (if opposite trade.direction = .bullish then
      (reflectTrade center trade).highestCloseSinceEntry
      else (reflectTrade center trade).lowestCloseSinceEntry).getD 0 =
      center - (if trade.direction = .bullish then trade.highestCloseSinceEntry
        else trade.lowestCloseSinceEntry).getD 0 := by
    obtain ⟨highest, isHighest⟩ := Option.isSome_iff_exists.mp followed.1
    obtain ⟨lowest, isLowest⟩ := Option.isSome_iff_exists.mp followed.2
    cases trade.direction with
    | bullish => simp [opposite, reflectTrade, isHighest]
    | bearish => simp [opposite, reflectTrade, isLowest]
  have average := averageLevel_reflect center trade features
  unfold runnerLevels
  dsimp only
  rw [reflectTrade_direction, average, best,
    reflectFeatures_atr5m, levelAbove_reflect]
  rfl

theorem runnerStop_reflect (followed : Followed trade) :
    runnerStop (reflectTrade center trade) (reflectFeatures center features) =
      center - runnerStop trade features := by
  have swing : (protectiveSwing (reflectTrade center trade) (reflectFeatures center features)).getD
      (center - trade.currentTrailingStop) =
      center - (protectiveSwing trade features).getD trade.currentTrailingStop := by
    rw [protectiveSwing_reflect]
    cases protectiveSwing trade features with
    | none => rfl
    | some level => rfl
  unfold runnerStop
  rw [runnerLevels_reflect center trade features followed, reflectTrade_direction,
    reflectTrade_currentTrailingStop, swing, ← foldl_tighterStop_reflect, List.map_append]
  rfl

theorem trailLadder_reflect (even : EvenCents center) (followed : Followed trade) :
    trailLadder manager (reflectTrade center trade) (reflectFeatures center features) =
      reflectTrade center (trailLadder manager trade features) := by
  unfold trailLadder
  rw [runnerStop_reflect center trade features followed, reflectTrade_direction, reflectTrade_peakR,
    reflectTrade_currentTrailingStop, reflectTrade_entrySpotPrice, reflectTrade_initialRPoints,
    levelAbove_reflect, levelAbove_reflect]
  simp only [roundTo_tighterStop_reflect even]
  split
  · rfl
  · split
    · rfl
    · split
      · rfl
      · rfl

theorem manageBar_reflect
    (equal : manager.bullDerivativesThreshold = manager.bearDerivativesThreshold)
    (even : EvenCents center) (followed : Followed trade) (closed : ℚ) :
    Mirrors center (manageBar manager trade features closed)
      (manageBar manager (reflectTrade center trade) (reflectFeatures center features)
        (center - closed)) := by
  have scores : scored manager (reflectTrade center trade) (reflectFeatures center features) =
      reflectTrade center (scored manager trade features) := by
    unfold scored
    rw [calculateReversalScore_reflect center manager trade features equal]
    rfl
  have followedTightened :
      Followed (tightenByHealth (scored manager trade features) features closed) := by
    unfold tightenByHealth
    split_ifs
    · exact followed
    · exact followed
    · exact followed
  unfold manageBar
  dsimp only
  rw [scores, tightenByHealth_reflect center _ features even,
    trailLadder_reflect center manager _ features even followedTightened,
    reflectTrade_reversalScore, reflectTrade_currentR]
  split
  · exact ⟨rfl, rfl⟩
  · split
    · exact ⟨rfl, rfl⟩
    · exact ⟨rfl, rfl⟩

theorem followed_of_newBar (optionPrice : ℚ) (now : Int) (asOf : Option Int) {closed : ℚ}
    (isNew : newBar trade features = some closed) :
    Followed (checkStops manager trade features optionPrice now asOf).1 := by
  obtain ⟨closes, isChecked⟩ := checkStops_trade manager trade features optionPrice now asOf
  rw [isChecked, isNew]
  exact ⟨rfl, rfl⟩

end Bar

/-! ### An update -/

section Updated

variable (center : ℚ) (manager : PositionManager) (trade : ManagedTrade)
  (features : MarketFeatures)

theorem updatePosition_reflect_of_other
    (equal : manager.bullDerivativesThreshold = manager.bearDerivativesThreshold)
    (even : EvenCents center) (other : trade.strategy ≠ .trendPullback)
    (closes : ClosesBetween center trade) (between : Between center features.spotPrice)
    (optionPrice : Option ℚ) (now : Int) (asOf : Option Int) :
    Mirrors center (updatePosition manager trade features optionPrice now asOf)
      (updatePosition manager (reflectTrade center trade) (reflectFeatures center features)
        optionPrice now asOf) := by
  unfold updatePosition
  dsimp only
  rw [reflectTrade_strategy, if_neg other, if_neg other, trackSpot_reflect, newBar_reflect,
    reflectTrade_initialRPoints]
  split
  · exact ⟨rfl, rfl⟩
  have checks := checkStops_reflect center manager
    (trackSpot trade features (optionPrice.getD 0)) features ⟨closes.highest, closes.lowest⟩ between
    (optionPrice.getD 0) now asOf
  have follows : ∀ closed, newBar trade features = some closed →
      Followed (checkStops manager (trackSpot trade features (optionPrice.getD 0)) features
        (optionPrice.getD 0) now asOf).1 :=
    fun closed isNew => followed_of_newBar manager
      (trackSpot trade features (optionPrice.getD 0)) features (optionPrice.getD 0) now asOf isNew
  generalize checkStops manager (trackSpot trade features (optionPrice.getD 0)) features
    (optionPrice.getD 0) now asOf = result at checks follows ⊢
  generalize checkStops manager (reflectTrade center
    (trackSpot trade features (optionPrice.getD 0))) (reflectFeatures center features)
    (optionPrice.getD 0) now asOf = image at checks ⊢
  obtain ⟨checked, reason⟩ := result
  obtain ⟨imageChecked, imageReason⟩ := image
  obtain ⟨same, category⟩ := checks
  subst same
  cases reason with
  | some reason =>
    cases imageReason with
    | none => cases category
    | some imageReason => exact ⟨rfl, category⟩
  | none =>
    cases imageReason with
    | some imageReason => cases category
    | none =>
      cases isNew : newBar trade features with
      | none => exact ⟨rfl, rfl⟩
      | some closed =>
        exact manageBar_reflect center manager checked features equal even (follows closed isNew)
          closed

theorem protectBreakeven_reflect (even : EvenCents center)
    (set : Between center trade.currentTrailingStop) (entryPrice : ℚ) :
    protectBreakeven manager (reflectTrade center trade) (center - entryPrice) =
      reflectTrade center (protectBreakeven manager trade entryPrice) := by
  unfold protectBreakeven
  dsimp only
  rw [reflectTrade_currentTrailingStop, reflectTrade_peakR, if_neg (not_le.mpr (sub_pos.mpr set.2)), if_neg (not_le.mpr set.1),
    reflectTrade_direction, levelAbove_reflect, roundTo_tighterStop_reflect even]
  split
  · rfl
  · rfl

theorem underlyingStopReason_reflect (price : ℚ) :
    underlyingStopReason manager (reflectTrade center trade) (center - price) =
      underlyingStopReason manager trade price := by
  have hits : hitsStop (reflectTrade center trade).direction (center - price)
      (reflectTrade center trade).currentTrailingStop =
      hitsStop trade.direction price trade.currentTrailingStop :=
    hitsStop_reflect trade.direction center price trade.currentTrailingStop
  unfold underlyingStopReason
  rw [hits]
  rfl

theorem reachT1_reflect (even : EvenCents center) (price entryPrice initialR : ℚ) :
    Mirrors center (reachT1 trade price entryPrice initialR)
      (reachT1 (reflectTrade center trade) (center - price) (center - entryPrice) initialR) := by
  have locked : roundTo 2 (tighterStop (reflectTrade center trade).direction
      (reflectTrade center trade).currentTrailingStop
      (levelAbove (reflectTrade center trade).direction (center - entryPrice) (1 / 2 * initialR))) =
      center - roundTo 2 (tighterStop trade.direction trade.currentTrailingStop
        (levelAbove trade.direction entryPrice (1 / 2 * initialR))) := by
    rw [reflectTrade_direction, levelAbove_reflect]
    exact roundTo_tighterStop_reflect even trade.direction _ _
  unfold reachT1
  dsimp only
  rw [locked, reflectTrade_initialQuantity, reflectTrade_quantity, reflectTrade_lotSize]
  split
  · exact ⟨rfl, rfl⟩
  · exact ⟨rfl, rfl⟩

theorem manageTargets_reflect (even : EvenCents center) (price entryPrice initialR : ℚ) :
    Mirrors center (manageTargets manager trade price entryPrice initialR)
      (manageTargets manager (reflectTrade center trade) (center - price) (center - entryPrice)
        initialR) := by
  have reached := reachT1_reflect center trade even price entryPrice initialR
  unfold manageTargets
  rw [reflectTrade_peakR, reflectTrade_t1Reached, reflectTrade_t1ExitPending,
    reflectTrade_partialExitFilledQuantity, reflectTrade_t1ExitQuantity]
  split
  · exact reached
  split
  · exact ⟨rfl, rfl⟩
  split
  · exact ⟨rfl, rfl⟩
  · exact ⟨rfl, rfl⟩

theorem trackUnderlying_reflect (price optionPrice entryPrice initialR : ℚ) :
    trackUnderlying (reflectTrade center trade) (center - price) optionPrice (center - entryPrice)
        initialR =
      reflectTrade center (trackUnderlying trade price optionPrice entryPrice initialR) := by
  have points := favorablePoints_reflect trade.direction center entryPrice price
  unfold trackUnderlying
  rw [reflectTrade_direction, points]
  rfl

/-- The entry of a trade reflects to a price. -/
structure EntryBetween : Prop where
  spot : Between center trade.entrySpotPrice
  underlying : ∀ price ∈ trade.underlyingEntryPrice, Between center price

theorem updateStrategyAPosition_reflect (even : EvenCents center)
    (entry : EntryBetween center trade) (set : Between center trade.currentTrailingStop) {price : ℚ}
    (between : Between center price) (optionPrice : Option ℚ) (asOf : Option Int) :
    Mirrors center (updateStrategyAPosition manager trade price optionPrice asOf)
      (updateStrategyAPosition manager (reflectTrade center trade) (center - price) optionPrice
        asOf) := by
  have entryReflects : underlyingEntry (reflectTrade center trade) =
      center - underlyingEntry trade := orPrice_reflect entry.underlying trade.entrySpotPrice
  have entryBetween : Between center (underlyingEntry trade) :=
    Between.orPrice entry.underlying entry.spot
  have risk : underlyingRisk (reflectTrade center trade) = underlyingRisk trade := rfl
  unfold updateStrategyAPosition
  dsimp only
  rw [entryReflects, risk, trackUnderlying_reflect]
  by_cases noRisk : underlyingRisk trade ≤ 0
  · rw [if_pos (.inr (.inr noRisk)), if_pos (.inr (.inr noRisk))]
    exact ⟨rfl, rfl⟩
  have valid : ¬(price ≤ 0 ∨ underlyingEntry trade ≤ 0 ∨ underlyingRisk trade ≤ 0) := by
    simp [between.1, entryBetween.1, noRisk]
  have imageValid : ¬(center - price ≤ 0 ∨ center - underlyingEntry trade ≤ 0 ∨
      underlyingRisk trade ≤ 0) := by
    simp [between.2, entryBetween.2, noRisk]
  rw [if_neg valid, if_neg imageValid]
  generalize isTracked : trackUnderlying trade price (optionPrice.getD 0) (underlyingEntry trade)
    (underlyingRisk trade) = tracked
  have trackedSet : Between center tracked.currentTrailingStop := by
    rw [← isTracked]
    exact set
  rw [protectBreakeven_reflect center manager tracked even trackedSet]
  generalize protectBreakeven manager tracked (underlyingEntry trade) = stopped
  rw [underlyingStopReason_reflect]
  split
  · exact ⟨rfl, rfl⟩
  rw [reflectTrade_optionHardStopPrice]
  split
  · exact ⟨rfl, rfl⟩
  cases underlyingStopReason manager stopped price with
  | some reason => exact ⟨rfl, rfl⟩
  | none => exact manageTargets_reflect center manager stopped even price _ _

end Updated

end PositionManager

end BreezeTrading
