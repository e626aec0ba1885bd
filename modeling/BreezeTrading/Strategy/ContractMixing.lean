/-
This file proves whose candles the features of a futures contract are computed from. The stream
holds, at each time, a candle of the contract active at that time. The features depend on the
contract's own candles only exactly where no contract of the list has expired by a bar of an
active one.
-/

import BreezeTrading.Lib.Fallible
import BreezeTrading.Strategy.FuturesSignal

namespace BreezeTrading

open Fallible StableSort

/-! ### The order of contracts -/

/-- What contracts are ordered by. -/
def contractKey (contract : String × Option Int) : Bool ×ₗ Int ×ₗ String :=
  toLex (!contract.2.isSome, toLex (contract.2.getD 0, contract.1))

theorem contractLe_iff (first second : String × Option Int) :
    contractLe first second ↔ contractKey first ≤ contractKey second := by
  obtain ⟨firstId, firstExpiry⟩ := first
  obtain ⟨secondId, secondExpiry⟩ := second
  cases firstExpiry <;> cases secondExpiry <;>
    simp [contractLe, contractKey, Prod.Lex.le_iff]

instance : Std.Total contractLe := total_of_key contractLe_iff

instance : IsTrans (String × Option Int) contractLe := trans_of_key contractLe_iff

theorem contractLe_antisymm {first second : String × Option Int}
    (forth : contractLe first second) (back : contractLe second first) : first = second := by
  have same := key_eq_of_le_of_le contractLe_iff forth back
  obtain ⟨firstId, firstExpiry⟩ := first
  obtain ⟨secondId, secondExpiry⟩ := second
  cases firstExpiry <;> cases secondExpiry <;> simp_all [contractKey]

/-- A contract has not expired on the day of a time. -/
def traded (contract : String × Option Int) (moment : Int) : Bool :=
  contract.2.all fun expiry => decide (istDay moment ≤ expiry)

theorem resolveContracts_eq_some_iff {contracts : List (String × Option Int)} {moment : Int}
    {contractId : String} :
    resolveContracts contracts moment = some contractId ↔
      ∃ contract ∈ contracts, contract.1 = contractId ∧ traded contract moment = true ∧
        ∀ other ∈ contracts, traded other moment = true → contractLe contract other := by
  have first := @head?_insertionSort_eq_some_iff _ contractLe _ _ _
    (contracts.filter fun contract => traded contract moment)
    (fun _ _ _ _ => contractLe_antisymm)
  unfold resolveContracts
  rw [filter_insertionSort, Option.map_eq_some_iff]
  constructor
  · rintro ⟨contract, isFirst, rfl⟩
    obtain ⟨member, before⟩ := first.mp isFirst
    obtain ⟨inContracts, isTraded⟩ := List.mem_filter.mp member
    exact ⟨contract, inContracts, rfl, isTraded, fun other inOthers otherTraded =>
      before other (List.mem_filter.mpr ⟨inOthers, otherTraded⟩)⟩
  · rintro ⟨contract, inContracts, rfl, isTraded, before⟩
    refine ⟨contract, first.mpr ⟨List.mem_filter.mpr ⟨inContracts, isTraded⟩, ?_⟩, rfl⟩
    exact fun other member =>
      before other (List.mem_of_mem_filter member) (List.mem_filter.mp member).2

/-! ### The contracts of candles -/

section Contracts

variable {candles : List MarketCandle} {contracts : List (String × Option Int)}

/-- The contracts on the index among candles. -/
def niftyNames (candles : List MarketCandle) : List String :=
  (candles.map fun candle => candle.instrumentId).dedup.filter isNiftyFuture

theorem mem_niftyNames {contractId : String} :
    contractId ∈ niftyNames candles ↔
      (∃ candle ∈ candles, candle.instrumentId = contractId) ∧
        isNiftyFuture contractId = true := by
  rw [niftyNames, List.mem_filter, List.mem_dedup, List.mem_map]

theorem contractsOf_eq_ok_iff :
    contractsOf candles = .ok contracts ↔
      ((niftyNames candles).map fun contractId =>
        (contractExpiry contractId).map fun expiry => (contractId, expiry)) =
          contracts.map .ok :=
  mapM_eq_ok_iff

theorem mem_contractsOf (resolved : contractsOf candles = .ok contracts) {contractId : String}
    {expiry : Option Int} :
    (contractId, expiry) ∈ contracts ↔
      (∃ candle ∈ candles, candle.instrumentId = contractId) ∧ isNiftyFuture contractId = true ∧
        contractExpiry contractId = .ok expiry := by
  have isMember : (contractId, expiry) ∈ contracts ↔
      (.ok (contractId, expiry) : Except String _) ∈ contracts.map .ok := by simp
  rw [isMember, ← contractsOf_eq_ok_iff.mp resolved, List.mem_map, ← and_assoc, ← mem_niftyNames]
  constructor
  · rintro ⟨name, isName, found⟩
    obtain ⟨known, isExpiry, same⟩ := ok_of_map found
    cases same
    exact ⟨isName, isExpiry⟩
  · rintro ⟨isName, isExpiry⟩
    exact ⟨contractId, isName, by rw [isExpiry]; rfl⟩

theorem expiry_unique (resolved : contractsOf candles = .ok contracts)
    {first second : String × Option Int} (isFirst : first ∈ contracts)
    (isSecond : second ∈ contracts) (same : first.1 = second.1) : first = second := by
  obtain ⟨-, -, firstExpiry⟩ := (mem_contractsOf resolved).mp isFirst
  obtain ⟨-, -, secondExpiry⟩ := (mem_contractsOf resolved).mp isSecond
  rw [same, secondExpiry] at firstExpiry
  exact Prod.ext same (Except.ok.inj firstExpiry).symm

theorem contractsOf_isOk
    (readable : ∀ candle ∈ candles, isNiftyFuture candle.instrumentId = true →
      ∃ expiry, contractExpiry candle.instrumentId = .ok expiry) :
    ∃ contracts, contractsOf candles = .ok contracts := by
  refine ⟨(niftyNames candles).map fun contractId =>
    (contractId, (contractExpiry contractId).toOption.join), contractsOf_eq_ok_iff.mpr ?_⟩
  rw [List.map_map]
  refine List.map_congr_left fun contractId isName => ?_
  obtain ⟨⟨candle, member, rfl⟩, isNifty⟩ := mem_niftyNames.mp isName
  obtain ⟨expiry, isExpiry⟩ := readable candle member isNifty
  rw [Function.comp_apply, isExpiry]
  rfl

end Contracts

/-! ### Streams -/

section Streams

def ofContract (contractId : String) (candles : List MarketCandle) : List MarketCandle :=
  candles.filter fun candle => decide (candle.instrumentId = contractId)

/-- The first of the candles that end at a time. -/
def candleAt (candles : List MarketCandle) (moment : Int) : Option MarketCandle :=
  (ordered (candles.filter fun candle => decide (candle.endTime = moment))).head?

/-- The stream of the active contracts of completed candles. -/
def activeStream (completed : List MarketCandle) (contracts : List (String × Option Int)) :
    List MarketCandle :=
  (endTimes completed).filterMap (activeCandleAt completed contracts)

/-- The stream of one contract, while it is traded. -/
def contractStream (contract : String × Option Int) (candles : List MarketCandle) :
    List MarketCandle :=
  (endTimes candles).filterMap fun moment =>
    if traded contract moment = true then candleAt candles moment else none

variable {completed candles : List MarketCandle} {contracts : List (String × Option Int)}
  {moment : Int}

theorem endTimes_eq_distinct :
    endTimes candles = distinct (candles.map fun candle => candle.endTime) := rfl

theorem mem_endTimes : moment ∈ endTimes candles ↔ ∃ candle ∈ candles, candle.endTime = moment := by
  rw [endTimes_eq_distinct, mem_distinct, List.mem_map]

theorem mem_ofContract {contractId : String} {candle : MarketCandle} :
    candle ∈ ofContract contractId candles ↔
      candle ∈ candles ∧ candle.instrumentId = contractId := by
  rw [ofContract, List.mem_filter, decide_eq_true_eq]

theorem candleAt_mem {candle : MarketCandle} (found : candleAt candles moment = some candle) :
    candle ∈ candles ∧ candle.endTime = moment := by
  have member := (List.mem_insertionSort candleLe).mp (List.mem_of_head? found)
  obtain ⟨inCandles, ends⟩ := List.mem_filter.mp member
  exact ⟨inCandles, of_decide_eq_true ends⟩

theorem candleAt_isSome :
    (candleAt candles moment).isSome = true ↔ moment ∈ endTimes candles := by
  rw [mem_endTimes, candleAt, List.isSome_head?, ordered, ne_eq, ← List.length_eq_zero_iff,
    List.length_insertionSort, List.length_eq_zero_iff, List.filter_eq_nil_iff]
  simp

theorem activeCandleAt_eq :
    activeCandleAt completed contracts moment =
      (resolveContracts contracts moment).bind fun contractId =>
        candleAt (ofContract contractId completed) moment := by
  unfold activeCandleAt candleAt ofContract ordered
  refine congrArg _ (funext fun contractId => ?_)
  rw [← List.head?_filter, filter_insertionSort, List.filter_filter, List.filter_filter]
  refine congrArg (fun kept => (List.insertionSort candleLe kept).head?) ?_
  exact List.filter_congr fun candle _ => Bool.and_comm _ _

theorem activeCandleAt_some {bar : MarketCandle}
    (found : activeCandleAt completed contracts moment = some bar) :
    bar ∈ completed ∧ bar.endTime = moment ∧
      resolveContracts contracts moment = some bar.instrumentId := by
  rw [activeCandleAt_eq] at found
  obtain ⟨contractId, isActive, isCandle⟩ := Option.bind_eq_some_iff.mp found
  obtain ⟨member, ends⟩ := candleAt_mem isCandle
  obtain ⟨inCompleted, rfl⟩ := mem_ofContract.mp member
  exact ⟨inCompleted, ends, isActive⟩

theorem mem_activeStream {bar : MarketCandle} (member : bar ∈ activeStream completed contracts) :
    bar ∈ completed ∧ resolveContracts contracts bar.endTime = some bar.instrumentId := by
  obtain ⟨moment, -, found⟩ := List.mem_filterMap.mp member
  obtain ⟨inCompleted, rfl, isActive⟩ := activeCandleAt_some found
  exact ⟨inCompleted, isActive⟩

theorem activeStream_pairwise :
    (activeStream completed contracts).Pairwise fun first second =>
      first.endTime < second.endTime := by
  refine List.Pairwise.filterMap _ (fun first second less bar found other otherFound => ?_)
    (distinct_pairwise _)
  obtain ⟨-, rfl, -⟩ := activeCandleAt_some found
  obtain ⟨-, rfl, -⟩ := activeCandleAt_some otherFound
  exact less

theorem endTime_le_last {bar last : MarketCandle} (member : bar ∈ activeStream completed contracts)
    (isLast : (activeStream completed contracts).getLast? = some last) :
    bar.endTime ≤ last.endTime := by
  obtain ⟨before, same⟩ := List.getLast?_eq_some_iff.mp isLast
  have sorted := @activeStream_pairwise completed contracts
  rw [same] at sorted member
  rcases List.mem_append.mp member with isBefore | isLast
  · exact ((List.pairwise_append.mp sorted).2.2 bar isBefore last List.mem_cons_self).le
  · rw [List.mem_singleton.mp isLast]

/-- The stream exists unless a contract on the index names a date that is none. Its bars end one
after the other, each is a completed candle of the nearest contract that has not expired then, and
the gaps are exactly the other times at which a completed candle ends. -/
theorem canonicalStreamWithDiagnostics_divides (candles : List MarketCandle) (asOf : Option Int)
    (interval : String) :
    ((∃ result, canonicalStreamWithDiagnostics candles asOf interval = .ok result) ↔
      ∀ candle ∈ completedFuturesCandles candles asOf interval,
        isNiftyFuture candle.instrumentId = true →
          ∃ expiry, contractExpiry candle.instrumentId = .ok expiry) ∧
    ∀ bars gaps, canonicalStreamWithDiagnostics candles asOf interval = .ok (bars, gaps) →
      (bars.Pairwise fun first second => first.endTime < second.endTime) ∧
      (∀ bar ∈ bars, bar ∈ completedFuturesCandles candles asOf interval ∧
        ∃ expiry, contractExpiry bar.instrumentId = .ok expiry ∧
          traded (bar.instrumentId, expiry) bar.endTime = true ∧
          ∀ other ∈ completedFuturesCandles candles asOf interval,
            isNiftyFuture other.instrumentId = true →
            ∀ otherExpiry, contractExpiry other.instrumentId = .ok otherExpiry →
              traded (other.instrumentId, otherExpiry) bar.endTime = true →
              contractLe (bar.instrumentId, expiry) (other.instrumentId, otherExpiry)) ∧
      ∀ moment, moment ∈ gaps.map FuturesDataGap.timestamp ↔
        moment ∈ endTimes (completedFuturesCandles candles asOf interval) ∧
          ∀ bar ∈ bars, bar.endTime ≠ moment := by
  unfold canonicalStreamWithDiagnostics
  dsimp only
  generalize completedFuturesCandles candles asOf interval = completed
  constructor
  · constructor
    · rintro ⟨result, returned⟩ candle member isNifty
      obtain ⟨contracts, resolved, -⟩ := ok_of_map returned
      have named := List.mem_map_of_mem (f := fun contractId =>
        (contractExpiry contractId).map fun expiry => (contractId, expiry))
        (mem_niftyNames.mpr ⟨⟨candle, member, rfl⟩, isNifty⟩)
      rw [contractsOf_eq_ok_iff.mp resolved] at named
      obtain ⟨contract, -, same⟩ := List.mem_map.mp named
      obtain ⟨expiry, known, -⟩ := ok_of_map same.symm
      exact ⟨expiry, known⟩
    · intro readable
      obtain ⟨contracts, resolved⟩ := contractsOf_isOk readable
      exact ⟨_, by rw [resolved]; rfl⟩
  · intro bars gaps returned
    obtain ⟨contracts, resolved, same⟩ := ok_of_map returned
    cases same
    refine ⟨activeStream_pairwise, fun bar member => ?_, fun moment => ?_⟩
    · obtain ⟨inCompleted, isActive⟩ := mem_activeStream member
      obtain ⟨⟨known, expiry⟩, inContracts, rfl, isTraded, first⟩ :=
        resolveContracts_eq_some_iff.mp isActive
      exact ⟨inCompleted, expiry, ((mem_contractsOf resolved).mp inContracts).2.2, isTraded,
        fun other isOther isNifty otherExpiry known => first (other.instrumentId, otherExpiry)
          ((mem_contractsOf resolved).mpr ⟨⟨other, isOther, rfl⟩, isNifty, known⟩)⟩
    · rw [List.map_map]
      change moment ∈ List.map id _ ↔ _
      rw [List.map_id, List.mem_filter, Option.isNone_iff_eq_none]
      refine and_congr_right fun ends => ⟨fun missing bar member => ?_, fun others => ?_⟩
      · rintro rfl
        obtain ⟨_, _, found⟩ := List.mem_filterMap.mp member
        obtain ⟨-, rfl, -⟩ := activeCandleAt_some found
        exact absurd (found.symm.trans missing) (Option.some_ne_none _)
      · refine Option.eq_none_iff_forall_ne_some.mpr fun bar found => ?_
        exact others bar (List.mem_filterMap.mpr ⟨moment, ends, found⟩)
          (activeCandleAt_some found).2.1

end Streams

/-! ### The stream of one contract -/

section OwnStream

variable {completed : List MarketCandle} {contracts : List (String × Option Int)}

theorem traded_of_le {contract : String × Option Int} {earlier later : Int} (le : earlier ≤ later)
    (isTraded : traded contract later = true) : traded contract earlier = true := by
  unfold traded at *
  cases expires : contract.2 with
  | none => rfl
  | some expiry =>
    rw [expires, Option.all_some, decide_eq_true_eq] at isTraded
    exact decide_eq_true ((istDay_mono le).trans isTraded)

section

variable {last : MarketCandle} {contract : String × Option Int}
  (resolved : contractsOf completed = .ok contracts)
  (isLast : (activeStream completed contracts).getLast? = some last) (member : contract ∈ contracts)
  (own : contract.1 = last.instrumentId)

include resolved isLast member own

theorem lastContract : traded contract last.endTime = true ∧
      ∀ other ∈ contracts, traded other last.endTime = true → contractLe contract other := by
  obtain ⟨-, isActive⟩ := mem_activeStream (List.mem_of_getLast? isLast)
  obtain ⟨known, inContracts, same, isTraded, first⟩ := resolveContracts_eq_some_iff.mp isActive
  obtain rfl := expiry_unique resolved inContracts member (same.trans own.symm)
  exact ⟨isTraded, first⟩

theorem activeStream_of_leads (leads : ∀ other ∈ contracts, contractLe contract other) :
    activeStream completed contracts =
      contractStream contract (ofContract contract.1 completed) := by
  have shown : ∀ moment ∈ endTimes completed,
      activeCandleAt completed contracts moment =
        if traded contract moment = true then candleAt (ofContract contract.1 completed) moment
        else none := fun moment isTime => by
    by_cases isTraded : traded contract moment = true
    · have isActive : resolveContracts contracts moment = some contract.1 :=
        resolveContracts_eq_some_iff.mpr
          ⟨contract, member, rfl, isTraded, fun other inOthers _ => leads other inOthers⟩
      rw [activeCandleAt_eq, isActive, if_pos isTraded]
      rfl
    · rw [if_neg isTraded]
      cases found : activeCandleAt completed contracts moment with
      | none => rfl
      | some bar =>
        -- a bar of another contract would come after the last one
        have le := endTime_le_last (List.mem_filterMap.mpr ⟨moment, isTime, found⟩) isLast
        rw [(activeCandleAt_some found).2.1] at le
        exact absurd (traded_of_le le (lastContract resolved isLast member own).1) isTraded
  unfold activeStream contractStream
  rw [List.filterMap_congr shown, endTimes_eq_distinct, endTimes_eq_distinct]
  refine filterMap_distinct (fun moment isTime => ?_) fun moment _ notOwn => ?_
  · obtain ⟨candle, isOwn, ends⟩ := List.mem_map.mp isTime
    exact List.mem_map.mpr ⟨candle, (mem_ofContract.mp isOwn).1, ends⟩
  · split
    · rw [← Option.not_isSome_iff_eq_none, candleAt_isSome, endTimes_eq_distinct, mem_distinct]
      exact notOwn
    · rfl

end

end OwnStream

/-! ### Features -/

section Features

variable {asOf : Option Int} {candles others : List MarketCandle}

/-- The completed candles that features are built from. -/
def completedBars (asOf : Option Int) (candles : List MarketCandle) : List MarketCandle :=
  completedFuturesCandles candles asOf "15m"

theorem completedBars_ofContract (contractId : String) :
    completedBars asOf (ofContract contractId candles) =
      ofContract contractId (completedBars asOf candles) := by
  unfold completedBars completedFuturesCandles ofContract ordered
  rw [filter_insertionSort, filter_insertionSort, filter_insertionSort, List.filter_filter,
    List.filter_filter]
  exact congrArg _ (List.filter_congr fun candle _ => Bool.and_comm _ _)

theorem canonicalActiveFuturesStream_eq :
    canonicalActiveFuturesStream candles asOf "15m" =
      (contractsOf (completedBars asOf candles)).map
        (activeStream (completedBars asOf candles)) := by
  unfold canonicalActiveFuturesStream canonicalStreamWithDiagnostics completedBars
  dsimp only
  cases contractsOf (completedFuturesCandles candles asOf "15m") <;> rfl

open FuturesFeatureEngine in
theorem build_eq_ok_iff {feature : FuturesFeatureSnapshot} :
    build candles asOf = .ok feature ↔
      ∃ contracts last, contractsOf (completedBars asOf candles) = .ok contracts ∧
        (activeStream (completedBars asOf candles) contracts).getLast? = some last ∧
        snapshotOf (activeStream (completedBars asOf candles) contracts) last = feature := by
  unfold build
  rw [canonicalActiveFuturesStream_eq]
  cases contractsOf (completedBars asOf candles) with
  | error error => simp [Except.map, Except.bind]
  | ok contracts =>
    cases isLast : (activeStream (completedBars asOf candles) contracts).getLast? with
    | none | some => simp [Except.map, Except.bind, isLast]

/-- The expiry policy selects the contract of a bar when it ends. -/
def IsActive (completed : List MarketCandle) (bar : MarketCandle) : Prop :=
  ∃ contracts, contractsOf completed = .ok contracts ∧
    resolveContracts contracts bar.endTime = some bar.instrumentId

/-- The contract of a candle expires before the day of a bar. -/
def ExpiredBefore (candle bar : MarketCandle) : Prop :=
  ∃ expiry, contractExpiry candle.instrumentId = .ok (some expiry) ∧ expiry < istDay bar.endTime

/-- No contract of the completed candles has expired by a bar of an active contract. -/
def OneContract (asOf : Option Int) (candles : List MarketCandle) : Prop :=
  ∀ candle ∈ completedBars asOf candles, isNiftyFuture candle.instrumentId = true →
    ∀ bar ∈ completedBars asOf candles, IsActive (completedBars asOf candles) bar →
      ¬ExpiredBefore candle bar

/-- A contract is the first of all contracts of the completed candles. -/
def Leads (asOf : Option Int) (candles : List MarketCandle) (contractId : String) : Prop :=
  ∀ contracts, contractsOf (completedBars asOf candles) = .ok contracts →
    ∃ contract ∈ contracts, contract.1 = contractId ∧ ∀ other ∈ contracts, contractLe contract other

/-- Two lists that agree on the candles of the contract they both report give the same features. -/
def SameFeatures (asOf : Option Int) (candles others : List MarketCandle) : Prop :=
  ∀ feature other, FuturesFeatureEngine.build candles asOf = .ok feature →
    FuturesFeatureEngine.build others asOf = .ok other → other.contractId = feature.contractId →
      ofContract feature.contractId candles = ofContract feature.contractId others →
        feature = other

/-- The completed candles of the one list are of contracts of the other. -/
def NoFurtherContract (asOf : Option Int) (candles others : List MarketCandle) : Prop :=
  ∀ other ∈ completedBars asOf others, ∃ candle ∈ completedBars asOf candles,
    candle.instrumentId = other.instrumentId

/-- The features depend only on the candles of the contract that they are reported for. -/
def OnlyOwnCandles (asOf : Option Int) (candles : List MarketCandle) : Prop :=
  ∀ others, NoFurtherContract asOf candles others → SameFeatures asOf candles others

variable {feature other : FuturesFeatureSnapshot}

theorem leads_of_oneContract (one : OneContract asOf candles)
    (isFeature : FuturesFeatureEngine.build candles asOf = .ok feature) :
    Leads asOf candles feature.contractId := by
  obtain ⟨contracts, last, resolved, isLast, rfl⟩ := build_eq_ok_iff.mp isFeature
  obtain ⟨inCompleted, isActive⟩ := mem_activeStream (List.mem_of_getLast? isLast)
  obtain ⟨contract, member, own, -, first⟩ := resolveContracts_eq_some_iff.mp isActive
  intro known sameContracts
  obtain rfl := Except.ok.inj (resolved.symm.trans sameContracts)
  refine ⟨contract, member, own, fun other inOthers => first other inOthers ?_⟩
  obtain ⟨otherId, otherExpiry⟩ := other
  obtain ⟨⟨candle, isCandle, rfl⟩, isNifty, isExpiry⟩ := (mem_contractsOf resolved).mp inOthers
  cases otherExpiry with
  | none => rfl
  | some expiry =>
    have unexpired := one candle isCandle isNifty last inCompleted ⟨contracts, resolved, isActive⟩
    exact decide_eq_true (not_lt.mp fun expired => unexpired ⟨expiry, isExpiry, expired⟩)

section

variable (isFeature : FuturesFeatureEngine.build candles asOf = .ok feature)
  (isOther : FuturesFeatureEngine.build others asOf = .ok other)

include isFeature isOther

theorem leads_of_noFurtherContract (within : NoFurtherContract asOf candles others)
    (lead : Leads asOf candles other.contractId) : Leads asOf others other.contractId := by
  obtain ⟨contracts, -, resolved, -, -⟩ := build_eq_ok_iff.mp isFeature
  obtain ⟨otherContracts, otherLast, otherResolved, isOtherLast, rfl⟩ := build_eq_ok_iff.mp isOther
  have subset : ∀ contract ∈ otherContracts, contract ∈ contracts := by
    rintro ⟨contractId, expiry⟩ member
    obtain ⟨⟨candle, isCandle, rfl⟩, isNifty, isExpiry⟩ := (mem_contractsOf otherResolved).mp member
    exact (mem_contractsOf resolved).mpr ⟨within candle isCandle, isNifty, isExpiry⟩
  obtain ⟨-, isActive⟩ := mem_activeStream (List.mem_of_getLast? isOtherLast)
  obtain ⟨reported, isReported, reportedId, -⟩ := resolveContracts_eq_some_iff.mp isActive
  obtain ⟨contract, member, own, first⟩ := lead contracts resolved
  intro known sameContracts
  obtain rfl := Except.ok.inj (otherResolved.symm.trans sameContracts)
  have same : reported = contract :=
    expiry_unique resolved (subset reported isReported) member (reportedId.trans own.symm)
  exact ⟨contract, same ▸ isReported, own, fun later isLater => first later (subset later isLater)⟩

theorem feature_eq_of_leads (sameContract : other.contractId = feature.contractId)
    (agree : ofContract feature.contractId candles = ofContract feature.contractId others)
    (lead : Leads asOf candles feature.contractId) (otherLead : Leads asOf others other.contractId)
    : feature = other := by
  obtain ⟨contracts, last, resolved, isLast, rfl⟩ := build_eq_ok_iff.mp isFeature
  obtain ⟨otherContracts, otherLast, otherResolved, isOtherLast, rfl⟩ := build_eq_ok_iff.mp isOther
  obtain ⟨contract, member, own, first⟩ := lead contracts resolved
  obtain ⟨otherContract, otherMember, otherOwn, otherFirst⟩ :=
    otherLead otherContracts otherResolved
  have sameName : otherContract.1 = contract.1 :=
    otherOwn.trans (sameContract.trans own.symm)
  have sameExpiry : otherContract = contract := by
    obtain ⟨-, -, isExpiry⟩ := (mem_contractsOf resolved).mp member
    obtain ⟨-, -, isOtherExpiry⟩ := (mem_contractsOf otherResolved).mp otherMember
    rw [sameName, isExpiry] at isOtherExpiry
    exact Prod.ext sameName (Except.ok.inj isOtherExpiry).symm
  have sameStream : activeStream (completedBars asOf others) otherContracts =
      activeStream (completedBars asOf candles) contracts := by
    rw [activeStream_of_leads resolved isLast member own first,
      activeStream_of_leads otherResolved isOtherLast otherMember otherOwn otherFirst, sameExpiry,
      ← completedBars_ofContract, ← completedBars_ofContract, own]
    exact congrArg _ (congrArg _ agree.symm)
  rw [sameStream] at isOtherLast ⊢
  rw [Option.some.inj (isLast.symm.trans isOtherLast)]

end

theorem sameFeatures_of_oneContract (one : OneContract asOf candles)
    (oneOther : OneContract asOf others) : SameFeatures asOf candles others :=
  fun _ _ isFeature isOther sameContract agree =>
    feature_eq_of_leads isFeature isOther sameContract agree (leads_of_oneContract one isFeature)
      (leads_of_oneContract oneOther isOther)

theorem onlyOwnCandles_of_oneContract (one : OneContract asOf candles) :
    OnlyOwnCandles asOf candles := by
  intro others within feature other isFeature isOther sameContract agree
  have lead := leads_of_oneContract one isFeature
  exact feature_eq_of_leads isFeature isOther sameContract agree lead
    (leads_of_noFurtherContract isFeature isOther within (sameContract ▸ lead))

end Features

/-! ### Rollovers -/

/-- A contract of the list has expired by the last bar, which is one of another contract. -/
structure Rollover (asOf : Option Int) (candles : List MarketCandle)
    (contracts : List (String × Option Int)) (last : MarketCandle) (contract : String × Option Int)
    (old : String) (expiry : Int) : Prop where
  resolved : contractsOf (completedBars asOf candles) = .ok contracts
  isLast : (activeStream (completedBars asOf candles) contracts).getLast? = some last
  member : contract ∈ contracts
  own : contract.1 = last.instrumentId
  oldMember : (old, some expiry) ∈ contracts
  expired : expiry < istDay last.endTime

def earlyBar (contractId : String) (endTime : Int) : MarketCandle where
  startTime := endTime - 900000000
  endTime
  openPrice := 1
  high := 1
  low := 1
  close := 1
  instrumentId := contractId
  interval := "15m"
  volume := 0
  source := "KITE"

/-- The candles of a contract, with bars of another one. -/
def spliced (contractId old : String) (times : List Int) (candles : List MarketCandle) :
    List MarketCandle :=
  ofContract contractId candles ++ times.map (earlyBar old)

/-- Times in their order, while a contract is traded and before all candles. -/
structure EarlyTimes (completed : List MarketCandle) (expiry : Int) (times : List Int) : Prop where
  sorted : times.Pairwise (· < ·)
  traded : ∀ moment ∈ times, istDay moment ≤ expiry
  before : ∀ moment ∈ times, ∀ candle ∈ completed, moment < candle.endTime

namespace Rollover

variable {asOf : Option Int} {candles : List MarketCandle} {contracts : List (String × Option Int)}
  {last : MarketCandle} {contract : String × Option Int} {old : String} {expiry : Int}
  {times : List Int}

section

variable (rollover : Rollover asOf candles contracts last contract old expiry)

include rollover

theorem isTraded : traded contract last.endTime = true :=
  (lastContract rollover.resolved rollover.isLast rollover.member rollover.own).1

theorem old_before : contractLe (old, some expiry) contract := by
  have isTraded := rollover.isTraded
  unfold BreezeTrading.traded at isTraded
  unfold contractLe
  cases expires : contract.2 with
  | none => exact .inl ⟨rfl, rfl⟩
  | some later =>
    rw [expires, Option.all_some, decide_eq_true_eq] at isTraded
    exact .inr ⟨rfl, .inl (rollover.expired.trans_le isTraded)⟩

theorem old_ne : old ≠ contract.1 := by
  intro same
  have isTraded := rollover.isTraded
  rw [← expiry_unique rollover.resolved rollover.oldMember rollover.member same] at isTraded
  exact absurd (of_decide_eq_true isTraded) (not_le.mpr rollover.expired)

theorem last_mem : last ∈ ofContract contract.1 (completedBars asOf candles) :=
  mem_ofContract.mpr
    ⟨(mem_activeStream (List.mem_of_getLast? rollover.isLast)).1, rollover.own.symm⟩

theorem ofContract_spliced : ofContract contract.1 (spliced contract.1 old times candles) =
      ofContract contract.1 candles := by
  have noOld : (times.map (earlyBar old)).filter
      (fun candle => decide (candle.instrumentId = contract.1)) = [] := by
    refine List.filter_eq_nil_iff.mpr fun candle member => ?_
    obtain ⟨moment, -, rfl⟩ := List.mem_map.mp member
    exact fun same => rollover.old_ne (of_decide_eq_true same)
  unfold spliced ofContract
  rw [List.filter_append, noOld, List.append_nil, List.filter_filter]
  simp only [Bool.and_self]

theorem ofContract_completedBars :
    ofContract contract.1 (completedBars asOf (spliced contract.1 old times candles)) =
      ofContract contract.1 (completedBars asOf candles) := by
  rw [← completedBars_ofContract, rollover.ofContract_spliced, completedBars_ofContract]

end

variable (early : EarlyTimes (completedBars asOf candles) expiry times)
include early

section

variable (rollover : Rollover asOf candles contracts last contract old expiry)

include rollover

theorem isCompleted_earlyBar {moment : Int} (member : moment ∈ times) :
    isCompleted asOf "15m" (earlyBar old moment) = true := by
  have lastCompleted := (mem_ofContract.mp rollover.last_mem).1
  have lastEnded := (of_decide_eq_true (List.mem_filter.mp lastCompleted).2).2.2.1
  have isBefore := early.before moment member last lastCompleted
  have ended : moment ≤ asOf.getD moment := by
    cases asOf with
    | none => exact le_rfl
    | some known => exact isBefore.le.trans lastEnded
  refine decide_eq_true ⟨rfl, sub_lt_self moment (by decide), ended, ?_⟩
  simp [earlyBar]

theorem mem_completedBars {candle : MarketCandle} :
    candle ∈ completedBars asOf (spliced contract.1 old times candles) ↔
      candle ∈ ofContract contract.1 (completedBars asOf candles) ∨
        ∃ moment ∈ times, earlyBar old moment = candle := by
  rw [mem_ofContract]
  unfold completedBars completedFuturesCandles ordered spliced
  rw [List.mem_filter, List.mem_filter, List.mem_insertionSort, List.mem_insertionSort,
    List.mem_append, List.mem_map, mem_ofContract]
  constructor
  · rintro ⟨⟨isCandle, own⟩ | isEarly, isCompleted⟩
    · exact .inl ⟨⟨isCandle, isCompleted⟩, own⟩
    · exact .inr isEarly
  · rintro (⟨⟨isCandle, isCompleted⟩, own⟩ | ⟨moment, member, rfl⟩)
    · exact ⟨.inl ⟨isCandle, own⟩, isCompleted⟩
    · exact ⟨.inr ⟨moment, member, rfl⟩, rollover.isCompleted_earlyBar early member⟩

theorem contractsOf_spliced (nonempty : times ≠ []) :
    ∃ both, contractsOf (completedBars asOf (spliced contract.1 old times candles)) = .ok both ∧
      contract ∈ both ∧ (old, some expiry) ∈ both ∧
        ∀ other ∈ both, other = contract ∨ other = (old, some expiry) := by
  obtain ⟨-, isNifty, isExpiry⟩ := (mem_contractsOf rollover.resolved).mp rollover.member
  obtain ⟨-, oldNifty, oldExpiry⟩ := (mem_contractsOf rollover.resolved).mp rollover.oldMember
  have mem := fun candle => @mem_completedBars _ _ _ _ _ _ _ _ early rollover candle
  obtain ⟨both, resolved⟩ : ∃ both,
      contractsOf (completedBars asOf (spliced contract.1 old times candles)) = .ok both := by
    refine contractsOf_isOk fun candle member _ => ?_
    rcases (mem candle).mp member with isOwn | ⟨moment, -, rfl⟩
    · exact ⟨contract.2, (mem_ofContract.mp isOwn).2 ▸ isExpiry⟩
    · exact ⟨some expiry, oldExpiry⟩
  refine ⟨both, resolved, ?_, ?_, fun other isOther => ?_⟩
  · exact (mem_contractsOf resolved).mpr
      ⟨⟨last, (mem last).mpr (.inl rollover.last_mem), rollover.own.symm⟩, isNifty, isExpiry⟩
  · obtain ⟨moment, member⟩ := List.exists_mem_of_ne_nil times nonempty
    exact (mem_contractsOf resolved).mpr
      ⟨⟨earlyBar old moment, (mem _).mpr (.inr ⟨moment, member, rfl⟩), rfl⟩, oldNifty, oldExpiry⟩
  · obtain ⟨otherId, otherExpiry⟩ := other
    obtain ⟨⟨candle, isCandle, rfl⟩, -, isOtherExpiry⟩ := (mem_contractsOf resolved).mp isOther
    rcases (mem candle).mp isCandle with isOwn | ⟨moment, -, rfl⟩
    · have same := (mem_ofContract.mp isOwn).2
      rw [same, isExpiry] at isOtherExpiry
      exact .inl (Prod.ext same (Except.ok.inj isOtherExpiry).symm)
    · exact .inr (Prod.ext rfl (Except.ok.inj (isOtherExpiry.symm.trans oldExpiry)))

end

omit early in
theorem resolve_both (rollover : Rollover asOf candles contracts last contract old expiry)
    {both : List (String × Option Int)} (inBoth : contract ∈ both)
    (oldInBoth : (old, some expiry) ∈ both)
    (only : ∀ other ∈ both, other = contract ∨ other = (old, some expiry)) (moment : Int) :
    resolveContracts both moment =
      if istDay moment ≤ expiry then some old
      else if BreezeTrading.traded contract moment = true then some contract.1 else none := by
  have oldTraded : BreezeTrading.traded (old, some expiry) moment = true ↔
      istDay moment ≤ expiry := decide_eq_true_iff
  split_ifs with isOld isTraded
  · refine resolveContracts_eq_some_iff.mpr
      ⟨_, oldInBoth, rfl, oldTraded.mpr isOld, fun other isOther _ => ?_⟩
    rcases only other isOther with rfl | rfl
    · exact rollover.old_before
    · exact refl_of contractLe _
  · refine resolveContracts_eq_some_iff.mpr
      ⟨contract, inBoth, rfl, isTraded, fun other isOther otherTraded => ?_⟩
    rcases only other isOther with rfl | rfl
    · exact refl_of contractLe _
    · exact absurd (oldTraded.mp otherTraded) isOld
  · refine Option.eq_none_iff_forall_not_mem.mpr fun contractId isActive => ?_
    obtain ⟨other, isOther, -, otherTraded, -⟩ := resolveContracts_eq_some_iff.mp isActive
    rcases only other isOther with rfl | rfl
    · exact isTraded otherTraded
    · exact isOld (oldTraded.mp otherTraded)

/-- The candle of the contract at a time, once the other one has expired. -/
def lateCandle (asOf : Option Int) (candles : List MarketCandle) (contract : String × Option Int)
    (expiry moment : Int) : Option MarketCandle :=
  if istDay moment ≤ expiry then none
  else if BreezeTrading.traded contract moment = true then
    candleAt (ofContract contract.1 (completedBars asOf candles)) moment
  else none

section

variable (rollover : Rollover asOf candles contracts last contract old expiry)

include rollover

/-- The stream of the spliced candles: the bars that are put in front, and then those of the
contract. -/
theorem activeStream_spliced {both : List (String × Option Int)} (inBoth : contract ∈ both)
    (oldInBoth : (old, some expiry) ∈ both)
    (only : ∀ other ∈ both, other = contract ∨ other = (old, some expiry)) :
    ∃ front : List MarketCandle, front.length = times.length ∧
      activeStream (completedBars asOf (spliced contract.1 old times candles)) both =
        front ++ (endTimes (ofContract contract.1 (completedBars asOf candles))).filterMap
          (lateCandle asOf candles contract expiry) := by
  have mem := fun candle => @mem_completedBars _ _ _ _ _ _ _ _ early rollover candle
  have resolve := rollover.resolve_both inBoth oldInBoth only
  have ownBars := @ofContract_completedBars _ _ _ _ _ _ _ times rollover
  generalize completedBars asOf (spliced contract.1 old times candles) = bars at *
  have oldTimes : ∀ moment, moment ∈ endTimes (ofContract old bars) ↔ moment ∈ times := by
    intro moment
    rw [mem_endTimes]
    constructor
    · rintro ⟨candle, isOld, rfl⟩
      obtain ⟨inBars, isOldName⟩ := mem_ofContract.mp isOld
      rcases (mem candle).mp inBars with isOwn | ⟨moment, member, rfl⟩
      · exact absurd (isOldName.symm.trans (mem_ofContract.mp isOwn).2) rollover.old_ne
      · exact member
    · intro member
      exact ⟨earlyBar old moment,
        mem_ofContract.mpr ⟨(mem _).mpr (.inr ⟨moment, member, rfl⟩), rfl⟩, rfl⟩
  have isLater : ∀ moment ∈ times,
      ∀ later ∈ endTimes (ofContract contract.1 (completedBars asOf candles)), moment < later := by
    intro moment member later isLater
    obtain ⟨candle, isOwn, rfl⟩ := mem_endTimes.mp isLater
    exact early.before moment member candle (mem_ofContract.mp isOwn).1
  have allTimes : endTimes bars =
      times ++ endTimes (ofContract contract.1 (completedBars asOf candles)) := by
    refine (eq_distinct (List.pairwise_append.mpr
      ⟨early.sorted, distinct_pairwise _, isLater⟩) fun moment => ?_).symm
    rw [List.mem_append, List.mem_map, ← endTimes_eq_distinct, mem_endTimes]
    constructor
    · rintro (member | ⟨candle, isOwn, ends⟩)
      · exact ⟨earlyBar old moment, (mem _).mpr (.inr ⟨moment, member, rfl⟩), rfl⟩
      · exact ⟨candle, (mem candle).mpr (.inl isOwn), ends⟩
    · rintro ⟨candle, inBars, rfl⟩
      rcases (mem candle).mp inBars with isOwn | ⟨moment, member, rfl⟩
      · exact .inr ⟨candle, isOwn, rfl⟩
      · exact .inl member
  refine ⟨times.filterMap (activeCandleAt bars both), ?_, ?_⟩
  · refine List.filterMap_length_eq_length.mpr fun moment member => ?_
    rw [activeCandleAt_eq, resolve, if_pos (early.traded moment member)]
    exact candleAt_isSome.mpr ((oldTimes moment).mpr member)
  · unfold activeStream
    rw [allTimes, List.filterMap_append]
    refine congrArg _ (List.filterMap_congr fun moment member => ?_)
    rw [activeCandleAt_eq, resolve]
    unfold lateCandle
    split_ifs with isOld isTraded
    · -- the bars that are put in front have ended before
      rw [Option.bind_some, ← Option.not_isSome_iff_eq_none, candleAt_isSome, oldTimes]
      exact fun isEarly => (isLater moment isEarly moment member).false
    · rw [Option.bind_some, ownBars]
    · rfl

theorem build_spliced (nonempty : times ≠ []) : ∃ feature,
      FuturesFeatureEngine.build (spliced contract.1 old times candles) asOf = .ok feature ∧
      feature.contractId = contract.1 ∧
      feature.barIndex + 1 = times.length +
        ((endTimes (ofContract contract.1 (completedBars asOf candles))).filterMap
          (lateCandle asOf candles contract expiry)).length := by
  obtain ⟨both, resolved, inBoth, oldInBoth, only⟩ := rollover.contractsOf_spliced early nonempty
  obtain ⟨front, frontLength, stream⟩ := rollover.activeStream_spliced early inBoth oldInBoth only
  generalize isLate : (endTimes (ofContract contract.1 (completedBars asOf candles))).filterMap
    (lateCandle asOf candles contract expiry) = late at *
  -- the contract has a candle when the last bar ends
  have someLate : late ≠ [] := by
    have isTime : last.endTime ∈ endTimes (ofContract contract.1 (completedBars asOf candles)) :=
      mem_endTimes.mpr ⟨last, rollover.last_mem, rfl⟩
    obtain ⟨bar, found⟩ := Option.isSome_iff_exists.mp (candleAt_isSome.mpr isTime)
    have isLateBar : lateCandle asOf candles contract expiry last.endTime = some bar := by
      rw [lateCandle, if_neg (not_le.mpr rollover.expired), if_pos rollover.isTraded, found]
    rw [← isLate]
    exact List.ne_nil_of_mem (List.mem_filterMap.mpr ⟨_, isTime, isLateBar⟩)
  have isBar := List.getLast?_eq_some_getLast someLate
  generalize late.getLast someLate = bar at isBar
  have isLast : (activeStream (completedBars asOf (spliced contract.1 old times candles))
      both).getLast? = some bar := by
    rw [stream, List.getLast?_append, isBar]
    rfl
  refine ⟨_, build_eq_ok_iff.mpr ⟨both, bar, resolved, isLast, rfl⟩, ?_, ?_⟩
  · have member := List.mem_of_getLast? isBar
    rw [← isLate] at member
    obtain ⟨moment, -, found⟩ := List.mem_filterMap.mp member
    unfold lateCandle at found
    split_ifs at found
    exact (mem_ofContract.mp (candleAt_mem found).1).2
  · have positive := List.length_pos_iff.mpr someLate
    change (activeStream _ both).length - 1 + 1 = _
    rw [stream, List.length_append, frontLength]
    omega

end

end Rollover

/-! ### Whose candles count -/

section Mixing

variable {asOf : Option Int} {candles : List MarketCandle}

theorem exists_rollover (mixed : ¬OneContract asOf candles) :
    ∃ contracts last contract old expiry,
      Rollover asOf candles contracts last contract old expiry := by
  unfold OneContract at mixed
  push Not at mixed
  obtain ⟨candle, isCandle, isNifty, bar, isBar, ⟨contracts, resolved, isActive⟩, expiry, isExpiry,
    expired⟩ := mixed
  have isTime : bar.endTime ∈ endTimes (completedBars asOf candles) :=
    mem_endTimes.mpr ⟨bar, isBar, rfl⟩
  -- the active contract has a candle when the bar ends
  have ownTime : bar.endTime ∈
      endTimes (ofContract bar.instrumentId (completedBars asOf candles)) :=
    mem_endTimes.mpr ⟨bar, mem_ofContract.mpr ⟨isBar, rfl⟩, rfl⟩
  obtain ⟨shown, found⟩ := Option.isSome_iff_exists.mp (candleAt_isSome.mpr ownTime)
  have isShown :
      activeCandleAt (completedBars asOf candles) contracts bar.endTime = some shown := by
    rw [activeCandleAt_eq, isActive, Option.bind_some, found]
  have inStream : shown ∈ activeStream (completedBars asOf candles) contracts :=
    List.mem_filterMap.mpr ⟨_, isTime, isShown⟩
  have isLast := List.getLast?_eq_some_getLast (List.ne_nil_of_mem inStream)
  have le := endTime_le_last inStream isLast
  generalize (activeStream (completedBars asOf candles) contracts).getLast
    (List.ne_nil_of_mem inStream) = last at isLast le
  obtain ⟨-, lastActive⟩ := mem_activeStream (List.mem_of_getLast? isLast)
  obtain ⟨contract, member, own, -⟩ := resolveContracts_eq_some_iff.mp lastActive
  rw [(activeCandleAt_some isShown).2.1] at le
  exact ⟨contracts, last, contract, candle.instrumentId, expiry,
    { resolved
      isLast
      member
      own
      oldMember := (mem_contractsOf resolved).mpr ⟨⟨candle, isCandle, rfl⟩, isNifty, isExpiry⟩
      expired := expired.trans_le (istDay_mono le) }⟩

theorem exists_early (completed : List MarketCandle) (expiry : Int) :
    ∃ moment, istDay moment ≤ expiry ∧ ∀ candle ∈ completed, moment < candle.endTime := by
  induction completed with
  | nil =>
    refine ⟨expiry * 86400000000 - 19800000000, ?_, fun candle member => nomatch member⟩
    unfold istDay
    omega
  | cons head rest inductionHypothesis =>
    obtain ⟨moment, isTraded, before⟩ := inductionHypothesis
    refine ⟨min moment (head.endTime - 1), (istDay_mono (min_le_left _ _)).trans isTraded,
      fun candle member => ?_⟩
    rcases List.mem_cons.mp member with rfl | inRest
    · omega
    · exact (min_le_left _ _).trans_lt (before candle inRest)

theorem earlyTimes_pair {completed : List MarketCandle} {expiry moment : Int}
    (isTraded : istDay moment ≤ expiry)
    (before : ∀ candle ∈ completed, moment < candle.endTime) :
    EarlyTimes completed expiry [moment] ∧
      EarlyTimes completed expiry [moment - 900000000, moment] := by
  have earlier : moment - 900000000 ≤ moment := by omega
  refine ⟨⟨List.pairwise_singleton _ _, ?_, ?_⟩, ⟨List.pairwise_pair.mpr (by omega), ?_, ?_⟩⟩
  · simpa using isTraded
  · simpa using before
  · simpa using And.intro ((istDay_mono earlier).trans isTraded) isTraded
  · simpa using And.intro (fun candle member => earlier.trans_lt (before candle member)) before

section

variable {contracts : List (String × Option Int)} {last : MarketCandle}
  {contract : String × Option Int} {old : String} {expiry : Int}
  (rollover : Rollover asOf candles contracts last contract old expiry)

include rollover

theorem Rollover.noFurtherContract {times : List Int}
    (early : EarlyTimes (completedBars asOf candles) expiry times) :
    NoFurtherContract asOf candles (spliced contract.1 old times candles) := by
  intro other member
  rcases (rollover.mem_completedBars early).mp member with isOwn | ⟨moment, -, rfl⟩
  · exact ⟨other, (mem_ofContract.mp isOwn).1, rfl⟩
  · exact ((mem_contractsOf rollover.resolved).mp rollover.oldMember).1

theorem Rollover.barIndex_eq {times : List Int}
    (early : EarlyTimes (completedBars asOf candles) expiry times) (nonempty : times ≠ [])
    (only : OnlyOwnCandles asOf candles) {feature : FuturesFeatureSnapshot}
    (isFeature : FuturesFeatureEngine.build candles asOf = .ok feature)
    (own : feature.contractId = contract.1) : feature.barIndex + 1 = times.length +
      ((endTimes (ofContract contract.1 (completedBars asOf candles))).filterMap
        (lateCandle asOf candles contract expiry)).length := by
  obtain ⟨other, isOther, otherContract, count⟩ := rollover.build_spliced early nonempty
  have agree : ofContract feature.contractId candles =
      ofContract feature.contractId (spliced contract.1 old times candles) := by
    rw [own, rollover.ofContract_spliced]
  rw [only _ (rollover.noFurtherContract early) feature other isFeature isOther
    (otherContract.trans own.symm) agree]
  exact count

theorem Rollover.not_onlyOwnCandles : ¬OnlyOwnCandles asOf candles := by
  intro only
  have isFeature := build_eq_ok_iff.mpr
    ⟨contracts, last, rollover.resolved, rollover.isLast, rfl⟩
  obtain ⟨moment, isTraded, before⟩ := exists_early (completedBars asOf candles) expiry
  obtain ⟨one, two⟩ := earlyTimes_pair isTraded before
  have first := rollover.barIndex_eq one (List.cons_ne_nil _ _) only isFeature rollover.own.symm
  have second := rollover.barIndex_eq two (List.cons_ne_nil _ _) only isFeature rollover.own.symm
  rw [first] at second
  simp at second

end

/-- The features of a contract depend only on its own candles exactly where no contract of the
candles has expired by a bar of an active one, and of any two such lists that agree on the candles
of the contract they report the features are the same. -/
theorem features_of_own_candles (asOf : Option Int) (candles : List MarketCandle) :
    (OnlyOwnCandles asOf candles ↔ OneContract asOf candles) ∧
      ∀ others, OneContract asOf candles → OneContract asOf others →
        SameFeatures asOf candles others := by
  refine ⟨⟨fun only => ?_, onlyOwnCandles_of_oneContract⟩,
    fun others => sameFeatures_of_oneContract⟩
  by_contra mixed
  obtain ⟨contracts, last, contract, old, expiry, rollover⟩ := exists_rollover mixed
  exact rollover.not_onlyOwnCandles only

/-- A bar of the September contract on the day of its expiry, at another price. -/
def septemberBar : MarketCandle :=
  { earlyBar "INST-NIFTY-FUT-2026-09-24" 1790249400000000 with
    openPrice := 22, high := 22, close := 22 }

/-- A bar of the October contract on the day after. -/
def octoberBar : MarketCandle := earlyBar "INST-NIFTY-FUT-2026-10-29" 1790308800000000

/-- The October contract takes the average of twenty bars from the price of the September one. -/
theorem rollover_splices : ¬∀ asOf candles others, SameFeatures asOf candles others := by
  intro same
  have own : (FuturesFeatureEngine.build [octoberBar] none).map
      (fun feature => (feature.contractId, feature.ema20)) =
        .ok ("INST-NIFTY-FUT-2026-10-29", 1) := by decide +kernel
  have both : (FuturesFeatureEngine.build [septemberBar, octoberBar] none).map
      (fun feature => (feature.contractId, feature.ema20)) =
        .ok ("INST-NIFTY-FUT-2026-10-29", 20) := by decide +kernel
  obtain ⟨feature, isFeature, shown⟩ := ok_of_map own
  obtain ⟨other, isOther, otherShown⟩ := ok_of_map both
  obtain ⟨contract, average⟩ := Prod.mk.inj shown
  obtain ⟨otherContract, otherAverage⟩ := Prod.mk.inj otherShown
  have agree : ofContract feature.contractId [octoberBar] =
      ofContract feature.contractId [septemberBar, octoberBar] := by
    rw [contract]
    decide +kernel
  have equal := same none [octoberBar] [septemberBar, octoberBar] feature other isFeature isOther
    (otherContract.trans contract.symm) agree
  rw [← equal, average] at otherAverage
  exact absurd otherAverage (by decide)

end Mixing

end BreezeTrading
