/-
This file proves when the cache of the latest quotes is monotone. An arrival replaces what is there,
whatever the two times are, so the cache has the last quote that arrived under a key: the newest one
at all times exactly where the quotes of each key arrive in the order of their times.
-/

import BreezeTrading.MarketData.Service
import Mathlib.Data.List.Induction

namespace BreezeTrading

namespace MarketDataService

/-! ### The last arrival -/

/-- The quotes that arrive under an id or a symbol. -/
def addressed (key : String) (arrivals : List Arrival) : List MarketQuote :=
  (arrivals.map Arrival.quote).filter fun quote =>
    decide (quote.instrumentId = key ∨ quote.symbol = key)

theorem addressed_concat (key : String) (arrivals : List Arrival) (arrival : Arrival) :
    addressed key (arrivals ++ [arrival]) = addressed key arrivals ++
      if arrival.quote.instrumentId = key ∨ arrival.quote.symbol = key then [arrival.quote]
      else [] := by
  unfold addressed
  rw [List.map_append, List.filter_append, List.map_singleton, List.filter_singleton,
    Bool.cond_decide]

theorem addressed_mono (key : String) {received arrivals : List Arrival}
    (isPrefix : received <+: arrivals) : addressed key received <+: addressed key arrivals :=
  (isPrefix.map Arrival.quote).filter _

theorem getLatestQuote_receive (service : MarketDataService) (arrival : Arrival) (key : String) :
    (service.receive arrival).getLatestQuote key =
      if arrival.quote.instrumentId = key ∨ arrival.quote.symbol = key then some arrival.quote
      else service.getLatestQuote key := by
  have updated (quote : MarketQuote) :
      (service.updateQuote quote).getLatestQuote key =
        if quote.instrumentId = key ∨ quote.symbol = key then some quote
        else service.getLatestQuote key := by
    unfold updateQuote getLatestQuote
    by_cases sameSymbol : quote.symbol = key
    · subst sameSymbol
      rw [if_pos (.inr rfl)]
      exact Function.update_self _ _ _
    · dsimp only
      rw [Function.update_of_ne (Ne.symm sameSymbol)]
      by_cases sameId : quote.instrumentId = key
      · subst sameId
        rw [if_pos (.inl rfl)]
        exact Function.update_self _ _ _
      · rw [Function.update_of_ne (Ne.symm sameId), if_neg (not_or.mpr ⟨sameId, sameSymbol⟩)]
  cases arrival with
  | seeded quote => exact updated quote
  | ingested quote => exact updated quote

theorem getLatestQuote_after (arrivals : List Arrival) (key : String) :
    (after arrivals).getLatestQuote key = (addressed key arrivals).getLast? := by
  induction arrivals using List.reverseRecOn with
  | nil => rfl
  | append_singleton arrivals arrival inductionHypothesis =>
    have stepped : after (arrivals ++ [arrival]) = (after arrivals).receive arrival :=
      List.foldl_concat _ _ _ _
    rw [stepped, getLatestQuote_receive, inductionHypothesis, addressed_concat]
    split
    · exact List.getLast?_concat.symm
    · rw [List.append_nil]

/-! ### The newest quote -/

/-- A quote that was received for a key, and none of them is newer. -/
structure IsNewest (received : List Arrival) (key : String) (quote : MarketQuote) : Prop where
  member : quote ∈ addressed key received
  newest : ∀ other ∈ addressed key received, other.timestamp ≤ quote.timestamp

/-- A quote on which an order may be based. -/
structure IsFresh (now : Int) (maxAgeSeconds : ℚ) (quote : MarketQuote) : Prop where
  real : reportedSource quote ∈ realProviders
  priced : 0 < quote.lastPrice
  notFuture : -1 ≤ rawAgeSeconds now quote
  recent : ageSeconds now quote ≤ maxAgeSeconds

/-- At all times the latest quote is the newest one received, and a healthy feed is one whose newest
quotes are fresh. -/
structure CacheLaw (arrivals : List Arrival) : Prop where
  latest : ∀ received, received <+: arrivals → ∀ key, addressed key received ≠ [] →
    ∃ quote, (after received).getLatestQuote key = some quote ∧ IsNewest received key quote
  health : ∀ received, received <+: arrivals →
    ∀ brokerActive instrumentIds maxAgeSeconds now,
      ((after received).getExecutionFeedHealth brokerActive instrumentIds maxAgeSeconds
        now).healthy = true →
      ∀ instrumentId ∈ instrumentIds, ∃ quote, IsNewest received instrumentId quote ∧
        IsFresh now maxAgeSeconds quote

theorem newest_of_sorted {quotes : List MarketQuote} {last : MarketQuote}
    (sorted : quotes.Pairwise fun first second => first.timestamp ≤ second.timestamp)
    (isLast : quotes.getLast? = some last) :
    ∀ other ∈ quotes, other.timestamp ≤ last.timestamp := by
  obtain ⟨before, rfl⟩ := List.getLast?_eq_some_iff.mp isLast
  intro other member
  rcases List.mem_append.mp member with isBefore | isOther
  · exact (List.pairwise_append.mp sorted).2.2 other isBefore last List.mem_cons_self
  · rw [List.mem_singleton.mp isOther]

theorem isNewest_of_sorted {received : List Arrival} {key : String} {quote : MarketQuote}
    (sorted : (addressed key received).Pairwise fun first second =>
      first.timestamp ≤ second.timestamp)
    (isLatest : (after received).getLatestQuote key = some quote) :
    IsNewest received key quote := by
  rw [getLatestQuote_after] at isLatest
  exact ⟨List.mem_of_getLast? isLatest, newest_of_sorted sorted isLatest⟩

theorem fresh_of_healthy {service : MarketDataService} {brokerActive : Bool}
    {instrumentIds : List String} {maxAgeSeconds : ℚ} {now : Int}
    (healthy : (service.getExecutionFeedHealth brokerActive instrumentIds maxAgeSeconds
      now).healthy = true) {instrumentId : String} (member : instrumentId ∈ instrumentIds) :
    ∃ quote, service.getLatestQuote instrumentId = some quote ∧
      IsFresh now maxAgeSeconds quote := by
  have noReason : service.instrumentReasons now maxAgeSeconds instrumentId = [] :=
    List.flatMap_eq_nil_iff.mp (List.append_eq_nil_iff.mp (of_decide_eq_true healthy)).2
      instrumentId member
  unfold instrumentReasons at noReason
  cases isLatest : service.getLatestQuote instrumentId with
  | none =>
    rw [isLatest] at noReason
    cases noReason
  | some quote =>
    rw [isLatest, Option.elim_some] at noReason
    unfold quoteReasons at noReason
    simp only [List.append_eq_nil_iff, ite_eq_right_iff, List.cons_ne_nil, imp_false] at noReason
    obtain ⟨⟨⟨real, priced⟩, notFuture⟩, recent⟩ := noReason
    exact ⟨quote, rfl, ⟨not_not.mp real, not_le.mp priced, not_lt.mp notFuture, not_lt.mp recent⟩⟩

/-- The cache keeps its law exactly where the quotes under each id and each symbol arrive in the
order of their times. -/
theorem cache_law_iff (arrivals : List Arrival) :
    CacheLaw arrivals ↔ ∀ key, (addressed key arrivals).Pairwise fun first second =>
      first.timestamp ≤ second.timestamp := by
  constructor
  · intro law key
    have latest := law.latest
    clear law
    induction arrivals using List.reverseRecOn with
    | nil => exact .nil
    | append_singleton arrivals arrival inductionHypothesis =>
      have sorted := inductionHypothesis fun received isPrefix =>
        latest received (isPrefix.trans (List.prefix_append _ _))
      have whole := latest _ (List.prefix_refl _) key
      rw [getLatestQuote_after] at whole
      rw [addressed_concat] at *
      split
      · rename_i isAddressed
        rw [if_pos isAddressed] at whole
        obtain ⟨quote, isLast, newest⟩ := whole (List.concat_ne_nil _ _)
        rw [List.getLast?_concat] at isLast
        cases isLast
        refine List.pairwise_append.mpr ⟨sorted, List.pairwise_singleton _ _,
          fun earlier isEarlier later isLater => ?_⟩
        rw [List.mem_singleton.mp isLater]
        refine newest.newest earlier ?_
        rw [addressed_concat]
        exact List.mem_append_left _ isEarlier
      · rw [List.append_nil]
        exact sorted
  · intro sorted
    have sortedBefore {received : List Arrival} (isPrefix : received <+: arrivals) (key : String) :=
      (sorted key).sublist (addressed_mono key isPrefix).sublist
    constructor
    · intro received isPrefix key nonempty
      have isLatest := List.getLast?_eq_some_getLast nonempty
      rw [← getLatestQuote_after] at isLatest
      exact ⟨_, isLatest, isNewest_of_sorted (sortedBefore isPrefix key) isLatest⟩
    · intro received isPrefix brokerActive instrumentIds maxAgeSeconds now healthy id member
      obtain ⟨quote, isLatest, fresh⟩ := fresh_of_healthy healthy member
      exact ⟨quote, isNewest_of_sorted (sortedBefore isPrefix id) isLatest, fresh⟩

/-- A quote of the index from a feed. -/
def niftyQuote (source : String) (lastPrice : ℚ) (timestamp : Int) : MarketQuote where
  source
  instrumentId := "INST-NIFTY-INDEX"
  symbol := "NIFTY 50"
  lastPrice
  volume := 0
  openInterest := 0
  timestamp

/-- A quote of 09:15:40 replaces one of 09:16:05 that arrived before it. -/
theorem late_quote_replaces : ¬∀ arrivals : List Arrival, CacheLaw arrivals := by
  intro law
  have latest := (law [.ingested (niftyQuote "KITE" 25420 1790221565000000),
    .ingested (niftyQuote "KITE" 25400 1790221540000000)]).latest _ (List.prefix_refl _)
    "INST-NIFTY-INDEX" (by decide +kernel)
  obtain ⟨quote, isLatest, isNewest⟩ := latest
  have replaced : (after [.ingested (niftyQuote "KITE" 25420 1790221565000000),
      .ingested (niftyQuote "KITE" 25400 1790221540000000)]).getLatestQuote "INST-NIFTY-INDEX" =
        some (niftyQuote "KITE" 25400 1790221540000000) := by decide +kernel
  obtain rfl := Option.some.inj (isLatest.symm.trans replaced)
  exact absurd (isNewest.newest (niftyQuote "KITE" 25420 1790221565000000) (by decide +kernel))
    (by decide +kernel)

end MarketDataService

end BreezeTrading
