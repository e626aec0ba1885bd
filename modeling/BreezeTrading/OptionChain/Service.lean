/-
This file models the option chain service as the strategies call it, without a provider.
With a broker gateway the chain comes from Kite, or is unavailable and empty; without one
it is built from the local master and a pricing model, under a source of its own. An
expiry is the number of its day.
-/

import BreezeTrading.Strategy.RiskGates
import Mathlib.Data.List.Dedup
import Mathlib.Data.List.Sort

namespace BreezeTrading

namespace OptionChain

/-! ### Chains -/

/-- A timestamp as it is found: there is none, it does not parse to an aware moment, or it does. -/
inductive RawTimestamp where
  | missing
  | malformed
  | at (moment : Int)
  deriving DecidableEq, Repr

/-- The quote of an option at a strike. -/
structure OptionLeg where
  instrumentId : String
  symbol : String
  ltp : ℚ
  bid : ℚ
  ask : ℚ
  volume : Int
  openInterest : Int
  lotSize : Int
  expiry : Option Int := none
  delta : Option ℚ := none
  quoteTimestamp : RawTimestamp := .missing
  deriving DecidableEq

structure StrikeRow where
  strike : ℚ
  call : Option OptionLeg
  put : Option OptionLeg
  expiry : Option Int := none
  deriving DecidableEq

/-- What a chain says about itself: whether its deltas are verified, and why not. -/
structure Capabilities where
  verifiedDeltaAvailable : Bool
  contractSelectionReady : Bool
  rejectionReason : String
  deriving DecidableEq, Repr

structure Chain where
  source : String
  strikes : List StrikeRow
  expiry : Option Int := none
  timestamp : RawTimestamp := .missing
  capabilities : Option Capabilities := none
  validationRejection : Option String := none
  holidays : List Int := []
  deriving DecidableEq

/-- The sources whose quotes are real. -/
def realSources : List String := ["BREEZE", "KITE", "LIVE"]

theorem simulated_not_real : "SIMULATED" ∉ realSources := by decide

theorem unavailable_not_real : "UNAVAILABLE" ∉ realSources := by decide

/-- The leg of a row for one kind of option. -/
def StrikeRow.leg (row : StrikeRow) : OptionType → Option OptionLeg
  | .call => row.call
  | .put => row.put

/-- A chain without prices, and the reason. -/
def unavailable (expiry : Option Int) (reason : String) : Chain where
  source := "UNAVAILABLE"
  strikes := []
  expiry := expiry
  capabilities := some ⟨false, false, reason⟩

/-! ### The chain of Kite -/

/-- The quotes of Kite for the contracts around the spot, as the adapter returns them. -/
structure KiteQuotes where
  expiry : Int
  strikes : List StrikeRow
  capturedAt : Int
  deriving DecidableEq

def kiteChain (quotes : KiteQuotes) : Chain where
  source := "KITE"
  strikes := quotes.strikes
  expiry := some quotes.expiry
  timestamp := .at quotes.capturedAt
  capabilities := some ⟨false, false, "KITE_VERIFIED_OPTION_GREEKS_UNAVAILABLE"⟩

/-- What the Kite adapter and the caches over it answer. `shared` is a chain cached for the nearest
expiry, `cached` one for an expiry; `mayAsk` says that no retry is being held back. -/
structure KiteState where
  active : Bool
  shared : Option KiteQuotes
  expiries : Except Raised (List Int)
  cached : Int → Option KiteQuotes
  mayAsk : Bool
  quotes : Int → Except Raised KiteQuotes
  enriched : Except Raised Unit

/-- The expiries Kite lists from a day on; a failure lists none. -/
def KiteState.openExpiries (kite : KiteState) (today : Int) : List Int :=
  if kite.active then
    match kite.expiries with
    | .ok expiries => expiries.filter fun expiry => decide (today ≤ expiry)
    | .error _ => []
  else []

/-- The live chain of an expiry, where Kite answers with quotes. -/
def KiteState.liveChain (kite : KiteState) (expiry : Int) : Option Chain :=
  if kite.mayAsk then
    match kite.quotes expiry with
    | .ok quotes =>
        if quotes.strikes ≠ [] ∧ kite.enriched.isOk = true then some (kiteChain quotes) else none
    | .error _ => none
  else none

/-- The chain of a caller that must not be given anything but Kite. -/
def kiteOnlyChain (kite : Option KiteState) (today : Int) : Chain :=
  match kite with
  | none => unavailable none "KITE_OPTION_CHAIN_UNAVAILABLE"
  | some kite =>
      match if kite.active then kite.shared else none with
      | some quotes => kiteChain quotes
      | none =>
          match (kite.openExpiries today).min? with
          | none => unavailable none "KITE_OPTION_CHAIN_UNAVAILABLE"
          | some expiry =>
              match kite.cached expiry with
              | some quotes => kiteChain quotes
              | none =>
                  (kite.liveChain expiry).getD
                    (unavailable (some expiry) "KITE_OPTION_CHAIN_UNAVAILABLE")

/-! ### The fallback chain -/

/-- An option of the local master. -/
structure OptionInstrument where
  instrumentId : String
  stockCode : String
  strike : Option ℚ
  optionRight : Option OptionType
  lotSize : Int
  deriving DecidableEq

/-- A quote of the market data service, whatever its source. -/
structure MarketQuote where
  lastPrice : ℚ
  volume : Int
  openInterest : Int
  deriving DecidableEq

/-- `round(spot_price / step) * step` for the step of NIFTY. -/
def atmStrike (spot : ℚ) : ℚ := roundHalfEven (spot / 50) * 50

/-- The strikes reach at least 200 points to both sides. -/
def hasAtmCoverage (instruments : List OptionInstrument) (atm : ℚ) : Bool :=
  let strikes := instruments.filterMap OptionInstrument.strike
  strikes.any (fun strike => decide (strike ≤ atm - 200)) &&
    strikes.any fun strike => decide (atm + 200 ≤ strike)

/-- `seed_strikes_around_spot`: fifteen strikes to both sides, with a call and a put each. -/
def seedStrikesAroundSpot (spot : ℚ) (expiry : Int) : List OptionInstrument :=
  (List.range 31).flatMap fun offset =>
    let strike := atmStrike spot + (((offset : Int) - 15) * 50 : Int)
    [OptionType.call, .put].map fun right =>
      let name := toString strike.num ++ (if right = .call then "CE" else "PE")
      { instrumentId := "INST-NIFTY-" ++ toString expiry ++ "-" ++ name
        stockCode := "NIFTY" ++ name
        strike := some strike
        optionRight := some right
        lotSize := 25 }

/-- The premium of the pricing model: intrinsic value, and a time value that falls with the
distance from the spot. -/
def modelPremium (spot strike : ℚ) (right : OptionType) : ℚ :=
  let diff := if right = .call then spot - strike else strike - spot
  roundTo 2 (max 0 diff + max 5 (180 - |diff| * (12 / 100)))

/-- The leg of an option without a broker: its latest quote, of whatever source, or the pricing
model; bid and ask are set around it. -/
def fallbackLeg (spot : ℚ) (quote : Option MarketQuote) (instrument : OptionInstrument)
    (strike : ℚ) (right : OptionType) : OptionLeg :=
  let ltp := quote.elim (modelPremium spot strike right) MarketQuote.lastPrice
  { instrumentId := instrument.instrumentId
    symbol := instrument.stockCode
    ltp := ltp
    bid := roundTo 2 (max (5 / 100) (ltp - 25 / 100))
    ask := roundTo 2 (ltp + 25 / 100)
    volume := quote.elim 12500 MarketQuote.volume
    openInterest := quote.elim 45000 MarketQuote.openInterest
    lotSize := instrument.lotSize }

/-- The leg at a strike is the one of the last option listed for it. -/
def legAt (spot : ℚ) (latest : String → Option MarketQuote) (instruments : List OptionInstrument)
    (strike : ℚ) (right : OptionType) : Option OptionLeg :=
  (instruments.reverse.find? fun instrument =>
    decide (instrument.strike = some strike ∧ instrument.optionRight = some right)).map
      fun instrument => fallbackLeg spot (latest instrument.instrumentId) instrument strike right

/-- The strikes of the options, in order, with their legs. -/
def strikeMatrix (spot : ℚ) (latest : String → Option MarketQuote)
    (instruments : List OptionInstrument) : List StrikeRow :=
  let strikes := (instruments.filter fun instrument => instrument.optionRight.isSome).filterMap
    OptionInstrument.strike
  (strikes.dedup.insertionSort (· ≤ ·)).map fun strike =>
    { strike := strike
      call := legAt spot latest instruments strike .call
      put := legAt spot latest instruments strike .put }

/-! ### The service -/

/-- The state of everything the service asks. Without a `gateway` there is no broker. -/
structure ProviderState where
  gateway : Option (Option KiteState)
  today : Int
  localExpiries : Except Raised (List Int)
  latest : String → Option MarketQuote
  instruments : Int → Except Raised (List OptionInstrument)
  seeded : Except Raised Unit

/-- The chain that is built without a broker. -/
def fallbackChain (state : ProviderState) : Except Raised Chain :=
  match state.localExpiries with
  | .error error => .error error
  | .ok expiries =>
      match (expiries.filter fun expiry => decide (state.today ≤ expiry)).min? with
      | none => .ok (unavailable none "OPTION_CHAIN_UNAVAILABLE")
      | some expiry =>
          let spot := (state.latest "INST-NIFTY-INDEX").elim (232176 / 10) MarketQuote.lastPrice
          let build := fun instruments => Except.ok
            { source := "SIMULATED"
              strikes := strikeMatrix spot state.latest instruments
              expiry := some expiry
              capabilities := some ⟨false, false, "SIMULATED_OPTION_CHAIN_NOT_EXECUTABLE"⟩ }
          match state.instruments expiry with
          | .error error => .error error
          | .ok instruments =>
              if hasAtmCoverage instruments (atmStrike spot) then build instruments
              else
                match state.seeded with
                | .error error => .error error
                | .ok () => build (seedStrikesAroundSpot spot expiry)

/-- `get_chain` for NIFTY, without an expiry and without a provider: callers get Kite, or, where
no gateway is wired, the fallback. -/
def getChain (state : ProviderState) : Except Raised Chain :=
  match state.gateway with
  | some kite => .ok (kiteOnlyChain kite state.today)
  | none => fallbackChain state

/-- `_get_option_chain`: a chain with strikes that is not real is marked, and kept. -/
def getOptionChain (state : ProviderState) : Chain :=
  match getChain state with
  | .error _ => unavailable none "OPTION_CHAIN_UNAVAILABLE"
  | .ok chain =>
      if chain.source ∈ realSources then chain
      else if chain.strikes ≠ [] then
        { chain with
          source := "UNAVAILABLE"
          validationRejection := some "synthetic option prices are not executable" }
      else unavailable none "OPTION_CHAIN_UNAVAILABLE"

/-! ### What the chains are -/

theorem kiteOnlyChain_spec (kite : Option KiteState) (today : Int) :
    (kiteOnlyChain kite today).source = "KITE" ∨ (kiteOnlyChain kite today).strikes = [] := by
  unfold kiteOnlyChain
  split
  · exact Or.inr rfl
  · split
    · exact Or.inl rfl
    · split
      · exact Or.inr rfl
      · split
        · exact Or.inl rfl
        · rename_i kite _ _ expiry _ _
          unfold KiteState.liveChain
          split
          · split
            · split
              · exact Or.inl rfl
              · exact Or.inr rfl
            · exact Or.inr rfl
          · exact Or.inr rfl

theorem fallbackChain_source {state : ProviderState} {chain : Chain}
    (built : fallbackChain state = .ok chain) : chain.source ∉ realSources := by
  unfold fallbackChain at built
  split at built
  · cases built
  · split at built
    · cases built
      exact unavailable_not_real
    · dsimp only at built
      split at built
      · cases built
      · split at built
        · cases built
          exact simulated_not_real
        · split at built
          · cases built
          · cases built
            exact simulated_not_real

theorem getOptionChain_of_gateway {state : ProviderState} (wired : state.gateway.isSome = true) :
    (getOptionChain state).source ∈ realSources ∨ (getOptionChain state).strikes = [] := by
  obtain ⟨kite, gateway⟩ := Option.isSome_iff_exists.mp wired
  have chain : getChain state = .ok (kiteOnlyChain kite state.today) := by
    unfold getChain
    rw [gateway]
  unfold getOptionChain
  rw [chain]
  dsimp only
  rcases kiteOnlyChain_spec kite state.today with real | empty
  · rw [if_pos (by rw [real]; decide)]
    exact Or.inl (by rw [real]; decide)
  · split
    · rename_i real
      exact Or.inl real
    · rw [if_neg (by rw [empty]; simp)]
      exact Or.inr rfl

theorem getOptionChain_of_no_gateway {state : ProviderState} (unwired : state.gateway = none) :
    (getOptionChain state).source ∉ realSources := by
  have chain : getChain state = fallbackChain state := by
    unfold getChain
    rw [unwired]
  unfold getOptionChain
  rw [chain]
  split
  · exact unavailable_not_real
  · rename_i built
    rw [if_neg (fallbackChain_source built)]
    split <;> exact unavailable_not_real

end OptionChain

end BreezeTrading
