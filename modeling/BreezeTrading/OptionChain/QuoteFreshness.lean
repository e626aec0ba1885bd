/-
This file proves when the quotes of a chain are fresh enough for a delta-aware signal. A cycle
selects at the time of the signal, the close of a bar, and not at the time of the selection, so that
a quote passes the test of its age only if it was captured before the signal.
-/

import BreezeTrading.OptionChain.Provenance
import BreezeTrading.Strategy.CandidateRuntime

namespace BreezeTrading

namespace OptionChain

/-! ### The status of a row -/

inductive DeltaStatus where
  | notNearestEligibleExpiry
  | missingContractMetadata
  | invalidQuote
  | deltaUnavailableOrOutOfRange
  | missingQuoteTimestamp
  | invalidQuoteTimestamp
  | futureQuoteTimestamp
  | staleQuote
  | wideSpread
  | liquidity
  | eligible
  deriving DecidableEq, Repr

section Status

variable (config : OptionSelectionConfig) (now nearest : Int) (candidate : Candidate)

/-- The checks before the test of the age. -/
def Candidate.inBand : Bool :=
  candidate.listed nearest && candidate.quoted && candidate.leg.delta.any fun delta =>
    decide (config.allowedDeltaMin ≤ |delta| ∧ |delta| ≤ config.allowedDeltaMax)

/-- The status that the delta-aware selection gives an inspected row. -/
def Candidate.deltaStatus : DeltaStatus :=
  if candidate.expiry ≠ some nearest then .notNearestEligibleExpiry
  else if candidate.leg.instrumentId = "" ∨ candidate.leg.lotSize ≤ 0 then .missingContractMetadata
  else if candidate.quoted = false then .invalidQuote
  else if candidate.inBand config nearest = false then .deltaUnavailableOrOutOfRange
  else
    match candidate.quoteTimestamp with
    | .missing => .missingQuoteTimestamp
    | .malformed => .invalidQuoteTimestamp
    | .at captured =>
        if now < captured then .futureQuoteTimestamp
        else if config.maxQuoteAgeSeconds < ((now - captured : Int) : ℚ) / 1000000 then .staleQuote
        else if config.maxBidAskSpreadPct < candidate.spreadPct then .wideSpread
        else if candidate.leg.volume < config.minimumVolume ∨
            candidate.leg.openInterest < config.minOpenInterest then .liquidity
        else .eligible

/-- A status that rejects a row for the time of its quote. -/
def DeltaStatus.rejectsTime (status : DeltaStatus) : Bool :=
  decide (status = .futureQuoteTimestamp ∨ status = .staleQuote)

variable {config now nearest candidate}

theorem inBand_spec (inBand : candidate.inBand config nearest = true) :
    candidate.expiry = some nearest ∧
      ¬(candidate.leg.instrumentId = "" ∨ candidate.leg.lotSize ≤ 0) ∧ candidate.quoted = true := by
  unfold Candidate.inBand Candidate.listed at inBand
  simp only [Bool.and_eq_true, decide_eq_true_eq] at inBand
  obtain ⟨⟨⟨expiry, known, lots⟩, quoted⟩, -⟩ := inBand
  exact ⟨expiry, not_or.mpr ⟨known, not_le.mpr lots⟩, quoted⟩

/-- A row out of the band is not tested for its age. -/
theorem rejectsTime_of_not_inBand (outside : candidate.inBand config nearest = false) :
    (candidate.deltaStatus config now nearest).rejectsTime = false := by
  unfold Candidate.deltaStatus
  rw [if_pos outside]
  split_ifs <;> rfl

/-- A row is rejected for the time of its quote if that is later than the time of the selection, or
too long before it. -/
theorem rejectsTime_iff :
    (candidate.deltaStatus config now nearest).rejectsTime = true ↔
      candidate.inBand config nearest = true ∧ ∃ captured, candidate.quoteTimestamp = .at captured ∧
        (now < captured ∨ config.maxQuoteAgeSeconds < ((now - captured : Int) : ℚ) / 1000000) := by
  cases inBand : candidate.inBand config nearest with
  | false =>
    rw [rejectsTime_of_not_inBand inBand]
    exact iff_of_false (by decide) (by simp)
  | true =>
    obtain ⟨expiry, known, quoted⟩ := inBand_spec inBand
    unfold Candidate.deltaStatus
    rw [if_neg (not_not.mpr expiry), if_neg known, if_neg (by rw [quoted]; decide),
      if_neg (by rw [inBand]; decide), and_iff_right rfl]
    cases candidate.quoteTimestamp with
    | missing | malformed => exact iff_of_false (by simp [DeltaStatus.rejectsTime]) (by simp)
    | «at» captured =>
      simp only [RawTimestamp.at.injEq, exists_eq_left']
      split_ifs with future old
      · exact iff_of_true (by decide) (.inl future)
      · exact iff_of_true (by decide) (.inr old)
      all_goals exact iff_of_false (by decide) (not_or.mpr ⟨future, old⟩)

end Status

/-! ### The selection of a cycle -/

/-- A delta-aware signal with the chain that a cycle fetched for it. -/
structure CycleSelection where
  strategy : StrategyName
  direction : TradeDirection
  underlying : ℚ
  timestamp : AwareTime
  day : Int
  config : OptionSelectionConfig
  chain : Chain
  deltaAware : usesDeltaAwareSelector strategy = true

namespace CycleSelection

variable (call : CycleSelection)

/-- The rows that the call of the selector inspects, with the expiry it takes. -/
def inspected : List (Candidate × Int) :=
  let optionType := optionTypeFor call.direction
  if call.underlying ≤ 0 ∨
      call.chain.capabilities.any (fun known => !known.verifiedDeltaAvailable) = true then []
  else
    (nearestExpiry call.config call.chain optionType call.day).elim [] fun nearest =>
      (candidatesOf call.chain optionType).map fun candidate => (candidate, nearest)

/-- The statuses of the rows: the time of the selection is that of the signal. -/
def statuses : List DeltaStatus :=
  call.inspected.map fun row => row.1.deltaStatus call.config call.timestamp.instant row.2

/-- Every quote was captured at a time, or at most the greatest age before it. -/
def FreshAt (now : Int) : Prop :=
  ∀ candidate ∈ candidatesOf call.chain (optionTypeFor call.direction), ∀ captured,
    candidate.quoteTimestamp = .at captured →
      captured ≤ now ∧ ((now - captured : Int) : ℚ) / 1000000 ≤ call.config.maxQuoteAgeSeconds

/-- A row whose delta is in the band was captured by the time of the signal, and not too long before
it where the signal is ahead of the clock. -/
def CapturedBefore (now : Int) : Prop :=
  ∀ row ∈ call.inspected, row.1.inBand call.config row.2 = true → ∀ captured,
    row.1.quoteTimestamp = .at captured → captured ≤ call.timestamp.instant ∧
      (now < call.timestamp.instant →
        ((call.timestamp.instant - captured : Int) : ℚ) / 1000000 ≤ call.config.maxQuoteAgeSeconds)

variable {call} {row : Candidate × Int}

theorem mem_inspected (member : row ∈ call.inspected) :
    row.1 ∈ candidatesOf call.chain (optionTypeFor call.direction) := by
  unfold inspected at member
  dsimp only at member
  split_ifs at member
  · cases member
  · cases known : nearestExpiry call.config call.chain (optionTypeFor call.direction) call.day with
    | none =>
      rw [known] at member
      cases member
    | some nearest =>
      rw [known] at member
      obtain ⟨candidate, inChain, rfl⟩ := List.mem_map.mp member
      exact inChain

/-- With a signal that is accepted and quotes that are fresh, a cycle rejects no contract for the
time of its quote exactly where the quotes were captured before the signal. -/
theorem fresh_quotes_usable_iff (call : CycleSelection) (now : Int) :
    (isFresh call.timestamp now = true → call.FreshAt now →
        ∀ status ∈ call.statuses, status.rejectsTime = false) ↔
      (isFresh call.timestamp now = true → call.FreshAt now → call.CapturedBefore now) := by
  refine imp_congr_right fun _ => imp_congr_right fun fresh => ?_
  constructor
  · intro usable row member inBand captured isCaptured
    have passes := usable _ (List.mem_map_of_mem member)
    have inTime := mt rejectsTime_iff.mpr (Bool.eq_false_iff.mp passes)
    by_contra outside
    refine inTime ⟨inBand, captured, isCaptured, ?_⟩
    rcases not_and_or.mp outside with later | old
    · exact .inl (not_le.mp later)
    · exact .inr (not_le.mp (Classical.not_imp.mp old).2)
  · intro before status isStatus
    obtain ⟨row, member, rfl⟩ := List.mem_map.mp isStatus
    refine Bool.eq_false_iff.mpr fun rejects => ?_
    obtain ⟨inBand, captured, isCaptured, fails⟩ := rejectsTime_iff.mp rejects
    obtain ⟨byThen, ahead⟩ := before row member inBand captured isCaptured
    rcases fails with future | old
    · exact absurd future (not_lt.mpr byThen)
    rcases lt_or_ge now call.timestamp.instant with isAhead | behind
    · exact absurd old (not_lt.mpr (ahead isAhead))
    · have young := (fresh row.1 (mem_inspected member) captured isCaptured).2
      have least : ((call.timestamp.instant - captured : Int) : ℚ) ≤ ((now - captured : Int) : ℚ) :=
        Int.cast_le.mpr (sub_le_sub_right behind captured)
      exact absurd old (not_lt.mpr ((div_le_div_of_nonneg_right least (by norm_num)).trans young))

/-- A call of Strategy C a second before its chain is captured. -/
def barCloseCall : CycleSelection where
  strategy := .diContinuation
  direction := .bullish
  underlying := 25000
  timestamp := ⟨0, "1970-01-01T00:00:00+00:00"⟩
  day := 0
  config := {}
  chain :=
    { source := "BREEZE"
      strikes := [⟨25000, some ⟨"INST-NIFTY-25000-CE", "NIFTY25000CE", 100, 99, 100, 10000, 50000, 65,
        some 7, some (6 / 10), .at 1000000⟩, none, none⟩] }
  deltaAware := by decide

/-- Two seconds after the bar the quote is a second old, and it is rejected as one of the future. -/
theorem fresh_quote_rejected :
    isFresh barCloseCall.timestamp 2000000 = true ∧
      barCloseCall.statuses = [.futureQuoteTimestamp] ∧
      ¬∀ (call : CycleSelection) (now : Int), isFresh call.timestamp now = true →
        call.FreshAt now → ∀ status ∈ call.statuses, status.rejectsTime = false := by
  have rejected : barCloseCall.statuses = [.futureQuoteTimestamp] := by decide +kernel
  refine ⟨by decide, rejected, fun always => ?_⟩
  have fresh : barCloseCall.FreshAt 2000000 := by
    intro candidate member captured isCaptured
    obtain rfl := List.mem_singleton.mp member
    obtain rfl := RawTimestamp.at.inj isCaptured
    exact ⟨by decide, by decide +kernel⟩
  have passes := always barCloseCall 2000000 (by decide) fresh .futureQuoteTimestamp
    (rejected ▸ List.mem_singleton_self _)
  exact absurd passes (by decide)

end CycleSelection

end OptionChain

end BreezeTrading
