/-
This file defines how the frozen candidates of the strategies C and D enter the common
execution contract: the rows their monitors expose, the checks on their freshness and
prices, and the signal a row is translated to. The monitors remain the source of what
they expose.
-/

import BreezeTrading.Strategy.Operations

namespace BreezeTrading

/-! ### Values of a status -/

/-- An aware point in time, with its `isoformat()`, which depends on its offset. -/
structure AwareTime where
  instant : Int
  text : String
  deriving DecidableEq, Repr

/-- A number under a key of a dictionary. -/
inductive NumberField where
  | missing
  | number (value : ℚ)
  | malformed
  deriving DecidableEq

/-- `float(row[key])`, where an exception gives up. -/
def NumberField.required : NumberField → Option ℚ
  | .number value => some value
  | _ => none

/-- `float(row.get(key) or other)`. -/
def NumberField.orElse (other : ℚ) : NumberField → Option ℚ
  | .missing => some other
  | .number value => some (orNumber value other)
  | .malformed => none

structure TimedSignal extends EntrySignal where
  timestamp : AwareTime
  deriving DecidableEq

/-! ### Freshness -/

/-- A signal is executed within five minutes, and clocks may differ by five seconds. -/
def isFresh (timestamp : AwareTime) (asOf : Int) : Bool :=
  decide (-5000000 ≤ asOf - timestamp.instant ∧ asOf - timestamp.instant ≤ 300000000)

/-- The direction an option type stands for. -/
def OptionType.direction : OptionType → TradeDirection
  | .call => .bullish
  | .put => .bearish

/-! ### Strategy C -/

/-- The candidate trade of the status of Strategy C. The time is the one that could be parsed. -/
structure CandidateRow where
  lifecycleStatus : Option String
  candidateSignalId : Option String
  entryTime : Option AwareTime
  direction : Option String
  entryPrice : NumberField
  initialStop : NumberField

/-- Translate a fresh and open frozen Strategy C candidate into an execution signal. -/
def strategyCSignalFromStatus (activeCandidateTrade : Option CandidateRow) (asOf : Int) :
    Option TimedSignal := do
  let row ← activeCandidateTrade
  guard (row.lifecycleStatus = some "OPEN")
  let signalId ← orText row.candidateSignalId none
  let timestamp ← row.entryTime
  let optionType ← [OptionType.call, .put].find? fun optionType =>
    decide (optionType.value = upper (row.direction.getD ""))
  guard (isFresh timestamp asOf)
  let entry ← row.entryPrice.required
  let stop ← row.initialStop.required
  let risk := |entry - stop|
  guard (0 < entry ∧ 0 < stop ∧ 0 < risk)
  return {
    signalId
    strategy := .diContinuation
    direction := optionType.direction
    optionType
    underlyingEntry := entry
    rPoints := risk
    timestamp }

/-! ### Strategy D -/

/-- A signal payload of Strategy D. The time, the direction and the option type are those that
could be parsed. -/
structure SignalPayload where
  timestamp : Option AwareTime
  direction : Option TradeDirection
  optionType : Option OptionType
  entryPrice : NumberField
  initialStop : NumberField
  riskPoints : NumberField

/-- A tracked trade of Strategy D. -/
structure TrackedTrade where
  signal : Option SignalPayload
  signalId : Option String

structure StrategyDStatus where
  executionSignal : Option SignalPayload
  executionSignalId : Option String
  activeExecutionTrade : Option TrackedTrade
  activePaperTrade : Option TrackedTrade

/-- The payload of a status, with its id: the execution signal, or that of the tracked trade. -/
def StrategyDStatus.payload (status : StrategyDStatus) : Option (SignalPayload × Option String) :=
  match status.executionSignal with
  | some payload => some (payload, status.executionSignalId)
  | none => do
    let tracked ← status.activeExecutionTrade <|> status.activePaperTrade
    let payload ← tracked.signal
    return (payload, tracked.signalId)

/-- Translate a fresh frozen Strategy D signal into the common execution contract. -/
def strategyDSignalFromStatus (status : StrategyDStatus) (asOf : Int) : Option TimedSignal := do
  let (payload, signalId) ← status.payload
  let timestamp ← payload.timestamp
  let signalId ← orText signalId none
  guard (isFresh timestamp asOf)
  let direction ← payload.direction
  let optionType ← payload.optionType
  let entry ← payload.entryPrice.required
  let stop ← payload.initialStop.required
  let risk ← payload.riskPoints.orElse |entry - stop|
  guard (0 < entry ∧ 0 < stop ∧ 0 < risk)
  guard (direction = optionType.direction)
  return {
    signalId
    strategy := .srMomentumBreakout
    direction
    optionType
    underlyingEntry := entry
    rPoints := risk
    timestamp }

/-! ### What a translation says -/

theorem ne_empty_of_orText {text : Option String} {found : String}
    (present : orText text none = some found) : found ≠ "" := by
  unfold orText at present
  split at present
  · split at present
    · cases present
    · cases present
      assumption
  · cases present

theorem strategyC_of_status {row : Option CandidateRow} {asOf : Int} {signal : TimedSignal}
    (translated : strategyCSignalFromStatus row asOf = some signal) :
    signal.strategy = .diContinuation ∧ signal.signalId ≠ "" ∧
      isFresh signal.timestamp asOf = true := by
  unfold strategyCSignalFromStatus at translated
  simp only [bind, Option.bind_eq_some_iff, Option.guard_eq_some', pure, Option.some.injEq]
    at translated
  obtain ⟨row, _, _, _, signalId, present, timestamp, _, optionType, _, _, fresh, entry, _, stop, _,
    _, _, rfl⟩ := translated
  exact ⟨rfl, ne_empty_of_orText present, fresh⟩

theorem strategyD_of_status {status : StrategyDStatus} {asOf : Int} {signal : TimedSignal}
    (translated : strategyDSignalFromStatus status asOf = some signal) :
    signal.strategy = .srMomentumBreakout ∧ signal.signalId ≠ "" ∧
      isFresh signal.timestamp asOf = true := by
  unfold strategyDSignalFromStatus at translated
  simp only [bind, Option.bind_eq_some_iff, Option.guard_eq_some', pure, Option.some.injEq]
    at translated
  obtain ⟨⟨payload, signalId⟩, _, timestamp, _, signalId, present, _, fresh, direction, _,
    optionType, _, entry, _, stop, _, risk, _, _, _, _, _, rfl⟩ := translated
  exact ⟨rfl, ne_empty_of_orText present, fresh⟩

end BreezeTrading
