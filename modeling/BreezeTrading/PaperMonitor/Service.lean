/-
This file models the Strategy D paper monitor: an observation manages the tracked rows,
looks for signals on the completed bars, captures the fresh one, and stores the runtime.
An error raised on the way ends the observation; what was set in memory until then stays
set. A restart loses the memory, and the next observation reads the stored runtime.
-/

import BreezeTrading.PaperMonitor.Models
import BreezeTrading.Strategy.Service

namespace BreezeTrading

namespace PaperMonitor

/-! ### The partial exit and the close -/

/-- Two minutes: how long after an event a quote still stands for it. -/
def maxPaperEventQuoteLatency : Int := 120000000

/-- Five minutes: how long after a signal its entry is still captured. -/
def maxPaperEntryLatency : Int := 300000000

/-- The quote is valid and was taken at the time of an event. -/
def timely (quote : PaperQuote) (event : Int) : Bool :=
  quote.valid && quote.quoteTimestamp.any fun quoteTime =>
    decide (-5000000 ≤ quoteTime - event ∧ quoteTime - event ≤ maxPaperEventQuoteLatency)

/-- No quote of an event can be timely any more. -/
def tooLate (observedAt event : Int) : Bool :=
  decide (maxPaperEventQuoteLatency < observedAt - event)

/-- The price a paper position is sold at. -/
def sellFill (config : MonitorConfig) (quote : PaperQuote) : ℚ :=
  roundTo 6 (max 0 (quote.bid - config.costs.slippagePoints))

/-- The row whose partial exit is filled. -/
def fillPartial (row : PaperRow) (fill : ℚ) (observedAt : Int) : PaperRow :=
  let quantity := scaleOutLots row.lots * (row.contract.elim 0 PaperContract.lotSize)
  { row with
    partialStatus := .filled
    partialQuantity := quantity
    partialFill := some fill
    partialTime := some observedAt
    realizedGross := roundTo 2 ((fill - row.entryExecutablePrice.getD 0) * quantity)
    remainingQuantity := max 0 (row.initialQuantity - quantity)
    sellLegs := row.sellLegs ++ [(fill, quantity)] }

/-- `_apply_partial_if_due`. The ledger row of a partial exit is written last, which may fail. -/
def applyPartialIfDue (config : MonitorConfig) (row : PaperRow) (lifecycle : Lifecycle)
    (quote : PaperQuote) (observedAt : Int) (ledger : Except Raised Unit) :
    PaperRow × Except Raised Unit :=
  match lifecycle.scaleOutTime with
  | none => (row, .ok ())
  | some scaleTime =>
      if row.partialStatus ≠ .notReached ∧ row.partialStatus ≠ .t1QuotePending then (row, .ok ())
      else if scaleOutLots row.lots < 1 then
        ({ row with partialStatus := .oneLotNoPartial }, .ok ())
      else if !timely quote scaleTime then
        ({ row with
          partialStatus :=
            if tooLate observedAt scaleTime then .incompleteT1Quote else .t1QuotePending }, .ok ())
      else if sellFill config quote ≤ 0 then
        ({ row with partialStatus := .incompleteT1Quote }, .ok ())
      else (fillPartial row (sellFill config quote) observedAt, ledger)

/-- The row whose paper position is closed at a price. -/
def closePosition (config : MonitorConfig) (row : PaperRow) (lifecycle : Lifecycle) (fill : ℚ)
    (observedAt : Int) : PaperRow :=
  let entryFill := row.entryExecutablePrice.getD 0
  let totalGross := roundTo 2 (row.realizedGross +
    roundTo 2 ((fill - entryFill) * row.remainingQuantity))
  let sellLegs := row.sellLegs ++ [(fill, row.remainingQuantity)]
  let costs := paperCosts config.costs entryFill row.initialQuantity sellLegs
  { row with
    sellLegs := sellLegs
    status := .closed
    settlement := some
      { paperExitTime := observedAt
        exitUnderlyingTime := lifecycle.exitTime
        exitFill := fill
        grossPnl := totalGross
        transactionCosts := costs
        netPnl := roundTo 2 (totalGross - costs)
        underlyingRealizedR := lifecycle.realizedR
        underlyingExitReason := lifecycle.runnerExitReason }
    remainingQuantity := 0
    rejectionReason := none }

/-- `_close_if_resolved`. The ledger row and the log of a close are written last, which may
fail. -/
def closeIfResolved (config : MonitorConfig) (row : PaperRow) (lifecycle : Lifecycle)
    (quote : PaperQuote) (observedAt : Int) (written : Except Raised Unit) :
    PaperRow × Except Raised Unit :=
  if !lifecycle.resolved ∨ row.status = .closed then (row, .ok ())
  else if row.partialStatus = .incompleteT1Quote ∧ 2 ≤ row.lots then
    ({ row with
      status := .incompleteT1Quote
      rejectionReason := some "T1_PARTIAL_FILL_UNAVAILABLE" }, .ok ())
  else if !timely quote lifecycle.exitTime then
    if tooLate observedAt lifecycle.exitTime then
      ({ row with
        status := .incompleteExitQuote
        rejectionReason := some "NO_TIMELY_EXECUTABLE_EXIT_QUOTE" }, .ok ())
    else ({ row with status := .exitQuotePending }, .ok ())
  else if row.remainingQuantity ≤ 0 then ({ row with status := .closed }, .ok ())
  else if sellFill config quote ≤ 0 then
    ({ row with
      status := .incompleteExitQuote
      rejectionReason := some "NON_POSITIVE_EXIT_FILL" }, .ok ())
  else (closePosition config row lifecycle (sellFill config quote) observedAt, written)

/-! ### The management of a row -/

/-- What the environment answers while a row is managed: what the candles after the signal come
to (`none` when there are none), the quotes of its contract, and the writes. -/
structure RowView where
  lifecycle : Option (Except Raised Lifecycle)
  latestQuote : Except Raised (Option LiveQuote)
  chain : Except Raised PaperChain
  partialWritten : Except Raised Unit
  closeWritten : Except Raised Unit

/-- The completed candles of an observation, as far as the monitor reads them, with what it is
answered for each row and each signal by its id. -/
structure MarketData where
  latestClose : ℚ
  ema9 : ℚ
  rows : String → RowView
  discovered : List PaperSignal

/-- The quote a row is managed with. -/
def RowView.quote (view : RowView) (row : PaperRow) (now : Int) : Except Raised PaperQuote :=
  quoteForContract view.latestQuote view.chain row.contract now

/-- The underlying lifecycle is followed on the row. -/
def followLifecycle (row : PaperRow) (lifecycle : Lifecycle) : PaperRow :=
  { row with
    currentUnderlyingStop := lifecycle.finalStop
    scaleOutTime := lifecycle.scaleOutTime
    scaleOutPrice := lifecycle.scaleOutPrice
    lifecycleState :=
      if lifecycle.scaleOutTime.isSome then .protectedBreakeven else .openInitialRisk
    underlyingExitReason :=
      if lifecycle.resolved then some lifecycle.runnerExitReason else none
    underlyingExitTime := if lifecycle.resolved then some lifecycle.exitTime else none
    underlyingExitPrice := if lifecycle.resolved then some lifecycle.runnerExitPrice else none
    underlyingRealizedR := if lifecycle.resolved then some lifecycle.realizedR else none }

/-- The last quote is kept on the row, and the open profit with a valid one. -/
def quoted (row : PaperRow) (quote : PaperQuote) : PaperRow :=
  { row with
    lastQuote := some quote
    unrealizedPnl :=
      if quote.valid then
        some (roundTo 2 ((orNumber quote.ltp quote.bid - row.entryExecutablePrice.getD 0) *
          row.remainingQuantity))
      else row.unrealizedPnl }

/-- The values of the latest bar on the row. -/
def marked (row : PaperRow) (data : MarketData) : PaperRow :=
  let favorable :=
    if row.signal.direction = .bullish then data.latestClose - row.signal.entryPrice
    else row.signal.entryPrice - data.latestClose
  { row with
    currentR := roundTo 6 (favorable / row.signal.riskPoints)
    ema9 := some (roundTo 6 data.ema9) }

/-- The quote of the row is read, and its lifecycle, if there is one, settles the paper
position. -/
def settle (config : MonitorConfig) (row : PaperRow) (lifecycle : Option Lifecycle)
    (view : RowView) (now : Int) : PaperRow × Except Raised Unit :=
  match view.quote row now with
  | .error error => (row, .error error)
  | .ok quote =>
      match lifecycle with
      | none => (quoted row quote, .ok ())
      | some lifecycle =>
          match applyPartialIfDue config (quoted row quote) lifecycle quote now
              view.partialWritten with
          | (row, .error error) => (row, .error error)
          | (row, .ok ()) => closeIfResolved config row lifecycle quote now view.closeWritten

def manageOpenTrade (config : MonitorConfig) (data : MarketData) (now : Int) (row : PaperRow) :
    PaperRow × Except Raised Unit :=
  let view := data.rows row.signal.signalId
  if row.signal.riskPoints = 0 then (row, .error ⟨"float division by zero"⟩)
  else
    match view.lifecycle with
    | some (.error error) => (marked row data, .error error)
    | some (.ok lifecycle) =>
        settle config (followLifecycle (marked row data) lifecycle) (some lifecycle) view now
    | none =>
        settle config
          { marked row data with
            currentUnderlyingStop := row.signal.initialStop
            lifecycleState := .openInitialRisk } none view now

/-- The rows whose lifecycle is open are managed one after another; returns whether one of them
changed. -/
def manageAll (config : MonitorConfig) (data : MarketData) (now : Int) :
    List PaperRow → List PaperRow × Except Raised Bool
  | [] => ([], .ok false)
  | row :: rest =>
      if row.resolved then
        let (managed, changed) := manageAll config data now rest
        (row :: managed, changed)
      else
        match manageOpenTrade config data now row with
        | (after, .error error) => (after :: rest, .error error)
        | (after, .ok ()) =>
            let (managed, changed) := manageAll config data now rest
            (after :: managed, changed.map fun changed => changed || decide (after ≠ row))

/-! ### The capture of an entry -/

/-- What the environment answers while an entry is captured: the contract selected, the reason of
the selector, and the writes of the log and of the ledger. -/
structure CaptureView where
  contract : Option PaperContract
  reason : Option String
  logged : Except Raised Unit
  written : Except Raised Unit

/-- The price, the size, the status and the rejection a selected contract is captured with. -/
def captureContract (config : MonitorConfig) (latency : Int) (view : CaptureView) :
    Option ℚ × (Int × Int) × PaperStatus × Option String :=
  match view.contract with
  | none => (none, (0, 0), .skipped, orText view.reason (some "CONTRACT_SELECTION_REJECTED"))
  | some contract =>
      let entryFill := roundTo 6 (contract.askPrice + config.costs.slippagePoints)
      let sized := calculatePositionSize config.sizing entryFill contract.lotSize
      if maxPaperEntryLatency < latency then
        (some entryFill, sized, .skipped, some "STALE_SIGNAL_FOR_PAPER_ENTRY")
      else if sized.1 < 1 ∨ sized.2 < 1 then
        (some entryFill, sized, .skipped, some "INSUFFICIENT_CAPITAL_OR_RISK_BUDGET")
      else (some entryFill, sized, .opened, none)

def captureEntry (config : MonitorConfig) (signal : PaperSignal) (observedAt : Int)
    (view : CaptureView) : Except Raised PaperRow :=
  let latency := ageAt observedAt signal.timestamp
  let (entryFill, (lots, quantity), status, rejection) := captureContract config latency view
  let row : PaperRow :=
    { signal := signal
      entryObservedAt := observedAt
      signalToObservation := latency
      contract := view.contract
      selectorRejectionReason := view.reason
      entryRawAsk := view.contract.map PaperContract.askPrice
      entryExecutablePrice := entryFill
      lots := lots
      quantity := quantity
      initialQuantity := quantity
      remainingQuantity := quantity
      enteredAs := status
      status := status
      rejectionReason := rejection
      currentUnderlyingStop := signal.initialStop }
  match view.logged with
  | .error error => .error error
  | .ok () => if status = .opened then view.written.map fun _ => row else .ok row

/-! ### The search for signals -/

/-- A level of a day, on which only one signal is captured. -/
structure LevelKey where
  day : Int
  optionType : String
  levelName : String
  deriving DecidableEq, Repr

/-- What an observation knows while it goes through the signals. -/
structure Search where
  tracked : List PaperRow
  seen : List String
  usedLevels : List LevelKey
  openTracks : List PaperRow
  changed : Bool
  executionSignal : Option String := none
  suppressed : List String := []

/-- `tracked[signal_id] = row`: a row takes the place of the one of its signal. -/
def putRow (rows : List PaperRow) (row : PaperRow) : List PaperRow :=
  if rows.any fun stored => decide (stored.signal.signalId = row.signal.signalId) then
    rows.map fun stored =>
      if stored.signal.signalId = row.signal.signalId then row else stored
  else rows ++ [row]

/-- The signal is marked as seen. -/
def Search.see (search : Search) (signal : PaperSignal) : Search :=
  { search with seen := search.seen.insert signal.signalId, changed := true }

/-- One discovered signal. -/
def considerSignal (config : MonitorConfig) (captures : String → CaptureView) (now : Int)
    (search : Search) (signal : PaperSignal) : Search × Except Raised Unit :=
  let levelKey : LevelKey := ⟨istDay now, signal.optionType, signal.breakoutLevelName⟩
  if signal.signalId ∈ search.seen then (search, .ok ())
  else if search.openTracks ≠ [] then
    ({ search.see signal with suppressed := search.suppressed ++ [signal.signalId] }, .ok ())
  else if levelKey ∈ search.usedLevels then (search.see signal, .ok ())
  else if maxPaperEntryLatency < ageAt now signal.timestamp then (search.see signal, .ok ())
  else
    let fresh := { search with executionSignal := some signal.signalId }
    match captureEntry config signal now (captures signal.signalId) with
    | .error error => (fresh, .error error)
    | .ok row =>
        ({ fresh.see signal with
          tracked := putRow fresh.tracked row
          usedLevels := fresh.usedLevels.insert levelKey
          openTracks := if row.status = .opened then [row] else fresh.openTracks }, .ok ())

/-- The discovered signals, one after another. -/
def considerAll (config : MonitorConfig) (captures : String → CaptureView) (now : Int) :
    List PaperSignal → Search → Search × Except Raised Unit
  | [], search => (search, .ok ())
  | signal :: rest, search =>
      match considerSignal config captures now search signal with
      | (search, .error error) => (search, .error error)
      | (search, .ok ()) => considerAll config captures now rest search

/-! ### The observation -/

/-- The runtime of the monitor. -/
structure Runtime where
  tracked : List PaperRow := []
  seen : List String := []
  usedLevels : List LevelKey := []
  closedIds : List String := []

/-- The monitor, and the runtime stored for it. -/
structure Monitor where
  runtime : Runtime
  initialized : Bool
  stored : Option Runtime

/-- The monitor of a process that has just started, over an empty store. -/
def Monitor.fresh : Monitor := ⟨{}, false, none⟩

/-- What the environment answers in one observation. `market` is `none` when the candles are not
there, or the day is before the freeze. -/
structure Observation where
  now : Int
  restored : Except Raised Unit
  market : Option MarketData
  captures : String → CaptureView
  saved : Except Raised Unit

/-- What an observation reports: whether it raised, the fresh signal it exposes, and the signals
it suppressed as overlapping. -/
structure Report where
  outcome : Except Raised Unit
  executionSignal : Option String := none
  suppressed : List String := []

/-- `StrategyDPaperMonitor.initialize`: the stored runtime is read once in the life of a process. -/
def restoreRuntime (monitor : Monitor) (restored : Except Raised Unit) : Monitor :=
  if monitor.initialized then monitor
  else
    match restored with
    | .ok () => { monitor with initialized := true, runtime := monitor.stored.getD {} }
    | .error _ => { monitor with initialized := true }

/-- The end of an observation: what changed is stored. -/
def conclude (monitor : Monitor) (search : Search) (saved : Except Raised Unit) :
    Monitor × Report :=
  if !search.changed then
    ({ monitor with runtime := { monitor.runtime with tracked := search.tracked } },
      ⟨.ok (), search.executionSignal, search.suppressed⟩)
  else
    let closed := (search.tracked.filter fun row => decide (row.status = .closed)).map
      fun row => row.signal.signalId
    let runtime : Runtime :=
      { tracked := search.tracked
        seen := search.seen
        usedLevels := search.usedLevels
        closedIds := monitor.runtime.closedIds ∪ closed }
    match saved with
    | .ok () =>
        ({ monitor with runtime := runtime, stored := some runtime },
          ⟨.ok (), search.executionSignal, search.suppressed⟩)
    | .error error =>
        ({ monitor with runtime := runtime },
          ⟨.error error, search.executionSignal, search.suppressed⟩)

/-- The signals are looked for among the managed rows. -/
def searchFor (config : MonitorConfig) (monitor : Monitor) (data : MarketData)
    (view : Observation) (rows : List PaperRow) (changed : Bool) : Monitor × Report :=
  let search : Search :=
    { tracked := rows
      seen := monitor.runtime.seen
      usedLevels := monitor.runtime.usedLevels
      openTracks := rows.filter PaperRow.blocks
      changed := changed }
  match considerAll config view.captures view.now data.discovered search with
  | (search, .error error) =>
      ({ monitor with runtime := { monitor.runtime with tracked := search.tracked } },
        ⟨.error error, none, search.suppressed⟩)
  | (search, .ok ()) => conclude monitor search view.saved

def observe (config : MonitorConfig) (monitor : Monitor) (view : Observation) :
    Monitor × Report :=
  let monitor := restoreRuntime monitor view.restored
  match view.market with
  | none => (monitor, ⟨.ok (), none, []⟩)
  | some data =>
      match manageAll config data view.now monitor.runtime.tracked with
      | (rows, .error error) =>
          ({ monitor with runtime := { monitor.runtime with tracked := rows } },
            ⟨.error error, none, []⟩)
      | (rows, .ok changed) => searchFor config monitor data view rows changed

/-- What happens to the monitor: an observation, or a restart of the process. -/
inductive MonitorOp where
  | observe (view : Observation)
  | restart

def step (config : MonitorConfig) (monitor : Monitor) : MonitorOp → Monitor
  | .observe view => (observe config monitor view).1
  | .restart => { monitor with runtime := {}, initialized := false }

end PaperMonitor

end BreezeTrading
