import BreezeTrading.Execution.FillValue
import BreezeTrading.ApiGateway.CommandOnce
import BreezeTrading.Execution.Verdicts
import BreezeTrading.Execution.Listing
import BreezeTrading.Risk.LiveGate
import BreezeTrading.BrokerGateway.GuardedOnce
import BreezeTrading.BrokerGateway.Definitive
import BreezeTrading.Risk.Oversold
import BreezeTrading.Risk.PositionCap
import BreezeTrading.Platform.Outbox
import BreezeTrading.Platform.Records
import BreezeTrading.Strategy.LossCooldown
import BreezeTrading.Strategy.ArmingAuthority
import BreezeTrading.Strategy.KillSwitchHolds
import BreezeTrading.Strategy.EntryLimits
import BreezeTrading.Strategy.ModeStability
import BreezeTrading.Strategy.SingleClose
import BreezeTrading.Strategy.EntryDispatch
import BreezeTrading.Auth.SingleUse
import BreezeTrading.BrokerSession.Status
import BreezeTrading.Strategy.FaultIsolation
import BreezeTrading.PaperMonitor.Blocking
import BreezeTrading.Strategy.BrokerTruth
import BreezeTrading.Strategy.SignalDedupe
import BreezeTrading.Strategy.PullbackExclusivity
import BreezeTrading.Strategy.PartialExit
import BreezeTrading.Strategy.LifecycleRungs
import BreezeTrading.Strategy.ExitAccounting
import BreezeTrading.Strategy.SellPrices
import BreezeTrading.Strategy.ReplayEntryOrder
import BreezeTrading.Strategy.ReplayStopTransition
import BreezeTrading.Strategy.RiskSizing
import BreezeTrading.Portfolio.MarkToMarket
import BreezeTrading.Portfolio.ConcurrentFills
import BreezeTrading.Strategy.Mirror
import BreezeTrading.Strategy.ConservativeFallback
import BreezeTrading.Strategy.BoxDiscipline
import BreezeTrading.Strategy.ScalpMirror
import BreezeTrading.Strategy.RestartTransparency
import BreezeTrading.Strategy.NoLookAhead
import BreezeTrading.Strategy.ContractMixing
import BreezeTrading.MarketData.TickAccounting
import BreezeTrading.MarketData.QuoteCache
import BreezeTrading.Strategy.RsiLaws
import BreezeTrading.BrokerGateway.PaperBookkeeping
import BreezeTrading.ApiGateway.OrderCancel
import BreezeTrading.Strategy.MissingUnderlying
import BreezeTrading.OptionChain.QuoteFreshness
import BreezeTrading.Strategy.DiContinuation
import BreezeTrading.Strategy.PriceEvidence
import BreezeTrading.Strategy.PaperFills
import BreezeTrading.OptionChain.ReplaySelection
import BreezeTrading.Strategy.HistoricalMark
import BreezeTrading.Strategy.NoRepaint
import BreezeTrading.Strategy.SessionCandles
import BreezeTrading.Strategy.HeadlineRisk
