import EquityGuard.ActivationProof
import EquityGuard.AttestationLinks
import EquityGuard.CostBound
import EquityGuard.Executor
import EquityGuard.ExtractWindow
import EquityGuard.OndoAdapter
import EquityGuard.PublicDeployment
import EquityGuard.Replay
import EquityGuard.ResearchSuffix
import EquityGuard.Reverification
import EquityGuard.Sha256
import EquityGuard.SwapVerify
import EquityGuard.TimelineChanges
import EquityGuard.TimelineQuality
import EquityGuard.TradeBinding
import EquityGuard.WalletSigning
import EquityGuard.MarketReplay
import EquityGuard.ReplayAccounts
import EquityGuard.CaptureIsolation
import EquityGuard.CaptureRuns
import EquityGuard.Correlation
import EquityGuard.GuardCases
import EquityGuard.Histories
import EquityGuard.LiveDemo
import EquityGuard.ResearchGrammar
