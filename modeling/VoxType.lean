import VoxType.Library.Run
import VoxType.Library.Text
import VoxType.Core.Error
import VoxType.Core.Session
import VoxType.Core.SessionTransitions
import VoxType.Core.SessionHistory
import VoxType.Core.SessionSafety
import VoxType.Core.Provider
import VoxType.Core.Routing
import VoxType.App.Provider
import VoxType.App.RouteSafety
import VoxType.Curl.Attempt
import VoxType.Curl.Rejected
import VoxType.App.Controller
import VoxType.App.ControllerCalls
import VoxType.App.TerminalOutcome
import VoxType.App.TerminalOnce
import VoxType.Library.Recent
import VoxType.App.ResultCache
import VoxType.App.EventLog
import VoxType.App.Accounting
import VoxType.Library.Breaker
import VoxType.App.CircuitBreaker
import VoxType.App.UsageConservation
import VoxType.Library.Newton
import VoxType.Library.Framing
import VoxType.Library.Leb128
import VoxType.Library.Lossy
import VoxType.Library.Decimal
import VoxType.Library.Utf8
import VoxType.Library.Percent
import VoxType.Library.ConfigFile
import VoxType.Library.Checks
import VoxType.Library.Files
import VoxType.Library.Authority
import VoxType.Audio.Level
import VoxType.Audio.LevelAgreement
import VoxType.Audio.CaptureLoop
import VoxType.Audio.Offline
import VoxType.Audio.VadSteps
import VoxType.Audio.VadEvents
import VoxType.Audio.Trim
import VoxType.Audio.Hysteresis
import VoxType.Audio.NoiseFloor
import VoxType.Daemon.Operations
import VoxType.Daemon.Commands
import VoxType.Daemon.StopOutcomes
import VoxType.Daemon.StartOutcomes
import VoxType.Daemon.PollOutcomes
import VoxType.Daemon.ControlOutcomes
import VoxType.Daemon.System
import VoxType.Daemon.Steps
import VoxType.Daemon.Workers
import VoxType.Daemon.Phase
import VoxType.Daemon.Waiting
import VoxType.Daemon.Accounting
import VoxType.Daemon.Validation
import VoxType.Library.Rank
import VoxType.Audio.Calibration
import VoxType.Audio.Roots
import VoxType.Audio.Separation
import VoxType.Daemon.Configured
import VoxType.Daemon.ConfiguredRuns
import VoxType.Daemon.History
import VoxType.Daemon.InsertionSafety
import VoxType.Daemon.Lease
import VoxType.Daemon.Backpressure
import VoxType.Daemon.WholeOperations
import VoxType.Daemon.Signals
import VoxType.Daemon.MainLoop
import VoxType.Fcitx.Wire
import VoxType.Fcitx.Context
import VoxType.Fcitx.Bridge
import VoxType.Fcitx.Dispatch
import VoxType.Fcitx.Client
import VoxType.Fcitx.CommitText
import VoxType.Fcitx.ContextClient
import VoxType.Fcitx.ContextReview
import VoxType.Doubao.Wire
import VoxType.Doubao.Grammar
import VoxType.Doubao.Envelope
import VoxType.Doubao.RoundTrip
import VoxType.Doubao.Recognition
import VoxType.Doubao.Session
import VoxType.Doubao.SessionSteps
import VoxType.Doubao.Outgoing
import VoxType.Doubao.Completion
import VoxType.Doubao.EvidenceOrder
import VoxType.Doubao.Runner
import VoxType.Doubao.PcmFrames
import VoxType.Doubao.Evidence
import VoxType.Doubao.FinalText
import VoxType.Curl.Endpoint
import VoxType.Library.Lines
import VoxType.Curl.UploadEvidence
import VoxType.Doubao.WebSocketSpec
import VoxType.Curl.PrivateConfig
import VoxType.Desktop.Clipboard
import VoxType.Desktop.Restoration
import VoxType.Doubao.Bootstrap
import VoxType.Doubao.PostConfig
import VoxType.Doubao.Managed
import VoxType.Doubao.Timing
import VoxType.Library.ByteText
import VoxType.Library.TextParts
import VoxType.Grammar.Candidates
import VoxType.Grammar.Report
import VoxType.Grammar.EffectiveCandidates
import VoxType.Grammar.Spans
import VoxType.Grammar.Tokens
import VoxType.Grammar.Repeats
import VoxType.Grammar.WellFormed
import VoxType.Grammar.SafeEdits
import VoxType.Grammar.ProtectedTokens
import VoxType.Library.FilePrograms
import VoxType.Library.Riff
import VoxType.Audio.Recording
import VoxType.Curl.Staging
import VoxType.Daemon.Custody
import VoxType.Daemon.Artefacts
import VoxType.Daemon.ArtefactSafety
import VoxType.Daemon.Controlled
import VoxType.Daemon.ControllerRuns
import VoxType.Daemon.OneResult
import VoxType.Library.Words
import VoxType.Client.StopWait
import VoxType.Client.Results
import VoxType.App.CommandProvider
import VoxType.Desktop.Insertion
