import ClaudeProxy.Library.Generator
import ClaudeProxy.Library.LineReader
import ClaudeProxy.Library.Text
import ClaudeProxy.Json
import ClaudeProxy.Error
import ClaudeProxy.Domain
import ClaudeProxy.Provider.Sse
import ClaudeProxy.Anthropic.StreamEncoder
import ClaudeProxy.Server.BodyStream
import ClaudeProxy.Client.Protocol
import ClaudeProxy.Proofs.StreamLifecycle
import ClaudeProxy.Proofs.Framing
import ClaudeProxy.Proofs.StreamedTools
import ClaudeProxy.Proofs.Truncation
import ClaudeProxy.Provider.Response
import ClaudeProxy.Proofs.StreamAgreement
import ClaudeProxy.Anthropic.Normalize
import ClaudeProxy.Proofs.Validation
import ClaudeProxy.Proofs.SemanticLoss
import ClaudeProxy.Config
import ClaudeProxy.Provider.Adapt
import ClaudeProxy.Provider.Translate
import ClaudeProxy.Library.Pairing
import ClaudeProxy.Proofs.Adaptation
import ClaudeProxy.Proofs.Translation
import ClaudeProxy.Proofs.ToolPairing
import ClaudeProxy.Provider.Circuit
import ClaudeProxy.Anthropic.CountTokens
import ClaudeProxy.Provider.Send
import ClaudeProxy.Routing
import ClaudeProxy.Library.Attempts
import ClaudeProxy.Library.Service
import ClaudeProxy.Library.Run
import ClaudeProxy.Dashboard.Store
import ClaudeProxy.Dashboard.Handlers
import ClaudeProxy.Dashboard.Routes
import ClaudeProxy.Dashboard.Startup
import ClaudeProxy.Proofs.Candidates
import ClaudeProxy.Proofs.Reports
import ClaudeProxy.Proofs.Fallback
import ClaudeProxy.Proofs.DashboardAccess
import ClaudeProxy.Proofs.CircuitHistory
import ClaudeProxy.Server.Traffic
import ClaudeProxy.Proofs.Accounting
import ClaudeProxy.Library.SlidingWindow
import ClaudeProxy.Auth
import ClaudeProxy.Server.Admission
import ClaudeProxy.Proofs.RateLimit
import ClaudeProxy.Proofs.Refusals
import ClaudeProxy.Server.Runtime
import ClaudeProxy.Proofs.Reload
import ClaudeProxy.Proofs.StreamAdmission
import ClaudeProxy.Anthropic.Deserialize
import ClaudeProxy.Proofs.Deserialization
import ClaudeProxy.Server.Endpoints
import ClaudeProxy.Proofs.CountRouting
import ClaudeProxy.Proofs.ConfigHistory
import ClaudeProxy.Library.Keyed
import ClaudeProxy.Dashboard.Process
import ClaudeProxy.Proofs.Shapes
import ClaudeProxy.Proofs.StoreKeys
import ClaudeProxy.Proofs.StoreMap
import ClaudeProxy.Proofs.LoginHistory
import ClaudeProxy.Proofs.Segments
import ClaudeProxy.Proofs.RequestBody
import ClaudeProxy.Proofs.Fitting
import ClaudeProxy.Proofs.ToolTraffic
import ClaudeProxy.Proofs.WindowExact
import ClaudeProxy.Proofs.CandidateErrors
import ClaudeProxy.Proofs.ToolIdentity
import ClaudeProxy.Proofs.RefusalText
import ClaudeProxy.Library.Mutex
import ClaudeProxy.Server.Panics
import ClaudeProxy.Proofs.PanicFreedom
import ClaudeProxy.Proofs.ToolHistory
import ClaudeProxy.Proofs.FinalUsage
import ClaudeProxy.Proofs.ListColumns
import ClaudeProxy.Server.Headers
import ClaudeProxy.Proofs.ClientKeys
import ClaudeProxy.Proofs.WellFormedBody
import ClaudeProxy.Library.WeightedDraw
import ClaudeProxy.WeightedOrder
import ClaudeProxy.Proofs.CandidateOrder
import ClaudeProxy.Proofs.Proportion
import ClaudeProxy.Library.EventStream
import ClaudeProxy.Client.EventSource
import ClaudeProxy.Proofs.Unforgeable
import ClaudeProxy.Library.WebUrl
import ClaudeProxy.Provider.Probe
import ClaudeProxy.Proofs.UpstreamUrls
import ClaudeProxy.Anthropic.Serialize
import ClaudeProxy.Client.Dialogue
import ClaudeProxy.Proofs.Rounds
import ClaudeProxy.Proofs.Dialogue
import ClaudeProxy.ConfigFormat
import ClaudeProxy.Proofs.ConfigFormat
import ClaudeProxy.Proofs.DatabaseHistory
import ClaudeProxy.Proofs.StoredConfigs
import ClaudeProxy.Proofs.Restarts
import ClaudeProxy.Server.Response
import ClaudeProxy.Server.Service
import ClaudeProxy.Proofs.ServiceSteps
import ClaudeProxy.Proofs.Authorization
import ClaudeProxy.Proofs.ServicePanics
import ClaudeProxy.Proofs.RuntimeIsolation
import ClaudeProxy.Proofs.RuntimeTurns
import ClaudeProxy.Proofs.ServicePermits
import ClaudeProxy.Proofs.RequestFates
import ClaudeProxy.Proofs.AnswerSources
import ClaudeProxy.Library.Processes
import ClaudeProxy.Proofs.ServiceTraffic
import ClaudeProxy.Proofs.ServiceAdmissions
import ClaudeProxy.Library.Serial
import ClaudeProxy.Proofs.Linearization
import ClaudeProxy.Proofs.AccessErrors
import ClaudeProxy.Proofs.Credentials
import ClaudeProxy.Proofs.ClientIsolation
import ClaudeProxy.Proofs.OwnAttempts
import ClaudeProxy.Proofs.ServiceFallback
import ClaudeProxy.Client.Answers
import ClaudeProxy.Proofs.UnderstoodAnswers
import ClaudeProxy.Proofs.StreamedDialogue
