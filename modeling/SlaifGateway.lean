import SlaifGateway.Library.Table
import SlaifGateway.Library.Transaction
import SlaifGateway.Library.Runs
import SlaifGateway.Library.WaitFor
import SlaifGateway.Store.Amounts
import SlaifGateway.Store.Errors
import SlaifGateway.Store.Schema
import SlaifGateway.Store.Repositories
import SlaifGateway.Quota.Movements
import SlaifGateway.Quota.QuotaService
import SlaifGateway.Quota.Accounting
import SlaifGateway.Quota.Reconciliation
import SlaifGateway.Quota.Fence
import SlaifGateway.Quota.Hold
import SlaifGateway.Quota.KeyService
import SlaifGateway.Quota.Operations
import SlaifGateway.Quota.History
import SlaifGateway.Quota.Conservation
import SlaifGateway.Quota.CounterGuard
import SlaifGateway.Quota.UsageReset
import SlaifGateway.Quota.QuotaBound
import SlaifGateway.Quota.FenceExclusivity
import SlaifGateway.Quota.LedgerRows
import SlaifGateway.Quota.Outcomes
import SlaifGateway.Quota.Settlement
import SlaifGateway.Quota.Books
import SlaifGateway.Quota.Progress
import SlaifGateway.Quota.BatchIsolation
import SlaifGateway.Quota.LockPlans
import SlaifGateway.Quota.LockOrder
import SlaifGateway.Library.Json
import SlaifGateway.Library.Timeline
import SlaifGateway.Library.Decimal
import SlaifGateway.Traffic.RateLimitService
import SlaifGateway.Traffic.LimiterSafety
import SlaifGateway.Traffic.LazyThrottling
import SlaifGateway.Traffic.SlotCustody
import SlaifGateway.Replay.CodexReplayService
import SlaifGateway.Replay.Candidates
import SlaifGateway.Replay.Ownership
import SlaifGateway.Tools.ExternalToolPolicy
import SlaifGateway.Tools.Admission
import SlaifGateway.Catalog.Schema
import SlaifGateway.Catalog.Apply
import SlaifGateway.Catalog.CleanCut
import SlaifGateway.Catalog.SourceEvidence
import SlaifGateway.Catalog.Validation
import SlaifGateway.Catalog.Planning
import SlaifGateway.Catalog.PlanShape
import SlaifGateway.Catalog.OnePrice
import SlaifGateway.Catalog.BackedPrices
import SlaifGateway.Catalog.Preservation
import SlaifGateway.Library.Generator
import SlaifGateway.Quota.Standing
import SlaifGateway.Streaming.Session
import SlaifGateway.Streaming.LiveBurn
import SlaifGateway.Streaming.ChatCompletion
import SlaifGateway.Streaming.ChatTransactions
import SlaifGateway.Streaming.ChatOrder
import SlaifGateway.Streaming.ChatSettlement
import SlaifGateway.Library.Text
import SlaifGateway.Library.Document
import SlaifGateway.Dialect.CompatibilityRules
import SlaifGateway.Dialect.LosslessSplit
import SlaifGateway.Library.JsonText
import SlaifGateway.LocalCoding.SseFraming
import SlaifGateway.LocalCoding.SseChunking
import SlaifGateway.Clients.Codex0149
import SlaifGateway.Clients.CodexNormalization
import SlaifGateway.LocalCoding.VllmCodec
import SlaifGateway.Library.JsonRoundTrip
import SlaifGateway.LocalCoding.ToolNames
import SlaifGateway.LocalCoding.CodecStream
import SlaifGateway.LocalCoding.CodecRuns
import SlaifGateway.LocalCoding.CodecConfinement
import SlaifGateway.LocalCoding.CodecTranslation
import SlaifGateway.Library.DecimalLaws
import SlaifGateway.Billing.Sanitization
import SlaifGateway.Billing.ActualCost
import SlaifGateway.Billing.ComponentPartition
import SlaifGateway.Billing.DetailLoss
import SlaifGateway.Billing.Pricing
import SlaifGateway.Billing.CodexEstimate
import SlaifGateway.Billing.OrdinaryEstimate
import SlaifGateway.Billing.FxConsistency
import SlaifGateway.Library.Lines
import SlaifGateway.Streaming.SseLines
import SlaifGateway.Streaming.ChunkEstimate
import SlaifGateway.Streaming.ResponsesBurn
import SlaifGateway.Library.Pattern
import SlaifGateway.Library.Spelling
import SlaifGateway.Store.Redaction
import SlaifGateway.Quota.HoldRepeat
import SlaifGateway.Acceptance.EventChecks
import SlaifGateway.Acceptance.EventValidator
import SlaifGateway.Library.Keeps
import SlaifGateway.Acceptance.Answers
import SlaifGateway.Acceptance.CompletedOutput
import SlaifGateway.Acceptance.StreamLanguage
import SlaifGateway.Acceptance.StreamSimulation
import SlaifGateway.ChatPolicy.Checks
import SlaifGateway.ChatPolicy.MessageCaps
import SlaifGateway.ChatPolicy.RequestCaps
import SlaifGateway.ChatPolicy.RequestPolicy
import SlaifGateway.ChatPolicy.Totality
import SlaifGateway.ChatPolicy.ApplyTotality
import SlaifGateway.Library.Outcome
import SlaifGateway.Library.Sorting
import SlaifGateway.Library.Encodings
import SlaifGateway.Catalog.DecimalText
import SlaifGateway.Catalog.PlanIdentity
import SlaifGateway.LocalCoding.Identity
import SlaifGateway.LocalCoding.Unambiguous
import SlaifGateway.Tools.PolicyCanonical
import SlaifGateway.Tools.SharedNamespaces
import SlaifGateway.Keys.GatewayKey
import SlaifGateway.Capture.Secrets
import SlaifGateway.Capture.Masker
import SlaifGateway.Capture.Redaction
import SlaifGateway.Capture.Preserved
import SlaifGateway.Capture.CaptureStore
import SlaifGateway.Capture.CaptureRuns
import SlaifGateway.Capture.CaptureClaims
import SlaifGateway.Capture.Hidden
import SlaifGateway.Routing.RouteResolution
import SlaifGateway.Routing.BestRoute
import SlaifGateway.PriceReview.ReviewedDisable
import SlaifGateway.PriceReview.AllOrNothing
import SlaifGateway.PriceReview.PlanDocument
import SlaifGateway.Email.KeyDelivery
import SlaifGateway.Email.AtMostOnce
import SlaifGateway.Imports.ImportPlan
import SlaifGateway.Imports.ImportWindows
