import SovAgent.Foundation.Execution
import SovAgent.Foundation.RollingWindow
import SovAgent.Signing.Messages
import SovAgent.Buyer.CreditWatcher
import SovAgent.Buyer.CreditWatcherCap
import SovAgent.Crypto.Canonical
import SovAgent.Crypto.CanonicalWindow
import SovAgent.Agent.Hiring
import SovAgent.Agent.HiringOracle
import SovAgent.Client.IdentityKeys
import SovAgent.Client.IdentityKeysBinding
import SovAgent.Foundation.JsonText
import SovAgent.Inbox.VdxfGate
import SovAgent.Identity.Update
import SovAgent.Agent.InboxAccept
import SovAgent.Agent.InboxBatch
import SovAgent.Agent.InboxBatchPhases
import SovAgent.Identity.UpdateContents
import SovAgent.Agent.InboxBatchPartition
import SovAgent.Agent.InboxBatchMap
import SovAgent.Agent.InboxBatchAcks
import SovAgent.Agent.InboxBatchCitations
import SovAgent.Agent.InboxCycles
import SovAgent.Tx.Payment
import SovAgent.Agent.Wallet
import SovAgent.Agent.IdentityUpdates
import SovAgent.Agent.WalletSpending
import SovAgent.Identity.UpdateOrder
import SovAgent.Identity.UpdateFrame
import SovAgent.Buyer.CreditWatcherDebounce
import SovAgent.Agent.UtxoChaining
import SovAgent.Buyer.Session
import SovAgent.Buyer.SessionDrain
import SovAgent.Onboarding.Finalize
import SovAgent.Onboarding.FinalizeResume
import SovAgent.Foundation.Path
import SovAgent.Buyer.Workspace
import SovAgent.Buyer.WorkspaceAccess
import SovAgent.Foundation.NumberText
import SovAgent.Foundation.JsonRoundTrip
import SovAgent.Foundation.Base64
import SovAgent.Identity.VerusMessage
import SovAgent.Crypto.CanonicalRoundTrip
import SovAgent.Foundation.JsonCanonical
import SovAgent.Signing.ProtocolGuard
import SovAgent.Crypto.CanonicalOrder
import SovAgent.Onboarding.Challenge
import SovAgent.Onboarding.DomainSeparation
import SovAgent.Chat.Client
import SovAgent.Chat.Rooms
import SovAgent.Agent.Login
import SovAgent.Agent.LoginWaits
import SovAgent.Agent.LoginSteps
import SovAgent.Agent.JobPolling
import SovAgent.Agent.JobAcceptance
import SovAgent.Identity.History
import SovAgent.Identity.HistoryRecovery
import SovAgent.Foundation.Delimited
import SovAgent.Signing.Unambiguous
import SovAgent.Buyer.WorkspaceEvents
import SovAgent.Foundation.Utf8
import SovAgent.Workspace.RoundTrip
import SovAgent.Crypto.Envelope
import SovAgent.Crypto.EnvelopeRoundTrip
import SovAgent.Crypto.EnvelopeTamper
import SovAgent.Agent.JobStarvation
import SovAgent.Agent.WalletRejection
import SovAgent.Crypto.CanonicalThreshold
import SovAgent.Agent.InboxBatchBlame
import SovAgent.Client.Request
import SovAgent.Onboarding.FieldReferences
import SovAgent.Inbox.ReviewDecoders
import SovAgent.Buyer.SendAndWait
import SovAgent.Buyer.SendAndWaitNesting
import SovAgent.Foundation.Coercion
import SovAgent.Onboarding.Decode
import SovAgent.Onboarding.DecodeSteps
import SovAgent.Onboarding.DecodeTotal
import SovAgent.Onboarding.DecodeHostile
import SovAgent.Onboarding.DecodeBounds
import SovAgent.Agent.Migration
import SovAgent.Onboarding.Encode
import SovAgent.Onboarding.EncodeRoundTrip
import SovAgent.Foundation.Occurrence
import SovAgent.Net.EgressAgent
import SovAgent.Foundation.Double
import SovAgent.Foundation.Greedy
import SovAgent.Tx.Selection
import SovAgent.Foundation.Value
import SovAgent.Privacy.Attestation
import SovAgent.Privacy.AttestationFormat
import SovAgent.Privacy.AttestationRoundTrip
import SovAgent.Agent.Lifecycle
import SovAgent.Agent.LifecycleRuns
import SovAgent.Foundation.DoubleOrder
import SovAgent.Foundation.FirstEntries
import SovAgent.Foundation.Pattern
import SovAgent.Foundation.PatternClasses
import SovAgent.Foundation.Replacement
import SovAgent.Safety.CodeExec
import SovAgent.Safety.CodeExecDecision
import SovAgent.Safety.Content
import SovAgent.Safety.Context
import SovAgent.Agent.Registration
import SovAgent.Client.Response
import SovAgent.Crypto.AccessRequest
import SovAgent.Identity.HexText
import SovAgent.Identity.Witness
import SovAgent.Onboarding.Publishing
import SovAgent.Webhook.Verify
import SovAgent.Agent.Downloads
import SovAgent.Buyer.WorkspaceTransfer
import SovAgent.Client.EndpointTargets
import SovAgent.Foundation.Binary64
import SovAgent.Pricing.Calculator
import SovAgent.Pricing.PriceOrder
import SovAgent.Workspace.Outcomes
