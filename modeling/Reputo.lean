import Reputo.Access.Admin
import Reputo.Access.Auth
import Reputo.Access.Cookies
import Reputo.Access.Database
import Reputo.Access.LastOwner
import Reputo.Access.Refresh
import Reputo.Access.RefreshRuns
import Reputo.Access.RefreshStages
import Reputo.Access.RefreshTokens
import Reputo.Access.Revocation
import Reputo.Access.Roles
import Reputo.Access.Sessions
import Reputo.AlgorithmPresets.Deletion
import Reputo.AlgorithmPresets.UploadKeys
import Reputo.AlgorithmRegistry.Faithfulness
import Reputo.AlgorithmRegistry.Generator
import Reputo.AlgorithmRegistry.Versions
import Reputo.AlgorithmValidator.Children
import Reputo.AlgorithmValidator.Payload
import Reputo.AlgorithmValidator.Presets
import Reputo.AlgorithmValidator.Revalidation
import Reputo.Community.ChannelAccess
import Reputo.Community.CommittedDataset
import Reputo.Community.Credentials
import Reputo.Community.DatasetRuns
import Reputo.Community.Deduplication
import Reputo.Community.Discord
import Reputo.Community.DiscordGuild
import Reputo.Community.DiscordReads
import Reputo.Community.DiscordRuns
import Reputo.Community.Freeze
import Reputo.Community.GatewayHeartbeat
import Reputo.Community.Github
import Reputo.Community.GithubCrawl
import Reputo.Community.GithubRepository
import Reputo.Community.GithubRuns
import Reputo.Community.GithubTransport
import Reputo.Community.GuildReplays
import Reputo.Community.HeartbeatAlarms
import Reputo.Community.HeartbeatRuns
import Reputo.Community.HeartbeatSteps
import Reputo.Community.Http
import Reputo.Community.HttpOutcome
import Reputo.Community.Mattermost
import Reputo.Community.MattermostChannel
import Reputo.Community.MattermostFetch
import Reputo.Community.MattermostRuns
import Reputo.Community.MattermostWalk
import Reputo.Community.MattermostWindow
import Reputo.Community.OneLiveFeed
import Reputo.Community.PinnedOrigins
import Reputo.Community.ReconnectingSocket
import Reputo.Community.Records
import Reputo.Community.ResourceDigest
import Reputo.Community.ResumableFreeze
import Reputo.Community.SafeFetch
import Reputo.Community.SharedDataset
import Reputo.CommunityEngagement.Pipeline
import Reputo.CommunityEngagement.Specification
import Reputo.CommunityEngagement.Units
import Reputo.Connections.ChannelListener
import Reputo.Connections.ChannelRuns
import Reputo.Connections.EventStreams
import Reputo.Connections.HealthCheck
import Reputo.Connections.RealtimeFeeds
import Reputo.Connections.RefreshQueue
import Reputo.Connections.Repository
import Reputo.Consent.ConsentService
import Reputo.Consent.ConsentStages
import Reputo.Consent.SingleUse
import Reputo.ContributionScore.Pipeline
import Reputo.ContributionScore.VoteEffects
import Reputo.CustomScore.AllOrPending
import Reputo.CustomScore.EncryptedCohort
import Reputo.CustomScore.EncryptedSubmission
import Reputo.CustomScore.EvaluationPlan
import Reputo.CustomScore.Lifecycle
import Reputo.CustomScore.SealEvaluator
import Reputo.CustomScore.SealHandles
import Reputo.CustomScore.SealRuntime
import Reputo.CustomScore.SealScopes
import Reputo.CustomScore.Types
import Reputo.CustomScore.WeightedScore
import Reputo.Deepfunding.Clock
import Reputo.Deepfunding.EachOnce
import Reputo.Deepfunding.Mirror
import Reputo.Deepfunding.Portal
import Reputo.Deepfunding.TimeWeight
import Reputo.Library.Aead
import Reputo.Library.Base64Url
import Reputo.Library.Bits
import Reputo.Library.Crawl
import Reputo.Library.Distinct
import Reputo.Library.Entropy
import Reputo.Library.Fifo
import Reputo.Library.Generator
import Reputo.Library.Grouping
import Reputo.Library.HandleLog
import Reputo.Library.IpAddress
import Reputo.Library.JsText
import Reputo.Library.Json
import Reputo.Library.Number
import Reputo.Library.OrderedMap
import Reputo.Library.Paging
import Reputo.Library.Program
import Reputo.Library.Protocol
import Reputo.Library.Query
import Reputo.Library.Result
import Reputo.Library.Resumption
import Reputo.Library.Schema
import Reputo.Library.SemVer
import Reputo.Library.SharedFifo
import Reputo.Library.System
import Reputo.Library.Table
import Reputo.Library.UriComponent
import Reputo.Library.WeightedMean
import Reputo.OnchainData.Cardano
import Reputo.OnchainData.CardanoPageFetch
import Reputo.OnchainData.CardanoPrefix
import Reputo.OnchainData.CardanoRuns
import Reputo.OnchainData.CardanoSync
import Reputo.OnchainData.CardanoWriteSets
import Reputo.OnchainData.ChainOrder
import Reputo.OnchainData.ConcurrentResults
import Reputo.OnchainData.ConcurrentRuns
import Reputo.OnchainData.Evm
import Reputo.OnchainData.EvmCursor
import Reputo.OnchainData.EvmSync
import Reputo.OnchainData.MapWithConcurrency
import Reputo.Orchestrator.Presets
import Reputo.Orchestrator.SyncTargets
import Reputo.Orchestrator.SyncedQueries
import Reputo.ProposalEngagement.BadReviews
import Reputo.ProposalEngagement.Pipeline
import Reputo.ProposalEngagement.TimeWeights
import Reputo.ScorePosting.Accounting
import Reputo.ScorePosting.Pipeline
import Reputo.Snapshots.Launch
import Reputo.Snapshots.LiveRuns
import Reputo.Snapshots.Orchestrator
import Reputo.Snapshots.Publication
import Reputo.Snapshots.Repository
import Reputo.Snapshots.RunEnds
import Reputo.Snapshots.RunSteps
import Reputo.Snapshots.Settled
import Reputo.Storage.Keys
import Reputo.TokenValue.Compute
import Reputo.TokenValue.DidScores
import Reputo.TokenValue.FifoReplay
import Reputo.TokenValue.Isolation
import Reputo.TokenValue.Lots
import Reputo.TokenValue.NetFlow
import Reputo.TokenValue.Normalize
import Reputo.TokenValue.Pagination
import Reputo.TokenValue.Resources
import Reputo.TokenValue.Score
import Reputo.TokenValue.Types
import Reputo.VotingEngagement.Pipeline
import Reputo.VotingEngagement.Scores
import Reputo.VotingEngagement.Specification
