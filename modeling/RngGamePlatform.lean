import RngGamePlatform.Encoding.Text
import RngGamePlatform.Encoding.Binary64
import RngGamePlatform.Encoding.Rounding
import RngGamePlatform.Encoding.Json
import RngGamePlatform.Encoding.Time
import RngGamePlatform.Encoding.Readable
import RngGamePlatform.Encoding.Instants
import RngGamePlatform.Encoding.Collation
import RngGamePlatform.Encoding.Parsing
import RngGamePlatform.Encoding.Bytes
import RngGamePlatform.Sampling.Rejection
import RngGamePlatform.Stores.SortedSet
import RngGamePlatform.Stores.Redis
import RngGamePlatform.Stores.Glob
import RngGamePlatform.Relational.Table
import RngGamePlatform.Relational.Ordering
import RngGamePlatform.Relational.Grouping
import RngGamePlatform.Models
import RngGamePlatform.Rng
import RngGamePlatform.FairnessEvents
import RngGamePlatform.GameRules
import RngGamePlatform.HmacProvider
import RngGamePlatform.Proofs.FairDraw
import RngGamePlatform.Database
import RngGamePlatform.Transactions.Program
import RngGamePlatform.Transactions.System
import RngGamePlatform.Transactions.Vocabulary
import RngGamePlatform.Transactions.Reading
import RngGamePlatform.Transactions.Mirrored
import RngGamePlatform.Transactions.Logic
import RngGamePlatform.Transactions.Atomicity
import RngGamePlatform.Transactions.Outlines
import RngGamePlatform.Transactions.Telling
import RngGamePlatform.Transactions.Confinement
import RngGamePlatform.Transactions.Strengthening
import RngGamePlatform.Transactions.Alone
import RngGamePlatform.Transactions.Commits
import RngGamePlatform.Transactions.Keeping
import RngGamePlatform.Repositories
import RngGamePlatform.Rankings
import RngGamePlatform.Services.Common
import RngGamePlatform.Services.Sessions
import RngGamePlatform.Services.Fairness
import RngGamePlatform.Services.Gameplay
import RngGamePlatform.Services.Leaderboards
import RngGamePlatform.Services.Settlement
import RngGamePlatform.Services.Requests
import RngGamePlatform.Services.Platform
import RngGamePlatform.Proofs.ScoringRules
import RngGamePlatform.Proofs.Isolation
import RngGamePlatform.Proofs.Statements
import RngGamePlatform.Proofs.Rules
import RngGamePlatform.Proofs.Effects
import RngGamePlatform.Proofs.Termination
import RngGamePlatform.Proofs.Stability
import RngGamePlatform.Proofs.SessionSpecs
import RngGamePlatform.Proofs.FairnessSpecs
import RngGamePlatform.Proofs.Answers
import RngGamePlatform.Proofs.PlaySpecs
import RngGamePlatform.Proofs.ScoreSpecs
import RngGamePlatform.Proofs.PlayerSpecs
import RngGamePlatform.Proofs.Invariant
import RngGamePlatform.Proofs.Preservation
import RngGamePlatform.Proofs.Provenance
import RngGamePlatform.Proofs.Ledger
import RngGamePlatform.Proofs.SettlementSteps
import RngGamePlatform.Proofs.SessionOrder
import RngGamePlatform.Proofs.ServiceDiscipline
import RngGamePlatform.Proofs.PlatformContract
import RngGamePlatform.Proofs.Ownership
import RngGamePlatform.Proofs.Lifecycle
import RngGamePlatform.Proofs.EvidenceConservation
import RngGamePlatform.Proofs.Refusals
import RngGamePlatform.Proofs.ErrorsLeaveNoTrace
import RngGamePlatform.Proofs.ProvableFairness
import RngGamePlatform.Proofs.SpinAnswers
import RngGamePlatform.Proofs.ScoringTruth
import RngGamePlatform.Proofs.RewardClaims
import RngGamePlatform.Proofs.Playability
import RngGamePlatform.Proofs.BindingProof
import RngGamePlatform.Proofs.ProtocolBytes
import RngGamePlatform.Proofs.UntrustedEvidence
import RngGamePlatform.Proofs.OneRanking
import RngGamePlatform.Proofs.Standings
import RngGamePlatform.Proofs.Settlement
import RngGamePlatform.Proofs.Fingerprints
import RngGamePlatform.Proofs.OwnershipIsolation
import RngGamePlatform.Proofs.SafeRetries
import RngGamePlatform.Proofs.ActiveSession
import RngGamePlatform.Queues.KeepNewest
import RngGamePlatform.LeaderboardEvents
import RngGamePlatform.Proofs.EventHub
import RngGamePlatform.Proofs.NewestSignal
import RngGamePlatform.Web.PlayerStore
import RngGamePlatform.Proofs.Validation
import RngGamePlatform.Calendar.Gregorian
import RngGamePlatform.Calendar.DateTime
import RngGamePlatform.Calendar.EcmaDate
import RngGamePlatform.WeeklyPeriods
import RngGamePlatform.Services.Analytics
import RngGamePlatform.Proofs.WeeklyCalendar
import RngGamePlatform.Proofs.EventChain
import RngGamePlatform.Proofs.ChainAcceptance
import RngGamePlatform.Projections.Integrity
import RngGamePlatform.Projections.Rebuild
import RngGamePlatform.Projections.Namespaces
import RngGamePlatform.Projections.Reader
import RngGamePlatform.Projections.Pages
import RngGamePlatform.Proofs.ProjectionOrder
import RngGamePlatform.Proofs.ProjectionSigning
import RngGamePlatform.Proofs.StaleGenerations
import RngGamePlatform.Proofs.NamespaceIsolation
import RngGamePlatform.Proofs.ProjectedInstants
import RngGamePlatform.Machines.Runs
import RngGamePlatform.Web.OperationJournal
import RngGamePlatform.Web.ApiClient
import RngGamePlatform.Web.FinalScores
import RngGamePlatform.Web.SkillCheck
import RngGamePlatform.Web.DailySpin
import RngGamePlatform.Proofs.RestoredAnswers
import RngGamePlatform.Proofs.OwnRounds
import RngGamePlatform.Proofs.UnrevealedSeeds
import RngGamePlatform.Proofs.WrittenTables
import RngGamePlatform.Proofs.TableInvariants
import RngGamePlatform.Proofs.BoardRevisions
import RngGamePlatform.Proofs.ProjectionAuthenticity
import RngGamePlatform.Proofs.ProjectedPages
import RngGamePlatform.Proofs.ReadMoments
import RngGamePlatform.Proofs.ServedProjection
import RngGamePlatform.Proofs.PlayedRounds
import RngGamePlatform.Proofs.AnalyticsReport
