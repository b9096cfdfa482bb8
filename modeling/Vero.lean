import Vero.Lib.Runs
import Vero.MultiBeaconNode
import Vero.AttestationDataProvider
import Vero.CheckpointConfirmation
import Vero.ValidatorDutyService
import Vero.EventConsumerService
import Vero.AttestationService
import Vero.BlockProposalService
import Vero.Services
import Vero.AttestationSteps
import Vero.SlotGuards
import Vero.SlashingDetection
import Vero.AttestationDeadline
import Vero.CompleteUpdates
import Vero.VouchingRoots
import Vero.Keymanager
import Vero.KeymanagerOverrides
import Vero.RemoteSigners
import Vero.EpochAttestations
import Vero.ForkSchedule
import Vero.OptimisticResponses
import Vero.ProposalRuns
import Vero.RandaoReveals
import Vero.Shutdown
import Vero.SlashingEvents
import Vero.SyncPeriods
import Vero.ValidatorStatuses
import Vero.DutyRuns
import Vero.OngoingDuties
import Vero.DutyCompletion
import Vero.BestAggregates
import Vero.BlockProduction
import Vero.BatchedSigning
import Vero.SelectionProofs
import Vero.AttestationAggregation
import Vero.SyncContributions
import Vero.SlotFollowUps
import Vero.SlotHandlerRuns
import Vero.FeeRecipientArgument
import Vero.GasLimits
import Vero.KeymanagerReports
import Vero.KeyStatuses
import Vero.SignedMessages
import Vero.FullUpdates
import Vero.Lib.SplitOn
import Vero.EventStream
import Vero.NodeInitialization
import Vero.Lib.Files
import Vero.DutyCache
import Vero.SlotTicker
import Vero.RecentEventKeys
import Vero.Lib.Coroutines
import Vero.DoppelgangerDetector
import Vero.RunServices
import Vero.FirstDuties
import Vero.TaskManager
import Vero.BackgroundLoops
import Vero.Failover
import Vero.KeymanagerEndpoints
import Vero.KeymanagerLedger
import Vero.AcceptedOverrides
import Vero.Migrations
import Vero.Lib.Separated
import Vero.ParsedArgs
import Vero.LoggedArgs
import Vero.ProposalCustody
import Vero.Lib.Pacing
import Vero.AttestationDataPolling
import Vero.HealthPolling
import Vero.BearerToken
import Vero.Lib.Chains
import Vero.AttestationPipeline
import Vero.AttestationCustody
