import WekaShareDriver.Foundation.Program
import WekaShareDriver.Foundation.May
import WekaShareDriver.Foundation.Obeys
import WekaShareDriver.Foundation.Reaches
import WekaShareDriver.Foundation.Tracks
import WekaShareDriver.Foundation.RunsAlike
import WekaShareDriver.Foundation.Registry
import WekaShareDriver.Foundation.Text
import WekaShareDriver.Foundation.Trimming
import WekaShareDriver.Foundation.Regex
import WekaShareDriver.Foundation.Uuid
import WekaShareDriver.Foundation.Ipv4
import WekaShareDriver.Foundation.Dict
import WekaShareDriver.Error
import WekaShareDriver.Cluster
import WekaShareDriver.Share
import WekaShareDriver.World
import WekaShareDriver.Requests
import WekaShareDriver.Faults
import WekaShareDriver.Footprint
import WekaShareDriver.Client
import WekaShareDriver.Session
import WekaShareDriver.Posix
import WekaShareDriver.Access.Nfs
import WekaShareDriver.Access.Wekafs
import WekaShareDriver.Filesystems
import WekaShareDriver.Snapshots
import WekaShareDriver.FilesystemSpec
import WekaShareDriver.Access.PolicyState
import WekaShareDriver.Access.PolicyRules
import WekaShareDriver.Access.PolicyCalls
import WekaShareDriver.Access.PolicySpec
import WekaShareDriver.Access.WekafsSpec
import WekaShareDriver.Access.WekafsSync
import WekaShareDriver.SessionSpec
import WekaShareDriver.Access.WekafsUpdate
import WekaShareDriver.Access.WekafsUses
import WekaShareDriver.Access.Rules
import WekaShareDriver.Access.Runs
import WekaShareDriver.SetupUses
import WekaShareDriver.CopyUses
import WekaShareDriver.TenantUses
import WekaShareDriver.ShareParts
import WekaShareDriver.Tenancy
import WekaShareDriver.Operations
import WekaShareDriver.ShareCalls
import WekaShareDriver.GroupPolicies
import WekaShareDriver.ShareCreation
import WekaShareDriver.LostResponses
import WekaShareDriver.UndisturbedCreates
import WekaShareDriver.RepeatedCreates
import WekaShareDriver.GroupEnforcement
import WekaShareDriver.Resolution
import WekaShareDriver.Access.WekafsRepair
import WekaShareDriver.Access.WekafsGuard
import WekaShareDriver.Access.NfsUses
import WekaShareDriver.Access.NfsState
import WekaShareDriver.Access.NfsCalls
import WekaShareDriver.Access.NfsSpec
import WekaShareDriver.Access.NfsRemoval
import WekaShareDriver.Access.NfsUpdate
import WekaShareDriver.Access.WekafsOpen
import WekaShareDriver.Access.NfsRuns
import WekaShareDriver.Access.NfsRepair
import WekaShareDriver.Access.InForce
import WekaShareDriver.Access.LiveRules
import WekaShareDriver.Access.Incremental
import WekaShareDriver.Access.WekafsSteps
import WekaShareDriver.Access.NfsSteps
import WekaShareDriver.Access.Steps
import WekaShareDriver.Vanishing
import WekaShareDriver.Cleanups
import WekaShareDriver.Access.NfsFrame
import WekaShareDriver.NfsConfinement
import WekaShareDriver.PolicyGuard
import WekaShareDriver.GovernedShares
import WekaShareDriver.Neighbours
import WekaShareDriver.ShareFilesystems
import WekaShareDriver.FailedDeletes
import WekaShareDriver.HealthChecks
import WekaShareDriver.BrokenShares
import WekaShareDriver.Adoption
import WekaShareDriver.PolicyGroupOption
import WekaShareDriver.ApiClient
import WekaShareDriver.Lockout
import WekaShareDriver.RequestLoop
import WekaShareDriver.Access.NfsReapply
import WekaShareDriver.LiveMounts
import WekaShareDriver.CopyThreads
import WekaShareDriver.CopyStatus
import WekaShareDriver.CopyPhases
import WekaShareDriver.CopyCleanup
import WekaShareDriver.Foundation.PythonTuple
import WekaShareDriver.ProtocolPatch
import WekaShareDriver.ProtocolTuple
import WekaShareDriver.ProtocolConstants
import WekaShareDriver.GroupReconciliation
import WekaShareDriver.MountLocks
import WekaShareDriver.SessionLocks
import WekaShareDriver.TokenLocks
import WekaShareDriver.ConcurrentCreates
import WekaShareDriver.Gerrit.Listener
import WekaShareDriver.TokenFiles
import WekaShareDriver.Access.BadRules
import WekaShareDriver.Access.Validation
import WekaShareDriver.Access.WekafsBatches
import WekaShareDriver.Access.NfsBatches
import WekaShareDriver.Access.Batches
import WekaShareDriver.AtMostOnce
import WekaShareDriver.DriverSetup
import WekaShareDriver.KeptShares
