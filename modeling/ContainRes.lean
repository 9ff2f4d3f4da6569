import ContainRes.FileSystem.Uploads
import ContainRes.Accounts.UserAddition
import ContainRes.Clustering.LeaderElection
import ContainRes.Clustering.DistributedLock
import ContainRes.Accounts.Consistency
import ContainRes.Accounts.ConcurrentMembership
import ContainRes.Config.Convergence
import ContainRes.Config.ClusterConfigDb
import ContainRes.Projects.TaskConvergence
import ContainRes.Projects.UserDeletion
import ContainRes.Projects.GroupDeletion
import ContainRes.VirtualDesktop.Deduplication
import ContainRes.VirtualDesktop.EventsHandlerThread
import ContainRes.Accounts.GroupMemberPages
import ContainRes.VirtualDesktop.UserDisabled
import ContainRes.VirtualDesktop.DeletionResumes
import ContainRes.VirtualDesktop.PermissionUpdates
import ContainRes.VirtualDesktop.HarmlessRequests
import ContainRes.VirtualDesktop.SsmOutcomes
import ContainRes.VirtualDesktop.FanOut
import ContainRes.VirtualDesktop.SessionQuota
import ContainRes.Api.PayloadSecrets
import ContainRes.Api.ClusterManagerApi
import ContainRes.Auth.TokenService
import ContainRes.Snapshots.UsersRollback
import ContainRes.Snapshots.CreatedRecords
import ContainRes.Snapshots.ScannedTables
import ContainRes.Snapshots.RecordEquality
import ContainRes.Snapshots.StatusConvergence
import ContainRes.VirtualDesktop.RootVolume
import ContainRes.VirtualDesktop.SessionCreation
import ContainRes.VirtualDesktop.HibernationResume
import ContainRes.VirtualDesktop.TriggeredSchedules
import ContainRes.VirtualDesktop.PermissionsFile
import ContainRes.VirtualDesktop.ConnectedSessions
import ContainRes.VirtualDesktop.BatchAccounting
import ContainRes.VirtualDesktop.SessionCounters
import ContainRes.Projects.RolePolicies
import ContainRes.VirtualDesktop.RecordRoundTrip
import ContainRes.Accounts.IdentityLinks
import ContainRes.WebPortal.SsoCallback
import ContainRes.FileSystem.TailFile
import ContainRes.Config.ModuleSettings
import ContainRes.Accounts.QuicUpdate
import ContainRes.Accounts.TemporaryCredentials
import ContainRes.ThreadPool.ThreadpoolService
import ContainRes.Projects.ProjectListing
import ContainRes.VirtualDesktop.ControllerQueue
import ContainRes.Projects.MappingRaces
import ContainRes.Projects.VpcFileSystems
import ContainRes.Projects.OnboardedOnce
