import CosmicSync.Library.Table
import CosmicSync.Library.HashMap
import CosmicSync.Library.Run
import CosmicSync.Library.Ranking
import CosmicSync.Library.Segments
import CosmicSync.Library.Newest
import CosmicSync.Library.Broker
import CosmicSync.Library.Interleaving
import CosmicSync.Library.Scripts
import CosmicSync.Utils.Text
import CosmicSync.Utils.Normalization
import CosmicSync.Utils.NormalizeCache
import CosmicSync.Utils.Crypto
import CosmicSync.Utils.Codecs
import CosmicSync.Utils.TokenPaths
import CosmicSync.Models.File
import CosmicSync.Models.Watcher
import CosmicSync.Storage.Basic
import CosmicSync.Storage.Schema
import CosmicSync.Storage.SchemaFacts
import CosmicSync.Storage.SchemaMigration
import CosmicSync.Storage.SchemaUse
import CosmicSync.Storage.MySqlFile
import CosmicSync.Storage.MySqlWatcher
import CosmicSync.Storage.WatcherStore
import CosmicSync.Storage.WatcherIds
import CosmicSync.Storage.WatcherConvergence
import CosmicSync.Storage.WatcherConditions
import CosmicSync.Storage.Memory
import CosmicSync.Storage.Accounts
import CosmicSync.Storage.SingleLive
import CosmicSync.Storage.Revisions
import CosmicSync.Storage.Tombstones
import CosmicSync.Storage.FileIds
import CosmicSync.Storage.Retention
import CosmicSync.Storage.RetentionWindow
import CosmicSync.Storage.PathMigration
import CosmicSync.Storage.Encryption
import CosmicSync.Storage.Devices
import CosmicSync.Auth.OAuth
import CosmicSync.Auth.TokenValidation
import CosmicSync.Services.FileService
import CosmicSync.Services.FileSearch
import CosmicSync.Services.FileData
import CosmicSync.Storage.S3Storage
import CosmicSync.Services.VersionService
import CosmicSync.Services.VersionHistory
import CosmicSync.Services.EncryptionKeys
import CosmicSync.Server.InitialSync
import CosmicSync.Server.SubscribeStream
import CosmicSync.Server.NotificationManager
import CosmicSync.Server.Recipients
import CosmicSync.Server.Subscriptions
import CosmicSync.Server.ConnectionTracker
import CosmicSync.Handlers.FileHandler
import CosmicSync.Handlers.RoundTrip
import CosmicSync.Handlers.ReportedRevision
import CosmicSync.Handlers.Isolation
import CosmicSync.Handlers.TransportMetadata
import CosmicSync.Handlers.NamedDeletion
import CosmicSync.Handlers.ExistenceCheck
import CosmicSync.Handlers.RecoverySync
import CosmicSync.Handlers.WatcherHandler
import CosmicSync.Handlers.WatcherFolders
import CosmicSync.Handlers.WatcherContainment
import CosmicSync.Handlers.WatcherUpdates
import CosmicSync.Handlers.WatcherSync
import CosmicSync.Handlers.WatcherAccess
import CosmicSync.Handlers.WatcherBackends
import CosmicSync.Handlers.FileRequests
import CosmicSync.Handlers.FileIntegrity
import CosmicSync.Handlers.AuthSessions
import CosmicSync.Handlers.LoginRaces
import CosmicSync.Handlers.DeviceHandler
import CosmicSync.Handlers.DeviceBackends
import CosmicSync.Bin.RabbitConsumer
import CosmicSync.Bin.Redelivery
import CosmicSync.Bin.RetryQueue
