import MediaHub.Catalog.DirectoryComplete
import MediaHub.Cipher.Aead
import MediaHub.Core.AsyncJobRun
import MediaHub.Core.BucketInPlace
import MediaHub.Core.BucketRun
import MediaHub.Core.Calendar
import MediaHub.Core.Cors
import MediaHub.Core.OffsetTime
import MediaHub.Core.RetentionDate
import MediaHub.Core.Tagging
import MediaHub.Calls.Program
import MediaHub.Domain.Media
import MediaHub.Domain.MediaRun
import MediaHub.Domain.Metadata
import MediaHub.Domain.UploadSession
import MediaHub.History.Basic
import MediaHub.Http.BucketTagging
import MediaHub.Http.ByteRange
import MediaHub.Http.CanonicalRequest
import MediaHub.Http.ConfigurationXml
import MediaHub.Http.ContentPath
import MediaHub.Http.Cors
import MediaHub.Http.CorsRoundTrip
import MediaHub.Http.Dispatch
import MediaHub.Http.LifecycleRoundTrip
import MediaHub.Http.LifecycleWriting
import MediaHub.Http.LifecycleXml
import MediaHub.Http.ListObjectsV2
import MediaHub.Http.ListingReadBack
import MediaHub.Http.ObjectTagging
import MediaHub.Http.PresignedQuery
import MediaHub.Http.SignedHeaders
import MediaHub.Http.XmlDocument
import MediaHub.Http.XmlReadBack
import MediaHub.Json.Parse
import MediaHub.Json.RoundTrip
import MediaHub.Local.Listing
import MediaHub.Local.ObjectStore
import MediaHub.Local.Paths
import MediaHub.Order.Reordered
import MediaHub.Order.Smallest
import MediaHub.Pattern.Wildcard
import MediaHub.Policy.Authorization
import MediaHub.Policy.DenyWins
import MediaHub.Policy.Document
import MediaHub.Policy.Evaluate
import MediaHub.Policy.Glob
import MediaHub.Policy.IpAddress
import MediaHub.Policy.IpNetwork
import MediaHub.Policy.IpReadBack
import MediaHub.Policy.Names
import MediaHub.Policy.OrderFree
import MediaHub.Policy.Parse
import MediaHub.Policy.ParserTotal
import MediaHub.Policy.PublicAccess
import MediaHub.Policy.Reference
import MediaHub.Policy.Scopes
import MediaHub.Policy.Statement
import MediaHub.Relational.Rewrite
import MediaHub.Relational.Transaction
import MediaHub.Server.AuthRateLimiter
import MediaHub.Server.BucketDeletion
import MediaHub.Server.ContinuationTokens
import MediaHub.Server.CurrentExpiration
import MediaHub.Server.DeleteObjects
import MediaHub.Server.HmacReplay
import MediaHub.Server.Ledgers
import MediaHub.Server.Pagination
import MediaHub.Server.PartPayloads
import MediaHub.Server.System
import MediaHub.Server.UserTimes
import MediaHub.Server.WebDav
import MediaHub.Server.WebDavFile
import MediaHub.Server.WebDavView
import MediaHub.Server.WebhookAddress
import MediaHub.Service.LifecycleWorker
import MediaHub.Service.PutObject
import MediaHub.Service.Upload
import MediaHub.Store.AccountingEffects
import MediaHub.Store.AsyncJobWorkers
import MediaHub.Store.BucketConfiguration
import MediaHub.Store.CompletionEffects
import MediaHub.Store.DeleteEffects
import MediaHub.Store.Effect
import MediaHub.Store.GarbageCollection
import MediaHub.Store.IdempotencyRun
import MediaHub.Store.Lifecycle
import MediaHub.Store.LifecycleDue
import MediaHub.Store.LifecycleEffects
import MediaHub.Store.ListingMarkers
import MediaHub.Store.ListingServed
import MediaHub.Store.Media
import MediaHub.Store.Multipart
import MediaHub.Store.ObjectCommit
import MediaHub.Store.ObjectDelete
import MediaHub.Store.Quota
import MediaHub.Store.RetentionRun
import MediaHub.Store.UploadIntent
import MediaHub.Store.VersionChange
import MediaHub.Store.VersionHistory
import MediaHub.Store.WebhookRun
import MediaHub.Text.Digits
import MediaHub.Text.LengthPrefixed
import MediaHub.Text.Overlay
import MediaHub.Text.PercentEncoding
import MediaHub.Transition.System
import MediaHub.Variant.CacheKey
import MediaHub.Variant.Independence
import MediaHub.Web.ArchiveExport
import MediaHub.Web.UploadSchedulerRun
import MediaHub.Window.FixedWindow
import MediaHub.Xml.Document
import MediaHub.Xml.PlainReader
import MediaHub.Xml.Token
