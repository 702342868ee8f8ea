import Manbaa.Lib.Run
import Manbaa.Lib.Journal
import Manbaa.Canvases.Service
import Manbaa.Canvases.Steps
import Manbaa.Canvases.Log
import Manbaa.Canvases.Sound
import Manbaa.Canvases.Refusal
import Manbaa.Canvases.Replay
import Manbaa.Canvases.Concurrent
import Manbaa.Usage.Service
import Manbaa.Usage.Conservation
import Manbaa.Usage.Concurrent
import Manbaa.Jobs.Entities
import Manbaa.Jobs.Preview
import Manbaa.Jobs.PreviewSteps
import Manbaa.Jobs.Dedup
import Manbaa.Jobs.Tasks
import Manbaa.Jobs.Settlement
import Manbaa.Jobs.Supersession
import Manbaa.Jobs.Artefacts
import Manbaa.Jobs.Serializer
import Manbaa.Jobs.Reuse
import Manbaa.Lib.Outage
import Manbaa.AiGateway.SessionFsm
import Manbaa.AiGateway.Entities
import Manbaa.AiGateway.Generation
import Manbaa.AiGateway.GenerationSteps
import Manbaa.AiGateway.Rejection
import Manbaa.AiGateway.Workflows
import Manbaa.AiGateway.Numbering
import Manbaa.AiGateway.NumberingRuns
import Manbaa.AiGateway.Delivery
import Manbaa.AiGateway.Lifecycle
import Manbaa.Rules.Entities
import Manbaa.Rules.Service
import Manbaa.Rules.Conflicts
import Manbaa.Rules.Checks
import Manbaa.Rules.Contradictions
import Manbaa.Outbox.Publisher
import Manbaa.Lib.Base64
import Manbaa.Lib.DateText
import Manbaa.Lib.JsonText
import Manbaa.Messages.Cursor
import Manbaa.Messages.Pagination
import Manbaa.AiGateway.Readers
import Manbaa.Auth.Service
import Manbaa.Auth.Families
import Manbaa.Auth.Concurrent
import Manbaa.Jobs.Redelivery
import Manbaa.Sources.Lifecycle
import Manbaa.Sources.Confluence
import Manbaa.Nats.Subscription
import Manbaa.AiGateway.Exhaustion
import Manbaa.Sources.Subscriptions
import Manbaa.Lib.Program
import Manbaa.Workspaces.Directory
import Manbaa.Organizations.Service
import Manbaa.Workspaces.Membership
import Manbaa.Lib.Holders
import Manbaa.Organizations.Requests
import Manbaa.Organizations.Outcomes
import Manbaa.Organizations.LastHolders
import Manbaa.Organizations.Ownership
import Manbaa.Organizations.Agreement
import Manbaa.Documents.Decisions
import Manbaa.Lib.CodeUnits
import Manbaa.Lib.PercentEncoding
import Manbaa.Storage.ObjectPath
import Manbaa.Events.Assertions
import Manbaa.Events.SourceProcessRequested
import Manbaa.Lib.UuidText
import Manbaa.Events.SourceContract
import Manbaa.Realtime.Gateway
import Manbaa.Realtime.Isolation
import Manbaa.Events.CanvasAiPreviewRequested
import Manbaa.Jobs.PreviewEvent
import Manbaa.Workflows.Export
import Manbaa.Workflows.ExportGate
import Manbaa.Workspaces.Invitations
import Manbaa.Documents.Quota
import Manbaa.Assets.Families
import Manbaa.Comments.Approvals
import Manbaa.Skills.Catalogues
import Manbaa.Health.Cache
import Manbaa.Jobs.Suggestions
import Manbaa.Workspaces.Locking
import Manbaa.Lib.ForeignKeys
import Manbaa.Projects.Deletion
import Manbaa.Lib.Deduplication
import Manbaa.Nats.Publisher
import Manbaa.Applications.SchemaValidator
import Manbaa.Applications.ContentScan
import Manbaa.Applications.Service
import Manbaa.Storage.SourcePath
import Manbaa.Sources.Filename
import Manbaa.Skills.Embeddings
import Manbaa.Skills.Imports
import Manbaa.Canvases.PreviewBursts
import Manbaa.Canvases.PreviewAlone
import Manbaa.Documents.MimeType
import Manbaa.Applications.StoredSchema
import Manbaa.Applications.Steps
import Manbaa.Applications.Identity
import Manbaa.Applications.Trail
import Manbaa.Lib.JsonParse
import Manbaa.Jobs.Canonical
import Manbaa.Jobs.Snapshot
import Manbaa.Lib.JsonContents
import Manbaa.Lib.PatternLanguage
import Manbaa.Jobs.SnapshotContents
import Manbaa.Jobs.SnapshotSafety
import Manbaa.Jobs.SnapshotBytes
import Manbaa.Audit.Export
import Manbaa.Workflows.Diff
import Manbaa.Rules.SessionContext
import Manbaa.Rules.Freshness
import Manbaa.Applications.Publication
import Manbaa.Applications.Revisions
import Manbaa.Rules.History
import Manbaa.Rules.Import
import Manbaa.Lib.Expiring
import Manbaa.Core.InternalAuth
import Manbaa.Lib.OnceOnly
import Manbaa.Lib.Contract
import Manbaa.Lib.JsonFields
import Manbaa.Health.Heartbeats
import Manbaa.Comments.Threads
import Manbaa.Workflows.Sharing
import Manbaa.Lib.SoundRows
import Manbaa.Assets.Lifecycle
import Manbaa.Outbox.Delivery
import Manbaa.Outbox.Leases
import Manbaa.Concepts.Lifecycle
import Manbaa.Workspaces.Access
import Manbaa.Lib.Pages
import Manbaa.Audit.Pages
import Manbaa.Documents.ObjectKeys
import Manbaa.Documents.Objects
import Manbaa.Rules.Bundles
