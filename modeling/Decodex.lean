import Decodex.Library.Bytes
import Decodex.Library.Except
import Decodex.Library.FileSystem
import Decodex.Library.Json
import Decodex.Library.JsonText
import Decodex.Library.LeastUnused
import Decodex.Library.Paging
import Decodex.Library.RecursiveQuery
import Decodex.Library.Receipts
import Decodex.Library.Run
import Decodex.Library.Script
import Decodex.Library.Segments
import Decodex.Library.Table
import Decodex.Library.TableCodec
import Decodex.Source.Core.Identity
import Decodex.Source.Core.Blob
import Decodex.Source.Core.ClientDrafts
import Decodex.Source.Core.Routing
import Decodex.Source.Core.ContextPacks
import Decodex.Source.Core.ProviderAttempt
import Decodex.Source.Core.ProcessGeneration
import Decodex.Source.Core.Conversation
import Decodex.Source.Core.Work
import Decodex.Source.Core.AgentWork
import Decodex.Source.Core.AgentInbox
import Decodex.Source.Store.Error
import Decodex.Source.Store.Schema
import Decodex.Source.Store.AgentDependencies
import Decodex.Source.Store.ContextPackRows
import Decodex.Source.Store.ConversationStatements
import Decodex.Source.Store.HistoryEntries
import Decodex.Source.Store.Conversations
import Decodex.Source.Store.TurnChanges
import Decodex.Source.Store.ProviderAttempts
import Decodex.Source.Store.ProcessGenerations
import Decodex.Source.Store.AgentProcess
import Decodex.Source.Store.ThreadStarts
import Decodex.Source.Store.ContinuationPlans
import Decodex.Source.Store.ThreadStartChanges
import Decodex.Source.Store.RoutingJson
import Decodex.Source.Store.ConversationRouting
import Decodex.Source.Store.Works
import Decodex.Source.Store.WorkCommands
import Decodex.Source.Store.WorkChanges
import Decodex.Source.Store.AgentSlots
import Decodex.Source.Store.AgentDispatch
import Decodex.Source.Store.AgentCalls
import Decodex.Source.Store.AgentMoves
import Decodex.Source.Store.PromptUploads
import Decodex.Source.Gpui.CacheIndex
import Decodex.Source.Gpui.CacheDirectory
import Decodex.Source.Gpui.CacheContents
import Decodex.Source.Gpui.PageCache
import Decodex.Source.Gpui.CacheChanges
import Decodex.Source.Gpui.CacheEntries
import Decodex.Source.Gpui.CachePublications
import Decodex.Source.Gpui.ClientCachePublication
import Decodex.Guarantees.AgentDependencies
import Decodex.Guarantees.Routing
import Decodex.Guarantees.RoutingSnapshots
import Decodex.Guarantees.ConversationRouting
import Decodex.Guarantees.ContextPackFormat
import Decodex.Guarantees.ContextPackCompile
import Decodex.Guarantees.ContextPackAllocation
import Decodex.Guarantees.ContextPackRecency
import Decodex.Guarantees.ContextPackRendering
import Decodex.Guarantees.ProcessGenerations
import Decodex.Guarantees.ProviderAttempts
import Decodex.Guarantees.SettledTurns
import Decodex.Guarantees.HistoryPaging
import Decodex.Guarantees.StrandedTurns
import Decodex.Guarantees.CacheCrashes
import Decodex.Guarantees.CacheLookups
import Decodex.Guarantees.ClientDrafts
import Decodex.Guarantees.Works
import Decodex.Guarantees.WorkHolds
import Decodex.Guarantees.ThreadColumns
import Decodex.Guarantees.ThreadStarts
import Decodex.Guarantees.AgentSlots
import Decodex.Guarantees.PromptUploads
import Decodex.Guarantees.Samples
import Decodex.Guarantees.SentInputs
import Decodex.Guarantees.DispatchFences
import Decodex.Guarantees.RetriesInStep
import Decodex.Guarantees.RetryTriggers
import Decodex.Guarantees.CapacityRetries
import Decodex.Guarantees.QuotaActivations
import Decodex.Guarantees.CacheRefusals
import Decodex.Library.CharBoundary
import Decodex.Library.Retention
import Decodex.Library.JsonValue
import Decodex.Source.Store.AgentOutput
import Decodex.Guarantees.LiveOutput
import Decodex.Source.Gpui.CacheEviction
import Decodex.Guarantees.CacheEviction
import Decodex.Library.Terminated
import Decodex.Source.Core.AgentPromptDraft
import Decodex.Source.Core.PromptEditDraft
import Decodex.Guarantees.PromptEditing
import Decodex.Guarantees.PromptEditStates
import Decodex.Source.Runtime.MacosProcess
import Decodex.Guarantees.ProcessHomes
import Decodex.Guarantees.RoutingValidation
import Decodex.Library.SortedMap
import Decodex.Source.Core.CheckedRouting
import Decodex.Source.Core.DesktopDrafts
import Decodex.Guarantees.ForgottenConversations
import Decodex.Source.Store.AgentUsage
import Decodex.Guarantees.TurnUsage
import Decodex.Library.Joined
import Decodex.Source.Runtime.MessageExcerpts
import Decodex.Guarantees.MessageSelection
import Decodex.Guarantees.MessageExcerpts
import Decodex.Library.KeyedMap
import Decodex.Library.IntervalUnion
import Decodex.Library.Pairing
import Decodex.Source.Codex.ObservedTiming
import Decodex.Guarantees.TimingSteps
import Decodex.Guarantees.TimingReceipts
import Decodex.Guarantees.TurnTiming
import Decodex.Library.JsonSchema
import Decodex.Source.Protocol.McpElicitation
import Decodex.Guarantees.FormFields
import Decodex.Guarantees.FormAnswers
import Decodex.Guarantees.FormResponses
import Decodex.Guarantees.SessionTasks
import Decodex.Guarantees.SessionCompletions
import Decodex.Guarantees.OwnerOrder
import Decodex.Guarantees.AcceptingOwner
import Decodex.Guarantees.CommandService
import Decodex.Guarantees.ServedCommands
import Decodex.Source.Protocol.SessionMessages
import Decodex.Source.Runtime.OwnedSessions
import Decodex.Source.Runtime.PublicationOwner
import Decodex.Guarantees.PublicationStream
import Decodex.Guarantees.SubscribedSessions
