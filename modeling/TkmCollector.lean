import TkmCollector.Library.Machine
import TkmCollector.Library.History
import TkmCollector.Library.Mirror
import TkmCollector.Library.Unwinding
import TkmCollector.Library.References
import TkmCollector.Library.SqlText
import TkmCollector.Library.LikePattern
import TkmCollector.Library.Varint
import TkmCollector.Message
import TkmCollector.Request
import TkmCollector.MonitorDevice
import TkmCollector.Helpers
import TkmCollector.Schema
import TkmCollector.Query
import TkmCollector.Statement
import TkmCollector.Database
import TkmCollector.Collector
import TkmCollector.Channel
import TkmCollector.ControlClient
import TkmCollector.Dispatcher
import TkmCollector.Application
import TkmCollector.ControlApp
import TkmCollector.Exchange
import TkmCollector.CollectorMain
import TkmCollector.Proofs.QuerySchema
import TkmCollector.Proofs.QueryEncoding
import TkmCollector.Proofs.HashMatching
import TkmCollector.Proofs.DeviceIdentity
import TkmCollector.Proofs.DescriptorFrames
import TkmCollector.Proofs.Dispatch
import TkmCollector.Proofs.DeviceFrame
import TkmCollector.Proofs.NullConnection
import TkmCollector.Proofs.Coherence
import TkmCollector.Proofs.FailedConnect
import TkmCollector.Proofs.LaneTimers
import TkmCollector.Proofs.LaneSources
import TkmCollector.Proofs.DeviceQueues
import TkmCollector.Proofs.DatabaseFrame
import TkmCollector.Proofs.DispatcherFrame
import TkmCollector.Proofs.CollectorFrame
import TkmCollector.Proofs.CalmRuns
import TkmCollector.Proofs.Conservation
import TkmCollector.Proofs.ChannelFrame
import TkmCollector.Proofs.Announced
import TkmCollector.Proofs.SessionRows
import TkmCollector.Proofs.OpenSessions
import TkmCollector.Proofs.Isolation
import TkmCollector.Proofs.Attribution
import TkmCollector.Proofs.SessionBooks
import TkmCollector.Proofs.Delivery
import TkmCollector.Proofs.Orders
import TkmCollector.Proofs.HashUniqueness
import TkmCollector.Proofs.ErrorReplies
import TkmCollector.Proofs.DataBatches
import TkmCollector.Proofs.SessionLists
import TkmCollector.Proofs.ReferentialIntegrity
import TkmCollector.Proofs.ApplicationFrame
import TkmCollector.Proofs.QueueContents
import TkmCollector.Proofs.WithoutRequest
import TkmCollector.Proofs.HandlerResults
import TkmCollector.Proofs.OneAnswer
import TkmCollector.Proofs.ControlUtility
import TkmCollector.Proofs.ListsFirst
import TkmCollector.Proofs.ListClients
import TkmCollector.Proofs.ListsPrinted
import TkmCollector.Proofs.QueuedOrders
import TkmCollector.Proofs.BackendAgreement
import TkmCollector.Proofs.DefaultMessages
import TkmCollector.Proofs.MalformedPayloads
import TkmCollector.Proofs.EndTimes
import TkmCollector.Proofs.RegistrySync
import TkmCollector.Proofs.ReadYourWrites
import TkmCollector.Proofs.SessionLives
import TkmCollector.Proofs.CollectingSessions
import TkmCollector.Proofs.OkayDelivered
import TkmCollector.Proofs.SameSocket
import TkmCollector.Proofs.DeviceMap
import TkmCollector.Proofs.ConnectionRecovery
import TkmCollector.Proofs.OpenConnection
import TkmCollector.Proofs.RowWriting
import TkmCollector.Proofs.ControlOptions
import TkmCollector.Proofs.Quitting
import TkmCollector.Proofs.AnswersInOrder
import TkmCollector.Proofs.Inventory
import TkmCollector.Proofs.UtilitySession
import TkmCollector.Proofs.ExchangeFrame
import TkmCollector.Proofs.UtilityEnds
import TkmCollector.Proofs.Provenance
import TkmCollector.Proofs.Layers
import TkmCollector.Proofs.StartUp
import TkmCollector.Proofs.Timelines
import TkmCollector.Proofs.Recordings
import TkmCollector.Proofs.Outages
