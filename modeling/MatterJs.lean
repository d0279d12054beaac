import MatterJs.Protocol.MessageCounter
import MatterJs.Protocol.BtpAcknowledgements
import MatterJs.Protocol.ForgedPackets
import MatterJs.Protocol.ReliableDelivery
import MatterJs.Broker.LostUpdates
import MatterJs.Broker.PublishedAverage
import MatterJs.Broker.SeparateSources
import MatterJs.Broker.SensorProxies
import MatterJs.Protocol.PayloadRoundTrip
import MatterJs.Protocol.RolloverWindow
import MatterJs.Types.TruncatedStream
import MatterJs.Types.StringRoundTrip
import MatterJs.Protocol.GrantedPrivileges
import MatterJs.Protocol.AccessEnforcers
import MatterJs.Types.Base38
import MatterJs.Protocol.FailsafeRollback
import MatterJs.Protocol.InvokeHandling
import MatterJs.Protocol.SubscriptionUpdates
import MatterJs.Protocol.NonvolatileEventStore
import MatterJs.Protocol.FabricScopedReports
import MatterJs.General.Deadlocks
import MatterJs.General.TransactionRelease
import MatterJs.Protocol.WriteStatuses
import MatterJs.Protocol.PaseServer
import MatterJs.Protocol.DeviceCommissioner
import MatterJs.Protocol.MdnsBroadcaster
import MatterJs.Protocol.MdnsServer
import MatterJs.Node.EndpointStoreService
import MatterJs.Node.ForeignEntries
import MatterJs.Model.ConformanceDefinitions
import MatterJs.Node.ConformanceRefinement
import MatterJs.Protocol.RemoveCallbacks
import MatterJs.General.AsyncCache
import MatterJs.Nodejs.StorageBackendJsonFile
import MatterJs.Nodejs.LastOperation
import MatterJs.Protocol.SessionResumption
import MatterJs.Protocol.RemovedFabrics
import MatterJs.Node.CommissioningWindow
import MatterJs.Node.ConformanceApplicability
import MatterJs.Model.ConstraintRoundTrip
import MatterJs.Node.ChangingEvents
import MatterJs.Protocol.Retransmissions
import MatterJs.Protocol.FabricIndexAllocation
import MatterJs.Protocol.ChannelManager
import MatterJs.General.QueuedItems
import MatterJs.General.IndexedSet
import MatterJs.Protocol.MdnsExpiry
import MatterJs.Protocol.DiscoveryQueries
import MatterJs.Protocol.UpdatedFabric
import MatterJs.Protocol.TagCompression
import MatterJs.Protocol.ChunkedAttributes
import MatterJs.Types.BitmapSchema
import MatterJs.Protocol.ReportAnswers
import MatterJs.Protocol.SendingIntervals
import MatterJs.General.StructuralEquality
import MatterJs.Protocol.BtpAckTimer
import MatterJs.General.AaaaRecord
import MatterJs.Types.MistypedCodes
import MatterJs.Types.QrCodeSchema
import MatterJs.General.ReedSolomon
import MatterJs.General.DerEncoding
import MatterJs.General.MaybePromise
import MatterJs.General.QuietObservable
import MatterJs.General.PreCommit
import MatterJs.General.ObservableIteration
import MatterJs.Node.SwitchServer
