import Ros2Connect.Lib.Bytes
import Ros2Connect.Lib.KeyMap
import Ros2Connect.Lib.Transition
import Ros2Connect.Lib.Simulation
import Ros2Connect.Lib.Monitor
import Ros2Connect.Lib.VectorWrite
import Ros2Connect.Types
import Ros2Connect.GlobalConfig
import Ros2Connect.Parameters.EnumParser
import Ros2Connect.Parameters.RmwTime
import Ros2Connect.Parameters.Entries
import Ros2Connect.Parameters.InitializeParameters
import Ros2Connect.Parameters.Accepted
import Ros2Connect.Parameters.ReservedTopics
import Ros2Connect.Parameters.ProfileIds
import Ros2Connect.Parameters.QosValues
import Ros2Connect.Parameters.ExecutorThreads
import Ros2Connect.Thread.WaitLoop
import Ros2Connect.Message.Codecs
import Ros2Connect.Message.MessageBase
import Ros2Connect.Message.RclMessage
import Ros2Connect.Message.VectorMessage
import Ros2Connect.Message.ServiceActionMessage
import Ros2Connect.Message.FromMessage
import Ros2Connect.Message.StoreWrites
import Ros2Connect.Message.Decompression
import Ros2Connect.Message.Interchangeable
import Ros2Connect.Connection.ConnectionBase
import Ros2Connect.Connection.SendingQueue
import Ros2Connect.Publisher.PublisherManager
import Ros2Connect.Publisher.PublisherBase
import Ros2Connect.Publisher.Delivery
import Ros2Connect.Publisher.Notifications
import Ros2Connect.Publisher.ThreadedPublisher
import Ros2Connect.Subscriber.SubscriberManager
import Ros2Connect.Subscriber.ClockSubscriber
import Ros2Connect.Subscriber.StopSubscribers
import Ros2Connect.Connection.CallerObligation
import Ros2Connect.ServiceAction.Manager
import Ros2Connect.ServiceAction.Handle
import Ros2Connect.ServiceAction.CallbackGroups
import Ros2Connect.ServiceAction.Stopping
import Ros2Connect.ServiceAction.StopCalls
import Ros2Connect.ServiceAction.StopOrder
import Ros2Connect.Service.ServicePair
import Ros2Connect.Service.Steps
import Ros2Connect.Service.Pairing
import Ros2Connect.Service.SettledPair
import Ros2Connect.Service.PairEnd
import Ros2Connect.Service.ServiceServer
import Ros2Connect.Service.ResponseSlot
import Ros2Connect.Service.SlotSimulation
import Ros2Connect.Service.ServiceClient
import Ros2Connect.Action.ActionPair
import Ros2Connect.Action.Steps
import Ros2Connect.Action.Effects
import Ros2Connect.Action.GoalVerdict
import Ros2Connect.Action.GoalHandle
import Ros2Connect.Action.ResultStream
import Ros2Connect.Action.SettledGoal
import Ros2Connect.Action.AcceptedGoal
import Ros2Connect.Action.ActionClient
import Ros2Connect.Action.CancelAnswers
import Ros2Connect.Action.CancelEntry
import Ros2Connect.Connection.ServerConnection
import Ros2Connect.Connection.Authorization
import Ros2Connect.Connection.EarlyData
import Ros2Connect.Connection.PeerData
import Ros2Connect.Connection.StopConnection
import Ros2Connect.Connection.ConnectionManager
import Ros2Connect.Connection.Server
import Ros2Connect.Connection.OwnMessage
import Ros2Connect.Connection.ClientConnection
import Ros2Connect.Connection.OwnTraffic
import Ros2Connect.Connection.QueueParts
import Ros2Connect.Connection.ClientKey
import Ros2Connect.Connection.Session
import Ros2Connect.Connection.SessionOrder
import Ros2Connect.Connection.SessionAuthorization
import Ros2Connect.Connection.SessionTraffic
import Ros2Connect.Connection.SessionAnswer
import Ros2Connect.Connection.AcceptedSession
import Ros2Connect.Connection.Client
import Ros2Connect.Connection.ClientEnd
import Ros2Connect.Connection.ConnectServer
import Ros2Connect.Connection.ConnectServerEnd
import Ros2Connect.Topic.Subscription
import Ros2Connect.Topic.Pipeline
import Ros2Connect.Topic.PipelineOrder
import Ros2Connect.Topic.CallbackOrder
import Ros2Connect.Topic.IntactFrames
import Ros2Connect.Topic.PipelineEnd
