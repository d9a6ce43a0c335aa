import Tanos.Library.Runs
import Tanos.Library.Polling
import Tanos.Library.PeriodicGrid
import Tanos.Library.LittleEndian
import Tanos.Attributes.Timespec
import Tanos.Utils.ConfigReader
import Tanos.DataSharing.MessageNet
import Tanos.Protocols.NetworkResourceRequest
import Tanos.Protocols.RmWiredPayload
import Tanos.Messages
import Tanos.RmCommunication
import Tanos.Rm.Timestamps
import Tanos.Rm.NetLayerRM
import Tanos.Rm.ModeChange
import Tanos.Rm.SingleClient
import Tanos.Rm.ReconfigurationWindow
import Tanos.Rm.TargetHyperperiod
import Tanos.Rm.HyperperiodGrid
import Tanos.Rm.ScheduleAnchor
import Tanos.TrafficGenerator
import Tanos.Rm.SlotExclusivity
import Tanos.Client.TimedLoops
import Tanos.Client.Endnode
import Tanos.Client.Switch
import Tanos.Client.TimedCommands
import Tanos.Client.TwoStepReconfiguration
import Tanos.Client.ReconfigureDone
import Tanos.Rm.ResourceRequest
import Tanos.Rm.TimestampDelivery
import Tanos.ReceiveLoop
import Tanos.Client.ControlQueue
import Tanos.DataMessage
import Tanos.Sender.SendObjects
import Tanos.Sender.Objects
import Tanos.Sender.ModeInForce
import Tanos.Sender.SynchronousSender
import Tanos.Sender.PayloadCoverage
import Tanos.Sender.AsynchronousSender
import Tanos.Sender.SendingGate
import Tanos.Sender.PeriodAnchor
import Tanos.Sender.StopProgress
import Tanos.Sender.UnknownMode
import Tanos.Rm.Dispatch
import Tanos.Rm.Release
import Tanos.Rm.ExperimentLoop
import Tanos.ControlCodec
import Tanos.Rm.CommandedMode
import Tanos.PayloadSize
import Tanos.Protocols.RequestTransfer
import Tanos.Rm.ConfiguredSlots
import Tanos.Sender.Pacing
import Tanos.Sender.UnsetMembers
import Tanos.Client.SignalHandler
import Tanos.MessageLength
import Tanos.TrafficSink
import Tanos.Rm.ScheduleFaults
import Tanos.Rm.TimestampInverse
import Tanos.Utils.TimerEvents
import Tanos.Utils.TimerLookups
import Tanos.Utils.LiveTimers
import Tanos.Utils.PropertyTree
import Tanos.Utils.ConfigLoaders
import Tanos.Rm.ServiceLookups
import Tanos.Startup
import Tanos.Rm.ReconfigurationLead
import Tanos.Sender.PacketCount
import Tanos.Sender.MessageBuffer
import Tanos.SendFunctions
import Tanos.Protocols.TruncatedPayload
import Tanos.DataSharing.BufferCursor
import Tanos.Protocols.PayloadSetters
import Tanos.Protocols.TxParam
import Tanos.Utils.ClientIds
import Tanos.DataSharing.SafeQueue
import Tanos.Attributes.Uuid
import Tanos.DataSharing.FieldSequences
import Tanos.Library.OrderedTraversal
import Tanos.Library.Network
import Tanos.Rm.ServiceLoop
import Tanos.Rm.Process
import Tanos.Rm.UninterruptedRounds
import Tanos.Rm.TimerSteps
import Tanos.Rm.Transcript
import Tanos.Rm.Completion
import Tanos.Client.ClientProcess
import Tanos.Client.Interruption
import Tanos.Client.Session
import Tanos.Client.Quiescence
import Tanos.Sender.AdoptedSettings
import Tanos.Sender.ObjectRate
import Tanos.Library.Stuttering
import Tanos.Sender.SenderRefinement
import Tanos.Sender.PacketHeader
import Tanos.System.Deployment
import Tanos.System.ControlPlane
import Tanos.System.ClientSafety
import Tanos.System.Safety
import Tanos.System.DataPlane
import Tanos.System.Installation
