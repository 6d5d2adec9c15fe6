import Milkspider.Common.Limits
import Milkspider.Ring.SharedBuffer
import Milkspider.Ring.SingleConsumer
import Milkspider.Ring.DualDrain
import Milkspider.Safety.FaultFlags
import Milkspider.Safety.Watchdog
import Milkspider.Protocol.Crc16
import Milkspider.Protocol.Crc16Polynomial
import Milkspider.Protocol.PosePacket
import Milkspider.Protocol.Receive
import Milkspider.Runtime.MuscleV1
import Milkspider.Brain.Daemon
import Milkspider.Brain.TaskManager
import Milkspider.Brain.SerialControl
import Milkspider.Brain.ScanController
import Milkspider.Brain.ObstacleAvoidance
import Milkspider.System.Link
import Milkspider.System.Commands
import Milkspider.System.JsonFields
import Milkspider.System.ScanCommands
import Milkspider.Brain.JsonProtocol
import Milkspider.Brain.SequencePlayback
import Milkspider.System.WebSocket
import Milkspider.System.WsTransport
import Milkspider.System.WsHandshake
import Milkspider.Motion.Interpolator
import Milkspider.Motion.Ticks
import Milkspider.Motion.MotionTask
import Milkspider.System.Delivery
import Milkspider.System.ArchivePipeline
import Milkspider.System.Runtimes
import Milkspider.Eye.EventLink
import Milkspider.Eye.Animator
import Milkspider.Brain.ErrorHandler
