import GroundTruth.Lib.Run
import GroundTruth.Lib.Resource
import GroundTruth.Acd.Client
import GroundTruth.Acd.Wire
import GroundTruth.Acd.Device
import GroundTruth.Acd.Safety
import GroundTruth.Acd.Defence
import GroundTruth.Acd.Events
import GroundTruth.Acd.Retry
import GroundTruth.Acd.Budget
import GroundTruth.Acd.RateLimit
import GroundTruth.Acd.Sequence
import GroundTruth.Acd.Activity
import GroundTruth.Acd.Life
import GroundTruth.Acd.Window
import GroundTruth.Lib.Bytes
import GroundTruth.Lib.Words
import GroundTruth.Lib.Memory
import GroundTruth.Modbus.RegisterMap
import GroundTruth.Lib.Recv
import GroundTruth.Modbus.Protocol
import GroundTruth.Modbus.Segment
import GroundTruth.Modbus.Frame
import GroundTruth.Modbus.Server
import GroundTruth.Modbus.Enable
import GroundTruth.Lib.CString
import GroundTruth.Ota.Manager
import GroundTruth.Ota.Upload
import GroundTruth.Ota.Marks
import GroundTruth.Ota.Extract
import GroundTruth.Ota.Complete
import GroundTruth.Ota.Erase
import GroundTruth.Ota.Guard
import GroundTruth.Ota.Task
import GroundTruth.Ota.Lifetime
import GroundTruth.Ota.Exclusion
import GroundTruth.Ota.Status
import GroundTruth.Tcpip.Object
import GroundTruth.Tcpip.Nv
import GroundTruth.Tcpip.Attributes
import GroundTruth.Tcpip.Web
import GroundTruth.Tcpip.Boot
import GroundTruth.Tcpip.Device
import GroundTruth.Tcpip.Accept
import GroundTruth.Tcpip.Keep
import GroundTruth.Tcpip.RoundTrip
import GroundTruth.Tcpip.Persistence
import GroundTruth.Tcpip.Reset
import GroundTruth.Tcpip.Normal
import GroundTruth.Opener.Lifecycle
import GroundTruth.Cip.Count
import GroundTruth.Cip.Identity
import GroundTruth.Cip.Statistics
import GroundTruth.Assembly.Lock
import GroundTruth.Web.Json
import GroundTruth.Web.Setting
import GroundTruth.Imu.Offset
import GroundTruth.Imu.Enable
import GroundTruth.Web.Handlers
import GroundTruth.Modbus.Access
import GroundTruth.Cip.Consume
import GroundTruth.Tcpip.Bounds
import GroundTruth.Tcpip.Name
import GroundTruth.Tcpip.Strings
import GroundTruth.Opener.Start
import GroundTruth.Ota.Progress
import GroundTruth.Lib.Chain
import GroundTruth.Acd.Registration
import GroundTruth.Acd.Evidence
import GroundTruth.Tcpip.Atomic
import GroundTruth.Tcpip.Quad
import GroundTruth.Tcpip.Consistent
import GroundTruth.Lib.Mask
import GroundTruth.Cip.Attribute
import GroundTruth.Cip.EthernetLink
import GroundTruth.Cip.GetAll
import GroundTruth.Lib.Reader
import GroundTruth.Discovery.ListIdentity
import GroundTruth.Discovery.Parse
import GroundTruth.Imu.Block
import GroundTruth.Imu.Placement
import GroundTruth.Lib.Ring
import GroundTruth.Log.Buffer
import GroundTruth.Acd.Context
import GroundTruth.Led.Flash
import GroundTruth.Lib.Field
import GroundTruth.Lib.Mean
import GroundTruth.Lsm6ds3.Calibration
import GroundTruth.Lsm6ds3.Reader
import GroundTruth.Mpu6050.Range
import GroundTruth.Nau7802.Average
import GroundTruth.Nau7802.Calibration
import GroundTruth.Lib.Doubly
import GroundTruth.Cip.ConnectionList
import GroundTruth.Lib.Table
import GroundTruth.Lib.Outcome
import GroundTruth.Encap.Session
import GroundTruth.Encap.Hang
import GroundTruth.Lib.Serial
import GroundTruth.Encap.Cpf
import GroundTruth.Cip.Channel
import GroundTruth.Encap.Explicit
import GroundTruth.Cip.Request
import GroundTruth.Cip.ConnectionPath
import GroundTruth.Cip.Timing
import GroundTruth.Encap.Framing
