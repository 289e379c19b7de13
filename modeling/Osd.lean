import Osd.Foundation.CString
import Osd.Foundation.Runs
import Osd.Foundation.Table
import Osd.Packet
import Osd.HostCtrl.Controller
import Osd.HostCtrl.Handlers
import Osd.HostCtrl.Bindings
import Osd.HostCtrl.Routing
import Osd.HostCtrl.Robustness
import Osd.HostMod.Connect
import Osd.HostMod.Leases
import Osd.Foundation.Memory
import Osd.Foundation.StreamDecoder
import Osd.Mam.Client
import Osd.Mam.Device
import Osd.Mam.Transfer
import Osd.Mam.Write
import Osd.Mam.Read
import Osd.Gateway.RxThread
import Osd.Gateway.Glip
import Osd.Gateway.Framing
import Osd.Foundation.CursorList
import Osd.Foundation.Heap
import Osd.HostMod.EventBuffer
import Osd.HostMod.Reassembly
import Osd.HostMod.RegAccess
import Osd.HostMod.Pairing
import Osd.Gateway.Threads
import Osd.Gateway.Forwarding
import Osd.Gateway.Registration
import Osd.Gateway.Coupling
import Osd.Gateway.Reconnect
import Osd.HostMod.RegWidth
import Osd.Client.CpuReg
import Osd.Client.StmEvents
import Osd.Gateway.Codec
import Osd.Client.SysTrace
import Osd.Client.Events
import Osd.Mam.Packets
import Osd.Mam.Bursts
import Osd.Mam.Alignment
import Osd.Mam.Assertions
import Osd.Mam.Acknowledge
import Osd.Mam.ReadBounds
import Osd.Client.Modules
import Osd.HostCtrl.Releases
import Osd.PacketEqual
import Osd.Foundation.NumberText
import Osd.HostCtrl.GatewayRequests
import Osd.HostCtrl.Lifecycle
import Osd.HostMod.AddressReply
import Osd.HostMod.Combining
import Osd.PacketFiles
import Osd.Client.CtmEvents
import Osd.Client.Enumeration
import Osd.Client.MamDesc
import Osd.Client.Memories
import Osd.Client.FunctionTable
import Osd.HostMod.SetBit
import Osd.Client.LoadElf
import Osd.HostMod.ReceivePath
import Osd.Client.CoreTrace
import Osd.Client.Terminal
import Osd.PacketLists
import Osd.Worker
import Osd.Gateway.Statistics
import Osd.Foundation.Channel
import Osd.Transport.Accesses
import Osd.Transport.Atomicity
import Osd.HostMod.Sources
import Osd.Transport.EventDelivery
import Osd.Transport.Progress
import Osd.Client.LogFiles
import Osd.Client.TerminalData
import Osd.Transport.Forwarding
import Osd.Transport.TerminalSession
import Osd.WorkerAnswers
import Osd.Client.LoadSession
import Osd.Client.SystemControl
