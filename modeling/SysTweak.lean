import SysTweak.Transition.Run
import SysTweak.Transition.Cells
import SysTweak.Transition.Episode
import SysTweak.Transition.Monitor
import SysTweak.Ledger.Core
import SysTweak.Ledger.Slots
import SysTweak.Memory.Owner
import SysTweak.Memory.Pool
import SysTweak.Memory.Counted
import SysTweak.Register.Latest
import SysTweak.Register.Records
import SysTweak.Layout.Struct
import SysTweak.Layout.Members
import SysTweak.Layout.Places
import SysTweak.Bytes.Memory
import SysTweak.Bytes.Buffer
import SysTweak.Bytes.CString
import SysTweak.Bytes.Hex
import SysTweak.Bytes.Reading
import SysTweak.Bytes.Lines
import SysTweak.Ini.Text
import SysTweak.Ini.Parser
import SysTweak.Ini.KeyLine
import SysTweak.Ini.Document
import SysTweak.Ini.LineEnds
import SysTweak.Platform.Libnx
import SysTweak.Platform.Clock
import SysTweak.Platform.Thread
import SysTweak.Vcon.Packet
import SysTweak.Vcon.Controller
import SysTweak.Vcon.Service
import SysTweak.Vcon.Table
import SysTweak.Vcon.Session
import SysTweak.Vcon.Worker
import SysTweak.Vcon.Abort
import SysTweak.Vcon.Delivery
import SysTweak.Vcon.Conservation
import SysTweak.Vcon.Isolation
import SysTweak.Vcon.Ordering
import SysTweak.Vcon.Stream
import SysTweak.Vcon.Expiry
import SysTweak.Vcon.Timed
import SysTweak.Vcon.Sockets
import SysTweak.Vcon.Restarts
import SysTweak.Hotkey.Service
import SysTweak.Hotkey.Combo
import SysTweak.Hotkey.Trace
import SysTweak.Nacp.Layout
import SysTweak.Nacp.Service
import SysTweak.Nacp.Paths
import SysTweak.Nacp.Overlay
import SysTweak.Nacp.Visible
import SysTweak.Nacp.Config
import SysTweak.Lifecycle.Service
import SysTweak.Lifecycle.Stages
import SysTweak.Lifecycle.Discipline
import SysTweak.Lifecycle.InStep
import SysTweak.Startup.FileUtils
import SysTweak.Waiting.Manager
import SysTweak.Waiting.Wakeups
import SysTweak.Waiting.Loop
import SysTweak.Waiting.Rounds
import SysTweak.Sf.RawData
import SysTweak.Sf.Results
import SysTweak.Sf.Message
import SysTweak.Sf.Dispatch
import SysTweak.Sf.Arguments
import SysTweak.Sf.Forwarding
import SysTweak.Mitm.Services
import SysTweak.Mitm.Manager
import SysTweak.Mitm.Transparency
import SysTweak.Mitm.Ownership
import SysTweak.Mitm.Sessions
import SysTweak.Mitm.Ports
import SysTweak.Mitm.Requests
import SysTweak.Mitm.Loop
import SysTweak.Mitm.Runs
import SysTweak.Mitm.Isolation
import SysTweak.Mitm.Ends
import SysTweak.Waiting.Manager
import SysTweak.Waiting.Wakeups
import SysTweak.Waiting.Loop
import SysTweak.Waiting.Rounds
