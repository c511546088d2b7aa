import Mingfwq.Lib.System
import Mingfwq.IOManager.Theorems
import Mingfwq.ByteArray.Theorems
import Mingfwq.Scheduler.Theorems
import Mingfwq.Hook.Theorems
import Mingfwq.Http.Theorems.ContentLength
import Mingfwq.Http.Theorems.KeepAlive
import Mingfwq.Http.Theorems.RequestSegments
import Mingfwq.Http.Theorems.ResponseSegments
import Mingfwq.Http.Theorems.Chunks
import Mingfwq.FdManager.Theorems
import Mingfwq.Descriptors.Theorems
import Mingfwq.Timer.Theorems
import Mingfwq.Idle.Theorems
import Mingfwq.ByteArray.Refinement
import Mingfwq.ByteArray.Varints
import Mingfwq.ByteArray.FixedWidths
import Mingfwq.ByteArray.Strings
import Mingfwq.Config.Theorems.Listeners
import Mingfwq.Socket.Theorems
import Mingfwq.Http.Theorems.Pool
import Mingfwq.Config.Theorems.Load
import Mingfwq.Config.Theorems.FromString
import Mingfwq.Log.Theorems.Listener
import Mingfwq.Log.Theorems.RoundTrip
import Mingfwq.Timer.Expiry
import Mingfwq.Idle.Timeout
import Mingfwq.Hook.Sleep
import Mingfwq.Stream.FixSize
import Mingfwq.ByteArray.Buffers
import Mingfwq.ByteArray.ReadAt
import Mingfwq.ByteArray.File
import Mingfwq.ByteArray.Compound
import Mingfwq.Scheduler.Conservation
import Mingfwq.Scheduler.Pins
import Mingfwq.Http.Theorems.Dump
import Mingfwq.Hook.Nonblock
import Mingfwq.Http.Theorems.Method
import Mingfwq.Http.Theorems.Selection
import Mingfwq.Http.Theorems.Servlet
import Mingfwq.Http.Theorems.DoRequest
import Mingfwq.Http.Theorems.Memory
import Mingfwq.Http.Theorems.Contract
import Mingfwq.Address.Theorems.Order
import Mingfwq.Address.Theorems.Netmask
import Mingfwq.Address.Theorems.Insert
import Mingfwq.Address.Theorems.Lookup
import Mingfwq.TcpServer.Theorems
import Mingfwq.Log.Theorems.Pattern
import Mingfwq.Log.Theorems.Attachment
import Mingfwq.Uri.Theorems
import Mingfwq.Uri.Forms
import Mingfwq.Scheduler.Assertions
import Mingfwq.Http.Theorems.ResponseDump
import Mingfwq.Stream.Message
