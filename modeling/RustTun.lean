import RustTun.Base.Run
import RustTun.Base.Scatter
import RustTun.Base.Search
import RustTun.Base.Slice
import RustTun.Base.Call
import RustTun.Base.Triple
import RustTun.Base.Erasure
import RustTun.Base.Agreement
import RustTun.Base.Utf8
import RustTun.Base.Utf16
import RustTun.Base.VectoredIo
import RustTun.Base.Shared
import RustTun.Base.Readiness
import RustTun.Base.Retry
import RustTun.Base.Channel
import RustTun.Base.Decimal
import RustTun.Base.IpText
import RustTun.Base.Dotted
import RustTun.Base.Memory
import RustTun.Error
import RustTun.Net
import RustTun.Posix.Fd
import RustTun.Posix.Split
import RustTun.Posix.Ownership
import RustTun.Posix.Lifetime
import RustTun.Posix.Closing
import RustTun.Posix.Wire
import RustTun.Posix.Transparent
import RustTun.Posix.Traffic
import RustTun.Posix.Nonblocking
import RustTun.Posix.Sockaddr
import RustTun.Utils
import RustTun.Configuration
import RustTun.Address
import RustTun.Builder
import RustTun.Spelling
import RustTun.Posix.Process
import RustTun.Posix.IfName
import RustTun.Posix.RouteTool
import RustTun.Linux.Device
import RustTun.Linux.Descriptors
import RustTun.Linux.RoundTrip
import RustTun.Linux.Ifreq
import RustTun.Linux.Interfaces
import RustTun.Linux.Name
import RustTun.Linux.Raw
import RustTun.Linux.Encoding
import RustTun.Linux.Getters
import RustTun.FreeBsd.Device
import RustTun.FreeBsd.Alias
import RustTun.FreeBsd.Atomic
import RustTun.FreeBsd.Name
import RustTun.FreeBsd.Probe
import RustTun.MacOs.Device
import RustTun.MacOs.Routes
import RustTun.MacOs.Name
import RustTun.Windows.Tun
import RustTun.Windows.Send
import RustTun.Windows.Device
import RustTun.Platform.Vectored
import RustTun.Platform.Fragments
import RustTun.Platform.Ipv4Only
import RustTun.Platform.Created
import RustTun.Platform.GivenFd
import RustTun.Async.Writer
import RustTun.Async.Codec
import RustTun.Async.Poll
import RustTun.Windows.AsyncReader
import RustTun.Windows.ReaderDrop
import RustTun.Windows.Lifetime
import RustTun.Windows.Traffic
import RustTun.Windows.VerifyDllFile
import RustTun.Windows.Create
