import Conniver.Lib.Machine
import Conniver.Lib.Decimal
import Conniver.Go.Basic
import Conniver.Go.Fmt
import Conniver.Kernel.Version
import Conniver.Kernel.Release
import Conniver.Lib.Layout
import Conniver.Tcpinfo.Info
import Conniver.Tcpinfo.Linux.Raw
import Conniver.Lib.Scan
import Conniver.Tcpinfo.Linux.Init
import Conniver.Tcpinfo.Linux.SysInfo
import Conniver.Tcpinfo.Linux.Unpack
import Conniver.Tcpinfo.Linux.Availability
import Conniver.Tcpinfo.Linux.GetTCPInfo
import Conniver.Tcpinfo.Windows
import Conniver.Tcpinfo.Darwin
import Conniver.Lib.Events
import Conniver.Wrap.Conn
import Conniver.Wrap.Protocol
import Conniver.Wrap.Accounting
import Conniver.Osversion
import Conniver.Lib.Word
import Conniver.Kernel.Windows
import Conniver.Lib.Affix
import Conniver.Go.Strings
import Conniver.Os.Linux
import Conniver.Wrap.Linux
import Conniver.Os.Windows
import Conniver.Lib.Sorting
import Conniver.Httpstat
