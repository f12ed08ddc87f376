import Omni.Net.Netip
import Omni.Machine.Remote
import Omni.Machine.Info
import Omni.Machine.Poll
import Omni.Machine.PollSpec
import Omni.Machine.Frame
import Omni.Machine.Filters
import Omni.Machine.Invariant
import Omni.Machine.Isolation
import Omni.Management.Store
import Omni.Management.ServiceAccount
import Omni.Management.Handlers
import Omni.Management.Accounts
import Omni.Management.Directory
import Omni.Management.Schematic
import Omni.Management.Server
import Omni.Management.Logs
import Omni.Management.Config
import Omni.Management.Kubernetes
import Omni.Management.ServerDirectory
