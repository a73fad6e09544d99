import X0xCompute.Capability
import X0xCompute.Capability.Format
import X0xCompute.Config
import X0xCompute.Config.Commands
import X0xCompute.Config.Format
import X0xCompute.Config.Store
import X0xCompute.Daemon
import X0xCompute.Daemon.Endpoints
import X0xCompute.Daemon.Requests
import X0xCompute.Daemon.Reservations
import X0xCompute.Daemon.Restart
import X0xCompute.Daemon.Routes
import X0xCompute.Daemon.Runs
import X0xCompute.Daemon.Threads
import X0xCompute.Error
import X0xCompute.Foreign
import X0xCompute.Http
import X0xCompute.Lib.Decimal
import X0xCompute.Lib.Guarded
import X0xCompute.Lib.Hex
import X0xCompute.Lib.Json
import X0xCompute.Lib.KeyedWrite
import X0xCompute.Lib.Ledger
import X0xCompute.Lib.Machine
import X0xCompute.Lib.Numbering
import X0xCompute.Lib.Saturating
import X0xCompute.Lib.Sorted
import X0xCompute.Lib.Text
import X0xCompute.Lib.Threads
import X0xCompute.Lib.Toml
import X0xCompute.Lib.TreeMap
import X0xCompute.Lib.Utf8
import X0xCompute.Mesh
import X0xCompute.Mesh.Admission
import X0xCompute.Mesh.Announce
import X0xCompute.Mesh.Canonical
import X0xCompute.Mesh.Census
import X0xCompute.Mesh.Exactness
import X0xCompute.Mesh.History
import X0xCompute.Mesh.Isolation
import X0xCompute.Mesh.Policy
import X0xCompute.Mesh.Provenance
import X0xCompute.Mesh.Retention
import X0xCompute.Mesh.Wire
import X0xCompute.Network
import X0xCompute.Network.Announcements
import X0xCompute.Network.Authentic
import X0xCompute.Network.Listing
import X0xCompute.Network.Startup
import X0xCompute.Primitive
import X0xCompute.Runtime
import X0xCompute.Runtime.Calls
import X0xCompute.Runtime.Capacity
import X0xCompute.Runtime.Chat
import X0xCompute.Runtime.Clients
import X0xCompute.Runtime.Format
import X0xCompute.Runtime.Ids
import X0xCompute.Runtime.Inventory
import X0xCompute.Runtime.Isolation
import X0xCompute.Runtime.Lifecycle
import X0xCompute.Runtime.Listing
import X0xCompute.Runtime.Refinement
import X0xCompute.Runtime.Reuse
import X0xCompute.Runtime.Threads
import X0xCompute.Startup
import X0xCompute.Startup.Commands
import X0xCompute.Startup.Order
import X0xCompute.Startup.Service
import X0xCompute.X0xIdentity
import X0xCompute.X0xIdentity.Codec
import X0xCompute.Lib.Guards
