import Webfuse.Basis.BigEndian
import Webfuse.Basis.Channel
import Webfuse.Basis.Counter
import Webfuse.Basis.Decimal
import Webfuse.Basis.Delimited
import Webfuse.Basis.Fairness
import Webfuse.Basis.Leases
import Webfuse.Basis.Ledger
import Webfuse.Basis.Machine
import Webfuse.Basis.Masks
import Webfuse.Basis.Pipeline
import Webfuse.Basis.Refinement
import Webfuse.Basis.Scan
import Webfuse.Basis.Simulation
import Webfuse.Basis.Splice
import Webfuse.Basis.Walk
import Webfuse.Client.Answered
import Webfuse.Client.Callback
import Webfuse.Client.Exchange
import Webfuse.Client.Url
import Webfuse.Filesystem.Calls
import Webfuse.Filesystem.Flags
import Webfuse.Filesystem.Interface
import Webfuse.Filesystem.Translation
import Webfuse.Fuse.Content
import Webfuse.Fuse.Descriptors
import Webfuse.Fuse.Operations
import Webfuse.Fuse.Readdir
import Webfuse.Message.Blocks
import Webfuse.Message.Bounds
import Webfuse.Message.Codec
import Webfuse.Message.Fields
import Webfuse.Message.Reader
import Webfuse.Message.Strings
import Webfuse.Message.Target
import Webfuse.Message.Types
import Webfuse.Message.Width
import Webfuse.Message.Writer
import Webfuse.Provider.Calls
import Webfuse.Provider.Containment
import Webfuse.Provider.Dispatch
import Webfuse.Provider.Files
import Webfuse.Provider.Links
import Webfuse.Provider.Main
import Webfuse.Provider.OnMessage
import Webfuse.Provider.Paths
import Webfuse.Server.Authentication
import Webfuse.Server.Authenticator
import Webfuse.Server.Config
import Webfuse.Server.Exchange
import Webfuse.Server.Exclusive
import Webfuse.Server.Handler
import Webfuse.Server.Harmless
import Webfuse.Server.History
import Webfuse.Server.Ids
import Webfuse.Server.Interference
import Webfuse.Server.Kind
import Webfuse.Server.Numbers
import Webfuse.Server.Options
import Webfuse.Server.Order
import Webfuse.Server.Outcome
import Webfuse.Server.Perform
import Webfuse.Server.Reassembly
import Webfuse.Server.Rejected
import Webfuse.Server.Sessions
import Webfuse.Service.Counts
import Webfuse.Service.Fallback
import Webfuse.Service.Filesystem
import Webfuse.Util.CommandLine
import Webfuse.Util.Text
import Webfuse.Wire.Arguments
import Webfuse.Wire.Delimited
import Webfuse.Wire.Remote
import Webfuse.Wire.Request
import Webfuse.Wire.Response
import Webfuse.Wire.Transparency
import Webfuse.World.Atomic
import Webfuse.World.Credentials
import Webfuse.World.Durable
import Webfuse.World.Linearizable
import Webfuse.World.Machine
import Webfuse.World.Progress
import Webfuse.World.Sequential
import Webfuse.World.Steps
import Webfuse.World.Traffic
