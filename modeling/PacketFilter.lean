import PacketFilter.Kernel.Limiter
import PacketFilter.Library.History
import PacketFilter.Library.Rings
import PacketFilter.Config.Policy
import PacketFilter.Config.Ceiling
import PacketFilter.Kernel.Accounting
import PacketFilter.Kernel.Independence
import PacketFilter.Config.Enforcement
import PacketFilter.Config.Loading
import PacketFilter.Events.FileEventSource
import PacketFilter.Events.Channel
import PacketFilter.Events.Stopping
import PacketFilter.Kernel.Points
import PacketFilter.Kernel.Pool
import PacketFilter.Library.Headcount
import PacketFilter.Kernel.ParallelLimiter
import PacketFilter.Kernel.ParallelStats
import PacketFilter.Kernel.Sources
import PacketFilter.Config.Numerals
import PacketFilter.Kernel.Tightening
import PacketFilter.Config.Streams
import PacketFilter.Config.Files
import PacketFilter.Config.Margins
import PacketFilter.Engine.File
import PacketFilter.Library.Syncing
import PacketFilter.Engine.Reload
import PacketFilter.Engine.Effects
import PacketFilter.Engine.Runs
import PacketFilter.Engine.Recovery
import PacketFilter.Engine.Exits
import PacketFilter.Engine.Nodes
import PacketFilter.Engine.Joining
import PacketFilter.Engine.Report
import PacketFilter.Engine.Watching
import PacketFilter.Events.Descriptors
import PacketFilter.Logging.AccessLogWriter
import PacketFilter.Logging.Shutdown
import PacketFilter.Logging.DataPath
import PacketFilter.Config.Atomicity
import PacketFilter.Config.RateFile
import PacketFilter.Config.Grammar
import PacketFilter.Config.Snapshots
import PacketFilter.Program.Lifetimes
