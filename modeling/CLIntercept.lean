import CLIntercept.Lib.Run
import CLIntercept.Lib.OrdMap
import CLIntercept.Lib.Printf
import CLIntercept.Lib.SharedHandles
import CLIntercept.CommandBuffer.Reachability
import CLIntercept.Usm.ExecInfo
import CLIntercept.Track.Kernels
import CLIntercept.Track.Allocations
import CLIntercept.Track.Interleaving
import CLIntercept.Semaphore.Ownership
import CLIntercept.Track.ProgramIdentity
import CLIntercept.Override.Requests
import CLIntercept.Override.Contents
import CLIntercept.Override.Texels
import CLIntercept.Override.Init
import CLIntercept.Capture.Aub
import CLIntercept.Timing.Events
import CLIntercept.Timing.KernelNames
import CLIntercept.Timing.Transfers
import CLIntercept.Trace.Json
import CLIntercept.Trace.Merge
import CLIntercept.Leak.Calls
import CLIntercept.CommandBuffer.Followed
import CLIntercept.Dump.Binaries
import CLIntercept.Dump.OwnFiles
import CLIntercept.Dump.MemoryRuns
import CLIntercept.Usm.AllocMap
import CLIntercept.Usm.Query
import CLIntercept.Replay.Validate
import CLIntercept.Semaphore.Info
import CLIntercept.Timing.Histogram
import CLIntercept.Timing.Timeline
import CLIntercept.Timing.HostReport
import CLIntercept.Device.Extensions
import CLIntercept.Device.QueueProperties
import CLIntercept.Device.PropertyLists
import CLIntercept.Device.QueueMaps
import CLIntercept.Device.AutoPartition
import CLIntercept.Device.Hierarchy
import CLIntercept.Device.NameVersions
import CLIntercept.Device.Info
import CLIntercept.Dump.Buffers
import CLIntercept.Dump.Combined
import CLIntercept.Dump.Options
import CLIntercept.Capture.Unique
import CLIntercept.Mdapi.SavedReports
import CLIntercept.Control.Lookup
import CLIntercept.Callback.Context
import CLIntercept.Callback.Event
import CLIntercept.Control.Loader
import CLIntercept.Trace.Commands
import CLIntercept.Dispatch.Extensions
