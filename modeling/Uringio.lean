import Uringio.Buffers.Arrays
import Uringio.Buffers.Blocks
import Uringio.Buffers.Construct
import Uringio.Buffers.Counts
import Uringio.Buffers.Created
import Uringio.Buffers.Destroy
import Uringio.Buffers.Enter
import Uringio.Buffers.Filled
import Uringio.Buffers.Freed
import Uringio.Buffers.Index
import Uringio.Buffers.IndexPool
import Uringio.Buffers.Payload
import Uringio.Buffers.Records
import Uringio.Buffers.Reported
import Uringio.Buffers.Requested
import Uringio.Buffers.Routes
import Uringio.Buffers.Rules
import Uringio.Buffers.Serving
import Uringio.Buffers.Takes
import Uringio.Buffers.Unwound
import Uringio.Context.Contextvars
import Uringio.Context.Entering
import Uringio.Context.Managers
import Uringio.Context.Registered
import Uringio.Context.Registering
import Uringio.Context.Registrations
import Uringio.Context.Scoping
import Uringio.Lib.Bracket
import Uringio.Lib.CInt
import Uringio.Lib.Cells
import Uringio.Lib.Heap
import Uringio.Lib.IndexStack
import Uringio.Lib.Ledger
import Uringio.Lib.Memory
import Uringio.Lib.Progress
import Uringio.Lib.RingBuffer
import Uringio.Lib.Scopes
import Uringio.Lib.Service
import Uringio.Lib.Simulation
import Uringio.Lib.Tally
import Uringio.Lib.Transition
import Uringio.Lib.Unwind
import Uringio.Loop.Agreement
import Uringio.Loop.Aimed
import Uringio.Loop.Call
import Uringio.Loop.Calls
import Uringio.Loop.Carried
import Uringio.Loop.Closed
import Uringio.Loop.Copy
import Uringio.Loop.Dispatch
import Uringio.Loop.Entry
import Uringio.Loop.Frame
import Uringio.Loop.Harmless
import Uringio.Loop.Init
import Uringio.Loop.Kind
import Uringio.Loop.Made
import Uringio.Loop.Orderly
import Uringio.Loop.Plain
import Uringio.Loop.Pool
import Uringio.Loop.Reader
import Uringio.Loop.Reading
import Uringio.Loop.References
import Uringio.Loop.Rejection
import Uringio.Loop.Released
import Uringio.Loop.Results
import Uringio.Loop.RunOnce
import Uringio.Loop.Shape
import Uringio.Loop.Shutdown
import Uringio.Loop.Sound
import Uringio.Loop.State
import Uringio.Loop.Submitted
import Uringio.Loop.Submitting
import Uringio.Ops.Files
import Uringio.Ops.Linking
import Uringio.Ops.Queue
import Uringio.Ops.Sockets
import Uringio.Ops.Timer
import Uringio.Process.Crashes
import Uringio.Process.Descriptors
import Uringio.Process.Life
import Uringio.Process.Objects
import Uringio.Process.Variable
import Uringio.Python.Boundary
import Uringio.Python.EntryPoints
import Uringio.Python.Exceptions
import Uringio.Python.Leaving
import Uringio.Python.Managers
import Uringio.Python.NullPointers
import Uringio.Python.Objects
import Uringio.Python.Rejected
import Uringio.Python.Steps
import Uringio.Registry.DoubleRemove
import Uringio.Registry.Partition
import Uringio.Registry.Registry
import Uringio.Registry.Sizes
import Uringio.Ring.Kernel
import Uringio.Ring.Pending
import Uringio.Ring.Ring
import Uringio.Ring.Sqe
import Uringio.Ring.Submission
import Uringio.Scheduling.Iterations
import Uringio.Scheduling.Queues
import Uringio.Scheduling.Raising
import Uringio.Scheduling.Timeout
import Uringio.System.Agreement
import Uringio.System.Auxiliary
import Uringio.System.Closing
import Uringio.System.Descriptor
import Uringio.System.Drained
import Uringio.System.Ledger
import Uringio.System.Ownership
import Uringio.System.Plain
import Uringio.System.Pooled
import Uringio.System.Recorded
import Uringio.System.References
import Uringio.System.Selected
import Uringio.System.Service
import Uringio.System.Step
import Uringio.System.Targeted
import Uringio.System.Tracked
import Uringio.System.Wakeup
import Uringio.Tasks.Counted
import Uringio.Tasks.Creation
import Uringio.Tasks.InProcess
import Uringio.Tasks.Objects
import Uringio.Tasks.Scoped
import Uringio.Tasks.Store
import Uringio.Types
