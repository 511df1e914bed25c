import KCamera.FrameList.Runs
import KCamera.File.Accept
import KCamera.FrameList.Progress
import KCamera.FrameList.StartShift
import KCamera.Recording.AutoStop
import KCamera.Camera.Session
import KCamera.Engine.Facts
import KCamera.Engine.Lists
import KCamera.Recording.Flag
import KCamera.Engine.Watch
import KCamera.Camera.StopRequest
import KCamera.Camera.Join
import KCamera.Camera.Lifecycle
import KCamera.Machine.Alone
import KCamera.Camera.Tuning
import KCamera.Camera.Settings
import KCamera.Camera.References
import KCamera.Stream.Idle
import KCamera.Stream.Mailbox
import KCamera.Engine.Marks
import KCamera.App.Loop
import KCamera.App.Pool
import KCamera.App.Updates
import KCamera.Encoder.Params
import KCamera.Encoder.Settings
import KCamera.Encoder.Calls
import KCamera.Encoder.Buffers
import KCamera.Encoder.Packets
import KCamera.Encoder.Lifetime
import KCamera.Camera.Arguments
import KCamera.Camera.Calls
import KCamera.Camera.Changes
import KCamera.Camera.Parse
import KCamera.Machine.Phases
import KCamera.Engine.Parameters
import KCamera.Engine.Applying
import KCamera.Camera.Stores
import KCamera.Camera.Ranges
import KCamera.Camera.Propagation
import KCamera.Camera.Refinement
import KCamera.Camera.Rejection
import KCamera.Machine.Waiting
import KCamera.Camera.Deadlock
import KCamera.Engine.Recordings
import KCamera.Heap.Links
import KCamera.Recording.Timestamps
import KCamera.Engine.Shapes
import KCamera.FrameList.Window
import KCamera.FrameList.Duration
import KCamera.FrameList.Trigger
import KCamera.FrameList.Playback
import KCamera.FrameList.FailedAppend
import KCamera.Recording.Progress
import KCamera.Frame.Pixels
import KCamera.Encoder.Input
import KCamera.Engine.Holdings
import KCamera.Recording.Ownership
import KCamera.FrameList.Ends
import KCamera.Recording.Presence
import KCamera.Machine.Wakeups
import KCamera.Engine.Signals
import KCamera.Recording.Readers
import KCamera.Heap.Ledger
import KCamera.Machine.Text
import KCamera.Engine.Loading
import KCamera.Engine.Text
import KCamera.Engine.Blocks
import KCamera.Recording.Memory
import KCamera.Recording.Reader
import KCamera.Recording.InOrder
import KCamera.Engine.Lockset
import KCamera.File.Resave
import KCamera.FrameList.Verify
import KCamera.Engine.Access
import KCamera.Recording.Races
import KCamera.Machine.Unwind
import KCamera.App.Resources
import KCamera.App.Release
