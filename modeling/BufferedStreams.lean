import BufferedStreams.Buffer
import BufferedStreams.Bytes
import BufferedStreams.Client
import BufferedStreams.Client.Close
import BufferedStreams.Client.Line
import BufferedStreams.Client.Open
import BufferedStreams.Client.Position
import BufferedStreams.Client.Transfer
import BufferedStreams.Desk
import BufferedStreams.Desk.Open
import BufferedStreams.Desk.Path
import BufferedStreams.Desk.Shared
import BufferedStreams.Device
import BufferedStreams.Device.Callback
import BufferedStreams.Device.Endpoint
import BufferedStreams.Device.File
import BufferedStreams.Device.Memory
import BufferedStreams.Device.Script
import BufferedStreams.Disk
import BufferedStreams.Errno
import BufferedStreams.Fault
import BufferedStreams.OpenMode
import BufferedStreams.Payload
import BufferedStreams.Sizing
import BufferedStreams.Stream.Basic
import BufferedStreams.Stream.Close
import BufferedStreams.Stream.Describe
import BufferedStreams.Stream.Drain
import BufferedStreams.Stream.Input
import BufferedStreams.Stream.Line
import BufferedStreams.Stream.Output
import BufferedStreams.Stream.Turn
import BufferedStreams.Tally
import BufferedStreams.Proofs.Path
import BufferedStreams.Proofs.Drain
import BufferedStreams.Proofs.Transfer
import BufferedStreams.Proofs.Runs
import BufferedStreams.Proofs.Output
import BufferedStreams.Proofs.Contract
import BufferedStreams.Proofs.Memory
import BufferedStreams.Proofs.Position
import BufferedStreams.Proofs.Input
import BufferedStreams.Proofs.Reading
import BufferedStreams.Proofs.Contents
import BufferedStreams.Proofs.Mirror
import BufferedStreams.Proofs.Refinement
import BufferedStreams.Proofs.SparseFile
import BufferedStreams.Proofs.Safety
import BufferedStreams.Proofs.LineReading
import BufferedStreams.Proofs.Append
import BufferedStreams.Proofs.ShortTransfer
import BufferedStreams.Proofs.Handles
import BufferedStreams.Proofs.FailedCalls
import BufferedStreams.Proofs.LineFailure
import BufferedStreams.Proofs.Strategy
import BufferedStreams.Proofs.Calls
import BufferedStreams.Proofs.Marks
import BufferedStreams.Proofs.Acknowledgement
import BufferedStreams.Proofs.FlushAll
import BufferedStreams.Proofs.Teardown
import BufferedStreams.Proofs.AppendOnly
import BufferedStreams.Proofs.Journal
import BufferedStreams.Proofs.CallbackErrno
import BufferedStreams.Proofs.Splitting
import BufferedStreams.Proofs.EmptyRequests
import BufferedStreams.Proofs.CallBounds
import BufferedStreams.Proofs.FirstContents
import BufferedStreams.Proofs.Interruptions
import BufferedStreams.Proofs.BufferCalls
import BufferedStreams.Proofs.Storage
import BufferedStreams.Proofs.LineBlocks
import BufferedStreams.Proofs.Settings
