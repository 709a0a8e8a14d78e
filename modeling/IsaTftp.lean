import IsaTftp.Library.Runs
import IsaTftp.Library.Insertions
import IsaTftp.Library.Chunking
import IsaTftp.Library.StopAndWait
import IsaTftp.Library.RelativePath
import IsaTftp.Wire.Exceptions
import IsaTftp.Wire.Packets
import IsaTftp.Wire.Options
import IsaTftp.Wire.Requests
import IsaTftp.Wire.RoundTrip
import IsaTftp.Wire.Failures
import IsaTftp.Files.Storage
import IsaTftp.Files.Netascii
import IsaTftp.Files.Readers
import IsaTftp.Files.Writer
import IsaTftp.Transfer
import IsaTftp.Server.Session
import IsaTftp.Server.ReadRequest
import IsaTftp.Server.WriteRequest
import IsaTftp.Server.Handler
import IsaTftp.Client.Session
import IsaTftp.Client.Write
import IsaTftp.Client.Machine
import IsaTftp.Network
import IsaTftp.Server.Receiver
import IsaTftp.Client.Sender
import IsaTftp.Upload.Lockstep
import IsaTftp.Upload.Stored
import IsaTftp.Server.Sender
import IsaTftp.Client.Receiver
import IsaTftp.Download.Stored
import IsaTftp.Server.Steps
import IsaTftp.Server.Confinement
import IsaTftp.Server.Serving
import IsaTftp.Server.Aborted
import IsaTftp.Server.Threads
import IsaTftp.Server.TftpServer
import IsaTftp.Retransmission
import IsaTftp.Server.Outside
import IsaTftp.Timeouts
import IsaTftp.Client.Steps
import IsaTftp.Client.Agreement
import IsaTftp.Client.Origin
import IsaTftp.Client.Permission
import IsaTftp.Client.Fallback
import IsaTftp.Server.Continuing
import IsaTftp.Server.Negotiation
import IsaTftp.NegotiatedTimeout
import IsaTftp.Handshake
import IsaTftp.Client.Interruption
import IsaTftp.Server.Interruption
import IsaTftp.Interruption
import IsaTftp.Server.Foreign
import IsaTftp.Client.Foreign
import IsaTftp.Noninterference
import IsaTftp.ErrorPackets
import IsaTftp.Server.Reporting
import IsaTftp.Files.ReadFailures
import IsaTftp.Server.Reported
import IsaTftp.Server.Failures
import IsaTftp.Files.Splitting
import IsaTftp.Files.Filling
import IsaTftp.Files.Reencoding
import IsaTftp.Files.Closing
import IsaTftp.Files.Faithful
import IsaTftp.Wire.Grammar
import IsaTftp.Wire.Cut
import IsaTftp.Wire.Replies
import IsaTftp.Server.Replies
import IsaTftp.Validation
import IsaTftp.Numbers
import IsaTftp.Server.Numbers
import IsaTftp.Client.Numbers
import IsaTftp.BlockNumbers
import IsaTftp.Receivers
import IsaTftp.Server.InOrder
import IsaTftp.Client.InOrder
import IsaTftp.ReceivedInOrder
import IsaTftp.Library.Retries
import IsaTftp.Waits
import IsaTftp.Server.Waits
import IsaTftp.Client.Waits
import IsaTftp.BoundedWaits
import IsaTftp.Server.Transparency
import IsaTftp.Files.Yields
import IsaTftp.Server.AnnouncedSize
import IsaTftp.Files.Inside
import IsaTftp.Client.Main
import IsaTftp.Client.Untouched
import IsaTftp.Files.Indexed
import IsaTftp.Files.InRange
import IsaTftp.Files.Growth
import IsaTftp.Files.Pending
import IsaTftp.Files.Exhausted
import IsaTftp.Server.Acknowledged
import IsaTftp.Files.Agreeing
import IsaTftp.Files.Slurping
import IsaTftp.Client.Requested
import IsaTftp.Files.Unencoded
import IsaTftp.Client.Downloaded
import IsaTftp.Client.Uploaded
import IsaTftp.Client.Modes
import IsaTftp.Wire.OptionParsers
import IsaTftp.Client.Reading
import IsaTftp.Download.Requested
import IsaTftp.Library.ManySenders
import IsaTftp.Server.Elsewhere
import IsaTftp.Download.Served
import IsaTftp.Conversation
import IsaTftp.Download.Undisturbed
import IsaTftp.Upload.Undisturbed
import IsaTftp.PutThenGet
import IsaTftp.Wire.Factory
import IsaTftp.Traffic
import IsaTftp.Download.Losses
import IsaTftp.Download.LostBlocks
import IsaTftp.Upload.Losses
import IsaTftp.Upload.LostBlocks
import IsaTftp.Upload.Delivery
import IsaTftp.Verdicts
import IsaTftp.Library.ManyReceivers
import IsaTftp.Client.Writing
import IsaTftp.Upload.Requested
import IsaTftp.Upload.Served
import IsaTftp.Server.Escapes
import IsaTftp.Server.Mirrors
import IsaTftp.Server.Revealed
import IsaTftp.Server.Gathering
import IsaTftp.Server.Uploads
