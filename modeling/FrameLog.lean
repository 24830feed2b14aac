import FrameLog.Bytes
import FrameLog.Checksum
import FrameLog.Command
import FrameLog.Command.Arguments
import FrameLog.Command.Execution
import FrameLog.Command.Prediction
import FrameLog.Command.Script
import FrameLog.Cursor
import FrameLog.Disk
import FrameLog.Disk.Path
import FrameLog.Event
import FrameLog.Failure
import FrameLog.Frame
import FrameLog.Handle
import FrameLog.Handle.Attach
import FrameLog.Handle.Request
import FrameLog.Handle.Run
import FrameLog.Handle.Writers
import FrameLog.Header
import FrameLog.Journal
import FrameLog.Main
import FrameLog.OpenLog
import FrameLog.PlainLog
import FrameLog.Positions
import FrameLog.Proofs.Accounts
import FrameLog.Proofs.Additions
import FrameLog.Proofs.AlikeHandles
import FrameLog.Proofs.Appending
import FrameLog.Proofs.Bookkeeping
import FrameLog.Proofs.BurstErrors
import FrameLog.Proofs.ChangedLimit
import FrameLog.Proofs.CheckedFile
import FrameLog.Proofs.CommandLine
import FrameLog.Proofs.Contents
import FrameLog.Proofs.CrashCut
import FrameLog.Proofs.DensePositions
import FrameLog.Proofs.Effects
import FrameLog.Proofs.Exchanges
import FrameLog.Proofs.Extent
import FrameLog.Proofs.FailedAppend
import FrameLog.Proofs.FaithfulJournal
import FrameLog.Proofs.FoundFile
import FrameLog.Proofs.FrameDecoding
import FrameLog.Proofs.GrowingLog
import FrameLog.Proofs.LocalDamage
import FrameLog.Proofs.LongestSoundPart
import FrameLog.Proofs.Mirror
import FrameLog.Proofs.MonotoneRecovery
import FrameLog.Proofs.PlainRefinement
import FrameLog.Proofs.Reading
import FrameLog.Proofs.ReadingAll
import FrameLog.Proofs.Recovery
import FrameLog.Proofs.ReplacedFile
import FrameLog.Proofs.Requests
import FrameLog.Proofs.ScannersAgree
import FrameLog.Proofs.SettledFile
import FrameLog.Proofs.SharedHandle
import FrameLog.Proofs.SlotRuns
import FrameLog.Proofs.SplitTransfers
import FrameLog.Proofs.Streaming
import FrameLog.Proofs.TextLogs
import FrameLog.Proofs.Truncation
import FrameLog.Proofs.UndisturbedRun
import FrameLog.Proofs.WaysOfOpening
import FrameLog.Proofs.WritersInTurn
import FrameLog.Proofs.ZeroTail
import FrameLog.Record
import FrameLog.Report
import FrameLog.Scan
import FrameLog.Settings
import FrameLog.Slots
import FrameLog.Text.Decimal
import FrameLog.Text.Hex
import FrameLog.Text.Utf8
import FrameLog.Text.Visible
import FrameLog.Transfer
import FrameLog.Transfer.Loop
import FrameLog.Workspace
