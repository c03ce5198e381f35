import DualToolchain.Json.Parser
import DualToolchain.Main
import DualToolchain.Program
import DualToolchain.Receipt.Reader
import DualToolchain.Proofs.FileTree
import DualToolchain.Proofs.Json.Number
import DualToolchain.Proofs.Json.RoundTrip
import DualToolchain.Proofs.Json.Text
import DualToolchain.Proofs.Launcher
import DualToolchain.Proofs.Path
import DualToolchain.Proofs.Plan
import DualToolchain.Proofs.Receipt.Reader
import DualToolchain.Proofs.Receipt.RoundTrip
import DualToolchain.Proofs.Run.Account
import DualToolchain.Proofs.Run.FailFast
import DualToolchain.Proofs.Run.Faithful
import DualToolchain.Proofs.Run.ReceiptFile
import DualToolchain.Proofs.RunDirectory
import DualToolchain.Proofs.Text.Ascii
import DualToolchain.Proofs.Text.Utf8
import DualToolchain.Proofs.Verdict
import DualToolchain.Proofs.Run.Unwritten
import DualToolchain.Proofs.FileTree.Directory
import DualToolchain.Proofs.RunDirectory.Streams
import DualToolchain.Proofs.Run.Logs
import DualToolchain.Proofs.RunDirectory.Own
import DualToolchain.Proofs.Run.Vacant
import DualToolchain.Proofs.FileTree.Changes
import DualToolchain.Proofs.Run.Containment
import DualToolchain.Proofs.Run.Uncaptured
import DualToolchain.Proofs.Run.DryRun
import DualToolchain.Proofs.Run.Trace
import DualToolchain.Proofs.Program
import DualToolchain.Proofs.Run.Relay
import DualToolchain.Proofs.Plan.Leaves
import DualToolchain.Proofs.Run.Renamed
import DualToolchain.Proofs.CommandLine
import DualToolchain.Proofs.Program.ExitCode
import DualToolchain.Proofs.Run.BuildFirst
import DualToolchain.Proofs.Settings
import DualToolchain.Proofs.Calendar
import DualToolchain.Proofs.Plan.Resolution
import DualToolchain.Proofs.Timestamp
import DualToolchain.Proofs.Run.Times
import DualToolchain.Proofs.Text.ShellWord
import DualToolchain.Proofs.Run.Announced
import DualToolchain.Proofs.Text.Repair
import DualToolchain.Proofs.Run.Captured
import DualToolchain.Proofs.FileTree.Repetition
import DualToolchain.Proofs.Run.Files
import DualToolchain.Proofs.Run.Repetition
import DualToolchain.Proofs.RunDirectory.Frame
import DualToolchain.Proofs.FileTree.Contents
import DualToolchain.Proofs.Run.Contents
import DualToolchain.Proofs.Settings.Agreement
import DualToolchain.Proofs.Program.Environment
import DualToolchain.Proofs.CommandLine.Given
import DualToolchain.Proofs.Run.Launches
import DualToolchain.Proofs.Program.Overrides
