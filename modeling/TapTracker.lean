import TapTracker.Adapter.Class
import TapTracker.Adapter.Failure
import TapTracker.Adapter.Platform
import TapTracker.Adapter.Record
import TapTracker.Adapter.Set
import TapTracker.CommandLine.Basic
import TapTracker.CommandLine.Option
import TapTracker.CommandLine.Parser
import TapTracker.CommandLine.Place
import TapTracker.CommandLine.Token
import TapTracker.Config.Defaults
import TapTracker.Config.Error
import TapTracker.Config.File
import TapTracker.Config.Settings
import TapTracker.Main
import TapTracker.Pattern.Basic
import TapTracker.Pattern.CharClass
import TapTracker.Pattern.Meaning
import TapTracker.Pattern.Reader
import TapTracker.Pattern.Reader.Basic
import TapTracker.Pattern.Reader.Bracket
import TapTracker.Pattern.Reader.Escape
import TapTracker.Pattern.Reader.Group
import TapTracker.Pattern.Regex
import TapTracker.Pattern.Syntax
import TapTracker.Process.Status
import TapTracker.Proofs.Adapter.Comparison
import TapTracker.Proofs.Adapter.Identity
import TapTracker.Proofs.Adapter.IdentityOrder
import TapTracker.Proofs.Adapter.NamedSets
import TapTracker.Proofs.Adapter.Owned
import TapTracker.Proofs.Adapter.Set
import TapTracker.Proofs.Adapter.Signature
import TapTracker.Proofs.CommandLine.Installer
import TapTracker.Proofs.Config.Merge
import TapTracker.Proofs.Config.Resolve
import TapTracker.Proofs.Pattern.Literal
import TapTracker.Proofs.Pattern.Places
import TapTracker.Proofs.Pattern.WholeText
import TapTracker.Proofs.Responder
import TapTracker.Proofs.Run.Execution
import TapTracker.Proofs.Run.ExitCode
import TapTracker.Proofs.Run.Install
import TapTracker.Proofs.Run.InternalErrors
import TapTracker.Proofs.Run.Listing
import TapTracker.Proofs.Run.Ownership
import TapTracker.Proofs.Run.Recognition
import TapTracker.Proofs.Run.Refusal
import TapTracker.Proofs.Run.Reinstall
import TapTracker.Proofs.Run.Serializer
import TapTracker.Proofs.Run.Stages
import TapTracker.Proofs.Run.Uninstall
import TapTracker.Proofs.Simulation.Host
import TapTracker.Proofs.Simulation.Testbed
import TapTracker.Proofs.Success
import TapTracker.Proofs.Surroundings
import TapTracker.Proofs.Text.Utf16
import TapTracker.Proofs.Tracker.Deletion
import TapTracker.Proofs.Tracker.History
import TapTracker.Proofs.Tracker.NewAdapter
import TapTracker.Proofs.Tracker.Rearrangement
import TapTracker.Proofs.Tracker.RepeatedDeletion
import TapTracker.Proofs.Tracker.Status
import TapTracker.Proofs.Windows.Calls
import TapTracker.Proofs.Windows.CommandLine
import TapTracker.Proofs.Windows.EnumeratedRemoval
import TapTracker.Proofs.Windows.Enumeration
import TapTracker.Proofs.Windows.Handles
import TapTracker.Proofs.Windows.Properties
import TapTracker.Proofs.Windows.Removal
import TapTracker.Proofs.Windows.RemovalIdentity
import TapTracker.Proofs.Windows.Renaming
import TapTracker.Proofs.Windows.Steady
import TapTracker.Proofs.Windows.Walk
import TapTracker.Run.Error
import TapTracker.Run.Execute
import TapTracker.Run.Install
import TapTracker.Run.Installer
import TapTracker.Run.Listing
import TapTracker.Run.Program
import TapTracker.Simulation.Folder
import TapTracker.Simulation.Host
import TapTracker.Simulation.Programs
import TapTracker.Simulation.Shell
import TapTracker.Simulation.Testbed
import TapTracker.Simulation.World
import TapTracker.Storage.Basic
import TapTracker.Text.BinaryProperty
import TapTracker.Text.Blank
import TapTracker.Text.CaseFolding
import TapTracker.Text.CaseRun
import TapTracker.Text.Category
import TapTracker.Text.Decimal
import TapTracker.Text.Json
import TapTracker.Text.LowerCase
import TapTracker.Text.Quoted
import TapTracker.Text.RangeTable
import TapTracker.Text.Script
import TapTracker.Text.Utf16
import TapTracker.Toml.Reader
import TapTracker.Toml.Scalar
import TapTracker.Toml.Text
import TapTracker.Toml.Tree
import TapTracker.Toml.Value
import TapTracker.Tracker.Baseline
import TapTracker.Tracker.Deletion
import TapTracker.Tracker.Describe
import TapTracker.Tracker.Error
import TapTracker.Windows.Adapters
import TapTracker.Windows.Devices
import TapTracker.Windows.Guid
import TapTracker.Windows.System
import TapTracker.Windows.Trace
import TapTracker.Proofs.Text.JsonGrammar
import TapTracker.Proofs.Run.RenderedListing
import TapTracker.Proofs.Text.Utf16Division
import TapTracker.Proofs.Windows.GuidText
import TapTracker.Proofs.Config.Revalidation
import TapTracker.Proofs.CommandLine.Wording
import TapTracker.Proofs.CommandLine.InstallerWords
import TapTracker.Proofs.CommandLine.Placement
import TapTracker.Proofs.Text.Decimal
import TapTracker.Proofs.Toml.DistinctKeys
import TapTracker.Proofs.Toml.Integers
import TapTracker.Proofs.Toml.Parts
import TapTracker.Proofs.Toml.Replacement
import TapTracker.Proofs.Config.FileShape
import TapTracker.Proofs.Toml.Lines
import TapTracker.Proofs.Config.Template
import TapTracker.Proofs.Config.SettingInPlace
import TapTracker.Proofs.Config.TimeLimit
