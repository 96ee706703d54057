import ChangeFilter.Change
import ChangeFilter.Checks
import ChangeFilter.Cli.Arguments
import ChangeFilter.Cli.Run
import ChangeFilter.Config
import ChangeFilter.Decimal.Notation
import ChangeFilter.Decimal.Shortest
import ChangeFilter.Disk
import ChangeFilter.ErrorCode
import ChangeFilter.Failure
import ChangeFilter.Fault
import ChangeFilter.Git.Changes
import ChangeFilter.Git.Output
import ChangeFilter.Git.Session
import ChangeFilter.Glob.Basic
import ChangeFilter.Glob.Compile
import ChangeFilter.Glob.Match
import ChangeFilter.Json.Read
import ChangeFilter.Json.Write
import ChangeFilter.Log
import ChangeFilter.Main
import ChangeFilter.Output.Export
import ChangeFilter.Output.ListFormat
import ChangeFilter.PullRequest
import ChangeFilter.Rules.Engine
import ChangeFilter.Rules.FormatError
import ChangeFilter.Rules.Item
import ChangeFilter.Rules.Load
import ChangeFilter.Rules.Table
import ChangeFilter.Run.Detect
import ChangeFilter.Run.Pipeline
import ChangeFilter.Run.Workspace
import ChangeFilter.Settings.Basic
import ChangeFilter.Text.Blank
import ChangeFilter.Text.Cased
import ChangeFilter.Text.Digit
import ChangeFilter.Text.Lower
import ChangeFilter.Text.Number
import ChangeFilter.Text.Printable
import ChangeFilter.Text.Surrogate
import ChangeFilter.Text.Upper
import ChangeFilter.Value.Basic
import ChangeFilter.Value.Graph
import ChangeFilter.Value.Text
import ChangeFilter.Yaml.Construct
import ChangeFilter.Yaml.Node
import ChangeFilter.Yaml.Read
import ChangeFilter.Yaml.Resolve
import ChangeFilter.Yaml.Scalar
import ChangeFilter.Yaml.Token
import ChangeFilter.Yaml.Token.Scan
import ChangeFilter.Proofs.Glob.Language
import ChangeFilter.Proofs.Glob.Reading
import ChangeFilter.Proofs.Glob.Globstar
import ChangeFilter.Proofs.Glob.Brace
import ChangeFilter.Proofs.Rules.Meaning
import ChangeFilter.Proofs.Rules.Decode
import ChangeFilter.Proofs.Rules.Refusal
import ChangeFilter.Proofs.Output.Named
import ChangeFilter.Proofs.Output.Shell
import ChangeFilter.Proofs.Git.Trace
import ChangeFilter.Proofs.Git.Deepen
import ChangeFilter.Proofs.Git.Resolve
import ChangeFilter.Proofs.Git.MergeBase
import ChangeFilter.Proofs.Log.Steps
import ChangeFilter.Proofs.Log.Groups
import ChangeFilter.Proofs.Run.RefNames
import ChangeFilter.Proofs.Config.Settings
import ChangeFilter.Proofs.Config.Layers
import ChangeFilter.Proofs.Glob.Escape
import ChangeFilter.Proofs.Glob.Slashes
import ChangeFilter.Proofs.Glob.Classes
import ChangeFilter.Proofs.Rules.Flatten
import ChangeFilter.Proofs.Output.Csv
import ChangeFilter.Proofs.Git.NameStatus
import ChangeFilter.Proofs.Output.Escape
import ChangeFilter.Proofs.PullRequest.Rows
import ChangeFilter.Proofs.Git.LocalRef
import ChangeFilter.Proofs.Output.OutputFile
import ChangeFilter.Proofs.Glob.BraceScan
import ChangeFilter.Proofs.Glob.RegexSize
import ChangeFilter.Proofs.Glob.Expansion
