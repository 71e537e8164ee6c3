import ManifestAudit.Main
import ManifestAudit.Proofs.Program.Ending
import ManifestAudit.Proofs.PackageRules.Run
import ManifestAudit.Proofs.Report.Agreement
import ManifestAudit.Proofs.Program.Manifest
import ManifestAudit.Proofs.Yaml.Contract
import ManifestAudit.Proofs.Yaml.Token.Scalar
import ManifestAudit.Proofs.Yaml.Token.Property
import ManifestAudit.Proofs.Yaml.Token.Stream
import ManifestAudit.Proofs.Yaml.Node
import ManifestAudit.Proofs.Yaml.Atom.Numeral
import ManifestAudit.Proofs.Yaml.Value
import ManifestAudit.Proofs.Yaml.Atom.Shape
import ManifestAudit.Proofs.Yaml.Atom
import ManifestAudit.Proofs.Yaml.Parser
import ManifestAudit.Proofs.Program.Settings
import ManifestAudit.Proofs.PackageRules.Footprint
import ManifestAudit.Proofs.Rule.Specification
import ManifestAudit.Proofs.CommandLine.Arguments
import ManifestAudit.Proofs.Files.Twin
import ManifestAudit.Proofs.Files.Growth
import ManifestAudit.Proofs.Program.Overriding
import ManifestAudit.Proofs.Program.Again
import ManifestAudit.Proofs.Text.Pieces
import ManifestAudit.Proofs.Range.Choice
import ManifestAudit.Proofs.Text.Digit
import ManifestAudit.Proofs.Version.Parser
import ManifestAudit.Proofs.Range.Pattern
import ManifestAudit.Proofs.Range.Joining
import ManifestAudit.Proofs.Range.Shorthand
import ManifestAudit.Proofs.Range.Parser
import ManifestAudit.Proofs.Range.Spelling
import ManifestAudit.Proofs.PackageRules.Launcher
import ManifestAudit.Proofs.CommandLine.Verbose
import ManifestAudit.Proofs.Program.Verbosity
import ManifestAudit.Proofs.Range.Refusal
import ManifestAudit.Proofs.PackageRules.Advice
import ManifestAudit.Proofs.PackageRules.Absence
import ManifestAudit.Proofs.Report.Layout
import ManifestAudit.Proofs.Rule.Distinct
import ManifestAudit.Proofs.Report.Recording
import ManifestAudit.Proofs.Settings
import ManifestAudit.Proofs.Json.Literal
import ManifestAudit.Proofs.Json.RoundTrip
import ManifestAudit.Proofs.Program.Saved
import ManifestAudit.Proofs.Range.Arrangement
