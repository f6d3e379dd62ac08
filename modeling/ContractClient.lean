import ContractClient.Main
import ContractClient.Proofs.Steps
import ContractClient.Proofs.Text.Capitals
import ContractClient.Proofs.Text.Identifiers
import ContractClient.Proofs.Text.Lines
import ContractClient.Proofs.Naming.Free
import ContractClient.Proofs.Naming.Arguments
import ContractClient.Proofs.Naming.Identifiers
import ContractClient.Proofs.Naming.Suffixes
import ContractClient.Proofs.Naming.Lines
import ContractClient.Proofs.Registry.Growth
import ContractClient.Proofs.Registry.Typing
import ContractClient.Proofs.Registry.Calls
import ContractClient.Proofs.Registry.Events
import ContractClient.Proofs.Registry.Outcomes
import ContractClient.Proofs.Registry.ResultFields
import ContractClient.Proofs.Registry.Repeats
import ContractClient.Proofs.Registry.Silence
import ContractClient.Proofs.Registry.Provenance
import ContractClient.Proofs.Registry.Requests
import ContractClient.Proofs.Registry.Spots
import ContractClient.Proofs.Shape.Basic
import ContractClient.Proofs.Shape.Sharing
import ContractClient.Proofs.Conversion.Depth
import ContractClient.Proofs.Conversion.Rebuilding
import ContractClient.Proofs.Conversion.Meaning
import ContractClient.Proofs.Abi.Reading
import ContractClient.Proofs.Abi.Members
import ContractClient.Proofs.Abi.Callables
import ContractClient.Proofs.Abi.WellFormed
import ContractClient.Proofs.Abi.TagText
import ContractClient.Proofs.Abi.TagSpelling
import ContractClient.Proofs.Abi.TypeTree
import ContractClient.Proofs.Abi.Overloads
import ContractClient.Proofs.Client.Plan
import ContractClient.Proofs.Client.Steps
import ContractClient.Proofs.Client.MethodNames
import ContractClient.Proofs.Client.FirstNames
import ContractClient.Proofs.Client.Answers
import ContractClient.Proofs.Client.Positions
import ContractClient.Proofs.Client.Outcomes
import ContractClient.Proofs.Client.Limits
import ContractClient.Proofs.Client.Built
import ContractClient.Proofs.Client.Sessions
import ContractClient.Proofs.Client.Overloads
import ContractClient.Proofs.Client.Arguments
import ContractClient.Proofs.Client.Surface
import ContractClient.Proofs.Client.Invocation
import ContractClient.Proofs.Client.Scope
import ContractClient.Proofs.Client.Discovery
import ContractClient.Proofs.Client.References
import ContractClient.Proofs.Client.Imported
import ContractClient.Proofs.Client.ImportSection
import ContractClient.Proofs.Client.Rebuilt
import ContractClient.Proofs.Client.Sections
import ContractClient.Proofs.Client.Layout
import ContractClient.Proofs.Client.Silence
import ContractClient.Proofs.Client.Reports
import ContractClient.Proofs.Client.Checking
import ContractClient.Proofs.Client.Locations
import ContractClient.Proofs.Files.Names
import ContractClient.Proofs.Files.Writing
import ContractClient.Proofs.Files.Effects
import ContractClient.Proofs.Generation.Failures
import ContractClient.Proofs.Generation.Outputs
import ContractClient.Proofs.Generation.TopLevel
import ContractClient.Proofs.Generation.Identifiers
import ContractClient.Proofs.Generation.Callables
import ContractClient.Proofs.Generation.Reports
import ContractClient.Proofs.Generation.Batches
import ContractClient.Proofs.Generation.Selection
import ContractClient.Proofs.Compiler.Agreement
import ContractClient.Proofs.Json.Tokens
import ContractClient.Proofs.Json.RoundTrip
import ContractClient.Proofs.Json.Limits
import ContractClient.Proofs.Json.Extent
import ContractClient.Proofs.Json.FileLimits
import ContractClient.Proofs.Json.DisplayLines
import ContractClient.Proofs.Options
import ContractClient.Proofs.CommandLine.Remarks
import ContractClient.Proofs.CommandLine.AllOrNothing
import ContractClient.Proofs.Compiler.Artifacts
