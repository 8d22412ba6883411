import Registrar.Companion
import Registrar.Sample
import Registrar.Text.Quoted
import Registrar.Text.Utf8
import Registrar.Decimal.Shortest
import Registrar.FileSystem.Operations
import Registrar.Generate
import Registrar.Config.Load
import Registrar.CommandLine.Help
import Registrar.Program
import Registrar.Verbosity
import Registrar.SampleTree
import Registrar.Main
import Registrar.Proofs.Text.Encoding
import Registrar.Proofs.Text.Strip
import Registrar.Proofs.Text.Offset
import Registrar.Proofs.Text.Boundary
import Registrar.Proofs.Scan.Reference
import Registrar.Proofs.Scan.Lines
import Registrar.Proofs.Scan.Sample
import Registrar.Proofs.FileSystem.Leads
import Registrar.Proofs.FileSystem.Change
import Registrar.Proofs.FileSystem.Confinement
import Registrar.Proofs.FileSystem.Access
import Registrar.Proofs.FileSystem.Way
import Registrar.Proofs.Output
import Registrar.Proofs.Output.Rewriting
import Registrar.Proofs.Generate.Reading
import Registrar.Proofs.FileSystem.Paths
import Registrar.Proofs.Source.Listing
import Registrar.Proofs.Generate.Writing
import Registrar.Proofs.Generate.Delivery
import Registrar.Proofs.Generate.Rerun
import Registrar.Proofs.Generate.Confined
import Registrar.Proofs.Generate.Survival
import Registrar.Proofs.Companion.Injective
import Registrar.Proofs.Companion.Rescanned
import Registrar.Proofs.Config.Decoding
import Registrar.Proofs.Config.Environment
import Registrar.Proofs.Config.Merging
import Registrar.Proofs.Config.Precedence
import Registrar.Proofs.Generate.Failure
import Registrar.Proofs.Generate.Interrupted
import Registrar.Proofs.Source.Contents
import Registrar.Proofs.Source.Gathering
import Registrar.Proofs.Config.Composition
import Registrar.Proofs.Generate.Override
import Registrar.Proofs.Config.BlankName
import Registrar.Proofs.Config.Spelling
import Registrar.Proofs.Config.Variables
import Registrar.Proofs.CommandLine.Arrangement
import Registrar.Proofs.FileSystem.Nested
import Registrar.Proofs.Source.Links
import Registrar.Proofs.Output.Ensuring
