import CrudScaffold.Main
import CrudScaffold.Proofs.Schema.Accepts
import CrudScaffold.Proofs.Artifact.Attributes
import CrudScaffold.Proofs.Artifact.Columns
import CrudScaffold.Proofs.Artifact.Imports
import CrudScaffold.Proofs.Run.Dispatch
import CrudScaffold.Proofs.Run.Routes
import CrudScaffold.Proofs.Run.Validation
import CrudScaffold.Proofs.Storage.Locate
import CrudScaffold.Proofs.Storage.Temporary
import CrudScaffold.Proofs.Storage.Writable
import CrudScaffold.Proofs.Storage.Below
import CrudScaffold.Proofs.Artifact.Separate
import CrudScaffold.Proofs.Run.Success
import CrudScaffold.Proofs.Storage.Sequence
import CrudScaffold.Proofs.Artifact.Registration
import CrudScaffold.Proofs.Run.Repeat
import CrudScaffold.Proofs.Run.Exchange
import CrudScaffold.Proofs.Run.Registration
import CrudScaffold.Proofs.Settings.Load
import CrudScaffold.Proofs.Source.Names
import CrudScaffold.Proofs.Run.Routers
import CrudScaffold.Proofs.Source.Collected
import CrudScaffold.Proofs.Artifact.Needs
import CrudScaffold.Proofs.Artifact.Bindings
import CrudScaffold.Proofs.Run.Order
import CrudScaffold.Proofs.Artifact.Default
import CrudScaffold.Proofs.Run.Confined
import CrudScaffold.Proofs.Run.Failures
import CrudScaffold.Proofs.Artifact.Relationships
import CrudScaffold.Proofs.CheckedNames
import CrudScaffold.Proofs.Schema.Append
import CrudScaffold.Proofs.Artifact.Answers
import CrudScaffold.Proofs.Run.Reordered
import CrudScaffold.Proofs.Artifact.Importable
import CrudScaffold.Proofs.Run.Atomic
import CrudScaffold.Proofs.Settings.Accepts
import CrudScaffold.Proofs.Settings.Loaded
import CrudScaffold.Proofs.Run.Expansion
import CrudScaffold.Proofs.CommandLine.Interleaved
import CrudScaffold.Proofs.Run.Complaint
import CrudScaffold.Proofs.Artifact.Indexes
import CrudScaffold.Proofs.Artifact.Omission
import CrudScaffold.Proofs.Artifact.Tables
import CrudScaffold.Proofs.Source.Block
import CrudScaffold.Proofs.Run.Chronology
import CrudScaffold.Proofs.Artifact.Uses
import CrudScaffold.Proofs.Schema.Balance
import CrudScaffold.Proofs.Table
import CrudScaffold.Proofs.Naming.Regular
