import Persistence.Access.Accessor
import Persistence.Access.Cache
import Persistence.Access.EntityAccess
import Persistence.Access.Reflector
import Persistence.Class.Basic
import Persistence.Class.Instance
import Persistence.Class.Outline
import Persistence.Class.Naming
import Persistence.DataType.Basic
import Persistence.DataType.Conversion
import Persistence.Fault
import Persistence.Json.Basic
import Persistence.Json.Document
import Persistence.Json.Record
import Persistence.Json.Writer
import Persistence.Keyed
import Persistence.Mapping.Basic
import Persistence.Mapping.JsonForm
import Persistence.Mapping.Resolution
import Persistence.Metamodel.Context
import Persistence.Metamodel.Diagnostic
import Persistence.Metamodel.Discovery
import Persistence.Metamodel.Entity
import Persistence.Metamodel.Initialization
import Persistence.Metamodel.Layout
import Persistence.Metamodel.Property
import Persistence.Metamodel.Workspace
import Persistence.Number.Binary64
import Persistence.Number.DecimalText
import Persistence.Number.Shortest
import Persistence.Proofs.Access.Backing
import Persistence.Proofs.Access.Filled
import Persistence.Proofs.Access.Handled
import Persistence.Proofs.Access.Identifiers
import Persistence.Proofs.Access.Layers
import Persistence.Proofs.Access.Positions
import Persistence.Proofs.Access.Refused
import Persistence.Proofs.Access.Serving
import Persistence.Proofs.Class.Snapshots
import Persistence.Proofs.Appearance
import Persistence.Proofs.DataType.Projection
import Persistence.Proofs.DataType.Restoring
import Persistence.Proofs.DataType.Texts
import Persistence.Proofs.Mapping.Overlays
import Persistence.Proofs.Metamodel.Action
import Persistence.Proofs.Metamodel.Assurance
import Persistence.Proofs.Metamodel.Bare
import Persistence.Proofs.Metamodel.Building
import Persistence.Proofs.Metamodel.Calls
import Persistence.Proofs.Metamodel.Depth
import Persistence.Proofs.Metamodel.Discovered
import Persistence.Proofs.Metamodel.Growth
import Persistence.Proofs.Metamodel.Identification
import Persistence.Proofs.Metamodel.Keeping
import Persistence.Proofs.Metamodel.Lineage
import Persistence.Proofs.Metamodel.Mirroring
import Persistence.Proofs.Metamodel.Nesting
import Persistence.Proofs.Metamodel.Regularity
import Persistence.Proofs.Metamodel.Retry
import Persistence.Proofs.Metamodel.Roles
import Persistence.Proofs.Metamodel.Search
import Persistence.Proofs.Metamodel.Sharing
import Persistence.Proofs.Metamodel.Steady
import Persistence.Proofs.Metamodel.Supply
import Persistence.Proofs.Metamodel.Views
import Persistence.Proofs.Session.Act
import Persistence.Proofs.Session.Binding
import Persistence.Proofs.Session.ClosedSessions
import Persistence.Proofs.Session.Deferral
import Persistence.Proofs.Session.Demand
import Persistence.Proofs.Session.Departure
import Persistence.Proofs.Session.Enlisting
import Persistence.Proofs.Session.Executions
import Persistence.Proofs.Session.Leaving
import Persistence.Proofs.Session.Lookup
import Persistence.Proofs.Session.Phases
import Persistence.Proofs.Session.Reclaiming
import Persistence.Proofs.Session.Run
import Persistence.Proofs.Session.Stacking
import Persistence.Proofs.Session.Standing
import Persistence.Proofs.Session.Surrender
import Persistence.Proofs.Session.Tidiness
import Persistence.Proofs.Text.Digits
import Persistence.Proofs.Time.Calendar
import Persistence.Proofs.Time.InternetText
import Persistence.Proofs.Value.Plain
import Persistence.Proofs.Value.UuidText
import Persistence.Session.Basic
import Persistence.Session.Completion
import Persistence.Session.Environment
import Persistence.Session.Event
import Persistence.Session.Holder
import Persistence.Session.Identity
import Persistence.Session.Notice
import Persistence.Session.Outcome
import Persistence.Session.Registry
import Persistence.Session.Script
import Persistence.Session.Transaction
import Persistence.Settings.Basic
import Persistence.Settings.JsonForm
import Persistence.Settings.Properties
import Persistence.Text.Blank
import Persistence.Text.CaseTable
import Persistence.Text.Casing
import Persistence.Text.CodeRange
import Persistence.Text.Digits
import Persistence.Text.ExtendingTable
import Persistence.Text.Integer
import Persistence.Text.Quoted
import Persistence.Text.VacantTable
import Persistence.Text.Visible
import Persistence.Time.Date
import Persistence.Time.Instant
import Persistence.Time.InternetTime
import Persistence.Uuid
import Persistence.Value.Basic
import Persistence.Value.JsonForm
import Persistence.Value.Order
import Persistence.Value.Text
import Persistence.Proofs.Access.Tracking
import Persistence.Proofs.Metamodel.Compiling
import Persistence.Proofs.Metamodel.Tenancy
import Persistence.Proofs.Metamodel.Inheritance
import Persistence.Proofs.Metamodel.Hierarchies
import Persistence.Proofs.Metamodel.TargetNames
import Persistence.Proofs.Session.Provision
import Persistence.Proofs.Session.Admission
import Persistence.Proofs.Session.Transactions
import Persistence.Proofs.Number.Units
import Persistence.Proofs.Number.Rounding
import Persistence.Proofs.Number.Nearness
import Persistence.Proofs.Value.Likeness
import Persistence.Proofs.Value.Digests
import Persistence.Proofs.Value.Precedence
import Persistence.Proofs.Value.Agreement
import Persistence.Proofs.Metamodel.Instances
import Persistence.Proofs.Metamodel.Extension
import Persistence.Proofs.DataType.WholeNumbers
import Persistence.Proofs.Settings.FlatProperties
import Persistence.Proofs.Class.AccessorNames
import Persistence.Proofs.Class.TraitFields
