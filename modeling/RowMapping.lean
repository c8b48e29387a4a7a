import RowMapping.ClassTable.Described
import RowMapping.CommandLine.Run
import RowMapping.Main
import RowMapping.Row.ContentValues
import RowMapping.Proofs.Construction.Fits
import RowMapping.Proofs.Imports.Consistency
import RowMapping.Proofs.Unit.Hygiene
import RowMapping.Proofs.Unit.Columns
import RowMapping.Row.ResultSet
import RowMapping.Proofs.Plan.Faults
import RowMapping.Proofs.Settings.Getters
import RowMapping.Proofs.Unit.Faults
import RowMapping.Proofs.Unit.Diagnostics
import RowMapping.Proofs.Methods.Calls
import RowMapping.Proofs.Hint.Equality
import RowMapping.Proofs.Hint.Nameable
import RowMapping.Proofs.Hint.Unions
import RowMapping.Proofs.Hint.Bare
import RowMapping.Proofs.Hint.KeepsUnions
import RowMapping.Proofs.Hint.Weight
import RowMapping.Proofs.Hint.Names
import RowMapping.Proofs.Methods.Annotated
import RowMapping.Proofs.Hint.Described
import RowMapping.Proofs.Row.Access
import RowMapping.Proofs.Command.Outcomes
import RowMapping.Proofs.Command.Targets
import RowMapping.Proofs.Settings.Loading
import RowMapping.Proofs.Unit.Adapters
import RowMapping.Proofs.Unit.Capture
import RowMapping.Proofs.Plan.Calls
import RowMapping.Proofs.Construction.OwnFields
import RowMapping.Proofs.Construction.HostKinds
import RowMapping.Proofs.Supply.Requests
import RowMapping.Proofs.Plan.Expressions
import RowMapping.Proofs.Plan.Scoped
import RowMapping.Proofs.TypeName.Alike
import RowMapping.Proofs.Hint.Alike
import RowMapping.Proofs.Hint.Order
import RowMapping.Proofs.Methods.EqualHints
import RowMapping.Proofs.TypeName.Renaming
import RowMapping.Proofs.Methods.Visible
import RowMapping.Proofs.Construction.Markers
import RowMapping.Proofs.Plan.Composed
import RowMapping.Proofs.Source.Layout
import RowMapping.Proofs.Text.Escapes
import RowMapping.Proofs.Methods.NamedClasses
import RowMapping.Proofs.Imports.Owners
import RowMapping.Proofs.Text.Words
import RowMapping.Proofs.TypeName.Native
