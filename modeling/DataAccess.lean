import DataAccess.Main
import DataAccess.Schema.Builder
import DataAccess.Proofs.CommandLine.Listings
import DataAccess.Proofs.DeclaredTypeReader
import DataAccess.Proofs.Document.RoundTrip
import DataAccess.Proofs.Method.Agreement
import DataAccess.Proofs.Method.Arguments
import DataAccess.Proofs.Method.Assignment
import DataAccess.Proofs.Method.CanonicalText
import DataAccess.Proofs.Method.ColumnTypes
import DataAccess.Proofs.Method.Containment
import DataAccess.Proofs.Method.Contract
import DataAccess.Proofs.Method.Dialects
import DataAccess.Proofs.Method.FilterNames
import DataAccess.Proofs.Method.GeneratedKey
import DataAccess.Proofs.Method.Names
import DataAccess.Proofs.Method.Predicates
import DataAccess.Proofs.Method.Sources
import DataAccess.Proofs.Schema.Interchange
import DataAccess.Proofs.Schema.Lookup
import DataAccess.Proofs.Schema.Plan
import DataAccess.Proofs.Schema.Validation
import DataAccess.Proofs.Settings.Effective
import DataAccess.Proofs.Settings.Reach
import DataAccess.Proofs.Sql.Code
import DataAccess.Proofs.Sql.MarkerRuns
