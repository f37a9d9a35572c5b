import SchemaTypes.Main
import SchemaTypes.Proofs.Assembly.Resolution
import SchemaTypes.Proofs.Catalog.Affinity
import SchemaTypes.Proofs.Catalog.Members
import SchemaTypes.Proofs.Catalog.Rowid
import SchemaTypes.Proofs.Catalog.WithoutRowid
import SchemaTypes.Proofs.CommandLine.Directory
import SchemaTypes.Proofs.Config.Loading
import SchemaTypes.Proofs.Connection.MysqlUrl
import SchemaTypes.Proofs.Generation.Outcome
import SchemaTypes.Proofs.Import.Order
import SchemaTypes.Proofs.Mapping.Attributes
import SchemaTypes.Proofs.Mapping.Enumeration
import SchemaTypes.Proofs.Mapping.Insertion
import SchemaTypes.Proofs.Mapping.QualifiedNames
import SchemaTypes.Proofs.Mapping.Wrapping
import SchemaTypes.Proofs.Naming.ClassNames
import SchemaTypes.Proofs.Naming.Spellings
import SchemaTypes.Proofs.Naming.Stability
import SchemaTypes.Proofs.Printer.Arrangement
import SchemaTypes.Proofs.Printer.Keys
import SchemaTypes.Proofs.Printer.Unambiguous
import SchemaTypes.Proofs.TypeExpr.Flattening
import SchemaTypes.Proofs.TypeExpr.Parameters
import SchemaTypes.Proofs.TypeExpr.Precedence
import SchemaTypes.Report
import SchemaTypes.TypeExpr.Equal
