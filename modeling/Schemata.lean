import Schemata.Main
import Schemata.Recording
import Schemata.Postgres.Address
import Schemata.Postgres.Scripted
import Schemata.Proofs.Accessors.Collisions
import Schemata.Proofs.Accessors.Ends
import Schemata.Proofs.Accessors.Ranks
import Schemata.Proofs.Accessors.Reads
import Schemata.Proofs.Accessors.Renaming
import Schemata.Proofs.Accessors.Traversal
import Schemata.Proofs.Commands
import Schemata.Proofs.Documents.References
import Schemata.Proofs.Identifiers
import Schemata.Proofs.Insertions
import Schemata.Proofs.Interruptions
import Schemata.Proofs.Mirror
import Schemata.Proofs.Names.Columns
import Schemata.Proofs.Names.Patterns
import Schemata.Proofs.Ordering.Counters
import Schemata.Proofs.Postgres.Binding
import Schemata.Proofs.Records.FirstRows
import Schemata.Proofs.Records.Returned
import Schemata.Proofs.Sessions
import Schemata.Proofs.Tables.Columns
import Schemata.Proofs.Tables.Constraints
import Schemata.Proofs.WithoutSql
