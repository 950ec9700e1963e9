import QueryBuilder.Proofs.Config.Override
import QueryBuilder.Proofs.Config.Reordered
import QueryBuilder.Proofs.Join.Chain
import QueryBuilder.Proofs.Join.ForeignKey
import QueryBuilder.Proofs.Join.Resolution
import QueryBuilder.Proofs.Literal.Independence
import QueryBuilder.Proofs.Rendering.Column
import QueryBuilder.Proofs.Schema.Construction
import QueryBuilder.Proofs.Schema.Registration
import QueryBuilder.Proofs.Session.Count
import QueryBuilder.Proofs.Session.Lookup
import QueryBuilder.Proofs.Session.Run
import QueryBuilder.Proofs.Session.SafeCreation
import QueryBuilder.Proofs.Sql.Lossless
import QueryBuilder.Proofs.Sql.Table
import QueryBuilder.Proofs.Sql.Write
import QueryBuilder.Proofs.Value.Reading
import QueryBuilder.Schema.Registry
