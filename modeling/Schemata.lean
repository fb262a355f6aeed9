import Schemata.Config.Document
import Schemata.Interleaving
import Schemata.Proofs.CatalogOrder
import Schemata.Proofs.CellTexts
import Schemata.Proofs.ColumnLayout
import Schemata.Proofs.Delimiting
import Schemata.Proofs.Detection
import Schemata.Proofs.Folding
import Schemata.Proofs.HiddenRows
import Schemata.Proofs.History
import Schemata.Proofs.ListedDefault
import Schemata.Proofs.Numerals
import Schemata.Proofs.Precedence
import Schemata.Proofs.RoundTrip
import Schemata.Proofs.Serial
import Schemata.Proofs.SingleSchema
import Schemata.Proofs.Spellings
import Schemata.Proofs.TableTypes
import Schemata.Proofs.Failure
