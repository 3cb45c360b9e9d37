import UriExpansion.Template.Session
import UriExpansion.Options.File
import UriExpansion.Proofs.Session
import UriExpansion.Proofs.Division
import UriExpansion.Proofs.Marker
import UriExpansion.Proofs.Malformed
import UriExpansion.Proofs.Alphabet
import UriExpansion.Proofs.Delimiters
import UriExpansion.Proofs.Shape
import UriExpansion.Proofs.Skipping
import UriExpansion.Proofs.Concatenation
import UriExpansion.Proofs.Dependence
import UriExpansion.Proofs.CacheContents
import UriExpansion.Proofs.CacheHistory
import UriExpansion.Proofs.Rendering
import UriExpansion.Proofs.Decoding
import UriExpansion.Proofs.NameOrder
import UriExpansion.Proofs.SingleMarker
import UriExpansion.Proofs.JoinReading
import UriExpansion.Proofs.Interchange
import UriExpansion.Proofs.PlainRecovery
import UriExpansion.Proofs.Origin
import UriExpansion.Proofs.Affixes
import UriExpansion.Proofs.Loader
import UriExpansion.Proofs.LoaderSession
import UriExpansion.Proofs.LoadFailures
import UriExpansion.Proofs.LetterCase
import UriExpansion.Proofs.OperatorPart
import UriExpansion.Proofs.CanonicalEncoding
import UriExpansion.Proofs.ListReading
import UriExpansion.Proofs.Presence
import UriExpansion.Proofs.Declaration
import UriExpansion.Proofs.VariableOrder
import UriExpansion.Proofs.DeclarationOrder
import UriExpansion.Proofs.LogRecords
import UriExpansion.Proofs.Validation
import UriExpansion.Proofs.VariableList
import UriExpansion.Proofs.OperatorName
import UriExpansion.Proofs.Arguments
