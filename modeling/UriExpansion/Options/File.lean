import UriExpansion.Options.Loader
import UriExpansion.Yaml.Document

namespace UriExpansion.Options

/-- A file is missing or holds bytes. -/
inductive File where
  | missing
  | content (bytes : List UInt8)

namespace File

/-- The document of a file. -/
def document : File → Except Yaml.Fault Datum
  | .missing => .error .malformed
  | .content bytes => Yaml.read bytes

/-- Only a file that is missing or malformed is reported. -/
def reader : Reader File Yaml.Fault where
  read := document
  isReported := (· == .malformed)
  wording _ := []

end File

end UriExpansion.Options
