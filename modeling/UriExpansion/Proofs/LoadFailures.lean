import UriExpansion.Options.File
import UriExpansion.Proofs.Loader
import UriExpansion.Proofs.Traversal

namespace UriExpansion.Options

section

variable {Exception : Type}

end

namespace Loader

section

variable {File Exception : Type} (reader : Reader File Exception) (loader : Loader) {file : File}

end

end Loader

end UriExpansion.Options
