import UriExpansion.Proofs.JoinReading

namespace UriExpansion

namespace CodeText

variable {separator : Char} {items others : List Text}

end CodeText

namespace Template

end Template

end UriExpansion
