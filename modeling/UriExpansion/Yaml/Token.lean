import UriExpansion.Text.CodePoint

namespace UriExpansion.Yaml

/-- A document is malformed, undecodable, cut short or has a scalar without a value. -/
inductive Fault where
  | malformed
  | undecodable
  | unfinished
  | codePointRange
  | codePointOverflow
  | powerOverflow
  | tooManyDigits (count : Nat)
  | yearRange
  | monthRange
  | dayRange
  | noDigits (base : Nat)
  deriving DecidableEq

/-- A broken token stands where the text has a fault. -/
inductive Token where
  | documentStart
  | documentEnd
  | blockSequenceStart
  | blockMappingStart
  | blockEnd
  | blockEntry
  | flowSequenceStart
  | flowSequenceEnd
  | flowMappingStart
  | flowMappingEnd
  | flowEntry
  | key
  | value
  | alias (name : Text)
  | anchor (name : Text)
  | plain (text : Text)
  | quoted (points : CodeText)
  | broken (fault : Fault)
  deriving DecidableEq

end UriExpansion.Yaml
