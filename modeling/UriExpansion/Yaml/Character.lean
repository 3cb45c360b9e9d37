import UriExpansion.Text.Basic

namespace UriExpansion.Yaml

/-- These characters end a line. -/
def isBreak (character : Char) : Bool :=
  character == '\n' || character == '\u0085' || character == '\u2028' || character == '\u2029'

/-- A space, a tab or the end of a line separates tokens. -/
def isBlank (character : Char) : Bool :=
  character == ' ' || character == '\t' || isBreak character

/-- A space or a tab stands inside a line. -/
def isInnerBlank (character : Char) : Bool :=
  character == ' ' || character == '\t'

/-- The end of a text counts as a blank. -/
def startsBlank (text : Text) : Bool :=
  text.head?.all isBlank

/-- These characters stand for the collections and separators of the flow style. -/
def isFlowMark (character : Char) : Bool :=
  character ∈ [',', '[', ']', '{', '}']

/-- A document holds no control characters except tabs and line ends. -/
def isReadable (character : Char) : Bool :=
  let code := character.toNat
  code == 0x09 || code == 0x0A || code == 0x0D || code == 0x85 ||
    (0x20 ≤ code && code ≤ 0x7E) || (0xA0 ≤ code && code ≤ 0xFFFD) || 0x10000 ≤ code

/-- The mark of three equal characters stands alone on the start of its line. -/
def startsWithMark (mark : Char) (text : Text) : Bool :=
  text.take 3 == [mark, mark, mark] && startsBlank (text.drop 3)

/-- The marks of three hyphens and three points separate documents. -/
def startsDocumentMark (text : Text) : Bool :=
  startsWithMark '-' text || startsWithMark '.' text

/-- Line and paragraph separators are kept, and other line ends become line feeds. -/
def lineEnd (character : Char) : Char :=
  if character = '\u0085' then '\n' else character

/-- Each carriage return, alone or before a line feed, becomes a line feed. -/
def unifyLines : Text → Text
  | [] => []
  | '\r' :: '\n' :: rest => '\n' :: unifyLines rest
  | '\r' :: rest => '\n' :: unifyLines rest
  | character :: rest => character :: unifyLines rest

end UriExpansion.Yaml
