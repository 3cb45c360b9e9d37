import UriExpansion.Text.Printable

namespace UriExpansion.Text

/-- The apostrophe is the usual quote. -/
def apostrophe : Char := '\x27'

/-- A text with an apostrophe and no quotation mark takes quotation marks. -/
def quotationMark : Char := '\x22'

/-- The quote of a text. -/
def chooseQuote (text : Text) : Char :=
  if text.contains apostrophe && !text.contains quotationMark then quotationMark else apostrophe

/-- The hexadecimal digits fill a width with zeros on the left. -/
def paddedHex (width number : Nat) : Text :=
  (Nat.toDigits 16 number).leftpad width '0'

/-- A code is escaped in the shortest of the three widths that holds it. -/
def escapeCode (code : Nat) : Text :=
  if code < 0x100 then '\\' :: 'x' :: paddedHex 2 code
  else if code < 0x10000 then '\\' :: 'u' :: paddedHex 4 code
  else '\\' :: 'U' :: paddedHex 8 code

/-- The backslash, the quote and three control characters have short escapes. -/
def shortEscape? (quote character : Char) : Option Text :=
  if character = '\\' ∨ character = quote then some ['\\', character]
  else if character = '\n' then some ['\\', 'n']
  else if character = '\r' then some ['\\', 'r']
  else if character = '\t' then some ['\\', 't']
  else none

/-- Characters that are not printable are escaped. -/
def escapeCharacter (quote character : Char) : Text :=
  (shortEscape? quote character).getD
    (if isPrintable character then [character] else escapeCode character.toNat)

/-- The text between its quotes. -/
def quoted (text : Text) : Text :=
  let quote := chooseQuote text
  quote :: text.flatMap (escapeCharacter quote) ++ [quote]

/-- A byte outside the printable ASCII range is escaped. -/
def escapeByte (quote : Char) (byte : UInt8) : Text :=
  let character := Char.ofNat byte.toNat
  (shortEscape? quote character).getD
    (if 0x20 ≤ byte ∧ byte ≤ 0x7E then [character] else escapeCode byte.toNat)

/-- The bytes between quotes after the letter b. -/
def quotedBytes (bytes : List UInt8) : Text :=
  let quote := chooseQuote (bytes.map fun byte => Char.ofNat byte.toNat)
  'b' :: quote :: bytes.flatMap (escapeByte quote) ++ [quote]

end UriExpansion.Text
