import UriExpansion.Datum.Basic
import UriExpansion.Numeric.Shortest
import UriExpansion.Text.Quoted

namespace UriExpansion.Datum

/-- The parts of a collection are separated by a comma and a space. -/
def separator : Text := [',', ' ']

/-- The items of a list stand in square brackets. -/
def inBrackets (items : List Text) : Text :=
  '[' :: Text.join separator items ++ [']']

/-- A single item of a tuple is followed by a comma. -/
def inParentheses : List Text → Text
  | [item] => '(' :: item ++ [',', ')']
  | items => '(' :: Text.join separator items ++ [')']

/-- The entries of a mapping stand in braces. -/
def inBraces (entries : List Text) : Text :=
  '{' :: Text.join separator entries ++ ['}']

mutual

/-- The literal form of a datum. -/
def literal : Datum → Text
  | .null => "None".toList
  | .boolean true => "True".toList
  | .boolean false => "False".toList
  | .integer value => Text.ofInt value
  | .real value => value.display
  | .text value => value.quoted
  | .bytes value => Text.quotedBytes value
  | .list items => inBrackets (literals items)
  | .tuple items => inParentheses (literals items)
  | .mapping entries => inBraces (entryLiterals entries)
  | .date year month day =>
      "datetime.date(".toList ++
        Text.join separator [Text.ofNat year, Text.ofNat month, Text.ofNat day] ++ [')']

/-- The literal forms of the items. -/
def literals : List Datum → List Text
  | [] => []
  | item :: rest => literal item :: literals rest

/-- A colon and a space stand between a key and its value. -/
def entryLiterals : List (Datum × Datum) → List Text
  | [] => []
  | (key, value) :: rest => (literal key ++ [':', ' '] ++ literal value) :: entryLiterals rest

end

mutual

/-- An integer with too many digits cannot be written. -/
def isWritable : Datum → Bool
  | .integer value => (Text.ofNat value.natAbs).length ≤ Text.digitLimit
  | .list items => areWritable items
  | .tuple items => areWritable items
  | .mapping entries => areEntriesWritable entries
  | _ => true

def areWritable : List Datum → Bool
  | [] => true
  | item :: rest => isWritable item && areWritable rest

def areEntriesWritable : List (Datum × Datum) → Bool
  | [] => true
  | (key, value) :: rest => isWritable key && isWritable value && areEntriesWritable rest

end

/-- Texts are shown as they are, and dates in their calendar form. -/
def display : Datum → CodeText
  | .text value => value
  | .date year month day =>
      CodeText.ofText (Text.ofNatPadded 4 year ++ '-' :: Text.ofNatPadded 2 month ++
        '-' :: Text.ofNatPadded 2 day)
  | datum => CodeText.ofText (literal datum)

/-- A bound datum is displayed with truth values in lower case. -/
def render : Datum → CodeText
  | .boolean true => CodeText.ofText "true".toList
  | .boolean false => CodeText.ofText "false".toList
  | datum => display datum

end UriExpansion.Datum
