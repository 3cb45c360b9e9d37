import UriExpansion.Numeric.Binary64
import UriExpansion.Text.CodePoint

namespace UriExpansion

/-- A datum is a scalar, a sequence, an ordered mapping or a calendar date. -/
inductive Datum where
  | null
  | boolean (value : Bool)
  | integer (value : Int)
  | real (value : Binary64)
  | text (value : CodeText)
  | bytes (value : List UInt8)
  | list (items : List Datum)
  | tuple (items : List Datum)
  | mapping (entries : List (Datum × Datum))
  | date (year month day : Nat)

namespace Datum

/-- The name of the kind of a datum. -/
def kind : Datum → Text
  | .null => "NoneType".toList
  | .boolean _ => "bool".toList
  | .integer _ => "int".toList
  | .real _ => "float".toList
  | .text _ => "str".toList
  | .bytes _ => "bytes".toList
  | .list _ => "list".toList
  | .tuple _ => "tuple".toList
  | .mapping _ => "dict".toList
  | .date _ _ _ => "date".toList

/-- The absent binding is the null datum. -/
def isNull : Datum → Bool
  | .null => true
  | _ => false

/-- The truth value of a boolean datum. -/
def boolean? : Datum → Option Bool
  | .boolean value => some value
  | _ => none

/-- Zero, null and empty data are false in a condition. -/
def isTruthy : Datum → Bool
  | .null => false
  | .boolean value => value
  | .integer value => value != 0
  | .real (.finite _ units) => units != 0
  | .text value => !value.isEmpty
  | .bytes value => !value.isEmpty
  | .list items | .tuple items => !items.isEmpty
  | .mapping entries => !entries.isEmpty
  | _ => true

/-- A finite number as a multiple of the smallest positive binary number. -/
def amount? : Datum → Option Int
  | .boolean value => some (if value then Binary64.unitsOfOne else 0)
  | .integer value => some (value * Binary64.unitsOfOne)
  | .real (.finite negative units) => some (if negative then -units else units)
  | _ => none

mutual

/-- Keys are the same if they are equal as numbers, texts, dates or tuples. -/
def sameKey : Datum → Datum → Bool
  | .null, .null => true
  | .text first, .text second => first == second
  | .bytes first, .bytes second => first == second
  | .date year month day, .date otherYear otherMonth otherDay =>
      year == otherYear && month == otherMonth && day == otherDay
  | .tuple first, .tuple second => sameKeys first second
  | .real (.infinite first), .real (.infinite second) => first == second
  | first, second =>
      match first.amount?, second.amount? with
      | some amount, some other => amount == other
      | _, _ => false

/-- Tuples are the same keys if they agree item by item. -/
def sameKeys : List Datum → List Datum → Bool
  | [], [] => true
  | first :: firsts, second :: seconds => sameKey first second && sameKeys firsts seconds
  | _, _ => false

end

/-- The entries with a value replaced or with a new entry at the end. -/
def putEntry (same : Datum → Datum → Bool) (key value : Datum) :
    List (Datum × Datum) → List (Datum × Datum)
  | [] => [(key, value)]
  | entry :: rest =>
      if same entry.1 key then (entry.1, value) :: rest
      else entry :: putEntry same key value rest

/-- A repeated key keeps its first position and takes its last value. -/
def ofEntries (same : Datum → Datum → Bool) (entries : List (Datum × Datum)) : Datum :=
  .mapping (entries.foldl (fun current entry => putEntry same entry.1 entry.2 current) [])

/-- The value of a text key. -/
def field? (name : Text) : List (Datum × Datum) → Option Datum
  | [] => none
  | (.text key, value) :: rest =>
      if key = CodeText.ofText name then some value else field? name rest
  | _ :: rest => field? name rest

end Datum

end UriExpansion
