import UriExpansion.Bindings
import UriExpansion.Datum.Display
import UriExpansion.Text.PercentEncoding

namespace UriExpansion

/-- A value is one text or a sequence of texts. -/
inductive Value where
  | scalar (text : CodeText)
  | sequence (items : List CodeText)
  deriving DecidableEq

/-- An integer may have too many digits, and a surrogate cannot be encoded. -/
inductive Value.Fault where
  | tooManyDigits
  | loneSurrogate (text : CodeText)
  deriving DecidableEq

namespace Datum

/-- The items of a list or of a tuple. -/
def items? : Datum → Option (List Datum)
  | .list items => some items
  | .tuple items => some items
  | _ => none

/-- The defaults apply to null data, so these count as absent. -/
def present (bindings : Bindings Datum) : Bindings Datum :=
  bindings.filterMap fun datum => if datum.isNull then none else some datum

end Datum

namespace Value

/-- A sequence is empty only without items. -/
def isEmpty : Value → Bool
  | .scalar text => text.isEmpty
  | .sequence items => items.isEmpty

/-- A sequence is told from a single text. -/
def isSequence : Value → Bool
  | .scalar _ => false
  | .sequence _ => true

/-- The items of a sequence with the separator between them. -/
def joined (separator : CodeText) : Value → CodeText
  | .scalar text => text
  | .sequence items => Text.join separator items

/-- The text of a datum that can be written. -/
def textOf (datum : Datum) : Except Fault CodeText :=
  if datum.isWritable then .ok datum.render else .error .tooManyDigits

/-- UTF-8 has no bytes for a surrogate. -/
def percentEncoded (text : CodeText) : Except Fault CodeText :=
  match text.toText? with
  | some characters => .ok (CodeText.ofText (PercentEncoding.encode characters))
  | none => .error (.loneSurrogate text)

/-- Encoding is skipped if it is turned off. -/
def encoded (encode : Bool) (text : CodeText) : Except Fault CodeText :=
  if encode then percentEncoded text else .ok text

/-- All items of a sequence are rendered before the first one is encoded. -/
def ofDatum (encode : Bool) (datum : Datum) : Except Fault Value :=
  match datum.items? with
  | some items => do
      let texts ← items.mapM textOf
      (texts.mapM (encoded encode)).map .sequence
  | none => do
      let text ← textOf datum
      (encoded encode text).map .scalar

/-- The value of an entry under its name. -/
def ofEntry (encode : Bool) (entry : Text × Datum) : Except Fault (Text × Value) :=
  (ofDatum encode entry.2).map fun value => (entry.1, value)

/-- The values of all data that are present, up to the first fault. -/
def prepare (encode : Bool) (bindings : Bindings Datum) : Except Fault (Bindings Value) :=
  ((Datum.present bindings).entries.mapM (ofEntry encode)).map .ofList

end Value

end UriExpansion
