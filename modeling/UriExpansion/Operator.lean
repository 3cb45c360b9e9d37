import UriExpansion.Text.LetterCase
import UriExpansion.Value

namespace UriExpansion

/-- The unknown operator stands for every name that selects no other one. -/
inductive Operator where
  | plain
  | prepend
  | append
  | join
  | list
  | opt
  | neg
  | unknown
  deriving DecidableEq

namespace Operator

/-- The name of an operator in lower case. -/
def writtenName? : Operator → Option Text
  | .plain => some []
  | .prepend => some ['p', 'r', 'e', 'f', 'i', 'x']
  | .append => some ['s', 'u', 'f', 'f', 'i', 'x']
  | .join => some ['j', 'o', 'i', 'n']
  | .list => some ['l', 'i', 's', 't']
  | .opt => some ['o', 'p', 't']
  | .neg => some ['n', 'e', 'g']
  | .unknown => none

/-- The known operators stand in the order of the format. -/
def known : List Operator :=
  [.plain, .prepend, .append, .join, .list, .opt, .neg]

/-- The operator of a name in upper or lower case. -/
def ofName (name : Text) : Operator :=
  (known.find? fun operator => operator.writtenName? == some name.lower).getD .unknown

/-- The operator of a name that may hold lone surrogates. -/
def ofPoints (name : CodeText) : Operator :=
  (known.find? fun operator => operator.writtenName?.map CodeText.ofText == some name.lower).getD
    .unknown

/-- The first value in order of declaration. -/
def firstValue? (bound : Bindings Value) : Option Value :=
  bound.entries.head?.map Prod.snd

/-- The argument stands before the joined text unless that text is empty. -/
def prepended (argument : CodeText) (value : Value) : CodeText :=
  let text := value.joined argument
  if text.isEmpty then [] else argument ++ text

/-- The argument stands after the joined text unless that text is empty. -/
def appended (argument : CodeText) (value : Value) : CodeText :=
  let text := value.joined argument
  if text.isEmpty then [] else text ++ argument

/-- The entries are ordered by the code points of their names. -/
def sortedByName (bound : Bindings Value) : List (Text × Value) :=
  bound.entries.mergeSort fun first second => Text.ordered first.1 second.1

/-- A pair is the name, an equals sign and the value joined by commas. -/
def pair (entry : Text × Value) : CodeText :=
  CodeText.ofText (entry.1 ++ ['=']) ++ entry.2.joined [',']

/-- The variables that are not empty give pairs in order of their names. -/
def pairs (bound : Bindings Value) : List CodeText :=
  ((sortedByName bound).filter fun entry => !entry.2.isEmpty).map pair

/-- A sequence is joined by the argument. -/
def listed (argument : CodeText) (value : Value) : CodeText :=
  if value.isSequence then value.joined argument else []

/-- Some variable is not empty. -/
def anyPresent (bound : Bindings Value) : Bool :=
  bound.entries.any fun entry => !entry.2.isEmpty

/-- Every variable is empty. -/
def allEmpty (bound : Bindings Value) : Bool :=
  bound.entries.all fun entry => entry.2.isEmpty

/-- An operation may turn bound variables and an argument into a text. -/
abbrev Operation := Bindings Value → CodeText → Option CodeText

/-- An operation on the first value has no result without variables. -/
def onFirst (change : CodeText → Value → CodeText) : Operation := fun bound argument =>
  (firstValue? bound).map (change argument)

/-- The operations of the operators that are written with a name. -/
def operations : List (Operator × Operation) :=
  [(.prepend, onFirst prepended),
    (.append, onFirst appended),
    (.join, fun bound argument => some (Text.join argument (pairs bound))),
    (.list, onFirst listed),
    (.opt, fun bound argument => some (if anyPresent bound then argument else [])),
    (.neg, fun bound argument => some (if allEmpty bound then argument else []))]

/-- The plain operator joins the first value, and the unknown one gives nothing. -/
def apply (operator : Operator) (bound : Bindings Value) (argument : CodeText) :
    Option CodeText :=
  match operator with
  | .plain => onFirst (fun _ => Value.joined [',']) bound argument
  | .unknown => some []
  | operator => (operations.lookup operator).bind fun operation => operation bound argument

/-- The effect of each operator. -/
theorem apply_eq (operator : Operator) (bound : Bindings Value) (argument : CodeText) :
    operator.apply bound argument =
      match operator with
      | .plain => (firstValue? bound).map (Value.joined [','])
      | .prepend => (firstValue? bound).map (prepended argument)
      | .append => (firstValue? bound).map (appended argument)
      | .join => some (Text.join argument (pairs bound))
      | .list => (firstValue? bound).map (listed argument)
      | .opt => some (if anyPresent bound then argument else [])
      | .neg => some (if allEmpty bound then argument else [])
      | .unknown => some [] := by
  cases operator <;> rfl

end Operator

end UriExpansion
