import UriExpansion.Marker
import UriExpansion.Text.Quoted

namespace UriExpansion

/-- The records have two levels. -/
inductive LogLevel where
  | debug
  | warning
  deriving DecidableEq

/-- A record names an unknown operator, a skipped marker or a finished expansion. -/
inductive LogRecord where
  | unknownOperator (name : Text)
  | skipped (problem : Malformed)
  | expanded (markers : Nat) (template : Text)
  deriving DecidableEq

namespace LogRecord

/-- Only a skipped marker is a warning. -/
def level : LogRecord → LogLevel
  | .skipped _ => .warning
  | _ => .debug

/-- The text of a record. -/
def message : LogRecord → Text
  | .unknownOperator name =>
      "Unknown operator '".toList ++ name ++ "', expanding to empty string".toList
  | .skipped problem => "Skipping malformed expansion: ".toList ++ problem.message
  | .expanded markers template =>
      "Expanded ".toList ++ Text.ofNat markers ++ " marker(s) in ".toList ++ Text.quoted template

/-- An operator leaves a record only if it is unknown. -/
def ofOperator (operator : Operator) (name : Text) : List LogRecord :=
  if operator = .unknown then [.unknownOperator name] else []

end LogRecord

end UriExpansion
