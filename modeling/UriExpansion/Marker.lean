import UriExpansion.Operator

namespace UriExpansion

/-- A malformed body has neither no bars nor two bars. -/
structure Malformed where
  body : Text
  reason : Text
  deriving DecidableEq

namespace Malformed

/-- The message shows the body in braces and the reason. -/
def message (problem : Malformed) : Text :=
  "Malformed expansion '\x7b".toList ++ problem.body ++ "\x7d': ".toList ++ problem.reason

/-- This reason names the number of bars that was found. -/
def wrongBars (body : Text) (bars : Nat) : Malformed where
  body := body
  reason := "expected 'op|arg|vars' with exactly 2 '|' separators, found ".toList ++
    Text.ofNat bars

end Malformed

/-- A marker binds its variables to their defaults in order of declaration. -/
structure Marker where
  operator : Operator
  argument : Text
  defaults : Bindings Text
  name : Text
  deriving DecidableEq

namespace Marker

/-- Each specification is cut at its first equals sign, or has an empty default. -/
def specifications (text : Text) : List (Text × Text) :=
  (text.splitOn ',').map (Text.cutAt '=')

/-- A repeated name takes its last default. -/
def defaultsOf (text : Text) : Bindings Text :=
  Bindings.ofList (specifications text)

/-- The first character of the operator part is only a mark. -/
def parse (body : Text) : Except Malformed Marker :=
  match body.splitOn '|' with
  | [declared] =>
      .ok { operator := .plain, argument := [], defaults := defaultsOf declared, name := [] }
  | [written, argument, declared] =>
      let name := written.drop 1
      .ok { operator := .ofName name, argument, defaults := defaultsOf declared, name }
  | parts => .error (.wrongBars body (parts.length - 1))

/-- A specification is written with its default. -/
def renderSpecification (entry : Text × Text) : Text :=
  entry.1 ++ '=' :: entry.2

/-- The body that a marker is written as. -/
def render (marker : Marker) : Text :=
  let declared := Text.join [','] (marker.defaults.entries.map renderSpecification)
  if marker.name.isEmpty && marker.argument.isEmpty then declared
  else '-' :: marker.name ++ '|' :: marker.argument ++ '|' :: declared

/-- Two markers are equal if they agree on all parts up to order. -/
def agrees (first second : Marker) : Bool :=
  first.operator == second.operator && first.argument == second.argument &&
    first.defaults.agrees second.defaults && first.name == second.name

/-- The key of a marker leaves its variables out. -/
def key (marker : Marker) : Operator × Text × Text :=
  (marker.operator, marker.argument, marker.name)

end Marker

end UriExpansion
