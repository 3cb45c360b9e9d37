import UriExpansion.Bindings
import UriExpansion.Datum.Display

namespace UriExpansion

/-- A malformed marker either fails the call or expands to nothing. -/
inductive MalformedPolicy where
  | raise
  | skip
  deriving DecidableEq

namespace MalformedPolicy

/-- The written name of a policy. -/
def name : MalformedPolicy → Text
  | .raise => "raise".toList
  | .skip => "skip".toList

/-- Only the written names are policies. -/
def ofDatum? : Datum → Option MalformedPolicy
  | .text text => [raise, skip].find? fun policy => CodeText.ofText policy.name == text
  | _ => none

end MalformedPolicy

/-- The options of a template, with their defaults. -/
structure Options where
  encode : Bool := true
  onMalformed : MalformedPolicy := .raise
  cacheExpansions : Bool := true
  deriving DecidableEq

namespace Options

/-- Each option is a field. -/
inductive Field where
  | encode
  | onMalformed
  | cacheExpansions
  deriving DecidableEq

namespace Field

/-- The written name of a field. -/
def name : Field → Text
  | .encode => "encode".toList
  | .onMalformed => "on_malformed".toList
  | .cacheExpansions => "cache_expansions".toList

/-- All fields. -/
def all : List Field :=
  [.encode, .onMalformed, .cacheExpansions]

/-- The fields that hold truth values are checked in this order. -/
def flags : List Field :=
  [.encode, .cacheExpansions]

/-- The field of a name. -/
def ofName? (name : Text) : Option Field :=
  all.find? fun field => field.name == name

end Field

/-- Arguments fail at a name that is no field or at a bad policy. -/
inductive ArgumentError where
  | boundName (name : Text)
  | unknownName (name : Text)
  | badPolicy (found : Datum)

/-- The name of the new options themselves. -/
def ownName : Text := "self".toList

/-- The error of a name that is no field. -/
def nameError (name : Text) : ArgumentError :=
  if name = ownName then .boundName name else .unknownName name

/-- A flag takes any datum as a condition, and its default is true. -/
def flag (arguments : Bindings Datum) (field : Field) : Bool :=
  (arguments.get? field.name).elim true Datum.isTruthy

/-- The options that named arguments build. -/
def ofArguments (arguments : Bindings Datum) : Except ArgumentError Options :=
  match arguments.names.find? fun name => (Field.ofName? name).isNone with
  | some name => .error (nameError name)
  | none =>
      let build (policy : MalformedPolicy) : Options :=
        { encode := flag arguments .encode
          onMalformed := policy
          cacheExpansions := flag arguments .cacheExpansions }
      match arguments.get? Field.onMalformed.name with
      | none => .ok (build .raise)
      | some datum =>
          match MalformedPolicy.ofDatum? datum with
          | some policy => .ok (build policy)
          | none => .error (.badPolicy datum)

end Options

end UriExpansion
