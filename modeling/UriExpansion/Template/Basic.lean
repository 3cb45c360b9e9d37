import UriExpansion.Options.Basic
import UriExpansion.Segment
import UriExpansion.Template.Log

namespace UriExpansion

/-- A template is a text with its options. -/
structure Template where
  text : Text
  options : Options := {}
  deriving DecidableEq

/-- The cache maps the bodies that were parsed to their markers. -/
abbrev Cache := Bindings Marker

/-- A call fails at a datum, a malformed marker or an operator. -/
inductive Failure where
  | unprepared (cause : Value.Fault)
  | malformed (problem : Malformed)
  | noVariable
  deriving DecidableEq

/-- A call has an outcome and leaves records and a cache. -/
structure Run (A : Type) where
  outcome : Except Failure A
  log : List LogRecord
  cache : Cache

/-- A run with the result of a success changed. -/
def Run.map {A B : Type} (change : A → B) (run : Run A) : Run B where
  outcome := run.outcome.map change
  log := run.log
  cache := run.cache

namespace Template

/-- The written form of a template. -/
def description (template : Template) : Text :=
  "URITemplate(".toList ++ Text.quoted template.text ++ [')']

/-- The segments of the text. -/
def segments (template : Template) : List Segment :=
  Segment.scan template.text

/-- The bodies of the markers in order. -/
def bodies (template : Template) : List Text :=
  Segment.bodies template.segments

/-- Only a parsed marker enters the cache. -/
def read (template : Template) (cache : Cache) (body : Text) : Except Malformed Marker × Cache :=
  if template.options.cacheExpansions then
    match cache.get? body with
    | some marker => (.ok marker, cache)
    | none =>
        match Marker.parse body with
        | .ok marker => (.ok marker, cache.insert body marker)
        | .error problem => (.error problem, cache)
  else (Marker.parse body, cache)

/-- A caller's value takes the place of the default of its variable. -/
def bind (values : Bindings Value) (defaults : Bindings Text) : Bindings Value :=
  defaults.map fun name default => (values.get? name).getD (.scalar (CodeText.ofText default))

/-- The policy decides about a malformed marker. -/
def expandMarker (policy : MalformedPolicy) (values : Bindings Value)
    (parsed : Except Malformed Marker) : Except Failure CodeText × List LogRecord :=
  match parsed with
  | .ok marker =>
      let text :=
        marker.operator.apply (bind values marker.defaults) (CodeText.ofText marker.argument)
      ((text.map Except.ok).getD (.error .noVariable),
        LogRecord.ofOperator marker.operator marker.name)
  | .error problem =>
      match policy with
      | .raise => (.error (.malformed problem), [])
      | .skip => (.ok [], [.skipped problem])

/-- The segments are expanded from left to right up to the first failure. -/
def expandSegments (template : Template) (values : Bindings Value) :
    Cache → List Segment → Run CodeText
  | cache, [] => { outcome := .ok [], log := [], cache }
  | cache, .literal character :: rest =>
      (expandSegments template values cache rest).map (.character character :: ·)
  | cache, .marker body :: rest =>
      let (parsed, cache) := template.read cache body
      match expandMarker template.options.onMalformed values parsed with
      | (.error failure, records) => { outcome := .error failure, log := records, cache }
      | (.ok text, records) =>
          let run := (expandSegments template values cache rest).map (text ++ ·)
          { run with log := records ++ run.log }

/-- A successful expansion ends with a record of the number of markers. -/
def finish (template : Template) (run : Run CodeText) : Run CodeText :=
  match run.outcome with
  | .ok _ => { run with log := run.log ++ [.expanded template.bodies.length template.text] }
  | .error _ => run

/-- The encoding may be overridden for one call. -/
def prepare (template : Template) (bindings : Bindings Datum) (encode : Option Bool) :
    Except Value.Fault (Bindings Value) :=
  Value.prepare (encode.getD template.options.encode) bindings

/-- The values are prepared before the first marker is scanned. -/
def substitute (template : Template) (cache : Cache) (bindings : Bindings Datum)
    (encode : Option Bool) : Run CodeText :=
  match template.prepare bindings encode with
  | .error cause => { outcome := .error (.unprepared cause), log := [], cache }
  | .ok values => template.finish (template.expandSegments values cache template.segments)

/-- The declared names of the bodies with repetitions. -/
def declaredNames (template : Template) : Cache → List Text → Run (List Text)
  | cache, [] => { outcome := .ok [], log := [], cache }
  | cache, body :: rest =>
      match template.read cache body with
      | (.error problem, cache) => { outcome := .error (.malformed problem), log := [], cache }
      | (.ok marker, cache) =>
          (declaredNames template cache rest).map (marker.defaults.names ++ ·)

/-- The names of a template in order of first declaration. -/
def variableNames (template : Template) (cache : Cache) : Run (List Text) :=
  (template.declaredNames cache template.bodies).map List.eraseDups

end Template

/-- An argument is bound already, or the arguments are no options. -/
inductive ExpansionError where
  | boundName (name : Text)
  | badArguments (cause : Options.ArgumentError)

/-- The names that a single expansion binds itself. -/
def boundNames : List Text :=
  ["template".toList, "values".toList]

/-- A single expansion takes its options from named arguments. -/
def expand (text : Text) (bindings : Bindings Datum) (arguments : Bindings Datum) :
    Except ExpansionError (Run CodeText) :=
  match arguments.names.find? boundNames.contains with
  | some name => .error (.boundName name)
  | none =>
      match Options.ofArguments arguments with
      | .error cause => .error (.badArguments cause)
      | .ok options => .ok (Template.substitute { text, options } .empty bindings none)

end UriExpansion
