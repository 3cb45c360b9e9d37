import UriExpansion.Options.Basic

namespace UriExpansion.Options

/-- A notice has a message and the path of a field. -/
structure Notice where
  message : CodeText
  path : CodeText := []
  deriving DecidableEq

/-- A notice with a path shows it. -/
def Notice.line (notice : Notice) : CodeText :=
  if notice.path.isEmpty then .ofText "Validation error: ".toList ++ notice.message
  else
    .ofText "Validation error at '".toList ++ notice.path ++ .ofText "': ".toList ++ notice.message

/-- The report has one line for each notice. -/
def report (notices : List Notice) : CodeText :=
  (CodeText.ofText ['\n']).intercalate (notices.map Notice.line)

/-- A file, a document that is no mapping or an entry is refused. -/
inductive Problem where
  | unreadable (wording : CodeText)
  | notMapping (found : Datum)
  | unknownField (key : Datum)
  | notBoolean (field : Field) (found : Datum)
  | badPolicy (found : Datum)

namespace Problem

/-- The names of the policies in alphabetical order. -/
def policyNames : Datum :=
  .list [.text (.ofText MalformedPolicy.raise.name), .text (.ofText MalformedPolicy.skip.name)]

/-- The notice of a problem. -/
def notice : Problem → Notice
  | .unreadable wording =>
      { message := .ofText "Failed to load options: ".toList ++ wording }
  | .notMapping found =>
      { message := .ofText ("Options must be a mapping, got ".toList ++ found.kind) }
  | .unknownField key =>
      { message := .ofText "Unknown field '".toList ++ key.display ++ .ofText "'".toList
        path := key.display }
  | .notBoolean field found =>
      { message :=
          .ofText ("'".toList ++ field.name ++ "' must be a boolean, got ".toList ++ found.kind)
        path := .ofText field.name }
  | .badPolicy found =>
      { message :=
          .ofText ("'on_malformed' must be one of ".toList ++ policyNames.literal ++
            ", got ".toList ++ found.literal)
        path := .ofText Field.onMalformed.name }

/-- A notice shows the unknown key or the refused policy. -/
def isWritable : Problem → Bool
  | .unknownField key => key.isWritable
  | .badPolicy found => found.isWritable
  | _ => true

end Problem

/-- A key is known if it is the text of a field name. -/
def isKnownKey : Datum → Bool
  | .text name => Field.all.any fun field => CodeText.ofText field.name == name
  | _ => false

/-- A key that names no field is a problem. -/
def keyProblems (entries : List (Datum × Datum)) : List Problem :=
  (entries.filter fun entry => !isKnownKey entry.1).map fun entry => .unknownField entry.1

/-- A flag that is not a truth value is a problem. -/
def flagProblems (entries : List (Datum × Datum)) (field : Field) : List Problem :=
  match Datum.field? field.name entries with
  | some datum => if datum.boolean?.isSome then [] else [.notBoolean field datum]
  | none => []

/-- A policy that has no written name is a problem. -/
def policyProblems (entries : List (Datum × Datum)) : List Problem :=
  match Datum.field? Field.onMalformed.name entries with
  | some datum => if (MalformedPolicy.ofDatum? datum).isSome then [] else [.badPolicy datum]
  | none => []

/-- The keys are checked first, then the flags, then the policy. -/
def problems (entries : List (Datum × Datum)) : List Problem :=
  keyProblems entries ++ Field.flags.flatMap (flagProblems entries) ++ policyProblems entries

/-- The values of the entries replace the defaults. -/
def ofEntries (entries : List (Datum × Datum)) : Options where
  encode := ((Datum.field? Field.encode.name entries).bind Datum.boolean?).getD true
  onMalformed :=
    ((Datum.field? Field.onMalformed.name entries).bind MalformedPolicy.ofDatum?).getD .raise
  cacheExpansions :=
    ((Datum.field? Field.cacheExpansions.name entries).bind Datum.boolean?).getD true

/-- The validation of a document collects all of its problems. -/
def ofDatum : Datum → Except (List Problem) Options
  | .mapping entries =>
      if (problems entries).isEmpty then .ok (ofEntries entries) else .error (problems entries)
  | datum => .error [.notMapping datum]

end UriExpansion.Options
