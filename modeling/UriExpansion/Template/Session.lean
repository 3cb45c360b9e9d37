import UriExpansion.Template.Basic

namespace UriExpansion

/-- A call expands the template or lists its names. -/
inductive Call where
  | substitute (bindings : Bindings Datum) (encode : Option Bool)
  | variableNames

/-- A call answers with a text or with names. -/
inductive Answer where
  | text (text : CodeText)
  | names (names : List Text)
  deriving DecidableEq

namespace Template

/-- The run of one call. -/
def perform (template : Template) (cache : Cache) : Call → Run Answer
  | .substitute bindings encode => (template.substitute cache bindings encode).map .text
  | .variableNames => (template.variableNames cache).map .names

/-- Each call starts with the cache that the call before it left. -/
def session (template : Template) : Cache → List Call → List (Run Answer)
  | _, [] => []
  | cache, call :: rest =>
      let run := template.perform cache call
      run :: session template run.cache rest

end Template

end UriExpansion
