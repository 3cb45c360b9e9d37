import UriExpansion.Proofs.FirstOccurrence
import UriExpansion.Proofs.Marker

namespace UriExpansion

namespace Marker

variable {body : Text} {marker : Marker}

/-- The variables of a body stand after its last bar. -/
def variableList (body : Text) : Text :=
  (body.splitOn '|').getLastD []

/-- A body may declare a name several times. -/
def declarations (body : Text) : List Text :=
  (specifications (variableList body)).map Prod.fst

theorem defaults_of_parse (parsed : parse body = .ok marker) :
    marker.defaults = defaultsOf (variableList body) := by
  unfold parse at parsed
  unfold variableList
  split at parsed
  · next declared single =>
      cases parsed
      rw [single]
      rfl
  · next written argument declared three =>
      cases parsed
      rw [three]
      rfl
  · exact absurd parsed (by simp)

/-- A parsed marker binds each name at the place of its first declaration. -/
theorem names_of_parse (parsed : parse body = .ok marker) :
    marker.defaults.names = (declarations body).eraseDups := by
  rw [defaults_of_parse parsed, defaultsOf, Bindings.names_ofList, declarations]

/-- A name that is declared again later stays the first one. -/
theorem head?_names_of_parse (parsed : parse body = .ok marker) :
    marker.defaults.names.head? = (declarations body).head? := by
  rw [names_of_parse parsed]
  cases declarations body with
  | nil => rfl
  | cons name rest => rw [List.eraseDups_cons, List.head?_cons, List.head?_cons]

/-- Declarations of distinct names are bound in the order in which they stand. -/
theorem entries_of_parse_of_nodup (parsed : parse body = .ok marker)
    (distinct : (declarations body).Nodup) :
    marker.defaults.entries = specifications (variableList body) := by
  rw [defaults_of_parse parsed, defaultsOf, Bindings.entries_ofList_of_nodup distinct]

end Marker

end UriExpansion
