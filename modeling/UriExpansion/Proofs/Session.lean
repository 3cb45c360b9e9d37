import UriExpansion.Proofs.Effect

namespace UriExpansion.Template

/-- The same template parses its markers anew in every call. -/
def uncached (template : Template) : Template :=
  { template with options := { template.options with cacheExpansions := false } }

theorem effect_uncached (template : Template) (call : Call) :
    template.uncached.effect call = template.effect call := by
  cases call <;> rfl

/-- The runs of a session have the effects of their calls. -/
theorem session_of_isSound (template : Template) {cache : Cache} (sound : cache.IsSound)
    (calls : List Call) :
    (template.session cache calls).map Run.observed = calls.map template.effect := by
  induction calls generalizing cache with
  | nil => rfl
  | cons call rest inductionHypothesis =>
      obtain ⟨observed, later⟩ := template.perform_of_isSound sound call
      rw [session, List.map_cons, List.map_cons, observed, inductionHypothesis later]

/-- A call of a session is observed like a single call without a cache. -/
theorem session_observed (template : Template) (calls : List Call) :
    (template.session .empty calls).map Run.observed =
        calls.map (fun call => (template.uncached.perform .empty call).observed) ∧
      ∀ other : Template, (template == other) = true → ∀ history otherHistory : List Call,
        (template.session (template.cacheAfter history) calls).map Run.observed =
          (other.session (other.cacheAfter otherHistory) calls).map Run.observed := by
  constructor
  · rw [template.session_of_isSound Cache.isSound_empty]
    apply List.map_congr_left
    intro call _
    rw [(template.uncached.perform_of_isSound Cache.isSound_empty call).1, effect_uncached]
  · intro other equal history otherHistory
    obtain rfl := eq_of_beq equal
    rw [template.session_of_isSound (template.cacheAfter_isSound history),
      template.session_of_isSound (template.cacheAfter_isSound otherHistory)]

/-- A template that has failed serves later calls like a new one. -/
theorem session_observed_after_failure :
    let template : Template := { text := ['{', 'a', '}', '{', 'b', '|', 'c', '}'] }
    let calls := [.variableNames, .substitute (.ofList [(['a'], .integer 1)]) (some false)]
    (template == template) = true ∧
      (template.session (template.cacheAfter [.substitute .empty none]) calls).map Run.observed =
        (template.session (template.cacheAfter []) calls).map Run.observed := by
  intro template calls
  have equal : (template == template) = true := by decide
  exact ⟨equal, (session_observed template calls).2 template equal _ _⟩

end UriExpansion.Template
