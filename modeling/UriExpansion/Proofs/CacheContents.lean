import Mathlib.Data.List.TakeWhile
import UriExpansion.Proofs.Malformed

namespace UriExpansion

/-- The bodies with their markers, without the malformed bodies. -/
def Marker.entries (bodies : List Text) : List (Text × Marker) :=
  bodies.filterMap fun body => (parse body).toOption.map fun marker => (body, marker)

namespace Marker

theorem entries_append (first second : List Text) :
    entries (first ++ second) = entries first ++ entries second :=
  List.filterMap_append

theorem entries_of_parse {body : Text} {marker : Marker} (parsed : parse body = .ok marker) :
    entries [body] = [(body, marker)] := by
  simp [entries, parsed, Except.toOption]

theorem entries_of_error {body : Text} {problem : Malformed}
    (refused : parse body = .error problem) : entries [body] = [] := by
  simp [entries, refused, Except.toOption]

theorem entries_of_isMalformed {body : Text} (malformed : isMalformed body = true) :
    entries [body] = [] :=
  entries_of_error (parse_of_isMalformed malformed)

theorem parse_of_mem_entries {bodies : List Text} {entry : Text × Marker}
    (member : entry ∈ entries bodies) : parse entry.1 = .ok entry.2 := by
  obtain ⟨body, _, found⟩ := List.mem_filterMap.mp member
  cases parsed : parse body with
  | error problem => simp [parsed, Except.toOption] at found
  | ok marker =>
      simp only [parsed, Except.toOption, Option.map_some, Option.some.injEq] at found
      rw [← found, parsed]

theorem entries_subset {first second : List Text} (known : second ⊆ first) :
    entries second ⊆ entries first := by
  intro entry member
  obtain ⟨body, inside, found⟩ := List.mem_filterMap.mp member
  exact List.mem_filterMap.mpr ⟨body, known inside, found⟩

/-- The bodies that have a marker are the well-formed ones. -/
theorem map_fst_entries (bodies : List Text) :
    (entries bodies).map Prod.fst = bodies.filter isWellFormed := by
  induction bodies with
  | nil => rfl
  | cons body rest inductionHypothesis =>
      have parts : entries (body :: rest) = entries [body] ++ entries rest :=
        entries_append [body] rest
      rw [parts, List.map_append, inductionHypothesis]
      obtain ⟨wellFormed, marker, parsed⟩ | ⟨malformed, refused⟩ := parse_cases body
      · rw [entries_of_parse parsed, List.filter_cons_of_pos (by simp [wellFormed])]
        rfl
      · rw [entries_of_error refused, List.filter_cons_of_neg (by simp [malformed])]
        rfl

end Marker

namespace Cache

variable {cache : Cache}

/-- An insertion into a cache changes nothing or adds an entry at the end. -/
theorem entries_prefix_insert (sound : cache.IsSound) {body : Text} {marker : Marker}
    (parsed : Marker.parse body = .ok marker) :
    cache.entries <+: (cache.insert body marker).entries := by
  cases found : cache.get? body with
  | none =>
      rw [Bindings.entries_insert_of_get?_eq_none found]
      exact List.prefix_append _ _
  | some other =>
      obtain rfl : marker = other := Except.ok.inj (parsed.symm.trans (sound body other found))
      have same := Bindings.insert_of_get?_eq_some found
      simp [same]

/-- An update with parsed bodies only adds entries at the end. -/
theorem update_of_parse (sound : cache.IsSound) {entries : List (Text × Marker)}
    (parsed : ∀ entry ∈ entries, Marker.parse entry.1 = .ok entry.2) :
    IsSound (cache.update entries) ∧ cache.entries <+: (cache.update entries).entries := by
  induction entries generalizing cache with
  | nil => exact ⟨sound, List.prefix_rfl⟩
  | cons entry rest inductionHypothesis =>
      obtain ⟨first, later⟩ := List.forall_mem_cons.mp parsed
      obtain ⟨kept, added⟩ := inductionHypothesis (isSound_insert sound first) later
      exact ⟨kept, (entries_prefix_insert sound first).trans added⟩

end Cache

namespace Template

/-- The entries that scanned bodies leave in a cache, if parsed markers are kept. -/
def kept (template : Template) (bodies : List Text) : List (Text × Marker) :=
  if template.options.cacheExpansions then Marker.entries bodies else []

variable (template : Template) {cache : Cache}

@[simp] theorem kept_nil : template.kept [] = [] := by
  simp [kept, Marker.entries]

theorem kept_append (first second : List Text) :
    template.kept (first ++ second) = template.kept first ++ template.kept second := by
  unfold kept
  split
  · exact Marker.entries_append first second
  · rfl

theorem kept_of_isMalformed {body : Text} (malformed : Marker.isMalformed body = true) :
    template.kept [body] = [] := by
  unfold kept
  split
  · exact Marker.entries_of_isMalformed malformed
  · rfl

theorem kept_subset {first second : List Text} (known : second ⊆ first) :
    template.kept second ⊆ template.kept first := by
  unfold kept
  split
  · exact Marker.entries_subset known
  · exact List.Subset.refl []

theorem parse_of_mem_kept {bodies : List Text} {entry : Text × Marker}
    (member : entry ∈ template.kept bodies) : Marker.parse entry.1 = .ok entry.2 := by
  unfold kept at member
  split at member
  · exact Marker.parse_of_mem_entries member
  · exact absurd member List.not_mem_nil

/-- The lookup of a body leaves the entry of this body in the cache. -/
theorem read_cache (sound : cache.IsSound) (body : Text) :
    (template.read cache body).2 = cache.update (template.kept [body]) := by
  unfold read kept
  split
  · cases found : cache.get? body with
    | some marker =>
        rw [Marker.entries_of_parse (sound body marker found)]
        exact (Bindings.insert_of_get?_eq_some found).symm
    | none =>
        cases parsed : Marker.parse body with
        | ok marker =>
            rw [Marker.entries_of_parse parsed]
            rfl
        | error problem =>
            rw [Marker.entries_of_error parsed]
            rfl
  · rfl

/-- The bodies that a call goes past before it stops. -/
def passed (policy : MalformedPolicy) (bodies : List Text) : List Text :=
  bodies.takeWhile fun body => !policy.stopsAt body

variable {policy : MalformedPolicy} {body : Text}

theorem passed_cons_of_stop (stop : policy.stopsAt body = true) (rest : List Text) :
    passed policy (body :: rest) = [] :=
  List.takeWhile_cons_of_neg (by simp [stop])

theorem passed_cons_of_pass (pass : policy.stopsAt body = false) (rest : List Text) :
    passed policy (body :: rest) = body :: passed policy rest :=
  List.takeWhile_cons_of_pos (by simp [pass])

/-- A call that stops nowhere goes past all bodies. -/
theorem passed_of_find?_eq_none {bodies : List Text}
    (nowhere : bodies.find? policy.stopsAt = none) : passed policy bodies = bodies := by
  have goesOn : ∀ body ∈ bodies, (!policy.stopsAt body) = true := by simpa using nowhere
  exact List.takeWhile_eq_self_iff.mpr goesOn

/-- A call that stops goes past the bodies before the first malformed one. -/
theorem passed_of_find?_eq_some {bodies : List Text}
    (stop : bodies.find? policy.stopsAt = some body) :
    passed policy bodies = bodies.takeWhile Marker.isWellFormed := by
  obtain ⟨rfl, _⟩ := MalformedPolicy.isMalformed_of_stopsAt (List.find?_some stop)
  rfl

/-- A body at which a call stops leaves the cache as it is. -/
theorem update_kept_of_stop (stop : policy.stopsAt body = true) (rest : List Text) :
    cache.update (template.kept [body]) =
      cache.update (template.kept (passed policy (body :: rest))) := by
  have malformed := (MalformedPolicy.isMalformed_of_stopsAt stop).2
  rw [template.kept_of_isMalformed malformed, passed_cons_of_stop stop, kept_nil]

/-- A body that a call goes past stands before the bodies after it. -/
theorem update_kept_of_pass (pass : policy.stopsAt body = false) (rest : List Text) :
    (cache.update (template.kept [body])).update (template.kept (passed policy rest)) =
      cache.update (template.kept (passed policy (body :: rest))) := by
  have parts : template.kept (body :: passed policy rest) =
      template.kept [body] ++ template.kept (passed policy rest) :=
    template.kept_append [body] _
  rw [passed_cons_of_pass pass, parts, Bindings.update_append]

/-- An expansion leaves the entries of the bodies that it goes past. -/
theorem expandSegments_cache (sound : cache.IsSound) (values : Bindings Value)
    (segments : List Segment) :
    (template.expandSegments values cache segments).cache =
      cache.update (template.kept
        (passed template.options.onMalformed (Segment.bodies segments))) := by
  induction segments generalizing cache with
  | nil => exact congrArg cache.update template.kept_nil.symm
  | cons segment rest inductionHypothesis =>
      cases segment with
      | literal character => exact inductionHypothesis sound
      | marker body =>
          have bodies : Segment.bodies (.marker body :: rest) = body :: Segment.bodies rest := rfl
          obtain ⟨parsed, nextSound⟩ := template.read_of_isSound sound body
          have extended := template.read_cache sound body
          have failure := Segment.error?_expansion_marker template.options.onMalformed values body
          rw [Segment.expansion, Segment.effect, ← parsed] at failure
          rcases read : template.read cache body with ⟨marker, next⟩
          rcases expanded : expandMarker template.options.onMalformed values marker with
            ⟨outcome, records⟩
          rw [read] at nextSound extended failure
          simp only [expanded] at failure
          rw [bodies]
          cases stop : template.options.onMalformed.stopsAt body with
          | true =>
              rw [if_pos stop, error?_eq_some_iff] at failure
              rw [← template.update_kept_of_stop stop, ← extended]
              simp only [expandSegments, read, expanded, failure]
          | false =>
              rw [if_neg (by simp [stop]), error?_eq_none_iff] at failure
              obtain ⟨text, success⟩ := failure
              rw [← template.update_kept_of_pass stop, ← extended, ← inductionHypothesis nextSound]
              simp only [expandSegments, read, expanded, success, Run.map]

/-- A listing of names leaves the bodies before the first malformed one. -/
theorem declaredNames_cache (sound : cache.IsSound) (bodies : List Text) :
    (template.declaredNames cache bodies).cache =
      cache.update (template.kept (passed .raise bodies)) := by
  induction bodies generalizing cache with
  | nil => exact congrArg cache.update template.kept_nil.symm
  | cons body rest inductionHypothesis =>
      obtain ⟨parsed, nextSound⟩ := template.read_of_isSound sound body
      have extended := template.read_cache sound body
      rcases read : template.read cache body with ⟨marker, next⟩
      rw [read] at parsed nextSound extended
      obtain ⟨wellFormed, own, found⟩ | ⟨malformed, refused⟩ := Marker.parse_cases body
      · have pass : MalformedPolicy.stopsAt .raise body = false := wellFormed
        have value : marker = .ok own := parsed.trans found
        rw [← template.update_kept_of_pass pass, ← extended, ← inductionHypothesis nextSound]
        simp only [declaredNames, read, value, Run.map]
      · have stop : MalformedPolicy.stopsAt .raise body = true := malformed
        have value : marker = .error (.wrongBars body (body.count '|')) := parsed.trans refused
        rw [← template.update_kept_of_stop stop, ← extended]
        simp only [declaredNames, read, value]

/-- A listing of names raises, whatever the options say. -/
def policyOf : Call → MalformedPolicy
  | .substitute _ _ => template.options.onMalformed
  | .variableNames => .raise

/-- The fault with which a call ends before its scan. -/
def faultOf? : Call → Option Value.Fault
  | .substitute bindings encode => template.fault? bindings encode
  | .variableNames => none

/-- The bodies that a call goes past. -/
def passedBy (call : Call) : List Text :=
  match template.faultOf? call with
  | some _ => []
  | none => passed (template.policyOf call) template.bodies

/-- A call leaves the entries of the bodies that it goes past. -/
theorem perform_cache (sound : cache.IsSound) (call : Call) :
    (template.perform cache call).cache =
      cache.update (template.kept (template.passedBy call)) := by
  cases call with
  | substitute bindings encode =>
      simp only [perform, Run.map, passedBy, faultOf?, policyOf]
      cases found : template.fault? bindings encode with
      | some cause =>
          rw [substitute_of_fault? found, kept_nil]
          rfl
      | none =>
          obtain ⟨values, prepared⟩ := exists_prepare_iff.mpr found
          rw [substitute_of_prepare prepared, finish_eq]
          exact template.expandSegments_cache sound values template.segments
  | variableNames => exact template.declaredNames_cache sound template.bodies

/-- A call fails with a fault or where its policy stops. -/
theorem error?_perform (sound : cache.IsSound) (call : Call) :
    error? (template.perform cache call).outcome =
      match template.faultOf? call with
      | some cause => some (.unprepared cause)
      | none => (template.bodies.find? (template.policyOf call).stopsAt).map Marker.failure := by
  cases call with
  | substitute bindings encode =>
      rw [perform, Run.map, error?_map]
      exact template.error?_substitute sound bindings encode
  | variableNames =>
      rw [perform, Run.map, error?_map]
      exact template.error?_variableNames sound

end Template

end UriExpansion
