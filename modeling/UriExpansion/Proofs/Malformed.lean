import UriExpansion.Proofs.Effect
import UriExpansion.Proofs.Marker

namespace UriExpansion

/-- The failure at a malformed body names the number of its bars. -/
def Marker.failure (body : Text) : Failure :=
  .malformed (.wrongBars body (body.count '|'))

theorem Marker.error?_declared (body : Text) :
    error? (declared body) = if isMalformed body then some (failure body) else none := by
  obtain ⟨wellFormed, marker, parsed⟩ | ⟨malformed, parsed⟩ := parse_cases body
  · rw [declared, parsed, wellFormed]
    rfl
  · rw [declared, parsed, malformed]
    rfl

/-- The raising policy stops an expansion at a malformed body. -/
def MalformedPolicy.stopsAt : MalformedPolicy → Text → Bool
  | .raise => Marker.isMalformed
  | .skip => fun _ => false

/-- No policy stops an expansion at a body that is not malformed. -/
theorem MalformedPolicy.isMalformed_of_stopsAt {policy : MalformedPolicy} {body : Text}
    (stop : policy.stopsAt body = true) : policy = .raise ∧ Marker.isMalformed body = true := by
  cases policy with
  | raise => exact ⟨rfl, stop⟩
  | skip => exact absurd stop (by simp [stopsAt])

namespace Segment

/-- The markers of a parsed body never lack a result. -/
theorem exists_expansion_of_parse (policy : MalformedPolicy) (values : Bindings Value)
    {body : Text} {marker : Marker} (parsed : Marker.parse body = .ok marker) :
    ∃ text, expansion policy values (.marker body) = .ok text := by
  have present : (Template.bind values marker.defaults).names ≠ [] := by
    rw [Template.bind, Bindings.names_map]
    exact Marker.names_ne_nil_of_parse parsed
  obtain ⟨text, applied⟩ := marker.operator.exists_apply_eq_some present
    (CodeText.ofText marker.argument)
  exact ⟨text, by simp [expansion, effect, parsed, Template.expandMarker, applied]⟩

/-- A marker fails if the policy stops at its body. -/
theorem error?_expansion_marker (policy : MalformedPolicy) (values : Bindings Value)
    (body : Text) :
    error? (expansion policy values (.marker body)) =
      if policy.stopsAt body then some (Marker.failure body) else none := by
  obtain ⟨wellFormed, marker, parsed⟩ | ⟨malformed, parsed⟩ := Marker.parse_cases body
  · obtain ⟨text, expanded⟩ := exists_expansion_of_parse policy values parsed
    cases policy <;> simp [expanded, MalformedPolicy.stopsAt, wellFormed]
  · cases policy <;>
      simp [expansion, effect, parsed, Template.expandMarker, MalformedPolicy.stopsAt, malformed,
        Marker.failure]

/-- The segments of a template fail like their bodies. -/
theorem error?_mapM_expansion (policy : MalformedPolicy) (values : Bindings Value)
    (segments : List Segment) :
    error? (segments.mapM (expansion policy values)) =
      error? ((bodies segments).mapM fun body => expansion policy values (.marker body)) := by
  rw [Traversal.error?_mapM, Traversal.error?_mapM]
  induction segments with
  | nil => rfl
  | cons segment rest inductionHypothesis =>
      rw [List.findSome?_cons, inductionHypothesis]
      cases segment <;> rfl

end Segment

namespace Template

variable {cache : Cache}

/-- A prepared expansion fails at the first body at which its policy stops. -/
theorem error?_substitute_of_prepare {template : Template} (sound : cache.IsSound)
    {bindings : Bindings Datum} {encode : Option Bool} {values : Bindings Value}
    (prepared : template.prepare bindings encode = .ok values) :
    error? (template.substitute cache bindings encode).outcome =
      (template.bodies.find? template.options.onMalformed.stopsAt).map Marker.failure := by
  rw [outcome_substitute_of_prepare sound prepared, error?_map, Segment.error?_mapM_expansion,
    bodies]
  exact Traversal.error?_mapM_of_forall _ (Segment.error?_expansion_marker _ _) _

/-- An expansion fails with a fault or else where its policy stops. -/
theorem error?_substitute (template : Template) (sound : cache.IsSound)
    (bindings : Bindings Datum) (encode : Option Bool) :
    error? (template.substitute cache bindings encode).outcome =
      match template.fault? bindings encode with
      | some cause => some (.unprepared cause)
      | none =>
          (template.bodies.find? template.options.onMalformed.stopsAt).map Marker.failure := by
  cases found : template.fault? bindings encode with
  | some cause => rw [substitute_of_fault? found, error?_error]
  | none =>
      obtain ⟨values, prepared⟩ := exists_prepare_iff.mpr found
      rw [error?_substitute_of_prepare sound prepared]

/-- A call reports a fault of its data exactly if there is one. -/
theorem fault?_eq_some_iff {template : Template} (sound : cache.IsSound)
    {bindings : Bindings Datum} {encode : Option Bool} {cause : Value.Fault} :
    template.fault? bindings encode = some cause ↔
      error? (template.substitute cache bindings encode).outcome = some (.unprepared cause) := by
  rw [template.error?_substitute sound]
  cases template.fault? bindings encode with
  | some other => simp
  | none => simp [Marker.failure]

/-- Calls that fail alike have the same fault. -/
theorem fault?_eq_of_error?_eq {template : Template} {otherCache : Cache} (sound : cache.IsSound)
    (otherSound : otherCache.IsSound) {first second : Bindings Datum} {encode : Option Bool}
    (alike : error? (template.substitute cache first encode).outcome =
      error? (template.substitute otherCache second encode).outcome) :
    template.fault? first encode = template.fault? second encode := by
  apply Option.ext
  intro cause
  rw [fault?_eq_some_iff sound, fault?_eq_some_iff otherSound, alike]

theorem find?_stopsAt_skip (bodies : List Text) :
    bodies.find? (MalformedPolicy.stopsAt .skip) = none := by
  rw [List.find?_eq_none]
  intro body _
  simp [MalformedPolicy.stopsAt]

/-- A prepared expansion succeeds under the skipping policy. -/
theorem exists_outcome_of_skip {template : Template} (sound : cache.IsSound)
    (skips : template.options.onMalformed = .skip) {bindings : Bindings Datum}
    {encode : Option Bool} (faultless : template.fault? bindings encode = none) :
    ∃ text, (template.substitute cache bindings encode).outcome = .ok text := by
  obtain ⟨values, prepared⟩ := exists_prepare_iff.mpr faultless
  rw [← error?_eq_none_iff, error?_substitute_of_prepare sound prepared, skips,
    find?_stopsAt_skip]
  rfl

theorem error?_variableNames (template : Template) (sound : cache.IsSound) :
    error? (template.variableNames cache).outcome =
      (template.bodies.find? Marker.isMalformed).map Marker.failure := by
  rw [template.outcome_variableNames sound, error?_map]
  exact Traversal.error?_mapM_of_forall _ Marker.error?_declared _

/-- An expansion fails at a fault or at the first malformed body. -/
theorem outcome_eq_error_iff (template : Template) (history : List Call) :
    (template.options.onMalformed = .raise →
      ∀ (bindings : Bindings Datum) (encode : Option Bool) (failure : Failure),
        (template.substitute (template.cacheAfter history) bindings encode).outcome =
            .error failure ↔
          (∃ cause, template.fault? bindings encode = some cause ∧
            failure = .unprepared cause) ∨
          template.fault? bindings encode = none ∧
            ∃ body, template.bodies.find? Marker.isMalformed = some body ∧
              failure = .malformed (.wrongBars body (body.count '|'))) ∧
    (∀ failure : Failure,
      (template.variableNames (template.cacheAfter history)).outcome = .error failure ↔
        ∃ body, template.bodies.find? Marker.isMalformed = some body ∧
          failure = .malformed (.wrongBars body (body.count '|'))) ∧
    (template.options.onMalformed = .skip →
      ∀ (bindings : Bindings Datum) (encode : Option Bool),
        (∀ failure : Failure,
          (template.substitute (template.cacheAfter history) bindings encode).outcome =
              .error failure ↔
            ∃ cause, template.fault? bindings encode = some cause ∧
              failure = .unprepared cause) ∧
        (template.fault? bindings encode = none → ∃ text,
          (template.substitute (template.cacheAfter history) bindings encode).outcome =
            .ok text)) ∧
    (∀ (bindings : Bindings Datum) (encode : Option Bool),
      (template.fault? bindings encode = none ↔
        ∀ entry ∈ bindings.entries, ∀ part ∈ entry.2.parts, part.isWritable = true ∧
          (encode.getD template.options.encode = true →
            ∀ index, .surrogate index ∉ part.render)) ∧
      (Value.IsWritable bindings → ∀ cause, template.fault? bindings encode = some cause →
        encode.getD template.options.encode = true ∧
          ∃ entry ∈ bindings.entries, ∃ part ∈ entry.2.parts,
            (∃ index, .surrogate index ∈ part.render) ∧ cause = .loneSurrogate part.render)) ∧
    (∀ body marker, Marker.parse body = .ok marker → marker.defaults.names ≠ []) ∧
    ∀ operator : Operator, operator = .plain ∨ operator = .unknown ∨
      (Operator.operations.lookup operator).isSome := by
  have sound := template.cacheAfter_isSound history
  have first (failure : Failure) :
      (template.bodies.find? Marker.isMalformed).map Marker.failure = some failure ↔
        ∃ body, template.bodies.find? Marker.isMalformed = some body ∧
          failure = .malformed (.wrongBars body (body.count '|')) := by
    rw [Option.map_eq_some_iff]
    exact exists_congr fun body => and_congr_right fun _ => eq_comm
  refine ⟨?_, ?_, ?_, fun bindings encode => ⟨Value.fault?_eq_none_iff, fun writable cause =>
    Value.exists_of_fault? writable⟩, fun _ _ => Marker.names_ne_nil_of_parse,
    Operator.isSome_lookup_operations⟩
  · intro raises bindings encode failure
    rw [← error?_eq_some_iff, template.error?_substitute sound, raises, ← first]
    cases template.fault? bindings encode <;> simp [MalformedPolicy.stopsAt, eq_comm]
  · intro failure
    rw [← error?_eq_some_iff, template.error?_variableNames sound, first]
  · intro skips bindings encode
    refine ⟨fun failure => ?_, exists_outcome_of_skip sound skips⟩
    rw [← error?_eq_some_iff, template.error?_substitute sound, skips, find?_stopsAt_skip]
    cases template.fault? bindings encode <;> simp [eq_comm]

/-- Both calls report the first malformed marker, and a skip passes it. -/
theorem outcome_eq_error_iff_two_malformed :
    let text : Text := ['{', 'a', '}', '{', 'x', '|', 'y', '}', '{', '|', '|', '|', '}']
    let raising : Template := { text }
    let skipping : Template := { text, options := { onMalformed := .skip } }
    let history : List Call := [.variableNames]
    let bindings := .ofList [(['a'], .list [.text [.surrogate 0]])]
    let failure : Failure := .malformed (.wrongBars ['x', '|', 'y'] 1)
    let fault : Failure := .unprepared (.loneSurrogate [.surrogate 0])
    raising.options.onMalformed = .raise ∧
      (raising.substitute (raising.cacheAfter history) bindings (some false)).outcome =
        .error failure ∧
      (raising.substitute (raising.cacheAfter history) bindings none).outcome = .error fault ∧
      (skipping.variableNames (skipping.cacheAfter history)).outcome = .error failure ∧
      skipping.options.onMalformed = .skip ∧
      (skipping.fault? bindings (some false) = none ∧
        ∃ text, (skipping.substitute (skipping.cacheAfter history) bindings
          (some false)).outcome = .ok text) ∧
      (skipping.fault? bindings none = some (.loneSurrogate [.surrogate 0]) ∧
        Value.IsWritable bindings ∧ none.getD skipping.options.encode = true) ∧
      ∃ marker, Marker.parse ['a'] = .ok marker ∧ marker.defaults.names ≠ [] := by
  intro text raising skipping history bindings failure fault
  have found : ∃ body, raising.bodies.find? Marker.isMalformed = some body ∧
      failure = .malformed (.wrongBars body (body.count '|')) :=
    ⟨['x', '|', 'y'], by decide +kernel, rfl⟩
  have raised := outcome_eq_error_iff raising history
  have skipped := outcome_eq_error_iff skipping history
  have faulty : raising.fault? bindings none = some (.loneSurrogate [.surrogate 0]) := by rfl
  have faultless : raising.fault? bindings (some false) = none := by rfl
  have writable : Value.IsWritable bindings := by
    intro entry member part inside
    obtain rfl := List.mem_singleton.mp member
    obtain rfl := List.mem_singleton.mp inside
    rfl
  exact ⟨rfl, (raised.1 rfl bindings (some false) failure).mpr (.inr ⟨faultless, found⟩),
    (raised.1 rfl bindings none fault).mpr (.inl ⟨_, faulty, rfl⟩),
    (skipped.2.1 failure).mpr found, rfl,
    ⟨faultless, (skipped.2.2.1 rfl bindings (some false)).2 faultless⟩,
    ⟨faulty, writable, ((skipped.2.2.2.1 bindings none).2 writable _ faulty).1⟩,
    _, rfl, raised.2.2.2.2.1 ['a'] _ rfl⟩

/-- A template without markers fails at a lone surrogate, which can be written. -/
theorem outcome_eq_error_of_loneSurrogate :
    let raising : Template := { text := [] }
    let skipping : Template := { text := [], options := { onMalformed := .skip } }
    let bindings := .ofList [(['x'], .text [.surrogate 0])]
    (bindings.entries.all fun entry => entry.2.isWritable) = true ∧
      raising.bodies.find? Marker.isMalformed = none ∧
      (raising.substitute .empty bindings none).outcome =
        .error (.unprepared (.loneSurrogate [.surrogate 0])) ∧
      (skipping.substitute .empty bindings none).outcome =
        .error (.unprepared (.loneSurrogate [.surrogate 0])) :=
  ⟨by rfl, by decide +kernel, by rfl, by rfl⟩

end Template

end UriExpansion
