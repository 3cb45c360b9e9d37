import UriExpansion.Proofs.Division
import UriExpansion.Proofs.Marker

namespace UriExpansion

/-- A body can stand between the braces of a marker. -/
abbrev Segment.IsBody (body : Text) : Prop :=
  body ≠ [] ∧ '}' ∉ body

namespace Template

variable {body other : Text} {marker otherMarker : Marker} {cache otherCache : Cache}

theorem firstValue?_bind (values : Bindings Value) (defaults : Bindings Text) :
    Operator.firstValue? (bind values defaults) =
      defaults.entries.head?.map fun entry =>
        (values.get? entry.1).getD (.scalar (CodeText.ofText entry.2)) := by
  simp [Operator.firstValue?, bind, Bindings.map, List.head?_map, Function.comp_def]

/-- The first value is the caller's value of the variable that is declared first. -/
theorem firstValue?_bind_eq_some {values : Bindings Value} {defaults : Bindings Text} {name : Text}
    {value : Value} (head : defaults.names.head? = some name)
    (found : values.get? name = some value) :
    Operator.firstValue? (bind values defaults) = some value := by
  rw [Bindings.names, List.head?_map, Option.map_eq_some_iff] at head
  obtain ⟨entry, first, rfl⟩ := head
  rw [firstValue?_bind, first, Option.map_some, found, Option.getD_some]

/-- The bodies of a template stand between the braces of its markers. -/
theorem isBody_of_mem_bodies {template : Template} (member : body ∈ template.bodies) :
    Segment.IsBody body := by
  obtain ⟨division, scanned⟩ := Division.exists_segments_eq_scan template.text
  rw [bodies, segments, ← scanned, division.bodies_segments] at member
  obtain ⟨part, inside, rfl⟩ := List.mem_map.mp member
  exact division.bodies_closed part inside

section

variable {bindings otherBindings : Bindings Datum} {encode : Option Bool}
variable {values otherValues : Bindings Value} {template : Template}

/-- The outcome of a single marker is its expansion. -/
theorem outcome_single (isBody : Segment.IsBody body) (sound : cache.IsSound)
    (prepared : template.prepare bindings encode = .ok values) :
    ((template.single body).substitute cache bindings encode).outcome =
      Segment.expansion template.options.onMalformed values (.marker body) := by
  have singlePrepared : (template.single body).prepare bindings encode = .ok values := prepared
  rw [outcome_substitute_of_prepare sound singlePrepared,
    template.segments_single isBody.1 isBody.2]
  change (List.mapM (Segment.expansion template.options.onMalformed values) [.marker body]).map
      List.flatten = _
  rw [List.mapM_cons, List.mapM_nil]
  cases Segment.expansion template.options.onMalformed values (.marker body) with
  | error failure => rfl
  | ok text => exact congrArg Except.ok (List.append_nil text)

/-- A single marker fails with a fault of its data. -/
theorem outcome_single_of_fault? {cause : Value.Fault}
    (faulty : template.fault? bindings encode = some cause) (body : Text) (cache : Cache) :
    ((template.single body).substitute cache bindings encode).outcome =
      .error (.unprepared cause) := by
  have singleFaulty : (template.single body).fault? bindings encode = some cause := faulty
  rw [substitute_of_fault? singleFaulty]

/-- A single marker that is not malformed expands to the text of its operator. -/
theorem exists_outcome_single (parsed : Marker.parse body = .ok marker)
    (isBody : Segment.IsBody body) (sound : cache.IsSound)
    (prepared : template.prepare bindings encode = .ok values) :
    ∃ text,
      marker.operator.apply (bind values marker.defaults) (CodeText.ofText marker.argument) =
          some text ∧
        ((template.single body).substitute cache bindings encode).outcome = .ok text := by
  have present : (bind values marker.defaults).names ≠ [] := by
    rw [bind, Bindings.names_map]
    exact Marker.names_ne_nil_of_parse parsed
  obtain ⟨text, applied⟩ := marker.operator.exists_apply_eq_some present
    (CodeText.ofText marker.argument)
  refine ⟨text, applied, ?_⟩
  rw [outcome_single isBody sound prepared]
  simp [Segment.expansion, Segment.effect, expandMarker, parsed, applied]

/-- A written marker expands to the text of its operator. -/
theorem exists_outcome_written {name argument declared : Text}
    (nameBar : '|' ∉ name) (argumentBar : '|' ∉ argument) (declaredBar : '|' ∉ declared)
    (isBody : Segment.IsBody ('-' :: name ++ '|' :: argument ++ '|' :: declared))
    (sound : cache.IsSound) (prepared : template.prepare bindings encode = .ok values) :
    ∃ text,
      (Operator.ofName name).apply (bind values (Marker.defaultsOf declared))
          (CodeText.ofText argument) = some text ∧
        ((template.single ('-' :: name ++ '|' :: argument ++ '|' :: declared)).substitute cache
          bindings encode).outcome = .ok text :=
  exists_outcome_single (Marker.parse_written nameBar argumentBar declaredBar) isBody sound prepared

/-- A successful expansion replaces each marker by the expansion of that marker alone. -/
theorem exists_replacement_of_outcome (sound : cache.IsSound) {result : CodeText}
    (success : (template.substitute cache bindings encode).outcome = .ok result) :
    ∃ replacement : Text → CodeText,
      (∀ body ∈ template.bodies,
        ((template.single body).substitute .empty bindings encode).outcome =
          .ok (replacement body)) ∧
      result = template.segments.flatMap (Segment.fill replacement) := by
  obtain ⟨values, prepared⟩ := exists_prepare_of_outcome success
  obtain ⟨replacement, each, filled⟩ :=
    (outcome_eq_ok_iff_of_prepare sound prepared result).mp success
  refine ⟨replacement, fun body member => ?_, filled⟩
  rw [outcome_single (isBody_of_mem_bodies member) Cache.isSound_empty prepared]
  exact each body member

/-- A single marker that expands to a text has data without faults. -/
theorem fault?_of_outcome_single {text : CodeText}
    (success : ((template.single body).substitute cache bindings encode).outcome = .ok text) :
    template.fault? bindings encode = none := by
  have single : (template.single body).fault? bindings encode = none := fault?_of_outcome success
  exact single

/-- Two single markers share a text exactly if their operators do. -/
theorem exists_common_outcome_iff_apply_eq (parsed : Marker.parse body = .ok marker)
    (otherParsed : Marker.parse other = .ok otherMarker) (isBody : Segment.IsBody body)
    (otherIsBody : Segment.IsBody other) (sound : cache.IsSound) (otherSound : otherCache.IsSound)
    (prepared : template.prepare bindings encode = .ok values)
    (otherPrepared : template.prepare otherBindings encode = .ok otherValues) :
    (∃ text,
      ((template.single body).substitute cache bindings encode).outcome = .ok text ∧
        ((template.single other).substitute otherCache otherBindings encode).outcome =
          .ok text) ↔
      marker.operator.apply (bind values marker.defaults) (CodeText.ofText marker.argument) =
        otherMarker.operator.apply (bind otherValues otherMarker.defaults)
          (CodeText.ofText otherMarker.argument) := by
  obtain ⟨text, applied, outcome⟩ := exists_outcome_single parsed isBody sound prepared
  obtain ⟨otherText, otherApplied, otherOutcome⟩ :=
    exists_outcome_single otherParsed otherIsBody otherSound otherPrepared
  rw [applied, otherApplied, outcome, otherOutcome, Option.some.injEq]
  constructor
  · rintro ⟨common, first, second⟩
    exact Except.ok.inj (first.trans second.symm)
  · rintro rfl
    exact ⟨text, rfl, rfl⟩

end

end Template

end UriExpansion
