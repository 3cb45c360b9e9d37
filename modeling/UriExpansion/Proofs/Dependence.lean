import UriExpansion.Proofs.Malformed

namespace UriExpansion

/-- Each listed name has the same datum in both mappings or in neither. -/
def Datum.AgreeOn (names : List Text) (first second : Bindings Datum) : Prop :=
  ∀ name ∈ names, bound? first name = bound? second name

namespace Template

variable {cache : Cache} {values others : Bindings Value}

/-- A marker reads the values of its own variables. -/
theorem bind_congr {defaults : Bindings Text}
    (same : ∀ name ∈ defaults.names, values.get? name = others.get? name) :
    bind values defaults = bind others defaults := by
  apply Bindings.map_congr
  intro entry member
  have name : entry.1 ∈ defaults.names := List.mem_map_of_mem member
  rw [same entry.1 name]

theorem expansion_congr (policy : MalformedPolicy) {body : Text} {marker : Marker}
    (parsed : Marker.parse body = .ok marker)
    (same : ∀ name ∈ marker.defaults.names, values.get? name = others.get? name) :
    Segment.expansion policy values (.marker body) =
      Segment.expansion policy others (.marker body) := by
  simp only [Segment.expansion, Segment.effect, parsed, expandMarker, bind_congr same]

/-- A template that lists its names has parsed all its bodies. -/
theorem exists_parse_of_variableNames {template : Template} (sound : cache.IsSound)
    {names : List Text} (listed : (template.variableNames cache).outcome = .ok names)
    {body : Text} (member : body ∈ template.bodies) :
    ∃ marker, Marker.parse body = .ok marker ∧ ∀ name ∈ marker.defaults.names, name ∈ names := by
  rw [template.outcome_variableNames sound] at listed
  cases declared : template.bodies.mapM Marker.declared with
  | error failure =>
      rw [declared] at listed
      exact absurd listed (by simp [Except.map])
  | ok lists =>
      rw [declared] at listed
      obtain rfl : lists.flatten.eraseDups = names := Except.ok.inj listed
      obtain ⟨own, inside, found⟩ := Traversal.forall_ok_of_mapM _ declared body member
      obtain ⟨_, marker, parsed⟩ | ⟨_, refused⟩ := Marker.parse_cases body
      · rw [Marker.declared, parsed] at found
        obtain rfl : marker.defaults.names = own := Except.ok.inj found
        refine ⟨marker, parsed, fun name occurs => ?_⟩
        exact List.mem_eraseDups.mpr (List.mem_flatten.mpr ⟨_, inside, occurs⟩)
      · rw [Marker.declared, refused] at found
        exact absurd found (by simp [Except.map, Except.mapError])

/-- A template whose bodies are all parsed has an expansion under every policy. -/
theorem exists_outcome_of_forall_parse {template : Template} (sound : cache.IsSound)
    (parsed : ∀ body ∈ template.bodies, ∃ marker, Marker.parse body = .ok marker)
    {bindings : Bindings Datum} {encode : Option Bool} {values : Bindings Value}
    (prepared : template.prepare bindings encode = .ok values) :
    ∃ text, (template.substitute cache bindings encode).outcome = .ok text := by
  have goesOn : template.bodies.find? template.options.onMalformed.stopsAt = none := by
    rw [List.find?_eq_none]
    intro body member stop
    obtain ⟨marker, found⟩ := parsed body member
    have refused := Marker.parse_of_isMalformed (MalformedPolicy.isMalformed_of_stopsAt stop).2
    exact absurd (found.symm.trans refused) (by simp)
  apply error?_eq_none_iff.mp
  rw [error?_substitute_of_prepare sound prepared, goesOn]
  rfl

/-- A faultless expansion depends only on the listed names. -/
theorem outcome_substitute_eq_of_agreeOn (template : Template) (history : List Call)
    (names : List Text)
    (listed : (template.variableNames (template.cacheAfter history)).outcome = .ok names)
    (first second : Bindings Datum) (agree : Datum.AgreeOn names first second)
    (options : Options) (encode : Option Bool) (firstHistory secondHistory : List Call) :
    let expanding : Template := { template with options }
    ((∃ text,
      (expanding.substitute (expanding.cacheAfter firstHistory) first encode).outcome =
          .ok text ∧
        (expanding.substitute (expanding.cacheAfter secondHistory) second encode).outcome =
          .ok text) ↔
      expanding.fault? first encode = none ∧ expanding.fault? second encode = none) ∧
    (∀ cause, expanding.fault? first encode = some cause →
      (expanding.substitute (expanding.cacheAfter firstHistory) first encode).outcome =
        .error (.unprepared cause)) ∧
    ∀ cause, expanding.fault? second encode = some cause →
      (expanding.substitute (expanding.cacheAfter secondHistory) second encode).outcome =
        .error (.unprepared cause) := by
  intro expanding
  have declared (body : Text) (member : body ∈ expanding.bodies) :
      ∃ marker, Marker.parse body = .ok marker ∧ ∀ name ∈ marker.defaults.names, name ∈ names :=
    exists_parse_of_variableNames (template.cacheAfter_isSound history) listed member
  have firstSound := expanding.cacheAfter_isSound firstHistory
  have secondSound := expanding.cacheAfter_isSound secondHistory
  refine ⟨⟨?_, ?_⟩, fun cause faulty => ?_, fun cause faulty => ?_⟩
  · rintro ⟨text, firstSuccess, secondSuccess⟩
    exact ⟨fault?_of_outcome firstSuccess, fault?_of_outcome secondSuccess⟩
  · rintro ⟨firstFaultless, secondFaultless⟩
    obtain ⟨values, prepared⟩ := exists_prepare_iff.mpr firstFaultless
    obtain ⟨others, otherPrepared⟩ := exists_prepare_iff.mpr secondFaultless
    obtain ⟨text, success⟩ := exists_outcome_of_forall_parse firstSound
      (fun body member => (declared body member).imp fun _ found => found.1) prepared
    refine ⟨text, success, ?_⟩
    obtain ⟨replacement, each, filled⟩ :=
      (outcome_eq_ok_iff_of_prepare firstSound prepared text).mp success
    apply (outcome_eq_ok_iff_of_prepare secondSound otherPrepared text).mpr
    refine ⟨replacement, fun body member => ?_, filled⟩
    obtain ⟨marker, parsed, covered⟩ := declared body member
    have same (name : Text) (occurs : name ∈ marker.defaults.names) :=
      Value.get?_eq_of_prepare (agree name (covered name occurs)) prepared otherPrepared
    rw [← each body member]
    exact (expansion_congr _ parsed same).symm
  · rw [substitute_of_fault? faulty]
  · rw [substitute_of_fault? faulty]

/-- Null data, another order and unlisted names make no difference. -/
theorem outcome_substitute_eq_of_agreeOn_unlisted :
    let template : Template :=
      { text := ['{', 'b', ',', 'a', '=', '1', ',', 'b', '}', '{', '-', 'x', '|', '/', '|', '}'] }
    -- An operator without variables declares the empty name.
    let names : List Text := [['b'], ['a'], []]
    let first : Bindings Datum := .ofList
      [(['d'], .text [.surrogate 0]), (['a'], .null), (['b'], .list [.integer 1, .boolean true])]
    let second : Bindings Datum := .ofList
      [(['b'], .list [.integer 1, .boolean true]), ([], .null)]
    let expanding : Template := { template with options := { onMalformed := .skip } }
    (template.variableNames (template.cacheAfter [])).outcome = .ok names ∧
      Datum.AgreeOn names first second ∧
      (expanding.fault? first (some false) = none ∧ expanding.fault? second (some false) = none ∧
        ∃ text,
          (expanding.substitute (expanding.cacheAfter []) first (some false)).outcome =
              .ok text ∧
            (expanding.substitute (expanding.cacheAfter [.variableNames]) second
              (some false)).outcome = .ok text) ∧
      expanding.fault? first none = some (.loneSurrogate [.surrogate 0]) ∧
        (expanding.substitute (expanding.cacheAfter []) first none).outcome =
          .error (.unprepared (.loneSurrogate [.surrogate 0])) := by
  intro template names first second expanding
  have listed : (template.variableNames (template.cacheAfter [])).outcome = .ok names := by
    decide +kernel
  have agree : Datum.AgreeOn names first second := by
    intro name member
    simp only [names, List.mem_cons, List.not_mem_nil, or_false] at member
    obtain rfl | rfl | rfl := member <;> rfl
  have firstFaultless : expanding.fault? first (some false) = none := by rfl
  have secondFaultless : expanding.fault? second (some false) = none := by rfl
  have firstFaulty : expanding.fault? first none = some (.loneSurrogate [.surrogate 0]) := by rfl
  have plain := template.outcome_substitute_eq_of_agreeOn [] names listed first second agree
    { onMalformed := .skip } (some false) [] [.variableNames]
  have encoded := template.outcome_substitute_eq_of_agreeOn [] names listed first second agree
    { onMalformed := .skip } none [] []
  exact ⟨listed, agree, ⟨firstFaultless, secondFaultless,
    plain.1.mpr ⟨firstFaultless, secondFaultless⟩⟩, firstFaulty, encoded.2.1 _ firstFaulty⟩

/-- A lone surrogate under a name that is not listed makes a call fail. -/
theorem outcome_substitute_ne_of_loneSurrogate :
    let template : Template := { text := ['{', 'x', '}'] }
    let first : Bindings Datum := .ofList [(['x'], .text [.character '1'])]
    let second : Bindings Datum :=
      .ofList [(['x'], .text [.character '1']), (['y'], .text [.surrogate 0])]
    (template.variableNames .empty).outcome = .ok [['x']] ∧
      Datum.AgreeOn [['x']] first second ∧
      (template.substitute .empty first none).outcome = .ok [.character '1'] ∧
      (template.substitute .empty second none).outcome =
        .error (.unprepared (.loneSurrogate [.surrogate 0])) := by
  intro template first second
  refine ⟨by decide +kernel, fun name member => ?_, by decide +kernel, by rfl⟩
  obtain rfl := List.mem_singleton.mp member
  rfl

end Template

end UriExpansion
