import UriExpansion.Proofs.Declaration
import UriExpansion.Proofs.Dependence
import UriExpansion.Proofs.Interchange

namespace UriExpansion

namespace Template

variable {defaults others : Bindings Text} {values otherValues : Bindings Value} {name : Text}

/-- The first value is the caller's or the default of the first name. -/
theorem firstValue?_bind_of_head? (head : defaults.names.head? = some name) :
    Operator.firstValue? (bind values defaults) =
      (defaults.get? name).map fun default =>
        (values.get? name).getD (.scalar (CodeText.ofText default)) := by
  rw [firstValue?_bind, Bindings.head?_entries head, Option.map_map]
  rfl

theorem firstValue?_bind_congr (head : defaults.names.head? = some name)
    (otherHead : others.names.head? = some name)
    (sameDefault : defaults.get? name = others.get? name)
    (sameValue : values.get? name = otherValues.get? name) :
    Operator.firstValue? (bind values defaults) =
      Operator.firstValue? (bind otherValues others) := by
  rw [firstValue?_bind_of_head? head, firstValue?_bind_of_head? otherHead, sameDefault, sameValue]

section

variable {template : Template} {body other : Text} {marker otherMarker : Marker}
variable {bindings otherBindings : Bindings Datum} {encode : Option Bool}
variable {cache otherCache : Cache}

/-- An operator that reads all variables forgets their order. -/
theorem exists_common_outcome_of_perm (parsed : Marker.parse body = .ok marker)
    (otherParsed : Marker.parse other = .ok otherMarker) (isBody : Segment.IsBody body)
    (otherIsBody : Segment.IsBody other) (sameOperator : marker.operator = otherMarker.operator)
    (sameArgument : marker.argument = otherMarker.argument)
    (readsAll : marker.operator.readsFirst = false)
    (permuted : (Marker.specifications (Marker.variableList body)).Perm
      (Marker.specifications (Marker.variableList other)))
    (distinct : (Marker.declarations body).Nodup) (sound : cache.IsSound)
    (otherSound : otherCache.IsSound) (faultless : template.fault? bindings encode = none) :
    ∃ text,
      ((template.single body).substitute cache bindings encode).outcome = .ok text ∧
        ((template.single other).substitute otherCache bindings encode).outcome = .ok text := by
  have otherDistinct : (Marker.declarations other).Nodup :=
    (permuted.map Prod.fst).nodup_iff.mp distinct
  have entries : marker.defaults.entries.Perm otherMarker.defaults.entries := by
    rwa [Marker.entries_of_parse_of_nodup parsed distinct,
      Marker.entries_of_parse_of_nodup otherParsed otherDistinct]
  obtain ⟨values, prepared⟩ := exists_prepare_iff.mpr faultless
  rw [exists_common_outcome_iff_apply_eq parsed otherParsed isBody otherIsBody sound otherSound
    prepared prepared, ← sameOperator, ← sameArgument]
  exact Operator.apply_eq_of_perm readsAll (entries.map _) _

/-- An operator that reads its first variable reads no other one. -/
theorem exists_common_outcome_of_head? (parsed : Marker.parse body = .ok marker)
    (otherParsed : Marker.parse other = .ok otherMarker) (isBody : Segment.IsBody body)
    (otherIsBody : Segment.IsBody other) (sameOperator : marker.operator = otherMarker.operator)
    (sameArgument : marker.argument = otherMarker.argument)
    (reads : marker.operator.readsFirst = true)
    (head : (Marker.declarations body).head? = some name)
    (otherHead : (Marker.declarations other).head? = some name)
    (sameDefault : marker.defaults.get? name = otherMarker.defaults.get? name)
    (agree : Datum.bound? bindings name = Datum.bound? otherBindings name)
    (sound : cache.IsSound) (otherSound : otherCache.IsSound)
    (faultless : template.fault? bindings encode = none)
    (otherFaultless : template.fault? otherBindings encode = none) :
    ∃ text,
      ((template.single body).substitute cache bindings encode).outcome = .ok text ∧
        ((template.single other).substitute otherCache otherBindings encode).outcome =
          .ok text := by
  obtain ⟨values, prepared⟩ := exists_prepare_iff.mpr faultless
  obtain ⟨otherValues, otherPrepared⟩ := exists_prepare_iff.mpr otherFaultless
  rw [← Marker.head?_names_of_parse parsed] at head
  rw [← Marker.head?_names_of_parse otherParsed] at otherHead
  rw [exists_common_outcome_iff_apply_eq parsed otherParsed isBody otherIsBody sound otherSound
    prepared otherPrepared, ← sameOperator, ← sameArgument]
  exact Operator.apply_eq_of_firstValue? reads (firstValue?_bind_congr head otherHead sameDefault
    (Value.get?_eq_of_prepare agree prepared otherPrepared)) _

end

/-- Markers expand alike if they declare what their operator reads alike. -/
theorem outcome_single_eq_of_declarations (template : Template) {body other : Text}
    {marker otherMarker : Marker} (parsed : Marker.parse body = .ok marker)
    (otherParsed : Marker.parse other = .ok otherMarker) (isBody : Segment.IsBody body)
    (otherIsBody : Segment.IsBody other) (sameOperator : marker.operator = otherMarker.operator)
    (sameArgument : marker.argument = otherMarker.argument) :
    let first := template.single body
    let second := template.single other
    (marker.operator.readsFirst = false →
      (Marker.specifications (Marker.variableList body)).Perm
          (Marker.specifications (Marker.variableList other)) →
      (Marker.declarations body).Nodup →
        ∀ (history otherHistory : List Call) (bindings : Bindings Datum) (encode : Option Bool),
          (first.substitute (first.cacheAfter history) bindings encode).outcome =
              (second.substitute (second.cacheAfter otherHistory) bindings encode).outcome ∧
            ((∃ text,
              (first.substitute (first.cacheAfter history) bindings encode).outcome =
                .ok text) ↔ template.fault? bindings encode = none)) ∧
    (marker.operator.readsFirst = true →
      ∀ name, (Marker.declarations body).head? = some name →
        (Marker.declarations other).head? = some name →
        marker.defaults.get? name = otherMarker.defaults.get? name →
          ∀ bindings otherBindings : Bindings Datum,
            Datum.AgreeOn [name] bindings otherBindings →
              ∀ (history otherHistory : List Call) (encode : Option Bool),
                ((∃ text,
                  (first.substitute (first.cacheAfter history) bindings encode).outcome =
                      .ok text ∧
                    (second.substitute (second.cacheAfter otherHistory) otherBindings
                      encode).outcome = .ok text) ↔
                  template.fault? bindings encode = none ∧
                    template.fault? otherBindings encode = none) ∧
                (∀ cause, template.fault? bindings encode = some cause →
                  (first.substitute (first.cacheAfter history) bindings encode).outcome =
                    .error (.unprepared cause)) ∧
                ∀ cause, template.fault? otherBindings encode = some cause →
                  (second.substitute (second.cacheAfter otherHistory) otherBindings
                    encode).outcome = .error (.unprepared cause)) := by
  intro first second
  constructor
  · intro readsAll permuted distinct history otherHistory bindings encode
    cases found : template.fault? bindings encode with
    | some cause =>
        rw [outcome_single_of_fault? found, outcome_single_of_fault? found]
        simp
    | none =>
        obtain ⟨text, outcome, otherOutcome⟩ := exists_common_outcome_of_perm parsed otherParsed
          isBody otherIsBody sameOperator sameArgument readsAll permuted distinct
          (first.cacheAfter_isSound history) (second.cacheAfter_isSound otherHistory) found
        exact ⟨outcome.trans otherOutcome.symm, iff_of_true ⟨text, outcome⟩ rfl⟩
  · intro reads name head otherHead sameDefault bindings otherBindings agree history otherHistory
      encode
    refine ⟨⟨?_, ?_⟩, fun cause faulty => outcome_single_of_fault? faulty _ _,
      fun cause faulty => outcome_single_of_fault? faulty _ _⟩
    · rintro ⟨text, outcome, otherOutcome⟩
      exact ⟨fault?_of_outcome_single outcome, fault?_of_outcome_single otherOutcome⟩
    · rintro ⟨faultless, otherFaultless⟩
      exact exists_common_outcome_of_head? parsed otherParsed isBody otherIsBody sameOperator
        sameArgument reads head otherHead sameDefault (agree name List.mem_cons_self)
        (first.cacheAfter_isSound history) (second.cacheAfter_isSound otherHistory) faultless
        otherFaultless

/-- A join forgets the order of its variables. -/
theorem outcome_single_eq_of_declarations_join_plain :
    let template : Template := { text := [] }
    let body : Text := "-join|&|b=1,a".toList
    let other : Text := "-join|&|a,b=1".toList
    let plain : Text := "a=1,b,a=2".toList
    let barred : Text := "-||a=2,c".toList
    let marker : Marker :=
      { operator := .join, argument := ['&'], defaults := .ofList [(['b'], ['1']), (['a'], [])],
        name := "join".toList }
    let otherMarker : Marker :=
      { operator := .join, argument := ['&'], defaults := .ofList [(['a'], []), (['b'], ['1'])],
        name := "join".toList }
    let plainMarker : Marker :=
      { operator := .plain, argument := [], defaults := .ofList [(['a'], ['2']), (['b'], [])],
        name := [] }
    let barredMarker : Marker :=
      { operator := .plain, argument := [], defaults := .ofList [(['a'], ['2']), (['c'], [])],
        name := [] }
    let bindings : Bindings Datum := .ofList [(['b'], .integer 3), (['a'], .null)]
    let otherBindings : Bindings Datum := .ofList [(['c'], .integer 4)]
    let faulty : Bindings Datum := .ofList [(['d'], .text [.surrogate 0])]
    Marker.parse body = .ok marker ∧ Marker.parse other = .ok otherMarker ∧
      (Marker.specifications (Marker.variableList body)).Perm
        (Marker.specifications (Marker.variableList other)) ∧
      (Marker.declarations body).Nodup ∧ template.fault? bindings none = none ∧
      ((template.single body).substitute ((template.single body).cacheAfter []) bindings
          none).outcome =
        ((template.single other).substitute ((template.single other).cacheAfter []) bindings
          none).outcome ∧
      Marker.parse plain = .ok plainMarker ∧ Marker.parse barred = .ok barredMarker ∧
      Datum.AgreeOn [['a']] bindings otherBindings ∧
      template.fault? otherBindings none = none ∧
      (∃ text,
        ((template.single plain).substitute ((template.single plain).cacheAfter []) bindings
            none).outcome = .ok text ∧
          ((template.single barred).substitute ((template.single barred).cacheAfter [])
            otherBindings none).outcome = .ok text) ∧
      Datum.AgreeOn [['a']] faulty otherBindings ∧
      template.fault? faulty none = some (.loneSurrogate [.surrogate 0]) ∧
      ((template.single plain).substitute ((template.single plain).cacheAfter []) faulty
        none).outcome = .error (.unprepared (.loneSurrogate [.surrogate 0])) := by
  intro template body other plain barred marker otherMarker plainMarker barredMarker bindings
    otherBindings faulty
  have parsed : Marker.parse body = .ok marker := by rfl
  have otherParsed : Marker.parse other = .ok otherMarker := by rfl
  have plainParsed : Marker.parse plain = .ok plainMarker := by rfl
  have barredParsed : Marker.parse barred = .ok barredMarker := by rfl
  have permuted : (Marker.specifications (Marker.variableList body)).Perm
      (Marker.specifications (Marker.variableList other)) := by decide +kernel
  have distinct : (Marker.declarations body).Nodup := by decide +kernel
  have agree : Datum.AgreeOn [['a']] bindings otherBindings := by
    intro name member
    obtain rfl := List.mem_singleton.mp member
    rfl
  have faultyAgree : Datum.AgreeOn [['a']] faulty otherBindings := by
    intro name member
    obtain rfl := List.mem_singleton.mp member
    rfl
  have faultless : template.fault? bindings none = none := by rfl
  have otherFaultless : template.fault? otherBindings none = none := by rfl
  have fault : template.fault? faulty none = some (.loneSurrogate [.surrogate 0]) := by rfl
  have joined := (template.outcome_single_eq_of_declarations parsed otherParsed
    (by decide +kernel) (by decide +kernel) rfl rfl).1 rfl permuted distinct [] [] bindings none
  have first := (template.outcome_single_eq_of_declarations plainParsed barredParsed
    (by decide +kernel) (by decide +kernel) rfl rfl).2 rfl ['a'] (by decide +kernel)
    (by decide +kernel) rfl
  exact ⟨parsed, otherParsed, permuted, distinct, faultless, joined.1, plainParsed, barredParsed,
    agree, otherFaultless,
    (first bindings otherBindings agree [] [] none).1.mpr ⟨faultless, otherFaultless⟩, faultyAgree,
    fault, (first faulty otherBindings faultyAgree [] [] none).2.1 _ fault⟩

/-- A lone surrogate under another name makes a plain marker fail. -/
theorem outcome_single_ne_of_loneSurrogate :
    let template : Template := { text := ['{', 'x', '}'] }
    let marker : Marker :=
      { operator := .plain, argument := [], defaults := .ofList [(['x'], [])], name := [] }
    let bindings : Bindings Datum := .ofList [(['x'], .text [.character '1'])]
    let otherBindings : Bindings Datum :=
      .ofList [(['x'], .text [.character '1']), (['y'], .text [.surrogate 0])]
    Marker.parse ['x'] = .ok marker ∧ marker.operator.readsFirst = true ∧
      Datum.bound? bindings ['x'] = Datum.bound? otherBindings ['x'] ∧
      (template.substitute .empty bindings none).outcome = .ok [.character '1'] ∧
      (template.substitute .empty otherBindings none).outcome =
        .error (.unprepared (.loneSurrogate [.surrogate 0])) :=
  ⟨by rfl, by rfl, by rfl, by decide +kernel, by rfl⟩

end Template

end UriExpansion
