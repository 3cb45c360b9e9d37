import UriExpansion.Proofs.Marker

namespace UriExpansion.Marker

/-- A specification is writable if it holds no mark that ends its parts. -/
structure IsWritableSpecification (entry : Text × Text) : Prop where
  name_comma : ',' ∉ entry.1
  name_equals : '=' ∉ entry.1
  name_bar : '|' ∉ entry.1
  default_comma : ',' ∉ entry.2
  default_bar : '|' ∉ entry.2

/-- A writable marker holds no mark that ends one of its parts. -/
structure IsWritable (marker : Marker) : Prop where
  declares : marker.defaults.entries ≠ []
  specified : ∀ entry ∈ marker.defaults.entries, IsWritableSpecification entry
  name_bar : '|' ∉ marker.name
  argument_bar : '|' ∉ marker.argument
  operator_eq : marker.operator = .ofName marker.name

/-- The written list of the variables of a marker. -/
def declaredText (marker : Marker) : Text :=
  Text.join [','] (marker.defaults.entries.map renderSpecification)

theorem not_mem_renderSpecification {mark : Char} {entry : Text × Text} (name : mark ∉ entry.1)
    (equals : mark ≠ '=') (default : mark ∉ entry.2) : mark ∉ renderSpecification entry := by
  rw [renderSpecification, List.mem_append, List.mem_cons, not_or, not_or]
  exact ⟨name, equals, default⟩

/-- A default may hold further equals signs. -/
theorem cutAt_renderSpecification {entry : Text × Text} (writable : IsWritableSpecification entry) :
    Text.cutAt '=' (renderSpecification entry) = entry :=
  Text.cutAt_append writable.name_equals entry.2

/-- The specifications are read back from their written list. -/
theorem specifications_join {entries : List (Text × Text)} (nonempty : entries ≠ [])
    (writable : ∀ entry ∈ entries, IsWritableSpecification entry) :
    specifications (Text.join [','] (entries.map renderSpecification)) = entries := by
  have absent : ∀ part ∈ entries.map renderSpecification, ',' ∉ part :=
    List.forall_mem_map.mpr fun entry inside =>
      not_mem_renderSpecification (writable entry inside).name_comma (by decide)
        (writable entry inside).default_comma
  have parts : (Text.join [','] (entries.map renderSpecification)).splitOn ',' =
      entries.map renderSpecification :=
    List.splitOn_intercalate ',' absent (by simpa using nonempty)
  calc specifications (Text.join [','] (entries.map renderSpecification))
      = entries.map (Text.cutAt '=' ∘ renderSpecification) := by
        rw [specifications, parts, List.map_map]
    _ = entries.map id :=
        List.map_congr_left fun entry inside => cutAt_renderSpecification (writable entry inside)
    _ = entries := List.map_id entries

namespace IsWritable

variable {marker : Marker}

theorem defaultsOf_declaredText (writable : marker.IsWritable) :
    defaultsOf marker.declaredText = marker.defaults := by
  rw [defaultsOf, declaredText, specifications_join writable.declares writable.specified,
    Bindings.ofList_entries]

theorem bar_declaredText (writable : marker.IsWritable) : '|' ∉ marker.declaredText := by
  refine Text.not_mem_join (by decide) (List.forall_mem_map.mpr fun entry inside => ?_)
  have specified := writable.specified entry inside
  exact not_mem_renderSpecification specified.name_bar (by decide) specified.default_bar

/-- Without a name and an argument only the plain operator is left. -/
theorem eq_plain (writable : marker.IsWritable) (noName : marker.name = [])
    (noArgument : marker.argument = []) :
    marker = { operator := .plain, argument := [], defaults := marker.defaults, name := [] } := by
  have plain := writable.operator_eq
  obtain ⟨operator, argument, defaults, name⟩ := marker
  obtain rfl : name = [] := noName
  obtain rfl : argument = [] := noArgument
  obtain rfl : operator = .plain := plain
  rfl

/-- A writable marker is read from its written body. -/
theorem parse_render (writable : marker.IsWritable) : parse marker.render = .ok marker := by
  unfold render
  split
  · next empty =>
      -- The body without bars stands for the empty name and the empty argument.
      simp only [Bool.and_eq_true, List.isEmpty_iff] at empty
      change parse marker.declaredText = .ok marker
      rw [parse_of_bar_not_mem writable.bar_declaredText, writable.defaultsOf_declaredText,
        ← writable.eq_plain empty.1 empty.2]
  · change parse ('-' :: marker.name ++ '|' :: marker.argument ++ '|' :: marker.declaredText) = _
    rw [parse_written writable.name_bar writable.argument_bar writable.bar_declaredText,
      writable.defaultsOf_declaredText, ← writable.operator_eq]

end IsWritable

/-- A list of variables without bars has writable specifications. -/
theorem isWritableSpecification_of_mem {declared : Text} (bar : '|' ∉ declared)
    {entry : Text × Text} (member : entry ∈ (defaultsOf declared).entries) :
    IsWritableSpecification entry := by
  obtain ⟨part, listed, rfl⟩ := List.mem_map.mp (Bindings.mem_entries_ofList member)
  have partComma : ',' ∉ part := Text.not_mem_of_mem_splitOn listed
  have partBar : '|' ∉ part := mt (Text.mem_of_mem_splitOn listed) bar
  exact {
    name_comma := mt Text.mem_of_mem_cutAt_fst partComma
    name_equals := Text.not_mem_cutAt_fst '=' part
    name_bar := mt Text.mem_of_mem_cutAt_fst partBar
    default_comma := mt Text.mem_of_mem_cutAt_snd partComma
    default_bar := mt Text.mem_of_mem_cutAt_snd partBar }

/-- Every marker that is read from a body is writable. -/
theorem isWritable_of_parse {body : Text} {marker : Marker} (parsed : parse body = .ok marker) :
    marker.IsWritable := by
  have declares : marker.defaults.entries ≠ [] :=
    mt (congrArg (List.map Prod.fst)) (names_ne_nil_of_parse parsed)
  rcases cases_of_parse parsed with ⟨bar, rfl⟩ | ⟨written, argument, declared, _, bars, rfl⟩
  · exact {
      declares
      specified := fun _ member => isWritableSpecification_of_mem bar member
      name_bar := List.not_mem_nil
      argument_bar := List.not_mem_nil
      operator_eq := rfl }
  · exact {
      declares
      specified := fun _ member => isWritableSpecification_of_mem bars.2.2 member
      name_bar := mt List.mem_of_mem_drop bars.1
      argument_bar := bars.2.1
      operator_eq := rfl }

/-- A marker is read back from its body exactly if it is writable. -/
theorem parse_render_roundTrip :
    (∀ marker : Marker, marker.IsWritable → parse marker.render = .ok marker) ∧
      ∀ (body : Text) (marker : Marker), parse body = .ok marker →
        marker.IsWritable ∧ parse marker.render = .ok marker := by
  refine ⟨fun marker writable => writable.parse_render, fun body marker parsed => ?_⟩
  have writable := isWritable_of_parse parsed
  exact ⟨writable, writable.parse_render⟩

/-- A repeated name is written once with its last default. -/
theorem parse_render_roundTrip_repeated_name :
    let body : Text := "|&|x=1,=a=b,x=2=3".toList
    let marker : Marker :=
      { operator := .plain, argument := ['&'],
        defaults := .ofList [(['x'], ['2', '=', '3']), ([], ['a', '=', 'b'])], name := [] }
    parse body = .ok marker ∧ marker.render = "-|&|x=2=3,=a=b".toList ∧ marker.IsWritable ∧
      parse marker.render = .ok marker := by
  intro body marker
  have parsed : parse body = .ok marker := rfl
  obtain ⟨writable, _⟩ := parse_render_roundTrip.2 body marker parsed
  exact ⟨parsed, by decide +kernel, writable, parse_render_roundTrip.1 marker writable⟩

end UriExpansion.Marker
