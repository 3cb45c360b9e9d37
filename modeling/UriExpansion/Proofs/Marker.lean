import UriExpansion.Proofs.Splitting
import UriExpansion.Proofs.Traversal
import UriExpansion.Template.Basic

namespace UriExpansion

/-- A text has one more part than it has separators. -/
theorem Text.length_splitOn (separator : Char) (text : Text) :
    (text.splitOn separator).length = text.count separator + 1 := by
  induction text with
  | nil => simp
  | cons character text inductionHypothesis =>
      rw [List.splitOn_cons_eq_if_modifyHead]
      by_cases same : character = separator
      · simp [same, inductionHypothesis]
      · simp [same, inductionHypothesis]

namespace Marker

/-- A malformed body has a number of bars other than none and two. -/
def isMalformed (body : Text) : Bool :=
  body.count '|' != 0 && body.count '|' != 2

/-- A body that is not malformed has no bars or two bars. -/
abbrev isWellFormed (body : Text) : Bool :=
  !isMalformed body

/-- A body is parsed or refused with its number of bars. -/
theorem parse_cases (body : Text) :
    (isMalformed body = false ∧ ∃ marker, parse body = .ok marker) ∨
      (isMalformed body = true ∧ parse body = .error (.wrongBars body (body.count '|'))) := by
  have parts := Text.length_splitOn '|' body
  unfold parse
  split
  · next declared single =>
      have bars : body.count '|' = 0 := by simpa [single] using parts.symm
      exact .inl ⟨by simp [isMalformed, bars], _, rfl⟩
  · next written argument declared three =>
      have bars : body.count '|' = 2 := by simpa [three] using parts.symm
      exact .inl ⟨by simp [isMalformed, bars], _, rfl⟩
  · next other notSingle notThree =>
      have malformed : isMalformed body = true := by
        simp only [isMalformed, bne_iff_ne, Bool.and_eq_true]
        constructor
        · intro none
          rw [none] at parts
          obtain ⟨declared, single⟩ := List.length_eq_one_iff.mp parts
          exact notSingle declared single
        · intro two
          rw [two] at parts
          exact notThree _ _ _ (List.eq_getElem_of_length_eq_three _ parts)
      exact .inr ⟨malformed, by rw [parts, Nat.add_sub_cancel]⟩

theorem exists_parse {body : Text} (wellFormed : isMalformed body = false) :
    ∃ marker, parse body = .ok marker := by
  obtain ⟨_, parsed⟩ | ⟨malformed, _⟩ := parse_cases body
  · exact parsed
  · rw [wellFormed] at malformed
    exact absurd malformed (by decide)

theorem parse_of_isMalformed {body : Text} (malformed : isMalformed body = true) :
    parse body = .error (.wrongBars body (body.count '|')) := by
  obtain ⟨wellFormed, _⟩ | ⟨_, refused⟩ := parse_cases body
  · rw [malformed] at wellFormed
    exact absurd wellFormed (by decide)
  · exact refused

/-- A body without bars is a list of variables. -/
theorem parse_of_bar_not_mem {body : Text} (absent : '|' ∉ body) :
    parse body =
      .ok { operator := .plain, argument := [], defaults := defaultsOf body, name := [] } := by
  rw [parse, List.splitOn_eq_singleton absent]

/-- Two bars divide an operator part, an argument and a list. -/
theorem parse_join_bars {written argument declared : Text} (writtenBar : '|' ∉ written)
    (argumentBar : '|' ∉ argument) (declaredBar : '|' ∉ declared) :
    parse (Text.join ['|'] [written, argument, declared]) =
      .ok { operator := .ofName (written.drop 1), argument, defaults := defaultsOf declared,
            name := written.drop 1 } := by
  have absent : ∀ part ∈ [written, argument, declared], '|' ∉ part := by
    simp [writtenBar, argumentBar, declaredBar]
  have parts : (Text.join ['|'] [written, argument, declared]).splitOn '|' =
      [written, argument, declared] := List.splitOn_intercalate '|' absent (by simp)
  rw [parse, parts]

/-- A body written with a mark is read from its three parts. -/
theorem parse_written {name argument declared : Text} (nameBar : '|' ∉ name)
    (argumentBar : '|' ∉ argument) (declaredBar : '|' ∉ declared) :
    parse ('-' :: name ++ '|' :: argument ++ '|' :: declared) =
      .ok { operator := .ofName name, argument, defaults := defaultsOf declared, name } := by
  have body : '-' :: name ++ '|' :: argument ++ '|' :: declared =
      Text.join ['|'] ['-' :: name, argument, declared] := by
    simp [Text.join_cons_cons]
  rw [body, parse_join_bars (by simp [nameBar]) argumentBar declaredBar]
  rfl

/-- A marker is read from one part or from three. -/
theorem cases_of_parse {body : Text} {marker : Marker} (parsed : parse body = .ok marker) :
    ('|' ∉ body ∧
      marker =
        { operator := .plain, argument := [], defaults := defaultsOf body, name := [] }) ∨
    ∃ written argument declared,
      body = Text.join ['|'] [written, argument, declared] ∧
      ('|' ∉ written ∧ '|' ∉ argument ∧ '|' ∉ declared) ∧
      marker =
        { operator := .ofName (written.drop 1), argument, defaults := defaultsOf declared,
          name := written.drop 1 } := by
  have whole : Text.join ['|'] (body.splitOn '|') = body := List.intercalate_splitOn '|'
  have absent (part : Text) (listed : part ∈ body.splitOn '|') : '|' ∉ part :=
    Text.not_mem_of_mem_splitOn listed
  unfold parse at parsed
  split at parsed
  · next declared single =>
      rw [single] at whole absent
      rw [Text.join_singleton] at whole
      subst whole
      cases parsed
      exact .inl ⟨absent declared List.mem_cons_self, rfl⟩
  · next written argument declared three =>
      rw [three] at whole absent
      cases parsed
      exact .inr ⟨written, argument, declared, whole.symm,
        ⟨absent written (by simp), absent argument (by simp), absent declared (by simp)⟩, rfl⟩
  · exact absurd parsed (by simp)

/-- A name without marks declares itself without a default. -/
theorem defaultsOf_of_name {name : Text} (comma : ',' ∉ name) (equals : '=' ∉ name) :
    defaultsOf name = .ofList [(name, [])] := by
  rw [defaultsOf, specifications, List.splitOn_eq_singleton comma, List.map_singleton,
    Text.cutAt_of_not_mem equals]

/-- A list of variables declares at least one name. -/
theorem names_defaultsOf_ne_nil (text : Text) : (defaultsOf text).names ≠ [] := by
  obtain ⟨first, rest, specified⟩ := List.exists_cons_of_ne_nil (List.splitOn_ne_nil ',' text)
  have member : (Text.cutAt '=' first).1 ∈ (defaultsOf text).names := by
    rw [defaultsOf, Bindings.mem_names_ofList, specifications, specified]
    simp
  exact List.ne_nil_of_mem member

theorem names_ne_nil_of_parse {body : Text} {marker : Marker} (parsed : parse body = .ok marker) :
    marker.defaults.names ≠ [] := by
  unfold parse at parsed
  split at parsed
  · cases parsed
    exact names_defaultsOf_ne_nil _
  · cases parsed
    exact names_defaultsOf_ne_nil _
  · exact absurd parsed (by simp)

end Marker

namespace Operator

/-- Each operator that is looked up has an operation. -/
theorem isSome_lookup_operations (operator : Operator) :
    operator = .plain ∨ operator = .unknown ∨ (operations.lookup operator).isSome := by
  cases operator <;> decide

/-- An operator has a result if at least one variable is bound. -/
theorem exists_apply_eq_some (operator : Operator) {bound : Bindings Value}
    (present : bound.names ≠ []) (argument : CodeText) :
    ∃ text, operator.apply bound argument = some text := by
  have first : ∃ value, firstValue? bound = some value := by
    cases entries : bound.entries with
    | nil => exact absurd (by simp [Bindings.names, entries]) present
    | cons entry rest => exact ⟨entry.2, by simp [firstValue?, entries]⟩
  obtain ⟨value, first⟩ := first
  rw [apply_eq, first]
  cases operator <;> exact ⟨_, rfl⟩

end Operator

end UriExpansion
