import UriExpansion.Proofs.JoinReading

namespace UriExpansion

namespace Operator

/-- Some variable is not empty. -/
abbrev HasPresent (bound : Bindings Value) : Prop :=
  ∃ entry ∈ bound.entries, entry.2.isEmpty = false

variable {bound : Bindings Value}

theorem anyPresent_iff : anyPresent bound = true ↔ HasPresent bound := by
  simp only [anyPresent, List.any_eq_true, Bool.not_eq_true']

theorem allEmpty_iff : allEmpty bound = true ↔ ¬ HasPresent bound := by
  simp only [allEmpty, List.all_eq_true, not_exists, not_and, Bool.not_eq_false]

theorem present_ne_nil_iff : present bound ≠ [] ↔ HasPresent bound := by
  simp only [ne_eq, present_eq_nil_iff, not_forall, exists_prop, Bool.not_eq_true]

/-- A join is not empty if a variable is there. -/
theorem join_pairs_ne_nil_iff (separator : CodeText) :
    Text.join separator (pairs bound) ≠ [] ↔ HasPresent bound := by
  have nonempty (entry : Text × Value) : pair entry ≠ [] := by simp [pair]
  have pairs_eq : pairs bound = (present bound).map pair := rfl
  rw [pairs_eq, ne_eq, Text.join_map_eq_nil_iff nonempty, ← ne_eq, present_ne_nil_iff]

theorem apply_opt (bound : Bindings Value) (argument : CodeText) :
    opt.apply bound argument = some (if HasPresent bound then argument else []) := by
  simp only [apply_eq, anyPresent_iff]

theorem apply_neg (bound : Bindings Value) (argument : CodeText) :
    neg.apply bound argument = some (if HasPresent bound then [] else argument) := by
  simp only [apply_eq, allEmpty_iff, ite_not]

theorem exists_apply_join (bound : Bindings Value) (separator : CodeText) :
    ∃ query, join.apply bound separator = some query ∧ (query ≠ [] ↔ HasPresent bound) :=
  ⟨_, apply_eq join bound separator, join_pairs_ne_nil_iff separator⟩

/-- The three operators show their texts by the same test. -/
theorem exists_apply_opt_neg_join (bound : Bindings Value) (argument separator : CodeText) :
    ∃ shown hidden query,
      opt.apply bound argument = some shown ∧ neg.apply bound argument = some hidden ∧
        join.apply bound separator = some query ∧
        (HasPresent bound → shown = argument ∧ hidden = [] ∧ query ≠ []) ∧
        (¬ HasPresent bound → shown = [] ∧ hidden = argument ∧ query = []) ∧
        shown ++ hidden = argument := by
  obtain ⟨query, joined, shown⟩ := exists_apply_join bound separator
  refine ⟨_, _, query, apply_opt bound argument, apply_neg bound argument, joined, ?_, ?_, ?_⟩
  · intro present
    exact ⟨if_pos present, if_pos present, shown.mpr present⟩
  · intro absent
    exact ⟨if_neg absent, if_neg absent, not_ne_iff.mp (mt shown.mp absent)⟩
  · split
    · exact List.append_nil argument
    · exact List.nil_append argument

end Operator

namespace Template

/-- A question mark is shown if one of the variables is there. -/
def markBody (declared : Text) : Text :=
  "-opt|?|".toList ++ declared

/-- The pairs of the variables are joined by an ampersand. -/
def queryBody (declared : Text) : Text :=
  "-join|&|".toList ++ declared

variable {declared : Text}

/-- Two markers of the same variables show their texts together. -/
theorem exists_outcome_mark_query {template : Template} (bar : '|' ∉ declared)
    (markIsBody : Segment.IsBody (markBody declared))
    (queryIsBody : Segment.IsBody (queryBody declared)) {bindings : Bindings Datum}
    {encode : Option Bool} {values : Bindings Value}
    (prepared : template.prepare bindings encode = .ok values) :
    ∃ mark query : CodeText,
      ((template.single (markBody declared)).substitute .empty bindings encode).outcome =
          .ok mark ∧
        ((template.single (queryBody declared)).substitute .empty bindings encode).outcome =
          .ok query ∧
        (mark = [.character '?'] ∧ query ≠ [] ∨ mark = [] ∧ query = []) := by
  have optBar : '|' ∉ "opt".toList := by decide
  have joinBar : '|' ∉ "join".toList := by decide
  have markBar : '|' ∉ ['?'] := by decide
  have separatorBar : '|' ∉ ['&'] := by decide
  obtain ⟨mark, markApplied, markOutcome⟩ := exists_outcome_written optBar markBar bar
    markIsBody Cache.isSound_empty prepared
  obtain ⟨query, queryApplied, queryOutcome⟩ := exists_outcome_written joinBar separatorBar
    bar queryIsBody Cache.isSound_empty prepared
  refine ⟨mark, query, markOutcome, queryOutcome, ?_⟩
  generalize bind values (Marker.defaultsOf declared) = bound at markApplied queryApplied
  change Operator.opt.apply bound [.character '?'] = some mark at markApplied
  rw [Operator.apply_opt, Option.some.injEq] at markApplied
  obtain ⟨text, joined, shown⟩ := Operator.exists_apply_join bound [.character '&']
  obtain rfl : text = query := Option.some.inj (joined.symm.trans queryApplied)
  by_cases present : Operator.HasPresent bound
  · rw [if_pos present] at markApplied
    exact .inl ⟨markApplied.symm, shown.mpr present⟩
  · rw [if_neg present] at markApplied
    exact .inr ⟨markApplied.symm, not_ne_iff.mp (mt shown.mp present)⟩

/-- A question mark stands exactly before a query that is there. -/
theorem outcome_opt_neg_join :
    (∀ (bound : Bindings Value) (argument separator : CodeText),
      ∃ shown hidden query,
        Operator.opt.apply bound argument = some shown ∧
        Operator.neg.apply bound argument = some hidden ∧
        Operator.join.apply bound separator = some query ∧
        (Operator.HasPresent bound → shown = argument ∧ hidden = [] ∧ query ≠ []) ∧
        (¬ Operator.HasPresent bound → shown = [] ∧ hidden = argument ∧ query = []) ∧
        shown ++ hidden = argument) ∧
    ∀ (template : Template) (declared : Text) (start rest : List Segment), '|' ∉ declared →
      template.segments =
          start ++ .marker (markBody declared) :: .marker (queryBody declared) :: rest →
        ∀ (history : List Call) (bindings : Bindings Datum) (encode : Option Bool),
          (template.fault? bindings encode = none → ∃ mark query : CodeText,
            ((template.single (markBody declared)).substitute .empty bindings encode).outcome =
              .ok mark ∧
            ((template.single (queryBody declared)).substitute .empty bindings encode).outcome =
              .ok query ∧
            (mark = [.character '?'] ∧ query ≠ [] ∨ mark = [] ∧ query = []) ∧
            ∀ result,
              (template.substitute (template.cacheAfter history) bindings encode).outcome =
                  .ok result →
                ∃ replacement : Text → CodeText,
                  (∀ body ∈ template.bodies,
                    ((template.single body).substitute .empty bindings encode).outcome =
                      .ok (replacement body)) ∧
                  result = start.flatMap (Segment.fill replacement) ++ mark ++ query ++
                    rest.flatMap (Segment.fill replacement)) ∧
          ∀ cause, template.fault? bindings encode = some cause →
            (template.substitute (template.cacheAfter history) bindings encode).outcome =
              .error (.unprepared cause) := by
  refine ⟨Operator.exists_apply_opt_neg_join, ?_⟩
  intro template declared start rest bar found history bindings encode
  refine ⟨fun faultless => ?_, fun cause faulty => by rw [substitute_of_fault? faulty]⟩
  have markMember : markBody declared ∈ template.bodies := by
    simp [bodies, found, Segment.mem_bodies_iff]
  have queryMember : queryBody declared ∈ template.bodies := by
    simp [bodies, found, Segment.mem_bodies_iff]
  obtain ⟨values, prepared⟩ := exists_prepare_iff.mpr faultless
  obtain ⟨mark, query, markOutcome, queryOutcome, together⟩ :=
    exists_outcome_mark_query bar (isBody_of_mem_bodies markMember)
      (isBody_of_mem_bodies queryMember) prepared
  refine ⟨mark, query, markOutcome, queryOutcome, together, fun result success => ?_⟩
  obtain ⟨replacement, each, filled⟩ :=
    exists_replacement_of_outcome (template.cacheAfter_isSound history) success
  have markFilled : replacement (markBody declared) = mark :=
    Except.ok.inj ((each _ markMember).symm.trans markOutcome)
  have queryFilled : replacement (queryBody declared) = query :=
    Except.ok.inj ((each _ queryMember).symm.trans queryOutcome)
  refine ⟨replacement, each, ?_⟩
  rw [filled, found, List.flatMap_append, List.flatMap_cons, List.flatMap_cons]
  simp only [Segment.fill, markFilled, queryFilled, List.append_assoc]

/-- A list of the empty text is there and is announced. -/
theorem outcome_opt_neg_join_unnamed_variable :
    let declared : Text := [',', 'a']
    let template : Template :=
      { text := '/' :: '{' :: markBody declared ++ '}' :: '{' :: queryBody declared ++
          ['}', '{', 'z', '}'] }
    let start : List Segment := [.literal '/']
    let rest : List Segment := [.marker ['z']]
    let bindings : Bindings Datum :=
      .ofList [([], .list [.text []]), (['z'], .text [.character '&'])]
    let bound : Bindings Value := .ofList [([], .sequence [[]]), (['a'], .scalar [])]
    let vacant : Bindings Value := .ofList [([], .sequence []), (['a'], .scalar [])]
    let ampersand : CodeText := [.character '&']
    let result := CodeText.ofText ['/', '?', '=', '&']
    Operator.HasPresent bound ∧ ¬ Operator.HasPresent vacant ∧ '|' ∉ declared ∧
      template.segments =
        start ++ .marker (markBody declared) :: .marker (queryBody declared) :: rest ∧
      template.fault? bindings (some false) = none ∧
      (template.substitute (template.cacheAfter [.variableNames]) bindings (some false)).outcome =
        .ok result ∧
      (∃ query, Operator.join.apply bound ampersand = some query ∧ query ≠ []) ∧
      Operator.neg.apply vacant ampersand = some ampersand ∧
      ∃ mark query : CodeText,
        (mark = [.character '?'] ∧ query ≠ [] ∨ mark = [] ∧ query = []) ∧
        ∃ replacement : Text → CodeText,
          result = start.flatMap (Segment.fill replacement) ++ mark ++ query ++
            rest.flatMap (Segment.fill replacement) := by
  intro declared template start rest bindings bound vacant ampersand result
  have present : Operator.HasPresent bound := by decide
  have absent : ¬ Operator.HasPresent vacant := by decide
  have bar : '|' ∉ declared := by decide
  let division : Division :=
    ⟨[(['/'], markBody declared), ([], queryBody declared), ([], ['z'])], [], by decide +kernel,
      by decide, by decide⟩
  have rendered : division.render = template.text := by decide +kernel
  have found : template.segments =
      start ++ .marker (markBody declared) :: .marker (queryBody declared) :: rest :=
    segments_eq_of_render_eq rendered
  have faultless : template.fault? bindings (some false) = none := by rfl
  have success :
      (template.substitute (template.cacheAfter [.variableNames]) bindings (some false)).outcome =
        .ok result := by
    let values : Bindings Value :=
      .ofList [([], .sequence [[]]), (['z'], .scalar [.character '&'])]
    have prepared : template.prepare bindings (some false) = .ok values := by rfl
    -- The names are declared in order, so the sort leaves them there.
    have sorted : Operator.sortedByName bound = bound.entries :=
      List.mergeSort_of_pairwise (by decide)
    have expanded : Segment.expansion .raise values (.marker (queryBody declared)) =
        .ok (Text.join ampersand (Operator.pairs bound)) := rfl
    rw [Operator.pairs, sorted] at expanded
    rw [outcome_substitute_of_prepare (template.cacheAfter_isSound [.variableNames]) prepared,
      found]
    change (List.mapM (Segment.expansion .raise values)
      (start ++ .marker (markBody declared) :: .marker (queryBody declared) :: rest)).map
        List.flatten = _
    simp only [List.mapM_append, List.mapM_cons, expanded]
    rfl
  obtain ⟨agree, announced⟩ := outcome_opt_neg_join
  obtain ⟨_, _, query, _, _, joined, shows, _⟩ := agree bound ampersand ampersand
  obtain ⟨_, hidden, _, _, negated, _, _, hides, _⟩ := agree vacant ampersand ampersand
  obtain ⟨mark, text, _, _, together, filled⟩ := (announced template declared start rest bar found
    [.variableNames] bindings (some false)).1 faultless
  obtain ⟨replacement, _, whole⟩ := filled result success
  exact ⟨present, absent, bar, found, faultless, success, ⟨query, joined, (shows present).2.2⟩,
    negated.trans (congrArg some (hides absent).2.1), mark, text, together, replacement, whole⟩

end Template

end UriExpansion
