import UriExpansion.Proofs.CacheContents
import UriExpansion.Proofs.OperatorPart

namespace UriExpansion

/-- A record is written in the log as a message with its level. -/
def LogRecord.line (record : LogRecord) : LogLevel × Text :=
  (record.level, record.message)

namespace Marker

variable {body : Text} {marker : Marker}

/-- The name of an operator is its part of the body without the mark. -/
def operatorName (body : Text) : Text :=
  (operatorPart body).drop 1

/-- Two bars and a name that selects no operator make a marker unknown. -/
def isUnknown (body : Text) : Bool :=
  body.count '|' == 2 && Operator.ofName (operatorName body) == .unknown

/-- Unknown markers and skipped malformed ones leave records. -/
def records (policy : MalformedPolicy) (body : Text) : List LogRecord :=
  if isUnknown body then [.unknownOperator (operatorName body)]
  else if isMalformed body && policy == .skip then [.skipped (.wrongBars body (body.count '|'))]
  else []

/-- The lines of a marker in the log. -/
def lines (policy : MalformedPolicy) (body : Text) : List (LogLevel × Text) :=
  if isUnknown body then
    [(.debug, "Unknown operator '".toList ++ operatorName body ++
      "', expanding to empty string".toList)]
  else if isMalformed body && policy == .skip then
    [(.warning, "Skipping malformed expansion: ".toList ++
      (Malformed.wrongBars body (body.count '|')).message)]
  else []

theorem map_line_records (policy : MalformedPolicy) (body : Text) :
    (records policy body).map LogRecord.line = lines policy body := by
  unfold records lines
  split
  · rfl
  · split
    · rfl
    · rfl

/-- A parsed marker is recorded just if it is unknown. -/
theorem ofOperator_of_parse (parsed : parse body = .ok marker) :
    LogRecord.ofOperator marker.operator marker.name =
      if isUnknown body then [.unknownOperator (operatorName body)] else [] := by
  by_cases two : body.count '|' = 2
  · obtain ⟨operator, name⟩ := operator_and_name_of_parse two parsed
    rw [operator, name, ← operatorName, LogRecord.ofOperator]
    by_cases unknown : Operator.ofName (operatorName body) = .unknown
    · simp [isUnknown, two, unknown]
    · simp [isUnknown, two, unknown]
  · have absent : '|' ∉ body := by
      obtain ⟨wellFormed, _⟩ | ⟨_, refused⟩ := parse_cases body
      · exact List.count_eq_zero.mp (by simpa [isMalformed, two] using wellFormed)
      · rw [parsed] at refused
        cases refused
    rw [parse_of_bar_not_mem absent] at parsed
    cases parsed
    simp [isUnknown, two, LogRecord.ofOperator]

theorem isUnknown_of_isMalformed (malformed : isMalformed body = true) :
    isUnknown body = false := by
  have notTwo : body.count '|' ≠ 2 := by
    simp only [isMalformed, Bool.and_eq_true, bne_iff_ne] at malformed
    exact malformed.2
  simp [isUnknown, notTwo]

end Marker

namespace Segment

variable (policy : MalformedPolicy) (values : Bindings Value)

/-- The records of one marker depend on its body and on the policy. -/
theorem records_effect_marker (body : Text) :
    (effect policy values (.marker body)).2 = Marker.records policy body := by
  obtain ⟨wellFormed, marker, parsed⟩ | ⟨malformed, refused⟩ := Marker.parse_cases body
  · rw [effect, parsed, Marker.records, wellFormed]
    exact Marker.ofOperator_of_parse parsed
  · rw [effect, refused, Marker.records, Marker.isUnknown_of_isMalformed malformed, malformed]
    cases policy with
    | raise => rfl
    | skip => rfl

/-- A marker at which the expansion stops leaves no records. -/
theorem records_of_stopsAt {body : Text} (stop : policy.stopsAt body = true) :
    Marker.records policy body = [] := by
  obtain ⟨rfl, malformed⟩ := MalformedPolicy.isMalformed_of_stopsAt stop
  rw [Marker.records, Marker.isUnknown_of_isMalformed malformed, malformed]
  rfl

/-- Segments leave the records of the markers before the first failure. -/
theorem records_effects (segments : List Segment) :
    (effects policy values segments).2 =
      (Template.passed policy (bodies segments)).flatMap (Marker.records policy) := by
  induction segments with
  | nil => rfl
  | cons segment rest inductionHypothesis =>
      cases segment with
      | literal character => exact inductionHypothesis
      | marker body =>
          have bodies : bodies (.marker body :: rest) = body :: bodies rest := rfl
          have records := records_effect_marker policy values body
          have failure := error?_expansion_marker policy values body
          rw [expansion] at failure
          rw [bodies, effects]
          generalize effect policy values (.marker body) = result at records failure ⊢
          obtain ⟨outcome, left⟩ := result
          obtain rfl : left = Marker.records policy body := records
          -- A marker that stops the expansion has no records, so nothing is left of the list.
          cases stop : policy.stopsAt body with
          | true =>
              rw [if_pos stop, error?_eq_some_iff] at failure
              obtain rfl : outcome = .error (Marker.failure body) := failure
              rw [Template.passed_cons_of_stop stop]
              exact records_of_stopsAt policy stop
          | false =>
              rw [if_neg (by simp [stop]), error?_eq_none_iff] at failure
              obtain ⟨text, success⟩ := failure
              obtain rfl : outcome = .ok text := success
              rw [Template.passed_cons_of_pass stop, List.flatMap_cons, ← inductionHypothesis]

end Segment

namespace Template

variable {cache : Cache}

/-- An expansion that stops nowhere closes its log with the number of all bodies. -/
def logOf (policy : MalformedPolicy) (text : Text) (bodies : List Text) : List LogRecord :=
  (passed policy bodies).flatMap (Marker.records policy) ++
    if (bodies.find? policy.stopsAt).isNone then [.expanded bodies.length text] else []

theorem map_line_flatMap_records (policy : MalformedPolicy) (bodies : List Text) :
    (bodies.flatMap (Marker.records policy)).map LogRecord.line =
      bodies.flatMap (Marker.lines policy) := by
  rw [List.map_flatMap]
  exact List.flatMap_congr fun body _ => Marker.map_line_records policy body

section

variable {policy : MalformedPolicy} {bodies : List Text}

theorem map_line_logOf_of_find?_eq_none (nowhere : bodies.find? policy.stopsAt = none)
    (text : Text) :
    (logOf policy text bodies).map LogRecord.line =
      bodies.flatMap (Marker.lines policy) ++ [(LogRecord.expanded bodies.length text).line] := by
  rw [logOf, nowhere, passed_of_find?_eq_none nowhere, List.map_append, map_line_flatMap_records]
  rfl

theorem map_line_logOf_of_find?_eq_some {body : Text}
    (stop : bodies.find? policy.stopsAt = some body) (text : Text) :
    (logOf policy text bodies).map LogRecord.line =
      (bodies.takeWhile Marker.isWellFormed).flatMap (Marker.lines policy) := by
  rw [logOf, stop, passed_of_find?_eq_some stop, List.map_append, map_line_flatMap_records]
  exact List.append_nil _

end

theorem closing_eq (template : Template) (outcome : Except Failure CodeText) :
    template.closing outcome =
      if (error? outcome).isNone then [.expanded template.bodies.length template.text] else [] := by
  cases outcome with
  | error failure => rfl
  | ok text => rfl

theorem log_substitute_of_fault?_eq_none {template : Template} (sound : cache.IsSound)
    {bindings : Bindings Datum} {encode : Option Bool}
    (faultless : template.fault? bindings encode = none) :
    (template.substitute cache bindings encode).log =
      logOf template.options.onMalformed template.text template.bodies := by
  obtain ⟨values, prepared⟩ := exists_prepare_iff.mpr faultless
  have failure := error?_substitute_of_prepare sound prepared
  obtain ⟨observed, _⟩ := template.expandSegments_of_isSound values template.segments sound
  simp only [Run.observed, Prod.ext_iff] at observed
  rw [substitute_of_prepare prepared, finish_eq] at failure ⊢
  rw [closing_eq, failure, observed.2, Segment.records_effects, Option.isNone_map]
  rfl

/-- The records depend on the template and its policy alone, but for faults. -/
theorem log_substitute (text : Text) (options : Options) (history : List Call)
    (bindings : Bindings Datum) (encode : Option Bool) :
    let template : Template := { text, options }
    let run := template.substitute (template.cacheAfter history) bindings encode
    (∀ result, run.outcome = .ok result →
      run.log.map LogRecord.line =
        template.bodies.flatMap (Marker.lines options.onMalformed) ++
          [(.debug, "Expanded ".toList ++ Text.ofNat template.bodies.length ++
            " marker(s) in ".toList ++ Text.quoted text)]) ∧
    (∀ cause, template.fault? bindings encode = some cause →
      run.outcome = .error (.unprepared cause) ∧ run.log = []) ∧
    (template.fault? bindings encode = none →
      (∀ failure, run.outcome = .error failure →
        run.log.map LogRecord.line =
          (template.bodies.takeWhile Marker.isWellFormed).flatMap
            (Marker.lines options.onMalformed)) ∧
      ∀ otherOptions : Options, otherOptions.onMalformed = options.onMalformed →
        ∀ (otherHistory : List Call) (otherBindings : Bindings Datum) (otherEncode : Option Bool),
          let other : Template := { text, options := otherOptions }
          other.fault? otherBindings otherEncode = none →
            (other.substitute (other.cacheAfter otherHistory) otherBindings otherEncode).log =
              run.log) := by
  intro template run
  have sound := template.cacheAfter_isSound history
  have log (faultless : template.fault? bindings encode = none) :
      run.log = logOf options.onMalformed text template.bodies :=
    log_substitute_of_fault?_eq_none sound faultless
  have stopped (faultless : template.fault? bindings encode = none) :
      error? run.outcome =
        (template.bodies.find? options.onMalformed.stopsAt).map Marker.failure := by
    have failure := template.error?_substitute sound bindings encode
    rwa [faultless] at failure
  refine ⟨?success, ?fault, fun faultless => ⟨?failure, ?noninterference⟩⟩
  case success =>
    intro result success
    have faultless := fault?_of_outcome success
    have nowhere := stopped faultless
    rw [success] at nowhere
    rw [log faultless]
    exact map_line_logOf_of_find?_eq_none (Option.map_eq_none_iff.mp nowhere.symm) text
  case fault =>
    intro cause faulty
    simp only [run, substitute_of_fault? faulty, and_self]
  case failure =>
    intro failure failed
    have stop := stopped faultless
    rw [failed] at stop
    obtain ⟨body, found, _⟩ := Option.map_eq_some_iff.mp stop.symm
    rw [log faultless]
    exact map_line_logOf_of_find?_eq_some found text
  case noninterference =>
    intro otherOptions same otherHistory otherBindings otherEncode other otherFaultless
    rw [log faultless, log_substitute_of_fault?_eq_none (other.cacheAfter_isSound otherHistory)
      otherFaultless, same]
    rfl

/-- The raising policy leaves the record of the first of two unknown markers only. -/
theorem log_substitute_unknown_and_malformed :
    let text : Text := "\x7ba\x7d\x7b-x||a\x7d\x7ba|b\x7d\x7b-x||b\x7d".toList
    let unknown : LogLevel × Text :=
      (.debug, "Unknown operator 'x', expanding to empty string".toList)
    let skipped : LogLevel × Text :=
      (.warning, ("Skipping malformed expansion: Malformed expansion '\x7ba|b\x7d': " ++
        "expected 'op|arg|vars' with exactly 2 '|' separators, found 1").toList)
    let expanded : LogLevel × Text :=
      (.debug, "Expanded 4 marker(s) in '\x7ba\x7d\x7b-x||a\x7d\x7ba|b\x7d\x7b-x||b\x7d'".toList)
    let skipping : Template := { text, options := { onMalformed := .skip } }
    let uncached : Template :=
      { text, options := { onMalformed := .skip, cacheExpansions := false } }
    let raising : Template := { text }
    let bindings : Bindings Datum := .ofList [(['a'], .text [.character '?'])]
    let faulty : Bindings Datum := .ofList [(['a'], .text [.surrogate 0])]
    let success := skipping.substitute (skipping.cacheAfter []) bindings none
    let failure := raising.substitute (raising.cacheAfter [.variableNames]) bindings none
    skipping.fault? bindings none = none ∧ (∃ result, success.outcome = .ok result) ∧
      success.log.map LogRecord.line = [unknown, skipped, unknown, expanded] ∧
      raising.fault? bindings none = none ∧ (∃ problem, failure.outcome = .error problem) ∧
      failure.log.map LogRecord.line = [unknown] ∧
      uncached.options.onMalformed = skipping.options.onMalformed ∧
      uncached.fault? faulty (some false) = none ∧
      (uncached.substitute (uncached.cacheAfter [.variableNames]) faulty (some false)).log =
        success.log ∧
      skipping.fault? faulty none = some (.loneSurrogate [.surrogate 0]) ∧
      (skipping.substitute (skipping.cacheAfter []) faulty none).log = [] := by
  intro text unknown skipped expanded skipping uncached raising bindings faulty success failure
  have succeeds : success.outcome = .ok (CodeText.ofText ['%', '3', 'F']) := by decide +kernel
  have fails : failure.outcome = .error (.malformed (.wrongBars ['a', '|', 'b'] 1)) := by
    decide +kernel
  obtain ⟨all, _, prepared⟩ := log_substitute text skipping.options [] bindings none
  obtain ⟨_, _, raised⟩ := log_substitute text raising.options [.variableNames] bindings none
  obtain ⟨_, refused, _⟩ := log_substitute text skipping.options [] faulty none
  refine ⟨rfl, ⟨_, succeeds⟩, (all _ succeeds).trans ?_, rfl, ⟨_, fails⟩,
    ((raised rfl).1 _ fails).trans ?_, rfl, rfl,
    (prepared rfl).2 uncached.options rfl [.variableNames] faulty (some false) rfl, rfl,
    (refused _ rfl).2⟩
  · decide +kernel
  · decide +kernel

/-- A call with a lone surrogate leaves no record of an unknown marker. -/
theorem log_substitute_ne_of_loneSurrogate :
    let template : Template := { text := "\x7b-foo|x|a\x7d".toList }
    let bindings : Bindings Datum := .ofList [(['a'], .text [.character '1'])]
    let faulty : Bindings Datum := .ofList [(['a'], .text [.surrogate 0])]
    (template.substitute .empty bindings none).log =
        [.unknownOperator "foo".toList, .expanded 1 template.text] ∧
      (template.substitute .empty faulty none).log = [] := by
  intro template bindings faulty
  exact ⟨by decide +kernel, by rfl⟩

end Template

end UriExpansion
