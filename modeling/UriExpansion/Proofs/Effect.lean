import UriExpansion.Proofs.Preparation
import UriExpansion.Template.Session

namespace UriExpansion

/-- The observation of a run leaves its cache out. -/
def Run.observed {A : Type} (run : Run A) : Except Failure A × List LogRecord :=
  (run.outcome, run.log)

/-- A sound cache maps bodies to the markers they are parsed to. -/
def Cache.IsSound (cache : Cache) : Prop :=
  ∀ body marker, cache.get? body = some marker → Marker.parse body = .ok marker

namespace Cache

theorem isSound_empty : IsSound .empty := by
  intro body marker found
  rw [Bindings.get?_empty] at found
  exact absurd found (by simp)

theorem isSound_insert {cache : Cache} (sound : IsSound cache) {body : Text} {marker : Marker}
    (parsed : Marker.parse body = .ok marker) : IsSound (cache.insert body marker) := by
  intro other found lookup
  rw [Bindings.get?_insert] at lookup
  split at lookup
  · next same =>
      cases lookup
      exact same ▸ parsed
  · exact sound other found lookup

end Cache

namespace Segment

/-- The text or the failure of a segment, with the records that it leaves. -/
def effect (policy : MalformedPolicy) (values : Bindings Value) :
    Segment → Except Failure CodeText × List LogRecord
  | .literal character => (.ok [.character character], [])
  | .marker body => Template.expandMarker policy values (Marker.parse body)

/-- The effect of a list of segments ends at the first failure. -/
def effects (policy : MalformedPolicy) (values : Bindings Value) :
    List Segment → Except Failure CodeText × List LogRecord
  | [] => (.ok [], [])
  | segment :: rest =>
      match effect policy values segment with
      | (.error failure, records) => (.error failure, records)
      | (.ok text, records) =>
          let later := effects policy values rest
          (later.1.map (text ++ ·), records ++ later.2)

/-- The effect of a segment without the records. -/
def expansion (policy : MalformedPolicy) (values : Bindings Value) (segment : Segment) :
    Except Failure CodeText :=
  (effect policy values segment).1

/-- A literal is copied and a marker is replaced. -/
def fill (replacement : Text → CodeText) : Segment → CodeText
  | .literal character => [.character character]
  | .marker body => replacement body

theorem mem_bodies_iff {body : Text} {segments : List Segment} :
    body ∈ bodies segments ↔ .marker body ∈ segments := by
  rw [bodies, List.mem_filterMap]
  constructor
  · rintro ⟨segment, member, found⟩
    cases segment with
    | literal character => simp [markerBody?] at found
    | marker other =>
        obtain rfl := Option.some.inj found
        exact member
  · exact fun member => ⟨.marker body, member, rfl⟩

/-- The outcome joins the expansions or is the first failure among them. -/
theorem outcome_effects (policy : MalformedPolicy) (values : Bindings Value)
    (segments : List Segment) :
    (effects policy values segments).1 =
      (segments.mapM (expansion policy values)).map List.flatten := by
  induction segments with
  | nil => rfl
  | cons segment rest inductionHypothesis =>
      rw [List.mapM_cons, expansion, effects]
      rcases effect policy values segment with ⟨outcome, records⟩
      cases outcome with
      | error failure => rfl
      | ok text =>
          simp only [inductionHypothesis]
          cases rest.mapM (expansion policy values) <;> rfl

end Segment

/-- The names that a body declares, if it is not malformed. -/
def Marker.declared (body : Text) : Except Failure (List Text) :=
  ((parse body).map fun marker => marker.defaults.names).mapError .malformed

namespace Template

variable {cache : Cache}

/-- A sound cache gives the parsed marker and stays sound. -/
theorem read_of_isSound (template : Template) (sound : cache.IsSound) (body : Text) :
    (template.read cache body).1 = Marker.parse body ∧
      Cache.IsSound (template.read cache body).2 := by
  unfold read
  split
  · split
    · next marker found => exact ⟨(sound body marker found).symm, sound⟩
    · split
      · next marker parsed => exact ⟨parsed.symm, Cache.isSound_insert sound parsed⟩
      · next problem parsed => exact ⟨parsed.symm, sound⟩
  · exact ⟨rfl, sound⟩

theorem expandSegments_of_isSound (template : Template) (values : Bindings Value)
    (segments : List Segment) (sound : cache.IsSound) :
    (template.expandSegments values cache segments).observed =
        Segment.effects template.options.onMalformed values segments ∧
      Cache.IsSound (template.expandSegments values cache segments).cache := by
  induction segments generalizing cache with
  | nil => exact ⟨rfl, sound⟩
  | cons segment rest inductionHypothesis =>
      cases segment with
      | literal character =>
          obtain ⟨observed, later⟩ := inductionHypothesis sound
          refine ⟨?_, later⟩
          rw [Segment.effects, ← observed]
          rfl
      | marker body =>
          -- The marker may extend the cache, so the rest runs on the cache that is read back.
          obtain ⟨parsed, next⟩ := template.read_of_isSound sound body
          rcases read : template.read cache body with ⟨marker, extended⟩
          rw [read] at parsed next
          obtain ⟨observed, later⟩ := inductionHypothesis next
          simp only [expandSegments, Segment.effects, Segment.effect, read, parsed]
          rcases expandMarker template.options.onMalformed values (Marker.parse body) with
            ⟨outcome, records⟩
          cases outcome with
          | error failure => exact ⟨rfl, next⟩
          | ok text =>
              refine ⟨?_, later⟩
              rw [← observed]
              rfl

theorem declaredNames_of_isSound (template : Template) (bodies : List Text)
    (sound : cache.IsSound) :
    (template.declaredNames cache bodies).observed =
        ((bodies.mapM Marker.declared).map List.flatten, []) ∧
      Cache.IsSound (template.declaredNames cache bodies).cache := by
  induction bodies generalizing cache with
  | nil => exact ⟨rfl, sound⟩
  | cons body rest inductionHypothesis =>
      obtain ⟨parsed, next⟩ := template.read_of_isSound sound body
      rcases read : template.read cache body with ⟨marker, extended⟩
      rw [read] at parsed next
      obtain ⟨observed, later⟩ := inductionHypothesis next
      simp only [declaredNames, List.mapM_cons, Marker.declared, read, ← parsed]
      cases marker with
      | error problem => exact ⟨rfl, next⟩
      | ok marker =>
          refine ⟨?_, later⟩
          simp only [Run.observed, Prod.mk.injEq] at observed
          simp only [Run.observed, Run.map, observed]
          cases rest.mapM Marker.declared <;> rfl

/-- A successful expansion is closed by the record of its markers. -/
def closing (template : Template) : Except Failure CodeText → List LogRecord
  | .ok _ => [.expanded template.bodies.length template.text]
  | .error _ => []

/-- The effect of a call depends on the template and on the call alone. -/
def effect (template : Template) : Call → Except Failure Answer × List LogRecord
  | .substitute bindings encode =>
      match template.prepare bindings encode with
      | .error cause => (.error (.unprepared cause), [])
      | .ok values =>
          let effects := Segment.effects template.options.onMalformed values template.segments
          (effects.1.map .text, effects.2 ++ template.closing effects.1)
  | .variableNames =>
      ((template.bodies.mapM Marker.declared).map fun names => .names names.flatten.eraseDups, [])

theorem finish_eq (template : Template) (run : Run CodeText) :
    template.finish run = { run with log := run.log ++ template.closing run.outcome } := by
  rcases run with ⟨outcome, log, cache⟩
  cases outcome <;> simp [finish, closing]

section Substitution

variable {bindings : Bindings Datum} {encode : Option Bool} {values : Bindings Value}

/-- The first fault among the data of a call. -/
def fault? (template : Template) (bindings : Bindings Datum) (encode : Option Bool) :
    Option Value.Fault :=
  Value.fault? (encode.getD template.options.encode) bindings

theorem prepare_eq_error_iff {template : Template} {cause : Value.Fault} :
    template.prepare bindings encode = .error cause ↔
      template.fault? bindings encode = some cause :=
  Value.prepare_eq_error_iff

theorem exists_prepare_iff {template : Template} :
    (∃ values, template.prepare bindings encode = .ok values) ↔
      template.fault? bindings encode = none :=
  Value.exists_prepare_iff

theorem fault?_of_prepare {template : Template}
    (prepared : template.prepare bindings encode = .ok values) :
    template.fault? bindings encode = none :=
  exists_prepare_iff.mp ⟨values, prepared⟩

/-- A call with a fault fails with it at once. -/
theorem substitute_of_fault? {template : Template} {cause : Value.Fault}
    (faulty : template.fault? bindings encode = some cause) (cache : Cache) :
    template.substitute cache bindings encode =
      { outcome := .error (.unprepared cause), log := [], cache } := by
  rw [substitute, prepare_eq_error_iff.mpr faulty]

theorem substitute_of_prepare {template : Template}
    (prepared : template.prepare bindings encode = .ok values) (cache : Cache) :
    template.substitute cache bindings encode =
      template.finish (template.expandSegments values cache template.segments) := by
  rw [substitute, prepared]

/-- A call on a sound cache has its effect and leaves one. -/
theorem perform_of_isSound (template : Template) (sound : cache.IsSound) (call : Call) :
    (template.perform cache call).observed = template.effect call ∧
      Cache.IsSound (template.perform cache call).cache := by
  cases call with
  | substitute bindings encode =>
      simp only [perform, substitute, effect]
      cases template.prepare bindings encode with
      | error cause => exact ⟨rfl, sound⟩
      | ok values =>
          obtain ⟨observed, later⟩ :=
            template.expandSegments_of_isSound values template.segments sound
          simp only [finish_eq]
          refine ⟨?_, later⟩
          simp only [Run.observed, Prod.ext_iff] at observed
          simp only [Run.observed, Run.map, observed]
  | variableNames =>
      obtain ⟨observed, later⟩ := template.declaredNames_of_isSound template.bodies sound
      refine ⟨?_, later⟩
      simp only [Run.observed, Prod.ext_iff] at observed
      simp only [perform, variableNames, Run.observed, Run.map, effect, observed]
      cases template.bodies.mapM Marker.declared <;> rfl

/-- The outcome of an expansion joins the expansions of the segments. -/
theorem outcome_substitute_of_prepare {template : Template} (sound : cache.IsSound)
    (prepared : template.prepare bindings encode = .ok values) :
    (template.substitute cache bindings encode).outcome =
      (template.segments.mapM (Segment.expansion template.options.onMalformed values)).map
        List.flatten := by
  obtain ⟨observed, _⟩ := template.expandSegments_of_isSound values template.segments sound
  rw [substitute_of_prepare prepared, finish_eq, ← Segment.outcome_effects, ← observed]
  rfl

/-- An expansion fails with the fault of its data, or else like its segments. -/
theorem outcome_substitute (template : Template) (sound : cache.IsSound)
    (bindings : Bindings Datum) (encode : Option Bool) :
    (template.substitute cache bindings encode).outcome = (do
      let values ← (template.prepare bindings encode).mapError .unprepared
      (template.segments.mapM (Segment.expansion template.options.onMalformed values)).map
        List.flatten) := by
  cases prepared : template.prepare bindings encode with
  | error cause =>
      rw [substitute, prepared]
      rfl
  | ok values => exact outcome_substitute_of_prepare sound prepared

/-- The segments are expanded if each marker is, and then the markers are filled. -/
theorem mapM_expansion_eq_ok_iff (policy : MalformedPolicy) (values : Bindings Value)
    (segments : List Segment) (result : CodeText) :
    (segments.mapM (Segment.expansion policy values)).map List.flatten = .ok result ↔
      ∃ replacement : Text → CodeText,
        (∀ body ∈ Segment.bodies segments,
          Segment.expansion policy values (.marker body) = .ok (replacement body)) ∧
        result = segments.flatMap (Segment.fill replacement) := by
  constructor
  · intro success
    let replacement (body : Text) : CodeText :=
      (Segment.expansion policy values (.marker body)).toOption.getD []
    have each : ∀ segment ∈ segments,
        Segment.expansion policy values segment = .ok (Segment.fill replacement segment) := by
      intro segment member
      cases joined : segments.mapM (Segment.expansion policy values) with
      | error failure => simp [joined, Except.map] at success
      | ok texts =>
          obtain ⟨text, _, expanded⟩ := Traversal.forall_ok_of_mapM _ joined segment member
          cases segment with
          | literal character => rfl
          | marker body => simp [Segment.fill, replacement, expanded, Except.toOption]
    rw [Traversal.mapM_of_forall_ok _ each] at success
    cases success
    exact ⟨replacement, fun body member => each _ (Segment.mem_bodies_iff.mp member),
      List.flatMap_def.symm⟩
  · rintro ⟨replacement, each, rfl⟩
    have filled : ∀ segment ∈ segments,
        Segment.expansion policy values segment = .ok (Segment.fill replacement segment) := by
      intro segment member
      cases segment with
      | literal character => rfl
      | marker body => exact each body (Segment.mem_bodies_iff.mpr member)
    rw [Traversal.mapM_of_forall_ok _ filled, List.flatMap_def]
    rfl

/-- A prepared expansion succeeds if each marker does. -/
theorem outcome_eq_ok_iff_of_prepare {template : Template} (sound : cache.IsSound)
    (prepared : template.prepare bindings encode = .ok values) (result : CodeText) :
    (template.substitute cache bindings encode).outcome = .ok result ↔
      ∃ replacement : Text → CodeText,
        (∀ body ∈ template.bodies,
          Segment.expansion template.options.onMalformed values (.marker body) =
            .ok (replacement body)) ∧
        result = template.segments.flatMap (Segment.fill replacement) := by
  rw [outcome_substitute_of_prepare sound prepared, mapM_expansion_eq_ok_iff]
  rfl

/-- An expansion succeeds only with prepared values. -/
theorem exists_prepare_of_outcome {template : Template} {result : CodeText}
    (success : (template.substitute cache bindings encode).outcome = .ok result) :
    ∃ values, template.prepare bindings encode = .ok values := by
  cases prepared : template.prepare bindings encode with
  | error cause =>
      rw [substitute, prepared] at success
      cases success
  | ok values => exact ⟨values, rfl⟩

theorem fault?_of_outcome {template : Template} {result : CodeText}
    (success : (template.substitute cache bindings encode).outcome = .ok result) :
    template.fault? bindings encode = none :=
  exists_prepare_iff.mp (exists_prepare_of_outcome success)

end Substitution

/-- The names of a template are those of its bodies without repetitions. -/
theorem outcome_variableNames (template : Template) (sound : cache.IsSound) :
    (template.variableNames cache).outcome =
      (template.bodies.mapM Marker.declared).map fun names => names.flatten.eraseDups := by
  obtain ⟨observed, _⟩ := template.declaredNames_of_isSound template.bodies sound
  simp only [Run.observed, Prod.ext_iff] at observed
  simp only [variableNames, Run.map, observed]
  cases template.bodies.mapM Marker.declared <;> rfl

/-- The cache of a template after a list of calls. -/
def cacheAfter (template : Template) (calls : List Call) : Cache :=
  calls.foldl (fun cache call => (template.perform cache call).cache) .empty

/-- Every call leaves a sound cache, so every list of calls does. -/
theorem cacheAfter_isSound (template : Template) (calls : List Call) :
    Cache.IsSound (template.cacheAfter calls) := by
  suffices run : ∀ cache : Cache, cache.IsSound → Cache.IsSound
      (calls.foldl (fun cache call => (template.perform cache call).cache) cache) from
    run .empty Cache.isSound_empty
  induction calls with
  | nil => exact fun cache sound => sound
  | cons call rest inductionHypothesis =>
      intro cache sound
      exact inductionHypothesis _ (template.perform_of_isSound sound call).2

end Template

end UriExpansion
