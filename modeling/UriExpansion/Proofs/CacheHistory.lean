import UriExpansion.Proofs.CacheContents
import UriExpansion.Proofs.FirstOccurrence

namespace UriExpansion

/-- A successful run has a result. -/
def Run.succeeded {A : Type} (run : Run A) : Bool :=
  (error? run.outcome).isNone

/-- A stopped run has reached a malformed marker. -/
def Run.stopped {A : Type} (run : Run A) : Bool :=
  match run.outcome with
  | .error (.malformed _) => true
  | _ => false

/-- Runs leave the cache of the last one. -/
def Run.lastCache {A : Type} : Cache → List (Run A) → Cache
  | first, [] => first
  | _, run :: rest => lastCache run.cache rest

theorem Run.lastCache_append_singleton {A : Type} (first : Cache) (runs : List (Run A))
    (run : Run A) : lastCache first (runs ++ [run]) = run.cache := by
  induction runs generalizing first with
  | nil => rfl
  | cons other rest inductionHypothesis => exact inductionHypothesis other.cache

namespace Template

variable (template : Template)

/-- A run scans all bodies, those before the first malformed one, or none. -/
def scannedBy (run : Run Answer) : List Text :=
  match run.outcome with
  | .ok _ => template.bodies
  | .error (.malformed _) => template.bodies.takeWhile Marker.isWellFormed
  | .error _ => []

/-- The bodies that runs on a new template scan together. -/
def scanned (runs : List (Run Answer)) : List Text :=
  if runs.any Run.succeeded then template.bodies
  else if runs.any Run.stopped then template.bodies.takeWhile Marker.isWellFormed
  else []

theorem scanned_prefix (runs : List (Run Answer)) : template.scanned runs <+: template.bodies := by
  unfold scanned
  split
  · exact List.prefix_rfl
  · split
    · exact List.takeWhile_prefix _
    · exact List.nil_prefix

/-- A further run scans no new body or goes on from the scanned ones. -/
theorem scanned_append_run (runs : List (Run Answer)) (run : Run Answer) :
    (template.scannedBy run <+: template.scanned runs ∧
        template.scanned (runs ++ [run]) = template.scanned runs) ∨
      (template.scanned runs <+: template.scannedBy run ∧
        template.scanned (runs ++ [run]) = template.scannedBy run) := by
  obtain ⟨outcome, log, cache⟩ := run
  match outcome with
  | .ok answer =>
      right
      exact ⟨template.scanned_prefix runs, by simp [scanned, scannedBy, Run.succeeded]⟩
  | .error (.malformed problem) =>
      cases earlier : runs.any Run.succeeded with
      | true =>
          left
          refine ⟨?_, by simp [scanned, Run.succeeded, earlier]⟩
          rw [scanned, if_pos earlier]
          exact List.takeWhile_prefix _
      | false =>
          right
          refine ⟨?_, by simp [scanned, scannedBy, Run.succeeded, Run.stopped, earlier]⟩
          rw [scanned, if_neg (by simp [earlier])]
          split
          · exact List.prefix_rfl
          · exact List.nil_prefix
  | .error (.unprepared cause) =>
      exact .inl ⟨List.nil_prefix, by simp [scanned, Run.succeeded, Run.stopped]⟩
  | .error .noVariable =>
      exact .inl ⟨List.nil_prefix, by simp [scanned, Run.succeeded, Run.stopped]⟩

/-- Further runs scan further bodies. -/
theorem scanned_prefix_append (runs more : List (Run Answer)) :
    template.scanned runs <+: template.scanned (runs ++ more) := by
  induction more using List.reverseRecOn with
  | nil => simp
  | append_singleton more run inductionHypothesis =>
      rw [← List.append_assoc]
      obtain ⟨_, same⟩ | ⟨initial, same⟩ := template.scanned_append_run (runs ++ more) run
      · rw [same]
        exact inductionHypothesis
      · rw [same]
        exact inductionHypothesis.trans initial

/-- The bodies that a call goes past are those that its run scans. -/
theorem passedBy_eq_scannedBy {cache : Cache} (sound : cache.IsSound) (call : Call) :
    template.passedBy call = template.scannedBy (template.perform cache call) := by
  have failure := template.error?_perform sound call
  unfold passedBy scannedBy
  cases fault : template.faultOf? call with
  | some cause =>
      rw [fault, error?_eq_some_iff] at failure
      rw [failure]
  | none =>
      rw [fault] at failure
      cases stop : template.bodies.find? (template.policyOf call).stopsAt with
      | none =>
          rw [stop, Option.map_none, error?_eq_none_iff] at failure
          obtain ⟨answer, success⟩ := failure
          rw [success]
          exact passed_of_find?_eq_none stop
      | some body =>
          rw [stop, Option.map_some, error?_eq_some_iff] at failure
          rw [failure]
          exact passed_of_find?_eq_some stop

/-- The cache that holds the entries of scanned bodies and nothing else. -/
def cacheOf (bodies : List Text) : Cache :=
  .ofList (template.kept bodies)

theorem isSound_cacheOf (bodies : List Text) : Cache.IsSound (template.cacheOf bodies) :=
  (Cache.update_of_parse Cache.isSound_empty fun _ => template.parse_of_mem_kept).1

theorem cacheOf_append (first second : List Text) :
    template.cacheOf (first ++ second) =
      (template.cacheOf first).update (template.kept second) := by
  rw [cacheOf, cacheOf, Bindings.ofList, Bindings.ofList, kept_append, Bindings.update_append]

/-- The keys are the well-formed bodies without repetitions. -/
theorem names_cacheOf (caching : template.options.cacheExpansions = true) (bodies : List Text) :
    (template.cacheOf bodies).names = (bodies.filter Marker.isWellFormed).eraseDups := by
  rw [cacheOf, Bindings.names_ofList, kept, if_pos caching, Marker.map_fst_entries]

theorem entries_cacheOf_prefix {first second : List Text} (initial : first <+: second) :
    (template.cacheOf first).entries <+: (template.cacheOf second).entries := by
  obtain ⟨rest, rfl⟩ := initial
  rw [cacheOf_append]
  exact (Cache.update_of_parse (template.isSound_cacheOf first) fun _ =>
    template.parse_of_mem_kept).2

/-- Bodies that were scanned before leave the cache as it is. -/
theorem update_cacheOf_of_subset {first second : List Text} (known : second ⊆ first) :
    (template.cacheOf first).update (template.kept second) = template.cacheOf first := by
  apply Bindings.update_of_forall_get?
  intro entry member
  have present : entry ∈ template.kept first := template.kept_subset known member
  have named : entry.1 ∈ (template.cacheOf first).names :=
    Bindings.mem_names_ofList.mpr (List.mem_map_of_mem present)
  obtain ⟨marker, found⟩ := Bindings.mem_names_iff.mp named
  have parsed := template.isSound_cacheOf first entry.1 marker found
  rw [template.parse_of_mem_kept member, Except.ok.injEq] at parsed
  rw [found, parsed]

/-- Bodies that continue the scanned ones leave the cache of all of them. -/
theorem update_cacheOf_of_prefix {first second : List Text} (initial : first <+: second) :
    (template.cacheOf first).update (template.kept second) = template.cacheOf second := by
  obtain ⟨rest, rfl⟩ := initial
  rw [kept_append, Bindings.update_append, template.update_cacheOf_of_subset (List.Subset.refl _),
    cacheOf_append]

/-- One call adds the bodies that it scans to the cache. -/
theorem perform_cacheOf (runs : List (Run Answer)) (call : Call) :
    (template.perform (template.cacheOf (template.scanned runs)) call).cache =
      template.cacheOf (template.scanned
        (runs ++ [template.perform (template.cacheOf (template.scanned runs)) call])) := by
  have sound := template.isSound_cacheOf (template.scanned runs)
  rw [template.perform_cache sound, template.passedBy_eq_scannedBy sound]
  generalize template.perform (template.cacheOf (template.scanned runs)) call = run
  obtain ⟨known, same⟩ | ⟨initial, same⟩ := template.scanned_append_run runs run
  · rw [same, template.update_cacheOf_of_subset known.subset]
  · rw [same, template.update_cacheOf_of_prefix initial]

/-- The runs of a session leave the cache of all bodies that they scanned. -/
theorem lastCache_session {earlier done later : List (Run Answer)} {calls : List Call}
    (parts : template.session (template.cacheOf (template.scanned earlier)) calls = done ++ later) :
    Run.lastCache (template.cacheOf (template.scanned earlier)) done =
      template.cacheOf (template.scanned (earlier ++ done)) := by
  induction done generalizing earlier calls with
  | nil => rw [List.append_nil, Run.lastCache]
  | cons run done inductionHypothesis =>
      cases calls with
      | nil => exact absurd parts (by simp [session])
      | cons call calls =>
          obtain ⟨rfl, rest⟩ := List.cons.inj parts
          have step := template.perform_cacheOf earlier call
          rw [step] at rest
          rw [Run.lastCache, step, inductionHypothesis rest, List.append_assoc]
          rfl

/-- A session on a new template starts with the cache of no bodies. -/
theorem lastCache_empty {done later : List (Run Answer)} {calls : List Call}
    (parts : template.session .empty calls = done ++ later) :
    Run.lastCache .empty done = template.cacheOf (template.scanned done) := by
  have start : template.cacheOf (template.scanned []) = .empty := by
    have unscanned : template.scanned [] = [] := rfl
    rw [unscanned, cacheOf, kept_nil]
    rfl
  rw [← start] at parts ⊢
  exact template.lastCache_session parts

/-- A cache holds the well-formed bodies scanned so far in order of first occurrence. -/
theorem lastCache_of_session (calls : List Call) (done later : List (Run Answer))
    (parts : template.session .empty calls = done ++ later) :
    let cache := Run.lastCache .empty done
    (template.options.cacheExpansions = true →
      (∀ body ∈ cache.names, ∃ marker,
        cache.get? body = some marker ∧ Marker.parse body = .ok marker) ∧
      cache.names = ((template.scanned done).filter Marker.isWellFormed).eraseDups ∧
      (∀ body ∈ cache.names, Marker.isMalformed body = false) ∧
      cache.names <+: (template.bodies.filter Marker.isWellFormed).eraseDups ∧
      ∀ next ∈ later, cache.entries <+: next.cache.entries) ∧
    (template.options.cacheExpansions = false → cache = .empty) := by
  intro cache
  have contents : cache = template.cacheOf (template.scanned done) :=
    template.lastCache_empty parts
  rw [contents]
  refine ⟨fun caching => ?_, fun uncached => ?_⟩
  · have names := template.names_cacheOf caching (template.scanned done)
    refine ⟨?_, names, ?_, ?_, ?_⟩
    · intro body member
      obtain ⟨marker, found⟩ := Bindings.mem_names_iff.mp member
      exact ⟨marker, found, template.isSound_cacheOf _ body marker found⟩
    · intro body member
      rw [names, List.mem_eraseDups, List.mem_filter] at member
      simpa using member.2
    · rw [names]
      exact eraseDups_prefix ((template.scanned_prefix done).filter _)
    · intro next member
      obtain ⟨before, after, rfl⟩ := List.append_of_mem member
      have reached : template.session .empty calls = (done ++ before ++ [next]) ++ after := by
        simp [parts]
      have nextContents := template.lastCache_empty reached
      rw [Run.lastCache_append_singleton, List.append_assoc] at nextContents
      rw [nextContents]
      exact template.entries_cacheOf_prefix (template.scanned_prefix_append done _)
  · rw [cacheOf, kept, if_neg (by simp [uncached])]
    rfl

/-- An expansion goes on where a listing of names has stopped. -/
theorem lastCache_of_session_after_failure :
    let template : Template :=
      { text := "\x7bb\x7d\x7ba\x7d\x7bx|y\x7d\x7bb\x7d\x7bc\x7d".toList
        options := { onMalformed := .skip } }
    let uncached : Template :=
      { template with options := { template.options with cacheExpansions := false } }
    let calls : List Call := [.variableNames, .substitute .empty none]
    let listing := template.perform .empty .variableNames
    let expansion := template.perform listing.cache (.substitute .empty none)
    template.session .empty calls = [listing] ++ [expansion] ∧
      template.options.cacheExpansions = true ∧
      listing.cache.names = [['b'], ['a']] ∧
      expansion.cache.names = [['b'], ['a'], ['c']] ∧
      listing.cache.entries <+: expansion.cache.entries ∧
      uncached.options.cacheExpansions = false ∧
      Run.lastCache .empty (uncached.session .empty calls) = .empty := by
  intro template uncached calls listing expansion
  obtain ⟨stopped, _⟩ := template.lastCache_of_session calls [listing] [expansion] rfl
  obtain ⟨_, names, _, _, extended⟩ := stopped rfl
  obtain ⟨finished, _⟩ := template.lastCache_of_session calls [listing, expansion] [] rfl
  obtain ⟨_, allNames, _, _, _⟩ := finished rfl
  obtain ⟨_, nothing⟩ := uncached.lastCache_of_session calls (uncached.session .empty calls) []
    (List.append_nil _).symm
  exact ⟨rfl, rfl, names.trans (by decide +kernel), allNames.trans (by decide +kernel),
    extended expansion List.mem_cons_self, rfl, nothing rfl⟩

/-- A call that fails at a lone surrogate scans no body. -/
theorem lastCache_of_session_loneSurrogate :
    let template : Template := { text := ['{', 'a', '}'] }
    let calls : List Call := [.substitute (.ofList [(['a'], .text [.surrogate 0])]) none]
    let runs := template.session .empty calls
    (runs.all fun run => !run.succeeded) = true ∧ runs.length = 1 ∧
      (template.bodies.takeWhile Marker.isWellFormed).eraseDups = [['a']] ∧
      (Run.lastCache .empty runs).names = [] := by
  intro template calls runs
  exact ⟨by rfl, by rfl, by decide +kernel, by rfl⟩

end Template

end UriExpansion
