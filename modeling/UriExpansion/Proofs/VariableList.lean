import Mathlib.Data.List.Forall2
import UriExpansion.Proofs.FirstOccurrence
import UriExpansion.Proofs.Splitting
import UriExpansion.Marker

namespace UriExpansion

namespace Bindings

variable {A : Type}

/-- An entry is the last of its name if none stands behind it. -/
def IsLast (entries : List (Text × A)) (entry : Text × A) : Prop :=
  ∃ before after, entries = before ++ entry :: after ∧ entry.1 ∉ after.map Prod.fst

theorem isLast_append_singleton {entries : List (Text × A)} {entry other : Text × A} :
    IsLast (entries ++ [other]) entry ↔
      other = entry ∨ other.1 ≠ entry.1 ∧ IsLast entries entry := by
  constructor
  · rintro ⟨before, after, whole, absent⟩
    rcases List.eq_nil_or_concat' after with rfl | ⟨earlier, last, rfl⟩
    · exact .inl (List.append_singleton_inj.mp whole).2
    · rw [← List.cons_append, ← List.append_assoc] at whole
      obtain ⟨rfl, rfl⟩ := List.append_singleton_inj.mp whole
      rw [List.map_append, List.mem_append, not_or] at absent
      exact .inr ⟨fun same => absent.2 (by simp [same]), before, earlier, rfl, absent.1⟩
  · rintro (rfl | ⟨different, before, after, rfl, absent⟩)
    · exact ⟨entries, [], rfl, List.not_mem_nil⟩
    · refine ⟨before, after ++ [other], by simp, ?_⟩
      simpa [absent] using different.symm

/-- A search from the end finds the last entry of a name. -/
theorem find_reverse_eq_some_iff {name : Text} {value : A} {entries : List (Text × A)} :
    find name entries.reverse = some value ↔ IsLast entries (name, value) := by
  induction entries using List.reverseRecOn with
  | nil => simp [find, IsLast]
  | append_singleton entries entry inductionHypothesis =>
      rw [isLast_append_singleton, ← inductionHypothesis, List.reverse_append,
        List.reverse_singleton, List.singleton_append, find]
      by_cases same : entry.1 = name
      · simp [same, Prod.ext_iff]
      · simp [same, Prod.ext_iff]

/-- After an update a name has its last value or its earlier one. -/
theorem get?_update (bindings : Bindings A) (entries : List (Text × A)) (name : Text) :
    (bindings.update entries).get? name =
      (find name entries.reverse).or (bindings.get? name) := by
  induction entries using List.reverseRecOn with
  | nil => rfl
  | append_singleton entries entry inductionHypothesis =>
      have step : bindings.update (entries ++ [entry]) =
          (bindings.update entries).insert entry.1 entry.2 := by
        rw [update_append]
        rfl
      rw [step, get?_insert, inductionHypothesis, List.reverse_append, List.reverse_singleton,
        List.singleton_append, find]
      split <;> rfl

theorem get?_ofList (entries : List (Text × A)) (name : Text) :
    (ofList entries).get? name = find name entries.reverse := by
  rw [ofList, get?_update, get?_empty, Option.or_none]

/-- The names of bindings are distinct, so each entry is a last one. -/
theorem find_reverse_entries (bindings : Bindings A) (name : Text) :
    find name bindings.entries.reverse = bindings.get? name := by
  rw [← get?_ofList, ofList_entries]

/-- The entries are the names in order with their values. -/
theorem filterMap_names (bindings : Bindings A) :
    (bindings.names.filterMap fun name => (bindings.get? name).map (name, ·)) =
      bindings.entries := by
  have image (entry : Text × A) (member : entry ∈ bindings.entries) :
      (bindings.get? entry.1).map (entry.1, ·) = some entry := by
    rw [mem_entries_iff.mp member, Option.map_some]
  rw [names, List.filterMap_map]
  exact (List.filterMap_congr image).trans List.filterMap_some

/-- Bindings are equal if names, order and values are. -/
theorem eq_of_names_of_get? {first second : Bindings A} (sameNames : first.names = second.names)
    (sameValues : ∀ name, first.get? name = second.get? name) : first = second := by
  apply eq_of_entries_eq
  rw [← filterMap_names first, ← filterMap_names second, sameNames]
  simp only [sameValues]

/-- An update with bindings adds their new names in order. -/
theorem names_update_entries (first second : Bindings A) :
    (first.update second.entries).names =
      first.names ++ second.names.filter fun name => name ∉ first.names := by
  have firstNames : first.names.eraseDups = first.names := eraseDups_of_nodup first.distinct
  have secondNames : second.names.eraseDups = second.names := eraseDups_of_nodup second.distinct
  calc (first.update second.entries).names
      = (first.names ++ second.names).eraseDups := names_update first second.entries
    _ = first.names ++ second.names.filter fun name => name ∉ first.names := by
        rw [eraseDups_append_eq, firstNames, secondNames]

/-- An update with bindings takes their values before the earlier ones. -/
theorem get?_update_entries (first second : Bindings A) (name : Text) :
    (first.update second.entries).get? name = (second.get? name).or (first.get? name) := by
  rw [get?_update, find_reverse_entries]

/-- Entries may be collected to bindings before they update other ones. -/
theorem update_entries_ofList (bindings : Bindings A) (entries : List (Text × A)) :
    bindings.update (ofList entries).entries = bindings.update entries := by
  apply eq_of_names_of_get?
  · have collected : (ofList entries).entries.map Prod.fst = (entries.map Prod.fst).eraseDups :=
      names_ofList entries
    rw [names_update, names_update, collected, eraseDups_append_eq, eraseDups_append_eq,
      eraseDups_of_nodup (nodup_eraseDups (entries.map Prod.fst))]
  · intro name
    rw [get?_update_entries, get?_ofList, get?_update]

end Bindings

namespace Marker

/-- Only the default of a specification may hold further equals signs. -/
inductive Specifies : Text → Text × Text → Prop where
  | bare {name : Text} (equals : '=' ∉ name) : Specifies name (name, [])
  | valued {name : Text} (equals : '=' ∉ name) (default : Text) :
      Specifies (name ++ '=' :: default) (name, default)

theorem specifies_iff {piece : Text} {entry : Text × Text} :
    Specifies piece entry ↔ Text.cutAt '=' piece = entry := by
  constructor
  · rintro (equals | ⟨equals, default⟩)
    · exact Text.cutAt_of_not_mem equals
    · exact Text.cutAt_append equals default
  · rintro rfl
    by_cases equals : '=' ∈ piece
    · have valued := Specifies.valued (Text.not_mem_cutAt_fst '=' piece) (Text.cutAt '=' piece).2
      rwa [Text.cutAt_parts equals] at valued
    · rw [Text.cutAt_of_not_mem equals]
      exact .bare equals

/-- Commas stand between the pieces of a list and not in them. -/
def Lists (text : Text) (entries : List (Text × Text)) : Prop :=
  ∃ pieces, text = Text.join [','] pieces ∧ pieces ≠ [] ∧ (∀ piece ∈ pieces, ',' ∉ piece) ∧
    List.Forall₂ Specifies pieces entries

/-- Each text lists one sequence of variables. -/
theorem lists_iff {text : Text} {entries : List (Text × Text)} :
    Lists text entries ↔ entries = specifications text := by
  have specified (pieces : List Text) :
      List.Forall₂ Specifies pieces entries ↔ pieces.map (Text.cutAt '=') = entries := by
    have relation : Specifies = fun piece entry => Text.cutAt '=' piece = entry := by
      funext piece entry
      exact propext specifies_iff
    rw [relation, ← List.forall₂_map_left_iff, List.forall₂_eq_eq_eq]
  constructor
  · rintro ⟨pieces, rfl, nonempty, comma, each⟩
    have split : (Text.join [','] pieces).splitOn ',' = pieces :=
      List.splitOn_intercalate ',' comma nonempty
    rw [specifications, split, (specified pieces).mp each]
  · rintro rfl
    exact ⟨text.splitOn ',', (List.intercalate_splitOn ',').symm, List.splitOn_ne_nil ',' text,
      fun _ listed => Text.not_mem_of_mem_splitOn listed, (specified _).mpr rfl⟩

theorem specifications_append (first second : Text) :
    specifications (first ++ ',' :: second) = specifications first ++ specifications second := by
  rw [specifications, List.splitOn_append_cons_self, List.map_append]
  rfl

/-- A list binds each name at its first place to its last default. -/
theorem defaultsOf_binds_last :
    (∀ text : Text, ∃ entries,
      (∀ other, Lists text other ↔ other = entries) ∧
      (defaultsOf text).names = (entries.map Prod.fst).eraseDups ∧
      ∀ name default,
        (defaultsOf text).get? name = some default ↔ Bindings.IsLast entries (name, default)) ∧
    ∀ first second : Text,
      let whole := defaultsOf (first ++ ',' :: second)
      whole = (defaultsOf first).update (defaultsOf second).entries ∧
      whole.names = (defaultsOf first).names ++
        ((defaultsOf second).names.filter fun name => name ∉ (defaultsOf first).names) ∧
      ∀ name, whole.get? name =
        ((defaultsOf second).get? name).or ((defaultsOf first).get? name) := by
  refine ⟨fun text => ⟨specifications text, fun _ => lists_iff, ?_, fun name default => ?_⟩, ?_⟩
  · exact Bindings.names_ofList (specifications text)
  · rw [defaultsOf, Bindings.get?_ofList, Bindings.find_reverse_eq_some_iff]
  · intro first second whole
    have updated : whole = (defaultsOf first).update (defaultsOf second).entries := by
      simp only [whole, defaultsOf]
      rw [Bindings.update_entries_ofList, specifications_append]
      exact Bindings.update_append .empty _ _
    refine ⟨updated, ?_, fun name => ?_⟩
    · rw [updated, Bindings.names_update_entries]
    · rw [updated, Bindings.get?_update_entries]

/-- A later name without a default takes the earlier default away. -/
example : (defaultsOf "x=1,=a=b,y,x".toList).entries =
    [(['x'], []), ([], ['a', '=', 'b']), (['y'], [])] := by
  decide

end Marker

end UriExpansion
