import UriExpansion.Text.Basic

namespace UriExpansion

/-- The bindings pair distinct names with values in order of first insertion. -/
structure Bindings (A : Type) where
  entries : List (Text × A)
  distinct : (entries.map Prod.fst).Nodup
  deriving DecidableEq

namespace Bindings

variable {A B : Type}

/-- The empty bindings have no names. -/
def empty : Bindings A := ⟨[], List.Pairwise.nil⟩

/-- The names stand in order of first insertion. -/
def names (bindings : Bindings A) : List Text :=
  bindings.entries.map Prod.fst

/-- The value of a name in a list of entries. -/
def find (name : Text) : List (Text × A) → Option A
  | [] => none
  | entry :: rest => if entry.1 = name then some entry.2 else find name rest

/-- A present name takes the new value, and an absent one is appended. -/
def put (name : Text) (value : A) : List (Text × A) → List (Text × A)
  | [] => [(name, value)]
  | entry :: rest =>
      if entry.1 = name then (name, value) :: rest else entry :: put name value rest

/-- The names after an insertion are the old names and then a new one. -/
theorem names_put (name : Text) (value : A) (entries : List (Text × A)) :
    (put name value entries).map Prod.fst =
      if name ∈ entries.map Prod.fst then entries.map Prod.fst
      else entries.map Prod.fst ++ [name] := by
  induction entries with
  | nil => simp [put]
  | cons entry rest inductionHypothesis =>
      by_cases same : entry.1 = name
      · simp [put, same]
      · have other : name ≠ entry.1 := fun equal => same equal.symm
        by_cases member : name ∈ rest.map Prod.fst
        · rw [if_pos member] at inductionHypothesis
          simp only [put, same, ↓reduceIte, List.map_cons, inductionHypothesis]
          rw [if_pos (List.mem_cons_of_mem _ member)]
        · rw [if_neg member] at inductionHypothesis
          simp only [put, same, ↓reduceIte, List.map_cons, inductionHypothesis]
          rw [if_neg (by simpa [other] using member)]
          rfl

theorem nodup_put (name : Text) (value : A) {entries : List (Text × A)}
    (distinct : (entries.map Prod.fst).Nodup) : ((put name value entries).map Prod.fst).Nodup := by
  rw [names_put]
  split
  · exact distinct
  · next absent =>
      rw [List.nodup_append]
      exact ⟨distinct, by simp, by
        intro first member second single equal
        simp only [List.mem_singleton] at single
        exact absent (single ▸ equal ▸ member)⟩

theorem find_put (name other : Text) (value : A) (entries : List (Text × A)) :
    find other (put name value entries) =
      if name = other then some value else find other entries := by
  induction entries with
  | nil => simp [put, find]
  | cons entry rest inductionHypothesis =>
      by_cases same : entry.1 = name
      · by_cases equal : name = other <;> simp [put, find, same, equal]
      · by_cases equal : name = other
        · subst equal
          simpa [put, find, same] using inductionHypothesis
        · simp [put, find, same, inductionHypothesis, equal]

/-- The value that a name has already may be put again without a change. -/
theorem put_of_find_eq_some {name : Text} {value : A} {entries : List (Text × A)}
    (found : find name entries = some value) : put name value entries = entries := by
  induction entries with
  | nil => exact absurd found (by simp [find])
  | cons entry rest inductionHypothesis =>
      by_cases same : entry.1 = name
      · simp only [find, same, if_true, Option.some.injEq] at found
        rw [put, if_pos same, ← same, ← found]
      · simp only [find, same, if_false] at found
        rw [put, if_neg same, inductionHypothesis found]

/-- A new name is put after the old ones. -/
theorem put_of_find_eq_none {name : Text} {entries : List (Text × A)}
    (absent : find name entries = none) (value : A) :
    put name value entries = entries ++ [(name, value)] := by
  induction entries with
  | nil => rfl
  | cons entry rest inductionHypothesis =>
      by_cases same : entry.1 = name
      · simp only [find, same, if_true] at absent
        exact absurd absent (by simp)
      · simp only [find, same, if_false] at absent
        rw [put, if_neg same, inductionHypothesis absent, List.cons_append]

/-- The names of a list are those that are found in it. -/
theorem mem_map_fst_iff {name : Text} {entries : List (Text × A)} :
    name ∈ entries.map Prod.fst ↔ ∃ value, find name entries = some value := by
  induction entries with
  | nil => simp [find]
  | cons entry rest inductionHypothesis =>
      by_cases same : entry.1 = name
      · simp [find, same]
      · have other : name ≠ entry.1 := fun equal => same equal.symm
        simpa [find, same, other] using inductionHypothesis

/-- The value of a name, if the name is bound. -/
def get? (bindings : Bindings A) (name : Text) : Option A :=
  find name bindings.entries

/-- An inserted name keeps its first position and takes the new value. -/
def insert (bindings : Bindings A) (name : Text) (value : A) : Bindings A :=
  ⟨put name value bindings.entries, nodup_put name value bindings.distinct⟩

@[simp] theorem get?_empty (name : Text) : (empty : Bindings A).get? name = none := rfl

@[simp] theorem names_empty : (empty : Bindings A).names = [] := rfl

theorem get?_insert (bindings : Bindings A) (name other : Text) (value : A) :
    (bindings.insert name value).get? other =
      if name = other then some value else bindings.get? other :=
  find_put name other value bindings.entries

theorem names_insert (bindings : Bindings A) (name : Text) (value : A) :
    (bindings.insert name value).names =
      if name ∈ bindings.names then bindings.names else bindings.names ++ [name] :=
  names_put name value bindings.entries

/-- The update inserts the given entries from left to right. -/
def update (bindings : Bindings A) (entries : List (Text × A)) : Bindings A :=
  entries.foldl (fun current entry => current.insert entry.1 entry.2) bindings

/-- The bindings of entries that may repeat names. -/
def ofList (entries : List (Text × A)) : Bindings A :=
  empty.update entries

theorem update_append (bindings : Bindings A) (first second : List (Text × A)) :
    bindings.update (first ++ second) = (bindings.update first).update second := by
  simp [update]

theorem mem_names_insert {bindings : Bindings A} {name other : Text} {value : A} :
    other ∈ (bindings.insert name value).names ↔ other = name ∨ other ∈ bindings.names := by
  rw [names_insert]
  split
  · next present =>
      constructor
      · exact .inr
      · rintro (rfl | member)
        · exact present
        · exact member
  · rw [List.mem_append, List.mem_singleton, or_comm]

/-- The names after an update are the old names and those of the entries. -/
theorem mem_names_update {bindings : Bindings A} {entries : List (Text × A)} {name : Text} :
    name ∈ (bindings.update entries).names ↔
      name ∈ bindings.names ∨ name ∈ entries.map Prod.fst := by
  induction entries generalizing bindings with
  | nil => simp [update]
  | cons entry rest inductionHypothesis =>
      have step : bindings.update (entry :: rest) =
          (bindings.insert entry.1 entry.2).update rest := rfl
      rw [step, inductionHypothesis, mem_names_insert, List.map_cons, List.mem_cons, or_assoc,
        or_left_comm]

theorem mem_names_ofList {entries : List (Text × A)} {name : Text} :
    name ∈ (ofList entries).names ↔ name ∈ entries.map Prod.fst := by
  rw [ofList, mem_names_update, names_empty]
  simp

/-- The map changes the values and keeps the names. -/
def map (change : Text → A → B) (bindings : Bindings A) : Bindings B :=
  ⟨bindings.entries.map fun entry => (entry.1, change entry.1 entry.2), by
    simpa [List.map_map, Function.comp_def] using bindings.distinct⟩

/-- The entries whose image is absent are dropped. -/
def filterMap (change : A → Option B) (bindings : Bindings A) : Bindings B :=
  ⟨bindings.entries.filterMap fun entry => (change entry.2).map (entry.1, ·), by
    have names : ∀ entries : List (Text × A),
        ((entries.filterMap fun entry => (change entry.2).map (entry.1, ·)).map
          Prod.fst).Sublist (entries.map Prod.fst) := by
      intro entries
      induction entries with
      | nil => exact List.Sublist.slnil
      | cons entry rest inductionHypothesis =>
          cases image : change entry.2 with
          | none => simpa [image] using inductionHypothesis.cons entry.1
          | some value => simpa [image] using inductionHypothesis.cons_cons entry.1
    exact (names bindings.entries).nodup bindings.distinct⟩

@[simp] theorem names_map (change : Text → A → B) (bindings : Bindings A) :
    (bindings.map change).names = bindings.names := by
  simp [names, map, List.map_map, Function.comp_def]

theorem map_map {C : Type} (change : Text → A → B) (further : Text → B → C)
    (bindings : Bindings A) :
    (bindings.map change).map further =
      bindings.map fun name value => further name (change name value) := by
  simp [map, List.map_map, Function.comp_def]

theorem map_congr {change other : Text → A → B} {bindings : Bindings A}
    (same : ∀ entry ∈ bindings.entries, change entry.1 entry.2 = other entry.1 entry.2) :
    bindings.map change = bindings.map other := by
  have entries : (bindings.entries.map fun entry => (entry.1, change entry.1 entry.2)) =
      bindings.entries.map fun entry => (entry.1, other entry.1 entry.2) := by
    apply List.map_congr_left
    intro entry member
    rw [same entry member]
  simp only [map, entries]

theorem find_eq_none_of_not_mem {name : Text} {entries : List (Text × A)}
    (absent : name ∉ entries.map Prod.fst) : find name entries = none := by
  cases found : find name entries with
  | none => rfl
  | some value => exact absurd (mem_map_fst_iff.mpr ⟨value, found⟩) absent

/-- The names are those that a lookup finds. -/
theorem mem_names_iff {bindings : Bindings A} {name : Text} :
    name ∈ bindings.names ↔ ∃ value, bindings.get? name = some value :=
  mem_map_fst_iff

/-- The entries are those that a lookup finds. -/
theorem mem_entries_iff {bindings : Bindings A} {name : Text} {value : A} :
    (name, value) ∈ bindings.entries ↔ bindings.get? name = some value := by
  obtain ⟨entries, distinct⟩ := bindings
  simp only [get?]
  induction entries with
  | nil => simp [find]
  | cons entry rest inductionHypothesis =>
      rw [List.map_cons, List.nodup_cons] at distinct
      have later := inductionHypothesis distinct.2
      by_cases same : entry.1 = name
      · -- The name stands nowhere else, so the first entry is the only one with it.
        have absent : (name, value) ∉ rest := fun member =>
          distinct.1 (same ▸ List.mem_map_of_mem member)
        simp only [List.mem_cons, absent, or_false, find, same, if_true, Option.some.injEq]
        exact ⟨fun equal => (congrArg Prod.snd equal).symm,
          fun equal => Prod.ext same.symm equal.symm⟩
      · have other : (name, value) ≠ entry := fun equal => same (congrArg Prod.fst equal).symm
        simpa [find, same, other] using later

/-- The insertion of a value that is bound already changes nothing. -/
theorem insert_of_get?_eq_some {bindings : Bindings A} {name : Text} {value : A}
    (found : bindings.get? name = some value) : bindings.insert name value = bindings := by
  have unchanged : put name value bindings.entries = bindings.entries := put_of_find_eq_some found
  simp only [insert, unchanged]

theorem entries_insert_of_get?_eq_none {bindings : Bindings A} {name : Text}
    (absent : bindings.get? name = none) (value : A) :
    (bindings.insert name value).entries = bindings.entries ++ [(name, value)] :=
  put_of_find_eq_none absent value

/-- An update with entries that are bound already changes nothing. -/
theorem update_of_forall_get? {bindings : Bindings A} {entries : List (Text × A)}
    (found : ∀ entry ∈ entries, bindings.get? entry.1 = some entry.2) :
    bindings.update entries = bindings := by
  induction entries with
  | nil => rfl
  | cons entry rest inductionHypothesis =>
      have later := inductionHypothesis fun other member =>
        found other (List.mem_cons_of_mem entry member)
      have step : bindings.update (entry :: rest) =
          (bindings.insert entry.1 entry.2).update rest := rfl
      rw [step, insert_of_get?_eq_some (found entry List.mem_cons_self), later]

/-- A lookup among the kept entries changes the value that is found. -/
theorem get?_filterMap (change : A → Option B) (bindings : Bindings A) (name : Text) :
    (bindings.filterMap change).get? name = (bindings.get? name).bind change := by
  obtain ⟨entries, distinct⟩ := bindings
  simp only [get?, filterMap]
  induction entries with
  | nil => rfl
  | cons entry rest inductionHypothesis =>
      rw [List.map_cons, List.nodup_cons] at distinct
      have later := inductionHypothesis distinct.2
      by_cases same : entry.1 = name
      · -- A dropped entry leaves its name unbound, since the name stands nowhere else.
        have absent : find name rest = none := find_eq_none_of_not_mem (same ▸ distinct.1)
        rw [absent] at later
        cases image : change entry.2 <;> simp [find, same, image, later]
      · cases image : change entry.2 <;> simp [find, same, image, later]

theorem eq_of_entries_eq {first second : Bindings A} (same : first.entries = second.entries) :
    first = second := by
  obtain ⟨entries, distinct⟩ := first
  obtain ⟨others, otherDistinct⟩ := second
  obtain rfl : entries = others := same
  rfl

theorem mem_put {name : Text} {value : A} {entry : Text × A} {entries : List (Text × A)}
    (member : entry ∈ put name value entries) : entry = (name, value) ∨ entry ∈ entries := by
  induction entries with
  | nil => exact .inl (List.mem_singleton.mp member)
  | cons first rest inductionHypothesis =>
      rw [put] at member
      split at member
      · exact (List.mem_cons.mp member).imp_right (List.mem_cons_of_mem first)
      · rcases List.mem_cons.mp member with rfl | later
        · exact .inr List.mem_cons_self
        · exact (inductionHypothesis later).imp_right (List.mem_cons_of_mem first)

/-- An update brings in no entries but the given ones. -/
theorem mem_entries_update {bindings : Bindings A} {entries : List (Text × A)} {entry : Text × A}
    (member : entry ∈ (bindings.update entries).entries) :
    entry ∈ bindings.entries ∨ entry ∈ entries := by
  induction entries generalizing bindings with
  | nil => exact .inl member
  | cons first rest inductionHypothesis =>
      have step : bindings.update (first :: rest) =
          (bindings.insert first.1 first.2).update rest := rfl
      rw [step] at member
      rcases inductionHypothesis member with inserted | later
      · rcases mem_put inserted with rfl | earlier
        · exact .inr List.mem_cons_self
        · exact .inl earlier
      · exact .inr (List.mem_cons_of_mem first later)

theorem mem_entries_ofList {entries : List (Text × A)} {entry : Text × A}
    (member : entry ∈ (ofList entries).entries) : entry ∈ entries :=
  (mem_entries_update member).resolve_left List.not_mem_nil

/-- An update with distinct new names appends its entries. -/
theorem entries_update_of_nodup {bindings : Bindings A} {entries : List (Text × A)}
    (distinct : ((bindings.entries ++ entries).map Prod.fst).Nodup) :
    (bindings.update entries).entries = bindings.entries ++ entries := by
  induction entries generalizing bindings with
  | nil => rw [List.append_nil]; rfl
  | cons entry rest inductionHypothesis =>
      have step : bindings.update (entry :: rest) =
          (bindings.insert entry.1 entry.2).update rest := rfl
      have absent : bindings.get? entry.1 = none := by
        apply find_eq_none_of_not_mem
        intro present
        rw [List.map_append, List.nodup_append] at distinct
        exact distinct.2.2 entry.1 present entry.1 (by simp) rfl
      have inserted := entries_insert_of_get?_eq_none absent entry.2
      have moved : bindings.entries ++ entry :: rest =
          (bindings.insert entry.1 entry.2).entries ++ rest := by
        rw [inserted, List.append_assoc]
        rfl
      rw [moved] at distinct
      rw [step, inductionHypothesis distinct, moved]

/-- Entries with distinct names stand in the bindings as they are given. -/
theorem entries_ofList_of_nodup {entries : List (Text × A)}
    (distinct : (entries.map Prod.fst).Nodup) : (ofList entries).entries = entries :=
  entries_update_of_nodup distinct

/-- Bindings are built again from their own entries. -/
theorem ofList_entries (bindings : Bindings A) : ofList bindings.entries = bindings :=
  eq_of_entries_eq (entries_ofList_of_nodup bindings.distinct)

/-- The bindings agree as mappings if they have equally many names and equal values. -/
def agrees [DecidableEq A] (first second : Bindings A) : Bool :=
  first.entries.length == second.entries.length &&
    first.entries.all fun entry => second.get? entry.1 == some entry.2

end Bindings

end UriExpansion
