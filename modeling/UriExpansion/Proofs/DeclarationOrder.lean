import Mathlib.Data.Prod.Lex
import Mathlib.Order.Bounds.Basic
import Mathlib.Order.WellFounded
import UriExpansion.Proofs.Declaration
import UriExpansion.Proofs.Malformed

namespace UriExpansion

section Places

variable {A : Type} {lists : List (List A)} {list : List A} {first second item : A}
  {place other : ℕ ×ₗ ℕ}

/-- The item occurs at a position of the list at a position. -/
def OccursAt (lists : List (List A)) (place : ℕ ×ₗ ℕ) (item : A) : Prop :=
  ∃ list, lists[(ofLex place).1]? = some list ∧ list[(ofLex place).2]? = some item

/-- The first place is the least one at which the item occurs. -/
def IsFirstPlace (lists : List (List A)) (place : ℕ ×ₗ ℕ) (item : A) : Prop :=
  IsLeast {place | OccursAt lists place item} place

theorem mem_flatten_iff_exists_occursAt :
    item ∈ lists.flatten ↔ ∃ place, OccursAt lists place item := by
  constructor
  · intro member
    obtain ⟨list, listed, inside⟩ := List.mem_flatten.mp member
    obtain ⟨outer, reached⟩ := List.mem_iff_getElem?.mp listed
    obtain ⟨inner, found⟩ := List.mem_iff_getElem?.mp inside
    exact ⟨toLex (outer, inner), list, reached, found⟩
  · rintro ⟨place, list, reached, found⟩
    exact List.mem_flatten.mpr ⟨list, List.mem_of_getElem? reached, List.mem_of_getElem? found⟩

theorem exists_isFirstPlace (member : item ∈ lists.flatten) :
    ∃ place, IsFirstPlace lists place item := by
  obtain ⟨place, occurs, least⟩ := wellFounded_lt.has_min {place | OccursAt lists place item}
    (mem_flatten_iff_exists_occursAt.mp member)
  exact ⟨place, occurs, fun other later => not_lt.mp (least other later)⟩

/-- A further list in front moves each place to the next list. -/
def nextPlace (place : ℕ ×ₗ ℕ) : ℕ ×ₗ ℕ :=
  toLex ((ofLex place).1 + 1, (ofLex place).2)

theorem nextPlace_le_nextPlace_iff : nextPlace place ≤ nextPlace other ↔ place ≤ other := by
  simp [nextPlace, Prod.Lex.le_iff]

theorem nextPlace_lt_nextPlace_iff : nextPlace place < nextPlace other ↔ place < other := by
  simp [nextPlace, Prod.Lex.lt_iff]

/-- A place is in the first list or moved from a later one. -/
theorem exists_eq_toLex_or_nextPlace (place : ℕ ×ₗ ℕ) :
    (∃ index, place = toLex (0, index)) ∨ ∃ later, place = nextPlace later := by
  obtain ⟨outer, inner⟩ := place
  cases outer with
  | zero => exact .inl ⟨inner, rfl⟩
  | succ outer => exact .inr ⟨toLex (outer, inner), rfl⟩

theorem occursAt_cons_toLex {index : Nat} :
    OccursAt (list :: lists) (toLex (0, index)) item ↔ list[index]? = some item := by
  simp [OccursAt]

theorem occursAt_cons_nextPlace :
    OccursAt (list :: lists) (nextPlace place) item ↔ OccursAt lists place item := by
  simp [OccursAt, nextPlace]

/-- A list without the item leaves the order of its places. -/
theorem isFirstPlace_cons_nextPlace (absent : item ∉ list) :
    IsFirstPlace (list :: lists) (nextPlace place) item ↔ IsFirstPlace lists place item := by
  constructor
  · rintro ⟨occurs, least⟩
    refine ⟨occursAt_cons_nextPlace.mp occurs, fun other later => ?_⟩
    exact nextPlace_le_nextPlace_iff.mp (least (occursAt_cons_nextPlace.mpr later))
  · rintro ⟨occurs, least⟩
    refine ⟨occursAt_cons_nextPlace.mpr occurs, fun other later => ?_⟩
    rcases exists_eq_toLex_or_nextPlace other with ⟨index, rfl⟩ | ⟨earlier, rfl⟩
    · exact absurd (List.mem_of_getElem? (occursAt_cons_toLex.mp later)) absent
    · exact nextPlace_le_nextPlace_iff.mpr (least (occursAt_cons_nextPlace.mp later))

variable [BEq A] [LawfulBEq A]

theorem idxOf_le_of_getElem? {index : Nat} (found : list[index]? = some item) :
    list.idxOf item ≤ index := by
  obtain ⟨inside, rfl⟩ := List.getElem?_eq_some_iff.mp found
  by_contra later
  have different := List.not_of_lt_findIdx (not_le.mp later)
  exact absurd different (by simp)

theorem isFirstPlace_cons_of_mem (member : item ∈ list) :
    IsFirstPlace (list :: lists) (toLex (0, list.idxOf item)) item := by
  refine ⟨occursAt_cons_toLex.mpr (List.getElem?_idxOf member), fun other occurs => ?_⟩
  rcases exists_eq_toLex_or_nextPlace other with ⟨index, rfl⟩ | ⟨later, rfl⟩
  · have bound := idxOf_le_of_getElem? (occursAt_cons_toLex.mp occurs)
    exact Prod.Lex.toLex_le_toLex.mpr (.inr ⟨rfl, bound⟩)
  · exact Prod.Lex.toLex_le_toLex.mpr (.inl (Nat.succ_pos _))

/-- The first place is in the first list if the item occurs there. -/
theorem isFirstPlace_cons (isFirst : IsFirstPlace (list :: lists) place item) :
    (item ∈ list ∧ place = toLex (0, list.idxOf item)) ∨
      item ∉ list ∧ ∃ later, place = nextPlace later ∧ IsFirstPlace lists later item := by
  by_cases member : item ∈ list
  · exact .inl ⟨member, isFirst.unique (isFirstPlace_cons_of_mem member)⟩
  · refine .inr ⟨member, ?_⟩
    rcases exists_eq_toLex_or_nextPlace place with ⟨index, rfl⟩ | ⟨later, rfl⟩
    · exact absurd (List.mem_of_getElem? (occursAt_cons_toLex.mp isFirst.1)) member
    · exact ⟨later, rfl, (isFirstPlace_cons_nextPlace member).mp isFirst⟩

/-- Items of joined lists stand in the order of their first places. -/
theorem idxOf_flatten_lt_iff (isFirst : IsFirstPlace lists place first)
    (otherIsFirst : IsFirstPlace lists other second) :
    lists.flatten.idxOf first < lists.flatten.idxOf second ↔ place < other := by
  induction lists generalizing place other with
  | nil =>
      obtain ⟨list, listed, _⟩ := isFirst.1
      exact absurd listed (by simp)
  | cons list rest inductionHypothesis =>
      rw [List.flatten_cons]
      rcases isFirstPlace_cons isFirst with ⟨member, rfl⟩ | ⟨absent, later, rfl, laterFirst⟩
      · have bound := List.idxOf_lt_length_of_mem member
        rw [List.idxOf_append_of_mem member]
        rcases isFirstPlace_cons otherIsFirst with
          ⟨otherMember, rfl⟩ | ⟨otherAbsent, otherLater, rfl, _⟩
        · rw [List.idxOf_append_of_mem otherMember, Prod.Lex.toLex_lt_toLex]
          simp
        · rw [List.idxOf_append_of_notMem otherAbsent, nextPlace, Prod.Lex.toLex_lt_toLex]
          exact iff_of_true (by omega) (.inl (Nat.succ_pos _))
      · rw [List.idxOf_append_of_notMem absent]
        rcases isFirstPlace_cons otherIsFirst with
          ⟨otherMember, rfl⟩ | ⟨otherAbsent, otherLater, rfl, otherFirst⟩
        · have bound := List.idxOf_lt_length_of_mem otherMember
          rw [List.idxOf_append_of_mem otherMember, nextPlace, Prod.Lex.toLex_lt_toLex]
          exact iff_of_false (by omega) (by simp)
        · rw [List.idxOf_append_of_notMem otherAbsent, Nat.add_lt_add_iff_left,
            inductionHypothesis laterFirst otherFirst, nextPlace_lt_nextPlace_iff]

end Places

namespace Template

/-- A template declares a name in a specification of a marker. -/
def DeclaresAt (template : Template) (place : ℕ ×ₗ ℕ) (name : Text) : Prop :=
  ∃ body, template.bodies[(ofLex place).1]? = some body ∧
    (Marker.declarations body)[(ofLex place).2]? = some name

/-- The first declaration of a name stands at the least place. -/
def FirstDeclaresAt (template : Template) (place : ℕ ×ₗ ℕ) (name : Text) : Prop :=
  IsLeast {place | template.DeclaresAt place name} place

variable {template : Template} {place : ℕ ×ₗ ℕ} {name : Text} {cache : Cache}

theorem declaresAt_iff_occursAt :
    template.DeclaresAt place name ↔
      OccursAt (template.bodies.map Marker.declarations) place name := by
  simp [DeclaresAt, OccursAt]

theorem firstDeclaresAt_iff_isFirstPlace :
    template.FirstDeclaresAt place name ↔
      IsFirstPlace (template.bodies.map Marker.declarations) place name := by
  simp only [FirstDeclaresAt, IsFirstPlace, declaresAt_iff_occursAt]

/-- A template lists each of its declared names once. -/
theorem outcome_variableNames_of_wellFormed (template : Template) (sound : cache.IsSound)
    (wellFormed : ∀ body ∈ template.bodies, Marker.isMalformed body = false) :
    (template.variableNames cache).outcome =
      .ok (template.bodies.map Marker.declarations).flatten.eraseDups := by
  have declared : ∀ body ∈ template.bodies,
      Marker.declared body = .ok (Marker.declarations body).eraseDups := by
    intro body member
    obtain ⟨marker, parsed⟩ := Marker.exists_parse (wellFormed body member)
    rw [Marker.declared, parsed, ← Marker.names_of_parse parsed]
    rfl
  have names : template.bodies.map (fun body => (Marker.declarations body).eraseDups) =
      (template.bodies.map Marker.declarations).map List.eraseDups := by
    rw [List.map_map, Function.comp_def]
  rw [template.outcome_variableNames sound, Traversal.mapM_of_forall_ok _ declared, names,
    ← eraseDups_flatten_map]
  rfl

/-- The listed names are ordered by marker and then by specification. -/
theorem variableNames_firstDeclaresAt (template : Template) (history : List Call)
    (wellFormed : ∀ body ∈ template.bodies, Marker.isMalformed body = false) :
    ∃ names, (template.variableNames (template.cacheAfter history)).outcome = .ok names ∧
      names.Nodup ∧
      (∀ name, name ∈ names ↔ ∃ body ∈ template.bodies, name ∈ Marker.declarations body) ∧
      (∀ name ∈ names, ∃ place, template.FirstDeclaresAt place name) ∧
      ∀ name other place otherPlace, template.FirstDeclaresAt place name →
        template.FirstDeclaresAt otherPlace other →
          (names.idxOf name < names.idxOf other ↔ place < otherPlace) := by
  have member (name : Text) : name ∈ (template.bodies.map Marker.declarations).flatten ↔
      ∃ body ∈ template.bodies, name ∈ Marker.declarations body := by
    simp
  refine ⟨_, template.outcome_variableNames_of_wellFormed (template.cacheAfter_isSound history)
    wellFormed, nodup_eraseDups _, fun name => ?_, fun name listed => ?_, ?_⟩
  · rw [List.mem_eraseDups, member]
  · obtain ⟨place, isFirst⟩ := exists_isFirstPlace (List.mem_eraseDups.mp listed)
    exact ⟨place, firstDeclaresAt_iff_isFirstPlace.mpr isFirst⟩
  · intro name other place otherPlace isFirst otherIsFirst
    rw [firstDeclaresAt_iff_isFirstPlace] at isFirst otherIsFirst
    rw [idxOf_eraseDups_lt_iff (mem_flatten_iff_exists_occursAt.mpr ⟨place, isFirst.1⟩)
      (mem_flatten_iff_exists_occursAt.mpr ⟨otherPlace, otherIsFirst.1⟩),
      idxOf_flatten_lt_iff isFirst otherIsFirst]

/-- The unknown operator of a later marker declares its variables as well. -/
theorem variableNames_firstDeclaresAt_unknown_operator :
    let template : Template := { text := "\x7bb,a,b=1\x7d\x7b-x|/|c,a\x7d".toList }
    (∀ body ∈ template.bodies, Marker.isMalformed body = false) ∧
      template.FirstDeclaresAt (toLex (0, 1)) ['a'] ∧
      template.FirstDeclaresAt (toLex (1, 0)) ['c'] ∧
      ∃ names,
        (template.variableNames (template.cacheAfter [.variableNames])).outcome = .ok names ∧
          names.Nodup ∧ ['c'] ∈ names ∧ names.idxOf ['a'] < names.idxOf ['c'] := by
  intro template
  have bodies : template.bodies.map Marker.declarations =
      [[['b'], ['a'], ['b']], [['c'], ['a']]] := by
    decide +kernel
  have wellFormed : ∀ body ∈ template.bodies, Marker.isMalformed body = false := by
    decide +kernel
  have earlier : template.FirstDeclaresAt (toLex (0, 1)) ['a'] := by
    rw [firstDeclaresAt_iff_isFirstPlace, bodies]
    have member : ['a'] ∈ [['b'], ['a'], ['b']] := by decide
    exact isFirstPlace_cons_of_mem member
  have later : template.FirstDeclaresAt (toLex (1, 0)) ['c'] := by
    rw [firstDeclaresAt_iff_isFirstPlace, bodies]
    have member : ['c'] ∈ [['c'], ['a']] := by decide
    exact (isFirstPlace_cons_nextPlace (by decide)).mpr (isFirstPlace_cons_of_mem member)
  obtain ⟨names, listed, distinct, declared, _, ordered⟩ :=
    template.variableNames_firstDeclaresAt [.variableNames] wellFormed
  exact ⟨wellFormed, earlier, later, names, listed, distinct,
    (declared ['c']).mpr (by decide +kernel), (ordered _ _ _ _ earlier later).mpr (by decide)⟩

end Template

end UriExpansion
